import Rehearsal.Proofs.Case.Filling
import Rehearsal.Proofs.Crew.Completion

/-! # Scenarios

A scenario adds agents and tasks to a scaffold at once. Its tasks that name no role are dealt out to
its agents in turn, and a crew that is built then finds an agent for each of them: only a task whose
own role nobody has can fail.
-/

namespace Rehearsal

theorem mem_zip_of_getElem? {α β : Type} {as : List α} {bs : List β} {index : Nat} {a : α} {b : β}
    (first : as[index]? = some a) (second : bs[index]? = some b) : (a, b) ∈ as.zip bs := by
  apply List.mem_of_getElem?
  rw [List.getElem?_zip_eq_some]
  exact ⟨first, second⟩

namespace Crew

/-- The child of a task that is assigned to a role, in a run that found these agents and left those:
an agent of the role executed it if there is one. -/
structure Played (before after : List Agent) (inputs : Inputs) (task : Task) (role : String)
    (child : TaskOutput) : Prop where
  described : child.description = interpolate task.description inputs
  carried : child.agent = role
  fails : child.error ≠ none ↔ ∀ agent ∈ before, agent.role ≠ role
  executed : child.error = none → ∃ (place : Nat) (agent : Agent) (executed : List Execution),
    before[place]? = some agent ∧ agent.role = role ∧
      after[place]? = some (agent.after executed) ∧ ⟨child.description, child.raw⟩ ∈ executed

section Kickoff

variable {crew after : Crew} {inputs : Inputs} {output : CrewOutput} {role : String}

theorem placeOf_eq_none_iff :
    placeOf crew.roles (some role) = none ↔ ∀ agent ∈ crew.agents, agent.role ≠ role := by
  simp [placeOf, roles, List.findIdx?_eq_none_iff]

theorem Answers.executed_by {earlier : Work} {job : Job} {child : TaskOutput}
    (answers : Answers crew earlier job child) (assigned : job.task.agent = some role)
    (success : child.isSuccess = true) : ∃ place agent,
      placeOf crew.roles job.task.agent = some place ∧ crew.agents[place]? = some agent ∧
        child.agent = agent.role ∧ agent.role = role := by
  obtain ⟨place, agent, routed, stands, carried, -⟩ := answers.executed success
  have own := placeOf_role (assigned ▸ routed)
  rw [roles, List.getElem?_map, stands, Option.map_some, Option.some_inj] at own
  exact ⟨place, agent, routed, stands, carried, own⟩

section Child

variable (run : crew.kickoff inputs = .ok (output, after)) {index : Nat} {task : Task}
  (present : crew.tasks[index]? = some task)
include run present

theorem kickoff_child : ∃ earlier child, output.tasksOutput[index]? = some child ∧
    (⟨task, inputs⟩, child) ∈ (crew.jobs inputs).zip output.tasksOutput ∧
      Answers crew earlier ⟨task, inputs⟩ child := by
  obtain ⟨-, length, accounted⟩ := kickoff_ok run
  have inside : index < output.tasksOutput.length := by
    rw [length]
    exact (List.getElem?_eq_some_iff.mp present).1
  have answered := List.getElem?_eq_getElem inside
  have job : (crew.jobs inputs)[index]? = some ⟨task, inputs⟩ := by
    rw [jobs, List.getElem?_map, present, Option.map_some]
  have member := mem_zip_of_getElem? job answered
  obtain ⟨earlier, later, split⟩ := List.append_of_mem member
  exact ⟨earlier, _, answered, member, accounted.answers earlier _ _ later split⟩

/-- Where no task is made to fail, it is its role that tells what becomes of a task. -/
theorem kickoff_played (free : crew.failures = []) (assigned : task.agent = some role) :
    ∃ child, output.tasksOutput[index]? = some child ∧
      Played crew.agents after.agents inputs task role child := by
  obtain ⟨earlier, child, answered, member, answers⟩ := kickoff_child run present
  refine ⟨child, answered, answers.described, ?_, ?_, ?_⟩
  · cases success : child.isSuccess with
    | true =>
        obtain ⟨_, _, -, -, carried, own⟩ := answers.executed_by assigned success
        exact carried.trans own
    | false =>
        have paired := mem_zip_of_getElem? present answered
        have given := ((List.forall₂_iff_zip.mp (kickoff_failed run)).2 paired success).2
        rw [given, assigned, Option.getD_some]
  · rw [ne_eq, ← child.isSuccess_iff, Bool.not_eq_true, answers.fails, free, assigned,
      placeOf_eq_none_iff]
    simp [SortedMap.get?]
  · intro clean
    have success := child.isSuccess_iff.mpr clean
    obtain ⟨place, agent, routed, stands, -, own⟩ := answers.executed_by assigned success
    refine ⟨place, agent, Work.executedAt crew.roles place ((crew.jobs inputs).zip output.tasksOutput),
      stands, own, ?_, ?_⟩
    · rw [(kickoff_ok run).1, having, standing_getElem?, stands, Option.map_some]
    · rw [answers.described]
      exact Work.mem_executedAt member success routed

end Child

end Kickoff

end Crew

namespace CrewCase

/-- The role that a task of a scenario is assigned to, by its index among the tasks: its own, or
that of the agent of the scenario whose turn it is, or else that of the first agent of the scaffold
that the scenario is added to. -/
inductive Assigned (case : CrewCase) (agents : List Agent) (index : Nat) (task : Task) :
    Option String → Prop where
  | named {role : String} (own : task.agent = some role) : Assigned case agents index task (some role)
  | inTurn {agent : Agent} (free : task.agent = none)
      (turn : agents[index % agents.length]? = some agent) :
      Assigned case agents index task (some agent.role)
  | first {agent : Agent} (free : task.agent = none) (alone : agents = [])
      (head : case.agents.head? = some agent) : Assigned case agents index task (some agent.role)
  | nobody (free : task.agent = none) (alone : agents = []) (deserted : case.agents = []) :
      Assigned case agents index task none

/-- What adding a scenario to a scaffold returns and leaves. -/
structure Adds (case : CrewCase) (configs : List AgentConfig) (tasks : List Task)
    (agents : List Agent) (added : List Task) (after : CrewCase) : Prop where
  made : agents = configs.map Agent.ofConfig
  appended : after = { case with agents := case.agents ++ agents, tasks := case.tasks ++ added }
  length : added.length = tasks.length
  assigned : ∀ index task, tasks[index]? = some task → ∃ role,
    Assigned case agents index task role ∧ added[index]? = some { task with agent := role }

theorem addScenarioTasks_eq (agents : List Agent) (index : Nat) (tasks : List Task)
    (case : CrewCase) :
    let added := tasks.mapIdx fun place task =>
      { task with agent := case.assignee (scenarioRole agents (index + place) task) }
    addScenarioTasks agents index tasks case =
      (added, { case with tasks := case.tasks ++ added }) := by
  induction tasks generalizing index case with
  | nil => simp [addScenarioTasks]
  | cons task rest ih =>
      simp only [addScenarioTasks, ih, addTask, assignee, List.mapIdx_cons, Nat.add_zero,
        List.append_assoc, List.singleton_append, Nat.add_assoc, Nat.add_comm 1]

theorem assigned_assignee (case : CrewCase) (agents : List Agent) (index : Nat) (task : Task) :
    Assigned case agents index task
      (({ case with agents := case.agents ++ agents } : CrewCase).assignee
        (scenarioRole agents index task)) := by
  unfold assignee scenarioRole
  -- a role comes from the task, or from the scenario, or from the scaffold, in this order
  cases own : task.agent with
  | some role => exact .named own
  | none =>
      rw [Option.none_or]
      cases agents with
      | nil =>
          simp only [List.getElem?_nil, Option.map_none, Option.none_or, List.append_nil]
          cases head : case.agents with
          | nil => exact .nobody own rfl head
          | cons first others => exact .first own rfl (by rw [head, List.head?_cons])
      | cons agent others =>
          have inside : index % (agent :: others).length < (agent :: others).length :=
            Nat.mod_lt _ (Nat.succ_pos _)
          rw [List.getElem?_eq_getElem inside]
          exact .inTurn own (List.getElem?_eq_getElem inside)

theorem addScenario_adds (case : CrewCase) (configs : List AgentConfig) (tasks : List Task) :
    let scenario := case.addScenario configs tasks
    Adds case configs tasks scenario.1.1 scenario.1.2 scenario.2 := by
  simp only [addScenario, foldl_addAgent, addScenarioTasks_eq, Nat.zero_add]
  exact {
    made := rfl
    appended := rfl
    length := List.length_mapIdx
    assigned := by
      intro index task present
      refine ⟨_, assigned_assignee case _ index task, ?_⟩
      rw [List.getElem?_mapIdx, present, Option.map_some] }

/-- A role that a task does not name itself is that of an agent of the scaffold or the scenario. -/
theorem Assigned.role_mem {case : CrewCase} {agents : List Agent} {index : Nat} {task : Task}
    {role : String} (assigned : Assigned case agents index task (some role)) :
    task.agent = some role ∨ ∃ agent ∈ case.agents ++ agents, agent.role = role := by
  cases assigned with
  | named own => exact .inl own
  | inTurn _ turn =>
      exact .inr ⟨_, List.mem_append_right _ (List.mem_of_getElem? turn), rfl⟩
  | first _ _ head => exact .inr ⟨_, List.mem_append_left _ (List.mem_of_head? head), rfl⟩

/-- A run of the crew that was built after a scenario was added has a child for each of its tasks, and
one that failed is for a role that the task names itself. -/
def Enacted (case : CrewCase) (agents : List Agent) (tasks : List Task) (inputs : Inputs)
    (output : CrewOutput) (after : CrewCase) : Prop :=
  ∀ index task, tasks[index]? = some task → ∃ role child,
    Assigned case agents index task (some role) ∧
      output.tasksOutput[case.tasks.length + index]? = some child ∧
      Crew.Played (case.agents ++ agents) after.currentAgents inputs task role child ∧
      (child.error ≠ none → task.agent = some role)

theorem Adds.enacted {case scaffold : CrewCase} {configs : List AgentConfig} {tasks added : List Task}
    {agents : List Agent} (adds : Adds case configs tasks agents added scaffold)
    (someone : scaffold.agents ≠ []) {crew : Crew} {inputs : Inputs} {output : CrewOutput}
    (run : Crew.kickoff { agents := scaffold.agents, tasks := scaffold.tasks } inputs =
      .ok (output, crew)) {after : CrewCase} (left : after.currentAgents = crew.agents) :
    Enacted case agents tasks inputs output after := by
  intro index task present
  obtain ⟨assignee, assigned, stands⟩ := adds.assigned index task present
  rw [adds.appended] at someone run
  -- a task is assigned to nobody only if there is nobody, and then there is no crew
  obtain ⟨role, rfl⟩ : ∃ role, assignee = some role := by
    cases assigned with
    | named | inTurn | first => exact ⟨_, rfl⟩
    | nobody _ alone deserted => simp [alone, deserted] at someone
  have behind : (case.tasks ++ added)[case.tasks.length + index]? =
      some { task with agent := some role } := by
    rw [List.getElem?_append_right (Nat.le_add_right _ _), Nat.add_sub_cancel_left, stands]
  obtain ⟨child, answered, played⟩ := Crew.kickoff_played run behind rfl rfl
  rw [← left] at played
  refine ⟨role, child, assigned, answered, { played with }, ?_⟩
  intro failed
  rcases assigned.role_mem with own | ⟨agent, member, same⟩
  · exact own
  · exact absurd same (played.fails.mp failed agent member)

/-- Adding a scenario to a scaffold, in whatever state it is, appends an agent for each config and a
task for each task, with the role that it is assigned to. Once a crew is built of them, a run of it
has each task of the scenario executed by an agent of its role, unless it is a role that the task
names and nobody has. -/
theorem scenario_enacted (case : CrewCase) (configs : List AgentConfig) (tasks : List Task) :
    let scenario := case.addScenario configs tasks
    Adds case configs tasks scenario.1.1 scenario.1.2 scenario.2 ∧
      ∀ crew built, scenario.2.createCrew = .ok (crew, built) → ∀ inputs,
        ∃ output after, built.execute inputs = .ok (output, after) ∧
          Enacted case scenario.1.1 tasks inputs output after := by
  intro scenario
  have adds : Adds case configs tasks scenario.1.1 scenario.1.2 scenario.2 :=
    addScenario_adds case configs tasks
  refine ⟨adds, ?_⟩
  intro crew built done inputs
  obtain ⟨someone, something, rfl, rfl⟩ := createCrew_eq_ok_iff.mp done
  obtain ⟨output, crew, run, -⟩ :=
    Crew.kickoff_account ⟨scenario.2.agents, scenario.2.tasks, []⟩ inputs something
  refine ⟨output, { scenario.2 with crew := some crew, outputs := scenario.2.outputs ++ [output] },
    ?_, adds.enacted someone run rfl⟩
  simp only [execute, run]
  rfl

/-- The scaffold has an agent whose role an agent of the scenario has as well. Of the four tasks, which
are dealt out to two agents, one names a role that nobody has. -/
theorem scenario_enacted_shared_role :
    let case : CrewCase := {
      agents := [.ofRole "Writer" ["plan"]]
      tasks := [{ description := "Plan", agent := "Writer" }] }
    let configs : List AgentConfig := [{ role := "Writer" }, { role := "Editor" }]
    let tasks : List Task := [{ description := "Write" }, { description := "Audit", agent := "Auditor" },
      { description := "Rewrite" }, { description := "Edit \x7btopic\x7d" }]
    let scenario := case.addScenario configs tasks
    ∃ crew built, scenario.2.createCrew = .ok (crew, built) ∧
      ∃ output after, built.execute [("topic", "tea")] = .ok (output, after) ∧
        Enacted case scenario.1.1 tasks [("topic", "tea")] output after := by
  intro case configs tasks scenario
  exact ⟨_, _, rfl, (scenario_enacted case configs tasks).2 _ _ rfl [("topic", "tea")]⟩

end CrewCase

end Rehearsal
