import Rehearsal.Proofs.Case.Filling
import Rehearsal.Proofs.Crew.Kickoffs

/-! # The order in which a scaffold is filled

A task without a role is assigned to the first agent when it is added after it, and is only led
there by the crew when it is added before. The scaffolds differ then, but no run of their crews
does: an agent that comes later never takes the place of the first.
-/

namespace Rehearsal

/-- How a scaffold may hold a task: as it was given or, without a role, assigned to the agent that
is the first in the end. -/
inductive Held (roles : List String) (task : Task) : Task → Prop where
  | given : Held roles task task
  | first {role : String} (free : task.agent = none) (head : roles.head? = some role) :
      Held roles task { task with agent := some role }

namespace CrewCase

inductive Addition where
  | agent (agent : Agent)
  | task (task : Task)

def add (case : CrewCase) : Addition → CrewCase
  | .agent agent => case.addAgent agent
  | .task task => (case.addTask task.description task.expectedOutput task.agent).2

/-- Agents and tasks in one row, in which each keep their own order. -/
inductive Interleaves : List Agent → List Task → List Addition → Prop where
  | nil : Interleaves [] [] []
  | agent {agents tasks additions} (agent : Agent) : Interleaves agents tasks additions →
      Interleaves (agent :: agents) tasks (.agent agent :: additions)
  | task {agents tasks additions} (task : Task) : Interleaves agents tasks additions →
      Interleaves agents (task :: tasks) (.task task :: additions)

def executeAll (case : CrewCase) : List Inputs → Except Error (List CrewOutput × CrewCase)
  | [] => .ok ([], case)
  | inputs :: rest => do
    let (output, case) ← case.execute inputs
    let (outputs, case) ← case.executeAll rest
    return (output :: outputs, case)

/-- Fills a fresh scaffold, builds the crew and runs it. -/
def rehearse (additions : List Addition) (runs : List Inputs) :
    Except Error (List CrewOutput × CrewCase) := do
  let (_, case) ← (additions.foldl add {}).createCrew
  case.executeAll runs

/-- A task that is assigned when it is added goes to the agent that stays the first whoever is added
after it. -/
theorem held_assignee (case : CrewCase) (later : List Agent) (task : Task) :
    Held ((case.agents ++ later).map (·.role)) task
      { task with agent := case.assignee task.agent } := by
  unfold assignee
  cases given : task.agent with
  | some role =>
      rw [Option.some_or, ← given]
      exact .given
  | none =>
      rw [Option.none_or]
      cases head : case.agents.head? with
      | none =>
          rw [Option.map_none, ← given]
          exact .given
      | some first => exact .first given (by simp [List.head?_append, head])

theorem foldl_add {agents : List Agent} {tasks : List Task} {additions : List Addition}
    (interleaved : Interleaves agents tasks additions) (case : CrewCase) :
    ∃ held, List.Forall₂ (Held ((case.agents ++ agents).map (·.role))) tasks held ∧
      additions.foldl add case =
        { case with agents := case.agents ++ agents, tasks := case.tasks ++ held } := by
  -- by induction on the row, from whatever the scaffold was filled with before
  induction interleaved generalizing case with
  | nil => exact ⟨[], .nil, by simp⟩
  | agent agent _ ih =>
      obtain ⟨held, tasks, filled⟩ := ih (case.addAgent agent)
      simp only [addAgent, List.append_assoc, List.singleton_append] at tasks filled
      exact ⟨held, tasks, filled⟩
  | @task agents _ _ task _ ih =>
      obtain ⟨held, tasks, filled⟩ :=
        ih (case.addTask task.description task.expectedOutput task.agent).2
      simp only [addTask] at tasks filled
      refine ⟨{ task with agent := case.assignee task.agent } :: held, ?_, ?_⟩
      · exact .cons (case.held_assignee agents task) tasks
      · rw [List.foldl_cons, add, addTask, filled, List.append_assoc, List.singleton_append]

end CrewCase

namespace Crew

section Held

variable {roles : List String} {agents : List Agent} {tasks held : List Task}

theorem runTask_held {task other : Task} (same : Held roles task other)
    (known : agents.map (·.role) = roles) (template description : String) :
    runTask [] template { other with description } agents =
      runTask [] template { task with description } agents := by
  cases same with
  | given => rfl
  | first free head =>
      subst known
      cases agents with
      | nil => cases head
      -- without a role a task is led to the first place, and with the role of the first agent as well
      | cons leader others =>
          have anyone : placeOf ((leader :: others).map (·.role)) none = some 0 := rfl
          have first := placeOf_own anyone (List.head?_eq_getElem?.symm.trans head)
          rw [runTask_routed rfl first rfl, runTask_routed rfl (by rwa [free]) rfl]
          rfl

theorem runTasks_held (same : List.Forall₂ (Held roles) tasks held)
    (known : agents.map (·.role) = roles) (inputs : Inputs) :
    runTasks [] inputs held agents = runTasks [] inputs tasks agents := by
  induction same generalizing agents with
  | nil => rfl
  | @cons task other _ _ first _ ih =>
      have described : other.description = task.description := by cases first <;> rfl
      have others := ih ((runTask_roles [] task.description
        { task with description := interpolate task.description inputs } agents).trans known)
      simp only [runTasks, described, runTask_held first known, others]

theorem kickoffs_held (same : List.Forall₂ (Held roles) tasks held)
    (known : agents.map (·.role) = roles) (filled : tasks ≠ []) (runs : List Inputs) :
    ∃ outputs after,
      kickoffs { agents, tasks } runs = .ok (outputs, { agents := after, tasks }) ∧
        kickoffs { agents, tasks := held } runs =
          .ok (outputs, { agents := after, tasks := held }) := by
  induction runs generalizing agents with
  | nil => exact ⟨[], agents, rfl, rfl⟩
  | cons inputs rest ih =>
      have given : tasks.isEmpty = false := by simpa using filled
      have kept : held.isEmpty = false := by
        cases same with
        | nil => exact absurd rfl filled
        | cons => rfl
      have left : (runTasks [] inputs tasks agents).2.map (·.role) = roles := by
        rw [runTasks_roles, known]
      obtain ⟨outputs, after, ran, ran'⟩ := ih left
      simp only [kickoffs, kickoff, given, kept, runTasks_held same known, Bool.false_eq_true,
        if_false, bind, Except.bind, ran, ran', pure, Except.pure]
      exact ⟨_, after, rfl, rfl⟩

end Held

end Crew

namespace CrewCase

/-- A scaffold only keeps what the runs of its crew return and leave. -/
theorem executeAll_eq (runs : List Inputs) (case : CrewCase) (crew : Crew)
    (built : case.crew = some crew) :
    case.executeAll runs = (crew.kickoffs runs).map fun (outputs, after) =>
      (outputs, { case with crew := some after, outputs := case.outputs ++ outputs }) := by
  induction runs generalizing case crew with
  | nil => simp [executeAll, Crew.kickoffs, Except.map, ← built]
  | cons inputs rest ih =>
      simp only [executeAll, Crew.kickoffs, execute, built]
      cases crew.kickoff inputs with
      | error => rfl
      | ok result =>
          obtain ⟨output, next⟩ := result
          have others := ih { case with crew := some next, outputs := case.outputs ++ [output] }
            next rfl
          simp only [bind, Except.bind, pure, Except.pure, others]
          cases next.kickoffs rest with
          | error => rfl
          | ok => simp [Except.map]

section Filled

variable {agents : List Agent} {tasks : List Task} {additions : List Addition}

/-- What comes of a scaffold is told from its agents and tasks alone: it is what a crew does that
holds the tasks as they were given. -/
theorem rehearse_eq (interleaved : Interleaves agents tasks additions) (someone : agents ≠ [])
    (something : tasks ≠ []) (runs : List Inputs) {outputs : List CrewOutput} {after : List Agent}
    (ran : Crew.kickoffs { agents, tasks } runs = .ok (outputs, { agents := after, tasks })) :
    ∃ last, rehearse additions runs = .ok (outputs, last) ∧ last.outputs = outputs ∧
      last.currentAgents = after := by
  obtain ⟨held, same, filled⟩ := foldl_add interleaved {}
  rw [List.nil_append] at same
  simp only [List.nil_append] at filled
  obtain ⟨outputs', after', ran', kept⟩ := Crew.kickoffs_held same rfl something runs
  rw [ran, Except.ok.injEq] at ran'
  cases ran'
  have holds : held ≠ [] := by
    rintro rfl
    cases same
    exact something rfl
  refine ⟨{ crew := some { agents := after, tasks := held }, agents, tasks := held, outputs }, ?_,
    rfl, rfl⟩
  rw [rehearse, filled, createCrew_eq_ok_iff.mpr ⟨someone, holds, rfl, rfl⟩]
  simp only [bind, Except.bind]
  rw [executeAll_eq runs _ _ rfl, kept]
  rfl

end Filled

/-- However the agents and tasks are mixed when they are added, the crew is built, every run of it
returns the same, and the agents are left as the same, with what they executed. -/
theorem rehearse_interleaved {agents : List Agent} {tasks : List Task}
    {first second : List Addition} (someone : agents ≠ []) (something : tasks ≠ [])
    (mixed : Interleaves agents tasks first) (mixed' : Interleaves agents tasks second)
    (runs : List Inputs) :
    ∃ outputs last last',
      rehearse first runs = .ok (outputs, last) ∧ rehearse second runs = .ok (outputs, last') ∧
        last.outputs = last'.outputs ∧ last.currentAgents = last'.currentAgents := by
  have unassigned : List.Forall₂ (Held (agents.map (·.role))) tasks tasks :=
    List.forall₂_same.mpr fun _ _ => .given
  obtain ⟨outputs, after, ran, -⟩ := Crew.kickoffs_held unassigned rfl something runs
  obtain ⟨last, rehearsed, kept, agents⟩ := rehearse_eq mixed someone something runs ran
  obtain ⟨last', rehearsed', kept', agents'⟩ := rehearse_eq mixed' someone something runs ran
  exact ⟨outputs, last, last', rehearsed, rehearsed', kept.trans kept'.symm,
    agents.trans agents'.symm⟩

/-- Two agents share a role, and one task is for a role that nobody has. The other has no role, and the
scaffold that it is added to before the agents keeps it without one. -/
theorem rehearse_interleaved_shared_role :
    let agents : List Agent := [.ofRole "Writer" ["draft", "text"], .ofRole "Editor", .ofRole "Writer"]
    let plan : Task := { description := "Plan \x7btopic\x7d" }
    let audit : Task := { description := "Audit", agent := "Auditor" }
    let first : List Addition := .task plan :: agents.map .agent ++ [.task audit]
    let second : List Addition := agents.map .agent ++ [.task plan, .task audit]
    let runs : List Inputs := [[("topic", "rust")], []]
    (first.foldl add {}).tasks ≠ (second.foldl add {}).tasks ∧ ∃ outputs last last',
      rehearse first runs = .ok (outputs, last) ∧ rehearse second runs = .ok (outputs, last') ∧
        last.outputs = last'.outputs ∧ last.currentAgents = last'.currentAgents := by
  intro agents plan audit first second runs
  have mixed : Interleaves agents [plan, audit] first :=
    .task _ (.agent _ (.agent _ (.agent _ (.task _ .nil))))
  have mixed' : Interleaves agents [plan, audit] second :=
    .agent _ (.agent _ (.agent _ (.task _ (.task _ .nil))))
  constructor
  · decide
  · exact rehearse_interleaved (List.cons_ne_nil _ _) (List.cons_ne_nil _ _) mixed mixed' runs

end CrewCase

end Rehearsal
