import Rehearsal.Proofs.Crew.Routing
import Mathlib.Data.List.Forall2

/-! # Runs of a crew, one after another

A crew is run any number of times with any inputs. Every child of every run is accounted for by the
work before it: a task either fails for a reason that the crew as it was set up tells, or takes the
next response of the agent that its role leads to. Nothing else changes.
-/

namespace Rehearsal

namespace Crew

/-- Runs a crew once for each of the inputs. -/
def kickoffs (crew : Crew) : List Inputs → Except Error (List CrewOutput × Crew)
  | [] => .ok ([], crew)
  | inputs :: rest => do
    let (output, crew) ← crew.kickoff inputs
    let (outputs, crew) ← crew.kickoffs rest
    return (output :: outputs, crew)

def jobs (crew : Crew) (inputs : Inputs) : List Job :=
  crew.tasks.map fun task => ⟨task, inputs⟩

/-- The work of several runs that left these outputs. -/
def workOf (crew : Crew) (runs : List Inputs) (outputs : List CrewOutput) : Work :=
  (runs.flatMap crew.jobs).zip (outputs.flatMap (·.tasksOutput))

/-- The child of a job is what the crew makes of it after some earlier work. -/
structure Answers (crew : Crew) (earlier : Work) (job : Job) (child : TaskOutput) : Prop where
  described : child.description = job.description
  fails : child.isSuccess = false ↔
    crew.failures.get? job.task.description ≠ none ∨ crew.failures.get? job.description ≠ none ∨
      placeOf crew.roles job.task.agent = none
  template : ∀ error, crew.failures.get? job.task.description = some error →
    child.error = some error
  scripted : ∀ error, crew.failures.get? job.task.description = none →
    crew.failures.get? job.description = some error → child.error = some error
  /-- The agent has handed out one response for each of its executions so far. -/
  executed : child.isSuccess = true → ∃ place agent,
    placeOf crew.roles job.task.agent = some place ∧ crew.agents[place]? = some agent ∧
      child.agent = agent.role ∧
      agent.queue.responses[(agent.queue.taken + (earlier.executedAt crew.roles place).length)
        % agent.queue.responses.length]? = some child.raw

/-- Work in which every child is what the crew makes of its job after the work before. -/
inductive Accounted (crew : Crew) : Work → Prop where
  | none : Accounted crew []
  | more {work job child} : Accounted crew work → Answers crew work job child →
      Accounted crew (work ++ [(job, child)])

/-- Outputs and a crew that are what some runs of a crew come to. -/
structure Account (crew : Crew) (runs : List Inputs) (outputs : List CrewOutput) (after : Crew) :
    Prop where
  /-- One child for each task, in order. -/
  children : List.Forall₂ (fun inputs output =>
    output.tasksOutput.map (·.description) = (crew.jobs inputs).map (·.description)) runs outputs
  raw : ∀ output ∈ outputs, output.tasksOutput.getLast?.map (·.raw) = some output.raw
  answers : ∀ earlier job child later,
    crew.workOf runs outputs = earlier ++ (job, child) :: later → Answers crew earlier job child
  agents : after.agents = crew.standing (crew.workOf runs outputs)
  tasks : after.tasks = crew.tasks
  failures : after.failures = crew.failures

theorem Accounted.answers {crew : Crew} {work : Work} (accounted : Accounted crew work) :
    ∀ earlier job child later, work = earlier ++ (job, child) :: later →
      Answers crew earlier job child := by
  induction accounted with
  | none => intro earlier job child later split; simp at split
  | @more work last output _ answers ih =>
      intro earlier job child later split
      -- the child is the last one, or stands in the work before the last
      rcases List.eq_nil_or_concat later with rfl | ⟨rest, final, rfl⟩
      · obtain ⟨rfl, same⟩ := List.append_inj' split rfl
        cases same
        exact answers
      · rw [List.concat_eq_append, ← List.cons_append, ← List.append_assoc] at split
        exact ih earlier job child rest (List.append_inj' split rfl).1

section Step

variable (crew : Crew) (work : Work) (job : Job)

def runJob : TaskOutput × List Agent :=
  runTask crew.failures job.task.description { job.task with description := job.description }
    (crew.standing work)

theorem runJob_scripted {error : String}
    (scripted : scriptedFailure? crew.failures job.task.description job.description = some error) :
    crew.runJob work job =
      (.failed job.description (job.task.agent.getD "") error, crew.standing work) :=
  runTask_scripted scripted

theorem runJob_unrouted
    (free : scriptedFailure? crew.failures job.task.description job.description = none)
    (nowhere : placeOf crew.roles job.task.agent = none) :
    crew.runJob work job =
      (.failed job.description (job.task.agent.getD "")
        ("No agent available for role " ++ Text.quoted (job.task.agent.getD "")),
        crew.standing work) :=
  runTask_unrouted free (by rw [roles_standing]; exact nowhere)

theorem runJob_routed {place : Nat} {agent : Agent}
    (free : scriptedFailure? crew.failures job.task.description job.description = none)
    (routed : placeOf crew.roles job.task.agent = some place)
    (present : crew.agents[place]? = some agent) :
    let response := (agent.after (work.executedAt crew.roles place)).queue.current
    crew.runJob work job =
      ({ description := job.description, raw := response, agent := agent.role },
        (crew.standing work).set place
          (agent.after (work.executedAt crew.roles place ++ [⟨job.description, response⟩]))) := by
  have here : (crew.standing work)[place]? =
      some (agent.after (work.executedAt crew.roles place)) := by
    rw [standing_getElem?, present, Option.map_some]
  rw [runJob, runTask_routed free (by rw [roles_standing]; exact routed) here,
    Agent.execute_after]

theorem answers_scripted {error : String}
    (scripted : scriptedFailure? crew.failures job.task.description job.description = some error) :
    Answers crew work job (.failed job.description (job.task.agent.getD "") error) := by
  unfold scriptedFailure? at scripted
  cases byTemplate : crew.failures.get? job.task.description with
  | some found =>
      rw [byTemplate, Option.some_or, Option.some_inj] at scripted
      subst scripted
      exact {
        described := rfl
        fails := by simp [TaskOutput.failed, TaskOutput.isSuccess, byTemplate]
        template := by simp [TaskOutput.failed, byTemplate]
        scripted := by simp [byTemplate]
        executed := by simp [TaskOutput.failed, TaskOutput.isSuccess] }
  | none =>
      rw [byTemplate, Option.none_or] at scripted
      exact {
        described := rfl
        fails := by simp [TaskOutput.failed, TaskOutput.isSuccess, scripted]
        template := by simp [byTemplate]
        scripted := by simp [TaskOutput.failed, scripted]
        executed := by simp [TaskOutput.failed, TaskOutput.isSuccess] }

theorem answers_unrouted {error : String}
    (free : scriptedFailure? crew.failures job.task.description job.description = none)
    (nowhere : placeOf crew.roles job.task.agent = none) :
    Answers crew work job (.failed job.description (job.task.agent.getD "") error) := by
  obtain ⟨byTemplate, byDescription⟩ := Option.or_eq_none_iff.mp free
  exact {
    described := rfl
    fails := by simp [TaskOutput.failed, TaskOutput.isSuccess, nowhere]
    template := by simp [byTemplate]
    scripted := by simp [byDescription]
    executed := by simp [TaskOutput.failed, TaskOutput.isSuccess] }

theorem answers_routed {place : Nat} {agent : Agent}
    (free : scriptedFailure? crew.failures job.task.description job.description = none)
    (routed : placeOf crew.roles job.task.agent = some place)
    (present : crew.agents[place]? = some agent) :
    Answers crew work job
      { description := job.description
        raw := (agent.after (work.executedAt crew.roles place)).queue.current
        agent := agent.role } := by
  obtain ⟨byTemplate, byDescription⟩ := Option.or_eq_none_iff.mp free
  exact {
    described := rfl
    fails := by simp [TaskOutput.isSuccess, byTemplate, byDescription, routed]
    template := by simp [byTemplate]
    scripted := by simp [byDescription]
    executed := fun _ => ⟨place, agent, routed, present, rfl, agent.current_after _⟩ }

/-- What running one job does, whatever becomes of it: the child answers the job, and the agents
stand as the work together with the job leaves them. -/
theorem runJob_answers :
    Answers crew work job (crew.runJob work job).1 ∧
      (crew.runJob work job).2 = crew.standing (work ++ [(job, (crew.runJob work job).1)]) := by
  cases free : scriptedFailure? crew.failures job.task.description job.description with
  | some error =>
      rw [runJob_scripted crew work job free]
      exact ⟨answers_scripted crew work job free, (standing_failed crew work rfl).symm⟩
  | none =>
      cases routed : placeOf crew.roles job.task.agent with
      | none =>
          rw [runJob_unrouted crew work job free routed]
          exact ⟨answers_unrouted crew work job free routed, (standing_failed crew work rfl).symm⟩
      | some place =>
          have inside : place < crew.agents.length := by
            simpa [roles] using placeOf_lt routed
          have present := List.getElem?_eq_getElem inside
          rw [runJob_routed crew work job free routed present]
          refine ⟨answers_routed crew work job free routed present, ?_⟩
          rw [standing_routed crew work rfl routed present]

end Step

/-- By induction on the tasks, each of which finds the agents as the work so far left them. -/
theorem runTasks_accounted (crew : Crew) (inputs : Inputs) (tasks : List Task) (work : Work)
    (accounted : Accounted crew work) :
    ∃ children,
      runTasks crew.failures inputs tasks (crew.standing work) =
          (children, crew.standing (work ++ (tasks.map (Job.mk · inputs)).zip children)) ∧
        children.map (·.description) = (tasks.map (Job.mk · inputs)).map (·.description) ∧
        Accounted crew (work ++ (tasks.map (Job.mk · inputs)).zip children) := by
  induction tasks generalizing work with
  | nil => exact ⟨[], by simp [runTasks], rfl, by simpa using accounted⟩
  | cons task rest ih =>
      obtain ⟨answers, stand⟩ := crew.runJob_answers work ⟨task, inputs⟩
      obtain ⟨children, run, described, done⟩ := ih _ (accounted.more answers)
      refine ⟨(crew.runJob work ⟨task, inputs⟩).1 :: children, ?_, ?_, ?_⟩
      · have first : runTask crew.failures task.description
            { task with description := interpolate task.description inputs }
            (crew.standing work) = crew.runJob work ⟨task, inputs⟩ := rfl
        simp only [runTasks, first, stand, run, List.map_cons, List.zip_cons_cons,
          List.append_assoc, List.singleton_append]
      · simp only [List.map_cons, answers.described, described]
      · simpa using done

theorem kickoff_accounted (crew : Crew) (inputs : Inputs) (work : Work)
    (filled : crew.tasks ≠ []) (accounted : Accounted crew work) :
    ∃ output,
      (crew.having work).kickoff inputs =
          .ok (output, crew.having (work ++ (crew.jobs inputs).zip output.tasksOutput)) ∧
        output.tasksOutput.map (·.description) = (crew.jobs inputs).map (·.description) ∧
        output.tasksOutput.getLast?.map (·.raw) = some output.raw ∧
        Accounted crew (work ++ (crew.jobs inputs).zip output.tasksOutput) := by
  obtain ⟨children, run, described, done⟩ :=
    crew.runTasks_accounted inputs crew.tasks work accounted
  refine ⟨⟨(children.getLast?.map (·.raw)).getD "", children⟩, ?_, described, ?_, done⟩
  · have nonempty : crew.tasks.isEmpty = false := by simpa using filled
    simp only [kickoff, having, nonempty, run, Bool.false_eq_true, if_false]
    rfl
  · have nonempty : children ≠ [] := by
      rintro rfl
      simp at described
      exact filled described
    simp [List.getLast?_eq_getLast_of_ne_nil nonempty]

theorem kickoff_filled {crew after : Crew} {inputs : Inputs} {output : CrewOutput}
    (run : crew.kickoff inputs = .ok (output, after)) : crew.tasks ≠ [] := by
  intro empty
  simp [kickoff, empty] at run

/-- All that a run of a crew leaves, told by its output, which has a child for each job. -/
theorem kickoff_leaves {crew after : Crew} {inputs : Inputs} {output : CrewOutput}
    (run : crew.kickoff inputs = .ok (output, after)) :
    after = crew.having ((crew.jobs inputs).zip output.tasksOutput) ∧
      output.tasksOutput.map (·.description) = (crew.jobs inputs).map (·.description) ∧
      Accounted crew ((crew.jobs inputs).zip output.tasksOutput) := by
  obtain ⟨output', run', described, -, accounted⟩ :=
    crew.kickoff_accounted inputs [] (kickoff_filled run) .none
  rw [having_nil, run] at run'
  cases run'
  exact ⟨rfl, described, accounted⟩

theorem kickoff_ok {crew after : Crew} {inputs : Inputs} {output : CrewOutput}
    (run : crew.kickoff inputs = .ok (output, after)) :
    after = crew.having ((crew.jobs inputs).zip output.tasksOutput) ∧
      output.tasksOutput.length = crew.tasks.length ∧
      Accounted crew ((crew.jobs inputs).zip output.tasksOutput) := by
  obtain ⟨left, described, accounted⟩ := kickoff_leaves run
  exact ⟨left, by simpa [jobs] using congrArg List.length described, accounted⟩

theorem kickoff_account (crew : Crew) (inputs : Inputs) (filled : crew.tasks ≠ []) :
    ∃ output after, crew.kickoff inputs = .ok (output, after) ∧
      crew.Account [inputs] [output] after := by
  obtain ⟨output, run, described, raw, accounted⟩ := crew.kickoff_accounted inputs [] filled .none
  rw [having_nil, List.nil_append] at run
  have work : crew.workOf [inputs] [output] = (crew.jobs inputs).zip output.tasksOutput := by
    simp [workOf]
  rw [List.nil_append, ← work] at accounted
  rw [← work] at run
  exact ⟨output, _, run, {
    children := .cons described .nil
    raw := by simpa using raw
    answers := accounted.answers
    agents := rfl
    tasks := rfl
    failures := rfl }⟩

/-- By induction on the runs, each of which finds the crew as the work so far left it. -/
theorem kickoffs_accounted (crew : Crew) (runs : List Inputs) (work : Work)
    (filled : crew.tasks ≠ []) (accounted : Accounted crew work) :
    ∃ outputs,
      (crew.having work).kickoffs runs =
          .ok (outputs, crew.having (work ++ crew.workOf runs outputs)) ∧
        List.Forall₂ (fun inputs output =>
          output.tasksOutput.map (·.description) = (crew.jobs inputs).map (·.description))
          runs outputs ∧
        (∀ output ∈ outputs, output.tasksOutput.getLast?.map (·.raw) = some output.raw) ∧
        Accounted crew (work ++ crew.workOf runs outputs) := by
  induction runs generalizing work with
  | nil => exact ⟨[], by simp [kickoffs, workOf], .nil, by simp, by simpa [workOf] using accounted⟩
  | cons inputs rest ih =>
      obtain ⟨output, run, described, raw, done⟩ :=
        crew.kickoff_accounted inputs work filled accounted
      obtain ⟨outputs, runs, each, raws, all⟩ := ih _ done
      have split : crew.workOf (inputs :: rest) (output :: outputs) =
          (crew.jobs inputs).zip output.tasksOutput ++ crew.workOf rest outputs := by
        have lengths : (crew.jobs inputs).length = output.tasksOutput.length := by
          simpa using (congrArg List.length described).symm
        simp only [workOf, List.flatMap_cons, List.zip_append lengths]
      refine ⟨output :: outputs, ?_, .cons described each, ?_, ?_⟩
      · rw [split, ← List.append_assoc, kickoffs, run]
        simp only [bind, Except.bind, runs]
        rfl
      · exact List.forall_mem_cons.mpr ⟨raw, raws⟩
      · rwa [split, ← List.append_assoc]

/-- Any runs of a crew with tasks succeed, and all that they return and leave is accounted for. -/
theorem kickoffs_account (crew : Crew) (runs : List Inputs) (filled : crew.tasks ≠ []) :
    ∃ outputs after, crew.kickoffs runs = .ok (outputs, after) ∧
      Account crew runs outputs after := by
  obtain ⟨outputs, run, children, raw, accounted⟩ :=
    crew.kickoffs_accounted runs [] filled .none
  rw [having_nil, List.nil_append] at run
  exact ⟨outputs, _, run, {
    children, raw
    answers := Accounted.answers accounted
    agents := rfl
    tasks := rfl
    failures := rfl }⟩

/-- Two runs of a crew in which two agents share a role, one task has no role and one a role that
nobody has, and one is made to fail by its description in the second run. -/
theorem kickoffs_account_shared_role :
    let crew : Crew := {
      agents := [.ofRole "Writer" ["draft", "text"], .ofRole "Writer"]
      tasks := [{ description := "Plan \x7btopic\x7d" }, { description := "Write", agent := "Writer" },
        { description := "Edit", agent := "Editor" }]
      failures := [("Plan tea", "no time")] }
    let runs : List Inputs := [[("topic", "rust")], [("topic", "tea")]]
    crew.tasks ≠ [] ∧ ∃ outputs after, crew.kickoffs runs = .ok (outputs, after) ∧
      Account crew runs outputs after :=
  ⟨by simp, kickoffs_account _ _ (by simp)⟩

end Crew

end Rehearsal
