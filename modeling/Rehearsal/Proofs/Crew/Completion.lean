import Rehearsal.Expect.Crew
import Rehearsal.Proofs.Crew.Kickoffs

/-! # Runs that are completed

A crew is expected to leave a text and no error. The text of a run is that of its last task, and a
task that fails leaves none, so the two ways to fall short meet in one run: then the missing text is
reported, and the error is not.
-/

namespace Rehearsal

/-- A violation reports an error as it is. -/
structure Violation.Reports (violation : Violation) (error : String) : Prop where
  actual : violation.actual = some error
  message : Text.includes violation.message error = true

theorem TaskOutput.isSuccess_iff (child : TaskOutput) :
    child.isSuccess = true ↔ child.error = none :=
  Option.isNone_iff_eq_none

namespace CrewOutput

/-- The error of a task before which no other failed. -/
def FailsFirst (output : CrewOutput) (error : String) : Prop :=
  ∃ earlier child later, output.tasksOutput = earlier ++ child :: later ∧
    (∀ other ∈ earlier, other.isSuccess = true) ∧ child.error = some error

theorem firstError_eq_none_iff (output : CrewOutput) :
    output.firstError = none ↔ ∀ child ∈ output.tasksOutput, child.isSuccess = true := by
  simp only [firstError, List.findSome?_eq_none_iff, TaskOutput.isSuccess_iff]

theorem firstError_eq_some_iff (output : CrewOutput) (error : String) :
    output.firstError = some error ↔ output.FailsFirst error := by
  rw [firstError, List.findSome?_eq_some_iff]
  constructor
  · rintro ⟨earlier, child, later, split, failed, before⟩
    exact ⟨earlier, child, later, split, fun other inside =>
      other.isSuccess_iff.mpr (before other inside), failed⟩
  · rintro ⟨earlier, child, later, split, before, failed⟩
    exact ⟨earlier, child, later, split, failed, fun other inside =>
      other.isSuccess_iff.mp (before other inside)⟩

theorem exists_firstError {output : CrewOutput}
    (failed : ∃ child ∈ output.tasksOutput, child.isSuccess = false) :
    ∃ error, output.firstError = some error := by
  obtain ⟨child, inside, failed⟩ := failed
  rw [← Option.ne_none_iff_exists', ne_eq, firstError_eq_none_iff]
  intro all
  rw [all child inside] at failed
  cases failed

theorem isSuccessful_iff (output : CrewOutput) : output.isSuccessful = true ↔
    output.raw ≠ "" ∧ ∀ child ∈ output.tasksOutput, child.isSuccess = true := by
  rw [← firstError_eq_none_iff, isSuccessful, Bool.and_eq_true, Option.isNone_iff_eq_none,
    Bool.not_eq_true', Bool.eq_false_iff, ne_eq, ne_eq, String.isEmpty_iff]

end CrewOutput

namespace Expect

variable {output : CrewOutput} (message : Option String)

theorem crewCompleted_empty (empty : output.raw = "") :
    crewCompleted output message = .error (.of message "Crew execution produced no output") := by
  rw [crewCompleted, if_pos (String.isEmpty_iff.mpr empty)]

theorem crewCompleted_failed {error : String} (filled : output.raw ≠ "")
    (failed : output.firstError = some error) :
    crewCompleted output message =
      .error (.of message ("Crew execution failed with task error: " ++ error) none
        (some error)) := by
  rw [crewCompleted, if_neg (mt String.isEmpty_iff.mp filled), failed]

theorem crewCompleted_reports {error : String} (failed : output.firstError = some error) :
    ∃ violation, crewCompleted output none = .error violation ∧
      (violation.Reports error ↔ output.raw ≠ "") ∧
      (output.raw = "" → violation = { message := "Crew execution produced no output" }) := by
  by_cases empty : output.raw = ""
  · refine ⟨_, crewCompleted_empty none empty, ?_, fun _ => rfl⟩
    constructor
    · intro reports
      cases reports.actual
    · intro filled
      exact absurd empty filled
  · refine ⟨_, crewCompleted_failed none empty failed, ?_, fun none => absurd none empty⟩
    constructor
    · intro _
      exact empty
    · intro _
      have inside : Text.includes ("Crew execution failed with task error: " ++ error) error :=
        Text.hasPart_iff.mpr ⟨"Crew execution failed with task error: ".toList, [], by simp⟩
      exact ⟨rfl, inside⟩

theorem crewCompleted_eq_ok_iff :
    crewCompleted output message = .ok () ↔ output.isSuccessful = true := by
  by_cases empty : output.raw = ""
  · simp [crewCompleted_empty message empty, CrewOutput.isSuccessful, empty]
  · cases failed : output.firstError with
    | some error =>
        simp [crewCompleted_failed message empty failed, CrewOutput.isSuccessful, failed]
    | none => simp [crewCompleted, CrewOutput.isSuccessful, failed, empty]

end Expect

/-- Of two lists of one length, each entry of the second has a partner in the first. -/
theorem exists_mem_zip {α β : Type} {as : List α} {bs : List β} {b : β}
    (length : as.length = bs.length) (member : b ∈ bs) : ∃ a, (a, b) ∈ as.zip bs := by
  rw [← List.map_snd_zip (Nat.le_of_eq length.symm)] at member
  obtain ⟨⟨a, _⟩, paired, rfl⟩ := List.mem_map.mp member
  exact ⟨a, paired⟩

namespace Crew

section Failed

variable {failures : SortedMap String} {template : String} {task : Task} {agents : List Agent}

/-- A task that fails leaves nothing but its error and the role that it was given to. -/
theorem runTask_failed (failed : (runTask failures template task agents).1.isSuccess = false) :
    (runTask failures template task agents).1.raw = "" ∧
      (runTask failures template task agents).1.agent = task.agent.getD "" := by
  cases free : scriptedFailure? failures template task.description with
  | some error =>
      rw [runTask_scripted free]
      exact ⟨rfl, rfl⟩
  | none =>
      cases routed : placeOf (agents.map (·.role)) task.agent with
      | none =>
          rw [runTask_unrouted free routed]
          exact ⟨rfl, rfl⟩
      | some place =>
          have inside : place < agents.length := by simpa using placeOf_lt routed
          rw [runTask_routed free routed (List.getElem?_eq_getElem inside)] at failed
          cases failed

theorem runTasks_failed (inputs : Inputs) (tasks : List Task) (agents : List Agent) :
    List.Forall₂ (fun task child => child.isSuccess = false →
        child.raw = "" ∧ child.agent = task.agent.getD "")
      tasks (runTasks failures inputs tasks agents).1 := by
  induction tasks generalizing agents with
  | nil => exact .nil
  | cons task rest ih =>
      apply List.Forall₂.cons
      · intro failed
        exact runTask_failed failed
      · exact ih _

theorem runTasks_raw (inputs : Inputs) (tasks : List Task) (agents : List Agent) :
    ∀ child ∈ (runTasks failures inputs tasks agents).1, child.isSuccess = false →
      child.raw = "" := by
  intro child member failed
  obtain ⟨length, each⟩ := List.forall₂_iff_zip.mp (runTasks_failed inputs tasks agents)
  obtain ⟨task, paired⟩ := exists_mem_zip length member
  exact (each paired failed).1

end Failed

section Kickoff

variable {crew after : Crew} {inputs : Inputs} {output : CrewOutput}
  (run : crew.kickoff inputs = .ok (output, after))
include run

theorem kickoff_eq :
    output.tasksOutput = (runTasks crew.failures inputs crew.tasks crew.agents).1 ∧
      output.raw = (output.tasksOutput.getLast?.map (·.raw)).getD "" := by
  have filled : crew.tasks.isEmpty = false := by simpa using kickoff_filled run
  simp only [kickoff, filled, Bool.false_eq_true, if_false] at run
  cases run
  exact ⟨rfl, rfl⟩

theorem kickoff_failed :
    List.Forall₂ (fun task child => child.isSuccess = false →
      child.raw = "" ∧ child.agent = task.agent.getD "") crew.tasks output.tasksOutput := by
  rw [(kickoff_eq run).1]
  exact runTasks_failed inputs crew.tasks crew.agents

/-- The text of a run is that of its last task, if that did not fail. -/
theorem kickoff_raw_ne_iff : output.raw ≠ "" ↔
    ∃ last, output.tasksOutput.getLast? = some last ∧ last.isSuccess = true ∧ last.raw ≠ "" := by
  obtain ⟨children, raw⟩ := kickoff_eq run
  cases final : output.tasksOutput.getLast? with
  | none => simp [raw, final]
  | some last =>
      have inside := List.mem_of_getLast? final
      rw [children] at inside
      have blank := runTasks_raw inputs crew.tasks crew.agents last inside
      rw [final, Option.map_some, Option.getD_some] at raw
      rw [raw]
      constructor
      · intro text
        refine ⟨last, rfl, ?_, text⟩
        by_contra failed
        exact text (blank (Bool.eq_false_iff.mpr failed))
      · rintro ⟨_, same, -, text⟩
        cases same
        exact text

end Kickoff

/-- The first error of an output is reported as it is exactly if there is a text; after a run, if
the last task did not fail and left a text. -/
theorem first_error_reported (output : CrewOutput)
    (failed : ∃ child ∈ output.tasksOutput, child.isSuccess = false) :
    ∃ error violation, output.FailsFirst error ∧
      Expect.crewCompleted output none = .error violation ∧
      (violation.Reports error ↔ output.raw ≠ "") ∧
      (output.raw = "" → violation = { message := "Crew execution produced no output" }) ∧
      ∀ crew inputs after, kickoff crew inputs = .ok (output, after) →
        (violation.Reports error ↔ ∃ last, output.tasksOutput.getLast? = some last ∧
          last.isSuccess = true ∧ last.raw ≠ "") := by
  obtain ⟨error, first⟩ := CrewOutput.exists_firstError failed
  obtain ⟨violation, verdict, reports, bare⟩ := Expect.crewCompleted_reports first
  refine ⟨error, violation, (output.firstError_eq_some_iff error).mp first, verdict, reports, bare,
    ?_⟩
  intro crew inputs after run
  rw [reports]
  exact kickoff_raw_ne_iff run

theorem first_error_reported_text :
    let output : CrewOutput := {
      raw := "draft"
      tasksOutput := [.failed "Plan" "Planner" "no plan", .failed "Edit" "Editor" "no editor",
        { description := "Write", raw := "draft", agent := "Writer" }] }
    (∃ child ∈ output.tasksOutput, child.isSuccess = false) ∧
      ∃ error violation, output.FailsFirst error ∧
        Expect.crewCompleted output none = .error violation ∧
        (violation.Reports error ↔ output.raw ≠ "") :=
  have failed := ⟨.failed "Plan" "Planner" "no plan", by decide, by decide⟩
  have ⟨error, violation, first, verdict, reports, _⟩ := first_error_reported _ failed
  ⟨failed, error, violation, first, verdict, reports⟩

/-- The error of a last task is not reported. -/
theorem last_error_unreported :
    let crew : Crew := {
      agents := [.ofRole "Writer"]
      tasks := [{ description := "Write" }, { description := "Edit" }]
      failures := [("Edit", "no editor")] }
    ∃ output after violation, crew.kickoff [] = .ok (output, after) ∧
      output.FailsFirst "no editor" ∧ Expect.crewCompleted output none = .error violation ∧
      ¬violation.Reports "no editor" := by
  refine ⟨_, _, { message := "Crew execution produced no output" }, rfl, ?_, by decide, ?_⟩
  · exact (CrewOutput.firstError_eq_some_iff _ _).mp (by decide)
  · intro reports
    cases reports.actual

/-! The response of the last task is told by the crew as it was before the run. -/

/-- A job is not made to fail, and there is an agent for it. -/
structure Reaches (crew : Crew) (job : Job) : Prop where
  template : crew.failures.get? job.task.description = none
  description : crew.failures.get? job.description = none
  routed : ∃ place, placeOf crew.roles job.task.agent = some place

/-- The response that the agent of a task has for it after earlier tasks, each of which took one of
the agent that it went to. -/
inductive Replays (crew : Crew) (earlier : List Task) (task : Task) : String → Prop where
  | next {place : Nat} {agent : Agent} {response : String} :
      placeOf crew.roles task.agent = some place → crew.agents[place]? = some agent →
      agent.queue.responses[(agent.queue.taken +
          earlier.countP fun other => decide (placeOf crew.roles other.agent = some place))
        % agent.queue.responses.length]? = some response →
      Replays crew earlier task response

theorem Replays.unique {crew : Crew} {earlier : List Task} {task : Task} {first second : String}
    (one : crew.Replays earlier task first) (other : crew.Replays earlier task second) :
    first = second := by
  obtain ⟨routed, present, response⟩ := one
  obtain ⟨routed', present', response'⟩ := other
  obtain rfl := Option.some.inj (routed.symm.trans routed')
  obtain rfl := Option.some.inj (present.symm.trans present')
  exact Option.some.inj (response.symm.trans response')

theorem Answers.reaches_iff {crew : Crew} {earlier : Work} {job : Job} {child : TaskOutput}
    (answers : Answers crew earlier job child) : crew.Reaches job ↔ child.isSuccess = true := by
  rw [← Bool.not_eq_false, answers.fails]
  constructor
  · rintro ⟨template, description, place, routed⟩
    simp [template, description, routed]
  · intro unhindered
    simp only [ne_eq, not_or, not_not] at unhindered
    obtain ⟨template, description, routed⟩ := unhindered
    exact ⟨template, description, Option.ne_none_iff_exists'.mp routed⟩

theorem forall_mem_iff_of_forall₂ {α β : Type} {P : α → Prop} {Q : β → Prop} {as : List α}
    {bs : List β} (each : List.Forall₂ (fun a b => P a ↔ Q b) as bs) :
    (∀ a ∈ as, P a) ↔ ∀ b ∈ bs, Q b := by
  induction each with
  | nil => simp
  | cons first _ ih => simp only [List.forall_mem_cons, first, ih]

/-- Where no task fails, each took a response of the agent that it went to. -/
theorem length_executedAt_of_done {roles : List String} {place : Nat} {jobs : List Job}
    {children : List TaskOutput} (length : jobs.length = children.length)
    (done : ∀ child ∈ children, child.isSuccess = true) :
    (Work.executedAt roles place (jobs.zip children)).length =
      jobs.countP fun job => decide (placeOf roles job.task.agent = some place) := by
  let goes (job : Job) : Bool := decide (placeOf roles job.task.agent = some place)
  calc (Work.executedAt roles place (jobs.zip children)).length
      = (jobs.zip children).countP (goes ∘ Prod.fst) := by
        rw [Work.length_executedAt]
        apply List.countP_congr
        rintro ⟨job, child⟩ inside
        simp [goes, done child (List.of_mem_zip inside).2]
    _ = jobs.countP goes := by
        rw [← List.countP_map, List.map_fst_zip (Nat.le_of_eq length)]

section Children

variable {crew : Crew} {inputs : Inputs} {earlier : List Task} {last : Task}
  {children : List TaskOutput} (length : children.length = crew.tasks.length)
include length

variable (inputs) in
/-- The last child of a run is that of the last task, and the work before it that of the others. -/
theorem jobs_zip_split (tasks : crew.tasks = earlier ++ [last]) :
    ∃ before final, children = before ++ [final] ∧
      (earlier.map (Job.mk · inputs)).length = before.length ∧
      (crew.jobs inputs).zip children =
        (earlier.map (Job.mk · inputs)).zip before ++ [(⟨last, inputs⟩, final)] := by
  rcases List.eq_nil_or_concat children with rfl | ⟨before, final, rfl⟩
  · simp [tasks] at length
  · have same : (earlier.map (Job.mk · inputs)).length = before.length := by
      simpa [tasks] using length.symm
    refine ⟨before, final, List.concat_eq_append, same, ?_⟩
    rw [List.concat_eq_append, jobs, tasks, List.map_append, List.zip_append same]
    rfl

variable (accounted : Accounted crew ((crew.jobs inputs).zip children))
include accounted

theorem reaches_iff_done : (∀ job ∈ crew.jobs inputs, crew.Reaches job) ↔
    ∀ child ∈ children, child.isSuccess = true := by
  apply forall_mem_iff_of_forall₂
  refine List.forall₂_iff_zip.mpr ⟨by simp [jobs, length], ?_⟩
  intro job child inside
  obtain ⟨before, later, split⟩ := List.append_of_mem inside
  exact (accounted.answers before job child later split).reaches_iff

theorem replays_of_done (tasks : crew.tasks = earlier ++ [last])
    (done : ∀ child ∈ children, child.isSuccess = true) :
    ∃ final, children.getLast? = some final ∧ crew.Replays earlier last final.raw := by
  obtain ⟨before, final, rfl, same, work⟩ := jobs_zip_split inputs length tasks
  have answers := accounted.answers _ _ _ [] work
  obtain ⟨place, agent, routed, present, -, response⟩ := answers.executed (done final (by simp))
  rw [length_executedAt_of_done same fun child inside => done child (by simp [inside]),
    List.countP_map] at response
  exact ⟨final, List.getLast?_concat, .next routed present response⟩

end Children

/-- A crew with tasks completes a run exactly if no task is made to fail, each has an agent, and the
response that comes up for the last one is not empty. -/
theorem kickoff_completed_iff (crew : Crew) (inputs : Inputs) (earlier : List Task) (last : Task)
    (tasks : crew.tasks = earlier ++ [last]) :
    ∃ output after, crew.kickoff inputs = .ok (output, after) ∧
      (∀ message, Expect.crewCompleted output message = .ok () ↔ output.isSuccessful = true) ∧
      (output.isSuccessful = true ↔ (∀ job ∈ crew.jobs inputs, crew.Reaches job) ∧
        ∃ response, crew.Replays earlier last response ∧ response ≠ "") ∧
      ((∀ job ∈ crew.jobs inputs, crew.Reaches job) → crew.Replays earlier last output.raw) := by
  have filled : crew.tasks ≠ [] := by simp [tasks]
  obtain ⟨output, run, described, raw, accounted⟩ := crew.kickoff_accounted inputs [] filled .none
  rw [having_nil, List.nil_append] at run
  rw [List.nil_append] at accounted
  have length : output.tasksOutput.length = crew.tasks.length := by
    simpa [jobs] using congrArg List.length described
  have reached := reaches_iff_done length accounted
  have replayed : (∀ job ∈ crew.jobs inputs, crew.Reaches job) →
      crew.Replays earlier last output.raw := by
    intro reaches
    obtain ⟨final, present, replays⟩ := replays_of_done length accounted tasks (reached.mp reaches)
    rw [present, Option.map_some, Option.some_inj] at raw
    rwa [raw] at replays
  refine ⟨output, _, run, fun message => Expect.crewCompleted_eq_ok_iff message, ?_, replayed⟩
  rw [CrewOutput.isSuccessful_iff, ← reached]
  constructor
  · rintro ⟨text, reaches⟩
    exact ⟨reaches, output.raw, replayed reaches, text⟩
  · rintro ⟨reaches, response, replays, text⟩
    rw [replays.unique (replayed reaches)] at text
    exact ⟨text, reaches⟩

/-- The last task gets the second response of an agent, which is empty. -/
theorem kickoff_completed_iff_shared_role :
    let earlier : List Task := [{ description := "Plan" }, { description := "Edit", agent := "Editor" }]
    let last : Task := { description := "Write", agent := "Writer" }
    let crew : Crew := {
      agents := [.ofRole "Writer" ["draft", ""], .ofRole "Writer", .ofRole "Editor"]
      tasks := earlier ++ [last] }
    crew.tasks = earlier ++ [last] ∧ crew.Replays earlier last "" ∧
      ∃ output after, crew.kickoff [] = .ok (output, after) ∧
        (∀ message, Expect.crewCompleted output message = .ok () ↔ output.isSuccessful = true) ∧
        (output.isSuccessful = true ↔ (∀ job ∈ crew.jobs [], crew.Reaches job) ∧
          ∃ response, crew.Replays earlier last response ∧ response ≠ "") :=
  have ⟨output, after, run, verdict, completed, _⟩ := kickoff_completed_iff _ [] _ _ rfl
  ⟨rfl, .next rfl rfl rfl, output, after, run, verdict, completed⟩

end Crew

end Rehearsal
