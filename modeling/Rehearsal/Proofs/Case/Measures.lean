import Mathlib.Algebra.BigOperators.Group.Finset.Basic
import Rehearsal.Proofs.Case.Operations
import Rehearsal.Proofs.SortedMap

/-! # What measures of a run add up to

Three counts are taken of a run, each of something else: the tasks that the scaffold holds, the
outputs that the run left, and what the agents have on record. As long as no task is added after the
crew was built they agree: there is an output for each task, and one without an error for each
execution that an agent recorded.
-/

namespace Rehearsal

namespace CrewMetrics

/-- Counts of how often names were given, each under its name. -/
structure Tallies (names : List String) (counts : SortedMap Nat) : Prop where
  sorted : counts.Sorted
  own : ∀ name count, (name, count) ∈ counts ↔ name ∈ names ∧ count = names.count name
  total : (counts.map (·.2)).sum = names.length

section Tallies

variable {names : List String} {counts : SortedMap Nat}

theorem Tallies.getD_get? (tallies : Tallies names counts) (name : String) :
    (counts.get? name).getD 0 = names.count name := by
  by_cases member : name ∈ names
  · have own := (tallies.own name _).mpr ⟨member, rfl⟩
    rw [tallies.sorted.get?_eq_some_iff.mpr own, Option.getD_some]
  · cases found : counts.get? name with
    | none => exact (List.count_eq_zero.mpr member).symm
    | some count =>
        have own := (tallies.own name count).mp (tallies.sorted.get?_eq_some_iff.mp found)
        exact absurd own.1 member

theorem Tallies.tally (tallies : Tallies names counts) (name : String) :
    Tallies (names ++ [name]) (CrewMetrics.tally counts name) where
  sorted := tallies.sorted.put _ _
  own other count := by
    rw [CrewMetrics.tally, tallies.sorted.mem_put_iff, tallies.own, tallies.getD_get?]
    by_cases same : other = name
    · subst same
      simp
    · simp [same, Ne.symm same]
  total := by
    have entered := tallies.sorted.sum_put name (names.count name + 1)
    rw [tallies.getD_get?, tallies.total] at entered
    rw [CrewMetrics.tally, tallies.getD_get?, List.length_append, List.length_singleton]
    omega

theorem tallies_foldl (names : List String) : Tallies names (names.foldl tally []) := by
  induction names using List.reverseRecOn with
  | nil => exact ⟨.nil, by simp, rfl⟩
  | append_singleton names name ih =>
      rw [List.foldl_append]
      exact ih.tally name

end Tallies

/-- What the measures of an output say of its children. -/
structure Measures (output : CrewOutput) (metrics : CrewMetrics) : Prop where
  roles : ∀ role, role ∈ metrics.agentUtilization.map (·.1) ↔
    ∃ child ∈ output.tasksOutput, child.agent = role
  once : (metrics.agentUtilization.map (·.1)).Nodup
  own : ∀ role count, (role, count) ∈ metrics.agentUtilization →
    count = output.tasksOutput.countP (·.agent == role)
  total : (metrics.agentUtilization.map (·.2)).sum = output.tasksOutput.length
  successes : metrics.successfulTasks = (output.tasksOutput.filter (·.error.isNone)).length

theorem ofOutput_measures (totalTasks : Nat) (output : CrewOutput) :
    Measures output (ofOutput totalTasks output) := by
  have tallies : Tallies (output.tasksOutput.map (·.agent))
      (ofOutput totalTasks output).agentUtilization := by
    have all := tallies_foldl (output.tasksOutput.map (·.agent))
    rwa [List.foldl_map] at all
  exact {
    roles := by
      intro role
      simp [List.mem_map, tallies.own]
    once := List.pairwise_map.mpr (tallies.sorted.imp fun below => below.ne)
    own := by
      intro role count member
      rw [((tallies.own role count).mp member).2, List.count, List.countP_map]
      rfl
    total := by rw [tallies.total, List.length_map]
    successes := List.countP_eq_length_filter }

end CrewMetrics

namespace Crew

section Recorded

variable {crew : Crew} {work : Work} {job : Job} {child : TaskOutput}

/-- An execution is on record at one place if its task succeeded, and nowhere otherwise. -/
theorem Answers.sum_length_executedAt (answers : Answers crew work job child) :
    ∑ place ∈ Finset.range crew.agents.length,
        (Work.executedAt crew.roles place [(job, child)]).length =
      if child.isSuccess = true then 1 else 0 := by
  split
  · rename_i done
    obtain ⟨own, agent, routed, present, -⟩ := answers.executed done
    have inside : own ∈ Finset.range crew.agents.length :=
      Finset.mem_range.mpr (List.getElem?_eq_some_iff.mp present).1
    rw [Finset.sum_eq_single_of_mem own inside]
    · rw [Work.executedAt_own done routed, List.length_singleton]
    · intro place _ other
      rw [Work.executedAt_other routed (Ne.symm other), List.length_nil]
  · rename_i failed
    refine Finset.sum_eq_zero fun place _ => ?_
    rw [Work.executedAt_failed (Bool.eq_false_of_not_eq_true failed), List.length_nil]

theorem Accounted.sum_length_executedAt (accounted : Accounted crew work) :
    ∑ place ∈ Finset.range crew.agents.length, (work.executedAt crew.roles place).length =
      work.countP (·.2.isSuccess) := by
  induction accounted with
  | none => exact Finset.sum_eq_zero fun _ _ => rfl
  | more _ answers ih =>
      simp only [Work.executedAt_append, List.length_append, Finset.sum_add_distrib, ih,
        answers.sum_length_executedAt, List.countP_append, List.countP_singleton]

end Recorded

/-- Agents went on to record executions, each those of its place, so many of them in all. -/
structure Recorded (before after : List Agent) (recorded : Nat → List Execution) (total : Nat) :
    Prop where
  appended : after = before.mapIdx fun place agent => agent.after (recorded place)
  total : ∑ place ∈ Finset.range before.length, (recorded place).length = total

theorem sum_length_history (agents : List Agent) (recorded : Nat → List Execution) :
    ((agents.mapIdx fun place agent => agent.after (recorded place)).map (·.history.length)).sum =
      (agents.map (·.history.length)).sum +
        ∑ place ∈ Finset.range agents.length, (recorded place).length := by
  induction agents generalizing recorded with
  | nil => rfl
  | cons agent rest ih =>
      have grown : (agent.after (recorded 0)).history.length =
          agent.history.length + (recorded 0).length := List.length_append
      have others := ih fun place => recorded (place + 1)
      simp only [List.mapIdx_cons, List.map_cons, List.sum_cons, List.length_cons]
      rw [Finset.sum_range_succ', others, grown]
      omega

theorem Recorded.histories {before after : List Agent} {recorded : Nat → List Execution}
    {total : Nat} (records : Recorded before after recorded total) :
    (after.map (·.history.length)).sum = (before.map (·.history.length)).sum + total := by
  rw [records.appended, sum_length_history, records.total]

theorem kickoff_recorded {crew after : Crew} {inputs : Inputs} {output : CrewOutput}
    (run : crew.kickoff inputs = .ok (output, after)) : ∃ recorded,
      Recorded crew.agents after.agents recorded (output.tasksOutput.countP (·.isSuccess)) := by
  obtain ⟨left, length, accounted⟩ := kickoff_ok run
  let work := (crew.jobs inputs).zip output.tasksOutput
  refine ⟨fun place => Work.executedAt crew.roles place work, congrArg agents left, ?_⟩
  calc ∑ place ∈ Finset.range crew.agents.length, (Work.executedAt crew.roles place work).length
    _ = work.countP (·.2.isSuccess) := accounted.sum_length_executedAt
    _ = (work.map (·.2)).countP (·.isSuccess) := by rw [List.countP_map]; rfl
    _ = output.tasksOutput.countP (·.isSuccess) := by
      rw [List.map_snd_zip (by simp [jobs, length])]

end Crew

namespace CrewCase

/-- A scaffold whose crew has the tasks that were added, of which there are some. -/
def Current (case : CrewCase) : Prop :=
  ∃ crew, case.crew = some crew ∧ crew.tasks = case.tasks ∧ crew.tasks ≠ []

theorem Leaves.current {case next : CrewCase} {kind : Kind} {outputs : List CrewOutput}
    (leaves : Leaves case kind outputs next) (stays : kind ≠ .clear) (adds : kind.addsTask = false)
    (current : case.Current) : next.Current := by
  obtain ⟨crew, present, same, filled⟩ := current
  cases leaves with
  | cleared => exact absurd rfl stays
  | filled agents tasks =>
      have none : tasks = [] := by simpa [Kind.addsTask] using adds
      exact ⟨crew, present, by simp [none, same], filled⟩
  | built _ something => exact ⟨_, rfl, rfl, something⟩
  | unbuilt => exact ⟨crew, present, same, filled⟩
  | worked present' =>
      cases present.symm.trans present'
      exact ⟨_, rfl, same, filled⟩
  | changed absent => simp [absent] at present

theorem after_current {case : CrewCase} {operations : List Operation}
    (stays : ∀ operation ∈ operations, operation.kind ≠ .clear ∧ operation.kind.addsTask = false)
    (current : case.Current) : (case.after operations).Current := by
  induction operations generalizing case with
  | nil => exact current
  | cons operation rest ih =>
      obtain ⟨first, others⟩ := List.forall_mem_cons.mp stays
      exact ih others ((case.step_leaves operation).current first.1 first.2 current)

/-- What the measures of an output say of the run that left it. -/
structure Balances (before after : CrewCase) (output : CrewOutput) (metrics : CrewMetrics) :
    Prop where
  tasks : metrics.totalTasks = output.tasksOutput.length
  executions : ∃ recorded,
    Crew.Recorded before.currentAgents after.currentAgents recorded metrics.successfulTasks
  histories : (after.currentAgents.map (·.history.length)).sum =
    (before.currentAgents.map (·.history.length)).sum + metrics.successfulTasks

theorem Current.execute {case : CrewCase} (current : case.Current) (inputs : Inputs) :
    ∃ output after, case.execute inputs = .ok (output, after) ∧
      Balances case after output (after.measure output) := by
  obtain ⟨crew, present, same, filled⟩ := current
  obtain ⟨output, next, run, -⟩ := crew.kickoff_account inputs filled
  obtain ⟨recorded, records⟩ := Crew.kickoff_recorded run
  have staff : case.currentAgents = crew.agents := by rw [currentAgents, present]
  rw [← staff] at records
  refine ⟨output, { case with crew := some next, outputs := case.outputs ++ [output] }, ?_, ?_⟩
  · simp only [CrewCase.execute, present, run]
    rfl
  · exact {
      tasks := (congrArg List.length same.symm).trans (Crew.kickoff_ok run).2.1.symm
      executions := ⟨recorded, records⟩
      histories := records.histories }

/-- The measures of any output tell its children apart by their agents, whichever scaffold takes
them. Those of an output that a run of a crew returns agree with what the agents of the crew recorded
in the run and with the tasks that were added, if none was added since the crew was built. -/
theorem measures_balance :
    (∀ (case : CrewCase) (output : CrewOutput),
      CrewMetrics.Measures output (case.measure output)) ∧
    ∀ (case built : CrewCase) (crew : Crew) (operations : List Operation) (inputs : Inputs),
      case.createCrew = .ok (crew, built) →
      (∀ operation ∈ operations, operation.kind ≠ .clear ∧ operation.kind.addsTask = false) →
      ∃ output after, (built.after operations).execute inputs = .ok (output, after) ∧
        Balances (built.after operations) after output (after.measure output) := by
  refine ⟨fun case output => CrewMetrics.ofOutput_measures _ output, ?_⟩
  intro case built crew operations inputs done stays
  obtain ⟨-, something, rfl, rfl⟩ := createCrew_eq_ok_iff.mp done
  exact (after_current stays ⟨_, rfl, rfl, something⟩).execute inputs

/-- Two agents share a role, an agent is added after the crew was built, one task is made to fail
and another is for a role that nobody has. -/
theorem measures_balance_shared_role :
    let case : CrewCase := {
      agents := [.ofRole "Writer" ["draft", "text"], .ofRole "Editor", .ofRole "Writer"]
      tasks := [{ description := "Plan" }, { description := "Write", agent := "Writer" },
        { description := "Edit", agent := "Editor" },
        { description := "Audit", agent := "Auditor" }] }
    let operations : List Operation := [.execute [], .addAgent (.ofRole "Auditor"),
      .script "Edit" "no ink", .act "Writer" Agent.reset]
    ∃ crew built, case.createCrew = .ok (crew, built) ∧
      (∀ operation ∈ operations, operation.kind ≠ .clear ∧ operation.kind.addsTask = false) ∧
      ∃ output after, (built.after operations).execute [] = .ok (output, after) ∧
        Balances (built.after operations) after output (after.measure output) := by
  intro case operations
  have stays : ∀ operation ∈ operations,
      operation.kind ≠ .clear ∧ operation.kind.addsTask = false := by
    simp [operations, Operation.kind, Kind.addsTask]
  exact ⟨_, _, rfl, stays, measures_balance.2 case _ _ operations [] rfl stays⟩

end CrewCase

end Rehearsal
