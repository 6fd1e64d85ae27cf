import Rehearsal.Proofs.Runner.Classification

/-! # Units that could not be set up

A set-up that raises a fault keeps the test from being run, but neither its own tear-down nor any
later unit. The fault goes on record as what it is: an error as an error, and a violation as a
failure, although no test was run that could fail.
-/

namespace Rehearsal

variable {ι σ : Type}

/-- A class whose set-up ends in a certain way, and all else well. -/
def settingUp (ending : Ending) : TestClass Unit Unit where
  name := "Desk"
  category := .agent
  methods := ["test_answer"]
  construct state := (.ok (), state)
  setUp inst state := (ending, inst, state)
  run _ inst state := (.done, inst, state)
  tearDown inst state := (.done, inst, state)

/-- A set-up that raised a fault shows in no other course. -/
theorem Course.notSetUp_of_mem {course : Course} {method : String} {fault : Fault}
    (faulted : .setUp (.fault fault) ∈ course.calls method) :
    ∃ tearDown broken, course = .notSetUp (.fault fault) tearDown broken := by
  cases course with
  | notConstructed => simp [calls] at faulted
  | notSetUp setUp tearDown broken =>
      obtain rfl : setUp = .fault fault := by simpa [calls, eq_comm] using faulted
      exact ⟨tearDown, broken, rfl⟩
  | ran => simp [calls] at faulted

theorem Outcome.ofFault_error_iff (fault : Fault) :
    (∃ detail, ofFault fault = .error detail) ↔ ∃ problem, fault = .error problem := by
  cases fault <;> simp [ofFault]

namespace Runner

/-- Every unit of a suite lives a whole life. -/
theorem run_lifecycle (runner : Runner) (before after : List (TestUnit ι σ)) (unit : TestUnit ι σ)
    (skipped : List LoadFault) (state : σ) :
    Lifecycle unit.method (callsAt before.length
      (runner.run (Suite.logged ⟨before ++ unit :: after, skipped⟩) (state, [])).2.2) := by
  obtain ⟨course, -, -, calls, -, -⟩ := runner.run_at before after unit skipped state
  rw [calls]
  exact course.lifecycle unit.method

/-- A unit whose set-up raised a fault is torn down once without its test, its record is an error
exactly if the fault is one, and each later unit lives a whole life. -/
theorem run_after_broken_setUp (runner : Runner) (before after : List (TestUnit ι σ))
    (unit : TestUnit ι σ) (skipped : List LoadFault) (state : σ) (fault : Fault) :
    let suite : Suite ι σ := ⟨before ++ unit :: after, skipped⟩
    let records := (runner.run suite state).1.1.records
    let log := (runner.run suite.logged (state, [])).2.2
    .setUp (.fault fault) ∈ callsAt before.length log →
      (∃ tearDown, callsAt before.length log =
        [.construct none, .setUp (.fault fault), .tearDown tearDown]) ∧
      (∃ record, records[before.length]? = some record ∧ record.unitId = unit.id ∧
        record.outcome = .ofFault fault ∧
        ((∃ detail, record.outcome = .error detail) ↔ ∃ problem, fault = .error problem)) ∧
      records.length = suite.units.length ∧
      ∀ middle later last, after = middle ++ later :: last →
        Lifecycle later.method (callsAt (before.length + 1 + middle.length) log) := by
  intro suite records log faulted
  obtain ⟨course, earlier, others, calls, result, length⟩ :=
    runner.run_at before after unit skipped state
  rw [calls] at faulted
  obtain ⟨tearDown, broken, rfl⟩ := Course.notSetUp_of_mem faulted
  have told := Course.classified (.notSetUp (.fault fault) tearDown broken) unit
  have outcome := told.notSetUp rfl
  refine ⟨⟨tearDown, calls⟩, ⟨_, ?_, rfl, outcome, ?_⟩, ?_, ?_⟩
  · rw [← length]
    simp [records, suite, result, RunResult.ofRecords]
  · rw [outcome]
    exact Outcome.ofFault_error_iff fault
  · have each := congrArg List.length (runner.runUnits_records suite.units state)
    rwa [List.length_map, List.length_map] at each
  · rintro middle later last rfl
    have life := runner.run_lifecycle (before ++ unit :: middle) last later skipped state
    have place : (before ++ unit :: middle).length = before.length + 1 + middle.length := by
      simp only [List.length_append, List.length_cons]
      omega
    rw [place, List.append_assoc, List.cons_append] at life
    exact life

/-- An error in the set-up, between a unit that passes and one that is set up well again. -/
theorem run_after_broken_setUp_error :
    let suite : Suite Unit Unit :=
      ⟨[⟨settingUp .done, "test_answer"⟩] ++
        ⟨settingUp (.fault (.error "no model")), "test_answer"⟩ ::
          [⟨settingUp .done, "test_answer"⟩], []⟩
    let records := (run {} suite ()).1.1.records
    let log := (run {} suite.logged ((), [])).2.2
    .setUp (.fault (.error "no model")) ∈ callsAt 1 log ∧
      (∃ tearDown, callsAt 1 log =
        [.construct none, .setUp (.fault (.error "no model")), .tearDown tearDown]) ∧
      ∃ record, records[1]? = some record ∧ record.outcome = .error "no model" :=
  have told := run_after_broken_setUp {} [⟨settingUp .done, "test_answer"⟩]
    [⟨settingUp .done, "test_answer"⟩] ⟨settingUp (.fault (.error "no model")), "test_answer"⟩ [] ()
    (.error "no model") (by decide)
  ⟨by decide, told.1, told.2.1.imp fun _ record => ⟨record.1, record.2.2.1⟩⟩

/-- A violation that the set-up returns is on record as a failure: not every fault of a set-up is
an error. -/
theorem setUp_violation_not_error :
    ¬∀ (runner : Runner) (suite : Suite Unit Unit) (place : Nat) (fault : Fault),
      .setUp (.fault fault) ∈ callsAt place (runner.run suite.logged ((), [])).2.2 →
        ∃ record detail, (runner.run suite ()).1.1.records[place]? = some record ∧
          record.outcome = .error detail := by
  intro every
  obtain ⟨record, detail, present, error⟩ :=
    every {} ⟨[⟨settingUp (.fault (.failure { message := "The model must be named" })),
      "test_answer"⟩], []⟩ 0 (.failure { message := "The model must be named" }) (by decide)
  cases present
  cases error

end Runner

end Rehearsal
