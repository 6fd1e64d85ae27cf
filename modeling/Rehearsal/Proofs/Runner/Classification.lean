import Rehearsal.Proofs.Runner.Lifecycle

/-! # Telling failures from errors

What goes on record of a unit is told by how its hooks ended, hook by hook: a bad end of the test
itself by its kind, anything that is broken off in the test as a failure, anything else as an error.
The tear-down decides only over a test that passed. The summary of a run keeps the two apart.
-/

namespace Rehearsal

variable {ι σ : Type}

/-- Two lists that start the same text agree on it: what cannot go on the text is no part of it. -/
theorem prefix_of_prefix_append {α : Type} {word text rest : List α}
    (apart : ∀ c ∈ word, rest.head? ≠ some c) (starts : word <+: text ++ rest) : word <+: text := by
  rcases List.prefix_or_prefix_of_prefix starts (List.prefix_append text rest) with h | ⟨more, rfl⟩
  · exact h
  · cases more with
    | nil => simp
    | cons c more =>
        obtain ⟨others, rfl⟩ := (List.prefix_append_right_inj text).mp starts
        exact absurd rfl (apart c (by simp))

namespace Panic

/-- The panic was raised with a text that starts like that of a failed assertion. -/
def Asserts (panic : Panic) : Prop :=
  ∃ text, panic.text = some text ∧ "assertion".toList <+: text.toList

/-- The place of a panic, which its message ends with, does not make it one of an assertion. -/
theorem isAssertion_iff (panic : Panic) : panic.isAssertion = true ↔ panic.Asserts := by
  obtain ⟨text, location⟩ := panic
  have place : ((location.map fun place => " (at " ++ place ++ ")").getD "").toList.head? = none ∨
      ((location.map fun place => " (at " ++ place ++ ")").getD "").toList.head? = some ' ' := by
    cases location <;> simp
  rw [isAssertion, List.isPrefixOf_iff_prefix]
  cases text with
  | none =>
      simp [Asserts, message]
  | some text =>
      simp only [Asserts, message, Option.getD_some, String.toList_append, Option.some.injEq,
        exists_eq_left']
      constructor
      · refine prefix_of_prefix_append fun c member same => ?_
        rcases place with empty | space
        · rw [same] at empty
          cases empty
        · rw [same] at space
          cases space
          exact absurd member (by decide)
      · exact fun starts => starts.trans (List.prefix_append _ _)

end Panic

/-- The calls of the unit at a place, oldest first. -/
def callsAt (place : Nat) (log : CallLog) : List HookCall :=
  (log.filter (·.1 == place)).map (·.2)

section CallsAt

variable {place start : Nat}

theorem callsAt_append (place : Nat) (log log' : CallLog) :
    callsAt place (log ++ log') = callsAt place log ++ callsAt place log' := by
  simp [callsAt]

theorem callsAt_placed (place : Nat) (calls : List HookCall) :
    callsAt place (placed place calls) = calls := by
  simp [callsAt, placed, List.filter_map, Function.comp_def]

theorem callsAt_placed_other (apart : start ≠ place) (calls : List HookCall) :
    callsAt place (placed start calls) = [] := by
  simp [callsAt, placed, apart]

theorem callsAt_lifeLog_later (earlier : place < start) (lives : List (List HookCall)) :
    callsAt place (lifeLog start lives) = [] := by
  induction lives generalizing start with
  | nil => rfl
  | cons calls rest ih =>
      rw [lifeLog_cons, callsAt_append, callsAt_placed_other (Nat.ne_of_gt earlier),
        ih (Nat.lt_succ_of_lt earlier), List.append_nil]

/-- By induction on the lives: at each place of the log stands the life that is there. -/
theorem callsAt_lifeLog (start place : Nat) (lives : List (List HookCall)) :
    callsAt (start + place) (lifeLog start lives) = lives[place]?.getD [] := by
  induction lives generalizing start place with
  | nil => rfl
  | cons calls rest ih =>
      rw [lifeLog_cons, callsAt_append]
      cases place with
      | zero =>
          rw [Nat.add_zero, callsAt_placed, callsAt_lifeLog_later (Nat.lt_succ_self start)]
          simp
      | succ place =>
          have next : start + (place + 1) = start + 1 + place := by omega
          rw [callsAt_placed_other (by omega), next, ih, List.nil_append, List.getElem?_cons_succ]

end CallsAt

/-- What a record says of a unit, told by how the hooks of the unit ended. -/
structure Course.Classified (course : Course) (record : Record) : Prop where
  /-- A test fails by a violation that it returns, or by any panic. -/
  failure {body tearDown : Ending} (ran : course = .ran body tearDown) (detail : String) :
    record.outcome = .failure detail ↔
      (∃ violation, body = .fault (.failure violation) ∧ detail = violation.detail) ∨
        ∃ panic, body = .panic panic ∧ detail = panic.message
  /-- A test ends in an error that it returns, or by its tear-down if it passed. -/
  error {body tearDown : Ending} (ran : course = .ran body tearDown) (detail : String) :
    record.outcome = .error detail ↔
      body = .fault (.error detail) ∨
        body = .done ∧ ∃ fault, record.teardownFault = some fault ∧
          detail = "Teardown failed: " ++ fault
  success {body tearDown : Ending} (ran : course = .ran body tearDown) :
    record.outcome = .success ↔ body = .done ∧ tearDown = .done
  /-- Before the test, a panic is a failure if it is that of an assertion, and else an error. -/
  brokenOff {panic : Panic} (early : course = .notConstructed panic ∨
      ∃ tearDown broken, course = .notSetUp (.panic panic) tearDown broken) :
    ((∃ detail, record.outcome = .failure detail) ↔ panic.Asserts) ∧
      ((∃ detail, record.outcome = .error detail) ↔ ¬panic.Asserts)
  /-- A fault of the set-up decides, whatever becomes of the tear-down. -/
  notSetUp {fault : Fault} {tearDown : Ending} {broken}
    (faulted : course = .notSetUp (.fault fault) tearDown broken) :
    record.outcome = .ofFault fault
  /-- What the tear-down raised is kept, whatever the outcome. -/
  teardown : record.teardownFault.isSome ↔ ∃ ending, course.tearDown? = some ending ∧ ending ≠ .done

namespace Course

theorem outcome_toFault (panic : Panic) :
    ((∃ detail, Outcome.ofFault (panic.toFault .scaffold) = .failure detail) ↔ panic.Asserts) ∧
      ((∃ detail, Outcome.ofFault (panic.toFault .scaffold) = .error detail) ↔ ¬panic.Asserts) := by
  rw [← panic.isAssertion_iff]
  cases asserts : panic.isAssertion <;> simp [Panic.toFault, asserts, Outcome.ofFault]

/-- By cases on the course: its verdicts say what its hooks did. -/
theorem classified (course : Course) (unit : TestUnit ι σ) :
    course.Classified (unit.record course.verdicts) where
  failure := by
    rintro body tearDown rfl detail
    rcases body with _ | (_ | _) | _
    · cases ended : teardownFault (.ran .done tearDown) <;>
        simp [TestUnit.record, verdicts, Ending.fault?, outcomeOf, ended]
    all_goals
      simp [TestUnit.record, verdicts, Ending.fault?, outcomeOf, Outcome.ofFault, Panic.toFault,
        Violation.detail, Violation.line, eq_comm]
  error := by
    rintro body tearDown rfl detail
    rcases body with _ | (_ | _) | _
    · cases ended : teardownFault (.ran .done tearDown) <;>
        simp [TestUnit.record, verdicts, Ending.fault?, outcomeOf, ended, eq_comm]
    all_goals
      simp [TestUnit.record, verdicts, Ending.fault?, outcomeOf, Outcome.ofFault, Panic.toFault,
        eq_comm]
  success := by
    rintro body tearDown rfl
    rcases body with _ | (_ | _) | _
    · cases tearDown <;>
        simp [TestUnit.record, verdicts, teardownFault, tearDown?, Ending.fault?, outcomeOf]
    all_goals
      simp [TestUnit.record, verdicts, Ending.fault?, outcomeOf, Outcome.ofFault, Panic.toFault]
  brokenOff := by
    rintro panic (rfl | ⟨tearDown, broken, rfl⟩)
    · exact outcome_toFault panic
    · exact outcome_toFault panic
  notSetUp := by
    rintro fault tearDown broken rfl
    rfl
  teardown := by
    cases course with
    | notConstructed => simp [TestUnit.record, verdicts, teardownFault, tearDown?]
    | notSetUp _ tearDown | ran _ tearDown =>
        cases tearDown <;>
          simp [TestUnit.record, verdicts, teardownFault, tearDown?, Ending.fault?]

end Course

namespace Summary

variable (earlier later : List Record) (record : Record)

/-- A record has its own entry among the failures, or none, wherever it stands. -/
theorem failures_around :
    (ofRecords (earlier ++ record :: later)).failures = (ofRecords earlier).failures ++
      (match record.outcome with | .failure detail => [⟨record.unitId, detail⟩] | _ => []) ++
      (ofRecords later).failures := by
  simp only [ofRecords, List.filterMap_append, List.filterMap_cons, Record.failureEntry]
  cases record.outcome <;> simp

theorem errors_around :
    (ofRecords (earlier ++ record :: later)).errors = (ofRecords earlier).errors ++
      (match record.outcome with | .error detail => [⟨record.unitId, detail⟩] | _ => []) ++
      (ofRecords later).errors := by
  simp only [ofRecords, List.filterMap_append, List.filterMap_cons, Record.errorEntry]
  cases record.outcome <;> simp

end Summary

namespace Runner

/-- What a run makes of the unit at one place of a suite: from some state it takes a course, of
which its record is made, and the records of the others stand around it. -/
theorem run_takes (runner : Runner) (before after : List (TestUnit ι σ)) (unit : TestUnit ι σ)
    (skipped : List LoadFault) (state : σ) :
    ∃ (course : Course) (earlier later : List Record), (∃ here, unit.Takes here course) ∧
      callsAt before.length
          (runner.run (Suite.logged ⟨before ++ unit :: after, skipped⟩) (state, [])).2.2 =
        course.calls unit.method ∧
      (runner.run ⟨before ++ unit :: after, skipped⟩ state).1.1 =
        .ofRecords (earlier ++ unit.record course.verdicts :: later) ∧
      earlier.length = before.length := by
  obtain ⟨courses, each, records, same⟩ :=
    runner.runUnits_takes (before ++ unit :: after) 0 state []
  obtain ⟨first, others, rfl, sooner⟩ : ∃ first others, courses = first ++ others ∧
      before.length = first.length :=
    ⟨courses.take before.length, courses.drop before.length, by simp, by simp [← each.length_eq]⟩
  have rest := List.forall₂_drop before.length each
  rw [List.drop_left, sooner, List.drop_left] at rest
  obtain ⟨course, last, takes, -, rfl⟩ := List.forall₂_cons_left_iff.mp rest
  rw [List.zipWith_append sooner, List.zipWith_cons_cons] at records
  refine ⟨course, _, _, takes, ?_, congrArg RunResult.ofRecords records, by simp [sooner]⟩
  have log : (runner.run (Suite.logged ⟨before ++ unit :: after, skipped⟩) (state, [])).2.2 =
      (runner.runUnits (loggedFrom 0 (before ++ unit :: after)) (state, [])).2.2 := rfl
  rw [log, same, List.nil_append, ← Nat.zero_add before.length, callsAt_lifeLog,
    List.zipWith_append sooner, List.zipWith_cons_cons,
    List.getElem?_append_right (by simp [sooner])]
  simp [sooner]

theorem run_at (runner : Runner) (before after : List (TestUnit ι σ)) (unit : TestUnit ι σ)
    (skipped : List LoadFault) (state : σ) :
    ∃ (course : Course) (earlier later : List Record),
      callsAt before.length
          (runner.run (Suite.logged ⟨before ++ unit :: after, skipped⟩) (state, [])).2.2 =
        course.calls unit.method ∧
      (runner.run ⟨before ++ unit :: after, skipped⟩ state).1.1 =
        .ofRecords (earlier ++ unit.record course.verdicts :: later) ∧
      earlier.length = before.length := by
  obtain ⟨course, earlier, later, -, told⟩ := runner.run_takes before after unit skipped state
  exact ⟨course, earlier, later, told⟩

/-- A unit that takes the same course from every state takes it in a run as well. -/
theorem run_course (runner : Runner) (before after : List (TestUnit ι σ)) {unit : TestUnit ι σ}
    (skipped : List LoadFault) (state : σ) {course : Course}
    (takes : ∀ here, unit.Takes here course) :
    callsAt before.length
        (runner.run (Suite.logged ⟨before ++ unit :: after, skipped⟩) (state, [])).2.2 =
      course.calls unit.method ∧
    (runner.run ⟨before ++ unit :: after, skipped⟩ state).1.1.records[before.length]? =
      some (unit.record course.verdicts) := by
  obtain ⟨taken, earlier, later, ⟨here, own⟩, calls, result, length⟩ :=
    runner.run_takes before after unit skipped state
  obtain ⟨same, verdicts⟩ := own.unique (takes here)
  constructor
  · rw [calls, same]
  · rw [result, ← length, ← verdicts]
    simp [RunResult.ofRecords]

/-- Each unit of a suite has a record that says how its hooks ended, failures and errors apart, and
an entry of the summary with its detail if it failed, or in the other list if it ended in an error,
between the entries of the units before it and those of the units after it. -/
theorem run_tells_failures_from_errors (runner : Runner) (before after : List (TestUnit ι σ))
    (unit : TestUnit ι σ) (skipped : List LoadFault) (state : σ) :
    let suite : Suite ι σ := ⟨before ++ unit :: after, skipped⟩
    let result := (runner.run suite state).1.1
    ∃ (course : Course) (earlier later : List Record) (record : Record),
      callsAt before.length (runner.run suite.logged (state, [])).2.2 = course.calls unit.method ∧
      result.records = earlier ++ record :: later ∧ earlier.length = before.length ∧
      record.unitId = unit.id ∧ course.Classified record ∧
      result.summary.failures = (Summary.ofRecords earlier).failures ++
        (match record.outcome with | .failure detail => [⟨unit.id, detail⟩] | _ => []) ++
        (Summary.ofRecords later).failures ∧
      result.summary.errors = (Summary.ofRecords earlier).errors ++
        (match record.outcome with | .error detail => [⟨unit.id, detail⟩] | _ => []) ++
        (Summary.ofRecords later).errors := by
  obtain ⟨course, earlier, later, calls, result, length⟩ :=
    runner.run_at before after unit skipped state
  refine ⟨course, earlier, later, unit.record course.verdicts, calls, ?_, length, rfl,
    course.classified unit, ?_, ?_⟩ <;> rw [result]
  · rfl
  · exact Summary.failures_around earlier later (unit.record course.verdicts)
  · exact Summary.errors_around earlier later (unit.record course.verdicts)

end Runner

end Rehearsal
