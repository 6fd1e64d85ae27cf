import Rehearsal.Result.Summary

/-! # What summaries add up to

The summary of a run that goes on with other records is that of its first part and that of the
others taken together. Each record is counted once by its outcome and at most once by its category,
and the entries of a summary are the records that failed or ended in an error, in order.
-/

namespace Rehearsal

namespace Outcome

def isFailure : Outcome → Bool
  | failure _ => true
  | _ => false

def isError : Outcome → Bool
  | error _ => true
  | _ => false

end Outcome

namespace Summary

/-- The counts and entries of a summary are those of two others taken together. -/
structure Joins (whole first second : Summary) : Prop where
  totalTests : whole.totalTests = first.totalTests + second.totalTests
  successes : whole.successes = first.successes + second.successes
  failureCount : whole.failureCount = first.failureCount + second.failureCount
  errorCount : whole.errorCount = first.errorCount + second.errorCount
  agentTests : whole.agentTests = first.agentTests + second.agentTests
  crewTests : whole.crewTests = first.crewTests + second.crewTests
  failures : whole.failures = first.failures ++ second.failures
  errors : whole.errors = first.errors ++ second.errors

/-- What a summary says of the records that it is made of. -/
structure Accounts (records : List Record) (summary : Summary) : Prop where
  total : summary.totalTests = records.length
  outcomes : summary.totalTests = summary.successes + summary.failureCount + summary.errorCount
  /-- Nothing is cut off when the tests of agents and crews are taken from all. -/
  categories : summary.agentTests + summary.crewTests ≤ summary.totalTests
  others : summary.totalTests - summary.agentTests - summary.crewTests =
    records.countP (·.category == .other)
  failures : (summary.failures.map fun entry => (entry.unitId, Outcome.failure entry.trace)) =
    (records.filter (·.outcome.isFailure)).map fun record => (record.unitId, record.outcome)
  errors : (summary.errors.map fun entry => (entry.unitId, Outcome.error entry.trace)) =
    (records.filter (·.outcome.isError)).map fun record => (record.unitId, record.outcome)
  /-- Nor is it when the failures and errors are taken from all, which leaves the successes. -/
  fits : summary.failureCount + summary.errorCount ≤ summary.totalTests
  rest : summary.totalTests - (summary.failureCount + summary.errorCount) = summary.successes
  rate : summary.successRate =
    if summary.totalTests = 0 then 0.0
    else summary.successes.toUInt64.toFloat / summary.totalTests.toUInt64.toFloat

theorem ofRecords_append (first second : List Record) :
    Joins (ofRecords (first ++ second)) (ofRecords first) (ofRecords second) := by
  constructor <;> simp [ofRecords]

/-- Where each thing is of exactly one of three kinds, the counts of the kinds make up all. -/
theorem length_eq_countP {α : Type} {p q r : α → Bool}
    (one : ∀ a, (if p a then 1 else 0) + (if q a then 1 else 0) + (if r a then 1 else 0) = 1)
    (as : List α) : as.length = as.countP p + as.countP q + as.countP r := by
  induction as with
  | nil => rfl
  | cons a rest ih =>
      have here := one a
      simp only [List.length_cons, List.countP_cons]
      omega

/-- Entries that each record of a kind has with its own outcome, and no other record, are the
records of this kind. -/
theorem map_filterMap_entry {entry : Record → Option FaultEntry} (kind : Outcome → Bool)
    {outcome : String → Outcome}
    (each : ∀ record, (entry record).map (fun entry => (entry.unitId, outcome entry.trace)) =
      if kind record.outcome then some (record.unitId, record.outcome) else none)
    (records : List Record) :
    (records.filterMap entry).map (fun entry => (entry.unitId, outcome entry.trace)) =
      (records.filter (kind ·.outcome)).map fun record => (record.unitId, record.outcome) := by
  rw [List.map_filterMap, ← List.filterMap_eq_map', List.filterMap_filter]
  exact congrArg (List.filterMap · records) (funext each)

theorem map_failures (records : List Record) :
    ((ofRecords records).failures.map fun entry => (entry.unitId, Outcome.failure entry.trace)) =
      (records.filter (·.outcome.isFailure)).map fun record => (record.unitId, record.outcome) := by
  apply map_filterMap_entry Outcome.isFailure
  intro record
  cases outcome : record.outcome <;> simp [Record.failureEntry, Outcome.isFailure, outcome]

theorem map_errors (records : List Record) :
    ((ofRecords records).errors.map fun entry => (entry.unitId, Outcome.error entry.trace)) =
      (records.filter (·.outcome.isError)).map fun record => (record.unitId, record.outcome) := by
  apply map_filterMap_entry Outcome.isError
  intro record
  cases outcome : record.outcome <;> simp [Record.errorEntry, Outcome.isError, outcome]

theorem totalTests_eq_outcomes (records : List Record) : (ofRecords records).totalTests =
    (ofRecords records).successes + (ofRecords records).failureCount +
      (ofRecords records).errorCount := by
  have failed : (ofRecords records).failureCount = records.countP (·.outcome.isFailure) := by
    rw [List.countP_eq_length_filter, ← List.length_map, ← map_failures, List.length_map]
    rfl
  have erred : (ofRecords records).errorCount = records.countP (·.outcome.isError) := by
    rw [List.countP_eq_length_filter, ← List.length_map, ← map_errors, List.length_map]
    rfl
  rw [failed, erred]
  apply length_eq_countP
  intro record
  cases record.outcome <;> rfl

theorem totalTests_eq_categories (records : List Record) : (ofRecords records).totalTests =
    (ofRecords records).agentTests + (ofRecords records).crewTests +
      records.countP (·.category == .other) := by
  apply length_eq_countP
  intro record
  cases record.category <;> rfl

theorem ofRecords_accounts (records : List Record) : Accounts records (ofRecords records) := by
  have outcomes := totalTests_eq_outcomes records
  have categories := totalTests_eq_categories records
  have rest : (ofRecords records).totalTests -
      ((ofRecords records).failureCount + (ofRecords records).errorCount) =
        (ofRecords records).successes := by omega
  exact {
    total := rfl
    outcomes
    categories := by omega
    others := by omega
    failures := map_failures records
    errors := map_errors records
    fits := by omega
    rest
    rate := by rw [← rest]; rfl }

/-- Summaries are taken together as the records are that they are made of, and each of them accounts
for all of its records. -/
theorem summaries_add_up :
    (∀ first second, Joins (ofRecords (first ++ second)) (ofRecords first) (ofRecords second)) ∧
      ∀ records, Accounts records (ofRecords records) :=
  ⟨ofRecords_append, ofRecords_accounts⟩

end Summary

end Rehearsal
