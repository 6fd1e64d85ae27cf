import Rehearsal.Result.Outcome

/-! # Summaries

Counts and lists over the records of a run.
-/

namespace Rehearsal

/-- A test that did not pass, with what went wrong. -/
structure FaultEntry where
  unitId : String
  trace : String
  deriving Repr, DecidableEq, Inhabited

/-- The share of tests that neither failed nor ended in an error; zero if there are none. -/
def successRate (total failures errors : Nat) : Float :=
  if total = 0 then 0.0
  else (total - (failures + errors)).toUInt64.toFloat / total.toUInt64.toFloat

/-- What a run amounts to. -/
structure Summary where
  totalTests : Nat
  successes : Nat
  failureCount : Nat
  errorCount : Nat
  agentTests : Nat
  crewTests : Nat
  successRate : Float
  /-- The tests that failed, in the order of the run. -/
  failures : List FaultEntry
  /-- The tests that ended in an error, in the order of the run. -/
  errors : List FaultEntry
  deriving Repr, Inhabited

namespace Record

def failureEntry (record : Record) : Option FaultEntry :=
  match record.outcome with
  | .failure trace => some ⟨record.unitId, trace⟩
  | _ => none

def errorEntry (record : Record) : Option FaultEntry :=
  match record.outcome with
  | .error trace => some ⟨record.unitId, trace⟩
  | _ => none

end Record

namespace Summary

def ofRecords (records : List Record) : Summary :=
  let failures := records.filterMap (·.failureEntry)
  let errors := records.filterMap (·.errorEntry)
  { totalTests := records.length
    successes := records.countP (·.outcome.isSuccess)
    failureCount := failures.length
    errorCount := errors.length
    agentTests := records.countP (·.category == .agent)
    crewTests := records.countP (·.category == .crew)
    successRate := Rehearsal.successRate records.length failures.length errors.length
    failures := failures
    errors := errors }

def wasSuccessful (summary : Summary) : Bool :=
  summary.failureCount == 0 && summary.errorCount == 0

def successPercentage (summary : Summary) : Float :=
  summary.successRate * 100.0

end Summary

/-- All that a run produced. -/
structure RunResult where
  records : List Record
  summary : Summary
  deriving Repr, Inhabited

namespace RunResult

def ofRecords (records : List Record) : RunResult :=
  ⟨records, .ofRecords records⟩

def exitCode (result : RunResult) : Nat :=
  if result.summary.wasSuccessful then 0 else 1

end RunResult

end Rehearsal
