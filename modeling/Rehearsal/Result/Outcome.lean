import Rehearsal.Fault
import Rehearsal.Time.Timestamp

/-! # Outcomes

How a test ended, and the record that is kept of it.
-/

namespace Rehearsal

/-- How a test ended. -/
inductive Outcome where
  | success
  /-- An expectation did not hold. -/
  | failure (detail : String)
  /-- Anything else went wrong. -/
  | error (detail : String)
  deriving Repr, DecidableEq, Inhabited

namespace Outcome

def ofFault : Fault → Outcome
  | .failure violation => failure violation.detail
  | .error problem => error problem

def isSuccess : Outcome → Bool
  | success => true
  | _ => false

def detail? : Outcome → Option String
  | success => none
  | failure detail | error detail => some detail

def label : Outcome → String
  | success => "ok"
  | failure _ => "FAIL"
  | error _ => "ERROR"

end Outcome

/-- A span of time in whole seconds and the nanoseconds above them. -/
structure Duration where
  seconds : Nat
  nanoseconds : Nat
  deriving Repr, DecidableEq, Inhabited

namespace Duration

def zero : Duration := ⟨0, 0⟩

def perSecond : Nat := Nat.pow 10 9

def toSeconds (d : Duration) : Float :=
  d.seconds.toUInt64.toFloat + d.nanoseconds.toUInt64.toFloat / perSecond.toUInt64.toFloat

end Duration

/-- What is kept of a finished test. -/
structure Record where
  /-- The names of the class and the method, with a point between. -/
  unitId : String
  category : Category
  outcome : Outcome
  /-- What went wrong when the test was torn down. -/
  teardownFault : Option String := none
  /-- When the test finished. -/
  timestamp : Timestamp := .epoch
  duration : Duration := .zero
  deriving Repr, DecidableEq, Inhabited

end Rehearsal
