import Rehearsal.Text.Quoted

/-! # Violations

What is reported when an expectation does not hold.
-/

namespace Rehearsal

/-- An expectation that does not hold. -/
structure Violation where
  message : String
  expected : Option String := none
  actual : Option String := none
  /-- What lies behind a violation whose own message was replaced. -/
  cause : Option String := none
  deriving Repr, DecidableEq, Inhabited

/-- Whether an expectation holds, and what is reported if not. -/
abbrev Verdict := Except Violation Unit

namespace Violation

/-- A violation with the message that was given, or else its own. -/
def of (given : Option String) (own : String) (expected actual : Option String := none) :
    Violation :=
  { message := given.getD own, expected, actual }

/-- A line for a part of a violation, if it has the part. -/
def line (title : String) : Option String → String
  | none => ""
  | some text => "\n  " ++ title ++ ": " ++ text

/-- The message with the lines of the parts that are present. -/
def detail (v : Violation) : String :=
  v.message ++ line "expected" v.expected ++ line "actual" v.actual ++ line "cause" v.cause

def shown (v : Violation) : String :=
  Text.record "AssertionViolation" [
    ("message", Text.quoted v.message),
    ("expected", Text.optionalQuoted v.expected),
    ("actual", Text.optionalQuoted v.actual),
    ("cause", Text.optionalQuoted v.cause)]

end Violation

end Rehearsal
