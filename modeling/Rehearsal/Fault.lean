import Rehearsal.Error
import Rehearsal.Violation

/-! # Faults of test code

A failure is an expectation that does not hold; everything else that goes wrong is an error. The
two are kept apart up to the report.
-/

namespace Rehearsal

/-- What a test is about. -/
inductive Category where
  /-- A single agent. -/
  | agent
  /-- A crew. -/
  | crew
  /-- Neither; such tests are not collected from files. -/
  | other
  deriving Repr, DecidableEq, Inhabited

namespace Category

def label : Category → String
  | agent => "agent"
  | crew => "crew"
  | other => "other"

def shown : Category → String
  | agent => "AgentTest"
  | crew => "CrewTest"
  | other => "Other"

end Category

/-- What a hook of a test raises. -/
inductive Fault where
  | failure (violation : Violation)
  | error (problem : String)
  deriving Repr, DecidableEq

namespace Fault

def ofError (e : Rehearsal.Error) : Fault :=
  .error e.message

/-- The fault of an error with all that it was wrapped in, outermost first. -/
def ofChain (chain : List String) : Fault :=
  .error (": ".intercalate chain)

/-- The text of the fault in reports. -/
def detail : Fault → String
  | failure violation => violation.detail
  | error problem => problem

def message : Fault → String
  | failure violation => "failure: " ++ violation.message
  | error problem => "error: " ++ problem

def shown : Fault → String
  | failure violation => "Failure(" ++ violation.shown ++ ")"
  | error problem => "Error(" ++ Text.quoted problem ++ ")"

end Fault

end Rehearsal
