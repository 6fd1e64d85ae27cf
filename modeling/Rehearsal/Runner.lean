import Rehearsal.Log
import Rehearsal.Result.Summary
import Rehearsal.Suite

/-! # Running tests

A unit is run by the hooks of its class: an instance is constructed, set up, the test is run on it
and it is torn down. An instance that was constructed is always torn down; the test is run only if
the instance was set up. Units run one after another, and nothing that happens to one keeps another
from running.

A broken-off hook counts as a failed expectation in the test itself, and elsewhere if its text says
so; otherwise it is an error.
-/

namespace Rehearsal

/-- What a hook belongs to. -/
inductive Stage where
  /-- Construction, set-up and tear-down. -/
  | scaffold
  /-- The test itself. -/
  | body
  deriving Repr, DecidableEq

namespace Panic

/-- Whether the text of a panic is that of a failed assertion. -/
def isAssertion (panic : Panic) : Bool :=
  "assertion".toList.isPrefixOf panic.message.toList

/-- The fault that a broken-off hook counts as. -/
def toFault (stage : Stage) (panic : Panic) : Fault :=
  if stage = .body || panic.isAssertion then .failure { message := panic.message }
  else .error ("panicked: " ++ panic.message)

end Panic

namespace Ending

def fault? (stage : Stage) : Ending → Option Fault
  | done => none
  | fault raised => some raised
  | panic broken => some (broken.toFault stage)

end Ending

/-- How a unit ended, before it is put on record. -/
structure Verdicts where
  outcome : Outcome
  /-- What went wrong when the unit was torn down. -/
  teardownFault : Option String := none
  deriving Repr, DecidableEq

/-- The outcome of a unit whose test was run, from the fault of the test and that of the
    tear-down. The fault of the test goes first. -/
def outcomeOf (body : Option Fault) (teardown : Option String) : Outcome :=
  match body, teardown with
  | some fault, _ => .ofFault fault
  | none, some detail => .error ("Teardown failed: " ++ detail)
  | none, none => .success

namespace TestUnit

variable {ι σ : Type}

def tearDown (unit : TestUnit ι σ) (inst : ι) (state : σ) : Option String × σ :=
  let (ending, _, state) := unit.cls.tearDown inst state
  ((ending.fault? .scaffold).map (·.detail), state)

def execute (unit : TestUnit ι σ) (state : σ) : Verdicts × σ :=
  match unit.cls.construct state with
  | (.error panic, state) => ({ outcome := .ofFault (panic.toFault .scaffold) }, state)
  | (.ok inst, state) =>
    let (ending, inst, state) := unit.cls.setUp inst state
    match ending.fault? .scaffold with
    | some fault =>
      let (teardownFault, state) := unit.tearDown inst state
      ({ outcome := .ofFault fault, teardownFault }, state)
    | none =>
      let (ending, inst, state) := unit.cls.run unit.method inst state
      let (teardownFault, state) := unit.tearDown inst state
      ({ outcome := outcomeOf (ending.fault? .body) teardownFault, teardownFault }, state)

def record (unit : TestUnit ι σ) (verdicts : Verdicts) : Record :=
  { unitId := unit.id, category := unit.category, outcome := verdicts.outcome,
    teardownFault := verdicts.teardownFault }

end TestUnit

/-- Runs tests; the verbosity says what is logged. -/
structure Runner where
  /-- From 0, quiet, over 1, where runs are logged, to 2, where every unit is. -/
  verbosity : Nat := 0
  deriving Repr, DecidableEq

namespace Runner

variable {ι σ : Type}

def unitLog (runner : Runner) (record : Record) : List LogLine :=
  (match record.teardownFault with
    | some fault => [⟨.warning, "Teardown of " ++ record.unitId ++ " failed: " ++ fault⟩]
    | none => [])
  ++ if 2 ≤ runner.verbosity then [⟨.info, record.unitId ++ " ... " ++ record.outcome.label⟩]
    else []

def runUnit (runner : Runner) (unit : TestUnit ι σ) (state : σ) : (Record × List LogLine) × σ :=
  let (verdicts, state) := unit.execute state
  let record := unit.record verdicts
  ((record, runner.unitLog record), state)

def runMethod (runner : Runner) (cls : TestClass ι σ) (method : String) (state : σ) :
    (Record × List LogLine) × σ :=
  runner.runUnit ⟨cls, method⟩ state

def runUnits (runner : Runner) : List (TestUnit ι σ) → σ → (List Record × List LogLine) × σ
  | [], state => (([], []), state)
  | unit :: rest, state =>
    let ((record, log), state) := runner.runUnit unit state
    let ((records, logs), state) := runner.runUnits rest state
    ((record :: records, log ++ logs), state)

/-- The log line before a run of so many tests. -/
def openingLog (runner : Runner) (tests : Nat) : List LogLine :=
  if 0 < runner.verbosity then [⟨.info, "Running " ++ toString tests ++ " test(s)"⟩] else []

def closingLog (runner : Runner) (summary : Summary) : List LogLine :=
  if 0 < runner.verbosity then
    [⟨.info, "Ran " ++ toString summary.totalTests ++ " test(s): " ++ toString summary.successes
      ++ " passed, " ++ toString summary.failureCount ++ " failed, "
      ++ toString summary.errorCount ++ " errored"⟩]
  else []

def run (runner : Runner) (suite : Suite ι σ) (state : σ) : (RunResult × List LogLine) × σ :=
  let ((records, logs), state) := runner.runUnits suite.units state
  let result := RunResult.ofRecords records
  ((result, runner.openingLog suite.length ++ logs ++ runner.closingLog result.summary), state)

end Runner

end Rehearsal
