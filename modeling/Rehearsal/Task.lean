import Rehearsal.SortedMap
import Rehearsal.Text.Quoted

/-! # Tasks and their outputs

What an agent or a crew is asked to do, what came back, and how an evaluator scored it.
-/

namespace Rehearsal

/-- Named inputs that are filled into task descriptions. -/
abbrev Inputs := SortedMap String

/-- A unit of work for an agent. -/
structure Task where
  description : String
  /-- What a good answer looks like. -/
  expectedOutput : Option String := none
  /-- The role of the agent that the task is assigned to. -/
  agent : Option String := none
  deriving Repr, DecidableEq, Inhabited

/-- What one task produced. It failed when it carries an error. -/
structure TaskOutput where
  description : String
  raw : String
  agent : String
  error : Option String := none
  deriving Repr, DecidableEq, Inhabited

/-- What a run of a crew produced: a final text and the output of each task. -/
structure CrewOutput where
  raw : String
  tasksOutput : List TaskOutput := []
  deriving Repr, DecidableEq, Inhabited

/-- The answer of an evaluator: a score from 0 to 10, if it could give one, and its reasons. -/
structure Evaluation where
  score : Option Float
  feedback : String := ""
  deriving Repr, Inhabited

namespace Task

def shown (task : Task) : String :=
  Text.record "Task" [
    ("description", Text.quoted task.description),
    ("expected_output", Text.optionalQuoted task.expectedOutput),
    ("agent", Text.optionalQuoted task.agent)]

end Task

namespace TaskOutput

/-- An output that carries nothing but an error. -/
def failed (description agent error : String) : TaskOutput :=
  ⟨description, "", agent, some error⟩

def isSuccess (output : TaskOutput) : Bool :=
  output.error.isNone

def shown (output : TaskOutput) : String :=
  Text.record "TaskOutput" [
    ("description", Text.quoted output.description),
    ("raw", Text.quoted output.raw),
    ("agent", Text.quoted output.agent),
    ("error", Text.optionalQuoted output.error)]

end TaskOutput

namespace CrewOutput

/-- The error of the first task that carries one. -/
def firstError (output : CrewOutput) : Option String :=
  output.tasksOutput.findSome? (·.error)

/-- A run succeeded when it left a text and no task failed. -/
def isSuccessful (output : CrewOutput) : Bool :=
  !output.raw.isEmpty && output.firstError.isNone

end CrewOutput

end Rehearsal
