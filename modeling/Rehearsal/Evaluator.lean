import Rehearsal.Error
import Rehearsal.Task

/-! # Evaluators

An evaluator scores an answer to a task against what was expected. It depends on nothing but its
request.
-/

namespace Rehearsal

structure EvaluationRequest where
  task : String
  expected : String
  actual : String
  deriving Repr, DecidableEq, Inhabited

/-- An evaluator answers a request or fails. -/
abbrev Evaluator := EvaluationRequest → Except Error Evaluation

namespace Evaluator

/-- Puts a request to an evaluator. With the answer comes what was asked. -/
def ask (evaluator : Evaluator) (request : EvaluationRequest) :
    Except Error Evaluation × List EvaluationRequest :=
  (evaluator request, [request])

/-- The evaluator that gives every answer the same score. -/
def fixed (evaluation : Evaluation) : Evaluator :=
  fun _ => .ok evaluation

def failing (problem : String) : Evaluator :=
  fun _ => .error (.evaluation problem)

end Evaluator

end Rehearsal
