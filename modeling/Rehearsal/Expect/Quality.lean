import Rehearsal.Decimal.Notation
import Rehearsal.Evaluator
import Rehearsal.Expect.Content
import Rehearsal.Fault

/-! # Expectations of the quality of an output

An evaluator scores the output. Only a score below the threshold is a violation; an answer
without a score is none.
-/

namespace Rehearsal

/-- Why an expectation of quality was not met. -/
inductive QualityFault where
  | violation (violation : Violation)
  /-- The evaluator failed. -/
  | evaluator (error : Error)
  deriving Repr

namespace QualityFault

def message : QualityFault → String
  | violation v => v.message
  | evaluator e => "Quality evaluator failed: " ++ e.message

def toFault : QualityFault → Fault
  | violation v => .failure v
  | evaluator e => .ofError e

end QualityFault

namespace Expect

/-- What is expected of a task that does not say it. -/
def defaultExpectation : String := "High quality response"

/-- What the evaluator is asked about an output of a task. -/
def qualityRequest (output : String) (task : Task) : EvaluationRequest :=
  ⟨task.description, task.expectedOutput.getD defaultExpectation, output⟩

/-- The score of an evaluation reaches a threshold, if there is a score. -/
def reaches (evaluation : Evaluation) (minScore : Float) (message : Option String) : Verdict :=
  match evaluation.score with
  | none => .ok ()
  | some score =>
    if score < minScore then
      .error (.of message
        ("Agent response quality below threshold. Score: " ++ Decimal.fixed 1 score ++ "/"
          ++ Decimal.plain minScore ++ ". Feedback: " ++ evaluation.feedback)
        (some (Decimal.plain minScore)) (some (Decimal.plain score)))
    else .ok ()

/-- What an answer of an evaluator comes to. -/
def judge (answer : Except Error Evaluation) (minScore : Float) (message : Option String) :
    Except QualityFault Evaluation :=
  match answer with
  | .error e => .error (.evaluator e)
  | .ok evaluation =>
    match reaches evaluation minScore message with
    | .error v => .error (.violation v)
    | .ok () => .ok evaluation

/-- Asks the evaluator whether an output of a task has at least this score. What was asked comes
    with it. -/
def consult (output : String) (task : Task) (minScore : Float) (evaluator : Evaluator)
    (message : Option String) : Except QualityFault Evaluation × List EvaluationRequest :=
  let (answer, asked) := evaluator.ask (qualityRequest output task)
  (judge answer minScore message, asked)

/-- The evaluator gives an output of a task at least this score. -/
def quality (output : String) (task : Task) (minScore : Float) (evaluator : Evaluator)
    (message : Option String) : Except QualityFault Evaluation :=
  (consult output task minScore evaluator message).1

end Expect

end Rehearsal
