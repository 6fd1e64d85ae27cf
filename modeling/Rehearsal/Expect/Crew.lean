import Rehearsal.Expect.Content
import Rehearsal.Task

/-! # Expectations of a crew's work -/

namespace Rehearsal.Expect

/-- The crew left a text and none of its tasks failed. -/
def crewCompleted (output : CrewOutput) (message : Option String) : Verdict :=
  if output.raw.isEmpty then .error (.of message "Crew execution produced no output")
  else
    match output.firstError with
    | some error =>
      .error (.of message ("Crew execution failed with task error: " ++ error) none (some error))
    | none => .ok ()

def taskSequence (output : CrewOutput) (expected : List String) (message : Option String) :
    Verdict :=
  let actual := output.tasksOutput.map (·.description)
  if actual = expected then .ok ()
  else
    .error (.of message "Tasks were not executed in the expected sequence"
      (some (Text.quotedList expected)) (some (Text.quotedList actual)))

/-- The agents that left an output, each once. -/
def contributors (output : CrewOutput) : List String :=
  ((output.tasksOutput.map (·.agent)).filter fun agent => !agent.isEmpty).eraseDups

/-- At least so many agents took part. -/
def collaboration (output : CrewOutput) (minAgents : Nat) (message : Option String) : Verdict :=
  let count := (contributors output).length
  if minAgents ≤ count then .ok ()
  else
    .error (.of message
      ("Expected at least " ++ toString minAgents ++ " collaborating agents, found "
        ++ toString count)
      (some (toString minAgents)) (some (toString count)))

end Rehearsal.Expect
