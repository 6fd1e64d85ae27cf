import Rehearsal.Agent
import Rehearsal.Expect.Content

/-! # Expectations of the use of tools -/

namespace Rehearsal.Expect

def calledTool (tools : Toolbox) (agent : Agent) (name : String) (message : Option String) :
    Verdict :=
  if agent.usedTool tools name then .ok ()
  else
    .error (.of message
      ("Agent '" ++ agent.role ++ "' did not call expected tool '" ++ name ++ "'"))

def calledWith (tool : Tool) (call : ToolCall) (message : Option String) : Verdict :=
  if tool.wasCalledWith call then .ok ()
  else
    .error (.of message
      ("Tool '" ++ tool.name ++ "' was not called with the expected arguments")
      (some ("args=" ++ Json.shownList call.args ++ " kwargs=" ++ Json.shownNamed call.kwargs))
      (some (toString tool.callCount ++ " recorded call(s)")))

def callCount (tool : Tool) (expected : Nat) (message : Option String) : Verdict :=
  let actual := tool.callCount
  if actual = expected then .ok ()
  else
    .error (.of message
      ("Tool '" ++ tool.name ++ "' was called " ++ toString actual ++ " time(s), expected "
        ++ toString expected)
      (some (toString expected)) (some (toString actual)))

def executionCount (agent : Agent) (expected : Nat) (message : Option String) : Verdict :=
  let actual := agent.history.length
  if actual = expected then .ok ()
  else
    .error (.of message
      ("Agent '" ++ agent.role ++ "' executed " ++ toString actual ++ " task(s), expected "
        ++ toString expected)
      (some (toString expected)) (some (toString actual)))

end Rehearsal.Expect
