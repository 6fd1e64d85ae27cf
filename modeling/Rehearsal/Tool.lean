import Rehearsal.Json.Value

/-! # Tools that are stood in for

A tool answers every call with a fixed value, or with what a function of the arguments gives, and
keeps the calls. Agents do not hold tools but handles to them, so that a call through one holder
is seen by all.
-/

namespace Rehearsal

open Json (Value Members)

/-- The arguments of one call. -/
structure ToolCall where
  args : List Value
  kwargs : Members
  deriving Repr, Inhabited

namespace ToolCall

/-- Whether two calls have the same arguments. -/
def same (a b : ToolCall) : Bool :=
  Value.sameItems a.args b.args && Value.sameMembers a.kwargs b.kwargs

end ToolCall

/-- How a tool is set up. -/
structure ToolConfig where
  name : String := "mock_tool"
  description : String := "A mock tool for testing"
  returnValue : Value := .text "Mock tool result"
  deriving Repr, Inhabited

/-- A tool with its calls, oldest first. -/
structure Tool extends ToolConfig where
  /-- Computes the result in place of the fixed value. -/
  sideEffect : Option (ToolCall → Value) := none
  calls : List ToolCall := []
  deriving Inhabited

namespace Tool

def ofConfig (config : ToolConfig) : Tool :=
  { config with }

def answer (tool : Tool) (call : ToolCall) : Value :=
  match tool.sideEffect with
  | some effect => effect call
  | none => tool.returnValue

def record (tool : Tool) (call : ToolCall) : Tool :=
  { tool with calls := tool.calls ++ [call] }

def callCount (tool : Tool) : Nat :=
  tool.calls.length

def wasCalled (tool : Tool) : Bool :=
  !tool.calls.isEmpty

def wasCalledWith (tool : Tool) (call : ToolCall) : Bool :=
  tool.calls.any (·.same call)

def reset (tool : Tool) : Tool :=
  { tool with calls := [] }

def shown (tool : Tool) : String :=
  Text.record "MockTool" [
    ("name", Text.quoted tool.name),
    ("return_value", tool.returnValue.shown),
    ("has_side_effect", toString tool.sideEffect.isSome),
    ("call_count", toString tool.callCount)]

end Tool

/-- All tools that exist; a handle is a place in the list. -/
abbrev Toolbox := List Tool

namespace Toolbox

def invoke (tools : Toolbox) (handle : Nat) (call : ToolCall) : Option (Value × Toolbox) :=
  (tools[handle]?).map fun tool => (tool.answer call, tools.set handle (tool.record call))

def reset (tools : Toolbox) (handle : Nat) : Toolbox :=
  tools.modify handle Tool.reset

/-- The first tool of a name. -/
def handleOf? (tools : Toolbox) (name : String) : Option Nat :=
  tools.findIdx? (·.name == name)

end Toolbox

end Rehearsal
