import Rehearsal.Agent
import Rehearsal.Fault

/-! # Fixtures

A fixture declares classes of tests as data: the agents, tools and tasks that a class works with,
and tests as lists of steps.
-/

namespace Rehearsal.Fixture

/-- What the tests of a class are set up for. -/
inductive Kind where
  | agent
  | crew
  /-- Anything else; such classes are not collected. -/
  | other
  deriving Repr, DecidableEq, Inhabited

namespace Kind

def category : Kind → Category
  | agent => .agent
  | crew => .crew
  | other => .other

def shown : Kind → String
  | agent => "Agent"
  | crew => "Crew"
  | other => "Other"

end Kind

inductive Check where
  | contains (text : String) (caseSensitive : Bool)
  | format (name : String)
  | pattern (text : String) (regex : Bool)
  /-- The crew left a text and none of its tasks failed. -/
  | crewCompleted
  /-- The tasks of the crew ran in this order. -/
  | taskSequence (tasks : List String)
  /-- At least so many agents took part. -/
  | collaboration (minAgents : Nat)
  /-- An agent, the first if none is named, used a tool. -/
  | agentCalledTool (agent : Option String) (tool : String)
  | toolCalledWith (tool : String) (call : ToolCall)
  | toolCallCount (tool : String) (count : Nat)
  /-- The evaluator gives the last output at least this score. -/
  | quality (minScore : Float)
  /-- An agent, the first if none is named, executed so many tasks. -/
  | executionCount (agent : Option String) (count : Nat)
  deriving Repr, Inhabited

/-- A check with the message that replaces its own. -/
structure Assertion where
  check : Check
  message : Option String := none
  deriving Repr, Inhabited

inductive Step where
  | execute (task : String) (expectedOutput : Option String)
  | kickoff (inputs : Inputs)
  | callTool (tool : String) (call : ToolCall)
  /-- A tool call is recorded on an agent, the first if none is named. -/
  | simulate (agent : Option String) (call : SimulatedCall)
  /-- All agents and tools forget what they did. -/
  | reset
  | assert (assertion : Assertion)
  deriving Repr, Inhabited

structure Test where
  name : String
  steps : List Step := []
  deriving Repr, Inhabited

structure Class where
  name : String
  kind : Kind
  agents : List AgentConfig := []
  tools : List ToolConfig := []
  tasks : List Task := []
  tests : List Test := []
  deriving Repr, Inhabited

structure Module where
  classes : List Class := []
  deriving Repr, Inhabited

end Rehearsal.Fixture
