import Rehearsal.Task
import Rehearsal.Tool

/-! # Agents that are stood in for

An agent answers each task with the next of its responses, which it repeats in turn, and keeps
what it executed.
-/

namespace Rehearsal

open Json (Value Members)

/-- Responses that are handed out in turn; there is always at least one. -/
structure ResponseQueue where
  responses : List String
  /-- How many responses were handed out since the queue was rewound. -/
  taken : Nat := 0
  nonempty : responses ≠ []
  deriving Repr, DecidableEq

namespace ResponseQueue

def defaultResponse : String := "Mock response"

/-- A rewound queue of responses, or of the default response if there are none. -/
def ofList (responses : List String) : ResponseQueue :=
  if h : responses = [] then ⟨[defaultResponse], 0, by simp⟩ else ⟨responses, 0, h⟩

instance : Inhabited ResponseQueue := ⟨ofList []⟩

/-- The response whose turn it is. -/
def current (queue : ResponseQueue) : String :=
  queue.responses.get ⟨queue.taken % queue.responses.length,
    Nat.mod_lt _ (List.length_pos_iff.2 queue.nonempty)⟩

def advance (queue : ResponseQueue) : ResponseQueue :=
  { queue with taken := queue.taken + 1 }

def add (queue : ResponseQueue) (response : String) : ResponseQueue :=
  ⟨queue.responses ++ [response], queue.taken, by simp⟩

def rewind (queue : ResponseQueue) : ResponseQueue :=
  { queue with taken := 0 }

end ResponseQueue

structure Execution where
  task : String
  response : String
  deriving Repr, DecidableEq, Inhabited

/-- A tool call that was recorded without calling a tool. -/
structure SimulatedCall where
  tool : String
  parameters : Members
  result : Value
  deriving Repr, Inhabited

/-- How an agent is set up; tools are named. -/
structure AgentConfig where
  role : String := "Mock Agent"
  goal : String := "Provide mock responses"
  backstory : String := "A mock agent for testing"
  responses : List String := []
  tools : List String := []
  deriving Repr, DecidableEq, Inhabited

/-- An agent with what it has done so far, oldest first. -/
structure Agent where
  role : String
  goal : String
  backstory : String
  queue : ResponseQueue
  history : List Execution := []
  toolCalls : List SimulatedCall := []
  /-- Handles of the attached tools. -/
  tools : List Nat := []
  deriving Repr, Inhabited

namespace Agent

def ofConfig (config : AgentConfig) : Agent :=
  { role := config.role, goal := config.goal, backstory := config.backstory,
    queue := .ofList config.responses }

def ofRole (role : String) (responses : List String := []) : Agent :=
  ofConfig { role, responses }

def nextResponse (agent : Agent) : String × Agent :=
  (agent.queue.current, { agent with queue := agent.queue.advance })

def execute (agent : Agent) (task : Task) : TaskOutput × Agent :=
  let (response, agent) := agent.nextResponse
  ({ description := task.description, raw := response, agent := agent.role },
    { agent with history := agent.history ++ [⟨task.description, response⟩] })

def addResponse (agent : Agent) (response : String) : Agent :=
  { agent with queue := agent.queue.add response }

def setResponses (agent : Agent) (responses : List String) : Agent :=
  { agent with queue := .ofList responses }

def simulate (agent : Agent) (call : SimulatedCall) : Agent :=
  { agent with toolCalls := agent.toolCalls ++ [call] }

def attach (agent : Agent) (handle : Nat) : Agent :=
  { agent with tools := agent.tools ++ [handle] }

/-- Whether the agent used a tool of this name: a call was recorded, or an attached tool was
    called. -/
def usedTool (agent : Agent) (tools : Toolbox) (name : String) : Bool :=
  agent.toolCalls.any (·.tool == name)
    || agent.tools.any fun handle =>
      match tools[handle]? with
      | some tool => tool.name == name && tool.wasCalled
      | none => false

/-- The agent as it was before its first task: nothing recorded and the queue rewound. -/
def reset (agent : Agent) : Agent :=
  { agent with history := [], toolCalls := [], queue := agent.queue.rewind }

end Agent

/-- Sets up an agent together with tools that are attached to it. The tools are added to those
    that exist. -/
def Toolbox.equip (tools : Toolbox) (config : AgentConfig) (added : List ToolConfig) :
    Agent × Toolbox :=
  ({ Agent.ofConfig config with tools := List.range' tools.length added.length },
    tools ++ added.map Tool.ofConfig)

end Rehearsal
