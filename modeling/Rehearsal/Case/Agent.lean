import Rehearsal.Error
import Rehearsal.Expect.Tools
import Rehearsal.Fault
import Rehearsal.Text.Lowercase

/-! # Tests of a single agent

The scaffold of a test of one agent: the agent, the tasks that were made for it and what it
answered, oldest first. An operation that needs an agent fails without one and then leaves the
scaffold as it was.
-/

namespace Rehearsal

structure AgentCase where
  agent : Option Agent := none
  tasks : List Task := []
  outputs : List TaskOutput := []
  deriving Repr, Inhabited

namespace AgentCase

def setUp (_ : AgentCase) : AgentCase :=
  {}

def tearDown (case : AgentCase) : AgentCase :=
  { case with agent := none, tasks := [], outputs := [] }

/-- The scaffold with an agent under test, in place of the one before. -/
def useAgent (case : AgentCase) (agent : Agent) : AgentCase :=
  { case with agent := some agent }

def updateAgent (case : AgentCase) (change : Agent → Agent) : AgentCase :=
  { case with agent := case.agent.map change }

def requireAgent (case : AgentCase) : Except Error Agent :=
  match case.agent with
  | some agent => .ok agent
  | none => .error (.setup "no agent available, create an agent first")

def createTask (case : AgentCase) (description : String)
    (expectedOutput : Option String := none) : Except Error (Task × AgentCase) := do
  let agent ← case.requireAgent
  let task : Task := { description, expectedOutput, agent := some agent.role }
  return (task, { case with tasks := case.tasks ++ [task] })

/-- Lets the agent under test execute a task, and keeps the output. -/
def execute (case : AgentCase) (task : Task) : Except Error (TaskOutput × AgentCase) := do
  let agent ← case.requireAgent
  let (output, agent) := agent.execute task
  return (output, { case with agent := some agent, outputs := case.outputs ++ [output] })

def lastOutput? (case : AgentCase) : Option TaskOutput :=
  case.outputs.getLast?

/-- The outputs whose text contains a text, whatever the case of its letters. -/
def outputsContaining (case : AgentCase) (text : String) : List TaskOutput :=
  case.outputs.filter fun output => Expect.containsText output.raw text false

def usedTool (case : AgentCase) (tools : Toolbox) (name : String) (message : Option String) :
    Except Fault Unit :=
  match case.agent with
  | none => .error (.error "no agent available to check tool usage")
  | some agent => (Expect.calledTool tools agent name message).mapError .failure

end AgentCase

end Rehearsal
