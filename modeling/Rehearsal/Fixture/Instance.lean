import Rehearsal.Case.Agent
import Rehearsal.Case.Class
import Rehearsal.Case.Crew
import Rehearsal.Expect.Crew
import Rehearsal.Expect.Format
import Rehearsal.Expect.Quality
import Rehearsal.Expect.Tools
import Rehearsal.Fixture.Basic

/-! # Running fixtures

An instance of a class holds a scaffold and the declared tools. Setting it up builds the agents,
with the tools that they list, and for a crew the tasks and the crew; a test performs its steps up
to the first one that raises a fault. A step that raises a fault leaves the instance as it was.

What the evaluator is asked is kept in a log that all instances share.
-/

namespace Rehearsal.Fixture

/-- What the evaluator was asked, oldest first. -/
abbrev Requests := List EvaluationRequest

/-- What the tests of a class work on. -/
inductive Scaffold where
  | agent (case : AgentCase)
  | crew (case : CrewCase)
  deriving Repr

structure Instance where
  scaffold : Scaffold
  tools : Toolbox := []

namespace Kind

def scaffold : Kind → Scaffold
  | crew => .crew {}
  | agent | other => .agent {}

end Kind

/-- The fault of a check that has no output to look at. -/
def missingOutput : Fault :=
  .failure { message := "No output to check; run an execute or kickoff step first" }

/-- The fault of naming an agent that there is not. -/
def unknownAgent (role : Option String) : Fault :=
  .error ("Unknown agent " ++ Text.quoted (role.getD "<first>"))

def unknownTool (name : String) : Fault :=
  .error ("Unknown tool " ++ Text.quoted name)

/-- The fault of an agent that lists a tool that is not declared. -/
def undeclaredTool (role name : String) : Fault :=
  .error ("Agent " ++ Text.quoted role ++ " uses undeclared tool " ++ Text.quoted name)

namespace Scaffold

/-- The agents that steps act on; those of a crew only once it is built. -/
def agents : Scaffold → List Agent
  | agent case => case.agent.toList
  | crew case => (case.crew.map (·.agents)).getD []

def setAgents (agents : List Agent) : Scaffold → Scaffold
  | agent case => agent { case with agent := agents.head? }
  | crew case => crew (case.updateCrew (·.replaceAgents agents))

/-- The agent that a check looks at: the first, or the first of a role. -/
def agent? (role : Option String) : Scaffold → Option Agent
  | agent case => case.agent.filter fun agent => role.all (agent.role == ·)
  | crew case => case.currentAgents.find? fun agent => role.all (agent.role == ·)

def outputText? : Scaffold → Option String
  | agent case => case.lastOutput?.map (·.raw)
  | crew case => case.lastOutput?.map (·.raw)

/-- The task that the latest output answers. Of a crew it is its last task, as it was described
    in the run. -/
def answeredTask? : Scaffold → Option Task
  | agent case => case.tasks.getLast?
  | crew case =>
    (case.lastOutput?.bind (·.tasksOutput.getLast?)).map fun last =>
      { description := last.description
        expectedOutput := case.tasks.getLast?.bind (·.expectedOutput) }

def crewOutput : Scaffold → Except Fault CrewOutput
  | agent _ => .error (.error "Crew checks need a crew class")
  | crew case =>
    match case.lastOutput? with
    | some output => .ok output
    | none => .error missingOutput

end Scaffold

namespace Instance

/-- The first tool of a name, with its handle. -/
def tool (inst : Instance) (name : String) : Except Fault (Nat × Tool) :=
  match inst.tools.handleOf? name with
  | none => .error (unknownTool name)
  | some handle =>
    match inst.tools[handle]? with
    | none => .error (unknownTool name)
    | some tool => .ok (handle, tool)

def agent (inst : Instance) (role : Option String) : Except Fault Agent :=
  match inst.scaffold.agent? role with
  | some agent => .ok agent
  | none => .error (unknownAgent role)

def outputText (inst : Instance) : Except Fault String :=
  match inst.scaffold.outputText? with
  | some text => .ok text
  | none => .error missingOutput

/-- The latest output with the task that it answers. -/
def answer (inst : Instance) : Except Fault (String × Task) :=
  match inst.scaffold.outputText?, inst.scaffold.answeredTask? with
  | some text, some task => .ok (text, task)
  | _, _ => .error missingOutput

end Instance

/-- The fault of a verdict, if it is bad. -/
def require (verdict : Verdict) : Except Fault Unit :=
  verdict.mapError .failure

/-- Whether the evaluator gives the latest output at least this score, and what it was asked. -/
def evaluate (evaluator : Option Evaluator) (inst : Instance) (minScore : Float)
    (message : Option String) : Except Fault Unit × Requests :=
  match evaluator with
  | none => (.error (.error "Quality checks need an evaluator"), [])
  | some evaluator =>
    match inst.answer with
    | .error fault => (.error fault, [])
    | .ok (output, task) =>
      let (judged, asked) := Expect.consult output task minScore evaluator message
      ((judged.mapError (·.toFault)).map fun _ => (), asked)

/-- Whether a check holds, and what the evaluator was asked for it. -/
def decideCheck (evaluator : Option Evaluator) (inst : Instance) (message : Option String)
    (check : Check) (compile : Expect.PatternCompiler := Expect.regexCompiler) :
    Except Fault Unit × Requests :=
  match check with
  | .contains text caseSensitive =>
    (do require (Expect.contains (← inst.outputText) text caseSensitive message), [])
  | .format name => (do require (Expect.hasFormat (← inst.outputText) name message), [])
  | .pattern text regex =>
    (do require (Expect.matchesPattern (← inst.outputText) text regex message compile), [])
  | .crewCompleted => (do require (Expect.crewCompleted (← inst.scaffold.crewOutput) message), [])
  | .taskSequence tasks =>
    (do require (Expect.taskSequence (← inst.scaffold.crewOutput) tasks message), [])
  | .collaboration minAgents =>
    (do require (Expect.collaboration (← inst.scaffold.crewOutput) minAgents message), [])
  | .agentCalledTool role tool =>
    (do require (Expect.calledTool inst.tools (← inst.agent role) tool message), [])
  | .toolCalledWith tool call =>
    (do require (Expect.calledWith (← inst.tool tool).2 call message), [])
  | .toolCallCount tool count =>
    (do require (Expect.callCount (← inst.tool tool).2 count message), [])
  | .quality minScore => evaluate evaluator inst minScore message
  | .executionCount role count =>
    (do require (Expect.executionCount (← inst.agent role) count message), [])

namespace Instance

def execute (inst : Instance) (task : String) (expectedOutput : Option String) :
    Except Fault Instance :=
  match inst.scaffold with
  | .crew _ => .error (.error "Execute steps need an agent class")
  | .agent case =>
    match case.createTask task expectedOutput with
    | .error e => .error (.ofError e)
    | .ok (task, case) =>
      match case.execute task with
      | .error e => .error (.ofError e)
      | .ok (_, case) => .ok { inst with scaffold := .agent case }

def kickoff (inst : Instance) (inputs : Inputs) : Except Fault Instance :=
  match inst.scaffold with
  | .agent _ => .error (.error "Kickoff steps need a crew class")
  | .crew case =>
    match case.execute inputs with
    | .error e => .error (.ofError e)
    | .ok (_, case) => .ok { inst with scaffold := .crew case }

def callTool (inst : Instance) (name : String) (call : ToolCall) : Except Fault Instance := do
  let (handle, _) ← inst.tool name
  match inst.tools.invoke handle call with
  | none => .error (unknownTool name)
  | some (_, tools) => return { inst with tools }

def simulate (inst : Instance) (role : Option String) (call : SimulatedCall) :
    Except Fault Instance :=
  match Crew.actFirst (fun agent => role.all (agent.role == ·))
      (fun agent => ((), agent.simulate call)) inst.scaffold.agents with
  | none => .error (unknownAgent role)
  | some (_, agents) => .ok { inst with scaffold := inst.scaffold.setAgents agents }

/-- Lets all agents and tools forget what they did. -/
def reset (inst : Instance) : Instance :=
  { scaffold := inst.scaffold.setAgents (inst.scaffold.agents.map Agent.reset)
    tools := inst.tools.map Tool.reset }

/-- Performs a step; with it comes what the evaluator was asked. -/
def perform (evaluator : Option Evaluator) (inst : Instance) (step : Step)
    (compile : Expect.PatternCompiler := Expect.regexCompiler) : Except Fault Instance × Requests :=
  match step with
  | .execute task expectedOutput => (inst.execute task expectedOutput, [])
  | .kickoff inputs => (inst.kickoff inputs, [])
  | .callTool tool call => (inst.callTool tool call, [])
  | .simulate role call => (inst.simulate role call, [])
  | .reset => (.ok inst.reset, [])
  | .assert assertion =>
    let (verdict, requests) :=
      decideCheck evaluator inst assertion.message assertion.check compile
    (verdict.map fun _ => inst, requests)

/-- Performs steps up to the first that raises a fault. -/
def performAll (evaluator : Option Evaluator) :
    List Step → Hook Instance Requests
  | [], inst, log => (.done, inst, log)
  | step :: rest, inst, log =>
    match inst.perform evaluator step with
    | (.error fault, requests) => (.fault fault, inst, log ++ requests)
    | (.ok inst, requests) => performAll evaluator rest inst (log ++ requests)

end Instance

namespace Class

def fresh (cls : Class) : Instance :=
  { scaffold := cls.kind.scaffold }

/-- An agent with the tools that it lists, which must be declared. -/
def equip (tools : Toolbox) (config : AgentConfig) : Except Fault Agent :=
  config.tools.foldlM (fun agent name =>
    match tools.handleOf? name with
    | some handle => .ok (agent.attach handle)
    | none => .error (undeclaredTool config.role name)) (Agent.ofConfig config)

/-- The scaffold of a class with its agents and tasks in place. -/
def assemble (cls : Class) (agents : List Agent) : Scaffold → Option Fault × Scaffold
  | .agent case =>
    match agents with
    | [] => (some (.error (cls.name ++ " declares no agents")), .agent case.setUp)
    | agent :: _ => (none, .agent (case.setUp.useAgent agent))
  | .crew case =>
    let case := agents.foldl CrewCase.addAgent case.setUp
    let case := cls.tasks.foldl
      (fun case task => (case.addTask task.description task.expectedOutput task.agent).2) case
    match case.createCrew with
    | .error e => (some (.ofError e), .crew case)
    | .ok (_, case) => (none, .crew case)

/-- Sets an instance up, whatever was done with it before. -/
def setUp (cls : Class) (inst : Instance) : Option Fault × Instance :=
  let tools := cls.tools.map Tool.ofConfig
  match cls.agents.mapM (equip tools) with
  | .error fault => (some fault, { inst with tools })
  | .ok agents =>
    let (fault, scaffold) := cls.assemble agents inst.scaffold
    (fault, { scaffold, tools })

def tearDown (inst : Instance) : Instance :=
  match inst.scaffold with
  | .agent case => { scaffold := .agent case.tearDown }
  | .crew case => { scaffold := .crew case.tearDown }

/-- Runs the first test of a name. -/
def run (cls : Class) (evaluator : Option Evaluator) (method : String) :
    Hook Instance Requests := fun inst log =>
  match cls.tests.find? (·.name == method) with
  | none => (.fault (TestClass.noMethod cls.name method), inst, log)
  | some test => Instance.performAll evaluator test.steps inst log

def toTestClass (cls : Class) (evaluator : Option Evaluator) : TestClass Instance Requests where
  name := cls.name
  category := cls.kind.category
  methods := cls.tests.map (·.name)
  construct log := (.ok cls.fresh, log)
  setUp inst log :=
    let (fault, inst) := cls.setUp inst
    (fault.elim .done .fault, inst, log)
  run := cls.run evaluator
  tearDown inst log := (.done, tearDown inst, log)

end Class

end Rehearsal.Fixture
