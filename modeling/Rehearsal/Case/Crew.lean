import Rehearsal.Case.Metrics
import Rehearsal.Crew

/-! # Tests of a crew

The scaffold of a test of a crew: agents and tasks are added, a crew is built from copies of them
and run. Once there is a crew its agents are the agents of the test. An operation that fails
leaves the scaffold as it was.
-/

namespace Rehearsal

structure CrewCase where
  crew : Option Crew := none
  agents : List Agent := []
  tasks : List Task := []
  outputs : List CrewOutput := []
  deriving Repr, Inhabited

namespace CrewCase

def setUp (_ : CrewCase) : CrewCase :=
  {}

def tearDown (case : CrewCase) : CrewCase :=
  { case with crew := none, agents := [], tasks := [], outputs := [] }

def addAgent (case : CrewCase) (agent : Agent) : CrewCase :=
  { case with agents := case.agents ++ [agent] }

/-- The role that a task is assigned to: the one it names, or else that of the first agent. -/
def assignee (case : CrewCase) (role : Option String) : Option String :=
  role.or (case.agents.head?.map (·.role))

def addTask (case : CrewCase) (description : String) (expectedOutput : Option String := none)
    (agent : Option String := none) : Task × CrewCase :=
  let task : Task := { description, expectedOutput, agent := case.assignee agent }
  (task, { case with tasks := case.tasks ++ [task] })

/-- Builds the crew from the agents and tasks that were added. -/
def createCrew (case : CrewCase) : Except Error (Crew × CrewCase) :=
  if case.agents.isEmpty then .error (.setup "no agents available, add agents first")
  else if case.tasks.isEmpty then .error (.setup "no tasks available, add tasks first")
  else
    let crew : Crew := { agents := case.agents, tasks := case.tasks }
    .ok (crew, { case with crew := some crew })

def execute (case : CrewCase) (inputs : Inputs) : Except Error (CrewOutput × CrewCase) :=
  match case.crew with
  | none => .error (.setup "no crew available for execution, create a crew first")
  | some crew => do
    let (output, crew) ← crew.kickoff inputs
    return (output, { case with crew := some crew, outputs := case.outputs ++ [output] })

/-- The role that a task of a scenario is assigned to: the one it names, or else the agents of
    the scenario take turns by the place of the task. -/
def scenarioRole (agents : List Agent) (index : Nat) (task : Task) : Option String :=
  task.agent.or ((agents[index % agents.length]?).map (·.role))

/-- Adds the tasks of a scenario, the first of which has the place `index`. -/
def addScenarioTasks (agents : List Agent) (index : Nat) :
    List Task → CrewCase → List Task × CrewCase
  | [], case => ([], case)
  | task :: rest, case =>
    let (added, case) :=
      case.addTask task.description task.expectedOutput (scenarioRole agents index task)
    let (others, case) := addScenarioTasks agents (index + 1) rest case
    (added :: others, case)

/-- Adds agents together with tasks, which are spread over them. -/
def addScenario (case : CrewCase) (configs : List AgentConfig) (tasks : List Task) :
    (List Agent × List Task) × CrewCase :=
  let agents := configs.map Agent.ofConfig
  let case := agents.foldl addAgent case
  let (added, case) := addScenarioTasks agents 0 tasks case
  ((agents, added), case)

def currentAgents (case : CrewCase) : List Agent :=
  match case.crew with
  | some crew => crew.agents
  | none => case.agents

def setCurrentAgents (case : CrewCase) (agents : List Agent) : CrewCase :=
  match case.crew with
  | some crew => { case with crew := some { crew with agents } }
  | none => { case with agents }

def updateCrew (case : CrewCase) (change : Crew → Crew) : CrewCase :=
  { case with crew := case.crew.map change }

def agent? (case : CrewCase) (role : String) : Option Agent :=
  case.currentAgents.find? (·.role == role)

/-- Lets the first agent of the test of a role act. -/
def actBy {α : Type} (case : CrewCase) (role : String) (act : Agent → α × Agent) :
    Option (α × CrewCase) :=
  (Crew.actFirst (·.role == role) act case.currentAgents).map fun (result, agents) =>
    (result, case.setCurrentAgents agents)

def lastOutput? (case : CrewCase) : Option CrewOutput :=
  case.outputs.getLast?

/-- The outputs of the tasks of an output, the latest if none is given. -/
def taskOutputs (case : CrewCase) (output : Option CrewOutput := none) : List TaskOutput :=
  ((output.or case.lastOutput?).map (·.tasksOutput)).getD []

def measure (case : CrewCase) (output : CrewOutput) : CrewMetrics :=
  .ofOutput case.tasks.length output

end CrewCase

end Rehearsal
