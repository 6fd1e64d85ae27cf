import Rehearsal.Agent
import Rehearsal.Error
import Rehearsal.Text.Search

/-! # Crews that are stood in for

A crew gives each of its tasks, in order, to an agent. A task that cannot be executed fails for
itself and the run goes on with the next.
-/

namespace Rehearsal

namespace Task

/-- Whether a task may go to an agent: to one of its role, or to any if it names none. -/
def accepts (task : Task) (agent : Agent) : Bool :=
  match task.agent with
  | some role => agent.role == role
  | none => true

end Task

/-- A description with each input filled in for its name in braces, in the order of the names. -/
def interpolate (template : String) (inputs : Inputs) : String :=
  inputs.foldl (fun text (name, value) => Text.substitute ("\x7b" ++ name ++ "\x7d") value text)
    template

/-- A crew of agents with the tasks that it runs in order, and the tasks that are made to fail by
    their description. -/
structure Crew where
  agents : List Agent
  tasks : List Task
  failures : SortedMap String := []
  deriving Repr, Inhabited

namespace Crew

/-- Lets the first agent that fits act. -/
def actFirst {α : Type} (fits : Agent → Bool) (act : Agent → α × Agent) :
    List Agent → Option (α × List Agent)
  | [] => none
  | agent :: rest =>
    if fits agent then
      let (result, agent) := act agent
      some (result, agent :: rest)
    else (actFirst fits act rest).map fun (result, rest) => (result, agent :: rest)

def dispatch (task : Task) (agents : List Agent) : Option (TaskOutput × List Agent) :=
  actFirst task.accepts (·.execute task) agents

/-- The error that a task is made to fail with, by its template or by its description. -/
def scriptedFailure? (failures : SortedMap String) (template description : String) :
    Option String :=
  (failures.get? template).or (failures.get? description)

def runTask (failures : SortedMap String) (template : String) (task : Task)
    (agents : List Agent) : TaskOutput × List Agent :=
  let role := task.agent.getD ""
  match scriptedFailure? failures template task.description with
  | some error => (.failed task.description role error, agents)
  | none =>
    match dispatch task agents with
    | some result => result
    | none =>
      (.failed task.description role ("No agent available for role " ++ Text.quoted role), agents)

def runTasks (failures : SortedMap String) (inputs : Inputs) :
    List Task → List Agent → List TaskOutput × List Agent
  | [], agents => ([], agents)
  | template :: rest, agents =>
    let task := { template with description := interpolate template.description inputs }
    let (output, agents) := runTask failures template.description task agents
    let (outputs, agents) := runTasks failures inputs rest agents
    (output :: outputs, agents)

/-- Runs all tasks of a crew. The text of the run is that of its last task. -/
def kickoff (crew : Crew) (inputs : Inputs) : Except Error (CrewOutput × Crew) :=
  if crew.tasks.isEmpty then .error (.setup "crew has no tasks")
  else
    let (outputs, agents) := runTasks crew.failures inputs crew.tasks crew.agents
    .ok (⟨(outputs.getLast?.map (·.raw)).getD "", outputs⟩, { crew with agents })

/-- The crew in which the tasks of this description fail. -/
def withFailure (crew : Crew) (description error : String) : Crew :=
  { crew with failures := crew.failures.put description error }

def agent? (crew : Crew) (role : String) : Option Agent :=
  crew.agents.find? (·.role == role)

def replaceAgents (crew : Crew) (agents : List Agent) : Crew :=
  { crew with agents }

end Crew

end Rehearsal
