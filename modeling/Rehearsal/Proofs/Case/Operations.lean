import Rehearsal.Proofs.Case.InPlace
import Rehearsal.Proofs.Case.Scenario

/-! # What is done with a scaffold

A test does one thing after another with its scaffold and with what it reaches through it: the agent
under test, the crew that was built and the agents of either. An operation that fails does not end
this, since a test may go on after it. Of a scaffold for a crew it is told once what an operation of
each kind leaves.
-/

namespace Rehearsal

namespace AgentCase

inductive Operation where
  | setUp
  | tearDown
  | useAgent (agent : Agent)
  | updateAgent (change : Agent → Agent)
  | createTask (description : String) (expectedOutput : Option String)
  | execute (task : Task)

def perform (case : AgentCase) : Operation → Except Error AgentCase
  | .setUp => .ok case.setUp
  | .tearDown => .ok case.tearDown
  | .useAgent agent => .ok (case.useAgent agent)
  | .updateAgent change => .ok (case.updateAgent change)
  | .createTask description expectedOutput =>
    (case.createTask description expectedOutput).map (·.2)
  | .execute task => (case.execute task).map (·.2)

namespace Operation

def steps : Operation → InPlace AgentCase Unit
  | .setUp => modify AgentCase.setUp
  | .tearDown => modify AgentCase.tearDown
  | .useAgent agent => modify (·.useAgent agent)
  | .updateAgent change => modify (·.updateAgent change)
  | .createTask description expectedOutput => do
    let _ ← createTaskSteps description expectedOutput
  | .execute task => do
    let _ ← executeSteps task

def clears : Operation → Bool
  | .setUp | .tearDown => true
  | _ => false

def setsAgent : Operation → Bool
  | .useAgent _ => true
  | _ => false

theorem steps_on (operation : Operation) (case : AgentCase) :
    operation.steps.on case = InPlace.stepped case (case.perform operation) := by
  cases operation with
  | setUp | tearDown | useAgent | updateAgent => rfl
  | createTask description expectedOutput =>
      simp only [steps, perform, InPlace.on_bind, createTaskSteps_on]
      cases case.createTask description expectedOutput <;> rfl
  | execute task =>
      simp only [steps, perform, InPlace.on_bind, executeSteps_on]
      cases case.execute task <;> rfl

end Operation

def step (case : AgentCase) (operation : Operation) : AgentCase :=
  (operation.steps.on case).2

/-- Where operations lead, whether or not they fail. -/
def after (case : AgentCase) (operations : List Operation) : AgentCase :=
  operations.foldl step case

end AgentCase

namespace CrewCase

/-- What is done with a scaffold, with an agent of the test (`act`), or with the crew that was built
(`script`, `staff` and `kickoff`), if there is one. -/
inductive Operation where
  | setUp
  | tearDown
  | addAgent (agent : Agent)
  | addTask (description : String) (expectedOutput agent : Option String)
  | addScenario (configs : List AgentConfig) (tasks : List Task)
  | createCrew
  | execute (inputs : Inputs)
  | act (role : String) (change : Agent → Agent)
  | script (description error : String)
  | staff (change : List Agent → List Agent)
  | kickoff (inputs : Inputs)

def perform (case : CrewCase) : Operation → Except Error CrewCase
  | .setUp => .ok case.setUp
  | .tearDown => .ok case.tearDown
  | .addAgent agent => .ok (case.addAgent agent)
  | .addTask description expectedOutput agent =>
    .ok (case.addTask description expectedOutput agent).2
  | .addScenario configs tasks => .ok (case.addScenario configs tasks).2
  | .createCrew => case.createCrew.map (·.2)
  | .execute inputs => (case.execute inputs).map (·.2)
  | .act role change => .ok ((case.actBy role fun agent => ((), change agent)).elim case (·.2))
  | .script description error => .ok (case.updateCrew (·.withFailure description error))
  | .staff change => .ok (case.updateCrew fun crew => crew.replaceAgents (change crew.agents))
  | .kickoff inputs =>
    match case.crew with
    | none => .ok case
    | some crew => (crew.kickoff inputs).map fun (_, next) => { case with crew := some next }

/-- What an operation is for: to start over, to add agents and tasks, of which it says whether there
are any, to build the crew, or to work with what is there. -/
inductive Kind where
  | clear
  | fill (agents tasks : Bool)
  | build
  | work
  deriving DecidableEq

namespace Kind

def addsAgent : Kind → Bool
  | .fill agents _ => agents
  | _ => false

def addsTask : Kind → Bool
  | .fill _ tasks => tasks
  | _ => false

end Kind

namespace Operation

def steps : Operation → InPlace CrewCase Unit
  | .setUp => modify CrewCase.setUp
  | .tearDown => modify CrewCase.tearDown
  | .addAgent agent => modify (·.addAgent agent)
  | .addTask description expectedOutput agent =>
    modify fun case => (case.addTask description expectedOutput agent).2
  | .addScenario configs tasks => modify fun case => (case.addScenario configs tasks).2
  | .createCrew => do
    let _ ← createCrewSteps
  | .execute inputs => do
    let _ ← executeSteps inputs
  | .act role change =>
    modify fun case => (case.actBy role fun agent => ((), change agent)).elim case (·.2)
  | .script description error => modify (·.updateCrew (·.withFailure description error))
  | .staff change =>
    modify (·.updateCrew fun crew => crew.replaceAgents (change crew.agents))
  | .kickoff inputs => do
    match (← get).crew with
    | none => return
    | some crew =>
      let _ ← crewSteps crew (Crew.kickoffSteps inputs)

def kind : Operation → Kind
  | .setUp | .tearDown => .clear
  | .addAgent _ => .fill true false
  | .addTask .. => .fill false true
  | .addScenario configs tasks => .fill (!configs.isEmpty) (!tasks.isEmpty)
  | .createCrew => .build
  | .execute _ | .act .. | .script .. | .staff _ | .kickoff _ => .work

theorem steps_on (operation : Operation) (case : CrewCase) :
    operation.steps.on case = InPlace.stepped case (case.perform operation) := by
  cases operation with
  | setUp | tearDown | addAgent | addTask | addScenario | act | script | staff => rfl
  | createCrew =>
      simp only [steps, perform, InPlace.on_bind, createCrewSteps_on]
      cases case.createCrew <;> rfl
  | execute inputs =>
      simp only [steps, perform, InPlace.on_bind, executeSteps_on]
      cases case.execute inputs <;> rfl
  | kickoff inputs =>
      simp only [steps, perform, InPlace.on_bind, InPlace.on_get]
      cases built : case.crew with
      | none => rfl
      | some crew =>
          simp only [InPlace.on_bind, crewSteps_kickoff_on built]
          cases crew.kickoff inputs <;> rfl

end Operation

def step (case : CrewCase) (operation : Operation) : CrewCase :=
  (operation.steps.on case).2

def after (case : CrewCase) (operations : List Operation) : CrewCase :=
  operations.foldl step case

theorem step_eq (case : CrewCase) (operation : Operation) :
    case.step operation = (case.perform operation).toOption.getD case := by
  rw [step, operation.steps_on, InPlace.stepped_snd]

/-- The outputs that an operation returns. -/
def Operation.outputs (case : CrewCase) : Operation → List CrewOutput
  | .execute inputs => ((case.execute inputs).toOption.map (·.1)).toList
  | _ => []

/-- What an operation of a kind may leave of a scaffold when it returns these outputs. -/
inductive Leaves (case : CrewCase) : Kind → List CrewOutput → CrewCase → Prop where
  | cleared : Leaves case .clear [] {}
  | filled (agents : List Agent) (tasks : List Task) :
      Leaves case (.fill (!agents.isEmpty) (!tasks.isEmpty)) []
        { case with agents := case.agents ++ agents, tasks := case.tasks ++ tasks }
  | built (someone : case.agents ≠ []) (something : case.tasks ≠ []) :
      Leaves case .build []
        { case with crew := some { agents := case.agents, tasks := case.tasks } }
  | unbuilt (lacking : case.agents = [] ∨ case.tasks = []) : Leaves case .build [] case
  /-- The crew keeps its tasks, whoever its agents are and whatever is made to fail. -/
  | worked {crew : Crew} (present : case.crew = some crew) (agents : List Agent)
      (failures : SortedMap String) (outputs : List CrewOutput) :
      Leaves case .work outputs
        { case with
          crew := some { crew with agents, failures }
          outputs := case.outputs ++ outputs }
  | changed (absent : case.crew = none) (agents : List Agent)
      (same : agents.length = case.agents.length) : Leaves case .work [] { case with agents }

theorem execute_ok {case next : CrewCase} {inputs : Inputs} {output : CrewOutput}
    (executed : case.execute inputs = .ok (output, next)) : ∃ crew after,
      case.crew = some crew ∧ crew.kickoff inputs = .ok (output, after) ∧
        next = { case with crew := some after, outputs := case.outputs ++ [output] } := by
  unfold execute at executed
  split at executed
  · cases executed
  · rename_i crew present
    cases run : crew.kickoff inputs with
    | error problem =>
        rw [run] at executed
        cases executed
    | ok result =>
        rw [run] at executed
        cases executed
        exact ⟨crew, result.2, present, run, rfl⟩

section Leaves

variable (case : CrewCase)

theorem addScenario_leaves (configs : List AgentConfig) (tasks : List Task) :
    Leaves case (.fill (!configs.isEmpty) (!tasks.isEmpty)) []
      (case.addScenario configs tasks).2 := by
  have adds := case.addScenario_adds configs tasks
  generalize case.addScenario configs tasks = scenario at adds ⊢
  have someone : scenario.1.1.isEmpty = configs.isEmpty := by rw [adds.made, List.isEmpty_map]
  have something : scenario.1.2.isEmpty = tasks.isEmpty := by
    rw [Bool.eq_iff_iff, List.isEmpty_iff_length_eq_zero, List.isEmpty_iff_length_eq_zero,
      adds.length]
  rw [adds.appended, ← someone, ← something]
  exact .filled _ _

theorem actFirst_length {α : Type} (fits : Agent → Bool) (act : Agent → α × Agent)
    {agents left : List Agent} {result : α}
    (acted : Crew.actFirst fits act agents = some (result, left)) :
    left.length = agents.length := by
  rw [Crew.actFirst_eq, Option.bind_eq_some_iff] at acted
  obtain ⟨place, -, found⟩ := acted
  obtain ⟨agent, -, same⟩ := Option.map_eq_some_iff.mp found
  cases same
  exact List.length_set

/-- The agents of the test are those of the crew if there is one, or else those that were added. -/
theorem setCurrentAgents_leaves {agents : List Agent}
    (same : agents.length = case.currentAgents.length) :
    Leaves case .work [] (case.setCurrentAgents agents) := by
  obtain ⟨_ | crew, added, tasks, outputs⟩ := case
  · exact .changed rfl agents same
  · have worked : Leaves ⟨some crew, added, tasks, outputs⟩ .work [] _ :=
      .worked rfl agents crew.failures []
    rwa [List.append_nil] at worked

theorem leaves_idle : Leaves case .work [] case := by
  have leaves := case.setCurrentAgents_leaves rfl
  obtain ⟨_ | crew, added, tasks, outputs⟩ := case <;> exact leaves

theorem act_leaves (role : String) (change : Agent → Agent) :
    Leaves case .work []
      ((case.actBy role fun agent => ((), change agent)).elim case (·.2)) := by
  unfold actBy
  cases acted : Crew.actFirst (·.role == role) (fun agent => ((), change agent))
      case.currentAgents with
  | none => exact case.leaves_idle
  | some result => exact case.setCurrentAgents_leaves (actFirst_length _ _ acted)

theorem updateCrew_leaves {change : Crew → Crew}
    (keeps : ∀ crew : Crew, ∃ agents failures, change crew = { crew with agents, failures }) :
    Leaves case .work [] (case.updateCrew change) := by
  obtain ⟨_ | crew, agents, tasks, outputs⟩ := case
  · exact .changed rfl agents rfl
  · obtain ⟨staff, failures, changed⟩ := keeps crew
    have worked : Leaves ⟨some crew, agents, tasks, outputs⟩ .work [] _ :=
      .worked rfl staff failures []
    rw [List.append_nil, ← changed] at worked
    exact worked

theorem kickoff_leaves (inputs : Inputs) {crew next : Crew} {output : CrewOutput}
    (present : case.crew = some crew) (run : crew.kickoff inputs = .ok (output, next))
    (outputs : List CrewOutput) :
    Leaves case .work outputs
      { case with crew := some next, outputs := case.outputs ++ outputs } := by
  rw [(Crew.kickoff_ok run).1]
  exact .worked present _ _ outputs

/-- One case for each operation, and for each way in which one that may fail ends. -/
theorem step_leaves (operation : Operation) :
    Leaves case operation.kind (operation.outputs case) (case.step operation) := by
  cases operation with
  | setUp | tearDown => exact .cleared
  | addAgent agent =>
      have filled : Leaves case (.fill true false) [] _ := .filled [agent] []
      rwa [List.append_nil] at filled
  | addTask description expectedOutput agent =>
      have filled : Leaves case (.fill false true) [] _ :=
        .filled [] [(case.addTask description expectedOutput agent).1]
      rwa [List.append_nil] at filled
  | addScenario configs tasks => exact case.addScenario_leaves configs tasks
  | createCrew =>
      rw [step_eq, perform]
      cases created : case.createCrew with
      | error problem => exact .unbuilt (createCrew_error_iff.mp ⟨problem, created⟩)
      | ok result =>
          obtain ⟨crew, next⟩ := result
          obtain ⟨someone, something, rfl, rfl⟩ := createCrew_eq_ok_iff.mp created
          exact .built someone something
  | execute inputs =>
      rw [step_eq, perform, Operation.outputs]
      cases executed : case.execute inputs with
      | error => exact case.leaves_idle
      | ok result =>
          obtain ⟨crew, next, present, run, left⟩ := execute_ok executed
          have leaves := case.kickoff_leaves inputs present run [result.1]
          rwa [← left] at leaves
  | act role change => exact case.act_leaves role change
  | script description error => exact case.updateCrew_leaves fun _ => ⟨_, _, rfl⟩
  | staff change => exact case.updateCrew_leaves fun _ => ⟨_, _, rfl⟩
  | kickoff inputs =>
      rw [step_eq, perform]
      cases present : case.crew with
      | none => exact case.leaves_idle
      | some crew =>
          simp only
          cases run : crew.kickoff inputs with
          | error => exact case.leaves_idle
          | ok =>
              have leaves := case.kickoff_leaves inputs present run []
              rwa [List.append_nil] at leaves

end Leaves

end CrewCase

end Rehearsal
