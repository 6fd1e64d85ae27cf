import Rehearsal.Case.Agent
import Rehearsal.Case.Crew

/-! # Scaffolds changed in place

An operation of a scaffold returns the scaffold that it leaves, or fails and returns none. Here the
operations are taken apart into steps that change the scaffold one after the other, so that one that
failed halfway would leave half of its changes behind. None does: the steps of an operation that
succeeds leave the scaffold that it returns, and those of one that fails leave the scaffold that
they found.
-/

namespace Rehearsal

/-- Steps that change a state. What they changed before they fail stays changed. -/
abbrev InPlace (σ : Type) := ExceptT Error (StateM σ)

namespace InPlace

variable {σ α β : Type}

/-- How steps end and the state that they leave. -/
def on (steps : InPlace σ α) (state : σ) : Except Error α × σ :=
  (steps.run.run state).run

/-- How an operation ends that returns a new state only if it succeeds, and the state after it. -/
def settled (state : σ) : Except Error (α × σ) → Except Error α × σ
  | .ok (result, next) => (.ok result, next)
  | .error problem => (.error problem, state)

/-- How an operation ends that returns nothing but the new state, and the state after it. -/
def stepped (state : σ) (result : Except Error σ) : Except Error Unit × σ :=
  settled state (result.map fun next => ((), next))

theorem stepped_snd (state : σ) (result : Except Error σ) :
    (stepped state result).2 = result.toOption.getD state := by
  cases result <;> rfl

theorem stepped_eq_error {state left : σ} {result : Except Error σ} {problem : Error}
    (failed : stepped state result = (.error problem, left)) :
    result = .error problem ∧ left = state := by
  cases result <;> cases failed
  exact ⟨rfl, rfl⟩

/-! The shape of the monad, which no other proof opens. -/

@[simp]
theorem on_pure (result : α) (state : σ) :
    (pure result : InPlace σ α).on state = (.ok result, state) :=
  rfl

@[simp]
theorem on_get (state : σ) : (get : InPlace σ σ).on state = (.ok state, state) :=
  rfl

@[simp]
theorem on_modify (change : σ → σ) (state : σ) :
    (modify change : InPlace σ PUnit).on state = (.ok ⟨⟩, change state) :=
  rfl

@[simp]
theorem on_modifyGet (change : σ → α × σ) (state : σ) :
    (modifyGet change : InPlace σ α).on state = (.ok (change state).1, (change state).2) :=
  rfl

@[simp]
theorem on_ofExcept (result : Except Error α) (state : σ) :
    (MonadExcept.ofExcept result : InPlace σ α).on state = (result, state) := by
  cases result <;> rfl

@[simp]
theorem on_bind (steps : InPlace σ α) (more : α → InPlace σ β) (state : σ) :
    (steps >>= more).on state =
      match steps.on state with
      | (.ok result, next) => (more result).on next
      | (.error problem, next) => (.error problem, next) := by
  change ExceptT.bindCont more (steps.on state).1 (steps.on state).2 = _
  rcases steps.on state with ⟨_ | result, next⟩ <;> rfl

end InPlace

namespace AgentCase

def createTaskSteps (description : String) (expectedOutput : Option String) :
    InPlace AgentCase Task := do
  let agent ← MonadExcept.ofExcept (← get).requireAgent
  let task : Task := { description, expectedOutput, agent := some agent.role }
  modify fun case => { case with tasks := case.tasks ++ [task] }
  return task

def executeSteps (task : Task) : InPlace AgentCase TaskOutput := do
  let agent ← MonadExcept.ofExcept (← get).requireAgent
  let (output, agent) := agent.execute task
  modify fun case => { case with agent := some agent }
  modify fun case => { case with outputs := case.outputs ++ [output] }
  return output

theorem createTaskSteps_on (case : AgentCase) (description : String)
    (expectedOutput : Option String) :
    (createTaskSteps description expectedOutput).on case =
      InPlace.settled case (case.createTask description expectedOutput) := by
  simp only [createTaskSteps, createTask, InPlace.on_bind, InPlace.on_get, InPlace.on_ofExcept]
  cases case.requireAgent <;> rfl

theorem executeSteps_on (case : AgentCase) (task : Task) :
    (executeSteps task).on case = InPlace.settled case (case.execute task) := by
  simp only [executeSteps, execute, InPlace.on_bind, InPlace.on_get, InPlace.on_ofExcept]
  cases case.requireAgent <;> rfl

end AgentCase

namespace Crew

def runTaskSteps (inputs : Inputs) (template : Task) : InPlace Crew TaskOutput := do
  let task := { template with description := interpolate template.description inputs }
  modifyGet fun crew =>
    let (output, agents) := runTask crew.failures template.description task crew.agents
    (output, { crew with agents })

def kickoffSteps (inputs : Inputs) : InPlace Crew CrewOutput := do
  let crew ← get
  if crew.tasks.isEmpty then throw (.setup "crew has no tasks")
  let outputs ← crew.tasks.mapM (runTaskSteps inputs)
  return ⟨(outputs.getLast?.map (·.raw)).getD "", outputs⟩

/-- By induction on the tasks, each of which finds the crew as the one before left it. -/
theorem mapM_runTaskSteps_on (inputs : Inputs) (tasks : List Task) (crew : Crew) :
    (tasks.mapM (runTaskSteps inputs)).on crew =
      (.ok (runTasks crew.failures inputs tasks crew.agents).1,
        { crew with agents := (runTasks crew.failures inputs tasks crew.agents).2 }) := by
  induction tasks generalizing crew with
  | nil => rfl
  | cons task rest ih =>
      simp only [List.mapM_cons, runTaskSteps, InPlace.on_bind, InPlace.on_modifyGet, runTasks,
        InPlace.on_pure]
      rw [ih]

theorem kickoffSteps_on (crew : Crew) (inputs : Inputs) :
    (kickoffSteps inputs).on crew = InPlace.settled crew (crew.kickoff inputs) := by
  simp only [kickoffSteps, kickoff, InPlace.on_bind, InPlace.on_get]
  split
  · rfl
  · simp only [InPlace.on_bind, InPlace.on_pure, mapM_runTaskSteps_on, InPlace.settled]

end Crew

namespace CrewCase

def createCrewSteps : InPlace CrewCase Crew := do
  let case ← get
  if case.agents.isEmpty then throw (.setup "no agents available, add agents first")
  if case.tasks.isEmpty then throw (.setup "no tasks available, add tasks first")
  let crew : Crew := { agents := case.agents, tasks := case.tasks }
  modify fun case => { case with crew := some crew }
  return crew

/-- Steps of the crew of a scaffold, which stays as they leave it however they end. -/
def crewSteps {α : Type} (crew : Crew) (steps : InPlace Crew α) : InPlace CrewCase α := do
  let (ended, crew) := steps.on crew
  modify fun case => { case with crew := some crew }
  MonadExcept.ofExcept ended

def executeSteps (inputs : Inputs) : InPlace CrewCase CrewOutput := do
  match (← get).crew with
  | none => throw (.setup "no crew available for execution, create a crew first")
  | some crew =>
    let output ← crewSteps crew (Crew.kickoffSteps inputs)
    modify fun case => { case with outputs := case.outputs ++ [output] }
    return output

theorem createCrewSteps_on (case : CrewCase) :
    createCrewSteps.on case = InPlace.settled case case.createCrew := by
  simp only [createCrewSteps, createCrew, InPlace.on_bind, InPlace.on_get]
  split
  · rfl
  · split <;> rfl

/-- A crew that fails to run is left as it was, and its scaffold with it. -/
theorem crewSteps_kickoff_on {case : CrewCase} {crew : Crew} (built : case.crew = some crew)
    (inputs : Inputs) :
    (crewSteps crew (Crew.kickoffSteps inputs)).on case =
      InPlace.settled case ((crew.kickoff inputs).map fun (output, next) =>
        (output, { case with crew := some next })) := by
  simp only [crewSteps, InPlace.on_bind, InPlace.on_modify, InPlace.on_ofExcept,
    Crew.kickoffSteps_on]
  cases crew.kickoff inputs with
  | error problem =>
      have same : { case with crew := some crew } = case := by rw [← built]
      simp only [InPlace.settled, Except.map, same]
  | ok result => rfl

theorem executeSteps_on (case : CrewCase) (inputs : Inputs) :
    (executeSteps inputs).on case = InPlace.settled case (case.execute inputs) := by
  simp only [executeSteps, execute, InPlace.on_bind, InPlace.on_get]
  cases built : case.crew with
  | none => rfl
  | some crew =>
      simp only [InPlace.on_bind, crewSteps_kickoff_on built]
      cases crew.kickoff inputs <;> rfl

end CrewCase

end Rehearsal
