import Rehearsal.Fixture.Instance
import Rehearsal.Proofs.Crew.Kickoffs

/-! # What steps do

The rules by which steps change an instance are stated once, for steps that raise no fault. What
the steps of a test keep follows from what each rule keeps.
-/

namespace Rehearsal

/-- The scaffold after its agent executed a task that was made for it. -/
def AgentCase.answered (case : AgentCase) (agent : Agent) (task : Task) : AgentCase where
  agent := some (agent.execute task).2
  tasks := case.tasks ++ [task]
  outputs := case.outputs ++ [(agent.execute task).1]

def CrewCase.ran (case : CrewCase) (crew : Crew) (output : CrewOutput) : CrewCase :=
  { case with crew := some crew, outputs := case.outputs ++ [output] }

namespace Fixture

/-- How a step that raises no fault changes an instance. -/
inductive Performs : Instance → Step → Instance → Prop where
  | execute {case agent tools} (task : String) (expectedOutput : Option String)
      (present : case.agent = some agent) :
      Performs ⟨.agent case, tools⟩ (.execute task expectedOutput)
        ⟨.agent (case.answered agent ⟨task, expectedOutput, some agent.role⟩), tools⟩
  | kickoff {case crew after output tools} (inputs : Inputs) (built : case.crew = some crew)
      (run : crew.kickoff inputs = .ok (output, after)) :
      Performs ⟨.crew case, tools⟩ (.kickoff inputs) ⟨.crew (case.ran after output), tools⟩
  | callTool {inst : Instance} {handle tool} (name : String) (call : ToolCall)
      (found : inst.tools.handleOf? name = some handle)
      (present : inst.tools[handle]? = some tool) :
      Performs inst (.callTool name call)
        { inst with tools := inst.tools.set handle (tool.record call) }
  | simulate {inst : Instance} {place agent} (role : Option String) (call : SimulatedCall)
      (found : placeOf (inst.scaffold.agents.map (·.role)) role = some place)
      (present : inst.scaffold.agents[place]? = some agent) :
      Performs inst (.simulate role call)
        ⟨inst.scaffold.setAgents (inst.scaffold.agents.set place (agent.simulate call)),
          inst.tools⟩
  | reset {inst} : Performs inst .reset inst.reset
  | assert {inst} (assertion : Assertion) : Performs inst (.assert assertion) inst

theorem map_ok {ε α β : Type} {result : Except ε α} {f : α → β} {value : β}
    (mapped : result.map f = .ok value) : ∃ source, f source = value := by
  cases result with
  | error => cases mapped
  | ok source => exact ⟨source, Except.ok.inj mapped⟩

namespace Instance

variable {inst next : Instance}

theorem execute_performs {task : String} {expectedOutput : Option String}
    (done : inst.execute task expectedOutput = .ok next) :
    Performs inst (.execute task expectedOutput) next := by
  obtain ⟨scaffold, tools⟩ := inst
  cases scaffold with
  | crew case => cases done
  | agent case =>
      cases present : case.agent with
      | none => simp [execute, AgentCase.createTask, AgentCase.requireAgent, present, bind,
          Except.bind] at done
      | some agent =>
          simp only [execute, AgentCase.createTask, AgentCase.execute, AgentCase.requireAgent,
            present, bind, Except.bind, pure, Except.pure, Except.ok.injEq] at done
          subst done
          exact .execute task expectedOutput present

theorem kickoff_performs {inputs : Inputs} (done : inst.kickoff inputs = .ok next) :
    Performs inst (.kickoff inputs) next := by
  obtain ⟨scaffold, tools⟩ := inst
  cases scaffold with
  | agent case => cases done
  | crew case =>
      cases built : case.crew with
      | none => simp [kickoff, CrewCase.execute, built] at done
      | some crew =>
          cases run : crew.kickoff inputs with
          | error problem => simp [kickoff, CrewCase.execute, built, run, bind, Except.bind] at done
          | ok result =>
              obtain ⟨output, after⟩ := result
              simp only [kickoff, CrewCase.execute, built, run, bind, Except.bind, pure,
                Except.pure, Except.ok.injEq] at done
              subst done
              exact .kickoff inputs built run

theorem callTool_performs {name : String} {call : ToolCall}
    (done : inst.callTool name call = .ok next) : Performs inst (.callTool name call) next := by
  cases found : inst.tools.handleOf? name with
  | none => simp [callTool, tool, found, bind, Except.bind] at done
  | some handle =>
      cases present : inst.tools[handle]? with
      | none => simp [callTool, tool, found, present, bind, Except.bind] at done
      | some tool =>
          simp only [callTool, Instance.tool, found, present, Toolbox.invoke, bind, Except.bind,
            Option.map_some, pure, Except.pure, Except.ok.injEq] at done
          subst done
          exact .callTool name call found present

theorem simulate_performs {role : Option String} {call : SimulatedCall}
    (done : inst.simulate role call = .ok next) : Performs inst (.simulate role call) next := by
  unfold simulate at done
  rw [Crew.actFirst_role] at done
  cases found : placeOf (inst.scaffold.agents.map (·.role)) role with
  | none => simp [found] at done
  | some place =>
      cases present : inst.scaffold.agents[place]? with
      | none => simp [found, present] at done
      | some agent =>
          simp only [found, present, Option.bind_some, Option.map_some, Except.ok.injEq] at done
          subst done
          exact .simulate role call found present

/-- The rules cover all that steps do without a fault. -/
theorem perform_performs {evaluator : Option Evaluator} {step : Step} {requests : Requests}
    (done : inst.perform evaluator step = (.ok next, requests)) : Performs inst step next := by
  have done : (inst.perform evaluator step).1 = .ok next := by rw [done]
  cases step with
  | execute => exact execute_performs done
  | kickoff => exact kickoff_performs done
  | callTool => exact callTool_performs done
  | simulate => exact simulate_performs done
  | reset =>
      cases done
      exact .reset
  | assert assertion =>
      obtain ⟨_, rfl⟩ := map_ok done
      exact .assert assertion

end Instance

/-- A step that was performed, with the outputs of the tasks that it ran as a kickoff. -/
structure Deed where
  step : Step
  children : List TaskOutput

namespace Instance

/-- The outputs of the tasks of the kickoff that led to an instance. -/
def childrenOf (next : Instance) (step : Step) : List TaskOutput :=
  match step, next.scaffold with
  | .kickoff _, .crew case => case.taskOutputs
  | _, _ => []

/-- What steps come to up to the first that raises a fault. -/
def deeds (evaluator : Option Evaluator) : List Step → Instance → List Deed
  | [], _ => []
  | step :: rest, inst =>
    match (inst.perform evaluator step).1 with
    | .error _ => []
    | .ok next => ⟨step, next.childrenOf step⟩ :: deeds evaluator rest next

/-- How steps end: all were performed, or all up to one that raises a fault where they led. -/
def Ends (evaluator : Option Evaluator) (steps performed : List Step) (last : Instance) :
    Ending → Prop
  | .done => performed = steps
  | .fault fault => ∃ step rest, steps = performed ++ step :: rest ∧
      (last.perform evaluator step).1 = .error fault
  | .panic _ => False

variable {evaluator : Option Evaluator}

theorem performAll_ends (steps : List Step) (inst : Instance) (log : Requests) :
    Ends evaluator steps ((inst.deeds evaluator steps).map (·.step))
      (inst.performAll evaluator steps log).2.1 (inst.performAll evaluator steps log).1 := by
  induction steps generalizing inst log with
  | nil => rfl
  | cons step rest ih =>
      rcases performed : inst.perform evaluator step with ⟨fault | next, requests⟩
      · simp only [performAll, deeds, performed, List.map_nil]
        exact ⟨step, rest, rfl, by rw [performed]⟩
      · simp only [performAll, deeds, performed, List.map_cons]
        have later := ih next (log ++ requests)
        cases ended : (next.performAll evaluator rest (log ++ requests)).1 with
        | done =>
            rw [ended] at later
            exact congrArg (step :: ·) later
        | fault fault =>
            rw [ended] at later
            obtain ⟨last, others, split, faulted⟩ := later
            exact ⟨last, others, congrArg (step :: ·) split, faulted⟩
        | panic =>
            rw [ended] at later
            exact later

/-- What every rule keeps holds after any steps, of what they came to and where they led. -/
theorem performAll_keeps (Keeps : List Deed → Instance → Prop)
    (keeps : ∀ {done inst step next}, Keeps done inst → Performs inst step next →
      Keeps (done ++ [⟨step, next.childrenOf step⟩]) next)
    (steps : List Step) (done : List Deed) {inst : Instance} (log : Requests)
    (now : Keeps done inst) :
    Keeps (done ++ inst.deeds evaluator steps)
      (inst.performAll evaluator steps log).2.1 := by
  induction steps generalizing done inst log with
  | nil => simpa [deeds, performAll] using now
  | cons step rest ih =>
      rcases performed : inst.perform evaluator step with ⟨_ | next, requests⟩
      · simpa [deeds, performAll, performed] using now
      · have later := ih _ (log ++ requests) (keeps now (perform_performs performed))
        simpa [deeds, performAll, performed] using later

/-- The log of requests only grows, and nothing depends on it. -/
theorem performAll_log (steps : List Step) (inst : Instance) (log : Requests) :
    inst.performAll evaluator steps log =
      ((inst.performAll evaluator steps []).1, (inst.performAll evaluator steps []).2.1,
        log ++ (inst.performAll evaluator steps []).2.2) := by
  induction steps generalizing inst log with
  | nil => simp [performAll]
  | cons step rest ih =>
      rcases performed : inst.perform evaluator step with ⟨_ | next, requests⟩
      · simp [performAll, performed]
      · simp only [performAll, performed, List.nil_append]
        rw [ih next (log ++ requests), ih next requests]
        simp only [List.append_assoc]

/-- Steps after steps that raised no fault go on where those led. -/
theorem performAll_append {steps : List Step} {inst middle : Instance} {log log' : Requests}
    (later : List Step) (ran : inst.performAll evaluator steps log = (.done, middle, log')) :
    inst.performAll evaluator (steps ++ later) log = middle.performAll evaluator later log' ∧
      inst.deeds evaluator (steps ++ later) =
        inst.deeds evaluator steps ++ middle.deeds evaluator later := by
  induction steps generalizing inst log with
  | nil =>
      cases ran
      exact ⟨rfl, rfl⟩
  | cons step rest ih =>
      rcases performed : inst.perform evaluator step with ⟨_ | next, requests⟩
      · simp [performAll, performed] at ran
      · simp only [performAll, performed] at ran
        obtain ⟨whole, deeds⟩ := ih ran
        simp only [performAll, Instance.deeds, performed, List.cons_append, whole, deeds,
          and_self]

end Instance

end Fixture

end Rehearsal
