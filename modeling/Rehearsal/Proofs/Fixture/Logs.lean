import Mathlib.Algebra.GroupWithZero.Nat
import Mathlib.Data.List.DropRight
import Rehearsal.Proofs.Fixture.Origin

/-! # What is on record

Agents keep the tasks that they executed and the calls that were recorded on them, tools keep their
calls. After any steps each of these logs holds what was performed since the latest reset, neither
more nor less.
-/

namespace Rehearsal.Fixture

namespace Step

def isReset : Step → Bool
  | .reset => true
  | _ => false

/-- The call that the step makes of a tool. -/
def callTo? (name : String) : Step → Option ToolCall
  | .callTool tool call => if tool = name then some call else none
  | _ => none

end Step

/-- What was performed since the latest reset, or since the start. -/
def sinceReset (deeds : List Deed) : List Deed :=
  deeds.rtakeWhile fun deed => !deed.step.isReset

def callsTo (name : String) (deeds : List Deed) : List ToolCall :=
  deeds.filterMap fun deed => deed.step.callTo? name

namespace Class

/-- How many tasks the agent at a place executed in a step. -/
def executedBy (cls : Class) (place : Nat) (deed : Deed) : Nat :=
  match deed.step with
  | .execute _ _ => 1
  | .kickoff _ => (cls.assigned.zip deed.children).countP fun (task, child) =>
      child.isSuccess && placeOf cls.roles task.agent == some place
  | _ => 0

def executions (cls : Class) (place : Nat) (deeds : List Deed) : Nat :=
  (deeds.map (cls.executedBy place)).sum

/-- The call that a step records on the agent at a place. -/
def simulatedOn? (cls : Class) (place : Nat) : Step → Option SimulatedCall
  | .simulate role call => if placeOf cls.roles role = some place then some call else none
  | _ => none

/-- The calls that were recorded on the agent at a place, oldest first. -/
def simulatedOn (cls : Class) (place : Nat) (deeds : List Deed) : List SimulatedCall :=
  deeds.filterMap fun deed => cls.simulatedOn? place deed.step

end Class

/-- Every log of an instance holds what was performed. -/
structure Logs (cls : Class) (since : List Deed) (inst : Instance) : Prop where
  ready : Ready cls inst.origin
  executed : ∀ place agent, inst.scaffold.agents[place]? = some agent →
    agent.history.length = cls.executions place since
  simulated : ∀ place agent, inst.scaffold.agents[place]? = some agent →
    agent.toolCalls = cls.simulatedOn place since
  called : ∀ name handle tool, inst.tools.handleOf? name = some handle →
    inst.tools[handle]? = some tool → tool.calls = callsTo name since

theorem sinceReset_append (deeds : List Deed) (deed : Deed) :
    sinceReset (deeds ++ [deed]) = if deed.step.isReset then [] else sinceReset deeds ++ [deed] := by
  rw [sinceReset, List.rtakeWhile_concat]
  cases deed.step.isReset <;> rfl

theorem Scaffold.agents_setAgents {agents : List Agent} {scaffold : Scaffold}
    (same : agents.length = scaffold.agents.length) : (scaffold.setAgents agents).agents = agents := by
  cases scaffold with
  | agent case =>
      have few : agents.length ≤ 1 := by
        rw [same]
        cases present : case.agent <;> simp [Scaffold.agents, present]
      rcases agents with _ | ⟨agent, _ | ⟨other, rest⟩⟩
      · rfl
      · rfl
      · simp at few
  | crew case =>
      cases built : case.crew with
      | none =>
          have none : agents = [] := by simpa [Scaffold.agents, built] using same
          simp [setAgents, Scaffold.agents, CrewCase.updateCrew, built, none]
      | some crew => simp [setAgents, Scaffold.agents, CrewCase.updateCrew, Crew.replaceAgents, built]

theorem handleOf?_name {tools : Toolbox} {name : String} {handle : Nat} {tool : Tool}
    (found : tools.handleOf? name = some handle) (present : tools[handle]? = some tool) :
    tool.name = name := by
  obtain ⟨inside, fits, -⟩ := List.findIdx?_eq_some_iff_getElem.mp found
  obtain ⟨_, rfl⟩ := List.getElem?_eq_some_iff.mp present
  exact eq_of_beq fits

theorem childrenOf_ran (case : CrewCase) (crew : Crew) (output : CrewOutput) (tools : Toolbox)
    (inputs : Inputs) :
    Instance.childrenOf ⟨.crew (case.ran crew output), tools⟩ (.kickoff inputs) =
      output.tasksOutput := by
  simp [Instance.childrenOf, CrewCase.taskOutputs, CrewCase.lastOutput?, CrewCase.ran]

theorem executedAt_length (cls : Class) (inputs : Inputs) (place : Nat)
    (children : List TaskOutput) :
    (Work.executedAt cls.roles place
        ((cls.assigned.map fun task => ⟨task, inputs⟩).zip children)).length =
      (cls.assigned.zip children).countP fun (task, child) =>
        child.isSuccess && placeOf cls.roles task.agent == some place := by
  rw [Work.length_executedAt, List.zip_map_left, List.countP_map]
  rfl

namespace Performs

variable {cls : Class} {inst next : Instance} {step : Step}

/-- Without a reset every agent keeps what it has on record, and what the step gives it follows. -/
theorem agent_grows (ready : Ready cls inst.origin) (performs : Performs inst step next)
    (kept : step.isReset = false) {place : Nat} {after : Agent}
    (present : next.scaffold.agents[place]? = some after) :
    ∃ agent, inst.scaffold.agents[place]? = some agent ∧
      after.history.length =
        agent.history.length + cls.executedBy place ⟨step, next.childrenOf step⟩ ∧
      after.toolCalls = agent.toolCalls ++ (cls.simulatedOn? place step).toList := by
  have roles := ready.roles_eq
  cases performs with
  | @execute case agent tools task expectedOutput here =>
      cases place with
      | succ => simp [Scaffold.agents, AgentCase.answered] at present
      | zero =>
          obtain rfl : (agent.execute ⟨task, expectedOutput, some agent.role⟩).2 = after := by
            simpa [Scaffold.agents, AgentCase.answered] using present
          refine ⟨agent, by simp [Scaffold.agents, here], ?_, (List.append_nil _).symm⟩
          exact List.length_append
  | @kickoff case crew left output tools inputs built run =>
      obtain ⟨rfl, -, -⟩ := Crew.kickoff_ok run
      have stood : (Instance.mk (.crew case) tools).scaffold.agents = crew.agents := by
        simp [Scaffold.agents, built]
      rw [stood] at roles ⊢
      obtain ⟨agent, before, rfl⟩ : ∃ agent, crew.agents[place]? = some agent ∧
          agent.after (Work.executedAt crew.roles place
            ((crew.jobs inputs).zip output.tasksOutput)) = after := by
        simpa [Scaffold.agents, CrewCase.ran, Crew.having, Crew.standing_getElem?] using present
      refine ⟨agent, before, ?_, (List.append_nil _).symm⟩
      rw [Class.executedBy, childrenOf_ran, ← executedAt_length cls inputs]
      simp only [Agent.after, List.length_append, Crew.jobs, ready.tasks_eq built, Crew.roles,
        roles]
  | callTool name call => exact ⟨after, present, rfl, (List.append_nil _).symm⟩
  | @simulate _ spot agent role call found here =>
      rw [Scaffold.agents_setAgents (by simp), List.getElem?_set] at present
      rw [roles] at found
      by_cases same : spot = place
      · subst same
        have inside := (List.getElem?_eq_some_iff.mp here).1
        obtain rfl : agent.simulate call = after := by simpa [inside] using present
        exact ⟨agent, here, rfl, by simp [Agent.simulate, Class.simulatedOn?, found]⟩
      · have other : inst.scaffold.agents[place]? = some after := by simpa [same] using present
        exact ⟨after, other, rfl, by simp [Class.simulatedOn?, found, same]⟩
  | reset => cases kept
  | assert => exact ⟨after, present, rfl, (List.append_nil _).symm⟩

/-- Without a reset every tool keeps its calls, and the call of the step follows. -/
theorem tool_grows (performs : Performs inst step next) (kept : step.isReset = false)
    {name : String} {handle : Nat} {after : Tool} (found : next.tools.handleOf? name = some handle)
    (present : next.tools[handle]? = some after) :
    inst.tools.handleOf? name = some handle ∧ ∃ tool, inst.tools[handle]? = some tool ∧
      after.calls = tool.calls ++ (step.callTo? name).toList := by
  cases performs with
  | execute | kickoff | simulate | assert =>
      exact ⟨found, after, present, (List.append_nil _).symm⟩
  | @callTool _ spot tool other call known here =>
      have names : (inst.tools.set spot (tool.record call)).map (·.name) =
          inst.tools.map (·.name) := map_set_same here (by rfl)
      rw [handleOf?_names, names, ← handleOf?_names] at found
      refine ⟨found, ?_⟩
      rw [List.getElem?_set] at present
      by_cases same : spot = handle
      · subst same
        have inside := (List.getElem?_eq_some_iff.mp here).1
        obtain rfl : tool.record call = after := by simpa [inside] using present
        have own : other = name := (handleOf?_name known here).symm.trans (handleOf?_name found here)
        exact ⟨tool, here, by simp [Tool.record, Step.callTo?, own]⟩
      · have different : other ≠ name := by
          rintro rfl
          exact same (Option.some_inj.mp (known.symm.trans found))
        exact ⟨after, by simpa [same] using present, by simp [Step.callTo?, different]⟩
  | reset => cases kept

end Performs

theorem fixed_of_map {α : Type} {f : α → α} {entries : List α} {place : Nat} {entry : α}
    (fixed : entries.map f = entries) (present : entries[place]? = some entry) : f entry = entry := by
  have same := congrArg (fun entries : List α => entries[place]?) fixed
  simpa [present] using same

namespace Logs

variable {cls : Class} {since : List Deed} {inst next : Instance} {step : Step}

theorem grow (logs : Logs cls since inst) (performs : Performs inst step next)
    (kept : step.isReset = false) :
    Logs cls (since ++ [⟨step, next.childrenOf step⟩]) next where
  ready := performs.origin_eq ▸ logs.ready
  executed := by
    intro place after present
    obtain ⟨agent, before, grown, -⟩ := performs.agent_grows logs.ready kept present
    rw [grown, logs.executed place agent before]
    simp [Class.executions]
  simulated := by
    intro place after present
    obtain ⟨agent, before, -, grown⟩ := performs.agent_grows logs.ready kept present
    rw [grown, logs.simulated place agent before]
    cases recorded : cls.simulatedOn? place step <;> simp [Class.simulatedOn, recorded]
  called := by
    intro name handle after found present
    obtain ⟨found, tool, before, grown⟩ := performs.tool_grows kept found present
    rw [grown, logs.called name handle tool found before]
    cases made : step.callTo? name <;> simp [callsTo, made]

/-- Where nothing is left to be reset, the logs are empty. -/
theorem empty (ready : Ready cls inst.origin)
    (agents : inst.scaffold.agents.map Agent.reset = inst.scaffold.agents)
    (tools : inst.tools.map Tool.reset = inst.tools) : Logs cls [] inst where
  ready := ready
  executed := by
    intro place agent present
    rw [← fixed_of_map agents present]
    rfl
  simulated := by
    intro place agent present
    rw [← fixed_of_map agents present]
    rfl
  called := by
    intro name handle tool _ present
    rw [← fixed_of_map tools present]
    rfl

theorem forget (ready : Ready cls inst.origin) : Logs cls [] inst.reset := by
  apply Logs.empty
  · rwa [(@Performs.reset inst).origin_eq]
  · rw [Instance.reset, Scaffold.agents_setAgents (List.length_map _), List.map_map]
    rfl
  · rw [Instance.reset, List.map_map]
    rfl

theorem start {start : Instance} (ready : Ready cls start) : Logs cls [] start := by
  have own := ready.origin_eq
  apply Logs.empty
  · rwa [own]
  · exact ready.reset_agents
  · exact congrArg Instance.tools own

/-- Whatever a step is, the logs hold what was performed since the latest reset. -/
theorem performs {done : List Deed} (logs : Logs cls (sinceReset done) inst)
    (performs : Performs inst step next) :
    Logs cls (sinceReset (done ++ [⟨step, next.childrenOf step⟩])) next := by
  rw [sinceReset_append]
  cases kept : step.isReset with
  | false => exact logs.grow performs kept
  | true =>
      cases performs with
      | reset => exact forget logs.ready
      | execute | kickoff | callTool | simulate | assert => cases kept

theorem performAll {evaluator : Option Evaluator} {start : Instance} (ready : Ready cls start)
    (steps : List Step) (log : Requests) :
    Logs cls (sinceReset (start.deeds evaluator steps))
      (start.performAll evaluator steps log).2.1 :=
  Instance.performAll_keeps (fun done inst => Logs cls (sinceReset done) inst)
    Logs.performs steps [] log (Logs.start ready)

end Logs

end Rehearsal.Fixture
