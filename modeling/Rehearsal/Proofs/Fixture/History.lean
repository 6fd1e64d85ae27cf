import Rehearsal.Proofs.Fixture.Logs

/-! # What checks of the history tell

Some checks look at what was done rather than at an output. They are decided by the steps that were
performed since the latest reset, in whatever order.
-/

namespace Rehearsal.Fixture

namespace Instance

def Passes (evaluator : Option Evaluator) (inst : Instance) (message : Option String)
    (check : Check) : Prop :=
  (decideCheck evaluator inst message check).1 = .ok ()

def Faults (evaluator : Option Evaluator) (inst : Instance) (message : Option String)
    (check : Check) (fault : Fault) : Prop :=
  (decideCheck evaluator inst message check).1 = .error fault

end Instance

/-- What the checks of the history of an instance tell of what was performed. -/
structure HistoryTells (cls : Class) (evaluator : Option Evaluator) (since : List Deed)
    (inst : Instance) : Prop where
  toolCallCount : ∀ message name count, name ∈ cls.tools.map (·.name) →
    (inst.Passes evaluator message (.toolCallCount name count) ↔
      (callsTo name since).length = count)
  toolCalledWith : ∀ message name call, name ∈ cls.tools.map (·.name) →
    (inst.Passes evaluator message (.toolCalledWith name call) ↔
      ∃ made ∈ callsTo name since, made.same call)
  executionCount : ∀ message role place count, placeOf cls.roles role = some place →
    (inst.Passes evaluator message (.executionCount role count) ↔
      cls.executions place since = count)
  agentCalledTool : ∀ message role place name, placeOf cls.roles role = some place →
    ∃ config, cls.cast[place]? = some config ∧
      (inst.Passes evaluator message (.agentCalledTool role name) ↔
        (∃ call ∈ cls.simulatedOn place since, call.tool = name) ∨
          name ∈ config.tools ∧ callsTo name since ≠ [])
  undeclared : ∀ message name, name ∉ cls.tools.map (·.name) →
    (∀ count, inst.Faults evaluator message (.toolCallCount name count) (unknownTool name)) ∧
    (∀ call, inst.Faults evaluator message (.toolCalledWith name call) (unknownTool name)) ∧
    ∀ call, (inst.perform evaluator (.callTool name call)).1 = .error (unknownTool name)
  unresolved : ∀ message role, placeOf cls.roles role = none →
    (∀ count, inst.Faults evaluator message (.executionCount role count) (unknownAgent role)) ∧
    (∀ name, inst.Faults evaluator message (.agentCalledTool role name) (unknownAgent role)) ∧
    ∀ call, (inst.perform evaluator (.simulate role call)).1 = .error (unknownAgent role)

theorem require_ok {holds : Prop} [Decidable holds] {violation : Violation} :
    require (if holds then .ok () else .error violation) = .ok () ↔ holds := by
  by_cases held : holds <;> simp [require, held, Except.mapError]

theorem Ready.handleOf?_eq_none_iff {cls : Class} {inst : Instance} (ready : Ready cls inst.origin)
    {name : String} :
    inst.tools.handleOf? name = none ↔ name ∉ cls.tools.map (·.name) := by
  rw [ready.handleOf?_eq, handleOf?_eq_none, cls.names_toolbox]

section Checks

variable {evaluator : Option Evaluator} {inst : Instance} {message : Option String}

theorem passes_toolCallCount {name : String} {handle count : Nat} {tool : Tool}
    (found : inst.tool name = .ok (handle, tool)) :
    inst.Passes evaluator message (.toolCallCount name count) ↔ tool.calls.length = count := by
  simp only [Instance.Passes, decideCheck, found, bind, Except.bind, Expect.callCount, require_ok]
  rfl

theorem passes_toolCalledWith {name : String} {call : ToolCall} {handle : Nat} {tool : Tool}
    (found : inst.tool name = .ok (handle, tool)) :
    inst.Passes evaluator message (.toolCalledWith name call) ↔
      ∃ made ∈ tool.calls, made.same call := by
  simp only [Instance.Passes, decideCheck, found, bind, Except.bind, Expect.calledWith, require_ok,
    Tool.wasCalledWith, List.any_eq_true]

theorem passes_executionCount {role : Option String} {count : Nat} {agent : Agent}
    (found : inst.agent role = .ok agent) :
    inst.Passes evaluator message (.executionCount role count) ↔ agent.history.length = count := by
  simp only [Instance.Passes, decideCheck, found, bind, Except.bind, Expect.executionCount,
    require_ok]

theorem passes_agentCalledTool {role : Option String} {name : String} {agent : Agent}
    (found : inst.agent role = .ok agent) :
    inst.Passes evaluator message (.agentCalledTool role name) ↔
      agent.usedTool inst.tools name := by
  simp only [Instance.Passes, decideCheck, found, bind, Except.bind, Expect.calledTool, require_ok]

end Checks

namespace Logs

variable {cls : Class} {evaluator : Option Evaluator} {since : List Deed} {inst : Instance}

/-- A handle stands for the name that it was found by. -/
theorem handle_called_iff (logs : Logs cls since inst) {listed name : String} {handle : Nat}
    (found : inst.tools.handleOf? listed = some handle) :
    (match inst.tools[handle]? with
      | some tool => tool.name == name && tool.wasCalled
      | none => false) = true ↔ name = listed ∧ callsTo name since ≠ [] := by
  have inside := (List.findIdx?_eq_some_iff_getElem.mp found).1
  have present := List.getElem?_eq_getElem inside
  rw [present]
  simp only [handleOf?_name found present, Tool.wasCalled,
    logs.called listed handle _ found present, Bool.and_eq_true, beq_iff_eq, Bool.not_eq_true',
    List.isEmpty_eq_false_iff]
  constructor
  · rintro ⟨rfl, called⟩
    exact ⟨rfl, called⟩
  · rintro ⟨rfl, called⟩
    exact ⟨rfl, called⟩

/-- The tools that an agent holds are those of the names that it lists. -/
theorem usedTool_iff (logs : Logs cls since inst) {agent : Agent} {names : List String}
    {name : String} (held : List.Forall₂ (fun name handle =>
      inst.tools.handleOf? name = some handle) names agent.tools) :
    agent.usedTool inst.tools name ↔
      (∃ call ∈ agent.toolCalls, call.tool = name) ∨ name ∈ names ∧ callsTo name since ≠ [] := by
  rw [Agent.usedTool, Bool.or_eq_true]
  apply or_congr
  · simp only [List.any_eq_true, beq_iff_eq]
  · generalize agent.tools = handles at held
    induction held with
    | nil => simp
    | cons found _ ih =>
        rw [List.any_cons, Bool.or_eq_true, ih, List.mem_cons, or_and_right]
        exact or_congr_left (logs.handle_called_iff found)

/-- A tool that is declared can be found, with its calls on record. -/
theorem declared (logs : Logs cls since inst) {name : String}
    (declared : name ∈ cls.tools.map (·.name)) : ∃ handle tool,
      inst.tool name = .ok (handle, tool) ∧ tool.calls = callsTo name since := by
  cases found : inst.tools.handleOf? name with
  | none => exact absurd declared (logs.ready.handleOf?_eq_none_iff.mp found)
  | some handle =>
      have present := List.getElem?_eq_getElem (List.findIdx?_eq_some_iff_getElem.mp found).1
      refine ⟨handle, _, ?_, logs.called name handle _ found present⟩
      simp only [Instance.tool, found, present]

theorem undeclared (logs : Logs cls since inst) {name : String}
    (undeclared : name ∉ cls.tools.map (·.name)) : inst.tool name = .error (unknownTool name) := by
  simp only [Instance.tool, logs.ready.handleOf?_eq_none_iff.mpr undeclared]

/-- The agent that a role leads to can be found, with what it did on record. -/
theorem resolved (logs : Logs cls since inst) {role : Option String} {place : Nat}
    (found : placeOf cls.roles role = some place) : ∃ agent,
      inst.agent role = .ok agent ∧ inst.scaffold.agents[place]? = some agent := by
  have inside : place < inst.scaffold.agents.length := by
    have bound := placeOf_lt found
    rwa [← logs.ready.roles_eq, List.length_map] at bound
  have present := List.getElem?_eq_getElem inside
  refine ⟨_, ?_, present⟩
  simp only [Instance.agent, logs.ready.agent?_eq, found, Option.bind_some, present]

theorem unresolved (logs : Logs cls since inst) {role : Option String}
    (nowhere : placeOf cls.roles role = none) : inst.agent role = .error (unknownAgent role) := by
  simp only [Instance.agent, logs.ready.agent?_eq, nowhere, Option.bind_none]

theorem tell (logs : Logs cls since inst) : HistoryTells cls evaluator since inst where
  toolCallCount := by
    intro message name count declared
    obtain ⟨handle, tool, found, calls⟩ := logs.declared declared
    rw [passes_toolCallCount found, calls]
  toolCalledWith := by
    intro message name call declared
    obtain ⟨handle, tool, found, calls⟩ := logs.declared declared
    rw [passes_toolCalledWith found, calls]
  executionCount := by
    intro message role place count found
    obtain ⟨agent, resolved, present⟩ := logs.resolved found
    rw [passes_executionCount resolved, logs.executed place agent present]
  agentCalledTool := by
    intro message role place name found
    obtain ⟨agent, resolved, present⟩ := logs.resolved found
    have inside : place < cls.cast.length := by simpa [Class.roles] using placeOf_lt found
    have configured := List.getElem?_eq_getElem inside
    refine ⟨_, configured, ?_⟩
    rw [passes_agentCalledTool resolved, logs.usedTool_iff (logs.ready.held present configured),
      logs.simulated place agent present]
  undeclared := by
    intro message name undeclared
    have none := logs.undeclared undeclared
    refine ⟨?_, ?_, ?_⟩
    · intro count
      simp only [Instance.Faults, decideCheck, none, bind, Except.bind]
    · intro call
      simp only [Instance.Faults, decideCheck, none, bind, Except.bind]
    · intro call
      simp only [Instance.perform, Instance.callTool, none, bind, Except.bind]
  unresolved := by
    intro message role nowhere
    have none := logs.unresolved nowhere
    refine ⟨?_, ?_, ?_⟩
    · intro count
      simp only [Instance.Faults, decideCheck, none, bind, Except.bind]
    · intro name
      simp only [Instance.Faults, decideCheck, none, bind, Except.bind]
    · intro call
      simp only [Instance.perform, Instance.simulate, Crew.actFirst_role, logs.ready.roles_eq,
        nowhere, Option.bind_none]

end Logs

/-- Whatever steps an instance performs after it was set up, up to the first that raises a fault:
the checks of its history tell what was performed since the latest reset, and nothing else. -/
theorem run_history_tells {cls : Class} (evaluator : Option Evaluator) (steps : List Step)
    (log : Requests) (ready : (cls.setUp cls.fresh).1 = none) :
    let start := (cls.setUp cls.fresh).2
    let run := start.performAll evaluator steps log
    Instance.Ends evaluator steps ((start.deeds evaluator steps).map (·.step)) run.2.1 run.1 ∧
      HistoryTells cls evaluator (sinceReset (start.deeds evaluator steps)) run.2.1 :=
  ⟨Instance.performAll_ends steps _ log,
    (Logs.performAll (Class.setUp_ready ready) steps log).tell⟩

/-- A crew in which two agents share a role, with a reset between two runs. -/
theorem run_history_tells_shared_role :
    let cls : Class := {
      name := "Desk", kind := .crew
      agents := [{ role := "Writer", tools := ["search"] }, { role := "Writer" }]
      tools := [{ name := "search" }, { name := "search" }]
      tasks := [{ description := "Plan" }, { description := "Edit", agent := "Editor" }] }
    let steps : List Step := [.kickoff [], .callTool "search" ⟨[.null], []⟩, .reset,
      .simulate none ⟨"notes", [], .null⟩, .kickoff [], .execute "Plan" none, .kickoff []]
    let start := (cls.setUp cls.fresh).2
    let run := start.performAll none steps []
    (cls.setUp cls.fresh).1 = none ∧
      Instance.Ends none steps ((start.deeds none steps).map (·.step)) run.2.1 run.1 ∧
      HistoryTells cls none (sinceReset (start.deeds none steps)) run.2.1 :=
  ⟨by rfl, run_history_tells none _ [] (by rfl)⟩

end Rehearsal.Fixture
