import Rehearsal.Proofs.Agent.Company

/-! # What agents and tools have on record

After any acts a tool has on record what was called since its own last reset, whoever called it, and
an agent what it did itself. A clone goes on from what the agent had on record when it was cloned.
-/

namespace Rehearsal

theorem Agent.usedTool_iff (agent : Agent) (tools : Toolbox) (name : String) :
    agent.usedTool tools name = true ↔ (∃ call ∈ agent.toolCalls, call.tool = name) ∨
      ∃ handle ∈ agent.tools, ∃ tool, tools[handle]? = some tool ∧
        tool.name = name ∧ tool.calls ≠ [] := by
  unfold usedTool
  rw [Bool.or_eq_true, List.any_eq_true, List.any_eq_true]
  refine or_congr (by simp) (exists_congr fun handle => and_congr_right fun _ => ?_)
  cases present : tools[handle]? with
  | none => simp
  | some tool => simp [Tool.wasCalled]

namespace Company

variable (company : Company)

/-- The agent at a place as it was at first, and what happened since. It was there from the start,
or it is a clone of an agent as that was at the time. -/
inductive Began (start : Company) (acts : List Act) (place : Nat) : Agent → List Event → Prop where
  | start {agent : Agent} (present : start.agents[place]? = some agent) :
      Began start acts place agent (start.events acts)
  | clone {agent : Agent} {earlier later : List Act} {source : Nat}
      (split : acts = earlier ++ .clone source :: later)
      (original : (start.run earlier).agents[source]? = some agent)
      (next : (start.run earlier).agents.length = place) :
      Began start acts place agent ((start.run (earlier ++ [.clone source])).events later)

namespace Began

variable {start : Company} {acts : List Act} {place : Nat} {first : Agent} {since : List Event}

theorem now (began : Began start acts place first since) :
    (start.run acts).agents[place]? = some (first.grown place since) := by
  cases began with
  | start present =>
      rw [run_eq_after]
      exact after_agents start _ present
  | @clone earlier later source split original next =>
      have born : (start.run (earlier ++ [.clone source])).agents[place]? = some first := by
        rw [run_concat]
        simp [step, event?, react, original, ← next]
      rw [split, List.append_cons, run_append, run_eq_after]
      exact after_agents _ _ born

theorem further (began : Began start acts place first since) (more : List Act) :
    ∃ since, Began start (acts ++ more) place first since := by
  cases began with
  | start present => exact ⟨_, .start present⟩
  | @clone earlier later source split original next =>
      have split : acts ++ more = earlier ++ .clone source :: (later ++ more) := by
        rw [split, List.append_assoc, List.cons_append]
      exact ⟨_, .clone split original next⟩

end Began

/-- Agents are only added by clones. -/
theorem react_new (event : Event) {place : Nat} {agent : Agent}
    (new : company.agents.length ≤ place)
    (present : (company.react event).agents[place]? = some agent) :
    ∃ source, event = .cloned source ∧ company.agents[source]? = some agent ∧
      company.agents.length = place := by
  have inside := (List.getElem?_eq_some_iff.mp present).1
  cases event with
  | called | emptied => exact absurd inside (Nat.not_lt.mpr new)
  | took | attached =>
      rw [react, List.length_modify] at inside
      exact absurd inside (Nat.not_lt.mpr new)
  | cloned source =>
      rw [react, List.getElem?_append_right new] at present
      cases original : company.agents[source]? with
      | none => simp [original] at present
      | some copied =>
          rw [original, Option.toList_some, List.getElem?_singleton] at present
          split at present
          next first =>
            cases present
            exact ⟨source, rfl, original, by omega⟩
          next => cases present

theorem clone_of_event? {act : Act} {source : Nat}
    (same : company.event? act = some (.cloned source)) : act = .clone source := by
  cases act <;> simp_all [event?]

theorem step_new (act : Act) {place : Nat} {agent : Agent} (new : company.agents.length ≤ place)
    (present : (company.step act).agents[place]? = some agent) :
    ∃ source, act = .clone source ∧ company.agents[source]? = some agent ∧
      company.agents.length = place := by
  unfold step at present
  cases came : company.event? act with
  | none =>
      rw [came] at present
      exact absurd (List.getElem?_eq_some_iff.mp present).1 (Nat.not_lt.mpr new)
  | some event =>
      rw [came] at present
      obtain ⟨source, rfl, original, next⟩ := company.react_new event new present
      exact ⟨source, company.clone_of_event? came, original, next⟩

theorem began_of_present (start : Company) (acts : List Act) {place : Nat} {agent : Agent}
    (present : (start.run acts).agents[place]? = some agent) :
    ∃ first since, Began start acts place first since := by
  induction acts using List.reverseRecOn generalizing agent with
  | nil => exact ⟨agent, _, .start present⟩
  | append_singleton acts act ih =>
      cases earlier : (start.run acts).agents[place]? with
      | some older =>
          obtain ⟨first, _, began⟩ := ih earlier
          exact ⟨first, began.further [act]⟩
      -- Nobody was there before the last act, so that was a clone.
      | none =>
          rw [run_concat] at present
          obtain ⟨source, rfl, original, next⟩ :=
            step_new _ act (List.getElem?_eq_none_iff.mp earlier) present
          exact ⟨agent, _, .clone rfl original next⟩

/-- What the agents and tools of a company have on record after some acts. -/
structure Account (start : Company) (acts : List Act) : Prop where
  /-- Each tool is as at the start, but has the calls since its own last reset. -/
  tools : ∀ handle : Nat, (start.run acts).tools[handle]? =
    start.tools[handle]?.map (·.grown handle (start.events acts))
  /-- Every holder sees these calls. -/
  holders : ∀ holder handle tool, (start.run acts).handle? holder = some handle →
    start.tools[handle]? = some tool →
    let calls := tool.callsAfter handle (start.events acts)
    ∃ seen, (start.run acts).tool? holder = some seen ∧ seen.calls = calls ∧
      seen.callCount = calls.length ∧ (seen.wasCalled = true ↔ calls ≠ []) ∧
      ∀ call, seen.wasCalledWith call = true ↔ ∃ past ∈ calls, past.same call = true
  /-- Each agent was there at the start or is a clone. -/
  began : ∀ place < (start.run acts).agents.length, ∃ first since,
    Began start acts place first since
  /-- Each agent is what its own turns have made of it since. -/
  agents : ∀ place first since, Began start acts place first since →
    (start.run acts).agents[place]? = some (first.grown place since)
  /-- Each agent used what was simulated since its own last reset and what its tools have on
  record. -/
  used : ∀ place first since, Began start acts place first since →
    ∀ name, (first.grown place since).usedTool (start.run acts).tools name = true ↔
      (∃ call ∈ first.simulatedAfter (Agent.turnsOf place since), call.tool = name) ∨
        ∃ handle ∈ (first.grown place since).tools, ∃ tool, start.tools[handle]? = some tool ∧
          tool.name = name ∧ tool.callsAfter handle (start.events acts) ≠ []

/-- Whatever is done with agents, their clones and the tools they share, in whatever order. -/
theorem account (start : Company) (acts : List Act) : Account start acts := by
  have tools (handle : Nat) : (start.run acts).tools[handle]? =
      start.tools[handle]?.map (·.grown handle (start.events acts)) := by
    rw [run_eq_after]
    exact start.after_tools _ handle
  refine ⟨tools, ?holders, ?began, fun _ _ _ began => began.now, ?used⟩
  case holders =>
    intro holder handle tool held present calls
    refine ⟨tool.grown handle (start.events acts), ?_, rfl, rfl, ?_, ?_⟩
    · rw [tool?, held, Option.bind_some, tools, present]
      rfl
    · simp [Tool.wasCalled, Tool.grown, calls]
    · intro call
      exact List.any_eq_true
  case began =>
    intro place inside
    exact began_of_present start acts (List.getElem?_eq_getElem inside)
  case used =>
    intro place first since _ name
    rw [Agent.usedTool_iff]
    refine or_congr ?_ (exists_congr fun handle => and_congr_right fun _ => ?_)
    · rw [Agent.grown, Agent.foldl_take_toolCalls]
    · rw [tools]
      cases present : start.tools[handle]? <;> simp [Tool.grown]

/-- What is called through a clone is seen by the agent, also after that is reset. -/
example (call : ToolCall) :
    let (agent, tools) := Toolbox.equip [] {} [{ name := "search" }]
    let last := run ⟨[agent], tools⟩ [.clone 0, .run (.agent 1 0) call, .turn 0 .reset]
    last.agents.map (·.usedTool last.tools "search") = [true, true] := by
  rfl

end Company

end Rehearsal
