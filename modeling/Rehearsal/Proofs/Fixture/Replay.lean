import Rehearsal.Proofs.Fixture.Origin

/-! # Replaying after a reset

A reset keeps the tasks and outputs that were captured and takes everything else back to the origin.
What was captured before is only in front of what comes later. So steps that look at an output only
after they made one do after a reset what they do from the start.
-/

namespace Rehearsal

/-- The scaffold with older tasks and outputs in front. -/
def AgentCase.withPast (case past : AgentCase) : AgentCase :=
  { case with tasks := past.tasks ++ case.tasks, outputs := past.outputs ++ case.outputs }

def CrewCase.withPast (case past : CrewCase) : CrewCase :=
  { case with outputs := past.outputs ++ case.outputs }

theorem CrewCase.lastOutput?_withPast {case : CrewCase} (past : CrewCase)
    (ran : case.outputs ≠ []) : (case.withPast past).lastOutput? = case.lastOutput? :=
  List.getLast?_append_of_ne_nil _ ran

namespace Fixture

/-- Whether the check looks at an output. -/
def Check.readsOutput : Check → Bool
  | .contains _ _ | .format _ | .pattern _ _ | .crewCompleted | .taskSequence _ | .collaboration _
  | .quality _ => true
  | .agentCalledTool _ _ | .toolCalledWith _ _ | .toolCallCount _ _ | .executionCount _ _ => false

namespace Step

def readsOutput : Step → Bool
  | .assert assertion => assertion.check.readsOutput
  | _ => false

def makesOutput : Step → Bool
  | .execute _ _ | .kickoff _ => true
  | _ => false

end Step

/-- Each step that looks at an output comes after one that makes one. -/
def OutputsFirst (steps : List Step) : Prop :=
  ∀ place (inside : place < steps.length), steps[place].readsOutput →
    ∃ earlier ∈ steps.take place, earlier.makesOutput

instance (steps : List Step) : Decidable (OutputsFirst steps) :=
  inferInstanceAs (Decidable (∀ place (_ : place < steps.length), _ → _))

namespace Scaffold

/-- The outputs that were captured, oldest first. -/
def captured : Scaffold → List (TaskOutput ⊕ CrewOutput)
  | .agent case => case.outputs.map .inl
  | .crew case => case.outputs.map .inr

/-- There is an output to look at, with the task that it answers. -/
def Informed : Scaffold → Prop
  | .agent case => case.tasks ≠ [] ∧ case.outputs ≠ []
  | .crew case => case.outputs ≠ []

/-- The scaffold with what an older one of its kind captured in front. -/
def withPast : Scaffold → Scaffold → Scaffold
  | .agent case, .agent past => .agent (case.withPast past)
  | .crew case, .crew past => .crew (case.withPast past)
  | scaffold, _ => scaffold

end Scaffold

/-- The instance with what an older scaffold captured in front. -/
def Instance.withPast (inst : Instance) (past : Scaffold) : Instance :=
  { inst with scaffold := inst.scaffold.withPast past }

namespace Scaffold

variable (scaffold past : Scaffold)

theorem agents_withPast : (scaffold.withPast past).agents = scaffold.agents := by
  cases scaffold <;> cases past <;> rfl

theorem setAgents_withPast (agents : List Agent) :
    (scaffold.withPast past).setAgents agents = (scaffold.setAgents agents).withPast past := by
  cases scaffold <;> cases past <;> rfl

theorem agent?_withPast (role : Option String) :
    (scaffold.withPast past).agent? role = scaffold.agent? role := by
  cases scaffold <;> cases past <;> rfl

theorem captured_withPast (same : scaffold.origin = past.origin) :
    (scaffold.withPast past).captured = past.captured ++ scaffold.captured := by
  cases scaffold <;> cases past
  · exact List.map_append
  · cases same
  · cases same
  · exact List.map_append

variable {scaffold}

theorem outputText?_withPast (informed : scaffold.Informed) :
    (scaffold.withPast past).outputText? = scaffold.outputText? := by
  cases scaffold with
  | agent case =>
      cases past with
      | agent past => exact congrArg (Option.map _) (List.getLast?_append_of_ne_nil _ informed.2)
      | crew => rfl
  | crew case =>
      cases past with
      | agent => rfl
      | crew past => exact congrArg (Option.map _) (CrewCase.lastOutput?_withPast past informed)

theorem crewOutput_withPast (informed : scaffold.Informed) :
    (scaffold.withPast past).crewOutput = scaffold.crewOutput := by
  cases scaffold with
  | agent case => cases past <;> rfl
  | crew case =>
      cases past with
      | agent => rfl
      | crew past =>
          simp only [withPast, crewOutput, CrewCase.lastOutput?_withPast past informed]

theorem answeredTask?_withPast (informed : scaffold.Informed) :
    (scaffold.withPast past).answeredTask? = scaffold.answeredTask? := by
  cases scaffold with
  | agent case =>
      cases past with
      | agent past => exact List.getLast?_append_of_ne_nil _ informed.1
      | crew => rfl
  | crew case =>
      cases past with
      | agent => rfl
      | crew past =>
          simp only [withPast, answeredTask?, CrewCase.lastOutput?_withPast past informed]
          rfl

end Scaffold

namespace Instance

variable {evaluator : Option Evaluator} (inst : Instance) (past : Scaffold)

/-- A reset leaves the origin with what was captured in front. -/
theorem reset_eq : inst.reset = inst.origin.withPast inst.scaffold := by
  obtain ⟨scaffold, tools⟩ := inst
  cases scaffold with
  | agent case =>
      cases present : case.agent <;>
        simp [reset, origin, withPast, Scaffold.origin, Scaffold.withPast, Scaffold.setAgents,
          Scaffold.agents, AgentCase.origin, AgentCase.withPast, present]
  | crew case =>
      cases built : case.crew <;>
        simp [reset, origin, withPast, Scaffold.origin, Scaffold.withPast, Scaffold.setAgents,
          Scaffold.agents, CrewCase.origin, CrewCase.withPast, CrewCase.updateCrew,
          Crew.replaceAgents, built]

theorem outputText_withPast (informed : inst.scaffold.Informed) :
    (inst.withPast past).outputText = inst.outputText := by
  simp only [outputText, withPast, Scaffold.outputText?_withPast past informed]

theorem answer_withPast (informed : inst.scaffold.Informed) :
    (inst.withPast past).answer = inst.answer := by
  simp only [answer, withPast, Scaffold.outputText?_withPast past informed,
    Scaffold.answeredTask?_withPast past informed]

theorem agent_withPast (role : Option String) :
    (inst.withPast past).agent role = inst.agent role := by
  simp only [agent, withPast, Scaffold.agent?_withPast]

theorem decideCheck_withPast (message : Option String) (check : Check)
    (informed : check.readsOutput → inst.scaffold.Informed) :
    decideCheck evaluator (inst.withPast past) message check =
      decideCheck evaluator inst message check := by
  cases check with
  | contains | format | pattern =>
      simp only [decideCheck, outputText_withPast inst past (informed rfl)]
  | crewCompleted | taskSequence | collaboration =>
      have output := Scaffold.crewOutput_withPast past (informed rfl)
      simp only [decideCheck, withPast, output]
  | quality minScore => simp only [decideCheck, evaluate, answer_withPast inst past (informed rfl)]
  | agentCalledTool | executionCount => simp only [decideCheck, agent_withPast] <;> rfl
  | toolCalledWith | toolCallCount => rfl

theorem execute_withPast (task : String) (expectedOutput : Option String) :
    (inst.withPast past).execute task expectedOutput =
      (inst.execute task expectedOutput).map (·.withPast past) := by
  obtain ⟨scaffold, tools⟩ := inst
  cases scaffold with
  | crew case => cases past <;> rfl
  | agent case =>
      obtain ⟨agent, tasks, outputs⟩ := case
      cases past <;> cases agent <;>
        simp [execute, withPast, Scaffold.withPast, AgentCase.withPast, AgentCase.createTask,
          AgentCase.execute, AgentCase.requireAgent, bind, Except.bind, pure, Except.pure,
          Except.map]

theorem kickoff_withPast (inputs : Inputs) :
    (inst.withPast past).kickoff inputs = (inst.kickoff inputs).map (·.withPast past) := by
  obtain ⟨scaffold, tools⟩ := inst
  cases scaffold with
  | agent case => cases past <;> rfl
  | crew case =>
      obtain ⟨crew, agents, tasks, outputs⟩ := case
      cases crew with
      | none => cases past <;> rfl
      | some crew =>
          cases run : crew.kickoff inputs <;> cases past <;>
            simp [kickoff, withPast, Scaffold.withPast, CrewCase.withPast, CrewCase.execute, run,
              bind, Except.bind, pure, Except.pure, Except.map]

theorem callTool_withPast (name : String) (call : ToolCall) :
    (inst.withPast past).callTool name call = (inst.callTool name call).map (·.withPast past) := by
  have same : (inst.withPast past).tool name = inst.tool name := rfl
  simp only [callTool, same]
  cases inst.tool name with
  | error => rfl
  | ok found =>
      cases invoked : inst.tools.invoke found.1 call <;>
        simp [withPast, invoked, bind, Except.bind, pure, Except.pure, Except.map]

theorem simulate_withPast (role : Option String) (call : SimulatedCall) :
    (inst.withPast past).simulate role call = (inst.simulate role call).map (·.withPast past) := by
  simp only [simulate, withPast, Scaffold.agents_withPast, Scaffold.setAgents_withPast]
  cases Crew.actFirst (fun agent => role.all (agent.role == ·))
    (fun agent => ((), agent.simulate call)) inst.scaffold.agents <;> rfl

theorem reset_withPast : (inst.withPast past).reset = inst.reset.withPast past := by
  simp only [reset, withPast, Scaffold.agents_withPast, Scaffold.setAgents_withPast]

/-- A step does the same whatever was captured before. -/
theorem perform_withPast (step : Step) (informed : step.readsOutput → inst.scaffold.Informed) :
    (inst.withPast past).perform evaluator step =
      ((inst.perform evaluator step).1.map (·.withPast past), (inst.perform evaluator step).2) := by
  cases step with
  | execute => simp only [perform, execute_withPast]
  | kickoff => simp only [perform, kickoff_withPast]
  | callTool => simp only [perform, callTool_withPast]
  | simulate => simp only [perform, simulate_withPast]
  | reset => simp only [perform, reset_withPast, Except.map]
  | assert assertion =>
      simp only [perform, decideCheck_withPast inst past _ _ informed]
      cases (decideCheck evaluator inst assertion.message assertion.check).1 <;> rfl

theorem childrenOf_withPast (step : Step) (informed : step.makesOutput → inst.scaffold.Informed) :
    (inst.withPast past).childrenOf step = inst.childrenOf step := by
  cases step with
  | execute | callTool | simulate | reset | assert => rfl
  | kickoff inputs =>
      obtain ⟨scaffold, tools⟩ := inst
      cases scaffold with
      | agent case => cases past <;> rfl
      | crew case =>
          cases past with
          | agent => rfl
          | crew past =>
              have last := CrewCase.lastOutput?_withPast past (informed rfl)
              simp only [childrenOf, withPast, Scaffold.withPast, CrewCase.taskOutputs, last]

end Instance

theorem Scaffold.informed_setAgents (agents : List Agent) (scaffold : Scaffold) :
    (scaffold.setAgents agents).Informed ↔ scaffold.Informed := by
  cases scaffold <;> rfl

/-- Outputs are never lost, and steps that make one leave one. -/
theorem Performs.informed {inst next : Instance} {step : Step} (performs : Performs inst step next)
    (before : inst.scaffold.Informed ∨ step.makesOutput) : next.scaffold.Informed := by
  cases performs with
  | execute => simp [Scaffold.Informed, AgentCase.answered]
  | kickoff => simp [Scaffold.Informed, CrewCase.ran]
  | callTool | assert => exact before.resolve_right Bool.false_ne_true
  | simulate | reset =>
      exact (Scaffold.informed_setAgents _ _).mpr (before.resolve_right Bool.false_ne_true)

/-- Each step that looks at an output finds one, or comes after one that makes one. -/
def Finds (inst : Instance) (steps : List Step) : Prop :=
  ∀ place (_ : place < steps.length), steps[place].readsOutput →
    inst.scaffold.Informed ∨ ∃ earlier ∈ steps.take place, earlier.makesOutput

namespace Finds

variable {inst next : Instance} {step : Step} {rest : List Step}

theorem now (finds : Finds inst (step :: rest)) : step.readsOutput → inst.scaffold.Informed := by
  intro reads
  exact (finds 0 (Nat.zero_lt_succ _) reads).resolve_right (by simp)

theorem later (finds : Finds inst (step :: rest)) (performs : Performs inst step next) :
    Finds next rest := by
  intro place inside reads
  rcases finds (place + 1) (Nat.succ_lt_succ inside) reads with informed | ⟨earlier, member, makes⟩
  · exact .inl (performs.informed (.inl informed))
  · rw [List.take_succ_cons] at member
    rcases List.mem_cons.mp member with rfl | member
    · exact .inl (performs.informed (.inr makes))
    · exact .inr ⟨earlier, member, makes⟩

end Finds

namespace Instance

variable {evaluator : Option Evaluator}

/-- By induction on the steps: what was captured before stays in front and nothing else shows it. -/
theorem performAll_withPast (past : Scaffold) (steps : List Step) (inst : Instance) (log : Requests)
    (finds : Finds inst steps) :
    (inst.withPast past).performAll evaluator steps log =
        ((inst.performAll evaluator steps log).1,
          (inst.performAll evaluator steps log).2.1.withPast past,
          (inst.performAll evaluator steps log).2.2) ∧
      (inst.withPast past).deeds evaluator steps = inst.deeds evaluator steps := by
  induction steps generalizing inst log with
  | nil => exact ⟨rfl, rfl⟩
  | cons step rest ih =>
      rcases performed : inst.perform evaluator step with ⟨_ | next, requests⟩
      · simp [performAll, deeds, perform_withPast inst past step finds.now, performed, Except.map]
      · have performs := perform_performs performed
        obtain ⟨same, deeds⟩ := ih next (log ++ requests) (finds.later performs)
        have children := childrenOf_withPast next past step fun makes => performs.informed (.inr makes)
        simp only [performAll, Instance.deeds, perform_withPast inst past step finds.now, performed,
          Except.map, same, deeds, children, and_self]

/-- A reset after steps that raised no fault leaves what was captured and the instance as it was
before them. -/
theorem replay {start middle : Instance} {earlier later : List Step} {log asked : Requests}
    (own : start.origin = start)
    (ran : start.performAll evaluator earlier log = (.done, middle, asked))
    (first : OutputsFirst later) :
    start.performAll evaluator (earlier ++ .reset :: later) log =
        ((start.performAll evaluator later asked).1,
          (start.performAll evaluator later asked).2.1.withPast middle.scaffold,
          (start.performAll evaluator later asked).2.2) ∧
      start.deeds evaluator (earlier ++ .reset :: later) =
        start.deeds evaluator earlier ++ ⟨.reset, []⟩ :: start.deeds evaluator later := by
  have forgotten : middle.reset = start.withPast middle.scaffold := by
    rw [reset_eq, origin_of_ran ran, own]
  obtain ⟨whole, deeds⟩ := performAll_append (.reset :: later) ran
  obtain ⟨replayed, same⟩ := performAll_withPast middle.scaffold later start asked
    (fun place inside reads => .inr (first place inside reads))
  constructor
  · rw [whole, ← replayed, ← forgotten]
    simp only [performAll, perform, List.append_nil]
  · rw [deeds, ← same, ← forgotten]
    rfl

end Instance

/-- After some steps and a reset, further steps do what they do from the start. -/
structure Replays (evaluator : Option Evaluator) (start : Instance) (earlier later : List Step)
    (log : Requests) : Prop where
  /-- All pass, or the same fault is raised. -/
  ending : (start.performAll evaluator (earlier ++ .reset :: later) log).1 =
    (start.performAll evaluator later []).1
  /-- The same steps pass, with the same outputs of the tasks of a crew. -/
  deeds : start.deeds evaluator (earlier ++ .reset :: later) =
    start.deeds evaluator earlier ++ ⟨.reset, []⟩ :: start.deeds evaluator later
  captured : (start.performAll evaluator (earlier ++ .reset :: later) log).2.1.scaffold.captured =
    (start.performAll evaluator earlier log).2.1.scaffold.captured ++
      (start.performAll evaluator later []).2.1.scaffold.captured
  /-- The evaluator is asked the same. -/
  requests : (start.performAll evaluator (earlier ++ .reset :: later) log).2.2 =
    (start.performAll evaluator earlier log).2.2 ++ (start.performAll evaluator later []).2.2

/-- A reset means replay, if steps look at an output only after they made one. -/
theorem reset_replays {cls : Class} (evaluator : Option Evaluator) (earlier later : List Step)
    (log : Requests) (ready : (cls.setUp cls.fresh).1 = none)
    (ran : ((cls.setUp cls.fresh).2.performAll evaluator earlier log).1 = .done)
    (first : OutputsFirst later) :
    Replays evaluator (cls.setUp cls.fresh).2 earlier later log := by
  have own := (Class.setUp_ready ready).origin_eq
  generalize (cls.setUp cls.fresh).2 = start at own ran ⊢
  rcases passed : start.performAll evaluator earlier log with ⟨ending, middle, asked⟩
  obtain rfl : ending = .done := by rw [← ran, passed]
  obtain ⟨whole, deeds⟩ := Instance.replay own passed first
  rcases again : start.performAll evaluator later [] with ⟨ending, last, requests⟩
  have same : last.origin = middle.origin :=
    (Instance.origin_of_ran again).trans (Instance.origin_of_ran passed).symm
  rw [Instance.performAll_log later start asked, again] at whole
  exact {
    ending := by rw [whole, again]
    deeds
    captured := by
      rw [whole, passed, again]
      exact Scaffold.captured_withPast _ _ (congrArg Instance.scaffold same)
    requests := by rw [whole, passed, again] }

/-- An agent that gives its responses in turn, and starts over with them after a reset. -/
theorem reset_replays_responses :
    let cls : Class := {
      name := "Desk", kind := .agent
      agents := [{ role := "Writer", responses := ["draft", "text"], tools := ["search"] }]
      tools := [{ name := "search" }] }
    let earlier : List Step := [.execute "Plan" none, .callTool "search" ⟨[.null], []⟩,
      .assert ⟨.executionCount none 1, none⟩]
    let later : List Step := [.assert ⟨.toolCallCount "search" 0, none⟩, .execute "Plan" none,
      .assert ⟨.contains "draft" true, none⟩, .assert ⟨.executionCount none 2, none⟩]
    (cls.setUp cls.fresh).1 = none ∧
      ((cls.setUp cls.fresh).2.performAll none earlier []).1 = .done ∧ OutputsFirst later ∧
      Replays none (cls.setUp cls.fresh).2 earlier later [] :=
  ⟨by rfl, by rfl, by decide, reset_replays none _ _ [] (by rfl) (by rfl) (by decide)⟩

end Fixture

end Rehearsal
