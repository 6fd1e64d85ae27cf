import Rehearsal.Proofs.Fixture.Performing
import Rehearsal.Proofs.Fixture.SetUp

/-! # Where an instance comes from

Steps only add to what agents, tools and scaffolds have on record. The origin of an instance is what
is left when all of that is taken away, and no step changes it. For an instance that was set up it
is the instance as it was then, so what a class declares can be read off at any time.
-/

namespace Rehearsal

/-- The scaffold before its agent did anything. -/
def AgentCase.origin (case : AgentCase) : AgentCase where
  agent := case.agent.map Agent.reset

def CrewCase.origin (case : CrewCase) : CrewCase where
  crew := case.crew.map fun crew => crew.replaceAgents (crew.agents.map Agent.reset)
  agents := case.agents
  tasks := case.tasks

namespace Agent

theorem reset_execute (agent : Agent) (task : Task) : (agent.execute task).2.reset = agent.reset :=
  rfl

theorem reset_simulate (agent : Agent) (call : SimulatedCall) :
    (agent.simulate call).reset = agent.reset :=
  rfl

end Agent

theorem Tool.reset_record (tool : Tool) (call : ToolCall) : (tool.record call).reset = tool.reset :=
  rfl

theorem Crew.reset_standing (crew : Crew) (work : Work) :
    (crew.standing work).map Agent.reset = crew.agents.map Agent.reset := by
  apply List.ext_getElem?
  intro place
  rw [List.getElem?_map, standing_getElem?, List.getElem?_map, Option.map_map]
  rfl

/-- Putting an entry in place of one that looks the same changes nothing in the looks. -/
theorem map_set_same {α β : Type} {f : α → β} {entries : List α} {place : Nat} {old new : α}
    (present : entries[place]? = some old) (same : f new = f old) :
    (entries.set place new).map f = entries.map f := by
  obtain ⟨inside, rfl⟩ := List.getElem?_eq_some_iff.mp present
  apply List.ext_getElem?
  intro other
  rw [List.map_set, List.getElem?_set, same]
  by_cases here : place = other
  · subst here
    simp [inside]
  · simp [here]

namespace Fixture

def Scaffold.origin : Scaffold → Scaffold
  | .agent case => .agent case.origin
  | .crew case => .crew case.origin

/-- The instance before anything was done. -/
def Instance.origin (inst : Instance) : Instance where
  scaffold := inst.scaffold.origin
  tools := inst.tools.map Tool.reset

namespace Scaffold

theorem agents_origin (scaffold : Scaffold) :
    scaffold.origin.agents = scaffold.agents.map Agent.reset := by
  cases scaffold with
  | agent case => cases present : case.agent <;> simp [origin, AgentCase.origin, agents, present]
  | crew case =>
      cases built : case.crew <;>
        simp [origin, CrewCase.origin, Crew.replaceAgents, agents, built]

/-- The origin shows nothing of the agents but what is left of them when they are reset. -/
theorem origin_setAgents {agents : List Agent} {scaffold : Scaffold}
    (same : agents.map Agent.reset = scaffold.agents.map Agent.reset) :
    (scaffold.setAgents agents).origin = scaffold.origin := by
  cases scaffold with
  | agent case =>
      have first : agents.head?.map Agent.reset = case.agent.map Agent.reset := by
        rw [← List.head?_map, same]
        cases present : case.agent <;> simp [Scaffold.agents, present]
      simp only [setAgents, origin, AgentCase.origin, first]
  | crew case =>
      cases built : case.crew with
      | none => simp [setAgents, origin, CrewCase.origin, CrewCase.updateCrew, built]
      | some crew =>
          have reset : agents.map Agent.reset = crew.agents.map Agent.reset := by
            simpa [Scaffold.agents, built] using same
          simp [setAgents, origin, CrewCase.origin, CrewCase.updateCrew, Crew.replaceAgents, built,
            reset]

end Scaffold

theorem handleOf?_names (tools : Toolbox) (name : String) :
    tools.handleOf? name = (tools.map (·.name)).findIdx? (· == name) := by
  rw [List.findIdx?_map]
  rfl

theorem handleOf?_eq_none {tools : Toolbox} {name : String} :
    tools.handleOf? name = none ↔ name ∉ tools.map (·.name) := by
  rw [handleOf?_names, List.findIdx?_eq_none_iff]
  simp

theorem Performs.origin_eq {inst next : Instance} {step : Step} (performs : Performs inst step next) :
    next.origin = inst.origin := by
  cases performs with
  | execute task expectedOutput present =>
      simp only [Instance.origin, Scaffold.origin, AgentCase.origin, AgentCase.answered, present,
        Option.map_some, Agent.reset_execute]
  | kickoff inputs built run =>
      obtain ⟨rfl, -, -⟩ := Crew.kickoff_ok run
      simp only [Instance.origin, Scaffold.origin, CrewCase.origin, CrewCase.ran, built,
        Option.map_some, Crew.replaceAgents, Crew.having, Crew.reset_standing]
  | callTool name call found present =>
      have tools := map_set_same (f := Tool.reset) present (Tool.reset_record _ call)
      simp only [Instance.origin, tools]
  | simulate role call found present =>
      have agents := map_set_same (f := Agent.reset) present (Agent.reset_simulate _ call)
      simp only [Instance.origin, Scaffold.origin_setAgents agents]
  | reset =>
      have again : (inst.scaffold.agents.map Agent.reset).map Agent.reset =
          inst.scaffold.agents.map Agent.reset := by
        rw [List.map_map]
        rfl
      simp only [Instance.origin, Instance.reset, Scaffold.origin_setAgents again, List.map_map]
      rfl
  | assert => rfl

namespace Instance

variable {evaluator : Option Evaluator}

theorem performAll_origin (steps : List Step) (inst : Instance) (log : Requests) :
    (inst.performAll evaluator steps log).2.1.origin = inst.origin :=
  performAll_keeps (fun _ last => last.origin = inst.origin)
    (fun same performs => performs.origin_eq.trans same) steps [] log rfl

theorem origin_of_ran {start last : Instance} {steps : List Step} {log requests : Requests}
    {ending : Ending} (ran : start.performAll evaluator steps log = (ending, last, requests)) :
    last.origin = start.origin := by
  rw [← performAll_origin steps start log, ran]

end Instance

theorem Equipped.reset {tools : Toolbox} {config : AgentConfig} {agent : Agent}
    (equipped : Equipped tools config agent) : agent.reset = agent := by
  obtain ⟨handles, -, rfl⟩ := equipped
  have rewound : (ResponseQueue.ofList config.responses).rewind = .ofList config.responses := by
    unfold ResponseQueue.ofList
    split <;> rfl
  simp only [Agent.reset, Agent.ofConfig, rewound]

namespace Ready

variable {cls : Class} {inst : Instance}

theorem reset_agents {start : Instance} (ready : Ready cls start) :
    start.scaffold.agents.map Agent.reset = start.scaffold.agents := by
  have same : ∀ {configs agents}, List.Forall₂ (Equipped cls.toolbox) configs agents →
      agents.map Agent.reset = agents := by
    intro configs agents equipped
    induction equipped with
    | nil => rfl
    | cons first _ ih => rw [List.map_cons, first.reset, ih]
  exact same ready.agents

/-- What was set up is its own origin. -/
theorem origin_eq {start : Instance} (ready : Ready cls start) : start.origin = start := by
  obtain ⟨scaffold, tools⟩ := start
  have agents := ready.reset_agents
  obtain ⟨rfl, -, staged⟩ := ready
  have fresh : cls.toolbox.map Tool.reset = cls.toolbox := by
    rw [Class.toolbox, List.map_map]
    rfl
  simp only [Instance.origin, fresh, Instance.mk.injEq, and_true]
  cases staged with
  | agent =>
      simp only [Scaffold.agents, Option.toList_some, List.map_cons, List.map_nil,
        List.cons.injEq, and_true] at agents
      simp only [Scaffold.origin, AgentCase.origin, Option.map_some, agents]
  | crew =>
      simp only [Scaffold.agents, Option.map_some, Option.getD_some] at agents
      simp only [Scaffold.origin, CrewCase.origin, Option.map_some, Crew.replaceAgents, agents]

/-! What is known of an instance whose origin is that of its class. -/

theorem roles_eq (ready : Ready cls inst.origin) :
    inst.scaffold.agents.map (·.role) = cls.roles := by
  have roles := Class.equipped_roles ready.agents
  rw [Instance.origin, Scaffold.agents_origin, List.map_map] at roles
  exact roles

theorem handleOf?_eq (ready : Ready cls inst.origin) (name : String) :
    inst.tools.handleOf? name = cls.toolbox.handleOf? name := by
  have names := congrArg (List.map (·.name)) ready.tools
  rw [Instance.origin, List.map_map] at names
  rw [handleOf?_names, handleOf?_names, ← names]
  rfl

/-- An agent holds the handles of the tools that its declaration lists. -/
theorem held (ready : Ready cls inst.origin) {place : Nat} {agent : Agent} {config : AgentConfig}
    (present : inst.scaffold.agents[place]? = some agent)
    (declared : cls.cast[place]? = some config) :
    List.Forall₂ (fun name handle => inst.tools.handleOf? name = some handle)
      config.tools agent.tools := by
  obtain ⟨inside, rfl⟩ := List.getElem?_eq_some_iff.mp present
  obtain ⟨inside', rfl⟩ := List.getElem?_eq_some_iff.mp declared
  have agents := ready.agents
  rw [Instance.origin, Scaffold.agents_origin] at agents
  have equipped := agents.get inside' (by simpa using inside)
  obtain ⟨handles, held, same⟩ := equipped
  have tools : inst.scaffold.agents[place].tools = handles := by
    simpa [Agent.reset] using congrArg Agent.tools same
  rw [tools]
  simp only [ready.handleOf?_eq]
  exact held

theorem crew_built {case : CrewCase} {tools : Toolbox}
    (ready : Ready cls (Instance.origin ⟨.crew case, tools⟩)) :
    ∃ crew, case.crew = some crew ∧ crew.tasks = cls.assigned := by
  obtain ⟨agents, -, before⟩ := ready.staged.crew_eq
  cases built : case.crew with
  | none => simp [CrewCase.origin, built] at before
  | some crew =>
      refine ⟨crew, rfl, ?_⟩
      simp only [CrewCase.origin, built, Option.map_some, Crew.replaceAgents, CrewCase.mk.injEq,
        Option.some.injEq, Crew.mk.injEq] at before
      exact before.1.2.1

theorem tasks_eq {case : CrewCase} {tools : Toolbox} {crew : Crew}
    (ready : Ready cls (Instance.origin ⟨.crew case, tools⟩)) (built : case.crew = some crew) :
    crew.tasks = cls.assigned := by
  obtain ⟨_, built', tasks⟩ := ready.crew_built
  rw [built] at built'
  cases built'
  exact tasks

/-- Checks look at the same agents that steps act on. -/
theorem agent?_eq (ready : Ready cls inst.origin) (role : Option String) :
    inst.scaffold.agent? role =
      (placeOf cls.roles role).bind fun place => inst.scaffold.agents[place]? := by
  rw [← ready.roles_eq, ← findIdx?_role]
  obtain ⟨scaffold, tools⟩ := inst
  cases scaffold with
  | agent case =>
      cases present : case.agent with
      | none => simp [Scaffold.agent?, Scaffold.agents, present]
      | some agent =>
          simp only [Scaffold.agent?, Scaffold.agents, present, Option.filter, Option.toList_some,
            List.findIdx?_cons, List.findIdx?_nil]
          by_cases fits : role.all (agent.role == ·) = true <;> simp [fits]
  | crew case =>
      obtain ⟨crew, built, -⟩ := ready.crew_built
      simp only [Scaffold.agent?, Scaffold.agents, CrewCase.currentAgents, built, Option.map_some,
        Option.getD_some, List.find?_eq_bind_findIdx?_getElem?]

end Ready

end Fixture

end Rehearsal
