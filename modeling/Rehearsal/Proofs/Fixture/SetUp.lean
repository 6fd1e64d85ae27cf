import Mathlib.Data.List.Forall2
import Rehearsal.Fixture.Instance
import Rehearsal.Proofs.Case.Filling

/-! # What setting up leaves

An instance that was set up is told by its class: which agents it works with and the handles that
they hold, and for a crew the tasks with the roles that they are assigned to.
-/

namespace Rehearsal.Fixture

/-- An agent as it is set up, with handles of the tools that it lists. -/
def Equipped (tools : Toolbox) (config : AgentConfig) (agent : Agent) : Prop :=
  ∃ handles, List.Forall₂ (fun name handle => tools.handleOf? name = some handle)
      config.tools handles ∧
    agent = { Agent.ofConfig config with tools := handles }

namespace Class

/-- The tools that a class declares. -/
def toolbox (cls : Class) : Toolbox :=
  cls.tools.map Tool.ofConfig

/-- The agents that the tests of a class work with. Without a crew it is the first alone. -/
def cast (cls : Class) : List AgentConfig :=
  match cls.kind with
  | .crew => cls.agents
  | .agent | .other => cls.agents.take 1

def roles (cls : Class) : List String :=
  cls.cast.map (·.role)

/-- The tasks of a crew, of which those without a role go to the first agent. -/
def assigned (cls : Class) : List Task :=
  cls.tasks.map fun task =>
    { task with agent := task.agent.or (cls.agents.head?.map (·.role)) }

end Class

/-- What a class is set up for stands ready, and nothing was done with it. -/
inductive Staged (cls : Class) : Scaffold → Prop where
  | agent {agent : Agent} (single : cls.kind ≠ .crew) : Staged cls (.agent { agent := some agent })
  | crew {agents : List Agent} (several : cls.kind = .crew) :
      Staged cls (.crew {
        crew := some { agents, tasks := cls.assigned }, agents, tasks := cls.assigned })

theorem Staged.agent_eq {cls : Class} {case : AgentCase} (staged : Staged cls (.agent case)) :
    cls.kind ≠ .crew ∧ ∃ agent, case = { agent := some agent } := by
  cases staged with
  | agent single => exact ⟨single, _, rfl⟩

theorem Staged.crew_eq {cls : Class} {case : CrewCase} (staged : Staged cls (.crew case)) :
    ∃ agents, cls.kind = .crew ∧
      case = { crew := some { agents, tasks := cls.assigned }, agents, tasks := cls.assigned } := by
  cases staged with
  | crew several => exact ⟨_, several, rfl⟩

/-- An instance of a class as setting up leaves it. -/
structure Ready (cls : Class) (start : Instance) : Prop where
  tools : start.tools = cls.toolbox
  agents : List.Forall₂ (Equipped cls.toolbox) cls.cast start.scaffold.agents
  staged : Staged cls start.scaffold

theorem Kind.scaffold_single {kind : Kind} (single : kind ≠ .crew) :
    kind.scaffold = .agent {} := by
  cases kind with
  | crew => exact absurd rfl single
  | agent | other => rfl

theorem Class.names_toolbox (cls : Class) :
    cls.toolbox.map (·.name) = cls.tools.map (·.name) := by
  rw [toolbox, List.map_map]
  rfl

theorem mapM_forall₂ {ε α β : Type} {f : α → Except ε β} {xs : List α} {ys : List β}
    (mapped : xs.mapM f = .ok ys) : List.Forall₂ (fun x y => f x = .ok y) xs ys := by
  induction xs generalizing ys with
  | nil =>
      cases mapped
      exact .nil
  | cons x rest ih =>
      rw [List.mapM_cons] at mapped
      cases first : f x with
      | error => simp [first, bind, Except.bind] at mapped
      | ok y =>
          cases others : rest.mapM f with
          | error => simp [first, others, bind, Except.bind] at mapped
          | ok values =>
              simp only [first, others, bind, Except.bind, pure, Except.pure,
                Except.ok.injEq] at mapped
              subst mapped
              exact .cons first (ih others)

namespace Class

theorem attachAll_ok {tools : Toolbox} {role : String} {names : List String}
    {agent equipped : Agent}
    (done : names.foldlM (fun agent name =>
      match tools.handleOf? name with
      | some handle => Except.ok (agent.attach handle)
      | none => .error (undeclaredTool role name)) agent = Except.ok equipped) :
    ∃ handles, List.Forall₂ (fun name handle => tools.handleOf? name = some handle) names handles ∧
      equipped = { agent with tools := agent.tools ++ handles } := by
  induction names generalizing agent with
  | nil =>
      cases done
      exact ⟨[], .nil, by simp⟩
  | cons name rest ih =>
      rw [List.foldlM_cons] at done
      cases found : tools.handleOf? name with
      | none => simp [found, bind, Except.bind] at done
      | some handle =>
          simp only [found, bind, Except.bind] at done
          obtain ⟨handles, held, rfl⟩ := ih done
          exact ⟨handle :: handles, .cons found held, by simp [Agent.attach]⟩

theorem equip_ok {tools : Toolbox} {config : AgentConfig} {agent : Agent}
    (done : equip tools config = .ok agent) : Equipped tools config agent := by
  obtain ⟨handles, held, rfl⟩ := attachAll_ok done
  exact ⟨handles, held, by simp [Agent.ofConfig]⟩

theorem equipped_roles {tools : Toolbox} {configs : List AgentConfig} {agents : List Agent}
    (equipped : List.Forall₂ (Equipped tools) configs agents) :
    agents.map (·.role) = configs.map (·.role) := by
  induction equipped with
  | nil => rfl
  | cons first _ ih =>
      obtain ⟨_, _, rfl⟩ := first
      rw [List.map_cons, List.map_cons, ih]
      rfl

/-- By the kind of the class: assembling either faults or has everything in place. -/
theorem assemble_staged {cls : Class} {agents : List Agent} {scaffold : Scaffold}
    (equipped : List.Forall₂ (Equipped cls.toolbox) cls.agents agents)
    (done : cls.assemble agents cls.kind.scaffold = (none, scaffold)) :
    List.Forall₂ (Equipped cls.toolbox) cls.cast scaffold.agents ∧ Staged cls scaffold := by
  have heads : agents.head?.map (·.role) = cls.agents.head?.map (·.role) := by
    simpa using congrArg List.head? (equipped_roles equipped)
  by_cases several : cls.kind = .crew
  · simp only [several, Kind.scaffold, assemble, CrewCase.setUp, CrewCase.foldl_addAgent,
      CrewCase.foldl_addTask, List.nil_append, heads] at done
    split at done
    · cases done
    · rename_i built
      obtain ⟨-, -, rfl, rfl⟩ := CrewCase.createCrew_eq_ok_iff.mp built
      cases done
      refine ⟨?_, .crew several⟩
      simpa only [cast, several, Scaffold.agents, Option.map_some, Option.getD_some] using equipped
  · have alone : cls.cast = cls.agents.take 1 := by
      unfold cast
      cases kind : cls.kind with
      | crew => exact absurd kind several
      | agent | other => rfl
    rw [Kind.scaffold_single several] at done
    cases agents with
    | nil => cases done
    | cons agent others =>
        cases done
        obtain ⟨config, rest, first, -, declared⟩ := List.forall₂_cons_right_iff.mp equipped
        rw [alone, declared]
        exact ⟨.cons first .nil, .agent several⟩

/-! One equation of the set-up for each way that equipping the agents ends. -/

section SetUp

variable {cls : Class} (inst : Instance)

theorem setUp_of_error {fault : Fault}
    (failed : cls.agents.mapM (equip cls.toolbox) = .error fault) :
    cls.setUp inst = (some fault, { inst with tools := cls.toolbox }) := by
  rw [toolbox] at failed
  simp only [setUp, failed, toolbox]

theorem setUp_of_ok {agents : List Agent}
    (equipped : cls.agents.mapM (equip cls.toolbox) = .ok agents) :
    cls.setUp inst = ((cls.assemble agents inst.scaffold).1,
      ⟨(cls.assemble agents inst.scaffold).2, cls.toolbox⟩) := by
  rw [toolbox] at equipped
  simp only [setUp, equipped, toolbox]

end SetUp

/-- An instance is ready once it was set up without a fault. -/
theorem setUp_ready {cls : Class} (done : (cls.setUp cls.fresh).1 = none) :
    Ready cls (cls.setUp cls.fresh).2 := by
  cases built : cls.agents.mapM (equip cls.toolbox) with
  | error fault =>
      rw [setUp_of_error cls.fresh built] at done
      cases done
  | ok agents =>
      have equipped : List.Forall₂ (Equipped cls.toolbox) cls.agents agents :=
        (mapM_forall₂ built).imp fun _ _ => equip_ok
      rw [setUp_of_ok cls.fresh built] at done ⊢
      rcases assembled : cls.assemble agents cls.kind.scaffold with ⟨fault, scaffold⟩
      simp only [fresh, assembled] at done ⊢
      subst done
      obtain ⟨agents, staged⟩ := assemble_staged equipped assembled
      exact ⟨rfl, agents, staged⟩

end Class

end Rehearsal.Fixture
