import Rehearsal.Proofs.Fixture.Reuse
import Rehearsal.Proofs.Runner.Classification

/-! # Classes that can be set up

Setting up builds the agents with the tools that they list, and then the scaffold on them. It stops
at the first thing that is missing, and what is missing is always reported as an error. So whether
a class can be set up is told by its declarations alone, and the tests of one that cannot are on
record as errors without being run.
-/

namespace Rehearsal

namespace Fixture

/-- A class that declares all that it is set up from. -/
structure Class.Complete (cls : Class) : Prop where
  tools : ∀ config ∈ cls.agents, ∀ name ∈ config.tools, name ∈ cls.tools.map (·.name)
  agents : cls.agents ≠ []
  tasks : cls.kind = .crew → cls.tasks ≠ []

instance (cls : Class) : Decidable cls.Complete :=
  decidable_of_iff (_ ∧ _ ∧ _)
    ⟨fun ⟨tools, agents, tasks⟩ => ⟨tools, agents, tasks⟩,
      fun complete => ⟨complete.tools, complete.agents, complete.tasks⟩⟩

/-- Something that a class does not declare, with the fault that says so. -/
inductive Class.Lacks (cls : Class) : Fault → Prop where
  | tool (config : AgentConfig) (name : String) (declared : config ∈ cls.agents)
      (listed : name ∈ config.tools) (undeclared : name ∉ cls.tools.map (·.name)) :
      Lacks cls (undeclaredTool config.role name)
  | agent (single : cls.kind ≠ .crew) (none : cls.agents = []) :
      Lacks cls (.error (cls.name ++ " declares no agents"))
  | crew (several : cls.kind = .crew) (none : cls.agents = []) :
      Lacks cls (.error "Invalid test setup: no agents available, add agents first")
  | tasks (several : cls.kind = .crew) (none : cls.tasks = []) :
      Lacks cls (.error "Invalid test setup: no tasks available, add tasks first")

namespace Class.Lacks

variable {cls : Class} {fault : Fault}

theorem error (lacks : cls.Lacks fault) : ∃ problem, fault = .error problem := by
  cases lacks <;> exact ⟨_, rfl⟩

theorem not_complete (lacks : cls.Lacks fault) : ¬cls.Complete := by
  intro complete
  cases lacks with
  | tool config name declared listed undeclared =>
      exact undeclared (complete.tools config declared name listed)
  | agent _ none | crew _ none => exact complete.agents none
  | tasks several none => exact complete.tasks several none

end Class.Lacks

/-! What equipping the agents needs. -/

theorem mapM_error {ε α β : Type} {f : α → Except ε β} {xs : List α} {problem : ε}
    (failed : xs.mapM f = .error problem) : ∃ x ∈ xs, f x = .error problem := by
  induction xs with
  | nil => cases failed
  | cons x rest ih =>
      rw [List.mapM_cons] at failed
      cases first : f x with
      | error other =>
          obtain rfl : other = problem := by simpa [first, bind, Except.bind] using failed
          exact ⟨x, List.mem_cons_self, first⟩
      | ok y =>
          cases others : rest.mapM f with
          | ok values =>
              simp [first, others, bind, Except.bind, pure, Except.pure] at failed
          | error other =>
              obtain rfl : other = problem := by
                simpa [first, others, bind, Except.bind] using failed
              obtain ⟨later, member, found⟩ := ih others
              exact ⟨later, List.mem_cons_of_mem x member, found⟩

namespace Class

theorem attachAll_error {tools : Toolbox} {role : String} {names : List String} {agent : Agent}
    {fault : Fault}
    (failed : names.foldlM (fun agent name =>
      match tools.handleOf? name with
      | some handle => Except.ok (agent.attach handle)
      | none => .error (undeclaredTool role name)) agent = Except.error fault) :
    ∃ name ∈ names, tools.handleOf? name = none ∧ fault = undeclaredTool role name := by
  induction names generalizing agent with
  | nil => cases failed
  | cons name rest ih =>
      rw [List.foldlM_cons] at failed
      cases found : tools.handleOf? name with
      | none =>
          obtain rfl : undeclaredTool role name = fault := by
            simpa [found, bind, Except.bind] using failed
          exact ⟨name, List.mem_cons_self, found, rfl⟩
      | some handle =>
          simp only [found, bind, Except.bind] at failed
          obtain ⟨other, member, missing⟩ := ih failed
          exact ⟨other, List.mem_cons_of_mem name member, missing⟩

theorem equip_lacks {cls : Class} {fault : Fault}
    (failed : cls.agents.mapM (equip cls.toolbox) = .error fault) : cls.Lacks fault := by
  obtain ⟨config, declared, failed⟩ := mapM_error failed
  obtain ⟨name, listed, missing, rfl⟩ := attachAll_error failed
  rw [handleOf?_eq_none, names_toolbox] at missing
  exact .tool config name declared listed missing

end Class

/-- What an agent was equipped with is declared. -/
theorem Equipped.declared {tools : Toolbox} {config : AgentConfig} {agent : Agent}
    (equipped : Equipped tools config agent) :
    ∀ name ∈ config.tools, name ∈ tools.map (·.name) := by
  obtain ⟨handles, held, -⟩ := equipped
  intro name listed
  by_contra undeclared
  generalize config.tools = names at held listed
  induction held with
  | nil => cases listed
  | cons found _ ih =>
      rcases List.mem_cons.mp listed with rfl | listed
      · cases found.symm.trans (handleOf?_eq_none.mpr undeclared)
      · exact ih listed

namespace Class

variable {cls : Class} {agents : List Agent}

theorem declared_of_equipped (equipped : cls.agents.mapM (equip cls.toolbox) = .ok agents) :
    ∀ config ∈ cls.agents, ∀ name ∈ config.tools, name ∈ cls.tools.map (·.name) := by
  intro config declared name listed
  obtain ⟨place, inside, rfl⟩ := List.getElem_of_mem declared
  have each := mapM_forall₂ equipped
  have own := each.get inside (each.length_eq ▸ inside)
  rw [← names_toolbox]
  exact (equip_ok own).declared name listed

/-! What the scaffold needs. -/

theorem assemble_crew (several : cls.kind = .crew) (agents : List Agent) :
    (cls.assemble agents cls.kind.scaffold).1 =
      if agents = [] then
        some (.error "Invalid test setup: no agents available, add agents first")
      else if cls.tasks = [] then
        some (.error "Invalid test setup: no tasks available, add tasks first")
      else none := by
  simp only [several, Kind.scaffold, assemble, CrewCase.setUp, CrewCase.foldl_addAgent,
    CrewCase.foldl_addTask, CrewCase.createCrew, List.nil_append, List.isEmpty_iff, List.map_eq_nil_iff]
  split_ifs <;> rfl

theorem assemble_single (single : cls.kind ≠ .crew) (agents : List Agent) :
    (cls.assemble agents cls.kind.scaffold).1 =
      if agents = [] then some (.error (cls.name ++ " declares no agents")) else none := by
  rw [Kind.scaffold_single single]
  cases agents <;> rfl

theorem assemble_lacks {fault : Fault} (empty : agents = [] → cls.agents = [])
    (failed : (cls.assemble agents cls.kind.scaffold).1 = some fault) : cls.Lacks fault := by
  by_cases several : cls.kind = .crew
  · rw [assemble_crew several] at failed
    split_ifs at failed with noAgents noTasks
    · cases failed
      exact .crew several (empty noAgents)
    · cases failed
      exact .tasks several noTasks
  · rw [assemble_single several] at failed
    split_ifs at failed with noAgents
    cases failed
    exact .agent several (empty noAgents)

theorem assemble_done (done : (cls.assemble agents cls.kind.scaffold).1 = none) :
    agents ≠ [] ∧ (cls.kind = .crew → cls.tasks ≠ []) := by
  by_cases several : cls.kind = .crew
  · rw [assemble_crew several] at done
    split_ifs at done with noAgents noTasks
    exact ⟨noAgents, fun _ => noTasks⟩
  · rw [assemble_single several] at done
    split_ifs at done with noAgents
    exact ⟨noAgents, fun crew => absurd crew several⟩

/-- The set-up of a new instance ends well, with all declared, or at something that is lacking. -/
theorem setUp_fresh (cls : Class) :
    ((cls.setUp cls.fresh).1 = none ∧ cls.Complete) ∨
      ∃ fault, (cls.setUp cls.fresh).1 = some fault ∧ cls.Lacks fault := by
  cases equipped : cls.agents.mapM (equip cls.toolbox) with
  | error fault =>
      rw [setUp_of_error cls.fresh equipped]
      exact .inr ⟨fault, rfl, equip_lacks equipped⟩
  | ok agents =>
      have empty : agents = [] ↔ cls.agents = [] := by
        rw [← List.length_eq_zero_iff, ← (mapM_forall₂ equipped).length_eq,
          List.length_eq_zero_iff]
      rw [setUp_of_ok cls.fresh equipped, fresh]
      cases ended : (cls.assemble agents cls.kind.scaffold).1 with
      | none =>
          obtain ⟨filled, tasks⟩ := assemble_done ended
          exact .inl ⟨rfl, declared_of_equipped equipped, mt empty.mpr filled, tasks⟩
      | some fault => exact .inr ⟨fault, rfl, assemble_lacks empty.mp ended⟩

end Class

/-- Whatever was done with an instance before, its set-up ends as that of a new one. -/
theorem Class.setUp_again (cls : Class) (evaluator : Option Evaluator) (calls : List InstanceCall)
    (asked : Requests) :
    let hooks := cls.toTestClass evaluator
    let used := hooks.after calls cls.fresh asked
    (hooks.setUp used.1 used.2).1 = (cls.setUp cls.fresh).1.elim .done .fault := by
  intro hooks used
  have lent : Lent cls used.1 :=
    hooks.after_keeps (Lent.hook evaluator) calls asked (Lent.fresh cls)
  rw [Class.setUp_hook, lent.setUp_eq]

/-- A test of a class that cannot be set up. -/
theorem Class.takes_notSetUp {cls : Class} {fault : Fault} (evaluator : Option Evaluator)
    (failed : (cls.setUp cls.fresh).1 = some fault) (method : String) (asked : Requests) :
    TestUnit.Takes ⟨cls.toTestClass evaluator, method⟩ asked
      (.notSetUp (.fault fault) .done (by simp)) := by
  have stopped : (cls.toTestClass evaluator).setUp cls.fresh asked =
      (.fault fault, (cls.setUp cls.fresh).2, asked) := by
    rw [Class.setUp_hook, failed]
    rfl
  exact TestUnit.takes_notSetUp (by simp) rfl stopped

/-- A test of a class that can be set up ends as its steps do. -/
theorem Class.takes_ran {cls : Class} {method : String} {test : Test} (evaluator : Option Evaluator)
    (done : (cls.setUp cls.fresh).1 = none)
    (found : cls.tests.find? (·.name == method) = some test) (asked : Requests) :
    TestUnit.Takes ⟨cls.toTestClass evaluator, method⟩ asked
      (.ran ((cls.setUp cls.fresh).2.performAll evaluator test.steps []).1 .done) := by
  have setUp : (cls.toTestClass evaluator).setUp cls.fresh asked =
      (.done, (cls.setUp cls.fresh).2, asked) := by
    rw [Class.setUp_hook, done]
    rfl
  have run : (cls.toTestClass evaluator).run method (cls.setUp cls.fresh).2 asked =
      (cls.setUp cls.fresh).2.performAll evaluator test.steps asked := by
    simp only [toTestClass, Class.run, found]
  rw [Instance.performAll_log] at run
  exact TestUnit.takes_ran rfl setUp run

/-- An instance can be set up exactly if its class is complete, whatever was done with it before.
The set-up of any other class ends in the same error each time, and each of its units in a suite
goes on record with that error, torn down without a fault and without its test being run. -/
theorem setUp_done_iff_complete (cls : Class) (evaluator : Option Evaluator) :
    let hooks := cls.toTestClass evaluator
    (∀ calls asked,
      let used := hooks.after calls cls.fresh asked
      (hooks.setUp used.1 used.2).1 = .done ↔ cls.Complete) ∧
    (¬cls.Complete → ∃ problem, cls.Lacks (.error problem) ∧
      (∀ calls asked,
        let used := hooks.after calls cls.fresh asked
        (hooks.setUp used.1 used.2).1 = .fault (.error problem)) ∧
      ∀ (runner : Runner) (before after : List (TestUnit Instance Requests)) (method : String)
        (skipped : List LoadFault) (asked : Requests),
        let suite : Suite Instance Requests := ⟨before ++ ⟨hooks, method⟩ :: after, skipped⟩
        callsAt before.length (runner.run suite.logged (asked, [])).2.2 =
            [.construct none, .setUp (.fault (.error problem)), .tearDown .done] ∧
          ∃ record, (runner.run suite asked).1.1.records[before.length]? = some record ∧
            record.unitId = cls.name ++ "." ++ method ∧ record.outcome = .error problem ∧
            record.teardownFault = none) := by
  intro hooks
  rcases cls.setUp_fresh with ⟨done, complete⟩ | ⟨fault, failed, lacks⟩
  · refine ⟨fun calls asked => ?_, fun incomplete => absurd complete incomplete⟩
    intro used
    have ended : (hooks.setUp used.1 used.2).1 = _ := cls.setUp_again evaluator calls asked
    rw [ended, done]
    exact iff_of_true rfl complete
  · obtain ⟨problem, rfl⟩ := lacks.error
    have each (calls : List InstanceCall) (asked : Requests) :
        let used := hooks.after calls cls.fresh asked
        (hooks.setUp used.1 used.2).1 = .fault (.error problem) := by
      intro used
      have ended : (hooks.setUp used.1 used.2).1 = _ := cls.setUp_again evaluator calls asked
      rw [ended, failed]
      rfl
    refine ⟨fun calls asked => ?_, fun _ => ⟨problem, lacks, each, ?_⟩⟩
    · intro used
      rw [each calls asked]
      exact iff_of_false (by simp) lacks.not_complete
    · intro runner before after method skipped asked suite
      obtain ⟨course, earlier, later, ⟨here, takes⟩, calls, result, length⟩ :=
        runner.run_takes before after ⟨hooks, method⟩ skipped asked
      obtain ⟨same, verdicts⟩ := takes.unique (cls.takes_notSetUp evaluator failed method here)
      refine ⟨calls.trans same, TestUnit.record ⟨hooks, method⟩ course.verdicts, ?_, rfl, ?_, ?_⟩
      · rw [result, ← length]
        simp [RunResult.ofRecords]
      · exact congrArg Verdicts.outcome verdicts
      · exact congrArg Verdicts.teardownFault verdicts

/-- The tasks of a crew class do not make up for an agent. -/
example : ¬Class.Complete {
    name := "Desk", kind := .crew, tasks := [{ description := "Plan" }] } := by
  decide

end Fixture

end Rehearsal
