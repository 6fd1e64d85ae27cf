import Rehearsal.Proofs.Fixture.Origin

/-! # Using an instance again

An instance may be set up, run and torn down in any order and as often as one likes. Nothing of that
is left when it is set up: it is then as an instance is that was never used. The class alone decides
whether its agents can be equipped, so an instance whose set-up stops before the scaffold is built
never had anything built on it.
-/

namespace Rehearsal

/-- A call of a hook of an instance. -/
inductive InstanceCall where
  | setUp
  | run (method : String)
  | tearDown
  deriving Repr, DecidableEq

namespace TestClass

variable {ι σ : Type}

def hook (cls : TestClass ι σ) : InstanceCall → Hook ι σ
  | .setUp => cls.setUp
  | .run method => cls.run method
  | .tearDown => cls.tearDown

/-- Where calls of hooks lead, however each of them ends. -/
def after (cls : TestClass ι σ) : List InstanceCall → ι → σ → ι × σ
  | [], inst, state => (inst, state)
  | call :: rest, inst, state =>
    cls.after rest (cls.hook call inst state).2.1 (cls.hook call inst state).2.2

/-- What every hook keeps, any calls keep. -/
theorem after_keeps (cls : TestClass ι σ) {Keeps : ι → Prop}
    (keeps : ∀ call inst state, Keeps inst → Keeps (cls.hook call inst state).2.1)
    (calls : List InstanceCall) {inst : ι} (state : σ) (now : Keeps inst) :
    Keeps (cls.after calls inst state).1 := by
  induction calls generalizing inst state with
  | nil => exact now
  | cons call rest ih => exact ih _ (keeps call inst state now)

end TestClass

theorem AgentCase.tearDown_eq (case : AgentCase) : case.tearDown = {} := rfl

theorem CrewCase.tearDown_eq (case : CrewCase) : case.tearDown = {} := rfl

namespace Fixture

/-- A scaffold of this kind on which nothing was built. -/
def Scaffold.blank : Scaffold → Scaffold
  | .agent _ => .agent {}
  | .crew _ => .crew {}

theorem Kind.blank_scaffold (kind : Kind) : kind.scaffold.blank = kind.scaffold := by
  cases kind <;> rfl

namespace Scaffold

theorem blank_origin (scaffold : Scaffold) : scaffold.origin.blank = scaffold.blank := by
  cases scaffold <;> rfl

theorem agents_blank (scaffold : Scaffold) : scaffold.blank.agents = [] := by
  cases scaffold <;> rfl

theorem setAgents_blank (scaffold : Scaffold) : scaffold.blank.setAgents [] = scaffold.blank := by
  cases scaffold <;> rfl

end Scaffold

/-- Without an agent no step changes the scaffold. -/
theorem Performs.scaffold_blank {inst next : Instance} {step : Step}
    (performs : Performs inst step next) (blank : inst.scaffold = inst.scaffold.blank) :
    next.scaffold = inst.scaffold := by
  cases performs with
  | execute task expectedOutput present =>
      cases blank
      cases present
  | kickoff inputs built run =>
      cases blank
      cases built
  | callTool name call found present => rfl
  | simulate role call found present =>
      rw [blank, Scaffold.agents_blank] at present
      cases present
  | reset =>
      rw [Instance.reset, blank, Scaffold.agents_blank, List.map_nil, Scaffold.setAgents_blank]
  | assert assertion => rfl

namespace Class

theorem assemble_eq_blank (cls : Class) (agents : List Agent) (scaffold : Scaffold) :
    cls.assemble agents scaffold = cls.assemble agents scaffold.blank := by
  cases scaffold <;> rfl

theorem blank_assemble (cls : Class) (agents : List Agent) (scaffold : Scaffold) :
    (cls.assemble agents scaffold).2.blank = scaffold.blank := by
  cases scaffold with
  | agent case => cases agents <;> rfl
  | crew case =>
      rw [assemble]
      split <;> rfl

end Class

/-- What holds of an instance of a class whatever was done with it. -/
structure Lent (cls : Class) (inst : Instance) : Prop where
  kind : inst.scaffold.blank = cls.kind.scaffold
  /-- Nothing was ever built if the agents cannot be equipped. -/
  bare : ∀ fault, cls.agents.mapM (Class.equip cls.toolbox) = .error fault →
    inst.scaffold = cls.kind.scaffold

namespace Lent

variable {cls : Class} {inst : Instance}

theorem fresh (cls : Class) : Lent cls cls.fresh where
  kind := cls.kind.blank_scaffold
  bare _ _ := rfl

/-- By how far the set-up gets: it replaces all that was there, or nothing was there. -/
theorem setUp_eq (lent : Lent cls inst) : cls.setUp inst = cls.setUp cls.fresh := by
  cases equipped : cls.agents.mapM (Class.equip cls.toolbox) with
  | error fault =>
      have bare : inst.scaffold = cls.fresh.scaffold := lent.bare fault equipped
      rw [Class.setUp_of_error inst equipped, Class.setUp_of_error cls.fresh equipped, bare]
  | ok agents =>
      rw [Class.setUp_of_ok inst equipped, Class.setUp_of_ok cls.fresh equipped,
        Class.assemble_eq_blank, lent.kind]
      rfl

theorem setUp (lent : Lent cls inst) : Lent cls (cls.setUp inst).2 := by
  cases equipped : cls.agents.mapM (Class.equip cls.toolbox) with
  | error fault =>
      have kept : (cls.setUp inst).2.scaffold = inst.scaffold := by
        rw [Class.setUp_of_error inst equipped]
      exact ⟨kept ▸ lent.kind, fun fault failed => kept ▸ lent.bare fault failed⟩
  | ok agents =>
      have built : (cls.setUp inst).2.scaffold = (cls.assemble agents inst.scaffold).2 := by
        rw [Class.setUp_of_ok inst equipped]
      refine ⟨?_, fun fault failed => ?_⟩
      · rw [built, Class.blank_assemble, lent.kind]
      · rw [equipped] at failed
        cases failed

theorem tearDown_eq (lent : Lent cls inst) : Class.tearDown inst = cls.fresh := by
  have torn : Class.tearDown inst = { scaffold := inst.scaffold.blank } := by
    obtain ⟨scaffold, tools⟩ := inst
    cases scaffold <;> rfl
  rw [torn, lent.kind]
  rfl

theorem performs {next : Instance} {step : Step} (lent : Lent cls inst)
    (performs : Performs inst step next) : Lent cls next where
  kind := by
    have origin := congrArg (·.scaffold.blank) performs.origin_eq
    simp only [Instance.origin, Scaffold.blank_origin] at origin
    rw [origin, lent.kind]
  bare fault failed := by
    have bare := lent.bare fault failed
    rw [performs.scaffold_blank (by rw [bare, Kind.blank_scaffold]), bare]

theorem hook (evaluator : Option Evaluator) (call : InstanceCall) (inst : Instance)
    (asked : Requests) (lent : Lent cls inst) :
    Lent cls ((cls.toTestClass evaluator).hook call inst asked).2.1 := by
  cases call with
  | setUp => exact lent.setUp
  | tearDown =>
      change Lent cls (Class.tearDown inst)
      rw [lent.tearDown_eq]
      exact fresh cls
  | run method =>
      change Lent cls (cls.run evaluator method inst asked).2.1
      unfold Class.run
      split
      · exact lent
      · exact Instance.performAll_keeps (fun _ inst => Lent cls inst)
          (fun lent performs => lent.performs performs) _ [] asked lent

end Lent

theorem Class.setUp_hook (cls : Class) (evaluator : Option Evaluator) (inst : Instance)
    (asked : Requests) : (cls.toTestClass evaluator).setUp inst asked =
      ((cls.setUp inst).1.elim .done .fault, (cls.setUp inst).2, asked) :=
  rfl

/-- The log of requests only grows, and how a test ends does not depend on it. -/
theorem Class.run_log (cls : Class) (evaluator : Option Evaluator) (method : String)
    (inst : Instance) (asked : Requests) :
    cls.run evaluator method inst asked =
      ((cls.run evaluator method inst []).1, (cls.run evaluator method inst []).2.1,
        asked ++ (cls.run evaluator method inst []).2.2) := by
  unfold Class.run
  split
  · rw [List.append_nil]
  · exact Instance.performAll_log _ inst asked

/-- Whatever was done with an instance, torn down it is as good as new, and set up it is what a new
one is: both set-ups end alike, and so does then a run of any test, which leaves the same behind and
asks the evaluator the same. -/
theorem setUp_starts_over (cls : Class) (evaluator : Option Evaluator) (calls : List InstanceCall)
    (asked asked' : Requests) :
    let hooks := cls.toTestClass evaluator
    let used := hooks.after calls cls.fresh asked
    let again := hooks.setUp used.1 used.2
    let new := hooks.setUp cls.fresh asked'
    (hooks.construct asked').1 = .ok cls.fresh ∧
      (hooks.tearDown used.1 used.2).2.1 = cls.fresh ∧
      again.1 = new.1 ∧ again.2.1 = new.2.1 ∧
      (∀ method,
        let ran := hooks.run method again.2.1 again.2.2
        let ran' := hooks.run method new.2.1 new.2.2
        ran.1 = ran'.1 ∧ ran.2.1 = ran'.2.1 ∧
          ∃ requests, ran.2.2 = used.2 ++ requests ∧ ran'.2.2 = asked' ++ requests) ∧
      (∀ case : AgentCase, case.setUp = {} ∧ case.tearDown = {}) ∧
      ∀ case : CrewCase, case.setUp = {} ∧ case.tearDown = {} := by
  intro hooks used again new
  have lent : Lent cls used.1 :=
    hooks.after_keeps (Lent.hook evaluator) calls asked (Lent.fresh cls)
  have same : again = (new.1, new.2.1, used.2) := by
    simp only [again, new, hooks, Class.setUp_hook, lent.setUp_eq]
  have run (method : String) (log : Requests) : hooks.run method new.2.1 log = _ :=
    cls.run_log evaluator method new.2.1 log
  clear_value again
  subst same
  refine ⟨rfl, lent.tearDown_eq, rfl, rfl, fun method => ?_,
    fun case => ⟨rfl, case.tearDown_eq⟩, fun case => ⟨rfl, case.tearDown_eq⟩⟩
  intro ran ran'
  have first : ran = _ := run method used.2
  have second : ran' = _ := run method asked'
  rw [first, second]
  exact ⟨rfl, rfl, _, rfl, rfl⟩

end Fixture

end Rehearsal
