import Mathlib.Data.List.Induction
import Rehearsal.Proofs.Case.Operations

/-! # When operations fail

Whether an operation fails is told from what was done since the scaffold was last set up or torn
down: it fails if what it needs was not added or built since, and for no other reason. What it needs
it looks up before it changes anything, so an operation that fails leaves the scaffold as it was.
-/

namespace Rehearsal

section Since

variable {σ ω : Type} (step : σ → ω → σ) (start : σ) (clears : ω → Prop) (does : σ → ω → Prop)

/-- Of the operations one did something in the state that those before it led to, and none after it
cleared the state. -/
def DoneSince (operations : List ω) : Prop :=
  ∃ earlier operation later, operations = earlier ++ operation :: later ∧
    does (earlier.foldl step start) operation ∧ ∀ other ∈ later, ¬ clears other

theorem doneSince_concat (operations : List ω) (last : ω) :
    DoneSince step start clears does (operations ++ [last]) ↔
      does (operations.foldl step start) last ∨
        ¬ clears last ∧ DoneSince step start clears does operations := by
  constructor
  · rintro ⟨earlier, operation, later, split, done, kept⟩
    -- what was done is the last operation, or stands among those before it
    rcases List.eq_nil_or_concat later with rfl | ⟨before, final, rfl⟩
    · obtain ⟨rfl, same⟩ := List.append_inj' split rfl
      cases same
      exact .inl done
    · rw [List.concat_eq_append, ← List.cons_append, ← List.append_assoc] at split
      obtain ⟨rfl, same⟩ := List.append_inj' split rfl
      cases same
      refine .inr ⟨kept last (by simp), earlier, operation, before, rfl, done, ?_⟩
      exact fun other member => kept other (by simp [member])
  · rintro (done | ⟨keeps, earlier, operation, later, rfl, done, kept⟩)
    · exact ⟨operations, last, [], rfl, done, by simp⟩
    · refine ⟨earlier, operation, later ++ [last], by simp, done, ?_⟩
      intro other member
      rcases List.mem_append.mp member with before | now
      · exact kept other before
      · rwa [List.mem_singleton.mp now]

variable {step start clears does}

/-- What only some operations bring about and only clearing undoes holds if it was done since. -/
theorem holds_iff_doneSince (holds : σ → Prop) (fresh : ¬ holds start)
    (next : ∀ state operation, holds (step state operation) ↔
      does state operation ∨ ¬ clears operation ∧ holds state)
    (operations : List ω) : holds (operations.foldl step start) ↔
      DoneSince step start clears does operations := by
  induction operations using List.reverseRecOn with
  | nil => exact iff_of_false fresh (by rintro ⟨earlier, _, _, split, -⟩; simp at split)
  | append_singleton operations last ih =>
      rw [List.foldl_append, List.foldl_cons, List.foldl_nil, next, doneSince_concat, ih]

end Since

def Fails {α : Type} (result : Except Error α) : Prop :=
  ∃ problem, result = .error problem

namespace AgentCase

section Step

variable (case : AgentCase)

theorem requireAgent_fails_iff {α : Type} (act : Agent → α) :
    Fails (case.requireAgent >>= fun agent => pure (act agent)) ↔ case.agent = none := by
  unfold requireAgent
  split
  · rename_i agent present
    exact iff_of_false (fun ⟨_, failed⟩ => nomatch failed) (by simp [present])
  · rename_i absent
    exact iff_of_true ⟨_, rfl⟩ absent

theorem createTask_fails_iff (description : String) (expectedOutput : Option String) :
    Fails (case.createTask description expectedOutput) ↔ case.agent = none :=
  case.requireAgent_fails_iff _

theorem execute_fails_iff (task : Task) : Fails (case.execute task) ↔ case.agent = none :=
  case.requireAgent_fails_iff _

theorem step_agent_isSome (operation : Operation) :
    (case.step operation).agent.isSome =
      (operation.setsAgent || !operation.clears && case.agent.isSome) := by
  cases operation with
  | setUp | tearDown | useAgent => rfl
  | updateAgent | createTask | execute => obtain ⟨_ | agent, tasks, outputs⟩ := case <;> rfl

end Step

/-- An agent was set, and the scaffold not set up or torn down since. -/
def AgentSet (operations : List Operation) : Prop :=
  DoneSince step {} (·.clears) (fun _ operation => operation.setsAgent) operations

/-- When operations fail on a scaffold that some others led to, and what they leave then. -/
structure Failing (operations : List Operation) : Prop where
  agent : (after {} operations).agent = none ↔ ¬ AgentSet operations
  createTask : ∀ description expectedOutput,
    Fails ((after {} operations).createTask description expectedOutput) ↔
      (after {} operations).agent = none
  execute : ∀ task, Fails ((after {} operations).execute task) ↔ (after {} operations).agent = none
  kept : ∀ (operation : Operation) problem left,
    operation.steps.on (after {} operations) = (.error problem, left) →
      (after {} operations).perform operation = .error problem ∧ left = after {} operations

theorem after_agent_iff (operations : List Operation) :
    (after {} operations).agent ≠ none ↔ AgentSet operations := by
  apply holds_iff_doneSince (fun case : AgentCase => case.agent ≠ none) (not_not_intro rfl)
  intro case operation
  simp [← Option.isSome_iff_ne_none, step_agent_isSome]

theorem failing (operations : List Operation) : Failing operations where
  agent := by rw [← after_agent_iff, not_not]
  createTask := createTask_fails_iff _
  execute := execute_fails_iff _
  kept operation problem left failed := by
    rw [operation.steps_on] at failed
    exact InPlace.stepped_eq_error failed

end AgentCase

namespace CrewCase

/-- A crew that was built has tasks. -/
def Manned (case : CrewCase) : Prop :=
  ∀ crew, case.crew = some crew → crew.tasks ≠ []

theorem execute_fails_iff {case : CrewCase} (manned : case.Manned) (inputs : Inputs) :
    Fails (case.execute inputs) ↔ case.crew = none := by
  unfold execute
  split
  · rename_i absent
    exact iff_of_true ⟨_, rfl⟩ absent
  · rename_i crew present
    obtain ⟨output, after, run, -⟩ := crew.kickoff_account inputs (manned crew present)
    rw [run]
    exact iff_of_false (fun ⟨_, failed⟩ => nomatch failed) (by simp [present])

section Step

variable {case next : CrewCase} {kind : Kind} {outputs : List CrewOutput}
  (leaves : Leaves case kind outputs next)
include leaves

theorem Leaves.agents_iff : next.agents ≠ [] ↔
    kind.addsAgent = true ∨ kind ≠ .clear ∧ case.agents ≠ [] := by
  cases leaves with
  | cleared => simp [Kind.addsAgent]
  | filled => simp [Kind.addsAgent, imp_iff_or_not]
  | built | unbuilt | worked => simp [Kind.addsAgent]
  | changed absent agents same => simp [Kind.addsAgent, ← List.length_eq_zero_iff, same]

theorem Leaves.tasks_iff : next.tasks ≠ [] ↔
    kind.addsTask = true ∨ kind ≠ .clear ∧ case.tasks ≠ [] := by
  cases leaves with
  | cleared => simp [Kind.addsTask]
  | filled => simp [Kind.addsTask, imp_iff_or_not]
  | built | unbuilt | worked | changed => simp [Kind.addsTask]

theorem Leaves.crew_iff : next.crew ≠ none ↔
    (kind = .build ∧ ¬ Fails case.createCrew) ∨ kind ≠ .clear ∧ case.crew ≠ none := by
  cases leaves with
  | cleared | filled => simp
  | built someone something => simp [Fails, createCrew_error_iff, someone, something]
  | unbuilt lacking => simp [Fails, createCrew_error_iff, lacking]
  | worked present => simp [present]
  | changed absent => simp [absent]

theorem Leaves.manned (manned : case.Manned) : next.Manned := by
  cases leaves with
  | cleared => nofun
  | filled | unbuilt | changed => exact manned
  | built _ something =>
      rintro crew ⟨⟩
      exact something
  | @worked crew present =>
      rintro _ ⟨⟩
      exact manned crew present

end Step

section After

variable (operations : List Operation)

/-- Something was done with a scaffold, which was not set up or torn down since. -/
def Since (does : CrewCase → Operation → Prop) : Prop :=
  DoneSince step {} (·.kind = .clear) does operations

def AgentAdded : Prop :=
  Since operations fun _ operation => operation.kind.addsAgent

def TaskAdded : Prop :=
  Since operations fun _ operation => operation.kind.addsTask

def CrewBuilt : Prop :=
  Since operations fun case operation => operation.kind = .build ∧ ¬ Fails case.createCrew

/-- When operations fail on a scaffold that some others led to, and what they leave then. -/
structure Failing : Prop where
  createCrew : Fails (after {} operations).createCrew ↔
    ¬ AgentAdded operations ∨ ¬ TaskAdded operations
  execute : ∀ inputs, Fails ((after {} operations).execute inputs) ↔ ¬ CrewBuilt operations
  crew : ∀ crew, (after {} operations).crew = some crew → crew.tasks ≠ []
  kept : ∀ (operation : Operation) problem left,
    operation.steps.on (after {} operations) = (.error problem, left) →
      (after {} operations).perform operation = .error problem ∧ left = after {} operations

theorem after_agents_iff : (after {} operations).agents ≠ [] ↔ AgentAdded operations :=
  holds_iff_doneSince (fun case : CrewCase => case.agents ≠ []) (not_not_intro rfl)
    (fun case operation => (case.step_leaves operation).agents_iff) operations

theorem after_tasks_iff : (after {} operations).tasks ≠ [] ↔ TaskAdded operations :=
  holds_iff_doneSince (fun case : CrewCase => case.tasks ≠ []) (not_not_intro rfl)
    (fun case operation => (case.step_leaves operation).tasks_iff) operations

theorem after_crew_iff : (after {} operations).crew ≠ none ↔ CrewBuilt operations :=
  holds_iff_doneSince (fun case : CrewCase => case.crew ≠ none) (not_not_intro rfl)
    (fun case operation => (case.step_leaves operation).crew_iff) operations

theorem after_manned : (after {} operations).Manned := by
  induction operations using List.reverseRecOn with
  | nil => nofun
  | append_singleton operations last ih =>
      rw [after, List.foldl_append]
      exact (step_leaves _ last).manned ih

theorem failing : Failing operations where
  createCrew := by
    rw [Fails, createCrew_error_iff, ← after_agents_iff, ← after_tasks_iff, not_not, not_not]
  execute inputs := by
    rw [execute_fails_iff (after_manned operations), ← after_crew_iff, not_not]
  crew := after_manned operations
  kept operation problem left failed := by
    rw [operation.steps_on] at failed
    exact InPlace.stepped_eq_error failed

end After

end CrewCase

/-- Operations fail for want of an agent, of a task or of a crew alone, whatever was done with the
scaffold before and whichever of that failed, and one that fails changes nothing. -/
theorem operations_fail_cleanly :
    (∀ operations, AgentCase.Failing operations) ∧ ∀ operations, CrewCase.Failing operations :=
  ⟨AgentCase.failing, CrewCase.failing⟩

/-- After it was torn down, the first scaffold has no agent. The second has one again but no task,
which its crew had. -/
theorem operations_fail_cleanly_torn_down :
    let task : Task := { description := "Write" }
    let single := AgentCase.after {} [.useAgent (.ofRole "Writer"), .execute task, .tearDown]
    let team := CrewCase.after {} [.addAgent (.ofRole "Writer"), .addTask "Write" none none,
      .createCrew, .script "Write" "no ink", .execute [], .tearDown, .addAgent (.ofRole "Editor")]
    (∃ problem left, (AgentCase.Operation.execute task).steps.on single = (.error problem, left) ∧
      single.perform (.execute task) = .error problem ∧ left = single) ∧
    ∃ problem left, CrewCase.Operation.createCrew.steps.on team = (.error problem, left) ∧
      team.perform .createCrew = .error problem ∧ left = team :=
  ⟨⟨_, _, rfl, (operations_fail_cleanly.1 _).kept _ _ _ rfl⟩,
    ⟨_, _, rfl, (operations_fail_cleanly.2 _).kept _ _ _ rfl⟩⟩

end Rehearsal
