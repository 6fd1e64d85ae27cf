import Rehearsal.Proofs.Case.Interleaving
import Rehearsal.Proofs.Case.Operations

/-! # Building a crew again

A crew is built from copies of the agents that were added, and once there is one whatever is done
with the agents of the test is done with these copies. So the agents that were added stay as they
are, and a crew that is built of them later is the crew that was built first.
-/

namespace Rehearsal.CrewCase

/-- The outputs that operations return, each of them where those before it led. -/
def returned (case : CrewCase) : List Operation → List CrewOutput
  | [] => []
  | operation :: rest => operation.outputs case ++ (case.step operation).returned rest

/-- Whether an operation neither adds anything nor starts over. -/
def Kind.uses : Kind → Bool
  | .build | .work => true
  | .clear | .fill .. => false

/-- As long as there is a crew, what was added is not changed, and the crew stays. Outputs are only
appended. -/
theorem Leaves.keeps {case next : CrewCase} {kind : Kind} {outputs : List CrewOutput}
    (leaves : Leaves case kind outputs next) (uses : kind.uses = true)
    (present : case.crew ≠ none) :
    next.agents = case.agents ∧ next.tasks = case.tasks ∧ next.crew ≠ none ∧
      next.outputs = case.outputs ++ outputs := by
  cases leaves with
  | cleared | filled => cases uses
  | built => exact ⟨rfl, rfl, Option.some_ne_none _, (List.append_nil _).symm⟩
  | unbuilt => exact ⟨rfl, rfl, present, (List.append_nil _).symm⟩
  | worked => exact ⟨rfl, rfl, Option.some_ne_none _, rfl⟩
  | changed absent => exact absurd absent present

theorem after_keeps {case : CrewCase} {operations : List Operation}
    (uses : ∀ operation ∈ operations, operation.kind.uses = true) (present : case.crew ≠ none) :
    (case.after operations).agents = case.agents ∧ (case.after operations).tasks = case.tasks ∧
      (case.after operations).outputs = case.outputs ++ case.returned operations := by
  induction operations generalizing case with
  | nil => exact ⟨rfl, rfl, (List.append_nil _).symm⟩
  | cons operation rest ih =>
      obtain ⟨first, others⟩ := List.forall_mem_cons.mp uses
      obtain ⟨agents, tasks, stays, outputs⟩ := (case.step_leaves operation).keeps first present
      obtain ⟨agents', tasks', outputs'⟩ := ih others stays
      refine ⟨agents'.trans agents, tasks'.trans tasks, ?_⟩
      rw [outputs, List.append_assoc] at outputs'
      exact outputs'

/-- Scaffolds with one crew return the same from all runs of it, and leave its agents the same. -/
theorem executeAll_alike {case other : CrewCase} {crew : Crew} (present : case.crew = some crew)
    (present' : other.crew = some crew) (filled : crew.tasks ≠ []) (runs : List Inputs) :
    ∃ outputs last last', case.executeAll runs = .ok (outputs, last) ∧
      other.executeAll runs = .ok (outputs, last') ∧ last.currentAgents = last'.currentAgents := by
  obtain ⟨outputs, ran, -⟩ := crew.kickoffs_accounted runs [] filled .none
  rw [Crew.having_nil, List.nil_append] at ran
  let after := crew.having (crew.workOf runs outputs)
  refine ⟨outputs, { case with crew := some after, outputs := case.outputs ++ outputs },
    { other with crew := some after, outputs := other.outputs ++ outputs }, ?_, ?_, rfl⟩
  · rw [executeAll_eq runs case crew present, ran]
    rfl
  · rw [executeAll_eq runs other crew present', ran]
    rfl

/-- What a crew that is built again has of the first one, whose scaffold returned some outputs in
between: it is as new, and runs as the first one did when it was new. -/
structure Again (case built rebuilt : CrewCase) (crew : Crew) (returned : List CrewOutput) :
    Prop where
  agents : crew.agents = case.agents
  tasks : crew.tasks = case.tasks
  unscripted : crew.failures = []
  staffed : built.crew = some crew ∧ rebuilt.crew = some crew
  repeats : ∀ runs, ∃ outputs last last', built.executeAll runs = .ok (outputs, last) ∧
    rebuilt.executeAll runs = .ok (outputs, last') ∧ last.currentAgents = last'.currentAgents
  captured : rebuilt.outputs = case.outputs ++ returned

/-- Whatever was done with a crew and its agents, building it again leads to the crew that was built
first, as long as nothing was added to the scaffold or cleared. -/
theorem createCrew_again {case built : CrewCase} {crew : Crew}
    (done : case.createCrew = .ok (crew, built)) {operations : List Operation}
    (uses : ∀ operation ∈ operations, operation.kind.uses = true) :
    ∃ rebuilt, (built.after operations).createCrew = .ok (crew, rebuilt) ∧
      Again case built rebuilt crew (built.returned operations) := by
  obtain ⟨someone, something, rfl, left⟩ := createCrew_eq_ok_iff.mp done
  have present : built.crew ≠ none := by simp [left]
  obtain ⟨agents, tasks, outputs⟩ := after_keeps uses present
  simp only [left] at agents tasks outputs ⊢
  refine ⟨_, createCrew_eq_ok_iff.mpr ⟨?_, ?_, ?_, rfl⟩, rfl, rfl, rfl, ⟨rfl, rfl⟩, ?_, outputs⟩
  · rwa [agents]
  · rwa [tasks]
  · rw [agents, tasks]
  · exact executeAll_alike rfl rfl something

/-- The crew has run, one of its agents was reset and another put to work, a task was made to fail
and the agents were let go before the crew is built again. -/
theorem createCrew_again_let_go :
    let case : CrewCase := {
      agents := [.ofRole "Writer" ["draft", "text"], .ofRole "Editor", .ofRole "Writer"]
      tasks := [{ description := "Plan \x7btopic\x7d" },
        { description := "Edit", agent := "Editor" }] }
    let operations : List Operation := [.execute [("topic", "tea")], .act "Writer" Agent.reset,
      .act "Editor" fun agent => (agent.execute { description := "Proofread" }).2,
      .script "Edit" "no ink", .staff fun _ => [], .execute []]
    ∃ crew built, case.createCrew = .ok (crew, built) ∧
      (∀ operation ∈ operations, operation.kind.uses = true) ∧
      ∃ rebuilt, (built.after operations).createCrew = .ok (crew, rebuilt) ∧
        Again case built rebuilt crew (built.returned operations) := by
  intro case operations
  have uses : ∀ operation ∈ operations, operation.kind.uses = true := by
    simp [operations, Operation.kind, Kind.uses]
  exact ⟨_, _, rfl, uses, createCrew_again rfl uses⟩

end Rehearsal.CrewCase
