import Rehearsal.Proofs.Crew.Kickoffs
import Rehearsal.Proofs.Text.Placeholders

/-! # Filling in the descriptions of tasks

A crew fills its inputs into a description one name after another, over the whole text each time. So
a value that holds a placeholder, or closes a brace that the description left open, is looked at
again by the names after its own. Where that cannot happen the names fill the description in at once,
in whatever order they come.
-/

namespace Rehearsal

namespace Text

variable {inputs : Inputs} {name entered : String}

section Values

variable {value rest : List Char} (names : ∀ input ∈ inputs, Plain input.1.toList)

include names

/-- One pass keeps a value as it is. -/
theorem Inert.filled_append {later : Inputs} {out : List Char} (inert : Inert inputs value)
    (among : later ⊆ inputs) (filled : Filled later (value ++ rest) out) :
    ∃ out', out = value ++ out' ∧ Filled later rest out' := by
  induction value generalizing out with
  | nil => exact ⟨out, rfl, filled⟩
  | cons c value ih =>
      rcases filled_cons filled with ⟨_, _, _, _, member, rfl, same, -, -⟩ | ⟨-, _, rfl, kept⟩
      · exact absurd same (inert.not_slot (among member) (names _ (among member)))
      · obtain ⟨out', rfl, others⟩ := ih (inert.of_suffix (List.suffix_cons c value)) kept
        exact ⟨out', rfl, others⟩

theorem Inert.apart_append (inert : Inert inputs value) (apart : Apart inputs rest) :
    Apart inputs (value ++ rest) := by
  induction value with
  | nil => exact apart
  | cons c value ih =>
      refine ⟨?_, ih (inert.of_suffix (List.suffix_cons c value))⟩
      rintro rfl meets
      obtain ⟨before, input, member, after, plain, same⟩ := meets_iff.mp meets
      rw [slot_append] at same
      -- The brace that was met is one of the value, and opens no placeholder there.
      obtain ⟨others, rfl, next⟩ := inert.next plain rfl same
      have inner : Inert inputs ('\x7b' :: others) :=
        inert.of_suffix ((List.suffix_append before _).trans (List.suffix_cons _ _))
      exact inner.not_slot member (names _ member) next.symm

end Values

section OneName

variable (names : ∀ input ∈ inputs, Plain input.1.toList) (member : (name, entered) ∈ inputs)
variable (inert : Inert inputs entered.toList)

include member

/-- What is read after an open brace that met no placeholder, once the name is replaced. -/
theorem Apart.replaceAll_brace {text before after : List Char} {brace : Char}
    (apart : Apart inputs ('\x7b' :: text))
    (replaced : replaceAll (slot name) entered.toList text = before ++ brace :: after)
    (plain : Plain before) (braced : isBrace brace = true) :
    ∃ rest, text = before ++ brace :: rest ∧ Apart inputs (brace :: rest) ∧
      after = replaceAll (slot name) entered.toList rest := by
  obtain ⟨rest, rfl, -, rest_eq⟩ := Text.replaceAll_brace replaced plain braced
    fun first others plain same =>
      apart.1 rfl (meets_iff.mpr ⟨first, _, member, others, plain, same⟩)
  exact ⟨rest, rfl, apart.2.of_append, rest_eq⟩

include names inert

/-- To replace a name leaves placeholders apart from each other. -/
theorem Apart.replaceAll {text : List Char} (apart : Apart inputs text) :
    Apart inputs (Text.replaceAll (slot name) entered.toList text) := by
  -- By induction on the length, since a placeholder is passed over as a whole.
  induction size : text.length using Nat.strong_induction_on generalizing text with
  | _ size ih =>
  subst size
  by_cases found : slot name <+: text
  case pos =>
    obtain ⟨rest, rfl⟩ := found
    rw [replaceAll_slot]
    exact inert.apart_append names (ih rest.length (by simp [slot]; omega) apart.of_append rfl)
  case neg =>
    cases text with
    | nil => trivial
    | cons c rest =>
        rw [replaceAll_cons found]
        refine ⟨?_, ih rest.length (by simp) apart.2 rfl⟩
        rintro rfl meets
        obtain ⟨before, input, among, after, plain, same⟩ := meets_iff.mp meets
        rw [slot_append] at same
        obtain ⟨inner, rfl, apart', same'⟩ := apart.replaceAll_brace member same plain rfl
        obtain ⟨others, rfl, -, -⟩ :=
          apart'.replaceAll_brace member same'.symm (names _ among) rfl
        exact apart.1 rfl
          (meets_iff.mpr ⟨before, input, among, others, plain, by rw [slot_append]⟩)

/-- To replace a name and then to fill in others is to fill in all of them at once. -/
theorem Filled.of_replaceAll {later : Inputs} (among : later ⊆ inputs) {text out : List Char}
    (apart : Apart inputs text)
    (filled : Filled later (Text.replaceAll (slot name) entered.toList text) out) :
    Filled ((name, entered) :: later) text out := by
  induction size : text.length using Nat.strong_induction_on generalizing text out with
  | _ size ih =>
  subst size
  by_cases found : slot name <+: text
  case pos =>
    obtain ⟨rest, rfl⟩ := found
    rw [replaceAll_slot] at filled
    obtain ⟨out', rfl, kept⟩ := inert.filled_append names among filled
    exact .fill (by simp) (ih rest.length (by simp [slot]; omega) apart.of_append kept rfl)
  case neg =>
    cases text with
    | nil =>
        obtain rfl := filled_nil filled
        exact .done
    | cons c rest =>
        rw [replaceAll_cons found] at filled
        rcases filled_cons filled with ⟨other, value, after, out', present, rfl, same, rfl, kept⟩ |
          ⟨none, out', rfl, kept⟩
        · obtain ⟨others, rfl, apart', rfl⟩ :=
            apart.replaceAll_brace member same (names _ (among present)) rfl
          exact filled_slot (List.mem_cons_of_mem _ present)
            (ih others.length (by simp; omega) apart'.2 kept rfl)
        · refine .keep (List.forall_mem_cons.mpr ⟨found, fun input present stands => ?_⟩)
            (ih rest.length (by simp) apart.2 kept rfl)
          obtain ⟨rfl, others, rfl⟩ := slot_prefix_iff.mp stands
          refine none input present (slot_prefix_iff.mpr ⟨rfl,
            Text.replaceAll (slot name) entered.toList others, ?_⟩)
          rw [replaceAll_plain (names _ (among present)), replaceAll_cons]
          simp [slot_prefix_iff]

end OneName

end Text

open Text (Plain Filled Apart Inert)

theorem interpolate_cons (template name value : String) (inputs : Inputs) :
    interpolate template ((name, value) :: inputs) =
      interpolate (.ofList (Text.replaceAll (Text.slot name) value.toList template.toList))
        inputs := by
  simp [interpolate, Text.substitute, Text.slot]

/-- By induction on the names that are still to come. -/
theorem filled_interpolate {inputs : Inputs} (names : ∀ input ∈ inputs, Plain input.1.toList)
    (values : ∀ input ∈ inputs, Inert inputs input.2.toList) {later : Inputs}
    (among : later ⊆ inputs) {template : String} (apart : Apart inputs template.toList) :
    Filled later template.toList (interpolate template later).toList := by
  induction later generalizing template with
  | nil =>
      rw [interpolate, List.foldl_nil]
      generalize template.toList = text
      induction text with
      | nil => exact .done
      | cons c rest ih => exact .keep (by simp) ih
  | cons input later ih =>
      obtain ⟨member, among⟩ := List.cons_subset.mp among
      have inert := values _ member
      rw [interpolate_cons]
      refine .of_replaceAll names member inert among apart ?_
      let left := Text.replaceAll (Text.slot input.1) input.2.toList template.toList
      have apart : Apart inputs (String.ofList left).toList := by
        simpa using apart.replaceAll names member inert
      simpa using ih among apart

/-- A description that the inputs can fill in at once, so that it matters neither in which order
their names come nor whether a value is looked at again. -/
structure Fillable (inputs : Inputs) (template : String) : Prop where
  distinct : (inputs.map (·.1)).Nodup
  names : ∀ input ∈ inputs, Plain input.1.toList
  values : ∀ input ∈ inputs, Inert inputs input.2.toList
  apart : Apart inputs template.toList

namespace Fillable

variable {inputs other : Inputs} {template : String}

theorem filled_iff (fillable : Fillable inputs template) (out : List Char) :
    Filled inputs template.toList out ↔ out = (interpolate template inputs).toList := by
  have filled := filled_interpolate fillable.names fillable.values (List.Subset.refl inputs)
    fillable.apart
  constructor
  · intro filled'
    exact filled'.unique fillable.distinct fillable.names filled
  · rintro rfl
    exact filled

theorem interpolate_perm (fillable : Fillable inputs template) (perm : other.Perm inputs) :
    interpolate template other = interpolate template inputs := by
  have filled : Filled other template.toList (interpolate template other).toList :=
    filled_interpolate fillable.names fillable.values perm.subset fillable.apart
  exact String.toList_inj.mp
    ((fillable.filled_iff _).mp (filled.of_mem_iff fun _ => perm.mem_iff))

end Fillable

namespace Crew

/-- A run of a crew with tasks gives each of them its description with the inputs filled in. -/
theorem kickoff_describes (crew : Crew) (inputs : Inputs) (filled : crew.tasks ≠ []) :
    ∃ output after, crew.kickoff inputs = .ok (output, after) ∧
      List.Forall₂ (fun task child => interpolate task.description inputs = child.description)
        crew.tasks output.tasksOutput := by
  obtain ⟨output, run, described, -, -⟩ := crew.kickoff_accounted inputs [] filled .none
  rw [having_nil] at run
  refine ⟨output, _, run, ?_⟩
  have same : List.Forall₂ Eq (crew.tasks.map fun task => interpolate task.description inputs)
      (output.tasksOutput.map (·.description)) := by
    rw [List.forall₂_eq_eq_eq, described, jobs, List.map_map]
    rfl
  simpa only [List.forall₂_map_left_iff, List.forall₂_map_right_iff] using same

theorem runTasks_congr {failures : SortedMap String} {inputs other : Inputs} {tasks : List Task}
    (same : ∀ task ∈ tasks, interpolate task.description other = interpolate task.description inputs)
    (agents : List Agent) :
    runTasks failures other tasks agents = runTasks failures inputs tasks agents := by
  induction tasks generalizing agents with
  | nil => rfl
  | cons task rest ih =>
      obtain ⟨first, others⟩ := List.forall_mem_cons.mp same
      simp only [runTasks, first, ih others]

/-- A run gives each task its description with the inputs filled in, in one pass and in no other way,
and does not depend on the order of their names. -/
theorem kickoff_fills (crew : Crew) (inputs : Inputs) (filled : crew.tasks ≠ [])
    (fillable : ∀ task ∈ crew.tasks, Fillable inputs task.description) :
    (∃ output after, crew.kickoff inputs = .ok (output, after) ∧
      List.Forall₂ (fun task child => ∀ out,
          Filled inputs task.description.toList out ↔ out = child.description.toList)
        crew.tasks output.tasksOutput) ∧
      ∀ other : Inputs, other.Perm inputs → crew.kickoff other = crew.kickoff inputs := by
  constructor
  · obtain ⟨output, after, run, described⟩ := crew.kickoff_describes inputs filled
    refine ⟨output, after, run, ((List.forall₂_and_left _ _).mpr ⟨fillable, described⟩).imp ?_⟩
    rintro task child ⟨fillable, described⟩ out
    rw [← described]
    exact fillable.filled_iff out
  · intro other perm
    have same : ∀ task ∈ crew.tasks, interpolate task.description other =
        interpolate task.description inputs :=
      fun task member => (fillable task member).interpolate_perm perm
    simp only [kickoff, runTasks_congr same]

/-! A value with a placeholder of its own, which is of no input, next to one without braces. -/

namespace Trip

def inputs : Inputs := [("city", "Kyoto \x7bold\x7d"), ("when", "May")]

def crew : Crew where
  agents := [.ofRole "Guide"]
  tasks := [{ description := "Plan \x7bcity\x7d in \x7bwhen\x7d, \x7bwhere\x7d" }]

theorem fillable : ∀ task ∈ crew.tasks, Fillable inputs task.description := by
  intro task member
  obtain rfl := List.mem_singleton.mp member
  refine ⟨by decide, by decide, fun input among => ⟨?slots, ?closed⟩, by decide⟩
  case slots => revert input; decide
  case closed =>
    intro after inside
    rcases (by simpa [inputs] using among : input = _ ∨ input = _) with rfl | rfl
    · obtain rfl : after = "old\x7d".toList := by simpa [List.suffix_cons_iff] using inside
      decide
    · simp [List.suffix_cons_iff] at inside

end Trip

theorem kickoff_fills_trip :
    Trip.crew.tasks ≠ [] ∧ (∀ task ∈ Trip.crew.tasks, Fillable Trip.inputs task.description) ∧
      (∃ output after, Trip.crew.kickoff Trip.inputs = .ok (output, after) ∧
        List.Forall₂ (fun task child => ∀ out,
            Filled Trip.inputs task.description.toList out ↔ out = child.description.toList)
          Trip.crew.tasks output.tasksOutput) ∧
      ∀ other : Inputs, other.Perm Trip.inputs →
        Trip.crew.kickoff other = Trip.crew.kickoff Trip.inputs :=
  ⟨by decide, Trip.fillable, kickoff_fills Trip.crew Trip.inputs (by decide) Trip.fillable⟩

/-- A value that is the placeholder of a later name is replaced as well. -/
theorem value_filled_again :
    ¬∀ (crew : Crew) (inputs : Inputs), crew.tasks ≠ [] →
      inputs.Pairwise (fun a b => a.1 < b.1) → (∀ input ∈ inputs, Plain input.1.toList) →
      ∃ output after, crew.kickoff inputs = .ok (output, after) ∧
        List.Forall₂ (fun task child => Filled inputs task.description.toList
          child.description.toList) crew.tasks output.tasksOutput := by
  intro every
  let inputs : Inputs := [("a", "\x7bb\x7d"), ("b", "x")]
  let crew : Crew := { agents := [], tasks := [{ description := "\x7ba\x7d" }] }
  obtain ⟨output, after, run, each⟩ := every crew inputs (by simp [crew]) (by decide) (by decide)
  obtain ⟨output', after', run', described⟩ := crew.kickoff_describes inputs (by simp [crew])
  obtain ⟨rfl, -⟩ : output' = output ∧ after' = after := by simpa [run] using run'.symm
  obtain ⟨child, _, filled, -, children⟩ := List.forall₂_cons_left_iff.mp each
  rw [children] at described
  obtain _ | ⟨same, _⟩ := described
  -- The pass stops after the placeholder, with the value as it is.
  have among : ("a", "\x7bb\x7d") ∈ inputs := by simp [inputs]
  have value : Filled inputs "\x7ba\x7d".toList "\x7bb\x7d".toList := .fill among .done
  have unique := filled.unique (by decide) (by decide) value
  rw [← same] at unique
  exact absurd unique (by decide)

end Crew

end Rehearsal
