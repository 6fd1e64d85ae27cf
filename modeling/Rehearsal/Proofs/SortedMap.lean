import Mathlib.Algebra.GroupWithZero.Nat
import Mathlib.Data.List.Induction
import Mathlib.Data.String.Basic
import Rehearsal.SortedMap

/-! # What is entered into a map

A map that is in order stays in order when a value is entered, which takes the place of the value
that the key had. A map in order is what comes of entering its own entries.
-/

namespace Rehearsal

namespace SortedMap

variable {α : Type} {map : SortedMap α} {key : String} {value : α} {entry : String × α}

/-- Whether the keys are in ascending order. -/
def Sorted (map : SortedMap α) : Prop :=
  map.Pairwise (·.1 < ·.1)

theorem mem_put (member : entry ∈ map.put key value) : entry = (key, value) ∨ entry ∈ map := by
  induction map with
  | nil => exact .inl (List.mem_singleton.mp member)
  | cons first rest ih =>
      rw [put] at member
      split_ifs at member
      · simpa using member
      · simp only [List.mem_cons] at member ⊢
        exact member.imp_right .inr
      · rcases List.mem_cons.mp member with rfl | later
        · exact .inr (by simp)
        · exact (ih later).imp_right (List.mem_cons_of_mem _)

theorem Sorted.put (sorted : Sorted map) (key : String) (value : α) :
    Sorted (map.put key value) := by
  induction map with
  | nil => exact List.pairwise_singleton _ _
  | cons first rest ih =>
      obtain ⟨above, sorted'⟩ := List.pairwise_cons.mp sorted
      rw [SortedMap.put]
      split_ifs with below same
      · refine List.pairwise_cons.mpr ⟨fun entry member => ?_, sorted⟩
        rcases List.mem_cons.mp member with rfl | later
        · exact below
        · exact lt_trans below (above entry later)
      · subst same
        exact List.pairwise_cons.mpr ⟨above, sorted'⟩
      · refine List.pairwise_cons.mpr ⟨fun entry member => ?_, ih sorted'⟩
        rcases mem_put member with rfl | later
        · exact lt_of_le_of_ne (not_lt.mp below) (Ne.symm same)
        · exact above entry later

theorem get?_cons (first : String × α) :
    get? (first :: map) key = if first.1 = key then some first.2 else map.get? key := by
  by_cases same : first.1 = key <;> simp [get?, same]

theorem get?_of_above (above : ∀ entry ∈ map, key < entry.1) : map.get? key = none := by
  rw [get?, Option.map_eq_none_iff, List.find?_eq_none]
  intro entry member
  simpa using (above entry member).ne'

/-- What a map in order has under a key is what an entry of it has. -/
theorem Sorted.get?_eq_some_iff (sorted : Sorted map) :
    map.get? key = some value ↔ (key, value) ∈ map := by
  induction map with
  | nil => simp [get?]
  | cons first rest ih =>
      obtain ⟨above, sorted'⟩ := List.pairwise_cons.mp sorted
      rw [get?_cons, List.mem_cons]
      split_ifs with same
      · subst same
        have other : (first.1, value) ∉ rest := fun member => absurd (above _ member) (lt_irrefl _)
        simp [other, Prod.ext_iff, eq_comm]
      · have other : (key, value) ≠ first := fun here => same (here ▸ rfl)
        rw [ih sorted', or_iff_right other]

theorem Sorted.mem_put_iff (sorted : Sorted map) :
    entry ∈ map.put key value ↔ entry = (key, value) ∨ entry ∈ map ∧ entry.1 ≠ key := by
  induction map with
  | nil => simp [SortedMap.put]
  | cons first rest ih =>
      obtain ⟨above, sorted'⟩ := List.pairwise_cons.mp sorted
      rw [SortedMap.put]
      -- only the entry with the key itself has to make way
      split_ifs with below same
      · have others (member : entry ∈ first :: rest) : entry.1 ≠ key := by
          rcases List.mem_cons.mp member with rfl | later
          · exact below.ne'
          · exact (below.trans (above entry later)).ne'
        rw [List.mem_cons, and_iff_left_of_imp others]
      · subst same
        have own : ¬ (entry = first ∧ entry.1 ≠ first.1) := fun ⟨here, other⟩ => other (here ▸ rfl)
        have others (member : entry ∈ rest) : entry.1 ≠ first.1 := (above entry member).ne'
        rw [List.mem_cons, List.mem_cons, or_and_right, or_iff_right own,
          and_iff_left_of_imp others]
      · have own (here : entry = first) : entry.1 ≠ key := by
          rw [here]
          exact Ne.symm same
        rw [List.mem_cons, List.mem_cons, ih sorted', or_and_right, and_iff_left_of_imp own,
          or_left_comm]

/-- A value that is entered comes on top of all others but that which the key had. -/
theorem Sorted.sum_put {counts : SortedMap Nat} (sorted : Sorted counts) (key : String)
    (count : Nat) :
    ((counts.put key count).map (·.2)).sum + (counts.get? key).getD 0 =
      (counts.map (·.2)).sum + count := by
  induction counts with
  | nil => simp [SortedMap.put, get?]
  | cons first rest ih =>
      obtain ⟨above, sorted'⟩ := List.pairwise_cons.mp sorted
      rw [SortedMap.put]
      split_ifs with below same
      · have absent : get? (first :: rest) key = none := by
          apply get?_of_above
          exact List.forall_mem_cons.mpr ⟨below, fun entry later => below.trans (above entry later)⟩
        simp only [absent, List.map_cons, List.sum_cons, Option.getD_none]
        omega
      · simp only [get?_cons, if_pos same.symm, List.map_cons, List.sum_cons, Option.getD_some]
        omega
      · simp only [get?_cons, if_neg (Ne.symm same), List.map_cons, List.sum_cons]
        have others := ih sorted'
        omega

theorem ofEntries_concat (entries : List (String × α)) (entry : String × α) :
    ofEntries (entries ++ [entry]) = (ofEntries entries).put entry.1 entry.2 := by
  rw [ofEntries, List.foldl_append]
  rfl

theorem sorted_ofEntries (entries : List (String × α)) : Sorted (ofEntries entries) := by
  induction entries using List.reverseRecOn with
  | nil => exact .nil
  | append_singleton entries entry ih =>
      rw [ofEntries_concat]
      exact ih.put _ _

theorem mem_ofEntries {entries : List (String × α)} (member : entry ∈ ofEntries entries) :
    entry ∈ entries := by
  induction entries using List.reverseRecOn with
  | nil => exact member
  | append_singleton entries last ih =>
      rw [ofEntries_concat] at member
      rcases mem_put member with rfl | earlier
      · simp
      · exact List.mem_append_left _ (ih earlier)

theorem put_of_above (above : ∀ entry ∈ map, entry.1 < key) :
    map.put key value = map ++ [(key, value)] := by
  induction map with
  | nil => rfl
  | cons first rest ih =>
      obtain ⟨below, above⟩ := List.forall_mem_cons.mp above
      rw [put, if_neg (not_lt_of_gt below), if_neg below.ne', ih above, List.cons_append]

/-- A map is entered into the empty one as it is. -/
theorem Sorted.ofEntries_eq (sorted : Sorted map) : ofEntries map = map := by
  induction map using List.reverseRecOn with
  | nil => rfl
  | append_singleton map last ih =>
      obtain ⟨sorted, -, above⟩ := List.pairwise_append.mp sorted
      rw [ofEntries_concat, ih sorted]
      exact put_of_above fun entry member => above entry member last (List.mem_singleton_self _)

end SortedMap

end Rehearsal
