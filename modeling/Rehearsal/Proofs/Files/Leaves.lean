import Mathlib.Data.List.Sort
import Mathlib.Data.String.Basic
import Rehearsal.Files.Path
import Rehearsal.Files.Tree
import Rehearsal.Proofs.Text.ByteOrder

/-! # The files of a tree

The files of a tree are those that are found by going down its names, each once, and they are visited
in the order of their paths, part by part, although each directory is only sorted by itself.
-/

namespace Rehearsal

namespace Text

variable {mark : Char} {text : List Char}

theorem parts_of_not_mem (absent : mark ∉ text) : parts mark text = [text] := by
  induction text with
  | nil => rfl
  | cons c rest ih =>
      obtain ⟨other, absent⟩ := List.ne_and_not_mem_of_not_mem_cons absent
      rw [parts, if_neg other.symm, ih absent]

theorem parts_append_mark (absent : mark ∉ text) (rest : List Char) :
    parts mark (text ++ mark :: rest) = text :: parts mark rest := by
  induction text with
  | nil => simp [parts]
  | cons c text ih =>
      obtain ⟨other, absent⟩ := List.ne_and_not_mem_of_not_mem_cons absent
      rw [List.cons_append, parts, if_neg other.symm, ih absent]

/-- Texts without the mark are what a text is cut into that has the mark between them. -/
theorem parts_intercalate {texts : List (List Char)} (some : texts ≠ [])
    (absent : ∀ text ∈ texts, mark ∉ text) : parts mark ([mark].intercalate texts) = texts := by
  induction texts with
  | nil => exact absurd rfl some
  | cons text rest ih =>
      obtain ⟨first, others⟩ := List.forall_mem_cons.mp absent
      cases rest with
      | nil => simpa [List.intercalate] using parts_of_not_mem first
      | cons next rest =>
          rw [List.intercalate_cons_cons, List.append_assoc, List.singleton_append,
            parts_append_mark first, ih (by simp) others]

end Text

namespace Path

/-- What can be the name of an entry of a directory. -/
structure IsName (name : String) : Prop where
  nonempty : name ≠ ""
  notHere : name ≠ "."
  noSlash : '/' ∉ name.toList

/-- Whether a path stands before another: part by part, and each part byte by byte. -/
def Before (a b : String) : Prop :=
  List.Lex (fun part part' => Text.bytes part < Text.bytes part') (components a) (components b)

variable {names : List String}

theorem parts_ofNames (some : names ≠ []) (proper : ∀ name ∈ names, IsName name) :
    parts (ofNames names) = names := by
  have cut : Text.parts '/' (['/'].intercalate (names.map String.toList)) = _ :=
    Text.parts_intercalate (by simpa using some)
      (by simpa using fun name member => (proper name member).noSlash)
  rw [parts, Text.cutAt, ofNames, String.toList_intercalate]
  simp [cut, Function.comp_def]

theorem components_ofNames (some : names ≠ []) (proper : ∀ name ∈ names, IsName name) :
    components (ofNames names) = names := by
  rw [components, parts_ofNames some proper]
  obtain ⟨name, rest, rfl⟩ := List.exists_cons_of_ne_nil some
  obtain ⟨first, others⟩ := List.forall_mem_cons.mp proper
  have all : rest.filter (fun part => part ≠ "" && part ≠ ".") = rest := by
    refine List.filter_eq_self.mpr fun part member => ?_
    simp [(others part member).nonempty, (others part member).notHere]
  simp only [if_neg first.nonempty, all, List.singleton_append]

theorem before_iff {a b : String} : Before a b ↔ components a < components b := by
  simp only [Before, Text.bytes_lt_iff]
  exact List.lex_lt

instance : Std.Asymm Before where
  asymm _ _ before after := lt_asymm (before_iff.mp before) (before_iff.mp after)

theorem join_right_inj {directory a b : String} (same : join directory a = join directory b) :
    a = b := by
  unfold join at same
  split at same
  · simpa using same
  · simpa [String.append_assoc] using same

end Path

namespace Tree

/-- The names in each directory are names, and different from each other. -/
inductive Proper : Tree → Prop where
  | file (contents : ByteArray) : Proper (.file contents)
  | link (target : String) : Proper (.link target)
  | directory {entries : List (String × Tree)} (names : ∀ entry ∈ entries, Path.IsName entry.1)
      (distinct : (entries.map (·.1)).Nodup) (below : ∀ entry ∈ entries, Proper entry.2) :
      Proper (.directory entries)

/-- Whether a tree has a file at the end of these names, with these contents. -/
def Holds (tree : Tree) (names : List String) (contents : ByteArray) : Prop :=
  tree.descend names = some (.file contents)

/-- The files of an entry, by their names from the directory of the entry. -/
def leavesOf (entry : String × Tree) : List Leaf :=
  entry.2.leaves.map fun leaf => { leaf with names := entry.1 :: leaf.names }

/-- The entries of a directory by name. -/
def sorted (entries : List (String × Tree)) : List (String × Tree) :=
  entries.mergeSort fun a b => a.1 ≤ b.1

@[simp] theorem leaves_file (contents : ByteArray) : (file contents).leaves = [⟨[], contents⟩] := by
  rw [leaves]

@[simp] theorem leaves_link (target : String) : (link target).leaves = [] := by
  rw [leaves]

theorem leavesEach_eq (entries : List (String × Tree)) :
    leavesEach entries = entries.map fun entry => (entry.1, entry.2.leaves) := by
  induction entries with
  | nil => rfl
  | cons entry rest ih => simp [leavesEach, ih]

theorem leaves_directory (entries : List (String × Tree)) :
    (directory entries).leaves = (sorted entries).flatMap leavesOf := by
  have sorting := List.map_mergeSort (r := fun a b : String × Tree => decide (a.1 ≤ b.1))
    (s := fun a b : String × List Leaf => decide (a.1 ≤ b.1))
    (f := fun entry => (entry.1, entry.2.leaves)) (l := entries) (by simp)
  rw [leaves, leavesEach_eq, ← sorting, List.flatMap_map]
  rfl

theorem mem_leavesOf {entry : String × Tree} {leaf : Leaf} :
    leaf ∈ leavesOf entry ↔
      ∃ below ∈ entry.2.leaves, { below with names := entry.1 :: below.names } = leaf :=
  List.mem_map

theorem mem_sorted {entries : List (String × Tree)} {entry : String × Tree} :
    entry ∈ sorted entries ↔ entry ∈ entries :=
  (List.mergeSort_perm entries _).mem_iff

theorem mem_leaves_directory {entries : List (String × Tree)} {leaf : Leaf} :
    leaf ∈ (directory entries).leaves ↔ ∃ entry ∈ entries, leaf ∈ leavesOf entry := by
  simp only [leaves_directory, List.mem_flatMap, mem_sorted]

theorem pairwise_sorted {entries : List (String × Tree)} (distinct : (entries.map (·.1)).Nodup) :
    (sorted entries).Pairwise (·.1 < ·.1) := by
  have different : (sorted entries).Pairwise (·.1 ≠ ·.1) := by
    rw [← List.pairwise_map (f := Prod.fst)]
    exact ((List.mergeSort_perm entries _).map _).nodup_iff.mpr distinct
  have weakly : (sorted entries).Pairwise (fun a b => decide (a.1 ≤ b.1) = true) := by
    refine List.pairwise_mergeSort (fun a b c => ?_) (fun a b => ?_) entries
    · simpa using le_trans
    · simpa using le_total a.1 b.1
  exact (weakly.and different).imp fun both => lt_of_le_of_ne (of_decide_eq_true both.1) both.2

theorem child?_eq_some {entries : List (String × Tree)} (distinct : (entries.map (·.1)).Nodup)
    {name : String} {tree : Tree} :
    (directory entries).child? name = some tree ↔ (name, tree) ∈ entries := by
  simp only [child?, Option.map_eq_some_iff]
  constructor
  · rintro ⟨⟨name', _⟩, found, rfl⟩
    obtain rfl : name' = name := by simpa using List.find?_some found
    exact List.mem_of_find?_eq_some found
  · intro member
    obtain ⟨entry, found⟩ := Option.isSome_iff_exists.mp
      (List.find?_isSome (p := (·.1 == name)).mpr ⟨_, member, by simp⟩)
    have same : entry = (name, tree) :=
      List.inj_on_of_nodup_map distinct (List.mem_of_find?_eq_some found) member
        (by simpa using List.find?_some found)
    exact ⟨entry, found, congrArg Prod.snd same⟩

theorem holds_directory {entries : List (String × Tree)} (distinct : (entries.map (·.1)).Nodup)
    {name : String} {rest : List String} {contents : ByteArray} :
    (directory entries).Holds (name :: rest) contents ↔
      ∃ tree, (name, tree) ∈ entries ∧ tree.Holds rest contents := by
  simp only [Holds, descend, Option.bind_eq_some_iff, child?_eq_some distinct]

variable {tree : Tree}

/-- The files of a tree are what is found by going down its names. -/
theorem Proper.mem_leaves (proper : tree.Proper) {leaf : Leaf} :
    leaf ∈ tree.leaves ↔ tree.Holds leaf.names leaf.contents := by
  induction proper generalizing leaf with
  | file contents =>
      obtain ⟨names, held⟩ := leaf
      cases names with
      | nil => simp [Holds, descend, eq_comm]
      | cons name rest => simp [Holds, descend, child?]
  | link target =>
      obtain ⟨names, held⟩ := leaf
      cases names with
      | nil => simp [Holds, descend]
      | cons name rest => simp [Holds, descend, child?]
  | @directory entries names distinct below ih =>
      rw [mem_leaves_directory]
      obtain ⟨_ | ⟨name, rest⟩, contents⟩ := leaf
      · simp [mem_leavesOf, Holds, descend]
      · rw [holds_directory distinct]
        constructor
        · rintro ⟨⟨name', inside⟩, member, found⟩
          obtain ⟨leaf, held, same⟩ := mem_leavesOf.mp found
          obtain ⟨⟨rfl, rfl⟩, rfl⟩ : (name' = name ∧ leaf.names = rest) ∧ leaf.contents = contents := by
            simpa using same
          exact ⟨inside, member, (ih _ member).mp held⟩
        · rintro ⟨inside, member, held⟩
          exact ⟨_, member, mem_leavesOf.mpr ⟨⟨rest, contents⟩, (ih _ member).mpr held, rfl⟩⟩

/-- The files of a tree are visited in the order of their names, part by part. -/
theorem Proper.pairwise_leaves (proper : tree.Proper) :
    tree.leaves.Pairwise (·.names < ·.names) := by
  induction proper with
  | file contents => simp
  | link target => simp
  | @directory entries names distinct below ih =>
      rw [leaves_directory, List.pairwise_flatMap]
      constructor
      -- Files of one entry share its name, so the names below decide.
      · intro entry member
        rw [leavesOf, List.pairwise_map]
        refine (ih entry (mem_sorted.mp member)).imp fun less => ?_
        exact List.cons_lt_cons_iff.mpr (.inr ⟨rfl, less⟩)
      -- Files of different entries are told apart by the names of the entries.
      · refine (pairwise_sorted distinct).imp fun less leaf member leaf' member' => ?_
        obtain ⟨_, -, rfl⟩ := mem_leavesOf.mp member
        obtain ⟨_, -, rfl⟩ := mem_leavesOf.mp member'
        exact List.cons_lt_cons_iff.mpr (.inl less)

theorem Proper.isName (proper : tree.Proper) {leaf : Leaf} (member : leaf ∈ tree.leaves) :
    ∀ name ∈ leaf.names, Path.IsName name := by
  induction proper generalizing leaf with
  | file contents =>
      obtain rfl := List.mem_singleton.mp (leaves_file contents ▸ member)
      exact List.forall_mem_nil _
  | link target => simp at member
  | @directory entries names distinct below ih =>
      obtain ⟨entry, inside, found⟩ := mem_leaves_directory.mp member
      obtain ⟨leaf, held, rfl⟩ := mem_leavesOf.mp found
      exact List.forall_mem_cons.mpr ⟨names entry inside, ih entry inside held⟩

theorem names_ne_nil (directory : tree.isDirectory) {leaf : Leaf} (member : leaf ∈ tree.leaves) :
    leaf.names ≠ [] := by
  cases tree with
  | directory entries =>
      obtain ⟨entry, -, found⟩ := mem_leaves_directory.mp member
      obtain ⟨leaf, -, rfl⟩ := mem_leavesOf.mp found
      exact List.cons_ne_nil _ _
  | file contents => cases directory
  | link target => cases directory

end Tree

end Rehearsal
