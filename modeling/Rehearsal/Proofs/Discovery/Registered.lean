import Mathlib.Data.List.Lattice
import Mathlib.Data.List.Pairwise
import Rehearsal.Discovery.Registry
import Rehearsal.Proofs.Discovery.Visits

/-! # What a registry contributes

A file takes every entry of a registry whose path ends with its own. So an entry is taken once for
each of the files that its path ends with, and of two such files one lies deeper, under a path that
ends with the path of the other. Where no path of a file ends with that of another, no entry is
taken twice.
-/

namespace Rehearsal

namespace Path

/-- A path that ends with another and has more parts than it. -/
def Extends (path tail : String) : Prop :=
  endsWith path tail ∧ components path ≠ components tail

instance (path tail : String) : Decidable (Extends path tail) :=
  inferInstanceAs (Decidable (_ ∧ _))

theorem endsWith_iff {path tail : String} :
    endsWith path tail ↔ components tail <:+ components path :=
  List.isSuffixOf_iff_suffix

/-- Of two endings of a path the longer one extends the other. -/
theorem extends_or_extends {path a b : String} (first : endsWith path a) (second : endsWith path b)
    (differ : components a ≠ components b) : Extends a b ∨ Extends b a := by
  rw [endsWith_iff] at first second
  rcases List.suffix_or_suffix_of_suffix first second with inside | inside
  · exact .inr ⟨endsWith_iff.mpr inside, differ.symm⟩
  · exact .inl ⟨endsWith_iff.mpr inside, differ⟩

end Path

variable {ι σ : Type}

/-- An entry that is taken for a file, with its place in the registry. -/
structure Taken (ι σ : Type) where
  file : SourceFile
  entry : Registration ι σ
  place : Nat

namespace Registry

variable {registry : Registry ι σ}

/-- The entries that a file takes. -/
def takenBy (registry : Registry ι σ) (file : SourceFile) : List (Taken ι σ) :=
  (registry.zipIdx.filter fun numbered => Path.endsWith numbered.1.source file.relative).map
    fun numbered => ⟨file, numbered.1, numbered.2⟩

theorem mem_takenBy {file : SourceFile} {taken : Taken ι σ} :
    taken ∈ registry.takenBy file ↔ taken.file = file ∧
      registry[taken.place]? = some taken.entry ∧
      Path.endsWith taken.entry.source file.relative := by
  simp only [takenBy, List.mem_map, List.mem_filter, List.mem_zipIdx_iff_getElem?]
  constructor
  · rintro ⟨⟨entry, place⟩, ⟨there, ends⟩, rfl⟩
    exact ⟨rfl, there, ends⟩
  · obtain ⟨_, entry, place⟩ := taken
    rintro ⟨rfl, there, ends⟩
    exact ⟨(entry, place), ⟨there, ends⟩, rfl⟩

theorem nodup_zipIdx {α : Type} (entries : List α) : entries.zipIdx.Nodup :=
  .of_map Prod.snd (by simpa [List.zipIdx_map_snd] using List.nodup_range')

theorem nodup_takenBy (registry : Registry ι σ) (file : SourceFile) :
    (registry.takenBy file).Nodup := by
  refine ((nodup_zipIdx registry).filter _).map ?_
  rintro ⟨entry, place⟩ ⟨entry', place'⟩ same
  simpa using same

theorem classesFor_eq (file : SourceFile) :
    registry.classesFor file.relative = (registry.takenBy file).map (·.entry.cls) := by
  have numbered : registry = registry.zipIdx.map Prod.fst := List.zipIdx_map_fst 0 registry |>.symm
  rw [classesFor, takenBy]
  conv => lhs; rw [numbered]
  rw [List.filter_map, List.map_map, List.map_map]
  rfl

end Registry

/-- In a list without repetitions that is put together from parts a part is known by its
members. -/
theorem eq_of_mem_flatMap {α β : Type} {parts : List α} {f : α → List β}
    (distinct : (parts.flatMap f).Nodup) {a b : α} {member : β} (first : a ∈ parts)
    (second : b ∈ parts) (inside : member ∈ f a) (inside' : member ∈ f b) : a = b := by
  by_contra differ
  have symmetric : Std.Symm (Function.onFun List.Disjoint f) :=
    ⟨fun _ _ apart => List.Disjoint.symm apart⟩
  exact (List.nodup_flatMap.mp distinct).2.forall first second differ inside inside'

namespace Discoverer

section OneRegistry

variable {discoverer : Discoverer ι σ} {registry : Registry ι σ} {root : String} {tree : Tree}

/-- The tests that a class contributes. -/
def collected (discoverer : Discoverer ι σ) (cls : TestClass ι σ) : List (TestUnit ι σ) :=
  if cls.category = .other then [] else cls.units discoverer.methodPrefix

theorem visited_eq_nil (other : tree.isDirectory = false) : discoverer.visited root tree = [] := by
  cases tree with
  | directory entries => cases other
  | file contents => simp [visited, found, selects]
  | link target => simp [visited, found]

/-- What is no directory has no files to visit, so the units are those of the visited files. -/
theorem units_eq (discoverer : Discoverer ι σ) (root : String) (tree : Tree) :
    (discoverer.discover root tree).units =
      (discoverer.visited root tree).flatMap discoverer.contribution := by
  by_cases directory : tree.isDirectory
  · rw [discover_eq directory]
  · rw [discover, if_neg directory, visited_eq_nil (by simpa using directory)]
    rfl

theorem nodup_visited (proper : tree.Proper) :
    ((discoverer.visited root tree).map fun file => Path.components file.relative).Nodup := by
  by_cases directory : tree.isDirectory
  · rw [List.Nodup, List.pairwise_map]
    exact (pairwise_visited discoverer root directory proper).imp fun before =>
      ne_of_lt (Path.before_iff.mp before)
  · rw [visited_eq_nil (by simpa using directory)]
    exact List.nodup_nil

theorem eq_of_components (proper : tree.Proper) {a b : SourceFile}
    (first : a ∈ discoverer.visited root tree) (second : b ∈ discoverer.visited root tree)
    (same : Path.components a.relative = Path.components b.relative) : a = b :=
  List.inj_on_of_nodup_map (nodup_visited proper) first second same

theorem contribution_eq (loads : discoverer.loader = registry.loader) (file : SourceFile) :
    discoverer.contribution file =
      (registry.takenBy file).flatMap fun taken => discoverer.collected taken.entry.cls := by
  rw [contribution, loads, Registry.loader]
  simp only [Registry.classesFor_eq, List.flatMap_map]
  rfl

/-- How the units of a suite come from what is taken from a registry. -/
structure Takes (discoverer : Discoverer ι σ) (registry : Registry ι σ) (root : String)
    (tree : Tree) (taken : List (Taken ι σ)) : Prop where
  units : (discoverer.discover root tree).units =
    taken.flatMap fun each => discoverer.collected each.entry.cls
  /-- Each file that is found takes the entries whose paths end with its own. -/
  exactly : ∀ each, each ∈ taken ↔ discoverer.Finds root tree each.file ∧
    registry[each.place]? = some each.entry ∧ Path.endsWith each.entry.source each.file.relative
  /-- No file takes an entry twice. -/
  once : taken.Nodup

theorem takes_visited (loads : discoverer.loader = registry.loader) (proper : tree.Proper) :
    Takes discoverer registry root tree
      ((discoverer.visited root tree).flatMap registry.takenBy) where
  units := by
    rw [units_eq, List.flatMap_assoc]
    exact List.flatMap_congr fun file _ => contribution_eq loads file
  exactly each := by
    simp only [List.mem_flatMap, Registry.mem_takenBy, ← mem_visited proper]
    constructor
    · rintro ⟨file, visited, rfl, there, ends⟩
      exact ⟨visited, there, ends⟩
    · rintro ⟨visited, there, ends⟩
      exact ⟨each.file, visited, rfl, there, ends⟩
  once := by
    rw [List.nodup_flatMap]
    refine ⟨fun file _ => registry.nodup_takenBy file, ?_⟩
    refine (nodup_visited proper).of_map.imp fun differ each first second => ?_
    exact differ ((Registry.mem_takenBy.mp first).1.symm.trans (Registry.mem_takenBy.mp second).1)

namespace Takes

variable {taken : List (Taken ι σ)}

theorem nested (takes : Takes discoverer registry root tree taken) (proper : tree.Proper)
    {a b : Taken ι σ} (first : a ∈ taken) (second : b ∈ taken) (place : a.place = b.place) :
    a = b ∨ Path.Extends a.file.relative b.file.relative ∨
      Path.Extends b.file.relative a.file.relative := by
  obtain ⟨found, there, ends⟩ := (takes.exactly a).mp first
  obtain ⟨found', there', ends'⟩ := (takes.exactly b).mp second
  rw [← mem_visited proper] at found found'
  rw [place, there'] at there
  have entry : b.entry = a.entry := Option.some.inj there
  by_cases same : Path.components a.file.relative = Path.components b.file.relative
  · left
    have file := eq_of_components proper found found' same
    obtain ⟨_, _, _⟩ := a
    obtain ⟨_, _, _⟩ := b
    simp only at file entry place
    rw [file, entry, place]
  · right
    rw [entry] at ends'
    exact Path.extends_or_extends ends ends' same

theorem nodup_places (takes : Takes discoverer registry root tree taken) (proper : tree.Proper)
    (apart : ∀ a b, discoverer.Finds root tree a → discoverer.Finds root tree b →
      ¬Path.Extends a.relative b.relative) : (taken.map (·.place)).Nodup := by
  refine List.Nodup.map_on (fun a first b second place => ?_) takes.once
  have found := ((takes.exactly a).mp first).1
  have found' := ((takes.exactly b).mp second).1
  rcases takes.nested proper first second place with same | deeper | deeper
  · exact same
  · exact absurd deeper (apart _ _ found found')
  · exact absurd deeper (apart _ _ found' found)

theorem nodup_collected {cls : TestClass ι σ} (distinct : cls.methods.Nodup) :
    ((discoverer.collected cls).map fun unit => (unit.cls.name, unit.method)).Nodup := by
  unfold collected
  split
  · exact List.nodup_nil
  · rw [TestClass.units, List.map_map]
    refine (distinct.filter _).map fun a b same => ?_
    simpa using same

theorem cls_of_mem_collected {cls : TestClass ι σ} {unit : TestUnit ι σ}
    (member : unit ∈ discoverer.collected cls) : unit.cls = cls := by
  unfold collected at member
  split at member
  · cases member
  · obtain ⟨method, -, rfl⟩ := List.mem_map.mp member
    rfl

/-- What is taken only once contributes no test twice. -/
theorem nodup_units (takes : Takes discoverer registry root tree taken)
    (places : (taken.map (·.place)).Nodup) (names : (registry.map (·.cls.name)).Nodup)
    (methods : ∀ entry ∈ registry, entry.cls.methods.Nodup) :
    ((discoverer.discover root tree).units.map fun unit => (unit.cls.name, unit.method)).Nodup := by
  have there : ∀ each ∈ taken, registry[each.place]? = some each.entry :=
    fun each member => ((takes.exactly each).mp member).2.1
  rw [takes.units, List.map_flatMap, List.nodup_flatMap]
  constructor
  · intro each member
    exact nodup_collected (methods _ (List.mem_of_getElem? (there each member)))
  · rw [List.Nodup, List.pairwise_map] at places
    refine places.imp_of_mem fun {a b} first second differ key shared shared' => ?_
    obtain ⟨unit, inside, rfl⟩ := List.mem_map.mp shared
    obtain ⟨unit', inside', key⟩ := List.mem_map.mp shared'
    have name : b.entry.cls.name = a.entry.cls.name := by
      rw [← cls_of_mem_collected inside, ← cls_of_mem_collected inside']
      exact congrArg Prod.fst key
    have named : (registry.map (·.cls.name))[a.place]? = (registry.map (·.cls.name))[b.place]? := by
      simp only [List.getElem?_map, there a first, there b second, Option.map_some, name]
    have inside : a.place < (registry.map (·.cls.name)).length := by
      obtain ⟨inside, -⟩ := List.getElem?_eq_some_iff.mp (there a first)
      simpa using inside
    exact differ ((List.getElem?_inj inside names).mp named)

end Takes

end OneRegistry

/-- Discovery takes an entry of a registry once for each file that the path of the entry ends with.
Of two files that take one entry one lies deeper, so where no path of a file extends that of another
each entry contributes its tests once. -/
theorem discover_takes (registry : Registry ι σ) (pattern : Glob) (methodPrefix root : String)
    (tree : Tree) (proper : tree.Proper) :
    let discoverer : Discoverer ι σ := ⟨registry.loader, pattern, methodPrefix⟩
    ∃ taken, Takes discoverer registry root tree taken ∧
      (∀ a ∈ taken, ∀ b ∈ taken, a.place = b.place →
        a = b ∨ Path.Extends a.file.relative b.file.relative ∨
          Path.Extends b.file.relative a.file.relative) ∧
      ((∀ a b, discoverer.Finds root tree a → discoverer.Finds root tree b →
          ¬Path.Extends a.relative b.relative) →
        (taken.map (·.place)).Nodup ∧
        ((registry.map (·.cls.name)).Nodup → (∀ entry ∈ registry, entry.cls.methods.Nodup) →
          ((discoverer.discover root tree).units.map fun unit =>
            (unit.cls.name, unit.method)).Nodup)) := by
  intro discoverer
  have takes : Takes discoverer registry root tree _ := takes_visited rfl proper
  refine ⟨_, takes, fun a first b second => takes.nested proper first second, fun apart => ?_⟩
  have places := takes.nodup_places proper apart
  exact ⟨places, takes.nodup_units places⟩

namespace Shelf

/-- Two entries, of which each is registered under the path of one file. -/
def registry : Registry Unit Unit :=
  [⟨"tests/b.json", cls⟩, ⟨"tests/a/c.json", { cls with name := "Chair" }⟩]

theorem visited_tree {file : SourceFile} {pattern : Glob} {loader : ModuleLoader Unit Unit}
    (found : Finds ⟨loader, pattern, "test"⟩ "tests" tree file) :
    file.relative = "b.json" ∨ file.relative = "a/c.json" := by
  rw [← mem_visited tree_proper, visited, found_eq _ tree_proper] at found
  obtain ⟨leaf, member, rfl⟩ := List.mem_map.mp found
  rcases mem_tree.mp (List.mem_of_mem_filter member) with rfl | rfl
  · exact .inl rfl
  · exact .inr rfl

theorem tree_apart {pattern : Glob} {loader : ModuleLoader Unit Unit} (a b : SourceFile)
    (found : Finds ⟨loader, pattern, "test"⟩ "tests" tree a)
    (found' : Finds ⟨loader, pattern, "test"⟩ "tests" tree b) :
    ¬Path.Extends a.relative b.relative := by
  rcases visited_tree found with h | h <;> rcases visited_tree found' with h' | h' <;>
    rw [h, h'] <;> decide

end Shelf

theorem discover_takes_shelf :
    Shelf.tree.Proper ∧ (Shelf.registry.map (·.cls.name)).Nodup ∧
      (((⟨Shelf.registry.loader, ⟨"*", [.anyText]⟩, "test"⟩ : Discoverer Unit Unit).discover "tests"
        Shelf.tree).units.map fun unit => (unit.cls.name, unit.method)).Nodup := by
  have names : (Shelf.registry.map (·.cls.name)).Nodup := by decide
  obtain ⟨taken, -, -, single⟩ :=
    discover_takes Shelf.registry ⟨"*", [.anyText]⟩ "test" "tests" Shelf.tree Shelf.tree_proper
  exact ⟨Shelf.tree_proper, names, (single Shelf.tree_apart).2 names (by decide)⟩

/-! A file of one name at two depths, and an entry that is registered under the path of the deeper
one. -/

namespace Depths

def tree : Tree :=
  .directory [("b.json", .file .empty), ("a", .directory [("b.json", .file .empty)])]

def registry : Registry Unit Unit := [⟨"tests/a/b.json", Shelf.cls⟩]

def discoverer : Discoverer Unit Unit := ⟨registry.loader, ⟨"*", [.anyText]⟩, "test"⟩

def shallow : SourceFile := ⟨"tests/b.json", "b.json", .empty⟩

def deep : SourceFile := ⟨"tests/a/b.json", "a/b.json", .empty⟩

theorem tree_proper : tree.Proper := by
  have folder : Tree.Proper (.directory [("b.json", .file .empty)]) :=
    .directory (by simpa using ⟨by decide, by decide, by decide⟩) (by simp)
      (by simpa using .file .empty)
  exact .directory
    (by simpa using ⟨⟨by decide, by decide, by decide⟩, by decide, by decide, by decide⟩)
    (by simp) (by simpa using ⟨.file .empty, folder⟩)

theorem finds_shallow : discoverer.Finds "tests" tree shallow :=
  ⟨[], "b.json", rfl, rfl, rfl, rfl⟩

theorem finds_deep : discoverer.Finds "tests" tree deep :=
  ⟨["a"], "b.json", rfl, rfl, rfl, rfl⟩

end Depths

/-- The entry is taken for both files, so its tests are in the suite twice. -/
theorem entry_taken_twice :
    ¬∀ (registry : Registry Unit Unit) (pattern : Glob) (methodPrefix root : String) (tree : Tree),
      tree.Proper → (registry.map (·.cls.name)).Nodup →
      (∀ entry ∈ registry, entry.cls.methods.Nodup) →
      (((⟨registry.loader, pattern, methodPrefix⟩ : Discoverer Unit Unit).discover root
        tree).units.map fun unit => (unit.cls.name, unit.method)).Nodup := by
  intro every
  have distinct := every Depths.registry ⟨"*", [.anyText]⟩ "test" "tests" Depths.tree
    Depths.tree_proper (by decide) (by decide)
  have takes : Takes Depths.discoverer Depths.registry "tests" Depths.tree _ :=
    takes_visited rfl Depths.tree_proper
  have first := (takes.exactly ⟨Depths.shallow, _, 0⟩).mpr ⟨Depths.finds_shallow, rfl, by decide⟩
  have second := (takes.exactly ⟨Depths.deep, _, 0⟩).mpr ⟨Depths.finds_deep, rfl, by decide⟩
  change ((Depths.discoverer.discover _ _).units.map _).Nodup at distinct
  rw [takes.units, List.map_flatMap] at distinct
  have shared : ("Desk", "test_lamp") ∈
      (Depths.discoverer.collected Shelf.cls).map fun unit => (unit.cls.name, unit.method) := by
    decide
  have same := eq_of_mem_flatMap distinct first second shared shared
  exact absurd (congrArg (·.file.path) same) (by decide)

end Discoverer

end Rehearsal
