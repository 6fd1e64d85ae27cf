import Rehearsal.Discovery.Discoverer
import Rehearsal.Proofs.Files.Leaves

/-! # What discovery collects

Discovery visits the files of a directory in the order of their paths, whatever order the directory
lists them in, and each file contributes to the suite by itself. So a file that cannot be loaded adds
its fault and changes nothing else.
-/

namespace Rehearsal

/-- The order in which files are visited. -/
def SourceFile.Before (a b : SourceFile) : Prop :=
  Path.Before a.relative b.relative

instance : Std.Asymm SourceFile.Before where
  asymm a b := Std.Asymm.asymm (r := Path.Before) a.relative b.relative

/-- A strictly sorted list with one more element is the list with the element put in at its place. -/
theorem exists_insertion {α : Type} {r : α → α → Prop} [Std.Asymm r] {l l' : List α} {new : α}
    (sorted : l.Pairwise r) (sorted' : l'.Pairwise r) (absent : new ∉ l)
    (members : ∀ a, a ∈ l' ↔ a = new ∨ a ∈ l) :
    ∃ before after, l = before ++ after ∧ l' = before ++ new :: after := by
  obtain ⟨before, after, rfl⟩ := List.append_of_mem ((members new).mpr (.inl rfl))
  have distinct : (before ++ new :: after).Nodup :=
    sorted'.imp fun less => ne_of_irrefl less
  have once : new ∉ before ++ after := (List.nodup_middle.mp distinct).notMem
  refine ⟨before, after, sorted.eq_of_mem_iff (sorted'.sublist (by simp)) fun a => ?_, rfl⟩
  have either := members a
  rcases eq_or_ne a new with rfl | other
  · simp only [absent, once]
  · simpa [other] using either.symm

/-- Where nothing is found twice, nothing is left out. -/
theorem eraseDupsBy_of_pairwise {α : Type} {same : α → α → Bool} {l : List α}
    (differ : l.Pairwise fun a b => same b a = false) : l.eraseDupsBy same = l := by
  induction differ with
  | nil => rfl
  | @cons a l first _ ih =>
      have kept : l.filter (fun b => decide (same b a = false)) = l :=
        List.filter_eq_self.mpr fun b member => decide_eq_true (first b member)
      rw [List.eraseDupsBy_cons, kept, ih]

theorem mem_of_mem_eraseDupsBy {α : Type} {same : α → α → Bool} {a : α} (l : List α)
    (member : a ∈ l.eraseDupsBy same) : a ∈ l := by
  match l with
  | [] => exact member
  | first :: rest =>
      rw [List.eraseDupsBy_cons] at member
      rcases List.mem_cons.mp member with rfl | later
      · exact List.mem_cons_self
      · exact List.mem_cons_of_mem _ (List.mem_of_mem_filter (mem_of_mem_eraseDupsBy _ later))
termination_by l.length
decreasing_by exact Nat.lt_succ_of_le (List.length_filter_le _ _)

namespace Discoverer

variable {ι σ : Type}

section Definitions

variable (discoverer : Discoverer ι σ) (root : String)

/-- Whether a file lies below a directory under a name that the pattern accepts. -/
def Finds (tree : Tree) (file : SourceFile) : Prop :=
  ∃ folders name, discoverer.pattern.accepts name ∧ tree.Holds (folders ++ [name]) file.contents ∧
    file.relative = Path.ofNames (folders ++ [name]) ∧ file.path = Path.join root file.relative

/-- The tests that a file contributes: those of its agents and crews, class by class. -/
def contribution (file : SourceFile) : List (TestUnit ι σ) :=
  match discoverer.loader file with
  | .error _ => []
  | .ok classes => classes.flatMap fun cls =>
      if cls.category = .other then []
      else (cls.methods.filter fun method =>
        discoverer.methodPrefix.toList.isPrefixOf method.toList).map fun method => ⟨cls, method⟩

/-- What is noted of a file that is left out. -/
def fault? (file : SourceFile) : Option LoadFault :=
  match discoverer.loader file with
  | .error e => some ⟨file.path, e.message⟩
  | .ok _ => none

/-- The files below a directory that are looked at. -/
def visited (tree : Tree) : List SourceFile :=
  (discoverer.found tree).map (source root)

end Definitions

section OneDirectory

variable {discoverer : Discoverer ι σ} {root : String} {tree : Tree}

theorem mem_leaves_of_found {leaf : Tree.Leaf} (found : leaf ∈ discoverer.found tree) :
    leaf ∈ tree.leaves :=
  List.mem_of_mem_filter (mem_of_mem_eraseDupsBy _ found)

/-- No file of a tree is come upon twice, so none is passed over. -/
theorem found_eq (discoverer : Discoverer ι σ) (proper : tree.Proper) :
    discoverer.found tree = tree.leaves.filter discoverer.selects := by
  apply eraseDupsBy_of_pairwise
  refine (proper.pairwise_leaves.filter _).imp fun {a b} less => ?_
  simpa using (ne_of_lt less).symm

theorem mem_visited (proper : tree.Proper) {file : SourceFile} :
    file ∈ discoverer.visited root tree ↔ discoverer.Finds root tree file := by
  simp only [visited, found_eq discoverer proper, List.mem_map, List.mem_filter, proper.mem_leaves]
  constructor
  · rintro ⟨⟨names, contents⟩, ⟨held, selected⟩, rfl⟩
    obtain ⟨name, last, accepted⟩ := (Option.any_eq_true _ _).mp selected
    obtain ⟨folders, rfl⟩ := List.getLast?_eq_some_iff.mp last
    exact ⟨folders, name, accepted, held, rfl, rfl⟩
  · obtain ⟨path, relative, contents⟩ := file
    rintro ⟨folders, name, accepted, held, rfl, path_eq⟩
    obtain rfl : path = Path.join root (Path.ofNames (folders ++ [name])) := path_eq
    exact ⟨⟨_, contents⟩, ⟨held, by simpa [selects] using accepted⟩, rfl⟩

theorem pairwise_visited (discoverer : Discoverer ι σ) (root : String)
    (directory : tree.isDirectory) (proper : tree.Proper) :
    (discoverer.visited root tree).Pairwise SourceFile.Before := by
  rw [visited, found_eq discoverer proper, List.pairwise_map]
  refine .filter _ (proper.pairwise_leaves.imp_of_mem fun {a b} inside inside' less => ?_)
  have parts := Path.components_ofNames (Tree.names_ne_nil directory inside) (proper.isName inside)
  have parts' :=
    Path.components_ofNames (Tree.names_ne_nil directory inside') (proper.isName inside')
  rwa [SourceFile.Before, Path.before_iff, source, source, parts, parts']

theorem unitsOf_eq (classes : List (TestClass ι σ)) :
    discoverer.unitsOf classes = classes.flatMap fun cls =>
      if cls.category = .other then [] else cls.units discoverer.methodPrefix := by
  induction classes with
  | nil => rfl
  | cons cls rest ih =>
      by_cases other : cls.category = .other
      · simpa [unitsOf, other] using ih
      · simpa [unitsOf, other] using ih

theorem discover_eq (directory : tree.isDirectory) :
    discoverer.discover root tree =
      { units := (discoverer.visited root tree).flatMap discoverer.contribution
        loadFaults := (discoverer.visited root tree).filterMap discoverer.fault? } := by
  rw [discover, if_pos directory, assemble]
  congr 1
  · simp only [List.flatMap_map, visited]
    refine List.flatMap_congr fun leaf _ => ?_
    simp only [load, contribution]
    cases discoverer.loader (source root leaf) with
    | error e => rfl
    | ok classes => exact unitsOf_eq classes
  · simp only [List.filterMap_map, visited]
    refine List.filterMap_congr fun leaf _ => ?_
    simp only [Function.comp_apply, load, fault?]
    cases discoverer.loader (source root leaf) with
    | error e => rfl
    | ok classes => rfl

/-- Paths below a directory are as different as the files that they lead to. -/
theorem nodup_paths (directory : tree.isDirectory) (proper : tree.Proper) :
    ((discoverer.visited root tree).map (·.path)).Nodup := by
  rw [List.Nodup, List.pairwise_map]
  refine (pairwise_visited discoverer root directory proper).imp_of_mem
    fun {a b} inside inside' before same => ?_
  obtain ⟨-, -, -, -, -, path⟩ := (mem_visited proper).mp inside
  obtain ⟨-, -, -, -, -, path'⟩ := (mem_visited proper).mp inside'
  have relative : a.relative = b.relative :=
    Path.join_right_inj (path.symm.trans (same.trans path'))
  rw [SourceFile.Before, relative] at before
  exact irrefl _ before

end OneDirectory

/-- What a suite has of the files of a directory. -/
structure Collects (discoverer : Discoverer ι σ) (root : String) (tree : Tree) (suite : Suite ι σ)
    (files : List SourceFile) : Prop where
  found : ∀ file, file ∈ files ↔ discoverer.Finds root tree file
  ordered : files.Pairwise SourceFile.Before
  /-- No file is loaded twice. -/
  once : (files.map (·.path)).Nodup
  units : suite.units = files.flatMap discoverer.contribution
  loadFaults : suite.loadFaults = files.filterMap discoverer.fault?

/-- Discovery below a directory visits the files whose names match, each once and in the order of
their paths. The suite has what each of them contributes, and depends on nothing else. One more file
that cannot be loaded adds one fault at its place. -/
theorem discover_collects (discoverer : Discoverer ι σ) (root : String) (tree : Tree)
    (directory : tree.isDirectory) (proper : tree.Proper) :
    (∃ files, Collects discoverer root tree (discoverer.discover root tree) files) ∧
      ∀ other : Tree, other.isDirectory → other.Proper →
        ((∀ file, discoverer.Finds root other file ↔ discoverer.Finds root tree file) →
          discoverer.discover root other = discoverer.discover root tree) ∧
        ∀ new fault, discoverer.fault? new = some fault → ¬discoverer.Finds root tree new →
          (∀ file, discoverer.Finds root other file ↔
            file = new ∨ discoverer.Finds root tree file) →
          (discoverer.discover root other).units = (discoverer.discover root tree).units ∧
            ∃ earlier later, (discoverer.discover root tree).loadFaults = earlier ++ later ∧
              (discoverer.discover root other).loadFaults = earlier ++ fault :: later := by
  have sorted := pairwise_visited discoverer root directory proper
  constructor
  · exact ⟨discoverer.visited root tree, fun file => mem_visited proper, sorted,
      nodup_paths directory proper, by rw [discover_eq directory], by rw [discover_eq directory]⟩
  · intro other directory' proper'
    have sorted' := pairwise_visited discoverer root directory' proper'
    rw [discover_eq directory, discover_eq directory']
    simp only [← mem_visited proper, ← mem_visited proper']
    constructor
    · intro same
      rw [sorted'.eq_of_mem_iff sorted same]
    · intro new fault failed absent members
      -- The new file stands somewhere in the order, and the files around it are those of the tree.
      obtain ⟨before, after, files, files'⟩ := exists_insertion sorted sorted' absent members
      have nothing : discoverer.contribution new = [] := by
        unfold fault? at failed
        unfold contribution
        cases loaded : discoverer.loader new with
        | error e => rfl
        | ok classes => simp [loaded] at failed
      simp only [files, files', List.flatMap_append, List.flatMap_cons, nothing, List.nil_append,
        List.filterMap_append, List.filterMap_cons_some failed, true_and]
      exact ⟨_, _, rfl, rfl⟩

/-! A directory, and the same directory as it is listed with one more file, which is empty. As a path
the new file stands after the file in the folder `a`, and as a text before it. -/

namespace Shelf

def page : ByteArray := ⟨#[1]⟩

def tree : Tree :=
  .directory [("b.json", .file page), ("a", .directory [("c.json", .file page)])]

def fuller : Tree :=
  .directory [("a", .directory [("c.json", .file page)]), ("b.json", .file page),
    ("a.json", .file .empty)]

def new : SourceFile := ⟨"tests/a.json", "a.json", .empty⟩

def cls : TestClass Unit Unit where
  name := "Desk"
  category := .agent
  methods := ["test_lamp", "lamp", "test_chair"]
  construct _ := (.ok (), ())
  setUp _ _ := (.done, (), ())
  run _ _ _ := (.done, (), ())
  tearDown _ _ := (.done, (), ())

def discoverer : Discoverer Unit Unit where
  loader file := if file.contents.isEmpty then .error (.other "empty") else .ok [cls]
  pattern := ⟨"*", [.anyText]⟩
  methodPrefix := "test"

theorem folder_proper : Tree.Proper (.directory [("c.json", .file page)]) :=
  .directory (by simpa using ⟨by decide, by decide, by decide⟩) (by simp) (by simpa using .file page)

theorem tree_proper : tree.Proper :=
  .directory (by simpa using ⟨⟨by decide, by decide, by decide⟩, by decide, by decide, by decide⟩)
    (by simp) (by simpa using ⟨.file page, folder_proper⟩)

theorem fuller_proper : fuller.Proper :=
  .directory (by simpa using ⟨⟨by decide, by decide, by decide⟩, ⟨by decide, by decide, by decide⟩,
    by decide, by decide, by decide⟩) (by simp) (by simpa using ⟨folder_proper, .file page, .file _⟩)

theorem mem_tree {leaf : Tree.Leaf} :
    leaf ∈ tree.leaves ↔ leaf = ⟨["b.json"], page⟩ ∨ leaf = ⟨["a", "c.json"], page⟩ := by
  simp [tree, Tree.mem_leaves_directory, Tree.mem_leavesOf, eq_comm]

theorem mem_fuller {leaf : Tree.Leaf} :
    leaf ∈ fuller.leaves ↔ leaf = ⟨["a.json"], .empty⟩ ∨ leaf ∈ tree.leaves := by
  simp only [mem_tree, fuller, Tree.mem_leaves_directory, Tree.mem_leavesOf, Tree.leaves_file,
    List.mem_cons, List.not_mem_nil, or_false, exists_eq_or_imp, exists_eq_left, eq_comm]
  tauto

theorem source_new : source "tests" ⟨["a.json"], .empty⟩ = new := rfl

theorem new_absent : ¬discoverer.Finds "tests" tree new := by
  simp [← mem_visited tree_proper, visited, found_eq _ tree_proper, mem_tree, source, Path.ofNames,
    new]

theorem finds_fuller (file : SourceFile) : discoverer.Finds "tests" fuller file ↔
    file = new ∨ discoverer.Finds "tests" tree file := by
  have selected : discoverer.selects ⟨["a.json"], .empty⟩ = true := by decide
  simp only [← mem_visited tree_proper, ← mem_visited fuller_proper, visited,
    found_eq _ tree_proper, found_eq _ fuller_proper, List.mem_map, List.mem_filter, mem_fuller,
    or_and_right, exists_or, and_assoc, exists_eq_left, selected, source_new, true_and, eq_comm]

end Shelf

theorem discover_collects_shelf :
    Shelf.tree.isDirectory ∧ Shelf.tree.Proper ∧
      (∃ files, Collects Shelf.discoverer "tests" Shelf.tree
        (Shelf.discoverer.discover "tests" Shelf.tree) files) ∧
      (Shelf.discoverer.discover "tests" Shelf.fuller).units =
        (Shelf.discoverer.discover "tests" Shelf.tree).units ∧
      ∃ earlier later,
        (Shelf.discoverer.discover "tests" Shelf.tree).loadFaults = earlier ++ later ∧
        (Shelf.discoverer.discover "tests" Shelf.fuller).loadFaults =
          earlier ++ ⟨"tests/a.json", "empty"⟩ :: later :=
  have collected := discover_collects Shelf.discoverer "tests" Shelf.tree rfl Shelf.tree_proper
  ⟨rfl, Shelf.tree_proper, collected.1,
    (collected.2 Shelf.fuller rfl Shelf.fuller_proper).2 Shelf.new _ rfl Shelf.new_absent
      Shelf.finds_fuller⟩

end Discoverer

end Rehearsal
