import Rehearsal.Proofs.Files.Leaves

/-! # Following a path

The ways of a path through a tree are told step by step: what it goes down to, where it comes back,
and what it does at a link. A path of names that meets no link leads down from where it is taken,
and an absolute one from the root.
-/

namespace Rehearsal

namespace Path

variable {names : List String}

theorem isAbsolute_slash (path : String) : isAbsolute ("/" ++ path) = true := by
  simp [isAbsolute]

theorem parts_slash (path : String) : parts ("/" ++ path) = "" :: parts path := by
  simp [parts, Text.cutAt, Text.parts]

theorem isAbsolute_ofNames (filled : names ≠ []) (proper : ∀ name ∈ names, IsName name) :
    isAbsolute (ofNames names) = false := by
  by_contra absolute
  obtain ⟨rest, starts⟩ : ['/'] <+: (ofNames names).toList := by
    simpa [isAbsolute] using absolute
  have parts := parts_ofNames filled proper
  rw [Path.parts, Text.cutAt, ← starts] at parts
  have first : "" ∈ names := by
    rw [← parts]
    simp [Text.parts]
  exact (proper "" first).nonempty rfl

theorem ofNames_ne_empty (filled : names ≠ []) (proper : ∀ name ∈ names, IsName name) :
    ofNames names ≠ "" := by
  intro nothing
  have parts := parts_ofNames filled proper
  rw [nothing] at parts
  have first : "" ∈ names := by
    rw [← parts]
    simp [Path.parts, Text.cutAt, Text.parts]
  exact (proper "" first).nonempty rfl

end Path

namespace Tree

variable {root tree here : Tree} {place names rest : List String} {name part : String}

/-! ### Going down names -/

theorem descend_append (names rest : List String) (tree : Tree) :
    tree.descend (names ++ rest) = (tree.descend names).bind (descend rest) := by
  induction names generalizing tree with
  | nil => rfl
  | cons name names ih =>
      simp only [List.cons_append, descend, Option.bind_assoc, ih]

theorem descend_child (found : root.descend place = some here) (name : String) :
    root.descend (place ++ [name]) = here.child? name := by
  simp [descend_append, found, descend]

theorem isDirectory_of_child (found : tree.child? name = some here) : tree.isDirectory := by
  cases tree with
  | directory entries => rfl
  | file contents => cases found
  | link target => cases found

theorem not_link_of_isDirectory (directory : here.isDirectory) (target : String) :
    here ≠ link target := by
  rintro rfl
  cases directory

theorem descend_last (found : root.descend (place ++ [name]) = some tree) :
    ∃ here, root.descend place = some here ∧ here.child? name = some tree := by
  rw [descend_append, Option.bind_eq_some_iff] at found
  obtain ⟨here, above, below⟩ := found
  exact ⟨here, above, by simpa [descend] using below⟩

/-- Whether there is a directory at the end of names. -/
def IsDirectoryAt (root : Tree) (names : List String) : Prop :=
  ∃ here, root.descend names = some here ∧ here.isDirectory

/-- What names lead through on their way is a directory. -/
theorem isDirectoryAt_above (place : List String)
    (found : root.descend (place ++ name :: rest) = some tree) : root.IsDirectoryAt place := by
  rw [descend_append, Option.bind_eq_some_iff] at found
  obtain ⟨here, above, below⟩ := found
  obtain ⟨child, found, -⟩ := Option.bind_eq_some_iff.mp below
  exact ⟨here, above, isDirectory_of_child found⟩

theorem IsDirectoryAt.top (directory : root.IsDirectoryAt place) : root.IsDirectoryAt [] := by
  cases place with
  | nil => exact directory
  | cons name rest =>
      obtain ⟨here, found, -⟩ := directory
      exact isDirectoryAt_above [] found

theorem IsDirectoryAt.back (directory : root.IsDirectoryAt place) :
    root.IsDirectoryAt place.dropLast := by
  rcases List.eq_nil_or_concat place with rfl | ⟨above, name, rfl⟩
  · exact directory
  · obtain ⟨here, found, -⟩ := directory
    rw [List.concat_eq_append] at found ⊢
    rw [List.dropLast_concat]
    exact isDirectoryAt_above _ found

theorem IsDirectoryAt.origin (directory : root.IsDirectoryAt place) (path : String) :
    root.IsDirectoryAt (Path.origin place path) := by
  unfold Path.origin
  split
  · exact directory.top
  · exact directory

/-! ### Following a path -/

/-- Whether a part of a path is to be looked up in a directory. -/
def IsStep (part : String) : Prop :=
  part ≠ "" ∧ part ≠ "." ∧ part ≠ ".."

instance (part : String) : Decidable (IsStep part) :=
  inferInstanceAs (Decidable (_ ∧ _ ∧ _))

theorem isOnlySlashes_of_isStep (steps : ∀ part ∈ rest, IsStep part) :
    Path.isOnlySlashes rest = false := by
  cases rest with
  | nil => rfl
  | cons part rest =>
      have step : part ≠ "" := (steps part List.mem_cons_self).1
      simp [Path.isOnlySlashes, step]

theorem isStep_of (stays : ¬(decide (part = "") || decide (part = ".")) = true)
    (back : part ≠ "..") : IsStep part := by
  simpa [IsStep, and_assoc] using And.intro stays back

/-- The ways that a path is followed from a place, with so many links at most, to where it leads. -/
inductive Leads (root : Tree) (making : Bool) :
    Nat → List String → List String → List String → Prop where
  | here {links place} : Leads root making links place [] place
  | stay {links place path names part} (directory : root.IsDirectoryAt place)
      (stays : part = "" ∨ part = ".") (further : Leads root making links place path names) :
      Leads root making links place (part :: path) names
  | back {links place path names} (directory : root.IsDirectoryAt place)
      (further : Leads root making links place.dropLast path names) :
      Leads root making links place (".." :: path) names
  | make {links place part} (directory : root.IsDirectoryAt place) (step : IsStep part)
      (absent : root.descend (place ++ [part]) = none) (makes : making) :
      Leads root making links place [part] (place ++ [part])
  | link {links place path names part target} (step : IsStep part)
      (goes : (making && Path.isOnlySlashes path) = false)
      (found : root.descend (place ++ [part]) = some (link target))
      (further : Leads root making links (Path.origin place target) (Path.parts target ++ path)
        names) :
      Leads root making (links + 1) place (part :: path) names
  | down {links place path names part tree} (step : IsStep part)
      (goes : (making && Path.isOnlySlashes path) = false)
      (found : root.descend (place ++ [part]) = some tree) (held : ∀ target, tree ≠ link target)
      (further : Leads root making links (place ++ [part]) path names) :
      Leads root making links place (part :: path) names

section Leads

variable {making : Bool} {links : Nat} {path : List String}

theorem Leads.of_follow (followed : follow root making links place path = .ok names) :
    Leads root making links place path names := by
  fun_induction follow root making links place path with
  | case1 links place =>
      obtain rfl : place = names := by simpa using followed
      exact .here
  | case4 links place part path here found directory stays ih =>
      exact .stay ⟨here, found, by simpa using directory⟩ (by simpa using stays) (ih followed)
  | case5 links place path here found directory _ ih =>
      exact .back ⟨here, found, by simpa using directory⟩ (ih followed)
  | case7 links place part path here found directory stays back _ absent last =>
      obtain rfl : place ++ [part] = names := by simpa using followed
      obtain ⟨makes, rfl⟩ : making = true ∧ path = [] := by simpa using last
      exact .make ⟨here, found, by simpa using directory⟩ (isStep_of stays back)
        (by rw [descend_child found, absent]) makes
  | case10 place part path here found directory stays back goes target child links ih =>
      exact .link (isStep_of stays back) (by simpa using goes)
        (by rw [descend_child found, child]) (ih followed)
  | case11 links place part path here found directory stays back goes tree held child ih =>
      exact .down (isStep_of stays back) (by simpa using goes)
        (by rw [descend_child found, child]) held (ih followed)
  | case2 | case3 | case6 | case8 | case9 => cases followed

theorem Leads.follow_eq (leads : Leads root making links place path names) :
    follow root making links place path = .ok names := by
  induction leads with
  | here => rw [follow]
  | stay directory stays _ ih =>
      obtain ⟨here, found, directory⟩ := directory
      rw [follow]
      simp [found, directory, stays, ih]
  | back directory _ ih =>
      obtain ⟨here, found, directory⟩ := directory
      rw [follow]
      simp [found, directory, ih]
  | make directory step absent makes =>
      obtain ⟨here, found, directory⟩ := directory
      rw [descend_child found] at absent
      rw [follow]
      simp [found, directory, step.1, step.2.1, step.2.2, absent, makes, Path.isOnlySlashes]
  | link step goes child _ ih =>
      obtain ⟨here, found, child⟩ := descend_last child
      rw [follow]
      simp [found, isDirectory_of_child child, step.1, step.2.1, step.2.2, goes, child, ih]
  | @down links place path names part tree step goes child held _ ih =>
      obtain ⟨here, found, child⟩ := descend_last child
      rw [follow]
      simp only [found, isDirectory_of_child child, step.1, step.2.1, step.2.2, goes, child]
      cases tree with
      | link target => exact absurd rfl (held target)
      | file contents => simpa using ih
      | directory entries => simpa using ih

/-- Only in a directory is a part of a path followed. -/
theorem Leads.start (leads : Leads root making links place (part :: path) names) :
    root.IsDirectoryAt place := by
  cases leads with
  | stay directory => exact directory
  | back directory => exact directory
  | make directory => exact directory
  | link step goes found => exact isDirectoryAt_above _ found
  | down step goes found => exact isDirectoryAt_above _ found

end Leads

/-! ### Paths of names -/

section Look

variable {making : Bool} {path : String} {home : List String}

theorem resolve_eq_ok : root.resolve making path home = .ok names ↔
    path ≠ "" ∧
      Leads root making maxLinks (Path.origin home path) (Path.parts path) names := by
  unfold resolve
  split
  case isTrue empty => simp [empty]
  case isFalse filled =>
      exact ⟨fun followed => ⟨filled, .of_follow followed⟩, fun leads => leads.2.follow_eq⟩

/-- Names that can be steps lead down. -/
theorem Leads.ofNames {links : Nat} (steps : ∀ name ∈ names, IsStep name)
    (found : root.descend (place ++ names) = some tree) (held : ∀ target, tree ≠ .link target) :
    Leads root making links place names (place ++ names) := by
  induction names generalizing place with
  | nil => simpa using Leads.here
  | cons name rest ih =>
      obtain ⟨step, steps⟩ := List.forall_mem_cons.mp steps
      have further : Leads root making links (place ++ [name]) rest (place ++ [name] ++ rest) :=
        ih steps (by simpa using found)
      have there : ∃ next, root.descend (place ++ [name]) = some next ∧
          ∀ target, next ≠ .link target := by
        cases rest with
        | nil => exact ⟨tree, found, held⟩
        | cons name' rest =>
            obtain ⟨here, above, directory⟩ :=
              isDirectoryAt_above (place ++ [name]) (by simpa using found)
            exact ⟨here, above, not_link_of_isDirectory directory⟩
      obtain ⟨next, above, held⟩ := there
      have goes : (making && Path.isOnlySlashes rest) = false := by
        simp [isOnlySlashes_of_isStep steps]
      simpa using Leads.down step goes above held further

theorem isStep_of_isName (proper : ∀ name ∈ names, Path.IsName name) (forward : ".." ∉ names) :
    ∀ name ∈ names, IsStep name := by
  intro name member
  have named := proper name member
  exact ⟨named.nonempty, named.notHere, fun back => forward (back ▸ member)⟩

theorem look_of_leads (filled : path ≠ "")
    (leads : Leads root false maxLinks (Path.origin home path) (Path.parts path) names)
    (found : root.descend names = some tree) : root.look path home = .ok tree := by
  simp only [look, resolve_eq_ok.mpr ⟨filled, leads⟩, found]

/-- A path of names leads down from the directory that it is taken from. -/
theorem look_ofNames (filled : names ≠ []) (proper : ∀ name ∈ names, Path.IsName name)
    (forward : ".." ∉ names) (found : root.descend (home ++ names) = some tree)
    (held : ∀ target, tree ≠ .link target) : root.look (Path.ofNames names) home = .ok tree := by
  refine look_of_leads (Path.ofNames_ne_empty filled proper) ?_ found
  rw [Path.parts_ofNames filled proper, Path.origin, Path.isAbsolute_ofNames filled proper]
  exact .ofNames (isStep_of_isName proper forward) found held

/-- An absolute path leads down from the root, wherever it is used. -/
theorem look_absolute (filled : names ≠ []) (proper : ∀ name ∈ names, Path.IsName name)
    (forward : ".." ∉ names) (found : root.descend names = some tree)
    (held : ∀ target, tree ≠ .link target) :
    root.look ("/" ++ Path.ofNames names) home = .ok tree := by
  have leads : Leads root false maxLinks [] names names :=
    .ofNames (isStep_of_isName proper forward) found held
  refine look_of_leads (by simp) ?_ found
  rw [Path.parts_slash, Path.parts_ofNames filled proper, Path.origin, Path.isAbsolute_slash]
  refine .stay ?_ (.inl rfl) leads
  cases names with
  | nil => exact absurd rfl filled
  | cons name rest => exact leads.start

end Look

end Tree

end Rehearsal
