import Rehearsal.Proofs.Files.Following

/-! # Reading what was written

A path may come to a file through links and back out of directories, so that writing the file could
change the way to it. It does not: all that the way leads through are directories and links, and
writing leaves those where they are. What is written is found under the same path afterwards, and
no other file or link is touched.
-/

namespace Rehearsal

namespace Tree

variable {root tree here new : Tree} {place names rest : List String} {name part : String}

/-! ### Putting something at the end of names -/

section Put

variable {entries : List (String × Tree)}

theorem child?_putEntry_self : (directory (putEntry name new entries)).child? name = some new := by
  induction entries with
  | nil => simp [putEntry, child?]
  | cons entry rest ih =>
      by_cases same : entry.1 = name
      · simp [putEntry, same, child?]
      · simpa [putEntry, same, child?] using ih

theorem child?_putEntry_of_ne (differ : part ≠ name) :
    (directory (putEntry name new entries)).child? part = (directory entries).child? part := by
  induction entries with
  | nil => simp [putEntry, child?, differ.symm]
  | cons entry rest ih =>
      by_cases same : entry.1 = name
      · simp [putEntry, same, child?, differ.symm]
      · by_cases found : entry.1 = part
        · simp [putEntry, child?, found, differ]
        · simpa [putEntry, same, child?, found] using ih

end Put

theorem isDirectory_put (new : Tree) (name : String) (rest : List String) (tree : Tree) :
    (put new (name :: rest) tree).isDirectory := rfl

theorem child?_put_self (new : Tree) (name : String) (rest : List String) (tree : Tree) :
    (put new (name :: rest) tree).child? name =
      some (put new rest ((tree.child? name).getD empty)) :=
  child?_putEntry_self

theorem child?_put_of_ne (differ : part ≠ name) :
    (put new (name :: rest) tree).child? part = tree.child? part := by
  cases tree with
  | directory entries => exact child?_putEntry_of_ne differ
  | file contents => exact child?_putEntry_of_ne differ
  | link target => exact child?_putEntry_of_ne differ

theorem descend_put (new : Tree) (names : List String) (tree : Tree) :
    (put new names tree).descend names = some new := by
  induction names generalizing tree with
  | nil => rfl
  | cons name rest ih => rw [descend, child?_put_self, Option.bind_some, ih]

theorem descend_put_above (found : tree.descend place = some here) (rest : List String) :
    (put new (place ++ rest) tree).descend place = some (put new rest here) := by
  induction place generalizing tree with
  | nil =>
      obtain rfl : tree = here := Option.some.inj found
      rfl
  | cons name place ih =>
      obtain ⟨child, entry, below⟩ := Option.bind_eq_some_iff.mp found
      rw [List.cons_append, descend, child?_put_self, Option.bind_some, entry, Option.getD_some]
      exact ih below

theorem descend_empty (names : List String) (some : names ≠ []) : empty.descend names = none := by
  cases names with
  | nil => exact absurd rfl some
  | cons name rest => rfl

theorem descend_put_apart (below : ¬names <+: place) (above : ¬place <+: names) :
    (put new names tree).descend place = tree.descend place := by
  induction names generalizing tree place with
  | nil => exact absurd place.nil_prefix below
  | cons name rest ih =>
      cases place with
      | nil => exact absurd List.nil_prefix above
      | cons part place =>
          by_cases same : part = name
          · subst same
            rw [List.cons_prefix_cons] at below above
            rw [descend, child?_put_self, Option.bind_some, descend,
              ih (fun within => below ⟨rfl, within⟩) fun within => above ⟨rfl, within⟩]
            cases tree.child? part with
            | some child => rfl
            | none =>
                exact descend_empty place fun none => above ⟨rfl, none ▸ List.nil_prefix⟩
          · rw [descend, descend, child?_put_of_ne same]

/-! ### Where a file can be written -/

/-- Whether a file can be written at the end of names: there is one, or there is a directory
without anything under the last name. -/
inductive Room (root : Tree) : List String → Prop where
  | file {names : List String} {contents : ByteArray}
      (found : root.descend names = some (file contents)) : Room root names
  | free {place : List String} {here : Tree} {part : String}
      (found : root.descend place = some here) (directory : here.isDirectory)
      (absent : here.child? part = none) : Room root (place ++ [part])

/-- What two trees have under the same names: directories, or the same. -/
inductive Alike : Option Tree → Option Tree → Prop where
  | same (found : Option Tree) : Alike found found
  | directories {here here' : Tree} (directory : here.isDirectory)
      (directory' : here'.isDirectory) : Alike (some here) (some here')

theorem Alike.isDirectory {found : Option Tree} (alike : Alike (some here) found)
    (directory : here.isDirectory) : ∃ here', found = some here' ∧ here'.isDirectory := by
  cases alike with
  | same => exact ⟨here, rfl, directory⟩
  | directories _ directory' => exact ⟨_, rfl, directory'⟩

theorem Alike.eq_some {found : Option Tree} (alike : Alike (some tree) found)
    (other : tree.isDirectory = false) : found = some tree := by
  cases alike with
  | same => rfl
  | directories directory => simp [other] at directory

theorem Room.above (room : root.Room (place ++ part :: rest)) :
    root.IsDirectoryAt place := by
  generalize names_eq : place ++ part :: rest = names at room
  cases room with
  | file found => exact isDirectoryAt_above _ (names_eq ▸ found)
  | @free above here last found directory =>
      rcases List.eq_nil_or_concat rest with rfl | ⟨rest, _, rfl⟩
      · obtain ⟨rfl, -⟩ := List.append_inj' names_eq rfl
        exact ⟨here, found, directory⟩
      · have same : place ++ part :: rest = above := by
          rw [List.concat_eq_append, ← List.cons_append, ← List.append_assoc] at names_eq
          exact (List.append_inj' names_eq rfl).1
        exact isDirectoryAt_above _ (same ▸ found)

/-- All that is under a name where a file can be written is a file. -/
theorem Room.eq_file (room : root.Room names) (found : root.descend names = some tree) :
    ∃ contents, tree = .file contents := by
  cases room with
  | file held => exact ⟨_, Option.some.inj (found.symm.trans held)⟩
  | free above directory absent =>
      rw [descend_child above, absent] at found
      cases found

theorem Room.ne (room : root.Room names) (found : root.descend place = some tree)
    (other : ∀ contents, tree ≠ .file contents) : place ≠ names := by
  rintro rfl
  obtain ⟨contents, same⟩ := room.eq_file found
  exact other contents same

theorem Room.below (room : root.Room names) (name : String) (rest : List String) :
    root.descend (names ++ name :: rest) = none := by
  rw [descend_append]
  cases room with
  | file found =>
      rw [found]
      rfl
  | free found directory absent =>
      rw [descend_child found, absent]
      rfl

/-- A file at the end of names changes nothing under other names. -/
theorem Room.alike (room : root.Room names) (contents : ByteArray) (differ : place ≠ names) :
    Alike (root.descend place) ((put (.file contents) names root).descend place) := by
  by_cases below : names <+: place
  · obtain ⟨_ | ⟨name, rest⟩, rfl⟩ := below
    · exact absurd names.append_nil differ
    · rw [room.below, descend_append, descend_put]
      exact .same none
  · by_cases above : place <+: names
    · obtain ⟨_ | ⟨name, rest⟩, rfl⟩ := above
      · exact absurd place.append_nil.symm differ
      · obtain ⟨here, found, directory⟩ := room.above
        rw [found, descend_put_above found]
        exact .directories directory (isDirectory_put _ _ _ _)
    · rw [descend_put_apart below above]
      exact .same _

theorem Room.keeps (room : root.Room names) (contents : ByteArray) (differ : place ≠ names)
    (found : root.descend place = some tree) (other : tree.isDirectory = false) :
    (put (.file contents) names root).descend place = some tree := by
  have alike := room.alike contents differ
  rw [found] at alike
  exact alike.eq_some other

theorem Room.isDirectoryAt (room : root.Room names) (contents : ByteArray)
    (directory : root.IsDirectoryAt place) :
    (put (.file contents) names root).IsDirectoryAt place := by
  obtain ⟨here, found, directory⟩ := directory
  have differ : place ≠ names := by
    refine room.ne found ?_
    rintro contents rfl
    cases directory
  have alike := room.alike contents differ
  rw [found] at alike
  exact alike.isDirectory directory

/-! ### Where paths lead -/

section Leads

variable {making : Bool} {links : Nat} {path : List String}

/-- A path leads to a directory or to where a file can be written. -/
theorem Leads.ends (leads : Leads root making links place path names)
    (start : root.IsDirectoryAt place ∨ root.Room place) :
    root.IsDirectoryAt names ∨ root.Room names := by
  induction leads with
  | here => exact start
  | stay directory _ _ ih => exact ih (.inl directory)
  | back directory _ ih => exact ih (.inl directory.back)
  | make directory step absent makes =>
      obtain ⟨here, found, directory⟩ := directory
      exact .inr (.free found directory ((descend_child found _).symm.trans absent))
  | link step _ found _ ih => exact ih (.inl ((isDirectoryAt_above _ found).origin _))
  | @down links place path names part tree step _ found held _ ih =>
      apply ih
      cases tree with
      | file contents => exact .inr (.file found)
      | directory entries => exact .inl ⟨_, found, rfl⟩
      | link target => exact absurd rfl (held target)

/-- The way to a file is the same once the file is written. -/
theorem Leads.written (leads : Leads root making links place path names)
    (room : root.Room names) (contents : ByteArray) :
    Leads (put (.file contents) names root) false links place path names := by
  induction leads with
  | here => exact .here
  | stay directory stays _ ih => exact .stay (room.isDirectoryAt contents directory) stays (ih room)
  | back directory _ ih => exact .back (room.isDirectoryAt contents directory) (ih room)
  | make directory step =>
      -- What was to be made is there now, so that the last part goes down.
      exact .down step rfl (descend_put _ _ _) (fun _ => Tree.noConfusion) .here
  | link step _ found _ ih =>
      have differ := room.ne found fun _ => Tree.noConfusion
      exact .link step rfl (room.keeps contents differ found rfl) (ih room)
  | @down links place path names part tree step _ found held _ ih =>
      cases tree with
      | link target => exact absurd rfl (held target)
      | directory entries =>
          obtain ⟨here, found, directory⟩ := room.isDirectoryAt contents ⟨_, found, rfl⟩
          exact .down step rfl found (not_link_of_isDirectory directory) (ih room)
      | file held =>
          by_cases same : place ++ [part] = names
          · subst same
            exact .down step rfl (descend_put _ _ _) (fun _ => Tree.noConfusion) (ih room)
          · have found := room.keeps contents same found rfl
            exact .down step rfl found (fun _ => Tree.noConfusion) (ih room)

end Leads

/-! ### Files that are written -/

section Write

variable {left : Tree} {path : String} {contents : ByteArray} {home : List String}

/-- The parts of a path are never none, so that the path starts in a directory. -/
theorem resolve_ends {making : Bool} (resolved : root.resolve making path home = .ok names) :
    root.IsDirectoryAt names ∨ root.Room names := by
  obtain ⟨-, leads⟩ := resolve_eq_ok.mp resolved
  cases parts : Path.parts path with
  | nil => simp [Path.parts, Text.cutAt, Text.parts_ne_nil] at parts
  | cons part rest =>
      rw [parts] at leads
      exact leads.ends (.inl leads.start)

/-- To write a file is to put it where its path leads, if there is room. -/
theorem write_eq_ok (written : root.write path contents home = .ok left) :
    ∃ place, root.resolve true path home = .ok place ∧ root.Room place ∧
      left = put (.file contents) place root := by
  unfold write at written
  split at written
  · cases written
  · next place resolved =>
    split at written
    · cases written
    · next other =>
      rcases resolve_ends resolved with ⟨_ | _ | _, found, directory⟩ | room
      · cases directory
      · cases directory
      · exact absurd found (other _)
      · exact ⟨place, resolved, room, (Except.ok.inj written).symm⟩

/-- What is written to a path is found there. -/
theorem look_write (written : root.write path contents home = .ok left) :
    left.look path home = .ok (.file contents) := by
  obtain ⟨place, resolved, room, rfl⟩ := write_eq_ok written
  obtain ⟨filled, leads⟩ := resolve_eq_ok.mp resolved
  have found : (put (.file contents) place root).resolve false path home = .ok place :=
    resolve_eq_ok.mpr ⟨filled, leads.written room contents⟩
  simp only [look, found, descend_put]

/-- Whether two trees hold the same directories, files and links, but for what stands at one
place. -/
def SameBut (place : List String) (root left : Tree) : Prop :=
  ∀ names, names ≠ place → Alike (root.descend names) (left.descend names)

theorem sameBut_write (written : root.write path contents home = .ok left) :
    ∃ place, root.resolve true path home = .ok place ∧ SameBut place root left := by
  obtain ⟨place, resolved, room, rfl⟩ := write_eq_ok written
  exact ⟨place, resolved, fun names differ => room.alike contents differ⟩

end Write

end Tree

end Rehearsal
