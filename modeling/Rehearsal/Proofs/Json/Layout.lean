import Mathlib.Data.String.Basic
import Rehearsal.Json.Fault
import Rehearsal.Json.Printer

/-! # How values are laid out

A value on one line and a value over several lines differ in the blanks between their parts and in
nothing else. One writer, which is told what blanks to put where, covers both.
-/

namespace Rehearsal.Json

/-- What may stand between the parts of a JSON text. -/
def isBlank (c : Char) : Bool :=
  c == ' ' || c == '\n' || c == '\t' || c == '\r'

/-- Whether a text is made of blanks. -/
def Blank (text : List Char) : Prop :=
  ∀ c ∈ text, isBlank c = true

theorem blank_nil : Blank [] :=
  List.forall_mem_nil _

namespace Cursor

variable {c : Cursor}

theorem rest_advance {x : Char} {rest : List Char} (here : c.rest = x :: rest) :
    c.advance.rest = rest := by
  simp only [advance, here]

theorem rest_skipBlanks (c : Cursor) : c.skipBlanks.rest = c.rest.dropWhile isBlank := by
  obtain ⟨text, position⟩ := c
  rw [skipBlanks]
  induction text generalizing position with
  | nil => rfl
  | cons x text ih =>
      rw [List.dropWhile_cons, isBlank, skipBlanks.go]
      split
      · exact ih _
      · rfl

end Cursor

theorem dropWhile_isBlank {blanks : List Char} (blank : Blank blanks) (text : List Char) :
    (blanks ++ text).dropWhile isBlank = text.dropWhile isBlank := by
  induction blanks with
  | nil => rfl
  | cons c blanks ih =>
      obtain ⟨first, others⟩ := List.forall_mem_cons.mp blank
      rw [List.cons_append, List.dropWhile_cons, if_pos first, ih others]

/-- The blanks of a way to write values. -/
structure Layout where
  /-- What leads a part of a list or an object, and its closing bracket, at a level. -/
  lead : Nat → List Char
  /-- What stands between the colon and the value of a member. -/
  pad : List Char
  blank_lead : ∀ level, Blank (lead level)
  blank_pad : Blank pad

namespace Layout

/-- Everything on one line. -/
def oneLine : Layout where
  lead _ := []
  pad := []
  blank_lead _ := List.forall_mem_nil _
  blank_pad := List.forall_mem_nil _

/-- Each part on a line of its own. -/
def lines : Layout where
  lead level := '\n' :: List.replicate (2 * level) ' '
  pad := [' ']
  blank_lead level := by simp [Blank, isBlank]
  blank_pad := by simp [Blank, isBlank]

/-- Parts one after another, each with its lead; a comma stands before each but the first of a
    list or an object. -/
def separated (lead : List Char) : (first : Bool) → List (List Char) → List Char
  | _, [] => []
  | true, part :: parts => lead ++ part ++ separated lead false parts
  | false, part :: parts => ',' :: lead ++ part ++ separated lead false parts

variable (layout : Layout)

/-- What stands before the closing bracket. -/
def gap (level : Nat) (parts : List (List Char)) : List Char :=
  if parts = [] then [] else layout.lead level

/-- Parts between brackets of a level. -/
def block (level : Nat) (opening closing : Char) (parts : List (List Char)) : List Char :=
  opening :: separated (layout.lead (level + 1)) true parts ++ layout.gap level parts ++ [closing]

theorem blank_gap (level : Nat) (parts : List (List Char)) : Blank (layout.gap level parts) := by
  unfold gap
  split
  · exact List.forall_mem_nil _
  · exact layout.blank_lead level

theorem separated_cons (lead part : List Char) (parts : List (List Char)) :
    separated lead true (part :: parts) = lead ++ (',' :: lead).intercalate (part :: parts) := by
  suffices later : ∀ part, part ++ separated lead false parts =
      (',' :: lead).intercalate (part :: parts) by
    rw [separated, List.append_assoc, later]
  intro part
  induction parts generalizing part with
  | nil => simp [separated, List.intercalate]
  | cons next parts ih => rw [separated, List.intercalate_cons_cons, ← ih next]; simp

end Layout

namespace Value

/-- To show something of every value it may be assumed of the items and members inside. -/
@[elab_as_elim, induction_eliminator]
theorem induct {P : Value → Prop} (null : P .null) (bool : ∀ b, P (.bool b))
    (number : ∀ n, P (.number n)) (text : ∀ s, P (.text s))
    (list : ∀ items, (∀ item ∈ items, P item) → P (.list items))
    (object : ∀ members, (∀ member ∈ members, P member.2) → P (.object members)) :
    ∀ value, P value
  | .null => null
  | .bool b => bool b
  | .number n => number n
  | .text s => text s
  | .list items => list items fun item _ => induct null bool number text list object item
  | .object members =>
    object members fun member _ => induct null bool number text list object member.2
termination_by value => value
decreasing_by
  · have smaller := List.sizeOf_lt_of_mem ‹item ∈ items›
    simp only [Value.list.sizeOf_spec]
    omega
  · have smaller := List.sizeOf_lt_of_mem ‹member ∈ members›
    have inside : sizeOf member = 1 + sizeOf member.1 + sizeOf member.2 := rfl
    simp only [Value.object.sizeOf_spec]
    omega

mutual

/-- The text of a value, inside brackets of the given level. -/
def written (layout : Layout) (level : Nat) : Value → List Char
  | list items => layout.block level '[' ']' (writtenItems layout (level + 1) items)
  | object members =>
    layout.block level '\x7b' '\x7d' (writtenMembers layout (level + 1) members)
  | null => "null".toList
  | bool b => (toString b).toList
  | number n => n.render.toList
  | text s => (quote s).toList

/-- The text of each item. -/
def writtenItems (layout : Layout) (level : Nat) : List Value → List (List Char)
  | [] => []
  | item :: rest => item.written layout level :: writtenItems layout level rest

/-- The text of each member. -/
def writtenMembers (layout : Layout) (level : Nat) : List (String × Value) → List (List Char)
  | [] => []
  | (name, value) :: rest =>
    ((quote name).toList ++ ':' :: layout.pad ++ value.written layout level) ::
      writtenMembers layout level rest

end

section Written

variable (layout : Layout) (level : Nat)

/-- The text of one member. -/
def writtenMember (member : String × Value) : List Char :=
  (quote member.1).toList ++ ':' :: layout.pad ++ member.2.written layout level

theorem writtenItems_eq (items : List Value) :
    writtenItems layout level items = items.map (written layout level) := by
  induction items with
  | nil => rfl
  | cons item rest ih => rw [writtenItems, ih, List.map_cons]

theorem writtenMembers_eq (members : List (String × Value)) :
    writtenMembers layout level members = members.map (writtenMember layout level) := by
  induction members with
  | nil => rfl
  | cons member rest ih => rw [writtenMembers, ih, List.map_cons]; rfl

end Written

theorem compactItems_eq (items : List Value) : compactItems items = items.map compact := by
  induction items with
  | nil => rfl
  | cons item rest ih => rw [compactItems, ih, List.map_cons]

theorem compactMembers_eq (members : List (String × Value)) :
    compactMembers members =
      members.map fun member => quote member.1 ++ ":" ++ member.2.compact := by
  induction members with
  | nil => rfl
  | cons member rest ih => rw [compactMembers, ih, List.map_cons]

theorem indentedItems_eq (level : Nat) (items : List Value) :
    indentedItems level items = items.map (indented level) := by
  induction items with
  | nil => rfl
  | cons item rest ih => rw [indentedItems, ih, List.map_cons]

theorem indentedMembers_eq (level : Nat) (members : List (String × Value)) :
    indentedMembers level members =
      members.map fun member => quote member.1 ++ ": " ++ member.2.indented level := by
  induction members with
  | nil => rfl
  | cons member rest ih => rw [indentedMembers, ih, List.map_cons]

theorem toList_oneLine (level : Nat) (opening closing : Char) (parts : List String) :
    opening :: (",".intercalate parts).toList ++ [closing] =
      Layout.oneLine.block level opening closing (parts.map String.toList) := by
  have gap : Layout.oneLine.gap level (parts.map String.toList) = [] := by
    simp [Layout.gap, Layout.oneLine]
  rw [Layout.block, gap, String.toList_intercalate]
  cases parts with
  | nil => rfl
  | cons part parts => simp [Layout.separated_cons, Layout.oneLine]

theorem toList_block (level : Nat) (opening closing : Char) (parts : List String) :
    (block level (String.singleton opening) (String.singleton closing) parts).toList =
      Layout.lines.block level opening closing (parts.map String.toList) := by
  cases parts with
  | nil => simp [block, Layout.block, Layout.gap, Layout.separated]
  | cons part parts =>
      simp [block, Layout.block, Layout.gap, Layout.separated_cons, lineAt, Layout.lines]

theorem toList_compact (level : Nat) (value : Value) :
    value.compact.toList = value.written .oneLine level := by
  induction value generalizing level with
  | null | bool | number | text => rfl
  | list items ih =>
      have parts : (compactItems items).map String.toList =
          writtenItems .oneLine (level + 1) items := by
        rw [compactItems_eq, writtenItems_eq, List.map_map]
        exact List.map_congr_left fun item member => ih item member _
      rw [written, ← parts, ← toList_oneLine, compact]
      simp
  | object members ih =>
      have parts : (compactMembers members).map String.toList =
          writtenMembers .oneLine (level + 1) members := by
        rw [compactMembers_eq, writtenMembers_eq, List.map_map]
        refine List.map_congr_left fun member inside => ?_
        simp [writtenMember, Layout.oneLine, ih member inside (level + 1)]
      rw [written, ← parts, ← toList_oneLine, compact]
      simp

theorem toList_indented (level : Nat) (value : Value) :
    (value.indented level).toList = value.written .lines level := by
  induction value generalizing level with
  | null | bool | number | text => rw [indented, written]
  | list items ih =>
      have parts : (indentedItems (level + 1) items).map String.toList =
          writtenItems .lines (level + 1) items := by
        rw [indentedItems_eq, writtenItems_eq, List.map_map]
        exact List.map_congr_left fun item member => ih item member _
      rw [written, ← parts, ← toList_block, indented]
      rfl
  | object members ih =>
      have parts : (indentedMembers (level + 1) members).map String.toList =
          writtenMembers .lines (level + 1) members := by
        rw [indentedMembers_eq, writtenMembers_eq, List.map_map]
        refine List.map_congr_left fun member inside => ?_
        simp [writtenMember, Layout.lines, ih member inside (level + 1)]
      rw [written, ← parts, ← toList_block, indented]
      rfl

end Value

end Rehearsal.Json
