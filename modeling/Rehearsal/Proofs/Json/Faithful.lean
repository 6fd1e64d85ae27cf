import Rehearsal.Json.Codec
import Rehearsal.Proofs.Json.Decoded

/-! # Values that survive a round trip

What a text decodes to is written and decoded again. Whole numbers survive this by what is shown of
the readers; floating point numbers do as far as their texts read back.
-/

namespace Rehearsal.Json

namespace Value

mutual

/-- The floating point numbers that stand in a value. -/
def floats : Value → List Float
  | number (.real x) => [x]
  | list items => floatsOfItems items
  | object members => floatsOfMembers members
  | _ => []

/-- The floating point numbers of each item. -/
def floatsOfItems : List Value → List Float
  | [] => []
  | item :: rest => item.floats ++ floatsOfItems rest

/-- The floating point numbers of each member's value. -/
def floatsOfMembers : List (String × Value) → List Float
  | [] => []
  | (_, value) :: rest => value.floats ++ floatsOfMembers rest

end

theorem floatsOfItems_eq (items : List Value) : floatsOfItems items = items.flatMap floats := by
  induction items with
  | nil => rfl
  | cons item rest ih => rw [floatsOfItems, ih, List.flatMap_cons]

theorem floatsOfMembers_eq (members : List (String × Value)) :
    floatsOfMembers members = members.flatMap (·.2.floats) := by
  induction members with
  | nil => rfl
  | cons member rest ih => rw [floatsOfMembers, ih, List.flatMap_cons]

end Value

/-- Whether the texts of these numbers read back. -/
def ReadBack (floats : List Float) : Prop :=
  ∀ x ∈ floats, (Number.real x).ReadsBack

section ReadBack

variable {α : Type} {a b : List Float} {as : List α} {floats : α → List Float}

@[simp] theorem readBack_append : ReadBack (a ++ b) ↔ ReadBack a ∧ ReadBack b :=
  List.forall_mem_append

@[simp] theorem readBack_flatMap : ReadBack (as.flatMap floats) ↔ ∀ a ∈ as, ReadBack (floats a) :=
  List.forall_mem_flatMap

end ReadBack

/-- All numbers of a value read back if those with a floating point do. -/
theorem Value.Within.readsBack {depth : Nat} {v : Value} (within : v.Within Number.Ranged depth)
    (readBack : ReadBack v.floats) : v.Within Number.ReadsBack depth := by
  induction within with
  | null => exact .null
  | bool b => exact .bool b
  | text s => exact .text s
  | @number depth n ranged =>
      cases n with
      | natural n => exact .number (Number.readsBack_natural ranged)
      | negative n => exact .number (Number.readsBack_negative ranged.1 ranged.2)
      | real x => exact .number (readBack x (by simp [floats]))
  | list each ih =>
      rw [floats, floatsOfItems_eq, readBack_flatMap] at readBack
      exact .list fun item member => ih item member (readBack item member)
  | object each ih =>
      rw [floats, floatsOfMembers_eq, readBack_flatMap] at readBack
      exact .object fun member inside => ih member inside (readBack member inside)

namespace Codec

variable {α : Type} [Codec α]

/-- Whether what a value is written as, on one line and over several, is decoded to the value. -/
def Faithful (a : α) : Prop :=
  decode (toJson a).compact = .ok a ∧ decode (toJson a).pretty = .ok a

theorem decode_written {v : Value} {a : α} (reads : Reads (reader : Reader α) Reader.maxDepth v a)
    (layout : Layout) {text : String} (written : text.toList = v.written layout 0) :
    decode text = .ok a := by
  have opens := reads.opens layout 0
  have start : (Cursor.ofText text).skipBlanks.rest = v.written layout 0 ++ [] := by
    rw [Cursor.rest_skipBlanks, List.append_nil, ← opens.dropWhile, ← written]
    rfl
  obtain ⟨c, read, ended⟩ := reads.read layout 0 _ [] start nofun
  have skipped : c.skipBlanks.rest = [] := by rw [Cursor.rest_skipBlanks, ended]; rfl
  simp only [decode, Reader.run, read, skipped]

/-- A value is faithful if its reader, with all brackets left, takes its texts to it. -/
theorem faithful_of_reads {a : α}
    (reads : Reads (reader : Reader α) Reader.maxDepth (toJson a) a) : Faithful a :=
  ⟨decode_written reads .oneLine ((toJson a).toList_compact 0),
    decode_written reads .lines ((toJson a).toList_indented 0)⟩

theorem holds_of_decode {P : α → Prop} (yields : Yields (reader : Reader α) Reader.maxDepth P)
    {text : String} {a : α} (decoded : decode text = .ok a) : P a := by
  unfold decode Reader.run at decoded
  split at decoded
  · cases decoded
  · rename_i read
    dsimp only at decoded
    split at decoded
    · cases decoded
      exact yields _ a _ read
    · cases decoded

end Codec

end Rehearsal.Json
