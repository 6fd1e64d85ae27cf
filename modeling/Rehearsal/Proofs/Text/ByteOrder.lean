import Mathlib.Data.List.Basic
import Mathlib.Order.Defs.LinearOrder
import Mathlib.Data.String.Basic

/-! # The order of texts

Texts are ordered by their characters, and so are their encodings by bytes: of two characters the
smaller has the smaller byte at the first place where their encodings differ, and they always differ
before one of them ends.
-/

namespace Rehearsal.Text

/-- The bytes that encode a text. -/
def bytes (text : String) : List UInt8 :=
  text.toList.flatMap String.utf8EncodeChar

theorem toUTF8_eq_bytes (text : String) : text.toUTF8 = (bytes text).toByteArray := by
  conv => lhs; rw [← String.ofList_toList (s := text)]
  rfl

/-- The first list has the smaller byte at the first place where they differ, and both have one. -/
def Splits : List UInt8 → List UInt8 → Prop
  | a :: s, b :: t => a < b ∨ a = b ∧ Splits s t
  | _, _ => False

theorem Splits.lt_append {s t : List UInt8} (splits : Splits s t) (x y : List UInt8) :
    s ++ x < t ++ y := by
  induction s generalizing t with
  | nil => exact splits.elim
  | cons a s ih =>
      cases t with
      | nil => exact splits.elim
      | cons b t =>
          rcases splits with less | ⟨rfl, later⟩
          · exact List.cons_lt_cons_iff.mpr (.inl less)
          · exact List.cons_lt_cons_iff.mpr (.inr ⟨rfl, ih later⟩)

theorem ofNat_lt_ofNat {x y : Nat} (first : x < 256) (second : y < 256) :
    UInt8.ofNat x < UInt8.ofNat y ↔ x < y := by
  rw [UInt8.lt_iff_toNat_lt, UInt8.toNat_ofNat', UInt8.toNat_ofNat']
  omega

theorem ofNat_eq_ofNat {x y : Nat} (first : x < 256) (second : y < 256) :
    UInt8.ofNat x = UInt8.ofNat y ↔ x = y := by
  rw [← UInt8.toNat_inj, UInt8.toNat_ofNat', UInt8.toNat_ofNat']
  omega

/-- By cases on the lengths of the encodings, of which a longer one has a greater first byte. -/
theorem splits_utf8EncodeChar {c d : Char} (less : c < d) :
    Splits (String.utf8EncodeChar c) (String.utf8EncodeChar d) := by
  have below : c.val.toNat < d.val.toNat := less
  have bound : d.val.toNat < 1114112 := by
    rcases d.valid with h | h <;> omega
  simp only [String.utf8EncodeChar]
  generalize c.val.toNat = v at below
  generalize d.val.toNat = w at below bound
  -- The bytes after the first are digits to the base 64.
  have second (n : Nat) : n / 4096 = n / 64 / 64 := by omega
  have third (n : Nat) : n / 262144 = n / 64 / 64 / 64 := by omega
  simp only [second, third]
  split_ifs <;> simp (disch := omega) only [Splits, ofNat_lt_ofNat, ofNat_eq_ofNat] <;> omega

/-- By induction on the characters, of which the first that differ split the encodings. -/
theorem flatMap_utf8EncodeChar_lt {s t : List Char} (less : s < t) :
    s.flatMap String.utf8EncodeChar < t.flatMap String.utf8EncodeChar := by
  induction less with
  | @nil c t =>
      obtain ⟨byte, rest, encoded⟩ := List.exists_cons_of_ne_nil (String.utf8EncodeChar_ne_nil (c := c))
      simp [encoded]
  | @cons c s t later ih => exact List.append_left_lt ih
  | @rel c s d t less => exact (splits_utf8EncodeChar less).lt_append _ _

/-- Texts stand in the order of their bytes. -/
theorem bytes_lt_iff {a b : String} : bytes a < bytes b ↔ a < b := by
  rw [String.lt_iff_toList_lt]
  refine ⟨fun less => ?_, flatMap_utf8EncodeChar_lt⟩
  rcases lt_trichotomy a.toList b.toList with h | h | h
  · exact h
  · rw [bytes, bytes, h] at less
    exact absurd less (List.lt_irrefl _)
  · exact absurd less (List.lt_asymm (flatMap_utf8EncodeChar_lt h))

end Rehearsal.Text
