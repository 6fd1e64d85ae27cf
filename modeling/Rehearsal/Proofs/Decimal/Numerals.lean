import Rehearsal.Decimal.Notation

/-! # The characters of written numbers

Reports put numbers between texts of their own. Whatever the number, there is nothing in it but
digits and a few marks and letters, so it ends no line and is no markup.
-/

namespace Rehearsal.Decimal

/-- A text of digits, marks of numbers, and letters of the values that are no finite numbers. -/
def Numeral (text : String) : Prop :=
  ∀ c ∈ text.toList, c.isDigit = true ∨ c ∈ ['-', '.', 'N', 'a', 'i', 'n', 'f']

instance (text : String) : Decidable (Numeral text) :=
  List.decidableBAll _ text.toList

namespace Numeral

variable {text more : String}

theorem append (first : Numeral text) (second : Numeral more) : Numeral (text ++ more) := by
  intro c member
  rw [String.toList_append, List.mem_append] at member
  exact member.elim (first c) (second c)

theorem of_subset (numeral : Numeral text) {chars : List Char} (inside : chars ⊆ text.toList) :
    Numeral (String.ofList chars) := by
  intro c member
  rw [String.toList_ofList] at member
  exact numeral c (inside member)

theorem zeros (count : Nat) : Numeral (Decimal.zeros count) := by
  intro c member
  rw [Decimal.zeros, String.toList_ofList] at member
  rw [List.eq_of_mem_replicate member]
  exact .inl rfl

theorem natural (n : Nat) : Numeral (toString n) := by
  intro c member
  have digits : (toString n).toList = Nat.toDigits 10 n := by simp
  rw [digits] at member
  exact .inl (Nat.isDigit_of_mem_toDigits (by decide) (by decide) member)

theorem signed (numeral : Numeral text) (x : Float) : Numeral (Decimal.signed x text) := by
  unfold Decimal.signed
  split
  · exact append (by decide) numeral
  · exact numeral

theorem fixed (places : Nat) (x : Float) : Numeral (Decimal.fixed places x) := by
  unfold Decimal.fixed special?
  split
  · exact (by decide : Numeral "NaN")
  split
  · exact signed (by decide) x
  rw [Option.getD_none]
  refine signed ?_ x
  split
  · exact (zeros _).append (natural _)
  · refine append (append (of_subset ?whole (List.take_subset _ _)) (by decide))
      (of_subset ?places (List.drop_subset _ _))
    all_goals exact (zeros _).append (natural _)

end Numeral

end Rehearsal.Decimal
