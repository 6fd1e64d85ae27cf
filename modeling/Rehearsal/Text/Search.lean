/-! # Finding and replacing a part of a text

Texts are lists of characters here, so that the rules read off their structure.
-/

namespace Rehearsal.Text

/-- Whether `needle` stands somewhere in the text. -/
def hasPart (needle : List Char) : List Char → Bool
  | [] => needle.isEmpty
  | c :: rest => needle.isPrefixOf (c :: rest) || hasPart needle rest

/-- Replaces `old` by `new` after leaving out the next `skip` characters. -/
def replaceFrom (old new : List Char) : Nat → List Char → List Char
  | _, [] => []
  | skip + 1, _ :: rest => replaceFrom old new skip rest
  | 0, c :: rest =>
    if old.isPrefixOf (c :: rest) then new ++ replaceFrom old new (old.length - 1) rest
    else c :: replaceFrom old new 0 rest

/-- Replaces every occurrence of `old`, which is not empty, from left to right; what has been
    put in is not searched again. -/
def replaceAll (old new text : List Char) : List Char :=
  replaceFrom old new 0 text

def includes (text needle : String) : Bool :=
  hasPart needle.toList text.toList

def substitute (old new text : String) : String :=
  String.ofList (replaceAll old.toList new.toList text.toList)

/-- A part is found exactly when the text is made of something, the part and something. -/
theorem hasPart_iff {needle text : List Char} :
    hasPart needle text = true ↔ ∃ before after, text = before ++ needle ++ after := by
  induction text with
  | nil =>
    simp only [hasPart, List.isEmpty_iff]
    constructor
    · rintro rfl; exact ⟨[], [], rfl⟩
    · rintro ⟨before, after, h⟩
      have := congrArg List.length h
      simp at this
      exact List.eq_nil_of_length_eq_zero (by omega)
  | cons c rest ih =>
    simp only [hasPart, Bool.or_eq_true, List.isPrefixOf_iff_prefix, ih]
    constructor
    · rintro (⟨after, h⟩ | ⟨before, after, rfl⟩)
      · exact ⟨[], after, by simpa using h.symm⟩
      · exact ⟨c :: before, after, rfl⟩
    · rintro ⟨before, after, h⟩
      cases before with
      | nil => exact Or.inl ⟨after, by simpa using h.symm⟩
      | cons b before =>
        simp only [List.cons_append, List.cons.injEq] at h
        exact Or.inr ⟨before, after, h.2⟩

end Rehearsal.Text
