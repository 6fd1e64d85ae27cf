import Mathlib.Data.List.Infix
import Mathlib.Data.List.Nodup
import Mathlib.Data.List.TakeWhile
import Rehearsal.Task
import Rehearsal.Text.Search

/-! # Placeholders

A name in braces holds the place of a value. To fill a text in is one pass from left to right in
which values are not looked at again. It comes to the same as to replace the names one after another
as long as no value, alone or with the braces around it, makes up a placeholder.
-/

namespace Rehearsal.Text

/-- A name in braces. -/
def slot (name : String) : List Char :=
  '\x7b' :: (name.toList ++ ['\x7d'])

def isBrace (c : Char) : Bool :=
  c == '\x7b' || c == '\x7d'

/-- A text without braces. -/
def Plain (text : List Char) : Prop :=
  ∀ c ∈ text, isBrace c = false

instance (text : List Char) : Decidable (Plain text) :=
  List.decidableBAll (isBrace · = false) text

/-- What one pass from left to right makes of a text: a placeholder of an input gives way to the
input's value, and every other character is kept. -/
inductive Filled (inputs : Inputs) : List Char → List Char → Prop where
  | done : Filled inputs [] []
  | fill {name value rest out} : (name, value) ∈ inputs → Filled inputs rest out →
      Filled inputs (slot name ++ rest) (value.toList ++ out)
  | keep {c rest out} : (∀ input ∈ inputs, ¬slot input.1 <+: c :: rest) →
      Filled inputs rest out → Filled inputs (c :: rest) (c :: out)

/-- A text whose first brace opens a placeholder of an input. -/
def Meets (inputs : Inputs) (text : List Char) : Prop :=
  ∃ input ∈ inputs, slot input.1 <+: text.dropWhile fun c => !isBrace c

instance (inputs : Inputs) (text : List Char) : Decidable (Meets inputs text) :=
  List.decidableBEx _ inputs

/-- A text in which no placeholder of an input stands right inside an open brace. -/
def Apart (inputs : Inputs) : List Char → Prop
  | [] => True
  | c :: rest => (c = '\x7b' → ¬Meets inputs rest) ∧ Apart inputs rest

/-- Whether placeholders stand apart, character by character. -/
instance Apart.decidable (inputs : Inputs) : (text : List Char) → Decidable (Apart inputs text)
  | [] => isTrue trivial
  | c :: rest =>
    have := decidable inputs rest
    inferInstanceAs (Decidable ((c = '\x7b' → ¬Meets inputs rest) ∧ Apart inputs rest))

/-- A value that holds no placeholder of an input and leaves no brace open. -/
structure Inert (inputs : Inputs) (value : List Char) : Prop where
  slots : ∀ input ∈ inputs, ¬slot input.1 <:+: value
  closed : ∀ after, '\x7b' :: after <:+ value → ¬Plain after

theorem plain_cons {c : Char} {rest : List Char} :
    Plain (c :: rest) ↔ isBrace c = false ∧ Plain rest :=
  List.forall_mem_cons

/-- A text is plain up to its first brace. -/
theorem plain_or_brace (text : List Char) : Plain text ∨
    ∃ before brace after, Plain before ∧ isBrace brace = true ∧ text = before ++ brace :: after := by
  induction text with
  | nil => exact .inl (by simp [Plain])
  | cons c rest ih =>
      cases braced : isBrace c with
      | true => exact .inr ⟨[], c, rest, by simp [Plain], braced, rfl⟩
      | false =>
          rcases ih with plain | ⟨before, brace, after, plain, isBrace, rfl⟩
          · exact .inl (plain_cons.mpr ⟨braced, plain⟩)
          · exact .inr ⟨c :: before, brace, after, plain_cons.mpr ⟨braced, plain⟩, isBrace, rfl⟩

theorem brace_unique {before before' after after' : List Char} {brace brace' : Char}
    (plain : Plain before) (braced : isBrace brace = true) (plain' : Plain before')
    (braced' : isBrace brace' = true)
    (same : before ++ brace :: after = before' ++ brace' :: after') :
    before = before' ∧ brace = brace' ∧ after = after' := by
  induction before generalizing before' with
  | nil =>
      cases before' with
      | nil => simpa using same
      | cons c rest =>
          obtain ⟨rfl, -⟩ := List.cons.inj same
          simp [(plain_cons.mp plain').1] at braced
  | cons c rest ih =>
      cases before' with
      | nil =>
          obtain ⟨rfl, -⟩ := List.cons.inj same
          simp [(plain_cons.mp plain).1] at braced'
      | cons c' rest' =>
          obtain ⟨rfl, tail⟩ := List.cons.inj same
          obtain ⟨rfl, rest⟩ := ih (plain_cons.mp plain).2 (plain_cons.mp plain').2 tail
          exact ⟨rfl, rest⟩

theorem not_plain_brace {before after : List Char} {brace : Char} (braced : isBrace brace = true) :
    ¬Plain (before ++ brace :: after) := by
  intro plain
  simp [plain brace (by simp)] at braced

theorem slot_append (name : String) (rest : List Char) :
    slot name ++ rest = '\x7b' :: (name.toList ++ '\x7d' :: rest) := by
  simp [slot]

theorem dropWhile_plain {before : List Char} {rest : List Char} (plain : Plain before) :
    (before ++ rest).dropWhile (fun c => !isBrace c) = rest.dropWhile fun c => !isBrace c :=
  List.dropWhile_append_of_pos fun c member => by simp [plain c member]

theorem meets_iff {inputs : Inputs} {text : List Char} : Meets inputs text ↔
    ∃ before, ∃ input ∈ inputs, ∃ after, Plain before ∧ text = before ++ (slot input.1 ++ after) := by
  constructor
  · rintro ⟨input, member, after, same⟩
    refine ⟨text.takeWhile fun c => !isBrace c, input, member, after, ?_, ?_⟩
    · intro c inside
      simpa using List.mem_takeWhile_imp inside
    · rw [same, List.takeWhile_append_dropWhile]
  · rintro ⟨before, input, member, after, plain, rfl⟩
    refine ⟨input, member, after, ?_⟩
    rw [dropWhile_plain plain, slot, List.cons_append, List.dropWhile_cons_of_neg (by decide)]

theorem slot_prefix_iff {name : String} {c : Char} {text : List Char} :
    slot name <+: c :: text ↔ c = '\x7b' ∧ ∃ rest, text = name.toList ++ '\x7d' :: rest := by
  constructor
  · rintro ⟨rest, same⟩
    rw [slot_append] at same
    obtain ⟨rfl, rfl⟩ := List.cons.inj same
    exact ⟨rfl, rest, rfl⟩
  · rintro ⟨rfl, rest, rfl⟩
    exact ⟨rest, slot_append name rest⟩

theorem Apart.of_append {inputs : Inputs} {before after : List Char}
    (apart : Apart inputs (before ++ after)) : Apart inputs after := by
  induction before with
  | nil => exact apart
  | cons c before ih => exact ih apart.2

/-! ### Filling in one name -/

section OneName

variable {name : String} {value : List Char}

theorem replaceFrom_skip (old new : List Char) (skip : Nat) (text : List Char) :
    replaceFrom old new skip text = replaceAll old new (text.drop skip) := by
  induction text generalizing skip with
  | nil => cases skip <;> rfl
  | cons c rest ih =>
      cases skip with
      | zero => rfl
      | succ skip => exact ih skip

theorem replaceAll_slot (rest : List Char) :
    replaceAll (slot name) value (slot name ++ rest) =
      value ++ replaceAll (slot name) value rest := by
  have found : (slot name).isPrefixOf ('\x7b' :: (name.toList ++ '\x7d' :: rest)) = true :=
    List.isPrefixOf_iff_prefix.mpr ⟨rest, slot_append name rest⟩
  have length : (slot name).length - 1 = name.toList.length + 1 := by simp [slot]
  rw [slot_append, replaceAll, replaceFrom, if_pos found, replaceFrom_skip, length]
  simp

theorem replaceAll_cons {c : Char} {rest : List Char} (other : ¬slot name <+: c :: rest) :
    replaceAll (slot name) value (c :: rest) = c :: replaceAll (slot name) value rest := by
  rw [replaceAll, replaceFrom, if_neg (by rwa [List.isPrefixOf_iff_prefix])]
  rfl

theorem replaceAll_plain {before : List Char} (plain : Plain before) (rest : List Char) :
    replaceAll (slot name) value (before ++ rest) =
      before ++ replaceAll (slot name) value rest := by
  induction before with
  | nil => rfl
  | cons c before ih =>
      obtain ⟨unbraced, plain⟩ := plain_cons.mp plain
      have other : ¬slot name <+: c :: (before ++ rest) := by
        intro found
        simp [(slot_prefix_iff.mp found).1, isBrace] at unbraced
      rw [List.cons_append, replaceAll_cons other, ih plain, List.cons_append]

/-- A brace that stands first after replacing stood first before, unless the name was replaced
there. -/
theorem replaceAll_brace {text before after : List Char} {brace : Char}
    (replaced : replaceAll (slot name) value text = before ++ brace :: after)
    (plain : Plain before) (braced : isBrace brace = true)
    (kept : ∀ before rest, Plain before → text ≠ before ++ (slot name ++ rest)) :
    ∃ rest, text = before ++ brace :: rest ∧ ¬slot name <+: brace :: rest ∧
      after = replaceAll (slot name) value rest := by
  rcases plain_or_brace text with unbraced | ⟨first, brace', rest, plain', braced', rfl⟩
  · have same : replaceAll (slot name) value (text ++ []) = _ := replaceAll_plain unbraced []
    rw [List.append_nil, replaced, replaceAll, replaceFrom, List.append_nil] at same
    exact absurd (same ▸ unbraced) (not_plain_brace braced)
  · have other : ¬slot name <+: brace' :: rest := by
      rintro ⟨after, found⟩
      exact kept first after plain' (by rw [found])
    rw [replaceAll_plain plain', replaceAll_cons other] at replaced
    obtain ⟨rfl, rfl, rfl⟩ := brace_unique plain' braced' plain braced replaced
    exact ⟨rest, rfl, other, rfl⟩

end OneName

/-! ### One pass -/

section OnePass

variable {inputs : Inputs}

theorem filled_nil {out : List Char} (filled : Filled inputs [] out) : out = [] := by
  generalize same : [] = text at filled
  cases filled with
  | done => rfl
  | fill => simp [slot] at same
  | keep => cases same

theorem filled_cons {c : Char} {rest out : List Char} (filled : Filled inputs (c :: rest) out) :
    (∃ name value after out', (name, value) ∈ inputs ∧ c = '\x7b' ∧
        rest = name.toList ++ '\x7d' :: after ∧ out = value.toList ++ out' ∧
        Filled inputs after out') ∨
      (∀ input ∈ inputs, ¬slot input.1 <+: c :: rest) ∧
        ∃ out', out = c :: out' ∧ Filled inputs rest out' := by
  generalize same : c :: rest = text at filled
  cases filled with
  | done => cases same
  | fill member filled =>
      rw [slot_append] at same
      obtain ⟨rfl, rfl⟩ := List.cons.inj same
      exact .inl ⟨_, _, _, _, member, rfl, rfl, rfl, filled⟩
  | keep none filled =>
      obtain ⟨rfl, rfl⟩ := List.cons.inj same
      exact .inr ⟨none, _, rfl, filled⟩

theorem filled_slot {name value : String} {rest out : List Char} (member : (name, value) ∈ inputs)
    (filled : Filled inputs rest out) :
    Filled inputs ('\x7b' :: (name.toList ++ '\x7d' :: rest)) (value.toList ++ out) :=
  slot_append name rest ▸ .fill member filled

theorem Filled.of_mem_iff {other : Inputs} (same : ∀ input, input ∈ other ↔ input ∈ inputs)
    {text out : List Char} (filled : Filled other text out) : Filled inputs text out := by
  induction filled with
  | done => exact .done
  | fill member _ ih => exact .fill ((same _).mp member) ih
  | keep none _ ih => exact .keep (fun input member => none input ((same input).mpr member)) ih

/-- A text can be filled in in one way only. -/
theorem Filled.unique (distinct : (inputs.map (·.1)).Nodup)
    (names : ∀ input ∈ inputs, Plain input.1.toList) {text out out' : List Char}
    (filled : Filled inputs text out) (filled' : Filled inputs text out') : out = out' := by
  induction filled generalizing out' with
  | done => exact (filled_nil filled').symm
  | @fill name value rest _ member _ ih =>
      rw [slot_append] at filled'
      rcases filled_cons filled' with ⟨name', value', after, _, member', -, same, rfl, later⟩ |
        ⟨none, -⟩
      · obtain ⟨equal, -, rfl⟩ :=
          brace_unique (names _ member) rfl (names _ member') rfl same
        obtain rfl := String.toList_inj.mp equal
        obtain rfl : value = value' :=
          congrArg Prod.snd (List.inj_on_of_nodup_map distinct member member' rfl)
        rw [ih later]
      · exact absurd (slot_prefix_iff.mpr ⟨rfl, rest, rfl⟩) (none _ member)
  | keep none _ ih =>
      rcases filled_cons filled' with ⟨_, _, after, _, member, rfl, rfl, -, -⟩ | ⟨-, _, rfl, later⟩
      · exact absurd (slot_prefix_iff.mpr ⟨rfl, after, rfl⟩) (none _ member)
      · rw [ih later]

end OnePass

/-! ### Values that are put in -/

section Values

variable {inputs : Inputs} {value rest : List Char}

theorem Inert.of_suffix {ending : List Char} (inert : Inert inputs value)
    (suffix : ending <:+ value) : Inert inputs ending where
  slots input member inside := inert.slots input member (inside.trans suffix.isInfix)
  closed after inside := inert.closed after (inside.trans suffix)

/-- After an open brace of a value the next brace is still one of the value. -/
theorem Inert.next {before after : List Char} {brace : Char}
    (inert : Inert inputs ('\x7b' :: value)) (plain : Plain before) (braced : isBrace brace = true)
    (same : value ++ rest = before ++ brace :: after) :
    ∃ others, value = before ++ brace :: others ∧ after = others ++ rest := by
  rcases plain_or_brace value with unbraced | ⟨first, brace', others, plain', braced', rfl⟩
  · exact absurd unbraced (inert.closed value List.suffix_rfl)
  · rw [List.append_assoc, List.cons_append] at same
    obtain ⟨rfl, rfl, rfl⟩ := brace_unique plain' braced' plain braced same
    exact ⟨others, rfl, rfl⟩

/-- An open brace of a value meets no placeholder of an input. -/
theorem Inert.not_slot {after : List Char} {input : String × String}
    (inert : Inert inputs ('\x7b' :: value)) (member : input ∈ inputs)
    (plain : Plain input.1.toList) :
    value ++ rest ≠ input.1.toList ++ '\x7d' :: after := by
  intro same
  obtain ⟨others, rfl, -⟩ := inert.next plain rfl same
  exact inert.slots input member ⟨[], others, by simp [slot]⟩

end Values

end Rehearsal.Text
