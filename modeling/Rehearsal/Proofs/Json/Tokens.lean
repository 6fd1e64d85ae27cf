import Mathlib.Data.List.TakeWhile
import Rehearsal.Json.Reader
import Rehearsal.Proofs.Json.Layout

/-! # Strings and numbers read back

A string is escaped character by character, and read back in the same way. A number is followed by
what cannot continue it, so that the reader stops where its text ends.
-/

namespace Rehearsal.Json

/-! ### Strings -/

section Strings

variable {c : Cursor} {rest : List Char}

theorem hexValue?_hexDigit {n : Nat} (small : n < 16) :
    Reader.hexValue? (hexDigit n) = some n := by
  have all : ∀ n : Fin 16, Reader.hexValue? (hexDigit n) = some n.val := by decide
  exact all ⟨n, small⟩

/-- An escape by code point is read back; only control characters are written so. -/
theorem codeEscape_control {x : Char} (control : x.toNat < 0x20)
    (here : c.rest = '0' :: '0' :: hexDigit (x.toNat / 16) :: hexDigit (x.toNat % 16) :: rest) :
    ∃ c', Reader.codeEscape c = .ok (x, c') ∧ c'.rest = rest := by
  have digits : (c.rest.take 4).filterMap Reader.hexValue? =
      [0, 0, x.toNat / 16, x.toNat % 16] := by
    have zero : Reader.hexValue? '0' = some 0 := rfl
    simp [here, zero, hexValue?_hexDigit (show x.toNat / 16 < 16 by omega),
      hexValue?_hexDigit (Nat.mod_lt x.toNat (show 0 < 16 by decide))]
  have total : (0 * 16 + x.toNat / 16) * 16 + x.toNat % 16 = x.toNat := by omega
  have read : Reader.hexEscape c = .ok (x.toNat, c.drop 4) := by
    simp [Reader.hexEscape, digits]
    omega
  refine ⟨c.drop 4, ?_, by simp [Cursor.drop, here]⟩
  rw [Reader.codeEscape, read]
  have low : ¬(0xDC00 ≤ x.toNat ∧ x.toNat ≤ 0xDFFF) := by omega
  have low' : x.toNat < 0xD800 ∨ 0xDBFF < x.toNat := .inl (by omega)
  simp [bind, Except.bind, if_neg low, if_pos low']

theorem stringBody_escaped {fuel : Nat} {done rest : List Char} {x : Char} {c' : Cursor}
    (here : c.rest = '\\' :: rest) (read : Reader.escaped c.advance = .ok (x, c')) :
    Reader.stringBody (fuel + 1) done c = Reader.stringBody fuel (x :: done) c' := by
  rw [Reader.stringBody]
  simp only [here, read]

/-- A character that was escaped is read as itself. -/
theorem stringBody_escape (fuel : Nat) (done : List Char) (x : Char)
    (here : c.rest = escape x ++ rest) :
    ∃ c', Reader.stringBody (fuel + 1) done c = Reader.stringBody fuel (x :: done) c' ∧
      c'.rest = rest := by
  have mark {mark : Char} (written : c.rest = '\\' :: mark :: rest)
      (read : Reader.escaped c.advance = .ok (x, c.advance.advance)) :
      ∃ c', Reader.stringBody (fuel + 1) done c = Reader.stringBody fuel (x :: done) c' ∧
        c'.rest = rest :=
    ⟨_, stringBody_escaped written read, Cursor.rest_advance (Cursor.rest_advance written)⟩
  unfold escape at here
  simp only [beq_iff_eq] at here
  split_ifs at here with quote slash back feed line turn tab control
  · exact mark here (by subst quote; simp [Reader.escaped, Cursor.rest_advance here])
  · exact mark here (by subst slash; simp [Reader.escaped, Cursor.rest_advance here])
  · exact mark here (by subst back; simp [Reader.escaped, Cursor.rest_advance here])
  · exact mark here (by subst feed; simp [Reader.escaped, Cursor.rest_advance here])
  · exact mark here (by subst line; simp [Reader.escaped, Cursor.rest_advance here])
  · exact mark here (by subst turn; simp [Reader.escaped, Cursor.rest_advance here])
  · exact mark here (by subst tab; simp [Reader.escaped, Cursor.rest_advance here])
  · have code : c.advance.rest =
        'u' :: '0' :: '0' :: hexDigit (x.toNat / 16) :: hexDigit (x.toNat % 16) :: rest :=
      Cursor.rest_advance here
    obtain ⟨c', read, there⟩ := codeEscape_control control (Cursor.rest_advance code)
    refine ⟨c', stringBody_escaped here ?_, there⟩
    simp only [Reader.escaped, code, read]
  · refine ⟨c.advance, ?_, Cursor.rest_advance here⟩
    rw [Reader.stringBody]
    simp [here, control]

/-- By induction on the characters; the text is as long as they are, so the fuel lasts. -/
theorem stringBody_flatMap_escape (chars : List Char) {fuel : Nat} (enough : chars.length < fuel)
    (done : List Char) (here : c.rest = chars.flatMap escape ++ '"' :: rest) :
    ∃ c', Reader.stringBody fuel done c = .ok (done.reverse ++ chars, c') ∧ c'.rest = rest := by
  obtain ⟨fuel, rfl⟩ := Nat.exists_eq_add_one_of_ne_zero (Nat.ne_zero_of_lt enough)
  induction chars generalizing fuel done c with
  | nil =>
      refine ⟨c.advance, ?_, Cursor.rest_advance here⟩
      rw [Reader.stringBody]
      simp only [here, List.flatMap_nil, List.nil_append, List.append_nil]
  | cons x chars ih =>
      rw [List.flatMap_cons, List.append_assoc] at here
      obtain ⟨c', step, there⟩ := stringBody_escape fuel done x here
      obtain ⟨fuel, rfl⟩ : ∃ n, fuel = n + 1 :=
        Nat.exists_eq_add_one_of_ne_zero (by simp at enough; omega)
      obtain ⟨c'', read, after⟩ := ih (x :: done) there fuel (by simpa using enough)
      exact ⟨c'', by rw [step, read, List.reverse_cons, List.append_assoc]; rfl, after⟩

theorem length_le_flatMap_escape (chars : List Char) :
    chars.length ≤ (chars.flatMap escape).length := by
  induction chars with
  | nil => exact Nat.le_refl _
  | cons x chars ih =>
      have some : 0 < (escape x).length := by
        unfold escape
        split_ifs <;> exact Nat.succ_pos _
      rw [List.flatMap_cons, List.length_append, List.length_cons]
      omega

/-- A quoted text is read as itself. -/
theorem stringAfterQuote_quote (s : String) (here : c.rest = (quote s).toList ++ rest) :
    ∃ c', Reader.stringAfterQuote c.advance = .ok (s, c') ∧ c'.rest = rest := by
  have inside : c.advance.rest = s.toList.flatMap escape ++ '"' :: rest :=
    Cursor.rest_advance (by simpa [quote] using here)
  have long := length_le_flatMap_escape s.toList
  obtain ⟨c', read, there⟩ := stringBody_flatMap_escape s.toList
    (show s.toList.length < c.advance.rest.length + 1 by rw [inside, List.length_append]; omega)
    [] inside
  refine ⟨c', ?_, there⟩
  simp [Reader.stringAfterQuote, read]

end Strings

/-! ### Where numbers end -/

/-- Whether a character may continue a number. -/
def continuesNumber (c : Char) : Bool :=
  c.isDigit || c == '.' || c == 'e' || c == 'E'

/-- Whether a number ends before a text. -/
def Ends (rest : List Char) : Prop :=
  ∀ c ∈ rest.head?, continuesNumber c = false

/-- Whether a second result is the first with more text left. -/
def Extends {α : Type} (rest : List Char) (result result' : Except Fault (α × Cursor)) : Prop :=
  ∀ a c, result = .ok (a, c) → ∃ c', result' = .ok (a, c') ∧ c'.rest = c.rest ++ rest

section Extending

variable {rest : List Char} {c c' : Cursor}

theorem Extends.error {α : Type} {fault : Fault} {result : Except Fault (α × Cursor)} :
    Extends rest (.error fault) result :=
  nofun

theorem Extends.ok {α : Type} {a : α} (more : c'.rest = c.rest ++ rest) :
    Extends rest (.ok (a, c)) (.ok (a, c')) := by
  rintro _ _ ⟨⟩
  exact ⟨c', rfl, more⟩

theorem leadingDigits_append (ends : Ends rest) (text : List Char) :
    Reader.leadingDigits (text ++ rest) = Reader.leadingDigits text := by
  unfold Reader.leadingDigits
  induction text with
  | nil =>
      cases rest with
      | nil => rfl
      | cons x rest =>
          have other := ends x rfl
          simp only [continuesNumber, Bool.or_eq_false_iff] at other
          simp [other.1.1.1]
  | cons x text ih => simp only [List.cons_append, List.takeWhile_cons, ih]

theorem rest_drop_leadingDigits (more : c'.rest = c.rest ++ rest) :
    (c'.drop (Reader.leadingDigits c.rest).length).rest =
      (c.drop (Reader.leadingDigits c.rest).length).rest ++ rest := by
  have short := (List.takeWhile_prefix Char.isDigit (l := c.rest)).length_le
  simp only [Cursor.drop, more]
  exact List.drop_append_of_le_length short

theorem finishReal_extends (positive : Bool) (significand : Nat) (exponent : Int)
    (more : c'.rest = c.rest ++ rest) :
    Extends rest (Reader.finishReal positive significand exponent c)
      (Reader.finishReal positive significand exponent c') := by
  unfold Reader.finishReal
  cases Reader.ofParts? significand exponent with
  | none => exact .error
  | some x => exact .ok more

/-- The digits of an exponent and what is made of them. -/
def exponentDigits (positive : Bool) (significand : Nat) (exponent : Int) (rising : Bool)
    (c : Cursor) : Except Fault (Number × Cursor) :=
  match c.rest with
  | [] => Reader.failAt .endInValue c.position
  | d :: _ =>
    if !d.isDigit then Reader.failAt .invalidNumber c.next
    else
      let digits := Reader.leadingDigits c.rest
      let (value, taken) := Reader.takeDigits Reader.maxExponent 0 0 digits
      if taken < digits.length then
        if significand ≠ 0 ∧ rising then
          Reader.failAt .numberOutOfRange (c.drop (taken + 1)).position
        else .ok (Reader.withSign positive 0.0, c.drop digits.length)
      else
        Reader.finishReal positive significand
          (if rising then exponent + value else exponent - value) (c.drop digits.length)

/-- The sign of an exponent, and what follows it. -/
def exponentSign (c : Cursor) : Bool × Cursor :=
  match c.rest with
  | '+' :: _ => (true, c.advance)
  | '-' :: _ => (false, c.advance)
  | _ => (true, c)

theorem exponentPart_eq (positive : Bool) (significand : Nat) (exponent : Int) (c : Cursor) :
    Reader.exponentPart positive significand exponent c =
      exponentDigits positive significand exponent (exponentSign c.advance).1
        (exponentSign c.advance).2 :=
  rfl

theorem exponentSign_extends {d : Char} {text : List Char} (here : c.rest = d :: text)
    (here' : c'.rest = d :: (text ++ rest)) :
    (exponentSign c').1 = (exponentSign c).1 ∧
      (exponentSign c').2.rest = (exponentSign c).2.rest ++ rest := by
  unfold exponentSign
  rw [here, here']
  have after := Cursor.rest_advance here
  have after' := Cursor.rest_advance here'
  by_cases plus : d = '+'
  · simp [plus, after, after']
  · by_cases minus : d = '-'
    · simp [minus, after, after']
    · simp [plus, minus, here, here']

theorem exponentDigits_extends (ends : Ends rest) (positive : Bool) (significand : Nat)
    (exponent : Int) (rising : Bool) (more : c'.rest = c.rest ++ rest) :
    Extends rest (exponentDigits positive significand exponent rising c)
      (exponentDigits positive significand exponent rising c') := by
  have same : Reader.leadingDigits c'.rest = Reader.leadingDigits c.rest := by
    rw [more, leadingDigits_append ends]
  have dropped := rest_drop_leadingDigits more
  unfold exponentDigits
  rw [same, more]
  cases here : c.rest with
  | nil => exact .error
  | cons d text =>
      rw [here] at dropped
      dsimp only [List.cons_append]
      split
      · exact .error
      · split
        · split
          · exact .error
          · exact .ok dropped
        · exact finishReal_extends _ _ _ dropped

theorem exponentPart_extends (ends : Ends rest) (positive : Bool) (significand : Nat)
    (exponent : Int) (more : c'.rest = c.rest ++ rest) (some : c.rest ≠ []) :
    Extends rest (Reader.exponentPart positive significand exponent c)
      (Reader.exponentPart positive significand exponent c') := by
  obtain ⟨mark, text, here⟩ := List.exists_cons_of_ne_nil some
  rw [here] at more
  rw [exponentPart_eq, exponentPart_eq]
  cases text with
  | nil =>
      simp only [exponentSign, exponentDigits, Cursor.rest_advance here]
      exact .error
  | cons d text =>
      obtain ⟨rising, after⟩ :=
        exponentSign_extends (Cursor.rest_advance here) (Cursor.rest_advance more)
      rw [rising]
      exact exponentDigits_extends ends positive significand exponent _ after

/-- Whether an exponent starts here. -/
def startsExponent : List Char → Bool
  | 'e' :: _ | 'E' :: _ => true
  | _ => false

theorem startsExponent_eq_false {text : List Char} (small : ∀ tail, text ≠ 'e' :: tail)
    (large : ∀ tail, text ≠ 'E' :: tail) : startsExponent text = false := by
  unfold startsExponent
  split
  · exact absurd rfl (small _)
  · exact absurd rfl (large _)
  · rfl

theorem startsExponent_iff {text : List Char} :
    startsExponent text = true ↔ text.head? = some 'e' ∨ text.head? = some 'E' := by
  unfold startsExponent
  split
  · simp
  · simp
  · rename_i other other'
    simp only [Bool.false_eq_true, false_iff, not_or]
    constructor <;> intro first <;> obtain ⟨rest, rfl⟩ := List.head?_eq_some_iff.mp first
    · exact other rest rfl
    · exact other' rest rfl

theorem Ends.head?_append (ends : Ends rest) (mark : Char)
    (continues : continuesNumber mark = true) (text : List Char) :
    (text ++ rest).head? = some mark ↔ text.head? = some mark := by
  cases text with
  | cons x text => rfl
  | nil =>
      have other : rest.head? ≠ some mark := by
        intro first
        rw [ends mark first] at continues
        cases continues
      simpa using other

theorem Ends.startsExponent_append (ends : Ends rest) (text : List Char) :
    startsExponent (text ++ rest) = startsExponent text := by
  rw [Bool.eq_iff_iff, startsExponent_iff, startsExponent_iff,
    ends.head?_append 'e' rfl, ends.head?_append 'E' rfl]

theorem ne_nil_of_startsExponent {text : List Char} (starts : startsExponent text = true) :
    text ≠ [] := by
  rintro rfl
  cases starts

/-- The exponent of a number if there is one, and its end. -/
def exponentOrEnd (positive : Bool) (significand : Nat) (exponent : Int) (c : Cursor) :
    Except Fault (Number × Cursor) :=
  if startsExponent c.rest then Reader.exponentPart positive significand exponent c
  else Reader.finishReal positive significand exponent c

theorem exponentOrEnd_extends (ends : Ends rest) (positive : Bool) (significand : Nat)
    (exponent : Int) (more : c'.rest = c.rest ++ rest) :
    Extends rest (exponentOrEnd positive significand exponent c)
      (exponentOrEnd positive significand exponent c') := by
  unfold exponentOrEnd
  rw [more, ends.startsExponent_append]
  split
  case isTrue starts =>
    exact exponentPart_extends ends _ _ _ more (ne_nil_of_startsExponent starts)
  case isFalse => exact finishReal_extends _ _ _ more

theorem fractionPart_eq (positive : Bool) (significand : Nat) (exponent : Int) (c : Cursor)
    (some : (Reader.leadingDigits c.advance.rest).isEmpty = false) :
    Reader.fractionPart positive significand exponent c =
      let digits := Reader.leadingDigits c.advance.rest
      let (value, taken) := Reader.takeDigits Reader.maxWord significand 0 digits
      exponentOrEnd positive value (exponent - taken) (c.advance.drop digits.length) := by
  unfold Reader.fractionPart exponentOrEnd
  simp only [some, Bool.false_eq_true, if_false]
  split
  · rename_i here
    rw [here]
    rfl
  · rename_i here
    rw [here]
    rfl
  · rename_i small large
    rw [startsExponent_eq_false small large]
    rfl

theorem fractionPart_extends (ends : Ends rest) (positive : Bool) (significand : Nat)
    (exponent : Int) (more : c'.rest = c.rest ++ rest) (some : c.rest ≠ []) :
    Extends rest (Reader.fractionPart positive significand exponent c)
      (Reader.fractionPart positive significand exponent c') := by
  obtain ⟨mark, text, here⟩ := List.exists_cons_of_ne_nil some
  rw [here, List.cons_append] at more
  have after : c'.advance.rest = c.advance.rest ++ rest := by
    rw [Cursor.rest_advance here, Cursor.rest_advance more]
  have same : Reader.leadingDigits c'.advance.rest = Reader.leadingDigits c.advance.rest := by
    rw [after, leadingDigits_append ends]
  cases digits : (Reader.leadingDigits c.advance.rest).isEmpty with
  | true =>
      unfold Reader.fractionPart
      simp only [digits, if_true]
      split
      · exact .error
      · exact .error
  | false =>
      rw [fractionPart_eq _ _ _ _ digits, fractionPart_eq _ _ _ _ (same ▸ digits), same]
      exact exponentOrEnd_extends ends _ _ _ (rest_drop_leadingDigits after)

/-- A number without a fraction or an exponent, of which so many digits did not fit a word. -/
def finishWhole (positive : Bool) (significand dropped : Nat) (c : Cursor) :
    Except Fault (Number × Cursor) :=
  if dropped ≠ 0 then Reader.finishReal positive significand dropped c
  else if positive then .ok (.natural significand, c)
  else if significand ≠ 0 ∧ significand ≤ Nat.pow 2 63 then .ok (.negative (-significand), c)
  else .ok (.real (-significand.toUInt64.toFloat), c)

theorem numberTail_eq (positive : Bool) (significand dropped : Nat) (c : Cursor) :
    Reader.numberTail positive significand dropped c =
      if c.rest.head? = some '.' then Reader.fractionPart positive significand dropped c
      else if startsExponent c.rest then Reader.exponentPart positive significand dropped c
      else finishWhole positive significand dropped c := by
  unfold Reader.numberTail finishWhole
  split
  · rename_i here
    rw [here]
    rfl
  · rename_i here
    rw [here]
    rfl
  · rename_i here
    rw [here]
    rfl
  · rename_i point small large
    have other : c.rest.head? ≠ some '.' := by
      intro first
      obtain ⟨tail, here⟩ := List.head?_eq_some_iff.mp first
      exact point tail here
    rw [if_neg other, startsExponent_eq_false small large]
    rfl

theorem numberTail_extends (ends : Ends rest) (positive : Bool) (significand dropped : Nat)
    (more : c'.rest = c.rest ++ rest) :
    Extends rest (Reader.numberTail positive significand dropped c)
      (Reader.numberTail positive significand dropped c') := by
  rw [numberTail_eq, numberTail_eq, more, ends.startsExponent_append,
    if_congr (ends.head?_append '.' rfl c.rest) rfl rfl]
  split
  case isTrue point =>
    exact fractionPart_extends ends _ _ _ more (by rintro none; simp [none] at point)
  case isFalse =>
    split
    case isTrue starts =>
      exact exponentPart_extends ends _ _ _ more (ne_nil_of_startsExponent starts)
    case isFalse =>
      unfold finishWhole
      split_ifs
      · exact finishReal_extends _ _ _ more
      · exact .ok more
      · exact .ok more
      · exact .ok more

theorem unsignedNumber_zero (positive : Bool) {text : List Char} (here : c.rest = '0' :: text)
    (alone : ∀ d ∈ text.head?, d.isDigit = false) :
    Reader.unsignedNumber positive c = Reader.numberTail positive 0 0 c.advance := by
  unfold Reader.unsignedNumber
  rw [here]
  cases text with
  | nil => rfl
  | cons d text =>
      have other := alone d rfl
      simp [other]

theorem unsignedNumber_digits (positive : Bool) {d : Char} {text : List Char}
    (here : c.rest = d :: text) (notZero : d ≠ '0') (digit : d.isDigit = true) :
    Reader.unsignedNumber positive c =
      let digits := Reader.leadingDigits c.rest
      let (value, taken) := Reader.takeDigits Reader.maxWord 0 0 digits
      Reader.numberTail positive value (digits.length - taken) (c.drop digits.length) := by
  unfold Reader.unsignedNumber
  simp only [here, digit, if_true]

theorem unsignedNumber_extends (ends : Ends rest) (positive : Bool)
    (more : c'.rest = c.rest ++ rest) :
    Extends rest (Reader.unsignedNumber positive c) (Reader.unsignedNumber positive c') := by
  cases here : c.rest with
  | nil =>
      have none : Reader.unsignedNumber positive c = Reader.failAt .endInValue c.position := by
        unfold Reader.unsignedNumber
        rw [here]
      rw [none]
      exact .error
  | cons d text =>
      have here' : c'.rest = d :: (text ++ rest) := by rw [more, here, List.cons_append]
      by_cases zero : d = '0'
      · subst zero
        have after : c'.advance.rest = c.advance.rest ++ rest := by
          rw [Cursor.rest_advance here, Cursor.rest_advance here']
        have read := numberTail_extends ends positive 0 0 after
        cases text with
        | nil =>
            have alone : ∀ d ∈ rest.head?, d.isDigit = false := by
              intro d first
              have other := ends d first
              simp only [continuesNumber, Bool.or_eq_false_iff] at other
              exact other.1.1.1
            rwa [unsignedNumber_zero positive here (by simp),
              unsignedNumber_zero positive here' alone]
        | cons d text =>
            by_cases digit : d.isDigit = true
            · have none : Reader.unsignedNumber positive c =
                  Reader.failAt .invalidNumber c.advance.next := by
                unfold Reader.unsignedNumber
                simp only [here, digit, if_true]
              rw [none]
              exact .error
            · have alone : ∀ x ∈ (d :: text).head?, x.isDigit = false := by simpa using digit
              rwa [unsignedNumber_zero positive here alone,
                unsignedNumber_zero positive here' alone]
      · by_cases digit : d.isDigit = true
        · rw [unsignedNumber_digits positive here zero digit,
            unsignedNumber_digits positive here' zero digit, more, leadingDigits_append ends]
          exact numberTail_extends ends _ _ _ (rest_drop_leadingDigits more)
        · have none : Reader.unsignedNumber positive c = Reader.failAt .invalidNumber c.next := by
            unfold Reader.unsignedNumber
            simp [here, digit]
          rw [none]
          exact .error

end Extending

/-! ### Numbers -/

section Digits

theorem head_toDigits_ne {n : Nat} (positive : 0 < n) (tail : List Char) :
    Nat.toDigits 10 n ≠ '0' :: tail := by
  induction n using Nat.strongRecOn generalizing tail with
  | ind n ih =>
      intro digits
      rw [Nat.toDigits_eq_if (by decide)] at digits
      split at digits
      case isTrue small =>
        have all : ∀ n : Fin 10, 0 < n.val → Nat.digitChar n ≠ '0' := by decide
        exact all ⟨n, small⟩ positive (List.cons.inj digits).1
      case isFalse large =>
        have positive' : 0 < n / 10 := by omega
        obtain ⟨d, more, first⟩ :=
          List.exists_cons_of_ne_nil (Nat.toDigits_ne_nil (n := n / 10) (b := 10))
        rw [first, List.cons_append] at digits
        obtain rfl := (List.cons.inj digits).1
        exact ih (n / 10) (by omega) positive' more first

theorem leadingDigits_toDigits (n : Nat) :
    Reader.leadingDigits (Nat.toDigits 10 n) = Nat.toDigits 10 n :=
  List.takeWhile_eq_self_iff.mpr fun _ member =>
    Nat.isDigit_of_mem_toDigits (by decide) (by decide) member

theorem le_ofDigitChars (digits : List Char) (value : Nat) :
    value ≤ Nat.ofDigitChars 10 digits value := by
  rw [Nat.ofDigitChars_eq_ofDigitChars_zero]
  have power : 1 ≤ 10 ^ digits.length := Nat.one_le_pow _ _ (by decide)
  calc value = 1 * value := (Nat.one_mul _).symm
    _ ≤ 10 ^ digits.length * value := Nat.mul_le_mul_right _ power
    _ ≤ _ := Nat.le_add_right _ _

/-- Digits are taken one by one as long as the number stays within the limit. -/
theorem takeDigits_eq (limit : Nat) (digits : List Char) (value taken : Nat)
    (within : Nat.ofDigitChars 10 digits value ≤ limit) :
    Reader.takeDigits limit value taken digits =
      (Nat.ofDigitChars 10 digits value, taken + digits.length) := by
  induction digits generalizing value taken with
  | nil => rfl
  | cons d digits ih =>
      rw [Nat.ofDigitChars_cons] at within
      have larger : value * 10 + (d.toNat - 48) = 10 * value + (d.toNat - '0'.toNat) := by
        rw [Nat.mul_comm]
        rfl
      have fits := (le_ofDigitChars digits (10 * value + (d.toNat - '0'.toNat))).trans within
      rw [Reader.takeDigits, Nat.ofDigitChars_cons]
      simp only [larger, if_neg (Nat.not_lt.mpr fits)]
      rw [ih _ _ within, List.length_cons]
      congr 1
      omega

theorem takeDigits_le (limit : Nat) (digits : List Char) (value taken : Nat)
    (within : value ≤ limit) : (Reader.takeDigits limit value taken digits).1 ≤ limit := by
  induction digits generalizing value taken with
  | nil => exact within
  | cons d digits ih =>
      rw [Reader.takeDigits]
      split
      · exact within
      · exact ih _ _ (by omega)

variable {c : Cursor} {n : Nat}

/-- The digits of a number that fits a word are read as the number. -/
theorem unsignedNumber_toDigits (positive : Bool) (fits : n ≤ Reader.maxWord)
    (here : c.rest = Nat.toDigits 10 n) :
    ∃ c', c'.rest = [] ∧
      Reader.unsignedNumber positive c = finishWhole positive n 0 c' := by
  rcases Nat.eq_zero_or_pos n with rfl | pos
  · rw [Nat.toDigits_zero] at here
    refine ⟨c.advance, Cursor.rest_advance here, ?_⟩
    rw [unsignedNumber_zero positive here (by simp), numberTail_eq, Cursor.rest_advance here]
    rfl
  · obtain ⟨d, tail, digits⟩ := List.exists_cons_of_ne_nil (Nat.toDigits_ne_nil (n := n) (b := 10))
    have digit : d.isDigit = true :=
      Nat.isDigit_of_mem_toDigits (b := 10) (n := n) (by decide) (by decide) (by simp [digits])
    have notZero : d ≠ '0' := by
      rintro rfl
      exact head_toDigits_ne pos tail digits
    have taken := takeDigits_eq Reader.maxWord (Nat.toDigits 10 n) 0 0
      (by rwa [Nat.ofDigitChars_ten_toDigits])
    rw [Nat.ofDigitChars_ten_toDigits, Nat.zero_add] at taken
    have after : (c.drop (Nat.toDigits 10 n).length).rest = [] := by
      simp [Cursor.drop, here]
    refine ⟨_, after, ?_⟩
    rw [unsignedNumber_digits positive (here.trans digits) notZero digit, here,
      leadingDigits_toDigits]
    simp only [taken, Nat.sub_self]
    rw [numberTail_eq, after]
    rfl

end Digits

/-! ### Numbers that are read -/

section Read

variable {c c' : Cursor} {n : Number}

theorem number?_extends {rest : List Char} (ends : Ends rest) {d : Cursor}
    (more : c'.rest = c.rest ++ rest) (read : Reader.number? c = some (.ok (n, d))) :
    ∃ d', Reader.number? c' = some (.ok (n, d')) ∧ d'.rest = d.rest ++ rest := by
  unfold Reader.number? at read ⊢
  cases here : c.rest with
  | nil => simp [here] at read
  | cons x text =>
      rw [here, List.cons_append] at more
      simp only [here, more] at read ⊢
      have after : c'.advance.rest = c.advance.rest ++ rest := by
        rw [Cursor.rest_advance here, Cursor.rest_advance more]
      by_cases minus : x = '-'
      · subst minus
        obtain ⟨d', read', there⟩ :=
          unsignedNumber_extends ends false after n d (Option.some.inj read)
        exact ⟨d', congrArg some read', there⟩
      · by_cases digit : x.isDigit = true
        · simp only [digit, if_true] at read ⊢
          obtain ⟨d', read', there⟩ := unsignedNumber_extends ends true
            (more.trans (here ▸ rfl : x :: (text ++ rest) = c.rest ++ rest)) n d
            (Option.some.inj read)
          exact ⟨d', congrArg some read', there⟩
        · simp [digit] at read

theorem number?_starts {result : Except Fault (Number × Cursor)}
    (read : Reader.number? c = some result) :
    ∃ x text, c.rest = x :: text ∧ (x = '-' ∨ x.isDigit = true) := by
  unfold Reader.number? at read
  split at read
  · exact ⟨_, _, ‹_›, .inl rfl⟩
  · split at read
    · exact ⟨_, _, ‹_›, .inr ‹_›⟩
    · cases read
  · cases read

end Read

namespace Number

/-- Whether a whole number is one that a machine word holds. -/
def Ranged : Number → Prop
  | natural n => n ≤ Reader.maxWord
  | negative n => n < 0 ∧ -(Nat.pow 2 63 : Nat) ≤ n
  | real _ => True

end Number

/-- Whether a number that is read, if one is, is in its range. -/
def RangedIn (result : Except Fault (Number × Cursor)) : Prop :=
  ∀ n c, result = .ok (n, c) → n.Ranged

section Ranges

variable (positive : Bool)

theorem RangedIn.error {fault : Fault} : RangedIn (.error fault) :=
  nofun

theorem RangedIn.ok {n : Number} {c : Cursor} (ranged : n.Ranged) : RangedIn (.ok (n, c)) := by
  rintro _ _ ⟨⟩
  exact ranged

theorem finishReal_ranged (significand : Nat) (exponent : Int) (c : Cursor) :
    RangedIn (Reader.finishReal positive significand exponent c) := by
  unfold Reader.finishReal
  split
  · exact .ok trivial
  · exact .error

theorem exponentPart_ranged (significand : Nat) (exponent : Int) (c : Cursor) :
    RangedIn (Reader.exponentPart positive significand exponent c) := by
  rw [exponentPart_eq]
  unfold exponentDigits
  split
  · exact .error
  · split
    · exact .error
    · dsimp only
      split
      · split
        · exact .error
        · exact .ok trivial
      · exact finishReal_ranged positive _ _ _

theorem fractionPart_ranged (significand : Nat) (exponent : Int) (c : Cursor) :
    RangedIn (Reader.fractionPart positive significand exponent c) := by
  unfold Reader.fractionPart
  dsimp only
  split
  · split
    · exact .error
    · exact .error
  · split
    · exact exponentPart_ranged positive _ _ _
    · exact exponentPart_ranged positive _ _ _
    · exact finishReal_ranged positive _ _ _

theorem numberTail_ranged {significand : Nat} (fits : significand ≤ Reader.maxWord)
    (dropped : Nat) (c : Cursor) :
    RangedIn (Reader.numberTail positive significand dropped c) := by
  rw [numberTail_eq]
  unfold finishWhole
  split_ifs with _ _ _ _ some
  · exact fractionPart_ranged positive _ _ _
  · exact exponentPart_ranged positive _ _ _
  · exact finishReal_ranged positive _ _ _
  · exact .ok fits
  · exact .ok ⟨by omega, by omega⟩
  · exact .ok trivial

theorem unsignedNumber_ranged (c : Cursor) : RangedIn (Reader.unsignedNumber positive c) := by
  unfold Reader.unsignedNumber
  split
  · exact .error
  · split
    · split
      · exact .error
      · exact numberTail_ranged positive (Nat.zero_le _) _ _
    · exact numberTail_ranged positive (Nat.zero_le _) _ _
  · split
    · exact numberTail_ranged positive (takeDigits_le _ _ _ _ (Nat.zero_le _)) _ _
    · exact .error

theorem number?_ranged {c c' : Cursor} {n : Number}
    (read : Reader.number? c = some (.ok (n, c'))) : n.Ranged := by
  unfold Reader.number? at read
  split at read
  · exact unsignedNumber_ranged false _ n c' (Option.some.inj read)
  · split at read
    · exact unsignedNumber_ranged true _ n c' (Option.some.inj read)
    · cases read
  · cases read

end Ranges

namespace Number

/-- Whether the reader takes the whole text of a number to the number. -/
def ReadsBack (n : Number) : Prop :=
  ∃ p, Reader.number? (.ofText n.render) = some (.ok (n, ⟨[], p⟩))

theorem readsBack_natural {n : Nat} (fits : n ≤ Reader.maxWord) : (natural n).ReadsBack := by
  have here : (Cursor.ofText (natural n).render).rest = Nat.toDigits 10 n := by
    simp [Cursor.ofText, render]
  obtain ⟨d, tail, digits⟩ := List.exists_cons_of_ne_nil (Nat.toDigits_ne_nil (n := n) (b := 10))
  have digit : d.isDigit = true :=
    Nat.isDigit_of_mem_toDigits (b := 10) (n := n) (by decide) (by decide) (by simp [digits])
  have plus : d ≠ '-' := by
    rintro rfl
    cases digit
  obtain ⟨c', none, read⟩ := unsignedNumber_toDigits true fits here
  have number : Reader.number? (.ofText (natural n).render) = some (.ok (natural n, c')) := by
    unfold Reader.number?
    simp only [here, digits, digit, if_true, read]
    rfl
  exact ⟨c'.position, by rw [number, ← none]⟩

theorem readsBack_negative {n : Int} (below : n < 0) (fits : -(Nat.pow 2 63 : Nat) ≤ n) :
    (negative n).ReadsBack := by
  have half : Nat.pow 2 63 ≤ Reader.maxWord := by decide
  have size : n.natAbs ≤ Nat.pow 2 63 := by omega
  have text : (negative n).render.toList = '-' :: Nat.toDigits 10 n.natAbs := by
    obtain ⟨k, rfl⟩ := Int.eq_negSucc_of_lt_zero below
    simp [render, toString, Int.repr]
  have here : (Cursor.ofText (negative n).render).rest = '-' :: Nat.toDigits 10 n.natAbs := text
  obtain ⟨c', none, read⟩ := unsignedNumber_toDigits false (size.trans half)
    (Cursor.rest_advance here)
  have nonzero : n.natAbs ≠ 0 := Int.natAbs_ne_zero.mpr below.ne
  have value : -(n.natAbs : Int) = n := by omega
  have number : Reader.number? (.ofText (negative n).render) = some (.ok (negative n, c')) := by
    unfold Reader.number?
    simp only [here, read, finishWhole]
    rw [if_neg (not_not.mpr rfl), if_neg Bool.false_ne_true, if_pos ⟨nonzero, size⟩, value]
  exact ⟨c'.position, by rw [number, ← none]⟩

theorem ReadsBack.number? {n : Number} (readsBack : n.ReadsBack) {c : Cursor} {rest : List Char}
    (here : c.rest = n.render.toList ++ rest) (ends : Ends rest) :
    ∃ c', Reader.number? c = some (.ok (n, c')) ∧ c'.rest = rest := by
  obtain ⟨p, read⟩ := readsBack
  exact number?_extends ends here read

theorem ReadsBack.starts {n : Number} (readsBack : n.ReadsBack) :
    ∃ x text, n.render.toList = x :: text ∧ (x = '-' ∨ x.isDigit = true) := by
  obtain ⟨p, read⟩ := readsBack
  exact number?_starts read

theorem isFinite_eq (x : Float) : x.isFinite = (!x.isNaN && !x.isInf) := by
  unfold Float.isFinite Float.isNaN Float.isInf
  unfold Float.Model.isFinite Float.Model.isNaN Float.Model.isInf
  cases x.toModel.unpack <;> rfl

/-- The texts of what is not finite are no numbers. -/
theorem ReadsBack.isFinite {x : Float} (readsBack : (real x).ReadsBack) : x.isFinite = true := by
  obtain ⟨p, read⟩ := readsBack
  have special : Decimal.special? x = none := by
    cases other : Decimal.special? x with
    | none => rfl
    | some text =>
        have shown : (real x).render = text := by simp [render, Decimal.data, other]
        have named : text = "NaN" ∨ text = "inf" ∨ text = "-inf" := by
          unfold Decimal.special? Decimal.signed at other
          split_ifs at other <;> simp at other <;> simp [← other]
        rw [shown] at read
        rcases named with rfl | rfl | rfl <;> cases read
  unfold Decimal.special? at special
  split_ifs at special with nan inf
  rw [isFinite_eq, Bool.eq_false_of_not_eq_true nan, Bool.eq_false_of_not_eq_true inf]
  rfl

end Number

end Rehearsal.Json
