import Mathlib.Data.List.Basic
import Rehearsal.Text.Lowercase
import Rehearsal.Text.Search

/-! # Lower case of a part of a text

In lower case the form of a capital sigma hangs on the letters around it, and a part that is cut out
of a text has other letters around it. So the lower case of a part is found in the lower case of
every text that has the part exactly when the part itself settles the form of each of its sigmas.
-/

namespace Rehearsal.Text

open Unicode

/-- A character in lower case, between the text before it in reverse and the text after it. -/
def lowerForm (before : List Char) (c : Char) (after : List Char) : List Char :=
  if c == 'Σ' then [if endsWord before after then 'ς' else 'σ']
  else if c == 'İ' then ['i', '\u0307']
  else [lowerChar c]

/-- Lower case of a text that stands between two others, the first of them in reverse. -/
def lowerBetween : List Char → List Char → List Char → List Char
  | _, [], _ => []
  | before, c :: rest, after =>
    lowerForm before c (rest ++ after) ++ lowerBetween (c :: before) rest after

theorem lowerAfter_eq (before text : List Char) :
    lowerAfter before text = lowerBetween before text [] := by
  induction text generalizing before with
  | nil => rfl
  | cons c rest ih =>
      rw [lowerBetween, List.append_nil, ← ih]
      rfl

theorem lower_eq (text : List Char) : lower text = lowerBetween [] text [] :=
  lowerAfter_eq [] text

theorem lowerBetween_append (before first last after : List Char) :
    lowerBetween before (first ++ last) after =
      lowerBetween before first (last ++ after) ++
        lowerBetween (first.reverse ++ before) last after := by
  induction first generalizing before with
  | nil => rfl
  | cons c rest ih => simp [lowerBetween, ih]

/-- The forms of a character are of one length. -/
theorem length_lowerForm (before other : List Char) (c : Char) (after beyond : List Char) :
    (lowerForm before c after).length = (lowerForm other c beyond).length := by
  unfold lowerForm
  split <;> rfl

theorem length_lowerBetween (before other text after beyond : List Char) :
    (lowerBetween before text after).length = (lowerBetween other text beyond).length := by
  induction text generalizing before other with
  | nil => rfl
  | cons c rest ih =>
      rw [lowerBetween, lowerBetween, List.length_append, List.length_append,
        length_lowerForm before other c _ (rest ++ beyond), ih (c :: before) (c :: other)]

/-! The search for the neighbouring letter ends at the first character that it does not look
through. -/

/-- Whether the search for the neighbouring letter ends within a text. -/
def stops (text : List Char) : Bool :=
  text.any fun c => !isCaseIgnorable c

theorem startsCased_cons (c : Char) (rest : List Char) :
    startsCased (c :: rest) = if isCaseIgnorable c then startsCased rest else isCased c := by
  unfold startsCased
  rw [List.dropWhile_cons]
  cases isCaseIgnorable c <;> rfl

theorem startsCased_append (text beyond : List Char) :
    startsCased (text ++ beyond) = if stops text then startsCased text else startsCased beyond := by
  induction text with
  | nil => rfl
  | cons c rest ih =>
      have stopped : stops (c :: rest) = (!isCaseIgnorable c || stops rest) := rfl
      rw [List.cons_append, startsCased_cons, startsCased_cons, ih, stopped]
      cases isCaseIgnorable c <;> simp

theorem startsCased_of_not_stops {text : List Char} (on : stops text = false) :
    startsCased text = false := by
  have whole := startsCased_append text []
  rw [List.append_nil, on] at whole
  exact whole

theorem stops_of_startsCased {text : List Char} (cased : startsCased text = true) :
    stops text = true := by
  by_contra on
  rw [startsCased_of_not_stops (Bool.eq_false_iff.mpr on)] at cased
  cases cased

/-- What stands around a sigma, before it in reverse and after it, settles its form whatever stands
beyond. -/
inductive Settles (before after : List Char) : Prop where
  | followed : startsCased after = true → Settles before after
  | apart : stops before = true → startsCased before = false → Settles before after
  | enclosed : stops before = true → stops after = true → Settles before after

theorem Settles.endsWord_eq {before after : List Char} (settles : Settles before after)
    (left right : List Char) :
    endsWord (before ++ left) (after ++ right) = endsWord before after := by
  unfold endsWord
  rw [startsCased_append, startsCased_append]
  cases settles with
  | followed cased => simp [stops_of_startsCased cased, cased]
  | apart stopped plain => simp [stopped, plain]
  | enclosed first last => simp [first, last]

/-- A letter that is put on one side, where the search goes on, changes a form that is not settled. -/
theorem endsWord_ne_of_not_settles {before after : List Char} (unsettled : ¬Settles before after) :
    stops before = false ∧ endsWord (before ++ ['A']) after ≠ endsWord before after ∨
      stops after = false ∧ endsWord before (after ++ ['A']) ≠ endsWord before after := by
  have letter : startsCased ['A'] = true := by decide
  have unfollowed : startsCased after = false :=
    Bool.eq_false_iff.mpr fun cased => unsettled (.followed cased)
  cases first : stops before with
  | false =>
      left
      simp [endsWord, startsCased_append, first, letter, unfollowed, startsCased_of_not_stops first]
  | true =>
      right
      have cased : startsCased before = true := by
        by_contra plain
        exact unsettled (.apart first (Bool.eq_false_iff.mpr plain))
      have last : stops after = false :=
        Bool.eq_false_iff.mpr fun stopped => unsettled (.enclosed first stopped)
      simp [endsWord, startsCased_append, last, letter, unfollowed, cased]

/-- The form of each capital sigma in a text is settled by the text. -/
def Settled (text : List Char) : Prop :=
  ∀ before after, text = before ++ 'Σ' :: after → Settles before.reverse after

theorem settled_of_not_mem {text : List Char} (without : 'Σ' ∉ text) : Settled text := by
  rintro before after rfl
  simp at without

theorem lowerForm_settled {before after : List Char} {c : Char}
    (settles : c = 'Σ' → Settles before after) (left right : List Char) :
    lowerForm (before ++ left) c (after ++ right) = lowerForm before c after := by
  unfold lowerForm
  by_cases sigma : c = 'Σ'
  · rw [(settles sigma).endsWord_eq left right]
  · simp [sigma]

/-- By induction on what is still to be put in lower case of the text. -/
theorem Settled.lowerBetween_rest {text : List Char} (settled : Settled text)
    (left right : List Char) {done rest : List Char} (split : text = done ++ rest) :
    lowerBetween (done.reverse ++ left) rest right = lowerBetween done.reverse rest [] := by
  induction rest generalizing done with
  | nil => rfl
  | cons c rest ih =>
      have form : lowerForm (done.reverse ++ left) c (rest ++ right) =
          lowerForm done.reverse c rest := by
        apply lowerForm_settled
        rintro rfl
        exact settled done rest split
      have others : lowerBetween (c :: (done.reverse ++ left)) rest right =
          lowerBetween (c :: done.reverse) rest [] := by
        simpa using @ih (done ++ [c]) (by simpa using split)
      rw [lowerBetween, lowerBetween, form, others, List.append_nil]

theorem Settled.hasPart_lower {part text : List Char} (settled : Settled part)
    (present : hasPart part text = true) : hasPart (lower part) (lower text) = true := by
  obtain ⟨before, after, rfl⟩ := hasPart_iff.mp present
  have same : lowerBetween before.reverse part after = lower part := by
    rw [lower_eq]
    exact settled.lowerBetween_rest before.reverse after (List.nil_append part).symm
  refine hasPart_iff.mpr ⟨lowerBetween [] before (part ++ after),
    lowerBetween (part.reverse ++ before.reverse) after [], ?_⟩
  rw [← same, lower_eq, lowerBetween_append, lowerBetween_append]
  simp

/-! A text that does not settle its sigmas is missed in itself with the letter A at one end, which
is found at no other place because no other character next to that end becomes an a. -/

theorem eq_toNat_of_ofNat_eq {code : Nat} {c : Char} (positive : c.toNat ≠ 0)
    (same : Char.ofNat code = c) : code = c.toNat := by
  subst same
  unfold Char.ofNat at positive ⊢
  by_cases valid : code.isValidChar
  · rw [dif_pos valid]
    rfl
  · rw [dif_neg valid] at positive
    exact absurd rfl positive

theorem lowerRows_above : ∀ row ∈ lowerRows, 97 < row.image := by
  decide +kernel

theorem lowerChar_eq_a {c : Char} (letter : lowerChar c = 'a') : c = 'A' ∨ c = 'a' := by
  unfold lowerChar at letter
  by_cases ascii : c.toNat < 0x80
  · have among : ∀ code < 0x80, (Char.ofNat code).toLower = 'a' →
        Char.ofNat code = 'A' ∨ Char.ofNat code = 'a' := by decide
    have here := among c.toNat ascii
    rw [Char.ofNat_toNat] at here
    rw [if_pos ascii] at letter
    exact here letter
  · rw [if_neg ascii] at letter
    have code : (lowerRows.findSome? (·.image? c.toNat)).getD c.toNat = 97 :=
      eq_toNat_of_ofNat_eq (by decide) letter
    exfalso
    cases found : lowerRows.findSome? (·.image? c.toNat) with
    | none =>
        rw [found, Option.getD_none] at code
        omega
    | some image =>
        obtain ⟨row, inside, mapped⟩ := List.exists_of_findSome?_eq_some found
        have above := lowerRows_above row inside
        simp only [CaseRow.image?, Option.ite_none_right_eq_some, Option.some.injEq] at mapped
        rw [found, Option.getD_some] at code
        omega

theorem not_mem_lowerForm {c : Char} (skipped : isCaseIgnorable c = true ∨ c = 'Σ')
    (before after : List Char) : 'a' ∉ lowerForm before c after := by
  intro inside
  unfold lowerForm at inside
  split at inside
  · split at inside <;> simp at inside
  · split at inside
    · simp at inside
    · next other _ =>
      have letter := lowerChar_eq_a (List.mem_singleton.mp inside).symm
      rcases skipped with ignorable | rfl
      · rcases letter with rfl | rfl <;> exact absurd ignorable (by decide)
      · simp at other

theorem not_mem_lowerBetween {text : List Char}
    (skipped : ∀ c ∈ text, isCaseIgnorable c = true ∨ c = 'Σ') (before after : List Char) :
    'a' ∉ lowerBetween before text after := by
  induction text generalizing before with
  | nil => simp [lowerBetween]
  | cons c rest ih =>
      obtain ⟨first, others⟩ := List.forall_mem_cons.mp skipped
      rw [lowerBetween, List.mem_append, not_or]
      exact ⟨not_mem_lowerForm first _ _, ih others _⟩

theorem skipped_of_not_stops {text : List Char} (on : stops text = false) :
    ∀ c ∈ text, isCaseIgnorable c = true ∨ c = 'Σ' := by
  intro c inside
  simp only [stops, List.any_eq_false] at on
  exact Or.inl (by simpa using on c inside)

/-- Two lower cases of one text differ if the forms of one sigma do. -/
theorem lowerBetween_ne {before after left right left' right' : List Char}
    (differ : endsWord (before.reverse ++ left) (after ++ right) ≠
      endsWord (before.reverse ++ left') (after ++ right')) :
    lowerBetween left (before ++ 'Σ' :: after) right ≠
      lowerBetween left' (before ++ 'Σ' :: after) right' := by
  intro same
  rw [lowerBetween_append, lowerBetween_append] at same
  have rest := (List.append_inj same (length_lowerBetween ..)).2
  rw [lowerBetween, lowerBetween] at rest
  have form := (List.append_inj rest (length_lowerForm ..)).1
  simp only [lowerForm, beq_self_eq_true, if_true, List.cons.injEq, and_true] at form
  cases first : endsWord (before.reverse ++ left) (after ++ right) <;>
    cases second : endsWord (before.reverse ++ left') (after ++ right') <;>
    simp_all

theorem lowerBetween_ne_nil {text : List Char} (filled : text ≠ []) (before after : List Char) :
    lowerBetween before text after ≠ [] := by
  cases text with
  | nil => exact absurd rfl filled
  | cons c rest =>
      rw [lowerBetween, lowerForm]
      split_ifs <;> simp

theorem mem_of_append_eq_cons {first rest tail : List Char} {c : Char} (filled : first ≠ [])
    (same : first ++ rest = c :: tail) : c ∈ first := by
  have head := congrArg List.head? same
  rw [List.head?_append_of_ne_nil _ filled, List.head?_cons] at head
  exact List.mem_of_head? head

theorem mem_of_append_eq_concat {start last init : List Char} {c : Char} (filled : last ≠ [])
    (same : start ++ last = init ++ [c]) : c ∈ last := by
  have final := congrArg List.getLast? same
  rw [List.getLast?_append_of_ne_nil _ filled, List.getLast?_concat] at final
  exact List.mem_of_getLast? final

/-- A part that is one shorter than the whole stands at its end or at its start. -/
theorem hasPart_of_length {part whole : List Char} (present : hasPart part whole = true)
    (length : whole.length = part.length + 1) : ∃ c, whole = c :: part ∨ whole = part ++ [c] := by
  obtain ⟨before, after, rfl⟩ := hasPart_iff.mp present
  simp only [List.length_append] at length
  rcases before with _ | ⟨c, before⟩
  · obtain ⟨c, rfl⟩ := List.length_eq_one_iff.mp (show after.length = 1 by simp at length; omega)
    exact ⟨c, Or.inr rfl⟩
  · simp only [List.length_cons] at length
    obtain rfl := List.eq_nil_of_length_eq_zero (show before.length = 0 by omega)
    obtain rfl := List.eq_nil_of_length_eq_zero (show after.length = 0 by omega)
    exact ⟨c, Or.inl (by simp)⟩

section Missed

variable {before after : List Char}

theorem missed_behind_letter (on : stops before.reverse = false)
    (differ : endsWord (before.reverse ++ ['A']) after ≠ endsWord before.reverse after) :
    ¬hasPart (lower (before ++ 'Σ' :: after)) (lower ('A' :: (before ++ 'Σ' :: after))) = true := by
  intro present
  have whole : lower ('A' :: (before ++ 'Σ' :: after)) =
      'a' :: lowerBetween ['A'] (before ++ 'Σ' :: after) [] := by
    rw [lower_eq]
    rfl
  rw [whole] at present
  obtain ⟨c, same | same⟩ := hasPart_of_length present
    (by rw [lower_eq, List.length_cons, length_lowerBetween ['A'] [] _ [] []])
  · have changed := (List.cons.inj same).2
    rw [lower_eq] at changed
    exact lowerBetween_ne (by simpa using differ) changed
  · -- the text would begin with an a
    have skipped : ∀ c ∈ before ++ ['Σ'], isCaseIgnorable c = true ∨ c = 'Σ' := by
      intro c inside
      rcases List.mem_append.mp inside with inside | inside
      · exact skipped_of_not_stops on c (List.mem_reverse.mpr inside)
      · exact Or.inr (List.mem_singleton.mp inside)
    have filled : before ++ ['Σ'] ≠ [] := by simp
    rw [lower_eq, List.append_cons, lowerBetween_append [], List.append_assoc (lowerBetween _ _ _)]
      at same
    exact not_mem_lowerBetween skipped _ _
      (mem_of_append_eq_cons (lowerBetween_ne_nil filled _ _) same.symm)

theorem missed_before_letter (on : stops after = false)
    (differ : endsWord before.reverse (after ++ ['A']) ≠ endsWord before.reverse after) :
    ¬hasPart (lower (before ++ 'Σ' :: after)) (lower (before ++ 'Σ' :: after ++ ['A'])) = true := by
  intro present
  have whole : lower (before ++ 'Σ' :: after ++ ['A']) =
      lowerBetween [] (before ++ 'Σ' :: after) ['A'] ++ ['a'] := by
    rw [lower_eq, lowerBetween_append]
    rfl
  rw [whole] at present
  obtain ⟨c, same | same⟩ := hasPart_of_length present
    (by rw [lower_eq, List.length_append, length_lowerBetween [] [] _ [] ['A']]; rfl)
  · -- the text would end with an a
    have skipped : ∀ c ∈ 'Σ' :: after, isCaseIgnorable c = true ∨ c = 'Σ' :=
      List.forall_mem_cons.mpr ⟨Or.inr rfl, skipped_of_not_stops on⟩
    have filled : 'Σ' :: after ≠ [] := by simp
    rw [lower_eq, lowerBetween_append _ before _ [], ← List.cons_append] at same
    exact not_mem_lowerBetween skipped _ _
      (mem_of_append_eq_concat (lowerBetween_ne_nil filled _ _) same.symm)
  · have changed := (List.append_inj' same rfl).1
    rw [lower_eq] at changed
    exact lowerBetween_ne (by simpa using differ) changed

end Missed

/-- The texts that are found in lower case wherever they are found as they are. -/
theorem settled_iff (part : List Char) : Settled part ↔
    ∀ text, hasPart part text = true → hasPart (lower part) (lower text) = true := by
  constructor
  · intro settled text present
    exact settled.hasPart_lower present
  · rintro found before after rfl
    by_contra unsettled
    rcases endsWord_ne_of_not_settles unsettled with ⟨on, differ⟩ | ⟨on, differ⟩
    · exact missed_behind_letter on differ (found _ (hasPart_iff.mpr ⟨['A'], [], by simp⟩))
    · exact missed_before_letter on differ (found _ (hasPart_iff.mpr ⟨[], ['A'], rfl⟩))

end Rehearsal.Text
