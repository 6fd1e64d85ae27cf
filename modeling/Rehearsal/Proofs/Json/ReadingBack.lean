import Rehearsal.Json.Tagged
import Rehearsal.Proofs.Json.Tokens

/-! # Written values read back

A reader takes the text of a value, however it is laid out, to what the value stands for. What is
said of the reader of an item carries over to lists, of the readers of members to records, and of
the kinds of a tagged record to the record.
-/

namespace Rehearsal.Json

/-! ### Where parts start and end -/

/-- Whether a text starts with something that is neither blank nor ends a part. -/
def Opens (text : List Char) : Prop :=
  ∃ x tail, text = x :: tail ∧ isBlank x = false ∧ x ≠ ',' ∧ x ≠ ']' ∧ x ≠ '\x7d'

theorem Opens.append {text : List Char} (opens : Opens text) (rest : List Char) :
    Opens (text ++ rest) := by
  obtain ⟨x, tail, rfl, open_⟩ := opens
  exact ⟨x, tail ++ rest, rfl, open_⟩

theorem Opens.ne_nil {text : List Char} (opens : Opens text) : text ≠ [] := by
  obtain ⟨x, tail, rfl, -⟩ := opens
  exact List.cons_ne_nil _ _

theorem Opens.dropWhile {text : List Char} (opens : Opens text) :
    text.dropWhile isBlank = text := by
  obtain ⟨x, tail, rfl, dark, -⟩ := opens
  simp [dark]

theorem opens_of_cons {x : Char} {tail : List Char}
    (plain : (!isBlank x && x != ',' && x != ']' && x != '\x7d') = true) : Opens (x :: tail) := by
  simp only [Bool.and_eq_true, Bool.not_eq_true', bne_iff_ne, ne_eq] at plain
  exact ⟨x, tail, rfl, plain.1.1.1, plain.1.1.2, plain.1.2, plain.2⟩

section Parts

variable {lead gap rest : List Char} {parts : List (List Char)} {c : Cursor}

open Layout (separated)

theorem length_le_separated (lead : List Char) (first : Bool) (some : ∀ part ∈ parts, part ≠ []) :
    parts.length ≤ (separated lead first parts).length := by
  induction parts generalizing first with
  | nil => exact Nat.zero_le _
  | cons part parts ih =>
      obtain ⟨here, others⟩ := List.forall_mem_cons.mp some
      have positive := List.length_pos_iff.mpr here
      have later := ih false others
      cases first <;>
        simp only [separated, List.length_append, List.length_cons] at later ⊢ <;> omega

/-- A text is at least as long as it has parts. -/
theorem length_lt_of_parts {text : List Char} (some : ∀ part ∈ parts, part ≠ [])
    (here : text = separated lead true parts ++ rest) : parts.length < text.length + 1 := by
  have long := length_le_separated lead true some
  rw [here, List.length_append]
  omega

/-- What follows a part does not continue a number. -/
theorem ends_separated (blank : Blank gap) {closing : Char}
    (closes : continuesNumber closing = false) :
    Ends (separated lead false parts ++ (gap ++ closing :: rest)) := by
  cases parts with
  | cons part parts =>
      rintro _ ⟨⟩
      rfl
  | nil =>
      cases gap with
      | nil =>
          rintro _ ⟨⟩
          exact closes
      | cons x gap =>
          rintro _ ⟨⟩
          have isBlank := blank x (by simp)
          simp only [Json.isBlank, Bool.or_eq_true, beq_iff_eq] at isBlank
          rcases isBlank with ((rfl | rfl) | rfl) | rfl <;> rfl

theorem rest_skipBlanks_lead (blank : Blank lead) {part : List Char} (opens : Opens part)
    (here : c.rest = lead ++ part) : c.skipBlanks.rest = part := by
  rw [Cursor.rest_skipBlanks, here, dropWhile_isBlank blank, opens.dropWhile]

section Next

variable {part : List Char} (blank : Blank lead) (opens : Opens part)
include blank opens

theorem rest_first (here : c.rest = separated lead true (part :: parts) ++ rest) :
    c.skipBlanks.rest = part ++ (separated lead false parts ++ rest) :=
  rest_skipBlanks_lead blank (opens.append _)
    (by simpa only [separated, List.append_assoc] using here)

theorem rest_next (here : c.rest = separated lead false (part :: parts) ++ rest) :
    c.skipBlanks.rest = ',' :: (lead ++ (part ++ (separated lead false parts ++ rest))) ∧
      c.skipBlanks.advance.skipBlanks.rest = part ++ (separated lead false parts ++ rest) := by
  have comma : c.skipBlanks.rest =
      ',' :: (lead ++ (part ++ (separated lead false parts ++ rest))) := by
    rw [Cursor.rest_skipBlanks, here]
    simp [separated, isBlank]
  exact ⟨comma, rest_skipBlanks_lead blank (opens.append _) (Cursor.rest_advance comma)⟩

theorem nextItem_part (first : Bool)
    (here : c.rest = separated lead first (part :: parts) ++ rest) :
    ∃ c', Reader.nextItem first c = .ok (some c', c') ∧
      c'.rest = part ++ (separated lead false parts ++ rest) := by
  obtain ⟨x, tail, start, -, comma, square, -⟩ :=
    opens.append (separated lead false parts ++ rest)
  cases first with
  | true =>
      have skipped := rest_first blank opens here
      refine ⟨c.skipBlanks, ?_, skipped⟩
      unfold Reader.nextItem
      simp only [skipped, start, if_true]
  | false =>
      obtain ⟨stays, skipped⟩ := rest_next blank opens here
      refine ⟨c.skipBlanks.advance.skipBlanks, ?_, skipped⟩
      unfold Reader.nextItem
      simp [stays, skipped, start]

end Next

theorem rest_gap (blank : Blank gap) {closing : Char} (dark : isBlank closing = false)
    (here : c.rest = gap ++ closing :: rest) : c.skipBlanks.rest = closing :: rest := by
  rw [Cursor.rest_skipBlanks, here, dropWhile_isBlank blank]
  simp [dark]

theorem nextItem_end (blank : Blank gap) (first : Bool) (here : c.rest = gap ++ ']' :: rest) :
    ∃ c', Reader.nextItem first c = .ok (none, c') ∧ c'.rest = ']' :: rest := by
  have skipped := rest_gap blank rfl here
  refine ⟨c.skipBlanks, ?_, skipped⟩
  unfold Reader.nextItem
  simp only [skipped]

theorem nextKey_end (blank : Blank gap) (first : Bool) (here : c.rest = gap ++ '\x7d' :: rest) :
    ∃ c', Reader.nextKey first c = .ok (none, c') ∧ c'.rest = '\x7d' :: rest := by
  have skipped := rest_gap blank rfl here
  refine ⟨c.skipBlanks, ?_, skipped⟩
  unfold Reader.nextKey
  simp only [skipped]

theorem colon_passes (here : c.rest = ':' :: rest) :
    ∃ c', Reader.colon c = .ok c' ∧ c'.rest = rest := by
  have skipped : c.skipBlanks.rest = ':' :: rest := by
    rw [Cursor.rest_skipBlanks, here]
    rfl
  refine ⟨c.skipBlanks.advance, ?_, Cursor.rest_advance skipped⟩
  unfold Reader.colon
  simp only [skipped]

theorem close_passes (b : Reader.Bracket) (blank : Blank gap)
    (here : c.rest = gap ++ b.closing :: rest) : ∃ c', b.close c = .ok c' ∧ c'.rest = rest := by
  have skipped := rest_gap blank (by cases b <;> rfl) here
  refine ⟨c.skipBlanks.advance, ?_, Cursor.rest_advance skipped⟩
  unfold Reader.Bracket.close
  simp only [skipped, if_true]

end Parts

section Members

variable {layout : Layout} {level : Nat} {gap rest : List Char} {member : String × Value}
  {members : List (String × Value)} {c : Cursor}

open Layout (separated)

theorem quote_eq_cons (s : String) :
    (quote s).toList = '"' :: (s.toList.flatMap escape ++ ['"']) := by
  simp [quote]

theorem opens_quote (s : String) : Opens (quote s).toList := by
  rw [quote_eq_cons]
  exact opens_of_cons rfl

theorem opens_writtenMember (layout : Layout) (level : Nat) (member : String × Value) :
    Opens (Value.writtenMember layout level member) := by
  rw [Value.writtenMember, List.append_assoc]
  exact (opens_quote _).append _

theorem some_writtenMember (layout : Layout) (level : Nat) (members : List (String × Value)) :
    ∀ part ∈ members.map (Value.writtenMember layout level), part ≠ [] := by
  rw [List.forall_mem_map]
  exact fun member _ => (opens_writtenMember layout level member).ne_nil

theorem key_reads (here : c.rest = (quote member.1).toList ++ rest) :
    ∃ c', Reader.nextKey.key c = .ok (some member.1, c') ∧ c'.rest = rest := by
  obtain ⟨c', read, there⟩ := stringAfterQuote_quote member.1 here
  refine ⟨c', ?_, there⟩
  simp only [Reader.nextKey.key, read]

/-- The name of the next member is read, and its colon is passed; its value is next. -/
theorem nextKey_member (first : Bool)
    (here : c.rest = separated (layout.lead level) first
        ((member :: members).map (Value.writtenMember layout level)) ++ (gap ++ '\x7d' :: rest))
    (opens : Opens (member.2.written layout level)) :
    ∃ c₁ c₂, Reader.nextKey first c = .ok (some member.1, c₁) ∧ Reader.colon c₁ = .ok c₂ ∧
      c₂.skipBlanks.rest = member.2.written layout level ++
        (separated (layout.lead level) false (members.map (Value.writtenMember layout level)) ++
          (gap ++ '\x7d' :: rest)) := by
  rw [List.map_cons] at here
  have blank := layout.blank_lead level
  have starts := opens_writtenMember layout level member
  generalize after : separated (layout.lead level) false
    (members.map (Value.writtenMember layout level)) ++ (gap ++ '\x7d' :: rest) = more
  obtain ⟨c₀, key, there⟩ : ∃ c₀, Reader.nextKey first c = Reader.nextKey.key c₀ ∧
      c₀.rest = Value.writtenMember layout level member ++ more := by
    cases first with
    | true =>
        have skipped := rest_first blank starts here
        rw [after] at skipped
        refine ⟨c.skipBlanks, ?_, skipped⟩
        unfold Reader.nextKey
        simp [skipped, Value.writtenMember, quote_eq_cons]
    | false =>
        obtain ⟨stays, skipped⟩ := rest_next blank starts here
        rw [after] at stays skipped
        refine ⟨c.skipBlanks.advance.skipBlanks, ?_, skipped⟩
        unfold Reader.nextKey
        simp [stays, skipped, Value.writtenMember, quote_eq_cons]
  rw [Value.writtenMember, List.append_assoc, List.append_assoc] at there
  obtain ⟨c₁, name, colon⟩ := key_reads there
  obtain ⟨c₂, passed, value⟩ := colon_passes colon
  refine ⟨c₁, c₂, by rw [key, name], passed, ?_⟩
  exact rest_skipBlanks_lead layout.blank_pad (opens.append more) value

end Members

/-! ### Readers -/

/-- Whether a reader, with so many brackets left to open, takes every text of a value to `a` and
    stops where the text ends. -/
structure Reads {α : Type} (r : Reader α) (depth : Nat) (v : Value) (a : α) : Prop where
  opens : ∀ layout level, Opens (v.written layout level)
  read : ∀ layout level c rest, c.skipBlanks.rest = v.written layout level ++ rest → Ends rest →
    ∃ c', r depth c = .ok (a, c') ∧ c'.rest = rest

theorem Reads.map {α β : Type} {r : Reader α} {depth : Nat} {v : Value} {a : α}
    (reads : Reads r depth v a) (f : α → β) :
    Reads (do let a ← r; pure (f a)) depth v (f a) where
  opens := reads.opens
  read := by
    intro layout level c rest here ends
    obtain ⟨c', read, there⟩ := reads.read layout level c rest here ends
    refine ⟨c', ?_, there⟩
    simp only [bind, Reader.bind, read]
    rfl

/-- The next member is read: its name, its colon and its value. -/
theorem Reads.member {α : Type} {r : Reader α} {depth : Nat} {member : String × Value} {a : α}
    (reads : Reads r depth member.2 a) (first : Bool) {layout : Layout} {level : Nat}
    {gap rest : List Char} (blank : Blank gap) {members : List (String × Value)} {c : Cursor}
    (here : c.rest = Layout.separated (layout.lead level) first
        ((member :: members).map (Value.writtenMember layout level)) ++ (gap ++ '\x7d' :: rest)) :
    ∃ c₁ c₂ c₃, Reader.nextKey first c = .ok (some member.1, c₁) ∧ Reader.colon c₁ = .ok c₂ ∧
      r depth c₂ = .ok (a, c₃) ∧ c₃.rest = Layout.separated (layout.lead level) false
        (members.map (Value.writtenMember layout level)) ++ (gap ++ '\x7d' :: rest) := by
  obtain ⟨c₁, c₂, name, colon, start⟩ := nextKey_member first here (reads.opens layout level)
  obtain ⟨c₃, read, after⟩ := reads.read layout level c₂ _ start (ends_separated blank rfl)
  exact ⟨c₁, c₂, c₃, name, colon, read, after⟩

theorem opens_text (layout : Layout) (level : Nat) (s : String) :
    Opens ((Value.text s).written layout level) := by
  rw [Value.written]
  exact opens_quote s

theorem opens_list (layout : Layout) (level : Nat) (items : List Value) :
    Opens ((Value.list items).written layout level) := by
  rw [Value.written]
  exact opens_of_cons rfl

theorem opens_object (layout : Layout) (level : Nat) (members : List (String × Value)) :
    Opens ((Value.object members).written layout level) := by
  rw [Value.written]
  exact opens_of_cons rfl

theorem opens_null (layout : Layout) (level : Nat) : Opens (Value.null.written layout level) := by
  rw [Value.written]
  exact opens_of_cons rfl

theorem opens_bool (layout : Layout) (level : Nat) (b : Bool) :
    Opens ((Value.bool b).written layout level) := by
  rw [Value.written]
  cases b <;> exact opens_of_cons rfl

theorem opens_number {n : Number} (readsBack : n.ReadsBack) (layout : Layout) (level : Nat) :
    Opens ((Value.number n).written layout level) := by
  rw [Value.written]
  obtain ⟨x, tail, text, rfl | digit⟩ := readsBack.starts
  · rw [text]
    exact opens_of_cons rfl
  · have other (mark : Char) (none : mark.isDigit = false) : x ≠ mark := by
      rintro rfl
      rw [none] at digit
      cases digit
    have dark : isBlank x = false := by
      simp [isBlank, other ' ' rfl, other '\n' rfl, other '\t' rfl, other '\r' rfl]
    exact ⟨x, tail, text, dark, other ',' rfl, other ']' rfl, other '\x7d' rfl⟩

section Scalars

variable {c : Cursor} {rest : List Char}

theorem word_passes (letters : List Char) (here : c.rest = letters ++ rest) :
    ∃ c', Reader.word letters c = .ok c' ∧ c'.rest = rest := by
  induction letters generalizing c with
  | nil => exact ⟨c, rfl, here⟩
  | cons x letters ih =>
      obtain ⟨c', passed, there⟩ := ih (Cursor.rest_advance here)
      refine ⟨c', ?_, there⟩
      rw [Reader.word]
      simp only [here, List.cons_append, if_true, passed]

/-- What is no number and starts with a letter or a quote is told by it. -/
theorem scalar_text (s : String) (here : c.rest = (quote s).toList ++ rest) :
    ∃ c', Reader.scalar c = .ok (.text s, c') ∧ c'.rest = rest := by
  obtain ⟨c', read, there⟩ := stringAfterQuote_quote s here
  rw [quote_eq_cons] at here
  refine ⟨c', ?_, there⟩
  unfold Reader.scalar Reader.number?
  simp [here, read, Except.map]

theorem scalar_null (here : c.rest = "null".toList ++ rest) :
    ∃ c', Reader.scalar c = .ok (.null, c') ∧ c'.rest = rest := by
  obtain ⟨c', read, there⟩ := word_passes ['u', 'l', 'l'] (Cursor.rest_advance here)
  refine ⟨c', ?_, there⟩
  unfold Reader.scalar Reader.number?
  simp [here, read, Except.map]

theorem scalar_bool (b : Bool) (here : c.rest = (toString b).toList ++ rest) :
    ∃ c', Reader.scalar c = .ok (.bool b, c') ∧ c'.rest = rest := by
  cases b with
  | true =>
      replace here : c.rest = 't' :: (['r', 'u', 'e'] ++ rest) := here
      obtain ⟨c', read, there⟩ := word_passes ['r', 'u', 'e'] (Cursor.rest_advance here)
      refine ⟨c', ?_, there⟩
      unfold Reader.scalar Reader.number?
      simp [here, read, Except.map]
  | false =>
      replace here : c.rest = 'f' :: (['a', 'l', 's', 'e'] ++ rest) := here
      obtain ⟨c', read, there⟩ := word_passes ['a', 'l', 's', 'e'] (Cursor.rest_advance here)
      refine ⟨c', ?_, there⟩
      unfold Reader.scalar Reader.number?
      simp [here, read, Except.map]

theorem scalar_number {n : Number} (readsBack : n.ReadsBack) (ends : Ends rest)
    (here : c.rest = n.render.toList ++ rest) :
    ∃ c', Reader.scalar c = .ok (.number n, c') ∧ c'.rest = rest := by
  obtain ⟨c', read, there⟩ := readsBack.number? here ends
  exact ⟨c', by simp only [Reader.scalar, read], there⟩

end Scalars

section Values

variable {α : Type} {depth : Nat}

theorem reads_scalarOf {expected : String} {starts : Char → Bool} {take : Value → Except Reason α}
    {v : Value} {a : α} (first : ∀ layout level, ∃ x tail,
      v.written layout level = x :: tail ∧ starts x = true)
    (opens : ∀ layout level, Opens (v.written layout level))
    (scalar : ∀ layout level (c : Cursor) rest, c.rest = v.written layout level ++ rest →
      Ends rest → ∃ c', Reader.scalar c = .ok (v, c') ∧ c'.rest = rest)
    (taken : take v = .ok a) : Reads (Reader.scalarOf expected starts take) depth v a where
  opens := opens
  read := by
    intro layout level c rest here ends
    obtain ⟨x, tail, text, started⟩ := first layout level
    obtain ⟨c', read, there⟩ := scalar layout level c.skipBlanks rest here ends
    refine ⟨c', ?_, there⟩
    rw [text, List.cons_append] at here
    simp only [Reader.scalarOf, here, started, if_true, read, taken]

theorem reads_textOf {expected : String} {take : String → Except Reason α} {s : String} {a : α}
    (taken : take s = .ok a) : Reads (Reader.textOf expected take) depth (.text s) a := by
  have first : ∀ layout level, ∃ x tail,
      (Value.text s).written layout level = x :: tail ∧ (x == '"') = true :=
    fun layout level => ⟨'"', _, by rw [Value.written, quote_eq_cons], rfl⟩
  refine reads_scalarOf first (opens_text · · s) (fun layout level c rest here _ => ?_) taken
  rw [Value.written] at here
  exact scalar_text s here

theorem reads_text (s : String) : Reads Reader.text depth (.text s) s :=
  reads_textOf rfl

theorem reads_count {n : Nat} (fits : n ≤ Reader.maxWord) :
    Reads Reader.count depth (.ofNat n) n := by
  have readsBack := Number.readsBack_natural fits
  refine reads_scalarOf (fun layout level => ?_) (opens_number readsBack) ?_ ?_
  · obtain ⟨x, tail, text, start⟩ := readsBack.starts
    exact ⟨x, tail, by rw [Value.ofNat, Value.written, text], by
      simpa [Reader.startsNumber] using start⟩
  · intro layout level c rest here ends
    rw [Value.ofNat, Value.written] at here
    exact scalar_number readsBack ends here
  · exact if_pos fits

theorem reads_optional_null (r : Reader α) : Reads (Reader.optional r) depth .null none where
  opens := opens_null
  read := by
    intro layout level c rest here _
    rw [Value.written] at here
    obtain ⟨c', passed, there⟩ := word_passes ['u', 'l', 'l'] (Cursor.rest_advance here)
    refine ⟨c', ?_, there⟩
    unfold Reader.optional
    simp [here, passed]

theorem skipBlanks_skipBlanks (c : Cursor) {text rest : List Char} (opens : Opens text)
    (here : c.skipBlanks.rest = text ++ rest) : c.skipBlanks.skipBlanks.rest = text ++ rest := by
  rw [Cursor.rest_skipBlanks c.skipBlanks, here, (opens.append rest).dropWhile]

theorem reads_optional_text (s : String) :
    Reads (Reader.optional Reader.text) depth (.text s) (some s) where
  opens := (opens_text · · s)
  read := by
    intro layout level c rest here ends
    have reads : Reads Reader.text depth (.text s) s := reads_text s
    obtain ⟨c', read, there⟩ := reads.read layout level c.skipBlanks rest
      (skipBlanks_skipBlanks c (opens_text layout level s) here) ends
    refine ⟨c', ?_, there⟩
    rw [Value.written, quote_eq_cons] at here
    unfold Reader.optional
    simp [here, read]

theorem reads_optional (text : Option String) :
    Reads (Reader.optional Reader.text) depth (.ofText? text) text := by
  cases text with
  | none => exact reads_optional_null _
  | some s => exact reads_optional_text s

theorem reads_choice {choose : String → Except Reason α} {s : String} {a : α}
    (chosen : choose s = .ok a) : Reads (Reader.choice choose) depth (.text s) a where
  opens := (opens_text · · s)
  read := by
    intro layout level c rest here ends
    have reads : Reads (Reader.textOf "variant identifier" choose) depth (.text s) a :=
      reads_textOf chosen
    obtain ⟨c', read, there⟩ := reads.read layout level c.skipBlanks rest
      (skipBlanks_skipBlanks c (opens_text layout level s) here) ends
    refine ⟨c', ?_, there⟩
    rw [Value.written, quote_eq_cons] at here
    unfold Reader.choice
    simp [here, read]

end Values

/-! ### Brackets -/

open Layout (separated)

/-- Whether what reads between brackets takes parts, however they are laid out, to `a` and stops
    before the closing bracket. -/
def ReadsInside {α : Type} (body : Reader α) (depth : Nat) (closing : Char)
    (parts : Layout → Nat → List (List Char)) (a : α) : Prop :=
  ∀ layout level gap c rest, Blank gap →
    c.rest = separated (layout.lead level) true (parts layout level) ++ (gap ++ closing :: rest) →
    ∃ c', body depth c = .ok (a, c') ∧ c'.rest = closing :: rest

section Brackets

variable {α β : Type} {depth : Nat} {a : α}

theorem enclosed_reads {b : Reader.Bracket} {body : Reader α}
    {parts : Layout → Nat → List (List Char)} (inside : ReadsInside body depth b.closing parts a)
    {layout : Layout} {level : Nat} {c : Cursor} {rest : List Char}
    (here : c.rest = layout.block level b.opening b.closing (parts layout (level + 1)) ++ rest) :
    ∃ c', Reader.enclosed b body (depth + 1) c = .ok (a, c') ∧ c'.rest = rest := by
  obtain ⟨c₁, read, there⟩ := inside layout (level + 1) (layout.gap level _) c.advance rest
    (layout.blank_gap level _)
    (Cursor.rest_advance (by simpa [Layout.block] using here))
  obtain ⟨c₂, closed, after⟩ := close_passes b blank_nil there
  refine ⟨c₂, ?_, after⟩
  simp only [Reader.enclosed, read, closed]

theorem reads_bracketed {expected : String} {b : Reader.Bracket} {body : Reader α}
    {parts : Layout → Nat → List (List Char)} (inside : ReadsInside body depth b.closing parts a)
    {v : Value} (opens : ∀ layout level, Opens (v.written layout level))
    (written : ∀ layout level,
      v.written layout level = layout.block level b.opening b.closing (parts layout (level + 1))) :
    Reads (Reader.bracketed expected b body) (depth + 1) v a where
  opens := opens
  read := by
    intro layout level c rest here _
    rw [written] at here
    obtain ⟨c', read, there⟩ := enclosed_reads inside here
    refine ⟨c', ?_, there⟩
    rw [Layout.block] at here
    simp only [Reader.bracketed, here, List.cons_append, if_true, read]

/-- By induction on the items: each is led to by its blanks and a comma, and read on its own. -/
theorem items_reads {item : Reader α} {toJson : α → Value} {as : List α}
    (each : ∀ a ∈ as, Reads item depth (toJson a) a) {layout : Layout} {level : Nat}
    {gap rest : List Char} (blank : Blank gap) (first : Bool) {fuel : Nat}
    (enough : as.length < fuel) (done : List α) {c : Cursor}
    (here : c.rest = separated (layout.lead level) first
        ((as.map toJson).map (Value.written layout level)) ++ (gap ++ ']' :: rest)) :
    ∃ c', Reader.items item fuel first done depth c = .ok (done.reverse ++ as, c') ∧
      c'.rest = ']' :: rest := by
  obtain ⟨fuel, rfl⟩ := Nat.exists_eq_add_one_of_ne_zero (Nat.ne_zero_of_lt enough)
  induction as generalizing first fuel done c with
  | nil =>
      obtain ⟨c', ended, there⟩ := nextItem_end blank first (by simpa [separated] using here)
      refine ⟨c', ?_, there⟩
      simp only [Reader.items, ended, List.append_nil]
  | cons a as ih =>
      obtain ⟨reads, others⟩ := List.forall_mem_cons.mp each
      obtain ⟨c₁, next, start⟩ := nextItem_part (layout.blank_lead level)
        (reads.opens layout level) first (by simpa using here)
      obtain ⟨c₂, read, after⟩ := reads.read layout level c₁ _
        (rest_skipBlanks_lead blank_nil
          ((reads.opens layout level).append _) start)
        (ends_separated blank rfl)
      obtain ⟨fuel, rfl⟩ : ∃ n, fuel = n + 1 :=
        Nat.exists_eq_add_one_of_ne_zero (by simp at enough; omega)
      obtain ⟨c₃, more, there⟩ := ih others false (a :: done) (by simpa using after) fuel
        (by simpa using enough)
      refine ⟨c₃, ?_, there⟩
      rw [Reader.items]
      simp only [next, read, more, List.reverse_cons, List.append_assoc, List.singleton_append]

theorem allItems_reads {item : Reader α} {toJson : α → Value} {as : List α}
    (each : ∀ a ∈ as, Reads item depth (toJson a) a) :
    ReadsInside (Reader.allItems item) depth ']'
      (fun layout level => (as.map toJson).map (Value.written layout level)) as := by
  intro layout level gap c rest blank here
  have some : ∀ part ∈ (as.map toJson).map (Value.written layout level), part ≠ [] := by
    simp only [List.forall_mem_map]
    exact fun a member => ((each a member).opens layout level).ne_nil
  have enough := length_lt_of_parts some here
  rw [List.length_map, List.length_map] at enough
  exact items_reads each blank true enough [] here

theorem reads_list {item : Reader α} {toJson : α → Value} {as : List α}
    (each : ∀ a ∈ as, Reads item depth (toJson a) a) :
    Reads (Reader.list item) (depth + 1) (.list (as.map toJson)) as :=
  reads_bracketed (b := .square) (allItems_reads each) (opens_list · · _) fun layout level => by
    rw [Value.written, Value.writtenItems_eq]
    rfl

/-- By induction on the members, each of which is a name and a value of its own. -/
theorem members_reads {value : String → Reader α} {toJson : α → Value} {entries : List (String × α)}
    (each : ∀ entry ∈ entries, Reads (value entry.1) depth (toJson entry.2) entry.2)
    {layout : Layout} {level : Nat} {gap rest : List Char} (blank : Blank gap) (first : Bool)
    {fuel : Nat} (enough : entries.length < fuel) (done : List (String × α)) {c : Cursor}
    (here : c.rest = separated (layout.lead level) first
        ((entries.map fun entry => (entry.1, toJson entry.2)).map
          (Value.writtenMember layout level)) ++ (gap ++ '\x7d' :: rest)) :
    ∃ c', Reader.members value fuel first done depth c = .ok (done.reverse ++ entries, c') ∧
      c'.rest = '\x7d' :: rest := by
  obtain ⟨fuel, rfl⟩ := Nat.exists_eq_add_one_of_ne_zero (Nat.ne_zero_of_lt enough)
  induction entries generalizing first fuel done c with
  | nil =>
      obtain ⟨c', ended, there⟩ := nextKey_end blank first (by simpa [separated] using here)
      refine ⟨c', ?_, there⟩
      simp only [Reader.members, ended, List.append_nil]
  | cons entry entries ih =>
      obtain ⟨reads, others⟩ := List.forall_mem_cons.mp each
      rw [List.map_cons] at here
      obtain ⟨c₁, c₂, c₃, name, colon, read, after⟩ := reads.member first blank here
      obtain ⟨fuel, rfl⟩ : ∃ n, fuel = n + 1 :=
        Nat.exists_eq_add_one_of_ne_zero (by simp at enough; omega)
      obtain ⟨c₄, more, there⟩ := ih others false (entry :: done) after fuel (by simpa using enough)
      refine ⟨c₄, ?_, there⟩
      rw [Reader.members]
      simp only [name, colon, read, more, List.reverse_cons, List.append_assoc,
        List.singleton_append]

theorem allMembers_reads {value : String → Reader α} {toJson : α → Value}
    {entries : List (String × α)}
    (each : ∀ entry ∈ entries, Reads (value entry.1) depth (toJson entry.2) entry.2) :
    ReadsInside (Reader.allMembers value) depth '\x7d'
      (fun layout level => (entries.map fun entry => (entry.1, toJson entry.2)).map
        (Value.writtenMember layout level)) entries := by
  intro layout level gap c rest blank here
  have enough := length_lt_of_parts (some_writtenMember layout level _) here
  rw [List.length_map, List.length_map] at enough
  exact members_reads each blank true enough [] here

theorem written_object (layout : Layout) (level : Nat) (members : List (String × Value)) :
    (Value.object members).written layout level = layout.block level '\x7b' '\x7d'
      (members.map (Value.writtenMember layout (level + 1))) := by
  rw [Value.written, Value.writtenMembers_eq]

theorem ReadsInside.map {body : Reader α} {f : α → β} {closing : Char}
    {parts : Layout → Nat → List (List Char)} (inside : ReadsInside body depth closing parts a) :
    ReadsInside (do let a ← body; pure (f a)) depth closing parts (f a) := by
  intro layout level gap c rest blank here
  obtain ⟨c', read, there⟩ := inside layout level gap c rest blank here
  refine ⟨c', ?_, there⟩
  simp only [bind, Reader.bind, read]
  rfl

/-- A map in the order of its keys is read back as it is. -/
theorem reads_map {value : Reader α} {toJson : α → Value} {map : SortedMap α}
    (each : ∀ entry ∈ map, Reads value depth (toJson entry.2) entry.2)
    (sorted : SortedMap.ofEntries map = map) :
    Reads (Reader.map value) (depth + 1)
      (.object (map.map fun entry => (entry.1, toJson entry.2))) map := by
  have entries : ReadsInside (Reader.allMembers fun _ => value) depth '\x7d' _ map :=
    allMembers_reads each
  have inside := entries.map (f := SortedMap.ofEntries)
  rw [sorted] at inside
  exact reads_bracketed (b := .curly) inside (opens_object · · _) (written_object · · _)

end Brackets

/-! ### Values of any kind -/

/-- Whether a value is at most so many brackets deep and has only numbers of a kind. -/
inductive Value.Within (P : Number → Prop) : Nat → Value → Prop where
  | null {depth : Nat} : Within P depth .null
  | bool {depth : Nat} (b : Bool) : Within P depth (.bool b)
  | number {depth : Nat} {n : Number} (good : P n) : Within P depth (.number n)
  | text {depth : Nat} (s : String) : Within P depth (.text s)
  | list {depth : Nat} {items : List Value} (each : ∀ item ∈ items, Within P depth item) :
      Within P (depth + 1) (.list items)
  | object {depth : Nat} {members : List (String × Value)}
      (each : ∀ member ∈ members, Within P depth member.2) : Within P (depth + 1) (.object members)

section Trees

variable {depth : Nat}

theorem within_text? {P : Number → Prop} (text : Option String) :
    (Value.ofText? text).Within P depth := by
  cases text with
  | none => exact .null
  | some text => exact .text text

section Equations

variable {c : Cursor} {x : Char} {text : List Char}

theorem tree_scalar (here : c.skipBlanks.rest = x :: text) (square : x ≠ '[')
    (curly : x ≠ '\x7b') : Reader.tree depth c = Reader.scalar c.skipBlanks := by
  rw [Reader.tree.eq_def]
  dsimp only
  split
  · exact absurd (List.cons.inj (here.symm.trans ‹_›)).1 square
  · exact absurd (List.cons.inj (here.symm.trans ‹_›)).1 curly
  · rfl

theorem tree_list (here : c.skipBlanks.rest = '[' :: text) :
    Reader.tree (depth + 1) c =
      (Reader.enclosed .square (fun _ => Reader.allItems (fun _ => Reader.tree depth) depth)
        (depth + 1) c.skipBlanks).map fun (items, c) => (.list items, c) := by
  rw [Reader.tree.eq_def]
  simp only [here]

theorem tree_object (here : c.skipBlanks.rest = '\x7b' :: text) :
    Reader.tree (depth + 1) c =
      (Reader.enclosed .curly (fun _ => Reader.allMembers (fun _ _ => Reader.tree depth) depth)
        (depth + 1) c.skipBlanks).map fun (members, c) => (.object members, c) := by
  rw [Reader.tree.eq_def]
  simp only [here]

end Equations

theorem reads_tree_scalar {v : Value} (opens : ∀ layout level, Opens (v.written layout level))
    (first : ∀ layout level, ∀ x ∈ (v.written layout level).head?, x ≠ '[' ∧ x ≠ '\x7b')
    (scalar : ∀ layout level (c : Cursor) rest, c.rest = v.written layout level ++ rest →
      Ends rest → ∃ c', Reader.scalar c = .ok (v, c') ∧ c'.rest = rest) :
    Reads Reader.tree depth v v where
  opens := opens
  read := by
    intro layout level c rest here ends
    obtain ⟨c', read, there⟩ := scalar layout level c.skipBlanks rest here ends
    obtain ⟨x, tail, text, -⟩ := opens layout level
    obtain ⟨square, curly⟩ := first layout level x (by rw [text]; rfl)
    rw [text, List.cons_append] at here
    exact ⟨c', by rw [tree_scalar here square curly, read], there⟩

/-- A value is read back by the reader for values of any kind. -/
theorem reads_tree {v : Value} (within : v.Within Number.ReadsBack depth) :
    Reads Reader.tree depth v v := by
  induction within with
  | null =>
      refine reads_tree_scalar opens_null (fun layout level x first => ?_)
        fun layout level c rest here _ => ?_
      · rw [Value.written] at first
        cases first
        decide
      · rw [Value.written] at here
        exact scalar_null here
  | bool b =>
      refine reads_tree_scalar (opens_bool · · b) (fun layout level x first => ?_)
        fun layout level c rest here _ => ?_
      · rw [Value.written] at first
        cases b <;> cases first <;> decide
      · rw [Value.written] at here
        exact scalar_bool b here
  | number readsBack =>
      refine reads_tree_scalar (opens_number readsBack) (fun layout level x first => ?_)
        fun layout level c rest here ends => ?_
      · rw [Value.written] at first
        obtain ⟨x', tail, text, start⟩ := readsBack.starts
        obtain rfl : x' = x := by simpa [text] using first
        constructor <;> rintro rfl <;> rcases start with start | start <;> cases start
      · rw [Value.written] at here
        exact scalar_number readsBack ends here
  | text s =>
      refine reads_tree_scalar (opens_text · · s) (fun layout level x first => ?_)
        fun layout level c rest here _ => ?_
      · rw [Value.written, quote_eq_cons] at first
        cases first
        decide
      · rw [Value.written] at here
        exact scalar_text s here
  | @list depth items each ih =>
      refine ⟨(opens_list · · items), fun layout level c rest here _ => ?_⟩
      -- Inside, the depth that is left is fixed.
      have inside : ReadsInside (Reader.allItems fun _ => Reader.tree depth) depth ']'
          (fun layout level => (items.map id).map (Value.written layout level)) items :=
        allItems_reads fun item member => ⟨(ih item member).opens, (ih item member).read⟩
      rw [List.map_id] at inside
      rw [Value.written, Value.writtenItems_eq] at here
      obtain ⟨c', read, there⟩ := enclosed_reads (b := .square) inside here
      refine ⟨c', ?_, there⟩
      rw [tree_list (by rw [here, Layout.block]; rfl)]
      exact congrArg (Except.map _) read
  | @object depth members each ih =>
      refine ⟨(opens_object · · members), fun layout level c rest here _ => ?_⟩
      have inside : ReadsInside (Reader.allMembers fun _ _ => Reader.tree depth) depth '\x7d'
          (fun layout level => (members.map fun entry => (entry.1, id entry.2)).map
            (Value.writtenMember layout level)) members :=
        allMembers_reads fun member inside => ⟨(ih member inside).opens, (ih member inside).read⟩
      have same : (members.map fun entry => (entry.1, id entry.2)) = members := List.map_id' members
      rw [same] at inside
      rw [written_object] at here
      obtain ⟨c', read, there⟩ := enclosed_reads (b := .curly) inside here
      refine ⟨c', ?_, there⟩
      rw [tree_object (by rw [here, Layout.block]; rfl)]
      exact congrArg (Except.map _) read

theorem reads_value {v : Value} (within : v.Within Number.ReadsBack depth)
    (canonical : v.canonical = v) : Reads Reader.value depth v v := by
  have reads : Reads Reader.value depth v v.canonical := (reads_tree within).map Value.canonical
  rwa [canonical] at reads

end Trees

/-! ### Records -/

section Records

variable {ρ α : Type} {depth : Nat}

theorem length_lt_block {parts : List (List Char)} {layout : Layout} {level : Nat}
    {opening closing : Char} {text rest : List Char} (some : ∀ part ∈ parts, part ≠ [])
    (here : text = layout.block level opening closing parts ++ rest) :
    parts.length < text.length + 1 := by
  have long := length_le_separated (layout.lead (level + 1)) true some
  simp only [here, Layout.block, List.length_append, List.length_cons]
  omega

theorem reads_field {absence : Absence} {name : String} {reader : Reader α} {enter : ρ → α → ρ}
    {v : Value} {a : α} (reads : Reads reader depth v a) :
    Reads (Field.of absence name reader enter).read depth v (enter · a) :=
  reads.map fun a record => enter record a

/-- How members that are read one after another fill a record, from one of which some were read. -/
inductive Fills (type : RecordType ρ) (depth : Nat) :
    (seen : List String) → (record : ρ) → (members : List (String × Value)) → (result : ρ) → Prop
    where
  | done {seen : List String} {record result : ρ} (complete : type.missing? seen = none)
      (checked : type.check record = .ok result) : Fills type depth seen record [] result
  | member {seen : List String} {record result : ρ} {name : String} {v : Value}
      {members : List (String × Value)} {field : Field ρ} {enter : ρ → ρ}
      (known : type.fields.find? (·.name == name) = some field)
      (new : seen.contains name = false) (reads : Reads field.read depth v enter)
      (others : Fills type depth (name :: seen) (enter record) members result) :
      Fills type depth seen record ((name, v) :: members) result

/-- By induction on the members. -/
theorem Fills.members_reads {type : RecordType ρ} {seen : List String} {record result : ρ}
    {members : List (String × Value)} (fills : Fills type depth seen record members result)
    {layout : Layout} {level : Nat} {gap rest : List Char} (blank : Blank gap) (first : Bool)
    {fuel : Nat} (enough : members.length < fuel) {c : Cursor}
    (here : c.rest = separated (layout.lead level) first
        (members.map (Value.writtenMember layout level)) ++ (gap ++ '\x7d' :: rest)) :
    ∃ c', type.members fuel first seen record depth c = .ok (result, c') ∧
      c'.rest = '\x7d' :: rest := by
  obtain ⟨fuel, rfl⟩ := Nat.exists_eq_add_one_of_ne_zero (Nat.ne_zero_of_lt enough)
  induction fills generalizing first fuel c with
  | done complete checked =>
      obtain ⟨c', ended, there⟩ := nextKey_end blank first (by simpa [separated] using here)
      refine ⟨c', ?_, there⟩
      simp only [RecordType.members, ended, complete, RecordType.finish, checked]
  | member known new reads others ih =>
      obtain ⟨c₁, c₂, c₃, name, colon, read, after⟩ := reads.member first blank here
      obtain ⟨fuel, rfl⟩ : ∃ n, fuel = n + 1 :=
        Nat.exists_eq_add_one_of_ne_zero (by simp at enough; omega)
      obtain ⟨c₄, more, there⟩ := ih false after fuel (by simpa using enough)
      refine ⟨c₄, ?_, there⟩
      rw [RecordType.members]
      simp only [name, colon, known, new, read, more, Bool.false_eq_true, if_false]

theorem reads_record {type : RecordType ρ} {members : List (String × Value)} {a : ρ}
    (fills : Fills type depth [] type.blank members a) :
    Reads type.reader (depth + 1) (.object members) a where
  opens := (opens_object · · members)
  read := by
    intro layout level c rest here _
    rw [written_object] at here
    have enough := length_lt_block (some_writtenMember layout (level + 1) members) here
    rw [List.length_map] at enough
    have inside : ReadsInside (type.members (c.skipBlanks.rest.length + 1) true [] type.blank) depth
        '\x7d' (fun layout level => members.map (Value.writtenMember layout level)) a :=
      fun layout level gap c rest blank here => fills.members_reads blank true enough here
    obtain ⟨c', read, there⟩ := enclosed_reads (b := .curly) inside here
    refine ⟨c', ?_, there⟩
    rw [← read]
    have start : c.skipBlanks.rest = '\x7b' :: _ := here
    unfold RecordType.reader
    simp only [start]

end Records

/-! ### Tagged records -/

section Tagged

variable {ρ : Type} {depth : Nat} {type : TaggedType ρ}

/-- By induction on the members after the tag, which are kept. -/
theorem tagged_members_reads {others : List (String × Value)} (kind : TaggedType.Maker ρ)
    (apart : ∀ member ∈ others, member.1 ≠ type.tag)
    (each : ∀ member ∈ others, member.2.Within Number.ReadsBack depth)
    {layout : Layout} {level : Nat} {gap rest : List Char} (blank : Blank gap)
    {fuel : Nat} (enough : others.length < fuel) (done : List (String × Value)) {c : Cursor}
    (here : c.rest = separated (layout.lead level) false
        (others.map (Value.writtenMember layout level)) ++ (gap ++ '\x7d' :: rest)) :
    ∃ c', type.members fuel false (some kind) done depth c =
        .ok ((kind, .object (done.reverse ++ others)), c') ∧ c'.rest = '\x7d' :: rest := by
  obtain ⟨fuel, rfl⟩ := Nat.exists_eq_add_one_of_ne_zero (Nat.ne_zero_of_lt enough)
  induction others generalizing fuel done c with
  | nil =>
      obtain ⟨c', ended, there⟩ := nextKey_end blank false (by simpa [separated] using here)
      refine ⟨c', ?_, there⟩
      simp only [TaggedType.members, ended, List.append_nil]
  | cons member others ih =>
      obtain ⟨other, apart⟩ := List.forall_mem_cons.mp apart
      obtain ⟨within, each⟩ := List.forall_mem_cons.mp each
      have reads := reads_tree within
      obtain ⟨c₁, c₂, c₃, name, colon, read, after⟩ := reads.member false blank here
      obtain ⟨fuel, rfl⟩ : ∃ n, fuel = n + 1 :=
        Nat.exists_eq_add_one_of_ne_zero (by simp at enough; omega)
      obtain ⟨c₄, more, there⟩ := ih apart each (member :: done) after fuel (by simpa using enough)
      refine ⟨c₄, ?_, there⟩
      rw [TaggedType.members]
      simp only [name, colon, read, more, beq_eq_false_iff_ne.mpr other, Bool.false_eq_true,
        if_false, List.reverse_cons, List.append_assoc, List.singleton_append]

/-- A tagged record whose tag stands first is read back if its kind takes the members after the
    tag to it. -/
theorem reads_tagged (type : TaggedType ρ) (kind : String) {make : TaggedType.Maker ρ} {others : List (String × Value)}
    {a : ρ} (known : Reader.variantOf type.kinds kind = .ok make)
    (apart : ∀ member ∈ others, member.1 ≠ type.tag)
    (each : ∀ member ∈ others, member.2.Within Number.ReadsBack depth)
    (made : make (.object others) = .ok a) :
    Reads type.reader (depth + 1) (.object ((type.tag, .text kind) :: others)) a where
  opens := (opens_object · · _)
  read := by
    intro layout level c rest here _
    rw [written_object] at here
    have enough := length_lt_block (some_writtenMember layout (level + 1) _) here
    rw [List.length_map, List.length_cons] at enough
    have inside : ReadsInside (type.members (c.skipBlanks.rest.length + 1) true none []) depth
        '\x7d' (fun layout level => ((type.tag, Value.text kind) :: others).map
          (Value.writtenMember layout level)) (make, .object others) := by
      intro layout level gap c' rest blank here
      have reads : Reads type.kindReader depth (.text kind) make := reads_textOf known
      obtain ⟨c₁, c₂, c₃, name, colon, read, after⟩ := reads.member true blank here
      obtain ⟨c₄, more, there⟩ := tagged_members_reads make apart each blank
        (Nat.lt_of_succ_lt_succ enough) [] after
      refine ⟨c₄, ?_, there⟩
      rw [TaggedType.members]
      simp only [name, colon, read, more, beq_self_eq_true, if_true, Option.isSome_none,
        Bool.false_eq_true, if_false]
      rfl
    obtain ⟨c', read, there⟩ := enclosed_reads (b := .curly) inside here
    refine ⟨c', ?_, there⟩
    have start : c.skipBlanks.rest = '\x7b' :: _ := here
    unfold TaggedType.reader
    simp only [start] at read ⊢
    simp only [read, made]

end Tagged

end Rehearsal.Json
