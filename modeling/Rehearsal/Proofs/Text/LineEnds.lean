import Mathlib.Data.List.Basic
import Mathlib.Data.List.DropRight
import Rehearsal.Text.Lines
import Rehearsal.Text.Search

/-! # Texts line by line

A text is a row of lines that end in a line feed, and what follows the last of them. The lines of a
text that goes on where a line begins are those of both its parts, and what is written as lines is
read as the same lines.
-/

namespace Rehearsal.Text

variable {line text : List Char}

/-- Induction over the lines of a text, the last of which has no end. -/
@[elab_as_elim]
theorem line_induction {motive : List Char → Prop} (last : ∀ line, '\n' ∉ line → motive line)
    (ended : ∀ line rest, '\n' ∉ line → motive rest → motive (line ++ '\n' :: rest))
    (text : List Char) : motive text := by
  by_cases found : '\n' ∈ text
  · obtain ⟨line, rest, cut, absent⟩ := List.eq_append_cons_of_mem found
    rw [cut]
    exact ended line rest absent (line_induction last ended rest)
  · exact last text found
termination_by text.length
decreasing_by rw [cut, List.length_append, List.length_cons]; omega

/-- A line without the carriage return that belongs to its end. -/
def chomp (line : List Char) : List Char :=
  if line.getLast? = some '\r' then line.dropLast else line

theorem chomp_cons_cons (c d : Char) (line : List Char) :
    chomp (c :: d :: line) = c :: chomp (d :: line) := by
  unfold chomp
  rw [List.getLast?_cons_cons, List.dropLast_cons_cons]
  split <;> rfl

theorem lines_newline (text : List Char) : lines ('\n' :: text) = [] :: lines text := by
  rw [lines]

theorem lines_cons {c : Char} (inside : c ≠ '\n') (ahead : c ≠ '\r' ∨ text.head? ≠ some '\n') :
    lines (c :: text) = (c :: (lines text).headD []) :: (lines text).tail := by
  rw [lines]
  case x_1 =>
    rintro rest rfl rfl
    simp at ahead
  case x_2 => exact inside
  cases lines text <;> rfl

theorem lines_of_not_mem (absent : '\n' ∉ line) :
    lines line = if line = [] then [] else [line] := by
  induction line with
  | nil => rfl
  | cons c rest ih =>
      obtain ⟨other, absent⟩ := List.ne_and_not_mem_of_not_mem_cons absent
      rw [lines_cons other.symm (.inr fun first => absent (List.mem_of_mem_head? first)), ih absent]
      cases rest <;> rfl

theorem lines_line_append (absent : '\n' ∉ line) (rest : List Char) :
    lines (line ++ '\n' :: rest) = chomp line :: lines rest := by
  induction line with
  | nil => exact lines_newline rest
  | cons c line ih =>
      obtain ⟨other, absent⟩ := List.ne_and_not_mem_of_not_mem_cons absent
      cases line with
      | nil =>
          by_cases ending : c = '\r'
          · subst ending
            rfl
          · rw [List.singleton_append, lines_cons other.symm (.inl ending), lines_newline]
            simp [chomp, ending]
      | cons d line =>
          have next : (d :: line ++ '\n' :: rest).head? ≠ some '\n' := by
            simpa using (List.ne_and_not_mem_of_not_mem_cons absent).1.symm
          rw [List.cons_append, lines_cons other.symm (.inr next), ih absent, chomp_cons_cons,
            List.headD_cons, List.tail_cons]

/-- What follows this text begins a line. -/
def EndsLine (text : List Char) : Prop :=
  text = [] ∨ ∃ front, text = front ++ ['\n']

theorem EndsLine.lines_append (ends : EndsLine text) (more : List Char) :
    lines (text ++ more) = lines text ++ lines more := by
  obtain rfl | ⟨front, rfl⟩ := ends
  · rfl
  induction front using line_induction with
  | last line absent =>
      rw [List.append_assoc, List.singleton_append, lines_line_append absent,
        lines_line_append absent]
      rfl
  | ended line rest absent ih =>
      simp only [List.append_assoc, List.cons_append, lines_line_append absent] at ih ⊢
      rw [ih]

/-- A text that has no line end in it and no part of one. -/
def OneLine (text : String) : Prop :=
  '\n' ∉ text.toList ∧ '\r' ∉ text.toList

instance (text : String) : Decidable (OneLine text) :=
  inferInstanceAs (Decidable (_ ∧ _))

theorem OneLine.append {text more : String} (first : OneLine text) (second : OneLine more) :
    OneLine (text ++ more) := by
  simp [OneLine, first.1, first.2, second.1, second.2]

theorem chomp_of_not_mem (absent : '\r' ∉ line) : chomp line = line :=
  if_neg fun ending => absent (List.mem_of_getLast? ending)

/-- The texts as lines, each with its end. -/
def ended (texts : List String) : String :=
  String.join (texts.map (· ++ "\n"))

theorem ended_append (first second : List String) :
    ended (first ++ second) = ended first ++ ended second := by
  rw [ended, List.map_append, String.join_append]
  rfl

theorem endsLine_ended (texts : List String) : EndsLine (ended texts).toList := by
  induction texts using List.reverseRecOn with
  | nil => exact .inl rfl
  | append_singleton texts text _ =>
      refine .inr ⟨(ended texts ++ text).toList, ?_⟩
      rw [ended_append]
      simp [ended]

theorem lines_ended {texts : List String} (single : ∀ text ∈ texts, OneLine text) :
    lines (ended texts).toList = texts.map String.toList := by
  induction texts with
  | nil => rfl
  | cons text rest ih =>
      obtain ⟨first, others⟩ := List.forall_mem_cons.mp single
      have cut : (ended (text :: rest)).toList = text.toList ++ '\n' :: (ended rest).toList := by
        simp [ended]
      rw [cut, lines_line_append first.1, chomp_of_not_mem first.2, ih others, List.map_cons]

/-! Without the blanks at its end, a line is the same with a carriage return in its end or none. -/

theorem trimEnd_append_blank {c : Char} (blank : isBlank c = true) (line : List Char) :
    trimEnd (line ++ [c]) = trimEnd line :=
  List.rdropWhile_concat_pos _ line c blank

theorem trimEnd_chomp (line : List Char) : trimEnd (chomp line) = trimEnd line := by
  unfold chomp
  split
  next ending =>
    obtain ⟨front, rfl⟩ := List.getLast?_eq_some_iff.mp ending
    rw [List.dropLast_concat, trimEnd_append_blank (by decide)]
  next => rfl

theorem trimEnd_trimEnd (line : List Char) : trimEnd (trimEnd line) = trimEnd line :=
  List.rdropWhile_idempotent _ line

theorem exists_eq_trimEnd_append (line : List Char) :
    ∃ blanks, line = trimEnd line ++ blanks ∧ ∀ c ∈ blanks, isBlank c = true :=
  ⟨line.rtakeWhile isBlank, (List.rdropWhile_append_rtakeWhile ..).symm,
    fun _ member => List.mem_rtakeWhile_imp member⟩

/-- Each line feed is replaced, and nothing else. -/
theorem toList_substitute_newline (text new : String) :
    (substitute "\n" new text).toList =
      text.toList.flatMap fun c => if c = '\n' then new.toList else [c] := by
  rw [substitute, String.toList_ofList, replaceAll]
  induction text.toList with
  | nil => rfl
  | cons c rest ih =>
      have found : "\n".toList.isPrefixOf (c :: rest) = decide (c = '\n') := by
        simp [List.isPrefixOf, Bool.beq_eq_decide_eq, eq_comm]
      rw [List.flatMap_cons, ← ih, replaceFrom, found]
      by_cases here : c = '\n' <;> simp [here]

theorem flatMap_newline_of_not_mem (new : List Char) (absent : '\n' ∉ line) :
    (line.flatMap fun c => if c = '\n' then new else [c]) = line := by
  have other : ∀ c ∈ line, (if c = '\n' then new else [c]) = [c] := by
    rintro c member
    refine if_neg ?_
    rintro rfl
    exact absent member
  rw [List.flatMap_congr other]
  exact List.flatMap_singleton' line

end Rehearsal.Text
