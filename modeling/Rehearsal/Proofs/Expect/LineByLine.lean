import Rehearsal.Expect.Format
import Rehearsal.Proofs.Text.LineEnds

/-! # YAML line by line

Whether an output looks like YAML is told from its lines that say something, one by one, without the
blanks at their ends. So it is told part by part of an output that is put together of others, and
neither remarks between the lines nor the form of the line ends matter.
-/

namespace Rehearsal.Expect

/-- A line without anything in it but blanks. -/
def Blank (line : List Char) : Prop :=
  ∀ c ∈ line, Text.isBlank c = true

instance (line : List Char) : Decidable (Blank line) :=
  List.decidableBAll _ line

/-- A line that begins with a number sign, indented or not. -/
def Comment (line : List Char) : Prop :=
  ∃ indent rest, Blank indent ∧ line = indent ++ '#' :: rest

variable {line : List Char}

theorem isContentLine_of_blank (blank : Blank line) : isContentLine line = false := by
  have trimmed : Text.trimStart line = [] := List.dropWhile_eq_nil_iff.mpr blank
  rw [isContentLine, trimmed]

theorem isContentLine_append {indent : List Char} (blank : Blank indent) (rest : List Char) :
    isContentLine (indent ++ rest) = isContentLine rest := by
  have trimmed : Text.trimStart (indent ++ rest) = Text.trimStart rest :=
    List.dropWhile_append_of_pos blank
  rw [isContentLine, trimmed, isContentLine]

/-- A line says something if it is neither blank nor a comment. -/
theorem isContentLine_iff : isContentLine line = true ↔ ¬Blank line ∧ ¬Comment line := by
  constructor
  · intro content
    refine ⟨fun blank => ?_, ?_⟩
    · rw [isContentLine_of_blank blank] at content
      cases content
    · rintro ⟨indent, rest, blank, rfl⟩
      rw [isContentLine_append blank] at content
      cases content
  · rintro ⟨filled, plain⟩
    have split : line = line.takeWhile Text.isBlank ++ Text.trimStart line :=
      List.takeWhile_append_dropWhile.symm
    have indent : Blank (line.takeWhile Text.isBlank) := fun _ member =>
      List.mem_takeWhile_imp member
    unfold isContentLine
    cases trimmed : Text.trimStart line with
    | nil => exact absurd (List.dropWhile_eq_nil_iff.mp trimmed) filled
    | cons c rest =>
        refine bne_iff_ne.mpr ?_
        rintro rfl
        exact plain ⟨_, rest, indent, by rw [← trimmed, ← split]⟩

theorem isContentLine_trimEnd (line : List Char) :
    isContentLine (Text.trimEnd line) = isContentLine line := by
  obtain ⟨blanks, split, blank⟩ := Text.exists_eq_trimEnd_append line
  have start : Text.trimStart line =
      if (Text.trimStart (Text.trimEnd line)).isEmpty then Text.trimStart blanks
      else Text.trimStart (Text.trimEnd line) ++ blanks := by
    conv => lhs; rw [split]
    exact List.dropWhile_append
  have none : Text.trimStart blanks = [] := List.dropWhile_eq_nil_iff.mpr blank
  rw [isContentLine, isContentLine, start, none]
  cases Text.trimStart (Text.trimEnd line) <;> rfl

theorem isYamlLine_congr {c : Char} {rest more : List Char}
    (same : Text.trimEnd (c :: rest) = Text.trimEnd (c :: more)) :
    isYamlLine (c :: rest) = isYamlLine (c :: more) := by
  by_cases space : c = ' '
  · subst space
    rfl
  by_cases tab : c = '\t'
  · subst tab
    rfl
  simp [isYamlLine, space, tab, same]

theorem isYamlLine_trimEnd (content : isContentLine line = true) :
    isYamlLine (Text.trimEnd line) = isYamlLine line := by
  obtain ⟨blanks, split, -⟩ := Text.exists_eq_trimEnd_append line
  have same := Text.trimEnd_trimEnd line
  cases trimmed : Text.trimEnd line with
  | nil =>
      rw [← isContentLine_trimEnd, trimmed] at content
      cases content
  | cons c rest =>
      rw [trimmed] at split same
      rw [split]
      refine isYamlLine_congr ?_
      rw [same, ← trimmed, split]
      rfl

/-- The lines of a text that say something, without the blanks at their ends. -/
def contentLines (text : List Char) : List (List Char) :=
  ((Text.lines text).map Text.trimEnd).filter isContentLine

/-- A text has a line that says something: one that is neither blank nor a comment. -/
def HasContent (text : String) : Prop :=
  ∃ line ∈ Text.lines text.toList, ¬Blank line ∧ ¬Comment line

theorem contentLines_eq (text : List Char) :
    contentLines text = ((Text.lines text).filter isContentLine).map Text.trimEnd := by
  rw [contentLines, List.filter_map]
  exact congrArg _ (List.filter_congr fun line _ => isContentLine_trimEnd line)

theorem looksYaml_iff (text : List Char) : looksYaml text = true ↔
    contentLines text ≠ [] ∧ ∀ line ∈ contentLines text, isYamlLine line = true := by
  have fits : ∀ line ∈ (Text.lines text).filter isContentLine,
      isYamlLine (Text.trimEnd line) = isYamlLine line :=
    fun _ member => isYamlLine_trimEnd (List.mem_filter.mp member).2
  rw [contentLines_eq, Ne, List.map_eq_nil_iff, List.forall_mem_map]
  simp only [looksYaml, Bool.and_eq_true, Bool.not_eq_true', List.isEmpty_eq_false_iff,
    List.all_eq_true]
  exact and_congr_right fun _ => forall₂_congr fun line member => by rw [fits line member]

theorem hasContent_iff (text : String) : HasContent text ↔ contentLines text.toList ≠ [] := by
  simp only [HasContent, contentLines_eq, ← isContentLine_iff, Ne, List.map_eq_nil_iff,
    List.filter_eq_nil_iff, not_forall, not_not, exists_prop]

theorem contentLines_of_not_mem (absent : '\n' ∉ line) :
    contentLines line = [Text.trimEnd line].filter isContentLine := by
  rw [contentLines, Text.lines_of_not_mem absent]
  split
  next empty =>
    subst empty
    rfl
  next => rfl

theorem contentLines_line_append (absent : '\n' ∉ line) (rest : List Char) :
    contentLines (line ++ '\n' :: rest) =
      [Text.trimEnd line].filter isContentLine ++ contentLines rest := by
  rw [contentLines, Text.lines_line_append absent, List.map_cons, Text.trimEnd_chomp,
    ← List.singleton_append, List.filter_append, contentLines]

/-- Whatever the first text ends with, what is said in both together is what is said in each. -/
theorem contentLines_append (front back : List Char) :
    contentLines (front ++ '\n' :: back) = contentLines front ++ contentLines back := by
  induction front using Text.line_induction with
  | last line absent => rw [contentLines_line_append absent, contentLines_of_not_mem absent]
  | ended line rest absent ih =>
      rw [List.append_assoc, List.cons_append, contentLines_line_append absent,
        contentLines_line_append absent, ih, List.append_assoc]

theorem contentLines_append_of_endsLine {front : List Char} (ends : Text.EndsLine front)
    (back : List Char) :
    contentLines (front ++ back) = contentLines front ++ contentLines back := by
  rw [contentLines, ends.lines_append, List.map_append, List.filter_append, contentLines,
    contentLines]

theorem contentLines_substitute (text : String) :
    contentLines (Text.substitute "\n" "\r\n" text).toList = contentLines text.toList := by
  rw [Text.toList_substitute_newline]
  generalize text.toList = chars
  induction chars using Text.line_induction with
  | last line absent => rw [Text.flatMap_newline_of_not_mem _ absent]
  | ended line rest absent ih =>
      have returned : '\n' ∉ line ++ ['\r'] := by simpa using absent
      have cut (rest : List Char) :
          line ++ ("\r\n".toList ++ rest) = line ++ ['\r'] ++ '\n' :: rest := by
        simp
      rw [List.flatMap_append, List.flatMap_cons, Text.flatMap_newline_of_not_mem _ absent,
        if_pos rfl, cut, contentLines_line_append returned, contentLines_line_append absent, ih,
        Text.trimEnd_append_blank (by decide)]

theorem hasFormat_eq_ok_iff {name : String} (named : Format.parse name = .ok .yaml)
    (output : String) (message : Option String) :
    hasFormat output name message = .ok () ↔ looksYaml output.toList = true := by
  rw [hasFormat, named]
  simp only [isYaml]
  split <;> simp_all

/-- The text with remarks put in where lines begin: comments and blank lines, any number of them. -/
inductive Remarked (text : String) : String → Prop where
  | same : Remarked text text
  | remark {front back : String} (remarks : String) : Remarked text (front ++ back) →
      Text.EndsLine front.toList →
      (∀ line ∈ Text.lines remarks.toList, Blank line ∨ Comment line) →
      Remarked text (front ++ remarks ++ "\n" ++ back)

theorem Remarked.contentLines_eq {text more : String} (remarked : Remarked text more) :
    contentLines more.toList = contentLines text.toList := by
  induction remarked with
  | same => rfl
  | @remark front back remarks _ ends idle ih =>
      have nothing : contentLines remarks.toList = [] := by
        refine not_ne_iff.mp fun content => ?_
        obtain ⟨line, member, filled, plain⟩ := (hasContent_iff remarks).mpr content
        exact (idle line member).elim filled plain
      have put : (front ++ remarks ++ "\n" ++ back).toList =
          front.toList ++ (remarks.toList ++ '\n' :: back.toList) := by simp
      rw [put, contentLines_append_of_endsLine ends, contentLines_append, nothing, List.nil_append,
        ← contentLines_append_of_endsLine ends, ← String.toList_append, ih]

/-- Two texts with a line feed between them look like YAML exactly if one of them says something and
each that does looks like YAML. So remarks between the lines change nothing, and neither does a
carriage return put before each line feed, even before one that has a carriage return already. -/
theorem yaml_line_by_line {name : String} (named : Format.parse name = .ok .yaml)
    (message : Option String) :
    let accepts := fun text : String => hasFormat text name message = .ok ()
    (∀ a b : String, accepts (a ++ "\n" ++ b) ↔
      (HasContent a ∨ HasContent b) ∧ (HasContent a → accepts a) ∧ (HasContent b → accepts b)) ∧
    (∀ text more : String, Remarked text more → (accepts more ↔ accepts text)) ∧
    ∀ text : String, accepts (Text.substitute "\n" "\r\n" text) ↔ accepts text := by
  intro accepts
  have accepts_iff (text : String) : accepts text ↔ contentLines text.toList ≠ [] ∧
      ∀ line ∈ contentLines text.toList, isYamlLine line = true :=
    (hasFormat_eq_ok_iff named text message).trans (looksYaml_iff text.toList)
  refine ⟨fun a b => ?_, fun text more remarked => ?_, fun text => ?_⟩
  · have both : contentLines (a ++ "\n" ++ b).toList =
        contentLines a.toList ++ contentLines b.toList := by
      simpa using contentLines_append a.toList b.toList
    simp only [accepts_iff, hasContent_iff, both, List.forall_mem_append]
    -- A part that says nothing has no line that could fail.
    by_cases first : contentLines a.toList = [] <;>
      by_cases second : contentLines b.toList = [] <;> simp [first, second]
  · rw [accepts_iff, accepts_iff, remarked.contentLines_eq]
  · rw [accepts_iff, accepts_iff, contentLines_substitute]

/-- A comment behind a tab, a line of blanks that are not of ASCII, and both kinds of line ends. -/
theorem yaml_line_by_line_remarked :
    Format.parse "Yml" = .ok .yaml ∧
      HasContent "name: crew\r" ∧
      hasFormat "name: crew\r" "Yml" none = .ok () ∧
      hasFormat "- one" "Yml" none = .ok () ∧
      Remarked "name: crew\r\n- one" "name: crew\r\n\t# roles\r\n\u00a0\u3000\n- one" ∧
      hasFormat "name: crew\r\n- one" "Yml" none = .ok () ∧
      hasFormat "name: crew\r\n\t# roles\r\n\u00a0\u3000\n- one" "Yml" none = .ok () ∧
      hasFormat (Text.substitute "\n" "\r\n" "name: crew\r\n- one") "Yml" none = .ok () := by
  have named : Format.parse "Yml" = .ok .yaml := by decide
  obtain ⟨together, remarks, returns⟩ := yaml_line_by_line named none
  have content : HasContent "name: crew\r" := (hasContent_iff _).mpr (by decide)
  have first : hasFormat "name: crew\r" "Yml" none = .ok () := by decide
  have second : hasFormat "- one" "Yml" none = .ok () := by decide
  have both : hasFormat "name: crew\r\n- one" "Yml" none = .ok () :=
    (together "name: crew\r" "- one").mpr ⟨.inl content, fun _ => first, fun _ => second⟩
  have remarked :
      Remarked "name: crew\r\n- one" "name: crew\r\n\t# roles\r\n\u00a0\u3000\n- one" := by
    refine @Remarked.remark _ "name: crew\r\n" "- one" "\t# roles\r\n\u00a0\u3000" .same ?_ ?_
    · exact .inr ⟨"name: crew\r".toList, by decide⟩
    · have lines : Text.lines "\t# roles\r\n\u00a0\u3000".toList =
          ["\t# roles".toList, "\u00a0\u3000".toList] := by decide
      rw [lines, List.forall_mem_cons, List.forall_mem_singleton]
      exact ⟨.inr ⟨['\t'], " roles".toList, by decide, by decide⟩, .inl (by decide)⟩
  exact ⟨named, content, first, second, remarked, both, (remarks _ _ remarked).mpr both,
    (returns _).mpr both⟩

end Rehearsal.Expect
