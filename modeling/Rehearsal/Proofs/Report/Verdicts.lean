import Rehearsal.Proofs.Report.Decoding
import Rehearsal.Proofs.Result.Totals
import Rehearsal.Proofs.Text.LineEnds

/-! # Verdicts

The exit code, the summary, the last line on the console and the sections of the web page tell the
same of a run, and it is that every test passed. Names and traces are any texts here: they may hold
lines that look like a verdict and markup that looks like a heading.
-/

namespace Rehearsal

namespace Text

theorem includes_iff {text needle : String} :
    includes text needle = true ↔ ∃ before after, text = before ++ needle ++ after := by
  rw [includes, hasPart_iff]
  constructor
  · rintro ⟨before, after, split⟩
    exact ⟨String.ofList before, String.ofList after, String.ext (by simpa using split)⟩
  · rintro ⟨before, after, rfl⟩
    exact ⟨before.toList, after.toList, by simp⟩

theorem OneLine.ofNumeral {text : String} (numeral : Decimal.Numeral text) : OneLine text := by
  constructor <;> intro member <;> exact absurd (numeral _ member) (by decide)

end Text

namespace Summary

theorem wasSuccessful_iff (records : List Record) :
    (ofRecords records).wasSuccessful = true ↔
      ∀ record ∈ records, record.outcome = .success := by
  have all : (ofRecords records).successes = (ofRecords records).totalTests ↔
      ∀ record ∈ records, record.outcome.isSuccess = true := List.countP_eq_length
  have passed (outcome : Outcome) : outcome.isSuccess = true ↔ outcome = .success := by
    cases outcome <;> simp [Outcome.isSuccess]
  simp only [passed] at all
  have outcomes := (ofRecords_accounts records).outcomes
  rw [← all, wasSuccessful, Bool.and_eq_true, beq_iff_eq, beq_iff_eq]
  omega

theorem wasSuccessful_iff_no_entries (records : List Record) :
    (ofRecords records).wasSuccessful = true ↔
      (ofRecords records).failures = [] ∧ (ofRecords records).errors = [] := by
  simp only [wasSuccessful, Bool.and_eq_true, beq_iff_eq, ← List.length_eq_zero_iff]
  rfl

end Summary

namespace Report

/-! ### The web page -/

/-- The headings of the sections of a document. -/
def headings (document : String) : List String :=
  (((readMarkup document).getD []).filter (·.name = "h2")).map Piece.text

theorem titles_ofPieces (pieces : List Piece) :
    (Outline.ofPieces pieces).sections.map Prod.fst =
      (pieces.filter (·.name = "h2")).map Piece.text := by
  unfold Outline.ofPieces
  induction pieces with
  | nil => rfl
  | cons piece rest ih =>
      rw [List.foldr_cons, List.filter_cons, Outline.put]
      split <;> simp_all

theorem headings_html (result : RunResult) :
    headings (html result) = (Outline.ofResult result).sections.map Prod.fst := by
  rw [headings, html_eq, readMarkup_markup, Option.getD_some, ← titles_ofPieces,
    Outline.ofPieces_page]

theorem title_mem_headings_iff (result : RunResult) :
    ("Failures" ∈ headings (html result) ↔ result.summary.failures ≠ []) ∧
      ("Errors" ∈ headings (html result) ↔ result.summary.errors ≠ []) := by
  rw [headings_html, Outline.ofResult]
  cases result.summary.failures <;> cases result.summary.errors <;> simp [Outline.listed]

/-- What looks like a heading is one. -/
theorem mem_headings_of_includes {piece : Piece} (named : piece.name = "h2") {more : String}
    {pieces : List Piece}
    (found : Text.includes (markup pieces) (markup [piece] ++ "<" ++ more) = true) :
    piece.text ∈ headings (markup pieces) := by
  obtain ⟨before, after, written⟩ := Text.includes_iff.mp found
  have cut : (markup pieces).toList =
      before.toList ++ '<' :: (piece.body ++ '<' :: (more ++ after).toList) := by
    rw [written]
    simp [markup]
  have member := Text.mem_tail_parts piece.open_not_mem_body before.toList (more ++ after).toList
  rw [← cut, parts_markup, List.tail_cons] at member
  obtain ⟨other, inside, same⟩ := List.mem_map.mp member
  rw [headings, readMarkup_markup, Option.getD_some]
  rw [Piece.body_inj same] at inside
  exact List.mem_map_of_mem (List.mem_filter.mpr ⟨inside, decide_eq_true named⟩)

theorem includes_faultSection {title kind : String} {entries : List FaultEntry}
    (some : entries ≠ []) (before after : String) :
    Text.includes (before ++ faultSection title kind entries ++ after)
      ("<h2 class=\"" ++ kind ++ "\">" ++ title ++ "</h2>") = true := by
  have ending : "</h2>\n" = "</h2>" ++ "\n" := by rfl
  refine Text.includes_iff.mpr ⟨before, "\n"
    ++ "<table>\n<tr><th>Test</th><th>Trace</th></tr>\n"
    ++ String.join (entries.map faultRow) ++ "</table>\n" ++ after, ?_⟩
  rw [faultSection, if_neg (by simpa using some), ending]
  simp only [String.append_assoc]

/-- The heading of a section is found in the page as text exactly if the section has an entry. -/
theorem includes_heading_iff {result : RunResult} (kind : String) (piece : Piece)
    {entries : List FaultEntry} (named : piece.name = "h2")
    (opening : "<h2 class=\"" ++ kind ++ "\">" ++ piece.text ++ "</h2>" =
      markup [piece] ++ "<" ++ "/h2>")
    (listed : piece.text ∈ headings (html result) ↔ entries ≠ [])
    (placed : ∃ before after,
      html result = before ++ faultSection piece.text kind entries ++ after) :
    Text.includes (html result)
        ("<h2 class=\"" ++ kind ++ "\">" ++ piece.text ++ "</h2>") = true ↔ entries ≠ [] := by
  constructor
  · intro found
    rw [opening, html_eq] at found
    rw [html_eq] at listed
    exact listed.mp (mem_headings_of_includes named found)
  · intro some
    obtain ⟨before, after, page⟩ := placed
    rw [page]
    exact includes_faultSection some before after

/-- A heading that a name or a trace imitates is not found: its brackets were escaped. -/
theorem includes_headings_iff (result : RunResult) :
    (Text.includes (html result) "<h2 class=\"failure\">Failures</h2>" = true ↔
        result.summary.failures ≠ []) ∧
      (Text.includes (html result) "<h2 class=\"error\">Errors</h2>" = true ↔
        result.summary.errors ≠ []) := by
  obtain ⟨failures, errors⟩ := title_mem_headings_iff result
  let start := pageHead ++ "<body>\n<h1>Crew Test Report</h1>\n" ++ countSection result.summary
  let ending := recordSection result.records ++ "</body>\n</html>\n"
  constructor
  · refine includes_heading_iff "failure" (.mk "h2 class=\"failure\"" "Failures") (by decide)
      (by rfl) failures ⟨start, faultSection "Errors" "error" result.summary.errors ++ ending, ?_⟩
    simp only [html, start, ending, String.append_assoc]
  · refine includes_heading_iff "error" (.mk "h2 class=\"error\"" "Errors") (by decide)
      (by rfl) errors
      ⟨start ++ faultSection "Failures" "failure" result.summary.failures, ending, ?_⟩
    simp only [html, start, ending, String.append_assoc]

/-! ### The console -/

/-- What is shown on the console of a test that did not pass: its name, and all that went wrong. -/
def entryText (unitId : String) (outcome : Outcome) : String :=
  rule ++ "\n" ++ outcome.label ++ ": " ++ unitId ++ "\n" ++ thinRule ++ "\n"
    ++ outcome.detail?.getD "" ++ "\n" ++ "\n"

/-- A line that begins like the one with the name in what is shown of a test. -/
def NamesTest (line : List Char) : Prop :=
  "FAIL: ".toList <+: line ∨ "ERROR: ".toList <+: line

instance (line : List Char) : Decidable (NamesTest line) :=
  inferInstanceAs (Decidable (_ ∨ _))

theorem console_eq (summary : Summary) : console summary =
    Text.ended (summary.failures.flatMap (entryLines "FAIL"))
      ++ Text.ended (summary.errors.flatMap (entryLines "ERROR"))
      ++ Text.ended (countLines summary ++ [verdict summary]) := by
  rw [← Text.ended_append, ← Text.ended_append, ← List.append_assoc]
  rfl

theorem ended_entryLines (kind : String) (outcome : String → Outcome)
    (alike : ∀ trace, (outcome trace).label = kind ∧ (outcome trace).detail? = some trace)
    (entries : List FaultEntry) : Text.ended (entries.flatMap (entryLines kind)) =
      String.join (entries.map fun entry => entryText entry.unitId (outcome entry.trace)) := by
  induction entries with
  | nil => rfl
  | cons entry rest ih =>
      obtain ⟨label, detail⟩ := alike entry.trace
      rw [List.flatMap_cons, Text.ended_append, ih, List.map_cons, String.join_cons, entryText,
        label, detail]
      simp [Text.ended, entryLines, String.append_assoc]

/-- A single line that names no test. -/
def Aside (line : String) : Prop :=
  Text.OneLine line ∧ ¬NamesTest line.toList

instance (line : String) : Decidable (Aside line) :=
  inferInstanceAs (Decidable (_ ∧ _))

/-- What follows a label does not make it the name of a test. -/
theorem Aside.append {label text : String} (aside : Aside label) (long : 7 ≤ label.toList.length)
    (single : Text.OneLine text) : Aside (label ++ text) := by
  refine ⟨aside.1.append single, ?_⟩
  -- The longer of the two beginnings has seven characters, so the label decides both.
  have within (mark : String) (short : mark.toList.length ≤ 7)
      (found : mark.toList <+: (label ++ text).toList) : mark.toList <+: label.toList := by
    rw [String.toList_append] at found
    exact List.prefix_of_prefix_length_le found (List.prefix_append _ _) (short.trans long)
  rintro (failed | erred)
  · exact aside.2 (.inl (within "FAIL: " (by decide) failed))
  · exact aside.2 (.inr (within "ERROR: " (by decide) erred))

theorem countLines_aside (summary : Summary) :
    ∀ line ∈ countLines summary ++ [verdict summary], Aside line := by
  have number (n : Nat) : Text.OneLine (toString n) := .ofNumeral (.natural n)
  have rate : Text.OneLine (percentage summary) :=
    (Text.OneLine.ofNumeral (.fixed _ _)).append (by decide)
  have last : Aside (verdict summary) := by
    unfold verdict
    split <;> decide
  have counted (label : String) (aside : Aside label ∧ 7 ≤ label.toList.length) (n : Nat) :
      Aside (label ++ toString n) :=
    aside.1.append aside.2 (number n)
  simp only [countLines, List.cons_append, List.nil_append, List.forall_mem_cons]
  exact ⟨by decide, by decide, by decide, counted _ (by decide) _, counted _ (by decide) _,
    counted _ (by decide) _, counted _ (by decide) _, .append (by decide) (by decide) rate,
    by decide, by decide, counted _ (by decide) _, counted _ (by decide) _, by decide, last,
    List.forall_mem_nil _⟩

/-- The last line of a text. -/
def lastLine (text : String) : Option String :=
  (Text.lines text.toList).getLast?.map String.ofList

/-- What is shown of the tests before the counts ends a line, whatever is in it. -/
theorem lastLine_console (summary : Summary) :
    lastLine (console summary) = some (verdict summary) := by
  have single := fun line member => (countLines_aside summary line member).1
  rw [lastLine, console_eq, ← Text.ended_append, String.toList_append,
    (Text.endsLine_ended _).lines_append, Text.lines_ended single]
  simp

/-- All that tells how a run ended tells whether the tests passed. -/
structure Agrees (result : RunResult) (passed : Prop) : Prop where
  exitCode : result.exitCode = 0 ↔ passed
  successful : result.summary.wasSuccessful = true ↔ passed
  ok : lastLine (console result.summary) = some "OK" ↔ passed
  failed : lastLine (console result.summary) = some "FAILED" ↔ ¬passed
  /-- The page is read as tags and texts. -/
  sections : ("Failures" ∉ headings (html result) ∧ "Errors" ∉ headings (html result)) ↔ passed
  /-- The page is searched as text. -/
  page : (Text.includes (html result) "<h2 class=\"failure\">Failures</h2>" = false ∧
    Text.includes (html result) "<h2 class=\"error\">Errors</h2>" = false) ↔ passed

theorem ofRecords_agrees (records : List Record) :
    Agrees (.ofRecords records) ((Summary.ofRecords records).wasSuccessful = true) := by
  obtain ⟨failures, errors⟩ := title_mem_headings_iff (.ofRecords records)
  obtain ⟨failuresText, errorsText⟩ := includes_headings_iff (.ofRecords records)
  have last : lastLine (console (Summary.ofRecords records)) =
      some (if (Summary.ofRecords records).wasSuccessful then "OK" else "FAILED") :=
    lastLine_console _
  constructor
  case exitCode =>
    rw [RunResult.exitCode, RunResult.ofRecords]
    cases (Summary.ofRecords records).wasSuccessful <;> decide
  case successful => rfl
  case ok =>
    rw [RunResult.ofRecords, last]
    cases (Summary.ofRecords records).wasSuccessful <;> decide
  case failed =>
    rw [RunResult.ofRecords, last]
    cases (Summary.ofRecords records).wasSuccessful <;> decide
  case sections =>
    rw [failures, errors, not_ne_iff, not_ne_iff, Summary.wasSuccessful_iff_no_entries]
    rfl
  case page =>
    rw [← Bool.not_eq_true, ← Bool.not_eq_true, failuresText, errorsText, not_ne_iff, not_ne_iff,
      Summary.wasSuccessful_iff_no_entries]
    rfl

theorem console_ofRecords (records : List Record) : console (Summary.ofRecords records) =
    String.join ((records.filter (·.outcome.isFailure)).map fun record =>
        entryText record.unitId record.outcome)
      ++ String.join ((records.filter (·.outcome.isError)).map fun record =>
        entryText record.unitId record.outcome)
      ++ Text.ended (countLines (.ofRecords records) ++ [verdict (.ofRecords records)]) := by
  have failures := congrArg (List.map fun shown => entryText shown.1 shown.2)
    (Summary.map_failures records)
  have errors := congrArg (List.map fun shown => entryText shown.1 shown.2)
    (Summary.map_errors records)
  simp only [List.map_map, Function.comp_def] at failures errors
  rw [console_eq, ended_entryLines "FAIL" .failure fun _ => ⟨rfl, rfl⟩, failures,
    ended_entryLines "ERROR" .error fun _ => ⟨rfl, rfl⟩, errors]

/-- All verdicts on a run are that every test passed, or all that one did not, whatever the names and
traces. And the console begins with what is shown of each test that failed, then of each that ended
in an error, in the order of the run and once each, for no line of what follows names a test. -/
theorem verdicts_agree (records : List Record) :
    let result := RunResult.ofRecords records
    Agrees result (∀ record ∈ records, record.outcome = .success) ∧
      ∃ rest, console result.summary =
          String.join ((records.filter (·.outcome.isFailure)).map fun record =>
              entryText record.unitId record.outcome)
            ++ String.join ((records.filter (·.outcome.isError)).map fun record =>
              entryText record.unitId record.outcome)
            ++ rest ∧
        ∀ line ∈ Text.lines rest.toList, ¬NamesTest line := by
  intro result
  have agrees := ofRecords_agrees records
  rw [Summary.wasSuccessful_iff] at agrees
  refine ⟨agrees, _, console_ofRecords records, ?_⟩
  have aside := countLines_aside (.ofRecords records)
  rw [Text.lines_ended fun line member => (aside line member).1, List.forall_mem_map]
  exact fun line member => (aside line member).2

end Report

end Rehearsal
