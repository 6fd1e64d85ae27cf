import Rehearsal.Proofs.Report.Markup

/-! # The web page as markup

The page is written of tags and texts that are told from the result one by one. All else that is
said about it is said about these.
-/

namespace Rehearsal.Report

/-- The page up to its look. -/
def titlePieces : List Piece := [
  .mk "!DOCTYPE html" "\n", .mk "html" "\n", .mk "head" "\n", .mk "meta charset=\"utf-8\"" "\n",
  .mk "title" "Crew Test Report", .mk "/title" "\n"]

def headPieces : List Piece :=
  titlePieces ++ .mk "style" ("\n" ++ style) :: [.mk "/style" "\n", .mk "/head" "\n"]

/-- A line of text after a label. -/
def paragraph (tag label text : String)
    (closed : '<' ∉ tag.toList ∧ '>' ∉ tag.toList := by decide +kernel) : List Piece :=
  [⟨tag, label ++ text, closed⟩, .mk "/p" "\n"]

def countPieces (summary : Summary) : List Piece :=
  [.mk "div class=\"summary\"" "\n", .mk "h2" "Summary", .mk "/h2" "\n"]
    ++ paragraph "p" "Total Tests: " (toString summary.totalTests)
    ++ paragraph "p class=\"success\"" "Successes: " (toString summary.successes)
    ++ paragraph "p class=\"failure\"" "Failures: " (toString summary.failureCount)
    ++ paragraph "p class=\"error\"" "Errors: " (toString summary.errorCount)
    ++ paragraph "p" "Success Rate: " (percentage summary)
    ++ [.mk "h3" "Test Categories", .mk "/h3" "\n"]
    ++ paragraph "p" "Agent Tests: " (toString summary.agentTests)
    ++ paragraph "p" "Crew Tests: " (toString summary.crewTests)
    ++ [.mk "/div" "\n"]

def faultPieces (entry : FaultEntry) : List Piece := [
  .mk "tr" "", .mk "td" entry.unitId, .mk "/td" "", .mk "td" "", .mk "pre" entry.trace,
  .mk "/pre" "", .mk "/td" "", .mk "/tr" "\n"]

def faultHeader : List Piece := [
  .mk "/h2" "\n", .mk "table" "\n", .mk "tr" "", .mk "th" "Test", .mk "/th" "", .mk "th" "Trace",
  .mk "/th" "", .mk "/tr" "\n"]

def faultTable (tag title : String) (closed : '<' ∉ tag.toList ∧ '>' ∉ tag.toList)
    (entries : List FaultEntry) : List Piece :=
  if entries.isEmpty then []
  else ⟨tag, title, closed⟩ :: faultHeader ++ entries.flatMap faultPieces ++ [.mk "/table" "\n"]

def recordPieces (record : Record) : List Piece := [
  .mk "tr" "", .mk "td" record.unitId, .mk "/td" "", .mk "td" record.category.label, .mk "/td" "",
  .mk "td" record.outcome.label, .mk "/td" "",
  .mk "td" (Decimal.fixed 3 record.duration.toSeconds ++ "s"), .mk "/td" "", .mk "/tr" "\n"]

def recordHeader : List Piece := [
  .mk "h2" "All Tests", .mk "/h2" "\n", .mk "table" "\n", .mk "tr" "", .mk "th" "Test",
  .mk "/th" "", .mk "th" "Category", .mk "/th" "", .mk "th" "Status", .mk "/th" "",
  .mk "th" "Duration", .mk "/th" "", .mk "/tr" "\n"]

def recordTable (records : List Record) : List Piece :=
  recordHeader ++ records.flatMap recordPieces ++ [.mk "/table" "\n"]

def pagePieces (result : RunResult) : List Piece :=
  headPieces ++ [.mk "body" "\n", .mk "h1" "Crew Test Report", .mk "/h1" "\n"]
    ++ countPieces result.summary
    ++ faultTable "h2 class=\"failure\"" "Failures" (by decide) result.summary.failures
    ++ faultTable "h2 class=\"error\"" "Errors" (by decide) result.summary.errors
    ++ recordTable result.records
    ++ [.mk "/body" "\n", .mk "/html" "\n"]

set_option maxRecDepth 4000 in
theorem plain_style : Plain style := by
  unfold style
  exact Plain.of_all (by decide +kernel)

theorem plain_percentage (summary : Summary) : Plain (percentage summary) :=
  (Plain.fixed _ _).append (by decide)

theorem plain_categoryLabel (category : Category) : Plain category.label := by
  cases category <;> decide

theorem plain_outcomeLabel (outcome : Outcome) : Plain outcome.label := by
  cases outcome with
  | success => exact (by decide : Plain "ok")
  | failure => exact (by decide : Plain "FAIL")
  | error => exact (by decide : Plain "ERROR")

theorem markup_paragraph {tag label text : String} (opening : String)
    {closed : '<' ∉ tag.toList ∧ '>' ∉ tag.toList} (same : opening = "<" ++ tag ++ ">" ++ label)
    (plainLabel : Plain label) (plainText : Plain text) :
    markup (paragraph tag label text closed) = opening ++ text ++ "</p>\n" := by
  have ending : markup [.mk "/p" "\n"] = "</p>\n" := by rfl
  rw [paragraph, markup_cons, ending, escape_append, plainLabel.escape_eq, plainText.escape_eq,
    same]
  simp only [String.append_assoc]

/-! The literals that the page is put together from hold several tags each, so they are taken apart
where a tag or a text that varies begins. -/

theorem pageHead_eq : pageHead = markup headPieces := by
  have opening :
    "<!DOCTYPE html>\n<html>\n<head>\n<meta charset=\"utf-8\">\n<title>Crew Test Report</title>\n" =
      markup titlePieces := by rfl
  have look : "<style>\n" = "<" ++ "style" ++ ">" ++ escape "\n" := by rfl
  have closing : "</style>\n</head>\n" = markup [.mk "/style" "\n", .mk "/head" "\n"] := by rfl
  unfold pageHead headPieces
  rw [markup_append, markup_cons, escape_append, plain_style.escape_eq, opening, look, closing]
  simp only [String.append_assoc]

theorem countSection_eq (summary : Summary) :
    countSection summary = markup (countPieces summary) := by
  have opening : markup [.mk "div class=\"summary\"" "\n", .mk "h2" "Summary", .mk "/h2" "\n"] =
      "<div class=\"summary\">\n<h2>Summary</h2>\n" := by rfl
  have between : markup [.mk "h3" "Test Categories", .mk "/h3" "\n"] =
      "<h3>Test Categories</h3>\n" := by rfl
  have closing : markup [.mk "/div" "\n"] = "</div>\n" := by rfl
  unfold countSection countPieces
  simp only [markup_append]
  rw [opening, between, closing,
    markup_paragraph "<p>Total Tests: " rfl (by decide) (.natural _),
    markup_paragraph "<p class=\"success\">Successes: " rfl (by decide) (.natural _),
    markup_paragraph "<p class=\"failure\">Failures: " rfl (by decide) (.natural _),
    markup_paragraph "<p class=\"error\">Errors: " rfl (by decide) (.natural _),
    markup_paragraph "<p>Success Rate: " rfl (by decide) (plain_percentage summary),
    markup_paragraph "<p>Agent Tests: " rfl (by decide) (.natural _),
    markup_paragraph "<p>Crew Tests: " rfl (by decide) (.natural _)]
  simp only [String.append_assoc]

theorem faultRow_eq (entry : FaultEntry) : faultRow entry = markup (faultPieces entry) := by
  have first : "<tr><td>" = "<tr>" ++ "<td>" := by rfl
  have second : "</td><td><pre>" = "</td>" ++ "<td>" ++ "<pre>" := by rfl
  unfold faultRow faultPieces
  simp (disch := decide) only [markup_cons, markup_nil, Plain.escape_eq, String.reduceAppend,
    String.append_empty]
  simp only [first, second, String.append_assoc]

theorem recordRow_eq (record : Record) : recordRow record = markup (recordPieces record) := by
  have first : "<tr><td>" = "<tr>" ++ "<td>" := by rfl
  have next : "</td><td>" = "</td>" ++ "<td>" := by rfl
  have last : "s</td></tr>\n" = "s" ++ "</td></tr>\n" := by rfl
  unfold recordRow recordPieces
  simp only [markup_cons, markup_nil, escape_append,
    (plain_categoryLabel record.category).escape_eq,
    (plain_outcomeLabel record.outcome).escape_eq, (Plain.fixed _ _).escape_eq]
  simp (disch := decide) only [Plain.escape_eq, String.reduceAppend, String.append_empty]
  simp only [first, next, last, String.append_assoc]

theorem markup_tableEnd : markup [.mk "/table" "\n"] = "</table>\n" := by rfl

theorem faultSection_eq (tag : String) {title kind : String}
    (closed : '<' ∉ tag.toList ∧ '>' ∉ tag.toList) (same : tag = "h2 class=\"" ++ kind ++ "\"")
    (plain : Plain title) (entries : List FaultEntry) :
    faultSection title kind entries = markup (faultTable tag title closed entries) := by
  have opening : "<h2 class=\"" = "<" ++ "h2 class=\"" := by rfl
  have between : "\">" = "\"" ++ ">" := by rfl
  have header : markup faultHeader =
      "</h2>\n" ++ "<table>\n<tr><th>Test</th><th>Trace</th></tr>\n" := by rfl
  unfold faultSection faultTable
  cases entries.isEmpty with
  | true => rfl
  | false =>
      rw [if_neg Bool.false_ne_true, if_neg Bool.false_ne_true, List.cons_append, List.cons_append,
        markup_cons, plain.escape_eq, opening, between]
      simp only [markup_append, markup_flatMap, markup_tableEnd, ← faultRow_eq, header, same,
        String.append_assoc]

theorem recordSection_eq (records : List Record) :
    recordSection records = markup (recordTable records) := by
  have header : markup recordHeader = "<h2>All Tests</h2>\n<table>\n" ++
      "<tr><th>Test</th><th>Category</th><th>Status</th><th>Duration</th></tr>\n" := by rfl
  unfold recordSection recordTable
  simp only [markup_append, markup_flatMap, markup_tableEnd, ← recordRow_eq, header,
    String.append_assoc]

theorem html_eq (result : RunResult) : html result = markup (pagePieces result) := by
  have opening : "<body>\n<h1>Crew Test Report</h1>\n" =
      markup [.mk "body" "\n", .mk "h1" "Crew Test Report", .mk "/h1" "\n"] := by rfl
  have closing : "</body>\n</html>\n" = markup [.mk "/body" "\n", .mk "/html" "\n"] := by rfl
  have failures (entries : List FaultEntry) : faultSection "Failures" "failure" entries = _ :=
    faultSection_eq "h2 class=\"failure\"" (by decide) rfl (by decide) entries
  have errors (entries : List FaultEntry) : faultSection "Errors" "error" entries = _ :=
    faultSection_eq "h2 class=\"error\"" (by decide) rfl (by decide) entries
  unfold html pagePieces
  rw [pageHead_eq, opening, countSection_eq, failures, errors, recordSection_eq, closing]
  simp only [markup_append]

end Rehearsal.Report
