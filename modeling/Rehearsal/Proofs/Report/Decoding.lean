import Rehearsal.Proofs.Report.WebPage

/-! # Reading the web page

What the page shows of a result can be read off it again: the counts, the tests that failed, those
that ended in an error, and all tests. So results that differ in any of these have different pages.
-/

namespace Rehearsal.Report

/-- What the rest of a page holds, read from its end. A cell, a row or a section is complete where
its tag opens. -/
structure Outline where
  paragraphs : List String := []
  cell : String := ""
  row : List String := []
  rows : List (List String) := []
  sections : List (String × List (List String)) := []

namespace Outline

/-- What a page holds that goes on with this tag and text. Rows without cells are headers. -/
def put (piece : Piece) (below : Outline) : Outline :=
  match piece.name with
  | "p" => { below with paragraphs := piece.text :: below.paragraphs }
  | "h2" => { below with rows := [], sections := (piece.text, below.rows) :: below.sections }
  | "tr" =>
    { below with
      row := []
      rows := if below.row.isEmpty then below.rows else below.row :: below.rows }
  | "/tr" => { below with row := [] }
  | "td" => { below with cell := "", row := (piece.text ++ below.cell) :: below.row }
  | "/td" => { below with cell := "" }
  | "pre" | "/pre" => { below with cell := piece.text ++ below.cell }
  | _ => below

/-- What a page holds that goes on with a row. -/
def addRow (cells : List String) (below : Outline) : Outline :=
  { below with cell := "", row := [], rows := cells :: below.rows }

def ofPieces (pieces : List Piece) : Outline :=
  pieces.foldr put {}

/-- The rows below a title; none if there is no such section. -/
def table (outline : Outline) (title : String) : List (List String) :=
  (outline.sections.lookup title).getD []

end Outline

structure PageRow where
  unitId : String
  category : String
  status : String
  deriving Repr, DecidableEq

/-- What the page shows of a result. -/
structure Page where
  totalTests : Nat
  successes : Nat
  failureCount : Nat
  errorCount : Nat
  agentTests : Nat
  crewTests : Nat
  failures : List FaultEntry
  errors : List FaultEntry
  rows : List PageRow
  deriving Repr, DecidableEq

/-- The number that is all that stands after a label. -/
def numberAfter? (label text : String) : Option Nat :=
  let digits := text.toList.drop label.toList.length
  if label.toList.isPrefixOf text.toList && !digits.isEmpty && digits.all Char.isDigit then
    some (Nat.ofDigitChars 10 digits 0)
  else none

def faultOfCells? : List String → Option FaultEntry
  | [unitId, trace] => some ⟨unitId, trace⟩
  | _ => none

namespace PageRow

def ofCells? : List String → Option PageRow
  | [unitId, category, status, _] => some ⟨unitId, category, status⟩
  | _ => none

def ofRecord (record : Record) : PageRow :=
  ⟨record.unitId, record.category.label, record.outcome.label⟩

end PageRow

namespace Page

def ofResult (result : RunResult) : Page where
  totalTests := result.summary.totalTests
  successes := result.summary.successes
  failureCount := result.summary.failureCount
  errorCount := result.summary.errorCount
  agentTests := result.summary.agentTests
  crewTests := result.summary.crewTests
  failures := result.summary.failures
  errors := result.summary.errors
  rows := result.records.map PageRow.ofRecord

def ofOutline? (outline : Outline) : Option Page := do
  let [total, successes, failures, errors, _, agent, crew] := outline.paragraphs | none
  return {
    totalTests := ← numberAfter? "Total Tests: " total
    successes := ← numberAfter? "Successes: " successes
    failureCount := ← numberAfter? "Failures: " failures
    errorCount := ← numberAfter? "Errors: " errors
    agentTests := ← numberAfter? "Agent Tests: " agent
    crewTests := ← numberAfter? "Crew Tests: " crew
    failures := ← (outline.table "Failures").mapM faultOfCells?
    errors := ← (outline.table "Errors").mapM faultOfCells?
    rows := ← (outline.table "All Tests").mapM PageRow.ofCells? }

/-- What a document shows of a result. -/
def read (document : String) : Option Page :=
  (readMarkup document).bind fun pieces => ofOutline? (.ofPieces pieces)

end Page

theorem numberAfter?_label (label : String) (n : Nat) :
    numberAfter? label (label ++ toString n) = some n := by
  have digits : (label ++ toString n).toList.drop label.toList.length = Nat.toDigits 10 n := by
    simp
  have only : (Nat.toDigits 10 n).all Char.isDigit = true :=
    List.all_eq_true.mpr fun _ member => Nat.isDigit_of_mem_toDigits (by decide) (by decide) member
  unfold numberAfter?
  rw [digits]
  simp [only, Nat.toDigits_ne_nil]

def faultCells (entry : FaultEntry) : List String :=
  [entry.unitId, entry.trace]

def recordCells (record : Record) : List String :=
  [record.unitId, record.category.label, record.outcome.label,
    Decimal.fixed 3 record.duration.toSeconds ++ "s"]

namespace Outline

/-- The section with these rows; without rows there is none. -/
def listed (title : String) (rows : List (List String)) : List (String × List (List String)) :=
  if rows.isEmpty then [] else [(title, rows)]

theorem foldr_paragraph {tag label text : String}
    {closed : '<' ∉ tag.toList ∧ '>' ∉ tag.toList} (named : (Piece.mk tag "" closed).name = "p")
    (below : Outline) :
    (paragraph tag label text closed).foldr put below =
      { below with paragraphs := (label ++ text) :: below.paragraphs } := by
  have ending : put (.mk "/p" "\n") below = below := by rfl
  have opening : (Piece.mk tag (label ++ text) closed).name = "p" := named
  rw [paragraph, List.foldr_cons, List.foldr_cons, List.foldr_nil, ending, put, opening]
  rfl

theorem put_title {piece : Piece} (named : piece.name = "h2") (below : Outline) :
    put piece below =
      { below with rows := [], sections := (piece.text, below.rows) :: below.sections } := by
  rw [put, named]
  rfl

theorem put_tableEnd (closed : '<' ∉ "/table".toList ∧ '>' ∉ "/table".toList) (below : Outline) :
    put ⟨"/table", "\n", closed⟩ below = below := by
  have named : (Piece.mk "/table" "\n" closed).name = "/table" := by
    change String.ofList ("/table".toList.takeWhile (· ≠ ' ')) = "/table"
    decide
  rw [put, named]
  rfl

theorem foldr_faultPieces (entry : FaultEntry) (below : Outline) :
    (faultPieces entry).foldr put below = below.addRow (faultCells entry) := by
  simp [faultPieces, put, Piece.name, addRow, faultCells]

theorem foldr_recordPieces (record : Record) (below : Outline) :
    (recordPieces record).foldr put below = below.addRow (recordCells record) := by
  simp [recordPieces, put, Piece.name, addRow, recordCells]

section Tables

variable {paragraphs : List String} {sections : List (String × List (List String))}

theorem foldr_rows {α : Type} {pieces : α → List Piece} {cells : α → List String}
    (row : ∀ entry below, (pieces entry).foldr put below = below.addRow (cells entry))
    (entries : List α) :
    (entries.flatMap pieces).foldr put { paragraphs, sections } =
      { paragraphs, rows := entries.map cells, sections } := by
  induction entries with
  | nil => rfl
  | cons entry rest ih =>
      rw [List.flatMap_cons, List.foldr_append, ih, row]
      rfl

theorem foldr_faultTable (tag : String) {title : String}
    {closed : '<' ∉ tag.toList ∧ '>' ∉ tag.toList} (named : (Piece.mk tag title closed).name = "h2")
    (entries : List FaultEntry) :
    (faultTable tag title closed entries).foldr put { paragraphs, sections } =
      { paragraphs, sections := listed title (entries.map faultCells) ++ sections } := by
  have header (below : Outline) : faultHeader.foldr put below = { below with row := [] } := by rfl
  unfold faultTable
  cases entries with
  | nil => rfl
  | cons entry rest =>
      simp only [List.isEmpty_cons, Bool.false_eq_true, if_false, List.cons_append,
        List.foldr_cons, List.foldr_append, List.foldr_nil, put_tableEnd,
        foldr_rows foldr_faultPieces, header, put_title named]
      rfl

theorem foldr_recordTable (records : List Record) :
    (recordTable records).foldr put { paragraphs, sections } =
      { paragraphs, sections := ("All Tests", records.map recordCells) :: sections } := by
  have header (rows : List (List String)) :
      recordHeader.foldr put { paragraphs, rows, sections } =
        { paragraphs, sections := ("All Tests", rows) :: sections } := by rfl
  unfold recordTable
  simp only [List.foldr_cons, List.foldr_append, List.foldr_nil, put_tableEnd,
    foldr_rows foldr_recordPieces, header]

theorem foldr_countPieces (summary : Summary) :
    (countPieces summary).foldr put { paragraphs, sections } =
      { paragraphs :=
          ("Total Tests: " ++ toString summary.totalTests)
            :: ("Successes: " ++ toString summary.successes)
            :: ("Failures: " ++ toString summary.failureCount)
            :: ("Errors: " ++ toString summary.errorCount)
            :: ("Success Rate: " ++ percentage summary)
            :: ("Agent Tests: " ++ toString summary.agentTests)
            :: ("Crew Tests: " ++ toString summary.crewTests) :: paragraphs
        sections := ("Summary", []) :: sections } := by
  unfold countPieces
  simp (disch := decide) only [List.foldr_append, foldr_paragraph]
  rfl

end Tables

def ofResult (result : RunResult) : Outline where
  paragraphs := [
    "Total Tests: " ++ toString result.summary.totalTests,
    "Successes: " ++ toString result.summary.successes,
    "Failures: " ++ toString result.summary.failureCount,
    "Errors: " ++ toString result.summary.errorCount,
    "Success Rate: " ++ percentage result.summary,
    "Agent Tests: " ++ toString result.summary.agentTests,
    "Crew Tests: " ++ toString result.summary.crewTests]
  sections :=
    ("Summary", []) :: (listed "Failures" (result.summary.failures.map faultCells)
      ++ (listed "Errors" (result.summary.errors.map faultCells)
        ++ [("All Tests", result.records.map recordCells)]))

theorem ofPieces_page (result : RunResult) : ofPieces (pagePieces result) = ofResult result := by
  have closing : [.mk "/body" "\n", .mk "/html" "\n"].foldr put {} = {} := by rfl
  have opening (below : Outline) :
      [.mk "body" "\n", .mk "h1" "Crew Test Report", .mk "/h1" "\n"].foldr put below = below := by
    rfl
  have head (below : Outline) : headPieces.foldr put below = below := by rfl
  unfold ofPieces pagePieces
  simp only [List.foldr_append]
  rw [closing, foldr_recordTable, foldr_faultTable "h2 class=\"error\"" (by decide),
    foldr_faultTable "h2 class=\"failure\"" (by decide), foldr_countPieces, opening, head]
  rfl

/-- Each table is found below its title, with all its rows. -/
theorem table_ofResult (result : RunResult) :
    (ofResult result).table "Failures" = result.summary.failures.map faultCells ∧
      (ofResult result).table "Errors" = result.summary.errors.map faultCells ∧
      (ofResult result).table "All Tests" = result.records.map recordCells := by
  unfold table ofResult
  -- A table without rows was left out, and then there is nothing below its title.
  cases result.summary.failures <;> cases result.summary.errors <;>
    simp [listed, List.lookup_cons]

end Outline

namespace Page

theorem ofOutline?_ofResult (result : RunResult) :
    ofOutline? (.ofResult result) = some (ofResult result) := by
  obtain ⟨failures, errors, records⟩ := Outline.table_ofResult result
  have fault (entry : FaultEntry) : faultOfCells? (faultCells entry) = some (id entry) := rfl
  have row (record : Record) : PageRow.ofCells? (recordCells record) = some (.ofRecord record) :=
    rfl
  unfold ofOutline?
  rw [failures, errors, records]
  simp only [Outline.ofResult, numberAfter?_label, mapM_map_some fault, mapM_map_some row,
    List.map_id]
  rfl

theorem read_html (result : RunResult) : read (html result) = some (ofResult result) := by
  rw [read, html_eq, readMarkup_markup, Option.bind_some, Outline.ofPieces_page,
    ofOutline?_ofResult]

end Page

def tagsOf (document : String) : Option (List String) :=
  (readMarkup document).map (List.map Piece.tag)

/-- How many rows each table has. -/
def rowCounts (result : RunResult) : Nat × Nat × Nat :=
  (result.summary.failures.length, result.summary.errors.length, result.records.length)

/-- The tags of rows depend on their number alone. -/
theorem tags_rows {α : Type} {pieces : α → List Piece}
    (alike : ∀ entry other, (pieces entry).map Piece.tag = (pieces other).map Piece.tag)
    {entries others : List α} (same : entries.length = others.length) :
    (entries.flatMap pieces).map Piece.tag = (others.flatMap pieces).map Piece.tag := by
  induction entries generalizing others with
  | nil =>
      obtain rfl := List.length_eq_zero_iff.mp same.symm
      rfl
  | cons entry rest ih =>
      obtain ⟨other, more, rfl⟩ := List.exists_cons_of_length_eq_add_one same.symm
      rw [List.flatMap_cons, List.map_append, alike entry other, ih (Nat.succ.inj same),
        List.flatMap_cons, List.map_append]

theorem tags_faultTable (tag title : String) {closed : '<' ∉ tag.toList ∧ '>' ∉ tag.toList}
    {entries others : List FaultEntry} (same : entries.length = others.length) :
    (faultTable tag title closed entries).map Piece.tag =
      (faultTable tag title closed others).map Piece.tag := by
  have empty : entries.isEmpty = others.isEmpty := by
    rw [Bool.eq_iff_iff, List.isEmpty_iff_length_eq_zero, List.isEmpty_iff_length_eq_zero, same]
  have alike (entry other : FaultEntry) :
      (faultPieces entry).map Piece.tag = (faultPieces other).map Piece.tag := rfl
  unfold faultTable
  rw [empty]
  split
  · rfl
  · simp only [List.map_append, tags_rows alike same]

theorem tags_recordTable {records others : List Record} (same : records.length = others.length) :
    (recordTable records).map Piece.tag = (recordTable others).map Piece.tag := by
  have alike (record other : Record) :
      (recordPieces record).map Piece.tag = (recordPieces other).map Piece.tag := rfl
  unfold recordTable
  simp only [List.map_append, tags_rows alike same]

theorem tagsOf_html (result : RunResult) :
    tagsOf (html result) = some ((pagePieces result).map Piece.tag) := by
  rw [tagsOf, html_eq, readMarkup_markup, Option.map_some]

/-- The counts, failures, errors and tests of a result can be read off its page, so results that
differ in any of these have different pages; and the tags of the page depend on the numbers of its
rows alone, whatever the texts in them are. -/
theorem html_faithful (result other : RunResult) :
    Page.read (html result) = some (Page.ofResult result) ∧
      (html result = html other → Page.ofResult result = Page.ofResult other) ∧
      (rowCounts result = rowCounts other → tagsOf (html result) = tagsOf (html other)) := by
  refine ⟨Page.read_html result, fun same => ?_, fun same => ?_⟩
  · have read := Page.read_html result
    rw [same, Page.read_html other] at read
    exact (Option.some_inj.mp read).symm
  · obtain ⟨failures, errors, records⟩ : _ ∧ _ ∧ _ := by
      simpa only [rowCounts, Prod.mk.injEq] using same
    have counts : (countPieces result.summary).map Piece.tag =
        (countPieces other.summary).map Piece.tag := rfl
    rw [tagsOf_html, tagsOf_html]
    unfold pagePieces
    simp only [List.map_append, counts, tags_faultTable _ _ failures, tags_faultTable _ _ errors,
      tags_recordTable records]

end Rehearsal.Report
