import Rehearsal.Json.Codec
import Rehearsal.Json.Decoder
import Rehearsal.Json.Record
import Rehearsal.Result.Summary

/-! # Records and summaries as JSON -/

namespace Rehearsal

open Json (Value RecordType Field Reader Decoder Reason Cursor)

namespace Category

/-- The names of the categories in data. -/
def names : List (String × Category) :=
  [("agent_test", .agent), ("crew_test", .crew), ("other", .other)]

def reader : Reader Category :=
  Reader.choice (Reader.variantOf names)

def toJson : Category → Value
  | agent => .text "agent_test"
  | crew => .text "crew_test"
  | other => .text "other"

instance : Json.Codec Category := ⟨reader, toJson⟩

end Category

namespace Outcome

def title : String := "adjacently tagged enum Outcome"

inductive Status where
  | success
  | failure
  | error
  deriving Repr, DecidableEq

/-- Reads the kind of an outcome. -/
def statusReader : Reader Status :=
  Reader.choice (Reader.variantOf [("success", .success), ("failure", .failure), ("error", .error)])

/-- A success as messages name it. -/
def successTitle : String := "unit variant Outcome::Success"

/-- Reads what goes with a kind. -/
def detailReader : Status → Reader Outcome
  | .success => do
    Reader.nullOnly successTitle
    pure Outcome.success
  | .failure => do
    let detail ← Reader.text
    pure (Outcome.failure detail)
  | .error => do
    let detail ← Reader.text
    pure (Outcome.error detail)

/-- What goes with a kind, from a value that stood before the kind. -/
def ofDetail : Status → Decoder Outcome
  | .success, .null => .ok .success
  | .success, v => Decoder.unexpected successTitle v
  | .failure, v => (Decoder.text v).map failure
  | .error, v => (Decoder.text v).map error

/-- Goes to the next of the two members and passes over all others. -/
def nextMember : Nat → Bool → (depth : Nat) → Cursor → Except Json.Fault (Option String × Cursor)
  | 0, _, _, c => Reader.failAt .endInObject c.position
  | fuel + 1, first, depth, c => do
    match ← Reader.nextKey first c with
    | (none, c) => .ok (none, c)
    | (some name, c) =>
      if name == "status" || name == "detail" then .ok (some name, c)
      else
        let (_, c) ← Reader.skip depth (← Reader.colon c)
        nextMember fuel false depth c

/-- The outcome when no member may follow. -/
def last (outcome : Outcome) (depth : Nat) (c : Cursor) : Except Json.Fault (Outcome × Cursor) := do
  match ← nextMember (c.rest.length + 1) false depth c with
  | (none, c) => .ok (outcome, c)
  | (some name, c) => Reader.failPending (.duplicateField name) c

/-- Reads an outcome whose kind stands first. -/
def afterStatus (depth : Nat) (c : Cursor) : Except Json.Fault (Outcome × Cursor) := do
  let (status, c) ← statusReader depth (← Reader.colon c)
  match ← nextMember (c.rest.length + 1) false depth c with
  | (none, c) =>
    if status = .success then .ok (.success, c) else Reader.failPending (.missingField "detail") c
  | (some name, c) =>
    if name == "status" then Reader.failPending (.duplicateField name) c
    else
      let (outcome, c) ← detailReader status depth (← Reader.colon c)
      last outcome depth c

/-- Reads an outcome whose kind stands second. -/
def afterDetail (depth : Nat) (c : Cursor) : Except Json.Fault (Outcome × Cursor) := do
  let (detail, c) ← Reader.tree depth (← Reader.colon c)
  match ← nextMember (c.rest.length + 1) false depth c with
  | (none, c) => Reader.failPending (.missingField "status") c
  | (some name, c) =>
    if name == "detail" then Reader.failPending (.duplicateField name) c
    else
      let (status, c) ← statusReader depth (← Reader.colon c)
      match ofDetail status detail with
      | .ok outcome => last outcome depth c
      | .error reason => Reader.failPending reason c

def members : Reader Outcome := fun depth c => do
  match ← nextMember (c.rest.length + 1) true depth c with
  | (none, c) => Reader.failPending (.missingField "status") c
  | (some name, c) => if name == "status" then afterStatus depth c else afterDetail depth c

def items : Reader Outcome := fun depth c => do
  match ← Reader.nextItem true c with
  | (none, c) => Reader.failPending (.wrongLength 0 title) c
  | (some c, _) =>
    let (status, c) ← statusReader depth c
    match ← Reader.nextItem false c with
    | (none, c) => Reader.failPending (.wrongLength 1 title) c
    | (some c, _) => detailReader status depth c

def reader : Reader Outcome := fun depth c =>
  let c := c.skipBlanks
  match c.rest with
  | [] => Reader.failAt .endInValue c.next
  | '[' :: _ => Reader.enclosed .square items depth c
  | '\x7b' :: _ => Reader.enclosed .curly members depth c
  | _ :: _ => .error (Reader.unexpected title c)

def toJson : Outcome → Value
  | success => .object [("status", .text "success")]
  | failure detail => .object [("status", .text "failure"), ("detail", .text detail)]
  | error detail => .object [("status", .text "error"), ("detail", .text detail)]

instance : Json.Codec Outcome := ⟨reader, toJson⟩

end Outcome

namespace Duration

/-- How a span of time is read. Nanoseconds of a second and more are carried over. -/
def type : RecordType Duration where
  title := "struct Duration"
  shape := "struct Duration"
  closed := true
  blank := .zero
  fields := [
    .required "secs" (Reader.natural "u64" Reader.maxWord) fun d x => { d with seconds := x },
    .required "nanos" (Reader.natural "u32" (Nat.pow 2 32 - 1)) fun d x =>
      { d with nanoseconds := x }]
  check d :=
    let seconds := d.seconds + d.nanoseconds / perSecond
    if Reader.maxWord < seconds then .error (.unreadable "overflow deserializing Duration")
    else .ok ⟨seconds, d.nanoseconds % perSecond⟩

def toJson (d : Duration) : Value :=
  .object [("secs", .ofNat d.seconds), ("nanos", .ofNat d.nanoseconds)]

end Duration

namespace Timestamp

/-- Reads a point in time. -/
def reader : Reader Timestamp :=
  Reader.textOf "an RFC 3339 formatted date and time string" fun text =>
    (parse text).mapError fun problem => .unreadable problem.message

end Timestamp

namespace Record

def type : RecordType Record where
  title := "struct ResultRecord"
  blank := ⟨"", .other, .success, none, .epoch, .zero⟩
  fields := [
    .required "unit_id" Reader.text fun record x => { record with unitId := x },
    .required "category" Category.reader fun record x => { record with category := x },
    .required "outcome" Outcome.reader fun record x => { record with outcome := x },
    .of .nullable "teardown_fault" (Reader.optional Reader.text) fun record x =>
      { record with teardownFault := x },
    .required "timestamp" Timestamp.reader fun record x => { record with timestamp := x },
    .required "duration" Duration.type.reader fun record x => { record with duration := x }]

def toJson (record : Record) : Value :=
  .object [
    ("unit_id", .text record.unitId),
    ("category", record.category.toJson),
    ("outcome", record.outcome.toJson),
    ("teardown_fault", .ofText? record.teardownFault),
    ("timestamp", .text record.timestamp.render),
    ("duration", record.duration.toJson)]

instance : Json.Codec Record := ⟨type.reader, toJson⟩

end Record

namespace FaultEntry

def type : RecordType FaultEntry where
  title := "struct FaultEntry"
  blank := ⟨"", ""⟩
  fields := [
    .required "unit_id" Reader.text fun entry x => { entry with unitId := x },
    .required "trace" Reader.text fun entry x => { entry with trace := x }]

def toJson (entry : FaultEntry) : Value :=
  .object [("unit_id", .text entry.unitId), ("trace", .text entry.trace)]

instance : Json.Codec FaultEntry := ⟨type.reader, toJson⟩

end FaultEntry

namespace Summary

def type : RecordType Summary where
  title := "struct ResultSummary"
  blank := .ofRecords []
  fields := [
    .required "total_tests" Reader.count fun summary x => { summary with totalTests := x },
    .required "successes" Reader.count fun summary x => { summary with successes := x },
    .required "failure_count" Reader.count fun summary x => { summary with failureCount := x },
    .required "error_count" Reader.count fun summary x => { summary with errorCount := x },
    .required "agent_tests" Reader.count fun summary x => { summary with agentTests := x },
    .required "crew_tests" Reader.count fun summary x => { summary with crewTests := x },
    .required "success_rate" Reader.float fun summary x => { summary with successRate := x },
    .required "failures" (Reader.list FaultEntry.type.reader) fun summary x =>
      { summary with failures := x },
    .required "errors" (Reader.list FaultEntry.type.reader) fun summary x =>
      { summary with errors := x }]

def toJson (summary : Summary) : Value :=
  .object [
    ("total_tests", .ofNat summary.totalTests),
    ("successes", .ofNat summary.successes),
    ("failure_count", .ofNat summary.failureCount),
    ("error_count", .ofNat summary.errorCount),
    ("agent_tests", .ofNat summary.agentTests),
    ("crew_tests", .ofNat summary.crewTests),
    ("success_rate", .ofFloat summary.successRate),
    ("failures", .list (summary.failures.map FaultEntry.toJson)),
    ("errors", .list (summary.errors.map FaultEntry.toJson))]

instance : Json.Codec Summary := ⟨type.reader, toJson⟩

end Summary

namespace RunResult

def type : RecordType RunResult where
  title := "struct RunResult"
  blank := .ofRecords []
  fields := [
    .required "records" (Reader.list Record.type.reader) fun result x =>
      { result with records := x },
    .required "summary" Summary.type.reader fun result x => { result with summary := x }]

def toJson (result : RunResult) : Value :=
  .object [
    ("records", .list (result.records.map Record.toJson)),
    ("summary", result.summary.toJson)]

instance : Json.Codec RunResult := ⟨type.reader, toJson⟩

end RunResult

end Rehearsal
