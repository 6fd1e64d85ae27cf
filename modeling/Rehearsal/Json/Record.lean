import Rehearsal.Json.Skip

/-! # Reading records

A record is written as an object with known members in any order, or as the list of its members
in the order of their declaration. A member is read once; one that is absent keeps what the blank
record has, unless it is required.
-/

namespace Rehearsal.Json

/-- What the absence of a member means. -/
inductive Absence where
  /-- The record cannot be read. -/
  | required
  /-- The member is blank, but a list of members must hold it. -/
  | nullable
  /-- The member is blank. -/
  | optional
  deriving Repr, DecidableEq

structure Field (ρ : Type) where
  name : String
  absence : Absence
  read : Reader (ρ → ρ)

namespace Field

variable {ρ α : Type}

/-- A member that is read by `reader` and entered by `enter`. -/
def of (absence : Absence) (name : String) (reader : Reader α) (enter : ρ → α → ρ) : Field ρ :=
  ⟨name, absence, do
    let a ← reader
    pure fun record => enter record a⟩

/-- A member that must be present. -/
def required (name : String) (reader : Reader α) (enter : ρ → α → ρ) : Field ρ :=
  of .required name reader enter

/-- A member that may be absent. -/
def optional (name : String) (reader : Reader α) (enter : ρ → α → ρ) : Field ρ :=
  of .optional name reader enter

end Field

def elementCount (n : Nat) : String :=
  if n = 1 then "1 element" else toString n ++ " elements"

/-- A kind of record: its title in messages, its members, whether other members are refused, the
    record before any member is read, and a last check of the whole. -/
structure RecordType (ρ : Type) where
  title : String
  fields : List (Field ρ)
  blank : ρ
  closed : Bool := false
  shape : String := title ++ " with " ++ elementCount fields.length
  check : ρ → Except Reason ρ := .ok

namespace RecordType

variable {ρ : Type}

def names (type : RecordType ρ) : List String :=
  type.fields.map (·.name)

/-- The first required member that was not read. -/
def missing? (type : RecordType ρ) (seen : List String) : Option String :=
  (type.fields.find? fun field => field.absence == .required && !seen.contains field.name).map
    (·.name)

/-- The record after its last member. -/
def finish (type : RecordType ρ) (record : ρ) (c : Cursor) : Except Fault (ρ × Cursor) :=
  match type.check record with
  | .ok record => .ok (record, c)
  | .error reason => Reader.failPending reason c

def members (type : RecordType ρ) : Nat → Bool → List String → ρ → Reader ρ
  | 0, _, _, _, _, c => Reader.failAt .endInObject c.position
  | fuel + 1, first, seen, record, depth, c =>
    match Reader.nextKey first c with
    | .error fault => .error fault
    | .ok (none, c) =>
      match type.missing? seen with
      | some name => Reader.failPending (.missingField name) c
      | none => type.finish record c
    | .ok (some name, c) =>
      match type.fields.find? (·.name == name) with
      | some field =>
        if seen.contains name then Reader.failPending (.duplicateField name) c
        else
          match Reader.colon c with
          | .error fault => .error fault
          | .ok c =>
            match field.read depth c with
            | .error fault => .error fault
            | .ok (enter, c) => members type fuel false (name :: seen) (enter record) depth c
      | none =>
        if type.closed then Reader.failPending (.unknownField name type.names) c
        else
          match Reader.colon c with
          | .error fault => .error fault
          | .ok c =>
            match Reader.skip depth c with
            | .error fault => .error fault
            | .ok (_, c) => members type fuel false seen record depth c

/-- Reads the items of a list into the given members of a record, of which the first has the
    given index. -/
def items (type : RecordType ρ) : List (Field ρ) → Nat → ρ → Reader ρ
  | [], _, record, _, c => type.finish record c
  | field :: rest, index, record, depth, c =>
    match Reader.nextItem (index == 0) c with
    | .error fault => .error fault
    | .ok (none, c) =>
      if field.absence == .optional then items type rest (index + 1) record depth c
      else Reader.failPending (.wrongLength index type.shape) c
    | .ok (some c, _) =>
      match field.read depth c with
      | .error fault => .error fault
      | .ok (enter, c) => items type rest (index + 1) (enter record) depth c

def reader (type : RecordType ρ) : Reader ρ := fun depth c =>
  let c := c.skipBlanks
  match c.rest with
  | [] => Reader.failAt .endInValue c.next
  | '[' :: _ => Reader.enclosed .square (type.items type.fields 0 type.blank) depth c
  | '\x7b' :: _ =>
    Reader.enclosed .curly (type.members (c.rest.length + 1) true [] type.blank) depth c
  | _ :: _ => .error (Reader.unexpected type.title c)

end RecordType

namespace Reader

variable {α : Type}

/-- Refuses a value of any kind. Brackets are closed before the fault is placed. -/
def refused (expected : String) : Reader α := fun depth c =>
  let c := c.skipBlanks
  match c.rest with
  | '[' :: _ => enclosed .square (fun _ c => failPending (.wrongType .list expected) c) depth c
  | '\x7b' :: _ =>
    enclosed .curly (fun _ c => failPending (.wrongType .object expected) c) depth c
  | _ => .error (unexpected expected c)

/-- Null where nothing else may stand. -/
def nullOnly (expected : String) : Reader Unit := fun depth c =>
  let c := c.skipBlanks
  match c.rest with
  | 'n' :: _ => (word ['u', 'l', 'l'] c.advance).map (((), ·))
  | _ => refused expected depth c

end Reader

end Rehearsal.Json
