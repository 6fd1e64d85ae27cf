import Rehearsal.Json.Value

/-! # What can be wrong with a JSON text

The reasons why a text is not JSON, or is JSON but not a value of the type that is read, with
their wording, and the place in the text to which a fault is ascribed.
-/

namespace Rehearsal.Json

inductive Found where
  | bool (b : Bool)
  | natural (n : Nat)
  | negative (n : Int)
  | real (x : Float)
  | text (s : String)
  | null
  | list
  | object
  deriving Repr

namespace Found

def ofNumber : Number → Found
  | .natural n => natural n
  | .negative n => negative n
  | .real x => real x

def ofValue : Value → Found
  | .null => null
  | .bool b => bool b
  | .number n => ofNumber n
  | .text s => text s
  | .list _ => list
  | .object _ => object

def message : Found → String
  | bool b => "boolean `" ++ toString b ++ "`"
  | natural n => "integer `" ++ toString n ++ "`"
  | negative n => "integer `" ++ toString n ++ "`"
  | real x => "floating point `" ++ Decimal.data x ++ "`"
  | text s => "string " ++ Text.quoted s
  | null => "null"
  | list => "sequence"
  | object => "map"

end Found

/-- A choice of names, in words. -/
def oneOf : List String → String
  | [] => ""
  | [one] => "`" ++ one ++ "`"
  | [one, other] => "`" ++ one ++ "` or `" ++ other ++ "`"
  | names => "one of " ++ ", ".intercalate (names.map fun name => "`" ++ name ++ "`")

inductive Reason where
  | endInList
  | endInObject
  | endInString
  | endInValue
  | expectedColon
  | expectedListEnd
  | expectedObjectEnd
  | expectedWord
  | expectedValue
  | invalidEscape
  | invalidNumber
  | numberOutOfRange
  | controlCharacter
  | keyNotText
  | loneSurrogate
  | halfSurrogatePair
  | trailingComma
  | trailingText
  | tooDeep
  | wrongType (found : Found) (expected : String)
  | wrongValue (found : Found) (expected : String)
  | wrongLength (length : Nat) (expected : String)
  | unknownVariant (name : String) (known : List String)
  | unknownField (name : String) (known : List String)
  | missingField (name : String)
  | duplicateField (name : String)
  | unreadable (problem : String)
  deriving Repr

namespace Reason

def message : Reason → String
  | endInList => "EOF while parsing a list"
  | endInObject => "EOF while parsing an object"
  | endInString => "EOF while parsing a string"
  | endInValue => "EOF while parsing a value"
  | expectedColon => "expected `:`"
  | expectedListEnd => "expected `,` or `]`"
  | expectedObjectEnd => "expected `,` or `\x7d`"
  | expectedWord => "expected ident"
  | expectedValue => "expected value"
  | invalidEscape => "invalid escape"
  | invalidNumber => "invalid number"
  | numberOutOfRange => "number out of range"
  | controlCharacter => "control character (\\u0000-\\u001F) found while parsing a string"
  | keyNotText => "key must be a string"
  | loneSurrogate => "lone leading surrogate in hex escape"
  | halfSurrogatePair => "unexpected end of hex escape"
  | trailingComma => "trailing comma"
  | trailingText => "trailing characters"
  | tooDeep => "recursion limit exceeded"
  | wrongType found expected => "invalid type: " ++ found.message ++ ", expected " ++ expected
  | wrongValue found expected => "invalid value: " ++ found.message ++ ", expected " ++ expected
  | wrongLength length expected =>
    "invalid length " ++ toString length ++ ", expected " ++ expected
  | unknownVariant name known =>
    "unknown variant `" ++ name ++ "`, expected " ++ oneOf known
  | unknownField name known => "unknown field `" ++ name ++ "`, expected " ++ oneOf known
  | missingField name => "missing field `" ++ name ++ "`"
  | duplicateField name => "duplicate field `" ++ name ++ "`"
  | unreadable problem => problem

end Reason

/-- A place in a text: lines count from one, columns in bytes from the start of the line. -/
structure Position where
  line : Nat
  column : Nat
  deriving Repr, DecidableEq

namespace Position

def start : Position := ⟨1, 0⟩

/-- The place after a character that stands at this one. -/
def after (p : Position) (c : Char) : Position :=
  if c = '\n' then ⟨p.line + 1, 0⟩ else ⟨p.line, p.column + c.utf8Size⟩

end Position

/-- What is left of a text, and where it starts. -/
structure Cursor where
  rest : List Char
  position : Position
  deriving Repr, DecidableEq

namespace Cursor

def ofText (text : String) : Cursor := ⟨text.toList, .start⟩

def advance (c : Cursor) : Cursor :=
  match c.rest with
  | [] => c
  | x :: rest => ⟨rest, c.position.after x⟩

/-- The place just after the next byte. -/
def next (c : Cursor) : Position :=
  match c.rest with
  | [] => c.position
  | '\n' :: _ => ⟨c.position.line + 1, 0⟩
  | _ :: _ => ⟨c.position.line, c.position.column + 1⟩

/-- Passes over characters of the text that are known to stand on one line, one byte each. -/
def drop (c : Cursor) (count : Nat) : Cursor :=
  ⟨c.rest.drop count, ⟨c.position.line, c.position.column + count⟩⟩

/-- Passes over the blanks that may stand between the parts of a JSON text. -/
def skipBlanks (c : Cursor) : Cursor :=
  go c.rest c.position
where
  /-- `skipBlanks` on the two parts of a cursor. -/
  go : List Char → Position → Cursor
    | [], p => ⟨[], p⟩
    | x :: rest, p =>
      if x == ' ' || x == '\n' || x == '\t' || x == '\r' then go rest (p.after x)
      else ⟨x :: rest, p⟩

end Cursor

/-- Where a fault is ascribed to. A fault in the meaning of a value is `pending` until the
    brackets around the value are closed; it is then ascribed to the place reached. -/
inductive Place where
  | known (position : Position)
  | pending (cursor : Cursor)
  deriving Repr

/-- Why reading stopped, and where. -/
structure Fault where
  reason : Reason
  place : Place
  deriving Repr

/-- A fault as it is reported; those in the meaning of a whole text may have no place. -/
structure Error where
  reason : Reason
  position : Option Position
  deriving Repr

namespace Fault

def report (fault : Fault) : Error :=
  match fault.place with
  | .known position => ⟨fault.reason, some position⟩
  | .pending _ => ⟨fault.reason, none⟩

end Fault

namespace Error

def message (error : Error) : String :=
  match error.position with
  | none => error.reason.message
  | some p =>
    error.reason.message ++ " at line " ++ toString p.line ++ " column " ++ toString p.column

end Error

end Rehearsal.Json
