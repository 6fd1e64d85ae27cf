import Rehearsal.Toml.Scalar

/-! # Reading TOML

A document is read line by line into statements, which are then put together. Values may be nested
up to a certain depth.
-/

namespace Rehearsal.Toml

/-- Whether a character is a blank within a line. -/
def isBlank (c : Char) : Bool :=
  c == ' ' || c == '\t'

/-- A text without the blanks at its start. -/
def skipBlanks (text : List Char) : List Char :=
  text.dropWhile isBlank

/-- A text after a comment, up to the end of its line. -/
def skipComment (text : List Char) : List Char :=
  match text with
  | '#' :: rest => rest.dropWhile isPlain
  | text => text

/-- A text after blanks, a comment and the end of the line or of the document. -/
def endLine (text : List Char) : Except Problem (List Char) :=
  match skipComment (skipBlanks text) with
  | [] => .ok []
  | '\n' :: rest => .ok rest
  | '\r' :: '\n' :: rest => .ok rest
  | _ => .error .malformed

/-- A text after blanks, comments and line ends. -/
def skipSpace (fuel : Nat) (text : List Char) : List Char :=
  match fuel with
  | 0 => text
  | fuel + 1 =>
    match skipComment (skipBlanks text) with
    | '\n' :: rest => skipSpace fuel rest
    | '\r' :: '\n' :: rest => skipSpace fuel rest
    | text => text

/-! ### Keys -/

/-- Whether a character may stand in a key without quotes. -/
def isBare (c : Char) : Bool :=
  c.isAlphanum || c == '_' || c == '-'

/-- One part of a key. -/
def keyPart (text : List Char) : Except Problem (String × List Char) :=
  match text with
  | '"' :: rest => do
    let (content, rest) ← basicString rest
    return (String.ofList content, rest)
  | '\'' :: rest => do
    let (content, rest) ← literalString rest
    return (String.ofList content, rest)
  | text =>
    let bare := text.takeWhile isBare
    if bare.isEmpty then .error .malformed else .ok (String.ofList bare, text.drop bare.length)

/-- A key with its parts. -/
def keyPath (fuel : Nat) (text : List Char) : Except Problem (KeyPath × List Char) :=
  match fuel with
  | 0 => .error .malformed
  | fuel + 1 => do
    let (part, rest) ← keyPart (skipBlanks text)
    match skipBlanks rest with
    | '.' :: rest =>
      let (path, rest) ← keyPath fuel rest
      return ({ path with parents := part :: path.parents }, rest)
    | rest => return (⟨[], part⟩, rest)

/-! ### Values -/

/-- Whether a character belongs to a run without quotes. -/
def isRun (c : Char) : Bool :=
  c.isAlphanum || c == '_' || c == '-' || c == '+' || c == '.' || c == ':'

/-- A value without quotes. A date may be followed by a blank and a time. -/
def bareValue (text : List Char) : Except Problem (Value × List Char) := do
  let run := text.takeWhile isRun
  let rest := text.drop run.length
  let time := (rest.drop 1).takeWhile isRun
  if isDate run && rest.head? == some ' ' && (time.head?.map Char.isDigit).getD false then
    return (← scalar (run ++ ' ' :: time), rest.drop (1 + time.length))
  else return (← scalar run, rest)

mutual

/-- A value. -/
def value (fuel depth : Nat) (text : List Char) : Except Problem (Value × List Char) :=
  match fuel with
  | 0 => .error .malformed
  | fuel + 1 =>
    match text with
    | '[' :: rest =>
      if depth = 0 then .error .malformed
      else do
        let (items, rest) ← items fuel (depth - 1) rest
        return (.array items, rest)
    | '\x7b' :: rest =>
      if depth = 0 then .error .malformed
      else do
        let (entries, rest) ← members fuel (depth - 1) [] rest
        return (.table .inline entries, rest)
    | '"' :: _ | '\'' :: _ => do
      let (content, rest) ← stringFrom text
      return (.text (String.ofList content), rest)
    | text => bareValue text

/-- The rest of a list of values. -/
def items (fuel depth : Nat) (text : List Char) : Except Problem (List Value × List Char) :=
  match fuel with
  | 0 => .error .malformed
  | fuel + 1 =>
    match skipSpace text.length text with
    | ']' :: rest => .ok ([], rest)
    | text => do
      let (first, rest) ← value fuel depth text
      match skipSpace rest.length rest with
      | ',' :: rest =>
        let (others, rest) ← items fuel depth rest
        return (first :: others, rest)
      | ']' :: rest => return ([first], rest)
      | _ => .error .malformed

/-- The rest of a table between braces, of which some entries were read. -/
def members (fuel depth : Nat) (entries : Entries) (text : List Char) :
    Except Problem (Entries × List Char) :=
  match fuel with
  | 0 => .error .malformed
  | fuel + 1 =>
    match skipSpace text.length text with
    | '\x7d' :: rest => .ok (entries, rest)
    | text => do
      let (path, rest) ← keyPath text.length text
      match rest with
      | '=' :: rest =>
        let (member, rest) ← value fuel depth (skipBlanks rest)
        let entries ← Entries.changeAt true (Entries.enter path.last member) path.parents entries
        match skipSpace rest.length rest with
        | ',' :: rest => members fuel depth entries rest
        | '\x7d' :: rest => return (entries, rest)
        | _ => .error .malformed
      | _ => .error .malformed

end

/-- How deep values may be nested. -/
def maxDepth : Nat := 80

/-! ### Documents -/

/-- The statement at the start of a text. -/
def statement (text : List Char) : Except Problem (Statement × List Char) := do
  let fuel := 2 * text.length + 2
  match text with
  | '[' :: '[' :: rest =>
    let (path, rest) ← keyPath fuel rest
    match rest with
    | ']' :: ']' :: rest => return (.nextHeader path, rest)
    | _ => .error .malformed
  | '[' :: rest =>
    let (path, rest) ← keyPath fuel rest
    match rest with
    | ']' :: rest => return (.header path, rest)
    | _ => .error .malformed
  | text =>
    let (path, rest) ← keyPath fuel text
    match rest with
    | '=' :: rest =>
      let (assigned, rest) ← value fuel maxDepth (skipBlanks rest)
      return (.assign path assigned, rest)
    | _ => .error .malformed

/-- The statements of a text. -/
def statements (fuel : Nat) (text : List Char) : Except Problem (List Statement) :=
  match fuel with
  | 0 => .error .malformed
  | fuel + 1 =>
    match skipSpace text.length text with
    | [] => .ok []
    | text => do
      let (first, rest) ← statement text
      let others ← statements fuel (← endLine rest)
      return first :: others

/-- A text without the mark of its byte order. -/
def skipMark : List Char → List Char
  | '\ufeff' :: rest => rest
  | text => text

/-- The document that a text writes. -/
def parse (text : String) : Except Problem Entries := do
  let text := skipMark text.toList
  assemble (← statements (text.length + 1) text)

end Rehearsal.Toml
