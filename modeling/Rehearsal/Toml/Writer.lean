import Rehearsal.Text.Quoted

/-! # Writing TOML

A string is written in the plainest quotes that hold it without escapes: double quotes, single
quotes, three double quotes, three single quotes. If none does, it is escaped in double quotes, or
in three of them if it has several lines.
-/

namespace Rehearsal.Toml

/-- The longest run of a character in a text, given how many of it stand just before. -/
def longestRun (c : Char) : Nat → List Char → Nat
  | before, [] => before
  | before, x :: rest =>
    if x = c then longestRun c (before + 1) rest else max before (longestRun c 0 rest)

/-- Whether a character can only be written by an escape. Tabs and line feeds need none. -/
def needsEscape (c : Char) : Bool :=
  c != '\t' && c != '\n' && (c.toNat < 0x20 || c.toNat = 0x7f)

/-- A hexadecimal number of at least four digits, in upper case. -/
def fourHexDigits (n : Nat) : List Char :=
  let digits := (Nat.toDigits 16 n).map Char.toUpper
  List.replicate (4 - digits.length) '0' ++ digits

/-- The escape of a character, if it is not written as it is. -/
def escapeOf (long : Bool) (c : Char) : List Char :=
  if c = '\x08' then ['\\', 'b']
  else if c = '\t' then ['\\', 't']
  else if c = '\n' then (if long then [c] else ['\\', 'n'])
  else if c = '\x0c' then ['\\', 'f']
  else if c = '\r' then ['\\', 'r']
  else if c = '\\' then ['\\', '\\']
  else if needsEscape c then ['\\', 'u'] ++ fourHexDigits c.toNat
  else [c]

/-- A text with its escapes. So many double quotes in a row need none; `quotes` is how many of
    them were just written. -/
def escaped (long : Bool) (plain : Nat) (quotes : Nat) : List Char → List Char
  | [] => []
  | c :: rest =>
    if c = '"' then
      if quotes < plain then c :: escaped long plain (quotes + 1) rest
      else ['\\', c] ++ escaped long plain 0 rest
    else escapeOf long c ++ escaped long plain 0 rest

/-- How a string is quoted. -/
inductive Quotes where
  | basic
  | literal
  | longBasic
  | longLiteral
  deriving Repr, DecidableEq

namespace Quotes

/-- The quotes that a text is written in. -/
def of (text : List Char) : Quotes :=
  let controls := text.any needsEscape
  let backslashes := text.contains '\\'
  let lines := text.contains '\n'
  let singles := longestRun '\'' 0 text
  let doubles := longestRun '"' 0 text
  if !controls && !backslashes && doubles = 0 && !lines then basic
  else if !controls && singles = 0 && !lines then literal
  else if !controls && !backslashes && doubles ≤ 2 then longBasic
  else if !controls && singles ≤ 2 then longLiteral
  else if lines then longBasic
  else basic

/-- A text in quotes of a kind. Long strings that have a line end begin on a line of their own. -/
def write (text : List Char) (quotes : Quotes) : List Char :=
  let gap := if text.contains '\n' then ['\n'] else []
  match quotes with
  | basic => ['"'] ++ escaped false 0 0 text ++ ['"']
  | literal => ['\''] ++ text ++ ['\'']
  | longBasic => ['"', '"', '"'] ++ gap ++ escaped true 2 0 text ++ ['"', '"', '"']
  | longLiteral => ['\'', '\'', '\''] ++ gap ++ text ++ ['\'', '\'', '\'']

end Quotes

/-- A string as it stands in a document. -/
def writeString (text : String) : String :=
  String.ofList ((Quotes.of text.toList).write text.toList)

/-- The line of a key. -/
def writeLine (key written : String) : String :=
  key ++ " = " ++ written ++ "\n"

end Rehearsal.Toml
