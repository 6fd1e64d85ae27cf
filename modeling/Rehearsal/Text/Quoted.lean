import Rehearsal.Unicode.Category
import Rehearsal.Unicode.CaseContext

/-! # Quoted text

How a text is shown inside a message: between double quotes, with everything escaped that a
reader could not see or could mistake.
-/

namespace Rehearsal.Text

open Unicode

/-- Whether a character is shown as it is. Separators other than the space, control and format
    characters, and code points without a character are not. -/
def isPrintable (c : Char) : Bool :=
  if c.toNat < 0x80 then 0x20 ≤ c.toNat && c.toNat < 0x7f
  else
    match Category.of c with
    | .control | .format | .surrogate | .privateUse | .unassigned
    | .lineSeparator | .paragraphSeparator | .spaceSeparator => false
    | _ => true

/-- Whether a character attaches to the one before it. -/
def isExtending (c : Char) : Bool :=
  c.toNat ≥ 0x80 && graphemeExtend.contains c

/-- The hexadecimal digits of a number, in lower case and without leading zeros. -/
def hexDigits (n : Nat) : List Char :=
  Nat.toDigits 16 n

/-- An escape by code point, such as `\u{7f}`. -/
def escapeCode (c : Char) : List Char :=
  ['\\', 'u', '\x7b'] ++ hexDigits c.toNat ++ ['\x7d']

/-- One character as it stands inside quotes; `apostrophe` says whether an apostrophe is escaped. -/
def quoteChar (apostrophe : Bool) (c : Char) : List Char :=
  if c == '\x00' then ['\\', '0']
  else if c == '\t' then ['\\', 't']
  else if c == '\r' then ['\\', 'r']
  else if c == '\n' then ['\\', 'n']
  else if c == '\\' || c == '"' then ['\\', c]
  else if c == '\'' then (if apostrophe then ['\\', c] else [c])
  else if isExtending c then escapeCode c
  else if isPrintable c then [c]
  else escapeCode c

def quoted (text : String) : String :=
  String.ofList ('"' :: text.toList.flatMap (quoteChar false) ++ ['"'])

/-- A file path in double quotes; apostrophes are escaped as well. -/
def quotedPath (path : String) : String :=
  String.ofList ('"' :: path.toList.flatMap (quoteChar true) ++ ['"'])

/-- A list in square brackets, given the texts of its items. -/
def bracketed (items : List String) : String :=
  "[" ++ ", ".intercalate items ++ "]"

/-- An optional value by name, given the text of its content. -/
def optional (shown : String → String) : Option String → String
  | none => "None"
  | some text => "Some(" ++ shown text ++ ")"

def optionalQuoted (text : Option String) : String :=
  optional quoted text

def quotedList (texts : List String) : String :=
  bracketed (texts.map quoted)

/-- A record by name with its members, given the text of each. -/
def record (name : String) (members : List (String × String)) : String :=
  name ++ " \x7b " ++ ", ".intercalate (members.map fun (key, shown) => key ++ ": " ++ shown)
    ++ " \x7d"

/-- A record of which only some members are shown. -/
def openRecord (name : String) (members : List (String × String)) : String :=
  name ++ " \x7b " ++ ", ".intercalate (members.map fun (key, shown) => key ++ ": " ++ shown)
    ++ ", .. \x7d"

end Rehearsal.Text
