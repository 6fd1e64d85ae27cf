import Rehearsal.Unicode.CaseContext
import Rehearsal.Unicode.CaseMap

/-! # Lower case of a text

The full lower-case mapping of Unicode: one character for one, but for the dotted capital I,
which becomes two, and for the capital sigma, whose form depends on whether a word ends there.
-/

namespace Rehearsal.Text

open Unicode

/-- Whether a character takes part in case. -/
def isCased (c : Char) : Bool :=
  if c.toNat < 0x80 then c.isAlpha else cased.contains c

/-- Whether a character is looked through when the neighbouring letter is sought. -/
def isCaseIgnorable (c : Char) : Bool :=
  if c.toNat < 0x80 then c == '\'' || c == '.' || c == ':' || c == '^' || c == '\x60'
  else caseIgnorable.contains c

/-- Whether the first character that is not looked through is a cased letter. -/
def startsCased (text : List Char) : Bool :=
  match text.dropWhile isCaseIgnorable with
  | [] => false
  | c :: _ => isCased c

/-- A capital sigma ends a word when a cased letter stands before it and none after. -/
def endsWord (before after : List Char) : Bool :=
  startsCased before && !startsCased after

/-- Lower case of a text, given the characters before it in reverse. -/
def lowerAfter : List Char → List Char → List Char
  | _, [] => []
  | before, c :: rest =>
    let mapped :=
      if c == 'Σ' then [if endsWord before rest then 'ς' else 'σ']
      else if c == 'İ' then ['i', '\u0307']
      else [lowerChar c]
    mapped ++ lowerAfter (c :: before) rest

def lower (text : List Char) : List Char :=
  lowerAfter [] text

def lowercase (text : String) : String :=
  String.ofList (lower text.toList)

end Rehearsal.Text
