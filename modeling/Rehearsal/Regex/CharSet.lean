import Rehearsal.Text.Lines
import Rehearsal.Unicode.CaseMap
import Rehearsal.Unicode.Category
import Rehearsal.Unicode.Property
import Rehearsal.Unicode.Script

/-! # Sets of characters

The sets that a regular expression can name and the operations on them. Where only ASCII is
meant, letters outside of it belong to no named set and have no other case.
-/

namespace Rehearsal

open Unicode (Category)

/-- A set of characters, as the test for its members. -/
abbrev CharSet := Char → Bool

namespace CharSet

def single (c : Char) : CharSet := fun x => x == c

def range (first last : Char) : CharSet := fun x => first ≤ x && x ≤ last

def none : CharSet := fun _ => false

def any : CharSet := fun _ => true

def union (sets : List CharSet) : CharSet := fun x => sets.any (· x)

def intersection (a b : CharSet) : CharSet := fun x => a x && b x

def difference (a b : CharSet) : CharSet := fun x => a x && !b x

def symmetricDifference (a b : CharSet) : CharSet := fun x => a x != b x

def complement (a : CharSet) : CharSet := fun x => !a x

/-- What differs from a member at most in case. -/
def caseless (a : CharSet) : CharSet := fun x => a x || (Unicode.caseVariants x).any a

/-- What differs from a member at most in the case of a letter of ASCII. -/
def asciiCaseless (a : CharSet) : CharSet := fun x => a x || a x.toLower || a x.toUpper

/-! ### Named sets -/

def word : CharSet := fun c =>
  if c.toNat < 0x80 then c.isAlphanum || c == '_'
  else
    Unicode.alphabetic.contains c || Unicode.joinControl.contains c ||
      match Category.of c with
      | .nonspacingMark | .spacingMark | .enclosingMark | .decimalNumber
      | .connectorPunctuation => true
      | _ => false

def digit : CharSet := fun c =>
  if c.toNat < 0x80 then c.isDigit else Category.of c == .decimalNumber

def asciiWord : CharSet := fun c => c.isAlphanum || c == '_'

def asciiBlank : CharSet := fun c => ('\t' ≤ c && c ≤ '\r') || c == ' '

/-- The set of ASCII with this name. -/
def asciiNamed? : String → Option CharSet
  | "alnum" => some Char.isAlphanum
  | "alpha" => some Char.isAlpha
  | "ascii" => some fun c => c.toNat < 0x80
  | "blank" => some fun c => c == '\t' || c == ' '
  | "cntrl" => some fun c => c.toNat < 0x20 || c.toNat == 0x7f
  | "digit" => some Char.isDigit
  | "graph" => some (range '!' '~')
  | "lower" => some (range 'a' 'z')
  | "print" => some (range ' ' '~')
  | "punct" => some fun c => range '!' '~' c && !c.isAlphanum
  | "space" => some asciiBlank
  | "upper" => some (range 'A' 'Z')
  | "word" => some asciiWord
  | "xdigit" => some fun c => c.isDigit || range 'a' 'f' c || range 'A' 'F' c
  | _ => Option.none

/-- The name of a property as it is looked up: ASCII letters in lower case, without separators
    and without a leading `is`. -/
def lookupName (name : String) : String :=
  let chars := name.toList
  let cut : Bool :=
    match chars with
    | i :: s :: _ => (i == 'i' || i == 'I') && (s == 's' || s == 'S')
    | _ => false
  let kept := ((if cut then chars.drop 2 else chars).filter fun c =>
    c.toNat < 0x80 && c != ' ' && c != '_' && c != '-').map Char.toLower
  String.ofList (if cut && kept == ['c'] then ['i', 's', 'c'] else kept)

/-- The set of a general category, or of a group of them. -/
def category? (name : String) : Option CharSet :=
  match name with
  | "any" => some any
  | "assigned" => some fun c => Category.of c != .unassigned
  | "ascii" => some fun c => c.toNat < 0x80
  | _ => (Category.named? name).map fun categories c => categories.contains (Category.of c)

def script? (name : String) : Option CharSet :=
  (Unicode.Script.named? name).map fun code => (Unicode.Script.table code).contains

/-- The characters in use with a script. -/
def usedWith? (name : String) : Option CharSet :=
  (Unicode.Script.named? name).map Unicode.Script.usedWith

/-- The characters with a binary property. Three names of it mean a category instead. -/
def binary? (name : String) : Option CharSet :=
  if name == "cf" || name == "sc" || name == "lc" then Option.none
  else (Unicode.binaryProperty? name).map fun table => table.contains

/-- The set of a name alone: a binary property, a category or a script. -/
def named? (name : String) : Option CharSet :=
  let name := lookupName name
  ((binary? name).or (category? name)).or (script? name)

/-- The set of a property with a value. -/
def valued? (property value : String) : Option CharSet :=
  let value := lookupName value
  match lookupName property with
  | "gc" | "generalcategory" => category? value
  | "sc" | "script" => script? value
  | "scx" | "scriptextensions" => usedWith? value
  | _ => Option.none

end CharSet

end Rehearsal
