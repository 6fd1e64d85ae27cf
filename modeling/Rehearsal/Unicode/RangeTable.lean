/-! # Tables of code point ranges

A property of characters is kept as ascending ranges of code points. Tables are written as text,
`41-5A 61-7A AA`, in the hexadecimal form in which the character database publishes them.
-/

namespace Rehearsal.Unicode

/-- The parts of a text between blanks and line ends. -/
def words (text : String) : List String :=
  (text.splitOn "\n").flatMap fun line => (line.splitOn " ").filter (· ≠ "")

/-- The code points from `first` to `last`, both included. -/
structure CodeRange where
  first : Nat
  last : Nat
  deriving Repr, DecidableEq

namespace CodeRange

/-- Whether the range covers a character. -/
def contains (range : CodeRange) (c : Char) : Bool :=
  range.first ≤ c.toNat && c.toNat ≤ range.last

/-- The value of a hexadecimal digit; other characters count as zero. -/
def hexValue (c : Char) : Nat :=
  if c.isDigit then c.toNat - 48
  else if 'A' ≤ c ∧ c ≤ 'F' then c.toNat - 55
  else if 'a' ≤ c ∧ c ≤ 'f' then c.toNat - 87
  else 0

/-- The number written by hexadecimal digits. -/
def ofHex (digits : String) : Nat :=
  digits.toList.foldl (fun total c => total * 16 + hexValue c) 0

/-- Reads `41-5A`, or `AA` for a range of one. -/
def ofText? (text : String) : Option CodeRange :=
  match text.splitOn "-" with
  | [one] => some ⟨ofHex one, ofHex one⟩
  | [first, last] => some ⟨ofHex first, ofHex last⟩
  | _ => none

end CodeRange

/-- Ranges in ascending order, none touching the next. -/
abbrev RangeTable := Array CodeRange

namespace RangeTable

/-- Reads ranges that are separated by blanks or line ends. -/
def ofText (text : String) : RangeTable :=
  ((words text).filterMap CodeRange.ofText?).toArray

/-- Halves the part of the table from `low` up to `high` until one range is left. -/
def search (table : RangeTable) (c : Char) : Nat → Nat → Nat → Bool
  | 0, _, _ => false
  | fuel + 1, low, high =>
    if low < high then
      let middle := (low + high) / 2
      match table[middle]? with
      | none => false
      | some range =>
        if c.toNat < range.first then search table c fuel low middle
        else if range.last < c.toNat then search table c fuel (middle + 1) high
        else true
    else false

/-- Whether a range of the table covers the character. -/
def contains (table : RangeTable) (c : Char) : Bool :=
  table.search c (table.size + 1) 0 table.size

end RangeTable

end Rehearsal.Unicode
