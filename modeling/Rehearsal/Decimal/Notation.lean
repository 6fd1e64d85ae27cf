import Rehearsal.Decimal.Shortest

/-! # Written numbers

Three ways to write a floating point number: positional with the shortest digits, the form for
data files with an exponent for large and small numbers, and a fixed number of places.
-/

namespace Rehearsal.Decimal

def zeros (count : Nat) : String :=
  String.ofList (List.replicate count '0')

/-- All digits in their places, with a point only where a fraction is left. -/
def positional (d : Scaled) : String :=
  let digits := toString d.digits
  if 0 ≤ d.exponent then
    if d.digits = 0 then "0" else digits ++ zeros d.exponent.toNat
  else
    let places := (-d.exponent).toNat
    if digits.length ≤ places then "0." ++ zeros (places - digits.length) ++ digits
    else
      String.ofList (digits.toList.take (digits.length - places)) ++ "."
        ++ String.ofList (digits.toList.drop (digits.length - places))

/-- One digit, the fraction if there is one, and a signed exponent of at least two digits. -/
def scientific (d : Scaled) : String :=
  let digits := (toString d.digits).toList
  let exponent := d.exponent + digits.length - 1
  let size := toString exponent.natAbs
  let fraction := if digits.length ≤ 1 then "" else "." ++ String.ofList (digits.drop 1)
  String.ofList (digits.take 1) ++ fraction ++ "e" ++ (if exponent < 0 then "-" else "+")
    ++ zeros (2 - size.length) ++ size

def signed (x : Float) (text : String) : String :=
  if isNegative x then "-" ++ text else text

/-- The texts of the values that are no finite numbers. -/
def special? (x : Float) : Option String :=
  if x.isNaN then some "NaN"
  else if x.isInf then some (signed x "inf")
  else none

/-- A number for readers: shortest digits, never an exponent, no point after a whole number. -/
def plain (x : Float) : String :=
  (special? x).getD (signed x (positional (shortest .up (.ofFloat x))))

/-- A number for data files: shortest digits, a point or an exponent in every number, and an
    exponent below `1e-4` and from `1e16` on. -/
def data (x : Float) : String :=
  (special? x).getD <|
    let d := shortest .toEven (.ofFloat x)
    let top := d.exponent + digitCount d.digits - 1
    signed x <|
      if d.digits = 0 then "0.0"
      else if -4 ≤ top ∧ top < 16 then
        if 0 ≤ d.exponent then positional d ++ ".0" else positional d
      else scientific d

/-- Rounds a fraction to the nearest natural number, a half to the even one. -/
def roundHalfEven (num den : Nat) : Nat :=
  let below := num / den
  let distance := num % den * 2
  if distance < den ∨ (distance = den ∧ below % 2 = 0) then below else below + 1

/-- A number with a fixed number of places, rounded from its exact value. -/
def fixed (places : Nat) (x : Float) : String :=
  (special? x).getD <|
    let (num, den) := (Binary.ofFloat x).ratio
    let units := toString (roundHalfEven (num * Nat.pow 10 places) den)
    let padded := zeros (places + 1 - units.length) ++ units
    let whole := padded.length - places
    signed x <|
      if places = 0 then padded
      else
        String.ofList (padded.toList.take whole) ++ "." ++ String.ofList (padded.toList.drop whole)

end Rehearsal.Decimal
