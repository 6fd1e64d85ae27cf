/-! # Shortest decimals of binary fractions

A finite floating point number is `mantissa * 2 ^ exponent`. Its shortest decimal is the one with
the fewest digits among those that read back as the same number, and of these the nearest.
-/

namespace Rehearsal.Decimal

/-- A finite floating point number without its sign. `lowest` marks the mantissa after which the
    spacing of the numbers below is halved. -/
structure Binary where
  mantissa : Nat
  exponent : Int
  lowest : Bool
  deriving Repr, DecidableEq

namespace Binary

/-- Takes a number apart; infinities and the not-a-number values give large numbers. -/
def ofFloat (x : Float) : Binary :=
  let bits := x.toBits.toNat
  let fraction : Nat := bits % Nat.pow 2 52
  let biased : Nat := bits / Nat.pow 2 52 % Nat.pow 2 11
  if biased = 0 then ⟨fraction, -1074, false⟩
  else ⟨Nat.pow 2 52 + fraction, Int.ofNat biased - 1075, fraction == 0 && biased != 1⟩

def ratio (x : Binary) : Nat × Nat :=
  if 0 ≤ x.exponent then (x.mantissa * Nat.pow 2 x.exponent.toNat, 1)
  else (x.mantissa, Nat.pow 2 (-x.exponent).toNat)

end Binary

/-- Whether the sign bit of a number is set. -/
def isNegative (x : Float) : Bool :=
  x.toBits.toNat / Nat.pow 2 63 = 1

/-- The decimal `digits * 10 ^ exponent`. -/
structure Scaled where
  digits : Nat
  exponent : Int
  deriving Repr, DecidableEq

/-- Which neighbour a number exactly between two decimals goes to. -/
inductive Tie where
  | up
  | toEven
  deriving Repr, DecidableEq

def digitCount (n : Nat) : Nat :=
  (Nat.toDigits 10 n).length

/-- The exponent of the power of ten at or below the positive fraction `num / den`. -/
def magnitude (num den : Nat) : Int :=
  if den ≤ num then (digitCount (num / den) : Int) - 1
  else -(digitCount ((den + num - 1) / num - 1) : Int)

def scale (num den : Nat) (exponent : Int) : Nat × Nat :=
  if 0 ≤ exponent then (num * Nat.pow 10 exponent.toNat, den)
  else (num, den * Nat.pow 10 (-exponent).toNat)

/-- Whether the decimal `digits * 10 ^ exponent` lies between the midpoints to the two
    neighbouring numbers; a midpoint itself reads back as the even mantissa. -/
def readsBack (x : Binary) (digits : Nat) (exponent : Int) : Bool :=
  let (num, den) := x.ratio
  let unit := if x.lowest then 1 else 2
  let (left, right) := scale (digits * 4 * x.mantissa) 1 exponent
  -- compare `digits * 10 ^ exponent` with `(4 m ± unit) / (4 m)` times the number
  let candidate := left * den
  let low := num * (4 * x.mantissa - unit) * right
  let high := num * (4 * x.mantissa + 2) * right
  if x.mantissa % 2 = 0 then low ≤ candidate && candidate ≤ high
  else low < candidate && candidate < high

/-- The nearest decimal with its last digit at `10 ^ exponent` that reads back, if there is one. -/
def onGrid? (tie : Tie) (x : Binary) (exponent : Int) : Option Scaled :=
  let (num, den) := x.ratio
  let (scaled, unit) := scale num den (-exponent)
  let below := scaled / unit
  let distance := scaled % unit * 2
  let downFirst :=
    distance < unit || (distance = unit && tie = .toEven && below % 2 = 0)
  let fits digits := readsBack x digits exponent
  match fits below, fits (below + 1) with
  | true, true => some ⟨if downFirst then below else below + 1, exponent⟩
  | true, false => some ⟨below, exponent⟩
  | false, true => some ⟨below + 1, exponent⟩
  | false, false => none

/-- Drops the final zeros of the digits. -/
def Scaled.trim (d : Scaled) : Scaled :=
  if d.digits ≠ 0 ∧ d.digits % 10 = 0 then trim ⟨d.digits / 10, d.exponent + 1⟩ else d
  termination_by d.digits
  decreasing_by omega

/-- The shortest decimal of a positive number: the first grid, from one digit to seventeen, that
    holds a decimal which reads back. -/
def shortest (tie : Tie) (x : Binary) : Scaled :=
  if x.mantissa = 0 then ⟨0, 0⟩
  else
    let (num, den) := x.ratio
    let top := magnitude num den
    let found := (List.range 17).findSome? fun (n : Nat) => onGrid? tie x (top - Int.ofNat n)
    (found.getD ⟨0, 0⟩).trim

end Rehearsal.Decimal
