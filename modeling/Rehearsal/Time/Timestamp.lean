import Rehearsal.Text.Lines

/-! # Points in time

Points in time by the Gregorian calendar, in universal time, and their written form: a date, a
time of day and the offset from universal time that both are given in.
-/

namespace Rehearsal

/-- A point in time, in universal time. A leap second is the second 60 of its minute. -/
structure Timestamp where
  year : Int
  month : Nat
  day : Nat
  hour : Nat
  minute : Nat
  second : Nat
  nanosecond : Nat
  deriving Repr, DecidableEq, Inhabited

/-- Why a text is no point in time. -/
inductive TimestampProblem where
  | tooShort
  | invalid
  | outOfRange
  | trailing
  deriving Repr, DecidableEq

namespace TimestampProblem

def message : TimestampProblem → String
  | tooShort => "premature end of input"
  | invalid => "input contains invalid characters"
  | outOfRange => "input is out of range"
  | trailing => "trailing input"

end TimestampProblem

namespace Timestamp

def epoch : Timestamp := ⟨1970, 1, 1, 0, 0, 0, 0⟩

def isLeapYear (year : Int) : Bool :=
  year % 4 == 0 && (year % 100 != 0 || year % 400 == 0)

def daysIn (year : Int) (month : Nat) : Nat :=
  if month = 2 then (if isLeapYear year then 29 else 28)
  else if month = 4 ∨ month = 6 ∨ month = 9 ∨ month = 11 then 30
  else 31

def nextDay (t : Timestamp) : Timestamp :=
  if t.day < daysIn t.year t.month then { t with day := t.day + 1 }
  else if t.month < 12 then { t with month := t.month + 1, day := 1 }
  else { t with year := t.year + 1, month := 1, day := 1 }

def previousDay (t : Timestamp) : Timestamp :=
  if 1 < t.day then { t with day := t.day - 1 }
  else if 1 < t.month then { t with month := t.month - 1, day := daysIn t.year (t.month - 1) }
  else { t with year := t.year - 1, month := 12, day := 31 }

/-- The point in time whose local time, ahead of universal time by some minutes, is given. -/
def ofLocal (t : Timestamp) (aheadBy : Int) : Timestamp :=
  let minutes : Int := t.hour * 60 + t.minute - aheadBy
  let day := if minutes < 0 then t.previousDay else if 1440 ≤ minutes then t.nextDay else t
  let minutes := (minutes % 1440).toNat
  { day with hour := minutes / 60, minute := minutes % 60 }

/-! ### The written form -/

/-- A number with leading zeros up to a width. -/
def padded (width n : Nat) : String :=
  let digits := toString n
  String.ofList (List.replicate (width - digits.length) '0') ++ digits

/-- A year; one outside of four digits has a sign. -/
def yearText (year : Int) : String :=
  if year < 0 then "-" ++ padded 4 year.natAbs
  else if 9999 < year then "+" ++ toString year
  else padded 4 year.toNat

/-- The fraction of a second with three, six or nine digits. -/
def fractionText (nanosecond : Nat) : String :=
  if nanosecond = 0 then ""
  else if nanosecond % 1000000 = 0 then "." ++ padded 3 (nanosecond / 1000000)
  else if nanosecond % 1000 = 0 then "." ++ padded 6 (nanosecond / 1000)
  else "." ++ padded 9 nanosecond

def render (t : Timestamp) : String :=
  yearText t.year ++ "-" ++ padded 2 t.month ++ "-" ++ padded 2 t.day ++ "T"
    ++ padded 2 t.hour ++ ":" ++ padded 2 t.minute ++ ":" ++ padded 2 t.second
    ++ fractionText t.nanosecond ++ "Z"

/-! ### Reading -/

/-- What is read from a text, with the rest of it. -/
abbrev Parsed (α : Type) := Except TimestampProblem (α × List Char)

def digitsValue (digits : List Char) : Nat :=
  digits.foldl (fun n d => n * 10 + (d.toNat - 48)) 0

/-- One to `most` digits after blanks. -/
def number (most : Nat) (text : List Char) : Parsed Nat :=
  let text := Text.trimStart text
  let digits := (text.take most).takeWhile Char.isDigit
  match text, digits with
  | [], _ => .error .tooShort
  | _, [] => .error .invalid
  | _, digits => .ok (digitsValue digits, text.drop digits.length)

def bounded (least most : Nat) (text : List Char) : Except TimestampProblem (Nat × List Char) := do
  let (n, rest) ← number 2 text
  if least ≤ n ∧ n ≤ most then .ok (n, rest) else .error .outOfRange

/-- A year: four digits at most, or a sign and any number of them. -/
def yearOf (text : List Char) : Parsed Int :=
  match Text.trimStart text with
  | '-' :: rest => (unblank rest).map fun (n, rest) => (-(n : Int), rest)
  | '+' :: rest => (unblank rest).map fun (n, rest) => ((n : Int), rest)
  | rest => (number 4 rest).map fun (n, rest) => ((n : Int), rest)
where
  /-- A number that follows its sign directly. -/
  unblank (rest : List Char) : Parsed Nat :=
    match rest with
    | [] => .error .tooShort
    | c :: _ => if c.isDigit then number rest.length rest else .error .invalid

/-- Passes over blanks and a mark. -/
def mark (c : Char) (text : List Char) : Except TimestampProblem (List Char) :=
  match Text.trimStart text with
  | [] => .error .tooShort
  | d :: rest => if c = d then .ok rest else .error .invalid

/-- The nanoseconds of a fraction; digits beyond the ninth count for nothing. -/
def fractionOf (text : List Char) : Parsed Nat :=
  match text with
  | '.' :: rest =>
    match rest with
    | [] => .error .tooShort
    | c :: _ =>
      if c.isDigit then
        let digits := rest.takeWhile Char.isDigit
        let kept := digits.take 9
        .ok (digitsValue kept * Nat.pow 10 (9 - kept.length), rest.drop digits.length)
      else .error .invalid
  | _ => .ok (0, text)

/-- Two digits that follow one another directly, the first at most a given one. -/
def twoDigits (text : List Char) : Parsed Nat :=
  match text with
  | a :: b :: rest =>
    if a.isDigit && b.isDigit then .ok (digitsValue [a, b], rest) else .error .invalid
  | [a] => .error (if a.utf8Size = 1 then .tooShort else .invalid)
  | [] => .error .tooShort

/-- The offset from universal time in minutes. -/
def offsetOf (text : List Char) : Parsed Int :=
  match text with
  | 'Z' :: rest | 'z' :: rest => .ok (0, rest)
  | u :: t :: c :: rest =>
    if u.toUpper = 'U' ∧ t.toUpper = 'T' ∧ c.toUpper = 'C' then .ok (0, rest) else signed text
  | _ => signed text
where
  /-- An offset with its sign. -/
  signed : List Char → Except TimestampProblem (Int × List Char)
    | [] => .error .tooShort
    | sign :: rest =>
      if sign = '+' ∨ sign = '-' ∨ sign = '\u2212' then do
        let (hours, rest) ← twoDigits rest
        let rest := rest.dropWhile fun c => c == ':' || Text.isBlank c
        let (minutes, rest) ← twoDigits rest
        if 59 < minutes then .error .outOfRange
        else
          let total : Int := hours * 60 + minutes
          .ok (if sign = '+' then total else -total, rest)
      else .error .invalid

/-- Passes over the mark between date and time. -/
def between : List Char → Except TimestampProblem (List Char)
  | [] => .error .tooShort
  | c :: rest => if c = 'T' ∨ c = 't' ∨ c = ' ' then .ok rest else .error .invalid

/-- The largest distance of a year from the year 0. -/
def maxYear : Int := 262142

/-- The point in time that a text stands for. -/
def parse (text : String) : Except TimestampProblem Timestamp := do
  let (year, rest) ← yearOf text.toList
  let (month, rest) ← bounded 1 12 (← mark '-' rest)
  let (day, rest) ← bounded 1 31 (← mark '-' rest)
  let (hour, rest) ← bounded 0 23 (← between rest)
  let (minute, rest) ← bounded 0 59 (← mark ':' rest)
  let (second, rest) ← bounded 0 60 (← mark ':' rest)
  let (nanosecond, rest) ← fractionOf rest
  let (offset, rest) ← offsetOf (Text.trimStart rest)
  if !(Text.trimStart rest).isEmpty then .error .trailing
  else if daysIn year month < day ∨ maxYear < year ∨ year < -maxYear - 1
      ∨ 1440 ≤ offset.natAbs then .error .outOfRange
  else .ok (ofLocal ⟨year, month, day, hour, minute, second, nanosecond⟩ offset)

end Timestamp

end Rehearsal
