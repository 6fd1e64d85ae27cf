import Rehearsal.Toml.Value

/-! # Scalars of TOML

Numbers, words and moments are read from a run of characters without blanks: what the run says is
decided by its form as a whole. Strings are read from the text that follows their opening quotes.
-/

namespace Rehearsal.Toml

/-! ### Numbers -/

/-- Whether a run is made of characters of a class, with single underscores between them. -/
def separated (ok : Char → Bool) : List Char → Bool
  | [] => false
  | [c] => ok c
  | c :: '_' :: rest => ok c && separated ok rest
  | c :: rest => ok c && separated ok rest

/-- Whether a run is a decimal number without superfluous zeros. -/
def isDecimal (run : List Char) : Bool :=
  separated Char.isDigit run && (run.length == 1 || run.head? != some '0')

/-- A run after its sign, if it has one; the flag says whether the sign is a minus. -/
def unsigned : List Char → Bool × List Char
  | '+' :: rest => (false, rest)
  | '-' :: rest => (true, rest)
  | run => (false, run)

/-- The value of a digit in any base up to sixteen. -/
def digitValue (c : Char) : Nat :=
  if c.isDigit then c.toNat - 48 else c.toLower.toNat - 87

/-- The number that digits write in a base; underscores are passed over. -/
def numberOf (base : Nat) (run : List Char) : Nat :=
  (run.filter (· != '_')).foldl (fun n c => n * base + digitValue c) 0

/-- Whether a character is a hexadecimal digit. -/
def isHexDigit (c : Char) : Bool :=
  c.isDigit || ('a' ≤ c && c ≤ 'f') || ('A' ≤ c && c ≤ 'F')

/-- The whole number that a run writes. -/
def integer? (run : List Char) : Option Int :=
  match run with
  | '0' :: 'x' :: digits => if separated isHexDigit digits then some (numberOf 16 digits) else none
  | '0' :: 'o' :: digits =>
    if separated (fun c => '0' ≤ c && c ≤ '7') digits then some (numberOf 8 digits) else none
  | '0' :: 'b' :: digits =>
    if separated (fun c => c == '0' || c == '1') digits then some (numberOf 2 digits) else none
  | run =>
    let (negative, digits) := unsigned run
    if isDecimal digits then
      some (if negative then -(numberOf 10 digits : Int) else numberOf 10 digits)
    else none

/-- Whether a run is an exponent, sign and all. -/
def isExponent (run : List Char) : Bool :=
  separated Char.isDigit (unsigned run).2

/-- Whether a run is what follows the whole part of a number with a fraction or an exponent. -/
def isFraction : List Char → Bool
  | '.' :: rest =>
    let digits := rest.takeWhile fun c => c != 'e' && c != 'E'
    separated Char.isDigit digits &&
      match rest.drop digits.length with
      | [] => true
      | _ :: exponent => isExponent exponent
  | 'e' :: rest | 'E' :: rest => isExponent rest
  | _ => false

/-- Whether a run writes a number with a fraction or an exponent, or one of the special ones. -/
def isFloat (run : List Char) : Bool :=
  let digits := (unsigned run).2
  let whole := digits.takeWhile fun c => c.isDigit || c == '_'
  digits == ['i', 'n', 'f'] || digits == ['n', 'a', 'n']
    || (isDecimal whole && isFraction (digits.drop whole.length))

/-! ### Moments -/

/-- The number in so many digits, and what follows them. -/
def fixedDigits (count : Nat) (run : List Char) : Option (Nat × List Char) :=
  let digits := run.take count
  if digits.length == count && digits.all Char.isDigit then
    some (numberOf 10 digits, run.drop count)
  else none

/-- What follows a certain character. -/
def after? (c : Char) : List Char → Option (List Char)
  | x :: rest => if x = c then some rest else none
  | [] => none

/-- The number of days of a month. -/
def daysIn (year month : Nat) : Nat :=
  if month = 2 then (if year % 4 = 0 && (year % 100 != 0 || year % 400 = 0) then 29 else 28)
  else if month = 4 || month = 6 || month = 9 || month = 11 then 30
  else 31

/-- What follows a date. -/
def afterDate (run : List Char) : Option (List Char) := do
  let (year, run) ← fixedDigits 4 run
  let (month, run) ← fixedDigits 2 (← after? '-' run)
  let (day, run) ← fixedDigits 2 (← after? '-' run)
  if 1 ≤ month && month ≤ 12 && 1 ≤ day && day ≤ daysIn year month then some run else none

/-- What follows the fraction of a second, if there is one. -/
def afterFraction (run : List Char) : Option (List Char) :=
  match run with
  | '.' :: rest =>
    let digits := rest.takeWhile Char.isDigit
    if digits.isEmpty then none else some (rest.drop digits.length)
  | run => some run

/-- What follows a time of day. The seconds may be left out. -/
def afterTime (run : List Char) : Option (List Char) := do
  let (hour, run) ← fixedDigits 2 run
  let (minute, run) ← fixedDigits 2 (← after? ':' run)
  if hour > 23 || minute > 59 then none
  else
    match run with
    | ':' :: run =>
      let (second, run) ← fixedDigits 2 run
      if second > 60 then none else afterFraction run
    | run => some run

/-- What follows the distance from universal time, if there is one. -/
def afterOffset (run : List Char) : Option (List Char) :=
  match run with
  | [] => some []
  | c :: rest =>
    if c = 'Z' || c = 'z' then some rest
    else if c = '+' || c = '-' then do
      let (hour, rest) ← fixedDigits 2 rest
      let (minute, rest) ← fixedDigits 2 (← after? ':' rest)
      if hour > 23 || minute > 59 then none else some rest
    else none

/-- Whether a run is a date. -/
def isDate (run : List Char) : Bool :=
  afterDate run == some []

/-- Whether a run is a date, a time of day, or both. -/
def isMoment (run : List Char) : Bool :=
  match afterDate run with
  | some [] => true
  | some (c :: rest) =>
    (c == 'T' || c == 't' || c == ' ') && (afterTime rest).bind afterOffset == some []
  | none => afterTime run == some []

/-! ### Words -/

/-- The value that a run without quotes writes. -/
def scalar (run : List Char) : Except Problem Value :=
  if run == "true".toList then .ok (.boolean true)
  else if run == "false".toList then .ok (.boolean false)
  else
    match integer? run with
    | some n => .ok (.integer n)
    | none =>
      if isFloat run then .ok (.float (String.ofList run))
      else if isMoment run then .ok (.moment (String.ofList run))
      else .error .malformed

/-! ### Strings -/

/-- Whether a character may stand in a document outside of line ends. -/
def isPlain (c : Char) : Bool :=
  c == '\t' || (c.toNat ≥ 0x20 && c.toNat != 0x7f)

/-- The character of a code point that is written in hexadecimal digits. -/
def codePoint? (digits : List Char) : Option Char :=
  let n := numberOf 16 digits
  if digits.all isHexDigit && (n < 0xd800 || (0xdfff < n && n < 0x110000)) then some (Char.ofNat n)
  else none

/-- The character of an escape that is one letter. -/
def letterEscape? : Char → Option Char
  | 'b' => some '\x08'
  | 't' => some '\t'
  | 'n' => some '\n'
  | 'f' => some '\x0c'
  | 'r' => some '\r'
  | 'e' => some '\x1b'
  | '"' => some '"'
  | '\\' => some '\\'
  | _ => none

/-- The character of an escape, and what follows it; the backslash is passed already. -/
def escape? : List Char → Option (Char × List Char)
  | 'x' :: a :: b :: rest => (codePoint? [a, b]).map (·, rest)
  | 'u' :: a :: b :: c :: d :: rest => (codePoint? [a, b, c, d]).map (·, rest)
  | 'U' :: a :: b :: c :: d :: e :: f :: g :: h :: rest =>
    (codePoint? [a, b, c, d, e, f, g, h]).map (·, rest)
  | c :: rest => (letterEscape? c).map (·, rest)
  | [] => none

/-- Reading an escape leaves less of the text. -/
theorem escape_length {text rest : List Char} {c : Char} (h : escape? text = some (c, rest)) :
    rest.length < text.length := by
  unfold escape? at h
  split at h <;> simp only [Option.map_eq_some_iff, Prod.mk.injEq, reduceCtorEq] at h
  all_goals
    obtain ⟨_, _, _, rfl⟩ := h
    simp only [List.length_cons]
    omega

/-- What a string has so far, and what follows it. -/
abbrev Scanned := Except Problem (List Char × List Char)

/-- The string with one more character in front. -/
def Scanned.cons (c : Char) (scanned : Scanned) : Scanned :=
  scanned.map fun (content, rest) => (c :: content, rest)

/-- The rest of a string in double quotes. -/
def basicString (text : List Char) : Scanned :=
  match text with
  | '"' :: rest => .ok ([], rest)
  | '\\' :: rest =>
    match h : escape? rest with
    | none => .error .malformed
    | some (c, rest') =>
      have := escape_length h
      (basicString rest').cons c
  | c :: rest => if isPlain c then (basicString rest).cons c else .error .malformed
  | [] => .error .malformed
termination_by text.length

/-- The rest of a string in single quotes. -/
def literalString : List Char → Scanned
  | '\'' :: rest => .ok ([], rest)
  | c :: rest => if isPlain c then (literalString rest).cons c else .error .malformed
  | [] => .error .malformed

/-- A text without the line end that it begins with. -/
def dropLineEnd : List Char → List Char
  | '\n' :: rest => rest
  | '\r' :: '\n' :: rest => rest
  | text => text

/-- The end of a string over several lines in quotes of a kind, of which one or two may stand
    before the closing three. -/
def closeLong (quote : Char) : List Char → Option (List Char × List Char)
  | a :: b :: c :: d :: e :: rest =>
    if a = quote && b = quote && c = quote then
      if d = quote && e = quote then some ([quote, quote], rest)
      else if d = quote then some ([quote], e :: rest)
      else some ([], d :: e :: rest)
    else none
  | [a, b, c, d] =>
    if a = quote && b = quote && c = quote then
      if d = quote then some ([quote], []) else some ([], [d])
    else none
  | [a, b, c] => if a = quote && b = quote && c = quote then some ([], []) else none
  | _ => none

/-- The rest of a string over several lines in single quotes. -/
def longLiteralString : List Char → Scanned
  | [] => .error .malformed
  | c :: rest =>
    match closeLong '\'' (c :: rest) with
    | some (content, rest) => .ok (content, rest)
    | none =>
      if isPlain c || c == '\n' || (c == '\r' && rest.head? == some '\n') then
        (longLiteralString rest).cons c
      else .error .malformed

/-- Where a string over several lines in double quotes is. -/
inductive LongState where
  | inText
  /-- Between a backslash and the end of its line. -/
  | beforeGap
  /-- In the blanks and line ends that are left out after it. -/
  | inGap
  deriving DecidableEq

/-- The rest of a string over several lines in double quotes. A backslash at the end of a line
    leaves out all blanks and line ends that follow. -/
def longBasicString (state : LongState) (text : List Char) : Scanned :=
  match state, text with
  | .beforeGap, '\n' :: rest => longBasicString .inGap rest
  | .beforeGap, '\r' :: '\n' :: rest => longBasicString .inGap rest
  | .beforeGap, c :: rest =>
    if c == ' ' || c == '\t' then longBasicString .beforeGap rest else .error .malformed
  | .inGap, '\r' :: '\n' :: rest => longBasicString .inGap rest
  | .inGap, c :: rest =>
    if c == ' ' || c == '\t' || c == '\n' then longBasicString .inGap rest
    else longBasicString .inText (c :: rest)
  | .inText, '\\' :: rest =>
    match h : escape? rest with
    | some (c, rest') =>
      have := escape_length h
      (longBasicString .inText rest').cons c
    | none => longBasicString .beforeGap rest
  | .inText, c :: rest =>
    match closeLong '"' (c :: rest) with
    | some (content, rest) => .ok (content, rest)
    | none =>
      if isPlain c || c == '\n' || (c == '\r' && rest.head? == some '\n') then
        (longBasicString .inText rest).cons c
      else .error .malformed
  | _, [] => .error .malformed
termination_by (text.length, if state = .inGap then 1 else 0)

/-- The string that begins with a quote, and what follows it. -/
def stringFrom : List Char → Scanned
  | '"' :: '"' :: '"' :: rest => longBasicString .inText (dropLineEnd rest)
  | '\'' :: '\'' :: '\'' :: rest => longLiteralString (dropLineEnd rest)
  | '"' :: rest => basicString rest
  | '\'' :: rest => literalString rest
  | _ => .error .malformed

end Rehearsal.Toml
