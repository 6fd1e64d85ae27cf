import Rehearsal.Json.Fault

/-! # Reading JSON texts

A reader takes what is left of a text, and how many brackets may still be opened, to a value and
the rest. This module has the readers for words, strings, numbers, lists and objects; readers for
values of a type are put together from them, so that a fault is found where reading meets it.
-/

namespace Rehearsal.Json

/-- Reads a value from a cursor, at most `depth` brackets deep. -/
def Reader (α : Type) := (depth : Nat) → Cursor → Except Fault (α × Cursor)

namespace Reader

variable {α β : Type}

def pure (a : α) : Reader α := fun _ c => .ok (a, c)

/-- Reads one thing, then another that may depend on it. -/
def bind (r : Reader α) (f : α → Reader β) : Reader β := fun depth c =>
  match r depth c with
  | .ok (a, c) => f a depth c
  | .error fault => .error fault

instance : Monad Reader where
  pure := pure
  bind := bind

/-- Stops with a fault at the current place. -/
def failAt (reason : Reason) (p : Position) : Except Fault β :=
  .error ⟨reason, .known p⟩

/-- Stops with a fault whose place the brackets around it decide. -/
def failPending (reason : Reason) (c : Cursor) : Except Fault β :=
  .error ⟨reason, .pending c⟩

/-! ### Words and strings -/

/-- Passes over the remaining letters of a word such as `null`. -/
def word : List Char → Cursor → Except Fault Cursor
  | [], c => .ok c
  | x :: xs, c =>
    match c.rest with
    | [] => failAt .endInValue c.position
    | y :: _ => if x = y then word xs c.advance else failAt .expectedWord c.next

def hexValue? (c : Char) : Option Nat :=
  if c.isDigit then some (c.toNat - 48)
  else if 'a' ≤ c ∧ c ≤ 'f' then some (c.toNat - 87)
  else if 'A' ≤ c ∧ c ≤ 'F' then some (c.toNat - 55)
  else none

/-- The place after a number of bytes, or none if there are not so many. -/
def afterBytes : Nat → List Char → Position → Option Position
  | 0, _, p => some p
  | _ + 1, [], _ => none
  | n + 1, c :: rest, p =>
    if c.utf8Size ≤ n + 1 then afterBytes (n + 1 - c.utf8Size) rest (p.after c)
    else some ⟨p.line, p.column + n + 1⟩
termination_by n rest => n + rest.length

/-- The place after the whole text. -/
def endOf : List Char → Position → Position
  | [], p => p
  | c :: rest, p => endOf rest (p.after c)

/-- The four digits of an escape by code point. -/
def hexEscape (c : Cursor) : Except Fault (Nat × Cursor) :=
  let digits := (c.rest.take 4).filterMap hexValue?
  if digits.length = 4 then
    .ok (digits.foldl (fun total digit => total * 16 + digit) 0, c.drop 4)
  else
    match afterBytes 4 c.rest c.position with
    | none => failAt .endInString (endOf c.rest c.position)
    | some p => failAt .invalidEscape p

/-- Passes over one given character inside a surrogate pair. -/
def pairMark (x : Char) (c : Cursor) : Except Fault Cursor :=
  match c.rest with
  | [] => failAt .endInString c.position
  | y :: _ => if x = y then .ok c.advance else failAt .halfSurrogatePair c.next

/-- The character of an escape after `\u`; a leading surrogate needs its partner. -/
def codeEscape (c : Cursor) : Except Fault (Char × Cursor) := do
  let (high, c) ← hexEscape c
  if 0xDC00 ≤ high ∧ high ≤ 0xDFFF then failAt .loneSurrogate c.position
  else if high < 0xD800 ∨ 0xDBFF < high then .ok (Char.ofNat high, c)
  else do
    let c ← pairMark '\\' c
    let c ← pairMark 'u' c
    let (low, c) ← hexEscape c
    if low < 0xDC00 ∨ 0xDFFF < low then failAt .loneSurrogate c.position
    else .ok (Char.ofNat (0x10000 + (high - 0xD800) * 0x400 + (low - 0xDC00)), c)

/-- The character of an escape, after its backslash. -/
def escaped (c : Cursor) : Except Fault (Char × Cursor) :=
  match c.rest with
  | [] => failAt .endInString c.position
  | '"' :: _ => .ok ('"', c.advance)
  | '\\' :: _ => .ok ('\\', c.advance)
  | '/' :: _ => .ok ('/', c.advance)
  | 'b' :: _ => .ok ('\x08', c.advance)
  | 'f' :: _ => .ok ('\x0c', c.advance)
  | 'n' :: _ => .ok ('\n', c.advance)
  | 'r' :: _ => .ok ('\r', c.advance)
  | 't' :: _ => .ok ('\t', c.advance)
  | 'u' :: _ => codeEscape c.advance
  | _ :: _ => failAt .invalidEscape c.next

/-- The characters of a string up to its closing quote, after those read so far in reverse. -/
def stringBody : Nat → List Char → Cursor → Except Fault (List Char × Cursor)
  | 0, _, c => failAt .endInString c.position
  | fuel + 1, done, c =>
    match c.rest with
    | [] => failAt .endInString c.position
    | '"' :: _ => .ok (done.reverse, c.advance)
    | '\\' :: _ =>
      match escaped c.advance with
      | .ok (x, c) => stringBody fuel (x :: done) c
      | .error fault => .error fault
    | x :: _ =>
      if x.toNat < 0x20 then failAt .controlCharacter c.next
      else stringBody fuel (x :: done) c.advance

/-- A string, after its opening quote. -/
def stringAfterQuote (c : Cursor) : Except Fault (String × Cursor) :=
  match stringBody (c.rest.length + 1) [] c with
  | .ok (chars, c) => .ok (String.ofList chars, c)
  | .error fault => .error fault

/-! ### Numbers -/

/-- The largest natural number that is kept exact. -/
def maxWord : Nat := Nat.pow 2 64 - 1

def powerOfTen (n : Nat) : Float :=
  Float.ofScientific 1 false n

/-- Brings a negative exponent into the range of the powers of ten by dividing. -/
def scaleDown : Nat → Float → Int → Float × Int
  | 0, f, e => (f, e)
  | fuel + 1, f, e =>
    if e < -308 ∧ f != 0.0 then scaleDown fuel (f / powerOfTen 308) (e + 308) else (f, e)

/-- The number `significand * 10 ^ exponent` by one multiplication or by divisions; none if it is
    too large. -/
def ofParts? (significand : Nat) (exponent : Int) : Option Float :=
  let f := significand.toUInt64.toFloat
  if 0 ≤ exponent then
    if f == 0.0 then some f
    else if 308 < exponent then none
    else
      let x := f * powerOfTen exponent.toNat
      if x.isInf then none else some x
  else
    let (f, e) := scaleDown 4 f exponent
    if f == 0.0 then some f else some (f / powerOfTen (-e).toNat)

def withSign (positive : Bool) (x : Float) : Number :=
  .real (if positive then x else -x)

/-- The number of parts already read, ending at the cursor. -/
def finishReal (positive : Bool) (significand : Nat) (exponent : Int) (c : Cursor) :
    Except Fault (Number × Cursor) :=
  match ofParts? significand exponent with
  | some x => .ok (withSign positive x, c)
  | none => failAt .numberOutOfRange c.position

def leadingDigits (text : List Char) : List Char :=
  text.takeWhile Char.isDigit

/-- Reads digits into a number up to a limit; gives how many of them were taken. -/
def takeDigits (limit : Nat) : Nat → Nat → List Char → Nat × Nat
  | value, taken, [] => (value, taken)
  | value, taken, d :: rest =>
    let larger := value * 10 + (d.toNat - 48)
    if limit < larger then (value, taken) else takeDigits limit larger (taken + 1) rest

/-- The largest exponent that is kept. -/
def maxExponent : Nat := Nat.pow 2 31 - 1

/-- The exponent after `e`; the parts before it are given. -/
def exponentPart (positive : Bool) (significand : Nat) (exponent : Int) (c : Cursor) :
    Except Fault (Number × Cursor) :=
  let c := c.advance
  let (rising, c) :=
    match c.rest with
    | '+' :: _ => (true, c.advance)
    | '-' :: _ => (false, c.advance)
    | _ => (true, c)
  match c.rest with
  | [] => failAt .endInValue c.position
  | d :: _ =>
    if !d.isDigit then failAt .invalidNumber c.next
    else
      let digits := leadingDigits c.rest
      let (value, taken) := takeDigits maxExponent 0 0 digits
      if taken < digits.length then
        if significand ≠ 0 ∧ rising then failAt .numberOutOfRange (c.drop (taken + 1)).position
        else .ok (withSign positive 0.0, c.drop digits.length)
      else
        finishReal positive significand
          (if rising then exponent + value else exponent - value) (c.drop digits.length)

/-- The fraction after the point; the parts before it are given. -/
def fractionPart (positive : Bool) (significand : Nat) (exponent : Int) (c : Cursor) :
    Except Fault (Number × Cursor) :=
  let c := c.advance
  let digits := leadingDigits c.rest
  if digits.isEmpty then
    match c.rest with
    | [] => failAt .endInValue c.position
    | _ :: _ => failAt .invalidNumber c.next
  else
    let (value, taken) := takeDigits maxWord significand 0 digits
    let c := c.drop digits.length
    match c.rest with
    | 'e' :: _ | 'E' :: _ => exponentPart positive value (exponent - taken) c
    | _ => finishReal positive value (exponent - taken) c

/-- What follows the whole part of a number, of which `dropped` digits did not fit a word. -/
def numberTail (positive : Bool) (significand dropped : Nat) (c : Cursor) :
    Except Fault (Number × Cursor) :=
  match c.rest with
  | '.' :: _ => fractionPart positive significand dropped c
  | 'e' :: _ | 'E' :: _ => exponentPart positive significand dropped c
  | _ =>
    if dropped ≠ 0 then finishReal positive significand dropped c
    else if positive then .ok (.natural significand, c)
    else if significand ≠ 0 ∧ significand ≤ Nat.pow 2 63 then .ok (.negative (-significand), c)
    else .ok (.real (-significand.toUInt64.toFloat), c)

def unsignedNumber (positive : Bool) (c : Cursor) : Except Fault (Number × Cursor) :=
  match c.rest with
  | [] => failAt .endInValue c.position
  | '0' :: rest =>
    match rest with
    | d :: _ =>
      if d.isDigit then failAt .invalidNumber c.advance.next
      else numberTail positive 0 0 c.advance
    | [] => numberTail positive 0 0 c.advance
  | d :: _ =>
    if d.isDigit then
      let digits := leadingDigits c.rest
      let (value, taken) := takeDigits maxWord 0 0 digits
      numberTail positive value (digits.length - taken) (c.drop digits.length)
    else failAt .invalidNumber c.next

def number? (c : Cursor) : Option (Except Fault (Number × Cursor)) :=
  match c.rest with
  | '-' :: _ => some (unsignedNumber false c.advance)
  | d :: _ => if d.isDigit then some (unsignedNumber true c) else none
  | [] => none

/-! ### Lists and objects -/

inductive Bracket where
  | square
  | curly
  deriving Repr, DecidableEq

namespace Bracket

def opening : Bracket → Char
  | square => '['
  | curly => '\x7b'

def closing : Bracket → Char
  | square => ']'
  | curly => '\x7d'

/-- Passes over the closing bracket. -/
def close (b : Bracket) (c : Cursor) : Except Fault Cursor :=
  let c := c.skipBlanks
  match c.rest with
  | [] => failAt (if b = .square then .endInList else .endInObject) c.next
  | x :: _ =>
    if x = b.closing then .ok c.advance
    else if x = ',' then
      match b with
      | .curly => failAt .trailingComma c.next
      | .square =>
        let c := c.advance.skipBlanks
        match c.rest with
        | ']' :: _ => failAt .trailingComma c.next
        | _ => failAt .trailingText c.next
    else failAt .trailingText c.next

/-- The place reached by closing the bracket, as far as that is possible. -/
def settle (b : Bracket) (c : Cursor) : Position :=
  let c := c.skipBlanks
  match c.rest with
  | [] => c.position
  | x :: _ =>
    if x = b.closing then c.advance.position
    else if x = ',' ∧ b = .square then c.advance.skipBlanks.position
    else c.position

end Bracket

/-- Reads what stands between brackets, after the opening one was seen. A fault that waits for a
    place gets the one reached by closing the brackets. -/
def enclosed (b : Bracket) (body : Reader α) : Reader α := fun depth c =>
  match depth with
  | 0 => failAt .tooDeep c.next
  | depth + 1 =>
    match body depth c.advance with
    | .ok (a, c) =>
      match b.close c with
      | .ok c => .ok (a, c)
      | .error fault => .error fault
    | .error ⟨reason, .pending c⟩ => failAt reason (b.settle c)
    | .error fault => .error fault

/-- Goes to the next item of a list, or gives none at its end. -/
def nextItem (first : Bool) (c : Cursor) : Except Fault (Option Cursor × Cursor) :=
  let c := c.skipBlanks
  match c.rest with
  | [] => failAt .endInList c.next
  | ']' :: _ => .ok (none, c)
  | x :: _ =>
    if first then .ok (some c, c)
    else if x = ',' then
      let c := c.advance.skipBlanks
      match c.rest with
      | [] => failAt .endInValue c.next
      | ']' :: _ => failAt .trailingComma c.next
      | _ :: _ => .ok (some c, c)
    else failAt .expectedListEnd c.next

/-- Goes to the next member of an object and reads its name, or gives none at the end. -/
def nextKey (first : Bool) (c : Cursor) : Except Fault (Option String × Cursor) :=
  let c := c.skipBlanks
  match c.rest with
  | [] => failAt .endInObject c.next
  | '\x7d' :: _ => .ok (none, c)
  | x :: _ =>
    if first then
      if x = '"' then key c else failAt .keyNotText c.next
    else if x = ',' then
      let c := c.advance.skipBlanks
      match c.rest with
      | [] => failAt .endInValue c.next
      | '"' :: _ => key c
      | '\x7d' :: _ => failAt .trailingComma c.next
      | _ :: _ => failAt .keyNotText c.next
    else failAt .expectedObjectEnd c.next
where
  /-- The name of a member whose opening quote was seen. -/
  key (c : Cursor) : Except Fault (Option String × Cursor) :=
    match stringAfterQuote c.advance with
    | .ok (name, c) => .ok (some name, c)
    | .error fault => .error fault

/-- Passes over the colon between the name of a member and its value. -/
def colon (c : Cursor) : Except Fault Cursor :=
  let c := c.skipBlanks
  match c.rest with
  | [] => failAt .endInObject c.next
  | ':' :: _ => .ok c.advance
  | _ :: _ => failAt .expectedColon c.next

/-- Items up to the end of a list. -/
def items (item : Reader α) : Nat → Bool → List α → Reader (List α)
  | 0, _, _, _, c => failAt .endInList c.position
  | fuel + 1, first, done, depth, c =>
    match nextItem first c with
    | .error fault => .error fault
    | .ok (none, c) => .ok (done.reverse, c)
    | .ok (some c, _) =>
      match item depth c with
      | .error fault => .error fault
      | .ok (a, c) => items item fuel false (a :: done) depth c

/-- Members up to the end of an object, each value read by a reader that may depend on the name. -/
def members (value : String → Reader α) : Nat → Bool → List (String × α) →
    Reader (List (String × α))
  | 0, _, _, _, c => failAt .endInObject c.position
  | fuel + 1, first, done, depth, c =>
    match nextKey first c with
    | .error fault => .error fault
    | .ok (none, c) => .ok (done.reverse, c)
    | .ok (some name, c) =>
      match colon c with
      | .error fault => .error fault
      | .ok c =>
        match value name depth c with
        | .error fault => .error fault
        | .ok (a, c) => members value fuel false ((name, a) :: done) depth c

/-- All items of a list, after its opening bracket. -/
def allItems (item : Reader α) : Reader (List α) := fun depth c =>
  items item (c.rest.length + 1) true [] depth c

/-- All members of an object, after its opening bracket. -/
def allMembers (value : String → Reader α) : Reader (List (String × α)) := fun depth c =>
  members value (c.rest.length + 1) true [] depth c

/-! ### Values of any kind -/

/-- A value of any kind that opens no brackets, at a cursor that blanks were passed before. -/
def scalar (c : Cursor) : Except Fault (Value × Cursor) :=
  match number? c with
  | some (.ok (n, c)) => .ok (.number n, c)
  | some (.error fault) => .error fault
  | none =>
    match c.rest with
    | [] => failAt .endInValue c.next
    | 'n' :: _ => (word ['u', 'l', 'l'] c.advance).map ((.null, ·))
    | 't' :: _ => (word ['r', 'u', 'e'] c.advance).map ((.bool true, ·))
    | 'f' :: _ => (word ['a', 'l', 's', 'e'] c.advance).map ((.bool false, ·))
    | '"' :: _ => (stringAfterQuote c.advance).map fun (s, c) => (.text s, c)
    | _ :: _ => failAt .expectedValue c.next

/-- A value of any kind, with the members of objects as they stand. -/
def tree : Reader Value
  | depth, c =>
    let c := c.skipBlanks
    match c.rest with
    | '[' :: _ =>
      match depth with
      | 0 => failAt .tooDeep c.next
      | depth + 1 =>
        (enclosed .square (fun _ => allItems (fun _ => tree depth) depth) (depth + 1) c).map
          fun (items, c) => (.list items, c)
    | '\x7b' :: _ =>
      match depth with
      | 0 => failAt .tooDeep c.next
      | depth + 1 =>
        (enclosed .curly (fun _ => allMembers (fun _ _ => tree depth) depth) (depth + 1) c).map
          fun (members, c) => (.object members, c)
    | _ => scalar c

/-- A value of any kind, with the members of objects in order and each name once. -/
def value : Reader Value := do
  let v ← tree
  pure v.canonical

/-! ### Values of one kind -/

/-- The fault of meeting something else than was expected, at a cursor that blanks were passed
    before. It is ascribed to the end of what was met, or to an opening bracket. -/
def unexpected (expected : String) (c : Cursor) : Fault :=
  match c.rest with
  | '[' :: _ => ⟨.wrongType .list expected, .known c.position⟩
  | '\x7b' :: _ => ⟨.wrongType .object expected, .known c.position⟩
  | _ =>
    match scalar c with
    | .ok (v, c) => ⟨.wrongType (.ofValue v) expected, .known c.position⟩
    | .error fault => fault

/-- Reads a scalar and takes from it what `take` finds; the fault otherwise names the kind that
    was expected. -/
def scalarOf (expected : String) (starts : Char → Bool) (take : Value → Except Reason α) :
    Reader α := fun _ c =>
  let c := c.skipBlanks
  match c.rest with
  | [] => failAt .endInValue c.next
  | x :: _ =>
    if starts x then
      match scalar c with
      | .error fault => .error fault
      | .ok (v, c) =>
        match take v with
        | .ok a => .ok (a, c)
        | .error reason => failAt reason c.position
    else .error (unexpected expected c)

/-- A text of a described kind, checked and converted by `take`. -/
def textOf (expected : String) (take : String → Except Reason α) : Reader α :=
  scalarOf expected (· == '"') fun v =>
    match v with
    | .text s => take s
    | v => .error (.wrongType (.ofValue v) expected)

def text : Reader String :=
  textOf "a string" .ok

def bool : Reader Bool :=
  scalarOf "a boolean" (fun x => x == 't' || x == 'f') fun v =>
    match v with
    | .bool b => .ok b
    | v => .error (.wrongType (.ofValue v) "a boolean")

/-- Whether a number may start with this character. -/
def startsNumber (c : Char) : Bool :=
  c == '-' || c.isDigit

/-- The natural number in a number, up to a limit. -/
def naturalOf (expected : String) (limit : Nat) : Number → Except Reason Nat
  | .natural n => if n ≤ limit then .ok n else .error (.wrongValue (.natural n) expected)
  | .negative n => .error (.wrongValue (.negative n) expected)
  | .real x => .error (.wrongType (.real x) expected)

def natural (expected : String) (limit : Nat) : Reader Nat :=
  scalarOf expected startsNumber fun v =>
    match v with
    | .number n => naturalOf expected limit n
    | v => .error (.wrongType (.ofValue v) expected)

def count : Reader Nat :=
  natural "usize" maxWord

/-- A floating point number, which may be written as a whole one. -/
def float : Reader Float :=
  scalarOf "f64" startsNumber fun v =>
    match v with
    | .number n => .ok n.toFloat
    | v => .error (.wrongType (.ofValue v) "f64")

/-- Null, or what `r` reads. -/
def optional (r : Reader α) : Reader (Option α) := fun depth c =>
  let c := c.skipBlanks
  match c.rest with
  | 'n' :: _ =>
    match word ['u', 'l', 'l'] c.advance with
    | .ok c => .ok (none, c)
    | .error fault => .error fault
  | _ =>
    match r depth c with
    | .ok (a, c) => .ok (some a, c)
    | .error fault => .error fault

/-- Brackets of one kind with a body, or the fault of meeting something else. -/
def bracketed (expected : String) (b : Bracket) (body : Reader α) : Reader α := fun depth c =>
  let c := c.skipBlanks
  match c.rest with
  | [] => failAt .endInValue c.next
  | x :: _ =>
    if x = b.opening then enclosed b body depth c else .error (unexpected expected c)

def list (item : Reader α) : Reader (List α) :=
  bracketed "a sequence" .square (allItems item)

/-- A map from texts to what `value` reads; of two members with one name the later counts. -/
def map (value : Reader α) : Reader (SortedMap α) :=
  bracketed "a map" .curly do
    let entries ← allMembers fun _ => value
    pure (SortedMap.ofEntries entries)

/-- One of the given names, as the value that `known` pairs it with. -/
def variantOf (known : List (String × α)) (name : String) : Except Reason α :=
  match known.find? (·.1 == name) with
  | some (_, a) => .ok a
  | none => .error (.unknownVariant name (known.map (·.1)))

/-- A choice among names, where `choose` takes the name to its meaning. It is written as a text,
    or as an object whose one member has the name and the value null. -/
def choice (choose : String → Except Reason α) : Reader α := fun depth c =>
  let c := c.skipBlanks
  let name := textOf "variant identifier" choose
  match c.rest with
  | [] => failAt .endInValue c.next
  | '"' :: _ => name depth c
  | '\x7b' :: _ =>
    match depth with
    | 0 => failAt .tooDeep c.next
    | depth + 1 => do
      let (a, c) ← name depth c.advance
      let c := (← colon c).skipBlanks
      match c.rest with
      | [] => failAt .endInValue c.next
      | 'n' :: _ =>
        let c := (← word ['u', 'l', 'l'] c.advance).skipBlanks
        match c.rest with
        | [] => failAt .endInObject c.position
        | '\x7d' :: _ => .ok (a, c.advance)
        | _ :: _ => failAt .expectedValue c.position
      | _ :: _ => .error (unexpected "unit" c)
  | _ :: _ => failAt .expectedValue c.next

/-! ### Whole texts -/

/-- How many brackets may be open at once. -/
def maxDepth : Nat := 127

/-- Reads a whole text, around which only blanks may stand. -/
def run (r : Reader α) (source : String) : Except Error α :=
  match r maxDepth (.ofText source) with
  | .error fault => .error fault.report
  | .ok (a, c) =>
    let c := c.skipBlanks
    match c.rest with
    | [] => .ok a
    | _ :: _ => .error ⟨.trailingText, some c.next⟩

end Reader

/-- The value that a JSON text stands for. -/
def parse (source : String) : Except Error Value :=
  Reader.value.run source

end Rehearsal.Json
