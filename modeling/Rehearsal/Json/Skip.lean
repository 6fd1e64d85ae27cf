import Rehearsal.Json.Reader

/-! # Passing over values

A member that a record does not know is passed over: its brackets must match and its words and
numbers must be well formed, but strings are not decoded, numbers may be of any size and brackets
may be open to any depth.
-/

namespace Rehearsal.Json.Reader

def passString : Nat → Cursor → Except Fault Cursor
  | 0, c => failAt .endInString c.position
  | fuel + 1, c =>
    match c.rest with
    | [] => failAt .endInString c.position
    | '"' :: _ => .ok c.advance
    | '\\' :: _ =>
      let c := c.advance
      match c.rest with
      | [] => failAt .endInString c.position
      | 'u' :: _ =>
        match hexEscape c.advance with
        | .ok (_, c) => passString fuel c
        | .error fault => .error fault
      | x :: _ =>
        if ['"', '\\', '/', 'b', 'f', 'n', 'r', 't'].contains x then passString fuel c.advance
        else failAt .invalidEscape c.next
    | x :: _ =>
      if x.toNat < 0x20 then failAt .controlCharacter c.position
      else passString fuel c.advance

def passDigits (c : Cursor) : Cursor :=
  c.drop (leadingDigits c.rest).length

/-- Passes over an exponent, from its letter on. -/
def passExponent (c : Cursor) : Except Fault Cursor :=
  let c := c.advance
  let c :=
    match c.rest with
    | '+' :: _ | '-' :: _ => c.advance
    | _ => c
  if (leadingDigits c.rest).isEmpty then failAt .invalidNumber c.next else .ok (passDigits c)

/-- Passes over what follows the whole part of a number. -/
def passTail (c : Cursor) : Except Fault Cursor :=
  match c.rest with
  | '.' :: _ =>
    let c := c.advance
    if (leadingDigits c.rest).isEmpty then failAt .invalidNumber c.next
    else
      let c := passDigits c
      match c.rest with
      | 'e' :: _ | 'E' :: _ => passExponent c
      | _ => .ok c
  | 'e' :: _ | 'E' :: _ => passExponent c
  | _ => .ok c

def passNumber (c : Cursor) : Except Fault Cursor :=
  match c.rest with
  | '0' :: _ =>
    let c := c.advance
    if (leadingDigits c.rest).isEmpty then passTail c else failAt .invalidNumber c.next
  | _ =>
    if (leadingDigits c.rest).isEmpty then failAt .invalidNumber c.next
    else passTail (passDigits c)

def passScalar (c : Cursor) : Except Fault Cursor :=
  match c.rest with
  | [] => failAt .endInValue c.next
  | 'n' :: _ => word ['u', 'l', 'l'] c.advance
  | 't' :: _ => word ['r', 'u', 'e'] c.advance
  | 'f' :: _ => word ['a', 'l', 's', 'e'] c.advance
  | '"' :: _ => passString (c.rest.length + 1) c.advance
  | '-' :: _ => passNumber c.advance
  | x :: _ => if x.isDigit then passNumber c else failAt .expectedValue c.next

def passKey (c : Cursor) : Except Fault Cursor :=
  let c := c.skipBlanks
  match c.rest with
  | [] => failAt .endInObject c.next
  | '"' :: _ =>
    match passString (c.rest.length + 1) c.advance with
    | .ok c => colon c
    | .error fault => .error fault
  | _ :: _ => failAt .keyNotText c.next

/-- Where a pass over a value stands. -/
inductive Stage where
  /-- A value is next. -/
  | value
  /-- An item or the closing bracket is next; after an item a comma may stand. -/
  | inside (comma : Bool)
  deriving Repr

/-- Passes over the rest of a value, of which the given brackets are still open. -/
def pass : Nat → Stage → List Bracket → Cursor → Except Fault Cursor
  | 0, _, _, c => failAt .endInValue c.position
  | fuel + 1, .value, stack, c =>
    let c := c.skipBlanks
    match c.rest with
    | '[' :: _ => pass fuel (.inside false) (.square :: stack) c.advance
    | '\x7b' :: _ => pass fuel (.inside false) (.curly :: stack) c.advance
    | _ =>
      match passScalar c with
      | .ok c => pass fuel (.inside true) stack c
      | .error fault => .error fault
  | _ + 1, .inside _, [], c => .ok c
  | fuel + 1, .inside comma, b :: outer, c =>
    let c := c.skipBlanks
    let item (c : Cursor) : Except Fault Cursor :=
      match b with
      | .square => pass fuel .value (b :: outer) c
      | .curly =>
        match passKey c with
        | .ok c => pass fuel .value (b :: outer) c
        | .error fault => .error fault
    match c.rest with
    | [] => failAt (if b = .square then .endInList else .endInObject) c.next
    | x :: _ =>
      if comma && x == ',' then item c.advance
      else if x == b.closing then pass fuel (.inside true) outer c.advance
      else if comma then
        failAt (if b = .square then .expectedListEnd else .expectedObjectEnd) c.next
      else item c

def skip : Reader Unit := fun _ c =>
  (pass (2 * c.rest.length + 2) .value [] c).map (((), ·))

end Rehearsal.Json.Reader
