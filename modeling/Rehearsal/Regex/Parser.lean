import Rehearsal.Regex.Basic

/-! # Reading regular expressions

The grammar of expressions. Flags that are set inside a group hold to its end, also in later
branches; what they mean for letter case, lines and words is settled while reading.
-/

namespace Rehearsal.Regex

/-- Why a text is no regular expression. -/
inductive Problem where
  | groupUnclosed
  | groupUnopened
  | groupName
  | lookAround
  | flags
  | operandMissing
  | count
  | escape
  | codePoint
  | wordBoundary
  | setUnclosed
  | setItem
  | setRange
  | property
  /-- What is meant lies outside of ASCII while the flags restrict to it. -/
  | outsideAscii
  | tooDeep
  | tooLarge
  deriving Repr, DecidableEq

/-- What a message adds about an expression that is well formed and still refused. -/
def Problem.remark : Problem → String
  | tooLarge => ": Compiled regex exceeds size limit of 10485760 bytes."
  | _ => ""

/-- How an expression is to be understood. -/
structure Flags where
  caseless : Bool := false
  multiLine : Bool := false
  dotAll : Bool := false
  crlf : Bool := false
  swapGreed : Bool := false
  unicode : Bool := true
  /-- Blanks and comments may stand between the parts. -/
  extended : Bool := false
  deriving Repr, DecidableEq

/-- The characters of an expression from the current place on. -/
abbrev Input := List Char

namespace Flags

/-- Passes over blanks and comments, inside of a comment or not. -/
def skipFrom (comment : Bool) : Input → Input
  | [] => []
  | c :: rest =>
    if comment then skipFrom (c != '\n') rest
    else if Text.isBlank c then skipFrom false rest
    else if c == '#' then skipFrom true rest
    else c :: rest

/-- Passes over blanks and comments where they may stand. -/
def skip (flags : Flags) (input : Input) : Input :=
  if flags.extended then skipFrom false input else input

/-- The input after the next character, and after blanks. -/
def next (flags : Flags) (input : Input) : Input :=
  flags.skip (input.drop 1)

/-- The input after the next character and blanks, and after the letters of a comment's sign:
    what decides whether a dash makes a range. -/
def afterNext (flags : Flags) (input : Input) : Option Char :=
  let rest := input.drop 1
  if flags.extended then
    let rest' := rest.dropWhile Text.isBlank
    match rest' with
    | '#' :: more => ((more.dropWhile Text.isBlank).head?).or rest.head?
    | [] => rest.head?
    | c :: _ => some c
  else rest.head?

/-- The flag of a letter with the value given to it. -/
def set? (flags : Flags) (letter : Char) (on : Bool) : Option Flags :=
  match letter with
  | 'i' => some { flags with caseless := on }
  | 'm' => some { flags with multiLine := on }
  | 's' => some { flags with dotAll := on }
  | 'R' => some { flags with crlf := on }
  | 'U' => some { flags with swapGreed := on }
  | 'u' => some { flags with unicode := on }
  | 'x' => some { flags with extended := on }
  | _ => none

end Flags

/-- What is read, with the rest of the input. -/
abbrev Read (α : Type) := Except Problem (α × Input)

/-! ### Escapes -/

/-- What an escape stands for. -/
inductive Primitive where
  /-- A character; `byte` marks one that was written as a byte with two hexadecimal digits. -/
  | literal (c : Char) (byte : Bool)
  | set (set : CharSet)
  | anchor (anchor : Anchor)

def hexValue? (c : Char) : Option Nat :=
  if c.isDigit then some (c.toNat - 48)
  else if 'a' ≤ c ∧ c ≤ 'f' then some (c.toNat - 87)
  else if 'A' ≤ c ∧ c ≤ 'F' then some (c.toNat - 55)
  else none

def charOfHex? (digits : List Nat) : Option Char :=
  let code := digits.foldl (fun n d => n * 16 + d) 0
  if code.isValidChar then some (Char.ofNat code) else none

def hexDigits (flags : Flags) : Nat → Input → Except Problem (List Nat × Input)
  | 0, input => .ok ([], input)
  | n + 1, input =>
    match input with
    | [] => .error .escape
    | c :: _ =>
      match hexValue? c with
      | none => .error .codePoint
      | some d => do
        let (digits, rest) ← hexDigits flags n (flags.next input)
        .ok (d :: digits, rest)

/-- Hexadecimal digits up to a closing brace. -/
def bracedHex (flags : Flags) : Nat → Input → Except Problem (List Nat × Input)
  | 0, _ => .error .escape
  | fuel + 1, input =>
    match input with
    | [] => .error .escape
    | '\x7d' :: _ => .ok ([], flags.next input)
    | c :: _ =>
      match hexValue? c with
      | none => .error .codePoint
      | some d => do
        let (digits, rest) ← bracedHex flags fuel (flags.next input)
        .ok (d :: digits, rest)

def codePoint (flags : Flags) (letter : Char) (input : Input) :
    Except Problem (Primitive × Input) := do
  let count := if letter == 'x' then 2 else if letter == 'u' then 4 else 8
  match flags.skip input with
  | [] => .error .escape
  | '\x7b' :: rest =>
    let (digits, rest) ← bracedHex flags (rest.length + 1) (flags.skip rest)
    if digits.isEmpty then .error .codePoint
    else
      match charOfHex? digits with
      | some c => .ok (.literal c false, rest)
      | none => .error .codePoint
  | input =>
    let (digits, rest) ← hexDigits flags count input
    match charOfHex? digits with
    | some c => .ok (.literal c (letter == 'x'), rest)
    | none => .error .codePoint

/-- Characters up to a closing brace. -/
def bracedName (flags : Flags) : Nat → Input → Except Problem (List Char × Input)
  | 0, _ => .error .escape
  | fuel + 1, input =>
    match input with
    | [] => .error .escape
    | '\x7d' :: rest => .ok ([], rest)
    | c :: _ => do
      let (name, rest) ← bracedName flags fuel (flags.next input)
      .ok (c :: name, rest)

/-- Cuts a name at the first place where a mark stands. -/
def cutAt (mark : List Char) : List Char → Option (List Char × List Char)
  | [] => none
  | c :: rest =>
    if mark.isPrefixOf (c :: rest) then some ([], (c :: rest).drop mark.length)
    else (cutAt mark rest).map fun (before, after) => (c :: before, after)

/-- The set that a name in braces stands for. -/
def propertySet? (name : List Char) : Option CharSet :=
  match ((cutAt ['!', '='] name).or (cutAt [':'] name)).or (cutAt ['='] name) with
  | some (property, value) => CharSet.valued? (String.ofList property) (String.ofList value)
  | none => CharSet.named? (String.ofList name)

def property (flags : Flags) (negated : Bool) (input : Input) :
    Except Problem (Primitive × Input) := do
  let (found, rest) ←
    match flags.skip input with
    | [] => .error .escape
    | '\\' :: _ => .error .property
    | '\x7b' :: rest => do
      let (name, rest) ← bracedName flags (rest.length + 1) (flags.skip rest)
      .ok (propertySet? name, rest)
    | c :: rest => .ok (CharSet.named? (String.singleton c), flags.skip rest)
  if !flags.unicode then .error .outsideAscii
  else
    match found with
    | none => .error .property
    | some set =>
      let set := if flags.caseless then set.caseless else set
      .ok (.set (if negated then set.complement else set), rest)

/-- One of the sets with a letter of their own. In ASCII they cannot be negated. -/
def letterSet (flags : Flags) (letter : Char) : Except Problem Primitive :=
  let set : CharSet :=
    match letter.toLower, flags.unicode with
    | 'd', true => CharSet.digit
    | 'd', false => Char.isDigit
    | 's', true => Text.isBlank
    | 's', false => CharSet.asciiBlank
    | _, true => CharSet.word
    | _, false => CharSet.asciiWord
  if letter.isLower then .ok (.set set)
  else if flags.unicode then .ok (.set set.complement)
  else .error .outsideAscii

/-- Whether a character may stand in the name of a kind of boundary. -/
def isBoundaryChar (c : Char) : Bool :=
  c.isAlpha || c == '-'

def boundaryName (flags : Flags) : Nat → Input → Except Problem (List Char × Input)
  | 0, _ => .error .wordBoundary
  | fuel + 1, input =>
    match input with
    | [] => .error .wordBoundary
    | '\x7d' :: rest => .ok ([], rest)
    | c :: _ =>
      if isBoundaryChar c then do
        let (name, rest) ← boundaryName flags fuel (flags.next input)
        .ok (c :: name, rest)
      else .error .wordBoundary

def namedBoundary? (unicode : Bool) : String → Option Anchor
  | "start" => some (.wordStart unicode)
  | "end" => some (.wordEnd unicode)
  | "start-half" => some (.wordStartHalf unicode)
  | "end-half" => some (.wordEndHalf unicode)
  | _ => none

/-- The boundary of a word, of which the kind may follow in braces. Braces that start with
    something else than a letter or a dash belong to a count. -/
def wordBoundary (flags : Flags) (input : Input) : Except Problem (Primitive × Input) := do
  let any : Primitive := .anchor (.wordEdge flags.unicode)
  match input with
  | '\x7b' :: rest =>
    match flags.skip rest with
    | [] => .error .wordBoundary
    | c :: more =>
      if isBoundaryChar c then
        let (name, after) ← boundaryName flags (more.length + 2) (c :: more)
        match namedBoundary? flags.unicode (String.ofList name) with
        | some a => .ok (.anchor a, after)
        | none => .error .wordBoundary
      else .ok (any, input)
  | _ => .ok (any, input)

/-- Whether an escaped character stands for itself: any of ASCII but letters, digits and angle
    brackets. -/
def isEscapable (c : Char) : Bool :=
  c.toNat < 0x80 && !c.isAlphanum && c != '<' && c != '>'

def escape (flags : Flags) (input : Input) : Except Problem (Primitive × Input) :=
  match input with
  | [] => .error .escape
  | c :: rest =>
    let u := flags.unicode
    if isEscapable c then .ok (.literal c false, rest)
    else
      match c with
      | 'x' | 'u' | 'U' => codePoint flags c rest
      | 'p' => property flags false rest
      | 'P' => property flags true rest
      | 'd' | 's' | 'w' | 'D' | 'S' | 'W' => (letterSet flags c).map ((·, rest))
      | 'a' => .ok (.literal '\x07' false, rest)
      | 'f' => .ok (.literal '\x0c' false, rest)
      | 't' => .ok (.literal '\t' false, rest)
      | 'n' => .ok (.literal '\n' false, rest)
      | 'r' => .ok (.literal '\r' false, rest)
      | 'v' => .ok (.literal '\x0b' false, rest)
      | 'A' => .ok (.anchor .textStart, rest)
      | 'z' => .ok (.anchor .textEnd, rest)
      | 'b' => wordBoundary flags rest
      | 'B' => .ok (.anchor (.notWordEdge u), rest)
      | '<' => .ok (.anchor (.wordStart u), rest)
      | '>' => .ok (.anchor (.wordEnd u), rest)
      | _ => .error .escape

/-! ### Sets in brackets -/

/-- A set, with how deep brackets and operations were nested in its writing. -/
structure SetPart where
  set : CharSet
  depth : Nat := 0

inductive SetOperation where
  | intersection
  | difference
  | symmetricDifference
  deriving Repr, DecidableEq

/-- A set with the case of letters ignored if the flags say so. -/
def foldCase (flags : Flags) (set : CharSet) : CharSet :=
  if flags.caseless then (if flags.unicode then set.caseless else set.asciiCaseless) else set

/-- A set with its case folded, and negated if asked for; in ASCII it cannot be negated. -/
def closeSet (flags : Flags) (negated : Bool) (set : CharSet) : Except Problem CharSet :=
  let set := foldCase flags set
  if !negated then .ok set
  else if flags.unicode then .ok set.complement
  else .error .outsideAscii

/-- The parts of a set, the last one first, as one. -/
def unionOf : List SetPart → SetPart
  | [one] => one
  | parts =>
    ⟨CharSet.union (parts.reverse.map (·.set)),
      if parts.isEmpty then 0 else parts.foldl (fun n part => max n part.depth) 0 + 1⟩

/-- Applies a pending operation to its two sides. -/
def applyOperation (flags : Flags) : Option (SetOperation × SetPart) → SetPart → SetPart
  | none, right => right
  | some (op, left), right =>
    let a := foldCase flags left.set
    let b := foldCase flags right.set
    let set :=
      match op with
      | .intersection => CharSet.intersection a b
      | .difference => CharSet.difference a b
      | .symmetricDifference => CharSet.symmetricDifference a b
    ⟨set, max left.depth right.depth + 1⟩

/-- A named set of ASCII such as `[:alpha:]`, after its opening bracket. -/
def asciiSet? (input : Input) : Option (Bool × CharSet × Input) :=
  match input with
  | ':' :: rest =>
    let (negated, rest) :=
      match rest with
      | '^' :: rest => (true, rest)
      | _ => (false, rest)
    let name := rest.takeWhile (· != ':')
    match rest.drop name.length with
    | ':' :: ']' :: after =>
      (CharSet.asciiNamed? (String.ofList name)).map fun set => (negated, set, after)
    | _ => none
  | _ => none

def setItem (flags : Flags) (input : Input) : Except Problem (Primitive × Input) :=
  match input with
  | [] => .error .setUnclosed
  | '\\' :: rest => escape flags rest
  | c :: rest => .ok (.literal c false, rest)

/-- The character of an item that has to be one; in ASCII it has to belong there. -/
def itemChar (flags : Flags) : Primitive → Except Problem Char
  | .literal c _ => if flags.unicode || c.toNat < 0x80 then .ok c else .error .outsideAscii
  | _ => .error .setRange

def itemSet (flags : Flags) : Primitive → Except Problem CharSet
  | .set set => .ok set
  | .anchor _ => .error .setItem
  | item => (itemChar flags item).map CharSet.single

def setRange (flags : Flags) (input : Input) : Except Problem (CharSet × Input) := do
  let (first, rest) ← setItem flags input
  match flags.skip rest with
  | [] => .error .setUnclosed
  | '-' :: more =>
    let after := flags.afterNext ('-' :: more)
    if after == some ']' || after == some '-' then .ok (← itemSet flags first, '-' :: more)
    else
      match flags.skip more with
      | [] => .error .setUnclosed
      | more =>
        let (last, rest) ← setItem flags more
        let a ← itemChar flags first
        let b ← itemChar flags last
        if a ≤ b then .ok (CharSet.range a b, rest) else .error .setRange
  | rest => .ok (← itemSet flags first, rest)

/-- The dashes that may stand at the start of a set. -/
def leadingDashes (flags : Flags) : Nat → Input → List SetPart → List SetPart × Input
  | 0, input, parts => (parts, input)
  | fuel + 1, input, parts =>
    match input with
    | '-' :: _ => leadingDashes flags fuel (flags.next input) (⟨CharSet.single '-', 0⟩ :: parts)
    | _ => (parts, input)

/-- The start of a set after its bracket: whether it is negated, and what may stand only there. -/
def openSet (flags : Flags) (input : Input) : Except Problem (Bool × List SetPart × Input) :=
  let input := flags.skip input
  let (negated, input) :=
    match input with
    | '^' :: _ => (true, flags.next input)
    | _ => (false, input)
  let (parts, input) := leadingDashes flags (input.length + 1) input []
  let (parts, input) : List SetPart × Input :=
    match parts, input with
    | [], ']' :: _ => ([⟨CharSet.single ']', 0⟩], flags.next input)
    | _, _ => (parts, input)
  if input.isEmpty then .error .setUnclosed else .ok (negated, parts, input)

/-- The rest of a set, given what its left side is and its parts so far in reverse. -/
def setBody (flags : Flags) :
    Nat → Option (SetOperation × SetPart) → List SetPart → Input →
      Except Problem (SetPart × Input)
  | 0, _, _, _ => .error .setUnclosed
  | fuel + 1, left, parts, input =>
    let operate (op : SetOperation) (rest : Input) : Except Problem (SetPart × Input) :=
      setBody flags fuel (some (op, applyOperation flags left (unionOf parts))) [] rest
    match flags.skip input with
    | [] => .error .setUnclosed
    | '[' :: rest =>
      match asciiSet? rest with
      | some (negated, set, rest) => do
        let set ← closeSet flags negated set
        setBody flags fuel left (⟨set, 0⟩ :: parts) rest
      | none => do
        let (negated, inner, rest) ← openSet flags rest
        let (part, rest) ← setBody flags fuel none inner rest
        let set ← closeSet flags negated part.set
        setBody flags fuel left (⟨set, part.depth + 1⟩ :: parts) rest
    | ']' :: rest => .ok (applyOperation flags left (unionOf parts), rest)
    | '&' :: '&' :: rest => operate .intersection rest
    | '-' :: '-' :: rest => operate .difference rest
    | '~' :: '~' :: rest => operate .symmetricDifference rest
    | input => do
      let (set, rest) ← setRange flags input
      setBody flags fuel left (⟨set, 0⟩ :: parts) rest

def bracketedSet (flags : Flags) (input : Input) : Except Problem (Regex × Input) := do
  let (negated, parts, rest) ← openSet flags input
  let (part, rest) ← setBody flags (rest.length + 1) none parts rest
  let set ← closeSet flags negated part.set
  .ok (.chars (part.depth + 1) set, rest)

/-! ### Counts -/

def maxCount : Nat := Nat.pow 2 32 - 1

/-- A decimal number, around which blanks may stand; none if there are no digits. -/
def decimal (flags : Flags) : Nat → Option Nat → Input → Except Problem (Option Nat × Input)
  | 0, n, input => .ok (n, input)
  | fuel + 1, n, input =>
    match input with
    | c :: _ =>
      if c.isDigit then
        decimal flags fuel (some (n.getD 0 * 10 + (c.toNat - 48))) (flags.next input)
      else if maxCount < n.getD 0 then .error .count
      else .ok (n, blanksAfter fuel input)
    | [] => if maxCount < n.getD 0 then .error .count else .ok (n, [])
where
  /-- Passes over the blanks after a number. -/
  blanksAfter : Nat → Input → Input
    | 0, input => input
    | fuel + 1, input =>
      match input with
      | c :: _ => if Text.isBlank c then blanksAfter fuel (flags.next input) else input
      | [] => []

def number (flags : Flags) (input : Input) : Except Problem (Option Nat × Input) :=
  let input := input.dropWhile Text.isBlank
  decimal flags (input.length + 1) none input

/-- A count of repetitions after its opening brace. -/
def counted (flags : Flags) (input : Input) : Except Problem ((Nat × Option Nat) × Input) := do
  let (least, rest) ← number flags (flags.skip input)
  match least, rest with
  | some n, '\x7d' :: rest => .ok ((n, some n), rest)
  | some n, ',' :: rest =>
    match flags.skip rest with
    | '\x7d' :: rest => .ok ((n, none), rest)
    | rest =>
      match ← number flags rest with
      | (some m, '\x7d' :: rest) => if n ≤ m then .ok ((n, some m), rest) else .error .count
      | _ => .error .count
  | _, _ => .error .count

/-! ### Groups -/

/-- Letters of flags with whether each is switched on, in reverse, and the character after them. -/
def flagItems : Nat → Bool → List Char → List (Char × Bool) → Input →
    Except Problem (List (Char × Bool) × Char × Input)
  | 0, _, _, _, _ => .error .flags
  | fuel + 1, on, seen, items, input =>
    match input with
    | [] => .error .flags
    | c :: rest =>
      if c == ':' || c == ')' then
        if seen.head? == some '-' then .error .flags else .ok (items, c, rest)
      else if seen.contains c then .error .flags
      else if c == '-' then flagItems fuel false (c :: seen) items rest
      else flagItems fuel on (c :: seen) ((c, on) :: items) rest

def applyFlags (flags : Flags) (items : List (Char × Bool)) : Except Problem Flags :=
  items.reverse.foldlM (fun flags (letter, on) =>
    match flags.set? letter on with
    | some flags => .ok flags
    | none => .error .flags) flags

def isNameChar (first : Bool) (c : Char) : Bool :=
  c == '_' ||
    if first then Unicode.alphabetic.contains c
    else
      c == '.' || c == '[' || c == ']' || Unicode.alphabetic.contains c ||
        match Unicode.Category.of c with
        | .decimalNumber | .letterNumber | .otherNumber => true
        | _ => false

def groupName (input : Input) : Except Problem (List Char × Input) :=
  let name := input.takeWhile (· != '>')
  match name, input.drop name.length with
  | first :: others, '>' :: rest =>
    if isNameChar true first && others.all (isNameChar false) then .ok (name, rest)
    else .error .groupName
  | _, _ => .error .groupName

inductive GroupStart where
  /-- No group: flags for what follows. -/
  | flagsOnly (flags : Flags)
  | opened (flags : Flags) (name : Option (List Char))

def groupStart (flags : Flags) (input : Input) : Except Problem (GroupStart × Input) := do
  match flags.skip input with
  | '?' :: '=' :: _ | '?' :: '!' :: _ | '?' :: '<' :: '=' :: _ | '?' :: '<' :: '!' :: _ =>
    .error .lookAround
  | '?' :: 'P' :: '<' :: rest | '?' :: '<' :: rest =>
    let (name, rest) ← groupName rest
    .ok (.opened flags (some name), rest)
  | '?' :: rest =>
    let (items, last, rest) ← flagItems (rest.length + 1) true [] [] rest
    let inner ← applyFlags flags items
    if last == ':' then .ok (.opened inner none, rest)
    else if items.isEmpty then .error .operandMissing
    else .ok (.flagsOnly inner, rest)
  | rest => .ok (.opened flags none, rest)

/-! ### Expressions -/

def literal (flags : Flags) (c : Char) (byte : Bool) : Except Problem Regex :=
  if !flags.unicode && byte && 0x7f < c.toNat then .error .outsideAscii
  else .ok (.chars 0 (foldCase flags (CharSet.single c)))

/-- Any character, without line ends unless the flags say otherwise. In ASCII there is no such
    set. -/
def dot (flags : Flags) : Except Problem Regex :=
  if !flags.unicode then .error .outsideAscii
  else if flags.dotAll then .ok (.chars 0 CharSet.any)
  else if flags.crlf then .ok (.chars 0 fun c => c != '\n' && c != '\r')
  else .ok (.chars 0 fun c => c != '\n')

/-- The start of a text, or of a line. -/
def caret (flags : Flags) : Regex :=
  .anchor (if flags.multiLine then .lineStart flags.crlf else .textStart)

/-- The end of a text, or of a line. -/
def dollar (flags : Flags) : Regex :=
  .anchor (if flags.multiLine then .lineEnd flags.crlf else .textEnd)

/-- An escape outside of brackets. -/
def ofPrimitive (flags : Flags) : Primitive → Except Problem Regex
  | .literal c byte => literal flags c byte
  | .set set => .ok (.chars 0 set)
  | .anchor a => .ok (.anchor a)

/-- An enclosing group: what was read of it before the inner one, in reverse, and its flags. -/
structure Frame where
  branches : List Regex
  items : List Regex
  flags : Flags

/-- Where reading stands: the flags, the names of groups, the enclosing groups, the branches of
    the current group and the items of the current branch, both in reverse. Flags that were set
    in between count as an empty item. -/
structure State where
  flags : Flags := {}
  names : List (List Char) := []
  frames : List Frame := []
  branches : List Regex := []
  items : List Regex := []

namespace State

def push (s : State) (item : Regex) : State :=
  { s with items := item :: s.items }

def body (s : State) : Regex :=
  let branch := Regex.ofSequence s.items.reverse
  if s.branches.isEmpty then branch else Regex.ofChoice (s.branches.reverse ++ [branch])

def repeatLast (s : State) (least : Nat) (most : Option Nat) : Except Problem State :=
  match s.items with
  | [] | .empty :: _ => .error .operandMissing
  | item :: rest => .ok { s with items := .repeated least most item :: rest }

def enter (s : State) (flags : Flags) (name : Option (List Char)) : Except Problem State :=
  let inner : State :=
    { flags, names := s.names, frames := ⟨s.branches, s.items, s.flags⟩ :: s.frames }
  match name with
  | none => .ok inner
  | some name =>
    if s.names.contains name then .error .groupName
    else .ok { inner with names := name :: s.names }

def leave (s : State) : Except Problem State :=
  match s.frames with
  | [] => .error .groupUnopened
  | frame :: frames =>
    .ok { flags := frame.flags, names := s.names, frames, branches := frame.branches,
          items := .group s.body :: frame.items }

end State

/-- Passes over the sign after a repetition that makes it reluctant. -/
def skipReluctance : Input → Input
  | '?' :: rest => rest
  | rest => rest

/-- One step: an operator, a bracket or a literal. -/
def step (s : State) (c : Char) (rest : Input) : Except Problem (State × Input) := do
  match c with
  | '(' =>
    match ← groupStart s.flags rest with
    | (.flagsOnly flags, rest) => .ok ({ s with flags }.push .empty, rest)
    | (.opened flags name, rest) => .ok (← s.enter flags name, rest)
  | ')' => .ok (← s.leave, rest)
  | '|' =>
    .ok ({ s with branches := Regex.ofSequence s.items.reverse :: s.branches, items := [] }, rest)
  | '[' =>
    let (set, rest) ← bracketedSet s.flags rest
    .ok (s.push set, rest)
  | '?' => .ok (← s.repeatLast 0 (some 1), skipReluctance rest)
  | '*' => .ok (← s.repeatLast 0 none, skipReluctance rest)
  | '+' => .ok (← s.repeatLast 1 none, skipReluctance rest)
  | '\x7b' =>
    let _ ← s.repeatLast 0 none
    let ((least, most), rest) ← counted s.flags rest
    .ok (← s.repeatLast least most, skipReluctance (s.flags.skip rest))
  | '\\' =>
    let (primitive, rest) ← escape s.flags rest
    .ok (s.push (← ofPrimitive s.flags primitive), rest)
  | '.' => .ok (s.push (← dot s.flags), rest)
  | '^' => .ok (s.push (caret s.flags), rest)
  | '$' => .ok (s.push (dollar s.flags), rest)
  | c => .ok (s.push (← literal s.flags c false), rest)

def depthLimit : Nat := 250

/-- Reads to the end. Every step takes a character at least. -/
def run : Nat → State → Input → Except Problem Regex
  | 0, _, _ => .error .groupUnclosed
  | fuel + 1, s, input =>
    match s.flags.skip input with
    | [] =>
      if !s.frames.isEmpty then .error .groupUnclosed
      else if depthLimit < s.body.depth then .error .tooDeep
      else .ok s.body
    | c :: rest =>
      match step s c rest with
      | .ok (s, rest) => run fuel s rest
      | .error problem => .error problem

def parse (text : String) : Except Problem Regex :=
  match run (text.length + 1) {} text.toList with
  | .error problem => .error problem
  | .ok regex => if sizeLimit < regex.size then .error .tooLarge else .ok regex

end Rehearsal.Regex
