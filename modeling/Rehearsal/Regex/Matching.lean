import Rehearsal.Regex.Basic

/-! # Matching

A set of places in a text is a number whose bit `i` stands for the place before the character
`i`. An expression takes the set of places where it may start to the set of those where it may
end; a text matches when some place can be reached. No place is ever tried twice, so that
matching cannot run away.
-/

namespace Rehearsal

/-- A set of places in a text, one bit for each. -/
abbrev Places := Nat

namespace Places

/-- The number with a bit for every place at which a test holds, the first bit first. -/
def ofBits (bits : List Bool) : Places :=
  bits.foldr (fun bit rest => 2 * rest + bit.toNat) 0

end Places

/-- The places around each character of a text: what stands before and what stands after. -/
def neighbours (before : Option Char) : List Char → List (Option Char × Option Char)
  | [] => [(before, none)]
  | c :: rest => (before, some c) :: neighbours (some c) rest

namespace Anchor

def isWord (unicode : Bool) (c : Option Char) : Bool :=
  c.any (if unicode then CharSet.word else CharSet.asciiWord)

def holds (before after : Option Char) : Anchor → Bool
  | textStart => before.isNone
  | textEnd => after.isNone
  | lineStart false => before.isNone || before == some '\n'
  | lineStart true =>
    before.isNone || before == some '\n' || (before == some '\r' && after != some '\n')
  | lineEnd false => after.isNone || after == some '\n'
  | lineEnd true =>
    after.isNone || after == some '\r' || (after == some '\n' && before != some '\r')
  | wordEdge u => isWord u before != isWord u after
  | notWordEdge u => isWord u before == isWord u after
  | wordStart u => !isWord u before && isWord u after
  | wordEnd u => isWord u before && !isWord u after
  | wordStartHalf u => !isWord u before
  | wordEndHalf u => !isWord u after

end Anchor

/-- An expression laid over one text. -/
inductive Overlay where
  | empty
  /-- One character, which may be any before which there is one of these places. -/
  | chars (places : Places)
  | anchor (places : Places)
  | sequence (parts : List Overlay)
  | choice (branches : List Overlay)
  | repeated (least : Nat) (most : Option Nat) (inner : Overlay)

namespace Overlay

mutual

def ofRegex (text : List Char) : Regex → Overlay
  | .empty => empty
  | .chars _ set => chars (Places.ofBits (text.map set))
  | .anchor a =>
    anchor (Places.ofBits ((neighbours none text).map fun (before, after) => a.holds before after))
  | .sequence parts => sequence (ofRegexes text parts)
  | .choice branches => choice (ofRegexes text branches)
  | .group inner => ofRegex text inner
  | .repeated least most inner => repeated least most (ofRegex text inner)

def ofRegexes (text : List Char) : List Regex → List Overlay
  | [] => []
  | part :: rest => ofRegex text part :: ofRegexes text rest

end

/-- Takes a step a number of times, or until it changes nothing more. -/
def iterate (step : Places → Places) : Nat → Places → Places
  | 0, s => s
  | n + 1, s =>
    let t := step s
    if t == s then s else iterate step n t

/-- Collects what is reached by taking a step at most a number of times. -/
def collect (step : Places → Places) : Nat → Places → Places
  | 0, s => s
  | n + 1, s =>
    let t := s ||| step s
    if t == s then s else collect step n t

mutual

/-- The places where an expression may end, given those where it may start and the number of
    places in the text. -/
def ends (count : Nat) : Overlay → Places → Places
  | empty, s => s
  | chars places, s => (s &&& places) <<< 1
  | anchor places, s => s &&& places
  | sequence parts, s => endsInTurn count parts s
  | choice branches, s => endsOfAny count branches s
  | repeated least most inner, s =>
    let step := ends count inner
    let s := iterate step (min least count) s
    match most with
    | none => collect step count s
    | some most => collect step (min (most - least) count) s

/-- The places where expressions one after another may end. -/
def endsInTurn (count : Nat) : List Overlay → Places → Places
  | [], s => s
  | part :: rest, s => endsInTurn count rest (ends count part s)

/-- The places where one of several expressions may end. -/
def endsOfAny (count : Nat) : List Overlay → Places → Places
  | [], _ => 0
  | branch :: rest, s => ends count branch s ||| endsOfAny count rest s

end

end Overlay

namespace Regex

def isMatch (regex : Regex) (text : String) : Bool :=
  let chars := text.toList
  let count := chars.length + 1
  (Overlay.ofRegex chars regex).ends count (Nat.pow 2 count - 1) != 0

end Regex

end Rehearsal
