import Rehearsal.Error

/-! # Patterns of file names

A pattern is matched against the whole of a name. A question mark stands for any character, a star
for any characters, a bracket for a character that is listed in it, or is not if it starts with an
exclamation mark. Two stars that stand for a whole part of a path stand for any number of parts.
-/

namespace Rehearsal

/-- What a bracket lists. -/
inductive GlobRange where
  | single (c : Char)
  | between (first last : Char)
  deriving Repr, DecidableEq

inductive GlobToken where
  | literal (c : Char)
  | anyChar
  /-- Any characters. -/
  | anyText
  /-- Any number of parts of a path. -/
  | anyParts
  | within (ranges : List GlobRange)
  | except (ranges : List GlobRange)
  deriving Repr, DecidableEq

structure Glob where
  source : String
  tokens : List GlobToken
  deriving Repr, DecidableEq

namespace GlobRange

def contains (c : Char) : GlobRange → Bool
  | single listed => c == listed
  | between first last => first ≤ c && c ≤ last

def ofText : List Char → List GlobRange
  | first :: '-' :: last :: rest => between first last :: ofText rest
  | c :: rest => single c :: ofText rest
  | [] => []

end GlobRange

namespace Glob

/-- The text up to the next closing bracket, and the text after it. -/
def closing : List Char → Option (List Char × List Char)
  | [] => none
  | c :: rest =>
    if c = ']' then some ([], rest)
    else (closing rest).map fun (inside, after) => (c :: inside, after)

/-- What follows a closing bracket is shorter than the text before it was read. -/
theorem closing_length {text inside after : List Char}
    (h : closing text = some (inside, after)) : after.length < text.length := by
  induction text generalizing inside with
  | nil => simp [closing] at h
  | cons c rest ih =>
    unfold closing at h
    split at h
    · simp only [Option.some.injEq, Prod.mk.injEq] at h
      simp [h.2]
    · obtain ⟨⟨i, a⟩, hr, he⟩ := Option.map_eq_some_iff.1 h
      simp only [Prod.mk.injEq] at he
      have := ih (he.2 ▸ hr)
      simp only [List.length_cons]
      omega

/-- A problem at a place in the pattern. -/
abbrev Failure := Nat × PatternProblem

/-- Whether two stars at a place may begin a part of a path. -/
def startsPart (position : Nat) (previous : Char) : Bool :=
  position == 0 || previous == '/'

/-- Reads the rest of a pattern, of which so many characters were read, the last being
    `previous`. -/
def parseFrom (position : Nat) (previous : Char) (text : List Char) :
    Except Failure (List GlobToken) :=
  match text with
  | [] => .ok []
  | '?' :: rest => (.anyChar :: ·) <$> parseFrom (position + 1) '?' rest
  | '*' :: '*' :: '*' :: _ => .error (position + 2, .tooManyStars)
  | '*' :: '*' :: rest =>
    if !startsPart position previous then .error (position - 1, .partialRecursion)
    else
      match rest with
      | [] => .ok [.anyParts]
      | '/' :: rest => (.anyParts :: ·) <$> parseFrom (position + 3) '/' rest
      | _ => .error (position + 2, .partialRecursion)
  | '*' :: rest => (.anyText :: ·) <$> parseFrom (position + 1) '*' rest
  | '[' :: '!' :: first :: rest =>
    match h : closing rest with
    | none => .error (position, .invalidRange)
    | some (inside, after) =>
      have := closing_length h
      (.except (GlobRange.ofText (first :: inside)) :: ·) <$>
        parseFrom (position + 4 + inside.length) ']' after
  | ['[', '!'] => .error (position, .invalidRange)
  | '[' :: first :: rest =>
    match h : closing rest with
    | none => .error (position, .invalidRange)
    | some (inside, after) =>
      have := closing_length h
      (.within (GlobRange.ofText (first :: inside)) :: ·) <$>
        parseFrom (position + 3 + inside.length) ']' after
  | ['['] => .error (position, .invalidRange)
  | c :: rest => (.literal c :: ·) <$> parseFrom (position + 1) c rest
termination_by text.length

def parse (source : String) : Except Rehearsal.Error Glob :=
  match parseFrom 0 '/' source.toList with
  | .ok tokens => .ok ⟨source, tokens⟩
  | .error (position, problem) => .error (.pattern position problem)

/-- Whether a test holds of some end of a text. -/
def someSuffix (test : List Char → Bool) : List Char → Bool
  | [] => test []
  | c :: rest => test (c :: rest) || someSuffix test rest

/-- Whether a test holds of what follows some slash of a text. -/
def somePart (test : List Char → Bool) : List Char → Bool
  | [] => false
  | c :: rest => (c == '/' && test rest) || somePart test rest

/-- Whether the next character is there and passes a test, and the rest does. -/
def next (accepts : Char → Bool) (test : List Char → Bool) : List Char → Bool
  | [] => false
  | c :: rest => accepts c && test rest

/-- Whether the pieces of a pattern match a text. -/
def matchTokens : List GlobToken → List Char → Bool
  | [], text => text.isEmpty
  | .literal c :: rest, text => next (· == c) (matchTokens rest) text
  | .anyChar :: rest, text => next (fun _ => true) (matchTokens rest) text
  | .within ranges :: rest, text =>
    next (fun c => ranges.any (·.contains c)) (matchTokens rest) text
  | .except ranges :: rest, text =>
    next (fun c => !ranges.any (·.contains c)) (matchTokens rest) text
  | .anyText :: rest, text => someSuffix (matchTokens rest) text
  | .anyParts :: rest, text =>
    matchTokens rest text || somePart (matchTokens rest) text || matchTokens rest []

def accepts (pattern : Glob) (name : String) : Bool :=
  matchTokens pattern.tokens name.toList

end Glob

end Rehearsal
