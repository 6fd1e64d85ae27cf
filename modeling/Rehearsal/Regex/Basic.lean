import Rehearsal.Regex.CharSet

/-! # Regular expressions

Expressions as they are searched for in a text. Whether a part is taken greedily makes no
difference to whether a text matches, so it is not kept.
-/

namespace Rehearsal

/-- A condition on a place in a text. -/
inductive Anchor where
  | textStart
  | textEnd
  /-- After a line end; `crlf` says whether a carriage return is one. -/
  | lineStart (crlf : Bool)
  | lineEnd (crlf : Bool)
  /-- Between a character of a word and another; `unicode` says which characters make words. -/
  | wordEdge (unicode : Bool)
  | notWordEdge (unicode : Bool)
  | wordStart (unicode : Bool)
  | wordEnd (unicode : Bool)
  /-- With no character of a word before. -/
  | wordStartHalf (unicode : Bool)
  /-- With no character of a word after. -/
  | wordEndHalf (unicode : Bool)
  deriving Repr, DecidableEq

inductive Regex where
  | empty
  /-- One character of a set; `nesting` tells how deep brackets stood in its writing. -/
  | chars (nesting : Nat) (set : CharSet)
  | anchor (anchor : Anchor)
  | sequence (parts : List Regex)
  | choice (branches : List Regex)
  | group (inner : Regex)
  /-- From `least` to `most` times. -/
  | repeated (least : Nat) (most : Option Nat) (inner : Regex)

namespace Regex

mutual

def depth : Regex → Nat
  | empty => 0
  | chars nesting _ => nesting
  | anchor _ => 0
  | sequence parts => maxDepth parts + 1
  | choice branches => maxDepth branches + 1
  | group inner => inner.depth + 1
  | repeated _ _ inner => inner.depth + 1

def maxDepth : List Regex → Nat
  | [] => 0
  | part :: rest => max part.depth (maxDepth rest)

end

mutual

/-- Whether nothing but the empty text can match. -/
def isWidthless : Regex → Bool
  | empty => true
  | chars _ _ => false
  | anchor _ => true
  | sequence parts => areWidthless parts
  | choice branches => areWidthless branches
  | group inner => inner.isWidthless
  | repeated _ most inner => most == some 0 || inner.isWidthless

def areWidthless : List Regex → Bool
  | [] => true
  | part :: rest => part.isWidthless && areWidthless rest

end

mutual

/-- How many steps an expression has once its counted repetitions are written out. Repeating what
    matches only the empty text adds none. -/
def size : Regex → Nat
  | empty => 0
  | chars _ _ => 1
  | anchor _ => 1
  | sequence parts => totalSize parts
  | choice branches => totalSize branches + 1
  | group inner => inner.size
  | repeated least most inner =>
    if inner.isWidthless then inner.size
    else
      match most with
      | some most => least * inner.size + (most - least) * (inner.size + 1)
      | none => max least 1 * inner.size + 1

def totalSize : List Regex → Nat
  | [] => 0
  | part :: rest => part.size + totalSize rest

end

/-- How many steps an expression may have: as many as fit into ten mebibytes at 32 bytes each. -/
def sizeLimit : Nat := 327680

def ofSequence : List Regex → Regex
  | [] => empty
  | [one] => one
  | parts => sequence parts

def ofChoice : List Regex → Regex
  | [] => empty
  | [one] => one
  | branches => choice branches

end Regex

end Rehearsal
