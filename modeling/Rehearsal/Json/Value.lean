import Rehearsal.SortedMap
import Rehearsal.Decimal.Notation
import Rehearsal.Text.Quoted

/-! # JSON values

The data model of JSON with whole numbers kept apart from fractions. A value as it was read keeps
all members of an object in their order; `canonical` orders them by name and keeps the last of
those that share one.
-/

namespace Rehearsal.Json

/-- A number: whole ones that fit a machine word stay exact, all others are floating point. -/
inductive Number where
  | natural (n : Nat)
  | negative (n : Int)
  | real (x : Float)
  deriving Repr

inductive Value where
  | null
  | bool (b : Bool)
  | number (n : Number)
  | text (s : String)
  | list (items : List Value)
  | object (members : List (String × Value))
  deriving Repr

instance : Inhabited Value := ⟨.null⟩

/-- Named values, as keyword arguments are. -/
abbrev Members := List (String × Value)

namespace Number

/-- Equality of numbers; whole numbers and fractions are never equal. -/
def same : Number → Number → Bool
  | natural a, natural b => a == b
  | negative a, negative b => a == b
  | real a, real b => a == b
  | _, _ => false

def render : Number → String
  | natural n => toString n
  | negative n => toString n
  | real x => Decimal.data x

def toFloat : Number → Float
  | natural n => n.toUInt64.toFloat
  | negative n => -(n.natAbs.toUInt64.toFloat)
  | real x => x

end Number

namespace Value

/-- A floating point number as a value; what is not finite has no JSON form and is null. -/
def ofFloat (x : Float) : Value :=
  if x.isFinite then number (.real x) else null

def ofNat (n : Nat) : Value :=
  number (.natural n)

def ofText? : Option String → Value
  | none => null
  | some s => text s

def ofTexts (items : List String) : Value :=
  list (items.map text)

mutual

/-- Equality of values, with the members of objects compared in order. -/
def same : Value → Value → Bool
  | null, null => true
  | bool a, bool b => a == b
  | number a, number b => a.same b
  | text a, text b => a == b
  | list as, list bs => sameItems as bs
  | object as, object bs => sameMembers as bs
  | _, _ => false

def sameItems : List Value → List Value → Bool
  | [], [] => true
  | a :: as, b :: bs => a.same b && sameItems as bs
  | _, _ => false

def sameMembers : List (String × Value) → List (String × Value) → Bool
  | [], [] => true
  | (j, a) :: as, (k, b) :: bs => j == k && a.same b && sameMembers as bs
  | _, _ => false

end

mutual

/-- The value with the members of every object in order and each name once. -/
def canonical : Value → Value
  | list items => list (canonicalItems items)
  | object members => object (SortedMap.ofEntries (canonicalMembers members))
  | value => value

def canonicalItems : List Value → List Value
  | [] => []
  | item :: rest => item.canonical :: canonicalItems rest

def canonicalMembers : List (String × Value) → List (String × Value)
  | [] => []
  | (name, value) :: rest => (name, value.canonical) :: canonicalMembers rest

end

mutual

/-- The value as messages show it, with its kind spelled out. -/
def shown : Value → String
  | null => "Null"
  | bool b => "Bool(" ++ toString b ++ ")"
  | number n => "Number(" ++ n.render ++ ")"
  | text s => "String(" ++ Text.quoted s ++ ")"
  | list items => "Array " ++ Text.bracketed (shownItems items)
  | object members => "Object \x7b" ++ ", ".intercalate (shownMembers members) ++ "\x7d"

def shownItems : List Value → List String
  | [] => []
  | item :: rest => item.shown :: shownItems rest

def shownMembers : List (String × Value) → List String
  | [] => []
  | (name, value) :: rest => (Text.quoted name ++ ": " ++ value.shown) :: shownMembers rest

end

def get? (value : Value) (name : String) : Option Value :=
  match value with
  | object members => (members.find? (·.1 == name)).map (·.2)
  | _ => none

end Value

def shownNamed (members : Members) : String :=
  "\x7b" ++ ", ".intercalate (Value.shownMembers members) ++ "\x7d"

def shownList (items : List Value) : String :=
  Text.bracketed (Value.shownItems items)

end Rehearsal.Json
