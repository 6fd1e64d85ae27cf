import Rehearsal.Json.Decoder
import Rehearsal.Json.Record

/-! # Reading tagged records

One member of the object, the tag, says of which kind the record is; the others are kept until the
tag is known. Written as a list, the tag comes first. What is wrong with the members after the
tag is found once the brackets are closed.
-/

namespace Rehearsal.Json

/-- Records of several kinds: their common title, the name of the tag, and for each kind its name
    and what is made of the members besides the tag. -/
structure TaggedType (ρ : Type) where
  title : String
  tag : String
  kinds : List (String × (Rest → Except Reason ρ))

namespace TaggedType

variable {ρ : Type}

/-- What a kind makes of the members besides the tag. -/
abbrev Maker (ρ : Type) := Rest → Except Reason ρ

def kindReader (type : TaggedType ρ) : Reader (Maker ρ) :=
  Reader.textOf "variant identifier" (Reader.variantOf type.kinds)

/-- Reads the members of an object: the kind, and the other members in reverse. -/
def members (type : TaggedType ρ) :
    Nat → Bool → Option (Maker ρ) → List (String × Value) → Reader (Maker ρ × Rest)
  | 0, _, _, _, _, c => Reader.failAt .endInObject c.position
  | fuel + 1, first, kind?, others, depth, c =>
    match Reader.nextKey first c with
    | .error fault => .error fault
    | .ok (none, c) =>
      match kind? with
      | some kind => .ok ((kind, .object others.reverse), c)
      | none => Reader.failPending (.missingField type.tag) c
    | .ok (some name, c) =>
      if name == type.tag then
        if kind?.isSome then Reader.failPending (.duplicateField name) c
        else
          match Reader.colon c with
          | .error fault => .error fault
          | .ok c =>
            match type.kindReader depth c with
            | .error fault => .error fault
            | .ok (kind, c) => members type fuel false (some kind) others depth c
      else
        match Reader.colon c with
        | .error fault => .error fault
        | .ok c =>
          match Reader.tree depth c with
          | .error fault => .error fault
          | .ok (value, c) => members type fuel false kind? ((name, value) :: others) depth c

/-- Reads the items of a list: the kind, and the other items. -/
def items (type : TaggedType ρ) : Reader (Maker ρ × Rest) := fun depth c =>
  match Reader.nextItem true c with
  | .error fault => .error fault
  | .ok (none, c) => Reader.failPending (.missingField type.tag) c
  | .ok (some c, _) =>
    match type.kindReader depth c with
    | .error fault => .error fault
    | .ok (kind, c) =>
      match Reader.items Reader.tree (c.rest.length + 1) false [] depth c with
      | .error fault => .error fault
      | .ok (values, c) => .ok ((kind, .list values), c)

/-- Reads a tagged record. -/
def reader (type : TaggedType ρ) : Reader ρ := fun depth c =>
  let c := c.skipBlanks
  let parts : Except Fault ((Maker ρ × Rest) × Cursor) :=
    match c.rest with
    | [] => Reader.failAt .endInValue c.next
    | '[' :: _ => Reader.enclosed .square type.items depth c
    | '\x7b' :: _ =>
      Reader.enclosed .curly (type.members (c.rest.length + 1) true none []) depth c
    | _ :: _ => .error (Reader.unexpected type.title c)
  match parts with
  | .error fault => .error fault
  | .ok ((make, rest), c) =>
    match make rest with
    | .ok record => .ok (record, c)
    | .error reason => Reader.failPending reason c

/-- The kind that a value stands for: its name, or its place in the list of kinds. -/
def kindOf (type : TaggedType ρ) : Value → Except Reason (Maker ρ)
  | .text name => Reader.variantOf type.kinds name
  | .number (.natural n) =>
    match type.kinds[n]? with
    | some (_, kind) => .ok kind
    | none =>
      .error (.wrongValue (.natural n)
        ("variant index 0 <= i < " ++ toString type.kinds.length))
  | v => Decoder.unexpected "variant identifier" v

/-- The kind among members, and the others in their order. -/
def splitMembers (type : TaggedType ρ) :
    List (String × Value) → Option (Maker ρ) → List (String × Value) →
      Except Reason (Maker ρ × List (String × Value))
  | [], some kind, others => .ok (kind, others.reverse)
  | [], none, _ => .error (.missingField type.tag)
  | (name, value) :: rest, kind?, others =>
    if name == type.tag then
      if kind?.isSome then .error (.duplicateField name)
      else
        match type.kindOf value with
        | .ok kind => splitMembers type rest (some kind) others
        | .error reason => .error reason
    else splitMembers type rest kind? ((name, value) :: others)

/-- A tagged record from its members. -/
def ofMembers (type : TaggedType ρ) (members : List (String × Value)) : Except Reason ρ :=
  match type.splitMembers members none [] with
  | .ok (make, others) => make (.object others)
  | .error reason => .error reason

end TaggedType

end Rehearsal.Json
