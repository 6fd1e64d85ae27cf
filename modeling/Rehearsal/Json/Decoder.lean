import Rehearsal.Json.Reader

/-! # Decoding values

Where the type of a value is known only after part of an object was read, the rest is kept as a
value and decoded from it. The faults are those of reading, without places. Members of an object
are in the order of the text, and a name may stand twice.
-/

namespace Rehearsal.Json

abbrev Decoder (α : Type) := Value → Except Reason α

namespace Decoder

variable {α : Type}

/-- The fault of a value of another kind than was expected. -/
def unexpected (expected : String) (value : Value) : Except Reason α :=
  .error (.wrongType (.ofValue value) expected)

/-- Any value, with the members of objects in order and each name once. -/
def value : Decoder Value := fun v => .ok v.canonical

def text : Decoder String
  | .text s => .ok s
  | v => unexpected "a string" v

def bool : Decoder Bool
  | .bool b => .ok b
  | v => unexpected "a boolean" v

def count : Decoder Nat
  | .number n => Reader.naturalOf "usize" Reader.maxWord n
  | v => unexpected "usize" v

def float : Decoder Float
  | .number n => .ok n.toFloat
  | v => unexpected "f64" v

/-- Null, or what `decode` takes. -/
def optional (decode : Decoder α) : Decoder (Option α)
  | .null => .ok none
  | v => (decode v).map some

/-- A list of what `decode` takes. -/
def list (decode : Decoder α) : Decoder (List α)
  | .list items => items.mapM decode
  | v => unexpected "a sequence" v

/-- A map from texts to what `decode` takes; of two members with one name the later counts. -/
def map (decode : Decoder α) : Decoder (SortedMap α)
  | .object members => do
    let entries ← members.mapM fun (name, v) => (decode v).map (name, ·)
    pure (SortedMap.ofEntries entries)
  | v => unexpected "a map" v

end Decoder

/-- A member of a variant, decoded from a value. -/
structure Part (ρ : Type) where
  name : String
  required : Bool
  decode : Decoder (ρ → ρ)

namespace Part

variable {ρ α : Type}

/-- A member that must be present. -/
def needed (name : String) (decode : Decoder α) (enter : ρ → α → ρ) : Part ρ :=
  ⟨name, true, fun v => (decode v).map fun a record => enter record a⟩

/-- A member that may be absent. -/
def optional (name : String) (decode : Decoder α) (enter : ρ → α → ρ) : Part ρ :=
  ⟨name, false, fun v => (decode v).map fun a record => enter record a⟩

end Part

/-- What is left of a variant after its tag was taken: the other members, or the other items. -/
abbrev Rest := Value

/-- One of several kinds of record that a tag tells apart. -/
structure Variant (ρ : Type) where
  title : String
  parts : List (Part ρ)
  blank : ρ

namespace Variant

variable {ρ : Type}

/-- The variant with members entered in their order, given the names of those seen. -/
def ofMembers (type : Variant ρ) : List (String × Value) → List String → ρ → Except Reason ρ
  | [], seen, record =>
    match type.parts.find? fun part => part.required && !seen.contains part.name with
    | some part => .error (.missingField part.name)
    | none => .ok record
  | (name, value) :: rest, seen, record =>
    match type.parts.find? (·.name == name) with
    | some part =>
      if seen.contains name then .error (.duplicateField name)
      else
        match part.decode value with
        | .ok enter => ofMembers type rest (name :: seen) (enter record)
        | .error reason => .error reason
    | none => ofMembers type rest seen record

/-- The number of items that a list may have, in words. -/
def itemCount (n : Nat) : String :=
  if n = 1 then "1 element in sequence" else toString n ++ " elements in sequence"

/-- The variant with the items of a list entered into the parts from the given index on. -/
def ofItems (type : Variant ρ) : List (Part ρ) → Nat → List Value → ρ → Except Reason ρ
  | [], index, rest, record =>
    if rest.isEmpty then .ok record
    else .error (.wrongLength (index + rest.length) (itemCount index))
  | part :: parts, index, [], record =>
    if part.required then
      let count := type.parts.length
      .error (.wrongLength index
        (type.title ++ " with "
          ++ (if count = 1 then "1 element" else toString count ++ " elements")))
    else ofItems type parts (index + 1) [] record
  | part :: parts, index, value :: rest, record =>
    match part.decode value with
    | .ok enter => ofItems type parts (index + 1) rest (enter record)
    | .error reason => .error reason

/-- The variant of what is left after its tag. -/
def decode (type : Variant ρ) : Rest → Except Reason ρ
  | .object members => type.ofMembers members [] type.blank
  | .list items => type.ofItems type.parts 0 items type.blank
  | v => Decoder.unexpected type.title v

end Variant

end Rehearsal.Json
