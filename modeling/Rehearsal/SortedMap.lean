/-! # Maps in the order of their keys

A map from texts is a list of its entries in ascending order of the keys, so that equal maps are
equal lists. Every map is built by `put` from the empty one.
-/

namespace Rehearsal

/-- Entries in ascending order of their keys, each key once. -/
abbrev SortedMap (α : Type) := List (String × α)

namespace SortedMap

variable {α : Type}

/-- Enters a value under a key, in the place of the value that the key had. -/
def put (key : String) (value : α) : SortedMap α → SortedMap α
  | [] => [(key, value)]
  | (k, v) :: rest =>
    if key < k then (key, value) :: (k, v) :: rest
    else if key = k then (key, value) :: rest
    else (k, v) :: put key value rest

/-- The value under a key. -/
def get? (map : SortedMap α) (key : String) : Option α :=
  (map.find? (·.1 == key)).map (·.2)

/-- Enters the pairs one after another, so that of two with one key the later counts. -/
def ofEntries (entries : List (String × α)) : SortedMap α :=
  entries.foldl (fun map entry => put entry.1 entry.2 map) []

end SortedMap

end Rehearsal
