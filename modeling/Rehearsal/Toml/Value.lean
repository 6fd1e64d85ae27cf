/-! # TOML documents

A document is a table of values under keys. A table remembers how it came to be, since that
decides whether a later line may add to it.
-/

namespace Rehearsal.Toml

/-- How a table came to be. -/
inductive TableKind where
  /-- It has a header of its own, or is the whole document. -/
  | explicit
  /-- It stands in the header of another table. -/
  | implicit
  /-- It stands before a point in a key. -/
  | dotted
  /-- It was written between braces and is complete. -/
  | inline
  deriving Repr, DecidableEq

/-- A value of a document. -/
inductive Value where
  | text (content : String)
  | integer (n : Int)
  /-- A number with a fraction or an exponent, as it is written. -/
  | float (literal : String)
  | boolean (b : Bool)
  /-- A date, a time or both, as it is written. -/
  | moment (literal : String)
  | array (items : List Value)
  /-- The tables under a header that may be repeated. -/
  | tables (items : List (List (String × Value)))
  | table (kind : TableKind) (entries : List (String × Value))

/-- The values of a table by their keys, in the order in which they were entered. -/
abbrev Entries := List (String × Value)

/-- Why a text is no document, or not the one that is wanted. -/
inductive Problem where
  /-- The text breaks the grammar. -/
  | malformed
  /-- A key has a value already. -/
  | duplicateKey (key : String)
  /-- A line adds to something that cannot be added to. -/
  | notExtensible (key : String)
  /-- A value is not of the kind that is wanted. -/
  | wrongKind (key wanted : String)
  deriving Repr, DecidableEq

namespace Problem

def message : Problem → String
  | malformed => "malformed document"
  | duplicateKey key => "duplicate key " ++ key
  | notExtensible key => "cannot extend " ++ key
  | wrongKind key wanted => "invalid type for " ++ key ++ ", expected " ++ wanted

end Problem

namespace Entries

/-- The value under a key. -/
def get? (entries : Entries) (key : String) : Option Value :=
  (entries.find? (·.1 == key)).map (·.2)

/-- The entries with a value under a key, in place of the one that it had. -/
def put (key : String) (value : Value) : Entries → Entries
  | [] => [(key, value)]
  | entry :: rest =>
    if entry.1 = key then (key, value) :: rest else entry :: put key value rest

/-- The tables of a list with the last one changed. -/
def changeLast (change : Entries → Except Problem Entries) :
    List Entries → Except Problem (List Entries)
  | [] => .ok []
  | [last] => return [← change last]
  | table :: rest => return table :: (← changeLast change rest)

/-- Changes the table at the end of a path. Tables that are missing on the way are made; `pointed`
    says whether the path is that of a key and not of a header. A key does not reach into tables
    with a header, and nothing reaches into a complete one. -/
def changeAt (pointed : Bool) (change : Entries → Except Problem Entries) :
    List String → Entries → Except Problem Entries
  | [], entries => change entries
  | key :: rest, entries =>
    match entries.get? key with
    | none => do
      let inner ← changeAt pointed change rest []
      return entries.put key (.table (if pointed then .dotted else .implicit) inner)
    | some (.table kind inner) =>
      if kind = .inline || (pointed && kind = .explicit) then .error (.notExtensible key)
      else do
        let inner ← changeAt pointed change rest inner
        return entries.put key (.table kind inner)
    | some (.tables items) =>
      if pointed then .error (.notExtensible key)
      else do
        let items ← changeLast (changeAt pointed change rest) items
        return entries.put key (.tables items)
    | some _ => .error (.notExtensible key)

/-- Enters a value under a key that has none. -/
def enter (key : String) (value : Value) (entries : Entries) : Except Problem Entries :=
  match entries.get? key with
  | some _ => .error (.duplicateKey key)
  | none => .ok (entries.put key value)

/-- Opens the table of a header: a new one, or one that has stood in other headers only. -/
def openTable (key : String) (entries : Entries) : Except Problem Entries :=
  match entries.get? key with
  | none => .ok (entries.put key (.table .explicit []))
  | some (.table .implicit inner) => .ok (entries.put key (.table .explicit inner))
  | some _ => .error (.duplicateKey key)

/-- Opens one more table of a header that may be repeated. -/
def openNext (key : String) (entries : Entries) : Except Problem Entries :=
  match entries.get? key with
  | none => .ok (entries.put key (.tables [[]]))
  | some (.tables items) => .ok (entries.put key (.tables (items ++ [[]])))
  | some _ => .error (.duplicateKey key)

end Entries

/-- The path of a key: the parts before the last one, and that one. -/
structure KeyPath where
  parents : List String
  last : String
  deriving Repr, DecidableEq

namespace KeyPath

/-- All parts of the path. -/
def parts (path : KeyPath) : List String :=
  path.parents ++ [path.last]

end KeyPath

/-- A line of a document that says something. -/
inductive Statement where
  /-- The header of a table. -/
  | header (path : KeyPath)
  /-- The header of a table that may be repeated. -/
  | nextHeader (path : KeyPath)
  /-- A value for a key in the table of the header before. -/
  | assign (path : KeyPath) (value : Value)

/-- A document while it is put together: its entries, and the path of the open table. -/
structure Draft where
  entries : Entries := []
  place : List String := []

namespace Draft

/-- The draft after one more line. -/
def add (draft : Draft) : Statement → Except Problem Draft
  | .header path => do
    let entries ← Entries.changeAt false (Entries.openTable path.last) path.parents draft.entries
    return { entries, place := path.parts }
  | .nextHeader path => do
    let entries ← Entries.changeAt false (Entries.openNext path.last) path.parents draft.entries
    return { entries, place := path.parts }
  | .assign path value => do
    let change := Entries.changeAt true (Entries.enter path.last value) path.parents
    return { draft with entries := ← Entries.changeAt false change draft.place draft.entries }

end Draft

/-- The document of lines. -/
def assemble (statements : List Statement) : Except Problem Entries := do
  return (← statements.foldlM Draft.add {}).entries

end Rehearsal.Toml
