import Rehearsal.Text.Parts

/-! # File paths

A path is a text whose parts are set apart by slashes. What it names does not depend on repeated or
trailing slashes, nor on parts that stay where they are.
-/

namespace Rehearsal.Path

/-- The parts of a path between its slashes, empty ones included. -/
def parts (path : String) : List String :=
  Text.cutAt '/' path

/-- Whether a path starts at the root of all files. -/
def isAbsolute (path : String) : Bool :=
  ['/'].isPrefixOf path.toList

/-- Whether nothing but slashes is left of a path. -/
def isOnlySlashes (parts : List String) : Bool :=
  !parts.isEmpty && parts.all (· = "")

/-- Where a path starts: at the root of all files, or at a place that is given by its names. -/
def origin (place : List String) (path : String) : List String :=
  if isAbsolute path then [] else place

/-- The parts that count: a part that stays where it is counts only at the start of a path. -/
def components (path : String) : List String :=
  match parts path with
  | [] => []
  | first :: rest =>
    (if first = "" then (if isAbsolute path then ["/"] else []) else [first])
      ++ rest.filter fun part => part ≠ "" && part ≠ "."

def endsWith (path tail : String) : Bool :=
  (components tail).isSuffixOf (components path)

/-- The path of a name in a directory. -/
def join (directory name : String) : String :=
  if directory = "" || ['/'].isSuffixOf directory.toList then directory ++ name
  else directory ++ "/" ++ name

def ofNames (names : List String) : String :=
  "/".intercalate names

end Rehearsal.Path
