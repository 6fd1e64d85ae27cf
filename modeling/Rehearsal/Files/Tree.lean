import Rehearsal.Error
import Rehearsal.Files.Path

/-! # Trees of files

What a directory holds: files, directories and links. The names in one directory are different
from each other and come in no particular order; the files below a directory are visited by name,
those of a directory right at its place. A path is followed from the root of a tree or from a
directory in it, and what a link stands for in the same way.
-/

namespace Rehearsal

/-- A file, a link to a path, or a directory. -/
inductive Tree where
  | file (contents : ByteArray)
  | link (target : String)
  | directory (entries : List (String × Tree))
  deriving Inhabited

namespace Tree

def empty : Tree := directory []

def isDirectory : Tree → Bool
  | directory _ => true
  | _ => false

/-- A file below a directory: the names that lead to it, and what it holds. -/
structure Leaf where
  names : List String
  contents : ByteArray

/-- What a directory holds under a name. -/
def child? (name : String) : Tree → Option Tree
  | directory entries => (entries.find? (·.1 == name)).map (·.2)
  | _ => none

/-- What is found by going down these names, without following links. -/
def descend : List String → Tree → Option Tree
  | [], tree => some tree
  | name :: rest, tree => (tree.child? name).bind (descend rest)

/-- Entries with one under a name, in place of the one that had it. -/
def putEntry (name : String) (tree : Tree) : List (String × Tree) → List (String × Tree)
  | [] => [(name, tree)]
  | entry :: rest =>
    if entry.1 = name then (name, tree) :: rest else entry :: putEntry name tree rest

/-- The tree with something put at the end of these names; directories that are missing on the
    way are made. -/
def put (new : Tree) : List String → Tree → Tree
  | [], _ => new
  | name :: rest, tree =>
    let entries := match tree with
      | directory entries => entries
      | _ => []
    directory (putEntry name (put new rest ((tree.child? name).getD empty)) entries)

mutual

/-- The files of a tree, in the order of their names part by part. Links are not followed. -/
def leaves : Tree → List Leaf
  | file contents => [⟨[], contents⟩]
  | link _ => []
  | directory entries =>
    ((leavesEach entries).mergeSort fun a b => a.1 ≤ b.1).flatMap fun (name, below) =>
      below.map fun leaf => { leaf with names := name :: leaf.names }

def leavesEach : List (String × Tree) → List (String × List Leaf)
  | [] => []
  | (name, tree) :: rest => (name, leaves tree) :: leavesEach rest

end

/-- How many links are followed on the way to a file. -/
def maxLinks : Nat := 40

/-- Follows the parts of a path from a place in the tree, which is given by its names, with at
    most so many links on the way. What the last part names must exist, unless it is to be made. -/
def follow (root : Tree) (making : Bool) (links : Nat) (place : List String)
    (path : List String) : Except FileProblem (List String) :=
  match path with
  | [] => .ok place
  | part :: rest =>
    match root.descend place with
    | none => .error .missing
    | some here =>
      if !here.isDirectory then .error .notDirectory
      else if part = "" || part = "." then follow root making links place rest
      else if part = ".." then follow root making links place.dropLast rest
      -- A slash at the end asks for a directory, which is not made.
      else if making && Path.isOnlySlashes rest then .error .isDirectory
      else
        match here.child? part with
        | none => if making && rest.isEmpty then .ok (place ++ [part]) else .error .missing
        | some (.link target) =>
          match links with
          | 0 => .error .tooManyLinks
          | links + 1 =>
            follow root making links (Path.origin place target) (Path.parts target ++ rest)
        | some _ => follow root making links (place ++ [part]) rest
termination_by (links, path.length)

/-- The names that a path leads to, which is taken from `home` unless it is absolute. -/
def resolve (root : Tree) (making : Bool) (path : String) (home : List String := []) :
    Except FileProblem (List String) :=
  if path = "" then .error .missing
  else follow root making maxLinks (Path.origin home path) (Path.parts path)

def look (root : Tree) (path : String) (home : List String := []) : Except FileProblem Tree :=
  match root.resolve false path home with
  | .error problem => .error problem
  | .ok names =>
    match root.descend names with
    | some tree => .ok tree
    | none => .error .missing

/-- The tree with a file at a path, in place of the one that is there. The directory of the file
    must exist. -/
def write (root : Tree) (path : String) (contents : ByteArray) (home : List String := []) :
    Except FileProblem Tree :=
  match root.resolve true path home with
  | .error problem => .error problem
  | .ok names =>
    match root.descend names with
    | some (directory _) => .error .isDirectory
    | _ => .ok (put (file contents) names root)

/-- What the file at the root of a tree holds. -/
def read : Tree → Except FileProblem ByteArray
  | file contents => .ok contents
  | directory _ => .error .isDirectory
  | link _ => .error .missing

end Tree

/-- The text that bytes stand for. -/
def textOf (contents : ByteArray) : Except FileProblem String :=
  match String.fromUTF8? contents with
  | some text => .ok text
  | none => .error .notText

end Rehearsal
