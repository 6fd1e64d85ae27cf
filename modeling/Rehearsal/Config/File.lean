import Rehearsal.Config
import Rehearsal.Files.Tree
import Rehearsal.Toml.Reader
import Rehearsal.Toml.Writer

/-! # Configuration files

A configuration is read from a file that sets some of its fields; the others keep their defaults,
and what is set besides is not looked at. It is written with all of its fields.
-/

namespace Rehearsal.Config

open Toml (Entries Problem)

/-- A text that a file sets, or else the one that is there. -/
def textOr (entries : Entries) (key default : String) : Except Problem String :=
  match entries.get? key with
  | none => .ok default
  | some (.text content) => .ok content
  | some _ => .error (.wrongKind key "a string")

/-- A flag that a file sets, or else the one that is there. -/
def flagOr (entries : Entries) (key : String) (default : Bool) : Except Problem Bool :=
  match entries.get? key with
  | none => .ok default
  | some (.boolean b) => .ok b
  | some _ => .error (.wrongKind key "a boolean")

/-- A number of one byte that a file sets, or else the one that is there. -/
def byteOr (entries : Entries) (key : String) (default : Nat) : Except Problem Nat :=
  match entries.get? key with
  | none => .ok default
  | some (.integer n) =>
    if 0 ≤ n && n < 256 then .ok n.toNat else .error (.wrongKind key "a number of one byte")
  | some _ => .error (.wrongKind key "a number of one byte")

def ofEntries (entries : Entries) : Except Problem Config := do
  let base : Config := {}
  return {
    testDir := ← textOr entries "test_dir" base.testDir
    pattern := ← textOr entries "pattern" base.pattern
    methodPrefix := ← textOr entries "method_prefix" base.methodPrefix
    verbosity := ← byteOr entries "verbosity" base.verbosity
    report := ← flagOr entries "report" base.report
    reportFile := ← textOr entries "report_file" base.reportFile }

def parse (text : String) : Except Error Config :=
  match Toml.parse text >>= ofEntries with
  | .error problem => .error (.toml problem.message)
  | .ok config => .ok (config.withVerbosity config.verbosity)

def ofFile (contents : ByteArray) : Except Error Config :=
  match textOf contents with
  | .error problem => .error (.io problem)
  | .ok text => parse text

/-- What a path leads to, as a configuration. -/
def ofTree (tree : Tree) : Except Error Config :=
  match tree.read with
  | .error problem => .error (.io problem)
  | .ok contents => ofFile contents

/-- The path at which a configuration is looked for. -/
def fileFor (named : Option String) : String :=
  named.getD defaultFile

/-- The configuration, given what was found at the path for it. A file that was named must exist;
    without the default file all fields have their defaults. -/
def load (named : Option String) (found : Except FileProblem Tree) : Except Error Config :=
  match found, named with
  | .ok tree, _ => ofTree tree
  | .error _, some path => .error (.config ("config file not found: " ++ path))
  | .error _, none => .ok {}

/-- The text of a file that sets the configuration. -/
def save (config : Config) : String :=
  String.join [
    Toml.writeLine "test_dir" (Toml.writeString config.testDir),
    Toml.writeLine "pattern" (Toml.writeString config.pattern),
    Toml.writeLine "method_prefix" (Toml.writeString config.methodPrefix),
    Toml.writeLine "verbosity" (toString config.verbosity),
    Toml.writeLine "report" (toString config.report),
    Toml.writeLine "report_file" (Toml.writeString config.reportFile)]

end Rehearsal.Config
