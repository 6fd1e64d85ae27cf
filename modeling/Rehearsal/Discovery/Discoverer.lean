import Rehearsal.Discovery.Source
import Rehearsal.Files.Glob
import Rehearsal.Files.Tree
import Rehearsal.Log
import Rehearsal.Suite

/-! # Finding tests

The files of a directory whose names match a pattern are loaded, in the order of their names part
by part. Of the classes in a file those that test an agent or a crew contribute the tests whose
names start in a certain way. A file that cannot be loaded is left out and noted.
-/

namespace Rehearsal

structure Discoverer (ι σ : Type) where
  loader : ModuleLoader ι σ
  /-- What the name of a test file looks like. -/
  pattern : Glob
  /-- What the name of a test starts with. -/
  methodPrefix : String

namespace LoadFault

def logLine (fault : LoadFault) : LogLine :=
  ⟨.warning, "Could not load " ++ Text.quotedPath fault.path ++ ": " ++ fault.reason⟩

end LoadFault

namespace Discoverer

variable {ι σ : Type}

def ofPattern (loader : ModuleLoader ι σ) (pattern methodPrefix : String) :
    Except Error (Discoverer ι σ) := do
  return { loader, pattern := ← Glob.parse pattern, methodPrefix }

/-- Whether a file is looked at, by the last of its names. -/
def selects (discoverer : Discoverer ι σ) (leaf : Tree.Leaf) : Bool :=
  leaf.names.getLast?.any discoverer.pattern.accepts

/-- The files that are looked at, each once. Links are not followed, so that a file is known by the
    names that lead to it. -/
def found (discoverer : Discoverer ι σ) (tree : Tree) : List Tree.Leaf :=
  (tree.leaves.filter discoverer.selects).eraseDupsBy fun a b => a.names == b.names

/-- The file at the end of names below a directory. -/
def source (root : String) (leaf : Tree.Leaf) : SourceFile :=
  let relative := Path.ofNames leaf.names
  { path := Path.join root relative, relative, contents := leaf.contents }

def unitsOf (discoverer : Discoverer ι σ) (classes : List (TestClass ι σ)) :
    List (TestUnit ι σ) :=
  (classes.filter (·.category != .other)).flatMap (·.units discoverer.methodPrefix)

/-- The tests of a file, or why it is left out. -/
def load (discoverer : Discoverer ι σ) (file : SourceFile) :
    Except LoadFault (List (TestUnit ι σ)) :=
  match discoverer.loader file with
  | .ok classes => .ok (discoverer.unitsOf classes)
  | .error e => .error ⟨file.path, e.message⟩

/-- The suite of files that were loaded or left out. -/
def assemble (loaded : List (Except LoadFault (List (TestUnit ι σ)))) : Suite ι σ where
  units := loaded.flatMap fun
    | .ok units => units
    | .error _ => []
  loadFaults := loaded.filterMap fun
    | .ok _ => none
    | .error fault => some fault

/-- The suite of a directory that is known by the path `root`. What is not a directory holds no
    tests. -/
def discover (discoverer : Discoverer ι σ) (root : String) (tree : Tree) : Suite ι σ :=
  if tree.isDirectory then
    assemble ((discoverer.found tree).map fun leaf => discoverer.load (source root leaf))
  else {}

def shown (discoverer : Discoverer ι σ) : String :=
  Text.openRecord "Discoverer" [
    ("pattern", Text.quoted discoverer.pattern.source),
    ("method_prefix", Text.quoted discoverer.methodPrefix)]

end Discoverer

namespace Suite

def log {ι σ : Type} (suite : Suite ι σ) : List LogLine :=
  suite.loadFaults.map (·.logLine)

end Suite

end Rehearsal
