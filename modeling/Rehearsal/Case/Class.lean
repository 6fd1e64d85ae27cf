import Rehearsal.Fault

/-! # Classes of tests

A class makes an instance for each of its tests and has hooks that set the instance up, run one of
the tests on it and tear it down. A hook reads and changes the instance and a state that all tests
share; it ends well, with a fault, or in a panic.
-/

namespace Rehearsal

/-- A hook that was broken off. -/
structure Panic where
  /-- What it was broken off with, if that is a text. -/
  text : Option String
  location : Option String := none
  deriving Repr, DecidableEq

namespace Panic

/-- The text of the panic, with its place. -/
def message (panic : Panic) : String :=
  panic.text.getD "non-string panic payload"
    ++ (panic.location.map fun place => " (at " ++ place ++ ")").getD ""

end Panic

inductive Ending where
  | done
  | fault (fault : Fault)
  | panic (panic : Panic)
  deriving Repr, DecidableEq

/-- A hook of an instance `ι`, with a state `σ` that is shared by all tests. -/
abbrev Hook (ι σ : Type) := ι → σ → Ending × ι × σ

structure TestClass (ι σ : Type) where
  name : String
  category : Category
  /-- The names of the tests, in the order in which they are declared. -/
  methods : List String
  /-- Makes an instance. -/
  construct : σ → Except Panic ι × σ
  setUp : Hook ι σ
  run : String → Hook ι σ
  tearDown : Hook ι σ

structure Method (ι σ : Type) where
  name : String
  body : Hook ι σ

namespace TestClass

variable {ι σ : Type}

/-- The fault of running a test that a class does not have. -/
def noMethod (className method : String) : Fault :=
  .error (className ++ " has no method " ++ Text.quoted method)

/-- The class of the given tests, each of which starts from the same instance. -/
def ofMethods (name : String) (category : Category) (fresh : ι) (setUp tearDown : Hook ι σ)
    (methods : List (Method ι σ)) : TestClass ι σ where
  name
  category
  methods := methods.map (·.name)
  construct state := (.ok fresh, state)
  setUp
  run method instanced state :=
    match methods.find? (·.name == method) with
    | some found => found.body instanced state
    | none => (.fault (noMethod name method), instanced, state)
  tearDown

def shown (cls : TestClass ι σ) : String :=
  Text.openRecord "TestClass" [
    ("name", Text.quoted cls.name),
    ("category", cls.category.shown),
    ("methods", Text.quotedList cls.methods)]

end TestClass

end Rehearsal
