import Rehearsal.Discovery.Source
import Rehearsal.Files.Tree
import Rehearsal.Fixture.Instance
import Rehearsal.Fixture.Json

/-! # Loading fixtures -/

namespace Rehearsal.Fixture

/-- Turns files with fixtures into classes. -/
structure Loader where
  /-- What answers checks of quality. -/
  evaluator : Option Evaluator := none

namespace Loader

def classes (loader : Loader) (module : Module) : List (TestClass Instance Requests) :=
  module.classes.map (·.toTestClass loader.evaluator)

def readModule (source : SourceFile) : Except Error Module :=
  match textOf source.contents with
  | .error problem => .error (.io problem)
  | .ok text =>
    match Json.Codec.decode text with
    | .error e => .error (.load source.path e.message)
    | .ok module => .ok module

def load (loader : Loader) : ModuleLoader Instance Requests := fun source =>
  (readModule source).map loader.classes

def shown (loader : Loader) : String :=
  Text.record "FixtureLoader" [("has_evaluator", toString loader.evaluator.isSome)]

end Loader

end Rehearsal.Fixture
