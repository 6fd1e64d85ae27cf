import Rehearsal.Discovery.Source
import Rehearsal.Files.Path

/-! # Registered classes

Classes that are not read from files but registered under the path of the file that stands for
them. A file loads each class whose path ends with its own.
-/

namespace Rehearsal

variable {ι σ : Type}

/-- A class with the path that it is registered under. -/
structure Registration (ι σ : Type) where
  source : String
  cls : TestClass ι σ

/-- Classes in the order in which they were registered. -/
abbrev Registry (ι σ : Type) := List (Registration ι σ)

namespace Registry

def classesFor (registry : Registry ι σ) (relative : String) : List (TestClass ι σ) :=
  (registry.filter fun entry => Path.endsWith entry.source relative).map (·.cls)

/-- The registry as a loader, which never fails. -/
def loader (registry : Registry ι σ) : ModuleLoader ι σ :=
  fun source => .ok (registry.classesFor source.relative)

end Registry

end Rehearsal
