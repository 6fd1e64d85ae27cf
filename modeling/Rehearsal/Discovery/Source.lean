import Rehearsal.Error
import Rehearsal.Case.Class

/-! # Test files and their loaders -/

namespace Rehearsal

/-- A file that may hold tests. -/
structure SourceFile where
  path : String
  /-- The path from the directory in which tests are looked for. -/
  relative : String
  contents : ByteArray

/-- What turns a file into the classes that it declares. -/
abbrev ModuleLoader (ι σ : Type) := SourceFile → Except Error (List (TestClass ι σ))

end Rehearsal
