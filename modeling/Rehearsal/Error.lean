import Rehearsal.Json.Fault

/-! # Errors outside of expectations

Everything that can go wrong other than an expectation that does not hold, by cause, with its
wording.
-/

namespace Rehearsal

/-- Why a file could not be used. -/
inductive FileProblem where
  | missing
  | isDirectory
  | notDirectory
  | notText
  | tooManyLinks
  | other (problem : String)
  deriving Repr, DecidableEq

namespace FileProblem

def message : FileProblem → String
  | missing => "No such file or directory (os error 2)"
  | isDirectory => "Is a directory (os error 21)"
  | notDirectory => "Not a directory (os error 20)"
  | notText => "stream did not contain valid UTF-8"
  | tooManyLinks => "Too many levels of symbolic links (os error 40)"
  | other problem => problem

end FileProblem

/-- Why a file name pattern is none, and at which of its characters. -/
inductive PatternProblem where
  /-- More than two stars in a row. -/
  | tooManyStars
  /-- A double star that shares a path component with other characters. -/
  | partialRecursion
  /-- A bracket that opens no range. -/
  | invalidRange
  deriving Repr, DecidableEq

namespace PatternProblem

def message : PatternProblem → String
  | tooManyStars => "wildcards are either regular `*` or recursive `**`"
  | partialRecursion => "recursive wildcards must form a single path component"
  | invalidRange => "invalid range pattern"

def messageAt (problem : PatternProblem) (position : Nat) : String :=
  "Pattern syntax error near position " ++ toString position ++ ": " ++ problem.message

end PatternProblem

inductive Error where
  | io (problem : FileProblem)
  | json (error : Json.Error)
  | toml (problem : String)
  | pattern (position : Nat) (problem : PatternProblem)
  | walk (problem : String)
  | config (problem : String)
  | load (path problem : String)
  | setup (problem : String)
  | notFound (what : String)
  | evaluation (problem : String)
  | other (problem : String)
  deriving Repr

namespace Error

/-- The cause of an error that only passes it on, in words. -/
def cause? : Error → Option String
  | io problem => some problem.message
  | json error => some error.message
  | toml problem => some problem
  | pattern position problem => some (problem.messageAt position)
  | walk problem => some problem
  | _ => none

def message : Error → String
  | io problem => "IO error: " ++ problem.message
  | json error => "JSON serialization error: " ++ error.message
  | toml problem => "TOML deserialization error: " ++ problem
  | pattern position problem => "Invalid file pattern: " ++ problem.messageAt position
  | walk problem => "Directory traversal failed: " ++ problem
  | config problem => "Configuration error: " ++ problem
  | load path problem => "Failed to load " ++ path ++ ": " ++ problem
  | setup problem => "Invalid test setup: " ++ problem
  | notFound what => "Not found: " ++ what
  | evaluation problem => "Evaluation failed: " ++ problem
  | other problem => problem

end Error

end Rehearsal
