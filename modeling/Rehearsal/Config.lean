import Rehearsal.Json.Record

/-! # Configuration of a run

Where tests are looked for and how a run is reported.
-/

namespace Rehearsal

/-- How tests are found and reported. -/
structure Config where
  /-- The directory with the test files. -/
  testDir : String := "tests"
  /-- The pattern of the names of test files. -/
  pattern : String := "test_*.json"
  /-- What the name of a test method starts with. -/
  methodPrefix : String := "test_"
  /-- From 0, quiet, to 2, where every test is logged. -/
  verbosity : Nat := 2
  /-- Whether a report is written. -/
  report : Bool := false
  /-- Where the report is written. -/
  reportFile : String := "crewcheck_test_report.html"
  deriving Repr, DecidableEq, Inhabited

namespace Config

/-- The file in the working directory that is looked for when no other is named. -/
def defaultFile : String := "crewcheck.toml"

def maxVerbosity : Nat := 2

/-- The configuration with another verbosity, or the highest if that is exceeded. -/
def withVerbosity (config : Config) (verbosity : Nat) : Config :=
  { config with verbosity := min verbosity maxVerbosity }

def shown (config : Config) : String :=
  Text.record "RunnerConfig" [
    ("test_dir", Text.quotedPath config.testDir),
    ("pattern", Text.quoted config.pattern),
    ("method_prefix", Text.quoted config.methodPrefix),
    ("verbosity", toString config.verbosity),
    ("report", toString config.report),
    ("report_file", Text.quotedPath config.reportFile)]

end Config

end Rehearsal
