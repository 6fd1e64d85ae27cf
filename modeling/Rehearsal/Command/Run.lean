import Rehearsal.Command.Options
import Rehearsal.Config.File
import Rehearsal.Discovery.Discoverer
import Rehearsal.Fixture.Loader
import Rehearsal.Report.Console
import Rehearsal.Report.Html
import Rehearsal.Runner
import Rehearsal.Text.Parts

/-! # The command

The command finds the tests of a directory, runs them and reports. What it needs of the world around
it is a `System`; it can be run in the real one or on a tree of files in memory.
-/

namespace Rehearsal.Command

/-- What the command needs of the world around it. -/
structure System (m : Type → Type) where
  look : String → m (Except FileProblem Tree)
  write : (path text : String) → m (Except FileProblem Unit)
  say : String → m Unit
  /-- Puts out a text about what went wrong. -/
  complain : String → m Unit
  log : LogLine → m Unit
  /-- Runs a test and measures how long it takes. -/
  timed : {α : Type} → (Unit → α) → m (α × Duration)

variable {m : Type → Type} [Monad m]

namespace System

def sayLines (system : System m) (lines : List String) : m Unit :=
  system.say (String.join (lines.map (· ++ "\n")))

/-- Logs lines; at the lowest verbosity only those that warn. -/
def logAll (system : System m) (config : Config) (lines : List LogLine) : m Unit :=
  (lines.filter fun line => line.level = .warning || 0 < config.verbosity).forM system.log

end System

/-! ### Texts -/

def help : String := String.join [
  "Discover and run agent and crew test suites\n",
  "\n",
  "Usage: crewcheck [OPTIONS]\n",
  "\n",
  "Options:\n",
  "      --test-dir <TEST_DIR>        Directory containing test modules\n",
  "      --pattern <PATTERN>          File name pattern of test modules, e.g. 'test_*.json'\n",
  "  -v, --verbosity <LEVEL>          Output verbosity (0-2)\n",
  "      --report                     Write an HTML report\n",
  "      --report-file <REPORT_FILE>  Path of the HTML report\n",
  "      --config <CONFIG>            ",
  "Configuration file (defaults to ./crewcheck.toml when present)\n",
  "  -h, --help                       Print help\n",
  "  -V, --version                    Print version\n"]

def version : String := "crewcheck 0.1.0\n"

def missingDirectory (config : Config) : List String := [
  "Test directory '" ++ config.testDir ++ "' not found.",
  "To get started with crewcheck:",
  "1. Create a '" ++ config.testDir ++ "' directory",
  "2. Add test modules following the pattern '" ++ config.pattern ++ "'",
  "3. Declare classes of kind 'agent' or 'crew'"]

def noTests (config : Config) : List String := [
  "No tests found.",
  "Make sure your test modules:",
  "- Match the pattern '" ++ config.pattern ++ "'",
  "- Declare classes of kind 'agent' or 'crew'",
  "- Have test methods starting with '" ++ config.methodPrefix ++ "'"]

/-- A text whose lines but the first are indented. -/
def indented (indent : String) (text : String) : String :=
  ("\n" ++ indent).intercalate (Text.cutAt '\n' text)

/-- What is said when the command fails: the error, and what it passes on if it does. -/
def failure (e : Error) : String :=
  "Error: Error running tests\n\nCaused by:\n" ++
    match e.cause? with
    | none => "    " ++ indented "    " e.message ++ "\n"
    | some cause =>
      "    0: " ++ indented "       " e.message ++ "\n    1: " ++ indented "       " cause ++ "\n"

/-! ### The run -/

def runUnits {ι σ : Type} (system : System m) (config : Config) (runner : Runner) :
    List (TestUnit ι σ) → σ → m (List Record)
  | [], _ => return []
  | unit :: rest, state => do
    let (((record, log), state), duration) ← system.timed fun _ => runner.runUnit unit state
    system.logAll config log
    let records ← runUnits system config runner rest state
    return { record with duration } :: records

def runSuite {ι σ : Type} (system : System m) (config : Config) (suite : Suite ι σ) (state : σ) :
    m RunResult := do
  let runner : Runner := ⟨config.verbosity⟩
  system.logAll config (runner.openingLog suite.length)
  let result := RunResult.ofRecords (← runUnits system config runner suite.units state)
  system.logAll config (runner.closingLog result.summary)
  return result

def writeReport (system : System m) (config : Config) (result : RunResult) :
    m (Except Error Unit) := do
  if config.report then
    match ← system.write config.reportFile (Report.html result) with
    | .error problem => return .error (.io problem)
    | .ok () =>
      system.logAll config [⟨.info, "HTML report written to " ++ config.reportFile⟩]
      system.sayLines ["Report generated: " ++ config.reportFile]
      return .ok ()
  else return .ok ()

/-- Runs the tests of a suite and reports; gives the exit code. -/
def runAndReport {ι σ : Type} (system : System m) (config : Config) (suite : Suite ι σ)
    (state : σ) : m (Except Error Nat) := do
  system.sayLines ["Found " ++ toString suite.length ++ " test(s)", "Running tests..."]
  let result ← runSuite system config suite state
  system.say (Report.console result.summary)
  match ← writeReport system config result with
  | .error e => return .error e
  | .ok () =>
    if !result.summary.wasSuccessful then
      system.sayLines [toString result.summary.failureCount ++ " failure(s), "
        ++ toString result.summary.errorCount ++ " error(s)"]
    return .ok result.exitCode

/-- Finds the tests in what the test directory leads to, and runs them. -/
def runTests (system : System m) (config : Config) (tree : Tree) : m (Except Error Nat) := do
  system.sayLines ["Discovering tests in '" ++ config.testDir ++ "' with pattern '"
    ++ config.pattern ++ "'..."]
  match Discoverer.ofPattern (Fixture.Loader.load {}) config.pattern config.methodPrefix with
  | .error e => return .error e
  | .ok discoverer =>
    let suite := discoverer.discover config.testDir tree
    system.logAll config suite.log
    if suite.isEmpty then
      system.sayLines (noTests config)
      return .ok 0
    else runAndReport system config suite []

/-- Follows options; gives the exit code. -/
def follow (system : System m) (options : Options) : m (Except Error Nat) := do
  match Config.load options.configFile (← system.look (Config.fileFor options.configFile)) with
  | .error e => return .error e
  | .ok config =>
    let config := options.apply config
    match ← system.look config.testDir with
    | .error _ =>
      system.sayLines (missingDirectory config)
      return .ok 0
    | .ok tree => runTests system config tree

/-- The exit code of a command line that cannot be followed. -/
def usageExitCode : Nat := 2

def run (system : System m) (arguments : List String) : m Nat := do
  match parse arguments with
  | .error problem =>
    system.complain ("error: " ++ problem.message ++ "\n")
    return usageExitCode
  | .ok .help =>
    system.say help
    return 0
  | .ok .version =>
    system.say version
    return 0
  | .ok (.run options) =>
    match ← follow system options with
    | .ok code => return code
    | .error e =>
      system.complain (failure e)
      return 1

end Rehearsal.Command
