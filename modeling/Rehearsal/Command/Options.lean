import Rehearsal.Config

/-! # Command-line options

Options are read one after another; each may be given once. Asking for help or for the version ends
the reading.
-/

namespace Rehearsal.Command

/-- The options of a run; what is not given is left to the configuration. -/
structure Options where
  testDir : Option String := none
  pattern : Option String := none
  verbosity : Option Nat := none
  report : Bool := false
  reportFile : Option String := none
  configFile : Option String := none
  deriving Repr, DecidableEq

/-- What the command line asks for. -/
inductive Request where
  | run (options : Options)
  | help
  | version
  deriving Repr, DecidableEq

/-- Why a command line cannot be followed. -/
inductive UsageProblem where
  | unexpected (argument : String)
  | missingValue (option : String)
  | invalidValue (option value : String)
  | repeated (option : String)
  deriving Repr, DecidableEq

namespace UsageProblem

def message : UsageProblem → String
  | unexpected argument => "unexpected argument '" ++ argument ++ "' found"
  | missingValue option => "a value is required for '" ++ option ++ "' but none was supplied"
  | invalidValue option value => "invalid value '" ++ value ++ "' for '" ++ option ++ "'"
  | repeated option => "the argument '" ++ option ++ "' cannot be used multiple times"

end UsageProblem

/-- An option that takes a value. -/
inductive Valued where
  | testDir
  | pattern
  | verbosity
  | reportFile
  | configFile
  deriving Repr, DecidableEq

namespace Valued

def name : Valued → String
  | testDir => "--test-dir"
  | pattern => "--pattern"
  | verbosity => "--verbosity"
  | reportFile => "--report-file"
  | configFile => "--config"

def all : List Valued := [testDir, pattern, verbosity, reportFile, configFile]

def ofName? (name : String) : Option Valued :=
  all.find? (·.name == name)

end Valued

/-- The whole number that a text writes in decimal digits, after a sign if there is one. -/
def wholeNumber? (text : List Char) : Option Int :=
  let (negative, digits) : Bool × List Char := match text with
    | '+' :: digits => (false, digits)
    | '-' :: digits => (true, digits)
    | digits => (false, digits)
  if digits.isEmpty || !digits.all Char.isDigit then none
  else
    let n : Int := digits.foldl (fun n c => n * 10 + (c.toNat - 48)) 0
    some (if negative then -n else n)

def verbosity? (text : String) : Option Nat :=
  match wholeNumber? text.toList with
  | some n => if 0 ≤ n && n ≤ Config.maxVerbosity then some n.toNat else none
  | none => none

namespace Options

/-- Sets an option that was not set, to a value that must be there. -/
def path (option : Valued) (set : Options → Options) (before : Option String) (value : String)
    (options : Options) : Except UsageProblem Options :=
  if before.isSome then .error (.repeated option.name)
  else if value = "" then .error (.missingValue option.name)
  else .ok (set options)

def set (options : Options) (option : Valued) (value : String) : Except UsageProblem Options :=
  match option with
  | .testDir => path option ({ · with testDir := some value }) options.testDir value options
  | .reportFile =>
    path option ({ · with reportFile := some value }) options.reportFile value options
  | .configFile =>
    path option ({ · with configFile := some value }) options.configFile value options
  | .pattern =>
    if options.pattern.isSome then .error (.repeated option.name)
    else .ok { options with pattern := some value }
  | .verbosity =>
    if options.verbosity.isSome then .error (.repeated option.name)
    else
      match verbosity? value with
      | none => .error (.invalidValue option.name value)
      | some level => .ok { options with verbosity := some level }

/-- The configuration with the options that were given in place of its own. -/
def apply (options : Options) (config : Config) : Config :=
  let config := (options.verbosity.map config.withVerbosity).getD config
  { config with
    testDir := options.testDir.getD config.testDir
    pattern := options.pattern.getD config.pattern
    reportFile := options.reportFile.getD config.reportFile
    report := config.report || options.report }

end Options

/-- A long option as it is written: its name, and the value after the equals sign if there is
    one. -/
def splitValue (argument : String) : String × Option String :=
  let name := argument.toList.takeWhile (· != '=')
  match argument.toList.drop name.length with
  | [] => (argument, none)
  | _ :: value => (String.ofList name, some (String.ofList value))

/-- The value of a short option that is written in the same argument. -/
def attachedValue : List Char → Option String
  | [] => none
  | '=' :: value => some (String.ofList value)
  | value => some (String.ofList value)

def isValue (argument : String) : Bool :=
  argument = "-" || !argument.startsWith "-"

inductive Argument where
  | help
  | version
  | report
  | valued (option : Valued) (value : Option String)
  /-- The mark after which no option is read. -/
  | terminator
  | other

def Argument.of (argument : String) : Argument :=
  match argument.toList with
  | ['-', '-'] => .terminator
  | '-' :: '-' :: _ =>
    let (name, value) := splitValue argument
    match Valued.ofName? name, value with
    | some option, value => .valued option value
    | none, some _ => .other
    | none, none =>
      if name = "--report" then .report
      else if name = "--help" then .help
      else if name = "--version" then .version
      else .other
  | '-' :: 'h' :: _ => .help
  | '-' :: 'V' :: _ => .version
  | '-' :: 'v' :: rest => .valued .verbosity (attachedValue rest)
  | _ => .other

/-- Reads the arguments that follow on those that gave the options. -/
def readArguments (options : Options) : List String → Except UsageProblem Request
  | [] => .ok (.run options)
  | argument :: rest =>
    match Argument.of argument with
    | .help => .ok .help
    | .version => .ok .version
    | .report =>
      if options.report then .error (.repeated "--report")
      else readArguments { options with report := true } rest
    | .valued option (some value) => do readArguments (← options.set option value) rest
    | .valued option none =>
      match rest with
      | [] => .error (.missingValue option.name)
      | value :: rest =>
        if isValue value then do readArguments (← options.set option value) rest
        else .error (.missingValue option.name)
    | .terminator =>
      match rest with
      | [] => .ok (.run options)
      | extra :: _ => .error (.unexpected extra)
    | .other => .error (.unexpected argument)

def parse (arguments : List String) : Except UsageProblem Request :=
  readArguments {} arguments

end Rehearsal.Command
