import Rehearsal.Config
import Rehearsal.Json.Codec

/-! # Configurations as JSON -/

namespace Rehearsal.Config

open Json (Value RecordType Field Reader)

def pathReader : Reader String :=
  Reader.textOf "path string" .ok

def type : RecordType Config where
  title := "struct RunnerConfig"
  blank := {}
  fields := [
    .optional "test_dir" pathReader fun config x => { config with testDir := x },
    .optional "pattern" Reader.text fun config x => { config with pattern := x },
    .optional "method_prefix" Reader.text fun config x => { config with methodPrefix := x },
    .optional "verbosity" (Reader.natural "u8" 255) fun config x => { config with verbosity := x },
    .optional "report" Reader.bool fun config x => { config with report := x },
    .optional "report_file" pathReader fun config x => { config with reportFile := x }]

def toJson (config : Config) : Value :=
  .object [
    ("test_dir", .text config.testDir),
    ("pattern", .text config.pattern),
    ("method_prefix", .text config.methodPrefix),
    ("verbosity", .ofNat config.verbosity),
    ("report", .bool config.report),
    ("report_file", .text config.reportFile)]

instance : Json.Codec Config := ⟨type.reader, toJson⟩

end Rehearsal.Config
