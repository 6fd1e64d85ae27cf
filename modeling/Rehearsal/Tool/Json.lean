import Rehearsal.Json.Codec
import Rehearsal.Json.Record
import Rehearsal.Tool

/-! # Tools as JSON -/

namespace Rehearsal.ToolConfig

open Json (Value RecordType Field Reader)

def type : RecordType ToolConfig where
  title := "struct MockToolConfig"
  closed := true
  blank := {}
  fields := [
    .required "name" Reader.text fun config x => { config with name := x },
    .optional "description" Reader.text fun config x => { config with description := x },
    .optional "return_value" Reader.value fun config x => { config with returnValue := x }]

def toJson (config : ToolConfig) : Value :=
  .object [
    ("name", .text config.name),
    ("description", .text config.description),
    ("return_value", config.returnValue)]

instance : Json.Codec ToolConfig := ⟨type.reader, toJson⟩

end Rehearsal.ToolConfig
