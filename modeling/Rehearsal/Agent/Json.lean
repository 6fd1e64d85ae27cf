import Rehearsal.Agent
import Rehearsal.Json.Codec
import Rehearsal.Json.Record

/-! # Agents as JSON -/

namespace Rehearsal.AgentConfig

open Json (Value RecordType Field Reader)

def type : RecordType AgentConfig where
  title := "struct MockAgentConfig"
  closed := true
  blank := {}
  fields := [
    .required "role" Reader.text fun config x => { config with role := x },
    .optional "goal" Reader.text fun config x => { config with goal := x },
    .optional "backstory" Reader.text fun config x => { config with backstory := x },
    .optional "responses" (Reader.list Reader.text) fun config x => { config with responses := x },
    .optional "tools" (Reader.list Reader.text) fun config x => { config with tools := x }]

def toJson (config : AgentConfig) : Value :=
  .object [
    ("role", .text config.role),
    ("goal", .text config.goal),
    ("backstory", .text config.backstory),
    ("responses", .ofTexts config.responses),
    ("tools", .ofTexts config.tools)]

instance : Json.Codec AgentConfig := ⟨type.reader, toJson⟩

end Rehearsal.AgentConfig
