import Rehearsal.Json.Codec
import Rehearsal.Json.Record
import Rehearsal.Task

/-! # Tasks and outputs as JSON -/

namespace Rehearsal

open Json (Value RecordType Field Reader)

namespace Task

def type : RecordType Task where
  title := "struct Task"
  blank := ⟨"", none, none⟩
  fields := [
    .required "description" Reader.text fun task x => { task with description := x },
    .optional "expected_output" (Reader.optional Reader.text) fun task x =>
      { task with expectedOutput := x },
    .optional "agent" (Reader.optional Reader.text) fun task x => { task with agent := x }]

def toJson (task : Task) : Value :=
  .object [
    ("description", .text task.description),
    ("expected_output", .ofText? task.expectedOutput),
    ("agent", .ofText? task.agent)]

instance : Json.Codec Task := ⟨type.reader, toJson⟩

end Task

namespace TaskOutput

def type : RecordType TaskOutput where
  title := "struct TaskOutput"
  blank := ⟨"", "", "", none⟩
  fields := [
    .required "description" Reader.text fun output x => { output with description := x },
    .required "raw" Reader.text fun output x => { output with raw := x },
    .required "agent" Reader.text fun output x => { output with agent := x },
    .optional "error" (Reader.optional Reader.text) fun output x => { output with error := x }]

def toJson (output : TaskOutput) : Value :=
  .object [
    ("description", .text output.description),
    ("raw", .text output.raw),
    ("agent", .text output.agent),
    ("error", .ofText? output.error)]

instance : Json.Codec TaskOutput := ⟨type.reader, toJson⟩

end TaskOutput

namespace CrewOutput

def type : RecordType CrewOutput where
  title := "struct CrewOutput"
  blank := ⟨"", []⟩
  fields := [
    .required "raw" Reader.text fun output x => { output with raw := x },
    .optional "tasks_output" (Reader.list TaskOutput.type.reader) fun output x =>
      { output with tasksOutput := x }]

def toJson (output : CrewOutput) : Value :=
  .object [
    ("raw", .text output.raw),
    ("tasks_output", .list (output.tasksOutput.map TaskOutput.toJson))]

instance : Json.Codec CrewOutput := ⟨type.reader, toJson⟩

end CrewOutput

namespace Evaluation

def type : RecordType Evaluation where
  title := "struct EvaluationScore"
  blank := ⟨none, ""⟩
  fields := [
    .of .nullable "score" (Reader.optional Reader.float) fun evaluation x =>
      { evaluation with score := x },
    .optional "feedback" Reader.text fun evaluation x => { evaluation with feedback := x }]

def toJson (evaluation : Evaluation) : Value :=
  .object [
    ("score", match evaluation.score with
      | some x => .ofFloat x
      | none => .null),
    ("feedback", .text evaluation.feedback)]

instance : Json.Codec Evaluation := ⟨type.reader, toJson⟩

end Evaluation

end Rehearsal
