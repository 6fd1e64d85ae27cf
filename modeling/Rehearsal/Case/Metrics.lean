import Rehearsal.Json.Codec
import Rehearsal.Json.Record
import Rehearsal.Task

/-! # Measures of a crew's work -/

namespace Rehearsal

open Json (Value RecordType Field Reader)

/-- What one run of a crew amounts to. -/
structure CrewMetrics where
  /-- The tasks that are set up. -/
  totalTasks : Nat
  /-- The outputs without an error. -/
  successfulTasks : Nat
  /-- How many outputs each agent left. -/
  agentUtilization : SortedMap Nat
  deriving Repr, DecidableEq, Inhabited

namespace CrewMetrics

def tally (counts : SortedMap Nat) (name : String) : SortedMap Nat :=
  counts.put name ((counts.get? name).getD 0 + 1)

/-- The measures of an output, given how many tasks are set up. -/
def ofOutput (totalTasks : Nat) (output : CrewOutput) : CrewMetrics :=
  { totalTasks
    successfulTasks := output.tasksOutput.countP (·.isSuccess)
    agentUtilization := output.tasksOutput.foldl (fun counts child => tally counts child.agent) [] }

def type : RecordType CrewMetrics where
  title := "struct CrewMetrics"
  blank := ⟨0, 0, []⟩
  fields := [
    .required "total_tasks" Reader.count fun metrics x => { metrics with totalTasks := x },
    .required "successful_tasks" Reader.count fun metrics x =>
      { metrics with successfulTasks := x },
    .required "agent_utilization" (Reader.map Reader.count) fun metrics x =>
      { metrics with agentUtilization := x }]

def toJson (metrics : CrewMetrics) : Value :=
  .object [
    ("total_tasks", .ofNat metrics.totalTasks),
    ("successful_tasks", .ofNat metrics.successfulTasks),
    ("agent_utilization",
      .object (metrics.agentUtilization.map fun (name, count) => (name, .ofNat count)))]

instance : Json.Codec CrewMetrics := ⟨type.reader, toJson⟩

end CrewMetrics

end Rehearsal
