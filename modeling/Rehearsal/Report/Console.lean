import Rehearsal.Decimal.Notation
import Rehearsal.Result.Summary

/-! # The report on the console

First every test that failed and every test that ended in an error, with what went wrong, then
the counts, and in the last line the verdict.
-/

namespace Rehearsal.Report

/-- The line that separates parts. -/
def rule : String := "======================================================================"

/-- The line below the name of a test. -/
def thinRule : String := "----------------------------------------------------------------------"

/-- The lines of a test that did not pass. -/
def entryLines (kind : String) (entry : FaultEntry) : List String :=
  [rule, kind ++ ": " ++ entry.unitId, thinRule, entry.trace, ""]

def percentage (summary : Summary) : String :=
  Decimal.fixed 1 summary.successPercentage ++ "%"

def verdict (summary : Summary) : String :=
  if summary.wasSuccessful then "OK" else "FAILED"

def countLines (summary : Summary) : List String := [
  rule,
  "CREW TEST SUMMARY",
  rule,
  "Total Tests: " ++ toString summary.totalTests,
  "Successes: " ++ toString summary.successes,
  "Failures: " ++ toString summary.failureCount,
  "Errors: " ++ toString summary.errorCount,
  "Success Rate: " ++ percentage summary,
  "",
  "Test Categories:",
  "  Agent Tests: " ++ toString summary.agentTests,
  "  Crew Tests: " ++ toString summary.crewTests,
  rule]

/-- The lines of the report. An entry may hold line ends of its own. -/
def consoleLines (summary : Summary) : List String :=
  summary.failures.flatMap (entryLines "FAIL") ++ summary.errors.flatMap (entryLines "ERROR")
    ++ countLines summary ++ [verdict summary]

/-- The report as text, with a line end after each line. -/
def console (summary : Summary) : String :=
  String.join ((consoleLines summary).map (· ++ "\n"))

end Rehearsal.Report
