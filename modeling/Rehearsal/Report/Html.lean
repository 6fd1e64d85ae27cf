import Rehearsal.Report.Console

/-! # The report as a web page

The counts, a table for the tests that failed and one for those that ended in an error if there
are any, and a table of all tests. Names and traces are written so that they cannot be taken for
markup.
-/

namespace Rehearsal.Report

def escapeChar : Char → List Char
  | '&' => "&amp;".toList
  | '<' => "&lt;".toList
  | '>' => "&gt;".toList
  | '"' => "&quot;".toList
  | '\'' => "&#39;".toList
  | c => [c]

def escape (text : String) : String :=
  String.ofList (text.toList.flatMap escapeChar)

def style : String :=
"body \x7b font-family: sans-serif; margin: 2em; \x7d
.summary \x7b background: #f5f5f5; padding: 1em; border-radius: 4px; \x7d
.success \x7b color: #2e7d32; \x7d
.failure \x7b color: #c62828; \x7d
.error \x7b color: #ef6c00; \x7d
table \x7b border-collapse: collapse; width: 100%; margin-top: 1em; \x7d
th, td \x7b border: 1px solid #ddd; padding: 6px; text-align: left; vertical-align: top; \x7d
pre \x7b white-space: pre-wrap; margin: 0; \x7d
"

def pageHead : String :=
  "<!DOCTYPE html>\n<html>\n<head>\n<meta charset=\"utf-8\">\n<title>Crew Test Report</title>\n"
    ++ "<style>\n" ++ style ++ "</style>\n</head>\n"

def countSection (summary : Summary) : String :=
  "<div class=\"summary\">\n<h2>Summary</h2>\n"
    ++ "<p>Total Tests: " ++ toString summary.totalTests ++ "</p>\n"
    ++ "<p class=\"success\">Successes: " ++ toString summary.successes ++ "</p>\n"
    ++ "<p class=\"failure\">Failures: " ++ toString summary.failureCount ++ "</p>\n"
    ++ "<p class=\"error\">Errors: " ++ toString summary.errorCount ++ "</p>\n"
    ++ "<p>Success Rate: " ++ percentage summary ++ "</p>\n"
    ++ "<h3>Test Categories</h3>\n"
    ++ "<p>Agent Tests: " ++ toString summary.agentTests ++ "</p>\n"
    ++ "<p>Crew Tests: " ++ toString summary.crewTests ++ "</p>\n"
    ++ "</div>\n"

def faultRow (entry : FaultEntry) : String :=
  "<tr><td>" ++ escape entry.unitId ++ "</td><td><pre>" ++ escape entry.trace
    ++ "</pre></td></tr>\n"

/-- A section for tests that did not pass; without such tests there is none. -/
def faultSection (title kind : String) (entries : List FaultEntry) : String :=
  if entries.isEmpty then ""
  else
    "<h2 class=\"" ++ kind ++ "\">" ++ title ++ "</h2>\n"
      ++ "<table>\n<tr><th>Test</th><th>Trace</th></tr>\n"
      ++ String.join (entries.map faultRow) ++ "</table>\n"

def recordRow (record : Record) : String :=
  "<tr><td>" ++ escape record.unitId ++ "</td><td>" ++ record.category.label ++ "</td><td>"
    ++ record.outcome.label ++ "</td><td>" ++ Decimal.fixed 3 record.duration.toSeconds
    ++ "s</td></tr>\n"

def recordSection (records : List Record) : String :=
  "<h2>All Tests</h2>\n<table>\n"
    ++ "<tr><th>Test</th><th>Category</th><th>Status</th><th>Duration</th></tr>\n"
    ++ String.join (records.map recordRow) ++ "</table>\n"

def html (result : RunResult) : String :=
  pageHead ++ "<body>\n<h1>Crew Test Report</h1>\n"
    ++ countSection result.summary
    ++ faultSection "Failures" "failure" result.summary.failures
    ++ faultSection "Errors" "error" result.summary.errors
    ++ recordSection result.records
    ++ "</body>\n</html>\n"

end Rehearsal.Report
