import Rehearsal.Regex.Matching
import Rehearsal.Regex.Parser
import Rehearsal.Text.Lowercase
import Rehearsal.Text.Search
import Rehearsal.Violation

/-! # Expectations of the content of an output

What is expected is part of the output, with or without regard to case, or a regular expression
that the output matches. A message given with an expectation replaces its own, and nothing else.
-/

namespace Rehearsal

namespace Expect

/-- Whether a text contains another, with regard to case or without. -/
def containsText (text needle : String) (caseSensitive : Bool) : Bool :=
  if caseSensitive then Text.includes text needle
  else Text.includes (Text.lowercase text) (Text.lowercase needle)

def contains (output needle : String) (caseSensitive : Bool) (message : Option String) : Verdict :=
  if containsText output needle caseSensitive then .ok ()
  else
    .error (.of message ("Expected content '" ++ needle ++ "' not found in agent output")
      (some needle) (some output))

/-- What makes regular expressions of texts: whether an output matches, or what a message adds about
    a text that is none. -/
abbrev PatternCompiler := String → Except String (String → Bool)

/-- The regular expressions of `Regex`. -/
def regexCompiler : PatternCompiler := fun pattern =>
  match Regex.parse pattern with
  | .error problem => .error problem.remark
  | .ok regex => .ok regex.isMatch

/-- The output matches a regular expression. A pattern that is none is reported as such, whatever
    message was given. -/
def matchesRegex (compile : PatternCompiler) (output pattern : String) (message : Option String) :
    Verdict :=
  match compile pattern with
  | .error remark =>
    .error { message := "Invalid regex pattern " ++ Text.quoted pattern ++ remark }
  | .ok isMatch =>
    if isMatch output then .ok ()
    else
      .error (.of message ("Crew output does not match regex pattern: " ++ pattern)
        (some pattern) (some output))

def containsPattern (output pattern : String) (message : Option String) : Verdict :=
  if Text.includes output pattern then .ok ()
  else
    .error (.of message ("Expected pattern '" ++ pattern ++ "' not found in crew output")
      (some pattern) (some output))

/-- The output contains a text literally, or matches it as a regular expression. -/
def matchesPattern (output pattern : String) (regex : Bool) (message : Option String)
    (compile : PatternCompiler := regexCompiler) : Verdict :=
  if regex then matchesRegex compile output pattern message
  else containsPattern output pattern message

end Expect

end Rehearsal
