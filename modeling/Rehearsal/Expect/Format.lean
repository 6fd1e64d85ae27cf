import Rehearsal.Expect.Content
import Rehearsal.Json.Reader

/-! # Expectations of the format of an output

JSON is checked in full. For Markdown and YAML there are only rules of thumb: a character that
markup uses, and lines that look like entries, items or their continuation.
-/

namespace Rehearsal

inductive Format where
  | json
  | markdown
  | yaml
  deriving Repr, DecidableEq

namespace Format

def label : Format → String
  | json => "json"
  | markdown => "markdown"
  | yaml => "yaml"

def ofLowercase? : String → Option Format
  | "json" => some json
  | "markdown" | "md" => some markdown
  | "yaml" | "yml" => some yaml
  | _ => none

/-- The format of a name, or the name in lower case if there is none. -/
def parse (name : String) : Except String Format :=
  let name := Text.lowercase name
  match ofLowercase? name with
  | some format => .ok format
  | none => .error name

end Format

namespace Expect

/-- The characters that mark a text as Markdown. -/
def markdownMarks : List Char :=
  ['#', '*', '-', '\x60', '[', ']', '(', ')']

def looksMarkdown (text : List Char) : Bool :=
  text.any markdownMarks.contains

/-- Whether a line says something: it is neither blank nor a comment. -/
def isContentLine (line : List Char) : Bool :=
  match Text.trimStart line with
  | [] => false
  | c :: _ => c != '#'

/-- Whether a line is indented, or an item, or an entry. -/
def isYamlLine (line : List Char) : Bool :=
  match line with
  | ' ' :: _ | '\t' :: _ => true
  | _ =>
    let line := Text.trimEnd line
    line == ['-'] || line == ['-', '-', '-'] || ['-', ' '].isPrefixOf line
      || line.getLast? == some ':' || Text.hasPart [':', ' '] line

/-- Whether a text looks like YAML: it says something, and every line that does fits. -/
def looksYaml (text : List Char) : Bool :=
  let content := (Text.lines text).filter isContentLine
  !content.isEmpty && content.all isYamlLine

/-- The output is JSON. A message given in place of the default keeps what is wrong as cause. -/
def isJson (output : String) (message : Option String) : Verdict :=
  match Json.parse output with
  | .ok _ => .ok ()
  | .error e =>
    let violation :=
      Violation.of message ("Output is not valid JSON: " ++ e.message) none (some output)
    .error { violation with cause := message.map fun _ => e.message }

def isMarkdown (output : String) (message : Option String) : Verdict :=
  if looksMarkdown output.toList then .ok ()
  else
    .error (.of message "Output does not appear to be Markdown format" none (some output))

def isYaml (output : String) (message : Option String) : Verdict :=
  if looksYaml output.toList then .ok ()
  else .error (.of message "Output does not appear to be YAML format" none (some output))

def hasFormat (output name : String) (message : Option String) : Verdict :=
  match Format.parse name with
  | .error name => .error { message := "Unsupported output format: " ++ name }
  | .ok .json => isJson output message
  | .ok .markdown => isMarkdown output message
  | .ok .yaml => isYaml output message

end Expect

end Rehearsal
