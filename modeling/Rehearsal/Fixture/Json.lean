import Rehearsal.Agent.Json
import Rehearsal.Fixture.Basic
import Rehearsal.Json.Codec
import Rehearsal.Json.Tagged
import Rehearsal.Task.Json
import Rehearsal.Tool.Json

/-! # Fixtures as JSON -/

namespace Rehearsal.Fixture

open Json (Value RecordType TaggedType Field Reader Decoder Variant Reason Rest Cursor Members)

namespace Kind

/-- Reads a kind; an unknown name means neither agent nor crew. -/
def reader : Reader Kind :=
  Reader.choice fun name =>
    .ok (if name == "agent" then agent else if name == "crew" then crew else other)

def toJson : Kind → Value
  | agent => .text "agent"
  | crew => .text "crew"
  | other => .text "other"

instance : Json.Codec Kind := ⟨reader, toJson⟩

end Kind

def decodeMembers : Decoder Members :=
  Decoder.map Decoder.value

def decodeValues : Decoder (List Value) :=
  Decoder.list Decoder.value

namespace Check

/-- What a kind of check makes of its members, and how they are told apart in messages. -/
def variant {ρ : Type} (name : String) (blank : ρ) (parts : List (Json.Part ρ)) (make : ρ → Check)
    (rest : Rest) : Except Reason Check :=
  ((Variant.mk ("struct variant Check::" ++ name) parts blank).decode rest).map make

def type : TaggedType Check where
  title := "internally tagged enum Check"
  tag := "check"
  kinds := [
    ("contains", variant "Contains" ("", false) [
      .needed "text" Decoder.text fun p x => (x, p.2),
      .optional "case_sensitive" Decoder.bool fun p x => (p.1, x)]
      fun p => contains p.1 p.2),
    ("format", variant "Format" "" [
      .needed "format" Decoder.text fun _ x => x]
      format),
    ("matches", variant "Matches" ("", false) [
      .needed "pattern" Decoder.text fun p x => (x, p.2),
      .optional "regex" Decoder.bool fun p x => (p.1, x)]
      fun p => pattern p.1 p.2),
    ("crew_completed", fun rest =>
      ((Variant.mk "unit variant Check::CrewCompleted" [] ()).decode rest).map fun _ =>
        crewCompleted),
    ("task_sequence", variant "TaskSequence" [] [
      .needed "tasks" (Decoder.list Decoder.text) fun _ x => x]
      taskSequence),
    ("collaboration", variant "Collaboration" 0 [
      .needed "min_agents" Decoder.count fun _ x => x]
      collaboration),
    ("agent_called_tool", variant "AgentCalledTool" (none, "") [
      .optional "agent" (Decoder.optional Decoder.text) fun p x => (x, p.2),
      .needed "tool" Decoder.text fun p x => (p.1, x)]
      fun p => agentCalledTool p.1 p.2),
    ("tool_called_with", variant "ToolCalledWith" ("", (⟨[], []⟩ : ToolCall)) [
      .needed "tool" Decoder.text fun p x => (x, p.2),
      .optional "args" decodeValues fun p x => (p.1, { p.2 with args := x }),
      .optional "kwargs" decodeMembers fun p x => (p.1, { p.2 with kwargs := x })]
      fun p => toolCalledWith p.1 p.2),
    ("tool_call_count", variant "ToolCallCount" ("", 0) [
      .needed "tool" Decoder.text fun p x => (x, p.2),
      .needed "count" Decoder.count fun p x => (p.1, x)]
      fun p => toolCallCount p.1 p.2),
    ("quality", variant "Quality" 0.0 [
      .needed "min_score" Decoder.float fun _ x => x]
      quality),
    ("execution_count", variant "ExecutionCount" (none, 0) [
      .optional "agent" (Decoder.optional Decoder.text) fun p x => (x, p.2),
      .needed "count" Decoder.count fun p x => (p.1, x)]
      fun p => executionCount p.1 p.2)]

/-- The members of a check, its tag first. -/
def toMembers : Check → Members
  | contains text caseSensitive =>
    [("check", .text "contains"), ("text", .text text), ("case_sensitive", .bool caseSensitive)]
  | format name => [("check", .text "format"), ("format", .text name)]
  | pattern text regex =>
    [("check", .text "matches"), ("pattern", .text text), ("regex", .bool regex)]
  | crewCompleted => [("check", .text "crew_completed")]
  | taskSequence tasks => [("check", .text "task_sequence"), ("tasks", .ofTexts tasks)]
  | collaboration minAgents =>
    [("check", .text "collaboration"), ("min_agents", .ofNat minAgents)]
  | agentCalledTool agent tool =>
    [("check", .text "agent_called_tool"), ("agent", .ofText? agent), ("tool", .text tool)]
  | toolCalledWith tool call =>
    [("check", .text "tool_called_with"), ("tool", .text tool), ("args", .list call.args),
      ("kwargs", .object call.kwargs)]
  | toolCallCount tool count =>
    [("check", .text "tool_call_count"), ("tool", .text tool), ("count", .ofNat count)]
  | quality minScore => [("check", .text "quality"), ("min_score", .ofFloat minScore)]
  | executionCount agent count =>
    [("check", .text "execution_count"), ("agent", .ofText? agent), ("count", .ofNat count)]

def toJson (check : Check) : Value :=
  .object check.toMembers

instance : Json.Codec Check := ⟨type.reader, toJson⟩

end Check

namespace Assertion

/-- An assertion as messages name it. -/
def title : String := "struct AssertStep"

/-- The member that holds the message. -/
def messageName : String := "message"

/-- The assertion of a message and the members of its check. -/
def ofParts (message : Option String) (others : Members) : Except Reason Assertion :=
  (Check.type.ofMembers others).map fun check => { check, message }

/-- Reads the members of an assertion, given the message and the other members in reverse. -/
def members : Nat → Bool → Option (Option String) → Members → Reader Assertion
  | 0, _, _, _, _, c => Reader.failAt .endInObject c.position
  | fuel + 1, first, message?, others, depth, c => do
    match ← Reader.nextKey first c with
    | (none, c) =>
      match ofParts (message?.getD none) others.reverse with
      | .ok assertion => .ok (assertion, c)
      | .error reason => Reader.failPending reason c
    | (some name, c) =>
      if name == messageName then
        if message?.isSome then Reader.failPending (.duplicateField name) c
        else
          let (message, c) ← Reader.optional Reader.text depth (← Reader.colon c)
          members fuel false (some message) others depth c
      else
        let (value, c) ← Reader.tree depth (← Reader.colon c)
        members fuel false message? ((name, value) :: others) depth c

/-- Reads an assertion, which is always written as an object. -/
def reader : Reader Assertion := fun depth c =>
  let c := c.skipBlanks
  match c.rest with
  | [] => Reader.failAt .endInValue c.next
  | '\x7b' :: _ =>
    Reader.enclosed .curly (members (c.rest.length + 1) true none []) depth c
  | _ :: _ => .error (Reader.unexpected title c)

/-- The message among members, and the others in their order. -/
def splitMembers : Members → Option (Option String) → Members →
    Except Reason (Option String × Members)
  | [], message?, others => .ok (message?.getD none, others.reverse)
  | (name, value) :: rest, message?, others =>
    if name == messageName then
      if message?.isSome then .error (.duplicateField name)
      else
        match Decoder.optional Decoder.text value with
        | .ok message => splitMembers rest (some message) others
        | .error reason => .error reason
    else splitMembers rest message? ((name, value) :: others)

def decode : Decoder Assertion
  | .object members =>
    match splitMembers members none [] with
    | .ok (message, others) => ofParts message others
    | .error reason => .error reason
  | v => Decoder.unexpected title v

/-- The members of an assertion: those of its check, then the message. -/
def toMembers (assertion : Assertion) : Members :=
  assertion.check.toMembers ++ [(messageName, .ofText? assertion.message)]

def toJson (assertion : Assertion) : Value :=
  .object assertion.toMembers

instance : Json.Codec Assertion := ⟨reader, toJson⟩

end Assertion

namespace Step

/-- What a kind of step makes of its members. -/
def variant {ρ : Type} (name : String) (blank : ρ) (parts : List (Json.Part ρ)) (make : ρ → Step)
    (rest : Rest) : Except Reason Step :=
  ((Variant.mk ("struct variant FixtureStep::" ++ name) parts blank).decode rest).map make

def type : TaggedType Step where
  title := "internally tagged enum FixtureStep"
  tag := "type"
  kinds := [
    ("execute", variant "Execute" ("", none) [
      .needed "task" Decoder.text fun p x => (x, p.2),
      .optional "expected_output" (Decoder.optional Decoder.text) fun p x => (p.1, x)]
      fun p => execute p.1 p.2),
    ("kickoff", variant "Kickoff" [] [
      .optional "inputs" (Decoder.map Decoder.text) fun _ x => x]
      kickoff),
    ("call_tool", variant "CallTool" ("", (⟨[], []⟩ : ToolCall)) [
      .needed "tool" Decoder.text fun p x => (x, p.2),
      .optional "args" decodeValues fun p x => (p.1, { p.2 with args := x }),
      .optional "kwargs" decodeMembers fun p x => (p.1, { p.2 with kwargs := x })]
      fun p => callTool p.1 p.2),
    ("simulate_tool_call",
      variant "SimulateToolCall" (none, (⟨"", [], .null⟩ : SimulatedCall)) [
      .optional "agent" (Decoder.optional Decoder.text) fun p x => (x, p.2),
      .needed "tool" Decoder.text fun p x => (p.1, { p.2 with tool := x }),
      .optional "parameters" decodeMembers fun p x => (p.1, { p.2 with parameters := x }),
      .optional "result" Decoder.value fun p x => (p.1, { p.2 with result := x })]
      fun p => simulate p.1 p.2),
    ("reset", fun rest =>
      ((Variant.mk "unit variant FixtureStep::Reset" [] ()).decode rest).map fun _ => reset),
    ("assert", fun rest => (Assertion.decode rest).map assert)]

def toJson : Step → Value
  | execute task expectedOutput =>
    .object [("type", .text "execute"), ("task", .text task),
      ("expected_output", .ofText? expectedOutput)]
  | kickoff inputs =>
    .object [("type", .text "kickoff"),
      ("inputs", .object (inputs.map fun (name, text) => (name, .text text)))]
  | callTool tool call =>
    .object [("type", .text "call_tool"), ("tool", .text tool), ("args", .list call.args),
      ("kwargs", .object call.kwargs)]
  | simulate agent call =>
    .object [("type", .text "simulate_tool_call"), ("agent", .ofText? agent),
      ("tool", .text call.tool), ("parameters", .object call.parameters), ("result", call.result)]
  | reset => .object [("type", .text "reset")]
  | assert assertion => .object (("type", .text "assert") :: assertion.toMembers)

instance : Json.Codec Step := ⟨type.reader, toJson⟩

end Step

namespace Test

def type : RecordType Test where
  title := "struct FixtureTest"
  closed := true
  blank := ⟨"", []⟩
  fields := [
    .required "name" Reader.text fun test x => { test with name := x },
    .optional "steps" (Reader.list Step.type.reader) fun test x => { test with steps := x }]

def toJson (test : Test) : Value :=
  .object [("name", .text test.name), ("steps", .list (test.steps.map Step.toJson))]

instance : Json.Codec Test := ⟨type.reader, toJson⟩

end Test

namespace Class

def type : RecordType Class where
  title := "struct FixtureClass"
  closed := true
  blank := { name := "", kind := .other }
  fields := [
    .required "name" Reader.text fun declared x => { declared with name := x },
    .required "kind" Kind.reader fun declared x => { declared with kind := x },
    .optional "agents" (Reader.list AgentConfig.type.reader) fun declared x =>
      { declared with agents := x },
    .optional "tools" (Reader.list ToolConfig.type.reader) fun declared x =>
      { declared with tools := x },
    .optional "tasks" (Reader.list Task.type.reader) fun declared x =>
      { declared with tasks := x },
    .optional "tests" (Reader.list Test.type.reader) fun declared x =>
      { declared with tests := x }]

def toJson (declared : Class) : Value :=
  .object [
    ("name", .text declared.name),
    ("kind", declared.kind.toJson),
    ("agents", .list (declared.agents.map AgentConfig.toJson)),
    ("tools", .list (declared.tools.map ToolConfig.toJson)),
    ("tasks", .list (declared.tasks.map Task.toJson)),
    ("tests", .list (declared.tests.map Test.toJson))]

instance : Json.Codec Class := ⟨type.reader, toJson⟩

end Class

namespace Module

def type : RecordType Module where
  title := "struct FixtureModule"
  closed := true
  blank := ⟨[]⟩
  fields := [
    .optional "classes" (Reader.list Class.type.reader) fun file x => { file with classes := x }]

def toJson (file : Module) : Value :=
  .object [("classes", .list (file.classes.map Class.toJson))]

instance : Json.Codec Module := ⟨type.reader, toJson⟩

end Module

end Rehearsal.Fixture
