import Rehearsal.Proofs.Fixture.Steps
import Rehearsal.Proofs.Json.Outputs

/-! # Fixtures read back

Of a module that was read, every list is read back item by item. What its values have to be for that
is what their readers give; only the floating point numbers among them are taken on trust.
-/

namespace Rehearsal

open Json (Value Number Reader Codec ReadBack Reads Yields)

namespace AgentConfig

variable {depth : Nat}

theorem reads (config : AgentConfig) : Reads type.reader (depth + 2) config.toJson config :=
  Json.reads_record <|
    .member rfl rfl (Json.reads_field (Json.reads_text _)) <|
    .member rfl rfl (Json.reads_field (Json.reads_text _)) <|
    .member rfl rfl (Json.reads_field (Json.reads_text _)) <|
    .member rfl rfl (Json.reads_field (Json.reads_texts _)) <|
    .member rfl rfl (Json.reads_field (Json.reads_texts _)) <|
    .done rfl rfl

end AgentConfig

namespace ToolConfig

variable {depth : Nat}

theorem yields : Yields type.reader (depth + 1) fun config => config.returnValue.Sound depth := by
  refine Json.yields_unchecked ?_ rfl ⟨.text _, rfl⟩
  simp only [type, List.forall_mem_cons]
  refine ⟨?name, ?description, ?returnValue, List.forall_mem_nil _⟩
  case name | description => exact Json.keeps_any fun _ _ sound => sound
  case returnValue => exact Json.keeps_field Json.yields_value fun _ _ _ sound => sound

theorem reads {config : ToolConfig} (sound : config.returnValue.Sound depth)
    (readBack : ReadBack config.returnValue.floats) :
    Reads type.reader (depth + 1) config.toJson config :=
  Json.reads_record <|
    .member rfl rfl (Json.reads_field (Json.reads_text _)) <|
    .member rfl rfl (Json.reads_field (Json.reads_text _)) <|
    .member rfl rfl (Json.reads_field
      (Json.reads_value (sound.within.readsBack readBack) sound.canonical)) <|
    .done rfl rfl

end ToolConfig

namespace Fixture

variable {depth : Nat}

theorem Kind.reads (kind : Kind) : Reads reader depth kind.toJson kind := by
  cases kind <;> exact Json.reads_choice rfl

theorem Step.yields : Yields type.reader (depth + 2) (Sound depth) :=
  Json.yields_tagged makes_kinds

namespace Test

/-- The floating point numbers of a test. -/
def floats (test : Test) : List Float :=
  test.steps.flatMap (·.floats)

/-- Whether the steps are as they are read. -/
def Sound (depth : Nat) (test : Test) : Prop :=
  ∀ step ∈ test.steps, step.Sound depth

theorem yields : Yields type.reader (depth + 4) (Sound depth) := by
  refine Json.yields_unchecked ?_ rfl (List.forall_mem_nil _)
  simp only [type, List.forall_mem_cons]
  refine ⟨?name, ?steps, List.forall_mem_nil _⟩
  case name => exact Json.keeps_any fun _ _ sound => sound
  case steps => exact Json.keeps_field (Json.yields_list Step.yields) fun _ _ _ steps => steps

theorem reads {test : Test} (sound : test.Sound depth) (readBack : ReadBack test.floats) :
    Reads type.reader (depth + 4) test.toJson test := by
  rw [floats, Json.readBack_flatMap] at readBack
  exact Json.reads_record <|
    .member rfl rfl (Json.reads_field (Json.reads_text _)) <|
    .member rfl rfl (Json.reads_field (Json.reads_list fun step member =>
      Step.reads (sound step member) (readBack step member))) <|
    .done rfl rfl

end Test

namespace Class

/-- The floating point numbers of a class. -/
def floats (declared : Class) : List Float :=
  declared.tools.flatMap (·.returnValue.floats) ++ declared.tests.flatMap (·.floats)

/-- Whether the tools and tests are as they are read. -/
structure Sound (depth : Nat) (declared : Class) : Prop where
  tools : ∀ tool ∈ declared.tools, tool.returnValue.Sound (depth + 3)
  tests : ∀ test ∈ declared.tests, test.Sound depth

theorem yields : Yields type.reader (depth + 6) (Sound depth) := by
  refine Json.yields_unchecked ?_ rfl ⟨List.forall_mem_nil _, List.forall_mem_nil _⟩
  simp only [type, List.forall_mem_cons]
  refine ⟨?name, ?kind, ?agents, ?tools, ?tasks, ?tests, List.forall_mem_nil _⟩
  case name | kind | agents | tasks => exact Json.keeps_any fun _ _ sound => ⟨sound.1, sound.2⟩
  case tools =>
    exact Json.keeps_field (Json.yields_list ToolConfig.yields) fun _ _ sound tools =>
      ⟨tools, sound.tests⟩
  case tests =>
    exact Json.keeps_field (Json.yields_list Test.yields) fun _ _ sound tests =>
      ⟨sound.tools, tests⟩

theorem reads {declared : Class} (sound : declared.Sound depth)
    (readBack : ReadBack declared.floats) :
    Reads type.reader (depth + 6) declared.toJson declared := by
  rw [floats, Json.readBack_append, Json.readBack_flatMap, Json.readBack_flatMap] at readBack
  exact Json.reads_record <|
    .member rfl rfl (Json.reads_field (Json.reads_text _)) <|
    .member rfl rfl (Json.reads_field (Kind.reads _)) <|
    .member rfl rfl (Json.reads_field (Json.reads_list fun agent _ => agent.reads)) <|
    .member rfl rfl (Json.reads_field (Json.reads_list fun tool member =>
      ToolConfig.reads (sound.tools tool member) (readBack.1 tool member))) <|
    .member rfl rfl (Json.reads_field (Json.reads_list fun task _ => task.reads)) <|
    .member rfl rfl (Json.reads_field (Json.reads_list fun test member =>
      Test.reads (sound.tests test member) (readBack.2 test member))) <|
    .done rfl rfl

end Class

namespace Module

/-- The floating point numbers of a module. -/
def floats (file : Module) : List Float :=
  file.classes.flatMap (·.floats)

/-- Whether the classes are as they are read. -/
def Sound (depth : Nat) (file : Module) : Prop :=
  ∀ declared ∈ file.classes, declared.Sound depth

theorem yields : Yields type.reader (depth + 8) (Sound depth) := by
  refine Json.yields_unchecked ?_ rfl (List.forall_mem_nil _)
  simp only [type, List.forall_mem_singleton]
  exact Json.keeps_field (Json.yields_list Class.yields) fun _ _ _ classes => classes

theorem reads {file : Module} (sound : file.Sound depth) (readBack : ReadBack file.floats) :
    Reads type.reader (depth + 8) file.toJson file := by
  rw [floats, Json.readBack_flatMap] at readBack
  exact Json.reads_record <|
    .member rfl rfl (Json.reads_field (Json.reads_list fun declared member =>
      Class.reads (sound declared member) (readBack declared member))) <|
    .done rfl rfl

end Module

/-- What was decoded is decoded again from what it is encoded to, on one line or over several: a
    fixture as far as its floating point numbers read back, and measures in any case. Tasks,
    outputs, outcomes and entries need not even have been decoded before. -/
theorem decode_encode :
    (∀ (text : String) (file : Module), Codec.decode text = .ok file → ReadBack file.floats →
        Codec.Faithful file) ∧
      (∀ (text : String) (metrics : CrewMetrics), Codec.decode text = .ok metrics →
        Codec.Faithful metrics) ∧
      (∀ task : Task, Codec.Faithful task) ∧ (∀ output : TaskOutput, Codec.Faithful output) ∧
      (∀ output : CrewOutput, Codec.Faithful output) ∧
      (∀ outcome : Outcome, Codec.Faithful outcome) ∧
      ∀ entry : FaultEntry, Codec.Faithful entry := by
  refine ⟨fun text file decoded readBack => ?_, fun text metrics decoded => ?_,
    fun task => Codec.faithful_of_reads task.reads,
    fun output => Codec.faithful_of_reads output.reads,
    fun output => Codec.faithful_of_reads output.reads,
    fun outcome => Codec.faithful_of_reads outcome.reads,
    fun entry => Codec.faithful_of_reads entry.reads⟩
  · -- Eight brackets are open around the arguments of a call.
    have sound : file.Sound 119 := Codec.holds_of_decode Module.yields decoded
    exact Codec.faithful_of_reads (Module.reads sound readBack)
  · have sound : metrics.Sound := Codec.holds_of_decode CrewMetrics.yields decoded
    exact Codec.faithful_of_reads (CrewMetrics.reads sound)

namespace Graded

def text : String :=
  "\x7b\"classes\":[\x7b\"name\":\"Crew\",\"kind\":\"crew\"," ++
  "\"tools\":[\x7b\"name\":\"search\",\"return_value\":\x7b\"hits\":[2,-1]\x7d\x7d]," ++
  "\"tests\":[\x7b\"name\":\"test_score\",\"steps\":[\x7b\"type\":\"kickoff\"\x7d," ++
  "\x7b\"type\":\"assert\",\"check\":\"quality\",\"min_score\":0.5\x7d]\x7d]\x7d]\x7d"

def measuresText : String :=
  "\x7b\"total_tasks\":2,\"successful_tasks\":1," ++
  "\"agent_utilization\":\x7b\"writer\":1,\"critic\":1\x7d\x7d"

theorem ok_of_toOption {ε α : Type} {result : Except ε α} {a : α}
    (some : result.toOption = .some a) : result = .ok a := by
  cases result with
  | error e => cases some
  | ok b => exact congrArg Except.ok (Option.some.inj some)

theorem decode_text : ∃ file : Module, Codec.decode text = .ok file ∧ file.floats = [0.5] := by
  have decoded : ((Codec.decode text).toOption.map Module.floats) = some [0.5] := by decide +kernel
  obtain ⟨file, some, floats⟩ := Option.map_eq_some_iff.mp decoded
  exact ⟨file, ok_of_toOption some, floats⟩

set_option maxRecDepth 20000 in
theorem readBack_half : ReadBack [0.5] := by
  have render : (Number.real 0.5).render = "0.5" := by decide +kernel
  have read : Reader.number? (.ofText "0.5") = some (.ok (.real 0.5, ⟨[], ⟨1, 3⟩⟩)) := rfl
  intro x member
  obtain rfl := List.mem_singleton.mp member
  exact ⟨⟨1, 3⟩, by rw [render, read]⟩

theorem decode_measuresText :
    Codec.decode measuresText = .ok (⟨2, 1, [("critic", 1), ("writer", 1)]⟩ : CrewMetrics) :=
  ok_of_toOption (by decide +kernel)

end Graded

theorem decode_encode_graded :
    (∃ file : Module, Codec.decode Graded.text = .ok file ∧ file.floats = [0.5] ∧
        ReadBack file.floats ∧ Codec.Faithful file) ∧
      Codec.decode Graded.measuresText =
        .ok (⟨2, 1, [("critic", 1), ("writer", 1)]⟩ : CrewMetrics) ∧
      Codec.Faithful (⟨2, 1, [("critic", 1), ("writer", 1)]⟩ : CrewMetrics) := by
  obtain ⟨file, decoded, floats⟩ := Graded.decode_text
  have readBack : ReadBack file.floats := by
    rw [floats]
    exact Graded.readBack_half
  exact ⟨⟨file, decoded, floats, readBack, decode_encode.1 Graded.text file decoded readBack⟩,
    Graded.decode_measuresText, decode_encode.2.1 _ _ Graded.decode_measuresText⟩

end Fixture

end Rehearsal
