import Rehearsal.Fixture.Json
import Rehearsal.Proofs.Json.Faithful

/-! # Steps read back

A step is read from its tag and the other members, which are kept as values until the tag is known.
Of a step that was read the free values are in order and the counts fit a machine word; such a step
is what its own members are taken to again.
-/

namespace Rehearsal

open Json (Value Members Number Reader Decoder TaggedType ReadBack Reads Yields Makes Gives
  Reason)

namespace Json.Decoder

variable {α β : Type}

theorem mapM_map_ok {ε : Type} {f : β → Except ε α} {toJson : α → β} {as : List α}
    (each : ∀ a ∈ as, f (toJson a) = .ok a) : (as.map toJson).mapM f = .ok as := by
  induction as with
  | nil => rfl
  | cons a as ih =>
      obtain ⟨first, others⟩ := List.forall_mem_cons.mp each
      rw [List.map_cons, List.mapM_cons, first, ih others]
      rfl

variable {decode : Decoder α} {toJson : α → Value}

theorem list_ok {as : List α} (each : ∀ a ∈ as, decode (toJson a) = .ok a) :
    Decoder.list decode (.list (as.map toJson)) = .ok as :=
  mapM_map_ok each

theorem map_ok {map : SortedMap α} (sorted : map.Sorted)
    (each : ∀ entry ∈ map, decode (toJson entry.2) = .ok entry.2) :
    Decoder.map decode (.object (map.map fun entry => (entry.1, toJson entry.2))) = .ok map := by
  simp only [Decoder.map, bind, Except.bind]
  rw [mapM_map_ok]
  · exact congrArg Except.ok sorted.ofEntries_eq
  · intro entry member
    simp only [each entry member]
    rfl

theorem texts_ok (texts : List String) :
    Decoder.list Decoder.text (.ofTexts texts) = .ok texts :=
  list_ok fun _ _ => rfl

theorem optional_ok (text : Option String) :
    Decoder.optional Decoder.text (.ofText? text) = .ok text := by
  cases text <;> rfl

theorem count_ok {n : Nat} (fits : n ≤ Reader.maxWord) : Decoder.count (.ofNat n) = .ok n :=
  if_pos fits

end Json.Decoder

namespace Json.TaggedType

variable {ρ : Type} {type : TaggedType ρ} {make : Maker ρ} {others : Members}

theorem splitMembers_others (apart : ∀ member ∈ others, member.1 ≠ type.tag) (done : Members) :
    type.splitMembers others (some make) done = .ok (make, done.reverse ++ others) := by
  induction others generalizing done with
  | nil => rw [splitMembers, List.append_nil]
  | cons member others ih =>
      obtain ⟨other, apart⟩ := List.forall_mem_cons.mp apart
      rw [splitMembers, if_neg (by simpa using other), ih apart, List.reverse_cons,
        List.append_assoc, List.singleton_append]

/-- Members that start with the tag are handed to the kind that it names. -/
theorem ofMembers_ok (type : TaggedType ρ) (kind : String) {a : ρ}
    (known : Reader.variantOf type.kinds kind = .ok make)
    (apart : ∀ member ∈ others, member.1 ≠ type.tag) (made : make (.object others) = .ok a) :
    type.ofMembers ((type.tag, .text kind) :: others) = .ok a := by
  have split :
      type.splitMembers ((type.tag, .text kind) :: others) none [] = .ok (make, others) := by
    rw [splitMembers, if_pos (by simp)]
    simp only [kindOf, known, Option.isSome_none, Bool.false_eq_true, if_false]
    exact splitMembers_others apart []
  simp only [ofMembers, split, made]

end Json.TaggedType

namespace ToolCall

/-- The floating point numbers among the arguments of a call. -/
def floats (call : ToolCall) : List Float :=
  call.args.flatMap (·.floats) ++ call.kwargs.flatMap (·.2.floats)

/-- Whether the arguments are as they are read with so many brackets left. -/
structure Sound (depth : Nat) (call : ToolCall) : Prop where
  args : ∀ arg ∈ call.args, arg.Sound depth
  sorted : SortedMap.Sorted call.kwargs
  kwargs : ∀ entry ∈ call.kwargs, entry.2.Sound depth

variable {call : ToolCall} {depth : Nat}

theorem Sound.within_args (sound : call.Sound depth) (readBack : ReadBack call.floats) :
    (Value.list call.args).Within Number.ReadsBack (depth + 1) := by
  rw [floats, Json.readBack_append, Json.readBack_flatMap] at readBack
  exact .list fun arg member => (sound.args arg member).within.readsBack (readBack.1 arg member)

theorem Sound.within_kwargs (sound : call.Sound depth) (readBack : ReadBack call.floats) :
    (Value.object call.kwargs).Within Number.ReadsBack (depth + 1) := by
  rw [floats, Json.readBack_append, Json.readBack_flatMap, Json.readBack_flatMap] at readBack
  exact .object fun entry member =>
    (sound.kwargs entry member).within.readsBack (readBack.2 entry member)

end ToolCall

namespace Fixture

section Arguments

variable {depth : Nat}

theorem decodeValues_ok {args : List Value} (sound : ∀ arg ∈ args, arg.Sound depth) :
    decodeValues (.list args) = .ok args := by
  have kept : Decoder.list Decoder.value (.list (args.map id)) = .ok args :=
    Decoder.list_ok fun arg member => congrArg Except.ok (sound arg member).canonical
  rwa [List.map_id] at kept

theorem decodeMembers_ok {members : Members} (sorted : SortedMap.Sorted members)
    (sound : ∀ entry ∈ members, entry.2.Sound depth) :
    decodeMembers (.object members) = .ok members := by
  have kept : Decoder.map Decoder.value
      (.object (members.map fun entry => (entry.1, id entry.2))) = .ok members :=
    Decoder.map_ok sorted fun entry member => congrArg Except.ok (sound entry member).canonical
  have same : (members.map fun entry => (entry.1, id entry.2)) = members := List.map_id' members
  rwa [same] at kept

theorem gives_decodeValues :
    Gives decodeValues (depth + 1) fun args => ∀ arg ∈ args, arg.Sound depth :=
  Json.gives_list Json.gives_value

theorem gives_decodeMembers :
    Gives decodeMembers (depth + 1) fun members =>
      SortedMap.Sorted members ∧ ∀ entry ∈ members, entry.2.Sound depth :=
  Json.gives_map Json.gives_value

end Arguments

-- What a kind makes of its members is computed part by part.
attribute [local simp] Json.Variant.decode Json.Variant.ofMembers Json.Part.needed
  Json.Part.optional Except.map Decoder.text Decoder.texts_ok Decoder.optional_ok

namespace Check

/-- The floating point numbers of a check. -/
def floats : Check → List Float
  | toolCalledWith _ call => call.floats
  | quality minScore => [minScore]
  | _ => []

/-- Whether a check is as it is read. -/
def Sound (depth : Nat) : Check → Prop
  | collaboration count | toolCallCount _ count | executionCount _ count => count ≤ Reader.maxWord
  | toolCalledWith _ call => call.Sound depth
  | _ => True

variable {depth : Nat}

/-- What any kind of check makes is sound. -/
theorem makes_kinds : ∀ kind ∈ type.kinds, Makes kind.2 (depth + 2) (Sound depth) := by
  simp only [type, List.forall_mem_cons]
  refine ⟨?contains, ?format, ?pattern, ?crewCompleted, ?taskSequence, ?collaboration,
    ?agentCalledTool, ?toolCalledWith, ?toolCallCount, ?quality, ?executionCount,
    List.forall_mem_nil _⟩
  case contains | format | pattern | crewCompleted | taskSequence | agentCalledTool | quality =>
    refine Json.makes_any ?_ _
    exact fun _ => trivial
  case collaboration =>
    refine Json.makes_map (Nat.zero_le _) (List.forall_mem_cons.mpr ⟨?_, List.forall_mem_nil _⟩)
    exact Json.keeps_needed Json.gives_count fun _ _ _ fits => fits
  case toolCallCount =>
    refine Json.makes_map (Nat.zero_le _) (List.forall_mem_cons.mpr ⟨?_,
      List.forall_mem_cons.mpr ⟨?_, List.forall_mem_nil _⟩⟩)
    · exact Json.keeps_needed (Json.gives_any _) fun _ _ sound _ => sound
    · exact Json.keeps_needed Json.gives_count fun _ _ _ fits => fits
  case executionCount =>
    refine Json.makes_map (Nat.zero_le _) (List.forall_mem_cons.mpr ⟨?_,
      List.forall_mem_cons.mpr ⟨?_, List.forall_mem_nil _⟩⟩)
    · exact Json.keeps_optional (Json.gives_any _) fun _ _ sound _ => sound
    · exact Json.keeps_needed Json.gives_count fun _ _ _ fits => fits
  case toolCalledWith =>
    refine Json.makes_map ⟨List.forall_mem_nil _, .nil, List.forall_mem_nil _⟩
      (List.forall_mem_cons.mpr ⟨?_, List.forall_mem_cons.mpr ⟨?_,
        List.forall_mem_cons.mpr ⟨?_, List.forall_mem_nil _⟩⟩⟩)
    · exact Json.keeps_needed (Json.gives_any _) fun _ _ sound _ => sound
    · exact Json.keeps_optional gives_decodeValues fun _ _ sound args => { sound with args }
    · exact Json.keeps_optional gives_decodeMembers fun _ _ sound kwargs =>
        { sound with sorted := kwargs.1, kwargs := kwargs.2 }

/-- A check is made again from its members. -/
theorem ofMembers_toMembers {check : Check} (sound : check.Sound depth)
    (readBack : ReadBack check.floats) : type.ofMembers check.toMembers = .ok check := by
  cases check with
  | contains text caseSensitive =>
      exact TaggedType.ofMembers_ok type "contains" rfl (by simp [type]) rfl
  | format name =>
      exact TaggedType.ofMembers_ok type "format" rfl (by simp [type]) rfl
  | pattern text regex =>
      exact TaggedType.ofMembers_ok type "matches" rfl (by simp [type]) rfl
  | crewCompleted =>
      exact TaggedType.ofMembers_ok type "crew_completed" rfl (by simp) rfl
  | taskSequence tasks =>
      refine TaggedType.ofMembers_ok type "task_sequence" rfl (by simp [type]) ?_
      simp [variant]
  | collaboration minAgents =>
      refine TaggedType.ofMembers_ok type "collaboration" rfl (by simp [type]) ?_
      simp [variant, Decoder.count_ok sound]
  | agentCalledTool agent tool =>
      refine TaggedType.ofMembers_ok type "agent_called_tool" rfl (by simp [type]) ?_
      simp [variant]
  | toolCalledWith tool call =>
      refine TaggedType.ofMembers_ok type "tool_called_with" rfl (by simp [type]) ?_
      simp [variant, decodeValues_ok sound.args, decodeMembers_ok sound.sorted sound.kwargs]
  | toolCallCount tool count =>
      refine TaggedType.ofMembers_ok type "tool_call_count" rfl (by simp [type]) ?_
      simp [variant, Decoder.count_ok sound]
  | quality minScore =>
      refine TaggedType.ofMembers_ok type "quality" rfl (by simp [type]) ?_
      have finite := (readBack minScore (List.mem_singleton_self _)).isFinite
      simp [variant, Value.ofFloat, finite, Decoder.float, Number.toFloat]
  | executionCount agent count =>
      refine TaggedType.ofMembers_ok type "execution_count" rfl (by simp [type]) ?_
      simp [variant, Decoder.count_ok sound]

theorem within_toMembers {check : Check} (sound : check.Sound depth)
    (readBack : ReadBack check.floats) :
    ∀ member ∈ check.toMembers, member.2.Within Number.ReadsBack (depth + 1) := by
  cases check with
  | contains text caseSensitive =>
      simpa [toMembers] using ⟨.text _, .text _, .bool _⟩
  | format name => simpa [toMembers] using ⟨.text _, .text _⟩
  | pattern text regex => simpa [toMembers] using ⟨.text _, .text _, .bool _⟩
  | crewCompleted => simpa [toMembers] using .text _
  | taskSequence tasks =>
      simpa [toMembers] using ⟨.text _, .list (List.forall_mem_map.mpr fun task _ => .text task)⟩
  | collaboration minAgents =>
      simpa [toMembers] using ⟨.text _, .number (Number.readsBack_natural sound)⟩
  | agentCalledTool agent tool =>
      simpa [toMembers] using ⟨.text _, Json.within_text? agent, .text _⟩
  | toolCalledWith tool call =>
      simpa [toMembers] using
        ⟨.text _, .text _, sound.within_args readBack, sound.within_kwargs readBack⟩
  | toolCallCount tool count =>
      simpa [toMembers] using ⟨.text _, .text _, .number (Number.readsBack_natural sound)⟩
  | quality minScore =>
      have readsBack := readBack minScore (List.mem_singleton_self _)
      simpa [toMembers, Value.ofFloat, readsBack.isFinite] using ⟨.text _, .number readsBack⟩
  | executionCount agent count =>
      simpa [toMembers] using
        ⟨.text _, Json.within_text? agent, .number (Number.readsBack_natural sound)⟩

theorem name_toMembers (check : Check) :
    ∀ member ∈ check.toMembers, member.1 ≠ Assertion.messageName ∧ member.1 ≠ "type" := by
  cases check <;> simp [toMembers, Assertion.messageName]

end Check

namespace Assertion

variable {depth : Nat}

theorem splitMembers_others {others : Members} (apart : ∀ member ∈ others, member.1 ≠ messageName)
    (rest : Members) (message? : Option (Option String)) (done : Members) :
    splitMembers (others ++ rest) message? done =
      splitMembers rest message? (others.reverse ++ done) := by
  induction others generalizing done with
  | nil => rfl
  | cons member others ih =>
      obtain ⟨other, apart⟩ := List.forall_mem_cons.mp apart
      rw [List.cons_append, splitMembers, if_neg (by simpa using other), ih apart,
        List.reverse_cons, List.append_assoc, List.singleton_append]

/-- An assertion is made again from its members. -/
theorem decode_toMembers {assertion : Assertion} (sound : assertion.check.Sound depth)
    (readBack : ReadBack assertion.check.floats) :
    decode (.object assertion.toMembers) = .ok assertion := by
  have split : splitMembers assertion.toMembers none [] =
      .ok (assertion.message, assertion.check.toMembers) := by
    rw [toMembers, splitMembers_others fun member inside =>
      (assertion.check.name_toMembers member inside).1, splitMembers, if_pos (by simp)]
    simp [splitMembers]
  simp only [decode, split, ofParts, Check.ofMembers_toMembers sound readBack, Except.map]

theorem splitMembers_within {members others rest : Members} {message? : Option (Option String)}
    {message : Option String}
    (within : ∀ member ∈ members, member.2.Within Number.Ranged depth)
    (before : ∀ member ∈ others, member.2.Within Number.Ranged depth)
    (split : splitMembers members message? others = .ok (message, rest)) :
    ∀ member ∈ rest, member.2.Within Number.Ranged depth := by
  induction members generalizing message? others with
  | nil =>
      cases split
      simpa using before
  | cons member members ih =>
      obtain ⟨here, within⟩ := List.forall_mem_cons.mp within
      unfold splitMembers at split
      split_ifs at split
      · split at split
        · exact ih within before split
        · cases split
      · exact ih within (List.forall_mem_cons.mpr ⟨here, before⟩) split

theorem makes_decode :
    Makes decode (depth + 2) fun assertion => assertion.check.Sound depth := by
  intro rest within assertion made
  unfold decode at made
  split at made
  · obtain _ | _ | _ | _ | _ | each := within
    split at made
    · rename_i split
      obtain ⟨check, decoded, rfl⟩ := Json.exists_of_map_eq_ok made
      exact Json.ofMembers_makes Check.makes_kinds
        (splitMembers_within each (List.forall_mem_nil _) split) decoded
    · cases made
  · cases made

end Assertion

namespace Step

/-- The floating point numbers of a step. -/
def floats : Step → List Float
  | callTool _ call => call.floats
  | simulate _ call => call.parameters.flatMap (·.2.floats) ++ call.result.floats
  | assert assertion => assertion.check.floats
  | _ => []

/-- Whether a step is as it is read. -/
def Sound (depth : Nat) : Step → Prop
  | kickoff inputs => SortedMap.Sorted inputs
  | callTool _ call => call.Sound depth
  | simulate _ call =>
    (SortedMap.Sorted call.parameters ∧ ∀ entry ∈ call.parameters, entry.2.Sound depth) ∧
      call.result.Sound (depth + 1)
  | assert assertion => assertion.check.Sound depth
  | _ => True

variable {depth : Nat}

/-- What any kind of step makes is sound. -/
theorem makes_kinds : ∀ kind ∈ type.kinds, Makes kind.2 (depth + 2) (Sound depth) := by
  simp only [type, List.forall_mem_cons]
  refine ⟨?execute, ?kickoff, ?callTool, ?simulate, ?reset, ?assert, List.forall_mem_nil _⟩
  case execute | reset =>
    refine Json.makes_any ?_ _
    exact fun _ => trivial
  case kickoff =>
    refine Json.makes_map .nil (List.forall_mem_cons.mpr ⟨?_, List.forall_mem_nil _⟩)
    exact Json.keeps_optional (Json.gives_map (Json.gives_any _)) fun _ _ _ inputs => inputs.1
  case callTool =>
    refine Json.makes_map ⟨List.forall_mem_nil _, .nil, List.forall_mem_nil _⟩
      (List.forall_mem_cons.mpr ⟨?_, List.forall_mem_cons.mpr ⟨?_,
        List.forall_mem_cons.mpr ⟨?_, List.forall_mem_nil _⟩⟩⟩)
    · exact Json.keeps_needed (Json.gives_any _) fun _ _ sound _ => sound
    · exact Json.keeps_optional gives_decodeValues fun _ _ sound args => { sound with args }
    · exact Json.keeps_optional gives_decodeMembers fun _ _ sound kwargs =>
        { sound with sorted := kwargs.1, kwargs := kwargs.2 }
  case simulate =>
    refine Json.makes_map ⟨⟨.nil, List.forall_mem_nil _⟩, .null, rfl⟩
      (List.forall_mem_cons.mpr ⟨?_, List.forall_mem_cons.mpr ⟨?_, List.forall_mem_cons.mpr ⟨?_,
        List.forall_mem_cons.mpr ⟨?_, List.forall_mem_nil _⟩⟩⟩⟩)
    · exact Json.keeps_optional (Json.gives_any _) fun _ _ sound _ => sound
    · exact Json.keeps_needed (Json.gives_any _) fun _ _ sound _ => sound
    · exact Json.keeps_optional gives_decodeMembers fun _ _ sound parameters =>
        ⟨parameters, sound.2⟩
    · exact Json.keeps_optional Json.gives_value fun _ _ sound result => ⟨sound.1, result⟩
  case assert =>
    intro rest within step made
    obtain ⟨assertion, decoded, rfl⟩ := Json.exists_of_map_eq_ok made
    exact Assertion.makes_decode rest within assertion decoded

/-- A step that was read is read back. -/
theorem reads {step : Step} (sound : step.Sound depth) (readBack : ReadBack step.floats) :
    Reads type.reader (depth + 2) step.toJson step := by
  cases step with
  | execute task expectedOutput =>
      refine Json.reads_tagged type "execute" rfl (by simp [type])
        (by simpa using ⟨.text _, Json.within_text? _⟩) ?_
      simp [variant]
  | kickoff inputs =>
      have kept : Decoder.map Decoder.text
          (.object (inputs.map fun entry => (entry.1, .text entry.2))) = .ok inputs :=
        Decoder.map_ok sound fun _ _ => rfl
      have texts : (Value.object (inputs.map fun entry => (entry.1, .text entry.2))).Within
          Number.ReadsBack (depth + 1) :=
        .object (List.forall_mem_map.mpr fun entry _ => .text entry.2)
      refine Json.reads_tagged type "kickoff" rfl (by simp [type])
        (by simpa only [List.forall_mem_singleton] using texts) ?_
      simp [variant, kept]
  | callTool tool call =>
      refine Json.reads_tagged type "call_tool" rfl (by simp [type])
        (by simpa using ⟨.text _, sound.within_args readBack, sound.within_kwargs readBack⟩) ?_
      simp [variant, decodeValues_ok sound.args, decodeMembers_ok sound.sorted sound.kwargs]
  | simulate agent call =>
      obtain ⟨⟨sorted, parameters⟩, result⟩ := sound
      rw [floats, Json.readBack_append, Json.readBack_flatMap] at readBack
      have within : (Value.object call.parameters).Within Number.ReadsBack (depth + 1) :=
        .object fun entry member =>
          (parameters entry member).within.readsBack (readBack.1 entry member)
      refine Json.reads_tagged type "simulate_tool_call" rfl (by simp [type])
        (by simpa using ⟨Json.within_text? _, .text _, within,
          result.within.readsBack readBack.2⟩) ?_
      simp [variant, decodeMembers_ok sorted parameters, Decoder.value, result.canonical]
  | reset =>
      exact Json.reads_tagged type "reset" rfl (List.forall_mem_nil _)
        (List.forall_mem_nil _) rfl
  | assert assertion =>
      have others : ∀ member ∈ assertion.toMembers,
          member.1 ≠ "type" ∧ member.2.Within Number.ReadsBack (depth + 1) := by
        intro member inside
        rcases List.mem_append.mp inside with check | message
        · exact ⟨(assertion.check.name_toMembers member check).2,
            Check.within_toMembers sound readBack member check⟩
        · obtain rfl := List.mem_singleton.mp message
          exact ⟨by simp [Assertion.messageName], Json.within_text? _⟩
      refine Json.reads_tagged type "assert" rfl
        (fun member inside => (others member inside).1)
        (fun member inside => (others member inside).2) ?_
      simp only [Assertion.decode_toMembers sound readBack, Except.map]

end Step

end Fixture

end Rehearsal
