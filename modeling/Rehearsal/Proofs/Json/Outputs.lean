import Rehearsal.Case.Metrics
import Rehearsal.Proofs.Json.Faithful
import Rehearsal.Result.Json
import Rehearsal.Task.Json

/-! # Tasks and outputs read back

Records of texts are read back member by member whatever the texts are. An outcome has a reader of
its own, which wants no second member for a success. The counts of a measure are read back as they
were read: they fit a machine word.
-/

namespace Rehearsal

open Json (Value Reader Reads Yields)

/-! ### Records of texts -/

section Texts

variable {depth : Nat}

theorem Json.reads_texts (texts : List String) :
    Reads (Reader.list Reader.text) (depth + 1) (.ofTexts texts) texts :=
  Json.reads_list fun text _ => Json.reads_text text

theorem Task.reads (task : Task) : Reads type.reader (depth + 1) task.toJson task :=
  Json.reads_record <|
    .member rfl rfl (Json.reads_field (Json.reads_text _)) <|
    .member rfl rfl (Json.reads_field (Json.reads_optional _)) <|
    .member rfl rfl (Json.reads_field (Json.reads_optional _)) <|
    .done rfl rfl

theorem TaskOutput.reads (output : TaskOutput) :
    Reads type.reader (depth + 1) output.toJson output :=
  Json.reads_record <|
    .member rfl rfl (Json.reads_field (Json.reads_text _)) <|
    .member rfl rfl (Json.reads_field (Json.reads_text _)) <|
    .member rfl rfl (Json.reads_field (Json.reads_text _)) <|
    .member rfl rfl (Json.reads_field (Json.reads_optional _)) <|
    .done rfl rfl

theorem CrewOutput.reads (output : CrewOutput) :
    Reads type.reader (depth + 3) output.toJson output :=
  Json.reads_record <|
    .member rfl rfl (Json.reads_field (Json.reads_text _)) <|
    .member rfl rfl (Json.reads_field (Json.reads_list fun child _ => child.reads)) <|
    .done rfl rfl

theorem FaultEntry.reads (entry : FaultEntry) : Reads type.reader (depth + 1) entry.toJson entry :=
  Json.reads_record <|
    .member rfl rfl (Json.reads_field (Json.reads_text _)) <|
    .member rfl rfl (Json.reads_field (Json.reads_text _)) <|
    .done rfl rfl

end Texts

/-! ### Outcomes -/

namespace Outcome

open Json (Blank Cursor Layout)

variable {depth fuel : Nat} {first : Bool} {c c' : Cursor}

theorem nextMember_known {name : String} (known : name = "status" ∨ name = "detail")
    (next : Reader.nextKey first c = .ok (some name, c')) :
    nextMember (fuel + 1) first depth c = .ok (some name, c') := by
  simp only [nextMember, next, bind, Except.bind]
  rcases known with rfl | rfl <;> rfl

theorem nextMember_end (next : Reader.nextKey first c = .ok (none, c')) :
    nextMember (fuel + 1) first depth c = .ok (none, c') := by
  simp only [nextMember, next, bind, Except.bind]

/-- After the last member nothing follows. -/
theorem last_reads (depth : Nat) (outcome : Outcome) {gap rest : List Char} (blank : Blank gap)
    (here : c.rest = gap ++ '\x7d' :: rest) :
    ∃ c', last outcome depth c = .ok (outcome, c') ∧ c'.rest = '\x7d' :: rest := by
  obtain ⟨c', ended, there⟩ := Json.nextKey_end blank false here
  refine ⟨c', ?_, there⟩
  simp only [last, nextMember_end ended, bind, Except.bind]

theorem members_success :
    Json.ReadsInside members depth '\x7d' (fun layout level =>
      [("status", Value.text "success")].map (Value.writtenMember layout level)) success := by
  intro layout level gap c rest blank here
  have known : Reads statusReader depth (.text "success") .success := Json.reads_choice rfl
  obtain ⟨c₁, c₂, c₃, name, colon, read, after⟩ := known.member true blank here
  obtain ⟨c₄, ended, there⟩ :=
    Json.nextKey_end blank false (by simpa [Layout.separated] using after)
  refine ⟨c₄, ?_, there⟩
  simp only [members, afterStatus, nextMember_known (.inl rfl) name, nextMember_end ended, colon,
    read, bind, Except.bind]
  rfl

theorem members_detail {status : Status} {kind detail : String} {outcome : Outcome}
    (known : Reads statusReader depth (.text kind) status)
    (detailed : Reads (detailReader status) depth (.text detail) outcome) :
    Json.ReadsInside members depth '\x7d' (fun layout level =>
      [("status", Value.text kind), ("detail", Value.text detail)].map
        (Value.writtenMember layout level)) outcome := by
  intro layout level gap c rest blank here
  obtain ⟨c₁, c₂, c₃, name, colon, read, after⟩ := known.member true blank here
  obtain ⟨c₄, c₅, c₆, name', colon', read', after'⟩ := detailed.member false blank after
  obtain ⟨c₇, ended, there⟩ := last_reads depth outcome blank
    (by simpa [Layout.separated] using after')
  refine ⟨c₇, ?_, there⟩
  rw [← ended]
  simp [members, afterStatus, nextMember_known (.inl rfl) name,
    nextMember_known (.inr rfl) name', colon, read, colon', read', bind, Except.bind]

theorem reads_of_members {others : List (String × Value)} {outcome : Outcome}
    (inside : Json.ReadsInside members depth '\x7d' (fun layout level =>
      others.map (Value.writtenMember layout level)) outcome) :
    Reads reader (depth + 1) (.object others) outcome where
  opens := (Json.opens_object · · _)
  read := by
    intro layout level c rest here _
    rw [Json.written_object] at here
    obtain ⟨c', read, there⟩ := Json.enclosed_reads (b := .curly) inside here
    refine ⟨c', ?_, there⟩
    rw [← read]
    have start : c.skipBlanks.rest = '\x7b' :: _ := here
    simp only [reader, start]

theorem reads (outcome : Outcome) : Reads reader (depth + 1) outcome.toJson outcome := by
  cases outcome with
  | success => exact reads_of_members members_success
  | failure detail =>
      exact reads_of_members (members_detail (Json.reads_choice rfl)
        ((Json.reads_text detail).map failure))
  | error detail =>
      exact reads_of_members (members_detail (Json.reads_choice rfl)
        ((Json.reads_text detail).map error))

end Outcome

/-! ### Measures -/

namespace CrewMetrics

/-- Whether the counts fit a machine word and the agents are in order. -/
structure Sound (metrics : CrewMetrics) : Prop where
  totalTasks : metrics.totalTasks ≤ Reader.maxWord
  successfulTasks : metrics.successfulTasks ≤ Reader.maxWord
  sorted : SortedMap.Sorted metrics.agentUtilization
  counts : ∀ entry ∈ metrics.agentUtilization, entry.2 ≤ Reader.maxWord

variable {depth : Nat}

theorem yields : Yields type.reader (depth + 2) Sound := by
  refine Json.yields_unchecked ?_ rfl ⟨Nat.zero_le _, Nat.zero_le _, .nil, List.forall_mem_nil _⟩
  simp only [type, List.forall_mem_cons]
  refine ⟨?totalTasks, ?successfulTasks, ?agentUtilization, List.forall_mem_nil _⟩
  case totalTasks =>
    exact Json.keeps_field Json.yields_count fun _ _ sound fits => { sound with totalTasks := fits }
  case successfulTasks =>
    exact Json.keeps_field Json.yields_count fun _ _ sound fits =>
      { sound with successfulTasks := fits }
  case agentUtilization =>
    exact Json.keeps_field (Json.yields_map Json.yields_count) fun _ _ sound agents =>
      { sound with sorted := agents.1, counts := agents.2 }

theorem reads {metrics : CrewMetrics} (sound : metrics.Sound) :
    Reads type.reader (depth + 2) metrics.toJson metrics :=
  Json.reads_record <|
    .member rfl rfl (Json.reads_field (Json.reads_count sound.totalTasks)) <|
    .member rfl rfl (Json.reads_field (Json.reads_count sound.successfulTasks)) <|
    .member rfl rfl (Json.reads_field (Json.reads_map
      (fun entry member => Json.reads_count (sound.counts entry member))
      sound.sorted.ofEntries_eq)) <|
    .done rfl rfl

end CrewMetrics

end Rehearsal
