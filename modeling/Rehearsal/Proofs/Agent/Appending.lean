import Mathlib.Data.Nat.ModEq
import Rehearsal.Proofs.Agent.Responses

/-! # A response that is added to a script

A queue is at the place that the number of responses handed out so far has modulo the length of the
script. An added response changes the length, so the place stays the same only if the number has
the same remainder for both lengths, as it has throughout the first pass. In a later pass the order
goes back to responses that were handed out before, or leaves some out.
-/

namespace Rehearsal

namespace ResponseQueue

/-- The next responses of a queue. -/
def upcoming (queue : ResponseQueue) : Nat → List String
  | 0 => []
  | count + 1 => queue.current :: queue.advance.upcoming count

/-- The queue after so many responses. -/
def skip (queue : ResponseQueue) (count : Nat) : ResponseQueue :=
  { queue with taken := queue.taken + count }

/-- The place in the script of the response whose turn it is. -/
def place (queue : ResponseQueue) : Nat :=
  queue.taken % queue.responses.length

theorem place_lt (queue : ResponseQueue) : queue.place < queue.responses.length :=
  Nat.mod_lt _ (List.length_pos_iff.mpr queue.nonempty)

theorem length_upcoming (queue : ResponseQueue) (count : Nat) :
    (queue.upcoming count).length = count := by
  induction count generalizing queue with
  | zero => rfl
  | succ count ih => simp [upcoming, ih]

theorem upcoming_getElem? (queue : ResponseQueue) {count i : Nat} (inside : i < count) :
    (queue.upcoming count)[i]? =
      queue.responses[(queue.taken + i) % queue.responses.length]? := by
  induction count generalizing queue i with
  | zero => omega
  | succ count ih =>
      cases i with
      | zero => exact queue.current_eq.symm
      | succ i =>
          have next := ih queue.advance (Nat.lt_of_succ_lt_succ inside)
          have shift : queue.advance.taken + i = queue.taken + (i + 1) := by
            simp only [advance]
            omega
          rw [shift] at next
          exact next

theorem upcoming_add (queue : ResponseQueue) (first later : Nat) :
    queue.upcoming (first + later) =
      queue.upcoming first ++ (queue.skip first).upcoming later := by
  induction first generalizing queue with
  | zero => simp [upcoming, skip]
  | succ first ih =>
      have shift : queue.advance.skip first = queue.skip (first + 1) := by
        simp only [skip, advance, Nat.add_assoc, Nat.add_comm 1]
      rw [Nat.succ_add, upcoming, ih, shift]
      rfl

/-- What comes up depends on the script and the place alone. -/
theorem upcoming_congr (queue other : ResponseQueue) (script : queue.responses = other.responses)
    (place : queue.place = other.place) (count : Nat) :
    queue.upcoming count = other.upcoming count := by
  simp only [ResponseQueue.place, script] at place
  apply List.ext_getElem?
  intro i
  by_cases inside : i < count
  · have same : (queue.taken + i) % other.responses.length =
        (other.taken + i) % other.responses.length := Nat.ModEq.add_right i place
    rw [upcoming_getElem? _ inside, upcoming_getElem? _ inside, script, same]
  · have outside := Nat.le_of_not_lt inside
    rw [List.getElem?_eq_none (by rwa [length_upcoming]),
      List.getElem?_eq_none (by rwa [length_upcoming])]

/-- The rest of a pass is the script from the place on. -/
theorem upcoming_rest (queue : ResponseQueue) :
    queue.upcoming (queue.responses.length - queue.place) =
      queue.responses.drop queue.place := by
  apply List.ext_getElem?
  intro i
  have := queue.place_lt
  by_cases inside : i < queue.responses.length - queue.place
  · have within : queue.place + i < queue.responses.length := by omega
    have same : (queue.taken + i) % queue.responses.length = queue.place + i := by
      rw [← Nat.mod_add_mod]
      exact Nat.mod_eq_of_lt within
    rw [upcoming_getElem? _ inside, List.getElem?_drop, same]
  · have outside := Nat.le_of_not_lt inside
    rw [List.getElem?_eq_none (by rwa [length_upcoming]),
      List.getElem?_eq_none (by simpa using outside)]

/-- After the rest of a pass the script is begun again. -/
theorem upcoming_rest_add (queue : ResponseQueue) (later : Nat) :
    queue.upcoming (queue.responses.length - queue.place + later) =
      queue.responses.drop queue.place ++ queue.rewind.upcoming later := by
  rw [upcoming_add, upcoming_rest]
  congr 1
  apply upcoming_congr (queue.skip _) queue.rewind rfl
  have around : queue.taken + (queue.responses.length - queue.place) =
      queue.responses.length * (queue.taken / queue.responses.length + 1) := by
    have split := Nat.div_add_mod queue.taken queue.responses.length
    have := queue.place_lt
    rw [Nat.mul_add, Nat.mul_one]
    simp only [place] at this ⊢
    omega
  simp only [place, skip, rewind] at around ⊢
  rw [around, Nat.mul_mod_right, Nat.zero_mod]

end ResponseQueue

/-- A number has one remainder for two lengths that follow each other exactly when the longer one
divides its quotient by the shorter one. -/
theorem mod_succ_eq_mod_iff {length : Nat} (positive : 0 < length) (number : Nat) :
    number % (length + 1) = number % length ↔ number / length % (length + 1) = 0 := by
  have split := Nat.div_add_mod number length
  have small : number % length < length + 1 := (Nat.mod_lt _ positive).trans (Nat.lt_succ_self _)
  have coprime : Nat.Coprime (length + 1) length := by simp
  rw [← Nat.dvd_iff_mod_eq_zero, ← coprime.dvd_mul_left, ← Nat.modEq_zero_iff_dvd]
  constructor
  · intro same
    have total : length * (number / length) + number % length ≡ 0 + number % length
        [MOD length + 1] := by
      rw [split, Nat.zero_add, Nat.ModEq, same, Nat.mod_eq_of_lt small]
    exact Nat.ModEq.add_right_cancel' _ total
  · intro multiple
    have total := multiple.add_right (number % length)
    rw [split, Nat.zero_add, Nat.ModEq, Nat.mod_eq_of_lt small] at total
    exact total

namespace Agent

/-- What an agent hands out over some turns. -/
def answers (agent : Agent) (turns : List Turn) : List String :=
  (agent.transcript turns).filterMap (·.2)

/-- The pass that has so many responses left is carried on when a response is added: it goes on as
without the response, ends with it, and the longer script is begun after it. -/
def CarriesOn (agent : Agent) (response : String) (left : Nat) : Prop :=
  ∀ pass last later, (∀ turn ∈ pass ++ last :: later, turn.draws = true) → pass.length = left →
    (agent.addResponse response).answers (pass ++ last :: later) =
      agent.answers pass ++ response :: (agent.addResponse response).reset.answers later

/-- It does not matter how an agent is asked for its responses. -/
theorem answers_eq (agent : Agent) {turns : List Turn} (draw : ∀ turn ∈ turns, turn.draws = true) :
    agent.answers turns = agent.queue.upcoming turns.length := by
  induction turns generalizing agent with
  | nil => rfl
  | cons turn rest ih =>
      obtain ⟨first, others⟩ := List.forall_mem_cons.mp draw
      have queue : (agent.take turn).queue = agent.queue.advance := by
        cases turn with
        | execute | nextResponse => rfl
        | addResponse | setResponses | simulate | reset => cases first
      have next := ih (agent.take turn) others
      rw [queue] at next
      have told : agent.answers (turn :: rest) =
          agent.queue.current :: (agent.take turn).answers rest := by
        simp [answers, transcript, answer?_eq agent turn first]
      rw [told, next]
      rfl

section Added

variable (agent : Agent) (response : String)

theorem carriesOn_of_place (same : (agent.queue.add response).place = agent.queue.place) :
    agent.CarriesOn response (agent.queue.responses.length - agent.queue.place) := by
  intro pass last later draw length
  have inPass : ∀ turn ∈ pass, turn.draws = true := fun turn inside => draw turn (by simp [inside])
  have afterPass : ∀ turn ∈ later, turn.draws = true := fun turn inside => draw turn (by simp [inside])
  have inside := agent.queue.place_lt
  have longer : (agent.queue.add response).responses = agent.queue.responses ++ [response] := rfl
  have total : (pass ++ last :: later).length =
      (agent.queue.add response).responses.length - (agent.queue.add response).place +
        later.length := by
    rw [same, longer]
    simp only [List.length_append, List.length_cons, List.length_nil]
    omega
  calc (agent.addResponse response).answers (pass ++ last :: later)
      = (agent.queue.add response).upcoming (pass ++ last :: later).length :=
        answers_eq _ draw
    _ = (agent.queue.responses ++ [response]).drop agent.queue.place ++
          (agent.queue.add response).rewind.upcoming later.length := by
        rw [total, ResponseQueue.upcoming_rest_add, same, longer]
    _ = agent.queue.responses.drop agent.queue.place ++
          response :: (agent.queue.add response).rewind.upcoming later.length := by
        rw [List.drop_append_of_le_length inside.le, List.append_assoc, List.singleton_append]
    _ = agent.answers pass ++ response :: (agent.addResponse response).reset.answers later := by
        rw [answers_eq agent inPass, length, agent.queue.upcoming_rest, answers_eq _ afterPass]
        rfl

/-- Where the responses of the longer script differ, the first answer tells its place. -/
theorem place_of_carriesOn (differ : (agent.queue.responses ++ [response]).Nodup)
    (carriesOn :
      agent.CarriesOn response (agent.queue.responses.length - agent.queue.place)) :
    (agent.queue.add response).place = agent.queue.place := by
  have inside := agent.queue.place_lt
  have longer := (agent.queue.add response).place_lt
  obtain ⟨left, leftEq⟩ : ∃ left, agent.queue.responses.length - agent.queue.place = left + 1 :=
    ⟨agent.queue.responses.length - agent.queue.place - 1, by omega⟩
  -- The pass is not over, so its first answer is that of the place, with and without the response.
  have told := carriesOn (.replicate (left + 1) .nextResponse) .nextResponse [] (by simp [Turn.draws])
    (by rw [List.length_replicate, leftEq])
  rw [answers_eq _ (by simp [Turn.draws]), answers_eq _ (by simp [Turn.draws])] at told
  have first := congrArg (·[0]?) told
  rw [ResponseQueue.upcoming_getElem? _ (by simp),
    List.getElem?_append_left (by simp [ResponseQueue.length_upcoming]),
    ResponseQueue.upcoming_getElem? _ (by simp)] at first
  have before : agent.queue.responses[agent.queue.place]? =
      (agent.queue.responses ++ [response])[agent.queue.place]? :=
    (List.getElem?_append_left inside).symm
  exact (List.getElem?_inj longer differ).mp (first.trans before)

end Added

section Fresh

variable (config : AgentConfig) (tools : List Nat)

/-- A response that is added comes in the longer script, from the place that the number of responses
so far has in it. So the pass is carried on if it is the first, or if the passes before it are a
multiple of the longer length; if no response stands in the script twice, only then. -/
theorem added_in_turn (turns : List Turn) (response : String) :
    let agent := (fresh config tools).afterTurns turns
    let script := scriptAfter (ResponseQueue.script config.responses) turns
    let passes := drawn turns / script.length
    let left := script.length - drawn turns % script.length
    let place := drawn turns % (script.length + 1)
    (∀ rest, (∀ turn ∈ rest, turn.draws = true) → rest.length = script.length + 1 - place →
      (agent.addResponse response).answers rest = (script ++ [response]).drop place) ∧
    (passes % (script.length + 1) = 0 → agent.CarriesOn response left) ∧
      ((script ++ [response]).Nodup → agent.CarriesOn response left →
        passes % (script.length + 1) = 0) := by
  intro agent script passes left place
  have followed := followed_afterTurns config tools turns
  have responses : agent.queue.responses = script := followed.responses
  have taken : agent.queue.taken = drawn turns := followed.taken
  have filled : 0 < script.length := by
    rw [← responses]
    exact List.length_pos_iff.mpr agent.queue.nonempty
  have before : agent.queue.place = drawn turns % script.length := by
    rw [ResponseQueue.place, responses, taken]
  have longer : (agent.queue.add response).responses = script ++ [response] := by
    rw [← responses]
    rfl
  have added : (agent.queue.add response).place = place := by
    rw [ResponseQueue.place, longer, List.length_append]
    exact congrArg (· % _) taken
  have left_eq : left = agent.queue.responses.length - agent.queue.place := by
    rw [responses, before]
  constructor
  · intro rest draw length
    rw [answers_eq _ draw, length, ← added]
    have pass := (agent.queue.add response).upcoming_rest
    rw [longer, List.length_append] at pass
    exact pass
  · rw [left_eq, ← mod_succ_eq_mod_iff filled, ← before]
    constructor
    · intro same
      exact agent.carriesOn_of_place response (added.trans same)
    · intro differ carriesOn
      rw [← responses] at differ
      exact added.symm.trans (agent.place_of_carriesOn response differ carriesOn)

end Fresh

/-- In the second pass of two responses an added one sends the agent back to the first. -/
theorem added_out_of_turn :
    let agent := (fresh { responses := ["a", "b"] } []).afterTurns (.replicate 3 .nextResponse)
    drawn (.replicate 3 .nextResponse) % 2 ≠ 0 ∧
      agent.answers [.nextResponse] = ["b"] ∧
      (agent.addResponse "c").answers [.nextResponse, .nextResponse] = ["a", "b"] ∧
      ¬agent.CarriesOn "c" (2 - drawn (.replicate 3 .nextResponse) % 2) := by
  refine ⟨by decide, by decide, by decide, ?_⟩
  intro carriesOn
  have told := carriesOn [.nextResponse] .nextResponse [] (by decide) (by decide)
  exact absurd told (by decide)

end Agent

end Rehearsal
