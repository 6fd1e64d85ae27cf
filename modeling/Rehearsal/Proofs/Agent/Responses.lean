import Rehearsal.Proofs.Agent.Company

/-! # Responses in turn

Whatever an agent is asked for, the response that it hands out is told by what it was asked for
before: its script, and how many responses it handed out since the script was last begun. The
history has the executed tasks with the responses that they got, back to the last reset.
-/

namespace Rehearsal

namespace ResponseQueue

/-- The script that stands for some responses, which is the default one if there are none. -/
def script (responses : List String) : List String :=
  if responses = [] then [defaultResponse] else responses

theorem ofList_responses (responses : List String) : (ofList responses).responses = script responses := by
  unfold ofList script
  split <;> rfl

theorem ofList_taken (responses : List String) : (ofList responses).taken = 0 := by
  unfold ofList
  split <;> rfl

theorem current_eq (queue : ResponseQueue) :
    queue.responses[queue.taken % queue.responses.length]? = some queue.current := by
  have inside : queue.taken % queue.responses.length < queue.responses.length :=
    Nat.mod_lt _ (List.length_pos_iff.mpr queue.nonempty)
  rw [List.getElem?_eq_getElem inside]
  rfl

end ResponseQueue

namespace Agent

namespace Turn

/-- Whether a response is handed out. -/
def draws : Turn → Bool
  | .execute _ | .nextResponse => true
  | _ => false

/-- Whether the script is begun again from its first response. -/
def rewinds : Turn → Bool
  | .reset | .setResponses _ => true
  | _ => false

/-- What a turn makes of the script. -/
def revise (script : List String) : Turn → List String
  | .addResponse response => script ++ [response]
  | .setResponses responses => ResponseQueue.script responses
  | _ => script

end Turn

/-- The response that a turn hands out. -/
def answer? (agent : Agent) : Turn → Option String
  | .execute task => some (agent.execute task).1.raw
  | .nextResponse => some agent.nextResponse.1
  | _ => none

def afterTurns (agent : Agent) (turns : List Turn) : Agent :=
  turns.foldl take agent

/-- Turns with the responses that they hand out. -/
def transcript (agent : Agent) : List Turn → List (Turn × Option String)
  | [] => []
  | turn :: rest => (turn, agent.answer? turn) :: (agent.take turn).transcript rest

/-- What a turn with its response leaves in the history. -/
def execution? : Turn × Option String → Option Execution
  | (.execute task, some response) => some ⟨task.description, response⟩
  | _ => none

/-- The script after some turns. -/
def scriptAfter (script : List String) (turns : List Turn) : List String :=
  turns.foldl Turn.revise script

/-- How many responses were handed out since the script was last begun. -/
def drawn (turns : List Turn) : Nat :=
  (turns.rtakeWhile fun turn => !turn.rewinds).countP Turn.draws

theorem drawn_concat (turns : List Turn) (turn : Turn) : drawn (turns ++ [turn]) =
    if turn.rewinds then 0 else drawn turns + if turn.draws then 1 else 0 := by
  unfold drawn
  rw [List.rtakeWhile_concat]
  cases rewound : turn.rewinds with
  | true => simp
  | false => simp [List.countP_append, List.countP_singleton]

section OneTurn

variable (agent : Agent) (turn : Turn)

theorem take_responses :
    (agent.take turn).queue.responses = turn.revise agent.queue.responses := by
  cases turn with
  | setResponses responses => exact ResponseQueue.ofList_responses responses
  | execute | nextResponse | addResponse | simulate | reset => rfl

theorem take_taken : (agent.take turn).queue.taken =
    if turn.rewinds then 0 else agent.queue.taken + if turn.draws then 1 else 0 := by
  cases turn with
  | setResponses responses => exact ResponseQueue.ofList_taken responses
  | execute | nextResponse | addResponse | simulate | reset => rfl

theorem take_history : (agent.take turn).history =
    if turn.isReset then [] else agent.history ++ (execution? (turn, agent.answer? turn)).toList := by
  cases turn with
  | execute task => rfl
  | reset => rfl
  | nextResponse | addResponse | setResponses | simulate => exact (List.append_nil _).symm

theorem answer?_eq (draws : turn.draws = true) : agent.answer? turn = some agent.queue.current := by
  cases turn with
  | execute | nextResponse => rfl
  | addResponse | setResponses | simulate | reset => cases draws

end OneTurn

theorem afterTurns_concat (agent : Agent) (turns : List Turn) (turn : Turn) :
    agent.afterTurns (turns ++ [turn]) = (agent.afterTurns turns).take turn :=
  List.foldl_concat take agent turn turns

theorem transcript_concat (agent : Agent) (turns : List Turn) (turn : Turn) :
    agent.transcript (turns ++ [turn]) =
      agent.transcript turns ++ [(turn, (agent.afterTurns turns).answer? turn)] := by
  induction turns generalizing agent with
  | nil => rfl
  | cons first rest ih => exact congrArg (_ :: ·) (ih _)

/-- What an agent has after some turns, told by the turns. -/
structure Followed (script : List String) (turns : List Turn)
    (transcript : List (Turn × Option String)) (agent : Agent) : Prop where
  responses : agent.queue.responses = scriptAfter script turns
  taken : agent.queue.taken = drawn turns
  /-- The history goes back to the last reset, whatever became of the script since. -/
  history : agent.history = logged (fun entry => entry.1.isReset) execution? [] transcript

theorem Followed.take {script : List String} {turns : List Turn} {agent : Agent}
    {transcript : List (Turn × Option String)} (followed : Followed script turns transcript agent)
    (turn : Turn) : Followed script (turns ++ [turn]) (transcript ++ [(turn, agent.answer? turn)])
      (agent.take turn) where
  responses := by
    rw [take_responses, followed.responses, scriptAfter, scriptAfter, List.foldl_concat]
  taken := by rw [take_taken, followed.taken, drawn_concat]
  history := by rw [take_history, followed.history, logged_concat]

section Fresh

variable (config : AgentConfig) (tools : List Nat)

/-- An agent as it is set up, with tools attached. -/
def fresh : Agent :=
  { ofConfig config with tools }

theorem followed_afterTurns (turns : List Turn) :
    Followed (ResponseQueue.script config.responses) turns
      ((fresh config tools).transcript turns) ((fresh config tools).afterTurns turns) := by
  induction turns using List.reverseRecOn with
  | nil =>
      exact ⟨ResponseQueue.ofList_responses _, ResponseQueue.ofList_taken _, logged_nil.symm⟩
  | append_singleton turns turn ih =>
      rw [afterTurns_concat, transcript_concat]
      exact ih.take turn

/-- The responses of an agent, told by what it is asked for. -/
structure InTurn (turns : List Turn) : Prop where
  /-- Each response stands in the script of its time, at the number of those handed out before it
  since the script was begun, which wraps around. -/
  answers : ∀ earlier turn later, turns = earlier ++ turn :: later → turn.draws = true →
    let script := scriptAfter (ResponseQueue.script config.responses) earlier
    ((fresh config tools).afterTurns earlier).queue.responses = script ∧ script ≠ [] ∧
      ∃ response, ((fresh config tools).afterTurns earlier).answer? turn = some response ∧
        script[drawn earlier % script.length]? = some response
  responses : ((fresh config tools).afterTurns turns).queue.responses =
    scriptAfter (ResponseQueue.script config.responses) turns
  nonempty : ((fresh config tools).afterTurns turns).queue.responses ≠ []
  history : ((fresh config tools).afterTurns turns).history =
    logged (fun entry => entry.1.isReset) execution? [] ((fresh config tools).transcript turns)

/-- An agent hands out its responses in turn, whatever it is asked for and in whatever order. -/
theorem responses_in_turn (turns : List Turn) : InTurn config tools turns := by
  have now := followed_afterTurns config tools turns
  refine ⟨?answers, now.responses, ResponseQueue.nonempty _, now.history⟩
  intro earlier turn later _ draws script
  have before := followed_afterTurns config tools earlier
  have current := ResponseQueue.current_eq ((fresh config tools).afterTurns earlier).queue
  rw [before.responses, before.taken] at current
  have nonempty : script ≠ [] := fun empty =>
    ResponseQueue.nonempty _ (before.responses.trans empty)
  exact ⟨before.responses, nonempty, _, answer?_eq _ turn draws, current⟩

/-- Two responses were handed out when a third is added, and the fourth is the first again. A script
that is replaced begins anew, and the history stays. -/
example (task : Task) :
    let agent := fresh { responses := ["a", "b"] } []
    (agent.transcript [.execute task, .nextResponse, .addResponse "c", .nextResponse, .nextResponse,
        .setResponses [], .execute task]).filterMap (·.2) = ["a", "b", "c", "a", "Mock response"] := by
  cbv

end Fresh

end Agent

end Rehearsal
