import Mathlib.Data.List.DropRight
import Rehearsal.Agent

/-! # Agents that share tools

Agents and their clones hold handles to the same tools, so an agent's own records and those of its
tools must be told apart: the first are copied by a clone and cleared by a reset of the agent, the
others are seen by every holder and cleared by a reset of the tool alone. Here agents and tools are
followed through any interleaving of what can be done with them.
-/

namespace Rehearsal

namespace Agent

/-- What an agent is asked for, apart from taking a tool. -/
inductive Turn where
  | execute (task : Task)
  | nextResponse
  | addResponse (response : String)
  | setResponses (responses : List String)
  | simulate (call : SimulatedCall)
  | reset

namespace Turn

def isReset : Turn → Bool
  | .reset => true
  | _ => false

def simulated? : Turn → Option SimulatedCall
  | .simulate call => some call
  | _ => none

end Turn

def take (agent : Agent) : Turn → Agent
  | .execute task => (agent.execute task).2
  | .nextResponse => agent.nextResponse.2
  | .addResponse response => agent.addResponse response
  | .setResponses responses => agent.setResponses responses
  | .simulate call => agent.simulate call
  | .reset => agent.reset

end Agent

structure Company where
  agents : List Agent
  tools : Toolbox

namespace Company

/-- Through what a tool is reached: a handle to it, or an agent that has it attached. -/
inductive Holder where
  | handle (handle : Nat)
  | agent (place index : Nat)

inductive Act where
  | invoke (holder : Holder) (call : ToolCall)
  | run (holder : Holder) (call : ToolCall)
  | resetTool (holder : Holder)
  | turn (place : Nat) (turn : Agent.Turn)
  | attach (place : Nat) (holder : Holder)
  | clone (place : Nat)

/-- An act with the handle that its holder stood for at the time. -/
inductive Event where
  | called (handle : Nat) (call : ToolCall)
  | emptied (handle : Nat)
  | took (place : Nat) (turn : Agent.Turn)
  | attached (place handle : Nat)
  | cloned (place : Nat)

namespace Event

def empties (handle : Nat) : Event → Bool
  | .emptied other => other == handle
  | _ => false

def callOf? (handle : Nat) : Event → Option ToolCall
  | .called other call => if other = handle then some call else none
  | _ => none

def turnOf? (place : Nat) : Event → Option Agent.Turn
  | .took other turn => if other = place then some turn else none
  | _ => none

def attachedTo? (place : Nat) : Event → Option Nat
  | .attached other handle => if other = place then some handle else none
  | _ => none

end Event

def handle? (company : Company) : Holder → Option Nat
  | .handle handle => some handle
  | .agent place index => company.agents[place]?.bind (·.tools[index]?)

def tool? (company : Company) (holder : Holder) : Option Tool :=
  (company.handle? holder).bind (company.tools[·]?)

/-- What an act comes to; nothing if its holder has no such tool. To run a tool is to invoke it. -/
def event? (company : Company) : Act → Option Event
  | .invoke holder call | .run holder call => (company.handle? holder).map (.called · call)
  | .resetTool holder => (company.handle? holder).map .emptied
  | .turn place turn => some (.took place turn)
  | .attach place holder => (company.handle? holder).map (.attached place)
  | .clone place => some (.cloned place)

def react (company : Company) : Event → Company
  | .called handle call =>
    { company with tools := (company.tools.invoke handle call).elim company.tools (·.2) }
  | .emptied handle => { company with tools := company.tools.reset handle }
  | .took place turn => { company with agents := company.agents.modify place (·.take turn) }
  | .attached place handle =>
    { company with agents := company.agents.modify place (·.attach handle) }
  | .cloned place => { company with agents := company.agents ++ company.agents[place]?.toList }

def step (company : Company) (act : Act) : Company :=
  (company.event? act).elim company company.react

def run (company : Company) (acts : List Act) : Company :=
  acts.foldl step company

def events (company : Company) : List Act → List Event
  | [] => []
  | act :: rest => (company.event? act).toList ++ (company.step act).events rest

def after (company : Company) (events : List Event) : Company :=
  events.foldl react company

end Company

/-- What a log holds after some events: its entries since it was last cleared, and what it held
before them if it never was. -/
def logged {ε α : Type} (clears : ε → Bool) (entry : ε → Option α) (past : List α)
    (events : List ε) : List α :=
  (if events.any clears then [] else past) ++
    (events.rtakeWhile fun event => !clears event).filterMap entry

section Logged

variable {ε α : Type} {clears : ε → Bool} {entry : ε → Option α} {past : List α}

theorem logged_nil : logged clears entry past [] = past := by
  simp [logged]

theorem logged_concat (events : List ε) (event : ε) :
    logged clears entry past (events ++ [event]) =
      if clears event then [] else logged clears entry past events ++ (entry event).toList := by
  unfold logged
  rw [List.rtakeWhile_concat]
  cases cleared : clears event with
  | true => simp [cleared]
  | false =>
      cases entered : entry event <;> simp [cleared, entered]

end Logged

/-- To invoke a tool that does not exist changes nothing. -/
theorem Toolbox.invoke_tools (tools : Toolbox) (handle : Nat) (call : ToolCall) :
    (tools.invoke handle call).elim tools (·.2) = tools.modify handle (·.record call) := by
  unfold invoke
  cases present : tools[handle]? with
  | none =>
      rw [Option.map_none, Option.elim_none,
        List.modify_eq_self (List.getElem?_eq_none_iff.mp present)]
  | some tool =>
      rw [Option.map_some, Option.elim_some, List.modify_eq_set_getElem?, present]
      rfl

/-- The calls of a tool with this handle after some events. -/
def Tool.callsAfter (tool : Tool) (handle : Nat) (events : List Company.Event) : List ToolCall :=
  logged (Company.Event.empties handle) (Company.Event.callOf? handle) tool.calls events

def Tool.grown (tool : Tool) (handle : Nat) (events : List Company.Event) : Tool :=
  { tool with calls := tool.callsAfter handle events }

namespace Agent

def turnsOf (place : Nat) (events : List Company.Event) : List Turn :=
  events.filterMap (Company.Event.turnOf? place)

def simulatedAfter (agent : Agent) (turns : List Turn) : List SimulatedCall :=
  logged Turn.isReset Turn.simulated? agent.toolCalls turns

/-- The agent at a place after some events: its own turns were taken and tools were attached. -/
def grown (agent : Agent) (place : Nat) (events : List Company.Event) : Agent :=
  { (turnsOf place events).foldl take agent with
    tools := agent.tools ++ events.filterMap (Company.Event.attachedTo? place) }

def undergo (agent : Agent) (place : Nat) : Company.Event → Agent
  | .took other turn => if other = place then agent.take turn else agent
  | .attached other handle => if other = place then agent.attach handle else agent
  | _ => agent

/-- An agent takes its turns without regard to its tools. -/
theorem take_withTools (agent : Agent) (tools : List Nat) (turn : Turn) :
    { agent with tools }.take turn = { agent.take turn with tools } := by
  cases turn <;> rfl

theorem take_toolCalls (agent : Agent) (turn : Turn) : (agent.take turn).toolCalls =
    if turn.isReset then [] else agent.toolCalls ++ turn.simulated?.toList := by
  cases turn with
  | simulate call => rfl
  | reset => rfl
  | execute | nextResponse | addResponse | setResponses => exact (List.append_nil _).symm

theorem foldl_take_toolCalls (agent : Agent) (turns : List Turn) :
    (turns.foldl take agent).toolCalls = agent.simulatedAfter turns := by
  induction turns using List.reverseRecOn with
  | nil => exact logged_nil.symm
  | append_singleton turns turn ih =>
      rw [List.foldl_append, List.foldl_cons, List.foldl_nil, take_toolCalls, ih, simulatedAfter,
        simulatedAfter, logged_concat]

theorem grown_nil (agent : Agent) (place : Nat) : agent.grown place [] = agent := by
  simp [grown, turnsOf]

theorem grown_concat (agent : Agent) (place : Nat) (events : List Company.Event)
    (event : Company.Event) :
    agent.grown place (events ++ [event]) = (agent.grown place events).undergo place event := by
  simp only [grown, turnsOf, List.filterMap_append, List.foldl_append, List.filterMap_cons,
    List.filterMap_nil]
  cases event with
  -- The tools are put in place after all turns, so one turn more has to pass them.
  | took other turn =>
      by_cases own : other = place
      · simp [Company.Event.turnOf?, Company.Event.attachedTo?, undergo, own, take_withTools]
      · simp [Company.Event.turnOf?, Company.Event.attachedTo?, undergo, own]
  | attached other handle =>
      by_cases own : other = place
      · simp [Company.Event.turnOf?, Company.Event.attachedTo?, undergo, own, attach]
      · simp [Company.Event.turnOf?, Company.Event.attachedTo?, undergo, own]
  | called | emptied | cloned =>
      simp [Company.Event.turnOf?, Company.Event.attachedTo?, undergo]

end Agent

namespace Company

variable (company : Company)

/-- What an event makes of the tool with a handle, whoever reached it. -/
theorem react_tools (event : Event) (handle : Nat) :
    (company.react event).tools[handle]? = company.tools[handle]?.map fun tool =>
      { tool with calls := if event.empties handle then [] else
          tool.calls ++ (event.callOf? handle).toList } := by
  cases event with
  | called other call =>
      rw [react, Toolbox.invoke_tools, List.getElem?_modify]
      by_cases same : other = handle
      · simp [Event.empties, Event.callOf?, same, Tool.record]
      · simp [Event.empties, Event.callOf?, same]
  | emptied other =>
      rw [react, Toolbox.reset, List.getElem?_modify]
      by_cases same : other = handle
      · simp [Event.empties, same, Tool.reset]
      · simp [Event.empties, Event.callOf?, same]
  | took | attached | cloned => simp [react, Event.empties, Event.callOf?]

theorem react_agents (event : Event) {place : Nat} {agent : Agent}
    (present : company.agents[place]? = some agent) :
    (company.react event).agents[place]? = some (agent.undergo place event) := by
  cases event with
  | called | emptied => exact present
  | took other turn =>
      rw [react, List.getElem?_modify, present]
      by_cases own : other = place <;> simp [Agent.undergo, own]
  | attached other handle =>
      rw [react, List.getElem?_modify, present]
      by_cases own : other = place <;> simp [Agent.undergo, own]
  | cloned source =>
      have inside := (List.getElem?_eq_some_iff.mp present).1
      rw [react, List.getElem?_append_left inside, present]
      rfl

theorem after_concat (events : List Event) (event : Event) :
    company.after (events ++ [event]) = (company.after events).react event :=
  List.foldl_concat react company event events

theorem after_tools (events : List Event) (handle : Nat) :
    (company.after events).tools[handle]? = company.tools[handle]?.map (·.grown handle events) := by
  induction events using List.reverseRecOn with
  | nil =>
      simp only [after, List.foldl_nil, Tool.grown, Tool.callsAfter, logged_nil]
      exact Option.map_id'.symm
  | append_singleton events event ih =>
      rw [after_concat, react_tools, ih, Option.map_map]
      simp only [Tool.grown, Tool.callsAfter, logged_concat]
      rfl

theorem after_agents (events : List Event) {place : Nat} {agent : Agent}
    (present : company.agents[place]? = some agent) :
    (company.after events).agents[place]? = some (agent.grown place events) := by
  induction events using List.reverseRecOn with
  | nil => rw [Agent.grown_nil]; exact present
  | append_singleton events event ih =>
      rw [after_concat, Agent.grown_concat]
      exact react_agents _ event ih

theorem step_eq_after (act : Act) :
    company.step act = company.after (company.event? act).toList := by
  unfold step
  cases company.event? act <;> rfl

theorem after_append (earlier later : List Event) :
    company.after (earlier ++ later) = (company.after earlier).after later :=
  List.foldl_append

theorem run_eq_after (acts : List Act) :
    company.run acts = company.after (company.events acts) := by
  induction acts generalizing company with
  | nil => rfl
  | cons act rest ih =>
      let events := (company.step act).events rest
      calc company.run (act :: rest)
        _ = (company.step act).after events := ih _
        _ = (company.after (company.event? act).toList).after events := by rw [← step_eq_after]
        _ = company.after (company.events (act :: rest)) := (after_append company _ _).symm

theorem run_append (earlier later : List Act) :
    company.run (earlier ++ later) = (company.run earlier).run later :=
  List.foldl_append

theorem run_concat (acts : List Act) (act : Act) :
    company.run (acts ++ [act]) = (company.run acts).step act :=
  List.foldl_concat step company act acts

end Company

end Rehearsal
