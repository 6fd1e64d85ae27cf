import Rehearsal.Crew

/-! # Where the tasks of a crew go

Tasks are routed by roles alone, and roles never change. So the place of the agent that a task goes
to is told from the roles, and the agents after some work are told from the agents before and from
what was executed at each place.
-/

namespace Rehearsal

/-- The place of the first of the roles that is the one asked for; the first place if none is. -/
def placeOf (roles : List String) : Option String → Option Nat
  | some role => roles.findIdx? (· == role)
  | none => if roles.isEmpty then none else some 0

/-- A task of a crew in a run with these inputs. -/
structure Job where
  task : Task
  inputs : Inputs
  deriving Repr, DecidableEq

def Job.description (job : Job) : String :=
  interpolate job.task.description job.inputs

/-- Jobs with the outputs of their tasks, oldest first. -/
abbrev Work := List (Job × TaskOutput)

/-- What the agent at a place executed of some work. -/
def Work.executedAt (roles : List String) (place : Nat) (work : Work) : List Execution :=
  work.filterMap fun (job, child) =>
    if child.isSuccess = true ∧ placeOf roles job.task.agent = some place then
      some ⟨job.description, child.raw⟩
    else none

/-- The agent after more executions, each of which took a response. -/
def Agent.after (agent : Agent) (executed : List Execution) : Agent :=
  { agent with
    history := agent.history ++ executed
    queue := { agent.queue with taken := agent.queue.taken + executed.length } }

namespace Crew

def roles (crew : Crew) : List String :=
  crew.agents.map (·.role)

/-- The agents after some work. -/
def standing (crew : Crew) (work : Work) : List Agent :=
  crew.agents.mapIdx fun place agent => agent.after (work.executedAt crew.roles place)

def having (crew : Crew) (work : Work) : Crew :=
  { crew with agents := crew.standing work }

end Crew

theorem findIdx?_role (agents : List Agent) (role : Option String) :
    agents.findIdx? (fun agent => role.all (agent.role == ·)) =
      placeOf (agents.map (·.role)) role := by
  cases role with
  | none => cases agents <;> simp [placeOf, List.findIdx?_cons]
  | some role => simp [placeOf, List.findIdx?_map, Function.comp_def]

theorem placeOf_lt {roles : List String} {role : Option String} {place : Nat}
    (found : placeOf roles role = some place) : place < roles.length := by
  cases role with
  | none =>
      cases roles with
      | nil => simp [placeOf] at found
      | cons => simp [placeOf] at found; simp [← found]
  | some role => exact (List.findIdx?_eq_some_iff_getElem.mp found).1

theorem placeOf_role {roles : List String} {role : String} {place : Nat}
    (found : placeOf roles (some role) = some place) : roles[place]? = some role := by
  obtain ⟨inside, same, -⟩ := List.findIdx?_eq_some_iff_getElem.mp found
  rw [List.getElem?_eq_getElem inside, eq_of_beq same]

/-- The place that a role leads to is the first place of the role that is there. -/
theorem placeOf_own {roles : List String} {role : Option String} {place : Nat} {own : String}
    (found : placeOf roles role = some place) (present : roles[place]? = some own) :
    placeOf roles (some own) = some place := by
  cases role with
  | some role =>
      rw [placeOf_role found, Option.some_inj] at present
      exact present ▸ found
  | none =>
      cases roles with
      | nil => cases found
      | cons first rest =>
          cases found
          cases present
          simp [placeOf, List.findIdx?_cons]

namespace Crew

/-- Acting is done at the place that the search finds, and nowhere else. -/
theorem actFirst_eq {α : Type} (fits : Agent → Bool) (act : Agent → α × Agent)
    (agents : List Agent) :
    actFirst fits act agents =
      (agents.findIdx? fits).bind fun place =>
        agents[place]?.map fun agent => ((act agent).1, agents.set place (act agent).2) := by
  induction agents with
  | nil => rfl
  | cons agent rest ih =>
      rw [actFirst, List.findIdx?_cons]
      cases fits agent with
      | true => rfl
      | false =>
          simp only [ih, Bool.false_eq_true, if_false]
          cases rest.findIdx? fits with
          | none => rfl
          | some place => cases found : rest[place]? <;> simp [found]

theorem actFirst_role {α : Type} (role : Option String) (act : Agent → α × Agent)
    (agents : List Agent) :
    actFirst (fun agent => role.all (agent.role == ·)) act agents =
      (placeOf (agents.map (·.role)) role).bind fun place =>
        agents[place]?.map fun agent => ((act agent).1, agents.set place (act agent).2) := by
  rw [actFirst_eq, findIdx?_role]

theorem accepts_eq (task : Task) :
    task.accepts = fun agent => task.agent.all (agent.role == ·) := by
  funext agent
  unfold Task.accepts
  cases task.agent <;> rfl

/-! One equation of `runTask` for each fate of a task. -/

section RunTask

variable {failures : SortedMap String} {template : String} {task : Task} {agents : List Agent}

theorem runTask_scripted {error : String}
    (scripted : scriptedFailure? failures template task.description = some error) :
    runTask failures template task agents =
      (.failed task.description (task.agent.getD "") error, agents) := by
  simp only [runTask, scripted]

theorem runTask_unrouted (free : scriptedFailure? failures template task.description = none)
    (nowhere : placeOf (agents.map (·.role)) task.agent = none) :
    runTask failures template task agents =
      (.failed task.description (task.agent.getD "")
        ("No agent available for role " ++ Text.quoted (task.agent.getD "")), agents) := by
  simp only [runTask, free, dispatch, accepts_eq, actFirst_role, nowhere, Option.bind_none]

theorem runTask_routed {place : Nat} {agent : Agent}
    (free : scriptedFailure? failures template task.description = none)
    (routed : placeOf (agents.map (·.role)) task.agent = some place)
    (present : agents[place]? = some agent) :
    runTask failures template task agents =
      ((agent.execute task).1, agents.set place (agent.execute task).2) := by
  simp only [runTask, free, dispatch, accepts_eq, actFirst_role, routed, present,
    Option.bind_some, Option.map_some]

end RunTask

theorem runTask_roles (failures : SortedMap String) (template : String) (task : Task)
    (agents : List Agent) :
    (runTask failures template task agents).2.map (·.role) = agents.map (·.role) := by
  cases scripted : scriptedFailure? failures template task.description with
  | some error => rw [runTask_scripted scripted]
  | none =>
      cases routed : placeOf (agents.map (·.role)) task.agent with
      | none => rw [runTask_unrouted scripted routed]
      | some place =>
          have inside : place < agents.length := by simpa using placeOf_lt routed
          have present := List.getElem?_eq_getElem inside
          rw [runTask_routed scripted routed present, List.map_set]
          have same : (agents[place].execute task).2.role = agents[place].role := rfl
          rw [same, ← List.map_set, List.set_getElem_self]

theorem runTasks_roles (failures : SortedMap String) (inputs : Inputs) (tasks : List Task)
    (agents : List Agent) :
    (runTasks failures inputs tasks agents).2.map (·.role) = agents.map (·.role) := by
  induction tasks generalizing agents with
  | nil => rfl
  | cons task rest ih => rw [runTasks, ih, runTask_roles]

end Crew

namespace Work

variable {roles : List String} {place : Nat} {job : Job} {child : TaskOutput}

theorem executedAt_append (earlier later : Work) :
    (earlier ++ later).executedAt roles place =
      earlier.executedAt roles place ++ later.executedAt roles place :=
  List.filterMap_append

theorem length_executedAt (work : Work) : (work.executedAt roles place).length =
    work.countP fun (job, child) =>
      child.isSuccess && placeOf roles job.task.agent == some place := by
  rw [executedAt, List.length_filterMap_eq_countP]
  apply List.countP_congr
  rintro ⟨job, child⟩ -
  simp

theorem executedAt_failed (failed : child.isSuccess = false) :
    Work.executedAt roles place [(job, child)] = [] := by
  simp [executedAt, failed]

theorem executedAt_own (done : child.isSuccess = true)
    (routed : placeOf roles job.task.agent = some place) :
    Work.executedAt roles place [(job, child)] = [⟨job.description, child.raw⟩] := by
  simp [executedAt, done, routed]

theorem mem_executedAt {work : Work} (member : (job, child) ∈ work) (done : child.isSuccess = true)
    (routed : placeOf roles job.task.agent = some place) :
    ⟨job.description, child.raw⟩ ∈ work.executedAt roles place :=
  List.mem_filterMap.mpr ⟨(job, child), member, by simp [done, routed]⟩

theorem executedAt_other {other : Nat} (routed : placeOf roles job.task.agent = some place)
    (different : place ≠ other) : Work.executedAt roles other [(job, child)] = [] := by
  simp [executedAt, routed, different]

end Work

theorem ResponseQueue.getElem?_current (queue : ResponseQueue) :
    queue.responses[queue.taken % queue.responses.length]? = some queue.current := by
  have inside : queue.taken % queue.responses.length < queue.responses.length :=
    Nat.mod_lt _ (List.length_pos_iff.mpr queue.nonempty)
  rw [List.getElem?_eq_getElem inside]
  rfl

namespace Agent

theorem after_nil (agent : Agent) : agent.after [] = agent := by
  simp [after]

theorem execute_after (agent : Agent) (executed : List Execution) (task : Task) :
    (agent.after executed).execute task =
      ({ description := task.description, raw := (agent.after executed).queue.current,
         agent := agent.role },
        agent.after (executed ++
          [⟨task.description, (agent.after executed).queue.current⟩])) := by
  simp [execute, nextResponse, after, ResponseQueue.advance, Nat.add_assoc]

/-- Responses are handed out in turn, from where the queue stood. -/
theorem current_after (agent : Agent) (executed : List Execution) :
    agent.queue.responses[(agent.queue.taken + executed.length)
        % agent.queue.responses.length]? =
      some (agent.after executed).queue.current :=
  (agent.after executed).queue.getElem?_current

end Agent

namespace Crew

variable (crew : Crew) (work : Work) {job : Job} {child : TaskOutput}

theorem standing_getElem? (place : Nat) :
    (crew.standing work)[place]? =
      crew.agents[place]?.map (·.after (work.executedAt crew.roles place)) :=
  List.getElem?_mapIdx

theorem roles_standing : (crew.standing work).map (·.role) = crew.roles := by
  apply List.ext_getElem?
  intro place
  rw [List.getElem?_map, standing_getElem?, roles, List.getElem?_map, Option.map_map]
  rfl

theorem standing_nil : crew.standing [] = crew.agents := by
  apply List.ext_getElem?
  intro place
  rw [standing_getElem?]
  cases crew.agents[place]? <;> simp [Work.executedAt, Agent.after_nil]

theorem having_nil : crew.having [] = crew := by
  rw [having, standing_nil]

theorem standing_failed (failed : child.isSuccess = false) :
    crew.standing (work ++ [(job, child)]) = crew.standing work := by
  simp only [standing, Work.executedAt_append, Work.executedAt_failed failed, List.append_nil]

/-- A task that succeeded is on record at the place that it was routed to, and only there. -/
theorem standing_routed {place : Nat} {agent : Agent} (done : child.isSuccess = true)
    (routed : placeOf crew.roles job.task.agent = some place)
    (present : crew.agents[place]? = some agent) :
    crew.standing (work ++ [(job, child)]) =
      (crew.standing work).set place
        (agent.after (work.executedAt crew.roles place ++ [⟨job.description, child.raw⟩])) := by
  apply List.ext_getElem?
  intro other
  rw [standing_getElem?, List.getElem?_set, Work.executedAt_append]
  by_cases same : place = other
  · subst same
    have inside : place < (crew.standing work).length := by
      simpa [standing] using (List.getElem?_eq_some_iff.mp present).1
    simp only [present, inside, Work.executedAt_own done routed, Option.map_some, if_true]
  · simp only [same, if_false, Work.executedAt_other routed same, List.append_nil,
      standing_getElem?]

end Crew

end Rehearsal
