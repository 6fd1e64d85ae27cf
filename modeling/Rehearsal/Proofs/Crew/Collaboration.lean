import Mathlib.Data.Finset.Card
import Mathlib.Data.Finset.Image
import Rehearsal.Expect.Crew
import Rehearsal.Proofs.Crew.Completion

/-! # Who takes part in a run

Of the agents of a crew those take part in a run that execute something in it. The check of
collaboration looks at the roles that the outputs carry instead. An agent that takes part has a role
of its own to show for it, but a task that failed carries the role that it was given to as well,
whether or not an agent of that role did anything.
-/

namespace Rehearsal

theorem nodup_eraseDups (names : List String) : names.eraseDups.Nodup := by
  cases names with
  | nil => exact List.nodup_nil
  | cons name rest =>
      rw [List.eraseDups_cons, List.nodup_cons]
      constructor
      · rw [List.mem_eraseDups, List.mem_filter]
        simp
      · exact nodup_eraseDups _
termination_by names.length
decreasing_by exact Nat.lt_succ_of_le (List.length_filter_le _ _)

namespace Crew

/-- The places of the agents that recorded an execution between two states of a crew. -/
def busy (crew after : Crew) : Finset Nat :=
  (Finset.range crew.agents.length).filter fun place =>
    crew.agents[place]?.map (·.history) ≠ after.agents[place]?.map (·.history)

def busyRoles (crew after : Crew) : Finset String :=
  (crew.busy after).image fun place => crew.roles[place]?.getD ""

/-- The roles that failed tasks name and in which nobody executed anything. -/
def idleRoles (crew after : Crew) (output : CrewOutput) : Finset String :=
  ((crew.tasks.zip output.tasksOutput).filterMap fun (task, child) =>
    if child.isSuccess then none else task.agent).toFinset.filter
      fun role => role ≠ "" ∧ role ∉ crew.busyRoles after

theorem mem_idleRoles {crew after : Crew} {output : CrewOutput} {role : String} :
    role ∈ crew.idleRoles after output ↔
      (∃ task child, (task, child) ∈ crew.tasks.zip output.tasksOutput ∧
        child.isSuccess = false ∧ task.agent = some role) ∧
      role ≠ "" ∧ role ∉ crew.busyRoles after := by
  simp [idleRoles]

section Work

variable {crew : Crew} {work : Work}

/-- An agent is busy if a task that went to it succeeded. -/
theorem mem_busy {place : Nat} : place ∈ crew.busy (crew.having work) ↔
    ∃ job child, (job, child) ∈ work ∧ child.isSuccess = true ∧
      placeOf crew.roles job.task.agent = some place := by
  have executed : work.executedAt crew.roles place ≠ [] ↔
      ∃ job child, (job, child) ∈ work ∧ child.isSuccess = true ∧
        placeOf crew.roles job.task.agent = some place := by
    simp [Work.executedAt, List.filterMap_eq_nil_iff]
  rw [← executed, busy, Finset.mem_filter, Finset.mem_range]
  constructor
  · rintro ⟨inside, changed⟩ idle
    apply changed
    simp [having, standing_getElem?, idle, Agent.after_nil]
  · intro busy
    have inside : place < crew.agents.length := by
      obtain ⟨job, child, -, -, routed⟩ := executed.mp busy
      simpa [roles] using placeOf_lt routed
    refine ⟨inside, ?_⟩
    simp [having, standing_getElem?, List.getElem?_eq_getElem inside, Agent.after, busy]

/-- What a child that succeeded carries is the role of the agent that its task went to. -/
theorem Accounted.role (accounted : Accounted crew work) {job : Job} {child : TaskOutput}
    (member : (job, child) ∈ work) (done : child.isSuccess = true) :
    ∃ place, placeOf crew.roles job.task.agent = some place ∧
      crew.roles[place]? = some child.agent := by
  obtain ⟨earlier, later, split⟩ := List.append_of_mem member
  obtain ⟨place, agent, routed, present, role, -⟩ :=
    (accounted.answers earlier job child later split).executed done
  exact ⟨place, routed, by simp [roles, present, role]⟩

theorem mem_busyRoles (accounted : Accounted crew work) {role : String} :
    role ∈ crew.busyRoles (crew.having work) ↔
      ∃ child ∈ work.map (·.2), child.isSuccess = true ∧ child.agent = role := by
  simp only [busyRoles, Finset.mem_image, mem_busy]
  constructor
  · rintro ⟨place, ⟨job, child, member, done, routed⟩, same⟩
    obtain ⟨place', routed', own⟩ := accounted.role member done
    obtain rfl := Option.some.inj (routed.symm.trans routed')
    rw [own] at same
    exact ⟨child, List.mem_map_of_mem member, done, same⟩
  · rintro ⟨child, member, done, same⟩
    obtain ⟨⟨job, child⟩, inside, rfl⟩ := List.mem_map.mp member
    obtain ⟨place, routed, own⟩ := accounted.role inside done
    refine ⟨place, ⟨job, child, inside, done, routed⟩, ?_⟩
    rw [own]
    exact same

/-- Agents that were busy have different roles: of those that share one the first gets all. -/
theorem card_busyRoles :
    (crew.busyRoles (crew.having work)).card = (crew.busy (crew.having work)).card := by
  apply Finset.card_image_of_injOn
  intro place member other member' same
  obtain ⟨job, -, -, -, routed⟩ := mem_busy.mp member
  obtain ⟨job', -, -, -, routed'⟩ := mem_busy.mp member'
  have own := List.getElem?_eq_getElem (placeOf_lt routed)
  have own' := List.getElem?_eq_getElem (placeOf_lt routed')
  simp only [own, own', Option.getD_some] at same
  rw [← same] at own'
  exact Option.some.inj ((placeOf_own routed own).symm.trans (placeOf_own routed' own'))

end Work

end Crew

namespace Expect

theorem mem_contributors {output : CrewOutput} {role : String} :
    role ∈ contributors output ↔ role ≠ "" ∧ ∃ child ∈ output.tasksOutput, child.agent = role := by
  simp [contributors, List.mem_eraseDups, and_comm]

theorem collaboration_eq_ok_iff (output : CrewOutput) (minAgents : Nat)
    (message : Option String) :
    collaboration output minAgents message = .ok () ↔ minAgents ≤ (contributors output).length := by
  by_cases enough : minAgents ≤ (contributors output).length <;> simp [collaboration, enough]

end Expect

namespace Crew

section Kickoff

variable {crew after : Crew} {inputs : Inputs} {output : CrewOutput}
  (run : crew.kickoff inputs = .ok (output, after))
include run

/-- The roles that a check of collaboration counts are those of agents that were busy, and idle
ones. -/
theorem contributors_eq : (Expect.contributors output).toFinset =
    (crew.busyRoles after).erase "" ∪ crew.idleRoles after output := by
  obtain ⟨left, length, accounted⟩ := kickoff_ok run
  have failed : ∀ task child, (task, child) ∈ crew.tasks.zip output.tasksOutput →
      child.isSuccess = false → child.agent = task.agent.getD "" := by
    intro task child paired lost
    exact ((List.forall₂_iff_zip.mp (kickoff_failed run)).2 paired lost).2
  have busy (role : String) : role ∈ crew.busyRoles after ↔
      ∃ child ∈ output.tasksOutput, child.isSuccess = true ∧ child.agent = role := by
    have children : ((crew.jobs inputs).zip output.tasksOutput).map (·.2) = output.tasksOutput :=
      List.map_snd_zip (by simp [jobs, length])
    rw [left, mem_busyRoles accounted, children]
  ext role
  rw [List.mem_toFinset, Expect.mem_contributors, Finset.mem_union, Finset.mem_erase, mem_idleRoles]
  constructor
  · rintro ⟨filled, child, member, rfl⟩
    by_cases known : child.agent ∈ crew.busyRoles after
    · exact .inl ⟨filled, known⟩
    · have lost : child.isSuccess = false := by
        by_contra done
        exact known ((busy _).mpr ⟨child, member, Bool.not_eq_false _ ▸ done, rfl⟩)
      obtain ⟨task, paired⟩ := exists_mem_zip length.symm member
      refine .inr ⟨⟨task, child, paired, lost, ?_⟩, filled, known⟩
      have carried := failed task child paired lost
      cases given : task.agent with
      | none => exact absurd (by simpa [given] using carried) filled
      | some role => simp [carried, given]
  · rintro (⟨filled, known⟩ | ⟨⟨task, child, paired, lost, given⟩, filled, -⟩)
    · obtain ⟨child, member, -, same⟩ := (busy role).mp known
      exact ⟨filled, child, member, same⟩
    · refine ⟨filled, child, (List.of_mem_zip paired).2, ?_⟩
      rw [failed task child paired lost, given, Option.getD_some]

theorem length_contributors : (Expect.contributors output).length =
    ((crew.busyRoles after).erase "").card + (crew.idleRoles after output).card := by
  have apart : Disjoint ((crew.busyRoles after).erase "") (crew.idleRoles after output) := by
    rw [Finset.disjoint_left]
    intro role known idle
    exact (mem_idleRoles.mp idle).2.2 (Finset.mem_of_mem_erase known)
  rw [← Finset.card_union_of_disjoint apart, ← contributors_eq run]
  exact (List.toFinset_card_of_nodup (nodup_eraseDups _)).symm

end Kickoff

/-- The check of collaboration counts the roles of the busy agents, which are all different, but for
a blank one, and the idle roles. So at least as many agents were busy as it asks for exactly if the
idle roles are no more than the blank one that it leaves out. -/
theorem collaboration_counts {crew after : Crew} {inputs : Inputs} {output : CrewOutput}
    (run : crew.kickoff inputs = .ok (output, after)) :
    (crew.busyRoles after).card = (crew.busy after).card ∧
      (∀ minAgents message, Expect.collaboration output minAgents message = .ok () ↔
        minAgents ≤ ((crew.busyRoles after).erase "").card + (crew.idleRoles after output).card) ∧
      ((∀ minAgents message, Expect.collaboration output minAgents message = .ok () →
          minAgents ≤ (crew.busy after).card) ↔
        (crew.idleRoles after output).card ≤ if "" ∈ crew.busyRoles after then 1 else 0) := by
  have roles : (crew.busyRoles after).card = (crew.busy after).card := by
    rw [(kickoff_ok run).1]
    exact card_busyRoles
  have passes (minAgents : Nat) (message : Option String) :
      Expect.collaboration output minAgents message = .ok () ↔
        minAgents ≤ ((crew.busyRoles after).erase "").card +
          (crew.idleRoles after output).card := by
    rw [Expect.collaboration_eq_ok_iff, length_contributors run]
  refine ⟨roles, passes, ?_⟩
  have blank : ((crew.busyRoles after).erase "").card +
      (if "" ∈ crew.busyRoles after then 1 else 0) = (crew.busy after).card := by
    rw [← roles]
    split
    · rename_i member
      exact Finset.card_erase_add_one member
    · rename_i missing
      rw [Finset.erase_eq_of_notMem missing, Nat.add_zero]
  simp only [passes]
  constructor
  · intro promised
    have most := promised _ none le_rfl
    omega
  · intro few minAgents _ passed
    omega

/-- An agent without a name to its role, another that executes nothing since its task is made to
fail, and a task for a role that nobody has. -/
theorem collaboration_counts_blank :
    let crew : Crew := {
      agents := [.ofRole "", .ofRole "Writer", .ofRole "Writer"]
      tasks := [{ description := "Plan" }, { description := "Write", agent := "Writer" },
        { description := "Edit", agent := "Editor" }]
      failures := [("Write", "no ink")] }
    ∃ output after, crew.kickoff [] = .ok (output, after) ∧
      (crew.busyRoles after).card = (crew.busy after).card ∧
      (∀ minAgents message, Expect.collaboration output minAgents message = .ok () ↔
        minAgents ≤ ((crew.busyRoles after).erase "").card + (crew.idleRoles after output).card) :=
  have counts := collaboration_counts rfl
  ⟨_, _, rfl, counts.1, counts.2.1⟩

/-- A role that nobody has counts as an agent that took part. -/
theorem idle_role_counted :
    let crew : Crew := {
      agents := [.ofRole "Writer"]
      tasks := [{ description := "Write", agent := "Writer" },
        { description := "Edit", agent := "Editor" }] }
    ∃ output after, crew.kickoff [] = .ok (output, after) ∧
      Expect.collaboration output 2 none = .ok () ∧ (crew.busy after).card = 1 := by
  refine ⟨_, _, rfl, ?_, ?_⟩
  · rfl
  · rfl

end Crew

end Rehearsal
