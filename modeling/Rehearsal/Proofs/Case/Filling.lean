import Rehearsal.Case.Crew

/-! # Filling a scaffold

Agents and tasks are only appended, and a crew is built from what is there, if there is an agent and
a task.
-/

namespace Rehearsal.CrewCase

theorem foldl_addAgent (agents : List Agent) (case : CrewCase) :
    agents.foldl addAgent case = { case with agents := case.agents ++ agents } := by
  induction agents generalizing case with
  | nil => simp
  | cons agent rest ih => simp [ih, addAgent]

theorem foldl_addTask (tasks : List Task) (case : CrewCase) :
    tasks.foldl
        (fun case task => (case.addTask task.description task.expectedOutput task.agent).2) case =
      { case with
        tasks := case.tasks ++ tasks.map fun task =>
          { task with agent := task.agent.or (case.agents.head?.map (·.role)) } } := by
  induction tasks generalizing case with
  | nil => simp
  | cons task rest ih =>
      rw [List.foldl_cons, ih]
      simp [addTask, assignee]

theorem createCrew_eq_ok_iff {case built : CrewCase} {crew : Crew} :
    case.createCrew = .ok (crew, built) ↔
      case.agents ≠ [] ∧ case.tasks ≠ [] ∧ crew = { agents := case.agents, tasks := case.tasks } ∧
        built = { case with crew := some crew } := by
  constructor
  · intro done
    unfold createCrew at done
    split at done
    · cases done
    · rename_i someone
      split at done
      · cases done
      · rename_i something
        cases done
        exact ⟨by simpa using someone, by simpa using something, rfl, rfl⟩
  · rintro ⟨someone, something, rfl, rfl⟩
    simp [createCrew, someone, something]

theorem createCrew_error_iff {case : CrewCase} :
    (∃ problem, case.createCrew = .error problem) ↔ case.agents = [] ∨ case.tasks = [] := by
  unfold createCrew
  split
  · rename_i nobody
    exact iff_of_true ⟨_, rfl⟩ (.inl (List.isEmpty_iff.mp nobody))
  · rename_i someone
    split
    · rename_i nothing
      exact iff_of_true ⟨_, rfl⟩ (.inr (List.isEmpty_iff.mp nothing))
    · rename_i something
      rw [List.isEmpty_iff] at someone something
      exact iff_of_false (fun ⟨_, failed⟩ => nomatch failed) (not_or.mpr ⟨someone, something⟩)

end Rehearsal.CrewCase
