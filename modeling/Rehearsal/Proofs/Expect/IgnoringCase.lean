import Rehearsal.Case.Agent
import Rehearsal.Proofs.Text.FinalSigma

/-! # Expectations without regard to case

A text that an output contains as it is should be found in it without regard to case as well. Both
are put in lower case on their own, so this holds of a text in every output exactly when the text
settles the form of its capital sigmas, and of every text that has none.
-/

namespace Rehearsal.Expect

theorem contains_eq_ok_iff (output text : String) (caseSensitive : Bool) (message : Option String) :
    contains output text caseSensitive message = .ok () ↔
      containsText output text caseSensitive = true := by
  unfold contains
  split <;> simp_all

theorem includes_lowercase (output text : String) :
    Text.includes (Text.lowercase output) (Text.lowercase text) =
      Text.hasPart (Text.lower text.toList) (Text.lower output.toList) := by
  simp only [Text.includes, Text.lowercase, String.toList_ofList]

/-- What is found as it is in an output is found without regard to case. -/
theorem settled_iff_includes (text : String) : Text.Settled text.toList ↔
    ∀ output : String, Text.includes output text = true →
      containsText output text false = true := by
  rw [Text.settled_iff]
  constructor
  · intro found output present
    rw [containsText, if_neg (by decide), includes_lowercase]
    exact found output.toList present
  · intro found output present
    have inside := found (String.ofList output) (by rwa [Text.includes, String.toList_ofList])
    rwa [containsText, if_neg (by decide), includes_lowercase, String.toList_ofList] at inside

/-- To ignore case accepts more of every output, and finds every captured output that has the text,
exactly for the texts that settle the form of their capital sigmas, as all do that have none. -/
theorem accepts_more_iff (text : String) :
    ('Σ' ∉ text.toList → Text.Settled text.toList) ∧
    (Text.Settled text.toList ↔ ∀ (output : String) (message : Option String),
      contains output text true message = .ok () → contains output text false message = .ok ()) ∧
    (Text.Settled text.toList ↔ ∀ (case : AgentCase), ∀ output ∈ case.outputs,
      Text.includes output.raw text = true → output ∈ case.outputsContaining text) := by
  refine ⟨Text.settled_of_not_mem, ?_⟩
  rw [settled_iff_includes]
  constructor
  · simp only [contains_eq_ok_iff]
    constructor
    · intro found output _ present
      exact found output present
    · intro found output present
      exact found output none present
  · constructor
    · intro found case output captured present
      exact List.mem_filter.mpr ⟨captured, found output.raw present⟩
    · intro found output present
      let captured : TaskOutput := { description := "", raw := output, agent := "" }
      have inside := found { outputs := [captured] } captured (List.mem_singleton_self _) present
      exact (List.mem_filter.mp inside).2

/-- The sigma ends a word in the text, and no word in the output. -/
theorem part_missed_ignoring_case :
    contains "AΣA" "AΣ" true none = .ok () ∧ contains "AΣA" "AΣ" false none ≠ .ok () ∧
      let output : TaskOutput := { description := "Write", raw := "AΣA", agent := "Writer" }
      Text.includes output.raw "AΣ" = true ∧
        output ∉ ({ outputs := [output] } : AgentCase).outputsContaining "AΣ" := by
  decide

end Rehearsal.Expect
