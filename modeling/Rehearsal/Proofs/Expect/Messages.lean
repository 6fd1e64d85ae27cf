import Rehearsal.Expect.Crew
import Rehearsal.Expect.Format
import Rehearsal.Expect.Quality
import Rehearsal.Expect.Tools

/-! # Messages of one's own

Every expectation takes a message that stands in for its own. Whether the expectation holds does not
depend on it, nor does what is reported beside the message. Two expectations can be asked for in a
way that makes no sense, with a format that there is not or a regular expression that is none: these
report so in their own words, whatever message was given. Which texts are regular expressions is for
the compiler of patterns to say, and what is shown here holds with each.
-/

namespace Rehearsal

/-- An expectation with all that it looks at. -/
inductive Expectation where
  | contains (output text : String) (caseSensitive : Bool)
  | pattern (output text : String) (regex : Bool)
  | format (output name : String)
  | crewCompleted (output : CrewOutput)
  | taskSequence (output : CrewOutput) (tasks : List String)
  | collaboration (output : CrewOutput) (minAgents : Nat)
  | calledTool (tools : Toolbox) (agent : Agent) (name : String)
  | calledWith (tool : Tool) (call : ToolCall)
  | callCount (tool : Tool) (count : Nat)
  | executionCount (agent : Agent) (count : Nat)
  | quality (output : String) (task : Task) (minScore : Float) (evaluator : Evaluator)

namespace Expectation

open Expect (PatternCompiler)

/-- What comes of an expectation: only that of quality gives something back if it holds. -/
abbrev Result := Except QualityFault (Option Evaluation)

def ofVerdict : Verdict → Result
  | .ok () => .ok none
  | .error violation => .error (.violation violation)

def result (compile : PatternCompiler) (message : Option String) : Expectation → Result
  | contains output text caseSensitive =>
    ofVerdict (Expect.contains output text caseSensitive message)
  | pattern output text regex =>
    ofVerdict (Expect.matchesPattern output text regex message compile)
  | format output name => ofVerdict (Expect.hasFormat output name message)
  | crewCompleted output => ofVerdict (Expect.crewCompleted output message)
  | taskSequence output tasks => ofVerdict (Expect.taskSequence output tasks message)
  | collaboration output minAgents => ofVerdict (Expect.collaboration output minAgents message)
  | calledTool tools agent name => ofVerdict (Expect.calledTool tools agent name message)
  | calledWith tool call => ofVerdict (Expect.calledWith tool call message)
  | callCount tool count => ofVerdict (Expect.callCount tool count message)
  | executionCount agent count => ofVerdict (Expect.executionCount agent count message)
  | quality output task minScore evaluator =>
    (Expect.quality output task minScore evaluator message).map some

/-- What the expectation names is there: the format, or the regular expression. -/
def Meaningful (compile : PatternCompiler) : Expectation → Prop
  | format _ name => Text.lowercase name ∈ ["json", "markdown", "md", "yaml", "yml"]
  | pattern _ text regex => regex = true → ∃ isMatch, compile text = .ok isMatch
  | _ => True

/-- Two results of an expectation, without a message and with one, that tell the same of it: the
message is the one that was given, and the values are those that there are without it. -/
inductive Reworded (message : String) : Result → Result → Prop where
  | holds (value : Option Evaluation) : Reworded message (.ok value) (.ok value)
  | violated {own given : Violation} (replaced : given.message = message)
      (expected : given.expected = own.expected) (actual : given.actual = own.actual) :
      Reworded message (.error (.violation own)) (.error (.violation given))
  | unanswered (error : Error) :
      Reworded message (.error (.evaluator error)) (.error (.evaluator error))

section Reworded

variable {compile : PatternCompiler} {message : String}

theorem reworded_of (own : String) (expected actual : Option String) :
    Reworded message (ofVerdict (.error (.of none own expected actual)))
      (ofVerdict (.error (.of (some message) own expected actual))) :=
  .violated rfl rfl rfl

/-- Expectations that decide something and report one violation if it does not hold. -/
theorem reworded_ite (holds : Prop) [Decidable holds] (own : String)
    (expected actual : Option String) :
    Reworded message
      (ofVerdict (if holds then .ok () else .error (.of none own expected actual)))
      (ofVerdict (if holds then .ok () else .error (.of (some message) own expected actual))) := by
  by_cases held : holds
  · simp only [held, if_true]
    exact .holds none
  · simp only [held, if_false]
    exact reworded_of own expected actual

theorem reworded_crewCompleted (output : CrewOutput) :
    Reworded message (ofVerdict (Expect.crewCompleted output none))
      (ofVerdict (Expect.crewCompleted output (some message))) := by
  unfold Expect.crewCompleted
  split
  · exact reworded_of _ none none
  · split
    · exact reworded_of _ none _
    · exact .holds none

theorem reworded_isJson (output : String) :
    Reworded message (ofVerdict (Expect.isJson output none))
      (ofVerdict (Expect.isJson output (some message))) := by
  unfold Expect.isJson
  split
  · exact .holds none
  · -- What is wrong with the text moves from the message to the cause.
    exact .violated rfl rfl rfl

theorem parse_of_known {name : String}
    (known : Text.lowercase name ∈ ["json", "markdown", "md", "yaml", "yml"]) :
    ∃ format, Format.parse name = .ok format := by
  simp only [List.mem_cons, List.not_mem_nil, or_false] at known
  rcases known with same | same | same | same | same <;>
    simp [Format.parse, Format.ofLowercase?, same]

theorem parse_of_unknown {name : String}
    (unknown : Text.lowercase name ∉ ["json", "markdown", "md", "yaml", "yml"]) :
    Format.parse name = .error (Text.lowercase name) := by
  have none : Format.ofLowercase? (Text.lowercase name) = none := by
    unfold Format.ofLowercase?
    split <;> simp_all
  simp only [Format.parse, none]

theorem reworded_hasFormat {output name : String}
    (meaningful : (format output name).Meaningful compile) :
    Reworded message (ofVerdict (Expect.hasFormat output name none))
      (ofVerdict (Expect.hasFormat output name (some message))) := by
  obtain ⟨known, parsed⟩ := parse_of_known meaningful
  simp only [Expect.hasFormat, parsed]
  cases known with
  | json => exact reworded_isJson output
  | markdown => exact reworded_ite _ _ _ _
  | yaml => exact reworded_ite _ _ _ _

theorem reworded_matchesPattern {output text : String} {regex : Bool}
    (meaningful : (pattern output text regex).Meaningful compile) :
    Reworded message (ofVerdict (Expect.matchesPattern output text regex none compile))
      (ofVerdict (Expect.matchesPattern output text regex (some message) compile)) := by
  cases regex with
  | false => exact reworded_ite _ _ _ _
  | true =>
      obtain ⟨isMatch, compiled⟩ := meaningful rfl
      simp only [Expect.matchesPattern, if_true, Expect.matchesRegex, compiled]
      exact reworded_ite _ _ _ _

/-- The evaluator is asked the same, so its answer is the same. -/
theorem reworded_quality (output : String) (task : Task) (minScore : Float)
    (evaluator : Evaluator) :
    Reworded message ((Expect.quality output task minScore evaluator none).map some)
      ((Expect.quality output task minScore evaluator (some message)).map some) := by
  unfold Expect.quality Expect.consult Evaluator.ask
  cases evaluator (Expect.qualityRequest output task) with
  | error problem => exact .unanswered problem
  | ok evaluation =>
      simp only [Expect.judge]
      cases scored : evaluation.score with
      | none =>
          simp only [Expect.reaches, scored]
          exact .holds (some evaluation)
      | some score =>
          by_cases below : score < minScore
          · simp only [Expect.reaches, scored, below, if_true]
            exact .violated rfl rfl rfl
          · simp only [Expect.reaches, scored, below, if_false]
            exact .holds (some evaluation)

end Reworded

section Compiler

variable {compile : PatternCompiler} {expectation : Expectation}

/-- By cases on the expectation: a message of one's own changes nothing but the message. -/
theorem Meaningful.reworded (message : String) (meaningful : expectation.Meaningful compile) :
    Reworded message (expectation.result compile none)
      (expectation.result compile (some message)) := by
  cases expectation with
  | contains => exact reworded_ite _ _ _ _
  | pattern => exact reworded_matchesPattern meaningful
  | format => exact reworded_hasFormat meaningful
  | crewCompleted output => exact reworded_crewCompleted output
  | taskSequence => exact reworded_ite _ _ _ _
  | collaboration => exact reworded_ite _ _ _ _
  | calledTool => exact reworded_ite _ _ _ _
  | calledWith => exact reworded_ite _ _ _ _
  | callCount => exact reworded_ite _ _ _ _
  | executionCount => exact reworded_ite _ _ _ _
  | quality output task minScore evaluator => exact reworded_quality output task minScore evaluator

/-- What makes no sense is reported in its own words. -/
theorem result_of_not_meaningful (meaningless : ¬expectation.Meaningful compile) :
    ∃ violation : Violation, violation.expected = none ∧ violation.actual = none ∧
      ∀ message, expectation.result compile message = .error (.violation violation) := by
  cases expectation with
  | format output name =>
      refine ⟨{ message := "Unsupported output format: " ++ Text.lowercase name }, rfl, rfl, ?_⟩
      intro message
      simp only [result, Expect.hasFormat, parse_of_unknown meaningless, ofVerdict]
  | pattern output text regex =>
      simp only [Meaningful, Classical.not_imp, not_exists] at meaningless
      obtain ⟨rfl, invalid⟩ := meaningless
      cases compiled : compile text with
      | ok isMatch => exact absurd compiled (invalid isMatch)
      | error remark =>
          refine ⟨{ message := "Invalid regex pattern " ++ Text.quoted text ++ remark },
            rfl, rfl, ?_⟩
          intro message
          simp only [result, Expect.matchesPattern, if_true, Expect.matchesRegex, compiled,
            ofVerdict]
  | contains | crewCompleted | taskSequence | collaboration | calledTool | calledWith | callCount
  | executionCount | quality => exact absurd trivial meaningless

end Compiler

/-- A message of one's own replaces that of a violation, and no value, exactly if the expectation
makes sense; else there is one violation whatever the message. -/
theorem message_replaces (compile : PatternCompiler) (expectation : Expectation) :
    (expectation.Meaningful compile ↔ ∀ message,
      Reworded message (expectation.result compile none)
        (expectation.result compile (some message))) ∧
    (¬expectation.Meaningful compile → ∃ violation : Violation,
      violation.expected = none ∧ violation.actual = none ∧
        ∀ message, expectation.result compile message = .error (.violation violation)) := by
  refine ⟨?_, result_of_not_meaningful⟩
  constructor
  · intro meaningful message
    exact meaningful.reworded message
  · intro reworded
    refine Classical.byContradiction fun meaningless => ?_
    obtain ⟨violation, -, -, same⟩ := result_of_not_meaningful meaningless
    -- One violation would have to carry every message.
    have replaced (message : String) : violation.message = message := by
      have changed := reworded message
      rw [same, same] at changed
      cases changed with
      | violated replaced => exact replaced
    exact absurd ((replaced "").symm.trans (replaced " ")) (by decide)

/-- A message is not taken where the format or the regular expression is not known. -/
theorem message_not_taken :
    (∃ violation, Expect.hasFormat "\x7b\x7d" "xml" (some "The writer answers with JSON") =
      .error violation ∧ violation.message ≠ "The writer answers with JSON") ∧
    ∃ violation, Expect.matchesPattern "text" "(unclosed" true (some "The text has a number") =
      .error violation ∧ violation.message ≠ "The text has a number" := by
  refine ⟨⟨_, rfl, ?_⟩, ⟨_, rfl, ?_⟩⟩
  · decide
  · decide

end Expectation

end Rehearsal
