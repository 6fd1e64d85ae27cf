import Rehearsal.Proofs.Fixture.History
import Rehearsal.Proofs.Fixture.Reached
import Rehearsal.Proofs.Fixture.Replay

/-! # Failures and errors of steps

A step fails if an expectation does not hold. It errs if it cannot be carried out, and a check errs
if it is about something that is not there, or if it is for an evaluator to decide and there is none
that answers. That a check finds no output, or is itself malformed, is a failure all the same. A test
ends in the way of the step that it stops at.
-/

namespace Rehearsal.Fixture

def Errs {α : Type} (result : Except Fault α) : Prop :=
  ∃ problem, result = .error (.error problem)

def Fails {α : Type} (result : Except Fault α) : Prop :=
  ∃ violation, result = .error (.failure violation)

/-- A check of something that is not there; for a check of quality it counts what the evaluator was
asked. -/
def Misplaced (cls : Class) (evaluator : Option Evaluator) (asked : Requests) : Check → Prop
  | .agentCalledTool role _ | .executionCount role _ => placeOf cls.roles role = none
  | .toolCalledWith name _ | .toolCallCount name _ => name ∉ cls.tools.map (·.name)
  | .crewCompleted | .taskSequence _ | .collaboration _ => cls.kind ≠ .crew
  | .quality _ => evaluator = none ∨
      ∃ ask request problem, evaluator = some ask ∧ request ∈ asked ∧ ask request = .error problem
  | .contains _ _ | .format _ | .pattern _ _ => False

/-- A check that cannot hold whatever the output says. -/
inductive Hopeless (compile : Expect.PatternCompiler) (inst : Instance) : Check → Prop where
  | silent {check : Check} : check.readsOutput → inst.scaffold.outputText? = none →
      Hopeless compile inst check
  | format {name : String} : (∀ format, Format.parse name ≠ .ok format) →
      Hopeless compile inst (.format name)
  | pattern {text : String} : (∀ isMatch, compile text ≠ .ok isMatch) →
      Hopeless compile inst (.pattern text true)

/-- The kinds of the faults that steps raise in an instance, with any compiler of patterns. -/
structure ToldApart (cls : Class) (evaluator : Option Evaluator) (inst : Instance) : Prop where
  steps : ∀ step, (∀ assertion, step ≠ .assert assertion) →
    ¬Fails (inst.perform evaluator step).1
  errs : ∀ check message compile,
    let checked := inst.perform evaluator (.assert ⟨check, message⟩) compile
    Errs checked.1 ↔ Misplaced cls evaluator checked.2 check
  fails : ∀ check message compile fault,
    let checked := inst.perform evaluator (.assert ⟨check, message⟩) compile
    checked.1 = .error fault → ¬Misplaced cls evaluator checked.2 check → Fails checked.1
  hopeless : ∀ check message compile,
    let checked := inst.perform evaluator (.assert ⟨check, message⟩) compile
    Hopeless compile inst check → ¬Misplaced cls evaluator checked.2 check → Fails checked.1

section Results

variable {α β : Type} {result : Except Fault α}

theorem errs_or_fails {fault : Fault} (raised : result = .error fault) :
    Errs result ∨ Fails result := by
  subst raised
  cases fault with
  | failure violation => exact .inr ⟨violation, rfl⟩
  | error problem => exact .inl ⟨problem, rfl⟩

theorem errs_map (f : α → β) : Errs (result.map f) ↔ Errs result := by
  cases result <;> simp [Errs, Except.map]

theorem not_errs_require (verdict : Verdict) : ¬Errs (require verdict) := by
  rintro ⟨problem, errs⟩
  cases verdict <;> cases errs

/-- A verdict on what was found adds no error to those of finding it. -/
theorem errs_require (expect : α → Verdict) :
    Errs (result >>= fun found => require (expect found)) ↔ Errs result := by
  cases result with
  | error fault => simp [Errs, bind, Except.bind]
  | ok found =>
      apply iff_of_false
      · exact not_errs_require (expect found)
      · rintro ⟨problem, errs⟩
        cases errs

theorem raises_found {raised : Fault} (lost : result = .error raised) (next : α → Except Fault β) :
    ∃ fault, (result >>= next) = .error fault := by
  subst lost
  exact ⟨raised, rfl⟩

theorem raises_verdict {next : α → Except Fault β} (bad : ∀ found, ∃ fault, next found = .error fault)
    (result : Except Fault α) : ∃ fault, (result >>= next) = .error fault := by
  cases result with
  | error fault => exact ⟨fault, rfl⟩
  | ok found => exact bad found

end Results

/-! What checks look for. -/

section Found

variable {cls : Class} {inst : Instance}

theorem not_errs_outputText (inst : Instance) : ¬Errs inst.outputText := by
  rintro ⟨problem, errs⟩
  cases latest : inst.scaffold.outputText? <;> simp [Instance.outputText, latest, missingOutput] at errs

theorem not_errs_answer (inst : Instance) : ¬Errs inst.answer := by
  rintro ⟨problem, errs⟩
  unfold Instance.answer at errs
  split at errs
  · cases errs
  · cases errs

theorem errs_crewOutput (ready : Ready cls inst.origin) :
    Errs inst.scaffold.crewOutput ↔ cls.kind ≠ .crew := by
  obtain ⟨scaffold, tools⟩ := inst
  cases scaffold with
  | agent case => exact iff_of_true ⟨_, rfl⟩ (Staged.agent_eq ready.staged).1
  | crew case =>
      obtain ⟨-, several, -⟩ := Staged.crew_eq ready.staged
      apply iff_of_false
      · rintro ⟨problem, errs⟩
        cases latest : case.lastOutput? <;> simp [Scaffold.crewOutput, latest, missingOutput] at errs
      · exact not_not_intro several

theorem crewOutput_silent (silent : inst.scaffold.outputText? = none) :
    ∃ fault, inst.scaffold.crewOutput = .error fault := by
  obtain ⟨scaffold, tools⟩ := inst
  cases scaffold with
  | agent case => exact ⟨_, rfl⟩
  | crew case =>
      cases latest : case.lastOutput? with
      | some output => simp [Scaffold.outputText?, latest] at silent
      | none => simp [Scaffold.crewOutput, latest]

theorem errs_agent (ready : Ready cls inst.origin) (role : Option String) :
    Errs (inst.agent role) ↔ placeOf cls.roles role = none := by
  rw [Instance.agent, ready.agent?_eq]
  cases found : placeOf cls.roles role with
  | none => exact iff_of_true ⟨_, rfl⟩ rfl
  | some place =>
      have inside : place < inst.scaffold.agents.length := by
        rw [← List.length_map (·.role), ready.roles_eq]
        exact placeOf_lt found
      simp [Errs, List.getElem?_eq_getElem inside]

theorem errs_tool (ready : Ready cls inst.origin) (name : String) :
    Errs (inst.tool name) ↔ name ∉ cls.tools.map (·.name) := by
  rw [← ready.handleOf?_eq_none_iff, Instance.tool]
  cases found : inst.tools.handleOf? name with
  | none => exact iff_of_true ⟨_, rfl⟩ rfl
  | some handle =>
      have inside := (List.findIdx?_eq_some_iff_getElem.mp found).1
      simp [Errs, List.getElem?_eq_getElem inside]

end Found

section Checks

variable {cls : Class} {evaluator : Option Evaluator} {inst : Instance}

theorem errs_evaluate (minScore : Float) (message : Option String) :
    let scored := evaluate evaluator inst minScore message
    Errs scored.1 ↔ Misplaced cls evaluator scored.2 (.quality minScore) := by
  cases evaluator with
  | none => exact iff_of_true ⟨_, rfl⟩ (.inl rfl)
  | some ask =>
      simp only [evaluate, Misplaced]
      cases answered : inst.answer with
      | error fault =>
          have kind := not_errs_answer inst
          rw [answered] at kind
          simpa [Errs] using kind
      | ok answer =>
          obtain ⟨output, task⟩ := answer
          simp only [errs_map, Expect.consult, Evaluator.ask]
          cases scored : ask (Expect.qualityRequest output task) with
          | error problem => simp [Errs, Expect.judge, scored, Except.mapError,
              QualityFault.toFault, Fault.ofError]
          | ok evaluation =>
              cases reached : Expect.reaches evaluation minScore message <;>
                simp [Errs, Expect.judge, scored, reached, Except.mapError, QualityFault.toFault]

theorem errs_decideCheck (ready : Ready cls inst.origin) (message : Option String)
    (check : Check) (compile : Expect.PatternCompiler) :
    let decided := decideCheck evaluator inst message check compile
    Errs decided.1 ↔ Misplaced cls evaluator decided.2 check := by
  cases check with
  | contains | format | pattern =>
      exact iff_of_false (mt (errs_require _).mp (not_errs_outputText inst)) not_false
  | crewCompleted | taskSequence | collaboration =>
      exact (errs_require _).trans (errs_crewOutput ready)
  | agentCalledTool role | executionCount role =>
      exact (errs_require _).trans (errs_agent ready role)
  | toolCalledWith name | toolCallCount name =>
      exact (errs_require _).trans (errs_tool ready name)
  | quality minScore => exact errs_evaluate minScore message

theorem Hopeless.raises {compile : Expect.PatternCompiler} {check : Check}
    (hopeless : Hopeless compile inst check) (evaluator : Option Evaluator)
    (message : Option String) :
    ∃ fault, (decideCheck evaluator inst message check compile).1 = .error fault := by
  cases hopeless with
  | silent reads silent =>
      have output : inst.outputText = .error missingOutput := by
        rw [Instance.outputText, silent]
      have answer : inst.answer = .error missingOutput := by
        rw [Instance.answer, silent]
      cases check with
      | contains | format | pattern => exact raises_found output _
      | crewCompleted | taskSequence | collaboration =>
          obtain ⟨fault, missing⟩ := crewOutput_silent silent
          exact raises_found missing _
      | quality =>
          cases evaluator with
          | none => exact ⟨_, rfl⟩
          | some ask =>
              simp only [decideCheck, evaluate, answer]
              exact ⟨_, rfl⟩
      | agentCalledTool | executionCount | toolCalledWith | toolCallCount => cases reads
  | @format name unknown =>
      apply raises_verdict
      intro text
      cases parsed : Format.parse name with
      | ok format => exact absurd parsed (unknown format)
      | error name =>
          simp only [Expect.hasFormat, parsed]
          exact ⟨_, rfl⟩
  | @pattern text invalid =>
      apply raises_verdict
      intro found
      cases compiled : compile text with
      | ok isMatch => exact absurd compiled (invalid isMatch)
      | error remark =>
          simp only [Expect.matchesPattern, if_true, Expect.matchesRegex, compiled]
          exact ⟨_, rfl⟩

end Checks

section Steps

variable {inst : Instance}

theorem not_fails_execute (task : String) (expectedOutput : Option String) :
    ¬Fails (inst.execute task expectedOutput) := by
  rintro ⟨violation, fails⟩
  unfold Instance.execute at fails
  split at fails
  · cases fails
  · split at fails
    · cases fails
    · split at fails <;> cases fails

theorem not_fails_kickoff (inputs : Inputs) : ¬Fails (inst.kickoff inputs) := by
  rintro ⟨violation, fails⟩
  unfold Instance.kickoff at fails
  split at fails
  · cases fails
  · split at fails <;> cases fails

theorem not_fails_callTool (name : String) (call : ToolCall) : ¬Fails (inst.callTool name call) := by
  rintro ⟨violation, fails⟩
  cases found : inst.tools.handleOf? name with
  | none => simp [Instance.callTool, Instance.tool, found, unknownTool, bind, Except.bind] at fails
  | some handle =>
      have inside := (List.findIdx?_eq_some_iff_getElem.mp found).1
      simp [Instance.callTool, Instance.tool, found, List.getElem?_eq_getElem inside,
        Toolbox.invoke, bind, Except.bind, pure, Except.pure] at fails

theorem not_fails_simulate (role : Option String) (call : SimulatedCall) :
    ¬Fails (inst.simulate role call) := by
  rintro ⟨violation, fails⟩
  unfold Instance.simulate at fails
  split at fails <;> cases fails

/-- Whatever keeps a step other than a check from being carried out is an error. -/
theorem not_fails_perform (evaluator : Option Evaluator) {step : Step}
    (other : ∀ assertion, step ≠ .assert assertion) : ¬Fails (inst.perform evaluator step).1 := by
  cases step with
  | execute task expectedOutput => exact not_fails_execute task expectedOutput
  | kickoff inputs => exact not_fails_kickoff inputs
  | callTool name call => exact not_fails_callTool name call
  | simulate role call => exact not_fails_simulate role call
  | reset =>
      rintro ⟨violation, fails⟩
      cases fails
  | assert assertion => exact absurd rfl (other assertion)

end Steps

theorem toldApart {cls : Class} {evaluator : Option Evaluator} {inst : Instance}
    (ready : Ready cls inst.origin) : ToldApart cls evaluator inst := by
  have errs (check : Check) (message : Option String) (compile : Expect.PatternCompiler) :
      let checked := inst.perform evaluator (.assert ⟨check, message⟩) compile
      Errs checked.1 ↔ Misplaced cls evaluator checked.2 check :=
    (errs_map _).trans (errs_decideCheck ready message check compile)
  have fails (check : Check) (message : Option String) (compile : Expect.PatternCompiler)
      (fault : Fault) :
      let checked := inst.perform evaluator (.assert ⟨check, message⟩) compile
      checked.1 = .error fault → ¬Misplaced cls evaluator checked.2 check → Fails checked.1 := by
    intro checked raised placed
    rcases errs_or_fails raised with err | fail
    · exact absurd ((errs check message compile).mp err) placed
    · exact fail
  refine ⟨fun step other => not_fails_perform evaluator other, errs, fails, ?_⟩
  intro check message compile checked hopeless
  obtain ⟨fault, raised⟩ := hopeless.raises evaluator message
  refine fails check message compile fault ?_
  simp only [Instance.perform, raised]
  rfl

/-- Wherever an instance is after it was set up, a step other than a check can only err, and a check
errs exactly if it is misplaced; all else that it raises is a failure. The record of a test is of the
kind of the step that its steps stop at, and a success if they do not stop. -/
theorem faults_of_steps (cls : Class) (evaluator : Option Evaluator) :
    (∀ inst, Reached cls evaluator inst → ToldApart cls evaluator inst) ∧
    ∀ (runner : Runner) (before after : List (TestUnit Instance Requests)) (method : String)
      (test : Test) (skipped : List LoadFault) (asked : Requests),
      (cls.setUp cls.fresh).1 = none → cls.tests.find? (·.name == method) = some test →
      let suite : Suite Instance Requests :=
        ⟨before ++ ⟨cls.toTestClass evaluator, method⟩ :: after, skipped⟩
      let start := (cls.setUp cls.fresh).2
      ∃ record, (runner.run suite asked).1.1.records[before.length]? = some record ∧
        record.unitId = cls.name ++ "." ++ method ∧
        (record.outcome = .success ↔
          ∀ step fault, ¬StopsAt evaluator start test.steps step fault) ∧
        ∀ step fault, StopsAt evaluator start test.steps step fault →
          record.outcome = .ofFault fault := by
  constructor
  · intro inst reached
    exact toldApart reached.ready
  · intro runner before after method test skipped asked done found suite start
    obtain ⟨-, present⟩ :=
      runner.run_course before after skipped asked (Class.takes_ran evaluator done found)
    have stopped : ∀ step fault, StopsAt evaluator start test.steps step fault →
        outcomeOf ((start.performAll evaluator test.steps []).1.fault? .body) none =
          .ofFault fault := by
      intro step fault stops
      rw [stops.ending]
      rfl
    refine ⟨_, present, rfl, ?_, stopped⟩
    constructor
    · intro success step fault stops
      have kind := (stopped step fault stops).symm.trans success
      cases fault <;> cases kind
    · intro never
      rcases performAll_stops evaluator test.steps start with ran | ⟨step, fault, -, stops⟩
      · change outcomeOf ((start.performAll evaluator test.steps []).1.fault? .body) none = .success
        rw [ran]
        rfl
      · exact absurd stops (never step fault)

/-! A test that stops at a format that is none, before a check of an agent that is not there. -/

namespace Planning

def test : Test where
  name := "test_plan"
  steps := [.kickoff [], .assert ⟨.format "xml", none⟩,
    .assert ⟨.executionCount (some "Editor") 1, none⟩]

def cls : Class where
  name := "Desk"
  kind := .crew
  agents := [{ role := "Writer" }, { role := "Writer" }]
  tasks := [{ description := "Plan" }]
  tests := [test]

end Planning

theorem faults_of_steps_planning :
    let start := (Planning.cls.setUp Planning.cls.fresh).2
    let inst := (start.performAll none [.kickoff []] []).2.1
    let suite : Suite Instance Requests := ⟨[⟨Planning.cls.toTestClass none, "test_plan"⟩], []⟩
    (Planning.cls.setUp Planning.cls.fresh).1 = none ∧ Reached Planning.cls none inst ∧
      ToldApart Planning.cls none inst ∧
      Planning.cls.tests.find? (·.name == "test_plan") = some Planning.test ∧
      ∃ record, (Runner.run {} suite []).1.1.records[0]? = some record ∧
        (record.outcome = .success ↔
          ∀ step fault, ¬StopsAt none start Planning.test.steps step fault) ∧
        ∀ step fault, StopsAt none start Planning.test.steps step fault →
          record.outcome = .ofFault fault :=
  have reached := (Reached.fresh Planning.cls none rfl).performAll [.kickoff []] []
  have kinds := faults_of_steps Planning.cls none
  have ⟨record, present, _, told⟩ :=
    kinds.2 {} [] [] "test_plan" Planning.test [] [] rfl rfl
  ⟨rfl, reached, kinds.1 _ reached, rfl, record, present, told⟩

end Rehearsal.Fixture
