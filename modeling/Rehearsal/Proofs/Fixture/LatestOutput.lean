import Rehearsal.Proofs.Fixture.Replay

/-! # Checks of the latest output

Outputs, tasks and the children of a crew are kept apart, and a check pairs the last of each. They
are the output and the task of one step all the same: each step that makes an output leaves its
own at the end, and no other step touches them.
-/

namespace Rehearsal

/-- The last child of a run was described as the last task, filled in. -/
theorem Crew.kickoff_last {crew after : Crew} {inputs : Inputs} {output : CrewOutput}
    (run : crew.kickoff inputs = .ok (output, after)) :
    ∃ task child, crew.tasks.getLast? = some task ∧ output.tasksOutput.getLast? = some child ∧
      child.description = interpolate task.description inputs := by
  have final := List.getLast?_eq_getLast_of_ne_nil (kickoff_filled run)
  have described := congrArg List.getLast? (kickoff_leaves run).2.1
  rw [jobs, List.map_map, List.getLast?_map, List.getLast?_map, final, Option.map_some] at described
  obtain ⟨child, last, same⟩ := Option.map_eq_some_iff.mp described
  exact ⟨_, child, final, last, same⟩

namespace Fixture

/-- Whether the check looks at the text of an output. -/
def Check.readsText : Check → Bool
  | .contains _ _ | .format _ | .pattern _ _ | .quality _ => true
  | _ => false

/-- The request that pairs what a step makes of an instance with the task that it makes it for. -/
inductive Poses (cls : Class) : Instance → Step → EvaluationRequest → Prop where
  | execute {case agent tools} (task : String) (expectedOutput : Option String)
      (present : case.agent = some agent) :
      Poses cls ⟨.agent case, tools⟩ (.execute task expectedOutput) {
        task
        expected := expectedOutput.getD "High quality response"
        actual := (agent.execute ⟨task, expectedOutput, some agent.role⟩).1.raw }
  | kickoff {case crew after output last tools} (inputs : Inputs) (built : case.crew = some crew)
      (run : crew.kickoff inputs = .ok (output, after)) (final : cls.tasks.getLast? = some last) :
      Poses cls ⟨.crew case, tools⟩ (.kickoff inputs) {
        task := interpolate last.description inputs
        expected := last.expectedOutput.getD "High quality response"
        actual := output.raw }

/-- What a test makes of the answer of an evaluator. -/
def scored (answer : Except Error Evaluation) (minScore : Float) (message : Option String) :
    Except Fault Unit :=
  match answer with
  | .error e => .error (.ofError e)
  | .ok evaluation => require (Expect.reaches evaluation minScore message)

/-- All checks of a text look at that of one request, with which alone the evaluator is asked, once
for each check of quality. -/
structure Answered (evaluator : Evaluator) (inst : Instance) (request : EvaluationRequest) :
    Prop where
  quality : ∀ minScore message,
    inst.perform (some evaluator) (.assert ⟨.quality minScore, message⟩) =
      ((scored (evaluator request) minScore message).map fun _ => inst, [request])
  contains : ∀ text caseSensitive message,
    inst.perform (some evaluator) (.assert ⟨.contains text caseSensitive, message⟩) =
      ((require (Expect.contains request.actual text caseSensitive message)).map fun _ => inst, [])
  format : ∀ name message,
    inst.perform (some evaluator) (.assert ⟨.format name, message⟩) =
      ((require (Expect.hasFormat request.actual name message)).map fun _ => inst, [])
  pattern : ∀ text regex message,
    inst.perform (some evaluator) (.assert ⟨.pattern text regex, message⟩) =
      ((require (Expect.matchesPattern request.actual text regex message)).map fun _ => inst, [])

/-- All checks of a text fail, and the evaluator is not asked. -/
def Unanswered (evaluator : Evaluator) (inst : Instance) : Prop :=
  ∀ check message, check.readsText → ∃ violation,
    inst.perform (some evaluator) (.assert ⟨check, message⟩) = (.error (.failure violation), [])

namespace Scaffold

/-- The text of the latest output with the task that it answers, as far as there are any. -/
def latest (scaffold : Scaffold) : Option String × Option Task :=
  (scaffold.outputText?, scaffold.answeredTask?)

/-- The latest output and its task make up a request. -/
def Shows (scaffold : Scaffold) (request : EvaluationRequest) : Prop :=
  ∃ task, scaffold.latest = (some request.actual, some task) ∧
    Expect.qualityRequest request.actual task = request

end Scaffold

section Checks

variable {evaluator : Evaluator} {inst : Instance}

theorem judge_scored (answer : Except Error Evaluation) (minScore : Float)
    (message : Option String) :
    ((Expect.judge answer minScore message).mapError (·.toFault)).map (fun _ => ()) =
      scored answer minScore message := by
  cases answer with
  | error e => rfl
  | ok evaluation =>
      simp only [Expect.judge, scored]
      cases Expect.reaches evaluation minScore message <;> rfl

theorem answered {request : EvaluationRequest} (shows : inst.scaffold.Shows request) :
    Answered evaluator inst request := by
  obtain ⟨task, latest, same⟩ := shows
  obtain ⟨text, answers⟩ := Prod.mk.inj latest
  have output : inst.outputText = .ok request.actual := by
    rw [Instance.outputText, text]
  have answer : inst.answer = .ok (request.actual, task) := by
    rw [Instance.answer, text, answers]
  exact {
    quality := by
      intro minScore message
      simp only [Instance.perform, decideCheck, evaluate, answer, Expect.consult, Evaluator.ask,
        judge_scored, same]
    contains := by
      intro sought caseSensitive message
      simp only [Instance.perform, decideCheck, output, bind, Except.bind]
    format := by
      intro name message
      simp only [Instance.perform, decideCheck, output, bind, Except.bind]
    pattern := by
      intro sought regex message
      simp only [Instance.perform, decideCheck, output, bind, Except.bind] }

theorem unanswered (silent : inst.scaffold.outputText? = none) : Unanswered evaluator inst := by
  have output : inst.outputText = .error missingOutput := by
    rw [Instance.outputText, silent]
  have answer : inst.answer = .error missingOutput := by
    rw [Instance.answer, silent]
  intro check message reads
  have missing : inst.perform (some evaluator) (.assert ⟨check, message⟩) =
      (.error missingOutput, []) := by
    cases check with
    | contains | format | pattern =>
        simp only [Instance.perform, decideCheck, output, bind, Except.bind, Except.map]
    | quality => simp only [Instance.perform, decideCheck, evaluate, answer, Except.map]
    | crewCompleted | taskSequence | collaboration | agentCalledTool | toolCalledWith
    | toolCallCount | executionCount => cases reads
  exact ⟨_, missing⟩

end Checks

theorem Staged.outputText?_eq {cls : Class} {scaffold : Scaffold} (staged : Staged cls scaffold) :
    scaffold.outputText? = none := by
  cases staged <;> rfl

theorem Ready.added_tasks {cls : Class} {case : CrewCase} {tools : Toolbox}
    (ready : Ready cls (Instance.origin ⟨.crew case, tools⟩)) : case.tasks = cls.assigned := by
  obtain ⟨agents, -, before⟩ := ready.staged.crew_eq
  exact congrArg CrewCase.tasks before

theorem Class.assigned_getLast? {cls : Class} {task : Task}
    (final : cls.assigned.getLast? = some task) :
    ∃ last, cls.tasks.getLast? = some last ∧ task.description = last.description ∧
      task.expectedOutput = last.expectedOutput := by
  rw [assigned, List.getLast?_map] at final
  obtain ⟨last, declared, rfl⟩ := Option.map_eq_some_iff.mp final
  exact ⟨last, declared, rfl, rfl⟩

namespace Performs

variable {cls : Class} {inst next : Instance} {step : Step}

/-- A step that makes an output leaves it as the latest, with the task that it was made for. -/
theorem shows (ready : Ready cls inst.origin) (performs : Performs inst step next)
    (makes : step.makesOutput) : ∃ request, Poses cls inst step request ∧
      next.scaffold.Shows request := by
  cases performs with
  | @execute case agent tools task expectedOutput present =>
      refine ⟨_, .execute task expectedOutput present, ⟨task, expectedOutput, some agent.role⟩, ?_,
        rfl⟩
      simp [Scaffold.latest, Scaffold.outputText?, Scaffold.answeredTask?, AgentCase.lastOutput?,
        AgentCase.answered]
  | @kickoff case crew after output tools inputs built run =>
      obtain ⟨task, child, lastTask, lastChild, described⟩ := Crew.kickoff_last run
      rw [ready.tasks_eq built] at lastTask
      obtain ⟨last, final, description, expected⟩ := Class.assigned_getLast? lastTask
      refine ⟨_, .kickoff inputs built run final,
        { description := child.description, expectedOutput := task.expectedOutput }, ?_, ?_⟩
      · simp [Scaffold.latest, Scaffold.outputText?, Scaffold.answeredTask?, CrewCase.lastOutput?,
          CrewCase.ran, lastChild, ready.added_tasks, lastTask]
      · simp [Expect.qualityRequest, described, description, expected, Expect.defaultExpectation]
  | callTool | simulate | reset | assert => cases makes

theorem keeps_latest (performs : Performs inst step next) (quiet : step.makesOutput = false) :
    next.scaffold.latest = inst.scaffold.latest := by
  cases performs with
  | execute | kickoff => cases quiet
  | callTool | assert => rfl
  | simulate | reset =>
      obtain ⟨scaffold, tools⟩ := inst
      cases scaffold <;> rfl

end Performs

namespace Instance

variable {evaluator : Option Evaluator} {inst last : Instance} {log asked : Requests}

theorem performAll_keeps_latest {steps : List Step}
    (quiet : ∀ step ∈ steps, step.makesOutput = false)
    (ran : inst.performAll evaluator steps log = (.done, last, asked)) :
    last.scaffold.latest = inst.scaffold.latest := by
  have performed : (inst.deeds evaluator steps).map (·.step) = steps := by
    have ends : Ends evaluator steps _ _ _ := performAll_ends steps inst log
    rwa [ran] at ends
  have kept : (∀ deed ∈ inst.deeds evaluator steps, deed.step.makesOutput = false) →
      (inst.performAll evaluator steps log).2.1.scaffold.latest = inst.scaffold.latest := by
    refine performAll_keeps (fun done last => (∀ deed ∈ done, deed.step.makesOutput = false) →
      last.scaffold.latest = inst.scaffold.latest) ?_ steps [] log fun _ => rfl
    intro done before step next kept performs quiet
    have own := quiet _ (List.mem_append_right done List.mem_cons_self)
    rw [performs.keeps_latest own]
    exact kept fun deed member => quiet deed (List.mem_append_left _ member)
  rw [ran] at kept
  apply kept
  intro deed member
  apply quiet
  rw [← performed]
  exact List.mem_map_of_mem member

/-- Steps that raised no fault were performed one after the other. -/
theorem performAll_split {earlier later : List Step}
    (ran : inst.performAll evaluator (earlier ++ later) log = (.done, last, asked)) :
    ∃ middle sofar, inst.performAll evaluator earlier log = (.done, middle, sofar) ∧
      middle.performAll evaluator later sofar = (.done, last, asked) := by
  induction earlier generalizing inst log with
  | nil => exact ⟨inst, log, rfl, ran⟩
  | cons step rest ih =>
      rcases performed : inst.perform evaluator step with ⟨_ | next, requests⟩
      · simp [performAll, performed] at ran
      · simp only [List.cons_append, performAll, performed] at ran ⊢
        exact ih ran

end Instance

theorem Instance.answered_after {cls : Class} {evaluator : Evaluator} {start last : Instance}
    {before between : List Step} {maker : Step} {log asked : Requests} (ready : Ready cls start)
    (ran : start.performAll (some evaluator) (before ++ maker :: between) log =
      (.done, last, asked))
    (makes : maker.makesOutput) (quiet : ∀ step ∈ between, step.makesOutput = false) :
    let there := start.performAll (some evaluator) before log
    there.1 = .done ∧ ∃ request,
      Poses cls there.2.1 maker request ∧ Answered evaluator last request := by
  obtain ⟨there, sofar, earlier, rest⟩ := performAll_split ran
  have origin : Ready cls there.origin := by
    rw [origin_of_ran earlier, ready.origin_eq]
    exact ready
  rw [earlier]
  rcases performed : there.perform (some evaluator) maker with ⟨_ | next, requests⟩
  · simp [performAll, performed] at rest
  · simp only [performAll, performed] at rest
    obtain ⟨request, poses, task, latest, same⟩ := (perform_performs performed).shows origin makes
    have kept := performAll_keeps_latest quiet rest
    exact ⟨rfl, request, poses, answered ⟨task, kept.trans latest, same⟩⟩

/-- Checks of a text, wherever they are reached after a set-up: before any step made an output they
fail and the evaluator is not asked. Later they look at the output of the latest step that made one,
whatever other steps followed, and the evaluator is asked about that output and the task of that
step. -/
theorem checks_see_latest_output {cls : Class} (evaluator : Evaluator) (steps : List Step)
    (log : Requests) (ready : (cls.setUp cls.fresh).1 = none)
    (ran : ((cls.setUp cls.fresh).2.performAll (some evaluator) steps log).1 = .done) :
    let start := (cls.setUp cls.fresh).2
    let last := (start.performAll (some evaluator) steps log).2.1
    ((∀ step ∈ steps, step.makesOutput = false) → Unanswered evaluator last) ∧
    ∀ before maker between, steps = before ++ maker :: between → maker.makesOutput →
      (∀ step ∈ between, step.makesOutput = false) →
      let there := start.performAll (some evaluator) before log
      there.1 = .done ∧ ∃ request,
        Poses cls there.2.1 maker request ∧ Answered evaluator last request := by
  intro start last
  have staged : Ready cls start := Class.setUp_ready ready
  have whole : start.performAll (some evaluator) steps log =
      (.done, last, (start.performAll (some evaluator) steps log).2.2) := Prod.ext ran rfl
  constructor
  · intro quiet
    have latest := congrArg Prod.fst (Instance.performAll_keeps_latest quiet whole)
    exact unanswered (latest.trans staged.staged.outputText?_eq)
  · rintro before maker between rfl makes quiet
    exact Instance.answered_after staged whole makes quiet

/-- A crew that is run twice, with a reset and a check after the second run. -/
theorem checks_see_latest_output_kickoffs :
    let cls : Class := {
      name := "Desk", kind := .crew
      agents := [{ role := "Writer", responses := ["draft", "text"] }]
      tasks := [{ description := "Plan", agent := "Editor" },
        { description := "Write \x7btopic\x7d" }] }
    let before : List Step := [.kickoff [("topic", "tea")], .assert ⟨.quality 5, none⟩]
    let between : List Step := [.simulate none ⟨"search", [], .null⟩, .reset,
      .assert ⟨.quality 5, none⟩]
    let steps := before ++ .kickoff [("topic", "milk")] :: between
    let start := (cls.setUp cls.fresh).2
    let last := (start.performAll (some (.fixed ⟨none, ""⟩)) steps []).2.1
    let there := start.performAll (some (.fixed ⟨none, ""⟩)) before []
    (cls.setUp cls.fresh).1 = none ∧
      (start.performAll (some (.fixed ⟨none, ""⟩)) steps []).1 = .done ∧ there.1 = .done ∧
      ∃ request, Poses cls there.2.1 (.kickoff [("topic", "milk")]) request ∧
        Answered (.fixed ⟨none, ""⟩) last request :=
  ⟨by rfl, by rfl,
    (checks_see_latest_output (.fixed ⟨none, ""⟩) _ [] (by rfl) (by rfl)).2 _ _ _ rfl rfl
      (by decide)⟩

end Fixture

end Rehearsal
