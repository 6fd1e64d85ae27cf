import Rehearsal.Proofs.Discovery.Visits
import Rehearsal.Proofs.Fixture.Declared
import Rehearsal.Proofs.Fixture.Reached

/-! # Work that never faults

A class whose set-up raises no fault has an agent to execute tasks, or a crew of agents with tasks of
their own, and no step takes them away. So in the tests of discovered classes the steps that are the
work of their class never raise a fault, whatever was done before them: a test stops at a check, or
at a step that is not for its class or names something that is not there. Nor does tearing down.
-/

namespace Rehearsal

namespace Fixture

/-- The steps that are the work of a class of this kind. -/
def Kind.works : Kind → Step → Bool
  | .crew, .kickoff _ => true
  | .agent, .execute _ _ | .other, .execute _ _ => true
  | _, _ => false

/-- An instance with all that the work of its class takes, so that the work gets done. -/
inductive Staffed (cls : Class) : Instance → Prop where
  /-- The agent has a response for every task. -/
  | agent {case : AgentCase} {agent : Agent} {tools : Toolbox} : cls.kind ≠ .crew →
      case.agent = some agent →
      (∀ description expectedOutput,
        let task : Task := ⟨description, expectedOutput, some agent.role⟩
        agent.queue.responses[agent.queue.taken % agent.queue.responses.length]? =
            some (agent.execute task).1.raw ∧
          Instance.execute ⟨.agent case, tools⟩ description expectedOutput =
            .ok ⟨.agent (case.answered agent task), tools⟩) →
      Staffed cls ⟨.agent case, tools⟩
  /-- Each task of the crew goes to an agent that is there and has a response for it, or fails for
  itself. -/
  | crew {case : CrewCase} {crew : Crew} {tools : Toolbox} : cls.kind = .crew →
      case.crew = some crew → crew.agents ≠ [] → crew.tasks ≠ [] →
      (∀ inputs, ∃ output after, crew.Account [inputs] [output] after ∧
        Instance.kickoff ⟨.crew case, tools⟩ inputs = .ok ⟨.crew (case.ran after output), tools⟩) →
      Staffed cls ⟨.crew case, tools⟩

/-- The steps of a test were performed, up to one that is not the work of its class if any raised a
fault. -/
structure Unhindered (cls : Class) (evaluator : Option Evaluator) (steps : List Step)
    (ending : Ending) : Prop where
  staffed : ∀ count,
    Staffed cls ((cls.setUp cls.fresh).2.performAll evaluator (steps.take count) []).2.1
  ends : ending = .done ∨ ∃ step fault, ending = .fault fault ∧ cls.kind.works step = false ∧
    StopsAt evaluator (cls.setUp cls.fresh).2 steps step fault

/-- What is called for a declared test: its class lacks something that it is set up from, or the test
is found and its steps are performed. -/
inductive Conducted (cls : Class) (evaluator : Option Evaluator) (method : String) :
    List HookCall → Prop where
  | lacking {problem : String} : cls.Lacks (.error problem) →
      Conducted cls evaluator method
        [.construct none, .setUp (.fault (.error problem)), .tearDown .done]
  | performed {test : Test} {ending : Ending} : cls.Complete →
      cls.tests.find? (·.name == method) = some test →
      Unhindered cls evaluator test.steps ending →
      Conducted cls evaluator method
        [.construct none, .setUp .done, .run method ending, .tearDown .done]

section Work

variable {cls : Class} {inst : Instance}

theorem execute_answered {case : AgentCase} {agent : Agent} (present : case.agent = some agent)
    (tools : Toolbox) (description : String) (expectedOutput : Option String) :
    Instance.execute ⟨.agent case, tools⟩ description expectedOutput =
      .ok ⟨.agent (case.answered agent ⟨description, expectedOutput, some agent.role⟩), tools⟩ := by
  simp only [Instance.execute, AgentCase.createTask, AgentCase.execute, AgentCase.requireAgent,
    present]
  rfl

theorem kickoff_ran {case : CrewCase} {crew after : Crew} {inputs : Inputs} {output : CrewOutput}
    (built : case.crew = some crew) (run : crew.kickoff inputs = .ok (output, after))
    (tools : Toolbox) : Instance.kickoff ⟨.crew case, tools⟩ inputs =
      .ok ⟨.crew (case.ran after output), tools⟩ := by
  simp only [Instance.kickoff, CrewCase.execute, built, run]
  rfl

/-- An instance that comes from a complete class is staffed, whatever was done with it. -/
theorem Ready.staffed (ready : Ready cls inst.origin) (complete : cls.Complete) :
    Staffed cls inst := by
  obtain ⟨scaffold, tools⟩ := inst
  cases scaffold with
  | agent case =>
      obtain ⟨single, before, origin⟩ := Staged.agent_eq ready.staged
      have kept : case.agent.map Agent.reset = some before := congrArg AgentCase.agent origin
      obtain ⟨agent, present, -⟩ := Option.map_eq_some_iff.mp kept
      refine .agent single present fun description expectedOutput => ⟨?_, ?_⟩
      · exact agent.queue.getElem?_current
      · exact execute_answered present tools description expectedOutput
  | crew case =>
      obtain ⟨-, several, -⟩ := ready.staged.crew_eq
      obtain ⟨crew, built, tasks⟩ := ready.crew_built
      have agents : crew.agents ≠ [] := by
        intro none
        have roles := ready.roles_eq
        simp [Scaffold.agents, built, none, Class.roles, Class.cast, several, complete.agents] at roles
      have filled : crew.tasks ≠ [] := by
        rw [tasks, Class.assigned, ne_eq, List.map_eq_nil_iff]
        exact complete.tasks several
      refine .crew several built agents filled fun inputs => ?_
      obtain ⟨output, after, run, account⟩ := crew.kickoff_account inputs filled
      exact ⟨output, after, account, kickoff_ran built run tools⟩

theorem Staffed.works {step : Step} (staffed : Staffed cls inst) (evaluator : Option Evaluator)
    (own : cls.kind.works step = true) : ∃ next, (inst.perform evaluator step).1 = .ok next := by
  cases staffed with
  | agent single present executes =>
      cases step with
      | execute description expectedOutput => exact ⟨_, (executes description expectedOutput).2⟩
      | kickoff | callTool | simulate | reset | assert =>
          cases kind : cls.kind with
          | crew => exact absurd kind single
          | agent | other =>
              rw [kind] at own
              cases own
  | crew several built agents tasks runs =>
      rw [several] at own
      cases step with
      | kickoff inputs =>
          obtain ⟨output, after, -, done⟩ := runs inputs
          exact ⟨_, done⟩
      | execute | callTool | simulate | reset | assert => cases own

end Work

section Conducted

variable {cls : Class} {evaluator : Option Evaluator}

theorem Reached.staffed {inst : Instance} (reached : Reached cls evaluator inst)
    (complete : cls.Complete) : Staffed cls inst :=
  reached.ready.staffed complete

theorem StopsAt.not_works {start : Instance} {steps : List Step} {step : Step} {fault : Fault}
    (stops : StopsAt evaluator start steps step fault) (reached : Reached cls evaluator start)
    (complete : cls.Complete) : cls.kind.works step = false := by
  obtain ⟨earlier, later, -, -, raised⟩ := stops
  by_contra own
  have staffed := (reached.performAll earlier []).staffed complete
  obtain ⟨next, done⟩ := staffed.works evaluator (Bool.not_eq_false _ ▸ own)
  cases done.symm.trans raised

theorem unhindered (done : (cls.setUp cls.fresh).1 = none) (complete : cls.Complete)
    (steps : List Step) :
    Unhindered cls evaluator steps
      ((cls.setUp cls.fresh).2.performAll evaluator steps []).1 where
  staffed := by
    intro count
    exact ((Reached.fresh cls evaluator done).performAll (steps.take count) []).staffed complete
  ends := by
    rcases performAll_stops evaluator steps (cls.setUp cls.fresh).2 with
      ran | ⟨step, fault, ended, stops⟩
    · exact .inl ran
    · exact .inr ⟨step, fault, ended, stops.not_works (.fresh cls evaluator done) complete, stops⟩

/-- By whether the class can be set up, a declared test takes one course from every state. -/
theorem conducted (evaluator : Option Evaluator) {test : Test} (declared : test ∈ cls.tests) :
    ∃ course : Course,
      (∀ asked, TestUnit.Takes ⟨cls.toTestClass evaluator, test.name⟩ asked course) ∧
      course.teardownFault = none ∧
      Conducted cls evaluator test.name (course.calls test.name) := by
  rcases cls.setUp_fresh with ⟨done, complete⟩ | ⟨fault, failed, lacks⟩
  · obtain ⟨first, found, -, -⟩ := Class.find_first declared
    refine ⟨_, Class.takes_ran evaluator done found, rfl, ?_⟩
    exact .performed complete found (unhindered done complete first.steps)
  · obtain ⟨problem, rfl⟩ := lacks.error
    exact ⟨_, Class.takes_notSetUp evaluator failed test.name, rfl, .lacking lacks⟩

end Conducted

theorem declared_of_mem_discover {loader : Loader} {discoverer : Discoverer Instance Requests}
    {root : String} {tree : Tree} (loads : discoverer.loader = loader.load)
    {unit : TestUnit Instance Requests} (member : unit ∈ (discoverer.discover root tree).units) :
    ∃ leaf ∈ tree.leaves, ∃ module, Loader.readModule (Discoverer.source root leaf) = .ok module ∧
      ∃ declared ∈ module.declared discoverer.methodPrefix,
        unit = unitOf loader.evaluator declared := by
  unfold Discoverer.discover at member
  split at member
  · obtain ⟨loaded, inside, own⟩ := List.mem_flatMap.mp member
    obtain ⟨leaf, selected, rfl⟩ := List.mem_map.mp inside
    refine ⟨leaf, Discoverer.mem_leaves_of_found selected, ?_⟩
    rw [Discoverer.load, loads, Loader.load] at own
    cases held : Loader.readModule (Discoverer.source root leaf) with
    | error problem =>
        rw [held] at own
        cases own
    | ok module =>
        rw [held] at own
        simp only [Except.map, unitsOf_classes] at own
        obtain ⟨declared, among, rfl⟩ := List.mem_map.mp own
        exact ⟨module, rfl, declared, among, rfl⟩
  · cases member

/-- In a run of what is discovered in a directory each unit is a test that a module declares. It is
found in its class, and conducted without a fault of the work of the class and without a fault of the
tear-down. -/
theorem work_never_faults (loader : Loader) (runner : Runner)
    (discoverer : Discoverer Instance Requests) (root : String) (tree : Tree) (asked : Requests)
    (loads : discoverer.loader = loader.load) :
    let suite := discoverer.discover root tree
    ∀ before unit after, suite.units = before ++ unit :: after →
      ∃ leaf ∈ tree.leaves, ∃ module cls test,
        Loader.readModule (Discoverer.source root leaf) = .ok module ∧
        (cls, test) ∈ module.declared discoverer.methodPrefix ∧
        unit = unitOf loader.evaluator (cls, test) ∧
        Conducted cls loader.evaluator test.name
          (callsAt before.length (runner.run suite.logged (asked, [])).2.2) ∧
        ∃ record, (runner.run suite asked).1.1.records[before.length]? = some record ∧
          record.unitId = cls.name ++ "." ++ test.name ∧ record.teardownFault = none := by
  intro suite before unit after split
  have member : unit ∈ suite.units := by
    rw [split]
    exact List.mem_append_right before List.mem_cons_self
  obtain ⟨leaf, inside, module, held, ⟨cls, test⟩, declared, rfl⟩ :=
    declared_of_mem_discover loads member
  obtain ⟨course, takes, torn, conducted⟩ :=
    conducted loader.evaluator (Module.mem_declared declared)
  obtain ⟨calls, record⟩ := runner.run_course before after suite.loadFaults asked takes
  have whole : suite = ⟨before ++ unitOf loader.evaluator (cls, test) :: after, suite.loadFaults⟩ := by
    rw [← split]
  refine ⟨leaf, inside, module, cls, test, held, declared, rfl, ?_,
    TestUnit.record (unitOf loader.evaluator (cls, test)) course.verdicts, ?_, rfl, torn⟩
  · rw [whole]
    exact calls ▸ conducted
  · rw [whole]
    exact record

/-! A file that declares a crew, and a test that runs the crew again after a reset. -/

namespace Session

def text : String :=
  "\x7b\"classes\":[\x7b\"name\":\"D\",\"kind\":\"crew\",\"agents\":[\x7b\"role\":\"W\"\x7d]," ++
    "\"tasks\":[\x7b\"description\":\"P\"\x7d],\"tests\":[\x7b\"name\":\"t\",\"steps\":[" ++
    "\x7b\"type\":\"kickoff\"\x7d,\x7b\"type\":\"reset\"\x7d,\x7b\"type\":\"kickoff\"\x7d]\x7d]\x7d]\x7d"

def test : Test := ⟨"t", [.kickoff [], .reset, .kickoff []]⟩

def cls : Class where
  name := "D"
  kind := .crew
  agents := [{ role := "W" }]
  tasks := [{ description := "P" }]
  tests := [test]

def leaf : Tree.Leaf := ⟨["t.json"], text.toUTF8⟩

def tree : Tree := .directory [("t.json", .file text.toUTF8)]

def discoverer : Discoverer Instance Requests := ⟨Loader.load {}, ⟨"*", [.anyText]⟩, "t"⟩

theorem leaves_eq : tree.leaves.filter discoverer.selects = [leaf] := by
  have selected : discoverer.selects leaf = true := by decide
  have leaves : tree.leaves = [leaf] := by simp [tree, Tree.leaves, Tree.leavesEach, leaf]
  rw [leaves, List.filter_cons_of_pos selected, List.filter_nil]

theorem decode_text : (Json.Codec.decode text : Except _ Module) = .ok { classes := [cls] } := by
  cbv

theorem readModule_eq :
    Loader.readModule (Discoverer.source "tests" leaf) = .ok { classes := [cls] } :=
  readModule_of_text text (by rw [Discoverer.source, leaf]) decode_text

theorem units_eq :
    (discoverer.discover "tests" tree).units = [] ++ unitOf none (cls, test) :: [] :=
  discover_units {} rfl rfl leaves_eq readModule_eq

end Session

theorem work_never_faults_session :
    let suite := Session.discoverer.discover "tests" Session.tree
    Session.discoverer.loader = Loader.load {} ∧
      suite.units = [] ++ unitOf none (Session.cls, Session.test) :: [] ∧
      ∃ leaf ∈ Session.tree.leaves, ∃ module cls test,
        Loader.readModule (Discoverer.source "tests" leaf) = .ok module ∧
        (cls, test) ∈ module.declared "t" ∧
        unitOf none (Session.cls, Session.test) = unitOf none (cls, test) ∧
        Conducted cls none test.name (callsAt 0 (Runner.run {} suite.logged ([], [])).2.2) ∧
        ∃ record, (Runner.run {} suite []).1.1.records[0]? = some record ∧
          record.unitId = cls.name ++ "." ++ test.name ∧ record.teardownFault = none :=
  ⟨rfl, Session.units_eq,
    work_never_faults {} {} Session.discoverer "tests" Session.tree [] rfl [] _ []
      Session.units_eq⟩

end Fixture

end Rehearsal
