import Mathlib
import Rehearsal.Discovery.Discoverer
import Rehearsal.Fixture.Loader
import Rehearsal.Proofs.Fixture.Performing
import Rehearsal.Runner

/-! # Declared tests and their records

A module declares tests by position, and an instance of a class looks them up by name. So the record
of a declared test says how the first test of its name ends in its class. It speaks for the test
itself if no other test of the class has the name.
-/

namespace Rehearsal

variable {ι σ : Type}

/-- What the record of each unit says from whatever state it is run, the records of a run say. -/
theorem Runner.runUnits_says (runner : Runner) {α : Type} {make : α → TestUnit ι σ}
    {Says : α → Record → Prop} {items : List α}
    (each : ∀ item ∈ items, ∀ state, Says item ((make item).record ((make item).execute state).1))
    (state : σ) : List.Forall₂ Says items (runner.runUnits (items.map make) state).1.1 := by
  induction items generalizing state with
  | nil => exact .nil
  | cons item rest ih =>
      obtain ⟨first, others⟩ := List.forall_mem_cons.mp each
      exact .cons (first state) (ih others _)

namespace Fixture

/-- How a test with these steps ends: the class is set up anew, and the steps are performed on it. -/
def Class.outcome (cls : Class) (evaluator : Option Evaluator) (steps : List Step) : Outcome :=
  match cls.setUp cls.fresh with
  | (some fault, _) => .ofFault fault
  | (none, inst) => outcomeOf ((inst.performAll evaluator steps []).1.fault? .body) none

/-- The tests of agents and crews that a module declares under names that start with a text, each
with its class. -/
def Module.declared (module : Module) (methodPrefix : String) : List (Class × Test) :=
  (module.classes.filter (·.kind ≠ .other)).flatMap fun cls =>
    (cls.tests.filter fun test => methodPrefix.toList.isPrefixOf test.name.toList).map (cls, ·)

/-- The unit that discovery makes of a declared test. -/
def unitOf (evaluator : Option Evaluator) (declared : Class × Test) :
    TestUnit Instance Requests :=
  ⟨declared.1.toTestClass evaluator, declared.2.name⟩

theorem Kind.category_eq_other (kind : Kind) : kind.category = .other ↔ kind = .other := by
  cases kind <;> simp [category]

/-- A unit ends as the first test of its name does, whatever the evaluator was asked before. -/
theorem Class.execute_outcome {cls : Class} {evaluator : Option Evaluator} {method : String}
    {test : Test} (found : cls.tests.find? (·.name == method) = some test) (asked : Requests) :
    (TestUnit.execute ⟨cls.toTestClass evaluator, method⟩ asked).1 =
      { outcome := cls.outcome evaluator test.steps } := by
  rcases ready : cls.setUp cls.fresh with ⟨_ | fault, inst⟩
  · rcases ran : inst.performAll evaluator test.steps [] with ⟨ending, used, requests⟩
    have later : inst.performAll evaluator test.steps asked = _ :=
      Instance.performAll_log test.steps inst asked
    simp only [ran] at later
    simp [TestUnit.execute, TestUnit.tearDown, toTestClass, run, outcome, ready, found, ran, later,
      Ending.fault?]
  · simp [TestUnit.execute, TestUnit.tearDown, toTestClass, outcome, ready, Ending.fault?]

/-- The classes of a module contribute one unit for each declared test. -/
theorem unitsOf_classes (loader : Loader) (discoverer : Discoverer Instance Requests)
    (module : Module) :
    discoverer.unitsOf (loader.classes module) =
      (module.declared discoverer.methodPrefix).map (unitOf loader.evaluator) := by
  have kept : ((fun cls : TestClass Instance Requests => cls.category != .other) ∘
      fun cls : Class => cls.toTestClass loader.evaluator) = fun cls => decide (cls.kind ≠ .other) := by
    funext cls
    simp [Class.toTestClass, bne, Kind.category_eq_other, Bool.beq_eq_decide_eq]
  simp only [Discoverer.unitsOf, Loader.classes, List.filter_map, kept, List.flatMap_map,
    Module.declared, List.map_flatMap]
  refine List.flatMap_congr fun cls _ => ?_
  simp only [TestClass.units, Class.toTestClass, List.filter_map, List.map_map]
  rfl

/-- What a record says of a declared test: how the first test of its name ends in its class. -/
structure Reported (evaluator : Option Evaluator) (declared : Class × Test) (record : Record) :
    Prop where
  unitId : record.unitId = declared.1.name ++ "." ++ declared.2.name
  category : record.category = declared.1.kind.category
  teardownFault : record.teardownFault = none
  outcome : ∃ first, declared.1.tests.find? (·.name == declared.2.name) = some first ∧
    record.outcome = declared.1.outcome evaluator first.steps
  /-- Its own steps count if they are those of every test of its name. -/
  own : (∀ other ∈ declared.1.tests, other.name = declared.2.name → other = declared.2) →
    record.outcome = declared.1.outcome evaluator declared.2.steps

theorem Module.mem_declared {module : Module} {methodPrefix : String} {declared : Class × Test}
    (member : declared ∈ module.declared methodPrefix) : declared.2 ∈ declared.1.tests := by
  obtain ⟨cls, -, inside⟩ := List.mem_flatMap.mp member
  obtain ⟨test, kept, rfl⟩ := List.mem_map.mp inside
  exact (List.mem_filter.mp kept).1

theorem Class.find_first {cls : Class} {test : Test} (member : test ∈ cls.tests) :
    ∃ first, cls.tests.find? (·.name == test.name) = some first ∧ first ∈ cls.tests ∧
      first.name = test.name := by
  obtain ⟨first, found⟩ := Option.isSome_iff_exists.mp
    (List.find?_isSome (p := (·.name == test.name)).mpr ⟨test, member, by simp⟩)
  exact ⟨first, found, List.mem_of_find?_eq_some found, by simpa using List.find?_some found⟩

/-- A declared test has the record of the first test of its name. -/
theorem reported {evaluator : Option Evaluator} {declared : Class × Test}
    (member : declared.2 ∈ declared.1.tests) (asked : Requests) :
    Reported evaluator declared
      ((unitOf evaluator declared).record ((unitOf evaluator declared).execute asked).1) := by
  obtain ⟨first, found, inside, named⟩ := Class.find_first member
  have ended : ((unitOf evaluator declared).execute asked).1 = _ :=
    Class.execute_outcome found asked
  have outcome := congrArg Verdicts.outcome ended
  exact {
    unitId := rfl
    category := rfl
    teardownFault := congrArg Verdicts.teardownFault ended
    outcome := ⟨first, found, outcome⟩
    own := fun alone => alone first inside named ▸ outcome }

theorem textOf_toUTF8 (text : String) : textOf text.toUTF8 = .ok text := by
  simp [textOf, String.fromUTF8?, String.fromUTF8, text.isValidUTF8]

/-- A file that holds the text of a module is read as the module. -/
theorem readModule_of_text {source : SourceFile} (text : String) {module : Module}
    (contents : source.contents = text.toUTF8)
    (decoded : (Json.Codec.decode text : Except _ Module) = .ok module) :
    Loader.readModule source = .ok module := by
  simp only [Loader.readModule, contents, textOf_toUTF8, decoded]

section OneModule

variable (loader : Loader) {discoverer : Discoverer Instance Requests} {root : String} {tree : Tree}
variable {leaf : Tree.Leaf} {module : Module}

/-- A directory in which one file is looked at, which holds a module. -/
theorem discover_units (loads : discoverer.loader = loader.load) (directory : tree.isDirectory)
    (only : tree.leaves.filter discoverer.selects = [leaf])
    (holds : Loader.readModule (Discoverer.source root leaf) = .ok module) :
    (discoverer.discover root tree).units =
      (module.declared discoverer.methodPrefix).map (unitOf loader.evaluator) := by
  have once : discoverer.found tree = [leaf] := by
    rw [Discoverer.found, only]
    rfl
  simp only [Discoverer.discover, directory, if_true, once, List.map_cons, List.map_nil,
    Discoverer.assemble, Discoverer.load, loads, Loader.load, holds, Except.map,
    List.flatMap_cons, List.flatMap_nil, List.append_nil, unitsOf_classes]

theorem run_reported (runner : Runner) {suite : Suite Instance Requests} {methodPrefix : String}
    (discovered : suite.units = (module.declared methodPrefix).map (unitOf loader.evaluator))
    (asked : Requests) :
    List.Forall₂ (Reported loader.evaluator) (module.declared methodPrefix)
      (runner.run suite asked).1.1.records := by
  rw [Runner.run, discovered]
  exact runner.runUnits_says (fun _ member asked => reported (Module.mem_declared member) asked) asked

end OneModule

/-- Running what is discovered in a directory with one module gives one record for each test that
the module declares, in order, and none other. -/
theorem run_declared_tests (loader : Loader) (runner : Runner)
    (discoverer : Discoverer Instance Requests) (root : String) (tree : Tree) (leaf : Tree.Leaf)
    (module : Module) (asked : Requests) (loads : discoverer.loader = loader.load)
    (directory : tree.isDirectory) (only : tree.leaves.filter discoverer.selects = [leaf])
    (holds : Loader.readModule (Discoverer.source root leaf) = .ok module) :
    List.Forall₂ (Reported loader.evaluator) (module.declared discoverer.methodPrefix)
      (runner.run (discoverer.discover root tree) asked).1.1.records :=
  run_reported loader runner (discover_units loader loads directory only holds) asked

/-! A file that declares a class with two tests of one name: the first does nothing, and the second
raises a fault. -/

namespace Twins

def text : String :=
  "\x7b\"classes\":[\x7b\"name\":\"D\",\"kind\":\"agent\",\"agents\":[\x7b\"role\":\"W\"\x7d]," ++
    "\"tests\":[\x7b\"name\":\"t\"\x7d,\x7b\"name\":\"t\",\"steps\":[\x7b\"type\":\"kickoff\"\x7d]\x7d]\x7d]\x7d"

def cls : Class where
  name := "D"
  kind := .agent
  agents := [{ role := "W" }]
  tests := [⟨"t", []⟩, ⟨"t", [.kickoff []]⟩]

def leaf : Tree.Leaf := ⟨["t.json"], text.toUTF8⟩

def tree : Tree := .directory [("t.json", .file text.toUTF8)]

def discoverer : Discoverer Instance Requests := ⟨Loader.load {}, ⟨"*", [.anyText]⟩, "t"⟩

theorem leaves_eq : tree.leaves.filter discoverer.selects = [leaf] := by
  have selected : discoverer.selects leaf = true := by decide
  have leaves : tree.leaves = [leaf] := by simp [tree, Tree.leaves, Tree.leavesEach, leaf]
  rw [leaves, List.filter_cons_of_pos selected, List.filter_nil]

theorem decode_text : (Json.Codec.decode text : Except _ Module) = .ok { classes := [cls] } := by
  cbv

theorem readModule_eq :
    Loader.readModule (Discoverer.source "tests" leaf) = .ok { classes := [cls] } :=
  readModule_of_text text (by rw [Discoverer.source, leaf]) decode_text

end Twins

/-- Both tests of one name have a record. -/
theorem run_declared_tests_twins :
    Twins.discoverer.loader = Loader.load {} ∧ Twins.tree.isDirectory ∧
      Twins.tree.leaves.filter Twins.discoverer.selects = [Twins.leaf] ∧
      Loader.readModule (Discoverer.source "tests" Twins.leaf) = .ok { classes := [Twins.cls] } ∧
      List.Forall₂ (Reported none) (Module.declared { classes := [Twins.cls] } "t")
        (Runner.run {} (Twins.discoverer.discover "tests" Twins.tree) []).1.1.records :=
  ⟨rfl, rfl, Twins.leaves_eq, Twins.readModule_eq,
    run_declared_tests {} {} Twins.discoverer "tests" Twins.tree Twins.leaf _ [] rfl rfl
      Twins.leaves_eq Twins.readModule_eq⟩

/-- The second of two tests of one name is not run: the first is run in its place, and passes where
the second would not. -/
theorem declared_test_not_run :
    ¬∀ (loader : Loader) (runner : Runner) (discoverer : Discoverer Instance Requests)
      (root : String) (tree : Tree) (leaf : Tree.Leaf) (module : Module) (asked : Requests),
      discoverer.loader = loader.load → tree.isDirectory →
      tree.leaves.filter discoverer.selects = [leaf] →
      Loader.readModule (Discoverer.source root leaf) = .ok module →
      List.Forall₂ (fun declared record =>
          record.outcome = declared.1.outcome loader.evaluator declared.2.steps)
        (module.declared discoverer.methodPrefix)
        (runner.run (discoverer.discover root tree) asked).1.1.records := by
  intro every
  have own := every {} {} Twins.discoverer "tests" Twins.tree Twins.leaf _ [] rfl rfl
    Twins.leaves_eq Twins.readModule_eq
  have first : List.Forall₂ (Reported none) _
      (Runner.run {} (Twins.discoverer.discover "tests" Twins.tree) []).1.1.records :=
    run_reported {} {} (discover_units {} rfl rfl Twins.leaves_eq Twins.readModule_eq) []
  have twice : Module.declared { classes := [Twins.cls] } Twins.discoverer.methodPrefix =
      [(Twins.cls, ⟨"t", []⟩), (Twins.cls, ⟨"t", [.kickoff []]⟩)] := rfl
  rw [twice] at own first
  generalize (Runner.run {} (Twins.discoverer.discover "tests" Twins.tree) []).1.1.records =
    records at own first
  obtain _ | ⟨_, _ | ⟨wanted, _⟩⟩ := own
  obtain _ | ⟨_, _ | ⟨actual, _⟩⟩ := first
  obtain ⟨test, found, outcome⟩ := actual.outcome
  obtain rfl : (⟨"t", []⟩ : Test) = test := Option.some.inj found
  have passes : Twins.cls.outcome none [] = .success := rfl
  have fails : Twins.cls.outcome none [.kickoff []] =
      .error "Kickoff steps need a crew class" := rfl
  rw [outcome, passes] at wanted
  cases wanted.trans fails

end Fixture

end Rehearsal
