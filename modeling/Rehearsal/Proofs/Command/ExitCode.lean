import Rehearsal.Command.Desk
import Rehearsal.Proofs.Discovery.Visits
import Rehearsal.Proofs.Files.Writing
import Rehearsal.Proofs.Fixture.Declared
import Rehearsal.Proofs.Runner.Lifecycle

/-! # The exit code of a run

What the command does to a desk is followed act by act. Saying and logging change no file, so that a
run is told by what it looks up, by the tests that it runs and by the report that it writes. The
report is looked up afterwards as the tests were before.
-/

namespace Rehearsal

/-! ### Files that cannot be loaded -/

namespace Discoverer

variable {ι σ : Type} {discoverer : Discoverer ι σ} {root : String}

/-- Whether a directory holds the test files of another, and besides them only such as cannot be
    loaded. -/
structure Adds (discoverer : Discoverer ι σ) (root : String) (tree fuller : Tree) : Prop where
  kept : ∀ file, discoverer.Finds root tree file → discoverer.Finds root fuller file
  added : ∀ file, discoverer.Finds root fuller file →
    discoverer.Finds root tree file ∨ (discoverer.fault? file).isSome

theorem contribution_of_fault {file : SourceFile} (faulty : (discoverer.fault? file).isSome) :
    discoverer.contribution file = [] := by
  unfold fault? at faulty
  unfold contribution
  cases loaded : discoverer.loader file with
  | error e => rfl
  | ok classes => simp [loaded] at faulty

/-- Files that cannot be loaded may be left out from the start. -/
theorem flatMap_contribution (files : List SourceFile) :
    files.flatMap discoverer.contribution =
      (files.filter fun file => (discoverer.fault? file).isNone).flatMap
        discoverer.contribution := by
  induction files with
  | nil => rfl
  | cons file rest ih =>
      by_cases faulty : (discoverer.fault? file).isSome
      · have out : (discoverer.fault? file).isNone = false := by simpa using faulty
        rw [List.flatMap_cons, contribution_of_fault faulty, List.filter_cons, out, ih]
        rfl
      · have kept : (discoverer.fault? file).isNone = true := by simpa using faulty
        rw [List.filter_cons, if_pos kept, List.flatMap_cons, List.flatMap_cons, ih]

/-- What is left of two directories is sorted in the same way, and the same. -/
theorem Adds.units_eq {tree fuller : Tree} (adds : Adds discoverer root tree fuller)
    (directory : tree.isDirectory) (proper : tree.Proper)
    (directory' : fuller.isDirectory) (proper' : fuller.Proper) :
    (discoverer.discover root fuller).units = (discoverer.discover root tree).units := by
  have sorted := pairwise_visited discoverer root directory proper
  have sorted' := pairwise_visited discoverer root directory' proper'
  have loaded :
      (discoverer.visited root fuller).filter (fun file => (discoverer.fault? file).isNone) =
        (discoverer.visited root tree).filter fun file => (discoverer.fault? file).isNone := by
    refine (sorted'.filter _).eq_of_mem_iff (sorted.filter _) fun file => ?_
    simp only [List.mem_filter, mem_visited proper, mem_visited proper', and_congr_left_iff]
    intro loads
    refine ⟨fun found => (adds.added file found).resolve_right fun faulty => ?_, adds.kept file⟩
    rw [Option.isNone_iff_eq_none.mp loads] at faulty
    cases faulty
  rw [discover_eq directory, discover_eq directory']
  simp only
  rw [flatMap_contribution, loaded, ← flatMap_contribution]

end Discoverer

/-! ### Records -/

theorem RunResult.exitCode_eq (records : List Record) :
    (RunResult.ofRecords records).exitCode =
      if ∀ record ∈ records, record.outcome = .success then 0 else 1 := by
  have each (record : Record) : record.outcome = .success ↔
      record.failureEntry = none ∧ record.errorEntry = none := by
    cases outcome : record.outcome <;> simp [Record.failureEntry, Record.errorEntry, outcome]
  simp only [exitCode, Summary.wasSuccessful, ofRecords, Summary.ofRecords, Bool.and_eq_true,
    beq_iff_eq, List.length_eq_zero_iff, List.filterMap_eq_nil_iff, each, forall_and]

namespace Command

open Fixture (Loader Instance Requests)

/-! ### What a run amounts to -/

section Run

variable (desk : Desk) (config : Config) (discoverer : Discoverer Instance Requests)

/-- What a run needs to find its tests and to report. -/
structure Ready (arguments : List String) : Prop where
  configured : ∃ options base, parse arguments = .ok (.run options) ∧
    Config.load options.configFile (desk.look (Config.fileFor options.configFile)) = .ok base ∧
    options.apply base = config
  patterned :
    Discoverer.ofPattern (Loader.load {}) config.pattern config.methodPrefix = .ok discoverer
  writable : config.report → ∀ text, ∃ left, desk.write config.reportFile text = .ok left

/-- The units that are discovered in the test directory, if there is one. -/
def unitsFound : List (TestUnit Instance Requests) :=
  match desk.look config.testDir with
  | .error _ => []
  | .ok tree => (discoverer.discover config.testDir tree).units

/-- The records of running units one after another. -/
def recordsOf (units : List (TestUnit Instance Requests)) : List Record :=
  (Runner.runUnits ⟨config.verbosity⟩ units []).1.1

/-- The report of running them. -/
def reportOf (units : List (TestUnit Instance Requests)) : String :=
  Report.html (.ofRecords (recordsOf config units))

end Run

theorem unitId_recordsOf (config : Config) (units : List (TestUnit Instance Requests)) :
    (recordsOf config units).map (·.unitId) = units.map (·.id) := by
  have named := Runner.runUnits_records ⟨config.verbosity⟩ units []
  simpa only [recordsOf, List.map_map, Function.comp_def] using congrArg (List.map Prod.fst) named

/-! ### Acts on a desk -/

/-- Whether an act, on any desk with this home and these files, comes to a result and leaves the
    desk with the same home and those files. -/
def Ends {α : Type} (act : StateM Desk α) (home : List String) (files : Tree) (result : α)
    (left : Tree) : Prop :=
  ∀ desk : Desk, desk.home = home ∧ desk.files = files →
    (act.run desk).1 = result ∧ (act.run desk).2.home = home ∧ (act.run desk).2.files = left

theorem Desk.run_write (desk : Desk) (path text : String) :
    (system.write path text).run desk =
      match desk.write path text with
      | .error problem => (.error problem, desk)
      | .ok files => (.ok (), { desk with files }) := by
  simp only [system, StateT.run_bind, StateT.run_get, pure_bind]
  cases desk.write path text <;> rfl

namespace Ends

variable {α β : Type} {home : List String} {files middle left : Tree} {a : α} {b : β}

theorem pure : Ends (Pure.pure a) home files a files :=
  fun _ here => ⟨rfl, here⟩

theorem bind {act : StateM Desk α} {next : α → StateM Desk β} (first : Ends act home files a middle)
    (second : Ends (next a) home middle b left) : Ends (act >>= next) home files b left := by
  intro desk here
  obtain ⟨value, there⟩ := first desk here
  have later := second _ there
  rwa [← value] at later

theorem say (text : String) : Ends (Desk.system.say text) home files () files :=
  fun _ here => ⟨rfl, here⟩

theorem sayLines (lines : List String) : Ends (Desk.system.sayLines lines) home files () files :=
  say _

theorem logs (lines : List LogLine) : Ends (lines.forM Desk.system.log) home files () files := by
  induction lines with
  | nil => exact pure
  | cons line rest ih => exact bind (fun _ here => ⟨rfl, here⟩) ih

theorem logAll (config : Config) (lines : List LogLine) :
    Ends (Desk.system.logAll config lines) home files () files :=
  logs _

theorem timed {α : Type} (test : Unit → α) :
    Ends (Desk.system.timed test) home files (test (), .zero) files :=
  fun _ here => ⟨rfl, here⟩

theorem look (path : String) :
    Ends (Desk.system.look path) home files (files.look path home) files := by
  rintro desk ⟨rfl, rfl⟩
  exact ⟨rfl, rfl, rfl⟩

theorem write {path text : String} (written : files.write path text.toUTF8 home = .ok left) :
    Ends (Desk.system.write path text) home files (.ok ()) left := by
  rintro desk ⟨rfl, rfl⟩
  simp only [Desk.run_write, Desk.write, written, and_self]

theorem runUnits {ι σ : Type} (config : Config) (runner : Runner) (units : List (TestUnit ι σ))
    (state : σ) :
    Ends (Command.runUnits Desk.system config runner units state) home files
      (runner.runUnits units state).1.1 files := by
  induction units generalizing state with
  | nil => exact pure
  | cons unit rest ih => exact bind (timed _) (bind (logAll _ _) (bind (ih _) pure))

theorem runSuite {ι σ : Type} (config : Config) (suite : Suite ι σ) (state : σ) :
    Ends (Command.runSuite Desk.system config suite state) home files
      ((Runner.run ⟨config.verbosity⟩ suite state).1.1) files :=
  bind (logAll _ _) (bind (runUnits _ _ _ _) (bind (logAll _ _) pure))

/-- Writing the report if one is wanted. -/
theorem writeReport {config : Config} {result : RunResult}
    (written : if config.report then
        files.write config.reportFile (Report.html result).toUTF8 home = .ok left
      else left = files) :
    Ends (Command.writeReport Desk.system config result) home files (.ok ()) left := by
  unfold Command.writeReport
  split at written
  · rw [if_pos ‹_›]
    exact bind (write written) (bind (logAll _ _) (bind (sayLines _) pure))
  · rw [if_neg ‹_›, written]
    exact pure

theorem runAndReport {ι σ : Type} {config : Config} {suite : Suite ι σ} {state : σ}
    (written : if config.report then
        files.write config.reportFile
          (Report.html (Runner.run ⟨config.verbosity⟩ suite state).1.1).toUTF8 home = .ok left
      else left = files) :
    Ends (Command.runAndReport Desk.system config suite state) home files
      (.ok (Runner.run ⟨config.verbosity⟩ suite state).1.1.exitCode) left := by
  refine bind (sayLines _) (bind (runSuite _ _ _) (bind (say _) (bind (writeReport written) ?_)))
  dsimp only
  split
  · exact bind (sayLines _) pure
  · exact pure

/-- Without a unit there is no report, and the exit code is that of no records. -/
theorem runTests {config : Config} {discoverer : Discoverer Instance Requests} {tree : Tree}
    {units : List (TestUnit Instance Requests)}
    (patterned :
      Discoverer.ofPattern (Loader.load {}) config.pattern config.methodPrefix = .ok discoverer)
    (found : (discoverer.discover config.testDir tree).units = units)
    (written : if config.report ∧ units ≠ [] then
        files.write config.reportFile (reportOf config units).toUTF8 home = .ok left
      else left = files) :
    Ends (Command.runTests Desk.system config tree) home files
      (.ok (RunResult.ofRecords (recordsOf config units)).exitCode) left := by
  subst found
  refine bind (sayLines _) ?_
  simp only [patterned]
  refine bind (logAll _ _) ?_
  split
  case isTrue empty =>
    have none : (discoverer.discover config.testDir tree).units = [] := List.isEmpty_iff.mp empty
    obtain rfl : left = files := by simpa [none] using written
    rw [none]
    exact bind (sayLines _) pure
  case isFalse some =>
    have units : (discoverer.discover config.testDir tree).units ≠ [] :=
      fun none => some (List.isEmpty_iff.mpr none)
    simp only [units, ne_eq, not_false_eq_true, and_true] at written
    exact runAndReport written

end Ends

/-! ### The whole run -/

section Run

variable {desk : Desk} {config : Config} {discoverer : Discoverer Instance Requests}
  {arguments : List String}

/-- A run comes to the exit code of its records, and leaves a report of them if one is wanted and
there is a unit. -/
theorem Ready.ends (ready : Ready desk config discoverer arguments) {left : Tree}
    (written : if config.report ∧ unitsFound desk config discoverer ≠ [] then
        desk.write config.reportFile (reportOf config (unitsFound desk config discoverer)) =
          .ok left
      else left = desk.files) :
    Ends (Command.run Desk.system arguments) desk.home desk.files
      (RunResult.ofRecords (recordsOf config (unitsFound desk config discoverer))).exitCode
      left := by
  obtain ⟨options, base, parsed, loaded, rfl⟩ := ready.configured
  have followed : Ends (follow Desk.system options) desk.home desk.files
      (.ok (RunResult.ofRecords (recordsOf (options.apply base)
        (unitsFound desk (options.apply base) discoverer))).exitCode) left := by
    unfold follow
    refine .bind (.look _) ?_
    rw [Desk.look] at loaded
    rw [loaded]
    refine .bind (.look _) ?_
    cases looked : desk.files.look (options.apply base).testDir desk.home with
    | error problem =>
        have none : unitsFound desk (options.apply base) discoverer = [] := by
          simp only [unitsFound, Desk.look, looked]
        obtain rfl : left = desk.files := by simpa [none] using written
        rw [none]
        exact .bind (.sayLines _) .pure
    | ok tree =>
        exact .runTests ready.patterned (by simp only [unitsFound, Desk.look, looked]) written
  unfold Command.run
  rw [parsed]
  exact .bind followed .pure

/-- By the records of a run its exit code is told, and the report that it leaves. -/
theorem Ready.run (ready : Ready desk config discoverer arguments) :
    (desk.run arguments).1 =
        (RunResult.ofRecords (recordsOf config (unitsFound desk config discoverer))).exitCode ∧
      (desk.run arguments).2.home = desk.home ∧
      if config.report ∧ unitsFound desk config discoverer ≠ [] then
        desk.write config.reportFile (reportOf config (unitsFound desk config discoverer)) =
          .ok (desk.run arguments).2.files
      else (desk.run arguments).2.files = desk.files := by
  by_cases reports : config.report ∧ unitsFound desk config discoverer ≠ []
  · obtain ⟨left, written⟩ := ready.writable reports.1
      (reportOf config (unitsFound desk config discoverer))
    obtain ⟨code, home, files⟩ :=
      ready.ends (by simpa only [if_pos reports] using written) desk ⟨rfl, rfl⟩
    rw [if_pos reports]
    exact ⟨code, home, written.trans (congrArg _ files.symm)⟩
  · obtain ⟨code, home, files⟩ := ready.ends (by rw [if_neg reports]) desk ⟨rfl, rfl⟩
    rw [if_neg reports]
    exact ⟨code, home, files⟩

/-- After a run the report is found at its path if one is wanted and there is a unit; if not, what
was there before is. -/
theorem Ready.look_report (ready : Ready desk config discoverer arguments) :
    let units := unitsFound desk config discoverer
    let report := Tree.file (reportOf config units).toUTF8
    (desk.run arguments).2.look config.reportFile = .ok report ↔
      (config.report ∧ units ≠ []) ∨ desk.look config.reportFile = .ok report := by
  obtain ⟨-, home, written⟩ := ready.run
  dsimp only
  rw [Desk.look, home]
  split at written
  · next wanted => exact iff_of_true (Tree.look_write written) (.inl wanted)
  · next unwanted => rw [written, or_iff_right unwanted, Desk.look]

/-- The exit code of a run is zero if there is no test directory, if no unit is discovered in it or
if every unit passes, and one otherwise. The report is found at its path if one is wanted and there
is a unit, and nothing else is changed. More files in the test directory that cannot be loaded
change neither the exit code nor a record. -/
theorem run_exits (ready : Ready desk config discoverer arguments) :
    let units := unitsFound desk config discoverer
    let records := recordsOf config units
    let report := Tree.file (reportOf config units).toUTF8
    let (code, left) := desk.run arguments
    records.map (·.unitId) = units.map (·.id) ∧
      (code = 0 ∨ code = 1) ∧
      (code = 0 ↔ (∃ problem, desk.look config.testDir = .error problem) ∨ units = [] ∨
        ∀ record ∈ records, record.outcome = .success) ∧
      (left.look config.reportFile = .ok report ↔
        (config.report ∧ units ≠ []) ∨ desk.look config.reportFile = .ok report) ∧
      (config.report ∧ units ≠ [] →
        ∃ place, desk.files.resolve true config.reportFile desk.home = .ok place ∧
          Tree.SameBut place desk.files left.files) ∧
      (¬(config.report ∧ units ≠ []) → left.files = desk.files) ∧
      ∀ fuller tree tree', Ready fuller config discoverer arguments →
        desk.look config.testDir = .ok tree → fuller.look config.testDir = .ok tree' →
        tree.isDirectory → tree.Proper → tree'.isDirectory → tree'.Proper →
        discoverer.Adds config.testDir tree tree' →
          (fuller.run arguments).1 = code ∧
            recordsOf config (unitsFound fuller config discoverer) = records := by
  obtain ⟨code, -, written⟩ := ready.run
  have found := ready.look_report
  dsimp only at found ⊢
  rw [code, RunResult.exitCode_eq]
  refine ⟨?_, ?_, ?_, found, fun wanted => ?_, fun unwanted => by rwa [if_neg unwanted] at written,
    ?_⟩
  · exact unitId_recordsOf config _
  · exact (ite_eq_or_eq _ _ _)
  · have without : unitsFound desk config discoverer = [] →
        ∀ record ∈ recordsOf config (unitsFound desk config discoverer),
          record.outcome = .success := by
      intro none
      simp [none, recordsOf, Runner.runUnits]
    have missing : (∃ problem, desk.look config.testDir = .error problem) →
        unitsFound desk config discoverer = [] := by
      rintro ⟨problem, absent⟩
      simp [unitsFound, absent]
    constructor
    · intro zero
      exact .inr (.inr (by_contra fun failed => by simp [failed] at zero))
    · rintro (absent | none | passed)
      · exact if_pos (without (missing absent))
      · exact if_pos (without none)
      · exact if_pos passed
  · rw [if_pos wanted] at written
    exact Tree.sameBut_write written
  · intro fuller tree tree' ready' here here' directory proper directory' proper' adds
    have units : unitsFound fuller config discoverer = unitsFound desk config discoverer := by
      simp only [unitsFound, here, here']
      exact adds.units_eq directory proper directory' proper'
    rw [ready'.run.1, units, RunResult.exitCode_eq]
    exact ⟨rfl, rfl⟩

end Run

/-! A desk with one test file, and the same desk with a file besides that is empty. The directory
from which paths are taken is another than that of the tests, which is found through a link. -/

namespace Counter

def text : String :=
  "\x7b\"classes\":[\x7b\"name\":\"D\",\"kind\":\"agent\",\"agents\":[\x7b\"role\":\"W\"\x7d]," ++
    "\"tests\":[\x7b\"name\":\"test_a\"\x7d]\x7d]\x7d"

def cls : Fixture.Class where
  name := "D"
  kind := .agent
  agents := [{ role := "W" }]
  tests := [⟨"test_a", []⟩]

/-- A desk with a test directory of these entries. -/
def deskOf (entries : List (String × Tree)) : Desk where
  files := .directory
    [("suite", .directory entries), ("tests", .link "/suite"), ("work", .directory [])]
  home := ["work"]

def entries : List (String × Tree) := [("test_d.json", .file text.toUTF8)]

def entries' : List (String × Tree) := ("test_a.json", .file "".toUTF8) :: entries

def arguments : List String := ["--test-dir", "/tests", "--report"]

def config : Config where
  testDir := "/tests"
  report := true

def discoverer : Discoverer Instance Requests where
  loader := Loader.load {}
  pattern := ⟨"test_*.json", [.literal 't', .literal 'e', .literal 's', .literal 't', .literal '_',
    .anyText, .literal '.', .literal 'j', .literal 's', .literal 'o', .literal 'n']⟩
  methodPrefix := "test_"

def leaf : Tree.Leaf := ⟨["test_d.json"], text.toUTF8⟩

def new : SourceFile := ⟨"/tests/test_a.json", "test_a.json", "".toUTF8⟩

theorem parsed :
    parse arguments = .ok (.run { testDir := some "/tests", report := true }) := by cbv

theorem patterned :
    Discoverer.ofPattern (Loader.load {}) config.pattern config.methodPrefix = .ok discoverer := by
  have pattern : Glob.parse "test_*.json" = .ok discoverer.pattern := by cbv
  simp only [Discoverer.ofPattern, config, pattern]
  rfl

theorem look_tests (entries : List (String × Tree)) :
    (deskOf entries).look "/tests" = .ok (.directory entries) := by
  have parts : Path.parts "/tests" = ["", "tests"] := by cbv
  have target : Path.parts "/suite" = ["", "suite"] := by cbv
  have directory : (deskOf entries).files.IsDirectoryAt [] := ⟨_, rfl, rfl⟩
  have leads : Tree.Leads (deskOf entries).files false Tree.maxLinks [] (Path.parts "/tests")
      ["suite"] := by
    rw [parts]
    refine .stay directory (.inl rfl) (.link (by decide) rfl rfl ?_)
    rw [target]
    exact .stay directory (.inl rfl) (.down (by decide) rfl rfl (fun _ => Tree.noConfusion) .here)
  exact Tree.look_of_leads (by decide) leads rfl

theorem resolve_report (entries : List (String × Tree)) :
    (deskOf entries).files.resolve true "crewcheck_test_report.html" ["work"] =
      .ok ["work", "crewcheck_test_report.html"] := by
  have parts : Path.parts "crewcheck_test_report.html" = ["crewcheck_test_report.html"] := by cbv
  have directory : (deskOf entries).files.IsDirectoryAt ["work"] := ⟨_, rfl, rfl⟩
  refine Tree.resolve_eq_ok.mpr ⟨by decide, ?_⟩
  rw [parts]
  exact .make directory (by decide) rfl rfl

theorem look_unconfigured (entries : List (String × Tree)) :
    (deskOf entries).look "crewcheck.toml" = .error .missing := by
  have parts : Path.parts "crewcheck.toml" = ["crewcheck.toml"] := by cbv
  simp [Desk.look, deskOf, Tree.look, Tree.resolve, Path.origin, Path.isAbsolute, parts,
    Tree.follow, Tree.child?, Tree.descend, Tree.isDirectory]

theorem ready (entries : List (String × Tree)) :
    Ready (deskOf entries) config discoverer arguments := by
  refine ⟨⟨_, {}, parsed, ?_, rfl⟩, patterned, fun _ text => ?_⟩
  · simp only [Config.fileFor, Config.defaultFile, Option.getD_none, look_unconfigured]
    rfl
  · have resolved : (deskOf entries).files.resolve true config.reportFile (deskOf entries).home =
        .ok ["work", "crewcheck_test_report.html"] := resolve_report entries
    simp only [Desk.write, Tree.write, resolved]
    exact ⟨_, rfl⟩

theorem proper : (Tree.directory entries).Proper :=
  .directory (by simpa [entries] using ⟨by decide, by decide, by decide⟩) (by simp [entries])
    (by simpa [entries] using .file _)

theorem proper' : (Tree.directory entries').Proper :=
  .directory (by simpa [entries', entries] using
      ⟨⟨by decide, by decide, by decide⟩, by decide, by decide, by decide⟩)
    (by simp [entries', entries]) (by simpa [entries', entries] using ⟨.file _, .file _⟩)

theorem mem_leaves' {l : Tree.Leaf} :
    l ∈ (Tree.directory entries').leaves ↔ l = ⟨["test_a.json"], "".toUTF8⟩ ∨ l = leaf := by
  simp [entries', entries, leaf, Tree.mem_leaves_directory, Tree.mem_leavesOf, eq_comm]

theorem mem_leaves {l : Tree.Leaf} : l ∈ (Tree.directory entries).leaves ↔ l = leaf := by
  simp [entries, leaf, Tree.mem_leaves_directory, Tree.mem_leavesOf, eq_comm]

theorem faulty : (discoverer.fault? new).isSome := by
  have unread : (Json.Codec.decode "" : Except _ Fixture.Module) =
      .error ⟨.endInValue, some ⟨1, 0⟩⟩ := by cbv
  simp only [Discoverer.fault?, discoverer, new, Loader.load, Loader.readModule,
    Fixture.textOf_toUTF8, unread]
  rfl

theorem adds : discoverer.Adds "/tests" (.directory entries) (.directory entries') := by
  constructor <;> intro file <;>
    simp only [← Discoverer.mem_visited proper, ← Discoverer.mem_visited proper',
      Discoverer.visited, Discoverer.found_eq _ proper, Discoverer.found_eq _ proper',
      List.mem_map, List.mem_filter, mem_leaves, mem_leaves']
  · rintro ⟨l, ⟨rfl, selected⟩, rfl⟩
    exact ⟨leaf, ⟨.inr rfl, selected⟩, rfl⟩
  · rintro ⟨l, ⟨rfl | rfl, selected⟩, rfl⟩
    · exact .inr faulty
    · exact .inl ⟨leaf, ⟨rfl, selected⟩, rfl⟩

theorem leaves_eq : (Tree.directory entries).leaves.filter discoverer.selects = [leaf] := by
  have selected : discoverer.selects leaf = true := by decide
  have leaves : (Tree.directory entries).leaves = [leaf] := by
    simp [entries, Tree.leaves, Tree.leavesEach, leaf]
  rw [leaves, List.filter_cons_of_pos selected, List.filter_nil]

theorem decode_text :
    (Json.Codec.decode text : Except _ Fixture.Module) = .ok { classes := [cls] } := by
  cbv

theorem units_ne_nil : unitsFound (deskOf entries) config discoverer ≠ [] := by
  have found : (discoverer.discover "/tests" (.directory entries)).units =
      (Fixture.Module.declared { classes := [cls] } "test_").map (Fixture.unitOf none) :=
    Fixture.discover_units {} rfl rfl leaves_eq
      (Fixture.readModule_of_text text (by rw [Discoverer.source, leaf]) decode_text)
  simp only [unitsFound, config, look_tests, found]
  exact List.cons_ne_nil _ _

end Counter

theorem run_exits_counter :
    let desk := Counter.deskOf Counter.entries
    let fuller := Counter.deskOf Counter.entries'
    let units := unitsFound desk Counter.config Counter.discoverer
    let records := recordsOf Counter.config units
    let (code, left) := desk.run Counter.arguments
    Ready desk Counter.config Counter.discoverer Counter.arguments ∧
      (Counter.config.report ∧ units ≠ []) ∧
      records.map (·.unitId) = units.map (·.id) ∧
      (code = 0 ↔ (∃ problem, desk.look "/tests" = .error problem) ∨ units = [] ∨
        ∀ record ∈ records, record.outcome = .success) ∧
      left.look "crewcheck_test_report.html" =
        .ok (.file (reportOf Counter.config units).toUTF8) ∧
      Tree.SameBut ["work", "crewcheck_test_report.html"] desk.files left.files ∧
      Counter.discoverer.Adds "/tests" (.directory Counter.entries)
        (.directory Counter.entries') ∧
      (fuller.run Counter.arguments).1 = code ∧
      recordsOf Counter.config (unitsFound fuller Counter.config Counter.discoverer) = records :=
  have wanted := And.intro rfl Counter.units_ne_nil
  have ⟨named, _, zero, found, changed, _, more⟩ := run_exits (Counter.ready Counter.entries)
  have ⟨place, resolved, kept⟩ := changed wanted
  have there : place = ["work", "crewcheck_test_report.html"] :=
    Except.ok.inj (resolved.symm.trans (Counter.resolve_report _))
  ⟨Counter.ready _, wanted, named, zero, found.mpr (.inl wanted), there ▸ kept, Counter.adds,
    more _ _ _ (Counter.ready _) (Counter.look_tests _) (Counter.look_tests _) rfl Counter.proper
      rfl Counter.proper' Counter.adds⟩

end Command

end Rehearsal
