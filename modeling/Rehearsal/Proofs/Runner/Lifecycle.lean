import Rehearsal.Runner
import Mathlib.Data.List.Forall2

/-! # The hooks that a run calls

All that a hook touches is its instance and the shared state, so its calls are observed from there:
the logged hooks of a unit do what its hooks do and also append to a log that is kept beside the
state. A run with the log is the run without it, and the log holds the life of one unit after the
other.
-/

namespace Rehearsal

variable {ι σ : Type}

/-- One call of a hook, with how it ended. -/
inductive HookCall where
  | construct (broken : Option Panic)
  | setUp (ending : Ending)
  | run (method : String) (ending : Ending)
  | tearDown (ending : Ending)
  deriving Repr, DecidableEq

/-- Calls with the places of their units in the suite, oldest first. -/
abbrev CallLog := List (Nat × HookCall)

/-- The calls that a unit gets, from the first to the last. -/
inductive Lifecycle (method : String) : List HookCall → Prop where
  /-- Without an instance there is nothing else to call. -/
  | notConstructed (panic : Panic) : Lifecycle method [.construct (some panic)]
  /-- An instance that could not be set up is torn down without its test. -/
  | notSetUp (setUp tearDown : Ending) (broken : setUp ≠ .done) :
      Lifecycle method [.construct none, .setUp setUp, .tearDown tearDown]
  /-- However the test ends, its instance is torn down. -/
  | ran (body tearDown : Ending) :
      Lifecycle method [.construct none, .setUp .done, .run method body, .tearDown tearDown]

/-- How the hooks of a unit ended, as far as they were called. -/
inductive Course where
  | notConstructed (panic : Panic)
  | notSetUp (setUp tearDown : Ending) (broken : setUp ≠ .done)
  | ran (body tearDown : Ending)

/-- The log of one life, at the place of its unit. -/
def placed (place : Nat) (calls : List HookCall) : CallLog :=
  calls.map (place, ·)

/-- The hook that also logs its call. -/
def Hook.logged (place : Nat) (call : Ending → HookCall) (hook : Hook ι σ) :
    Hook ι (σ × CallLog) := fun inst (state, log) =>
  let (ending, inst, state) := hook inst state
  (ending, inst, state, log ++ [(place, call ending)])

def brokenOff : Except Panic ι → Option Panic
  | .error panic => some panic
  | .ok _ => none

def TestClass.logged (place : Nat) (cls : TestClass ι σ) : TestClass ι (σ × CallLog) where
  name := cls.name
  category := cls.category
  methods := cls.methods
  construct := fun (state, log) =>
    let (made, state) := cls.construct state
    (made, state, log ++ [(place, .construct (brokenOff made))])
  setUp := cls.setUp.logged place .setUp
  run method := (cls.run method).logged place (.run method)
  tearDown := cls.tearDown.logged place .tearDown

def TestUnit.logged (place : Nat) (unit : TestUnit ι σ) : TestUnit ι (σ × CallLog) :=
  ⟨unit.cls.logged place, unit.method⟩

/-- Units with logs, the first of which has the place `start`. -/
def loggedFrom (start : Nat) (units : List (TestUnit ι σ)) : List (TestUnit ι (σ × CallLog)) :=
  (units.zipIdx start).map fun (unit, place) => unit.logged place

def Suite.logged (suite : Suite ι σ) : Suite ι (σ × CallLog) :=
  { units := loggedFrom 0 suite.units, loadFaults := suite.loadFaults }

/-- The log of lives one after another, the first at the place `start`. -/
def lifeLog (start : Nat) (lives : List (List HookCall)) : CallLog :=
  (lives.zipIdx start).flatMap fun (calls, place) => placed place calls

theorem lifeLog_cons (start : Nat) (calls : List HookCall) (rest : List (List HookCall)) :
    lifeLog start (calls :: rest) = placed start calls ++ lifeLog (start + 1) rest := by
  rw [lifeLog, List.zipIdx_cons, List.flatMap_cons, lifeLog]

namespace Course

/-- The calls of a unit with this course. -/
def calls (method : String) : Course → List HookCall
  | notConstructed panic => [.construct (some panic)]
  | notSetUp setUp tearDown _ => [.construct none, .setUp setUp, .tearDown tearDown]
  | ran body tearDown =>
    [.construct none, .setUp .done, .run method body, .tearDown tearDown]

theorem lifecycle (method : String) (course : Course) : Lifecycle method (course.calls method) := by
  cases course with
  | notConstructed panic => exact .notConstructed panic
  | notSetUp setUp tearDown broken => exact .notSetUp setUp tearDown broken
  | ran body tearDown => exact .ran body tearDown

/-- How the instance was torn down, if there was one. -/
def tearDown? : Course → Option Ending
  | notConstructed _ => none
  | notSetUp _ tearDown _ | ran _ tearDown => some tearDown

/-- What is kept of a bad end of the tear-down. -/
def teardownFault (course : Course) : Option String :=
  (course.tearDown?.bind (·.fault? .scaffold)).map (·.detail)

/-- What goes on record: the hook before the tear-down decides, unless it ended well. -/
def verdicts (course : Course) : Verdicts where
  outcome :=
    match course with
    | notConstructed panic => .ofFault (panic.toFault .scaffold)
    | notSetUp setUp _ _ => outcomeOf (setUp.fault? .scaffold) course.teardownFault
    | ran body _ => outcomeOf (body.fault? .body) course.teardownFault
  teardownFault := course.teardownFault

end Course

theorem Ending.fault?_eq_none {stage : Stage} {ending : Ending} :
    ending.fault? stage = none ↔ ending = .done := by
  cases ending <;> simp [Ending.fault?]

namespace TestUnit

/-! One equation of `execute` for each way through a unit. -/

section Execute

variable {unit : TestUnit ι σ} {state made ready ran : σ} {inst settled used : ι}

theorem execute_notConstructed {panic : Panic}
    (constructed : unit.cls.construct state = (.error panic, made)) :
    unit.execute state = ({ outcome := .ofFault (panic.toFault .scaffold) }, made) := by
  simp only [execute, constructed]

theorem execute_notSetUp {ending : Ending} {fault : Fault}
    (constructed : unit.cls.construct state = (.ok inst, made))
    (setUp : unit.cls.setUp inst made = (ending, settled, ready))
    (broken : ending.fault? .scaffold = some fault) :
    unit.execute state =
      ({ outcome := .ofFault fault, teardownFault := (unit.tearDown settled ready).1 },
        (unit.tearDown settled ready).2) := by
  simp only [execute, constructed, setUp, broken]

theorem execute_ran {body : Ending}
    (constructed : unit.cls.construct state = (.ok inst, made))
    (setUp : unit.cls.setUp inst made = (.done, settled, ready))
    (run : unit.cls.run unit.method settled ready = (body, used, ran)) :
    unit.execute state =
      ({ outcome := outcomeOf (body.fault? .body) (unit.tearDown used ran).1,
         teardownFault := (unit.tearDown used ran).1 },
        (unit.tearDown used ran).2) := by
  simp only [execute, constructed, setUp, Ending.fault?, run]

end Execute

/-! The hooks of a logged unit. -/

section Logged

variable {unit : TestUnit ι σ} {state next : σ} {inst used : ι} {ending : Ending}
variable (place : Nat) (log : CallLog)

theorem construct_logged {made : Except Panic ι}
    (constructed : unit.cls.construct state = (made, next)) :
    (unit.logged place).cls.construct (state, log) =
      (made, next, log ++ [(place, .construct (brokenOff made))]) := by
  simp only [logged, TestClass.logged, constructed]

theorem setUp_logged (setUp : unit.cls.setUp inst state = (ending, used, next)) :
    (unit.logged place).cls.setUp inst (state, log) =
      (ending, used, next, log ++ [(place, .setUp ending)]) := by
  simp only [logged, TestClass.logged, Hook.logged, setUp]

theorem run_logged (run : unit.cls.run unit.method inst state = (ending, used, next)) :
    (unit.logged place).cls.run (unit.logged place).method inst (state, log) =
      (ending, used, next, log ++ [(place, .run unit.method ending)]) := by
  simp only [logged, TestClass.logged, Hook.logged, run]

theorem tearDown_logged (unit : TestUnit ι σ) (inst : ι) (state : σ) :
    (unit.logged place).tearDown inst (state, log) =
      ((unit.tearDown inst state).1, (unit.tearDown inst state).2,
        log ++ [(place, .tearDown (unit.cls.tearDown inst state).1)]) := rfl

end Logged

/-- From a state the unit takes a course: its log shows the calls of the course, its verdicts are
made of them, and nothing else depends on the log. -/
def Takes (unit : TestUnit ι σ) (state : σ) (course : Course) : Prop :=
  (unit.execute state).1 = course.verdicts ∧
    ∀ place log, (unit.logged place).execute (state, log) =
      ((unit.execute state).1, (unit.execute state).2,
        log ++ placed place (course.calls unit.method))

section Takes

variable {unit : TestUnit ι σ} {state made ready ran : σ} {inst settled used : ι}

theorem takes_notConstructed {panic : Panic}
    (constructed : unit.cls.construct state = (.error panic, made)) :
    unit.Takes state (.notConstructed panic) := by
  constructor
  · rw [execute_notConstructed constructed]
    rfl
  · intro place log
    have first := construct_logged place log constructed
    rw [execute_notConstructed first, execute_notConstructed constructed]
    rfl

theorem takes_notSetUp {ending : Ending} (broken : ending ≠ .done)
    (constructed : unit.cls.construct state = (.ok inst, made))
    (setUp : unit.cls.setUp inst made = (ending, settled, ready)) :
    unit.Takes state (.notSetUp ending (unit.cls.tearDown settled ready).1 broken) := by
  obtain ⟨fault, raised⟩ := Option.ne_none_iff_exists'.mp (mt Ending.fault?_eq_none.mp broken)
  constructor
  · rw [execute_notSetUp constructed setUp raised]
    simp only [Course.verdicts, raised, outcomeOf]
    rfl
  · intro place log
    have first := construct_logged place log constructed
    have second := setUp_logged place (log ++ [(place, .construct none)]) setUp
    rw [execute_notSetUp first second raised, execute_notSetUp constructed setUp raised,
      tearDown_logged]
    simp [placed, Course.calls]

theorem takes_ran {body : Ending} (constructed : unit.cls.construct state = (.ok inst, made))
    (setUp : unit.cls.setUp inst made = (.done, settled, ready))
    (run : unit.cls.run unit.method settled ready = (body, used, ran)) :
    unit.Takes state (.ran body (unit.cls.tearDown used ran).1) := by
  constructor
  · rw [execute_ran constructed setUp run]
    rfl
  · intro place log
    have first := construct_logged place log constructed
    have second := setUp_logged place (log ++ [(place, .construct none)]) setUp
    have third := run_logged place
      (log ++ [(place, .construct none)] ++ [(place, .setUp .done)]) run
    rw [execute_ran first second third, execute_ran constructed setUp run, tearDown_logged]
    simp [placed, Course.calls]

theorem exists_takes (unit : TestUnit ι σ) (state : σ) : ∃ course, unit.Takes state course := by
  rcases constructed : unit.cls.construct state with ⟨panic | inst, made⟩
  · exact ⟨_, takes_notConstructed constructed⟩
  · rcases setUp : unit.cls.setUp inst made with ⟨ending, settled, ready⟩
    by_cases well : ending = .done
    · subst well
      exact ⟨_, takes_ran constructed setUp rfl⟩
    · exact ⟨_, takes_notSetUp well constructed setUp⟩

/-- The log and the verdicts tell the course. -/
theorem Takes.unique {course course' : Course} (takes : unit.Takes state course)
    (takes' : unit.Takes state course') :
    course.calls unit.method = course'.calls unit.method ∧ course.verdicts = course'.verdicts := by
  have same := (takes.2 0 []).symm.trans (takes'.2 0 [])
  simp only [List.nil_append, Prod.mk.injEq, true_and] at same
  exact ⟨(List.map_inj_right fun _ _ pair => (Prod.mk.inj pair).2).mp same,
    takes.1.symm.trans takes'.1⟩

end Takes

end TestUnit

namespace Runner

theorem runUnit_takes (runner : Runner) {unit : TestUnit ι σ} {state : σ} {course : Course}
    (takes : unit.Takes state course) (place : Nat) (log : CallLog) :
    (runner.runUnit unit state).1.1 = unit.record course.verdicts ∧
      runner.runUnit (unit.logged place) (state, log) =
        ((runner.runUnit unit state).1, (runner.runUnit unit state).2,
          log ++ placed place (course.calls unit.method)) := by
  obtain ⟨verdicts, same⟩ := takes
  refine ⟨congrArg unit.record verdicts, ?_⟩
  simp only [runUnit, same place log]
  rfl

/-- By induction on the units: the log grows by one life for each, and a unit starts from where
the one before it left the state, however that one ended. -/
theorem runUnits_takes (runner : Runner) (units : List (TestUnit ι σ)) (start : Nat) (state : σ)
    (log : CallLog) :
    ∃ courses : List Course,
      List.Forall₂ (fun unit course => ∃ state, unit.Takes state course) units courses ∧
      (runner.runUnits units state).1.1 =
        List.zipWith (fun unit course => unit.record course.verdicts) units courses ∧
      runner.runUnits (loggedFrom start units) (state, log) =
        ((runner.runUnits units state).1, (runner.runUnits units state).2,
          log ++ lifeLog start
            (List.zipWith (fun unit course => course.calls unit.method) units courses)) := by
  induction units generalizing start state log with
  | nil => exact ⟨[], .nil, rfl, by simp [loggedFrom, lifeLog, runUnits]⟩
  | cons unit rest ih =>
      obtain ⟨course, takes⟩ := unit.exists_takes state
      obtain ⟨record, first⟩ := runner.runUnit_takes takes start log
      obtain ⟨courses, others, records, later⟩ :=
        ih (start + 1) (runner.runUnit unit state).2
          (log ++ placed start (course.calls unit.method))
      refine ⟨course :: courses, .cons ⟨state, takes⟩ others, ?_, ?_⟩
      · simp only [runUnits, record, records, List.zipWith_cons_cons]
      · have shape : loggedFrom start (unit :: rest) =
            unit.logged start :: loggedFrom (start + 1) rest := by
          simp [loggedFrom]
        simp only [shape, runUnits, first, later, List.zipWith_cons_cons, lifeLog_cons,
          List.append_assoc]

/-- The log holds the whole life of each unit, and nothing else depends on it. -/
theorem runUnits_logged (runner : Runner) (units : List (TestUnit ι σ)) (start : Nat) (state : σ)
    (log : CallLog) :
    ∃ lives, List.Forall₂ (fun unit calls => Lifecycle unit.method calls) units lives ∧
      runner.runUnits (loggedFrom start units) (state, log) =
        ((runner.runUnits units state).1, (runner.runUnits units state).2,
          log ++ lifeLog start lives) := by
  obtain ⟨courses, each, -, same⟩ := runner.runUnits_takes units start state log
  refine ⟨_, ?_, same⟩
  clear same
  induction each with
  | nil => exact .nil
  | @cons unit course _ _ _ _ ih => exact .cons (course.lifecycle unit.method) ih

theorem runUnits_records (runner : Runner) (units : List (TestUnit ι σ)) (state : σ) :
    (runner.runUnits units state).1.1.map (fun record => (record.unitId, record.category)) =
      units.map fun unit => (unit.id, unit.category) := by
  induction units generalizing state with
  | nil => rfl
  | cons unit rest ih =>
      simp only [runUnits, List.map_cons, ih]
      rfl

/-- Running a suite leaves one record for each unit, in the order of the suite, and calls the
hooks of one unit after the other, each unit for a whole life whatever became of those before. -/
theorem run_calls_hooks (runner : Runner) (suite : Suite ι σ) (state : σ) :
    let plain := runner.run suite state
    let logged := runner.run suite.logged (state, [])
    plain.1.1.records.map (fun record => (record.unitId, record.category)) =
        suite.units.map (fun unit => (unit.id, unit.category)) ∧
      logged.1 = plain.1 ∧ logged.2.1 = plain.2 ∧
      ∃ lives, List.Forall₂ (fun unit calls => Lifecycle unit.method calls) suite.units lives ∧
        logged.2.2 = lifeLog 0 lives := by
  obtain ⟨lives, each, same⟩ := runner.runUnits_logged suite.units 0 state []
  rw [List.nil_append] at same
  have length : suite.logged.length = suite.length := by
    simp [Suite.length, Suite.logged, loggedFrom]
  have whole : runner.run suite.logged (state, []) =
      ((runner.run suite state).1, (runner.run suite state).2, lifeLog 0 lives) := by
    simp only [run, length]
    simp only [Suite.logged, same]
  refine ⟨runner.runUnits_records suite.units state, ?_, ?_, lives, each, ?_⟩ <;> rw [whole]

end Runner

end Rehearsal
