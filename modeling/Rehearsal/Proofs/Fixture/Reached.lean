import Rehearsal.Proofs.Fixture.Complete

/-! # What an instance comes to once it is set up

From a set-up that raised no fault on, only steps change an instance, so what the rules of steps keep
holds for as long as it is used. Steps are performed one after the other up to the first that raises
a fault, and that fault is how they end.
-/

namespace Rehearsal.Fixture

/-- An instance of a class after calls of its hooks. -/
def Class.used (cls : Class) (evaluator : Option Evaluator) (calls : List InstanceCall)
    (asked : Requests) : Instance :=
  ((cls.toTestClass evaluator).after calls cls.fresh asked).1

/-- An instance that was set up, whatever was done with it before, after some steps. -/
inductive Reached (cls : Class) (evaluator : Option Evaluator) : Instance → Prop where
  | setUp (calls : List InstanceCall) (asked : Requests) :
      (cls.setUp (cls.used evaluator calls asked)).1 = none →
      Reached cls evaluator (cls.setUp (cls.used evaluator calls asked)).2
  | step {inst next : Instance} {step : Step} {requests : Requests} :
      Reached cls evaluator inst → inst.perform evaluator step = (.ok next, requests) →
      Reached cls evaluator next

/-- Of these steps, one raises a fault where those before it led without any. -/
def StopsAt (evaluator : Option Evaluator) (start : Instance) (steps : List Step) (step : Step)
    (fault : Fault) : Prop :=
  ∃ earlier later, steps = earlier ++ step :: later ∧
    (start.performAll evaluator earlier []).1 = .done ∧
    ((start.performAll evaluator earlier []).2.1.perform evaluator step).1 = .error fault

theorem Class.setUp_used (cls : Class) (evaluator : Option Evaluator) (calls : List InstanceCall)
    (asked : Requests) : cls.setUp (cls.used evaluator calls asked) = cls.setUp cls.fresh := by
  have lent : Lent cls (cls.used evaluator calls asked) :=
    (cls.toTestClass evaluator).after_keeps (Lent.hook evaluator) calls asked (Lent.fresh cls)
  exact lent.setUp_eq

namespace Reached

variable {cls : Class} {evaluator : Option Evaluator} {inst : Instance}

theorem fresh (cls : Class) (evaluator : Option Evaluator) (done : (cls.setUp cls.fresh).1 = none) :
    Reached cls evaluator (cls.setUp cls.fresh).2 :=
  .setUp [] [] done

/-- Steps do not change where an instance comes from. -/
theorem ready (reached : Reached cls evaluator inst) : Ready cls inst.origin := by
  induction reached with
  | setUp calls asked done =>
      rw [cls.setUp_used] at done ⊢
      have ready := Class.setUp_ready done
      rw [ready.origin_eq]
      exact ready
  | step _ performed ih =>
      rw [(Instance.perform_performs performed).origin_eq]
      exact ih

theorem performAll (reached : Reached cls evaluator inst) (steps : List Step) (log : Requests) :
    Reached cls evaluator (inst.performAll evaluator steps log).2.1 := by
  induction steps generalizing inst log with
  | nil => exact reached
  | cons step rest ih =>
      rcases performed : inst.perform evaluator step with ⟨_ | next, requests⟩
      · simp only [Instance.performAll, performed]
        exact reached
      · simp only [Instance.performAll, performed]
        exact ih (reached.step performed) _

end Reached

section Stops

variable {evaluator : Option Evaluator} {inst next : Instance} {step : Step} {requests : Requests}

theorem performAll_cons (performed : inst.perform evaluator step = (.ok next, requests))
    (rest : List Step) :
    (inst.performAll evaluator (step :: rest) []).1 = (next.performAll evaluator rest []).1 ∧
      (inst.performAll evaluator (step :: rest) []).2.1 =
        (next.performAll evaluator rest []).2.1 := by
  simp only [Instance.performAll, performed]
  rw [Instance.performAll_log]
  exact ⟨rfl, rfl⟩

theorem StopsAt.later {steps : List Step} {last : Step} {fault : Fault}
    (stops : StopsAt evaluator next steps last fault)
    (performed : inst.perform evaluator step = (.ok next, requests)) :
    StopsAt evaluator inst (step :: steps) last fault := by
  obtain ⟨earlier, later, rfl, done, raised⟩ := stops
  obtain ⟨ending, led⟩ := performAll_cons performed earlier
  refine ⟨step :: earlier, later, rfl, ?_, ?_⟩
  · rw [ending]
    exact done
  · rw [led]
    exact raised

theorem performAll_stops (evaluator : Option Evaluator) (steps : List Step) (inst : Instance) :
    (inst.performAll evaluator steps []).1 = .done ∨ ∃ step fault,
      (inst.performAll evaluator steps []).1 = .fault fault ∧
        StopsAt evaluator inst steps step fault := by
  induction steps generalizing inst with
  | nil => exact .inl rfl
  | cons step rest ih =>
      rcases performed : inst.perform evaluator step with ⟨fault | next, requests⟩
      · refine .inr ⟨step, fault, ?_, [], rest, rfl, rfl, ?_⟩
        · simp only [Instance.performAll, performed]
        · exact congrArg Prod.fst performed
      · rw [(performAll_cons performed rest).1]
        rcases ih next with done | ⟨last, fault, ended, stops⟩
        · exact .inl done
        · exact .inr ⟨last, fault, ended, stops.later performed⟩

theorem StopsAt.ending {start : Instance} {steps : List Step} {fault : Fault}
    (stops : StopsAt evaluator start steps step fault) :
    (start.performAll evaluator steps []).1 = .fault fault := by
  obtain ⟨earlier, later, rfl, done, raised⟩ := stops
  rcases ran : start.performAll evaluator earlier [] with ⟨ending, middle, sofar⟩
  rw [ran] at done raised
  cases done
  rw [(Instance.performAll_append (step :: later) ran).1]
  rcases performed : middle.perform evaluator step with ⟨_ | next, requests⟩
  · rw [performed] at raised
    cases raised
    simp only [Instance.performAll, performed]
  · rw [performed] at raised
    cases raised

end Stops

end Rehearsal.Fixture
