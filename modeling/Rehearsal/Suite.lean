import Rehearsal.Case.Class

/-! # Suites of tests

A suite is what a runner runs: tests of classes in order, and the files that were left out because
they could not be loaded.
-/

namespace Rehearsal

structure TestUnit (ι σ : Type) where
  cls : TestClass ι σ
  method : String

/-- A file that could not be loaded. -/
structure LoadFault where
  path : String
  reason : String
  deriving Repr, DecidableEq

/-- Tests in order. -/
structure Suite (ι σ : Type) where
  units : List (TestUnit ι σ) := []
  loadFaults : List LoadFault := []

variable {ι σ : Type}

namespace TestUnit

/-- The name of the unit in reports: that of its class and its own. -/
def id (unit : TestUnit ι σ) : String :=
  unit.cls.name ++ "." ++ unit.method

def category (unit : TestUnit ι σ) : Category :=
  unit.cls.category

end TestUnit

namespace TestClass

/-- The tests of a class whose name starts with a text. -/
def units (cls : TestClass ι σ) (methodPrefix : String) : List (TestUnit ι σ) :=
  (cls.methods.filter fun method => methodPrefix.toList.isPrefixOf method.toList).map
    fun method => ⟨cls, method⟩

end TestClass

namespace Suite

def length (suite : Suite ι σ) : Nat :=
  suite.units.length

def isEmpty (suite : Suite ι σ) : Bool :=
  suite.units.isEmpty

def push (suite : Suite ι σ) (unit : TestUnit ι σ) : Suite ι σ :=
  { suite with units := suite.units ++ [unit] }

def addClass (suite : Suite ι σ) (cls : TestClass ι σ) (methodPrefix : String) : Suite ι σ :=
  { suite with units := suite.units ++ cls.units methodPrefix }

end Suite

end Rehearsal
