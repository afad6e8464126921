import TestConductor.Model.TestCase
/-! # Run statistics

Counts of executed tests by outcome, each a 64-bit counter. Recording an outcome counts one
more executed test and one more of that outcome (an outcome of `none` only the former);
merging adds the counts. An addition that leaves 64 bits fails.
-/
namespace TestConductor

/-- Counts of executed tests by outcome. -/
structure Statistics where
  executed : Nat
  passed : Nat
  failed : Nat
  skipped : Nat
  notFound : Nat
  deriving DecidableEq, Repr, Inhabited

namespace Statistics

def empty : Statistics := ⟨0, 0, 0, 0, 0⟩

def counterMax : Nat := Nat.pow 2 64 - 1

def add? (a b : Nat) : Option Nat := if a + b ≤ counterMax then some (a + b) else none

def record? (s : Statistics) (o : Outcome) : Option Statistics := do
  let executed ← add? s.executed 1
  match o with
  | .passed => return { s with executed, passed := ← add? s.passed 1 }
  | .failed => return { s with executed, failed := ← add? s.failed 1 }
  | .skipped => return { s with executed, skipped := ← add? s.skipped 1 }
  | .notFound => return { s with executed, notFound := ← add? s.notFound 1 }
  | .none => return { s with executed }

def merge? (s t : Statistics) : Option Statistics := do
  return ⟨← add? s.executed t.executed, ← add? s.passed t.passed, ← add? s.failed t.failed,
    ← add? s.skipped t.skipped, ← add? s.notFound t.notFound⟩

def ofOutcomes? (os : List Outcome) : Option Statistics :=
  os.foldlM record? empty

/-- The count of an outcome; for `none`, the executed tests of no other outcome, or nothing
when the other counts do not fit 64 bits. -/
def count? (s : Statistics) (o : Outcome) : Option Nat :=
  match o with
  | .passed => some s.passed
  | .failed => some s.failed
  | .skipped => some s.skipped
  | .notFound => some s.notFound
  | .none => do
    let a ← add? s.passed s.failed
    let b ← add? a s.skipped
    let c ← add? b s.notFound
    return s.executed - c

def display (s : Statistics) : String :=
  s!"Total: {s.executed} | Passed: {s.passed} | Failed: {s.failed} | Skipped: {s.skipped}"

def toJson (s : Statistics) : Json :=
  .obj [("executed_tests", .nat s.executed), ("passed", .nat s.passed), ("failed", .nat s.failed),
    ("skipped", .nat s.skipped), ("not_found", .nat s.notFound)]

def shape : Json.Shape :=
  .record "TestRunStatistics"
    [Json.Shape.field "executed_tests" Json.Shape.u64, Json.Shape.field "passed" Json.Shape.u64,
     Json.Shape.field "failed" Json.Shape.u64, Json.Shape.field "skipped" Json.Shape.u64,
     Json.Shape.field "not_found" Json.Shape.u64]

def ofJson (j : Json) : Statistics :=
  let n (k : String) := ((j.get? k).bind Json.asNat?).getD 0
  ⟨n "executed_tests", n "passed", n "failed", n "skipped", n "not_found"⟩

end Statistics

end TestConductor
