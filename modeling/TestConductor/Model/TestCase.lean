import TestConductor.Uuid
import TestConductor.Timestamp
import TestConductor.Duration
/-! # Test cases, outcomes and results

A test case is a test found in a source; a result records how one run of it ended, when, and
for how long.
-/
namespace TestConductor

/-- A test discovered inside a source. -/
structure TestCase where
  id : Uuid
  fullyQualifiedName : String
  displayName : String
  executorUri : String
  source : String
  deriving DecidableEq, Repr, Inhabited

namespace TestCase

def display (t : TestCase) : String := t.displayName ++ " (" ++ t.source ++ ")"

def toJson (t : TestCase) : Json :=
  .obj [("id", .str t.id.render), ("fully_qualified_name", .str t.fullyQualifiedName),
    ("display_name", .str t.displayName), ("executor_uri", .str t.executorUri),
    ("source", .str t.source)]

def shape : Json.Shape :=
  .record "TestCase"
    [Json.Shape.field "id" Uuid.shape, Json.Shape.field "fully_qualified_name" .string,
     Json.Shape.field "display_name" .string, Json.Shape.field "executor_uri" .string,
     Json.Shape.field "source" .string]

def strOf (j : Json) (k : String) : String := ((j.get? k).bind Json.asStr?).getD ""

def ofJson (j : Json) : TestCase :=
  let id := match Uuid.parse (strOf j "id") with
    | .ok u => u
    | .error _ => default
  ⟨id, strOf j "fully_qualified_name", strOf j "display_name", strOf j "executor_uri",
    strOf j "source"⟩

end TestCase

/-- How a single test ended. -/
inductive Outcome where
  | none
  | passed
  | failed
  | skipped
  | notFound
  deriving DecidableEq, Repr, Inhabited

namespace Outcome

def all : List Outcome := [.none, .passed, .failed, .skipped, .notFound]

def name : Outcome → String
  | .none => "none"
  | .passed => "passed"
  | .failed => "failed"
  | .skipped => "skipped"
  | .notFound => "not_found"

def ofName? (s : String) : Option Outcome := all.find? (·.name == s)

def symbol : Outcome → String
  | .none => "-"
  | .passed => "✓"
  | .failed => "✗"
  | .skipped => "○"
  | .notFound => "?"

def display : Outcome → String
  | .none => "NONE"
  | .passed => "PASSED"
  | .failed => "FAILED"
  | .skipped => "SKIPPED"
  | .notFound => "NOT FOUND"

def isSuccess : Outcome → Bool
  | .passed => true
  | _ => false

def shape : Json.Shape := .units (all.map name)

def ofJson (j : Json) : Outcome := ((j.asStr?).bind ofName?).getD .none

end Outcome

/-- The result of running one test case. -/
structure TestResult where
  testCase : TestCase
  outcome : Outcome
  errorMessage : Option String
  duration : Duration
  startTime : Timestamp
  endTime : Timestamp
  deriving Repr, Inhabited

namespace TestResult

def new (t : TestCase) (o : Outcome) (now : Timestamp) : TestResult := ⟨t, o, none, .zero, now, now⟩

def withError (r : TestResult) (m : String) : TestResult := { r with errorMessage := some m }

def spanLimit : Nat := (Nat.pow 2 63 - 1) * 1000000

def calendarStart : Int := Timestamp.daysOfDate Timestamp.firstYear 1 1 * 86400

/-- Sets the duration and moves the start that far before the end. A span beyond the calendar
arithmetic's limit moves nothing; a start before the calendar's first day is refused. -/
def withDuration (r : TestResult) (d : Duration) : Option TestResult :=
  let span := if d.toNanos > spanLimit then 0 else d.toNanos
  let start := r.endTime.minusNanos span
  if start.seconds < calendarStart then none
  else some { r with duration := d, startTime := start }

def display (r : TestResult) : String :=
  r.outcome.symbol ++ " " ++ r.testCase.display ++ s!" [{r.duration.toMillis}ms]" ++
    (match r.errorMessage with
     | some m => " - " ++ m
     | none => "")

def toJson (r : TestResult) : Json :=
  .obj [("test_case", r.testCase.toJson), ("outcome", .str r.outcome.name),
    ("error_message", Json.opt .str r.errorMessage), ("duration", r.duration.toJson),
    ("start_time", .str r.startTime.render), ("end_time", .str r.endTime.render)]

def shape : Json.Shape :=
  .record "TestResult"
    [Json.Shape.field "test_case" TestCase.shape, Json.Shape.field "outcome" Outcome.shape,
     Json.Shape.optField "error_message" .string, Json.Shape.field "duration" .duration,
     Json.Shape.field "start_time" Timestamp.shape, Json.Shape.field "end_time" Timestamp.shape]

def timeOf (j : Json) (k : String) : Timestamp :=
  match Timestamp.parse (TestCase.strOf j k) with
  | .ok t => t
  | .error _ => default

def ofJson (j : Json) : TestResult :=
  ⟨TestCase.ofJson ((j.get? "test_case").getD .null), Outcome.ofJson ((j.get? "outcome").getD .null),
    (j.get? "error_message").bind Json.asStr?, Duration.ofJson ((j.get? "duration").getD .null),
    timeOf j "start_time", timeOf j "end_time"⟩

end TestResult

end TestConductor
