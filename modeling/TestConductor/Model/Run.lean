import TestConductor.Model.Statistics
import TestConductor.Model.Attachment
/-! # Run progress and completion

A run reports progress as statistics with the results and active tests since the last report,
and ends with a completion: final statistics, whether it was canceled or aborted, an error,
attachments, and the time it took. Metrics are free-form JSON values by name.
-/
namespace TestConductor

abbrev Metrics := List (String × Json)

def Metrics.shape : Json.Shape := .dict .any

/-- Progress of a run. -/
structure RunProgress where
  stats : Option Statistics
  newResults : List TestResult
  activeTests : List TestCase
  deriving Repr, Inhabited

namespace RunProgress

def new (s : Statistics) (results : List TestResult) : RunProgress := ⟨some s, results, []⟩

def toJson (p : RunProgress) : Json :=
  .obj [("stats", Json.opt Statistics.toJson p.stats),
    ("new_test_results", .arr (p.newResults.map TestResult.toJson)),
    ("active_tests", .arr (p.activeTests.map TestCase.toJson))]

def shape : Json.Shape :=
  .record "TestRunChangedArgs"
    [Json.Shape.optField "stats" Statistics.shape,
     Json.Shape.defField "new_test_results" (.list TestResult.shape) (.arr []),
     Json.Shape.defField "active_tests" (.list TestCase.shape) (.arr [])]

def ofJson (j : Json) : RunProgress :=
  let stats := match j.get? "stats" with
    | some .null | none => none
    | some s => some (Statistics.ofJson s)
  ⟨stats, (((j.get? "new_test_results").bind Json.asArr?).getD []).map TestResult.ofJson,
    (((j.get? "active_tests").bind Json.asArr?).getD []).map TestCase.ofJson⟩

end RunProgress

/-- How a run ended. -/
inductive RunOutcome where
  | completed
  | canceled
  | aborted (error : Option String)
  | faulted (error : String)
  deriving DecidableEq, Repr

/-- The completion of a run or of a part of it. -/
structure RunCompletion where
  stats : Statistics
  isCanceled : Bool
  isAborted : Bool
  error : Option String
  attachmentSets : List AttachmentSet
  elapsed : Duration
  deriving Repr, Inhabited

namespace RunCompletion

def completed (s : Statistics) (elapsed : Duration) : RunCompletion := ⟨s, false, false, none, [], elapsed⟩

def aborted (error : Option String) (elapsed : Duration) : RunCompletion :=
  ⟨.empty, false, true, error, [], elapsed⟩

def outcome (c : RunCompletion) : RunOutcome :=
  if c.isAborted then .aborted c.error
  else if c.isCanceled then .canceled
  else match c.error with
    | some e => .faulted e
    | none => .completed

def toJson (c : RunCompletion) : Json :=
  .obj [("stats", c.stats.toJson), ("is_canceled", .bool c.isCanceled),
    ("is_aborted", .bool c.isAborted), ("error", Json.opt .str c.error),
    ("attachment_sets", .arr (c.attachmentSets.map AttachmentSet.toJson)),
    ("elapsed", c.elapsed.toJson)]

def shape : Json.Shape :=
  .record "TestRunCompleteArgs"
    [Json.Shape.field "stats" Statistics.shape, Json.Shape.field "is_canceled" .bool,
     Json.Shape.field "is_aborted" .bool, Json.Shape.optField "error" .string,
     Json.Shape.defField "attachment_sets" (.list AttachmentSet.shape) (.arr []),
     Json.Shape.field "elapsed" .duration]

def ofJson (j : Json) : RunCompletion :=
  let b (k : String) := ((j.get? k).bind Json.asBool?).getD false
  ⟨Statistics.ofJson ((j.get? "stats").getD .null), b "is_canceled", b "is_aborted",
    (j.get? "error").bind Json.asStr?,
    (((j.get? "attachment_sets").bind Json.asArr?).getD []).map AttachmentSet.ofJson,
    Duration.ofJson ((j.get? "elapsed").getD .null)⟩

end RunCompletion

/-- The severity of a log message raised during discovery or a run. -/
inductive MessageLevel where
  | informational
  | warning
  | error
  deriving DecidableEq, Repr, Inhabited

namespace MessageLevel

def all : List MessageLevel := [.informational, .warning, .error]

def name : MessageLevel → String
  | .informational => "informational"
  | .warning => "warning"
  | .error => "error"

def display : MessageLevel → String
  | .informational => "INFO"
  | .warning => "WARN"
  | .error => "ERROR"

def ofName? (s : String) : Option MessageLevel := all.find? (·.name == s)

def shape : Json.Shape := .units (all.map name)

def ofJson (j : Json) : MessageLevel := (j.asStr?.bind ofName?).getD .informational

end MessageLevel

end TestConductor
