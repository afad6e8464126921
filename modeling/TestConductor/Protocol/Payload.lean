import TestConductor.Protocol.Message
import TestConductor.Model.Run
/-! # Payload shapes

The shape of the payload that each type of message carries. Reading a payload against its
shape gives it in canonical form: fields in declaration order, defaults filled in.
-/
namespace TestConductor

namespace Payload

open Json.Shape

def startDiscovery : Json.Shape :=
  .record "StartDiscoveryPayload"
    [field "sources" (.list .string), optField "run_settings" .string,
     optField "test_case_filter" .string]

def discoveryComplete : Json.Shape :=
  .record "DiscoveryCompletePayload"
    [field "total_tests" i64, defField "last_discovered_tests" (.optional (.list TestCase.shape)) .null,
     field "is_aborted" .bool]

def testRunStart : Json.Shape :=
  .record "TestRunStartPayload"
    [defField "sources" (.list .string) (.arr []), defField "tests" (.list TestCase.shape) (.arr []),
     optField "run_settings" .string, optField "test_case_filter" .string, field "keep_alive" .bool]

def executionComplete : Json.Shape :=
  .record "ExecutionCompletePayload"
    [field "complete_args" RunCompletion.shape,
     defField "last_run_tests" (.optional RunProgress.shape) .null,
     defField "run_attachments" (.list AttachmentSet.shape) (.arr []),
     defField "metrics" Metrics.shape (.obj [])]

def testMessage : Json.Shape :=
  .record "TestMessagePayload" [field "level" MessageLevel.shape, field "message" .string]

def beforeTestRunStart : Json.Shape :=
  .record "BeforeTestRunStartPayload"
    [field "settings" .string, defField "sources" (.list .string) (.arr [])]

def beforeTestRunStartResult : Json.Shape :=
  .record "BeforeTestRunStartResultPayload"
    [field "environment_variables" (.dict .string), field "are_test_case_events_required" .bool,
     field "data_collection_events_port" u16]

def testHostLaunched : Json.Shape := .record "TestHostLaunchedPayload" [field "process_id" u32]

def afterTestRunEnd : Json.Shape := .record "AfterTestRunEndPayload" [field "is_cancelled" .bool]

def afterTestRunEndResult : Json.Shape :=
  .record "AfterTestRunEndResultPayload"
    [field "attachment_sets" (.list AttachmentSet.shape), defField "metrics" Metrics.shape (.obj [])]

def dataCollectionMessage : Json.Shape :=
  .record "DataCollectionMessagePayload"
    [field "level" MessageLevel.shape, field "message" .string,
     defField "data_collector_uri" (.optional .string) .null]

def testCaseEvent : Json.Shape :=
  .record "TestCaseEventPayload"
    [field "test_case_id" Uuid.shape, field "test_case_name" .string,
     defField "outcome" (.optional Outcome.shape) .null, defField "is_child_test_case" .bool (.bool false)]

def testCaseEndResult : Json.Shape :=
  .record "TestCaseEndResultPayload" [field "attachment_sets" (.list AttachmentSet.shape)]

def testCases : Json.Shape := .list TestCase.shape

end Payload

/-- The start or end of one test case, as reported on the event channel. -/
structure TestCaseEvent where
  testCaseId : Uuid
  testCaseName : String
  outcome : Option Outcome
  isChild : Bool
  deriving DecidableEq, Repr, Inhabited

namespace TestCaseEvent

def started (t : TestCase) : TestCaseEvent := ⟨t.id, t.fullyQualifiedName, none, false⟩

def ended (t : TestCase) (o : Outcome) : TestCaseEvent := { started t with outcome := some o }

def toJson (e : TestCaseEvent) : Json :=
  .obj [("test_case_id", .str e.testCaseId.render), ("test_case_name", .str e.testCaseName),
    ("outcome", Json.opt (fun o => .str o.name) e.outcome), ("is_child_test_case", .bool e.isChild)]

def ofJson (j : Json) : TestCaseEvent :=
  let id := match Uuid.parse (((j.get? "test_case_id").bind Json.asStr?).getD "") with
    | .ok u => u
    | .error _ => default
  ⟨id, ((j.get? "test_case_name").bind Json.asStr?).getD "",
    ((j.get? "outcome").bind Json.asStr?).bind Outcome.ofName?,
    ((j.get? "is_child_test_case").bind Json.asBool?).getD false⟩

end TestCaseEvent

end TestConductor
