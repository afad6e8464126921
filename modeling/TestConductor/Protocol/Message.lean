import TestConductor.Json.Read
import TestConductor.Json.Check
import TestConductor.Json.Write
import TestConductor.Text.Blank
import TestConductor.Error
/-! # Protocol messages

A message between the orchestrator and a test host or data collector is a type tag, a JSON
payload whose shape the tag determines, and the protocol version. On the wire a message is one
line of compact JSON with the fields `message_type`, `payload` and `version` in that order.
Decoding ignores trailing blanks, takes a missing payload as `null`, ignores unknown fields, and
refuses any version other than `Message.version`.
-/
namespace TestConductor

/-- The type tag of a protocol message. -/
inductive MessageType where
  | startDiscovery
  | testCasesFound
  | discoveryComplete
  | startTestExecutionWithSources
  | startTestExecutionWithTests
  | testRunStatsChange
  | executionComplete
  | cancelTestRun
  | abortTestRun
  | testMessage
  | sessionEnd
  | beforeTestRunStart
  | beforeTestRunStartResult
  | testHostLaunched
  | afterTestRunEnd
  | afterTestRunEndResult
  | dataCollectionMessage
  | testCaseStart
  | testCaseEnd
  | testCaseEndResult
  deriving DecidableEq, Repr, Inhabited

namespace MessageType

def all : List MessageType :=
  [.startDiscovery, .testCasesFound, .discoveryComplete, .startTestExecutionWithSources,
   .startTestExecutionWithTests, .testRunStatsChange, .executionComplete, .cancelTestRun,
   .abortTestRun, .testMessage, .sessionEnd, .beforeTestRunStart, .beforeTestRunStartResult,
   .testHostLaunched, .afterTestRunEnd, .afterTestRunEndResult, .dataCollectionMessage,
   .testCaseStart, .testCaseEnd, .testCaseEndResult]

def name : MessageType → String
  | .startDiscovery => "start_discovery"
  | .testCasesFound => "test_cases_found"
  | .discoveryComplete => "discovery_complete"
  | .startTestExecutionWithSources => "start_test_execution_with_sources"
  | .startTestExecutionWithTests => "start_test_execution_with_tests"
  | .testRunStatsChange => "test_run_stats_change"
  | .executionComplete => "execution_complete"
  | .cancelTestRun => "cancel_test_run"
  | .abortTestRun => "abort_test_run"
  | .testMessage => "test_message"
  | .sessionEnd => "session_end"
  | .beforeTestRunStart => "before_test_run_start"
  | .beforeTestRunStartResult => "before_test_run_start_result"
  | .testHostLaunched => "test_host_launched"
  | .afterTestRunEnd => "after_test_run_end"
  | .afterTestRunEndResult => "after_test_run_end_result"
  | .dataCollectionMessage => "data_collection_message"
  | .testCaseStart => "test_case_start"
  | .testCaseEnd => "test_case_end"
  | .testCaseEndResult => "test_case_end_result"

def caseName : MessageType → String
  | .startDiscovery => "StartDiscovery"
  | .testCasesFound => "TestCasesFound"
  | .discoveryComplete => "DiscoveryComplete"
  | .startTestExecutionWithSources => "StartTestExecutionWithSources"
  | .startTestExecutionWithTests => "StartTestExecutionWithTests"
  | .testRunStatsChange => "TestRunStatsChange"
  | .executionComplete => "ExecutionComplete"
  | .cancelTestRun => "CancelTestRun"
  | .abortTestRun => "AbortTestRun"
  | .testMessage => "TestMessage"
  | .sessionEnd => "SessionEnd"
  | .beforeTestRunStart => "BeforeTestRunStart"
  | .beforeTestRunStartResult => "BeforeTestRunStartResult"
  | .testHostLaunched => "TestHostLaunched"
  | .afterTestRunEnd => "AfterTestRunEnd"
  | .afterTestRunEndResult => "AfterTestRunEndResult"
  | .dataCollectionMessage => "DataCollectionMessage"
  | .testCaseStart => "TestCaseStart"
  | .testCaseEnd => "TestCaseEnd"
  | .testCaseEndResult => "TestCaseEndResult"

def ofName? (s : String) : Option MessageType := all.find? (·.name == s)

def shape : Json.Shape := .units (all.map name)

end MessageType

/-- A protocol message. -/
structure Message where
  type : MessageType
  payload : Json
  version : Nat
  deriving Repr, Inhabited

namespace Message

def current : Nat := 1

def ofType (t : MessageType) : Message := ⟨t, .null, current⟩

def withPayload (t : MessageType) (p : Json) : Message := ⟨t, p, current⟩

def shape : Json.Shape :=
  .record "Message"
    [Json.Shape.field "message_type" MessageType.shape,
     Json.Shape.defField "payload" .any .null,
     Json.Shape.field "version" Json.Shape.u32]

def toJson (m : Message) : Json :=
  .obj [("message_type", .str m.type.name), ("payload", m.payload), ("version", .nat m.version)]

def ofJson (j : Json) : Message :=
  let t := ((j.get? "message_type").bind Json.asStr?).bind MessageType.ofName?
  ⟨t.getD .sessionEnd, (j.get? "payload").getD .null, ((j.get? "version").bind Json.asNat?).getD 0⟩

def encode (m : Message) : String := m.toJson.compact

def decode (line : String) : Except Error Message :=
  match Json.readText shape (Text.trimEnd line) with
  | .error f => .error (.protocol ("Malformed message: " ++ f.message))
  | .ok j =>
    let m := ofJson j
    if m.version = current then .ok m
    else .error (.protocol s!"Protocol version mismatch: expected {current}, got {m.version}")

def display (m : Message) : String := m.type.name ++ s!" (v{m.version})"

def payloadAs (m : Message) (s : Json.Shape) : Except Error Json :=
  match Json.check s m.payload with
  | .ok j => .ok j
  | .error f => .error (.protocol ("Malformed payload for " ++ m.type.name ++ ": " ++ f.message))

end Message

end TestConductor
