import TestConductor.Delivery
import TestConductor.Protocol.Payload
/-! # Test-host proxies

A test-host proxy does a unit of work in a test host of its own: it claims its bookkeeping,
sets up a host, sends it the start of the discovery or the run, and follows the host's messages
in a task of its own. Found tests, progress and log messages go to the handler as they come; the
completion ends the unit. A host that goes away first, or sends something unexpected, ends the
unit aborted, with an error logged unless an abort was asked for. A unit that cannot be started
is reported at once as an aborted completion after an error message.
-/
namespace TestConductor

/-- What one message of a test host means for its unit: an event to pass on, or the completion,
with whether it aborted. -/
inductive HostReply where
  | report (e : CallerEvent)
  | done (e : CallerEvent) (aborted : Bool)

namespace HostReply

def testCases (j : Json) : List TestCase := (j.asArr?.getD []).map TestCase.ofJson

def log (j : Json) : CallerEvent :=
  .log (MessageLevel.ofJson ((j.get? "level").getD .null)) (((j.get? "message").bind Json.asStr?).getD "")

def ofDiscovery (m : Message) : Except Error HostReply :=
  match m.type with
  | .testCasesFound => do
    let j ← m.payloadAs Payload.testCases
    return .report (.discovered (testCases j))
  | .testMessage => do
    let j ← m.payloadAs Payload.testMessage
    return .report (log j)
  | .discoveryComplete => do
    let j ← m.payloadAs Payload.discoveryComplete
    let aborted := ((j.get? "is_aborted").bind Json.asBool?).getD false
    let chunk := match j.get? "last_discovered_tests" with
      | some (.arr ts) => some (ts.map TestCase.ofJson)
      | _ => none
    return .done (.discoveryComplete (((j.get? "total_tests").bind Json.asInt?).getD 0) chunk aborted) aborted
  | t => .error (.unexpectedMessage t.name)

def ofRun (m : Message) : Except Error HostReply :=
  match m.type with
  | .testRunStatsChange => do
    let j ← m.payloadAs RunProgress.shape
    return .report (.statsChange (RunProgress.ofJson j))
  | .testMessage => do
    let j ← m.payloadAs Payload.testMessage
    return .report (log j)
  | .executionComplete => do
    let j ← m.payloadAs Payload.executionComplete
    let c := RunCompletion.ofJson ((j.get? "complete_args").getD .null)
    let chunk := match j.get? "last_run_tests" with
      | some .null | none => none
      | some p => some (RunProgress.ofJson p)
    let attachments := (((j.get? "run_attachments").bind Json.asArr?).getD []).map AttachmentSet.ofJson
    let metrics := ((j.get? "metrics").bind Json.asObj?).getD []
    return .done (.runComplete c chunk attachments metrics) c.isAborted
  | t => .error (.unexpectedMessage t.name)

end HostReply

namespace TestHost

def joined (sources : List String) : String := ", ".intercalate sources

def discoveryStart (c : DiscoveryCriteria) : Message :=
  Message.withPayload .startDiscovery
    (.obj [("sources", .arr (c.sources.map .str)), ("run_settings", Json.opt Json.str c.runSettings),
           ("test_case_filter", Json.opt Json.str c.testCaseFilter)])

def runStart (c : RunCriteria) : Message :=
  match c.target with
  | .sources ss =>
    Message.withPayload .startTestExecutionWithSources
      (.obj [("sources", .arr (ss.map .str)), ("tests", .arr []),
             ("run_settings", Json.opt Json.str c.runSettings),
             ("test_case_filter", Json.opt Json.str c.testCaseFilter), ("keep_alive", .bool c.keepAlive)])
  | .tests ts =>
    Message.withPayload .startTestExecutionWithTests
      (.obj [("sources", .arr []), ("tests", .arr (ts.map TestCase.toJson)),
             ("run_settings", Json.opt Json.str c.runSettings),
             ("test_case_filter", .null), ("keep_alive", .bool c.keepAlive)])

def openUnit (i : Nat) (sources : List String) (start : Message) : Act (Except Error Nat) := do
  match ← Operation.setupChannel i sources with
  | .error e => return .error e
  | .ok k =>
    match ← Worker.send k start with
    | .error e => return .error e
    | .ok () => return .ok k

def reportRunFailure (h : Handler) (message : String) : Act Unit := do
  h.deliver (.log .error message)
  h.deliver (.runComplete (RunCompletion.aborted (some message) Duration.zero) none [] [])

/-- Takes a discovery unit on proxy `i`. Its listener is timed like a run's, and never reads the
time. -/
def discover (i : Nat) (c : DiscoveryCriteria) (h : Handler) : Act (Except Error Unit) := do
  if let .error e ← Operation.begin i then return .error e
  let sw ← startStopwatch
  match ← openUnit i c.sources (discoveryStart c) with
  | .ok k => Async.fork (.listen i k h c.sources sw)
  | .error e =>
    Operation.fail i
    h.deliver (.log .error ("Failed to start test discovery for " ++ joined c.sources ++ ": " ++ e.message))
    h.deliver (.discoveryComplete (-1) none true)
  return .ok ()

def start (i : Nat) (c : RunCriteria) (h : Handler) : Act (Except Error Unit) := do
  if let .error e ← Operation.begin i then return .error e
  let sw ← startStopwatch
  match ← openUnit i c.sources (runStart c) with
  | .ok k => Async.fork (.listen i k h c.sources sw)
  | .error e =>
    Operation.fail i
    reportRunFailure h ("Failed to start test run for " ++ joined c.sources ++ ": " ++ e.message)
  return .ok ()

def abortDiscovery (i : Nat) : Act Unit := do
  if let some k ← Operation.requestAbort i then Worker.stop k

def abortRun (i : Nat) : Act Unit := do
  if let some k ← Operation.requestAbort i then
    if let .error _ ← Worker.send k (Message.ofType .abortTestRun) then Worker.stop k

def cancelRun (i : Nat) : Act Unit := do
  if ← Operation.isBusy i then
    discard (Operation.send i (Message.ofType .cancelTestRun))

/-- How a unit's messages ended: with a completion, or with the failure that cut it short. -/
inductive Ending where
  | completed
  | failed (e : Error)

/-- Follows the messages of host `k` of proxy `i` for a unit, passing events on to `h`, until
the completion or a failure. -/
def follow (i k : Nat) (h : Handler) (read : Message → Except Error HostReply) : Nat → Act Ending
  | 0 => pure (.failed .connectionClosed)
  | fuel + 1 => do
    match ← Worker.nextEvent k with
    | .connected _ => follow i k h read fuel
    | .disconnected e => pure (.failed (e.getD .connectionClosed))
    | .message m =>
      match read m with
      | .error e => pure (.failed e)
      | .ok (.report e) => do h.deliver e; follow i k h read fuel
      | .ok (.done e aborted) => do
        Operation.complete i aborted k
        h.deliver e
        pure .completed

def listenDiscovery (i k : Nat) (h : Handler) (sources : List String) (fuel : Nat) : Act Unit := do
  match ← follow i k h HostReply.ofDiscovery fuel with
  | .completed => pure ()
  | .failed e =>
    if !(← Async.reads fun w => (w.operation i).abortRequested) then
      h.deliver (.log .error ("Test host for " ++ joined sources ++ " stopped before discovery completed: " ++ e.message))
    Operation.complete i true k
    h.deliver (.discoveryComplete (-1) none true)

def listenRun (i k : Nat) (h : Handler) (sources : List String) (sw : Stopwatch) (fuel : Nat) : Act Unit := do
  match ← follow i k h HostReply.ofRun fuel with
  | .completed => pure ()
  | .failed e =>
    let reason ← if ← Async.reads fun w => (w.operation i).abortRequested then pure none else do
      let reason := "The active test run was aborted. Test host for " ++ joined sources ++ " stopped: " ++ e.message
      h.deliver (.log .error reason)
      pure (some reason)
    Operation.complete i true k
    let now ← wallClock
    h.deliver (.runComplete (RunCompletion.aborted reason (sw.elapsed now)) none [] [])

def listen (i k : Nat) (h : Handler) (sources : List String) (sw : Stopwatch) (fuel : Nat) : Act Unit := do
  match ← Async.reads fun w => w.proxy i with
  | .execution _ => listenRun i k h sources sw fuel
  | _ => listenDiscovery i k h sources fuel

end TestHost

end TestConductor
