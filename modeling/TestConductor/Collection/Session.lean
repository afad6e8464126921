import TestConductor.Scripted.Transport
import TestConductor.Protocol.Payload
import TestConductor.Text.Escape
/-! # Serving a data collection session

The data collection side reads the conductor's messages until the session ends. A session start
loads the data collectors with the run settings, starts their session, and when they want events
per test case opens the test case channel and serves it in a task of its own; it answers with
the collectors' environment variables, whether test case events are wanted, and the channel's
port. A launched test host is reported to the collectors. The session end waits for the test
case task, whose failure ends the session as an aggregate; otherwise the collectors end their
session and their attachments are sent back. An ended session closes the test case channel,
disposes of the collectors and is terminated. Any other message, and any failure to receive or
to read a payload, ends the serving with that error.
-/
namespace TestConductor

namespace Collection

def update (f : Collection → Collection) : Act Unit :=
  Async.modify fun w => { w with collection := f w.collection }

def logCollector (c : CollectorCall) : Act Unit :=
  Async.modify fun w => { w with collectorCalls := w.collectorCalls ++ [c] }

def logChannel (c : CaseChannelCall) : Act Unit :=
  Async.modify fun w => { w with caseCalls := w.caseCalls ++ [c] }

def connectTimeout (timeout : Duration) : Error :=
  .connectionTimeout "datacollector" "testhost" timeout.secs "TEST_ORCHESTRATOR_CONNECTION_TIMEOUT"

def serveCases : Act (Except Error Unit) := do
  let timeout ← Async.reads (·.collection.timeout)
  logChannel (.wait timeout)
  let script ← Async.reads (·.caseScript)
  if !script.connects then return .error (connectTimeout timeout)
  logChannel .process
  if let some m := script.panic then Async.panic m
  return match script.processError with
    | some e => .error e
    | none => .ok ()

def terminate : Act Unit := do
  logChannel .close
  logCollector .dispose
  update fun c => { c with state := .terminated }

def send (m : Message) : Act (Except Error Unit) := do
  ScriptedHost.send (← Async.reads (·.collection.host)) m

def begin (m : Message) : Act (Except Error Unit) := do
  match m.payloadAs Payload.beforeTestRunStart with
  | .error e => return .error e
  | .ok p =>
    update fun c => { c with state := .sessionActive, hasSession := true }
    let script ← Async.reads (·.collectorScript)
    logCollector (.load (((p.get? "settings").bind Json.asStr?).getD ""))
    logCollector .sessionStarted
    let port ← if script.eventsRequired then do
        logChannel .prepare
        match ← Async.reads (·.caseScript) with
        | { initError := some e, .. } => pure (Except.error e)
        | cs =>
          let t ← Async.spawn .caseEvents
          update fun c => { c with caseTask := some t }
          pure (.ok cs.port)
      else pure (.ok 0)
    match port with
    | .error e => return .error e
    | .ok port =>
      send (Message.withPayload .beforeTestRunStartResult
        (.obj [("environment_variables", .obj (script.env.map fun (k, v) => (k, .str v))),
               ("are_test_case_events_required", .bool script.eventsRequired),
               ("data_collection_events_port", .nat port)]))

def caseOutcome (task : Nat) : TaskEnd Reply → Except Error Unit
  | .returned (.unit r) => r
  | .returned _ => .ok ()
  | .panicked m =>
    .error (.invalidState ("Test case event handler panicked: task " ++ toString task ++ " panicked with message " ++
      Text.quoted m))

def finish (m : Message) : Act (Except Error Unit) := do
  match m.payloadAs Payload.afterTestRunEnd with
  | .error e => return .error e
  | .ok p =>
    update fun c => { c with state := .awaitingSessionEnd }
    let task ← Async.change fun w => (w.collection.caseTask, { w with collection := { w.collection with caseTask := none } })
    if let some t := task then
      if let .error e := caseOutcome t (← Async.join t) then
        terminate
        return .error (.aggregate [e])
    logCollector (.sessionEnded (((p.get? "is_cancelled").bind Json.asBool?).getD false))
    let attachments ← Async.reads (·.collectorScript.attachments)
    let sent ← send (Message.withPayload .afterTestRunEndResult
      (.obj [("attachment_sets", .arr (attachments.map AttachmentSet.toJson)), ("metrics", .obj [])]))
    terminate
    return sent

def serve : Nat → Act (Except Error Unit)
  | 0 => pure (.error .connectionClosed)
  | fuel + 1 => do
    match ← ScriptedHost.receive (← Async.reads (·.collection.host)) fuel with
    | .error e => return .error e
    | .ok m =>
      match m.type with
      | .beforeTestRunStart =>
        match ← begin m with
        | .error e => return .error e
        | .ok () => serve fuel
      | .testHostLaunched =>
        match m.payloadAs Payload.testHostLaunched with
        | .error e => return .error e
        | .ok p =>
          logCollector (.hostLaunched (((p.get? "process_id").bind Json.asNat?).getD 0))
          serve fuel
      | .afterTestRunEnd => finish m
      | t => return .error (.unexpectedMessage t.name)

def sendMessage (level : MessageLevel) (message : String) (uri : Option String) : Act (Except Error Unit) :=
  send (Message.withPayload .dataCollectionMessage
    (.obj [("level", .str level.name), ("message", .str message), ("data_collector_uri", Json.opt .str uri)]))

end Collection

end TestConductor
