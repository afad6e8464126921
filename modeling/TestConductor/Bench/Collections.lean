import TestConductor.Bench.Engines
/-! # Data collection sessions

The data collection side over a preloaded scripted host standing for the conductor, with
scripted data collectors and a scripted test case channel, driven step by step or served in a
task of its own. After each step: the session's state, the messages sent to the conductor and
the calls the collectors and the channel got.
-/
namespace TestConductor

namespace Bench

def collectorScriptOf (j : Json) : Except Json CollectorScript := do
  let sets (k : String) : Except Json (List AttachmentSet) :=
    (listField j k).mapM fun a => do pure (AttachmentSet.ofJson (← decodeAs AttachmentSet.shape a))
  return { env := ((j.get? "env").bind Json.asObj? |>.getD []).map fun (k, v) => (k, v.asStr?.getD "")
           eventsRequired := boolField j "events_required"
           attachments := ← sets "attachments"
           caseAttachments := ← sets "test_case_attachments" }

def caseScriptOf (j : Json) : CaseChannelScript :=
  { port := ((j.get? "port").bind Json.asNat?).getD 4567
    initError := (j.get? "init_error").map errorOfSpec
    connects := ((j.get? "connects").bind Json.asBool?).getD true
    processError := (j.get? "process_error").map errorOfSpec
    panic := (j.get? "panic").bind Json.asStr? }

def collectorCallJson : CollectorCall → Json
  | .load s => Json.map [("load_data_collectors", .str s)]
  | .sessionStarted => .str "session_started"
  | .hostLaunched pid => Json.map [("test_host_launched", .nat pid)]
  | .caseStarted e => Json.map [("test_case_started", e)]
  | .caseEnded e => Json.map [("test_case_ended", e)]
  | .sessionEnded b => Json.map [("session_ended", .bool b)]
  | .dispose => .str "dispose"

def caseCallJson : CaseChannelCall → Json
  | .prepare => .str "initialize_communication"
  | .wait d => Json.map [("wait", d.toJson)]
  | .process => .str "process_requests"
  | .close => .str "close"

def collectionTimeoutOf (req : Json) : Except Json Duration := do
  match req.get? "timeout" with
  | some t =>
    if let some n := (t.get? "secs").bind Json.asNat? then return Duration.ofSecs n
    let cfg := (t.get? "config").orElse fun _ => t.get? "engine"
    if let some c := cfg then
      return Duration.ofSecs (Config.ofJson (← decodeAs Config.shape c)).connectionTimeoutSecs
    if let some v := (t.get? "env").bind Json.asStr? then
      return Duration.ofSecs (connectionTimeoutOf [(envName "CONNECTION_TIMEOUT", v)])
    return Duration.ofSecs 90
  | none => return Duration.ofSecs 90

def collectionSession (req : Json) (timeout : Duration) (endClose : Bool) : Except Json Session := do
  let hosts : HostScript :=
    { initial := scriptOf ((req.get? "messages").getD (.arr [])), preload := true, endClose := endClose,
      sendErrors := match req.get? "send_error" with
        | some e => [(0, errorOfSpec e)]
        | none => [] }
  let start : World := { hostScript := hosts, collection := ⟨0, timeout, .awaitingSessionStart, false, none⟩,
                         collectorScript := ← collectorScriptOf ((req.get? "manager").getD (.obj [])),
                         caseScript := caseScriptOf ((req.get? "events").getD (.obj [])) }
  return setup (Session.new start) (discard ScriptedHost.make)

def collectionCommand (st : Json) : Except Json (Act Reply) := do
  match strField st "do" with
  | "process" => return (do pure (.unit (← Collection.serve loopFuel)))
  | "send_message" =>
    let level := match (st.get? "level").bind Json.asStr? with
      | some l => (MessageLevel.ofName? l).getD .informational
      | none => .informational
    let uri := (st.get? "uri").bind Json.asStr?
    return (do pure (.unit (← Collection.sendMessage level (strField st "message") uri)))
  | "initialize_communication" =>
    let endpoint := "127.0.0.1:" ++ toString (natField st "port")
    return (do pure (.text (← ScriptedHost.connect 0 endpoint)))
  | "close" => return (do ScriptedHost.disconnect 0; pure (.unit (.ok ())))
  | other => throw (fault "driver_input" ("unknown step " ++ other))

def collectionOp (req : Json) : Except Json Json := do
  let timeout ← collectionTimeoutOf req
  let mut s ← collectionSession req timeout (strField req "end" != "pend")
  let mut out : List Json := []
  for st in listField req "steps" do
    let cmd ← collectionCommand st
    let w := s.state
    let (sent, managerCalls, caseCalls) := (w.sent.length, w.collectorCalls.length, w.caseCalls.length)
    let (r, s') := s.run cmd
    s := s'
    let w := s.state
    out := out ++ [Json.map [("result", replyJson r), ("state", .str w.collection.state.name),
      ("session", .bool w.collection.hasSession),
      ("sent", .arr ((w.sent.drop sent).map fun (_, m) => messageJson m)),
      ("manager", .arr ((w.collectorCalls.drop managerCalls).map collectorCallJson)),
      ("events", .arr ((w.caseCalls.drop caseCalls).map caseCallJson)),
      ("connection_timeout", w.collection.timeout.toJson)]]
  return .arr out

def collectionTaskOp (req : Json) : Except Json Json := do
  let s ← collectionSession req (Duration.ofSecs 5) true
  let (r, s) := s.run (do
    match ← Async.join (← Async.spawn .collect) with
    | .returned r => pure r
    | .panicked m => Async.panic m)
  let w := s.state
  return Json.map [("result", replyJson r), ("state", .str w.collection.state.name),
    ("manager", .arr (w.collectorCalls.map collectorCallJson)), ("events", .arr (w.caseCalls.map caseCallJson)),
    ("sent", .arr (sortedByText (w.sent.map fun (_, m) => messageJson m)))]

end Bench

end TestConductor
