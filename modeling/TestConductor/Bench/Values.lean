import TestConductor.Bench.Basic
import TestConductor.Protocol.Payload
import TestConductor.Model.Criteria
import TestConductor.Model.Events
/-! # Values of the protocol and the model

Requests about single values: errors and their wording, messages and their payloads, criteria,
test case events, statistics, completions, test results and attachment sets. Each answers what
the value's operations give.
-/
namespace TestConductor

namespace Bench

open Json (Shape)

def errorOp (req : Json) : Json :=
  match req.get? "error", req.get? "errors", req.get? "io", req.get? "json_text" with
  | some spec, _, _, _ =>
    let e := errorOfSpec spec
    Json.map [("kind", .str e.kindName), ("display", .str e.message), ("is_timeout", .bool e.isTimeout)]
  | _, some (.arr specs), _, _ =>
    match Error.ofList (specs.map errorOfSpec) with
    | .ok () => Json.map [("ok", .null)]
    | .error e => Json.map [("err", errorAnswer e), ("is_timeout", .bool e.isTimeout)]
  | _, _, some io, _ =>
    let kind : Error.IoKind := match strField io "kind" with
      | "UnexpectedEof" => .unexpectedEof
      | "ConnectionReset" => .connectionReset
      | "BrokenPipe" => .brokenPipe
      | _ => .other
    errorAnswer (Error.ofIo kind (strField io "message"))
  | _, _, _, some (.str text) =>
    match Json.parse text with
    | .ok _ => Json.map [("ok", .null)]
    | .error f => errorAnswer (.serialization f.message)
  | _, _, _, _ => fault "driver_input" "bad error request"

def messageAnswer (m : Message) : Json :=
  Json.map [("message_type", .str m.type.name), ("type_display", .str m.type.name),
    ("payload", m.payload), ("version", .nat m.version), ("display", .str m.display),
    ("encoded", .str m.encode)]

def messageDecodeOp (req : Json) : Json :=
  match Message.decode (strField req "line") with
  | .ok m => messageAnswer m
  | .error e => errorAnswer e

def messageNewOp (req : Json) : Except Json Json := do
  let t ← decodeAs MessageType.shape ((req.get? "message_type").getD .null)
  let t := (t.asStr?.bind MessageType.ofName?).getD .sessionEnd
  match req.get? "payload" with
  | some p => return messageAnswer (Message.withPayload t p)
  | none => return messageAnswer (Message.ofType t)

def payloadShape? : String → Option Shape
  | "start_discovery" => some Payload.startDiscovery
  | "discovery_complete" => some Payload.discoveryComplete
  | "test_run_start" => some Payload.testRunStart
  | "execution_complete" => some Payload.executionComplete
  | "test_message" => some Payload.testMessage
  | "before_test_run_start" => some Payload.beforeTestRunStart
  | "before_test_run_start_result" => some Payload.beforeTestRunStartResult
  | "test_host_launched" => some Payload.testHostLaunched
  | "after_test_run_end" => some Payload.afterTestRunEnd
  | "after_test_run_end_result" => some Payload.afterTestRunEndResult
  | "data_collection_message" => some Payload.dataCollectionMessage
  | "test_case_event" => some Payload.testCaseEvent
  | "test_case_end_result" => some Payload.testCaseEndResult
  | "test_cases" => some Payload.testCases
  | "test_run_changed" => some RunProgress.shape
  | _ => none

def payloadOp (req : Json) : Except Json Json := do
  let m ← decodeAs Message.shape ((req.get? "message").getD .null)
  let m := Message.ofJson m
  match payloadShape? (strField req "as") with
  | none => throw (fault "driver_input" "unknown payload name")
  | some s =>
    match m.payloadAs s with
    | .ok v => return Json.map [("ok", v)]
    | .error e => return errorAnswer e

def criteriaOp (req : Json) : Except Json Json := do
  match req.get? "discovery" with
  | some d =>
    let c := DiscoveryCriteria.ofJson (← decodeAs DiscoveryCriteria.shape d)
    let narrow := (((req.get? "narrow").bind Json.asArr?).getD []).filterMap Json.asStr?
    let built0 := match (req.get? "with_run_settings").bind Json.asStr? with
      | some r => c.withRunSettings r
      | none => c
    let built := match (req.get? "with_filter").bind Json.asStr? with
      | some f => built0.withFilter f
      | none => built0
    return Json.map [("criteria", c.toJson), ("narrowed", .arr (narrow.map fun n => (c.forSource n).toJson)),
      ("built", built.toJson), ("new", (DiscoveryCriteria.new c.sources).toJson)]
  | none =>
    let c := RunCriteria.ofJson (← fieldAs RunCriteria.shape req "run")
    let retargeted ← match req.get? "retarget" with
      | some t => do
        let t := RunTarget.ofJson (← decodeAs RunTarget.shape t)
        pure (c.retarget t).toJson
      | none => pure .null
    let built0 := match (req.get? "with_run_settings").bind Json.asStr? with
      | some r => c.withRunSettings r
      | none => c
    let built := match (req.get? "with_keep_alive").bind Json.asBool? with
      | some b => built0.withKeepAlive b
      | none => built0
    return Json.map [("criteria", c.toJson), ("sources", .strs c.sources),
      ("tests_by_source", .arr (c.testsBySource.map fun (src, ts) =>
        .arr [.str src, .strs (ts.map (·.fullyQualifiedName))])),
      ("has_specific_sources", .bool c.hasSpecificSources),
      ("has_specific_tests", .bool c.hasSpecificTests), ("built", built.toJson),
      ("retargeted", retargeted), ("constructed", (RunCriteria.ofTarget c.target).toJson)]

def testCaseEventOp (req : Json) : Except Json Json := do
  let t := TestCase.ofJson (← fieldAs TestCase.shape req "test_case")
  let ended ← match req.get? "outcome" with
    | some o => do
      let o := Outcome.ofJson (← decodeAs Outcome.shape o)
      pure (TestCaseEvent.ended t o).toJson
    | none => pure .null
  return Json.map [("started", (TestCaseEvent.started t).toJson), ("ended", ended),
    ("display", .str t.display)]

def statsView (st : Statistics) : Except Json Json := do
  let counts ← Outcome.all.mapM fun o =>
    match st.count? o with
    | some n => pure (o.name, Json.nat n)
    | none => throw (panicAnswer "attempt to add with overflow")
  return Json.map [("stats", st.toJson), ("counts", Json.map counts), ("display", .str st.display)]

def statsOp (req : Json) : Except Json Json := do
  let init ← match req.get? "initial" with
    | some j => do pure (Statistics.ofJson (← decodeAs Statistics.shape j))
    | none => pure Statistics.empty
  let ops := ((req.get? "ops").bind Json.asArr?).getD []
  let (_, out) ← ops.foldlM (fun (acc : Statistics × List Json) op => do
    let (st, out) := acc
    if let some o := op.get? "record" then
      let o := Outcome.ofJson (← decodeAs Outcome.shape o)
      match st.record? o with
      | some st' => pure (st', out ++ [← statsView st'])
      | none => throw (panicAnswer "attempt to add with overflow")
    else if let some m := op.get? "merge" then
      let m := Statistics.ofJson (← decodeAs Statistics.shape m)
      match st.merge? m with
      | some st' => pure (st', out ++ [← statsView st'])
      | none => pure (st, out ++ [panicAnswer "arithmetic overflow"])
    else if let some rs := op.get? "from_results" then
      let rs ← decodeAs (.list TestResult.shape) rs
      let outcomes := ((rs.asArr?).getD []).map fun r => (TestResult.ofJson r).outcome
      match Statistics.ofOutcomes? outcomes with
      | some st' => pure (st', out ++ [← statsView st'])
      | none => throw (panicAnswer "attempt to add with overflow")
    else pure (st, out ++ [.null])) (init, [])
  return .arr out

def millisField (j : Json) (k : String) : Duration := Duration.ofMillis (natField j k)

def runOutcomeJson : RunOutcome → Json
  | .completed => Json.map [("completed", .null)]
  | .canceled => Json.map [("canceled", .null)]
  | .aborted e => Json.map [("aborted", Json.opt .str e)]
  | .faulted e => Json.map [("faulted", .str e)]

def completeArgsOp (req : Json) : Except Json Json := do
  let args ← match req.get? "args", req.get? "aborted", req.get? "completed" with
    | some a, _, _ => do pure (RunCompletion.ofJson (← decodeAs RunCompletion.shape a))
    | _, some a, _ => pure (RunCompletion.aborted ((a.get? "error").bind Json.asStr?) (millisField a "elapsed_ms"))
    | _, _, some c => do
      let st ← match c.get? "stats" with
        | some s => do pure (Statistics.ofJson (← decodeAs Statistics.shape s))
        | none => pure Statistics.empty
      pure (RunCompletion.completed st (millisField c "elapsed_ms"))
    | _, _, _ => throw (fault "driver_input" "no completion")
  let changed ← match req.get? "changed" with
    | some ch => do
      let st := Statistics.ofJson (← fieldAs Statistics.shape ch "stats")
      let rs ← match ch.get? "results" with
        | some r => do pure ((((← decodeAs (.list TestResult.shape) r).asArr?).getD []).map TestResult.ofJson)
        | none => pure []
      pure (RunProgress.new st rs).toJson
    | none => pure .null
  return Json.map [("args", args.toJson), ("outcome", runOutcomeJson args.outcome), ("changed", changed)]

def now : Timestamp := ⟨Timestamp.daysOfDate 2026 1 1 * 86400, 0⟩

def testResultOp (req : Json) : Except Json Json := do
  let t := TestCase.ofJson (← fieldAs TestCase.shape req "test_case")
  let t := match (req.get? "display_name").bind Json.asStr? with
    | some n => { t with displayName := n }
    | none => t
  let o ← match req.get? "outcome" with
    | some o => do pure (Outcome.ofJson (← decodeAs Outcome.shape o))
    | none => pure Outcome.none
  let r := TestResult.new t o now
  let r := match (req.get? "error").bind Json.asStr? with
    | some e => r.withError e
    | none => r
  let r ← match r.withDuration (millisField req "duration_ms") with
    | some r => pure r
    | none => throw (panicAnswer "`DateTime - TimeDelta` overflowed")
  let spanNanos := (r.endTime.seconds - r.startTime.seconds) * 1000000000 +
    ((r.endTime.nanos : Int) - r.startTime.nanos)
  return Json.map [("display", .str r.display), ("case_display", .str t.display),
    ("symbol", .str o.symbol), ("outcome_display", .str o.display), ("is_success", .bool o.isSuccess),
    ("span_ms", .int (spanNanos.tdiv 1000000)), ("duration", r.duration.toJson)]

def attachmentSetOp (req : Json) : Except Json Json := do
  let pairs := ((req.get? "attachments").bind Json.asArr?).getD []
  let built := pairs.foldl (fun s p =>
    let items := p.asArr?.getD []
    let nth (i : Nat) := ((items[i]?).bind Json.asStr?).getD ""
    s.withAttachment (nth 0) (nth 1)) (AttachmentSet.new (strField req "uri") (strField req "display_name"))
  let parsed := match req.get? "parse" with
    | some p =>
      match Json.check AttachmentSet.shape p with
      | .ok v =>
        let a := AttachmentSet.ofJson v
        Json.map [("ok", a.toJson), ("equals_built", .bool (a == built))]
      | .error f => fault "Deserialize" f.message
    | none => .null
  return Json.map [("built", built.toJson), ("parsed", parsed)]

end Bench

end TestConductor
