import TestConductor.Bench.Views
import TestConductor.Bench.Scripts
/-! # Proxy sessions

A test-host proxy over scripted hosts and launches, its test-host bookkeeping on its own, and an
in-process proxy over a scripted engine, each driven step by step. After each step: the proxy's
state, the events reported to the caller, the messages the hosts received, the launches and the
state of the hosts, or the calls the engine got.
-/
namespace TestConductor

namespace Bench

def testhostOf (req : Json) : Except Json HostConfig := do
  match req.get? "testhost" with
  | some j => pure (HostConfig.ofJson (← decodeAs HostConfig.shape j))
  | none => pure { HostConfig.default with executable := "testhost" }

def proxySession (req : Json) (p : Proxy) (hook : Bool) : Session :=
  let start : World := { hostScript := hostScriptOf ((req.get? "host").getD (.obj [])) false,
                         proxies := [p], hookProxy := if hook then some 0 else none }
  Session.new start

def proxyName (req : Json) : String := ((req.get? "id").bind Json.asStr?).getD "proxy-1"

def lifecycleCommand (st : Json) : Except Json (Act Reply) := do
  match strField st "do" with
  | "initialize" => return (do pure (.unit (← Proxy.prepare 0)))
  | "cancel" => return (do Proxy.cancel 0; pure .none)
  | "abort" => return (do Proxy.abort 0; pure .none)
  | "close" => return (do Proxy.close 0; pure .none)
  | "sleep" => return (do Async.sleep (natField st "ms" * 1000000); pure .none)
  | "discover" =>
    let c := DiscoveryCriteria.ofJson (← fieldAs DiscoveryCriteria.shape st "criteria")
    return (do pure (.unit (← Proxy.take 0 (.discovery c) .caller)))
  | "start" =>
    let c := RunCriteria.ofJson (← fieldAs RunCriteria.shape st "criteria")
    return (do pure (.unit (← Proxy.take 0 (.run c) .caller)))
  | other => throw (fault "driver_input" ("unknown step " ++ other))

/-- The state of a test-host proxy's bookkeeping, with the hosts' traffic since `sent` and
`launches`. -/
def operationJson (w : World) (sent launches : Nat) : List (String × Json) :=
  let o := w.operation 0
  [("state", .str o.state.name), ("busy", .bool (o.state == .busy)),
   ("abort_requested", .bool o.abortRequested), ("sent", .arr ((w.sent.drop sent).map sentJson)),
   ("launches", .arr ((w.launches.drop launches).map launchJson)), ("hosts", hostsJson w)]

def proxyOp (req : Json) : Except Json Json := do
  let o := Operation.new (proxyName req) (← testhostOf req)
  let p : Proxy := if strField req "kind" == "execution" then .execution o else .discovery o
  let mut s := proxySession req p false
  let mut out : List Json := []
  for st in listField req "steps" do
    let cmd ← lifecycleCommand st
    let sent := s.state.sent.length
    let launches := s.state.launches.length
    let (r, s') := s.run cmd
    let (events, s'') := drainEvents s'
    s := s''
    out := out ++ [Json.map ([("result", replyJson r), ("shared", .bool o.isShared),
      ("events", .arr (events.map (eventJson true)))] ++ operationJson s.state sent launches)]
  return Json.map [("id", .str (proxyName req)), ("steps", .arr out)]

def operationOp (req : Json) : Except Json Json := do
  let o := Operation.new (proxyName req) (← testhostOf req)
  let debug := boolField req "debug"
  let mut s := proxySession req (.discovery o) true
  let mut held : List Nat := []
  let mut out : List Json := []
  for st in listField req "steps" do
    let sent := s.state.sent.length
    let launches := s.state.launches.length
    let mut result := Json.null
    match strField st "do" with
    | "begin" =>
      let (r, s') := s.run (do pure (.unit (← Operation.begin 0)))
      s := s'
      result := replyJson r
    | "setup" =>
      let sources := (listField st "sources").filterMap Json.asStr?
      let (r, s') := s.run (do pure (.number (← Operation.setupChannel 0 sources)))
      s := s'
      match r with
      | some (.returned (.number (.ok k))) =>
        held := k :: held
        result := Json.map ([("ok", .str (s.state.worker k).name)] ++
          (if debug then [("debug", .str "WorkerChannel \x7b .. \x7d")] else []))
      | _ => result := replyJson r
    | "complete" =>
      match held with
      | k :: rest =>
        held := rest
        let (_, s') := s.run (do Operation.complete 0 (boolField st "aborted") k; pure .none)
        s := s'
        result := .bool true
      | [] => result := .bool false
    | "fail" =>
      let (r, s') := s.run (do Operation.fail 0; pure .none)
      s := s'
      result := replyJson r
    | "request_abort" =>
      let (r, s') := s.run (do
        let k ← Operation.requestAbort 0
        pure (.name (← Async.reads fun w => k.map fun k => (w.worker k).name)))
      s := s'
      result := replyJson r
    | "send" =>
      let m := Message.ofJson (← fieldAs Message.shape st "message")
      let (r, s') := s.run (do pure (.unit (← Operation.send 0 m)))
      s := s'
      result := replyJson r
    | "close" =>
      let (r, s') := s.run (do Operation.close 0; pure .none)
      s := s'
      result := replyJson r
    | "initialize" =>
      let (r, s') := s.run (do pure (.unit (← Operation.prepare 0)))
      s := s'
      result := replyJson r
    | other => throw (fault "driver_input" ("unknown step " ++ other))
    out := out ++ [Json.map ([("result", result)] ++ operationJson s.state sent launches)]
  return .arr out

def engineCallJson : EngineCall → Json
  | .prepare => .str "initialize"
  | .start (.sources ss) => Json.map [("start", Json.map [("sources", .strs ss)])]
  | .start (.tests ts) => Json.map [("start", Json.map [("tests", .strs (ts.map (·.fullyQualifiedName)))])]
  | .cancel => .str "cancel"
  | .abort => .str "abort"

def inProcessOp (req : Json) : Except Json Json := do
  let script ← engineScriptOf ((req.get? "engine").getD (.obj []))
  let mut s := Session.new { proxies := [.inProcess .created], engine := ScriptedEngine.new script }
  let mut out : List Json := []
  for st in listField req "steps" do
    let cmd ← if strField st "do" == "release" then pure (do pure (Reply.flag (← ScriptedEngine.release)))
      else lifecycleCommand st
    let calls := s.state.engine.calls.length
    let (r, s') := s.run cmd
    let (events, s'') := drainEvents s'
    s := s''
    let state := match s.state.proxy 0 with
      | .inProcess x => x
      | _ => .created
    out := out ++ [Json.map [("result", replyJson r), ("state", .str state.name),
      ("events", .arr (events.map (eventJson false))),
      ("engine", .arr ((s.state.engine.calls.drop calls).map engineCallJson))]]
  return .arr out

end Bench

end TestConductor
