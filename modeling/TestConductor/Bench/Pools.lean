import TestConductor.Bench.Views
import TestConductor.Bench.Scripts
/-! # Pool and parallel manager sessions

A pool of scripted proxies, and parallel managers over such pools, driven step by step; after
each step the pool, the calls each proxy got and the events reported to the caller.
-/
namespace TestConductor

namespace Bench

open Json (Shape)

def poolCommand (st : Json) : Except Json (Act Reply) := do
  match strField st "do" with
  | "update_level" => return (do Pool.resize 0 (natField st "level"); pure .none)
  | "replace" => return (do pure (.proxy (← Pool.replace 0 (natField st "proxy"))))
  | "contains" => return (do pure (.flag (← Pool.contains 0 (natField st "proxy"))))
  | "action" =>
    let fails := numberedErrors (st.get? "fail")
    let panics := (((st.get? "panic").bind Json.asObj?).getD []).filterMap fun (k, v) =>
      k.toNat?.bind fun n => v.asStr?.map fun m => (n, m)
    return (do
      Async.modify fun w => { w with called := [] }
      pure (.unit (← Manager.onAll 0 (.probe fails panics) (boolField st "parallel"))))
  | "initialize_all" => return (do pure (.unit (← Manager.onAll 0 .prepare (boolField st "parallel"))))
  | "concurrent" =>
    let result : Except Error Unit := match st.get? "fail" with
      | some e => .error (errorOfSpec e)
      | none => .ok ()
    return (do Proxy.close (natField st "proxy"); pure (.unit result))
  | "dispose" => return (do Pool.dispose 0; pure .none)
  | other => throw (fault "driver_input" ("unknown step " ++ other))

def poolOp (req : Json) : Except Json Json := do
  let shared := ((req.get? "shared").bind Json.asBool?).getD true
  let start : World := { initFailures := numberedErrors (req.get? "init_fail") }
  let mut s := setup (Session.new start) (discard (Pool.create .scripted (natField req "level") shared false 1))
  let mut out : List Json := []
  for st in listField req "steps" do
    let cmd ← poolCommand st
    let (r, s') := s.run cmd
    s := s'
    let w := s.state
    let result := if strField st "do" == "action" then
        Json.map [("result", replyJson r), ("called", .arr ((w.called.mergeSort (· ≤ ·)).map Json.nat))]
      else replyJson r
    let pool := w.pool 0
    out := out ++ [Json.map [("result", result), ("level", .nat pool.members.length),
      ("pool", .arr (pool.members.map Json.nat)), ("shared", .bool pool.shared),
      ("per_proxy", .arr ((scriptedCounts w).map fun p =>
        .arr [.nat p.initializes, .nat p.aborts, .nat p.cancels, .nat p.closes]))]]
  return .arr out

def partialTests (names : List Json) : List TestCase :=
  (names.zip (List.range names.length)).map fun (n, i) =>
    ⟨Uuid.ofNat (1000 + i), n.asStr?.getD "", n.asStr?.getD "", "", ""⟩

def parallelCommand (discovers : Bool) (st : Json) : Except Json (Act Reply) := do
  match strField st "do" with
  | "discover" =>
    let c := DiscoveryCriteria.ofJson (← fieldAs DiscoveryCriteria.shape st "criteria")
    return (do pure (.unit (← Manager.serve 0 (.discovery c))))
  | "start" =>
    let c := RunCriteria.ofJson (← fieldAs RunCriteria.shape st "criteria")
    return (do pure (.unit (← Manager.serve 0 (.run c))))
  | "abort" => return (do Manager.stop 0 .abort; pure .none)
  | "cancel" => return (do Manager.stop 0 .cancel; pure .none)
  | "close" => return (do Manager.close 0; pure .none)
  | "initialize" => return (do pure (.unit (← Manager.prepare 0)))
  | "update_level" => return (do pure (.unit (← Manager.updateLevel 0 (natField st "level"))))
  | "sleep" => return (do Async.sleep (natField st "ms" * 1000000); pure .none)
  | "partial" =>
    let p := natField st "proxy"
    let id := natField st "request_id"
    if discovers then
      let chunk := (st.get? "last_chunk").bind fun j => j.asArr?.map partialTests
      let total := ((st.get? "total").bind Json.asInt?).getD 0
      return (do pure (.flag (← Manager.partialDiscovery 0 p id total chunk (boolField st "aborted"))))
    else
      let c ← match st.get? "complete" with
        | some j => do pure (RunCompletion.ofJson (← decodeAs RunCompletion.shape j))
        | none => pure (RunCompletion.completed .empty Duration.zero)
      let chunk ← match st.get? "last_chunk" with
        | some .null | none => pure none
        | some j => do pure (some (RunProgress.ofJson (← decodeAs RunProgress.shape j)))
      let sets ← (listField st "attachments").mapM fun a => do
        pure (AttachmentSet.ofJson (← decodeAs AttachmentSet.shape a))
      let metrics := ((st.get? "metrics").bind Json.asObj?).getD []
      return (do pure (.flag (← Manager.partialRun 0 p id c chunk sets metrics)))
  | other => throw (fault "driver_input" ("unknown step " ++ other))

def parallelOp (req : Json) (discovers : Bool) : Except Json Json := do
  let shared := ((req.get? "shared").bind Json.asBool?).getD true
  let retry := ((req.get? "retry_limit").bind Json.asNat?).getD 1
  let sortAttachments := ((req.get? "sort_attachments").bind Json.asBool?).getD true
  let start : World := { unitScripts := ← unitScriptsOf (req.get? "specs"),
                         initFailures := numberedErrors (req.get? "init_fail"),
                         initDelayMs := (req.get? "init_delay_ms").bind Json.asNat? }
  let mut s := setup (Session.new start) (discard (Pool.create .scripted (natField req "level") shared discovers retry))
  let mut out : List Json := []
  for st in listField req "steps" do
    let cmd ← parallelCommand discovers st
    let (r, s') := s.run cmd
    let (events, s'') := drainEvents s'
    s := s''
    let w := s.state
    let counts := scriptedCounts w
    let total (f : ScriptedProxy → Nat) : Json := .nat (counts.foldl (fun a p => a + f p) 0)
    out := out ++ [Json.map [("result", replyJson r), ("in_progress", .bool (w.tracker 0).isInProgress),
      ("pool_level", .nat (w.pool 0).members.length), ("events", groupedJson false sortAttachments events),
      ("proxies", Json.map [("created", .nat counts.length), ("initializes", total (·.initializes)),
        ("aborts", total (·.aborts)), ("cancels", total (·.cancels)), ("closes", total (·.closes))])]]
  let w := s.state
  let seen := w.criteriaSeen.map fun
    | .discovery c => c.toJson
    | .run c => c.toJson
  return Json.map [("steps", .arr out),
    ("processed", .arr (sortedByText (w.processed.map Json.str))),
    ("attempts", Json.map (w.unitAttempts.map fun (k, n) => (k, Json.nat n))),
    ("criteria_seen", .arr (sortedByText seen))]

end Bench

end TestConductor
