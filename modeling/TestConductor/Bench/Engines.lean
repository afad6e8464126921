import TestConductor.Bench.Proxies
/-! # Engine sessions

An engine from a settings file builds parallel managers over test-host proxies, with scripted
hosts and launches, or over in-process proxies when it runs tests in process. The session makes
the discovery manager on the first discovery and the execution manager on the first run (or
again when asked), and sends stops and closes to the managers there are. After each step: the
events reported to the caller, grouped, the messages the hosts received and the launches, both
sorted, and counts of the hosts.
-/
namespace TestConductor

namespace Bench

/-- The managers of an engine session. -/
structure EngineManagers where
  discovery : Option Nat := none
  execution : Option Nat := none
  /-- The manager made last. -/
  current : Option Nat := none

def discoveryManager (e : Engine) (sources : List String) : Act Nat :=
  let l := e.discoveryLayout sources
  Pool.create (.discovery (e.runtimes.resolveFor sources)) l.level l.shared true e.config.dispatchRetryLimit

def executionManager (e : Engine) (c : RunCriteria) : Act Nat :=
  let l := e.executionLayout c
  let f : Factory := if e.runsInProcess then .inProcess else .execution (e.runtimes.resolveFor c.sources)
  Pool.create f l.level l.shared false e.config.dispatchRetryLimit

def hostCountsJson (w : World) : Json :=
  Json.map [("hosts_created", .nat w.hosts.length), ("connected", .nat (w.hosts.filter (·.connected)).length),
    ("killed", .nat (w.launches.filter fun l => l.failure.isNone && l.killed).length),
    ("disconnects", .nat (w.hosts.foldl (fun n h => n + h.disconnects) 0))]

def onManagers (ms : List Nat) (f : Nat → Act Unit) : Act Reply := do
  for m in ms do f m
  pure .none

/-- The manager whose progress a step reports: the discovery manager, else the execution
manager. -/
def EngineManagers.reported (ms : EngineManagers) : Nat := (ms.discovery.orElse fun _ => ms.execution).getD 0

def makeManager (s : Session) (make : Act Nat) : Except Json (Nat × Session) :=
  match s.run (do pure (.number (.ok (← make)))) with
  | (some (.returned (.number (.ok m))), s) => .ok (m, s)
  | _ => .error (fault "driver_input" "no manager")

/-- The command of an engine session's step, with the session and managers after making the
manager it needs. -/
def engineCommand (e : Engine) (s : Session) (ms : EngineManagers) (st : Json) :
    Except Json (Act Reply × Session × EngineManagers) := do
  let fresh := boolField st "new_manager"
  match strField st "do" with
  | "discover" =>
    let c := DiscoveryCriteria.ofJson (← fieldAs DiscoveryCriteria.shape st "criteria")
    let (m, s) ← match ms.discovery, fresh with
      | some m, false => pure (m, s)
      | _, _ => makeManager s (discoveryManager e c.sources)
    return (do pure (.unit (← Manager.serve m (.discovery c))), s,
      { ms with discovery := some m, current := some m })
  | "start" =>
    let c := RunCriteria.ofJson (← fieldAs RunCriteria.shape st "criteria")
    let (m, s) ← match ms.execution, fresh with
      | some m, false => pure (m, s)
      | _, _ => makeManager s (executionManager e c)
    return (do pure (.unit (← Manager.serve m (.run c))), s,
      { ms with execution := some m, current := some m })
  | "abort" => return (onManagers (ms.discovery.toList ++ ms.execution.toList) (Manager.stop · .abort), s, ms)
  | "cancel" => return (onManagers ms.execution.toList (Manager.stop · .cancel), s, ms)
  | "close" => return (onManagers (ms.discovery.toList ++ ms.execution.toList) Manager.close, s, ms)
  | "update_level" =>
    let level := natField st "level"
    return (match ms.current with
      | some m => do pure (.unit (← Manager.updateLevel m level))
      | none => pure .none, s, ms)
  | "release" => return (do pure (.flag (← ScriptedEngine.release)), s, ms)
  | "sleep" => return (do Async.sleep (natField st "ms" * 1000000); pure .none, s, ms)
  | other => throw (fault "driver_input" ("unknown step " ++ other))

def endToEndOp (req : Json) : Except Json Json := do
  let e ← engineOf req
  let script ← engineScriptOf ((req.get? "in_process_engine").getD (.obj []))
  let start : World := { hostScript := hostScriptOf ((req.get? "host").getD (.obj [])) false,
                         engine := ScriptedEngine.new script }
  let mut s := Session.new start
  let mut ms : EngineManagers := {}
  let mut out : List Json := []
  for st in listField req "steps" do
    let sent := s.state.sent.length
    let launches := s.state.launches.length
    let calls := s.state.engine.calls.length
    let (cmd, s1, ms1) ← engineCommand e s ms st
    ms := ms1
    let (r, s2) := s1.run cmd
    let (events, s3) := drainEvents s2
    s := s3
    let w := s.state
    let current := ms.reported
    out := out ++ [Json.map [("result", replyJson r), ("in_progress", .bool (w.tracker current).isInProgress),
      ("pool_level", .nat (w.pool current).members.length), ("events", groupedJson true true events),
      ("sent", .arr (sortedByText ((w.sent.drop sent).map fun (_, m) => messageJson m))),
      ("launches", .arr (sortedByText ((w.launches.drop launches).map launchJson))),
      ("hosts", hostCountsJson w),
      ("engine", if (req.get? "in_process_engine").isSome
        then .arr ((w.engine.calls.drop calls).map engineCallJson) else .null)]]
  return .arr out

end Bench

end TestConductor
