import TestConductor.Proxy.Control
/-! # Parallel managers

A parallel manager serves one discovery or run at a time over its pool of proxies. A request is
split into units, one per source (or per source's explicit tests), and each proxy gets one unit
to start with, in a task of its own: the proxy is readied and handed the unit with criteria
narrowed to it. A stop asked for while the unit was handed over is passed on once the proxy owns
it. A refused unit goes to a fresh proxy while its retry budget lasts; otherwise an error is
logged and the unit counts as aborted.
-/
namespace TestConductor

namespace Manager

def panicked (task : Nat) (message : String) : Error :=
  .invalidState ("Proxy action panicked: task " ++ toString task ++ " panicked with message " ++ Text.quoted message)

def taskError (task : Nat) : TaskEnd Reply → Option Error
  | .returned (.unit (.error e)) => some e
  | .returned _ => none
  | .panicked m => some (panicked task m)

def joinAll : List Nat → Act (List Error)
  | [] => pure []
  | t :: ts => do
    let e := taskError t (← Async.join t)
    let rest ← joinAll ts
    return e.toList ++ rest

def actInTurn (a : PoolAction) : List Nat → Act (List Error)
  | [] => pure []
  | p :: ps => do
    let r ← Proxy.act a p
    let rest ← actInTurn a ps
    return (match r with
      | .error e => [e]
      | .ok () => []) ++ rest

/-- Runs an action on every proxy of the pool of manager `m`, each in a task of its own when
`parallel`. -/
def onAll (m : Nat) (a : PoolAction) (parallel : Bool) : Act (Except Error Unit) := do
  let ps ← Pool.proxies m
  let errors ← if parallel then do
      let tasks ← ps.mapM fun p => Async.spawn (.action a p)
      joinAll tasks
    else actInTurn a ps
  return Error.ofList errors

def forwardStop (m p id : Nat) : Act Unit := do
  match (← Async.reads fun w => w.tracker m).pendingStop id with
  | some .abort => Proxy.abort p
  | some .cancel => Proxy.cancel p
  | none => pure ()

def dispatchFailure (discovers : Bool) (source : String) (e : Error) : String :=
  (if discovers then "Failed to discover tests in " else "Failed to run tests in ") ++ source ++ ": " ++ e.message

def refused (m p : Nat) (item : WorkItem) (ctx : Context) (e : Error) : Act Unit := do
  let replacement ← Pool.replace m p
  let mgr ← Async.reads fun w => w.manager m
  if !mgr.tracker.isCurrent ctx.id then return
  let (retry, t) := mgr.tracker.retry item mgr.retryLimit replacement
  Async.modify fun w => w.setTracker m t
  match retry with
  | some (r, next) => dispatch m r next ctx
  | none =>
    let message := dispatchFailure mgr.discovers item.sourceName e
    tell (.log .error message)
    if mgr.discovers then discard (completeDiscoveryUnit m ctx (-1) true replacement)
    else
      discard (completeRunUnit m ctx (RunCompletion.aborted (some message) Duration.zero) [] [] replacement)

def handOver (m p : Nat) (item : WorkItem) (ctx : Context) : Act Unit := do
  let accepted ← match ← Proxy.prepare p with
    | .ok () => Proxy.take p (ctx.criteria.narrow item) (.unit m p ctx.id)
    | .error e => pure (.error e)
  match accepted with
  | .ok () => forwardStop m p ctx.id
  | .error e => refused m p item ctx e

def prepare (m : Nat) : Act (Except Error Unit) := onAll m .prepare true

def stop (m : Nat) (s : StopRequest) : Act Unit := do
  let (asked, t) := (← Async.reads fun w => w.tracker m).requestStop s
  Async.modify fun w => w.setTracker m t
  if asked then
    discard (onAll m (match s with
      | .abort => .abort
      | .cancel => .cancel) true)

def close (m : Nat) : Act Unit := do
  let (first, t) := (← Async.reads fun w => w.tracker m).close
  Async.modify fun w => w.setTracker m t
  if first then discard (onAll m .close false)

def isInProgress (m : Nat) : Act Bool := Async.reads fun w => (w.tracker m).isInProgress

def activity (discovers : Bool) : String := if discovers then "discovery is" else "a test run is"

/-- Resizes the pool of manager `m` between requests. The check and the resize take the locks one
after the other, so a request may begin in between. -/
def updateLevel (m level : Nat) : Act (Except Error Unit) := do
  let mgr ← Async.reads fun w => w.manager m
  if mgr.tracker.isInProgress then
    return .error (.invalidState ("Cannot change parallel level while " ++ activity mgr.discovers ++ " in progress"))
  Async.interleave
  Pool.resize m level
  return .ok ()

def refusal (discovers closed : Bool) : Error :=
  if closed then
    .invalidState (if discovers then "Parallel discovery manager is closed" else "Parallel execution manager is closed")
  else .invalidState (if discovers then "Discovery is already in progress" else "A test run is already in progress")

def emptyCompletion : UnitCriteria → CallerEvent
  | .discovery _ => .discoveryComplete 0 none false
  | .run _ => .runComplete (RunCompletion.completed .empty Duration.zero) none [] []

def serve (m : Nat) (c : UnitCriteria) : Act (Except Error Unit) := do
  let mgr ← Async.reads fun w => w.manager m
  if mgr.tracker.closed || mgr.tracker.isInProgress then
    return .error (refusal mgr.discovers mgr.tracker.closed)
  if let .error e ← prepare m then return .error e
  let items := c.workItems
  if items.isEmpty then
    tell (emptyCompletion c)
    return .ok ()
  -- the pool is read under its own lock before the request begins
  let ps ← Pool.proxies m
  Async.interleave
  let mgr ← Async.reads fun w => w.manager m
  if mgr.tracker.isInProgress then return .error (refusal mgr.discovers false)
  let (id, t) := mgr.tracker.nextId
  let ctx : Context := ⟨id, c⟩
  let (batch, t) := t.begin id ctx items mgr.freshTally ps
  Async.modify fun w => w.setTracker m t
  for (p, item) in batch do
    dispatch m p item ctx
  return .ok ()

end Manager

end TestConductor
