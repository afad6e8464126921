import TestConductor.Parallel.Pool
/-! # Partial completions

Each proxy of a parallel manager reports the completion of its unit to the manager, which folds
it into the tally of the request. A completion for a request that is no longer served is
ignored. A proxy whose unit aborted, or any proxy when hosts are not shared, is replaced before
it gets the next unit; the next unit goes to it unless a stop was asked for. The request is
reported once, when no unit is left in flight: a discovery as aborted if a stop was asked for or
units were never handed out, a run as canceled if a cancel was asked for, else as aborted if an
abort was asked for or units were never handed out.
-/
namespace TestConductor

namespace World

def manager (w : World) (m : Nat) : Manager :=
  (w.managers[m]?).getD ⟨default, false, 0, Tracker.new (.discovery .empty)⟩

def tracker (w : World) (m : Nat) : Tracker Context Tally := (w.manager m).tracker

def setTracker (w : World) (m : Nat) (t : Tracker Context Tally) : World :=
  w.setManager m fun x => { x with tracker := t }

end World

namespace Manager

def dispatch (m p : Nat) (item : WorkItem) (ctx : Context) : Act Unit := Async.fork (.unit m p item ctx)

def dispatchNext (m : Nat) (ctx : Context) : Option (Nat × WorkItem) → Act Unit
  | some (p, item) => dispatch m p item ctx
  | none => pure ()

def tell (e : CallerEvent) : Act Unit := Async.modify fun w => w.report e

def settleUnit (t : Tracker Context Tally) (next : Option Nat) : UnitCompletion Nat × Tracker Context Tally :=
  t.completeUnit next

def discoveryTally (t : Tracker Context Tally) : DiscoveryTally :=
  match t.tally with
  | .discovery d => d
  | .run _ => .empty

def runTally (t : Tracker Context Tally) : RunTally :=
  match t.tally with
  | .run r => r
  | .discovery _ => .empty

/-- Folds a discovery partial into the tracker of the request it belongs to: the tracker after
it, the next unit for the proxy, and the completion to report when no unit is left in flight;
nothing when the total leaves its word. -/
def accountDiscovery (t : Tracker Context Tally) (total : Int) (aborted : Bool) (next : Option Nat) :
    Option (Tracker Context Tally × Option (Nat × WorkItem) × Option CallerEvent) := do
  let tally ← (discoveryTally t).aggregate? total aborted
  let (unit, t) := settleUnit { t with tally := .discovery tally } next
  if unit.finished then
    let tally := if t.abortRequested || t.hasPending then tally.markAborted else tally
    return ({ t.finish with tally := .discovery tally }, unit.next,
      some (.discoveryComplete tally.reported none tally.isAborted))
  else return (t, unit.next, none)

/-- Folds a run partial into the tracker of the request it belongs to, as `accountDiscovery`
does; a cancel asked for makes the run canceled, and an abort asked for or units never handed
out make it aborted unless it was canceled. -/
def accountRun (t : Tracker Context Tally) (c : RunCompletion) (attachments : List AttachmentSet)
    (metrics : Metrics) (next : Option Nat) :
    Option (Tracker Context Tally × Option (Nat × WorkItem) × Option CallerEvent) := do
  let tally ← (runTally t).aggregate? c attachments metrics
  let (unit, t) := settleUnit { t with tally := .run tally } next
  if unit.finished then
    let canceled := t.cancelRequested
    let aborted := t.abortRequested || (!canceled && t.hasPending)
    let tally := if canceled then tally.markCanceled else tally
    let tally := if aborted then tally.markAborted else tally
    let ((c, attachments, metrics), tally) := tally.finish
    return ({ t.finish with tally := .run tally }, unit.next, some (.runComplete c none attachments metrics))
  else return (t, unit.next, none)

/-- Folds one unit of request `ctx` into the tracker of manager `m` by `account`, hands the
proxy its next unit and reports the request if it is done; true if it finished the request. -/
def completeUnit (m : Nat) (ctx : Context)
    (account : Tracker Context Tally → Option (Tracker Context Tally × Option (Nat × WorkItem) × Option CallerEvent)) :
    Act Bool := do
  let t ← Async.reads fun w => w.tracker m
  if !t.isCurrent ctx.id then return false
  match account t with
  | none => Async.panic "attempt to add with overflow"
  | some (t, next, done) =>
    Async.modify fun w => w.setTracker m t
    dispatchNext m ctx next
    match done with
    | some e =>
      tell e
      return true
    | none => return false

/-- Folds one discovery unit of request `ctx` into the tally of manager `m`; true if it finished
the request. -/
def completeDiscoveryUnit (m : Nat) (ctx : Context) (total : Int) (aborted : Bool) (next : Option Nat) :
    Act Bool :=
  completeUnit m ctx fun t => accountDiscovery t total aborted next

/-- Folds one run unit of request `ctx` into the tally of manager `m`; true if it finished the
request. -/
def completeRunUnit (m : Nat) (ctx : Context) (c : RunCompletion) (attachments : List AttachmentSet)
    (metrics : Metrics) (next : Option Nat) : Act Bool :=
  completeUnit m ctx fun t => accountRun t c attachments metrics next

/-- The proxy to hand the next unit to after proxy `p` ended one: a fresh one when the unit
aborted or hosts are not shared. -/
def successor (m p : Nat) (aborted : Bool) : Act (Option Nat) := do
  let shared ← Async.reads fun w => (w.pool m).shared
  if aborted || !shared then Pool.replace m p else return some p

/-- Handles the discovery completion of proxy `p` for request `id`; true if it finished the
request. -/
def partialDiscovery (m p id : Nat) (total : Int) (lastChunk : Option (List TestCase)) (aborted : Bool) :
    Act Bool := do
  match (← Async.reads fun w => w.tracker m).context id with
  | none => return false
  | some ctx =>
    if let some chunk := lastChunk then
      if !chunk.isEmpty then tell (.discovered chunk)
    let next ← successor m p aborted
    completeDiscoveryUnit m ctx total aborted next

def partialRun (m p id : Nat) (c : RunCompletion) (lastChunk : Option RunProgress)
    (attachments : List AttachmentSet) (metrics : Metrics) : Act Bool := do
  match (← Async.reads fun w => w.tracker m).context id with
  | none => return false
  | some ctx =>
    if let some chunk := lastChunk then tell (.statsChange chunk)
    let next ← successor m p c.isAborted
    completeRunUnit m ctx c attachments metrics next

end Manager

end TestConductor
