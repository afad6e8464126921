import TestConductor.Worker.Handle
import TestConductor.Launch.Runtime
/-! # A proxy's test hosts

The test-host bookkeeping of a proxy: claiming it for a unit of work, launching and connecting a
test host for the unit (or reusing the idle host of a shared proxy), sending to it, and ending
the unit. An aborted or unshared unit stops its host; a shared proxy keeps the host of a
completed unit for the next one. Closing ends the session of every host the proxy still holds
and stops it.
-/
namespace TestConductor

namespace Operation

def abortedWhileStarting (name : String) : Error :=
  .invalidState ("Proxy " ++ name ++ " was aborted while starting its test host")

def prepare (i : Nat) : Act (Except Error Unit) := Async.change fun w =>
  let o := w.operation i
  match o.state with
  | .created => (.ok (), w.setOperation i fun o => { o with state := .initialized })
  | .closed => (.error (.invalidState ("Proxy " ++ o.name ++ " is closed")), w)
  | _ => (.ok (), w)

def accepts (o : Operation) : Bool :=
  match o.state with
  | .created | .initialized => true
  | .completed => o.isShared
  | _ => false

def begin (i : Nat) : Act (Except Error Unit) := Async.change fun w =>
  let o := w.operation i
  if o.accepts then (.ok (), w.setOperation i fun o => { o with state := .busy, abortRequested := false })
  else (.error (.invalidState ("Proxy " ++ o.name ++ " cannot accept work while " ++ o.state.name)), w)

def ensureNotAborted (i : Nat) : Act (Except Error Unit) := do
  let o ← Async.reads fun w => w.operation i
  return if o.abortRequested then .error (abortedWhileStarting o.name) else .ok ()

/-- Takes the idle host of a shared proxy if it is still connected; a host that is not is
stopped. -/
def reuseIdle (i : Nat) : Act (Option Nat) := do
  let o ← Async.reads fun w => w.operation i
  if !o.isShared then return none
  match o.idle with
  | none => return none
  | some k =>
    Async.modify fun w => w.setOperation i fun o => { o with idle := none }
    if ← Worker.isConnected k then return some k
    Worker.stop k
    return none

def launchHost (i : Nat) (sources : List String) : Act (Except Error Nat) := do
  let endpoint ← reserveEndpoint
  let w ← Async.read
  let o := w.operation i
  match o.runtime.startInfo sources endpoint w.selfPid with
  | .error e => return .error e
  | .ok info =>
    Async.modify fun w => w.setOperation i fun o => { o with hostsLaunched := o.hostsLaunched + 1 }
    let k ← Worker.make (o.name ++ "-host-" ++ toString o.hostsLaunched) true
    Async.modify fun w => w.setOperation i fun o => { o with worker := some k }
    if let .error e ← ensureNotAborted i then return .error e
    if let .error e ← Worker.launch k info then return .error e
    if let .error e ← Worker.start k endpoint then return .error e
    if let .error e ← ensureNotAborted i then
      Worker.stop k
      return .error e
    -- the connection was reported first; it is taken off the channel here
    discard (Worker.nextEvent k)
    return .ok k

def setupChannel (i : Nat) (sources : List String) : Act (Except Error Nat) := do
  match ← reuseIdle i with
  | some k => return .ok k
  | none => launchHost i sources

def send (i : Nat) (m : Message) : Act (Except Error Unit) := do
  let o ← Async.reads fun w => w.operation i
  match o.worker with
  | some k => Worker.send k m
  | none => return .error (.invalidState ("Proxy " ++ o.name ++ " has no test host"))

def complete (i : Nat) (aborted : Bool) (k : Nat) : Act Unit := do
  let o ← Async.reads fun w => w.operation i
  if o.state == .closed then Worker.stop k
  else if aborted then
    Async.modify fun w => w.setOperation i fun o => { o with state := .aborted }
    Worker.stop k
  else if o.isShared then
    Async.modify fun w => w.setOperation i fun o => { o with state := .completed, idle := some k }
  else
    Async.modify fun w => w.setOperation i fun o => { o with state := .completed }
    Worker.stop k

def fail (i : Nat) : Act Unit := do
  let o ← Async.reads fun w => w.operation i
  Async.modify fun w => w.setOperation i fun o =>
    { o with state := if o.state == .closed then .closed else .aborted, worker := none }
  if let some k := o.worker then Worker.stop k

def release (k : Nat) : Act Unit := do
  if ← Worker.isConnected k then
    discard (Worker.send k (Message.ofType .sessionEnd))
  Worker.stop k

def close (i : Nat) : Act Unit := do
  let o ← Async.reads fun w => w.operation i
  if o.state != .closed then
    Async.modify fun w => w.setOperation i fun o => { o with state := .closed, idle := none, worker := none }
    for k in o.idle.toList ++ o.worker.toList do
      release k

end Operation

end TestConductor
