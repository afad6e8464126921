import TestConductor.World
/-! # Worker notifications

The parts of a worker that only touch its own state: reporting events to its channel (dropped
once the receiver is gone), reporting the one disconnection, the shutdown notification that
stops its connect and its message loop, and stopping it. Stopping is idempotent: it notifies a
shutdown, fires the kill switch of the launched process, and an idle worker reports its
disconnection at once.
-/
namespace TestConductor

namespace Worker

def emit (i : Nat) (e : WorkerEvent) : Act Unit := do
  let listening ← Async.reads fun w => (w.channels[i]?.map (·.listening)).getD false
  if listening then
    Async.modify fun w => w.setChannel i fun c => { c with queue := c.queue ++ [e] }
    Async.signal (Wake.channel i)

def emitDisconnected (i : Nat) (error : Option Error) : Act Unit := do
  let already ← Async.reads fun w => (w.worker i).disconnected
  if !already then
    Async.modify fun w => w.setWorker i fun k => { k with disconnected := true }
    emit i (.disconnected error)

def notifyShutdown (i : Nat) : Act Unit := do
  Async.modify fun w => w.setWorker i fun k => { k with shutdown := true }
  Async.signal (Wake.shutdown i)

def takeShutdown (i : Nat) (w : World) : Option (World × Unit) :=
  if (w.worker i).shutdown then some (w.setWorker i fun k => { k with shutdown := false }, ()) else none

def fail (i : Nat) (e : Error) : Act Unit := do
  Async.modify fun w => w.setWorker i fun k => { k with exitError := some e }
  notifyShutdown i

def takeExitError (i : Nat) : Act (Option Error) :=
  Async.change fun w => ((w.worker i).exitError, w.setWorker i fun k => { k with exitError := none })

def isConnected (i : Nat) : Act Bool := Async.reads fun w => (w.worker i).phase == .connected

def stop (i : Nat) : Act Unit := do
  let k ← Async.reads fun w => w.worker i
  if !k.stopped then
    Async.modify fun w => w.setWorker i fun k => { k with stopped := true, kill := none }
    notifyShutdown i
    if let some l := k.kill then
      Async.modify fun w => w.setLaunch l fun x => { x with killed := true }
    if k.phase == .idle then
      Async.modify fun w => w.setWorker i fun k => { k with phase := .stopped }
      emitDisconnected i none

def dropReceiver (i : Nat) : Act Unit :=
  Async.modify fun w => w.setChannel i fun _ => ⟨[], false⟩

end Worker

namespace World

def drainChannel (w : World) (i : Nat) : List WorkerEvent × World :=
  ((w.channels[i]?.map (·.queue)).getD [], w.setChannel i fun c => { c with queue := [] })

end World

end TestConductor
