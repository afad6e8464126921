import TestConductor.Machine.Launch
import TestConductor.Text.Blank
/-! # Worker handles

A worker launches its test host and watches for its exit, connects to it, sends to it, and runs
the loop that reads from it. Connecting races the connection against a shutdown notification: a
shutdown that is already there wins, and so does one that comes while the connection is still
being made. A worker stopped while it connected disconnects again; one that failed to connect
reports the failure as its disconnection.
-/
namespace TestConductor

namespace Worker

def launch (i : Nat) (info : StartInfo) : Act (Except Error Nat) := do
  let k ← Async.reads fun w => w.worker i
  if !k.hasLauncher then return .error (.invalidState ("Worker " ++ k.name ++ " has no launcher"))
  if k.stopped then return .error (.invalidState ("Worker " ++ k.name ++ " is stopped"))
  -- the launcher is awaited, and the process id and the kill switch are stored under locks of
  -- their own: a stop may land in between
  Async.interleave
  match ← Launch.begin info with
  | .error e => return .error e
  | .ok (l, pid) =>
    Async.interleave
    Async.modify fun w => w.setWorker i fun k => { k with processId := some pid }
    Async.interleave
    Async.modify fun w => w.setWorker i fun k => { k with kill := some l }
    Async.fork (.exitWatch i l)
    return .ok pid

def exitReason (pid : Nat) (e : ProcessExit) : String :=
  let code := match e.code with
    | some c => toString c
    | none => "unknown"
  let stderr := Text.trim e.stderr
  "Test host process " ++ toString pid ++ " exited with code " ++ code ++
    (if stderr.isEmpty then "" else ": " ++ stderr)

def takeExit (l : Nat) (w : World) : Option (World × ProcessExit) :=
  match w.launches[l]? with
  | some x => x.exited.map fun e => (w.setLaunch l fun x => { x with exited := none }, e)
  | none => none

def watchExit (i l : Nat) : Act Unit := do
  let e ← Async.wait [Wake.exit l] (takeExit l)
  let k ← Async.reads fun w => w.worker i
  if !k.stopped then
    let pid ← Async.reads fun w => (w.launches[l]?.map (·.pid)).getD 0
    fail i (.testHost (exitReason pid e))

/-- Which of the raced futures of a connect finished first. -/
inductive Race where
  | shutdown
  | timeUp

def start (i : Nat) (endpoint : String) : Act (Except Error String) := do
  let k ← Async.reads fun w => w.worker i
  if k.stopped || k.phase != .idle then
    return .error (.invalidState ("Worker " ++ k.name ++ " cannot start from " ++ k.phase.name))
  Async.modify fun w => w.setWorker i fun k => { k with phase := .connecting }
  let outcome : Except (Option Error) String ← do
    if (← Async.change fun w => match takeShutdown i w with
        | some (w', ()) => (true, w')
        | none => (false, w)) then
      pure (.error (← takeExitError i))
    else match ← Async.reads (·.reach) with
    | .failing err window interval =>
      match ← Async.waitWithin [Wake.shutdown i] window (takeShutdown i) with
      | some () => pure (.error (← takeExitError i))
      | none =>
        pure (.error (some (.connectionFailed endpoint
          (err.message ++ " (after " ++ toString (Reach.attempts window interval) ++ " attempts)"))))
    | .scripted =>
      let delay ← ScriptedHost.connectBegin endpoint
      let race ← if delay == 0 then pure Race.timeUp else do
        match ← Async.waitWithin [Wake.shutdown i] delay (takeShutdown i) with
        | some () => pure Race.shutdown
        | none => pure Race.timeUp
      match race with
      | .shutdown => pure (.error (← takeExitError i))
      | .timeUp =>
        match ← ScriptedHost.connectEnd k.host endpoint with
        | .ok r => pure (.ok r)
        | .error e => pure (.error (some e))
  let stopped ← Async.reads fun w => (w.worker i).stopped
  match outcome with
  | .ok resolved =>
    if !stopped then
      Async.modify fun w => w.setWorker i fun k => { k with phase := .connected }
      emit i (.connected resolved)
      Async.fork (.messageLoop i)
      return .ok resolved
    else
      Async.modify fun w => w.setWorker i fun k => { k with phase := .stopped }
      ScriptedHost.disconnect k.host
      emitDisconnected i none
      return .error .connectionClosed
  | .error e =>
    Async.modify fun w => w.setWorker i fun k => { k with phase := .stopped }
    emitDisconnected i e
    return .error (e.getD .connectionClosed)

def send (i : Nat) (m : Message) : Act (Except Error Unit) := do
  let k ← Async.reads fun w => w.worker i
  if k.phase != .connected then return .error (.invalidState ("Worker " ++ k.name ++ " is not connected"))
  ScriptedHost.send k.host m

/-- What the message loop waited for. -/
inductive LoopStep where
  | shutdown
  | received (r : ScriptedHost.Received)

/-- The next thing for a worker's message loop: a shutdown notification first, else the host's
next step. -/
def loopStep (i host : Nat) (w : World) : Option (World × LoopStep) :=
  match takeShutdown i w with
  | some (w', ()) => some (w', .shutdown)
  | none => (ScriptedHost.next host w).map fun (w', r) => (w', .received r)

def endLoop (i : Nat) (error : Option Error) : Act Unit := do
  let host ← Async.reads fun w => (w.worker i).host
  ScriptedHost.disconnect host
  Async.modify fun w => w.setWorker i fun k => { k with phase := .stopped }
  emitDisconnected i error

def messageLoop (i : Nat) : Nat → Act Unit
  | 0 => pure ()
  | fuel + 1 => do
    let host ← Async.reads fun w => (w.worker i).host
    match ← Async.wait [Wake.shutdown i, Wake.host host] (loopStep i host) with
    | .shutdown => endLoop i (← takeExitError i)
    | .received (.exited l) =>
      if let some l := l then Async.signal (Wake.exit l)
      messageLoop i fuel
    | .received (.result (.ok m)) =>
      emit i (.message m)
      messageLoop i fuel
    | .received (.result (.error .connectionClosed)) =>
      let stopped ← Async.reads fun w => (w.worker i).stopped
      endLoop i (if stopped then none else some .connectionClosed)
    | .received (.result (.error e)) => endLoop i (some e)

def takeEvent (i : Nat) (w : World) : Option (World × WorkerEvent) :=
  match w.channels[i]? with
  | some c =>
    match c.queue with
    | e :: rest => some (w.setChannel i fun c => { c with queue := rest }, e)
    | [] => none
  | none => none

def nextEvent (i : Nat) : Act WorkerEvent := Async.wait [Wake.channel i] (takeEvent i)

def make (name : String) (hasLauncher : Bool) : Act Nat := do
  let host ← ScriptedHost.make
  Async.change fun w =>
    (w.workers.length, { w with workers := w.workers ++ [Worker.new name host hasLauncher],
                                channels := w.channels ++ [⟨[], true⟩] })

end Worker

end TestConductor
