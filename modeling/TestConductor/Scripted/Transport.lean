import TestConductor.Worker.Basic
import TestConductor.Proxy.Basic
/-! # Scripted hosts and launcher at work

Connecting to a scripted host first runs its connect hook and its exit on connect, then waits
out its connect delay, then fails as scripted or becomes the process of a launch: the launch
started for the same endpoint, or else the latest one started without an endpoint. A host that
receives the start of a discovery or a run queues the script of the unit's source: the first
source, or else the source of the first test.
-/
namespace TestConductor

namespace ScriptedHost

def make : Act Nat := Async.change fun w =>
  let h : ScriptedHost := ⟨if w.hostScript.preload then w.hostScript.initial else [], false, false, none, 0⟩
  (w.hosts.length, { w with hosts := w.hosts ++ [h] })

def newestLaunch (w : World) (p : Launch → Bool) : Option Nat :=
  (List.range w.launches.length).reverse.find? fun i =>
    match w.launches[i]? with
    | some l => l.failure.isNone && p l
    | none => false

def launchFor (w : World) (endpoint : String) : Option Nat :=
  match newestLaunch w (·.endpoint? == some endpoint) with
  | some i => some i
  | none => newestLaunch w fun l => !l.linked && l.endpoint?.isNone

def fireExit (l : Nat) (e : ProcessExit) : Act Bool := do
  let can ← Async.reads fun w => (w.launches[l]?.map (·.canExit)).getD false
  if can then
    Async.modify fun w => w.setLaunch l fun x => { x with canExit := false, exited := some e }
    Async.signal (Wake.exit l)
  return can

/-- Begins to connect to a scripted host at an endpoint: runs its connect hook and its exit on
connect; gives how long the connection then takes, in nanoseconds. -/
def connectBegin (endpoint : String) : Act Nat := do
  let w ← Async.read
  let script := w.hostScript
  match script.onConnect with
  | some .stopWorker => if let some k := w.hookWorker then Worker.stop k
  | some .requestAbort => if let some p := w.hookProxy then discard (Operation.requestAbort p)
  | none => pure ()
  if let some e := script.exitOnConnect then
    let w ← Async.read
    let target := match newestLaunch w (·.endpoint? == some endpoint) with
      | some i => some i
      | none => newestLaunch w (!·.linked)
    if let some l := target then
      discard (fireExit l e)
  return script.connectDelayMs * 1000000

/-- Ends connecting to scripted host `n`: fails as scripted, or links the host to its launch
and plays its initial script. -/
def connectEnd (n : Nat) (endpoint : String) : Act (Except Error String) := do
  let script ← Async.reads (·.hostScript)
  match script.connectErrors.lookup n with
  | some err => return .error err
  | none =>
    Async.modify fun w =>
      let l := launchFor w endpoint
      let w := match l with
        | some i => w.setLaunch i fun x => { x with linked := true }
        | none => w
      w.setHost n fun h =>
        let queue := if script.preload then h.queue else h.queue ++ script.initial
        { h with connected := true, launch := l, queue := queue }
    Async.signal (Wake.host n)
    return .ok endpoint

def connect (n : Nat) (endpoint : String) : Act (Except Error String) := do
  let delay ← connectBegin endpoint
  if delay > 0 then Async.sleep delay
  connectEnd n endpoint

def sourceOf (m : Message) : String :=
  match ((m.payload.get? "sources").bind Json.asArr?).bind List.head? with
  | some s => s.asStr?.getD ""
  | none =>
    match ((m.payload.get? "tests").bind Json.asArr?).bind List.head? with
    | some t => ((t.get? "source").bind Json.asStr?).getD ""
    | none => ""

def reaction (w : World) (m : Message) : List ScriptStep × World :=
  match m.type with
  | .startDiscovery | .startTestExecutionWithSources | .startTestExecutionWithTests =>
    let s := sourceOf m
    let n := (w.hostAttempts.lookup s).getD 0
    (w.hostScript.scriptFor s n (m.type == .startDiscovery), { w with hostAttempts := World.bump s w.hostAttempts })
  | .cancelTestRun => (w.hostScript.onCancel.getD (HostScript.defaultStop true), w)
  | .abortTestRun => (w.hostScript.onAbort.getD (HostScript.defaultStop false), w)
  | _ => ([], w)

def send (n : Nat) (m : Message) : Act (Except Error Unit) := do
  let w ← Async.read
  match w.hostScript.sendErrors.lookup n with
  | some err => return .error err
  | none =>
    let (steps, w) := reaction { w with sent := w.sent ++ [(n, m)] } m
    Async.write (w.setHost n fun h => { h with queue := h.queue ++ steps })
    if !steps.isEmpty then Async.signal (Wake.host n)
    return .ok ()

/-- What receiving from a host gave: an exit of its process (and the launch notified), or a
message or an error. -/
inductive Received where
  | exited (launch : Option Nat)
  | result (r : Except Error Message)

def next (n : Nat) (w : World) : Option (World × Received) :=
  let h := w.host n
  match h.queue with
  | .msg j :: rest => some (w.setHost n ({ · with queue := rest }), .result (Message.decode j.compact))
  | .line t :: rest => some (w.setHost n ({ · with queue := rest }), .result (Message.decode t))
  | .error e :: rest => some (w.setHost n ({ · with queue := rest }), .result (.error e))
  | .close :: rest =>
    some (w.setHost n ({ · with queue := rest, closed := true }), .result (.error .connectionClosed))
  | .exit e :: rest =>
    let w := w.setHost n ({ · with queue := rest })
    match h.launch with
    | some l =>
      if (w.launches[l]?.map (·.canExit)).getD false then
        some (w.setLaunch l fun x => { x with canExit := false, exited := some e }, .exited (some l))
      else some (w, .exited none)
    | none => some (w, .exited none)
  | [] =>
    if h.closed || w.hostScript.endClose then some (w, .result (.error .connectionClosed)) else none

theorem next_frame {n : Nat} {w w' : World} {r : Received} (h : next n w = some (w', r)) :
    ∃ hs ls, w' = { w with hosts := hs, launches := ls } := by
  unfold next at h
  dsimp only at h
  split at h
  iterate 4 (· cases h; exact ⟨_, _, rfl⟩)
  · -- an exit notifies the launch the host belongs to, if it can still exit
    split at h
    · split at h
      · cases h
        exact ⟨_, _, rfl⟩
      · cases h
        exact ⟨_, _, rfl⟩
    · cases h
      exact ⟨_, _, rfl⟩
  · split at h
    · cases h
      exact ⟨_, _, rfl⟩
    · cases h

def receive (n : Nat) : Nat → Act (Except Error Message)
  | 0 => pure (.error .connectionClosed)
  | fuel + 1 => do
    match ← Async.wait [Wake.host n] (next n) with
    | .exited l =>
      if let some l := l then Async.signal (Wake.exit l)
      receive n fuel
    | .result r => pure r

def disconnect (n : Nat) : Act Unit :=
  Async.modify fun w => w.setHost n fun h => { h with disconnects := h.disconnects + 1 }

end ScriptedHost

namespace Launch

def start (info : StartInfo) : Act (Except Error (Nat × Nat)) := Async.change fun w =>
  let i := w.launches.length
  let failure := w.hostScript.launchErrors.lookup i
  let l : Launch := ⟨info, w.hostScript.pid, failure, false, false, failure.isNone, none⟩
  let w := { w with launches := w.launches ++ [l] }
  match failure with
  | some e => (.error e, w)
  | none => (.ok (i, w.hostScript.pid), w)

/-- Fires an exit as if the newest process still able to exit did: the newest launch that no host
belongs to, or else the launch of the newest host; true if there was one. -/
def fireNewest (e : ProcessExit) : Act Bool := do
  let w ← Async.read
  let canExit (l : Nat) : Bool := (w.launches[l]?.map (·.canExit)).getD false
  let target := match ScriptedHost.newestLaunch w fun l => l.canExit && !l.linked with
    | some l => some l
    | none => w.hosts.reverse.findSome? fun h => h.launch.filter canExit
  match target with
  | some l => ScriptedHost.fireExit l e
  | none => pure false

end Launch

def reserveEndpoint : Act String := Async.change fun w =>
  ("127.0.0.1:" ++ toString (41000 + w.endpoints), { w with endpoints := w.endpoints + 1 })

end TestConductor
