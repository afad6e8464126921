import TestConductor.Delivery
/-! # Scripted proxies

A scripted proxy counts the calls it gets. Readying it waits out the scripted delay and then
fails if it is told to. It takes a unit by the script of the unit's first source: it records
the criteria and counts an attempt for the source, refuses the first `reject` attempts, and then
completes the unit before it returns, in a task of its own, or never by itself. An abort (or, for
a run, a cancel) completes a unit that never completes by itself as stopped, in a task of its own.
-/
namespace TestConductor

namespace ScriptedProxy

def update (i : Nat) (f : ScriptedProxy → ScriptedProxy) : Act Unit :=
  Async.modify fun w => w.setProxy i (Proxy.mapScripted f)

def get (i : Nat) : Act ScriptedProxy := Async.reads fun w =>
  match w.proxy i with
  | .scripted p => p
  | _ => ⟨0, 0, 0, 0, none⟩

def prepare (i : Nat) : Act (Except Error Unit) := do
  update i fun p => { p with initializes := p.initializes + 1 }
  if let some ms := ← Async.reads (·.initDelayMs) then
    Async.sleep (ms * 1000000)
  match (← Async.reads (·.initFailures)).lookup i with
  | some e => return .error e
  | none => return .ok ()

def takeHeld (i : Nat) (runOnly : Bool) : Act (Option Handler) := do
  match (← get i).held with
  | some (h, isRun) =>
    if runOnly && !isRun then return none
    update i fun p => { p with held := none }
    return some h
  | none => return none

def abort (i : Nat) : Act Unit := do
  update i fun p => { p with aborts := p.aborts + 1 }
  let isRun := ((← get i).held.map (·.2)).getD false
  if let some h ← takeHeld i false then
    Async.fork (.report h [if isRun then UnitScript.stoppedRun .abort else UnitScript.stoppedDiscovery])

def cancel (i : Nat) : Act Unit := do
  update i fun p => { p with cancels := p.cancels + 1 }
  if let some h ← takeHeld i true then
    Async.fork (.report h [UnitScript.stoppedRun .cancel])

def take (i : Nat) (c : UnitCriteria) (source : String) (events : UnitScript → List CallerEvent)
    (h : Handler) : Act (Except Error Unit) := do
  let w ← Async.read
  let attempt := (w.unitAttempts.lookup source).getD 0 + 1
  Async.write { w with criteriaSeen := w.criteriaSeen ++ [c], unitAttempts := World.bump source w.unitAttempts }
  let s := (w.unitScripts.lookup source).getD {}
  if attempt ≤ s.reject then
    return .error (s.rejectError.getD (.invalidState ("fake proxy refused " ++ source)))
  Async.modify fun w => { w with processed := w.processed ++ [source] }
  let isRun := match c with
    | .run _ => true
    | .discovery _ => false
  if s.hang then update i fun p => { p with held := some (h, isRun) }
  else if s.sync then h.deliverAll (events s)
  else Async.fork (.report h (events s))
  return .ok ()

def takeUnit (i : Nat) (c : UnitCriteria) (h : Handler) : Act (Except Error Unit) :=
  match c with
  | .discovery d =>
    let source := d.sources.head?.getD ""
    take i c source (fun s => s.discoveryEvents source) h
  | .run r => take i c (r.sources.head?.getD "") (fun s => s.runEvents r) h

end ScriptedProxy

end TestConductor
