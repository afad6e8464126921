import TestConductor.Proxy.TestHost
/-! # In-process proxies

An in-process proxy runs tests through the engine of the conductor's own process. The engine is
readied the first time the proxy is, or else when the proxy takes its first run. The proxy is
busy from the start of a run until the engine reports its completion; explicit tests reach the
engine grouped by source. A run the engine refuses is reported at once as aborted, after an
error message. Aborting and canceling reach the engine only while a run is in progress, and
there is nothing to close.
-/
namespace TestConductor

namespace ScriptedEngine

def update (f : ScriptedEngine → ScriptedEngine) : Act Unit :=
  Async.modify fun w => { w with engine := f w.engine }

def log (c : EngineCall) : Act Unit := update fun e => { e with calls := e.calls ++ [c] }

def prepare : Act (Except Error Unit) := do
  log .prepare
  match (← Async.reads (·.engine)).initFailure? with
  | some err =>
    update fun e => { e with initFailures := e.initFailures + 1 }
    return .error err
  | none => return .ok ()

def start (c : RunCriteria) (h : Handler) : Act (Except Error Unit) := do
  log (.start c.target)
  let e ← Async.reads (·.engine)
  match e.script.startError with
  | some err => return .error err
  | none =>
    match e.script.mode with
    | .spawn => Async.fork (.report h (e.script.run.runEvents c))
    | .sync => h.deliverAll (e.script.run.runEvents c)
    | .hold => update fun e => { e with held := some (c, h) }
    return .ok ()

def takeHeld : Act (Option (RunCriteria × Handler)) := Async.change fun w =>
  (w.engine.held, { w with engine := { w.engine with held := none } })

def stop (s : StopRequest) (complete : Bool) : Act Unit := do
  if complete then
    if let some (_, h) ← takeHeld then h.deliver (UnitScript.stoppedRun s)

def cancel : Act Unit := do
  log .cancel
  stop .cancel (← Async.reads (·.engine.script.completeOnCancel))

def abort : Act Unit := do
  log .abort
  stop .abort (← Async.reads (·.engine.script.completeOnAbort))

def release : Act Bool := do
  match ← takeHeld with
  | some (c, h) =>
    h.deliverAll ((← Async.reads (·.engine.script.run)).runEvents c)
    return true
  | none => return false

end ScriptedEngine

namespace InProcess

def state (i : Nat) : Act ProxyState := Async.reads fun w =>
  match w.proxy i with
  | .inProcess s => s
  | _ => .created

def setState (i : Nat) (s : ProxyState) : Act Unit := Async.modify fun w => w.setProxy i fun _ => .inProcess s

def grouped (c : RunCriteria) : RunCriteria :=
  if c.hasSpecificTests then c.retarget (.tests (c.testsBySource.flatMap (·.2))) else c

def prepare (i : Nat) : Act (Except Error Unit) := do
  if (← state i) == .created then
    if let .error e ← ScriptedEngine.prepare then return .error e
    setState i .initialized
  return .ok ()

def abort (i : Nat) : Act Unit := do
  if (← state i) == .busy then ScriptedEngine.abort

def cancel (i : Nat) : Act Unit := do
  if (← state i) == .busy then ScriptedEngine.cancel

def start (i : Nat) (c : RunCriteria) (h : Handler) : Act (Except Error Unit) := do
  let s ← state i
  if s == .busy then return .error (.invalidState "In-process test run already in progress")
  setState i .busy
  let outcome ← do
    if s == .created then
      match ← ScriptedEngine.prepare with
      | .error e => pure (.error e)
      | .ok () => ScriptedEngine.start (grouped c) (.inProcess i h)
    else ScriptedEngine.start (grouped c) (.inProcess i h)
  if let .error e := outcome then
    setState i .aborted
    TestHost.reportRunFailure h
      ("Failed to run tests in process for " ++ TestHost.joined c.sources ++ ": " ++ e.message)
  return .ok ()

end InProcess

end TestConductor
