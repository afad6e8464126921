import TestConductor.Proxy.InProcess
import TestConductor.Scripted.Proxy
/-! # Driving a proxy of any kind

Readying, aborting, canceling and handing a unit of work to a proxy, by its kind, and the
actions a pool runs on each of its proxies. A discovery proxy has no run to cancel, and a proxy
refuses a unit of a kind it does not do.
-/
namespace TestConductor

namespace Proxy

def prepare (i : Nat) : Act (Except Error Unit) := do
  match ← Async.reads fun w => w.proxy i with
  | .scripted _ => ScriptedProxy.prepare i
  | .discovery _ | .execution _ => Operation.prepare i
  | .inProcess _ => InProcess.prepare i

def abort (i : Nat) : Act Unit := do
  match ← Async.reads fun w => w.proxy i with
  | .scripted _ => ScriptedProxy.abort i
  | .discovery _ => TestHost.abortDiscovery i
  | .execution _ => TestHost.abortRun i
  | .inProcess _ => InProcess.abort i

def cancel (i : Nat) : Act Unit := do
  match ← Async.reads fun w => w.proxy i with
  | .scripted _ => ScriptedProxy.cancel i
  | .discovery _ => pure ()
  | .execution _ => TestHost.cancelRun i
  | .inProcess _ => InProcess.cancel i

def wrongKind : Error := .invalidState "Proxy cannot take this kind of work"

def take (i : Nat) (c : UnitCriteria) (h : Handler) : Act (Except Error Unit) := do
  match ← Async.reads fun w => w.proxy i, c with
  | .scripted _, _ => ScriptedProxy.takeUnit i c h
  | .discovery _, .discovery d => TestHost.discover i d h
  | .execution _, .run r => TestHost.start i r h
  | .inProcess _, .run r => InProcess.start i r h
  | _, _ => return .error wrongKind

def act (a : PoolAction) (i : Nat) : Act (Except Error Unit) := do
  match a with
  | .prepare => prepare i
  | .abort => abort i; return .ok ()
  | .cancel => cancel i; return .ok ()
  | .close => close i; return .ok ()
  | .probe failures panics =>
    Async.modify fun w => { w with called := w.called ++ [i] }
    if let some m := panics.lookup i then Async.panic m
    return match failures.lookup i with
      | some e => .error e
      | none => .ok ()

end Proxy

end TestConductor
