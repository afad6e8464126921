import TestConductor.World
/-! # Test-host proxy bookkeeping

Reading and changing the test-host bookkeeping of a proxy, and asking it to abort: an abort is
recorded only while the proxy is busy, and gives the worker there is to stop.
-/
namespace TestConductor

namespace Proxy

def operation? : Proxy → Option Operation
  | .discovery o | .execution o => some o
  | _ => none

def mapOperation (f : Operation → Operation) : Proxy → Proxy
  | .discovery o => .discovery (f o)
  | .execution o => .execution (f o)
  | p => p

end Proxy

namespace World

def operation (w : World) (i : Nat) : Operation := ((w.proxy i).operation?).getD default

def setOperation (w : World) (i : Nat) (f : Operation → Operation) : World := w.setProxy i (Proxy.mapOperation f)

end World

namespace Operation

def requestAbort (i : Nat) : Act (Option Nat) := do
  let o ← Async.reads fun w => w.operation i
  if o.state != .busy then return none
  Async.modify fun w => w.setOperation i fun o => { o with abortRequested := true }
  return o.worker

def isBusy (i : Nat) : Act Bool := Async.reads fun w => (w.operation i).state == .busy

end Operation

end TestConductor
