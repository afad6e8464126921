import TestConductor.Proxy.Operation
import TestConductor.Parallel.State
/-! # Making and closing proxies

A factory makes proxies of one kind. Test-host proxies made for an engine are named by the
engine's running count, `discovery-<n>` or `execution-<n>` from 1. Closing a scripted proxy only
counts the call, closing a test-host proxy releases its hosts, and an in-process proxy has
nothing to close.
-/
namespace TestConductor

namespace Factory

def proxy (f : Factory) (count : Nat) : Proxy :=
  match f with
  | .scripted => .scripted ⟨0, 0, 0, 0, none⟩
  | .discovery rt => .discovery (Operation.new ("discovery-" ++ toString (count + 1)) rt)
  | .execution rt => .execution (Operation.new ("execution-" ++ toString (count + 1)) rt)
  | .inProcess => .inProcess .created

def counts : Factory → Bool
  | .discovery _ | .execution _ => true
  | _ => false

def make (f : Factory) : Act Nat := Async.change fun w =>
  (w.proxies.length,
    { w with proxies := w.proxies ++ [f.proxy w.proxyCounter],
             proxyCounter := if f.counts then w.proxyCounter + 1 else w.proxyCounter })

end Factory

namespace Proxy

def mapScripted (f : ScriptedProxy → ScriptedProxy) : Proxy → Proxy
  | .scripted p => .scripted (f p)
  | p => p

def close (i : Nat) : Act Unit := do
  match ← Async.reads fun w => w.proxy i with
  | .scripted _ => Async.modify fun w => w.setProxy i (mapScripted fun p => { p with closes := p.closes + 1 })
  | .discovery _ | .execution _ => Operation.close i
  | .inProcess _ => pure ()

end Proxy

end TestConductor
