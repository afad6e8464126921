import TestConductor.Proxy.Lifecycle
/-! # Pools of proxies

A pool keeps its proxies in order, at least one of them. Growing it asks the factory for more;
shrinking it keeps the first ones and closes the rest, in order. A proxy that can no longer be
used is replaced in its place by a fresh one and then closed; a proxy that has already left the
pool is not replaced. Disposing closes every proxy and leaves the pool empty.
-/
namespace TestConductor

namespace Pool

def cut (members : List Nat) (level : Nat) : List Nat × List Nat :=
  (members.take level, members.drop level)

def swap (members : List Nat) (old fresh : Nat) : List Nat :=
  members.map fun p => if p == old then fresh else p

end Pool

namespace World

def pool (w : World) (m : Nat) : Pool := ((w.managers[m]?).map (·.pool)).getD default

def setPool (w : World) (m : Nat) (f : Pool → Pool) : World :=
  w.setManager m fun x => { x with pool := f x.pool }

end World

namespace Pool

def proxies (m : Nat) : Act (List Nat) := Async.reads fun w => (w.pool m).members

def contains (m p : Nat) : Act Bool := Async.reads fun w => (w.pool m).members.contains p

def makeMany (m : Nat) : Nat → Act (List Nat)
  | 0 => pure []
  | n + 1 => do
    let f ← Async.reads fun w => (w.pool m).factory
    let p ← f.make
    let rest ← makeMany m n
    return p :: rest

def closeAll : List Nat → Act Unit
  | [] => pure ()
  | p :: ps => do Proxy.close p; closeAll ps

def resize (m level : Nat) : Act Unit := do
  let level := max level 1
  let current ← proxies m
  if level > current.length then
    let fresh ← makeMany m (level - current.length)
    Async.modify fun w => w.setPool m fun p => { p with members := p.members ++ fresh }
  else
    let (kept, removed) := cut current level
    Async.modify fun w => w.setPool m fun p => { p with members := kept }
    closeAll removed

/-- Replaces proxy `old` of the pool of manager `m` by a fresh one and closes it; gives the fresh
proxy, or nothing when `old` is no longer in the pool. -/
def replace (m old : Nat) : Act (Option Nat) := do
  if !(← contains m old) then return none
  let f ← Async.reads fun w => (w.pool m).factory
  let fresh ← f.make
  Async.modify fun w => w.setPool m fun p => { p with members := swap p.members old fresh }
  Proxy.close old
  return some fresh

def dispose (m : Nat) : Act Unit := do
  let current ← proxies m
  Async.modify fun w => w.setPool m fun p => { p with members := [] }
  closeAll current

def create (f : Factory) (level : Nat) (shared discovers : Bool) (retryLimit : Nat) : Act Nat := do
  let m ← Async.change fun w =>
    let mgr : Manager := ⟨⟨[], shared, f⟩, discovers, retryLimit,
      Tracker.new (if discovers then .discovery .empty else .run .empty)⟩
    (w.managers.length, { w with managers := w.managers ++ [mgr] })
  let fresh ← makeMany m (max level 1)
  Async.modify fun w => w.setPool m fun p => { p with members := fresh }
  return m

end Pool

end TestConductor
