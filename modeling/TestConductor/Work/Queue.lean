import TestConductor.Model.TestCase
/-! # Work items and the work queue

A unit of parallel work is a whole source or a set of tests of one source. The queue hands
items out first in, first out; an item a proxy refused goes back to the front, at most a fixed
number of times per source over the queue's life, and never twice while an equal item waits.
-/
namespace TestConductor

/-- One unit handed to a single proxy. -/
inductive WorkItem where
  | source (name : String)
  | tests (name : String) (cases : List TestCase)
  deriving DecidableEq, Repr, Inhabited

namespace WorkItem

def sourceName : WorkItem → String
  | .source s => s
  | .tests s _ => s

end WorkItem

/-- Pending work items with a count of requeues per source. -/
structure WorkQueue where
  items : List WorkItem
  /-- Requeues granted so far, by source. -/
  attempts : List (String × Nat)
  /-- How many items the queue was created with. -/
  total : Nat
  deriving Repr, Inhabited

namespace WorkQueue

def new (items : List WorkItem) : WorkQueue := ⟨items, [], items.length⟩

def dequeue (q : WorkQueue) : Option WorkItem × WorkQueue :=
  match q.items with
  | [] => (none, q)
  | i :: rest => (some i, { q with items := rest })

def attemptsOf (q : WorkQueue) (s : String) : Nat := (q.attempts.lookup s).getD 0

def setAttempts (s : String) (n : Nat) : List (String × Nat) → List (String × Nat)
  | [] => [(s, n)]
  | (k, m) :: rest => if k = s then (s, n) :: rest else (k, m) :: setAttempts s n rest

/-- Puts a refused item back at the front, unless an equal item is waiting; false once its
source has been requeued `limit` times. -/
def requeue (q : WorkQueue) (i : WorkItem) (limit : Nat) : Bool × WorkQueue :=
  let n := q.attemptsOf i.sourceName
  if n ≥ limit then (false, q)
  else
    let q := { q with attempts := setAttempts i.sourceName (n + 1) q.attempts }
    if q.items.contains i then (true, q) else (true, { q with items := i :: q.items })

def size (q : WorkQueue) : Nat := q.items.length

def isEmpty (q : WorkQueue) : Bool := q.items.isEmpty

end WorkQueue

end TestConductor
