import TestConductor.Work.Queue
/-! # Request bookkeeping of a parallel manager

A parallel manager serves one request at a time. The tracker holds its work queue, how many
units are in flight, the tally of finished units and any stop the caller asked for. Requests are
numbered from 1; a completion for any other number than the current one is stale. Once a stop is
asked for, no more units are handed out, and a refused unit is not retried.
-/
namespace TestConductor

/-- A caller's request to stop. -/
inductive StopRequest where
  | abort
  | cancel
  deriving DecidableEq, Repr, Inhabited

/-- The bookkeeping of the request a manager serves, over contexts `C` and tallies `A`. -/
structure Tracker (C A : Type) where
  lastId : Nat
  current : Option (Nat × C)
  queue : WorkQueue
  tally : A
  inFlight : Nat
  abortRequested : Bool
  cancelRequested : Bool
  closed : Bool
  deriving Repr

/-- What finishing one unit leads to: the next unit for the proxy that finished it, and whether
the request is now finished. -/
structure UnitCompletion (P : Type) where
  next : Option (P × WorkItem)
  finished : Bool

namespace Tracker

variable {C A P : Type}

def new (tally : A) : Tracker C A := ⟨0, none, WorkQueue.new [], tally, 0, false, false, false⟩

def close (t : Tracker C A) : Bool × Tracker C A := (!t.closed, { t with closed := true })

def isInProgress (t : Tracker C A) : Bool := t.current.isSome

def nextId (t : Tracker C A) : Nat × Tracker C A := (t.lastId + 1, { t with lastId := t.lastId + 1 })

def isCurrent (t : Tracker C A) (id : Nat) : Bool :=
  match t.current with
  | some (c, _) => c == id
  | none => false

def context (t : Tracker C A) (id : Nat) : Option C :=
  match t.current with
  | some (c, ctx) => if c == id then some ctx else none
  | none => none

def handOut : List P → WorkQueue → List (P × WorkItem) × WorkQueue
  | [], q => ([], q)
  | p :: ps, q =>
    match q.dequeue with
    | (some i, q') => let (rest, q'') := handOut ps q'; ((p, i) :: rest, q'')
    | (none, q') => ([], q')

def begin (t : Tracker C A) (id : Nat) (ctx : C) (items : List WorkItem) (fresh : A) (proxies : List P) :
    List (P × WorkItem) × Tracker C A :=
  let (batch, q) := handOut proxies (WorkQueue.new items)
  (batch, { t with current := some (id, ctx), queue := q, tally := fresh, abortRequested := false,
                   cancelRequested := false, inFlight := batch.length })

def requestStop (t : Tracker C A) (s : StopRequest) : Bool × Tracker C A :=
  if t.current.isNone then (false, t)
  else match s with
    | .abort => (true, { t with abortRequested := true })
    | .cancel => (true, { t with cancelRequested := true })

def pendingStop (t : Tracker C A) (id : Nat) : Option StopRequest :=
  if !t.isCurrent id then none
  else if t.abortRequested then some .abort
  else if t.cancelRequested then some .cancel
  else none

def stopRequested (t : Tracker C A) : Bool := t.abortRequested || t.cancelRequested

def hasPending (t : Tracker C A) : Bool := !t.queue.isEmpty

def completeUnit (t : Tracker C A) (nextProxy : Option P) : UnitCompletion P × Tracker C A :=
  let t := { t with inFlight := t.inFlight - 1 }
  let (next, t) := match nextProxy with
    | some p =>
      if t.stopRequested then (none, t)
      else match t.queue.dequeue with
        | (some i, q) => (some (p, i), { t with queue := q })
        | (none, q) => (none, { t with queue := q })
    | none => (none, t)
  let t := if next.isSome then { t with inFlight := t.inFlight + 1 } else t
  (⟨next, t.inFlight == 0⟩, t)

def retry (t : Tracker C A) (item : WorkItem) (limit : Nat) (replacement : Option P) :
    Option (P × WorkItem) × Tracker C A :=
  match replacement with
  | none => (none, t)
  | some p =>
    if t.stopRequested then (none, t)
    else
      let (ok, q) := t.queue.requeue item limit
      if !ok then (none, { t with queue := q })
      else match q.dequeue with
        | (some i, q') => (some (p, i), { t with queue := q' })
        | (none, q') => (none, { t with queue := q' })

def finish (t : Tracker C A) : Tracker C A := { t with current := none }

end Tracker

end TestConductor
