/-! # Cooperative programs

A cooperative program runs against a shared state and gives up control only where it waits: for
another task to end, for an event, or for time to pass. Everything between two waits happens at
once, as one step of the state. A program is a finite tree: each node is one effect and holds the
rest of the program as a continuation.
-/
namespace TestConductor

/-- The types a family of cooperative programs is written over: the shared state, the events a
task can wait for, the descriptions of tasks it starts, and what a task ends with. -/
structure Sig where
  State : Type
  Event : Type
  Job : Type
  Result : Type

/-- How a task ended: with a result, or by panicking with a message. -/
inductive TaskEnd (ρ : Type) where
  | returned (result : ρ)
  | panicked (message : String)
  deriving Repr, Inhabited

/-- A cooperative program. -/
inductive Prog (S : Sig) where
  /-- The task ends with a result. -/
  | finish (result : S.Result)
  /-- The task panics. -/
  | panic (message : String)
  /-- One step of the shared state, then the rest. -/
  | step (f : S.State → S.State × Prog S)
  /-- Reads the clock, in nanoseconds. -/
  | clock (k : Nat → Prog S)
  /-- Starts a task; the rest gets its number. -/
  | spawn (job : S.Job) (k : Nat → Prog S)
  /-- Waits for a task to end. -/
  | join (task : Nat) (k : TaskEnd S.Result → Prog S)
  /-- Waits until `attempt` succeeds, trying again whenever one of `events` happens; past the
  deadline, if there is one, continues with `timeout` instead. -/
  | await (events : List S.Event) (deadline : Option Nat)
      (attempt : S.State → Option (S.State × Prog S)) (timeout : Prog S)
  /-- Wakes the tasks waiting for an event, then the rest. -/
  | signal (event : S.Event) (k : Prog S)

def Async (S : Sig) (α : Type) : Type := (α → Prog S) → Prog S

namespace Async

variable {S : Sig} {α β : Type}

instance : Monad (Async S) where
  pure a := fun k => k a
  bind m f := fun k => m (fun a => f a k)

def read : Async S S.State := fun k => .step fun s => (s, k s)

def reads (f : S.State → α) : Async S α := fun k => .step fun s => (s, k (f s))

def write (s : S.State) : Async S Unit := fun k => .step fun _ => (s, k ())

def modify (f : S.State → S.State) : Async S Unit := fun k => .step fun s => (f s, k ())

def change (f : S.State → α × S.State) : Async S α := fun k => .step fun s => let (a, s') := f s; (s', k a)

def now : Async S Nat := fun k => .clock k

def spawn (j : S.Job) : Async S Nat := fun k => .spawn j k

def fork (j : S.Job) : Async S Unit := fun k => .spawn j fun _ => k ()

def join (t : Nat) : Async S (TaskEnd S.Result) := fun k => .join t k

def wait (events : List S.Event) (attempt : S.State → Option (S.State × α)) : Async S α :=
  fun k => .await events none (fun s => (attempt s).map fun (s', a) => (s', k a)) (.panic "no deadline")

def waitWithin (events : List S.Event) (nanos : Nat) (attempt : S.State → Option (S.State × α)) :
    Async S (Option α) := fun k =>
  .clock fun t => .await events (some (t + nanos))
    (fun s => (attempt s).map fun (s', a) => (s', k (some a))) (k none)

def sleep (nanos : Nat) : Async S Unit := fun k =>
  .clock fun t => .await [] (some (t + nanos)) (fun _ => none) (k ())

/-- Gives the other tasks a turn. Where a task takes another lock, or awaits a call that may
pend, a runtime with several threads may run other tasks' work in between; the executor goes on
at once, as an uncontended lock does. -/
abbrev interleave : Async S Unit := sleep 0

def signal (e : S.Event) : Async S Unit := fun k => .signal e (k ())

def panic (message : String) : Async S α := fun _ => .panic message

def toProg (a : Async S S.Result) : Prog S := a .finish

end Async

end TestConductor
