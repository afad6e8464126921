import TestConductor.Runtime.Prog
/-! # A single-threaded executor with a paused clock

Tasks run one at a time, first come first served: a started or woken task joins the end of the
run queue, and a task runs until it waits or ends. The main task, number 0, drives one command:
it is not queued but run whenever it has been woken, after at most `batch` queued tasks. The
clock moves only when nothing can run and the main task is still waiting: it jumps to the
earliest deadline, and the tasks waiting for it wake in the order they began to wait.
-/
namespace TestConductor

variable {S : Sig}

/-- A task waiting for events or a deadline. -/
structure Parked (S : Sig) where
  task : Nat
  events : List S.Event
  deadline : Option Nat
  /-- When the task began to wait, to order tasks whose deadlines fall together. -/
  order : Nat
  attempt : S.State → Option (S.State × Prog S)
  timeout : Prog S

/-- A task waiting for another to end. -/
structure Joiner (S : Sig) where
  awaited : Nat
  task : Nat
  k : TaskEnd S.Result → Prog S

/-- A queued task: its number, what is left of it, and when it began to wait if it was woken
while waiting for a deadline. -/
structure Runnable (S : Sig) where
  task : Nat
  prog : Prog S
  order : Option Nat

/-- The executor: the shared state, the clock and every task that has not ended. -/
structure Executor (S : Sig) where
  state : S.State
  clock : Nat
  ready : List (Runnable S)
  parked : List (Parked S)
  joiners : List (Joiner S)
  ended : List (Nat × TaskEnd S.Result)
  nextTask : Nat
  nextOrder : Nat
  /-- The main task's program once it has been woken. -/
  mainWake : Option (Prog S)

namespace Executor

def batch : Nat := 61

def start (s : S.State) : Executor S := ⟨s, 0, [], [], [], [], 1, 0, none⟩

def wake (ex : Executor S) (r : Runnable S) : Executor S :=
  if r.task == 0 then { ex with mainWake := some r.prog } else { ex with ready := ex.ready ++ [r] }

def wakeAll (ex : Executor S) (rs : List (Runnable S)) : Executor S := rs.foldl wake ex

def Parked.resume (p : Parked S) : Runnable S :=
  ⟨p.task, .await p.events p.deadline p.attempt p.timeout, some p.order⟩

def signal [BEq S.Event] (ex : Executor S) (e : S.Event) : Executor S :=
  let (woken, rest) := ex.parked.partition fun p => p.events.contains e
  wakeAll { ex with parked := rest } (woken.map Parked.resume)

def finish (ex : Executor S) (task : Nat) (r : TaskEnd S.Result) : Executor S :=
  let (woken, rest) := ex.joiners.partition (·.awaited == task)
  wakeAll { ex with ended := ex.ended ++ [(task, r)], joiners := rest }
    (woken.map fun j => ⟨j.task, j.k r, none⟩)

/-- Runs a task until it waits or ends; `order` is when it began to wait if it was woken
while waiting for a deadline. -/
def runTask [BEq S.Event] (launch : S.Job → Prog S) : Nat → Executor S → Nat → Prog S →
    Option Nat → Executor S
  | 0, ex, _, _, _ => ex
  | fuel + 1, ex, task, p, order =>
    match p with
    | .finish r => ex.finish task (.returned r)
    | .panic m => ex.finish task (.panicked m)
    | .step f =>
      let (s, p') := f ex.state
      runTask launch fuel { ex with state := s } task p' none
    | .clock k => runTask launch fuel ex task (k ex.clock) none
    | .spawn j k =>
      let n := ex.nextTask
      runTask launch fuel { ex with nextTask := n + 1, ready := ex.ready ++ [⟨n, launch j, none⟩] }
        task (k n) none
    | .join t k =>
      match ex.ended.lookup t with
      | some r => runTask launch fuel ex task (k r) none
      | none => { ex with joiners := ex.joiners ++ [⟨t, task, k⟩] }
    | .await evs dl attempt timeout =>
      match attempt ex.state with
      | some (s, p') => runTask launch fuel { ex with state := s } task p' none
      | none =>
        let late := match dl with
          | some d => decide (d ≤ ex.clock)
          | none => false
        if late then runTask launch fuel ex task timeout none
        else
          let o := order.getD ex.nextOrder
          { ex with parked := ex.parked ++ [⟨task, evs, dl, o, attempt, timeout⟩],
                    nextOrder := ex.nextOrder + 1 }
    | .signal e k => runTask launch fuel (ex.signal e) task k none

def nextDeadline (ex : Executor S) : Option Nat :=
  ex.parked.foldl (fun acc p => match p.deadline, acc with
    | some d, some a => some (min d a)
    | some d, none => some d
    | none, a => a) none

def insertByOrder (p : Parked S) : List (Parked S) → List (Parked S)
  | [] => [p]
  | q :: qs => if p.order < q.order then p :: q :: qs else q :: insertByOrder p qs

def fireTimers (ex : Executor S) : Executor S :=
  let (due, rest) := ex.parked.partition fun p => match p.deadline with
    | some d => decide (d ≤ ex.clock)
    | none => false
  let due := due.foldr insertByOrder []
  wakeAll { ex with parked := rest } (due.map Parked.resume)

/-- What happened to the main task of a command. -/
inductive Drive where
  /-- It ended. -/
  | ended
  /-- It waits for something that can no longer happen. -/
  | stuck
  /-- The executor ran out of fuel. -/
  | exhausted

/-- Runs queued tasks, at most `n`, while the main task is asleep; says whether the main task
may be looked at again (true) or nothing can run any more (false). -/
def runBatch [BEq S.Event] (launch : S.Job → Prog S) (fuel : Nat) : Nat → Executor S → Executor S × Bool
  | 0, ex => (ex.fireTimers, true)
  | n + 1, ex =>
    match ex.ready with
    | r :: rest => runBatch launch fuel n (runTask launch fuel { ex with ready := rest } r.task r.prog r.order)
    | [] =>
      if ex.mainWake.isSome then (ex, true)
      else match ex.nextDeadline with
        | some d => ({ ex with clock := max d ex.clock }.fireTimers, true)
        | none => (ex, false)

/-- Drives the main task to its end: the main task runs when woken, then up to `batch` queued
tasks, and the clock moves only when nothing else can run. -/
def drive [BEq S.Event] (launch : S.Job → Prog S) (fuel : Nat) : Nat → Executor S → Executor S × Drive
  | 0, ex => (ex, .exhausted)
  | rounds + 1, ex =>
    let ex := match ex.mainWake with
      | some p => runTask launch fuel { ex with mainWake := none } 0 p none
      | none => ex
    if (ex.ended.lookup 0).isSome then (ex, .ended)
    else
      match runBatch launch fuel batch ex with
      | (ex, true) => drive launch fuel rounds ex
      | (ex, false) => (ex, .stuck)

def settle [BEq S.Event] (launch : S.Job → Prog S) (fuel : Nat) : Nat → Executor S → Executor S
  | 0, ex => ex
  | rounds + 1, ex =>
    match ex.ready with
    | r :: rest => settle launch fuel rounds (runTask launch fuel { ex with ready := rest } r.task r.prog r.order)
    | [] => ex

def command [BEq S.Event] (launch : S.Job → Prog S) (fuel : Nat) (ex : Executor S) (main : Prog S) :
    Option (TaskEnd S.Result) × Executor S :=
  let (ex, _) := drive launch fuel fuel { ex with mainWake := some main }
  let outcome := ex.ended.lookup 0
  let ex := { ex with ended := ex.ended.filter (·.1 != 0), mainWake := none,
                      parked := ex.parked.filter (·.task != 0),
                      joiners := ex.joiners.filter (·.task != 0) }
  (outcome, settle launch fuel fuel ex)

end Executor

end TestConductor
