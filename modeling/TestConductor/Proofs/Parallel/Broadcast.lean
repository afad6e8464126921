import TestConductor.Proofs.Runtime.Calls
import TestConductor.Session
/-! # Running an action on every proxy

A broadcast reads the pool once and runs an action on each proxy of what it read, either one
after another or each in a task of its own, the tasks then awaited in pool order. Both are read
as trees of calls (`Calls`), each call noted by what it tells: the pool read, the action's answer
on a proxy, a task started for a proxy, a task awaited and how it ended. `onAll_eq` proves the
broadcast equal to its tree.
-/
namespace TestConductor

namespace Manager

/-- What a call of a broadcast tells an observer. -/
inductive Cast where
  /-- The pool was read: the proxies the action goes to. -/
  | snapshot (proxies : List Nat)
  /-- The action ran on a proxy and answered. -/
  | acted (proxy : Nat) (answer : Except Error Unit)
  /-- A task running the action on a proxy was started. -/
  | started (proxy : Nat) (task : Nat)
  /-- A task was awaited, and ended so. -/
  | joined (task : Nat) (ending : TaskEnd Reply)

def failure : Except Error Unit → List Error
  | .error e => [e]
  | .ok () => []

/-- What the action on a proxy answered, read off the end of the task that ran it: a task that
panicked counts as an invalid state naming the task. -/
def taskAnswer (task : Nat) : TaskEnd Reply → Except Error Unit
  | .returned (.unit r) => r
  | .returned _ => .ok ()
  | .panicked m => .error (panicked task m)

theorem taskError_eq (task : Nat) (e : TaskEnd Reply) : (taskError task e).toList = failure (taskAnswer task e) := by
  rcases e with (_ | r | _ | _ | _ | _ | _ | _) | m
  all_goals first | rfl | (rcases r with e | ⟨⟩ <;> rfl)

/-- Programs are a lawful monad: the continuation monad's laws hold by its definition. -/
instance : LawfulMonad (Async conductor) :=
  LawfulMonad.mk' _ (fun _ => rfl) (fun _ _ => rfl) (fun _ _ _ => rfl)

/-! ## The calls of a broadcast -/

def inTurnCalls (a : PoolAction) : List Nat → Calls conductor Cast (List Error)
  | [] => .done []
  | p :: ps => .call (Proxy.act a p) (.acted p) fun r =>
    (inTurnCalls a ps).bind fun rest => .done (failure r ++ rest)

def spawnCalls (a : PoolAction) : List Nat → Calls conductor Cast (List Nat)
  | [] => .done []
  | p :: ps => .call (Async.spawn (Job.action a p)) (.started p) fun t =>
    (spawnCalls a ps).bind fun ts => .done (t :: ts)

def joinCalls : List Nat → Calls conductor Cast (List Error)
  | [] => .done []
  | t :: ts => .call (Async.join t) (.joined t) fun e =>
    (joinCalls ts).bind fun rest => .done (failure (taskAnswer t e) ++ rest)

def onAllCalls (m : Nat) (a : PoolAction) (parallel : Bool) : Calls conductor Cast (Except Error Unit) :=
  .call (Pool.proxies m) .snapshot fun ps =>
    (if parallel then (spawnCalls a ps).bind joinCalls else inTurnCalls a ps).bind fun errors =>
      .done (Error.ofList errors)

theorem actInTurn_eq (a : PoolAction) (ps : List Nat) : actInTurn a ps = (inTurnCalls a ps).run := by
  induction ps with
  | nil => rfl
  | cons p ps ih =>
    simp only [actInTurn, inTurnCalls, Calls.run, Calls.run_bind, ← ih]
    rfl

theorem spawnAll_eq (a : PoolAction) (ps : List Nat) :
    ps.mapM (fun p => Async.spawn (Job.action a p)) = (spawnCalls a ps).run := by
  induction ps with
  | nil => rfl
  | cons p ps ih =>
    simp only [List.mapM_cons, spawnCalls, Calls.run, Calls.run_bind, ← ih]

theorem joinAll_eq (ts : List Nat) : joinAll ts = (joinCalls ts).run := by
  induction ts with
  | nil => rfl
  | cons t ts ih =>
    simp only [joinAll, joinCalls, Calls.run, Calls.run_bind, ← ih]
    congr 1; funext e
    congr 1; funext rest
    exact congrArg (fun l => (pure (l ++ rest) : Act (List Error))) (taskError_eq t e)

theorem onAll_eq (m : Nat) (a : PoolAction) (parallel : Bool) : onAll m a parallel = (onAllCalls m a parallel).run := by
  unfold onAll onAllCalls
  simp only [Calls.run, Calls.run_bind]
  congr 1; funext ps
  cases parallel with
  | true =>
    simp only [if_true, Calls.run_bind, ← spawnAll_eq, ← joinAll_eq]
    rfl
  | false => simp only [Bool.false_eq_true, if_false, ← actInTurn_eq]

/-! ## What a run of a broadcast tells -/

theorem inTurnCalls_notes {a : PoolAction} {ps : List Nat} {ns : List Cast} {errs : List Error}
    (h : Calls.Notes (inTurnCalls a ps) ns errs) :
    ∃ rs : List (Except Error Unit), rs.length = ps.length ∧ ns = List.zipWith .acted ps rs ∧
      errs = rs.flatMap failure := by
  induction ps generalizing ns errs with
  | nil =>
    obtain ⟨rfl, rfl⟩ := Calls.notes_done.1 h
    exact ⟨[], rfl, rfl, rfl⟩
  | cons p ps ih =>
    obtain ⟨r, ns', rfl, hrest⟩ := Calls.notes_call.1 h
    obtain ⟨ns₁, rest, ns₂, rfl, h₁, h₂⟩ := Calls.notes_bind.1 hrest
    obtain ⟨rfl, rfl⟩ := Calls.notes_done.1 h₂
    obtain ⟨rs, hl, rfl, rfl⟩ := ih h₁
    exact ⟨r :: rs, by simp [hl], by simp, by simp⟩

theorem spawnCalls_notes {a : PoolAction} {ps : List Nat} {ns : List Cast} {ts : List Nat}
    (h : Calls.Notes (spawnCalls a ps) ns ts) : ts.length = ps.length ∧ ns = List.zipWith .started ps ts := by
  induction ps generalizing ns ts with
  | nil =>
    obtain ⟨rfl, rfl⟩ := Calls.notes_done.1 h
    exact ⟨rfl, rfl⟩
  | cons p ps ih =>
    obtain ⟨t, ns', rfl, hrest⟩ := Calls.notes_call.1 h
    obtain ⟨ns₁, rest, ns₂, rfl, h₁, h₂⟩ := Calls.notes_bind.1 hrest
    obtain ⟨rfl, rfl⟩ := Calls.notes_done.1 h₂
    obtain ⟨hl, rfl⟩ := ih h₁
    exact ⟨by simp [hl], by simp⟩

theorem joinCalls_notes {ts : List Nat} {ns : List Cast} {errs : List Error}
    (h : Calls.Notes (joinCalls ts) ns errs) :
    ∃ es : List (TaskEnd Reply), es.length = ts.length ∧ ns = List.zipWith .joined ts es ∧
      errs = (List.zipWith taskAnswer ts es).flatMap failure := by
  induction ts generalizing ns errs with
  | nil =>
    obtain ⟨rfl, rfl⟩ := Calls.notes_done.1 h
    exact ⟨[], rfl, rfl, rfl⟩
  | cons t ts ih =>
    obtain ⟨e, ns', rfl, hrest⟩ := Calls.notes_call.1 h
    change TaskEnd Reply at e
    obtain ⟨ns₁, rest, ns₂, rfl, h₁, h₂⟩ := Calls.notes_bind.1 hrest
    obtain ⟨rfl, rfl⟩ := Calls.notes_done.1 h₂
    obtain ⟨es, hl, rfl, rfl⟩ := ih h₁
    exact ⟨e :: es, by simp [hl], by simp, by simp⟩

theorem taskAnswer_returned (ts : List Nat) (rs : List (Except Error Unit)) (h : ts.length = rs.length) :
    List.zipWith taskAnswer ts (rs.map fun r => .returned (.unit r)) = rs := by
  induction ts generalizing rs with
  | nil => cases rs <;> simp_all
  | cons t ts ih =>
    cases rs with
    | nil => simp at h
    | cons r rs => simp [taskAnswer, ih rs (by simpa using h)]

/-- A broadcast reads the pool once and goes to the proxies it read, each once and in pool
order. One after another, each answer is the action's; in tasks, each task runs the action once on
its proxy and ends with its answer, a panic counting as an invalid state at the proxy's place, and
every task is awaited. Either way the result is `Error.ofList` of the failures in pool order, so
the same answers give the same result. -/
theorem broadcast_in_tasks_as_in_turn (m : Nat) (a : PoolAction) :
    onAll m a false = (onAllCalls m a false).run ∧ onAll m a true = (onAllCalls m a true).run ∧
    (∀ p, Job.program (.action a p) = Async.toProg (do return Reply.unit (← Proxy.act a p))) ∧
    (∀ ns r, Calls.Notes (onAllCalls m a false) ns r → ∃ ps rs, rs.length = ps.length ∧
      ns = .snapshot ps :: List.zipWith .acted ps rs ∧ r = Error.ofList (rs.flatMap failure)) ∧
    (∀ ns r, Calls.Notes (onAllCalls m a true) ns r → ∃ ps ts es, ts.length = ps.length ∧
      es.length = ps.length ∧ ns = .snapshot ps :: (List.zipWith .started ps ts ++ List.zipWith .joined ts es) ∧
      r = Error.ofList ((List.zipWith taskAnswer ts es).flatMap failure)) ∧
    (∀ t n, taskAnswer t (.panicked n) = .error (panicked t n)) ∧
    (∀ ts rs, ts.length = rs.length →
      List.zipWith taskAnswer ts (rs.map fun r => .returned (.unit r)) = rs) := by
  refine ⟨onAll_eq m a false, onAll_eq m a true, fun _ => rfl, ?_, ?_, fun _ _ => rfl, taskAnswer_returned⟩
  · intro ns r h
    obtain ⟨ps, ns', rfl, hrest⟩ := Calls.notes_call.1 h
    obtain ⟨ns₁, errs, ns₂, rfl, h₁, h₂⟩ := Calls.notes_bind.1 hrest
    obtain ⟨rfl, rfl⟩ := Calls.notes_done.1 h₂
    obtain ⟨rs, hl, rfl, rfl⟩ := inTurnCalls_notes h₁
    exact ⟨ps, rs, hl, by simp, rfl⟩
  · intro ns r h
    obtain ⟨ps, ns', rfl, hrest⟩ := Calls.notes_call.1 h
    obtain ⟨ns₁, errs, ns₂, rfl, h₁, h₂⟩ := Calls.notes_bind.1 hrest
    obtain ⟨rfl, rfl⟩ := Calls.notes_done.1 h₂
    obtain ⟨nsa, ts, nsb, rfl, hs, hj⟩ := Calls.notes_bind.1 h₁
    obtain ⟨hl, rfl⟩ := spawnCalls_notes hs
    obtain ⟨es, hel, rfl, rfl⟩ := joinCalls_notes hj
    exact ⟨ps, ts, es, hl, hel.trans hl, by simp, rfl⟩

/-- Closing a pool of two proxies in tasks, the first failing: the result is that one failure. -/
theorem closeInTasks_one_failure :
    Calls.Notes (onAllCalls 0 .close true)
      [.snapshot [4, 7], .started 4 1, .started 7 2, .joined 1 (.returned (.unit (.error .connectionClosed))),
        .joined 2 (.returned (.unit (.ok ())))] (.error .connectionClosed) ∧
    ∃ ps ts es, ts.length = ps.length ∧ es.length = ps.length ∧
      [.snapshot [4, 7], .started 4 1, .started 7 2, .joined 1 (.returned (.unit (.error .connectionClosed))),
        .joined 2 (.returned (.unit (.ok ())))] =
        Cast.snapshot ps :: (List.zipWith .started ps ts ++ List.zipWith .joined ts es) ∧
      (.error .connectionClosed : Except Error Unit) = Error.ofList ((List.zipWith taskAnswer ts es).flatMap failure) :=
  have h : Calls.Notes (onAllCalls 0 .close true)
      [.snapshot [4, 7], .started 4 1, .started 7 2, .joined 1 (.returned (.unit (.error .connectionClosed))),
        .joined 2 (.returned (.unit (.ok ())))] (.error .connectionClosed) := by
    refine .call [4, 7] (.call 1 (.call 2 ?_))
    exact .call (TaskEnd.returned (Reply.unit (.error .connectionClosed)))
      (.call (TaskEnd.returned (Reply.unit (.ok ()))) (.done _))
  ⟨h, (broadcast_in_tasks_as_in_turn 0 .close).2.2.2.2.1 _ _ h⟩

end Manager

end TestConductor
