import TestConductor.Parallel.Tracker
/-! # What each operation of the bookkeeping does

One equation per operation of `Tracker` and `WorkQueue`, so that proofs about the managers cite
these and never unfold an operation: finishing a unit hands the proxy the front of the queue
unless a stop was asked for, a retry puts the unit back before taking the front, and beginning
a request hands one unit to each proxy while units last.
-/
namespace TestConductor

namespace WorkQueue

@[simp] theorem dequeue_items (q : WorkQueue) : q.dequeue.2.items = q.items.tail := by
  unfold dequeue; split <;> simp_all

@[simp] theorem dequeue_attempts (q : WorkQueue) : q.dequeue.2.attempts = q.attempts := by
  unfold dequeue; split <;> rfl

@[simp] theorem dequeue_fst (q : WorkQueue) : q.dequeue.1 = q.items.head? := by
  unfold dequeue; split <;> simp_all

theorem requeue_eq (q : WorkQueue) (i : WorkItem) (limit : Nat) :
    q.requeue i limit =
      if q.attemptsOf i.sourceName < limit then
        (true, { q with attempts := setAttempts i.sourceName (q.attemptsOf i.sourceName + 1) q.attempts,
                        items := if q.items.contains i then q.items else i :: q.items })
      else (false, q) := by
  unfold requeue
  by_cases h : q.attemptsOf i.sourceName < limit
  · have h' : ¬ limit ≤ q.attemptsOf i.sourceName := by omega
    simp only [ge_iff_le, h', if_false, h, if_true]
    split <;> simp_all
  · have h' : limit ≤ q.attemptsOf i.sourceName := by omega
    simp [h', h]

theorem lookup_setAttempts (s x : String) (n : Nat) (a : List (String × Nat)) :
    (setAttempts s n a).lookup x = if x = s then some n else a.lookup x := by
  induction a with
  | nil =>
    by_cases h : x = s
    · subst h
      simp [setAttempts]
    · have hb : (x == s) = false := beq_false_of_ne h
      simp [setAttempts, List.lookup_cons, List.lookup_nil, h, hb]
  | cons kv rest ih =>
    obtain ⟨k, m⟩ := kv
    by_cases hk : k = s
    · subst hk
      by_cases h : x = k
      · subst h
        simp [setAttempts]
      · have hb : (x == k) = false := beq_false_of_ne h
        simp [setAttempts, List.lookup_cons, h, hb]
    · by_cases h : x = k
      · subst h
        simp [setAttempts, hk]
      · have hb : (x == k) = false := beq_false_of_ne h
        simp [setAttempts, List.lookup_cons, hk, hb, ih]

theorem attemptsOf_of_setAttempts {q q' : WorkQueue} {s : String} {n : Nat}
    (h : q'.attempts = setAttempts s n q.attempts) (x : String) :
    q'.attemptsOf x = if x = s then n else q.attemptsOf x := by
  simp only [attemptsOf, h, lookup_setAttempts]
  split <;> rfl

end WorkQueue

namespace Tracker

variable {C A P : Type}

theorem isCurrent_iff (t : Tracker C A) (id : Nat) :
    t.isCurrent id = true ↔ ∃ ctx, t.current = some (id, ctx) := by
  cases h : t.current with
  | none => simp [isCurrent, h]
  | some p =>
    obtain ⟨c, ctx⟩ := p
    simp [isCurrent, h]

theorem isCurrent_some {t : Tracker C A} {c : Nat} {ctx : C} (h : t.current = some (c, ctx)) (id : Nat) :
    t.isCurrent id = decide (c = id) := by
  rw [isCurrent, h, Bool.eq_iff_iff]
  simp

theorem isCurrent_none {t : Tracker C A} (h : t.current = none) (id : Nat) : t.isCurrent id = false := by
  simp [isCurrent, h]

theorem isCurrent_congr {t t' : Tracker C A} (hc : t'.current = t.current) (id : Nat) :
    t'.isCurrent id = t.isCurrent id := by
  simp only [isCurrent, hc]

@[simp] theorem isCurrent_setQueue (t : Tracker C A) (q : WorkQueue) (id : Nat) :
    ({ t with queue := q }).isCurrent id = t.isCurrent id := rfl

theorem context_eq_some (t : Tracker C A) (id : Nat) (ctx : C) :
    t.context id = some ctx ↔ t.current = some (id, ctx) := by
  cases h : t.current with
  | none => simp [context, h]
  | some p =>
    obtain ⟨c, ctx'⟩ := p
    by_cases hc : c = id <;> simp [context, h, hc]

theorem context_eq_none (t : Tracker C A) (id : Nat) :
    t.context id = none ↔ t.isCurrent id = false := by
  cases h : t.current with
  | none => simp [context, isCurrent, h]
  | some p =>
    obtain ⟨c, ctx'⟩ := p
    by_cases hc : c = id <;> simp [context, isCurrent, h, hc]

/-- The unit handed out after one finished: the front of the queue, to the proxy given, unless a
stop was asked for. -/
def nextAfter (t : Tracker C A) (nextProxy : Option P) : Option (P × WorkItem) :=
  if t.stopRequested then none else nextProxy.bind fun p => t.queue.items.head?.map (p, ·)

theorem completeUnit_eq (t : Tracker C A) (n : Option P) :
    t.completeUnit n =
      (⟨t.nextAfter n, t.inFlight - 1 + (if (t.nextAfter n).isSome then 1 else 0) == 0⟩,
       { t with inFlight := t.inFlight - 1 + (if (t.nextAfter n).isSome then 1 else 0),
                queue := if (t.nextAfter n).isSome then { t.queue with items := t.queue.items.tail }
                  else t.queue }) := by
  cases n with
  | none => simp [completeUnit, nextAfter]
  | some p =>
    by_cases hs : t.stopRequested = true
    · simp only [stopRequested] at hs
      simp [completeUnit, nextAfter, stopRequested, hs]
    · cases hq : t.queue.items with
      | nil =>
        have : t.queue.dequeue = (none, t.queue) := by simp [WorkQueue.dequeue, hq]
        simp_all [completeUnit, nextAfter, stopRequested]
      | cons i rest =>
        have : t.queue.dequeue = (some i, { t.queue with items := rest }) := by
          simp [WorkQueue.dequeue, hq]
        simp_all [completeUnit, nextAfter, stopRequested]

/-- The unit a retry hands out: the front of the queue once the refused unit was put back, to the
replacement, unless there is none, a stop was asked for or the budget is spent. -/
def retried (t : Tracker C A) (item : WorkItem) (limit : Nat) (replacement : Option P) :
    Option (P × WorkItem) :=
  if t.stopRequested then none
  else replacement.bind fun p =>
    if t.queue.attemptsOf item.sourceName < limit then
      (if t.queue.items.contains item then t.queue.items else item :: t.queue.items).head?.map (p, ·)
    else none

def retriedQueue (t : Tracker C A) (item : WorkItem) (limit : Nat) (replacement : Option P) : WorkQueue :=
  if t.stopRequested || replacement.isNone || !decide (t.queue.attemptsOf item.sourceName < limit) then t.queue
  else
    { t.queue with
      attempts := WorkQueue.setAttempts item.sourceName (t.queue.attemptsOf item.sourceName + 1) t.queue.attempts
      items := (if t.queue.items.contains item then t.queue.items else item :: t.queue.items).tail }

theorem retry_eq (t : Tracker C A) (item : WorkItem) (limit : Nat) (r : Option P) :
    t.retry item limit r = (t.retried item limit r, { t with queue := t.retriedQueue item limit r }) := by
  cases r with
  | none => simp [retry, retried, retriedQueue]
  | some p =>
    by_cases hs : t.stopRequested = true
    · simp [retry, retried, retriedQueue, hs]
    · by_cases hl : t.queue.attemptsOf item.sourceName < limit
      · -- the unit goes back unless an equal one waits; either way the queue is not empty
        generalize hi : (if t.queue.items.contains item then t.queue.items else item :: t.queue.items) = items'
        have hreq : t.queue.requeue item limit = (true, { t.queue with
            attempts := WorkQueue.setAttempts item.sourceName (t.queue.attemptsOf item.sourceName + 1) t.queue.attempts,
            items := items' }) := by
          rw [WorkQueue.requeue_eq, if_pos hl, hi]
        cases items' with
        | nil => split at hi <;> simp_all
        | cons i rest =>
          simp only [List.contains_iff_mem] at hi
          simp [retry, retried, retriedQueue, hs, hl, hreq, hi, WorkQueue.dequeue]
      · have hl' : limit ≤ t.queue.attemptsOf item.sourceName := by omega
        simp [retry, retried, retriedQueue, hs, hl, hl', WorkQueue.requeue]

theorem retried_some {t : Tracker C A} {item : WorkItem} {limit : Nat} {r : Option P}
    {next : P × WorkItem} (h : t.retried item limit r = some next) :
    r = some next.1 ∧ t.stopRequested = false ∧ t.queue.attemptsOf item.sourceName < limit ∧
      (if t.queue.items.contains item then t.queue.items else item :: t.queue.items) =
        next.2 :: (t.retriedQueue item limit r).items ∧
      (t.retriedQueue item limit r).attempts =
        WorkQueue.setAttempts item.sourceName (t.queue.attemptsOf item.sourceName + 1) t.queue.attempts := by
  cases r with
  | none => simp [retried] at h
  | some p =>
    by_cases hs : t.stopRequested = true
    · simp [retried, hs] at h
    · by_cases hl : t.queue.attemptsOf item.sourceName < limit
      · simp only [retried, hs, hl, Bool.false_eq_true, if_false, if_true, Option.bind_some] at h
        generalize hL : (if t.queue.items.contains item then t.queue.items else item :: t.queue.items) = L at h
        cases L with
        | nil => simp at h
        | cons i rest =>
          simp only [List.head?_cons, Option.map_some, Option.some.injEq] at h
          subst h
          refine ⟨rfl, by simpa using hs, hl, ?_, ?_⟩
          · simp only [List.contains_iff_mem] at hL
            simp [retriedQueue, hs, hl, hL]
          · simp [retriedQueue, hs, hl]
      · simp [retried, hs, hl] at h

theorem retriedQueue_of_none {t : Tracker C A} {item : WorkItem} {limit : Nat} {r : Option P}
    (h : t.retried item limit r = none) : t.retriedQueue item limit r = t.queue := by
  cases r with
  | none => simp [retriedQueue]
  | some p =>
    by_cases hs : t.stopRequested = true
    · simp [retriedQueue, hs]
    · by_cases hl : t.queue.attemptsOf item.sourceName < limit
      · -- the queue with the unit put back is never empty, so a unit would have been handed out
        exfalso
        simp only [retried, hs, hl, Bool.false_eq_true, if_false, if_true, Option.bind_some,
          Option.map_eq_none_iff, List.head?_eq_none_iff] at h
        split at h
        · rename_i hc
          simp [h] at hc
        · simp at h
      · simp [retriedQueue, hs, hl]

theorem nextAfter_some {t : Tracker C A} {n : Option P} {x : P × WorkItem} (h : t.nextAfter n = some x) :
    n = some x.1 ∧ t.queue.items = x.2 :: t.queue.items.tail := by
  cases n with
  | none => simp [nextAfter] at h
  | some p =>
    by_cases hs : t.stopRequested = true
    · simp [nextAfter, hs] at h
    · cases hq : t.queue.items with
      | nil => simp [nextAfter, hs, hq] at h
      | cons i rest =>
        simp only [nextAfter, hs, Bool.false_eq_true, if_false, Option.bind_some, hq, List.head?_cons,
          Option.map_some, Option.some.injEq] at h
        subst h
        exact ⟨rfl, rfl⟩

theorem nextAfter_none {t : Tracker C A} {p : P} (h : t.nextAfter (some p) = none) :
    t.stopRequested = true ∨ t.queue.items = [] := by
  cases hs : t.stopRequested with
  | true => exact Or.inl rfl
  | false =>
    right
    cases hq : t.queue.items with
    | nil => rfl
    | cons i rest => simp [nextAfter, hs, hq] at h

@[simp] theorem retried_of_stop (t : Tracker C A) (item : WorkItem) (limit : Nat) (r : Option P)
    (h : t.stopRequested = true) : t.retried item limit r = none := by
  simp [retried, h]

@[simp] theorem nextAfter_of_stop (t : Tracker C A) (n : Option P) (h : t.stopRequested = true) :
    t.nextAfter n = none := by
  simp [nextAfter, h]

theorem handOut_eq (ps : List P) (q : WorkQueue) :
    handOut ps q = (ps.zip q.items, { q with items := q.items.drop ps.length }) := by
  induction ps generalizing q with
  | nil => simp [handOut]
  | cons p ps ih =>
    cases hq : q.items with
    | nil =>
      cases q
      simp_all [handOut, WorkQueue.dequeue]
    | cons i rest =>
      have hd : q.dequeue = (some i, { q with items := rest }) := by simp [WorkQueue.dequeue, hq]
      simp [handOut, hd, ih]

theorem begin_eq (t : Tracker C A) (id : Nat) (ctx : C) (items : List WorkItem) (fresh : A) (ps : List P) :
    t.begin id ctx items fresh ps =
      ((handOut ps (WorkQueue.new items)).1,
       { t with current := some (id, ctx), queue := (handOut ps (WorkQueue.new items)).2, tally := fresh,
                abortRequested := false, cancelRequested := false,
                inFlight := (handOut ps (WorkQueue.new items)).1.length }) := rfl

theorem requestStop_eq (t : Tracker C A) (s : StopRequest) :
    t.requestStop s =
      (t.current.isSome,
       if t.current.isNone then t
       else { t with abortRequested := t.abortRequested || s == .abort,
                     cancelRequested := t.cancelRequested || s == .cancel }) := by
  cases h : t.current <;> cases s <;> simp [requestStop, h]

end Tracker

end TestConductor
