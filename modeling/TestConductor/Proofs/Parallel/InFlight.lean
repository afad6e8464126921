import TestConductor.Proofs.Parallel.Tracker
/-! # Units in flight

A manager makes calls on its bookkeeping in a fixed way: it begins a request, then accounts for
each unit it handed out once the unit is done, retries a unit a proxy refused, asks for stops,
and finishes the request once it is reported. Beside the bookkeeping we keep the units
outstanding: handed out and not yet accounted for. Main statement, at every point of every run
made that way from a fresh tracker: the count of units in flight is the number outstanding, so
accounting for a unit never finds the count at zero; a request is reported finished at the call
that accounts for its last outstanding unit and at no other; once a stop is recorded no unit is
handed out until the next request begins; and only the current request has a stop to pass on.
-/
namespace TestConductor

namespace Tracker

variable {C A P : Type}

@[simp] theorem completeUnit_next (t : Tracker C A) (n : Option P) :
    (t.completeUnit n).1.next = t.nextAfter n := by
  rw [completeUnit_eq]

theorem completeUnit_inFlight (t : Tracker C A) (n : Option P) :
    (t.completeUnit n).2.inFlight = t.inFlight - 1 + (if (t.nextAfter n).isSome then 1 else 0) := by
  rw [completeUnit_eq]

theorem completeUnit_finished (t : Tracker C A) (n : Option P) :
    (t.completeUnit n).1.finished = ((t.completeUnit n).2.inFlight == 0) := by
  rw [completeUnit_eq]

@[simp] theorem completeUnit_stopRequested (t : Tracker C A) (n : Option P) :
    (t.completeUnit n).2.stopRequested = t.stopRequested := by
  rw [completeUnit_eq]
  rfl

@[simp] theorem retry_inFlight (t : Tracker C A) (item : WorkItem) (limit : Nat) (r : Option P) :
    (t.retry item limit r).2.inFlight = t.inFlight := by
  rw [retry_eq]

@[simp] theorem retry_stopRequested (t : Tracker C A) (item : WorkItem) (limit : Nat) (r : Option P) :
    (t.retry item limit r).2.stopRequested = t.stopRequested := by
  rw [retry_eq]
  rfl

@[simp] theorem requestStop_inFlight (t : Tracker C A) (s : StopRequest) :
    (t.requestStop s).2.inFlight = t.inFlight := by
  rw [requestStop_eq]
  split <;> rfl

theorem requestStop_stopRequested {t : Tracker C A} {s : StopRequest} (h : (t.requestStop s).1 = true) :
    (t.requestStop s).2.stopRequested = true := by
  rw [requestStop_eq] at h ⊢
  have hc : t.current.isNone = false := by simpa [Option.isNone_iff_eq_none, Option.isSome_iff_ne_none] using h
  cases s <;> simp [hc, stopRequested]

theorem requestStop_keeps_stop {t : Tracker C A} (s : StopRequest) (h : t.stopRequested = true) :
    (t.requestStop s).2.stopRequested = true := by
  rw [requestStop_eq]
  split
  · exact h
  · simp only [stopRequested, Bool.or_eq_true] at h ⊢
    rcases h with h | h <;> simp [h]

/-! ## Calls, answers and the units outstanding -/

/-- A call a manager makes on its bookkeeping. The unit a manager accounts for or retries is
named, so that we can say which unit the call concerns. -/
inductive Call (C A P : Type) where
  | begin (id : Nat) (ctx : C) (items : List WorkItem) (fresh : A) (proxies : List P)
  | complete (unit : WorkItem) (next : Option P)
  | retry (unit : WorkItem) (limit : Nat) (replacement : Option P)
  | stop (s : StopRequest)
  | finish

def Call.isBegin : Call C A P → Bool
  | .begin .. => true
  | _ => false

/-- What a call answered. -/
inductive Answer (P : Type) where
  | batch (units : List (P × WorkItem))
  | completed (c : UnitCompletion P)
  | retried (next : Option (P × WorkItem))
  | stopped (recorded : Bool)
  | finished

namespace Answer

def handedOut : Answer P → List (P × WorkItem)
  | .batch units => units
  | .completed c => c.next.toList
  | .retried next => next.toList
  | _ => []

def reportsFinished : Answer P → Bool
  | .completed c => c.finished
  | _ => false

end Answer

/-- The bookkeeping with the units outstanding: handed out and not yet accounted for. -/
structure Books (C A P : Type) where
  tracker : Tracker C A
  outstanding : List WorkItem

namespace Books

/-- Makes a call: a batch's units are outstanding; accounting for a unit takes it off and puts
on the unit handed out next; a retry that hands a unit out puts it on in place of the refused
one, and one that does not leaves the refused unit outstanding until it is accounted for. -/
def perform (b : Books C A P) : Call C A P → Answer P × Books C A P
  | .begin id ctx items fresh ps =>
    (.batch (b.tracker.begin id ctx items fresh ps).1,
      ⟨(b.tracker.begin id ctx items fresh ps).2, (b.tracker.begin id ctx items fresh ps).1.map (·.2)⟩)
  | .complete u n =>
    (.completed (b.tracker.completeUnit n).1,
      ⟨(b.tracker.completeUnit n).2, b.outstanding.erase u ++ ((b.tracker.completeUnit n).1.next.map (·.2)).toList⟩)
  | .retry u limit r =>
    (.retried (b.tracker.retry u limit r).1,
      ⟨(b.tracker.retry u limit r).2,
        match (b.tracker.retry u limit r).1 with
        | some x => b.outstanding.erase u ++ [x.2]
        | none => b.outstanding⟩)
  | .stop s => (.stopped (b.tracker.requestStop s).1, ⟨(b.tracker.requestStop s).2, b.outstanding⟩)
  | .finish => (.finished, ⟨b.tracker.finish, b.outstanding⟩)

def replay (b : Books C A P) : List (Call C A P) → List (Answer P) × Books C A P
  | [] => ([], b)
  | c :: cs => ((b.perform c).1 :: ((b.perform c).2.replay cs).1, ((b.perform c).2.replay cs).2)

def Allowed (b : Books C A P) : Call C A P → Prop
  | .complete u _ => u ∈ b.outstanding
  | .retry u _ _ => u ∈ b.outstanding
  | _ => True

def Issued : Books C A P → List (Call C A P) → Prop
  | _, [] => True
  | b, c :: cs => b.Allowed c ∧ Issued (b.perform c).2 cs

/-- The bookkeeping reached from a fresh tracker by calls a manager makes. -/
inductive Reachable (tally : A) : Books C A P → Prop
  | fresh : Reachable tally ⟨Tracker.new tally, []⟩
  | step {b : Books C A P} {c : Call C A P} : Reachable tally b → b.Allowed c → Reachable tally (b.perform c).2

def Balanced (b : Books C A P) : Prop := b.tracker.inFlight = b.outstanding.length

@[simp] theorem replay_nil (b : Books C A P) : b.replay [] = ([], b) := rfl

theorem replay_cons (b : Books C A P) (c : Call C A P) (cs : List (Call C A P)) :
    b.replay (c :: cs) = ((b.perform c).1 :: ((b.perform c).2.replay cs).1, ((b.perform c).2.replay cs).2) :=
  rfl

/-! ## One call -/

theorem one_le_inFlight {b : Books C A P} (hb : b.Balanced) {u : WorkItem} (hu : u ∈ b.outstanding) :
    1 ≤ b.tracker.inFlight := by
  rw [hb]
  exact List.length_pos_of_mem hu

theorem perform_begin_balanced (b : Books C A P) (id : Nat) (ctx : C) (items : List WorkItem) (fresh : A)
    (ps : List P) : (b.perform (.begin id ctx items fresh ps)).2.Balanced := by
  simp [perform, Balanced, begin_eq]

theorem perform_balanced {b : Books C A P} (hb : b.Balanced) {c : Call C A P} (hc : b.Allowed c) :
    (b.perform c).2.Balanced := by
  cases c with
  | begin id ctx items fresh ps => exact perform_begin_balanced b id ctx items fresh ps
  | complete u n =>
    have h1 := one_le_inFlight hb hc
    simp only [Balanced] at hb ⊢
    simp only [perform, completeUnit_inFlight, completeUnit_next, List.length_append,
      List.length_erase_of_mem hc, ← hb]
    cases b.tracker.nextAfter n <;> simp
  | retry u limit r =>
    have h1 := one_le_inFlight hb hc
    simp only [Balanced] at hb ⊢
    simp only [perform, retry_inFlight]
    split
    · simp only [List.length_append, List.length_erase_of_mem hc, List.length_singleton]
      omega
    · exact hb
  | stop s => simpa [perform, Balanced] using hb
  | finish => simpa [perform, Balanced, finish] using hb

theorem finished_iff {b : Books C A P} (hb : b.Balanced) {u : WorkItem} (hu : u ∈ b.outstanding)
    (n : Option P) :
    (b.tracker.completeUnit n).1.finished = true ↔ (b.perform (.complete u n)).2.outstanding = [] := by
  have hafter := perform_balanced hb (c := .complete u n) hu
  simp only [Balanced, perform] at hafter
  rw [completeUnit_finished, beq_iff_eq, hafter, List.length_eq_zero_iff]
  rfl

theorem perform_stopRequested (b : Books C A P) {c : Call C A P} (hc : c.isBegin = false)
    (h : b.tracker.stopRequested = true) : (b.perform c).2.tracker.stopRequested = true := by
  cases c with
  | begin => simp [Call.isBegin] at hc
  | complete u n => simpa [perform] using h
  | retry u limit r => simpa [perform] using h
  | stop s => exact requestStop_keeps_stop s h
  | finish => exact h

theorem handedOut_of_stop (b : Books C A P) {c : Call C A P} (hc : c.isBegin = false)
    (h : b.tracker.stopRequested = true) : (b.perform c).1.handedOut = [] := by
  cases c with
  | begin => simp [Call.isBegin] at hc
  | complete u n => simp [perform, Answer.handedOut, h]
  | retry u limit r => simp [perform, Answer.handedOut, retry_eq, h]
  | stop s => rfl
  | finish => rfl

/-! ## Runs -/

theorem Reachable.balanced {tally : A} {b : Books C A P} (h : Reachable tally b) : b.Balanced := by
  induction h with
  | fresh => rfl
  | step _ hc ih => exact perform_balanced ih hc

theorem replay_handedOut_of_stop (b : Books C A P) (cs : List (Call C A P))
    (hcs : ∀ c ∈ cs, c.isBegin = false) (h : b.tracker.stopRequested = true) :
    ∀ a ∈ (b.replay cs).1, a.handedOut = [] := by
  induction cs generalizing b with
  | nil => simp
  | cons c cs ih =>
    have hc := hcs c List.mem_cons_self
    intro a ha
    rw [replay_cons, List.mem_cons] at ha
    rcases ha with rfl | ha
    · exact handedOut_of_stop b hc h
    · exact ih _ (fun c' h' => hcs c' (List.mem_cons_of_mem c h')) (perform_stopRequested b hc h) a ha

theorem replay_outstanding_nil (b : Books C A P) (cs : List (Call C A P))
    (hcs : ∀ c ∈ cs, c.isBegin = false) (hi : b.Issued cs) (h : b.outstanding = []) :
    (b.replay cs).2.outstanding = [] := by
  induction cs generalizing b with
  | nil => exact h
  | cons c cs ih =>
    obtain ⟨hc, hi⟩ := hi
    apply ih _ (fun c' h' => hcs c' (List.mem_cons_of_mem c h')) hi
    cases c with
    | begin => simp [Call.isBegin] at hcs
    | complete u n => simp [Allowed, h] at hc
    | retry u limit r => simp [Allowed, h] at hc
    | stop s => exact h
    | finish => exact h

theorem replay_countP_finished (b : Books C A P) (cs : List (Call C A P))
    (hcs : ∀ c ∈ cs, c.isBegin = false) (hi : b.Issued cs) (hb : b.Balanced) :
    (b.replay cs).1.countP Answer.reportsFinished =
      if b.outstanding ≠ [] ∧ (b.replay cs).2.outstanding = [] then 1 else 0 := by
  induction cs generalizing b with
  | nil => by_cases h : b.outstanding = [] <;> simp [h]
  | cons c cs ih =>
    obtain ⟨hc, hi⟩ := hi
    have hcs' : ∀ c' ∈ cs, c'.isBegin = false := fun c' h' => hcs c' (List.mem_cons_of_mem c h')
    rw [replay_cons, List.countP_cons, ih _ hcs' hi (perform_balanced hb hc)]
    cases c with
    | begin => simp [Call.isBegin] at hcs
    | complete u n =>
      have hne : b.outstanding ≠ [] := List.ne_nil_of_mem hc
      by_cases hlast : (b.perform (.complete u n)).2.outstanding = []
      · -- the call accounts for the last unit: it reports, and nothing is outstanding after
        have hend := replay_outstanding_nil _ cs hcs' hi hlast
        have hf : (b.perform (.complete u n)).1.reportsFinished = true := (finished_iff hb hc n).2 hlast
        rw [if_neg (fun h => h.1 hlast), hf, if_pos rfl, if_pos ⟨hne, hend⟩]
      · have hf : (b.perform (.complete u n)).1.reportsFinished = false :=
          Bool.eq_false_iff.2 (mt (finished_iff hb hc n).1 hlast)
        rw [hf, if_neg Bool.false_ne_true, Nat.add_zero]
        exact ite_congr (propext (and_congr_left' (iff_of_true hlast hne))) (fun _ => rfl) (fun _ => rfl)
    | retry u limit r =>
      -- a retry leaves a unit outstanding for the refused one
      have hne : b.outstanding ≠ [] := List.ne_nil_of_mem hc
      have hne' : (b.perform (.retry u limit r)).2.outstanding ≠ [] := by
        simp only [perform]
        split
        · simp
        · exact hne
      have hf : (b.perform (.retry u limit r)).1.reportsFinished = false := rfl
      rw [hf, if_neg Bool.false_ne_true, Nat.add_zero]
      exact ite_congr (propext (and_congr_left' (iff_of_true hne' hne))) (fun _ => rfl) (fun _ => rfl)
    | stop s =>
      have hf : (b.perform (.stop s)).1.reportsFinished = false := rfl
      rw [hf, if_neg Bool.false_ne_true, Nat.add_zero]
      rfl
    | finish =>
      have hf : (b.perform .finish).1.reportsFinished = false := rfl
      rw [hf, if_neg Bool.false_ne_true, Nat.add_zero]
      rfl


/-! ## The accounting -/

/-- What the bookkeeping guarantees a manager at a point of its run. -/
structure Accounts (b : Books C A P) : Prop where
  /-- The count in flight is the number of units outstanding. -/
  inFlight_eq : b.tracker.inFlight = b.outstanding.length
  /-- Accounting for an outstanding unit finds the count at one or more, takes one off and puts
  one on for the unit handed out next, and reports the request finished exactly when no unit is
  left outstanding. -/
  complete : ∀ u ∈ b.outstanding, ∀ n : Option P, 1 ≤ b.tracker.inFlight ∧
    (b.tracker.completeUnit n).2.inFlight + 1 =
      b.tracker.inFlight + (if (b.tracker.completeUnit n).1.next.isSome then 1 else 0) ∧
    ((b.tracker.completeUnit n).1.finished = true ↔ (b.perform (.complete u n)).2.outstanding = [])
  /-- A retry of an outstanding unit that hands a unit out keeps the count and the number of
  units outstanding. -/
  retry : ∀ u ∈ b.outstanding, ∀ (limit : Nat) (r : Option P) (x : P × WorkItem),
    (b.tracker.retry u limit r).1 = some x →
    (b.tracker.retry u limit r).2.inFlight = b.tracker.inFlight ∧
      (b.perform (.retry u limit r)).2.outstanding.length = b.outstanding.length
  /-- Once a stop is recorded, no call hands a unit out until a request begins. -/
  stopped : ∀ s, (b.tracker.requestStop s).1 = true → ∀ cs : List (Call C A P),
    (∀ c ∈ cs, c.isBegin = false) → ∀ a ∈ ((b.perform (.stop s)).2.replay cs).1, a.handedOut = []
  /-- Until a request begins, the request is reported finished once if its outstanding units all
  get accounted for, and never otherwise. -/
  finishedOnce : ∀ cs : List (Call C A P), (∀ c ∈ cs, c.isBegin = false) → b.Issued cs →
    (b.replay cs).1.countP Answer.reportsFinished =
      if b.outstanding ≠ [] ∧ (b.replay cs).2.outstanding = [] then 1 else 0
  /-- Only the current request has a stop to pass on. -/
  pendingStop_none : ∀ id, b.tracker.isCurrent id = false → b.tracker.pendingStop id = none

/-- Every point of a run a manager makes from a fresh tracker keeps the accounting. -/
theorem bookkeeping_accounts_units {tally : A} {b : Books C A P} (h : Reachable tally b) : Accounts b where
  inFlight_eq := h.balanced
  complete u hu n := by
    have h1 := one_le_inFlight h.balanced hu
    refine ⟨h1, ?_, finished_iff h.balanced hu n⟩
    rw [completeUnit_inFlight, completeUnit_next]
    split <;> omega
  retry u hu limit r x _ := by
    have hb := perform_balanced h.balanced (c := .retry u limit r) hu
    simp only [Balanced] at hb
    refine ⟨retry_inFlight _ _ _ _, ?_⟩
    rw [← hb, ← h.balanced]
    exact retry_inFlight _ _ _ _
  stopped s hs cs hcs := replay_handedOut_of_stop _ cs hcs (requestStop_stopRequested hs)
  finishedOnce cs hcs hi := replay_countP_finished b cs hcs hi h.balanced
  pendingStop_none id hid := by simp [pendingStop, hid]

/-- Two sources served by one proxy: once the first is accounted for, the second is in flight. -/
theorem secondSource_in_flight :
    Reachable 0 ((((⟨Tracker.new 0, []⟩ : Books Unit Nat Nat).perform
        (.begin 1 () [.source "a", .source "b"] 0 [7])).2.perform (.complete (.source "a") (some 7))).2) ∧
      Accounts ((((⟨Tracker.new 0, []⟩ : Books Unit Nat Nat).perform
        (.begin 1 () [.source "a", .source "b"] 0 [7])).2.perform (.complete (.source "a") (some 7))).2) :=
  have h : Reachable 0 ((((⟨Tracker.new 0, []⟩ : Books Unit Nat Nat).perform
      (.begin 1 () [.source "a", .source "b"] 0 [7])).2.perform (.complete (.source "a") (some 7))).2) :=
    .step (.step .fresh trivial) (by simp [Allowed, perform, begin_eq, handOut_eq, WorkQueue.new])
  ⟨h, bookkeeping_accounts_units h⟩

end Books

end Tracker

end TestConductor
