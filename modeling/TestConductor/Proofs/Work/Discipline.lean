import TestConductor.Proofs.Parallel.Tracker
/-! # The discipline of a work queue

A run of a work queue is a list of calls, each a dequeue or a requeue, and what each did. Main
statement, over every run of a queue made from any items: what waits is always the items put
back, latest first, then the first items not yet served in their order, and the first items were
served in that order; a requeue is granted exactly while its source has had fewer requeues
granted than the limit, whatever items of that source they were; a requeue of an item that
waits adds no copy of it; and the items served and waiting are always the first items and those
put back, none lost and none made up.
-/
namespace TestConductor

namespace WorkQueue

/-- A call on a work queue. -/
inductive Call where
  | dequeue
  | requeue (item : WorkItem) (limit : Nat)
  deriving DecidableEq, Repr

/-- What a call did: the item a dequeue gave, or a requeue's item, answer, and whether an equal
item was waiting. -/
inductive Event where
  | served (item : Option WorkItem)
  | requeued (item : WorkItem) (granted : Bool) (waiting : Bool)
  deriving DecidableEq, Repr

namespace Event

def served? : Event → Option WorkItem
  | .served i => i
  | .requeued .. => none

def grantedTo (s : String) : Event → Bool
  | .served _ => false
  | .requeued i g _ => g && i.sourceName == s

def putBack? : Event → Option WorkItem
  | .requeued i true false => some i
  | _ => none

end Event

def served (es : List Event) : List WorkItem := es.filterMap Event.served?

def grants (s : String) (es : List Event) : Nat := es.countP (Event.grantedTo s)

def putBack (es : List Event) : List WorkItem := es.filterMap Event.putBack?

@[simp] theorem served_nil : served [] = [] := rfl
@[simp] theorem grants_nil (s : String) : grants s [] = 0 := rfl
@[simp] theorem putBack_nil : putBack [] = [] := rfl

@[simp] theorem served_cons (e : Event) (es : List Event) :
    served (e :: es) = e.served?.toList ++ served es := by
  rw [served, List.filterMap_cons]
  cases e.served? <;> rfl

@[simp] theorem grants_cons (s : String) (e : Event) (es : List Event) :
    grants s (e :: es) = grants s es + (if e.grantedTo s then 1 else 0) := by
  simp [grants, List.countP_cons]

@[simp] theorem putBack_cons (e : Event) (es : List Event) :
    putBack (e :: es) = e.putBack?.toList ++ putBack es := by
  rw [putBack, List.filterMap_cons]
  cases e.putBack? <;> rfl

def perform (q : WorkQueue) : Call → Event × WorkQueue
  | .dequeue => (.served q.dequeue.1, q.dequeue.2)
  | .requeue i limit => (.requeued i (q.requeue i limit).1 (q.items.contains i), (q.requeue i limit).2)

def replay (q : WorkQueue) : List Call → List Event × WorkQueue
  | [] => ([], q)
  | c :: cs => ((q.perform c).1 :: (replay (q.perform c).2 cs).1, (replay (q.perform c).2 cs).2)

@[simp] theorem replay_nil (q : WorkQueue) : q.replay [] = ([], q) := rfl

theorem replay_cons (q : WorkQueue) (c : Call) (cs : List Call) :
    q.replay (c :: cs) = ((q.perform c).1 :: ((q.perform c).2.replay cs).1, ((q.perform c).2.replay cs).2) :=
  rfl

theorem replay_append (q : WorkQueue) (pre post : List Call) :
    q.replay (pre ++ post) = ((q.replay pre).1 ++ ((q.replay pre).2.replay post).1, ((q.replay pre).2.replay post).2) := by
  induction pre generalizing q with
  | nil => rfl
  | cons c cs ih => simp [replay_cons, ih]

theorem length_replay (q : WorkQueue) (cs : List Call) : (q.replay cs).1.length = cs.length := by
  induction cs generalizing q with
  | nil => rfl
  | cons c cs ih => simp [replay_cons, ih]

theorem replay_getElem?_call (q : WorkQueue) (pre : List Call) (c : Call) (post : List Call) :
    (q.replay (pre ++ c :: post)).1[pre.length]? = some ((q.replay pre).2.perform c).1 := by
  rw [replay_append, List.getElem?_append_right (Nat.le_of_eq (length_replay q pre)), length_replay,
    Nat.sub_self, replay_cons]
  rfl

/-! ## One call -/

theorem requeue_granted (q : WorkQueue) (i : WorkItem) (limit : Nat) :
    (q.requeue i limit).1 = decide (q.attemptsOf i.sourceName < limit) := by
  rw [requeue_eq]
  split <;> simp_all

theorem requeue_items_of_mem {q : WorkQueue} {i : WorkItem} (limit : Nat) (h : i ∈ q.items) :
    (q.requeue i limit).2.items = q.items := by
  rw [requeue_eq]
  split <;> simp [h]

theorem perform_perm (q : WorkQueue) (c : Call) :
    (served [(q.perform c).1] ++ (q.perform c).2.items).Perm (q.items ++ putBack [(q.perform c).1]) := by
  cases c with
  | dequeue =>
    cases h : q.items with
    | nil => simp [perform, h, Event.served?, Event.putBack?]
    | cons x rest => simp [perform, h, Event.served?, Event.putBack?]
  | requeue i limit =>
    rw [perform, requeue_eq]
    by_cases hl : q.attemptsOf i.sourceName < limit
    · by_cases hw : i ∈ q.items
      · simp [hl, hw, Event.served?, Event.putBack?]
      · -- the item is put in front: the same as put at the back, up to order
        simp [hl, hw, Event.served?, Event.putBack?]
        exact (List.perm_append_singleton i q.items).symm
    · simp [hl, Event.served?, Event.putBack?]

theorem perform_attemptsOf (q : WorkQueue) (c : Call) (s : String) :
    (q.perform c).2.attemptsOf s = q.attemptsOf s + (if (q.perform c).1.grantedTo s then 1 else 0) := by
  cases c with
  | dequeue => simp [perform, attemptsOf, Event.grantedTo]
  | requeue i limit =>
    rw [perform, requeue_eq]
    by_cases hl : q.attemptsOf i.sourceName < limit
    · simp only [hl, if_true]
      rw [attemptsOf_of_setAttempts rfl s]
      by_cases he : s = i.sourceName
      · subst he
        simp [Event.grantedTo]
      · have hne : (i.sourceName == s) = false := by simpa using Ne.symm he
        simp [he, hne, Event.grantedTo]
    · simp [hl, Event.grantedTo]

theorem perform_shape (q : WorkQueue) (c : Call) {front back : List WorkItem}
    (h : q.items = front ++ back) :
    ∃ front' j, (q.perform c).2.items = front' ++ back.drop j ∧
      (∀ x ∈ front', x ∈ front ∨ x ∈ putBack [(q.perform c).1]) ∧
      (back.take j).Sublist (served [(q.perform c).1]) := by
  cases c with
  | dequeue =>
    match front, back with
    | x :: front, back =>
      -- an item put back goes first
      refine ⟨front, 0, ?_, fun y hy => .inl (List.mem_cons_of_mem x hy), by simp⟩
      simp [perform, h]
    | [], y :: back =>
      refine ⟨[], 1, ?_, by simp, ?_⟩
      · simp [perform, h]
      · simp [perform, h, Event.served?]
    | [], [] => exact ⟨[], 0, by simp [perform, h], by simp, by simp⟩
  | requeue i limit =>
    rw [perform, requeue_eq]
    by_cases hl : q.attemptsOf i.sourceName < limit
    · by_cases hw : i ∈ q.items
      · exact ⟨front, 0, by simp [hl, hw, ← h], fun y hy => .inl hy, by simp⟩
      · refine ⟨i :: front, 0, by simp [hl, hw, ← h], ?_, by simp⟩
        intro y hy
        rcases List.mem_cons.1 hy with rfl | hy
        · simp [hl, hw, Event.putBack?]
        · exact .inl hy
    · exact ⟨front, 0, by simp [hl, h], fun y hy => .inl hy, by simp⟩

/-! ## Runs -/

theorem replay_perm (q : WorkQueue) (cs : List Call) :
    (served (q.replay cs).1 ++ (q.replay cs).2.items).Perm (q.items ++ putBack (q.replay cs).1) := by
  induction cs generalizing q with
  | nil => simp
  | cons c cs ih =>
    -- the call's own record, then the rest of the run from the queue it left
    have hstep := perform_perm q c
    have hrest := ih (q.perform c).2
    simp only [served_cons, served_nil, putBack_cons, putBack_nil, List.append_nil] at hstep
    rw [replay_cons, served_cons, putBack_cons, List.append_assoc]
    generalize (q.perform c).1.served?.toList = a at hstep ⊢
    generalize (q.perform c).1.putBack?.toList = b at hstep ⊢
    generalize ((q.perform c).2.replay cs).1 = es at hrest ⊢
    generalize ((q.perform c).2.replay cs).2.items = rest at hrest ⊢
    calc List.Perm (a ++ (served es ++ rest)) (a ++ ((q.perform c).2.items ++ putBack es)) :=
          hrest.append_left a
      _ = (a ++ (q.perform c).2.items) ++ putBack es := (List.append_assoc _ _ _).symm
      List.Perm _ ((q.items ++ b) ++ putBack es) := hstep.append_right _
      _ = q.items ++ (b ++ putBack es) := List.append_assoc _ _ _

theorem replay_attemptsOf (q : WorkQueue) (cs : List Call) (s : String) :
    (q.replay cs).2.attemptsOf s = q.attemptsOf s + grants s (q.replay cs).1 := by
  induction cs generalizing q with
  | nil => simp
  | cons c cs ih =>
    simp only [replay_cons, grants_cons, ih, perform_attemptsOf]
    omega

theorem replay_attemptsOf_le (q : WorkQueue) (cs : List Call) (s : String) {L : Nat}
    (hq : q.attemptsOf s ≤ L) (hL : ∀ i l, Call.requeue i l ∈ cs → l ≤ L) :
    (q.replay cs).2.attemptsOf s ≤ L := by
  induction cs generalizing q with
  | nil => exact hq
  | cons c cs ih =>
    apply ih _ _ (fun i l h => hL i l (List.mem_cons_of_mem c h))
    rw [perform_attemptsOf]
    cases c with
    | dequeue => simpa [perform, Event.grantedTo] using hq
    | requeue i l =>
      -- a granted requeue had its count below its limit
      have hl := hL i l List.mem_cons_self
      by_cases hg : ((q.perform (.requeue i l)).1.grantedTo s) = true
      · simp only [perform, Event.grantedTo, Bool.and_eq_true, beq_iff_eq, requeue_granted,
          decide_eq_true_eq] at hg
        obtain ⟨hlt, rfl⟩ := hg
        simp [perform, Event.grantedTo, requeue_granted, hlt]
        omega
      · simp only [Bool.not_eq_true] at hg
        simpa [hg] using hq

theorem replay_shape (q : WorkQueue) (cs : List Call) {front back : List WorkItem}
    (h : q.items = front ++ back) :
    ∃ front' k, (q.replay cs).2.items = front' ++ back.drop k ∧
      (∀ x ∈ front', x ∈ front ∨ x ∈ putBack (q.replay cs).1) ∧
      (back.take k).Sublist (served (q.replay cs).1) := by
  induction cs generalizing q front back with
  | nil => exact ⟨front, 0, by simp [h], fun x hx => .inl hx, by simp⟩
  | cons c cs ih =>
    obtain ⟨front₁, j, h₁, hf₁, hs₁⟩ := perform_shape q c h
    obtain ⟨front₂, k, h₂, hf₂, hs₂⟩ := ih (q.perform c).2 h₁
    refine ⟨front₂, j + k, ?_, ?_, ?_⟩
    · rw [replay_cons, h₂, List.drop_drop]
    · intro x hx
      rw [replay_cons, putBack_cons]
      rcases hf₂ x hx with hx | hx
      · rcases hf₁ x hx with hx | hx
        · exact .inl hx
        · simp only [putBack_cons, putBack_nil, List.append_nil] at hx
          exact .inr (List.mem_append_left _ hx)
      · exact .inr (List.mem_append_right _ hx)
    · rw [replay_cons, served_cons, List.take_add]
      simp only [served_cons, served_nil, List.append_nil] at hs₁
      exact hs₁.append hs₂

/-! ## The discipline -/

/-- What a run of calls on a queue made from `items` keeps to. -/
structure Disciplined (items : List WorkItem) (calls : List Call) : Prop where
  /-- Each dequeue gives the first of what waits. -/
  serves : ∀ pre post, calls = pre ++ .dequeue :: post →
    ((new items).replay calls).1[pre.length]? = some (.served ((new items).replay pre).2.items.head?)
  /-- What waits is items put back, then the first items not yet served, in order; the first
  items served were served in order. -/
  fifo : ∃ front k, ((new items).replay calls).2.items = front ++ items.drop k ∧
    (∀ x ∈ front, x ∈ putBack ((new items).replay calls).1) ∧
    (items.take k).Sublist (served ((new items).replay calls).1)
  /-- Each requeue is granted exactly while the requeues granted before it to its source, of
  whatever items, are fewer than its limit. -/
  answered : ∀ pre i limit post, calls = pre ++ .requeue i limit :: post → ∃ w,
    ((new items).replay calls).1[pre.length]? =
      some (.requeued i (decide (grants i.sourceName ((new items).replay pre).1 < limit)) w)
  /-- Under one limit, no source is granted more requeues than the limit. -/
  bounded : ∀ L, (∀ i l, Call.requeue i l ∈ calls → l ≤ L) →
    ∀ s, grants s ((new items).replay calls).1 ≤ L
  /-- A requeue of an item that waits adds no copy of it. -/
  noCopy : ∀ pre i limit post, calls = pre ++ .requeue i limit :: post →
    i ∈ ((new items).replay pre).2.items →
    ((new items).replay (pre ++ [.requeue i limit])).2.items = ((new items).replay pre).2.items
  /-- The items served and waiting are the first items and those put back while no equal item
  waited. -/
  conserved : (served ((new items).replay calls).1 ++ ((new items).replay calls).2.items).Perm
    (items ++ putBack ((new items).replay calls).1)

@[simp] theorem attemptsOf_new (items : List WorkItem) (s : String) : (new items).attemptsOf s = 0 := rfl

/-- Every run of a work queue keeps its discipline. -/
theorem queue_keeps_discipline (items : List WorkItem) (calls : List Call) : Disciplined items calls where
  serves := by
    rintro pre post rfl
    rw [replay_getElem?_call]
    simp [perform]
  fifo := by
    obtain ⟨front, k, h, hf, hs⟩ := replay_shape (new items) calls (show (new items).items = [] ++ items from rfl)
    exact ⟨front, k, h, fun x hx => (hf x hx).resolve_left (by simp), hs⟩
  answered := by
    rintro pre i limit post rfl
    refine ⟨((new items).replay pre).2.items.contains i, (replay_getElem?_call _ pre _ post).trans ?_⟩
    simp [perform, requeue_granted, replay_attemptsOf]
  bounded := by
    intro L hL s
    have h := replay_attemptsOf_le (new items) calls s (by simp) hL
    rw [replay_attemptsOf, attemptsOf_new, Nat.zero_add] at h
    exact h
  noCopy := by
    rintro pre i limit post - hw
    rw [replay_append]
    exact requeue_items_of_mem limit hw
  conserved := replay_perm (new items) calls

example :
    ((new [.source "a", .source "b"]).replay
      [.dequeue, .requeue (.source "a") 1, .dequeue, .requeue (.source "a") 1,
        .requeue (.tests "a" []) 1, .dequeue]).1 =
      [.served (some (.source "a")), .requeued (.source "a") true false, .served (some (.source "a")),
        .requeued (.source "a") false false, .requeued (.tests "a" []) false false,
        .served (some (.source "b"))] := by decide

end WorkQueue

end TestConductor
