import TestConductor.Proofs.Parallel.Owners
/-! # What a request does with its units

The retry budget is kept per source: a refused unit is put back only while its source has been
requeued fewer times than the limit, so a request hands out each source at most as often as
its criteria list it, plus the limit. This holds in every run, whatever the proxies do.
-/
namespace TestConductor

namespace Flow

def ofSource (x : String) (l : List WorkItem) : Nat := (l.map (·.sourceName)).count x

@[simp] theorem ofSource_nil (x : String) : ofSource x [] = 0 := rfl

@[simp] theorem ofSource_append (x : String) (l m : List WorkItem) :
    ofSource x (l ++ m) = ofSource x l + ofSource x m := by
  simp [ofSource, List.count_append]

@[simp] theorem ofSource_cons (x : String) (i : WorkItem) (l : List WorkItem) :
    ofSource x (i :: l) = ofSource x l + (if i.sourceName = x then 1 else 0) := by
  simp [ofSource, List.count_cons]

theorem ofSource_requeued (x : String) (i : WorkItem) (l : List WorkItem) :
    ofSource x (if l.contains i then l else i :: l) ≤ ofSource x l + (if i.sourceName = x then 1 else 0) := by
  split <;> simp

theorem unitsOf_tagged (id j : Nat) {α : Type} (xs : List α) (f : α → WorkItem) :
    unitsOf id (xs.map fun x => (j, f x)) = if j = id then xs.map f else [] := by
  induction xs with
  | nil => split <;> rfl
  | cons x xs ih => by_cases h : j = id <;> simp_all

/-- The retry budget of the requests. -/
structure Budgeted (s : Flow) : Prop where
  /-- Each unit of the request served handed out or queued is one of its units or a retry
  granted to its source. -/
  served : ∀ id ctx, s.tracker.current = some (id, ctx) → ∀ x,
    ofSource x (unitsOf id s.handed) + ofSource x s.tracker.queue.items ≤
      ofSource x (s.itemsOf id) + s.tracker.queue.attemptsOf x
  /-- No source is granted more retries than the limit. -/
  granted : ∀ x, s.tracker.queue.attemptsOf x ≤ s.manager.retryLimit
  /-- A request not served handed each source out at most as often as it lists it, plus the
  limit. -/
  other : ∀ id, s.tracker.isCurrent id = false → ∀ x,
    ofSource x (unitsOf id s.handed) ≤ ofSource x (s.itemsOf id) + s.manager.retryLimit
  /-- Nothing was handed out for a request not begun. -/
  fresh : ∀ id, s.tracker.lastId < id → unitsOf id s.handed = []

namespace Budgeted

variable {s s' : Flow}

theorem init (discovers shared : Bool) (level limit : Nat) :
    Budgeted (Flow.init discovers shared level limit) where
  served id ctx h := by simp [Flow.init, Flow.tracker, Tracker.new] at h
  granted x := by simp [Flow.init, Flow.tracker, Tracker.new, WorkQueue.new, WorkQueue.attemptsOf]
  other id _ x := by simp [Flow.init]
  fresh id _ := by simp [Flow.init]

theorem congr (hb : Budgeted s) (hc : s'.tracker.current = s.tracker.current)
    (hq : s'.tracker.queue = s.tracker.queue) (hl : s'.tracker.lastId = s.tracker.lastId)
    (hh : s'.handed = s.handed) (hg : s'.begun = s.begun) (hL : s'.manager.retryLimit = s.manager.retryLimit) :
    Budgeted s' := by
  have hi : ∀ id, s'.itemsOf id = s.itemsOf id := fun id => by rw [itemsOf, itemsOf, hg]
  refine ⟨fun id ctx h x => ?_, fun x => ?_, fun id h x => ?_, fun id h => ?_⟩
  · rw [hh, hq, hi]
    exact hb.served id ctx (hc ▸ h) x
  · rw [hq, hL]
    exact hb.granted x
  · rw [hh, hi, hL]
    exact hb.other id (Tracker.isCurrent_congr hc id ▸ h) x
  · rw [hh]
    exact hb.fresh id (hl ▸ h)

theorem settle (hb : Budgeted s) {id₀ : Nat} {ctx : Context} (hcur : s.tracker.current = some (id₀, ctx))
    (hlast : id₀ = s.tracker.lastId) {H : List (Nat × WorkItem)}
    (hc : s'.tracker.current = s.tracker.current ∨ s'.tracker.current = none)
    (hl : s'.tracker.lastId = s.tracker.lastId) (hh : s'.handed = s.handed ++ H) (hg : s'.begun = s.begun)
    (hL : s'.manager.retryLimit = s.manager.retryLimit) (hH : ∀ id, id₀ ≠ id → unitsOf id H = [])
    (hmove : ∀ x, ofSource x (unitsOf id₀ H) + ofSource x s'.tracker.queue.items + s.tracker.queue.attemptsOf x ≤
      ofSource x s.tracker.queue.items + s'.tracker.queue.attemptsOf x)
    (hgrant : ∀ x, s'.tracker.queue.attemptsOf x ≤ s.manager.retryLimit) : Budgeted s' := by
  have hi : ∀ id, s'.itemsOf id = s.itemsOf id := fun id => by rw [itemsOf, itemsOf, hg]
  refine ⟨fun id ctx' h x => ?_, fun x => hL ▸ hgrant x, fun id h x => ?_, fun id h => ?_⟩
  · -- still served: the units handed out are those the queue lost
    have hid : id = id₀ := by
      rcases hc with hc | hc
      · rw [hc, hcur] at h
        exact (Prod.mk.inj (Option.some.inj h)).1.symm
      · rw [hc] at h
        cases h
    subst hid
    have h₁ := hb.served id ctx hcur x
    have h₂ := hmove x
    rw [hh, hi, unitsOf_append, ofSource_append]
    omega
  · rw [hh, hi, hL, unitsOf_append, ofSource_append]
    by_cases hid : id₀ = id
    · -- the request served ended within its budget
      subst hid
      have h₁ := hb.served id₀ ctx hcur x
      have h₂ := hmove x
      have h₃ := hgrant x
      omega
    · have hbefore : s.tracker.isCurrent id = false := by
        rw [Tracker.isCurrent_some hcur]
        simpa using hid
      rw [hH id hid, ofSource_nil, Nat.add_zero]
      exact hb.other id hbefore x
  · rw [hl] at h
    rw [hh, unitsOf_append, hb.fresh id h, hH id (by omega)]
    rfl

theorem fold (hb : Budgeted s) (hserve : ∀ id ctx, s.tracker.current = some (id, ctx) → id = s.tracker.lastId)
    (q : Pending) : Budgeted (s.fold q) := by
  rcases fold_cases s q with h | h | ⟨ctx, t, nx, done, hcur, ha, h⟩ <;> rw [h]
  · exact hb
  · exact hb.congr rfl rfl rfl rfl rfl rfl
  · have hst := Manager.account_settled ha
    have hattempts : ∀ x, t.queue.attemptsOf x = s.tracker.queue.attemptsOf x := by
      intro x
      rw [hst.queue]
      split <;> rfl
    refine hb.settle hcur (hserve _ _ hcur) ?_ hst.lastId rfl rfl rfl (fun id hid => ?_) (fun x => ?_)
      (fun x => ?_)
    · cases done
      · exact .inl (by simpa using hst.current)
      · exact .inr (by simpa using hst.current)
    · cases nx <;> simp [hid]
    · -- the unit handed out next is the front of the queue, which loses it
      simp only [tracker_mk, setTracker, hattempts]
      cases nx with
      | none => simp [hst.queue]
      | some y =>
        obtain ⟨rest, hrest⟩ : ∃ rest, s.tracker.queue.items = y.2 :: rest :=
          ⟨_, (Tracker.nextAfter_some hst.next.symm).2⟩
        rw [hst.queue]
        simp [hrest]
        omega
    · simp only [tracker_mk, setTracker, hattempts]
      exact hb.granted x

theorem retry (hb : Budgeted s) (hserve : ∀ id ctx, s.tracker.current = some (id, ctx) → id = s.tracker.lastId)
    (f : Flight) (r : Option Nat) (e : Error) : Budgeted (s.retry f r e) := by
  rcases retry_cases s f r e with h | ⟨ctx, next, hcur, hr, h⟩ | ⟨ctx, -, hr, h⟩ <;> rw [h]
  · exact hb
  · obtain ⟨-, -, hlt, hput, hatt⟩ := Tracker.retried_some hr
    have hatt' := WorkQueue.attemptsOf_of_setAttempts hatt
    rw [handOut_eq]
    refine hb.settle hcur (hserve _ _ hcur) (.inl rfl) rfl rfl rfl rfl (fun id hid => by simp [hid])
      (fun x => ?_) (fun x => ?_)
    · -- the unit handed out and the queue left make up the queue with the refused unit put back
      have hback := ofSource_requeued x f.item s.tracker.queue.items
      rw [hput] at hback
      simp only [ofSource_cons] at hback
      simp only [tracker_mk, setTracker, retrying, Option.map_some, Option.toList_some, unitsOf_cons,
        if_true, unitsOf_nil, List.append_nil, ofSource_cons, ofSource_nil, hatt' x]
      by_cases hx : x = f.item.sourceName
      · subst hx
        simp only [if_true] at hback ⊢
        omega
      · have hx' : ¬f.item.sourceName = x := fun h => hx h.symm
        simp only [hx, hx', if_false] at hback ⊢
        omega
    · simp only [tracker_mk, setTracker, retrying, hatt' x]
      split
      · omega
      · exact hb.granted x
  · -- giving up leaves the queue as it was before the fold
    have hq : (s.givingUp f r e).tracker.queue = s.tracker.queue := Tracker.retriedQueue_of_none hr
    have hb' : Budgeted (s.givingUp f r e) := hb.congr rfl hq rfl rfl rfl rfl
    exact hb'.fold hserve _

theorem begin (hb : Budgeted s) (c : UnitCriteria) : Budgeted (s.begin c) := by
  by_cases he : c.workItems = []
  · rw [begin_empty s c he]
    exact hb.congr rfl rfl rfl rfl rfl rfl
  · cases hp : s.tracker.isInProgress with
    | true =>
      rw [begin_busy s c he hp]
      exact hb
    | false =>
      have hcur : s.tracker.current = none := by simpa [Tracker.isInProgress] using hp
      have hbefore := Tracker.isCurrent_none hcur
      have hb₀ := begin_new s c he hp
      have hnow : (s.begin c).tracker.current =
          some (s.tracker.lastId + 1, ⟨s.tracker.lastId + 1, c⟩) := by rw [hb₀]; rfl
      have hqueue : (s.begin c).tracker.queue = { WorkQueue.new c.workItems with
          items := c.workItems.drop s.pool.length } := by rw [hb₀]; rfl
      have hlast : (s.begin c).tracker.lastId = s.tracker.lastId + 1 := by rw [hb₀]; rfl
      have hhanded : (s.begin c).handed = s.handed ++ (s.pool.zip c.workItems).map
          fun x => (s.tracker.lastId + 1, x.2) := by rw [hb₀]
      have hbegun : (s.begin c).begun = s.begun ++ [⟨s.tracker.lastId + 1, c⟩] := by rw [hb₀]
      have hL : (s.begin c).manager.retryLimit = s.manager.retryLimit := by rw [hb₀]; rfl
      have hitems : ∀ id, (s.begin c).itemsOf id =
          s.itemsOf id ++ if s.tracker.lastId + 1 = id then c.workItems else [] := by
        intro id
        by_cases hid : s.tracker.lastId + 1 = id <;> simp [itemsOf, hbegun, hid, List.filter_append]
      have hunits : ∀ id, unitsOf id (s.begin c).handed =
          unitsOf id s.handed ++ if s.tracker.lastId + 1 = id then c.workItems.take s.pool.length else [] := by
        intro id
        rw [hhanded, unitsOf_append, unitsOf_tagged, ← zip_map_snd]
      refine ⟨fun id ctx h x => ?_, fun x => ?_, fun id h x => ?_, fun id h => ?_⟩
      · -- the request begun: its units are handed to the pool or queued
        rw [hnow] at h
        obtain ⟨rfl, -⟩ := Prod.mk.inj (Option.some.inj h)
        have hsplit : ofSource x (c.workItems.take s.pool.length) + ofSource x (c.workItems.drop s.pool.length) =
            ofSource x c.workItems := by
          rw [← ofSource_append, List.take_append_drop]
        rw [hunits, hitems, hqueue, hb.fresh _ (Nat.lt_succ_self _)]
        simp only [if_true, List.nil_append, ofSource_append]
        simp [WorkQueue.new, WorkQueue.attemptsOf]
        omega
      · rw [hqueue, hL]
        simp [WorkQueue.new, WorkQueue.attemptsOf]
      · -- any other request is untouched
        have hid : s.tracker.lastId + 1 ≠ id := by
          intro hid
          rw [Tracker.isCurrent_some hnow] at h
          simp [hid] at h
        rw [hunits, hitems, hL, if_neg hid, if_neg hid, List.append_nil, List.append_nil]
        exact hb.other id (hbefore id) x
      · rw [hlast] at h
        rw [hunits, hb.fresh id (by omega), if_neg (by omega)]
        rfl

theorem step (hb : Budgeted s) (hn : Numbered s) (hs : Step s s') : Budgeted s' := by
  have hserve : ∀ id ctx, s.tracker.current = some (id, ctx) → id = s.tracker.lastId :=
    fun id ctx h => (hn.serving id ctx h).2
  cases hs with
  | begin pre post c _ =>
    have hb₁ : Budgeted { s with serves := pre ++ post } := hb.congr rfl rfl rfl rfl rfl rfl
    exact hb₁.begin c
  | retry pre post f r e _ _ =>
    have hb₁ : Budgeted { s with flights := pre ++ post } := hb.congr rfl rfl rfl rfl rfl rfl
    exact hb₁.retry hserve f r e
  | fold pre post q _ =>
    have hb₁ : Budgeted { s with pending := pre ++ post } := hb.congr rfl rfl rfl rfl rfl rfl
    exact hb₁.fold hserve q
  | complete pre post f r _ _ _ =>
    obtain ⟨ps, made, cl, o, pe, h, -⟩ :=
      report_frame { s with flights := pre ++ post } f.proxy f.ctx.id r (some f.item)
    rw [h]
    exact hb.congr rfl rfl rfl rfl rfl rfl
  | stray p id r _ =>
    obtain ⟨ps, made, cl, o, pe, h, -⟩ := report_frame { s with rogue := true } p id r none
    rw [h]
    exact hb.congr rfl rfl rfl rfl rfl rfl
  | refuse pre post f e _ _ =>
    exact hb.congr (by simp [replace_snd]) (by simp [replace_snd]) (by simp [replace_snd])
      (by simp [replace_snd]) (by simp [replace_snd]) (by simp [replace_snd])
  | forward pre post p j _ =>
    unfold forward
    split <;> exact hb.congr rfl rfl rfl rfl rfl rfl
  | stop k _ =>
    rw [stop_eq]
    split
    · exact hb.congr (by simp) (by simp) (by simp) rfl rfl rfl
    · exact hb
  | close =>
    rw [close_eq]
    exact hb.congr (by simp) (by simp) (by simp) rfl rfl rfl
  | resize level =>
    obtain ⟨ps, made, closed, h⟩ := resize_frame s level
    rw [h]
    exact hb.congr rfl rfl rfl rfl rfl rfl
  | call | unready | accept | relay | strayEvent | act | closeNext => exact hb.congr rfl rfl rfl rfl rfl rfl

end Budgeted

theorem budgeted_reachable {s : Flow} (h : Reachable s) : Budgeted s := by
  induction h with
  | init discovers shared level limit => exact Budgeted.init discovers shared level limit
  | step hreach hs ih => exact ih.step (numbered_reachable hreach) hs

/-! ## Where the units of a reported request went -/

theorem unserved_empty {s : Flow} (hh : Holding s 0) {id : Nat} (hc : s.tracker.isCurrent id = false) :
    queued s.tracker id = [] ∧ idle id s.flights = [] ∧ busyOf id s.flights = 0 ∧ pendingOf id s.pending = 0 := by
  -- every flight and every waiting completion belongs to the request served
  have hf : ∀ f ∈ s.flights, f.ctx.id ≠ id := by
    intro f hf hid
    have := (Tracker.isCurrent_iff _ _).2 ⟨f.ctx, hh.flights f hf⟩
    rw [hid, hc] at this
    cases this
  have hq : ∀ q ∈ s.pending, q.ctx.id ≠ id := by
    intro q hq hid
    have := (Tracker.isCurrent_iff _ _).2 ⟨q.ctx, hh.pending q hq⟩
    rw [hid, hc] at this
    cases this
  refine ⟨by simp [queued, hc], ?_, ?_, ?_⟩
  · simp only [idle, List.map_eq_nil_iff, List.filter_eq_nil_iff]
    intro f hmem
    simp [hf f hmem]
  · simp only [busyOf, List.countP_eq_zero]
    intro f hmem
    simp [hf f hmem]
  · simp only [pendingOf, List.countP_eq_zero]
    intro q hmem
    simp [hq q hmem]

/-- What a request does with its units. In every run, a request hands each source out at most
as often as its criteria list it, plus the retry limit. In an honest run, once a request is
reported, its units are exactly those accepted, given up, merged into an equal unit waiting in
the queue, and never handed out; given-up and merged units are refused units; units are left
unsent only after a stop was asked for; without an overflow, one partial was folded for each
unit accepted or given up; and without refusals and stops, each unit was accepted exactly once. -/
theorem units_accounted {s : Flow} (h : Reachable s) :
    (∀ id x, ofSource x (unitsOf id s.handed) ≤ ofSource x (s.itemsOf id) + s.manager.retryLimit) ∧
    (s.rogue = false →
      (∀ id, s.completions id ≠ [] →
        (s.itemsOf id).Perm
          (unitsOf id s.accepted ++ unitsOf id s.givenUp ++ unitsOf id s.merged ++ unsentOf id s.unsent)) ∧
      (∀ id, (unitsOf id s.givenUp).length + (unitsOf id s.merged).length ≤ (unitsOf id s.refusals).length) ∧
      (∀ id, unsentOf id s.unsent ≠ [] → ∃ k, (id, k) ∈ s.asked) ∧
      (s.overflowed = false → ∀ id, s.completions id ≠ [] →
        foldedOf id s.folded = (unitsOf id s.accepted).length + (unitsOf id s.givenUp).length) ∧
      (∀ id, s.completions id ≠ [] → unitsOf id s.refusals = [] → (∀ k, (id, k) ∉ s.asked) →
        (s.itemsOf id).Perm (unitsOf id s.accepted))) := by
  have hb := budgeted_reachable h
  have hn := numbered_reachable h
  refine ⟨fun id x => ?_, fun hr => ?_⟩
  · -- the request served counts its queue and the retries granted; any other is settled
    cases hcur : s.tracker.isCurrent id with
    | true =>
      obtain ⟨ctx, hc⟩ := (Tracker.isCurrent_iff _ _).1 hcur
      have h₁ := hb.served id ctx hc x
      have h₂ := hb.granted x
      omega
    | false => exact hb.other id hcur x
  have hh := holding_reachable h hr
  have hc := conserved_reachable h hr
  have hl := ledger_reachable h hr
  have hs := stopped_reachable h hr
  -- the units of a reported request are where its records say
  have hplaces : ∀ id, s.completions id ≠ [] →
      (s.itemsOf id).Perm
        (unitsOf id s.accepted ++ unitsOf id s.givenUp ++ unitsOf id s.merged ++ unsentOf id s.unsent) := by
    intro id hid
    obtain ⟨hq, hi, -, -⟩ := unserved_empty hh (hn.not_served hid)
    apply List.perm_iff_count.2
    intro x
    rw [hc id x, whereabouts, hq, hi]
    simp
  refine ⟨hplaces, fun id => ?_, hs.unsent, fun ho id hid => ?_, fun id hid hre hk => ?_⟩
  · have := hl.refused id
    omega
  · obtain ⟨-, -, hbusy, hpend⟩ := unserved_empty hh (hn.not_served hid)
    have := hl.folded ho id
    omega
  · -- no refusal leaves nothing given up or merged, and no stop nothing unsent
    have hgm := hl.refused id
    rw [hre, List.length_nil] at hgm
    have hg : unitsOf id s.givenUp = [] := List.eq_nil_of_length_eq_zero (by omega)
    have hm : unitsOf id s.merged = [] := List.eq_nil_of_length_eq_zero (by omega)
    have hu : unsentOf id s.unsent = [] := by
      cases hus : unsentOf id s.unsent with
      | nil => rfl
      | cons y ys =>
        obtain ⟨k, hk'⟩ := hs.unsent id (by simp [hus])
        exact absurd hk' (hk k)
    have := hplaces id hid
    rwa [hg, hm, hu, List.append_nil, List.append_nil, List.append_nil] at this

def twiceListed : UnitCriteria := .discovery (DiscoveryCriteria.new ["a.dll", "a.dll"])

def twiceUnit (p : Nat) (st : Stage) : Flight := ⟨p, ⟨1, twiceListed⟩, .source "a.dll", st, []⟩

def refusedError : Error := .invalidState "fake proxy refused a.dll"

/-- A fresh manager with one shared proxy and a retry limit of one discovers a source listed
twice. The proxy refuses the first copy and is replaced; the retry finds the second copy still
queued, so the refused copy merges into it, and the replacement takes that copy, completes it and
reports the request. -/
def mergedTwice : Flow :=
  let s₁ : Flow := { Flow.init true true 1 1 with serves := [twiceListed] }
  let s₂ := { s₁ with serves := [] }.begin twiceListed
  let s₃ : Flow :=
    { (s₂.replace 0).2 with
      flights := [] ++ twiceUnit 0 (.refused (s₂.replace 0).1 refusedError) :: [],
      refusals := s₂.refusals ++ [(1, .source "a.dll")] }
  let s₄ := { s₃ with flights := [] ++ [] }.retry (twiceUnit 0 (.refused (some 1) refusedError)) (some 1) refusedError
  let s₅ : Flow :=
    { s₄ with
      flights := [] ++ twiceUnit 1 .busy :: [],
      forwards := s₄.forwards ++ [(1, 1)],
      accepted := s₄.accepted ++ [(1, .source "a.dll")] }
  let s₆ := { s₅ with flights := [] ++ [] }.report 1 1 (.discovery 2 none false) (some (.source "a.dll"))
  { s₆ with pending := [] ++ [] }.fold ⟨⟨1, twiceListed⟩, .discovery 2 none false, some 1, some (.source "a.dll")⟩

theorem mergedTwice_reachable : Reachable mergedTwice := by
  have h₁ := (Reachable.init true true 1 1).step (.call _ twiceListed rfl rfl)
  have h₂ := h₁.step (.begin _ [] [] twiceListed rfl)
  have h₃ := h₂.step (.refuse _ [] [] (twiceUnit 0 .offered) refusedError rfl rfl)
  have h₄ := h₃.step (.retry _ [] [] (twiceUnit 0 (.refused (some 1) refusedError)) (some 1) refusedError rfl rfl)
  have h₅ := h₄.step (.accept _ [] [] (twiceUnit 1 .offered) rfl rfl)
  have h₆ := h₅.step (.complete _ [] [] (twiceUnit 1 .busy) (.discovery 2 none false) rfl rfl rfl)
  exact h₆.step (.fold _ [] [] _ rfl)


/-- The run accounts for both copies: one accepted, and the refused one merged into it. -/
theorem mergedTwice_accounted :
    Reachable mergedTwice ∧ mergedTwice.completions 1 ≠ [] ∧
      (mergedTwice.itemsOf 1).Perm (unitsOf 1 mergedTwice.accepted ++ unitsOf 1 mergedTwice.givenUp ++
        unitsOf 1 mergedTwice.merged ++ unsentOf 1 mergedTwice.unsent) ∧
      (unitsOf 1 mergedTwice.givenUp).length + (unitsOf 1 mergedTwice.merged).length ≤
        (unitsOf 1 mergedTwice.refusals).length := by
  have hc : mergedTwice.completions 1 ≠ [] := by decide
  obtain ⟨hplaces, hrefused, -⟩ := (units_accounted mergedTwice_reachable).2 rfl
  exact ⟨mergedTwice_reachable, hc, hplaces 1 hc, hrefused 1⟩

/-- Accepted, given-up and never handed-out units alone do not account for a source listed
twice: the merged copy is in none of them. -/
theorem listed_twice_loses_a_copy :
    Reachable mergedTwice ∧ mergedTwice.rogue = false ∧ mergedTwice.completions 1 ≠ [] ∧
      ¬(mergedTwice.itemsOf 1).Perm
        (unitsOf 1 mergedTwice.accepted ++ unitsOf 1 mergedTwice.givenUp ++ unsentOf 1 mergedTwice.unsent) := by
  refine ⟨mergedTwice_reachable, rfl, by decide, fun hp => ?_⟩
  -- the source is listed twice but accepted once, and nothing was given up or left unsent
  have hlen := hp.length_eq
  have hitems : (mergedTwice.itemsOf 1).length = 2 := by decide
  have hplaces : (unitsOf 1 mergedTwice.accepted ++ unitsOf 1 mergedTwice.givenUp ++
      unsentOf 1 mergedTwice.unsent).length = 1 := by decide
  omega

end Flow

end TestConductor
