import TestConductor.Proofs.Parallel.Ending
/-! # Where the units of a request go

A request splits its criteria into units. Each unit is handed to a proxy, which accepts or
refuses it; a refused unit goes back to the queue for a fresh proxy while the retry budget of its
source lasts, and is given up otherwise. `whereabouts` lists where the units of a request are:
accepted, given up, merged, with a proxy that has not taken them on, never handed out, or still
queued while the request is served. Every stretch moves units between these places without
losing or making one, so in an honest run the whereabouts of a request are always a
rearrangement of its units.
-/
namespace TestConductor

namespace Flow

/-! ## The places a unit can be -/

def unitsOf (id : Nat) (xs : List (Nat × WorkItem)) : List WorkItem :=
  (xs.filter fun d => decide (d.1 = id)).map (·.2)

@[simp] theorem unitsOf_nil (id : Nat) : unitsOf id [] = [] := rfl

@[simp] theorem unitsOf_append (id : Nat) (xs ys : List (Nat × WorkItem)) :
    unitsOf id (xs ++ ys) = unitsOf id xs ++ unitsOf id ys := by
  simp [unitsOf, List.filter_append]

@[simp] theorem unitsOf_cons (id : Nat) (d : Nat × WorkItem) (xs : List (Nat × WorkItem)) :
    unitsOf id (d :: xs) = (if d.1 = id then [d.2] else []) ++ unitsOf id xs := by
  by_cases h : d.1 = id <;> simp [unitsOf, h]

/-- The units of request `id` that proxies hold without working on them: handed and not answered
yet, or refused and waiting for their retry. -/
def idle (id : Nat) (fs : List Flight) : List WorkItem :=
  (fs.filter fun f => decide (f.ctx.id = id) && !f.stage.isBusy).map (·.item)

@[simp] theorem idle_nil (id : Nat) : idle id [] = [] := rfl

@[simp] theorem idle_append (id : Nat) (fs gs : List Flight) :
    idle id (fs ++ gs) = idle id fs ++ idle id gs := by
  simp [idle, List.filter_append]

@[simp] theorem idle_cons (id : Nat) (f : Flight) (fs : List Flight) :
    idle id (f :: fs) = (if f.ctx.id = id ∧ f.stage.isBusy = false then [f.item] else []) ++ idle id fs := by
  by_cases h : f.ctx.id = id <;> cases hb : f.stage.isBusy <;> simp [idle, h, hb]

def unsentOf (id : Nat) (xs : List (Nat × List WorkItem)) : List WorkItem :=
  (xs.filter fun d => decide (d.1 = id)).flatMap (·.2)

@[simp] theorem unsentOf_nil (id : Nat) : unsentOf id [] = [] := rfl

@[simp] theorem unsentOf_append (id : Nat) (xs ys : List (Nat × List WorkItem)) :
    unsentOf id (xs ++ ys) = unsentOf id xs ++ unsentOf id ys := by
  simp [unsentOf, List.filter_append]

@[simp] theorem unsentOf_cons (id : Nat) (d : Nat × List WorkItem) (xs : List (Nat × List WorkItem)) :
    unsentOf id (d :: xs) = (if d.1 = id then d.2 else []) ++ unsentOf id xs := by
  by_cases h : d.1 = id <;> simp [unsentOf, h]

def itemsOf (s : Flow) (id : Nat) : List WorkItem :=
  (s.begun.filter fun c => decide (c.id = id)).flatMap (·.criteria.workItems)

def queued (t : Tracker Context Tally) (id : Nat) : List WorkItem :=
  if t.isCurrent id then t.queue.items else []

/-- Where the units of request `id` are: accepted, given up, merged into an equal unit, with a
proxy that has not taken them on, never handed out, or queued while the request is served. -/
def whereabouts (s : Flow) (id : Nat) : List WorkItem :=
  unitsOf id s.accepted ++ unitsOf id s.givenUp ++ unitsOf id s.merged ++ idle id s.flights ++
    unsentOf id s.unsent ++ queued s.tracker id

def Rearranges (s s' : Flow) : Prop :=
  ∀ id x, (s'.whereabouts id).count x = (s.whereabouts id).count x

theorem Rearranges.of_eq {s s' : Flow} (h : ∀ id, s'.whereabouts id = s.whereabouts id) :
    Rearranges s s' := by
  intro id x
  rw [h id]

/-! ## What each stretch does with the units -/

theorem mergesOn_of_retried_some {t : Tracker Context Tally} {item : WorkItem} {limit : Nat}
    {r : Option Nat} {next : Nat × WorkItem} (h : t.retried item limit r = some next) :
    mergesOn t item limit r = t.queue.items.contains item := by
  obtain ⟨hr, hs, hl, -, -⟩ := Tracker.retried_some h
  simp [mergesOn, hr, hs, hl]

theorem mergesOn_of_retried_none {t : Tracker Context Tally} {item : WorkItem} {limit : Nat}
    {r : Option Nat} (h : t.retried item limit r = none) : mergesOn t item limit r = false := by
  cases hm : mergesOn t item limit r with
  | false => rfl
  | true =>
    -- a merge leaves an equal unit in the queue, which the retry would have handed out
    obtain ⟨p, hp⟩ : ∃ p, r = some p := Option.isSome_iff_exists.1 (by simp_all [mergesOn])
    have hs : t.stopRequested = false := by simp_all [mergesOn]
    have hl : t.queue.attemptsOf item.sourceName < limit := by simp_all [mergesOn]
    have hc : item ∈ t.queue.items := by simp_all [mergesOn]
    cases hq : t.queue.items with
    | nil => simp [hq] at hc
    | cons i rest => simp [Tracker.retried, hp, hs, hl, hq, List.mem_cons.1 (hq ▸ hc)] at h

theorem fold_rearranges (s : Flow) (q : Pending) : Rearranges s (s.fold q) := by
  intro id x
  rcases fold_cases s q with h | h | ⟨ctx, t, nx, done, hcur, ha, h⟩
  · rw [h]
  · rw [h]
    rfl
  · have hc : s.tracker.isCurrent q.ctx.id = true := (Tracker.isCurrent_iff _ _).2 ⟨ctx, hcur⟩
    have hs := Manager.account_settled ha
    -- the unit handed on next is the front of the queue
    have hfront : ∀ y, nx = some y → s.tracker.queue.items = y.2 :: s.tracker.queue.items.tail :=
      fun y hy => (Tracker.nextAfter_some (hs.next ▸ hy)).2
    have hqueue := hs.queue
    have hcur' : t.current = if done.isSome then none else s.tracker.current := hs.current
    rw [h]
    by_cases hid : q.ctx.id = id
    · subst hid
      cases done with
      | none =>
        have hnow : t.isCurrent q.ctx.id = true := by
          rw [Tracker.isCurrent_iff]
          exact ⟨ctx, by simpa using hcur'.trans hcur⟩
        cases nx with
        | none => simp [whereabouts, queued, hnow, hc, hqueue]
        | some y =>
          obtain ⟨rest, hrest⟩ : ∃ rest, s.tracker.queue.items = y.2 :: rest := ⟨_, hfront y rfl⟩
          simp [whereabouts, queued, hnow, hc, hqueue, hrest, Stage.isBusy, List.count_cons, List.count_append]
          omega
      | some e =>
        have hnow : t.isCurrent q.ctx.id = false := Tracker.isCurrent_none (by simpa using hcur') _
        cases nx with
        | none => simp [whereabouts, queued, hnow, hc, hqueue]
        | some y =>
          obtain ⟨rest, hrest⟩ : ∃ rest, s.tracker.queue.items = y.2 :: rest := ⟨_, hfront y rfl⟩
          simp [whereabouts, queued, hnow, hc, hqueue, hrest, Stage.isBusy, List.count_cons, List.count_append]
          omega
    · -- another request: nothing of it moves, and it is not served before or after
      have hbefore : s.tracker.isCurrent id = false := by
        rw [Tracker.isCurrent_some hcur]
        simpa using hid
      have hafter : t.isCurrent id = false := by
        cases done with
        | none =>
          have ht : t.current = some (q.ctx.id, ctx) := by simpa using hcur'.trans hcur
          rw [Tracker.isCurrent_some ht]
          simpa using hid
        | some e => exact Tracker.isCurrent_none (by simpa using hcur') _
      cases nx <;> cases done <;> simp [whereabouts, queued, hbefore, hafter, hid]

theorem retry_rearranges (s : Flow) (f : Flight) (r : Option Nat) (e : Error)
    (hc : s.tracker.isCurrent f.ctx.id = true) (id : Nat) (x : WorkItem) :
    ((s.retry f r e).whereabouts id).count x =
      (s.whereabouts id).count x + (unitsOf id [(f.ctx.id, f.item)]).count x := by
  obtain ⟨ctx, hcur⟩ := (Tracker.isCurrent_iff _ _).1 hc
  -- another request is not served, so its queue does not count
  have hother : f.ctx.id ≠ id → s.tracker.isCurrent id = false := by
    intro hid
    rw [Tracker.isCurrent_some hcur]
    simpa using hid
  cases hr : s.tracker.retried f.item s.manager.retryLimit r with
  | some next =>
    obtain ⟨-, -, -, hL, -⟩ := Tracker.retried_some hr
    have hm := mergesOn_of_retried_some hr
    rw [retry_handed s f r e hc hr, handOut_eq]
    generalize hQ : (s.tracker.retriedQueue f.item s.manager.retryLimit r).items = rest at hL
    by_cases hid : f.ctx.id = id
    · subst hid
      by_cases hin : s.tracker.queue.items.contains f.item = true
      · -- merged: the front of the queue goes to the replacement instead
        rw [if_pos hin] at hL
        have hm' : mergesOn s.tracker f.item s.manager.retryLimit r = true := hm.trans hin
        simp [whereabouts, queued, retrying, hm', hc, hQ, hL, Stage.isBusy, List.count_cons, List.count_append]
        omega
      · -- put back in front, and handed straight to the replacement
        rw [if_neg hin, List.cons.injEq] at hL
        obtain ⟨hnext, hrest⟩ := hL
        have hm' : mergesOn s.tracker f.item s.manager.retryLimit r = false := by
          simpa [hm] using hin
        simp [whereabouts, queued, retrying, hm', hc, hQ, ← hnext, ← hrest, Stage.isBusy, List.count_cons,
          List.count_append]
        omega
    · have hm' : unitsOf id (if mergesOn s.tracker f.item s.manager.retryLimit r = true then
          [(f.ctx.id, f.item)] else []) = [] := by
        split <;> simp [hid]
      simp [whereabouts, queued, retrying, hm', hother hid, hid]
  | none =>
    rw [retry_givenUp s f r e hc hr, fold_rearranges _ _ id x]
    by_cases hid : f.ctx.id = id
    · subst hid
      simp [whereabouts, queued, givingUp, retrying, mergesOn_of_retried_none hr,
        Tracker.retriedQueue_of_none hr, List.count_append, List.count_cons]
      omega
    · simp [whereabouts, queued, givingUp, retrying, mergesOn_of_retried_none hr,
        Tracker.retriedQueue_of_none hr, hid]

theorem report_rearranges (s : Flow) (p id : Nat) (r : Report) (u : Option WorkItem) :
    Rearranges s (s.report p id r u) := by
  obtain ⟨ps, made, cl, o, pe, h, -⟩ := report_frame s p id r u
  rw [h]
  exact Rearranges.of_eq fun _ => rfl

theorem tell_idle (s : Flow) (p : Nat) (k : StopRequest) (id : Nat) :
    idle id (s.tell p k).flights = idle id s.flights := by
  simp only [tell, idle, List.filter_map, List.map_map]
  congr 1
  · funext f
    simp only [Function.comp]
    split <;> rfl
  · apply List.filter_congr
    intro f _
    simp only [Function.comp]
    split <;> rfl

theorem whereabouts_tell (s : Flow) (p : Nat) (k : StopRequest) (id : Nat) :
    (s.tell p k).whereabouts id = s.whereabouts id := by
  unfold whereabouts
  rw [tell_idle]
  rfl

theorem zip_map_snd {α β : Type} (xs : List α) (ys : List β) :
    (xs.zip ys).map Prod.snd = ys.take xs.length := by
  induction xs generalizing ys with
  | nil => simp
  | cons x xs ih =>
    cases ys with
    | nil => simp
    | cons y ys => simp [ih]

theorem Step.rearranges {s s' : Flow} (hh : Holding s 0) (hs : Step s s') (hb : s'.begun = s.begun) :
    Rearranges s s' := by
  cases hs with
  | begin pre post c _ =>
    by_cases he : c.workItems = []
    · rw [begin_empty _ c he]
      exact Rearranges.of_eq fun _ => rfl
    · cases hp : s.tracker.isInProgress with
      | true =>
        rw [begin_busy { s with serves := pre ++ post } c he hp]
        exact Rearranges.of_eq fun _ => rfl
      | false =>
        -- a request begins, which the caller rules out
        rw [begin_new { s with serves := pre ++ post } c he hp] at hb
        simp at hb
  | accept pre post f h hf =>
    intro id x
    by_cases hid : f.ctx.id = id
    · simp [whereabouts, h, hf, hid, Stage.isBusy, List.count_append, List.count_cons]
      omega
    · simp [whereabouts, h, hf, hid, Stage.isBusy, List.count_append]
  | refuse pre post f e h hf =>
    refine Rearranges.of_eq fun id => ?_
    simp [whereabouts, h, hf, Stage.isBusy, replace_snd]
  | retry pre post f r e h hf =>
    intro id x
    have hc : s.tracker.isCurrent f.ctx.id = true :=
      (Tracker.isCurrent_iff _ _).2 ⟨f.ctx, hh.flights f (by simp [h])⟩
    rw [retry_rearranges { s with flights := pre ++ post } f r e hc id x]
    by_cases hid : f.ctx.id = id
    · simp [whereabouts, h, hf, hid, Stage.isBusy, List.count_append, List.count_cons]
      omega
    · simp [whereabouts, h, hid, List.count_append]
  | complete pre post f r h hf _ =>
    intro id x
    rw [report_rearranges _ _ _ r _ id x]
    simp [whereabouts, h, hf, Stage.isBusy, List.count_append]
  | stray p id r _ =>
    intro id' x
    rw [report_rearranges _ _ _ r _ id' x]
    rfl
  | fold pre post q _ =>
    intro id x
    rw [fold_rearranges _ q id x]
    rfl
  | forward pre post p j _ =>
    unfold forward
    split
    · exact Rearranges.of_eq fun id => whereabouts_tell _ _ _ id
    · exact Rearranges.of_eq fun _ => rfl
  | stop k _ =>
    rw [stop_eq]
    split
    · exact Rearranges.of_eq fun _ => rfl
    · exact Rearranges.of_eq fun _ => rfl
  | act pre post p k _ => exact Rearranges.of_eq fun id => whereabouts_tell _ _ _ id
  | close =>
    rw [close_eq]
    exact Rearranges.of_eq fun _ => rfl
  | resize level =>
    obtain ⟨ps, made, closed, h⟩ := resize_frame s level
    rw [h]
    exact Rearranges.of_eq fun _ => rfl
  | call | unready | relay | strayEvent | closeNext => exact Rearranges.of_eq fun _ => rfl

/-! ## Units are never lost in an honest run -/

def Conserved (s : Flow) : Prop :=
  ∀ id x, (s.itemsOf id).count x = (s.whereabouts id).count x

theorem Conserved.init (discovers shared : Bool) (level limit : Nat) :
    Conserved (Flow.init discovers shared level limit) := by
  intro id x
  simp [Flow.init, itemsOf, whereabouts, queued, Flow.tracker, Tracker.new, Tracker.isCurrent]

theorem Conserved.rearranged {s s' : Flow} (hc : Conserved s) (hr : Rearranges s s')
    (hb : s'.begun = s.begun) : Conserved s' := by
  intro id x
  rw [hr id x, ← hc id x, itemsOf, itemsOf, hb]

theorem idle_offered (id : Nat) (ctx : Context) (batch : List (Nat × WorkItem)) :
    idle id (batch.map fun x => (⟨x.1, ctx, x.2, .offered, []⟩ : Flight)) =
      if ctx.id = id then batch.map Prod.snd else [] := by
  induction batch with
  | nil => simp
  | cons b bs ih => by_cases h : ctx.id = id <;> simp_all [Stage.isBusy]

theorem Conserved.begin {s : Flow} (hc : Conserved s) (hh : Holding s 0) (c : UnitCriteria) :
    Conserved (s.begin c) := by
  by_cases he : c.workItems = []
  · rw [begin_empty s c he]
    exact hc
  · cases hp : s.tracker.isInProgress with
    | true =>
      rw [begin_busy s c he hp]
      exact hc
    | false =>
      have hcur : s.tracker.current = none := by simpa [Tracker.isInProgress] using hp
      -- no request is served, so no proxy holds a unit and the queue does not count
      have hfl : s.flights = [] := by
        cases hf : s.flights with
        | nil => rfl
        | cons f fs =>
          have := hh.flights f (by simp [hf])
          simp [hcur] at this
      have hbefore := Tracker.isCurrent_none hcur
      -- the new request is served, with what the pool did not take queued
      have hb := begin_new s c he hp
      have hnow : (s.begin c).tracker.current =
          some (s.tracker.lastId + 1, ⟨s.tracker.lastId + 1, c⟩) := by rw [hb]; rfl
      have hqueue : (s.begin c).tracker.queue.items = c.workItems.drop s.pool.length := by rw [hb]; rfl
      have hflights : (s.begin c).flights = (s.pool.zip c.workItems).map
          fun x => (⟨x.1, ⟨s.tracker.lastId + 1, c⟩, x.2, .offered, []⟩ : Flight) := by rw [hb, hfl]; rfl
      have hbegun : (s.begin c).begun = s.begun ++ [⟨s.tracker.lastId + 1, c⟩] := by rw [hb]
      obtain ⟨ha, hg, hm, hu⟩ : (s.begin c).accepted = s.accepted ∧ (s.begin c).givenUp = s.givenUp ∧
          (s.begin c).merged = s.merged ∧ (s.begin c).unsent = s.unsent := by
        rw [hb]
        exact ⟨rfl, rfl, rfl, rfl⟩
      intro id x
      have hx := hc id x
      simp only [itemsOf, whereabouts, queued, hbefore, hfl, idle_nil, List.append_nil] at hx
      simp only [itemsOf, whereabouts, queued, Tracker.isCurrent_some hnow, hqueue, hflights, hbegun, ha, hg,
        hm, hu, idle_offered, List.filter_append, List.flatMap_append, List.count_append]
      by_cases hid : s.tracker.lastId + 1 = id
      · have hsplit : (c.workItems.take s.pool.length).count x + (c.workItems.drop s.pool.length).count x =
            c.workItems.count x := by
          rw [← List.count_append, List.take_append_drop]
        simp [hid, zip_map_snd] at hx ⊢
        omega
      · simp [hid] at hx ⊢
        omega

theorem Conserved.step {s s' : Flow} (hc : Conserved s) (hh : Holding s 0) (hs : Step s s') :
    Conserved s' := by
  rcases hs.begun_or_begins with hb | ⟨pre, post, c, -, rfl⟩
  · exact hc.rearranged (Step.rearranges hh hs hb) hb
  · have hh' : Holding { s with serves := pre ++ post } 0 := hh.congr rfl rfl rfl rfl rfl
    have hc' : Conserved { s with serves := pre ++ post } := hc
    exact hc'.begin hh' c

theorem conserved_reachable {s : Flow} (h : Reachable s) (hr : s.rogue = false) : Conserved s := by
  induction h with
  | init discovers shared level limit => exact Conserved.init discovers shared level limit
  | step hreach hs ih =>
    have hr₀ := hs.flags_before.1 hr
    exact (ih hr₀).step (holding_reachable hreach hr₀) hs

/-! ## Refusals and partials

A unit given up or merged was refused first, so neither outnumbers the refusals of its request;
and each unit accepted or given up yields one partial, folded once the request takes it. -/

def refusedOf (id : Nat) (fs : List Flight) : Nat :=
  fs.countP fun f => decide (f.ctx.id = id) && f.stage.isRefused

def busyOf (id : Nat) (fs : List Flight) : Nat :=
  fs.countP fun f => decide (f.ctx.id = id) && f.stage.isBusy

def pendingOf (id : Nat) (ps : List Pending) : Nat :=
  ps.countP fun q => decide (q.ctx.id = id)

def foldedOf (id : Nat) (xs : List (Nat × Report)) : Nat :=
  xs.countP fun d => decide (d.1 = id)

theorem refusedOf_offered (id : Nat) {fs extra : List Flight} (h : ∀ f ∈ extra, f.stage = .offered) :
    refusedOf id (fs ++ extra) = refusedOf id fs := by
  simp only [refusedOf, List.countP_append, Nat.add_eq_left, List.countP_eq_zero]
  intro f hf
  simp [h f hf, Stage.isRefused]

theorem busyOf_offered (id : Nat) {fs extra : List Flight} (h : ∀ f ∈ extra, f.stage = .offered) :
    busyOf id (fs ++ extra) = busyOf id fs := by
  simp only [busyOf, List.countP_append, Nat.add_eq_left, List.countP_eq_zero]
  intro f hf
  simp [h f hf, Stage.isBusy]

theorem countP_tell (s : Flow) (p : Nat) (k : StopRequest) (P : Flight → Bool)
    (hP : ∀ f : Flight, P { f with told := f.told ++ [k] } = P f) :
    (s.tell p k).flights.countP P = s.flights.countP P := by
  simp only [tell, List.countP_map]
  apply List.countP_congr
  intro f _
  simp only [Function.comp]
  split <;> simp [hP]

theorem fold_folded (s : Flow) (q : Pending) (hc : s.tracker.isCurrent q.ctx.id = true)
    (ho : (s.fold q).overflowed = false) : (s.fold q).folded = s.folded ++ [(q.ctx.id, q.report)] := by
  cases ha : Manager.account s.tracker q.report q.next with
  | none =>
    rw [fold_overflow s q hc ha] at ho
    cases ho
  | some res =>
    obtain ⟨t, nx, done⟩ := res
    rw [fold_some s q hc ha]

theorem retry_settles (s : Flow) (f : Flight) (r : Option Nat) (e : Error)
    (hc : s.tracker.isCurrent f.ctx.id = true) (id : Nat) :
    (unitsOf id (s.retry f r e).givenUp).length + (unitsOf id (s.retry f r e).merged).length ≤
      (unitsOf id s.givenUp).length + (unitsOf id s.merged).length + (if f.ctx.id = id then 1 else 0) := by
  cases hr : s.tracker.retried f.item s.manager.retryLimit r with
  | some next =>
    rw [retry_handed s f r e hc hr, handOut_eq]
    cases hm : mergesOn s.tracker f.item s.manager.retryLimit r <;> by_cases hid : f.ctx.id = id <;>
      simp [retrying, hm, hid]
    omega
  | none =>
    rw [retry_givenUp s f r e hc hr]
    obtain ⟨t, fl, hd, fo, o, u, ov, h⟩ := fold_frame (s.givingUp f r e) (s.gaveUpPending f r e)
    rw [h]
    by_cases hid : f.ctx.id = id <;> simp [givingUp, retrying, hid, mergesOn_of_retried_none hr]
    omega

theorem retry_folds (s : Flow) (f : Flight) (r : Option Nat) (e : Error)
    (hc : s.tracker.isCurrent f.ctx.id = true) (ho : (s.retry f r e).overflowed = false) (id : Nat) :
    foldedOf id (s.retry f r e).folded + (unitsOf id s.givenUp).length =
      foldedOf id s.folded + (unitsOf id (s.retry f r e).givenUp).length := by
  cases hr : s.tracker.retried f.item s.manager.retryLimit r with
  | some next =>
    rw [retry_handed s f r e hc hr, handOut_eq]
    rfl
  | none =>
    rw [retry_givenUp s f r e hc hr] at ho ⊢
    obtain ⟨t, fl, hd, fo, o, u, ov, h⟩ := fold_frame (s.givingUp f r e) (s.gaveUpPending f r e)
    rw [fold_folded _ _ hc ho, h]
    by_cases hid : f.ctx.id = id <;>
      simp [givingUp, gaveUpPending, retrying, hid, foldedOf, List.countP_append]
    omega

/-- The records of refusals and partials, in an honest run. -/
structure Ledger (s : Flow) : Prop where
  /-- Each unit given up or merged, and each refused unit waiting for its retry, is a refusal. -/
  refused : ∀ id, (unitsOf id s.givenUp).length + (unitsOf id s.merged).length + refusedOf id s.flights ≤
    (unitsOf id s.refusals).length
  /-- Each unit accepted or given up is a partial folded, a unit worked on, or a completion
  waiting to be folded. -/
  folded : s.overflowed = false → ∀ id,
    foldedOf id s.folded + busyOf id s.flights + pendingOf id s.pending =
      (unitsOf id s.accepted).length + (unitsOf id s.givenUp).length

namespace Ledger

variable {s s' : Flow}

theorem init (discovers shared : Bool) (level limit : Nat) :
    Ledger (Flow.init discovers shared level limit) :=
  ⟨fun _ => by simp [Flow.init, refusedOf], fun _ _ => by simp [Flow.init, foldedOf, busyOf, pendingOf]⟩

theorem congr (hl : Ledger s) (hg : s'.givenUp = s.givenUp) (hm : s'.merged = s.merged)
    (hr : s'.refusals = s.refusals) (ha : s'.accepted = s.accepted) (hfo : s'.folded = s.folded)
    (hp : s'.pending = s.pending) (hre : ∀ id, refusedOf id s'.flights = refusedOf id s.flights)
    (hb : ∀ id, busyOf id s'.flights = busyOf id s.flights) (ho : s'.overflowed = s.overflowed) :
    Ledger s' := by
  refine ⟨fun id => ?_, fun h id => ?_⟩
  · rw [hg, hm, hr, hre]
    exact hl.refused id
  · rw [hg, ha, hfo, hp, hb]
    exact hl.folded (ho ▸ h) id

theorem tell (hl : Ledger s) (p : Nat) (k : StopRequest) : Ledger (s.tell p k) :=
  hl.congr rfl rfl rfl rfl rfl rfl (fun _ => countP_tell _ _ _ _ fun _ => rfl)
    (fun _ => countP_tell _ _ _ _ fun _ => rfl) rfl

theorem step (hl : Ledger s) (hh : Holding s 0) (hs : Step s s') (hr : s'.rogue = false) : Ledger s' := by
  cases hs with
  | begin pre post c _ =>
    obtain ⟨extra, hfl, hoff⟩ := begin_flights { s with serves := pre ++ post } c
    obtain ⟨t, fl, bg, hd, o, h⟩ := begin_frame { s with serves := pre ++ post } c
    refine hl.congr ?_ ?_ ?_ ?_ ?_ ?_ (fun id => ?_) (fun id => ?_) ?_
    all_goals first
      | (rw [h]; rfl)
      | (rw [hfl]; exact refusedOf_offered id hoff)
      | (rw [hfl]; exact busyOf_offered id hoff)
  | accept pre post f h hf =>
    refine ⟨fun id => ?_, fun ho id => ?_⟩
    · have := hl.refused id
      simp_all [refusedOf, List.countP_append, Stage.isRefused]
    · have := hl.folded ho id
      by_cases hid : f.ctx.id = id <;> simp_all [busyOf, List.countP_append, Stage.isBusy]
      omega
  | refuse pre post f e h hf =>
    refine ⟨fun id => ?_, fun ho id => ?_⟩
    · have := hl.refused id
      by_cases hid : f.ctx.id = id <;> simp_all [refusedOf, replace_snd, List.countP_append, Stage.isRefused]
      omega
    · have := hl.folded (by simpa [replace_snd] using ho) id
      simp_all [busyOf, replace_snd, List.countP_append, Stage.isBusy]
  | retry pre post f r e h hf =>
    have hc : s.tracker.isCurrent f.ctx.id = true :=
      (Tracker.isCurrent_iff _ _).2 ⟨f.ctx, hh.flights f (by simp [h])⟩
    obtain ⟨extra, hfl, hoff⟩ := retry_flights { s with flights := pre ++ post } f r e
    obtain ⟨t, fl, hd, mg, gu, fo, o, u, ov, hfr⟩ := retry_frame { s with flights := pre ++ post } f r e
    -- the refused unit leaves the flights, and the retry settles it at most once
    have hre : ∀ id, refusedOf id s.flights = refusedOf id (pre ++ post) + (if f.ctx.id = id then 1 else 0) := by
      intro id
      by_cases hid : f.ctx.id = id <;> simp [refusedOf, h, hf, hid, List.countP_append, Stage.isRefused]
      omega
    have hbu : ∀ id, busyOf id s.flights = busyOf id (pre ++ post) := by
      intro id
      simp [busyOf, h, hf, List.countP_append, Stage.isBusy]
    refine ⟨fun id => ?_, fun ho id => ?_⟩
    · have h₁ := hl.refused id
      have h₂ := retry_settles { s with flights := pre ++ post } f r e hc id
      rw [hfl, refusedOf_offered id hoff]
      rw [hre id] at h₁
      have hR : ({ s with flights := pre ++ post }.retry f r e).refusals = s.refusals := by rw [hfr]; rfl
      rw [hR]
      dsimp only at h₂ ⊢
      omega
    · have ho₀ : s.overflowed = false :=
        (retry_flags { s with flights := pre ++ post } f r e).2 ho
      have h₁ := hl.folded ho₀ id
      have h₂ := retry_folds { s with flights := pre ++ post } f r e hc ho id
      obtain ⟨hA, hP⟩ : ({ s with flights := pre ++ post }.retry f r e).accepted = s.accepted ∧
          ({ s with flights := pre ++ post }.retry f r e).pending = s.pending := by
        rw [hfr]
        exact ⟨rfl, rfl⟩
      rw [hfl, busyOf_offered id hoff, hA, hP]
      rw [hbu id] at h₁
      dsimp only at h₂ ⊢
      omega
  | complete pre post f r h hf _ =>
    have hx : s.tracker.context f.ctx.id = some f.ctx :=
      (Tracker.context_eq_some _ _ _).2 (hh.flights f (by simp [h]))
    rw [report_current { s with flights := pre ++ post } f.proxy f.ctx.id r (some f.item) hx]
    refine ⟨fun id => ?_, fun ho id => ?_⟩
    · have := hl.refused id
      simp_all [refusedOf, successor_snd, List.countP_append, Stage.isRefused]
    · have := hl.folded (by simpa [successor_snd] using ho) id
      by_cases hid : f.ctx.id = id <;>
        simp_all [busyOf, pendingOf, successor_snd, List.countP_append, Stage.isBusy]
      omega
  | stray p id r _ =>
    have := (report_flags { s with rogue := true } p id r none).1
    simp [this] at hr
  | strayEvent id e _ => simp at hr
  | fold pre post q h =>
    have hc : s.tracker.isCurrent q.ctx.id = true :=
      (Tracker.isCurrent_iff _ _).2 ⟨q.ctx, hh.pending q (by simp [h])⟩
    obtain ⟨extra, hfl, hoff⟩ := fold_flights { s with pending := pre ++ post } q
    obtain ⟨t, fl, hd, fo, o, u, ov, hfr⟩ := fold_frame { s with pending := pre ++ post } q
    obtain ⟨hG, hM, hR, hA, hP⟩ : ({ s with pending := pre ++ post }.fold q).givenUp = s.givenUp ∧
        ({ s with pending := pre ++ post }.fold q).merged = s.merged ∧
        ({ s with pending := pre ++ post }.fold q).refusals = s.refusals ∧
        ({ s with pending := pre ++ post }.fold q).accepted = s.accepted ∧
        ({ s with pending := pre ++ post }.fold q).pending = pre ++ post := by
      rw [hfr]
      exact ⟨rfl, rfl, rfl, rfl, rfl⟩
    refine ⟨fun id => ?_, fun ho id => ?_⟩
    · rw [hG, hM, hR, hfl, refusedOf_offered id hoff]
      exact hl.refused id
    · have ho₀ : s.overflowed = false := (fold_flags { s with pending := pre ++ post } q).2 ho
      have := hl.folded ho₀ id
      rw [hG, hA, hP, hfl, busyOf_offered id hoff, fold_folded { s with pending := pre ++ post } q hc ho]
      by_cases hid : q.ctx.id = id <;>
        simp_all [foldedOf, pendingOf, List.countP_append]
      omega
  | forward pre post p j _ =>
    unfold forward
    have hl' : Ledger { s with forwards := pre ++ post } :=
      hl.congr rfl rfl rfl rfl rfl rfl (fun _ => rfl) (fun _ => rfl) rfl
    split
    · exact hl'.tell p _
    · exact hl'
  | stop k _ =>
    rw [stop_eq]
    split <;> exact hl.congr rfl rfl rfl rfl rfl rfl (fun _ => rfl) (fun _ => rfl) rfl
  | act pre post p k _ =>
    have hl' : Ledger { s with actions := pre ++ post } :=
      hl.congr rfl rfl rfl rfl rfl rfl (fun _ => rfl) (fun _ => rfl) rfl
    exact hl'.tell p k
  | close =>
    rw [close_eq]
    exact hl.congr rfl rfl rfl rfl rfl rfl (fun _ => rfl) (fun _ => rfl) rfl
  | resize level =>
    obtain ⟨ps, made, closed, h⟩ := resize_frame s level
    rw [h]
    exact hl.congr rfl rfl rfl rfl rfl rfl (fun _ => rfl) (fun _ => rfl) rfl
  | call | unready | relay | closeNext => exact hl.congr rfl rfl rfl rfl rfl rfl (fun _ => rfl) (fun _ => rfl) rfl

end Ledger

theorem ledger_reachable {s : Flow} (h : Reachable s) (hr : s.rogue = false) : Ledger s := by
  induction h with
  | init discovers shared level limit => exact Ledger.init discovers shared level limit
  | step hreach hs ih =>
    have hr₀ := hs.flags_before.1 hr
    exact (ih hr₀).step (holding_reachable hreach hr₀) hs hr

end Flow

end TestConductor
