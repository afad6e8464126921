import TestConductor.Proofs.Parallel.Flow
/-! # Each request is reported once

The caller learns that a request ended from one completion event. Whatever the proxies do, a
request is reported at most once, and it is reported exactly when the manager stops serving
it: the stretch that folds the partial bringing the count of units in flight to zero both
reports the request and ends it. When the proxies keep to their contract, nothing of the
request reaches the caller after its completion, and a request still served always has a unit
with a proxy or a completion waiting to be folded, so that once every task is done every request
begun was reported.
-/
namespace TestConductor

namespace Flow

def tagged (id : Nat) (xs : List (Option Nat × CallerEvent)) : List CallerEvent :=
  xs.filterMap fun d => if d.1 = some id then some d.2 else none

@[simp] theorem tagged_nil (id : Nat) : tagged id [] = [] := rfl

@[simp] theorem tagged_append (id : Nat) (xs ys : List (Option Nat × CallerEvent)) :
    tagged id (xs ++ ys) = tagged id xs ++ tagged id ys := by
  simp [tagged, List.filterMap_append]

@[simp] theorem tagged_singleton (id : Nat) (d : Option Nat × CallerEvent) :
    tagged id [d] = if d.1 = some id then [d.2] else [] := by
  by_cases h : d.1 = some id <;> simp [tagged, h]

@[simp] theorem tagged_map (id j : Nat) (xs : List CallerEvent) :
    tagged id (xs.map (some j, ·)) = if j = id then xs else [] := by
  induction xs with
  | nil => simp
  | cons x xs ih =>
    simp only [List.map_cons, tagged] at ih ⊢
    by_cases h : j = id <;> simp_all

def eventsOf (s : Flow) (id : Nat) : List CallerEvent := tagged id s.out

def completions (s : Flow) (id : Nat) : List CallerEvent := (s.eventsOf id).filter (·.isCompletion)

def Works (s : Flow) (id : Nat) : Prop :=
  s.tracker.isCurrent id = true ∨ ∃ f ∈ s.flights, f.ctx.id = id

theorem Works.mono {s s₁ : Flow} {id : Nat} (hc : s₁.tracker.current = s.tracker.current)
    (hf : ∀ f ∈ s₁.flights, f ∈ s.flights) (h : s₁.Works id) : s.Works id := by
  rcases h with h | ⟨f, hf₁, rfl⟩
  · left
    simpa only [Tracker.isCurrent, hc] using h
  · exact Or.inr ⟨f, hf f hf₁, rfl⟩

/-- Whether an event told on the way from `s` to `s'` ends no request: it belongs to no request,
or it is a partial event of a request at work (of any request, once a proxy misbehaved). -/
def Partial (s s' : Flow) (d : Option Nat × CallerEvent) : Prop :=
  d.1 = none ∨ d.2.isCompletion = false ∧ (s'.rogue = true ∨ ∃ id, d.1 = some id ∧ s.Works id)

theorem Partial.not_completion {s s' : Flow} {d : Option Nat × CallerEvent} {id : Nat}
    (h : Partial s s' d) (hd : d.1 = some id) : d.2.isCompletion = false := by
  rcases h with h | ⟨h, -⟩
  · simp [h] at hd
  · exact h

/-- What one stretch does to the request served and to what the caller is told. -/
inductive Moves (s s' : Flow) : Prop where
  /-- The request served stays, and only events that end no request are told. -/
  | stays (extra : List (Option Nat × CallerEvent)) (hc : s'.tracker.current = s.tracker.current)
      (hl : s'.tracker.lastId = s.tracker.lastId) (ho : s'.out = s.out ++ extra)
      (hx : ∀ d ∈ extra, Partial s s' d)
  /-- Nothing was served, and the next request begins. -/
  | opens (c : UnitCriteria) (hc : s.tracker.current = none)
      (hc' : s'.tracker.current = some (s.tracker.lastId + 1, ⟨s.tracker.lastId + 1, c⟩))
      (hl : s'.tracker.lastId = s.tracker.lastId + 1) (ho : s'.out = s.out)
  /-- The request served ends with a completion, after partial events of its own. -/
  | ends (id : Nat) (ctx : Context) (extra : List CallerEvent) (e : CallerEvent)
      (hc : s.tracker.current = some (id, ctx)) (hc' : s'.tracker.current = none)
      (hl : s'.tracker.lastId = s.tracker.lastId)
      (ho : s'.out = s.out ++ extra.map (some id, ·) ++ [(some id, e)])
      (hx : ∀ e ∈ extra, e.isCompletion = false) (he : e.isCompletion = true)

namespace Moves

variable {s s₁ s' : Flow}

theorem quiet (hc : s'.tracker.current = s.tracker.current) (hl : s'.tracker.lastId = s.tracker.lastId)
    (ho : s'.out = s.out) : Moves s s' :=
  .stays [] hc hl (by simp [ho]) (by simp)

theorem of_fewer (h : Moves s₁ s') (hc : s₁.tracker.current = s.tracker.current)
    (hl : s₁.tracker.lastId = s.tracker.lastId) (ho : s₁.out = s.out) (hf : ∀ f ∈ s₁.flights, f ∈ s.flights) :
    Moves s s' := by
  cases h with
  | stays extra hc' hl' ho' hx =>
    refine .stays extra (hc'.trans hc) (hl'.trans hl) (by rw [ho', ho]) fun d hd => ?_
    rcases hx d hd with h | ⟨h, hr | ⟨id, hid, hw⟩⟩
    · exact Or.inl h
    · exact Or.inr ⟨h, Or.inl hr⟩
    · exact Or.inr ⟨h, Or.inr ⟨id, hid, hw.mono hc hf⟩⟩
  | opens c hc₁ hc' hl' ho' => exact .opens c (hc ▸ hc₁) (by rw [hc', hl]) (by rw [hl', hl]) (ho'.trans ho)
  | ends id ctx extra e hc₁ hc' hl' ho' hx he =>
    exact .ends id ctx extra e (hc ▸ hc₁) hc' (hl'.trans hl) (by rw [ho', ho]) hx he

theorem after_partial {id : Nat} {ctx : Context} {x : CallerEvent}
    (hcur : s.tracker.current = some (id, ctx)) (hc : s₁.tracker.current = s.tracker.current)
    (hl : s₁.tracker.lastId = s.tracker.lastId) (ho : s₁.out = s.out ++ [(some id, x)])
    (hxc : x.isCompletion = false) (hf : ∀ f ∈ s₁.flights, f ∈ s.flights) (h : Moves s₁ s') :
    Moves s s' := by
  have hw : s.Works id := Or.inl ((Tracker.isCurrent_iff _ _).2 ⟨ctx, hcur⟩)
  cases h with
  | stays extra hc' hl' ho' hx =>
    refine .stays ((some id, x) :: extra) (hc'.trans hc) (hl'.trans hl) (by simp [ho', ho]) ?_
    intro d hd
    rcases List.mem_cons.1 hd with rfl | hd
    · exact Or.inr ⟨hxc, Or.inr ⟨id, rfl, hw⟩⟩
    · rcases hx d hd with h | ⟨h, hr | ⟨j, hj, hwj⟩⟩
      · exact Or.inl h
      · exact Or.inr ⟨h, Or.inl hr⟩
      · exact Or.inr ⟨h, Or.inr ⟨j, hj, hwj.mono hc hf⟩⟩
  | opens c hc₁ =>
    rw [hc, hcur] at hc₁
    cases hc₁
  | ends j ctx' extra e hc₁ hc' hl' ho' hx he =>
    -- the request that ends is the one served before the event
    have hj : j = id := by
      rw [hc, hcur] at hc₁
      exact (Prod.mk.inj (Option.some.inj hc₁)).1.symm
    subst hj
    refine .ends j ctx (x :: extra) e hcur hc' (hl'.trans hl) (by simp [ho', ho]) ?_ he
    intro e' he'
    rcases List.mem_cons.1 he' with rfl | he'
    · exact hxc
    · exact hx e' he'

end Moves

theorem fold_moves (s : Flow) (q : Pending) : Moves s (s.fold q) := by
  rcases fold_cases s q with h | h | ⟨ctx, t, nx, done, hcur, ha, h⟩ <;> rw [h]
  · exact .quiet rfl rfl rfl
  · exact .quiet rfl rfl rfl
  · have hs := Manager.account_settled ha
    cases done with
    | none => exact .quiet (by simpa using hs.current) (by simpa using hs.lastId) (by simp)
    | some e =>
      exact .ends q.ctx.id ctx [] e hcur (by simpa using hs.current) (by simpa using hs.lastId)
        (by simp) (by simp) (Manager.account_ends ha)

theorem retry_moves (s : Flow) (f : Flight) (r : Option Nat) (e : Error) : Moves s (s.retry f r e) := by
  rcases retry_cases s f r e with h | ⟨ctx, next, -, -, h⟩ | ⟨ctx, hcur, -, h⟩ <;> rw [h]
  · exact .quiet rfl rfl rfl
  · exact .quiet (by simp [retrying, handOut_eq]) (by simp [retrying, handOut_eq])
      (by simp [retrying, handOut_eq])
  · exact Moves.after_partial hcur (by simp [givingUp, retrying]) (by simp [givingUp, retrying]) rfl rfl
      (by simp [givingUp, retrying]) (fold_moves _ _)

theorem chunkEvent_not_completion {r : Report} {e : CallerEvent} (h : r.chunkEvent = some e) :
    e.isCompletion = false := by
  cases r with
  | discovery total chunk aborted =>
    cases chunk with
    | none => simp [Report.chunkEvent] at h
    | some ts =>
      by_cases hts : ts.isEmpty <;> simp [Report.chunkEvent, hts] at h
      subst h
      rfl
  | run c chunk attachments metrics =>
    cases chunk with
    | none => simp [Report.chunkEvent] at h
    | some p =>
      simp only [Report.chunkEvent, Option.some.injEq] at h
      subst h
      rfl

theorem report_moves (s : Flow) (p id : Nat) (r : Report) (u : Option WorkItem) :
    Moves s (s.report p id r u) := by
  cases hx : s.tracker.context id with
  | none =>
    rw [report_stale s p id r u hx]
    exact .quiet rfl rfl rfl
  | some ctx =>
    rw [report_current s p id r u hx]
    have hcur := (Tracker.context_eq_some _ _ _).1 hx
    refine .stays (r.chunkEvent.map ((some id, ·))).toList (by simp [successor_snd])
      (by simp [successor_snd]) (by simp [successor_snd]) ?_
    intro d hd
    cases he : r.chunkEvent with
    | none => simp [he] at hd
    | some e =>
      simp only [he, Option.map_some, Option.toList_some, List.mem_singleton] at hd
      subst hd
      exact Or.inr ⟨chunkEvent_not_completion he, Or.inr ⟨id, rfl, Or.inl
        ((Tracker.isCurrent_iff _ _).2 ⟨ctx, hcur⟩)⟩⟩

theorem begin_moves (s : Flow) (c : UnitCriteria) : Moves s (s.begin c) := by
  by_cases he : c.workItems = []
  · rw [begin_empty s c he]
    exact .stays [(none, Manager.emptyCompletion c)] rfl rfl rfl (by simp [Partial])
  · cases hp : s.tracker.isInProgress with
    | true =>
      rw [begin_busy s c he hp]
      exact .quiet rfl rfl rfl
    | false =>
      rw [begin_new s c he hp]
      have hc : s.tracker.current = none := by
        simpa [Tracker.isInProgress] using hp
      exact .opens c hc (by simp) (by simp) (by simp)

theorem mem_of_mem_split {α : Type} {xs pre post : List α} {x y : α} (h : xs = pre ++ x :: post)
    (hy : y ∈ pre ++ post) : y ∈ xs := by
  rw [h]
  simp only [List.mem_append, List.mem_cons] at hy ⊢
  rcases hy with hy | hy
  · exact Or.inl hy
  · exact Or.inr (Or.inr hy)

theorem step_moves {s s' : Flow} (h : Step s s') : Moves s s' := by
  cases h with
  | call => exact .quiet rfl rfl rfl
  | unready => exact .quiet rfl rfl rfl
  | begin pre post c _ => exact Moves.of_fewer (begin_moves _ c) (by rfl) (by rfl) (by rfl) (by intro g hg; exact hg)
  | accept => exact .quiet rfl rfl rfl
  | refuse pre post f e _ _ => exact .quiet (by simp [replace_snd]) (by simp [replace_snd]) (by simp [replace_snd])
  | retry pre post f r e hf _ =>
    exact Moves.of_fewer (retry_moves _ f r e) (by rfl) (by rfl) (by rfl)
      (by intro g hg; exact mem_of_mem_split hf hg)
  | relay pre post f e hf _ he =>
    refine .stays [(some f.ctx.id, e)] rfl rfl rfl ?_
    intro d hd
    rw [List.mem_singleton] at hd
    subst hd
    exact Or.inr ⟨he, Or.inr ⟨f.ctx.id, rfl, Or.inr ⟨f, by simp [hf], rfl⟩⟩⟩
  | complete pre post f r hf _ _ =>
    exact Moves.of_fewer (report_moves _ _ _ r _) (by rfl) (by rfl) (by rfl)
      (by intro g hg; exact mem_of_mem_split hf hg)
  | stray p id r _ =>
    exact Moves.of_fewer (report_moves _ _ _ r _) (by rfl) (by rfl) (by rfl) (by intro g hg; exact hg)
  | strayEvent id e he =>
    refine .stays [(some id, e)] rfl rfl rfl ?_
    intro d hd
    rw [List.mem_singleton] at hd
    subst hd
    exact Or.inr ⟨he, Or.inl rfl⟩
  | fold pre post q _ =>
    exact Moves.of_fewer (fold_moves _ q) (by rfl) (by rfl) (by rfl) (by intro g hg; exact hg)
  | forward pre post p id _ =>
    unfold forward
    split <;> exact .quiet rfl rfl rfl
  | stop k _ =>
    rw [stop_eq]
    split
    · exact .quiet rfl rfl rfl
    · exact .quiet rfl rfl rfl
  | act => exact .quiet rfl rfl rfl
  | close =>
    rw [close_eq]
    exact .quiet (by simp) (by simp) rfl
  | closeNext => exact .quiet rfl rfl rfl
  | resize level =>
    obtain ⟨ps, made, closed, h⟩ := resize_frame s level
    rw [h]
    exact .quiet rfl rfl rfl

/-! ## How requests are numbered and reported -/

theorem completions_of_out {s s' : Flow} {extra : List (Option Nat × CallerEvent)}
    (ho : s'.out = s.out ++ extra) (id : Nat) :
    s'.completions id = s.completions id ++ (tagged id extra).filter (·.isCompletion) := by
  simp [completions, eventsOf, ho, List.filter_append]

theorem tagged_partial {s s' : Flow} {extra : List (Option Nat × CallerEvent)}
    (hx : ∀ d ∈ extra, Partial s s' d) (id : Nat) : (tagged id extra).filter (·.isCompletion) = [] := by
  rw [List.filter_eq_nil_iff]
  intro e he
  obtain ⟨d, hd, hde⟩ := List.mem_filterMap.1 he
  by_cases hid : d.1 = some id
  · rw [if_pos hid, Option.some.injEq] at hde
    subst hde
    simp [(hx d hd).not_completion hid]
  · simp [hid] at hde

theorem completions_of_ends {s s' : Flow} {id₀ : Nat} {extra : List CallerEvent} {e : CallerEvent}
    (ho : s'.out = s.out ++ extra.map (some id₀, ·) ++ [(some id₀, e)])
    (hx : ∀ e ∈ extra, e.isCompletion = false) (he : e.isCompletion = true) (id : Nat) :
    s'.completions id = s.completions id ++ if id₀ = id then [e] else [] := by
  rw [List.append_assoc] at ho
  rw [completions_of_out ho]
  have hx' : extra.filter (·.isCompletion) = [] := by
    rw [List.filter_eq_nil_iff]
    intro e' he'
    simp [hx e' he']
  by_cases h : id₀ = id
  · subst h
    simp [List.filter_append, hx', he]
  · have h' : ¬ some id₀ = some id := fun h'' => h (Option.some.inj h'')
    simp [h, h']

/-- How requests are numbered and reported, whatever the proxies do. -/
structure Numbered (s : Flow) : Prop where
  /-- The request served is the last one begun. -/
  serving : ∀ id ctx, s.tracker.current = some (id, ctx) → 1 ≤ id ∧ id = s.tracker.lastId
  /-- A request begun is reported exactly when it is no longer served. -/
  reported : ∀ id, 1 ≤ id → id ≤ s.tracker.lastId →
    (s.completions id ≠ [] ↔ s.tracker.isCurrent id = false)
  /-- Nothing is reported for a request not begun. -/
  unbegun : ∀ id, id = 0 ∨ s.tracker.lastId < id → s.completions id = []
  /-- No request is reported twice. -/
  once : ∀ id, (s.completions id).length ≤ 1

namespace Numbered

variable {s s' : Flow}

theorem init (discovers shared : Bool) (level limit : Nat) :
    Numbered (Flow.init discovers shared level limit) where
  serving id ctx h := by simp [Flow.init, Tracker.new] at h
  reported id h₁ h₂ := by
    simp only [tracker, Flow.init, Tracker.new] at h₂
    omega
  unbegun id _ := rfl
  once id := by simp [Flow.init, completions, eventsOf]

theorem served_unreported (hn : Numbered s) {id : Nat} {ctx : Context}
    (hc : s.tracker.current = some (id, ctx)) : s.completions id = [] := by
  obtain ⟨h₁, hl⟩ := hn.serving id ctx hc
  have hcur : s.tracker.isCurrent id = true := (Tracker.isCurrent_iff _ _).2 ⟨ctx, hc⟩
  cases hcs : s.completions id with
  | nil => rfl
  | cons x xs =>
    have hnot := (hn.reported id h₁ (Nat.le_of_eq hl)).1 (by simp [hcs])
    rw [hcur] at hnot
    cases hnot

theorem not_served (hn : Numbered s) {id : Nat} (h : s.completions id ≠ []) :
    s.tracker.isCurrent id = false := by
  have h₁ : 1 ≤ id := Nat.pos_of_ne_zero fun h₀ => h (hn.unbegun id (Or.inl h₀))
  have h₂ : id ≤ s.tracker.lastId := Nat.le_of_not_lt fun hl => h (hn.unbegun id (Or.inr hl))
  exact (hn.reported id h₁ h₂).1 h

theorem moves (hn : Numbered s) (hm : Moves s s') : Numbered s' := by
  cases hm with
  | stays extra hc hl ho hx =>
    -- nothing counts as reported, and the request served stays
    have hcomp : ∀ id, s'.completions id = s.completions id := by
      intro id
      rw [completions_of_out ho, tagged_partial hx, List.append_nil]
    refine ⟨?_, ?_, ?_, ?_⟩
    · intro id ctx h
      rw [hl]
      exact hn.serving id ctx (hc ▸ h)
    · intro id h₁ h₂
      rw [hcomp, Tracker.isCurrent_congr hc]
      exact hn.reported id h₁ (hl ▸ h₂)
    · intro id h
      rw [hcomp]
      exact hn.unbegun id (hl ▸ h)
    · intro id
      rw [hcomp]
      exact hn.once id
  | opens c hc hc' hl ho =>
    -- the next request is served; the ones before it were all reported
    have hcomp : ∀ id, s'.completions id = s.completions id := by
      intro id
      simp only [completions, eventsOf, ho]
    refine ⟨?_, ?_, ?_, ?_⟩
    · intro id ctx h
      rw [hc'] at h
      have hid : s.tracker.lastId + 1 = id := (Prod.mk.inj (Option.some.inj h)).1
      omega
    · intro id h₁ h₂
      rw [hcomp, Tracker.isCurrent_some hc']
      by_cases h : s.tracker.lastId + 1 = id
      · have h₀ := hn.unbegun id (Or.inr (by omega))
        simp [h₀, h]
      · have hrep := (hn.reported id h₁ (by omega)).2 (Tracker.isCurrent_none hc id)
        simp [hrep, h]
    · intro id h
      rw [hcomp]
      exact hn.unbegun id (by omega)
    · intro id
      rw [hcomp]
      exact hn.once id
  | ends id₀ ctx extra e hc hc' hl ho hx he =>
    -- request `id₀` gets its one completion, and no request is served any more
    have hcomp := completions_of_ends ho hx he
    have h₀ : s.completions id₀ = [] := hn.served_unreported hc
    obtain ⟨h₁, hid⟩ := hn.serving id₀ ctx hc
    refine ⟨?_, ?_, ?_, ?_⟩
    · intro id ctx' h
      rw [hc'] at h
      cases h
    · intro id h₁' h₂
      rw [hcomp, Tracker.isCurrent_none hc']
      by_cases h : id₀ = id
      · subst h
        simp
      · have hold : s.tracker.isCurrent id = false := by
          rw [Tracker.isCurrent_some hc]
          simp [h]
        have hrep := (hn.reported id h₁' (by omega)).2 hold
        simp [hrep, h]
    · intro id h
      have hne : id₀ ≠ id := by omega
      rw [hcomp, if_neg hne, List.append_nil]
      exact hn.unbegun id (by omega)
    · intro id
      rw [hcomp]
      by_cases h : id₀ = id
      · subst h
        simp [h₀]
      · simpa [h] using hn.once id

end Numbered

theorem numbered_reachable {s : Flow} (h : Reachable s) : Numbered s := by
  induction h with
  | init discovers shared level limit => exact Numbered.init discovers shared level limit
  | step _ hs ih => exact ih.moves (step_moves hs)

/-! ## Units in flight

In an honest run every flight and every waiting completion belongs to the request served, and
the count of units in flight counts them all, exactly unless a fold overflowed and dropped one.
So a request does not end while one of its units is out, and a request served has one out. -/

/-- The flights and the waiting completions belong to the request served and, with `held` more
that a task holds, are counted in flight (exactly, unless a fold overflowed); a request served
has a unit in flight. -/
structure Holding (s : Flow) (held : Nat) : Prop where
  flights : ∀ f ∈ s.flights, s.tracker.current = some (f.ctx.id, f.ctx)
  pending : ∀ q ∈ s.pending, s.tracker.current = some (q.ctx.id, q.ctx)
  counted : s.flights.length + s.pending.length + held ≤ s.tracker.inFlight
  exact : s.overflowed = false → s.tracker.inFlight = s.flights.length + s.pending.length + held
  live : s.tracker.current.isSome = true → 0 < s.tracker.inFlight

namespace Holding

variable {s s' : Flow} {n : Nat}

theorem init (discovers shared : Bool) (level limit : Nat) :
    Holding (Flow.init discovers shared level limit) 0 where
  flights f h := by simp [Flow.init] at h
  pending q h := by simp [Flow.init] at h
  counted := by simp [Flow.init, Flow.tracker, Tracker.new]
  exact _ := by simp [Flow.init, Flow.tracker, Tracker.new]
  live h := by simp [Flow.init, Flow.tracker, Tracker.new] at h

theorem idle (hh : Holding s n) (hp : s.tracker.isInProgress = false) : s.flights = [] ∧ s.pending = [] := by
  have hc : s.tracker.current = none := by simpa [Tracker.isInProgress] using hp
  refine ⟨List.eq_nil_iff_forall_not_mem.2 fun f hf => ?_, List.eq_nil_iff_forall_not_mem.2 fun q hq => ?_⟩
  · simpa [hc] using hh.flights f hf
  · simpa [hc] using hh.pending q hq

theorem congr (hh : Holding s n) (hf : s'.flights.map (·.ctx) = s.flights.map (·.ctx))
    (hq : s'.pending = s.pending) (hc : s'.tracker.current = s.tracker.current)
    (hi : s'.tracker.inFlight = s.tracker.inFlight) (ho : s'.overflowed = s.overflowed) :
    Holding s' n := by
  have hl : s'.flights.length = s.flights.length := by
    simpa using congrArg List.length hf
  refine ⟨?_, ?_, ?_, ?_, ?_⟩
  · intro f h
    have hmem : f.ctx ∈ s.flights.map (·.ctx) := hf ▸ List.mem_map_of_mem h
    obtain ⟨g, hg, hgc⟩ := List.mem_map.1 hmem
    rw [hc, ← hgc]
    exact hh.flights g hg
  · intro q h
    rw [hc]
    exact hh.pending q (hq ▸ h)
  · rw [hl, hq, hi]
    exact hh.counted
  · intro h
    rw [hl, hq, hi]
    exact hh.exact (ho ▸ h)
  · intro h
    rw [hi]
    exact hh.live (hc ▸ h)

theorem take_flight (hh : Holding s n) {pre post : List Flight} {f : Flight}
    (h : s.flights = pre ++ f :: post) : Holding { s with flights := pre ++ post } (n + 1) := by
  have hl : s.flights.length = (pre ++ post).length + 1 := by simp [h]; omega
  refine ⟨fun g hg => hh.flights g (mem_of_mem_split h hg), hh.pending, ?_, ?_, hh.live⟩
  · have := hh.counted
    simp only [tracker_mk, manager_tracker] at this ⊢
    omega
  · intro ho
    have := hh.exact ho
    simp only [tracker_mk, manager_tracker] at this ⊢
    omega

theorem take_pending (hh : Holding s n) {pre post : List Pending} {q : Pending}
    (h : s.pending = pre ++ q :: post) : Holding { s with pending := pre ++ post } (n + 1) := by
  have hl : s.pending.length = (pre ++ post).length + 1 := by simp [h]; omega
  refine ⟨hh.flights, fun g hg => hh.pending g (mem_of_mem_split h hg), ?_, ?_, hh.live⟩
  · have := hh.counted
    simp only [tracker_mk, manager_tracker] at this ⊢
    omega
  · intro ho
    have := hh.exact ho
    simp only [tracker_mk, manager_tracker] at this ⊢
    omega

theorem handOut (hh : Holding s (n + 1)) {ctx : Context} (hc : s.tracker.current = some (ctx.id, ctx))
    (x : Nat × WorkItem) : Holding (s.handOut ctx (some x)) n := by
  rw [handOut_eq]
  refine ⟨?_, hh.pending, ?_, ?_, hh.live⟩
  · intro f hf
    simp only [Option.map_some, Option.toList_some, List.mem_append, List.mem_singleton] at hf
    rcases hf with hf | rfl
    · exact hh.flights f hf
    · exact hc
  · have := hh.counted
    simp only [tracker_mk, manager_tracker, Option.map_some, Option.toList_some, List.length_append,
      List.length_singleton] at this ⊢
    omega
  · intro ho
    have := hh.exact ho
    simp only [tracker_mk, manager_tracker, Option.map_some, Option.toList_some, List.length_append,
      List.length_singleton] at this ⊢
    omega

theorem fold (hh : Holding s 1) {q : Pending} (hq : s.tracker.current = some (q.ctx.id, q.ctx)) :
    Holding (s.fold q) 0 := by
  have hc : s.tracker.isCurrent q.ctx.id = true := (Tracker.isCurrent_iff _ _).2 ⟨_, hq⟩
  have hpos : 1 ≤ s.tracker.inFlight := by
    have := hh.counted
    omega
  cases ha : Manager.account s.tracker q.report q.next with
  | none =>
    -- the handler panicked: the unit stays counted and is never folded
    rw [fold_overflow s q hc ha]
    refine ⟨hh.flights, hh.pending, ?_, (fun h => by cases h), hh.live⟩
    have := hh.counted
    simp only [tracker_mk, manager_tracker] at this ⊢
    omega
  | some res =>
    obtain ⟨t, nx, done⟩ := res
    have hs := Manager.account_settled ha
    have hin : t.inFlight = s.tracker.inFlight - 1 + (if nx.isSome then 1 else 0) := hs.inFlight
    rw [fold_some s q hc ha]
    cases done with
    | none =>
      have hcur : t.current = s.tracker.current := by simpa using hs.current
      have hlive : t.inFlight ≠ 0 := fun h => absurd (hs.ended.2 h) (by simp)
      -- the fold is a step of `setTracker` then `handOut`, so it reuses `handOut`
      have hset : Holding { s.setTracker t with folded := s.folded ++ [(q.ctx.id, q.report)] }
          (if nx.isSome then 1 else 0) := by
        refine ⟨?_, ?_, ?_, ?_, ?_⟩
        · intro f hf
          simpa [hcur] using hh.flights f hf
        · intro p hp
          simpa [hcur] using hh.pending p hp
        · have := hh.counted
          simp only [tracker_mk, setTracker] at this ⊢
          omega
        · intro ho
          have := hh.exact ho
          simp only [tracker_mk, setTracker] at this ⊢
          omega
        · intro _
          simp only [tracker_mk, setTracker]
          omega
      cases nx with
      | none => simpa [handOut_eq] using hset
      | some x =>
        have := hset.handOut (by simpa [hcur] using hq) x
        simpa [handOut_eq] using this
    | some e =>
      -- nothing is left in flight, so no flight and no completion is left either
      have h0 : t.inFlight = 0 := hs.ended.1 rfl
      have hcur : t.current = none := by simpa using hs.current
      have hempty : s.flights.length + s.pending.length + (if nx.isSome then 1 else 0) = 0 := by
        have := hh.counted
        omega
      have hf : s.flights = [] := List.eq_nil_of_length_eq_zero (by omega)
      have hp : s.pending = [] := List.eq_nil_of_length_eq_zero (by omega)
      have hnx : nx = none := by
        cases nx with
        | none => rfl
        | some x => simp at hempty
      subst hnx
      refine ⟨?_, ?_, ?_, ?_, ?_⟩
      · intro f hf'
        simp [hf] at hf'
      · intro p hp'
        simp [hp] at hp'
      · simp [hf, hp, h0]
      · intro _
        simp [hf, hp, h0]
      · intro h
        simp [hcur] at h

theorem begin (hh : Holding s 0) (hp : s.pool ≠ []) (c : UnitCriteria) : Holding (s.begin c) 0 := by
  by_cases he : c.workItems = []
  · rw [begin_empty s c he]
    exact hh.congr rfl rfl rfl rfl rfl
  · cases hb : s.tracker.isInProgress with
    | true =>
      rw [begin_busy s c he hb]
      exact hh
    | false =>
      -- nothing was served, so no flight and no completion was left
      obtain ⟨hf, hq⟩ := hh.idle hb
      have hlen : 0 < (s.pool.zip c.workItems).length := by
        have h₁ : 0 < s.pool.length := List.length_pos_iff.2 hp
        have h₂ : 0 < c.workItems.length := List.length_pos_iff.2 he
        rw [List.length_zip]
        omega
      rw [begin_new s c he hb]
      refine ⟨?_, ?_, ?_, ?_, ?_⟩
      · intro f hf'
        simp only [hf, List.nil_append, List.mem_map] at hf'
        obtain ⟨x, -, rfl⟩ := hf'
        simp
      · intro q hq'
        simp [hq] at hq'
      · simp [hf, hq]
      · intro _
        simp [hf, hq]
      · intro _
        simpa using hlen

theorem retry (hh : Holding s 1) {f : Flight} (hc : s.tracker.current = some (f.ctx.id, f.ctx))
    (r : Option Nat) (e : Error) : Holding (s.retry f r e) 0 := by
  have hcur : s.tracker.isCurrent f.ctx.id = true := (Tracker.isCurrent_iff _ _).2 ⟨_, hc⟩
  -- the retry only changes the queue before the unit is handed on or folded
  have hre : Holding (s.retrying f r) 1 := hh.congr rfl rfl rfl rfl rfl
  cases hr : s.tracker.retried f.item s.manager.retryLimit r with
  | some next =>
    rw [retry_handed s f r e hcur hr]
    exact hre.handOut hc next
  | none =>
    rw [retry_givenUp s f r e hcur hr]
    -- the failure is logged and the unit recorded as given up before the fold
    have hlog : Holding (s.givingUp f r e) 1 := hre.congr rfl rfl rfl rfl rfl
    exact hlog.fold hc

theorem report (hh : Holding s 1) {ctx : Context} (hc : s.tracker.current = some (ctx.id, ctx))
    (p : Nat) (r : Report) (u : Option WorkItem) : Holding (s.report p ctx.id r u) 0 := by
  have hx : s.tracker.context ctx.id = some ctx := (Tracker.context_eq_some _ _ _).2 hc
  rw [report_current s p ctx.id r u hx]
  refine ⟨?_, ?_, ?_, ?_, ?_⟩
  · intro f hf
    simpa [successor_snd] using hh.flights f (by simpa [successor_snd] using hf)
  · intro q hq
    simp only [List.mem_append, List.mem_singleton] at hq
    rcases hq with hq | rfl
    · simpa [successor_snd] using hh.pending q hq
    · simpa [successor_snd] using hc
  · have := hh.counted
    simp only [successor_snd, tracker_mk, manager_tracker, setPool, List.length_append,
      List.length_singleton] at this ⊢
    omega
  · intro ho
    have := hh.exact (by simpa [successor_snd] using ho)
    simp only [successor_snd, tracker_mk, manager_tracker, setPool, List.length_append,
      List.length_singleton] at this ⊢
    omega
  · intro h
    simpa [successor_snd] using hh.live (by simpa [successor_snd] using h)

theorem step (hh : Holding s 0) (hp : s.pool ≠ []) (hs : Step s s') (hr : s'.rogue = false) :
    Holding s' 0 := by
  cases hs with
  | begin pre post c _ =>
    have hcall : Holding { s with serves := pre ++ post } 0 := hh.congr rfl rfl rfl rfl rfl
    exact hcall.begin hp c
  | accept pre post f h _ => exact hh.congr (by rw [h]; simp) rfl rfl rfl rfl
  | refuse pre post f e h _ =>
    exact hh.congr (by rw [h]; simp) (by simp [replace_snd]) (by simp [replace_snd])
      (by simp [replace_snd]) (by simp [replace_snd])
  | retry pre post f r e h _ =>
    exact (hh.take_flight h).retry (hh.flights f (by simp [h])) r e
  | complete pre post f r h _ _ =>
    exact (hh.take_flight h).report (hh.flights f (by simp [h])) f.proxy r (some f.item)
  | stray p id r _ =>
    have := (report_flags { s with rogue := true } p id r none).1
    simp [this] at hr
  | strayEvent id e _ => simp at hr
  | fold pre post q h => exact (hh.take_pending h).fold (hh.pending q (by simp [h]))
  | forward pre post p j _ =>
    unfold forward
    split
    · exact hh.congr (tell_ctx _ _ _) rfl rfl rfl rfl
    · exact hh.congr rfl rfl rfl rfl rfl
  | stop k _ =>
    rw [stop_eq]
    split
    · exact hh.congr rfl rfl (by simp) (by simp) rfl
    · exact hh
  | act pre post p k _ => exact hh.congr (tell_ctx _ _ _) rfl rfl rfl rfl
  | close =>
    rw [close_eq]
    exact hh.congr rfl rfl (by simp) (by simp) rfl
  | resize level =>
    obtain ⟨ps, made, closed, h⟩ := resize_frame s level
    rw [h]
    exact hh.congr rfl rfl rfl rfl rfl
  | call | unready | relay | closeNext => exact hh.congr rfl rfl rfl rfl rfl

end Holding

theorem holding_reachable {s : Flow} (h : Reachable s) (hr : s.rogue = false) : Holding s 0 := by
  induction h with
  | init discovers shared level limit => exact Holding.init discovers shared level limit
  | step hreach hs ih => exact (ih (hs.flags_before.1 hr)).step hreach.pool_ne_nil hs hr

/-! ## Nothing after the completion -/

theorem eventsOf_of_out {s s' : Flow} {extra : List (Option Nat × CallerEvent)}
    (ho : s'.out = s.out ++ extra) (id : Nat) : s'.eventsOf id = s.eventsOf id ++ tagged id extra := by
  simp [eventsOf, ho]

def Quiet (s : Flow) : Prop :=
  ∀ id, s.completions id ≠ [] → ∃ pre e, s.eventsOf id = pre ++ [e] ∧ e.isCompletion = true

theorem Quiet.init (discovers shared : Bool) (level limit : Nat) :
    Quiet (Flow.init discovers shared level limit) := by
  intro id h
  simp [Flow.init, completions, eventsOf] at h

theorem tagged_of_unserved {s s' : Flow} {extra : List (Option Nat × CallerEvent)}
    (hx : ∀ d ∈ extra, Partial s s' d) (hr : s'.rogue = false)
    (hw : ∀ f ∈ s.flights, s.tracker.isCurrent f.ctx.id = true) {id : Nat}
    (hid : s.tracker.isCurrent id = false) : tagged id extra = [] := by
  rw [tagged, List.filterMap_eq_nil_iff]
  intro d hd
  by_cases h : d.1 = some id
  · exfalso
    rcases hx d hd with h' | ⟨-, hr' | ⟨j, hj, hwork⟩⟩
    · simp [h] at h'
    · simp [hr] at hr'
    · have hji : j = id := Option.some.inj (hj.symm.trans h)
      subst hji
      rcases hwork with hc | ⟨f, hf, rfl⟩
      · simp [hc] at hid
      · simp [hw f hf] at hid
  · simp [h]

theorem Quiet.moves {s s' : Flow} (hq : Quiet s) (hn : Numbered s)
    (hw : ∀ f ∈ s.flights, s.tracker.isCurrent f.ctx.id = true) (hr : s'.rogue = false)
    (hm : Moves s s') : Quiet s' := by
  intro id hid
  cases hm with
  | stays extra hc hl ho hx =>
    -- a request reported before is not served, so the stretch tells it nothing
    have hcomp : s'.completions id = s.completions id := by
      rw [completions_of_out ho, tagged_partial hx, List.append_nil]
    have hserved := hn.not_served (hcomp ▸ hid)
    rw [eventsOf_of_out ho, tagged_of_unserved hx hr hw hserved, List.append_nil]
    exact hq id (hcomp ▸ hid)
  | opens c hc hc' hl ho =>
    have hev : s'.eventsOf id = s.eventsOf id := by simp [eventsOf, ho]
    have hcomp : s'.completions id = s.completions id := by simp [completions, hev]
    rw [hev]
    exact hq id (hcomp ▸ hid)
  | ends id₀ ctx extra e hc hc' hl ho hx he =>
    rw [List.append_assoc] at ho
    by_cases h : id₀ = id
    · -- the request that ends: its completion is its last event
      subst h
      refine ⟨s.eventsOf id₀ ++ extra, e, ?_, he⟩
      simp [eventsOf_of_out ho]
    · have hne : ¬ some id₀ = some id := fun h' => h (Option.some.inj h')
      have hev : s'.eventsOf id = s.eventsOf id := by
        simp [eventsOf_of_out ho, h, hne]
      have hcomp : s'.completions id = s.completions id := by simp [completions, hev]
      rw [hev]
      exact hq id (hcomp ▸ hid)

theorem quiet_reachable {s : Flow} (h : Reachable s) (hr : s.rogue = false) : Quiet s := by
  induction h with
  | init discovers shared level limit => exact Quiet.init discovers shared level limit
  | step hreach hs ih =>
    have hr₀ := hs.flags_before.1 hr
    have hh := holding_reachable hreach hr₀
    have hw : ∀ f ∈ _, _ := fun f hf => (Tracker.isCurrent_iff _ _).2 ⟨f.ctx, hh.flights f hf⟩
    exact (ih hr₀).moves (numbered_reachable hreach) hw hr (step_moves hs)

/-! ## Each request is reported once -/

theorem unserved_of_reported {s s' : Flow} (hm : Moves s s') {id : Nat} (h₀ : s.completions id = [])
    (h₁ : s'.completions id ≠ []) : s'.tracker.isInProgress = false := by
  cases hm with
  | stays extra hc hl ho hx =>
    rw [completions_of_out ho, tagged_partial hx, List.append_nil] at h₁
    exact absurd h₀ h₁
  | opens c hc hc' hl ho =>
    have : s'.completions id = s.completions id := by simp [completions, eventsOf, ho]
    exact absurd h₀ (this ▸ h₁)
  | ends id₀ ctx extra e hc hc' hl ho hx he => simp [Tracker.isInProgress, hc']

theorem unit_out_of_served {s : Flow} (hh : Holding s 0) (ho : s.overflowed = false) {id : Nat}
    (hc : s.tracker.isCurrent id = true) :
    (∃ f ∈ s.flights, f.ctx.id = id) ∨ ∃ q ∈ s.pending, q.ctx.id = id := by
  obtain ⟨ctx, hcur⟩ := (Tracker.isCurrent_iff _ _).1 hc
  have hpos : 0 < s.flights.length + s.pending.length := by
    have hlive := hh.live (by simp [hcur])
    have hexact := hh.exact ho
    omega
  cases hf : s.flights with
  | cons f rest =>
    have hfc := hh.flights f (by simp [hf])
    rw [hcur] at hfc
    exact Or.inl ⟨f, by simp, (Prod.mk.inj (Option.some.inj hfc)).1.symm⟩
  | nil =>
    cases hq : s.pending with
    | cons q rest =>
      have hqc := hh.pending q (by simp [hq])
      rw [hcur] at hqc
      exact Or.inr ⟨q, by simp, (Prod.mk.inj (Option.some.inj hqc)).1.symm⟩
    | nil => simp [hf, hq] at hpos

/-- Each request is reported at most once, and exactly when it stops being served; the stretch
that reports it leaves no request in progress. When no proxy misbehaves, nothing of a request
reaches the caller after its completion; when moreover no fold overflows, a request not yet
reported still has a unit with a proxy or a completion waiting to be folded, so that once every
task is done every request begun was reported exactly once. A call without units is reported at
once with the empty completion and leaves the bookkeeping as it was. -/
theorem request_reported_once {s : Flow} (h : Reachable s) :
    (∀ id, (s.completions id).length ≤ 1) ∧
    (∀ id, 1 ≤ id → id ≤ s.tracker.lastId →
      (s.completions id ≠ [] ↔ s.tracker.isCurrent id = false)) ∧
    (∀ s' id, Step s s' → s.completions id = [] → s'.completions id ≠ [] →
      s'.tracker.isInProgress = false) ∧
    (s.rogue = false → ∀ id, s.completions id ≠ [] →
      ∃ pre e, s.eventsOf id = pre ++ [e] ∧ e.isCompletion = true ∧ ∀ d ∈ pre, d.isCompletion = false) ∧
    (s.rogue = false → s.overflowed = false → ∀ id, s.tracker.isCurrent id = true →
      (∃ f ∈ s.flights, f.ctx.id = id) ∨ ∃ q ∈ s.pending, q.ctx.id = id) ∧
    (s.rogue = false → s.overflowed = false → s.flights = [] → s.pending = [] →
      ∀ id, 1 ≤ id → id ≤ s.tracker.lastId → (s.completions id).length = 1) ∧
    (∀ c, c.workItems = [] →
      (s.begin c).out = s.out ++ [(none, Manager.emptyCompletion c)] ∧ (s.begin c).tracker = s.tracker) := by
  have hn := numbered_reachable h
  refine ⟨hn.once, hn.reported, ?_, ?_, ?_, ?_, ?_⟩
  · intro s' id hs h₀ h₁
    exact unserved_of_reported (step_moves hs) h₀ h₁
  · intro hr id hid
    obtain ⟨pre, e, hev, he⟩ := quiet_reachable h hr id hid
    refine ⟨pre, e, hev, he, ?_⟩
    -- the completion is the only one, so none comes before it
    have hpre : pre.filter (·.isCompletion) = [] := by
      have hlen := hn.once id
      simp only [completions, hev, List.filter_append, List.filter_cons, he, if_true,
        List.filter_nil, List.length_append, List.length_singleton] at hlen
      exact List.eq_nil_of_length_eq_zero (by omega)
    intro d hd
    cases hdc : d.isCompletion with
    | false => rfl
    | true =>
      have : d ∈ pre.filter (·.isCompletion) := List.mem_filter.2 ⟨hd, hdc⟩
      simp [hpre] at this
  · intro hr ho id hc
    exact unit_out_of_served (holding_reachable h hr) ho hc
  · intro hr ho hf hq id h₁ h₂
    -- with nothing out, nothing is served any more
    have hh := holding_reachable h hr
    have hcur : s.tracker.current = none := by
      cases hc : s.tracker.current with
      | none => rfl
      | some p =>
        have hpos := hh.live (by simp [hc])
        have hzero := hh.exact ho
        simp [hf, hq] at hzero
        omega
    have hrep := (hn.reported id h₁ h₂).2 (Tracker.isCurrent_none hcur id)
    have hle := hn.once id
    have hpos : 0 < (s.completions id).length := List.length_pos_iff.2 hrep
    omega
  · intro c hc
    rw [begin_empty s c hc]
    exact ⟨rfl, rfl⟩

def abSources : UnitCriteria := .discovery (DiscoveryCriteria.new ["a.dll", "b.dll"])

def abUnit (p : Nat) (src : String) : Flight := ⟨p, ⟨1, abSources⟩, .source src, .offered, []⟩

def abDone (p : Nat) (src : String) : Pending :=
  ⟨⟨1, abSources⟩, .discovery 2 none false, some p, some (.source src)⟩

/-- A fresh manager with two proxies discovers two sources: each proxy accepts its unit and
completes it, and the two completions are folded. -/
def twoFound : Flow :=
  let s₁ : Flow := { Flow.init true true 2 1 with serves := [abSources] }
  let s₂ := { s₁ with serves := [] }.begin abSources
  let s₃ : Flow := { s₂ with flights := [{ abUnit 0 "a.dll" with stage := .busy }, abUnit 1 "b.dll"],
                             forwards := s₂.forwards ++ [(0, 1)], accepted := s₂.accepted ++ [(1, .source "a.dll")] }
  let s₄ : Flow := { s₃ with flights := [{ abUnit 0 "a.dll" with stage := .busy }] ++
                               [{ abUnit 1 "b.dll" with stage := .busy }],
                             forwards := s₃.forwards ++ [(1, 1)], accepted := s₃.accepted ++ [(1, .source "b.dll")] }
  let s₅ := { s₄ with flights := [] ++ [{ abUnit 1 "b.dll" with stage := .busy }] }.report 0 1
    (.discovery 2 none false) (some (.source "a.dll"))
  let s₆ := { s₅ with flights := [] ++ [] }.report 1 1 (.discovery 2 none false) (some (.source "b.dll"))
  let s₇ := { s₆ with pending := [] ++ [abDone 1 "b.dll"] }.fold (abDone 0 "a.dll")
  { s₇ with pending := [] ++ [] }.fold (abDone 1 "b.dll")

theorem twoFound_reachable : Reachable twoFound := by
  have h₁ := (Reachable.init true true 2 1).step (.call _ abSources rfl rfl)
  have h₂ := h₁.step (.begin _ [] [] abSources rfl)
  have h₃ := h₂.step (.accept _ [] [abUnit 1 "b.dll"] (abUnit 0 "a.dll") rfl rfl)
  have h₄ := h₃.step (.accept _ [{ abUnit 0 "a.dll" with stage := .busy }] [] (abUnit 1 "b.dll") rfl rfl)
  have h₅ := h₄.step (.complete _ [] _ _ (.discovery 2 none false) rfl rfl rfl)
  have h₆ := h₅.step (.complete _ [] [] _ (.discovery 2 none false) rfl rfl rfl)
  have h₇ := h₆.step (.fold _ [] [abDone 1 "b.dll"] _ rfl)
  exact h₇.step (.fold _ [] [] _ rfl)

/-- Once both completions are folded, the discovery is reported exactly once, as the last thing
the caller hears of it. -/
theorem twoFound_reported_once :
    Reachable twoFound ∧ twoFound.flights = [] ∧ twoFound.pending = [] ∧ (twoFound.completions 1).length = 1 ∧
      ∃ pre e, twoFound.eventsOf 1 = pre ++ [e] ∧ e.isCompletion = true ∧ ∀ d ∈ pre, d.isCompletion = false := by
  have h := request_reported_once twoFound_reachable
  have hlast : 1 ≤ twoFound.tracker.lastId := by decide
  have hone := h.2.2.2.2.2.1 rfl rfl rfl rfl 1 (Nat.le_refl 1) hlast
  refine ⟨twoFound_reachable, rfl, rfl, hone, h.2.2.2.1 rfl 1 ?_⟩
  rw [← List.length_pos_iff, hone]
  exact Nat.one_pos

end Flow

end TestConductor
