import TestConductor.Proofs.Parallel.Owners
import Mathlib.Logic.Relation
/-! # Bounded parallelism

A manager never counts more units in flight than its pool has proxies. This holds in every run,
whatever the proxies do: only the start of a request sets the count, to one unit per proxy at
most, and finishing a unit hands out at most the one next unit in its place. Between requests
nothing is counted, so a resize never leaves the count above the new pool.
-/
namespace TestConductor

namespace Flow

theorem holders_length {s : Flow} (hf : ∀ f ∈ s.flights, f.holder.isSome)
    (hq : ∀ q ∈ s.pending, q.next.isSome) :
    s.holders.length = s.flights.length + s.pending.length := by
  rw [holders, List.length_append, List.filterMap_length_eq_length.2 hf,
    List.filterMap_length_eq_length.2 hq]

theorem mem_holders_of_flight {s : Flow} {f : Flight} {p : Nat} (hf : f ∈ s.flights)
    (hp : f.holder = some p) : p ∈ s.holders :=
  List.mem_append_left _ (List.mem_filterMap.2 ⟨f, hf, hp⟩)

end Flow

open TestConductor.Flow

theorem Step.offered_kept_or_pool {s s' : Flow} (hs : Step s s') {f : Flight} (hf : f ∈ s'.flights)
    (ho : f.stage = .offered) : f ∈ s.flights ∨ s'.pool = s.pool := by
  cases hs with
  | refuse pre post g e h _ =>
    -- the refused unit is no longer offered, and the others were there before
    left
    simp only [List.mem_append, List.mem_cons] at hf
    rcases hf with hf | rfl | hf
    · simp [h, hf]
    · simp at ho
    · simp [h, hf]
  | complete pre post g r h _ _ =>
    obtain ⟨ps, made, cl, o, pe, hr, -⟩ :=
      report_frame { s with flights := pre ++ post } g.proxy g.ctx.id r (some g.item)
    rw [hr] at hf
    exact .inl (mem_of_mem_split h hf)
  | stray p id r _ =>
    obtain ⟨ps, made, cl, o, pe, hr, -⟩ := report_frame { s with rogue := true } p id r none
    rw [hr] at hf
    exact .inl hf
  | resize level =>
    obtain ⟨ps, made, closed, hr⟩ := resize_frame s level
    rw [hr] at hf
    exact .inl hf
  | begin pre post c _ =>
    obtain ⟨t, fl, bg, hd, o, hr⟩ := begin_frame { s with serves := pre ++ post } c
    exact .inr (by rw [hr]; rfl)
  | retry pre post g r e _ _ =>
    obtain ⟨t, fl, hd, mg, gu, fo, o, u, ov, hr⟩ := retry_frame { s with flights := pre ++ post } g r e
    exact .inr (by rw [hr]; rfl)
  | fold pre post q _ =>
    obtain ⟨t, fl, hd, fo, o, u, ov, hr⟩ := fold_frame { s with pending := pre ++ post } q
    exact .inr (by rw [hr]; rfl)
  | forward pre post p j _ =>
    unfold Flow.forward
    split <;> exact .inr rfl
  | stop k _ =>
    rw [stop_eq]
    split <;> exact .inr rfl
  | close => exact .inr (by rw [close_eq]; rfl)
  | call | unready | accept | relay | strayEvent | act | closeNext => exact .inr rfl

/-- The count of units in flight, bounded by the pool, and nothing counted between requests. -/
structure Bounded (s : Flow) : Prop where
  idle : s.tracker.current = none → s.tracker.inFlight = 0
  le_pool : s.tracker.inFlight ≤ s.pool.length

namespace Bounded

variable {s s' : Flow}

theorem init (discovers shared : Bool) (level limit : Nat) :
    Bounded (Flow.init discovers shared level limit) where
  idle _ := rfl
  le_pool := Nat.zero_le _

theorem congr (hb : Bounded s) (hc : s'.tracker.current = s.tracker.current)
    (hi : s'.tracker.inFlight = s.tracker.inFlight) (hp : s'.pool.length = s.pool.length) : Bounded s' :=
  ⟨fun h => hi ▸ hb.idle (hc ▸ h), by rw [hi, hp]; exact hb.le_pool⟩

theorem fold (hb : Bounded s) (hp : s.pool ≠ []) (q : Pending) : Bounded (s.fold q) := by
  rcases fold_cases s q with h | h | ⟨ctx, t, nx, done, hcur, ha, h⟩ <;> rw [h]
  · exact hb
  · exact hb.congr rfl rfl rfl
  · have hst := Manager.account_settled ha
    have hpos : 0 < s.pool.length := List.length_pos_iff.2 hp
    refine ⟨fun hnone => ?_, ?_⟩
    · -- the request served stops being served only when the fold ends it
      have hdone : done.isSome = true := by
        have := hst.current
        simp only [setTracker, tracker_mk] at hnone
        cases hd : done.isSome <;> simp_all
      simpa using hst.ended.1 hdone
    · have hle := hb.le_pool
      have hin := hst.inFlight
      simp only [setTracker, tracker_mk, pool_mk, manager_pool_members] at hin ⊢
      split at hin <;> omega

theorem retry (hb : Bounded s) (hp : s.pool ≠ []) (f : Flight) (r : Option Nat) (e : Error) :
    Bounded (s.retry f r e) := by
  rcases retry_cases s f r e with h | ⟨ctx, next, -, -, h⟩ | ⟨ctx, -, -, h⟩ <;> rw [h]
  · exact hb
  · rw [handOut_eq]
    exact hb.congr rfl rfl rfl
  · exact (hb.congr rfl rfl rfl : Bounded (s.givingUp f r e)).fold hp _

theorem report (hb : Bounded s) (p id : Nat) (r : Report) (u : Option WorkItem) :
    Bounded (s.report p id r u) := by
  obtain ⟨ps, made, cl, o, pe, h, hlen⟩ := report_frame s p id r u
  rw [h]
  exact hb.congr rfl rfl hlen

theorem begin (hb : Bounded s) (c : UnitCriteria) : Bounded (s.begin c) := by
  by_cases he : c.workItems = []
  · rw [begin_empty s c he]
    exact hb.congr rfl rfl rfl
  · cases hip : s.tracker.isInProgress with
    | true =>
      rw [begin_busy s c he hip]
      exact hb
    | false =>
      rw [begin_new s c he hip]
      refine ⟨fun h => by simp at h, ?_⟩
      simp only [setTracker, tracker_mk, pool_mk, List.length_zip]
      exact Nat.min_le_left _ _

theorem resize (hb : Bounded s) (level : Nat) : Bounded (s.resize level) := by
  unfold Flow.resize
  split
  · exact hb
  · rename_i hip
    have h0 : s.tracker.inFlight = 0 := hb.idle (by simpa [Tracker.isInProgress] using hip)
    dsimp only
    split <;> exact ⟨fun _ => h0, by simp [h0]⟩

theorem step (hb : Bounded s) (hp : s.pool ≠ []) (hs : Step s s') : Bounded s' := by
  cases hs with
  | begin pre post c _ => exact (hb.congr rfl rfl rfl : Bounded { s with serves := pre ++ post }).begin c
  | refuse pre post f e _ _ =>
    refine hb.congr (by simp [replace_snd]) (by simp [replace_snd]) ?_
    simp only [replace_snd, pool_mk, setPool]
    split <;> simp [Pool.swap]
  | retry pre post f r e _ _ => exact (hb.congr rfl rfl rfl : Bounded { s with flights := pre ++ post }).retry hp f r e
  | complete pre post f r _ _ _ =>
    exact (hb.congr rfl rfl rfl : Bounded { s with flights := pre ++ post }).report f.proxy f.ctx.id r (some f.item)
  | stray p id r _ => exact (hb.congr rfl rfl rfl : Bounded { s with rogue := true }).report p id r none
  | fold pre post q _ => exact (hb.congr rfl rfl rfl : Bounded { s with pending := pre ++ post }).fold hp q
  | forward pre post p j _ =>
    unfold Flow.forward
    split <;> exact hb.congr rfl rfl rfl
  | stop k _ =>
    rw [stop_eq]
    split
    · exact hb.congr (by simp) (by simp) rfl
    · exact hb
  | close =>
    rw [close_eq]
    exact hb.congr (by simp) (by simp) rfl
  | resize level => exact hb.resize level
  | call | unready | accept | relay | strayEvent | act | closeNext => exact hb.congr rfl rfl rfl

end Bounded

theorem bounded_reachable {s : Flow} (h : Reachable s) : Bounded s := by
  induction h with
  | init discovers shared level limit => exact Bounded.init discovers shared level limit
  | step hreach hs ih => exact ih.step hreach.pool_ne_nil hs

namespace Owned

variable {s : Flow}

theorem nodup (ho : Owned s) : s.holders.Nodup :=
  List.nodup_iff_count.2 ho.single

theorem length_le_pool (ho : Owned s) : s.flights.length + s.pending.length ≤ s.pool.length := by
  rw [← holders_length ho.replaced ho.chosen]
  exact ho.nodup.length_le_of_subset ho.pooled

theorem offered_pooled (ho : Owned s) {f : Flight} (hf : f ∈ s.flights) (hs : f.stage = .offered) :
    f.proxy ∈ s.pool :=
  ho.pooled _ (mem_holders_of_flight hf (by simp [Flight.holder, hs]))

end Owned

/-- A unit offered after an honest step was offered to a proxy of the pool as it stood before
the step: a unit offered before is still held by its proxy of the pool, and a step that offers
a new one leaves the pool alone. -/
theorem Step.offered_pooled {s s' : Flow} (h : Reachable s) (hs : Step s s') (hr : s'.rogue = false)
    {f : Flight} (hf : f ∈ s'.flights) (ho : f.stage = .offered) : f.proxy ∈ s.pool := by
  have hr₀ := hs.flags_before.1 hr
  rcases hs.offered_kept_or_pool hf ho with hold | hpool
  · exact (owned_reachable h hr₀).offered_pooled hold ho
  · rw [← hpool]
    exact (owned_reachable (h.step hs) hr).offered_pooled hf ho

/-! ## Resizes that race a request

A resize checks that no request is served and changes the pool in stretches of its own, so a
request may begin in between and the change land while it is served. A call reads the pool
before it begins its request, which comes to the same: the request begins with the pool as it
was, and the change lands after. Within a request the count in flight never grows, so it stays
within the pool the request began with, though not within the pool as it stands. -/

namespace Flow

/-- Nothing is counted between requests, and a request served counts a unit in flight. -/
structure Counted (s : Flow) : Prop where
  idle : s.tracker.current = none → s.tracker.inFlight = 0
  live : s.tracker.current.isSome = true → 0 < s.tracker.inFlight

namespace Counted

variable {s s' : Flow}

theorem init (discovers shared : Bool) (level limit : Nat) : Counted (Flow.init discovers shared level limit) where
  idle _ := rfl
  live h := by simp [Flow.init, Flow.tracker, Tracker.new] at h

theorem congr (hc : Counted s) (hcur : s'.tracker.current = s.tracker.current)
    (hi : s'.tracker.inFlight = s.tracker.inFlight) : Counted s' :=
  ⟨fun h => hi ▸ hc.idle (hcur ▸ h), fun h => hi ▸ hc.live (hcur ▸ h)⟩

theorem fold (hc : Counted s) (q : Pending) : Counted (s.fold q) := by
  rcases fold_cases s q with h | h | ⟨ctx, t, nx, done, hq, ha, h⟩ <;> rw [h]
  · exact hc
  · exact hc.congr rfl rfl
  · have hst := Manager.account_settled ha
    have hcur := hst.current
    refine ⟨fun hn => ?_, fun hl => ?_⟩
    · simp only [setTracker, tracker_mk] at hn ⊢
      cases hd : done.isSome
      · -- a fold that does not end the request leaves it served
        rw [hd, if_neg Bool.false_ne_true, hq] at hcur
        rw [hcur] at hn
        cases hn
      · exact hst.ended.1 hd
    · simp only [setTracker, tracker_mk] at hl ⊢
      refine Nat.pos_of_ne_zero fun h0 => ?_
      rw [hst.ended.2 h0, if_pos rfl] at hcur
      simp [hcur] at hl

theorem begin (hc : Counted s) (hp : s.pool ≠ []) (c : UnitCriteria) : Counted (s.begin c) := by
  by_cases he : c.workItems = []
  · rw [begin_empty s c he]
    exact hc.congr rfl rfl
  · cases hb : s.tracker.isInProgress with
    | true =>
      rw [begin_busy s c he hb]
      exact hc
    | false =>
      have hlen : 0 < (s.pool.zip c.workItems).length := by
        rw [List.length_zip]
        have h₁ := List.length_pos_iff.2 hp
        have h₂ := List.length_pos_iff.2 he
        omega
      rw [begin_new s c he hb]
      exact ⟨fun h => by simp at h, fun _ => by simpa using hlen⟩

end Counted

theorem fold_inFlight_le (s : Flow) (q : Pending) (hc : Counted s) :
    (s.fold q).tracker.inFlight ≤ s.tracker.inFlight := by
  rcases fold_cases s q with h | h | ⟨ctx, t, nx, done, hcur, ha, h⟩
  · have e := congrArg (fun x : Flow => x.tracker.inFlight) h
    exact Nat.le_of_eq e
  · have e := congrArg (fun x : Flow => x.tracker.inFlight) h
    exact Nat.le_of_eq e
  · rw [h]
    have hpos := hc.live (by simp [hcur])
    have hin := (Manager.account_settled ha).inFlight
    simp only [setTracker, tracker_mk] at hin ⊢
    split at hin <;> omega

end Flow

theorem Step.count_cases {s s' : Flow} (hs : Step s s') :
    (s'.tracker.current = s.tracker.current ∧ s'.tracker.inFlight = s.tracker.inFlight) ∨
    (∃ pre post c, s.serves = pre ++ c :: post ∧ s' = { s with serves := pre ++ post }.begin c) ∨
    ∃ (s₁ : Flow) (q : Pending), s₁.tracker.current = s.tracker.current ∧
      s₁.tracker.inFlight = s.tracker.inFlight ∧ s₁.pool = s.pool ∧ s' = s₁.fold q := by
  cases hs with
  | begin pre post c h => exact .inr (.inl ⟨pre, post, c, h, rfl⟩)
  | fold pre post q _ => exact .inr (.inr ⟨{ s with pending := pre ++ post }, q, rfl, rfl, rfl, rfl⟩)
  | retry pre post f r e _ _ =>
    rcases Flow.retry_cases { s with flights := pre ++ post } f r e with h | ⟨ctx, next, -, -, h⟩ | ⟨ctx, -, -, h⟩
    · exact .inl (by rw [h]; exact ⟨rfl, rfl⟩)
    · exact .inl (by rw [h, Flow.handOut_eq]; exact ⟨rfl, rfl⟩)
    · exact .inr (.inr ⟨Flow.givingUp { s with flights := pre ++ post } f r e, _, rfl, rfl, rfl, h⟩)
  | refuse pre post f e _ _ => exact .inl (by simp [Flow.replace_snd])
  | complete pre post f r _ _ _ =>
    obtain ⟨ps, made, cl, o, pe, h, -⟩ :=
      Flow.report_frame { s with flights := pre ++ post } f.proxy f.ctx.id r (some f.item)
    exact .inl (by rw [h]; exact ⟨rfl, rfl⟩)
  | stray p id r _ =>
    obtain ⟨ps, made, cl, o, pe, h, -⟩ := Flow.report_frame { s with rogue := true } p id r none
    exact .inl (by rw [h]; exact ⟨rfl, rfl⟩)
  | forward pre post p j _ =>
    unfold Flow.forward
    split <;> exact .inl ⟨rfl, rfl⟩
  | stop k _ =>
    rw [Flow.stop_eq]
    split
    · exact .inl (by simp)
    · exact .inl ⟨rfl, rfl⟩
  | close => exact .inl (by rw [Flow.close_eq]; simp)
  | resize level =>
    obtain ⟨ps, made, closed, h⟩ := Flow.resize_frame s level
    exact .inl (by rw [h]; exact ⟨rfl, rfl⟩)
  | call | unready | accept | relay | strayEvent | act | closeNext => exact .inl ⟨rfl, rfl⟩

theorem Step.counted {s s' : Flow} (hs : Step s s') (hc : Flow.Counted s) (hp : s.pool ≠ []) : Flow.Counted s' := by
  rcases hs.count_cases with ⟨hcur, hi⟩ | ⟨pre, post, c, -, rfl⟩ | ⟨s₁, q, hcur, hi, hpool, rfl⟩
  · exact hc.congr hcur hi
  · exact (hc.congr rfl rfl : Flow.Counted { s with serves := pre ++ post }).begin hp c
  · exact (hc.congr hcur hi).fold q

theorem Step.inFlight_le {s s' : Flow} (hs : Step s s') (hc : Flow.Counted s)
    (hcur : s'.tracker.current = s.tracker.current) : s'.tracker.inFlight ≤ s.tracker.inFlight := by
  rcases hs.count_cases with ⟨-, hi⟩ | ⟨pre, post, c, -, rfl⟩ | ⟨s₁, q, hcur₁, hi, -, rfl⟩
  · exact Nat.le_of_eq hi
  · -- a call that begins a new request changes the request served
    by_cases he : c.workItems = []
    · rw [Flow.begin_empty { s with serves := pre ++ post } c he]
      exact Nat.le_refl _
    · cases hb : s.tracker.isInProgress with
      | true =>
        rw [Flow.begin_busy { s with serves := pre ++ post } c he hb]
        exact Nat.le_refl _
      | false =>
        rw [Flow.begin_new { s with serves := pre ++ post } c he hb] at hcur
        simp [Tracker.isInProgress] at hb
        simp [hb] at hcur
  · exact hi ▸ Flow.fold_inFlight_le s₁ q (hc.congr hcur₁ hi)

/-- A manager with the resizes whose check has passed and whose change has not landed yet. -/
structure Racing where
  flow : Flow
  resizing : List Nat

/-- A step of the manager's tasks, or a stretch of a resize: its check, or its change landing. -/
inductive RacyStep : Racing → Racing → Prop where
  | step {r : Racing} {s' : Flow} (h : Step r.flow s') : RacyStep r ⟨s', r.resizing⟩
  | check (r : Racing) (level : Nat) (hp : r.flow.tracker.isInProgress = false) :
      RacyStep r ⟨r.flow, r.resizing ++ [level]⟩
  | land (r : Racing) (pre post : List Nat) (level : Nat) (h : r.resizing = pre ++ level :: post) :
      RacyStep r ⟨r.flow.land level, pre ++ post⟩

/-- The managers reached from their creation with resizes racing the requests. -/
inductive RacyReachable : Racing → Prop where
  | init (discovers shared : Bool) (level limit : Nat) :
      RacyReachable ⟨Flow.init discovers shared level limit, []⟩
  | step {r r' : Racing} : RacyReachable r → RacyStep r r' → RacyReachable r'

def RacyStep.Serving (r r' : Racing) : Prop :=
  RacyStep r r' ∧ r'.flow.tracker.current = r.flow.tracker.current

namespace RacyStep

variable {r r' : Racing}

theorem counted (hs : RacyStep r r') (hc : Flow.Counted r.flow) (hp : r.flow.pool ≠ []) :
    Flow.Counted r'.flow ∧ r'.flow.pool ≠ [] := by
  cases hs with
  | step h => exact ⟨h.counted hc hp, h.pool_ne_nil hp⟩
  | check => exact ⟨hc, hp⟩
  | land _ _ level _ =>
    obtain ⟨ps, made, closed, h⟩ := Flow.land_frame r.flow level
    exact ⟨by rw [h]; exact hc.congr rfl rfl, Flow.land_pool r.flow level hp⟩

theorem inFlight_le (hs : RacyStep r r') (hc : Flow.Counted r.flow)
    (hcur : r'.flow.tracker.current = r.flow.tracker.current) : r'.flow.tracker.inFlight ≤ r.flow.tracker.inFlight := by
  cases hs with
  | step h => exact h.inFlight_le hc hcur
  | check => exact Nat.le_refl _
  | land _ _ level _ =>
    obtain ⟨ps, made, closed, h⟩ := Flow.land_frame r.flow level
    simp only [h, tracker_mk]
    exact Nat.le_refl _

end RacyStep

theorem RacyReachable.counted {r : Racing} (h : RacyReachable r) : Flow.Counted r.flow ∧ r.flow.pool ≠ [] := by
  induction h with
  | init discovers shared level limit => exact ⟨.init discovers shared level limit, by simp [Flow.init, Flow.pool]⟩
  | step _ hs ih => exact hs.counted ih.1 ih.2

theorem serving_inFlight_le {r₀ r : Racing} (h₀ : RacyReachable r₀) (hrun : Relation.ReflTransGen RacyStep.Serving r₀ r) :
    RacyReachable r ∧ r.flow.tracker.inFlight ≤ r₀.flow.tracker.inFlight := by
  induction hrun with
  | refl => exact ⟨h₀, Nat.le_refl _⟩
  | tail _ hs ih =>
    obtain ⟨hr, hle⟩ := ih
    exact ⟨hr.step hs.1, Nat.le_trans (hs.1.inFlight_le hr.counted.1 hs.2) hle⟩

theorem RacyStep.begins_within_pool {r r' : Racing} (h : RacyReachable r) (hs : RacyStep r r')
    (hn : r.flow.tracker.current = none) : r'.flow.tracker.inFlight ≤ r'.flow.pool.length := by
  have h0 : r.flow.tracker.inFlight = 0 := h.counted.1.idle hn
  cases hs with
  | step hs =>
    have hb : Bounded r.flow := ⟨fun _ => h0, by rw [h0]; exact Nat.zero_le _⟩
    exact (hb.step h.counted.2 hs).le_pool
  | check => exact h0 ▸ Nat.zero_le _
  | land _ _ level _ =>
    obtain ⟨ps, made, closed, hl⟩ := Flow.land_frame r.flow level
    simp only [hl, tracker_mk]
    exact h0 ▸ Nat.zero_le _

/-- Bounded parallelism. When resizes land between requests, in every run, whatever the proxies
do, the count of units in flight never exceeds the size of the pool. In an honest run the units
in flight, those out with a proxy and the completions waiting to be folded with the proxy for
the next unit, are held by pairwise distinct proxies, all of the pool; they are as many as the
count says unless a fold overflowed, and never more than the pool holds; and every unit offered
after a step was offered to a proxy that was in the pool when the step was taken. So a proxy
kept for the next unit gets it only once the completion of its unit has been folded. When a
resize's change lands while a request is served, the request still never counts more units in
flight than the pool it began with had proxies, but the pool may now have fewer. -/
theorem parallelism_bounded (s : Flow) (r₀ r₁ r : Racing) :
    (Reachable s →
      s.tracker.inFlight ≤ s.pool.length ∧
      (s.rogue = false →
        s.holders.Nodup ∧ (∀ p ∈ s.holders, p ∈ s.pool) ∧
        s.holders.length = s.flights.length + s.pending.length ∧
        (s.overflowed = false → s.tracker.inFlight = s.holders.length) ∧
        s.flights.length + s.pending.length ≤ s.pool.length ∧
        (∀ s', Step s s' → s'.rogue = false → ∀ f ∈ s'.flights, f.stage = .offered → f.proxy ∈ s.pool))) ∧
    (RacyReachable r₀ → r₀.flow.tracker.current = none → RacyStep r₀ r₁ →
      Relation.ReflTransGen RacyStep.Serving r₁ r →
      r.flow.tracker.inFlight ≤ r₁.flow.tracker.inFlight ∧ r₁.flow.tracker.inFlight ≤ r₁.flow.pool.length) := by
  refine ⟨fun h => ?_, fun h₀ hn hs hrun => ?_⟩
  · refine ⟨(bounded_reachable h).le_pool, fun hr => ?_⟩
    have ho := owned_reachable h hr
    have hlen := holders_length ho.replaced ho.chosen
    refine ⟨ho.nodup, ho.pooled, hlen, fun hov => ?_, ho.length_le_pool,
      fun s' hs hr' f hf hoff => hs.offered_pooled h hr' hf hoff⟩
    rw [hlen]
    exact (holding_reachable h hr).exact hov
  · exact ⟨(serving_inFlight_le (h₀.step hs) hrun).2, hs.begins_within_pool h₀ hn⟩

def threeSources : UnitCriteria := .discovery (DiscoveryCriteria.new ["a.dll", "b.dll", "c.dll"])

/-- A fresh manager with two proxies begins a discovery of three sources: each proxy is offered
one, and the third waits in the queue. -/
def twoOffered : Flow :=
  let s₁ : Flow := { Flow.init true true 2 1 with serves := [threeSources] }
  { s₁ with serves := [] }.begin threeSources

/-- A resize to one proxy passed its check before the discovery began and lands while it is
served. -/
def resizeRaced : Racing := ⟨twoOffered.land 1, []⟩

/-- The resize lands with two units in flight: the pool is cut to one proxy, below the count,
which stays within the two proxies the request began with. -/
theorem resizeRaced_exceeds_pool :
    RacyReachable resizeRaced ∧ resizeRaced.flow.pool.length = 1 ∧ resizeRaced.flow.tracker.inFlight = 2 ∧
      resizeRaced.flow.tracker.inFlight ≤ twoOffered.pool.length := by
  have h₀ : RacyReachable ⟨{ Flow.init true true 2 1 with serves := [threeSources] }, [1]⟩ :=
    ((RacyReachable.init true true 2 1).step (.check _ 1 rfl)).step (.step (.call _ threeSources rfl rfl))
  have hbegin : RacyStep ⟨{ Flow.init true true 2 1 with serves := [threeSources] }, [1]⟩ ⟨twoOffered, [1]⟩ :=
    .step (.begin _ [] [] threeSources rfl)
  have hland : RacyStep.Serving ⟨twoOffered, [1]⟩ resizeRaced := ⟨.land _ [] [] 1 rfl, rfl⟩
  have hb := (parallelism_bounded twoOffered _ _ _).2 h₀ rfl hbegin (.single hland)
  exact ⟨(h₀.step hbegin).step hland.1, rfl, rfl, Nat.le_trans hb.1 hb.2⟩

end TestConductor
