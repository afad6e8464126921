import TestConductor.Proofs.Parallel.Parallelism
import TestConductor.Proofs.Proxy.Units
import TestConductor.Engine.Layout
import Mathlib.Logic.Function.Basic
import Mathlib.Logic.Relation
/-! # Pools of test-host proxies

A manager an engine makes over test-host proxies, as the flow of its tasks together with the
bookkeeping of every proxy made. Handing a unit over readies the proxy and claims it, and the
proxy refuses exactly when one of the two fails; a proxy ends its unit, completed or aborted,
before the manager hears of it; a proxy that leaves the pool is closed and one that joins it is
fresh. Meanwhile the hosts a proxy keeps come and go, and aborts are marked, without changing its
state.
-/
namespace TestConductor

def Report.ofCompletion : CallerEvent → Option Report
  | .discoveryComplete total chunk aborted => some (.discovery total chunk aborted)
  | .runComplete c chunk attachments metrics => some (.run c chunk attachments metrics)
  | _ => none

def UnitCriteria.fits (discovers : Bool) : UnitCriteria → Bool
  | .discovery _ => discovers
  | .run _ => !discovers

/-! ## The engine shares hosts only where the runtime allows it -/

namespace Engine

theorem discoveryLayout_shares (e : Engine) (sources : List String) :
    (e.discoveryLayout sources).shared = true → (e.runtimes.resolveFor sources).shared = true := by
  simp only [discoveryLayout, sharesHosts, Bool.and_eq_true]
  exact And.left

theorem executionLayout_shares (e : Engine) (c : RunCriteria) :
    (e.executionLayout c).shared = true → (e.runtimes.resolveFor c.sources).shared = true := by
  unfold executionLayout
  split
  · simp
  · simp only [sharesHosts, Bool.and_eq_true]
    exact And.left

end Engine

namespace Operation

def Alike (o o' : Operation) : Prop :=
  o'.runtime = o.runtime ∧ o'.accepts = o.accepts ∧ (o.state = .busy → o'.state = .busy)

theorem Alike.refl (o : Operation) : o.Alike o := ⟨rfl, rfl, id⟩

theorem accepts_congr {o o' : Operation} (hs : o'.state = o.state) (hr : o'.runtime = o.runtime) :
    o'.accepts = o.accepts := by
  simp only [accepts, isShared, hs, hr]

theorem Rehosted.alike {o o' : Operation} (h : o.Rehosted o') : o.Alike o' :=
  ⟨h.2.1, accepts_congr h.2.2 h.2.1, fun hb => h.2.2.trans hb⟩

theorem alike_readied (o : Operation) : o.Alike o.readied := by
  unfold readied
  split
  · rename_i hs
    exact ⟨rfl, by simp [accepts, hs], fun hb => absurd (hs.symm.trans hb) (by decide)⟩
  · exact Alike.refl o

theorem new_accepts (name : String) (runtime : HostConfig) : (Operation.new name runtime).accepts = true := rfl

theorem ended_completed {o : Operation} (hc : o.state ≠ .closed) : (o.ended false).state = .completed := by
  simp [ended, hc]

theorem ended_accepts {o : Operation} (hb : o.state = .busy) (hs : o.isShared = true) :
    (o.ended false).accepts = true := by
  simpa [ended, hb, accepts, isShared] using hs

end Operation

namespace Flow

def stages (s : Flow) : List (Nat × Stage) := s.flights.map fun f => (f.proxy, f.stage)

def Working (s : Flow) (p : Nat) : Prop := (p, Stage.busy) ∈ s.stages

theorem working_iff {s : Flow} {p : Nat} : s.Working p ↔ ∃ f ∈ s.flights, f.proxy = p ∧ f.stage = .busy := by
  simp [Working, stages]

theorem stages_tell (s : Flow) (p : Nat) (k : StopRequest) : (s.tell p k).stages = s.stages := by
  simp only [stages, tell, List.map_map]
  apply List.map_congr_left
  intro f _
  simp only [Function.comp]
  split <;> rfl

theorem working_restage {s s' : Flow} {pre post : List Flight} {f f' : Flight} (h : s.flights = pre ++ f :: post)
    (h' : s'.flights = pre ++ f' :: post) (hf : f'.proxy = f.proxy) {p : Nat} (hp : p ≠ f.proxy) :
    s'.Working p ↔ s.Working p := by
  simp only [working_iff, h, h', List.mem_append, List.mem_cons]
  constructor
  · rintro ⟨g, hg, hgp, hgb⟩
    rcases hg with hg | rfl | hg
    · exact ⟨g, .inl hg, hgp, hgb⟩
    · exact absurd (hgp.symm.trans hf) hp
    · exact ⟨g, .inr (.inr hg), hgp, hgb⟩
  · rintro ⟨g, hg, hgp, hgb⟩
    rcases hg with hg | rfl | hg
    · exact ⟨g, .inl hg, hgp, hgb⟩
    · exact absurd hgp.symm hp
    · exact ⟨g, .inr (.inr hg), hgp, hgb⟩

/-- `s'` keeps the pool of `s`, its sharing and the records of refusals, and only adds units
offered. -/
structure OnlyOffers (s s' : Flow) : Prop where
  pool : s'.pool = s.pool
  shared : s'.manager.pool.shared = s.manager.pool.shared
  stages : ∃ extra, s'.stages = s.stages ++ extra ∧ ∀ x ∈ extra, x.2 = .offered
  refusals : s'.refusals = s.refusals
  givenUp : s'.givenUp = s.givenUp
  merged : s'.merged = s.merged

namespace OnlyOffers

variable {s s' s'' : Flow}

theorem same (hpool : s'.pool = s.pool) (hsh : s'.manager.pool.shared = s.manager.pool.shared)
    (hfl : s'.flights = s.flights) (href : s'.refusals = s.refusals) (hgu : s'.givenUp = s.givenUp)
    (hmg : s'.merged = s.merged) : OnlyOffers s s' :=
  ⟨hpool, hsh, ⟨[], by simp [Flow.stages, hfl], by simp⟩, href, hgu, hmg⟩

theorem trans (h₁ : OnlyOffers s s') (h₂ : OnlyOffers s' s'') : OnlyOffers s s'' := by
  obtain ⟨e₁, h₁s, h₁o⟩ := h₁.stages
  obtain ⟨e₂, h₂s, h₂o⟩ := h₂.stages
  refine ⟨h₂.pool.trans h₁.pool, h₂.shared.trans h₁.shared, ⟨e₁ ++ e₂, by rw [h₂s, h₁s, List.append_assoc], ?_⟩,
    h₂.refusals.trans h₁.refusals, h₂.givenUp.trans h₁.givenUp, h₂.merged.trans h₁.merged⟩
  intro x hx
  rcases List.mem_append.1 hx with hx | hx
  · exact h₁o x hx
  · exact h₂o x hx

theorem of_copy {s₁ : Flow} (h : OnlyOffers s₁ s') (hpool : s₁.pool = s.pool)
    (hsh : s₁.manager.pool.shared = s.manager.pool.shared) (hfl : s₁.flights = s.flights)
    (href : s₁.refusals = s.refusals) (hgu : s₁.givenUp = s.givenUp) (hmg : s₁.merged = s.merged) :
    OnlyOffers s s' :=
  (same hpool hsh hfl href hgu hmg).trans h

theorem of_flights (hpool : s'.pool = s.pool) (hsh : s'.manager.pool.shared = s.manager.pool.shared)
    (hfl : ∃ extra, s'.flights = s.flights ++ extra ∧ ∀ f ∈ extra, f.stage = .offered)
    (href : s'.refusals = s.refusals) (hgu : s'.givenUp = s.givenUp) (hmg : s'.merged = s.merged) :
    OnlyOffers s s' := by
  obtain ⟨extra, hfl, ho⟩ := hfl
  refine ⟨hpool, hsh, ⟨extra.map fun f => (f.proxy, f.stage), by simp [Flow.stages, hfl], ?_⟩, href, hgu, hmg⟩
  simp only [List.mem_map]
  rintro x ⟨f, hf, rfl⟩
  exact ho f hf

end OnlyOffers

theorem onlyOffers_begin (s : Flow) (c : UnitCriteria) : OnlyOffers s (s.begin c) := by
  obtain ⟨t, fl, bg, hd, o, h⟩ := begin_frame s c
  exact .of_flights (by rw [h]; rfl) (by rw [h]; rfl) (begin_flights s c) (by rw [h]; rfl) (by rw [h]; rfl)
    (by rw [h]; rfl)

theorem onlyOffers_fold (s : Flow) (q : Pending) : OnlyOffers s (s.fold q) := by
  obtain ⟨t, fl, hd, fo, o, u, ov, h⟩ := fold_frame s q
  exact .of_flights (by rw [h]; rfl) (by rw [h]; rfl) (fold_flights s q) (by rw [h]; rfl) (by rw [h]; rfl)
    (by rw [h]; rfl)

theorem onlyOffers_tell (s : Flow) (p : Nat) (k : StopRequest) : OnlyOffers s (s.tell p k) :=
  ⟨rfl, rfl, ⟨[], by rw [stages_tell, List.append_nil], by simp⟩, rfl, rfl, rfl⟩

theorem onlyOffers_forward (s : Flow) (p id : Nat) : OnlyOffers s (s.forward p id) := by
  unfold forward
  split
  · exact onlyOffers_tell s p _
  · exact .same rfl rfl rfl rfl rfl rfl

theorem onlyOffers_stop (s : Flow) (k : StopRequest) : OnlyOffers s (s.stop k) := by
  rw [stop_eq]
  split <;> exact .same rfl rfl rfl rfl rfl rfl

theorem report_records (s : Flow) (p id : Nat) (r : Report) (u : Option WorkItem) :
    (s.report p id r u).manager.pool.shared = s.manager.pool.shared ∧ (s.report p id r u).refusals = s.refusals ∧
      (s.report p id r u).givenUp = s.givenUp ∧ (s.report p id r u).merged = s.merged := by
  obtain ⟨ps, made, cl, o, pe, hrep, -⟩ := report_frame s p id r u
  rw [hrep]
  exact ⟨rfl, rfl, rfl, rfl⟩

end Flow

theorem Flight.holder_of_unrefused {f : Flight} (h : f.stage.isRefused = false) : f.holder = some f.proxy := by
  unfold Flight.holder
  split
  · rename_i hs
    rw [hs] at h
    cases h
  · rfl

namespace Owned

variable {s : Flow}

theorem holds_once (ho : Owned s) {pre post : List Flight} {f : Flight} (h : s.flights = pre ++ f :: post)
    {p : Nat} (hf : f.holder = some p) {g : Flight} (hg : g ∈ pre ++ post) : g.holder ≠ some p := by
  intro hgp
  have hc := Flow.holders_take_flight h p
  have hpos := List.count_pos_iff.2 (Flow.mem_holders_of_flight (s := { s with flights := pre ++ post }) hg hgp)
  have := ho.single p
  simp only [hf, Option.toList_some, List.count_singleton_self] at hc
  omega

theorem chosen_alone (ho : Owned s) {pre post : List Pending} {q : Pending} (h : s.pending = pre ++ q :: post)
    {p : Nat} (hq : q.next = some p) {g : Flight} (hg : g ∈ s.flights) : g.holder ≠ some p := by
  intro hgp
  have hc := Flow.holders_take_pending h p
  have hpos := List.count_pos_iff.2 (Flow.mem_holders_of_flight (s := { s with pending := pre ++ post }) hg hgp)
  have := ho.single p
  simp only [hq, Option.toList_some, List.count_singleton_self] at hc
  omega

theorem working_pooled (ho : Owned s) {p : Nat} (hw : s.Working p) : p ∈ s.pool := by
  obtain ⟨f, hf, rfl, hb⟩ := Flow.working_iff.1 hw
  exact ho.pooled _ (Flow.mem_holders_of_flight hf (Flight.holder_of_unrefused (by rw [hb]; rfl)))

end Owned

/-- A manager over test-host proxies made on one runtime. -/
structure Hosted where
  flow : Flow
  /-- The runtime the factory makes proxies on. -/
  runtime : HostConfig
  /-- The names the factory gives the proxies it makes. -/
  names : Nat → String
  /-- The bookkeeping of each proxy made. -/
  ops : Nat → Operation

namespace Hosted

def fresh (s : Hosted) (p : Nat) : Operation := Operation.new (s.names p) s.runtime

def init (discovers : Bool) (runtime : HostConfig) (names : Nat → String) (l : PoolLayout) (limit : Nat) :
    Hosted :=
  ⟨Flow.init discovers l.shared l.level limit, runtime, names, fun p => Operation.new (names p) runtime⟩

def discovery (e : Engine) (sources : List String) (names : Nat → String) : Hosted :=
  init true (e.runtimes.resolveFor sources) names (e.discoveryLayout sources) e.config.dispatchRetryLimit

def execution (e : Engine) (c : RunCriteria) (names : Nat → String) : Hosted :=
  init false (e.runtimes.resolveFor c.sources) names (e.executionLayout c) e.config.dispatchRetryLimit

def readyPool (s : Hosted) (p : Nat) : Operation := if p ∈ s.flow.pool then (s.ops p).readied else s.ops p

/-- The manager moved on to `flow`, the proxies' bookkeeping being `ops` once the step's own
changes are made: a proxy that joined the pool is fresh, and one that left it is closed. -/
def moveTo (s : Hosted) (flow : Flow) (ops : Nat → Operation) : Hosted :=
  ⟨flow, s.runtime, s.names, fun p =>
    if p ∈ flow.pool ∧ p ∉ s.flow.pool then s.fresh p
    else if p ∈ s.flow.pool ∧ p ∉ flow.pool then (ops p).shut else ops p⟩

variable {s s' : Hosted}

@[simp] theorem moveTo_flow (flow : Flow) (ops : Nat → Operation) : (s.moveTo flow ops).flow = flow := rfl

@[simp] theorem moveTo_runtime (flow : Flow) (ops : Nat → Operation) : (s.moveTo flow ops).runtime = s.runtime :=
  rfl

theorem moveTo_same {flow : Flow} (ops : Nat → Operation) (h : flow.pool = s.flow.pool) :
    s.moveTo flow ops = ⟨flow, s.runtime, s.names, ops⟩ := by
  simp [moveTo, h]

theorem moveTo_stays {flow : Flow} (ops : Nat → Operation) {p : Nat} (hp : p ∈ s.flow.pool)
    (hp' : p ∈ flow.pool) : (s.moveTo flow ops).ops p = ops p := by
  simp [moveTo, hp, hp']

theorem moveTo_joins {flow : Flow} (ops : Nat → Operation) {p : Nat} (hp : p ∈ flow.pool)
    (hn : p ∉ s.flow.pool) : (s.moveTo flow ops).ops p = s.fresh p := by
  simp [moveTo, hp, hn]

/-- One step of a manager's tasks over test-host proxies, or of a proxy's hosts. The manager takes
the steps of a flow with neither close nor resize, and its proxies are honest; handing a unit
over readies the proxy and claims it, and the proxy refuses exactly when one of the two fails. -/
inductive Step : Hosted → Hosted → Prop where
  /-- A call of the manager's kind passes its first check, and the pool is readied. -/
  | call (s : Hosted) (c : UnitCriteria) (hk : c.fits s.flow.manager.discovers = true)
      (hc : s.flow.tracker.closed = false) (hp : s.flow.tracker.isInProgress = false) :
      Step s (s.moveTo { s.flow with serves := s.flow.serves ++ [c] } s.readyPool)
  /-- A proxy of the pool could not be readied, being closed, and the call returns the error. -/
  | unready (s : Hosted) (pre post : List UnitCriteria) (c : UnitCriteria) (h : s.flow.serves = pre ++ c :: post)
      (p : Nat) (hp : p ∈ s.flow.pool) (hc : (s.ops p).state = .closed) :
      Step s (s.moveTo { s.flow with serves := pre ++ post } s.ops)
  | begin (s : Hosted) (pre post : List UnitCriteria) (c : UnitCriteria) (h : s.flow.serves = pre ++ c :: post) :
      Step s (s.moveTo ({ s.flow with serves := pre ++ post }.begin c) s.ops)
  /-- The proxy a unit was handed to is readied and claimed for it. -/
  | accept (s : Hosted) (pre post : List Flight) (f : Flight) (h : s.flow.flights = pre ++ f :: post)
      (hf : f.stage = .offered) (hc : (s.ops f.proxy).state ≠ .closed)
      (ha : (s.ops f.proxy).readied.accepts = true) :
      Step s (s.moveTo { s.flow with flights := pre ++ { f with stage := .busy } :: post,
                                     forwards := s.flow.forwards ++ [(f.proxy, f.ctx.id)],
                                     accepted := s.flow.accepted ++ [(f.ctx.id, f.item)] }
        (Function.update s.ops f.proxy (s.ops f.proxy).readied.claimed))
  /-- Readying or claiming the proxy a unit was handed to fails; it is swapped for a fresh one. -/
  | refuse (s : Hosted) (pre post : List Flight) (f : Flight) (e : Error) (h : s.flow.flights = pre ++ f :: post)
      (hf : f.stage = .offered)
      (hr : (s.ops f.proxy).state = .closed ∨ (s.ops f.proxy).readied.accepts = false) :
      Step s (s.moveTo { (s.flow.replace f.proxy).2 with
          flights := pre ++ { f with stage := .refused (s.flow.replace f.proxy).1 e } :: post,
          refusals := s.flow.refusals ++ [(f.ctx.id, f.item)] }
        (Function.update s.ops f.proxy (s.ops f.proxy).readied))
  | retry (s : Hosted) (pre post : List Flight) (f : Flight) (r : Option Nat) (e : Error)
      (h : s.flow.flights = pre ++ f :: post) (hf : f.stage = .refused r e) :
      Step s (s.moveTo ({ s.flow with flights := pre ++ post }.retry f r e) s.ops)
  | relay (s : Hosted) (pre post : List Flight) (f : Flight) (e : CallerEvent)
      (h : s.flow.flights = pre ++ f :: post) (hf : f.stage = .busy) (he : e.isCompletion = false) :
      Step s (s.moveTo { s.flow with out := s.flow.out ++ [(some f.ctx.id, e)] } s.ops)
  /-- A proxy ends the unit it works on, and then the manager hears of it. -/
  | complete (s : Hosted) (pre post : List Flight) (f : Flight) (r : Report)
      (h : s.flow.flights = pre ++ f :: post) (hf : f.stage = .busy) (hr : r.fits s.flow.manager.discovers = true) :
      Step s (s.moveTo ({ s.flow with flights := pre ++ post }.report f.proxy f.ctx.id r (some f.item))
        (Function.update s.ops f.proxy ((s.ops f.proxy).ended r.aborted)))
  | fold (s : Hosted) (pre post : List Pending) (q : Pending) (h : s.flow.pending = pre ++ q :: post) :
      Step s (s.moveTo ({ s.flow with pending := pre ++ post }.fold q) s.ops)
  | forward (s : Hosted) (pre post : List (Nat × Nat)) (p id : Nat) (h : s.flow.forwards = pre ++ (p, id) :: post) :
      Step s (s.moveTo ({ s.flow with forwards := pre ++ post }.forward p id) s.ops)
  | stop (s : Hosted) (k : StopRequest) (hk : k = .abort ∨ s.flow.manager.discovers = false) :
      Step s (s.moveTo (s.flow.stop k) s.ops)
  | act (s : Hosted) (pre post : List (Nat × StopRequest)) (p : Nat) (k : StopRequest)
      (h : s.flow.actions = pre ++ (p, k) :: post) :
      Step s (s.moveTo ({ s.flow with actions := pre ++ post }.tell p k) s.ops)
  /-- The hosts a proxy keeps change, or an abort is marked, its state staying as it is. -/
  | host (s : Hosted) (p : Nat) (o : Operation) (ho : (s.ops p).Rehosted o) :
      Step s { s with ops := Function.update s.ops p o }

/-- The managers an engine can reach over test-host proxies, from a pool that shares hosts only
when its runtime does. -/
inductive Reachable : Hosted → Prop where
  | init (discovers : Bool) (runtime : HostConfig) (names : Nat → String) (l : PoolLayout) (limit : Nat)
      (hs : l.shared = true → runtime.shared = true) : Reachable (init discovers runtime names l limit)
  | step {s s' : Hosted} : Reachable s → Step s s' → Reachable s'

theorem Step.flow (hs : Step s s') : TestConductor.Step s.flow s'.flow ∨ s'.flow = s.flow := by
  cases hs with
  | call c _ hc hp => exact .inl (.call _ c hc hp)
  | unready pre post c h => exact .inl (.unready _ pre post c h)
  | begin pre post c h => exact .inl (.begin _ pre post c h)
  | accept pre post f h hf => exact .inl (.accept _ pre post f h hf)
  | refuse pre post f e h hf => exact .inl (.refuse _ pre post f e h hf)
  | retry pre post f r e h hf => exact .inl (.retry _ pre post f r e h hf)
  | relay pre post f e h hf he => exact .inl (.relay _ pre post f e h hf he)
  | complete pre post f r h hf hr => exact .inl (.complete _ pre post f r h hf hr)
  | fold pre post q h => exact .inl (.fold _ pre post q h)
  | forward pre post p id h => exact .inl (.forward _ pre post p id h)
  | stop k hk => exact .inl (.stop _ k hk)
  | act pre post p k h => exact .inl (.act _ pre post p k h)
  | host p o _ => exact .inr rfl

theorem Step.rogue (hs : Step s s') : s'.flow.rogue = s.flow.rogue := by
  cases hs with
  | begin pre post c _ => exact (Flow.begin_flags _ c).1
  | refuse pre post f e _ _ => simp [Flow.replace_snd]
  | retry pre post f r e _ _ => exact (Flow.retry_flags _ f r e).1
  | complete pre post f r _ _ _ => exact (Flow.report_flags _ _ _ r _).1
  | fold pre post q _ => exact (Flow.fold_flags _ q).1
  | forward pre post p id _ =>
    simp only [moveTo_flow]
    unfold Flow.forward
    split <;> rfl
  | stop k _ =>
    simp only [moveTo_flow]
    rw [Flow.stop_eq]
    split <;> rfl
  | call | unready | accept | relay | act | host => rfl

theorem Reachable.flow (h : Hosted.Reachable s) : TestConductor.Reachable s.flow ∧ s.flow.rogue = false := by
  induction h with
  | init discovers runtime names l limit _ => exact ⟨.init _ _ _ _, rfl⟩
  | step _ hs ih =>
    refine ⟨?_, (hs.rogue).trans ih.2⟩
    rcases hs.flow with hf | hf
    · exact ih.1.step hf
    · exact hf ▸ ih.1

/-! ## The pool stays ready -/

/-- The proxies of the pool are fit for their next unit: a proxy working on a unit is busy, every
other one takes work, and all run on the manager's runtime, which shares hosts when the pool
does. No unit was ever refused. -/
structure Ready (s : Hosted) : Prop where
  shares : s.flow.manager.pool.shared = true → s.runtime.shared = true
  runtime : ∀ p ∈ s.flow.pool, (s.ops p).runtime = s.runtime
  busy : ∀ p, s.flow.Working p → (s.ops p).state = .busy
  idle : ∀ p ∈ s.flow.pool, ¬ s.flow.Working p → (s.ops p).accepts = true
  unrefused : ∀ x ∈ s.flow.stages, x.2.isRefused = false
  refusals : s.flow.refusals = []
  givenUp : s.flow.givenUp = []
  merged : s.flow.merged = []

namespace Ready

theorem of_moveTo {flow : Flow} {ops : Nat → Operation} (h : flow.pool = s.flow.pool)
    (hr : Ready ⟨flow, s.runtime, s.names, ops⟩) : Ready (s.moveTo flow ops) := by
  rw [moveTo_same ops h]
  exact hr

theorem init (discovers : Bool) (runtime : HostConfig) (names : Nat → String) (l : PoolLayout) (limit : Nat)
    (hs : l.shared = true → runtime.shared = true) : Ready (Hosted.init discovers runtime names l limit) where
  shares := hs
  runtime _ _ := rfl
  busy p h := by simp [Flow.Working, Flow.stages, Hosted.init, Flow.init] at h
  idle p _ _ := Operation.new_accepts (names p) runtime
  unrefused x h := by simp [Flow.stages, Hosted.init, Flow.init] at h
  refusals := rfl
  givenUp := rfl
  merged := rfl

theorem offers (hr : Ready s) (hc : Flow.OnlyOffers s.flow s'.flow) (hrt : s'.runtime = s.runtime)
    (hops : ∀ p, (s.ops p).Alike (s'.ops p)) : Ready s' := by
  obtain ⟨extra, hst, hoff⟩ := hc.stages
  -- a unit added is offered, so the same proxies work
  have hw : ∀ p, s'.flow.Working p ↔ s.flow.Working p := by
    intro p
    simp only [Flow.Working, hst, List.mem_append]
    constructor
    · rintro (h | h)
      · exact h
      · exact absurd (hoff _ h) (by simp)
    · exact .inl
  refine ⟨fun h => ?_, fun p hp => ?_, fun p h => (hops p).2.2 (hr.busy p ((hw p).1 h)),
    fun p hp h => (hops p).2.1.trans (hr.idle p (hc.pool ▸ hp) (mt (hw p).2 h)), fun x hx => ?_,
    hc.refusals.trans hr.refusals, hc.givenUp.trans hr.givenUp, hc.merged.trans hr.merged⟩
  · rw [hrt]
    exact hr.shares (hc.shared ▸ h)
  · rw [(hops p).1, hr.runtime p (hc.pool ▸ hp), hrt]
  · rw [hst] at hx
    rcases List.mem_append.1 hx with hx | hx
    · exact hr.unrefused x hx
    · rw [hoff x hx]
      rfl

theorem fit (hr : Ready s) (ho : Owned s.flow) {f : Flight} (hf : f ∈ s.flow.flights)
    (hoff : f.stage = .offered) : f.proxy ∈ s.flow.pool ∧ (s.ops f.proxy).accepts = true := by
  have hp : f.proxy ∈ s.flow.pool := ho.offered_pooled hf hoff
  refine ⟨hp, hr.idle _ hp fun hw => ?_⟩
  -- the proxy holds the unit offered, so it works on no other
  obtain ⟨g, hg, hgp, hgb⟩ := Flow.working_iff.1 hw
  obtain ⟨pre, post, h⟩ := List.append_of_mem hf
  have hg' : g ∈ pre ++ post := by
    rw [h] at hg
    rcases List.mem_append.1 hg with hg | hg
    · exact List.mem_append_left _ hg
    · rcases List.mem_cons.1 hg with rfl | hg
      · rw [hoff] at hgb
        cases hgb
      · exact List.mem_append_right _ hg
  exact ho.holds_once h (Flight.holder_of_unrefused (by rw [hoff]; rfl)) hg'
    (by rw [Flight.holder_of_unrefused (by rw [hgb]; rfl), hgp])

theorem accept (hr : Ready s) {pre post : List Flight} {f : Flight} (h : s.flow.flights = pre ++ f :: post) :
    Ready (s.moveTo { s.flow with flights := pre ++ { f with stage := .busy } :: post,
                                  forwards := s.flow.forwards ++ [(f.proxy, f.ctx.id)],
                                  accepted := s.flow.accepted ++ [(f.ctx.id, f.item)] }
      (Function.update s.ops f.proxy (s.ops f.proxy).readied.claimed)) := by
  refine of_moveTo rfl ?_
  refine ⟨hr.shares, fun p hp => ?_, fun p hwp => ?_, fun p hp hwp => ?_, fun x hx => ?_, hr.refusals,
    hr.givenUp, hr.merged⟩
  · dsimp only
    by_cases hpf : p = f.proxy
    · subst hpf
      rw [Function.update_self]
      exact ((Operation.alike_readied _).1).trans (hr.runtime _ hp)
    · rw [Function.update_of_ne hpf]
      exact hr.runtime p hp
  · dsimp only
    by_cases hpf : p = f.proxy
    · subst hpf
      rw [Function.update_self]
      rfl
    · rw [Function.update_of_ne hpf]
      exact hr.busy p ((Flow.working_restage h (by rfl) (by rfl) hpf).1 hwp)
  · dsimp only
    have hpf : p ≠ f.proxy := by
      rintro rfl
      exact hwp (Flow.working_iff.2 ⟨{ f with stage := .busy }, by simp, rfl, rfl⟩)
    rw [Function.update_of_ne hpf]
    exact hr.idle p hp (mt (Flow.working_restage h (by rfl) (by rfl) hpf).2 hwp)
  · simp only [Flow.stages, List.map_append, List.map_cons, List.mem_append, List.mem_cons] at hx
    rcases hx with hx | rfl | hx
    · exact hr.unrefused x (by simp [Flow.stages, h, hx])
    · rfl
    · exact hr.unrefused x (by simp [Flow.stages, h, hx])

theorem working_after_complete (ho : Owned s.flow) {pre post : List Flight} {f : Flight}
    (h : s.flow.flights = pre ++ f :: post) (hf : f.stage = .busy) {q : Nat} :
    Flow.Working { s.flow with flights := pre ++ post } q ↔ s.flow.Working q ∧ q ≠ f.proxy := by
  have hhold : f.holder = some f.proxy := Flight.holder_of_unrefused (by rw [hf]; rfl)
  simp only [Flow.working_iff, h, List.mem_append, List.mem_cons]
  constructor
  · rintro ⟨g, hg, rfl, hgb⟩
    refine ⟨⟨g, hg.elim .inl fun hg => .inr (.inr hg), rfl, hgb⟩, fun hgf => ?_⟩
    -- the completing proxy held only the unit it completed
    exact ho.holds_once h hhold (List.mem_append.2 hg) (by rw [Flight.holder_of_unrefused (by rw [hgb]; rfl), hgf])
  · rintro ⟨⟨g, hg, rfl, hgb⟩, hgf⟩
    rcases hg with hg | rfl | hg
    · exact ⟨g, .inl hg, rfl, hgb⟩
    · exact absurd rfl hgf
    · exact ⟨g, .inr hg, rfl, hgb⟩

/-- How a completion handler treats the proxy that completed: the proxy is of the pool and busy,
and the handler either swaps it for the proxy made next, which takes the next unit, or, the unit
not aborted on a pool that shares hosts, keeps it for the next unit. -/
theorem handles (hr : Ready s) (ho : Owned s.flow) (hh : Flow.Holding s.flow 0) {pre post : List Flight}
    {f : Flight} (h : s.flow.flights = pre ++ f :: post) (hf : f.stage = .busy) (r : Report) :
    f.proxy ∈ s.flow.pool ∧ (s.ops f.proxy).state = .busy ∧
      ({ s.flow with flights := pre ++ post }.report f.proxy f.ctx.id r (some f.item)).flights = pre ++ post ∧
      ∃ next, ({ s.flow with flights := pre ++ post }.report f.proxy f.ctx.id r (some f.item)).pending =
          s.flow.pending ++ [⟨f.ctx, r, some next, some f.item⟩] ∧
        ((next = s.flow.made ∧
            ({ s.flow with flights := pre ++ post }.report f.proxy f.ctx.id r (some f.item)).pool =
              Pool.swap s.flow.pool f.proxy s.flow.made) ∨
         (next = f.proxy ∧ r.aborted = false ∧ s.flow.manager.pool.shared = true ∧
            ({ s.flow with flights := pre ++ post }.report f.proxy f.ctx.id r (some f.item)).pool =
              s.flow.pool)) := by
  have hmem : f ∈ s.flow.flights := by simp [h]
  have hp : f.proxy ∈ s.flow.pool :=
    ho.pooled _ (Flow.mem_holders_of_flight hmem (Flight.holder_of_unrefused (by rw [hf]; rfl)))
  -- the unit belongs to the request served, so its completion is handled
  have hx : ({ s.flow with flights := pre ++ post } : Flow).tracker.context f.ctx.id = some f.ctx :=
    (Tracker.context_eq_some _ _ _).2 (hh.flights f hmem)
  obtain ⟨hfl, hpe, hpool, -⟩ := Flow.report_shape { s.flow with flights := pre ++ post } f.proxy f.ctx.id r
    (some f.item) hx
  refine ⟨hp, hr.busy _ (Flow.working_iff.2 ⟨f, hmem, rfl, hf⟩), hfl, ?_⟩
  rw [hpe, Flow.successor_fst]
  by_cases hsw : Flow.swaps { s.flow with flights := pre ++ post } f.proxy r.aborted = true
  · rw [if_pos hsw] at hpool ⊢
    exact ⟨_, rfl, .inl ⟨rfl, hpool⟩⟩
  · -- the proxy is pooled, so only an unaborted unit on a pool that shares hosts keeps it
    have hkeep : r.aborted = false ∧ s.flow.manager.pool.shared = true := by
      have hsw' : r.aborted = true ∨ s.flow.manager.pool.shared = false → f.proxy ∉ s.flow.pool := by
        simpa [Flow.swaps] using hsw
      have hn : ¬(r.aborted = true ∨ s.flow.manager.pool.shared = false) := fun hab => hsw' hab hp
      simpa using hn
    rw [if_neg hsw] at hpool ⊢
    rw [if_neg (by simp [hkeep.1, hkeep.2])]
    exact ⟨_, rfl, .inr ⟨rfl, hkeep.1, hkeep.2, hpool⟩⟩

theorem complete (hr : Ready s) (ho : Owned s.flow) (hh : Flow.Holding s.flow 0) {pre post : List Flight}
    {f : Flight} (h : s.flow.flights = pre ++ f :: post) (hf : f.stage = .busy) (r : Report) :
    Ready (s.moveTo ({ s.flow with flights := pre ++ post }.report f.proxy f.ctx.id r (some f.item))
      (Function.update s.ops f.proxy ((s.ops f.proxy).ended r.aborted))) := by
  obtain ⟨hp, hbusy, hfl, next, -, hcase⟩ := hr.handles ho hh h hf r
  obtain ⟨hshared, href, hgu, hmg⟩ := Flow.report_records { s.flow with flights := pre ++ post } f.proxy
    f.ctx.id r (some f.item)
  have hw : ∀ q, Flow.Working ({ s.flow with flights := pre ++ post }.report f.proxy f.ctx.id r (some f.item)) q ↔
      s.flow.Working q ∧ q ≠ f.proxy := by
    intro q
    rw [← working_after_complete ho h hf]
    simp only [Flow.Working, Flow.stages, hfl]
  have hun : ∀ x ∈ ({ s.flow with flights := pre ++ post }.report f.proxy f.ctx.id r (some f.item)).stages,
      x.2.isRefused = false := by
    intro x hx
    simp only [Flow.stages, hfl, List.mem_map, List.mem_append] at hx
    obtain ⟨g, hg, rfl⟩ := hx
    exact hr.unrefused _ (by
      simp only [Flow.stages, h, List.mem_map]
      exact ⟨g, by rcases hg with hg | hg <;> simp [hg], rfl⟩)
  rcases hcase with ⟨-, hpool⟩ | ⟨-, hab, hsh, hpool⟩
  · -- the proxy is swapped for a fresh one, which takes the next unit
    have hout : s.flow.made ∉ s.flow.pool := fun hm => Nat.lt_irrefl _ (ho.made _ hm)
    have hin : ∀ q, q ∈ ({ s.flow with flights := pre ++ post }.report f.proxy f.ctx.id r (some f.item)).pool ↔
        (q ∈ s.flow.pool ∧ q ≠ f.proxy) ∨ q = s.flow.made := by
      intro q
      rw [hpool, Pool.mem_swap]
      exact or_congr Iff.rfl (and_iff_left hp)
    -- a proxy that stays keeps its bookkeeping
    have hstay : ∀ q, q ∈ s.flow.pool → q ≠ f.proxy →
        (s.moveTo ({ s.flow with flights := pre ++ post }.report f.proxy f.ctx.id r (some f.item))
          (Function.update s.ops f.proxy ((s.ops f.proxy).ended r.aborted))).ops q = s.ops q := by
      intro q hq hqf
      rw [moveTo_stays _ hq ((hin q).2 (.inl ⟨hq, hqf⟩)), Function.update_of_ne hqf]
    have hjoin := moveTo_joins (s := s) (Function.update s.ops f.proxy ((s.ops f.proxy).ended r.aborted))
      ((hin _).2 (.inr rfl)) hout
    refine ⟨fun h' => hr.shares (hshared ▸ h'), fun q hq => ?_, fun q hwq => ?_, fun q hq hwq => ?_, hun,
      href.trans hr.refusals, hgu.trans hr.givenUp, hmg.trans hr.merged⟩
    · rcases (hin q).1 hq with ⟨hq, hqf⟩ | rfl
      · rw [hstay q hq hqf]
        exact hr.runtime q hq
      · rw [hjoin]
        rfl
    · obtain ⟨hwq, hqf⟩ := (hw q).1 hwq
      rw [hstay q (ho.working_pooled hwq) hqf]
      exact hr.busy q hwq
    · rcases (hin q).1 hq with ⟨hq, hqf⟩ | rfl
      · rw [hstay q hq hqf]
        exact hr.idle q hq fun hws => hwq ((hw q).2 ⟨hws, hqf⟩)
      · rw [hjoin]
        exact Operation.new_accepts _ _
  · -- the proxy completed on a pool that shares hosts, and stays
    refine of_moveTo hpool ⟨fun h' => hr.shares (hshared ▸ h'), fun q hq => ?_, fun q hwq => ?_,
      fun q hq hwq => ?_, hun, href.trans hr.refusals, hgu.trans hr.givenUp, hmg.trans hr.merged⟩
    · dsimp only
      by_cases hqf : q = f.proxy
      · subst hqf
        rw [Function.update_self, Operation.ended_runtime]
        exact hr.runtime _ hp
      · rw [Function.update_of_ne hqf]
        exact hr.runtime q (hpool ▸ hq)
    · obtain ⟨hwq, hqf⟩ := (hw q).1 hwq
      dsimp only
      rw [Function.update_of_ne hqf]
      exact hr.busy q hwq
    · dsimp only
      by_cases hqf : q = f.proxy
      · subst hqf
        rw [Function.update_self, hab]
        refine Operation.ended_accepts hbusy ?_
        rw [Operation.isShared, hr.runtime _ hp]
        exact hr.shares hsh
      · rw [Function.update_of_ne hqf]
        exact hr.idle q (hpool ▸ hq) fun hws => hwq ((hw q).2 ⟨hws, hqf⟩)

theorem step (hr : Ready s) (ho : Owned s.flow) (hh : Flow.Holding s.flow 0) (hs : Step s s') : Ready s' := by
  cases hs with
  | call c _ _ _ =>
    refine of_moveTo rfl (hr.offers (.same rfl rfl rfl rfl rfl rfl) rfl fun p => ?_)
    show (s.ops p).Alike (s.readyPool p)
    unfold readyPool
    split
    · exact Operation.alike_readied _
    · exact .refl _
  | unready pre post c _ p _ _ => exact of_moveTo rfl (hr.offers (.same rfl rfl rfl rfl rfl rfl) rfl fun p => .refl _)
  | begin pre post c _ =>
    have hc := Flow.onlyOffers_begin { s.flow with serves := pre ++ post } c
    exact of_moveTo hc.pool (hr.offers (hc.of_copy rfl rfl rfl rfl rfl rfl) rfl
      fun p => .refl _)
  | accept pre post f h _ _ _ => exact hr.accept h
  | refuse pre post f e h hf hrf =>
    -- the proxy takes work, so neither readying nor claiming it fails
    obtain ⟨-, ha⟩ := hr.fit ho (by simp [h]) hf
    rcases hrf with hc | hc
    · exact absurd hc (Operation.not_closed_of_accepts ha)
    · rw [(Operation.alike_readied _).2.1, ha] at hc
      cases hc
  | retry pre post f r e h hf =>
    -- no unit is refused, so none waits for its retry
    have hun := hr.unrefused (f.proxy, f.stage) (by simp [Flow.stages, h])
    rw [hf] at hun
    cases hun
  | relay pre post f e _ _ _ => exact of_moveTo rfl (hr.offers (.same rfl rfl rfl rfl rfl rfl) rfl fun p => .refl _)
  | complete pre post f r h hf _ => exact hr.complete ho hh h hf r
  | fold pre post q _ =>
    have hc := Flow.onlyOffers_fold { s.flow with pending := pre ++ post } q
    exact of_moveTo hc.pool (hr.offers (hc.of_copy rfl rfl rfl rfl rfl rfl) rfl
      fun p => .refl _)
  | forward pre post p id _ =>
    have hc := Flow.onlyOffers_forward { s.flow with forwards := pre ++ post } p id
    exact of_moveTo hc.pool (hr.offers (hc.of_copy rfl rfl rfl rfl rfl rfl) rfl
      fun p => .refl _)
  | stop k _ =>
    have hc := Flow.onlyOffers_stop s.flow k
    exact of_moveTo hc.pool (hr.offers hc rfl fun p => .refl _)
  | act pre post p k _ =>
    have hc := Flow.onlyOffers_tell { s.flow with actions := pre ++ post } p k
    exact of_moveTo hc.pool (hr.offers (hc.of_copy rfl rfl rfl rfl rfl rfl) rfl
      fun p => .refl _)
  | host p o hro =>
    refine hr.offers (.same rfl rfl rfl rfl rfl rfl) rfl fun q => ?_
    show (s.ops q).Alike (Function.update s.ops p o q)
    by_cases hqp : q = p
    · subst hqp
      rw [Function.update_self]
      exact hro.alike
    · rw [Function.update_of_ne hqp]
      exact .refl _

end Ready

theorem Reachable.of_run {s₀ : Hosted} (h₀ : Hosted.Reachable s₀) (h : Relation.ReflTransGen Step s₀ s) :
    Hosted.Reachable s := by
  induction h with
  | refl => exact h₀
  | tail _ hs ih => exact ih.step hs

theorem ready_reachable (h : Hosted.Reachable s) : Ready s := by
  induction h with
  | init discovers runtime names l limit hs => exact Ready.init discovers runtime names l limit hs
  | step hreach hs ih =>
    obtain ⟨hf, hrogue⟩ := hreach.flow
    exact ih.step (owned_reachable hf hrogue) (Flow.holding_reachable hf hrogue) hs

theorem Step.chooses (hr : Ready s) (ho : Owned s.flow) (hh : Flow.Holding s.flow 0) (hs : Step s s')
    {q : Pending} (hq : q ∈ s'.flow.pending) (hn : q ∉ s.flow.pending) {p : Nat} (hnp : q.next = some p) :
    ((s'.ops p).state = .completed ∧ (s'.ops p).isShared = true) ∨ (s'.ops p = s.fresh p ∧ p ∉ s.flow.pool) := by
  cases hs with
  | complete pre post f r h hf _ =>
    obtain ⟨hp, hbusy, -, next, hpe, hcase⟩ := hr.handles ho hh h hf r
    -- the completion waiting now is the one just reported
    have hq' : q = ⟨f.ctx, r, some next, some f.item⟩ := by
      rw [moveTo_flow, hpe] at hq
      rcases List.mem_append.1 hq with hq | hq
      · exact absurd hq hn
      · exact List.mem_singleton.1 hq
    subst hq'
    obtain rfl := Option.some.inj hnp
    rcases hcase with ⟨rfl, hpool⟩ | ⟨rfl, hab, hsh, hpool⟩
    · -- the proxy was swapped: the next unit goes to the one just made
      have hout : s.flow.made ∉ s.flow.pool := fun hm => Nat.lt_irrefl _ (ho.made _ hm)
      refine .inr ⟨moveTo_joins _ ?_ hout, hout⟩
      rw [hpool, Pool.mem_swap]
      exact .inr ⟨rfl, hp⟩
    · -- the proxy stays, having completed on a pool that shares hosts
      rw [moveTo_same _ hpool]
      dsimp only
      rw [Function.update_self, hab]
      refine .inl ⟨Operation.ended_completed (by rw [hbusy]; decide), ?_⟩
      rw [Operation.isShared, Operation.ended_runtime, hr.runtime _ hp]
      exact hr.shares hsh
  | fold pre post q' h' =>
    obtain ⟨t, fl, hd, fo, o, u, ov, hfold⟩ := Flow.fold_frame { s.flow with pending := pre ++ post } q'
    rw [moveTo_flow, hfold] at hq
    exact absurd (by rw [h']; exact List.mem_append.2 ((List.mem_append.1 hq).imp id (List.mem_cons_of_mem _))) hn
  | retry pre post f r e h hf =>
    have hun := hr.unrefused (f.proxy, f.stage) (by simp [Flow.stages, h])
    rw [hf] at hun
    cases hun
  | begin pre post c _ =>
    obtain ⟨t, fl, bg, hd, o, hb⟩ := Flow.begin_frame { s.flow with serves := pre ++ post } c
    rw [moveTo_flow, hb] at hq
    exact absurd hq hn
  | forward pre post p' id _ =>
    rw [moveTo_flow] at hq
    unfold Flow.forward at hq
    split at hq <;> exact absurd hq hn
  | stop k _ =>
    rw [moveTo_flow, Flow.stop_eq] at hq
    split at hq <;> exact absurd hq hn
  | refuse pre post f e h hf hrf =>
    rw [moveTo_flow] at hq
    simp only [Flow.replace_snd] at hq
    exact absurd hq hn
  | call | unready | accept | relay | act | host => exact absurd hq hn

/-- What a manager over test-host proxies does with its units. Every unit offered went to a proxy
of the pool that the code readies and claims without fail; a completion waiting to be folded chose
a proxy of the pool that takes work; the proxy a completion chooses in a step completed its unit
on a shared host, or is one just made; and no unit was refused, given up or merged. -/
structure Takes (s : Hosted) : Prop where
  offered : ∀ f ∈ s.flow.flights, f.stage = .offered →
    f.proxy ∈ s.flow.pool ∧ (s.ops f.proxy).state ≠ .closed ∧ (s.ops f.proxy).readied.accepts = true
  handedOver : ∀ f ∈ s.flow.flights, f.stage = .offered → ∀ w : World,
    (w.proxy f.proxy).operation? = some (s.ops f.proxy) →
      Async.AtOnce (Operation.prepare f.proxy) w fun r t =>
        r.toBool = true ∧ Async.AtOnce (Operation.begin f.proxy) t fun r' _ => r'.toBool = true
  next : ∀ q ∈ s.flow.pending, ∀ p, q.next = some p → p ∈ s.flow.pool ∧ (s.ops p).accepts = true
  chooses : ∀ s', Step s s' → ∀ q ∈ s'.flow.pending, q ∉ s.flow.pending → ∀ p, q.next = some p →
    ((s'.ops p).state = .completed ∧ (s'.ops p).isShared = true) ∨ (s'.ops p = s.fresh p ∧ p ∉ s.flow.pool)
  refusals : s.flow.refusals = []
  givenUp : s.flow.givenUp = []
  merged : s.flow.merged = []

theorem takes_reachable (h : Hosted.Reachable s) : Takes s := by
  have hr := ready_reachable h
  obtain ⟨hf, hrogue⟩ := h.flow
  have ho := owned_reachable hf hrogue
  have hh := Flow.holding_reachable hf hrogue
  -- a proxy that takes work is not closed and, readied, still takes it
  have hfit : ∀ f ∈ s.flow.flights, f.stage = .offered →
      f.proxy ∈ s.flow.pool ∧ (s.ops f.proxy).state ≠ .closed ∧ (s.ops f.proxy).readied.accepts = true := by
    intro f hmem hoff
    obtain ⟨hp, ha⟩ := hr.fit ho hmem hoff
    exact ⟨hp, Operation.not_closed_of_accepts ha, (Operation.alike_readied _).2.1.trans ha⟩
  refine ⟨hfit, fun f hmem hoff w hw => ?_, fun q hq p hnp => ?_, fun s' hs q hq hn p hnp => Step.chooses hr ho hh hs hq hn hnp,
    hr.refusals, hr.givenUp, hr.merged⟩
  · obtain ⟨-, hc, ha⟩ := hfit f hmem hoff
    exact Operation.handOver_succeeds hw hc ha
  · -- the proxy chosen holds no unit yet, so it works on none
    obtain ⟨pre, post, h⟩ := List.append_of_mem hq
    have hp : p ∈ s.flow.pool := ho.pooled p (List.mem_append_right _ (List.mem_filterMap.2 ⟨q, hq, hnp⟩))
    refine ⟨hp, hr.idle p hp fun hw => ?_⟩
    obtain ⟨g, hg, rfl, hgb⟩ := Flow.working_iff.1 hw
    exact ho.chosen_alone h hnp hg (Flight.holder_of_unrefused (by rw [hgb]; rfl))

end Hosted

/-! ## A proxy ends its unit before the manager hears of it -/

namespace HostReply

def Flagged : HostReply → Prop
  | .report _ => True
  | .done e a => ∃ r, Report.ofCompletion e = some r ∧ r.aborted = a

theorem ofDiscovery_flagged {m : Message} {r : HostReply} (h : ofDiscovery m = .ok r) : r.Flagged := by
  unfold ofDiscovery at h
  split at h
  · obtain ⟨j, rfl⟩ := ok_of_decoded h
    trivial
  · obtain ⟨j, rfl⟩ := ok_of_decoded h
    trivial
  · obtain ⟨j, rfl⟩ := ok_of_decoded h
    exact ⟨_, rfl, rfl⟩
  · cases h

theorem ofRun_flagged {m : Message} {r : HostReply} (h : ofRun m = .ok r) : r.Flagged := by
  unfold ofRun at h
  split at h
  · obtain ⟨j, rfl⟩ := ok_of_decoded h
    trivial
  · obtain ⟨j, rfl⟩ := ok_of_decoded h
    trivial
  · obtain ⟨j, rfl⟩ := ok_of_decoded h
    exact ⟨_, rfl, rfl⟩
  · cases h

end HostReply

namespace TestHost

theorem AbortedForm.flagged {c : CallerEvent} (h : AbortedForm c) :
    ∃ r, Report.ofCompletion c = some r ∧ r.aborted = true := by
  cases c <;> simp only [AbortedForm] at h
  · obtain ⟨-, -, rfl⟩ := h
    exact ⟨_, rfl, rfl⟩
  · obtain ⟨reason, elapsed, rfl, -⟩ := h
    exact ⟨_, rfl, rfl⟩

theorem Answers.flagged {read : Message → Except Error HostReply} (hs : ∀ m r, read m = .ok r → r.Flagged)
    {ns : List Note} (h : Answers read ns) :
    ∃ pre c r, ns = pre ++ [.completed r.aborted, .told c] ∧ Report.ofCompletion c = some r := by
  obtain ⟨-, c, a, pre, -, -, -, rfl, hend⟩ := h
  rcases hend with ⟨m, -, hm⟩ | ⟨hform, rfl, -⟩
  · obtain ⟨r, hr, rfl⟩ := hs m _ hm
    exact ⟨pre, c, r, rfl, hr⟩
  · obtain ⟨r, hr, hra⟩ := hform.flagged
    exact ⟨pre, c, r, by rw [hra], hr⟩

theorem listen_tells_after_ending (i k : Nat) (h : Handler) (sources : List String) (sw : Stopwatch) (fuel : Nat)
    {ns : List Note} (hn : (listenCalls i k h sources sw fuel).Notes ns ()) :
    ∃ pre c r, ns = pre ++ [.completed r.aborted, .told c] ∧ Report.ofCompletion c = some r := by
  obtain ⟨runs, rest, rfl, hans⟩ := listenCalls_answers hn
  have hs : ∀ m r, (if runs then HostReply.ofRun else HostReply.ofDiscovery) m = .ok r → r.Flagged := by
    intro m r hm
    cases runs
    · exact HostReply.ofDiscovery_flagged hm
    · exact HostReply.ofRun_flagged hm
  obtain ⟨pre, c, r, rfl, hr⟩ := hans.flagged hs
  exact ⟨.kind runs :: pre, c, r, rfl, hr⟩

end TestHost

/-- The pools an engine makes over test-host proxies take every unit they hand out: through any
interleaving of completions, aborts and cancels, with neither close nor resize, each unit offered
goes to a proxy the code readies and claims without fail, and a proxy kept for the next unit
completed its last one on a shared host while any other is swapped for a fresh one; so no unit is
refused, retried or given up. A proxy records the end of its unit, with the aborted mark the
manager reads, before it tells the manager. -/
theorem engine_pools_take_every_unit (e : Engine) (names : Nat → String) :
    (∀ sources s, Relation.ReflTransGen Hosted.Step (Hosted.discovery e sources names) s → s.Takes) ∧
    (∀ c s, e.runsInProcess = false →
      Relation.ReflTransGen Hosted.Step (Hosted.execution e c names) s → s.Takes) ∧
    (∀ i k h sources sw fuel ns, (TestHost.listenCalls i k h sources sw fuel).Notes ns () →
      ∃ pre c r, ns = pre ++ [.completed r.aborted, .told c] ∧ Report.ofCompletion c = some r) := by
  refine ⟨fun sources s hrun => ?_, fun c s _ hrun => ?_,
    fun i k h sources sw fuel ns hn => TestHost.listen_tells_after_ending i k h sources sw fuel hn⟩
  · exact Hosted.takes_reachable (Hosted.Reachable.of_run (.init _ _ _ _ _ (e.discoveryLayout_shares sources)) hrun)
  · exact Hosted.takes_reachable (Hosted.Reachable.of_run (.init _ _ _ _ _ (e.executionLayout_shares c)) hrun)

namespace Hosted

def pairDiscovery : UnitCriteria := .discovery (DiscoveryCriteria.new ["a.dll", "b.dll"])

def pairUnit (p : Nat) (src : String) : Flight := ⟨p, ⟨1, pairDiscovery⟩, .source src, .offered, []⟩

theorem defaultEngine_resolves_fallback :
    (default : Engine).runtimes.resolveFor ["a.dll", "b.dll"] = (default : Engine).runtimes.fallback := by
  have hx : (default : Engine).runtimes.byExtension = [] := rfl
  simp [RuntimeRegistry.resolveFor, RuntimeRegistry.resolve, hx]

/-- The default engine discovers two sources on one proxy whose host is not shared: the proxy
takes the first unit and completes it, is swapped for a fresh one, and the second unit is offered
to the fresh proxy, which the code readies and claims without fail. -/
theorem pairDiscovery_taken :
    ∃ s, Relation.ReflTransGen Hosted.Step (Hosted.discovery default ["a.dll", "b.dll"] fun _ => "") s ∧
      s.flow.flights = [pairUnit 1 "b.dll"] ∧ s.Takes := by
  have he : Hosted.discovery default ["a.dll", "b.dll"] (fun _ => "") =
      Hosted.init true (default : Engine).runtimes.fallback (fun _ => "")
        ⟨(default : Engine).parallelLevel 2, (default : Engine).sharesHosts (default : Engine).runtimes.fallback⟩
        (default : Engine).config.dispatchRetryLimit := by
    unfold Hosted.discovery Engine.discoveryLayout
    rw [defaultEngine_resolves_fallback]
    rfl
  have h₁ := Relation.ReflTransGen.single (Step.call (Hosted.discovery default ["a.dll", "b.dll"] fun _ => "")
    pairDiscovery (by rw [he]; rfl) (by rw [he]; rfl) (by rw [he]; rfl))
  rw [he] at h₁
  have h₂ := h₁.tail (Step.begin _ [] [] pairDiscovery rfl)
  have h₃ := h₂.tail (Step.accept _ [] [] (pairUnit 0 "a.dll") rfl rfl (by decide) rfl)
  have h₄ := h₃.tail (Step.complete _ [] [] { pairUnit 0 "a.dll" with stage := .busy } (.discovery 2 none false)
    rfl rfl rfl)
  have h₅ := h₄.tail (Step.fold _ [] [] ⟨⟨1, pairDiscovery⟩, .discovery 2 none false, some 1, some (.source "a.dll")⟩ rfl)
  -- name the state reached, so that only the start is turned back into the engine's manager
  obtain ⟨s, hrun, hflights⟩ : ∃ s, Relation.ReflTransGen Hosted.Step (Hosted.init _ _ _ _ _) s ∧
      s.flow.flights = [pairUnit 1 "b.dll"] := ⟨_, h₅, rfl⟩
  rw [← he] at hrun
  exact ⟨s, hrun, hflights, (engine_pools_take_every_unit default fun _ => "").1 _ _ hrun⟩

end Hosted

end TestConductor
