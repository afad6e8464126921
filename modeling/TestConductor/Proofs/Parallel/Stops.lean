import TestConductor.Proofs.Parallel.Owners
import TestConductor.Proofs.Parallel.Outcome
/-! # Stops reach the units at work

A stop asked for while a request is served is recorded and broadcast to the proxies of the pool.
A proxy that works on no unit when the broadcast reaches it, because it is idle or still
answering its hand-over, is not stopped; a proxy that accepts a unit passes on, once its answer
is back, the stop the request is owed by then: an abort once one was asked for, else a cancel.
So in an honest run each unit a proxy works on for the request served, once a stop was asked
for, was told the stop it is owed, or a stop on its way will reach its proxy while it works on
the unit. A discovery is only ever aborted. Whatever the proxies do, no unit is handed out while
a stop is recorded.
-/
namespace TestConductor

namespace Flow

/-- The stop the units of the request served are owed: an abort once one was asked for, else a
cancel. -/
def owedStop (t : Tracker Context Tally) : StopRequest := if t.abortRequested then .abort else .cancel

/-- Flight `f` was told the stop it is owed, or a stop of a broadcast, or one to pass on after
its acceptance, is on its way to its proxy. -/
def Warned (s : Flow) (f : Flight) : Prop :=
  owedStop s.tracker ∈ f.told ∨ (f.proxy, owedStop s.tracker) ∈ s.actions ∨ (f.proxy, f.ctx.id) ∈ s.forwards

/-- The stops owed to the units at work. -/
structure Covered (s : Flow) : Prop where
  /-- Every unit a proxy works on for the request served is warned once a stop was asked for. -/
  warned : ∀ f ∈ s.flights, f.stage = .busy → s.tracker.isCurrent f.ctx.id = true →
    s.tracker.stopRequested = true → s.Warned f
  /-- A manager that discovers is never asked to cancel. -/
  aborts : s.manager.discovers = true → s.tracker.cancelRequested = false

theorem pendingStop_of_stop {t : Tracker Context Tally} {id : Nat} (hc : t.isCurrent id = true)
    (hs : t.stopRequested = true) : t.pendingStop id = some (owedStop t) := by
  unfold Tracker.pendingStop owedStop
  cases ha : t.abortRequested <;> simp_all [Tracker.stopRequested]

theorem mem_split {α : Type} {xs pre post : List α} {x y : α} (h : xs = pre ++ x :: post) (hy : y ∈ xs) :
    y = x ∨ y ∈ pre ++ post := by
  rw [h] at hy
  simp only [List.mem_append, List.mem_cons] at hy ⊢
  rcases hy with hy | hy | hy
  · exact .inr (.inl hy)
  · exact .inl hy
  · exact .inr (.inr hy)

@[simp] theorem tell_tracker (s : Flow) (p : Nat) (k : StopRequest) : (s.tell p k).tracker = s.tracker := rfl

theorem settled_current {t t' : Tracker Context Tally} {n : Option Nat} {nx : Option (Nat × WorkItem)}
    {done : Bool} (hst : Manager.Settled t t' n nx done) {id : Nat} (h : t'.isCurrent id = true) :
    t.isCurrent id = true := by
  have hc := hst.current
  cases done
  · rwa [Tracker.isCurrent_congr (by simpa using hc)] at h
  · rw [Tracker.isCurrent_none (by simpa using hc)] at h
    cases h

namespace Covered

variable {s s' : Flow}

theorem init (discovers shared : Bool) (level limit : Nat) : Covered (Flow.init discovers shared level limit) where
  warned f hf := by simp [Flow.init] at hf
  aborts _ := rfl

theorem congr (hc : Covered s) (ht : s'.tracker = s.tracker) (hf : s'.flights = s.flights)
    (ha : s'.actions = s.actions) (hw : s'.forwards = s.forwards) (hd : s'.manager.discovers = s.manager.discovers) :
    Covered s' := by
  refine ⟨fun f hm hb hcur hstop => ?_, fun h => ?_⟩
  · rw [hf] at hm
    rw [ht] at hcur hstop
    simpa only [Warned, ht, ha, hw] using hc.warned f hm hb hcur hstop
  · rw [ht]
    exact hc.aborts (hd ▸ h)

theorem mono (hc : Covered s) (ha : s'.tracker.abortRequested = s.tracker.abortRequested)
    (hk : s'.tracker.cancelRequested = s.tracker.cancelRequested)
    (hcur : ∀ id, s'.tracker.isCurrent id = true → s.tracker.isCurrent id = true)
    (hf : ∀ f ∈ s'.flights, f.stage = .busy → f ∈ s.flights)
    (hact : ∀ x ∈ s.actions, x ∈ s'.actions) (hfw : ∀ x ∈ s.forwards, x ∈ s'.forwards)
    (hd : s'.manager.discovers = s.manager.discovers) : Covered s' := by
  have howed : owedStop s'.tracker = owedStop s.tracker := by simp [owedStop, ha]
  refine ⟨fun f hmem hbusy hcurf hstop => ?_, fun h => ?_⟩
  · have hstop' : s.tracker.stopRequested = true := by simpa [Tracker.stopRequested, ha, hk] using hstop
    rcases hc.warned f (hf f hmem hbusy) hbusy (hcur _ hcurf) hstop' with h | h | h
    · exact .inl (howed ▸ h)
    · exact .inr (.inl (howed ▸ hact _ h))
    · exact .inr (.inr (hfw _ h))
  · rw [hk]
    exact hc.aborts (hd ▸ h)

theorem tell_warns {p : Nat} {k : StopRequest} (hd : s.manager.discovers = true → s.tracker.cancelRequested = false)
    (h : ∀ g ∈ s.flights, g.stage = .busy → s.tracker.isCurrent g.ctx.id = true → s.tracker.stopRequested = true →
      s.Warned g ∨ (g.proxy = p ∧ k = owedStop s.tracker)) : Covered (s.tell p k) := by
  refine ⟨fun f hf hbusy hcur hstop => ?_, hd⟩
  simp only [tell, List.mem_map] at hf
  obtain ⟨g, hg, rfl⟩ := hf
  by_cases hb : (g.proxy == p && g.stage.isBusy) = true
  · -- the flight told now records the stop
    simp only [hb, if_true] at hbusy hcur hstop ⊢
    rcases h g hg hbusy hcur hstop with (h₁ | h₁ | h₁) | ⟨-, hk⟩
    · exact .inl (List.mem_append_left _ h₁)
    · exact .inr (.inl h₁)
    · exact .inr (.inr h₁)
    · exact .inl (by simp [hk])
  · simp only [hb, Bool.false_eq_true, if_false] at hbusy hcur hstop ⊢
    rcases h g hg hbusy hcur hstop with h₁ | ⟨hp, -⟩
    · exact h₁
    · simp [hp, hbusy, Stage.isBusy] at hb

theorem act (hc : Covered s) {pre post : List (Nat × StopRequest)} {p : Nat} {k : StopRequest}
    (h : s.actions = pre ++ (p, k) :: post) : Covered ({ s with actions := pre ++ post }.tell p k) := by
  refine tell_warns hc.aborts fun g hg hbusy hcur hstop => ?_
  rcases hc.warned g hg hbusy hcur hstop with h₁ | h₁ | h₁
  · exact .inl (.inl h₁)
  · -- the stop delivered now may be the one the unit was waiting for
    rcases mem_split h h₁ with he | h₁
    · exact .inr ⟨(Prod.mk.inj he).1, (Prod.mk.inj he).2.symm⟩
    · exact .inl (.inr (.inl h₁))
  · exact .inl (.inr (.inr h₁))

theorem forward (hc : Covered s) {pre post : List (Nat × Nat)} {p id : Nat}
    (h : s.forwards = pre ++ (p, id) :: post) : Covered ({ s with forwards := pre ++ post }.forward p id) := by
  have hkeep : ∀ g ∈ s.flights, g.stage = .busy → s.tracker.isCurrent g.ctx.id = true →
      s.tracker.stopRequested = true →
      ({ s with forwards := pre ++ post } : Flow).Warned g ∨ (g.proxy = p ∧ g.ctx.id = id) := by
    intro g hg hbusy hcur hstop
    rcases hc.warned g hg hbusy hcur hstop with h₁ | h₁ | h₁
    · exact .inl (.inl h₁)
    · exact .inl (.inr (.inl h₁))
    · rcases mem_split h h₁ with he | h₁
      · exact .inr ⟨(Prod.mk.inj he).1, (Prod.mk.inj he).2⟩
      · exact .inl (.inr (.inr h₁))
  unfold Flow.forward
  split
  next k hk =>
    refine tell_warns hc.aborts fun g hg hbusy hcur hstop => ?_
    rcases hkeep g hg hbusy hcur hstop with h₁ | ⟨hp, hid⟩
    · exact .inl h₁
    · -- the stop passed on is the one owed
      have hown := pendingStop_of_stop (hid ▸ hcur) hstop
      exact .inr ⟨hp, Option.some.inj (hk.symm.trans hown)⟩
  next hk =>
    refine ⟨fun g hg hbusy hcur hstop => ?_, hc.aborts⟩
    rcases hkeep g hg hbusy hcur hstop with h₁ | ⟨hp, hid⟩
    · exact h₁
    · have hown : s.tracker.pendingStop id = some (owedStop s.tracker) := pendingStop_of_stop (hid ▸ hcur) hstop
      have hk' : s.tracker.pendingStop id = none := hk
      rw [hown] at hk'
      cases hk'

theorem accept (hc : Covered s) {pre post : List Flight} {f : Flight} (h : s.flights = pre ++ f :: post) :
    Covered { s with flights := pre ++ { f with stage := .busy } :: post, forwards := s.forwards ++ [(f.proxy, f.ctx.id)],
                     accepted := s.accepted ++ [(f.ctx.id, f.item)] } := by
  refine ⟨fun g hg hbusy hcur hstop => ?_, hc.aborts⟩
  rcases mem_split rfl hg with rfl | hg
  · exact .inr (.inr (by simp))
  · rcases hc.warned g (mem_of_mem_split h hg) hbusy hcur hstop with h₁ | h₁ | h₁
    · exact .inl h₁
    · exact .inr (.inl h₁)
    · exact .inr (.inr (by simp [h₁]))

theorem stop (hc : Covered s) (ho : Owned s) {k : StopRequest} (hk : k = .abort ∨ s.manager.discovers = false) :
    Covered (s.stop k) := by
  rw [stop_eq]
  split
  · refine ⟨fun f hf hbusy hcur hstop => ?_, fun h => ?_⟩
    · have hpool : f.proxy ∈ s.pool :=
        ho.pooled _ (List.mem_append_left _ (List.mem_filterMap.2 ⟨f, hf, by simp [Flight.holder, hbusy]⟩))
      have hact : (f.proxy, k) ∈ s.actions ++ s.pool.map (·, k) := by simp [hpool]
      cases k with
      | abort => exact .inr (.inl (by simpa [owedStop] using hact))
      | cancel =>
        cases ha : s.tracker.abortRequested with
        | true =>
          -- an abort asked for before stays owed, and the unit was warned of it
          have hw := hc.warned f hf hbusy hcur (by simp [Tracker.stopRequested, ha])
          simp only [Warned, owedStop, ha, if_true] at hw
          rcases hw with h₁ | h₁ | h₁
          · exact .inl (by simp [owedStop, h₁])
          · exact .inr (.inl (by simp [owedStop, h₁]))
          · exact .inr (.inr h₁)
        | false => exact .inr (.inl (by simpa [owedStop, ha] using hact))
    · -- a discovery is only asked to abort, so its cancel mark stays down
      have hd : s.manager.discovers = true := h
      have hab : k = .abort := by
        rcases hk with hk | hk
        · exact hk
        · rw [hk] at hd
          cases hd
      subst hab
      show (s.tracker.cancelRequested || (StopRequest.abort == StopRequest.cancel)) = false
      simpa using hc.aborts hd
  · -- with no request served the stop is not recorded
    exact hc

theorem fold (hc : Covered s) (q : Pending) : Covered (s.fold q) := by
  obtain ⟨extra, hfl, hoff⟩ := fold_flights s q
  have hmem : ∀ f ∈ (s.fold q).flights, f.stage = .busy → f ∈ s.flights := by
    intro f hf hb
    rw [hfl] at hf
    rcases List.mem_append.1 hf with hf | hf
    · exact hf
    · rw [hoff f hf] at hb
      cases hb
  rcases fold_cases s q with h | h | ⟨ctx, t, nx, done, -, ha, h⟩ <;> rw [h] at hmem ⊢
  · exact hc
  · exact hc.congr rfl rfl rfl rfl rfl
  · have hst := Manager.account_settled ha
    exact hc.mono hst.abortRequested hst.cancelRequested (fun _ h => settled_current hst h) hmem
      (fun _ h => h) (fun _ h => h) rfl

theorem retry (hc : Covered s) (f : Flight) (r : Option Nat) (e : Error) : Covered (s.retry f r e) := by
  rcases retry_cases s f r e with h | ⟨ctx, next, -, -, h⟩ | ⟨ctx, -, -, h⟩ <;> rw [h]
  · exact hc
  · rw [handOut_eq]
    refine hc.mono rfl rfl (fun _ h => h) (fun g hg hb => ?_) (fun _ h => h) (fun _ h => h) rfl
    simp only [List.mem_append, Option.map_some, Option.toList_some, List.mem_singleton] at hg
    rcases hg with hg | rfl
    · exact hg
    · cases hb
  · have hc₁ : Covered (s.givingUp f r e) :=
      hc.mono rfl rfl (fun _ h => h) (fun _ h _ => h) (fun _ h => h) (fun _ h => h) rfl
    exact hc₁.fold _

theorem begin (hc : Covered s) (c : UnitCriteria) : Covered (s.begin c) := by
  by_cases he : c.workItems = []
  · rw [begin_empty s c he]
    exact hc.congr rfl rfl rfl rfl rfl
  · cases hp : s.tracker.isInProgress with
    | true =>
      rw [begin_busy s c he hp]
      exact hc
    | false =>
      rw [begin_new s c he hp]
      exact ⟨fun f _ _ _ hstop => by simp [Tracker.stopRequested] at hstop, fun _ => rfl⟩

theorem report (hc : Covered s) (p id : Nat) (r : Report) (u : Option WorkItem) : Covered (s.report p id r u) := by
  obtain ⟨ps, made, cl, o, pe, h, -⟩ := report_frame s p id r u
  rw [h]
  exact hc.congr rfl rfl rfl rfl rfl

theorem step (hc : Covered s) (ho : Owned s) (hs : Step s s') : Covered s' := by
  cases hs with
  | begin pre post c _ =>
    have hc₁ : Covered { s with serves := pre ++ post } := hc.congr rfl rfl rfl rfl rfl
    exact hc₁.begin c
  | accept pre post f h _ => exact hc.accept h
  | refuse pre post f e h _ =>
    refine hc.mono (by simp [replace_snd]) (by simp [replace_snd]) (fun _ h => by simpa [replace_snd] using h)
      (fun g hg hb => ?_) (by simp [replace_snd]) (by simp [replace_snd]) (by simp [replace_snd])
    rcases mem_split rfl hg with rfl | hg
    · cases hb
    · exact mem_of_mem_split h hg
  | retry pre post f r e h _ =>
    have hc₁ : Covered { s with flights := pre ++ post } :=
      hc.mono rfl rfl (fun _ h => h) (fun g hg _ => mem_of_mem_split h hg) (fun _ h => h) (fun _ h => h) rfl
    exact hc₁.retry f r e
  | complete pre post f r h _ _ =>
    have hc₁ : Covered { s with flights := pre ++ post } :=
      hc.mono rfl rfl (fun _ h => h) (fun g hg _ => mem_of_mem_split h hg) (fun _ h => h) (fun _ h => h) rfl
    exact hc₁.report _ _ _ _
  | stray p id r _ =>
    have hc₁ : Covered { s with rogue := true } := hc.congr rfl rfl rfl rfl rfl
    exact hc₁.report _ _ _ _
  | fold pre post q _ =>
    have hc₁ : Covered { s with pending := pre ++ post } := hc.congr rfl rfl rfl rfl rfl
    exact hc₁.fold q
  | forward pre post p j h => exact hc.forward h
  | stop k hk => exact hc.stop ho hk
  | act pre post p k h => exact hc.act h
  | close =>
    rw [close_eq]
    exact hc.mono rfl rfl (fun _ h => h) (fun _ h _ => h) (fun _ h => h) (fun _ h => h) rfl
  | resize level =>
    obtain ⟨ps, made, closed, h⟩ := resize_frame s level
    rw [h]
    exact hc.congr rfl rfl rfl rfl rfl
  | call | unready | relay | strayEvent | closeNext => exact hc.congr rfl rfl rfl rfl rfl

end Covered

theorem covered_reachable {s : Flow} (h : Reachable s) (hr : s.rogue = false) : Covered s := by
  induction h with
  | init discovers shared level limit => exact Covered.init discovers shared level limit
  | step hreach hs ih =>
    have hr₀ := hs.flags_before.1 hr
    exact (ih hr₀).step (owned_reachable hreach hr₀) hs

/-! ## No unit handed out after a stop -/

theorem fold_handed_of_stop (s : Flow) (q : Pending) (hstop : s.tracker.stopRequested = true) :
    (s.fold q).handed = s.handed := by
  rcases fold_cases s q with h | h | ⟨ctx, t, nx, done, -, ha, h⟩
  · rw [h]
  · rw [h]
  · -- with a stop recorded the fold hands out nothing
    have hnx : nx = none := by rw [(Manager.account_settled ha).next, Tracker.nextAfter_of_stop _ _ hstop]
    rw [h, hnx]
    simp

end Flow

open TestConductor.Flow

theorem Step.handed_of_stop {s s' : Flow} (hs : Step s s') (hc : s.tracker.current.isSome = true)
    (hstop : s.tracker.stopRequested = true) : s'.handed = s.handed := by
  cases hs with
  | begin pre post c _ =>
    by_cases he : c.workItems = []
    · rw [begin_empty _ c he]
    · rw [begin_busy { s with serves := pre ++ post } c he hc]
  | retry pre post f r e _ _ =>
    by_cases hcur : s.tracker.isCurrent f.ctx.id = true
    · rw [retry_givenUp { s with flights := pre ++ post } f r e hcur (Tracker.retried_of_stop _ _ _ _ hstop)]
      exact fold_handed_of_stop _ _ hstop
    · rw [retry_stale { s with flights := pre ++ post } f r e (by simpa using hcur)]
  | fold pre post q _ => exact fold_handed_of_stop _ q hstop
  | complete pre post f r _ _ _ =>
    obtain ⟨ps, made, cl, o, pe, h, -⟩ :=
      report_frame { s with flights := pre ++ post } f.proxy f.ctx.id r (some f.item)
    rw [h]
    rfl
  | stray p id r _ =>
    obtain ⟨ps, made, cl, o, pe, h, -⟩ := report_frame { s with rogue := true } p id r none
    rw [h]
    rfl
  | forward pre post p j _ =>
    unfold Flow.forward
    split <;> rfl
  | stop k _ =>
    rw [stop_eq]
    split <;> rfl
  | refuse pre post f e _ _ => simp [replace_snd]
  | close =>
    rw [close_eq]
    rfl
  | resize level =>
    obtain ⟨ps, made, closed, h⟩ := resize_frame s level
    rw [h]
    rfl
  | call | unready | accept | relay | strayEvent | act | closeNext => rfl

namespace Flow

/-- Stops reach the units at work. Whatever the proxies do, no step hands a unit out while the
request served has a stop recorded, and a discovery is owed only aborts. In an honest run, every
unit a proxy works on for the request served, once a stop was asked for, was told the stop it is
owed (an abort once one was asked for, else a cancel), or that stop is on its way to its proxy
from the broadcast, or the proxy, having accepted the unit after the broadcast, is still to pass
on the stop owed then; a stop is told only to a proxy at work on a unit. -/
theorem stops_reach_units {s : Flow} (h : Reachable s) :
    (∀ s', Step s s' → s.tracker.current.isSome = true → s.tracker.stopRequested = true →
      s'.handed = s.handed) ∧
    (s.rogue = false → s.manager.discovers = true → s.tracker.stopRequested = true →
      owedStop s.tracker = .abort) ∧
    (s.rogue = false → ∀ f ∈ s.flights, f.stage = .busy → s.tracker.isCurrent f.ctx.id = true →
      s.tracker.stopRequested = true → s.Warned f) := by
  refine ⟨fun s' hs hc hstop => hs.handed_of_stop hc hstop, fun hr hd hstop => ?_,
    fun hr => (covered_reachable h hr).warned⟩
  have hk := (covered_reachable h hr).aborts hd
  simp only [Tracker.stopRequested, hk, Bool.or_false] at hstop
  simp [owedStop, hstop]

/-- A fresh manager with one proxy begins a discovery of one source, the proxy accepts the unit,
and the caller aborts. -/
def abortedAtWork : Flow :=
  let s₁ : Flow := { Flow.init true true 1 1 with serves := [oneSource] }
  let s₂ := { s₁ with serves := [] }.begin oneSource
  ({ s₂ with flights := [oneSourceUnit], forwards := s₂.forwards ++ [(0, 1)],
             accepted := s₂.accepted ++ [(1, .source "a.dll")] } : Flow).stop .abort

theorem abortedAtWork_reachable : Reachable abortedAtWork := by
  have h₁ := (Reachable.init true true 1 1).step (.call _ oneSource rfl rfl)
  have h₂ := h₁.step (.begin _ [] [] oneSource rfl)
  have h₃ := h₂.step (.accept _ [] [] ⟨0, ⟨1, oneSource⟩, .source "a.dll", .offered, []⟩ rfl rfl)
  exact h₃.step (.stop _ .abort (.inl rfl))

/-- The abort asked for while the proxy works on the unit is owed to it and on its way. -/
theorem abortedAtWork_warned :
    Reachable abortedAtWork ∧ abortedAtWork.rogue = false ∧ oneSourceUnit ∈ abortedAtWork.flights ∧
      oneSourceUnit.stage = .busy ∧ abortedAtWork.tracker.isCurrent oneSourceUnit.ctx.id = true ∧
      abortedAtWork.tracker.stopRequested = true ∧ abortedAtWork.Warned oneSourceUnit ∧
      owedStop abortedAtWork.tracker = .abort := by
  have hmem : oneSourceUnit ∈ abortedAtWork.flights := by
    have h : abortedAtWork.flights = [oneSourceUnit] := rfl
    rw [h]
    exact List.mem_singleton_self _
  have hs := stops_reach_units abortedAtWork_reachable
  exact ⟨abortedAtWork_reachable, rfl, hmem, rfl, rfl, rfl, hs.2.2 rfl _ hmem rfl rfl rfl, hs.2.1 rfl rfl rfl⟩

end Flow

end TestConductor
