import TestConductor.Proofs.Parallel.Owners
import Mathlib.Logic.Relation
/-! # Closing a manager

Closing marks the manager closed and gives the proxies of its pool to a task that closes them one
after another. The mark is read in one place only, where a call asks for a new request, which it
refuses. No other stretch of any task reads the mark or changes it, so everything else goes on
as it would on an open manager: a request in flight still hands out the units left in its
queue, and a proxy that must be swapped out still gets a fresh one from the factory, which the
close does not close.
-/
namespace TestConductor

namespace Manager

theorem settleUnit_mk (l : Nat) (c : Option (Nat × Context)) (q : WorkQueue) (ta : Tally) (i : Nat)
    (a ca b : Bool) (n : Option Nat) :
    settleUnit ⟨l, c, q, ta, i, a, ca, b⟩ n =
      ((settleUnit ⟨l, c, q, ta, i, a, ca, false⟩ n).1,
        { (settleUnit ⟨l, c, q, ta, i, a, ca, false⟩ n).2 with closed := b }) := by
  simp only [settleUnit, Tracker.completeUnit_eq]
  rfl

theorem account_closed (t : Tracker Context Tally) (r : Report) (n : Option Nat) (b : Bool) :
    account { t with closed := b } r n = (account t r n).map fun x => ({ x.1 with closed := b }, x.2) := by
  obtain ⟨l, c, q, ta, i, a, ca, cl⟩ := t
  cases r with
  | discovery total chunk aborted =>
    simp only [account, accountDiscovery]
    -- the tally read does not depend on whether the manager was closed
    have hd : discoveryTally ⟨l, c, q, ta, i, a, ca, b⟩ = discoveryTally ⟨l, c, q, ta, i, a, ca, cl⟩ := rfl
    rw [hd]
    cases (discoveryTally ⟨l, c, q, ta, i, a, ca, cl⟩).aggregate? total aborted with
    | none => rfl
    | some x =>
      simp only [Option.bind_eq_bind, Option.bind_some]
      rw [settleUnit_mk _ _ _ _ _ _ _ b, settleUnit_mk _ _ _ _ _ _ _ cl]
      generalize settleUnit ⟨l, c, q, .discovery x, i, a, ca, false⟩ n = p
      obtain ⟨u, t'⟩ := p
      split <;> simp [Tracker.finish, Tracker.hasPending]
  | run c' chunk attachments metrics =>
    simp only [account, accountRun]
    have hr : runTally ⟨l, c, q, ta, i, a, ca, b⟩ = runTally ⟨l, c, q, ta, i, a, ca, cl⟩ := rfl
    rw [hr]
    cases (runTally ⟨l, c, q, ta, i, a, ca, cl⟩).aggregate? c' attachments metrics with
    | none => rfl
    | some x =>
      simp only [Option.bind_eq_bind, Option.bind_some]
      rw [settleUnit_mk _ _ _ _ _ _ _ b, settleUnit_mk _ _ _ _ _ _ _ cl]
      generalize settleUnit ⟨l, c, q, .run x, i, a, ca, false⟩ n = p
      obtain ⟨u, t'⟩ := p
      split <;> simp [Tracker.finish, Tracker.hasPending]

end Manager

namespace Flow

def withClosed (s : Flow) (b : Bool) : Flow := s.setTracker { s.tracker with closed := b }

@[simp] theorem withClosed_tracker (s : Flow) (b : Bool) :
    (s.withClosed b).tracker = { s.tracker with closed := b } := rfl

@[simp] theorem withClosed_pool (s : Flow) (b : Bool) : (s.withClosed b).pool = s.pool := rfl

@[simp] theorem withClosed_manager_pool (s : Flow) (b : Bool) :
    (s.withClosed b).manager.pool = s.manager.pool := rfl

@[simp] theorem withClosed_made (s : Flow) (b : Bool) : (s.withClosed b).made = s.made := rfl

theorem withClosed_self (s : Flow) : s.withClosed s.tracker.closed = s := rfl

theorem withClosed_withClosed (s : Flow) (b c : Bool) : (s.withClosed b).withClosed c = s.withClosed c := rfl

/-! ## No stretch of a task reads the mark -/

theorem replace_withClosed (s : Flow) (p : Nat) (b : Bool) :
    (s.withClosed b).replace p = ((s.replace p).1, (s.replace p).2.withClosed b) := by
  unfold replace
  by_cases h : s.pool.contains p = true
  · simp only [withClosed_pool, h, if_true]
    rfl
  · simp only [withClosed_pool, h, if_false, Bool.false_eq_true]

theorem successor_withClosed (s : Flow) (p : Nat) (a b : Bool) :
    (s.withClosed b).successor p a = ((s.successor p a).1, (s.successor p a).2.withClosed b) := by
  unfold successor
  by_cases h : (a || !s.manager.pool.shared) = true
  · simp only [withClosed_manager_pool, h, if_true]
    exact replace_withClosed s p b
  · simp only [withClosed_manager_pool, h, if_false, Bool.false_eq_true]

theorem handOut_withClosed (s : Flow) (ctx : Context) (nx : Option (Nat × WorkItem)) (b : Bool) :
    (s.withClosed b).handOut ctx nx = (s.handOut ctx nx).withClosed b := by
  cases nx <;> rfl

theorem report_withClosed (s : Flow) (p id : Nat) (r : Report) (u : Option WorkItem) (b : Bool) :
    (s.withClosed b).report p id r u = (s.report p id r u).withClosed b := by
  have hx : (s.withClosed b).tracker.context id = s.tracker.context id := rfl
  cases hc : s.tracker.context id with
  | none => rw [report_stale _ p id r u (hx.trans hc), report_stale s p id r u hc]
  | some ctx =>
    rw [report_current _ p id r u (hx.trans hc), report_current s p id r u hc]
    -- the chunk is told alike whether the manager is marked closed or not
    have hout : ({ s.withClosed b with out := (s.withClosed b).out ++ (r.chunkEvent.map ((some id, ·))).toList } : Flow) =
        ({ s with out := s.out ++ (r.chunkEvent.map ((some id, ·))).toList } : Flow).withClosed b := rfl
    simp only
    rw [hout, successor_withClosed]
    rfl

theorem fold_withClosed (s : Flow) (q : Pending) (b : Bool) :
    (s.withClosed b).fold q = (s.fold q).withClosed b := by
  have hc : (s.withClosed b).tracker.isCurrent q.ctx.id = s.tracker.isCurrent q.ctx.id := rfl
  unfold fold
  rw [hc]
  cases hcur : s.tracker.isCurrent q.ctx.id
  · rfl
  · simp only [Bool.not_true, Bool.false_eq_true, if_false, withClosed_tracker]
    rw [Manager.account_closed]
    cases Manager.account s.tracker q.report q.next with
    | none => rfl
    | some x =>
      obtain ⟨t, nx, done⟩ := x
      cases nx <;> cases done <;> rfl

theorem retry_withClosed (s : Flow) (f : Flight) (r : Option Nat) (e : Error) (b : Bool) :
    (s.withClosed b).retry f r e = (s.retry f r e).withClosed b := by
  have hc : (s.withClosed b).tracker.isCurrent f.ctx.id = s.tracker.isCurrent f.ctx.id := rfl
  have hr : (s.withClosed b).tracker.retried f.item (s.withClosed b).manager.retryLimit r =
      s.tracker.retried f.item s.manager.retryLimit r := rfl
  cases hcur : s.tracker.isCurrent f.ctx.id with
  | false => rw [retry_stale _ f r e (hc.trans hcur), retry_stale s f r e hcur]
  | true =>
    cases hnext : s.tracker.retried f.item s.manager.retryLimit r with
    | some next =>
      rw [retry_handed _ f r e (hc.trans hcur) (hr.trans hnext), retry_handed s f r e hcur hnext,
        ← handOut_withClosed]
      rfl
    | none =>
      rw [retry_givenUp _ f r e (hc.trans hcur) (hr.trans hnext), retry_givenUp s f r e hcur hnext,
        ← fold_withClosed]
      rfl

theorem begin_withClosed (s : Flow) (c : UnitCriteria) (b : Bool) :
    (s.withClosed b).begin c = (s.begin c).withClosed b := by
  have hp : (s.withClosed b).tracker.isInProgress = s.tracker.isInProgress := rfl
  by_cases he : c.workItems = []
  · rw [begin_empty _ c he, begin_empty s c he]
    rfl
  · cases hip : s.tracker.isInProgress with
    | true => rw [begin_busy _ c he (hp.trans hip), begin_busy s c he hip]
    | false =>
      rw [begin_new _ c he (hp.trans hip), begin_new s c he hip]
      rfl

theorem stop_withClosed (s : Flow) (k : StopRequest) (b : Bool) :
    (s.withClosed b).stop k = (s.stop k).withClosed b := by
  rw [stop_eq, stop_eq]
  cases h : s.tracker.current
  · simp only [withClosed_tracker, h, Option.isSome_none, Bool.false_eq_true, if_false]
  · simp only [withClosed_tracker, h, Option.isSome_some, if_true]
    rfl

theorem tell_withClosed (s : Flow) (p : Nat) (k : StopRequest) (b : Bool) :
    (s.withClosed b).tell p k = (s.tell p k).withClosed b := rfl

theorem forward_withClosed (s : Flow) (p id : Nat) (b : Bool) :
    (s.withClosed b).forward p id = (s.forward p id).withClosed b := by
  have hk : (s.withClosed b).tracker.pendingStop id = s.tracker.pendingStop id := rfl
  unfold forward
  rw [hk]
  split <;> rfl

theorem resize_withClosed (s : Flow) (level : Nat) (b : Bool) :
    (s.withClosed b).resize level = (s.resize level).withClosed b := by
  have hp : (s.withClosed b).tracker.isInProgress = s.tracker.isInProgress := rfl
  unfold resize
  rw [hp]
  cases s.tracker.isInProgress
  · simp only [Bool.false_eq_true, if_false, withClosed_pool, withClosed_made]
    by_cases hl : max level 1 > s.pool.length
    · simp only [hl, if_true]
      rfl
    · simp only [hl, if_false]
      rfl
  · rfl

theorem closed_of_commutes (f : Flow → Flow) (s : Flow) (h : ∀ b, f (s.withClosed b) = (f s).withClosed b) :
    (f s).tracker.closed = s.tracker.closed := by
  have := congrArg (fun x : Flow => x.tracker.closed) (h s.tracker.closed)
  simpa [withClosed_self] using this

end Flow

open TestConductor.Flow

theorem Step.withClosed {s s' : Flow} (hs : Step s s') (hc : s'.tracker.closed = false)
    (hv : s'.serves.Sublist s.serves) : Step (s.withClosed true) (s'.withClosed true) := by
  cases hs with
  | call c _ _ =>
    have := hv.length_le
    simp only [List.length_append, List.length_singleton] at this
    omega
  | unready pre post c h => exact .unready _ pre post c h
  | begin pre post c h =>
    rw [← begin_withClosed]
    exact .begin _ pre post c h
  | accept pre post f h hf => exact .accept _ pre post f h hf
  | refuse pre post f e h hf =>
    have h₁ := Step.refuse (s.withClosed true) pre post f e h hf
    rw [replace_withClosed] at h₁
    exact h₁
  | retry pre post f r e h hf =>
    rw [← retry_withClosed]
    exact .retry _ pre post f r e h hf
  | relay pre post f e h hf he => exact .relay _ pre post f e h hf he
  | complete pre post f r h hf hr =>
    rw [← report_withClosed]
    exact .complete _ pre post f r h hf hr
  | stray p id r hr =>
    rw [← report_withClosed]
    exact .stray _ p id r hr
  | strayEvent id e he => exact .strayEvent _ id e he
  | fold pre post q h =>
    rw [← fold_withClosed]
    exact .fold _ pre post q h
  | forward pre post p id h =>
    rw [← forward_withClosed]
    exact .forward _ pre post p id h
  | stop k hk =>
    rw [← stop_withClosed]
    exact .stop _ k hk
  | act pre post p k h =>
    rw [← tell_withClosed]
    exact .act _ pre post p k h
  | close =>
    rw [close_eq] at hc
    simp at hc
  | closeNext p rest h => exact .closeNext _ p rest h
  | resize level =>
    rw [← resize_withClosed]
    exact .resize _ level

theorem Step.closed_or_close {s s' : Flow} (hs : Step s s') :
    s'.tracker.closed = s.tracker.closed ∨ s' = s.close := by
  cases hs with
  | begin pre post c _ => exact .inl (closed_of_commutes (·.begin c) _ (begin_withClosed _ c))
  | refuse pre post f e _ _ =>
    exact .inl (closed_of_commutes (fun x => (x.replace f.proxy).2) s fun b => by rw [replace_withClosed])
  | retry pre post f r e _ _ => exact .inl (closed_of_commutes (·.retry f r e) _ (retry_withClosed _ f r e))
  | complete pre post f r _ _ _ =>
    exact .inl (closed_of_commutes (·.report f.proxy f.ctx.id r (some f.item)) _
      (report_withClosed _ f.proxy f.ctx.id r (some f.item)))
  | stray p id r _ => exact .inl (closed_of_commutes (·.report p id r none) _ (report_withClosed _ p id r none))
  | fold pre post q _ => exact .inl (closed_of_commutes (·.fold q) _ (fold_withClosed _ q))
  | forward pre post p id _ => exact .inl (closed_of_commutes (·.forward p id) _ (forward_withClosed _ p id))
  | stop k _ => exact .inl (closed_of_commutes (·.stop k) _ (stop_withClosed s k))
  | act pre post p k _ => exact .inl (closed_of_commutes (·.tell p k) _ (tell_withClosed _ p k))
  | resize level => exact .inl (closed_of_commutes (·.resize level) _ (resize_withClosed s level))
  | close => exact .inr rfl
  | call | unready | accept | relay | strayEvent | closeNext => exact .inl rfl

theorem Step.serves_of_closed {s s' : Flow} (hs : Step s s') (hc : s.tracker.closed = true) :
    s'.serves.Sublist s.serves := by
  cases hs with
  | call c h _ => simp [h] at hc
  | unready pre post c h => exact h ▸ (List.sublist_cons_self c post).append_left pre
  | begin pre post c h =>
    obtain ⟨t, fl, bg, hd, o, h'⟩ := begin_frame { s with serves := pre ++ post } c
    rw [h']
    exact h ▸ (List.sublist_cons_self c post).append_left pre
  | refuse pre post f e _ _ => simp [replace_snd]
  | retry pre post f r e _ _ =>
    obtain ⟨t, fl, hd, mg, gu, fo, o, u, ov, h⟩ := retry_frame { s with flights := pre ++ post } f r e
    rw [h]
    exact List.Sublist.refl _
  | complete pre post f r _ _ _ =>
    obtain ⟨ps, made, cl, o, pe, h, -⟩ :=
      report_frame { s with flights := pre ++ post } f.proxy f.ctx.id r (some f.item)
    rw [h]
    exact List.Sublist.refl _
  | stray p id r _ =>
    obtain ⟨ps, made, cl, o, pe, h, -⟩ := report_frame { s with rogue := true } p id r none
    rw [h]
    exact List.Sublist.refl _
  | fold pre post q _ =>
    obtain ⟨t, fl, hd, fo, o, u, ov, h⟩ := fold_frame { s with pending := pre ++ post } q
    rw [h]
    exact List.Sublist.refl _
  | forward pre post p j _ =>
    unfold Flow.forward
    split <;> exact List.Sublist.refl _
  | stop k _ =>
    rw [stop_eq]
    split <;> exact List.Sublist.refl _
  | close =>
    rw [close_eq]
    exact List.Sublist.refl _
  | resize level =>
    obtain ⟨ps, made, closed, h⟩ := resize_frame s level
    rw [h]
    exact List.Sublist.refl _
  | accept | relay | strayEvent | act | closeNext => exact List.Sublist.refl _

/-- The proxies a manager made: how many, those pooled, those closed and those the closing task
has still to close. -/
structure Proxies where
  pool : List Nat
  made : Nat
  closed : List Nat
  closing : List Nat

namespace Flow

def proxies (s : Flow) : Proxies := ⟨s.pool, s.made, s.closed, s.closing⟩

end Flow

namespace Proxies

/-- How a step changes the proxies: it keeps them, swaps a pooled one for a fresh one and closes
it, grows the pool by fresh ones, cuts the pool and closes the rest, gives the pool to the
closing task, or closes the next proxy that task holds. -/
inductive Reshapes (v v' : Proxies) : Prop where
  | keep (h : v' = v)
  | swap (p : Nat) (hin : p ∈ v.pool)
      (h : v' = ⟨Pool.swap v.pool p v.made, v.made + 1, v.closed ++ [p], v.closing⟩)
  | grow (k : Nat) (h : v' = ⟨v.pool ++ List.range' v.made k, v.made + k, v.closed, v.closing⟩)
  | cut (level : Nat) (h : v' = ⟨v.pool.take level, v.made, v.closed ++ v.pool.drop level, v.closing⟩)
  | handOver (h : v' = ⟨v.pool, v.made, v.closed, v.closing ++ v.pool⟩)
  | closeNext (p : Nat) (rest : List Nat) (hq : v.closing = p :: rest)
      (h : v' = ⟨v.pool, v.made, v.closed ++ [p], rest⟩)

end Proxies

open Proxies

namespace Flow

theorem successor_reshapes (s : Flow) (p : Nat) (a : Bool) : Reshapes s.proxies (s.successor p a).2.proxies := by
  rw [successor_snd]
  cases hsw : s.swaps p a with
  | true =>
    have hin : p ∈ s.pool := by simpa [swaps] using (Bool.and_eq_true_iff.1 hsw).2
    exact .swap p hin rfl
  | false => exact .keep rfl

theorem report_reshapes (s : Flow) (p id : Nat) (r : Report) (u : Option WorkItem) :
    Reshapes s.proxies (s.report p id r u).proxies := by
  cases hx : s.tracker.context id with
  | none =>
    rw [report_stale s p id r u hx]
    exact .keep rfl
  | some ctx =>
    rw [report_current s p id r u hx]
    -- the chunk told first leaves the proxies alone
    exact successor_reshapes { s with out := s.out ++ (r.chunkEvent.map ((some id, ·))).toList } p r.aborted

end Flow

theorem Step.reshapes {s s' : Flow} (hs : Step s s') : Reshapes s.proxies s'.proxies := by
  cases hs with
  | refuse pre post f e _ _ =>
    rw [replace_snd]
    by_cases hin : s.pool.contains f.proxy = true
    · simp only [hin, if_true]
      exact .swap f.proxy (show f.proxy ∈ s.pool by simpa using hin) rfl
    · simp only [hin, if_false, Bool.false_eq_true]
      exact .keep rfl
  | complete pre post f r _ _ _ =>
    exact report_reshapes { s with flights := pre ++ post } f.proxy f.ctx.id r (some f.item)
  | stray p id r _ => exact report_reshapes { s with rogue := true } p id r none
  | begin pre post c _ =>
    obtain ⟨t, fl, bg, hd, o, h⟩ := begin_frame { s with serves := pre ++ post } c
    rw [h]
    exact .keep rfl
  | retry pre post f r e _ _ =>
    obtain ⟨t, fl, hd, mg, gu, fo, o, u, ov, h⟩ := retry_frame { s with flights := pre ++ post } f r e
    rw [h]
    exact .keep rfl
  | fold pre post q _ =>
    obtain ⟨t, fl, hd, fo, o, u, ov, h⟩ := fold_frame { s with pending := pre ++ post } q
    rw [h]
    exact .keep rfl
  | forward pre post p j _ =>
    unfold Flow.forward
    split <;> exact .keep rfl
  | stop k _ =>
    rw [stop_eq]
    split <;> exact .keep rfl
  | close =>
    rw [close_eq]
    split
    · exact .keep rfl
    · exact .handOver rfl
  | closeNext p rest h => exact .closeNext p rest h rfl
  | resize level =>
    unfold Flow.resize
    split
    · exact .keep rfl
    · dsimp only
      split
      · exact .grow _ rfl
      · exact .cut _ rfl
  | call | unready | accept | relay | strayEvent | act => exact .keep rfl

namespace Proxies

def Kept (v : Proxies) : Prop := ∀ p < v.made, p ∈ v.pool ∨ p ∈ v.closed ∨ p ∈ v.closing

def Queued (v : Proxies) (p : Nat) : Prop := p ∈ v.closed ∨ p ∈ v.closing

theorem Reshapes.kept {v v' : Proxies} (h : Reshapes v v') (hk : v.Kept) : v'.Kept := by
  cases h with
  | keep h => exact h ▸ hk
  | swap q hin h =>
    subst h
    intro x hx
    by_cases hxm : x = v.made
    · -- the fresh proxy takes the place of the one swapped out
      exact .inl (Pool.mem_swap.2 (.inr ⟨hxm, hin⟩))
    · have hlt : x < v.made := by simp only at hx; omega
      rcases hk x hlt with hp | hc | hq
      · by_cases hxq : x = q
        · exact .inr (.inl (by simp [hxq]))
        · exact .inl (Pool.mem_swap.2 (.inl ⟨hp, hxq⟩))
      · exact .inr (.inl (List.mem_append_left _ hc))
      · exact .inr (.inr hq)
  | grow k h =>
    subst h
    intro x hx
    by_cases hxm : x < v.made
    · rcases hk x hxm with hp | hc | hq
      · exact .inl (List.mem_append_left _ hp)
      · exact .inr (.inl hc)
      · exact .inr (.inr hq)
    · -- a proxy made by the growth is one of the fresh ones
      simp only at hx
      exact .inl (List.mem_append_right _ (List.mem_range'_1.2 ⟨by omega, by omega⟩))
  | cut level h =>
    subst h
    intro x hx
    rcases hk x hx with hp | hc | hq
    · rw [← List.take_append_drop level v.pool] at hp
      rcases List.mem_append.1 hp with ht | hd
      · exact .inl ht
      · exact .inr (.inl (List.mem_append_right _ hd))
    · exact .inr (.inl (List.mem_append_left _ hc))
    · exact .inr (.inr hq)
  | handOver h =>
    subst h
    intro x hx
    rcases hk x hx with hp | hc | hq
    · exact .inr (.inr (List.mem_append_right _ hp))
    · exact .inr (.inl hc)
    · exact .inr (.inr (List.mem_append_left _ hq))
  | closeNext q rest hq h =>
    subst h
    intro x hx
    rcases hk x hx with hp | hc | hq'
    · exact .inl hp
    · exact .inr (.inl (List.mem_append_left _ hc))
    · rw [hq] at hq'
      rcases List.mem_cons.1 hq' with rfl | hr
      · exact .inr (.inl (by simp))
      · exact .inr (.inr hr)

theorem Reshapes.queued {v v' : Proxies} (h : Reshapes v v') {p : Nat} (hp : v.Queued p) : v'.Queued p := by
  cases h with
  | keep h => exact h ▸ hp
  | swap q _ h =>
    subst h
    exact hp.imp (List.mem_append_left _) id
  | grow k h =>
    subst h
    exact hp
  | cut level h =>
    subst h
    exact hp.imp (List.mem_append_left _) id
  | handOver h =>
    subst h
    exact hp.imp id (List.mem_append_left _)
  | closeNext q rest hq h =>
    subst h
    rcases hp with hc | hq'
    · exact .inl (List.mem_append_left _ hc)
    · rw [hq] at hq'
      rcases List.mem_cons.1 hq' with rfl | hr
      · exact .inl (by simp)
      · exact .inr hr

end Proxies

theorem kept_reachable {s : Flow} (h : Reachable s) : s.proxies.Kept := by
  induction h with
  | init discovers shared level limit =>
    intro p hp
    exact .inl (List.mem_range.2 hp)
  | step _ hs ih => exact hs.reshapes.kept ih

theorem queued_run {s s' : Flow} (h : Relation.ReflTransGen Step s s') {p : Nat} (hp : s.proxies.Queued p) :
    s'.proxies.Queued p := by
  induction h with
  | refl => exact hp
  | tail _ hs ih => exact hs.reshapes.queued ih

/-- What closing does. In every run each proxy made is pooled, closed or waiting for the closing
task; once a first close gives the pool to that task, every proxy made before it is closed when
the task is done, whatever else runs meanwhile. A closed manager stays closed and takes no call.
Every other step it takes as if it were open: whatever the same manager not closed could do next,
short of taking a call or being closed, the closed one does too, so a request in flight goes on
handing out units and having proxies made. Each request is still reported at most once. -/
theorem close_refuses_calls_only {s : Flow} (h : Reachable s) :
    (∀ p < s.made, p ∈ s.pool ∨ p ∈ s.closed ∨ p ∈ s.closing) ∧
    (s.tracker.closed = false → ∀ s₂, Relation.ReflTransGen Step s.close s₂ → s₂.closing = [] →
      ∀ p < s.made, p ∈ s₂.closed) ∧
    (s.tracker.closed = true → ∀ s', Step s s' → s'.tracker.closed = true ∧ s'.serves.Sublist s.serves) ∧
    (s.tracker.closed = true → ∀ s', Step (s.withClosed false) s' → s'.tracker.closed = false →
      s'.serves.Sublist s.serves → Step s (s'.withClosed true)) ∧
    (∀ id, (s.completions id).length ≤ 1) := by
  have hk := kept_reachable h
  refine ⟨hk, fun hc s₂ hrun hempty p hp => ?_, fun hc s' hs => ⟨?_, hs.serves_of_closed hc⟩,
    fun hc s' hs hc' hv => ?_, (numbered_reachable h).once⟩
  · -- the first close gives the whole pool to the closing task
    have hq : s.close.proxies.Queued p := by
      rw [close_eq]
      simp only [hc, Bool.false_eq_true, if_false]
      rcases hk p hp with hp' | hc' | hq'
      · exact .inr (List.mem_append_right _ hp')
      · exact .inl hc'
      · exact .inr (List.mem_append_left _ hq')
    rcases queued_run hrun hq with hcl | hq'
    · exact hcl
    · simp [Flow.proxies, hempty] at hq'
  · rcases hs.closed_or_close with h' | rfl
    · exact h'.trans hc
    · simp [close_eq]
  · have hself : s.withClosed true = s := by
      calc s.withClosed true = s.withClosed s.tracker.closed := by rw [hc]
        _ = s := withClosed_self s
    have h₁ := hs.withClosed hc' hv
    rwa [withClosed_withClosed, hself] at h₁

def twoSources : UnitCriteria := .discovery (DiscoveryCriteria.new ["a", "b"])

def firstUnit : Flight := ⟨0, ⟨1, twoSources⟩, .source "a", .busy, []⟩

/-- A fresh manager with one proxy, hosts not shared, begins a discovery of two sources; the
proxy accepts the first, and the caller closes the manager. -/
def closedAtWork : Flow :=
  let s₁ : Flow := { Flow.init true false 1 1 with serves := [twoSources] }
  let s₂ := { s₁ with serves := [] }.begin twoSources
  ({ s₂ with flights := [firstUnit], forwards := s₂.forwards ++ [(0, 1)],
             accepted := s₂.accepted ++ [(1, .source "a")] } : Flow).close

theorem closedAtWork_reachable : Reachable closedAtWork := by
  have h₁ := (Reachable.init true false 1 1).step (.call _ twoSources rfl rfl)
  have h₂ := h₁.step (.begin _ [] [] twoSources rfl)
  have h₃ := h₂.step (.accept _ [] [] ⟨0, ⟨1, twoSources⟩, .source "a", .offered, []⟩ rfl rfl)
  exact h₃.step (.close _)

/-- After the close proxy 0 completes its unit; hosts are not shared, so the factory makes proxy 1
in its place. -/
def closedReplaced : Flow :=
  { closedAtWork with flights := [] }.report 0 1 (.discovery 2 none false) (some (.source "a"))

def closedRefilled : Flow :=
  { closedReplaced with pending := [] }.fold
    ⟨⟨1, twoSources⟩, .discovery 2 none false, some 1, some (.source "a")⟩

/-- A closed manager still has its factory make a proxy, and still hands a unit out. -/
theorem closed_manager_dispatches :
    Reachable closedAtWork ∧ closedAtWork.tracker.closed = true ∧
      Step closedAtWork closedReplaced ∧ closedReplaced.made = closedAtWork.made + 1 ∧
      Step closedReplaced closedRefilled ∧ closedRefilled.tracker.closed = true ∧
      closedRefilled.handed = closedAtWork.handed ++ [(1, .source "b")] :=
  ⟨closedAtWork_reachable, rfl, .complete _ [] [] firstUnit _ rfl rfl rfl, rfl, .fold _ [] [] _ rfl, rfl, rfl⟩

/-- The manager closed with a unit at work takes no call. -/
theorem closedAtWork_takes_no_call :
    Reachable closedAtWork ∧ closedAtWork.tracker.closed = true ∧
      ∀ s', Step closedAtWork s' → s'.tracker.closed = true ∧ s'.serves.Sublist closedAtWork.serves :=
  ⟨closedAtWork_reachable, rfl, (close_refuses_calls_only closedAtWork_reachable).2.2.1 rfl⟩

end TestConductor