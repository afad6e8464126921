import TestConductor.Delivery
import TestConductor.Proofs.Parallel.Broadcast
import TestConductor.Proofs.Parallel.Hosted
import TestConductor.Proofs.Parallel.Ledger
import TestConductor.Proofs.Runtime.Guards
/-! # The manager's programs take the flow's steps

A world mirrors a flow when its manager is the flow's, up to the factory of its pool, and its
proxies are those the flow counts as made. Each stretch of the manager's programs, from one wait
to the next, moves a mirrored world to one that mirrors the flow after a step or a few, tells the
caller what those steps tell it, and starts a hand-over task for each unit they hand out.
-/
namespace TestConductor

open Async

def Flight.job (m : Nat) (f : Flight) : Job := .unit m f.proxy f.item f.ctx

def Proxy.tellStop (p : Nat) : Option StopRequest → Act Unit
  | some .abort => Proxy.abort p
  | some .cancel => Proxy.cancel p
  | none => pure ()

def StopRequest.action : StopRequest → PoolAction
  | .abort => .abort
  | .cancel => .cancel

def Manager.withFactory (x : Manager) (f : Factory) : Manager := { x with pool := { x.pool with factory := f } }

namespace Manager

def retryRefused (m : Nat) (item : WorkItem) (ctx : Context) (e : Error) (replacement : Option Nat) : Act Unit := do
  let mgr ← Async.reads fun w => w.manager m
  if !mgr.tracker.isCurrent ctx.id then return
  let (retry, t) := mgr.tracker.retry item mgr.retryLimit replacement
  Async.modify fun w => w.setTracker m t
  match retry with
  | some (r, next) => dispatch m r next ctx
  | none =>
    let message := dispatchFailure mgr.discovers item.sourceName e
    tell (.log .error message)
    if mgr.discovers then discard (completeDiscoveryUnit m ctx (-1) true replacement)
    else
      discard (completeRunUnit m ctx (RunCompletion.aborted (some message) Duration.zero) [] [] replacement)

theorem refused_eq (m p : Nat) (item : WorkItem) (ctx : Context) (e : Error) :
    refused m p item ctx e = (Pool.replace m p >>= retryRefused m item ctx e) :=
  rfl

def serveBegin (m : Nat) (c : UnitCriteria) (ps : List Nat) : Act (Except Error Unit) := do
  let mgr ← Async.reads fun w => w.manager m
  if mgr.tracker.isInProgress then return .error (refusal mgr.discovers false)
  let (id, t) := mgr.tracker.nextId
  let ctx : Context := ⟨id, c⟩
  let (batch, t) := t.begin id ctx c.workItems mgr.freshTally ps
  Async.modify fun w => w.setTracker m t
  for (p, item) in batch do
    dispatch m p item ctx
  return .ok ()

def serveReadied (m : Nat) (c : UnitCriteria) (r : Except Error Unit) : Act (Except Error Unit) := do
  if let .error e := r then return .error e
  if c.workItems.isEmpty then
    tell (emptyCompletion c)
    return .ok ()
  let ps ← Pool.proxies m
  Async.interleave
  serveBegin m c ps

theorem serve_eq (m : Nat) (c : UnitCriteria) : serve m c = (do
    let mgr ← Async.reads fun w => w.manager m
    if mgr.tracker.closed || mgr.tracker.isInProgress then
      return .error (refusal mgr.discovers mgr.tracker.closed)
    serveReadied m c (← prepare m)) :=
  rfl

end Manager

namespace World

theorem manager_setManager {w : World} {m : Nat} (hm : m < w.managers.length) (f : Manager → Manager) :
    (w.setManager m f).manager m = f (w.manager m) := by
  simp [manager, setManager, getElem?_update, hm]

theorem pool_eq {w : World} {m : Nat} (hm : m < w.managers.length) : w.pool m = (w.manager m).pool := by
  simp [pool, manager, hm]

end World

namespace Flow

/-- World `w` holds manager `m` as flow `s` has it: the same manager up to its factory, and as many
proxies as the flow has made; a mirrored flow closes its proxies at once, so none waits to be
closed. -/
structure Mirrors (m : Nat) (w : World) (s : Flow) : Prop where
  present : m < w.managers.length
  manager : w.manager m = s.manager.withFactory (w.manager m).pool.factory
  made : w.proxies.length = s.made
  closing : s.closing = []

def Echoes (s s' : Flow) (w u : World) : Prop :=
  ∃ new, s'.out = s.out ++ new ∧ u.events = w.events ++ new.map Prod.snd

namespace Mirrors

variable {m : Nat} {w u : World} {s s' : Flow}

theorem tracker (h : Mirrors m w s) : w.tracker m = s.tracker := by
  rw [World.tracker, h.manager]
  rfl

theorem members (h : Mirrors m w s) : (w.pool m).members = s.pool := by
  rw [World.pool_eq h.present, h.manager]
  rfl

theorem shared (h : Mirrors m w s) : (w.pool m).shared = s.manager.pool.shared := by
  rw [World.pool_eq h.present, h.manager]
  rfl

theorem discovers (h : Mirrors m w s) : (w.manager m).discovers = s.manager.discovers := by
  rw [h.manager]
  rfl

theorem retryLimit (h : Mirrors m w s) : (w.manager m).retryLimit = s.manager.retryLimit := by
  rw [h.manager]
  rfl

theorem freshTally (h : Mirrors m w s) : (w.manager m).freshTally = s.manager.freshTally := by
  simp only [Manager.freshTally, h.discovers]

theorem frame (h : Mirrors m w s) (hm : u.managers = w.managers) (hs : s'.manager = s.manager)
    (hp : u.proxies.length = s'.made) (hc : s'.closing = []) : Mirrors m u s' := by
  have hman : u.manager m = w.manager m := by simp only [World.manager, hm]
  exact ⟨hm ▸ h.present, hman ▸ hs ▸ h.manager, hp, hc⟩

theorem ghost (h : Mirrors m w s) (hs : s'.manager = s.manager) (hmade : s'.made = s.made)
    (hc : s'.closing = []) : Mirrors m w s' :=
  h.frame rfl hs (hmade ▸ h.made) hc

theorem setTracker (h : Mirrors m w s) (t : Tracker Context Tally) : Mirrors m (w.setTracker m t) (s.setTracker t) := by
  have hman : (w.setTracker m t).manager m = { w.manager m with tracker := t } :=
    World.manager_setManager h.present _
  refine ⟨(World.length_update m w.managers _).symm ▸ h.present, ?_, h.made, h.closing⟩
  rw [hman, h.manager]
  rfl

theorem setPool (h : Mirrors m w s) (f : List Nat → List Nat) :
    Mirrors m (w.setPool m fun p => { p with members := f p.members }) (s.setPool (f s.pool)) := by
  have hman : (w.setPool m fun p => { p with members := f p.members }).manager m =
      { w.manager m with pool := { (w.manager m).pool with members := f (w.manager m).pool.members } } :=
    World.manager_setManager h.present _
  refine ⟨(World.length_update m w.managers _).symm ▸ h.present, ?_, h.made, h.closing⟩
  rw [hman, h.manager]
  rfl

theorem report (h : Mirrors m w s) (e : CallerEvent) : Mirrors m (w.report e) s := h.frame rfl rfl h.made h.closing

end Mirrors

theorem Echoes.rfl {s : Flow} {w : World} : Echoes s s w w := ⟨[], by simp, by simp⟩

theorem Echoes.of_eq {s s' : Flow} {w u : World} (ho : s'.out = s.out) (he : u.events = w.events) :
    Echoes s s' w u :=
  ⟨[], by simp [ho], by simp [he]⟩

theorem Echoes.trans {s₁ s₂ s₃ : Flow} {w₁ w₂ w₃ : World} (h₁ : Echoes s₁ s₂ w₁ w₂) (h₂ : Echoes s₂ s₃ w₂ w₃) :
    Echoes s₁ s₃ w₁ w₃ := by
  obtain ⟨a, ha, hwa⟩ := h₁
  obtain ⟨b, hb, hwb⟩ := h₂
  exact ⟨a ++ b, by simp [hb, ha], by simp [hwb, hwa]⟩

/-! ## The pool -/

variable {m : Nat} {w : World} {s : Flow}

theorem replace_mirrored (h : Mirrors m w s) (p : Nat) :
    AtOnce (Pool.replace m p) w fun r u => r = (s.replace p).1 ∧ Mirrors m u (s.replace p).2 ∧ u.events = w.events := by
  refine .bind (.reads ?_)
  by_cases hp : s.pool.contains p = true
  · simp only [h.members, hp, Bool.not_true, Bool.false_eq_true, if_false]
    refine .bind (.reads (.bind ((Factory.make_makes _ w).mono fun q t ⟨hq, hl, hm, he⟩ => ?_)))
    -- the fresh proxy takes the next number, which the flow counts as made
    have ht : Mirrors m t { s with made := s.made + 1 } := h.frame hm rfl (by rw [hl, h.made]) h.closing
    refine .bind (.modify (.bind ((Proxy.close_keeps p _ _ _ _ ⟨rfl, rfl, rfl⟩).mono fun _ u ⟨hmu, hlu, heu⟩ => ?_)))
    refine .pure' ⟨by rw [replace_fst, if_pos hp, hq, h.made], ?_, heu.trans he⟩
    have hcount : u.proxies.length = s.made + 1 := hlu.trans (hl.trans (congrArg (· + 1) h.made))
    obtain rfl : q = s.made := hq.trans h.made
    rw [replace_snd]
    simp only [hp, if_true]
    exact (ht.setPool (Pool.swap · p s.made)).frame hmu rfl hcount h.closing
  · -- a proxy that has left the pool is not replaced
    have hout : (w.pool m).members.contains p = false := by simpa [h.members] using hp
    simp only [hout, Bool.not_false, if_true]
    have hr : s.replace p = (none, s) := if_neg hp
    exact .pure' ⟨by rw [hr], hr ▸ h, rfl⟩

theorem successor_mirrored (h : Mirrors m w s) (p : Nat) (a : Bool) :
    AtOnce (Manager.successor m p a) w fun r u =>
      r = (s.successor p a).1 ∧ Mirrors m u (s.successor p a).2 ∧ u.events = w.events := by
  refine .bind (.reads ?_)
  by_cases ha : (a || !s.manager.pool.shared) = true
  · have hs : s.successor p a = s.replace p := if_pos ha
    simp only [h.shared, ha, if_true, hs]
    exact replace_mirrored h p
  · have hs : s.successor p a = (some p, s) := if_neg ha
    simp only [h.shared, ha, hs]
    exact .pure' ⟨rfl, h, rfl⟩

/-! ## Folding a completion -/

def Overflows (s : Flow) (q : Pending) : Prop :=
  s.tracker.isCurrent q.ctx.id = true ∧ Manager.account s.tracker q.report q.next = none

def overflowMessage : String := "attempt to add with overflow"

theorem completeUnit_mirrored (h : Mirrors m w s) (q : Pending) (k : Bool → Prog conductor) :
    Prog.Reaches (fun c u js => ((s.Overflows q ∧ c = .panic overflowMessage) ∨ (¬s.Overflows q ∧ ∃ b, c = k b)) ∧
        Mirrors m u (s.fold q) ∧ Echoes s (s.fold q) w u ∧
        ∃ new, (s.fold q).flights = s.flights ++ new ∧ js = new.map (Flight.job m))
      (Manager.completeUnit m q.ctx (fun t => Manager.account t q.report q.next) k) w := by
  refine .step ?_
  simp only [h.tracker]
  by_cases hc : s.tracker.isCurrent q.ctx.id = true
  · cases ha : Manager.account s.tracker q.report q.next with
    | none =>
      -- the tally leaves its counter and the handler panics, changing nothing
      have hf := fold_overflow s q hc ha
      simp only [hc, Bool.not_true, Bool.false_eq_true, if_false]
      refine .here ⟨.inl ⟨⟨hc, ha⟩, rfl⟩, hf ▸ h.ghost rfl rfl h.closing, hf ▸ Echoes.rfl, [], by rw [hf]; simp, rfl⟩
    | some res =>
      obtain ⟨t, nx, done⟩ := res
      have hf := fold_some s q hc ha
      have hno : ¬s.Overflows q := fun ho => by simp [ho.2] at ha
      simp only [hc, Bool.not_true, Bool.false_eq_true, if_false]
      -- the tracker takes the partial, the next unit is handed out, and an ended request reported
      have fin : ∀ u, Mirrors m u (s.setTracker t) → u.events = w.events ++ done.toList →
          Mirrors m u (s.fold q) ∧ Echoes s (s.fold q) w u ∧ ∃ new, (s.fold q).flights = s.flights ++ new ∧
            (nx.map fun x => Job.unit m x.1 x.2 q.ctx).toList = new.map (Flight.job m) := by
        intro u hu he
        rw [hf]
        refine ⟨hu.ghost rfl rfl h.closing, ⟨_, rfl, by rw [he]; cases done <;> simp⟩, _, rfl, ?_⟩
        cases nx <;> simp [Flight.job]
      have hm₁ := h.setTracker t
      refine .step ?_
      cases nx with
      | none =>
        cases done with
        | none => exact .here ⟨.inr ⟨hno, false, rfl⟩, fin _ hm₁ (by simp; rfl)⟩
        | some e => exact .step (.here ⟨.inr ⟨hno, true, rfl⟩, fin _ (hm₁.report e) rfl⟩)
      | some x =>
        obtain ⟨p, item⟩ := x
        refine .spawn fun _ => ?_
        cases done with
        | none => exact .here ⟨.inr ⟨hno, false, rfl⟩, fin _ hm₁ (by simp; rfl)⟩
        | some e => exact .step (.here ⟨.inr ⟨hno, true, rfl⟩, fin _ (hm₁.report e) rfl⟩)
  · have hf := fold_stale s q (by simpa using hc)
    have hno : ¬s.Overflows q := fun ho => hc ho.1
    simp only [hc]
    rw [hf]
    exact .here ⟨.inr ⟨hno, false, rfl⟩, h, Echoes.rfl, [], by simp, rfl⟩

/-! ## Completions -/

/-- The rest of a completion handler once its chunk is told: the proxy for the next unit is found
and the partial folded. In the flow the completion waits as the last one pending, and the handler
folds it at once. -/
theorem settle_mirrored (h : Mirrors m w s) (p : Nat) (ctx : Context) (r : Report) (u : Option WorkItem)
    (k : Bool → Prog conductor) :
    Prog.Reaches (fun c v js => ∃ s', Relation.ReflTransGen Step
        { (s.successor p r.aborted).2 with pending := s.pending ++ [⟨ctx, r, (s.successor p r.aborted).1, u⟩] } s' ∧
        Mirrors m v s' ∧ Echoes s s' w v ∧ ((c = .panic overflowMessage ∧ s'.overflowed = true) ∨ ∃ b, c = k b) ∧
        ∃ new, s'.flights = s.flights ++ new ∧ js = new.map (Flight.job m))
      ((Manager.successor m p r.aborted >>= fun next => Manager.completeUnit m ctx fun t => Manager.account t r next) k)
      w := by
  have hsucc : Async.Stretch (Manager.successor m p r.aborted) w fun a t js => js = [] ∧
      a = (s.successor p r.aborted).1 ∧ Mirrors m t (s.successor p r.aborted).2 ∧ t.events = w.events :=
    .of_atOnce (successor_mirrored h p r.aborted) fun _ _ hq => ⟨rfl, hq⟩
  refine (Async.Reaches.of_stretch hsucc).cont fun next v js ⟨hjs, hnext, hv, hev⟩ => ?_
  subst hjs hnext
  have hpend : (s.successor p r.aborted).2.pending = s.pending := by rw [successor_snd]; rfl
  have hout : (s.successor p r.aborted).2.out = s.out := by rw [successor_snd]; rfl
  have hfl : (s.successor p r.aborted).2.flights = s.flights := by rw [successor_snd]; rfl
  -- the completion waits last among those pending, so folding it is a step
  have hback : ({ ({ (s.successor p r.aborted).2 with pending := s.pending ++ [⟨ctx, r, (s.successor p r.aborted).1, u⟩] } : Flow)
      with pending := s.pending ++ [] } : Flow) = (s.successor p r.aborted).2 := by
    rw [List.append_nil, ← hpend]
  have hstep := hback ▸ Step.fold _ s.pending [] ⟨ctx, r, (s.successor p r.aborted).1, u⟩ rfl
  refine (completeUnit_mirrored hv ⟨ctx, r, (s.successor p r.aborted).1, u⟩ k).mono
    fun c x js ⟨hc, hx, hex, new, hnew, hjs⟩ => ?_
  refine ⟨_, .single hstep, hx, (Echoes.of_eq hout hev).trans hex, ?_, new, by rw [hnew, hfl], by simpa using hjs⟩
  rcases hc with ⟨⟨hcur, ha⟩, rfl⟩ | ⟨-, b, rfl⟩
  · exact .inl ⟨rfl, by rw [fold_overflow _ _ hcur ha]⟩
  · exact .inr ⟨b, rfl⟩

theorem told_settled (h : Mirrors m w s) {p id : Nat} {ctx : Context} (hx : s.tracker.context id = some ctx)
    (r : Report) (u : Option WorkItem) {w₁ : World} (hm : w₁.managers = w.managers)
    (hp : w₁.proxies.length = w.proxies.length) (he : w₁.events = w.events ++ r.chunkEvent.toList)
    (k : Bool → Prog conductor) :
    Prog.Reaches (fun c v js => ∃ s', Relation.ReflTransGen Step (s.report p id r u) s' ∧
        Mirrors m v s' ∧ Echoes s s' w v ∧ ((c = .panic overflowMessage ∧ s'.overflowed = true) ∨ ∃ b, c = k b) ∧
        ∃ new, s'.flights = s.flights ++ new ∧ js = new.map (Flight.job m))
      ((Manager.successor m p r.aborted >>= fun next => Manager.completeUnit m ctx fun t => Manager.account t r next) k)
      w₁ := by
  set s₁ : Flow := { s with out := s.out ++ (r.chunkEvent.map ((some id, ·))).toList }
  have h₁ : Mirrors m w₁ s₁ := h.frame hm rfl (hp.trans h.made) h.closing
  have he₁ : Echoes s s₁ w w₁ := ⟨_, rfl, by rw [he]; cases r.chunkEvent <;> simp⟩
  rw [report_current s p id r u hx]
  exact (settle_mirrored h₁ p ctx r u k).mono fun c v js ⟨s', hmv, hv, hev, hc, hjs⟩ => ⟨s', hmv, hv, he₁.trans hev, hc, hjs⟩

theorem completion_mirrored (h : Mirrors m w s) (p id : Nat) {e : CallerEvent} {r : Report}
    (hr : Report.ofCompletion e = some r) (u : Option WorkItem) (k : Unit → Prog conductor) :
    Prog.Reaches (fun c v js => ∃ s', Relation.ReflTransGen Step (s.report p id r u) s' ∧
        Mirrors m v s' ∧ Echoes s s' w v ∧ ((c = .panic overflowMessage ∧ s'.overflowed = true) ∨ c = k ()) ∧
        ∃ new, s'.flights = s.flights ++ new ∧ js = new.map (Flight.job m))
      (Handler.deliver (.unit m p id) e k) w := by
  have settled : ∀ ctx, s.tracker.context id = some ctx → ∀ w₁ : World, w₁.managers = w.managers →
      w₁.proxies.length = w.proxies.length → w₁.events = w.events ++ r.chunkEvent.toList →
      Prog.Reaches (fun c v js => ∃ s', Relation.ReflTransGen Step (s.report p id r u) s' ∧
        Mirrors m v s' ∧ Echoes s s' w v ∧ ((c = .panic overflowMessage ∧ s'.overflowed = true) ∨ c = k ()) ∧
        ∃ new, s'.flights = s.flights ++ new ∧ js = new.map (Flight.job m))
      ((Manager.successor m p r.aborted >>= fun next => Manager.completeUnit m ctx fun t => Manager.account t r next)
        fun _ => k ()) w₁ := fun ctx hx w₁ hm hp he =>
    (told_settled h hx r u hm hp he _).mono fun c v js ⟨s', hmv, hv, hev, hc, hjs⟩ =>
      ⟨s', hmv, hv, hev, hc.imp_right fun ⟨_, hb⟩ => hb, hjs⟩
  cases e <;> simp only [Report.ofCompletion, reduceCtorEq, Option.some.injEq] at hr <;> subst hr
  all_goals
    refine .step ?_
    simp only [h.tracker]
    cases hx : s.tracker.context id
    case none => exact .here ⟨s, by rw [report_stale s p id _ u hx], h, Echoes.rfl, .inr rfl, [], by simp, rfl⟩
  · rename_i total chunk aborted ctx
    cases chunk with
    | none => exact settled ctx hx w rfl rfl (by simp [Report.chunkEvent])
    | some ts =>
      by_cases hts : ts.isEmpty = true
      · simp only [hts, Bool.not_true, Bool.false_eq_true, if_false]
        exact settled ctx hx w rfl rfl (by simp [Report.chunkEvent, hts])
      · simp only [hts, Bool.not_false, if_true]
        exact .step (settled ctx hx _ rfl rfl (by simp [Report.chunkEvent, hts, World.report]))
  · rename_i c chunk attachments metrics ctx
    cases chunk with
    | none => exact settled ctx hx w rfl rfl (by simp [Report.chunkEvent])
    | some pr => exact .step (settled ctx hx _ rfl rfl (by simp [Report.chunkEvent, World.report]))

theorem completion_steps (h : Mirrors m w s) {pre post : List Flight} {f : Flight} (hf : s.flights = pre ++ f :: post)
    (hb : f.stage = .busy) {e : CallerEvent} {r : Report} (hr : Report.ofCompletion e = some r)
    (hfit : r.fits s.manager.discovers = true) (k : Unit → Prog conductor) :
    Prog.Reaches (fun c v js => ∃ s', Relation.TransGen Step s s' ∧ Mirrors m v s' ∧ Echoes s s' w v ∧
        ((c = .panic overflowMessage ∧ s'.overflowed = true) ∨ c = k ()) ∧
        ∃ new, s'.flights = pre ++ post ++ new ∧ js = new.map (Flight.job m))
      (Handler.deliver (.unit m f.proxy f.ctx.id) e k) w :=
  (completion_mirrored (s := { s with flights := pre ++ post }) (h.ghost rfl rfl h.closing) f.proxy f.ctx.id hr
    (some f.item) k).mono fun _ _ _ ⟨s', hmv, hv, hev, hc, hjs⟩ =>
      ⟨s', .head' (Step.complete s pre post f r hf hb hfit) hmv, hv, hev, hc, hjs⟩

theorem stray_completion_steps (h : Mirrors m w s) (p id : Nat) {e : CallerEvent} {r : Report}
    (hr : Report.ofCompletion e = some r) (hfit : r.fits s.manager.discovers = true) (k : Unit → Prog conductor) :
    Prog.Reaches (fun c v js => ∃ s', Relation.TransGen Step s s' ∧ Mirrors m v s' ∧ Echoes s s' w v ∧
        ((c = .panic overflowMessage ∧ s'.overflowed = true) ∨ c = k ()) ∧
        ∃ new, s'.flights = s.flights ++ new ∧ js = new.map (Flight.job m))
      (Handler.deliver (.unit m p id) e k) w :=
  (completion_mirrored (s := { s with rogue := true }) (h.ghost rfl rfl h.closing) p id hr none k).mono
    fun _ _ _ ⟨s', hmv, hv, hev, hc, hjs⟩ => ⟨s', .head' (Step.stray s p id r hfit) hmv, hv, hev, hc, hjs⟩

theorem deliver_event {p id : Nat} {e : CallerEvent} (he : e.isCompletion = false) :
    Handler.deliver (.unit m p id) e = Manager.tell e := by
  cases e
  case discoveryComplete | runComplete => simp [CallerEvent.isCompletion] at he
  all_goals rfl

theorem relay_steps (h : Mirrors m w s) {pre post : List Flight} {f : Flight} (hf : s.flights = pre ++ f :: post)
    (hb : f.stage = .busy) {e : CallerEvent} (he : e.isCompletion = false) :
    AtOnce (Handler.deliver (.unit m f.proxy f.ctx.id) e) w fun _ v =>
      ∃ s', Step s s' ∧ Mirrors m v s' ∧ Echoes s s' w v := by
  rw [deliver_event he]
  exact .modify ⟨_, Step.relay s pre post f e hf hb he, (h.report e).ghost rfl rfl h.closing, _, rfl, rfl⟩

theorem stray_event_steps (h : Mirrors m w s) (p id : Nat) {e : CallerEvent} (he : e.isCompletion = false) :
    AtOnce (Handler.deliver (.unit m p id) e) w fun _ v => ∃ s', Step s s' ∧ Mirrors m v s' ∧ Echoes s s' w v := by
  rw [deliver_event he]
  exact .modify ⟨_, Step.strayEvent s id e he, (h.report e).ghost rfl rfl h.closing, _, rfl, rfl⟩

/-! ## Handing units over -/

theorem retried_steps (h : Mirrors m w s) (f : Flight) (r : Option Nat) (e : Error) (k : Unit → Prog conductor) :
    Prog.Reaches (fun c v js => Mirrors m v (s.retry f r e) ∧ Echoes s (s.retry f r e) w v ∧
        ((c = .panic overflowMessage ∧ (s.retry f r e).overflowed = true) ∨ c = k ()) ∧
        ∃ new, (s.retry f r e).flights = s.flights ++ new ∧ js = new.map (Flight.job m))
      (Manager.retryRefused m f.item f.ctx e r k) w := by
  refine .step ?_
  have ht : (w.manager m).tracker = s.tracker := h.tracker
  simp only [ht, h.retryLimit, h.discovers]
  by_cases hc : s.tracker.isCurrent f.ctx.id = true
  · simp only [hc, Bool.not_true, Bool.false_eq_true, if_false, Tracker.retry_eq]
    -- the tracker takes the retry before the unit goes on or is given up
    have hT := h.setTracker { s.tracker with queue := s.tracker.retriedQueue f.item s.manager.retryLimit r }
    refine .step ?_
    cases hnext : s.tracker.retried f.item s.manager.retryLimit r with
    | some next =>
      obtain ⟨p', item'⟩ := next
      have hflow := retry_handed s f r e hc hnext
      refine .spawn fun _ => .here ⟨hflow ▸ hT.ghost rfl rfl hT.closing,
        Echoes.of_eq (by rw [hflow, handOut_eq]; rfl) rfl, .inr rfl, _, by rw [hflow, handOut_eq]; rfl, rfl⟩
    | none =>
      have hflow := retry_givenUp s f r e hc hnext
      set message := Manager.dispatchFailure s.manager.discovers f.item.sourceName e
      set w₁ : World := (w.setTracker m
        { s.tracker with queue := s.tracker.retriedQueue f.item s.manager.retryLimit r }).report (.log .error message)
      have hG : Mirrors m w₁ (s.givingUp f r e) := (hT.report (.log .error message)).ghost rfl rfl hT.closing
      have hE : Echoes s (s.givingUp f r e) w w₁ :=
        ⟨[(some f.ctx.id, .log .error message)], by simp only [givingUp]; rfl, rfl⟩
      -- the unit is logged and folded as an aborted partial
      have fold : ∀ q : Pending, s.gaveUpPending f r e = q →
          Prog.Reaches (fun c v js => Mirrors m v (s.retry f r e) ∧ Echoes s (s.retry f r e) w v ∧
            ((c = .panic overflowMessage ∧ (s.retry f r e).overflowed = true) ∨ c = k ()) ∧
            ∃ new, (s.retry f r e).flights = s.flights ++ new ∧ [] ++ js = new.map (Flight.job m))
          (Manager.completeUnit m q.ctx (fun t => Manager.account t q.report q.next) fun _ => k ()) w₁ := by
        rintro q rfl
        refine (completeUnit_mirrored hG _ _).mono fun c v js hq => ?_
        obtain ⟨hc, hv, hev, new, hnew, hjs⟩ := hq
        rw [← hflow] at hv hev hnew
        refine ⟨hv, hE.trans hev, ?_, new, hnew, (List.nil_append js).trans hjs⟩
        rcases hc with ⟨⟨hcur, ha⟩, rfl⟩ | ⟨-, -, rfl⟩
        · exact .inl ⟨rfl, by rw [hflow, fold_overflow _ _ hcur ha]⟩
        · exact .inr rfl
      refine .step ?_
      dsimp only
      cases hd : s.manager.discovers
      · simp only [Bool.false_eq_true, if_false]
        exact fold ⟨f.ctx, .run (RunCompletion.aborted (some message) Duration.zero) none [] [], r, some f.item⟩
          (by simp [gaveUpPending, Report.gaveUp, hd, message])
      · simp only [if_true]
        exact fold ⟨f.ctx, .discovery (-1) none true, r, some f.item⟩ (by simp [gaveUpPending, Report.gaveUp, hd])
  · have hflow := retry_stale s f r e (by simpa using hc)
    simp only [hc, Bool.not_false, if_true]
    refine .here ⟨by rw [hflow]; exact h, Echoes.of_eq (by rw [hflow]) rfl, .inr rfl, [], ?_, rfl⟩
    rw [hflow]
    exact (List.append_nil _).symm

theorem refused_steps (h : Mirrors m w s) {pre post : List Flight} {f : Flight} (hf : s.flights = pre ++ f :: post)
    (ho : f.stage = .offered) (e : Error) (k : Unit → Prog conductor) :
    Prog.Reaches (fun c v js => ∃ s', Relation.TransGen Step s s' ∧ Mirrors m v s' ∧ Echoes s s' w v ∧
        ((c = .panic overflowMessage ∧ s'.overflowed = true) ∨ c = k ()) ∧
        ∃ new, s'.flights = pre ++ post ++ new ∧ js = new.map (Flight.job m))
      (Manager.refused m f.proxy f.item f.ctx e k) w := by
  -- the flow refuses the unit, replacing the proxy, and takes the retry's turn at once
  have hrep : Async.Stretch (Pool.replace m f.proxy) w fun a t js => js = [] ∧
      a = (s.replace f.proxy).1 ∧ Mirrors m t (s.replace f.proxy).2 ∧ t.events = w.events :=
    .of_atOnce (replace_mirrored h f.proxy) fun _ _ hq => ⟨rfl, hq⟩
  set r := (s.replace f.proxy).1
  set f' : Flight := { f with stage := .refused r e }
  set s₁ : Flow :=
    { (s.replace f.proxy).2 with flights := pre ++ f' :: post, refusals := s.refusals ++ [(f.ctx.id, f.item)] }
  have step₁ : Step s s₁ := Step.refuse s pre post f e hf ho
  have step₂ : Step s₁ ({ s₁ with flights := pre ++ post }.retry f' r e) := Step.retry s₁ pre post f' r e rfl rfl
  set S : Flow := { s₁ with flights := pre ++ post }
  rw [Manager.refused_eq]
  refine (Async.Reaches.of_stretch hrep).cont fun a w₁ js hw => ?_
  obtain ⟨hjs, ha, hw₁, hev⟩ := hw
  subst hjs ha
  have hS : Mirrors m w₁ S := hw₁.ghost rfl rfl hw₁.closing
  have hE : Echoes s S w w₁ := Echoes.of_eq (by simp [S, s₁, replace_snd]) hev
  refine (retried_steps hS f' r e k).mono fun c v js hq => ?_
  obtain ⟨hv, hev', hc, new, hnew, hjs⟩ := hq
  exact ⟨_, .tail (.single step₁) step₂, hv, hE.trans hev', hc, new, hnew, (List.nil_append js).trans hjs⟩

theorem accepted_steps (h : Mirrors m w s) {pre post : List Flight} {f : Flight} (hf : s.flights = pre ++ f :: post)
    (ho : f.stage = .offered) :
    (∀ c : Unit → Prog conductor, Prog.Unbroken (Manager.forwardStop m f.proxy f.ctx.id c) w
      (Proxy.tellStop f.proxy (s.tracker.pendingStop f.ctx.id) c) w) ∧
    ∃ s', Relation.TransGen Step s s' ∧ Mirrors m w s' ∧ s'.out = s.out ∧
      { f with stage := .busy, told := f.told ++ (s.tracker.pendingStop f.ctx.id).toList } ∈ s'.flights := by
  refine ⟨fun c => .step ?_, ?_⟩
  · simp only [h.tracker]
    exact .refl _ _
  set sa : Flow :=
    { s with flights := pre ++ { f with stage := .busy } :: post, forwards := s.forwards ++ [(f.proxy, f.ctx.id)],
             accepted := s.accepted ++ [(f.ctx.id, f.item)] }
  have step₁ : Step s sa := Step.accept s pre post f hf ho
  have step₂ := Step.forward sa s.forwards [] f.proxy f.ctx.id rfl
  have hbusy : { f with stage := .busy } ∈ sa.flights := by simp [sa]
  have hmoves := Relation.TransGen.tail (.single step₁) step₂
  -- the unit records the stop forwarded, if any
  cases hk : s.tracker.pendingStop f.ctx.id with
  | none =>
    have hfw : ∀ S : Flow, S.tracker = s.tracker → S.forward f.proxy f.ctx.id = S := fun S hS => by
      simp [forward, hS, hk]
    rw [hfw { sa with forwards := s.forwards ++ [] } rfl] at hmoves
    exact ⟨_, hmoves, h.ghost rfl rfl h.closing, rfl, by simpa using hbusy⟩
  | some k =>
    have hfw : ∀ S : Flow, S.tracker = s.tracker → S.forward f.proxy f.ctx.id = S.tell f.proxy k := fun S hS => by
      simp [forward, hS, hk]
    rw [hfw { sa with forwards := s.forwards ++ [] } rfl] at hmoves
    exact ⟨_, hmoves, h.ghost rfl rfl h.closing, rfl, List.mem_map.2 ⟨_, hbusy, by simp [Stage.isBusy]⟩⟩

/-! ## Stops and closes -/

theorem spawnAll_reaches (a : PoolAction) (ps : List Nat) :
    Async.Reaches (ps.mapM fun p => Async.spawn (Job.action a p) : Act (List Nat)) w
      fun _ u js => u = w ∧ js = ps.map (Job.action a) := by
  induction ps with
  | nil => exact .pure' ⟨rfl, rfl⟩
  | cons p ps ih =>
    rw [List.mapM_cons]
    refine .bind (.spawn fun _ => .bind (ih.mono fun _ u js ⟨hu, hjs⟩ => .pure' ⟨hu, ?_⟩))
    have e : ([Job.action a p] ++ (ps.map (Job.action a) ++ []) : List Job) = (p :: ps).map (Job.action a) := by simp
    rw [hjs]
    exact e

theorem stop_steps (h : Mirrors m w s) (k : StopRequest) (hk : k = .abort ∨ s.manager.discovers = false)
    (c : Unit → Prog conductor) :
    Step s (s.stop k) ∧
    Prog.Reaches (fun q (u : World) js => Mirrors m u (s.stop k) ∧ u.events = w.events ∧
        (∃ new, (s.stop k).actions = s.actions ++ new ∧ js = new.map fun x => Job.action x.2.action x.1) ∧
        (q = c () ∨ ∃ tasks, q = Manager.joinAll tasks fun _ => c ()))
      (Manager.stop m k c) w := by
  refine ⟨Step.stop s k hk, .step ?_⟩
  simp only [h.tracker]
  cases hr : s.tracker.requestStop k with
  | mk asked t =>
    have hm₁ := h.setTracker t
    refine .step ?_
    dsimp only
    cases asked with
    | false =>
      -- a stop asked for already, or with no request served, only records itself
      have hstop : s.stop k = s.setTracker t := by simp [Flow.stop, hr]
      simp only [Bool.false_eq_true, if_false]
      rw [hstop]
      exact .here ⟨hm₁, rfl, ⟨[], by simp, rfl⟩, .inl rfl⟩
    | true =>
      have hstop : s.stop k =
          { s.setTracker t with actions := s.actions ++ s.pool.map (·, k),
                                asked := s.asked ++ s.tracker.current.toList.map fun c => (c.1, k) } := by
        simp [Flow.stop, hr]
      simp only [if_true]
      rw [hstop]
      refine .step ?_
      simp only [hm₁.members, if_true]
      refine (spawnAll_reaches k.action s.pool).cont fun tasks u js hq => .here ?_
      obtain ⟨rfl, hjs⟩ := hq
      refine ⟨hm₁.ghost rfl rfl h.closing, rfl, ⟨_, rfl, ?_⟩, .inr ⟨tasks, rfl⟩⟩
      rw [List.append_nil, hjs, List.map_map]
      rfl

theorem actInTurn_close_keeps (ps : List Nat) (ms : List Manager) (n : Nat) (es : List CallerEvent) :
    Keeps (Manager.actInTurn .close ps) fun t => t.managers = ms ∧ t.proxies.length = n ∧ t.events = es := by
  induction ps with
  | nil => exact .pure' _
  | cons p ps ih =>
    exact .bind (.bind (Proxy.close_keeps p ms n es) fun _ => .pure' _) fun _ => .bind ih fun _ => .pure' _

theorem closeNext_all (S : Flow) (ps : List Nat) (hc : S.closing = ps) :
    Relation.ReflTransGen Step S { S with closing := [], closed := S.closed ++ ps } := by
  induction ps generalizing S with
  | nil =>
    have hS : ({ S with closing := [], closed := S.closed ++ [] } : Flow) = S := by rw [List.append_nil, ← hc]
    rw [hS]
  | cons p ps ih =>
    have hstep := Step.closeNext S p ps hc
    refine .head hstep ?_
    simpa using ih { S with closing := ps, closed := S.closed ++ [p] } rfl

theorem close_steps (h : Mirrors m w s) :
    AtOnce (Manager.close m) w fun _ u => ∃ s', Relation.TransGen Step s s' ∧ Mirrors m u s' ∧
      u.events = w.events ∧ s'.closed = s.closed ++ (if s.tracker.closed then [] else s.pool) := by
  refine .bind (.reads ?_)
  simp only [h.tracker]
  have hm₁ := h.setTracker { s.tracker with closed := true }
  have hclose := close_eq s
  cases hc : s.tracker.closed with
  | true =>
    simp only [Tracker.close, hc, Bool.not_true, Bool.false_eq_true, if_false]
    refine .modify ⟨s.close, .single (Step.close s), ?_, rfl, ?_⟩
    · rw [hclose, hc]
      exact hm₁.ghost rfl rfl h.closing
    · rw [hclose, hc]
      simp
  | false =>
    simp only [Tracker.close, hc, Bool.not_false, if_true]
    refine .bind (.modify (.discard (.bind (.reads ?_))))
    simp only [hm₁.members, Bool.false_eq_true, if_false]
    refine .bind ((actInTurn_close_keeps _ _ _ _ _ ⟨rfl, rfl, rfl⟩).mono fun _ u hu => .pure' ?_)
    obtain ⟨hm, hl, he⟩ := hu
    -- the close reaches every proxy of the pool, in order
    have hclosing : s.close.closing = s.pool := by rw [hclose, hc, h.closing]; rfl
    refine ⟨{ s.close with closing := [], closed := s.close.closed ++ s.pool },
      .head' (Step.close s) (closeNext_all s.close s.pool hclosing), ?_, he, by rw [hclose]; rfl⟩
    exact hm₁.frame hm (by rw [hclose]) (hl.trans (by rw [hclose]; exact h.made)) rfl

/-! ## Serving a request -/

theorem joinAll_quiet (P : World → Prop) (ts : List Nat) :
    Async.Guards P (fun _ => False) (Manager.joinAll ts) := by
  induction ts with
  | nil => exact .pure' _
  | cons t ts ih => exact .bind (.join t) fun _ => .bind ih fun _ => .pure' _

theorem forIn_forks {γ : Type} (j : γ → Job) (xs : List γ) {f : γ → Unit → Act (ForInStep Unit)}
    (hf : ∀ x, Async.Reaches (f x ()) w fun r u js => r = .yield () ∧ u = w ∧ js = [j x]) :
    Async.Reaches (forIn xs () f) w fun _ u js => u = w ∧ js = xs.map j := by
  induction xs with
  | nil => exact .pure' ⟨rfl, rfl⟩
  | cons x xs ih =>
    rw [List.forIn_cons]
    refine .bind ((hf x).mono fun r u js ⟨hr, hu, hjs⟩ => ?_)
    subst hr hu hjs
    exact ih.mono fun _ u js ⟨hu, hjs⟩ => ⟨hu, by rw [hjs]; rfl⟩

/-- The first stretch of a call to serve: refused on a closed or busy manager, and otherwise the
call is recorded and a task per proxy of the pool started to ready it, before the call waits for
them. -/
theorem serve_calls (h : Mirrors m w s) (c : UnitCriteria) (k : Except Error Unit → Prog conductor) :
    Prog.Reaches (fun q u js => u = w ∧
        (((s.tracker.closed || s.tracker.isInProgress) = true ∧
            q = k (.error (Manager.refusal s.manager.discovers s.tracker.closed)) ∧ js = []) ∨
          (Step s { s with serves := s.serves ++ [c] } ∧ js = s.pool.map (Job.action .prepare) ∧
            ∃ tasks, q = Manager.joinAll tasks fun errors => Manager.serveReadied m c (Error.ofList errors) k)))
      (Manager.serve m c k) w := by
  rw [Manager.serve_eq]
  refine .step ?_
  have ht : (w.manager m).tracker = s.tracker := h.tracker
  simp only [ht, h.discovers]
  cases hc : s.tracker.closed with
  | true => exact .here ⟨rfl, .inl ⟨rfl, rfl, rfl⟩⟩
  | false =>
    cases hp : s.tracker.isInProgress with
    | true => exact .here ⟨rfl, .inl ⟨rfl, rfl, rfl⟩⟩
    | false =>
      simp only [Bool.or_false, Bool.false_eq_true, if_false]
      refine .step ?_
      simp only [h.members, if_true]
      refine (spawnAll_reaches .prepare s.pool).cont fun tasks u js ⟨hu, hjs⟩ => .here ?_
      subst hu
      exact ⟨rfl, .inr ⟨Step.call s c hc hp, by rw [List.append_nil, hjs], tasks, rfl⟩⟩

theorem serveReadied_steps (h : Mirrors m w s) {pre post : List UnitCriteria} {c : UnitCriteria}
    (hs : s.serves = pre ++ c :: post) (r : Except Error Unit) (k : Except Error Unit → Prog conductor) :
    Prog.Reaches (fun q u js => js = [] ∧
        ((∃ e, r = .error e ∧ q = k (.error e) ∧ u = w ∧ Step s { s with serves := pre ++ post }) ∨
          (r = .ok () ∧ c.workItems = [] ∧ q = k (.ok ()) ∧ Step s ({ s with serves := pre ++ post }.begin c) ∧
            Mirrors m u ({ s with serves := pre ++ post }.begin c) ∧
            Echoes s ({ s with serves := pre ++ post }.begin c) w u) ∨
          (r = .ok () ∧ c.workItems ≠ [] ∧ u = w ∧ q = Async.interleave fun _ => Manager.serveBegin m c s.pool k)))
      (Manager.serveReadied m c r k) w := by
  cases r with
  | error e => exact .here ⟨rfl, .inl ⟨e, rfl, rfl, rfl, Step.unready s pre post c hs⟩⟩
  | ok u =>
    cases u
    by_cases he : c.workItems = []
    · have hprog : Manager.serveReadied m c (.ok ()) =
          (Manager.tell (Manager.emptyCompletion c) >>= fun _ => pure (.ok ())) := by
        unfold Manager.serveReadied
        rw [he]
        rfl
      have hbeg := begin_empty { s with serves := pre ++ post } c he
      rw [hprog]
      refine .step (.here ⟨rfl, .inr (.inl ⟨rfl, he, rfl, Step.begin s pre post c hs, ?_, ?_⟩)⟩)
      · rw [hbeg]
        exact (h.report _).ghost rfl rfl h.closing
      · rw [hbeg]
        exact ⟨[(none, Manager.emptyCompletion c)], rfl, rfl⟩
    · have hne : c.workItems.isEmpty = false := List.isEmpty_eq_false_iff.2 he
      have hprog : Manager.serveReadied m c (.ok ()) =
          (Pool.proxies m >>= fun ps => Async.interleave >>= fun _ => Manager.serveBegin m c ps) := by
        unfold Manager.serveReadied
        rw [hne]
        rfl
      rw [hprog]
      exact .step (.here ⟨rfl, .inr (.inr ⟨rfl, he, rfl, by rw [← h.members]; rfl⟩)⟩)

/-- The last stretch of a call to serve begins its request as the flow does, when the proxies read
before the break are still the pool: it numbers the request and starts a hand-over task for each
unit handed out. -/
theorem serveBegin_steps (h : Mirrors m w s) {pre post : List UnitCriteria} {c : UnitCriteria}
    (hs : s.serves = pre ++ c :: post) (he : c.workItems ≠ []) (k : Except Error Unit → Prog conductor) :
    Step s ({ s with serves := pre ++ post }.begin c) ∧
    Prog.Reaches (fun q (u : World) js => Mirrors m u ({ s with serves := pre ++ post }.begin c) ∧ u.events = w.events ∧
        (∃ new, ({ s with serves := pre ++ post }.begin c).flights = s.flights ++ new ∧ js = new.map (Flight.job m)) ∧
        q = k (if s.tracker.isInProgress then .error (Manager.refusal s.manager.discovers false) else .ok ()))
      (Manager.serveBegin m c s.pool k) w := by
  refine ⟨Step.begin s pre post c hs, .step ?_⟩
  have ht : (w.manager m).tracker = s.tracker := h.tracker
  simp only [ht, h.discovers, h.freshTally]
  cases hp : s.tracker.isInProgress with
  | true =>
    rw [begin_busy { s with serves := pre ++ post } c he hp]
    exact .here ⟨h.ghost rfl rfl h.closing, rfl, ⟨[], by simp, rfl⟩, rfl⟩
  | false =>
    simp only [Bool.false_eq_true, if_false]
    cases hn : s.tracker.nextId with
    | mk id t₁ =>
    cases hb : t₁.begin id ⟨id, c⟩ c.workItems s.manager.freshTally s.pool with
    | mk batch t₂ =>
    have hbeg : ({ s with serves := pre ++ post } : Flow).begin c =
        { s.setTracker t₂ with flights := s.flights ++ batch.map fun (p, item) => ⟨p, ⟨id, c⟩, item, .offered, []⟩,
                               begun := s.begun ++ [⟨id, c⟩], handed := s.handed ++ batch.map fun (_, item) => (id, item),
                               serves := pre ++ post } := by
      simp [Flow.begin, he, hp, hn, hb]
    rw [hbeg]
    refine .step ((forIn_forks (fun x => Job.unit m x.1 x.2 ⟨id, c⟩) batch fun x => ?_).cont fun _ u js hq => .here ?_)
    · exact .bind (.of_stretch (.fork (.pure' ⟨rfl, rfl, rfl⟩)))
    · obtain ⟨rfl, hjs⟩ := hq
      refine ⟨(h.setTracker t₂).ghost rfl rfl h.closing, rfl, ⟨_, rfl, ?_⟩, rfl⟩
      rw [List.append_nil, hjs, List.map_map]
      rfl

/-! ## Making the manager -/

theorem create_mirrors (f : Factory) (level : Nat) (shared discovers : Bool) (limit : Nat) (hw : w.proxies = []) :
    AtOnce (Pool.create f level shared discovers limit) w fun m u =>
      m = w.managers.length ∧ Mirrors m u (Flow.init discovers shared level limit) ∧ u.events = w.events := by
  rw [Pool.create_eq]
  refine (Calls.Swift.atOnce ?_).mono fun _ _ ⟨_, h⟩ => h
  refine .call (.change ?_)
  set t₀ : World := { w with managers := w.managers ++ [Pool.newManager f shared discovers limit] }
  refine .bind ((Pool.makeMany_runs _ _ _).mono fun _ fresh t ⟨_, _, hlen, hmk, hmt, he⟩ => ?_)
  refine .call (.modify (.done ⟨rfl, ?_, he⟩))
  -- the new manager, with the fresh proxies still outside its pool
  have hman : t.manager w.managers.length = Pool.newManager f shared discovers limit := by
    simp [World.manager, hmt, t₀]
  have ht : Mirrors w.managers.length t ((Flow.init discovers shared level limit).setPool []) :=
    ⟨by simp [hmt, t₀], by rw [hman]; rfl, by rw [hmk.count, hlen]; simp [t₀, hw, Flow.init], rfl⟩
  have hfresh : fresh = (Flow.init discovers shared level limit).pool := by
    rw [hmk.fresh, hlen]
    simp [t₀, hw, Flow.init, Flow.pool, List.range_eq_range']
  have hinit : ((Flow.init discovers shared level limit).setPool []).setPool fresh = Flow.init discovers shared level limit := by
    rw [hfresh]
    rfl
  exact hinit ▸ ht.setPool fun _ => fresh

/-! ## Resizes -/

theorem resize_lands (h : Mirrors m w s) (level : Nat) :
    AtOnce (Pool.resize m level) w fun _ u => Mirrors m u (s.land level) ∧ u.events = w.events := by
  refine .bind (.reads ?_)
  simp only [h.members]
  by_cases hgt : max level 1 > s.pool.length
  · have hland : s.land level = { s.setPool (s.pool ++ List.range' s.made (max level 1 - s.pool.length)) with
        made := s.made + (max level 1 - s.pool.length) } := if_pos hgt
    simp only [hgt, if_true]
    rw [Pool.makeMany_eq]
    refine .bind ((Pool.makeMany_runs m _ w).atOnce.mono fun fresh t ⟨_, _, _, hlen, hmk, hmt, he⟩ =>
      .modify ⟨?_, he⟩)
    have hfresh : fresh = List.range' s.made (max level 1 - s.pool.length) := by rw [hmk.fresh, hlen, h.made]
    have ht : Mirrors m t { s with made := s.made + (max level 1 - s.pool.length) } :=
      h.frame hmt rfl (by rw [hmk.count, h.made, hlen]) h.closing
    rw [hland, ← hfresh]
    exact ht.setPool (· ++ fresh)
  · have hland : s.land level = { s.setPool (Pool.cut s.pool (max level 1)).1 with
        closed := s.closed ++ (Pool.cut s.pool (max level 1)).2 } := if_neg hgt
    simp only [hgt, if_false]
    refine .bind (.modify ?_)
    rw [Pool.closeAll_eq]
    refine (Pool.closeAll_runs _ _).atOnce.mono fun _ u ⟨_, _, _, hmu, hlu, he⟩ => ⟨?_, he⟩
    rw [hland]
    exact (h.setPool fun _ => (Pool.cut s.pool (max level 1)).1).frame hmu rfl (hlu.trans h.made) h.closing

theorem updateLevel_checks {r : Racing} (h : Mirrors m w r.flow) (level : Nat) (k : Except Error Unit → Prog conductor) :
    Prog.Reaches (fun q u js => u = w ∧ js = [] ∧
        ((r.flow.tracker.isInProgress = true ∧
            q = k (.error (.invalidState ("Cannot change parallel level while " ++
              Manager.activity r.flow.manager.discovers ++ " in progress")))) ∨
          (RacyStep r ⟨r.flow, r.resizing ++ [level]⟩ ∧
            q = Async.interleave fun _ => Pool.resize m level fun _ => k (.ok ()))))
      (Manager.updateLevel m level k) w := by
  refine .step ?_
  have ht : (w.manager m).tracker = r.flow.tracker := h.tracker
  simp only [ht, h.discovers]
  cases hp : r.flow.tracker.isInProgress with
  | true => exact .here ⟨rfl, rfl, .inl ⟨rfl, rfl⟩⟩
  | false => exact .here ⟨rfl, rfl, .inr ⟨.check r level hp, rfl⟩⟩

theorem resize_steps {r : Racing} {pre post : List Nat} {level : Nat} (hr : r.resizing = pre ++ level :: post)
    (h : Mirrors m w r.flow) :
    AtOnce (Pool.resize m level) w fun _ u =>
      RacyStep r ⟨r.flow.land level, pre ++ post⟩ ∧ Mirrors m u (r.flow.land level) ∧ u.events = w.events :=
  (resize_lands h level).mono fun _ _ hu => ⟨.land r pre post level hr, hu⟩

end Flow

end TestConductor
