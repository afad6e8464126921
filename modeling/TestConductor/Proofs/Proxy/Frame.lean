import TestConductor.Proxy.Lifecycle
import TestConductor.Proofs.Worker.Handles
/-! # What closing a proxy leaves alone

The bookkeeping of workers, their launches, hosts and event channels never touches the proxies,
the parallel managers or what the caller was told. So closing a proxy runs at once and leaves
every manager, the number of proxies and the caller's events as they were; making a proxy gives
the next free number.
-/
namespace TestConductor

open Async

/-- A property of the world that the bookkeeping of workers, their launches, hosts and event
channels cannot change. -/
structure HostsBlind (P : World → Prop) : Prop where
  worker : ∀ w i f, P w → P (w.setWorker i f)
  launch : ∀ w i f, P w → P (w.setLaunch i f)
  host : ∀ w i f, P w → P (w.setHost i f)
  channel : ∀ w i f, P w → P (w.setChannel i f)
  sent : ∀ (w : World) s, P w → P { w with sent := s }
  attempts : ∀ (w : World) a, P w → P { w with hostAttempts := a }

namespace HostsBlind

variable {P : World → Prop} (hP : HostsBlind P)
include hP

theorem emit (i : Nat) (e : WorkerEvent) : Keeps (Worker.emit i e) P := by
  refine .bind (.reads _) fun _ => ?_
  split
  · exact .bind (.modify fun s h => hP.channel s i _ h) fun _ => .signal _
  · exact .pure' ()

theorem emitDisconnected (i : Nat) (e : Option Error) : Keeps (Worker.emitDisconnected i e) P := by
  refine .bind (.reads _) fun _ => ?_
  split
  · exact .bind (.modify fun s h => hP.worker s i _ h) fun _ => hP.emit i _
  · exact .pure' ()

theorem notifyShutdown (i : Nat) : Keeps (Worker.notifyShutdown i) P :=
  .bind (.modify fun s h => hP.worker s i _ h) fun _ => .signal _

theorem stop (i : Nat) : Keeps (Worker.stop i) P := by
  refine .bind (.reads _) fun k => ?_
  split
  · dsimp only
    refine .bind (.modify fun s h => hP.worker s i _ h) fun _ => .bind (hP.notifyShutdown i) fun _ => ?_
    have tail : Keeps (if (k.phase == .idle) = true then do
        Async.modify fun w => World.setWorker w i fun k => { k with phase := .stopped }
        Worker.emitDisconnected i none
      else pure ()) P := by
      split
      · exact .bind (.modify fun s h => hP.worker s i _ h) fun _ => hP.emitDisconnected i none
      · exact .pure' ()
    split
    · exact .bind (.modify fun s h => hP.launch s _ _ h) fun _ => tail
    · exact tail
  · exact .pure' ()

theorem reaction (w : World) (m : Message) (hw : P w) : P (ScriptedHost.reaction w m).2 := by
  unfold ScriptedHost.reaction
  split
  case h_1 | h_2 | h_3 => exact hP.attempts _ _ hw
  all_goals exact hw

theorem hostSend (n : Nat) (m : Message) : Keeps (ScriptedHost.send n m) P := by
  intro s hs
  refine .bind (.reads (f := id) ?_)
  split
  · exact .pure' hs
  · split
    rename_i steps w' heq
    have hw : P w' := by
      have h := hP.reaction _ m (hP.sent (id s) ((id s).sent ++ [(n, m)]) hs)
      exact (congrArg (fun r : List ScriptStep × World => P r.2) heq).mp h
    refine .bind (.modify ?_)
    split
    · exact .bind (.signal (.pure' (hP.host _ n _ hw)))
    · exact .pure' (hP.host _ n _ hw)

theorem send (i : Nat) (m : Message) : Keeps (Worker.send i m) P := by
  refine .bind (.reads _) fun _ => ?_
  split
  · exact .pure' _
  · exact hP.hostSend _ m

theorem release (k : Nat) : Keeps (Operation.release k) P := by
  refine .bind (.reads _) fun _ => ?_
  split
  · exact .bind (.discard (hP.send k _)) fun _ => hP.stop k
  · exact hP.stop k

end HostsBlind

namespace Proxy

theorem close_keeps (i : Nat) (ms : List Manager) (n : Nat) (es : List CallerEvent) :
    Keeps (Proxy.close i) fun t => t.managers = ms ∧ t.proxies.length = n ∧ t.events = es := by
  have hb : HostsBlind fun t : World => t.managers = ms ∧ t.proxies.length = n ∧ t.events = es :=
    ⟨fun _ _ _ h => h, fun _ _ _ h => h, fun _ _ _ h => h, fun _ _ _ h => h, fun _ _ h => h, fun _ _ h => h⟩
  have hset : ∀ (w : World) (f : Proxy → Proxy), (w.setProxy i f).proxies.length = w.proxies.length :=
    fun w f => World.length_update i w.proxies f
  -- a test-host proxy lets its hosts go, out of sight of the managers, the count and the caller
  have hop : Keeps (Operation.close i) fun t => t.managers = ms ∧ t.proxies.length = n ∧ t.events = es := by
    refine .bind (.reads _) fun o => ?_
    split
    · refine .bind (.modify fun s h => ⟨h.1, (hset s _).trans h.2.1, h.2.2⟩) fun _ => ?_
      exact .forIn _ fun k _ => .bind (hb.release k) fun _ => .pure' _
    · exact .pure' ()
  refine .bind (.reads _) fun p => ?_
  split
  · exact .modify fun s h => ⟨h.1, (hset s _).trans h.2.1, h.2.2⟩
  · exact hop
  · exact hop
  · exact .pure' ()

end Proxy

namespace Factory

theorem make_makes (f : Factory) (w : World) :
    AtOnce f.make w fun p t => p = w.proxies.length ∧ t.proxies.length = w.proxies.length + 1 ∧
      t.managers = w.managers ∧ t.events = w.events :=
  .change ⟨rfl, by simp, rfl, rfl⟩

end Factory

end TestConductor
