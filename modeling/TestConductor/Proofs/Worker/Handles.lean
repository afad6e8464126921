import TestConductor.Proofs.Worker.Protocol
import TestConductor.Proofs.Runtime.Calls
import TestConductor.Proofs.Proxy.Effects
/-! # What the calls on a worker do to its handle

`World.handle` is what the event protocol sees of a worker and its channel, and
`World.Turns w i t F` says that from `w` to `t` the handle of worker `i` is mapped by `F`. Each call
that touches a worker, and each attempt of a wait on one, is given here the map it makes:
reporting an event sends it, a stop is `Handle.stop`, the end of a message loop tells the
disconnection, and the calls on hosts and launches leave the handle alone or, by a host's hook,
stop the worker.
-/
namespace TestConductor

open Async

def Handle.of (k : Worker) (c : EventChannel) : Handle :=
  ⟨k.phase, k.stopped, k.disconnected, k.shutdown, k.exitError, c.listening, c.queue⟩

namespace World

def channel (w : World) (i : Nat) : EventChannel := w.channels[i]?.getD ⟨[], false⟩

def handle (w : World) (i : Nat) : Handle := Handle.of (w.worker i) (w.channel i)

variable (w : World) (i j : Nat)

theorem length_update {γ : Type} (xs : List γ) (f : γ → γ) : (update xs j f).length = xs.length := by
  unfold update
  split <;> simp

theorem handle_setWorker (f : Worker → Worker) :
    (w.setWorker j f).handle i =
      if j = i ∧ i < w.workers.length then Handle.of (f (w.worker i)) (w.channel i) else w.handle i := by
  simp only [handle, worker_setWorker]
  by_cases h : i = j ∧ j < w.workers.length
  · obtain ⟨rfl, hi⟩ := h
    simp [hi, channel, setWorker]
  · have h' : ¬(j = i ∧ i < w.workers.length) := fun hji => h ⟨hji.1.symm, hji.1 ▸ hji.2⟩
    simp only [h, h', if_false]
    rfl

theorem handle_setChannel (f : EventChannel → EventChannel) :
    (w.setChannel j f).handle i =
      if j = i ∧ i < w.channels.length then Handle.of (w.worker i) (f (w.channel i)) else w.handle i := by
  simp only [handle, channel, setChannel, getElem?_update]
  by_cases hj : i = j
  · subst hj
    by_cases hi : i < w.channels.length
    · simp [hi, worker]
    · simp [hi, worker]
  · simp [hj, Ne.symm hj, worker]

theorem listening_eq : (w.channels[i]?.map (·.listening)).getD false = (w.channel i).listening := by
  unfold channel
  cases w.channels[i]? <;> rfl

theorem lt_length_of_listening (h : (w.channel i).listening = true) : i < w.channels.length := by
  refine Nat.lt_of_not_le fun hi => ?_
  simp [channel, List.getElem?_eq_none hi] at h

/-- From `w` to `t` the workers stay as many, and the handle of worker `i`, where it is one of
them, is mapped by `F`. -/
def Turns (t : World) (F : Handle → Handle) : Prop :=
  t.workers.length = w.workers.length ∧ (i < w.workers.length → t.handle i = F (w.handle i))

variable {w i}

theorem Turns.trans {t u : World} {F G : Handle → Handle} (h₁ : w.Turns i t F) (h₂ : t.Turns i u G) :
    w.Turns i u (G ∘ F) := by
  refine ⟨h₂.1.trans h₁.1, fun hi => ?_⟩
  rw [h₂.2 (h₁.1 ▸ hi), h₁.2 hi]
  rfl

theorem Turns.congr {t : World} {F G : Handle → Handle} (h : w.Turns i t F)
    (hF : i < w.workers.length → F (w.handle i) = G (w.handle i)) : w.Turns i t G :=
  ⟨h.1, fun hi => (h.2 hi).trans (hF hi)⟩

theorem turns_of_eq {t : World} (hw : t.workers = w.workers) (hc : t.channels = w.channels) : w.Turns i t id :=
  ⟨by rw [hw], fun _ => by simp only [handle, worker, channel, hw, hc, id]⟩

theorem Turns.refl : w.Turns i w id := turns_of_eq rfl rfl

variable (w i)

theorem turns_setWorker (f : Worker → Worker) (g : Handle → Handle)
    (hg : ∀ k c, Handle.of (f k) c = g (Handle.of k c)) :
    w.Turns i (w.setWorker j f) (if j = i then g else id) := by
  refine ⟨length_update _ _ _, fun hi => ?_⟩
  rw [handle_setWorker]
  by_cases hj : j = i
  · simp [hj, hi, hg, handle]
  · simp [hj]

theorem turns_setWorker_self (f : Worker → Worker) (g : Handle → Handle)
    (hg : ∀ k c, Handle.of (f k) c = g (Handle.of k c)) : w.Turns i (w.setWorker i f) g :=
  (turns_setWorker w i i f g hg).congr fun _ => by simp

theorem turns_setPhase (p : Phase) :
    w.Turns i (w.setWorker i ({ · with phase := p })) ({ · with phase := p }) :=
  turns_setWorker_self w i _ _ fun _ _ => rfl

theorem turns_setLaunch (f : Launch → Launch) : w.Turns i (w.setLaunch j f) id := turns_of_eq rfl rfl

theorem turns_setHost (f : ScriptedHost → ScriptedHost) : w.Turns i (w.setHost j f) id := turns_of_eq rfl rfl

theorem turns_setChannel (f : EventChannel → EventChannel) (g : Handle → Handle)
    (hg : ∀ k c, Handle.of k (f c) = g (Handle.of k c)) (hj : j = i → i < w.channels.length) :
    w.Turns i (w.setChannel j f) (if j = i then g else id) := by
  refine ⟨rfl, fun _ => ?_⟩
  rw [handle_setChannel]
  by_cases hji : j = i
  · simp [hji, hj hji, hg, handle]
  · simp [hji]

def Aside (t : World) : Prop := w.Turns i t id ∨ w.Turns i t Handle.stop

theorem aside_of_stop {w : World} {i : Nat} {t : World} {c : Prop} [Decidable c] (h : w.Turns i t (if c then Handle.stop else id)) :
    w.Aside i t := by
  by_cases hc : c
  · exact .inr (h.congr fun _ => by simp [hc])
  · exact .inl (h.congr fun _ => by simp [hc])

end World

namespace Worker

variable (i : Nat)

theorem emit_turns (j : Nat) (e : WorkerEvent) (w : World) :
    AtOnce (emit j e) w fun _ t => w.Turns i t (if j = i then (·.send e) else id) := by
  unfold emit
  refine .bind (.reads ?_)
  rw [World.listening_eq]
  split
  · rename_i hl
    refine .bind (.modify (.signal ((World.turns_setChannel w i j _
      (fun h => { h with queue := h.queue ++ [e] }) (fun _ _ => rfl)
      fun hj => World.lt_length_of_listening _ _ (hj ▸ hl)).congr fun _ => ?_)))
    by_cases hj : j = i
    · subst hj
      simp [Handle.send, World.handle, Handle.of, hl]
    · simp [hj]
  · rename_i hl
    refine .pure' (World.Turns.refl.congr fun _ => ?_)
    by_cases hj : j = i
    · subst hj
      simp [Handle.send, World.handle, Handle.of, hl]
    · simp [hj]

theorem emitDisconnected_turns (j : Nat) (e : Option Error) (w : World) :
    AtOnce (emitDisconnected j e) w fun _ t => w.Turns i t (if j = i then (·.disconnect e) else id) := by
  unfold emitDisconnected
  refine .bind (.reads ?_)
  split
  · rename_i hd
    have h₁ := World.turns_setWorker w i j (fun k => { k with disconnected := true })
      (fun h => { h with disconnected := true }) fun _ _ => rfl
    refine .bind (.modify ((emit_turns i j _ _).mono fun _ t h₂ => (h₁.trans h₂).congr fun _ => ?_))
    by_cases hj : j = i
    · subst hj
      simp at hd
      simp [Handle.disconnect, World.handle, Handle.of, hd]
    · simp [hj]
  · rename_i hd
    refine .pure' (World.Turns.refl.congr fun _ => ?_)
    by_cases hj : j = i
    · subst hj
      simp at hd
      simp [Handle.disconnect, World.handle, Handle.of, hd]
    · simp [hj]

theorem notifyShutdown_turns (j : Nat) (w : World) :
    AtOnce (notifyShutdown j) w fun _ t => w.Turns i t (if j = i then ({ · with shutdown := true }) else id) :=
  .bind (.modify (.signal (World.turns_setWorker w i j _ _ fun _ _ => rfl)))

theorem fail_turns (j : Nat) (e : Error) (w : World) :
    AtOnce (fail j e) w fun _ t =>
      w.Turns i t (if j = i then ({ · with exitError := some e, shutdown := true }) else id) :=
  .bind (.modify ((notifyShutdown_turns i j _).mono fun _ _ h₂ =>
    ((World.turns_setWorker w i j _ ({ · with exitError := some e }) fun _ _ => rfl).trans h₂).congr
      fun _ => by split <;> rfl))

theorem takeExitError_turns (j : Nat) (w : World) :
    AtOnce (takeExitError j) w fun a t =>
      a = (w.worker j).exitError ∧ w.Turns i t (if j = i then ({ · with exitError := none }) else id) :=
  .change ⟨rfl, World.turns_setWorker w i j _ _ fun _ _ => rfl⟩

theorem stopIdle_turns (j : Nat) (c : Bool) (w : World) :
    AtOnce (if c = true then do
        Async.modify fun (w : World) => w.setWorker j fun k => { k with phase := .stopped }
        emitDisconnected j none
      else pure ()) w
      fun _ t => w.Turns i t (if j = i ∧ c = true then ({ · with phase := .stopped }.disconnect none) else id) := by
  split
  · rename_i hc
    refine .bind (.modify ((emitDisconnected_turns i j none _).mono fun _ t h₂ =>
      ((World.turns_setWorker w i j _ ({ · with phase := .stopped }) fun _ _ => rfl).trans h₂).congr fun _ => ?_))
    by_cases hj : j = i <;> simp [hj, hc]
  · rename_i hc
    exact .pure' (World.Turns.refl.congr fun _ => by simp [hc])

theorem stop_turns (j : Nat) (w : World) :
    AtOnce (stop j) w fun _ t => w.Turns i t (if j = i then Handle.stop else id) := by
  unfold stop
  refine .bind (.reads ?_)
  split
  · rename_i hs
    have h₁ := World.turns_setWorker w i j (fun k => { k with stopped := true, kill := none })
      ({ · with stopped := true }) fun _ _ => rfl
    refine .bind (.modify (.bind ((notifyShutdown_turns i j _).mono fun _ t h₂ => ?_)))
    have h₃ := h₁.trans h₂
    -- whether or not the kill switch fires, the rest is the same stop
    have hF : ∀ u, t.Turns i u (if j = i ∧ ((w.worker j).phase == .idle) = true then
        ({ · with phase := .stopped }.disconnect none) else id) →
        w.Turns i u (if j = i then Handle.stop else id) := by
      intro u h₄
      refine (h₃.trans h₄).congr fun _ => ?_
      by_cases hj : j = i
      · subst hj
        simp at hs
        by_cases hp : (w.worker j).phase = .idle <;>
          simp [Handle.stop, World.handle, Handle.of, hs, hp]
      · simp [hj]
    dsimp only
    split
    · exact .bind (.modify ((stopIdle_turns i j _ _).mono fun _ u h₄ =>
        hF u (((World.turns_of_eq rfl rfl).trans h₄).congr fun _ => rfl)))
    · exact (stopIdle_turns i j _ _).mono fun _ u h₄ => hF u h₄
  · rename_i hs
    refine .pure' (World.Turns.refl.congr fun _ => ?_)
    by_cases hj : j = i
    · subst hj
      simp at hs
      simp [Handle.stop, World.handle, Handle.of, hs]
    · simp [hj]

theorem endLoop_turns (j : Nat) (e : Option Error) (w : World) :
    AtOnce (endLoop j e) w fun _ t =>
      w.Turns i t (if j = i then ({ · with phase := .stopped }.disconnect e) else id) := by
  unfold endLoop ScriptedHost.disconnect
  refine .bind (.reads (.bind (.modify (.bind (.modify ((emitDisconnected_turns i j e _).mono fun _ t h₂ => ?_))))))
  refine ((World.turns_of_eq rfl rfl).trans ((World.turns_setWorker _ i j _ ({ · with phase := .stopped })
    fun _ _ => rfl).trans h₂)).congr fun _ => ?_
  by_cases hj : j = i <;> simp [hj]

theorem dropReceiver_turns (j : Nat) (w : World) :
    AtOnce (dropReceiver j) w fun _ t =>
      w.Turns i t (if j = i then ({ · with listening := false, queue := [] }) else id) := by
  refine .modify ?_
  by_cases hc : j = i → i < w.channels.length
  · exact World.turns_setChannel w i j _ _ (fun _ _ => rfl) hc
  · -- past the last channel there is none to drop, and nobody listens there
    obtain ⟨rfl, hc⟩ := Classical.not_imp.1 hc
    have hn : w.channels[j]? = none := List.getElem?_eq_none (Nat.le_of_not_lt hc)
    refine (World.turns_of_eq (by rfl) ?_).congr fun _ => ?_
    · simp [World.setChannel, World.update, hn]
    · simp [World.handle, World.channel, Handle.of, hn]

theorem takeShutdown_some {j : Nat} {w t : World} {u : Unit} (h : takeShutdown j w = some (t, u)) :
    (w.worker j).shutdown = true ∧ w.Turns i t (if j = i then ({ · with shutdown := false }) else id) := by
  unfold takeShutdown at h
  split at h
  · rename_i hs
    cases h
    exact ⟨hs, World.turns_setWorker w i j _ _ fun _ _ => rfl⟩
  · cases h

theorem takeShutdown_none {j : Nat} {w : World} (h : takeShutdown j w = none) : (w.worker j).shutdown = false := by
  unfold takeShutdown at h
  split at h
  · cases h
  · rename_i hs
    simpa using hs

theorem takeEvent_some {j : Nat} {w t : World} {e : WorkerEvent} (h : takeEvent j w = some (t, e)) :
    ∃ rest, (w.channel j).queue = e :: rest ∧
      w.Turns i t (if j = i then ({ · with queue := rest }) else id) := by
  unfold takeEvent at h
  split at h
  · rename_i c hc
    split at h
    · rename_i rest hq
      cases h
      refine ⟨rest, by simp [World.channel, hc, hq], World.turns_setChannel w i j _ _ (fun _ _ => rfl) fun hj => ?_⟩
      subst hj
      exact (List.getElem?_eq_some_iff.1 hc).1
    · cases h
  · cases h

theorem takeExit_turns {l : Nat} {w t : World} {e : ProcessExit} (h : takeExit l w = some (t, e)) :
    w.Turns i t id := by
  unfold takeExit at h
  split at h
  · obtain ⟨_, _, he⟩ := Option.map_eq_some_iff.1 h
    cases he
    exact World.turns_setLaunch w i l _
  · cases h

end Worker

theorem ScriptedHost.next_turns (i : Nat) {n : Nat} {w t : World} {r : ScriptedHost.Received}
    (h : ScriptedHost.next n w = some (t, r)) : w.Turns i t id := by
  obtain ⟨hs, ls, rfl⟩ := ScriptedHost.next_frame h
  exact World.turns_of_eq rfl rfl

namespace Worker

variable (i : Nat)

theorem loopStep_shutdown {j host : Nat} {w t : World} (h : loopStep j host w = some (t, .shutdown)) :
    (w.worker j).shutdown = true ∧ w.Turns i t (if j = i then ({ · with shutdown := false }) else id) := by
  unfold loopStep at h
  split at h
  · rename_i hs
    cases h
    exact takeShutdown_some i hs
  · obtain ⟨⟨_, _⟩, _, he⟩ := Option.map_eq_some_iff.1 h
    cases he

theorem loopStep_received {j host : Nat} {w t : World} {r : ScriptedHost.Received}
    (h : loopStep j host w = some (t, .received r)) : w.Turns i t id := by
  unfold loopStep at h
  split at h
  · cases h
  · obtain ⟨⟨t', r'⟩, hn, he⟩ := Option.map_eq_some_iff.1 h
    cases he
    exact ScriptedHost.next_turns i hn

end Worker

/-! ## The calls on hosts and launches -/

section Hosts

variable (i : Nat)

theorem ScriptedHost.fireExit_turns (l : Nat) (e : ProcessExit) (w : World) :
    AtOnce (ScriptedHost.fireExit l e) w fun _ t => w.Turns i t id := by
  unfold ScriptedHost.fireExit
  refine .bind (.reads ?_)
  dsimp only
  split
  · exact .bind (.modify (.bind (.signal (.pure' (World.turns_setLaunch w i l _)))))
  · exact .pure' World.Turns.refl

theorem ScriptedHost.connectEnd_turns (n : Nat) (endpoint : String) (w : World) :
    AtOnce (ScriptedHost.connectEnd n endpoint) w fun _ t => w.Turns i t id := by
  unfold ScriptedHost.connectEnd
  refine .bind (.reads ?_)
  split
  · exact .pure' World.Turns.refl
  · exact .bind (.modify (.bind (.signal (.pure' (World.turns_of_eq (by dsimp only; split <;> rfl)
      (by dsimp only; split <;> rfl))))))

theorem ScriptedHost.reaction_keeps (w : World) (m : Message) :
    (ScriptedHost.reaction w m).2.workers = w.workers ∧ (ScriptedHost.reaction w m).2.channels = w.channels := by
  unfold ScriptedHost.reaction
  split <;> exact ⟨rfl, rfl⟩

theorem ScriptedHost.send_turns (n : Nat) (m : Message) (w : World) :
    AtOnce (ScriptedHost.send n m) w fun _ t => w.Turns i t id := by
  unfold ScriptedHost.send
  refine .bind (.reads (f := id) ?_)
  split
  · exact .pure' World.Turns.refl
  · -- the host queues its reaction, which leaves the workers and their channels as they were
    split
    rename_i steps w' heq
    have hw := congrArg (fun r : List ScriptStep × World => (r.2.workers, r.2.channels)) heq
    simp only [id, ScriptedHost.reaction_keeps, Prod.mk.injEq] at hw
    have ht : w.Turns i (w'.setHost n fun h => { h with queue := h.queue ++ steps }) id :=
      World.turns_of_eq hw.1.symm hw.2.symm
    refine .bind (.modify ?_)
    split
    · exact .bind (.signal (.pure' ht))
    · exact .pure' ht

theorem Operation.requestAbort_turns (p : Nat) (w : World) :
    AtOnce (Operation.requestAbort p) w fun _ t => w.Turns i t id := by
  unfold Operation.requestAbort
  refine .bind (.reads ?_)
  split
  · exact .pure' World.Turns.refl
  · exact .bind (.modify (.pure' (World.turns_of_eq (by rfl) (by rfl))))

theorem ScriptedHost.connectBegin_turns (endpoint : String) (w : World) :
    AtOnce (ScriptedHost.connectBegin endpoint) w fun _ t => w.Aside i t := by
  unfold ScriptedHost.connectBegin
  refine .bind (.reads (f := id) ?_)
  extract_lets script last tail
  -- after the hook, an exit on connect fires the launch it is meant for
  have htail : ∀ u t, AtOnce (tail u) t fun _ t' => t.Turns i t' id := by
    intro u t
    dsimp only [tail]
    split
    · refine .bind (.reads (f := id) ?_)
      split
      · exact .bind (.discard ((ScriptedHost.fireExit_turns i _ _ _).mono fun _ _ h => AtOnce.pure' h))
      · exact .pure' World.Turns.refl
    · exact .pure' World.Turns.refl
  have hstop : ∀ k, AtOnce (Worker.stop k >>= tail) w fun _ t => w.Aside i t := fun k =>
    .bind ((Worker.stop_turns i k w).mono fun _ t h => (htail () t).mono fun _ _ h' =>
      World.aside_of_stop ((h.trans h').congr (G := if k = i then Handle.stop else id) fun _ => by split <;> rfl))
  have hframe : ∀ {x : Act Unit}, AtOnce x w (fun _ t => w.Turns i t id) →
      AtOnce (x >>= tail) w fun _ t => w.Aside i t :=
    fun hx => .bind (hx.mono fun _ t h => (htail () t).mono fun _ _ h' => .inl (h.trans h'))
  split
  · split
    · exact hstop _
    · exact (htail () w).mono fun _ _ h => .inl h
  · split
    · exact hframe (.discard (Operation.requestAbort_turns i _ w))
    · exact (htail () w).mono fun _ _ h => .inl h
  · exact (htail () w).mono fun _ _ h => .inl h

theorem Launch.begin_turns (info : StartInfo) (w : World) :
    Stretch (Launch.begin info) w fun _ t js => w.Turns i t id ∧ ∀ x ∈ js, ∃ l a e, x = .process l a e := by
  unfold Launch.begin
  refine .bind (.reads ?_)
  split
  · unfold Launch.spawn
    refine .bind (.read ?_)
    split
    · exact .bind (.write (.pure' ⟨World.turns_of_eq rfl rfl, by simp⟩))
    · refine .bind (.write ?_)
      split
      · exact .bind (.fork (.pure' ⟨World.turns_of_eq rfl rfl, fun _ hx => ⟨_, _, _, List.mem_singleton.1 hx⟩⟩))
      · exact .pure' ⟨World.turns_of_eq rfl rfl, by simp⟩
  · unfold Launch.start
    refine .change ?_
    dsimp only
    split
    · exact ⟨World.turns_of_eq rfl rfl, by simp⟩
    · exact ⟨World.turns_of_eq rfl rfl, by simp⟩

theorem Launch.fireNewest_turns (e : ProcessExit) (w : World) :
    AtOnce (Launch.fireNewest e) w fun _ t => w.Turns i t id := by
  unfold Launch.fireNewest
  refine .bind (.reads (f := id) ?_)
  -- whichever launch it picks, the newest free one or else one a host holds, it fires that
  -- one's exit; with none to pick it does nothing
  split
  · exact ScriptedHost.fireExit_turns i _ _ _
  · dsimp only
    split
    · exact ScriptedHost.fireExit_turns i _ _ _
    · exact .pure' World.Turns.refl

theorem ScriptedHost.disconnect_turns (n : Nat) (w : World) :
    AtOnce (ScriptedHost.disconnect n) w fun _ t => w.Turns i t id :=
  .modify (World.turns_setHost w i n _)

end Hosts

namespace Worker

variable (i : Nat)

theorem send_turns (j : Nat) (m : Message) (w : World) : AtOnce (send j m) w fun _ t => w.Turns i t id := by
  unfold send
  refine .bind (.reads ?_)
  split
  · exact .pure' World.Turns.refl
  · exact ScriptedHost.send_turns i _ _ _

theorem take_turns {s₀ s₁ t : World} {e : Option Error}
    (h₁ : s₀.Turns i s₁ (if i = i then ({ · with shutdown := false }) else id))
    (h₂ : e = (s₁.worker i).exitError ∧ s₁.Turns i t (if i = i then ({ · with exitError := none }) else id)) :
    s₀.Turns i t Handle.take ∧ (i < s₀.workers.length → e = (s₀.handle i).exitError) := by
  refine ⟨(h₁.trans h₂.2).congr fun _ => by simp [Handle.take], fun hi => ?_⟩
  have h := congrArg Handle.exitError (h₁.2 hi)
  simp only [if_true] at h
  exact h₂.1.trans h

end Worker

end TestConductor
