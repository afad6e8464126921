import TestConductor.Proofs.Proxy.Standing
/-! # The life of a test-host proxy

The calls on one proxy — readying, claiming it for a unit, setting up the unit's host, ending the
unit completed or failed, asking for an abort, and closing — run in any interleaving, and the
proxies end a unit only after they claimed it, once. `Life` is the proxy's bookkeeping with how
many units it took and how many are in progress, and `Life.Step` what one call, or one step of
setting up a host, does to it.
-/
namespace TestConductor

open Async

namespace Operation

theorem accepts_iff (o : Operation) :
    o.accepts = true ↔ o.state = .created ∨ o.state = .initialized ∨ (o.state = .completed ∧ o.isShared = true) := by
  unfold accepts
  split <;> simp_all

theorem readied_runtime (o : Operation) : o.readied.runtime = o.runtime := by
  unfold readied
  split <;> rfl

theorem ended_state_of_closed {o : Operation} (hc : o.state = .closed) (a : Bool) : (o.ended a).state = .closed := by
  simp [ended, hc]

theorem shut_runtime (o : Operation) : o.shut.runtime = o.runtime := by
  unfold shut
  split <;> rfl

theorem readied_state (o : Operation) : o.readied.state = if o.state = .created then .initialized else o.state := by
  unfold readied
  split <;> simp_all

theorem ended_state (o : Operation) (a : Bool) :
    (o.ended a).state = .closed ∨ (o.ended a).state = .aborted ∨ (o.ended a).state = .completed := by
  unfold ended
  split
  · exact .inl ‹_›
  · cases a <;> simp

theorem shut_state (o : Operation) : o.shut.state = .closed := by
  unfold shut
  split <;> simp_all

end Operation

/-- A proxy over its life: its bookkeeping, how many units it took, and how many of them are in
progress. -/
structure Life where
  op : Operation
  taken : Nat
  running : Nat

namespace Life

/-- What one call on a proxy does to its life, a unit being ended only while one is in progress. -/
inductive Step : Life → Life → Prop where
  | prepare (l : Life) : Step l { l with op := l.op.readied }
  | begin (l : Life) (h : l.op.accepts = true) :
      Step l { l with op := l.op.claimed, taken := l.taken + 1, running := l.running + 1 }
  | refuse (l : Life) (h : l.op.accepts = false) : Step l l
  /-- A unit ends completed or aborted, whatever becomes of the hosts the proxy keeps. -/
  | finish (l : Life) (a : Bool) (o : Operation) (hr : 0 < l.running) (ho : (l.op.ended a).Rehosted o) :
      Step l { l with op := o, running := l.running - 1 }
  | close (l : Life) : Step l { l with op := l.op.shut }
  /-- The hosts the proxy keeps change, or an abort is marked, its state staying as it is. -/
  | host (l : Life) (o : Operation) (ho : l.op.Rehosted o) : Step l { l with op := o }

/-- A life goes from `l` to `l'` by steps. -/
inductive Run : Life → Life → Prop where
  | refl (l : Life) : Run l l
  | step {l l' l'' : Life} (h : Run l l') (hs : Step l' l'') : Run l l''

/-- The lives of a proxy made with a name and a runtime. -/
inductive Reachable (name : String) (runtime : HostConfig) : Life → Prop where
  | init : Reachable name runtime ⟨Operation.new name runtime, 0, 0⟩
  | step {l l' : Life} (h : Reachable name runtime l) (hs : Step l l') : Reachable name runtime l'

theorem Reachable.run {name : String} {runtime : HostConfig} {l l' : Life} (h : Reachable name runtime l)
    (hr : Run l l') : Reachable name runtime l' := by
  induction hr with
  | refl => exact h
  | step _ hs ih => exact ih.step hs

/-! ## What one step keeps -/

theorem Step.runtime {l l' : Life} (h : Step l l') : l'.op.runtime = l.op.runtime := by
  cases h with
  | prepare => exact Operation.readied_runtime l.op
  | begin => rfl
  | refuse => rfl
  | finish a o _ ho => exact ho.2.1.trans (Operation.ended_runtime l.op a)
  | close => exact Operation.shut_runtime l.op
  | host o ho => exact ho.2.1

theorem Step.closed {l l' : Life} (h : Step l l') (hc : l.op.state = .closed) : l'.op.state = .closed := by
  cases h with
  | prepare => simp [Operation.readied, hc]
  | begin ha => exact absurd hc (Operation.not_closed_of_accepts ha)
  | refuse => exact hc
  | finish a o _ ho => exact ho.2.2.trans (Operation.ended_state_of_closed hc a)
  | close => simp [Operation.shut, hc]
  | host o ho => exact ho.2.2.trans hc

theorem Run.closed {l l' : Life} (h : Run l l') (hc : l.op.state = .closed) : l'.op.state = .closed := by
  induction h with
  | refl => exact hc
  | step _ hs ih => exact hs.closed ih

/-- The invariant of a proxy's life: at most one unit is in progress, exactly when the proxy is
busy or closed over it; once a unit was taken the proxy is never created or readied again; and a
proxy whose host may not be shared took at most one. -/
structure Sound (l : Life) : Prop where
  running_le : l.running ≤ 1
  busy : l.op.state = .busy → l.running = 1
  running : l.running = 1 → l.op.state = .busy ∨ l.op.state = .closed
  fresh : 0 < l.taken → l.op.state ≠ .created ∧ l.op.state ≠ .initialized
  unshared : l.op.isShared = false → l.taken ≤ 1

theorem Sound.init (name : String) (runtime : HostConfig) : Sound ⟨Operation.new name runtime, 0, 0⟩ :=
  ⟨Nat.zero_le 1, by simp [Operation.new], by simp, by simp, by simp⟩

theorem Sound.idle_of_accepts {l : Life} (hs : Sound l) (ha : l.op.accepts = true) : l.running = 0 := by
  rcases Nat.le_one_iff_eq_zero_or_eq_one.1 hs.running_le with h | h
  · exact h
  · rcases hs.running h with hb | hc
    · rw [Operation.accepts_iff] at ha
      rcases ha with h' | h' | ⟨h', _⟩ <;> simp [hb] at h'
    · exact absurd hc (Operation.not_closed_of_accepts ha)

theorem Sound.not_accepts {l : Life} (hs : Sound l) (hu : l.op.isShared = false) (ht : 0 < l.taken) :
    l.op.accepts = false := by
  obtain ⟨hc, hi⟩ := hs.fresh ht
  rw [← Bool.not_eq_true, Operation.accepts_iff]
  rintro (h | h | ⟨_, h⟩)
  · exact hc h
  · exact hi h
  · simp [hu] at h

theorem Sound.step {l l' : Life} (hs : Sound l) (h : Step l l') : Sound l' := by
  have hrt : l'.op.isShared = l.op.isShared := by simp [Operation.isShared, h.runtime]
  cases h with
  | prepare =>
    -- readying changes only a proxy just made, which took no unit
    have hr := Operation.readied_state l.op
    refine ⟨hs.running_le, fun hb => hs.busy ?_, fun h1 => ?_, fun ht => ?_, fun hu => hs.unshared (hrt ▸ hu)⟩
    · split at hr <;> simp_all
    · rcases hs.running h1 with hb | hc <;> simp_all
    · obtain ⟨hc, hi⟩ := hs.fresh ht
      simp_all
  | begin ha =>
    -- a proxy that takes a unit has none in progress, and an unshared one took none before
    have h0 := hs.idle_of_accepts ha
    refine ⟨by simp [h0], fun _ => by simp [h0], fun _ => .inl rfl, fun _ => by simp [Operation.claimed], fun hu => ?_⟩
    have ht : l.taken = 0 := Nat.eq_zero_of_not_pos fun ht => by
      simp [hs.not_accepts (hrt ▸ hu) ht] at ha
    simp [ht]
  | refuse => exact hs
  | finish a o hr ho =>
    have h1 : l.running = 1 := by have := hs.running_le; omega
    have hst : o.state = .closed ∨ o.state = .aborted ∨ o.state = .completed := ho.2.2 ▸ Operation.ended_state l.op a
    refine ⟨by simp [h1], fun hb => ?_, fun h => by simp [h1] at h, fun _ => ?_, fun hu => hs.unshared (hrt ▸ hu)⟩
    · rcases hst with h | h | h <;> simp [h] at hb
    · rcases hst with h | h | h <;> simp [h]
  | close =>
    have hc := Operation.shut_state l.op
    refine ⟨hs.running_le, fun hb => by simp [hc] at hb, fun _ => .inr hc, fun _ => by simp [hc],
      fun hu => hs.unshared (hrt ▸ hu)⟩
  | host o ho =>
    have hst : o.state = l.op.state := ho.2.2
    exact ⟨hs.running_le, fun hb => hs.busy (hst ▸ hb), fun h1 => hst ▸ hs.running h1,
      fun ht => hst ▸ hs.fresh ht, fun hu => hs.unshared (hrt ▸ hu)⟩

theorem Reachable.sound {name : String} {runtime : HostConfig} {l : Life} (h : Reachable name runtime l) :
    Sound l := by
  induction h with
  | init => exact Sound.init name runtime
  | step _ hs ih => exact ih.step hs

theorem Reachable.runtime {name : String} {runtime : HostConfig} {l : Life} (h : Reachable name runtime l) :
    l.op.runtime = runtime := by
  induction h with
  | init => rfl
  | step _ hs ih => exact hs.runtime.trans ih

theorem Step.settled {l l' : Life} (hs : Sound l) (h : Step l l')
    (hst : l.op.state = .aborted ∨ l.op.state = .closed) :
    l'.taken = l.taken ∧ (l'.op.state = .aborted ∨ l'.op.state = .closed) := by
  cases h with
  | prepare =>
    refine ⟨rfl, ?_⟩
    rcases hst with h | h <;> simp [Operation.readied_state, h]
  | begin ha =>
    rw [Operation.accepts_iff] at ha
    rcases hst with h | h <;> rcases ha with h' | h' | ⟨h', _⟩ <;> simp [h] at h'
  | refuse => exact ⟨rfl, hst⟩
  | finish a o hr ho =>
    -- a unit in progress means the proxy is busy or closed, so here it is closed
    have h1 : l.running = 1 := by have := hs.running_le; omega
    have hc : l.op.state = .closed := by
      rcases hs.running h1 with hb | hc
      · rcases hst with h | h <;> simp [h] at hb
      · exact hc
    exact ⟨rfl, .inr (ho.2.2.trans (Operation.ended_state_of_closed hc a))⟩
  | close => exact ⟨rfl, .inr (Operation.shut_state l.op)⟩
  | host o ho => exact ⟨rfl, ho.2.2 ▸ hst⟩

theorem Run.settled {name : String} {runtime : HostConfig} {l l' : Life} (hl : Reachable name runtime l)
    (h : Run l l') (hst : l.op.state = .aborted ∨ l.op.state = .closed) :
    l'.taken = l.taken ∧ (l'.op.state = .aborted ∨ l'.op.state = .closed) := by
  induction h with
  | refl => exact ⟨rfl, hst⟩
  | step hr hs ih =>
    obtain ⟨ht, hst'⟩ := ih
    obtain ⟨ht', hst''⟩ := hs.settled (hl.run hr).sound hst'
    exact ⟨ht'.trans ht, hst''⟩

def Of (p : Nat) (l : Life) (w : World) : Prop := (w.proxy p).operation? = some l.op

end Life

/-! ## The calls move the proxy as the steps say -/

namespace Operation

variable {w : World} {p : Nat} {l : Life}

theorem prepare_steps (hl : l.Of p w) :
    AtOnce (prepare p) w fun r t => r.toBool = (l.op.state != .closed) ∧ ∃ l', Life.Step l l' ∧ l'.Of p t := by
  refine (prepare_readies w p).mono fun r t ⟨hr, ht⟩ => ?_
  subst ht
  exact ⟨by rw [hr, operation_eq hl], _, .prepare l, operation?_of_proxies (f := readied) rfl hl⟩

theorem begin_steps (hl : l.Of p w) :
    AtOnce (begin p) w fun r t => r.toBool = l.op.accepts ∧ ∃ l', Life.Step l l' ∧ l'.Of p t := by
  refine (begin_claims w p).mono fun r t ⟨hr, ht⟩ => ⟨by rw [hr, operation_eq hl], ?_⟩
  rw [operation_eq hl] at ht
  by_cases ha : l.op.accepts = true
  · rw [if_pos ha] at ht
    subst ht
    exact ⟨_, .begin l ha, operation?_of_proxies (f := claimed) rfl hl⟩
  · rw [if_neg ha] at ht
    exact ⟨l, .refuse l (by simpa using ha), ht ▸ hl⟩

theorem complete_steps (a : Bool) {k : Nat} (hk : k < w.workers.length) (hl : l.Of p w) (hr : 0 < l.running) :
    AtOnce (complete p a k) w fun _ t => ∃ l', Life.Step l l' ∧ l'.Of p t :=
  (complete_leaves_ended w p a k hk hl).mono fun _ _ ⟨o, ho, hre⟩ => ⟨_, .finish l a o hr hre, ho⟩

theorem fail_steps (hl : l.Of p w) (hr : 0 < l.running) :
    AtOnce (fail p) w fun _ t => ∃ l', Life.Step l l' ∧ l'.Of p t :=
  (fail_leaves_ended w p hl).mono fun _ _ ⟨o, ho, hre⟩ => ⟨_, .finish l true o hr hre, ho⟩

theorem requestAbort_steps (hl : l.Of p w) :
    AtOnce (requestAbort p) w fun _ t => ∃ l', Life.Step l l' ∧ l'.Of p t := by
  unfold requestAbort
  refine .bind (.reads ?_)
  split
  · exact .pure' ⟨l, .host l l.op ⟨rfl, rfl, rfl⟩, hl⟩
  · refine .bind (.modify (.pure' ⟨_, .host l { l.op with abortRequested := true } ⟨rfl, rfl, rfl⟩, ?_⟩))
    exact operation?_of_proxies rfl hl

theorem reaction_proxies (w : World) (m : Message) : (ScriptedHost.reaction w m).2.proxies = w.proxies := by
  unfold ScriptedHost.reaction
  split <;> rfl

theorem send_keeps (k : Nat) (m : Message) (ps : List Proxy) : Keeps (Worker.send k m) fun t => t.proxies = ps := by
  unfold Worker.send ScriptedHost.send
  refine .bind (.reads _) fun _ => ?_
  split
  · exact .pure' _
  intro s hs
  refine .bind (.reads (f := id) ?_)
  split
  · exact .pure' hs
  · -- the host queues its reaction, which leaves the proxies as they were
    split
    rename_i steps w' heq
    have hw : w'.proxies = ps := by
      have h := congrArg (fun r : List ScriptStep × World => r.2.proxies) heq
      rw [reaction_proxies] at h
      exact h.symm.trans hs
    refine .bind (.modify ?_)
    split
    · exact .bind (.signal (.pure' hw))
    · exact .pure' hw

theorem release_keeps (k : Nat) (ps : List Proxy) : Keeps (release k) fun t => t.proxies = ps := by
  unfold release
  refine .bind (.reads _) fun _ => ?_
  dsimp only
  have hstop : Keeps (Worker.stop k) fun t => t.proxies = ps :=
    fun s hs => (Worker.stop_stops s k).mono fun _ _ ht => ht.2.trans hs
  split
  · exact .bind (.discard (send_keeps k _ ps)) fun _ => hstop
  · exact hstop

theorem close_steps (hl : l.Of p w) : AtOnce (close p) w fun _ t => ∃ l', Life.Step l l' ∧ l'.Of p t := by
  unfold close
  refine .bind (.reads ?_)
  split
  · rename_i hc
    have hc : l.op.state ≠ .closed := by simpa [operation_eq hl] using hc
    refine .bind (.modify ?_)
    -- the proxy is shut at once; letting its hosts go touches no proxy
    refine ((Keeps.bind (Keeps.forIn _ fun k _ => Keeps.bind (release_keeps k _) fun _ => .pure' _)
      fun _ => Keeps.pure' ()) _ rfl).mono fun _ t ht => ⟨_, .close l, ?_⟩
    have hshut : (fun o : Operation => { o with state := .closed, worker := none, idle := none }) l.op = l.op.shut := by
      simp [shut, hc]
    rw [← hshut]
    exact operation?_of_proxies ht hl
  · rename_i hc
    have hc : l.op.state = .closed := by simpa [operation_eq hl] using hc
    exact .pure' ⟨_, .close l, by simpa [Life.Of, shut, hc] using hl⟩

theorem setupChannel_rehosts (p : Nat) (sources : List String) (o : Operation) :
    Guards (fun t : World => ∃ o', (t.proxy p).operation? = some o' ∧ o.Rehosted o') Job.ofHost
      (setupChannel p sources) := by
  have hP : (fun t : World => ∃ o', (t.proxy p).operation? = some o' ∧ o.Rehosted o') = Standing p (some o.standing) := by
    funext t
    simp [Standing, World.standing, rehosted_iff, Option.map_eq_some_iff]
  rw [hP]
  exact setupChannel_guards p _ p sources

end Operation

open Operation in
/-- The life of a test-host proxy. Each call on it moves it by one step of its life, at once, and
every step of setting up a unit's host is a host step; over every interleaving of such steps from
a new proxy, at most one unit is in progress, a proxy is claimed only when it was created or
readied, or completed its unit on a host that may be shared, a closed proxy stays closed and
refuses to be readied or claimed, an aborted proxy takes no unit any more, and a proxy whose host
may not be shared takes one unit over its whole life. -/
theorem proxy_serves_one_unit_at_a_time (p : Nat) (name : String) (runtime : HostConfig) :
    (∀ w (l : Life), l.Of p w → AtOnce (prepare p) w fun r t =>
      r.toBool = (l.op.state != .closed) ∧ ∃ l', Life.Step l l' ∧ l'.Of p t) ∧
    (∀ w (l : Life), l.Of p w → AtOnce (begin p) w fun r t =>
      r.toBool = l.op.accepts ∧ ∃ l', Life.Step l l' ∧ l'.Of p t) ∧
    (∀ sources (o : Operation), Guards (fun t : World => ∃ o', (t.proxy p).operation? = some o' ∧ o.Rehosted o') Job.ofHost
      (setupChannel p sources)) ∧
    (∀ w (l : Life) a k, l.Of p w → 0 < l.running → k < w.workers.length → AtOnce (complete p a k) w fun _ t =>
      ∃ l', Life.Step l l' ∧ l'.Of p t) ∧
    (∀ w (l : Life), l.Of p w → 0 < l.running → AtOnce (fail p) w fun _ t => ∃ l', Life.Step l l' ∧ l'.Of p t) ∧
    (∀ w (l : Life), l.Of p w → AtOnce (requestAbort p) w fun _ t => ∃ l', Life.Step l l' ∧ l'.Of p t) ∧
    (∀ w (l : Life), l.Of p w → AtOnce (close p) w fun _ t => ∃ l', Life.Step l l' ∧ l'.Of p t) ∧
    ∀ l, Life.Reachable name runtime l →
      l.running ≤ 1 ∧
      (l.op.accepts = true ↔
        l.op.state = .created ∨ l.op.state = .initialized ∨ (l.op.state = .completed ∧ l.op.isShared = true)) ∧
      (l.op.state = .closed → l.op.accepts = false ∧ ∀ l', Life.Run l l' → l'.op.state = .closed) ∧
      (l.op.state = .aborted → ∀ l', Life.Run l l' → l'.taken = l.taken) ∧
      (runtime.shared = false → l.taken ≤ 1) := by
  refine ⟨fun _ _ hl => prepare_steps hl, fun _ _ hl => begin_steps hl, setupChannel_rehosts p,
    fun _ _ a _ hl hr hk => complete_steps a hk hl hr, fun _ _ hl hr => fail_steps hl hr,
    fun _ _ hl => requestAbort_steps hl, fun _ _ hl => close_steps hl, fun l hl => ?_⟩
  have hs := hl.sound
  refine ⟨hs.running_le, accepts_iff l.op, fun hc => ⟨?_, fun l' hr => hr.closed hc⟩,
    fun ha l' hr => (Life.Run.settled hl hr (.inl ha)).1, fun hu => hs.unshared ?_⟩
  · rw [← Bool.not_eq_true, accepts_iff]
    simp [hc]
  · simp [isShared, hl.runtime, hu]

/-- A proxy made on a host that may not be shared, readied, claimed and done with its unit: it took
one unit, and takes no other. -/
theorem unsharedProxy_takes_one_unit :
    Life.Reachable "discovery-1" .default ⟨⟨"discovery-1", .default, .completed, none, none, false, 0⟩, 1, 0⟩ ∧
      (⟨"discovery-1", .default, .completed, none, none, false, 0⟩ : Operation).accepts = false ∧ 1 ≤ 1 := by
  have hl : Life.Reachable "discovery-1" .default ⟨⟨"discovery-1", .default, .completed, none, none, false, 0⟩, 1, 0⟩ :=
    ((Life.Reachable.init.step (.prepare _)).step (.begin _ rfl)).step (.finish _ false _ Nat.one_pos ⟨rfl, rfl, rfl⟩)
  obtain ⟨-, hacc, -, -, hun⟩ := (proxy_serves_one_unit_at_a_time 0 "discovery-1" .default).2.2.2.2.2.2.2 _ hl
  refine ⟨hl, ?_, hun rfl⟩
  rw [← Bool.not_eq_true, hacc]
  decide

end TestConductor
