import TestConductor.Proxy.TestHost
import TestConductor.Proofs.Runtime.Calls
/-! # What starting and ending a unit does to the world

Readying a proxy, claiming it for a unit, stopping a worker, and the two ways a test-host proxy
ends a unit, each run at once. Readying fails only on a closed proxy, and claiming only on a
proxy that does not accept work, which it then leaves as it was. A stopped worker stays stopped
whatever else the stop does. Completing a unit leaves a closed proxy as it was, marks any other
one aborted or completed, and keeps the host idle for the next unit only when the unit completed
on a proxy whose host may be shared; every other way, the unit's worker ends stopped. Failing a
unit that never got going marks the proxy aborted and stops the worker it had.
-/
namespace TestConductor

open Async

namespace World

theorem getElem?_update {γ : Type} (xs : List γ) (i j : Nat) (f : γ → γ) :
    (update xs i f)[j]? = if j = i then xs[j]?.map f else xs[j]? := by
  unfold update
  cases h : xs[i]? with
  | none =>
    by_cases hj : j = i
    · subst hj
      simp [h]
    · simp [hj]
  | some x =>
    rw [List.getElem?_set]
    by_cases hj : j = i
    · subst hj
      obtain ⟨hlt, hx⟩ := List.getElem?_eq_some_iff.1 h
      simp [hlt, hx]
    · simp [hj, Ne.symm hj]

theorem worker_setWorker (w : World) (i j : Nat) (f : Worker → Worker) :
    (w.setWorker i f).worker j = if j = i ∧ i < w.workers.length then f (w.worker j) else w.worker j := by
  simp only [worker, setWorker, getElem?_update]
  by_cases hj : j = i
  · subst hj
    by_cases hi : j < w.workers.length <;> simp [hi]
  · simp [hj]

theorem stopped_setWorker (w : World) (i j : Nat) {f : Worker → Worker}
    (hf : ∀ k, (f k).stopped = k.stopped) : ((w.setWorker j f).worker i).stopped = (w.worker i).stopped := by
  rw [worker_setWorker]
  split <;> simp [hf]

theorem proxy_setProxy (w : World) (i j : Nat) (f : Proxy → Proxy) :
    (w.setProxy i f).proxy j = if j = i ∧ i < w.proxies.length then f (w.proxy j) else w.proxy j := by
  simp only [proxy, setProxy, getElem?_update]
  by_cases hj : j = i
  · subst hj
    by_cases hi : j < w.proxies.length <;> simp [hi]
  · simp [hj]

theorem lt_length_of_inProcess {w : World} {i : Nat} {s : ProxyState} (h : w.proxy i = .inProcess s) :
    i < w.proxies.length := by
  refine Nat.lt_of_not_le fun hi => ?_
  rw [proxy, List.getElem?_eq_none hi] at h
  cases h

theorem proxy_setOperation (w : World) (i j : Nat) (f : Operation → Operation) :
    (w.setOperation i f).proxy j = if j = i then (w.proxy j).mapOperation f else w.proxy j := by
  simp only [proxy, setOperation, setProxy, getElem?_update]
  split
  · cases w.proxies[j]? <;> rfl
  · rfl

theorem setOperation_congr {w : World} {i : Nat} {f g : Operation → Operation}
    (h : ∀ o, (w.proxy i).operation? = some o → f o = g o) : w.setOperation i f = w.setOperation i g := by
  simp only [setOperation, setProxy, update]
  cases hx : w.proxies[i]? with
  | none => rfl
  | some x =>
    have hp : w.proxy i = x := by simp [proxy, hx]
    cases x with
    | discovery o => simp [Proxy.mapOperation, h o (by simp [hp, Proxy.operation?])]
    | execution o => simp [Proxy.mapOperation, h o (by simp [hp, Proxy.operation?])]
    | scripted _ | inProcess _ => rfl

theorem setOperation_self {w : World} {i : Nat} {f : Operation → Operation}
    (h : ∀ o, (w.proxy i).operation? = some o → f o = o) : w.setOperation i f = w := by
  rw [setOperation_congr h]
  simp only [setOperation, setProxy, update]
  cases hx : w.proxies[i]? with
  | none => rfl
  | some x =>
    obtain ⟨hi, hxi⟩ := List.getElem?_eq_some_iff.1 hx
    have hmap : x.mapOperation (fun o => o) = x := by cases x <;> rfl
    dsimp only
    rw [hmap, ← hxi, List.set_getElem_self hi]

end World

theorem Proxy.operation?_mapOperation (p : Proxy) (f : Operation → Operation) :
    (p.mapOperation f).operation? = p.operation?.map f := by
  cases p <;> rfl

namespace Worker

/- The parts of a stop after the mark touch other fields of the worker, its channel and its
launch: a worker stopped stays so, and the proxies are left alone. -/

theorem emitDisconnected_keeps (i : Nat) (e : Option Error) (j : Nat) (ps : List Proxy) (c : Prop) :
    Keeps (emitDisconnected i e) fun t => (c → (t.worker j).stopped = true) ∧ t.proxies = ps := by
  unfold emitDisconnected emit
  refine .bind (.reads _) fun already => ?_
  split
  · refine .bind (.modify fun (s : World) h => ?_) fun _ => .bind (.reads _) fun listening => ?_
    · refine ⟨?_, h.2⟩
      rw [World.stopped_setWorker]
      · exact h.1
      · intro k
        rfl
    · split
      · exact .bind (.modify fun _ h => h) fun _ => .signal _
      · exact .pure' ()
  · exact .pure' ()

theorem notifyShutdown_keeps (i j : Nat) (ps : List Proxy) (c : Prop) :
    Keeps (notifyShutdown i) fun t => (c → (t.worker j).stopped = true) ∧ t.proxies = ps := by
  refine .bind (.modify fun (s : World) h => ⟨?_, h.2⟩) fun _ => .signal _
  rw [World.stopped_setWorker]
  · exact h.1
  · intro k
    rfl

theorem stop_stops (w : World) (i : Nat) :
    AtOnce (stop i) w fun _ t => (i < w.workers.length → (t.worker i).stopped = true) ∧ t.proxies = w.proxies := by
  unfold stop
  refine .bind (.reads ?_)
  split
  · dsimp only
    refine .bind (.modify ?_)
    refine (Keeps.bind (notifyShutdown_keeps i i w.proxies _) fun _ => ?_) _ ⟨?_, rfl⟩
    · have tail : Keeps (if ((w.worker i).phase == Phase.idle) = true then do
          Async.modify fun w => World.setWorker w i fun k => { k with phase := Phase.stopped }
          emitDisconnected i none
        else pure ()) fun t => (i < w.workers.length → (t.worker i).stopped = true) ∧ t.proxies = w.proxies := by
        split
        · refine .bind (.modify fun (s : World) h => ⟨?_, h.2⟩) fun _ => emitDisconnected_keeps i none i w.proxies _
          rw [World.stopped_setWorker]
          · exact h.1
          · intro k
            rfl
        · exact .pure' ()
      -- firing the kill switch touches only the launch
      split
      · exact .bind (.modify fun _ h => h) fun _ => tail
      · exact tail
    · intro hi
      rw [World.worker_setWorker]
      simp [hi]
  · rename_i h
    exact .pure' ⟨fun _ => by simpa using h, rfl⟩

end Worker

namespace Operation

/-- How completing a unit of proxy `i` on worker `k` ends: a closed proxy is left as it was;
another is marked aborted or completed, and keeps worker `k` idle when the unit completed and its
host may be shared. The worker ends stopped unless the unit completed on such a proxy. -/
theorem complete_ends (w : World) (i : Nat) (a : Bool) (k : Nat) (hk : k < w.workers.length) :
    AtOnce (complete i a k) w fun _ t =>
      ((w.operation i).state = .closed → t.proxies = w.proxies) ∧
      ((w.operation i).state ≠ .closed → t.proxies = (w.setOperation i fun o =>
        { o with state := if a then .aborted else .completed,
                 idle := if !a && (w.operation i).isShared then some k else o.idle }).proxies) ∧
      ((t.worker k).stopped = true ∨
        (a = false ∧ (w.operation i).isShared = true ∧ (w.operation i).state ≠ .closed)) := by
  unfold complete
  refine .bind (.reads ?_)
  split
  · rename_i hc
    have hc : (w.operation i).state = .closed := by simpa using hc
    exact (Worker.stop_stops w k).mono fun _ t ht => ⟨fun _ => ht.2, fun h => absurd hc h, .inl (ht.1 hk)⟩
  · rename_i hc
    have hc : (w.operation i).state ≠ .closed := by simpa using hc
    split
    · rename_i ha
      subst ha
      refine .bind (.modify ?_)
      refine (Worker.stop_stops _ k).mono fun _ t ht => ⟨fun h => absurd h hc, fun _ => ?_, .inl (ht.1 hk)⟩
      rw [ht.2]
      rfl
    · rename_i ha
      have ha : a = false := by simpa using ha
      subst ha
      split
      · -- the host stays idle for the next unit
        rename_i hs
        refine .modify ⟨fun h => absurd h hc, fun _ => ?_, .inr ⟨rfl, hs, hc⟩⟩
        simp [hs]
      · rename_i hs
        refine .bind (.modify ?_)
        refine (Worker.stop_stops _ k).mono fun _ t ht => ⟨fun h => absurd h hc, fun _ => ?_, .inl (ht.1 hk)⟩
        rw [ht.2]
        simp [hs]

theorem fail_ends (w : World) (i : Nat) :
    AtOnce (fail i) w fun _ t =>
      t.proxies = (w.setOperation i fun o =>
        { o with state := if o.state == .closed then .closed else .aborted, worker := none }).proxies ∧
      ∀ k, (w.operation i).worker = some k → k < w.workers.length → (t.worker k).stopped = true := by
  unfold fail
  refine .bind (.reads (.bind (.modify ?_)))
  split
  · rename_i k hk
    refine (Worker.stop_stops _ k).mono fun _ t ht => ⟨ht.2, fun k' hk' hlt => ?_⟩
    obtain rfl : k' = k := Option.some.inj (hk'.symm.trans hk)
    exact ht.1 hlt
  · rename_i hk
    exact .pure' ⟨rfl, fun k' hk' _ => absurd hk' (hk k')⟩

/-! ## The states a unit moves a proxy through

Each way the code moves a proxy on, as a change of its bookkeeping; what becomes of the hosts it
keeps is left to the code that launches, reuses and releases them. -/

def readied (o : Operation) : Operation :=
  match o.state with
  | .created => { o with state := .initialized }
  | _ => o

def claimed (o : Operation) : Operation := { o with state := .busy, abortRequested := false }

def ended (o : Operation) (aborted : Bool) : Operation :=
  if o.state = .closed then o else { o with state := if aborted then .aborted else .completed }

def shut (o : Operation) : Operation :=
  if o.state = .closed then o else { o with state := .closed, idle := none, worker := none }

def Rehosted (o o' : Operation) : Prop := o'.name = o.name ∧ o'.runtime = o.runtime ∧ o'.state = o.state

theorem not_closed_of_accepts {o : Operation} (h : o.accepts = true) : o.state ≠ .closed := by
  intro hc
  simp [accepts, hc] at h

theorem ended_runtime (o : Operation) (a : Bool) : (o.ended a).runtime = o.runtime := by
  unfold ended
  split <;> rfl

theorem operation_eq {w : World} {i : Nat} {o : Operation} (hw : (w.proxy i).operation? = some o) :
    w.operation i = o := by
  simp [World.operation, hw]

theorem prepare_readies (w : World) (i : Nat) :
    AtOnce (prepare i) w fun r t =>
      r.toBool = ((w.operation i).state != .closed) ∧ t = w.setOperation i readied := by
  unfold prepare
  refine .change ?_
  dsimp only
  split
  · rename_i hs
    refine ⟨by simp [Except.toBool, hs], World.setOperation_congr fun o hw => ?_⟩
    rw [operation_eq hw] at hs
    simp [readied, hs]
  · rename_i hs
    refine ⟨by simp [Except.toBool, hs], (World.setOperation_self fun o hw => ?_).symm⟩
    rw [operation_eq hw] at hs
    simp [readied, hs]
  · rename_i hc hs
    refine ⟨by simpa [Except.toBool] using hs, (World.setOperation_self fun o hw => ?_).symm⟩
    rw [operation_eq hw] at hc hs
    unfold readied
    split
    · contradiction
    · rfl

theorem begin_claims (w : World) (i : Nat) :
    AtOnce (begin i) w fun r t =>
      r.toBool = (w.operation i).accepts ∧ t = if (w.operation i).accepts then w.setOperation i claimed else w := by
  unfold begin
  refine .change ?_
  dsimp only
  split
  · rename_i h
    exact ⟨h.symm, rfl⟩
  · rename_i h
    exact ⟨(Bool.eq_false_iff.2 h).symm, rfl⟩

theorem operation?_of_proxies {w t : World} {i : Nat} {f : Operation → Operation} {o : Operation}
    (ht : t.proxies = (w.setOperation i f).proxies) (hw : (w.proxy i).operation? = some o) :
    (t.proxy i).operation? = some (f o) := by
  have hp : t.proxy i = (w.setOperation i f).proxy i := by simp only [World.proxy, ht]
  rw [hp, World.proxy_setOperation, if_pos rfl, Proxy.operation?_mapOperation, hw]
  rfl

theorem handOver_succeeds {w : World} {i : Nat} {o : Operation} (hw : (w.proxy i).operation? = some o)
    (hc : o.state ≠ .closed) (ha : o.readied.accepts = true) :
    AtOnce (prepare i) w fun r t => r.toBool = true ∧ AtOnce (begin i) t fun r' _ => r'.toBool = true := by
  refine (prepare_readies w i).mono fun r (t : World) ⟨hr, ht⟩ =>
    ⟨?_, (begin_claims t i).mono fun r' _ ⟨hr', _⟩ => ?_⟩
  · rw [hr, operation_eq hw]
    simpa using hc
  · -- the proxy is readied before it is claimed
    have hop : (t.proxy i).operation? = some o.readied := operation?_of_proxies (by rw [ht]) hw
    rw [hr', operation_eq hop]
    exact ha

theorem complete_leaves_ended (w : World) (i : Nat) (a : Bool) (k : Nat) (hk : k < w.workers.length)
    {o : Operation} (hw : (w.proxy i).operation? = some o) :
    AtOnce (complete i a k) w fun _ t => ∃ o', (t.proxy i).operation? = some o' ∧ (o.ended a).Rehosted o' := by
  refine (complete_ends w i a k hk).mono fun _ t ⟨hc, hn, _⟩ => ?_
  rw [operation_eq hw] at hc hn
  by_cases hs : o.state = .closed
  · have hp : t.proxy i = w.proxy i := by simp only [World.proxy, hc hs]
    exact ⟨o, hp ▸ hw, by simp [ended, hs, Rehosted]⟩
  · exact ⟨_, operation?_of_proxies (hn hs) hw, by simp [ended, hs, Rehosted]⟩

theorem fail_leaves_ended (w : World) (i : Nat) {o : Operation} (hw : (w.proxy i).operation? = some o) :
    AtOnce (fail i) w fun _ t => ∃ o', (t.proxy i).operation? = some o' ∧ (o.ended true).Rehosted o' := by
  refine (fail_ends w i).mono fun _ t ⟨hp, _⟩ => ⟨_, operation?_of_proxies hp hw, ?_⟩
  by_cases hs : o.state = .closed <;> simp [ended, hs, Rehosted]

end Operation

end TestConductor
