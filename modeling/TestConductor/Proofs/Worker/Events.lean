import TestConductor.Proofs.Worker.Handles
import TestConductor.Proofs.Runtime.Threads
import TestConductor.Session
/-! # The tasks of a worker keep to its event protocol

Each call on a worker, and each task its calls start, plays a position of `Part` (`Threads`): a
start holds the connecting phase from its check to its end, the loop it starts holds the
connected phase, and every other task holds nothing. Every leg of theirs, between two waits, is
a run of `Move`s, from whatever state the other tasks left. Taken together with
`Sharing.Reach.protocol`, whatever order the executor runs them in, the events of a worker keep to
its protocol.
-/
namespace TestConductor

open Async

/-! ## The tasks of a worker at their positions -/

/-- Where a job started by a call on worker `i` begins: its message loop holds the connected
phase, and the tasks of processes and their watchers hold nothing. -/
def Part.ofJob (i : Nat) : Job → Part → Prop
  | .messageLoop j, π => j = i ∧ π = .looping
  | .exitWatch _ _, π => π = .idle
  | .process _ _ _, π => π = .idle
  | _, _ => False

namespace Worker

/-- The tasks sharing worker `i`, at their positions: a leg, from a state where the worker is
there, keeps it there and is a run of moves. A task ends holding nothing, unless it is a loop that
ran out of rounds. -/
abbrev threads (i : Nat) : Threads conductor where
  Pc := Part
  leg π (s t : World) π' σ :=
    i < s.workers.length → i < t.workers.length ∧ ∃ ℓ, Moves π (s.handle i) (t.handle i) π' σ ℓ
  final π := π.holds = none ∨ π = .spent
  job := Part.ofJob i
  leg_refl π _ := fun hi => ⟨hi, [], .refl π _⟩
  leg_trans h₁ h₂ := fun hi =>
    let ⟨hi', _, m₁⟩ := h₁ hi
    let ⟨hi'', _, m₂⟩ := h₂ hi'
    ⟨hi'', _, m₁.trans m₂⟩

variable {i : Nat} {π π' : Part} {s t : World} {σ : List Part}

theorem leg_of_turns {F : Handle → Handle} (h : s.Turns i t F)
    (hm : i < s.workers.length → ∃ ℓ, Moves π (s.handle i) (F (s.handle i)) π' σ ℓ) :
    (threads i).leg π s t π' σ :=
  fun hi => ⟨h.1 ▸ hi, by rw [h.2 hi]; exact hm hi⟩

theorem leg_of_move {F : Handle → Handle} {ℓ : List WorkerEvent} (h : s.Turns i t F)
    (hm : i < s.workers.length → Move π (s.handle i) (F (s.handle i)) π' σ ℓ) : (threads i).leg π s t π' σ :=
  leg_of_turns h fun hi => ⟨ℓ, .single (hm hi)⟩

theorem leg_of_frame (h : s.Turns i t id) : (threads i).leg π s t π [] :=
  leg_of_turns h fun _ => ⟨[], .refl π _⟩

theorem leg_of_aside (h : s.Aside i t) : (threads i).leg π s t π [] :=
  h.elim leg_of_frame fun h => leg_of_move h fun _ => .stop π _

end Worker

namespace Worker

variable (i : Nat)

theorem does_of_aside {α : Type} {x : Act α} (π : Part) (h : ∀ s, AtOnce x s fun _ t => s.Aside i t) :
    (threads i).Does x π fun _ π' => π' = π :=
  Threads.Does.of_atOnce fun s => (h s).mono fun _ _ ht => ⟨π, leg_of_aside ht, rfl⟩

theorem does_of_stretch {α : Type} {x : Act α} (π : Part)
    (h : ∀ s, Stretch x s fun _ t js => s.Turns i t id ∧ ∀ y ∈ js, Part.ofJob i y .idle) :
    (threads i).Does x π fun _ π' => π' = π := fun s =>
  .stretch ((h s).mono fun _ _ js ⟨ht, hj⟩ =>
    ⟨js.map fun _ => .idle, List.forall₂_map_right_iff.2 (List.forall₂_same.2 hj), π,
      leg_of_turns ht fun _ => ⟨[], Moves.forks π _ js⟩, rfl⟩)

theorem stop_does (j : Nat) (π : Part) : (threads i).Does (stop j) π fun _ π' => π' = π :=
  does_of_aside i π fun s => (stop_turns i j s).mono fun _ _ h => World.aside_of_stop h

theorem send_does (j : Nat) (m : Message) (π : Part) : (threads i).Does (send j m) π fun _ π' => π' = π :=
  does_of_aside i π fun s => (send_turns i j m s).mono fun _ _ h => .inl h

theorem fireNewest_does (e : ProcessExit) (π : Part) :
    (threads i).Does (Launch.fireNewest e) π fun _ π' => π' = π :=
  does_of_aside i π fun s => (Launch.fireNewest_turns i e s).mono fun _ _ h => .inl h

theorem dropReceiver_does (j : Nat) (π : Part) : (threads i).Does (dropReceiver j) π fun _ π' => π' = π :=
  Threads.Does.of_atOnce fun s => (dropReceiver_turns i j s).mono fun _ _ h => by
    by_cases hj : j = i
    · exact ⟨π, leg_of_move (h.congr (G := ({ · with listening := false, queue := [] })) fun _ => by simp [hj])
        fun _ => .close π _, rfl⟩
    · exact ⟨π, leg_of_frame (h.congr fun _ => by simp [hj]), rfl⟩

theorem nextEvent_does (j : Nat) (π : Part) : (threads i).Does (nextEvent j) π fun _ π' => π' = π := by
  -- an event taken is the first on the channel
  have htake : ∀ {s t : World} {e : WorkerEvent}, takeEvent j s = some (t, e) → (threads i).leg π s t π [] := by
    intro s t e h
    obtain ⟨rest, hq, ht⟩ := takeEvent_some i h
    by_cases hj : j = i
    · subst hj
      exact leg_of_move (ht.congr (G := ({ · with queue := rest })) fun _ => by simp) fun _ => .receive π _ hq
    · exact leg_of_frame (ht.congr fun _ => by simp [hj])
  intro s
  show (threads i).DoesFrom (Async.wait [Wake.channel j] (takeEvent j) >>= pure) π s [] s _
  exact .wait_bind (fun _ _ h => .pure' (htake h) rfl) (fun _ => (threads i).leg_refl π s)
    fun _ _ _ _ h => .pure' (htake h) rfl

theorem fail_leg {π : Part} {j : Nat} {e : Error} {s₀ s₁ t : World} (h₁ : s₀.Turns i s₁ id)
    (hs : (s₁.worker j).stopped = false)
    (h₂ : s₁.Turns i t (if j = i then ({ · with exitError := some e, shutdown := true }) else id)) :
    (threads i).leg π s₀ t π [] := by
  by_cases hj : j = i
  · subst hj
    refine leg_of_move ((h₁.trans h₂).congr (G := (·.exit e)) fun hi => ?_) fun _ => .exit π _ e
    have hst : (s₀.handle j).stopped = false := by
      have h := h₁.2 hi
      simp only [id] at h
      rw [← h]
      exact hs
    simp [Handle.exit, hst]
  · exact leg_of_frame ((h₁.trans h₂).congr fun _ => by simp [hj])

theorem watchExit_does (j l : Nat) (π : Part) : (threads i).Does (watchExit j l) π fun _ π' => π' = π := by
  intro s
  unfold watchExit
  refine .wait_bind (fun s₁ e h => ?_) (fun _ => (threads i).leg_refl π s) fun _ s₀ s₁ e h => ?_
  all_goals
    have ht := takeExit_turns i h
    refine .atOnce (.reads ?_)
    split
    · rename_i hs
      refine .atOnce (.reads (.stretch (.of_atOnce (fail_turns i j _ _) fun _ t h' =>
        ⟨[], .nil, π, fail_leg i ht (by simpa using hs) h', rfl⟩)))
    · exact .pure' (leg_of_frame ht) rfl

theorem live_does (l after : Nat) (e : ProcessExit) (π : Part) :
    (threads i).Does (Launch.live l after e) π fun _ π' => π' = π := by
  -- what follows the sleep is one leg that touches the launches only
  have hrest : ∀ s, (threads i).DoesFrom (do
      let killed ← Async.reads fun w => (w.launches[l]?.map (·.killed)).getD true
      if !killed then discard (ScriptedHost.fireExit l e)) π s [] s fun _ π' => π' = π := by
    intro s
    refine .atOnce (.reads ?_)
    split
    · exact .stretch (.of_atOnce (.discard (ScriptedHost.fireExit_turns i l e s)) fun _ _ h =>
        ⟨[], .nil, π, leg_of_frame h, rfl⟩)
    · exact .pure' ((threads i).leg_refl π s) rfl
  intro s
  exact .sleep_bind (hrest s) ((threads i).leg_refl π s) hrest

/-- A launch is seen by no handle: it checks, starts the process, whose tasks are its own, and
then, each after a wait, stores the process id and the kill switch, which the handle does not
show, and starts the watcher of the exit. -/
theorem launch_does (j : Nat) (info : StartInfo) (π : Part) :
    (threads i).Does (launch j info) π fun _ π' => π' = π := by
  have hunseen : ∀ (s : World) (f : Worker → Worker), (∀ k c, Handle.of (f k) c = Handle.of k c) →
      s.Turns i (s.setWorker j f) id := fun s f hf =>
    (World.turns_setWorker s i j f id hf).congr fun _ => by rw [ite_self]
  have hstore : ∀ l pid, (threads i).Does (do
      Async.modify fun w => w.setWorker j fun k => { k with kill := some l }
      Async.fork (.exitWatch j l)
      return (Except.ok pid : Except Error Nat)) π fun _ π' => π' = π := fun l pid =>
    does_of_stretch i π fun s => .bind (.modify (.bind (.fork (.pure' ⟨hunseen s _ fun _ _ => rfl,
      fun y hy => by
        obtain rfl := List.mem_singleton.1 hy
        rfl⟩))))
  have hpid : ∀ l pid, (threads i).Does (do
      Async.modify fun w => w.setWorker j fun k => { k with processId := some pid }
      Async.interleave
      Async.modify fun w => w.setWorker j fun k => { k with kill := some l }
      Async.fork (.exitWatch j l)
      return (Except.ok pid : Except Error Nat)) π fun _ π' => π' = π := fun l pid s =>
    .atOnce (.modify (.sleep_bind (.of_does (leg_of_frame (hunseen s _ fun _ _ => rfl)) (hstore l pid))
      (leg_of_frame (hunseen s _ fun _ _ => rfl)) fun s' => hstore l pid s'))
  have hok : ∀ l pid, (threads i).Does (do
      Async.interleave
      Async.modify fun w => w.setWorker j fun k => { k with processId := some pid }
      Async.interleave
      Async.modify fun w => w.setWorker j fun k => { k with kill := some l }
      Async.fork (.exitWatch j l)
      return (Except.ok pid : Except Error Nat)) π fun _ π' => π' = π := fun l pid s =>
    .sleep_bind (hpid l pid s) ((threads i).leg_refl π s) (hpid l pid)
  -- the launcher's answer, whatever the launch goes on with
  have hbegin : ∀ k : Except Error (Nat × Nat) → Act (Except Error Nat),
      (∀ e, k (.error e) = pure (.error e)) → (∀ l pid, (threads i).Does (k (.ok (l, pid))) π fun _ π' => π' = π) →
      (threads i).Does (Launch.begin info >>= k) π fun _ π' => π' = π := by
    intro k hk₁ hk₂ s
    refine .seq ((Launch.begin_turns i info s).mono fun r t js h => ⟨js.map fun _ => .idle,
      List.forall₂_map_right_iff.2 (List.forall₂_same.2 fun y hy => ?_), ?_⟩)
    · -- the tasks so far are the process's own
      obtain ⟨_, _, _, rfl⟩ := h.2 y hy
      rfl
    have hleg : (threads i).leg π s t π ([] ++ js.map fun _ => .idle) :=
      leg_of_turns h.1 fun _ => ⟨[], Moves.forks π _ js⟩
    cases r with
    | error e =>
      rw [hk₁]
      exact .pure' hleg rfl
    | ok x => exact .of_does hleg (hk₂ x.1 x.2)
  intro s
  unfold launch
  refine .atOnce (.reads ?_)
  split
  · exact .pure' ((threads i).leg_refl π s) rfl
  split
  · exact .pure' ((threads i).leg_refl π s) rfl
  exact .sleep_bind (hbegin _ (fun _ => rfl) hok s) ((threads i).leg_refl π s) (hbegin _ (fun _ => rfl) hok)

theorem lose_leg {e : Option Error} {s₀ s₁ t : World} (h₁ : s₀.Turns i s₁ id)
    (h₂ : s₁.Turns i t (if i = i then ({ · with phase := .stopped }.disconnect e) else id))
    (he : e = none → (s₁.worker i).stopped = true) : (threads i).leg .looping s₀ t .idle [] := by
  refine leg_of_move ((h₁.trans h₂).congr (G := ({ · with phase := .stopped }.disconnect e)) fun _ => by simp)
    fun hi => .lose _ e fun hn => ?_
  have h := h₁.2 hi
  simp only [id] at h
  rw [← h]
  exact he hn

theorem messageLoop_does (fuel : Nat) :
    (threads i).Does (messageLoop i fuel) .looping fun _ π' => π' = .idle ∨ π' = .spent := by
  induction fuel with
  | zero => exact .of_atOnce fun _ => .pure' ⟨.spent, leg_of_move World.Turns.refl fun _ => .spend _, .inr rfl⟩
  | succ fuel ih =>
    rw [messageLoop]
    intro s
    refine .atOnce (.reads ?_)
    refine .wait_bind (fun s₁ r h => ?_) (fun _ => (threads i).leg_refl _ s) fun _ s₀ s₁ r h => ?_
    all_goals
      split
      · -- a shutdown notification: the loop takes the reason recorded for it, and ends
        obtain ⟨hsh, ht⟩ := loopStep_shutdown i h
        refine .atOnce ((takeExitError_turns i i _).mono fun e t he =>
          .stretch (.of_atOnce (endLoop_turns i i e t) fun _ u hu => ⟨[], .nil, .idle, ?_, .inl rfl⟩))
        obtain ⟨htake, hexit⟩ := take_turns i ht he
        refine leg_of_move ((htake.trans hu).congr
          (G := fun h => { h.take with phase := .stopped }.disconnect h.exitError) fun hi => ?_) fun _ => .hangUp _ hsh
        simp [hexit hi]
      · -- an exit of the test host: the loop goes on
        have ht := loopStep_received i h
        dsimp only
        split
        · exact .atOnce (.signal (.of_does (leg_of_frame ht) ih))
        · exact .of_does (leg_of_frame ht) ih
      · -- a message is told, and the loop goes on
        rename_i m
        have ht := loopStep_received i h
        exact .atOnce ((emit_turns i i _ _).mono fun _ t h' => .of_does (leg_of_move ((ht.trans h').congr
          (G := (·.send (.message m))) fun _ => by simp) fun _ => .message _ m) ih)
      · -- the connection closed
        have ht := loopStep_received i h
        refine .atOnce (.reads (.stretch (.of_atOnce (endLoop_turns i i _ _) fun _ u hu =>
          ⟨[], .nil, .idle, lose_leg i ht hu fun hn => ?_, .inl rfl⟩)))
        by_cases hs : (World.worker s₁ i).stopped = true <;> simp_all
      · have ht := loopStep_received i h
        exact .stretch (.of_atOnce (endLoop_turns i i _ _) fun _ u hu =>
          ⟨[], .nil, .idle, lose_leg i ht hu (by simp), .inl rfl⟩)

theorem start_does (endpoint : String) {π : Part} (hπ : π.Free) :
    (threads i).Does (start i endpoint) π fun r π' => π' = .returned r ∨ π' = .idle := by
  intro s
  unfold start
  refine .atOnce (.reads ?_)
  split
  · -- a worker stopped, or not idle, refuses at once
    rename_i hs
    refine .pure' (leg_of_move World.Turns.refl fun _ => .refuse hπ _ ?_) (.inr rfl)
    simp [World.handle, Handle.of] at hs ⊢
    tauto
  rename_i hs
  have hready : (s.handle i).phase = .idle ∧ (s.handle i).stopped = false := by
    simp [World.handle, Handle.of] at hs ⊢
    tauto
  refine .atOnce (.modify (.of_does (leg_of_move (World.turns_setPhase s i .connecting)
    fun _ => .begin hπ _ hready.1 hready.2) ?_))
  intro s'
  refine .atOnce (.change ?_)
  extract_lets settle afterRace
  -- how the connecting came out is told, and returned
  have hsettle : ∀ o, (threads i).Does (settle o) (.decided o)
      fun r π' => π' = .returned r ∨ π' = .idle := by
    intro o s₀
    dsimp only [settle]
    refine .atOnce (.reads ?_)
    split
    · rename_i resolved
      split
      · rename_i hst
        refine .atOnce (.modify (.atOnce ((emit_turns i i _ _).mono fun _ t ht =>
          .stretch (.bind (.fork (.pure' ⟨[.looping], .cons ⟨rfl, rfl⟩ .nil, _, ?_, .inl rfl⟩))))))
        refine leg_of_move (((World.turns_setPhase s₀ i .connected).trans ht).congr
          (G := fun h => { h with phase := .connected }.send (.connected resolved)) fun _ => by simp)
          fun _ => .connected _ resolved ?_
        simpa [World.handle, Handle.of] using hst
      · rename_i hst
        refine .atOnce (.modify (.atOnce ((ScriptedHost.disconnect_turns i _ _).mono fun _ t₁ h₁ =>
          .atOnce ((emitDisconnected_turns i i none t₁).mono fun _ t h₂ => .pure' ?_ (.inl rfl)))))
        refine leg_of_move ((((World.turns_setPhase s₀ i .stopped).trans h₁).trans h₂).congr
          (G := fun h => { h with phase := .stopped }.disconnect none) fun _ => by simp)
          fun _ => .abandon _ resolved ?_
        simpa [World.handle, Handle.of] using hst
    · rename_i e
      refine .atOnce (.modify (.atOnce ((emitDisconnected_turns i i e _).mono fun _ t h₂ => .pure' ?_ (.inl rfl))))
      exact leg_of_move (((World.turns_setPhase s₀ i .stopped).trans h₂).congr
        (G := fun h => { h with phase := .stopped }.disconnect e) fun _ => by simp) fun _ => .failed _ e
  have hdecide : ∀ o, (threads i).Does (pure o >>= settle) (.decided o)
      fun r π' => π' = .returned r ∨ π' = .idle :=
    fun o => Threads.Does.bind (Q := fun a (π' : Part) => π' = Part.decided a) (.pure' rfl) fun a _ h => h ▸ hsettle a
  -- a shutdown notification ends the connecting, with the reason recorded for it
  have hinterrupt : ∀ {s₀ s₁ : World}, takeShutdown i s₀ = some (s₁, ()) →
      (threads i).DoesFrom (takeExitError i >>= fun e => pure (Except.error e) >>= settle) .connecting s₀ [] s₁
        fun r π' => π' = .returned r ∨ π' = .idle := by
    intro s₀ s₁ h
    obtain ⟨hsh, ht⟩ := takeShutdown_some i h
    refine .atOnce ((takeExitError_turns i i s₁).mono fun e t he => ?_)
    obtain ⟨htake, hexit⟩ := take_turns i ht he
    refine .of_does (leg_of_turns htake fun hi => ⟨[], .single ?_⟩) (hdecide _)
    rw [hexit hi]
    exact .interrupt _ hsh
  -- a connecting that fails, or is made once its delay is up
  have hfail : ∀ s₀ (e : Error), (threads i).DoesFrom (pure (Except.error (some e)) >>= settle) .connecting s₀ [] s₀
      fun r π' => π' = .returned r ∨ π' = .idle :=
    fun _ e => .of_does (leg_of_move World.Turns.refl fun _ => .fail _ e) (hdecide _)
  have htime : ∀ s₀, (threads i).DoesFrom (afterRace .timeUp) .connecting s₀ [] s₀
      fun r π' => π' = .returned r ∨ π' = .idle := by
    intro s₀
    dsimp only [afterRace]
    refine .atOnce ((ScriptedHost.connectEnd_turns i _ endpoint s₀).mono fun _ t ht => ?_)
    split
    · exact .of_does (leg_of_move ht fun _ => .reach _ _) (hdecide _)
    · exact .of_does (leg_of_move ht fun _ => .fail _ _) (hdecide _)
  split
  · rename_i s₁ hts
    exact hinterrupt hts
  · rename_i hts
    refine .atOnce (.reads ?_)
    split
    · exact .waitWithin_bind (fun _ _ h => by simp [hts] at h) (fun _ => hfail s' _)
        (fun _ => (threads i).leg_refl _ s') (fun _ _ _ _ h => hinterrupt h) fun _ s₀ _ => hfail s₀ _
    · refine .atOnce ((ScriptedHost.connectBegin_turns i endpoint s').mono fun _ t ht => .of_does (leg_of_aside ht) ?_)
      intro s₀
      split
      · exact htime s₀
      · exact .waitWithin_bind (fun _ _ h => hinterrupt h) (fun _ => htime s₀) (fun _ => (threads i).leg_refl _ s₀)
          (fun _ _ _ _ h => hinterrupt h) fun _ s₂ _ => htime s₂

theorem job_plays {j : Job} {π : Part} (hj : Part.ofJob i j π) : (threads i).Plays π j.program := by
  -- a job's program is its call, ended where the call leaves the task
  have done : ∀ {x : Act Unit} {π : Part} {Q : Unit → Part → Prop}, (threads i).Does x π Q →
      (∀ π', Q () π' → π'.holds = none ∨ π' = .spent) → (threads i).Plays π (Act.done x) := by
    intro x π Q hx hf
    exact Threads.Does.plays (hx.bind (R := fun _ π' => Q () π') fun _ _ h => .pure' h)
      fun _ π' h => Threads.Plays.finish (hf π' h) _
  cases j with
  | exitWatch k l =>
    obtain rfl := hj
    exact done (watchExit_does i k l .idle) (by rintro _ rfl; exact .inl rfl)
  | messageLoop k =>
    obtain ⟨rfl, rfl⟩ := hj
    exact done (messageLoop_does k loopFuel) (by rintro _ (rfl | rfl) <;> simp [Part.holds])
  | process l a e =>
    obtain rfl := hj
    exact done (live_does i l a e .idle) (by rintro _ rfl; exact .inl rfl)
  | _ => exact hj.elim

variable {i}

theorem legs_reach {s₀ t : World} {M₀ M : Multiset Part} (hlegs : (threads i).Legs s₀ M₀ t M)
    {ℓ₀ : List WorkerEvent} (hr : Sharing.Reach ⟨s₀.handle i, M₀⟩ ℓ₀) (hi : i < s₀.workers.length) :
    i < t.workers.length ∧ ∃ ℓ, Sharing.Reach ⟨t.handle i, M⟩ (ℓ₀ ++ ℓ) := by
  refine Threads.Legs.keep (P := fun (s : World) M => i < s.workers.length ∧
    ∃ ℓ, Sharing.Reach ⟨s.handle i, M⟩ (ℓ₀ ++ ℓ)) (fun ⟨hi', ℓ, hr'⟩ hl => ?_) hlegs ⟨hi, [], by simpa using hr⟩
  obtain ⟨hi'', ℓ', hm⟩ := hl hi'
  have hr'' := hr'.moves hm
  rw [List.append_assoc] at hr''
  exact ⟨hi'', ℓ ++ ℓ', hr''⟩

variable (i)

/-- The events of a worker keep to its protocol, in whatever order its tasks run. The calls on
it and the tasks they start play their positions: every leg they run, between two waits, is a run
of moves. Legs of such tasks, taken in any order from a new worker whose tasks are idle, have
told an opening and at most one disconnection after it; every start that got past its checks has
told what it returned; and once the worker is stopped and no task holds it, the one
disconnection has been told. -/
theorem events_keep_protocol :
    ((∀ endpoint π, π.Free →
        (threads i).Does (start i endpoint) π fun r π' => π' = .returned r ∨ π' = .idle) ∧
      (∀ j π, (threads i).Does (stop j) π fun _ π' => π' = π) ∧
      (∀ j info π, (threads i).Does (launch j info) π fun _ π' => π' = π) ∧
      (∀ j m π, (threads i).Does (send j m) π fun _ π' => π' = π) ∧
      (∀ e π, (threads i).Does (Launch.fireNewest e) π fun _ π' => π' = π) ∧
      (∀ j π, (threads i).Does (nextEvent j) π fun _ π' => π' = π) ∧
      (∀ j π, (threads i).Does (dropReceiver j) π fun _ π' => π' = π) ∧
      ∀ job π, Part.ofJob i job π → (threads i).Plays π job.program) ∧
    ∀ {s₀ t : World} {M₀ M : Multiset Part}, i < s₀.workers.length → s₀.handle i = .fresh →
      (∀ π ∈ M₀, π = .idle) → (threads i).Legs s₀ M₀ t M →
      ∃ ℓ, Sharing.Reach ⟨t.handle i, M⟩ ℓ ∧ Protocol ℓ ∧
        ((t.channel i).listening = true → (t.channel i).queue <:+ ℓ) ∧
        (∀ r, Part.returned r ∈ M → Answered r ℓ (t.worker i).stopped) ∧
        ((t.worker i).stopped = true → (∀ π ∈ M, π.holds = none) →
          (t.worker i).disconnected = true ∧ ∃ o e, Opening o ∧ ℓ = o ++ [.disconnected e]) := by
  refine ⟨⟨fun endpoint _ hπ => start_does i endpoint hπ, stop_does i, launch_does i, send_does i,
    fireNewest_does i, nextEvent_does i, dropReceiver_does i, fun _ _ hj => job_plays i hj⟩, ?_⟩
  intro s₀ t M₀ M hi hfresh hidle hlegs
  have hr : Sharing.Reach ⟨s₀.handle i, M₀⟩ [] := hfresh ▸ .init M₀ hidle
  obtain ⟨-, ℓ, hr'⟩ := legs_reach hlegs hr hi
  exact ⟨ℓ, hr', hr'.protocol, hr'.queued, fun r hm => hr'.returned hm, fun hst hfree => hr'.stopped_at_rest hst hfree⟩

def heardAt (k : Worker) (q : List WorkerEvent) : World := { workers := [k], channels := [⟨q, true⟩] }

def ping : Message := Message.ofType .sessionEnd

def heardConnected : Worker := { Worker.new "w" 0 false with phase := .connected }
def heardStopped : Worker := { heardConnected with stopped := true, shutdown := true }
def heardGone : Worker := { heardStopped with phase := .stopped, shutdown := false, disconnected := true }

/-- A caller starts a worker, which connects, and stops it at once; the loop the start left tells
the message that was on its way and then takes the shutdown. The channel holds the connection,
the message and the one disconnection, in order, the last events told. -/
theorem heardWorker_told_in_order :
    (heardAt heardGone [.connected "e", .message ping, .disconnected none]).channel 0 =
        ⟨[.connected "e", .message ping, .disconnected none], true⟩ ∧
      ∃ ℓ, Protocol ℓ ∧ [.connected "e", .message ping, .disconnected none] <:+ ℓ ∧
        Answered (.ok "e") ℓ true ∧ ∃ o e, Opening o ∧ ℓ = o ++ [.disconnected e] := by
  -- the caller begins to connect, then connects, returns and stops the worker in one leg
  have l₁ : (threads 0).leg .idle (heardAt (Worker.new "w" 0 false) [])
      (heardAt { Worker.new "w" 0 false with phase := .connecting } []) .connecting [] :=
    fun _ => ⟨by decide, _, .single (.begin (π := .idle) trivial _ rfl rfl)⟩
  have l₂ : (threads 0).leg .connecting (heardAt { Worker.new "w" 0 false with phase := .connecting } [])
      (heardAt heardStopped [.connected "e"]) (.returned (.ok "e")) ([] ++ ([Part.looping] ++ ([] ++ []))) :=
    fun _ => ⟨by decide, _, .step (.reach _ "e") (.step (.connected _ "e" rfl) (.step (.stop _ _) (.refl _ _)))⟩
  have h₀ : (threads 0).Legs (heardAt (Worker.new "w" 0 false) []) {.idle} (heardAt (Worker.new "w" 0 false) [])
      (.idle ::ₘ 0) := .refl
  have h₂ := (h₀.leg l₁).leg l₂
  have e₂ : (Part.returned (.ok "e") ::ₘ {Part.looping}) = .looping ::ₘ {.returned (.ok "e")} := by
    rw [← Multiset.cons_zero, ← Multiset.cons_zero]
    exact Multiset.cons_swap _ _ _
  simp only [Multiset.coe_nil, Multiset.add_zero, List.nil_append, List.append_nil, Multiset.coe_singleton,
    Multiset.zero_add, e₂] at h₂
  -- the loop tells the message, then takes the shutdown and tells the disconnection
  have l₃ : (threads 0).leg .looping (heardAt heardStopped [.connected "e"])
      (heardAt heardGone [.connected "e", .message ping, .disconnected none]) .idle ([] ++ []) :=
    fun _ => ⟨by decide, _, .step (.message _ ping) (.step (.hangUp _ rfl) (.refl _ _))⟩
  have h₃ := h₂.leg l₃
  obtain ⟨ℓ, -, hp, hq, hret, hrest⟩ := (events_keep_protocol 0).2 (by decide) rfl (by simp) h₃
  refine ⟨rfl, ℓ, hp, hq rfl, hret _ (by simp), (hrest rfl fun π hπ => ?_).2⟩
  simp only [List.append_nil, Multiset.coe_nil, Multiset.add_zero, Multiset.mem_cons,
    Multiset.mem_singleton] at hπ
  rcases hπ with rfl | rfl
  · rfl
  · rfl

end Worker

end TestConductor
