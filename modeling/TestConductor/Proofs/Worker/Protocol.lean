import TestConductor.Worker.Handle
import Mathlib.Data.Multiset.Filter
/-! # The event protocol of a worker

A worker tells its owner, in this order: at most one connection, the messages of its test host
after it, then one disconnection, and nothing after that. Several tasks share the worker: the
starts made on it, the loop that reads its connection, the watchers of its processes, the
receiver of its events, and whoever stops it. Each holds a position (`Part`): a start that is
connecting holds the worker's connecting phase, and the loop its connected phase, and no other
task ends a phase it does not hold. A `Move` is what a task at a position may do to the worker
between two waits; every state that moves of any number of tasks, taken in any order,
lead to from a new worker, with the events sent on the way (`Sharing.Reach`).
-/
namespace TestConductor

/-- What the event protocol sees of a worker: its phase, whether it was stopped and has told its
disconnection, the shutdown notification waiting and the reason recorded for it, and its
channel. -/
structure Handle where
  phase : Phase
  stopped : Bool
  disconnected : Bool
  shutdown : Bool
  exitError : Option Error
  listening : Bool
  queue : List WorkerEvent

namespace Handle

def fresh : Handle := ⟨.idle, false, false, false, none, true, []⟩

def send (h : Handle) (e : WorkerEvent) : Handle :=
  if h.listening then { h with queue := h.queue ++ [e] } else h

def farewell (h : Handle) (e : Option Error) : List WorkerEvent :=
  if h.disconnected then [] else [.disconnected e]

def disconnect (h : Handle) (e : Option Error) : Handle :=
  if h.disconnected then h else { h with disconnected := true }.send (.disconnected e)

def stop (h : Handle) : Handle :=
  if h.stopped then h
  else if h.phase = .idle then { h with stopped := true, shutdown := true, phase := .stopped }.disconnect none
  else { h with stopped := true, shutdown := true }

def stopEvents (h : Handle) : List WorkerEvent :=
  if h.stopped = false ∧ h.phase = .idle then h.farewell none else []

/-- An exit of the test host that nobody asked for: unless the worker is stopped, it is recorded
as the reason, with a shutdown notification. -/
def exit (h : Handle) (e : Error) : Handle :=
  if h.stopped then h else { h with exitError := some e, shutdown := true }

def take (h : Handle) : Handle := { h with shutdown := false, exitError := none }

@[simp] theorem send_phase (h : Handle) (e : WorkerEvent) : (h.send e).phase = h.phase := by
  unfold send; split <;> rfl

@[simp] theorem send_stopped (h : Handle) (e : WorkerEvent) : (h.send e).stopped = h.stopped := by
  unfold send; split <;> rfl

@[simp] theorem send_disconnected (h : Handle) (e : WorkerEvent) : (h.send e).disconnected = h.disconnected := by
  unfold send; split <;> rfl

@[simp] theorem send_shutdown (h : Handle) (e : WorkerEvent) : (h.send e).shutdown = h.shutdown := by
  unfold send; split <;> rfl

@[simp] theorem send_exitError (h : Handle) (e : WorkerEvent) : (h.send e).exitError = h.exitError := by
  unfold send; split <;> rfl

@[simp] theorem disconnect_phase (h : Handle) (e : Option Error) : (h.disconnect e).phase = h.phase := by
  unfold disconnect; split <;> simp

@[simp] theorem disconnect_stopped (h : Handle) (e : Option Error) : (h.disconnect e).stopped = h.stopped := by
  unfold disconnect; split <;> simp

@[simp] theorem disconnect_disconnected (h : Handle) (e : Option Error) : (h.disconnect e).disconnected = true := by
  unfold disconnect; split <;> simp_all

@[simp] theorem disconnect_shutdown (h : Handle) (e : Option Error) : (h.disconnect e).shutdown = h.shutdown := by
  unfold disconnect; split <;> simp

@[simp] theorem disconnect_exitError (h : Handle) (e : Option Error) : (h.disconnect e).exitError = h.exitError := by
  unfold disconnect; split <;> simp

end Handle

/-- What a task holds of a worker. -/
inductive Part where
  /-- Nothing. -/
  | idle
  /-- A start that is connecting: it holds the connecting phase. -/
  | connecting
  /-- A start whose connecting has come out, as a connection at an endpoint or as a failure with
  its reason: it still holds the connecting phase. -/
  | decided (outcome : Except (Option Error) String)
  /-- Nothing, after a start that returned. -/
  | returned (result : Except Error String)
  /-- The message loop: it holds the connected phase. -/
  | looping
  /-- A message loop that ran out of rounds: it left the worker connected. -/
  | spent

namespace Part

def Free : Part → Prop
  | idle | returned _ => True
  | _ => False

def holds : Part → Option Phase
  | connecting | decided _ => some .connecting
  | looping | spent => some .connected
  | _ => none

theorem holds_of_free {π : Part} (h : π.Free) : π.holds = none := by
  cases π <;> simp_all [Free, holds]

theorem ne_of_holds {π : Part} (h : π.holds = none) :
    π ≠ .connecting ∧ π ≠ .looping ∧ π ≠ .decided (.error none) := by
  refine ⟨?_, ?_, ?_⟩ <;> rintro rfl <;> simp [holds] at h

end Part

/-- What a task at a position may do to a worker between two waits: the handle it leaves, the
position it ends at, the positions of the tasks it starts, and the events it sends. -/
inductive Move : Part → Handle → Handle → Part → List Part → List WorkerEvent → Prop where
  /-- Any task may stop the worker. -/
  | stop (π : Part) (h : Handle) : Move π h h.stop π [] h.stopEvents
  /-- Any task may see the test host exit. -/
  | exit (π : Part) (h : Handle) (e : Error) : Move π h (h.exit e) π [] []
  /-- Any task may start one that holds nothing. -/
  | fork (π : Part) (h : Handle) : Move π h h π [.idle] []
  /-- The receiver takes the next event. -/
  | receive (π : Part) (h : Handle) {e : WorkerEvent} {rest : List WorkerEvent} (hq : h.queue = e :: rest) :
      Move π h { h with queue := rest } π [] []
  /-- The receiver goes away. -/
  | close (π : Part) (h : Handle) : Move π h { h with listening := false, queue := [] } π [] []
  /-- A start on an idle worker that was never stopped begins to connect. -/
  | begin {π : Part} (hπ : π.Free) (h : Handle) (hp : h.phase = .idle) (hs : h.stopped = false) :
      Move π h { h with phase := .connecting } .connecting [] []
  /-- Any other start fails at once, and its task holds nothing. -/
  | refuse {π : Part} (hπ : π.Free) (h : Handle) (hs : h.phase ≠ .idle ∨ h.stopped = true) :
      Move π h h .idle [] []
  /-- A shutdown notification ends the connecting, with the reason recorded for it. -/
  | interrupt (h : Handle) (hs : h.shutdown = true) : Move .connecting h h.take (.decided (.error h.exitError)) [] []
  /-- The connection fails. -/
  | fail (h : Handle) (e : Error) : Move .connecting h h (.decided (.error (some e))) [] []
  /-- The connection is made. -/
  | reach (h : Handle) (endpoint : String) : Move .connecting h h (.decided (.ok endpoint)) [] []
  /-- A connection made on a worker not stopped is told, and the loop starts. -/
  | connected (h : Handle) (endpoint : String) (hs : h.stopped = false) :
      Move (.decided (.ok endpoint)) h ({ h with phase := .connected }.send (.connected endpoint))
        (.returned (.ok endpoint)) [.looping] [.connected endpoint]
  /-- A connection made after a stop is dropped again. -/
  | abandon (h : Handle) (endpoint : String) (hs : h.stopped = true) :
      Move (.decided (.ok endpoint)) h ({ h with phase := .stopped }.disconnect none)
        (.returned (.error .connectionClosed)) [] (h.farewell none)
  /-- A failed connecting is told as the disconnection. -/
  | failed (h : Handle) (e : Option Error) :
      Move (.decided (.error e)) h ({ h with phase := .stopped }.disconnect e)
        (.returned (.error (e.getD .connectionClosed))) [] (h.farewell e)
  /-- The loop tells a message. -/
  | message (h : Handle) (m : Message) : Move .looping h (h.send (.message m)) .looping [] [.message m]
  /-- The loop ends at a shutdown notification, with the reason recorded for it. -/
  | hangUp (h : Handle) (hs : h.shutdown = true) :
      Move .looping h ({ h.take with phase := .stopped }.disconnect h.exitError) .idle [] (h.farewell h.exitError)
  /-- The loop ends where the connection breaks; with no reason only after a stop. -/
  | lose (h : Handle) (e : Option Error) (he : e = none → h.stopped = true) :
      Move .looping h ({ h with phase := .stopped }.disconnect e) .idle [] (h.farewell e)
  /-- The loop runs out of rounds. -/
  | spend (h : Handle) : Move .looping h h .spent [] []

/-- Moves of one task in a row, as within one leg. -/
inductive Moves : Part → Handle → Handle → Part → List Part → List WorkerEvent → Prop where
  | refl (π : Part) (h : Handle) : Moves π h h π [] []
  | step {π π₁ π₂ : Part} {h h₁ h₂ : Handle} {σ₁ σ₂ : List Part} {ℓ₁ ℓ₂ : List WorkerEvent}
      (hm : Move π h h₁ π₁ σ₁ ℓ₁) (rest : Moves π₁ h₁ h₂ π₂ σ₂ ℓ₂) : Moves π h h₂ π₂ (σ₁ ++ σ₂) (ℓ₁ ++ ℓ₂)

namespace Moves

theorem trans {π π' π'' : Part} {h h' h'' : Handle} {σ σ' : List Part} {ℓ ℓ' : List WorkerEvent}
    (h₁ : Moves π h h' π' σ ℓ) (h₂ : Moves π' h' h'' π'' σ' ℓ') : Moves π h h'' π'' (σ ++ σ') (ℓ ++ ℓ') := by
  induction h₁ with
  | refl => exact h₂
  | step hm _ ih => simpa using Moves.step hm (ih h₂)

theorem single {π π' : Part} {h h' : Handle} {σ : List Part} {ℓ : List WorkerEvent} (hm : Move π h h' π' σ ℓ) :
    Moves π h h' π' σ ℓ := by
  simpa using Moves.step hm (.refl π' h')

theorem forks (π : Part) (h : Handle) {α : Type} (xs : List α) :
    Moves π h h π (xs.map fun _ => .idle) [] := by
  induction xs with
  | nil => exact .refl π h
  | cons _ xs ih => exact .step (Move.fork π h) ih

end Moves

/-- A worker's handle and the positions of the tasks that share it. -/
structure Sharing where
  handle : Handle
  tasks : Multiset Part

/-- The states that moves of the tasks lead to from a new worker, in any order, with the events
sent on the way; the tasks there at first are idle. -/
inductive Sharing.Reach : Sharing → List WorkerEvent → Prop where
  | init (tasks : Multiset Part) (h : ∀ π ∈ tasks, π = .idle) : Reach ⟨.fresh, tasks⟩ []
  | move {h h' : Handle} {π π' : Part} {rest : Multiset Part} {σ : List Part} {ℓ ℓ' : List WorkerEvent}
      (hr : Reach ⟨h, π ::ₘ rest⟩ ℓ) (hm : Move π h h' π' σ ℓ') : Reach ⟨h', π' ::ₘ (rest + ↑σ)⟩ (ℓ ++ ℓ')

theorem Sharing.Reach.moves {h h' : Handle} {π π' : Part} {rest : Multiset Part} {σ : List Part}
    {ℓ ℓ' : List WorkerEvent} (hr : Reach ⟨h, π ::ₘ rest⟩ ℓ) (hm : Moves π h h' π' σ ℓ') :
    Reach ⟨h', π' ::ₘ (rest + ↑σ)⟩ (ℓ ++ ℓ') := by
  induction hm generalizing rest ℓ with
  | refl => simpa using hr
  | step hm _ ih =>
    have := ih (hr.move hm)
    simpa [← Multiset.coe_add, Multiset.add_assoc] using this

namespace Handle

theorem send_channel (h : Handle) (e : WorkerEvent) :
    (h.send e).listening = h.listening ∧ (h.listening = true → (h.send e).queue = h.queue ++ [e]) := by
  unfold send
  split
  · exact ⟨rfl, fun _ => rfl⟩
  · exact ⟨rfl, fun hl => absurd hl ‹_›⟩

theorem disconnect_channel (h : Handle) (e : Option Error) :
    (h.disconnect e).listening = h.listening ∧
      (h.listening = true → (h.disconnect e).queue = h.queue ++ h.farewell e) := by
  unfold disconnect farewell
  split
  · exact ⟨rfl, fun _ => by simp⟩
  · exact send_channel _ _

theorem stop_channel (h : Handle) :
    h.stop.listening = h.listening ∧ (h.listening = true → h.stop.queue = h.queue ++ h.stopEvents) := by
  unfold stop stopEvents
  by_cases hs : h.stopped = true
  · simp [hs]
  by_cases hp : h.phase = .idle
  · simp only [hs, hp, if_true, and_self]
    exact disconnect_channel { h with stopped := true, shutdown := true, phase := .stopped } none
  · simp [hs, hp]

end Handle

theorem Move.channel {π π' : Part} {h h' : Handle} {σ : List Part} {ℓ : List WorkerEvent}
    (hm : Move π h h' π' σ ℓ) (hl : h'.listening = true) :
    h.listening = true ∧ (h'.queue = h.queue ++ ℓ ∨ ∃ e, h.queue = e :: h'.queue ∧ ℓ = []) := by
  -- the moves that leave the channel alone tell nothing
  have released : ∀ {g : Handle} (e : Option Error), g.disconnected = h.disconnected → g.queue = h.queue →
      ({ g with phase := .stopped }.disconnect e).listening = true →
      g.listening = true ∧ (({ g with phase := .stopped }.disconnect e).queue = h.queue ++ h.farewell e ∨
        ∃ x, h.queue = x :: ({ g with phase := .stopped }.disconnect e).queue ∧ h.farewell e = []) := by
    intro g e hd hq hl
    obtain ⟨hl', hq'⟩ := Handle.disconnect_channel { g with phase := .stopped } e
    rw [hl'] at hl
    refine ⟨hl, .inl ?_⟩
    rw [hq' hl]
    simp only [Handle.farewell, hd, hq]
  have hkeep : h'.listening = h.listening → h'.queue = h.queue → ℓ = [] →
      h.listening = true ∧ (h'.queue = h.queue ++ ℓ ∨ ∃ e, h.queue = e :: h'.queue ∧ ℓ = []) :=
    fun hl' hq he => ⟨hl' ▸ hl, .inl (by rw [hq, he, List.append_nil])⟩
  cases hm with
  | stop =>
    obtain ⟨hl', hq⟩ := Handle.stop_channel h
    exact ⟨hl' ▸ hl, .inl (hq (hl' ▸ hl))⟩
  | exit _ _ e =>
    have hx : (h.exit e).listening = h.listening ∧ (h.exit e).queue = h.queue := by
      unfold Handle.exit
      split <;> exact ⟨rfl, rfl⟩
    exact hkeep hx.1 hx.2 rfl
  | fork | begin | refuse | fail | reach | spend => exact hkeep rfl rfl rfl
  | interrupt => exact hkeep rfl rfl rfl
  | receive _ _ hq => exact ⟨hl, .inr ⟨_, hq, rfl⟩⟩
  | close => cases hl
  | connected _ endpoint _ =>
    obtain ⟨hl', hq⟩ := Handle.send_channel { h with phase := .connected } (.connected endpoint)
    rw [hl'] at hl
    exact ⟨hl, .inl (hq hl)⟩
  | message _ m =>
    obtain ⟨hl', hq⟩ := Handle.send_channel h (.message m)
    rw [hl'] at hl
    exact ⟨hl, .inl (hq hl)⟩
  | abandon => exact released _ rfl rfl hl
  | failed _ e => exact released e rfl rfl hl
  | lose _ e => exact released e rfl rfl hl
  | hangUp => exact released (g := h.take) _ rfl rfl hl

/-! ## What every reachable state satisfies -/

def Opening (ℓ : List WorkerEvent) : Prop := ℓ = [] ∨ ∃ (endpoint : String) (ms : List Message), ℓ = .connected endpoint :: ms.map .message

def Protocol (ℓ : List WorkerEvent) : Prop := Opening ℓ ∨ ∃ o e, Opening o ∧ ℓ = o ++ [.disconnected e]

/-- What a start that got past its checks and returned `r` has told: the connection first, when
it returned one; otherwise the one disconnection, carrying the error it returned, as the only
event, and with no error only after a stop. -/
def Answered (r : Except Error String) (ℓ : List WorkerEvent) (stopped : Bool) : Prop :=
  (∃ endpoint, r = .ok endpoint ∧ ℓ.head? = some (.connected endpoint)) ∨
    ∃ e, r = .error (e.getD .connectionClosed) ∧ ℓ = [.disconnected e] ∧ (e = none → stopped = true)

namespace Answered

variable {r : Except Error String} {ℓ : List WorkerEvent} {st : Bool}

theorem ne_nil (ha : Answered r ℓ st) : ℓ ≠ [] := by
  rintro rfl
  rcases ha with ⟨_, _, h⟩ | ⟨_, _, h, _⟩ <;> simp at h

theorem mono (ha : Answered r ℓ st) {st' : Bool} (hst : st = true → st' = true) : Answered r ℓ st' :=
  ha.imp id fun ⟨e, hr, hℓ, he⟩ => ⟨e, hr, hℓ, fun h => hst (he h)⟩

theorem append (ha : Answered r ℓ st) (hc : ∀ e, ℓ ≠ [.disconnected e]) (ℓ' : List WorkerEvent) :
    Answered r (ℓ ++ ℓ') st := by
  rcases ha with ⟨endpoint, hr, hh⟩ | ⟨e, _, hℓ, _⟩
  · have hne : ℓ ≠ [] := by
      rintro rfl
      simp at hh
    exact .inl ⟨endpoint, hr, by rw [List.head?_append_of_ne_nil _ hne, hh]⟩
  · exact absurd hℓ (hc e)

end Answered

theorem Opening.ne_disconnected {ℓ : List WorkerEvent} (ho : Opening ℓ) (e : Option Error) :
    ℓ ≠ [.disconnected e] := by
  rcases ho with rfl | ⟨_, _, rfl⟩ <;> simp

namespace Handle

/-- The events told so far and the marks, as the phase has them: nothing told before the
connection, the connection and its messages while connected, and the disconnection last once
stopped; a worker is disconnected exactly when stopped, and an idle one was never stopped. -/
def Told (h : Handle) (ℓ : List WorkerEvent) : Prop :=
  match h.phase with
  | .idle => h.stopped = false ∧ h.disconnected = false ∧ ℓ = []
  | .connecting => h.disconnected = false ∧ ℓ = []
  | .connected => h.disconnected = false ∧ ∃ (endpoint : String) (ms : List Message), ℓ = .connected endpoint :: ms.map .message
  | .stopped => h.disconnected = true ∧ ∃ o e, Opening o ∧ ℓ = o ++ [.disconnected e]

def held (h : Handle) : Multiset Phase :=
  if h.phase = .connecting ∨ h.phase = .connected then {h.phase} else 0

end Handle

/-- What holds in every reachable state. -/
structure Sharing.Sound (c : Sharing) (ℓ : List WorkerEvent) : Prop where
  /-- Exactly one task holds the phase that is held. -/
  held : c.tasks.filterMap Part.holds = c.handle.held
  told : c.handle.Told ℓ
  /-- A shutdown notification comes from a stop or with a reason. -/
  notified : c.handle.shutdown = true → c.handle.stopped = true ∨ c.handle.exitError.isSome
  /-- After a stop, a start still connecting or a loop still reading has a notification waiting. -/
  pending : c.handle.stopped = true → c.handle.shutdown = true ∨ ∀ π ∈ c.tasks, π ≠ .connecting ∧ π ≠ .looping
  /-- A connecting that came out with no reason came out of a stop. -/
  unexplained : .decided (.error none) ∈ c.tasks → c.handle.stopped = true
  returned : ∀ r, .returned r ∈ c.tasks → Answered r ℓ c.handle.stopped

namespace Handle

theorem Told.congr {h g : Handle} {ℓ : List WorkerEvent} (ht : h.Told ℓ) (hp : g.phase = h.phase)
    (hd : g.disconnected = h.disconnected) (hs : h.phase = .idle → g.stopped = h.stopped) : g.Told ℓ := by
  unfold Told at ht ⊢
  rw [hp, hd]
  split
  · rename_i hi
    rw [hs hi]
    simpa [hi] using ht
  all_goals simp_all

end Handle

namespace Sharing.Sound

variable {h : Handle} {π : Part} {rest : Multiset Part} {ℓ : List WorkerEvent}

theorem holds_eq_none {tasks : Multiset Part} (h0 : tasks.filterMap Part.holds = 0) {x : Part} (hx : x ∈ tasks) :
    x.holds = none := by
  cases hxh : x.holds with
  | none => rfl
  | some p =>
    have hm : p ∈ tasks.filterMap Part.holds := (Multiset.mem_filterMap _ _).2 ⟨x, hx, hxh⟩
    simp [h0] at hm

theorem holder (hs : Sound ⟨h, π ::ₘ rest⟩ ℓ) {p : Phase} (hp : π.holds = some p) :
    h.phase = p ∧ rest.filterMap Part.holds = 0 := by
  have hh := hs.held
  simp only [Multiset.filterMap_cons_some _ _ _ hp, Handle.held] at hh
  split at hh
  · exact (Multiset.singleton_eq_cons_iff _).1 hh.symm
  · exact absurd hh Multiset.cons_ne_zero

theorem others (hs : Sound ⟨h, π ::ₘ rest⟩ ℓ) (hp : π.holds = none) : rest.filterMap Part.holds = h.held := by
  simpa [Multiset.filterMap_cons_none _ _ hp] using hs.held

theorem init (tasks : Multiset Part) (hf : ∀ π ∈ tasks, π = .idle) : Sound ⟨.fresh, tasks⟩ [] where
  held := by
    refine Multiset.eq_zero_of_forall_notMem fun p hp => ?_
    obtain ⟨π, hπ, hp⟩ := (Multiset.mem_filterMap _ _).1 hp
    simp [hf π hπ, Part.holds] at hp
  told := by simp [Handle.Told, Handle.fresh]
  notified := by simp [Handle.fresh]
  pending := by simp [Handle.fresh]
  unexplained := fun hm => absurd (hf _ hm) (by simp)
  returned := fun _ hm => absurd (hf _ hm) (by simp)

theorem connecting_told (hs : Sound ⟨h, π ::ₘ rest⟩ ℓ) (hp : π.holds = some .connecting) :
    h.disconnected = false ∧ ℓ = [] := by
  obtain ⟨hph, -⟩ := hs.holder hp
  have ht := hs.told
  simp only [Handle.Told, hph] at ht
  exact ht

/-! ### What each move keeps -/

theorem stop (hs : Sound ⟨h, π ::ₘ rest⟩ ℓ) : Sound ⟨h.stop, π ::ₘ (rest + ↑([] : List Part))⟩ (ℓ ++ h.stopEvents) := by
  obtain ⟨hheld, ht, hn, hpend, hu, hret⟩ := hs
  simp only [Multiset.coe_nil, Multiset.add_zero]
  by_cases hst : h.stopped = true
  · simpa [Handle.stop, Handle.stopEvents, hst] using (⟨hheld, ht, hn, hpend, hu, hret⟩ : Sound ⟨h, π ::ₘ rest⟩ ℓ)
  have hst : h.stopped = false := by simpa using hst
  by_cases hp : h.phase = .idle
  · -- an idle worker tells its disconnection at once; no start has returned yet
    simp only [Handle.Told, hp] at ht
    obtain ⟨-, hd, rfl⟩ := ht
    refine ⟨?_, ?_, ?_, ?_, ?_, fun r hr => absurd (hret r hr).ne_nil (by simp)⟩ <;>
      simp_all [Handle.stop, Handle.stopEvents, Handle.farewell, Handle.held, Handle.Told, Opening]
  · have hev : h.stopEvents = [] := by simp [Handle.stopEvents, hp]
    refine ⟨?_, ?_, ?_, ?_, ?_, fun r hr => ?_⟩
    · simpa [Handle.stop, hst, hp, Handle.held] using hheld
    · simpa [Handle.stop, hev, hst, hp] using ht.congr (g := { h with stopped := true, shutdown := true }) rfl rfl
        (fun hi => absurd hi hp)
    rotate_left 3
    · rw [hev, List.append_nil]
      exact (hret r hr).mono fun _ => by simp [Handle.stop, hst, hp]
    all_goals simp [Handle.stop, hst, hp]

theorem frame {tasks : Multiset Part} (hs : Sound ⟨h, tasks⟩ ℓ) {g : Handle} (hp : g.phase = h.phase)
    (hd : g.disconnected = h.disconnected) (hst : g.stopped = h.stopped) (hsh : g.shutdown = h.shutdown)
    (he : g.exitError = h.exitError) : Sound ⟨g, tasks⟩ ℓ where
  held := by simpa [Handle.held, hp] using hs.held
  told := hs.told.congr hp hd fun _ => hst
  notified := by simpa [hsh, hst, he] using hs.notified
  pending := by simpa [hsh, hst] using hs.pending
  unexplained := by simpa [hst] using hs.unexplained
  returned := fun r hr => (hs.returned r hr).mono fun h' => hst.trans h'

theorem exit (hs : Sound ⟨h, π ::ₘ rest⟩ ℓ) (e : Error) :
    Sound ⟨h.exit e, π ::ₘ (rest + ↑([] : List Part))⟩ (ℓ ++ []) := by
  simp only [Multiset.coe_nil, Multiset.add_zero, List.append_nil]
  by_cases hst : h.stopped = true
  · simpa [Handle.exit, hst] using hs
  have hst : h.stopped = false := by simpa using hst
  refine ⟨?_, hs.told.congr (by simp [Handle.exit, hst]) (by simp [Handle.exit, hst]) (by simp [Handle.exit, hst]),
    ?_, ?_, ?_, ?_⟩
  · simpa [Handle.exit, hst, Handle.held] using hs.held
  · simp [Handle.exit, hst]
  · simp [Handle.exit, hst]
  · simpa [Handle.exit, hst] using hs.unexplained
  · simpa [Handle.exit, hst] using hs.returned

theorem holds_cons_add {σ : List Part} (hσ : ∀ x ∈ σ, x.holds = none) :
    (π ::ₘ (rest + ↑σ)).filterMap Part.holds = (π ::ₘ rest).filterMap Part.holds := by
  rw [← Multiset.cons_add, Multiset.filterMap_add, Multiset.filterMap_coe, List.filterMap_eq_nil_iff.2 hσ]
  simp

theorem fork (hs : Sound ⟨h, π ::ₘ rest⟩ ℓ) : Sound ⟨h, π ::ₘ (rest + ↑[Part.idle])⟩ (ℓ ++ []) where
  held := by rw [holds_cons_add (by simp [Part.holds])]; exact hs.held
  told := by simpa using hs.told
  notified := hs.notified
  pending := fun hst => (hs.pending hst).imp id fun hall x hx => by
    simp only [Multiset.mem_cons, Multiset.mem_add, Multiset.mem_coe, List.mem_singleton] at hx
    rcases hx with rfl | hx | rfl
    · exact hall _ (Multiset.mem_cons_self _ _)
    · exact hall _ (Multiset.mem_cons_of_mem hx)
    · simp
  unexplained := fun hm => hs.unexplained (by simpa using hm)
  returned := fun r hm => by simpa using hs.returned r (by simpa using hm)

theorem relabel (hs : Sound ⟨h, π ::ₘ rest⟩ ℓ) (hπ : π.holds = none) :
    Sound ⟨h, Part.idle ::ₘ (rest + ↑([] : List Part))⟩ (ℓ ++ []) := by
  have hmem : ∀ {x}, x ∈ Part.idle ::ₘ (rest + ↑([] : List Part)) → x = .idle ∨ x ∈ π ::ₘ rest := by
    intro x hx
    simp only [Multiset.coe_nil, Multiset.add_zero, Multiset.mem_cons] at hx ⊢
    exact hx.imp id .inr
  refine ⟨?_, by simpa using hs.told, hs.notified, fun hst => (hs.pending hst).imp id fun hall x hx => ?_,
    fun hm => ?_, fun r hm => ?_⟩
  · simpa [Multiset.filterMap_cons_none _ _ (show Part.idle.holds = none from rfl),
      Multiset.filterMap_cons_none _ _ hπ] using hs.held
  · rcases hmem hx with rfl | hx
    · simp
    · exact hall x hx
  · rcases hmem hm with he | hm
    · simp at he
    · exact hs.unexplained hm
  · rcases hmem hm with he | hm
    · simp at he
    · simpa using hs.returned r hm

theorem begin (hs : Sound ⟨h, π ::ₘ rest⟩ ℓ) (hπ : π.Free) (hp : h.phase = .idle) (hst : h.stopped = false) :
    Sound ⟨{ h with phase := .connecting }, Part.connecting ::ₘ (rest + ↑([] : List Part))⟩ (ℓ ++ []) := by
  have hrest := hs.others (Part.holds_of_free hπ)
  simp only [Handle.held, hp] at hrest
  have ht := hs.told
  simp only [Handle.Told, hp] at ht
  obtain ⟨-, hd, rfl⟩ := ht
  refine ⟨?_, by simp [Handle.Told, hd], hs.notified, fun h' => absurd h' (by simp [hst]), fun hm => ?_,
    fun r hm => ?_⟩
  · simp [Part.holds, hrest, Handle.held]
  · have hm' : Part.decided (.error none) ∈ rest := by simpa using hm
    exact absurd (hs.unexplained (Multiset.mem_cons_of_mem hm')) (by simp [hst])
  · -- nothing is told before a start begins, so no start has returned
    have hm' : Part.returned r ∈ rest := by simpa using hm
    exact absurd (hs.returned r (Multiset.mem_cons_of_mem hm')).ne_nil (by simp)

theorem pass (hs : Sound ⟨h, π ::ₘ rest⟩ ℓ) (hπ : π = .connecting ∨ π = .looping) {p : Phase}
    (hp : π.holds = some p) {π' : Part} (hp' : π'.holds = some p) (hu : π' ≠ .decided (.error none)) :
    Sound ⟨h, π' ::ₘ (rest + ↑([] : List Part))⟩ (ℓ ++ []) := by
  have hrest := (hs.holder hp).2
  refine ⟨?_, by simpa using hs.told, hs.notified, fun hst => .inl ?_, fun hm => ?_, fun r hm => ?_⟩
  · simpa [Multiset.filterMap_cons_some _ _ _ hp', Multiset.filterMap_cons_some _ _ _ hp] using hs.held
  · -- the holder itself is connecting or reading, so a stop left a notification for it
    refine (hs.pending hst).resolve_right fun hall => ?_
    have := hall π (Multiset.mem_cons_self _ _)
    rcases hπ with rfl | rfl <;> simp at this
  · simp only [Multiset.coe_nil, Multiset.add_zero, Multiset.mem_cons] at hm
    rcases hm with he | hm
    · exact absurd he.symm hu
    · have := holds_eq_none hrest hm
      simp [Part.holds] at this
  · simp only [Multiset.coe_nil, Multiset.add_zero, Multiset.mem_cons] at hm
    rcases hm with he | hm
    · simp [← he, Part.holds] at hp'
    · simpa using hs.returned r (Multiset.mem_cons_of_mem hm)

theorem interrupt (hs : Sound ⟨h, Part.connecting ::ₘ rest⟩ ℓ) (hsh : h.shutdown = true) :
    Sound ⟨h.take, Part.decided (.error h.exitError) ::ₘ (rest + ↑([] : List Part))⟩ (ℓ ++ []) := by
  have hrest := (hs.holder (p := .connecting) rfl).2
  refine ⟨?_, by simpa using hs.told.congr (g := h.take) rfl rfl fun _ => rfl, by simp [Handle.take],
    fun _ => .inr fun x hx => ?_, fun hm => ?_, fun r hm => ?_⟩
  · have hheld : h.take.held = h.held := rfl
    rw [hheld, ← hs.held]
    simp [Part.holds]
  · simp only [Multiset.coe_nil, Multiset.add_zero, Multiset.mem_cons] at hx
    rcases hx with rfl | hx
    · simp
    · exact ⟨(Part.ne_of_holds (holds_eq_none hrest hx)).1, (Part.ne_of_holds (holds_eq_none hrest hx)).2.1⟩
  · simp only [Multiset.coe_nil, Multiset.add_zero, Multiset.mem_cons] at hm
    rcases hm with he | hm
    · -- a notification with no reason is a stop's
      have he : h.exitError = none := by
        simp at he
        exact he.symm
      simpa [Handle.take, he] using hs.notified hsh
    · exact absurd rfl (Part.ne_of_holds (holds_eq_none hrest hm)).2.2
  · have hm' : Part.returned r ∈ rest := by simpa using hm
    simpa [Handle.take] using hs.returned r (Multiset.mem_cons_of_mem hm')

theorem connected {endpoint : String} (hs : Sound ⟨h, Part.decided (.ok endpoint) ::ₘ rest⟩ ℓ)
    (hst : h.stopped = false) :
    Sound ⟨{ h with phase := .connected }.send (.connected endpoint),
      Part.returned (.ok endpoint) ::ₘ (rest + ↑[Part.looping])⟩ (ℓ ++ [.connected endpoint]) := by
  obtain ⟨hp, hrest⟩ := hs.holder (p := .connecting) rfl
  have ht := hs.told
  simp only [Handle.Told, hp] at ht
  obtain ⟨hd, rfl⟩ := ht
  refine ⟨?_, ?_, by simpa using hs.notified, fun h' => absurd h' (by simp [hst]), fun hm => ?_, fun r hm => ?_⟩
  · rw [← Multiset.cons_add, Multiset.filterMap_add, Multiset.filterMap_cons_none _ _ rfl, hrest,
      Multiset.filterMap_coe]
    simp [Part.holds, Handle.held]
  · simp only [Handle.Told, Handle.send_phase, Handle.send_disconnected, hd, List.nil_append, true_and]
    exact ⟨endpoint, [], rfl⟩
  · simp only [Multiset.mem_cons, Multiset.mem_add, Multiset.mem_coe, List.mem_singleton] at hm
    rcases hm with he | hm | he
    · simp at he
    · exact absurd rfl (Part.ne_of_holds (holds_eq_none hrest hm)).2.2
    · simp at he
  · -- the start that returns is the one that told the connection, the first event
    simp only [Multiset.mem_cons, Multiset.mem_add, Multiset.mem_coe, List.mem_singleton] at hm
    rcases hm with he | hm | he
    · cases he
      exact .inl ⟨endpoint, rfl, rfl⟩
    · exact absurd (hs.returned r (Multiset.mem_cons_of_mem hm)).ne_nil (by simp)
    · simp at he

theorem message (hs : Sound ⟨h, Part.looping ::ₘ rest⟩ ℓ) (m : Message) :
    Sound ⟨h.send (.message m), Part.looping ::ₘ (rest + ↑([] : List Part))⟩ (ℓ ++ [.message m]) := by
  obtain ⟨hp, -⟩ := hs.holder (p := .connected) rfl
  have ht := hs.told
  simp only [Handle.Told, hp] at ht
  obtain ⟨hd, endpoint, ms, rfl⟩ := ht
  have hf := hs.frame (g := h.send (.message m)) (by simp) (by simp) (by simp) (by simp) (by simp)
  refine ⟨by simpa using hf.held, ?_, hf.notified, by simpa using hf.pending, by simpa using hf.unexplained,
    fun r hm => ?_⟩
  · simp only [Handle.Told, Handle.send_phase, Handle.send_disconnected, hp, hd, true_and]
    exact ⟨endpoint, ms ++ [m], by simp⟩
  · exact (hf.returned r (by simpa using hm)).append (Opening.ne_disconnected (.inr ⟨endpoint, ms, rfl⟩)) _

theorem release (hs : Sound ⟨h, π ::ₘ rest⟩ ℓ) {p : Phase} (hp : π.holds = some p) {π' : Part}
    (hπ' : π'.holds = none) {g : Handle} (hg : g.stopped = h.stopped)
    (hn : g.shutdown = true → g.stopped = true ∨ g.exitError.isSome) (e : Option Error)
    (hnew : ∀ r, π' = .returned r → Answered r (ℓ ++ h.farewell e) h.stopped) :
    Sound ⟨{ g with phase := .stopped }.disconnect e, π' ::ₘ (rest + ↑([] : List Part))⟩ (ℓ ++ h.farewell e) := by
  obtain ⟨hph, hrest⟩ := hs.holder hp
  -- a held phase is connecting or connected: nothing was told but an opening
  have hopen : h.disconnected = false ∧ Opening ℓ := by
    have ht := hs.told
    have hpc : p = .connecting ∨ p = .connected := by
      cases π <;> simp [Part.holds] at hp <;> simp [← hp]
    rcases hpc with rfl | rfl <;> simp only [Handle.Told, hph] at ht
    · exact ⟨ht.1, .inl ht.2⟩
    · exact ⟨ht.1, .inr ht.2⟩
  have hfree : ∀ x ∈ π' ::ₘ (rest + ↑([] : List Part)), x.holds = none := by
    intro x hx
    simp only [Multiset.coe_nil, Multiset.add_zero, Multiset.mem_cons] at hx
    rcases hx with rfl | hx
    · exact hπ'
    · exact holds_eq_none hrest hx
  refine ⟨?_, ?_, by simpa using hn, fun _ => .inr fun x hx => ?_, fun hm => ?_, fun r hm => ?_⟩
  · simp [Multiset.filterMap_cons_none _ _ hπ', hrest, Handle.held]
  · simp only [Handle.Told, Handle.disconnect_phase, Handle.disconnect_disconnected, true_and, Handle.farewell,
      hopen.1]
    exact ⟨ℓ, e, hopen.2, by simp⟩
  · exact ⟨(Part.ne_of_holds (hfree x hx)).1, (Part.ne_of_holds (hfree x hx)).2.1⟩
  · exact absurd rfl (Part.ne_of_holds (hfree _ hm)).2.2
  · -- a start that returned before told no disconnection, as only an opening was told
    simp only [Multiset.coe_nil, Multiset.add_zero, Multiset.mem_cons] at hm
    simp only [Handle.disconnect_stopped, hg]
    rcases hm with he | hm
    · exact hnew r he.symm
    · exact (hs.returned r (Multiset.mem_cons_of_mem hm)).append (hopen.2.ne_disconnected) _

theorem move (hs : Sound ⟨h, π ::ₘ rest⟩ ℓ) {h' : Handle} {π' : Part} {σ : List Part} {ℓ' : List WorkerEvent}
    (hm : Move π h h' π' σ ℓ') : Sound ⟨h', π' ::ₘ (rest + ↑σ)⟩ (ℓ ++ ℓ') := by
  cases hm with
  | stop => exact hs.stop
  | exit _ _ e => exact hs.exit e
  | fork => exact hs.fork
  | receive | close =>
    simp only [Multiset.coe_nil, Multiset.add_zero, List.append_nil]
    exact hs.frame rfl rfl rfl rfl rfl
  | begin hπ _ hp hst => exact hs.begin hπ hp hst
  | refuse hπ => exact hs.relabel (Part.holds_of_free hπ)
  | interrupt _ hsh => exact hs.interrupt hsh
  | fail => exact hs.pass (.inl rfl) rfl rfl (by simp)
  | reach => exact hs.pass (.inl rfl) rfl rfl (by simp)
  | connected _ _ hst => exact hs.connected hst
  | abandon _ _ hst =>
    refine hs.release rfl rfl rfl hs.notified none fun r hr => ?_
    cases hr
    obtain ⟨hd, rfl⟩ := hs.connecting_told rfl
    exact .inr ⟨none, rfl, by simp [Handle.farewell, hd], fun _ => hst⟩
  | failed _ e =>
    refine hs.release rfl rfl rfl hs.notified e fun r hr => ?_
    cases hr
    obtain ⟨hd, rfl⟩ := hs.connecting_told rfl
    refine .inr ⟨e, rfl, by simp [Handle.farewell, hd], fun he => ?_⟩
    subst he
    exact hs.unexplained (Multiset.mem_cons_self _ _)
  | message _ m => exact hs.message m
  | hangUp _ hsh =>
    exact hs.release (g := h.take) rfl rfl rfl (by simp [Handle.take]) h.exitError fun _ hr => by cases hr
  | lose _ e _ => exact hs.release rfl rfl rfl hs.notified e fun _ hr => by cases hr
  | spend => exact hs.pass (.inr rfl) rfl rfl (by simp)

end Sharing.Sound

namespace Sharing.Reach

variable {c : Sharing} {ℓ : List WorkerEvent}

theorem sound (hr : c.Reach ℓ) : c.Sound ℓ := by
  induction hr with
  | init tasks hf => exact .init tasks hf
  | move _ hm ih => exact ih.move hm

theorem protocol (hr : c.Reach ℓ) : Protocol ℓ := by
  have ht := hr.sound.told
  unfold Handle.Told at ht
  split at ht
  · exact .inl (.inl ht.2.2)
  · exact .inl (.inl ht.2)
  · exact .inl (.inr ht.2)
  · exact .inr ht.2

/-- A start that got past its checks returns success exactly when it tells the connection.
Otherwise it tells the disconnection, carrying the error it returns; one with no error comes only
after a stop, and the error returned is then that the connection closed. -/
theorem settle (hr : c.Reach ℓ) {o : Except (Option Error) String} (hπ : Part.decided o ∈ c.tasks)
    {h' : Handle} {r : Except Error String} {σ : List Part} {ℓ' : List WorkerEvent}
    (hm : Move (.decided o) c.handle h' (.returned r) σ ℓ') :
    (∃ endpoint, r = .ok endpoint ∧ ℓ' = [.connected endpoint]) ∨
      ∃ e, r = .error (e.getD .connectionClosed) ∧ ℓ' = [.disconnected e] ∧ (e = none → c.handle.stopped = true) := by
  obtain ⟨rest, hrest⟩ := Multiset.exists_cons_of_mem hπ
  have hs : Sound ⟨c.handle, .decided o ::ₘ rest⟩ ℓ := hrest ▸ hr.sound
  have hd := (hs.connecting_told rfl).1
  cases hm with
  | connected _ endpoint _ => exact .inl ⟨endpoint, rfl, rfl⟩
  | abandon _ _ hst => exact .inr ⟨none, rfl, by simp [Handle.farewell, hd], fun _ => hst⟩
  | failed _ e =>
    refine .inr ⟨e, rfl, by simp [Handle.farewell, hd], fun he => ?_⟩
    subst he
    exact hs.unexplained (Multiset.mem_cons_self _ _)

/-- A start that got past its checks and returned has told what it returned: success only after
the connection, the first event, and a failure as the one event, the disconnection that carries
it; with no error only after a stop, when the failure is that the connection closed. -/
theorem returned (hr : c.Reach ℓ) {r : Except Error String} (hπ : Part.returned r ∈ c.tasks) :
    Answered r ℓ c.handle.stopped :=
  hr.sound.returned r hπ

theorem stopped_pending (hr : c.Reach ℓ) (hst : c.handle.stopped = true) :
    c.handle.shutdown = true ∨ ∀ π ∈ c.tasks, π ≠ .connecting ∧ π ≠ .looping :=
  hr.sound.pending hst

theorem stopped_at_rest (hr : c.Reach ℓ) (hst : c.handle.stopped = true) (hfree : ∀ π ∈ c.tasks, π.holds = none) :
    c.handle.disconnected = true ∧ ∃ o e, Opening o ∧ ℓ = o ++ [.disconnected e] := by
  have hs := hr.sound
  have h0 : c.tasks.filterMap Part.holds = 0 := Multiset.eq_zero_of_forall_notMem fun p hp => by
    obtain ⟨π, hπ, hp⟩ := (Multiset.mem_filterMap _ _).1 hp
    simp [hfree π hπ] at hp
  have hheld := hs.held
  rw [h0] at hheld
  have ht := hs.told
  unfold Handle.Told at ht
  -- an idle worker was never stopped, and a connecting or connected one is held
  cases hph : c.handle.phase <;> simp only [hph] at ht
  · simp [ht.1] at hst
  · simp [Handle.held, hph] at hheld
  · simp [Handle.held, hph] at hheld
  · exact ht

theorem queued (hr : c.Reach ℓ) (hl : c.handle.listening = true) : c.handle.queue <:+ ℓ := by
  induction hr with
  | init => exact List.nil_suffix
  | move _ hm ih =>
    obtain ⟨hl₀, hq | ⟨e, hq, rfl⟩⟩ := hm.channel hl
    · obtain ⟨taken, htaken⟩ := ih hl₀
      exact ⟨taken, by rw [hq, ← htaken, List.append_assoc]⟩
    · rw [List.append_nil]
      exact (List.suffix_cons e _).trans (hq ▸ ih hl₀)

end Sharing.Reach

end TestConductor
