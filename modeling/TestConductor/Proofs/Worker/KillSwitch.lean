import TestConductor.Worker.Handle
import TestConductor.Proofs.Worker.Handles
import TestConductor.Proofs.Runtime.Threads
import Mathlib.Data.List.Infix
/-! # The kill switch of a worker

A worker's handle holds the kill switch of the process it launched. A launch checks that the
handle is not stopped, awaits the launcher, and only then stores the process id and the switch,
each under a lock of its own; a stop marks the handle stopped and fires the switch it holds, in one
stretch. So a stop may land between a launch's check and its store: it finds no switch, or an
older one, and the switch stored after it is never fired. And a launch stores its switch over the
one before, so a stop fires the switch of the last launch stored before it, and no other.
-/
namespace TestConductor

open Async

/-- What the calls of a worker's handle read and change of the world: whether it is stopped, the
launch whose kill switch it holds, and whether each launch was killed. -/
structure Switch where
  stopped : Bool
  kill : Option Nat
  killed : List Bool

def World.switch (w : World) (i : Nat) : Switch :=
  ⟨(w.worker i).stopped, (w.worker i).kill, w.launches.map (·.killed)⟩

/-- Where a call on a worker's handle is: holding nothing, or a launch holding the process `l` it
started and has not yet given the handle. -/
inductive Hand where
  | free
  | holding (l : Nat)
  deriving DecidableEq

namespace Switch

def fire (s : Switch) : List Bool :=
  match s.kill with
  | some l => s.killed.set l true
  | none => s.killed

/-- What one leg of a launch or a stop does to the switch, from where the call is to where it
leaves it, noting the launch it gives the handle. -/
inductive Move : Hand → Switch → Switch → Hand → Option Nat → Prop where
  /-- The leg changes nothing here: a check, a refused launch, a stop of a stopped handle. -/
  | idle (π : Hand) (s : Switch) : Move π s s π none
  /-- A process failed to start: its launch is recorded, alive. -/
  | unstarted (s : Switch) : Move .free s { s with killed := s.killed ++ [false] } .free none
  /-- A process started: its launch is recorded, alive, and the call holds it. -/
  | start (s : Switch) : Move .free s { s with killed := s.killed ++ [false] } (.holding s.killed.length) none
  /-- The call stores the switch of the launch it holds over whatever the handle held, stopped or
  not, and gives the handle that launch. -/
  | store (l : Nat) (s : Switch) : Move (.holding l) s { s with kill := some l } .free (some l)
  /-- The handle stops: it fires the switch it holds and holds none after. -/
  | stop (s : Switch) (h : s.stopped = false) : Move .free s ⟨true, none, s.fire⟩ .free none

/-- Moves of one call in a row, as within one leg, with the launches given on the way. -/
inductive Moves : Hand → Switch → Switch → Hand → List Nat → Prop where
  | refl (π : Hand) (s : Switch) : Moves π s s π []
  | step {π π₁ π₂ : Hand} {s s₁ s₂ : Switch} {o : Option Nat} {os : List Nat} (hm : Move π s s₁ π₁ o)
      (rest : Moves π₁ s₁ s₂ π₂ os) : Moves π s s₂ π₂ (o.toList ++ os)

theorem Moves.trans {π π' π'' : Hand} {s s' s'' : Switch} {os os' : List Nat} (h₁ : Moves π s s' π' os)
    (h₂ : Moves π' s' s'' π'' os') : Moves π s s'' π'' (os ++ os') := by
  induction h₁ with
  | refl => exact h₂
  | step hm _ ih => simpa using Moves.step hm (ih h₂)

theorem Moves.single {π π' : Hand} {s s' : Switch} {o : Option Nat} (hm : Move π s s' π' o) :
    Moves π s s' π' o.toList := by
  simpa using Moves.step hm (.refl π' s')

/-- The switches that legs of any number of calls lead to from a handle not stopped and holding
no switch, the calls all free at first, with the launches given to the handle in order and how
many of them were given before it stopped. A call may start tasks, which hold nothing. -/
inductive Reach : Switch → Multiset Hand → List Nat → Nat → Prop where
  | init (ks : List Bool) (hands : Multiset Hand) (hf : ∀ π ∈ hands, π = .free) :
      Reach ⟨false, none, ks⟩ hands [] 0
  | move {s t : Switch} {π π' : Hand} {rest : Multiset Hand} {gs : List Nat} {k : Nat} {o : Option Nat}
      {σ : List Hand} (hr : Reach s (π ::ₘ rest) gs k) (hm : Move π s t π' o) (hσ : ∀ x ∈ σ, x = .free) :
      Reach t (π' ::ₘ (rest + ↑σ)) (gs ++ o.toList) (if t.stopped then k else (gs ++ o.toList).length)

theorem Reach.moves {s t : Switch} {π π' : Hand} {rest : Multiset Hand} {gs os : List Nat} {k : Nat}
    (hr : Reach s (π ::ₘ rest) gs k) (hm : Moves π s t π' os) : ∃ k', Reach t (π' ::ₘ rest) (gs ++ os) k' := by
  induction hm generalizing gs k with
  | refl => exact ⟨k, by rwa [List.append_nil]⟩
  | step hm _ ih =>
    have h₁ := hr.move hm (σ := []) (by simp)
    rw [Multiset.coe_nil, Multiset.add_zero] at h₁
    obtain ⟨k', hk⟩ := ih h₁
    exact ⟨k', by rwa [List.append_assoc] at hk⟩

theorem Reach.fork {s : Switch} {π : Hand} {rest : Multiset Hand} {gs : List Nat} {k : Nat} {σ : List Hand}
    (hr : Reach s (π ::ₘ rest) gs k) (hσ : ∀ x ∈ σ, x = .free) :
    ∃ k', Reach s (π ::ₘ (rest + ↑σ)) gs k' := by
  have h := hr.move (.idle π s) hσ
  rw [Option.toList_none, List.append_nil] at h
  exact ⟨_, h⟩

/-- What holds of the switch and the calls after any legs: the launches given are distinct, and
so are the ones the calls hold, which are alive and neither given nor held by the handle; until
the stop every launch given is alive and the handle holds the last; the stop fired the last one
given before it; and every other launch given, before or after the stop, is alive, the handle
holding the last given after the stop. -/
structure Kept (s : Switch) (hands : Multiset Hand) (gs : List Nat) (k : Nat) : Prop where
  nodup : gs.Nodup
  given : ∀ l ∈ gs, l < s.killed.length
  held : ∀ l, .holding l ∈ hands → s.killed[l]? = some false ∧ l ∉ gs
  single : ∀ l, Multiset.count (.holding l) hands ≤ 1
  count : k ≤ gs.length ∧ (s.stopped = false → k = gs.length)
  holds : s.kill = if s.stopped then (gs.drop k).getLast? else gs.getLast?
  fired : s.stopped = true → ∀ l ∈ (gs.take k).getLast?, s.killed[l]? = some true
  alive : ∀ l ∈ gs, (s.stopped = true → l ∉ (gs.take k).getLast?) → s.killed[l]? = some false

theorem getElem?_append_mark {ks : List Bool} {l : Nat} (hl : l < ks.length) (b : Bool) :
    (ks ++ [b])[l]? = ks[l]? :=
  List.getElem?_append_left hl

namespace Kept

variable {s : Switch} {π : Hand} {rest : Multiset Hand} {gs : List Nat} {k : Nat}

theorem init (ks : List Bool) (hands : Multiset Hand) (hf : ∀ π ∈ hands, π = .free) : Kept ⟨false, none, ks⟩ hands [] 0 where
  nodup := .nil
  given := by simp
  held := fun l hl => absurd (hf _ hl) (by simp)
  single := fun l => by
    rw [Multiset.count_eq_zero.2 fun hl => absurd (hf _ hl) (by simp)]
    exact Nat.zero_le 1
  count := ⟨le_refl 0, fun _ => rfl⟩
  holds := rfl
  fired := by simp
  alive := by simp

theorem held_lt (hk : Kept s hands gs k) {l : Nat} (hl : .holding l ∈ hands) : l < s.killed.length :=
  (List.getElem?_eq_some_iff.1 (hk.held l hl).1).1

theorem count_eq (hk : Kept s hands gs k) : (if s.stopped then k else gs.length) = k := by
  cases hs : s.stopped
  · exact (hk.count.2 hs).symm
  · rfl

theorem kill_mem (hk : Kept s hands gs k) {l : Nat} (hl : s.kill = some l) : l ∈ gs := by
  rw [hk.holds] at hl
  split at hl
  · exact List.mem_of_mem_drop (List.mem_of_getLast? hl)
  · exact List.mem_of_getLast? hl

theorem record (hk : Kept s (π ::ₘ rest) gs k) (π' : Hand) (hπ' : π' = .free ∨ π' = .holding s.killed.length)
    (hπ : π = .free) : Kept { s with killed := s.killed ++ [false] } (π' ::ₘ rest) gs k := by
  subst hπ
  have hlt : ∀ l ∈ gs, (s.killed ++ [false])[l]? = s.killed[l]? := fun l hl => getElem?_append_mark (hk.given l hl) _
  refine ⟨hk.nodup, fun l hl => ?_, fun l hl => ?_, fun l => ?_, hk.count, hk.holds, fun hs l hl => ?_,
    fun l hl hn => ?_⟩
  · simpa using Nat.lt_succ_of_lt (hk.given l hl)
  · rcases Multiset.mem_cons.1 hl with he | hl
    · -- the new launch, alive, and given to no one yet
      rcases hπ' with rfl | rfl
      · cases he
      · cases he
        refine ⟨by simp, fun hg => ?_⟩
        exact Nat.lt_irrefl _ (hk.given _ hg)
    · have hm : Hand.holding l ∈ Hand.free ::ₘ rest := Multiset.mem_cons_of_mem hl
      exact (getElem?_append_mark (hk.held_lt hm) false).trans (hk.held l hm).1 |>.symm ▸ ⟨rfl, (hk.held l hm).2⟩
  · -- the new launch is held by no other call, since every held one is recorded before it
    have hc := hk.single l
    rw [Multiset.count_cons] at hc ⊢
    rcases hπ' with rfl | rfl
    · simpa using hc
    · by_cases hl : l = s.killed.length
      · subst hl
        have h0 : Multiset.count (Hand.holding s.killed.length) rest = 0 := Multiset.count_eq_zero.2 fun hm =>
          Nat.lt_irrefl _ (hk.held_lt (Multiset.mem_cons_of_mem hm))
        simp [h0]
      · simpa [hl, Ne.symm hl] using hc
  · rw [hlt l (List.mem_of_mem_take (List.mem_of_getLast? hl))]
    exact hk.fired hs l hl
  · rw [hlt l hl]
    exact hk.alive l hl hn

theorem store (hk : Kept s (.holding l ::ₘ rest) gs k) :
    Kept { s with kill := some l } (.free ::ₘ rest) (gs ++ [l])
      (if s.stopped then k else (gs ++ [l]).length) := by
  obtain ⟨hl, hng⟩ := hk.held l (Multiset.mem_cons_self _ _)
  have hlt := (List.getElem?_eq_some_iff.1 hl).1
  have hk₁ := hk.count.1
  refine ⟨List.nodup_append.2 ⟨hk.nodup, List.nodup_singleton l, fun a ha b hb => ?_⟩, fun l' hl' => ?_,
    fun l' hl' => ?_, fun l' => ?_, ?_, ?_, fun hs l' hl' => ?_, fun l' hl' hn => ?_⟩
  · rw [List.mem_singleton.1 hb]
    exact fun he => hng (he ▸ ha)
  · rcases List.mem_append.1 hl' with hl' | hl'
    · exact hk.given l' hl'
    · rw [List.mem_singleton.1 hl']
      exact hlt
  · -- another call holds another launch, given to no one
    have hr : Hand.holding l' ∈ rest := (Multiset.mem_cons.1 hl').resolve_left (by simp)
    have hm : Hand.holding l' ∈ Hand.holding l ::ₘ rest := Multiset.mem_cons_of_mem hr
    have hne : l' ≠ l := by
      rintro rfl
      have hc := hk.single l'
      rw [Multiset.count_cons_self] at hc
      have := Multiset.count_pos.2 hr
      omega
    refine ⟨(hk.held l' hm).1, fun hg => ?_⟩
    rcases List.mem_append.1 hg with hg | hg
    · exact (hk.held l' hm).2 hg
    · exact hne (List.mem_singleton.1 hg)
  · have hc := hk.single l'
    rw [Multiset.count_cons] at hc ⊢
    simp only [reduceCtorEq, if_false, Nat.add_zero]
    exact Nat.le_trans (Nat.le_add_right _ _) hc
  · cases hs : s.stopped
    · simp
    · simp only [if_true]
      exact ⟨by simp; omega, by simp⟩
  · cases hs : s.stopped
    · simp
    · simp [List.drop_append_of_le_length hk₁]
  · have hs : s.stopped = true := hs
    simp only [hs, if_true] at hl'
    rw [List.take_append_of_le_length hk₁] at hl'
    exact hk.fired hs l' hl'
  · rcases List.mem_append.1 hl' with hl' | hl'
    · refine hk.alive l' hl' fun hs => ?_
      have h := hn hs
      simp only [hs, if_true] at h
      rwa [List.take_append_of_le_length hk₁] at h
    · rw [List.mem_singleton.1 hl']
      exact hl

theorem stop (hk : Kept s (.free ::ₘ rest) gs k) (hs : s.stopped = false) :
    Kept ⟨true, none, s.fire⟩ (.free ::ₘ rest) gs k := by
  have hkk := hk.count.2 hs
  have hkill : s.kill = gs.getLast? := by simpa [hs] using hk.holds
  have hlen : s.fire.length = s.killed.length := by
    unfold fire
    split <;> simp
  -- every mark but that of the launch whose switch is held stays as it was
  have hother : ∀ l, s.kill ≠ some l → s.fire[l]? = s.killed[l]? := by
    intro l hl
    unfold fire
    split
    · rename_i m hm
      have hne : m ≠ l := fun he => hl (by rw [hm, he])
      rw [List.getElem?_set_ne hne]
    · rfl
  refine ⟨hk.nodup, fun l hl => hlen ▸ hk.given l hl, fun l hl => ?_, hk.single, ⟨hk.count.1, by simp⟩,
    by simp [hkk], fun _ l hl => ?_, fun l hl hn => ?_⟩
  · obtain ⟨hf, hng⟩ := hk.held l hl
    rw [hother l fun he => hng (hk.kill_mem he)]
    exact ⟨hf, hng⟩
  · rw [hkk, List.take_length, ← hkill] at hl
    have hl : s.kill = some l := hl
    simp [fire, hl, hk.given l (hk.kill_mem hl)]
  · rw [hkk, List.take_length] at hn
    rw [hother l (by rw [hkill]; exact hn rfl)]
    exact hk.alive l hl (by simp [hs])

theorem move {t : Switch} {π' : Hand} {o : Option Nat} {σ : List Hand} (hk : Kept s (π ::ₘ rest) gs k)
    (hm : Move π s t π' o) (hσ : ∀ x ∈ σ, x = .free) :
    Kept t (π' ::ₘ (rest + ↑σ)) (gs ++ o.toList) (if t.stopped then k else (gs ++ o.toList).length) := by
  -- the tasks started hold nothing, so they change nothing kept
  have hfree : ∀ {t' : Switch} {π'' : Hand} {gs' : List Nat} {k' : Nat}, Kept t' (π'' ::ₘ rest) gs' k' →
      Kept t' (π'' ::ₘ (rest + ↑σ)) gs' k' := by
    intro t' π'' gs' k' h
    have hσh : ∀ l, Hand.holding l ∉ (↑σ : Multiset Hand) := fun l hl => by
      simpa using hσ _ (Multiset.mem_coe.1 hl)
    refine ⟨h.nodup, h.given, fun l hl => ?_, fun l => ?_, h.count, h.holds, h.fired, h.alive⟩
    · rw [← Multiset.cons_add, Multiset.mem_add] at hl
      exact h.held l (hl.resolve_right (hσh l))
    · rw [← Multiset.cons_add, Multiset.count_add, Multiset.count_eq_zero.2 (hσh l), Nat.add_zero]
      exact h.single l
  apply hfree
  -- a leg that gives the handle nothing keeps the count of launches given before the stop
  cases hm with
  | idle =>
    simp only [Option.toList_none, List.append_nil, hk.count_eq]
    exact hk
  | unstarted =>
    simp only [Option.toList_none, List.append_nil, hk.count_eq]
    exact hk.record .free (.inl rfl) rfl
  | start =>
    simp only [Option.toList_none, List.append_nil, hk.count_eq]
    exact hk.record _ (.inr rfl) rfl
  | store l => exact hk.store
  | stop _ hs =>
    simp only [Option.toList_none, List.append_nil, if_true]
    exact hk.stop hs

theorem untouched (hk : Kept s hands gs k) :
    ∀ l ∈ (gs.take k).dropLast ++ gs.drop k, s.killed[l]? = some false := by
  intro l hl
  refine hk.alive l ?_ fun _ hlast => ?_
  · rcases List.mem_append.1 hl with hl | hl
    · exact List.mem_of_mem_take (List.mem_of_mem_dropLast hl)
    · exact List.mem_of_mem_drop hl
  -- the launches given are distinct, so the one fired is neither given earlier nor after
  have hnd := hk.nodup
  rw [← List.take_append_drop k gs, List.nodup_append] at hnd
  obtain ⟨htake, -, hdis⟩ := hnd
  rcases List.mem_append.1 hl with hl | hl
  · rw [← List.dropLast_append_getLast? l hlast, List.nodup_append] at htake
    exact htake.2.2 l hl l (List.mem_singleton_self l) rfl
  · exact hdis l (List.mem_of_getLast? hlast) l hl rfl

end Kept

theorem Reach.kept {s : Switch} {hands : Multiset Hand} {gs : List Nat} {k : Nat} (hr : Reach s hands gs k) :
    Kept s hands gs k := by
  induction hr with
  | init ks hands hf => exact .init ks hands hf
  | move _ hm hσ ih => exact ih.move hm hσ

end Switch

namespace World

theorem switch_setChannel (w : World) (i j : Nat) (f : EventChannel → EventChannel) :
    (w.setChannel j f).switch i = w.switch i := rfl

theorem switch_setLaunch (w : World) (i l : Nat) (f : Launch → Launch) :
    (w.setLaunch l f).switch i = { w.switch i with killed := (update w.launches l f).map (·.killed) } := rfl

theorem switch_setWorker {f : Worker → Worker} (hf : ∀ k, (f k).stopped = k.stopped ∧ (f k).kill = k.kill)
    (w : World) (i j : Nat) : (w.setWorker j f).switch i = w.switch i := by
  simp only [switch, worker_setWorker]
  split
  · rw [(hf _).1, (hf _).2]
    rfl
  · rfl

theorem lt_length_of_hasLauncher {w : World} {i : Nat} (h : (w.worker i).hasLauncher = true) :
    i < w.workers.length := by
  refine Nat.lt_of_not_le fun hi => ?_
  rw [worker, List.getElem?_eq_none hi] at h
  cases h

theorem switch_addLaunch (w : World) (i : Nat) {x : Launch} (hx : x.killed = false) :
    switch { w with launches := w.launches ++ [x] } i = { w.switch i with killed := (w.switch i).killed ++ [false] } := by
  simp [switch, worker, hx]

theorem killed_update (xs : List Launch) (l : Nat) :
    (update xs l fun x => { x with killed := true }).map (·.killed) = (xs.map (·.killed)).set l true := by
  unfold update
  cases h : xs[l]? with
  | none =>
    have hl : xs.length ≤ l := List.getElem?_eq_none_iff.1 h
    rw [List.set_eq_of_length_le (by simpa using hl)]
  | some x => simp [List.map_set]

end World

namespace Worker

/-- What a stop keeps of every worker but its own, and of its own until its end: the kill switch
and how many workers there are. -/
abbrev KeepsSwitch (x : Act α) (i : Nat) : Prop := ∀ s n, Keeps x fun t => t.switch i = s ∧ t.workers.length = n

theorem setWorker_keeps_switch {f : Worker → Worker} (hf : ∀ k, (f k).stopped = k.stopped ∧ (f k).kill = k.kill)
    (i j : Nat) : KeepsSwitch (Async.modify fun w => w.setWorker j f) i :=
  fun _ _ => .modify fun t h => ⟨(World.switch_setWorker hf t i j).trans h.1, (World.length_update j _ _).trans h.2⟩

theorem notifyShutdown_keeps_switch (i j : Nat) : KeepsSwitch (notifyShutdown j) i :=
  fun s n => .bind (setWorker_keeps_switch (f := fun k => { k with shutdown := true }) (fun _ => ⟨rfl, rfl⟩) i j s n)
    fun _ => .signal _

theorem emitDisconnected_keeps_switch (i j : Nat) (e : Option Error) : KeepsSwitch (emitDisconnected j e) i := by
  intro s n
  unfold emitDisconnected emit
  refine .bind (.reads _) fun already => ?_
  split
  · refine .bind (setWorker_keeps_switch (f := fun k => { k with disconnected := true }) (fun _ => ⟨rfl, rfl⟩) i j s n)
      fun _ => .bind (.reads _) fun listening => ?_
    split
    · exact .bind (.modify fun t h => h) fun _ => .signal _
    · exact .pure' ()
  · exact .pure' ()

theorem begin_appends (w : World) (info : StartInfo) :
    Stretch (Launch.begin info) w fun r t _ => ∃ x : Launch, x.killed = false ∧
      t = { w with launches := w.launches ++ [x] } ∧ ∀ l pid, r = .ok (l, pid) → l = w.launches.length := by
  unfold Launch.begin
  refine .bind (.reads ?_)
  split
  · -- a program on the machine: it fails to start, or starts and may live a course of its own
    unfold Launch.spawn
    refine .bind (.read ?_)
    split
    · exact .bind (.write (.pure' ⟨_, rfl, rfl, by simp⟩))
    · refine .bind (.write ?_)
      split
      · exact .bind (.fork (.pure' ⟨_, rfl, rfl, by simp⟩))
      · exact .pure' ⟨_, rfl, rfl, by simp⟩
  · -- a scripted host, which fails to start when its script says so
    unfold Launch.start
    refine .change ?_
    dsimp only
    split
    · exact ⟨_, rfl, rfl, by simp⟩
    · exact ⟨_, rfl, rfl, by simp⟩

/-- The calls on worker `i`'s handle at their positions: a leg, from a state where the worker is
there, keeps it there and moves its switch as a call at that position may, and the tasks it
starts hold nothing. -/
abbrev killThreads (i : Nat) : Threads conductor where
  Pc := Hand
  leg π (s t : World) π' σ :=
    i < s.workers.length → i < t.workers.length ∧ (∃ os, Switch.Moves π (s.switch i) (t.switch i) π' os) ∧
      ∀ x ∈ σ, x = .free
  final π := π = .free
  job _ π := π = .free
  leg_refl π _ := fun hi => ⟨hi, ⟨[], .refl π _⟩, by simp⟩
  leg_trans h₁ h₂ := fun hi =>
    let ⟨hi', ⟨_, m₁⟩, hσ₁⟩ := h₁ hi
    let ⟨hi'', ⟨_, m₂⟩, hσ₂⟩ := h₂ hi'
    ⟨hi'', ⟨_, m₁.trans m₂⟩, fun x hx => (List.mem_append.1 hx).elim (hσ₁ x) (hσ₂ x)⟩

variable {i : Nat}

theorem kill_leg {π π' : Hand} {s t : World} {o : Option Nat} {σ : List Hand}
    (hlen : t.workers.length = s.workers.length) (hm : i < s.workers.length → Switch.Move π (s.switch i) (t.switch i) π' o)
    (hσ : ∀ x ∈ σ, x = .free) : (killThreads i).leg π s t π' σ :=
  fun hi => ⟨hlen ▸ hi, ⟨_, .single (hm hi)⟩, hσ⟩

theorem jobs_free (js : List Job) : List.Forall₂ (killThreads i).job js (js.map fun _ => Hand.free) :=
  List.forall₂_map_right_iff.2 (List.forall₂_same.2 fun _ _ => rfl)

theorem jobs_hold_nothing (js : List Job) : ∀ x ∈ ([] : List Hand) ++ js.map fun _ => Hand.free, x = .free := by
  intro x hx
  rw [List.nil_append, List.mem_map] at hx
  obtain ⟨_, _, rfl⟩ := hx
  rfl

theorem switch_setKill (w : World) (hi : i < w.workers.length) (l : Nat) :
    (w.setWorker i fun k => { k with kill := some l }).switch i = { w.switch i with kill := some l } := by
  simp only [World.switch, World.worker_setWorker, hi, and_self, if_true]
  rfl

variable (i)

theorem store_plays (l pid : Nat) :
    (killThreads i).Does (do
      Async.modify fun w => w.setWorker i fun k => { k with kill := some l }
      Async.fork (.exitWatch i l)
      return (Except.ok pid : Except Error Nat)) (.holding l) fun _ π' => π' = .free := fun s =>
  .stretch (.bind (.modify (.bind (.fork (.pure' ⟨[.free], .cons rfl .nil, .free,
    kill_leg (World.length_update i _ _) (fun hi => by rw [switch_setKill s hi]; exact .store l _) (by simp), rfl⟩)))))

theorem held_plays (l pid : Nat) :
    (killThreads i).Does (do
      Async.interleave
      Async.modify fun w => w.setWorker i fun k => { k with processId := some pid }
      Async.interleave
      Async.modify fun w => w.setWorker i fun k => { k with kill := some l }
      Async.fork (.exitWatch i l)
      return (Except.ok pid : Except Error Nat)) (.holding l) fun _ π' => π' = .free := by
  -- storing the process id leaves the switch alone
  have hpid : (killThreads i).Does (do
      Async.modify fun w => w.setWorker i fun k => { k with processId := some pid }
      Async.interleave
      Async.modify fun w => w.setWorker i fun k => { k with kill := some l }
      Async.fork (.exitWatch i l)
      return (Except.ok pid : Except Error Nat)) (.holding l) fun _ π' => π' = .free := by
    intro (s : World)
    have hleg : (killThreads i).leg (.holding l) s (s.setWorker i fun k => { k with processId := some pid })
        (.holding l) [] := fun hi => ⟨(World.length_update i _ _).symm ▸ hi, ⟨[], by
          rw [World.switch_setWorker (f := fun k => { k with processId := some pid }) (fun _ => ⟨rfl, rfl⟩)]
          exact .refl _ _⟩, by simp⟩
    exact .atOnce (.modify (.sleep_bind (.of_does hleg (store_plays i l pid)) hleg
      fun s' => store_plays i l pid s'))
  intro s
  exact .sleep_bind (hpid s) ((killThreads i).leg_refl _ s) fun s' => hpid s'

/-- A launch from a position holding nothing: refused at once, or it checks, then after waiting
for the launcher records a process, which fails to start or is held until the call gives the
handle its switch, stopped or not. -/
theorem launch_plays (info : StartInfo) : (killThreads i).Does (launch i info) .free fun _ π' => π' = .free := by
  -- the launcher's answer, whatever the launch goes on with: a process that started is held
  have hbegin : ∀ k : Except Error (Nat × Nat) → Act (Except Error Nat),
      (∀ e, k (.error e) = pure (.error e)) →
      (∀ l pid, (killThreads i).Does (k (.ok (l, pid))) (.holding l) fun _ π' => π' = .free) →
      (killThreads i).Does (Launch.begin info >>= k) .free fun _ π' => π' = .free := by
    intro k hk₁ hk₂ s
    refine .seq ((begin_appends s info).mono fun r t js h => ?_)
    obtain ⟨x, hx, rfl, hr⟩ := h
    refine ⟨js.map fun _ => .free, jobs_free js, ?_⟩
    have hlen : ({ s with launches := s.launches ++ [x] } : World).workers.length = s.workers.length := rfl
    cases r with
    | error e =>
      rw [hk₁]
      exact .pure' (kill_leg hlen (fun _ => by rw [World.switch_addLaunch s i hx]; exact .unstarted _)
        (jobs_hold_nothing js)) rfl
    | ok lp =>
      obtain ⟨l, pid⟩ := lp
      obtain rfl := hr l pid rfl
      refine .of_does (kill_leg hlen (fun _ => by rw [World.switch_addLaunch s i hx]; exact .start _)
        (jobs_hold_nothing js)) ?_
      simpa [World.switch] using hk₂ s.launches.length pid
  intro s
  unfold launch
  refine .atOnce (.reads ?_)
  split
  · exact .pure' ((killThreads i).leg_refl _ s) rfl
  split
  · exact .pure' ((killThreads i).leg_refl _ s) rfl
  exact .sleep_bind (hbegin _ (fun _ => rfl) (held_plays i) s) ((killThreads i).leg_refl _ s)
    (hbegin _ (fun _ => rfl) (held_plays i))

theorem stopIdle_keeps_switch (i j : Nat) (c : Bool) :
    KeepsSwitch (if c = true then do
        Async.modify fun (w : World) => w.setWorker j fun k => { k with phase := .stopped }
        emitDisconnected j none
      else pure ()) i := by
  intro s n
  split
  · exact .bind (setWorker_keeps_switch (f := fun k => { k with phase := .stopped }) (fun _ => ⟨rfl, rfl⟩) i j s n)
      fun _ => emitDisconnected_keeps_switch i j none s n
  · exact .pure' ()

theorem stop_fires (w : World) (i : Nat) (hi : i < w.workers.length) :
    AtOnce (stop i) w fun _ t => t.workers.length = w.workers.length ∧
      t.switch i = if (w.worker i).stopped then w.switch i else ⟨true, none, (w.switch i).fire⟩ := by
  unfold stop
  refine .bind (.reads ?_)
  split
  · rename_i hs
    have hs : (w.worker i).stopped = false := by simpa using hs
    rw [if_neg (show ¬(w.worker i).stopped = true by simp [hs])]
    refine .bind (.modify ?_)
    have hm : World.switch (w.setWorker i fun k => { k with stopped := true, kill := none }) i =
        ⟨true, none, (w.switch i).killed⟩ := by
      simp only [World.switch, World.worker_setWorker, hi, and_self, if_true]
      rfl
    refine .bind ((notifyShutdown_keeps_switch i i _ _ _ ⟨hm, World.length_update i _ _⟩).mono fun _ (t : World) ht => ?_)
    have hks : t.launches.map (·.killed) = (w.switch i).killed := congrArg Switch.killed ht.1
    dsimp only
    split
    · -- the switch held is fired
      rename_i l hk
      have hf : World.switch (t.setLaunch l fun x => { x with killed := true }) i = ⟨true, none, (w.switch i).fire⟩ := by
        rw [World.switch_setLaunch, World.killed_update, ht.1, hks]
        simp [Switch.fire, World.switch, hk]
      exact .bind (.modify ((stopIdle_keeps_switch i i _ _ _ _ ⟨hf, ht.2⟩).mono fun _ _ h => h.symm))
    · -- none is held
      rename_i hk
      have hk : (w.worker i).kill = none := Option.eq_none_iff_forall_ne_some.2 fun l h => hk l h
      have hf : t.switch i = ⟨true, none, (w.switch i).fire⟩ := by
        rw [ht.1]
        simp [Switch.fire, World.switch, hk]
      exact (stopIdle_keeps_switch i i _ _ _ _ ⟨hf, ht.2⟩).mono fun _ _ h => h.symm
  · rename_i hs
    exact .pure' (by simp_all)

theorem stop_plays : (killThreads i).Does (stop i) .free fun _ π' => π' = .free := by
  refine Threads.Does.of_atOnce fun s => ?_
  by_cases hi : i < s.workers.length
  · refine (stop_fires s i hi).mono fun _ t ⟨hlen, ht⟩ => ⟨.free, kill_leg (o := none) hlen (fun _ => ?_) (by simp), rfl⟩
    rw [ht]
    cases hs : (s.worker i).stopped
    · exact .stop (s.switch i) hs
    · exact .idle .free (s.switch i)
  · -- past the last worker, a leg asks nothing
    exact (stop_stops s i).mono fun _ _ _ => ⟨.free, fun h => absurd h hi, rfl⟩

variable {i}

theorem switch_legs_reach {s₀ t : World} {M₀ M : Multiset Hand} (hlegs : (killThreads i).Legs s₀ M₀ t M)
    (hi : i < s₀.workers.length) (hs : (s₀.worker i).stopped = false) (hk : (s₀.worker i).kill = none)
    (hf : ∀ π ∈ M₀, π = .free) : ∃ gs k, Switch.Reach (t.switch i) M gs k := by
  have h₀ : Switch.Reach (s₀.switch i) M₀ [] 0 := by
    have : s₀.switch i = ⟨false, none, (s₀.switch i).killed⟩ := by simp [World.switch, hs, hk]
    rw [this]
    exact .init _ M₀ hf
  -- each leg is a run of moves of one call, and the tasks it starts hold nothing
  have hstep : ∀ {s t : World} {π π' : Hand} {N : Multiset Hand} {σ : List Hand},
      (i < s.workers.length ∧ ∃ gs k, Switch.Reach (s.switch i) (π ::ₘ N) gs k) → (killThreads i).leg π s t π' σ →
      i < t.workers.length ∧ ∃ gs k, Switch.Reach (t.switch i) (π' ::ₘ (N + ↑σ)) gs k := by
    intro s t π π' N σ ⟨hi', gs, k, hr⟩ hl
    obtain ⟨hi'', ⟨os, hm⟩, hσ⟩ := hl hi'
    obtain ⟨k', hr'⟩ := hr.moves hm
    obtain ⟨k'', hr''⟩ := hr'.fork hσ
    exact ⟨hi'', _, _, hr''⟩
  obtain ⟨-, gs, k, hr⟩ := Threads.Legs.keep (P := fun (s : World) M => i < s.workers.length ∧
    ∃ gs k, Switch.Reach (s.switch i) M gs k) hstep hlegs ⟨hi, [], 0, h₀⟩
  exact ⟨gs, k, hr⟩

variable (i)

/-- A stop fires the kill switch of the last launch given to the handle before it, and no other.
A launch checks the handle, awaits the launcher and stores the switch in legs of its own; a stop
is one leg. Through legs of such calls in any order, from a handle not stopped and holding no
switch, the launches given to the handle, in the order given, are distinct; once it is stopped,
the last given before the stop is killed, every other one given before it is left running, and
every one given after it, its check having come before the stop, is left running too, the handle
holding the switch of the last of them, never to fire it. -/
theorem stop_kills_latest_launch_only :
    (∀ info, (killThreads i).Does (launch i info) .free fun _ π' => π' = .free) ∧
    (killThreads i).Does (stop i) .free (fun _ π' => π' = .free) ∧
    ∀ {s₀ t : World} {M₀ M : Multiset Hand}, i < s₀.workers.length → (s₀.worker i).stopped = false →
      (s₀.worker i).kill = none → (∀ π ∈ M₀, π = .free) → (killThreads i).Legs s₀ M₀ t M →
      ∃ gs k, Switch.Reach (t.switch i) M gs k ∧ gs.Nodup ∧ ((t.worker i).stopped = true →
        (t.worker i).kill = (gs.drop k).getLast? ∧
        (∀ l ∈ (gs.take k).getLast?, (t.switch i).killed[l]? = some true) ∧
        (∀ l ∈ (gs.take k).dropLast ++ gs.drop k, (t.switch i).killed[l]? = some false)) := by
  refine ⟨launch_plays i, stop_plays i, ?_⟩
  intro s₀ t M₀ M hi hs hk hf hlegs
  obtain ⟨gs, k, hr⟩ := switch_legs_reach hlegs hi hs hk hf
  have hkept := hr.kept
  refine ⟨gs, k, hr, hkept.nodup, fun hst => ?_⟩
  have hst' : (t.switch i).stopped = true := hst
  exact ⟨by simpa [World.switch, hst] using hkept.holds, hkept.fired hst', hkept.untouched⟩

def raceStart : World := { workers := [Worker.new "w" 0 true] }

def raceBegun : World := { raceStart with launches := [default] }

def raceStopped : World := raceBegun.setWorker 0 fun k => { k with stopped := true, kill := none }

def raceStored : World := raceStopped.setWorker 0 fun k => { k with kill := some 0 }

/-- A stop that lands while a launch awaits its locks finds no switch to fire; the launch then
gives the stopped handle its switch, which no stop will fire, and its process runs on: the launch
whose switch the handle holds was given after the stop. -/
theorem stopMidLaunch_orphans :
    ∃ M, (killThreads 0).Legs raceStart {.free, .free} raceStored M ∧ (raceStored.worker 0).stopped = true ∧
      (raceStored.worker 0).kill = some 0 ∧ raceStored.launches.map (·.killed) = [false] ∧
      ∃ gs k, Switch.Reach (raceStored.switch 0) M gs k ∧ 0 ∈ gs.drop k := by
  -- the launch starts its process, the stop lands, the launch stores the switch
  have h₁ : (killThreads 0).Legs raceStart {.free, .free} raceBegun (.holding 0 ::ₘ ({.free} + ↑([] : List Hand))) :=
    .leg (.refl : (killThreads 0).Legs raceStart {.free, .free} raceStart (.free ::ₘ {.free}))
      (kill_leg rfl (fun _ => .start (raceStart.switch 0)) (by simp))
  have e₁ : (Hand.holding 0 ::ₘ ({.free} + ↑([] : List Hand))) = .free ::ₘ {.holding 0} := by decide
  rw [e₁] at h₁
  have h₂ : (killThreads 0).Legs raceStart {.free, .free} raceStopped (.free ::ₘ ({.holding 0} + ↑([] : List Hand))) :=
    .leg h₁ (kill_leg rfl (fun _ => .stop (raceBegun.switch 0) rfl) (by simp))
  have e₂ : (Hand.free ::ₘ ({.holding 0} + ↑([] : List Hand))) = .holding 0 ::ₘ {.free} := by decide
  rw [e₂] at h₂
  have h₃ : (killThreads 0).Legs raceStart {.free, .free} raceStored (.free ::ₘ ({.free} + ↑[Hand.free])) :=
    .leg h₂ (kill_leg rfl (fun _ => .store 0 (raceStopped.switch 0)) (by simp))
  obtain ⟨gs, k, hr, -, hst⟩ := (stop_kills_latest_launch_only 0).2.2 (by decide) rfl rfl (by simp) h₃
  have hkill : (raceStored.worker 0).kill = some 0 := rfl
  refine ⟨_, h₃, rfl, hkill, rfl, gs, k, hr, List.mem_of_getLast? ?_⟩
  rw [← (hst rfl).1, hkill]

end Worker

end TestConductor
