import TestConductor.Proofs.Runtime.Calls
/-! # Programs that keep a property at every step

A task that waits lets the other tasks run between its steps, so what it keeps is said of each
step on its own: `Prog.Guards P J p` says that every step of `p` taken in a state satisfying `P`
leaves one that does, and that every task `p` starts is a job of `J`. Since the property is kept
by each step on its own, it does not matter how the steps of the tasks interleave.
-/
namespace TestConductor

variable {S : Sig} {α β : Type}

/-- Every step of `p` from a state satisfying `P` leaves one that does, and every task it starts is
a job of `J`. -/
inductive Prog.Guards (P : S.State → Prop) (J : S.Job → Prop) : Prog S → Prop where
  | finish (r : S.Result) : Guards P J (.finish r)
  | panic (m : String) : Guards P J (.panic m)
  | step {f : S.State → S.State × Prog S} (hp : ∀ s, P s → P (f s).1) (h : ∀ s, P s → Guards P J (f s).2) :
      Guards P J (.step f)
  | clock {k : Nat → Prog S} (h : ∀ n, Guards P J (k n)) : Guards P J (.clock k)
  | spawn {j : S.Job} {k : Nat → Prog S} (hj : J j) (h : ∀ n, Guards P J (k n)) : Guards P J (.spawn j k)
  | join {t : Nat} {k : TaskEnd S.Result → Prog S} (h : ∀ e, Guards P J (k e)) : Guards P J (.join t k)
  | await {events : List S.Event} {deadline : Option Nat} {attempt : S.State → Option (S.State × Prog S)}
      {timeout : Prog S} (hp : ∀ s s' q, P s → attempt s = some (s', q) → P s')
      (h : ∀ s s' q, P s → attempt s = some (s', q) → Guards P J q) (ht : Guards P J timeout) :
      Guards P J (.await events deadline attempt timeout)
  | signal {e : S.Event} {k : Prog S} (h : Guards P J k) : Guards P J (.signal e k)

def Async.Guards (P : S.State → Prop) (J : S.Job → Prop) (x : Async S α) : Prop :=
  ∀ k : α → Prog S, (∀ a, Prog.Guards P J (k a)) → Prog.Guards P J (x k)

namespace Async.Guards

variable {P : S.State → Prop} {J : S.Job → Prop}

theorem pure' (a : α) : Guards P J (pure a : Async S α) := fun _ hk => hk a

theorem bind {x : Async S α} {f : α → Async S β} (hx : Guards P J x) (hf : ∀ a, Guards P J (f a)) :
    Guards P J (x >>= f) :=
  fun k hk => hx _ fun a => hf a k hk

theorem discard {x : Async S α} (hx : Guards P J x) : Guards P J (Functor.discard x) :=
  fun _ hk => hx _ fun _ => hk ()

/- A read's answer comes from a state satisfying `P`, so what follows need only guard `P` for
such answers. -/

theorem read_bind {f : S.State → Async S β} (hf : ∀ s, P s → Guards P J (f s)) :
    Guards P J (Async.read >>= f) :=
  fun k hk => .step (fun _ hs => hs) fun s hs => hf s hs k hk

theorem reads_bind {g : S.State → α} {f : α → Async S β} (hf : ∀ s, P s → Guards P J (f (g s))) :
    Guards P J (Async.reads g >>= f) :=
  fun k hk => .step (fun _ hs => hs) fun s hs => hf s hs k hk

theorem reads (g : S.State → α) : Guards P J (Async.reads g) :=
  fun _ hk => .step (fun _ hs => hs) fun s _ => hk (g s)

theorem change_bind {g : S.State → α × S.State} {f : α → Async S β}
    (hf : ∀ s, P s → P (g s).2 ∧ Guards P J (f (g s).1)) : Guards P J (Async.change g >>= f) :=
  fun k hk => .step (fun s hs => (hf s hs).1) fun s hs => (hf s hs).2 k hk

theorem change {g : S.State → α × S.State} (hg : ∀ s, P s → P (g s).2) : Guards P J (Async.change g) :=
  fun _ hk => .step hg fun s _ => hk (g s).1

theorem modify {g : S.State → S.State} (hg : ∀ s, P s → P (g s)) : Guards P J (Async.modify g) :=
  fun _ hk => .step hg fun _ _ => hk ()

theorem write {t : S.State} (ht : P t) : Guards P J (Async.write t) :=
  fun _ hk => .step (fun _ _ => ht) fun _ _ => hk ()

theorem signal (e : S.Event) : Guards P J (Async.signal e) := fun _ hk => .signal (hk ())

theorem fork {j : S.Job} (hj : J j) : Guards P J (Async.fork j) := fun _ hk => .spawn hj fun _ => hk ()

theorem spawn {j : S.Job} (hj : J j) : Guards P J (Async.spawn j) := fun _ hk => .spawn hj hk

theorem join (t : Nat) : Guards P J (Async.join t : Async S (TaskEnd S.Result)) := fun _ hk => .join hk

theorem panic (m : String) : Guards P J (Async.panic m : Async S α) := fun _ _ => .panic m

theorem wait_bind {events : List S.Event} {attempt : S.State → Option (S.State × α)} {f : α → Async S β}
    (hf : ∀ s s' a, P s → attempt s = some (s', a) → P s' ∧ Guards P J (f a)) :
    Guards P J (Async.wait events attempt >>= f) := by
  intro k hk
  -- the waiting ends with what the attempt gives, and then the rest runs
  have hend : ∀ s s' q, P s → ((attempt s).map fun p => (p.1, f p.2 k)) = some (s', q) →
      P s' ∧ Prog.Guards P J q := by
    intro s s' q hs ha
    obtain ⟨⟨s₁, a⟩, h, he⟩ := Option.map_eq_some_iff.1 ha
    obtain ⟨rfl, rfl⟩ := Prod.mk.inj he
    exact ⟨(hf s s₁ a hs h).1, (hf s s₁ a hs h).2 k hk⟩
  exact .await (fun s s' q hs ha => (hend s s' q hs ha).1) (fun s s' q hs ha => (hend s s' q hs ha).2) (.panic _)

theorem waitWithin_bind {events : List S.Event} {nanos : Nat} {attempt : S.State → Option (S.State × α)}
    {f : Option α → Async S β} (hf : ∀ s s' a, P s → attempt s = some (s', a) → P s' ∧ Guards P J (f (some a)))
    (hn : Guards P J (f none)) : Guards P J (Async.waitWithin events nanos attempt >>= f) := by
  intro k hk
  have hend : ∀ s s' q, P s → ((attempt s).map fun p => (p.1, f (some p.2) k)) = some (s', q) →
      P s' ∧ Prog.Guards P J q := by
    intro s s' q hs ha
    obtain ⟨⟨s₁, a⟩, h, he⟩ := Option.map_eq_some_iff.1 ha
    obtain ⟨rfl, rfl⟩ := Prod.mk.inj he
    exact ⟨(hf s s₁ a hs h).1, (hf s s₁ a hs h).2 k hk⟩
  exact .clock fun _ => .await (fun s s' q hs ha => (hend s s' q hs ha).1)
    (fun s s' q hs ha => (hend s s' q hs ha).2) (hn k hk)

theorem sleep (nanos : Nat) : Guards P J (Async.sleep nanos : Async S Unit) :=
  fun _ hk => .clock fun _ => .await (fun _ _ _ _ ha => by simp at ha) (fun _ _ _ _ ha => by simp at ha) (hk ())

end Async.Guards

end TestConductor
