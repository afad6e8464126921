import TestConductor.Proofs.Runtime.Calls
import Mathlib.Data.List.Forall2
import Mathlib.Data.Multiset.AddSub
/-! # Tasks that hold a position

The executor runs a task alone until it waits, so no other task sees what a task does between two
waits half done: that stretch is a leg. A system of tasks is described by positions, what a task
holds that the others leave alone. `Threads` says what a leg from each position may do to the
state, at which position it leaves the task, at which positions a task may end, and where the
jobs it starts begin. A task plays a position (`Threads.Plays`) when each of its legs, from
whatever state the other tasks left, is one that `Threads` allows, and so is each leg after it.
-/
namespace TestConductor

variable {S : Sig} {α β : Type}

/-- Positions of tasks, and what a task at each may do between two waits. -/
structure Threads (S : Sig) where
  Pc : Type
  /-- A leg from position `π` in state `s` may end in state `t` at position `π'`, having started
  tasks at positions `σ`. -/
  leg : Pc → S.State → S.State → Pc → List Pc → Prop
  /-- A task may end at this position. -/
  final : Pc → Prop
  /-- A started job begins at this position. -/
  job : S.Job → Pc → Prop
  leg_refl (π : Pc) (s : S.State) : leg π s s π []
  leg_trans {π π' π'' : Pc} {s t u : S.State} {σ σ' : List Pc} :
    leg π s t π' σ → leg π' t u π'' σ' → leg π s u π'' (σ ++ σ')

namespace Threads

variable (T : Threads S)

/-- `T.Runs π₀ s₀ σ s p`: a task whose leg began at position `π₀` in state `s₀`, and has started
tasks at `σ` so far, is in state `s` about to run `p`. However the leg ends, it is one that `T`
allows, and where the task waits, every leg after the wait is allowed too. A join is taken for a
wait, whether or not the task it waits for has ended. -/
inductive Runs : T.Pc → S.State → List T.Pc → S.State → Prog S → Prop where
  | finish {π₀ : T.Pc} {s₀ s : S.State} {σ : List T.Pc} (r : S.Result) (π : T.Pc)
      (hl : T.leg π₀ s₀ s π σ) (hf : T.final π) : Runs π₀ s₀ σ s (.finish r)
  | panic {π₀ : T.Pc} {s₀ s : S.State} {σ : List T.Pc} (m : String) (π : T.Pc)
      (hl : T.leg π₀ s₀ s π σ) (hf : T.final π) : Runs π₀ s₀ σ s (.panic m)
  | step {π₀ : T.Pc} {s₀ s : S.State} {σ : List T.Pc} {f : S.State → S.State × Prog S}
      (h : Runs π₀ s₀ σ (f s).1 (f s).2) : Runs π₀ s₀ σ s (.step f)
  | clock {π₀ : T.Pc} {s₀ s : S.State} {σ : List T.Pc} {k : Nat → Prog S}
      (h : ∀ n, Runs π₀ s₀ σ s (k n)) : Runs π₀ s₀ σ s (.clock k)
  | spawn {π₀ : T.Pc} {s₀ s : S.State} {σ : List T.Pc} {j : S.Job} {k : Nat → Prog S} (π : T.Pc)
      (hj : T.job j π) (h : ∀ n, Runs π₀ s₀ (σ ++ [π]) s (k n)) : Runs π₀ s₀ σ s (.spawn j k)
  | join {π₀ : T.Pc} {s₀ s : S.State} {σ : List T.Pc} {t : Nat} {k : TaskEnd S.Result → Prog S}
      (π : T.Pc) (hl : T.leg π₀ s₀ s π σ) (h : ∀ e s', Runs π s' [] s' (k e)) :
      Runs π₀ s₀ σ s (.join t k)
  | await {π₀ : T.Pc} {s₀ s : S.State} {σ : List T.Pc} {events : List S.Event}
      {deadline : Option Nat} {attempt : S.State → Option (S.State × Prog S)} {timeout : Prog S}
      (hnow : ∀ s₁ q, attempt s = some (s₁, q) → Runs π₀ s₀ σ s₁ q)
      (hlate : deadline.isSome → attempt s = none → Runs π₀ s₀ σ s timeout) (π : T.Pc)
      (hl : attempt s = none → T.leg π₀ s₀ s π σ)
      (hres : attempt s = none → ∀ s' s₁ q, attempt s' = some (s₁, q) → Runs π s' [] s₁ q)
      (hout : attempt s = none → deadline.isSome → ∀ s', attempt s' = none → Runs π s' [] s' timeout) :
      Runs π₀ s₀ σ s (.await events deadline attempt timeout)
  | signal {π₀ : T.Pc} {s₀ s : S.State} {σ : List T.Pc} {e : S.Event} {k : Prog S}
      (h : Runs π₀ s₀ σ s k) : Runs π₀ s₀ σ s (.signal e k)

def Plays (π : T.Pc) (p : Prog S) : Prop := ∀ s, T.Runs π s [] s p

/-- The states and positions that legs of tasks lead to, one leg after another in any order: a
task at `π` runs an allowed leg and is then at `π'`, next to the tasks the leg started. A task
that ended stays at its last position. -/
inductive Legs (s₀ : S.State) (M₀ : Multiset T.Pc) : S.State → Multiset T.Pc → Prop where
  | refl : Legs s₀ M₀ s₀ M₀
  | leg {s t : S.State} {M : Multiset T.Pc} {π π' : T.Pc} {σ : List T.Pc}
      (h : Legs s₀ M₀ s (π ::ₘ M)) (hl : T.leg π s t π' σ) : Legs s₀ M₀ t (π' ::ₘ (M + ↑σ))

variable {T}

theorem Legs.keep {P : S.State → Multiset T.Pc → Prop}
    (hstep : ∀ {s t : S.State} {π π' : T.Pc} {M : Multiset T.Pc} {σ : List T.Pc},
      P s (π ::ₘ M) → T.leg π s t π' σ → P t (π' ::ₘ (M + ↑σ)))
    {s₀ t : S.State} {M₀ M : Multiset T.Pc} (h : T.Legs s₀ M₀ t M) (h₀ : P s₀ M₀) : P t M := by
  induction h with
  | refl => exact h₀
  | leg _ hl ih => exact hstep ih hl

theorem Runs.after {π₀ π : T.Pc} {s₀ s : S.State} {σ : List T.Pc} (hl : T.leg π₀ s₀ s π σ)
    {σ' : List T.Pc} {s₁ : S.State} {p : Prog S} (h : T.Runs π s σ' s₁ p) : T.Runs π₀ s₀ (σ ++ σ') s₁ p := by
  induction h with
  | finish r π' hl' hf => exact .finish r π' (T.leg_trans hl hl') hf
  | panic m π' hl' hf => exact .panic m π' (T.leg_trans hl hl') hf
  | step _ ih => exact .step (ih hl)
  | clock _ ih => exact .clock fun n => ih n hl
  | spawn π' hj _ ih =>
    refine .spawn π' hj fun n => ?_
    rw [List.append_assoc]
    exact ih n hl
  | join π' hl' h => exact .join π' (T.leg_trans hl hl') h
  | await _ _ π' hl' hres hout ihnow ihlate =>
    exact .await (fun s₁ q ha => ihnow s₁ q ha hl) (fun hd ha => ihlate hd ha hl) π'
      (fun ha => T.leg_trans hl (hl' ha)) hres hout
  | signal _ ih => exact .signal (ih hl)

theorem Plays.finish {π : T.Pc} (hf : T.final π) (r : S.Result) : T.Plays π (.finish r) :=
  fun s => .finish r π (T.leg_refl π s) hf

theorem Plays.runs {π₀ π : T.Pc} {s₀ s : S.State} {σ : List T.Pc} {p : Prog S} (hl : T.leg π₀ s₀ s π σ)
    (hp : T.Plays π p) : T.Runs π₀ s₀ σ s p := by
  simpa using Runs.after hl (hp s)

theorem Runs.of_stretch {p q : Prog S} {s t : S.State} {js : List S.Job} (h : Prog.Stretch p s q t js)
    {π₀ : T.Pc} {s₀ : S.State} {σ σj : List T.Pc} (hj : List.Forall₂ T.job js σj)
    (hq : T.Runs π₀ s₀ (σ ++ σj) t q) : T.Runs π₀ s₀ σ s p := by
  induction h generalizing σ σj with
  | refl =>
    cases hj
    simpa using hq
  | step _ ih => exact .step (ih hj hq)
  | signal _ ih => exact .signal (ih hj hq)
  | spawn _ ih =>
    obtain ⟨πj, σj', hjob, hj', rfl⟩ := List.forall₂_cons_left_iff.1 hj
    refine .spawn πj hjob fun n => ih n hj' ?_
    simpa using hq

/-! ## Programs still to be continued -/

variable (T)

/-- `x`, run in state `s` on a leg that began at `π` in state `s₀` and has started tasks at `σ`,
keeps to allowed legs up to its answer `a`, where it leaves the task at a position `π'` with
`Q a π'`: a continuation that plays that position goes on as allowed. -/
def DoesFrom (x : Async S α) (π : T.Pc) (s₀ : S.State) (σ : List T.Pc) (s : S.State) (Q : α → T.Pc → Prop) :
    Prop :=
  ∀ k : α → Prog S, (∀ a π', Q a π' → T.Plays π' (k a)) → T.Runs π s₀ σ s (x k)

def Does (x : Async S α) (π : T.Pc) (Q : α → T.Pc → Prop) : Prop := ∀ s, T.DoesFrom x π s [] s Q

variable {T}

namespace DoesFrom

variable {π : T.Pc} {s₀ s : S.State} {σ : List T.Pc}

theorem pure' {a : α} {Q : α → T.Pc → Prop} {π' : T.Pc} (hl : T.leg π s₀ s π' σ) (hq : Q a π') :
    T.DoesFrom (pure a : Async S α) π s₀ σ s Q :=
  fun _ hk => (hk a π' hq).runs hl

theorem stretch {x : Async S α} {Q : α → T.Pc → Prop}
    (h : Async.Stretch x s fun a t js => ∃ σj, List.Forall₂ T.job js σj ∧ ∃ π', T.leg π s₀ t π' (σ ++ σj) ∧ Q a π') :
    T.DoesFrom x π s₀ σ s Q := by
  intro k hk
  obtain ⟨a, t, js, hx, σj, hj, π', hl, hq⟩ := h
  exact Runs.of_stretch (hx k) hj ((hk a π' hq).runs hl)

theorem seq {x : Async S α} {f : α → Async S β} {R : β → T.Pc → Prop}
    (h : Async.Stretch x s fun a t js => ∃ σj, List.Forall₂ T.job js σj ∧ T.DoesFrom (f a) π s₀ (σ ++ σj) t R) :
    T.DoesFrom (x >>= f) π s₀ σ s R := by
  intro k hk
  obtain ⟨a, t, js, hx, σj, hj, hf⟩ := h
  exact Runs.of_stretch (hx fun a => f a k) hj (hf k hk)

theorem atOnce {x : Async S α} {f : α → Async S β} {R : β → T.Pc → Prop}
    (h : Async.AtOnce x s fun a t => T.DoesFrom (f a) π s₀ σ t R) : T.DoesFrom (x >>= f) π s₀ σ s R :=
  seq (.of_atOnce h fun _ _ hf => ⟨[], .nil, by simpa using hf⟩)

theorem sleep_bind {nanos : Nat} {f : Unit → Async S β} {R : β → T.Pc → Prop}
    (hlate : T.DoesFrom (f ()) π s₀ σ s R) {π' : T.Pc} (hl : T.leg π s₀ s π' σ)
    (hout : ∀ s', T.DoesFrom (f ()) π' s' [] s' R) : T.DoesFrom (Async.sleep nanos >>= f) π s₀ σ s R :=
  fun k hk => .clock fun _ => .await (fun _ _ h => by cases h) (fun _ _ => hlate k hk) π' (fun _ => hl)
    (fun _ _ _ _ h => by cases h) fun _ _ s' _ => hout s' k hk

theorem of_does {x : Async S α} {Q : α → T.Pc → Prop} {π' : T.Pc} (hl : T.leg π s₀ s π' σ)
    (hx : T.Does x π' Q) : T.DoesFrom x π s₀ σ s Q :=
  fun k hk => (show T.Plays π' (x k) from fun s' => hx s' k hk).runs hl

theorem bind {x : Async S α} {f : α → Async S β} {Q : α → T.Pc → Prop} {R : β → T.Pc → Prop}
    (hx : T.DoesFrom x π s₀ σ s Q) (hf : ∀ a π', Q a π' → T.Does (f a) π' R) : T.DoesFrom (x >>= f) π s₀ σ s R :=
  fun k hk => hx (fun a => f a k) fun a π' hq s' => hf a π' hq s' k hk

theorem wait_bind {events : List S.Event} {attempt : S.State → Option (S.State × α)} {f : α → Async S β}
    {R : β → T.Pc → Prop} (hnow : ∀ s₁ a, attempt s = some (s₁, a) → T.DoesFrom (f a) π s₀ σ s₁ R)
    {π' : T.Pc} (hl : attempt s = none → T.leg π s₀ s π' σ)
    (hres : attempt s = none → ∀ s' s₁ a, attempt s' = some (s₁, a) → T.DoesFrom (f a) π' s' [] s₁ R) :
    T.DoesFrom (Async.wait events attempt >>= f) π s₀ σ s R := by
  intro k hk
  -- the attempt of the wait hands its answer to the rest of the program
  have hcont : ∀ {w s₁ : S.State} {q : Prog S}, ((attempt w).map fun p => (p.1, f p.2 k)) = some (s₁, q) →
      ∃ a, attempt w = some (s₁, a) ∧ q = f a k := by
    intro w s₁ q ha
    obtain ⟨⟨s₂, a⟩, h, he⟩ := Option.map_eq_some_iff.1 ha
    cases he
    exact ⟨a, h, rfl⟩
  refine .await (fun s₁ q ha => ?_) (fun hd _ => absurd hd (by simp)) π' (fun ha => hl (by simpa using ha))
    (fun ha s' s₁ q ha' => ?_) fun _ hd => absurd hd (by simp)
  · obtain ⟨a, h, rfl⟩ := hcont ha
    exact hnow s₁ a h k hk
  · obtain ⟨a, h, rfl⟩ := hcont ha'
    exact hres (by simpa using ha) s' s₁ a h k hk

theorem waitWithin_bind {events : List S.Event} {nanos : Nat} {attempt : S.State → Option (S.State × α)}
    {f : Option α → Async S β} {R : β → T.Pc → Prop}
    (hnow : ∀ s₁ a, attempt s = some (s₁, a) → T.DoesFrom (f (some a)) π s₀ σ s₁ R)
    (hlate : attempt s = none → T.DoesFrom (f none) π s₀ σ s R) {π' : T.Pc}
    (hl : attempt s = none → T.leg π s₀ s π' σ)
    (hres : attempt s = none → ∀ s' s₁ a, attempt s' = some (s₁, a) → T.DoesFrom (f (some a)) π' s' [] s₁ R)
    (hout : attempt s = none → ∀ s', attempt s' = none → T.DoesFrom (f none) π' s' [] s' R) :
    T.DoesFrom (Async.waitWithin events nanos attempt >>= f) π s₀ σ s R := by
  intro k hk
  have hcont : ∀ {w s₁ : S.State} {q : Prog S},
      ((attempt w).map fun p => (p.1, f (some p.2) k)) = some (s₁, q) →
      ∃ a, attempt w = some (s₁, a) ∧ q = f (some a) k := by
    intro w s₁ q ha
    obtain ⟨⟨s₂, a⟩, h, he⟩ := Option.map_eq_some_iff.1 ha
    cases he
    exact ⟨a, h, rfl⟩
  refine .clock fun _ => .await (fun s₁ q ha => ?_) (fun _ ha => hlate (by simpa using ha) k hk) π'
    (fun ha => hl (by simpa using ha)) (fun ha s' s₁ q ha' => ?_)
    fun ha _ s' ha' => hout (by simpa using ha) s' (by simpa using ha') k hk
  · obtain ⟨a, h, rfl⟩ := hcont ha
    exact hnow s₁ a h k hk
  · obtain ⟨a, h, rfl⟩ := hcont ha'
    exact hres (by simpa using ha) s' s₁ a h k hk

end DoesFrom

namespace Does

variable {π : T.Pc}

theorem pure' {a : α} {Q : α → T.Pc → Prop} (hq : Q a π) : T.Does (pure a : Async S α) π Q :=
  fun s => .pure' (T.leg_refl π s) hq

theorem of_atOnce {x : Async S α} {Q : α → T.Pc → Prop}
    (h : ∀ s, Async.AtOnce x s fun a t => ∃ π', T.leg π s t π' [] ∧ Q a π') : T.Does x π Q :=
  fun s => .stretch (.of_atOnce (h s) fun _ _ ⟨π', hl, hq⟩ => ⟨[], .nil, π', hl, hq⟩)

theorem bind {x : Async S α} {f : α → Async S β} {Q : α → T.Pc → Prop} {R : β → T.Pc → Prop}
    (hx : T.Does x π Q) (hf : ∀ a π', Q a π' → T.Does (f a) π' R) : T.Does (x >>= f) π R :=
  fun s => (hx s).bind hf

theorem read_bind {f : S.State → Async S β} {R : β → T.Pc → Prop} (hf : ∀ s, T.DoesFrom (f s) π s [] s R) :
    T.Does (Async.read >>= f) π R :=
  fun s k hk => .step (hf s k hk)

theorem plays {x : Async S α} {Q : α → T.Pc → Prop} (hx : T.Does x π Q) {k : α → Prog S}
    (hk : ∀ a π', Q a π' → T.Plays π' (k a)) : T.Plays π (x k) :=
  fun s => hx s k hk

end Does

end Threads

end TestConductor
