import TestConductor.Runtime.Prog
/-! # Reading cooperative programs

Two readings of a task's program, for stating what the task does whatever the other tasks do
meanwhile.
-/
namespace TestConductor

variable {S : Sig} {α β : Type}

/-! ## Stretches that run at once -/

/-- `p`, started in state `s`, comes to `q` in state `t` without a break: only changes of the
state and signals stand between. -/
inductive Prog.Unbroken : Prog S → S.State → Prog S → S.State → Prop where
  | refl (p : Prog S) (s : S.State) : Unbroken p s p s
  | step {f : S.State → S.State × Prog S} {s : S.State} {q : Prog S} {t : S.State}
      (rest : Unbroken (f s).2 (f s).1 q t) : Unbroken (.step f) s q t
  | signal {e : S.Event} {k q : Prog S} {s t : S.State} (rest : Unbroken k s q t) :
      Unbroken (.signal e k) s q t

theorem Prog.Unbroken.trans {p q r : Prog S} {s t u : S.State} (h₁ : Unbroken p s q t)
    (h₂ : Unbroken q t r u) : Unbroken p s r u := by
  induction h₁ with
  | refl => exact h₂
  | step _ ih => exact .step (ih h₂)
  | signal _ ih => exact .signal (ih h₂)

theorem Async.bind_assoc {γ : Type} (x : Async S α) (f : α → Async S β) (g : β → Async S γ) :
    x >>= f >>= g = x >>= fun a => f a >>= g := rfl

/-- `x`, started in state `s`, runs at once to an answer and a state that satisfy `Q`, whatever
follows it. -/
def Async.AtOnce (x : Async S α) (s : S.State) (Q : α → S.State → Prop) : Prop :=
  ∃ a t, (∀ k : α → Prog S, Prog.Unbroken (x k) s (k a) t) ∧ Q a t

namespace Async.AtOnce

variable {s : S.State}

theorem pure' {a : α} {Q : α → S.State → Prop} (h : Q a s) : AtOnce (pure a : Async S α) s Q :=
  ⟨a, s, fun k => .refl (k a) s, h⟩

theorem bind {x : Async S α} {f : α → Async S β} {Q : β → S.State → Prop}
    (h : AtOnce x s fun a t => AtOnce (f a) t Q) : AtOnce (x >>= f) s Q := by
  obtain ⟨a, t, hx, b, u, hf, hq⟩ := h
  exact ⟨b, u, fun k => (hx fun a => f a k).trans (hf k), hq⟩

theorem reads {f : S.State → α} {Q : α → S.State → Prop} (h : Q (f s) s) :
    AtOnce (Async.reads f) s Q :=
  ⟨f s, s, fun k => .step (.refl (k (f s)) s), h⟩

theorem modify {f : S.State → S.State} {Q : Unit → S.State → Prop} (h : Q () (f s)) :
    AtOnce (Async.modify f) s Q :=
  ⟨(), f s, fun k => .step (.refl (k ()) (f s)), h⟩

theorem change {f : S.State → α × S.State} {Q : α → S.State → Prop} (h : Q (f s).1 (f s).2) :
    AtOnce (Async.change f) s Q :=
  ⟨(f s).1, (f s).2, fun k => .step (.refl (k (f s).1) (f s).2), h⟩

theorem signal {e : S.Event} {Q : Unit → S.State → Prop} (h : Q () s) : AtOnce (Async.signal e) s Q :=
  ⟨(), s, fun k => .signal (.refl (k ()) s), h⟩

theorem mono {x : Async S α} {Q R : α → S.State → Prop} (h : AtOnce x s Q) (hq : ∀ a t, Q a t → R a t) :
    AtOnce x s R := by
  obtain ⟨a, t, hx, h⟩ := h
  exact ⟨a, t, hx, hq a t h⟩

theorem discard {x : Async S α} {Q : Unit → S.State → Prop} (h : AtOnce x s fun _ t => Q () t) :
    AtOnce (Functor.discard x) s Q := by
  obtain ⟨_, t, hx, hq⟩ := h
  exact ⟨(), t, fun k => hx fun _ => k (), hq⟩

end Async.AtOnce

def Async.Keeps (x : Async S α) (P : S.State → Prop) : Prop := ∀ s, P s → AtOnce x s fun _ t => P t

namespace Async.Keeps

variable {P : S.State → Prop}

theorem pure' (a : α) : Keeps (pure a : Async S α) P := fun _ h => AtOnce.pure' h

theorem bind {x : Async S α} {f : α → Async S β} (hx : Keeps x P) (hf : ∀ a, Keeps (f a) P) :
    Keeps (x >>= f) P :=
  fun s h => AtOnce.bind ((hx s h).mono fun a _ ht => hf a _ ht)

theorem reads (f : S.State → α) : Keeps (Async.reads f) P := fun _ h => AtOnce.reads h

theorem modify {f : S.State → S.State} (hf : ∀ s, P s → P (f s)) : Keeps (Async.modify f) P :=
  fun s h => AtOnce.modify (hf s h)

theorem signal (e : S.Event) : Keeps (Async.signal e) P := fun _ h => AtOnce.signal h

theorem discard {x : Async S α} (hx : Keeps x P) : Keeps (Functor.discard x) P := fun s h => by
  obtain ⟨_, t, hr, ht⟩ := hx s h
  exact ⟨(), t, fun k => hr fun _ => k (), ht⟩

theorem forIn {γ : Type} (xs : List γ) {f : γ → Unit → Async S (ForInStep Unit)} (hf : ∀ x u, Keeps (f x u) P) :
    Keeps (forIn xs () f) P := by
  induction xs with
  | nil => exact pure' ()
  | cons x xs ih =>
    rw [List.forIn_cons]
    refine bind (hf x ()) fun r => ?_
    cases r with
    | done u => exact pure' u
    | yield u => exact ih

end Async.Keeps

/-! ## Stretches that start tasks

Starting a task does not break a stretch either: the new task only joins the end of the queue.
`Async.Stretch x s Q` says that `x`, started in state `s`, runs at once to an answer and a state
that satisfy `Q`, together with the jobs it started on the way, whatever numbers they get. -/

/-- `p`, started in state `s`, comes to `q` in state `t` without a break, starting the jobs `js`. -/
inductive Prog.Stretch : Prog S → S.State → Prog S → S.State → List S.Job → Prop where
  | refl (p : Prog S) (s : S.State) : Stretch p s p s []
  | step {f : S.State → S.State × Prog S} {s : S.State} {q : Prog S} {t : S.State} {js : List S.Job}
      (rest : Stretch (f s).2 (f s).1 q t js) : Stretch (.step f) s q t js
  | signal {e : S.Event} {k q : Prog S} {s t : S.State} {js : List S.Job} (rest : Stretch k s q t js) :
      Stretch (.signal e k) s q t js
  | spawn {j : S.Job} {k : Nat → Prog S} {q : Prog S} {s t : S.State} {js : List S.Job}
      (rest : ∀ n, Stretch (k n) s q t js) : Stretch (.spawn j k) s q t (j :: js)

theorem Prog.Stretch.trans {p q r : Prog S} {s t u : S.State} {js js' : List S.Job} (h₁ : Stretch p s q t js)
    (h₂ : Stretch q t r u js') : Stretch p s r u (js ++ js') := by
  induction h₁ with
  | refl => exact h₂
  | step _ ih => exact .step (ih h₂)
  | signal _ ih => exact .signal (ih h₂)
  | spawn _ ih => exact .spawn fun n => ih n h₂

theorem Prog.Unbroken.stretch {p q : Prog S} {s t : S.State} (h : Unbroken p s q t) : Prog.Stretch p s q t [] := by
  induction h with
  | refl => exact .refl _ _
  | step _ ih => exact .step ih
  | signal _ ih => exact .signal ih

/-- `x`, started in state `s`, runs at once to an answer and a state that satisfy `Q` with the
jobs it started, whatever follows it. -/
def Async.Stretch (x : Async S α) (s : S.State) (Q : α → S.State → List S.Job → Prop) : Prop :=
  ∃ a t js, (∀ k : α → Prog S, Prog.Stretch (x k) s (k a) t js) ∧ Q a t js

namespace Async.Stretch

variable {s : S.State} {Q : α → S.State → List S.Job → Prop}

theorem of_atOnce {x : Async S α} {P : α → S.State → Prop} (h : AtOnce x s P) (hq : ∀ a t, P a t → Q a t []) :
    Stretch x s Q := by
  obtain ⟨a, t, hx, hp⟩ := h
  exact ⟨a, t, [], fun k => (hx k).stretch, hq a t hp⟩

theorem pure' {a : α} (h : Q a s []) : Stretch (pure a : Async S α) s Q :=
  ⟨a, s, [], fun k => .refl (k a) s, h⟩

theorem read {Q : S.State → S.State → List S.Job → Prop} (h : Q s s []) : Stretch (Async.read : Async S S.State) s Q :=
  ⟨s, s, [], fun k => .step (.refl (k s) s), h⟩

theorem reads {f : S.State → α} (h : Q (f s) s []) : Stretch (Async.reads f) s Q :=
  ⟨f s, s, [], fun k => .step (.refl (k (f s)) s), h⟩

theorem write {t : S.State} {Q : Unit → S.State → List S.Job → Prop} (h : Q () t []) : Stretch (Async.write t) s Q :=
  ⟨(), t, [], fun k => .step (.refl (k ()) t), h⟩

theorem modify {f : S.State → S.State} {Q : Unit → S.State → List S.Job → Prop} (h : Q () (f s) []) :
    Stretch (Async.modify f) s Q :=
  ⟨(), f s, [], fun k => .step (.refl (k ()) (f s)), h⟩

theorem change {f : S.State → α × S.State} (h : Q (f s).1 (f s).2 []) : Stretch (Async.change f) s Q :=
  ⟨(f s).1, (f s).2, [], fun k => .step (.refl (k (f s).1) (f s).2), h⟩

theorem bind {x : Async S α} {f : α → Async S β} {Q : β → S.State → List S.Job → Prop}
    (h : Stretch x s fun a t js => Stretch (f a) t fun b u js' => Q b u (js ++ js')) : Stretch (x >>= f) s Q := by
  obtain ⟨a, t, js, hx, b, u, js', hf, hq⟩ := h
  exact ⟨b, u, js ++ js', fun k => (hx fun a => f a k).trans (hf k), hq⟩

theorem fork {j : S.Job} {Q : Unit → S.State → List S.Job → Prop} (h : Q () s [j]) : Stretch (Async.fork j) s Q :=
  ⟨(), s, [j], fun k => .spawn fun _ => .refl (k ()) s, h⟩

theorem mono {x : Async S α} {R : α → S.State → List S.Job → Prop} (h : Stretch x s Q)
    (hq : ∀ a t js, Q a t js → R a t js) : Stretch x s R := by
  obtain ⟨a, t, js, hx, h⟩ := h
  exact ⟨a, t, js, hx, hq a t js h⟩

end Async.Stretch

/-! ## Stretches that keep the numbers of the tasks they start

A task that starts tasks to wait for them later keeps their numbers, and where its stretch ends
then depends on the numbers the tasks got. `Prog.Reaches R p s` says that `p`, started in state
`s`, runs without a break, whatever numbers its tasks get, to a program, a state and the jobs
started on the way that satisfy `R`. -/

/-- `p`, started in state `s`, comes without a break to a program, a state and the jobs started
that satisfy `R`, for every number the tasks it starts may get. -/
inductive Prog.Reaches : (Prog S → S.State → List S.Job → Prop) → Prog S → S.State → Prop where
  | here {R : Prog S → S.State → List S.Job → Prop} {p : Prog S} {s : S.State} (h : R p s []) : Reaches R p s
  | step {R : Prog S → S.State → List S.Job → Prop} {f : S.State → S.State × Prog S} {s : S.State}
      (rest : Reaches R (f s).2 (f s).1) : Reaches R (.step f) s
  | signal {R : Prog S → S.State → List S.Job → Prop} {e : S.Event} {k : Prog S} {s : S.State}
      (rest : Reaches R k s) : Reaches R (.signal e k) s
  | spawn {R : Prog S → S.State → List S.Job → Prop} {j : S.Job} {k : Nat → Prog S} {s : S.State}
      (rest : ∀ n, Reaches (fun q t js => R q t (j :: js)) (k n) s) : Reaches R (.spawn j k) s

namespace Prog.Reaches

variable {R R' : Prog S → S.State → List S.Job → Prop} {p : Prog S} {s : S.State}

theorem mono (h : Reaches R p s) (hr : ∀ q t js, R q t js → R' q t js) : Reaches R' p s := by
  induction h generalizing R' with
  | here h => exact .here (hr _ _ _ h)
  | step _ ih => exact .step (ih hr)
  | signal _ ih => exact .signal (ih hr)
  | spawn _ ih => exact .spawn fun n => ih n fun q t js => hr q t _

theorem trans (h : Reaches R p s)
    (hr : ∀ q t js, R q t js → Reaches (fun q' u js' => R' q' u (js ++ js')) q t) : Reaches R' p s := by
  induction h generalizing R' with
  | here h => exact (hr _ _ _ h).mono fun _ _ _ h => h
  | step _ ih => exact .step (ih hr)
  | signal _ ih => exact .signal (ih hr)
  | spawn _ ih => exact .spawn fun n => ih n fun q t js h => hr q t _ h

theorem of_stretch {q : Prog S} {t : S.State} {js : List S.Job} (h : Prog.Stretch p s q t js) (hr : R q t js) :
    Reaches R p s := by
  induction h generalizing R with
  | refl => exact .here hr
  | step _ ih => exact .step (ih hr)
  | signal _ ih => exact .signal (ih hr)
  | spawn _ ih => exact .spawn fun n => ih n hr

end Prog.Reaches

/-- `x`, started in state `s`, runs without a break to an answer and a state that satisfy `Q` with
the jobs it started, whatever numbers they get and whatever follows it. -/
def Async.Reaches (x : Async S α) (s : S.State) (Q : α → S.State → List S.Job → Prop) : Prop :=
  ∀ k : α → Prog S, Prog.Reaches (fun q t js => ∃ a, q = k a ∧ Q a t js) (x k) s

namespace Async.Reaches

variable {s : S.State} {Q : α → S.State → List S.Job → Prop}

theorem cont {x : Async S α} (h : Reaches x s Q) {k : α → Prog S} {R : Prog S → S.State → List S.Job → Prop}
    (hk : ∀ a t js, Q a t js → Prog.Reaches (fun q u js' => R q u (js ++ js')) (k a) t) : Prog.Reaches R (x k) s :=
  (h k).trans fun _ t js ⟨a, hq, ha⟩ => hq ▸ hk a t js ha

theorem of_stretch {x : Async S α} (h : Stretch x s Q) : Reaches x s Q := by
  obtain ⟨a, t, js, hx, hq⟩ := h
  exact fun k => .of_stretch (hx k) ⟨a, rfl, hq⟩

theorem pure' {a : α} (h : Q a s []) : Reaches (pure a : Async S α) s Q := fun _ => .here ⟨a, rfl, h⟩

theorem bind {x : Async S α} {f : α → Async S β} {Q : β → S.State → List S.Job → Prop}
    (h : Reaches x s fun a t js => Reaches (f a) t fun b u js' => Q b u (js ++ js')) : Reaches (x >>= f) s Q :=
  fun k => h.cont fun _ _ _ hf => (hf k).mono fun _ _ _ ⟨b, hb, hq⟩ => ⟨b, hb, hq⟩

theorem spawn {j : S.Job} {Q : Nat → S.State → List S.Job → Prop} (h : ∀ n, Q n s [j]) :
    Reaches (Async.spawn j) s Q :=
  fun _ => .spawn fun n => .here ⟨n, rfl, h n⟩

theorem mono {x : Async S α} {R : α → S.State → List S.Job → Prop} (h : Reaches x s Q)
    (hq : ∀ a t js, Q a t js → R a t js) : Reaches x s R :=
  fun k => (h k).mono fun _ _ _ ⟨a, ha, hQ⟩ => ⟨a, ha, hq a _ _ hQ⟩

end Async.Reaches

/-! ## Calls -/

/-- A program read as the calls it makes: each call is a program of its own, noted by what its
answer tells an observer, and followed by the rest for that answer. -/
inductive Calls (S : Sig) (L α : Type) : Type 1 where
  | done (a : α)
  | call {β : Type} (op : Async S β) (note : β → L) (rest : β → Calls S L α)

namespace Calls

variable {L : Type}

def run : Calls S L α → Async S α
  | .done a => pure a
  | .call op _ rest => op >>= fun b => (rest b).run

def bind : Calls S L α → (α → Calls S L β) → Calls S L β
  | .done a, f => f a
  | .call op note rest, f => .call op note fun b => (rest b).bind f

theorem run_bind (t : Calls S L α) (f : α → Calls S L β) :
    (t.bind f).run = t.run >>= fun a => (f a).run := by
  induction t with
  | done a => rfl
  | call op note rest ih =>
    funext k
    show op (fun b => ((rest b).bind f).run k) = op (fun b => (rest b).run fun a => (f a).run k)
    congr 1
    funext b
    rw [ih b]
    rfl

/-- The notes of a run of `t` that ends with `a`, whatever answers its calls get. -/
inductive Notes : Calls S L α → List L → α → Prop where
  | done (a : α) : Notes (.done a) [] a
  | call {β : Type} {op : Async S β} {note : β → L} {rest : β → Calls S L α} (b : β) {ns : List L}
      {a : α} (h : Notes (rest b) ns a) : Notes (.call op note rest) (note b :: ns) a

@[simp] theorem notes_done {a r : α} {ns : List L} : Notes (.done a : Calls S L α) ns r ↔ ns = [] ∧ r = a := by
  constructor
  · rintro ⟨⟩
    exact ⟨rfl, rfl⟩
  · rintro ⟨rfl, rfl⟩
    exact .done _

@[simp] theorem notes_call {op : Async S β} {note : β → L} {rest : β → Calls S L α} {ns : List L} {r : α} :
    Notes (.call op note rest) ns r ↔ ∃ b ns', ns = note b :: ns' ∧ Notes (rest b) ns' r := by
  constructor
  · rintro ⟨⟩
    exact ⟨_, _, rfl, ‹_›⟩
  · rintro ⟨b, ns', rfl, h⟩
    exact .call b h

theorem notes_bind {t : Calls S L α} {f : α → Calls S L β} {ns : List L} {r : β} :
    Notes (t.bind f) ns r ↔ ∃ ns₁ a ns₂, ns = ns₁ ++ ns₂ ∧ Notes t ns₁ a ∧ Notes (f a) ns₂ r := by
  induction t generalizing ns with
  | done a =>
    simp only [Calls.bind, notes_done]
    constructor
    · intro h
      exact ⟨[], a, ns, rfl, ⟨rfl, rfl⟩, h⟩
    · rintro ⟨_, _, _, rfl, ⟨rfl, rfl⟩, h⟩
      exact h
  | call op note rest ih =>
    simp only [Calls.bind, notes_call, ih]
    constructor
    · rintro ⟨b, ns', rfl, ns₁, a, ns₂, rfl, h₁, h₂⟩
      exact ⟨note b :: ns₁, a, ns₂, rfl, ⟨b, ns₁, rfl, h₁⟩, h₂⟩
    · rintro ⟨ns₁, a, ns₂, rfl, ⟨b, ns', rfl, h₁⟩, h₂⟩
      exact ⟨b, ns' ++ ns₂, rfl, ns', a, ns₂, rfl, h₁, h₂⟩

/-- `t`, started in state `s`, runs at once, call after call, to an answer and a state that
satisfy `Q` together with the notes of its calls. -/
def Swift : Calls S L α → S.State → (List L → α → S.State → Prop) → Prop
  | .done a, s, Q => Q [] a s
  | .call op note rest, s, Q => Async.AtOnce op s fun b t => Swift (rest b) t fun ns a u => Q (note b :: ns) a u

namespace Swift

variable {s : S.State}

theorem done {a : α} {Q : List L → α → S.State → Prop} (h : Q [] a s) : Swift (.done a) s Q := h

theorem call {op : Async S β} {note : β → L} {rest : β → Calls S L α} {Q : List L → α → S.State → Prop}
    (h : Async.AtOnce op s fun b t => Swift (rest b) t fun ns a u => Q (note b :: ns) a u) :
    Swift (.call op note rest) s Q := h

theorem mono {t : Calls S L α} {Q R : List L → α → S.State → Prop} (h : Swift t s Q)
    (hq : ∀ ns a u, Q ns a u → R ns a u) : Swift t s R := by
  induction t generalizing s Q R with
  | done a => exact hq _ _ _ h
  | call op note rest ih => exact Async.AtOnce.mono h fun b _ hb => ih b hb fun ns a u => hq _ a u

theorem bind {t : Calls S L α} {f : α → Calls S L β} {Q : List L → β → S.State → Prop}
    (h : Swift t s fun ns a u => Swift (f a) u fun ns' b v => Q (ns ++ ns') b v) : Swift (t.bind f) s Q := by
  induction t generalizing s Q with
  | done a => exact h
  | call op note rest ih => exact Async.AtOnce.mono h fun b _ hb => ih b hb

theorem atOnce {t : Calls S L α} {Q : List L → α → S.State → Prop} (h : Swift t s Q) :
    Async.AtOnce t.run s fun a u => ∃ ns, Q ns a u := by
  induction t generalizing s Q with
  | done a => exact Async.AtOnce.pure' ⟨[], h⟩
  | call op note rest ih =>
    exact Async.AtOnce.bind (Async.AtOnce.mono h fun b _ hb => (ih b hb).mono fun _ _ ⟨_, hq⟩ => ⟨_, hq⟩)

theorem notes {t : Calls S L α} {Q : List L → α → S.State → Prop} (h : Swift t s Q) :
    Swift t s fun ns a u => Notes t ns a ∧ Q ns a u := by
  induction t generalizing s Q with
  | done a => exact ⟨.done a, h⟩
  | call op note rest ih => exact Async.AtOnce.mono h fun b _ hb => (ih b hb).mono fun _ _ _ h => ⟨.call b h.1, h.2⟩

end Swift

end Calls

end TestConductor
