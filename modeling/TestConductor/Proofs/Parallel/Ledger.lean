import TestConductor.Parallel.Pool
import TestConductor.Proofs.Proxy.Frame
/-! # The books of a pool

The operations on a pool, read as the calls they make: each call of the factory notes the proxy
it made, and each closing the proxy it closed. Every operation runs at once, and a pool changed
only by its operations keeps its books: every proxy its factory made is a new proxy of the world,
made once, and is either still in the pool or was closed by it, once; no pooled proxy was
closed, and the pool holds no proxy twice.
-/
namespace TestConductor

open Async

namespace Pool

/-- What a pool does to proxies, call by call: a proxy its factory made, a proxy it closed, or
neither, for a look at the pool or a change of its members. -/
inductive Touch where
  | made (p : Nat)
  | closed (p : Nat)
  | quiet
  deriving DecidableEq, Repr

namespace Touch

def made? : Touch → Option Nat
  | .made p => some p
  | _ => none

def closed? : Touch → Option Nat
  | .closed p => some p
  | _ => none

@[simp] theorem made?_made (p : Nat) : (made p).made? = some p := rfl
@[simp] theorem made?_closed (p : Nat) : (closed p).made? = none := rfl
@[simp] theorem made?_quiet : quiet.made? = none := rfl
@[simp] theorem closed?_made (p : Nat) : (made p).closed? = none := rfl
@[simp] theorem closed?_closed (p : Nat) : (closed p).closed? = some p := rfl
@[simp] theorem closed?_quiet : quiet.closed? = none := rfl

end Touch

def makeManyCalls (m : Nat) : Nat → Calls conductor Touch (List Nat)
  | 0 => .done []
  | n + 1 => .call (Async.reads fun w => (w.pool m).factory) (fun _ => .quiet) fun f =>
      .call f.make .made fun p => (makeManyCalls m n).bind fun rest => .done (p :: rest)

def closeAllCalls : List Nat → Calls conductor Touch Unit
  | [] => .done ()
  | p :: ps => .call (Proxy.close p) (fun _ => .closed p) fun _ => closeAllCalls ps

def setMembers (m : Nat) (f : List Nat → List Nat) : Act Unit :=
  Async.modify fun w => w.setPool m fun p => { p with members := f p.members }

def resizeCalls (m level : Nat) : Calls conductor Touch Unit :=
  .call (proxies m) (fun _ => .quiet) fun current =>
    if max level 1 > current.length then
      (makeManyCalls m (max level 1 - current.length)).bind fun fresh =>
        .call (setMembers m (· ++ fresh)) (fun _ => .quiet) fun _ => .done ()
    else
      .call (setMembers m fun _ => (cut current (max level 1)).1) (fun _ => .quiet) fun _ =>
        closeAllCalls (cut current (max level 1)).2

def replaceCalls (m old : Nat) : Calls conductor Touch (Option Nat) :=
  .call (contains m old) (fun _ => .quiet) fun present =>
    if !present then .done none
    else
      .call (Async.reads fun w => (w.pool m).factory) (fun _ => .quiet) fun f =>
      .call f.make .made fun fresh =>
      .call (setMembers m (swap · old fresh)) (fun _ => .quiet) fun _ =>
      .call (Proxy.close old) (fun _ => .closed old) fun _ => .done (some fresh)

def disposeCalls (m : Nat) : Calls conductor Touch Unit :=
  .call (proxies m) (fun _ => .quiet) fun current =>
    .call (setMembers m fun _ => []) (fun _ => .quiet) fun _ => closeAllCalls current

def newManager (f : Factory) (shared discovers : Bool) (retryLimit : Nat) : Manager :=
  ⟨⟨[], shared, f⟩, discovers, retryLimit, Tracker.new (if discovers then .discovery .empty else .run .empty)⟩

def createCalls (f : Factory) (level : Nat) (shared discovers : Bool) (retryLimit : Nat) :
    Calls conductor Touch Nat :=
  .call (Async.change fun w => (w.managers.length,
      { w with managers := w.managers ++ [newManager f shared discovers retryLimit] })) (fun _ => .quiet) fun m =>
    (makeManyCalls m (max level 1)).bind fun made =>
      .call (setMembers m fun _ => made) (fun _ => .quiet) fun _ => .done m

theorem makeMany_eq (m n : Nat) : makeMany m n = (makeManyCalls m n).run := by
  induction n with
  | zero => rfl
  | succ n ih =>
    simp only [makeMany, makeManyCalls, Calls.run, Calls.run_bind, ← ih]

theorem closeAll_eq (ps : List Nat) : closeAll ps = (closeAllCalls ps).run := by
  induction ps with
  | nil => rfl
  | cons p ps ih =>
    simp only [closeAll, closeAllCalls, Calls.run, ← ih]

theorem resize_eq (m level : Nat) : resize m level = (resizeCalls m level).run := by
  funext k
  simp only [resize, resizeCalls, Calls.run]
  show Prog.step _ = Prog.step _
  congr 1
  funext w
  congr 1
  dsimp only
  split
  · simp only [Calls.run_bind, Calls.run, ← makeMany_eq]
    rfl
  · simp only [Calls.run, ← closeAll_eq]
    rfl

theorem replace_eq (m old : Nat) : replace m old = (replaceCalls m old).run := by
  funext k
  simp only [replace, replaceCalls, Calls.run]
  show Prog.step _ = Prog.step _
  congr 1
  funext w
  congr 1
  dsimp only
  split <;> rfl

theorem dispose_eq (m : Nat) : dispose m = (disposeCalls m).run := by
  simp only [dispose, disposeCalls, Calls.run, ← closeAll_eq]
  rfl

theorem create_eq (f : Factory) (level : Nat) (shared discovers : Bool) (retryLimit : Nat) :
    create f level shared discovers retryLimit = (createCalls f level shared discovers retryLimit).run := by
  simp only [create, createCalls, Calls.run, Calls.run_bind, ← makeMany_eq]
  rfl

/-! ## The proxies made and closed -/

def madeIn (ns : List Touch) : List Nat := ns.filterMap Touch.made?

def closedIn (ns : List Touch) : List Nat := ns.filterMap Touch.closed?

@[simp] theorem madeIn_nil : madeIn [] = [] := rfl
@[simp] theorem closedIn_nil : closedIn [] = [] := rfl

@[simp] theorem madeIn_cons (t : Touch) (ns : List Touch) : madeIn (t :: ns) = t.made?.toList ++ madeIn ns := by
  cases t <;> rfl

@[simp] theorem closedIn_cons (t : Touch) (ns : List Touch) :
    closedIn (t :: ns) = t.closed?.toList ++ closedIn ns := by
  cases t <;> rfl

@[simp] theorem madeIn_append (ns ns' : List Touch) : madeIn (ns ++ ns') = madeIn ns ++ madeIn ns' :=
  List.filterMap_append

@[simp] theorem closedIn_append (ns ns' : List Touch) : closedIn (ns ++ ns') = closedIn ns ++ closedIn ns' :=
  List.filterMap_append

theorem swap_split {l₁ l₂ : List Nat} {p : Nat} (q : Nat) (h₁ : p ∉ l₁) (h₂ : p ∉ l₂) :
    swap (l₁ ++ p :: l₂) p q = l₁ ++ q :: l₂ := by
  have keep : ∀ l : List Nat, p ∉ l → l.map (fun x => if x == p then q else x) = l := by
    intro l h
    rw [List.map_congr_left (g := id) fun x hx => ?_, List.map_id]
    have : x ≠ p := fun e => h (e ▸ hx)
    simp [this]
  unfold swap
  rw [List.map_append, List.map_cons, keep l₁ h₁, keep l₂ h₂]
  simp

end Pool

namespace World

theorem pool_setPool (w : World) (m j : Nat) (f : Pool → Pool) :
    (w.setPool j f).pool m = if m = j ∧ j < w.managers.length then f (w.pool m) else w.pool m := by
  simp only [pool, setPool, setManager, getElem?_update]
  by_cases hm : m = j
  · subst hm
    by_cases hj : m < w.managers.length <;> simp [hj]
  · simp [hm]

theorem length_managers_setPool (w : World) (m : Nat) (f : Pool → Pool) :
    (w.setPool m f).managers.length = w.managers.length :=
  length_update m w.managers _

end World

namespace Pool

theorem setMembers_sets {m : Nat} (f : List Nat → List Nat) {w : World} (hm : m < w.managers.length) :
    AtOnce (setMembers m f) w fun _ u => (u.pool m).members = f (w.pool m).members ∧
      u.proxies = w.proxies ∧ u.managers.length = w.managers.length :=
  .modify ⟨by simp [World.pool_setPool, hm], rfl, World.length_managers_setPool ..⟩

/-- From `w` to `u` the proxies `new` were made, the next numbers of the world in order, and no
manager went away. -/
structure Made (w u : World) (new : List Nat) : Prop where
  fresh : new = List.range' w.proxies.length new.length
  count : u.proxies.length = w.proxies.length + new.length
  managers : w.managers.length ≤ u.managers.length

namespace Made

variable {w t u : World} {a b : List Nat}

theorem none (hp : u.proxies.length = w.proxies.length) (hm : w.managers.length ≤ u.managers.length) :
    Made w u [] :=
  ⟨rfl, hp, hm⟩

theorem trans (h₁ : Made w t a) (h₂ : Made t u b) : Made w u (a ++ b) where
  fresh := by
    rw [List.length_append, ← List.range'_append, ← h₁.fresh, Nat.one_mul, ← h₁.count, ← h₂.fresh]
  count := by rw [h₂.count, h₁.count, List.length_append, Nat.add_assoc]
  managers := h₁.managers.trans h₂.managers

theorem mem (h : Made w u a) {p : Nat} (hp : p ∈ a) :
    w.proxies.length ≤ p ∧ p < u.proxies.length := by
  rw [h.fresh, List.mem_range'] at hp
  obtain ⟨i, hi, rfl⟩ := hp
  have := h.count
  constructor <;> omega

theorem nodup (h : Made w u a) : a.Nodup := h.fresh ▸ List.nodup_range'

end Made

theorem makeMany_runs (m n : Nat) (w : World) :
    Calls.Swift (makeManyCalls m n) w fun ns made u =>
      madeIn ns = made ∧ closedIn ns = [] ∧ made.length = n ∧ Made w u made ∧ u.managers = w.managers ∧
        u.events = w.events := by
  induction n generalizing w with
  | zero => exact ⟨rfl, rfl, rfl, .none rfl le_rfl, rfl, rfl⟩
  | succ n ih =>
    refine .call (.reads (.call ((Factory.make_makes _ w).mono fun p t ⟨hp, hl, hm, he⟩ => ?_)))
    refine .bind ((ih t).mono fun ns made u ⟨hmade, hclosed, hn, hu, hmu, heu⟩ => .done ?_)
    have one : Made w t [p] := ⟨by simp [hp], by simp [hl], (congrArg List.length hm).ge⟩
    exact ⟨by simp [hmade], by simp [hclosed], by simp [hn], one.trans hu, hmu.trans hm, heu.trans he⟩

theorem closeAll_runs (ps : List Nat) (w : World) :
    Calls.Swift (closeAllCalls ps) w fun ns _ u =>
      madeIn ns = [] ∧ closedIn ns = ps ∧ u.managers = w.managers ∧ u.proxies.length = w.proxies.length ∧
        u.events = w.events := by
  induction ps generalizing w with
  | nil => exact ⟨rfl, rfl, rfl, rfl, rfl⟩
  | cons p ps ih =>
    refine .call ((Proxy.close_keeps p w.managers w.proxies.length w.events w ⟨rfl, rfl, rfl⟩).mono
      fun _ t ⟨hm, hl, he⟩ => ?_)
    exact (ih t).mono fun ns _ u ⟨h₁, h₂, h₃, h₄, h₅⟩ =>
      ⟨by simp [h₁], by simp [h₂], h₃.trans hm, h₄.trans hl, h₅.trans he⟩

/-! ## What each operation does -/

/-- The operations on a pool once it is made. -/
inductive PoolOp where
  | resize (level : Nat)
  | replace (proxy : Nat)
  | dispose
  deriving Repr

namespace PoolOp

def calls (m : Nat) : PoolOp → Calls conductor Touch (Option Nat)
  | .resize level => (resizeCalls m level).bind fun _ => .done none
  | .replace p => replaceCalls m p
  | .dispose => (disposeCalls m).bind fun _ => .done none

/-- What an operation does to the members of a pool, `before` and `after` it, given the proxies
it made and closed, in order, and its answer. Resizing keeps the first proxies and closes the rest,
or adds the new ones at the end; replacing a pooled proxy puts a new one in its place and closes
it, and does nothing at all to one that is not pooled; disposing closes every proxy. -/
def Does : PoolOp → (before after made closed : List Nat) → Option Nat → Prop
  | .resize level, before, after, made, closed, _ =>
    after.length = max level 1 ∧ before ++ made = after ++ closed ∧ (made = [] ∨ closed = [])
  | .replace p, before, after, made, closed, r =>
    (p ∉ before ∧ after = before ∧ made = [] ∧ closed = [] ∧ r = none) ∨
    ∃ l₁ l₂ q, before = l₁ ++ p :: l₂ ∧ after = l₁ ++ q :: l₂ ∧ made = [q] ∧ closed = [p] ∧ r = some q
  | .dispose, before, after, made, closed, _ => after = [] ∧ made = [] ∧ closed = before

theorem Does.perm {op : PoolOp} {before after made closed : List Nat} {r : Option Nat}
    (h : op.Does before after made closed r) : (before ++ made).Perm (after ++ closed) := by
  cases op with
  | resize level => exact h.2.1 ▸ .refl _
  | replace p =>
    obtain ⟨-, rfl, rfl, rfl, -⟩ | ⟨l₁, l₂, q, rfl, rfl, rfl, rfl, -⟩ := h
    · exact .refl _
    -- both sides are the pool less the slot, with the two proxies in front
    have hp : (l₁ ++ p :: l₂ ++ [q]).Perm (p :: q :: (l₁ ++ l₂)) := by
      rw [List.append_assoc, List.cons_append]
      exact List.perm_middle.trans (.cons p (by simpa using List.perm_append_singleton q (l₁ ++ l₂)))
    have hq : (l₁ ++ q :: l₂ ++ [p]).Perm (q :: p :: (l₁ ++ l₂)) := by
      rw [List.append_assoc, List.cons_append]
      exact List.perm_middle.trans (.cons q (by simpa using List.perm_append_singleton p (l₁ ++ l₂)))
    exact hp.trans ((List.Perm.swap q p _).trans hq.symm)
  | dispose =>
    obtain ⟨rfl, rfl, rfl⟩ := h
    simp

end PoolOp

section Runs

variable {m : Nat} {w : World}

theorem resize_runs (level : Nat) (hm : m < w.managers.length) :
    Calls.Swift (resizeCalls m level) w fun ns _ u =>
      Made w u (madeIn ns) ∧ (PoolOp.resize level).Does (w.pool m).members (u.pool m).members (madeIn ns) (closedIn ns) none := by
  refine .call (.reads ?_)
  split
  · -- growing: the new proxies go at the end
    rename_i hgt
    refine .bind ((makeMany_runs m _ w).mono fun ns made t ⟨hmade, hclosed, hlen, hmk, hmt, _⟩ => ?_)
    have hmt' : m < t.managers.length := hmt ▸ hm
    refine .call ((setMembers_sets _ hmt').mono fun _ u ⟨hmem, hprox, hml⟩ => .done ?_)
    have hpool : t.pool m = w.pool m := by simp only [World.pool, hmt]
    refine ⟨?_, ?_, ?_, .inr ?_⟩
    · simpa [hmade] using ⟨hmk.fresh, hprox ▸ hmk.count, hml ▸ hmk.managers⟩
    · simp only [hmem, hpool, List.length_append, hlen]
      omega
    · simp [hmem, hpool, hmade, hclosed]
    · simp [hclosed]
  · -- shrinking: the first proxies stay, the rest are closed in order
    rename_i hle
    refine .call ((setMembers_sets _ hm).mono fun _ t ⟨hmem, hprox, hml⟩ => ?_)
    refine (closeAll_runs _ t).mono fun ns _ u ⟨hmade, hclosed, hmu, hlu, _⟩ => ?_
    have hpool : u.pool m = t.pool m := by simp only [World.pool, hmu]
    have hnone : Made w u (madeIn ns) := by
      rw [hmade]
      exact .none (by simp [hlu, hprox]) (by simp [hmu, hml])
    refine ⟨hnone, ?_, ?_, .inl (by simp [hmade])⟩
    · simp only [hpool, hmem, cut, List.length_take]
      omega
    · simp [hpool, hmem, hmade, hclosed, cut]

theorem replace_runs (p : Nat) (hm : m < w.managers.length) (hnd : (w.pool m).members.Nodup) :
    Calls.Swift (replaceCalls m p) w fun ns r u =>
      Made w u (madeIn ns) ∧ (PoolOp.replace p).Does (w.pool m).members (u.pool m).members (madeIn ns) (closedIn ns) r ∧
      (p ∉ (w.pool m).members → ns = [.quiet] ∧ u = w) := by
  refine .call (.reads ?_)
  split
  · -- no longer pooled: nothing is made, closed or changed
    rename_i hout
    have hp : p ∉ (w.pool m).members := by simpa using hout
    exact ⟨.none rfl le_rfl, .inl ⟨hp, rfl, rfl, rfl, rfl⟩, fun _ => ⟨rfl, rfl⟩⟩
  · rename_i hin
    have hp : p ∈ (w.pool m).members := by simpa using hin
    obtain ⟨l₁, l₂, hsplit⟩ := List.append_of_mem hp
    have hnd' := hsplit ▸ hnd
    have h₁ : p ∉ l₁ := fun h => (List.nodup_append.1 hnd').2.2 p h p (List.mem_cons_self ..) rfl
    have h₂ : p ∉ l₂ := (List.nodup_cons.1 (List.nodup_append.1 hnd').2.1).1
    refine .call (.reads (.call ((Factory.make_makes _ w).mono fun q t ⟨hq, hl, hmt, _⟩ => ?_)))
    have hpool : t.pool m = w.pool m := by simp only [World.pool, hmt]
    refine .call ((setMembers_sets _ (hmt ▸ hm)).mono fun _ t' ⟨hmem, hprox, hml⟩ => ?_)
    refine .call ((Proxy.close_keeps p t'.managers t'.proxies.length t'.events t' ⟨rfl, rfl, rfl⟩).mono
      fun _ u ⟨hmu, hlu, _⟩ => .done ?_)
    have hpool' : u.pool m = t'.pool m := by simp only [World.pool, hmu]
    refine ⟨⟨by simp [hq], by simp [hlu, hprox, hl], by simp [hmu, hml, hmt]⟩, .inr ⟨l₁, l₂, q, hsplit, ?_, by simp, by simp, rfl⟩,
      fun h => absurd hp h⟩
    rw [hpool', hmem, hpool, hsplit, swap_split q h₁ h₂]

theorem dispose_runs (hm : m < w.managers.length) :
    Calls.Swift (disposeCalls m) w fun ns _ u =>
      Made w u (madeIn ns) ∧ PoolOp.dispose.Does (w.pool m).members (u.pool m).members (madeIn ns) (closedIn ns) none := by
  refine .call (.reads (.call ((setMembers_sets _ hm).mono fun _ t ⟨hmem, hprox, hml⟩ => ?_)))
  refine (closeAll_runs _ t).mono fun ns _ u ⟨hmade, hclosed, hmu, hlu, _⟩ => ?_
  have hpool : u.pool m = t.pool m := by simp only [World.pool, hmu]
  have hnone : Made w u (madeIn ns) := by
    rw [hmade]
    exact .none (by simp [hlu, hprox]) (by simp [hmu, hml])
  exact ⟨hnone, by simp [hpool, hmem], by simp [hmade], by simp [hclosed]⟩

theorem PoolOp.runs (op : PoolOp) (hm : m < w.managers.length) (hnd : (w.pool m).members.Nodup) :
    Calls.Swift (op.calls m) w fun ns r u =>
      Made w u (madeIn ns) ∧ op.Does (w.pool m).members (u.pool m).members (madeIn ns) (closedIn ns) r := by
  cases op with
  | resize level => exact .bind ((resize_runs level hm).mono fun ns _ u h => .done (by simpa using h))
  | replace p => exact (replace_runs p hm hnd).mono fun _ _ _ h => ⟨h.1, h.2.1⟩
  | dispose => exact .bind ((dispose_runs hm).mono fun ns _ u h => .done (by simpa using h))

end Runs

/-! ## The books -/

/-- The books of the pool of manager `m` in world `w`, against the proxies its factory made and
those it closed, in order: the manager exists, every proxy made is a proxy of the world and was
made once, and each is either still in the pool or was closed, once. -/
structure Ledger (m : Nat) (w : World) (made closed : List Nat) : Prop where
  manager : m < w.managers.length
  nodup : made.Nodup
  lt : ∀ p ∈ made, p < w.proxies.length
  perm : ((w.pool m).members ++ closed).Perm made

namespace Ledger

variable {m : Nat} {w u : World} {made closed new gone : List Nat}

theorem nodup_members_closed (h : Ledger m w made closed) : ((w.pool m).members ++ closed).Nodup :=
  h.perm.nodup_iff.2 h.nodup

theorem members_nodup (h : Ledger m w made closed) : (w.pool m).members.Nodup :=
  h.nodup_members_closed.of_append_left

theorem closed_nodup (h : Ledger m w made closed) : closed.Nodup :=
  h.nodup_members_closed.of_append_right

theorem not_closed (h : Ledger m w made closed) {p : Nat} (hp : p ∈ (w.pool m).members) : p ∉ closed :=
  fun hc => (List.nodup_append.1 h.nodup_members_closed).2.2 p hp p hc rfl

theorem step (h : Ledger m w made closed) (hn : Made w u new)
    (hbal : ((w.pool m).members ++ new).Perm ((u.pool m).members ++ gone)) :
    Ledger m u (made ++ new) (closed ++ gone) where
  manager := Nat.lt_of_lt_of_le h.manager hn.managers
  nodup := List.nodup_append.2 ⟨h.nodup, hn.nodup, fun a ha b hb => Nat.ne_of_lt
    (Nat.lt_of_lt_of_le (h.lt a ha) (hn.mem hb).1)⟩
  lt p hp := by
    rcases List.mem_append.1 hp with hp | hp
    · have := h.lt p hp
      have := hn.count
      omega
    · exact (hn.mem hp).2
  perm := by
    -- what stays and what went now is what stood and what came
    have h₁ : ((u.pool m).members ++ (closed ++ gone)).Perm (((u.pool m).members ++ gone) ++ closed) := by
      rw [List.append_assoc]
      exact .append_left _ List.perm_append_comm
    have h₂ : (((w.pool m).members ++ new) ++ closed).Perm (((w.pool m).members ++ closed) ++ new) := by
      rw [List.append_assoc, List.append_assoc]
      exact .append_left _ List.perm_append_comm
    exact h₁.trans ((hbal.symm.append_right closed).trans (h₂.trans (h.perm.append_right new)))

end Ledger

theorem create_runs (f : Factory) (level : Nat) (shared discovers : Bool) (retryLimit : Nat) (w : World) :
    Calls.Swift (createCalls f level shared discovers retryLimit) w fun ns m u =>
      m = w.managers.length ∧ (u.pool m).members = madeIn ns ∧ (madeIn ns).length = max level 1 ∧
      closedIn ns = [] ∧ Ledger m u (madeIn ns) [] := by
  refine .call (.change ?_)
  -- the world with the new manager, whose pool is still empty
  have hm : w.managers.length < (w.managers ++ [newManager f shared discovers retryLimit]).length := by simp
  have h₀ : Ledger w.managers.length { w with managers := w.managers ++ [newManager f shared discovers retryLimit] }
      [] [] := ⟨hm, .nil, by simp, by simp [World.pool, newManager]⟩
  refine .bind ((makeMany_runs _ _ _).mono fun ns made t ⟨hmade, hclosed, hlen, hmk, hmt, _⟩ => ?_)
  refine .call ((setMembers_sets _ (hmt ▸ hm)).mono fun _ u ⟨hmem, hprox, hml⟩ => .done ?_)
  have hu : Made { w with managers := w.managers ++ [newManager f shared discovers retryLimit] } u made :=
    ⟨hmk.fresh, hprox ▸ hmk.count, hml ▸ hmk.managers⟩
  have h : Ledger w.managers.length u ([] ++ made) ([] ++ []) := h₀.step hu (by
    rw [hmem]
    simp [World.pool, newManager])
  refine ⟨rfl, by simp [hmem, hmade], by simp [hmade, hlen], by simp [hclosed], ?_⟩
  simpa [hmade, hclosed] using h

theorem Ledger.runs {m : Nat} {w : World} {made closed : List Nat} (h : Ledger m w made closed) (op : PoolOp) :
    Calls.Swift (op.calls m) w fun ns r u =>
      op.Does (w.pool m).members (u.pool m).members (madeIn ns) (closedIn ns) r ∧
      Ledger m u (made ++ madeIn ns) (closed ++ closedIn ns) :=
  (op.runs h.manager h.members_nodup).mono fun _ _ _ ⟨hn, hd⟩ => ⟨hd, h.step hn hd.perm⟩

def PoolOp.callsAll (m : Nat) : List PoolOp → Calls conductor Touch (List (Option Nat))
  | [] => .done []
  | op :: ops => (op.calls m).bind fun r => (callsAll m ops).bind fun rs => .done (r :: rs)

theorem Ledger.runsAll {m : Nat} {w : World} {made closed : List Nat} (h : Ledger m w made closed)
    (ops : List PoolOp) :
    Calls.Swift (PoolOp.callsAll m ops) w fun ns _ u => Ledger m u (made ++ madeIn ns) (closed ++ closedIn ns) := by
  induction ops generalizing w made closed with
  | nil => exact .done (by simpa using h)
  | cons op ops ih =>
    refine .bind ((h.runs op).mono fun ns _ t ⟨_, ht⟩ => .bind ((ih ht).mono fun ns' _ u hu => .done ?_))
    simpa [List.append_assoc] using hu

/-- A pool made by `create` and then changed by its operations, any of them in any order, keeps
its books: each operation runs at once and does what `PoolOp.Does` says; every proxy the factory
made is a new one, made once, and is either still pooled or was closed once; the pool holds no
proxy twice and no pooled proxy was closed. -/
theorem pool_keeps_books (w : World) (f : Factory) (level : Nat) (shared discovers : Bool) (retryLimit : Nat)
    (ops : List PoolOp) (op : PoolOp) :
    create f level shared discovers retryLimit = (createCalls f level shared discovers retryLimit).run ∧
    (∀ m n, resize m n = (resizeCalls m n).run) ∧ (∀ m p, replace m p = (replaceCalls m p).run) ∧
    (∀ m, dispose m = (disposeCalls m).run) ∧
    Calls.Swift (createCalls f level shared discovers retryLimit) w fun ns₀ m u₀ =>
      m = w.managers.length ∧ (u₀.pool m).members = madeIn ns₀ ∧ (madeIn ns₀).length = max level 1 ∧
      closedIn ns₀ = [] ∧
      Calls.Swift (PoolOp.callsAll m ops) u₀ fun ns₁ _ u₁ =>
        Calls.Swift (op.calls m) u₁ fun ns₂ r u₂ =>
          op.Does (u₁.pool m).members (u₂.pool m).members (madeIn ns₂) (closedIn ns₂) r ∧
          Ledger m u₂ (madeIn (ns₀ ++ ns₁ ++ ns₂)) (closedIn (ns₀ ++ ns₁ ++ ns₂)) ∧
          (u₂.pool m).members.Nodup ∧ (closedIn (ns₀ ++ ns₁ ++ ns₂)).Nodup ∧
          ∀ p ∈ (u₂.pool m).members, p ∉ closedIn (ns₀ ++ ns₁ ++ ns₂) := by
  refine ⟨create_eq .., resize_eq, replace_eq, dispose_eq, ?_⟩
  refine (create_runs f level shared discovers retryLimit w).mono fun ns₀ m u₀ ⟨hm, hmem, hlen, hclosed, h₀⟩ =>
    ⟨hm, hmem, hlen, hclosed, ?_⟩
  refine (h₀.runsAll ops).mono fun ns₁ _ u₁ h₁ => (h₁.runs op).mono fun ns₂ r u₂ ⟨hd, h₂⟩ => ⟨hd, ?_⟩
  have h : Ledger m u₂ (madeIn (ns₀ ++ ns₁ ++ ns₂)) (closedIn (ns₀ ++ ns₁ ++ ns₂)) := by
    simpa [hclosed] using h₂
  exact ⟨h, h.members_nodup, h.closed_nodup, fun p hp => h.not_closed hp⟩

end Pool

end TestConductor
