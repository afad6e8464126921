import TestConductor.Proofs.Parallel.Conservation
/-! # Which proxy holds a unit

While a request is served, each unit handed out is held by one proxy: the one it was handed to,
or, once that proxy refused it, the fresh proxy that replaced it. A completion waiting to be
folded holds the proxy chosen for the next unit. In an honest run no proxy holds two units,
every holder is in the pool, and the pool holds no proxy twice and none not yet made. So a
refused unit always has a replacement, and every completion a proxy for the next unit.
-/
namespace TestConductor

namespace Pool

theorem mem_swap {ps : List Nat} {old fresh x : Nat} :
    x ∈ swap ps old fresh ↔ (x ∈ ps ∧ x ≠ old) ∨ (x = fresh ∧ old ∈ ps) := by
  simp only [swap, List.mem_map]
  constructor
  · rintro ⟨p, hp, rfl⟩
    by_cases h : p = old
    · subst h
      exact .inr ⟨by simp, hp⟩
    · exact .inl ⟨by simpa [h] using hp, by simp [h]⟩
  · rintro (⟨hx, hne⟩ | ⟨rfl, hold⟩)
    · exact ⟨x, hx, by simp [hne]⟩
    · exact ⟨old, hold, by simp⟩

theorem swap_nodup {ps : List Nat} {old fresh : Nat} (h : ps.Nodup) (hf : fresh ∉ ps) :
    (swap ps old fresh).Nodup := by
  unfold swap
  rw [List.Nodup, List.pairwise_map]
  refine h.imp_of_mem fun {a b} ha hb hab => ?_
  by_cases ha' : a = old <;> by_cases hb' : b = old
  · exact absurd (ha'.trans hb'.symm) hab
  · have : fresh ≠ b := fun e => hf (e ▸ hb)
    simpa [ha', hb'] using this
  · have : a ≠ fresh := fun e => hf (e ▸ ha)
    simpa [ha', hb'] using this
  · simpa [ha', hb'] using hab

end Pool

/-- The proxy holding a flight's unit: the one it was handed to, or once that one refused it,
its replacement. -/
def Flight.holder (f : Flight) : Option Nat :=
  match f.stage with
  | .refused r _ => r
  | _ => some f.proxy

namespace Flow

def holders (s : Flow) : List Nat :=
  s.flights.filterMap Flight.holder ++ s.pending.filterMap (·.next)

@[simp] theorem holder_offered (p : Nat) (ctx : Context) (item : WorkItem) :
    (⟨p, ctx, item, .offered, []⟩ : Flight).holder = some p := rfl

theorem holders_take_flight {s : Flow} {pre post : List Flight} {f : Flight}
    (h : s.flights = pre ++ f :: post) (p : Nat) :
    s.holders.count p = ({ s with flights := pre ++ post }).holders.count p + f.holder.toList.count p := by
  cases hf : f.holder <;> simp [holders, h, hf, List.filterMap_append, List.count_append, List.count_cons]
  omega

theorem holders_take_pending {s : Flow} {pre post : List Pending} {q : Pending}
    (h : s.pending = pre ++ q :: post) (p : Nat) :
    s.holders.count p = ({ s with pending := pre ++ post }).holders.count p + q.next.toList.count p := by
  cases hq : q.next <;> simp [holders, h, hq, List.filterMap_append, List.count_append, List.count_cons]
  omega

theorem fold_holders (s : Flow) (q : Pending) (p : Nat) :
    (s.fold q).holders.count p ≤ s.holders.count p + q.next.toList.count p := by
  rcases fold_cases s q with h | h | ⟨ctx, t, nx, done, -, ha, h⟩ <;> rw [h]
  · exact Nat.le_add_right _ _
  · exact Nat.le_add_right _ _
  · have hnext := (Manager.account_settled ha).next
    cases nx with
    | none => simp [holders]
    | some x =>
      -- the unit handed on goes to the proxy the completion chose
      have hq : q.next = some x.1 := (Tracker.nextAfter_some hnext.symm).1
      simp [holders, hq, List.filterMap_append, List.count_append, List.count_cons]
      omega

theorem retry_holders (s : Flow) (f : Flight) (r : Option Nat) (e : Error) (p : Nat) :
    (s.retry f r e).holders.count p ≤ s.holders.count p + r.toList.count p := by
  rcases retry_cases s f r e with h | ⟨ctx, next, -, hr, h⟩ | ⟨ctx, -, -, h⟩ <;> rw [h]
  · exact Nat.le_add_right _ _
  · have hnext : r = some next.1 := (Tracker.retried_some hr).1
    rw [handOut_eq]
    simp [holders, retrying, hnext, List.filterMap_append, List.count_append, List.count_cons]
    omega
  · exact fold_holders _ _ p

/-- The first stretch of a completion handler for a request still served keeps the flights,
swaps the completing proxy when it must, and leaves the completion waiting with the proxy
chosen for the next unit. -/
theorem report_shape (s : Flow) (p id : Nat) (r : Report) (u : Option WorkItem) {ctx : Context}
    (hx : s.tracker.context id = some ctx) :
    (s.report p id r u).flights = s.flights ∧
      (s.report p id r u).pending = s.pending ++ [⟨ctx, r, (s.successor p r.aborted).1, u⟩] ∧
      (s.report p id r u).pool = (if s.swaps p r.aborted then Pool.swap s.pool p s.made else s.pool) ∧
      (s.report p id r u).made = if s.swaps p r.aborted then s.made + 1 else s.made := by
  -- the chunk told first does not change which proxy comes next
  have hs : ({ s with out := s.out ++ (r.chunkEvent.map ((some id, ·))).toList }.successor p r.aborted).1 =
      (s.successor p r.aborted).1 := by
    rw [successor_fst, successor_fst]
    rfl
  rw [report_current s p id r u hx]
  dsimp only
  rw [hs, successor_snd]
  refine ⟨rfl, rfl, ?_, ?_⟩ <;> simp [swaps]

theorem zip_map_fst {α β : Type} (xs : List α) (ys : List β) :
    (xs.zip ys).map Prod.fst = xs.take ys.length := by
  induction xs generalizing ys with
  | nil => simp
  | cons x xs ih =>
    cases ys with
    | nil => simp
    | cons y ys => simp [ih]

theorem holders_tell (s : Flow) (p : Nat) (k : StopRequest) : (s.tell p k).holders = s.holders := by
  simp only [holders, tell, List.filterMap_map]
  congr 2
  funext f
  simp only [Function.comp]
  split <;> rfl

end Flow

open TestConductor.Flow

/-- Who holds the units of the request served, in an honest run. -/
structure Owned (s : Flow) : Prop where
  /-- No proxy holds two units. -/
  single : ∀ p, s.holders.count p ≤ 1
  /-- Every holder is in the pool. -/
  pooled : ∀ p ∈ s.holders, p ∈ s.pool
  /-- A refused unit has a replacement. -/
  replaced : ∀ f ∈ s.flights, f.holder.isSome
  /-- A completion waiting to be folded has a proxy for the next unit. -/
  chosen : ∀ q ∈ s.pending, q.next.isSome
  /-- The pool holds no proxy twice. -/
  distinct : s.pool.Nodup
  /-- The pool holds no proxy not yet made. -/
  made : ∀ p ∈ s.pool, p < s.made

namespace Owned

variable {s s' : Flow}

theorem init (discovers shared : Bool) (level limit : Nat) :
    Owned (Flow.init discovers shared level limit) where
  single p := by simp [Flow.init, holders]
  pooled p h := by simp [Flow.init, holders] at h
  replaced f h := by simp [Flow.init] at h
  chosen q h := by simp [Flow.init] at h
  distinct := by simpa [Flow.init, Flow.pool] using List.nodup_range
  made p h := by simpa [Flow.init, Flow.pool] using h

theorem fresh_not_holder (ho : Owned s) : s.holders.count s.made = 0 := by
  apply List.count_eq_zero.2
  intro h
  exact Nat.lt_irrefl _ (ho.made _ (ho.pooled _ h))

theorem shed (ho : Owned s) (hc : ∀ p, s'.holders.count p ≤ s.holders.count p) (hpool : s'.pool = s.pool)
    (hmade : s'.made = s.made) (hrep : ∀ f ∈ s'.flights, f.holder.isSome)
    (hch : ∀ q ∈ s'.pending, q.next.isSome) : Owned s' := by
  refine ⟨fun p => Nat.le_trans (hc p) (ho.single p), fun p hp => ?_, hrep, hch, hpool ▸ ho.distinct, ?_⟩
  · have hpos : 0 < s.holders.count p := Nat.lt_of_lt_of_le (List.count_pos_iff.2 hp) (hc p)
    rw [hpool]
    exact ho.pooled p (List.count_pos_iff.1 hpos)
  · intro p hp
    rw [hmade]
    exact ho.made p (hpool ▸ hp)

theorem renew (ho : Owned s) {p : Nat} (hp : p ∈ s.holders)
    (hc : ∀ x, s'.holders.count x + (if p = x then 1 else 0) = s.holders.count x + (if s.made = x then 1 else 0))
    (hpool : s'.pool = Pool.swap s.pool p s.made) (hmade : s'.made = s.made + 1)
    (hrep : ∀ f ∈ s'.flights, f.holder.isSome) (hch : ∀ q ∈ s'.pending, q.next.isSome) : Owned s' := by
  have hpin : p ∈ s.pool := ho.pooled p hp
  have hpm : p ≠ s.made := Nat.ne_of_lt (ho.made p hpin)
  have hfresh := ho.fresh_not_holder
  have hone : s.holders.count p = 1 := Nat.le_antisymm (ho.single p) (List.count_pos_iff.2 hp)
  refine ⟨fun x => ?_, fun x hx => ?_, hrep, hch, ?_, ?_⟩
  · have hcx := hc x
    by_cases hxp : x = p
    · -- the holder swapped out holds nothing any more
      subst hxp
      rw [if_pos rfl, if_neg (Ne.symm hpm)] at hcx
      omega
    · by_cases hxm : x = s.made
      · -- the fresh proxy holds one unit, having held none
        subst hxm
        rw [if_neg hpm, if_pos rfl] at hcx
        omega
      · rw [if_neg (Ne.symm hxp), if_neg (Ne.symm hxm)] at hcx
        have := ho.single x
        omega
  · have hpos := List.count_pos_iff.2 hx
    have hcx := hc x
    rw [hpool, Pool.mem_swap]
    by_cases hxm : x = s.made
    · exact .inr ⟨hxm, hpin⟩
    · -- any other holder was a holder before, and not the one swapped out
      have hxp : x ≠ p := by
        rintro rfl
        rw [if_pos rfl, if_neg (Ne.symm hpm)] at hcx
        omega
      rw [if_neg (Ne.symm hxp), if_neg (Ne.symm hxm)] at hcx
      exact .inl ⟨ho.pooled x (List.count_pos_iff.1 (by omega)), hxp⟩
  · rw [hpool]
    exact Pool.swap_nodup ho.distinct fun h => Nat.lt_irrefl _ (ho.made _ h)
  · intro x hx
    rw [hmade]
    rw [hpool, Pool.mem_swap] at hx
    rcases hx with ⟨hx, -⟩ | ⟨rfl, -⟩
    · exact Nat.lt_succ_of_lt (ho.made x hx)
    · exact Nat.lt_succ_self _

theorem congr (ho : Owned s) (hf : s'.flights = s.flights) (hp : s'.pending = s.pending)
    (hpool : s'.pool = s.pool) (hmade : s'.made = s.made) : Owned s' :=
  ho.shed (fun x => by simp [holders, hf, hp]) hpool hmade (hf ▸ ho.replaced) (hp ▸ ho.chosen)

theorem restage (ho : Owned s) {pre post : List Flight} {f f' : Flight} (h : s.flights = pre ++ f :: post)
    (hf : f'.holder = f.holder) (h' : s'.flights = pre ++ f' :: post) (hp : s'.pending = s.pending)
    (hpool : s'.pool = s.pool) (hmade : s'.made = s.made) : Owned s' := by
  have hc : ∀ x, s'.holders.count x = s.holders.count x := by
    intro x
    rw [holders_take_flight h, holders_take_flight h', hf]
    simp [holders, hp]
  refine ho.shed (fun x => Nat.le_of_eq (hc x)) hpool hmade (fun g hg => ?_) (hp ▸ ho.chosen)
  rw [h'] at hg
  rcases List.mem_append.1 hg with hg | hg
  · exact ho.replaced g (by simp [h, hg])
  · rcases List.mem_cons.1 hg with rfl | hg
    · rw [hf]
      exact ho.replaced f (by simp [h])
    · exact ho.replaced g (by simp [h, hg])

theorem begin (ho : Owned s) (hh : Holding s 0) (c : UnitCriteria) : Owned (s.begin c) := by
  by_cases he : c.workItems = []
  · rw [begin_empty s c he]
    exact ho.congr rfl rfl rfl rfl
  · cases hp : s.tracker.isInProgress with
    | true =>
      rw [begin_busy s c he hp]
      exact ho
    | false =>
      -- nothing was served, so no unit was held
      obtain ⟨hf, hq⟩ := hh.idle hp
      have hbatch : (s.begin c).holders = s.pool.take c.workItems.length := by
        rw [begin_new s c he hp]
        simp [holders, hf, hq, List.filterMap_map, Function.comp_def, ← zip_map_fst]
      have hnd : (s.pool.take c.workItems.length).Nodup := (List.take_sublist _ _).nodup ho.distinct
      have hpool : (s.begin c).pool = s.pool := by rw [begin_new s c he hp]; rfl
      have hmade : (s.begin c).made = s.made := by rw [begin_new s c he hp]; rfl
      refine ⟨fun x => ?_, fun x hx => ?_, fun f hf' => ?_, fun q hq' => ?_, hpool ▸ ho.distinct, ?_⟩
      · rw [hbatch, hnd.count]
        split <;> omega
      · rw [hbatch] at hx
        rw [hpool]
        exact List.mem_of_mem_take hx
      · rw [begin_new s c he hp] at hf'
        simp only [hf, List.nil_append, List.mem_map] at hf'
        obtain ⟨x, -, rfl⟩ := hf'
        rfl
      · rw [begin_new s c he hp] at hq'
        simp [hq] at hq'
      · intro x hx
        rw [hmade]
        exact ho.made x (hpool ▸ hx)

theorem resize (ho : Owned s) (hh : Holding s 0) (level : Nat) : Owned (s.resize level) := by
  unfold Flow.resize
  split
  · exact ho
  · rename_i hp
    dsimp only
    obtain ⟨hf, hq⟩ := hh.idle (by simpa using hp)
    split
    · refine ⟨fun x => by simp [holders, hf, hq], fun x hx => by simp [holders, hf, hq] at hx,
        fun f hf' => by simp [hf] at hf', fun q hq' => by simp [hq] at hq', ?_, ?_⟩
      · -- the fresh proxies are numbered from the count made, past every proxy of the pool
        simp only [pool_mk, setPool]
        refine List.nodup_append.2 ⟨ho.distinct, List.nodup_range', fun a ha b hb hab => ?_⟩
        have := ho.made a ha
        obtain ⟨i, -, rfl⟩ := List.mem_range'.1 hb
        omega
      · intro x hx
        simp only [pool_mk, setPool, List.mem_append] at hx ⊢
        rcases hx with hx | hx
        · have := ho.made x hx
          omega
        · obtain ⟨i, hi, rfl⟩ := List.mem_range'.1 hx
          omega
    · refine ⟨fun x => by simp [holders, hf, hq], fun x hx => by simp [holders, hf, hq] at hx,
        fun f hf' => by simp [hf] at hf', fun q hq' => by simp [hq] at hq', ?_, ?_⟩
      · exact (List.take_sublist _ _).nodup ho.distinct
      · intro x hx
        exact ho.made x (List.mem_of_mem_take hx)

theorem tell (ho : Owned s) (p : Nat) (k : StopRequest) : Owned (s.tell p k) := by
  refine ho.shed (fun x => Nat.le_of_eq (by rw [holders_tell])) rfl rfl (fun g hg => ?_) ho.chosen
  simp only [Flow.tell, List.mem_map] at hg
  obtain ⟨g', hg', rfl⟩ := hg
  have := ho.replaced g' hg'
  split <;> simpa [Flight.holder] using this

/-- A proxy completing its unit hands the next unit on: to itself when hosts are shared and the
unit did not abort, and otherwise to a fresh proxy swapped in for it. The completion starts from
`s₁`, which is `s` with the completed unit taken out. -/
theorem report (ho : Owned s) (s₁ : Flow) {p id : Nat} {ctx : Context} (hp : p ∈ s.holders)
    (hc : ∀ x, s.holders.count x = s₁.holders.count x + (if p = x then 1 else 0))
    (hpool : s₁.pool = s.pool) (hmade : s₁.made = s.made) (hrep : ∀ f ∈ s₁.flights, f ∈ s.flights)
    (hpend : s₁.pending = s.pending) (hx : s₁.tracker.context id = some ctx) (r : Report)
    (u : Option WorkItem) : Owned (s₁.report p id r u) := by
  obtain ⟨hfl, hpe, hpool', hmade'⟩ := report_shape s₁ p id r u hx
  have hin : p ∈ s₁.pool := hpool ▸ ho.pooled p hp
  have hrep' : ∀ g ∈ (s₁.report p id r u).flights, g.holder.isSome :=
    fun g hg => ho.replaced g (hrep g (hfl ▸ hg))
  have hcount : ∀ x, (s₁.report p id r u).holders.count x =
      s₁.holders.count x + (s₁.successor p r.aborted).1.toList.count x := by
    intro x
    rw [holders, hfl, hpe]
    cases (s₁.successor p r.aborted).1 <;> simp [holders, List.filterMap_append, List.count_append]
    omega
  have hchosen : ∀ q ∈ (s₁.report p id r u).pending, (s₁.successor p r.aborted).1.isSome = true →
      q.next.isSome := by
    intro q hq hn
    rw [hpe, hpend] at hq
    rcases List.mem_append.1 hq with hq | hq
    · exact ho.chosen q hq
    · rw [List.mem_singleton] at hq
      subst hq
      exact hn
  by_cases ha : (r.aborted || !s₁.manager.pool.shared) = true
  · -- an aborted unit, or a pool that does not share hosts: a fresh proxy takes the next unit
    have hsw : s₁.swaps p r.aborted = true := by simp [swaps, ha, hin]
    have hnext : (s₁.successor p r.aborted).1 = some s.made := by rw [successor_fst, if_pos hsw, hmade]
    refine ho.renew hp (fun x => ?_) (by rw [hpool', if_pos hsw, hpool, hmade])
      (by rw [hmade', if_pos hsw, hmade]) hrep' (fun q hq => hchosen q hq (by simp [hnext]))
    rw [hcount, hc x, hnext]
    simp [List.count_cons]
    omega
  · -- the same proxy takes the next unit
    have hsw : s₁.swaps p r.aborted = false := by
      simp only [swaps, Bool.and_eq_false_iff]
      exact .inl (by simpa using ha)
    have hnext : (s₁.successor p r.aborted).1 = some p := by
      rw [successor_fst, if_neg (by simp [hsw]), if_neg ha]
    refine ho.shed (fun x => ?_) (by rw [hpool', if_neg (by simp [hsw]), hpool])
      (by rw [hmade', if_neg (by simp [hsw]), hmade]) hrep' (fun q hq => hchosen q hq (by simp [hnext]))
    rw [hcount, hc x, hnext]
    simp [List.count_cons]

theorem step (ho : Owned s) (hh : Holding s 0) (hs : Step s s') (hr : s'.rogue = false) : Owned s' := by
  cases hs with
  | begin pre post c _ =>
    have hh' : Holding { s with serves := pre ++ post } 0 := hh.congr rfl rfl rfl rfl rfl
    have ho' : Owned { s with serves := pre ++ post } := ho.congr rfl rfl rfl rfl
    exact ho'.begin hh' c
  | accept pre post f h hf =>
    refine ho.restage h ?_ rfl rfl rfl rfl
    simp [Flight.holder, hf]
  | refuse pre post f e h hf =>
    -- the proxy that refused is swapped for a fresh one, which takes over its unit
    have hhold : f.holder = some f.proxy := by simp [Flight.holder, hf]
    have hp : f.proxy ∈ s.holders := by
      apply List.count_pos_iff.1
      rw [holders_take_flight h, hhold]
      simp
    have hin : f.proxy ∈ s.pool := ho.pooled _ hp
    refine ho.renew hp (fun x => ?_) ?_ ?_ (fun g hg => ?_) (fun q hq => ?_)
    · rw [holders_take_flight h x, hhold]
      simp [holders, replace_fst, replace_snd, hin, Flight.holder, List.filterMap_append, List.count_append,
        List.count_cons]
      omega
    · simp [replace_snd, hin]
    · simp [replace_snd, hin]
    · simp only [List.mem_append, List.mem_cons] at hg
      rcases hg with hg | rfl | hg
      · exact ho.replaced g (by simp [h, hg])
      · simp [Flight.holder, replace_fst, hin]
      · exact ho.replaced g (by simp [h, hg])
    · exact ho.chosen q (by simpa [replace_snd] using hq)
  | retry pre post f r e h hf =>
    -- the refused unit goes to its replacement, or is let go
    have hhold : f.holder = r := by simp [Flight.holder, hf]
    obtain ⟨extra, hfl, hoff⟩ := retry_flights { s with flights := pre ++ post } f r e
    obtain ⟨t, fl, hd, mg, gu, fo, o, u, ov, hfr⟩ := retry_frame { s with flights := pre ++ post } f r e
    refine ho.shed (fun x => ?_) (by rw [hfr]; rfl) (by rw [hfr]; rfl) (fun g hg => ?_) (fun q hq => ?_)
    · have := retry_holders { s with flights := pre ++ post } f r e x
      rw [holders_take_flight h x, hhold]
      exact this
    · rw [hfl] at hg
      rcases List.mem_append.1 hg with hg | hg
      · exact ho.replaced g (mem_of_mem_split h hg)
      · simp [Flight.holder, hoff g hg]
    · have hq' : q ∈ s.pending := by
        rw [hfr] at hq
        exact hq
      exact ho.chosen q hq'
  | complete pre post f r h hf _ =>
    have hhold : f.holder = some f.proxy := by simp [Flight.holder, hf]
    have hp : f.proxy ∈ s.holders := by
      apply List.count_pos_iff.1
      rw [holders_take_flight h, hhold]
      simp
    have hx : ({ s with flights := pre ++ post } : Flow).tracker.context f.ctx.id = some f.ctx :=
      (Tracker.context_eq_some _ _ _).2 (hh.flights f (by simp [h]))
    refine ho.report { s with flights := pre ++ post } hp (fun x => ?_) rfl rfl
      (fun g hg => mem_of_mem_split h hg) rfl hx r (some f.item)
    rw [holders_take_flight h x, hhold]
    simp [List.count_cons]
  | stray p id r _ =>
    have := (report_flags { s with rogue := true } p id r none).1
    simp [this] at hr
  | strayEvent id e _ => simp at hr
  | fold pre post q h =>
    obtain ⟨extra, hfl, hoff⟩ := fold_flights { s with pending := pre ++ post } q
    obtain ⟨t, fl, hd, fo, o, u, ov, hfr⟩ := fold_frame { s with pending := pre ++ post } q
    refine ho.shed (fun x => ?_) (by rw [hfr]; rfl) (by rw [hfr]; rfl) (fun g hg => ?_) (fun q' hq' => ?_)
    · have := fold_holders { s with pending := pre ++ post } q x
      rw [holders_take_pending h x]
      exact this
    · rw [hfl] at hg
      rcases List.mem_append.1 hg with hg | hg
      · exact ho.replaced g hg
      · simp [Flight.holder, hoff g hg]
    · have hq'' : q' ∈ pre ++ post := by
        rw [hfr] at hq'
        exact hq'
      exact ho.chosen q' (mem_of_mem_split h hq'')
  | forward pre post p j _ =>
    have ho' : Owned { s with forwards := pre ++ post } := ho.congr rfl rfl rfl rfl
    unfold forward
    split
    · exact ho'.tell p _
    · exact ho'
  | stop k _ =>
    rw [stop_eq]
    split <;> exact ho.congr rfl rfl rfl rfl
  | act pre post p k _ =>
    have ho' : Owned { s with actions := pre ++ post } := ho.congr rfl rfl rfl rfl
    exact ho'.tell p k
  | close =>
    rw [close_eq]
    exact ho.congr rfl rfl rfl rfl
  | resize level => exact ho.resize hh level
  | call | unready | relay | closeNext => exact ho.congr rfl rfl rfl rfl

end Owned

theorem owned_reachable {s : Flow} (h : Reachable s) (hr : s.rogue = false) : Owned s := by
  induction h with
  | init discovers shared level limit => exact Owned.init discovers shared level limit
  | step hreach hs ih =>
    have hr₀ := hs.flags_before.1 hr
    exact (ih hr₀).step (holding_reachable hreach hr₀) hs hr

/-! ## Units never handed out

A request hands out its next unit whenever a completion is folded, unless a stop was asked for;
so when it ends with units still queued, a stop was asked for it. -/

/-- The stops asked for the request served are recorded, and a request that left units unsent
had a stop asked for. -/
structure Stopped (s : Flow) : Prop where
  /-- A stop of the request served was recorded for it. -/
  asked : ∀ id ctx, s.tracker.current = some (id, ctx) → s.tracker.stopRequested = true →
    ∃ k, (id, k) ∈ s.asked
  /-- A request left units unsent only after a stop was asked for it. -/
  unsent : ∀ id, unsentOf id s.unsent ≠ [] → ∃ k, (id, k) ∈ s.asked

namespace Stopped

variable {s s' : Flow}

theorem init (discovers shared : Bool) (level limit : Nat) :
    Stopped (Flow.init discovers shared level limit) where
  asked id ctx h := by simp [Flow.init, Flow.tracker, Tracker.new] at h
  unsent id h := by simp [Flow.init] at h

theorem congr (hs : Stopped s) (hc : s'.tracker.current = s.tracker.current)
    (hf : s'.tracker.stopRequested = s.tracker.stopRequested) (ha : s'.asked = s.asked)
    (hu : s'.unsent = s.unsent) : Stopped s' := by
  refine ⟨fun id ctx h hs' => ?_, fun id h => ?_⟩
  · rw [ha]
    exact hs.asked id ctx (hc ▸ h) (hf ▸ hs')
  · rw [ha]
    exact hs.unsent id (hu ▸ h)

theorem fold (hs : Stopped s) {q : Pending} (hq : q.next.isSome) : Stopped (s.fold q) := by
  obtain ⟨p, hp⟩ := Option.isSome_iff_exists.1 hq
  rcases fold_cases s q with h | h | ⟨ctx, t, nx, done, hcur, ha, h⟩ <;> rw [h]
  · exact hs
  · exact hs.congr rfl rfl rfl rfl
  · have hst := Manager.account_settled ha
    have hflags : t.stopRequested = s.tracker.stopRequested := by
      simp [Tracker.stopRequested, hst.abortRequested, hst.cancelRequested]
    cases done with
    | none =>
      have hcur' : t.current = s.tracker.current := by simpa using hst.current
      refine hs.congr ?_ ?_ rfl ?_ <;> cases nx <;> simp [hcur', hflags]
    | some e =>
      -- the request ends with nothing in flight, so no unit was handed on
      have hnx : nx = none := by
        have h0 : t.inFlight = 0 := hst.ended.1 rfl
        have := hst.inFlight
        cases nx with
        | none => rfl
        | some x => simp at this; omega
      subst hnx
      have hqueue : t.queue = s.tracker.queue := by simpa using hst.queue
      refine ⟨fun id ctx' h _ => ?_, fun id h => ?_⟩
      · have hcur' : t.current = none := by simpa using hst.current
        simp [hcur'] at h
      · simp only [unsentOf_append, Option.map_some, Option.toList_some, unsentOf_cons, unsentOf_nil,
          List.append_nil] at h
        by_cases h₀ : unsentOf id s.unsent = []
        · -- units were still queued: the next one was not handed out, so a stop was asked for
          rw [h₀, List.nil_append] at h
          by_cases hid : q.ctx.id = id
          · subst hid
            rw [if_pos rfl, hqueue] at h
            have hnone : s.tracker.nextAfter (some p) = none := by rw [← hp, ← hst.next]
            rcases Tracker.nextAfter_none hnone with hstop | hempty
            · exact hs.asked _ ctx hcur hstop
            · exact absurd hempty h
          · rw [if_neg hid] at h
            exact absurd rfl h
        · exact hs.unsent id h₀

theorem retry (hs : Stopped s) {f : Flight} {r : Option Nat} (hr : r.isSome) (e : Error) :
    Stopped (s.retry f r e) := by
  rcases retry_cases s f r e with h | ⟨ctx, next, -, -, h⟩ | ⟨ctx, -, -, h⟩ <;> rw [h]
  · exact hs
  · rw [handOut_eq]
    exact hs.congr rfl rfl rfl rfl
  · have hs' : Stopped (s.givingUp f r e) := hs.congr rfl rfl rfl rfl
    exact hs'.fold hr

theorem stop (hs : Stopped s) (k : StopRequest) : Stopped (s.stop k) := by
  rw [stop_eq]
  split
  · rename_i hsome
    obtain ⟨⟨id, ctx⟩, hcur⟩ := Option.isSome_iff_exists.1 hsome
    refine ⟨fun id' ctx' h _ => ?_, fun id' h => ?_⟩
    · simp only [tracker_mk, setTracker] at h
      rw [hcur] at h
      cases h
      exact ⟨k, by simp [hcur]⟩
    · obtain ⟨k', hk'⟩ := hs.unsent id' h
      exact ⟨k', by simp [hk']⟩
  · exact hs

theorem begin (hs : Stopped s) (c : UnitCriteria) : Stopped (s.begin c) := by
  by_cases he : c.workItems = []
  · rw [begin_empty s c he]
    exact hs.congr rfl rfl rfl rfl
  · cases hp : s.tracker.isInProgress with
    | true =>
      rw [begin_busy s c he hp]
      exact hs
    | false =>
      -- a new request starts with no stop asked for
      rw [begin_new s c he hp]
      refine ⟨fun id ctx _ h => ?_, hs.unsent⟩
      simp [Tracker.stopRequested] at h

theorem step (hs : Stopped s) (ho : Owned s) (hs' : Step s s') : Stopped s' := by
  cases hs' with
  | begin pre post c _ =>
    have hs₁ : Stopped { s with serves := pre ++ post } := hs.congr rfl rfl rfl rfl
    exact hs₁.begin c
  | retry pre post f r e h _ =>
    have hr : r.isSome := by
      have := ho.replaced f (by simp [h])
      simpa [Flight.holder, *] using this
    have hs₁ : Stopped { s with flights := pre ++ post } := hs.congr rfl rfl rfl rfl
    exact hs₁.retry hr e
  | complete pre post f r _ _ _ =>
    obtain ⟨ps, made, cl, o, pe, h, -⟩ :=
      report_frame { s with flights := pre ++ post } f.proxy f.ctx.id r (some f.item)
    rw [h]
    exact hs.congr rfl rfl rfl rfl
  | stray p id r _ =>
    obtain ⟨ps, made, cl, o, pe, h, -⟩ := report_frame { s with rogue := true } p id r none
    rw [h]
    exact hs.congr rfl rfl rfl rfl
  | fold pre post q h =>
    have hs₁ : Stopped { s with pending := pre ++ post } := hs.congr rfl rfl rfl rfl
    exact hs₁.fold (ho.chosen q (by simp [h]))
  | forward pre post p j _ =>
    unfold forward
    split <;> exact hs.congr rfl rfl rfl rfl
  | stop k _ => exact hs.stop k
  | close =>
    rw [close_eq]
    exact hs.congr rfl rfl rfl rfl
  | resize level =>
    obtain ⟨ps, made, closed, h⟩ := resize_frame s level
    rw [h]
    exact hs.congr rfl rfl rfl rfl
  | refuse pre post f e _ _ =>
    exact hs.congr (by simp [replace_snd]) (by simp [replace_snd]) (by simp [replace_snd]) (by simp [replace_snd])
  | call | unready | accept | relay | strayEvent | act | closeNext => exact hs.congr rfl rfl rfl rfl

end Stopped

theorem stopped_reachable {s : Flow} (h : Reachable s) (hr : s.rogue = false) : Stopped s := by
  induction h with
  | init discovers shared level limit => exact Stopped.init discovers shared level limit
  | step hreach hs ih =>
    have hr₀ := hs.flags_before.1 hr
    exact (ih hr₀).step (owned_reachable hreach hr₀) hs

end TestConductor
