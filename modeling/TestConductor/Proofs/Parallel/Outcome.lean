import TestConductor.Proofs.Parallel.Tallies
import TestConductor.Proofs.Parallel.Conservation
/-! # What the completion of a request says

Whatever the proxies do, the completion that ends a request is the outcome of the partials
folded into it, in the order they were folded, with the stops recorded while it was served and
the units it left unsent; and the caller was told the last chunk of each of those partials
before the completion.
-/
namespace TestConductor

namespace Flow

def reportsOf (id : Nat) (xs : List (Nat × Report)) : List Report :=
  (xs.filter fun d => decide (d.1 = id)).map (·.2)

@[simp] theorem reportsOf_nil (id : Nat) : reportsOf id [] = [] := rfl

@[simp] theorem reportsOf_append (id : Nat) (xs ys : List (Nat × Report)) :
    reportsOf id (xs ++ ys) = reportsOf id xs ++ reportsOf id ys := by
  simp [reportsOf, List.filter_append]

@[simp] theorem reportsOf_singleton (id j : Nat) (r : Report) :
    reportsOf id [(j, r)] = if j = id then [r] else [] := by
  by_cases h : j = id <;> simp [reportsOf, h]

def chunksOf (rs : List Report) : List CallerEvent := rs.filterMap Report.chunkEvent

@[simp] theorem chunksOf_nil : chunksOf [] = [] := rfl

@[simp] theorem chunksOf_append (rs rs' : List Report) : chunksOf (rs ++ rs') = chunksOf rs ++ chunksOf rs' := by
  simp [chunksOf, List.filterMap_append]

@[simp] theorem chunksOf_cons (r : Report) (rs : List Report) :
    chunksOf (r :: rs) = r.chunkEvent.toList ++ chunksOf rs := by
  cases h : r.chunkEvent <;> simp [chunksOf, h]

def waitingChunks (id : Nat) (ps : List Pending) : List CallerEvent :=
  chunksOf ((ps.filter fun q => decide (q.ctx.id = id)).map (·.report))

@[simp] theorem waitingChunks_nil (id : Nat) : waitingChunks id [] = [] := rfl

@[simp] theorem waitingChunks_append (id : Nat) (ps ps' : List Pending) :
    waitingChunks id (ps ++ ps') = waitingChunks id ps ++ waitingChunks id ps' := by
  simp [waitingChunks, List.filter_append]

@[simp] theorem waitingChunks_cons (id : Nat) (q : Pending) (ps : List Pending) :
    waitingChunks id (q :: ps) = (if q.ctx.id = id then q.report.chunkEvent.toList else []) ++ waitingChunks id ps := by
  by_cases h : q.ctx.id = id <;> simp [waitingChunks, h]

/-- Request `id` ended with `e`: the outcome of the reports folded into it, the stops recorded for
it and the units it left unsent, told after the last chunk of each of those reports. -/
def Concludes (s : Flow) (id : Nat) (e : CallerEvent) : Prop :=
  outcome s.manager.discovers (reportsOf id s.folded) (decide ((id, .abort) ∈ s.asked))
      (decide ((id, .cancel) ∈ s.asked)) (!(unsentOf id s.unsent).isEmpty) = some e ∧
    ∃ pre post others, s.eventsOf id = pre ++ e :: post ∧ pre.Perm (chunksOf (reportsOf id s.folded) ++ others)

theorem Concludes.frame {s s' : Flow} {id : Nat} {e : CallerEvent} (h : s.Concludes id e)
    (hd : s'.manager.discovers = s.manager.discovers) (hf : reportsOf id s'.folded = reportsOf id s.folded)
    (ha : ∀ k, (id, k) ∈ s'.asked ↔ (id, k) ∈ s.asked) (hu : unsentOf id s'.unsent = unsentOf id s.unsent)
    (ho : ∃ extra, s'.eventsOf id = s.eventsOf id ++ extra) : s'.Concludes id e := by
  obtain ⟨hout, pre, post, others, hev, hperm⟩ := h
  obtain ⟨extra, hex⟩ := ho
  refine ⟨?_, pre, post ++ extra, others, by simp [hex, hev], hf ▸ hperm⟩
  simpa only [hd, hf, hu, ha] using hout

def Unreported (s : Flow) : Prop :=
  ∀ id ctx, s.tracker.current = some (id, ctx) → id = s.tracker.lastId ∧ s.completions id = []

theorem Numbered.unreported {s : Flow} (hn : Numbered s) : s.Unreported :=
  fun _ _ h => ⟨(hn.serving _ _ h).2, hn.served_unreported h⟩

def accountView (s : Flow) :=
  (s.manager.discovers, s.tracker.current, s.tracker.tally, s.tracker.abortRequested, s.tracker.cancelRequested,
    s.tracker.lastId, s.pending, s.folded, s.asked, s.unsent, s.out)

/-- The tallies and endings of the requests, with the completions `held` by a task about to fold
them counted as waiting. -/
structure Tallied (s : Flow) (held : List Pending) : Prop where
  /-- Every report waiting or folded is of the manager's kind. -/
  fits : ∀ q ∈ held ++ s.pending, q.report.fits s.manager.discovers = true
  folds : ∀ x ∈ s.folded, x.2.fits s.manager.discovers = true
  /-- The request served is numbered in its context; its tally folds its reports from the fresh
  tally, its stop marks are the stops recorded for it, and it left nothing unsent yet. -/
  served : ∀ id ctx, s.tracker.current = some (id, ctx) → ctx.id = id ∧
    (reportsOf id s.folded).foldlM Tally.add s.manager.freshTally = some s.tracker.tally ∧
    s.tracker.abortRequested = decide ((id, .abort) ∈ s.asked) ∧
    s.tracker.cancelRequested = decide ((id, .cancel) ∈ s.asked) ∧ unsentOf id s.unsent = []
  /-- The events told for a request hold the last chunks of its reports folded or waiting. -/
  told : ∀ id, ∃ others,
    (s.eventsOf id).Perm (chunksOf (reportsOf id s.folded) ++ waitingChunks id (held ++ s.pending) ++ others)
  /-- A reported request ended with its outcome, after the last chunks of its reports. -/
  reported : ∀ id e, e ∈ s.completions id → s.Concludes id e
  /-- A request not begun has no report folded, no stop recorded and nothing unsent. -/
  fresh : ∀ id, s.tracker.lastId < id →
    reportsOf id s.folded = [] ∧ (∀ k, (id, k) ∉ s.asked) ∧ unsentOf id s.unsent = []

namespace Tallied

variable {s s' : Flow} {held : List Pending}

theorem init (discovers shared : Bool) (level limit : Nat) : Tallied (Flow.init discovers shared level limit) [] where
  fits q hq := by simp [Flow.init] at hq
  folds x hx := by simp [Flow.init] at hx
  served id ctx h := by simp [Flow.init, Flow.tracker, Tracker.new] at h
  told id := ⟨[], by simp [Flow.init, eventsOf, reportsOf]⟩
  reported id e he := by simp [Flow.init, completions, eventsOf] at he
  fresh id _ := by simp [Flow.init, reportsOf, unsentOf]

theorem congr (ht : Tallied s held) (hv : s'.accountView = s.accountView) : Tallied s' held := by
  simp only [accountView, Prod.mk.injEq] at hv
  obtain ⟨hd, hc, hta, ha, hk, hl, hp, hf, hask, hu, ho⟩ := hv
  have hev : ∀ id, s'.eventsOf id = s.eventsOf id := fun id => by rw [eventsOf, eventsOf, ho]
  have hfresh : s'.manager.freshTally = s.manager.freshTally := by simp only [Manager.freshTally, hd]
  refine ⟨?_, ?_, fun id ctx h => ?_, fun id => ?_, fun id e he => ?_, fun id h => ?_⟩
  · rw [hp, hd]
    exact ht.fits
  · rw [hf, hd]
    exact ht.folds
  · rw [hf, hfresh, hta, ha, hk, hask, hu]
    exact ht.served id ctx (hc ▸ h)
  · rw [hev, hf, hp]
    exact ht.told id
  · have he' : e ∈ s.completions id := by rwa [completions, hev] at he
    exact (ht.reported id e he').frame hd (by rw [hf]) (by simp [hask]) (by rw [hu]) ⟨[], by simp [hev]⟩
  · rw [hf, hask, hu]
    exact ht.fresh id (hl ▸ h)

theorem drop {q : Pending} (ht : Tallied s (q :: held)) : Tallied s held := by
  refine ⟨fun q' hq' => ht.fits q' (List.mem_cons_of_mem _ hq'), ht.folds, ht.served, fun id => ?_, ht.reported,
    ht.fresh⟩
  obtain ⟨others, hperm⟩ := ht.told id
  -- the chunk of the completion dropped stays told, now among the other events
  refine ⟨(if q.ctx.id = id then q.report.chunkEvent.toList else []) ++ others, hperm.trans ?_⟩
  classical
  refine List.perm_iff_count.2 fun a => ?_
  simp only [List.cons_append, waitingChunks_cons, List.count_append]
  omega

theorem hold {q : Pending} (ht : Tallied s held) (hq : q.report.fits s.manager.discovers = true)
    (hc : q.report.chunkEvent = none) : Tallied s (q :: held) := by
  refine ⟨fun q' hq' => ?_, ht.folds, ht.served, fun id => ?_, ht.reported, ht.fresh⟩
  · rcases List.mem_cons.1 hq' with rfl | hq'
    · exact hq
    · exact ht.fits q' hq'
  · obtain ⟨others, hperm⟩ := ht.told id
    exact ⟨others, by simpa [hc] using hperm⟩

theorem tell (ht : Tallied s held) (extra : List (Option Nat × CallerEvent))
    (hx : ∀ d ∈ extra, d.1 = none ∨ d.2.isCompletion = false) : Tallied { s with out := s.out ++ extra } held := by
  have hev : ∀ id, ({ s with out := s.out ++ extra } : Flow).eventsOf id = s.eventsOf id ++ tagged id extra :=
    fun id => by simp [eventsOf]
  have hnone : ∀ id, (tagged id extra).filter (·.isCompletion) = [] := by
    intro id
    rw [List.filter_eq_nil_iff]
    intro e he
    obtain ⟨d, hd, hde⟩ := List.mem_filterMap.1 he
    by_cases hid : d.1 = some id
    · rw [if_pos hid, Option.some.injEq] at hde
      subst hde
      rcases hx d hd with h | h
      · simp [h] at hid
      · simp [h]
    · simp [hid] at hde
  refine ⟨ht.fits, ht.folds, ht.served, fun id => ?_, fun id e he => ?_, ht.fresh⟩
  · obtain ⟨others, hperm⟩ := ht.told id
    refine ⟨others ++ tagged id extra, ?_⟩
    rw [hev, ← List.append_assoc]
    exact hperm.append_right _
  · have he' : e ∈ s.completions id := by
      simpa [completions, hev, List.filter_append, hnone] using he
    exact (ht.reported id e he').frame rfl rfl (fun _ => Iff.rfl) rfl ⟨_, hev id⟩

theorem enqueue (ht : Tallied s []) {id : Nat} {ctx : Context} (hcur : s.tracker.current = some (id, ctx))
    {r : Report} (hr : r.fits s.manager.discovers = true) (next : Option Nat) (u : Option WorkItem) :
    Tallied { s with out := s.out ++ (r.chunkEvent.map ((some id, ·))).toList,
                     pending := s.pending ++ [⟨ctx, r, next, u⟩] } [] := by
  have hid : ctx.id = id := (ht.served id ctx hcur).1
  have ht₁ := ht.tell (r.chunkEvent.map ((some id, ·))).toList (by
    intro d hd
    cases hc : r.chunkEvent with
    | none => simp [hc] at hd
    | some x =>
      simp only [hc, Option.map_some, Option.toList_some, List.mem_singleton] at hd
      exact .inr (hd ▸ chunkEvent_not_completion hc))
  refine ⟨fun q hq => ?_, ht.folds, ht.served, fun j => ?_, ht₁.reported, ht.fresh⟩
  · simp only [List.nil_append, List.mem_append, List.mem_singleton] at hq
    rcases hq with hq | rfl
    · exact ht.fits q (by simpa using hq)
    · exact hr
  · -- the chunk told for the request is the chunk of the completion now waiting
    obtain ⟨others, hperm⟩ := ht.told j
    refine ⟨others, ?_⟩
    have hev : ({ s with out := s.out ++ (r.chunkEvent.map ((some id, ·))).toList,
                         pending := s.pending ++ [⟨ctx, r, next, u⟩] } : Flow).eventsOf j =
        s.eventsOf j ++ if id = j then r.chunkEvent.toList else [] := by
      cases r.chunkEvent <;> by_cases h : id = j <;> simp [eventsOf, h]
    rw [hev]
    classical
    refine List.perm_iff_count.2 fun a => ?_
    have hc := List.perm_iff_count.1 hperm a
    simp only [List.nil_append, waitingChunks_append, waitingChunks_cons, waitingChunks_nil, hid,
      List.append_nil, List.count_append] at hc ⊢
    omega

theorem take (ht : Tallied s []) {pre post : List Pending} {q : Pending} (h : s.pending = pre ++ q :: post) :
    Tallied { s with pending := pre ++ post } [q] := by
  refine ⟨fun q' hq' => ht.fits q' ?_, ht.folds, ht.served, fun id => ?_, ht.reported, ht.fresh⟩
  · have hq'' : q' = q ∨ q' ∈ pre ∨ q' ∈ post := by simpa using hq'
    rw [h]
    rcases hq'' with rfl | hq'' | hq''
    · simp
    · simp [hq'']
    · simp [hq'']
  · obtain ⟨others, hperm⟩ := ht.told id
    refine ⟨others, hperm.trans ?_⟩
    rw [h]
    classical
    refine List.perm_iff_count.2 fun a => ?_
    simp only [List.nil_append, List.cons_append, waitingChunks_append, waitingChunks_cons, List.count_append]
    omega

theorem fits_reportsOf {xs : List (Nat × Report)} {d : Bool} (h : ∀ x ∈ xs, x.2.fits d = true) (id : Nat) :
    ∀ r ∈ reportsOf id xs, r.fits d = true := by
  intro r hr
  obtain ⟨x, hx, rfl⟩ := List.mem_map.1 hr
  exact h x (List.mem_filter.1 hx).1

theorem settle {q : Pending} (ht : Tallied s [q]) (hs : s.Unreported) {ctx : Context}
    (hcur : s.tracker.current = some (q.ctx.id, ctx))
    {t : Tracker Context Tally} {nx : Option (Nat × WorkItem)} {done : Option CallerEvent}
    (ha : Manager.account s.tracker q.report q.next = some (t, nx, done))
    (hm : s'.manager.discovers = s.manager.discovers) (htr : s'.tracker = t) (hp : s'.pending = s.pending)
    (hf : s'.folded = s.folded ++ [(q.ctx.id, q.report)]) (hask : s'.asked = s.asked)
    (hu : s'.unsent = s.unsent ++ (done.map fun _ => (q.ctx.id, t.queue.items)).toList)
    (ho : s'.out = s.out ++ (done.map fun e => (some q.ctx.id, e)).toList) : Tallied s' [] := by
  obtain ⟨hid, htally, habort, hcancel, hunsent⟩ := ht.served _ _ hcur
  obtain ⟨hlast, hnone⟩ := hs _ _ hcur
  obtain ⟨x, hx, hkeep, hend⟩ := Manager.account_tally ha
  have hst := Manager.account_settled ha
  have hfit : q.report.fits s.manager.discovers = true := ht.fits q (by simp)
  have hfresh : s'.manager.freshTally = s.manager.freshTally := by simp only [Manager.freshTally, hm]
  have hfold : (reportsOf q.ctx.id s.folded ++ [q.report]).foldlM Tally.add s.manager.freshTally = some x := by
    rw [List.foldlM_append, htally]
    simpa using hx
  have hev : ∀ id, s'.eventsOf id = s.eventsOf id ++ if q.ctx.id = id then done.toList else [] := by
    intro id
    cases done <;> by_cases h : q.ctx.id = id <;> simp [eventsOf, ho, h]
  -- the records of any other request stay as they were
  have hother : ∀ id, q.ctx.id ≠ id → reportsOf id s'.folded = reportsOf id s.folded ∧
      unsentOf id s'.unsent = unsentOf id s.unsent ∧ s'.eventsOf id = s.eventsOf id := by
    intro id h
    refine ⟨by simp [hf, h], ?_, by simp [hev, h]⟩
    cases done <;> simp [hu, h]
  refine ⟨fun q' hq' => ?_, fun y hy => ?_, fun id ctx' h => ?_, fun id => ?_, fun id e he => ?_, fun id h => ?_⟩
  · rw [hm]
    rw [hp] at hq'
    exact ht.fits q' (List.mem_cons_of_mem _ (by simpa using hq'))
  · rw [hm]
    rw [hf] at hy
    rcases List.mem_append.1 hy with hy | hy
    · exact ht.folds y hy
    · rw [List.mem_singleton.1 hy]
      exact hfit
  · -- the request is still served only when the fold did not end it
    cases done with
    | some e =>
      have hc : t.current = none := by simpa using hst.current
      rw [htr, hc] at h
      cases h
    | none =>
      have hc : t.current = s.tracker.current := by simpa using hst.current
      rw [htr, hc, hcur] at h
      obtain ⟨rfl, rfl⟩ := Prod.mk.inj (Option.some.inj h)
      refine ⟨hid, ?_, ?_, ?_, ?_⟩
      · rw [hf, hfresh, htr, hkeep rfl]
        simpa using hfold
      · rw [htr, hst.abortRequested, hask]
        exact habort
      · rw [htr, hst.cancelRequested, hask]
        exact hcancel
      · simp [hu, hunsent]
  · obtain ⟨others, hperm⟩ := ht.told id
    refine ⟨others ++ if q.ctx.id = id then done.toList else [], ?_⟩
    rw [hev, hf, hp]
    classical
    refine List.perm_iff_count.2 fun a => ?_
    have hc := List.perm_iff_count.1 hperm a
    by_cases h : q.ctx.id = id <;>
      simp only [h, reportsOf_append, reportsOf_singleton, if_true, if_false, chunksOf_append, chunksOf_cons,
        chunksOf_nil, List.nil_append, List.cons_append, waitingChunks_cons, List.append_nil,
        List.count_append] at hc ⊢ <;> omega
  · have hcomp : s'.completions id = s.completions id ++ if q.ctx.id = id then done.toList else [] := by
      rw [completions, hev, List.filter_append]
      congr 1
      cases hd : done with
      | none => simp
      | some e' => by_cases h : q.ctx.id = id <;> simp [h, Manager.account_ends (hd ▸ ha)]
    rw [hcomp] at he
    rcases List.mem_append.1 he with he | he
    · -- an earlier completion belongs to another request, whose records stay
      have hne : q.ctx.id ≠ id := by
        rintro rfl
        simp [hnone] at he
      obtain ⟨hr, hu', hev'⟩ := hother id hne
      exact (ht.reported id e he).frame hm hr (by simp [hask]) hu' ⟨[], by simp [hev']⟩
    · -- the completion told now: the outcome of the reports folded, after their last chunks
      have hid' : q.ctx.id = id := by
        by_cases hne : q.ctx.id = id
        · exact hne
        · simp [hne] at he
      subst hid'
      cases done with
      | none => simp at he
      | some e' =>
        have he' : e = e' := by simpa using he
        subst he'
        refine ⟨?_, s.eventsOf q.ctx.id, [], waitingChunks q.ctx.id s.pending ++ (ht.told q.ctx.id).choose, ?_, ?_⟩
        · have hfits : ∀ r ∈ reportsOf q.ctx.id s.folded ++ [q.report], r.fits s.manager.discovers = true := by
            intro r hr
            rcases List.mem_append.1 hr with hr | hr
            · exact fits_reportsOf ht.folds _ r hr
            · rw [List.mem_singleton.1 hr]
              exact hfit
          rw [hm, hf, hask, hu, Tally.outcome_of_foldlM s.manager (by simpa using hfits) (by simpa using hfold),
            hend e rfl, habort, hcancel]
          simp [hunsent]
        · simp [hev]
        · classical
          refine List.perm_iff_count.2 fun a => ?_
          have hc := List.perm_iff_count.1 (ht.told q.ctx.id).choose_spec a
          simp only [hf, reportsOf_append, reportsOf_singleton, if_true, chunksOf_append, chunksOf_cons,
            chunksOf_nil, List.nil_append, List.cons_append, waitingChunks_cons, List.append_nil,
            List.count_append] at hc ⊢
          omega
  · have hl : s.tracker.lastId < id := by rwa [htr, hst.lastId] at h
    obtain ⟨hr, hk, hu'⟩ := ht.fresh id hl
    have hne : q.ctx.id ≠ id := by omega
    obtain ⟨hr', hu'', -⟩ := hother id hne
    exact ⟨hr' ▸ hr, hask ▸ hk, hu'' ▸ hu'⟩

theorem fold {q : Pending} (ht : Tallied s [q]) (hs : s.Unreported) : Tallied (s.fold q) [] := by
  rcases fold_cases s q with h | h | ⟨ctx, t, nx, done, hcur, ha, h⟩ <;> rw [h]
  · exact ht.drop
  · exact ht.drop.congr rfl
  · exact ht.settle hs hcur ha rfl rfl rfl rfl rfl rfl rfl

theorem stop (ht : Tallied s []) (hs : s.Unreported) (k : StopRequest) : Tallied (s.stop k) [] := by
  rw [stop_eq]
  split
  · rename_i hsome
    obtain ⟨⟨id₀, ctx₀⟩, hcur⟩ := Option.isSome_iff_exists.1 hsome
    obtain ⟨hlast, hnone⟩ := hs _ _ hcur
    have hask : ∀ j k', (j, k') ∈ s.asked ++ s.tracker.current.toList.map (fun c => (c.1, k)) ↔
        (j, k') ∈ s.asked ∨ j = id₀ ∧ k' = k := by
      simp [hcur]
    refine ⟨ht.fits, ht.folds, fun id ctx h => ?_, ht.told, fun id e he => ?_, fun id h => ?_⟩
    · have h' : s.tracker.current = some (id, ctx) := h
      obtain ⟨hid, hfold, ha, hc, hu⟩ := ht.served id ctx h'
      rw [hcur] at h'
      obtain ⟨rfl, rfl⟩ := Prod.mk.inj (Option.some.inj h')
      refine ⟨hid, hfold, ?_, ?_, hu⟩ <;> cases k <;> simp [hask, ha, hc]
    · have he' : e ∈ s.completions id := he
      have hne : id ≠ id₀ := by
        rintro rfl
        simp [hnone] at he'
      exact (ht.reported id e he').frame rfl rfl (by simp [hask, hne]) rfl ⟨[], by simp [eventsOf]⟩
    · have h' : s.tracker.lastId < id := h
      have hne : id ≠ id₀ := by omega
      obtain ⟨hr, hk, hu⟩ := ht.fresh id h'
      exact ⟨hr, by simp [hask, hne, hk], hu⟩
  · -- with no request served the stop is not recorded
    exact ht

theorem begin (ht : Tallied s []) (c : UnitCriteria) : Tallied (s.begin c) [] := by
  by_cases he : c.workItems = []
  · rw [begin_empty s c he]
    exact ht.tell _ (by simp)
  · cases hp : s.tracker.isInProgress with
    | true =>
      rw [begin_busy s c he hp]
      exact ht
    | false =>
      rw [begin_new s c he hp]
      obtain ⟨hf, hk, hu⟩ := ht.fresh (s.tracker.lastId + 1) (Nat.lt_succ_self _)
      refine ⟨ht.fits, ht.folds, fun id ctx h => ?_, ht.told, ht.reported, fun id h => ht.fresh id ?_⟩
      · simp only [tracker_mk, setTracker, Option.some.injEq, Prod.mk.injEq] at h
        obtain ⟨rfl, rfl⟩ := h
        refine ⟨rfl, ?_, by simp [hk], by simp [hk], hu⟩
        show (reportsOf (s.tracker.lastId + 1) s.folded).foldlM Tally.add s.manager.freshTally = some s.manager.freshTally
        rw [hf]
        rfl
      · simp only [tracker_mk, setTracker] at h
        omega

@[simp] theorem gaveUp_fits (d : Bool) (message : String) : (Report.gaveUp d message).fits d = true := by
  cases d <;> rfl

@[simp] theorem gaveUp_chunkEvent (d : Bool) (message : String) : (Report.gaveUp d message).chunkEvent = none := by
  cases d <;> rfl

theorem retry (ht : Tallied s []) (hs : s.Unreported) (f : Flight) (r : Option Nat) (e : Error) :
    Tallied (s.retry f r e) [] := by
  rcases retry_cases s f r e with h | ⟨ctx, next, -, -, h⟩ | ⟨ctx, -, -, h⟩ <;> rw [h]
  · exact ht
  · rw [handOut_eq]
    exact ht.congr rfl
  · have hlog : ∀ d ∈ [(some f.ctx.id,
        CallerEvent.log .error (Manager.dispatchFailure s.manager.discovers f.item.sourceName e))],
        d.1 = none ∨ d.2.isCompletion = false := by
      simp [CallerEvent.isCompletion]
    have ht₁ : Tallied (s.retrying f r) [] := ht.congr rfl
    have ht₂ : Tallied (s.givingUp f r e) [] := (ht₁.tell _ hlog).congr rfl
    refine (ht₂.hold (by exact gaveUp_fits _ _) (by exact gaveUp_chunkEvent _ _)).fold fun id ctx h => ?_
    obtain ⟨hl, hn⟩ := hs id ctx h
    refine ⟨hl, ?_⟩
    simpa [givingUp, completions, eventsOf, CallerEvent.isCompletion] using hn

theorem report (ht : Tallied s []) {p id : Nat} {r : Report} (hr : r.fits s.manager.discovers = true)
    (u : Option WorkItem) : Tallied (s.report p id r u) [] := by
  cases hx : s.tracker.context id with
  | none =>
    rw [report_stale s p id r u hx]
    exact ht
  | some ctx =>
    rw [report_current s p id r u hx]
    dsimp only
    rw [successor_snd]
    exact (ht.enqueue ((Tracker.context_eq_some _ _ _).1 hx) hr _ u).congr rfl

theorem step (ht : Tallied s []) (hn : Numbered s) (hs : Step s s') : Tallied s' [] := by
  have hu := hn.unreported
  -- a step that leaves what `accountView` reads alone is closed by `congr`; only the steps of the
  -- handlers, the stops and the events told need their own lemma
  cases hs with
  | begin pre post c _ =>
    have ht₁ : Tallied { s with serves := pre ++ post } [] := ht.congr rfl
    exact ht₁.begin c
  | retry pre post f r e _ _ =>
    have ht₁ : Tallied { s with flights := pre ++ post } [] := ht.congr rfl
    exact ht₁.retry hu f r e
  | fold pre post q h => exact (ht.take h).fold hu
  | complete pre post f r _ _ hr =>
    have ht₁ : Tallied { s with flights := pre ++ post } [] := ht.congr rfl
    exact ht₁.report hr _
  | stray p id r hr =>
    have ht₁ : Tallied { s with rogue := true } [] := ht.congr rfl
    exact ht₁.report hr _
  | strayEvent id e he => exact (ht.tell [(some id, e)] (by simp [he])).congr rfl
  | relay pre post f e _ _ he => exact ht.tell [(some f.ctx.id, e)] (by simp [he])
  | stop k _ => exact ht.stop hu k
  | forward pre post p j _ =>
    unfold forward
    split <;> exact ht.congr rfl
  | refuse pre post f e _ _ => exact ht.congr (by simp [accountView, replace_snd])
  | close =>
    rw [close_eq]
    exact ht.congr rfl
  | resize level =>
    obtain ⟨ps, made, closed, h⟩ := resize_frame s level
    rw [h]
    exact ht.congr rfl
  | call | unready | accept | act | closeNext => exact ht.congr rfl

end Tallied

theorem tallied_reachable {s : Flow} (h : Reachable s) : Tallied s [] := by
  induction h with
  | init discovers shared level limit => exact Tallied.init discovers shared level limit
  | step hreach hs ih => exact ih.step (numbered_reachable hreach) hs

/-- Whatever the proxies do, the completion that ends a request is the outcome of the partials
folded into it, in order, with the stops recorded for it and the units it left unsent (those
still queued when it ended). A discovery reports -1 and aborted when a partial aborted or counted
a negative total, an abort was asked for or units were left unsent, and otherwise the sum of the
totals, not aborted. A run is canceled when a cancel was asked for or a partial was canceled, and
aborted when an abort was asked for, a partial aborted, or units were left unsent without a
cancel; it carries the statistics of all partials merged, the longest elapsed time, their errors
joined by new lines in order (none without errors), and each partial's attachment sets followed
by its attachments. Before the completion, the caller was told the last chunk of every partial
folded, discovery passing on only chunks that hold tests. -/
theorem completion_of_partials {s : Flow} (h : Reachable s) {id : Nat} {e : CallerEvent}
    (he : e ∈ s.completions id) :
    (s.manager.discovers = true →
      e = discoveryOutcome ((reportsOf id s.folded).filterMap Report.discoveryPart)
        (decide ((id, .abort) ∈ s.asked)) (!(unsentOf id s.unsent).isEmpty)) ∧
    (s.manager.discovers = false →
      runOutcome ((reportsOf id s.folded).filterMap Report.runPart) (decide ((id, .abort) ∈ s.asked))
        (decide ((id, .cancel) ∈ s.asked)) (!(unsentOf id s.unsent).isEmpty) = some e) ∧
    ∃ pre post others, s.eventsOf id = pre ++ e :: post ∧
      pre.Perm (chunksOf (reportsOf id s.folded) ++ others) := by
  obtain ⟨hout, hprefix⟩ := (tallied_reachable h).reported id e he
  refine ⟨fun hd => ?_, fun hd => ?_, hprefix⟩
  · simp only [outcome, hd, if_true, Option.some.injEq] at hout
    exact hout.symm
  · simpa only [outcome, hd, Bool.false_eq_true, if_false] using hout

def oneSource : UnitCriteria := .discovery (DiscoveryCriteria.new ["a.dll"])

def oneSourceUnit : Flight := ⟨0, ⟨1, oneSource⟩, .source "a.dll", .busy, []⟩

/-- A fresh manager with one proxy discovers one source: the call begins its request, the proxy
accepts the unit and completes it with three tests found, and the fold reports the request. -/
def discoveredThree : Flow :=
  let s₁ : Flow := { Flow.init true true 1 1 with serves := [oneSource] }
  let s₂ := { s₁ with serves := [] }.begin oneSource
  let s₃ : Flow := { s₂ with flights := [oneSourceUnit], forwards := s₂.forwards ++ [(0, 1)],
                             accepted := s₂.accepted ++ [(1, .source "a.dll")] }
  let s₄ := { s₃ with flights := [] }.report 0 1 (.discovery 3 none false) (some (.source "a.dll"))
  { s₄ with pending := [] }.fold ⟨⟨1, oneSource⟩, .discovery 3 none false, some 0, some (.source "a.dll")⟩

theorem discoveredThree_reachable : Reachable discoveredThree := by
  have h₁ := (Reachable.init true true 1 1).step (.call _ oneSource rfl rfl)
  have h₂ := h₁.step (.begin _ [] [] oneSource rfl)
  have h₃ := h₂.step (.accept _ [] [] ⟨0, ⟨1, oneSource⟩, .source "a.dll", .offered, []⟩ rfl rfl)
  have h₄ := h₃.step (.complete _ [] [] oneSourceUnit (.discovery 3 none false) rfl rfl rfl)
  exact h₄.step (.fold _ [] [] _ rfl)

/-- The discovery of one source reports the three tests its one partial found. -/
theorem discoveredThree_reports :
    Reachable discoveredThree ∧ CallerEvent.discoveryComplete 3 none false ∈ discoveredThree.completions 1 ∧
      CallerEvent.discoveryComplete 3 none false =
        discoveryOutcome ((reportsOf 1 discoveredThree.folded).filterMap Report.discoveryPart)
          (decide ((1, .abort) ∈ discoveredThree.asked)) (!(unsentOf 1 discoveredThree.unsent).isEmpty) := by
  have hmem : CallerEvent.discoveryComplete 3 none false ∈ discoveredThree.completions 1 := by
    have h : discoveredThree.completions 1 = [.discoveryComplete 3 none false] := rfl
    rw [h]
    exact List.mem_singleton_self _
  exact ⟨discoveredThree_reachable, hmem, (completion_of_partials discoveredThree_reachable hmem).1 rfl⟩

end Flow

end TestConductor
