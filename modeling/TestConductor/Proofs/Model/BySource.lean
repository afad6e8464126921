import TestConductor.Parallel.State
import TestConductor.Proxy.InProcess
import Mathlib.Data.List.Basic
import Mathlib.Data.List.Induction
/-! # Splitting a run by source

The sources of a run are its distinct sources in the order they first appear: `distinct` keeps
the first occurrence of each element, so appending an element already seen changes nothing and
appending a new one puts it last (`distinct_append_singleton`). Explicit tests are grouped the
same way: one group per distinct source, in that order, holding exactly the tests of that
source in their own order (`groupBySource_eq`).
-/
namespace TestConductor

def FirstAppearances {α : Type} [BEq α] (l d : List α) : Prop :=
  d.Nodup ∧ (∀ x, x ∈ d ↔ x ∈ l) ∧ ∀ x ∈ l, ∀ y ∈ l, (d.idxOf x < d.idxOf y ↔ l.idxOf x < l.idxOf y)

section Distinct

variable {α : Type} [BEq α]

theorem distinct_nil : distinct ([] : List α) = [] := by
  rw [distinct]

theorem distinct_cons (x : α) (xs : List α) : distinct (x :: xs) = x :: distinct (xs.filter (· != x)) := by
  rw [distinct]

theorem distinct_induction {motive : List α → Prop} (nil : motive [])
    (cons : ∀ x xs, motive (xs.filter (· != x)) → motive (x :: xs)) : ∀ l, motive l := by
  intro l
  fun_induction distinct l with
  | case1 => exact nil
  | case2 y ys ih => exact cons y ys (by simpa using ih)

variable [LawfulBEq α]

theorem mem_distinct {x : α} {l : List α} : x ∈ distinct l ↔ x ∈ l := by
  induction l using distinct_induction with
  | nil => simp [distinct_nil]
  | cons y ys ih =>
    by_cases h : x = y
    · simp [distinct_cons, h]
    · simp [distinct_cons, ih, h]

theorem distinct_nodup (l : List α) : (distinct l).Nodup := by
  induction l using distinct_induction with
  | nil => simp [distinct_nil]
  | cons y ys ih =>
    rw [distinct_cons]
    refine List.nodup_cons.2 ⟨fun h => ?_, ih⟩
    simpa using mem_distinct.1 h

theorem distinct_append_singleton (l : List α) (x : α) :
    distinct (l ++ [x]) = if x ∈ l then distinct l else distinct l ++ [x] := by
  induction l using distinct_induction with
  | nil => simp [distinct_cons, distinct_nil]
  | cons y ys ih =>
    simp only [List.cons_append, distinct_cons, List.filter_append]
    by_cases hx : x = y
    · subst hx
      simp
    · have hf : [x].filter (· != y) = [x] := by simp [hx]
      rw [hf, ih]
      by_cases hm : x ∈ ys <;> simp [hm, hx]

theorem idxOf_append_new {l : List α} {z u : α} (hz : z ∉ l) (hu : u ∈ l ++ [z]) :
    (l ++ [z]).idxOf u = if u ∈ l then l.idxOf u else l.length := by
  by_cases h : u ∈ l
  · simp [List.idxOf_append_of_mem h, h]
  · obtain rfl : u = z := by simpa [h] using hu
    simp [List.idxOf_append, hz]

theorem distinct_firstAppearances (l : List α) : FirstAppearances l (distinct l) := by
  refine ⟨distinct_nodup l, fun _ => mem_distinct, ?_⟩
  induction l using List.reverseRecOn with
  | nil => simp
  | append_singleton l z ih =>
    intro x hx y hy
    rw [distinct_append_singleton]
    by_cases hz : z ∈ l
    · -- `z` was seen before: nothing moves
      have hx' : x ∈ l := by simp at hx; rcases hx with hx | rfl <;> assumption
      have hy' : y ∈ l := by simp at hy; rcases hy with hy | rfl <;> assumption
      simpa [hz, List.idxOf_append_of_mem hx', List.idxOf_append_of_mem hy'] using ih x hx' y hy'
    · -- `z` is new: it comes last in both lists
      have hz' : z ∉ distinct l := fun h => hz (mem_distinct.1 h)
      have hd (u : α) (hu : u ∈ l ++ [z]) : u ∈ distinct l ++ [z] := by simpa [mem_distinct] using hu
      rw [if_neg hz, idxOf_append_new hz' (hd x hx), idxOf_append_new hz' (hd y hy), idxOf_append_new hz hx,
        idxOf_append_new hz hy]
      simp only [mem_distinct]
      by_cases hxl : x ∈ l <;> by_cases hyl : y ∈ l <;> simp only [hxl, hyl, if_true, if_false]
      · exact ih x hxl y hyl
      · exact iff_of_true (List.idxOf_lt_length_of_mem (mem_distinct.2 hxl)) (List.idxOf_lt_length_of_mem hxl)
      · exact iff_of_false (Nat.not_lt.2 (Nat.le_of_lt (List.idxOf_lt_length_of_mem (mem_distinct.2 hyl))))
          (Nat.not_lt.2 (Nat.le_of_lt (List.idxOf_lt_length_of_mem hyl)))
      · simp

end Distinct

/-! ## Grouping tests by source -/

theorem groupBySource_eq (ts : List TestCase) :
    groupBySource ts = (distinct (ts.map (·.source))).map fun s => (s, ts.filter (·.source == s)) := by
  induction ts using List.reverseRecOn with
  | nil => simp [groupBySource, distinct_nil]
  | append_singleton ts t ih =>
    unfold groupBySource at ih ⊢
    rw [List.foldl_append, List.foldl_cons, List.foldl_nil, ih, List.map_append, List.map_cons, List.map_nil,
      distinct_append_singleton]
    by_cases hs : t.source ∈ ts.map (·.source)
    · -- the test joins the group of its source, which is already there
      have hany : ((distinct (ts.map (·.source))).map fun s => (s, ts.filter (·.source == s))).any
          (·.1 == t.source) = true := by simpa using mem_distinct.2 hs
      simp only [hany, if_true, List.map_map, hs]
      refine List.map_congr_left fun s _ => ?_
      by_cases h : s = t.source
      · simp [h, List.filter_append]
      · simp [h, List.filter_append, Ne.symm h]
    · -- the test opens a group of its own, last
      have hany : ((distinct (ts.map (·.source))).map fun s => (s, ts.filter (·.source == s))).any
          (·.1 == t.source) = false := by
        simpa using fun s hs' (h : s = t.source) => hs (mem_distinct.1 (h ▸ hs'))
      have hnone : ts.filter (·.source == t.source) = [] := by
        simp only [List.filter_eq_nil_iff, beq_iff_eq]
        exact fun u hu he => hs (List.mem_map.2 ⟨u, hu, he⟩)
      simp only [hany, if_false, Bool.false_eq_true, hs, List.map_append, List.map_cons, List.map_nil,
        List.filter_append, hnone]
      congr 1
      · refine List.map_congr_left fun s hs' => ?_
        have h : t.source ≠ s := fun h => hs (mem_distinct.1 (h ▸ hs'))
        simp [h]
      · simp

theorem flatMap_filter_perm {α β : Type} [BEq β] [LawfulBEq β] (key : α → β) (keys : List β)
    (l : List α) (hk : keys.Nodup) (hl : ∀ x ∈ l, key x ∈ keys) :
    (keys.flatMap fun k => l.filter (key · == k)).Perm l := by
  induction keys generalizing l with
  | nil =>
    have : l = [] := List.eq_nil_iff_forall_not_mem.2 fun x hx => by simpa using hl x hx
    simp [this]
  | cons k ks ih =>
    obtain ⟨hk', hks⟩ := List.nodup_cons.1 hk
    -- the later groups only see the items whose key is not `k`
    have hrest : (ks.flatMap fun k' => l.filter (key · == k')) =
        ks.flatMap fun k' => (l.filter fun x => !(key x == k)).filter (key · == k') := by
      refine List.flatMap_congr fun k' hk'' => ?_
      rw [List.filter_filter]
      refine List.filter_congr fun x _ => ?_
      by_cases h : key x = k'
      · have : k' ≠ k := fun h' => hk' (h' ▸ hk'')
        simp [h, this]
      · simp [h]
    rw [List.flatMap_cons, hrest]
    refine (List.Perm.append_left _ (ih _ hks fun x hx => ?_)).trans (List.filter_append_perm _ l)
    obtain ⟨hx, hne⟩ := List.mem_filter.1 hx
    have := hl x hx
    simp only [List.mem_cons] at this
    simp only [Bool.not_eq_eq_eq_not, Bool.not_true, beq_eq_false_iff_ne, ne_eq] at hne
    exact this.resolve_left hne

/-! ## The units of a run -/

namespace RunTarget

def named : RunTarget → List String
  | .sources ss => ss
  | .tests ts => ts.map (·.source)

def cases : RunTarget → List TestCase
  | .sources _ => []
  | .tests ts => ts

end RunTarget

namespace WorkItem

def cases : WorkItem → List TestCase
  | .source _ => []
  | .tests _ ts => ts

def target : WorkItem → RunTarget
  | .source s => .sources [s]
  | .tests _ ts => .tests ts

end WorkItem

def regrouped (ts : List TestCase) : List TestCase :=
  (distinct (ts.map (·.source))).flatMap fun s => ts.filter (·.source == s)

theorem regrouped_perm (ts : List TestCase) : (regrouped ts).Perm ts :=
  flatMap_filter_perm _ _ _ (distinct_nodup _) fun _ hx => mem_distinct.2 (List.mem_map_of_mem hx)

namespace RunCriteria

theorem testsBySource_eq (c : RunCriteria) :
    c.testsBySource = (distinct (c.target.cases.map (·.source))).map fun s =>
      (s, c.target.cases.filter (·.source == s)) := by
  cases h : c.target with
  | sources ss => simp [testsBySource, RunTarget.cases, h, distinct_nil]
  | tests ts => simp [testsBySource, RunTarget.cases, h, groupBySource_eq]

theorem sources_eq (c : RunCriteria) : c.sources = distinct c.target.named := by
  cases h : c.target with
  | sources ss => simp [sources, RunTarget.named, h]
  | tests ts => simp [sources, RunTarget.named, h, testsBySource, groupBySource_eq, List.map_map, Function.comp_def]

end RunCriteria

theorem workItems_run (c : RunCriteria) :
    (UnitCriteria.run c).workItems.map WorkItem.sourceName = c.sources ∧
    (UnitCriteria.run c).workItems.flatMap WorkItem.cases = regrouped c.target.cases ∧
    ∀ i ∈ (UnitCriteria.run c).workItems, ∀ t ∈ i.cases, t.source = i.sourceName := by
  cases h : c.target with
  | sources ss =>
    simp [UnitCriteria.workItems, h, RunTarget.cases, WorkItem.cases, regrouped, distinct_nil,
      Function.comp_def, WorkItem.sourceName]
  | tests ts =>
    have hg := c.testsBySource_eq
    simp only [h, RunTarget.cases] at hg
    refine ⟨?_, ?_, ?_⟩
    · simp [UnitCriteria.workItems, h, hg, RunCriteria.sources_eq, RunTarget.named, List.map_map,
        Function.comp_def, WorkItem.sourceName]
    · simp [UnitCriteria.workItems, h, hg, RunTarget.cases, WorkItem.cases, regrouped, List.flatMap_map]
    · simp only [UnitCriteria.workItems, h, hg, List.map_map, List.mem_map]
      rintro _ ⟨s, -, rfl⟩ t ht
      simpa [WorkItem.cases, WorkItem.sourceName] using (List.mem_filter.1 ht).2

theorem InProcess.grouped_eq (c : RunCriteria) :
    InProcess.grouped c = if c.hasSpecificTests then c.retarget (.tests (regrouped c.target.cases)) else c := by
  unfold InProcess.grouped
  split
  · rw [c.testsBySource_eq, List.flatMap_map]
    rfl
  · rfl

/-- A run is split by source: its sources are its distinct sources in order of first appearance,
its tests are grouped by source in that order, each group holding exactly the tests of its source
in their order; the units of a parallel run cover each distinct source once and each test once,
each with the run's criteria narrowed to the unit; an in-process run gets its tests regrouped
by source, a reordering of them. -/
theorem runs_split_by_source (c : RunCriteria) :
    FirstAppearances c.target.named c.sources ∧
    FirstAppearances (c.target.cases.map (·.source)) (c.testsBySource.map (·.1)) ∧
    (∀ g ∈ c.testsBySource, g.2 = c.target.cases.filter (·.source == g.1)) ∧
    (UnitCriteria.run c).workItems.map WorkItem.sourceName = c.sources ∧
    ((UnitCriteria.run c).workItems.flatMap WorkItem.cases).Perm c.target.cases ∧
    (∀ i ∈ (UnitCriteria.run c).workItems,
      (UnitCriteria.run c).narrow i = .run (c.retarget i.target) ∧ ∀ t ∈ i.cases, t.source = i.sourceName) ∧
    InProcess.grouped c = (if c.hasSpecificTests then c.retarget (.tests (regrouped c.target.cases)) else c) ∧
    (regrouped c.target.cases).Perm c.target.cases := by
  obtain ⟨hsrc, hcases, hof⟩ := workItems_run c
  have hnarrow (i : WorkItem) : (UnitCriteria.run c).narrow i = .run (c.retarget i.target) := by
    cases i <;> rfl
  refine ⟨by rw [c.sources_eq]; exact distinct_firstAppearances _, ?_, ?_, hsrc, hcases ▸ regrouped_perm _,
    fun i hi => ⟨hnarrow i, hof i hi⟩, InProcess.grouped_eq c, regrouped_perm _⟩
  · rw [c.testsBySource_eq, List.map_map]
    simpa [Function.comp_def] using distinct_firstAppearances (c.target.cases.map (·.source))
  · rw [c.testsBySource_eq]
    simp only [List.mem_map]
    rintro _ ⟨s, -, rfl⟩
    rfl

example : (RunCriteria.ofTarget (.sources ["b.dll", "a.dll", "b.dll"])).sources = ["b.dll", "a.dll"] := by
  simp [RunCriteria.sources, RunCriteria.ofTarget, distinct_cons, distinct_nil]

end TestConductor
