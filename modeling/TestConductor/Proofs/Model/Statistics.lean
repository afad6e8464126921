import TestConductor.Proofs.Work.Overflow
/-! # Statistics count the outcomes recorded into them

The counts of a list of outcomes are its `tally`: how many outcomes there are, and how many of
each named one. Recording an outcome into counters that fit merges the tally of that one outcome
(`record?_eq_merge?`), so counting a list gives its tally, or nothing once its length leaves a
64-bit counter (`ofOutcomes?_eq`), and counting a joined list merges the counts of its parts.
Merging is commutative and associative with the empty statistics as identity; both sides of each
law fail together when a counter overflows.
-/
namespace TestConductor

namespace Statistics

def tally (os : List Outcome) : Statistics :=
  ⟨os.length, os.count .passed, os.count .failed, os.count .skipped, os.count .notFound⟩

@[simp] theorem tally_nil : tally [] = empty := rfl

theorem plus_comm (s t : Statistics) : s.plus t = t.plus s := by
  simp only [plus, Nat.add_comm]

theorem plus_assoc (s t u : Statistics) : (s.plus t).plus u = s.plus (t.plus u) := by
  simp only [plus, Nat.add_assoc]

@[simp] theorem empty_plus (s : Statistics) : empty.plus s = s := by
  simp [empty, plus]

@[simp] theorem plus_empty (s : Statistics) : s.plus empty = s := by
  simp [empty, plus]

theorem tally_append (xs ys : List Outcome) : tally (xs ++ ys) = (tally xs).plus (tally ys) := by
  simp [tally, plus, List.count_append]

theorem count_none_add_named (os : List Outcome) :
    os.count .none + (os.count .passed + os.count .failed + os.count .skipped + os.count .notFound) =
      os.length := by
  induction os with
  | nil => rfl
  | cons o os ih => cases o <;> simp <;> omega

theorem tally_fits_iff (os : List Outcome) : (tally os).Fits ↔ os.length ≤ counterMax := by
  have := count_none_add_named os
  simp only [Fits, tally]
  omega

theorem Fits.of_plus_right {s t : Statistics} (h : (s.plus t).Fits) : t.Fits := by
  rw [plus_comm] at h
  exact h.of_plus

theorem eq_plus_of_merge? {s t u : Statistics} (h : s.merge? t = some u) : u = s.plus t ∧ u.Fits := by
  rw [merge?_eq] at h
  split at h
  · cases h
    exact ⟨rfl, ‹_›⟩
  · cases h

/-! ## Counting a list -/

theorem record?_eq_merge? {s : Statistics} (hs : s.Fits) (o : Outcome) : s.record? o = s.merge? (tally [o]) := by
  obtain ⟨-, h₂, h₃, h₄, h₅⟩ := hs
  cases o <;> simp [record?, merge?, add?, tally, h₂, h₃, h₄, h₅]

theorem foldlM_record? {s : Statistics} (hs : s.Fits) (os : List Outcome) :
    os.foldlM record? s = if (s.plus (tally os)).Fits then some (s.plus (tally os)) else none := by
  induction os generalizing s with
  | nil => simp [hs]
  | cons o os ih =>
    rw [List.foldlM_cons, record?_eq_merge? hs, merge?_eq]
    have htally : (s.plus (tally [o])).plus (tally os) = s.plus (tally (o :: os)) := by
      rw [plus_assoc, ← tally_append]
      rfl
    by_cases ho : (s.plus (tally [o])).Fits
    · simp only [ho, if_true, Option.bind_eq_bind, Option.bind_some, ih ho, htally]
    · -- a counter left its word at this outcome, and the rest only adds to it
      have hpast : ¬(s.plus (tally (o :: os))).Fits := fun h => ho (by rw [← htally] at h; exact h.of_plus)
      simp [ho, hpast]

theorem ofOutcomes?_eq (os : List Outcome) :
    ofOutcomes? os = if os.length ≤ counterMax then some (tally os) else none := by
  rw [ofOutcomes?, foldlM_record? empty_fits, empty_plus]
  simp only [tally_fits_iff]

theorem ofOutcomes?_append (xs ys : List Outcome) :
    ofOutcomes? (xs ++ ys) = (ofOutcomes? xs).bind fun a => (ofOutcomes? ys).bind a.merge? := by
  rw [ofOutcomes?_eq, ofOutcomes?_eq, ofOutcomes?_eq, List.length_append]
  by_cases hx : xs.length ≤ counterMax <;> by_cases hy : ys.length ≤ counterMax <;>
    simp [hx, hy, merge?_eq, ← tally_append, tally_fits_iff] <;> omega

/-! ## Merging -/

theorem merge?_comm (s t : Statistics) : s.merge? t = t.merge? s := by
  rw [merge?_eq, merge?_eq, plus_comm]

theorem bind_merge? (s t u : Statistics) :
    (s.merge? t).bind (·.merge? u) = if ((s.plus t).plus u).Fits then some ((s.plus t).plus u) else none := by
  rw [merge?_eq]
  by_cases h : (s.plus t).Fits
  · simp [h, merge?_eq]
  · have : ¬((s.plus t).plus u).Fits := fun h' => h h'.of_plus
    simp [h, this]

theorem merge?_assoc (s t u : Statistics) :
    (s.merge? t).bind (·.merge? u) = (t.merge? u).bind s.merge? := by
  rw [bind_merge?, merge?_eq, plus_assoc]
  by_cases h : (t.plus u).Fits
  · simp [h, merge?_eq]
  · have : ¬(s.plus (t.plus u)).Fits := fun h' => h h'.of_plus_right
    simp [h, this]

theorem empty_merge? {s : Statistics} (hs : s.Fits) : empty.merge? s = some s := by
  simp [merge?_eq, hs]

theorem merge?_empty {s : Statistics} (hs : s.Fits) : s.merge? empty = some s := by
  simp [merge?_eq, hs]

/-! ## What recording and merging build -/

/-- Statistics built from none by recording outcomes, counting lists of results, and merging
statistics so built; with the outcomes that went into them, in order. -/
inductive Built : Statistics → List Outcome → Prop where
  | empty : Built empty []
  | record {s t : Statistics} {os : List Outcome} {o : Outcome} (h : Built s os) (hr : s.record? o = some t) :
      Built t (os ++ [o])
  | results {rs : List TestResult} {s : Statistics} (h : ofOutcomes? (rs.map (·.outcome)) = some s) :
      Built s (rs.map (·.outcome))
  | merge {s t u : Statistics} {os ot : List Outcome} (hs : Built s os) (ht : Built t ot)
      (hm : s.merge? t = some u) : Built u (os ++ ot)

theorem merge?_tally {xs ys : List Outcome} {u : Statistics} (h : (tally xs).merge? (tally ys) = some u) :
    u = tally (xs ++ ys) ∧ (xs ++ ys).length ≤ counterMax := by
  obtain ⟨rfl, hfits⟩ := eq_plus_of_merge? h
  rw [← tally_append] at hfits ⊢
  exact ⟨rfl, (tally_fits_iff _).1 hfits⟩

theorem Built.eq_tally {s : Statistics} {os : List Outcome} (h : Built s os) :
    s = tally os ∧ os.length ≤ counterMax := by
  induction h with
  | empty => exact ⟨rfl, Nat.zero_le _⟩
  | record _ hr ih =>
    obtain ⟨rfl, hlen⟩ := ih
    rw [record?_eq_merge? ((tally_fits_iff _).2 hlen)] at hr
    exact merge?_tally hr
  | results h =>
    rw [ofOutcomes?_eq] at h
    split at h
    · cases h
      exact ⟨rfl, ‹_›⟩
    · cases h
  | merge _ _ hm ihs iht =>
    obtain ⟨rfl, -⟩ := ihs
    obtain ⟨rfl, -⟩ := iht
    exact merge?_tally hm

theorem tally_named_le (os : List Outcome) :
    (tally os).passed + (tally os).failed + (tally os).skipped + (tally os).notFound ≤ (tally os).executed := by
  have := count_none_add_named os
  simp only [tally]
  omega

theorem tally_count? {os : List Outcome} (h : os.length ≤ counterMax) (o : Outcome) :
    (tally os).count? o = some (os.count o) := by
  have hsum := count_none_add_named os
  cases o with
  | none =>
    rw [count?_none, if_pos (by simp only [tally]; omega)]
    simp only [tally, Option.some.injEq]
    omega
  | passed | failed | skipped | notFound => rfl

/-- Statistics are the counts of the results recorded. Counting a joined list of results merges the
counts of its parts, whether or not they fit, and counting fails only when the results outnumber
a 64-bit counter. Merging is commutative and associative, with the empty statistics as identity
on counts that fit. Whatever is built by recording, counting and merging has named counts that
add up to at most the executed tests, and every outcome's count, that of no outcome included, is
the number of times it was recorded. -/
theorem statistics_count_recorded_outcomes :
    (∀ xs ys : List TestResult, ofOutcomes? ((xs ++ ys).map (·.outcome)) =
        (ofOutcomes? (xs.map (·.outcome))).bind fun a => (ofOutcomes? (ys.map (·.outcome))).bind a.merge?) ∧
    (∀ rs : List TestResult, (ofOutcomes? (rs.map (·.outcome))).isSome ↔ rs.length ≤ counterMax) ∧
    (∀ s t : Statistics, s.merge? t = t.merge? s) ∧
    (∀ s t u : Statistics, (s.merge? t).bind (·.merge? u) = (t.merge? u).bind s.merge?) ∧
    (∀ s : Statistics, s.Fits → empty.merge? s = some s ∧ s.merge? empty = some s) ∧
    (∀ s os, Built s os →
      s.passed + s.failed + s.skipped + s.notFound ≤ s.executed ∧ ∀ o, s.count? o = some (os.count o)) := by
  refine ⟨fun xs ys => ?_, fun rs => ?_, merge?_comm, merge?_assoc, fun s hs => ⟨empty_merge? hs, merge?_empty hs⟩,
    fun s os h => ?_⟩
  · rw [List.map_append, ofOutcomes?_append]
  · rw [ofOutcomes?_eq, List.length_map]
    by_cases h : rs.length ≤ counterMax <;> simp [h]
  · obtain ⟨rfl, hlen⟩ := h.eq_tally
    exact ⟨tally_named_le os, tally_count? hlen⟩

def passedThenNone : Statistics := ⟨2, 1, 0, 0, 0⟩

/-- They are counted as one passed test and one with no outcome. -/
theorem passedThenNone_counts :
    Built passedThenNone [.passed, .none] ∧ passedThenNone.count? .none = some 1 ∧
      passedThenNone.count? .passed = some 1 := by
  have hb : Built passedThenNone [.passed, .none] := .record (.record .empty rfl) rfl
  have hc := (statistics_count_recorded_outcomes.2.2.2.2.2 _ _ hb).2
  exact ⟨hb, hc .none, hc .passed⟩

end Statistics

end TestConductor
