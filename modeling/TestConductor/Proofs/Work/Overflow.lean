import TestConductor.Work.Tally
import Mathlib
/-! # When folding partials overflows

The partials of a request come from test hosts, so their totals and counters are whatever a
host reports. A discovery tally adds the total of each partial that neither aborted nor counted
a negative total into a signed 64-bit word; a run tally adds each counter of a partial's
statistics into a 64-bit counter; and the count of tests with no outcome first adds up the four
outcome counters. Each of these sums fails when it leaves its word, while metrics are merged with
saturation and never fail.
-/
namespace TestConductor

namespace DiscoveryTally

def aborts (p : Int × Bool) : Bool := p.2 || decide (p.1 < 0)

def counted (parts : List (Int × Bool)) : Int := ((parts.filter fun p => !aborts p).map (·.1)).sum

@[simp] theorem counted_nil : counted [] = 0 := rfl

theorem counted_cons (p : Int × Bool) (parts : List (Int × Bool)) :
    counted (p :: parts) = (if aborts p then 0 else p.1) + counted parts := by
  cases h : aborts p <;> simp [counted, h]

theorem counted_nonneg (parts : List (Int × Bool)) : 0 ≤ counted parts := by
  induction parts with
  | nil => exact Int.le_refl 0
  | cons p parts ih =>
    rw [counted_cons]
    cases h : aborts p
    · -- a partial that does not abort counts a total that is not negative
      have hp : p.2 = false ∧ 0 ≤ p.1 := by simpa [aborts] using h
      simp only [Bool.false_eq_true, if_false]
      omega
    · simpa using ih

/-- Discovery partials folded into a tally whose total fits a signed word, in closed form: the
fold fails exactly when the counted totals take the sum past the largest signed word, and
otherwise adds them, aborts the tally when a partial aborts it, and counts every partial. -/
theorem foldlM_aggregate (parts : List (Int × Bool)) {a : DiscoveryTally} (h₀ : 0 ≤ a.totalTests)
    (hmax : a.totalTests ≤ int64Max) :
    parts.foldlM (fun t p => t.aggregate? p.1 p.2) a =
      if a.totalTests + counted parts ≤ int64Max then
        some ⟨a.totalTests + counted parts, a.isAborted || parts.any aborts, a.partials + parts.length⟩
      else none := by
  induction parts generalizing a with
  | nil => simp [hmax]
  | cons p parts ih =>
    obtain ⟨total, aborted⟩ := p
    have hrest := counted_nonneg parts
    rw [List.foldlM_cons, counted_cons]
    cases hab : aborts (total, aborted) with
    | true =>
      -- an aborting partial leaves the total alone
      have hbad : (aborted || decide (total < 0)) = true := hab
      have hstep : a.aggregate? total aborted = some { a with partials := a.partials + 1, isAborted := true } := by
        simp [aggregate?, hbad]
      simp only [hstep, Option.bind_eq_bind, Option.bind_some]
      rw [ih (a := { a with partials := a.partials + 1, isAborted := true }) h₀ hmax]
      simp [hab, Nat.add_assoc, Nat.add_comm 1]
    | false =>
      have hgood : aborted = false ∧ 0 ≤ total := by simpa [aborts] using hab
      obtain ⟨rfl, htotal⟩ := hgood
      simp only [Bool.false_eq_true, if_false, List.any_cons, hab, Bool.false_or]
      by_cases hover : a.totalTests + total ≤ int64Max
      · have hstep : a.aggregate? total false =
            some { a with partials := a.partials + 1, totalTests := a.totalTests + total } := by
          simp [aggregate?, Int.not_lt.2 htotal, Int.not_lt.2 hover]
        simp only [hstep, Option.bind_eq_bind, Option.bind_some]
        rw [ih (a := { a with partials := a.partials + 1, totalTests := a.totalTests + total }) (by simp; omega) hover]
        simp [Int.add_assoc, Nat.add_assoc, Nat.add_comm 1]
      · -- the sum left the word here, and what follows only adds to it
        have hstep : a.aggregate? total false = none := by
          simp [aggregate?, Int.not_lt.2 htotal, Int.lt_of_not_ge hover]
        have hpast : ¬a.totalTests + (total + counted parts) ≤ int64Max := by omega
        simp [hstep, hpast]

end DiscoveryTally

namespace Statistics

def plus (s t : Statistics) : Statistics :=
  ⟨s.executed + t.executed, s.passed + t.passed, s.failed + t.failed, s.skipped + t.skipped,
    s.notFound + t.notFound⟩

def Fits (s : Statistics) : Prop :=
  s.executed ≤ counterMax ∧ s.passed ≤ counterMax ∧ s.failed ≤ counterMax ∧ s.skipped ≤ counterMax ∧
    s.notFound ≤ counterMax

instance : DecidablePred Fits := fun _ => inferInstanceAs (Decidable (_ ∧ _ ∧ _ ∧ _ ∧ _))

theorem empty_fits : empty.Fits := by simp [Fits, empty]

theorem merge?_eq (s t : Statistics) : s.merge? t = if (s.plus t).Fits then some (s.plus t) else none := by
  simp only [merge?, add?, Fits, plus]
  by_cases h₁ : s.executed + t.executed ≤ counterMax <;> by_cases h₂ : s.passed + t.passed ≤ counterMax <;>
    by_cases h₃ : s.failed + t.failed ≤ counterMax <;> by_cases h₄ : s.skipped + t.skipped ≤ counterMax <;>
    by_cases h₅ : s.notFound + t.notFound ≤ counterMax <;> simp [h₁, h₂, h₃, h₄, h₅]

theorem Fits.of_plus {s t : Statistics} (h : (s.plus t).Fits) : s.Fits := by
  simp only [Fits, plus] at h ⊢
  omega

theorem Fits.of_foldl_plus {ss : List Statistics} {s : Statistics} (h : (ss.foldl plus s).Fits) : s.Fits := by
  induction ss generalizing s with
  | nil => exact h
  | cons t ss ih => exact (ih h).of_plus

theorem foldlM_merge (ss : List Statistics) {s : Statistics} (hs : s.Fits) :
    ss.foldlM merge? s = if (ss.foldl plus s).Fits then some (ss.foldl plus s) else none := by
  induction ss generalizing s with
  | nil => simp [hs]
  | cons t ss ih =>
    rw [List.foldlM_cons, merge?_eq, List.foldl_cons]
    by_cases ht : (s.plus t).Fits
    · simp only [ht, if_true, Option.bind_eq_bind, Option.bind_some]
      exact ih ht
    · -- a counter left its word at this partial, and the later ones only add to it
      have hpast : ¬(ss.foldl plus (s.plus t)).Fits := fun h => ht h.of_foldl_plus
      simp [ht, hpast]

theorem count?_none (s : Statistics) :
    s.count? .none =
      if s.passed + s.failed + s.skipped + s.notFound ≤ counterMax then
        some (s.executed - (s.passed + s.failed + s.skipped + s.notFound))
      else none := by
  simp only [count?, add?]
  by_cases h : s.passed + s.failed + s.skipped + s.notFound ≤ counterMax
  · have h₁ : s.passed + s.failed ≤ counterMax := by omega
    have h₂ : s.passed + s.failed + s.skipped ≤ counterMax := by omega
    simp [h, h₁, h₂]
  · by_cases h₁ : s.passed + s.failed ≤ counterMax <;> by_cases h₂ : s.passed + s.failed + s.skipped ≤ counterMax <;>
      simp [h, h₁, h₂]

end Statistics

namespace RunTally

/-- What a run tally holds once the partials `parts` were folded into `a`, their statistics
having summed to `stats`: the marks of any partial, the errors and attachments in order, the
metrics merged in order, the longest elapsed time, and every partial counted. -/
def absorbed (a : RunTally) (parts : List (RunCompletion × List AttachmentSet × Metrics)) (stats : Statistics) :
    RunTally where
  stats := stats
  isCanceled := a.isCanceled || parts.any (·.1.isCanceled)
  isAborted := a.isAborted || parts.any (·.1.isAborted)
  errors := a.errors ++ parts.flatMap fun p => p.1.error.toList
  attachments := a.attachments ++ parts.flatMap fun p => p.1.attachmentSets ++ p.2.1
  metrics := parts.foldl (fun m p => Metrics.absorb m p.2.2) a.metrics
  elapsed := parts.foldl (fun d p => d.max p.1.elapsed) a.elapsed
  partials := a.partials + parts.length

@[simp] theorem absorbed_stats (a : RunTally) (parts : List (RunCompletion × List AttachmentSet × Metrics))
    (s : Statistics) : (a.absorbed parts s).stats = s := rfl

theorem aggregate?_eq (t : RunTally) (c : RunCompletion) (extra : List AttachmentSet) (m : Metrics) :
    t.aggregate? c extra m = (t.stats.merge? c.stats).map fun stats =>
      { stats
        isCanceled := t.isCanceled || c.isCanceled
        isAborted := t.isAborted || c.isAborted
        errors := t.errors ++ c.error.toList
        attachments := t.attachments ++ c.attachmentSets ++ extra
        metrics := Metrics.absorb t.metrics m
        elapsed := t.elapsed.max c.elapsed
        partials := t.partials + 1 } := by
  unfold aggregate?
  cases t.stats.merge? c.stats <;> rfl

theorem foldlM_aggregate (parts : List (RunCompletion × List AttachmentSet × Metrics)) (a : RunTally) :
    parts.foldlM (fun t p => t.aggregate? p.1 p.2.1 p.2.2) a =
      ((parts.map (·.1.stats)).foldlM Statistics.merge? a.stats).map (a.absorbed parts) := by
  induction parts generalizing a with
  | nil => simp [absorbed]
  | cons p parts ih =>
    obtain ⟨c, extra, m⟩ := p
    rw [List.foldlM_cons, List.map_cons, List.foldlM_cons, aggregate?_eq]
    cases a.stats.merge? c.stats with
    | none => rfl
    | some st =>
      simp only [Option.map_some, Option.bind_eq_bind, Option.bind_some, ih]
      -- the tally the first partial left absorbs the rest as the first one absorbs them all
      congr 1
      funext s
      simp [absorbed, Bool.or_assoc, List.append_assoc, Nat.add_right_comm, Nat.add_assoc]

end RunTally

/-- Folding partial completions, and counting the tests with no outcome, fail on overflow, and
exactly then. A discovery fails exactly when the totals of the partials that neither aborted nor
counted a negative total add up past the largest signed 64-bit word; a run fails exactly when one
of the counters, summed over the partials' statistics, passes the largest 64-bit counter (its
metrics never fail); and the count of tests with no outcome fails exactly when the passed, failed,
skipped and not-found counts add up past a 64-bit counter. -/
theorem aggregation_fails_exactly_on_overflow (parts : List (Int × Bool))
    (runs : List (RunCompletion × List AttachmentSet × Metrics)) (s : Statistics) :
    (parts.foldlM (fun t p => t.aggregate? p.1 p.2) DiscoveryTally.empty = none ↔
        int64Max < DiscoveryTally.counted parts) ∧
    (runs.foldlM (fun t p => t.aggregate? p.1 p.2.1 p.2.2) RunTally.empty = none ↔
        ¬((runs.map (·.1.stats)).foldl Statistics.plus Statistics.empty).Fits) ∧
    (s.count? .none = none ↔
      Statistics.counterMax < s.passed + s.failed + s.skipped + s.notFound) := by
  refine ⟨?_, ?_, ?_⟩
  · have h₀ : (0 : Int) ≤ DiscoveryTally.empty.totalTests := Int.le_refl 0
    have hmax : DiscoveryTally.empty.totalTests ≤ int64Max := by decide
    rw [DiscoveryTally.foldlM_aggregate parts h₀ hmax]
    simp [DiscoveryTally.empty]
  · rw [RunTally.foldlM_aggregate, show RunTally.empty.stats = Statistics.empty from rfl,
      Statistics.foldlM_merge _ Statistics.empty_fits]
    by_cases h : ((runs.map (·.1.stats)).foldl Statistics.plus Statistics.empty).Fits <;>
      simp [RunTally.empty, h]
  · rw [Statistics.count?_none]
    by_cases h : s.passed + s.failed + s.skipped + s.notFound ≤ Statistics.counterMax <;> simp [h]
    omega

/-- A partial with the largest total and one more with a single test overflow a discovery tally. -/
theorem largestTotal_and_one_overflow :
    [(int64Max, false), (1, false)].foldlM (fun t p => t.aggregate? p.1 p.2) DiscoveryTally.empty = none :=
  (aggregation_fails_exactly_on_overflow [(int64Max, false), (1, false)] [] Statistics.empty).1.2 (by decide)

end TestConductor
