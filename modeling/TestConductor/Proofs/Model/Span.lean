import TestConductor.Model.TestCase
/-! # Setting a result's duration

Setting the duration of a result moves its start that far before its end. The calendar
arithmetic takes spans of at most `2^63 - 1` milliseconds, and a longer duration moves nothing;
but the start may still fall before the calendar's first instant, and then nothing is returned,
as the calendar arithmetic refuses it. Main statement: for a result whose end is an instant of the
calendar, setting a duration fails exactly when the end less the span falls before the calendar's
first instant; otherwise the result has that duration, its end unchanged, and a start the span
before its end.
-/
namespace TestConductor

namespace Timestamp

def toNanos (t : Timestamp) : Int := t.seconds * 1000000000 + t.nanos

theorem toNanos_minusNanos (t : Timestamp) (n : Nat) : (t.minusNanos n).toNanos = t.toNanos - n := by
  unfold minusNanos toNanos
  split
  · rename_i h
    simp only [Int.ofNat_sub (Nat.le_trans (Nat.le_of_lt h.2) h.1)]
    omega
  · simp only
    rw [Int.fdiv_eq_ediv_of_nonneg _ (by decide), Int.fmod_eq_emod_of_nonneg _ (by decide)]
    omega

/-- An instant of the calendar keeps its seconds when less than a second is taken off its leap
second; otherwise taking a span off it falls before the calendar's first second exactly when its
nanoseconds do. -/
theorem minusNanos_seconds_lt_iff {t : Timestamp} {first : Int} (h : first ≤ t.seconds) (n : Nat) :
    (t.minusNanos n).seconds < first ↔ t.toNanos - n < first * 1000000000 := by
  unfold minusNanos toNanos
  split
  · rename_i hl
    simp only
    omega
  · simp only
    rw [Int.fdiv_eq_ediv_of_nonneg _ (by decide)]
    omega

end Timestamp

namespace TestResult

/-- How far setting a duration moves the start: the duration, or nothing when it is beyond the
calendar arithmetic's limit. -/
def spanOf (d : Duration) : Nat := if d.toNanos > spanLimit then 0 else d.toNanos

theorem withDuration_eq (r : TestResult) (d : Duration) :
    r.withDuration d =
      if (r.endTime.minusNanos (spanOf d)).seconds < calendarStart then none
      else some { r with duration := d, startTime := r.endTime.minusNanos (spanOf d) } := rfl

/-- Setting a duration on a result that ends in the calendar fails exactly when the span reaches
before the calendar's first instant; otherwise it gives the result with that duration, its end
unchanged and its start the span before its end. -/
theorem withDuration_fails_before_calendar (r : TestResult) (d : Duration)
    (h : calendarStart ≤ r.endTime.seconds) :
    (r.withDuration d = none ↔ r.endTime.toNanos - spanOf d < calendarStart * 1000000000) ∧
      ∀ r', r.withDuration d = some r' →
        r' = { r with duration := d, startTime := r'.startTime } ∧
          r'.startTime.toNanos = r.endTime.toNanos - spanOf d := by
  have hiff := Timestamp.minusNanos_seconds_lt_iff h (spanOf d)
  rw [withDuration_eq]
  refine ⟨?_, fun r' hr => ?_⟩
  · split <;> simp_all
  · split at hr
    · cases hr
    · cases hr
      exact ⟨rfl, Timestamp.toNanos_minusNanos _ _⟩

/-- A duration of 8.4 trillion seconds, some 266,000 years, set on a result ending at the start
of 2026 reaches back before the calendar's first instant, so it fails. -/
theorem longDuration_fails :
    calendarStart ≤ (⟨Timestamp.daysOfDate 2026 1 1 * 86400, 0⟩ : Timestamp).seconds ∧
      (TestResult.new default .failed ⟨Timestamp.daysOfDate 2026 1 1 * 86400, 0⟩).withDuration
        (Duration.ofSecs 8400000000000) = none :=
  have h : calendarStart ≤ (⟨Timestamp.daysOfDate 2026 1 1 * 86400, 0⟩ : Timestamp).seconds := by decide
  ⟨h, ((withDuration_fails_before_calendar
    (TestResult.new default .failed ⟨Timestamp.daysOfDate 2026 1 1 * 86400, 0⟩) (Duration.ofSecs 8400000000000) h).1).2
      (by decide)⟩

end TestResult

end TestConductor
