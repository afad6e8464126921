import TestConductor.Duration
/-! # Clock readings

An instant is a reading of a monotonic clock in nanoseconds. A stopwatch measures a window from
the instant it starts: the window has passed once the time since the start reaches it, and the
time left is the window less the time since the start, or zero once it has passed.
-/
namespace TestConductor

/-- A reading of a monotonic clock, in nanoseconds. -/
structure Instant where
  nanos : Nat
  deriving DecidableEq, Repr, Inhabited, Ord

namespace Instant

def since (now earlier : Instant) : Duration := Duration.ofNanos (now.nanos - earlier.nanos)

def after (t : Instant) (d : Duration) : Instant := ⟨t.nanos + d.toNanos⟩

end Instant

/-- A stopwatch started at an instant. -/
structure Stopwatch where
  start : Instant
  deriving DecidableEq, Repr, Inhabited

namespace Stopwatch

def elapsed (s : Stopwatch) (now : Instant) : Duration := now.since s.start

def hasExceeded (s : Stopwatch) (now : Instant) (window : Duration) : Bool :=
  (s.elapsed now).toNanos ≥ window.toNanos

def remaining (s : Stopwatch) (now : Instant) (window : Duration) : Duration :=
  Duration.ofNanos (window.toNanos - (s.elapsed now).toNanos)

end Stopwatch

end TestConductor
