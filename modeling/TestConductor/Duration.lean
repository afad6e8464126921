import TestConductor.Json.Shape
/-! # Durations

A duration is whole seconds, below `2^64`, and nanoseconds below one second. In JSON it is the
object `{"secs": s, "nanos": n}`.
-/
namespace TestConductor

/-- A span of time. -/
structure Duration where
  secs : Nat
  nanos : Nat
  nanos_lt : nanos < 1000000000
  deriving DecidableEq, Repr

namespace Duration

def zero : Duration := ⟨0, 0, by decide⟩

instance : Inhabited Duration := ⟨zero⟩

def ofMillis (ms : Nat) : Duration := ⟨ms / 1000, ms % 1000 * 1000000, by omega⟩

def ofSecs (s : Nat) : Duration := ⟨s, 0, by decide⟩

def toNanos (d : Duration) : Nat := d.secs * 1000000000 + d.nanos

def ofNanos (n : Nat) : Duration := ⟨n / 1000000000, n % 1000000000, Nat.mod_lt _ (by decide)⟩

def toMillis (d : Duration) : Nat := d.secs * 1000 + d.nanos / 1000000

def max (a b : Duration) : Duration := if a.toNanos ≥ b.toNanos then a else b

def toJson (d : Duration) : Json :=
  .obj [("secs", .nat d.secs), ("nanos", .nat d.nanos)]

def ofJson (j : Json) : Duration :=
  let secs := ((j.get? "secs").bind Json.asNat?).getD 0
  let nanos := ((j.get? "nanos").bind Json.asNat?).getD 0
  ⟨secs + nanos / 1000000000, nanos % 1000000000, Nat.mod_lt _ (by decide)⟩

end Duration

end TestConductor
