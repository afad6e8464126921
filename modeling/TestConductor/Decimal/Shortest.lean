import TestConductor.Binary64
/-! # Shortest decimal form of a binary64 number

A finite nonzero binary64 number `x` is read back from every real strictly between the two
midpoints to its neighbours; the midpoints themselves read back as `x` exactly when its
significand is even. `Binary64.shortest` gives the decimal `d · 10^k` inside that interval with
the fewest significant digits, and of two such the one nearer to `x` (an exact tie goes to the
even digit string). If a point of a decimal grid lies in the interval, so does one of the two
grid points around `x`, so only those two are tried for each number of digits.
-/
namespace TestConductor

namespace Decimal

def compareScaled (a : Nat) (p : Int) (b : Nat) (q : Int) : Ordering :=
  compare (a * Nat.pow 10 p.toNat * Nat.pow 2 (-q).toNat) (b * Nat.pow 2 q.toNat * Nat.pow 10 (-p).toNat)

def digitCount (n : Nat) : Nat := (Nat.toDigits 10 n).length

def floorLog10 (m : Nat) (e : Int) : Int :=
  let num := m * Nat.pow 2 e.toNat
  let den := Nat.pow 2 (-e).toNat
  let k : Int := (digitCount num : Int) - digitCount den
  -- `10^k ≤ num / den` decides between `k` and `k - 1`.
  if compareScaled 1 k m e != .gt then k else k - 1

def trimZeros (d : Nat) (k : Int) : Nat × Int :=
  if h : d ≠ 0 ∧ d % 10 = 0 then
    have : d / 10 < d := Nat.div_lt_self (Nat.pos_of_ne_zero h.1) (by decide)
    trimZeros (d / 10) (k + 1)
  else (d, k)
termination_by d

end Decimal

namespace Binary64

open Decimal

/-- The interval of reals that read back as `m · 2^e`, as the numerators of its ends and of
the value itself over the common denominator `2^(2-e)`, and whether the ends belong to it. -/
def readBackInterval (x : Binary64) : Nat × Nat × Nat × Bool :=
  let (_, m, _) := x.decode
  -- The gap below the smallest significand of a binade is half the gap above it.
  let below := if m = Nat.pow 2 fractionBits ∧ x.exponentField > 1 then 1 else 2
  (4 * m - below, 4 * m, 4 * m + 2, m % 2 == 0)

def readsBackAt (x : Binary64) (g : Nat) (k : Int) : Bool :=
  let (_, _, e) := x.decode
  let (lo, _, hi, closed) := x.readBackInterval
  let aboveLo := compareScaled g k lo (e - 2)
  let belowHi := compareScaled g k hi (e - 2)
  if closed then aboveLo != .lt && belowHi != .gt else aboveLo == .gt && belowHi == .lt

/-- The two points of the grid `10^k` around `|x|`, and whether the lower one is nearer
(`true` on an exact tie only when it is even). -/
def gridNeighbours (x : Binary64) (k : Int) : Nat × Nat × Bool :=
  let (_, m, e) := x.decode
  let num := 4 * m * Nat.pow 2 (e - 2).toNat * Nat.pow 10 (-k).toNat
  let den := Nat.pow 2 (2 - e).toNat * Nat.pow 10 k.toNat
  let lo := num / den
  let twice := 2 * (num - lo * den)
  (lo, lo + 1, twice < den ∨ (twice = den ∧ lo % 2 = 0))

/-- The shortest decimal digits `d` and exponent `k` with `d · 10^k` reading back as the
finite nonzero `|x|`, nearest to it among the shortest; `d` has no trailing zero. -/
def shortest (x : Binary64) : Nat × Int :=
  let (_, m, e) := x.decode
  let top := floorLog10 m e
  let pick (n : Nat) : Option (Nat × Int) :=
    let k := top - n
    let (lo, hi, lowerNearer) := x.gridNeighbours k
    let okLo := x.readsBackAt lo k
    let okHi := x.readsBackAt hi k
    if okLo ∧ (lowerNearer ∨ ¬okHi) then some (trimZeros lo k)
    else if okHi then some (trimZeros hi k)
    else none
  match (List.range 17).findSome? pick with
  | some r => r
  -- Seventeen significant digits always read back.
  | none => trimZeros (x.gridNeighbours (top - 16)).1 (top - 16)

end Binary64

end TestConductor
