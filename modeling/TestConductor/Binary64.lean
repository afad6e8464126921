/-! # Binary64 numbers

A binary64 floating-point number is kept as its 64-bit pattern. A finite one stands for
`(-1)^s · m · 2^e`, read off the pattern by `Binary64.decode`. Arithmetic is exact rational
arithmetic followed by one rounding to the nearest pattern, ties to an even significand
(`Binary64.round`), which is what the hardware operations of the format compute.
-/
namespace TestConductor

/-- A binary64 floating-point number, kept as its 64-bit pattern. -/
structure Binary64 where
  bits : UInt64
  deriving DecidableEq, Repr, Inhabited

namespace Binary64

def fractionBits : Nat := 52

def minScale : Int := -1074

def maxScale : Int := 971

def sign (x : Binary64) : Bool := x.bits >>> 63 == 1

def exponentField (x : Binary64) : Nat := ((x.bits >>> 52) &&& 0x7FF).toNat

def fractionField (x : Binary64) : Nat := (x.bits &&& 0xFFFFFFFFFFFFF).toNat

def isFinite (x : Binary64) : Bool := x.exponentField != 2047

def isZero (x : Binary64) : Bool := x.exponentField == 0 && x.fractionField == 0

def ofFields (negative : Bool) (exponent fraction : Nat) : Binary64 :=
  ⟨((if negative then (1 : UInt64) <<< 63 else 0) ||| (exponent.toUInt64 <<< 52)) |||
    fraction.toUInt64⟩

def zero (negative : Bool) : Binary64 := ofFields negative 0 0

def infinity (negative : Bool) : Binary64 := ofFields negative 2047 0

def nan : Binary64 := ofFields false 2047 (Nat.pow 2 51)

def isNaN (x : Binary64) : Bool := x.exponentField == 2047 && x.fractionField != 0

/-- A finite number as sign, integer significand `m` and scale `e`, standing for
`(-1)^s · m · 2^e`. The significand of a normal number has its leading bit restored. -/
def decode (x : Binary64) : Bool × Nat × Int :=
  if x.exponentField = 0 then (x.sign, x.fractionField, minScale)
  else (x.sign, x.fractionField + Nat.pow 2 fractionBits, (x.exponentField : Int) - 1075)

def powTwoLe (k : Int) (num den : Nat) : Bool :=
  if 0 ≤ k then den * Nat.pow 2 k.toNat ≤ num else den ≤ num * Nat.pow 2 (-k).toNat

def floorLog2 (num den : Nat) : Int :=
  let k : Int := (Nat.log2 num : Int) - Nat.log2 den
  if powTwoLe k num den then k else k - 1

def roundScaled (num den : Nat) (e : Int) : Nat :=
  let n := if e ≤ 0 then num * Nat.pow 2 (-e).toNat else num
  let d := if e ≤ 0 then den else den * Nat.pow 2 e.toNat
  let q := n / d
  let r := n % d
  if 2 * r > d ∨ (2 * r = d ∧ q % 2 = 1) then q + 1 else q

def encode (negative : Bool) (m : Nat) (e : Int) : Binary64 :=
  if m < Nat.pow 2 fractionBits then ofFields negative 0 m
  else ofFields negative (e + 1075).toNat (m - Nat.pow 2 fractionBits)

/-- The pattern nearest to `±num / den`, a tie going to the even significand; a value beyond
the largest finite number becomes an infinity. `den` is positive. -/
def round (negative : Bool) (num den : Nat) : Binary64 :=
  if num = 0 then zero negative
  else
    let e := max (floorLog2 num den - 52) minScale
    let m := roundScaled num den e
    let (m, e) := if m = Nat.pow 2 53 then (Nat.pow 2 52, e + 1) else (m, e)
    if e > maxScale then infinity negative else encode negative m e

def toRatio (x : Binary64) : Bool × Nat × Nat :=
  let (s, m, e) := x.decode
  if 0 ≤ e then (s, m * Nat.pow 2 e.toNat, 1) else (s, m, Nat.pow 2 (-e).toNat)

def ofNat (n : Nat) : Binary64 := round false n 1

def ofInt (n : Int) : Binary64 := round (n < 0) n.natAbs 1

def neg (x : Binary64) : Binary64 := ⟨x.bits ^^^ ((1 : UInt64) <<< 63)⟩

def mul (x y : Binary64) : Binary64 :=
  let (s, a, b) := x.toRatio
  let (t, c, d) := y.toRatio
  round (s != t) (a * c) (b * d)

def div (x y : Binary64) : Binary64 :=
  let (s, a, b) := x.toRatio
  let (t, c, d) := y.toRatio
  round (s != t) (a * d) (b * c)

/-- The rounded sum of two finite numbers. An exact zero sum is positive unless both
summands are negative. -/
def add (x y : Binary64) : Binary64 :=
  let (s, a, b) := x.toRatio
  let (t, c, d) := y.toRatio
  let p : Int := (if s then -1 else 1) * (a * d : Nat)
  let q : Int := (if t then -1 else 1) * (c * b : Nat)
  let sum := p + q
  if sum = 0 then zero (s && t) else round (sum < 0) sum.natAbs (b * d)

def pow10 (k : Nat) : Binary64 := round false (Nat.pow 10 k) 1

end Binary64

end TestConductor
