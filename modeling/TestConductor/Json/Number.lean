import TestConductor.Decimal.Shortest
/-! # JSON numbers

A JSON number is kept in one of three kinds, as the wire format distinguishes them: a
non-negative integer below `2^64`, a negative integer of at least `-2^63`, or a finite binary64
float. Integers are written in full; a float is written with its shortest digits, positionally
when its decimal point falls within the sixteen places around the digits, else with an exponent.
-/
namespace TestConductor

namespace Json

/-- A JSON number of one of the three kinds the wire format keeps apart. -/
inductive Number where
  /-- A non-negative integer below `2^64`. -/
  | unsigned (n : Nat)
  /-- A negative integer of at least `-2^63`. -/
  | negative (n : Int)
  /-- A finite binary64 float. -/
  | float (x : Binary64)
  deriving DecidableEq, Repr, Inhabited

/-- Where a float's text switches between positional and exponent notation, and how the
exponent is marked. -/
structure FloatLayout where
  /-- The largest position of the decimal point, counted from the first digit, that is still
  written positionally. -/
  maxPoint : Int
  /-- The smallest such position; zero leading zeros after the point correspond to `0`. -/
  minPoint : Int
  /-- The mark between digits and a non-negative exponent. -/
  positiveMark : String
  /-- The mark between digits and a negative exponent. -/
  negativeMark : String

/-- Floats are positional while the point lies from four zeros after it up to sixteen digits
before it; exponents are written `e+N` and `e-N`. -/
def wireLayout : FloatLayout := ⟨16, -4, "e+", "e-"⟩

/-- Floats in descriptions are always positional: every finite float has its point within four
hundred places of its first digit. -/
def plainLayout : FloatLayout := ⟨400, -400, "e", "e-"⟩

def zeros (n : Nat) : String := String.ofList (List.replicate n '0')

def FloatLayout.render (layout : FloatLayout) (x : Binary64) : String :=
  let sign := if x.sign then "-" else ""
  if x.isZero then sign ++ "0.0"
  else
    let (d, k) := x.shortest
    let ds := toString d
    let n : Int := ds.length
    let point := n + k
    let body :=
      if 0 ≤ k ∧ point ≤ layout.maxPoint then ds ++ zeros k.toNat ++ ".0"
      else if 0 < point ∧ point ≤ layout.maxPoint then
        String.ofList (ds.toList.take point.toNat) ++ "." ++
          String.ofList (ds.toList.drop point.toNat)
      else if layout.minPoint ≤ point ∧ point ≤ 0 then "0." ++ zeros (-point).toNat ++ ds
      else
        let exp := point - 1
        let mark := if 0 ≤ exp then layout.positiveMark ++ toString exp
          else layout.negativeMark ++ toString (-exp)
        match ds.toList with
        | [c] => String.singleton c ++ mark
        | c :: rest => String.singleton c ++ "." ++ String.ofList rest ++ mark
        | [] => ds ++ mark
    sign ++ body

def Number.render : Number → String
  | .unsigned n => toString n
  | .negative n => toString n
  | .float x => wireLayout.render x

def Number.toBinary64 : Number → Binary64
  | .unsigned n => Binary64.ofNat n
  | .negative n => Binary64.ofInt n
  | .float x => x

def Number.toInt64? : Number → Option Int
  | .unsigned n => if n < Nat.pow 2 63 then some n else none
  | .negative n => some n
  | .float _ => none

def Number.ofInt (n : Int) : Number := if n < 0 then .negative n else .unsigned n.toNat

end Json

end TestConductor
