/-! # Reading UTF-8

Bytes are read as UTF-8, and every ill-formed part becomes one replacement character: at a byte
that cannot begin a character, that byte alone; at a byte that begins one, the longest prefix of
a well-formed sequence that follows it. The byte where such a prefix breaks off is read again
as the start of what comes next. A strict check finds the first ill-formed part the same way and
reports where it begins and how long it is.
-/
namespace TestConductor

namespace Text

namespace Utf8

def replacement : Char := '�'

def isTrail (b : UInt8) : Bool := 0x80 ≤ b && b ≤ 0xBF

/-- For a byte that begins a sequence of two or more bytes: how many bytes follow it, and the
range the first of them must lie in. -/
def lead (b : UInt8) : Option (Nat × UInt8 × UInt8) :=
  if 0xC2 ≤ b && b ≤ 0xDF then some (1, 0x80, 0xBF)
  else if b == 0xE0 then some (2, 0xA0, 0xBF)
  else if 0xE1 ≤ b && b ≤ 0xEC then some (2, 0x80, 0xBF)
  else if b == 0xED then some (2, 0x80, 0x9F)
  else if 0xEE ≤ b && b ≤ 0xEF then some (2, 0x80, 0xBF)
  else if b == 0xF0 then some (3, 0x90, 0xBF)
  else if 0xF1 ≤ b && b ≤ 0xF3 then some (3, 0x80, 0xBF)
  else if b == 0xF4 then some (3, 0x80, 0x8F)
  else none

def leadBits (b : UInt8) (follow : Nat) : Nat :=
  match follow with
  | 1 => (b &&& 0x1F).toNat
  | 2 => (b &&& 0x0F).toNat
  | _ => (b &&& 0x07).toNat

/-- What reading the bytes that continue a sequence gave: how many were still missing when a
byte did not fit, the value read, and the bytes left. -/
structure Trail where
  missing : Nat
  value : Nat
  rest : List UInt8

/-- Reads up to `n` bytes that continue a sequence, the first within `lo`..`hi` and the others
within the trail range, onto the value `acc`; stops at the first byte that does not fit. -/
def trail (lo hi : UInt8) : Nat → Nat → List UInt8 → Trail
  | 0, acc, bs => ⟨0, acc, bs⟩
  | n + 1, acc, b :: bs =>
    if lo ≤ b && b ≤ hi then trail 0x80 0xBF n (acc * 64 + (b &&& 0x3F).toNat) bs
    else ⟨n + 1, acc, b :: bs⟩
  | n + 1, acc, [] => ⟨n + 1, acc, []⟩

theorem trail_rest_length (lo hi : UInt8) (n acc : Nat) (bs : List UInt8) :
    (trail lo hi n acc bs).rest.length ≤ bs.length := by
  induction n generalizing lo hi acc bs with
  | zero => simp [trail]
  | succ n ih =>
    cases bs with
    | nil => simp [trail]
    | cons b bs =>
      simp only [trail]
      split
      · have := ih 0x80 0xBF (acc * 64 + (b &&& 0x3F).toNat) bs
        simp only [List.length_cons]
        omega
      · simp

/-- Reads the character or ill-formed part that begins with byte `b`, followed by `bs`; gives
the character and the bytes left. -/
def step (b : UInt8) (bs : List UInt8) : Char × List UInt8 :=
  if b < 0x80 then (Char.ofNat b.toNat, bs)
  else match lead b with
    | none => (replacement, bs)
    | some (n, lo, hi) =>
      let t := trail lo hi n (leadBits b n) bs
      (if t.missing == 0 then Char.ofNat t.value else replacement, t.rest)

theorem step_rest_length (b : UInt8) (bs : List UInt8) : (step b bs).2.length ≤ bs.length := by
  unfold step
  split
  · simp
  · split
    · simp
    · exact trail_rest_length _ _ _ _ _

def decodeOnto (acc : String) : List UInt8 → String
  | [] => acc
  | b :: bs =>
    have := step_rest_length b bs
    decodeOnto (acc.push (step b bs).1) (step b bs).2
termination_by bs => bs.length

def decodeLossy (bs : List UInt8) : String := decodeOnto "" bs

/-! ## Checking UTF-8 strictly -/

/-- Where bytes first stop being UTF-8, counting from `index`: the index at which the ill-formed
part begins, and how many bytes of it there are, or none when the bytes end inside a character. -/
def firstFault (index : Nat) : List UInt8 → Option (Nat × Option Nat)
  | [] => none
  | b :: bs =>
    if b < 0x80 then firstFault (index + 1) bs
    else match lead b with
      | none => some (index, some 1)
      | some (n, lo, hi) =>
        let t := trail lo hi n 0 bs
        if t.missing == 0 then firstFault (index + 1 + n) t.rest
        else if t.rest.isEmpty then some (index, none)
        else some (index, some (n + 1 - t.missing))
termination_by bs => bs.length
decreasing_by
  · simp
  · have := trail_rest_length lo hi n 0 bs
    simp only [List.length_cons]
    omega

def faultText : Nat × Option Nat → String
  | (index, some n) => s!"invalid utf-8 sequence of {n} bytes from index {index}"
  | (index, none) => s!"incomplete utf-8 byte sequence from index {index}"

end Utf8

end Text

end TestConductor
