import TestConductor.Json.Fault
/-! # Lexemes of JSON text

JSON text is read as UTF-8 bytes through a `Cursor`, which knows the line (from 1) and the
column (bytes since the last newline) of the next byte. A fault is placed either at the cursor
("here") or one byte further, just past the byte looked at ("ahead").
-/
namespace TestConductor

namespace Json

/-- A place in JSON text: the bytes left, and the line and byte column of the first of them. -/
structure Cursor where
  rest : List UInt8
  line : Nat
  column : Nat
  deriving Repr, Inhabited

def utf8 (s : String) : List UInt8 := s.toUTF8.data.toList

namespace Cursor

def ofString (s : String) : Cursor := ⟨utf8 s, 1, 0⟩

def here (c : Cursor) : Nat × Nat := (c.line, c.column)

def ahead (c : Cursor) : Nat × Nat :=
  match c.rest with
  | [] => c.here
  | b :: _ => if b == 10 then (c.line + 1, 0) else (c.line, c.column + 1)

def peek? (c : Cursor) : Option UInt8 := c.rest.head?

def bump (c : Cursor) : Cursor :=
  match c.rest with
  | [] => c
  | b :: r => if b == 10 then ⟨r, c.line + 1, 0⟩ else ⟨r, c.line, c.column + 1⟩

@[simp] theorem rest_bump (c : Cursor) : c.bump.rest = c.rest.tail := by
  unfold bump
  split
  · simp_all
  · split <;> simp_all

def skip (c : Cursor) : Nat → Cursor
  | 0 => c
  | n + 1 => (c.bump).skip n

def isBlank (b : UInt8) : Bool := b == 32 || b == 9 || b == 10 || b == 13

def skipBlankFrom : List UInt8 → Nat → Nat → Cursor
  | [], line, col => ⟨[], line, col⟩
  | b :: r, line, col =>
    if b == 10 then skipBlankFrom r (line + 1) 0
    else if isBlank b then skipBlankFrom r line (col + 1)
    else ⟨b :: r, line, col⟩

def skipBlank (c : Cursor) : Cursor := skipBlankFrom c.rest c.line c.column

end Cursor

abbrev Failure := Fault × Cursor

def faultAt {α : Type} (f : SyntaxFault) (place : Nat × Nat) (c : Cursor) : Except Failure α :=
  .error (⟨.malformed f, some place⟩, c)

def dataAt {α : Type} (f : DataFault) (c : Cursor) : Except Failure α :=
  .error (⟨.mismatch f, none⟩, c)

def placeFault {α : Type} : Except Failure α → Except Failure α
  | .error (⟨cause, none⟩, c) => .error (⟨cause, some c.here⟩, c)
  | r => r

/-- Reads the rest of a keyword: each expected byte in turn; the end of text is an unfinished
value and another byte a wrong keyword. -/
def readKeyword : List UInt8 → Cursor → Except Failure Cursor
  | [], c => .ok c
  | e :: es, c =>
    match c.rest with
    | [] => faultAt .eofInValue c.here c
    | b :: _ => if b == e then readKeyword es c.bump else faultAt .expectedIdent c.bump.here c.bump

def isDigit (b : UInt8) : Bool := 48 ≤ b && b ≤ 57

def digitValue (b : UInt8) : Nat := b.toNat - 48

def wordMax : Nat := Nat.pow 2 64 - 1

/-- Gathers digits into `sig` while it stays a 64-bit word: the significand, how many digits
were taken, and the bytes from the first digit not taken. -/
def gather : List UInt8 → Nat → Nat → Nat × Nat × List UInt8
  | [], sig, n => (sig, n, [])
  | b :: r, sig, n =>
    if isDigit b ∧ sig * 10 + digitValue b ≤ wordMax then gather r (sig * 10 + digitValue b) (n + 1)
    else (sig, n, b :: r)

def dropDigits : List UInt8 → Nat → Nat × List UInt8
  | [], n => (n, [])
  | b :: r, n => if isDigit b then dropDigits r (n + 1) else (n, b :: r)

def powTen : Array Binary64 := (List.range 309).toArray.map Binary64.pow10

def powTenAt (k : Nat) : Binary64 := powTen.getD k (Binary64.pow10 k)

def scaleByPowTen (f : Binary64) (exp : Int) : Option Binary64 :=
  if exp.natAbs ≤ 308 then
    if 0 ≤ exp then
      let g := f.mul (powTenAt exp.toNat)
      if g.isFinite then some g else none
    else some (f.div (powTenAt exp.natAbs))
  else if f.isZero then some f
  else if 0 ≤ exp then none
  else scaleByPowTen (f.div (powTenAt 308)) (exp + 308)
termination_by exp.natAbs
decreasing_by omega

def floatOfParts (positive : Bool) (sig : Nat) (exp : Int) : Option Binary64 :=
  (scaleByPowTen (Binary64.ofNat sig) exp).map fun f => if positive then f else f.neg

def int32Max : Int := Int.pow 2 31 - 1

def saturate32 (n : Int) : Int := max (-Int.pow 2 31) (min int32Max n)

/-- Gathers exponent digits while the exponent stays a 32-bit integer: the exponent, the rest,
how many digits were taken, and whether a digit overflowed (which is then taken too). -/
def gatherExponent : List UInt8 → Int → Nat → Int × List UInt8 × Nat × Bool
  | [], e, n => (e, [], n, false)
  | b :: r, e, n =>
    if isDigit b then
      if e * 10 + digitValue b > int32Max then (e, r, n + 1, true)
      else gatherExponent r (e * 10 + digitValue b) (n + 1)
    else (e, b :: r, n, false)

def finishFloat (positive : Bool) (sig : Nat) (exp : Int) (c : Cursor) :
    Except Failure (Number × Cursor) :=
  match floatOfParts positive sig exp with
  | some f => .ok (.float f, c)
  | none => faultAt .numberOutOfRange c.here c

/-- The sign of an exponent, the cursor past the `e`: whether it is positive, and the cursor
past the sign if one is written. -/
def exponentSign (c : Cursor) : Bool × Cursor :=
  match c.rest with
  | b :: _ => if b == 43 then (true, c.bump) else if b == 45 then (false, c.bump) else (true, c)
  | [] => (true, c)

def readExponent (positive : Bool) (sig : Nat) (start : Int) (c : Cursor) :
    Except Failure (Number × Cursor) :=
  let (positiveExp, c) := exponentSign c.bump
  match c.rest with
  | [] => faultAt .eofInValue c.here c
  | b :: r =>
    if !isDigit b then faultAt .invalidNumber c.bump.here c.bump
    else
      let (e, rest, n, overflow) := gatherExponent r (digitValue b) 0
      let c' : Cursor := ⟨rest, c.line, c.column + 1 + n⟩
      if overflow then
        if sig ≠ 0 ∧ positiveExp then faultAt .numberOutOfRange c'.here c'
        else
          let (m, rest') := dropDigits rest 0
          let z := Binary64.zero (!positive)
          .ok (.float z, ⟨rest', c'.line, c'.column + m⟩)
      else
        let final := if positiveExp then saturate32 (start + e) else saturate32 (start - e)
        finishFloat positive sig final c'

def readFraction (positive : Bool) (sig : Nat) (before : Int) (c : Cursor) :
    Except Failure (Number × Cursor) :=
  let c := c.bump
  let (sig', n, rest) := gather c.rest sig 0
  let c1 : Cursor := ⟨rest, c.line, c.column + n⟩
  -- Digits beyond a full significand are dropped.
  let (m, rest') := dropDigits rest 0
  let c2 : Cursor := ⟨rest', c1.line, c1.column + m⟩
  if n = 0 ∧ m = 0 then
    match c2.rest with
    | [] => faultAt .eofInValue c2.ahead c2
    | _ => faultAt .invalidNumber c2.ahead c2
  else
    let exp := before - n
    match c2.rest with
    | b :: _ => if b == 101 || b == 69 then readExponent positive sig' exp c2 else finishFloat positive sig' exp c2
    | [] => finishFloat positive sig' exp c2

/-- The number of digits without fraction or exponent: minus zero, and a negative integer below
`-2^63`, are floats. -/
def integerOf (positive : Bool) (sig : Nat) : Number :=
  if positive then .unsigned sig
  else if sig = 0 then .float (Binary64.zero true)
  else if sig ≤ Nat.pow 2 63 then .negative (-(sig : Int))
  else .float (Binary64.ofNat sig).neg

def readAfterDigits (positive : Bool) (sig : Nat) (c : Cursor) : Except Failure (Number × Cursor) :=
  match c.rest with
  | b :: _ =>
    if b == 46 then readFraction positive sig 0 c
    else if b == 101 || b == 69 then readExponent positive sig 0 c
    else .ok (integerOf positive sig, c)
  | [] => .ok (integerOf positive sig, c)

def readNumber (positive : Bool) (c : Cursor) : Except Failure (Number × Cursor) :=
  match c.rest with
  | [] => faultAt .eofInValue c.here c
  | b :: r =>
    let c1 := c.bump
    if b == 48 then
      match r with
      | d :: _ => if isDigit d then faultAt .invalidNumber c1.ahead c1 else readAfterDigits positive 0 c1
      | [] => readAfterDigits positive 0 c1
    else if isDigit b then
      let (sig, n, rest) := gather r (digitValue b) 0
      let c2 : Cursor := ⟨rest, c1.line, c1.column + n⟩
      match rest with
      | d :: _ =>
        if isDigit d then
          -- The significand is full: the other integer digits count as powers of ten.
          let (m, rest') := dropDigits rest 0
          let c3 : Cursor := ⟨rest', c2.line, c2.column + m⟩
          match rest' with
          | e :: _ =>
            if e == 46 then readFraction positive sig m c3
            else if e == 101 || e == 69 then readExponent positive sig m c3
            else finishFloat positive sig m c3
          | [] => finishFloat positive sig m c3
        else readAfterDigits positive sig c2
      | [] => readAfterDigits positive sig c2
    else faultAt .invalidNumber c1.here c1

/-- Skips a number, the cursor at its first digit or after its minus sign, checking only its
form. -/
def skipNumber (c : Cursor) : Except Failure Cursor :=
  let afterInt (c : Cursor) : Except Failure Cursor :=
    let exponent (c : Cursor) : Except Failure Cursor :=
      let c := c.bump
      let c := match c.rest with
        | b :: _ => if b == 43 || b == 45 then c.bump else c
        | [] => c
      match c.rest with
      | b :: r =>
        if isDigit b then
          let (m, rest) := dropDigits r 0
          .ok ⟨rest, c.line, c.column + 1 + m⟩
        else faultAt .invalidNumber c.bump.here c.bump
      | [] => faultAt .invalidNumber c.here c
    match c.rest with
    | b :: _ =>
      if b == 46 then
        let c := c.bump
        let (m, rest) := dropDigits c.rest 0
        let c : Cursor := ⟨rest, c.line, c.column + m⟩
        if m = 0 then faultAt .invalidNumber c.ahead c
        else match rest with
          | e :: _ => if e == 101 || e == 69 then exponent c else .ok c
          | [] => .ok c
      else if b == 101 || b == 69 then exponent c
      else .ok c
    | [] => .ok c
  match c.rest with
  | b :: r =>
    if b == 48 then
      match r with
      | d :: _ => if isDigit d then faultAt .invalidNumber c.bump.ahead c.bump else afterInt c.bump
      | [] => afterInt c.bump
    else if isDigit b then
      let (m, rest) := dropDigits r 0
      afterInt ⟨rest, c.line, c.column + 1 + m⟩
    else faultAt .invalidNumber c.bump.here c.bump
  | [] => faultAt .invalidNumber c.here c

def hexValue? (b : UInt8) : Option Nat :=
  if 48 ≤ b ∧ b ≤ 57 then some (b.toNat - 48)
  else if 97 ≤ b ∧ b ≤ 102 then some (b.toNat - 87)
  else if 65 ≤ b ∧ b ≤ 70 then some (b.toNat - 55)
  else none

def hex4? (a b c d : UInt8) : Option Nat := do
  let a ← hexValue? a
  let b ← hexValue? b
  let c ← hexValue? c
  let d ← hexValue? d
  pure (((a * 16 + b) * 16 + c) * 16 + d)

def utf8Rev (n : Nat) : List UInt8 :=
  let b (k : Nat) : UInt8 := k.toUInt8
  if n < 0x80 then [b n]
  else if n < 0x800 then [b (0x80 + n % 64), b (0xC0 + n / 64)]
  else if n < 0x10000 then [b (0x80 + n % 64), b (0x80 + n / 64 % 64), b (0xE0 + n / 4096)]
  else [b (0x80 + n % 64), b (0x80 + n / 64 % 64), b (0x80 + n / 4096 % 64), b (0xF0 + n / 262144)]

def passBytes : List UInt8 → Nat → Nat → Nat × Nat
  | [], line, col => (line, col)
  | b :: r, line, col => if b == 10 then passBytes r (line + 1) 0 else passBytes r line (col + 1)

def cursorAfter (bs rest : List UInt8) (line col : Nat) : Cursor :=
  let (l, k) := passBytes bs line col
  ⟨rest, l, k⟩

/-- Reads four hex digits, the escape's `u` consumed: the unit and the cursor after them; too
few bytes consume the text and leave the string unfinished. -/
def readHexUnit (c : Cursor) : Except Failure (Nat × Cursor) :=
  match c.rest with
  | a :: b :: d :: e :: r =>
    let c' := cursorAfter [a, b, d, e] r c.line c.column
    match hex4? a b d e with
    | some n => .ok (n, c')
    | none => faultAt .invalidEscape c'.here c'
  | bs =>
    let c' := cursorAfter bs [] c.line c.column
    faultAt .eofInString c'.here c'

def readUnicodeEscape (c : Cursor) (acc : List UInt8) : Except Failure (List UInt8 × Cursor) := do
  let (n, c) ← readHexUnit c
  if 0xDC00 ≤ n ∧ n ≤ 0xDFFF then faultAt .loneLeadingSurrogate c.here c
  else if n < 0xD800 ∨ 0xDBFF < n then pure (utf8Rev n ++ acc, c)
  else
    match c.rest with
    | [] => faultAt .eofInString c.here c
    | b :: _ =>
      if b != 92 then faultAt .unexpectedEndOfHexEscape c.bump.here c.bump
      else
        let c := c.bump
        match c.rest with
        | [] => faultAt .eofInString c.here c
        | u :: _ =>
          if u != 117 then faultAt .unexpectedEndOfHexEscape c.bump.here c.bump
          else
            let (n2, c) ← readHexUnit c.bump
            if n2 < 0xDC00 ∨ 0xDFFF < n2 then faultAt .loneLeadingSurrogate c.here c
            else pure (utf8Rev (0x10000 + (n - 0xD800) * 1024 + (n2 - 0xDC00)) ++ acc, c)

def shortEscape? (b : UInt8) : Option UInt8 :=
  if b == 34 then some 34 else if b == 92 then some 92 else if b == 47 then some 47
  else if b == 98 then some 8 else if b == 102 then some 12 else if b == 110 then some 10
  else if b == 114 then some 13 else if b == 116 then some 9 else none

def stringOfRev (acc : List UInt8) : String :=
  (String.fromUTF8? (ByteArray.mk acc.reverse.toArray)).getD ""

/-- Reads the rest of a string whose opening quote is consumed; `acc` holds the bytes so far in
reverse. Each step consumes at least one byte. -/
def readStringBody (c : Cursor) (acc : List UInt8) : Except Failure (String × Cursor) :=
  match _h : c.rest with
  | [] => faultAt .eofInString c.here c
  | b :: _ =>
    if b == 34 then .ok (stringOfRev acc, c.bump)
    else if b == 92 then
      match c.bump.rest with
      | [] => faultAt .eofInString c.bump.here c.bump
      | e :: _ =>
        match shortEscape? e with
        | some v => readStringBody c.bump.bump (v :: acc)
        | none =>
          if e == 117 then
            match readUnicodeEscape c.bump.bump acc with
            | .ok (acc', c3) =>
              if c3.rest.length < c.rest.length then readStringBody c3 acc'
              else faultAt .eofInString c3.here c3
            | .error f => .error f
          else faultAt .invalidEscape c.bump.bump.here c.bump.bump
    else if b < 32 then faultAt .controlCharacterInString c.bump.here c.bump
    else readStringBody c.bump (b :: acc)
termination_by c.rest.length
decreasing_by all_goals (simp_all; try omega)

/-- Skips the rest of a string whose opening quote is consumed, checking escapes only for
their form. -/
def skipStringBody (c : Cursor) : Except Failure Cursor :=
  match _h : c.rest with
  | [] => faultAt .eofInString c.here c
  | b :: _ =>
    if b == 34 then .ok c.bump
    else if b == 92 then
      match c.bump.rest with
      | [] => faultAt .eofInString c.bump.here c.bump
      | e :: _ =>
        match shortEscape? e with
        | some _ => skipStringBody c.bump.bump
        | none =>
          if e == 117 then
            match readHexUnit c.bump.bump with
            | .ok (_, c3) =>
              if c3.rest.length < c.rest.length then skipStringBody c3
              else faultAt .eofInString c3.here c3
            | .error f => .error f
          else faultAt .invalidEscape c.bump.bump.here c.bump.bump
    else if b < 32 then faultAt .controlCharacterInString c.here c
    else skipStringBody c.bump
termination_by c.rest.length
decreasing_by all_goals (simp_all; try omega)

end Json

end TestConductor
