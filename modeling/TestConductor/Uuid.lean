import TestConductor.Json.Shape
/-! # Universally unique identifiers

A UUID is 128 bits, written as 32 lowercase hex digits in groups of 8, 4, 4, 4 and 12 joined by
hyphens. Reading accepts 32 hex digits without hyphens, the hyphenated form, the hyphenated
form in braces, and the hyphenated form after `urn:uuid:` (a prefix of either case), hex digits
of either case.
-/
namespace TestConductor

/-- A 128-bit universally unique identifier. -/
structure Uuid where
  value : Nat
  deriving DecidableEq, Repr, Inhabited

namespace Uuid

def hexDigits (n width : Nat) : String :=
  let ds := Nat.toDigits 16 n
  String.ofList (List.replicate (width - ds.length) '0' ++ ds)

def render (u : Uuid) : String :=
  let h := hexDigits u.value 32
  let part (a b : Nat) := String.ofList ((h.toList.drop a).take b)
  part 0 8 ++ "-" ++ part 8 4 ++ "-" ++ part 12 4 ++ "-" ++ part 16 4 ++ "-" ++ part 20 12

def ofNat (k : Nat) : Uuid := ⟨k % Nat.pow 2 128⟩

def hexValue? (c : Char) : Option Nat :=
  if '0' ≤ c ∧ c ≤ '9' then some (c.toNat - 48)
  else if 'a' ≤ c ∧ c ≤ 'f' then some (c.toNat - 87)
  else if 'A' ≤ c ∧ c ≤ 'F' then some (c.toNat - 55)
  else none

def hexValue (cs : List Char) : Option Nat :=
  cs.foldl (fun acc c => do let a ← acc; let d ← hexValue? c; pure (a * 16 + d)) (some 0)

def readHyphenated (cs : List Char) : Option Uuid :=
  if cs.length = 36 ∧ cs[8]? = some '-' ∧ cs[13]? = some '-' ∧ cs[18]? = some '-' ∧
      cs[23]? = some '-' then
    (hexValue (cs.filter (· != '-'))).bind fun v =>
      if (cs.filter (· == '-')).length = 4 then some ⟨v⟩ else none
  else none

def hasUrnPrefix (cs : List Char) : Bool :=
  (cs.take 9).map Char.toLower == "urn:uuid:".toList

/-- What stands inside a wrapping: inside braces, or after the URN prefix; the number of
bytes the wrapping puts before it; and whether the text was unwrapped, so that it may be the
simple form. -/
def unwrap (cs : List Char) : List Char × Nat × Bool :=
  if cs.head? = some '{' ∧ cs.getLast? = some '}' ∧ cs.length ≥ 2 then ((cs.drop 1).dropLast, 1, false)
  else if hasUrnPrefix cs then (cs.drop 9, 9, false)
  else (cs, 0, true)

/-- Why a text read in one form is not a UUID. A character that is neither a hex digit nor a
hyphen is named with its byte position, counted from the start of the wrapping; else a text
meant as the simple form without hyphens has the wrong length; else the hyphens split the text
into the wrong number of groups; else the first group of the wrong length is named, the last
group measured as the whole text less the bytes before it. -/
def describe (body : List Char) (offset : Nat) (simple : Bool) (total : Nat) : String :=
  -- Byte positions of the characters of the body.
  let positions := (body.foldl (fun (acc : List Nat × Nat) c => (acc.1 ++ [acc.2], acc.2 + c.utf8Size)) ([], 0)).1
  let bad := (body.zip positions).find? fun (c, _) => c != '-' && (hexValue? c).isNone
  match bad with
  | some (c, i) => "invalid character: found `" ++ String.singleton c ++ s!"` at {i + offset}"
  | none =>
    let hyphens := ((body.zip positions).filter (·.1 == '-')).map (·.2)
    if hyphens.isEmpty ∧ simple then s!"invalid length: found {total}"
    else if hyphens.length ≠ 4 then s!"invalid group count: expected 5, found {hyphens.length + 1}"
    else
      let starts := [0, 9, 14, 19, 24]
      let expected := [8, 4, 4, 4, 12]
      let wrong := (List.range 4).find? fun i => hyphens[i]? ≠ some (starts.getD (i + 1) 0 - 1)
      match wrong with
      | some i =>
        s!"invalid group length in group {i}: expected {expected.getD i 0}, found " ++
          toString (hyphens.getD i 0 - starts.getD i 0)
      | none => s!"invalid group length in group 4: expected 12, found {total - 24}"

/-- Why a text is not a UUID. A text of one of the accepted lengths is judged in the form that
length chooses: 32 bytes as the simple form, 36 as the hyphenated form, 38 in braces and 45
after the URN prefix as the hyphenated form inside, positions counted inside. A text longer than
any form has the wrong length. Any other text is judged after taking off its wrapping. -/
def whyNot (s : String) : String :=
  let cs := s.toList
  let n := s.utf8ByteSize
  if n = 32 then describe cs 0 true n
  else if n = 36 then describe cs 0 false n
  else if n = 38 ∧ cs.head? = some '{' ∧ cs.getLast? = some '}' then
    describe ((cs.drop 1).dropLast) 0 false 36
  else if n = 45 ∧ hasUrnPrefix cs then describe (cs.drop 9) 0 false 36
  else if n > 45 then s!"invalid length: found {n}"
  else
    let (body, offset, simple) := unwrap cs
    describe body offset simple n

/-- Reads a UUID in one of its accepted forms, or says why the text is none. The form is chosen
by the length in bytes: 32 for the simple form, 36 for the hyphenated form, 38 for it in braces
and 45 for it after the URN prefix. -/
def parse (s : String) : Except String Uuid :=
  let cs := s.toList
  let n := s.utf8ByteSize
  let read : Option Uuid :=
    if n = 32 then (hexValue cs).map Uuid.mk
    else if n = 36 then readHyphenated cs
    else if n = 38 ∧ cs.head? = some '{' ∧ cs.getLast? = some '}' then
      readHyphenated ((cs.drop 1).dropLast)
    else if n = 45 ∧ hasUrnPrefix cs then readHyphenated (cs.drop 9)
    else none
  match read with
  | some u => .ok u
  | none => .error ("UUID parsing failed: " ++ whyNot s)

def shape : Json.Shape :=
  .text "a formatted UUID string" fun s => (parse s).map fun u => .str u.render

end Uuid

end TestConductor
