import TestConductor.Yaml.Token
import TestConductor.Binary64
/-! # What a plain scalar means

A plain scalar is read by the YAML 1.2 core schema: empty, `~` and `null` in three cases are
null; `true` and `false` in three cases are booleans; decimal integers, and hexadecimal, octal
and binary ones after `0x`, `0o` and `0b`, are integers, with an optional sign; decimal numbers,
`.inf` and `.nan` are floats; everything else is a string. Digits with a leading zero, such as
`007`, are a string, not a number. Quoted and block scalars are always strings.
-/
namespace TestConductor

namespace Yaml

def isNullText (s : String) : Bool := s.isEmpty || ["~", "null", "Null", "NULL"].contains s

def boolOfText? (s : String) : Option Bool :=
  if ["true", "True", "TRUE"].contains s then some true
  else if ["false", "False", "FALSE"].contains s then some false
  else none

/-- Whether a scalar is digits with a leading zero, after an optional sign: a string, though
it looks like a number. -/
def digitsButNotNumber (s : String) : Bool :=
  let cs := match s.toList with
    | '-' :: r => r
    | '+' :: r => r
    | cs => cs
  cs.length > 1 && cs.head? == some '0' && (cs.drop 1).all Char.isDigit

def digitOf? (c : Char) : Option Nat :=
  if c.isDigit then some (c.toNat - '0'.toNat)
  else if 'a' ≤ c && c ≤ 'z' then some (c.toNat - 'a'.toNat + 10)
  else if 'A' ≤ c && c ≤ 'Z' then some (c.toNat - 'A'.toNat + 10)
  else none

def radixValue (radix : Nat) (cs : List Char) : Option Nat :=
  if cs.isEmpty then none
  else cs.foldlM (fun acc c => (digitOf? c).bind fun d => if d < radix then some (acc * radix + d) else none) 0

def unsignedIn (radix bound : Nat) (cs : List Char) : Option Nat :=
  let digits := match cs with
    | '+' :: r => r
    | r => r
  if cs == ['+'] then none
  else (radixValue radix digits).filter (· < bound)

def signedIn (radix : Nat) (lo hi : Int) (cs : List Char) : Option Int :=
  let (negative, digits) := match cs with
    | '+' :: r => (false, r)
    | '-' :: r => (true, r)
    | r => (false, r)
  if cs == ['+'] || cs == ['-'] then none
  else (radixValue radix digits).bind fun n =>
    let v : Int := if negative then -(n : Int) else n
    if lo ≤ v && v ≤ hi then some v else none

def radixPrefixes : List (String × Nat) := [("0x", 16), ("0o", 8), ("0b", 2)]

/-- A non-negative integer below a bound: an optional plus sign, then a radix prefix and digits
without a sign, or decimal digits without a leading zero. -/
def unsignedOfText? (bound : Nat) (s : String) : Option Nat :=
  let unpositive := if s.startsWith "+" then String.ofList (s.toList.drop 1) else s
  let prefixed := radixPrefixes.findSome? fun (p, radix) =>
    if unpositive.startsWith p then
      let rest := unpositive.toList.drop 2
      if rest.head? == some '+' || rest.head? == some '-' then some none
      else (unsignedIn radix bound rest).map some
    else none
  match prefixed with
  | some r => r
  | none =>
    if unpositive.startsWith "+" || unpositive.startsWith "-" || digitsButNotNumber s then none
    else unsignedIn 10 bound unpositive.toList

/-- A negative-looking integer within signed bounds: a minus sign and a radix prefix, or
decimal digits with an optional sign and no leading zero. -/
def negativeOfText? (lo hi : Int) (s : String) : Option Int :=
  let prefixed := radixPrefixes.findSome? fun (p, radix) =>
    if s.startsWith ("-" ++ p) then (signedIn radix lo hi ('-' :: s.toList.drop 3)).map some
    else none
  match prefixed with
  | some r => r
  | none => if digitsButNotNumber s then none else signedIn 10 lo hi s.toList

def signedOfText? (lo hi : Int) (s : String) : Option Int :=
  if s.startsWith "+" && (s.toList.drop 1).head?.any (fun c => c == '+' || c == '-') then none
  else
    let unpositive := if s.startsWith "+" then String.ofList (s.toList.drop 1) else s
    let prefixed := radixPrefixes.findSome? fun (p, radix) =>
      if unpositive.startsWith p then some (signedIn radix lo hi (unpositive.toList.drop 2))
      else if s.startsWith ("-" ++ p) then some (signedIn radix lo hi ('-' :: s.toList.drop 3))
      else none
    match prefixed with
    | some r => r
    | none => if digitsButNotNumber s then none else signedIn 10 lo hi unpositive.toList

/-- The decimal point and exponent of a number's text: digits, an optional fraction and an
optional exponent, with at least one digit before the exponent. -/
def decimalParts? (cs : List Char) : Option (Nat × Int) :=
  let whole := cs.takeWhile Char.isDigit
  let afterWhole := cs.dropWhile Char.isDigit
  let (frac, afterFrac) := match afterWhole with
    | '.' :: r => (r.takeWhile Char.isDigit, r.dropWhile Char.isDigit)
    | r => ([], r)
  if whole.isEmpty && frac.isEmpty then none
  else
    let mantissa := (whole ++ frac).foldl (fun acc c => acc * 10 + (c.toNat - '0'.toNat)) 0
    let exp : Option Int := match afterFrac with
      | [] => some 0
      | e :: r =>
        if e == 'e' || e == 'E' then
          let (neg, ds) := match r with
            | '+' :: d => (false, d)
            | '-' :: d => (true, d)
            | d => (false, d)
          if ds.isEmpty || !ds.all Char.isDigit then none
          else
            let n : Int := ds.foldl (fun acc c => acc * 10 + (c.toNat - '0'.toNat)) 0
            some (if neg then -n else n)
        else none
    exp.map fun e => (mantissa, e - frac.length)

def decimalLength (n : Nat) : Nat := (toString n).length

def scaledDecimal (negative : Bool) (m : Nat) (e : Int) : Binary64 :=
  if m == 0 then Binary64.zero negative
  else if e + decimalLength m > 310 then Binary64.infinity negative
  else if e + decimalLength m < -330 then Binary64.zero negative
  else if e ≥ 0 then Binary64.round negative (m * Nat.pow 10 e.toNat) 1
  else Binary64.round negative m (Nat.pow 10 (-e).toNat)

/-- A float in decimal text with an optional sign, rounded to the nearest binary64; the words
`inf`, `infinity` and `nan` in any case are the special values. -/
def floatOfText? (s : String) : Option Binary64 :=
  let (negative, body) := match s.toList with
    | '+' :: r => (false, r)
    | '-' :: r => (true, r)
    | r => (false, r)
  let word := String.ofList (body.map Char.toLower)
  if word == "inf" || word == "infinity" then some (Binary64.infinity negative)
  else if word == "nan" then some Binary64.nan
  else (decimalParts? body).map fun (m, e) => scaledDecimal negative m e

/-- A float of a plain scalar: `.inf`, `-.inf` and `.nan` in three cases, or a finite decimal
number. -/
def floatOfScalar? (s : String) : Option Binary64 :=
  let unpositive := if s.startsWith "+" then String.ofList (s.toList.drop 1) else s
  if s.startsWith "+" && (unpositive.startsWith "+" || unpositive.startsWith "-") then none
  else if [".inf", ".Inf", ".INF"].contains unpositive then some (Binary64.infinity false)
  else if ["-.inf", "-.Inf", "-.INF"].contains s then some (Binary64.infinity true)
  else if [".nan", ".NaN", ".NAN"].contains s then some Binary64.nan
  else (floatOfText? unpositive).filter (·.isFinite)

/-- An integer of a scalar, as what was found: one that fits 64 bits, unsigned or negative,
else one that fits 128 bits. -/
def integerFound? (text : String) : Option Json.Found :=
  if let some n := unsignedOfText? (Nat.pow 2 64) text then some (.unsigned n)
  else if let some n := negativeOfText? (-Int.pow 2 63) (Int.pow 2 63 - 1) text then some (.signed n)
  else if let some n := unsignedOfText? (Nat.pow 2 128) text then some (.other s!"integer `{n}` as u128")
  else if let some n := negativeOfText? (-Int.pow 2 127) (Int.pow 2 127 - 1) text then
    some (.other s!"integer `{n}` as i128")
  else none

def foundOfScalar (text : String) (style : ScalarStyle) : Json.Found :=
  if style != .plain then .str text
  else if isNullText text then .null
  else if let some b := boolOfText? text then .bool b
  else if let some f := integerFound? text then f
  else if !digitsButNotNumber text then
    match floatOfScalar? text with
    | some x => .float x
    | none => .str text
  else .str text

def boolTag : String := "tag:yaml.org,2002:bool"

def intTag : String := "tag:yaml.org,2002:int"

def floatTag : String := "tag:yaml.org,2002:float"

def nullTag : String := "tag:yaml.org,2002:null"

def spellsNull (s : String) : Bool := ["~", "null", "Null", "NULL"].contains s

/-- What a scalar with an optional tag is. A tag of the core schema reads the text as its kind
and refuses a text that is not of it; a local tag, one starting with `!`, leaves a plain scalar
as if it had none; any other tag makes the scalar a string. -/
def foundOfTagged (text : String) (style : ScalarStyle) : Option String → Except Json.DataFault Json.Found
  | none => .ok (foundOfScalar text style)
  | some t =>
    if t == boolTag then
      match boolOfText? text with
      | some b => .ok (.bool b)
      | none => .error (.invalidValue (.str text) "a boolean")
    else if t == intTag then
      match integerFound? text with
      | some f => .ok f
      | none => .error (.invalidValue (.str text) "an integer")
    else if t == floatTag then
      match floatOfScalar? text with
      | some x => .ok (.float x)
      | none => .error (.invalidValue (.str text) "a float")
    else if t == nullTag then
      if spellsNull text then .ok .null else .error (.invalidValue (.str text) "null")
    else if t.startsWith "!" && style == .plain then .ok (foundOfScalar text .plain)
    else .ok (.str text)

def readsAsOther (text : String) : Bool :=
  match foundOfScalar text .plain with
  | .str _ => digitsButNotNumber text
  | _ => true

end Yaml

end TestConductor
