import TestConductor.Json.Shape
import TestConductor.Text.Blank
/-! # Instants in UTC

An instant is whole seconds since 1970-01-01T00:00:00Z and nanoseconds; nanoseconds from one
second up mark a leap second. It is read from RFC 3339 text, leniently: a blank, `t` or `T`
between date and time, blanks between the fields, an optional fraction of any length (digits
after the ninth are ignored), and an offset `Z`, `UTC` or `±hh:mm`, which is taken off to give
UTC. It is written as `YYYY-MM-DDThh:mm:ss`, with 3, 6 or 9 fraction digits when the
nanoseconds need them, and `Z`.
-/
namespace TestConductor

/-- An instant in UTC. -/
structure Timestamp where
  seconds : Int
  nanos : Nat
  deriving DecidableEq, Repr, Inhabited

namespace Timestamp

def daysOfDate (y : Int) (m d : Nat) : Int :=
  let y := if m ≤ 2 then y - 1 else y
  let era := y / 400
  let yoe := y - era * 400
  let mp : Int := if m > 2 then m - 3 else m + 9
  let doy := (153 * mp + 2) / 5 + d - 1
  let doe := yoe * 365 + yoe / 4 - yoe / 100 + doy
  era * 146097 + doe - 719468

def dateOfDays (z : Int) : Int × Nat × Nat :=
  let z := z + 719468
  let era := z / 146097
  let doe := z - era * 146097
  let yoe := (doe - doe / 1460 + doe / 36524 - doe / 146096) / 365
  let y := yoe + era * 400
  let doy := doe - (365 * yoe + yoe / 4 - yoe / 100)
  let mp := (5 * doy + 2) / 153
  let d := doy - (153 * mp + 2) / 5 + 1
  let m := if mp < 10 then mp + 3 else mp - 9
  ((if m ≤ 2 then y + 1 else y), m.toNat, d.toNat)

def isLeap (y : Int) : Bool := (y % 4 == 0 && y % 100 != 0) || y % 400 == 0

def monthDays (y : Int) (m : Nat) : Nat :=
  if m = 2 then (if isLeap y then 29 else 28)
  else if m = 4 ∨ m = 6 ∨ m = 9 ∨ m = 11 then 30 else 31

def pad (n width : Nat) : String :=
  let s := toString n
  String.ofList (List.replicate (width - s.length) '0') ++ s

def render (t : Timestamp) : String :=
  let days := t.seconds.fdiv 86400
  let secs := (t.seconds - days * 86400).toNat
  let (y, m, d) := dateOfDays days
  let leap := t.nanos ≥ 1000000000
  let nanos := t.nanos % 1000000000
  let year := if 0 ≤ y ∧ y ≤ 9999 then pad y.toNat 4
    else (if y < 0 then "-" else "+") ++ pad y.natAbs 4
  let frac :=
    if nanos = 0 then ""
    else if nanos % 1000000 = 0 then "." ++ pad (nanos / 1000000) 3
    else if nanos % 1000 = 0 then "." ++ pad (nanos / 1000) 6
    else "." ++ pad nanos 9
  year ++ "-" ++ pad m 2 ++ "-" ++ pad d 2 ++ "T" ++ pad (secs / 3600) 2 ++ ":" ++
    pad (secs / 60 % 60) 2 ++ ":" ++ pad (secs % 60 + (if leap then 1 else 0)) 2 ++ frac ++ "Z"

/-- Why a text is not an instant. -/
inductive Refusal where
  | outOfRange
  | impossible
  | notEnough
  | invalid
  | tooShort
  | tooLong
  deriving DecidableEq, Repr

def Refusal.message : Refusal → String
  | .outOfRange => "input is out of range"
  | .impossible => "no possible date and time matching input"
  | .notEnough => "input is not enough for unique date and time"
  | .invalid => "input contains invalid characters"
  | .tooShort => "premature end of input"
  | .tooLong => "trailing input"

abbrev Scan (α : Type) := List Char → Except Refusal (α × List Char)

def skipSpace (cs : List Char) : List Char := cs.dropWhile Text.isBlank

def byteLength (cs : List Char) : Nat := cs.foldr (fun c n => c.utf8Size + n) 0

def number (min max : Nat) : Scan Int := fun cs =>
  if byteLength cs < min then .error .tooShort
  else
    let ds := (cs.take max).takeWhile Char.isDigit
    let v := ds.foldl (fun n c => n * 10 + (c.toNat - 48 : Nat)) 0
    if ds.length < min then .error .invalid
    else if v ≥ Nat.pow 2 63 then .error .outOfRange
    else .ok (v, cs.drop ds.length)

def literal (c : Char) : Scan Unit := fun cs =>
  match cs with
  | [] => .error .tooShort
  | d :: r => if d = c then .ok ((), r) else .error .invalid

/-- Reads a field of at most `width` digits after blanks; a year may be signed and then has
digits without limit. -/
def field (width : Nat) (signed : Bool) : Scan Int := fun cs =>
  let cs := skipSpace cs
  match cs with
  | '-' :: r => if signed then (number 1 r.length r).map fun (v, r) => (-v, r) else number 1 width cs
  | '+' :: r => if signed then number 1 r.length r else number 1 width cs
  | _ => number 1 width cs

def fraction : Scan Nat := fun cs =>
  match cs with
  | '.' :: r => do
    let (v, r') ← number 1 9 r
    let used := r.length - r'.length
    pure (v.toNat * Nat.pow 10 (9 - used), r'.dropWhile Char.isDigit)
  | _ => .ok (0, cs)

def offset : Scan Int := fun cs =>
  match cs with
  | 'Z' :: r | 'z' :: r => .ok (0, r)
  | _ =>
    let u := (cs.take 3).map Char.toUpper
    if u = ['U', 'T', 'C'] then .ok (0, cs.drop 3)
    else
      let sign : Except Refusal (Bool × List Char) := match cs with
        | '+' :: r => .ok (false, r)
        | '-' :: r => .ok (true, r)
        | '−' :: r => .ok (true, r)
        | [] => .error .tooShort
        | _ => .error .invalid
      match sign with
      | .error e => .error e
      | .ok (negative, r) =>
        match r with
        | h1 :: h2 :: r =>
          if h1.isDigit ∧ h2.isDigit then
            let hours : Int := (h1.toNat - 48) * 10 + (h2.toNat - 48)
            let r := r.dropWhile fun c => c = ':' ∨ Text.isBlank c
            match r with
            | m1 :: m2 :: r =>
              if '0' ≤ m1 ∧ m1 ≤ '5' ∧ m2.isDigit then
                let minutes : Int := (m1.toNat - 48) * 10 + (m2.toNat - 48)
                let secs := hours * 3600 + minutes * 60
                .ok (if negative then -secs else secs, r)
              else if '6' ≤ m1 ∧ m1 ≤ '9' ∧ m2.isDigit then .error .outOfRange
              else .error .invalid
            | [c] => if c.utf8Size ≥ 2 then .error .invalid else .error .tooShort
            | [] => .error .tooShort
          else .error .invalid
        | [c] => if c.utf8Size ≥ 2 then .error .invalid else .error .tooShort
        | [] => .error .tooShort

def firstYear : Int := -262143

def lastYear : Int := 262142

/-- Reads a lenient RFC 3339 instant. The fields are checked as they are read, the rest of the
text next, then the date against the calendar's range, then the offset, and last the instant in
UTC against the same range. -/
def parse (s : String) : Except Refusal Timestamp := do
  let cs := s.toList
  let (y, cs) ← field 4 true cs
  if y < -2147483648 ∨ y > 2147483647 then throw .outOfRange
  let cs := skipSpace cs
  let ((), cs) ← literal '-' cs
  let (m, cs) ← field 2 false cs
  if m < 1 ∨ m > 12 then throw .outOfRange
  let cs := skipSpace cs
  let ((), cs) ← literal '-' cs
  let (d, cs) ← field 2 false cs
  if d < 1 ∨ d > 31 then throw .outOfRange
  let cs ← match cs with
    | c :: r => if c = 'T' ∨ c = 't' ∨ c = ' ' then pure r else throw .invalid
    | [] => throw .tooShort
  let (hh, cs) ← field 2 false cs
  if hh > 23 then throw .outOfRange
  let cs := skipSpace cs
  let ((), cs) ← literal ':' cs
  let (mm, cs) ← field 2 false cs
  if mm > 59 then throw .outOfRange
  let cs := skipSpace cs
  let ((), cs) ← literal ':' cs
  let (ss, cs) ← field 2 false cs
  if ss > 60 then throw .outOfRange
  let (nanos, cs) ← fraction cs
  let cs := skipSpace cs
  let (off, cs) ← offset cs
  if !(skipSpace cs).isEmpty then throw .tooLong
  if y < firstYear ∨ y > lastYear then throw .outOfRange
  if d.toNat > monthDays y m.toNat then throw .outOfRange
  if off.natAbs ≥ 86400 then throw .outOfRange
  let leap := ss = 60
  let ss := if leap then 59 else ss
  let days := daysOfDate y m.toNat d.toNat
  let utc := days * 86400 + hh * 3600 + mm * 60 + ss - off
  if utc < daysOfDate firstYear 1 1 * 86400 ∨ utc ≥ daysOfDate (lastYear + 1) 1 1 * 86400 then
    throw .impossible
  pure ⟨utc, nanos + (if leap then 1000000000 else 0)⟩

def shape : Json.Shape :=
  .text "an RFC 3339 formatted date and time string" fun s =>
    match parse s with
    | .ok t => .ok (.str t.render)
    | .error r => .error r.message

/-- The instant a span of nanoseconds before this one. Less than a second taken from a leap
second stays within it; otherwise a leap second counts as the start of the second after it. -/
def minusNanos (t : Timestamp) (n : Nat) : Timestamp :=
  if 1000000000 ≤ t.nanos ∧ n < 1000000000 then ⟨t.seconds, t.nanos - n⟩
  else
    let total : Int := t.seconds * 1000000000 + t.nanos - n
    ⟨total.fdiv 1000000000, (total.fmod 1000000000).toNat⟩

end Timestamp

end TestConductor
