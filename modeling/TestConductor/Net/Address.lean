/-! # Socket addresses

Reading socket addresses written as `a.b.c.d:port` or `[ipv6]:port`, with an optional numeric
scope after `%` inside the brackets. An IPv4 part has four decimal parts of at most three digits,
each at most 255 and without a leading zero unless it is `0`. An IPv6 address has up to eight
groups of at most four hexadecimal digits, may leave out a run of zero groups with `::`, and may
end in an IPv4 address in place of its last two groups, though not before a `::`. A port is a
decimal number of any length up to 65535, leading zeros allowed. The whole text must be read.
-/
namespace TestConductor

namespace Net

/-- A socket address. -/
inductive SocketAddr where
  | v4 (octets : List Nat) (port : Nat)
  | v6 (groups : List Nat) (scope : Option Nat) (port : Nat)
  deriving DecidableEq, Repr, Inhabited

def digitValue (base : Nat) (c : Char) : Option Nat :=
  let d := if c.isDigit then some (c.toNat - '0'.toNat)
    else if 'a' ≤ c && c ≤ 'f' then some (c.toNat - 'a'.toNat + 10)
    else if 'A' ≤ c && c ≤ 'F' then some (c.toNat - 'A'.toNat + 10)
    else none
  d.bind fun d => if d < base then some d else none

/-- Reads a number: all the digits in `base` that follow, at most `maxDigits` of them when that
is given, with a value below `bound`, and a leading zero only when `zeroPrefix` allows one or
the number is a single digit. -/
def readNumber (base bound : Nat) (maxDigits : Option Nat) (zeroPrefix : Bool) (cs : List Char) :
    Option (Nat × List Char) :=
  let ds := cs.takeWhile fun c => (digitValue base c).isSome
  let value := ds.foldl (fun acc c => acc * base + (digitValue base c).getD 0) 0
  let tooLong := match maxDigits with
    | some m => decide (ds.length > m)
    | none => false
  if ds.isEmpty || tooLong || value ≥ bound then none
  else if !zeroPrefix && ds.head? == some '0' && ds.length > 1 then none
  else some (value, cs.drop ds.length)

def readV4 (cs : List Char) : Option (List Nat × List Char) := do
  let (a, cs) ← readNumber 10 256 (some 3) false cs
  let cs ← match cs with
    | '.' :: cs => some cs
    | _ => none
  let (b, cs) ← readNumber 10 256 (some 3) false cs
  let cs ← match cs with
    | '.' :: cs => some cs
    | _ => none
  let (c, cs) ← readNumber 10 256 (some 3) false cs
  let cs ← match cs with
    | '.' :: cs => some cs
    | _ => none
  let (d, cs) ← readNumber 10 256 (some 3) false cs
  return ([a, b, c, d], cs)

/-- Reads up to `limit` colon-separated IPv6 groups, the first without a colon before it when
`first`; an IPv4 address may stand for the last two when at least two are left. Gives the
groups, whether they ended in an IPv4 address, and the rest. -/
def readGroups : Nat → Bool → List Char → List Nat × Bool × List Char
  | 0, _, cs => ([], false, cs)
  | limit + 1, first, cs =>
    let after := if first then some cs else match cs with
      | ':' :: rest => some rest
      | _ => none
    match after with
    | none => ([], false, cs)
    | some rest =>
      let v4 := if limit ≥ 1 then readV4 rest else none
      match v4 with
      | some ([a, b, c, d], rest) => ([a * 256 + b, c * 256 + d], true, rest)
      | _ =>
        match readNumber 16 65536 (some 4) true rest with
        | some (g, rest) =>
          let (gs, v4, rest) := readGroups limit false rest
          (g :: gs, v4, rest)
        | none => ([], false, cs)

def readV6 (cs : List Char) : Option (List Nat × List Char) :=
  let (head, headV4, rest) := readGroups 8 true cs
  if head.length == 8 then some (head, rest)
  else if headV4 then none
  else match rest with
    | ':' :: ':' :: rest =>
      let (tail, _, rest) := readGroups (7 - head.length) true rest
      some (head ++ List.replicate (8 - head.length - tail.length) 0 ++ tail, rest)
    | _ => none

def readPort : List Char → Option (Nat × List Char)
  | ':' :: cs => readNumber 10 65536 none true cs
  | _ => none

def readSocketV4 (cs : List Char) : Option (SocketAddr × List Char) := do
  let (ip, cs) ← readV4 cs
  let (port, cs) ← readPort cs
  return (.v4 ip port, cs)

def readSocketV6 : List Char → Option (SocketAddr × List Char)
  | '[' :: cs => do
    let (ip, cs) ← readV6 cs
    let (scope, cs) ← match cs with
      | '%' :: rest => do
        let (n, rest) ← readNumber 10 4294967296 none true rest
        pure (some n, rest)
      | _ => pure (none, cs)
    let cs ← match cs with
      | ']' :: rest => some rest
      | _ => none
    let (port, cs) ← readPort cs
    return (.v6 ip scope port, cs)
  | _ => none

def SocketAddr.parse? (s : String) : Option SocketAddr :=
  let whole (r : Option (SocketAddr × List Char)) : Option SocketAddr := match r with
    | some (a, []) => some a
    | _ => none
  (whole (readSocketV4 s.toList)).orElse fun _ => whole (readSocketV6 s.toList)

def SocketAddr.port : SocketAddr → Nat
  | .v4 _ p => p
  | .v6 _ _ p => p

def SocketAddr.isLocal : SocketAddr → Bool
  | .v4 (a :: rest) _ => a == 127 || (a :: rest).all (· == 0)
  | .v4 [] _ => false
  | .v6 gs _ _ => gs == [0, 0, 0, 0, 0, 0, 0, 1] || gs.all (· == 0)

def portValue? (s : String) : Option Nat :=
  let ds := match s.toList with
    | '+' :: ds => ds
    | ds => ds
  if ds.isEmpty || !ds.all Char.isDigit then none
  else
    let n := ds.foldl (fun acc c => acc * 10 + (c.toNat - '0'.toNat)) 0
    if n < 65536 then some n else none

end Net

end TestConductor
