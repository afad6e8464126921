import TestConductor.Shell.Arith
/-! # Formatted output

The output of the `printf` and `echo` built-ins, over strings of octets.
-/
namespace TestConductor

namespace Shell

def isOctal (c : Char) : Bool := '0' ≤ c && c ≤ '7'

def readOctal : Nat → List Char → Nat → Nat × List Char
  | 0, cs, v => (v, cs)
  | n + 1, c :: cs, v => if isOctal c then readOctal n cs (v * 8 + (c.toNat - '0'.toNat)) else (v, c :: cs)
  | _ + 1, [], v => (v, [])

/-- Replaces one escape after a backslash: its character (a byte) and the rest. A backslash
before a character that starts no escape stands for itself. -/
def escapeAt (cs : List Char) : Char × List Char :=
  match cs with
  | '\\' :: r => ('\\', r)
  | 'a' :: r => ('\x07', r)
  | 'b' :: r => ('\x08', r)
  | 'e' :: r => ('\x1b', r)
  | 'f' :: r => ('\x0c', r)
  | 'n' :: r => ('\n', r)
  | 'r' :: r => ('\r', r)
  | 't' :: r => ('\t', r)
  | 'v' :: r => ('\x0b', r)
  | c :: _ =>
    if isOctal c then
      let (v, r) := readOctal 3 cs 0
      (Char.ofNat (v % 256), r)
    else ('\\', cs)
  | [] => ('\\', [])

def expandEscapes : Nat → List Char → List Char → List Char × Bool
  | 0, _, acc => (acc.reverse, false)
  | _ + 1, [], acc => (acc.reverse, false)
  | fuel + 1, '\\' :: r, acc =>
    match r with
    | 'c' :: _ => (acc.reverse, true)
    | '0' :: d :: r' =>
      if isOctal d then
        let (c, rest) := escapeAt (d :: r')
        expandEscapes fuel rest (c :: acc)
      else
        let (c, rest) := escapeAt r
        expandEscapes fuel rest (c :: acc)
    | _ =>
      let (c, rest) := escapeAt r
      expandEscapes fuel rest (c :: acc)
  | fuel + 1, c :: r, acc => expandEscapes fuel r (c :: acc)

/-- The output of `echo`: the arguments with their escapes replaced, joined by blanks, and a
line end unless the first argument is `-n`; `\c` ends the output at once. -/
def echoText (args : List String) : String :=
  let (noNewline, args) := match args with
    | "-n" :: rest => (true, rest)
    | rest => (false, rest)
  let rec go : List String → List Char → List Char
    | [], acc => if noNewline then acc else acc ++ ['\n']
    | a :: rest, acc =>
      let (cs, stopped) := expandEscapes (a.length + 1) a.toList []
      if stopped then acc ++ cs
      else go rest (acc ++ cs ++ (if rest.isEmpty then [] else [' ']))
  String.ofList (go args [])

/-- Reads an unsigned integer as the C library's `strtoumax` does: a negative number wraps.
Gives the value, the rest, whether any digit was read, and whether it was out of range. -/
def readUIntMax (cs : List Char) : Nat × List Char × Bool × Bool :=
  let body := cs.dropWhile isCSpace
  let (neg, body) := match body with
    | '-' :: r => (true, r)
    | '+' :: r => (false, r)
    | r => (false, r)
  let hexStart : Option (List Char) := match body with
    | '0' :: x :: r => if (x == 'x' || x == 'X') && (r.head?.bind (digitIn 16)).isSome then some r else none
    | _ => none
  let (b, digits) := match hexStart with
    | some r => (16, r)
    | none => (if body.head? == some '0' then 8 else 10, body)
  let (v, n, rest) := readDigits b digits
  if n == 0 then (0, cs, false, false)
  else if v ≥ Nat.pow 2 64 then (Nat.pow 2 64 - 1, rest, true, true)
  else (if neg then (Nat.pow 2 64 - v) % Nat.pow 2 64 else v, rest, true, false)

/-! ## Floating point -/

def Float.decode? (x : Float) : Option (Bool × Nat × Int) :=
  let bits := x.toBits
  let sign := bits >>> 63 == 1
  let expField := ((bits >>> 52) &&& 0x7FF).toNat
  let frac := (bits &&& 0xFFFFFFFFFFFFF).toNat
  if expField == 0x7FF then none
  else if expField == 0 then some (sign, frac, -1074)
  else some (sign, frac + Nat.pow 2 52, (expField : Int) - 1075)

def roundHalfEven (num den : Nat) : Nat :=
  let q := num / den
  let r := num % den
  if 2 * r > den then q + 1
  else if 2 * r == den then (if q % 2 == 1 then q + 1 else q)
  else q

def scaledRound (m : Nat) (e : Int) (k : Int) : Nat :=
  let num := m * (if e ≥ 0 then Nat.pow 2 e.toNat else 1) * (if k ≥ 0 then Nat.pow 10 k.toNat else 1)
  let den := (if e < 0 then Nat.pow 2 (-e).toNat else 1) * (if k < 0 then Nat.pow 10 (-k).toNat else 1)
  roundHalfEven num den

def decimalExponent (m : Nat) (e : Int) : Int :=
  let num := m * (if e ≥ 0 then Nat.pow 2 e.toNat else 1)
  let den := if e < 0 then Nat.pow 2 (-e).toNat else 1
  if num ≥ den then ((toString (num / den)).length : Int) - 1
  else
    let rec up : Nat → Nat → Int
      | 0, k => -(k : Int)
      | fuel + 1, k => if num * Nat.pow 10 k ≥ den then -(k : Int) else up fuel (k + 1)
    up 400 1

def padZeros (s : String) (n : Nat) : String :=
  String.ofList (List.replicate (n - s.length) '0') ++ s

def fixedDigits (m : Nat) (e : Int) (p : Nat) (alt : Bool) : String :=
  let n := toString (scaledRound m e p)
  let n := padZeros n (p + 1)
  let whole := String.ofList (n.toList.take (n.length - p))
  let frac := String.ofList (n.toList.drop (n.length - p))
  if p == 0 then (if alt then whole ++ "." else whole) else whole ++ "." ++ frac

def exponentText (x : Int) : String :=
  (if x < 0 then "-" else "+") ++ padZeros (toString x.natAbs) 2

def significant (m : Nat) (e : Int) (p : Nat) : Nat × Int :=
  if m == 0 then (0, 0)
  else
    let x := decimalExponent m e
    let n := scaledRound m e ((p : Int) - x)
    if n ≥ Nat.pow 10 (p + 1) then (scaledRound m e ((p : Int) - x - 1), x + 1) else (n, x)

def expDigits (m : Nat) (e : Int) (p : Nat) (alt : Bool) (mark : Char) : String :=
  let (n, x) := significant m e p
  let ds := padZeros (toString n) (p + 1)
  let head := String.ofList (ds.toList.take 1)
  let tail := String.ofList (ds.toList.drop 1)
  let mant := if p == 0 then (if alt then head ++ "." else head) else head ++ "." ++ tail
  mant ++ String.singleton mark ++ exponentText x

def trimDecimals (s : String) : String :=
  if s.contains '.' then
    let cs := (s.toList.reverse.dropWhile (· == '0'))
    let cs := match cs with
      | '.' :: r => r
      | r => r
    String.ofList cs.reverse
  else s

def generalDigits (m : Nat) (e : Int) (p : Nat) (alt : Bool) (mark : Char) : String :=
  let p := if p == 0 then 1 else p
  let (_, x) := significant m e (p - 1)
  if x < p && x ≥ -4 then
    let s := fixedDigits m e (p - 1 - x).toNat alt
    if alt then s else trimDecimals s
  else
    let s := expDigits m e (p - 1) alt mark
    if alt then s
    else
      let cs := s.toList
      let mantissa := cs.takeWhile (· != mark)
      String.ofList (trimDecimals (String.ofList mantissa)).toList ++
        String.ofList (cs.drop mantissa.length)

/-- The hexadecimal form of `m * 2 ^ e`, with `p` hexadecimal digits after the point when given,
else as many as it takes. -/
def hexDigits (m : Nat) (e : Int) (p : Option Nat) (alt upper : Bool) : String :=
  let hexChar (d : Nat) : Char :=
    if d < 10 then Char.ofNat (48 + d) else Char.ofNat ((if upper then 55 else 87) + d)
  let hexText (n width : Nat) : String :=
    let rec go : Nat → Nat → List Char → List Char
      | 0, _, acc => acc
      | k + 1, v, acc => go k (v / 16) (hexChar (v % 16) :: acc)
    String.ofList (go width n [])
  if m == 0 then
    let frac := match p with
      | some k => String.ofList (List.replicate k '0')
      | none => ""
    (if upper then "0X0" else "0x0") ++ (if frac.isEmpty && !alt then "" else "." ++ frac) ++
      (if upper then "P+0" else "p+0")
  else
    -- normalize to 1.f with 52 fraction bits
    let bits := (toString m).length
    let rec norm : Nat → Nat → Int → Nat × Int
      | 0, m, e => (m, e)
      | fuel + 1, m, e =>
        if m < Nat.pow 2 52 then norm fuel (m * 2) (e - 1)
        else if m ≥ Nat.pow 2 53 then norm fuel (m / 2) (e + 1)
        else (m, e)
    let (m, e) := norm (bits * 4 + 60) m e
    let exp := e + 52
    let fracBits := m - Nat.pow 2 52
    let (lead, fracText) := match p with
      | none =>
        let t := hexText fracBits 13
        (1, String.ofList (t.toList.reverse.dropWhile (· == '0')).reverse)
      | some k =>
        if k ≥ 13 then (1, hexText fracBits 13 ++ String.ofList (List.replicate (k - 13) '0'))
        else
          let drop := 4 * (13 - k)
          let r := roundHalfEven m (Nat.pow 2 drop)
          let lead := r / Nat.pow 2 (4 * k)
          (lead, hexText (r % Nat.pow 2 (4 * k)) k)
    (if upper then "0X" else "0x") ++ toString lead ++
      (if fracText.isEmpty && !alt then "" else "." ++ fracText) ++
      (if upper then "P" else "p") ++ (if exp < 0 then "-" else "+") ++ toString exp.natAbs

/-- Reads a floating-point number as the C library's `strtod` does. Gives the value, the rest,
whether anything was read, and whether it was out of range. -/
def readDouble (cs : List Char) : Float × List Char × Bool × Bool :=
  let body := cs.dropWhile isCSpace
  let (neg, body) := match body with
    | '-' :: r => (true, r)
    | '+' :: r => (false, r)
    | r => (false, r)
  let sign (x : Float) : Float := if neg then -x else x
  let lower := body.map Char.toLower
  if lower.take 8 == "infinity".toList then (sign (1.0 / 0.0), body.drop 8, true, false)
  else if lower.take 3 == "inf".toList then (sign (1.0 / 0.0), body.drop 3, true, false)
  else if lower.take 3 == "nan".toList then
    let rest := body.drop 3
    let rest := match rest with
      | '(' :: r =>
        let inside := r.takeWhile fun c => c.isAlphanum || c == '_'
        match r.drop inside.length with
        | ')' :: r' => r'
        | _ => rest
      | _ => rest
    (sign (0.0 / 0.0), rest, true, false)
  else
    let hex := match body with
      | '0' :: x :: r =>
        if (x == 'x' || x == 'X') && ((r.head?.bind (digitIn 16)).isSome ||
            (r.head? == some '.' && ((r.drop 1).head?.bind (digitIn 16)).isSome)) then some r
        else none
      | _ => none
    let base := if hex.isSome then 16 else 10
    let digits := hex.getD body
    let intDs := digits.takeWhile fun c => (digitIn base c).isSome
    let afterInt := digits.drop intDs.length
    let (fracDs, afterFrac) := match afterInt with
      | '.' :: r =>
        let f := r.takeWhile fun c => (digitIn base c).isSome
        (f, r.drop f.length)
      | r => ([], r)
    let sawPoint := match afterInt with
      | '.' :: _ => true
      | _ => false
    if intDs.isEmpty && fracDs.isEmpty then (0.0, cs, false, false)
    else
      let mant := (intDs ++ fracDs).foldl (fun acc c => acc * base + (digitIn base c).getD 0) 0
      let expMark := if base == 16 then ['p', 'P'] else ['e', 'E']
      let (expVal, rest) := match afterFrac with
        | c :: r =>
          if expMark.contains c then
            let (eneg, r2) := match r with
              | '-' :: r' => (true, r')
              | '+' :: r' => (false, r')
              | r' => (false, r')
            let eds := r2.takeWhile Char.isDigit
            if eds.isEmpty then ((0 : Int), afterFrac)
            else
              let v : Int := eds.foldl (fun (acc : Int) (c : Char) => acc * 10 + ((c.toNat - 48 : Nat) : Int)) 0
              (if eneg then -v else v, r2.drop eds.length)
          else (0, afterFrac)
        | [] => (0, [])
      let _ := sawPoint
      if base == 16 then
        let e : Int := expVal - 4 * fracDs.length
        let x := if e ≥ 0 then Float.ofNat (mant * Nat.pow 2 (min e.toNat 2000)) else (Float.ofNat mant).scaleB e
        (sign x, rest, true, x.isInf)
      else
        let e : Int := expVal - fracDs.length
        let size : Int := e + (toString mant).length
        let x := if mant == 0 then 0.0
          else if size > 400 then 1.0 / 0.0
          else if size < -400 then 0.0
          else if e ≥ 0 then Float.ofScientific mant false e.toNat
          else Float.ofScientific mant true (-e).toNat
        (sign x, rest, true, x.isInf || (mant != 0 && x == 0.0))

/-! ## Conversions -/

/-- The flags, width and precision of a conversion. -/
structure Spec where
  left : Bool := false
  plus : Bool := false
  space : Bool := false
  alt : Bool := false
  zero : Bool := false
  width : Nat := 0
  precision : Option Nat := none
  deriving Inhabited

/-- Pads a conversion's text to its width: on the right when left-justified, else on the left,
with zeros after any sign or prefix when `zeroAfter` gives its length. -/
def Spec.pad (sp : Spec) (s : String) (zeroAfter : Option Nat) : String :=
  if s.length ≥ sp.width then s
  else
    let fill := sp.width - s.length
    if sp.left then s ++ String.ofList (List.replicate fill ' ')
    else match zeroAfter with
      | some k => String.ofList (s.toList.take k) ++ String.ofList (List.replicate fill '0') ++
          String.ofList (s.toList.drop k)
      | none => String.ofList (List.replicate fill ' ') ++ s

def natDigits (base : Nat) (upper : Bool) (n : Nat) : String :=
  let digit (d : Nat) : Char :=
    if d < 10 then Char.ofNat (48 + d) else Char.ofNat ((if upper then 55 else 87) + d)
  String.ofList ((Nat.toDigits base n).map fun c =>
    match digitIn 16 c with
    | some d => digit d
    | none => c)

def formatSigned (sp : Spec) (v : Int) : String :=
  let sign := if v < 0 then "-" else if sp.plus then "+" else if sp.space then " " else ""
  let ds := natDigits 10 false v.natAbs
  let ds := match sp.precision with
    | some 0 => if v == 0 then "" else ds
    | some p => padZeros ds p
    | none => ds
  let zero := sp.zero && !sp.left && sp.precision.isNone
  sp.pad (sign ++ ds) (if zero then some sign.length else none)

def formatUnsigned (sp : Spec) (conv : Char) (v : Nat) : String :=
  let (base, upper) := match conv with
    | 'o' => (8, false)
    | 'x' => (16, false)
    | 'X' => (16, true)
    | _ => (10, false)
  let ds := natDigits base upper v
  let ds := match sp.precision with
    | some 0 => if v == 0 then "" else ds
    | some p => padZeros ds p
    | none => ds
  let ds := if sp.alt && conv == 'o' && !ds.startsWith "0" then "0" ++ ds else ds
  let pre := if sp.alt && v != 0 && conv == 'x' then "0x"
    else if sp.alt && v != 0 && conv == 'X' then "0X" else ""
  let zero := sp.zero && !sp.left && sp.precision.isNone
  sp.pad (pre ++ ds) (if zero then some pre.length else none)

def formatFloat (sp : Spec) (conv : Char) (x : Float) : String :=
  let upper := conv.isUpper
  let up (s : String) : String := if upper then String.ofList (s.toList.map Char.toUpper) else s
  match Float.decode? x with
  | none =>
    let neg := x.toBits >>> 63 == 1
    let body := if x.isNaN then "nan" else "inf"
    let sign := if neg then "-" else if sp.plus then "+" else if sp.space then " " else ""
    sp.pad (sign ++ up body) none
  | some (neg, m, e) =>
    let sign := if neg then "-" else if sp.plus then "+" else if sp.space then " " else ""
    let p := sp.precision.getD 6
    let body := match conv.toLower with
      | 'f' => fixedDigits m e p sp.alt
      | 'e' => up (expDigits m e p sp.alt 'e')
      | 'g' => up (generalDigits m e p sp.alt 'e')
      | _ => hexDigits m e sp.precision sp.alt upper
    let zero := sp.zero && !sp.left
    let prefixLen := sign.length + (if conv.toLower == 'a' then 2 else 0)
    sp.pad (sign ++ body) (if zero then some prefixLen else none)

def formatString (sp : Spec) (s : String) : String :=
  let s := match sp.precision with
    | some p => String.ofList (s.toList.take p)
    | none => s
  sp.pad s none

/-! ## The format loop -/

/-- What `printf` did: its output, the warnings it gave, the error that stopped it, and its
status. -/
structure Printed where
  out : String := ""
  warnings : List String := []
  fault : Option String := none
  status : Nat := 0
  /-- Whether `\c` in a `%b` argument ended the output. -/
  stopped : Bool := false
  deriving Inhabited

/-- The state of the format loop: what is printed so far and the arguments left. -/
structure PrintState where
  printed : Printed := {}
  args : List String

def PrintState.next (st : PrintState) : Option String × PrintState :=
  match st.args with
  | a :: rest => (some a, { st with args := rest })
  | [] => (none, st)

def PrintState.check (st : PrintState) (arg : String) (any outOfRange : Bool) (rest : List Char) :
    PrintState :=
  let warn (msg : String) : PrintState :=
    let p : Printed := { st.printed with warnings := st.printed.warnings ++ [arg ++ ": " ++ msg], status := 1 }
    { st with printed := p }
  if !rest.isEmpty then
    if !any then warn "expected numeric value" else warn "not completely converted"
  else if outOfRange then warn "Numerical result out of range"
  else st

def quotedValue? (arg : String) : Option Nat :=
  match arg.toList with
  | c :: rest => if c == '"' || c == '\'' then some ((rest.head?.map Char.toNat).getD 0) else none
  | [] => none

def PrintState.intArg (st : PrintState) : Int × PrintState :=
  match st.next with
  | (none, st) => (0, st)
  | (some a, st) =>
    match quotedValue? a with
    | some v => (v, st)
    | none =>
      let (v, rest, any, outOfRange) := readIntMax 0 a.toList
      (v, st.check a any outOfRange rest)

def PrintState.uintArg (st : PrintState) : Nat × PrintState :=
  match st.next with
  | (none, st) => (0, st)
  | (some a, st) =>
    match quotedValue? a with
    | some v => (v, st)
    | none =>
      let (v, rest, any, outOfRange) := readUIntMax a.toList
      (v, st.check a any outOfRange rest)

def PrintState.floatArg (st : PrintState) : Float × PrintState :=
  match st.next with
  | (none, st) => (0.0, st)
  | (some a, st) =>
    match quotedValue? a with
    | some v => (Float.ofNat v, st)
    | none =>
      let (v, rest, any, outOfRange) := readDouble a.toList
      (v, st.check a any outOfRange rest)

def PrintState.emit (st : PrintState) (s : String) : PrintState :=
  { st with printed := { st.printed with out := st.printed.out ++ s } }

def readFlags : Nat → List Char → Spec → Spec × List Char
  | 0, cs, sp => (sp, cs)
  | n + 1, c :: cs, sp =>
    match c with
    | '-' => readFlags n cs { sp with left := true }
    | '+' => readFlags n cs { sp with plus := true }
    | ' ' => readFlags n cs { sp with space := true }
    | '#' => readFlags n cs { sp with alt := true }
    | '0' => readFlags n cs { sp with zero := true }
    | _ => (sp, c :: cs)
  | _ + 1, [], sp => (sp, [])

def fieldLimit : Nat := 2147483647

/-- A whole number as a 32-bit signed integer: its value modulo 2 ^ 32, taken in the range from
-2 ^ 31 to 2 ^ 31 - 1. -/
def wrapInt32 (v : Int) : Int :=
  let m := v % 4294967296
  if m ≥ 2147483648 then m - 4294967296 else m

def decimalValue (ds : List Char) : Nat :=
  ds.foldl (fun (a : Nat) (c : Char) => a * 10 + (c.toNat - 48)) 0

/-- Runs one conversion after its `%`: gives the state after it and the format left, or the
error that stops `printf`. A width or precision taken from an argument is cut to a 32-bit
integer; a negative width justifies to the left and a negative precision counts as none. A width
or precision beyond the largest one, written or taken, makes the conversion fail. -/
def convert (st : PrintState) (cs : List Char) : Except String (PrintState × List Char) :=
  let (sp, r) := readFlags (cs.length + 1) cs {}
  let (sp, r, st, wide) := match r with
    | '*' :: r' =>
      let (w, st) := st.intArg
      let w := wrapInt32 w
      let sp := if w < 0 then { sp with left := true, width := w.natAbs } else { sp with width := w.toNat }
      (sp, r', st, decide (sp.width > fieldLimit))
    | _ =>
      let ds := r.takeWhile Char.isDigit
      let w := decimalValue ds
      ({ sp with width := if w > fieldLimit then 0 else w }, r.drop ds.length, st, decide (w > fieldLimit))
  let (sp, r, st, wide) := match r with
    | '.' :: '*' :: r' =>
      let (p, st) := st.intArg
      let p := wrapInt32 p
      ({ sp with precision := if p < 0 then none else some p.toNat }, r', st, wide)
    | '.' :: r' =>
      let ds := r'.takeWhile Char.isDigit
      let p := decimalValue ds
      ({ sp with precision := some (if p > fieldLimit then 0 else p) }, r'.drop ds.length, st,
        wide || decide (p > fieldLimit))
    | _ => (sp, r, st, wide)
  let done (st : PrintState) (text : Unit → String) : Except String PrintState :=
    if wide then .error "xvsnprintf failed" else .ok (st.emit (text ()))
  match r with
  | [] => .error "missing format character"
  | c :: rest =>
    let specText := String.ofList ('%' :: cs.take (cs.length - rest.length))
    match c with
    | 'd' | 'i' =>
      let (v, st) := st.intArg
      (done st fun _ => formatSigned sp v).map (·, rest)
    | 'o' | 'u' | 'x' | 'X' =>
      let (v, st) := st.uintArg
      (done st fun _ => formatUnsigned sp c v).map (·, rest)
    | 'e' | 'E' | 'f' | 'F' | 'g' | 'G' | 'a' | 'A' =>
      let (v, st) := st.floatArg
      (done st fun _ => formatFloat sp c v).map (·, rest)
    | 's' =>
      let (a, st) := st.next
      (done st fun _ => formatString sp (a.getD "")).map (·, rest)
    | 'c' =>
      let (a, st) := st.next
      let ch := match a with
        | some s => (s.toList.head?).getD '\x00'
        | none => '\x00'
      (done st fun _ => formatString { sp with precision := none } (String.singleton ch)).map (·, rest)
    | 'b' =>
      let (a, st) := st.next
      let text := a.getD ""
      let (cs', stopped) := expandEscapes (text.length + 1) text.toList []
      match done st fun _ => formatString sp (String.ofList cs') with
      | .ok st =>
        if stopped then .ok ({ st with printed := { st.printed with stopped := true } }, [])
        else .ok (st, rest)
      | .error e => .error e
    | _ => .error (specText ++ ": invalid directive")

def formatPass : Nat → List Char → PrintState → Except (String × PrintState) PrintState
  | 0, _, st => .ok st
  | _ + 1, [], st => .ok st
  | fuel + 1, '\\' :: r, st =>
    let (c, rest) := escapeAt r
    formatPass fuel rest (st.emit (String.singleton c))
  | fuel + 1, '%' :: '%' :: r, st => formatPass fuel r (st.emit "%")
  | fuel + 1, '%' :: r, st =>
    match convert st r with
    | .ok (st, rest) =>
      if st.printed.stopped then .ok st else formatPass fuel rest st
    | .error e => .error (e, st)
  | fuel + 1, c :: r, st => formatPass fuel r (st.emit (String.singleton c))

def printfText (format : String) (args : List String) : Printed :=
  let fmt := format.toList
  let rec passes : Nat → PrintState → Printed
    | 0, st => st.printed
    | n + 1, st =>
      match formatPass (fmt.length + 1) fmt st with
      | .error (e, st') => { st'.printed with fault := some e }
      | .ok st' =>
        if st'.printed.stopped then st'.printed
        else if !st'.args.isEmpty && st'.args.length < st.args.length then passes n st'
        else st'.printed
  passes (args.length + 1) { args := args }

end Shell

end TestConductor
