/-! # Shell arithmetic

Integers as the shell reads them, and the arithmetic of `$(( ))`.
-/
namespace TestConductor

namespace Shell

def wrap64 (x : Int) : Int := x.bmod (Nat.pow 2 64)

def maxInt64 : Int := Int.pow 2 63 - 1

def minInt64 : Int := -Int.pow 2 63

def isCSpace (c : Char) : Bool :=
  c == ' ' || c == '\t' || c == '\n' || c == '\x0b' || c == '\x0c' || c == '\r'

def digitIn (base : Nat) (c : Char) : Option Nat :=
  let d := if c.isDigit then some (c.toNat - '0'.toNat)
    else if 'a' ≤ c && c ≤ 'z' then some (c.toNat - 'a'.toNat + 10)
    else if 'A' ≤ c && c ≤ 'Z' then some (c.toNat - 'A'.toNat + 10)
    else none
  d.bind fun d => if d < base then some d else none

def readDigits (base : Nat) (cs : List Char) : Nat × Nat × List Char :=
  let ds := cs.takeWhile fun c => (digitIn base c).isSome
  (ds.foldl (fun acc c => acc * base + (digitIn base c).getD 0) 0, ds.length, cs.drop ds.length)

/-- Reads an integer at the front of a text as the C library's `strtoimax` does: blanks, a sign,
then digits in `base`, where base 0 takes `0x` for hexadecimal and a leading `0` for octal.
Gives the value, clamped to 64 bits, the rest, whether any digit was read, and whether the value
was out of range. -/
def readIntMax (base : Nat) (cs : List Char) : Int × List Char × Bool × Bool :=
  let body := cs.dropWhile isCSpace
  let (neg, body) := match body with
    | '-' :: r => (true, r)
    | '+' :: r => (false, r)
    | r => (false, r)
  let hexStart : Option (List Char) := match body with
    | '0' :: x :: r =>
      if (base == 0 || base == 16) && (x == 'x' || x == 'X') && (r.head?.bind (digitIn 16)).isSome
      then some r else none
    | _ => none
  let (b, digits) := match hexStart with
    | some r => (16, r)
    | none =>
      if base == 0 then (if body.head? == some '0' then 8 else 10, body)
      else (base, body)
  let (v, n, rest) := readDigits b digits
  if n == 0 then (0, cs, false, false)
  else
    let value : Int := if neg then -(v : Int) else v
    if value > maxInt64 then (maxInt64, rest, true, true)
    else if value < minInt64 then (minInt64, rest, true, true)
    else (value, rest, true, false)

/-- Reads the whole of a text as an integer in `base`, allowing blanks around it; an empty text
is 0 only in base 0. None means an illegal number. -/
def readWholeInt (base : Nat) (s : String) : Option Int :=
  let (v, rest, any, outOfRange) := readIntMax base s.toList
  if outOfRange || (!any && base != 0) then none
  else if (rest.dropWhile isCSpace).isEmpty then some v
  else none

/-- A binary operator of shell arithmetic. -/
inductive BinOp where
  | mul | div | rem | add | sub | shl | shr | lt | le | gt | ge | eq | ne | band | bxor | bor
  deriving DecidableEq, Inhabited

def BinOp.prec : BinOp → Nat
  | .mul | .div | .rem => 0
  | .add | .sub => 1
  | .shl | .shr => 2
  | .lt | .le | .gt | .ge => 3
  | .eq | .ne => 4
  | .band => 5
  | .bxor => 6
  | .bor => 7

/-- A token of an arithmetic expression. -/
inductive ATok where
  | eof
  | bad
  | num (v : Int)
  | var (name : String)
  | assign
  | binop (op : BinOp)
  /-- `op=`. -/
  | assignOp (op : BinOp)
  | orOr
  | andAnd
  | not
  | bnot
  | lparen
  | rparen
  | qmark
  | colon
  deriving Inhabited

def opAfter (c : Char) : Option BinOp :=
  match c with
  | '*' => some .mul
  | '/' => some .div
  | '%' => some .rem
  | '^' => some .bxor
  | _ => none

def lexArith (cs : List Char) : ATok × List Char :=
  let cs := cs.dropWhile fun c => c == ' ' || c == '\t' || c == '\n'
  let withEq (op : BinOp) (r : List Char) : ATok × List Char :=
    match r with
    | '=' :: r => (.assignOp op, r)
    | r => (.binop op, r)
  match cs with
  | [] => (.eof, [])
  | c :: r =>
    if c.isDigit then
      let (v, rest, _, _) := readIntMax 0 cs
      (.num v, rest)
    else if c.isAlpha || c == '_' then
      let name := r.takeWhile fun c => c.isAlphanum || c == '_'
      (.var (String.ofList (c :: name)), r.drop name.length)
    else match c, r with
      | '=', '=' :: r => (.binop .eq, r)
      | '=', r => (.assign, r)
      | '>', '=' :: r => (.binop .ge, r)
      | '>', '>' :: r => withEq .shr r
      | '>', r => (.binop .gt, r)
      | '<', '=' :: r => (.binop .le, r)
      | '<', '<' :: r => withEq .shl r
      | '<', r => (.binop .lt, r)
      | '|', '|' :: r => (.orOr, r)
      | '|', r => withEq .bor r
      | '&', '&' :: r => (.andAnd, r)
      | '&', r => withEq .band r
      | '!', '=' :: r => (.binop .ne, r)
      | '!', r => (.not, r)
      | '(', r => (.lparen, r)
      | ')', r => (.rparen, r)
      | '+', r => withEq .add r
      | '-', r => withEq .sub r
      | '~', r => (.bnot, r)
      | '?', r => (.qmark, r)
      | ':', r => (.colon, r)
      | c, r =>
        match opAfter c with
        | some op => withEq op r
        | none => (.bad, cs)

/-- Why an arithmetic expansion failed. -/
inductive ArithFault where
  /-- A malformed expression or a division by zero: the message names the cause. -/
  | expression (cause : String)
  /-- A variable whose value is not a number. -/
  | illegalNumber (text : String)
  /-- An assignment to a read-only variable. -/
  | readOnly (name : String)
  /-- The one overflowing division, which kills the shell. -/
  | trap
  deriving Inhabited

/-- What arithmetic sees of the shell's variables. -/
structure ArithVars where
  get : String → Option String
  isReadOnly : String → Bool

/-- The state of an evaluation: the input left, the token after what was read, and the
assignments made, latest first. -/
structure ArithState where
  rest : List Char
  last : ATok := .eof
  writes : List (String × String) := []

abbrev ArithM := StateT ArithState (Except ArithFault)

def nextTok : ArithM ATok := modifyGet fun s =>
  let (t, rest) := lexArith s.rest
  (t, { s with rest := rest })

def setLast (t : ATok) : ArithM Unit := modify fun s => { s with last := t }

def readVar (vars : ArithVars) (name : String) : ArithM Int := do
  let text := ((← get).writes.lookup name).getD ((vars.get name).getD "")
  match readWholeInt 0 text with
  | some v => return v
  | none => throw (.illegalNumber text)

def bitwise (f : UInt64 → UInt64 → UInt64) (a b : Int) : Int :=
  wrap64 (f (UInt64.ofNat (a % Int.pow 2 64).toNat) (UInt64.ofNat (b % Int.pow 2 64).toNat)).toNat

def applyBinOp (op : BinOp) (a b : Int) : Except ArithFault Int :=
  let flag (p : Bool) : Int := if p then 1 else 0
  match op with
  | .div | .rem =>
    if b == 0 then .error (.expression "division by zero")
    else if a == minInt64 && b == -1 then .error .trap
    else .ok (if op == .div then a.tdiv b else a.tmod b)
  | .mul => .ok (wrap64 (a * b))
  | .add => .ok (wrap64 (a + b))
  | .sub => .ok (wrap64 (a - b))
  | .shl => .ok (wrap64 (a * Int.pow 2 (b % 64).toNat))
  | .shr => .ok (a / Int.pow 2 (b % 64).toNat)
  | .lt => .ok (flag (a < b))
  | .le => .ok (flag (a ≤ b))
  | .gt => .ok (flag (a > b))
  | .ge => .ok (flag (a ≥ b))
  | .eq => .ok (flag (a == b))
  | .ne => .ok (flag (a != b))
  | .band => .ok (bitwise (· &&& ·) a b)
  | .bxor => .ok (bitwise (· ^^^ ·) a b)
  | .bor => .ok (bitwise (· ||| ·) a b)

def ATok.binop? : ATok → Option BinOp
  | .binop op => some op
  | _ => none

mutual

/-- A primary: a number, a variable, a parenthesized expression or a unary operator on a
primary. `tok` is its first token and `op` the one after it. -/
def primary (vars : ArithVars) : Nat → ATok → ATok → Bool → ArithM Int
  | 0, _, _, _ => throw (.expression "expecting primary")
  | fuel + 1, tok, op, noeval => do
    match tok with
    | .lparen =>
      let v ← assignment vars fuel op noeval
      unless (← get).last matches .rparen do throw (.expression "expecting ')'")
      setLast (← nextTok)
      return v
    | .num v =>
      setLast op
      return v
    | .var name =>
      setLast op
      if noeval then return 0 else readVar vars name
    | .binop .add =>
      let next ← nextTok
      primary vars fuel op next noeval
    | .binop .sub =>
      let next ← nextTok
      let v ← primary vars fuel op next noeval
      return wrap64 (-v)
    | .not =>
      let next ← nextTok
      let v ← primary vars fuel op next noeval
      return if v == 0 then 1 else 0
    | .bnot =>
      let next ← nextTok
      let v ← primary vars fuel op next noeval
      return -v - 1
    | _ => throw (.expression "expecting primary")

/-- The operators after a left operand `a` and its operator `op`, while they bind tighter than
`prec`. -/
def binopRest (vars : ArithVars) : Nat → Int → BinOp → Nat → Bool → ArithM Int
  | 0, _, _, _, _ => throw (.expression "expecting primary")
  | fuel + 1, a, op, prec, noeval => do
    let tok ← nextTok
    let next ← nextTok
    let b ← primary vars fuel tok next noeval
    let (b, op2) ← do
      match (← get).last.binop? with
      | some op2 =>
        if op2.prec < op.prec then
          let b ← binopRest vars fuel b op2 op.prec noeval
          pure (b, (← get).last.binop?)
        else pure (b, some op2)
      | none => pure (b, none)
    let a ← if noeval then pure b else StateT.lift (applyBinOp op a b)
    match op2 with
    | some op2 => if op2.prec ≥ prec then return a else binopRest vars fuel a op2 prec noeval
    | none => return a

def binary (vars : ArithVars) : Nat → ATok → ATok → Bool → ArithM Int
  | 0, _, _, _ => throw (.expression "expecting primary")
  | fuel + 1, tok, op, noeval => do
    let a ← primary vars fuel tok op noeval
    match (← get).last.binop? with
    | some op => binopRest vars fuel a op 8 noeval
    | none => return a

def andExpr (vars : ArithVars) : Nat → ATok → ATok → Bool → ArithM Int
  | 0, _, _, _ => throw (.expression "expecting primary")
  | fuel + 1, tok, op, noeval => do
    let a ← binary vars fuel tok op noeval
    unless (← get).last matches .andAnd do return a
    let tok ← nextTok
    let next ← nextTok
    let b ← andExpr vars fuel tok next (noeval || a == 0)
    return if a != 0 && b != 0 then 1 else 0

def orExpr (vars : ArithVars) : Nat → ATok → ATok → Bool → ArithM Int
  | 0, _, _, _ => throw (.expression "expecting primary")
  | fuel + 1, tok, op, noeval => do
    let a ← andExpr vars fuel tok op noeval
    unless (← get).last matches .orOr do return a
    let tok ← nextTok
    let next ← nextTok
    let b ← orExpr vars fuel tok next (noeval || a != 0)
    return if a != 0 || b != 0 then 1 else 0

def condExpr (vars : ArithVars) : Nat → ATok → ATok → Bool → ArithM Int
  | 0, _, _, _ => throw (.expression "expecting primary")
  | fuel + 1, tok, op, noeval => do
    let a ← orExpr vars fuel tok op noeval
    unless (← get).last matches .qmark do return a
    let first ← nextTok
    let b ← assignment vars fuel first (noeval || a == 0)
    unless (← get).last matches .colon do throw (.expression "expecting ':'")
    let tok ← nextTok
    let next ← nextTok
    let c ← condExpr vars fuel tok next (noeval || a != 0)
    return if a != 0 then b else c

def assignment (vars : ArithVars) : Nat → ATok → Bool → ArithM Int
  | 0, _, _ => throw (.expression "expecting primary")
  | fuel + 1, tok, noeval => do
    let op ← nextTok
    match tok, op with
    | .var name, .assign => assignTo vars fuel name none noeval
    | .var name, .assignOp b => assignTo vars fuel name (some b) noeval
    | _, _ => condExpr vars fuel tok op noeval

/-- Stores the value of the expression that follows into a variable, combined with its old value
by `op` when given. -/
def assignTo (vars : ArithVars) : Nat → String → Option BinOp → Bool → ArithM Int
  | 0, _, _, _ => throw (.expression "expecting primary")
  | fuel + 1, name, op, noeval => do
    let first ← nextTok
    let v ← assignment vars fuel first noeval
    if noeval then return v
    let v ← match op with
      | some b => do
        let old ← readVar vars name
        StateT.lift (applyBinOp b old v)
      | none => pure v
    if vars.isReadOnly name then throw (.readOnly name)
    modify fun s => { s with writes := (name, toString v) :: s.writes }
    return v

end

def evalArith (vars : ArithVars) (expr : String) : Except ArithFault (Int × List (String × String)) :=
  let cs := expr.toList
  let run : ArithM Int := do
    let first ← nextTok
    let v ← assignment vars (4 * cs.length + 8) first false
    unless (← get).last matches .eof do throw (.expression "expecting EOF")
    return v
  match run.run { rest := cs } with
  | .ok (v, s) => .ok (v, s.writes.reverse)
  | .error e => .error e

def ArithFault.message (expr : String) : ArithFault → String
  | .expression cause => "arithmetic expression: " ++ cause ++ ": \"" ++ expr ++ "\""
  | .illegalNumber text => "Illegal number: " ++ text
  | .readOnly name => name ++ ": is read only"
  | .trap => ""

end Shell

end TestConductor
