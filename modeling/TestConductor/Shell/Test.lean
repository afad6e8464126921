import TestConductor.Shell.Arith
/-! # Conditions of `test` and `[`

The expression grammar of `test`: `-o` joins `-a`-joined terms, `!` negates, parentheses group,
and a primary is a unary file or string test on an operand, a binary comparison of two operands,
or a lone operand, true when it is not empty. An operator word is an operand where the grammar
cannot take an operator there, and with one to four arguments the forms that POSIX fixes are
read first. Integer comparisons read their operands as whole decimal numbers.
-/
namespace TestConductor

namespace Shell

/-- What a path names, as `test` sees it. -/
inductive FileKind where
  | directory
  | regular (size : Nat) (executable : Bool)
  | charDevice
  deriving DecidableEq, Inhabited

/-- The kind of operator a word of `test` is. -/
inductive OpKind where
  | unary
  | binary
  | not
  | andOp
  | orOp
  | lparen
  | rparen
  deriving DecidableEq

def testOp? (s : String) : Option OpKind :=
  if ["-r", "-w", "-x", "-e", "-f", "-d", "-c", "-b", "-p", "-u", "-g", "-k", "-s", "-t", "-z",
      "-n", "-h", "-O", "-G", "-L", "-S"].contains s then some .unary
  else if ["=", "!=", "<", ">", "-eq", "-ne", "-ge", "-gt", "-le", "-lt", "-nt", "-ot",
      "-ef"].contains s then some .binary
  else if s == "!" then some .not
  else if s == "-a" then some .andOp
  else if s == "-o" then some .orOp
  else if s == "(" then some .lparen
  else if s == ")" then some .rparen
  else none

/-- A token of a `test` expression. -/
inductive TTok where
  | eoi
  | operand
  | op (k : OpKind)
  deriving DecidableEq

/-- What `test` learns about paths: what each names, whether it is itself a symbolic link,
whether it is a directory with the sticky bit, and the file it leads to once every link on the
way is followed, which tells two names of one file. -/
structure FileView where
  kind : String → Option FileKind
  isLink : String → Bool
  sticky : String → Bool
  target : String → String

/-- The evaluation of `test`: the arguments, and the position of the word being read. -/
structure TestRun where
  args : Array String
  files : FileView

abbrev TestM := StateT Nat (Except String)

def TestRun.at? (t : TestRun) (i : Nat) : Option String := t.args[i]?

def TestRun.lex (t : TestRun) (i : Nat) : TTok :=
  match t.at? i with
  | none => .eoi
  | some s =>
    match testOp? s with
    | some .unary =>
      let isOperand : Bool := match t.at? (i + 1), t.at? (i + 2) with
        | none, _ => true
        | some _, none => false
        | some n, some _ => testOp? n == some .binary
      if isOperand == true then .operand else .op .unary
    | some .lparen => if (t.at? (i + 1)).isNone then .operand else .op .lparen
    | some k => .op k
    | none => .operand

def testSyntax {α : Type} (op : String) (msg : String) : TestM α :=
  throw (if op.isEmpty then msg else op ++ ": " ++ msg)

def testNumber (s : String) : TestM Int :=
  match readWholeInt 10 s with
  | some v => pure v
  | none => throw ("Illegal number: " ++ s)

def TestRun.unary (t : TestRun) (op arg : String) : TestM Bool := do
  let kind := t.files.kind arg
  match op with
  | "-z" => return arg.isEmpty
  | "-n" => return !arg.isEmpty
  | "-t" =>
    let _ ← testNumber arg
    return false
  | "-e" | "-r" | "-w" | "-O" | "-G" => return kind.isSome
  | "-f" => return (kind matches some (.regular _ _))
  | "-d" => return kind == some .directory
  | "-c" => return kind == some .charDevice
  | "-x" => return (match kind with
    | some .directory => true
    | some (.regular _ x) => x
    | _ => false)
  | "-s" => return (match kind with
    | some .directory => true
    | some (.regular n _) => decide (n > 0)
    | _ => false)
  | "-h" | "-L" => return t.files.isLink arg
  | "-k" => return kind == some .directory && t.files.sticky arg
  | _ => return false

def TestRun.binary (t : TestRun) (op a b : String) : TestM Bool := do
  match op with
  | "=" => return a == b
  | "!=" => return a != b
  | "<" => return compare a b == .lt
  | ">" => return compare a b == .gt
  | "-eq" => return (← testNumber a) == (← testNumber b)
  | "-ne" => return (← testNumber a) != (← testNumber b)
  | "-ge" => return (← testNumber a) ≥ (← testNumber b)
  | "-gt" => return (← testNumber a) > (← testNumber b)
  | "-le" => return (← testNumber a) ≤ (← testNumber b)
  | "-lt" => return (← testNumber a) < (← testNumber b)
  | "-ef" => return (t.files.kind a).isSome && (t.files.kind b).isSome &&
      t.files.target a == t.files.target b
  | _ => return false

mutual

def TestRun.orExpr (t : TestRun) : Nat → TTok → TestM Bool
  | 0, _ => throw "expression too deep"
  | fuel + 1, n => do
    let res ← t.andExpr fuel n
    let pos ← get
    if t.lex (pos + 1) == .op .orOp then
      set (pos + 2)
      let r ← t.orExpr fuel (t.lex (pos + 2))
      return r || res
    else return res

def TestRun.andExpr (t : TestRun) : Nat → TTok → TestM Bool
  | 0, _ => throw "expression too deep"
  | fuel + 1, n => do
    let res ← t.notExpr fuel n
    let pos ← get
    if t.lex (pos + 1) == .op .andOp then
      set (pos + 2)
      let r ← t.andExpr fuel (t.lex (pos + 2))
      return r && res
    else return res

def TestRun.notExpr (t : TestRun) : Nat → TTok → TestM Bool
  | 0, _ => throw "expression too deep"
  | fuel + 1, n => do
    if n == .op .not then
      let pos ← get
      set (pos + 1)
      let r ← t.notExpr fuel (t.lex (pos + 1))
      return !r
    else t.primary fuel n

def TestRun.primary (t : TestRun) : Nat → TTok → TestM Bool
  | 0, _ => throw "expression too deep"
  | fuel + 1, n => do
    let pos ← get
    match n with
    | .eoi => return false
    | .op .lparen =>
      set (pos + 1)
      let nn := t.lex (pos + 1)
      if nn == .op .rparen then return false
      let res ← t.orExpr fuel nn
      let p ← get
      set (p + 1)
      unless t.lex (p + 1) == .op .rparen do testSyntax "" "closing paren expected"
      return res
    | .op .unary =>
      let op := (t.at? pos).getD ""
      set (pos + 1)
      match t.at? (pos + 1) with
      | none => testSyntax op "argument expected"
      | some arg => t.unary op arg
    | _ =>
      if t.lex (pos + 1) == .op .binary then
        let a := (t.at? pos).getD ""
        let op := (t.at? (pos + 1)).getD ""
        set (pos + 2)
        match t.at? (pos + 2) with
        | none => testSyntax op "argument expected"
        | some b => t.binary op a b
      else return !((t.at? pos).getD "").isEmpty

end

/-- The status of `test` on its arguments (without the closing `]` of `[`): 0 when the
expression holds, 1 when not; an error message when it is malformed. -/
def testStatus (files : FileView) (args : List String) : Except String Nat :=
  let rec go : Nat → Bool → List String → Except String Nat
    | 0, _, _ => .ok 1
    | fuel + 1, negated, args =>
      let res : Nat := if negated then 0 else 1
      if args.isEmpty then .ok res
      else
        let direct := args.length == 3 && testOp? (args.getD 1 "") == some .binary
        let parens := (args.length == 3 || args.length == 4) && !direct &&
          args.head? == some "(" && args.getLast? == some ")"
        let bang := (args.length == 3 || args.length == 4) && !direct && !parens &&
          args.head? == some "!"
        if bang then go fuel true args.tail
        else
          let args := if parens then (args.drop 1).dropLast else args
          let t : TestRun := ⟨args.toArray, files⟩
          let first := if direct then TTok.operand else t.lex 0
          match (t.orExpr (4 * args.length + 8) first).run 0 with
          | .error e => .error e
          | .ok (v, pos) =>
            if (t.at? pos).isSome && (t.at? (pos + 1)).isSome then
              .error ((t.at? pos).getD "" ++ ": unexpected operator")
            else .ok (if v then 1 - res else res)
  go (args.length + 1) false args

end Shell

end TestConductor
