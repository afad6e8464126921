import TestConductor.Shell.Syntax
/-! # Text utilities of the machine

The small programs a script runs besides the shell: `head`, `tail`, `wc`, `seq`, `tr`,
`basename`, `dirname`, `expr`, and those that describe the machine (`whoami`, `id`, `uname`).
Each is a function from its arguments and what it reads to what it writes and its status, so
the shell only routes their input and output. Texts are strings of octets.
-/
namespace TestConductor

namespace Shell

/-- What a utility reads from a file or from its standard input. -/
inductive Input where
  /-- Text that ends. -/
  | text (s : String)
  /-- Zero bytes without end, as a zero device gives. -/
  | zeros
  | directory
  | missing
  deriving Inhabited

/-- What a utility did: what it wrote to standard output and to standard error, and its
status; or that it writes for ever. -/
structure Ran where
  out : String := ""
  err : String := ""
  status : Nat := 0
  endless : Bool := false
  deriving Inhabited

def usageFault (prog msg : String) (status : Nat) : Ran :=
  { err := prog ++ ": " ++ msg ++ "\nTry '" ++ prog ++ " --help' for more information.\n",
    status := status }

def linesOf (s : String) : List String :=
  let rec go : List Char → List Char → List String
    | [], [] => []
    | [], cur => [String.ofList cur.reverse]
    | '\n' :: rest, cur => String.ofList ('\n' :: cur).reverse :: go rest []
    | c :: rest, cur => go rest (c :: cur)
  go s.toList []

def readCount (s : String) : Option (Option Char × Nat) :=
  let (sign, digits) := match s.toList with
    | '-' :: ds => (some '-', ds)
    | '+' :: ds => (some '+', ds)
    | ds => (none, ds)
  if !digits.isEmpty && digits.all Char.isDigit then some (sign, (String.ofList digits).toNat!)
  else none

/-- How `head` or `tail` counts, and the inputs it reads. -/
structure Slice where
  bytes : Bool := false
  count : String := "10"
  headers : Option Bool := none
  files : List String := []

/-- Reads the command line of `head` or `tail`: `-n N`, `-c N`, `-N` (and for `tail` `+N`),
`-q` and `-v`, with the inputs anywhere among them. -/
def readSlice (prog : String) : Nat → List String → Slice → Except Ran Slice
  | 0, _, sl => .ok sl
  | _ + 1, [], sl => .ok sl
  | fuel + 1, a :: rest, sl =>
    match a.toList with
    | ['-', '-'] => .ok { sl with files := sl.files ++ rest }
    | ['-', 'n'] | ['-', 'c'] =>
      match rest with
      | v :: more => readSlice prog fuel more { sl with bytes := a == "-c", count := v }
      | [] => .error (usageFault prog ("option requires an argument -- '" ++
          String.ofList (a.toList.drop 1) ++ "'") 1)
    | '-' :: 'n' :: v => readSlice prog fuel rest { sl with bytes := false, count := String.ofList v }
    | '-' :: 'c' :: v => readSlice prog fuel rest { sl with bytes := true, count := String.ofList v }
    | ['-', 'q'] => readSlice prog fuel rest { sl with headers := some false }
    | ['-', 'v'] => readSlice prog fuel rest { sl with headers := some true }
    | '-' :: d :: ds =>
      if d.isDigit && ds.all Char.isDigit then
        readSlice prog fuel rest { sl with bytes := false, count := (if prog == "head" then "" else "-") ++ String.ofList (d :: ds) }
      else if d == '-' then .error (usageFault prog ("unrecognized option '" ++ a ++ "'") 1)
      else .error (usageFault prog ("invalid option -- '" ++ String.singleton d ++ "'") 1)
    | '+' :: d :: ds =>
      if prog == "tail" && d.isDigit && ds.all Char.isDigit then
        readSlice prog fuel rest { sl with bytes := false, count := a }
      else readSlice prog fuel rest { sl with files := sl.files ++ [a] }
    | _ => readSlice prog fuel rest { sl with files := sl.files ++ [a] }

/-- The part of a text that `head` keeps: the first `n` lines or bytes, or all but the last `n`
with a minus sign. -/
def headPart (bytes : Bool) (sign : Option Char) (n : Nat) (s : String) : String :=
  let parts := if bytes then s.toList.map String.singleton else linesOf s
  let kept := if sign == some '-' then parts.take (parts.length - n) else parts.take n
  String.join kept

/-- The part of a text that `tail` keeps: the last `n` lines or bytes, or from the `n`-th on with
a plus sign. -/
def tailPart (bytes : Bool) (sign : Option Char) (n : Nat) (s : String) : String :=
  let parts := if bytes then s.toList.map String.singleton else linesOf s
  let kept := if sign == some '+' then parts.drop (n - 1) else parts.drop (parts.length - n)
  String.join kept

def sliceRun (prog : String) (args : List String) (stdin : Input) (openFile : String → Input) :
    Ran :=
  match readSlice prog (args.length + 1) args {} with
  | .error r => r
  | .ok sl =>
    let what := if sl.bytes then "bytes" else "lines"
    match readCount sl.count with
    | none => { err := prog ++ ": invalid number of " ++ what ++ ": '" ++ sl.count ++ "'\n", status := 1 }
    | some (sign, n) =>
      let files := if sl.files.isEmpty then ["-"] else sl.files
      let headers := sl.headers.getD (files.length > 1)
      let one (acc : Ran × Bool) (f : String) : Ran × Bool :=
        let (r, first) := acc
        if r.endless then acc
        else
          let input := if f == "-" then stdin else openFile f
          let shown := if f == "-" then "standard input" else f
          let header := if headers then (if first then "" else "\n") ++ "==> " ++ shown ++ " <==\n" else ""
          match input with
          | .missing =>
            ({ r with err := r.err ++ prog ++ ": cannot open '" ++ f ++ "' for reading: No such file or directory\n", status := 1 }, first)
          | .directory =>
            ({ r with out := r.out ++ header, err := r.err ++ prog ++ ": error reading '" ++ shown ++ "': Is a directory\n", status := 1 }, false)
          | .zeros =>
            if prog == "head" && sl.bytes && sign != some '-' then
              ({ r with out := r.out ++ header ++ String.ofList (List.replicate n (Char.ofNat 0)) }, false)
            else ({ r with endless := true }, false)
          | .text s =>
            let part := if prog == "head" then headPart sl.bytes sign n s else tailPart sl.bytes sign n s
            ({ r with out := r.out ++ header ++ part }, false)
      (files.foldl one ({}, true)).1

def isWordBlank (c : Char) : Bool :=
  c == ' ' || c == '\t' || c == '\n' || c == '\r' || c.toNat == 11 || c.toNat == 12

def wordCount (s : String) : Nat :=
  (s.toList.foldl (fun (acc : Nat × Bool) c =>
    if isWordBlank c then (acc.1, false) else if acc.2 then acc else (acc.1 + 1, true)) (0, false)).1

def padLeft (width : Nat) (s : String) : String :=
  String.ofList (List.replicate (width - s.length) ' ') ++ s

/-- `wc`: the lines, words and bytes of each input, and their totals when there are several.
The numbers share a width: that of the total bytes of the files, or seven when standard input
is among the inputs; one number of one input stands alone. -/
def wcRun (args : List String) (stdin : Input) (openFile : String → Input) : Ran :=
  let (opts, files) := args.partition fun a => a.startsWith "-" && a.length > 1
  let letters := opts.flatMap fun o => o.toList.drop 1
  match letters.find? fun c => !"lwcm".toList.contains c with
  | some c => usageFault "wc" ("invalid option -- '" ++ String.singleton c ++ "'") 1
  | none =>
    let chosen := if letters.isEmpty then ['l', 'w', 'c'] else
      ['l', 'w', 'm', 'c'].filter letters.contains
    let files := if files.isEmpty then ["-"] else files
    let counts (s : String) : List Nat := chosen.map fun c => match c with
      | 'l' => (s.toList.filter (· == '\n')).length
      | 'w' => wordCount s
      | _ => s.length
    let read := files.map fun f => (f, if f == "-" then stdin else openFile f)
    let regularBytes := read.foldl (fun acc (f, i) => match i with
      | .text s => if f == "-" then acc else acc + s.length
      | _ => acc) 0
    let usesStdin := files.contains "-"
    let width := if chosen.length == 1 && files.length == 1 then 1
      else max (if usesStdin then 7 else 1) (toString regularBytes).length
    let line (ns : List Nat) (name : String) : String :=
      " ".intercalate (ns.map fun n => padLeft width (toString n)) ++
        (if name == "-" then "" else " " ++ name) ++ "\n"
    let step (acc : Ran × List Nat) (fi : String × Input) : Ran × List Nat :=
      let (r, total) := acc
      let (f, i) := fi
      match i with
      | .missing => ({ r with err := r.err ++ "wc: " ++ f ++ ": No such file or directory\n", status := 1 }, total)
      | .directory =>
        let zeros := line (chosen.map fun _ => 0) f
        ({ r with err := r.err ++ "wc: " ++ f ++ ": Is a directory\n", out := r.out ++ zeros, status := 1 }, total)
      | .zeros => ({ r with endless := true }, total)
      | .text s =>
        let ns := counts s
        ({ r with out := r.out ++ line ns f }, (total.zip ns).map fun (a, b) => a + b)
    let (r, total) := read.foldl step ({}, chosen.map fun _ => 0)
    if r.endless then r
    else if files.length > 1 then { r with out := r.out ++ line total "total" } else r

/-! ## `seq` -/

/-- A decimal number as an integer scaled by a power of ten: the integer and the number of
digits after the point; none when malformed. Exponents are applied. -/
def readDecimal (s : String) : Option (Int × Nat) :=
  let cs := s.toList
  let (neg, cs) := match cs with
    | '-' :: r => (true, r)
    | '+' :: r => (false, r)
    | r => (false, r)
  let whole := cs.takeWhile Char.isDigit
  let cs := cs.drop whole.length
  let (frac, cs) := match cs with
    | '.' :: r => (r.takeWhile Char.isDigit, r.drop (r.takeWhile Char.isDigit).length)
    | r => ([], r)
  let expo : Option Int := match cs with
    | [] => some 0
    | e :: r =>
      if e != 'e' && e != 'E' then none
      else match r with
        | '-' :: ds => if !ds.isEmpty && ds.all Char.isDigit then some (-(String.ofList ds).toNat! : Int) else none
        | '+' :: ds => if !ds.isEmpty && ds.all Char.isDigit then some ((String.ofList ds).toNat! : Int) else none
        | ds => if !ds.isEmpty && ds.all Char.isDigit then some ((String.ofList ds).toNat! : Int) else none
  if whole.isEmpty && frac.isEmpty then none
  else match expo with
    | none => none
    | some e =>
      let digits := (String.ofList (whole ++ frac)).toNat!
      let scale : Int := frac.length - e
      let (v, p) : Int × Nat :=
        if scale ≥ 0 then (digits, scale.toNat) else (digits * Int.pow 10 (-scale).toNat, 0)
      some (if neg then -v else v, p)

def fixedText (v : Int) (p : Nat) : String :=
  let mag := v.natAbs
  let digits := toString mag
  let digits := String.ofList (List.replicate (p + 1 - digits.length) '0') ++ digits
  let whole := String.ofList (digits.toList.take (digits.length - p))
  let frac := String.ofList (digits.toList.drop (digits.length - p))
  (if v < 0 then "-" else "") ++ whole ++ (if p == 0 then "" else "." ++ frac)

/-- `seq`: the numbers from a first to a last by an increment, one a line; `-s` sets the
separator and `-w` pads them to one width. The numbers have as many decimals as the first
number or the increment. -/
def seqRun (args : List String) : Ran :=
  let isNumber (a : String) : Bool := (readDecimal a).isSome
  let rec opts : Nat → List String → String × Bool → Except Ran (String × Bool × List String)
    | 0, rest, acc => .ok (acc.1, acc.2, rest)
    | _ + 1, [], acc => .ok (acc.1, acc.2, [])
    | fuel + 1, a :: rest, acc =>
      if a == "--" then .ok (acc.1, acc.2, rest)
      else if a == "-w" then opts fuel rest (acc.1, true)
      else if a == "-s" then match rest with
        | v :: more => opts fuel more (v, acc.2)
        | [] => .error (usageFault "seq" "option requires an argument -- 's'" 1)
      else if a.startsWith "-s" then opts fuel rest (String.ofList (a.toList.drop 2), acc.2)
      else if a.startsWith "-" && a.length > 1 && !isNumber a then
        .error (usageFault "seq" ("invalid option -- '" ++ String.ofList ((a.toList.drop 1).take 1) ++ "'") 1)
      else .ok (acc.1, acc.2, a :: rest)
  match opts (args.length + 1) args ("\n", false) with
  | .error r => r
  | .ok (sep, equal, operands) =>
    match operands.find? (fun a => !isNumber a) with
    | some bad => usageFault "seq" ("invalid floating point argument: '" ++ bad ++ "'") 1
    | none =>
      let nums := operands.filterMap readDecimal
      let parts : Except Ran ((Int × Nat) × (Int × Nat) × (Int × Nat)) := match nums with
        | [] => .error (usageFault "seq" "missing operand" 1)
        | [l] => .ok ((1, 0), (1, 0), l)
        | [f, l] => .ok (f, (1, 0), l)
        | [f, i, l] => .ok (f, i, l)
        | _ => .error (usageFault "seq" ("extra operand '" ++ (operands.getD 3 "") ++ "'") 1)
      match parts with
      | .error r => r
      | .ok ((f, fp), (i, ip), (l, lp)) =>
        let p := max fp ip
        let scaleTo (v : Int) (q : Nat) (places : Nat) : Int := v * Int.pow 10 (places - q)
        let q := max p lp
        let (f, i, l) := (scaleTo f fp q, scaleTo i ip q, scaleTo l lp q)
        if i == 0 then usageFault "seq" ("invalid Zero increment value: '" ++ (operands.getD 1 "") ++ "'") 1
        else
          let count : Nat :=
            if i > 0 then (if l < f then 0 else ((l - f) / i).toNat + 1)
            else (if l > f then 0 else ((f - l) / (-i)).toNat + 1)
          let down (v : Int) : Int := v / Int.pow 10 (q - p)
          let texts := (List.range count).map fun (k : Nat) => fixedText (down (f + i * Int.ofNat k)) p
          let width := texts.foldl (fun w t => max w t.length) 0
          let texts := if equal then texts.map fun t =>
              if t.startsWith "-" then "-" ++ String.ofList (List.replicate (width - t.length) '0') ++ String.ofList (t.toList.drop 1)
              else String.ofList (List.replicate (width - t.length) '0') ++ t
            else texts
          { out := if texts.isEmpty then "" else sep.intercalate texts ++ "\n" }

/-! ## `tr` -/

def charClass (name : String) : Option (List Char) :=
  let range (a b : Nat) : List Char := (List.range (b + 1 - a)).map fun k => Char.ofNat (a + k)
  match name with
  | "upper" => some (range 65 90)
  | "lower" => some (range 97 122)
  | "digit" => some (range 48 57)
  | "alpha" => some (range 65 90 ++ range 97 122)
  | "alnum" => some (range 48 57 ++ range 65 90 ++ range 97 122)
  | "space" => some [' ', '\t', '\n', Char.ofNat 11, Char.ofNat 12, '\r']
  | "blank" => some [' ', '\t']
  | "punct" => some ((range 33 126).filter fun c => !c.isAlphanum)
  | "xdigit" => some (range 48 57 ++ range 65 70 ++ range 97 102)
  | "cntrl" => some (range 0 31 ++ [Char.ofNat 127])
  | "print" => some (range 32 126)
  | "graph" => some (range 33 126)
  | _ => none

def trChar : List Char → Option (Char × List Char)
  | [] => none
  | '\\' :: c :: rest =>
    if '0' ≤ c && c ≤ '7' then
      let ds := (c :: rest).takeWhile (fun d => '0' ≤ d && d ≤ '7') |>.take 3
      some (Char.ofNat (ds.foldl (fun acc d => acc * 8 + (d.toNat - 48)) 0 % 256), (c :: rest).drop ds.length)
    else
      let e := match c with
        | 'n' => '\n' | 't' => '\t' | 'r' => '\r' | 'a' => Char.ofNat 7 | 'b' => Char.ofNat 8
        | 'f' => Char.ofNat 12 | 'v' => Char.ofNat 11 | other => other
      some (e, rest)
  | ['\\'] => some ('\\', [])
  | c :: rest => some (c, rest)

def trSet : Nat → List Char → List Char
  | 0, _ => []
  | fuel + 1, cs =>
    match cs with
    | [] => []
    | '[' :: ':' :: rest =>
      let name := rest.takeWhile (· != ':')
      match rest.drop name.length with
      | ':' :: ']' :: more =>
        match charClass (String.ofList name) with
        | some set => set ++ trSet fuel more
        | none => '[' :: trSet fuel (':' :: rest)
      | _ => '[' :: trSet fuel (':' :: rest)
    | _ =>
      match trChar cs with
      | none => []
      | some (a, rest) =>
        match rest with
        | '-' :: more =>
          match trChar more with
          | some (b, after) =>
            if a.toNat ≤ b.toNat then
              ((List.range (b.toNat + 1 - a.toNat)).map fun k => Char.ofNat (a.toNat + k)) ++ trSet fuel after
            else a :: trSet fuel rest
          | none => a :: trSet fuel rest
        | _ => a :: trSet fuel rest

def squeeze (set : List Char) (cs : List Char) : List Char :=
  (cs.foldl (fun (acc : List Char × Option Char) c =>
    if acc.2 == some c && set.contains c then acc else (c :: acc.1, some c)) ([], none)).1.reverse

/-- `tr`: translates the characters of the first set to those of the second (the last one
repeated), deletes them with `-d`, and squeezes runs with `-s`. -/
def trRun (args : List String) (stdin : Input) : Ran :=
  let (opts, sets) := args.partition fun a => a.startsWith "-" && a.length > 1
  let letters := opts.flatMap fun o => o.toList.drop 1
  match letters.find? fun c => !"dsct".toList.contains c with
  | some c => usageFault "tr" ("invalid option -- '" ++ String.singleton c ++ "'") 1
  | none =>
    let delete := letters.contains 'd'
    let squeezing := letters.contains 's'
    let hint := "\nTry 'tr --help' for more information.\n"
    let setOf (s : String) : List Char := trSet (s.length + 1) s.toList
    match sets with
    | [] => { err := "tr: missing operand" ++ hint, status := 1 }
    | [one] =>
      if !delete && !squeezing then
        { err := "tr: missing operand after '" ++ one ++ "'\nTwo strings must be given when translating." ++ hint,
          status := 1 }
      else
        match stdin with
        | .zeros => { endless := true }
        | .directory => { err := "tr: read error: Is a directory\n", status := 1 }
        | .missing => {}
        | .text s =>
          let set := setOf one
          let cs := if delete then s.toList.filter (!set.contains ·) else s.toList
          { out := String.ofList (if squeezing && !delete then squeeze set cs else cs) }
    | [one, two] =>
      match stdin with
      | .zeros => { endless := true }
      | .directory => { err := "tr: read error: Is a directory\n", status := 1 }
      | .missing => {}
      | .text s =>
        let source := setOf one
        let target := setOf two
        if delete then
          let cs := s.toList.filter (!source.contains ·)
          { out := String.ofList (if squeezing then squeeze target cs else cs) }
        else
          let mapped := s.toList.map fun c =>
            match source.findIdx? (· == c) with
            | some k => target.getD k (target.getLastD c)
            | none => c
          { out := String.ofList (if squeezing then squeeze target mapped else mapped) }
    | _ :: _ :: extra :: _ => { err := "tr: extra operand '" ++ extra ++ "'" ++ hint, status := 1 }

/-! ## `echo` -/

/-- The escapes of `echo -e` in a text: the text they stand for, and whether `\c` stopped all
output. -/
def echoEscapes : Nat → List Char → List Char × Bool
  | 0, _ => ([], false)
  | fuel + 1, cs =>
    match cs with
    | [] => ([], false)
    | '\\' :: 'c' :: _ => ([], true)
    | '\\' :: '0' :: rest =>
      let ds := (rest.takeWhile fun d => '0' ≤ d && d ≤ '7').take 3
      let (more, stop) := echoEscapes fuel (rest.drop ds.length)
      (Char.ofNat (ds.foldl (fun acc d => acc * 8 + (d.toNat - 48)) 0 % 256) :: more, stop)
    | '\\' :: 'x' :: rest =>
      let hex (d : Char) : Option Nat :=
        if d.isDigit then some (d.toNat - 48)
        else if 'a' ≤ d && d ≤ 'f' then some (d.toNat - 87)
        else if 'A' ≤ d && d ≤ 'F' then some (d.toNat - 55) else none
      let ds := (rest.takeWhile fun d => (hex d).isSome).take 2
      if ds.isEmpty then
        let (more, stop) := echoEscapes fuel rest
        ('\\' :: 'x' :: more, stop)
      else
        let (more, stop) := echoEscapes fuel (rest.drop ds.length)
        (Char.ofNat (ds.foldl (fun acc d => acc * 16 + (hex d).getD 0) 0) :: more, stop)
    | '\\' :: c :: rest =>
      let e : Option Char := match c with
        | '\\' => some '\\' | 'a' => some (Char.ofNat 7) | 'b' => some (Char.ofNat 8)
        | 'e' => some (Char.ofNat 27) | 'f' => some (Char.ofNat 12) | 'n' => some '\n'
        | 'r' => some '\r' | 't' => some '\t' | 'v' => some (Char.ofNat 11) | _ => none
      let (more, stop) := echoEscapes fuel rest
      match e with
      | some e => (e :: more, stop)
      | none => ('\\' :: c :: more, stop)
    | c :: rest =>
      let (more, stop) := echoEscapes fuel rest
      (c :: more, stop)

/-- The `echo` program: its arguments joined by blanks and a line end; leading options `-n`
(no line end), `-e` (escapes) and `-E` (no escapes). -/
def echoRun (args : List String) : Ran :=
  let isOpt (a : String) : Bool := a.length > 1 && a.startsWith "-" && (a.toList.drop 1).all "neE".toList.contains
  let opts := args.takeWhile isOpt
  let words := args.drop opts.length
  let letters := opts.flatMap fun o => o.toList.drop 1
  let newline := !letters.contains 'n'
  let escapes := letters.foldl (fun e c => if c == 'e' then true else if c == 'E' then false else e) false
  let text := " ".intercalate words
  if escapes then
    let (cs, stop) := echoEscapes (text.length + 1) text.toList
    { out := String.ofList cs ++ (if newline && !stop then "\n" else "") }
  else { out := text ++ (if newline then "\n" else "") }

/-! ## Names and the machine -/

def stripSlashes (p : String) : String :=
  let cs := (p.toList.reverse.dropWhile (· == '/')).reverse
  if cs.isEmpty && p.startsWith "/" then "/" else String.ofList cs

/-- `basename`: the last part of a path, without a suffix when one is given and is not all of
it. -/
def basenameRun (args : List String) : Ran :=
  match args with
  | [] => usageFault "basename" "missing operand" 1
  | _ :: _ :: extra :: _ => usageFault "basename" ("extra operand '" ++ extra ++ "'") 1
  | p :: rest =>
    let s := stripSlashes p
    let base := if s == "/" then "/" else (s.splitOn "/").getLastD s
    let base := match rest with
      | [suffix] =>
        if !suffix.isEmpty && base.endsWith suffix && base != suffix then
          String.ofList (base.toList.take (base.length - suffix.length))
        else base
      | _ => base
    { out := base ++ "\n" }

def dirnameRun (args : List String) : Ran :=
  if args.isEmpty then usageFault "dirname" "missing operand" 1
  else
    let one (p : String) : String :=
      let s := stripSlashes p
      if s == "/" then "/"
      else
        let parts := s.splitOn "/"
        match parts.dropLast with
        | [] => "."
        | [""] => "/"
        | front => stripSlashes ("/".intercalate front)
    { out := String.join (args.map fun p => one p ++ "\n") }

def idRun (args : List String) : Ran :=
  let letters := args.flatMap fun a => if a.startsWith "-" then a.toList.drop 1 else []
  let names := letters.contains 'n'
  if letters.contains 'u' || letters.contains 'g' || letters.contains 'G' then
    { out := (if names then "root" else "0") ++ "\n" }
  else { out := "uid=0(root) gid=0(root) groups=0(root)\n" }

def unameRun (args : List String) : Ran :=
  let letters := args.flatMap fun a => if a.startsWith "-" then a.toList.drop 1 else []
  let parts := [('s', "Linux"), ('m', "x86_64"), ('p', "x86_64"), ('i', "x86_64"), ('o', "GNU/Linux")]
  let chosen := parts.filter fun (c, _) => letters.contains c
  let chosen := if chosen.isEmpty then [('s', "Linux")] else chosen
  { out := " ".intercalate (chosen.map (·.2)) ++ "\n" }

/-! ## `expr` -/

def exprInt (s : String) : Option Int :=
  match s.toList with
  | '-' :: ds => if !ds.isEmpty && ds.all Char.isDigit then some (-((String.ofList ds).toNat! : Int)) else none
  | ds => if !ds.isEmpty && ds.all Char.isDigit then some ((String.ofList ds).toNat! : Int) else none

abbrev ExprM := Except (String × Nat)

def exprLevels : List (List String) :=
  [["|"], ["&"], ["<", "<=", "=", "==", "!=", ">=", ">"], ["+", "-"], ["*", "/", "%"]]

def exprApply (op a b : String) : ExprM String :=
  let isNull (v : String) : Bool := v.isEmpty || exprInt v == some 0
  let compare (f : Ordering → Bool) : ExprM String :=
    let o := match exprInt a, exprInt b with
      | some x, some y => Ord.compare x y
      | _, _ => Ord.compare a b
    .ok (if f o then "1" else "0")
  let arith (f : Int → Int → ExprM Int) : ExprM String :=
    match exprInt a, exprInt b with
    | some x, some y => (f x y).map toString
    | _, _ => .error ("non-integer argument", 2)
  match op with
  | "|" => .ok (if isNull a then (if isNull b then "0" else b) else a)
  | "&" => .ok (if isNull a || isNull b then "0" else a)
  | "<" => compare (· == .lt)
  | "<=" => compare (· != .gt)
  | "=" | "==" => compare (· == .eq)
  | "!=" => compare (· != .eq)
  | ">=" => compare (· != .lt)
  | ">" => compare (· == .gt)
  | "+" => arith fun x y => .ok (x + y)
  | "-" => arith fun x y => .ok (x - y)
  | "*" => arith fun x y => .ok (x * y)
  | "/" => arith fun x y => if y == 0 then .error ("division by zero", 2) else .ok (x.tdiv y)
  | _ => arith fun x y => if y == 0 then .error ("division by zero", 2) else .ok (x.tmod y)

mutual

def exprLevel : Nat → Nat → List String → ExprM (String × List String)
  | 0, _, _ => .error ("syntax error", 2)
  | fuel + 1, level, ws =>
    match exprLevels[level]? with
    | none => exprPrimary fuel ws
    | some ops => do
      let (a, rest) ← exprLevel fuel (level + 1) ws
      exprRest fuel level ops a rest

def exprRest : Nat → Nat → List String → String → List String → ExprM (String × List String)
  | 0, _, _, _, _ => .error ("syntax error", 2)
  | fuel + 1, level, ops, a, ws =>
    match ws with
    | op :: rest =>
      if ops.contains op then
        if rest.isEmpty then .error ("syntax error: missing argument after '" ++ op ++ "'", 2)
        else do
          let (b, rest) ← exprLevel fuel (level + 1) rest
          let v ← exprApply op a b
          exprRest fuel level ops v rest
      else .ok (a, ws)
    | [] => .ok (a, [])

def exprPrimary : Nat → List String → ExprM (String × List String)
  | 0, _ => .error ("syntax error", 2)
  | fuel + 1, ws =>
    match ws with
    | "(" :: rest => do
      let (v, rest) ← exprLevel fuel 0 rest
      match rest with
      | ")" :: more => .ok (v, more)
      | _ => .error ("syntax error: expecting ')' after '" ++ v ++ "'", 2)
    | "length" :: rest => do
      let (v, rest) ← exprPrimary fuel rest
      .ok (toString v.length, rest)
    | w :: rest => .ok (w, rest)
    | [] => .error ("syntax error: missing argument", 2)

end

/-- `expr`: evaluates its arguments as an expression and prints the value; the status is 1 when
the value is empty or zero. -/
def exprRun (args : List String) : Ran :=
  if args.isEmpty then usageFault "expr" "missing operand" 2
  else
    match exprLevel (4 * args.length + 16) 0 args with
    | .error (msg, st) => { err := "expr: " ++ msg ++ "\n", status := st }
    | .ok (v, []) => { out := v ++ "\n", status := if v.isEmpty || exprInt v == some 0 then 1 else 0 }
    | .ok (_, w :: _) => { err := "expr: syntax error: unexpected argument '" ++ w ++ "'\n", status := 2 }

end Shell

end TestConductor
