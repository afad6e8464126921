import TestConductor.Shell.Files
import TestConductor.Shell.Expand
/-! # Built-in commands

The built-in commands that run no other commands. Each takes its arguments, writes its output
to the shell's standard-output buffer (written out when the command ends) and its warnings to
standard error, and gives its status; a malformed use is a shell error.
-/
namespace TestConductor

namespace Shell

/-- The built-in commands, and whether each is special: special ones keep their assignments,
and an error in one ends a non-interactive shell. -/
def builtins : List (String × Bool) :=
  [(":", true), (".", true), ("[", false), ("alias", false), ("bg", false), ("break", true),
   ("cd", false), ("chdir", false), ("command", false), ("continue", true), ("echo", false),
   ("eval", true), ("exec", true), ("exit", true), ("export", true), ("false", false),
   ("fg", false), ("getopts", false), ("hash", false), ("jobs", false), ("kill", false),
   ("local", true),
   ("printf", false), ("pwd", false), ("read", false), ("readonly", true), ("return", true),
   ("set", true), ("shift", true), ("test", false), ("times", true), ("trap", true),
   ("true", false), ("type", false), ("ulimit", false), ("umask", false), ("unalias", false),
   ("unset", true), ("wait", false)]

def optionLetters (letters takesValue : List Char) : List Char → List String → List (Char × String) →
    Except String (List (Char × String) × List String)
  | [], rest, acc => .ok (acc, rest)
  | c :: cs, rest, acc =>
    if !letters.contains c then .error ("Illegal option -" ++ String.singleton c)
    else if takesValue.contains c then
      if !cs.isEmpty then .ok (acc ++ [(c, String.ofList cs)], rest)
      else match rest with
        | v :: rest' => .ok (acc ++ [(c, v)], rest')
        | [] => .error ("No arg for -" ++ String.singleton c ++ " option")
    else optionLetters letters takesValue cs rest (acc ++ [(c, "")])

/-- Reads the options of a built-in command that takes the letters in `letters`, those in
`takesValue` with a value; gives the options with their values, and the operands. -/
def parseOptions (letters takesValue : List Char) : Nat → List String → List (Char × String) →
    Except String (List (Char × String) × List String)
  | 0, args, acc => .ok (acc, args)
  | _ + 1, [], acc => .ok (acc, [])
  | fuel + 1, a :: rest, acc =>
    match a.toList with
    | ['-', '-'] => .ok (acc, rest)
    | '-' :: c :: more =>
      match optionLetters letters takesValue (c :: more) rest acc with
      | .ok (acc, rest) => parseOptions letters takesValue fuel rest acc
      | .error e => .error e
    | _ => .ok (acc, a :: rest)

def options (letters : String) (takesValue : String) (args : List String) :
    Sh (List (Char × String) × List String) :=
  match parseOptions letters.toList takesValue.toList (args.length + 1) args [] with
  | .ok r => pure r
  | .error e => fail e

def number (s : String) : Sh Nat := do
  match readWholeInt 10 s with
  | some n => if n ≥ 0 && n ≤ 2147483647 then return n.toNat else fail ("Illegal number: " ++ s)
  | none => fail ("Illegal number: " ++ s)

/-- Text in single quotes, as the shell prints values back: each run of single quotes in it is
put in double quotes between the quoted runs of other characters. -/
def singleQuote (s : String) : String :=
  let rec go : Nat → List Char → String
    | 0, _ => ""
    | fuel + 1, cs =>
      let plain := cs.takeWhile (· != '\'')
      let rest := cs.drop plain.length
      let out := "'" ++ String.ofList plain ++ "'"
      if rest.isEmpty then out
      else
        let quotes := rest.takeWhile (· == '\'')
        let rest := rest.drop quotes.length
        let out := out ++ "\"" ++ String.ofList quotes ++ "\""
        if rest.isEmpty then out else out ++ go fuel rest
  go (s.length + 1) s.toList

def echoBuiltin (args : List String) : Sh Nat := do
  emitOut (echoText args)
  return 0

def printfBuiltin (args : List String) : Sh Nat := do
  let (_, args) ← options "" "" args
  match args with
  | [] => fail "usage: printf format [arg ...]"
  | fmt :: rest =>
    let p := printfText fmt rest
    for w in p.warnings do warn w
    emitOut p.out
    match p.fault with
    | some f => fail f
    | none => return p.status

def testBuiltin (bracket : Bool) (args : List String) : Sh Nat := do
  let args ← if bracket then
      match args.getLast? with
      | some "]" => pure args.dropLast
      | _ => fail "missing ]"
    else pure args
  let s ← get
  match testStatus s.fileView args with
  | .ok n => return n
  | .error e => fail e

def pwdBuiltin (args : List String) : Sh Nat := do
  let (opts, _) ← options "LP" "" args
  let s ← get
  let physical := (opts.getLast?.map (·.1)) == some 'P'
  emitOut ((if physical then physicalPath "/" s.cwd else s.cwd) ++ "\n")
  return 0

/-- `cd`: to the directory given, looked for along `CDPATH` when relative; to `HOME` without
one; or to `OLDPWD` with `-`. It prints the directory it goes to when `CDPATH` or `-` led
there. With `-P` the directory is the one the links lead to. -/
def cdBuiltin (args : List String) : Sh Nat := do
  let (opts, args) ← options "LP" "" args
  let physical := (opts.getLast?.map (·.1)) == some 'P'
  let (dest, print) ← match args with
    | [] => pure (((← varValue "HOME").getD ""), false)
    | "-" :: _ => pure (((← varValue "OLDPWD").getD ""), true)
    | d :: _ => pure (d, false)
  let s ← get
  let isDir (p : String) : Bool := s.fileKind p == some .directory
  let explicit := dest.startsWith "/" || dest == "." || dest == ".." ||
    dest.startsWith "./" || dest.startsWith "../"
  let dest := if dest.isEmpty then "." else dest
  let viaPath : Option (String × Bool) ← if explicit then pure none else do
    match ← varValue "CDPATH" with
    | none => pure none
    | some cdpath =>
      pure ((cdpath.splitOn ":").findSome? fun d =>
        let cand := if d.isEmpty then dest else d ++ "/" ++ dest
        if isDir (absolutePath s.cwd cand) then some (cand, !d.isEmpty) else none)
  let (target, print) := match viaPath with
    | some (cand, shown) => (cand, print || shown)
    | none => (dest, print)
  let p := if physical then physicalPath s.cwd target else absolutePath s.cwd target
  if isDir p then
    let old := s.cwd
    modify fun s => { s with cwd := p }
    assign "OLDPWD" old
    assign "PWD" p
    if print then emitOut (p ++ "\n")
    return 0
  else fail ("can't cd to " ++ dest)

def exitBuiltin (args : List String) : Sh Nat := do
  match args with
  | a :: _ =>
    let n ← number a
    setStatus (n % 256)
  | [] => pure ()
  throw .exit

def returnBuiltin (args : List String) : Sh Nat := do
  let st ← match args with
    | a :: _ => number a
    | [] => pure (← get).status
  modify fun s => { s with skip := .returning }
  return st

def loopBuiltin (isBreak : Bool) (args : List String) : Sh Nat := do
  let n ← match args with
    | a :: _ =>
      let n ← number a
      if n == 0 then fail ("Illegal number: " ++ a) else pure n
    | [] => pure 1
  let s ← get
  let n := min n s.loopNest
  if n > 0 then set { s with skip := if isBreak then .breaking n else .continuing n }
  return 0

def shiftBuiltin (args : List String) : Sh Nat := do
  let n ← match args with
    | a :: _ => number a
    | [] => pure 1
  let s ← get
  if n > s.params.length then fail "can't shift that many"
  set { s with params := s.params.drop n, optIndex := 1, optOffset := none }
  return 0

def Options.setLetter (o : Options) (c : Char) (on : Bool) : Option Options :=
  (Flag.table.find? fun (_, _, l) => l == some c).map fun (f, _, _) => o.set f on

/-- Applies the letters of one option argument of `set` or of the shell's command line, turning
options on or off; `-o` takes its name from the next argument, and lists the options when none
follows. Gives the options, the arguments left, whether `c` was among the letters, and the
listing written. -/
def setLetters (sign : Char) (cmdline : Bool) : List Char → Options → List String → Bool → String →
    Except String (Options × List String × Bool × String)
  | [], o, rest, c, out => .ok (o, rest, c, out)
  | 'c' :: ls, o, rest, c, out =>
    if cmdline then setLetters sign cmdline ls o rest (c || sign == '-') out
    else .error "Illegal option -c"
  | 'l' :: ls, o, rest, c, out =>
    if cmdline then setLetters sign cmdline ls o rest c out
    else .error "Illegal option -l"
  | 'o' :: ls, o, rest, c, out =>
    match rest with
    | name :: rest' =>
      match Flag.table.find? fun (_, n, _) => n == name with
      | some (f, _, _) => setLetters sign cmdline ls (o.set f (sign == '-')) rest' c out
      | none => .error ("Illegal option -o " ++ name)
    | [] => setLetters sign cmdline ls o rest c (out ++ o.listing (sign == '+'))
  | l :: ls, o, rest, c, out =>
    match o.setLetter l (sign == '-') with
    | some o => setLetters sign cmdline ls o rest c out
    | none => .error ("Illegal option -" ++ String.singleton l)

/-- Reads the option arguments of `set` or of the shell's command line; gives the options, the
positional parameters if any were given, whether `-c` was among them, and the listing of the
options that `-o` alone asks for. -/
def setOptions (o : Options) (cmdline : Bool) : Nat → List String → Bool → String →
    Except String (Options × Option (List String) × Bool × String)
  | 0, args, c, out => .ok (o, some args, c, out)
  | fuel + 1, args, c, out =>
    match args with
    | [] => .ok (o, none, c, out)
    | a :: rest =>
      match a.toList with
      | ['-', '-'] => .ok (o, some rest, c, out)
      | ['-'] => .ok ((o.set .xtrace false).set .verbose false, some rest, c, out)
      | sign :: l :: more =>
        if sign != '-' && sign != '+' then .ok (o, some args, c, out)
        else
          match setLetters sign cmdline (l :: more) o rest c out with
          | .ok (o, rest, c, out) => setOptions o cmdline fuel rest c out
          | .error e => .error e
      | _ => .ok (o, some args, c, out)

def setBuiltin (args : List String) : Sh Nat := do
  let s ← get
  if args.isEmpty then
    let vars := s.vars.filterMap fun (k, v) => v.value.map (k, ·)
    let vars := vars.mergeSort fun a b => compare a.1 b.1 != .gt
    for (k, v) in vars do emitOut (k ++ "=" ++ singleQuote v ++ "\n")
    return 0
  let (o, params, _, listing) ← match setOptions s.opts false (args.length + 1) args false "" with
    | .ok r => pure r
    | .error e => fail e
  emitOut listing
  let o ← if o.get .monitor then do
      warn "can't access tty; job control turned off"
      pure (o.set .monitor false)
    else pure o
  modify fun s => { s with opts := o }
  match params with
  | some ps => modify fun s => { s with params := ps, optIndex := 1, optOffset := none }
  | none => pure ()
  return 0

def unsetBuiltin (args : List String) : Sh Nat := do
  let (opts, names) ← options "vf" "" args
  let flag := (opts.getLast?.map (·.1)).getD ' '
  for name in names do
    if flag == 'f' then modify fun s => { s with funcs := assocErase name s.funcs }
    else
      if !isName name then fail (name ++ ": bad variable name")
      match ← findVar name with
      | some v =>
        if v.readonly then fail (name ++ ": is read only")
        modify fun s => { s with vars := assocErase name s.vars }
        if name == "OPTIND" then modify fun s => { s with optIndex := 1, optOffset := none }
        if name == "PATH" then modify fun s => { s with hashed := [] }
      | none => pure ()
  return 0

/-- Sets attributes on variables, assigning those given with `=`; lists them when none is
given or with `-p`. -/
def attributeBuiltin (isExport : Bool) (args : List String) : Sh Nat := do
  let (opts, names) ← options "p" "" args
  let word := if isExport then "export" else "readonly"
  if names.isEmpty || !opts.isEmpty then
    let s ← get
    let vars := (s.vars.filter fun (_, v) => if isExport then v.exported else v.readonly).mergeSort
      fun a b => compare a.1 b.1 != .gt
    for (k, v) in vars do
      match v.value with
      | some x => emitOut (word ++ " " ++ k ++ "=" ++ singleQuote x ++ "\n")
      | none => emitOut (word ++ " " ++ k ++ "\n")
    return 0
  for arg in names do
    let cs := arg.toList
    let name := String.ofList (cs.takeWhile (· != '='))
    let value := if cs.contains '=' then some (String.ofList (cs.drop (name.length + 1))) else none
    if !isName name then fail (name ++ ": bad variable name")
    match value with
    | some v => assign name v
    | none => pure ()
    let s ← get
    let var := (s.vars.lookup name).getD { value := none }
    let var := if isExport then { var with exported := true } else { var with readonly := true }
    set { s with vars := assocSet name var s.vars }
  return 0

def localBuiltin (args : List String) : Sh Nat := do
  let s ← get
  if s.funcNest == 0 then fail "not in a function"
  for arg in args do
    let cs := arg.toList
    let name := String.ofList (cs.takeWhile (· != '='))
    let value := if cs.contains '=' then some (String.ofList (cs.drop (name.length + 1))) else none
    if arg == "-" then
      let s ← get
      match s.locals with
      | frame :: rest =>
        if !(frame.any (·.1 == "-")) then
          set { s with locals := (("-", some { value := some s.opts.letters }) :: frame) :: rest }
      | [] => pure ()
      continue
    if !isName name then
      if value.isSome then
        modify fun s => { s with commandName := none }
      fail (name ++ ": bad variable name")
    let s ← get
    match s.locals with
    | frame :: rest =>
      if !(frame.any (·.1 == name)) then
        set { s with locals := ((name, s.vars.lookup name) :: frame) :: rest }
    | [] => pure ()
    match value with
    | some v => assign name v
    | none =>
      let s ← get
      if (s.vars.lookup name).isNone then
        set { s with vars := assocSet name { value := none } s.vars }
  return 0

def Options.ofLetters (letters : String) : Options :=
  letters.toList.foldl (fun o c => (o.setLetter c true).getD o) {}

/-- Splits a line that `read` got into the values of its variables: the last takes the rest.
Escaped characters never separate. -/
def readFields (ifs : List Char) (names : Nat) (cs : List (Char × Bool)) : List String :=
  let isSep (p : Char × Bool) : Bool := !p.2 && ifs.contains p.1
  let isBlankSep (p : Char × Bool) : Bool := isSep p && isIfsBlank p.1
  let text (l : List (Char × Bool)) : String := String.ofList (l.map (·.1))
  let rec go : Nat → List (Char × Bool) → List String
    | 0, _ => []
    | 1, cs =>
      let cs := cs.dropWhile isBlankSep
      let cs := (cs.reverse.dropWhile isBlankSep).reverse
      let cs := match cs.getLast? with
        | some last =>
          if isSep last && !isIfsBlank last.1 && !((cs.dropLast).any isSep) then cs.dropLast else cs
        | none => cs
      [text cs]
    | n + 2, cs =>
      let cs := cs.dropWhile isBlankSep
      let field := cs.takeWhile fun p => !isSep p
      let rest := cs.drop field.length
      let rest := rest.dropWhile isBlankSep
      let rest := match rest with
        | p :: r => if isSep p then r.dropWhile isBlankSep else rest
        | [] => []
      text field :: go (n + 1) rest
  go names cs

/-- Reads a line for `read`, joining escaped line ends unless raw; gives its characters, each
marked when a backslash protected it, and whether a line end was found. -/
def readLogicalLine (raw : Bool) : Nat → List (Char × Bool) → Sh (List (Char × Bool) × Bool)
  | 0, acc => pure (acc, false)
  | fuel + 1, acc => do
    let (line, found) ← readLineFd 0
    if raw then return (acc ++ line.map (·, false), found)
    let rec unescape : List Char → List (Char × Bool) → List (Char × Bool) × Bool
      | [], out => (out, false)
      | ['\\'], out => (out, true)
      | '\\' :: c :: rest, out => unescape rest (out ++ [(c, true)])
      | c :: rest, out => unescape rest (out ++ [(c, false)])
    let (cs, joined) := unescape line []
    if joined && found then readLogicalLine raw fuel (acc ++ cs)
    else return (acc ++ cs, found)

def readBuiltin (args : List String) : Sh Nat := do
  let (opts, names) ← options "pr" "p" args
  let raw := opts.any (·.1 == 'r')
  if names.isEmpty then fail "arg count"
  let (cs, found) ← readLogicalLine raw 100000 []
  let ifs ← ifsChars
  let values := readFields ifs names.length cs
  for (name, v) in names.zip values do
    if !isName name then fail (name ++ ": bad variable name")
    assign name v
  return if found then 0 else 1

def trapBuiltin (args : List String) : Sh Nat := do
  let (_, args) ← options "" "" args
  let s ← get
  match args with
  | [] =>
    let traps := s.traps.mergeSort fun a b => a.1 ≤ b.1
    for (n, action) in traps do emitOut ("trap -- " ++ singleQuote action ++ " " ++ signalName n ++ "\n")
    return 0
  | first :: rest =>
    let resetAll := rest.isEmpty || (decodeSignal first 0).isSome
    let (action, sigs) : Option String × List String :=
      if resetAll then (none, args) else if first == "-" then (none, rest) else (some first, rest)
    for sig in sigs do
      match decodeSignal sig 0 with
      | none =>
        let _ ← writeFd 2 ("trap: " ++ sig ++ ": bad trap\n")
        return 1
      | some n =>
        modify fun s => { s with traps := match action with
          | some a => natSet n a s.traps
          | none => s.traps.filter (·.1 != n) }
    return 0

def typeBuiltin (args : List String) : Sh Nat := do
  let mut status := 0
  for name in args do
    let s ← get
    if reservedWords.contains name then emitOut (name ++ " is a shell keyword\n")
    else if (s.funcs.lookup name).isSome then emitOut (name ++ " is a shell function\n")
    else match builtins.lookup name with
      | some true => emitOut (name ++ " is a special shell builtin\n")
      | some false => emitOut (name ++ " is a shell builtin\n")
      | none =>
        let found ← if name.contains '/' then
            pure (if s.host.programs.contains (absolutePath s.cwd name) then some name else none)
          else match s.hashed.lookup name with
            | some p => pure (some p)
            | none => findProgram name
        match found with
        | some p =>
          if (s.hashed.lookup name).isSome then emitOut (name ++ " is a tracked alias for " ++ p ++ "\n")
          else emitOut (name ++ " is " ++ p ++ "\n")
        | none =>
          emitOut (name ++ ": not found\n")
          status := 127
  return status

/-- `kill -l`: the names of the signals, or the name of the signal a number or an exit status
stands for. -/
def killList : List String → Sh Nat
  | [] => do
    emitOut "0\n"
    for n in List.range (signalCount - 1) do emitOut (signalName (n + 1) ++ "\n")
    return 0
  | a :: _ => do
    let n ← number a
    let n := if n > 128 then n - 128 else n
    if 0 < n && n < signalCount then
      emitOut (signalName n ++ "\n")
      return 0
    else fail ("invalid signal number or exit status: " ++ a)

/-- Sends a signal to a process: to this one, to another that is running, or to a background
job, which ends at once if it had not ended yet. -/
def sendSignal (pid : Nat) (sig : Nat) : Sh Bool := do
  let s ← get
  if pid == s.procPid then
    if sig != 0 then deliverSignal sig
    return true
  else if s.world.live.contains pid then
    if sig != 0 then modifyWorld fun w => { w with signals := w.signals ++ [(pid, sig)] }
    return true
  else match s.jobs.find? (·.pid == pid) with
    | some j =>
      if sig != 0 && j.finish > s.world.clock && !ignoredByDefault sig then
        let jobs := s.jobs.map fun (k : Job) =>
          if k.pid == pid then { k with status := 128 + sig, finish := s.world.clock, buffer := none, signal := some sig } else k
        set { s with jobs := jobs }
      return true
    | none => return false

/-- The process a job specification names: `%%` or `%+` the last job, `%-` the one before it,
`%n` the job numbered `n`. -/
def jobPid (spec : String) : Sh Nat := do
  let jobs := (← get).jobs
  let rest := String.ofList (spec.toList.drop 1)
  let pick : Option Job :=
    if rest == "%" || rest == "+" || rest.isEmpty then jobs.getLast?
    else if rest == "-" then (jobs.dropLast).getLast?
    else if rest.all Char.isDigit then jobs[rest.toNat! - 1]?
    else none
  match pick with
  | some j => return j.pid
  | none => fail ("No such job: " ++ spec)

def killBuiltin (args : List String) : Sh Nat := do
  let usage := "Usage: kill [-s sigspec | -signum | -sigspec] [pid | job]... or\nkill -l [exitstatus]"
  if args.isEmpty then fail usage
  let mut signal : Option Nat := none
  let mut list := false
  let mut rest := args
  match args with
  | a :: more =>
    if a.startsWith "-" then
      match decodeSignal (String.ofList (a.toList.drop 1)) 1 with
      | some n =>
        signal := some n
        rest := more
      | none =>
        let (opts, operands) ← options "ls" "s" args
        for (c, v) in opts do
          if c == 'l' then list := true
          else match decodeSignal v 1 with
            | some n => signal := some n
            | none => fail ("invalid signal number or name: " ++ v)
        rest := operands
  | [] => pure ()
  if !list && signal.isNone then signal := some 15
  if (signal.isNone || rest.isEmpty) != list then fail usage
  if list then return (← killList rest)
  let sig := signal.getD 15
  let mut status := 0
  for p in rest do
    let pid ← if p.startsWith "%" then do
        let _ ← jobPid p
        pure 0
      else if p.startsWith "-" then do
        let _ ← number (String.ofList (p.toList.drop 1))
        pure 0
      else number p
    if pid == 0 || !(← sendSignal pid sig) then
      warn "No such process\n"
      status := 1
  return status

/-- Shows what the background jobs that ended by a time (all, without one) wrote to standard
error, in the order they ended; a job killed early shows nothing. -/
def releaseJobs (upTo : Option Nat) : Sh Unit := do
  let s ← get
  let due := (s.jobs.filter fun j => !j.released && upTo.all (j.finish ≤ ·)).mergeSort
    fun a b => a.finish ≤ b.finish
  for j in due do
    match j.buffer with
    | some b =>
      let text ← bufferText b
      writePort .stderr text
    | none => pure ()
  let mark (j : Job) : Job := if due.any (·.pid == j.pid) then { j with released := true } else j
  modify fun s => { s with jobs := s.jobs.map mark }

/-! ## Options of scripts -/

/-- What one call of `getopts` finds: the letter to store (`?` or `:` for a fault), the value of
`OPTARG` (none to unset it), the message for standard error, where the next call goes on, and
whether the options are done. -/
structure OptFound where
  letter : Char
  optarg : Option String
  message : String := ""
  index : Nat
  offset : Option Nat := none
  done : Bool := false

/-- The option string after an option letter, when the letter is in it; the letters of the
string are each followed by a colon when they take a value. -/
def findOptLetter (c : Char) : List Char → Option (List Char)
  | [] => none
  | q :: ':' :: rest => if q == c then some (':' :: rest) else findOptLetter c rest
  | q :: rest => if q == c then some rest else findOptLetter c rest

/-- One call of `getopts` over `args`: `index` counts from 1 the argument to read next, and
`offset`, when set, is where an unfinished group of options stops in the argument before it. A
leading `:` in the option string makes faults silent, with the letter in `OPTARG`. -/
def getoptsStep (optstr : List Char) (args : Array String) (index : Nat) (offset : Option Nat) :
    OptFound :=
  let atEnd (next : Nat) : OptFound := { letter := '?', optarg := none, index := next + 1, done := true }
  let silent := optstr.head? == some ':'
  let wordAt (i : Nat) : List Char := ((args[i]?).map String.toList).getD []
  let offsetIn (next : Nat) (p : List Char) : Option Nat := some ((wordAt (next - 1)).length - p.length)
  let found (c : Char) (p : List Char) (next : Nat) : OptFound :=
    match findOptLetter c optstr with
    | none =>
      if silent then { letter := '?', optarg := some (String.singleton c), index := next + 1, offset := offsetIn next p }
      else { letter := '?', optarg := none, message := "Illegal option -" ++ String.singleton c ++ "\n",
             index := next + 1, offset := offsetIn next p }
    | some (':' :: _) =>
      if p.isEmpty then
        match args[next]? with
        | some v => { letter := c, optarg := some v, index := next + 2 }
        | none =>
          if silent then { letter := ':', optarg := some (String.singleton c), index := next + 1, offset := offsetIn next p }
          else { letter := '?', optarg := none, message := "No arg for -" ++ String.singleton c ++ " option\n",
                 index := next + 1, offset := offsetIn next p }
      else { letter := c, optarg := some (String.ofList p), index := next + 1 }
    | some _ => { letter := c, optarg := some "", index := next + 1, offset := offsetIn next p }
  let pending : Option (List Char) := match offset with
    | some off =>
      if index ≤ 1 then none
      else
        let w := wordAt (index - 2)
        if w.length < off then none else some (w.drop off)
    | none => none
  match pending with
  | some (c :: p) => found c p (index - 1)
  | _ =>
    match (args[index - 1]?).map String.toList with
    | some ('-' :: c :: p) =>
      if c == '-' && p.isEmpty then atEnd index else found c p index
    | _ => atEnd (index - 1)

/-- `getopts`: reads the next option from the positional parameters, or from the arguments
after the variable's name. -/
def getoptsBuiltin (args : List String) : Sh Nat := do
  match args with
  | optstr :: var :: rest =>
    let s ← get
    let argv := if rest.isEmpty then s.params else rest
    let (index, offset) :=
      if s.optIndex > argv.length + 1 then (1, none) else (s.optIndex, s.optOffset)
    let r := getoptsStep optstr.toList argv.toArray index offset
    if !r.message.isEmpty then
      let _ ← writeFd 2 r.message
    match r.optarg with
    | some v => assign "OPTARG" v
    | none => modify fun s => { s with vars := assocErase "OPTARG" s.vars }
    assign "OPTIND" (toString r.index)
    if !isName var then fail (var ++ ": bad variable name")
    assign var (String.singleton r.letter)
    modify fun s => { s with optIndex := r.index, optOffset := r.offset }
    return if r.done then 1 else 0
  | _ => fail "Usage: getopts optstring var [arg]"

/-! ## The file mode mask and aliases -/

def umaskSymbolic (mask : Nat) : String :=
  let allowed := 511 - mask % 512
  let part (who : Char) (shift : Nat) : String :=
    let bits := allowed / Nat.pow 2 shift % 8
    String.ofList (who :: '=' :: ([(4, 'r'), (2, 'w'), (1, 'x')].filterMap fun (b, c) =>
      if bits / b % 2 == 1 then some c else none))
  part 'u' 6 ++ "," ++ part 'g' 3 ++ "," ++ part 'o' 0

def octal4 (n : Nat) : String :=
  let digits := Nat.toDigits 8 n
  String.ofList (List.replicate (4 - digits.length) '0' ++ digits)

/-- A symbolic mode applied to the permissions a mask leaves: clauses of `ugoa`, an operator
`=`, `+` or `-` and permissions `rwx`, or the permissions of a class, separated by commas. -/
def applySymbolic (mask : Nat) (mode : List Char) : Option Nat :=
  let rec clauses : Nat → List Char → Nat → Option Nat
    | 0, _, allowed => some allowed
    | fuel + 1, cs, allowed =>
      let who := cs.takeWhile "augo".toList.contains
      let cs := cs.drop who.length
      let positions := who.foldl (fun acc c => match c with
        | 'a' => acc ||| 73 | 'u' => acc ||| 64 | 'g' => acc ||| 8 | _ => acc ||| 1) 0
      let positions := if positions == 0 then 73 else positions
      match cs with
      | op :: rest =>
        if !"=+-".toList.contains op then none
        else
          let perms := rest.takeWhile "rwxugoXs".toList.contains
          let rest := rest.drop perms.length
          let value := perms.foldl (fun acc c => match c with
            | 'r' => acc ||| 4 | 'w' => acc ||| 2 | 'x' => acc ||| 1
            | 'u' => acc ||| (allowed / 64) | 'g' => acc ||| (allowed / 8) | 'o' => acc ||| allowed
            | 'X' => if allowed &&& 73 != 0 then acc ||| 1 else acc
            | _ => acc) 0
          let value := (value % 8) * positions
          let allowed := match op with
            | '-' => allowed &&& (511 - value)
            | '=' => value ||| (allowed &&& (511 - positions * 7))
            | _ => allowed ||| value
          match rest with
          | [] => some allowed
          | ',' :: more => clauses fuel more allowed
          | c :: _ => if "=+-".toList.contains c then clauses fuel rest allowed else none
      | [] => none
  (clauses (mode.length + 1) mode (511 - mask % 512)).map fun allowed => 511 - allowed % 512

def umaskBuiltin (args : List String) : Sh Nat := do
  let (opts, rest) ← options "S" "" args
  let mask := (← get).umask
  match rest with
  | [] =>
    emitOut ((if opts.isEmpty then octal4 mask else umaskSymbolic mask) ++ "\n")
    return 0
  | a :: _ =>
    match a.toList with
    | c :: _ =>
      if c.isDigit then
        if a.all fun d => '0' ≤ d && d ≤ '7' then
          let v := a.toList.foldl (fun acc d => acc * 8 + (d.toNat - '0'.toNat)) 0
          modify fun s => { s with umask := v % 512 }
          return 0
        else fail ("Illegal number: " ++ a)
      else match applySymbolic mask a.toList with
        | some m =>
          modify fun s => { s with umask := m }
          return 0
        | none => fail ("Illegal mode: " ++ a)
    | [] => return 0

def aliasBuiltin (args : List String) : Sh Nat := do
  let entry (n v : String) : String := n ++ "=" ++ singleQuote v ++ "\n"
  if args.isEmpty then
    for (n, v) in tableOrder 39 (← get).aliases do emitOut (entry n v)
    return 0
  let mut status := 0
  for a in args do
    match a.splitOn "=" with
    | [n] =>
      match (← get).aliases.lookup n with
      | some v => emitOut (entry n v)
      | none =>
        let _ ← writeFd 2 ("alias: " ++ n ++ " not found\n")
        status := 1
    | n :: vs =>
      let v := "=".intercalate vs
      modify fun s => { s with aliases := assocSet n v s.aliases }
    | [] => pure ()
  return status

def unaliasBuiltin (args : List String) : Sh Nat := do
  let (opts, names) ← options "a" "" args
  if !opts.isEmpty then
    modify fun s => { s with aliases := [] }
    return 0
  let mut status := 0
  for n in names do
    if ((← get).aliases.lookup n).isSome then
      modify fun s => { s with aliases := assocErase n s.aliases }
    else
      let _ ← writeFd 2 ("unalias: " ++ n ++ " not found\n")
      status := 1
  return status

/-- `hash`: shows where the programs run so far were found, forgets them with `-r`, or finds
the programs named. -/
def hashBuiltin (args : List String) : Sh Nat := do
  let (opts, names) ← options "r" "" args
  if !opts.isEmpty then
    modify fun s => { s with hashed := [] }
    return 0
  if names.isEmpty then
    for (_, p) in tableOrder 31 (← get).hashed do emitOut (p ++ "\n")
    return 0
  let mut status := 0
  for n in names do
    let s ← get
    if (s.funcs.lookup n).isSome || (builtins.lookup n).isSome then continue
    let found ← if n.contains '/' then pure (some n) else locateProgram n
    if found.isNone then
      warn (n ++ ": not found")
      status := 1
  return status

/-- Collects the background jobs that have ended by now, as the shell does while it waits for
a command: they are not reported later. -/
def reapJobs : Sh Unit := do
  let s ← get
  let clock := s.world.clock
  set { s with jobs := s.jobs.map fun (j : Job) => if j.finish ≤ clock then { j with reaped := true } else j }

/-- `wait`: waits for background jobs. Without operands it waits for all and its status is 0;
otherwise the status is that of the last job waited for, 127 for a process that is not a job.
Waiting for a job that a signal killed, and that the shell had not collected, reports the
signal. -/
def waitBuiltin (args : List String) : Sh Nat := do
  if args.isEmpty then
    let s ← get
    let last := s.jobs.foldl (fun acc j => max acc j.finish) s.world.clock
    modifyWorld fun w => { w with clock := last }
    releaseJobs none
    reapJobs
    return 0
  let mut status := 127
  for a in args do
    let n ← if a.startsWith "%" then jobPid a else number a
    let s ← get
    match s.jobs.find? (·.pid == n) with
    | some j =>
      modifyWorld fun w => { w with clock := max w.clock j.finish }
      releaseJobs (some (← get).world.clock)
      if !j.reaped then
        match j.signal with
        | some sig =>
          if sig != 2 && sig != 13 then
            let _ ← writeFd 2 (signalText sig ++ "\n")
        | none => pure ()
      reapJobs
      status := j.status
    | none => status := 127
  return status

end Shell

end TestConductor
