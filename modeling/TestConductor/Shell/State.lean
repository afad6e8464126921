import TestConductor.Shell.Syntax
/-! # Shell state

What a running shell holds: its variables, functions, positional parameters, options, traps
and open descriptors; and what all the processes of a run share, the world: the bytes written to
standard error, the files written, the pipes and streams between processes, the clock, the
process ids handed out and the evaluation steps left.
-/
namespace TestConductor

namespace Shell

/-- A shell variable: its value, unless it is declared but unset, and its attributes. -/
structure Var where
  value : Option String
  exported : Bool := false
  readonly : Bool := false
  deriving Inhabited

/-- An option of the shell. -/
inductive Flag where
  /-- `-e`: exit when a command fails outside a test. -/
  | errexit
  /-- `-f`: no file-name expansion. -/
  | noglob
  | ignoreeof
  | interactive
  | monitor
  /-- `-n`: read commands without running them. -/
  | noexec
  /-- `-s`: read commands from standard input. -/
  | stdin
  /-- `-x`: trace each simple command on standard error. -/
  | xtrace
  /-- `-v`: echo input as it is read. -/
  | verbose
  | vi
  | emacs
  /-- `-C`: `>` does not overwrite an existing file. -/
  | noclobber
  /-- `-a`: export every variable assigned. -/
  | allexport
  | notify
  /-- `-u`: expanding an unset parameter is an error. -/
  | nounset
  | privileged
  | nolog
  | debug
  deriving DecidableEq, Inhabited

def Flag.table : List (Flag × String × Option Char) :=
  [(.errexit, "errexit", some 'e'), (.noglob, "noglob", some 'f'),
   (.ignoreeof, "ignoreeof", some 'I'), (.interactive, "interactive", some 'i'),
   (.monitor, "monitor", some 'm'), (.noexec, "noexec", some 'n'), (.stdin, "stdin", some 's'),
   (.xtrace, "xtrace", some 'x'), (.verbose, "verbose", some 'v'), (.vi, "vi", some 'V'),
   (.emacs, "emacs", some 'E'), (.noclobber, "noclobber", some 'C'),
   (.allexport, "allexport", some 'a'), (.notify, "notify", some 'b'),
   (.nounset, "nounset", some 'u'), (.privileged, "privileged", some 'p'),
   (.nolog, "nolog", none), (.debug, "debug", none)]

/-- The shell's options: those that are on. -/
structure Options where
  on : List Flag := []
  deriving Inhabited

def Options.get (o : Options) (f : Flag) : Bool := o.on.contains f

def Options.set (o : Options) (f : Flag) (b : Bool) : Options :=
  if b then (if o.on.contains f then o else ⟨o.on ++ [f]⟩) else ⟨o.on.filter (· != f)⟩

def Options.errexit (o : Options) : Bool := o.get .errexit

def Options.noglob (o : Options) : Bool := o.get .noglob

def Options.noexec (o : Options) : Bool := o.get .noexec

def Options.xtrace (o : Options) : Bool := o.get .xtrace

def Options.allexport (o : Options) : Bool := o.get .allexport

def Options.nounset (o : Options) : Bool := o.get .nounset

def Options.noclobber (o : Options) : Bool := o.get .noclobber

/-- The letters of the options that are on, as `$-` shows them: from the last option listed to
the first. -/
def Options.letters (o : Options) : String :=
  String.ofList (Flag.table.reverse.filterMap fun (f, _, c) => if o.get f then c else none)

def Options.listing (o : Options) (asCommands : Bool) : String :=
  let pad (s : String) : String := s ++ String.ofList (List.replicate (16 - s.length) ' ')
  if asCommands then
    String.join (Flag.table.map fun (f, n, _) => "set " ++ (if o.get f then "-o " else "+o ") ++ n ++ "\n")
  else
    "Current option settings\n" ++
      String.join (Flag.table.map fun (f, n, _) => pad n ++ (if o.get f then "on" else "off") ++ "\n")

/-- Where a file descriptor leads. -/
inductive Port where
  /-- The standard error of the launched process. -/
  | stderr
  /-- The null device, and the standard output that no one reads. -/
  | null
  /-- A device that takes no writes. -/
  | full
  /-- A directory opened for reading, which cannot be read. -/
  | directory
  /-- A file, written by appending. -/
  | file (path : String)
  /-- The writing end of a pipe or of a command substitution. -/
  | buffer (id : Nat)
  /-- A stream to read: a pipe's reading end, a here-document or a file opened for reading. -/
  | stream (id : Nat)
  deriving DecidableEq, Inhabited

/-- The facts of the machine that the shell sees. -/
structure Host where
  /-- The directories that exist. -/
  directories : List String
  /-- The programs that exist, by absolute path. -/
  programs : List String
  deriving Inhabited

/-- A job started in the background: its process id, how it ended and when, the pipe that holds
what it wrote to standard error until it is shown, and whether the shell has collected it. -/
structure Job where
  pid : Nat
  status : Nat
  finish : Nat
  buffer : Option Nat := none
  released : Bool := false
  /-- The signal that killed it, if one did. -/
  signal : Option Nat := none
  /-- Whether the shell has collected its ending. -/
  reaped : Bool := false
  deriving Inhabited

/-- What all the processes of a run share. -/
structure World where
  /-- The bytes written to standard error. -/
  stderr : Array UInt8 := #[]
  /-- The files written, with their contents. -/
  files : List (String × String) := []
  /-- The directories made. -/
  directories : List String := []
  /-- What has been written to each pipe or command substitution. -/
  buffers : List (Nat × String) := []
  /-- What is left to read of each stream. -/
  streams : List (Nat × List Char) := []
  nextId : Nat := 0
  /-- The time, in nanoseconds. -/
  clock : Nat := 0
  nextPid : Nat
  /-- The evaluation steps left. -/
  steps : Nat
  /-- Signals sent to processes that were waiting for another at the time. -/
  signals : List (Nat × Nat) := []
  /-- The processes that are alive: the launched one and those waiting for their children. -/
  live : List Nat := []
  deriving Inhabited

/-- What a `break`, `continue` or `return` leaves to skip. -/
inductive Skip where
  | none
  | breaking (levels : Nat)
  | continuing (levels : Nat)
  | returning
  deriving DecidableEq, Inhabited

/-- A running shell. -/
structure Shell where
  host : Host
  vars : List (String × Var)
  funcs : List (String × Cmd) := []
  params : List String
  /-- `$0`, which also names the shell in its messages. -/
  arg0 : String
  /-- `$?`. -/
  status : Nat := 0
  opts : Options := {}
  /-- The trap actions, by signal number; 0 is the exit trap, and an empty action ignores. -/
  traps : List (Nat × String) := []
  /-- Trapped signals that arrived and wait for their actions. -/
  pending : List Nat := []
  cwd : String
  /-- The here-documents read, by number. -/
  docs : List (Nat × Word) := []
  fds : List (Nat × Port)
  loopNest : Nat := 0
  funcNest : Nat := 0
  skip : Skip := .none
  /-- For each function running, the variables it made local with what they were before. -/
  locals : List (List (String × Option Var)) := []
  /-- `$$`: the process id of the shell, also in its subshells. -/
  rootPid : Nat
  /-- The process id of this process. -/
  procPid : Nat
  jobs : List Job := []
  /-- `$!`. -/
  lastBg : Option Nat := none
  /-- The line of the command running, for messages. -/
  line : Nat := 1
  /-- The line a running function was defined on. -/
  funcLine : Nat := 0
  /-- The built-in command running, which messages name. -/
  commandName : Option String := none
  /-- What a built-in command has written to standard output, until it ends. -/
  out1 : String := ""
  /-- The status of the last command substitution of the command being expanded. -/
  substStatus : Nat := 0
  /-- Where `getopts` goes on: the number of the next argument, and the place in the argument
  before it when an option group there is not finished. -/
  optIndex : Nat := 1
  optOffset : Option Nat := none
  /-- The file mode mask. -/
  umask : Nat := 18
  /-- The aliases, in the order made. -/
  aliases : List (String × String) := []
  /-- The programs found on the search path, with where, in the order found. -/
  hashed : List (String × String) := []
  world : World
  deriving Inhabited

/-- How a shell stops before its script ends. -/
inductive Stop where
  /-- A shell error: the message is written and the status is 2. -/
  | error
  /-- The shell exits with its status. -/
  | exit
  /-- A signal killed the process. -/
  | killed (signal : Nat)
  /-- The evaluation steps ran out: the script runs for ever. -/
  | endless
  deriving Inhabited

abbrev Sh := EStateM Stop Shell

def assocSet {α : Type} (k : String) (v : α) : List (String × α) → List (String × α)
  | [] => [(k, v)]
  | (k', v') :: rest => if k' == k then (k, v) :: rest else (k', v') :: assocSet k v rest

def assocErase {α : Type} (k : String) (l : List (String × α)) : List (String × α) :=
  l.filter (·.1 != k)

def natSet {α : Type} (k : Nat) (v : α) : List (Nat × α) → List (Nat × α)
  | [] => [(k, v)]
  | (k', v') :: rest => if k' == k then (k, v) :: rest else (k', v') :: natSet k v rest

def modifyWorld (f : World → World) : Sh Unit := modify fun s => { s with world := f s.world }

def tick : Sh Unit := do
  let s ← get
  match s.world.steps with
  | 0 => throw .endless
  | n + 1 => set { s with world := { s.world with steps := n } }

def elapse (ns : Nat) : Sh Unit := modifyWorld fun w => { w with clock := w.clock + ns }

def freshId : Sh Nat := do
  let s ← get
  set { s with world := { s.world with nextId := s.world.nextId + 1 } }
  return s.world.nextId

def freshPid : Sh Nat := do
  let s ← get
  set { s with world := { s.world with nextPid := s.world.nextPid + 1 } }
  return s.world.nextPid

def openStream (text : String) : Sh Nat := do
  let id ← freshId
  modifyWorld fun w => { w with streams := natSet id text.toList w.streams }
  return id

def openBuffer : Sh Nat := do
  let id ← freshId
  modifyWorld fun w => { w with buffers := natSet id "" w.buffers }
  return id

def bufferText (id : Nat) : Sh String := do
  return (((← get).world.buffers.lookup id).getD "")

def portOf (fd : Nat) : Sh (Option Port) := do
  return (← get).fds.lookup fd

def writePort (p : Port) (text : String) : Sh Unit :=
  match p with
  | .stderr => modifyWorld fun w =>
      { w with stderr := text.toList.foldl (fun a c => a.push c.toNat.toUInt8) w.stderr }
  | .null | .full | .directory => pure ()
  | .file path => modifyWorld fun w =>
      { w with files := assocSet path (((w.files.lookup path).getD "") ++ text) w.files }
  | .buffer id => modifyWorld fun w =>
      { w with buffers := natSet id (((w.buffers.lookup id).getD "") ++ text) w.buffers }
  | .stream _ => pure ()

def writeFd (fd : Nat) (text : String) : Sh Bool := do
  match ← portOf fd with
  | some (.stream _) | some .full | some .directory | none => return false
  | some p =>
    writePort p text
    return true

/-- Writes a message to standard error, prefixed with the shell's name, the line and the
built-in command running. -/
def warn (msg : String) : Sh Unit := do
  let s ← get
  let cmd := match s.commandName with
    | some c => c ++ ": "
    | none => ""
  let _ ← writeFd 2 (s.arg0 ++ ": " ++ toString s.line ++ ": " ++ cmd ++ msg ++ "\n")

def fail {α : Type} (msg : String) : Sh α := do
  warn msg
  modify fun s => { s with status := 2 }
  throw .error

def setStatus (n : Nat) : Sh Unit := modify fun s => { s with status := n }

def findVar (name : String) : Sh (Option Var) := do
  return (← get).vars.lookup name

def varValue (name : String) : Sh (Option String) := do
  return ((← findVar name).bind (·.value))

/-- Assigns a variable, unless it is read-only; exported when `-a` is on. Assigning `OPTIND`
starts `getopts` again, and assigning `PATH` forgets where programs were found. -/
def assign (name value : String) : Sh Unit := do
  if name == "OPTIND" then
    modify fun s => { s with optIndex := max 1 (value.toNat?.getD 1), optOffset := none }
  if name == "PATH" then modify fun s => { s with hashed := [] }
  let s ← get
  match s.vars.lookup name with
  | some v =>
    if v.readonly then fail (name ++ ": is read only")
    let v' : Var := { v with value := some value, exported := v.exported || s.opts.allexport }
    set { s with vars := assocSet name v' s.vars }
  | none => set { s with vars := assocSet name { value := some value, exported := s.opts.allexport } s.vars }

def ifsChars : Sh (List Char) := do
  match ← varValue "IFS" with
  | some v => return v.toList
  | none => return [' ', '\t', '\n']

def signalCount : Nat := 65

def signalNames : List (Nat × String) :=
  [(1, "HUP"), (2, "INT"), (3, "QUIT"), (4, "ILL"), (5, "TRAP"), (6, "ABRT"), (7, "BUS"),
   (8, "FPE"), (9, "KILL"), (10, "USR1"), (11, "SEGV"), (12, "USR2"), (13, "PIPE"), (14, "ALRM"),
   (15, "TERM"), (17, "CHLD"), (18, "CONT"), (19, "STOP"), (20, "TSTP"),
   (21, "TTIN"), (22, "TTOU"), (23, "URG"), (24, "XCPU"), (25, "XFSZ"), (26, "VTALRM"),
   (27, "PROF"), (28, "WINCH"), (29, "IO"), (30, "PWR"), (31, "SYS")]

/-- The name the shell shows for a signal: `EXIT` for 0, the real-time signals counted up from
`RTMIN` or down from `RTMAX`, and the number of any other without a name. -/
def signalName (n : Nat) : String :=
  if n == 0 then "EXIT"
  else match signalNames.lookup n with
    | some name => name
    | none =>
      if n == 34 then "RTMIN"
      else if 34 < n && n < 50 then "RTMIN+" ++ toString (n - 34)
      else if 50 ≤ n && n < 64 then "RTMAX-" ++ toString (64 - n)
      else if n == 64 then "RTMAX"
      else toString n

def signalText (n : Nat) : String :=
  match n with
  | 1 => "Hangup" | 2 => "Interrupt" | 3 => "Quit" | 4 => "Illegal instruction"
  | 5 => "Trace/breakpoint trap" | 6 => "Aborted" | 7 => "Bus error"
  | 8 => "Floating point exception" | 9 => "Killed" | 10 => "User defined signal 1"
  | 11 => "Segmentation fault" | 12 => "User defined signal 2" | 13 => "Broken pipe"
  | 14 => "Alarm clock" | 15 => "Terminated" | 16 => "Stack fault" | 17 => "Child exited"
  | 18 => "Continued" | 19 => "Stopped (signal)" | 20 => "Stopped" | 21 => "Stopped (tty input)"
  | 22 => "Stopped (tty output)" | 23 => "Urgent I/O condition" | 24 => "CPU time limit exceeded"
  | 25 => "File size limit exceeded" | 26 => "Virtual timer expired"
  | 27 => "Profiling timer expired" | 28 => "Window changed" | 29 => "I/O possible"
  | 30 => "Power failure" | 31 => "Bad system call"
  | n => "Unknown signal " ++ toString n

def ignoredByDefault (n : Nat) : Bool := n == 17 || n == 18 || n == 23 || n == 28

/-- The signal a word names, from `least` on: a number below `signalCount`, or the name of
one in any case. -/
def decodeSignal (s : String) (least : Nat) : Option Nat :=
  if !s.isEmpty && s.all Char.isDigit then
    let n := s.toNat!
    if n < signalCount then some n else none
  else
    let up := s.map Char.toUpper
    ((List.range signalCount).filter (least ≤ ·)).find? fun n => signalName n == up

def stopsByDefault (n : Nat) : Bool := n == 19 || n == 20 || n == 21 || n == 22

/-- Delivers a signal to this process: a trapped one waits for its action, an ignored one is
dropped, a stopping one stops it for good, and any other kills it. `KILL` and `STOP` cannot be
trapped or ignored. -/
def deliverSignal (n : Nat) : Sh Unit := do
  let s ← get
  let untrapped : Sh Unit :=
    if stopsByDefault n then throw .endless
    else if ignoredByDefault n then pure ()
    else throw (.killed n)
  if n == 9 || n == 19 then untrapped
  else match s.traps.lookup n with
    | some "" => pure ()
    | some _ => set { s with pending := s.pending ++ [n] }
    | none => untrapped

def takeSignals : Sh Unit := do
  let s ← get
  let mine := s.world.signals.filter (·.1 == s.procPid)
  if mine.isEmpty then return
  set { s with world := { s.world with signals := s.world.signals.filter (·.1 != s.procPid) } }
  for (_, n) in mine do deliverSignal n

def emitOut (text : String) : Sh Unit := modify fun s => { s with out1 := s.out1 ++ text }

def attempt {α : Type} (x : Sh α) : Sh (Except Stop α) :=
  tryCatch (do let a ← x; pure (.ok a)) fun e => pure (.error e)

end Shell

end TestConductor
