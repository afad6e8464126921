import TestConductor.Shell.Parse
import TestConductor.Shell.Builtins
import TestConductor.Shell.Utilities
/-! # Running shell scripts

The evaluation of commands, and the expansion of the words in them, as one recursion over an
explicit depth bound: a command runs expansions, and a command substitution runs commands.
-/
namespace TestConductor

namespace Shell

/-- How a command is evaluated: as a test, where `-e` does not apply, and as the last command
of its process. -/
structure Flags where
  tested : Bool := false
  last : Bool := false

/-- How a process ended. -/
inductive Ending where
  | exited (status : Nat)
  | signaled (signal : Nat)
  deriving Inhabited

def Ending.status : Ending → Nat
  | .exited n => n
  | .signaled n => 128 + n

/-- What a loop does after a command of it: go on, start its next round, or stop. -/
inductive LoopStep where
  | go
  | next
  | stop
  deriving DecidableEq

def skipLoop : Sh LoopStep := do
  let s ← get
  match s.skip with
  | .none => return .go
  | .breaking n =>
    set { s with skip := if n ≤ 1 then .none else .breaking (n - 1) }
    return .stop
  | .continuing n =>
    if n ≤ 1 then
      set { s with skip := .none }
      return .next
    else
      set { s with skip := .continuing (n - 1) }
      return .stop
  | .returning => return .stop

def functionDepthBound : Nat := 1000

def loopBound : Nat := 100000000

/-- A child process of a shell: the same variables, functions and descriptors, traps reset
but for ignored signals, and no jobs of its own. -/
def Shell.child (s : Shell) (pid : Nat) : Shell :=
  let kept := s.traps.filter (·.2 == "")
  { s with procPid := pid, traps := kept, pending := [], jobs := [], skip := .none, out1 := "" }

def reportEnding : Ending → Sh Unit
  | .signaled n =>
    if n != 2 && n != 13 then do
      let _ ← writeFd 2 (signalText n ++ "\n")
    else pure ()
  | .exited _ => pure ()

def paramValue (name : String) : Sh (Option String) := do
  let s ← get
  match name.toList with
  | [] => return none
  | c :: _ =>
    if c.isDigit then
      let n := name.toNat!
      if n == 0 then return some s.arg0 else return s.params[n - 1]?
    else match name with
      | "#" => return some (toString s.params.length)
      | "?" => return some (toString s.status)
      | "$" => return some (toString s.rootPid)
      | "!" => return s.lastBg.map toString
      | "-" => return some s.opts.letters
      | "@" | "*" => return if s.params.isEmpty then none else some (" ".intercalate s.params)
      | _ => varValue name

/-- The elements of an expansion's text: quoted, after a quote mark, inside double quotes; else
in a region of its own. -/
def valueElems (text : String) (inQuotes : Bool) : Sh (List Elem) := do
  if inQuotes then return .mark :: elemsOf text true none
  else
    let r ← freshId
    return .span r false :: elemsOf text false (some r)

/-- The separator that joins the parameters for `$*`: the first character of `IFS`, a blank when
it is unset, nothing when it is empty. -/
def starSeparator : Sh String := do
  match ← varValue "IFS" with
  | some v => return String.ofList (v.toList.take 1)
  | none => return " "

/-- The elements of `$@` and `$*`: inside double quotes in a field context, `$@` gives each
parameter as a field of its own. Unquoted in a field context, the parameters are joined by the
first character of `IFS`, or by a field break when `IFS` is empty. -/
def allParamsElems (name : String) (inQuotes fields : Bool) : Sh (List Elem) := do
  let ps := (← get).params
  if inQuotes && name == "@" && fields then
    if ps.isEmpty then return []
    let r ← freshId
    let parts := ps.map fun p => elemsOf p true none
    return .span r true :: (parts.intersperse [.brk]).flatten
  else
    let sep ← starSeparator
    let sep := if sep.isEmpty && fields && !inQuotes then String.singleton fieldBreak else sep
    valueElems (sep.intercalate ps) inQuotes

/-- A word with a leading tilde replaced by the home directory it names: `HOME` for `~` alone,
the user's for `~user`. -/
def tildeWord (w : Word) (inAssignment : Bool) : Sh Word := do
  match w with
  | .plain s :: rest =>
    match s.toList with
    | '~' :: cs =>
      let name := cs.takeWhile fun c => c != '/' && (!inAssignment || c != ':')
      let after := cs.drop name.length
      if after.isEmpty && !rest.isEmpty then return w
      let home ← if name.isEmpty then do
          match ← varValue "HOME" with
          | some h => pure (if h.isEmpty then none else some h)
          | none => pure none
        else pure (homeDirectories.lookup (String.ofList name))
      match home with
      | some h => return .quoted h :: (if after.isEmpty then rest else .plain (String.ofList after) :: rest)
      | none => return w
    | _ => return w
  | _ => return w

def arithVars : Sh ArithVars := do
  let s ← get
  return ⟨fun n => (s.vars.lookup n).bind (·.value), fun n => ((s.vars.lookup n).map (·.readonly)).getD false⟩

def pushTemporary (vals : List (String × String)) : Sh (List (String × Option Var)) := do
  let mut saved := []
  for (n, v) in vals do
    let old := (← get).vars.lookup n
    assign n v
    let s ← get
    match s.vars.lookup n with
    | some var => set { s with vars := assocSet n { var with exported := true } s.vars }
    | none => pure ()
    if !(saved.any (·.1 == n)) then saved := saved ++ [(n, old)]
  return saved

def restoreVars (saved : List (String × Option Var)) : Sh Unit :=
  modify fun s => { s with vars := saved.foldl (fun vs (n, old) => match old with
    | some v => assocSet n v vs
    | none => assocErase n vs) s.vars }

def exportedEnv : Sh (List (String × String)) := do
  return (← get).vars.filterMap fun (k, v) =>
    if v.exported then v.value.map (k, ·) else none

def openFile (fd : Nat) (mode : String) (name : String) : Sh Unit := do
  let s ← get
  let p := absolutePath s.cwd name
  let setFd (port : Port) : Sh Unit := modify fun s => { s with fds := natSet fd port s.fds }
  let kind := s.fileKind name
  if mode == "<" then
    if p == "/dev/stdin" then
      match s.fds.lookup 0 with
      | some port => setFd port
      | none => fail ("cannot open " ++ name ++ ": No such file")
    else match kind with
      | some .directory => setFd .directory
      | some .charDevice => setFd (.stream (← openStream ""))
      | some (.regular _ _) => setFd (.stream (← openStream ((s.world.files.lookup p).getD "")))
      | none => fail ("cannot open " ++ name ++ ": No such file")
  else
    if p == "/dev/stderr" || p == "/dev/stdout" then
      match s.fds.lookup (if p == "/dev/stderr" then 2 else 1) with
      | some port => setFd port
      | none => fail ("cannot create " ++ name ++ ": Bad file descriptor")
    else if kind == some .charDevice then setFd (if p == "/dev/full" then .full else .null)
    else if kind == some .directory then fail ("cannot create " ++ name ++ ": Is a directory")
    else if s.fileKind (parentOf p) != some .directory then
      fail ("cannot create " ++ name ++ ": Directory nonexistent")
    else if mode == ">" && s.opts.noclobber && kind.isSome then
      fail ("cannot create " ++ name ++ ": File exists")
    else
      let old := (s.world.files.lookup p).getD ""
      let contents := if mode == ">" || mode == ">|" then "" else old
      modifyWorld fun w => { w with files := assocSet p contents w.files }
      if mode == "<>" then setFd (.stream (← openStream contents)) else setFd (.file p)

def dupFd (fd n : Nat) : Sh Unit := do
  if fd == n then return
  match ← portOf n with
  | some p => modify fun s => { s with fds := natSet fd p s.fds }
  | none => fail (toString n ++ ": Bad file descriptor")

/-- Runs a computation as a child process: a copy of the shell with its own process state that
shares the world. Gives how the child ended, or none when it runs for ever. -/
def inChild (child : Shell) (body : Sh Ending) : Sh (Option Ending) := do
  let parent ← get
  let pid := child.procPid
  let child := { child with world := { child.world with live := pid :: child.world.live } }
  let back (s : Shell) : Shell := { parent with world := { s.world with live := s.world.live.erase pid } }
  match body.run child with
  | .ok e s =>
    set (back s)
    return some e
  | .error .endless s =>
    set (back s)
    return none
  | .error (.killed n) s =>
    set (back s)
    return some (.signaled n)
  | .error _ s =>
    set (back s)
    return some (.exited s.status)

def Shell.inputOf (s : Shell) (path : String) : Input :=
  match s.fileKind path with
  | some .directory => .directory
  | some .charDevice => if absolutePath s.cwd path == "/dev/zero" then .zeros else .text ""
  | some (.regular _ _) => .text ((s.world.files.lookup (absolutePath s.cwd path)).getD "")
  | none => .missing

def stdinInput : Sh Input := do
  match ← portOf 0 with
  | some .directory => return .directory
  | some (.stream _) => return .text (← readAllFd 0)
  | _ => return .text ""

def pipeCapacity : Nat := 65536

/-- Writes for ever: into a pipe, until its reader is gone, which kills the writer with
`PIPE`; anywhere else, without end. -/
def writeForever (text : String) : Sh Ending := do
  match ← portOf 1 with
  | some (.buffer _) =>
    let reps := pipeCapacity / (max 1 text.length) + 1
    let _ ← writeFd 1 (String.join (List.replicate reps text))
    return .signaled 13
  | _ => throw .endless

def finishRan (r : Ran) : Sh Ending := do
  if r.endless then throw .endless
  if !r.out.isEmpty then
    match ← portOf 1 with
    | some .full =>
      let _ ← writeFd 2 (r.err ++ "write error: No space left on device\n")
      return .exited 1
    | _ => let _ ← writeFd 1 r.out
  if !r.err.isEmpty then
    let _ ← writeFd 2 r.err
  return .exited r.status

def machinePrograms : List String :=
  ["sh", "dash", "sleep", "true", "false", "cat", "echo", "head", "tail", "wc", "seq", "tr", "yes",
   "basename", "dirname", "whoami", "id", "uname", "expr", "printenv", "env", "ls", "touch", "rm",
   "mkdir", "python3"]

/-- Whether a trap with an action is set; then the last command of a process does not run in
place of it, so that the traps still run. -/
def hasTraps : Sh Bool := do
  return (← get).traps.any fun (_, a) => !a.isEmpty

def defaultPath : String := "/usr/local/sbin:/usr/local/bin:/usr/sbin:/usr/bin:/sbin:/bin"

/-- A shell started as process `pid`, child of `ppid`, with an environment and descriptors: the
environment's variables exported, and the shell's own variables set when the environment does
not set them. -/
def Shell.start (host : Host) (env : List (String × String)) (cwd : String) (pid ppid : Nat)
    (world : World) (arg0 : String) (fds : List (Nat × Port)) : Shell :=
  let vars := env.foldl (fun vs (k, v) => assocSet k { value := some v, exported := true } vs) []
  let dflt (k v : String) (vs : List (String × Var)) : List (String × Var) :=
    if (vs.lookup k).isSome then vs else assocSet k { value := some v } vs
  let vars := dflt "PATH" defaultPath (dflt "PS1" "$ " (dflt "PS2" "> " (dflt "PS4" "+ " vars)))
  let keep (k v : String) (vs : List (String × Var)) : List (String × Var) :=
    match vs.lookup k with
    | some var => assocSet k { var with value := some v } vs
    | none => assocSet k { value := some v } vs
  let vars := keep "IFS" " \t\n" (keep "OPTIND" "1" (keep "PPID" (toString ppid) vars))
  let vars := assocSet "PWD" { value := some cwd, exported := true } vars
  { host := host, vars := vars, params := [], arg0 := arg0, cwd := cwd, fds := fds,
    rootPid := pid, procPid := pid, world := world, line := 0 }

mutual

def evalTree : Nat → Cmd → Flags → Sh Unit
  | 0, _, _ => throw (.killed 11)
  | fuel + 1, c, fl => do
    tick
    if (← get).opts.noexec then return
    runTraps fuel
    let checkExit ← match c with
      | .nothing => pure false
      | .negate c' => do
        evalTree fuel c' { tested := true }
        setStatus (if (← get).status == 0 then 1 else 0)
        pure false
      | .andThen a b => do
        evalTree fuel a { tested := true }
        let s ← get
        if s.status == 0 && s.skip == .none then evalTree fuel b fl
        pure false
      | .orElse a b => do
        evalTree fuel a { tested := true }
        let s ← get
        if s.status != 0 && s.skip == .none then evalTree fuel b fl
        pure false
      | .seq a b => do
        evalTree fuel a { tested := fl.tested }
        if (← get).skip == .none then evalTree fuel b fl
        pure false
      | .ifThen t y n => do
        evalTree fuel t { tested := true }
        let s ← get
        if s.skip == .none then
          if s.status == 0 then evalTree fuel y fl
          else match n with
            | some e => evalTree fuel e fl
            | none => setStatus 0
        pure false
      | .simple line as ws rs => do
        evalSimple fuel line as ws rs fl
        pure true
      | .pipeline cs => do
        evalPipeline fuel cs
        pure true
      | .subshell line body rs => do
        modify fun s => { s with line := line }
        if fl.last && !(← hasTraps) then
          applyRedirs fuel rs
          evalTree fuel body { last := true }
        else
          let pid ← freshPid
          let child := (← get).child pid
          let e ← inChild child (do
            let r ← attempt (do
              applyRedirs fuel rs
              evalTree fuel body { last := true })
            finishProcess fuel r)
          match e with
          | some e =>
            reapJobs
            reportEnding e
            setStatus e.status
            takeSignals
          | none => throw .endless
        pure true
      | .background c' => do
        runBackground fuel c'
        pure true
      | .redirected line body rs => do
        modify fun s => { s with line := line }
        let saved := (← get).fds
        match ← attempt (applyRedirs fuel rs) with
        | .error .error =>
          modify fun s => { s with fds := saved }
          pure false
        | .error e =>
          modify fun s => { s with fds := saved }
          throw e
        | .ok () =>
          let r ← attempt (evalTree fuel body { tested := fl.tested })
          modify fun s => { s with fds := saved }
          match r with
          | .error e => throw e
          | .ok () => pure true
      | .loop isUntil t b => do
        evalLoop fuel isUntil t b fl
        pure true
      | .forIn line name items body => do
        evalFor fuel line name items body fl
        pure true
      | .caseOf line subject arms => do
        evalCase fuel line subject arms fl
        pure true
      | .defun _ name _ => do
        modify fun s => { s with funcs := assocSet name c s.funcs }
        setStatus 0
        pure false
    runTraps fuel
    let s ← get
    if checkExit && !fl.tested && s.opts.errexit && s.status != 0 then throw .exit
    if fl.last then throw .exit

def runTraps : Nat → Sh Unit
  | 0 => pure ()
  | fuel + 1 => do
    let s ← get
    if s.pending.isEmpty then return
    let saved := s.status
    set { s with pending := [] }
    let mut left := s.pending
    for n in s.pending do
      left := left.drop 1
      if (← get).skip != .none then
        modify fun s => { s with pending := (n :: left) ++ s.pending }
        break
      match (← get).traps.lookup n with
      | some action =>
        if !action.isEmpty then
          let _ ← evalString fuel action {}
          if (← get).skip != .returning then setStatus saved
      | none => pure ()

def exitTrap : Nat → Sh Unit
  | 0 => pure ()
  | fuel + 1 => do
    let s ← get
    match s.traps.lookup 0 with
    | some action =>
      set { s with traps := s.traps.filter (·.1 != 0), skip := .none }
      if !action.isEmpty then
        let saved := s.status
        match ← attempt (evalString fuel action {}) with
        | .ok _ => setStatus saved
        | .error .exit => pure ()
        | .error .error => pure ()
        | .error e => throw e
    | none => pure ()

/-- Ends a process: runs its exit trap unless a signal killed it, shows what its background jobs
wrote, and tells how it ended. -/
def finishProcess : Nat → Except Stop Unit → Sh Ending
  | 0, _ => pure (.signaled 11)
  | fuel + 1, r => do
    match r with
    | .error (.killed n) =>
      releaseJobs none
      return .signaled n
    | .error .endless => throw .endless
    | _ =>
      match ← attempt (exitTrap fuel) with
      | .error (.killed n) => return .signaled n
      | .error .endless => throw .endless
      | _ =>
        releaseJobs none
        return .exited ((← get).status % 256)

def evalString : Nat → String → Flags → Sh Bool
  | 0, _, _ => throw (.killed 11)
  | fuel + 1, text, fl => do
    let mut reader := Reader.start text (← get).world.nextId
    let mut ran := false
    for _ in [0:text.length + 2] do
      reader := { reader with nextDoc := (← get).world.nextId }
      match readCommand reader with
      | .error e =>
        modify fun s => { s with line := e.line }
        fail ("Syntax error: " ++ e.message)
      | .ok (item, r) =>
        modifyWorld fun w => { w with nextId := max w.nextId r.nextDoc }
        modify fun s => { s with docs := s.docs ++ r.docs }
        reader := { r with docs := [] }
        match item with
        | .eof => break
        | .empty => pure ()
        | .cmd c =>
          ran := true
          let atEnd := r.back matches some .eof
          evalTree fuel c { tested := fl.tested, last := fl.last && atEnd }
          if (← get).skip != .none then break
    return ran

def evalSimple : Nat → Nat → List (String × Word) → List Word → List Redir → Flags → Sh Unit
  | 0, _, _, _, _, _ => throw (.killed 11)
  | fuel + 1, line, assigns, words, redirs, fl => do
    modify fun s => { s with line := line, substStatus := 0 }
    let args ← expandFields fuel words
    let saved := (← get).fds
    let errPort := saved.lookup 2
    let redirFailed ← match ← attempt (applyRedirs fuel redirs) with
      | .ok () => pure false
      | .error .error => pure true
      | .error e =>
        modify fun s => { s with fds := saved }
        throw e
    let r ← attempt (do
      let mut vals := []
      for (n, w) in assigns do
        let w ← tildeWord w true
        let v ← expandText fuel w
        vals := vals ++ [(n, v)]
        if args.isEmpty && !redirFailed then assign n v
      let s ← get
      if s.opts.xtrace then
        let ps4 ← match promptWord ((← varValue "PS4").getD "") with
          | .ok w => expandText fuel w
          | .error _ => pure ((← varValue "PS4").getD "")
        let items := vals.map (fun (n, v) => n ++ "=" ++ v) ++ args
        match errPort with
        | some p => writePort p (ps4 ++ " ".intercalate items ++ "\n")
        | none => pure ()
      match args with
      | [] =>
        let sub := (← get).substStatus
        setStatus (if redirFailed then 2 else sub)
      | name :: rest =>
        let s ← get
        let special := builtins.lookup name == some true
        if redirFailed then
          setStatus 2
          if special then throw .error
        else if name.contains '/' then
          let saved ← pushTemporary vals
          let r ← attempt (runExternal fuel name name rest fl)
          restoreVars saved
          match r with
          | .error e => throw e
          | .ok () => pure ()
        else match s.funcs.lookup name with
          | some f =>
            let saved ← pushTemporary vals
            let r ← attempt (callFunction fuel f rest fl)
            restoreVars saved
            match r with
            | .error e => throw e
            | .ok () => pure ()
          | none =>
            if (builtins.lookup name).isSome then
              if special then
                for (n, v) in vals do assign n v
                runBuiltin fuel name rest fl true
              else
                let saved ← pushTemporary vals
                let r ← attempt (runBuiltin fuel name rest fl false)
                restoreVars saved
                match r with
                | .error e => throw e
                | .ok () => pure ()
            else
              match ← locateProgram name with
              | some path =>
                let saved ← pushTemporary vals
                let r ← attempt (runExternal fuel path name rest fl)
                restoreVars saved
                match r with
                | .error e => throw e
                | .ok () => pure ()
              | none =>
                warn (name ++ ": not found")
                setStatus 127)
    let keep := args.head? == some "exec" && args.length == 1
    if !keep then modify fun s => { s with fds := saved }
    match r with
    | .error e => throw e
    | .ok () => pure ()

/-- Runs a built-in command with the shell's standard-output buffer, written out when it ends;
an error in a built-in that is not special only sets the status. -/
def runBuiltin : Nat → String → List String → Flags → Bool → Sh Unit
  | 0, _, _, _, _ => throw (.killed 11)
  | fuel + 1, name, args, fl, special => do
    let before := (← get).commandName
    modify fun s => { s with commandName := some name, out1 := "" }
    let r ← attempt (builtinBody fuel name args fl)
    let out := (← get).out1
    modify fun s => { s with out1 := "" }
    let mut ioError := false
    if !out.isEmpty then
      if !(← writeFd 1 out) then
        warn (name ++ ": I/O error")
        ioError := true
    modify fun s => { s with commandName := before }
    match r with
    | .ok st => setStatus (if ioError then 1 else st)
    | .error .error => if special then throw .error else pure ()
    | .error e => throw e

def builtinBody : Nat → String → List String → Flags → Sh Nat
  | 0, _, _, _ => throw (.killed 11)
  | fuel + 1, name, args, fl => do
    match name with
    | "echo" => echoBuiltin args
    | "printf" => printfBuiltin args
    | "test" => testBuiltin false args
    | "[" => testBuiltin true args
    | ":" | "true" => pure 0
    | "false" => pure 1
    | "pwd" => pwdBuiltin args
    | "cd" | "chdir" => cdBuiltin args
    | "exit" => exitBuiltin args
    | "return" => returnBuiltin args
    | "break" => loopBuiltin true args
    | "continue" => loopBuiltin false args
    | "shift" => shiftBuiltin args
    | "set" => setBuiltin args
    | "unset" => unsetBuiltin args
    | "export" => attributeBuiltin true args
    | "readonly" => attributeBuiltin false args
    | "local" => localBuiltin args
    | "read" => readBuiltin args
    | "trap" => trapBuiltin args
    | "type" => typeBuiltin args
    | "kill" => killBuiltin args
    | "wait" => waitBuiltin args
    | "times" =>
      emitOut "0m0.000000s 0m0.000000s\n0m0.000000s 0m0.000000s\n"
      pure 0
    | "umask" => umaskBuiltin args
    | "getopts" => getoptsBuiltin args
    | "alias" => aliasBuiltin args
    | "unalias" => unaliasBuiltin args
    | "ulimit" =>
      emitOut "unlimited\n"
      pure 0
    | "eval" =>
      if args.isEmpty then return 0
      let ran ← evalString fuel (" ".intercalate args) { tested := fl.tested }
      let st := (← get).status
      return if ran then st else 0
    | "." =>
      match args with
      | [] => pure (0 : Nat)
      | file :: _ =>
        let s ← get
        let isFile (p : String) : Bool := s.fileKind p matches some (.regular _ _)
        let path ← if file.contains '/' then pure (some file) else do
          let dirs ← searchDirs
          pure ((dirs.map fun d => if d.isEmpty then file else d ++ "/" ++ file).find? isFile)
        match path with
        | some p =>
          let text := match s.fileKind p with
            | some .directory | some .charDevice => some ""
            | _ => s.world.files.lookup (absolutePath s.cwd p)
          match text with
          | some text =>
            let before := s.commandName
            modify fun s => { s with commandName := some p }
            let r ← attempt (evalString fuel text {})
            modify fun s => { s with commandName := before }
            match r with
            | .ok ran =>
              let st := (← get).status
              return if ran then st else 0
            | .error e => throw e
          | none => fail ("cannot open " ++ file ++ ": No such file")
        | none => fail (file ++ ": not found")
    | "exec" =>
      match args with
      | [] => pure 0
      | prog :: rest =>
        let path ← if prog.contains '/' then pure (some prog) else locateProgram prog
        match path with
        | some p =>
          let env ← exportedEnv
          modify fun s => { s with traps := [] }
          match ← runProgram fuel p prog rest env (← get).procPid with
          | .exited n =>
            setStatus n
            throw .exit
          | .signaled n => throw (.killed n)
        | none =>
          warn (prog ++ ": not found")
          setStatus 127
          throw .exit
    | "command" =>
      let (opts, rest) ← options "pvV" "" args
      let describe := opts.any fun (c, _) => c == 'v' || c == 'V'
      if describe then
        let verbose := opts.any (·.1 == 'V')
        match rest with
        | [] => pure 0
        | n :: _ =>
          if verbose then typeBuiltin [n]
          else
            let s ← get
            if reservedWords.contains n || (s.funcs.lookup n).isSome || (builtins.lookup n).isSome then
              emitOut (n ++ "\n")
              pure 0
            else
              let found ← if n.contains '/' then pure (some n) else match s.hashed.lookup n with
                | some p => pure (some p)
                | none => findProgram n
              match found with
              | some p =>
                if s.host.programs.contains (absolutePath s.cwd p) then
                  emitOut (p ++ "\n")
                  pure 0
                else pure 127
              | none => pure 127
      else match rest with
        | [] => pure 0
        | n :: more =>
          if (builtins.lookup n).isSome then
            let out := (← get).out1
            let before := (← get).commandName
            runBuiltin fuel n more fl false
            modify fun s => { s with out1 := out, commandName := before }
            pure (← get).status
          else
            match ← (if n.contains '/' then pure (some n) else locateProgram n) with
            | some p =>
              runExternal fuel p n more fl
              pure (← get).status
            | none =>
              let before := (← get).commandName
              modify fun s => { s with commandName := none }
              warn (n ++ ": not found")
              modify fun s => { s with commandName := before }
              pure 127
    | "hash" => hashBuiltin args
    | _ => pure 0

def callFunction : Nat → Cmd → List String → Flags → Sh Unit
  | 0, _, _, _ => throw (.killed 11)
  | fuel + 1, defn, args, fl => do
    let (line, body) := match defn with
      | .defun l _ b => (l, b)
      | c => (0, c)
    let s ← get
    if s.funcNest ≥ functionDepthBound then
      fail ("Maximum function recursion depth (" ++ toString functionDepthBound ++ ") reached")
    let saved := (s.params, s.funcLine, s.loopNest)
    let savedOpt := (s.optIndex, s.optOffset)
    let entered := { s with params := args, funcLine := line, loopNest := 0, optIndex := 1, optOffset := none }
    set { entered with funcNest := s.funcNest + 1, locals := [] :: s.locals }
    let r ← attempt (evalTree fuel body { tested := fl.tested })
    let s ← get
    let frame := s.locals.headD []
    let vars := frame.foldl (fun vs (n, old) => if n == "-" then vs else match old with
      | some v => assocSet n v vs
      | none => assocErase n vs) s.vars
    let opts := match frame.lookup "-" with
      | some (some saved) => Options.ofLetters (saved.value.getD "")
      | _ => s.opts
    let s := { s with opts := opts }
    let left := { s with params := saved.1, funcLine := saved.2.1, loopNest := saved.2.2, optIndex := savedOpt.1 }
    let left := { left with optOffset := savedOpt.2 }
    let skip := if s.skip == .returning then Skip.none else s.skip
    set { left with funcNest := s.funcNest - 1, locals := s.locals.drop 1, vars := vars, skip := skip }
    match r with
    | .error e => throw e
    | .ok () => pure ()

/-- Runs a program found at a path, in a child process unless it is the last command of this
one, in which case it ends this process as it ends. -/
def runExternal : Nat → String → String → List String → Flags → Sh Unit
  | 0, _, _, _, _ => throw (.killed 11)
  | fuel + 1, path, name, args, fl => do
    let s ← get
    let direct := fl.last && !(← hasTraps)
    let env ← exportedEnv
    let pid ← if direct then pure s.procPid else freshPid
    let e ← runProgram fuel path name args env pid
    if direct then
      match e with
      | .exited n =>
        setStatus n
        throw .exit
      | .signaled n => throw (.killed n)
    else
      reapJobs
      reportEnding e
      setStatus e.status
      takeSignals

/-- Runs a program with the shell's descriptors: the shell itself, or another program the machine
knows. -/
def runProgram : Nat → String → String → List String → List (String × String) → Nat → Sh Ending
  | 0, _, _, _, _, _ => throw (.killed 11)
  | fuel + 1, path, name, args, env, pid => do
    let prog := ((path.splitOn "/").getLast?).getD path
    match prog with
    | "sh" | "dash" =>
      let parent ← get
      let child := Shell.start parent.host env parent.cwd pid parent.procPid parent.world name parent.fds
      let e ← inChild child (do
        let r ← attempt (shellMain fuel name args)
        finishProcess fuel r)
      match e with
      | some e => return e
      | none => throw .endless
    | "sleep" =>
      match sleepTime args with
      | .ok (some ns) =>
        elapse ns
        releaseJobs (some (← get).world.clock)
        return .exited 0
      | .ok none => throw .endless
      | .error (st, msg) =>
        let _ ← writeFd 2 msg
        return .exited st
    | "true" => return .exited 0
    | "false" => return .exited 1
    | "cat" =>
      let files := args.filter (· != "--")
      let files := if files.isEmpty then ["-"] else files
      let mut st := 0
      for f in files do
        let s ← get
        let input ← if f == "-" then stdinInput else pure (s.inputOf f)
        let shown := if f == "-" then "-" else f
        match input with
        | .text text =>
          if !text.isEmpty then
            match ← portOf 1 with
            | some .full =>
              let _ ← writeFd 2 "cat: write error: No space left on device\n"
              return .exited 1
            | _ => let _ ← writeFd 1 text
        | .zeros => return (← writeForever (String.singleton (Char.ofNat 0)))
        | .directory =>
          let _ ← writeFd 2 ("cat: " ++ shown ++ ": Is a directory\n")
          st := 1
        | .missing =>
          let _ ← writeFd 2 ("cat: " ++ shown ++ ": No such file or directory\n")
          st := 1
      return .exited st
    | "yes" => writeForever ((if args.isEmpty then "y" else " ".intercalate args) ++ "\n")
    | "head" | "tail" | "wc" | "seq" | "tr" | "basename" | "dirname" | "whoami" | "id" | "uname"
    | "expr" | "echo" =>
      let stdin ← if prog == "head" || prog == "tail" || prog == "wc" || prog == "tr" then stdinInput
        else pure (.text "")
      let s ← get
      finishRan (match prog with
        | "head" | "tail" => sliceRun prog args stdin s.inputOf
        | "wc" => wcRun args stdin s.inputOf
        | "seq" => seqRun args
        | "tr" => trRun args stdin
        | "basename" => basenameRun args
        | "dirname" => dirnameRun args
        | "whoami" => { out := "root\n" }
        | "id" => idRun args
        | "uname" => unameRun args
        | "echo" => echoRun args
        | _ => exprRun args)
    | "printenv" =>
      if args.isEmpty then
        let _ ← writeFd 1 (String.join (env.map fun (k, v) => k ++ "=" ++ v ++ "\n"))
        return .exited 0
      let mut st := 0
      for a in args do
        match env.lookup a with
        | some v => let _ ← writeFd 1 (v ++ "\n")
        | none => st := 1
      return .exited st
    | "env" =>
      let (clear, rest) := match args with
        | "-i" :: more => (true, more)
        | "-" :: more => (true, more)
        | "--" :: more => (false, more)
        | more => (false, more)
      let sets := rest.takeWhile fun a => a.contains '='
      let rest := rest.drop sets.length
      let env := sets.foldl (fun e a =>
        let k := String.ofList (a.toList.takeWhile (· != '='))
        assocSet k (String.ofList (a.toList.drop (k.length + 1))) e) (if clear then [] else env)
      match rest with
      | [] =>
        let _ ← writeFd 1 (String.join (env.map fun (k, v) => k ++ "=" ++ v ++ "\n"))
        return .exited 0
      | cmd :: cargs =>
        let s ← get
        let dirs := ((env.lookup "PATH").getD "/bin:/usr/bin").splitOn ":"
        let found := if cmd.contains '/' then
            (if s.host.programs.contains (absolutePath s.cwd cmd) then some cmd else none)
          else (dirs.map fun d => if d.isEmpty then cmd else d ++ "/" ++ cmd).find? fun p =>
            s.host.programs.contains (absolutePath s.cwd p)
        match found with
        | some p => runProgram fuel p cmd cargs env pid
        | none =>
          let _ ← writeFd 2 ("env: '" ++ cmd ++ "': No such file or directory\n")
          return .exited 127
    | "ls" =>
      let (opts, names) := args.partition fun a => a.startsWith "-" && a.length > 1
      let all := opts.any fun o => o.contains 'a'
      let asFiles := opts.any fun o => o.contains 'd'
      let names := if names.isEmpty then ["."] else names
      let s ← get
      let mut st := 0
      let mut shown : List String := []
      let mut dirs : List String := []
      for n in names do
        match s.fileKind n with
        | none =>
          let _ ← writeFd 2 ("ls: cannot access '" ++ n ++ "': No such file or directory\n")
          st := 2
        | some .directory => if asFiles then shown := shown ++ [n] else dirs := dirs ++ [n]
        | some _ => shown := shown ++ [n]
      let order (xs : List String) : List String := xs.mergeSort fun a b => compare a b != .gt
      let mut out := String.join ((order shown).map (· ++ "\n"))
      let many := names.length > 1
      let mut first := shown.isEmpty
      for d in order dirs do
        let entries := entriesOf s.allPaths (absolutePath s.cwd d)
        let entries := if all then "." :: ".." :: entries else entries.filter (!·.startsWith ".")
        out := out ++ (if first then "" else "\n") ++ (if many then d ++ ":\n" else "") ++
          String.join ((order entries).map (· ++ "\n"))
        first := false
      let _ ← writeFd 1 out
      return .exited st
    | "touch" =>
      let mut st := 0
      for f in args.filter (!·.startsWith "-") do
        let s ← get
        let p := absolutePath s.cwd f
        if (s.fileKind f).isNone then
          if s.fileKind (parentOf p) == some .directory then
            modifyWorld fun w => { w with files := assocSet p "" w.files }
          else
            let _ ← writeFd 2 ("touch: cannot touch '" ++ f ++ "': No such file or directory\n")
            st := 1
      return .exited st
    | "rm" =>
      let (opts, names) := args.partition fun a => a.startsWith "-" && a.length > 1
      let force := opts.any fun o => o.contains 'f'
      let recursive := opts.any fun o => o.contains 'r' || o.contains 'R'
      let mut st := 0
      for f in names do
        let s ← get
        let p := absolutePath s.cwd f
        match s.fileKind f with
        | none =>
          if !force then
            let _ ← writeFd 2 ("rm: cannot remove '" ++ f ++ "': No such file or directory\n")
            st := 1
        | some .directory =>
          if recursive then
            let pre := p ++ "/"
            let keep (q : String) : Bool := q != p && !q.startsWith pre
            modifyWorld fun w => { w with files := w.files.filter fun (q, _) => keep q }
            modifyWorld fun w => { w with directories := w.directories.filter keep }
          else
            let _ ← writeFd 2 ("rm: cannot remove '" ++ f ++ "': Is a directory\n")
            st := 1
        | some _ => modifyWorld fun w => { w with files := assocErase p w.files }
      return .exited st
    | "mkdir" =>
      let (opts, names) := args.partition fun a => a.startsWith "-" && a.length > 1
      let parents := opts.any fun o => o.contains 'p'
      let mut st := 0
      for d in names do
        let s ← get
        let p := absolutePath s.cwd d
        if (s.fileKind d).isSome then
          if !(parents && s.fileKind d == some .directory) then
            let _ ← writeFd 2 ("mkdir: cannot create directory '" ++ d ++ "': File exists\n")
            st := 1
        else if parents then
          let parts := (p.splitOn "/").filter (!·.isEmpty)
          let prefixes := (List.range parts.length).map fun k => "/" ++ "/".intercalate (parts.take (k + 1))
          let made (w : World) : List String :=
            prefixes.filter fun q => !w.directories.contains q && !s.host.directories.contains q
          modifyWorld fun w => { w with directories := w.directories ++ made w }
        else if s.fileKind (parentOf p) == some .directory then
          modifyWorld fun w => { w with directories := w.directories ++ [p] }
        else
          let _ ← writeFd 2 ("mkdir: cannot create directory '" ++ d ++ "': No such file or directory\n")
          st := 1
      return .exited st
    | _ => return .exited 0

/-- The life of a shell process from its command line: options, then a command string, a script
file, or standard input. -/
def shellMain : Nat → String → List String → Sh Unit
  | 0, _, _ => throw (.killed 11)
  | fuel + 1, _, args => do
    modify fun s => { s with line := 0 }
    let (opts, operands, hasC, listing) ← match setOptions {} true (args.length + 1) args false "" with
      | .ok r => pure r
      | .error e => fail e
    let _ ← writeFd 1 listing
    let opts ← if opts.get .monitor || opts.get .interactive then do
        warn "can't access tty; job control turned off"
        pure (opts.set .monitor false)
      else pure opts
    let operands := operands.getD []
    let fromStdin := opts.get .stdin || operands.isEmpty
    modify fun s => { s with opts := opts.set .stdin fromStdin }
    if hasC then
      match operands with
      | [] => fail "-c requires an argument"
      | script :: more =>
        match more with
        | a0 :: ps => modify fun s => { s with arg0 := a0, params := ps }
        | [] => pure ()
        let _ ← evalString fuel script {}
        if fromStdin then
          let text ← readAllFd 0
          let _ ← evalString fuel text {}
    else if fromStdin then
      modify fun s => { s with params := operands }
      let text ← readAllFd 0
      let _ ← evalString fuel text {}
    else
      match operands with
      | file :: ps =>
        let s ← get
        let text := match s.fileKind file with
          | some .directory | some .charDevice => some ""
          | _ => s.world.files.lookup (absolutePath s.cwd file)
        match text with
        | some text =>
          modify fun s => { s with arg0 := file, params := ps }
          let _ ← evalString fuel text {}
        | none => fail ("cannot open " ++ file ++ ": No such file")
      | [] => pure ()

/-- Runs a pipeline: each command in a child process, the output of each the input of the next;
the status is that of the last. -/
def evalPipeline : Nat → List Cmd → Sh Unit
  | 0, _ => throw (.killed 11)
  | fuel + 1, cmds => do
    let mut input : Option Nat := none
    let start := (← get).world.clock
    let mut ends : List (Ending × Nat × Nat) := []
    let n := cmds.length
    let mut i := 0
    for c in cmds do
      i := i + 1
      let out ← if i == n then pure none else some <$> openBuffer
      let pid ← freshPid
      modifyWorld fun w => { w with clock := start }
      let s ← get
      let fds := match input with
        | some id => natSet 0 (.stream id) s.fds
        | none => s.fds
      let fds := match out with
        | some b => natSet 1 (.buffer b) fds
        | none => fds
      let child := { s.child pid with fds := fds }
      let e ← inChild child (do
        let r ← attempt (evalTree fuel c { last := true })
        finishProcess fuel r)
      let w := (← get).world
      match e with
      | some e => ends := ends ++ [(e, w.clock, s.world.steps - w.steps)]
      | none => throw .endless
      match out with
      | some b =>
        let text ← bufferText b
        input := some (← openStream text)
      | none => pure ()
    let finish := ends.foldl (fun acc (_, t, _) => max acc t) start
    modifyWorld fun w => { w with clock := finish }
    let status := match ends.getLast? with
      | some (e, _, _) => e.status
      | none => 0
    let lastDone := ends.foldl (fun (best : Option (Ending × Nat × Nat)) x =>
      match best with
      | some b => if x.2.1 > b.2.1 || (x.2.1 == b.2.1 && x.2.2 ≥ b.2.2) then some x else some b
      | none => some x) none
    reapJobs
    match lastDone with
    | some (e, _, _) => reportEnding e
    | none => pure ()
    setStatus status
    takeSignals

/-- Starts a command in the background: it runs at once in a child process whose input is empty
and whose standard error is held back until the shell next waits or ends; the shell's clock
does not move. -/
def runBackground : Nat → Cmd → Sh Unit
  | 0, _ => throw (.killed 11)
  | fuel + 1, c => do
    let pid ← freshPid
    let buf ← openBuffer
    let empty ← openStream ""
    let s ← get
    let fds := natSet 0 (.stream empty) (s.fds.map fun (fd, p) => (fd, if p == .stderr then .buffer buf else p))
    let clock := s.world.clock
    let steps := s.world.steps
    let budget := min steps 100000
    let child := { s.child pid with fds := fds, world := { s.world with steps := budget } }
    let e ← inChild child (do
      let r ← attempt (evalTree fuel c { last := true })
      finishProcess fuel r)
    let w := (← get).world
    let (status, finish) := match e with
      | some e => (e.status, w.clock)
      | none => (0, Nat.pow 2 62)
    let signal := match e with
      | some (.signaled n) => some n
      | _ => none
    modify fun s => { s with
      world := { s.world with clock := clock, steps := steps - (budget - s.world.steps) },
      jobs := s.jobs ++ [{ pid := pid, status := status, finish := finish, buffer := some buf, signal := signal }],
      lastBg := some pid }
    setStatus 0

def evalLoop : Nat → Bool → Cmd → Cmd → Flags → Sh Unit
  | 0, _, _, _, _ => throw (.killed 11)
  | fuel + 1, isUntil, test, body, fl => do
    modify fun s => { s with loopNest := s.loopNest + 1 }
    let mut status := 0
    for _ in [0:loopBound] do
      evalTree fuel test { tested := true }
      let i := (← get).status
      let step ← skipLoop
      if step == .stop then
        if (← get).skip == .returning then status := i
        break
      if step == .next then continue
      if (if isUntil then i == 0 else i != 0) then break
      evalTree fuel body { tested := fl.tested }
      status := (← get).status
      if (← skipLoop) == .stop then break
    modify fun s => { s with loopNest := s.loopNest - 1 }
    setStatus status

def evalFor : Nat → Nat → String → List Word → Cmd → Flags → Sh Unit
  | 0, _, _, _, _, _ => throw (.killed 11)
  | fuel + 1, line, name, items, body, fl => do
    modify fun s => { s with line := line }
    let values ← expandFields fuel items
    modify fun s => { s with loopNest := s.loopNest + 1 }
    let mut status := 0
    for v in values do
      assign name v
      evalTree fuel body { tested := fl.tested }
      status := (← get).status
      if (← skipLoop) == .stop then break
    modify fun s => { s with loopNest := s.loopNest - 1 }
    setStatus status

def evalCase : Nat → Nat → Word → List CaseArm → Flags → Sh Unit
  | 0, _, _, _, _ => throw (.killed 11)
  | fuel + 1, line, subject, arms, fl => do
    modify fun s => { s with line := line }
    let text ← expandText fuel (← tildeWord subject false)
    let mut status := 0
    let mut found := false
    for arm in arms do
      if found || (← get).skip != .none then break
      match arm with
      | .arm pats body =>
        for pat in pats do
          if found then break
          let p ← expandPattern fuel pat
          if matchChars (p.length + 1) p text.toList then
            found := true
            if (← get).skip == .none then
              match body with
              | .nothing => pure ()
              | _ =>
                evalTree fuel body fl
                status := (← get).status
    setStatus status

def applyRedirs : Nat → List Redir → Sh Unit
  | 0, _ => throw (.killed 11)
  | fuel + 1, rs => do
    for r in rs do
      match r with
      | .file fd mode target =>
        let name ← expandText fuel (← tildeWord target false)
        openFile fd mode name
      | .dup fd src =>
        match src with
        | .fd n => dupFd fd n
        | .close => modify fun s => { s with fds := s.fds.filter (·.1 != fd) }
        | .word w =>
          let text ← expandText fuel w
          match text.toList with
          | [d] =>
            if d.isDigit then dupFd fd (d.toNat - '0'.toNat)
            else if d == '-' then modify fun s => { s with fds := s.fds.filter (·.1 != fd) }
            else fail "Syntax error: Bad fd number"
          | _ => fail "Syntax error: Bad fd number"
      | .here fd id =>
        let doc := ((← get).docs.lookup id).getD []
        let text ← expandText fuel doc
        let sid ← openStream text
        modify fun s => { s with fds := natSet fd (.stream sid) s.fds }

def expandFields : Nat → List Word → Sh (List String)
  | 0, _ => throw (.killed 11)
  | fuel + 1, ws => do
    let mut out := []
    for w in ws do
      let w ← tildeWord w false
      let es ← wordElems fuel w true none
      let ifs ← ifsChars
      let s ← get
      for f in splitFields ifs es do
        out := out ++ globField s.allPaths s.cwd s.opts.noglob f
    return out

def expandText : Nat → Word → Sh String
  | 0, _ => throw (.killed 11)
  | fuel + 1, w => do
    let es ← wordElems fuel w false none
    return fieldText es

def expandPattern : Nat → Word → Sh (List Char)
  | 0, _ => throw (.killed 11)
  | fuel + 1, w => do
    let es ← wordElems fuel (← tildeWord w false) false none
    return fieldPattern es

def wordElems : Nat → Word → Bool → Option Nat → Sh (List Elem)
  | 0, _, _, _ => throw (.killed 11)
  | fuel + 1, w, fields, region => do
    let mut out := []
    for p in w do
      out := out ++ (← partElems fuel p fields region)
    return out

def partElems : Nat → Part → Bool → Option Nat → Sh (List Elem)
  | 0, _, _, _ => throw (.killed 11)
  | fuel + 1, p, fields, region => do
    match p with
    | .plain s => return elemsOf s false region
    | .quoted s => return .mark :: elemsOf s true none
    | .param name op inQ => paramElems fuel name op inQ fields
    | .arith expr inQ =>
      let text ← expandText fuel expr
      let vars ← arithVars
      match evalArith vars text with
      | .ok (v, writes) =>
        for (n, val) in writes do assign n val
        valueElems (toString v) inQ
      | .error .trap => throw (.killed 8)
      | .error e => fail (e.message text)
    | .command body inQ =>
      let out ← commandOutput fuel body
      let text := String.ofList (out.toList.reverse.dropWhile (· == '\n')).reverse
      valueElems text inQ

def paramElems : Nat → String → ParamOp → Bool → Bool → Sh (List Elem)
  | 0, _, _, _, _ => throw (.killed 11)
  | fuel + 1, name, op, inQ, fields => do
    let isAll := name == "@" || name == "*"
    let v ← paramValue name
    let present (orNull : Bool) : Bool := match v with
      | some x => !orNull || !x.isEmpty
      | none => false
    let checkSet : Sh String := do
      match v with
      | some x => pure x
      | none =>
        if (← get).opts.nounset && !isAll then fail (name ++ ": parameter not set")
        else pure ""
    let plainValue : Sh (List Elem) := do
      if isAll then allParamsElems name inQ fields
      else valueElems (← checkSet) inQ
    let wordPart (w : Word) : Sh (List Elem) := do
      if inQ then return .mark :: (← wordElems fuel w fields none)
      else
        let r ← freshId
        return .span r false :: (← wordElems fuel w fields (some r))
    match op with
    | .value => plainValue
    | .length =>
      let x ← checkSet
      valueElems (toString x.length) inQ
    | .orElse orNull w => if present orNull then plainValue else wordPart w
    | .ifSet orNull w =>
      if present orNull then wordPart w else return (if inQ then [.mark] else [])
    | .assign orNull w =>
      if present orNull then plainValue
      else
        let text ← expandText fuel w
        if !isName name then fail (name ++ ": bad variable name")
        assign name text
        valueElems text inQ
    | .check orNull w =>
      if present orNull then plainValue
      else
        let msg ← if w.isEmpty then
            pure ("parameter not set" ++ (if orNull then " or null" else ""))
          else expandText fuel w
        fail (name ++ ": " ++ msg)
    | .dropPrefix longest pat =>
      let x ← checkSet
      let p ← expandPattern fuel pat
      valueElems (dropPrefixMatch p longest x) inQ
    | .dropSuffix longest pat =>
      let x ← checkSet
      let p ← expandPattern fuel pat
      valueElems (dropSuffixMatch p longest x) inQ
    | .bad => fail "Bad substitution"

def commandOutput : Nat → Cmd → Sh String
  | 0, _ => throw (.killed 11)
  | fuel + 1, body => do
    let buf ← openBuffer
    let pid ← freshPid
    let s ← get
    let child := { s.child pid with fds := natSet 1 (.buffer buf) s.fds }
    let e ← inChild child (do
      let r ← attempt (evalTree fuel body { last := true })
      finishProcess fuel r)
    match e with
    | some e =>
      reapJobs
      reportEnding e
      modify fun s => { s with substStatus := e.status }
      takeSignals
    | none => throw .endless
    bufferText buf

end

/-- How a launched shell ended: its exit status (none when a signal killed it), the bytes it
wrote to standard error, the time it took, and whether it runs for ever. -/
structure Outcome where
  status : Option Nat
  stderr : ByteArray
  elapsed : Nat
  endless : Bool

def depthBound : Nat := 20000

/-- The evaluation steps a launched shell has, with all the processes it starts: a script that
needs more runs for ever. -/
def stepBound : Nat := 400000

/-- Launches a program of the machine as process `pid`, from its path, with the name it is
called by, arguments, an environment and a directory; its standard input is empty and its
standard output goes nowhere. The texts are strings of octets. -/
def launch (host : Host) (path argv0 : String) (args : List String) (env : List (String × String))
    (cwd : String) (pid : Nat) : Outcome :=
  let world : World :=
    { nextPid := pid + 1, steps := stepBound, nextId := 1, streams := [(0, [])], live := [] }
  let fds : List (Nat × Port) := [(0, .stream 0), (1, .null), (2, .stderr)]
  let launcher := Shell.start host env cwd 1 1 world argv0 fds
  let launcher := { launcher with procPid := pid, rootPid := pid }
  let ended (status : Option Nat) (s : Shell) (endless : Bool) : Outcome :=
    ⟨status, ⟨s.world.stderr⟩, s.world.clock, endless⟩
  match (runProgram depthBound path argv0 args env pid).run launcher with
  | .ok (.exited n) s => ended (some n) s false
  | .ok (.signaled _) s => ended none s false
  | .error .endless s => ended none s true
  | .error (.killed _) s => ended none s false
  | .error _ s => ended (some s.status) s false

end Shell

end TestConductor
