import TestConductor.Shell.State
import TestConductor.Shell.Test
/-! # Files as the shell sees them

Paths are made absolute against the current directory, with `.` and `..` applied. A path names
a directory of the machine, a device under `/dev`, a program, or a file a script wrote; nothing
else exists. The programs on the search path are found by trying each of its directories in
turn, an empty one meaning the current directory.
-/
namespace TestConductor

namespace Shell

def absolutePath (cwd p : String) : String :=
  let full := if p.startsWith "/" then p else cwd ++ "/" ++ p
  let step (acc : List String) (part : String) : List String :=
    if part.isEmpty || part == "." then acc
    else if part == ".." then acc.drop 1
    else part :: acc
  "/" ++ "/".intercalate ((full.splitOn "/").foldl step []).reverse

def parentOf (p : String) : String :=
  match (p.splitOn "/").dropLast with
  | [] | [""] => "/"
  | parts => "/".intercalate parts

def devices : List String :=
  ["/dev/null", "/dev/zero", "/dev/full", "/dev/random", "/dev/urandom", "/dev/tty", "/dev/stdin",
   "/dev/stdout", "/dev/stderr"]

def homeDirectories : List (String × String) :=
  [("root", "/root"), ("daemon", "/usr/sbin"), ("bin", "/bin"), ("sys", "/dev"), ("sync", "/bin"),
   ("games", "/usr/games"), ("man", "/var/cache/man"), ("lp", "/var/spool/lpd"),
   ("mail", "/var/mail"), ("news", "/var/spool/news"), ("uucp", "/var/spool/uucp"),
   ("proxy", "/bin"), ("www-data", "/var/www"), ("backup", "/var/backups"), ("list", "/var/list"),
   ("irc", "/run/ircd"), ("_apt", "/nonexistent"), ("nobody", "/nonexistent")]

def linkedDirectories : List (String × String) :=
  [("/bin", "/usr/bin"), ("/sbin", "/usr/sbin"), ("/lib", "/usr/lib"), ("/lib64", "/usr/lib64")]

/-- A path with the links among its directories followed, and `.` and `..` applied to what
they lead to. -/
def physicalPath (cwd p : String) : String :=
  let full := if p.startsWith "/" then p else cwd ++ "/" ++ p
  let step (acc : List String) (part : String) : List String :=
    if part.isEmpty || part == "." then acc
    else if part == ".." then acc.drop 1
    else
      let here := "/" ++ "/".intercalate (part :: acc).reverse
      match linkedDirectories.lookup here with
      | some target => ((target.splitOn "/").filter (!·.isEmpty)).reverse
      | none => part :: acc
  "/" ++ "/".intercalate ((full.splitOn "/").foldl step []).reverse

def Shell.fileKind (s : Shell) (path : String) : Option FileKind :=
  if path.isEmpty then none
  else
    let p := absolutePath s.cwd path
    if s.host.directories.contains p || s.world.directories.contains p then some .directory
    else if devices.contains p then some .charDevice
    else if s.host.programs.contains p then some (.regular 1024 true)
    else match s.world.files.lookup p with
      | some c => some (.regular c.length false)
      | none => none

def linkedPrograms : List (String × String) := [("/usr/bin/sh", "/usr/bin/dash")]

def stickyDirectories : List String := ["/tmp", "/var/tmp", "/dev/shm"]

/-- Whether a path is itself a symbolic link: the directories above it are followed from the
physical working directory, its last part is not; a path that ends in a slash, `.` or `..`
names a directory reached through any link. -/
def Shell.isLink (s : Shell) (path : String) : Bool :=
  let parts := path.splitOn "/"
  let last := parts.getLastD ""
  if last.isEmpty || last == "." || last == ".." then false
  else
    let dir := "/".intercalate parts.dropLast
    let parent := if path.startsWith "/" then physicalPath "/" ("/" ++ dir) else physicalPath s.cwd dir
    let here := (if parent == "/" then "" else parent) ++ "/" ++ last
    (linkedDirectories.lookup here).isSome || (linkedPrograms.lookup here).isSome

def Shell.linkTarget (s : Shell) (path : String) : String :=
  let p := physicalPath s.cwd path
  (linkedPrograms.lookup p).getD p

def Shell.fileView (s : Shell) : FileView :=
  ⟨s.fileKind, s.isLink, fun p => stickyDirectories.contains (physicalPath s.cwd p), s.linkTarget⟩

def Shell.allPaths (s : Shell) : List String :=
  s.host.directories ++ s.world.directories ++ devices ++ s.host.programs ++ s.world.files.map (·.1)

def searchDirs : Sh (List String) := do
  let path := (← varValue "PATH").getD ""
  return path.splitOn ":"

def tableBucket (size : Nat) (name : String) : Nat :=
  let cs := name.toList.map Char.toNat
  ((cs.headD 0) * 16 + cs.foldl (· + ·) 0) % size

def tableOrder {α : Type} (size : Nat) (entries : List (String × α)) : List (String × α) :=
  (List.range size).flatMap fun b => entries.filter fun (n, _) => tableBucket size n == b

def findProgram (name : String) : Sh (Option String) := do
  let s ← get
  let dirs ← searchDirs
  return (dirs.map fun d => (if d.isEmpty then name else d ++ "/" ++ name)).find? fun p =>
    s.host.programs.contains (absolutePath s.cwd p)

/-- The path a command name runs from: where it was found before, or where the search path
finds it now, which is then remembered. -/
def locateProgram (name : String) : Sh (Option String) := do
  match (← get).hashed.lookup name with
  | some p => return some p
  | none =>
    let found ← findProgram name
    match found with
    | some p => modify fun s => { s with hashed := s.hashed ++ [(name, p)] }
    | none => pure ()
    return found

def readAllFd (fd : Nat) : Sh String := do
  match ← portOf fd with
  | some (.stream id) =>
    let s ← get
    let rest := (s.world.streams.lookup id).getD []
    set { s with world := { s.world with streams := natSet id [] s.world.streams } }
    return String.ofList rest
  | _ => return ""

/-- Reads a line from the stream on a descriptor, through its line end: the characters and
whether a line end was found. -/
def readLineFd (fd : Nat) : Sh (List Char × Bool) := do
  match ← portOf fd with
  | some (.stream id) =>
    let s ← get
    let rest := (s.world.streams.lookup id).getD []
    let line := rest.takeWhile (· != '\n')
    let found := rest.length > line.length
    let left := rest.drop (line.length + (if found then 1 else 0))
    set { s with world := { s.world with streams := natSet id left s.world.streams } }
    return (line, found)
  | _ => return ([], false)

def unreadFd (fd : Nat) (cs : List Char) : Sh Unit := do
  match ← portOf fd with
  | some (.stream id) =>
    modifyWorld fun w => { w with streams := natSet id (cs ++ (w.streams.lookup id).getD []) w.streams }
  | _ => pure ()

end Shell

end TestConductor
