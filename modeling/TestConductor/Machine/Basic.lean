import TestConductor.Launch.StartInfo
/-! # The machine

The machine that test hosts run on, as far as starting them goes: which directories exist, which
programs the search path finds, and the environment a started program inherits. Starting a
program fails when its directory does not exist or the program is not found, with the
operating system's error; otherwise the program gets a process id and runs its course: it ends
by itself after a while with an exit, or it runs until it is killed.
-/
namespace TestConductor

/-- How a process ended: its exit code, if any, and what it wrote to standard error. -/
structure ProcessExit where
  code : Option Int
  stderr : String
  deriving DecidableEq, Repr, Inhabited

/-- An error of the operating system: its number and its text. -/
structure OsError where
  code : Nat
  text : String
  deriving DecidableEq, Repr, Inhabited

namespace OsError

def message (e : OsError) : String := e.text ++ " (os error " ++ toString e.code ++ ")"

def notFound : OsError := ⟨2, "No such file or directory"⟩

def unreachable : OsError := ⟨101, "Network is unreachable"⟩

end OsError

/-- How a started process goes on. -/
inductive Course where
  /-- It ends by itself after `after` nanoseconds. -/
  | ends (after : Nat) (exit : ProcessExit)
  /-- It runs until it is killed. -/
  | runs
  deriving Repr, Inhabited

/-- How the conductor's connections to its test hosts fare. -/
inductive Reach where
  /-- Scripted hosts take them. -/
  | scripted
  /-- Every attempt fails at once with `error`; connecting tries again every `interval`
  nanoseconds until `window` nanoseconds have passed. -/
  | failing (error : OsError) (window interval : Nat)
  deriving Repr, Inhabited

namespace Reach

/-- How many attempts a connect makes before its window is over: one at the start, one after
each wait, where the last wait is cut short at the end of the window. -/
def attempts (window interval : Nat) : Nat :=
  if interval = 0 then 1 else (window + interval - 1) / interval + 1

end Reach

/-- The machine that runs started programs. -/
structure Machine where
  /-- The directories that exist, as absolute paths without a closing slash. -/
  directories : List String
  /-- The directories of the search path. -/
  searchPath : List String
  /-- The programs in every directory of the search path. -/
  programs : List String
  /-- The directory relative paths start from. -/
  currentDirectory : String
  /-- The environment a started program inherits, sorted by name. -/
  environment : List (String × String)
  /-- The process id of the first program started; later ones count up from it. -/
  firstPid : Nat
  /-- How long a test host listens for the conductor before it gives up, in nanoseconds. -/
  listenWindow : Nat
  deriving Repr, Inhabited

namespace Machine

/-- An absolute path with `.` and empty parts dropped and `..` parts applied, relative paths
taken from the current directory. -/
def absolute (m : Machine) (p : String) : String :=
  let full := if p.startsWith "/" then p else m.currentDirectory ++ "/" ++ p
  let step (acc : List String) (part : String) : List String :=
    if part.isEmpty || part == "." then acc
    else if part == ".." then acc.drop 1
    else part :: acc
  "/" ++ "/".intercalate ((full.splitOn "/").foldl step []).reverse

def hasDirectory (m : Machine) (p : String) : Bool := !p.isEmpty && m.directories.contains (m.absolute p)

/-- Whether a program is found: a name with a slash is a path into a directory of the search
path, any other name is looked up on it. -/
def finds (m : Machine) (program : String) : Bool :=
  if program.contains '/' then
    let full := m.absolute program
    m.searchPath.any fun d => m.programs.any fun p => d ++ "/" ++ p == full
  else m.programs.contains program

def spawnError? (m : Machine) (info : StartInfo) : Option OsError :=
  match info.workingDirectory with
  | some d => if !m.hasDirectory d then some .notFound
    else if !m.finds info.fileName then some .notFound else none
  | none => if !m.finds info.fileName then some .notFound else none

def programName (program : String) : String := ((program.splitOn "/").getLast?).getD program

def environmentFor (m : Machine) (info : StartInfo) : List (String × String) :=
  info.environment.foldl (fun acc (k, v) => insertVar k v acc) m.environment

def directoryFor (m : Machine) (info : StartInfo) : String :=
  match info.workingDirectory with
  | some d => m.absolute d
  | none => m.absolute m.currentDirectory

end Machine

end TestConductor
