import TestConductor.Machine.Basic
import TestConductor.Shell.Run
import TestConductor.Text.Utf8
/-! # Programs on the machine

The course of each program the machine knows, from its start information. The shell and the
small utilities run as the shell's model of them says, so a shell runs its script and `sleep`
ends after the time it is given; a test host listens for the conductor on its endpoint: one told
to die writes why to standard error and exits with status 4 at once, any other gives up after the
machine's listen window and exits with status 9. The standard error a process leaves is its last
4096 bytes, read as UTF-8 with each ill-formed part replaced.
-/
namespace TestConductor

namespace Machine

/-- What one read of a stream gives: the bytes read, none once the stream has ended, or an
error. -/
inductive ReadResult where
  | bytes (chunk : List UInt8)
  | failed
  deriving DecidableEq, Repr, Inhabited

def keepLast (limit : Nat) (bs : List UInt8) : List UInt8 := bs.drop (bs.length - limit)

/-- Drains reads into the bytes kept so far, keeping only the last `limit`; the first read that
gives no bytes or fails ends the stream. -/
def drainTail (limit : Nat) (kept : List UInt8) : List ReadResult → List UInt8
  | .bytes (b :: bs) :: rest => drainTail limit (keepLast limit (kept ++ b :: bs)) rest
  | _ => kept

/-- Reads a stream to its end and gives its last `limit` bytes as UTF-8, each ill-formed part
replaced. -/
def readTail (reads : List ReadResult) (limit : Nat) : String :=
  Text.Utf8.decodeLossy (drainTail limit [] reads)

def readBuffer : Nat := 1024

def pipeReads (bs : List UInt8) : List ReadResult :=
  if bs.isEmpty then [.bytes []]
  else .bytes (bs.take readBuffer) :: pipeReads (bs.drop readBuffer)
termination_by bs.length
decreasing_by
  cases bs with
  | nil => contradiction
  | cons b bs => simp only [List.length_drop, List.length_cons, readBuffer]; omega

def stderrKept : Nat := 4096

def exitOf (code : Option Int) (stderr : ByteArray) : ProcessExit :=
  ⟨code, readTail (pipeReads stderr.toList) stderrKept⟩

def optionValue (name : String) : List String → Option String
  | o :: v :: rest => if o == name then some v else optionValue name (v :: rest)
  | _ => none

def testHostCourse (m : Machine) (args : List String) : Course :=
  if optionValue "--mode" args == some "die" then
    .ends 0 ⟨some 4, "fatal: test runtime missing\n"⟩
  else .ends m.listenWindow ⟨some 9, ""⟩

def shellCourse (r : Shell.Outcome) : Course :=
  if r.endless then .runs else .ends r.elapsed (exitOf (r.status.map Int.ofNat) r.stderr)

def shellPrograms : List String :=
  ["/usr/bin", "/bin"].flatMap fun d => Shell.machinePrograms.map fun p => d ++ "/" ++ p

def shellHost (m : Machine) : Shell.Host := ⟨m.directories, shellPrograms⟩

/-- The course of a program of the machine started as process `pid`; the texts it is given
reach it as bytes. -/
def programRun (m : Machine) (info : StartInfo) (pid : Nat) : Course :=
  let o := Shell.octets
  let env := (m.environmentFor info).map fun (k, v) => (o k, o v)
  let path := if info.fileName.contains '/' then m.absolute info.fileName
    else "/usr/bin/" ++ info.fileName
  shellCourse (Shell.launch m.shellHost (o path) (o info.fileName) (info.arguments.map o) env
    (o (m.directoryFor info)) pid)

def course (m : Machine) (info : StartInfo) (pid : Nat) : Course :=
  match programName info.fileName with
  | "python3" => m.testHostCourse info.arguments
  | _ => m.programRun info pid

/-- The machine the recorded runs saw: the usual system directories, a shell, `sleep`, `true`,
`false` and a test host interpreter on the search path, and test hosts that listen for eight
seconds. -/
def standard : Machine :=
  { directories := ["/", "/bin", "/dev", "/etc", "/home", "/lib", "/mnt", "/opt", "/proc", "/root",
      "/run", "/sbin", "/srv", "/sys", "/tmp", "/usr", "/usr/bin", "/usr/lib", "/usr/local",
      "/usr/local/bin", "/usr/sbin", "/var", "/var/tmp"],
    searchPath := ["/usr/local/bin", "/usr/bin", "/bin"],
    programs := Shell.machinePrograms,
    currentDirectory := "/root",
    environment := [],
    firstPid := 31000,
    listenWindow := 8000000000 }

end Machine

end TestConductor
