import TestConductor.Scripted.Transport
import TestConductor.Machine.Programs
/-! # Starting programs on the machine

A launch on the machine starts the program of the start information, or fails with the operating
system's error when it cannot: the failure names the program. A started program gets the next
process id, and one that ends by itself lives its course in a task of its own, which fires the
launch's exit when its time is up unless the process was killed first.
-/
namespace TestConductor

namespace Launch

def spawn (m : Machine) (info : StartInfo) : Act (Except Error (Nat × Nat)) := do
  let w ← Async.read
  let i := w.launches.length
  match m.spawnError? info with
  | some e =>
    let err := Error.testHost ("Failed to start " ++ info.fileName ++ ": " ++ e.message)
    Async.write { w with launches := w.launches ++ [⟨info, 0, some err, false, false, false, none⟩] }
    return .error err
  | none =>
    let pid := m.firstPid + i
    Async.write { w with launches := w.launches ++ [⟨info, pid, none, false, false, true, none⟩] }
    match m.course info pid with
    | .ends after e => Async.fork (.process i after e)
    | .runs => pure ()
    return .ok (i, pid)

/-- Starts a process: a program on the world's machine when there is one, else a scripted
host. -/
def begin (info : StartInfo) : Act (Except Error (Nat × Nat)) := do
  match ← Async.reads (·.machine) with
  | some m => spawn m info
  | none => start info

def live (l after : Nat) (e : ProcessExit) : Act Unit := do
  Async.sleep after
  let killed ← Async.reads fun w => (w.launches[l]?.map (·.killed)).getD true
  if !killed then discard (ScriptedHost.fireExit l e)

end Launch

end TestConductor
