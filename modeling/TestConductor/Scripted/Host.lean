import TestConductor.Protocol.Payload
import TestConductor.Launch.StartInfo
import TestConductor.Error
import TestConductor.Machine.Basic
/-! # Scripted test hosts

A scripted test host answers the conductor from scripts. Each start of a discovery or a run
queues the script of its source, attempt by attempt (the last script repeats); a cancel or an
abort queues its own script. Receiving plays the queue: a message is decoded from its text, an
error is returned, a close ends the connection for good, and an exit makes the host's process
exit before the next step is played. With nothing queued, a host that ends by closing reports a
closed connection and any other host waits.
-/
namespace TestConductor

/-- One step of a host's script. -/
inductive ScriptStep where
  /-- A message, sent as the text of this JSON value. -/
  | msg (message : Json)
  /-- A line of text. -/
  | line (text : String)
  | error (e : Error)
  /-- The connection closes for good. -/
  | close
  /-- The host's process exits. -/
  | exit (e : ProcessExit)
  deriving Repr, Inhabited

/-- What a host does when the conductor connects to it, before anything else. -/
inductive ConnectHook where
  /-- Stops the worker that is connecting. -/
  | stopWorker
  /-- Asks the proxy that is connecting to abort. -/
  | requestAbort
  deriving DecidableEq, Repr, Inhabited

/-- The script of every scripted host and of the launcher. -/
structure HostScript where
  /-- Per source, one script per attempt; the last repeats. -/
  scripts : List (String × List (List ScriptStep)) := []
  onCancel : Option (List ScriptStep) := none
  onAbort : Option (List ScriptStep) := none
  /-- Played when the conductor connects. -/
  initial : List ScriptStep := []
  /-- Whether `initial` is queued when the host is made rather than on connect. -/
  preload : Bool := false
  /-- Whether an empty queue means a closed connection rather than waiting. -/
  endClose : Bool := false
  connectDelayMs : Nat := 0
  onConnect : Option ConnectHook := none
  exitOnConnect : Option ProcessExit := none
  /-- Connection failures by host number. -/
  connectErrors : List (Nat × Error) := []
  /-- Send failures by host number. -/
  sendErrors : List (Nat × Error) := []
  /-- Launch failures by launch number. -/
  launchErrors : List (Nat × Error) := []
  pid : Nat := 4242
  deriving Repr, Inhabited

/-- The state of one scripted host. -/
structure ScriptedHost where
  queue : List ScriptStep
  closed : Bool
  connected : Bool
  /-- The launch whose process the host is. -/
  launch : Option Nat
  disconnects : Nat
  deriving Repr, Inhabited

/-- One start of a process by the scripted launcher. -/
structure Launch where
  info : StartInfo
  pid : Nat
  failure : Option Error
  /-- Whether a host is the launched process. -/
  linked : Bool
  killed : Bool
  /-- Whether the exit notification can still be fired. -/
  canExit : Bool
  /-- The exit that was fired and not yet taken. -/
  exited : Option ProcessExit
  deriving Repr, Inhabited

namespace Launch

def endpoint? (l : Launch) : Option String :=
  let rec after : List String → Option String
    | "--endpoint" :: e :: _ => some e
    | _ :: rest => after rest
    | [] => none
  after l.info.arguments

end Launch

namespace HostScript

def defaultTest (source : String) (i : Nat) : TestCase :=
  ⟨Uuid.ofNat (i + 1), source ++ "::Default" ++ toString i, "Default" ++ toString i,
    "executor://fakehost", source⟩

def send (t : MessageType) (payload : Json) : ScriptStep := .msg (Message.withPayload t payload).toJson

def passed (n : Nat) : Statistics := { Statistics.empty with executed := n, passed := n }

def defaultDiscovery (source : String) : List ScriptStep :=
  [send .testCasesFound (.arr [(defaultTest source 0).toJson]),
   send .discoveryComplete (.obj [("total_tests", .int 2),
     ("last_discovered_tests", .arr [(defaultTest source 1).toJson]), ("is_aborted", .bool false)])]

def defaultRun (source : String) : List ScriptStep :=
  [send .testRunStatsChange (RunProgress.new (passed 1) []).toJson,
   send .executionComplete (.obj [
     ("complete_args", (RunCompletion.completed (passed 2) (Duration.ofSecs 1)).toJson),
     ("last_run_tests", (RunProgress.new (passed 2) []).toJson),
     ("run_attachments", .arr [(AttachmentSet.new "datacollector://host" source).toJson]),
     ("metrics", .obj [("TotalTests", .nat 2)])])]

def defaultStop (canceled : Bool) : List ScriptStep :=
  [send .executionComplete (.obj [
    ("complete_args", (⟨.empty, canceled, !canceled, none, [], Duration.ofSecs 1⟩ : RunCompletion).toJson),
    ("last_run_tests", .null), ("run_attachments", .arr []), ("metrics", .obj [])])]

def scriptFor (h : HostScript) (source : String) (n : Nat) (discovery : Bool) : List ScriptStep :=
  match h.scripts.lookup source with
  | some (s :: ss) => ((s :: ss)[min n ss.length]?).getD s
  | _ => if discovery then defaultDiscovery source else defaultRun source

end HostScript

end TestConductor
