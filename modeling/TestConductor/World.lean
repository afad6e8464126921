import TestConductor.Runtime.Executor
import TestConductor.Parallel.State
import TestConductor.Proxy.State
import TestConductor.Worker.State
import TestConductor.Scripted.Unit
import TestConductor.Scripted.Host
import TestConductor.Scripted.Engine
import TestConductor.Collection.State
import TestConductor.Clock
/-! # The conductor's world

Everything the conductor's tasks share: proxies, parallel managers, workers and their event
channels, the scripted test hosts and launches, the scripted in-process engine, the data
collection session, and the events reported to the caller. Parts refer to each other by their
number in these tables.
-/
namespace TestConductor

/-- What a task can wait for. -/
inductive Wake where
  /-- A scripted host has something to receive. -/
  | host (n : Nat)
  /-- A worker's event channel has an event. -/
  | channel (n : Nat)
  /-- A worker has a shutdown notification. -/
  | shutdown (n : Nat)
  /-- A launch's process exited. -/
  | exit (n : Nat)
  deriving DecidableEq, Repr

instance : BEq Wake := instBEqOfDecidableEq

/-- An action that a pool runs on each of its proxies. -/
inductive PoolAction where
  | prepare
  | abort
  | cancel
  | close
  /-- Records the proxy as called, then panics or fails as given. -/
  | probe (fail : List (Nat × Error)) (panic : List (Nat × String))
  deriving Repr

/-- What a started task does. -/
inductive Job where
  /-- Hands a unit of a parallel manager's request to a proxy. -/
  | unit (manager proxy : Nat) (item : WorkItem) (ctx : Context)
  /-- Runs a pool action on one proxy. -/
  | action (act : PoolAction) (proxy : Nat)
  /-- Reports scripted events to a handler, in order. -/
  | report (handler : Handler) (events : List CallerEvent)
  /-- Waits for a launched process to exit, for its worker. -/
  | exitWatch (worker launch : Nat)
  /-- Reads a worker's connection until it ends. -/
  | messageLoop (worker : Nat)
  /-- Follows a test-host proxy's unit through its worker's events, timed by the stopwatch
  started when the unit was taken. -/
  | listen (proxy worker : Nat) (handler : Handler) (sources : List String) (stopwatch : Stopwatch)
  /-- Serves the test case channel of the data collection session. -/
  | caseEvents
  /-- Serves the data collection session. -/
  | collect
  /-- Lives the course of a started process that ends by itself after `after` nanoseconds. -/
  | process (launch after : Nat) (exit : ProcessExit)
  deriving Repr

/-- What a command or a task ends with. -/
inductive Reply where
  | none
  | unit (r : Except Error Unit)
  | flag (b : Bool)
  | proxy (n : Option Nat)
  | text (r : Except Error String)
  | number (r : Except Error Nat)
  | name (n : Option String)
  /-- A reply with what was seen after it: whether awaited events arrived in time, how many
  events had been reported by then, and whether the manager watched was at work. -/
  | watched (r : Reply) (arrived : Bool) (seen : Nat) (busy : Bool)
  deriving Repr, Inhabited

/-- The shared state of the conductor's tasks. -/
structure World where
  proxies : List Proxy := []
  managers : List Manager := []
  workers : List Worker := []
  channels : List EventChannel := []
  hosts : List ScriptedHost := []
  launches : List Launch := []
  hostScript : HostScript := {}
  /-- Starts per source seen by the scripted hosts. -/
  hostAttempts : List (String × Nat) := []
  /-- Messages received by the scripted hosts, with the host's number. -/
  sent : List (Nat × Message) := []
  unitScripts : List (String × UnitScript) := []
  /-- Initialization failures of scripted proxies by number. -/
  initFailures : List (Nat × Error) := []
  initDelayMs : Option Nat := none
  /-- Sources whose units scripted proxies accepted. -/
  processed : List String := []
  /-- Attempts per source at scripted proxies. -/
  unitAttempts : List (String × Nat) := []
  criteriaSeen : List UnitCriteria := []
  /-- Proxies that a probing pool action called. -/
  called : List Nat := []
  engine : ScriptedEngine := ScriptedEngine.new {}
  events : List CallerEvent := []
  /-- Endpoints reserved so far. -/
  endpoints : Nat := 0
  /-- The conductor's own process id, handed to the test hosts it starts. -/
  selfPid : Nat := 4242
  /-- Test-host proxies made so far by an engine. -/
  proxyCounter : Nat := 0
  /-- The worker a host stops when connected to, if it is told to. -/
  hookWorker : Option Nat := none
  /-- The proxy a host asks to abort when connected to, if it is told to. -/
  hookProxy : Option Nat := none
  collection : Collection := ⟨0, Duration.ofSecs 90, .awaitingSessionStart, false, none⟩
  collectorScript : CollectorScript := {}
  collectorCalls : List CollectorCall := []
  caseScript : CaseChannelScript := {}
  caseCalls : List CaseChannelCall := []
  /-- The machine that starts programs, when launches start programs rather than scripted
  hosts. -/
  machine : Option Machine := none
  /-- How connections to test hosts fare. -/
  reach : Reach := .scripted
  /-- The system's monotonic clock. The runtime's clock is another one: it is paused and jumps
  ahead when every task waits, and this one does not follow it. -/
  wall : Instant := ⟨0⟩
  deriving Inhabited

def conductor : Sig := ⟨World, Wake, Job, Reply⟩

instance : BEq conductor.Event := instBEqOfDecidableEq (α := Wake)

abbrev Act (α : Type) := Async conductor α

namespace World

def bump (k : String) : List (String × Nat) → List (String × Nat)
  | [] => [(k, 1)]
  | (k', n) :: rest => if k' == k then (k', n + 1) :: rest else (k', n) :: bump k rest

def update {α : Type} (xs : List α) (i : Nat) (f : α → α) : List α :=
  match xs[i]? with
  | some x => xs.set i (f x)
  | none => xs

def setWorker (w : World) (i : Nat) (f : Worker → Worker) : World := { w with workers := update w.workers i f }

def setHost (w : World) (i : Nat) (f : ScriptedHost → ScriptedHost) : World := { w with hosts := update w.hosts i f }

def setLaunch (w : World) (i : Nat) (f : Launch → Launch) : World := { w with launches := update w.launches i f }

def setChannel (w : World) (i : Nat) (f : EventChannel → EventChannel) : World :=
  { w with channels := update w.channels i f }

def setProxy (w : World) (i : Nat) (f : Proxy → Proxy) : World := { w with proxies := update w.proxies i f }

def setManager (w : World) (i : Nat) (f : Manager → Manager) : World := { w with managers := update w.managers i f }

def worker (w : World) (i : Nat) : Worker := w.workers[i]?.getD default

def host (w : World) (i : Nat) : ScriptedHost := w.hosts[i]?.getD default

def proxy (w : World) (i : Nat) : Proxy := w.proxies[i]?.getD default

def report (w : World) (e : CallerEvent) : World := { w with events := w.events ++ [e] }

end World

def wallClock : Act Instant := Async.reads fun w => w.wall

def startStopwatch : Act Stopwatch := Async.reads fun w => ⟨w.wall⟩

end TestConductor
