import TestConductor.Bench.Engines
/-! # Sessions with real programs

An engine whose test hosts are programs started on the machine, on a network where no
connection to a test host gets through: each attempt fails as unreachable, so a test host is
never reached and the conductor learns of it only when the host gives up and exits, or when the
conductor stops it. After each step the caller's events are awaited, polling every two
milliseconds for at most five seconds; the step shows the events reported by the time the
wait ended, and whether the manager was at work then; later events belong to the next step.
-/
namespace TestConductor

namespace Bench

/-- The world where test hosts are programs on the standard machine and every connection to
them fails as unreachable, retried as the engine's settings say. -/
def machineWorld (e : Engine) : World :=
  { machine := some Machine.standard,
    reach := .failing OsError.unreachable (e.config.workerConnectTimeoutSecs * 1000000000)
      (e.config.connectRetryIntervalMs * 1000000) }

/-- Whether the events recorded hold at least `completions` completions and `logs` log
messages. -/
def eventsArrived (completions logs : Nat) (w : World) : Bool :=
  decide (completions ≤ (w.events.filter (·.isCompletion)).length) &&
  decide (logs ≤ (w.events.filter fun
    | .log .. => true
    | _ => false).length)

/-- Polls every two milliseconds, `polls` times at most, until the awaited events arrived;
true if they did. -/
def awaitEvents (completions logs : Nat) : Nat → Act Bool
  | 0 => Async.reads (eventsArrived completions logs)
  | polls + 1 => do
    if ← Async.reads (eventsArrived completions logs) then return true
    Async.sleep 2000000
    awaitEvents completions logs polls

/-- The completions and log messages a step awaits: as its `wait` says, else one completion
for a discovery, a run, an abort or a cancel and nothing for a close. -/
def awaitedBy (st : Json) : Nat × Nat :=
  match st.get? "wait" with
  | some w => (natField w "completions", natField w "logs")
  | none =>
    match strField st "do" with
    | "discover" | "start" | "abort" | "cancel" => (1, 0)
    | _ => (0, 0)

def realOp (req : Json) : Except Json Json := do
  let e ← engineOf req
  let mut s := Session.new (machineWorld e)
  let mut ms : EngineManagers := {}
  let mut out : List Json := []
  for st in listField req "steps" do
    let (cmd, s1, ms1) ← engineCommand e s ms st
    ms := ms1
    let (completions, logs) := awaitedBy st
    let (r, s2) := s1.run (do
      let r ← cmd
      let arrived ← awaitEvents completions logs 2500
      let w ← Async.read
      pure (.watched r arrived w.events.length (w.tracker ms.reported).isInProgress))
    let (r, timedOut, seen, busy) := match r with
      | some (.returned (.watched r arrived seen busy)) => (some (.returned r), !arrived, seen, busy)
      | r => (r, true, s2.state.events.length, (s2.state.tracker ms.reported).isInProgress)
    let events := s2.state.events.take seen
    s := s2.modify fun w => { w with events := w.events.drop seen }
    out := out ++ [Json.map [("result", replyJson r),
      ("in_progress", .bool busy),
      ("timed_out", .bool timedOut), ("events", groupedJson true true events)]]
  return .arr out

/-- The `process_launch` request: a program started on the standard machine, then killed at
once or waited for. -/
def processLaunchOp (req : Json) : Except Json Json := do
  let info := StartInfo.ofJson (← fieldAs StartInfo.shape req "start_info")
  let m := Machine.standard
  match m.spawnError? info with
  | some e =>
    return Json.map [("launch", errorAnswer (.testHost ("Failed to start " ++ info.fileName ++ ": " ++ e.message)))]
  | none =>
    let exit : ProcessExit := if boolField req "kill" then ⟨none, ""⟩
      else match m.course info m.firstPid with
        | .ends _ x => x
        | .runs => ⟨none, ""⟩
    return Json.map [("launch", unitAnswer (.ok ())), ("pid_nonzero", .bool (m.firstPid != 0)),
      ("exit", Json.map [("code", Json.opt .int exit.code), ("stderr", .str exit.stderr),
        ("stderr_len", .nat exit.stderr.utf8ByteSize)])]

end Bench

end TestConductor
