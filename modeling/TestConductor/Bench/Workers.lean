import TestConductor.Bench.Views
import TestConductor.Bench.Scripts
/-! # Worker sessions

A worker over a scripted host, driven step by step: launching, connecting, sending, stopping,
dropping its event receiver and process exits; after each step the events it reported and the
state of the hosts.
-/
namespace TestConductor

namespace Bench

open Json (Shape)

def workerCommand (st : Json) : Except Json (Act Reply) := do
  match strField st "do" with
  | "launch" =>
    let info ← match st.get? "start_info" with
      | some j => do pure (StartInfo.ofJson (← decodeAs StartInfo.shape j))
      | none => pure (StartInfo.new "testhost")
    return (do pure (.number (← Worker.launch 0 info)))
  | "start" =>
    let ep := ((st.get? "endpoint").bind Json.asStr?).getD "127.0.0.1:9000"
    return (do pure (.text (← Worker.start 0 ep)))
  | "send" =>
    let m := Message.ofJson (← fieldAs Message.shape st "message")
    return (do pure (.unit (← Worker.send 0 m)))
  | "stop" => return (do Worker.stop 0; pure .none)
  | "drop_receiver" => return (do Worker.dropReceiver 0; pure .none)
  | "exit" => return (do pure (.flag (← Launch.fireNewest (processExitOf st))))
  | "sleep" => return (do Async.sleep (natField st "ms" * 1000000); pure .none)
  | other => throw (fault "driver_input" ("unknown step " ++ other))

def workerOp (req : Json) : Except Json Json := do
  let host := (req.get? "host").getD (.obj [])
  let debug := boolField req "debug"
  let name := ((req.get? "id").bind Json.asStr?).getD "worker-1"
  let start : World := { hostScript := hostScriptOf host false, hookWorker := some 0 }
  let mut s := setup (Session.new start) (discard (Worker.make name !(boolField req "no_launcher")))
  let mut out : List Json := []
  for st in ((req.get? "steps").bind Json.asArr?).getD [] do
    let cmd ← workerCommand st
    let sentBefore := s.state.sent.length
    let launchesBefore := s.state.launches.length
    let (r, s') := s.run cmd
    let (events, w) := s'.state.drainChannel 0
    s := { s' with state := w }
    let k := w.worker 0
    out := out ++ [Json.map [("result", replyJson r), ("events", .arr (events.map (workerEventJson debug))),
      ("connected", .bool (k.phase == .connected)), ("stopped", .bool k.stopped),
      ("process_id", Json.opt .nat k.processId), ("sent", .arr ((w.sent.drop sentBefore).map sentJson)),
      ("launches", .arr ((w.launches.drop launchesBefore).map launchJson)), ("hosts", hostsJson w)]]
  return Json.map [("id", .str name), ("steps", .arr out)]

end Bench

end TestConductor
