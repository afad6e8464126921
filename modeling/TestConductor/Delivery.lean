import TestConductor.Parallel.Completion
/-! # Delivering events

An event goes to its handler: the caller records it; a parallel manager passes found tests, logs
and progress on to the caller and folds completions into its request; an in-process proxy leaves
its busy state when its run completes, aborted or completed, and then passes the event on.
-/
namespace TestConductor

namespace Handler

def deliver : Handler → CallerEvent → Act Unit
  | .caller, e => Manager.tell e
  | .unit m p id, .discoveryComplete total chunk aborted =>
    discard (Manager.partialDiscovery m p id total chunk aborted)
  | .unit m p id, .runComplete c chunk attachments metrics =>
    discard (Manager.partialRun m p id c chunk attachments metrics)
  | .unit _ _ _, e => Manager.tell e
  | .inProcess p inner, e => do
    if let .runComplete c .. := e then
      Async.modify fun w => w.setProxy p fun
        | .inProcess .busy => .inProcess (if c.isAborted then .aborted else .completed)
        | x => x
    deliver inner e

def deliverAll (h : Handler) : List CallerEvent → Act Unit
  | [] => pure ()
  | e :: es => do deliver h e; deliverAll h es

end Handler

end TestConductor
