import TestConductor.Model.Run
import TestConductor.Model.Criteria
/-! # Events reported to the caller

Discovery reports found tests in chunks and ends with one completion: the number of tests (-1
when aborted), the last chunk and whether it was aborted. A run reports changes of its
statistics and ends with one completion, with its last change, attachments and metrics. Both
report log messages along the way. Parallel managers put their own handler in front of each
proxy's events, to fold partial completions into one.
-/
namespace TestConductor

/-- An event reported to the caller of a discovery or a run. -/
inductive CallerEvent where
  | discovered (tests : List TestCase)
  | discoveryComplete (total : Int) (lastChunk : Option (List TestCase)) (aborted : Bool)
  | log (level : MessageLevel) (message : String)
  | statsChange (progress : RunProgress)
  | runComplete (complete : RunCompletion) (lastChunk : Option RunProgress)
      (attachments : List AttachmentSet) (metrics : Metrics)
  deriving Repr, Inhabited

namespace CallerEvent

def isCompletion : CallerEvent → Bool
  | .discoveryComplete .. | .runComplete .. => true
  | _ => false

end CallerEvent

/-- Where the events of a unit of work go: to the caller, to a parallel manager as the events of
one proxy's unit of request `request`, or through an in-process proxy that leaves its busy state
when the run completes. -/
inductive Handler where
  | caller
  | unit (manager proxy request : Nat)
  | inProcess (proxy : Nat) (inner : Handler)
  deriving DecidableEq, Repr, Inhabited

end TestConductor
