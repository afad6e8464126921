import TestConductor.Model.Attachment
import TestConductor.Duration
import TestConductor.Error
/-! # Data collection state

The data collection side of a test host serves one session from the conductor: it waits for the
session to start, keeps it active while the test host runs, waits for it to end, and is then
terminated. When a data collector wants events per test case, those arrive on a channel of their
own, served by a task that first waits, within the connection timeout, for the test host to
connect.
-/
namespace TestConductor

/-- Where a data collection session is. -/
inductive SessionState where
  | awaitingSessionStart
  | sessionActive
  | awaitingSessionEnd
  | terminated
  deriving DecidableEq, Repr, Inhabited

namespace SessionState

def name : SessionState → String
  | .awaitingSessionStart => "AwaitingSessionStart"
  | .sessionActive => "SessionActive"
  | .awaitingSessionEnd => "AwaitingSessionEnd"
  | .terminated => "Terminated"

end SessionState

/-- The script of the data collectors. -/
structure CollectorScript where
  /-- Environment variables for the test host. -/
  env : List (String × String) := []
  eventsRequired : Bool := false
  attachments : List AttachmentSet := []
  caseAttachments : List AttachmentSet := []
  deriving Repr, Inhabited

/-- A call made to the data collectors. -/
inductive CollectorCall where
  | load (settings : String)
  | sessionStarted
  | hostLaunched (pid : Nat)
  | caseStarted (event : Json)
  | caseEnded (event : Json)
  | sessionEnded (cancelled : Bool)
  | dispose
  deriving Repr, Inhabited

/-- The script of the test case channel. -/
structure CaseChannelScript where
  port : Nat := 4567
  initError : Option Error := none
  /-- Whether the test host connects. -/
  connects : Bool := true
  processError : Option Error := none
  /-- Serving the channel panics with this message. -/
  panic : Option String := none
  deriving Repr, Inhabited

/-- A call made to the test case channel. -/
inductive CaseChannelCall where
  | prepare
  | wait (timeout : Duration)
  | process
  | close
  deriving Repr, Inhabited

/-- The state of a data collection session. -/
structure Collection where
  /-- The connection to the conductor, as a scripted host. -/
  host : Nat
  timeout : Duration
  state : SessionState
  hasSession : Bool
  /-- The task serving the test case channel. -/
  caseTask : Option Nat
  deriving Repr, Inhabited

end TestConductor
