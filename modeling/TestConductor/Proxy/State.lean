import TestConductor.Config.Host
import TestConductor.Model.Events
/-! # Proxy state

A proxy drives one unit of work at a time. It moves from created to initialized to busy, ends a
unit completed or aborted, and ends closed; it may go from completed back to busy only when its
test host may be shared. A test-host proxy keeps the worker of its current host, and the
channel of an idle host that a shared proxy may reuse.
-/
namespace TestConductor

/-- Where a proxy is in its life. -/
inductive ProxyState where
  | created
  | initialized
  | busy
  | completed
  | aborted
  | closed
  deriving DecidableEq, Repr, Inhabited

namespace ProxyState

def name : ProxyState → String
  | .created => "Created"
  | .initialized => "Initialized"
  | .busy => "Busy"
  | .completed => "Completed"
  | .aborted => "Aborted"
  | .closed => "Closed"

end ProxyState

/-- The test-host bookkeeping of a proxy. -/
structure Operation where
  name : String
  runtime : HostConfig
  state : ProxyState
  /-- The worker of the current test host. -/
  worker : Option Nat
  /-- The worker of an idle test host kept for reuse. -/
  idle : Option Nat
  abortRequested : Bool
  hostsLaunched : Nat
  deriving Repr, Inhabited

namespace Operation

def new (name : String) (runtime : HostConfig) : Operation := ⟨name, runtime, .created, none, none, false, 0⟩

def isShared (o : Operation) : Bool := o.runtime.shared

end Operation

/-- A proxy whose units are scripted. -/
structure ScriptedProxy where
  initializes : Nat
  aborts : Nat
  cancels : Nat
  closes : Nat
  /-- A unit that never completes by itself: where its events go, and whether it is a run. -/
  held : Option (Handler × Bool)
  deriving Repr, Inhabited

/-- A proxy. -/
inductive Proxy where
  | scripted (p : ScriptedProxy)
  | discovery (o : Operation)
  | execution (o : Operation)
  | inProcess (state : ProxyState)
  deriving Repr, Inhabited

end TestConductor
