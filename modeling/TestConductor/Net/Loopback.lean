import TestConductor.Net.Address
import TestConductor.Machine.Basic
import TestConductor.Error
/-! # The loopback network

The network between the conductor and the processes on its machine, as a process sees it:
listeners bind to addresses on the machine, ports asked for as 0 are handed out in turn, and
every connection attempt fails at once with the same error. A connect retries until its window
is over; an accept waits out its timeout, since nobody can reach the listener.
-/
namespace TestConductor

namespace Net

/-- A loopback network on which no connection gets through. -/
structure Loopback where
  /-- The error of every connection attempt. -/
  connectError : OsError
  /-- The first port handed out for port 0. -/
  firstPort : Nat
  deriving Repr, Inhabited

namespace Loopback

def unreachable : Loopback := ⟨OsError.unreachable, 41000⟩

/-- Connects to an endpoint, retrying every `interval` nanoseconds within `window`; gives the
peer's address. An endpoint that is not a socket address is refused at once. -/
def connect (n : Loopback) (endpoint : String) (window interval : Nat) : Except Error String :=
  match SocketAddr.parse? endpoint with
  | none => .error (.invalidEndpoint endpoint)
  | some _ =>
    .error (.connectionFailed endpoint
      (n.connectError.message ++ " (after " ++ toString (Reach.attempts window interval) ++ " attempts)"))

def splitLastColon (s : String) : Option (String × String) :=
  match (s.splitOn ":").reverse with
  | port :: host@(_ :: _) => some (":".intercalate host.reverse, port)
  | _ => none

/-- Binds a listener at an endpoint; gives its port, the `k`-th handed out when port 0 is asked
for. -/
def bind (n : Loopback) (endpoint : String) (k : Nat) : Except Error Nat :=
  let portFor (p : Nat) : Nat := if p == 0 then n.firstPort + k else p
  match SocketAddr.parse? endpoint with
  | some a =>
    if a.isLocal then .ok (portFor a.port) else .error (.io "Cannot assign requested address (os error 99)")
  | none =>
    match splitLastColon endpoint with
    | none => .error (.io "invalid socket address")
    | some (host, port) =>
      match portValue? port with
      | none => .error (.io "invalid port value")
      | some p =>
        if host == "localhost" then .ok (portFor p)
        else .error (.io "failed to lookup address information: Temporary failure in name resolution")

def accept (port ms : Nat) : Error :=
  .connectionFailed ("127.0.0.1:" ++ toString port) ("no connection within " ++ toString ms ++ "ms")

end Loopback

end Net

end TestConductor
