import TestConductor.Bench.Basic
import TestConductor.Net.Loopback
import TestConductor.Collection.CaseEvents
/-! # Sockets

Requests about the conductor's connections over the loopback network the recorded runs saw,
where no connection gets through: a transport that was never connected, connects to endpoints,
listeners that bind and accept, and the test case channel of the data collection side. A request
whose own client has to connect cannot get going, and answers the network's error as a fault of
the bench.
-/
namespace TestConductor

namespace Bench

open Net

def connectAnswer : Except Error String → Json
  | .ok r => Json.map [("ok", .str r)]
  | .error e => errorAnswer e

def tcpOp (req : Json) : Json :=
  let n := Loopback.unreachable
  let second := 1000000000
  let milli := 1000000
  let reserved := "127.0.0.1:" ++ toString n.firstPort
  let needsPeer := (req.get? "chunks").isSome || (req.get? "send").isSome
  if needsPeer then fault "driver_input" n.connectError.message
  else
    let answers : List (List (String × Json)) := [
      if boolField req "unconnected" then
        [("send", errorAnswer .connectionClosed), ("receive", errorAnswer .connectionClosed),
         ("disconnect", unitAnswer (.ok ()))]
      else [],
      match (req.get? "connect").bind Json.asStr? with
      | some ep => [("connect", connectAnswer (n.connect ep (50 * second) (100 * milli)))]
      | none => [],
      if boolField req "connect_refused" then [("connect_refused", connectAnswer (n.connect reserved 0 (100 * milli)))]
      else [],
      match (req.get? "accept_timeout_ms").bind Json.asNat? with
      | some ms =>
        match n.bind "127.0.0.1:0" 0 with
        | .ok port => [("accept", errorAnswer (Loopback.accept port ms))]
        | .error e => [("accept", errorAnswer e)]
      | none => [],
      match (req.get? "bind").bind Json.asStr? with
      | some ep =>
        match n.bind ep 0 with
        | .ok _ => [("bind", .str "bound")]
        | .error e => [("bind", errorAnswer e)]
      | none => [],
      match (req.get? "connect_exhaust_ms").bind Json.asNat? with
      | some ms => [("connect_exhaust", connectAnswer (n.connect reserved (ms * milli) (5 * milli)))]
      | none => [],
      if boolField req "connect_late" then
        [("resolved_matches", .bool false),
         ("connect_error", connectAnswer (n.connect reserved (5 * second) (5 * milli))),
         ("accepted", errorAnswer (Loopback.accept n.firstPort 5000))]
      else []]
    .obj answers.flatten

/-- The `test_case_events` request: the test case channel listens, the bench's client connects
to it, and the channel is served. -/
def caseEventsOp (req : Json) : Json :=
  let n := Loopback.unreachable
  let flag (k : String) : Bool := ((req.get? k).bind Json.asBool?).getD true
  let notConnected := errorAnswer CaseEvents.notConnected
  if !flag "initialize" then Json.map [("wait", .bool false), ("process", notConnected)]
  else
    match n.bind "127.0.0.1:0" 0 with
    | .error e => errorAnswer e
    | .ok port =>
      if flag "connect" then fault "driver_input" n.connectError.message
      else Json.map [("port_nonzero", .bool (port != 0)), ("wait", .bool false), ("process", notConnected)]

end Bench

end TestConductor
