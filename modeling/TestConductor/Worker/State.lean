import TestConductor.Protocol.Message
import TestConductor.Error
import TestConductor.Json.Number
/-! # Worker state

A worker owns one test host: its process, the connection to it and the loop reading from it. It
moves from idle to connecting to connected, and ends stopped. Its events go to a channel that
the owner reads and may drop: at most one connection, always before the one disconnection.
-/
namespace TestConductor

/-- Where a worker is in its life. -/
inductive Phase where
  | idle
  | connecting
  | connected
  | stopped
  deriving DecidableEq, Repr, Inhabited

namespace Phase

def name : Phase → String
  | .idle => "Idle"
  | .connecting => "Connecting"
  | .connected => "Connected"
  | .stopped => "Stopped"

end Phase

/-- An event of a worker. -/
inductive WorkerEvent where
  | connected (endpoint : String)
  | message (m : Message)
  | disconnected (error : Option Error)
  deriving Repr, Inhabited

/-- The state of a worker. -/
structure Worker where
  name : String
  /-- The connection, as the number of a scripted host. -/
  host : Nat
  hasLauncher : Bool
  phase : Phase
  stopped : Bool
  disconnected : Bool
  /-- A shutdown notification is waiting to be taken. -/
  shutdown : Bool
  exitError : Option Error
  processId : Option Nat
  /-- The launch that the kill switch stops. -/
  kill : Option Nat
  deriving Repr, Inhabited

/-- The channel of a worker's events. -/
structure EventChannel where
  queue : List WorkerEvent
  /-- Whether the receiver still listens. -/
  listening : Bool
  deriving Repr, Inhabited

mutual
def Json.diagnostic : Json → String
  | .null => "Null"
  | .bool b => "Bool(" ++ toString b ++ ")"
  | .num n => "Number(" ++ n.render ++ ")"
  | .str s => "String(" ++ Text.quoted s ++ ")"
  | .arr xs => "Array [" ++ Json.diagnosticItems xs ++ "]"
  | .obj fs => "Object \x7b" ++ Json.diagnosticFields fs ++ "\x7d"

def Json.diagnosticItems : List Json → String
  | [] => ""
  | [x] => Json.diagnostic x
  | x :: xs => Json.diagnostic x ++ ", " ++ Json.diagnosticItems xs

def Json.diagnosticFields : List (String × Json) → String
  | [] => ""
  | [(k, v)] => Text.quoted k ++ ": " ++ Json.diagnostic v
  | (k, v) :: fs => Text.quoted k ++ ": " ++ Json.diagnostic v ++ ", " ++ Json.diagnosticFields fs
end

def Message.diagnostic (m : Message) : String :=
  "Message \x7b message_type: " ++ m.type.caseName ++ ", payload: " ++ Json.diagnostic m.payload ++
    ", version: " ++ toString m.version ++ " \x7d"

def WorkerEvent.diagnostic : WorkerEvent → String
  | .connected e => "Connected \x7b endpoint: " ++ Text.quoted e ++ " \x7d"
  | .message m => "Message(" ++ m.diagnostic ++ ")"
  | .disconnected none => "Disconnected \x7b error: None \x7d"
  | .disconnected (some e) => "Disconnected \x7b error: Some(" ++ e.diagnostic ++ ") \x7d"

namespace Worker

def new (name : String) (host : Nat) (hasLauncher : Bool) : Worker :=
  ⟨name, host, hasLauncher, .idle, false, false, false, none, none, none⟩

end Worker

end TestConductor
