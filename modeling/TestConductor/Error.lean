import TestConductor.Text.Escape
/-! # Errors of test orchestration

Everything that can go wrong while driving test hosts, as causes. `Error.message` words each
cause; an aggregate lists its members in parentheses. `Error.ofList` turns the errors of several
parts of one action into one result: none is success, one is itself, more are an aggregate.
-/
namespace TestConductor

/-- A cause of failure in test orchestration. -/
inductive Error where
  /-- An endpoint that is not a socket address. -/
  | invalidEndpoint (endpoint : String)
  /-- A connection attempt that failed. -/
  | connectionFailed (endpoint reason : String)
  /-- A peer process that did not connect in time, with the variable that sets the time. -/
  | connectionTimeout (client server : String) (seconds : Nat) (envVar : String)
  /-- The peer closed the connection. -/
  | connectionClosed
  /-- A message that breaks the wire protocol. -/
  | protocol (detail : String)
  /-- A message of a type that is not expected at this point. -/
  | unexpectedMessage (detail : String)
  /-- Data that could not be encoded or decoded. -/
  | serialization (detail : String)
  /-- An input or output failure of the system. -/
  | io (detail : String)
  /-- A test host that failed. -/
  | testHost (detail : String)
  /-- An operation that the current state does not allow. -/
  | invalidState (detail : String)
  /-- A configuration that cannot be used. -/
  | configuration (detail : String)
  /-- Several errors of one action. -/
  | aggregate (errors : List Error)
  deriving Repr, Inhabited

namespace Error

mutual
def message : Error → String
  | .invalidEndpoint e => "Invalid endpoint: " ++ e
  | .connectionFailed e r => "Failed to connect to " ++ e ++ ": " ++ r
  | .connectionTimeout c s n v =>
    c ++ " process failed to connect to " ++ s ++ s!" process after {n} seconds. " ++
      "This may occur due to machine slowness, please set environment variable " ++ v ++
      " to increase timeout."
  | .connectionClosed => "Connection closed"
  | .protocol d => "Protocol error: " ++ d
  | .unexpectedMessage d => "Unexpected message: " ++ d
  | .serialization d => "Serialization error: " ++ d
  | .io d => "I/O error: " ++ d
  | .testHost d => "Test host error: " ++ d
  | .invalidState d => "Invalid state: " ++ d
  | .configuration d => "Configuration error: " ++ d
  | .aggregate es => "One or more errors occurred: " ++ joinMessages es

def joinMessages : List Error → String
  | [] => ""
  | [e] => "(" ++ message e ++ ")"
  | e :: es => "(" ++ message e ++ ") " ++ joinMessages es
end

def kindName : Error → String
  | .invalidEndpoint _ => "InvalidEndpoint"
  | .connectionFailed _ _ => "ConnectionFailed"
  | .connectionTimeout _ _ _ _ => "ConnectionTimeout"
  | .connectionClosed => "ConnectionClosed"
  | .protocol _ => "Protocol"
  | .unexpectedMessage _ => "UnexpectedMessage"
  | .serialization _ => "Serialization"
  | .io _ => "Io"
  | .testHost _ => "TestHost"
  | .invalidState _ => "InvalidState"
  | .configuration _ => "Configuration"
  | .aggregate _ => "Aggregate"

mutual
def isTimeout : Error → Bool
  | .connectionTimeout _ _ _ _ => true
  | .aggregate es => anyTimeout es
  | _ => false

def anyTimeout : List Error → Bool
  | [] => false
  | e :: es => isTimeout e || anyTimeout es
end

def ofList : List Error → Except Error Unit
  | [] => .ok ()
  | [e] => .error e
  | es => .error (.aggregate es)

/-- The kinds of input and output failure that the system reports. -/
inductive IoKind where
  | unexpectedEof
  | connectionReset
  | brokenPipe
  | other
  deriving DecidableEq, Repr

/-- An input or output failure of the system: a peer that went away is a closed connection,
anything else keeps its text. -/
def ofIo (kind : IoKind) (text : String) : Error :=
  match kind with
  | .unexpectedEof | .connectionReset | .brokenPipe => .connectionClosed
  | .other => .io text

mutual
def diagnostic : Error → String
  | .invalidEndpoint e => "InvalidEndpoint(" ++ Text.quoted e ++ ")"
  | .connectionFailed e r =>
    "ConnectionFailed \x7b endpoint: " ++ Text.quoted e ++ ", reason: " ++ Text.quoted r ++ " \x7d"
  | .connectionTimeout c s n v =>
    "ConnectionTimeout \x7b client: " ++ Text.quoted c ++ ", server: " ++ Text.quoted s ++
      s!", timeout_secs: {n}, env_var: " ++ Text.quoted v ++ " \x7d"
  | .connectionClosed => "ConnectionClosed"
  | .protocol d => "Protocol(" ++ Text.quoted d ++ ")"
  | .unexpectedMessage d => "UnexpectedMessage(" ++ Text.quoted d ++ ")"
  | .serialization d => "Serialization(" ++ Text.quoted d ++ ")"
  | .io d => "Io(" ++ Text.quoted d ++ ")"
  | .testHost d => "TestHost(" ++ Text.quoted d ++ ")"
  | .invalidState d => "InvalidState(" ++ Text.quoted d ++ ")"
  | .configuration d => "Configuration(" ++ Text.quoted d ++ ")"
  | .aggregate es => "Aggregate([" ++ diagnosticList es ++ "])"

def diagnosticList : List Error → String
  | [] => ""
  | [e] => diagnostic e
  | e :: es => diagnostic e ++ ", " ++ diagnosticList es
end

end Error

end TestConductor
