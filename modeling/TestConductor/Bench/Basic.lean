import TestConductor.Json.Read
import TestConductor.Json.Write
import TestConductor.Json.Check
import TestConductor.Error
/-! # Requests and answers of the bench

The bench takes requests and gives answers as JSON values. Fields that are absent read as empty
values; an error is answered by its kind and its message; a value that does not fit its shape is
refused with the reason.
-/
namespace TestConductor

namespace Bench

open Json (Shape)

def strField (j : Json) (k : String) : String := ((j.get? k).bind Json.asStr?).getD ""

def natField (j : Json) (k : String) : Nat := ((j.get? k).bind Json.asNat?).getD 0

def errorAnswer (e : Error) : Json :=
  Json.map [("error", .str e.kindName), ("message", .str e.message)]

def fault (kind message : String) : Json :=
  Json.map [("error", .str kind), ("message", .str message)]

def unitAnswer : Except Error Unit → Json
  | .ok () => Json.map [("ok", .null)]
  | .error e => errorAnswer e

def boolField (j : Json) (k : String) : Bool := ((j.get? k).bind Json.asBool?).getD false

def listField (j : Json) (k : String) : List Json := ((j.get? k).bind Json.asArr?).getD []

mutual
def depth : Json → Nat
  | .arr xs => depthItems xs + 1
  | .obj fs => depthFields fs + 1
  | _ => 0

def depthItems : List Json → Nat
  | [] => 0
  | x :: xs => max (depth x) (depthItems xs)

def depthFields : List (String × Json) → Nat
  | [] => 0
  | (_, v) :: fs => max (depth v) (depthFields fs)
end

def errorOfSpecWithin : Nat → Json → Error
  | 0, _ => .aggregate []
  | n + 1, j =>
    let msg := strField j "message"
    match strField j "kind" with
    | "InvalidEndpoint" => .invalidEndpoint msg
    | "ConnectionFailed" => .connectionFailed (strField j "endpoint") (strField j "reason")
    | "ConnectionTimeout" =>
      .connectionTimeout (strField j "client") (strField j "server") (natField j "timeout_secs")
        (strField j "env_var")
    | "ConnectionClosed" => .connectionClosed
    | "Protocol" => .protocol msg
    | "UnexpectedMessage" => .unexpectedMessage msg
    | "Serialization" => .serialization msg
    | "Io" => .io msg
    | "TestHost" => .testHost msg
    | "Configuration" => .configuration msg
    | "Aggregate" => .aggregate ((listField j "errors").map (errorOfSpecWithin n))
    | _ => .invalidState msg

def errorOfSpec (j : Json) : Error := errorOfSpecWithin (depth j + 1) j

def numberedErrors (j : Option Json) : List (Nat × Error) :=
  ((j.bind Json.asObj?).getD []).filterMap fun (k, v) => k.toNat?.map fun n => (n, errorOfSpec v)

mutual
def canonical : Json → Json
  | .obj fs => Json.map (canonicalFields fs)
  | .arr xs => .arr (canonicalItems xs)
  | j => j

def canonicalItems : List Json → List Json
  | [] => []
  | x :: xs => canonical x :: canonicalItems xs

def canonicalFields : List (String × Json) → List (String × Json)
  | [] => []
  | (k, v) :: fs => (k, canonical v) :: canonicalFields fs
end

def sortedByText (xs : List Json) : List Json :=
  let keyed := xs.map fun x => ((canonical x).compact, x)
  (keyed.mergeSort fun a b => decide (a.1 ≤ b.1)).map (·.2)

def decodeAs (s : Shape) (j : Json) : Except Json Json :=
  match Json.check s j with
  | .ok v => .ok v
  | .error f => .error (fault "Deserialize" f.message)

def fieldAs (s : Shape) (req : Json) (k : String) : Except Json Json :=
  decodeAs s ((req.get? k).getD .null)

def panicAnswer (m : String) : Json := fault "panic" m

end Bench

end TestConductor
