import TestConductor.Json.Number
/-! # JSON values

A JSON value with its object fields in a list, in the order they are written. A value read
from text, or built as a map, has its fields sorted by name with no name twice (`Json.sortFields`);
a value that stands for a record has them in the record's order.
-/
namespace TestConductor

/-- A JSON value. -/
inductive Json where
  | null
  | bool (b : Bool)
  | num (n : Json.Number)
  | str (s : String)
  | arr (items : List Json)
  | obj (fields : List (String × Json))
  deriving Repr, Inhabited

namespace Json

def insertField (k : String) (v : Json) : List (String × Json) → List (String × Json)
  | [] => [(k, v)]
  | (k', v') :: rest =>
    if k < k' then (k, v) :: (k', v') :: rest
    else if k = k' then (k, v) :: rest
    else (k', v') :: insertField k v rest

def sortFields (fs : List (String × Json)) : List (String × Json) :=
  fs.foldl (fun acc (k, v) => insertField k v acc) []

def map (fs : List (String × Json)) : Json := .obj (sortFields fs)

def get? (j : Json) (k : String) : Option Json :=
  match j with
  | .obj fs => fs.lookup k
  | _ => none

def nat (n : Nat) : Json := .num (.unsigned n)

def int (n : Int) : Json := .num (Number.ofInt n)

def opt {α : Type} (f : α → Json) : Option α → Json
  | some a => f a
  | none => .null

def strs (xs : List String) : Json := .arr (xs.map .str)

def asNat? : Json → Option Nat
  | .num (.unsigned n) => some n
  | _ => none

def asInt? : Json → Option Int
  | .num (.unsigned n) => some n
  | .num (.negative n) => some n
  | _ => none

def asStr? : Json → Option String
  | .str s => some s
  | _ => none

def asBool? : Json → Option Bool
  | .bool b => some b
  | _ => none

def asArr? : Json → Option (List Json)
  | .arr xs => some xs
  | _ => none

def asObj? : Json → Option (List (String × Json))
  | .obj fs => some fs
  | _ => none

end Json

end TestConductor
