import TestConductor.Json.Shape
/-! # Checking JSON values against shapes

`Json.check shape v` reads a value already in memory as data of `shape`, giving the canonical
value or the first refusal, without a place. Object fields are visited in the value's order,
which for a value read from text or built as a map is sorted by name; a record's missing fields
are refused only after all present ones were checked.
-/
namespace TestConductor

namespace Json

def Found.ofJson : Json → Found
  | .null => .null
  | .bool b => .bool b
  | .num n => .ofNumber n
  | .str s => .str s
  | .arr _ => .seq
  | .obj _ => .map

def refuse {α : Type} (expected : String) (v : Json) : Except DataFault α :=
  .error (.invalidType (.ofJson v) expected)

def checkUnitValue : Json → Except DataFault Unit
  | .null => .ok ()
  | v => refuse "unit" v

def fillFields (fields : List (String × Shape × Missing)) (got : List (String × Json)) :
    Except DataFault (List (String × Json)) :=
  fields.mapM fun (name, _, missing) =>
    match got.lookup name with
    | some v => .ok (name, v)
    | none =>
      match missing with
      | .required => .error (.missingField name)
      | .optional => .ok (name, .null)
      | .fallback j => .ok (name, j)

mutual
def check : Shape → Json → Except DataFault Json
  | .any, v => .ok v
  | .unsigned max name, .num n => Shape.checkUnsigned max name n
  | .signed min max name, .num n => Shape.checkSigned min max name n
  | .bool, .bool b => .ok (.bool b)
  | .string, .str s => .ok (.str s)
  | .text _ parse, .str s => parse s |>.mapError .custom
  | .optional _, .null => .ok .null
  | .optional inner, v => check inner v
  | .list item, .arr xs => (checkItems item xs).map .arr
  | .dict item, .obj fs => (checkEntries item fs).map .obj
  | .record _ fields, .obj fs => do
    let got ← checkFields fields fs
    return .obj (← fillFields fields got)
  | .record name fields, .arr xs => do
    let got ← checkPositional name fields.length fields 0 xs
    if xs.length > fields.length then .error (.invalidLength xs.length "fewer elements in array")
    else return .obj got
  | .duration, .obj fs => checkDurationFields fs none none
  | .duration, .arr xs =>
    match xs with
    | [] => .error (.invalidLength 0 "struct Duration")
    | [_] => .error (.invalidLength 1 "struct Duration")
    | s :: n :: rest => do
      let s ← check Shape.u64 s
      let n ← check Shape.u32 n
      let d ← Shape.normalDuration (s.asNat?.getD 0) (n.asNat?.getD 0)
      if rest.isEmpty then return d
      else .error (.invalidLength (rest.length + 2) "fewer elements in array")
  | .units names, .str s =>
    if names.contains s then .ok (.str s) else .error (.unknownVariant s names)
  | .units names, .obj [(s, v)] =>
    if names.contains s then (checkUnitValue v).map fun _ => .str s
    else .error (.unknownVariant s names)
  | .units _, .obj _ => .error (.invalidValue .map "map with a single key")
  | .units _, v => refuse "string or map" v
  | .tagged cases, .str s =>
    if (Shape.caseNames cases).contains s then .error (.invalidType .unitVariant "newtype variant")
    else .error (.unknownVariant s (Shape.caseNames cases))
  | .tagged cases, .obj [(s, v)] =>
    match cases.lookup s with
    | some inner => (check inner v).map fun w => .obj [(s, w)]
    | none => .error (.unknownVariant s (Shape.caseNames cases))
  | .tagged _, .obj _ => .error (.invalidValue .map "map with a single key")
  | .tagged _, v => refuse "string or map" v
  | s, v => refuse s.expecting v
termination_by s v => (sizeOf v, sizeOf s)

def checkItems (item : Shape) : List Json → Except DataFault (List Json)
  | [] => .ok []
  | x :: xs => do
    let y ← check item x
    return y :: (← checkItems item xs)
termination_by xs => (sizeOf xs, 0)

def checkEntries (item : Shape) : List (String × Json) → Except DataFault (List (String × Json))
  | [] => .ok []
  | (k, v) :: fs => do
    let w ← check item v
    return (k, w) :: (← checkEntries item fs)
termination_by fs => (sizeOf fs, 0)

def checkFields (fields : List (String × Shape × Missing)) :
    List (String × Json) → Except DataFault (List (String × Json))
  | [] => .ok []
  | (k, v) :: fs =>
    match fields.lookup k with
    | some (s, _) => do
      let w ← check s v
      return (k, w) :: (← checkFields fields fs)
    | none => checkFields fields fs
termination_by fs => (sizeOf fs, 0)

def checkPositional (name : String) (total : Nat) :
    List (String × Shape × Missing) → Nat → List Json → Except DataFault (List (String × Json))
  | [], _, _ => .ok []
  | (k, s, missing) :: rest, index, xs =>
    match xs with
    | x :: xs' => do
      let w ← check s x
      return (k, w) :: (← checkPositional name total rest (index + 1) xs')
    | [] =>
      match missing with
      | .fallback j => do return (k, j) :: (← checkPositional name total rest (index + 1) [])
      | _ => .error (.invalidLength index (Shape.recordLength name total))
termination_by fields _ xs => (sizeOf xs, sizeOf fields)

def checkDurationFields : List (String × Json) → Option Json → Option Json → Except DataFault Json
  | [], none, _ => .error (.missingField "secs")
  | [], _, none => .error (.missingField "nanos")
  | [], some s, some n => Shape.normalDuration (s.asNat?.getD 0) (n.asNat?.getD 0)
  | (k, v) :: fs, secs, nanos =>
    if k == "secs" then do
      let w ← check Shape.u64 v
      checkDurationFields fs (some w) nanos
    else if k == "nanos" then do
      let w ← check Shape.u32 v
      checkDurationFields fs secs (some w)
    else .error (.unknownField k ["secs", "nanos"])
termination_by fs => (sizeOf fs, 0)
end

end Json

end TestConductor
