import TestConductor.Json.Value
import TestConductor.Json.Fault
/-! # Shapes of JSON data

A `Shape` says what a JSON text or value must hold to be read as a value of a record type of
this library: integers of a width, strings, lists, maps with string keys, records with named
fields, and enumerations written as a name or as a one-field object. Reading against a shape
gives the data in a canonical JSON form: records with their fields in declaration order and the
missing ones filled in, integers of their declared sign, and no unknown fields.
-/
namespace TestConductor

namespace Json

/-- What a record field takes when it is missing. -/
inductive Missing where
  /-- The field must be present. -/
  | required
  /-- An optional field: `null` when a named field is missing, an error when a positional one is. -/
  | optional
  /-- A field with a default, used in both forms. -/
  | fallback (value : Json)
  deriving Repr

/-- The shape of JSON data. -/
inductive Shape where
  /-- Any JSON value, kept as it is. -/
  | any
  /-- A non-negative integer at most `max`, named for error messages (`u32`). -/
  | unsigned (max : Nat) (name : String)
  /-- An integer from `min` to `max`, named for error messages (`i64`). -/
  | signed (min max : Int) (name : String)
  /-- `true` or `false`. -/
  | bool
  /-- A string. -/
  | string
  /-- A string of a special form, described by `expecting`, checked and turned into its
  canonical value by `parse`, whose error text is given as it is. -/
  | text (expecting : String) (parse : String → Except String Json)
  /-- A duration of whole seconds and nanoseconds. -/
  | duration
  /-- `null`, or data of the inner shape. -/
  | optional (inner : Shape)
  /-- An array of data of one shape. -/
  | list (item : Shape)
  /-- An object whose values have one shape. -/
  | dict (item : Shape)
  /-- A record with named fields, written as an object or as an array in field order. -/
  | record (name : String) (fields : List (String × Shape × Missing))
  /-- An enumeration of names without data. -/
  | units (names : List String)
  /-- An enumeration whose every case holds data, written as a one-field object. -/
  | tagged (cases : List (String × Shape))

namespace Shape

def expecting : Shape → String
  | .any => "any valid JSON value"
  | .unsigned _ n => n
  | .signed _ _ n => n
  | .bool => "a boolean"
  | .string => "a string"
  | .text e _ => e
  | .duration => "struct Duration"
  | .optional _ => "option"
  | .list _ => "a sequence"
  | .dict _ => "a map"
  | .record n _ => "struct " ++ n
  | .units _ => "enum"
  | .tagged _ => "enum"

def recordLength (name : String) (n : Nat) : String :=
  s!"struct {name} with {n} element" ++ (if n = 1 then "" else "s")

def u64 : Shape := .unsigned (Nat.pow 2 64 - 1) "u64"

def u32 : Shape := .unsigned (Nat.pow 2 32 - 1) "u32"

def u16 : Shape := .unsigned (Nat.pow 2 16 - 1) "u16"

def usize : Shape := .unsigned (Nat.pow 2 64 - 1) "usize"

def i64 : Shape := .signed (-Int.pow 2 63) (Int.pow 2 63 - 1) "i64"

def i32 : Shape := .signed (-Int.pow 2 31) (Int.pow 2 31 - 1) "i32"

def field (name : String) (s : Shape) : String × Shape × Missing := (name, s, .required)

def optField (name : String) (s : Shape) : String × Shape × Missing :=
  (name, .optional s, .optional)

def defField (name : String) (s : Shape) (d : Json) : String × Shape × Missing :=
  (name, s, .fallback d)

def checkUnsigned (max : Nat) (name : String) (n : Number) : Except DataFault Json :=
  match n with
  | .unsigned v => if v ≤ max then .ok (.num (.unsigned v)) else .error (.invalidValue (.unsigned v) name)
  | .negative v => .error (.invalidValue (.signed v) name)
  | .float x => .error (.invalidType (.float x) name)

def checkSigned (min max : Int) (name : String) (n : Number) : Except DataFault Json :=
  match n with
  | .unsigned v =>
    if (v : Int) ≤ max then .ok (.num (.unsigned v)) else .error (.invalidValue (.unsigned v) name)
  | .negative v =>
    if min ≤ v then .ok (.num (.negative v)) else .error (.invalidValue (.signed v) name)
  | .float x => .error (.invalidType (.float x) name)

/-- The canonical duration of whole seconds and nanoseconds, carrying whole seconds out of the
nanoseconds; refused when the seconds overflow 64 bits. -/
def normalDuration (secs nanos : Nat) : Except DataFault Json :=
  let total := secs + nanos / 1000000000
  if total < Nat.pow 2 64 then
    .ok (.obj [("secs", .num (.unsigned total)), ("nanos", .num (.unsigned (nanos % 1000000000)))])
  else .error (.custom "overflow deserializing Duration")

def caseNames (cases : List (String × Shape)) : List String := cases.map (·.1)

end Shape

end Json

end TestConductor
