import TestConductor.Json.Number
import TestConductor.Text.Escape
/-! # Why a JSON text or value is refused

A refusal is either a fault of the text itself (`SyntaxFault`) or a value of the wrong kind for
what is being read (`DataFault`). A fault found while reading text carries the line and the
column (in bytes) where it was found; one found in a value already read has no place.
-/
namespace TestConductor

namespace Json

/-- A fault of JSON text. -/
inductive SyntaxFault where
  | eofInList
  | eofInObject
  | eofInString
  | eofInValue
  | expectedColon
  | expectedListCommaOrEnd
  | expectedObjectCommaOrEnd
  | expectedIdent
  | expectedValue
  | invalidEscape
  | invalidNumber
  | numberOutOfRange
  | controlCharacterInString
  | keyMustBeString
  | loneLeadingSurrogate
  | trailingComma
  | trailingCharacters
  | unexpectedEndOfHexEscape
  | recursionLimit
  deriving DecidableEq, Repr

def SyntaxFault.message : SyntaxFault → String
  | .eofInList => "EOF while parsing a list"
  | .eofInObject => "EOF while parsing an object"
  | .eofInString => "EOF while parsing a string"
  | .eofInValue => "EOF while parsing a value"
  | .expectedColon => "expected `:`"
  | .expectedListCommaOrEnd => "expected `,` or `]`"
  | .expectedObjectCommaOrEnd => "expected `,` or `\x7d`"
  | .expectedIdent => "expected ident"
  | .expectedValue => "expected value"
  | .invalidEscape => "invalid escape"
  | .invalidNumber => "invalid number"
  | .numberOutOfRange => "number out of range"
  | .controlCharacterInString => "control character (\\u0000-\\u001F) found while parsing a string"
  | .keyMustBeString => "key must be a string"
  | .loneLeadingSurrogate => "lone leading surrogate in hex escape"
  | .trailingComma => "trailing comma"
  | .trailingCharacters => "trailing characters"
  | .unexpectedEndOfHexEscape => "unexpected end of hex escape"
  | .recursionLimit => "recursion limit exceeded"

/-- What was found where something else was expected. -/
inductive Found where
  | null
  | bool (b : Bool)
  | unsigned (n : Nat)
  | signed (n : Int)
  | float (x : Binary64)
  | str (s : String)
  | seq
  | map
  | unitVariant
  | newtypeVariant
  /-- Anything else, described by its own words. -/
  | other (text : String)
  deriving Repr

/-- How a data format words what it found: its word for the empty value and the layout of
floats. -/
structure Wording where
  unit : String
  floats : FloatLayout

def jsonWording : Wording := ⟨"null", wireLayout⟩

def plainWording : Wording := ⟨"unit value", plainLayout⟩

def Found.describeIn (w : Wording) : Found → String
  | .null => w.unit
  | .bool b => s!"boolean `{b}`"
  | .unsigned n => s!"integer `{n}`"
  | .signed n => s!"integer `{n}`"
  | .float x =>
    let text := if x.isNaN then "NaN" else if !x.isFinite then (if x.sign then "-inf" else "inf")
      else w.floats.render x
    "floating point `" ++ text ++ "`"
  | .str s => "string " ++ Text.quoted s
  | .seq => "sequence"
  | .map => "map"
  | .unitVariant => "unit variant"
  | .newtypeVariant => "newtype variant"
  | .other t => t

def Found.describe (f : Found) : String := f.describeIn jsonWording

def Found.ofNumber : Number → Found
  | .unsigned n => .unsigned n
  | .negative n => .signed n
  | .float x => .float x

def oneOf (names : List String) : String :=
  let q (s : String) := "`" ++ s ++ "`"
  match names with
  | [a] => q a
  | [a, b] => q a ++ " or " ++ q b
  | _ => "one of " ++ ", ".intercalate (names.map q)

/-- A value of the wrong kind for what is read. -/
inductive DataFault where
  | invalidType (found : Found) (expected : String)
  | invalidValue (found : Found) (expected : String)
  | invalidLength (n : Nat) (expected : String)
  | unknownVariant (name : String) (variants : List String)
  | unknownField (name : String) (fields : List String)
  | missingField (name : String)
  | duplicateField (name : String)
  | custom (message : String)
  deriving Repr

def DataFault.messageIn (w : Wording) : DataFault → String
  | .invalidType f e => "invalid type: " ++ f.describeIn w ++ ", expected " ++ e
  | .invalidValue f e => "invalid value: " ++ f.describeIn w ++ ", expected " ++ e
  | .invalidLength n e => s!"invalid length {n}, expected " ++ e
  | .unknownVariant v [] => "unknown variant `" ++ v ++ "`, there are no variants"
  | .unknownVariant v vs => "unknown variant `" ++ v ++ "`, expected " ++ oneOf vs
  | .unknownField f [] => "unknown field `" ++ f ++ "`, there are no fields"
  | .unknownField f fs => "unknown field `" ++ f ++ "`, expected " ++ oneOf fs
  | .missingField f => "missing field `" ++ f ++ "`"
  | .duplicateField f => "duplicate field `" ++ f ++ "`"
  | .custom m => m

def DataFault.message (f : DataFault) : String := f.messageIn jsonWording

/-- A refusal of a text or value. -/
inductive Cause where
  | malformed (f : SyntaxFault)
  | mismatch (f : DataFault)
  deriving Repr

def Cause.message : Cause → String
  | .malformed f => f.message
  | .mismatch f => f.message

/-- A refusal with the line and byte column where it was found, if it has a place. -/
structure Fault where
  cause : Cause
  place : Option (Nat × Nat)
  deriving Repr

def Fault.message (f : Fault) : String :=
  match f.place with
  | some (line, column) => f.cause.message ++ s!" at line {line} column {column}"
  | none => f.cause.message

end Json

end TestConductor
