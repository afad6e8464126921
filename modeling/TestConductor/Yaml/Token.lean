import TestConductor.Json.Fault
/-! # YAML tokens, places and faults

A place in a YAML text counts characters from the start, lines and columns from zero. Tokens are
what the scanner hands to the parser, each with the places where it starts and stops. A fault
is a refused text: a forbidden character, a malformed text with what was being read when it was
found, or a value of the wrong kind for what is read, with the path to it.
-/
namespace TestConductor

namespace Yaml

/-- A place in a text: characters before it, and its line and column, from zero. -/
structure Mark where
  index : Nat
  line : Nat
  column : Nat
  deriving DecidableEq, Repr, Inhabited

namespace Mark

def start : Mark := ⟨0, 0, 0⟩

/-- A place in words, lines and columns counted from one; the very start is named by its
index. -/
def describe (m : Mark) : String :=
  if m.line != 0 || m.column != 0 then s!"line {m.line + 1} column {m.column + 1}"
  else s!"position {m.index}"

def isStart (m : Mark) : Bool := m.line == 0 && m.column == 0

end Mark

/-- How a scalar is written. -/
inductive ScalarStyle where
  | plain
  | singleQuoted
  | doubleQuoted
  | literal
  | folded
  deriving DecidableEq, Repr, Inhabited

/-- What a token is. -/
inductive TokenKind where
  | streamStart
  | streamEnd
  | versionDirective (major minor : Nat)
  | tagDirective (handle pfx : String)
  | documentStart
  | documentEnd
  | blockSequenceStart
  | blockMappingStart
  | blockEnd
  | flowSequenceStart
  | flowSequenceEnd
  | flowMappingStart
  | flowMappingEnd
  | blockEntry
  | flowEntry
  | key
  | value
  | alias (name : String)
  | anchor (name : String)
  | tag (handle suffix : String)
  | scalar (text : String) (style : ScalarStyle)
  deriving DecidableEq, Repr, Inhabited

/-- A token with the places where it starts and stops. -/
structure Token where
  kind : TokenKind
  start : Mark
  stop : Mark
  deriving Repr, Inhabited

/-- A step of a path into a document: the whole document, an item of a sequence, the value of a
key, a value reached through an alias, or the value of a key that is not a scalar. -/
inductive Path where
  | root
  | item (parent : Path) (index : Nat)
  | entry (parent : Path) (key : String)
  | alias (parent : Path)
  | unknown (parent : Path)
  deriving Repr, Inhabited

namespace Path

mutual
def render : Path → String
  | .root => "."
  | .item p i => render p ++ "[" ++ toString i ++ "]"
  | .entry p k => lead p ++ k
  | .alias p => render p
  | .unknown p => lead p ++ "?"

def lead : Path → String
  | .root => ""
  | p => render p ++ "."
end

end Path

/-- Why a YAML text is refused. -/
inductive Fault where
  /-- A character that may not appear in a YAML text, at a byte offset. -/
  | control (offset : Nat)
  /-- A malformed text: the problem and its place, and what was being read and from where. -/
  | malformed (problem : String) (place : Mark) (context : Option (String × Mark))
  /-- A value of the wrong kind, with its place and path once known. -/
  | data (fault : Json.DataFault) (place : Option (Mark × Path))
  /-- The text ended where a value was expected. -/
  | endOfStream
  /-- The text holds more than one document. -/
  | moreThanOneDocument
  /-- An alias of an anchor that was not defined before it. -/
  | unknownAnchor (place : Mark)
  /-- A value of the wrong kind found while choosing how to read a node, which is placed at the
  node around it. -/
  | escaping (fault : Json.DataFault)
  deriving Repr, Inhabited

namespace Fault

def message : Fault → String
  | .control offset =>
    "control characters are not allowed" ++ (if offset != 0 then s!" at position {offset}" else "")
  | .malformed problem place context =>
    let head := problem ++ (if place.isStart then "" else " at " ++ place.describe)
    match context with
    | none => head
    | some (what, from_) =>
      head ++ ", " ++ what ++
        (if !from_.isStart && (from_.line != place.line || from_.column != place.column) then
          " at " ++ from_.describe else "")
  | .data f none => f.messageIn Json.plainWording
  | .data f (some (m, p)) =>
    let path := p.render
    (if path == "." then "" else path ++ ": ") ++ f.messageIn Json.plainWording ++
      (if m.isStart then "" else " at " ++ m.describe)
  | .endOfStream => "EOF while parsing a value"
  | .moreThanOneDocument => "deserializing from YAML containing more than one document is not supported"
  | .unknownAnchor m => "unknown anchor" ++ (if m.isStart then "" else " at " ++ m.describe)
  | .escaping f => f.messageIn Json.plainWording

/-- Gives a data fault without a place the place and path of the value being read; a fault that
escapes the value being read waits for the value around it. -/
def placed (m : Mark) (p : Path) : Fault → Fault
  | .data f none => .data f (some (m, p))
  | .escaping f => .data f none
  | f => f

end Fault

end Yaml

end TestConductor
