import TestConductor.Yaml.Scalar
import TestConductor.Yaml.Scan
import TestConductor.Json.Value
/-! # Writing YAML

Writes a value as one YAML document in block style. Mappings put each key on a line of its own,
two columns further in than their parent; a sequence under a key starts at the key's column; an
empty sequence or mapping is written `[]` or `{}`. A text is written plain unless plain it would
read as something else or break the YAML grammar; then it is single-quoted, or double-quoted with
escapes when it holds characters that cannot be shown; a text with line breaks is a literal
block. Lines are never folded, however long.
-/
namespace TestConductor

namespace Yaml

/-- The styles a scalar may be written in, as the text's characters allow. -/
structure ScalarRoom where
  multiline : Bool
  flowPlain : Bool
  blockPlain : Bool
  singleQuoted : Bool
  block : Bool
  deriving Repr

/-- Whether a character can be shown as it is in a YAML text that allows Unicode: line feed,
printable ASCII, the basic plane from no-break space on except surrogates, the byte order mark
and the two non-characters at its end, and every character beyond the basic plane. -/
def isPrintable (c : Char) : Bool :=
  let n := c.toNat
  n == 0x0A || (0x20 ≤ n && n ≤ 0x7E) || (0xA0 ≤ n && n ≤ 0xD7FF) ||
    (0xE000 ≤ n && n ≤ 0xFFFD && n != 0xFEFF) || 0x10000 ≤ n

def blankZ : Option Char → Bool
  | none => true
  | some c => c == ' ' || c == '\t' || isBreak c

def analyze (s : String) : ScalarRoom :=
  let cs := s.toList
  if cs.isEmpty then ⟨false, false, true, true, false⟩
  else
    let marker := cs.take 3 == ['-', '-', '-'] || cs.take 3 == ['.', '.', '.']
    let n := cs.length
    let step := fun (acc : Bool × Bool × Bool × Bool × Bool × Bool × Bool × Bool × Bool × Bool × Bool × Bool)
        (ic : Nat × Char) =>
      let (flowInd, blockInd, special, breaks, leadSpace, trailSpace, leadBreak, trailBreak, breakSpace,
        spaceBreak, prevSpace, prevBreak) := acc
      let (i, c) := ic
      let next := cs[i + 1]?
      let followed := blankZ next
      let preceded := if i == 0 then true else blankZ cs[i - 1]?
      let (fi, bi) :=
        if i == 0 then
          if "#,[]\x7b\x7d&*!|>'\"%@`".contains c then (true, true)
          else if c == '?' || c == ':' then (true, followed)
          else if c == '-' && followed then (true, true)
          else (false, false)
        else
          if ",?[]\x7b\x7d".contains c then (true, false)
          else if c == ':' then (true, followed)
          else if c == '#' && preceded then (true, true)
          else (false, false)
      let last := i + 1 == n
      let special := special || !isPrintable c
      if c == ' ' then
        (flowInd || fi, blockInd || bi, special, breaks, leadSpace || i == 0, trailSpace || last,
          leadBreak, trailBreak, breakSpace || prevBreak, spaceBreak, true, false)
      else if isBreak c then
        (flowInd || fi, blockInd || bi, special, true, leadSpace, trailSpace, leadBreak || i == 0,
          trailBreak || last, breakSpace, spaceBreak || prevSpace, false, true)
      else
        (flowInd || fi, blockInd || bi, special, breaks, leadSpace, trailSpace, leadBreak, trailBreak,
          breakSpace, spaceBreak, false, false)
    let (flowInd, blockInd, special, breaks, leadSpace, trailSpace, leadBreak, trailBreak, breakSpace,
      spaceBreak, _, _) := (cs.zipIdx.map fun (c, i) => (i, c)).foldl step
        (marker, marker, false, false, false, false, false, false, false, false, false, false)
    let edge := leadSpace || leadBreak || trailSpace || trailBreak
    let noneQuoted := spaceBreak || special
    ⟨breaks,
      !(edge || breakSpace || noneQuoted || breaks || flowInd),
      !(edge || breakSpace || noneQuoted || breaks || blockInd),
      !(breakSpace || noneQuoted),
      !(trailSpace || noneQuoted)⟩

/-- Where a node is written. -/
structure Place where
  root : Bool := false
  sequence : Bool := false
  mapping : Bool := false
  simpleKey : Bool := false

/-- The writer's state: the text so far and where the next character goes. -/
structure Writer where
  out : String
  column : Nat
  indent : Int
  indents : List Int
  /-- Whether the last character written was a blank or a break. -/
  whitespace : Bool
  /-- Whether only indentation has been written on this line. -/
  indention : Bool
  openEnded : Nat
  flowLevel : Nat
  deriving Repr, Inhabited

def bestIndent : Nat := 2

abbrev EmitM := StateM Writer

def put (s : String) : EmitM Unit :=
  modify fun w => { w with out := w.out ++ s, column := w.column + s.length }

def putBreak : EmitM Unit := modify fun w => { w with out := w.out.push '\n', column := 0 }

/-- Writes a line break of a text: a line feed starts a new line, other breaks are written as
they are and also start one. -/
def writeBreak (c : Char) : EmitM Unit :=
  if c == '\n' then putBreak else modify fun w => { w with out := w.out.push c, column := 0 }

/-- Moves to the indentation of the current level, on a new line unless only indentation has
been written on this one. -/
def writeIndent : EmitM Unit := do
  let w ← get
  let indent := if w.indent ≥ 0 then w.indent.toNat else 0
  if !w.indention || w.column > indent || (w.column == indent && !w.whitespace) then putBreak
  let col := (← get).column
  if col < indent then put (String.ofList (List.replicate (indent - col) ' '))
  modify fun w => { w with whitespace := true, indention := true }

def writeIndicator (s : String) (needWhitespace isWhitespace isIndention : Bool) : EmitM Unit := do
  if needWhitespace && !(← get).whitespace then put " "
  put s
  modify fun w => { w with whitespace := isWhitespace, indention := w.indention && isIndention, openEnded := 0 }

/-- Opens a level of indentation: a flow level or block one further in, unless the block is
written without indentation. -/
def increaseIndent (flow indentless : Bool) : EmitM Unit := modify fun w =>
  let indent := if w.indent < 0 then (if flow then (bestIndent : Int) else 0)
    else if !indentless then w.indent + bestIndent else w.indent
  { w with indents := w.indent :: w.indents, indent := indent }

def decreaseIndent : EmitM Unit := modify fun w =>
  match w.indents with
  | i :: is => { w with indent := i, indents := is }
  | [] => { w with indent := -1 }

def writePlain (s : String) : EmitM Unit := do
  if !(← get).whitespace && (!s.isEmpty || (← get).flowLevel > 0) then put " "
  let mut breaks := false
  for c in s.toList do
    if c == ' ' then put " "
    else if isBreak c then
      if !breaks && c == '\n' then putBreak
      writeBreak c
      modify fun w => { w with indention := true }
      breaks := true
    else
      if breaks then writeIndent
      put c.toString
      modify fun w => { w with indention := false }
      breaks := false
  modify fun w => { w with whitespace := false, indention := false }

def writeSingleQuoted (s : String) : EmitM Unit := do
  writeIndicator "'" true false false
  let mut breaks := false
  for c in s.toList do
    if c == ' ' then put " "
    else if isBreak c then
      if !breaks && c == '\n' then putBreak
      writeBreak c
      modify fun w => { w with indention := true }
      breaks := true
    else
      if breaks then writeIndent
      put (if c == '\'' then "''" else c.toString)
      modify fun w => { w with indention := false }
      breaks := false
  if breaks then writeIndent
  writeIndicator "'" false false false
  modify fun w => { w with whitespace := false, indention := false }

def upperHex (width n : Nat) : String :=
  let ds := (Nat.toDigits 16 n).map Char.toUpper
  String.ofList (List.replicate (width - ds.length) '0' ++ ds)

def escapeOf (c : Char) : String :=
  match c with
  | '\x00' => "\\0"
  | '\x07' => "\\a"
  | '\x08' => "\\b"
  | '\t' => "\\t"
  | '\n' => "\\n"
  | '\x0B' => "\\v"
  | '\x0C' => "\\f"
  | '\r' => "\\r"
  | '\x1B' => "\\e"
  | '"' => "\\\""
  | '\\' => "\\\\"
  | '\x85' => "\\N"
  | '\xA0' => "\\_"
  | '\u2028' => "\\L"
  | '\u2029' => "\\P"
  | _ =>
    let n := c.toNat
    if n ≤ 0xFF then "\\x" ++ upperHex 2 n
    else if n ≤ 0xFFFF then "\\u" ++ upperHex 4 n
    else "\\U" ++ upperHex 8 n

def writeDoubleQuoted (s : String) : EmitM Unit := do
  writeIndicator "\"" true false false
  for c in s.toList do
    if !isPrintable c || c == '\uFEFF' || isBreak c || c == '"' || c == '\\' then put (escapeOf c)
    else put c.toString
  writeIndicator "\"" false false false
  modify fun w => { w with whitespace := false, indention := false }

/-- Writes the indicators of a literal block: an indentation indicator if the text starts with a
blank or break, and `-` to strip or `+` to keep its final line breaks. -/
def writeBlockHints (s : String) : EmitM Unit := do
  let cs := s.toList
  if cs.head?.any (fun c => c == ' ' || isBreak c) then writeIndicator (toString bestIndent) false false false
  modify fun w => { w with openEnded := 0 }
  let rev := cs.reverse
  match rev with
  | [] => writeIndicator "-" false false false
  | [c] =>
    if !isBreak c then writeIndicator "-" false false false
    else
      writeIndicator "+" false false false
      modify fun w => { w with openEnded := 2 }
  | c :: d :: _ =>
    if !isBreak c then writeIndicator "-" false false false
    else if isBreak d then
      writeIndicator "+" false false false
      modify fun w => { w with openEnded := 2 }

def writeLiteral (s : String) : EmitM Unit := do
  writeIndicator "|" true false false
  writeBlockHints s
  putBreak
  modify fun w => { w with indention := true, whitespace := true }
  let mut breaks := true
  for c in s.toList do
    if isBreak c then
      writeBreak c
      modify fun w => { w with indention := true }
      breaks := true
    else
      if breaks then writeIndent
      put c.toString
      modify fun w => { w with indention := false }
      breaks := false

/-- How a scalar asks to be written. -/
inductive Wanted where
  | any
  | singleQuoted
  | literal
  deriving DecidableEq

/-- Writes a scalar in the style it asks for, if its text and place allow it, else in the
nearest style that does. -/
def writeScalar (s : String) (wanted : Wanted) (p : Place) : EmitM Unit := do
  let room := analyze s
  let flow := (← get).flowLevel > 0
  let mut style : ScalarStyle := match wanted with
    | .any => .plain
    | .singleQuoted => .singleQuoted
    | .literal => .literal
  if p.simpleKey && room.multiline then style := .doubleQuoted
  if style == .plain then
    if (flow && !room.flowPlain) || (!flow && !room.blockPlain) then style := .singleQuoted
    if s.isEmpty && (flow || p.simpleKey) then style := .singleQuoted
  if style == .singleQuoted && !room.singleQuoted then style := .doubleQuoted
  if style == .literal && (!room.block || flow || p.simpleKey) then style := .doubleQuoted
  increaseIndent true false
  match style with
  | .plain => writePlain s
  | .singleQuoted => writeSingleQuoted s
  | .doubleQuoted => writeDoubleQuoted s
  | _ => writeLiteral s
  decreaseIndent

/-- How a text asks to be written: a literal block if it has line feeds, quoted if plain it
would read as something other than text, else in any style. -/
def wantedFor (s : String) : Wanted :=
  if s.contains '\n' then .literal else if readsAsOther s then .singleQuoted else .any

/-- Whether a key can be written on its line followed by `:`: a single line of at most 128
bytes. -/
def isSimpleKey (k : String) : Bool := !(analyze k).multiline && k.utf8ByteSize ≤ 128

mutual
def writeValue : Json → Place → EmitM Unit
  | .null, p => writeScalar "null" .any p
  | .bool b, p => writeScalar (if b then "true" else "false") .any p
  | .num n, p => writeScalar n.render .any p
  | .str s, p => writeScalar s (wantedFor s) p
  | .arr [], _ => do
    writeIndicator "[" true true false
    writeIndicator "]" false false false
  | .arr items, p => do
    increaseIndent false (p.mapping && !(← get).indention)
    writeItems items
    decreaseIndent
  | .obj [], _ => do
    writeIndicator "\x7b" true true false
    writeIndicator "\x7d" false false false
  | .obj fields, _ => do
    increaseIndent false false
    writeFields fields
    decreaseIndent

def writeItems : List Json → EmitM Unit
  | [] => pure ()
  | v :: rest => do
    writeIndent
    writeIndicator "-" true false true
    writeValue v { sequence := true }
    writeItems rest

def writeFields : List (String × Json) → EmitM Unit
  | [] => pure ()
  | (k, v) :: rest => do
    writeIndent
    if isSimpleKey k then
      writeScalar k (wantedFor k) { mapping := true, simpleKey := true }
      writeIndicator ":" false false false
    else
      writeIndicator "?" true false true
      writeScalar k (wantedFor k) { mapping := true }
      writeIndent
      writeIndicator ":" true false true
    writeValue v { mapping := true }
    writeFields rest
end

def render (v : Json) : String :=
  let run : EmitM Unit := do
    writeValue v { root := true }
    writeIndent
    if (← get).openEnded == 2 then
      writeIndicator "..." true false false
      writeIndent
  (run.run ⟨"", 0, -1, [], true, true, 0, 0⟩).2.out

end Yaml

end TestConductor
