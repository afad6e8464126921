import TestConductor.Yaml.Parse
import TestConductor.Yaml.Scalar
import TestConductor.Json.Shape
/-! # Reading YAML data of a shape

A YAML text holds one document. Its events are loaded first, up to the end of the document or
the first refusal; aliases point back to the node their anchor names. The document is then read
against a shape, node by node, so that a wrong value early in the document is reported before a
malformed text after it. A refusal of a value names the path to it and the place of its node.
-/
namespace TestConductor

namespace Yaml

/-- A node event of a loaded document. -/
inductive Node where
  | scalar (text : String) (style : ScalarStyle) (tag : Option String)
  | sequenceStart (tag : Option String)
  | sequenceEnd
  | mappingStart (tag : Option String)
  | mappingEnd
  /-- An alias, with the position of the node its anchor names. -/
  | alias (target : Nat)
  /-- The whole of an empty stream. -/
  | void
  deriving Repr, Inhabited

/-- A loaded document: its nodes with their places, and the refusal that ended it early, if
any. -/
structure Document where
  nodes : Array (Node × Mark)
  error : Option Fault
  deriving Repr, Inhabited

/-- Loads the next document from events; none once the stream has ended. An anchor defined
again names its latest node. -/
def loadDocument (first : Bool) (fault : Option Fault) :
    List (Event × Mark) → Array (Node × Mark) → List (String × Nat) → Option Document × List (Event × Mark)
  | [], nodes, _ =>
    match fault with
    | some f => (some ⟨nodes, some f⟩, [])
    | none => if first then (some ⟨nodes, some .endOfStream⟩, []) else (none, [])
  | (e, m) :: rest, nodes, anchors =>
    let named (anchor : Option String) : List (String × Nat) :=
      match anchor with
      | some a => (a, nodes.size) :: anchors
      | none => anchors
    match e with
    | .streamStart | .documentStart => loadDocument first fault rest nodes anchors
    | .streamEnd =>
      if first then (some ⟨if nodes.isEmpty then #[(.void, m)] else nodes, none⟩, [])
      else (none, [])
    | .documentEnd => (some ⟨nodes, none⟩, rest)
    | .alias name =>
      match anchors.lookup name with
      | some pos => loadDocument first fault rest (nodes.push (.alias pos, m)) anchors
      | none => (some ⟨nodes, some (.unknownAnchor m)⟩, [])
    | .scalar anchor tag text style =>
      loadDocument first fault rest (nodes.push (.scalar text style tag, m)) (named anchor)
    | .sequenceStart anchor tag =>
      loadDocument first fault rest (nodes.push (.sequenceStart tag, m)) (named anchor)
    | .sequenceEnd => loadDocument first fault rest (nodes.push (.sequenceEnd, m)) anchors
    | .mappingStart anchor tag =>
      loadDocument first fault rest (nodes.push (.mappingStart tag, m)) (named anchor)
    | .mappingEnd => loadDocument first fault rest (nodes.push (.mappingEnd, m)) anchors

def Document.node? (d : Document) (pos : Nat) : Except Fault (Node × Mark) :=
  match d.nodes[pos]? with
  | some nm => .ok nm
  | none => .error (d.error.getD .endOfStream)

/-- Refuses a node as not of the expected kind; a scalar whose tag does not fit its text is
refused for that instead. -/
def mismatch {α : Type} (expected : String) : Node → Except Fault α
  | .scalar text style tag =>
    match foundOfTagged text style tag with
    | .ok found => .error (.data (.invalidType found expected) none)
    | .error f => .error (.data f none)
  | .sequenceStart _ => .error (.data (.invalidType .seq expected) none)
  | .mappingStart _ => .error (.data (.invalidType .map expected) none)
  | _ => .error .endOfStream

def Node.isEmptyValue : Node → Bool
  | .scalar "" .plain _ => true
  | .void => true
  | _ => false

def Node.tag? : Node → Option String
  | .scalar _ _ tag | .sequenceStart tag | .mappingStart tag => tag
  | _ => none

def Node.untagged : Node → Node
  | .scalar text style _ => .scalar text style none
  | .sequenceStart _ => .sequenceStart none
  | .mappingStart _ => .mappingStart none
  | n => n

def caseOfTag? (tag : Option String) : Option String :=
  match tag with
  | some t =>
    match t.toList with
    | '!' :: [] => some "!"
    | '!' :: rest => some (String.ofList rest)
    | _ => none
  | none => none

def readUnitCase (node : Node) : Except Fault Unit :=
  match node with
  | .scalar text .plain _ => if text.isEmpty || spellsNull text then .ok ()
    else .error (.data (.invalidValue (.str text) "null") none)
  | .scalar text _ _ => .error (.data (.invalidValue (.str text) "null") none)
  | .void => .ok ()
  | n => mismatch "unit" n

def Document.skipNode (d : Document) (pos : Nat) : Except Fault Nat := do
  let mut depth := 0
  let mut p := pos
  for _ in List.range (d.nodes.size + 1) do
    let (node, _) ← d.node? p
    p := p + 1
    match node with
    | .sequenceStart _ | .mappingStart _ => depth := depth + 1
    | .sequenceEnd | .mappingEnd => depth := depth - 1
    | _ => pure ()
    if depth == 0 then break
  return p

def missingValue (name : String) : Json.Missing → Except Fault Json
  | .required => .error (.data (.missingField name) none)
  | .optional => .ok .null
  | .fallback j => .ok j

def fillRecord (fields : List (String × Json.Shape × Json.Missing)) (got : List (String × Json)) :
    Except Fault Json := do
  let filled ← fields.mapM fun (name, _, missing) =>
    match got.lookup name with
    | some v => pure (name, v)
    | none => do pure (name, ← missingValue name missing)
  return .obj filled

/-- Whether a scalar is read as a boolean or a number by its text: a plain one is, and so is a
literal block scalar with the tag of the kind wanted. -/
def readsAsPlain (style : ScalarStyle) (tag : Option String) (wanted : String) : Bool :=
  style == .plain || (style == .literal && tag == some wanted)

mutual
/-- Reads the node at a position as data of a shape; gives the value and the position after
the node. -/
def readNode (d : Document) : Nat → Json.Shape → Path → Nat → Except Fault (Json × Nat)
  | 0, _, _, _ => .error .endOfStream
  | fuel + 1, shape, path, pos => do
    let (node, mark) ← d.node? pos
    match node with
    | .alias target =>
      let (v, _) ← readNode d fuel shape (.alias path) target
      return (v, pos + 1)
    | _ => (readHere d fuel shape path pos node).mapError (Fault.placed mark path)

def readHere (d : Document) : Nat → Json.Shape → Path → Nat → Node → Except Fault (Json × Nat)
  | 0, _, _, _, _ => .error .endOfStream
  | fuel + 1, shape, path, pos, node =>
    match shape, node with
    | .bool, .scalar text style tag =>
      match (if readsAsPlain style tag boolTag then boolOfText? text else none) with
      | some b => .ok (.bool b, pos + 1)
      | none => mismatch "a boolean" node
    | .unsigned max name, .scalar text style tag =>
      match (if readsAsPlain style tag intTag then unsignedOfText? (Nat.pow 2 64) text else none) with
      | some n =>
        if n ≤ max then .ok (.nat n, pos + 1)
        else .error (.data (.invalidValue (.unsigned n) name) none)
      | none => mismatch name node
    | .signed lo hi name, .scalar text style tag =>
      match (if readsAsPlain style tag intTag then signedOfText? (-Int.pow 2 63) (Int.pow 2 63 - 1) text else none) with
      | some n =>
        if lo ≤ n && n ≤ hi then .ok (.int n, pos + 1)
        else .error (.data (.invalidValue (.signed n) name) none)
      | none => mismatch name node
    | .string, .scalar text _ _ => .ok (.str text, pos + 1)
    | .text _ parse, .scalar text _ _ =>
      match parse text with
      | .ok v => .ok (v, pos + 1)
      | .error m => .error (.data (.custom m) none)
    | .optional inner, _ =>
      match node with
      | .scalar text .plain none => if isNullText text then .ok (.null, pos + 1) else readHere d fuel inner path pos node
      | .scalar text .plain (some t) =>
        if t == nullTag then
          if spellsNull text then .ok (.null, pos + 1)
          else .error (.data (.invalidValue (.str text) "null") none)
        else readHere d fuel inner path pos node
      | .void => .ok (.null, pos + 1)
      | _ => readHere d fuel inner path pos node
    | .list item, .sequenceStart _ => do
      let (items, next) ← readItems d fuel item path 0 (pos + 1) []
      return (.arr items, next)
    | .list _, _ => if node.isEmptyValue then .ok (.arr [], pos + 1) else mismatch "a sequence" node
    | .dict item, .mappingStart _ => do
      let (entries, next) ← readEntries d fuel item path (pos + 1) []
      return (.obj entries, next)
    | .dict _, _ => if node.isEmptyValue then .ok (.obj [], pos + 1) else mismatch "a map" node
    | .record _ fields, .mappingStart _ => do
      let (got, next) ← readFields d fuel fields path (pos + 1) []
      return (← fillRecord fields got, next)
    | .record name fields, _ =>
      if node.isEmptyValue then do return (← fillRecord fields [], pos + 1)
      else mismatch ("struct " ++ name) node
    | .duration, _ =>
      readHere d fuel (.record "Duration" [Json.Shape.field "secs" Json.Shape.u64,
        Json.Shape.field "nanos" Json.Shape.u32]) path pos node
    | .units names, _ =>
      match caseOfTag? node.tag?, node with
      | some c, _ =>
        if names.contains c then do
          readUnitCase node
          return (.str c, pos + 1)
        else .error (.escaping (.unknownVariant c names))
      | none, .scalar text _ _ =>
        if names.contains text then .ok (.str text, pos + 1)
        else .error (.data (.unknownVariant text names) none)
      | none, .mappingStart _ => .error (.data (.invalidType .map "a YAML tag starting with '!'") none)
      | none, .sequenceStart _ => .error (.data (.invalidType .seq "a YAML tag starting with '!'") none)
      | none, _ => mismatch "enum" node
    | .tagged cases, _ =>
      let names := Json.Shape.caseNames cases
      match caseOfTag? node.tag?, node with
      | some c, _ =>
        match cases.lookup c with
        | some inner => do
          let (v, next) ← readHere d fuel inner path pos node.untagged
          return (.obj [(c, v)], next)
        | none => .error (.escaping (.unknownVariant c names))
      | none, .scalar text _ _ =>
        if names.contains text then .error (.data (.invalidType .unitVariant "newtype variant") none)
        else .error (.data (.unknownVariant text names) none)
      | none, .mappingStart _ => .error (.data (.invalidType .map "a YAML tag starting with '!'") none)
      | none, .sequenceStart _ => .error (.data (.invalidType .seq "a YAML tag starting with '!'") none)
      | none, _ => mismatch "enum" node
    | .any, .scalar text style tag =>
      match anyValue text style tag with
      | .ok v => .ok (v, pos + 1)
      | .error f => .error (.data f none)
    | .any, .sequenceStart _ => do
      let (items, next) ← readItems d fuel .any path 0 (pos + 1) []
      return (.arr items, next)
    | .any, .mappingStart _ => do
      let (entries, next) ← readEntries d fuel .any path (pos + 1) []
      return (Json.map entries, next)
    | .any, _ => .ok (.null, pos + 1)
    | s, _ => mismatch s.expecting node

def readItems (d : Document) : Nat → Json.Shape → Path → Nat → Nat → List Json → Except Fault (List Json × Nat)
  | 0, _, _, _, _, _ => .error .endOfStream
  | fuel + 1, item, path, index, pos, acc => do
    let (node, _) ← d.node? pos
    match node with
    | .sequenceEnd | .void => return (acc.reverse, pos + 1)
    | _ =>
      let (v, next) ← readNode d fuel item (.item path index) pos
      readItems d fuel item path (index + 1) next (v :: acc)

/-- Reads the entries of a map with text keys up to its end; a later key replaces an earlier
one. -/
def readEntries (d : Document) : Nat → Json.Shape → Path → Nat → List (String × Json) →
    Except Fault (List (String × Json) × Nat)
  | 0, _, _, _, _ => .error .endOfStream
  | fuel + 1, item, path, pos, acc => do
    let (node, _) ← d.node? pos
    match node with
    | .mappingEnd | .void => return (Json.sortFields acc.reverse, pos + 1)
    | _ =>
      let (key, afterKey) ← readNode d fuel .string path pos
      let name := key.asStr?.getD ""
      let valuePath := match node with
        | .scalar _ _ _ => Path.entry path name
        | _ => Path.unknown path
      let (v, next) ← readNode d fuel item valuePath afterKey
      readEntries d fuel item path next ((name, v) :: acc)

/-- Reads the fields of a record up to its end; unknown fields are skipped, a field given twice
is refused. -/
def readFields (d : Document) : Nat → List (String × Json.Shape × Json.Missing) → Path → Nat →
    List (String × Json) → Except Fault (List (String × Json) × Nat)
  | 0, _, _, _, _ => .error .endOfStream
  | fuel + 1, fields, path, pos, got => do
    let (node, _) ← d.node? pos
    match node with
    | .mappingEnd | .void => return (got.reverse, pos + 1)
    | _ =>
      let (key, afterKey) ← readNode d fuel (.string) path pos |>.mapError fun
        | .data (.invalidType f _) p => .data (.invalidType f "field identifier") p
        | f => f
      let name := key.asStr?.getD ""
      let valuePath := match node with
        | .scalar _ _ _ => Path.entry path name
        | _ => Path.unknown path
      match fields.find? (·.1 == name) with
      | some (_, shape, _) =>
        if (got.lookup name).isSome then .error (.data (.duplicateField name) none)
        else
          let (v, next) ← readNode d fuel shape valuePath afterKey
          readFields d fuel fields path next ((name, v) :: got)
      | none =>
        let next ← d.skipNode afterKey
        readFields d fuel fields path next got

def anyValue (text : String) (style : ScalarStyle) (tag : Option String) : Except Json.DataFault Json :=
  (foundOfTagged text style tag).map fun
    | .null => .null
    | .bool b => .bool b
    | .unsigned n => .nat n
    | .signed n => .int n
    | .float x => if x.isFinite then .num (.float x) else .null
    | _ => .str text
end

def readText (shape : Json.Shape) (s : String) : Except Fault Json := do
  let (evs, fault) := events s
  match loadDocument true fault evs #[] [] with
  | (none, _) => .error .endOfStream
  | (some doc, rest) =>
    let (v, _) ← readNode doc (4 * doc.nodes.size + 64) shape .root 0
    if let some f := doc.error then throw f
    match loadDocument false fault rest #[] [] with
    | (none, _) => return v
    | (some _, _) => throw .moreThanOneDocument

end Yaml

end TestConductor
