import TestConductor.Yaml.Scan
/-! # The YAML parser

Turns tokens into events: the start and end of the stream and of each document, scalars,
aliases, and the starts and ends of sequences and mappings, each at the place where its text
starts. A node may carry an anchor and a tag; a tag's handle is replaced by the prefix that a
directive, or the default for `!` and `!!`, gives it. A key or value left out, or a node that is
only an anchor or tag, is an empty plain scalar.
-/
namespace TestConductor

namespace Yaml

/-- What the parser reports. -/
inductive Event where
  | streamStart
  | streamEnd
  | documentStart
  | documentEnd
  | alias (name : String)
  | scalar (anchor tag : Option String) (text : String) (style : ScalarStyle)
  | sequenceStart (anchor tag : Option String)
  | sequenceEnd
  | mappingStart (anchor tag : Option String)
  | mappingEnd
  deriving Repr, Inhabited

/-- Where the parser is in the grammar. -/
inductive ParseState where
  | streamStart
  | implicitDocumentStart
  | documentStart
  | documentContent
  | documentEnd
  | blockNode
  | blockNodeOrIndentlessSequence
  | flowNode
  | blockSequenceFirstEntry
  | blockSequenceEntry
  | indentlessSequenceEntry
  | blockMappingFirstKey
  | blockMappingKey
  | blockMappingValue
  | flowSequenceFirstEntry
  | flowSequenceEntry
  | flowSequenceEntryMappingKey
  | flowSequenceEntryMappingValue
  | flowSequenceEntryMappingEnd
  | flowMappingFirstKey
  | flowMappingKey
  | flowMappingValue
  | flowMappingEmptyValue
  | finished
  deriving DecidableEq, Repr, Inhabited

/-- The parser's state. -/
structure Parser where
  scanner : Scanner
  state : ParseState
  /-- States to return to, the innermost first. -/
  states : List ParseState
  /-- Where the open collections start, the innermost first. -/
  marks : List Mark
  /-- Tag handles and their prefixes in the current document. -/
  tagDirectives : List (String × String)
  deriving Repr, Inhabited

def Parser.ofString (s : String) : Parser := ⟨Scanner.ofString s, .streamStart, [], [], []⟩

abbrev ParseM := StateT Parser (Except Fault)

def scan {α : Type} (m : ScanM α) : ParseM α := fun p => do
  let (a, s) ← m p.scanner
  pure (a, { p with scanner := s })

def peek : ParseM Token := scan peekToken

def skip : ParseM Unit := scan skipToken

def reject {α : Type} (problem : String) (place : Mark) : ParseM α := throw (.malformed problem place none)

def rejectIn {α : Type} (context : String) (from_ : Mark) (problem : String) (place : Mark) : ParseM α :=
  throw (.malformed problem place (some (context, from_)))

def goTo (s : ParseState) : ParseM Unit := modify fun p => { p with state := s }

def pushState (s : ParseState) : ParseM Unit := modify fun p => { p with states := s :: p.states }

def popState : ParseM Unit := modify fun p =>
  match p.states with
  | s :: ss => { p with state := s, states := ss }
  | [] => { p with state := .finished }

def pushMark (m : Mark) : ParseM Unit := modify fun p => { p with marks := m :: p.marks }

def popMark : ParseM Mark := do
  let p ← get
  match p.marks with
  | m :: ms =>
    set { p with marks := ms }
    return m
  | [] => return Mark.start

def emptyScalar (m : Mark) : Event × Mark := (.scalar none none "" .plain, m)

def defaultTagDirectives : List (String × String) := [("!", "!"), ("!!", "tag:yaml.org,2002:")]

def processDirectives : ParseM Unit := do
  let mut versionSeen := false
  let mut tags : List (String × String) := []
  for _ in List.range ((← get).scanner.rest.length + 2) do
    let t ← peek
    match t.kind with
    | .versionDirective major minor =>
      if versionSeen then reject "found duplicate %YAML directive" t.start
      if major != 1 || (minor != 1 && minor != 2) then reject "found incompatible YAML document" t.start
      versionSeen := true
      skip
    | .tagDirective handle pfx =>
      if tags.any (·.1 == handle) then reject "found duplicate %TAG directive" t.start
      tags := tags ++ [(handle, pfx)]
      skip
    | _ => break
  for (h, p) in defaultTagDirectives do
    if !tags.any (·.1 == h) then tags := tags ++ [(h, p)]
  modify fun p => { p with tagDirectives := tags }

def endsContent : TokenKind → Bool
  | .versionDirective _ _ | .tagDirective _ _ | .documentStart | .documentEnd | .streamEnd => true
  | _ => false

def parseDocumentStart (implicit : Bool) : ParseM (Event × Mark) := do
  if !implicit then
    for _ in List.range ((← get).scanner.rest.length + 2) do
      if (← peek).kind == .documentEnd then skip else break
  let t ← peek
  let isDirective := match t.kind with
    | .versionDirective _ _ | .tagDirective _ _ => true
    | _ => false
  if implicit && !isDirective && t.kind != .documentStart && t.kind != .streamEnd then
    processDirectives
    pushState .documentEnd
    goTo .blockNode
    return (.documentStart, t.start)
  else if t.kind != .streamEnd then
    let start := t.start
    processDirectives
    let t ← peek
    if t.kind != .documentStart then reject "did not find expected <document start>" t.start
    pushState .documentEnd
    goTo .documentContent
    skip
    return (.documentStart, start)
  else
    goTo .finished
    skip
    return (.streamEnd, t.start)

def parseNode (block indentlessSequence : Bool) : ParseM (Event × Mark) := do
  let t ← peek
  if let .alias name := t.kind then
    popState
    skip
    return (.alias name, t.start)
  let start := t.start
  let mut anchor : Option String := none
  let mut tagParts : Option (String × String) := none
  let mut tagMark := t.start
  let mut t := t
  if let .anchor name := t.kind then
    anchor := some name
    skip
    t ← peek
    if let .tag h s := t.kind then
      tagParts := some (h, s)
      tagMark := t.start
      skip
      t ← peek
  else if let .tag h s := t.kind then
    tagParts := some (h, s)
    tagMark := t.start
    skip
    t ← peek
    if let .anchor name := t.kind then
      anchor := some name
      skip
      t ← peek
  let mut tag : Option String := none
  if let some (h, s) := tagParts then
    if h.isEmpty then tag := some s
    else
      match (← get).tagDirectives.lookup h with
      | some pfx => tag := some (pfx ++ s)
      | none => rejectIn "while parsing a node" start "found undefined tag handle" tagMark
  if indentlessSequence && t.kind == .blockEntry then
    goTo .indentlessSequenceEntry
    return (.sequenceStart anchor tag, start)
  match t.kind with
  | .scalar text style =>
    popState
    skip
    return (.scalar anchor tag text style, start)
  | .flowSequenceStart =>
    goTo .flowSequenceFirstEntry
    return (.sequenceStart anchor tag, start)
  | .flowMappingStart =>
    goTo .flowMappingFirstKey
    return (.mappingStart anchor tag, start)
  | .blockSequenceStart =>
    if block then
      goTo .blockSequenceFirstEntry
      return (.sequenceStart anchor tag, start)
    else if anchor.isSome || tag.isSome then
      popState
      return (.scalar anchor tag "" .plain, start)
    else rejectIn "while parsing a flow node" start "did not find expected node content" t.start
  | .blockMappingStart =>
    if block then
      goTo .blockMappingFirstKey
      return (.mappingStart anchor tag, start)
    else if anchor.isSome || tag.isSome then
      popState
      return (.scalar anchor tag "" .plain, start)
    else rejectIn "while parsing a flow node" start "did not find expected node content" t.start
  | _ =>
    if anchor.isSome || tag.isSome then
      popState
      return (.scalar anchor tag "" .plain, start)
    else
      rejectIn (if block then "while parsing a block node" else "while parsing a flow node") start
        "did not find expected node content" t.start

def parseBlockSequenceEntry (first : Bool) : ParseM (Event × Mark) := do
  if first then
    pushMark (← peek).start
    skip
  let t ← peek
  match t.kind with
  | .blockEntry =>
    let m := t.stop
    skip
    let t ← peek
    if t.kind != .blockEntry && t.kind != .blockEnd then
      pushState .blockSequenceEntry
      parseNode true false
    else
      goTo .blockSequenceEntry
      return emptyScalar m
  | .blockEnd =>
    popState
    let _ ← popMark
    skip
    return (.sequenceEnd, t.start)
  | _ => rejectIn "while parsing a block collection" (← popMark) "did not find expected '-' indicator" t.start

def parseIndentlessSequenceEntry : ParseM (Event × Mark) := do
  let t ← peek
  if t.kind == .blockEntry then
    let m := t.stop
    skip
    let t ← peek
    if t.kind != .blockEntry && t.kind != .key && t.kind != .value && t.kind != .blockEnd then
      pushState .indentlessSequenceEntry
      parseNode true false
    else
      goTo .indentlessSequenceEntry
      return emptyScalar m
  else
    popState
    return (.sequenceEnd, t.start)

def parseBlockMappingKey (first : Bool) : ParseM (Event × Mark) := do
  if first then
    pushMark (← peek).start
    skip
  let t ← peek
  match t.kind with
  | .key =>
    let m := t.stop
    skip
    let t ← peek
    if t.kind != .key && t.kind != .value && t.kind != .blockEnd then
      pushState .blockMappingValue
      parseNode true true
    else
      goTo .blockMappingValue
      return emptyScalar m
  | .blockEnd =>
    popState
    let _ ← popMark
    skip
    return (.mappingEnd, t.start)
  | _ => rejectIn "while parsing a block mapping" (← popMark) "did not find expected key" t.start

def parseBlockMappingValue : ParseM (Event × Mark) := do
  let t ← peek
  if t.kind == .value then
    let m := t.stop
    skip
    let t ← peek
    if t.kind != .key && t.kind != .value && t.kind != .blockEnd then
      pushState .blockMappingKey
      parseNode true true
    else
      goTo .blockMappingKey
      return emptyScalar m
  else
    goTo .blockMappingKey
    return emptyScalar t.start

def parseFlowSequenceEntry (first : Bool) : ParseM (Event × Mark) := do
  if first then
    pushMark (← peek).start
    skip
  let mut t ← peek
  if t.kind != .flowSequenceEnd then
    if !first then
      if t.kind == .flowEntry then
        skip
        t ← peek
      else
        rejectIn "while parsing a flow sequence" (← popMark) "did not find expected ',' or ']'" t.start
    if t.kind == .key then
      goTo .flowSequenceEntryMappingKey
      skip
      return (.mappingStart none none, t.start)
    else if t.kind != .flowSequenceEnd then
      pushState .flowSequenceEntry
      return ← parseNode false false
  popState
  let _ ← popMark
  skip
  return (.sequenceEnd, t.start)

def parseFlowSequenceEntryMappingKey : ParseM (Event × Mark) := do
  let t ← peek
  if t.kind != .value && t.kind != .flowEntry && t.kind != .flowSequenceEnd then
    pushState .flowSequenceEntryMappingValue
    parseNode false false
  else
    goTo .flowSequenceEntryMappingValue
    return emptyScalar t.start

def parseFlowSequenceEntryMappingValue : ParseM (Event × Mark) := do
  let mut t ← peek
  if t.kind == .value then
    skip
    t ← peek
    if t.kind != .flowEntry && t.kind != .flowSequenceEnd then
      pushState .flowSequenceEntryMappingEnd
      return ← parseNode false false
  goTo .flowSequenceEntryMappingEnd
  return emptyScalar t.start

def parseFlowSequenceEntryMappingEnd : ParseM (Event × Mark) := do
  goTo .flowSequenceEntry
  return (.mappingEnd, (← peek).start)

def parseFlowMappingKey (first : Bool) : ParseM (Event × Mark) := do
  if first then
    pushMark (← peek).start
    skip
  let mut t ← peek
  if t.kind != .flowMappingEnd then
    if !first then
      if t.kind == .flowEntry then
        skip
        t ← peek
      else
        rejectIn "while parsing a flow mapping" (← popMark) "did not find expected ',' or '\x7d'" t.start
    if t.kind == .key then
      skip
      t ← peek
      if t.kind != .value && t.kind != .flowEntry && t.kind != .flowMappingEnd then
        pushState .flowMappingValue
        return ← parseNode false false
      else
        goTo .flowMappingValue
        return emptyScalar t.start
    else if t.kind != .flowMappingEnd then
      pushState .flowMappingEmptyValue
      return ← parseNode false false
  popState
  let _ ← popMark
  skip
  return (.mappingEnd, t.start)

def parseFlowMappingValue (empty : Bool) : ParseM (Event × Mark) := do
  let mut t ← peek
  if empty then
    goTo .flowMappingKey
    return emptyScalar t.start
  if t.kind == .value then
    skip
    t ← peek
    if t.kind != .flowEntry && t.kind != .flowMappingEnd then
      pushState .flowMappingKey
      return ← parseNode false false
  goTo .flowMappingKey
  return emptyScalar t.start

def nextEvent : ParseM (Option (Event × Mark)) := do
  match (← get).state with
  | .streamStart =>
    let t ← peek
    if t.kind != .streamStart then reject "did not find expected <stream-start>" t.start
    goTo .implicitDocumentStart
    skip
    return some (.streamStart, t.start)
  | .implicitDocumentStart => some <$> parseDocumentStart true
  | .documentStart => some <$> parseDocumentStart false
  | .documentContent =>
    let t ← peek
    if endsContent t.kind then
      popState
      return some (emptyScalar t.start)
    else some <$> parseNode true false
  | .documentEnd =>
    let t ← peek
    if t.kind == .documentEnd then skip
    modify fun p => { p with tagDirectives := [] }
    goTo .documentStart
    return some (.documentEnd, t.start)
  | .blockNode => some <$> parseNode true false
  | .blockNodeOrIndentlessSequence => some <$> parseNode true true
  | .flowNode => some <$> parseNode false false
  | .blockSequenceFirstEntry => some <$> parseBlockSequenceEntry true
  | .blockSequenceEntry => some <$> parseBlockSequenceEntry false
  | .indentlessSequenceEntry => some <$> parseIndentlessSequenceEntry
  | .blockMappingFirstKey => some <$> parseBlockMappingKey true
  | .blockMappingKey => some <$> parseBlockMappingKey false
  | .blockMappingValue => some <$> parseBlockMappingValue
  | .flowSequenceFirstEntry => some <$> parseFlowSequenceEntry true
  | .flowSequenceEntry => some <$> parseFlowSequenceEntry false
  | .flowSequenceEntryMappingKey => some <$> parseFlowSequenceEntryMappingKey
  | .flowSequenceEntryMappingValue => some <$> parseFlowSequenceEntryMappingValue
  | .flowSequenceEntryMappingEnd => some <$> parseFlowSequenceEntryMappingEnd
  | .flowMappingFirstKey => some <$> parseFlowMappingKey true
  | .flowMappingKey => some <$> parseFlowMappingKey false
  | .flowMappingValue => some <$> parseFlowMappingValue false
  | .flowMappingEmptyValue => some <$> parseFlowMappingValue true
  | .finished => return none

def events (s : String) : List (Event × Mark) × Option Fault :=
  match firstForbidden s with
  | some offset => ([], some (.control offset))
  | none =>
    let fuel := 8 * s.length + 16
    let rec go : Nat → Parser → List (Event × Mark) → List (Event × Mark) × Option Fault
      | 0, _, acc => (acc.reverse, none)
      | n + 1, p, acc =>
        match nextEvent p with
        | .error f => (acc.reverse, some f)
        | .ok (none, _) => (acc.reverse, none)
        | .ok (some e, p') => go n p' (e :: acc)
    go fuel (Parser.ofString s) []

end Yaml

end TestConductor
