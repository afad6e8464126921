import TestConductor.Yaml.Token
/-! # The YAML scanner

Turns a YAML text into tokens. Block structure comes from indentation: a line that starts
further in opens a block sequence or mapping, one that starts further out closes blocks with
block-end tokens. A scalar followed by `:` on the same line, within 1024 characters, is a simple
key; its key token, and the mapping start it may open, are put in front of it once the `:` is
seen. A simple key that must be a key, because it starts a block line, is an error if no `:`
follows. Flow collections between brackets and braces ignore indentation.
-/
namespace TestConductor

namespace Yaml

def isBreak (c : Char) : Bool :=
  c == '\r' || c == '\n' || c == '\x85' || c == '\u2028' || c == '\u2029'

def isBlank (c : Char) : Bool := c == ' ' || c == '\t'

def isBlankZ : Option Char → Bool
  | none => true
  | some c => isBlank c || isBreak c

def isBreakZ : Option Char → Bool
  | none => true
  | some c => isBreak c

/-- A character of anchors, directive names and tag handles: ASCII letters and digits, `_`
and `-`. -/
def isWordChar (c : Char) : Bool := c.isAlphanum || c == '_' || c == '-'

def hexDigit? (c : Char) : Option Nat :=
  if '0' ≤ c && c ≤ '9' then some (c.toNat - '0'.toNat)
  else if 'a' ≤ c && c ≤ 'f' then some (c.toNat - 'a'.toNat + 10)
  else if 'A' ≤ c && c ≤ 'F' then some (c.toNat - 'A'.toNat + 10)
  else none

/-- Whether a character may appear in a YAML text: tab, line feed, carriage return, printable
ASCII, next line, and the rest of Unicode except controls, surrogates and the two non-characters
at the end of the basic plane. -/
def isAllowed (c : Char) : Bool :=
  let n := c.toNat
  n == 0x09 || n == 0x0A || n == 0x0D || (0x20 ≤ n && n ≤ 0x7E) || n == 0x85 ||
    (0xA0 ≤ n && n ≤ 0xD7FF) || (0xE000 ≤ n && n ≤ 0xFFFD) || (0x10000 ≤ n && n ≤ 0x10FFFF)

def firstForbidden (s : String) : Option Nat :=
  let rec go (offset : Nat) : List Char → Option Nat
    | [] => none
    | c :: rest => if isAllowed c then go (offset + c.utf8Size) rest else some offset
  go 0 s.toList

/-- A place where a simple key could start. -/
structure SimpleKey where
  possible : Bool
  /-- A key that starts a block line must be a key. -/
  required : Bool
  /-- The number of the token the key would come before, counted from the start. -/
  tokenNumber : Nat
  mark : Mark
  deriving Repr, Inhabited

def SimpleKey.none : SimpleKey := ⟨false, false, 0, Mark.start⟩

/-- The scanner's state. -/
structure Scanner where
  rest : List Char
  mark : Mark
  /-- Tokens fetched and not yet taken, first first. -/
  queue : List Token
  /-- How many tokens the parser has taken. -/
  taken : Nat
  started : Bool
  ended : Bool
  /-- The column of the innermost block, -1 outside all blocks. -/
  indent : Int
  indents : List Int
  keyAllowed : Bool
  /-- One simple key per flow level, the innermost first. -/
  keys : List SimpleKey
  flowLevel : Nat
  deriving Repr, Inhabited

def Scanner.ofString (s : String) : Scanner :=
  let cs := match s.toList with
    | '\uFEFF' :: rest => rest
    | cs => cs
  ⟨cs, Mark.start, [], 0, false, false, -1, [], false, [], 0⟩

abbrev ScanM := StateT Scanner (Except Fault)

def charAt (k : Nat) : ScanM (Option Char) := return (← get).rest[k]?

def isAt (k : Nat) (c : Char) : ScanM Bool := return (← charAt k) == some c

def advance : ScanM Unit := modify fun s =>
  match s.rest with
  | [] => s
  | _ :: r => { s with rest := r, mark := ⟨s.mark.index + 1, s.mark.line, s.mark.column + 1⟩ }

def advanceLine : ScanM Unit := modify fun s =>
  match s.rest with
  | '\r' :: '\n' :: r => { s with rest := r, mark := ⟨s.mark.index + 2, s.mark.line + 1, 0⟩ }
  | c :: r => if isBreak c then { s with rest := r, mark := ⟨s.mark.index + 1, s.mark.line + 1, 0⟩ } else s
  | [] => s

def takeChar : ScanM String := do
  match ← charAt 0 with
  | some c =>
    advance
    return c.toString
  | none => return ""

/-- Takes one line break: carriage returns, line feeds and next-line characters become a line
feed, line and paragraph separators stay. -/
def takeBreak : ScanM String := do
  match ← charAt 0 with
  | some c =>
    if c == '\r' || c == '\n' || c == '\x85' then
      advanceLine
      return "\n"
    else if isBreak c then
      advanceLine
      return c.toString
    else return ""
  | none => return ""

def skipWhile (p : Scanner → Bool) : ScanM Unit := do
  for _ in List.range ((← get).rest.length + 1) do
    if p (← get) then advance else break

/-- Takes characters while a test of the next character holds; the test never holds at a
break. -/
def takeWhile (p : Char → Bool) : ScanM String := do
  let mut out := ""
  for _ in List.range ((← get).rest.length + 1) do
    match ← charAt 0 with
    | some c =>
      if p c then
        advance
        out := out.push c
      else break
    | none => break
  return out

def refuse {α : Type} (context : String) (from_ : Mark) (problem : String) : ScanM α := do
  throw (.malformed problem (← get).mark (some (context, from_)))

def refuseHere {α : Type} (problem : String) : ScanM α := do
  throw (.malformed problem (← get).mark none)

def enqueue (t : Token) : ScanM Unit := modify fun s => { s with queue := s.queue ++ [t] }

def insertAt {α : Type} (xs : List α) (i : Nat) (x : α) : List α := xs.take i ++ x :: xs.drop i

def removeSimpleKey : ScanM Unit := do
  let s ← get
  match s.keys with
  | k :: ks =>
    if k.possible && k.required then
      throw (.malformed "could not find expected ':'" s.mark (some ("while scanning a simple key", k.mark)))
    set { s with keys := { k with possible := false } :: ks }
  | [] => pure ()

def saveSimpleKey : ScanM Unit := do
  let s ← get
  let required := s.flowLevel == 0 && s.indent == (s.mark.column : Int)
  if s.keyAllowed then
    let k : SimpleKey := ⟨true, required, s.taken + s.queue.length, s.mark⟩
    removeSimpleKey
    modify fun s => { s with keys := match s.keys with
      | _ :: ks => k :: ks
      | [] => [k] }

/-- Simple keys on an earlier line, or more than 1024 characters back, are no longer possible;
a required one is an error. -/
def staleSimpleKeys : ScanM Unit := do
  let s ← get
  let keys ← s.keys.mapM fun (k : SimpleKey) =>
    if k.possible && (k.mark.line < s.mark.line || k.mark.index + 1024 < s.mark.index) then
      if k.required then
        throw (.malformed "could not find expected ':'" s.mark (some ("while scanning a simple key", k.mark)))
      else pure { k with possible := false }
    else pure k
  set { s with keys := keys }

def increaseFlow : ScanM Unit :=
  modify fun s => { s with keys := SimpleKey.none :: s.keys, flowLevel := s.flowLevel + 1 }

def decreaseFlow : ScanM Unit :=
  modify fun s => if s.flowLevel > 0 then { s with flowLevel := s.flowLevel - 1, keys := s.keys.drop 1 } else s

/-- Opens a block at a column further in, with a start token at the end of the queue or before
a numbered token. -/
def rollIndent (column : Nat) (number : Option Nat) (kind : TokenKind) (m : Mark) : ScanM Unit := do
  let s ← get
  if s.flowLevel == 0 && s.indent < (column : Int) then
    set { s with indents := s.indent :: s.indents, indent := column }
    let t : Token := ⟨kind, m, m⟩
    match number with
    | none => enqueue t
    | some n => modify fun s => { s with queue := insertAt s.queue (n - s.taken) t }

def unrollIndent (column : Int) : ScanM Unit := do
  if (← get).flowLevel == 0 then
    for _ in List.range ((← get).indents.length + 1) do
      let s ← get
      if s.indent > column then
        set (match s.indents with
          | i :: is => { s with indent := i, indents := is }
          | [] => { s with indent := -1 })
        enqueue ⟨.blockEnd, s.mark, s.mark⟩
      else break

def fetchStreamStart : ScanM Unit := do
  modify fun s => { s with indent := -1, keys := [SimpleKey.none], keyAllowed := true, started := true }
  let m := (← get).mark
  enqueue ⟨.streamStart, m, m⟩

def fetchStreamEnd : ScanM Unit := do
  modify fun s => if s.mark.column != 0 then { s with mark := ⟨s.mark.index, s.mark.line + 1, 0⟩ } else s
  unrollIndent (-1)
  removeSimpleKey
  modify fun s => { s with keyAllowed := false }
  let m := (← get).mark
  enqueue ⟨.streamEnd, m, m⟩

/-- Skips blanks, comments and line breaks up to the next token. A tab is skipped only where no
simple key may start or inside flow collections. -/
def scanToNextToken : ScanM Unit := do
  for _ in List.range ((← get).rest.length + 1) do
    let s ← get
    if s.mark.column == 0 && s.rest.head? == some '\uFEFF' then advance
    skipWhile fun s => s.rest.head? == some ' ' ||
      ((s.flowLevel > 0 || !s.keyAllowed) && s.rest.head? == some '\t')
    if (← charAt 0) == some '#' then skipWhile fun s => !isBreakZ s.rest.head?
    match ← charAt 0 with
    | some c =>
      if isBreak c then
        advanceLine
        if (← get).flowLevel == 0 then modify fun s => { s with keyAllowed := true }
      else break
    | none => break

def scanVersionNumber (start : Mark) : ScanM Nat := do
  let digits ← takeWhile Char.isDigit
  if digits.length > 9 then refuse "while scanning a %YAML directive" start "found extremely long version number"
  if digits.isEmpty then refuse "while scanning a %YAML directive" start "did not find expected version number"
  return digits.foldl (fun n c => n * 10 + (c.toNat - '0'.toNat)) 0

def scanTagHandle (directive : Bool) (start : Mark) : ScanM String := do
  if !(← isAt 0 '!') then
    refuse (if directive then "while scanning a tag directive" else "while scanning a tag") start
      "did not find expected '!'"
  advance
  let name ← takeWhile isWordChar
  let mut handle := "!" ++ name
  if ← isAt 0 '!' then
    advance
    handle := handle.push '!'
  else if directive && handle != "!" then
    refuse "while parsing a tag directive" start "did not find expected '!'"
  return handle

def scanUriOctet (directive : Bool) (start : Mark) : ScanM Nat := do
  let context := if directive then "while parsing a %TAG directive" else "while parsing a tag"
  let c0 ← charAt 0
  let c1 ← charAt 1
  let c2 ← charAt 2
  match c0, c1.bind hexDigit?, c2.bind hexDigit? with
  | some '%', some h, some l =>
    advance
    advance
    advance
    return h * 16 + l
  | _, _, _ => refuse context start "did not find URI escaped octet"

def scanUriEscapes (directive : Bool) (start : Mark) : ScanM String := do
  let context := if directive then "while parsing a %TAG directive" else "while parsing a tag"
  let first ← scanUriOctet directive start
  let width :=
    if first &&& 0x80 == 0 then 1 else if first &&& 0xE0 == 0xC0 then 2
    else if first &&& 0xF0 == 0xE0 then 3 else if first &&& 0xF8 == 0xF0 then 4 else 0
  if width == 0 then refuse context start "found an incorrect leading UTF-8 octet"
  let mut bytes := #[first.toUInt8]
  for _ in List.range (width - 1) do
    let b ← scanUriOctet directive start
    if b &&& 0xC0 != 0x80 then refuse context start "found an incorrect trailing UTF-8 octet"
    bytes := bytes.push b.toUInt8
  return (String.fromUTF8? (ByteArray.mk bytes)).getD ""

def isUriChar (flowMarks : Bool) (c : Char) : Bool :=
  isWordChar c || ";/?:@&=+$.%!~*'()".contains c || (flowMarks && ",[]".contains c)

def scanTagUri (flowMarks directive : Bool) (head : String) (start : Mark) : ScanM String := do
  let mut out := String.ofList (head.toList.drop 1)
  let mut count := head.length
  for _ in List.range ((← get).rest.length + 1) do
    match ← charAt 0 with
    | some c =>
      if isUriChar flowMarks c then
        if c == '%' then out := out ++ (← scanUriEscapes directive start)
        else
          advance
          out := out.push c
        count := count + 1
      else break
    | none => break
  if count == 0 then
    refuse (if directive then "while parsing a %TAG directive" else "while parsing a tag") start
      "did not find expected tag URI"
  return out

/-- A directive: `%YAML` with a version or `%TAG` with a handle and prefix, then the end of the
line. -/
def scanDirective : ScanM Token := do
  let start := (← get).mark
  advance
  let name ← takeWhile isWordChar
  if name.isEmpty then refuse "while scanning a directive" start "could not find expected directive name"
  if !isBlankZ (← charAt 0) then
    refuse "while scanning a directive" start "found unexpected non-alphabetical character"
  let kind ← if name == "YAML" then do
      skipWhile fun s => (s.rest.head?.map isBlank).getD false
      let major ← scanVersionNumber start
      if !(← isAt 0 '.') then
        refuse "while scanning a %YAML directive" start "did not find expected digit or '.' character"
      advance
      let minor ← scanVersionNumber start
      pure (TokenKind.versionDirective major minor)
    else if name == "TAG" then do
      skipWhile fun s => (s.rest.head?.map isBlank).getD false
      let handle ← scanTagHandle true start
      if !((← charAt 0).map isBlank).getD false then
        refuse "while scanning a %TAG directive" start "did not find expected whitespace"
      skipWhile fun s => (s.rest.head?.map isBlank).getD false
      let pfx ← scanTagUri true true "" start
      if !isBlankZ (← charAt 0) then
        refuse "while scanning a %TAG directive" start "did not find expected whitespace or line break"
      pure (TokenKind.tagDirective handle pfx)
    else refuse "while scanning a directive" start "found unknown directive name"
  let stop := (← get).mark
  skipWhile fun s => (s.rest.head?.map isBlank).getD false
  if (← charAt 0) == some '#' then skipWhile fun s => !isBreakZ s.rest.head?
  if !isBreakZ (← charAt 0) then
    refuse "while scanning a directive" start "did not find expected comment or line break"
  if ((← charAt 0).map isBreak).getD false then advanceLine
  return ⟨kind, start, stop⟩

def scanAnchor (isAlias : Bool) : ScanM Token := do
  let start := (← get).mark
  advance
  let name ← takeWhile isWordChar
  let stop := (← get).mark
  let next ← charAt 0
  if name.isEmpty || !(isBlankZ next || (next.map fun c => "?:,]\x7d%@`".contains c).getD false) then
    refuse (if isAlias then "while scanning an alias" else "while scanning an anchor") start
      "did not find expected alphabetic or numeric character"
  return ⟨if isAlias then .alias name else .anchor name, start, stop⟩

def scanTag : ScanM Token := do
  let start := (← get).mark
  let (handle, suffix) ← if (← charAt 1) == some '<' then do
      advance
      advance
      let suffix ← scanTagUri true false "" start
      if !(← isAt 0 '>') then refuse "while scanning a tag" start "did not find the expected '>'"
      advance
      pure ("", suffix)
    else do
      let handle ← scanTagHandle false start
      if handle.length > 1 && handle.endsWith "!" then
        pure (handle, ← scanTagUri false false "" start)
      else
        let suffix ← scanTagUri false false handle start
        if suffix.isEmpty then pure ("", "!") else pure ("!", suffix)
  let next ← charAt 0
  if !isBlankZ next && !((← get).flowLevel > 0 && next == some ',') then
    refuse "while scanning a tag" start "did not find expected whitespace or line break"
  return ⟨.tag handle suffix, start, (← get).mark⟩

/-- The line breaks and indentation before the next line of a block scalar; settles the
indentation from the longest blank line if it is not known yet. -/
def scanBlockBreaks (indent : Nat) (start : Mark) : ScanM (Nat × String × Mark) := do
  let mut maxIndent := 0
  let mut breaks := ""
  let mut stop := (← get).mark
  for _ in List.range ((← get).rest.length + 1) do
    skipWhile fun s => (indent == 0 || s.mark.column < indent) && s.rest.head? == some ' '
    let col := (← get).mark.column
    if col > maxIndent then maxIndent := col
    if (indent == 0 || col < indent) && (← charAt 0) == some '\t' then
      refuse "while scanning a block scalar" start "found a tab character where an indentation space is expected"
    if !((← charAt 0).map isBreak).getD false then break
    breaks := breaks ++ (← takeBreak)
    stop := (← get).mark
  let mut settled := indent
  if indent == 0 then
    let parent := (← get).indent
    settled := maxIndent
    if (settled : Int) < parent + 1 then settled := (parent + 1).toNat
    if settled < 1 then settled := 1
  return (settled, breaks, stop)

def scanBlockScalar (literal : Bool) : ScanM Token := do
  let start := (← get).mark
  advance
  let mut chomping : Int := 0
  let mut increment := 0
  let c ← charAt 0
  if c == some '+' || c == some '-' then
    chomping := if c == some '+' then 1 else -1
    advance
    if let some d := (← charAt 0) then
      if d.isDigit then
        if d == '0' then refuse "while scanning a block scalar" start "found an indentation indicator equal to 0"
        increment := d.toNat - '0'.toNat
        advance
  else if let some d := c then
    if d.isDigit then
      if d == '0' then refuse "while scanning a block scalar" start "found an indentation indicator equal to 0"
      increment := d.toNat - '0'.toNat
      advance
      let e ← charAt 0
      if e == some '+' || e == some '-' then
        chomping := if e == some '+' then 1 else -1
        advance
  skipWhile fun s => (s.rest.head?.map isBlank).getD false
  if (← charAt 0) == some '#' then skipWhile fun s => !isBreakZ s.rest.head?
  if !isBreakZ (← charAt 0) then
    refuse "while scanning a block scalar" start "did not find expected comment or line break"
  if ((← charAt 0).map isBreak).getD false then advanceLine
  let mut stop := (← get).mark
  let parent := (← get).indent
  let mut indent : Nat := 0
  if increment > 0 then indent := if parent ≥ 0 then (parent + increment).toNat else increment
  let (i, firstBreaks, e) ← scanBlockBreaks indent start
  indent := i
  let mut trailing := firstBreaks
  stop := e
  let mut out := ""
  let mut leadingBreak := ""
  let mut leadingBlank := false
  for _ in List.range ((← get).rest.length + 1) do
    if (← get).mark.column != indent || (← charAt 0).isNone then break
    let trailingBlank := ((← charAt 0).map isBlank).getD false
    if !literal && leadingBreak.startsWith "\n" && !leadingBlank && !trailingBlank then
      if trailing.isEmpty then out := out.push ' '
      leadingBreak := ""
    else
      out := out ++ leadingBreak
      leadingBreak := ""
    out := out ++ trailing
    trailing := ""
    leadingBlank := ((← charAt 0).map isBlank).getD false
    out := out ++ (← takeWhile fun c => !isBreak c)
    leadingBreak := ← takeBreak
    let (_, more, e) ← scanBlockBreaks indent start
    trailing := more
    stop := e
  if chomping != -1 then out := out ++ leadingBreak
  if chomping == 1 then out := out ++ trailing
  return ⟨.scalar out (if literal then .literal else .folded), start, stop⟩

def atDocumentMarker : ScanM Bool := do
  let s ← get
  return s.mark.column == 0 && (s.rest.take 3 == ['-', '-', '-'] || s.rest.take 3 == ['.', '.', '.']) &&
    isBlankZ s.rest[3]?

def shortEscape? : Char → Option Char
  | '0' => some '\x00'
  | 'a' => some '\x07'
  | 'b' => some '\x08'
  | 't' => some '\t'
  | '\t' => some '\t'
  | 'n' => some '\n'
  | 'v' => some '\x0B'
  | 'f' => some '\x0C'
  | 'r' => some '\r'
  | 'e' => some '\x1B'
  | ' ' => some ' '
  | '"' => some '"'
  | '/' => some '/'
  | '\'' => some '\''
  | '\\' => some '\\'
  | 'N' => some '\x85'
  | '_' => some '\xA0'
  | 'L' => some '\u2028'
  | 'P' => some '\u2029'
  | _ => none

def escapeWidth? : Char → Option Nat
  | 'x' => some 2
  | 'u' => some 4
  | 'U' => some 8
  | _ => none

/-- A single- or double-quoted scalar. Line breaks inside fold to a space, or to the breaks
that follow them; a backslash before a break joins the lines. -/
def scanFlowScalar (single : Bool) : ScanM Token := do
  let start := (← get).mark
  advance
  let mut out := ""
  for _ in List.range ((← get).rest.length + 1) do
    if ← atDocumentMarker then
      refuse "while scanning a quoted scalar" start "found unexpected document indicator"
    if (← charAt 0).isNone then
      refuse "while scanning a quoted scalar" start "found unexpected end of stream"
    let mut leadingBlanks := false
    let mut closed := false
    for _ in List.range ((← get).rest.length + 1) do
      let c ← charAt 0
      if isBlankZ c then break
      let n ← charAt 1
      if single && c == some '\'' && n == some '\'' then
        out := out.push '\''
        advance
        advance
      else if c == some (if single then '\'' else '"') then
        closed := true
        break
      else if !single && c == some '\\' && (n.map isBreak).getD false then
        advance
        advanceLine
        leadingBlanks := true
        break
      else if !single && c == some '\\' then
        let e := n.getD ' '
        match shortEscape? e, escapeWidth? e with
        | some ch, _ =>
          out := out.push ch
          advance
          advance
        | none, some width =>
          advance
          advance
          let digits := (← get).rest.take width
          let values := digits.filterMap hexDigit?
          if digits.length != width || values.length != width then
            refuse "while parsing a quoted scalar" start "did not find expected hexadecimal number"
          let code := values.foldl (fun v d => v * 16 + d) 0
          if (0xD800 ≤ code && code ≤ 0xDFFF) || code > 0x10FFFF then
            refuse "while parsing a quoted scalar" start "found invalid Unicode character escape code"
          out := out.push (Char.ofNat code)
          for _ in List.range width do advance
        | none, none => refuse "while parsing a quoted scalar" start "found unknown escape character"
      else
        out := out ++ (← takeChar)
    if closed then break
    let mut whitespace := ""
    let mut leadingBreak := ""
    let mut trailing := ""
    for _ in List.range ((← get).rest.length + 1) do
      match ← charAt 0 with
      | some c =>
        if isBlank c then
          if !leadingBlanks then whitespace := whitespace ++ (← takeChar) else advance
        else if isBreak c then
          if !leadingBlanks then
            whitespace := ""
            leadingBreak := ← takeBreak
            leadingBlanks := true
          else trailing := trailing ++ (← takeBreak)
        else break
      | none => break
    if leadingBlanks then
      if leadingBreak.startsWith "\n" then
        out := out ++ (if trailing.isEmpty then " " else trailing)
      else out := out ++ leadingBreak ++ trailing
    else out := out ++ whitespace
  advance
  return ⟨.scalar out (if single then .singleQuoted else .doubleQuoted), start, (← get).mark⟩

/-- A plain scalar: it ends before `: `, before ` #`, at a flow indicator inside flow
collections, and at a line that starts further out than the block it belongs to. Inside flow
collections a colon right before a flow indicator is refused. -/
def scanPlainScalar : ScanM Token := do
  let start := (← get).mark
  let mut stop := start
  let indent := (← get).indent + 1
  let mut out := ""
  let mut leadingBlanks := false
  let mut whitespace := ""
  let mut leadingBreak := ""
  let mut trailing := ""
  for _ in List.range ((← get).rest.length + 1) do
    if ← atDocumentMarker then break
    if (← charAt 0) == some '#' then break
    for _ in List.range ((← get).rest.length + 1) do
      let s ← get
      let c := s.rest[0]?
      let n := s.rest[1]?
      if isBlankZ c then break
      if s.flowLevel > 0 && c == some ':' && (n.map fun d => ",?[]\x7b\x7d".contains d).getD false then
        refuse "while scanning a plain scalar" start "found unexpected ':'"
      if (c == some ':' && isBlankZ n) ||
          (s.flowLevel > 0 && (c.map fun d => ",[]\x7b\x7d".contains d).getD false) then break
      if leadingBlanks || !whitespace.isEmpty then
        if leadingBlanks then
          if leadingBreak.startsWith "\n" then
            out := out ++ (if trailing.isEmpty then " " else trailing)
          else out := out ++ leadingBreak ++ trailing
          leadingBreak := ""
          trailing := ""
          leadingBlanks := false
        else
          out := out ++ whitespace
          whitespace := ""
      out := out ++ (← takeChar)
      stop := (← get).mark
    let c ← charAt 0
    if !((c.map fun d => isBlank d || isBreak d).getD false) then break
    for _ in List.range ((← get).rest.length + 1) do
      match ← charAt 0 with
      | some d =>
        if isBlank d then
          if leadingBlanks && ((← get).mark.column : Int) < indent && d == '\t' then
            refuse "while scanning a plain scalar" start "found a tab character that violates indentation"
          if !leadingBlanks then whitespace := whitespace ++ (← takeChar) else advance
        else if isBreak d then
          if !leadingBlanks then
            whitespace := ""
            leadingBreak := ← takeBreak
            leadingBlanks := true
          else trailing := trailing ++ (← takeBreak)
        else break
      | none => break
    if (← get).flowLevel == 0 && ((← get).mark.column : Int) < indent then break
  if leadingBlanks then modify fun s => { s with keyAllowed := true }
  return ⟨.scalar out .plain, start, stop⟩

def startsPlain (s : Scanner) : Bool :=
  let c := s.rest[0]?
  let n := s.rest[1]?
  let indicator := (c.map fun d => "-?:,[]\x7b\x7d#&*!|>'\"%@`".contains d).getD false
  !(isBlankZ c || indicator) ||
    (c == some '-' && !((n.map isBlank).getD false)) ||
    (s.flowLevel == 0 && (c == some '?' || c == some ':') && !isBlankZ n)

def fetchNextToken : ScanM Unit := do
  if !(← get).started then
    fetchStreamStart
  else
    scanToNextToken
    staleSimpleKeys
    unrollIndent (← get).mark.column
    let s ← get
    let m := s.mark
    let c := s.rest[0]?
    let n := s.rest[1]?
    let simple (kind : TokenKind) : ScanM Unit := do
      let st := (← get).mark
      advance
      enqueue ⟨kind, st, (← get).mark⟩
    match c with
    | none => fetchStreamEnd
    | some ch =>
      if m.column == 0 && ch == '%' then
        unrollIndent (-1)
        removeSimpleKey
        modify fun s => { s with keyAllowed := false }
        enqueue (← scanDirective)
      else if m.column == 0 && (s.rest.take 3 == ['-', '-', '-'] || s.rest.take 3 == ['.', '.', '.']) &&
          isBlankZ s.rest[3]? then
        unrollIndent (-1)
        removeSimpleKey
        modify fun s => { s with keyAllowed := false }
        advance
        advance
        advance
        enqueue ⟨if ch == '-' then .documentStart else .documentEnd, m, (← get).mark⟩
      else if ch == '[' || ch == '{' then
        saveSimpleKey
        increaseFlow
        modify fun s => { s with keyAllowed := true }
        simple (if ch == '[' then .flowSequenceStart else .flowMappingStart)
      else if ch == ']' || ch == '}' then
        removeSimpleKey
        decreaseFlow
        modify fun s => { s with keyAllowed := false }
        simple (if ch == ']' then .flowSequenceEnd else .flowMappingEnd)
      else if ch == ',' then
        removeSimpleKey
        modify fun s => { s with keyAllowed := true }
        simple .flowEntry
      else if ch == '-' && isBlankZ n then
        if s.flowLevel == 0 then
          if !s.keyAllowed then refuseHere "block sequence entries are not allowed in this context"
          rollIndent m.column none .blockSequenceStart m
        removeSimpleKey
        modify fun s => { s with keyAllowed := true }
        simple .blockEntry
      else if ch == '?' && (s.flowLevel > 0 || isBlankZ n) then
        if s.flowLevel == 0 then
          if !s.keyAllowed then refuseHere "mapping keys are not allowed in this context"
          rollIndent m.column none .blockMappingStart m
        removeSimpleKey
        modify fun s => { s with keyAllowed := s.flowLevel == 0 }
        simple .key
      else if ch == ':' && (s.flowLevel > 0 || isBlankZ n) then
        match s.keys with
        | k :: ks =>
          if k.possible then
            modify fun s => { s with queue := insertAt s.queue (k.tokenNumber - s.taken) ⟨.key, k.mark, k.mark⟩ }
            rollIndent k.mark.column (some k.tokenNumber) .blockMappingStart k.mark
            modify fun s => { s with keys := { k with possible := false } :: ks, keyAllowed := false }
          else
            if s.flowLevel == 0 then
              if !s.keyAllowed then refuseHere "mapping values are not allowed in this context"
              rollIndent m.column none .blockMappingStart m
            modify fun s => { s with keyAllowed := s.flowLevel == 0 }
        | [] => pure ()
        simple .value
      else if ch == '*' || ch == '&' then
        saveSimpleKey
        modify fun s => { s with keyAllowed := false }
        enqueue (← scanAnchor (ch == '*'))
      else if ch == '!' then
        saveSimpleKey
        modify fun s => { s with keyAllowed := false }
        enqueue (← scanTag)
      else if (ch == '|' || ch == '>') && s.flowLevel == 0 then
        removeSimpleKey
        modify fun s => { s with keyAllowed := true }
        enqueue (← scanBlockScalar (ch == '|'))
      else if ch == '\'' || ch == '"' then
        saveSimpleKey
        modify fun s => { s with keyAllowed := false }
        enqueue (← scanFlowScalar (ch == '\''))
      else if startsPlain s then
        saveSimpleKey
        modify fun s => { s with keyAllowed := false }
        enqueue (← scanPlainScalar)
      else
        refuse "while scanning for the next token" m "found character that cannot start any token"

/-- Fetches tokens until the first one can be taken: none is queued, or a simple key that could
still become a key waits at it. -/
def fetchMoreTokens : ScanM Unit := do
  for _ in List.range (4 * (← get).rest.length + 16) do
    let s ← get
    let needMore ← if s.queue.isEmpty then pure true else do
      staleSimpleKeys
      let s ← get
      pure (s.keys.any fun k => k.possible && k.tokenNumber == s.taken)
    if !needMore || (← get).ended then break
    fetchNextToken
    if ((← get).queue.getLast?.map (·.kind == .streamEnd)).getD false then
      modify fun s => { s with ended := true }

def peekToken : ScanM Token := do
  fetchMoreTokens
  match (← get).queue with
  | t :: _ => return t
  | [] => return ⟨.streamEnd, (← get).mark, (← get).mark⟩

def skipToken : ScanM Unit :=
  modify fun s => { s with queue := s.queue.drop 1, taken := s.taken + 1 }

end Yaml

end TestConductor
