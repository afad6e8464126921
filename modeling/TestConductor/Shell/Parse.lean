import TestConductor.Shell.Syntax
/-! # Shell scripts: reading

Reads a script into commands, one complete command (up to a line end) at a time, as the shell
does: a script runs line by line, so a syntax error on a later line stops the script only when
it is reached.
-/
namespace TestConductor

namespace Shell

/-- A syntax error and the line where it was found. -/
structure SyntaxError where
  message : String
  line : Nat
  deriving Inhabited

/-- A token of the shell language. -/
inductive Tok where
  | eof
  | newline
  | semi
  | amp
  | andIf
  | orIf
  | bar
  | lparen
  | rparen
  | dsemi
  /-- A redirection operator and the descriptor written right before it. -/
  | redirOp (op : String) (fd : Option Nat)
  /-- A word, and whether any of it was quoted. -/
  | word (w : Word) (quoted : Bool)
  | reserved (w : String)
  deriving Inhabited

namespace Tok

def name : Tok → String
  | .eof => "end of file"
  | .newline => "newline"
  | .semi => "\";\""
  | .amp => "\"&\""
  | .andIf => "\"&&\""
  | .orIf => "\"||\""
  | .bar => "\"|\""
  | .lparen => "\"(\""
  | .rparen => "\")\""
  | .dsemi => "\";;\""
  | .redirOp _ _ => "redirection"
  | .word _ _ => "word"
  | .reserved w => "\"" ++ w ++ "\""

def endsList : Tok → Bool
  | .eof | .rparen | .dsemi => true
  | .reserved w => ["do", "done", "elif", "else", "esac", "fi", "then", "\x7d"].contains w
  | _ => false

def isReserved (k : String) : Tok → Bool
  | .reserved w => w == k
  | _ => false

end Tok

/-- A here-document whose text is still to be read. -/
structure PendingDoc where
  id : Nat
  marker : String
  stripTabs : Bool
  /-- Whether the text undergoes expansions: the marker was not quoted. -/
  expand : Bool

/-- The state of the reader. -/
structure Reader where
  rest : List Char
  line : Nat
  back : Option Tok := none
  pending : List PendingDoc := []
  /-- The here-documents read, by number. -/
  docs : List (Nat × Word) := []
  nextDoc : Nat := 0
  /-- The last word read, which a `case` pattern that is not a word stands for. -/
  lastWord : Word := []

abbrev ReadM := StateT Reader (Except SyntaxError)

/-- What the next token is checked for: line ends to skip, reserved words, and a here-document
marker, in which `$` and backquotes are plain text. -/
structure Check where
  newlines : Bool := false
  keywords : Bool := false
  eofMark : Bool := false

def syntaxError {α : Type} (msg : String) : ReadM α := do
  throw ⟨msg, (← get).line⟩

def failUnexpected {α : Type} (t : Tok) : ReadM α := syntaxError (t.name ++ " unexpected")

def failExpect {α : Type} (t : Tok) (expected : String) : ReadM α :=
  syntaxError (t.name ++ " unexpected (expecting " ++ expected ++ ")")

def newlinesIn (cs : List Char) : Nat := (cs.filter (· == '\n')).length

def dropContinuations : List Char → Nat → List Char × Nat
  | '\\' :: '\n' :: cs, n => dropContinuations cs (n + 1)
  | cs, n => (cs, n)

def dropBlanks : List Char → Nat → List Char × Nat
  | ' ' :: cs, n => dropBlanks cs n
  | '\t' :: cs, n => dropBlanks cs n
  | '\\' :: '\n' :: cs, n => dropBlanks cs (n + 1)
  | '#' :: cs, n => (cs.dropWhile (· != '\n'), n)
  | cs, n => (cs, n)

def eatContinuations : ReadM Unit := modify fun r =>
  let (cs, n) := dropContinuations r.rest 0
  { r with rest := cs, line := r.line + n }

def peekChar : ReadM (Option Char) := do
  eatContinuations
  return (← get).rest.head?

def takeRaw : ReadM (Option Char) := modifyGet fun r =>
  match r.rest with
  | c :: cs => (some c, { r with rest := cs, line := if c == '\n' then r.line + 1 else r.line })
  | [] => (none, r)

def takeChar : ReadM (Option Char) := do
  eatContinuations
  takeRaw

def skipChar : ReadM Unit := do
  let _ ← takeRaw

def unread : Option Char → ReadM Unit
  | some c => modify fun r => { r with rest := c :: r.rest, line := if c == '\n' then r.line - 1 else r.line }
  | none => pure ()

def pushBack (t : Tok) : ReadM Unit := modify fun r => { r with back := some t }

def spanChars (p : Char → Bool) : List Char → Nat → List Char × List Char × Nat
  | '\\' :: '\n' :: cs, n => spanChars p cs (n + 1)
  | c :: cs, n =>
    if p c then
      let (a, b, m) := spanChars p cs n
      (c :: a, b, m)
    else ([], c :: cs, n)
  | [], n => ([], [], n)

def takeWhileChars (p : Char → Bool) : ReadM String := modifyGet fun r =>
  let (a, b, n) := spanChars p r.rest 0
  (String.ofList a, { r with rest := b, line := r.line + n })

def takeRun (p : Char → Bool) : ReadM String := modifyGet fun r =>
  let run := r.rest.takeWhile p
  (String.ofList run, { r with rest := r.rest.drop run.length, line := r.line + newlinesIn run })

def pushPlain (w : Word) (s : String) : Word :=
  match w.getLast? with
  | some (.plain t) => w.dropLast ++ [.plain (t ++ s)]
  | _ => w ++ [.plain s]

def pushQuoted (w : Word) (s : String) : Word :=
  match w.getLast? with
  | some (.quoted t) => w.dropLast ++ [.quoted (t ++ s)]
  | _ => w ++ [.quoted s]

def addPart (w : Word) : Part → Word
  | .plain s => pushPlain w s
  | .quoted s => pushQuoted w s
  | p => w ++ [p]

def endsWord (c : Char) : Bool :=
  c == ' ' || c == '\t' || c == '\n' || c == ';' || c == '&' || c == '|' || c == '(' ||
  c == ')' || c == '<' || c == '>'

def plainOutside (c : Char) : Bool :=
  !endsWord c && c != '\\' && c != '\'' && c != '"' && c != '$' && c != '`'

def plainInside (c : Char) : Bool := c != '\\' && c != '"' && c != '$' && c != '`'

def isSpecialParam (c : Char) : Bool := "#?$!-*@".contains c || c.isDigit

def markerText (w : Word) : String :=
  String.join (w.map fun
    | .plain s | .quoted s => s
    | _ => "")

def classify (keywords : Bool) (t : Tok) : Tok :=
  match keywords, t with
  | true, .word w false =>
    match plainText? w with
    | some s => if reservedWords.contains s then .reserved s else t
    | none => t
  | _, _ => t

def assignment? : Word → Option (String × Word)
  | .plain s :: rest =>
    let cs := s.toList
    let nameCs := cs.takeWhile (· != '=')
    if nameCs.length < cs.length && isName (String.ofList nameCs) then
      let value := String.ofList (cs.drop (nameCs.length + 1))
      some (String.ofList nameCs, (if value.isEmpty then [] else [.plain value]) ++ rest)
    else none
  | _ => none

def specialBuiltins : List String :=
  [".", ":", "break", "continue", "eval", "exec", "exit", "export", "local", "readonly",
   "return", "set", "shift", "times", "trap", "unset"]

def patternOf (t : Tok) : ReadM Word :=
  match t with
  | .word w _ => pure w
  | .reserved k => pure [.plain k]
  | _ => return (← get).lastWord

/-- How a list of commands is read: at the top, where a line end ends it; inside a compound
command, where line ends are skipped and reserved words end it; or where it may be empty. -/
inductive ListMode where
  | top
  | inner
  | mayBeEmpty
  deriving DecidableEq

def readRedirOp (fd : Option Nat) : ReadM Tok := do
  match ← takeChar with
  | some '>' =>
    match ← peekChar with
    | some '>' => skipChar; return .redirOp ">>" fd
    | some '|' => skipChar; return .redirOp ">|" fd
    | some '&' => skipChar; return .redirOp ">&" fd
    | _ => return .redirOp ">" fd
  | _ =>
    match ← peekChar with
    | some '<' =>
      skipChar
      if (← peekChar) == some '-' then
        skipChar
        return .redirOp "<<-" fd
      else return .redirOp "<<" fd
    | some '&' => skipChar; return .redirOp "<&" fd
    | some '>' => skipChar; return .redirOp "<>" fd
    | _ => return .redirOp "<" fd

mutual

def nextToken : Nat → Bool → ReadM Tok
  | 0, _ => syntaxError "nesting too deep"
  | fuel + 1, eofMark => do
    match (← get).back with
    | some t =>
      modify fun r => { r with back := none }
      return t
    | none => lexToken fuel eofMark

def lexToken : Nat → Bool → ReadM Tok
  | 0, _ => syntaxError "nesting too deep"
  | fuel + 1, eofMark => do
    modify fun r =>
      let (cs, n) := dropBlanks r.rest 0
      { r with rest := cs, line := r.line + n }
    match ← peekChar with
    | none => return .eof
    | some '\n' => skipChar; return .newline
    | some '&' =>
      skipChar
      if (← peekChar) == some '&' then
        skipChar
        return .andIf
      else return .amp
    | some '|' =>
      skipChar
      if (← peekChar) == some '|' then
        skipChar
        return .orIf
      else return .bar
    | some ';' =>
      skipChar
      if (← peekChar) == some ';' then
        skipChar
        return .dsemi
      else return .semi
    | some '(' => skipChar; return .lparen
    | some ')' => skipChar; return .rparen
    | some _ => readWordToken fuel eofMark

def readWordToken : Nat → Bool → ReadM Tok
  | 0, _ => syntaxError "nesting too deep"
  | fuel + 1, eofMark => do
    let (w, quoted) ← wordBase fuel eofMark [] false
    let c ← peekChar
    let fd? : Option (Option Nat) := match w with
      | [] => some none
      | [.plain s] =>
        match s.toList with
        | [d] => if d.isDigit then some (some (d.toNat - '0'.toNat)) else none
        | _ => none
      | _ => none
    match c == some '<' || c == some '>', quoted, fd? with
    | true, false, some fd => readRedirOp fd
    | _, _, _ =>
      modify fun r => { r with lastWord := w }
      return .word w quoted

/-- Reads the characters of a word outside quotes; gives the word and whether any of it was
quoted. -/
def wordBase : Nat → Bool → Word → Bool → ReadM (Word × Bool)
  | 0, _, _, _ => syntaxError "nesting too deep"
  | fuel + 1, eofMark, w, quoted => do
    match ← peekChar with
    | none => return (w, quoted)
    | some c =>
      if endsWord c then return (w, quoted)
      else if c == '\\' then
        skipChar
        match ← takeRaw with
        | none => return (pushQuoted w "\\", quoted)
        | some d => wordBase fuel eofMark (pushQuoted w (String.singleton d)) true
      else if c == '\'' then
        skipChar
        let s ← singleQuoted
        wordBase fuel eofMark (pushQuoted w s) true
      else if c == '"' then
        skipChar
        let w ← doubleQuoted fuel w false
        wordBase fuel eofMark w true
      else if c == '$' then
        skipChar
        if eofMark then wordBase fuel eofMark (pushPlain w "$") quoted
        else
          let p ← dollar fuel false
          wordBase fuel eofMark (addPart w p) quoted
      else if c == '`' then
        skipChar
        if eofMark then wordBase fuel eofMark (pushPlain w "`") true
        else
          let p ← backquote fuel false
          wordBase fuel eofMark (addPart w p) quoted
      else
        let run ← takeRun plainOutside
        wordBase fuel eofMark (pushPlain w run) quoted

def singleQuoted : ReadM String := do
  let r ← get
  let body := r.rest.takeWhile (· != '\'')
  match r.rest.drop body.length with
  | _ :: rest =>
    set { r with rest := rest, line := r.line + newlinesIn body }
    return String.ofList body
  | [] =>
    set { r with rest := [], line := r.line + newlinesIn body }
    syntaxError "Unterminated quoted string"

/-- Reads the inside of double quotes onto a word, after the opening quote; an empty pair of
quotes leaves an empty quoted part. -/
def doubleQuoted : Nat → Word → Bool → ReadM Word
  | 0, _, _ => syntaxError "nesting too deep"
  | fuel + 1, w, added => do
    match ← takeChar with
    | none => syntaxError "Unterminated quoted string"
    | some '"' => return (if added then w else pushQuoted w "")
    | some '\\' =>
      match ← takeRaw with
      | none => syntaxError "Unterminated quoted string"
      | some d =>
        if d == '\\' || d == '`' || d == '$' || d == '"' then
          doubleQuoted fuel (pushQuoted w (String.singleton d)) true
        else doubleQuoted fuel (pushQuoted w ("\\" ++ String.singleton d)) true
    | some '$' =>
      let p ← dollar fuel true
      doubleQuoted fuel (addPart w p) true
    | some '`' =>
      let p ← backquote fuel true
      doubleQuoted fuel (addPart w p) true
    | some c =>
      let run ← takeRun plainInside
      doubleQuoted fuel (pushQuoted w (String.singleton c ++ run)) true

def dollar : Nat → Bool → ReadM Part
  | 0, _ => syntaxError "nesting too deep"
  | fuel + 1, dq => do
    let lit : Part := if dq then .quoted "$" else .plain "$"
    match ← peekChar with
    | none => return lit
    | some c =>
      if c == '(' then
        skipChar
        if (← peekChar) == some '(' then
          skipChar
          let w ← arithWord fuel 0 []
          return .arith w dq
        else commandSubst fuel dq
      else if c == '\x7b' || isNameStart c || isSpecialParam c then paramExpansion fuel dq
      else return lit

def paramExpansion : Nat → Bool → ReadM Part
  | 0, _ => syntaxError "nesting too deep"
  | fuel + 1, dq => do
    let braced ← do
      if (← peekChar) == some '\x7b' then
        skipChar
        pure true
      else pure false
    match ← takeChar with
    | some c =>
      if isNameStart c then
        let more ← takeWhileChars isNameChar
        let next ← takeChar
        afterName fuel dq braced false (String.singleton c ++ more) next
      else if c.isDigit then
        let more ← if braced then takeWhileChars Char.isDigit else pure ""
        let next ← takeChar
        afterName fuel dq braced false (String.singleton c ++ more) next
      else if c != '\x7d' then
        let c2 ← takeChar
        if braced && c == '#' then
          match c2 with
          | some d =>
            if d == '_' || d.isAlphanum then
              let more ← if isNameStart d then takeWhileChars isNameChar else takeWhileChars Char.isDigit
              let next ← takeChar
              afterName fuel dq braced true (String.singleton d ++ more) next
            else
              let c3 ← takeChar
              if d == '\x7d' || c3 != some '\x7d' then
                unread c3
                afterName fuel dq braced false "#" (some d)
              else if isSpecialParam d then afterName fuel dq braced true (String.singleton d) c3
              else badParam fuel dq c3
          | none => badParam fuel dq none
        else if isSpecialParam c then afterName fuel dq braced false (String.singleton c) c2
        else badParam fuel dq c2
      else badParam fuel dq (some c)
    | none => badParam fuel dq none

def badParam : Nat → Bool → Option Char → ReadM Part
  | 0, _, _ => syntaxError "nesting too deep"
  | fuel + 1, dq, c => do
    unread c
    let _ ← varWord fuel dq []
    return .param "" .bad dq

def afterName : Nat → Bool → Bool → Bool → String → Option Char → ReadM Part
  | 0, _, _, _, _, _ => syntaxError "nesting too deep"
  | fuel + 1, dq, braced, isLength, name, c => do
    if !braced then
      unread c
      return .param name .value dq
    else if isLength then
      unread c
      if c == some '\x7d' then
        let _ ← varWord fuel dq []
        return .param name .length dq
      else
        let _ ← varWord fuel dq []
        return .param name .bad dq
    else
      let (orNull, c) ← do
        if c == some ':' then
          let c2 ← takeChar
          pure (true, c2)
        else pure (false, c)
      match c with
      | some '\x7d' =>
        if orNull then
          let _ ← varWord fuel dq []
          return .param name .value dq
        else return .param name .value dq
      | some '-' => return .param name (.orElse orNull (← varWord fuel dq [])) dq
      | some '+' => return .param name (.ifSet orNull (← varWord fuel dq [])) dq
      | some '?' => return .param name (.check orNull (← varWord fuel dq [])) dq
      | some '=' => return .param name (.assign orNull (← varWord fuel dq [])) dq
      | some '%' =>
        if orNull then
          let _ ← varWord fuel dq []
          return .param name .bad dq
        else
          let longest ← do
            if (← peekChar) == some '%' then
              skipChar
              pure true
            else pure false
          return .param name (.dropSuffix longest (← varWord fuel dq [])) dq
      | some '#' =>
        if orNull then
          let _ ← varWord fuel dq []
          return .param name .bad dq
        else
          let longest ← do
            if (← peekChar) == some '#' then
              skipChar
              pure true
            else pure false
          return .param name (.dropPrefix longest (← varWord fuel dq [])) dq
      | _ =>
        let _ ← varWord fuel dq []
        return .param name .bad dq

def varWord : Nat → Bool → Word → ReadM Word
  | 0, _, _ => syntaxError "nesting too deep"
  | fuel + 1, dq, w => do
    let eofError := if dq then "Unterminated quoted string" else "Missing '\x7d'"
    match ← takeChar with
    | none => syntaxError eofError
    | some '\x7d' => return w
    | some '\\' =>
      match ← takeRaw with
      | none => syntaxError eofError
      | some d =>
        if !dq || d == '\\' || d == '`' || d == '$' || d == '"' || d == '\x7d' then
          varWord fuel dq (pushQuoted w (String.singleton d))
        else varWord fuel dq (pushQuoted w ("\\" ++ String.singleton d))
    | some '\'' =>
      if dq then varWord fuel dq (pushQuoted w "'")
      else
        let s ← singleQuoted
        varWord fuel dq (pushQuoted w s)
    | some '"' =>
      let w ← doubleQuoted fuel w false
      varWord fuel dq w
    | some '$' =>
      let p ← dollar fuel dq
      varWord fuel dq (addPart w p)
    | some '`' =>
      let p ← backquote fuel dq
      varWord fuel dq (addPart w p)
    | some c =>
      varWord fuel dq (if dq then pushQuoted w (String.singleton c) else pushPlain w (String.singleton c))

def arithWord : Nat → Nat → Word → ReadM Word
  | 0, _, _ => syntaxError "nesting too deep"
  | fuel + 1, level, w => do
    match ← takeChar with
    | none => syntaxError "Missing '))'"
    | some '(' => arithWord fuel (level + 1) (pushPlain w "(")
    | some ')' =>
      if level > 0 then arithWord fuel (level - 1) (pushPlain w ")")
      else if (← peekChar) == some ')' then
        skipChar
        return w
      else arithWord fuel level (pushPlain w ")")
    | some '\\' =>
      match ← takeRaw with
      | none => syntaxError "Missing '))'"
      | some d => arithWord fuel level (pushQuoted w (String.singleton d))
    | some '\'' =>
      let s ← singleQuoted
      arithWord fuel level (pushQuoted w s)
    | some '"' =>
      let w ← doubleQuoted fuel w false
      arithWord fuel level w
    | some '$' =>
      let p ← dollar fuel true
      arithWord fuel level (addPart w p)
    | some '`' =>
      let p ← backquote fuel true
      arithWord fuel level (addPart w p)
    | some c => arithWord fuel level (pushPlain w (String.singleton c))

def commandSubst : Nat → Bool → ReadM Part
  | 0, _ => syntaxError "nesting too deep"
  | fuel + 1, dq => do
    let saved := (← get).pending
    modify fun r => { r with pending := [], back := none }
    let body ← parseList fuel .mayBeEmpty
    let t ← readToken fuel {}
    match t with
    | .rparen => pure ()
    | t => failExpect t "\")\""
    modify fun r => { r with pending := saved }
    return .command (body.getD .nothing) dq

def backquoteText : Nat → Bool → String → ReadM String
  | 0, _, _ => syntaxError "nesting too deep"
  | fuel + 1, dq, acc => do
    match ← takeChar with
    | none => syntaxError "EOF in backquote substitution"
    | some '`' => return acc
    | some '\\' =>
      match ← takeRaw with
      | none => syntaxError "EOF in backquote substitution"
      | some d =>
        let keep := d != '\\' && d != '`' && d != '$' && (!dq || d != '"')
        backquoteText fuel dq (acc ++ (if keep then "\\" else "") ++ String.singleton d)
    | some c => backquoteText fuel dq (acc.push c)

/-- Reads a command substitution in backquotes: its text is read first, then read again as
commands. -/
def backquote : Nat → Bool → ReadM Part
  | 0, _ => syntaxError "nesting too deep"
  | fuel + 1, dq => do
    let text ← backquoteText fuel dq ""
    let saved ← get
    set { saved with rest := text.toList, back := none, pending := [] }
    let body ← parseList fuel .mayBeEmpty
    modify fun r =>
      { r with rest := saved.rest, line := saved.line, back := saved.back, pending := saved.pending }
    return .command (body.getD .nothing) dq

def readDocs : Nat → ReadM Unit
  | 0 => syntaxError "nesting too deep"
  | fuel + 1 => do
    let ps := (← get).pending
    modify fun r => { r with pending := [] }
    for p in ps do
      let body ← docLines fuel p []
      modify fun r => { r with docs := r.docs ++ [(p.id, body)] }

def docLines : Nat → PendingDoc → Word → ReadM Word
  | 0, _, _ => syntaxError "nesting too deep"
  | fuel + 1, p, w => do
    if p.expand then eatContinuations
    if p.stripTabs then modify fun r => { r with rest := r.rest.dropWhile (· == '\t') }
    let r ← get
    let m := p.marker.toList
    let after := r.rest.drop m.length
    if r.rest.take m.length == m && (after.head? == none || after.head? == some '\n') then
      set { r with rest := after.drop 1, line := if after.isEmpty then r.line else r.line + 1 }
      return w
    else if r.rest.isEmpty then return w
    else
      let w ← docLine fuel p w
      docLines fuel p w

def docLine : Nat → PendingDoc → Word → ReadM Word
  | 0, _, _ => syntaxError "nesting too deep"
  | fuel + 1, p, w => do
    if !p.expand then
      let r ← get
      let body := r.rest.takeWhile (· != '\n')
      let taken := if r.rest.length > body.length then body ++ ['\n'] else body
      set { r with rest := r.rest.drop taken.length, line := r.line + newlinesIn taken }
      return pushQuoted w (String.ofList taken)
    else
      match ← takeChar with
      | none => return w
      | some '\n' => return pushQuoted w "\n"
      | some '\\' =>
        match ← takeRaw with
        | none => return pushQuoted w "\\"
        | some d =>
          if d == '\\' || d == '`' || d == '$' then docLine fuel p (pushQuoted w (String.singleton d))
          else docLine fuel p (pushQuoted w ("\\" ++ String.singleton d))
      | some '$' =>
        let part ← dollar fuel true
        docLine fuel p (addPart w part)
      | some '`' =>
        let part ← backquote fuel true
        docLine fuel p (addPart w part)
      | some c => docLine fuel p (pushQuoted w (String.singleton c))

/-- Reads a token for the grammar: line ends are skipped when asked, reading the
here-documents they bring, and reserved words are recognized when asked. -/
def readToken : Nat → Check → ReadM Tok
  | 0, _ => syntaxError "nesting too deep"
  | fuel + 1, chk => do
    let t ← nextToken fuel chk.eofMark
    let t ← if chk.newlines then skipNewlineToks fuel t else pure t
    return classify chk.keywords t

def skipNewlineToks : Nat → Tok → ReadM Tok
  | 0, _ => syntaxError "nesting too deep"
  | fuel + 1, t => do
    match t with
    | .newline =>
      readDocs fuel
      let t ← nextToken fuel false
      skipNewlineToks fuel t
    | t => return t

def parseList : Nat → ListMode → ReadM (Option Cmd)
  | 0, _ => syntaxError "nesting too deep"
  | fuel + 1, mode => listItems fuel mode false none

def listItems : Nat → ListMode → Bool → Option Cmd → ReadM (Option Cmd)
  | 0, _, _, _ => syntaxError "nesting too deep"
  | fuel + 1, mode, started, acc => do
    let chkNl := mode != .top
    let t ← readToken fuel ⟨chkNl, true, false⟩
    match t with
    | .newline =>
      readDocs fuel
      return acc
    | .eof =>
      readDocs fuel
      pushBack .eof
      return acc
    | _ =>
      pushBack t
      if (mode == .mayBeEmpty || (mode == .inner && started)) && t.endsList then return acc
      let c ← parseAndOr fuel
      let t2 ← readToken fuel {}
      let c := if t2 matches .amp then Cmd.background c else c
      let acc := some (match acc with
        | some a => Cmd.seq a c
        | none => c)
      match t2 with
      | .eof =>
        readDocs fuel
        pushBack .eof
        return acc
      | .newline =>
        pushBack .newline
        listItems fuel mode true acc
      | .amp | .semi => listItems fuel mode true acc
      | t2 =>
        if !chkNl then failUnexpected t2
        else
          pushBack t2
          return acc

def parseAndOr : Nat → ReadM Cmd
  | 0 => syntaxError "nesting too deep"
  | fuel + 1 => do
    let c ← parsePipeline fuel {}
    andOrRest fuel c

def andOrRest : Nat → Cmd → ReadM Cmd
  | 0, _ => syntaxError "nesting too deep"
  | fuel + 1, acc => do
    let t ← readToken fuel {}
    match t with
    | .andIf =>
      let c ← parsePipeline fuel ⟨true, true, false⟩
      andOrRest fuel (.andThen acc c)
    | .orIf =>
      let c ← parsePipeline fuel ⟨true, true, false⟩
      andOrRest fuel (.orElse acc c)
    | t =>
      pushBack t
      return acc

def parsePipeline : Nat → Check → ReadM Cmd
  | 0, _ => syntaxError "nesting too deep"
  | fuel + 1, chk => do
    let t ← readToken fuel chk
    let (neg, chk2) ← do
      if t.isReserved "!" then pure (true, ({ keywords := true } : Check))
      else
        pushBack t
        pure (false, ({} : Check))
    let c ← parseCommand fuel chk2
    let t ← readToken fuel {}
    let c ← do
      if t matches .bar then
        let cs ← pipeRest fuel [c]
        pure (Cmd.pipeline cs)
      else
        pushBack t
        pure c
    return if neg then .negate c else c

def pipeRest : Nat → List Cmd → ReadM (List Cmd)
  | 0, _ => syntaxError "nesting too deep"
  | fuel + 1, acc => do
    let c ← parseCommand fuel ⟨true, true, false⟩
    let t ← readToken fuel {}
    if t matches .bar then pipeRest fuel (acc ++ [c])
    else
      pushBack t
      return acc ++ [c]

def parseInner : Nat → ReadM Cmd
  | 0 => syntaxError "nesting too deep"
  | fuel + 1 => do
    let c ← parseList fuel .inner
    return c.getD .nothing

def expectReserved : Nat → String → ReadM Unit
  | 0, _ => syntaxError "nesting too deep"
  | fuel + 1, k => do
    let t ← readToken fuel {}
    unless t.isReserved k do failExpect t ("\"" ++ k ++ "\"")

def redirTarget : Nat → String → Option Nat → ReadM Redir
  | 0, _, _ => syntaxError "nesting too deep"
  | fuel + 1, op, fd => do
    let isHere := op == "<<" || op == "<<-"
    let t ← readToken fuel { eofMark := isHere }
    match t with
    | .word w quoted =>
      if isHere then
        let r ← get
        let id := r.nextDoc
        let doc : PendingDoc := ⟨id, markerText w, op == "<<-", !quoted⟩
        set { r with nextDoc := id + 1, pending := r.pending ++ [doc] }
        return .here (fd.getD 0) id
      else if op == ">&" || op == "<&" then
        let n := fd.getD (if op == ">&" then 1 else 0)
        let src : DupSource := match plainText? w with
          | some s =>
            match s.toList with
            | [d] => if d.isDigit then .fd (d.toNat - '0'.toNat) else if d == '-' then .close else .word w
            | _ => .word w
          | none => .word w
        return .dup n src
      else
        let n := fd.getD (if op.startsWith ">" then 1 else 0)
        return .file n op w
    | t => failUnexpected t

def compoundRedirs : Nat → Bool → List Redir → ReadM (List Redir)
  | 0, _, _ => syntaxError "nesting too deep"
  | fuel + 1, first, acc => do
    let t ← readToken fuel { keywords := first }
    match t with
    | .redirOp op fd =>
      let r ← redirTarget fuel op fd
      compoundRedirs fuel false (acc ++ [r])
    | t =>
      pushBack t
      return acc

def finishCompound : Nat → Nat → Cmd → ReadM Cmd
  | 0, _, _ => syntaxError "nesting too deep"
  | fuel + 1, line, c => do
    let rs ← compoundRedirs fuel true []
    return if rs.isEmpty then c else .redirected line c rs

def parseIf : Nat → ReadM Cmd
  | 0 => syntaxError "nesting too deep"
  | fuel + 1 => do
    let test ← parseInner fuel
    expectReserved fuel "then"
    let yes ← parseInner fuel
    let t ← readToken fuel {}
    if t.isReserved "elif" then
      let rest ← parseIf fuel
      return .ifThen test yes (some rest)
    else if t.isReserved "else" then
      let no ← parseInner fuel
      expectReserved fuel "fi"
      return .ifThen test yes (some no)
    else
      pushBack t
      expectReserved fuel "fi"
      return .ifThen test yes none

def forWords : Nat → List Word → ReadM (List Word × Tok)
  | 0, _ => syntaxError "nesting too deep"
  | fuel + 1, acc => do
    let t ← readToken fuel {}
    match t with
    | .word w _ => forWords fuel (acc ++ [w])
    | t => return (acc, t)

def casePatterns : Nat → Tok → List Word → ReadM (List Word × Tok)
  | 0, _, _ => syntaxError "nesting too deep"
  | fuel + 1, t, acc => do
    let w ← patternOf t
    let t2 ← readToken fuel {}
    if t2 matches .bar then
      let t3 ← readToken fuel {}
      casePatterns fuel t3 (acc ++ [w])
    else return (acc ++ [w], t2)

def caseArms : Nat → List CaseArm → ReadM (List CaseArm)
  | 0, _ => syntaxError "nesting too deep"
  | fuel + 1, acc => do
    let t ← readToken fuel ⟨true, true, false⟩
    if t.isReserved "esac" then return acc
    let t ← if t matches .lparen then readToken fuel {} else pure t
    let (pats, t) ← casePatterns fuel t []
    unless t matches .rparen do failExpect t "\")\""
    let body ← parseList fuel .mayBeEmpty
    let arm := CaseArm.arm pats (body.getD .nothing)
    let t2 ← readToken fuel ⟨true, true, false⟩
    if t2.isReserved "esac" then return acc ++ [arm]
    else if t2 matches .dsemi then caseArms fuel (acc ++ [arm])
    else failExpect t2 "\";;\""

def parseCommand : Nat → Check → ReadM Cmd
  | 0, _ => syntaxError "nesting too deep"
  | fuel + 1, chk => do
    let line := (← get).line
    let t ← readToken fuel chk
    match t with
    | .reserved "if" =>
      let c ← parseIf fuel
      finishCompound fuel line c
    | .reserved "while" | .reserved "until" =>
      let test ← parseInner fuel
      let t2 ← readToken fuel {}
      unless t2.isReserved "do" do failExpect t2 "\"do\""
      let body ← parseInner fuel
      expectReserved fuel "done"
      finishCompound fuel line (.loop (t.isReserved "until") test body)
    | .reserved "for" =>
      let t2 ← readToken fuel {}
      let name ← match t2 with
        | .word w false =>
          match plainText? w with
          | some s => if isName s then pure s else syntaxError "Bad for loop variable"
          | none => syntaxError "Bad for loop variable"
        | _ => syntaxError "Bad for loop variable"
      let t3 ← readToken fuel ⟨true, true, false⟩
      let items ← do
        if t3.isReserved "in" then
          let (ws, t4) ← forWords fuel []
          match t4 with
          | .newline | .semi => pure ws
          | t4 => failUnexpected t4
        else
          unless t3 matches .semi do pushBack t3
          pure [allParams]
      let t5 ← readToken fuel ⟨true, true, false⟩
      unless t5.isReserved "do" do failExpect t5 "\"do\""
      let body ← parseInner fuel
      expectReserved fuel "done"
      finishCompound fuel line (.forIn line name items body)
    | .reserved "case" =>
      let t2 ← readToken fuel {}
      let subject ← match t2 with
        | .word w _ => pure w
        | t2 => failExpect t2 "word"
      let t3 ← readToken fuel ⟨true, true, false⟩
      unless t3.isReserved "in" do failExpect t3 "\"in\""
      let arms ← caseArms fuel []
      finishCompound fuel line (.caseOf line subject arms)
    | .lparen =>
      let body ← parseInner fuel
      let t2 ← readToken fuel {}
      unless t2 matches .rparen do failExpect t2 "\")\""
      let rs ← compoundRedirs fuel true []
      return .subshell line body rs
    | .reserved "\x7b" =>
      let body ← parseInner fuel
      expectReserved fuel "\x7d"
      finishCompound fuel line body
    | .word _ _ | .redirOp _ _ =>
      pushBack t
      parseSimple fuel
    | t => failUnexpected t

def parseSimple : Nat → ReadM Cmd
  | 0 => syntaxError "nesting too deep"
  | fuel + 1 => do
    let line := (← get).line
    simpleItems fuel line true [] [] []

def simpleItems : Nat → Nat → Bool → List (String × Word) → List Word → List Redir → ReadM Cmd
  | 0, _, _, _, _, _ => syntaxError "nesting too deep"
  | fuel + 1, line, assignMode, as, ws, rs => do
    let t ← readToken fuel {}
    match t with
    | .word w _ =>
      match (if assignMode then assignment? w else none) with
      | some a => simpleItems fuel line true (as ++ [a]) ws rs
      | none => simpleItems fuel line false as (ws ++ [w]) rs
    | .redirOp op fd =>
      let r ← redirTarget fuel op fd
      simpleItems fuel line assignMode as ws (rs ++ [r])
    | .lparen =>
      if ws.length == 1 && as.isEmpty && rs.isEmpty then
        let t2 ← readToken fuel {}
        unless t2 matches .rparen do failExpect t2 "\")\""
        let name := ((ws.head?).bind plainText?).getD ""
        if !isName name || specialBuiltins.contains name then syntaxError "Bad function name"
        let line2 := (← get).line
        let body ← parseCommand fuel ⟨true, true, false⟩
        return .defun line2 name body
      else
        pushBack t
        return .simple line as ws rs
    | t =>
      pushBack t
      return .simple line as ws rs

end

/-- What reading one complete command gave. -/
inductive TopItem where
  /-- The input has ended. -/
  | eof
  /-- An empty line. -/
  | empty
  | cmd (c : Cmd)

def Reader.start (text : String) (firstDoc : Nat) : Reader :=
  { rest := text.toList, line := 1, nextDoc := firstDoc }

def readCommand (r : Reader) : Except SyntaxError (TopItem × Reader) :=
  let fuel := 16 * r.rest.length + 64
  let step : ReadM TopItem := do
    modify fun r => { r with back := none }
    match ← parseList fuel .top with
    | some c => return .cmd c
    | none =>
      match (← get).back with
      | some .eof => return .eof
      | _ => return .empty
  step.run r

/-- The text of a prompt as a word, read as the lines of an unquoted here-document are: its
parameter, arithmetic and command expansions apply, and nothing else is special. -/
def promptWord (text : String) : Except SyntaxError Word :=
  let p : PendingDoc := { id := 0, marker := String.singleton (Char.ofNat 0), stripTabs := false, expand := true }
  (docLines (16 * text.length + 64) p []).run' (Reader.start text 0)

def readAll (text : String) : Except SyntaxError (List Cmd) :=
  let rec go : Nat → Reader → List Cmd → Except SyntaxError (List Cmd)
    | 0, _, acc => .ok acc.reverse
    | n + 1, r, acc =>
      match readCommand r with
      | .ok (.eof, _) => .ok acc.reverse
      | .ok (.empty, r) => go n r acc
      | .ok (.cmd c, r) => go n r (c :: acc)
      | .error e => .error e
  go (text.length + 2) (Reader.start text 0) []

end Shell

end TestConductor
