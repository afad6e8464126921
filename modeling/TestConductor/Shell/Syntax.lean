/-! # Shell scripts: the syntax tree

What the shell reads a script into. A word is a sequence of parts: text written plainly, text
that quotes protect, and expansions of parameters, of arithmetic and of commands. The parts
remember whether they stood inside double quotes, since that decides whether their results are
split into fields and matched against file names.
-/
namespace TestConductor

namespace Shell

mutual

/-- A part of a word. -/
inductive Part where
  /-- Text written without quotes: subject to tilde expansion and file-name matching. -/
  | plain (text : String)
  /-- Text protected by quotes or a backslash. -/
  | quoted (text : String)
  /-- A parameter expansion, inside double quotes when `inQuotes`. -/
  | param (name : String) (op : ParamOp) (inQuotes : Bool)
  /-- An arithmetic expansion of the expression its parts expand to. -/
  | arith (expr : List Part) (inQuotes : Bool)
  /-- A command substitution. -/
  | command (body : Cmd) (inQuotes : Bool)

/-- What a parameter expansion does with the parameter's value. -/
inductive ParamOp where
  /-- `$name` or `${name}`. -/
  | value
  /-- `${#name}`: the length of the value. -/
  | length
  /-- `${name-word}`, or `${name:-word}` when `orNull`: the word when unset (or null). -/
  | orElse (orNull : Bool) (word : List Part)
  /-- `${name=word}`, `${name:=word}`: assigns the word when unset (or null). -/
  | assign (orNull : Bool) (word : List Part)
  /-- `${name?word}`, `${name:?word}`: fails with the word as message when unset (or null). -/
  | check (orNull : Bool) (word : List Part)
  /-- `${name+word}`, `${name:+word}`: the word when set (and not null). -/
  | ifSet (orNull : Bool) (word : List Part)
  /-- `${name#pattern}` and, when `longest`, `${name##pattern}`. -/
  | dropPrefix (longest : Bool) (pattern : List Part)
  /-- `${name%pattern}` and, when `longest`, `${name%%pattern}`. -/
  | dropSuffix (longest : Bool) (pattern : List Part)
  /-- A malformed expansion, refused when it is expanded. -/
  | bad

/-- Where a descriptor copied by `>&` or `<&` comes from. -/
inductive DupSource where
  | fd (n : Nat)
  | close
  /-- A word whose expansion names the descriptor, read when the command runs. -/
  | word (w : List Part)

/-- A redirection. -/
inductive Redir where
  /-- `<`, `>`, `>>`, `>|` or `<>` on a file. -/
  | file (fd : Nat) (mode : String) (target : List Part)
  /-- `>&` or `<&`. -/
  | dup (fd : Nat) (source : DupSource)
  /-- A here-document, by its number in the table of documents. -/
  | here (fd : Nat) (doc : Nat)

/-- A command. -/
inductive Cmd where
  /-- A simple command: its line, assignments, words and redirections. -/
  | simple (line : Nat) (assigns : List (String × List Part)) (words : List (List Part))
      (redirs : List Redir)
  /-- A pipeline of two or more commands. -/
  | pipeline (cmds : List Cmd)
  | andThen (a b : Cmd)
  | orElse (a b : Cmd)
  | seq (a b : Cmd)
  | negate (c : Cmd)
  | background (c : Cmd)
  | subshell (line : Nat) (body : Cmd) (redirs : List Redir)
  /-- A compound command with redirections. -/
  | redirected (line : Nat) (body : Cmd) (redirs : List Redir)
  | ifThen (test yes : Cmd) (no : Option Cmd)
  | loop (isUntil : Bool) (test body : Cmd)
  | forIn (line : Nat) (name : String) (items : List (List Part)) (body : Cmd)
  | caseOf (line : Nat) (subject : List Part) (arms : List CaseArm)
  | defun (line : Nat) (name : String) (body : Cmd)
  /-- An empty list of commands. -/
  | nothing

/-- An arm of a `case`: its patterns and its commands. -/
inductive CaseArm where
  | arm (patterns : List (List Part)) (body : Cmd)

end

instance : Inhabited Cmd := ⟨.nothing⟩

instance : Inhabited Part := ⟨.plain ""⟩

abbrev Word := List Part

def isNameStart (c : Char) : Bool := c.isAlpha || c == '_'

def isNameChar (c : Char) : Bool := c.isAlphanum || c == '_'

def isName (s : String) : Bool :=
  match s.toList with
  | c :: cs => isNameStart c && cs.all isNameChar
  | [] => false

def plainText? : Word → Option String
  | [.plain s] => some s
  | _ => none

def reservedWords : List String :=
  ["!", "case", "do", "done", "elif", "else", "esac", "fi", "for", "if", "in", "then", "until",
   "while", "\x7b", "\x7d"]

def allParams : Word := [.param "@" .value true]

/-! ## Octet strings -/

def octets (s : String) : String := String.ofList (s.toUTF8.toList.map fun b => Char.ofNat b.toNat)

def octetBytes (s : String) : ByteArray := ⟨(s.toList.map fun c => c.toNat.toUInt8).toArray⟩

def ofBytes (bs : ByteArray) : String := String.ofList (bs.toList.map fun b => Char.ofNat b.toNat)

end Shell

end TestConductor
