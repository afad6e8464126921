/-! # Path names

Slash-separated path names read as a sequence of parts. A leading slash is the root; a leading
`.` before a slash, or alone, is the current directory; `..` is the parent directory; empty parts
and other `.` parts are not parts at all. The parent of a path is the text before its last part,
without the separators and `.` parts that end it; the file name is the last part when it is a
name; the extension is what follows the last dot of the file name, unless that dot begins it.
-/
namespace TestConductor

namespace Text

namespace Path

/-- A part of a path name. -/
inductive Part where
  | parentDir
  | name (text : String)
  deriving DecidableEq, Repr

def classify (s : String) : Option Part :=
  if s.isEmpty || s == "." then none
  else if s == ".." then some .parentDir
  else some (.name s)

def isRooted (p : String) : Bool := p.startsWith "/"

def startsAtCurrent (p : String) : Bool := !isRooted p && (p == "." || p.startsWith "./")

def leadLength (p : String) : Nat := if isRooted p || startsAtCurrent p then 1 else 0

def lastPart : List String → Option (Part × List String)
  | [] => none
  | s :: rest =>
    match classify s with
    | some part => some (part, rest)
    | none => lastPart rest

def bodySegments (p : String) : List String :=
  ((String.ofList (p.toList.drop (leadLength p))).splitOn "/").reverse

/-- The lead followed by segments given last first, without the segments that stand for no part
at the end. -/
def rejoin (p : String) (rest : List String) : String :=
  String.ofList (p.toList.take (leadLength p)) ++ "/".intercalate (rest.dropWhile (classify · == none)).reverse

/-- The path without its last part, if that part is a name, a parent directory or the current
directory; none for a root or an empty path. -/
def parent? (p : String) : Option String :=
  match lastPart (bodySegments p) with
  | some (_, rest) => some (rejoin p rest)
  | none => if startsAtCurrent p then some "" else none

def fileName? (p : String) : Option String :=
  match lastPart (bodySegments p) with
  | some (.name n, _) => some n
  | _ => none

def extensionOf? (name : String) : Option String :=
  match (name.splitOn ".").reverse with
  | after :: before@(_ :: _) =>
    let stem := ".".intercalate before.reverse
    if stem.isEmpty then none else some after
  | _ => none

def extension? (p : String) : Option String := (fileName? p).bind extensionOf?

end Path

end Text

end TestConductor
