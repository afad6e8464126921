/-! # A tree of files

Directories and text files addressed by slash-separated paths. A relative path starts at the
working directory; `.` parts stay and `..` parts go up, by the text of the path. Reading needs a
file, writing needs an existing directory above the file, and making a directory makes every
directory above it; each refusal carries the system's cause.
-/
namespace TestConductor

/-- Why the file system refused an action. -/
inductive FileFault where
  | notFound
  | isDirectory
  | notDirectory
  | alreadyExists
  deriving DecidableEq, Repr

namespace FileFault

def message : FileFault → String
  | .notFound => "No such file or directory (os error 2)"
  | .isDirectory => "Is a directory (os error 21)"
  | .notDirectory => "Not a directory (os error 20)"
  | .alreadyExists => "File exists (os error 17)"

end FileFault

/-- Directories and files, each addressed by the names from the root. -/
structure FileTree where
  /-- The working directory. -/
  cwd : List String
  dirs : List (List String)
  files : List (List String × String)
  deriving Repr, Inhabited

namespace FileTree

def resolve (t : FileTree) (p : String) : List String :=
  let start := if p.startsWith "/" then [] else t.cwd
  (p.splitOn "/").foldl (fun acc s =>
    if s.isEmpty || s == "." then acc
    else if s == ".." then acc.dropLast
    else acc ++ [s]) start

def isDir (t : FileTree) (parts : List String) : Bool := parts.isEmpty || t.dirs.contains parts

def fileAt? (t : FileTree) (parts : List String) : Option String := t.files.lookup parts

def above (parts : List String) : List (List String) := (List.range parts.length).map parts.take

def blocked? (t : FileTree) (parts : List String) : Option FileFault :=
  match (above parts).find? (!t.isDir ·) with
  | some d => if (t.fileAt? d).isSome then some .notDirectory else some .notFound
  | none => none

def present (t : FileTree) (p : String) : Bool :=
  let parts := t.resolve p
  !p.isEmpty && (t.blocked? parts).isNone && (t.isDir parts || (t.fileAt? parts).isSome)

def read (t : FileTree) (p : String) : Except FileFault String :=
  let parts := t.resolve p
  if p.isEmpty then .error .notFound
  else match t.blocked? parts with
    | some f => .error f
    | none =>
      if t.isDir parts then .error .isDirectory
      else match t.fileAt? parts with
        | some s => .ok s
        | none => .error .notFound

def write (t : FileTree) (p : String) (text : String) : Except FileFault FileTree :=
  let parts := t.resolve p
  if p.isEmpty then .error .notFound
  else match t.blocked? parts with
    | some f => .error f
    | none =>
      if t.isDir parts then .error .isDirectory
      else .ok { t with files := (t.files.filter (·.1 != parts)) ++ [(parts, text)] }

def createDirAll (t : FileTree) (p : String) : Except FileFault FileTree :=
  let parts := t.resolve p
  if p.isEmpty then .ok t
  else
    let chain := above parts ++ [parts]
    match chain.find? fun d => (t.fileAt? d).isSome with
    | some d => .error (if d == parts then .alreadyExists else .notDirectory)
    | none => .ok { t with dirs := t.dirs ++ chain.filter (!t.isDir ·) }

end FileTree

end TestConductor
