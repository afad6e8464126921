import TestConductor.Json.Shape
/-! # Process start information

What is needed to start a test host process: the program, its arguments, the directory to start
in and extra environment variables. Environment variables are a map: setting a name again
replaces its value, and they are listed by name.
-/
namespace TestConductor

/-- How to start a process. -/
structure StartInfo where
  fileName : String
  arguments : List String
  workingDirectory : Option String
  /-- Extra environment variables, sorted by name. -/
  environment : List (String × String)
  deriving DecidableEq, Repr, Inhabited

def insertVar (k v : String) : List (String × String) → List (String × String)
  | [] => [(k, v)]
  | (k', v') :: rest =>
    if k < k' then (k, v) :: (k', v') :: rest
    else if k = k' then (k, v) :: rest
    else (k', v') :: insertVar k v rest

def varsOf (pairs : List (String × String)) : List (String × String) :=
  pairs.foldl (fun acc (k, v) => insertVar k v acc) []

def varsJson (vars : List (String × String)) : Json := .obj (vars.map fun (k, v) => (k, .str v))

def varsOfJson (j : Json) : List (String × String) :=
  varsOf ((j.asObj?.getD []).map fun (k, v) => (k, v.asStr?.getD ""))

namespace StartInfo

def new (fileName : String) : StartInfo := ⟨fileName, [], none, []⟩

def withArgument (s : StartInfo) (a : String) : StartInfo := { s with arguments := s.arguments ++ [a] }

def withEnv (s : StartInfo) (k v : String) : StartInfo := { s with environment := insertVar k v s.environment }

def toJson (s : StartInfo) : Json :=
  .obj [("file_name", .str s.fileName), ("arguments", .strs s.arguments),
    ("working_directory", Json.opt .str s.workingDirectory), ("environment_variables", varsJson s.environment)]

def shape : Json.Shape :=
  .record "TestProcessStartInfo"
    [Json.Shape.field "file_name" .string, Json.Shape.defField "arguments" (.list .string) (.arr []),
     Json.Shape.defField "working_directory" (.optional .string) .null,
     Json.Shape.defField "environment_variables" (.dict .string) (.obj [])]

def ofJson (j : Json) : StartInfo :=
  ⟨((j.get? "file_name").bind Json.asStr?).getD "",
    (((j.get? "arguments").bind Json.asArr?).getD []).filterMap Json.asStr?,
    (j.get? "working_directory").bind Json.asStr?, varsOfJson ((j.get? "environment_variables").getD (.obj []))⟩

end StartInfo

end TestConductor
