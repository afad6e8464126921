import TestConductor.Launch.StartInfo
import TestConductor.Text.Blank
/-! # Test host settings

How to start a test host: the program, arguments placed before the connection arguments, an
optional working directory, extra environment variables, and whether one host may serve
several sources in sequence. Every setting has a default, so any subset may be given.
-/
namespace TestConductor

/-- How to start a test host process. -/
structure HostConfig where
  executable : String
  arguments : List String
  workingDirectory : Option String
  /-- Extra environment variables, sorted by name. -/
  environment : List (String × String)
  /-- Whether one host may serve several sources in sequence. -/
  shared : Bool
  deriving DecidableEq, Repr, Inhabited

namespace HostConfig

def default : HostConfig := ⟨"", [], none, [], false⟩

def toJson (h : HostConfig) : Json :=
  .obj [("executable", .str h.executable), ("arguments", .strs h.arguments),
    ("working_directory", Json.opt .str h.workingDirectory), ("environment", varsJson h.environment),
    ("shared", .bool h.shared)]

def shape : Json.Shape :=
  .record "TestHostConfig"
    [Json.Shape.defField "executable" .string (.str ""),
     Json.Shape.defField "arguments" (.list .string) (.arr []),
     Json.Shape.defField "working_directory" (.optional .string) .null,
     Json.Shape.defField "environment" (.dict .string) (.obj []),
     Json.Shape.defField "shared" .bool (.bool false)]

def ofJson (j : Json) : HostConfig :=
  ⟨((j.get? "executable").bind Json.asStr?).getD "",
    (((j.get? "arguments").bind Json.asArr?).getD []).filterMap Json.asStr?,
    (j.get? "working_directory").bind Json.asStr?, varsOfJson ((j.get? "environment").getD (.obj [])),
    ((j.get? "shared").bind Json.asBool?).getD false⟩

def hasExecutable (h : HostConfig) : Bool := !(Text.trim h.executable).isEmpty

end HostConfig

end TestConductor
