import TestConductor.Config.File
import TestConductor.Config.Env
import TestConductor.FileTree
import TestConductor.Text.Path
import TestConductor.Json.Read
import TestConductor.Json.Write
import TestConductor.Yaml.Read
import TestConductor.Yaml.Emit
/-! # Settings files on disk

A settings file is YAML when its extension is `yaml` or `yml`, and JSON otherwise. Loading a
settings file validates it; loading the conductor's settings alone does not. JSON is written
with two-space indentation and YAML in block style, fields in declaration order. The default
file is the first that exists of `./test-orchestrator.yaml`, `./test-orchestrator.yml`,
`./.test-orchestrator.yaml`, `~/.config/test-orchestrator/config.yaml` and
`~/.test-orchestrator.yaml`. The settings in effect are the defaults, then the file that the
environment names or else the default file, then the environment's overrides.
-/
namespace TestConductor

/-- Why settings could not be loaded or saved. -/
inductive ConfigError where
  | readFailed (path : Option String) (fault : FileFault)
  | parseFailed (yaml : Bool) (path : Option String) (detail : String)
  | createDirFailed (path : String) (fault : FileFault)
  | writeFailed (path : Option String) (fault : FileFault)
  | invalid (problem : ConfigProblem)
  deriving Repr

namespace ConfigError

def chain (context : String) (path : Option String) (cause : String) : String :=
  match path with
  | some p => context ++ ": " ++ p ++ ": " ++ cause
  | none => context ++ ": " ++ cause

def message : ConfigError → String
  | .readFailed p f => chain "Failed to read config file" p f.message
  | .parseFailed yaml p d => chain (if yaml then "Failed to parse YAML config" else "Failed to parse JSON config") p d
  | .createDirFailed p f => chain "Failed to create directory" (some p) f.message
  | .writeFailed p f => chain "Failed to write config file" p f.message
  | .invalid problem => problem.message

end ConfigError

def isYamlPath (p : String) : Bool :=
  match Text.Path.extension? p with
  | some e => e == "yaml" || e == "yml"
  | none => false

def readSettings (yaml : Bool) (shape : Json.Shape) (text : String) : Except String Json :=
  if yaml then (Yaml.readText shape text).mapError Yaml.Fault.message
  else (Json.readText shape text).mapError Json.Fault.message

def writeSettings (yaml : Bool) (v : Json) : String := if yaml then Yaml.render v else Json.pretty 0 v

namespace ConfigFile

def parse (yaml : Bool) (text : String) : Except String ConfigFile :=
  (readSettings yaml shape text).map ofJson

def validate (f : ConfigFile) : Except ConfigError Unit :=
  match f.problem? with
  | some p => .error (.invalid p)
  | none => .ok ()

def load (t : FileTree) (p : String) : Except ConfigError ConfigFile := do
  let text ← (t.read p).mapError (.readFailed (some p))
  let yaml := isYamlPath p
  let f ← (parse yaml text).mapError (.parseFailed yaml (some p))
  f.validate
  return f

def save (t : FileTree) (p : String) (f : ConfigFile) : Except ConfigError (String × FileTree) := do
  let text := writeSettings (isYamlPath p) f.toJson
  let t ← match Text.Path.parent? p with
    | some dir => (t.createDirAll dir).mapError (.createDirFailed dir)
    | none => pure t
  let t ← (t.write p text).mapError (.writeFailed (some p))
  return (text, t)

/-- The places a default settings file is looked for, in order, with `~` as the home
directory if there is one. -/
def locations (home : Option String) : List String :=
  let expand (p : String) : String :=
    match home with
    | some h => if p.startsWith "~/" then
        (if h.endsWith "/" then h else h ++ "/") ++ String.ofList (p.toList.drop 2) else p
    | none => p
  ["./test-orchestrator.yaml", "./test-orchestrator.yml", "./.test-orchestrator.yaml",
    "~/.config/test-orchestrator/config.yaml", "~/.test-orchestrator.yaml"].map expand

def find (t : FileTree) (home : Option String) : Option String := (locations home).find? t.present

def loadDefault (t : FileTree) (home : Option String) : Except ConfigError ConfigFile :=
  match find t home with
  | some p => load t p
  | none => .ok default

end ConfigFile

namespace Config

def load (t : FileTree) (p : String) : Except ConfigError Config := do
  let text ← (t.read p).mapError (.readFailed none)
  let yaml := isYamlPath p
  let v ← (readSettings yaml shape text).mapError (.parseFailed yaml none)
  return ofJson v

def save (t : FileTree) (p : String) (c : Config) : Except ConfigError (String × FileTree) := do
  let text := writeSettings (isYamlPath p) c.toJson
  let t ← (t.write p text).mapError (.writeFailed none)
  return (text, t)

/-- The settings in effect: the file the environment names or else the default file, with the
environment's overrides applied. -/
def resolve (e : Environment) (t : FileTree) (home : Option String) : Except ConfigError Config := do
  let o := EnvOverrides.load e
  let f ← match o.configFile with
    | some p => ConfigFile.load t p
    | none => ConfigFile.loadDefault t home
  return o.apply f.conductor

end Config

end TestConductor
