import TestConductor.Config.Basic
/-! # Settings files

A settings file holds a format version, the conductor's settings and test hosts chosen by source
extension. A file is valid when its version is known, the conductor runs at least one host, its
timings are positive, and every extension entry names an extension and a program. The first rule
that fails is reported.
-/
namespace TestConductor

/-- The test host used for sources with one extension. -/
structure RuntimeEntry where
  /-- The extension, with or without leading dots. -/
  extension : String
  testhost : HostConfig
  deriving DecidableEq, Repr, Inhabited

namespace RuntimeEntry

def toJson (r : RuntimeEntry) : Json := .obj [("extension", .str r.extension), ("testhost", r.testhost.toJson)]

def shape : Json.Shape :=
  .record "RuntimeConfig" [Json.Shape.field "extension" .string, Json.Shape.field "testhost" HostConfig.shape]

def ofJson (j : Json) : RuntimeEntry :=
  ⟨((j.get? "extension").bind Json.asStr?).getD "", HostConfig.ofJson ((j.get? "testhost").getD (.obj []))⟩

def bareExtension (r : RuntimeEntry) : String := String.ofList (r.extension.toList.dropWhile (· == '.'))

end RuntimeEntry

/-- A rule of valid settings that a file breaks. -/
inductive ConfigProblem where
  | unsupportedVersion (version : String)
  | noParallelism
  | zeroConnectTimeout
  | zeroConnectionTimeout
  | zeroRetryInterval
  | emptyExtension
  | noExecutable (extension : String)
  deriving DecidableEq, Repr

namespace ConfigProblem

def message : ConfigProblem → String
  | .unsupportedVersion v => "Unsupported config version: " ++ v
  | .noParallelism => "parallel_level must be at least 1"
  | .zeroConnectTimeout => "worker_connect_timeout_secs must be greater than 0"
  | .zeroConnectionTimeout => "connection_timeout_secs must be greater than 0"
  | .zeroRetryInterval => "connect_retry_interval_ms must be greater than 0"
  | .emptyExtension => "Runtime entry has an empty extension"
  | .noExecutable e => "Runtime for '." ++ e ++ "' has no test host executable"

end ConfigProblem

/-- A settings file. -/
structure ConfigFile where
  version : String
  conductor : Config
  runtimes : List RuntimeEntry
  deriving DecidableEq, Repr, Inhabited

namespace ConfigFile

def currentVersion : String := "1.0"

def default : ConfigFile := ⟨currentVersion, Config.default, []⟩

def toJson (f : ConfigFile) : Json :=
  .obj [("version", .str f.version), ("orchestrator", f.conductor.toJson),
    ("runtimes", .arr (f.runtimes.map RuntimeEntry.toJson))]

def shape : Json.Shape :=
  .record "ConfigFile"
    [Json.Shape.defField "version" .string (.str currentVersion),
     Json.Shape.defField "orchestrator" Config.shape Config.default.toJson,
     Json.Shape.defField "runtimes" (.list RuntimeEntry.shape) (.arr [])]

def ofJson (j : Json) : ConfigFile :=
  ⟨((j.get? "version").bind Json.asStr?).getD currentVersion,
    Config.ofJson ((j.get? "orchestrator").getD (.obj [])),
    (((j.get? "runtimes").bind Json.asArr?).getD []).map RuntimeEntry.ofJson⟩

def entryProblem? (r : RuntimeEntry) : Option ConfigProblem :=
  if r.bareExtension.isEmpty then some .emptyExtension
  else if !r.testhost.hasExecutable then some (.noExecutable r.bareExtension)
  else none

def problem? (f : ConfigFile) : Option ConfigProblem :=
  let c := f.conductor
  if f.version != currentVersion then some (.unsupportedVersion f.version)
  else if c.parallelLevel = 0 then some .noParallelism
  else if c.workerConnectTimeoutSecs = 0 then some .zeroConnectTimeout
  else if c.connectionTimeoutSecs = 0 then some .zeroConnectionTimeout
  else if c.connectRetryIntervalMs = 0 then some .zeroRetryInterval
  else f.runtimes.findSome? entryProblem?

/-- A file that shows every part: four hosts of a program `testhost`, and `python3 -m testhost`
for sources ending in `.py`. -/
def sample : ConfigFile :=
  let own : HostConfig := { HostConfig.default with executable := "testhost" }
  let python : HostConfig := { HostConfig.default with executable := "python3", arguments := ["-m", "testhost"] }
  ⟨currentVersion, { Config.default with parallelLevel := 4, sharedHosts := true, testhost := own },
    [⟨"py", python⟩]⟩

end ConfigFile

end TestConductor
