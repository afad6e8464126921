import TestConductor.Bench.Basic
import TestConductor.Config.Store
/-! # Settings

Requests about the conductor's settings: reading and checking settings files, loading and
saving them in a scratch file tree, the overrides of the environment, logging options and
scoped changes of the environment.
-/
namespace TestConductor

namespace Bench

open Json (Shape)

def accessors (c : Config) : Json :=
  Json.map [("config", c.toJson), ("worker_connect_timeout_ms", .nat c.workerConnectTimeoutMs),
    ("connect_retry_interval_ms", .nat c.connectRetryIntervalMs),
    ("connection_timeout_ms", .nat c.connectionTimeoutMs), ("log_level", .str c.level.caseName),
    ("logger", c.loggerOptions.toJson)]

def configError (e : ConfigError) : Json := fault "Config" e.message

def configOp (req : Json) : Json :=
  match ConfigFile.parse (strField req "format" == "yaml") (strField req "text") with
  | .error m => fault "Parse" m
  | .ok f =>
    Json.map [("version", .str f.version), ("orchestrator", accessors f.conductor),
      ("runtimes", .arr (f.runtimes.map RuntimeEntry.toJson)),
      ("validate", match f.validate with
        | .ok () => .null
        | .error e => configError e)]

def configExampleOp : Json :=
  Json.map [("example", ConfigFile.sample.toJson), ("validate", .bool ConfigFile.sample.problem?.isNone),
    ("default", ConfigFile.default.toJson), ("default_config", accessors Config.default)]

def scratchRoot : String := "/scratch"

/-- The environment of a request's variables, set in the order of their names; a variable that
cannot be set stops the request. -/
def envOf (j : Json) : Except Json Environment :=
  let vars := ((j.asObj?.getD []).map fun (k, v) => (k, v.asStr?.getD "")).mergeSort
    fun a b => decide (a.1 ≤ b.1)
  match Environment.putAll [] vars with
  | .ok e => .ok e
  | .error m => .error (panicAnswer m)

def configIoOp (req : Json) : Except Json Json := do
  let home := some (scratchRoot ++ "/home")
  let start : FileTree := ⟨["scratch"], [["scratch"], ["scratch", "home"]], []⟩
  let actions := ((req.get? "actions").bind Json.asArr?).getD []
  let mut t := start
  let mut out : List Json := []
  let okOr {α : Type} (f : α → Json) : Except ConfigError α → Json
    | .ok a => Json.map [("ok", f a)]
    | .error e => configError e
  for a in actions do
    if let some p := (a.get? "write").bind Json.asStr? then
      let dir := (Text.Path.parent? p).getD ""
      match (t.createDirAll dir).bind fun t => t.write p (strField a "text") with
      | .ok t' =>
        t := t'
        out := out ++ [.bool true]
      | .error _ => out := out ++ [.bool false]
    else if let some p := (a.get? "load").bind Json.asStr? then
      out := out ++ [okOr ConfigFile.toJson (ConfigFile.load t p)]
    else if let some p := (a.get? "save").bind Json.asStr? then
      let f := ConfigFile.ofJson (← fieldAs ConfigFile.shape a "config")
      match ConfigFile.save t p f with
      | .ok (text, t') =>
        t := t'
        out := out ++ [Json.map [("ok", .str text)]]
      | .error e => out := out ++ [configError e]
    else if (a.get? "find").isSome then
      out := out ++ [Json.opt .str (ConfigFile.find t home)]
    else if (a.get? "load_default").isSome then
      out := out ++ [okOr ConfigFile.toJson (ConfigFile.loadDefault t home)]
    else if let some p := (a.get? "orch_load").bind Json.asStr? then
      out := out ++ [okOr Config.toJson (Config.load t p)]
    else if let some p := (a.get? "orch_save").bind Json.asStr? then
      let c := Config.ofJson (← fieldAs Config.shape a "config")
      match Config.save t p c with
      | .ok (text, t') =>
        t := t'
        out := out ++ [Json.map [("ok", .str text)]]
      | .error e => out := out ++ [configError e]
    else if (a.get? "resolve").isSome then
      let e ← envOf ((a.get? "vars").getD (.obj []))
      out := out ++ [okOr Config.toJson (Config.resolve e t home)]
    else out := out ++ [fault "driver_input" "unknown action"]
  return .arr out

def overridesJson (o : EnvOverrides) : Json :=
  Json.map [("parallel_level", Json.opt .nat o.parallelLevel), ("shared_hosts", Json.opt .bool o.sharedHosts),
    ("in_process", Json.opt .bool o.inProcess), ("connection_timeout_secs", Json.opt .nat o.connectionTimeoutSecs),
    ("worker_connect_timeout_secs", Json.opt .nat o.workerConnectTimeoutSecs),
    ("testhost_executable", Json.opt .str o.testhostExecutable), ("config_file", Json.opt .str o.configFile),
    ("log_level", Json.opt .str o.logLevel), ("log_format", Json.opt .str o.logFormat)]

def envConfigOp (req : Json) : Except Json Json := do
  let e ← envOf ((req.get? "vars").getD (.obj []))
  let c ← match req.get? "config" with
    | some j => do pure (Config.ofJson (← decodeAs Config.shape j))
    | none => pure Config.default
  let o := EnvOverrides.load e
  let resolved := if ((req.get? "resolve").bind Json.asBool?).getD false then
      match Config.resolve e ⟨[], [], []⟩ none with
      | .ok c => c.toJson
      | .error err => configError err
    else .null
  return Json.map [("env", overridesJson o), ("has_any", .bool o.hasAny), ("applied", (o.apply c).toJson),
    ("connection_timeout_secs", .nat (connectionTimeoutOf e)), ("resolved", resolved)]

/-- Logger options from a request's fields: an unreadable level means info, an unreadable layout
leaves it compact. -/
def optionsOf (req : Json) : LoggerOptions :=
  let level := match ((req.get? "level").bind Json.asStr?).map LogLevel.parse with
    | some (.ok l) => l
    | _ => .info
  let base := (LoggerOptions.new level).withTargets (((req.get? "with_target").bind Json.asBool?).getD false)
  let base := match ((req.get? "format").bind Json.asStr?).map LogFormat.parse with
    | some (.ok f) => base.withFormat f
    | _ => base
  ((((req.get? "directives").bind Json.asArr?).getD []).filterMap Json.asStr?).foldl
    LoggerOptions.withDirective base

def loggingOp (req : Json) : Json :=
  let level? := (req.get? "level").bind Json.asStr?
  let format? := (req.get? "format").bind Json.asStr?
  Json.map [
    ("level", match level?.map LogLevel.parse with
      | none => .null
      | some (.ok l) => Json.map [("ok", .str l.caseName), ("tracing", .str l.filterName)]
      | some (.error m) => fault "Parse" m),
    ("format", match format?.map LogFormat.parse with
      | none => .null
      | some (.ok f) => Json.map [("ok", .str f.caseName)]
      | some (.error m) => fault "Parse" m),
    ("options", (optionsOf req).toJson),
    ("format_json", match req.get? "format_json" with
      | none => .null
      | some j =>
        match decodeAs LogFormat.shape j with
        | .ok v => Json.map [("ok", .str (LogFormat.ofJson v).caseName)]
        | .error e => e)]

def installCall (call : Json) : Except Json LoggerOptions := do
  match strField call "kind" with
  | "init_logger" =>
    let level := match ((call.get? "level").bind Json.asStr?).map LogLevel.parse with
      | some (.ok l) => l
      | _ => .info
    return LoggerOptions.new level
  | "init_logger_with" => return optionsOf call
  | "config" => return (Config.ofJson (← decodeAs Config.shape ((call.get? "config").getD (.obj [])))).loggerOptions
  | other => throw (fault "driver_input" ("unknown kind " ++ other))

def loggingInitOp (req : Json) : Json :=
  let step (acc : Logger × List Json) (call : Json) : Logger × List Json :=
    match installCall call with
    | .error e => (acc.1, acc.2 ++ [e])
    | .ok o =>
      let (done, l) := acc.1.install o
      (l, acc.2 ++ [.bool done])
  Json.map [("results", .arr ((listField req "calls").foldl step ({}, [])).2)]

def ownVars (e : Environment) : Json :=
  Json.map ((e.filter fun (k, _) => k.startsWith (envPrefix ++ "_")).map fun (k, v) => (k, .str v))

def envBuilderOp (req : Json) : Except Json Json := do
  let e ← envOf ((req.get? "vars").getD (.obj []))
  let settings ← (((req.get? "set").bind Json.asArr?).getD []).mapM fun s =>
    if let some n := (s.get? "parallel_level").bind Json.asNat? then pure (EnvSetting.parallelLevel n)
    else if let some b := (s.get? "shared_hosts").bind Json.asBool? then pure (EnvSetting.sharedHosts b)
    else if let some n := (s.get? "connection_timeout").bind Json.asNat? then pure (EnvSetting.connectionTimeout n)
    else if let some t := (s.get? "testhost").bind Json.asStr? then pure (EnvSetting.testhost t)
    else throw (fault "driver_input" "unknown setter")
  let isScoped := ((req.get? "scoped").bind Json.asBool?).getD false
  let (during, saved) := e.applyScoped settings
  let o := EnvOverrides.load during
  return Json.map [("during", ownVars during),
    ("loaded", Json.map [("parallel_level", Json.opt .nat o.parallelLevel), ("shared_hosts", Json.opt .bool o.sharedHosts),
      ("connection_timeout_secs", Json.opt .nat o.connectionTimeoutSecs),
      ("testhost_executable", Json.opt .str o.testhostExecutable), ("has_any", .bool o.hasAny),
      ("connection_timeout", .nat (connectionTimeoutOf during))]),
    ("after", if isScoped then ownVars (during.undo saved) else .null)]

end Bench

end TestConductor
