import TestConductor.Bench.Settings
import TestConductor.Bench.Values
import TestConductor.Launch.Runtime
import TestConductor.Clock
import TestConductor.Engine.Layout
/-! # Test hosts and engines

Requests about how test hosts are started: runtime providers and their start information,
stopwatches, the names of enumerations, and the pool layouts an engine chooses.
-/
namespace TestConductor

namespace Bench

open Json (Shape)

def startInfoJson (s : StartInfo) : Json := s.toJson

def ownPid : Nat := 4242

def startAnswer (h : HostConfig) (sources : List String) (endpoint : String) : Json :=
  Json.map [(match h.startInfo sources endpoint ownPid with
    | .ok s => ("ok", startInfoJson s)
    | .error e => ("err", errorAnswer e)), ("shared", .bool h.shared)]

def runtimeOp (req : Json) : Except Json Json := do
  match req.get? "registry" with
  | some r =>
    let fallback ← match r.get? "fallback" with
      | some h => do pure (HostConfig.ofJson (← decodeAs HostConfig.shape h))
      | none => pure HostConfig.default
    let mut reg := RuntimeRegistry.new fallback
    for e in ((r.get? "register").bind Json.asArr?).getD [] do
      match e.asArr? with
      | some [ext, h] => reg := reg.register (ext.asStr?.getD "") (HostConfig.ofJson (← decodeAs HostConfig.shape h))
      | _ => pure ()
    let endpoint := ((r.get? "endpoint").bind Json.asStr?).getD "127.0.0.1:5000"
    let resolved := (((r.get? "resolve").bind Json.asArr?).getD []).map fun s =>
      startAnswer (reg.resolve (s.asStr?.getD "")) [] endpoint
    let forSources := (((r.get? "resolve_for_sources").bind Json.asArr?).getD []).map fun ss =>
      let srcs := (ss.asArr?.getD []).filterMap Json.asStr?
      startAnswer (reg.resolveFor srcs) srcs endpoint
    return Json.map [("resolved", .arr resolved), ("for_sources", .arr forSources)]
  | none =>
    let h := HostConfig.ofJson (← fieldAs HostConfig.shape req "testhost")
    let sources := (((req.get? "sources").bind Json.asArr?).getD []).filterMap Json.asStr?
    let endpoint := ((req.get? "endpoint").bind Json.asStr?).getD "127.0.0.1:5000"
    return startAnswer h sources endpoint

def startInfoOp (req : Json) : Json :=
  let args := (((req.get? "arguments").bind Json.asArr?).getD []).filterMap Json.asStr?
  let env := (((req.get? "env").bind Json.asArr?).getD []).filterMap fun p =>
    match p.asArr? with
    | some [k, v] => some (k.asStr?.getD "", v.asStr?.getD "")
    | _ => none
  let built := env.foldl (fun s (k, v) => s.withEnv k v) (args.foldl StartInfo.withArgument (StartInfo.new (strField req "file_name")))
  let parsed := match req.get? "parse" with
    | some p =>
      match decodeAs StartInfo.shape p with
      | .ok v => startInfoJson (StartInfo.ofJson v)
      | .error e => e
    | none => .null
  Json.map [("built", startInfoJson built), ("parsed", parsed)]

def stopwatchOp : Json :=
  let now : Instant := ⟨0⟩
  let sw : Stopwatch := ⟨now⟩
  let hour := Duration.ofSecs 3600
  Json.map [("default_exceeded_zero", .bool (sw.hasExceeded now Duration.zero)),
    ("exceeded_zero", .bool (sw.hasExceeded now Duration.zero)), ("exceeded_hour", .bool (sw.hasExceeded now hour)),
    ("remaining_hour_at_most_hour", .bool ((sw.remaining now hour).toNanos ≤ hour.toNanos)),
    ("remaining_zero", (sw.remaining now Duration.zero).toJson),
    ("timer_under_hour", .bool ((sw.elapsed now).toNanos < hour.toNanos))]

def enumsOp : Json :=
  Json.map [("default_format", .str LogFormat.compact.caseName), ("default_outcome", .str Outcome.none.name),
    ("log_levels", .arr (LogLevel.all.map fun l =>
      .arr [.str l.caseName, .str l.filterName, .str (LoggerOptions.new l).filter])),
    ("message_levels", .arr (MessageLevel.all.map fun l => .arr [.str l.name, .str l.display])),
    ("outcomes", .arr (Outcome.all.map fun o => .arr [.str o.name, .str o.display, .str o.symbol, .bool o.isSuccess])),
    ("protocol_version", .nat Message.current)]

def engineOf (req : Json) : Except Json Engine := do
  let file ← match req.get? "config_file" with
    | some j => do pure (ConfigFile.ofJson (← decodeAs ConfigFile.shape j))
    | none => pure ConfigFile.default
  let mut e := Engine.ofFile file
  for r in ((req.get? "with_runtime").bind Json.asArr?).getD [] do
    match r.asArr? with
    | some [ext, h] => e := e.withRuntime (ext.asStr?.getD "") (HostConfig.ofJson (← decodeAs HostConfig.shape h))
    | _ => pure ()
  return { e with hasInProcess := (req.get? "in_process_engine").isSome }

def layoutJson (l : PoolLayout) : Json := Json.map [("level", .nat l.level), ("shared", .bool l.shared)]

def engineOp (req : Json) : Except Json Json := do
  let e ← engineOf req
  let queries := ((req.get? "queries").bind Json.asArr?).getD []
  let answers ← queries.mapM fun q => do
    if let some n := (q.get? "parallel_level").bind Json.asNat? then pure (Json.nat (e.parallelLevel n))
    else if let some ss := (q.get? "discovery_manager").bind Json.asArr? then
      pure (layoutJson (e.discoveryLayout (ss.filterMap Json.asStr?)))
    else if let some c := q.get? "execution_manager" then
      pure (layoutJson (e.executionLayout (RunCriteria.ofJson (← decodeAs RunCriteria.shape c))))
    else if let some s := (q.get? "resolve").bind Json.asStr? then
      let h := e.runtimes.resolve s
      pure (Json.map [(match h.startInfo [s] "127.0.0.1:5000" ownPid with
        | .ok si => ("ok", startInfoJson si)
        | .error err => ("err", errorAnswer err)), ("shared", .bool h.shared)])
    else if (q.get? "config").isSome then pure (accessors e.config)
    else throw (fault "driver_input" "unknown query")
  return .arr answers

end Bench

end TestConductor
