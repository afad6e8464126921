import TestConductor.Config.Host
import TestConductor.Logging
/-! # Conductor settings

How many test hosts run at once, whether hosts are shared or tests run in the conductor, the
connection timings, how often refused work is retried, the log settings and the default test
host. Every setting has a default, so any subset may be given. Timings are kept in the units
they are written in; their millisecond forms are 64-bit words, as the clock reports them.
-/
namespace TestConductor

/-- The conductor's settings. -/
structure Config where
  /-- How many test hosts may run at once. -/
  parallelLevel : Nat
  /-- Whether a test host may serve several sources in sequence. -/
  sharedHosts : Bool
  /-- Whether tests run in the conductor when an engine is available. -/
  inProcess : Bool
  /-- How long the conductor retries connecting to a test host. -/
  workerConnectTimeoutSecs : Nat
  connectRetryIntervalMs : Nat
  /-- How long handlers on the host side wait for their peer. -/
  connectionTimeoutSecs : Nat
  /-- How often a refused unit of work is handed to a fresh proxy. -/
  dispatchRetryLimit : Nat
  logLevel : String
  logFormat : LogFormat
  /-- Whether each log line names the module that emitted it. -/
  logTargets : Bool
  /-- Extra log filter directives. -/
  logDirectives : List String
  testhost : HostConfig
  deriving DecidableEq, Repr, Inhabited

namespace Config

def defaultConnectionTimeout : Nat := 90

def default : Config :=
  ⟨1, true, false, 50, 100, defaultConnectionTimeout, 1, "info", .compact, false, [], HostConfig.default⟩

def toJson (c : Config) : Json :=
  .obj [("parallel_level", .nat c.parallelLevel), ("shared_hosts", .bool c.sharedHosts),
    ("in_process", .bool c.inProcess), ("worker_connect_timeout_secs", .nat c.workerConnectTimeoutSecs),
    ("connect_retry_interval_ms", .nat c.connectRetryIntervalMs),
    ("connection_timeout_secs", .nat c.connectionTimeoutSecs),
    ("dispatch_retry_limit", .nat c.dispatchRetryLimit), ("log_level", .str c.logLevel),
    ("log_format", .str c.logFormat.name), ("log_targets", .bool c.logTargets),
    ("log_directives", .strs c.logDirectives), ("testhost", c.testhost.toJson)]

def shape : Json.Shape :=
  let d := default
  .record "OrchestratorConfig"
    [Json.Shape.defField "parallel_level" Json.Shape.usize (.nat d.parallelLevel),
     Json.Shape.defField "shared_hosts" .bool (.bool d.sharedHosts),
     Json.Shape.defField "in_process" .bool (.bool d.inProcess),
     Json.Shape.defField "worker_connect_timeout_secs" Json.Shape.u64 (.nat d.workerConnectTimeoutSecs),
     Json.Shape.defField "connect_retry_interval_ms" Json.Shape.u64 (.nat d.connectRetryIntervalMs),
     Json.Shape.defField "connection_timeout_secs" Json.Shape.u64 (.nat d.connectionTimeoutSecs),
     Json.Shape.defField "dispatch_retry_limit" Json.Shape.usize (.nat d.dispatchRetryLimit),
     Json.Shape.defField "log_level" .string (.str d.logLevel),
     Json.Shape.defField "log_format" LogFormat.shape (.str d.logFormat.name),
     Json.Shape.defField "log_targets" .bool (.bool d.logTargets),
     Json.Shape.defField "log_directives" (.list .string) (.arr []),
     Json.Shape.defField "testhost" HostConfig.shape d.testhost.toJson]

def ofJson (j : Json) : Config :=
  let n (k : String) (d : Nat) := ((j.get? k).bind Json.asNat?).getD d
  let b (k : String) (d : Bool) := ((j.get? k).bind Json.asBool?).getD d
  let d := default
  ⟨n "parallel_level" d.parallelLevel, b "shared_hosts" d.sharedHosts, b "in_process" d.inProcess,
    n "worker_connect_timeout_secs" d.workerConnectTimeoutSecs,
    n "connect_retry_interval_ms" d.connectRetryIntervalMs,
    n "connection_timeout_secs" d.connectionTimeoutSecs, n "dispatch_retry_limit" d.dispatchRetryLimit,
    ((j.get? "log_level").bind Json.asStr?).getD d.logLevel,
    LogFormat.ofJson ((j.get? "log_format").getD .null), b "log_targets" d.logTargets,
    (((j.get? "log_directives").bind Json.asArr?).getD []).filterMap Json.asStr?,
    HostConfig.ofJson ((j.get? "testhost").getD (.obj []))⟩

def millisWord (ms : Nat) : Nat := ms % Nat.pow 2 64

def workerConnectTimeoutMs (c : Config) : Nat := millisWord (c.workerConnectTimeoutSecs * 1000)

def connectionTimeoutMs (c : Config) : Nat := millisWord (c.connectionTimeoutSecs * 1000)

def level (c : Config) : LogLevel :=
  match LogLevel.parse c.logLevel with
  | .ok l => l
  | .error _ => .info

def loggerOptions (c : Config) : LoggerOptions :=
  c.logDirectives.foldl LoggerOptions.withDirective
    (((LoggerOptions.new c.level).withFormat c.logFormat).withTargets c.logTargets)

end Config

end TestConductor
