import TestConductor.Config.Basic
import TestConductor.Text.Case
import TestConductor.Text.Escape
/-! # Settings from the environment

Variables named `TEST_ORCHESTRATOR_*` override settings. A number is read after trimming blanks,
with an optional plus sign, and a value that is not a number in range counts as unset. A flag is
on when its lower case is one of `1`, `true`, `yes`, `on`, `enabled`, and off otherwise. Zero
timeouts and unknown log formats are not applied. The host-side wait is 90 seconds unless its
variable reads as a positive number.
-/
namespace TestConductor

abbrev Environment := List (String × String)

namespace Environment

def get? (e : Environment) (name : String) : Option String := List.lookup name e

def set (e : Environment) (name value : String) : Environment :=
  if e.any (·.1 == name) then e.map fun (k, v) => if k == name then (k, value) else (k, v)
  else e ++ [(name, value)]

/-- Why the system refuses to set a variable: a NUL character in the name or the value cannot be
passed on, and a name that is empty or holds `=` is invalid. -/
def refusal? (name value : String) : Option String :=
  if name.contains '\x00' || value.contains '\x00' then
    some "file name contained an unexpected NUL byte"
  else if name.isEmpty || name.contains '=' then some "Invalid argument (os error 22)"
  else none

def put (e : Environment) (name value : String) : Except String Environment :=
  match refusal? name value with
  | some why =>
    .error ("failed to set environment variable `" ++ Text.quoted name ++ "` to `" ++
      Text.quoted value ++ "`: " ++ why)
  | none => .ok (e.set name value)

def putAll (e : Environment) : List (String × String) → Except String Environment
  | [] => .ok e
  | (k, v) :: rest => do putAll (← e.put k v) rest

def unset (e : Environment) (name : String) : Environment := e.filter (·.1 != name)

def restore (e : Environment) (name : String) : Option String → Environment
  | some v => e.set name v
  | none => e.unset name

end Environment

def envPrefix : String := "TEST_ORCHESTRATOR"

def envName (name : String) : String := envPrefix ++ "_" ++ name

def connectionTimeoutVar : String := envName "CONNECTION_TIMEOUT"

def parseWord (s : String) : Option Nat :=
  let digits := match s.toList with
    | '+' :: rest => rest
    | cs => cs
  if digits.isEmpty || !digits.all Char.isDigit then none
  else
    let n := digits.foldl (fun acc c => acc * 10 + (c.toNat - '0'.toNat)) 0
    if n < Nat.pow 2 64 then some n else none

def readNumber (v : String) : Option Nat := parseWord (Text.trim v)

def readFlag (v : String) : Bool := ["1", "true", "yes", "on", "enabled"].contains (Text.lowercase v)

/-- The settings that the environment overrides. -/
structure EnvOverrides where
  parallelLevel : Option Nat
  sharedHosts : Option Bool
  inProcess : Option Bool
  connectionTimeoutSecs : Option Nat
  workerConnectTimeoutSecs : Option Nat
  testhostExecutable : Option String
  configFile : Option String
  logLevel : Option String
  logFormat : Option String
  deriving DecidableEq, Repr, Inhabited

namespace EnvOverrides

def load (e : Environment) : EnvOverrides :=
  let var (n : String) := e.get? (envName n)
  ⟨(var "PARALLEL_LEVEL").bind readNumber, (var "SHARED_HOSTS").map readFlag,
    (var "IN_PROCESS").map readFlag, (var "CONNECTION_TIMEOUT").bind readNumber,
    (var "WORKER_CONNECT_TIMEOUT").bind readNumber, var "TESTHOST", var "CONFIG", var "LOG",
    var "LOG_FORMAT"⟩

def hasAny (o : EnvOverrides) : Bool :=
  o.parallelLevel.isSome || o.sharedHosts.isSome || o.inProcess.isSome ||
    o.connectionTimeoutSecs.isSome || o.workerConnectTimeoutSecs.isSome ||
    o.testhostExecutable.isSome || o.configFile.isSome || o.logLevel.isSome || o.logFormat.isSome

def positive (n : Option Nat) : Option Nat := n.filter (· > 0)

/-- The settings with every override applied; zero timeouts and unknown log formats are
skipped. -/
def apply (o : EnvOverrides) (c : Config) : Config :=
  let format := o.logFormat.bind fun f => match LogFormat.parse f with
    | .ok f => some f
    | .error _ => none
  { c with
    parallelLevel := o.parallelLevel.getD c.parallelLevel
    sharedHosts := o.sharedHosts.getD c.sharedHosts
    inProcess := o.inProcess.getD c.inProcess
    connectionTimeoutSecs := (positive o.connectionTimeoutSecs).getD c.connectionTimeoutSecs
    workerConnectTimeoutSecs := (positive o.workerConnectTimeoutSecs).getD c.workerConnectTimeoutSecs
    testhost := { c.testhost with executable := o.testhostExecutable.getD c.testhost.executable }
    logLevel := o.logLevel.getD c.logLevel
    logFormat := format.getD c.logFormat }

end EnvOverrides

/-- The host-side wait in seconds: the variable's value when it reads as a positive number,
else the default. -/
def connectionTimeoutOf (e : Environment) : Nat :=
  (EnvOverrides.positive ((e.get? connectionTimeoutVar).bind readNumber)).getD Config.defaultConnectionTimeout

/-- A variable that the environment builder sets. -/
inductive EnvSetting where
  | parallelLevel (n : Nat)
  | sharedHosts (b : Bool)
  | connectionTimeout (secs : Nat)
  | testhost (executable : String)
  deriving DecidableEq, Repr

namespace EnvSetting

def var : EnvSetting → String
  | .parallelLevel _ => envName "PARALLEL_LEVEL"
  | .sharedHosts _ => envName "SHARED_HOSTS"
  | .connectionTimeout _ => connectionTimeoutVar
  | .testhost _ => envName "TESTHOST"

def value : EnvSetting → String
  | .parallelLevel n => toString n
  | .sharedHosts b => if b then "true" else "false"
  | .connectionTimeout n => toString n
  | .testhost s => s

def apply (e : Environment) (s : EnvSetting) : Environment := e.set s.var s.value

end EnvSetting

def Environment.applySettings (e : Environment) (ss : List EnvSetting) : Environment := ss.foldl EnvSetting.apply e

/-- Sets variables in order, and returns what undoes them: each variable's earlier value, in the
order they were set. -/
def Environment.applyScoped (e : Environment) (ss : List EnvSetting) : Environment × List (String × Option String) :=
  (e.applySettings ss, ss.map fun s => (s.var, e.get? s.var))

def Environment.undo (e : Environment) (saved : List (String × Option String)) : Environment :=
  saved.foldl (fun e (k, v) => e.restore k v) e

end TestConductor
