import TestConductor.Json.Shape
import TestConductor.Text.Case
import TestConductor.Text.Blank
/-! # Log settings

A log level, a line layout and extra filter directives make up the logger options. The options
are handed to the log filter as one text: the conductor's own target at its level, then each
directive that is not blank, trimmed, after a comma.
-/
namespace TestConductor

/-- How much is logged. -/
inductive LogLevel where
  | trace
  | debug
  | info
  | warn
  | error
  deriving DecidableEq, Repr, Inhabited

namespace LogLevel

def all : List LogLevel := [.trace, .debug, .info, .warn, .error]

def caseName : LogLevel → String
  | .trace => "Trace"
  | .debug => "Debug"
  | .info => "Info"
  | .warn => "Warn"
  | .error => "Error"

def filterName : LogLevel → String
  | .trace => "TRACE"
  | .debug => "DEBUG"
  | .info => "INFO"
  | .warn => "WARN"
  | .error => "ERROR"

def parse (s : String) : Except String LogLevel :=
  match Text.lowercase s with
  | "trace" => .ok .trace
  | "debug" => .ok .debug
  | "info" => .ok .info
  | "warn" | "warning" => .ok .warn
  | "error" => .ok .error
  | other => .error ("Unknown log level: " ++ other)

end LogLevel

/-- The layout of log lines. -/
inductive LogFormat where
  | compact
  | full
  deriving DecidableEq, Repr, Inhabited

namespace LogFormat

def all : List LogFormat := [.compact, .full]

def name : LogFormat → String
  | .compact => "compact"
  | .full => "full"

def caseName : LogFormat → String
  | .compact => "Compact"
  | .full => "Full"

def parse (s : String) : Except String LogFormat :=
  match Text.lowercase s with
  | "compact" => .ok .compact
  | "full" => .ok .full
  | other => .error ("Unknown log format: " ++ other)

def shape : Json.Shape := .units (all.map name)

def ofJson (j : Json) : LogFormat := if j.asStr? == some "full" then .full else .compact

end LogFormat

/-- What the logger is built from. -/
structure LoggerOptions where
  level : LogLevel
  format : LogFormat
  /-- Whether each line names the module that emitted it. -/
  withTarget : Bool
  directives : List String
  deriving DecidableEq, Repr, Inhabited

namespace LoggerOptions

def ownTarget : String := "test_orchestrator"

def new (level : LogLevel) : LoggerOptions := ⟨level, .compact, false, []⟩

def withFormat (o : LoggerOptions) (f : LogFormat) : LoggerOptions := { o with format := f }

def withTargets (o : LoggerOptions) (b : Bool) : LoggerOptions := { o with withTarget := b }

def withDirective (o : LoggerOptions) (d : String) : LoggerOptions :=
  { o with directives := o.directives ++ [d] }

/-- The filter text: the own target at the level, then the trimmed directives that are not
blank. -/
def filter (o : LoggerOptions) : String :=
  let extra := (o.directives.map Text.trim).filter (!·.isEmpty)
  ",".intercalate ((ownTarget ++ "=" ++ o.level.filterName) :: extra)

def toJson (o : LoggerOptions) : Json :=
  Json.map [("level", .str o.level.caseName), ("format", .str o.format.caseName),
    ("with_target", .bool o.withTarget), ("directives", .strs o.directives), ("filter", .str o.filter)]

end LoggerOptions

/-- The logger of a process. It is installed at most once: later installations change nothing. -/
structure Logger where
  installed : Option LoggerOptions := none
  deriving DecidableEq, Repr, Inhabited

namespace Logger

def install (l : Logger) (o : LoggerOptions) : Bool × Logger :=
  match l.installed with
  | some _ => (false, l)
  | none => (true, ⟨some o⟩)

end Logger

end TestConductor
