import TestConductor.Config.Host
import TestConductor.Error
import TestConductor.Text.Path
import TestConductor.Text.Case
/-! # Runtime providers

A runtime provider turns sources and a connection endpoint into the start information of a test
host: the configured program, the configured arguments followed by the endpoint and the
conductor's process id, the configured working directory or else the directory of the first
source. Providers are chosen by the extension of a source, compared without leading dots and in
lower case; a later provider for an extension replaces an earlier one, and sources without a
registered extension use the fallback.
-/
namespace TestConductor

namespace HostConfig

/-- The directory a host starts in: the configured one, else the directory of the first source
when it has one. -/
def startDirectory (h : HostConfig) (sources : List String) : Option String :=
  match h.workingDirectory with
  | some d => some d
  | none => (sources.head?.bind Text.Path.parent?).filter (!·.isEmpty)

/-- The start information of a host for sources and an endpoint; a host without a program is a
configuration error. -/
def startInfo (h : HostConfig) (sources : List String) (endpoint : String) (pid : Nat) :
    Except Error StartInfo :=
  if !h.hasExecutable then .error (.configuration "No test host executable configured")
  else .ok ⟨h.executable, h.arguments ++ ["--endpoint", endpoint, "--parent-process-id", toString pid],
    h.startDirectory sources, h.environment⟩

end HostConfig

def normalExtension (e : String) : String := Text.lowercase (String.ofList (e.toList.dropWhile (· == '.')))

/-- Test hosts chosen by the extension of a source. -/
structure RuntimeRegistry where
  /-- Hosts by normal extension, each extension once. -/
  byExtension : List (String × HostConfig)
  fallback : HostConfig
  deriving Repr, Inhabited

namespace RuntimeRegistry

def new (fallback : HostConfig) : RuntimeRegistry := ⟨[], fallback⟩

def register (r : RuntimeRegistry) (ext : String) (h : HostConfig) : RuntimeRegistry :=
  let e := normalExtension ext
  { r with byExtension := (r.byExtension.filter (·.1 != e)) ++ [(e, h)] }

def resolve (r : RuntimeRegistry) (source : String) : HostConfig :=
  ((Text.Path.extension? source).bind fun e => r.byExtension.lookup (normalExtension e)).getD r.fallback

def resolveFor (r : RuntimeRegistry) (sources : List String) : HostConfig :=
  match sources with
  | s :: _ => r.resolve s
  | [] => r.fallback

end RuntimeRegistry

end TestConductor
