import TestConductor.Config.File
import TestConductor.Launch.Runtime
import TestConductor.Model.Criteria
/-! # How the engine lays out its pools

The engine turns settings into pools of proxies. A pool has at most as many proxies as there are
sources and never fewer than one, up to the configured parallel level. Its proxies share their
test hosts only when both the settings and the chosen test host allow it; the host is chosen by
the first source. A run in the conductor's own process uses one unshared proxy, when an
in-process engine is present.
-/
namespace TestConductor

/-- The settings an engine works from: the conductor's settings, the test hosts by extension and
whether an in-process engine is present. -/
structure Engine where
  config : Config
  runtimes : RuntimeRegistry
  hasInProcess : Bool
  deriving Repr, Inhabited

/-- The size of a pool and whether its proxies share test hosts. -/
structure PoolLayout where
  level : Nat
  shared : Bool
  deriving DecidableEq, Repr, Inhabited

namespace Engine

def ofFile (f : ConfigFile) : Engine :=
  ⟨f.conductor, f.runtimes.foldl (fun r e => r.register e.extension e.testhost)
    (RuntimeRegistry.new f.conductor.testhost), false⟩

def withRuntime (e : Engine) (ext : String) (h : HostConfig) : Engine :=
  { e with runtimes := e.runtimes.register ext h }

/-- The parallel level for a number of sources: the configured level, at most the number of
sources, at least one. -/
def parallelLevel (e : Engine) (sourceCount : Nat) : Nat := max 1 (min e.config.parallelLevel sourceCount)

def sharesHosts (e : Engine) (h : HostConfig) : Bool := h.shared && e.config.sharedHosts

def discoveryLayout (e : Engine) (sources : List String) : PoolLayout :=
  ⟨e.parallelLevel sources.length, e.sharesHosts (e.runtimes.resolveFor sources)⟩

def runsInProcess (e : Engine) : Bool := e.config.inProcess && e.hasInProcess

def executionLayout (e : Engine) (c : RunCriteria) : PoolLayout :=
  if e.runsInProcess then ⟨1, false⟩
  else ⟨e.parallelLevel c.sources.length, e.sharesHosts (e.runtimes.resolveFor c.sources)⟩

end Engine

end TestConductor
