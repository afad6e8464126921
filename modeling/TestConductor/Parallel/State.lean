import TestConductor.Parallel.Tracker
import TestConductor.Work.Tally
import TestConductor.Config.Host
import TestConductor.Model.Criteria
/-! # Parallel manager state

A parallel manager keeps a pool of proxies made by one factory, and the tracker of the request
it serves. A request is a discovery over sources or a run over sources or tests; each unit of
work is handed to one proxy with the request's criteria narrowed to the unit.
-/
namespace TestConductor

/-- The criteria of a request. -/
inductive UnitCriteria where
  | discovery (c : DiscoveryCriteria)
  | run (c : RunCriteria)
  deriving Repr, Inhabited

namespace UnitCriteria

def narrow (c : UnitCriteria) (item : WorkItem) : UnitCriteria :=
  match c, item with
  | .discovery d, _ => .discovery (d.forSource item.sourceName)
  | .run r, .source s => .run (r.retarget (.sources [s]))
  | .run r, .tests _ ts => .run (r.retarget (.tests ts))

def workItems : UnitCriteria → List WorkItem
  | .discovery d => d.sources.map .source
  | .run r =>
    match r.target with
    | .sources _ => r.sources.map .source
    | .tests _ => r.testsBySource.map fun (s, ts) => .tests s ts

end UnitCriteria

/-- A request being served: its number and criteria. -/
structure Context where
  id : Nat
  criteria : UnitCriteria
  deriving Repr, Inhabited

/-- The tally of a request. -/
inductive Tally where
  | discovery (t : DiscoveryTally)
  | run (t : RunTally)
  deriving Repr, Inhabited

/-- How a pool makes its proxies. -/
inductive Factory where
  /-- Scripted proxies. -/
  | scripted
  /-- Test-host proxies for discovery, named `discovery-<n>`. -/
  | discovery (runtime : HostConfig)
  /-- Test-host proxies for runs, named `execution-<n>`. -/
  | execution (runtime : HostConfig)
  /-- In-process proxies. -/
  | inProcess
  deriving Repr, Inhabited

/-- A pool of proxies. -/
structure Pool where
  members : List Nat
  shared : Bool
  factory : Factory
  deriving Repr, Inhabited

/-- A parallel manager. -/
structure Manager where
  pool : Pool
  /-- Whether it discovers rather than runs. -/
  discovers : Bool
  retryLimit : Nat
  tracker : Tracker Context Tally
  deriving Repr

namespace Manager

def freshTally (m : Manager) : Tally := if m.discovers then .discovery .empty else .run .empty

end Manager

end TestConductor
