import TestConductor.Model.TestCase
/-! # Discovery and run criteria

Discovery criteria name the sources to search; run criteria name what to run, whole sources or
explicit test cases. Both carry opaque run settings and a test case filter. The sources of a
run are its distinct sources in the order they first appear, compared as exact strings; the
tests of a run are grouped by source in the same order.
-/
namespace TestConductor

def distinct {α : Type} [BEq α] : List α → List α
  | [] => []
  | x :: xs => x :: distinct (xs.filter (· != x))
termination_by xs => xs.length
decreasing_by
  all_goals simp_wf
  all_goals
    have := List.length_filter_le (· != x) xs
    omega

/-- What to discover. -/
structure DiscoveryCriteria where
  sources : List String
  runSettings : Option String
  testCaseFilter : Option String
  /-- How many tests are batched into one discovered-tests event. -/
  batchSize : Nat
  deriving DecidableEq, Repr, Inhabited

namespace DiscoveryCriteria

def defaultBatch : Nat := 10

def new (sources : List String) : DiscoveryCriteria := ⟨sources, none, none, defaultBatch⟩

def withRunSettings (c : DiscoveryCriteria) (s : String) : DiscoveryCriteria := { c with runSettings := some s }

def withFilter (c : DiscoveryCriteria) (f : String) : DiscoveryCriteria := { c with testCaseFilter := some f }

def forSource (c : DiscoveryCriteria) (s : String) : DiscoveryCriteria := { c with sources := [s] }

def toJson (c : DiscoveryCriteria) : Json :=
  .obj [("sources", .strs c.sources), ("run_settings", Json.opt .str c.runSettings),
    ("test_case_filter", Json.opt .str c.testCaseFilter),
    ("frequency_of_discovered_test_events", .nat c.batchSize)]

def shape : Json.Shape :=
  .record "DiscoveryCriteria"
    [Json.Shape.field "sources" (.list .string),
     Json.Shape.defField "run_settings" (.optional .string) .null,
     Json.Shape.defField "test_case_filter" (.optional .string) .null,
     Json.Shape.defField "frequency_of_discovered_test_events" Json.Shape.usize (.nat defaultBatch)]

def ofJson (j : Json) : DiscoveryCriteria :=
  ⟨(((j.get? "sources").bind Json.asArr?).getD []).filterMap Json.asStr?,
    (j.get? "run_settings").bind Json.asStr?, (j.get? "test_case_filter").bind Json.asStr?,
    ((j.get? "frequency_of_discovered_test_events").bind Json.asNat?).getD defaultBatch⟩

end DiscoveryCriteria

/-- What a run covers: whole sources, or explicit test cases. -/
inductive RunTarget where
  | sources (sources : List String)
  | tests (tests : List TestCase)
  deriving DecidableEq, Repr, Inhabited

namespace RunTarget

def toJson : RunTarget → Json
  | .sources ss => .obj [("sources", .strs ss)]
  | .tests ts => .obj [("tests", .arr (ts.map TestCase.toJson))]

def shape : Json.Shape := .tagged [("sources", .list .string), ("tests", .list TestCase.shape)]

def ofJson (j : Json) : RunTarget :=
  match j with
  | .obj [("tests", .arr ts)] => .tests (ts.map TestCase.ofJson)
  | .obj [("sources", .arr ss)] => .sources (ss.filterMap Json.asStr?)
  | _ => .sources []

end RunTarget

def groupBySource (ts : List TestCase) : List (String × List TestCase) :=
  ts.foldl (fun groups t =>
    if groups.any (·.1 == t.source) then
      groups.map fun (s, g) => if s == t.source then (s, g ++ [t]) else (s, g)
    else groups ++ [(t.source, [t])]) []

/-- What to run. -/
structure RunCriteria where
  target : RunTarget
  runSettings : Option String
  testCaseFilter : Option String
  keepAlive : Bool
  /-- How many results are batched into one progress event. -/
  batchSize : Nat
  deriving DecidableEq, Repr, Inhabited

namespace RunCriteria

def ofTarget (t : RunTarget) : RunCriteria := ⟨t, none, none, false, DiscoveryCriteria.defaultBatch⟩

def withRunSettings (c : RunCriteria) (s : String) : RunCriteria := { c with runSettings := some s }

def withKeepAlive (c : RunCriteria) (b : Bool) : RunCriteria := { c with keepAlive := b }

def hasSpecificSources (c : RunCriteria) : Bool :=
  match c.target with
  | .sources _ => true
  | .tests _ => false

def hasSpecificTests (c : RunCriteria) : Bool := !c.hasSpecificSources

def testsBySource (c : RunCriteria) : List (String × List TestCase) :=
  match c.target with
  | .sources _ => []
  | .tests ts => groupBySource ts

def sources (c : RunCriteria) : List String :=
  match c.target with
  | .sources ss => distinct ss
  | .tests _ => c.testsBySource.map (·.1)

def retarget (c : RunCriteria) (t : RunTarget) : RunCriteria := { c with target := t }

def toJson (c : RunCriteria) : Json :=
  .obj [("target", c.target.toJson), ("run_settings", Json.opt .str c.runSettings),
    ("test_case_filter", Json.opt .str c.testCaseFilter), ("keep_alive", .bool c.keepAlive),
    ("frequency_of_run_stats_change_event", .nat c.batchSize)]

def shape : Json.Shape :=
  .record "TestRunCriteria"
    [Json.Shape.field "target" RunTarget.shape,
     Json.Shape.defField "run_settings" (.optional .string) .null,
     Json.Shape.defField "test_case_filter" (.optional .string) .null,
     Json.Shape.defField "keep_alive" .bool (.bool false),
     Json.Shape.defField "frequency_of_run_stats_change_event" Json.Shape.usize
       (.nat DiscoveryCriteria.defaultBatch)]

def ofJson (j : Json) : RunCriteria :=
  ⟨RunTarget.ofJson ((j.get? "target").getD .null), (j.get? "run_settings").bind Json.asStr?,
    (j.get? "test_case_filter").bind Json.asStr?, ((j.get? "keep_alive").bind Json.asBool?).getD false,
    ((j.get? "frequency_of_run_stats_change_event").bind Json.asNat?).getD DiscoveryCriteria.defaultBatch⟩

end RunCriteria

end TestConductor
