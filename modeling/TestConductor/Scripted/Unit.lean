import TestConductor.Model.Events
import TestConductor.Model.Criteria
import TestConductor.Error
import TestConductor.Uuid
import TestConductor.Parallel.Tracker
/-! # Scripted units of work

A scripted proxy or in-process engine does a unit of work by reporting events that a script
fixes in advance. A discovery unit logs its messages as warnings and finds `tests` tests named
`<source>::T<i>`, reporting all but the last chunk as found and the last chunk with the
completion; a run unit logs its messages, records its outcomes (all passed by default, two tests
per source or one per explicit test) and completes with those statistics.
-/
namespace TestConductor

/-- Which found tests a scripted discovery keeps for its completion. -/
inductive ChunkRule where
  /-- The second half. -/
  | secondHalf
  /-- None: every test is reported as found. -/
  | absent
  /-- The last `k` tests. -/
  | lastOf (k : Nat)
  deriving DecidableEq, Repr, Inhabited

/-- The script of one source's unit of work. -/
structure UnitScript where
  /-- How many attempts are refused before one is accepted. -/
  reject : Nat := 0
  rejectError : Option Error := none
  /-- The unit never completes by itself. -/
  hang : Bool := false
  /-- The unit completes before the proxy accepts it. -/
  sync : Bool := false
  logs : List String := []
  aborted : Bool := false
  total : Option Int := none
  tests : Nat := 2
  chunk : ChunkRule := .secondHalf
  outcomes : Option (List Outcome) := none
  stats : Option Statistics := none
  statsChange : Bool := true
  canceled : Bool := false
  error : Option String := none
  completeAttachments : List AttachmentSet := []
  elapsedMs : Option Nat := none
  lastChunk : Bool := true
  attachments : Option (List AttachmentSet) := none
  metrics : Option Metrics := none
  deriving Repr, Inhabited

namespace UnitScript

def foundTest (source : String) (i : Nat) : TestCase :=
  ⟨Uuid.ofNat (i + 1), source ++ "::T" ++ toString i, "T" ++ toString i, "executor://fake", source⟩

def discoveryEvents (s : UnitScript) (source : String) : List CallerEvent :=
  let logs := s.logs.map (CallerEvent.log .warning)
  if s.aborted then logs ++ [.discoveryComplete (s.total.getD (-1)) none true]
  else
    let n := s.tests
    let found := (List.range n).map (foundTest source)
    let (first, last) := match s.chunk with
      | .absent => (found, none)
      | .lastOf k => (found.take (n - min k n), some (found.drop (n - min k n)))
      | .secondHalf => (found.take (n / 2), some (found.drop (n / 2)))
    logs ++ (if first.isEmpty then [] else [.discovered first]) ++
      [.discoveryComplete (s.total.getD n) last false]

def executedFor (c : RunCriteria) : Nat :=
  match c.target with
  | .sources ss => 2 * ss.length
  | .tests ts => ts.length

def runEvents (s : UnitScript) (c : RunCriteria) : List CallerEvent :=
  let executed := executedFor c
  let source := c.sources.head?.getD ""
  let stats := s.stats.getD
    ((Statistics.ofOutcomes? (s.outcomes.getD (List.replicate executed .passed))).getD .empty)
  let progress := RunProgress.new stats []
  let complete : RunCompletion := ⟨stats, s.canceled, s.aborted, s.error, s.completeAttachments,
    Duration.ofMillis (s.elapsedMs.getD 5)⟩
  s.logs.map (CallerEvent.log .informational) ++
    (if s.statsChange then [.statsChange progress] else []) ++
    [.runComplete complete (if s.lastChunk then some progress else none)
      (s.attachments.getD [AttachmentSet.new "datacollector://fake" source])
      (s.metrics.getD [("TotalTests", .nat executed)])]

def stoppedDiscovery : CallerEvent := .discoveryComplete (-1) none true

def stoppedRun (stop : StopRequest) : CallerEvent :=
  .runComplete ⟨.empty, stop == .cancel, stop == .abort, none, [], Duration.ofMillis 5⟩ none [] []

end UnitScript

end TestConductor
