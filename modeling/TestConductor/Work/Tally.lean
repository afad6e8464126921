import TestConductor.Model.Run
import TestConductor.Binary64
/-! # Tallies of partial completions

A parallel request is answered once, from the partial completions of its units. Discovery sums
the test counts unless a partial aborted; a run merges statistics, flags, errors, attachments,
metrics and the longest elapsed time. Counters are 64-bit words, and a sum that leaves its word
has no value (`none`).
-/
namespace TestConductor

def int64Min : Int := -Int.pow 2 63

def int64Max : Int := Int.pow 2 63 - 1

/-- The discovery partials of a request folded together. -/
structure DiscoveryTally where
  totalTests : Int
  isAborted : Bool
  partials : Nat
  deriving DecidableEq, Repr, Inhabited

namespace DiscoveryTally

def empty : DiscoveryTally := ⟨0, false, 0⟩

/-- Counts one partial: an aborted one, or one with a negative total, aborts the tally;
otherwise its total is added, and a sum beyond a signed word has no value. -/
def aggregate? (t : DiscoveryTally) (total : Int) (aborted : Bool) : Option DiscoveryTally :=
  let t := { t with partials := t.partials + 1 }
  if aborted || total < 0 then some { t with isAborted := true }
  else if t.totalTests + total > int64Max then none
  else some { t with totalTests := t.totalTests + total }

def markAborted (t : DiscoveryTally) : DiscoveryTally := { t with isAborted := true }

def reported (t : DiscoveryTally) : Int := if t.isAborted then -1 else t.totalTests

end DiscoveryTally

def saturatingAdd64 (a b : Int) : Int := max int64Min (min int64Max (a + b))

/-- The sum of two metric numbers: two signed words add with saturation, anything else adds as
binary64, and a sum that is not finite has no number. -/
def Json.Number.sumMetric (a b : Json.Number) : Option Json.Number :=
  match a.toInt64?, b.toInt64? with
  | some x, some y => some (Json.Number.ofInt (saturatingAdd64 x y))
  | _, _ =>
    let s := Binary64.add a.toBinary64 b.toBinary64
    if s.isFinite then some (.float s) else none

def Metrics.combine (old : Option Json) (new : Json) : Json :=
  match old, new with
  | some (.num a), .num b => ((Json.Number.sumMetric a b).map Json.num).getD .null
  | _, _ => new

def Metrics.absorb (acc incoming : Metrics) : Metrics :=
  incoming.foldl (fun acc (k, v) => Json.insertField k (Metrics.combine (acc.lookup k) v) acc) acc

/-- The run partials of a request folded together. -/
structure RunTally where
  stats : Statistics
  isCanceled : Bool
  isAborted : Bool
  errors : List String
  attachments : List AttachmentSet
  metrics : Metrics
  elapsed : Duration
  partials : Nat
  deriving Repr, Inhabited

namespace RunTally

def empty : RunTally := ⟨Statistics.empty, false, false, [], [], [], Duration.zero, 0⟩

/-- Counts one partial with the attachments and metrics that came with it; statistics that
overflow a counter have no value. -/
def aggregate? (t : RunTally) (c : RunCompletion) (extra : List AttachmentSet) (m : Metrics) :
    Option RunTally := do
  let stats ← t.stats.merge? c.stats
  return { stats
           isCanceled := t.isCanceled || c.isCanceled
           isAborted := t.isAborted || c.isAborted
           errors := t.errors ++ c.error.toList
           attachments := t.attachments ++ c.attachmentSets ++ extra
           metrics := Metrics.absorb t.metrics m
           elapsed := t.elapsed.max c.elapsed
           partials := t.partials + 1 }

def markCanceled (t : RunTally) : RunTally := { t with isCanceled := true }

def markAborted (t : RunTally) : RunTally := { t with isAborted := true }

/-- The completion to report, with the attachments and metrics handed over and drained from the
tally; errors are joined by new lines. -/
def finish (t : RunTally) : (RunCompletion × List AttachmentSet × Metrics) × RunTally :=
  let c : RunCompletion :=
    ⟨t.stats, t.isCanceled, t.isAborted,
      if t.errors.isEmpty then none else some ("\n".intercalate t.errors), [], t.elapsed⟩
  ((c, t.attachments, t.metrics), { t with attachments := [], metrics := [] })

end RunTally

end TestConductor
