import TestConductor.Bench.Values
import TestConductor.Work.Queue
import TestConductor.Work.Tally
/-! # Work queues and tallies

Requests that replay operations on a work queue, a discovery tally or a run tally, answering
the state after each.
-/
namespace TestConductor

namespace Bench

open Json (Shape)

def workItemOf (j : Json) : Except Json WorkItem := do
  let src := strField j "source"
  match j.get? "tests" with
  | some ts => do
    let ts ← decodeAs (.list TestCase.shape) ts
    pure (.tests src ((ts.asArr?.getD []).map TestCase.ofJson))
  | none => pure (.source src)

def workItemJson : WorkItem → Json
  | .source s => Json.map [("source", .str s)]
  | .tests s ts => Json.map [("source", .str s), ("tests", .strs (ts.map (·.fullyQualifiedName))),
      ("item_source", .str s)]

def workQueueOp (req : Json) : Except Json Json := do
  let items ← (((req.get? "items").bind Json.asArr?).getD []).mapM workItemOf
  let ops := ((req.get? "ops").bind Json.asArr?).getD []
  let (_, out) ← ops.foldlM (fun (acc : WorkQueue × List Json) op => do
    let (q, out) := acc
    let (result, q) ← match op.get? "dequeue", op.get? "requeue" with
      | some _, _ => do
        let (i, q) := q.dequeue
        pure (Json.opt workItemJson i, q)
      | none, some i => do
        let (b, q) := q.requeue (← workItemOf i) (natField op "limit")
        pure (Json.bool b, q)
      | none, none => pure (Json.null, q)
    pure (q, out ++ [Json.map [("result", result), ("len", .nat q.size),
      ("is_empty", .bool q.isEmpty), ("total", .nat q.total)]])) (WorkQueue.new items, [])
  return .arr out

def discoveryAggregatorOp (req : Json) : Except Json Json := do
  let ops := ((req.get? "ops").bind Json.asArr?).getD []
  let (_, out) ← ops.foldlM (fun (acc : DiscoveryTally × List Json) op => do
    let (t, out) := acc
    let t ← match (op.get? "aggregate").bind Json.asArr? with
      | some [n, b] =>
        match t.aggregate? (n.asInt?.getD 0) (b.asBool?.getD false) with
        | some t => pure t
        | none => throw (panicAnswer "attempt to add with overflow")
      | _ => pure (if (op.get? "mark_aborted").isSome then t.markAborted else t)
    pure (t, out ++ [Json.map [("total_tests", .int t.reported), ("is_aborted", .bool t.isAborted),
      ("partials", .nat t.partials)]])) (DiscoveryTally.empty, [])
  return .arr out

def runAggregatorOp (req : Json) : Except Json Json := do
  let ops := ((req.get? "ops").bind Json.asArr?).getD []
  let (_, out) ← ops.foldlM (fun (acc : RunTally × List Json) op => do
    let (t, out) := acc
    let (t, finished) ← match op.get? "aggregate" with
      | some a => do
        let c ← match a.get? "complete" with
          | some c => do pure (RunCompletion.ofJson (← decodeAs RunCompletion.shape c))
          | none => pure (RunCompletion.completed Statistics.empty Duration.zero)
        let extra ← match a.get? "attachments" with
          | some x => do pure ((((← decodeAs (.list AttachmentSet.shape) x).asArr?).getD []).map AttachmentSet.ofJson)
          | none => pure []
        let m ← match a.get? "metrics" with
          | some x => do pure (((← decodeAs Metrics.shape x).asObj?).getD [])
          | none => pure []
        match t.aggregate? c extra m with
        | some t => pure (t, Json.null)
        | none => throw (panicAnswer "attempt to add with overflow")
      | none =>
        if (op.get? "mark_canceled").isSome then pure (t.markCanceled, Json.null)
        else if (op.get? "mark_aborted").isSome then pure (t.markAborted, Json.null)
        else if (op.get? "finish").isSome then
          let ((c, atts, m), t) := t.finish
          pure (t, Json.map [("complete", c.toJson), ("attachments", .arr (atts.map AttachmentSet.toJson)),
            ("metrics", Json.map m), ("outcome", runOutcomeJson c.outcome)])
        else pure (t, Json.null)
    pure (t, out ++ [Json.map [("partials", .nat t.partials), ("stats", t.stats.toJson),
      ("metrics", Json.map t.metrics), ("finished", finished)]])) (RunTally.empty, [])
  return .arr out

end Bench

end TestConductor
