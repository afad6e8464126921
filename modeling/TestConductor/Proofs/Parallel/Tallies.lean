import TestConductor.Proofs.Parallel.Flow
import Mathlib
/-! # How the partials of a request make its completion

A parallel request ends with one completion, built from the partials folded into its tally in
the order they were folded, from the stops asked for and from whether units were left unsent.
Said without the tally: a discovery is aborted, with total -1, when a partial aborted or counted
a negative total, an abort was asked for or units were left unsent, and otherwise counts the
sum of the totals. A run is canceled when a cancel was asked for or a partial was canceled, and
aborted when an abort was asked for, a partial aborted, or units were left unsent and no cancel
was asked for; it merges the statistics of its partials (and has no completion when they
overflow), keeps the longest elapsed time, joins the errors by new lines, and hands over each
partial's attachment sets followed by the attachments that came with it, with the metrics merged
in order.
-/
namespace TestConductor

namespace Report

def discoveryPart : Report → Option (Int × Bool)
  | .discovery total _ aborted => some (total, aborted)
  | .run .. => none

def runPart : Report → Option (RunCompletion × List AttachmentSet × Metrics)
  | .discovery .. => none
  | .run c _ attachments metrics => some (c, attachments, metrics)

end Report

/-- How a discovery request ends, from the totals and abort marks of its partials, whether an
abort was asked for and whether units were left unsent. -/
def discoveryOutcome (parts : List (Int × Bool)) (abortAsked unsent : Bool) : CallerEvent :=
  if parts.any (fun p => p.2 || decide (p.1 < 0)) || abortAsked || unsent then
    .discoveryComplete (-1) none true
  else .discoveryComplete (parts.map (·.1)).sum none false

/-- How a run request ends, from its partials in the order they were folded, the stops asked for
and whether units were left unsent; nothing when the merged statistics overflow. -/
def runOutcome (parts : List (RunCompletion × List AttachmentSet × Metrics)) (abortAsked cancelAsked unsent : Bool) :
    Option CallerEvent := do
  let stats ← parts.foldlM (fun acc p => acc.merge? p.1.stats) Statistics.empty
  let errors := parts.flatMap fun p => p.1.error.toList
  return .runComplete
    ⟨stats, cancelAsked || parts.any (·.1.isCanceled),
      abortAsked || parts.any (·.1.isAborted) || (!cancelAsked && unsent),
      if errors.isEmpty then none else some ("\n".intercalate errors), [],
      parts.foldl (fun d p => d.max p.1.elapsed) Duration.zero⟩
    none (parts.flatMap fun p => p.1.attachmentSets ++ p.2.1) (parts.foldl (fun m p => Metrics.absorb m p.2.2) [])

def outcome (discovers : Bool) (rs : List Report) (abortAsked cancelAsked unsent : Bool) : Option CallerEvent :=
  if discovers then some (discoveryOutcome (rs.filterMap Report.discoveryPart) abortAsked unsent)
  else runOutcome (rs.filterMap Report.runPart) abortAsked cancelAsked unsent

namespace Tally

def discoveryPart : Tally → DiscoveryTally
  | .discovery d => d
  | .run _ => .empty

def runPart : Tally → RunTally
  | .run r => r
  | .discovery _ => .empty

def add (t : Tally) : Report → Option Tally
  | .discovery total _ aborted => (t.discoveryPart.aggregate? total aborted).map .discovery
  | .run c _ attachments metrics => (t.runPart.aggregate? c attachments metrics).map .run

/-- The completion a tally reports when its request ends, given the stops asked for and whether
units were left unsent. -/
def completion (abortAsked cancelAsked unsent : Bool) : Tally → CallerEvent
  | .discovery d =>
    let d := if abortAsked || unsent then d.markAborted else d
    .discoveryComplete d.reported none d.isAborted
  | .run r =>
    let r := if cancelAsked then r.markCanceled else r
    let r := if abortAsked || (!cancelAsked && unsent) then r.markAborted else r
    .runComplete r.finish.1.1 none r.finish.1.2.1 r.finish.1.2.2

end Tally

namespace Manager

theorem discoveryTally_eq (t : Tracker Context Tally) : discoveryTally t = t.tally.discoveryPart := by
  unfold discoveryTally Tally.discoveryPart
  cases t.tally <;> rfl

theorem runTally_eq (t : Tracker Context Tally) : runTally t = t.tally.runPart := by
  unfold runTally Tally.runPart
  cases t.tally <;> rfl

theorem account_tally {t t' : Tracker Context Tally} {r : Report} {n : Option Nat}
    {nx : Option (Nat × WorkItem)} {done : Option CallerEvent}
    (h : account t r n = some (t', nx, done)) :
    ∃ x, t.tally.add r = some x ∧ (done = none → t'.tally = x) ∧
      ∀ e, done = some e → e = x.completion t.abortRequested t.cancelRequested (!t'.queue.items.isEmpty) := by
  cases r with
  | discovery total chunk aborted =>
    simp only [account, accountDiscovery, settleUnit_eq] at h
    cases ha : (discoveryTally t).aggregate? total aborted with
    | none => simp [ha] at h
    | some x =>
      simp only [ha, Option.bind_eq_bind, Option.bind_some] at h
      refine ⟨.discovery x, by simp [Tally.add, ← discoveryTally_eq, ha], ?_, ?_⟩ <;>
        split at h <;> simp only [Option.pure_def, Option.some.injEq, Prod.mk.injEq] at h <;>
        obtain ⟨rfl, rfl, rfl⟩ := h
      · simp
      · exact fun _ => rfl
      · intro e he
        cases he
        simp [Tally.completion, Tracker.completeUnit_eq, Tracker.finish, Tracker.hasPending, WorkQueue.isEmpty]
      · simp
  | run c chunk attachments metrics =>
    simp only [account, accountRun, settleUnit_eq] at h
    cases ha : (runTally t).aggregate? c attachments metrics with
    | none => simp [ha] at h
    | some x =>
      simp only [ha, Option.bind_eq_bind, Option.bind_some] at h
      refine ⟨.run x, by simp [Tally.add, ← runTally_eq, ha], ?_, ?_⟩ <;>
        split at h <;> simp only [Option.pure_def, Option.some.injEq, Prod.mk.injEq] at h <;>
        obtain ⟨rfl, rfl, rfl⟩ := h
      · simp
      · exact fun _ => rfl
      · intro e he
        cases he
        simp [Tally.completion, Tracker.completeUnit_eq, Tracker.finish, Tracker.hasPending, WorkQueue.isEmpty]
      · simp

end Manager

/-! ## Folding the partials -/

namespace DiscoveryTally

/-- What a discovery tally `b` holds after the partials `parts` were folded into `a`. -/
structure Absorbs (a b : DiscoveryTally) (parts : List (Int × Bool)) : Prop where
  aborted : b.isAborted = (a.isAborted || parts.any fun p => p.2 || decide (p.1 < 0))
  total : b.isAborted = false → b.totalTests = a.totalTests + (parts.map (·.1)).sum

theorem Absorbs.nil (a : DiscoveryTally) : a.Absorbs a [] := ⟨by simp, by simp⟩

theorem Absorbs.cons {a a₁ b : DiscoveryTally} {total : Int} {aborted : Bool} {parts : List (Int × Bool)}
    (h : a.aggregate? total aborted = some a₁) (h₁ : a₁.Absorbs b parts) :
    a.Absorbs b ((total, aborted) :: parts) := by
  unfold aggregate? at h
  by_cases hbad : (aborted || decide (total < 0)) = true
  · simp only [hbad, if_true, Option.some.injEq] at h
    subst h
    refine ⟨?_, fun hb => ?_⟩
    · simp [h₁.aborted, hbad]
    · simp [h₁.aborted] at hb
  · have hgood : aborted = false ∧ ¬total < 0 := by simpa using hbad
    simp only [hbad, Bool.false_eq_true, if_false] at h
    split at h
    · -- a total past the largest signed word fails the fold
      cases h
    · simp only [Option.some.injEq] at h
      subst h
      refine ⟨?_, fun hb => ?_⟩
      · simp [h₁.aborted, hgood]
      · rw [h₁.total hb]
        simp [Int.add_assoc]

end DiscoveryTally

namespace RunTally

/-- What a run tally `b` holds after the partials `parts` were folded into `a`. -/
structure Absorbs (a b : RunTally) (parts : List (RunCompletion × List AttachmentSet × Metrics)) : Prop where
  stats : parts.foldlM (fun acc p => acc.merge? p.1.stats) a.stats = some b.stats
  canceled : b.isCanceled = (a.isCanceled || parts.any (·.1.isCanceled))
  aborted : b.isAborted = (a.isAborted || parts.any (·.1.isAborted))
  errors : b.errors = a.errors ++ parts.flatMap fun p => p.1.error.toList
  attachments : b.attachments = a.attachments ++ parts.flatMap fun p => p.1.attachmentSets ++ p.2.1
  metrics : b.metrics = parts.foldl (fun m p => Metrics.absorb m p.2.2) a.metrics
  elapsed : b.elapsed = parts.foldl (fun d p => d.max p.1.elapsed) a.elapsed

theorem Absorbs.nil (a : RunTally) : a.Absorbs a [] := ⟨rfl, by simp, by simp, by simp, by simp, rfl, rfl⟩

theorem Absorbs.cons {a a₁ b : RunTally} {c : RunCompletion} {extra : List AttachmentSet} {m : Metrics}
    {parts : List (RunCompletion × List AttachmentSet × Metrics)}
    (h : a.aggregate? c extra m = some a₁) (h₁ : a₁.Absorbs b parts) :
    a.Absorbs b ((c, extra, m) :: parts) := by
  unfold aggregate? at h
  cases hm : a.stats.merge? c.stats with
  | none => simp [hm] at h
  | some st =>
    simp only [hm, Option.bind_eq_bind, Option.bind_some, Option.pure_def, Option.some.injEq] at h
    subst h
    refine ⟨?_, ?_, ?_, ?_, ?_, h₁.metrics, h₁.elapsed⟩
    · simpa [List.foldlM_cons, hm] using h₁.stats
    · simp [h₁.canceled, Bool.or_assoc]
    · simp [h₁.aborted, Bool.or_assoc]
    · simp [h₁.errors]
    · simp [h₁.attachments]

end RunTally

namespace Tally

theorem foldlM_discovery {rs : List Report} (hfit : ∀ r ∈ rs, r.fits true = true) {a : DiscoveryTally}
    {x : Tally} (h : rs.foldlM add (.discovery a) = some x) :
    ∃ b, x = .discovery b ∧ a.Absorbs b (rs.filterMap Report.discoveryPart) := by
  -- the rest of the reports is folded from the tally the first one left
  induction rs generalizing a with
  | nil =>
    simp only [List.foldlM_nil, Option.pure_def, Option.some.injEq] at h
    exact ⟨a, h.symm, .nil a⟩
  | cons r rs ih =>
    cases r with
    | run => simp [Report.fits] at hfit
    | discovery total chunk aborted =>
      simp only [List.foldlM_cons, add, discoveryPart] at h
      cases ha : a.aggregate? total aborted with
      | none => simp [ha] at h
      | some a₁ =>
        simp only [ha, Option.map_some, Option.bind_eq_bind, Option.bind_some] at h
        obtain ⟨b, rfl, hb⟩ := ih (fun r hr => hfit r (List.mem_cons_of_mem _ hr)) h
        exact ⟨b, rfl, by simpa [Report.discoveryPart] using hb.cons ha⟩

theorem foldlM_run {rs : List Report} (hfit : ∀ r ∈ rs, r.fits false = true) {a : RunTally}
    {x : Tally} (h : rs.foldlM add (.run a) = some x) :
    ∃ b, x = .run b ∧ a.Absorbs b (rs.filterMap Report.runPart) := by
  induction rs generalizing a with
  | nil =>
    simp only [List.foldlM_nil, Option.pure_def, Option.some.injEq] at h
    exact ⟨a, h.symm, .nil a⟩
  | cons r rs ih =>
    cases r with
    | discovery => simp [Report.fits] at hfit
    | run c chunk extra m =>
      simp only [List.foldlM_cons, add, runPart] at h
      cases ha : a.aggregate? c extra m with
      | none => simp [ha] at h
      | some a₁ =>
        simp only [ha, Option.map_some, Option.bind_eq_bind, Option.bind_some] at h
        obtain ⟨b, rfl, hb⟩ := ih (fun r hr => hfit r (List.mem_cons_of_mem _ hr)) h
        exact ⟨b, rfl, by simpa [Report.runPart] using hb.cons ha⟩

theorem completion_discovery {b : DiscoveryTally} {parts : List (Int × Bool)}
    (hb : DiscoveryTally.empty.Absorbs b parts) (abortAsked cancelAsked unsent : Bool) :
    (Tally.discovery b).completion abortAsked cancelAsked unsent = discoveryOutcome parts abortAsked unsent := by
  have ha : b.isAborted = parts.any fun p => p.2 || decide (p.1 < 0) := by
    simpa [DiscoveryTally.empty] using hb.aborted
  unfold completion discoveryOutcome
  by_cases hbad : (b.isAborted || abortAsked || unsent) = true
  · rw [← ha, if_pos hbad]
    by_cases hm : (abortAsked || unsent) = true
    · simp [hm, DiscoveryTally.markAborted, DiscoveryTally.reported]
    · have hab : b.isAborted = true := by simp_all
      simp [hm, hab, DiscoveryTally.reported]
  · obtain ⟨⟨hb₀, ha₀⟩, hu₀⟩ : (b.isAborted = false ∧ abortAsked = false) ∧ unsent = false := by
      simpa using hbad
    rw [← ha, if_neg hbad]
    simp [hb₀, ha₀, hu₀, DiscoveryTally.reported, hb.total hb₀, DiscoveryTally.empty]

theorem completion_run {b : RunTally} {parts : List (RunCompletion × List AttachmentSet × Metrics)}
    (hb : RunTally.empty.Absorbs b parts) (abortAsked cancelAsked unsent : Bool) :
    runOutcome parts abortAsked cancelAsked unsent = some ((Tally.run b).completion abortAsked cancelAsked unsent) := by
  have hs : parts.foldlM (fun acc p => acc.merge? p.1.stats) Statistics.empty = some b.stats := hb.stats
  have hc : b.isCanceled = parts.any (·.1.isCanceled) := by simpa [RunTally.empty] using hb.canceled
  have ha : b.isAborted = parts.any (·.1.isAborted) := by simpa [RunTally.empty] using hb.aborted
  have he : b.errors = parts.flatMap fun p => p.1.error.toList := by simpa [RunTally.empty] using hb.errors
  have hat : b.attachments = parts.flatMap fun p => p.1.attachmentSets ++ p.2.1 := by
    simpa [RunTally.empty] using hb.attachments
  have hm : b.metrics = parts.foldl (fun m p => Metrics.absorb m p.2.2) [] := hb.metrics
  have hel : b.elapsed = parts.foldl (fun d p => d.max p.1.elapsed) Duration.zero := hb.elapsed
  simp only [runOutcome, hs, Option.bind_eq_bind, Option.bind_some, Option.pure_def, Option.some.injEq,
    completion, ← hm, ← hel, ← hc, ← ha, ← he, ← hat]
  -- what is left is how the stops asked for and the units unsent mark the tally
  cases cancelAsked <;> cases abortAsked <;> cases unsent <;>
    simp [RunTally.finish, RunTally.markCanceled, RunTally.markAborted, Bool.or_comm]

theorem outcome_of_foldlM (m : Manager) {rs : List Report} (hfit : ∀ r ∈ rs, r.fits m.discovers = true)
    {x : Tally} (h : rs.foldlM add m.freshTally = some x) (abortAsked cancelAsked unsent : Bool) :
    outcome m.discovers rs abortAsked cancelAsked unsent = some (x.completion abortAsked cancelAsked unsent) := by
  unfold outcome
  cases hd : m.discovers with
  | true =>
    rw [Manager.freshTally, hd, if_pos rfl] at h
    obtain ⟨b, rfl, hb⟩ := foldlM_discovery (hd ▸ hfit) h
    rw [if_pos rfl, completion_discovery hb]
  | false =>
    rw [Manager.freshTally, hd, if_neg Bool.false_ne_true] at h
    obtain ⟨b, rfl, hb⟩ := foldlM_run (hd ▸ hfit) h
    rw [if_neg Bool.false_ne_true, completion_run hb]

end Tally

end TestConductor
