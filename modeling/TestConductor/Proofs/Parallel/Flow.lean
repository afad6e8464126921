import TestConductor.Parallel.Manager
import TestConductor.Proofs.Parallel.Tracker
/-! # The tasks of a parallel manager

A parallel manager shares its work among tasks: the call that serves a request, one task per
unit handed to a proxy, the handlers of the proxies' completions and the tasks of a stop's
broadcast. A task touches the manager's bookkeeping only between the points where it can wait,
so each stretch between two such points is one step here, and whichever task can go on may take
the next one. The proxies are left open: each accepts or refuses the unit it is handed, passes
events on and completes an accepted unit once; a misbehaving one reports a completion it does
not owe.
-/
namespace TestConductor

/-- What a proxy reports when it completes a unit. -/
inductive Report where
  | discovery (total : Int) (chunk : Option (List TestCase)) (aborted : Bool)
  | run (complete : RunCompletion) (chunk : Option RunProgress) (attachments : List AttachmentSet)
      (metrics : Metrics)
  deriving Repr, Inhabited

namespace Report

def aborted : Report → Bool
  | .discovery _ _ a => a
  | .run c .. => c.isAborted

/-- The event passing the last chunk on to the caller; discovery passes on only a chunk that
holds tests. -/
def chunkEvent : Report → Option CallerEvent
  | .discovery _ (some ts) _ => if ts.isEmpty then none else some (.discovered ts)
  | .discovery _ none _ => none
  | .run _ (some p) _ _ => some (.statsChange p)
  | .run _ none _ _ => none

def fits (discovers : Bool) : Report → Bool
  | .discovery .. => discovers
  | .run .. => !discovers

def gaveUp (discovers : Bool) (message : String) : Report :=
  if discovers then .discovery (-1) none true
  else .run (RunCompletion.aborted (some message) Duration.zero) none [] []

end Report

namespace Manager

def account (t : Tracker Context Tally) (r : Report) (next : Option Nat) :
    Option (Tracker Context Tally × Option (Nat × WorkItem) × Option CallerEvent) :=
  match r with
  | .discovery total _ aborted => accountDiscovery t total aborted next
  | .run c _ attachments metrics => accountRun t c attachments metrics next

theorem settleUnit_eq (t : Tracker Context Tally) (x : Tally) (n : Option Nat) :
    settleUnit { t with tally := x } n = ((t.completeUnit n).1, { (t.completeUnit n).2 with tally := x }) := by
  simp [settleUnit, Tracker.completeUnit_eq, Tracker.nextAfter, Tracker.stopRequested]

theorem account_eq_some {t t' : Tracker Context Tally} {r : Report} {n : Option Nat}
    {nx : Option (Nat × WorkItem)} {done : Option CallerEvent}
    (h : account t r n = some (t', nx, done)) :
    nx = (t.completeUnit n).1.next ∧ done.isSome = (t.completeUnit n).1.finished ∧
      (∀ e ∈ done, e.isCompletion = true) ∧
      ∃ x : Tally, t' = if done.isSome then ({ (t.completeUnit n).2 with tally := x }).finish
        else { (t.completeUnit n).2 with tally := x } := by
  cases r with
  | discovery total chunk aborted =>
    simp only [account, accountDiscovery, settleUnit_eq] at h
    cases ha : (discoveryTally t).aggregate? total aborted with
    | none => simp [ha] at h
    | some x =>
      simp only [ha, Option.bind_eq_bind, Option.bind_some] at h
      split at h
      · rename_i hf
        simp only [Option.pure_def, Option.some.injEq, Prod.mk.injEq] at h
        obtain ⟨rfl, rfl, rfl⟩ := h
        refine ⟨rfl, by simp [hf], fun e he => ?_, _, rfl⟩
        rw [Option.mem_some_iff] at he
        subst he
        rfl
      · rename_i hf
        simp only [Option.pure_def, Option.some.injEq, Prod.mk.injEq] at h
        obtain ⟨rfl, rfl, rfl⟩ := h
        exact ⟨rfl, by simpa using hf, fun e he => (by cases he), _, rfl⟩
  | run c chunk attachments metrics =>
    simp only [account, accountRun, settleUnit_eq] at h
    cases ha : (runTally t).aggregate? c attachments metrics with
    | none => simp [ha] at h
    | some x =>
      simp only [ha, Option.bind_eq_bind, Option.bind_some] at h
      split at h
      · rename_i hf
        simp only [Option.pure_def, Option.some.injEq, Prod.mk.injEq] at h
        obtain ⟨rfl, rfl, rfl⟩ := h
        refine ⟨rfl, by simp [hf], fun e he => ?_, _, rfl⟩
        rw [Option.mem_some_iff] at he
        subst he
        rfl
      · rename_i hf
        simp only [Option.pure_def, Option.some.injEq, Prod.mk.injEq] at h
        obtain ⟨rfl, rfl, rfl⟩ := h
        exact ⟨rfl, by simpa using hf, fun e he => (by cases he), _, rfl⟩

/-- What folding a partial does to the bookkeeping, the tally apart. -/
structure Settled (t t' : Tracker Context Tally) (n : Option Nat) (nx : Option (Nat × WorkItem))
    (done : Bool) : Prop where
  next : nx = t.nextAfter n
  inFlight : t'.inFlight = t.inFlight - 1 + (if nx.isSome then 1 else 0)
  ended : done = true ↔ t'.inFlight = 0
  current : t'.current = if done then none else t.current
  lastId : t'.lastId = t.lastId
  abortRequested : t'.abortRequested = t.abortRequested
  cancelRequested : t'.cancelRequested = t.cancelRequested
  closed : t'.closed = t.closed
  queue : t'.queue = if nx.isSome then { t.queue with items := t.queue.items.tail } else t.queue

theorem account_settled {t t' : Tracker Context Tally} {r : Report} {n : Option Nat}
    {nx : Option (Nat × WorkItem)} {done : Option CallerEvent}
    (h : account t r n = some (t', nx, done)) : Settled t t' n nx done.isSome := by
  obtain ⟨hnx, hdone, -, x, rfl⟩ := account_eq_some h
  rw [Tracker.completeUnit_eq] at hnx hdone
  subst hnx
  cases done <;> simp_all [Tracker.completeUnit_eq, Tracker.finish] <;> constructor <;> simp_all

theorem account_ends {t t' : Tracker Context Tally} {r : Report} {n : Option Nat}
    {nx : Option (Nat × WorkItem)} {e : CallerEvent}
    (h : account t r n = some (t', nx, some e)) : e.isCompletion = true :=
  (account_eq_some h).2.2.1 e rfl

end Manager

/-- Where a unit handed to a proxy stands. -/
inductive Stage where
  /-- The proxy has not answered. -/
  | offered
  /-- The proxy accepted the unit and works on it. -/
  | busy
  /-- The proxy refused the unit; it was replaced by `replacement` if it was still pooled, and
  the retry waits its turn. -/
  | refused (replacement : Option Nat) (error : Error)

def Stage.isBusy : Stage → Bool
  | .busy => true
  | _ => false

def Stage.isRefused : Stage → Bool
  | .refused .. => true
  | _ => false

/-- A unit of a request handed to a proxy and not yet completed. -/
structure Flight where
  proxy : Nat
  ctx : Context
  item : WorkItem
  stage : Stage
  /-- The stops the proxy was told while it worked on the unit. -/
  told : List StopRequest

/-- A completion waiting to be folded into its request, with the proxy for the next unit and
the unit it completes (none for a completion that no proxy owed). -/
structure Pending where
  ctx : Context
  report : Report
  next : Option Nat
  unit : Option WorkItem

/-- A parallel manager with the tasks at work on it. -/
structure Flow where
  manager : Manager
  /-- Proxies made so far; the next one made gets this number. -/
  made : Nat
  flights : List Flight := []
  pending : List Pending := []
  /-- Proxies that accepted a unit of a request and are still to be told a stop asked for
  meanwhile. -/
  forwards : List (Nat × Nat) := []
  /-- Stops of a broadcast on their way to a proxy. -/
  actions : List (Nat × StopRequest) := []
  /-- Calls waiting for the pool to be readied. -/
  serves : List UnitCriteria := []
  /-- Proxies a close is still to close, in order. -/
  closing : List Nat := []
  /-- What the caller was told, with the request it belongs to; none for a request without
  units. -/
  out : List (Option Nat × CallerEvent) := []
  /-- The requests begun, in order. -/
  begun : List Context := []
  /-- Units handed to proxies, by request. -/
  handed : List (Nat × WorkItem) := []
  /-- Units proxies accepted, by request. -/
  accepted : List (Nat × WorkItem) := []
  /-- Units proxies refused, by request. -/
  refusals : List (Nat × WorkItem) := []
  /-- Units given up as aborted partials, by request. -/
  givenUp : List (Nat × WorkItem) := []
  /-- Refused units that went back into a queue where an equal unit was waiting. -/
  merged : List (Nat × WorkItem) := []
  /-- Reports folded into a request, in order. -/
  folded : List (Nat × Report) := []
  /-- Stops recorded for a request. -/
  asked : List (Nat × StopRequest) := []
  /-- The units a request never handed out, recorded when it ended. -/
  unsent : List (Nat × List WorkItem) := []
  /-- Proxies closed, in order. -/
  closed : List Nat := []
  /-- Whether a proxy reported something it did not owe. -/
  rogue : Bool := false
  /-- Whether a fold left its counter and its handler panicked. -/
  overflowed : Bool := false

namespace Flow

def init (discovers shared : Bool) (level limit : Nat) : Flow where
  manager := ⟨⟨List.range (max level 1), shared, .scripted⟩, discovers, limit,
    Tracker.new (if discovers then .discovery .empty else .run .empty)⟩
  made := max level 1

def tracker (s : Flow) : Tracker Context Tally := s.manager.tracker

def pool (s : Flow) : List Nat := s.manager.pool.members

@[simp] theorem tracker_mk (m : Manager) (made : Nat) (fl : List Flight) (pe : List Pending)
    (fw : List (Nat × Nat)) (ac : List (Nat × StopRequest)) (sv : List UnitCriteria) (cl : List Nat)
    (o : List (Option Nat × CallerEvent)) (bg : List Context) (h a r g mg : List (Nat × WorkItem))
    (fo : List (Nat × Report))
    (ak : List (Nat × StopRequest)) (u : List (Nat × List WorkItem)) (cd : List Nat) (ro ov : Bool) :
    (⟨m, made, fl, pe, fw, ac, sv, cl, o, bg, h, a, r, g, mg, fo, ak, u, cd, ro, ov⟩ : Flow).tracker = m.tracker :=
  rfl

@[simp] theorem pool_mk (m : Manager) (made : Nat) (fl : List Flight) (pe : List Pending)
    (fw : List (Nat × Nat)) (ac : List (Nat × StopRequest)) (sv : List UnitCriteria) (cl : List Nat)
    (o : List (Option Nat × CallerEvent)) (bg : List Context) (h a r g mg : List (Nat × WorkItem))
    (fo : List (Nat × Report))
    (ak : List (Nat × StopRequest)) (u : List (Nat × List WorkItem)) (cd : List Nat) (ro ov : Bool) :
    (⟨m, made, fl, pe, fw, ac, sv, cl, o, bg, h, a, r, g, mg, fo, ak, u, cd, ro, ov⟩ : Flow).pool =
      m.pool.members :=
  rfl

@[simp] theorem manager_tracker (s : Flow) : s.manager.tracker = s.tracker := rfl

@[simp] theorem manager_pool_members (s : Flow) : s.manager.pool.members = s.pool := rfl

@[simp] def setTracker (s : Flow) (t : Tracker Context Tally) : Flow :=
  { s with manager := { s.manager with tracker := t } }

@[simp] def setPool (s : Flow) (ps : List Nat) : Flow :=
  { s with manager := { s.manager with pool := { s.manager.pool with members := ps } } }

/-- Replaces proxy `p` by a fresh one where it stands in the pool and closes it; nothing when
`p` has left the pool. -/
def replace (s : Flow) (p : Nat) : Option Nat × Flow :=
  if s.pool.contains p then
    (some s.made, { s.setPool (Pool.swap s.pool p s.made) with made := s.made + 1, closed := s.closed ++ [p] })
  else (none, s)

/-- The proxy for the next unit after `p` completed one: a fresh one when the unit aborted or
hosts are not shared. -/
def successor (s : Flow) (p : Nat) (aborted : Bool) : Option Nat × Flow :=
  if aborted || !s.manager.pool.shared then s.replace p else (some p, s)

def handOut (s : Flow) (ctx : Context) : Option (Nat × WorkItem) → Flow
  | some (p, item) =>
    { s with flights := s.flights ++ [⟨p, ctx, item, .offered, []⟩], handed := s.handed ++ [(ctx.id, item)] }
  | none => s

/-- Folds a completion into its request if the request is still served: the tracker takes the
partial, the proxy gets its next unit, and an ended request is reported. -/
def fold (s : Flow) (q : Pending) : Flow :=
  if !s.tracker.isCurrent q.ctx.id then s
  else match Manager.account s.tracker q.report q.next with
    | none => { s with overflowed := true }
    | some (t, next, done) =>
      let s' := { s.setTracker t with folded := s.folded ++ [(q.ctx.id, q.report)] }.handOut q.ctx next
      match done with
      | some e => { s' with out := s'.out ++ [(some q.ctx.id, e)], unsent := s'.unsent ++ [(q.ctx.id, t.queue.items)] }
      | none => s'

/-- The first stretch of the handler of proxy `p`'s completion of request `id`: when the request
is still served, the last chunk goes to the caller and the completion waits to be folded with
the proxy for the next unit. -/
def report (s : Flow) (p id : Nat) (r : Report) (unit : Option WorkItem) : Flow :=
  match s.tracker.context id with
  | none => s
  | some ctx =>
    let (next, s') := { s with out := s.out ++ (r.chunkEvent.map ((some id, ·))).toList }.successor p r.aborted
    { s' with pending := s'.pending ++ [⟨ctx, r, next, unit⟩] }

def mergesOn (t : Tracker Context Tally) (item : WorkItem) (limit : Nat) (replacement : Option Nat) : Bool :=
  replacement.isSome && !t.stopRequested && decide (t.queue.attemptsOf item.sourceName < limit) &&
    t.queue.items.contains item

/-- The retry of a unit that proxy `f.proxy` refused with `e`, replaced by `replacement`: the unit
goes to the replacement while its budget lasts, or else is logged and folded as aborted. -/
def retry (s : Flow) (f : Flight) (replacement : Option Nat) (e : Error) : Flow :=
  if !s.tracker.isCurrent f.ctx.id then s
  else
    let limit := s.manager.retryLimit
    let s₁ := { s with merged := s.merged ++
      (if mergesOn s.tracker f.item limit replacement then [(f.ctx.id, f.item)] else []) }
    match s.tracker.retry f.item limit replacement with
    | (some next, t) => (s₁.setTracker t).handOut f.ctx (some next)
    | (none, t) =>
      let message := Manager.dispatchFailure s.manager.discovers f.item.sourceName e
      let s₂ := { s₁.setTracker t with out := s₁.out ++ [(some f.ctx.id, CallerEvent.log .error message)],
                                       givenUp := s₁.givenUp ++ [(f.ctx.id, f.item)] }
      s₂.fold ⟨f.ctx, Report.gaveUp s.manager.discovers message, replacement, some f.item⟩

def tell (s : Flow) (p : Nat) (k : StopRequest) : Flow :=
  { s with flights := s.flights.map fun f =>
      if f.proxy == p && f.stage.isBusy then { f with told := f.told ++ [k] } else f }

/-- Passes on to proxy `p`, which just accepted a unit of request `id`, a stop asked for during
the hand-over. -/
def forward (s : Flow) (p id : Nat) : Flow :=
  match s.tracker.pendingStop id with
  | some k => s.tell p k
  | none => s

def stop (s : Flow) (k : StopRequest) : Flow :=
  let (asked, t) := s.tracker.requestStop k
  if asked then
    { s.setTracker t with actions := s.actions ++ s.pool.map (·, k),
                          asked := s.asked ++ s.tracker.current.toList.map fun c => (c.1, k) }
  else s.setTracker t

/-- Begins serving a call whose pool is ready: a request without units is reported at once;
otherwise, unless one is already served, the request gets the next number and each proxy of
the pool one unit. -/
def begin (s : Flow) (c : UnitCriteria) : Flow :=
  let items := c.workItems
  if items.isEmpty then { s with out := s.out ++ [(none, Manager.emptyCompletion c)] }
  else if s.tracker.isInProgress then s
  else
    let (id, t) := s.tracker.nextId
    let ctx : Context := ⟨id, c⟩
    let (batch, t) := t.begin id ctx items s.manager.freshTally s.pool
    { s.setTracker t with flights := s.flights ++ batch.map fun (p, item) => ⟨p, ctx, item, .offered, []⟩,
                          begun := s.begun ++ [ctx], handed := s.handed ++ batch.map fun (_, item) => (id, item) }

def close (s : Flow) : Flow :=
  let (first, t) := s.tracker.close
  if first then { s.setTracker t with closing := s.closing ++ s.pool } else s.setTracker t

/-- Resizes the pool between requests: fresh proxies are added at the end, or the last ones
closed. -/
def resize (s : Flow) (level : Nat) : Flow :=
  if s.tracker.isInProgress then s
  else
    let level := max level 1
    if level > s.pool.length then
      { s.setPool (s.pool ++ List.range' s.made (level - s.pool.length)) with
        made := s.made + (level - s.pool.length) }
    else { s.setPool (Pool.cut s.pool level).1 with closed := s.closed ++ (Pool.cut s.pool level).2 }

/-- The change of the pool a resize makes once its check has passed, landing whether or not a
request is served by then. -/
def land (s : Flow) (level : Nat) : Flow :=
  let level := max level 1
  if level > s.pool.length then
    { s.setPool (s.pool ++ List.range' s.made (level - s.pool.length)) with
      made := s.made + (level - s.pool.length) }
  else { s.setPool (Pool.cut s.pool level).1 with closed := s.closed ++ (Pool.cut s.pool level).2 }

theorem resize_eq_land (s : Flow) (level : Nat) :
    s.resize level = if s.tracker.isInProgress then s else s.land level := rfl

/-! ## What each stretch does -/

theorem replace_snd (s : Flow) (p : Nat) : (s.replace p).2 =
    { s.setPool (if s.pool.contains p then Pool.swap s.pool p s.made else s.pool) with
      made := if s.pool.contains p then s.made + 1 else s.made,
      closed := if s.pool.contains p then s.closed ++ [p] else s.closed } := by
  unfold replace
  by_cases h : s.pool.contains p = true
  · simp only [h, if_true]
  · simp only [h, if_false, Bool.false_eq_true]
    rfl

theorem replace_fst (s : Flow) (p : Nat) :
    (s.replace p).1 = if s.pool.contains p then some s.made else none := by
  unfold replace
  split <;> rfl

def swaps (s : Flow) (p : Nat) (aborted : Bool) : Bool :=
  (aborted || !s.manager.pool.shared) && s.pool.contains p

theorem successor_snd (s : Flow) (p : Nat) (a : Bool) :
    (s.successor p a).2 =
      { s.setPool (if s.swaps p a then Pool.swap s.pool p s.made else s.pool) with
        made := if s.swaps p a then s.made + 1 else s.made,
        closed := if s.swaps p a then s.closed ++ [p] else s.closed } := by
  unfold successor replace swaps
  by_cases h₁ : (a || !s.manager.pool.shared) = true
  · by_cases h₂ : s.pool.contains p = true
    · simp only [h₁, h₂, if_true, Bool.and_self]
    · simp only [h₁, h₂, if_false, Bool.true_and, Bool.false_eq_true]
      rfl
  · simp only [h₁, Bool.false_and]
    rfl

theorem successor_fst (s : Flow) (p : Nat) (a : Bool) :
    (s.successor p a).1 =
      if s.swaps p a then some s.made else if a || !s.manager.pool.shared then none else some p := by
  unfold successor replace swaps
  by_cases h₁ : (a || !s.manager.pool.shared) = true
  · by_cases h₂ : s.pool.contains p = true
    · simp only [h₁, h₂, if_true, Bool.and_self]
    · simp only [h₁, h₂, if_false, if_true, Bool.true_and, Bool.false_eq_true]
  · simp only [h₁, Bool.false_and, if_false, Bool.false_eq_true]

theorem handOut_eq (s : Flow) (ctx : Context) (nx : Option (Nat × WorkItem)) :
    s.handOut ctx nx =
      { s with flights := s.flights ++ (nx.map fun x => (⟨x.1, ctx, x.2, .offered, []⟩ : Flight)).toList,
               handed := s.handed ++ (nx.map fun x => (ctx.id, x.2)).toList } := by
  cases nx <;> simp [handOut]

theorem fold_stale (s : Flow) (q : Pending) (h : s.tracker.isCurrent q.ctx.id = false) : s.fold q = s := by
  simp_all [fold]

theorem fold_overflow (s : Flow) (q : Pending) (h : s.tracker.isCurrent q.ctx.id = true)
    (ha : Manager.account s.tracker q.report q.next = none) : s.fold q = { s with overflowed := true } := by
  simp_all [fold]

theorem fold_some (s : Flow) (q : Pending) (h : s.tracker.isCurrent q.ctx.id = true)
    {t : Tracker Context Tally} {nx : Option (Nat × WorkItem)} {done : Option CallerEvent}
    (ha : Manager.account s.tracker q.report q.next = some (t, nx, done)) :
    s.fold q =
      { s.setTracker t with
        flights := s.flights ++ (nx.map fun x => (⟨x.1, q.ctx, x.2, .offered, []⟩ : Flight)).toList,
        handed := s.handed ++ (nx.map fun x => (q.ctx.id, x.2)).toList,
        folded := s.folded ++ [(q.ctx.id, q.report)],
        out := s.out ++ (done.map fun e => (some q.ctx.id, e)).toList,
        unsent := s.unsent ++ (done.map fun _ => (q.ctx.id, t.queue.items)).toList } := by
  cases done <;> simp [fold, h, ha, handOut_eq]

theorem fold_cases (s : Flow) (q : Pending) :
    s.fold q = s ∨ s.fold q = { s with overflowed := true } ∨
    ∃ ctx t nx done, s.tracker.current = some (q.ctx.id, ctx) ∧
      Manager.account s.tracker q.report q.next = some (t, nx, done) ∧
      s.fold q =
        { s.setTracker t with
          flights := s.flights ++ (nx.map fun x => (⟨x.1, q.ctx, x.2, .offered, []⟩ : Flight)).toList,
          handed := s.handed ++ (nx.map fun x => (q.ctx.id, x.2)).toList,
          folded := s.folded ++ [(q.ctx.id, q.report)],
          out := s.out ++ (done.map fun e => (some q.ctx.id, e)).toList,
          unsent := s.unsent ++ (done.map fun _ => (q.ctx.id, t.queue.items)).toList } := by
  by_cases hc : s.tracker.isCurrent q.ctx.id = true
  · obtain ⟨ctx, hcur⟩ := (Tracker.isCurrent_iff _ _).1 hc
    cases ha : Manager.account s.tracker q.report q.next with
    | none => exact .inr (.inl (fold_overflow s q hc ha))
    | some res =>
      obtain ⟨t, nx, done⟩ := res
      exact .inr (.inr ⟨ctx, t, nx, done, hcur, rfl, fold_some s q hc ha⟩)
  · exact .inl (fold_stale s q (by simpa using hc))

theorem report_stale (s : Flow) (p id : Nat) (r : Report) (u : Option WorkItem)
    (h : s.tracker.context id = none) : s.report p id r u = s := by
  simp_all [report]

theorem report_current (s : Flow) (p id : Nat) (r : Report) (u : Option WorkItem) {ctx : Context}
    (h : s.tracker.context id = some ctx) :
    s.report p id r u =
      let s₁ := { s with out := s.out ++ (r.chunkEvent.map ((some id, ·))).toList }
      { (s₁.successor p r.aborted).2 with
        pending := s.pending ++ [⟨ctx, r, (s₁.successor p r.aborted).1, u⟩] } := by
  simp only [report, h]
  unfold successor
  split <;> simp [replace_snd]

theorem retry_stale (s : Flow) (f : Flight) (r : Option Nat) (e : Error)
    (h : s.tracker.isCurrent f.ctx.id = false) : s.retry f r e = s := by
  simp_all [retry]

def retrying (s : Flow) (f : Flight) (r : Option Nat) : Flow :=
  { (s.setTracker { s.tracker with queue := s.tracker.retriedQueue f.item s.manager.retryLimit r }) with
    merged := s.merged ++ (if mergesOn s.tracker f.item s.manager.retryLimit r then [(f.ctx.id, f.item)] else []) }

theorem retry_handed (s : Flow) (f : Flight) (r : Option Nat) (e : Error)
    (h : s.tracker.isCurrent f.ctx.id = true) {next : Nat × WorkItem}
    (hr : s.tracker.retried f.item s.manager.retryLimit r = some next) :
    s.retry f r e = (s.retrying f r).handOut f.ctx (some next) := by
  simp [retry, retrying, h, Tracker.retry_eq, hr]

/-- Where a retry that gives its unit up stands before folding it: the failure logged and the
unit recorded as given up. -/
def givingUp (s : Flow) (f : Flight) (r : Option Nat) (e : Error) : Flow :=
  { s.retrying f r with
    out := s.out ++ [(some f.ctx.id, CallerEvent.log .error
      (Manager.dispatchFailure s.manager.discovers f.item.sourceName e))],
    givenUp := s.givenUp ++ [(f.ctx.id, f.item)] }

def gaveUpPending (s : Flow) (f : Flight) (r : Option Nat) (e : Error) : Pending :=
  ⟨f.ctx, Report.gaveUp s.manager.discovers
    (Manager.dispatchFailure s.manager.discovers f.item.sourceName e), r, some f.item⟩

theorem retry_givenUp (s : Flow) (f : Flight) (r : Option Nat) (e : Error)
    (h : s.tracker.isCurrent f.ctx.id = true)
    (hr : s.tracker.retried f.item s.manager.retryLimit r = none) :
    s.retry f r e = (s.givingUp f r e).fold (s.gaveUpPending f r e) := by
  simp [retry, retrying, givingUp, gaveUpPending, h, Tracker.retry_eq, hr]

theorem retry_cases (s : Flow) (f : Flight) (r : Option Nat) (e : Error) :
    s.retry f r e = s ∨
    (∃ ctx next, s.tracker.current = some (f.ctx.id, ctx) ∧
      s.tracker.retried f.item s.manager.retryLimit r = some next ∧
      s.retry f r e = (s.retrying f r).handOut f.ctx (some next)) ∨
    (∃ ctx, s.tracker.current = some (f.ctx.id, ctx) ∧
      s.tracker.retried f.item s.manager.retryLimit r = none ∧
      s.retry f r e = (s.givingUp f r e).fold (s.gaveUpPending f r e)) := by
  by_cases hc : s.tracker.isCurrent f.ctx.id = true
  · obtain ⟨ctx, hcur⟩ := (Tracker.isCurrent_iff _ _).1 hc
    cases hr : s.tracker.retried f.item s.manager.retryLimit r with
    | some next => exact .inr (.inl ⟨ctx, next, hcur, rfl, retry_handed s f r e hc hr⟩)
    | none => exact .inr (.inr ⟨ctx, hcur, rfl, retry_givenUp s f r e hc hr⟩)
  · exact .inl (retry_stale s f r e (by simpa using hc))

theorem begin_empty (s : Flow) (c : UnitCriteria) (h : c.workItems = []) :
    s.begin c = { s with out := s.out ++ [(none, Manager.emptyCompletion c)] } := by
  simp [begin, h]

theorem begin_busy (s : Flow) (c : UnitCriteria) (h : c.workItems ≠ [])
    (hp : s.tracker.isInProgress = true) : s.begin c = s := by
  simp [begin, h, hp]

theorem begin_new (s : Flow) (c : UnitCriteria) (h : c.workItems ≠ [])
    (hp : s.tracker.isInProgress = false) :
    s.begin c =
      let ctx : Context := ⟨s.tracker.lastId + 1, c⟩
      let batch := s.pool.zip c.workItems
      { (s.setTracker
          { s.tracker with
            lastId := s.tracker.lastId + 1, current := some (ctx.id, ctx),
            queue := { WorkQueue.new c.workItems with items := c.workItems.drop s.pool.length },
            tally := s.manager.freshTally, abortRequested := false, cancelRequested := false,
            inFlight := batch.length }) with
        flights := s.flights ++ batch.map fun x => ⟨x.1, ctx, x.2, .offered, []⟩,
        begun := s.begun ++ [ctx], handed := s.handed ++ batch.map fun x => (ctx.id, x.2) } := by
  simp [begin, h, hp, Tracker.nextId, Tracker.begin_eq, Tracker.handOut_eq, WorkQueue.new]

theorem close_eq (s : Flow) :
    s.close = { s.setTracker { s.tracker with closed := true } with
      closing := if s.tracker.closed then s.closing else s.closing ++ s.pool } := by
  cases h : s.tracker.closed <;> simp [close, Tracker.close, h]

theorem land_frame (s : Flow) (level : Nat) :
    ∃ ps made closed, s.land level = { s.setPool ps with made := made, closed := closed } := by
  simp only [land]
  split
  · exact ⟨_, _, s.closed, rfl⟩
  · exact ⟨_, s.made, _, rfl⟩

theorem resize_frame (s : Flow) (level : Nat) :
    ∃ ps made closed, s.resize level = { s.setPool ps with made := made, closed := closed } := by
  rw [resize_eq_land]
  split
  · exact ⟨s.pool, s.made, s.closed, rfl⟩
  · exact land_frame s level

theorem stop_eq (s : Flow) (k : StopRequest) :
    s.stop k =
      if s.tracker.current.isSome then
        { (s.setTracker { s.tracker with abortRequested := s.tracker.abortRequested || k == .abort,
                                         cancelRequested := s.tracker.cancelRequested || k == .cancel }) with
          actions := s.actions ++ s.pool.map (·, k),
          asked := s.asked ++ s.tracker.current.toList.map fun c => (c.1, k) }
      else s := by
  cases h : s.tracker.current with
  | none =>
    simp [stop, Tracker.requestStop_eq, h]
    rfl
  | some c => simp [stop, Tracker.requestStop_eq, h]

end Flow

/-- One step of a manager's tasks or of its proxies. -/
inductive Step : Flow → Flow → Prop where
  /-- A call to serve a request passes its first check; the pool is readied. -/
  | call (s : Flow) (c : UnitCriteria) (hc : s.tracker.closed = false)
      (hp : s.tracker.isInProgress = false) : Step s { s with serves := s.serves ++ [c] }
  /-- Readying the pool failed, and the call returns the error. -/
  | unready (s : Flow) (pre post : List UnitCriteria) (c : UnitCriteria)
      (h : s.serves = pre ++ c :: post) : Step s { s with serves := pre ++ post }
  /-- The pool is ready and the call begins its request. -/
  | begin (s : Flow) (pre post : List UnitCriteria) (c : UnitCriteria)
      (h : s.serves = pre ++ c :: post) : Step s ({ s with serves := pre ++ post }.begin c)
  /-- A proxy accepts the unit it was handed; once its answer is back, a stop asked for
  meanwhile is still to be passed on. -/
  | accept (s : Flow) (pre post : List Flight) (f : Flight) (h : s.flights = pre ++ f :: post)
      (hf : f.stage = .offered) :
      Step s { s with flights := pre ++ { f with stage := .busy } :: post,
                      forwards := s.forwards ++ [(f.proxy, f.ctx.id)],
                      accepted := s.accepted ++ [(f.ctx.id, f.item)] }
  /-- A proxy refuses the unit it was handed, or could not be readied; it is replaced. -/
  | refuse (s : Flow) (pre post : List Flight) (f : Flight) (e : Error) (h : s.flights = pre ++ f :: post)
      (hf : f.stage = .offered) :
      Step s { (s.replace f.proxy).2 with
        flights := pre ++ { f with stage := .refused (s.replace f.proxy).1 e } :: post,
        refusals := s.refusals ++ [(f.ctx.id, f.item)] }
  /-- The retry of a refused unit takes its turn. -/
  | retry (s : Flow) (pre post : List Flight) (f : Flight) (r : Option Nat) (e : Error)
      (h : s.flights = pre ++ f :: post) (hf : f.stage = .refused r e) :
      Step s ({ s with flights := pre ++ post }.retry f r e)
  /-- A proxy passes an event of its unit on to the caller. -/
  | relay (s : Flow) (pre post : List Flight) (f : Flight) (e : CallerEvent) (h : s.flights = pre ++ f :: post)
      (hf : f.stage = .busy) (he : e.isCompletion = false) :
      Step s { s with out := s.out ++ [(some f.ctx.id, e)] }
  /-- A proxy completes the unit it works on. -/
  | complete (s : Flow) (pre post : List Flight) (f : Flight) (r : Report) (h : s.flights = pre ++ f :: post)
      (hf : f.stage = .busy) (hr : r.fits s.manager.discovers = true) :
      Step s ({ s with flights := pre ++ post }.report f.proxy f.ctx.id r (some f.item))
  /-- A proxy reports a completion for request `id` that it does not owe. -/
  | stray (s : Flow) (p id : Nat) (r : Report) (hr : r.fits s.manager.discovers = true) :
      Step s ({ s with rogue := true }.report p id r none)
  /-- A proxy passes on an event of request `id` that it does not owe. -/
  | strayEvent (s : Flow) (id : Nat) (e : CallerEvent) (he : e.isCompletion = false) :
      Step s { s with rogue := true, out := s.out ++ [(some id, e)] }
  /-- A completion is folded into its request. -/
  | fold (s : Flow) (pre post : List Pending) (q : Pending) (h : s.pending = pre ++ q :: post) :
      Step s ({ s with pending := pre ++ post }.fold q)
  /-- A proxy that accepted a unit is told a stop asked for during the hand-over. -/
  | forward (s : Flow) (pre post : List (Nat × Nat)) (p id : Nat) (h : s.forwards = pre ++ (p, id) :: post) :
      Step s ({ s with forwards := pre ++ post }.forward p id)
  /-- The caller asks for a stop: an abort, or for a run also a cancel. -/
  | stop (s : Flow) (k : StopRequest) (hk : k = .abort ∨ s.manager.discovers = false) : Step s (s.stop k)
  /-- A stop of a broadcast reaches its proxy. -/
  | act (s : Flow) (pre post : List (Nat × StopRequest)) (p : Nat) (k : StopRequest)
      (h : s.actions = pre ++ (p, k) :: post) : Step s ({ s with actions := pre ++ post }.tell p k)
  /-- The caller closes the manager. -/
  | close (s : Flow) : Step s s.close
  /-- A close reaches the next proxy. -/
  | closeNext (s : Flow) (p : Nat) (rest : List Nat) (h : s.closing = p :: rest) :
      Step s { s with closing := rest, closed := s.closed ++ [p] }
  /-- The caller resizes the pool. -/
  | resize (s : Flow) (level : Nat) : Step s (s.resize level)

/-- The flows a manager can reach from its creation, over any interleaving of its tasks. -/
inductive Reachable : Flow → Prop where
  | init (discovers shared : Bool) (level limit : Nat) : Reachable (Flow.init discovers shared level limit)
  | step {s s' : Flow} : Reachable s → Step s s' → Reachable s'

namespace Flow

/-! ## What each stretch leaves alone -/

theorem fold_frame (s : Flow) (q : Pending) :
    ∃ t fl hd fo o u ov, s.fold q =
      { s.setTracker t with flights := fl, handed := hd, folded := fo, out := o, unsent := u,
                            overflowed := ov } := by
  rcases fold_cases s q with h | h | ⟨ctx, t, nx, done, -, -, h⟩ <;> rw [h]
  · exact ⟨s.tracker, s.flights, s.handed, s.folded, s.out, s.unsent, s.overflowed, rfl⟩
  · exact ⟨s.tracker, s.flights, s.handed, s.folded, s.out, s.unsent, true, rfl⟩
  · exact ⟨t, _, _, _, _, _, s.overflowed, rfl⟩

theorem retry_frame (s : Flow) (f : Flight) (r : Option Nat) (e : Error) :
    ∃ t fl hd mg gu fo o u ov, s.retry f r e =
      { s.setTracker t with flights := fl, handed := hd, merged := mg, givenUp := gu, folded := fo,
                            out := o, unsent := u, overflowed := ov } := by
  rcases retry_cases s f r e with h | ⟨ctx, next, -, -, h⟩ | ⟨ctx, -, -, h⟩ <;> rw [h]
  · exact ⟨s.tracker, s.flights, s.handed, s.merged, s.givenUp, s.folded, s.out, s.unsent, s.overflowed, rfl⟩
  · rw [handOut_eq]
    exact ⟨_, _, _, _, s.givenUp, s.folded, s.out, s.unsent, s.overflowed, rfl⟩
  · obtain ⟨t, fl, hd, fo, o, u, ov, h⟩ := fold_frame (s.givingUp f r e) (s.gaveUpPending f r e)
    rw [h]
    exact ⟨t, fl, hd, _, _, fo, o, u, ov, rfl⟩

theorem report_frame (s : Flow) (p id : Nat) (r : Report) (u : Option WorkItem) :
    ∃ ps made cl o pe, s.report p id r u =
      { s.setPool ps with made := made, closed := cl, out := o, pending := pe } ∧
      ps.length = s.pool.length := by
  cases hx : s.tracker.context id with
  | none =>
    rw [report_stale s p id r u hx]
    exact ⟨s.pool, s.made, s.closed, s.out, s.pending, rfl, rfl⟩
  | some ctx =>
    rw [report_current s p id r u hx]
    dsimp only
    rw [successor_snd]
    refine ⟨_, _, _, _, _, rfl, ?_⟩
    split <;> simp [Pool.swap]

theorem begin_frame (s : Flow) (c : UnitCriteria) :
    ∃ t fl bg hd o, s.begin c =
      { s.setTracker t with flights := fl, begun := bg, handed := hd, out := o } := by
  by_cases he : c.workItems = []
  · rw [begin_empty s c he]
    exact ⟨s.tracker, s.flights, s.begun, s.handed, _, rfl⟩
  · cases hp : s.tracker.isInProgress with
    | true =>
      rw [begin_busy s c he hp]
      exact ⟨s.tracker, s.flights, s.begun, s.handed, s.out, rfl⟩
    | false =>
      rw [begin_new s c he hp]
      exact ⟨_, _, _, _, s.out, rfl⟩

theorem fold_flights (s : Flow) (q : Pending) :
    ∃ extra, (s.fold q).flights = s.flights ++ extra ∧ ∀ f ∈ extra, f.stage = .offered := by
  rcases fold_cases s q with h | h | ⟨ctx, t, nx, done, -, -, h⟩ <;> rw [h]
  · exact ⟨[], by simp, by simp⟩
  · exact ⟨[], by simp, by simp⟩
  · refine ⟨_, rfl, ?_⟩
    intro f hf
    cases nx <;> simp at hf
    rw [hf]

theorem retry_flights (s : Flow) (f : Flight) (r : Option Nat) (e : Error) :
    ∃ extra, (s.retry f r e).flights = s.flights ++ extra ∧ ∀ g ∈ extra, g.stage = .offered := by
  rcases retry_cases s f r e with h | ⟨ctx, next, -, -, h⟩ | ⟨ctx, -, -, h⟩ <;> rw [h]
  · exact ⟨[], by simp, by simp⟩
  · rw [handOut_eq]
    refine ⟨_, rfl, ?_⟩
    intro g hg
    simp at hg
    rw [hg]
  · exact fold_flights _ _

theorem begin_flights (s : Flow) (c : UnitCriteria) :
    ∃ extra, (s.begin c).flights = s.flights ++ extra ∧ ∀ f ∈ extra, f.stage = .offered := by
  by_cases he : c.workItems = []
  · rw [begin_empty s c he]
    exact ⟨[], by simp, by simp⟩
  · cases hp : s.tracker.isInProgress with
    | true =>
      rw [begin_busy s c he hp]
      exact ⟨[], by simp, by simp⟩
    | false =>
      rw [begin_new s c he hp]
      refine ⟨_, rfl, ?_⟩
      intro f hf
      simp only [List.mem_map] at hf
      obtain ⟨x, -, rfl⟩ := hf
      rfl

theorem tell_ctx (s : Flow) (p : Nat) (k : StopRequest) :
    (s.tell p k).flights.map (·.ctx) = s.flights.map (·.ctx) := by
  simp only [tell, List.map_map]
  apply List.map_congr_left
  intro f _
  simp only [Function.comp]
  split <;> rfl

theorem land_pool (s : Flow) (level : Nat) (hp : s.pool ≠ []) : (s.land level).pool ≠ [] := by
  simp only [land]
  split
  · simp [hp]
  · have h₁ : 0 < max level 1 := by omega
    simp only [pool_mk, setPool, Pool.cut, ne_eq, List.take_eq_nil_iff, not_or]
    exact ⟨by omega, hp⟩

theorem resize_pool (s : Flow) (level : Nat) (hp : s.pool ≠ []) : (s.resize level).pool ≠ [] := by
  rw [resize_eq_land]
  split
  · exact hp
  · exact land_pool s level hp

/-! ## Marks that only rise

A run is honest while no proxy misbehaved and no fold overflowed; each step keeps both marks,
so a flow reached honestly was reached by honest steps only. -/

theorem fold_flags (s : Flow) (q : Pending) :
    (s.fold q).rogue = s.rogue ∧ ((s.fold q).overflowed = false → s.overflowed = false) := by
  rcases fold_cases s q with h | h | ⟨ctx, t, nx, done, -, -, h⟩ <;> rw [h]
  · exact ⟨rfl, id⟩
  · exact ⟨rfl, fun h => by cases h⟩
  · exact ⟨rfl, id⟩

theorem report_flags (s : Flow) (p id : Nat) (r : Report) (u : Option WorkItem) :
    (s.report p id r u).rogue = s.rogue ∧ (s.report p id r u).overflowed = s.overflowed := by
  cases hx : s.tracker.context id with
  | none =>
    rw [report_stale s p id r u hx]
    exact ⟨rfl, rfl⟩
  | some ctx =>
    rw [report_current s p id r u hx]
    simp [successor_snd]

theorem retry_flags (s : Flow) (f : Flight) (r : Option Nat) (e : Error) :
    (s.retry f r e).rogue = s.rogue ∧ ((s.retry f r e).overflowed = false → s.overflowed = false) := by
  rcases retry_cases s f r e with h | ⟨ctx, next, -, -, h⟩ | ⟨ctx, -, -, h⟩ <;> rw [h]
  · exact ⟨rfl, id⟩
  · exact ⟨rfl, id⟩
  · exact fold_flags _ _

theorem begin_flags (s : Flow) (c : UnitCriteria) :
    (s.begin c).rogue = s.rogue ∧ (s.begin c).overflowed = s.overflowed := by
  by_cases he : c.workItems = []
  · rw [begin_empty s c he]
    exact ⟨rfl, rfl⟩
  · cases hp : s.tracker.isInProgress with
    | true =>
      rw [begin_busy s c he hp]
      exact ⟨rfl, rfl⟩
    | false =>
      rw [begin_new s c he hp]
      exact ⟨rfl, rfl⟩

end Flow

theorem Step.flags_before {s s' : Flow} (h : Step s s') :
    (s'.rogue = false → s.rogue = false) ∧ (s'.overflowed = false → s.overflowed = false) := by
  cases h with
  | begin pre post c _ => simp [Flow.begin_flags]
  | refuse pre post f e _ _ => simp [Flow.replace_snd]
  | retry pre post f r e _ _ =>
    obtain ⟨hr, ho⟩ := Flow.retry_flags { s with flights := pre ++ post } f r e
    exact ⟨fun h => hr ▸ h, ho⟩
  | complete pre post f r _ _ _ => simp [Flow.report_flags]
  | stray p id r _ => simp [Flow.report_flags]
  | strayEvent id e _ => simp
  | fold pre post q _ =>
    obtain ⟨hr, ho⟩ := Flow.fold_flags { s with pending := pre ++ post } q
    exact ⟨fun h => hr ▸ h, ho⟩
  | forward pre post p j _ =>
    unfold Flow.forward
    split <;> exact ⟨id, id⟩
  | stop k _ =>
    rw [Flow.stop_eq]
    split <;> exact ⟨id, id⟩
  | close => simp [Flow.close_eq]
  | resize level =>
    obtain ⟨ps, made, closed, h⟩ := Flow.resize_frame s level
    rw [h]
    exact ⟨id, id⟩
  | call | unready | accept | relay | act | closeNext => exact ⟨id, id⟩

theorem Step.pool_ne_nil {s s' : Flow} (h : Step s s') (hp : s.pool ≠ []) : s'.pool ≠ [] := by
  cases h with
  | begin pre post c _ =>
    obtain ⟨t, fl, bg, hd, o, h⟩ := Flow.begin_frame { s with serves := pre ++ post } c
    rw [h]
    exact hp
  | refuse pre post f e _ _ =>
    have hlen : (s.replace f.proxy).2.pool.length = s.pool.length := by
      rw [Flow.replace_snd]
      split <;> simp [Pool.swap]
    rw [← List.length_pos_iff] at hp ⊢
    exact hlen ▸ hp
  | retry pre post f r e _ _ =>
    obtain ⟨t, fl, hd, mg, gu, fo, o, u, ov, h⟩ := Flow.retry_frame { s with flights := pre ++ post } f r e
    rw [h]
    exact hp
  | complete pre post f r _ _ _ =>
    obtain ⟨ps, made, cl, o, pe, h, hlen⟩ :=
      Flow.report_frame { s with flights := pre ++ post } f.proxy f.ctx.id r (some f.item)
    rw [h]
    rw [← List.length_pos_iff] at hp ⊢
    exact hlen ▸ hp
  | stray p id r _ =>
    obtain ⟨ps, made, cl, o, pe, h, hlen⟩ := Flow.report_frame { s with rogue := true } p id r none
    rw [h]
    rw [← List.length_pos_iff] at hp ⊢
    exact hlen ▸ hp
  | fold pre post q _ =>
    obtain ⟨t, fl, hd, fo, o, u, ov, h⟩ := Flow.fold_frame { s with pending := pre ++ post } q
    rw [h]
    exact hp
  | forward pre post p j _ =>
    unfold Flow.forward
    split <;> exact hp
  | stop k _ =>
    rw [Flow.stop_eq]
    split <;> exact hp
  | close =>
    rw [Flow.close_eq]
    exact hp
  | resize level => exact Flow.resize_pool s level hp
  | call | unready | accept | relay | strayEvent | act | closeNext => exact hp

theorem Step.begun_or_begins {s s' : Flow} (h : Step s s') :
    s'.begun = s.begun ∨
      ∃ pre post c, s.serves = pre ++ c :: post ∧ s' = { s with serves := pre ++ post }.begin c := by
  cases h with
  | begin pre post c h => exact .inr ⟨pre, post, c, h, rfl⟩
  | refuse pre post f e _ _ => simp [Flow.replace_snd]
  | retry pre post f r e _ _ =>
    obtain ⟨t, fl, hd, mg, gu, fo, o, u, ov, h⟩ := Flow.retry_frame { s with flights := pre ++ post } f r e
    exact .inl (by rw [h]; rfl)
  | complete pre post f r _ _ _ =>
    obtain ⟨ps, made, cl, o, pe, h, -⟩ :=
      Flow.report_frame { s with flights := pre ++ post } f.proxy f.ctx.id r (some f.item)
    exact .inl (by rw [h]; rfl)
  | stray p id r _ =>
    obtain ⟨ps, made, cl, o, pe, h, -⟩ := Flow.report_frame { s with rogue := true } p id r none
    exact .inl (by rw [h]; rfl)
  | fold pre post q _ =>
    obtain ⟨t, fl, hd, fo, o, u, ov, h⟩ := Flow.fold_frame { s with pending := pre ++ post } q
    exact .inl (by rw [h]; rfl)
  | forward pre post p j _ =>
    unfold Flow.forward
    split <;> exact .inl rfl
  | stop k _ =>
    rw [Flow.stop_eq]
    split <;> exact .inl rfl
  | close => exact .inl (by rw [Flow.close_eq]; rfl)
  | resize level =>
    obtain ⟨ps, made, closed, h⟩ := Flow.resize_frame s level
    exact .inl (by rw [h]; rfl)
  | call | unready | accept | relay | strayEvent | act | closeNext => exact .inl rfl

theorem Reachable.pool_ne_nil {s : Flow} (h : Reachable s) : s.pool ≠ [] := by
  induction h with
  | init discovers shared level limit =>
    simp [Flow.init, Flow.pool]
  | step _ hs ih => exact hs.pool_ne_nil ih

end TestConductor
