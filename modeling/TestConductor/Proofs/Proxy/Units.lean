import TestConductor.Proofs.Proxy.Effects
import TestConductor.Proxy.InProcess
/-! # The units of a proxy

A unit of a test-host proxy is made by two tasks: the call that claims the proxy and sets up a
host, and the listener it starts, which follows the host's messages. Both are read here as trees
of calls (`Calls`), each call noted by what it tells an observer: the bookkeeping claimed, the
host set up, an event taken from the worker's channel, an event told to the handler, the
bookkeeping completed or failed. The trees are the programs: `discover_eq`, `start_eq` and
`listen_eq` prove each equal to the tree it stands for.
-/
namespace TestConductor

open Async

namespace HostReply

def Sound : HostReply → Prop
  | .report e => e.isCompletion = false
  | .done e _ => e.isCompletion = true

theorem ok_of_decoded {α : Type} {x : Except Error Json} {f : Json → α} {r : α}
    (h : (do let j ← x; pure (f j) : Except Error α) = .ok r) : ∃ j, r = f j := by
  cases x with
  | error e => cases h
  | ok j => exact ⟨j, (Except.ok.inj h).symm⟩

theorem ofDiscovery_sound {m : Message} {r : HostReply} (h : ofDiscovery m = .ok r) : r.Sound := by
  unfold ofDiscovery at h
  split at h
  · obtain ⟨j, rfl⟩ := ok_of_decoded h
    rfl
  · obtain ⟨j, rfl⟩ := ok_of_decoded h
    rfl
  · obtain ⟨j, rfl⟩ := ok_of_decoded h
    rfl
  · cases h

theorem ofRun_sound {m : Message} {r : HostReply} (h : ofRun m = .ok r) : r.Sound := by
  unfold ofRun at h
  split at h
  · obtain ⟨j, rfl⟩ := ok_of_decoded h
    rfl
  · obtain ⟨j, rfl⟩ := ok_of_decoded h
    rfl
  · obtain ⟨j, rfl⟩ := ok_of_decoded h
    rfl
  · cases h

end HostReply

namespace TestHost

/-- What a call of a unit tells an observer. -/
inductive Note where
  /-- The proxy's bookkeeping was claimed for the unit, or refused it. -/
  | claimed (ok : Bool)
  /-- The unit got going, a host set up and sent the start or the engine given the run, or it
  could not. -/
  | opened (ok : Bool)
  /-- The listener was started on a worker. -/
  | listening (worker : Nat)
  /-- The bookkeeping recorded a unit that never got going. -/
  | failed
  /-- An event was taken from the worker's channel. -/
  | took (ev : WorkerEvent)
  /-- An event was told to the handler. -/
  | told (e : CallerEvent)
  /-- The bookkeeping recorded the end of the unit. -/
  | completed (aborted : Bool)
  /-- Whether an abort had been asked for was looked up. -/
  | asked (abort : Bool)
  /-- The proxy's kind was looked up: whether it runs tests. -/
  | kind (runs : Bool)

def Note.told? : Note → Option CallerEvent
  | .told e => some e
  | _ => none

/-! ## The listener -/

def followCalls (i k : Nat) (h : Handler) (read : Message → Except Error HostReply) :
    Nat → Calls conductor Note Ending
  | 0 => .done (.failed .connectionClosed)
  | fuel + 1 => .call (Worker.nextEvent k) .took fun
    | .connected _ => followCalls i k h read fuel
    | .disconnected e => .done (.failed (e.getD .connectionClosed))
    | .message m =>
      match read m with
      | .error e => .done (.failed e)
      | .ok (.report e) => .call (h.deliver e) (fun _ => .told e) fun _ => followCalls i k h read fuel
      | .ok (.done e aborted) =>
        .call (Operation.complete i aborted k) (fun _ => .completed aborted) fun _ =>
          .call (h.deliver e) (fun _ => .told e) fun _ => .done .completed

theorem follow_eq (i k : Nat) (h : Handler) (read : Message → Except Error HostReply) (fuel : Nat) :
    follow i k h read fuel = (followCalls i k h read fuel).run := by
  induction fuel with
  | zero => rfl
  | succ fuel ih =>
    simp only [follow, followCalls, Calls.run]
    congr 1
    funext ev
    cases ev with
    | connected _ => exact ih
    | disconnected e => rfl
    | message m =>
      dsimp only
      cases hr : read m with
      | error e => rfl
      | ok r =>
        cases r with
        | report e => simp only [Calls.run, ih]
        | done e aborted => rfl

/-- The end of a unit cut short: the bookkeeping completed as aborted, then the completion `c`
of the time that `now` reads. -/
def abortCalls (i k : Nat) (h : Handler) (now : Act Instant) (c : Instant → CallerEvent) : Calls conductor Note Unit :=
  .call (Operation.complete i true k) (fun _ => .completed true) fun _ =>
    .call (do let t ← now; h.deliver (c t); pure t) (fun t => .told (c t)) fun _ => .done ()

/-- The calls of a listener reading replies by `read` and the time by `now`. A unit cut short by
failure `e`, when an abort was asked for or not, logs `(ending e asked).1` if there is such a log,
and ends with the completion `(ending e asked).2` of the time read last. -/
def listenerCalls (i k : Nat) (h : Handler) (read : Message → Except Error HostReply) (now : Act Instant)
    (ending : Error → Bool → Option CallerEvent × (Instant → CallerEvent)) (fuel : Nat) :
    Calls conductor Note Unit :=
  (followCalls i k h read fuel).bind fun
    | .completed => .done ()
    | .failed e =>
      .call (Async.reads fun w => (w.operation i).abortRequested) .asked fun asked =>
        match (ending e asked).1 with
        | some log => .call (h.deliver log) (fun _ => .told log) fun _ => abortCalls i k h now (ending e asked).2
        | none => abortCalls i k h now (ending e asked).2

/-- How a discovery cut short ends: an error logged unless an abort was asked for, and the
aborted completion. -/
def discoveryEnding (sources : List String) (e : Error) (asked : Bool) :
    Option CallerEvent × (Instant → CallerEvent) :=
  (if asked then none
   else some (.log .error ("Test host for " ++ joined sources ++ " stopped before discovery completed: " ++
     e.message)),
   fun _ => .discoveryComplete (-1) none true)

/-- How a run timed by `sw` and cut short ends: unless an abort was asked for, an error logged and
given as the reason of the aborted completion, which carries the time since `sw` started. -/
def runEnding (sources : List String) (sw : Stopwatch) (e : Error) (asked : Bool) :
    Option CallerEvent × (Instant → CallerEvent) :=
  let reason := "The active test run was aborted. Test host for " ++ joined sources ++ " stopped: " ++ e.message
  (if asked then none else some (.log .error reason),
   fun now => .runComplete (RunCompletion.aborted (if asked then none else some reason) (sw.elapsed now)) none [] [])

theorem listenDiscovery_eq (i k : Nat) (h : Handler) (sources : List String) (fuel : Nat) :
    listenDiscovery i k h sources fuel =
      (listenerCalls i k h HostReply.ofDiscovery (pure default) (discoveryEnding sources) fuel).run := by
  rw [listenerCalls, Calls.run_bind, ← follow_eq]
  unfold listenDiscovery
  congr 1
  funext r
  cases r with
  | completed => rfl
  | failed e =>
    simp only [Calls.run]
    congr 1
    funext asked
    cases asked <;> rfl

theorem listenRun_eq (i k : Nat) (h : Handler) (sources : List String) (sw : Stopwatch) (fuel : Nat) :
    listenRun i k h sources sw fuel =
      (listenerCalls i k h HostReply.ofRun wallClock (runEnding sources sw) fuel).run := by
  rw [listenerCalls, Calls.run_bind, ← follow_eq]
  unfold listenRun
  congr 1
  funext r
  cases r with
  | completed => rfl
  | failed e =>
    simp only [Calls.run]
    congr 1
    funext asked
    cases asked <;> rfl

/-- The calls of a listener: the proxy's kind is looked up, and a run timed by `sw` or a discovery
followed. -/
def listenCalls (i k : Nat) (h : Handler) (sources : List String) (sw : Stopwatch) (fuel : Nat) :
    Calls conductor Note Unit :=
  .call (Async.reads fun w => w.proxy i) (fun p => .kind (p matches .execution _)) fun
    | .execution _ => listenerCalls i k h HostReply.ofRun wallClock (runEnding sources sw) fuel
    | _ => listenerCalls i k h HostReply.ofDiscovery (pure default) (discoveryEnding sources) fuel

theorem listen_eq (i k : Nat) (h : Handler) (sources : List String) (sw : Stopwatch) (fuel : Nat) :
    listen i k h sources sw fuel = (listenCalls i k h sources sw fuel).run := by
  unfold listen listenCalls
  simp only [Calls.run]
  congr 1
  funext p
  cases p with
  | execution o => exact listenRun_eq i k h sources sw fuel
  | _ => exact listenDiscovery_eq i k h sources fuel

/-! ## What the listener does -/

section Listener

variable (read : Message → Except Error HostReply)

/-- Event `ev` cuts the unit short with error `err`: the host went away, or sent a message that
is no reply. -/
def Breaks (ev : WorkerEvent) (err : Error) : Prop :=
  (∃ e, ev = .disconnected e ∧ err = e.getD .connectionClosed) ∨ (∃ m, ev = .message m ∧ read m = .error err)

/-- The notes of a stretch of `n` events that the listener passes by: connections, and messages
whose events it tells the handler as they come. -/
inductive Relays : List Note → Nat → Prop where
  | nil : Relays [] 0
  | connected (endpoint : String) {ns : List Note} {n : Nat} (h : Relays ns n) :
      Relays (.took (.connected endpoint) :: ns) (n + 1)
  | report (m : Message) (e : CallerEvent) (hm : read m = .ok (.report e)) {ns : List Note} {n : Nat}
      (h : Relays ns n) : Relays (.took (.message m) :: .told e :: ns) (n + 1)

/-- How following the host ends after `n` events passed by, with fuel for `fuel`: at the host's
completion message, at an event that cuts the unit short, or once the fuel is spent. -/
def FollowEnd (fuel n : Nat) (tail : List Note) (r : Ending) : Prop :=
  (∃ m e a, read m = .ok (.done e a) ∧ tail = [.took (.message m), .completed a, .told e] ∧ r = .completed) ∨
  (∃ ev err, Breaks read ev err ∧ tail = [.took ev] ∧ r = .failed err) ∨
  (n = fuel ∧ tail = [] ∧ r = .failed .connectionClosed)

/-- How a listener ends after `n` events passed by: at the host's completion message, with the
bookkeeping completed as the host says and its completion told; or at an event that cuts the unit
short (or once the fuel is spent), with the abort looked up, a log told if `ending` has one, the
bookkeeping completed as aborted and the completion of `ending` told, for the time read then. -/
def ListenEnd (ending : Error → Bool → Option CallerEvent × (Instant → CallerEvent)) (fuel n : Nat)
    (tail : List Note) : Prop :=
  (∃ m e a, read m = .ok (.done e a) ∧ tail = [.took (.message m), .completed a, .told e]) ∨
  (∃ taken err asked t, ((taken = [] ∧ n = fuel ∧ err = .connectionClosed) ∨
      ∃ ev, taken = [.took ev] ∧ Breaks read ev err) ∧
    tail = taken ++ .asked asked :: ((ending err asked).1.map Note.told).toList ++
      [.completed true, .told ((ending err asked).2 t)])

variable {read}

theorem FollowEnd.succ {fuel n : Nat} {tail : List Note} {r : Ending} (h : FollowEnd read fuel n tail r) :
    FollowEnd read (fuel + 1) (n + 1) tail r := by
  rcases h with h | h | ⟨rfl, h⟩
  · exact .inl h
  · exact .inr (.inl h)
  · exact .inr (.inr ⟨rfl, h⟩)

theorem followCalls_notes {i k : Nat} {h : Handler} {fuel : Nat} {ns : List Note} {r : Ending}
    (hn : (followCalls i k h read fuel).Notes ns r) :
    ∃ pre n tail, Relays read pre n ∧ ns = pre ++ tail ∧ FollowEnd read fuel n tail r := by
  induction fuel generalizing ns with
  | zero =>
    simp only [followCalls, Calls.notes_done] at hn
    obtain ⟨rfl, rfl⟩ := hn
    exact ⟨[], 0, [], .nil, rfl, .inr (.inr ⟨rfl, rfl, rfl⟩)⟩
  | succ fuel ih =>
    simp only [followCalls, Calls.notes_call] at hn
    obtain ⟨ev, ns', rfl, hn⟩ := hn
    cases ev with
    | connected endpoint =>
      obtain ⟨pre, n, tail, hr, rfl, hend⟩ := ih hn
      exact ⟨_, n + 1, tail, .connected endpoint hr, rfl, hend.succ⟩
    | disconnected e =>
      simp only [Calls.notes_done] at hn
      obtain ⟨rfl, rfl⟩ := hn
      exact ⟨[], 0, _, .nil, rfl, .inr (.inl ⟨_, _, .inl ⟨e, rfl, rfl⟩, rfl, rfl⟩)⟩
    | message m =>
      cases hm : read m with
      | error err =>
        simp only [hm, Calls.notes_done] at hn
        obtain ⟨rfl, rfl⟩ := hn
        exact ⟨[], 0, _, .nil, rfl, .inr (.inl ⟨_, _, .inr ⟨m, rfl, hm⟩, rfl, rfl⟩)⟩
      | ok rep =>
        cases rep with
        | report e =>
          simp only [hm, Calls.notes_call] at hn
          obtain ⟨_, ns'', rfl, hn⟩ := hn
          obtain ⟨pre, n, tail, hr, rfl, hend⟩ := ih hn
          exact ⟨_, n + 1, tail, .report m e hm hr, rfl, hend.succ⟩
        | done e a =>
          simp only [hm, Calls.notes_call, Calls.notes_done] at hn
          obtain ⟨_, _, rfl, _, _, rfl, rfl, rfl⟩ := hn
          exact ⟨[], 0, _, .nil, rfl, .inl ⟨m, e, a, hm, rfl, rfl⟩⟩

theorem abortCalls_notes {i k : Nat} {h : Handler} {now : Act Instant} {c : Instant → CallerEvent}
    {ns : List Note} : (abortCalls i k h now c).Notes ns () ↔ ∃ t, ns = [.completed true, .told (c t)] := by
  simp only [abortCalls, Calls.notes_call, Calls.notes_done, and_true]
  constructor
  · rintro ⟨_, _, rfl, t, _, rfl, rfl⟩
    exact ⟨t, rfl⟩
  · rintro ⟨t, rfl⟩
    exact ⟨(), _, rfl, t, _, rfl, rfl⟩

theorem listenerCalls_notes {i k : Nat} {h : Handler} {now : Act Instant}
    {ending : Error → Bool → Option CallerEvent × (Instant → CallerEvent)} {fuel : Nat} {ns : List Note}
    (hn : (listenerCalls i k h read now ending fuel).Notes ns ()) :
    ∃ pre n tail, Relays read pre n ∧ ns = pre ++ tail ∧ ListenEnd read ending fuel n tail := by
  rw [listenerCalls, Calls.notes_bind] at hn
  obtain ⟨ns₁, r, ns₂, rfl, h₁, h₂⟩ := hn
  obtain ⟨pre, n, tail, hr, rfl, hend⟩ := followCalls_notes h₁
  refine ⟨pre, n, _, hr, List.append_assoc _ _ _, ?_⟩
  cases r with
  | completed =>
    simp only [Calls.notes_done] at h₂
    obtain ⟨rfl, -⟩ := h₂
    rcases hend with ⟨m, e, a, hm, rfl, -⟩ | ⟨_, _, _, _, h⟩ | ⟨_, _, h⟩
    · exact .inl ⟨m, e, a, hm, by simp⟩
    · cases h
    · cases h
  | failed err =>
    simp only [Calls.notes_call] at h₂
    obtain ⟨asked, ns₃, rfl, h₃⟩ := h₂
    -- the failure is an event that cut the unit short, or the fuel spent
    have htaken : (tail = [] ∧ n = fuel ∧ err = .connectionClosed) ∨
        ∃ ev, tail = [.took ev] ∧ Breaks read ev err := by
      rcases hend with ⟨_, _, _, _, _, h⟩ | ⟨ev, err', hb, rfl, h⟩ | ⟨rfl, rfl, h⟩
      · cases h
      · cases h
        exact .inr ⟨ev, rfl, hb⟩
      · cases h
        exact .inl ⟨rfl, rfl, rfl⟩
    cases hlog : (ending err asked).1 with
    | some log =>
      simp only [hlog, Calls.notes_call, abortCalls_notes] at h₃
      obtain ⟨_, _, rfl, t, rfl⟩ := h₃
      exact .inr ⟨tail, err, asked, t, htaken, by simp [hlog]⟩
    | none =>
      simp only [hlog, abortCalls_notes] at h₃
      obtain ⟨t, rfl⟩ := h₃
      exact .inr ⟨tail, err, asked, t, htaken, by simp [hlog]⟩

theorem Relays.quiet (hs : ∀ m r, read m = .ok r → r.Sound) {pre : List Note} {n : Nat} (h : Relays read pre n) :
    (∀ e ∈ pre.filterMap Note.told?, e.isCompletion = false) ∧
      ∀ m, .took (.message m) ∈ pre → ∀ e a, read m ≠ .ok (.done e a) := by
  induction h with
  | nil => simp
  | connected endpoint _ ih =>
    refine ⟨by simpa [Note.told?] using ih.1, fun m hm => ?_⟩
    simp only [List.mem_cons, Note.took.injEq, reduceCtorEq, false_or] at hm
    exact ih.2 m hm
  | report m' e hm' _ ih =>
    refine ⟨?_, fun m hm => ?_⟩
    · simp only [List.filterMap_cons, Note.told?, List.mem_cons, forall_eq_or_imp]
      exact ⟨hs m' _ hm', ih.1⟩
    · simp only [List.mem_cons, Note.took.injEq, WorkerEvent.message.injEq, reduceCtorEq, false_or] at hm
      rcases hm with rfl | hm
      · intro e a h
        rw [hm'] at h
        cases h
      · exact ih.2 m hm

theorem Breaks.no_done {ev : WorkerEvent} {err : Error} (h : Breaks read ev err) (m : Message) (hm : ev = .message m)
    (e : CallerEvent) (a : Bool) : read m ≠ .ok (.done e a) := by
  subst hm
  rcases h with ⟨e', h, -⟩ | ⟨m', h, hr⟩
  · cases h
  · cases h
    rw [hr]
    intro h
    cases h

theorem cutShort_no_done {ending : Error → Bool → Option CallerEvent × (Instant → CallerEvent)}
    {pre taken : List Note} {n fuel : Nat} {err : Error} (asked : Bool) (t : Instant)
    (hpre : ∀ m, .took (.message m) ∈ pre → ∀ e a, read m ≠ .ok (.done e a))
    (htaken : (taken = [] ∧ n = fuel ∧ err = .connectionClosed) ∨ ∃ ev, taken = [.took ev] ∧ Breaks read ev err) :
    ∀ m, .took (.message m) ∈ pre ++ (taken ++ .asked asked :: ((ending err asked).1.map Note.told).toList ++
      [.completed true, .told ((ending err asked).2 t)]) → ∀ e a, read m ≠ .ok (.done e a) := by
  intro m hm e a
  simp only [List.append_assoc, List.mem_append, List.mem_cons, reduceCtorEq, false_or] at hm
  rcases hm with hm | hm | hm
  · exact hpre m hm e a
  · rcases htaken with ⟨rfl, -, -⟩ | ⟨ev, rfl, hb⟩
    · cases hm
    · simp only [List.mem_singleton, Note.took.injEq] at hm
      exact hb.no_done m hm.symm e a
  · cases h : (ending err asked).1 <;> simp [h] at hm

end Listener

/-- The aborted form of a completion: a discovery of `-1` tests with no last chunk, aborted; or
an aborted run with nothing more to report. -/
def AbortedForm : CallerEvent → Prop
  | .discoveryComplete total chunk aborted => total = -1 ∧ chunk = none ∧ aborted = true
  | .runComplete c chunk attachments metrics =>
    ∃ reason elapsed, c = RunCompletion.aborted reason elapsed ∧ chunk = none ∧ attachments = [] ∧ metrics = []
  | _ => False

theorem AbortedForm.isCompletion {c : CallerEvent} (h : AbortedForm c) : c.isCompletion = true := by
  cases c <;> first | rfl | exact h.elim

/-- What a listener reading replies by `read` does, as its notes show. It tells the handler events
that end nothing, then exactly one completion, the last thing it does and right after the
bookkeeping records the end. That completion is the host's own when the host's completion message
came, the bookkeeping recording the unit as the host says; otherwise no completion message came,
the completion is the aborted form and the bookkeeping records the unit aborted. -/
def Answers (read : Message → Except Error HostReply) (ns : List Note) : Prop :=
  ∃ reports c a pre, ns.filterMap Note.told? = reports ++ [c] ∧ (∀ e ∈ reports, e.isCompletion = false) ∧
    c.isCompletion = true ∧ ns = pre ++ [.completed a, .told c] ∧
    ((∃ m, .took (.message m) ∈ ns ∧ read m = .ok (.done c a)) ∨
     (AbortedForm c ∧ a = true ∧ ∀ m, .took (.message m) ∈ ns → ∀ e a', read m ≠ .ok (.done e a')))

theorem listenerCalls_answers {i k : Nat} {h : Handler} {read : Message → Except Error HostReply}
    {now : Act Instant} {ending : Error → Bool → Option CallerEvent × (Instant → CallerEvent)} {fuel : Nat}
    {ns : List Note} (hs : ∀ m r, read m = .ok r → r.Sound)
    (hend : ∀ e b, (∀ t, AbortedForm ((ending e b).2 t)) ∧ ∀ l ∈ (ending e b).1, l.isCompletion = false)
    (hn : (listenerCalls i k h read now ending fuel).Notes ns ()) : Answers read ns := by
  obtain ⟨pre, n, tail, hr, rfl, hend'⟩ := listenerCalls_notes hn
  obtain ⟨hquiet, hnone⟩ := hr.quiet hs
  rcases hend' with ⟨m, e, a, hm, rfl⟩ | ⟨taken, err, asked, t, htaken, rfl⟩
  · -- the host's completion message came
    refine ⟨pre.filterMap Note.told?, e, a, pre ++ [.took (.message m)], ?_, hquiet,
      hs m _ hm, by simp, .inl ⟨m, by simp, hm⟩⟩
    rw [List.filterMap_append]
    rfl
  · -- the unit was cut short
    obtain ⟨hform, hlog⟩ := hend err asked
    refine ⟨pre.filterMap Note.told? ++ (ending err asked).1.toList, (ending err asked).2 t, true,
      pre ++ taken ++ .asked asked :: ((ending err asked).1.map Note.told).toList, ?_, ?_, (hform t).isCompletion,
      by simp, .inr ⟨hform t, rfl, ?_⟩⟩
    · rcases htaken with ⟨rfl, -, -⟩ | ⟨ev, rfl, -⟩ <;> cases (ending err asked).1 <;>
        (simp only [List.filterMap_append, List.append_assoc]; rfl)
    · intro e he
      rcases List.mem_append.1 he with he | he
      · exact hquiet e he
      · exact hlog e (by simpa using he)
    · exact cutShort_no_done asked t hnone htaken

theorem discoveryEnding_aborts (sources : List String) (e : Error) (b : Bool) :
    (∀ t, AbortedForm ((discoveryEnding sources e b).2 t)) ∧
      ∀ l ∈ (discoveryEnding sources e b).1, l.isCompletion = false := by
  refine ⟨fun _ => ⟨rfl, rfl, rfl⟩, fun l hl => ?_⟩
  cases b <;> simp [discoveryEnding] at hl
  subst hl
  rfl

theorem runEnding_aborts (sources : List String) (sw : Stopwatch) (e : Error) (b : Bool) :
    (∀ t, AbortedForm ((runEnding sources sw e b).2 t)) ∧
      ∀ l ∈ (runEnding sources sw e b).1, l.isCompletion = false := by
  refine ⟨fun _ => ⟨_, _, rfl, rfl, rfl, rfl⟩, fun l hl => ?_⟩
  cases b <;> simp [runEnding] at hl
  subst hl
  rfl

theorem listenCalls_answers {i k : Nat} {h : Handler} {sources : List String} {sw : Stopwatch} {fuel : Nat}
    {ns : List Note} (hn : (listenCalls i k h sources sw fuel).Notes ns ()) :
    ∃ runs rest, ns = .kind runs :: rest ∧
      Answers (if runs then HostReply.ofRun else HostReply.ofDiscovery) rest := by
  simp only [listenCalls, Calls.notes_call] at hn
  obtain ⟨p, rest, rfl, hn⟩ := hn
  cases p with
  | execution o =>
    exact ⟨true, rest, rfl, listenerCalls_answers (fun _ _ => HostReply.ofRun_sound) (runEnding_aborts sources sw) hn⟩
  | scripted q =>
    exact ⟨false, rest, rfl,
      listenerCalls_answers (fun _ _ => HostReply.ofDiscovery_sound) (discoveryEnding_aborts sources) hn⟩
  | discovery o =>
    exact ⟨false, rest, rfl,
      listenerCalls_answers (fun _ _ => HostReply.ofDiscovery_sound) (discoveryEnding_aborts sources) hn⟩
  | inProcess st =>
    exact ⟨false, rest, rfl,
      listenerCalls_answers (fun _ _ => HostReply.ofDiscovery_sound) (discoveryEnding_aborts sources) hn⟩

/-! ## The caller -/

/-- The calls of a caller handing a unit to a proxy: `claim` claims the proxy, and an error it
gives is returned as it is; `launch` gets the unit going, and `going` follows for what it gives.
When the unit cannot get going, `record` records the failure and the handler is told the two
events of `failure`. -/
def unitCalls {β γ : Type} (claim : Act (Except Error β)) (launch : β → Act (Except Error γ))
    (going : γ → Calls conductor Note (Except Error Unit)) (record : Act Unit) (h : Handler)
    (failure : Error → CallerEvent × CallerEvent) : Calls conductor Note (Except Error Unit) :=
  .call claim (fun r => .claimed r.toBool) fun
    | .error e => .done (.error e)
    | .ok b => .call (launch b) (fun r => .opened r.toBool) fun
      | .ok k => going k
      | .error e =>
        .call record (fun _ => .failed) fun _ =>
          .call (h.deliver (failure e).1) (fun _ => .told (failure e).1) fun _ =>
            .call (h.deliver (failure e).2) (fun _ => .told (failure e).2) fun _ => .done (.ok ())

/-- Starts the stopwatch of a unit of proxy `i` and sets up its host; gives the stopwatch and the
host's worker. -/
def timedOpen (i : Nat) (sources : List String) (start : Message) : Act (Except Error (Stopwatch × Nat)) := do
  let sw ← startStopwatch
  return (← openUnit i sources start).map (sw, ·)

/-- The calls of a caller handing a unit to test-host proxy `i`: the bookkeeping claimed, a
stopwatch started and a host set up for `sources` and sent `start`, and the listener started on
it; when no host can be set up, the bookkeeping fails the unit. -/
def takeCalls (i : Nat) (sources : List String) (start : Message) (h : Handler)
    (failure : Error → CallerEvent × CallerEvent) : Calls conductor Note (Except Error Unit) :=
  unitCalls (Operation.begin i) (fun _ => timedOpen i sources start)
    (fun o => .call (Async.fork (.listen i o.2 h sources o.1)) (fun _ => .listening o.2) fun _ => .done (.ok ()))
    (Operation.fail i) h failure

def discoveryFailure (sources : List String) (e : Error) : CallerEvent × CallerEvent :=
  (.log .error ("Failed to start test discovery for " ++ joined sources ++ ": " ++ e.message),
   .discoveryComplete (-1) none true)

/-- What a run that never got going tells: the error `message`, then the aborted completion
carrying it. -/
def failedRun (message : String) : CallerEvent × CallerEvent :=
  (.log .error message, .runComplete (RunCompletion.aborted (some message) Duration.zero) none [] [])

def runFailure (sources : List String) (e : Error) : CallerEvent × CallerEvent :=
  failedRun ("Failed to start test run for " ++ joined sources ++ ": " ++ e.message)

theorem discoveryFailure_aborts (sources : List String) (e : Error) :
    (discoveryFailure sources e).1.isCompletion = false ∧ AbortedForm (discoveryFailure sources e).2 :=
  ⟨rfl, rfl, rfl, rfl⟩

theorem failedRun_aborts (message : String) :
    (failedRun message).1.isCompletion = false ∧ AbortedForm (failedRun message).2 :=
  ⟨rfl, _, _, rfl, rfl, rfl, rfl⟩

theorem takeCalls_run (i : Nat) (sources : List String) (start : Message) (h : Handler)
    (failure : Error → CallerEvent × CallerEvent) :
    (takeCalls i sources start h failure).run = (do
      if let .error e ← Operation.begin i then return .error e
      let sw ← startStopwatch
      match ← openUnit i sources start with
      | .ok k => Async.fork (.listen i k h sources sw)
      | .error e =>
        Operation.fail i
        h.deliver (failure e).1
        h.deliver (failure e).2
      return .ok ()) := by
  unfold takeCalls unitCalls
  simp only [Calls.run]
  congr 1
  funext r
  cases r with
  | error e => rfl
  | ok u =>
    -- the stopwatch is started before the host is set up
    simp only [Calls.run, timedOpen]
    rw [Async.bind_assoc]
    congr 1
    funext sw
    rw [Async.bind_assoc]
    congr 1
    funext r
    cases r <;> rfl

theorem discover_eq (i : Nat) (c : DiscoveryCriteria) (h : Handler) :
    discover i c h = (takeCalls i c.sources (discoveryStart c) h (discoveryFailure c.sources)).run := by
  rw [takeCalls_run]
  rfl

theorem start_eq (i : Nat) (c : RunCriteria) (h : Handler) :
    start i c h = (takeCalls i c.sources (runStart c) h (runFailure c.sources)).run := by
  rw [takeCalls_run]
  rfl

/-- What a caller does, as its notes show. It returns an error exactly when the proxy refused
the unit, and then does nothing more. Otherwise the unit gets going and the caller goes on as
`Going` says; or the unit cannot get going, and the caller records the failure and then tells the
handler an event that ends nothing and the aborted completion. -/
def Claims (Going : List Note → Prop) (ns : List Note) (r : Except Error Unit) : Prop :=
  (r.toBool = false ↔ ns = [.claimed false]) ∧
  (r.toBool = true → (∃ rest, ns = .claimed true :: .opened true :: rest ∧ Going rest) ∨
    ∃ log c, ns = [.claimed true, .opened false, .failed, .told log, .told c] ∧
      log.isCompletion = false ∧ AbortedForm c)

theorem unitCalls_claims {β γ : Type} {claim : Act (Except Error β)} {launch : β → Act (Except Error γ)}
    {going : γ → Calls conductor Note (Except Error Unit)} {record : Act Unit} {h : Handler}
    {failure : Error → CallerEvent × CallerEvent} {Going : List Note → Prop} {ns : List Note}
    {r : Except Error Unit} (hg : ∀ k ns r, (going k).Notes ns r → Going ns ∧ r = .ok ())
    (hf : ∀ e, (failure e).1.isCompletion = false ∧ AbortedForm (failure e).2)
    (hn : (unitCalls claim launch going record h failure).Notes ns r) : Claims Going ns r := by
  simp only [unitCalls, Calls.notes_call] at hn
  obtain ⟨claimed, ns', rfl, hn⟩ := hn
  cases claimed with
  | error e =>
    simp only [Calls.notes_done] at hn
    obtain ⟨rfl, rfl⟩ := hn
    exact ⟨by simp [Except.toBool], fun h => by simp [Except.toBool] at h⟩
  | ok b =>
    simp only [Calls.notes_call] at hn
    obtain ⟨opened, ns'', rfl, hn⟩ := hn
    cases opened with
    | ok k =>
      -- the unit got going: what follows is `going`'s, and ends well
      obtain ⟨hgo, rfl⟩ := hg k _ _ hn
      exact ⟨by simp [Except.toBool], fun _ => .inl ⟨ns'', rfl, hgo⟩⟩
    | error e =>
      simp only [Calls.notes_call, Calls.notes_done] at hn
      obtain ⟨_, _, rfl, _, _, rfl, _, _, rfl, rfl, rfl⟩ := hn
      exact ⟨by simp [Except.toBool], fun _ => .inr ⟨_, _, rfl, hf e⟩⟩

theorem takeCalls_claims {i : Nat} {sources : List String} {start : Message} {h : Handler}
    {failure : Error → CallerEvent × CallerEvent} {ns : List Note} {r : Except Error Unit}
    (hf : ∀ e, (failure e).1.isCompletion = false ∧ AbortedForm (failure e).2)
    (hn : (takeCalls i sources start h failure).Notes ns r) :
    Claims (fun rest => ∃ k, rest = [.listening k]) ns r := by
  refine unitCalls_claims (fun o ns r hk => ?_) hf hn
  simp only [Calls.notes_call, Calls.notes_done] at hk
  obtain ⟨_, _, rfl, rfl, rfl⟩ := hk
  exact ⟨⟨o.2, rfl⟩, rfl⟩

end TestHost

/-! ## In-process proxies

An in-process proxy takes a run with no host: the engine of the conductor's own process runs it
and sends its events to a handler that the proxy puts in front of the caller's. That handler
records the end of the run before it passes the completion on. -/

namespace InProcess

open TestHost (Note unitCalls Claims failedRun)

/-- Claims in-process proxy `i` for a run: refused while the proxy is busy, else the proxy becomes
busy; gives the state it was in. -/
def claim (i : Nat) : Act (Except Error ProxyState) := do
  let s ← state i
  if s == .busy then return .error (.invalidState "In-process test run already in progress")
  setState i .busy
  return .ok s

/-- Hands run `c` to the engine, its events for `h` going through proxy `i`; a proxy in state
`s` that was never readied readies the engine first. -/
def launch (i : Nat) (c : RunCriteria) (h : Handler) (s : ProxyState) : Act (Except Error Unit) :=
  if s == .created then do
    match ← ScriptedEngine.prepare with
    | .error e => pure (.error e)
    | .ok () => ScriptedEngine.start (grouped c) (.inProcess i h)
  else ScriptedEngine.start (grouped c) (.inProcess i h)

def failure (sources : List String) (e : Error) : CallerEvent × CallerEvent :=
  failedRun ("Failed to run tests in process for " ++ TestHost.joined sources ++ ": " ++ e.message)

/-- The calls of in-process proxy `i` taking run `c` for `h`: once the engine has the run, the
caller does nothing more; when it cannot have it, the proxy records the run aborted. -/
def startCalls (i : Nat) (c : RunCriteria) (h : Handler) : Calls conductor Note (Except Error Unit) :=
  unitCalls (claim i) (launch i c h) (fun _ => .done (.ok ())) (setState i .aborted) h (failure c.sources)

theorem start_eq (i : Nat) (c : RunCriteria) (h : Handler) : start i c h = (startCalls i c h).run := by
  funext k
  -- both first read the proxy's state, as one step
  show Prog.step _ = Prog.step _
  congr 1
  funext w
  congr 1
  dsimp only
  split
  · rfl
  -- then both make the proxy busy and hand the run to the engine, and end alike on its answer
  show Prog.step _ = Prog.step _
  congr 1
  funext w'
  congr 1
  show _ = launch i c h _ _
  unfold launch
  split
  · show ScriptedEngine.prepare _ = ScriptedEngine.prepare _
    congr 1
    funext r
    cases r with
    | error e => rfl
    | ok u =>
      show ScriptedEngine.start _ _ _ = ScriptedEngine.start _ _ _
      congr 1
      funext o
      cases o <;> rfl
  · show ScriptedEngine.start _ _ _ = ScriptedEngine.start _ _ _
    congr 1
    funext o
    cases o <;> rfl

theorem startCalls_claims {i : Nat} {c : RunCriteria} {h : Handler} {ns : List Note} {r : Except Error Unit}
    (hn : (startCalls i c h).Notes ns r) : Claims (· = []) ns r :=
  TestHost.unitCalls_claims (fun _ _ _ hk => Calls.notes_done.1 hk) (fun _ => TestHost.failedRun_aborts _) hn

theorem claim_busies (w : World) (i : Nat) {s : ProxyState} (hw : w.proxy i = .inProcess s) :
    AtOnce (claim i) w fun r t => (r.toBool = false ↔ s = .busy) ∧ (r.toBool = false → t = w) ∧
      (r.toBool = true → t.proxy i = .inProcess .busy) := by
  unfold claim state
  refine AtOnce.bind (AtOnce.reads ?_)
  simp only [hw]
  by_cases hb : s = .busy
  · subst hb
    exact AtOnce.pure' ⟨by simp [Except.toBool], fun _ => rfl, fun h => by simp [Except.toBool] at h⟩
  · have hne : (s == ProxyState.busy) = false := by cases s <;> simp_all
    rw [hne]
    refine AtOnce.bind (AtOnce.modify (AtOnce.pure' ⟨by simp [Except.toBool, hb], fun h => ?_, fun _ => ?_⟩))
    · simp [Except.toBool] at h
    · rw [World.proxy_setProxy, if_pos ⟨rfl, World.lt_length_of_inProcess hw⟩]

def finish (i : Nat) (c : RunCompletion) : Act Unit := Async.modify fun w => w.setProxy i fun
  | .inProcess .busy => .inProcess (if c.isAborted then .aborted else .completed)
  | x => x

/-- The calls of the handler that in-process proxy `i` puts in front of `h`: a run's completion
first records the end of the run, and every event then goes on to `h`. -/
def trackCalls (i : Nat) (h : Handler) : CallerEvent → Calls conductor Note Unit
  | .runComplete c ch a m =>
    .call (finish i c) (fun _ => .completed c.isAborted) fun _ =>
      .call (h.deliver (.runComplete c ch a m)) (fun _ => .told (.runComplete c ch a m)) fun _ => .done ()
  | e => .call (h.deliver e) (fun _ => .told e) fun _ => .done ()

theorem deliver_eq (i : Nat) (h : Handler) (e : CallerEvent) :
    Handler.deliver (.inProcess i h) e = (trackCalls i h e).run := by
  cases e <;> rfl

theorem trackCalls_notes {i : Nat} {h : Handler} {e : CallerEvent} {ns : List Note}
    (hn : (trackCalls i h e).Notes ns ()) :
    (ns = [.told e] ∧ ∀ c ch a m, e ≠ .runComplete c ch a m) ∨
      ∃ c ch a m, e = .runComplete c ch a m ∧ ns = [.completed c.isAborted, .told e] := by
  cases e
  case runComplete c ch a m =>
    simp only [trackCalls, Calls.notes_call, Calls.notes_done] at hn
    obtain ⟨_, _, rfl, _, _, rfl, rfl, -⟩ := hn
    exact .inr ⟨c, ch, a, m, rfl, rfl⟩
  all_goals
    simp only [trackCalls, Calls.notes_call, Calls.notes_done] at hn
    obtain ⟨_, _, rfl, rfl, -⟩ := hn
    exact .inl ⟨rfl, fun _ _ _ _ h => by cases h⟩

theorem finish_records (w : World) (i : Nat) (c : RunCompletion) :
    AtOnce (finish i c) w fun _ t => t.proxy i ≠ .inProcess .busy ∧
      (w.proxy i = .inProcess .busy → t.proxy i = .inProcess (if c.isAborted then .aborted else .completed)) := by
  refine AtOnce.modify ⟨?_, fun hb => ?_⟩
  · rw [World.proxy_setProxy]
    split
    · split
      · split <;> intro h <;> cases h
      · rename_i hx
        exact hx
    · -- past the last proxy the world reads the default, which is no in-process proxy
      rename_i hi
      have hlen : w.proxies.length ≤ i := Nat.le_of_not_lt fun h => hi ⟨rfl, h⟩
      rw [World.proxy, List.getElem?_eq_none hlen]
      intro h
      cases h
  · rw [World.proxy_setProxy, if_pos ⟨rfl, World.lt_length_of_inProcess hb⟩, hb]

end InProcess

/-- The contract of a proxy's units, on which the parallel managers rely.

A call that hands a discovery or a run to test-host proxy `i` returns an error exactly when the
bookkeeping refused the unit, and then tells the handler nothing; otherwise the unit's events end
with exactly one completion, told last and after the bookkeeping recorded the end, by the caller
when no host could be set up and else by the listener it started. The listener's completion is
the host's own when the host's completion message came before anything cut the unit short, and
the aborted form otherwise. Recording the end stops the unit's worker unless the unit completed on
a proxy whose host may be shared, and failing a unit stops the worker the proxy had.

An in-process proxy refuses a run exactly while it is busy, and then tells nothing. When the
engine cannot take the run, the proxy records it aborted and then tells an error and the aborted
completion, last; otherwise the engine's events reach the caller through a handler that passes
each on, a run's completion only once the end is recorded and the proxy no longer busy. -/
theorem unit_ends_in_one_completion (i : Nat) (h : Handler) :
    (∀ c : DiscoveryCriteria,
      TestHost.discover i c h =
        (TestHost.takeCalls i c.sources (TestHost.discoveryStart c) h (TestHost.discoveryFailure c.sources)).run ∧
      ∀ ns r, (TestHost.takeCalls i c.sources (TestHost.discoveryStart c) h
        (TestHost.discoveryFailure c.sources)).Notes ns r → TestHost.Claims (fun rest => ∃ k, rest = [.listening k]) ns r) ∧
    (∀ c : RunCriteria,
      TestHost.start i c h = (TestHost.takeCalls i c.sources (TestHost.runStart c) h (TestHost.runFailure c.sources)).run ∧
      ∀ ns r, (TestHost.takeCalls i c.sources (TestHost.runStart c) h (TestHost.runFailure c.sources)).Notes ns r →
        TestHost.Claims (fun rest => ∃ k, rest = [.listening k]) ns r) ∧
    (∀ k sources sw fuel, TestHost.listen i k h sources sw fuel = (TestHost.listenCalls i k h sources sw fuel).run ∧
      ∀ ns, (TestHost.listenCalls i k h sources sw fuel).Notes ns () →
        ∃ runs rest, ns = .kind runs :: rest ∧
          TestHost.Answers (if runs then HostReply.ofRun else HostReply.ofDiscovery) rest) ∧
    (∀ (w : World) (a : Bool) (k : Nat), k < w.workers.length →
      AtOnce (Operation.complete i a k) w fun _ t => (t.worker k).stopped = true ∨
        (a = false ∧ (w.operation i).isShared = true ∧ (w.operation i).state ≠ .closed)) ∧
    (∀ w : World, AtOnce (Operation.fail i) w fun _ t =>
      ∀ k, (w.operation i).worker = some k → k < w.workers.length → (t.worker k).stopped = true) ∧
    (∀ c : RunCriteria, InProcess.start i c h = (InProcess.startCalls i c h).run ∧
      ∀ ns r, (InProcess.startCalls i c h).Notes ns r → TestHost.Claims (· = []) ns r) ∧
    (∀ (w : World) (s : ProxyState), w.proxy i = .inProcess s → AtOnce (InProcess.claim i) w fun r t =>
      (r.toBool = false ↔ s = .busy) ∧ (r.toBool = false → t = w) ∧ (r.toBool = true → t.proxy i = .inProcess .busy)) ∧
    (∀ e, Handler.deliver (.inProcess i h) e = (InProcess.trackCalls i h e).run ∧
      ∀ ns, (InProcess.trackCalls i h e).Notes ns () →
        (ns = [.told e] ∧ ∀ c ch a m, e ≠ .runComplete c ch a m) ∨
          ∃ c ch a m, e = .runComplete c ch a m ∧ ns = [.completed c.isAborted, .told e]) ∧
    (∀ (w : World) (c : RunCompletion), AtOnce (InProcess.finish i c) w fun _ t => t.proxy i ≠ .inProcess .busy ∧
      (w.proxy i = .inProcess .busy → t.proxy i = .inProcess (if c.isAborted then .aborted else .completed))) := by
  refine ⟨fun c => ⟨TestHost.discover_eq i c h,
      fun ns r hn => TestHost.takeCalls_claims (TestHost.discoveryFailure_aborts c.sources) hn⟩,
    fun c => ⟨TestHost.start_eq i c h, fun ns r hn => TestHost.takeCalls_claims (fun _ => TestHost.failedRun_aborts _) hn⟩,
    fun k sources sw fuel => ⟨TestHost.listen_eq i k h sources sw fuel, fun ns hn => TestHost.listenCalls_answers hn⟩,
    fun w a k hk => (Operation.complete_ends w i a k hk).mono fun _ _ ht => ht.2.2,
    fun w => (Operation.fail_ends w i).mono fun _ _ ht => ht.2,
    fun c => ⟨InProcess.start_eq i c h, fun ns r hn => InProcess.startCalls_claims hn⟩,
    fun w s hw => InProcess.claim_busies w i hw,
    fun e => ⟨InProcess.deliver_eq i h e, fun ns hn => InProcess.trackCalls_notes hn⟩,
    fun w c => InProcess.finish_records w i c⟩

namespace TestHost

def hostLostNotes : List Note :=
  [.kind false, .took (.disconnected none), .asked false,
   .told (.log .error ("Test host for a.dll stopped before discovery completed: " ++ Error.connectionClosed.message)),
   .completed true, .told (.discoveryComplete (-1) none true)]

theorem hostLost_notes : (listenCalls 0 0 .caller ["a.dll"] default 1).Notes hostLostNotes () := by
  refine .call (Proxy.discovery default) ?_
  show (listenerCalls 0 0 .caller HostReply.ofDiscovery (pure default) (discoveryEnding ["a.dll"]) 1).Notes _ ()
  rw [listenerCalls, Calls.notes_bind]
  have hf : (followCalls 0 0 .caller HostReply.ofDiscovery 1).Notes [.took (.disconnected none)]
      (.failed .connectionClosed) := .call (WorkerEvent.disconnected none) (.done _)
  exact ⟨_, _, _, rfl, hf, .call false (.call () (.call () (.call default (.done ()))))⟩

/-- Such a listener is one run of a unit: it answers with the aborted completion, told last. -/
theorem hostLost_answered :
    (listenCalls 0 0 .caller ["a.dll"] default 1).Notes hostLostNotes () ∧
      ∃ runs rest, hostLostNotes = .kind runs :: rest ∧
        Answers (if runs then HostReply.ofRun else HostReply.ofDiscovery) rest :=
  ⟨hostLost_notes, ((unit_ends_in_one_completion 0 .caller).2.2.1 0 ["a.dll"] default 1).2 _ hostLost_notes⟩

end TestHost

end TestConductor
