import TestConductor.Proofs.Proxy.Units
/-! # Aborts and the errors a unit reports

An abort of a test-host proxy marks its bookkeeping, and the unit the proxy is doing finds the
mark in one of two places. Setting up the unit's host checks it, once the worker is stored and
again once the host has connected, and fails when it is set; a host that the abort stops while it
connects fails the setup too. The listener of a unit that got going looks the mark up once, when
the host went away or sent something that is no reply.
-/
namespace TestConductor

open Async

/-! ## The mark -/

namespace Operation

theorem operation_setOperation {w : World} {i : Nat} {o : Operation} (hw : (w.proxy i).operation? = some o)
    (f : Operation → Operation) : (w.setOperation i f).operation i = f o := by
  simp [World.operation, World.proxy_setOperation, Proxy.operation?_mapOperation, hw]

theorem requestAbort_marks {w : World} {i : Nat} {o : Operation} (hw : (w.proxy i).operation? = some o)
    (hb : o.state = .busy) :
    AtOnce (requestAbort i) w fun r t => t.operation i = { o with abortRequested := true } ∧ r = o.worker := by
  have hne : (o.state != ProxyState.busy) = false := by simp [hb]
  unfold requestAbort
  refine AtOnce.bind (AtOnce.reads ?_)
  simp only [operation_eq hw, hne, Bool.false_eq_true, if_false]
  exact AtOnce.bind (AtOnce.modify (AtOnce.pure' ⟨operation_setOperation hw _, rfl⟩))

theorem ensureNotAborted_checks (w : World) (i : Nat) :
    AtOnce (ensureNotAborted i) w fun r t => t = w ∧
      r = if (w.operation i).abortRequested then .error (abortedWhileStarting (w.operation i).name) else .ok () :=
  AtOnce.bind (AtOnce.reads (AtOnce.pure' ⟨rfl, rfl⟩))

end Operation

/-! ## What a unit tells when it makes its own completion -/

namespace TestHost

/-- What a unit tells once it ends with a completion of its own making, by whether an abort was
asked for: an error `msg` of its own unless one was, then the aborted completion `c`; a run's
gives `msg` as its reason when no abort was asked for, and no reason when one was. -/
def EndsAborted (asked : Bool) (told : List CallerEvent) : Prop :=
  ∃ msg c, AbortedForm c ∧ told = (if asked then [] else [.log .error msg]) ++ [c] ∧
    ∀ rc ch a m, c = .runComplete rc ch a m → rc.error = if asked then none else some msg

theorem discoveryEnding_ends (sources : List String) (e : Error) (asked : Bool) (t : Instant) :
    EndsAborted asked ((discoveryEnding sources e asked).1.toList ++ [(discoveryEnding sources e asked).2 t]) := by
  refine ⟨"Test host for " ++ joined sources ++ " stopped before discovery completed: " ++ e.message, _,
    (discoveryEnding_aborts sources e asked).1 t, ?_, fun _ _ _ _ h => by cases h⟩
  cases asked <;> rfl

theorem runEnding_ends (sources : List String) (sw : Stopwatch) (e : Error) (asked : Bool) (t : Instant) :
    EndsAborted asked ((runEnding sources sw e asked).1.toList ++ [(runEnding sources sw e asked).2 t]) := by
  refine ⟨"The active test run was aborted. Test host for " ++ joined sources ++ " stopped: " ++ e.message, _,
    (runEnding_aborts sources sw e asked).1 t, ?_, fun rc ch a m h => ?_⟩
  · cases asked <;> rfl
  · cases h
    cases asked <;> rfl

theorem discoveryFailure_ends (sources : List String) (e : Error) :
    EndsAborted false [(discoveryFailure sources e).1, (discoveryFailure sources e).2] :=
  ⟨_, _, (discoveryFailure_aborts sources e).2, rfl, fun _ _ _ _ h => by cases h⟩

theorem failedRun_ends (message : String) : EndsAborted false [(failedRun message).1, (failedRun message).2] :=
  ⟨message, _, (failedRun_aborts message).2, rfl, fun _ _ _ _ h => by cases h; rfl⟩

/-! ## The caller -/

theorem unitCalls_unopened {β γ : Type} {claim : Act (Except Error β)} {launch : β → Act (Except Error γ)}
    {going : γ → Calls conductor Note (Except Error Unit)} {record : Act Unit} {h : Handler}
    {failure : Error → CallerEvent × CallerEvent} {ns : List Note} {r : Except Error Unit}
    (hg : ∀ k ns r, (going k).Notes ns r → .opened false ∉ ns)
    (hn : (unitCalls claim launch going record h failure).Notes ns r) (ho : .opened false ∈ ns) :
    ∃ e, ns = [.claimed true, .opened false, .failed, .told (failure e).1, .told (failure e).2] := by
  simp only [unitCalls, Calls.notes_call] at hn
  obtain ⟨claimed, ns', rfl, hn⟩ := hn
  cases claimed with
  | error e =>
    simp only [Calls.notes_done] at hn
    obtain ⟨rfl, rfl⟩ := hn
    simp at ho
  | ok b =>
    simp only [Calls.notes_call] at hn
    obtain ⟨opened, ns'', rfl, hn⟩ := hn
    cases opened with
    | ok k =>
      -- the unit got going, and what follows is `going`'s
      simp only [List.mem_cons, Note.opened.injEq, reduceCtorEq, false_or] at ho
      rcases ho with ho | ho
      · simp [Except.toBool] at ho
      · exact absurd ho (hg k _ _ hn)
    | error e =>
      simp only [Calls.notes_call, Calls.notes_done] at hn
      obtain ⟨_, _, rfl, _, _, rfl, _, _, rfl, rfl, rfl⟩ := hn
      exact ⟨e, rfl⟩

theorem takeCalls_unopened {i : Nat} {sources : List String} {start : Message} {h : Handler}
    {failure : Error → CallerEvent × CallerEvent} {ns : List Note} {r : Except Error Unit}
    (hn : (takeCalls i sources start h failure).Notes ns r) (ho : .opened false ∈ ns) :
    ∃ e, ns = [.claimed true, .opened false, .failed, .told (failure e).1, .told (failure e).2] := by
  refine unitCalls_unopened (fun k ns r hk => ?_) hn ho
  simp only [Calls.notes_call, Calls.notes_done] at hk
  obtain ⟨_, _, rfl, rfl, -⟩ := hk
  simp

theorem takeCalls_ends {i : Nat} {sources : List String} {start : Message} {h : Handler}
    {failure : Error → CallerEvent × CallerEvent} (hf : ∀ e, EndsAborted false [(failure e).1, (failure e).2])
    {ns : List Note} {r : Except Error Unit} (hn : (takeCalls i sources start h failure).Notes ns r)
    (ho : .opened false ∈ ns) : (∀ b, .asked b ∉ ns) ∧ EndsAborted false (ns.filterMap Note.told?) := by
  obtain ⟨e, rfl⟩ := takeCalls_unopened hn ho
  exact ⟨by simp, hf e⟩

/-! ## The listener -/

section Listener

variable {read : Message → Except Error HostReply}

theorem Relays.unasked {pre : List Note} {n : Nat} (h : Relays read pre n) (b : Bool) : .asked b ∉ pre := by
  induction h with
  | nil => simp
  | connected _ _ ih => simpa using ih
  | report _ _ _ _ ih => simpa using ih

/-- How a listener ends, as its notes show. Either the host's completion came, told last, and no
abort was looked up; or none came, the abort was looked up once, and what the listener told
after that is the log of `ending`, if it has one, and its completion at the time read last. -/
theorem listenerCalls_ends {i k : Nat} {h : Handler} {now : Act Instant}
    {ending : Error → Bool → Option CallerEvent × (Instant → CallerEvent)} {fuel : Nat} {ns : List Note}
    (hs : ∀ m r, read m = .ok r → r.Sound) (hn : (listenerCalls i k h read now ending fuel).Notes ns ()) :
    ((∀ b, .asked b ∉ ns) ∧ ∃ m c a, .took (.message m) ∈ ns ∧ read m = .ok (.done c a) ∧ ns.getLast? = some (.told c)) ∨
    ∃ pre asked err t post, ns = pre ++ .asked asked :: post ∧ (∀ b, .asked b ∉ pre ++ post) ∧
      (∀ m, .took (.message m) ∈ ns → ∀ e a, read m ≠ .ok (.done e a)) ∧
      post.filterMap Note.told? = (ending err asked).1.toList ++ [(ending err asked).2 t] := by
  obtain ⟨pre, n, tail, hr, rfl, hend⟩ := listenerCalls_notes hn
  have hno := (hr.quiet hs).2
  rcases hend with ⟨m, e, a, hm, rfl⟩ | ⟨taken, err, asked, t, htaken, rfl⟩
  · -- the host's completion message came
    refine .inl ⟨fun b hb => ?_, m, e, a, by simp, hm, by simp⟩
    rcases List.mem_append.1 hb with hb | hb
    · exact hr.unasked b hb
    · simp at hb
  · -- the unit was cut short, by the event taken last or by the fuel spent
    have hpost : ∀ x ∈ ((ending err asked).1.map Note.told).toList ++ [.completed true, .told ((ending err asked).2 t)],
        ∀ b, x ≠ .asked b := by
      cases (ending err asked).1 <;> simp
    refine .inr ⟨pre ++ taken, asked, err, t, ((ending err asked).1.map Note.told).toList ++
      [.completed true, .told ((ending err asked).2 t)], by simp, fun b hb => ?_, cutShort_no_done asked t hno htaken, ?_⟩
    · rcases List.mem_append.1 hb with hb | hb
      · rcases List.mem_append.1 hb with hb | hb
        · exact hr.unasked b hb
        · rcases htaken with ⟨rfl, -, -⟩ | ⟨ev, rfl, -⟩ <;> simp at hb
      · exact hpost _ hb b rfl
    · cases (ending err asked).1 <;> rfl

theorem listenerCalls_reports {i k : Nat} {h : Handler} {now : Act Instant}
    {ending : Error → Bool → Option CallerEvent × (Instant → CallerEvent)} {fuel : Nat} {ns : List Note}
    (hs : ∀ m r, read m = .ok r → r.Sound)
    (he : ∀ e asked t, EndsAborted asked ((ending e asked).1.toList ++ [(ending e asked).2 t]))
    (hn : (listenerCalls i k h read now ending fuel).Notes ns ()) :
    ((∀ b, .asked b ∉ ns) ∧ ∃ m c a, .took (.message m) ∈ ns ∧ read m = .ok (.done c a) ∧ ns.getLast? = some (.told c)) ∨
    ∃ pre asked post, ns = pre ++ .asked asked :: post ∧ (∀ b, .asked b ∉ pre ++ post) ∧
      (∀ m, .took (.message m) ∈ ns → ∀ e a, read m ≠ .ok (.done e a)) ∧ EndsAborted asked (post.filterMap Note.told?) := by
  rcases listenerCalls_ends hs hn with hdone | ⟨pre, asked, err, t, post, hns, hno, hnd, htold⟩
  · exact .inl hdone
  · exact .inr ⟨pre, asked, post, hns, hno, hnd, htold ▸ he err asked t⟩

end Listener

end TestHost

/-- How a test-host proxy reports a unit that ends with a completion of its own making, and what
an abort has to do with it.

An abort asked of a busy proxy marks it, and a check of a setup fails, naming the abort, exactly
when the mark is set. A caller whose unit could not get going, for that reason or any other,
never looks the mark up: it tells the error of the failure and the aborted completion, a run's
giving that error as its reason. A listener's notes are either those of a unit the host
completed, with the host's completion told last and no abort looked up, or those of a unit cut
short before the host completed it, with the abort looked up once: what the listener tells after
that is an error of its own exactly when no abort was asked for, then the aborted completion, a
run's with no reason exactly when an abort was asked for. -/
theorem abort_silences_listener_only (i : Nat) (h : Handler) :
    (∀ (w : World) (o : Operation), (w.proxy i).operation? = some o → o.state = .busy →
      AtOnce (Operation.requestAbort i) w fun r t => t.operation i = { o with abortRequested := true } ∧ r = o.worker) ∧
    (∀ w : World, AtOnce (Operation.ensureNotAborted i) w fun r t => t = w ∧
      r = if (w.operation i).abortRequested then .error (Operation.abortedWhileStarting (w.operation i).name)
        else .ok ()) ∧
    (∀ (c : DiscoveryCriteria) ns r,
      (TestHost.takeCalls i c.sources (TestHost.discoveryStart c) h (TestHost.discoveryFailure c.sources)).Notes ns r →
      .opened false ∈ ns → (∀ b, .asked b ∉ ns) ∧ TestHost.EndsAborted false (ns.filterMap TestHost.Note.told?)) ∧
    (∀ (c : RunCriteria) ns r,
      (TestHost.takeCalls i c.sources (TestHost.runStart c) h (TestHost.runFailure c.sources)).Notes ns r →
      .opened false ∈ ns → (∀ b, .asked b ∉ ns) ∧ TestHost.EndsAborted false (ns.filterMap TestHost.Note.told?)) ∧
    (∀ k sources sw fuel ns, (TestHost.listenCalls i k h sources sw fuel).Notes ns () →
      ∃ runs rest, ns = .kind runs :: rest ∧
        (((∀ b, .asked b ∉ rest) ∧ ∃ m c a, .took (.message m) ∈ rest ∧
            (if runs then HostReply.ofRun else HostReply.ofDiscovery) m = .ok (.done c a) ∧
            rest.getLast? = some (.told c)) ∨
          ∃ pre asked post, rest = pre ++ .asked asked :: post ∧ (∀ b, .asked b ∉ pre ++ post) ∧
            (∀ m, .took (.message m) ∈ rest → ∀ e a,
              (if runs then HostReply.ofRun else HostReply.ofDiscovery) m ≠ .ok (.done e a)) ∧
            TestHost.EndsAborted asked (post.filterMap TestHost.Note.told?))) := by
  refine ⟨fun w o hw hb => Operation.requestAbort_marks hw hb, fun w => Operation.ensureNotAborted_checks w i,
    fun c ns r hn ho => TestHost.takeCalls_ends (TestHost.discoveryFailure_ends c.sources) hn ho,
    fun c ns r hn ho => TestHost.takeCalls_ends (fun e => TestHost.failedRun_ends _) hn ho,
    fun k sources sw fuel ns hn => ?_⟩
  simp only [TestHost.listenCalls, Calls.notes_call] at hn
  obtain ⟨p, rest, rfl, hn⟩ := hn
  -- the kind looked up decides how the listener reads the host and ends a unit cut short
  cases p with
  | execution o =>
    exact ⟨true, rest, rfl,
      TestHost.listenerCalls_reports (fun _ _ => HostReply.ofRun_sound) (TestHost.runEnding_ends sources sw) hn⟩
  | scripted q =>
    exact ⟨false, rest, rfl,
      TestHost.listenerCalls_reports (fun _ _ => HostReply.ofDiscovery_sound) (TestHost.discoveryEnding_ends sources) hn⟩
  | discovery o =>
    exact ⟨false, rest, rfl,
      TestHost.listenerCalls_reports (fun _ _ => HostReply.ofDiscovery_sound) (TestHost.discoveryEnding_ends sources) hn⟩
  | inProcess st =>
    exact ⟨false, rest, rfl,
      TestHost.listenerCalls_reports (fun _ _ => HostReply.ofDiscovery_sound) (TestHost.discoveryEnding_ends sources) hn⟩

namespace TestHost

def aDiscovery : DiscoveryCriteria := DiscoveryCriteria.new ["a.dll"]

def abortedSetupNotes : List Note :=
  [.claimed true, .opened false, .failed,
   .told (.log .error ("Failed to start test discovery for a.dll: " ++
     (Operation.abortedWhileStarting "proxy-1").message)),
   .told (.discoveryComplete (-1) none true)]

theorem abortedSetup_notes :
    (takeCalls 0 aDiscovery.sources (discoveryStart aDiscovery) .caller (discoveryFailure aDiscovery.sources)).Notes
      abortedSetupNotes (.ok ()) :=
  .call (Except.ok ()) (.call (Except.error (Operation.abortedWhileStarting "proxy-1"))
    (.call () (.call () (.call () (.done _)))))

/-- A setup failed by an abort is still reported with an error of its own. -/
theorem abortedSetup_logs_error :
    (takeCalls 0 aDiscovery.sources (discoveryStart aDiscovery) .caller (discoveryFailure aDiscovery.sources)).Notes
      abortedSetupNotes (.ok ()) ∧
      (∀ b, .asked b ∉ abortedSetupNotes) ∧ EndsAborted false (abortedSetupNotes.filterMap Note.told?) :=
  ⟨abortedSetup_notes,
    (abort_silences_listener_only 0 .caller).2.2.1 aDiscovery _ _ abortedSetup_notes (by simp [abortedSetupNotes])⟩

end TestHost

end TestConductor
