import TestConductor.Proofs.Runtime.Calls
import TestConductor.Collection.Session
/-! # Serving a data collection session

The loop that serves a session is read as a tree of calls (`Calls`), each noted by what it tells
an observer: what a receive gave, the session's state set, a call to the data collectors or to
the test case channel, what the collectors and the channel answered, the test case task started
and awaited, and a message sent to the conductor. `serve_eq` proves the loop equal to its tree.
-/
namespace TestConductor

namespace Collection

/-- What a call of the session tells an observer. -/
inductive Note where
  /-- A message was received, or receiving failed. -/
  | received (r : Except Error Message)
  /-- The session moved to a state. -/
  | moved (s : SessionState)
  /-- The data collectors were called. -/
  | called (c : CollectorCall)
  /-- The data collectors' answers were looked up: whether they want test case events. -/
  | wanted (events : Bool)
  /-- The test case channel was called. -/
  | channel (c : CaseChannelCall)
  /-- Opening the test case channel gave its port, or failed. -/
  | opened (port : Except Error Nat)
  /-- The task serving the test case channel was started. -/
  | spawned
  /-- The task serving the test case channel was taken for awaiting, if there was one. -/
  | task (t : Option Nat)
  /-- The test case task was awaited and ended so. -/
  | ended (outcome : Except Error Unit)
  /-- A message of a type was sent to the conductor, and sending went so. -/
  | sent (type : MessageType) (r : Except Error Unit)

/-! ## The calls of a session -/

def settingsOf (p : Json) : String := ((p.get? "settings").bind Json.asStr?).getD ""

def cancelledOf (p : Json) : Bool := ((p.get? "is_cancelled").bind Json.asBool?).getD false

def launchedOf (p : Json) : Nat := ((p.get? "process_id").bind Json.asNat?).getD 0

/-- The calls opening the test case channel, when the collectors want test case events: the
channel is prepared, and unless that fails its task is started; gives the channel's port. -/
def openCalls : Bool → Calls conductor Note (Except Error Nat)
  | false => .done (.ok 0)
  | true =>
    .call (logChannel .prepare) (fun _ => .channel .prepare) fun _ =>
    .call (Async.reads (·.caseScript)) (fun cs => .opened (match cs.initError with
        | some e => .error e
        | none => .ok cs.port)) fun
      | { initError := some e, .. } => .done (.error e)
      | cs =>
        .call (do
            let t ← Async.spawn .caseEvents
            update fun c => { c with caseTask := some t }) (fun _ => .spawned) fun _ =>
          .done (.ok cs.port)

def beginCalls (m : Message) : Calls conductor Note (Except Error Unit) :=
  match m.payloadAs Payload.beforeTestRunStart with
  | .error e => .done (.error e)
  | .ok p =>
    .call (update fun c => { c with state := .sessionActive, hasSession := true }) (fun _ => .moved .sessionActive)
      fun _ =>
    .call (Async.reads (·.collectorScript)) (fun s => .wanted s.eventsRequired) fun script =>
    .call (logCollector (.load (settingsOf p))) (fun _ => .called (.load (settingsOf p))) fun _ =>
    .call (logCollector .sessionStarted) (fun _ => .called .sessionStarted) fun _ =>
    (openCalls script.eventsRequired).bind fun
      | .error e => .done (.error e)
      | .ok port =>
        .call (send (Message.withPayload .beforeTestRunStartResult
            (.obj [("environment_variables", .obj (script.env.map fun (k, v) => (k, .str v))),
                   ("are_test_case_events_required", .bool script.eventsRequired),
                   ("data_collection_events_port", .nat port)])))
          (fun r => .sent .beforeTestRunStartResult r) .done

/-- The calls that end a session: the channel closed, the collectors disposed of, the session
terminated. -/
def terminateCalls : Calls conductor Note Unit :=
  .call (logChannel .close) (fun _ => .channel .close) fun _ =>
  .call (logCollector .dispose) (fun _ => .called .dispose) fun _ =>
  .call (update fun c => { c with state := .terminated }) (fun _ => .moved .terminated) .done

def finishCalls (m : Message) : Calls conductor Note (Except Error Unit) :=
  match m.payloadAs Payload.afterTestRunEnd with
  | .error e => .done (.error e)
  | .ok p =>
    .call (update fun c => { c with state := .awaitingSessionEnd }) (fun _ => .moved .awaitingSessionEnd) fun _ =>
    .call (Async.change fun w => (w.collection.caseTask, { w with collection := { w.collection with caseTask := none } }))
      .task fun task =>
    -- the reply, once the test case task (if any) ended well
    let reply : Calls conductor Note (Except Error Unit) :=
      .call (logCollector (.sessionEnded (cancelledOf p))) (fun _ => .called (.sessionEnded (cancelledOf p))) fun _ =>
      .call (do
          let attachments ← Async.reads (·.collectorScript.attachments)
          send (Message.withPayload .afterTestRunEndResult
            (.obj [("attachment_sets", .arr (attachments.map AttachmentSet.toJson)), ("metrics", .obj [])])))
        (fun r => .sent .afterTestRunEndResult r) fun sent =>
      terminateCalls.bind fun _ => .done sent
    match task with
    | none => reply
    | some t =>
      .call (Async.join t) (fun r => .ended (caseOutcome t r)) fun r =>
        match caseOutcome t r with
        | .error e => terminateCalls.bind fun _ => .done (.error (.aggregate [e]))
        | .ok () => reply

def serveCalls : Nat → Calls conductor Note (Except Error Unit)
  | 0 => .done (.error .connectionClosed)
  | fuel + 1 =>
    .call (do ScriptedHost.receive (← Async.reads (·.collection.host)) fuel) .received fun
      | .error e => .done (.error e)
      | .ok m =>
        match m.type with
        | .beforeTestRunStart =>
          (beginCalls m).bind fun
            | .error e => .done (.error e)
            | .ok () => serveCalls fuel
        | .testHostLaunched =>
          match m.payloadAs Payload.testHostLaunched with
          | .error e => .done (.error e)
          | .ok p =>
            .call (logCollector (.hostLaunched (launchedOf p))) (fun _ => .called (.hostLaunched (launchedOf p)))
              fun _ =>
            serveCalls fuel
        | .afterTestRunEnd => finishCalls m
        | t => .done (.error (.unexpectedMessage t.name))

theorem openCalls_run (b : Bool) : (openCalls b).run = if b then (do
      logChannel .prepare
      match ← Async.reads (·.caseScript) with
      | { initError := some e, .. } => pure (Except.error e)
      | cs =>
        let t ← Async.spawn .caseEvents
        update fun c => { c with caseTask := some t }
        pure (.ok cs.port))
    else pure (.ok 0) := by
  cases b with
  | false => rfl
  | true =>
    simp only [openCalls, Calls.run]
    congr 1
    funext u
    congr 1
    funext cs
    rcases cs with ⟨port, _ | e, connects, processError, panic⟩ <;> rfl

theorem begin_eq (m : Message) : begin m = (beginCalls m).run := by
  unfold begin beginCalls
  cases m.payloadAs Payload.beforeTestRunStart with
  | error e => rfl
  | ok p =>
    simp only [Calls.run, Calls.run_bind, openCalls_run]
    congr 1; funext _
    congr 1; funext script
    congr 1; funext _
    congr 1; funext _
    by_cases hb : script.eventsRequired = true
    · rw [if_pos hb, if_pos hb]
      simp only [Async.bind_assoc]
      congr 1; funext _
      congr 1; funext cs
      rcases cs with ⟨port, _ | e, connects, processError, panic⟩ <;> rfl
    · rw [if_neg hb, if_neg hb]
      rfl

theorem terminateCalls_run : terminateCalls.run = terminate := rfl

theorem finish_eq (m : Message) : finish m = (finishCalls m).run := by
  unfold finish finishCalls
  cases m.payloadAs Payload.afterTestRunEnd with
  | error e => rfl
  | ok p =>
    simp only [Calls.run]
    congr 1; funext _
    congr 1; funext task
    cases task with
    | none =>
      simp only [Calls.run, Calls.run_bind, terminateCalls_run]
      rfl
    | some t =>
      simp only [Calls.run]
      congr 1; funext r
      cases caseOutcome t r with
      | error e => simp only [Calls.run, Calls.run_bind, terminateCalls_run]
      | ok u =>
        simp only [Calls.run, Calls.run_bind, terminateCalls_run]
        rfl

theorem serve_eq (fuel : Nat) : serve fuel = (serveCalls fuel).run := by
  induction fuel with
  | zero => rfl
  | succ fuel ih =>
    unfold serve serveCalls
    simp only [Calls.run, Async.bind_assoc]
    congr 1; funext _
    congr 1; funext r
    cases r with
    | error e => rfl
    | ok m =>
      dsimp only
      cases hm : m.type <;> dsimp only
      case beforeTestRunStart =>
        rw [Calls.run_bind, ← begin_eq]
        congr 1; funext r
        rcases r with e | ⟨⟩
        · rfl
        · exact ih
      case testHostLaunched =>
        cases m.payloadAs Payload.testHostLaunched with
        | error e => rfl
        | ok p =>
          simp only [Calls.run, ih]
          rfl
      case afterTestRunEnd => exact finish_eq m
      all_goals rfl

/-! ## What a run of each part tells -/

/-- The notes of a session start with run settings `settings` that ends with `r`. The collectors
are loaded and start their session; when they want test case events, the channel is prepared and,
unless that fails, its task started; then the reply is sent, and how that went is the result. -/
inductive Began (settings : String) : List Note → Except Error Unit → Prop where
  | quiet (r : Except Error Unit) :
      Began settings [.moved .sessionActive, .wanted false, .called (.load settings), .called .sessionStarted,
        .sent .beforeTestRunStartResult r] r
  | unopened (e : Error) :
      Began settings [.moved .sessionActive, .wanted true, .called (.load settings), .called .sessionStarted,
        .channel .prepare, .opened (.error e)] (.error e)
  | opened (port : Nat) (r : Except Error Unit) :
      Began settings [.moved .sessionActive, .wanted true, .called (.load settings), .called .sessionStarted,
        .channel .prepare, .opened (.ok port), .spawned, .sent .beforeTestRunStartResult r] r

def closingNotes : List Note := [.channel .close, .called .dispose, .moved .terminated]

/-- The notes of a session end whose payload says `cancelled`, ending with `r`. A test case task
that failed ends the session with an aggregate of its error; otherwise the collectors end their
session and the reply with their attachments is sent. Either way the session is then ended. -/
inductive Ended (cancelled : Bool) : List Note → Except Error Unit → Prop where
  | untasked (r : Except Error Unit) :
      Ended cancelled ([.moved .awaitingSessionEnd, .task none, .called (.sessionEnded cancelled),
        .sent .afterTestRunEndResult r] ++ closingNotes) r
  | served (t : Nat) (r : Except Error Unit) :
      Ended cancelled ([.moved .awaitingSessionEnd, .task (some t), .ended (.ok ()),
        .called (.sessionEnded cancelled), .sent .afterTestRunEndResult r] ++ closingNotes) r
  | failed (t : Nat) (e : Error) :
      Ended cancelled ([.moved .awaitingSessionEnd, .task (some t), .ended (.error e)] ++ closingNotes)
        (.error (.aggregate [e]))

theorem openCalls_notes {b : Bool} {ns : List Note} {port : Except Error Nat} (h : (openCalls b).Notes ns port) :
    (b = false ∧ ns = [] ∧ port = .ok 0) ∨
    (b = true ∧ ((∃ e, ns = [.channel .prepare, .opened (.error e)] ∧ port = .error e) ∨
      ∃ n, ns = [.channel .prepare, .opened (.ok n), .spawned] ∧ port = .ok n)) := by
  cases b with
  | false =>
    simp only [openCalls, Calls.notes_done] at h
    exact .inl ⟨rfl, h⟩
  | true =>
    simp only [openCalls, Calls.notes_call] at h
    obtain ⟨_, _, rfl, cs, ns', rfl, h⟩ := h
    rcases cs with ⟨n, _ | e, _, _, _⟩
    · simp only [Calls.notes_call, Calls.notes_done] at h
      obtain ⟨_, _, rfl, rfl, rfl⟩ := h
      exact .inr ⟨rfl, .inr ⟨n, rfl, rfl⟩⟩
    · simp only [Calls.notes_done] at h
      obtain ⟨rfl, rfl⟩ := h
      exact .inr ⟨rfl, .inl ⟨e, rfl, rfl⟩⟩

theorem beginCalls_notes {m : Message} {p : Json} (hp : m.payloadAs Payload.beforeTestRunStart = .ok p)
    {ns : List Note} {r : Except Error Unit} (h : (beginCalls m).Notes ns r) : Began (settingsOf p) ns r := by
  simp only [beginCalls, hp, Calls.notes_call, Calls.notes_bind] at h
  obtain ⟨_, _, rfl, script, _, rfl, _, _, rfl, _, _, rfl, ns₁, port, ns₂, rfl, ho, hr⟩ := h
  rcases openCalls_notes ho with ⟨hb, rfl, rfl⟩ | ⟨hb, ⟨e, rfl, rfl⟩ | ⟨n, rfl, rfl⟩⟩
  · simp only [Calls.notes_call, Calls.notes_done] at hr
    obtain ⟨_, _, rfl, rfl, rfl⟩ := hr
    rw [hb]
    exact .quiet _
  · simp only [Calls.notes_done] at hr
    obtain ⟨rfl, rfl⟩ := hr
    rw [hb]
    exact .unopened e
  · simp only [Calls.notes_call, Calls.notes_done] at hr
    obtain ⟨_, _, rfl, rfl, rfl⟩ := hr
    rw [hb]
    exact .opened n _

theorem terminateCalls_notes {ns : List Note} {u : Unit} (h : terminateCalls.Notes ns u) : ns = closingNotes := by
  simp only [terminateCalls, Calls.notes_call, Calls.notes_done] at h
  obtain ⟨_, _, rfl, _, _, rfl, _, _, rfl, rfl, -⟩ := h
  rfl

theorem finishCalls_notes {m : Message} {p : Json} (hp : m.payloadAs Payload.afterTestRunEnd = .ok p)
    {ns : List Note} {r : Except Error Unit} (h : (finishCalls m).Notes ns r) : Ended (cancelledOf p) ns r := by
  simp only [finishCalls, hp, Calls.notes_call] at h
  obtain ⟨_, _, rfl, task, _, rfl, h⟩ := h
  cases task with
  | none =>
    simp only [Calls.notes_call, Calls.notes_bind, Calls.notes_done] at h
    obtain ⟨_, _, rfl, r', _, rfl, ns₁, _, ns₂, rfl, hc, rfl, rfl⟩ := h
    rw [terminateCalls_notes hc]
    exact .untasked _
  | some t =>
    simp only [Calls.notes_call] at h
    obtain ⟨outcome, _, rfl, h⟩ := h
    cases ho : caseOutcome t outcome with
    | error e =>
      simp only [ho, Calls.notes_bind, Calls.notes_done] at h ⊢
      obtain ⟨ns₁, _, ns₂, rfl, hc, rfl, rfl⟩ := h
      rw [terminateCalls_notes hc]
      exact .failed t e
    | ok u =>
      simp only [ho, Calls.notes_call, Calls.notes_bind, Calls.notes_done] at h ⊢
      obtain ⟨_, _, rfl, r', _, rfl, ns₁, _, ns₂, rfl, hc, rfl, rfl⟩ := h
      rw [terminateCalls_notes hc]
      exact .served t _

/-! ## The serving loop -/

/-- The payload a session reads from a message of a type it serves; nothing for a type it does
not serve. -/
def servedShape : MessageType → Option Json.Shape
  | .beforeTestRunStart => some Payload.beforeTestRunStart
  | .testHostLaunched => some Payload.testHostLaunched
  | .afterTestRunEnd => some Payload.afterTestRunEnd
  | _ => none

/-- The notes of the `n` messages that kept a session going, in order: session starts that went
well, and reports of a launched test host passed on to the collectors. -/
inductive Kept : List Note → Nat → Prop where
  | nil : Kept [] 0
  | started {m : Message} {p : Json} {ns rest : List Note} {n : Nat} (ht : m.type = .beforeTestRunStart)
      (hp : m.payloadAs Payload.beforeTestRunStart = .ok p) (hb : Began (settingsOf p) ns (.ok ()))
      (h : Kept rest n) : Kept (.received (.ok m) :: ns ++ rest) (n + 1)
  | launched {m : Message} {p : Json} {rest : List Note} {n : Nat} (ht : m.type = .testHostLaunched)
      (hp : m.payloadAs Payload.testHostLaunched = .ok p) (h : Kept rest n) :
      Kept (.received (.ok m) :: .called (.hostLaunched (launchedOf p)) :: rest) (n + 1)

/-- How serving stops after `n` messages kept the session going, with fuel for `fuel` messages:
at a failed receive, with its error; at a message of a type it does not serve; at a malformed
payload, with the protocol error; at a session start that could not open the test case channel
or send its reply, with that error; at a well-formed session end, as the end went; or, the fuel
spent, as if the connection had closed. -/
inductive Stops (fuel n : Nat) : List Note → Except Error Unit → Prop where
  | failed (e : Error) : Stops fuel n [.received (.error e)] (.error e)
  | unexpected {m : Message} (ht : servedShape m.type = none) :
      Stops fuel n [.received (.ok m)] (.error (.unexpectedMessage m.type.name))
  | malformed {m : Message} {s : Json.Shape} {msg : String} (ht : servedShape m.type = some s)
      (hp : m.payloadAs s = .error (.protocol msg)) : Stops fuel n [.received (.ok m)] (.error (.protocol msg))
  | unstarted {m : Message} {p : Json} {ns : List Note} {e : Error} (ht : m.type = .beforeTestRunStart)
      (hp : m.payloadAs Payload.beforeTestRunStart = .ok p) (hb : Began (settingsOf p) ns (.error e)) :
      Stops fuel n (.received (.ok m) :: ns) (.error e)
  | ended {m : Message} {p : Json} {ns : List Note} {r : Except Error Unit} (ht : m.type = .afterTestRunEnd)
      (hp : m.payloadAs Payload.afterTestRunEnd = .ok p) (he : Ended (cancelledOf p) ns r) :
      Stops fuel n (.received (.ok m) :: ns) r
  | spent (h : n = fuel) : Stops fuel n [] (.error .connectionClosed)

theorem payloadAs_error {m : Message} {s : Json.Shape} {e : Error} (h : m.payloadAs s = .error e) :
    ∃ msg, e = .protocol msg := by
  unfold Message.payloadAs at h
  split at h
  · cases h
  · cases h
    exact ⟨_, rfl⟩

theorem Stops.succ {fuel n : Nat} {tail : List Note} {r : Except Error Unit} (h : Stops fuel n tail r) :
    Stops (fuel + 1) (n + 1) tail r := by
  cases h with
  | failed e => exact .failed e
  | unexpected ht => exact .unexpected ht
  | malformed ht hp => exact .malformed ht hp
  | unstarted ht hp hb => exact .unstarted ht hp hb
  | ended ht hp he => exact .ended ht hp he
  | spent h => exact .spent (by rw [h])

theorem serveCalls_notes {fuel : Nat} {ns : List Note} {r : Except Error Unit}
    (h : (serveCalls fuel).Notes ns r) : ∃ pre n tail, Kept pre n ∧ ns = pre ++ tail ∧ Stops fuel n tail r := by
  induction fuel generalizing ns with
  | zero =>
    simp only [serveCalls, Calls.notes_done] at h
    obtain ⟨rfl, rfl⟩ := h
    exact ⟨[], 0, [], .nil, rfl, .spent rfl⟩
  | succ fuel ih =>
    simp only [serveCalls, Calls.notes_call] at h
    obtain ⟨received, ns', rfl, h⟩ := h
    cases received with
    | error e =>
      simp only [Calls.notes_done] at h
      obtain ⟨rfl, rfl⟩ := h
      exact ⟨[], 0, _, .nil, rfl, .failed e⟩
    | ok m =>
      dsimp only at h
      cases ht : m.type
      case beforeTestRunStart =>
        rw [ht, Calls.notes_bind] at h
        obtain ⟨ns₁, started, ns₂, rfl, hb, h⟩ := h
        cases hp : m.payloadAs Payload.beforeTestRunStart with
        | error e =>
          simp only [beginCalls, hp, Calls.notes_done] at hb
          obtain ⟨rfl, rfl⟩ := hb
          simp only [Calls.notes_done] at h
          obtain ⟨rfl, rfl⟩ := h
          obtain ⟨msg, rfl⟩ := payloadAs_error hp
          exact ⟨[], 0, _, .nil, rfl, .malformed (by rw [ht]; rfl) hp⟩
        | ok p =>
          have hb := beginCalls_notes hp hb
          cases started with
          | error e =>
            simp only [Calls.notes_done] at h
            obtain ⟨rfl, rfl⟩ := h
            exact ⟨[], 0, _, .nil, by simp, .unstarted ht hp hb⟩
          | ok u =>
            -- the session start went well: serving goes on with the next message
            obtain ⟨pre, n, tail, hk, rfl, hs⟩ := ih h
            exact ⟨_, n + 1, tail, .started ht hp hb hk, by simp, hs.succ⟩
      case testHostLaunched =>
        rw [ht] at h
        cases hp : m.payloadAs Payload.testHostLaunched with
        | error e =>
          simp only [hp, Calls.notes_done] at h
          obtain ⟨rfl, rfl⟩ := h
          obtain ⟨msg, rfl⟩ := payloadAs_error hp
          exact ⟨[], 0, _, .nil, rfl, .malformed (by rw [ht]; rfl) hp⟩
        | ok p =>
          simp only [hp, Calls.notes_call] at h
          obtain ⟨_, ns'', rfl, h⟩ := h
          obtain ⟨pre, n, tail, hk, rfl, hs⟩ := ih h
          exact ⟨_, n + 1, tail, .launched ht hp hk, by simp, hs.succ⟩
      case afterTestRunEnd =>
        rw [ht] at h
        cases hp : m.payloadAs Payload.afterTestRunEnd with
        | error e =>
          simp only [finishCalls, hp, Calls.notes_done] at h
          obtain ⟨rfl, rfl⟩ := h
          obtain ⟨msg, rfl⟩ := payloadAs_error hp
          exact ⟨[], 0, _, .nil, rfl, .malformed (by rw [ht]; rfl) hp⟩
        | ok p => exact ⟨[], 0, _, .nil, rfl, .ended ht hp (finishCalls_notes hp h)⟩
      all_goals
        rw [ht] at h
        simp only [Calls.notes_done] at h
        obtain ⟨rfl, rfl⟩ := h
        have hs : Stops (fuel + 1) 0 [.received (.ok m)] _ := .unexpected (by rw [ht]; rfl)
        rw [ht] at hs
        exact ⟨[], 0, _, .nil, rfl, hs⟩

/-! ## Ending a session -/

def Note.endsSession : Note → Bool
  | .received (.ok m) => m.type == .afterTestRunEnd && (m.payloadAs Payload.afterTestRunEnd).toBool
  | _ => false

def Note.disposes : Note → Bool
  | .called .dispose => true
  | _ => false

def Note.closes : Note → Bool
  | .channel .close => true
  | _ => false

def Note.terminates : Note → Bool
  | .moved .terminated => true
  | _ => false

def Note.answersEnd : Note → Bool
  | .called c => (c matches .sessionEnded _)
  | .sent t _ => t == .afterTestRunEndResult
  | _ => false

/-- A note of a session still going: nothing that ends the session, awaits its test case task or
answers its end. -/
def Note.Going : Note → Prop
  | .received (.ok m) => m.type ≠ .afterTestRunEnd
  | .received (.error _) => False
  | .moved s => s = .sessionActive
  | .called (.load _) | .called .sessionStarted | .called (.hostLaunched _) => True
  | .called (.caseStarted _) | .called (.caseEnded _) | .called (.sessionEnded _) | .called .dispose => False
  | .channel c => c = .prepare
  | .wanted _ | .opened _ | .spawned => True
  | .task _ | .ended _ => False
  | .sent t _ => t = .beforeTestRunStartResult

theorem Note.Going.quiet {x : Note} (h : x.Going) :
    x.endsSession = false ∧ x.answersEnd = false ∧ x.disposes = false ∧ x.closes = false ∧
      x.terminates = false := by
  cases x with
  | received r =>
    cases r with
    | error e => simp [Note.Going] at h
    | ok m =>
      simp only [Note.Going] at h
      simp [Note.endsSession, Note.answersEnd, Note.disposes, Note.closes, Note.terminates, h]
  | moved s =>
    simp only [Note.Going] at h
    simp [Note.endsSession, Note.answersEnd, Note.disposes, Note.closes, Note.terminates, h]
  | called c =>
    cases c <;> simp [Note.Going] at h <;>
      simp [Note.endsSession, Note.answersEnd, Note.disposes, Note.closes, Note.terminates]
  | channel c =>
    simp only [Note.Going] at h
    simp [Note.endsSession, Note.answersEnd, Note.disposes, Note.closes, Note.terminates, h]
  | sent t r =>
    simp only [Note.Going] at h
    simp [Note.endsSession, Note.answersEnd, Note.disposes, Note.closes, Note.terminates, h]
  | task t | ended o => simp [Note.Going] at h
  | wanted b | opened p | spawned =>
    simp [Note.endsSession, Note.answersEnd, Note.disposes, Note.closes, Note.terminates]

theorem Began.going {settings : String} {ns : List Note} {r : Except Error Unit} (h : Began settings ns r) :
    ∀ x ∈ ns, x.Going := by
  cases h <;> simp [Note.Going]

theorem Kept.going {pre : List Note} {n : Nat} (h : Kept pre n) : ∀ x ∈ pre, x.Going := by
  induction h with
  | nil => simp
  | started ht _ hb _ ih =>
    intro x hx
    rcases List.mem_cons.1 hx with rfl | hx
    · simp [Note.Going, ht]
    · rcases List.mem_append.1 hx with hx | hx
      · exact hb.going x hx
      · exact ih x hx
  | launched ht _ _ ih =>
    intro x hx
    rcases List.mem_cons.1 hx with rfl | hx
    · simp [Note.Going, ht]
    · rcases List.mem_cons.1 hx with rfl | hx
      · simp [Note.Going]
      · exact ih x hx

theorem countP_going {P : Note → Bool} (hP : ∀ x, x.Going → P x = false) {pre : List Note}
    (h : ∀ x ∈ pre, x.Going) (tail : List Note) : (pre ++ tail).countP P = tail.countP P := by
  rw [List.countP_append, List.countP_eq_zero.2 fun x hx => by simp [hP x (h x hx)], Nat.zero_add]

theorem filter_going {P : Note → Bool} (hP : ∀ x, x.Going → P x = false) {pre : List Note}
    (h : ∀ x ∈ pre, x.Going) (tail : List Note) : (pre ++ tail).filter P = tail.filter P := by
  rw [List.filter_append, List.filter_eq_nil_iff.2 fun x hx => by simp [hP x (h x hx)], List.nil_append]

theorem any_going {P : Note → Bool} (hP : ∀ x, x.Going → P x = false) {pre : List Note}
    (h : ∀ x ∈ pre, x.Going) (tail : List Note) : (pre ++ tail).any P = tail.any P := by
  rw [List.any_append, List.any_eq_false.2 fun x hx => by simp [hP x (h x hx)], Bool.false_or]

theorem endsSession_received {m : Message} :
    (Note.received (.ok m)).endsSession = true ↔
      m.type = .afterTestRunEnd ∧ (m.payloadAs Payload.afterTestRunEnd).toBool = true := by
  simp [Note.endsSession]

/-- The notes from the message that stopped serving: the collectors are disposed of, the channel
closed and the session terminated, once each and last, exactly when that message was a
well-formed session end; the collectors end their session at most once, before the reply to the
end, and neither happens when the test case task failed, which the result then reports. -/
theorem Stops.ending {fuel n : Nat} {tail : List Note} {r : Except Error Unit} (h : Stops fuel n tail r) :
    tail.countP Note.disposes = (if tail.any Note.endsSession then 1 else 0) ∧
    tail.countP Note.closes = (if tail.any Note.endsSession then 1 else 0) ∧
    tail.countP Note.terminates = (if tail.any Note.endsSession then 1 else 0) ∧
    (tail.any Note.endsSession → tail.getLast? = some (.moved .terminated)) ∧
    (tail.filter Note.answersEnd = [] ∨
      ∃ c r', tail.filter Note.answersEnd = [.called (.sessionEnded c), .sent .afterTestRunEndResult r']) ∧
    ∀ e, .ended (.error e) ∈ tail → r = .error (.aggregate [e]) ∧ tail.filter Note.answersEnd = [] := by
  cases h with
  | failed e => simp [Note.endsSession, Note.answersEnd, Note.disposes, Note.closes, Note.terminates]
  | @unexpected m ht =>
    have hm : m.type ≠ .afterTestRunEnd := fun h => by simp [h, servedShape] at ht
    simp [Note.endsSession, Note.answersEnd, Note.disposes, Note.closes, Note.terminates, hm]
  | malformed ht hp =>
    rename_i m s msg
    -- a session end among the served types reads its own payload, which here is malformed
    have hm : (Note.received (.ok m)).endsSession = false := by
      rw [Bool.eq_false_iff]
      intro he
      obtain ⟨hat, hok⟩ := endsSession_received.1 he
      rw [hat] at ht
      cases ht
      rw [hp] at hok
      cases hok
    simp [hm, Note.answersEnd, Note.disposes, Note.closes, Note.terminates]
  | unstarted ht hp hb =>
    cases hb <;> simp [Note.endsSession, Note.answersEnd, Note.disposes, Note.closes, Note.terminates, ht]
  | ended ht hp he =>
    cases he <;> simp [Note.endsSession, Note.answersEnd, Note.disposes, Note.closes, Note.terminates, ht, hp,
      closingNotes, Except.toBool, List.filter_cons, List.countP_cons]
  | spent h => simp

/-- Serving a data collection session, whatever the receives, the collectors, the test case
channel and its task answer. The loop is its tree of calls; the messages that kept the session
going come first, in order, and then the one that stopped it, as `Stops` lists. The collectors
are disposed of, the channel closed and the session terminated once each, the session ending in
that state, exactly when a well-formed session end was received, and never otherwise. The
collectors end their session at most once, and then before the reply to the session end; a test
case task that failed instead ends serving with an aggregate of its error, and neither happens. -/
theorem session_served_in_order (fuel : Nat) :
    serve fuel = (serveCalls fuel).run ∧
    ∀ ns r, (serveCalls fuel).Notes ns r →
      (∃ pre n tail, Kept pre n ∧ ns = pre ++ tail ∧ Stops fuel n tail r) ∧
      ns.countP Note.disposes = (if ns.any Note.endsSession then 1 else 0) ∧
      ns.countP Note.closes = (if ns.any Note.endsSession then 1 else 0) ∧
      ns.countP Note.terminates = (if ns.any Note.endsSession then 1 else 0) ∧
      (ns.any Note.endsSession → ns.getLast? = some (.moved .terminated)) ∧
      (ns.filter Note.answersEnd = [] ∨
        ∃ c r', ns.filter Note.answersEnd = [.called (.sessionEnded c), .sent .afterTestRunEndResult r']) ∧
      ∀ e, .ended (.error e) ∈ ns → r = .error (.aggregate [e]) ∧ ns.filter Note.answersEnd = [] := by
  refine ⟨serve_eq fuel, fun ns r hn => ?_⟩
  obtain ⟨pre, n, tail, hk, rfl, hs⟩ := serveCalls_notes hn
  have hg := hk.going
  obtain ⟨hd, hc, ht, hl, ha, hf⟩ := hs.ending
  -- the messages that kept the session going end nothing: all is decided by the rest
  rw [any_going (fun x hx => hx.quiet.1) hg, countP_going (fun x hx => hx.quiet.2.2.1) hg,
    countP_going (fun x hx => hx.quiet.2.2.2.1) hg, countP_going (fun x hx => hx.quiet.2.2.2.2) hg,
    filter_going (fun x hx => hx.quiet.2.1) hg]
  refine ⟨⟨pre, n, tail, hk, rfl, hs⟩, hd, hc, ht, fun he => ?_, ha, fun e he => ?_⟩
  · rw [List.getLast?_append, hl he]
    rfl
  · rcases List.mem_append.1 he with he | he
    · exact absurd (hg _ he) (by simp [Note.Going])
    · exact hf e he

def endMessage : Message := Message.withPayload .afterTestRunEnd (.obj [("is_cancelled", .bool false)])

theorem endMessage_payload :
    endMessage.payloadAs Payload.afterTestRunEnd = .ok (.obj [("is_cancelled", .bool false)]) := by
  simp [endMessage, Message.payloadAs, Message.withPayload, Payload.afterTestRunEnd, Json.check, Json.checkFields,
    Json.fillFields, Json.Shape.field]
  rfl

/-- The notes of a session whose first message is that end, with no test case task, the reply
sent. -/
def endedNotes : List Note :=
  [.received (.ok endMessage), .moved .awaitingSessionEnd, .task none, .called (.sessionEnded false),
   .sent .afterTestRunEndResult (.ok ()), .channel .close, .called .dispose, .moved .terminated]

theorem endedNotes_run : (serveCalls 1).Notes endedNotes (.ok ()) := by
  refine .call (Except.ok endMessage) ?_
  show (finishCalls endMessage).Notes _ _
  simp only [finishCalls, endMessage_payload]
  exact .call () (.call none (.call () (.call (Except.ok ()) (.call () (.call () (.call () (.done _)))))))

/-- Such a session disposes of its collectors once, and ends terminated. -/
theorem sessionEnd_disposes_once :
    (serveCalls 1).Notes endedNotes (.ok ()) ∧ endedNotes.countP Note.disposes = 1 ∧
      endedNotes.getLast? = some (.moved .terminated) := by
  have h := (session_served_in_order 1).2 _ _ endedNotes_run
  have hend : endedNotes.any Note.endsSession = true := by
    simp only [endedNotes, List.any_cons, Note.endsSession, endMessage_payload]
    rfl
  refine ⟨endedNotes_run, ?_, h.2.2.2.2.1 hend⟩
  rw [h.2.1, if_pos hend]

end Collection

end TestConductor
