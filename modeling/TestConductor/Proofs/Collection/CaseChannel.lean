import Mathlib.Data.List.Chain
import TestConductor.Collection.CaseEvents
import TestConductor.Proofs.Runtime.Calls
import TestConductor.Proofs.Protocol.Wire
import TestConductor.World
/-! # Serving the test case event channel

Whatever the collectors and the replies answer, serving the channel reads the messages the test
host sent in the order they arrived, and stops at the first that does not keep it going. Before
that, each message is a well-formed test case start, passed on to the collectors, or a
well-formed test case end, passed on and answered with the attachment sets the collectors gave
(`Relayed`). The last message read, or the failed receive, says how it stopped and with what
result (`Stop`): a session end stops it well, and anything else with its error.
-/
namespace TestConductor

namespace Net

def arrivals (bs : List UInt8) : List (Except Error Message) :=
  match h : receive bs with
  | (.error e, _) => [.error e]
  | (.ok m, rest) =>
    have := receive_rest_lt h
    .ok m :: arrivals rest
termination_by bs.length

theorem arrivals_of_error {bs rest : List UInt8} {e : Error} (h : receive bs = (.error e, rest)) :
    arrivals bs = [.error e] := by
  rw [arrivals]
  split
  · rename_i heq
    simp only [h, Prod.mk.injEq, Except.error.injEq] at heq
    rw [heq.1]
  · rename_i heq
    simp [h] at heq

theorem arrivals_of_ok {bs rest : List UInt8} {m : Message} (h : receive bs = (.ok m, rest)) :
    arrivals bs = .ok m :: arrivals rest := by
  rw [arrivals]
  split
  · rename_i heq
    simp [h] at heq
  · rename_i heq
    simp only [h, Prod.mk.injEq, Except.ok.injEq] at heq
    obtain ⟨rfl, rfl⟩ := heq
    rfl

end Net

namespace CaseEvents

/-- What a step of serving the channel tells an observer. -/
inductive Note where
  /-- A receive, with what it gave. -/
  | received (r : Except Error Message)
  /-- The collectors told of a test case start. -/
  | started (event : Json)
  /-- The collectors told of a test case end, and the attachment sets they gave. -/
  | ended (event : Json) (sets : List AttachmentSet)
  /-- A reply sent to the test host, and how the sending went. -/
  | sent (m : Message) (r : Except Error Unit)

namespace Note

def arrival? : Note → Option (Except Error Message)
  | .received r => some r
  | .started _ => none
  | .ended _ _ => none
  | .sent _ _ => none

/-- The call to the collectors a note records: the type of the message passed on, and its
event. -/
def event? : Note → Option (MessageType × Json)
  | .started ev => some (.testCaseStart, ev)
  | .ended ev _ => some (.testCaseEnd, ev)
  | .received _ => none
  | .sent _ _ => none

/-- What may come right after a note: the reply to a test case end, carrying the attachment sets
the collectors gave, comes right after the end and nowhere else, and after a reply comes the next
receive. -/
def Follows : Note → Note → Prop
  | .ended _ sets, b => ∃ r, b = .sent (endResult sets) r
  | .sent _ _, b => ∃ r, b = .received r
  | _, .sent _ _ => False
  | _, _ => True

end Note


/-- The call to the collectors that an arrival makes: a well-formed test case start or end, with
its event. -/
def arrivalEvent? : Except Error Message → Option (MessageType × Json)
  | .ok m =>
    if m.type = .testCaseStart ∨ m.type = .testCaseEnd then
      (m.payloadAs Payload.testCaseEvent).toOption.map ((m.type, ·))
    else none
  | .error _ => none

section

variable {S : Sig} (mgr : Manager S) (send : Message → Async S (Except Error Unit))

/-! ## The calls of serving -/

def handleCalls (m : Message) : Calls S Note (Except Error Bool) :=
  match m.type with
  | .testCaseStart =>
    match m.payloadAs Payload.testCaseEvent with
    | .error e => .done (.error e)
    | .ok ev => .call (mgr.started ev) (fun _ => .started ev) fun _ => .done (.ok true)
  | .testCaseEnd =>
    match m.payloadAs Payload.testCaseEvent with
    | .error e => .done (.error e)
    | .ok ev =>
      .call (mgr.ended ev) (.ended ev) fun sets =>
        .call (send (endResult sets)) (.sent (endResult sets)) fun
          | .error e => .done (.error e)
          | .ok () => .done (.ok true)
  | .sessionEnd => .done (.ok false)
  | t => .done (.error (.unexpectedMessage t.name))

def serveCalls (bs : List UInt8) : Calls S Note (Except Error Unit) :=
  match h : Net.receive bs with
  | (.error e, _) => .call (pure ()) (fun _ => .received (.error e)) fun _ => .done (.error e)
  | (.ok m, rest) =>
    have := Net.receive_rest_lt h
    .call (pure ()) (fun _ => .received (.ok m)) fun _ =>
      (handleCalls mgr send m).bind fun
        | .error e => .done (.error e)
        | .ok true => serveCalls rest
        | .ok false => .done (.ok ())
termination_by bs.length

theorem handle_eq (m : Message) : handle mgr send m = (handleCalls mgr send m).run := by
  unfold handle handleCalls
  cases m.type
  case testCaseStart =>
    cases m.payloadAs Payload.testCaseEvent with
    | error e => rfl
    | ok ev => rfl
  case testCaseEnd =>
    cases m.payloadAs Payload.testCaseEvent with
    | error e => rfl
    | ok ev =>
      simp only [Calls.run]
      congr 1; funext sets
      congr 1; funext r
      rcases r with e | ⟨⟩ <;> rfl
  all_goals rfl

section

variable {bs rest : List UInt8}

theorem serve_of_error {e : Error} (h : Net.receive bs = (.error e, rest)) :
    serve mgr send bs = pure (.error e) := by
  rw [serve]
  split
  · rename_i heq
    simp only [h, Prod.mk.injEq, Except.error.injEq] at heq
    rw [heq.1]
  · rename_i heq
    simp [h] at heq

theorem serve_of_ok {m : Message} (h : Net.receive bs = (.ok m, rest)) :
    serve mgr send bs = handle mgr send m >>= fun
      | .error e => pure (.error e)
      | .ok true => serve mgr send rest
      | .ok false => pure (.ok ()) := by
  rw [serve]
  split
  · rename_i heq
    simp [h] at heq
  · rename_i heq
    simp only [h, Prod.mk.injEq, Except.ok.injEq] at heq
    obtain ⟨rfl, rfl⟩ := heq
    rfl

theorem serveCalls_of_error {e : Error} (h : Net.receive bs = (.error e, rest)) :
    serveCalls mgr send bs = .call (pure ()) (fun _ => .received (.error e)) fun _ => .done (.error e) := by
  rw [serveCalls]
  split
  · rename_i heq
    simp only [h, Prod.mk.injEq, Except.error.injEq] at heq
    rw [heq.1]
  · rename_i heq
    simp [h] at heq

theorem serveCalls_of_ok {m : Message} (h : Net.receive bs = (.ok m, rest)) :
    serveCalls mgr send bs = .call (pure ()) (fun _ => .received (.ok m)) fun _ =>
      (handleCalls mgr send m).bind fun
        | .error e => .done (.error e)
        | .ok true => serveCalls mgr send rest
        | .ok false => .done (.ok ()) := by
  rw [serveCalls]
  split
  · rename_i heq
    simp [h] at heq
  · rename_i heq
    simp only [h, Prod.mk.injEq, Except.ok.injEq] at heq
    obtain ⟨rfl, rfl⟩ := heq
    rfl

end

theorem serve_eq (bs : List UInt8) : serve mgr send bs = (serveCalls mgr send bs).run := by
  rcases hr : Net.receive bs with ⟨r, rest⟩
  cases r with
  | error e =>
    rw [serve_of_error mgr send hr, serveCalls_of_error mgr send hr]
    rfl
  | ok m =>
    have := Net.receive_rest_lt hr
    rw [serve_of_ok mgr send hr, serveCalls_of_ok mgr send hr, handle_eq]
    simp only [Calls.run, Calls.run_bind]
    congr 1; funext r
    rcases r with e | ⟨⟩ | ⟨⟩
    · rfl
    · rfl
    · exact serve_eq rest
termination_by bs.length

/-! ## What a run tells -/

/-- The notes of the messages that kept the channel going, in the order they arrived: a
well-formed test case start passed on to the collectors, or a well-formed test case end passed
on and answered with the attachment sets the collectors gave, the reply sent. -/
inductive Relayed : List Note → Prop where
  | nil : Relayed []
  | started {m : Message} {ev : Json} {ns : List Note} (ht : m.type = .testCaseStart)
      (hp : m.payloadAs Payload.testCaseEvent = .ok ev) (h : Relayed ns) :
      Relayed (.received (.ok m) :: .started ev :: ns)
  | ended {m : Message} {ev : Json} {ns : List Note} (sets : List AttachmentSet) (ht : m.type = .testCaseEnd)
      (hp : m.payloadAs Payload.testCaseEvent = .ok ev) (h : Relayed ns) :
      Relayed (.received (.ok m) :: .ended ev sets :: .sent (endResult sets) (.ok ()) :: ns)

/-- How serving stops, with the notes from the last receive on and the result: at a failed
receive, with its error; at a session end, well; at a message of a type the channel does not
serve; at a test case start or end whose payload is no test case event, with the protocol
error; or at a test case end whose reply could not be sent, with that error. -/
inductive Stop : List Note → Except Error Unit → Prop where
  | failed (e : Error) : Stop [.received (.error e)] (.error e)
  | sessionEnd {m : Message} (ht : m.type = .sessionEnd) : Stop [.received (.ok m)] (.ok ())
  | unexpected {m : Message} (ht : m.type ∉ [.testCaseStart, .testCaseEnd, .sessionEnd]) :
      Stop [.received (.ok m)] (.error (.unexpectedMessage m.type.name))
  | malformed {m : Message} {e : Error} (ht : m.type = .testCaseStart ∨ m.type = .testCaseEnd)
      (hp : m.payloadAs Payload.testCaseEvent = .error e) : Stop [.received (.ok m)] (.error e)
  | unsent {m : Message} {ev : Json} {e : Error} (sets : List AttachmentSet) (ht : m.type = .testCaseEnd)
      (hp : m.payloadAs Payload.testCaseEvent = .ok ev) :
      Stop [.received (.ok m), .ended ev sets, .sent (endResult sets) (.error e)] (.error e)

/-- Handling one message reads nothing more. The message either keeps the channel going, which
the handler answers with `true`, and its notes relay it; or it stops the channel, with the notes
and the result `Stop` gives. -/
theorem handleCalls_notes {m : Message} {ns : List Note} {r : Except Error Bool}
    (h : (handleCalls mgr send m).Notes ns r) :
    ns.filterMap Note.arrival? = [] ∧
      ((r = .ok true ∧ ∀ rest, Relayed rest → Relayed (.received (.ok m) :: ns ++ rest)) ∨
        (r ≠ .ok true ∧ Stop (.received (.ok m) :: ns) (r.map fun _ => ()))) := by
  unfold handleCalls at h
  cases ht : m.type
  case testCaseStart =>
    rw [ht] at h
    cases hp : m.payloadAs Payload.testCaseEvent with
    | error e =>
      simp only [hp, Calls.notes_done] at h
      obtain ⟨rfl, rfl⟩ := h
      exact ⟨rfl, .inr ⟨by simp, .malformed (.inl ht) hp⟩⟩
    | ok ev =>
      simp only [hp, Calls.notes_call, Calls.notes_done] at h
      obtain ⟨_, _, rfl, rfl, rfl⟩ := h
      exact ⟨rfl, .inl ⟨rfl, fun rest hr => .started ht hp hr⟩⟩
  case testCaseEnd =>
    rw [ht] at h
    cases hp : m.payloadAs Payload.testCaseEvent with
    | error e =>
      simp only [hp, Calls.notes_done] at h
      obtain ⟨rfl, rfl⟩ := h
      exact ⟨rfl, .inr ⟨by simp, .malformed (.inr ht) hp⟩⟩
    | ok ev =>
      simp only [hp, Calls.notes_call] at h
      obtain ⟨sets, _, rfl, sent, _, rfl, h⟩ := h
      -- the reply to the end decides: sent, the channel goes on; not sent, it stops
      rcases sent with e | ⟨⟩
      · simp only [Calls.notes_done] at h
        obtain ⟨rfl, rfl⟩ := h
        exact ⟨rfl, .inr ⟨by simp, .unsent sets ht hp⟩⟩
      · simp only [Calls.notes_done] at h
        obtain ⟨rfl, rfl⟩ := h
        exact ⟨rfl, .inl ⟨rfl, fun rest hr => .ended sets ht hp hr⟩⟩
  case sessionEnd =>
    rw [ht] at h
    simp only [Calls.notes_done] at h
    obtain ⟨rfl, rfl⟩ := h
    exact ⟨rfl, .inr ⟨by simp, .sessionEnd ht⟩⟩
  all_goals
    rw [ht] at h
    simp only [Calls.notes_done] at h
    obtain ⟨rfl, rfl⟩ := h
    have hs : Stop [.received (.ok m)] _ := .unexpected (by rw [ht]; simp)
    rw [ht] at hs
    exact ⟨rfl, .inr ⟨by simp, hs⟩⟩

theorem serveCalls_notes (bs : List UInt8) {ns : List Note} {r : Except Error Unit}
    (h : (serveCalls mgr send bs).Notes ns r) :
    (∃ pre tail, Relayed pre ∧ Stop tail r ∧ ns = pre ++ tail) ∧
      ns.filterMap Note.arrival? <+: Net.arrivals bs := by
  rcases hr : Net.receive bs with ⟨received, rest⟩
  cases received with
  | error e =>
    rw [serveCalls_of_error mgr send hr] at h
    simp only [Calls.notes_call, Calls.notes_done] at h
    obtain ⟨_, _, rfl, rfl, rfl⟩ := h
    rw [Net.arrivals_of_error hr]
    exact ⟨⟨[], _, .nil, .failed e, rfl⟩, List.prefix_refl _⟩
  | ok m =>
    have := Net.receive_rest_lt hr
    rw [serveCalls_of_ok mgr send hr] at h
    simp only [Calls.notes_call, Calls.notes_bind] at h
    obtain ⟨_, _, rfl, ns₁, handled, ns₂, rfl, h₁, h₂⟩ := h
    obtain ⟨hquiet, hgo | ⟨hstop, hs⟩⟩ := handleCalls_notes mgr send h₁
    · -- the message kept the channel going: the rest is a run over the bytes after it
      obtain ⟨rfl, hrelay⟩ := hgo
      obtain ⟨⟨pre, tail, hpre, htail, rfl⟩, hprefix⟩ := serveCalls_notes rest h₂
      refine ⟨⟨_, tail, hrelay pre hpre, htail, by simp⟩, ?_⟩
      rw [Net.arrivals_of_ok hr]
      simpa [Note.arrival?, hquiet] using hprefix
    · -- the message stopped the channel: nothing more is received
      have hdone : ns₂ = [] ∧ r = handled.map fun _ => () := by
        rcases handled with e | ⟨⟩ | ⟨⟩
        · exact Calls.notes_done.1 h₂
        · exact Calls.notes_done.1 h₂
        · exact absurd rfl hstop
      obtain ⟨rfl, rfl⟩ := hdone
      refine ⟨⟨[], _, .nil, hs, by simp⟩, ?_⟩
      rw [Net.arrivals_of_ok hr]
      simp [Note.arrival?, hquiet]
termination_by bs.length

end

/-! ## The claims of a run -/

theorem Relayed.calls {pre : List Note} (h : Relayed pre) :
    pre.filterMap Note.event? = (pre.filterMap Note.arrival?).filterMap arrivalEvent? := by
  induction h with
  | nil => rfl
  | started ht hp _ ih =>
    simp only [List.filterMap_cons, Note.event?, Note.arrival?]
    simp [arrivalEvent?, ht, hp, Except.toOption, ih]
  | ended sets ht hp _ ih =>
    simp only [List.filterMap_cons, Note.event?, Note.arrival?]
    simp [arrivalEvent?, ht, hp, Except.toOption, ih]

theorem Stop.calls {tail : List Note} {r : Except Error Unit} (h : Stop tail r) :
    tail.filterMap Note.event? = (tail.filterMap Note.arrival?).filterMap arrivalEvent? := by
  cases h <;> simp only [List.filterMap_cons, List.filterMap_nil, Note.event?, Note.arrival?]
  case failed => rfl
  case sessionEnd ht => simp [arrivalEvent?, ht]
  case unexpected m ht =>
    have hs : ¬(m.type = .testCaseStart ∨ m.type = .testCaseEnd) := fun h => ht (by rcases h with h | h <;> simp [h])
    simp [arrivalEvent?, hs]
  case malformed ht hp => simp [arrivalEvent?, ht, hp, Except.toOption]
  case unsent ht hp => simp [arrivalEvent?, ht, hp, Except.toOption]

def StartsReading (ns : List Note) : Prop := ∀ x ∈ ns.head?, ∃ a, x = .received a

theorem Relayed.isChain {pre tail : List Note} (h : Relayed pre) (ht : tail.IsChain Note.Follows)
    (hs : StartsReading tail) : (pre ++ tail).IsChain Note.Follows ∧ StartsReading (pre ++ tail) := by
  induction h with
  | nil => exact ⟨ht, hs⟩
  | started _ _ _ ih =>
    obtain ⟨hc, hr⟩ := ih
    refine ⟨?_, by simp [StartsReading]⟩
    rw [List.cons_append, List.cons_append, List.isChain_cons_cons, List.isChain_cons]
    refine ⟨trivial, fun y hy => ?_, hc⟩
    obtain ⟨a, rfl⟩ := hr y hy
    trivial
  | ended sets _ _ _ ih =>
    obtain ⟨hc, hr⟩ := ih
    refine ⟨?_, by simp [StartsReading]⟩
    rw [List.cons_append, List.cons_append, List.cons_append, List.isChain_cons_cons, List.isChain_cons_cons,
      List.isChain_cons]
    refine ⟨trivial, ⟨_, rfl⟩, fun y hy => ?_, hc⟩
    obtain ⟨a, rfl⟩ := hr y hy
    exact ⟨a, rfl⟩

theorem Stop.isChain {tail : List Note} {r : Except Error Unit} (h : Stop tail r) :
    tail.IsChain Note.Follows ∧ StartsReading tail ∧ ∀ ev sets, tail.getLast? ≠ some (.ended ev sets) := by
  cases h with
  | unsent sets ht hp =>
    refine ⟨?_, by simp [StartsReading], by simp⟩
    rw [List.isChain_cons_cons, List.isChain_cons_cons]
    exact ⟨trivial, ⟨_, rfl⟩, .singleton _⟩
  | failed e | sessionEnd ht | unexpected ht | malformed ht hp => exact ⟨.singleton _, by simp [StartsReading], by simp⟩

theorem Stop.ne_nil {tail : List Note} {r : Except Error Unit} (h : Stop tail r) : tail ≠ [] := by
  cases h <;> simp

theorem Stop.ok_iff {tail : List Note} {r : Except Error Unit} (h : Stop tail r) :
    r = .ok () ↔ ∃ m, m.type = .sessionEnd ∧ tail.getLast? = some (.received (.ok m)) := by
  cases h with
  | failed e => simp
  | sessionEnd ht => simpa using ht
  | @unexpected m ht =>
    have hs : m.type ≠ .sessionEnd := fun h => ht (by simp [h])
    simpa using hs
  | @malformed m e ht hp =>
    have hs : m.type ≠ .sessionEnd := by rcases ht with ht | ht <;> rw [ht] <;> decide
    simpa using hs
  | unsent sets ht hp => simp

/-- The test case event channel, whatever the collectors and the replies answer. Without a
connection, serving fails at once as not connected, and calls nothing. Over a connection, serving
is its tree of calls, and every run of it reads a prefix of what the test host's bytes give, in
order: messages relayed, then the stop (`Relayed`, `Stop`). The collectors are told of the
well-formed test case starts and ends among the messages read, once each and in the order they
arrived. The run starts by reading, and a reply comes right after each test case end, carrying
the attachment sets the collectors gave, and nowhere else; after a reply the next message is read,
and no end is left unanswered. Serving ends well exactly when the last thing read was a session
end; otherwise it ends with the error of the stop. -/
theorem events_relayed_in_order {S : Sig} (mgr : Manager S) :
    process mgr none = pure (.error notConnected) ∧
    ∀ c : Connection S, process mgr (some c) = (serveCalls mgr c.send c.incoming).run ∧
      ∀ ns r, (serveCalls mgr c.send c.incoming).Notes ns r →
        (∃ pre tail, Relayed pre ∧ Stop tail r ∧ ns = pre ++ tail) ∧
        ns.filterMap Note.arrival? <+: Net.arrivals c.incoming ∧
        ns.filterMap Note.event? = (ns.filterMap Note.arrival?).filterMap arrivalEvent? ∧
        StartsReading ns ∧ ns.IsChain Note.Follows ∧ (∀ ev sets, ns.getLast? ≠ some (.ended ev sets)) ∧
        (r = .ok () ↔ ∃ m, m.type = .sessionEnd ∧ ns.getLast? = some (.received (.ok m))) := by
  refine ⟨rfl, fun c => ⟨serve_eq mgr c.send c.incoming, fun ns r h => ?_⟩⟩
  obtain ⟨⟨pre, tail, hpre, htail, rfl⟩, hprefix⟩ := serveCalls_notes mgr c.send c.incoming h
  obtain ⟨hchain, hstarts, hanswered⟩ := htail.isChain
  obtain ⟨hchain', hstarts'⟩ := hpre.isChain hchain hstarts
  -- the stop is never empty, so it holds the last note of the run
  have hlast : (pre ++ tail).getLast? = tail.getLast? := List.getLast?_append_of_ne_nil _ htail.ne_nil
  refine ⟨⟨pre, tail, hpre, htail, rfl⟩, hprefix, ?_, hstarts', hchain', ?_, ?_⟩
  · rw [List.filterMap_append, List.filterMap_append, List.filterMap_append, hpre.calls, htail.calls]
  · rw [hlast]
    exact hanswered
  · rw [hlast]
    exact htail.ok_iff

def quietManager : Manager conductor := ⟨fun _ => pure (), fun _ => pure []⟩

def caseEvent : Json :=
  .obj [("test_case_id", .str "00000000-0000-0000-0000-000000000001"), ("test_case_name", .str "t")]

def caseEventRead : Json :=
  .obj [("test_case_id", .str "00000000-0000-0000-0000-000000000001"), ("test_case_name", .str "t"),
    ("outcome", .null), ("is_child_test_case", .bool false)]

theorem caseEvent_reads (t : MessageType) :
    (Message.withPayload t caseEvent).payloadAs Payload.testCaseEvent = .ok caseEventRead := by
  have hid : Uuid.parse "00000000-0000-0000-0000-000000000001" = .ok ⟨1⟩ := by decide
  simp [caseEvent, caseEventRead, Message.payloadAs, Message.withPayload, Payload.testCaseEvent, Json.check,
    Json.checkFields, Json.fillFields, Json.Shape.field, Json.Shape.defField, List.lookup_cons, Uuid.shape, hid]
  rfl

theorem caseEvent_readable (t : MessageType) : (Message.withPayload t caseEvent).Readable := by
  refine ⟨⟨List.pairwise_pair.2 ?_, trivial, trivial, trivial⟩, (by decide : Json.depth caseEvent < Json.depthLimit - 1),
    (by decide : Message.current < 2 ^ 32)⟩
  rw [String.lt_iff_toList_lt]
  decide

/-- A connection whose test host reports the start and the end of one test case, then ends the
session, and takes every reply. -/
def oneCase : Connection conductor :=
  ⟨Net.frame (Message.withPayload .testCaseStart caseEvent) ++
      (Net.frame (Message.withPayload .testCaseEnd caseEvent) ++ Net.frame (Message.ofType .sessionEnd)),
    fun _ => pure (.ok ())⟩

/-- What serving that connection to quiet collectors notes: the start passed on, the end passed
on and answered with no attachment sets, and the session end. -/
def oneCaseNotes : List Note :=
  [.received (.ok (Message.withPayload .testCaseStart caseEvent)), .started caseEventRead,
   .received (.ok (Message.withPayload .testCaseEnd caseEvent)), .ended caseEventRead [],
   .sent (endResult []) (.ok ()), .received (.ok (Message.ofType .sessionEnd))]

/-- Served to quiet collectors, that connection relays the start and the end, the reply right
after the end, and ends well at the session end. -/
theorem oneCase_relayed :
    (serveCalls quietManager oneCase.send oneCase.incoming).Notes oneCaseNotes (.ok ()) ∧
      oneCaseNotes.filterMap Note.arrival? <+: Net.arrivals oneCase.incoming ∧
      oneCaseNotes.IsChain Note.Follows := by
  have hend : Net.receive (Net.frame (Message.ofType .sessionEnd)) = (.ok (Message.ofType .sessionEnd), []) := by
    have h := Net.receive_frame (m := Message.ofType .sessionEnd) ⟨trivial, by decide, by decide⟩ rfl []
    rwa [List.append_nil] at h
  have hstart : Net.receive oneCase.incoming = (.ok (Message.withPayload .testCaseStart caseEvent),
      Net.frame (Message.withPayload .testCaseEnd caseEvent) ++ Net.frame (Message.ofType .sessionEnd)) :=
    Net.receive_frame (caseEvent_readable _) rfl _
  have hn : (serveCalls quietManager oneCase.send oneCase.incoming).Notes oneCaseNotes (.ok ()) := by
    rw [serveCalls_of_ok _ _ hstart]
    refine .call () (Calls.notes_bind.2 ⟨[.started caseEventRead], .ok true, _, rfl, ?_, ?_⟩)
    · unfold handleCalls
      rw [caseEvent_reads]
      exact .call () (.done _)
    rw [serveCalls_of_ok _ _ (Net.receive_frame (caseEvent_readable _) rfl _)]
    refine .call () (Calls.notes_bind.2 ⟨[.ended caseEventRead [], .sent (endResult []) (.ok ())], .ok true, _, rfl, ?_, ?_⟩)
    · unfold handleCalls
      rw [caseEvent_reads]
      exact .call [] (.call (Except.ok ()) (.done _))
    rw [serveCalls_of_ok _ _ hend]
    exact .call () (.done _)
  obtain ⟨-, hprefix, -, -, hchain, -⟩ := ((events_relayed_in_order quietManager).2 oneCase).2 _ _ hn
  exact ⟨hn, hprefix, hchain⟩

end CaseEvents

end TestConductor
