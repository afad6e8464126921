import TestConductor.Proofs.Collection.Serving
/-! # The test case tasks of a session

A session start whose collectors want test case events opens the test case channel and starts a
task to serve it, keeping the task in the one slot the session has for it, where a later start
puts its own task instead. The session end takes what the slot holds and awaits it.
-/
namespace TestConductor

namespace Collection

def Note.opensChannel : Note → Bool
  | .opened (.ok _) => true
  | _ => false

def Note.spawns : Note → Bool
  | .spawned => true
  | _ => false

def Note.awaited : Note → Bool
  | .ended _ => true
  | _ => false

/-! ## One part at a time -/

theorem Began.spawns_eq_opens {settings : String} {ns : List Note} {r : Except Error Unit}
    (h : Began settings ns r) : ns.countP Note.spawns = ns.countP Note.opensChannel := by
  cases h <;> rfl

theorem Began.awaited_eq_zero {settings : String} {ns : List Note} {r : Except Error Unit}
    (h : Began settings ns r) : ns.countP Note.awaited = 0 := by
  cases h <;> rfl

theorem Kept.tasks {pre : List Note} {n : Nat} (h : Kept pre n) :
    pre.countP Note.spawns = pre.countP Note.opensChannel ∧ pre.countP Note.awaited = 0 := by
  induction h with
  | nil => exact ⟨rfl, rfl⟩
  | started _ _ hb _ ih =>
    simp [List.countP_append, hb.spawns_eq_opens, hb.awaited_eq_zero, ih.1, ih.2, Note.spawns, Note.opensChannel,
      Note.awaited]
  | launched _ _ _ ih => simp [ih.1, ih.2, Note.spawns, Note.opensChannel, Note.awaited]

theorem Stops.tasks {fuel n : Nat} {tail : List Note} {r : Except Error Unit} (h : Stops fuel n tail r) :
    tail.countP Note.spawns = tail.countP Note.opensChannel ∧ tail.countP Note.awaited ≤ 1 ∧
      (r = .ok () → ∀ o, .ended o ∈ tail → o = .ok ()) := by
  cases h with
  | unstarted _ _ hb =>
    -- a start that went wrong awaits nothing
    refine ⟨?_, ?_, fun hr => by cases hr⟩
    · simp [hb.spawns_eq_opens, Note.spawns, Note.opensChannel]
    · simp [hb.awaited_eq_zero, Note.awaited]
  | ended _ _ he =>
    cases he with
    | untasked r' => exact ⟨rfl, by simp [closingNotes, Note.awaited], fun _ o ho => by simp [closingNotes] at ho⟩
    | served t r' =>
      exact ⟨rfl, by simp [closingNotes, Note.awaited, List.countP_cons], fun _ o ho => by
        simpa [closingNotes, eq_comm] using ho⟩
    | failed t e => exact ⟨rfl, by simp [closingNotes, Note.awaited, List.countP_cons], fun hr => by cases hr⟩
  | failed e => exact ⟨rfl, by simp [Note.awaited], fun hr => by cases hr⟩
  | unexpected ht => exact ⟨rfl, by simp [Note.awaited], fun hr => by cases hr⟩
  | malformed ht hp => exact ⟨rfl, by simp [Note.awaited], fun hr => by cases hr⟩
  | spent h => exact ⟨rfl, by simp, fun hr => by cases hr⟩

/-- Serving a data collection session, whatever the receives, the collectors, the test case
channel and its tasks answer. Every opening of the test case channel starts a task, but serving
awaits at most one task, however many it started. Serving returns well only when the task it
awaited, if any, ended well, and when that task failed it returns an aggregate of its error. -/
theorem session_awaits_one_case_task (fuel : Nat) :
    serve fuel = (serveCalls fuel).run ∧
    ∀ ns r, (serveCalls fuel).Notes ns r →
      ns.countP Note.spawns = ns.countP Note.opensChannel ∧
      ns.countP Note.awaited ≤ 1 ∧
      (r = .ok () → ∀ o, .ended o ∈ ns → o = .ok ()) ∧
      (∀ e, .ended (.error e) ∈ ns → r = .error (.aggregate [e])) := by
  refine ⟨serve_eq fuel, fun ns r hn => ?_⟩
  obtain ⟨pre, n, tail, hk, rfl, hs⟩ := serveCalls_notes hn
  obtain ⟨hkspawn, hkawait⟩ := hk.tasks
  obtain ⟨hspawn, hawait, hok⟩ := hs.tasks
  -- the messages that kept the session going awaited nothing, so every end awaited is the stop's
  have hend : ∀ o, .ended o ∈ pre ++ tail → .ended o ∈ tail := by
    intro o ho
    rcases List.mem_append.1 ho with ho | ho
    · exact absurd (hk.going _ ho) (by simp [Note.Going])
    · exact ho
  refine ⟨?_, ?_, fun hr o ho => hok hr o (hend o ho), fun e he => (hs.ending.2.2.2.2.2 e (hend _ he)).1⟩
  · rw [List.countP_append, List.countP_append, hkspawn, hspawn]
  · rw [List.countP_append, hkawait, Nat.zero_add]
    exact hawait

def startMessage : Message :=
  Message.withPayload .beforeTestRunStart (.obj [("settings", .str "<RunSettings />"), ("sources", .arr [])])

theorem startMessage_payload :
    startMessage.payloadAs Payload.beforeTestRunStart =
      .ok (.obj [("settings", .str "<RunSettings />"), ("sources", .arr [])]) := by
  simp [startMessage, Message.payloadAs, Message.withPayload, Payload.beforeTestRunStart, Json.check, Json.checkFields,
    Json.fillFields, Json.Shape.field, Json.Shape.defField, List.lookup_cons, Json.checkItems]
  rfl

/-- The notes of a session start whose collectors want test case events, the channel opening on
its default port and its task started. -/
def startedNotes : List Note :=
  [.moved .sessionActive, .wanted true, .called (.load "<RunSettings />"), .called .sessionStarted,
   .channel .prepare, .opened (.ok 4567), .spawned, .sent .beforeTestRunStartResult (.ok ())]

theorem startedNotes_began : (beginCalls startMessage).Notes startedNotes (.ok ()) := by
  simp only [beginCalls, startMessage_payload]
  exact .call () (.call ({ eventsRequired := true } : CollectorScript) (.call () (.call ()
    (Calls.notes_bind.2 ⟨_, .ok 4567, _, rfl, .call () (.call ({} : CaseChannelScript) (.call () (.done _))),
      .call (Except.ok ()) (.done _)⟩))))

def twoStartsNotes : List Note :=
  (.received (.ok startMessage) :: startedNotes) ++ (.received (.ok startMessage) :: startedNotes) ++
    [.received (.ok endMessage), .moved .awaitingSessionEnd, .task (some 1), .ended (.ok ()),
     .called (.sessionEnded false), .sent .afterTestRunEndResult (.ok ())] ++ closingNotes

theorem twoStartsNotes_run : (serveCalls 3).Notes twoStartsNotes (.ok ()) := by
  have hend : (serveCalls 1).Notes ([.received (.ok endMessage), .moved .awaitingSessionEnd, .task (some 1),
      .ended (.ok ()), .called (.sessionEnded false), .sent .afterTestRunEndResult (.ok ())] ++ closingNotes) (.ok ()) := by
    refine .call (Except.ok endMessage) ?_
    show (finishCalls endMessage).Notes _ _
    simp only [finishCalls, endMessage_payload]
    exact .call () (.call (some 1) (.call (TaskEnd.returned (Reply.unit (.ok ())))
      (.call () (.call (Except.ok ()) (.call () (.call () (.call () (.done _))))))))
  have hstart : ∀ fuel ns, (serveCalls fuel).Notes ns (.ok ()) →
      (serveCalls (fuel + 1)).Notes (.received (.ok startMessage) :: startedNotes ++ ns) (.ok ()) :=
    fun fuel ns h => .call (Except.ok startMessage) (Calls.notes_bind.2 ⟨_, .ok (), _, rfl, startedNotes_began, h⟩)
  exact hstart 2 _ (hstart 1 _ hend)

/-- Such a session started two test case tasks, awaited at most one, and returned well. -/
theorem twoStarts_await_one :
    (serveCalls 3).Notes twoStartsNotes (.ok ()) ∧ twoStartsNotes.countP Note.spawns = 2 ∧
      twoStartsNotes.countP Note.awaited ≤ 1 :=
  ⟨twoStartsNotes_run, rfl, ((session_awaits_one_case_task 3).2 _ _ twoStartsNotes_run).2.1⟩

end Collection

end TestConductor
