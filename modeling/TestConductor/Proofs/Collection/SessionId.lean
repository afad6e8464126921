import TestConductor.Proofs.Runtime.Guards
import TestConductor.Session
/-! # The id of a data collection session

A session start puts the session in its active state and gives it an id, in one step. Nothing else
that serving a session does touches the id: receiving, replying, calling the collectors and the
test case channel, starting and awaiting the test case task leave it alone, and the session end
only moves the session on, to awaiting its end and then to terminated, on the path where the test
case task failed as on the other.
-/
namespace TestConductor

open Async

def Job.ofSession : Job → Prop
  | .caseEvents => True
  | _ => False

namespace Collection

/-- A property of the session's state and id alone, that the session's own changes keep: a start
makes it hold, and a move to awaiting the end or to terminated keeps it. -/
structure SessionKept (P : World → Prop) : Prop where
  frame : ∀ w w' : World, w'.collection.state = w.collection.state → w'.collection.hasSession = w.collection.hasSession →
    P w → P w'
  started : ∀ w : World, P { w with collection := { w.collection with state := .sessionActive, hasSession := true } }
  moved : ∀ (w : World) (s : SessionState), (s = .awaitingSessionEnd ∨ s = .terminated) → P w →
    P { w with collection := { w.collection with state := s } }

def HasId (w : World) : Prop := w.collection.hasSession = true

def IdInStep (w : World) : Prop :=
  (w.collection.state = .awaitingSessionStart → w.collection.hasSession = false) ∧
    (w.collection.state = .sessionActive → w.collection.hasSession = true)

theorem hasId_kept : SessionKept HasId where
  frame _ _ _ hs h := hs.trans h
  started _ := rfl
  moved _ _ _ h := h

theorem idInStep_kept : SessionKept IdInStep where
  frame _ _ hst hs h := by
    simp only [IdInStep, hst, hs] at h ⊢
    exact h
  started _ := ⟨fun h => (by simp at h), fun _ => rfl⟩
  moved _ s hs _ := by
    rcases hs with rfl | rfl <;> exact ⟨fun h => (by simp at h), fun h => (by simp at h)⟩

/-! ## Steps that leave the session alone -/

theorem next_collection {n : Nat} {w w' : World} {r : ScriptedHost.Received}
    (h : ScriptedHost.next n w = some (w', r)) : w'.collection = w.collection := by
  obtain ⟨hs, ls, rfl⟩ := ScriptedHost.next_frame h
  rfl

theorem reaction_collection (w : World) (m : Message) : (ScriptedHost.reaction w m).2.collection = w.collection := by
  unfold ScriptedHost.reaction
  split <;> rfl

section

variable {P : World → Prop} (hP : SessionKept P)
include hP

theorem SessionKept.same {w w' : World} (h : P w) (hc : w'.collection = w.collection) : P w' :=
  hP.frame w w' (by rw [hc]) (by rw [hc]) h

theorem logCollector_guards (c : CollectorCall) : Guards P Job.ofSession (logCollector c) :=
  .modify fun _ h => hP.same h rfl

theorem logChannel_guards (c : CaseChannelCall) : Guards P Job.ofSession (logChannel c) :=
  .modify fun _ h => hP.same h rfl

theorem receive_guards (n fuel : Nat) : Guards P Job.ofSession (ScriptedHost.receive n fuel) := by
  induction fuel with
  | zero => exact .pure' _
  | succ fuel ih =>
    refine .wait_bind fun w w' r h hn => ⟨hP.same h (next_collection hn), ?_⟩
    cases r with
    | exited l =>
      dsimp only
      split
      · exact .bind (.signal _) fun _ => ih
      · exact ih
    | result r => exact .pure' r

theorem send_guards (m : Message) : Guards P Job.ofSession (send m) := by
  refine .bind (.reads _) fun n => ?_
  unfold ScriptedHost.send
  refine .read_bind fun w hw => ?_
  split
  · exact .pure' _
  · -- the host records the message and queues its reaction, out of the session's sight
    split
    rename_i steps w' heq
    have hc : w'.collection = w.collection := by
      have h := congrArg (fun r : List ScriptStep × World => r.2.collection) heq
      rw [reaction_collection] at h
      exact h.symm
    refine .bind (.write (hP.same hw hc)) fun _ => ?_
    split
    · exact .bind (.signal _) fun _ => .pure' _
    · exact .pure' _

/-! ## The session's own changes -/

theorem terminate_guards : Guards P Job.ofSession terminate :=
  .bind (logChannel_guards hP _) fun _ => .bind (logCollector_guards hP _) fun _ =>
    .modify fun w h => hP.moved w _ (.inr rfl) h

theorem begin_guards (m : Message) : Guards P Job.ofSession (begin m) := by
  unfold begin
  split
  · exact .pure' _
  refine .bind (.modify fun w _ => hP.started w) fun _ => .bind (.reads _) fun script => ?_
  refine .bind (logCollector_guards hP _) fun _ => .bind (logCollector_guards hP _) fun _ => ?_
  extract_lets reply
  have hreply : ∀ port, Guards P Job.ofSession (reply port) := by
    intro port
    cases port with
    | error e => exact .pure' _
    | ok port => exact send_guards hP _
  split
  · refine .bind (logChannel_guards hP _) fun _ => .bind (.reads _) fun cs => ?_
    split
    · exact .bind (.pure' _) hreply
    · -- the test case task is started and kept; the session's state and id are left as they are
      exact .bind (.spawn trivial) fun _ => .bind (.modify fun w h => hP.frame w _ rfl rfl h) fun _ =>
        .bind (.pure' _) hreply
  · exact .bind (.pure' _) hreply

theorem finish_guards (m : Message) : Guards P Job.ofSession (finish m) := by
  unfold finish
  split
  · exact .pure' _
  refine .bind (.modify fun w h => hP.moved w _ (.inl rfl) h) fun _ => ?_
  refine .bind (.change fun w h => hP.frame w _ rfl rfl h) fun task => ?_
  extract_lets reply
  -- once the test case task, if any, ended well, the collectors end their session and the reply
  -- is sent; the session ends on this path and on the one where the task failed
  have hreply : Guards P Job.ofSession (reply ()) :=
    .bind (logCollector_guards hP _) fun _ => .bind (.reads _) fun _ =>
      .bind (send_guards hP _) fun _ => .bind (terminate_guards hP) fun _ => .pure' _
  cases task with
  | none => exact hreply
  | some t =>
    refine .bind (.join t) fun r => ?_
    split
    · exact .bind (terminate_guards hP) fun _ => .pure' _
    · exact hreply


/-! ## Serving and the test case task -/

theorem serve_guards (fuel : Nat) : Guards P Job.ofSession (serve fuel) := by
  induction fuel with
  | zero => exact .pure' _
  | succ fuel ih =>
    unfold serve
    refine .bind (.reads _) fun h => .bind (receive_guards hP h fuel) fun r => ?_
    cases r with
    | error e => exact .pure' _
    | ok m =>
      dsimp only
      split
      · refine .bind (begin_guards hP m) fun r => ?_
        cases r with
        | error e => exact .pure' _
        | ok u => exact ih
      · split
        · exact .pure' _
        · exact .bind (logCollector_guards hP _) fun _ => ih
      · exact finish_guards hP m
      · exact .pure' _

theorem serveCases_guards : Guards P Job.ofSession serveCases := by
  unfold serveCases
  refine .bind (.reads _) fun _ => .bind (logChannel_guards hP _) fun _ => .bind (.reads _) fun script => ?_
  split
  · exact .pure' _
  refine .bind (logChannel_guards hP _) fun _ => ?_
  extract_lets done
  split
  · exact .bind (.panic _) fun _ => .pure' _
  · exact .pure' _

theorem caseEvents_guards : Prog.Guards P Job.ofSession (Job.program .caseEvents) :=
  (Guards.bind (serveCases_guards hP) fun _ => .pure' _) _ fun _ => .finish _

end

theorem begin_activates {m : Message} {p : Json} (hp : m.payloadAs Payload.beforeTestRunStart = .ok p)
    (k : Except Error Unit → Prog conductor) :
    ∃ f, begin m k = .step f ∧ ∀ w, HasId (f w).1 ∧ (f w).1.collection.state = .sessionActive := by
  unfold begin
  simp only [hp]
  exact ⟨_, rfl, fun _ => ⟨rfl, rfl⟩⟩

/-- The id of a data collection session, whatever the conductor sends and however the session's
tasks interleave. A well-formed session start makes the session active with an id at once. Every
step of serving the session, and of the test case task it starts, keeps the id in step with the
session's state: none while the session waits for its start, one while it is active. And an id
once given is never taken back: the session end keeps it, on the path where the test case task
failed as on the other, so a session that started ends terminated with its id still there. -/
theorem session_id_outlives_session (m : Message) (p : Json) (k : Except Error Unit → Prog conductor)
    (fuel : Nat) :
    (m.payloadAs Payload.beforeTestRunStart = .ok p →
      ∃ f, begin m k = .step f ∧ ∀ w, HasId (f w).1 ∧ (f w).1.collection.state = .sessionActive) ∧
    Guards IdInStep Job.ofSession (serve fuel) ∧ Prog.Guards IdInStep Job.ofSession (Job.program .caseEvents) ∧
    Guards HasId Job.ofSession (serve fuel) ∧ Prog.Guards HasId Job.ofSession (Job.program .caseEvents) ∧
    Guards HasId Job.ofSession (finish m) :=
  ⟨fun hp => begin_activates hp k, serve_guards idInStep_kept fuel, caseEvents_guards idInStep_kept,
    serve_guards hasId_kept fuel, caseEvents_guards hasId_kept, finish_guards hasId_kept m⟩

def sessionStart : Message :=
  Message.withPayload .beforeTestRunStart (.obj [("settings", .str "<RunSettings />"), ("sources", .arr [.str "1.dll"])])

theorem sessionStart_payload :
    sessionStart.payloadAs Payload.beforeTestRunStart =
      .ok (.obj [("settings", .str "<RunSettings />"), ("sources", .arr [.str "1.dll"])]) := by
  simp [sessionStart, Message.payloadAs, Message.withPayload, Payload.beforeTestRunStart, Json.check, Json.checkFields,
    Json.fillFields, Json.Shape.field, Json.Shape.defField, List.lookup_cons, Json.checkItems]
  rfl

/-- That session start gives the session an id in its first step, whatever follows. -/
theorem sessionStart_gives_id :
    sessionStart.payloadAs Payload.beforeTestRunStart =
        .ok (.obj [("settings", .str "<RunSettings />"), ("sources", .arr [.str "1.dll"])]) ∧
      ∀ k, ∃ f, begin sessionStart k = .step f ∧ ∀ w, HasId (f w).1 ∧ (f w).1.collection.state = .sessionActive :=
  ⟨sessionStart_payload, fun k => (session_id_outlives_session sessionStart _ k 0).1 sessionStart_payload⟩

end Collection

end TestConductor
