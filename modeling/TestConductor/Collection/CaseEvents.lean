import TestConductor.Net.Lines
import TestConductor.Runtime.Prog
import TestConductor.Protocol.Payload
/-! # The test case event channel

A test host reports the start and the end of each test case on a connection of its own, so that
those events never queue behind the messages of the session. Once the test host has connected,
the channel reads its messages one after another. A test case start is passed on to the data
collectors; a test case end is passed on too, and answered with the attachment sets the
collectors give for that test case. A session end stops the channel. Any other message, a
payload that does not read as a test case event, a failed receive and a failed reply stop it
with that error. Without a connection there is nothing to serve.
-/
namespace TestConductor

namespace Net

theorem receive_rest_lt {bs rest : List UInt8} {m : Message} (h : receive bs = (.ok m, rest)) :
    rest.length < bs.length := by
  induction bs using receive.induct with
  | case1 => simp [receive] at h
  | case2 b bs' hlen e he =>
    rw [receive] at h
    simp only [he] at h
    cases h
  | case3 b bs' hlen s hs hblank ih =>
    rw [receive] at h
    simp only [hs, hblank, if_true] at h
    have hstep := ih h
    have hsplit : (splitLine (b :: bs')).2.length ≤ bs'.length := by
      unfold splitLine
      split
      · exact Nat.le_refl _
      · exact splitLine_rest_length bs'
    simp only [List.length_cons]
    omega
  | case4 b bs' hlen s hs hblank =>
    rw [receive] at h
    simp only [hs, hblank, Bool.false_eq_true, if_false, Prod.mk.injEq] at h
    obtain ⟨-, rfl⟩ := h
    unfold splitLine
    split
    · simp
    · have := splitLine_rest_length bs'
      simp only [List.length_cons]
      omega

end Net

namespace CaseEvents

/-- The data collectors, as the test case channel calls them: told of a test case start, and of
a test case end, for which they give the attachment sets of that test case. -/
structure Manager (S : Sig) where
  started : Json → Async S Unit
  ended : Json → Async S (List AttachmentSet)

/-- A connection the test host made to the channel: the bytes it sends, and sending it a
message. -/
structure Connection (S : Sig) where
  incoming : List UInt8
  send : Message → Async S (Except Error Unit)

def notConnected : Error := .invalidState "Test case event channel is not connected"

def endResult (sets : List AttachmentSet) : Message :=
  Message.withPayload .testCaseEndResult (.obj [("attachment_sets", .arr (sets.map AttachmentSet.toJson))])

section

variable {S : Sig} (mgr : Manager S) (send : Message → Async S (Except Error Unit))

def handle (m : Message) : Async S (Except Error Bool) :=
  match m.type with
  | .testCaseStart =>
    match m.payloadAs Payload.testCaseEvent with
    | .error e => pure (.error e)
    | .ok ev => do
      mgr.started ev
      pure (.ok true)
  | .testCaseEnd =>
    match m.payloadAs Payload.testCaseEvent with
    | .error e => pure (.error e)
    | .ok ev => do
      let sets ← mgr.ended ev
      match ← send (endResult sets) with
      | .error e => pure (.error e)
      | .ok () => pure (.ok true)
  | .sessionEnd => pure (.ok false)
  | t => pure (.error (.unexpectedMessage t.name))

def serve (bs : List UInt8) : Async S (Except Error Unit) :=
  match h : Net.receive bs with
  | (.error e, _) => pure (.error e)
  | (.ok m, rest) => do
    have := Net.receive_rest_lt h
    match ← handle mgr send m with
    | .error e => pure (.error e)
    | .ok true => serve rest
    | .ok false => pure (.ok ())
termination_by bs.length

def process : Option (Connection S) → Async S (Except Error Unit)
  | none => pure (.error notConnected)
  | some c => serve mgr c.send c.incoming

end

end CaseEvents

end TestConductor
