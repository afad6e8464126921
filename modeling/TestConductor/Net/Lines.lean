import TestConductor.Protocol.Message
import TestConductor.Text.Utf8
/-! # Messages on a connection

A connection carries one message a line: the sender writes a message's compact text and a line
feed. The receiver reads the stream a line at a time, a line being the bytes up to and including
the next line feed, or up to the end of the stream. A line that is not UTF-8 is an I/O error, a
line of blanks is passed over, and any other line is decoded as a message, its line end and all.
At the end of the stream the connection is closed.
-/
namespace TestConductor

namespace Net

def frame (m : Message) : List UInt8 := Json.utf8 m.encode ++ [10]

def splitLine : List UInt8 → List UInt8 × List UInt8
  | [] => ([], [])
  | b :: bs =>
    if b = 10 then ([10], bs)
    else ((b :: (splitLine bs).1), (splitLine bs).2)

theorem splitLine_rest_length (bs : List UInt8) : (splitLine bs).2.length ≤ bs.length := by
  induction bs with
  | nil => simp [splitLine]
  | cons b bs ih =>
    unfold splitLine
    split <;> simp only [List.length_cons] <;> omega

def lineText (line : List UInt8) : Except Error String :=
  match String.fromUTF8? ⟨line.toArray⟩ with
  | some s => .ok s
  | none => .error (.io ((Text.Utf8.firstFault 0 line).elim "stream did not contain valid UTF-8"
      Text.Utf8.faultText))

/-- One receive: the message of the next line that is not blank, the error of a line that is not
UTF-8, or the closed connection at the end of the stream; and the bytes after the lines read. -/
def receive (bs : List UInt8) : Except Error Message × List UInt8 :=
  match bs with
  | [] => (.error .connectionClosed, [])
  | b :: bs' =>
    have := splitLine_rest_length bs'
    match lineText (splitLine (b :: bs')).1 with
    | .error e => (.error e, (splitLine (b :: bs')).2)
    | .ok s =>
      if (Text.trim s).isEmpty then receive (splitLine (b :: bs')).2
      else (Message.decode s, (splitLine (b :: bs')).2)
termination_by bs.length
decreasing_by
  unfold splitLine
  split <;> simp only [List.length_cons] <;> omega

def receiveN : Nat → List UInt8 → List (Except Error Message)
  | 0, _ => []
  | n + 1, bs => (receive bs).1 :: receiveN n (receive bs).2

end Net

end TestConductor
