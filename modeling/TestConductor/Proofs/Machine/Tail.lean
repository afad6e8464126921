import TestConductor.Machine.Programs
/-! # The tail of a stream

A test host's standard error is drained in reads of whatever size the pipe gives, and only its
last bytes are kept. Main statement: however the stream is split into reads, and whether it ends
at its end or at an error, what is kept is exactly the last `limit` bytes read, or all of them
when fewer were read, taken as UTF-8. So the standard error a process exit reports is the last
4096 bytes the process wrote, however they arrived.
-/
namespace TestConductor

namespace Machine

def streamBytes : List ReadResult → List UInt8
  | .bytes (b :: bs) :: rest => (b :: bs) ++ streamBytes rest
  | _ => []

theorem length_keepLast (limit : Nat) (bs : List UInt8) :
    (keepLast limit bs).length = min limit bs.length := by
  simp only [keepLast, List.length_drop]
  omega

theorem keepLast_of_length_le {limit : Nat} {bs : List UInt8} (h : bs.length ≤ limit) :
    keepLast limit bs = bs := by
  simp [keepLast, Nat.sub_eq_zero_of_le h]

theorem keepLast_keepLast_append (limit : Nat) (a b : List UInt8) :
    keepLast limit (keepLast limit a ++ b) = keepLast limit (a ++ b) := by
  simp only [keepLast, List.length_append, List.length_drop, List.drop_append, List.drop_drop]
  congr 2 <;> omega

theorem drainTail_eq (limit : Nat) (kept : List UInt8) (reads : List ReadResult)
    (h : kept.length ≤ limit) :
    drainTail limit kept reads = keepLast limit (kept ++ streamBytes reads) := by
  induction reads generalizing kept with
  | nil => simp [drainTail, streamBytes, keepLast_of_length_le h]
  | cons r rest ih =>
    match r with
    | .bytes [] | .failed => simp [drainTail, streamBytes, keepLast_of_length_le h]
    | .bytes (b :: bs) =>
      -- the bytes kept after this read are already cut to `limit`
      have hk : (keepLast limit (kept ++ b :: bs)).length ≤ limit := by
        rw [length_keepLast]
        exact Nat.min_le_left _ _
      rw [drainTail, ih _ hk, streamBytes, ← List.append_assoc, keepLast_keepLast_append]

/-- Reading a stream's tail gives the last `limit` bytes read before the stream ended, whatever
the sizes of the reads, as UTF-8. -/
theorem readTail_keeps_last_bytes (reads : List ReadResult) (limit : Nat) :
    readTail reads limit =
      Text.Utf8.decodeLossy ((streamBytes reads).drop ((streamBytes reads).length - limit)) := by
  rw [readTail, drainTail_eq limit [] reads (Nat.zero_le limit), List.nil_append, keepLast]

theorem streamBytes_pipeReads (bs : List UInt8) : streamBytes (pipeReads bs) = bs := by
  fun_induction pipeReads bs with
  | case1 bs h =>
    rw [List.isEmpty_iff] at h
    simp [streamBytes, h]
  | case2 bs h ih =>
    -- a read of a pipe with bytes left gives some of them
    have hne : bs.take readBuffer ≠ [] := by
      simpa [readBuffer, List.isEmpty_iff] using h
    obtain ⟨c, cs, hc⟩ := List.exists_cons_of_ne_nil hne
    rw [hc, streamBytes, ← hc, ih, List.take_append_drop]

theorem exitOf_stderr (code : Option Int) (stderr : ByteArray) :
    (exitOf code stderr).stderr =
      Text.Utf8.decodeLossy (stderr.toList.drop (stderr.toList.length - stderrKept)) := by
  rw [exitOf, readTail_keeps_last_bytes, streamBytes_pipeReads]

end Machine

end TestConductor
