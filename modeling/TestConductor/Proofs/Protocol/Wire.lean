import TestConductor.Proofs.Json.Nesting
import TestConductor.Net.Lines
import Mathlib
/-! # Messages on the wire

A message goes over a connection as one line of compact JSON and a line feed. The line is read
back as the message it was made from whenever the payload is a value that reading keeps and nests
less deep than the reader allows inside the message's own object; whatever blanks follow the line
are ignored, and a message of another version is refused by name. On a connection, the receiver
gets the messages in the order they were sent, past any blank lines between them, and then the
end of the connection.
-/
namespace TestConductor

/-! ## Blanks at the ends of text -/

namespace Text

theorem trimEnd_append_blanks {s w : String} (hs : ∀ ch ∈ s.toList.getLast?, isBlank ch = false)
    (hw : ∀ ch ∈ w.toList, isBlank ch = true) : trimEnd (s ++ w) = s := by
  have hw' : w.toList.reverse.dropWhile isBlank = [] :=
    List.dropWhile_eq_nil_iff.2 (by simpa using hw)
  have hs' : s.toList.reverse.dropWhile isBlank = s.toList.reverse := by
    cases h : s.toList.reverse with
    | nil => rfl
    | cons ch r =>
      have hch : isBlank ch = false := hs ch (by rw [← List.head?_reverse, h]; rfl)
      simp [hch]
  rw [trimEnd, String.toList_append, List.reverse_append, List.dropWhile_append, hw']
  simp [hs']

theorem trimStart_of_head {s : String} (hs : ∀ ch ∈ s.toList.head?, isBlank ch = false) :
    trimStart s = s := by
  have hs' : s.toList.dropWhile isBlank = s.toList := by
    cases h : s.toList with
    | nil => rfl
    | cons ch r =>
      have hch : isBlank ch = false := hs ch (by rw [h]; rfl)
      simp [hch]
  rw [trimStart, hs', String.ofList_toList]

theorem trim_blanks {w : String} (hw : ∀ ch ∈ w.toList, isBlank ch = true) : trim w = "" := by
  have h : w.toList.dropWhile isBlank = [] := List.dropWhile_eq_nil_iff.2 (by simpa using hw)
  simp [trim, trimStart, trimEnd, h]

end Text

/-! ## Line feeds in UTF-8 -/

namespace Json

theorem toNat_of_mem_utf8EncodeChar {ch : Char} {b : UInt8} (hb : b ∈ String.utf8EncodeChar ch)
    (h : b.toNat < 128) : b.toNat = ch.toNat := by
  have high : ∀ v : Nat, 128 ≤ v → v < 256 → (UInt8.ofNat v).toNat < 128 → False := by
    intro v h1 h2 h3
    simp [UInt8.toNat_ofNat', Nat.mod_eq_of_lt h2] at h3
    omega
  simp only [Char.toNat]
  unfold String.utf8EncodeChar at hb
  dsimp only at hb
  split at hb
  · obtain rfl := List.mem_singleton.1 hb
    simp only [UInt8.toNat_ofNat']
    omega
  split at hb
  · simp only [List.mem_cons, List.not_mem_nil, or_false] at hb
    rcases hb with rfl | rfl <;> exact (high _ (by omega) (by omega) h).elim
  split at hb
  · simp only [List.mem_cons, List.not_mem_nil, or_false] at hb
    rcases hb with rfl | rfl | rfl <;> exact (high _ (by omega) (by omega) h).elim
  · simp only [List.mem_cons, List.not_mem_nil, or_false] at hb
    rcases hb with rfl | rfl | rfl | rfl <;> exact (high _ (by omega) (by omega) h).elim

theorem newline_mem_of_utf8 {s : String} (h : (10 : UInt8) ∈ utf8 s) : '\n' ∈ s.toList := by
  rw [utf8_toList, List.mem_flatMap] at h
  obtain ⟨ch, hch, hb⟩ := h
  have h10 : ch.toNat = 10 := (toNat_of_mem_utf8EncodeChar hb (by decide)).symm
  have hch' : ch = '\n' := by
    rw [← Char.ofNat_toNat ch, h10]
  exact hch' ▸ hch

end Json

/-! ## A message's line -/

namespace Message

open Json

/-- A message whose line is read back as its data: the payload is a value that reading keeps,
nesting less deep than a value inside the message's object may, and the version fits in 32 bits. -/
structure Readable (m : Message) : Prop where
  payload : Canonical m.payload
  depth : depth m.payload < depthLimit - 1
  version : m.version < 2 ^ 32

theorem ofName_name (t : MessageType) : MessageType.ofName? t.name = some t := by
  cases t <;> rfl

theorem name_mem_names (t : MessageType) :
    (MessageType.all.map MessageType.name).contains t.name = true := by
  cases t <;> rfl

theorem ofJson_toJson (m : Message) : ofJson m.toJson = m := by
  obtain ⟨t, p, v⟩ := m
  simp [ofJson, toJson, Json.get?, List.lookup, Json.asStr?, Json.asNat?, Json.nat, ofName_name]

theorem utf8_encode (m : Message) :
    utf8 m.encode = 123 :: (utf8 (quote "message_type") ++ 58 :: (utf8 (quote m.type.name) ++
      44 :: (utf8 (quote "payload") ++ 58 :: (utf8 (compact m.payload) ++
      44 :: (utf8 (quote "version") ++ 58 :: (utf8 (toString m.version) ++ [125])))))) := by
  have hopen : utf8 "\x7b" = [123] := rfl
  have hclose : utf8 "\x7d" = [125] := rfl
  simp [encode, toJson, utf8_compactFields, fieldBytes, compact, nat, Number.render, hopen, hclose]

theorem payload_length_lt (m : Message) :
    (utf8 (compact m.payload)).length < (utf8 m.encode).length := by
  rw [utf8_encode]
  simp
  omega

theorem readText_encode {m : Message} (hm : m.Readable) : readText shape m.encode = .ok m.toJson := by
  apply readText_of_yields
  have hlen := payload_length_lt m
  rw [show 4 * (utf8 m.encode).length + 16 = 4 * (utf8 m.encode).length + 11 + 4 + 1 from rfl]
  -- the three fields in wire order, each read by the reader of its shape
  have hf : Yields (readFields (4 * (utf8 m.encode).length + 11 + 4) (depthLimit - 1)
      [Shape.field "message_type" MessageType.shape, Shape.defField "payload" .any .null,
        Shape.field "version" Shape.u32] true (⟨utf8 m.encode, 1, 0⟩ : Cursor).bump [])
      [("message_type", .str m.type.name), ("payload", m.payload), ("version", .nat m.version)]
      [125] := by
    obtain ⟨c₁, hk₁, hc₁⟩ := nextKey_first_quote "message_type"
      (c := (⟨utf8 m.encode, 1, 0⟩ : Cursor).bump) (by rw [Cursor.rest_bump, utf8_encode]; rfl)
    refine readFields_step hk₁ hc₁ rfl rfl
      (fun c₂ hc₂ => readShape_units _ _ (name_mem_names _) hc₂) fun c₃ hc₃ => ?_
    obtain ⟨c₄, hk₄, hc₄⟩ := nextKey_comma_quote "payload" hc₃
    refine readFields_step hk₄ hc₄ rfl rfl
      (fun c₅ hc₅ => readShape_any_compact _ hm.payload hm.depth (by omega) hc₅
        (by simp [EndsValue])) fun c₆ hc₆ => ?_
    obtain ⟨c₇, hk₇, hc₇⟩ := nextKey_comma_quote "version" hc₆
    refine readFields_step hk₇ hc₇ rfl rfl
      (fun c₈ hc₈ => readShape_unsigned _ _ (by have := hm.version; rw [Nat.pow_eq]; omega) (by decide) hc₈
        (by simp [EndsNumber]; decide)) fun c₉ hc₉ => readFields_end hc₉
  exact readShape_record (utf8_encode m) (by decide) hf
    (by simp [fillRecord, Shape.field, Shape.defField, List.lookup, bind, Except.bind, Except.map,
      pure, Except.pure])

theorem encode_head (m : Message) : m.encode.toList.head? = some '\x7b' := by
  simp [encode, toJson, compact]

theorem readText_encode_deep {m : Message} (hp : Canonical m.payload)
    (hd : depthLimit - 1 ≤ depth m.payload) : ∃ fault, readText shape m.encode = .error fault := by
  apply readText_of_fails
  have hlen := payload_length_lt m
  rw [show 4 * (utf8 m.encode).length + 16 = 4 * (utf8 m.encode).length + 11 + 4 + 1 from rfl]
  refine readShape_record_fails (utf8_encode m) (by decide) ?_
  -- the type is read, and the payload after it is refused
  obtain ⟨c₁, hk₁, hc₁⟩ := nextKey_first_quote "message_type"
    (c := (⟨utf8 m.encode, 1, 0⟩ : Cursor).bump) (by rw [Cursor.rest_bump, utf8_encode]; rfl)
  refine readFields_fails_later hk₁ hc₁ rfl rfl
    (fun c₂ hc₂ => readShape_units _ _ (name_mem_names _) hc₂) fun c₃ hc₃ => ?_
  obtain ⟨c₄, hk₄, hc₄⟩ := nextKey_comma_quote "payload" hc₃
  exact readFields_fails_here hk₄ hc₄ rfl rfl
    (readShape_any_deep _ hp hd (by decide) (by omega) (by rw [Cursor.rest_bump, hc₄]; rfl))

theorem trimEnd_encode_append (m : Message) {w : String}
    (hw : ∀ ch ∈ w.toList, Text.isBlank ch = true) : Text.trimEnd (m.encode ++ w) = m.encode := by
  apply Text.trimEnd_append_blanks _ hw
  intro ch hch
  simp only [encode, toJson, compact, String.toList_append] at hch
  rw [show "\x7d".toList = ['\x7d'] from rfl, List.getLast?_concat, Option.mem_some_iff] at hch
  subst hch
  decide

theorem decode_encode_append {m : Message} (hm : m.Readable) {w : String}
    (hw : ∀ ch ∈ w.toList, Text.isBlank ch = true) :
    decode (m.encode ++ w) = if m.version = current then .ok m
      else .error (.protocol s!"Protocol version mismatch: expected {current}, got {m.version}") := by
  rw [decode, trimEnd_encode_append m hw, readText_encode hm]
  simp only [ofJson_toJson]

theorem decode_encode_deep {m : Message} (hp : Canonical m.payload)
    (hd : depthLimit - 1 ≤ depth m.payload) {w : String}
    (hw : ∀ ch ∈ w.toList, Text.isBlank ch = true) :
    ∃ fault : Fault, decode (m.encode ++ w) = .error (.protocol ("Malformed message: " ++ fault.message)) := by
  obtain ⟨fault, hf⟩ := readText_encode_deep hp hd
  exact ⟨fault, by rw [decode, trimEnd_encode_append m hw, hf]⟩

theorem version_of_decode {line : String} {m : Message} (h : decode line = .ok m) :
    m.version = current := by
  unfold decode at h
  split at h
  · cases h
  · dsimp only at h
    split at h
    · cases h
      assumption
    · cases h

theorem protocol_of_decode {line : String} {e : Error} (h : decode line = .error e) :
    ∃ s, e = .protocol s := by
  unfold decode at h
  split at h
  · cases h
    exact ⟨_, rfl⟩
  · dsimp only at h
    split at h
    · cases h
    · cases h
      exact ⟨_, rfl⟩

/-- The line of a message whose payload reading keeps and whose version fits in 32 bits, followed
by any blanks, is decoded as the message exactly when the message is of the current version and
its payload nests less deep than a value inside the message's object may. -/
theorem decode_encode_iff {m : Message} (hp : Canonical m.payload) (hv : m.version < 2 ^ 32)
    {w : String} (hw : ∀ ch ∈ w.toList, Text.isBlank ch = true) :
    decode (m.encode ++ w) = .ok m ↔ m.version = current ∧ depth m.payload < depthLimit - 1 := by
  constructor
  · intro h
    refine ⟨version_of_decode h, ?_⟩
    by_cases hd : depthLimit - 1 ≤ depth m.payload
    · obtain ⟨fault, hf⟩ := decode_encode_deep hp hd hw
      rw [hf] at h
      cases h
    · omega
  · rintro ⟨hver, hd⟩
    rw [decode_encode_append ⟨hp, hd, hv⟩ hw, if_pos hver]

end Message

/-! ## Receiving over a connection -/

namespace Net

open Json

def BlankLine (w : String) : Prop := ∀ ch ∈ w.toList, Text.isBlank ch = true ∧ ch ≠ '\n'

def blankLines (ws : List String) : List UInt8 := ws.flatMap fun w => utf8 w ++ [10]

def sent (xs : List (List String × Message)) : List UInt8 :=
  xs.flatMap fun p => blankLines p.1 ++ frame p.2

theorem splitLine_line {line : List UInt8} (h : (10 : UInt8) ∉ line) (rest : List UInt8) :
    splitLine (line ++ 10 :: rest) = (line ++ [10], rest) := by
  induction line with
  | nil => simp [splitLine]
  | cons b bs ih =>
    have hb : b ≠ 10 := fun e => h (e ▸ List.mem_cons_self)
    simp [splitLine, hb, ih (fun h' => h (List.mem_cons_of_mem _ h'))]

theorem lineText_line (s : String) : lineText (utf8 s ++ [10]) = .ok (s ++ "\n") := by
  have h : utf8 s ++ [10] = utf8 (s ++ "\n") := by
    rw [utf8_append]
    rfl
  rw [h, lineText, fromUTF8_utf8]

theorem receive_utf8 {s : String} (h : '\n' ∉ s.toList) (rest : List UInt8) :
    receive (utf8 s ++ 10 :: rest) =
      if (Text.trim (s ++ "\n")).isEmpty then receive rest
      else (Message.decode (s ++ "\n"), rest) := by
  have h10 : (10 : UInt8) ∉ utf8 s := fun h' => h (newline_mem_of_utf8 h')
  obtain ⟨b, bs, hbs⟩ : ∃ b bs, utf8 s ++ 10 :: rest = b :: bs := by
    cases utf8 s <;> simp
  rw [hbs, receive, ← hbs]
  simp only [splitLine_line h10, lineText_line]

theorem receive_blankLine {w : String} (hw : BlankLine w) (rest : List UInt8) :
    receive (utf8 w ++ 10 :: rest) = receive rest := by
  have hblank : Text.trim (w ++ "\n") = "" := by
    apply Text.trim_blanks
    simp only [String.toList_append, List.mem_append]
    rintro ch (hch | hch)
    · exact (hw ch hch).1
    · simp at hch
      subst hch
      decide
  rw [receive_utf8 (fun h => (hw _ h).2 rfl), hblank]
  rfl

theorem receive_blankLines {ws : List String} (hws : ∀ w ∈ ws, BlankLine w) (rest : List UInt8) :
    receive (blankLines ws ++ rest) = receive rest := by
  induction ws with
  | nil => rfl
  | cons w ws ih =>
    simp only [blankLines, List.flatMap_cons, List.append_assoc, List.cons_append]
    rw [receive_blankLine (hws w List.mem_cons_self)]
    exact ih fun w' hw' => hws w' (List.mem_cons_of_mem _ hw')

theorem receive_frame {m : Message} (hm : m.Readable) (hv : m.version = Message.current)
    (rest : List UInt8) : receive (frame m ++ rest) = (.ok m, rest) := by
  have h10 : '\n' ∉ m.encode.toList := fun h => (oneLine_compact m.toJson _ h).1 rfl
  have hnl : ∀ ch ∈ "\n".toList, Text.isBlank ch = true := by
    simp only [show "\n".toList = ['\n'] from rfl, List.mem_singleton, forall_eq]
    decide
  have hhead : ∀ ch ∈ (m.encode ++ "\n").toList.head?, Text.isBlank ch = false := by
    simp only [String.toList_append, List.head?_append, Message.encode_head, Option.some_or,
      Option.mem_some_iff, forall_eq']
    decide
  have htrim : Text.trim (m.encode ++ "\n") = m.encode := by
    rw [Text.trim, Text.trimStart_of_head hhead, Message.trimEnd_encode_append m hnl]
  have hne : m.encode.isEmpty = false := by
    have h := Message.encode_head m
    cases hs : m.encode.isEmpty
    · rfl
    · simp [String.isEmpty_iff.1 hs] at h
  rw [frame, List.append_assoc, List.singleton_append, receive_utf8 h10, htrim, hne, if_neg (by decide),
    Message.decode_encode_append hm hnl, if_pos hv]

theorem receive_nil : receive [] = (.error .connectionClosed, []) := by
  rw [receive]

theorem receiveN_sent (xs : List (List String × Message))
    (hxs : ∀ p ∈ xs, (∀ w ∈ p.1, BlankLine w) ∧ p.2.Readable ∧ p.2.version = Message.current)
    {ws : List String} (hws : ∀ w ∈ ws, BlankLine w) :
    receiveN (xs.length + 1) (sent xs ++ blankLines ws) =
      xs.map (fun p => .ok p.2) ++ [.error .connectionClosed] := by
  induction xs with
  | nil =>
    have h := receive_blankLines hws []
    rw [List.append_nil] at h
    simp [sent, receiveN, h, receive_nil]
  | cons p xs ih =>
    obtain ⟨hgap, hm, hv⟩ := hxs p List.mem_cons_self
    -- one receive passes the blank lines before the first message and takes its frame
    have hstep : receive (sent (p :: xs) ++ blankLines ws) = (.ok p.2, sent xs ++ blankLines ws) := by
      simp only [sent, List.flatMap_cons, List.append_assoc]
      rw [receive_blankLines hgap, receive_frame hm hv]
    rw [List.length_cons, receiveN, hstep, ih fun p' hp' => hxs p' (List.mem_cons_of_mem _ hp')]
    rfl

end Net

/-! ## The wire round trip -/

namespace Json

def nested : Nat → Json
  | 0 => .arr []
  | n + 1 => .arr [nested n]

theorem canonical_nested (n : Nat) : Canonical (nested n) := by
  induction n with
  | zero => simp [nested, Canonical, CanonicalItems]
  | succ n ih => simp [nested, Canonical, CanonicalItems, ih]

theorem depth_nested (n : Nat) : depth (nested n) = n + 1 := by
  induction n with
  | zero => simp [nested, depth, depthItems]
  | succ n ih => simp [nested, depth, depthItems, ih]

end Json

/-- A payload one level deeper than a readable message's is refused: with the message's own
object it reaches the reader's nesting limit. -/
theorem decode_refuses_payload_at_nesting_limit :
    Json.Canonical (Json.nested 126) ∧ Json.depth (Json.nested 126) = Json.depthLimit - 1 ∧
      (Message.decode (Message.encode ⟨.sessionEnd, Json.nested 126, 1⟩)).isOk = false := by
  have hd := Json.depth_nested 126
  obtain ⟨fault, hf⟩ := Message.decode_encode_deep (m := ⟨.sessionEnd, Json.nested 126, 1⟩)
    (Json.canonical_nested 126) (by rw [hd]; decide) (w := "") (by simp)
  rw [String.append_empty] at hf
  exact ⟨Json.canonical_nested 126, hd, by rw [hf]; rfl⟩

/-- Messages cross the wire unchanged. A message's line is one line. The line of a message
whose payload reading keeps and whose version fits in 32 bits, followed by any blanks, is decoded
as the message exactly when the message is of the current version and its payload nests less deep
than a value inside the message's object may; the line of such a message of another version is
refused by its version, and the line of a message of any version whose payload nests deeper is
refused as malformed. Decoding gives no message of another version and refuses only with
protocol errors. On a connection, messages sent one after another with blank lines between them
are received in order, and then the connection is closed. -/
theorem wire_round_trip :
    (∀ m : Message, Json.OneLine m.encode) ∧
    (∀ m : Message, Json.Canonical m.payload → m.version < 2 ^ 32 →
      ∀ w : String, (∀ ch ∈ w.toList, Text.isBlank ch = true) →
        (Message.decode (m.encode ++ w) = .ok m ↔
          m.version = Message.current ∧ Json.depth m.payload < Json.depthLimit - 1)) ∧
    (∀ m : Message, m.Readable → m.version ≠ Message.current →
      ∀ w : String, (∀ ch ∈ w.toList, Text.isBlank ch = true) →
        Message.decode (m.encode ++ w) =
          .error (.protocol s!"Protocol version mismatch: expected 1, got {m.version}")) ∧
    (∀ m : Message, Json.Canonical m.payload → Json.depthLimit - 1 ≤ Json.depth m.payload →
      ∀ w : String, (∀ ch ∈ w.toList, Text.isBlank ch = true) →
        ∃ fault : Json.Fault, Message.decode (m.encode ++ w) = .error (.protocol ("Malformed message: " ++ fault.message))) ∧
    (∀ (line : String) (m : Message), Message.decode line = .ok m → m.version = Message.current) ∧
    (∀ (line : String) (e : Error), Message.decode line = .error e → ∃ s, e = .protocol s) ∧
    (∀ (xs : List (List String × Message)) (ws : List String),
      (∀ p ∈ xs, (∀ w ∈ p.1, Net.BlankLine w) ∧ p.2.Readable ∧ p.2.version = Message.current) →
      (∀ w ∈ ws, Net.BlankLine w) →
      Net.receiveN (xs.length + 1) (Net.sent xs ++ Net.blankLines ws) =
        xs.map (fun p => .ok p.2) ++ [.error .connectionClosed]) := by
  refine ⟨fun m => Json.oneLine_compact m.toJson, fun m hp hv w hw => Message.decode_encode_iff hp hv hw,
    ?_, fun m hp hd w hw => Message.decode_encode_deep hp hd hw, fun _ _ => Message.version_of_decode,
    fun _ _ => Message.protocol_of_decode,
    fun xs _ hxs hws => Net.receiveN_sent xs hxs hws⟩
  intro m hm hv w hw
  rw [Message.decode_encode_append hm hw, if_neg hv]
  rfl

/-- A message with no payload crosses the wire with a carriage return before its line feed, and
after a blank line on a connection. -/
theorem session_end_crosses_the_wire :
    Message.decode ((Message.ofType .sessionEnd).encode ++ "\r\n") = .ok (Message.ofType .sessionEnd) ∧
    Net.receiveN 2 (Net.sent [(["  "], Message.ofType .sessionEnd)] ++ Net.blankLines ["\r"]) =
      [.ok (Message.ofType .sessionEnd), .error .connectionClosed] := by
  have hm : (Message.ofType .sessionEnd).Readable := ⟨trivial, by decide, by decide⟩
  have hcrlf : ∀ ch ∈ "\r\n".toList, Text.isBlank ch = true := by
    simp only [show "\r\n".toList = ['\r', '\n'] from rfl, List.mem_cons, List.not_mem_nil,
      or_false, forall_eq_or_imp, forall_eq]
    decide
  have hspaces : Net.BlankLine "  " := by
    simp only [Net.BlankLine, show "  ".toList = [' ', ' '] from rfl, List.mem_cons,
      List.not_mem_nil, or_false, or_self, forall_eq]
    decide
  have hcr : Net.BlankLine "\r" := by
    simp only [Net.BlankLine, show "\r".toList = ['\r'] from rfl, List.mem_cons, List.not_mem_nil,
      or_false, forall_eq]
    decide
  refine ⟨(wire_round_trip.2.1 _ hm.payload hm.version _ hcrlf).2 ⟨rfl, hm.depth⟩, ?_⟩
  exact wire_round_trip.2.2.2.2.2.2 [(["  "], Message.ofType .sessionEnd)] ["\r"]
    (fun p hp => by
      rw [List.mem_singleton.1 hp]
      exact ⟨fun w hw => by rw [List.mem_singleton.1 hw]; exact hspaces, hm, rfl⟩)
    (by simp [hcr])

end TestConductor
