import TestConductor.Json.Read
import TestConductor.Json.Write
/-! # Reading back the tokens the writer prints

The compact writer prints keywords, numbers and quoted strings; the reader takes each back from
the bytes that follow a cursor, whatever comes after it. `Yields r a rest` says that a reader
gave `a` and stopped before the bytes `rest`. A quoted string is read back for every string,
escapes included; integers are read back from their decimal digits when the byte after them
cannot continue a number.
-/
namespace TestConductor

namespace Json

def Yields {α : Type} (r : Except Failure (α × Cursor)) (a : α) (rest : List UInt8) : Prop :=
  ∃ c, r = .ok (a, c) ∧ c.rest = rest

def Passes (r : Except Failure Cursor) (rest : List UInt8) : Prop :=
  ∃ c, r = .ok c ∧ c.rest = rest

def Fails {α : Type} (r : Except Failure α) : Prop := ∃ e, r = .error e

/-! ## Bytes of text -/

theorem utf8_ofList (l : List Char) : utf8 (String.ofList l) = l.flatMap String.utf8EncodeChar := by
  simp [utf8, String.toUTF8_eq_toByteArray, String.toByteArray_ofList, List.utf8Encode]

theorem utf8_toList (s : String) : utf8 s = s.toList.flatMap String.utf8EncodeChar := by
  rw [← utf8_ofList, String.ofList_toList]

@[simp] theorem utf8_append (s t : String) : utf8 (s ++ t) = utf8 s ++ utf8 t := by
  simp [utf8_toList, List.flatMap_append]

theorem utf8EncodeChar_ascii {ch : Char} (h : ch.toNat ≤ 127) :
    String.utf8EncodeChar ch = [UInt8.ofNat ch.toNat] := by
  unfold String.utf8EncodeChar
  dsimp only
  rw [if_pos (show ch.val.toNat ≤ 127 from h)]
  rfl

theorem fromUTF8_utf8 (s : String) : String.fromUTF8? ⟨(utf8 s).toArray⟩ = some s := by
  have hb : ByteArray.mk (utf8 s).toArray = s.toByteArray := by
    simp [utf8, String.toUTF8_eq_toByteArray]
  simp only [hb, String.fromUTF8?, dif_pos s.isValidUTF8]
  rfl

theorem stringOfRev_utf8 (s : String) : stringOfRev (utf8 s).reverse = s := by
  rw [stringOfRev, List.reverse_reverse, fromUTF8_utf8, Option.getD_some]

/-! ## Blanks and keywords -/

namespace Cursor

theorem skipBlank_of_head {c : Cursor} (h : ∀ b ∈ c.rest.head?, isBlank b = false) :
    c.skipBlank = c := by
  obtain ⟨rest, line, column⟩ := c
  cases rest with
  | nil => rfl
  | cons b r =>
    have hb : isBlank b = false := h b rfl
    have h10 : (b == 10) = false := by
      revert hb; unfold isBlank; intro hb; simp_all
    simp [skipBlank, skipBlankFrom, hb, h10]

end Cursor

theorem readKeyword_passes (es rest : List UInt8) {c : Cursor} (h : c.rest = es ++ rest) :
    Passes (readKeyword es c) rest := by
  induction es generalizing c with
  | nil => exact ⟨c, rfl, h⟩
  | cons e es ih =>
    rw [List.cons_append] at h
    have hb : c.bump.rest = es ++ rest := by simp [h]
    obtain ⟨c', hc', hr⟩ := ih hb
    exact ⟨c', by simp [readKeyword, h, hc'], hr⟩

/-! ## Strings

`readStringBody` is read one step at a time: a closing quote, a short escape, a `\u` escape of
a code point below the surrogates, and a plain byte. -/

section Steps

variable {c : Cursor} {acc more : List UInt8}

theorem readStringBody_close (h : c.rest = 34 :: more) :
    readStringBody c acc = .ok (stringOfRev acc, c.bump) := by
  rw [readStringBody]
  split
  · simp_all
  · rename_i b r hr
    rw [h] at hr
    cases hr
    simp

theorem readStringBody_short {e v : UInt8} (h : c.rest = 92 :: e :: more)
    (he : shortEscape? e = some v) :
    readStringBody c acc = readStringBody c.bump.bump (v :: acc) := by
  rw [readStringBody]
  split
  · simp_all
  · rename_i b r hr
    rw [h] at hr
    cases hr
    simp [h, he]

theorem readStringBody_plain {b : UInt8} (h : c.rest = b :: more) (h32 : 32 ≤ b) (h34 : b ≠ 34)
    (h92 : b ≠ 92) : readStringBody c acc = readStringBody c.bump (b :: acc) := by
  rw [readStringBody]
  split
  · simp_all
  · rename_i b' r hr
    rw [h] at hr
    cases hr
    have hlt : ¬ b < 32 := by
      rw [UInt8.lt_iff_toNat_lt]
      rw [UInt8.le_iff_toNat_le] at h32
      simpa using h32
    simp [h34, h92, hlt]

@[simp] theorem cursorAfter_rest (bs rest : List UInt8) (l k : Nat) :
    (cursorAfter bs rest l k).rest = rest := by
  unfold cursorAfter
  split
  rfl

theorem readStringBody_unit {a b : UInt8} {n : Nat}
    (h : c.rest = 92 :: 117 :: 48 :: 48 :: a :: b :: more) (hn : hex4? 48 48 a b = some n)
    (hs : n < 0xD800) :
    ∃ c', c'.rest = more ∧ readStringBody c acc = readStringBody c' (utf8Rev n ++ acc) := by
  let c3 := cursorAfter [48, 48, a, b] more c.bump.bump.line c.bump.bump.column
  refine ⟨c3, cursorAfter_rest .., ?_⟩
  have hr2 : c.bump.bump.rest = 48 :: 48 :: a :: b :: more := by simp [h]
  have hx : readHexUnit c.bump.bump = .ok (n, c3) := by
    unfold readHexUnit
    rw [hr2]
    simp [hn, c3]
  have hu : readUnicodeEscape c.bump.bump acc = .ok (utf8Rev n ++ acc, c3) := by
    have hlo : ¬ (0xDC00 ≤ n ∧ n ≤ 0xDFFF) := by omega
    simp [readUnicodeEscape, hx, hlo, hs, bind, Except.bind, pure, Except.pure]
  -- the escape is six bytes long, so the recursion goes on from a shorter rest
  have hlt : more.length < more.length + 1 + 1 + 1 + 1 + 1 + 1 := by omega
  rw [readStringBody]
  split
  · simp_all
  · rename_i b' r hr
    rw [h] at hr
    cases hr
    simp [h, shortEscape?, hu, c3, hlt]

end Steps

def quotedBytes (ch : Char) : List UInt8 := (escapeChar ch).flatMap String.utf8EncodeChar

theorem utf8_quote (s : String) : utf8 (quote s) = 34 :: (s.toList.flatMap quotedBytes ++ [34]) := by
  rw [quote, utf8_ofList, List.flatMap_cons, List.flatMap_append, List.flatMap_assoc]
  rfl

theorem utf8EncodeChar_plain {ch : Char} (h32 : 32 ≤ ch.toNat) (h34 : ch.toNat ≠ 34)
    (h92 : ch.toNat ≠ 92) : ∀ b ∈ String.utf8EncodeChar ch, 32 ≤ b ∧ b ≠ 34 ∧ b ≠ 92 := by
  have key : ∀ v : Nat, 32 ≤ v → v < 256 → v ≠ 34 → v ≠ 92 →
      32 ≤ UInt8.ofNat v ∧ UInt8.ofNat v ≠ 34 ∧ UInt8.ofNat v ≠ 92 := by
    intro v h1 h2 h3 h4
    refine ⟨?_, ?_, ?_⟩
    · rw [UInt8.le_iff_toNat_le]
      simp [UInt8.toNat_ofNat', Nat.mod_eq_of_lt h2]
      omega
    · intro e
      have := congrArg UInt8.toNat e
      simp [UInt8.toNat_ofNat', Nat.mod_eq_of_lt h2] at this
      omega
    · intro e
      have := congrArg UInt8.toNat e
      simp [UInt8.toNat_ofNat', Nat.mod_eq_of_lt h2] at this
      omega
  simp only [Char.toNat] at h32 h34 h92
  intro b hb
  -- every byte is the code point itself, or a lead or trailing byte of at least 128
  suffices ∃ v, b = UInt8.ofNat v ∧ 32 ≤ v ∧ v < 256 ∧ v ≠ 34 ∧ v ≠ 92 by
    obtain ⟨v, rfl, h1, h2, h3, h4⟩ := this
    exact key v h1 h2 h3 h4
  unfold String.utf8EncodeChar at hb
  dsimp only at hb
  split at hb
  · obtain rfl := List.mem_singleton.1 hb
    exact ⟨_, rfl, by omega, by omega, by omega, by omega⟩
  split at hb
  · simp only [List.mem_cons, List.not_mem_nil, or_false] at hb
    rcases hb with rfl | rfl <;> exact ⟨_, rfl, by omega, by omega, by omega, by omega⟩
  split at hb
  · simp only [List.mem_cons, List.not_mem_nil, or_false] at hb
    rcases hb with rfl | rfl | rfl <;> exact ⟨_, rfl, by omega, by omega, by omega, by omega⟩
  · simp only [List.mem_cons, List.not_mem_nil, or_false] at hb
    rcases hb with rfl | rfl | rfl | rfl <;> exact ⟨_, rfl, by omega, by omega, by omega, by omega⟩

theorem readStringBody_plains (bs : List UInt8) (hbs : ∀ b ∈ bs, 32 ≤ b ∧ b ≠ 34 ∧ b ≠ 92)
    {more : List UInt8} (acc : List UInt8) {c : Cursor} (h : c.rest = bs ++ more) :
    ∃ c', c'.rest = more ∧ readStringBody c acc = readStringBody c' (bs.reverse ++ acc) := by
  induction bs generalizing c acc with
  | nil => exact ⟨c, h, rfl⟩
  | cons b bs ih =>
    obtain ⟨h32, h34, h92⟩ := hbs b (List.mem_cons_self ..)
    have hb : c.bump.rest = bs ++ more := by simp [h]
    obtain ⟨c', hc', heq⟩ := ih (fun x hx => hbs x (List.mem_cons_of_mem _ hx)) (b :: acc) hb
    refine ⟨c', hc', ?_⟩
    rw [readStringBody_plain (by simpa using h) h32 h34 h92, heq]
    simp

theorem hex4_control : ∀ n < 32,
    hex4? 48 48 (UInt8.ofNat (hexDigit (n / 16)).toNat) (UInt8.ofNat (hexDigit (n % 16)).toNat) =
      some n := by
  decide

theorem hexDigit_ascii : ∀ k < 16, (hexDigit k).toNat ≤ 127 := by decide

theorem readStringBody_char (ch : Char) {more : List UInt8} (acc : List UInt8) {c : Cursor}
    (h : c.rest = quotedBytes ch ++ more) :
    ∃ c', c'.rest = more ∧
      readStringBody c acc = readStringBody c' ((String.utf8EncodeChar ch).reverse ++ acc) := by
  unfold quotedBytes escapeChar at h
  split at h
  · subst ch
    have h' : c.rest = 92 :: 34 :: more := h
    exact ⟨c.bump.bump, by simp [h'], readStringBody_short h' rfl⟩
  split at h
  · subst ch
    have h' : c.rest = 92 :: 92 :: more := h
    exact ⟨c.bump.bump, by simp [h'], readStringBody_short h' rfl⟩
  split at h
  · subst ch
    have h' : c.rest = 92 :: 110 :: more := h
    exact ⟨c.bump.bump, by simp [h'], readStringBody_short h' rfl⟩
  split at h
  · subst ch
    have h' : c.rest = 92 :: 114 :: more := h
    exact ⟨c.bump.bump, by simp [h'], readStringBody_short h' rfl⟩
  split at h
  · subst ch
    have h' : c.rest = 92 :: 116 :: more := h
    exact ⟨c.bump.bump, by simp [h'], readStringBody_short h' rfl⟩
  split at h
  · rename_i h8
    have h' : c.rest = 92 :: 98 :: more := h
    refine ⟨c.bump.bump, by simp [h'], ?_⟩
    rw [readStringBody_short h' rfl, utf8EncodeChar_ascii (by omega), h8]
    rfl
  split at h
  · rename_i h12
    have h' : c.rest = 92 :: 102 :: more := h
    refine ⟨c.bump.bump, by simp [h'], ?_⟩
    rw [readStringBody_short h' rfl, utf8EncodeChar_ascii (by omega), h12]
    rfl
  split at h
  · -- another control character, written as four hex digits
    rename_i hlt
    have hd : ∀ k < 16, String.utf8EncodeChar (hexDigit k) = [UInt8.ofNat (hexDigit k).toNat] :=
      fun k hk => utf8EncodeChar_ascii (hexDigit_ascii k hk)
    have h' : c.rest = 92 :: 117 :: 48 :: 48 :: UInt8.ofNat (hexDigit (ch.toNat / 16)).toNat ::
        UInt8.ofNat (hexDigit (ch.toNat % 16)).toNat :: more := by
      rw [h]
      simp [hd _ (show ch.toNat / 16 < 16 by omega), hd _ (show ch.toNat % 16 < 16 by omega)]
      rfl
    obtain ⟨c', hc', heq⟩ : ∃ c', c'.rest = more ∧ readStringBody c acc = readStringBody c' _ :=
      readStringBody_unit h' (hex4_control _ hlt) (by omega)
    refine ⟨c', hc', ?_⟩
    rw [heq, utf8EncodeChar_ascii (by omega)]
    simp [utf8Rev, show ch.toNat < 128 by omega]
  · -- any other character stands as its own bytes
    rename_i hq hb _ _ _ _ _ hlt
    have h' : c.rest = String.utf8EncodeChar ch ++ more := by simpa using h
    exact readStringBody_plains _ (utf8EncodeChar_plain (by omega)
      (fun e => hq (Char.toNat_inj.1 e)) (fun e => hb (Char.toNat_inj.1 e))) acc h'

theorem readStringBody_chars (l : List Char) {rest : List UInt8} (acc : List UInt8) {c : Cursor}
    (h : c.rest = l.flatMap quotedBytes ++ 34 :: rest) :
    Yields (readStringBody c acc) (stringOfRev ((l.flatMap String.utf8EncodeChar).reverse ++ acc))
      rest := by
  induction l generalizing c acc with
  | nil => exact ⟨c.bump, readStringBody_close h, by simp [h]⟩
  | cons ch l ih =>
    rw [List.flatMap_cons, List.append_assoc] at h
    obtain ⟨c', hc', heq⟩ := readStringBody_char ch acc h
    rw [heq]
    simpa [List.reverse_append, List.append_assoc] using
      ih ((String.utf8EncodeChar ch).reverse ++ acc) hc'

theorem readStringBody_quote (s : String) {rest : List UInt8} {c : Cursor}
    (h : c.rest = s.toList.flatMap quotedBytes ++ 34 :: rest) :
    Yields (readStringBody c []) s rest := by
  have := readStringBody_chars s.toList [] h
  rwa [List.append_nil, ← utf8_toList, stringOfRev_utf8] at this

end Json

end TestConductor
