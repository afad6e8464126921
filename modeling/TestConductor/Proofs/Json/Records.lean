import TestConductor.Proofs.Json.RoundTrip
/-! # Reading records back

Data of a shape is read by the shape's own reader: a record written as an object has its fields
read one after another, each by the reader of the field's shape, and is then filled in declaration
order. The lemmas here read back the compact text of the data one shape at a time, so that a record
of known fields is read back by a chain of field steps.
-/
namespace TestConductor

namespace Json

variable {c : Cursor} {f d : Nat} {rest : List UInt8}

theorem readShape_any_compact (v : Json) (hv : Canonical v) (hd : depth v < d)
    (hf : (utf8 (compact v)).length < f + 1) (h : c.rest = utf8 (compact v) ++ rest)
    (hr : EndsValue rest) : Yields (readShape (f + 1) d .any c) v rest := by
  rw [readShape]
  exact readAny_compact v hv hd hf h hr

theorem readShape_units (names : List String) (s : String) (hs : names.contains s = true)
    (h : c.rest = utf8 (quote s) ++ rest) :
    Yields (readShape (f + 1) d (.units names) c) (.str s) rest := by
  rw [utf8_quote, List.cons_append, List.append_assoc, List.singleton_append] at h
  obtain ⟨c₁, hc₁, hr⟩ := @readStringBody_quote s rest c.bump (by simp [h])
  have hmem : s ∈ names := by simpa using hs
  have hcase : readCaseName names c = .ok (s, c₁) := by
    unfold readCaseName
    simp [skipBlank_of_cons h rfl, h, byte, hc₁, hmem]
  refine ⟨c₁, ?_, hr⟩
  rw [readShape]
  simp [skipBlank_of_cons h rfl, h, byte, hcase, bind, Except.bind, pure, Except.pure]

theorem readShape_unsigned (max : Nat) (name : String) {n : Nat} (hn : n ≤ max) (hmax : max < 2 ^ 64)
    (h : c.rest = utf8 (toString n) ++ rest) (hr : EndsNumber rest) :
    Yields (readShape (f + 1) d (.unsigned max name) c) (.num (.unsigned n)) rest := by
  obtain ⟨b, r, hbr, hb, -⟩ := utf8_toString_digits n
  have h' : c.rest = b :: (r ++ rest) := by rw [h, hbr]; rfl
  obtain ⟨c₁, hc₁, hr₁⟩ := readNumber_unsigned (by omega) h hr
  refine ⟨c₁, ?_, hr₁⟩
  rw [readShape]
  simp only [readInteger, skipBlank_of_cons h' (isBlank_of_isDigit hb), h']
  simp [ne_of_isDigit hb (v := byte '-') (by decide), hb, hc₁, checkInteger, Shape.checkUnsigned, hn]

variable {c₁ : Cursor} {more more' out : List UInt8} {first : Bool}

theorem readFields_next {fields : List (String × Shape × Missing)} {got : List (String × Json)}
    {k : String} {s : Shape} {miss : Missing} {v : Json} {c₂ : Cursor}
    (hk : nextKey first c = .ok (some (k, c₁))) (hc₁ : c₁.rest = 58 :: more)
    (hlook : fields.lookup k = some (s, miss)) (hnew : got.lookup k = none)
    (hv : readShape f d s c₁.bump = .ok (v, c₂)) :
    readFields (f + 1) d fields first c got = readFields f d fields false c₂ (got ++ [(k, v)]) := by
  rw [readFields, hk]
  simp only [hlook, hnew, Option.isSome_none, Bool.false_eq_true, if_false, readColon_colon hc₁, hv]

theorem readFields_step {fields : List (String × Shape × Missing)} {got res : List (String × Json)}
    {k : String} {s : Shape} {miss : Missing} {v : Json}
    (hk : nextKey first c = .ok (some (k, c₁))) (hc₁ : c₁.rest = 58 :: more)
    (hlook : fields.lookup k = some (s, miss)) (hnew : got.lookup k = none)
    (hv : ∀ c₂ : Cursor, c₂.rest = more → Yields (readShape f d s c₂) v more')
    (hrest : ∀ c₃ : Cursor, c₃.rest = more' →
      Yields (readFields f d fields false c₃ (got ++ [(k, v)])) res out) :
    Yields (readFields (f + 1) d fields first c got) res out := by
  obtain ⟨c₃, hc₃, hm⟩ := hv c₁.bump (by simp [hc₁])
  rw [readFields_next hk hc₁ hlook hnew hc₃]
  exact hrest c₃ hm

theorem readFields_end {fields : List (String × Shape × Missing)} {got : List (String × Json)}
    (h : c.rest = 125 :: rest) : Yields (readFields (f + 1) d fields first c got) got (125 :: rest) :=
  ⟨c, by rw [readFields, nextKey_close first h, skipBlank_of_cons h rfl], h⟩

theorem readShape_record {name : String} {fields : List (String × Shape × Missing)}
    {got fs : List (String × Json)} (h : c.rest = 123 :: more) (hd : 1 < d)
    (hf : Yields (readFields f (d - 1) fields true c.bump []) got (125 :: rest))
    (hfill : fillRecord fields got = .ok fs) :
    Yields (readShape (f + 1) d (.record name fields) c) (.obj fs) rest := by
  obtain ⟨c₁, hc₁, hr⟩ := hf
  refine ⟨c₁.bump, ?_, by simp [hr]⟩
  rw [readShape]
  simp [skipBlank_of_cons h rfl, h, byte, show ¬ d ≤ 1 by omega, hc₁, hfill, finishContainer,
    closeMap_close hr, bind, Except.bind, pure, Except.pure]

theorem readText_of_yields {shape : Shape} {s : String} {v : Json}
    (h : Yields (readShape (4 * (utf8 s).length + 16) depthLimit shape ⟨utf8 s, 1, 0⟩) v []) :
    readText shape s = .ok v := by
  obtain ⟨c₁, hc₁, hr⟩ := h
  have hs : c₁.skipBlank.rest = [] := by simp [Cursor.skipBlank, hr, Cursor.skipBlankFrom]
  unfold readText
  dsimp only [Cursor.ofString]
  simp only [hc₁, hs]

/-! ## Refusals -/

theorem readFields_fails_here {fields : List (String × Shape × Missing)}
    {got : List (String × Json)} {k : String} {s : Shape} {miss : Missing}
    (hk : nextKey first c = .ok (some (k, c₁))) (hc₁ : c₁.rest = 58 :: more)
    (hlook : fields.lookup k = some (s, miss)) (hnew : got.lookup k = none)
    (hv : Fails (readShape f d s c₁.bump)) : Fails (readFields (f + 1) d fields first c got) := by
  obtain ⟨e, he⟩ := hv
  refine ⟨e, ?_⟩
  rw [readFields, hk]
  simp only [hlook, hnew, Option.isSome_none, Bool.false_eq_true, if_false, readColon_colon hc₁, he]

theorem readFields_fails_later {fields : List (String × Shape × Missing)}
    {got : List (String × Json)} {k : String} {s : Shape} {miss : Missing} {v : Json}
    (hk : nextKey first c = .ok (some (k, c₁))) (hc₁ : c₁.rest = 58 :: more)
    (hlook : fields.lookup k = some (s, miss)) (hnew : got.lookup k = none)
    (hv : ∀ c₂ : Cursor, c₂.rest = more → Yields (readShape f d s c₂) v more')
    (hrest : ∀ c₃ : Cursor, c₃.rest = more' → Fails (readFields f d fields false c₃ (got ++ [(k, v)]))) :
    Fails (readFields (f + 1) d fields first c got) := by
  obtain ⟨c₃, hc₃, hm⟩ := hv c₁.bump (by simp [hc₁])
  rw [readFields_next hk hc₁ hlook hnew hc₃]
  exact hrest c₃ hm

theorem readShape_record_fails {name : String} {fields : List (String × Shape × Missing)}
    (h : c.rest = 123 :: more) (hd : 1 < d) (hf : Fails (readFields f (d - 1) fields true c.bump [])) :
    Fails (readShape (f + 1) d (.record name fields) c) := by
  obtain ⟨e, he⟩ := hf
  rw [readShape]
  simp only [skipBlank_of_cons h rfl, h]
  simp only [byte, if_neg (show ¬ d ≤ 1 by omega), he]
  exact Fails.finishContainer ⟨e, rfl⟩

theorem readText_of_fails {shape : Shape} {s : String}
    (h : Fails (readShape (4 * (utf8 s).length + 16) depthLimit shape ⟨utf8 s, 1, 0⟩)) :
    ∃ fault, readText shape s = .error fault := by
  obtain ⟨⟨fault, c₁⟩, he⟩ := h
  refine ⟨fault, ?_⟩
  unfold readText
  dsimp only [Cursor.ofString]
  simp only [he]

end Json

end TestConductor
