import TestConductor.Proofs.Json.Records
/-! # Nesting too deep is refused

The reader allows containers to nest only so deep, and refuses a container met where no level is
left. So the compact text of a value that nests at least as deep as the levels left is refused,
whatever follows it: the items before the first one that nests too deep are read as they are, and
that one is refused. With the round trip, a value that reading keeps is parsed back from its
compact text exactly when it nests less deep than the reader allows.
-/
namespace TestConductor

namespace Json

section Steps

variable {c c₁ : Cursor} {g d : Nat} {first : Bool} {more more' : List UInt8}

theorem readAnyItems_fails_here {acc : List Json} (hn : nextItem first c = .ok (some c₁))
    (hx : Fails (readAny g d c₁)) : Fails (readAnyItems (g + 1) d first c acc) := by
  obtain ⟨e, he⟩ := hx
  exact ⟨e, by rw [readAnyItems, hn]; simp only [he]⟩

theorem readAnyItems_fails_later {acc : List Json} {x : Json} (hn : nextItem first c = .ok (some c₁))
    (hx : Yields (readAny g d c₁) x more)
    (hrest : ∀ c₂ : Cursor, c₂.rest = more → Fails (readAnyItems g d false c₂ (x :: acc))) :
    Fails (readAnyItems (g + 1) d first c acc) := by
  obtain ⟨c₂, hc₂, hm⟩ := hx
  rw [readAnyItems_next hn hc₂]
  exact hrest c₂ hm

theorem readAnyFields_fails_here {acc : List (String × Json)} {k : String}
    (hk : nextKey first c = .ok (some (k, c₁))) (hc₁ : c₁.rest = 58 :: more)
    (hv : Fails (readAny g d c₁.bump)) : Fails (readAnyFields (g + 1) d first c acc) := by
  obtain ⟨e, he⟩ := hv
  exact ⟨e, by rw [readAnyFields, hk]; simp only [readColon_colon hc₁, he]⟩

theorem readAnyFields_fails_later {acc : List (String × Json)} {k : String} {v : Json}
    (hk : nextKey first c = .ok (some (k, c₁))) (hc₁ : c₁.rest = 58 :: more)
    (hv : Yields (readAny g d c₁.bump) v more')
    (hrest : ∀ c₃ : Cursor, c₃.rest = more' →
      Fails (readAnyFields g d false c₃ (insertField k v acc))) :
    Fails (readAnyFields (g + 1) d first c acc) := by
  obtain ⟨c₃, hc₃, hm⟩ := hv
  rw [readAnyFields_next hk hc₁ hc₃]
  exact hrest c₃ hm

end Steps

mutual
theorem readAny_deep (v : Json) (hv : Canonical v) {f d : Nat} {c : Cursor} {rest : List UInt8}
    (hd : d ≤ depth v) (hd0 : 0 < d) (hf : (utf8 (compact v)).length < f)
    (h : c.rest = utf8 (compact v) ++ rest) : Fails (readAny f d c) := by
  obtain ⟨f, rfl⟩ : ∃ f', f = f' + 1 := ⟨f - 1, by omega⟩
  match v, hv with
  | .null, _ | .bool _, _ | .num _, _ | .str _, _ =>
    simp only [depth] at hd
    omega
  | .arr xs, hxs =>
    rw [utf8_compact_arr] at h hf
    simp only [depth] at hd
    simp only [List.length_cons, List.length_append, List.length_nil] at hf
    by_cases h1 : d ≤ 1
    · exact ⟨_, readAny_tooDeep h (.inl rfl) h1⟩
    have hi : c.bump.rest = utf8 (compactItems xs) ++ 93 :: rest := by simp [h]
    rw [readAny_array h (by omega)]
    exact (readAnyItems_deep_first xs hxs (g := f) (d := d - 1) (by omega) (by omega) (by omega)
      hi).map.finishContainer
  | .obj fs, ⟨_, hfs⟩ =>
    rw [utf8_compact_obj] at h hf
    simp only [depth] at hd
    simp only [List.length_cons, List.length_append, List.length_nil] at hf
    by_cases h1 : d ≤ 1
    · exact ⟨_, readAny_tooDeep h (.inr rfl) h1⟩
    have hi : c.bump.rest = utf8 (compactFields fs) ++ 125 :: rest := by simp [h]
    rw [readAny_object h (by omega)]
    exact (readAnyFields_deep_first fs hfs (g := f) (d := d - 1) (by omega) (by omega) (by omega)
      hi).map.finishContainer

theorem readAnyItems_deep_first (xs : List Json) (hxs : CanonicalItems xs) {g d : Nat} {c : Cursor}
    {rest : List UInt8} (hd : d ≤ depthItems xs) (hd0 : 0 < d)
    (hg : (utf8 (compactItems xs)).length + 1 < g) (h : c.rest = utf8 (compactItems xs) ++ 93 :: rest) :
    Fails (readAnyItems g d true c []) := by
  obtain ⟨g, rfl⟩ : ∃ g', g = g' + 1 := ⟨g - 1, by omega⟩
  match xs, hxs with
  | [], _ =>
    simp only [depthItems] at hd
    omega
  | x :: xs, ⟨hx, hxs⟩ =>
    rw [utf8_compactItems] at h hg
    simp only [depthItems] at hd
    obtain ⟨b, r, hbr, hbl, -, h93, -⟩ := compact_head x hx
    simp only [List.length_append] at hg
    have hn : nextItem true c = .ok (some c) := nextItem_first (by rw [h, hbr]; rfl) hbl h93
    have hx' : c.rest = utf8 (compact x) ++ (itemsTail xs ++ 93 :: rest) := by
      rw [h, List.append_assoc]
    by_cases hdx : d ≤ depth x
    · exact readAnyItems_fails_here hn (readAny_deep x hx hdx hd0 (by omega) hx')
    · exact readAnyItems_fails_later hn
        (readAny_compact x hx (by omega) (by omega) hx' (endsValue_itemsTail xs rest))
        fun c₂ hc₂ => readAnyItems_deep_rest xs hxs [x] (by omega) hd0 (by omega) hc₂

theorem readAnyItems_deep_rest (xs : List Json) (hxs : CanonicalItems xs) (acc : List Json)
    {g d : Nat} {c : Cursor} {rest : List UInt8} (hd : d ≤ depthItems xs) (hd0 : 0 < d)
    (hg : (itemsTail xs).length < g) (h : c.rest = itemsTail xs ++ 93 :: rest) :
    Fails (readAnyItems g d false c acc) := by
  obtain ⟨g, rfl⟩ : ∃ g', g = g' + 1 := ⟨g - 1, by omega⟩
  match xs, hxs with
  | [], _ =>
    simp only [depthItems] at hd
    omega
  | x :: xs, ⟨hx, hxs⟩ =>
    simp only [itemsTail_cons] at h hg
    simp only [depthItems] at hd
    obtain ⟨b, r, hbr, hbl, -, h93, -⟩ := compact_head x hx
    simp only [List.length_cons, List.length_append] at hg
    have hn : nextItem false c = .ok (some c.bump) := nextItem_comma (by rw [h, hbr]; rfl) hbl h93
    have hx' : c.bump.rest = utf8 (compact x) ++ (itemsTail xs ++ 93 :: rest) := by simp [h]
    by_cases hdx : d ≤ depth x
    · exact readAnyItems_fails_here hn (readAny_deep x hx hdx hd0 (by omega) hx')
    · exact readAnyItems_fails_later hn
        (readAny_compact x hx (by omega) (by omega) hx' (endsValue_itemsTail xs rest))
        fun c₂ hc₂ => readAnyItems_deep_rest xs hxs (x :: acc) (by omega) hd0 (by omega) hc₂

theorem readAnyFields_deep_first (fs : List (String × Json)) (hfs : CanonicalFields fs)
    {g d : Nat} {c : Cursor} {rest : List UInt8} (hd : d ≤ depthFields fs) (hd0 : 0 < d)
    (hg : (utf8 (compactFields fs)).length + 1 < g)
    (h : c.rest = utf8 (compactFields fs) ++ 125 :: rest) :
    Fails (readAnyFields g d true c []) := by
  obtain ⟨g, rfl⟩ : ∃ g', g = g' + 1 := ⟨g - 1, by omega⟩
  match fs, hfs with
  | [], _ =>
    simp only [depthFields] at hd
    omega
  | (k, v) :: fs, ⟨hv, hfs⟩ =>
    rw [utf8_compactFields] at h hg
    simp only [depthFields] at hd
    simp only [fieldBytes, List.length_append, List.length_cons, List.append_assoc,
      List.cons_append] at h hg
    obtain ⟨c₁, hk, hc₁⟩ := nextKey_first_quote k (by rw [h])
    have hv' : c₁.bump.rest = utf8 (compact v) ++ (fieldsTail fs ++ 125 :: rest) := by simp [hc₁]
    by_cases hdv : d ≤ depth v
    · exact readAnyFields_fails_here hk hc₁ (readAny_deep v hv hdv hd0 (by omega) hv')
    · exact readAnyFields_fails_later hk hc₁
        (readAny_compact v hv (by omega) (by omega) hv' (endsValue_fieldsTail fs rest))
        fun c₃ hc₃ => readAnyFields_deep_rest fs hfs _ (by omega) hd0 (by omega) hc₃

theorem readAnyFields_deep_rest (fs : List (String × Json)) (hfs : CanonicalFields fs)
    (acc : List (String × Json)) {g d : Nat} {c : Cursor} {rest : List UInt8}
    (hd : d ≤ depthFields fs) (hd0 : 0 < d) (hg : (fieldsTail fs).length < g)
    (h : c.rest = fieldsTail fs ++ 125 :: rest) :
    Fails (readAnyFields g d false c acc) := by
  obtain ⟨g, rfl⟩ : ∃ g', g = g' + 1 := ⟨g - 1, by omega⟩
  match fs, hfs with
  | [], _ =>
    simp only [depthFields] at hd
    omega
  | (k, v) :: fs, ⟨hv, hfs⟩ =>
    simp only [fieldsTail_cons] at h hg
    simp only [depthFields] at hd
    simp only [fieldBytes, List.length_append, List.length_cons, List.append_assoc,
      List.cons_append] at h hg
    obtain ⟨c₁, hk, hc₁⟩ := nextKey_comma_quote k (by rw [h])
    have hv' : c₁.bump.rest = utf8 (compact v) ++ (fieldsTail fs ++ 125 :: rest) := by simp [hc₁]
    by_cases hdv : d ≤ depth v
    · exact readAnyFields_fails_here hk hc₁ (readAny_deep v hv hdv hd0 (by omega) hv')
    · exact readAnyFields_fails_later hk hc₁
        (readAny_compact v hv (by omega) (by omega) hv' (endsValue_fieldsTail fs rest))
        fun c₃ hc₃ => readAnyFields_deep_rest fs hfs _ (by omega) hd0 (by omega) hc₃
end

theorem readShape_any_deep (v : Json) (hv : Canonical v) {f d : Nat} {c : Cursor}
    {rest : List UInt8} (hd : d ≤ depth v) (hd0 : 0 < d) (hf : (utf8 (compact v)).length < f + 1)
    (h : c.rest = utf8 (compact v) ++ rest) : Fails (readShape (f + 1) d .any c) := by
  rw [readShape]
  exact readAny_deep v hv hd hd0 hf h

theorem parse_deep (v : Json) (hv : Canonical v) (hd : depthLimit ≤ depth v) :
    ∃ fault, parse (compact v) = .error fault :=
  readText_of_fails (readShape_any_deep v hv hd (by decide) (by omega) (List.append_nil _).symm)

theorem parse_compact_iff (v : Json) (hv : Canonical v) :
    parse (compact v) = .ok v ↔ depth v < depthLimit := by
  constructor
  · intro h
    by_cases hd : depthLimit ≤ depth v
    · obtain ⟨fault, hf⟩ := parse_deep v hv hd
      rw [hf] at h
      cases h
    · omega
  · exact parse_compact v hv

end Json

end TestConductor
