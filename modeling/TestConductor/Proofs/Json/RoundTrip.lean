import TestConductor.Proofs.Json.Numbers
/-! # Reading back the compact text of a value

`readAny` gives back every value that `compact` writes, followed by anything that may follow a
value, when the value is one that reading keeps as it is (`Canonical`: integers within their
ranges, floats whose own text is parsed back as them, object fields sorted by name with no name
twice) and nests less deep than the reader allows. Reading takes a value's first byte to choose
what to read; containers are read an item at a time, each step on one unit of fuel.
-/
namespace TestConductor

namespace Json

/-! ## Reading a value from its first byte -/

section Head

variable {c : Cursor} {f d : Nat} {b : UInt8} {r rest : List UInt8}

theorem readAny_head (h : c.rest = b :: r) (hb : Cursor.isBlank b = false) :
    readAny (f + 1) d c =
      if b == byte 'n' then do let c ← readKeyword (utf8 "ull") c.bump; pure (.null, c)
      else if b == byte 't' then do let c ← readKeyword (utf8 "rue") c.bump; pure (.bool true, c)
      else if b == byte 'f' then do let c ← readKeyword (utf8 "alse") c.bump; pure (.bool false, c)
      else if b == byte '-' then do let (n, c) ← readNumber false c.bump; pure (.num n, c)
      else if isDigit b then do let (n, c) ← readNumber true c; pure (.num n, c)
      else if b == byte '"' then do let (s, c) ← readStringBody c.bump []; pure (.str s, c)
      else if b == byte '[' then
        if d ≤ 1 then faultAt .recursionLimit c.ahead c
        else finishContainer closeSeq
          ((readAnyItems f (d - 1) true c.bump []).map fun (xs, c) => (.arr xs, c))
      else if b == byte '{' then
        if d ≤ 1 then faultAt .recursionLimit c.ahead c
        else finishContainer closeMap
          ((readAnyFields f (d - 1) true c.bump []).map fun (fs, c) => (.obj fs, c))
      else faultAt .expectedValue c.ahead c := by
  have hs : c.skipBlank = c := Cursor.skipBlank_of_head (by simp [h, hb])
  rw [readAny]
  simp only [hs, h]

theorem isBlank_of_isDigit (hb : isDigit b = true) : Cursor.isBlank b = false := by
  simp [Cursor.isBlank, ne_of_isDigit hb (v := 32) (by decide), ne_of_isDigit hb (v := 9) (by decide),
    ne_of_isDigit hb (v := 10) (by decide), ne_of_isDigit hb (v := 13) (by decide)]

theorem readAny_minus (h : c.rest = 45 :: r) :
    readAny (f + 1) d c = (do let (n, c) ← readNumber false c.bump; pure (.num n, c)) := by
  rw [readAny_head h rfl]
  rfl

theorem readAny_digit (h : c.rest = b :: r) (hb : isDigit b = true) :
    readAny (f + 1) d c = (do let (n, c) ← readNumber true c; pure (.num n, c)) := by
  rw [readAny_head h (isBlank_of_isDigit hb)]
  simp [ne_of_isDigit hb (v := byte 'n') (by decide), ne_of_isDigit hb (v := byte 't') (by decide),
    ne_of_isDigit hb (v := byte 'f') (by decide), ne_of_isDigit hb (v := byte '-') (by decide), hb]

theorem readAny_expected (h : c.rest = b :: r) (hb : b = 46 ∨ b = 43 ∨ b = 101) :
    readAny (f + 1) d c = faultAt .expectedValue c.ahead c := by
  rcases hb with rfl | rfl | rfl <;> rw [readAny_head h rfl] <;> rfl

theorem readAny_array (h : c.rest = 91 :: r) (hd : 1 < d) :
    readAny (f + 1) d c = finishContainer closeSeq
      ((readAnyItems f (d - 1) true c.bump []).map fun (xs, c) => (.arr xs, c)) := by
  rw [readAny_head h rfl]
  simp [byte, show ¬ d ≤ 1 by omega, show isDigit 91 = false from rfl]

theorem readAny_object (h : c.rest = 123 :: r) (hd : 1 < d) :
    readAny (f + 1) d c = finishContainer closeMap
      ((readAnyFields f (d - 1) true c.bump []).map fun (fs, c) => (.obj fs, c)) := by
  rw [readAny_head h rfl]
  simp [byte, show ¬ d ≤ 1 by omega, show isDigit 123 = false from rfl]

theorem readAny_tooDeep (h : c.rest = b :: r) (hb : b = 91 ∨ b = 123) (hd : d ≤ 1) :
    readAny (f + 1) d c = faultAt .recursionLimit c.ahead c := by
  rcases hb with rfl | rfl
  · rw [readAny_head h rfl]
    simp [byte, hd, show isDigit 91 = false from rfl]
  · rw [readAny_head h rfl]
    simp [byte, hd, show isDigit 123 = false from rfl]

theorem readAny_keyword {b : UInt8} {es : List UInt8} {v : Json} (hr : c.rest = b :: es ++ rest)
    (heq : readAny (f + 1) d c = do let c ← readKeyword es c.bump; pure (v, c)) :
    Yields (readAny (f + 1) d c) v rest := by
  obtain ⟨c', hc', hr'⟩ := readKeyword_passes es rest (c := c.bump) (by simp [hr])
  exact ⟨c', by rw [heq, hc']; rfl, hr'⟩

theorem readAny_null (h : c.rest = utf8 "null" ++ rest) : Yields (readAny (f + 1) d c) .null rest :=
  readAny_keyword h (readAny_head (r := utf8 "ull" ++ rest) h rfl)

theorem readAny_true (h : c.rest = utf8 "true" ++ rest) :
    Yields (readAny (f + 1) d c) (.bool true) rest :=
  readAny_keyword h (readAny_head (r := utf8 "rue" ++ rest) h rfl)

theorem readAny_false (h : c.rest = utf8 "false" ++ rest) :
    Yields (readAny (f + 1) d c) (.bool false) rest :=
  readAny_keyword h (readAny_head (r := utf8 "alse" ++ rest) h rfl)

theorem readAny_string (s : String) (h : c.rest = utf8 (quote s) ++ rest) :
    Yields (readAny (f + 1) d c) (.str s) rest := by
  rw [utf8_quote, List.cons_append, List.append_assoc, List.singleton_append] at h
  obtain ⟨c', hc', hr'⟩ := @readStringBody_quote s rest c.bump (by simp [h])
  exact ⟨c', by rw [readAny_head h rfl]; simp [byte, hc', show isDigit 34 = false from rfl, bind,
    Except.bind, pure, Except.pure], hr'⟩

end Head

/-! ## Numbers -/

/-- A number that reading keeps as it is: an unsigned integer below `2^64`, a negative one of at
least `-2^63`, and a float whose own text is parsed back as it. -/
def Number.Canonical : Number → Prop
  | .unsigned m => m < 2 ^ 64
  | .negative m => -2 ^ 63 ≤ m ∧ m < 0
  | .float x => parse (Number.render (.float x)) = .ok (.num (.float x))

section Numbers

variable {c : Cursor} {f d : Nat} {rest : List UInt8}

theorem parse_ok {s : String} {v : Json} (h : parse s = .ok v) :
    ∃ c₁, readAny (4 * (utf8 s).length + 15 + 1) depthLimit ⟨utf8 s, 1, 0⟩ = .ok (v, c₁) ∧
      c₁.skipBlank.rest = [] := by
  unfold parse readText at h
  dsimp only [Cursor.ofString] at h
  rw [show 4 * (utf8 s).length + 16 = 4 * (utf8 s).length + 15 + 1 from rfl, readShape] at h
  split at h
  · cases h
  rename_i v' c₁ heq
  split at h
  · rename_i hc
    cases h
    exact ⟨c₁, heq, hc⟩
  · cases h

theorem readNumber_of_bind {r : Except Failure (Number × Cursor)} {v : Json} {c₁ : Cursor}
    (h : (do let (n, c) ← r; pure (Json.num n, c)) = .ok (v, c₁)) :
    ∃ n, v = .num n ∧ r = .ok (n, c₁) := by
  cases r with
  | error e => cases h
  | ok nc =>
    obtain ⟨n, c'⟩ := nc
    simp only [bind, Except.bind, pure, Except.pure, Except.ok.injEq, Prod.mk.injEq] at h
    obtain ⟨rfl, rfl⟩ := h
    exact ⟨n, rfl, rfl⟩

theorem yields_bind_num {r : Except Failure (Number × Cursor)} {n : Number}
    (h : Yields r n rest) : Yields (do let (n, c) ← r; pure (Json.num n, c)) (.num n) rest := by
  obtain ⟨c', rfl, hc'⟩ := h
  exact ⟨c', rfl, hc'⟩

theorem rest_eq_nil {c₁ : Cursor} (h : c₁.skipBlank.rest = [])
    (hb : ∀ b ∈ c₁.rest, Cursor.isBlank b = false) : c₁.rest = [] := by
  cases hc : c₁.rest with
  | nil => rfl
  | cons b r =>
    rw [Cursor.skipBlank_of_head (by simp [hc, hb b (by simp [hc])]), hc] at h
    cases h

theorem readAny_float (x : Binary64) (hx : (Number.float x).Canonical)
    (h : c.rest = utf8 (Number.render (.float x)) ++ rest) (hr : EndsNumber rest) :
    Yields (readAny (f + 1) d c) (.num (.float x)) rest := by
  obtain ⟨c₁, hread, hblank⟩ := parse_ok hx
  have hnb := utf8_numberText (render_numberText (.float x))
  generalize utf8 (Number.render (.float x)) = bs at h hread hnb
  cases bs with
  | nil => simp [readAny, Cursor.skipBlank, Cursor.skipBlankFrom, faultAt] at hread
  | cons b r =>
    have h0 : (⟨b :: r, 1, 0⟩ : Cursor).rest = b :: r := rfl
    -- reading the text alone stops at its end, as no byte of it is blank
    have hend : ∀ {c₀ : Cursor}, c₀.rest <:+ b :: r → c₁.rest <:+ c₀.rest → c₁.rest = [] :=
      fun h₀ h₁ => rest_eq_nil hblank fun b' hb' => (hnb b' ((h₁.trans h₀).subset hb')).2
    rcases (hnb b (List.mem_cons_self ..)).1 with h45 | hd | hother
    · subst h45
      rw [readAny_minus h0] at hread
      obtain ⟨n, hn, hrn⟩ := readNumber_of_bind hread
      cases hn
      have hc₁ := hend (Cursor.bump_suffix _) (readNumber_suffix hrn)
      have := readNumber_extend hr hrn (show c.bump.rest = _ by simp [h])
      rw [hc₁, List.nil_append] at this
      rw [readAny_minus h]
      exact yields_bind_num this
    · rw [readAny_digit h0 hd] at hread
      obtain ⟨n, hn, hrn⟩ := readNumber_of_bind hread
      cases hn
      have hc₁ := hend (List.suffix_refl _) (readNumber_suffix hrn)
      have := readNumber_extend hr hrn (show c.rest = _ by simp [h])
      rw [hc₁, List.nil_append] at this
      rw [readAny_digit h hd]
      exact yields_bind_num this
    · rw [readAny_expected h0 hother] at hread
      cases hread

theorem Number.Canonical.head {n : Number} (hn : n.Canonical) :
    ∃ b r, utf8 n.render = b :: r := by
  cases n with
  | unsigned m =>
    obtain ⟨b, r, hbr, -⟩ := utf8_toString_digits m
    exact ⟨b, r, hbr⟩
  | negative m =>
    obtain ⟨-, hneg⟩ := hn
    obtain ⟨k, hk0, rfl⟩ : ∃ k : Nat, 0 < k ∧ m = -(k : Int) := ⟨m.natAbs, by omega, by omega⟩
    exact ⟨45, utf8 (toString k), by rw [Number.render, toString_negative hk0, utf8_append]; rfl⟩
  | float x =>
    obtain ⟨c₁, hread, -⟩ := parse_ok hn
    cases hbs : utf8 (Number.render (.float x)) with
    | nil =>
      rw [hbs] at hread
      simp [readAny, Cursor.skipBlank, Cursor.skipBlankFrom, faultAt] at hread
    | cons b r => exact ⟨b, r, rfl⟩

theorem readAny_number (n : Number) (hn : n.Canonical) (h : c.rest = utf8 n.render ++ rest)
    (hr : EndsNumber rest) : Yields (readAny (f + 1) d c) (.num n) rest := by
  cases n with
  | unsigned m =>
    obtain ⟨b, r, hbr, hb, -⟩ := utf8_toString_digits m
    have h' : c.rest = b :: (r ++ rest) := by rw [h, Number.render, hbr]; rfl
    rw [readAny_digit h' hb]
    exact yields_bind_num (readNumber_unsigned hn h hr)
  | negative m =>
    obtain ⟨hlo, hneg⟩ := hn
    obtain ⟨k, hk0, rfl⟩ : ∃ k : Nat, 0 < k ∧ m = -(k : Int) := ⟨m.natAbs, by omega, by omega⟩
    have h' : c.rest = 45 :: (utf8 (toString k) ++ rest) := by
      rw [h, Number.render, toString_negative hk0, utf8_append]
      rfl
    rw [readAny_minus h']
    exact yields_bind_num (readNumber_negative hk0 (by omega) (by simp [h']) hr)
  | float x => exact readAny_float x hn h hr

end Numbers

/-! ## Values that reading keeps -/

mutual
/-- A value that reading gives back as it is: its numbers are kept, and every object has its
fields sorted by name with no name twice, as reading leaves them. -/
def Canonical : Json → Prop
  | .null => True
  | .bool _ => True
  | .num n => n.Canonical
  | .str _ => True
  | .arr xs => CanonicalItems xs
  | .obj fs => (fs.map Prod.fst).Pairwise (· < ·) ∧ CanonicalFields fs

def CanonicalItems : List Json → Prop
  | [] => True
  | x :: xs => Canonical x ∧ CanonicalItems xs

def CanonicalFields : List (String × Json) → Prop
  | [] => True
  | (_, v) :: fs => Canonical v ∧ CanonicalFields fs
end

mutual
/-- How deep containers nest in a value: not at all in a scalar, one more in a container than in
its deepest item. -/
def depth : Json → Nat
  | .null => 0
  | .bool _ => 0
  | .num _ => 0
  | .str _ => 0
  | .arr xs => depthItems xs + 1
  | .obj fs => depthFields fs + 1

def depthItems : List Json → Nat
  | [] => 0
  | x :: xs => max (depth x) (depthItems xs)

def depthFields : List (String × Json) → Nat
  | [] => 0
  | (_, v) :: fs => max (depth v) (depthFields fs)
end

/-! ## The compact text of containers -/

def EndsValue (rest : List UInt8) : Prop := ∀ b ∈ rest.head?, b = 44 ∨ b = 93 ∨ b = 125

theorem EndsValue.endsNumber {rest : List UInt8} (h : EndsValue rest) : EndsNumber rest := by
  intro b hb
  rcases h b hb with rfl | rfl | rfl <;> decide

def itemsTail (xs : List Json) : List UInt8 := xs.flatMap fun x => 44 :: utf8 (compact x)

def fieldBytes (kv : String × Json) : List UInt8 := utf8 (quote kv.1) ++ 58 :: utf8 (compact kv.2)

def fieldsTail (fs : List (String × Json)) : List UInt8 := fs.flatMap fun kv => 44 :: fieldBytes kv

@[simp] theorem itemsTail_nil : itemsTail [] = [] := rfl

@[simp] theorem itemsTail_cons (x : Json) (xs : List Json) :
    itemsTail (x :: xs) = 44 :: (utf8 (compact x) ++ itemsTail xs) := rfl

@[simp] theorem fieldsTail_nil : fieldsTail [] = [] := rfl

@[simp] theorem fieldsTail_cons (kv : String × Json) (fs : List (String × Json)) :
    fieldsTail (kv :: fs) = 44 :: (fieldBytes kv ++ fieldsTail fs) := rfl

theorem utf8_compactItems (x : Json) (xs : List Json) :
    utf8 (compactItems (x :: xs)) = utf8 (compact x) ++ itemsTail xs := by
  induction xs generalizing x with
  | nil => simp [compactItems]
  | cons y ys ih =>
    rw [compactItems, utf8_append, utf8_append, ih, List.append_assoc]
    · rfl
    · exact List.cons_ne_nil _ _

theorem utf8_compactFields (kv : String × Json) (fs : List (String × Json)) :
    utf8 (compactFields (kv :: fs)) = fieldBytes kv ++ fieldsTail fs := by
  induction fs generalizing kv with
  | nil =>
    obtain ⟨k, v⟩ := kv
    simp [compactFields, fieldBytes]
    rfl
  | cons kv' fs ih =>
    obtain ⟨k, v⟩ := kv
    obtain ⟨k', v'⟩ := kv'
    rw [compactFields, utf8_append, utf8_append, utf8_append, utf8_append, ih]
    · simp [fieldBytes]
      rfl
    · exact List.cons_ne_nil _ _

theorem utf8_compact_arr (xs : List Json) :
    utf8 (compact (.arr xs)) = 91 :: (utf8 (compactItems xs) ++ [93]) := by
  rw [compact, utf8_append, utf8_append]
  rfl

theorem utf8_compact_obj (fs : List (String × Json)) :
    utf8 (compact (.obj fs)) = 123 :: (utf8 (compactFields fs) ++ [125]) := by
  rw [compact, utf8_append, utf8_append]
  rfl

theorem compact_head (v : Json) (hv : Canonical v) :
    ∃ b r, utf8 (compact v) = b :: r ∧ Cursor.isBlank b = false ∧ b ≠ 44 ∧ b ≠ 93 ∧ b ≠ 125 := by
  cases v with
  | null => exact ⟨110, _, rfl, rfl, by decide, by decide, by decide⟩
  | bool bv => cases bv <;> exact ⟨_, _, rfl, rfl, by decide, by decide, by decide⟩
  | num n =>
    obtain ⟨b, r, hbr⟩ := Number.Canonical.head hv
    obtain ⟨hcls, hbl⟩ := utf8_numberText (render_numberText n) b (by rw [hbr]; exact List.mem_cons_self ..)
    refine ⟨b, r, hbr, hbl, ?_⟩
    rcases hcls with rfl | hd | rfl | rfl | rfl
    · decide
    · exact ⟨ne_of_isDigit hd (by decide), ne_of_isDigit hd (by decide), ne_of_isDigit hd (by decide)⟩
    all_goals decide
  | str s => exact ⟨34, _, by rw [compact, utf8_quote], rfl, by decide, by decide, by decide⟩
  | arr xs => exact ⟨91, _, utf8_compact_arr xs, rfl, by decide, by decide, by decide⟩
  | obj fs => exact ⟨123, _, utf8_compact_obj fs, rfl, by decide, by decide, by decide⟩

/-! ## Reading containers a step at a time -/

section Containers

variable {c c₁ : Cursor} {b : UInt8} {r rest more out : List UInt8} {g d : Nat} {first : Bool}

theorem skipBlank_of_cons (h : c.rest = b :: r) (hb : Cursor.isBlank b = false) : c.skipBlank = c :=
  Cursor.skipBlank_of_head (by simp [h, hb])

theorem nextItem_close (first : Bool) (h : c.rest = 93 :: rest) : nextItem first c = .ok none := by
  unfold nextItem
  simp only [skipBlank_of_cons h rfl, h]
  rfl

theorem nextItem_first (h : c.rest = b :: r) (hbl : Cursor.isBlank b = false) (h93 : b ≠ 93) :
    nextItem true c = .ok (some c) := by
  unfold nextItem
  simp [skipBlank_of_cons h hbl, h, byte, h93]

theorem nextItem_comma (h : c.rest = 44 :: b :: r) (hbl : Cursor.isBlank b = false) (h93 : b ≠ 93) :
    nextItem false c = .ok (some c.bump) := by
  have hb : c.bump.rest = b :: r := by simp [h]
  unfold nextItem
  simp [skipBlank_of_cons h rfl, h, byte, skipBlank_of_cons hb hbl, h93]

theorem nextKey_close (first : Bool) (h : c.rest = 125 :: rest) : nextKey first c = .ok none := by
  unfold nextKey
  simp only [skipBlank_of_cons h rfl, h]
  rfl

theorem nextKey_first (h : c.rest = 34 :: r) :
    nextKey true c = (do let (k, c) ← readStringBody c.bump []; pure (some (k, c))) := by
  unfold nextKey
  simp [skipBlank_of_cons h rfl, h, byte]

theorem nextKey_comma (h : c.rest = 44 :: 34 :: r) :
    nextKey false c = (do let (k, c) ← readStringBody c.bump.bump []; pure (some (k, c))) := by
  have hb : c.bump.rest = 34 :: r := by simp [h]
  unfold nextKey
  simp [skipBlank_of_cons h rfl, h, byte, skipBlank_of_cons hb rfl]

theorem readColon_colon (h : c.rest = 58 :: r) : readColon c = .ok c.bump := by
  unfold readColon
  simp only [skipBlank_of_cons h rfl, h]
  rfl

theorem closeSeq_close (h : c.rest = 93 :: r) : closeSeq c = .ok c.bump := by
  unfold closeSeq
  simp only [skipBlank_of_cons h rfl, h]
  rfl

theorem closeMap_close (h : c.rest = 125 :: r) : closeMap c = .ok c.bump := by
  unfold closeMap
  simp only [skipBlank_of_cons h rfl, h]
  rfl

theorem Fails.map {α β : Type} {r : Except Failure α} {f : α → β} (h : Fails r) :
    Fails (r.map f) := by
  obtain ⟨e, rfl⟩ := h
  exact ⟨e, rfl⟩

theorem Fails.finishContainer {α : Type} {close : Cursor → Except Failure Cursor}
    {r : Except Failure (α × Cursor)} (h : Fails r) : Fails (finishContainer close r) := by
  obtain ⟨⟨fault, c⟩, rfl⟩ := h
  simp only [Json.finishContainer]
  unfold placeFault
  split <;> exact ⟨_, rfl⟩

theorem readAnyItems_next {acc : List Json} {x : Json} {c₂ : Cursor}
    (hn : nextItem first c = .ok (some c₁)) (hx : readAny g d c₁ = .ok (x, c₂)) :
    readAnyItems (g + 1) d first c acc = readAnyItems g d false c₂ (x :: acc) := by
  rw [readAnyItems, hn]
  simp only [hx]

theorem readAnyItems_step {acc res : List Json} {x : Json} (hn : nextItem first c = .ok (some c₁))
    (hx : Yields (readAny g d c₁) x more)
    (hrest : ∀ c₂ : Cursor, c₂.rest = more → Yields (readAnyItems g d false c₂ (x :: acc)) res out) :
    Yields (readAnyItems (g + 1) d first c acc) res out := by
  obtain ⟨c₂, hc₂, hm⟩ := hx
  rw [readAnyItems_next hn hc₂]
  exact hrest c₂ hm

theorem readAnyItems_end {a : List Json} (h : c.rest = 93 :: rest) :
    Yields (readAnyItems (g + 1) d first c a) a.reverse (93 :: rest) :=
  ⟨c, by rw [readAnyItems, nextItem_close first h, skipBlank_of_cons h rfl], h⟩

theorem insertField_of_lt (k : String) (v : Json) (acc : List (String × Json))
    (h : ∀ p ∈ acc, p.1 < k) : insertField k v acc = acc ++ [(k, v)] := by
  induction acc with
  | nil => rfl
  | cons p acc ih =>
    obtain ⟨k', v'⟩ := p
    have hlt : k' < k := h (k', v') (List.mem_cons_self ..)
    have hne : k ≠ k' := fun e => String.lt_irrefl k (e ▸ hlt)
    rw [insertField, if_neg (String.lt_asymm hlt), if_neg hne,
      ih fun p hp => h p (List.mem_cons_of_mem _ hp)]
    rfl

theorem readAnyFields_next {acc : List (String × Json)} {k : String} {v : Json} {c₃ : Cursor}
    (hk : nextKey first c = .ok (some (k, c₁))) (hc₁ : c₁.rest = 58 :: more)
    (hv : readAny g d c₁.bump = .ok (v, c₃)) :
    readAnyFields (g + 1) d first c acc = readAnyFields g d false c₃ (insertField k v acc) := by
  rw [readAnyFields, hk]
  simp only [readColon_colon hc₁, hv]

theorem readAnyFields_step {acc res : List (String × Json)} {k : String} {v : Json}
    {more' : List UInt8} (hk : nextKey first c = .ok (some (k, c₁))) (hc₁ : c₁.rest = 58 :: more)
    (hv : ∀ c₂ : Cursor, c₂.rest = more → Yields (readAny g d c₂) v more')
    (hlt : ∀ p ∈ acc, p.1 < k)
    (hrest : ∀ c₃ : Cursor, c₃.rest = more' →
      Yields (readAnyFields g d false c₃ (acc ++ [(k, v)])) res out) :
    Yields (readAnyFields (g + 1) d first c acc) res out := by
  obtain ⟨c₃, hc₃, hm⟩ := hv c₁.bump (by simp [hc₁])
  rw [readAnyFields_next hk hc₁ hc₃, insertField_of_lt k v acc hlt]
  exact hrest c₃ hm

theorem readAnyFields_end {a : List (String × Json)} (h : c.rest = 125 :: rest) :
    Yields (readAnyFields (g + 1) d first c a) a (125 :: rest) :=
  ⟨c, by rw [readAnyFields, nextKey_close first h, skipBlank_of_cons h rfl], h⟩

theorem nextKey_first_quote (k : String) (h : c.rest = utf8 (quote k) ++ more) :
    ∃ c₁, nextKey true c = .ok (some (k, c₁)) ∧ c₁.rest = more := by
  rw [utf8_quote, List.cons_append, List.append_assoc, List.singleton_append] at h
  obtain ⟨c₁, hc₁, hm⟩ := @readStringBody_quote k more c.bump (by simp [h])
  exact ⟨c₁, by rw [nextKey_first h, hc₁]; rfl, hm⟩

theorem nextKey_comma_quote (k : String) (h : c.rest = 44 :: (utf8 (quote k) ++ more)) :
    ∃ c₁, nextKey false c = .ok (some (k, c₁)) ∧ c₁.rest = more := by
  rw [utf8_quote, List.cons_append, List.append_assoc, List.singleton_append] at h
  obtain ⟨c₁, hc₁, hm⟩ := @readStringBody_quote k more c.bump.bump (by simp [h])
  exact ⟨c₁, by rw [nextKey_comma h, hc₁]; rfl, hm⟩

theorem endsValue_itemsTail (xs : List Json) (rest : List UInt8) :
    EndsValue (itemsTail xs ++ 93 :: rest) := by
  cases xs <;> simp [EndsValue]

theorem endsValue_fieldsTail (fs : List (String × Json)) (rest : List UInt8) :
    EndsValue (fieldsTail fs ++ 125 :: rest) := by
  cases fs <;> simp [EndsValue]

end Containers

/-! ## Reading back a value

The induction follows the value: an array reads its items and an object its fields one after
another, each item or field value by the case for values. Fuel and depth shrink as the reader
descends: each item takes one unit of fuel and at least one byte, each container one level. -/

mutual
theorem readAny_compact (v : Json) (hv : Canonical v) {f d : Nat} {c : Cursor}
    {rest : List UInt8} (hd : depth v < d) (hf : (utf8 (compact v)).length < f)
    (h : c.rest = utf8 (compact v) ++ rest) (hr : EndsValue rest) :
    Yields (readAny f d c) v rest := by
  obtain ⟨f, rfl⟩ : ∃ f', f = f' + 1 := ⟨f - 1, by omega⟩
  match v, hv with
  | .null, _ => exact readAny_null h
  | .bool true, _ => exact readAny_true h
  | .bool false, _ => exact readAny_false h
  | .num n, hn => exact readAny_number n hn h hr.endsNumber
  | .str s, _ => exact readAny_string s h
  | .arr xs, hxs =>
    rw [utf8_compact_arr] at h hf
    simp only [depth] at hd
    simp only [List.length_cons, List.length_append, List.length_nil] at hf
    have hi : c.bump.rest = utf8 (compactItems xs) ++ 93 :: rest := by simp [h]
    obtain ⟨c', hc', hr'⟩ := readAnyItems_first xs hxs (g := f) (d := d - 1) (by omega) (by omega) hi
    refine ⟨c'.bump, ?_, by simp [hr']⟩
    rw [readAny_array h (by omega), hc']
    simp [finishContainer, closeSeq_close hr', bind, Except.bind, pure, Except.pure, Except.map]
  | .obj fs, ⟨hs, hfs⟩ =>
    rw [utf8_compact_obj] at h hf
    simp only [depth] at hd
    simp only [List.length_cons, List.length_append, List.length_nil] at hf
    have hi : c.bump.rest = utf8 (compactFields fs) ++ 125 :: rest := by simp [h]
    obtain ⟨c', hc', hr'⟩ := readAnyFields_first fs hfs hs (g := f) (d := d - 1) (by omega) (by omega) hi
    refine ⟨c'.bump, ?_, by simp [hr']⟩
    rw [readAny_object h (by omega), hc']
    simp [finishContainer, closeMap_close hr', bind, Except.bind, pure, Except.pure, Except.map]

theorem readAnyItems_first (xs : List Json) (hxs : CanonicalItems xs) {g d : Nat} {c : Cursor}
    {rest : List UInt8} (hd : depthItems xs < d) (hg : (utf8 (compactItems xs)).length + 1 < g)
    (h : c.rest = utf8 (compactItems xs) ++ 93 :: rest) :
    Yields (readAnyItems g d true c []) xs (93 :: rest) := by
  obtain ⟨g, rfl⟩ : ∃ g', g = g' + 1 := ⟨g - 1, by omega⟩
  match xs, hxs with
  | [], _ => exact readAnyItems_end h
  | x :: xs, ⟨hx, hxs⟩ =>
    rw [utf8_compactItems] at h hg
    simp only [depthItems] at hd
    obtain ⟨b, r, hbr, hbl, -, h93, -⟩ := compact_head x hx
    have hlen : (utf8 (compact x)).length = r.length + 1 := by simp [hbr]
    simp only [List.length_append] at hg
    have hn : nextItem true c = .ok (some c) := nextItem_first (by rw [h, hbr]; rfl) hbl h93
    have hx' : c.rest = utf8 (compact x) ++ (itemsTail xs ++ 93 :: rest) := by
      rw [h, List.append_assoc]
    refine readAnyItems_step hn
      (readAny_compact x hx (by omega) (by omega) hx' (endsValue_itemsTail xs rest)) fun c₂ hc₂ => ?_
    exact readAnyItems_rest xs hxs [x] (by omega) (by omega) hc₂

theorem readAnyItems_rest (xs : List Json) (hxs : CanonicalItems xs) (acc : List Json)
    {g d : Nat} {c : Cursor} {rest : List UInt8} (hd : depthItems xs < d)
    (hg : (itemsTail xs).length < g) (h : c.rest = itemsTail xs ++ 93 :: rest) :
    Yields (readAnyItems g d false c acc) (acc.reverse ++ xs) (93 :: rest) := by
  obtain ⟨g, rfl⟩ : ∃ g', g = g' + 1 := ⟨g - 1, by omega⟩
  match xs, hxs with
  | [], _ => simpa using readAnyItems_end (a := acc) h
  | x :: xs, ⟨hx, hxs⟩ =>
    simp only [itemsTail_cons] at h hg
    simp only [depthItems] at hd
    obtain ⟨b, r, hbr, hbl, -, h93, -⟩ := compact_head x hx
    have hlen : (utf8 (compact x)).length = r.length + 1 := by simp [hbr]
    simp only [List.length_cons, List.length_append] at hg
    have hn : nextItem false c = .ok (some c.bump) := nextItem_comma (by rw [h, hbr]; rfl) hbl h93
    have hx' : c.bump.rest = utf8 (compact x) ++ (itemsTail xs ++ 93 :: rest) := by simp [h]
    refine readAnyItems_step hn
      (readAny_compact x hx (by omega) (by omega) hx' (endsValue_itemsTail xs rest)) fun c₂ hc₂ => ?_
    simpa using readAnyItems_rest xs hxs (x :: acc) (by omega) (by omega) hc₂

theorem readAnyFields_first (fs : List (String × Json)) (hfs : CanonicalFields fs)
    (hs : (fs.map Prod.fst).Pairwise (· < ·)) {g d : Nat} {c : Cursor} {rest : List UInt8}
    (hd : depthFields fs < d) (hg : (utf8 (compactFields fs)).length + 1 < g)
    (h : c.rest = utf8 (compactFields fs) ++ 125 :: rest) :
    Yields (readAnyFields g d true c []) fs (125 :: rest) := by
  obtain ⟨g, rfl⟩ : ∃ g', g = g' + 1 := ⟨g - 1, by omega⟩
  match fs, hfs with
  | [], _ => exact readAnyFields_end h
  | (k, v) :: fs, ⟨hv, hfs⟩ =>
    rw [utf8_compactFields] at h hg
    simp only [depthFields] at hd
    simp only [fieldBytes, List.length_append, List.length_cons, List.append_assoc,
      List.cons_append] at h hg
    obtain ⟨c₁, hk, hc₁⟩ := nextKey_first_quote k (by rw [h]) 
    refine readAnyFields_step hk hc₁ (fun c₂ hc₂ =>
      readAny_compact v hv (by omega) (by omega) hc₂ (endsValue_fieldsTail fs rest)) (by simp)
      fun c₃ hc₃ => ?_
    simpa using readAnyFields_rest fs hfs [(k, v)] (by simpa using hs) (by omega) (by omega) hc₃

theorem readAnyFields_rest (fs : List (String × Json)) (hfs : CanonicalFields fs)
    (acc : List (String × Json)) (hs : ((acc ++ fs).map Prod.fst).Pairwise (· < ·)) {g d : Nat}
    {c : Cursor} {rest : List UInt8} (hd : depthFields fs < d) (hg : (fieldsTail fs).length < g)
    (h : c.rest = fieldsTail fs ++ 125 :: rest) :
    Yields (readAnyFields g d false c acc) (acc ++ fs) (125 :: rest) := by
  obtain ⟨g, rfl⟩ : ∃ g', g = g' + 1 := ⟨g - 1, by omega⟩
  match fs, hfs with
  | [], _ => simpa using readAnyFields_end (a := acc) h
  | (k, v) :: fs, ⟨hv, hfs⟩ =>
    simp only [fieldsTail_cons] at h hg
    simp only [depthFields] at hd
    simp only [fieldBytes, List.length_append, List.length_cons, List.append_assoc,
      List.cons_append] at h hg
    obtain ⟨c₁, hk, hc₁⟩ := nextKey_comma_quote k (by rw [h])
    have hlt : ∀ p ∈ acc, p.1 < k := by
      intro p hp
      simp only [List.map_append, List.map_cons, List.pairwise_append] at hs
      exact hs.2.2 p.1 (List.mem_map_of_mem hp) k (List.mem_cons_self ..)
    refine readAnyFields_step hk hc₁ (fun c₂ hc₂ =>
      readAny_compact v hv (by omega) (by omega) hc₂ (endsValue_fieldsTail fs rest)) hlt
      fun c₃ hc₃ => ?_
    simpa using readAnyFields_rest fs hfs (acc ++ [(k, v)]) (by simpa using hs) (by omega) (by omega) hc₃
end

theorem parse_compact (v : Json) (hv : Canonical v) (hd : depth v < depthLimit) :
    parse (compact v) = .ok v := by
  obtain ⟨c₁, hc₁, hr⟩ := readAny_compact v hv (f := 4 * (utf8 (compact v)).length + 15 + 1)
    (c := ⟨utf8 (compact v), 1, 0⟩) hd (by omega) (List.append_nil _).symm (by simp [EndsValue])
  have hs : c₁.skipBlank.rest = [] := by simp [Cursor.skipBlank, hr, Cursor.skipBlankFrom]
  unfold parse readText
  dsimp only [Cursor.ofString]
  rw [show 4 * (utf8 (compact v)).length + 16 = 4 * (utf8 (compact v)).length + 15 + 1 from rfl,
    readShape]
  simp only [hc₁, hs]

/-! ## Compact text is one line -/

def OneLine (s : String) : Prop := ∀ ch ∈ s.toList, ch ≠ '\n' ∧ ch ≠ '\r'

instance : DecidablePred OneLine := fun s =>
  decidable_of_iff (s.toList.all fun ch => ch != '\n' && ch != '\r')
    (by simp [OneLine, List.all_eq_true])

@[simp] theorem oneLine_append {s t : String} : OneLine (s ++ t) ↔ OneLine s ∧ OneLine t := by
  simp only [OneLine, String.toList_append, List.mem_append]
  exact ⟨fun h => ⟨fun ch hc => h ch (.inl hc), fun ch hc => h ch (.inr hc)⟩,
    fun h ch hc => hc.elim (h.1 ch) (h.2 ch)⟩

theorem oneLine_of_numberText {s : String} (h : NumberText s) : OneLine s := by
  intro ch hch
  have := isNumberChar_toNat (h ch hch)
  constructor <;> intro e <;> subst e <;> simp at this

theorem oneLine_escapeChar (ch : Char) : ∀ e ∈ escapeChar ch, e ≠ '\n' ∧ e ≠ '\r' := by
  have hx : ∀ k < 16, hexDigit k ≠ '\n' ∧ hexDigit k ≠ '\r' := by decide
  unfold escapeChar
  split
  · simp
  split
  · simp
  split
  · simp
  split
  · simp
  split
  · simp
  split
  · simp
  split
  · simp
  split
  · intro e he
    simp only [List.mem_cons, List.not_mem_nil, or_false] at he
    rcases he with rfl | rfl | rfl | rfl | rfl | rfl
    any_goals decide
    · exact hx _ (by omega)
    · exact hx _ (Nat.mod_lt _ (by decide))
  · rename_i _ _ hn hr _ _ _ _
    intro e he
    rw [List.mem_singleton.1 he]
    exact ⟨hn, hr⟩

theorem oneLine_quote (s : String) : OneLine (quote s) := by
  intro ch hch
  simp only [quote, String.toList_ofList, List.mem_cons, List.mem_append, List.mem_flatMap,
    List.not_mem_nil, or_false] at hch
  rcases hch with rfl | ⟨c, -, hc⟩ | rfl
  · decide
  · exact oneLine_escapeChar c ch hc
  · decide

mutual
theorem oneLine_compact : (v : Json) → OneLine (compact v)
  | .null => by decide
  | .bool true => by decide
  | .bool false => by decide
  | .num n => oneLine_of_numberText (render_numberText n)
  | .str s => oneLine_quote s
  | .arr xs => by
    rw [compact]
    exact oneLine_append.2 ⟨oneLine_append.2 ⟨by decide, oneLine_compactItems xs⟩, by decide⟩
  | .obj fs => by
    rw [compact]
    exact oneLine_append.2 ⟨oneLine_append.2 ⟨by decide, oneLine_compactFields fs⟩, by decide⟩

theorem oneLine_compactItems : (xs : List Json) → OneLine (compactItems xs)
  | [] => by decide
  | [x] => oneLine_compact x
  | x :: y :: ys => by
    rw [compactItems]
    · exact oneLine_append.2 ⟨oneLine_append.2 ⟨oneLine_compact x, by decide⟩,
        oneLine_compactItems (y :: ys)⟩
    · exact List.cons_ne_nil _ _

theorem oneLine_compactFields : (fs : List (String × Json)) → OneLine (compactFields fs)
  | [] => by decide
  | [(k, v)] => by
    rw [compactFields]
    exact oneLine_append.2 ⟨oneLine_append.2 ⟨oneLine_quote k, by decide⟩, oneLine_compact v⟩
  | (k, v) :: kv :: fs => by
    rw [compactFields]
    · exact oneLine_append.2 ⟨oneLine_append.2 ⟨oneLine_append.2 ⟨oneLine_append.2
        ⟨oneLine_quote k, by decide⟩, oneLine_compact v⟩, by decide⟩, oneLine_compactFields (kv :: fs)⟩
    · exact List.cons_ne_nil _ _
end

end Json

end TestConductor
