import TestConductor.Proofs.Json.Tokens
import Mathlib
/-! # Reading back numbers

A number is read the same whatever follows it, as long as the next byte cannot continue it
(`EndsNumber`): the scanners of digits stop there, and so do the readers of a fraction and an
exponent. Integers are read back from the decimal digits the writer prints: a natural number
below `2^64` as unsigned, a negative one of at least `-2^63` as negative.
-/
namespace TestConductor

namespace Json

def EndsNumber (rest : List UInt8) : Prop :=
  ∀ b ∈ rest.head?, isDigit b = false ∧ b ≠ 46 ∧ b ≠ 101 ∧ b ≠ 69

theorem EndsNumber.nil : EndsNumber [] := by
  simp [EndsNumber]

def digitsValue (sig : Nat) (bs : List UInt8) : Nat :=
  bs.foldl (fun s b => s * 10 + digitValue b) sig

@[simp] theorem digitsValue_nil (sig : Nat) : digitsValue sig [] = sig := rfl

@[simp] theorem digitsValue_cons (sig : Nat) (b : UInt8) (bs : List UInt8) :
    digitsValue sig (b :: bs) = digitsValue (sig * 10 + digitValue b) bs := by
  simp only [digitsValue, List.foldl_cons]

theorem digitsValue_concat (sig : Nat) (bs : List UInt8) (b : UInt8) :
    digitsValue sig (bs ++ [b]) = digitsValue sig bs * 10 + digitValue b := by
  simp [digitsValue, List.foldl_append]

theorem le_digitsValue (sig : Nat) (bs : List UInt8) : sig ≤ digitsValue sig bs := by
  induction bs generalizing sig with
  | nil => exact Nat.le_refl _
  | cons b bs ih =>
    have := ih (sig * 10 + digitValue b)
    simp only [digitsValue_cons]
    omega

/-! ## The scanners stop where the number ends -/

section Scanners

variable {rest : List UInt8}

theorem gather_append (hr : ∀ b ∈ rest.head?, isDigit b = false) (bs : List UInt8) (sig k : Nat) :
    gather (bs ++ rest) sig k =
      ((gather bs sig k).1, (gather bs sig k).2.1, (gather bs sig k).2.2 ++ rest) := by
  induction bs generalizing sig k with
  | nil =>
    cases rest with
    | nil => rfl
    | cons b r => simp [gather, hr b rfl]
  | cons b bs ih =>
    simp only [List.cons_append, gather]
    split
    · exact ih _ _
    · rfl

theorem dropDigits_append (hr : ∀ b ∈ rest.head?, isDigit b = false) (bs : List UInt8) (k : Nat) :
    dropDigits (bs ++ rest) k = ((dropDigits bs k).1, (dropDigits bs k).2 ++ rest) := by
  induction bs generalizing k with
  | nil =>
    cases rest with
    | nil => rfl
    | cons b r => simp [dropDigits, hr b rfl]
  | cons b bs ih =>
    simp only [List.cons_append, dropDigits]
    split
    · exact ih _
    · rfl

theorem gatherExponent_append (hr : ∀ b ∈ rest.head?, isDigit b = false) (bs : List UInt8)
    (e : Int) (k : Nat) :
    gatherExponent (bs ++ rest) e k =
      let g := gatherExponent bs e k
      (g.1, g.2.1 ++ rest, g.2.2.1, g.2.2.2) := by
  induction bs generalizing e k with
  | nil =>
    cases rest with
    | nil => rfl
    | cons b r => simp [gatherExponent, hr b rfl]
  | cons b bs ih =>
    simp only [List.cons_append, gatherExponent]
    split
    · split
      · rfl
      · exact ih _ _
    · rfl

theorem gather_digits (ds : List UInt8) (hd : ∀ b ∈ ds, isDigit b) (sig k : Nat)
    (hmax : digitsValue sig ds ≤ wordMax) :
    gather ds sig k = (digitsValue sig ds, k + ds.length, []) := by
  induction ds generalizing sig k with
  | nil => rfl
  | cons b ds ih =>
    have hb : isDigit b = true := hd b (List.mem_cons_self ..)
    have hle := le_digitsValue (sig * 10 + digitValue b) ds
    simp only [digitsValue_cons] at hmax
    rw [gather, if_pos ⟨hb, by omega⟩, ih (fun x hx => hd x (List.mem_cons_of_mem _ hx)) _ _ hmax]
    simp only [digitsValue_cons, List.length_cons, Prod.mk.injEq, and_true, true_and]
    omega

end Scanners

/-! ## Decimal digits of a natural number -/

theorem digit_byte : ∀ d < 10,
    isDigit (UInt8.ofNat (48 + d)) = true ∧ digitValue (UInt8.ofNat (48 + d)) = d := by
  decide

theorem digitChar_utf8 : ∀ d < 10, String.utf8EncodeChar (Nat.digitChar d) = [UInt8.ofNat (48 + d)] := by
  decide

theorem utf8_toString_digit {d : Nat} (h : d < 10) : utf8 (toString d) = [UInt8.ofNat (48 + d)] := by
  rw [show toString d = String.ofList (Nat.toDigits 10 d) from rfl, utf8_ofList,
    Nat.toDigits_of_lt_base h, List.flatMap_singleton, digitChar_utf8 d h]

theorem utf8_toString_push {m d : Nat} (hm : 0 < m) (hd : d < 10) :
    utf8 (toString (10 * m + d)) = utf8 (toString m) ++ [UInt8.ofNat (48 + d)] := by
  rw [← utf8_toString_digit hd]
  simp only [show ∀ n : Nat, toString n = String.ofList (Nat.toDigits 10 n) from fun _ => rfl,
    utf8_ofList, ← Nat.toDigits_append_toDigits (by decide) hm hd, List.flatMap_append]

theorem decimal_induction {P : Nat → Prop} (digit : ∀ d < 10, P d)
    (push : ∀ m d, 0 < m → d < 10 → P m → P (10 * m + d)) (n : Nat) : P n := by
  induction n using Nat.strongRecOn with
  | _ n ih =>
    by_cases hn : n < 10
    · exact digit n hn
    · have h := push (n / 10) (n % 10) (by omega) (Nat.mod_lt _ (by decide)) (ih _ (by omega))
      rwa [Nat.div_add_mod] at h

theorem utf8_toString_digits (n : Nat) :
    ∃ b r, utf8 (toString n) = b :: r ∧ isDigit b ∧ (∀ x ∈ r, isDigit x) ∧
      digitsValue (digitValue b) r = n ∧ (b = 48 → n = 0 ∧ r = []) := by
  induction n using decimal_induction with
  | digit d hd =>
    obtain ⟨hdig, hval⟩ := digit_byte d hd
    refine ⟨_, [], utf8_toString_digit hd, hdig, by simp, hval, fun h48 => ⟨?_, rfl⟩⟩
    rw [← hval, h48]
    rfl
  | push m d hm hd ih =>
    obtain ⟨b, r, h, hb, hr, hv, h0⟩ := ih
    obtain ⟨hdig, hval⟩ := digit_byte d hd
    refine ⟨b, r ++ [UInt8.ofNat (48 + d)], by rw [utf8_toString_push hm hd, h]; rfl, hb, ?_, ?_, ?_⟩
    · intro x hx
      rcases List.mem_append.1 hx with hx | hx
      · exact hr x hx
      · rw [List.mem_singleton.1 hx]
        exact hdig
    · rw [digitsValue_concat, hv, hval]
      omega
    · -- a positive number's first digit is not zero
      intro h48
      exact absurd (h0 h48).1 (Nat.pos_iff_ne_zero.1 hm)

/-! ## Integers -/

section Integers

variable {c : Cursor} {rest : List UInt8}

theorem isDigit_iff {b : UInt8} : isDigit b = true ↔ 48 ≤ b.toNat ∧ b.toNat ≤ 57 := by
  simp [isDigit, UInt8.le_iff_toNat_le]

theorem ne_of_isDigit {b : UInt8} (hb : isDigit b = true) {v : UInt8} (hv : v.toNat < 48 ∨ 57 < v.toNat) :
    b ≠ v := by
  rintro rfl
  have := isDigit_iff.1 hb
  omega

theorem integerOf_negative {sig : Nat} (h0 : 0 < sig) (h63 : sig ≤ 2 ^ 63) :
    integerOf false sig = .negative (-(sig : Int)) := by
  rw [integerOf, if_neg Bool.false_ne_true, if_neg (Nat.pos_iff_ne_zero.1 h0), Nat.pow_eq, if_pos h63]

theorem readAfterDigits_end (h : EndsNumber c.rest) (p : Bool) (sig : Nat) :
    readAfterDigits p sig c = .ok (integerOf p sig, c) := by
  unfold readAfterDigits
  split
  · rename_i b r hc
    obtain ⟨-, h46, h101, h69⟩ := h b (by simp [hc])
    simp [h46, h101, h69]
  · rfl

theorem readNumber_toString (positive : Bool) {n : Nat} (hn : n ≤ wordMax)
    (h : c.rest = utf8 (toString n) ++ rest) (hr : EndsNumber rest) :
    ∃ c', c'.rest = rest ∧ readNumber positive c = readAfterDigits positive n c' := by
  obtain ⟨b, r, hbr, hb, hdig, hv, h0⟩ := utf8_toString_digits n
  rw [hbr, List.cons_append] at h
  have hrd : ∀ x ∈ rest.head?, isDigit x = false := fun x hx => (hr x hx).1
  by_cases h48 : b = 48
  · obtain ⟨rfl, rfl⟩ := h0 h48
    subst h48
    refine ⟨c.bump, by simp [h], ?_⟩
    unfold readNumber
    rw [h]
    cases rest with
    | nil => rfl
    | cons d r => simp [hrd d rfl]
  · have hg : gather (r ++ rest) (digitValue b) 0 = (n, r.length, rest) := by
      rw [gather_append hrd, gather_digits r hdig _ _ (hv ▸ hn)]
      simp [hv]
    refine ⟨⟨rest, c.bump.line, c.bump.column + r.length⟩, rfl, ?_⟩
    unfold readNumber
    rw [h]
    simp only [beq_iff_eq, h48, if_false, hb, if_true, hg]
    cases rest with
    | nil => rfl
    | cons d r => simp [hrd d rfl]

theorem readNumber_unsigned {n : Nat} (hn : n < 2 ^ 64) (h : c.rest = utf8 (toString n) ++ rest)
    (hr : EndsNumber rest) : Yields (readNumber true c) (.unsigned n) rest := by
  obtain ⟨c', hc', heq⟩ := readNumber_toString true (n := n) (by rw [wordMax, Nat.pow_eq]; omega) h hr
  exact ⟨c', by rw [heq, readAfterDigits_end (hc' ▸ hr)]; rfl, hc'⟩

theorem readNumber_negative {k : Nat} (h0 : 0 < k) (hk : k ≤ 2 ^ 63)
    (h : c.rest = utf8 (toString k) ++ rest) (hr : EndsNumber rest) :
    Yields (readNumber false c) (.negative (-(k : Int))) rest := by
  obtain ⟨c', hc', heq⟩ := readNumber_toString false (n := k) (by rw [wordMax, Nat.pow_eq]; omega) h hr
  exact ⟨c', by rw [heq, readAfterDigits_end (hc' ▸ hr), integerOf_negative h0 hk], hc'⟩

theorem toString_negative {k : Nat} (h0 : 0 < k) : toString (-(k : Int)) = "-" ++ toString k := by
  obtain ⟨m, rfl⟩ : ∃ m, k = m + 1 := ⟨k - 1, by omega⟩
  rfl

end Integers

/-! ## A number is read the same whatever follows it

A cursor whose bytes are those of `c` followed by `rest` reads the number that `c` reads, and
stops before the same bytes followed by `rest`, when `rest` cannot continue a number. The place of
the cursor plays no part in what is read. -/

section Locality

variable {rest : List UInt8} {p : Bool} {sig : Nat} {n : Number} {c c' c₁ : Cursor}

theorem Cursor.bump_rest_append (hne : c.rest ≠ []) (hc : c'.rest = c.rest ++ rest) :
    c'.bump.rest = c.bump.rest ++ rest := by
  obtain ⟨b, r, hb⟩ := List.exists_cons_of_ne_nil hne
  simp [hc, hb]

theorem finishFloat_extend {exp : Int} (h : finishFloat p sig exp c = .ok (n, c₁))
    (hc : c'.rest = c.rest ++ rest) : Yields (finishFloat p sig exp c') n (c₁.rest ++ rest) := by
  unfold finishFloat at h ⊢
  split at h
  · cases h
    exact ⟨c', rfl, hc⟩
  · cases h

theorem exponentSign_extend (hne : c.rest ≠ []) (hc : c'.rest = c.rest ++ rest) :
    (exponentSign c').1 = (exponentSign c).1 ∧
      (exponentSign c').2.rest = (exponentSign c).2.rest ++ rest := by
  obtain ⟨b, r, hb⟩ := List.exists_cons_of_ne_nil hne
  have hc' : c'.rest = b :: (r ++ rest) := by rw [hc, hb]; rfl
  unfold exponentSign
  rw [hb, hc']
  by_cases h43 : b = 43 <;> by_cases h45 : b = 45 <;> simp [h43, h45, hb, hc']

theorem readExponent_extend (hr : ∀ b ∈ rest.head?, isDigit b = false) {start : Int}
    (h : readExponent p sig start c = .ok (n, c₁)) (hc : c'.rest = c.rest ++ rest) :
    Yields (readExponent p sig start c') n (c₁.rest ++ rest) := by
  -- a mark was there to pass
  have hne : c.rest ≠ [] := by
    intro h0
    simp [readExponent, exponentSign, Cursor.bump, h0, faultAt] at h
  unfold readExponent at h ⊢
  have hb := Cursor.bump_rest_append hne hc
  generalize c.bump = d at h hb
  generalize c'.bump = d' at hb ⊢
  -- a digit follows the mark and its sign
  have hne1 : d.rest ≠ [] := by
    intro h1
    simp [exponentSign, h1, faultAt] at h
  obtain ⟨hpe, hs⟩ := exponentSign_extend hne1 hb
  generalize exponentSign d = s at h hpe hs
  generalize exponentSign d' = s' at hpe hs ⊢
  obtain ⟨pe, _ | ⟨dg, r⟩, l2, k2⟩ := s
  · simp [faultAt] at h
  obtain ⟨pe', e2'⟩ := s'
  dsimp only at hpe hs h ⊢
  subst hpe
  rw [hs, List.cons_append]
  dsimp only
  split at h
  · simp [faultAt] at h
  rename_i hd
  rw [if_neg hd, gatherExponent_append hr]
  generalize gatherExponent r (digitValue dg) 0 = g at h ⊢
  obtain ⟨e, rr, nn, ov⟩ := g
  dsimp only at h ⊢
  split at h
  · rename_i hov
    rw [if_pos hov]
    split at h
    · simp [faultAt] at h
    rename_i hsg
    rw [if_neg hsg, dropDigits_append hr]
    generalize dropDigits rr 0 = dd at h ⊢
    obtain ⟨mm, rr'⟩ := dd
    cases h
    exact ⟨_, rfl, rfl⟩
  · rename_i hov
    rw [if_neg hov]
    exact finishFloat_extend h rfl

theorem readFraction_extend (hr : EndsNumber rest) {before : Int}
    (h : readFraction p sig before c = .ok (n, c₁)) (hc : c'.rest = c.rest ++ rest) :
    Yields (readFraction p sig before c') n (c₁.rest ++ rest) := by
  have hrd : ∀ b ∈ rest.head?, isDigit b = false := fun b hb => (hr b hb).1
  -- the point was there to pass
  have hne : c.rest ≠ [] := by
    intro h0
    simp [readFraction, Cursor.bump, h0, gather, dropDigits, faultAt] at h
  unfold readFraction at h ⊢
  have hb := Cursor.bump_rest_append hne hc
  dsimp only at h ⊢
  generalize c.bump = d at h hb
  generalize c'.bump = d' at hb ⊢
  rw [hb, gather_append hrd]
  generalize gather d.rest sig 0 = g at h ⊢
  obtain ⟨sig', k, rr⟩ := g
  dsimp only at h ⊢
  rw [dropDigits_append hrd]
  generalize dropDigits rr 0 = dd at h ⊢
  obtain ⟨mm, rr'⟩ := dd
  dsimp only at h ⊢
  split at h
  · split at h <;> cases h
  rename_i hnz
  rw [if_neg hnz]
  cases rr' with
  | nil =>
    cases rest with
    | nil => exact finishFloat_extend h rfl
    | cons b r =>
      obtain ⟨-, -, h101, h69⟩ := hr b rfl
      simp only [List.nil_append, Bool.or_eq_true, beq_iff_eq, h101, h69, or_self, if_false]
      exact finishFloat_extend h rfl
  | cons b r =>
    dsimp only at h
    simp only [List.cons_append]
    split at h
    · rename_i he
      rw [if_pos he]
      exact readExponent_extend hrd h rfl
    · rename_i he
      rw [if_neg he]
      exact finishFloat_extend h rfl

theorem readAfterDigits_extend (hr : EndsNumber rest) (h : readAfterDigits p sig c = .ok (n, c₁))
    (hc : c'.rest = c.rest ++ rest) : Yields (readAfterDigits p sig c') n (c₁.rest ++ rest) := by
  unfold readAfterDigits at h ⊢
  rw [hc]
  cases hcr : c.rest with
  | nil =>
    simp only [hcr, Except.ok.injEq, Prod.mk.injEq] at h
    obtain ⟨rfl, rfl⟩ := h
    rw [hcr]
    cases rest with
    | nil => exact ⟨c', rfl, by simp [hc, hcr]⟩
    | cons b r =>
      obtain ⟨-, h46, h101, h69⟩ := hr b rfl
      exact ⟨c', by simp [h46, h101, h69], by simp [hc, hcr]⟩
  | cons b t =>
    simp only [hcr] at h
    simp only [List.cons_append]
    split at h
    · rename_i h46
      rw [if_pos h46]
      exact readFraction_extend hr h (by rw [hc, hcr])
    rename_i h46
    rw [if_neg h46]
    split at h
    · rename_i he
      rw [if_pos he]
      exact readExponent_extend (fun b hb => (hr b hb).1) h (by rw [hc, hcr])
    rename_i he
    rw [if_neg he]
    simp only [Except.ok.injEq, Prod.mk.injEq] at h
    obtain ⟨rfl, rfl⟩ := h
    exact ⟨c', rfl, by rw [hc, hcr]⟩

theorem readNumber_extend (hr : EndsNumber rest) (h : readNumber p c = .ok (n, c₁))
    (hc : c'.rest = c.rest ++ rest) : Yields (readNumber p c') n (c₁.rest ++ rest) := by
  have hrd : ∀ b ∈ rest.head?, isDigit b = false := fun b hb => (hr b hb).1
  unfold readNumber at h ⊢
  cases hcr : c.rest with
  | nil => simp [hcr, faultAt] at h
  | cons b r =>
    have hb1 := Cursor.bump_rest_append (by simp [hcr]) hc
    simp only [hcr] at h hb1
    simp only [hc, hcr, List.cons_append]
    generalize c.bump = d at h hb1
    generalize c'.bump = d' at hb1 ⊢
    split at h
    · -- a leading zero: nothing but the end of the number may follow it
      rename_i h48
      rw [if_pos h48]
      cases r with
      | nil =>
        cases rest with
        | nil => exact readAfterDigits_extend hr h hb1
        | cons e t =>
          simp only [List.nil_append, hrd e rfl, Bool.false_eq_true, if_false]
          exact readAfterDigits_extend hr h hb1
      | cons e t =>
        dsimp only at h
        simp only [List.cons_append]
        split at h
        · simp [faultAt] at h
        rename_i hd
        rw [if_neg hd]
        exact readAfterDigits_extend hr h hb1
    rename_i h48
    have hb : isDigit b = true := by
      cases hd : isDigit b
      · simp [hd, faultAt] at h
      · rfl
    rw [if_pos hb] at h
    rw [if_neg h48, if_pos hb, gather_append hrd]
    dsimp only at h ⊢
    generalize gather r (digitValue b) 0 = g at h ⊢
    obtain ⟨sig, k, rr⟩ := g
    dsimp only at h ⊢
    cases rr with
    | nil =>
      cases rest with
      | nil => exact readAfterDigits_extend hr h rfl
      | cons e t =>
        simp only [List.nil_append, hrd e rfl, Bool.false_eq_true, if_false]
        exact readAfterDigits_extend hr h rfl
    | cons e t =>
      dsimp only at h
      simp only [List.cons_append]
      split at h
      case isFalse hd =>
        rw [if_neg hd]
        exact readAfterDigits_extend hr h rfl
      -- the significand is full: the other digits count as powers of ten
      rename_i hd
      rw [if_pos hd, ← List.cons_append, dropDigits_append hrd]
      generalize dropDigits (e :: t) 0 = dd at h ⊢
      obtain ⟨mm, rr'⟩ := dd
      dsimp only at h ⊢
      cases rr' with
      | nil =>
        cases rest with
        | nil => exact finishFloat_extend h rfl
        | cons e' t' =>
          obtain ⟨-, h46, h101, h69⟩ := hr e' rfl
          simp only [List.nil_append, beq_iff_eq, h46, Bool.or_eq_true, h101, h69, or_self, if_false]
          exact finishFloat_extend h rfl
      | cons e' t' =>
        dsimp only at h
        simp only [List.cons_append]
        split at h
        · rename_i he
          rw [if_pos he]
          exact readFraction_extend hr h rfl
        rename_i he
        rw [if_neg he]
        split at h
        · rename_i he'
          rw [if_pos he']
          exact readExponent_extend hrd h rfl
        rename_i he'
        rw [if_neg he']
        exact finishFloat_extend h rfl

end Locality

/-! ## A number is read within its bytes -/

section Within

variable {p : Bool} {sig : Nat} {n : Number} {c c' : Cursor}

theorem gather_suffix (bs : List UInt8) (sig k : Nat) : (gather bs sig k).2.2 <:+ bs := by
  induction bs generalizing sig k with
  | nil => exact List.suffix_refl _
  | cons b bs ih =>
    simp only [gather]
    split
    · exact (ih _ _).trans (List.suffix_cons _ _)
    · exact List.suffix_refl _

theorem dropDigits_suffix (bs : List UInt8) (k : Nat) : (dropDigits bs k).2 <:+ bs := by
  induction bs generalizing k with
  | nil => exact List.suffix_refl _
  | cons b bs ih =>
    simp only [dropDigits]
    split
    · exact (ih _).trans (List.suffix_cons _ _)
    · exact List.suffix_refl _

theorem gatherExponent_suffix (bs : List UInt8) (e : Int) (k : Nat) :
    (gatherExponent bs e k).2.1 <:+ bs := by
  induction bs generalizing e k with
  | nil => exact List.suffix_refl _
  | cons b bs ih =>
    simp only [gatherExponent]
    split
    · split
      · exact List.suffix_cons _ _
      · exact (ih _ _).trans (List.suffix_cons _ _)
    · exact List.suffix_refl _

theorem Cursor.bump_suffix (c : Cursor) : c.bump.rest <:+ c.rest := by
  rw [Cursor.rest_bump]
  exact List.tail_suffix _

theorem exponentSign_suffix (c : Cursor) : (exponentSign c).2.rest <:+ c.rest := by
  unfold exponentSign
  split
  · split
    · exact c.bump_suffix
    · split
      · exact c.bump_suffix
      · exact List.suffix_refl _
  · exact List.suffix_refl _

theorem finishFloat_suffix {exp : Int} (h : finishFloat p sig exp c = .ok (n, c')) : c' = c := by
  unfold finishFloat at h
  split at h
  · cases h
    rfl
  · cases h

theorem readExponent_suffix {start : Int} (h : readExponent p sig start c = .ok (n, c')) :
    c'.rest <:+ c.rest := by
  unfold readExponent at h
  have hs := (exponentSign_suffix c.bump).trans c.bump_suffix
  generalize exponentSign c.bump = s at h hs
  obtain ⟨pe, _ | ⟨d, r⟩, l2, k2⟩ := s
  · simp [faultAt] at h
  dsimp only at h hs
  split at h
  · simp [faultAt] at h
  have hg := (gatherExponent_suffix r (digitValue d) 0).trans ((List.suffix_cons d r).trans hs)
  generalize gatherExponent r (digitValue d) 0 = g at h hg
  obtain ⟨e, rr, nn, ov⟩ := g
  dsimp only at h hg
  split at h
  · split at h
    · simp [faultAt] at h
    have hd := (dropDigits_suffix rr 0).trans hg
    generalize dropDigits rr 0 = dd at h hd
    obtain ⟨mm, rr'⟩ := dd
    cases h
    exact hd
  · rw [finishFloat_suffix h]
    exact hg

theorem readFraction_suffix {before : Int} (h : readFraction p sig before c = .ok (n, c')) :
    c'.rest <:+ c.rest := by
  unfold readFraction at h
  dsimp only at h
  have hg := (gather_suffix c.bump.rest sig 0).trans c.bump_suffix
  generalize gather c.bump.rest sig 0 = g at h hg
  obtain ⟨sig', k, rr⟩ := g
  dsimp only at h hg
  have hd := (dropDigits_suffix rr 0).trans hg
  generalize dropDigits rr 0 = dd at h hd
  obtain ⟨mm, rr'⟩ := dd
  dsimp only at h hd
  split at h
  · split at h <;> cases h
  split at h
  · split at h
    · exact (readExponent_suffix h).trans hd
    · rw [finishFloat_suffix h]
      exact hd
  · rw [finishFloat_suffix h]
    exact hd

theorem readAfterDigits_suffix (h : readAfterDigits p sig c = .ok (n, c')) : c'.rest <:+ c.rest := by
  unfold readAfterDigits at h
  split at h
  · split at h
    · exact readFraction_suffix h
    split at h
    · exact readExponent_suffix h
    cases h
    exact List.suffix_refl _
  · cases h
    exact List.suffix_refl _

theorem readNumber_suffix (h : readNumber p c = .ok (n, c')) : c'.rest <:+ c.rest := by
  unfold readNumber at h
  split at h
  · simp [faultAt] at h
  rename_i b r hc
  have h1 := c.bump_suffix
  dsimp only at h
  split at h
  · split at h
    · split at h
      · simp [faultAt] at h
      · exact (readAfterDigits_suffix h).trans h1
    · exact (readAfterDigits_suffix h).trans h1
  split at h
  · have hr : r <:+ c.rest := by rw [hc]; exact List.suffix_cons _ _
    have hg := (gather_suffix r (digitValue b) 0).trans hr
    generalize gather r (digitValue b) 0 = g at h hg
    obtain ⟨sig, k, rr⟩ := g
    dsimp only at h hg
    split at h
    · split at h
      · have hd := (dropDigits_suffix _ 0).trans hg
        generalize dropDigits _ 0 = dd at h hd
        obtain ⟨mm, rr'⟩ := dd
        dsimp only at h hd
        split at h
        · split at h
          · exact (readFraction_suffix h).trans hd
          split at h
          · exact (readExponent_suffix h).trans hd
          · rw [finishFloat_suffix h]
            exact hd
        · rw [finishFloat_suffix h]
          exact hd
      · exact (readAfterDigits_suffix h).trans hg
    · exact (readAfterDigits_suffix h).trans hg
  · simp [faultAt] at h

end Within

/-! ## The characters of a number's text -/

def isNumberChar (ch : Char) : Bool := ch.isDigit || ch == '-' || ch == '.' || ch == '+' || ch == 'e'

def NumberText (s : String) : Prop := ∀ ch ∈ s.toList, isNumberChar ch = true

instance : DecidablePred NumberText := fun s =>
  decidable_of_iff (s.toList.all isNumberChar = true) List.all_eq_true

@[simp] theorem numberText_append {s t : String} : NumberText (s ++ t) ↔ NumberText s ∧ NumberText t := by
  simp only [NumberText, String.toList_append, List.mem_append]
  exact ⟨fun h => ⟨fun ch hc => h ch (.inl hc), fun ch hc => h ch (.inr hc)⟩,
    fun h ch hc => hc.elim (h.1 ch) (h.2 ch)⟩

theorem numberText_ofList {l : List Char} (h : ∀ ch ∈ l, isNumberChar ch = true) :
    NumberText (String.ofList l) := by
  simpa [NumberText] using h

theorem numberText_nat (m : Nat) : NumberText (toString m) := by
  intro ch hch
  have hd : ch.isDigit = true :=
    Nat.isDigit_of_mem_toDigits (b := 10) (by decide) (by decide) (by simpa [Nat.toString_eq_repr, Nat.repr] using hch)
  simp [isNumberChar, hd]

theorem numberText_int (m : Int) : NumberText (toString m) := by
  cases m with
  | ofNat m => exact numberText_nat m
  | negSucc m =>
    show NumberText ("-" ++ toString (m + 1))
    exact numberText_append.2 ⟨by decide, numberText_nat _⟩

theorem numberText_zeros (k : Nat) : NumberText (zeros k) :=
  numberText_ofList fun ch h => by rw [(List.mem_replicate.1 h).2]; decide

theorem render_numberText (n : Number) : NumberText n.render := by
  cases n with
  | unsigned m => exact numberText_nat m
  | negative m => exact numberText_int m
  | float x =>
    have hd := numberText_nat x.shortest.1
    have hsub : ∀ l : List Char, (∀ ch ∈ l, ch ∈ (toString x.shortest.1).toList) → NumberText (String.ofList l) :=
      fun l h => numberText_ofList fun ch hc => hd ch (h ch hc)
    simp only [Number.render, FloatLayout.render]
    have hsign : NumberText (if x.sign = true then "-" else "") := by split <;> decide
    split
    · exact numberText_append.2 ⟨hsign, by decide⟩
    refine numberText_append.2 ⟨hsign, ?_⟩
    split
    · exact numberText_append.2 ⟨numberText_append.2 ⟨hd, numberText_zeros _⟩, by decide⟩
    split
    · exact numberText_append.2 ⟨numberText_append.2 ⟨hsub _ fun ch => List.mem_of_mem_take, by decide⟩,
        hsub _ fun ch => List.mem_of_mem_drop⟩
    split
    · exact numberText_append.2 ⟨numberText_append.2 ⟨by decide, numberText_zeros _⟩, hd⟩
    have hmark : ∀ e : Int, NumberText (if 0 ≤ e then wireLayout.positiveMark ++ toString e
        else wireLayout.negativeMark ++ toString (-e)) := by
      intro e
      split
      · exact numberText_append.2 ⟨by decide, numberText_int _⟩
      · exact numberText_append.2 ⟨by decide, numberText_int _⟩
    split
    · rename_i c hc
      refine numberText_append.2 ⟨hsub [c] fun ch h => ?_, hmark _⟩
      rw [hc]
      exact h
    · rename_i c r _ hc
      refine numberText_append.2 ⟨numberText_append.2 ⟨numberText_append.2
        ⟨hsub [c] fun ch h => ?_, by decide⟩, hsub r fun ch h => ?_⟩, hmark _⟩
      · rw [hc, List.mem_singleton.1 h]
        exact List.mem_cons_self ..
      · rw [hc]
        exact List.mem_cons_of_mem _ h
    · exact numberText_append.2 ⟨hd, hmark _⟩

theorem isNumberChar_toNat {ch : Char} (h : isNumberChar ch = true) :
    (48 ≤ ch.toNat ∧ ch.toNat ≤ 57) ∨ ch.toNat = 45 ∨ ch.toNat = 46 ∨ ch.toNat = 43 ∨ ch.toNat = 101 := by
  simp only [isNumberChar, Bool.or_eq_true, beq_iff_eq, Char.isDigit] at h
  rcases h with (((hd | rfl) | rfl) | rfl) | rfl
  · simp only [Bool.and_eq_true, decide_eq_true_eq, ge_iff_le, UInt32.le_iff_toNat_le] at hd
    exact .inl hd
  all_goals decide

theorem utf8_numberText {s : String} (h : NumberText s) :
    ∀ b ∈ utf8 s, (b = 45 ∨ isDigit b = true ∨ b = 46 ∨ b = 43 ∨ b = 101) ∧
      Cursor.isBlank b = false := by
  rw [utf8_toList]
  intro b hb
  obtain ⟨ch, hch, hb⟩ := List.mem_flatMap.1 hb
  have hn := isNumberChar_toNat (h ch hch)
  rw [utf8EncodeChar_ascii (by omega), List.mem_singleton] at hb
  subst hb
  have hv : (UInt8.ofNat ch.toNat).toNat = ch.toNat := by
    rw [UInt8.toNat_ofNat']
    exact Nat.mod_eq_of_lt (by omega)
  refine ⟨?_, ?_⟩
  · rcases hn with hd | h45 | h46 | h43 | h101
    · exact .inr (.inl (isDigit_iff.2 (by rw [hv]; exact hd)))
    · exact .inl (UInt8.toNat_inj.1 (hv.trans h45))
    · exact .inr (.inr (.inl (UInt8.toNat_inj.1 (hv.trans h46))))
    · exact .inr (.inr (.inr (.inl (UInt8.toNat_inj.1 (hv.trans h43)))))
    · exact .inr (.inr (.inr (.inr (UInt8.toNat_inj.1 (hv.trans h101)))))
  · simp only [Cursor.isBlank, Bool.or_eq_false_iff, beq_eq_false_iff_ne, ne_eq, ← UInt8.toNat_inj, hv]
    simp
    omega

end Json

end TestConductor
