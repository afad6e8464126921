import TestConductor.Proofs.Work.Overflow
import Mathlib
/-! # Folding partials in any order

The units of a request complete in whatever order their hosts finish, so a tally must not depend
on the order its partials come in. A discovery tally does not: its closed form counts the totals,
the abort marks and the partials, none of which sees the order. A run tally merges its statistics
field by field, its marks by `or` and its elapsed time by the longest, so these do not see the
order either; its errors and attachment sets are kept in the order they came, so another order
gives a permutation of them. Its metrics are merged key by key: numbers that are signed 64-bit
words add with saturation, floats add as binary64, and anything else replaces what was there.
Saturation and rounding do see the order, so only a metric whose values are all words, and whose
values never leave the word however many of them are added, ends the same in every order.
-/
namespace TestConductor

/-! ## Discovery -/

namespace DiscoveryTally

theorem counted_perm {parts parts' : List (Int × Bool)} (h : parts.Perm parts') :
    counted parts = counted parts' :=
  ((h.filter _).map _).sum_eq

theorem foldlM_aggregate_perm {parts parts' : List (Int × Bool)} (h : parts.Perm parts') :
    parts.foldlM (fun t p => t.aggregate? p.1 p.2) empty = parts'.foldlM (fun t p => t.aggregate? p.1 p.2) empty := by
  have h₀ : (0 : Int) ≤ empty.totalTests := Int.le_refl 0
  have hmax : empty.totalTests ≤ int64Max := by decide
  rw [foldlM_aggregate parts h₀ hmax, foldlM_aggregate parts' h₀ hmax, counted_perm h, h.any_eq, h.length_eq]

end DiscoveryTally

/-! ## Statistics and elapsed time -/

namespace Statistics

theorem plus_right_comm (s t u : Statistics) : (s.plus t).plus u = (s.plus u).plus t := by
  simp only [plus, mk.injEq]
  omega

theorem foldl_plus_perm {ss ss' : List Statistics} (h : ss.Perm ss') (s : Statistics) :
    ss.foldl plus s = ss'.foldl plus s :=
  h.foldl_eq' (fun _ _ _ _ u => plus_right_comm u _ _) s

end Statistics

namespace Duration

theorem toNanos_max (a b : Duration) : (a.max b).toNanos = Max.max a.toNanos b.toNanos := by
  unfold Duration.max
  split <;> omega

theorem toNanos_foldl_max {γ : Type} (f : γ → Duration) (xs : List γ) (a : Duration) :
    (xs.foldl (fun d x => d.max (f x)) a).toNanos = (xs.map fun x => (f x).toNanos).foldl Max.max a.toNanos := by
  induction xs generalizing a with
  | nil => rfl
  | cons x xs ih => simp [ih, toNanos_max]

theorem eq_of_toNanos {a b : Duration} (h : a.toNanos = b.toNanos) : a = b := by
  obtain ⟨s, n, hn⟩ := a
  obtain ⟨s', n', hn'⟩ := b
  simp only [toNanos] at h
  simp only [mk.injEq]
  omega

end Duration

/-! ## Metrics -/

namespace Json

def word? : Json → Option Int
  | .num n => n.toInt64?
  | _ => none

def wordValue (v : Json) : Int := v.word?.getD 0

theorem lookup_cons_of_ne {k k' : String} (v : Json) (fs : List (String × Json)) (h : k ≠ k') :
    ((k', v) :: fs).lookup k = fs.lookup k := by
  have hb : (k == k') = false := by simpa using h
  simp [List.lookup, hb]

theorem lookup_insertField (k k' : String) (v : Json) (fs : List (String × Json)) :
    (insertField k' v fs).lookup k = if k = k' then some v else fs.lookup k := by
  induction fs with
  | nil =>
    by_cases h : k = k'
    · subst h
      simp [insertField]
    · simp [insertField, lookup_cons_of_ne v [] h, h]
  | cons f fs ih =>
    obtain ⟨k'', v''⟩ := f
    unfold insertField
    by_cases h : k = k'
    · subst h
      rw [if_pos rfl]
      split_ifs with hlt heq
      · simp [List.lookup]
      · simp [List.lookup]
      · -- the field is inserted past a field of another name
        rw [lookup_cons_of_ne v'' _ heq, ih, if_pos rfl]
    · rw [if_neg h]
      split_ifs with hlt heq
      · rw [lookup_cons_of_ne v _ h]
      · subst heq
        rw [lookup_cons_of_ne v _ h, lookup_cons_of_ne v'' _ h]
      · by_cases h'' : k = k''
        · subst h''
          simp [List.lookup]
        · rw [lookup_cons_of_ne v'' _ h'', lookup_cons_of_ne v'' _ h'', ih, if_neg h]

end Json

def FitsWord (x : Int) : Prop := int64Min ≤ x ∧ x ≤ int64Max

theorem saturatingAdd64_of_fits {a b : Int} (h : FitsWord (a + b)) : saturatingAdd64 a b = a + b := by
  unfold saturatingAdd64
  unfold FitsWord at h
  omega

theorem Json.Number.toInt64?_ofInt {x : Int} (h : FitsWord x) : (ofInt x).toInt64? = some x := by
  have hmax : int64Max = 2 ^ 63 - 1 := rfl
  unfold ofInt
  split
  · rfl
  · simp only [toInt64?, Nat.pow_eq]
    rw [if_pos (by unfold FitsWord at h; omega)]
    congr 1
    omega

namespace Metrics

def mergeStep (o : Option Json) (v : Json) : Option Json := some (combine o v)

def valuesOf (k : String) (parts : List (RunCompletion × List AttachmentSet × Metrics)) : List Json :=
  parts.flatMap fun p => (p.2.2.filter (·.1 == k)).map (·.2)

/-- The values of metric `k` across the partials are all signed 64-bit words, and any of them
added up stay within the word. -/
def WordSums (k : String) (parts : List (RunCompletion × List AttachmentSet × Metrics)) : Prop :=
  (∀ v ∈ valuesOf k parts, v.word?.isSome) ∧
    ∀ ws : List Json, ws.Sublist (valuesOf k parts) → FitsWord (ws.map Json.wordValue).sum

theorem lookup_absorb (acc m : Metrics) (k : String) :
    (absorb acc m).lookup k = ((m.filter (·.1 == k)).map (·.2)).foldl mergeStep (acc.lookup k) := by
  induction m generalizing acc with
  | nil => rfl
  | cons e m ih =>
    obtain ⟨k', v⟩ := e
    simp only [absorb, List.foldl_cons] at ih ⊢
    rw [ih, Json.lookup_insertField]
    by_cases h : k = k'
    · subst h
      simp [mergeStep]
    · have h' : (k' == k) = false := by simpa using Ne.symm h
      simp [h, h']

theorem lookup_foldl_absorb (parts : List (RunCompletion × List AttachmentSet × Metrics)) (acc : Metrics) (k : String) :
    (parts.foldl (fun m p => absorb m p.2.2) acc).lookup k = (valuesOf k parts).foldl mergeStep (acc.lookup k) := by
  induction parts generalizing acc with
  | nil => rfl
  | cons p parts ih => simp [ih, lookup_absorb, valuesOf, List.foldl_append]

theorem combine_words {u v : Json} {x y : Int} (hu : u.word? = some x) (hv : v.word? = some y)
    (h : FitsWord (x + y)) : combine (some u) v = .num (Json.Number.ofInt (x + y)) := by
  cases u with
  | num a =>
    cases v with
    | num b =>
      have ha : a.toInt64? = some x := hu
      have hb : b.toInt64? = some y := hv
      simp [combine, Json.Number.sumMetric, ha, hb, saturatingAdd64_of_fits h]
    | _ => cases hv
  | _ => cases hu

theorem foldl_mergeStep_words (rest : List Json) {u : Json} {s : Int} (hu : u.word? = some s)
    (hw : ∀ v ∈ rest, v.word?.isSome) (hpre : ∀ j, FitsWord (s + ((rest.take j).map Json.wordValue).sum))
    (hne : rest ≠ []) : rest.foldl mergeStep (some u) = some (.num (Json.Number.ofInt (s + (rest.map Json.wordValue).sum))) := by
  induction rest generalizing u s with
  | nil => exact absurd rfl hne
  | cons v rest ih =>
    obtain ⟨y, hy⟩ := Option.isSome_iff_exists.1 (hw v List.mem_cons_self)
    have hvy : v.wordValue = y := by simp [Json.wordValue, hy]
    have hfit : FitsWord (s + y) := by simpa [hvy] using hpre 1
    have hstep : mergeStep (some u) v = some (.num (Json.Number.ofInt (s + y))) := by
      rw [mergeStep, combine_words hu hy hfit]
    rw [List.foldl_cons, hstep]
    by_cases hrest : rest = []
    · subst hrest
      simp [hvy]
    · -- the sum so far is a word again, and the rest merges into it
      have hu' : (Json.num (Json.Number.ofInt (s + y))).word? = some (s + y) := Json.Number.toInt64?_ofInt hfit
      have hpre' : ∀ j, FitsWord (s + y + ((rest.take j).map Json.wordValue).sum) := by
        intro j
        simpa [hvy, Int.add_assoc] using hpre (j + 1)
      rw [ih hu' (fun v hv => hw v (List.mem_cons_of_mem _ hv)) hpre' hrest]
      simp [hvy, Int.add_assoc]

theorem foldl_mergeStep_sum {vals : List Json} (hw : ∀ v ∈ vals, v.word?.isSome)
    (hsub : ∀ ws : List Json, ws.Sublist vals → FitsWord (ws.map Json.wordValue).sum) (h₂ : 2 ≤ vals.length) :
    vals.foldl mergeStep none = some (.num (Json.Number.ofInt (vals.map Json.wordValue).sum)) := by
  obtain _ | ⟨v, rest⟩ := vals
  · simp at h₂
  · obtain ⟨x, hx⟩ := Option.isSome_iff_exists.1 (hw v List.mem_cons_self)
    have hvx : v.wordValue = x := by simp [Json.wordValue, hx]
    have hfirst : mergeStep none v = some v := by cases v <;> rfl
    have hrest : rest ≠ [] := by
      rintro rfl
      simp at h₂
    -- every prefix of the values is among the sums that stay within the word
    have hpre : ∀ j, FitsWord (x + ((rest.take j).map Json.wordValue).sum) := by
      intro j
      simpa [hvx] using hsub _ ((List.take_sublist j rest).cons_cons v)
    rw [List.foldl_cons, hfirst,
      foldl_mergeStep_words rest hx (fun w hw' => hw w (List.mem_cons_of_mem _ hw')) hpre hrest]
    simp [hvx]

theorem foldl_mergeStep_perm {vals vals' : List Json} (h : vals.Perm vals') (hw : ∀ v ∈ vals, v.word?.isSome)
    (hsub : ∀ ws : List Json, ws.Sublist vals → FitsWord (ws.map Json.wordValue).sum) :
    vals.foldl mergeStep none = vals'.foldl mergeStep none := by
  match vals, h with
  | [], h => rw [List.nil_perm.1 h]
  | [v], h => rw [List.perm_singleton.1 h.symm]
  | v :: w :: rest, h =>
    have h₂ : 2 ≤ (v :: w :: rest).length := by simp
    -- the values in the other order are words whose sums stay within the word as well
    have hw' : ∀ u ∈ vals', u.word?.isSome := fun u hu => hw u (h.mem_iff.2 hu)
    have hsub' : ∀ ws : List Json, ws.Sublist vals' → FitsWord (ws.map Json.wordValue).sum := by
      intro ws hws
      obtain ⟨ws', hp, hs⟩ := List.exists_perm_sublist hws h.symm
      rw [← (hp.map Json.wordValue).sum_eq]
      exact hsub ws' hs
    rw [foldl_mergeStep_sum hw hsub h₂, foldl_mergeStep_sum hw' hsub' (h.length_eq ▸ h₂),
      (h.map Json.wordValue).sum_eq]

theorem valuesOf_perm {parts parts' : List (RunCompletion × List AttachmentSet × Metrics)} (h : parts.Perm parts')
    (k : String) : (valuesOf k parts).Perm (valuesOf k parts') :=
  h.flatMap_right _

end Metrics

/-! ## Runs -/

namespace RunTally

/-- What two run tallies folded from the partials `parts` in two orders agree on once finished:
the statistics, the cancel and abort marks and the elapsed time; the errors and the attachment
sets up to order; and every metric whose values are all signed 64-bit words that stay within the
word however many of them are added. -/
structure Agree (parts : List (RunCompletion × List AttachmentSet × Metrics)) (t t' : RunTally) : Prop where
  stats : t.finish.1.1.stats = t'.finish.1.1.stats
  canceled : t.finish.1.1.isCanceled = t'.finish.1.1.isCanceled
  aborted : t.finish.1.1.isAborted = t'.finish.1.1.isAborted
  elapsed : t.finish.1.1.elapsed = t'.finish.1.1.elapsed
  errors : ∃ es es', es.Perm es' ∧ t.finish.1.1.error = (if es.isEmpty then none else some ("\n".intercalate es)) ∧
    t'.finish.1.1.error = (if es'.isEmpty then none else some ("\n".intercalate es'))
  attachments : t.finish.1.2.1.Perm t'.finish.1.2.1
  metrics : ∀ k, Metrics.WordSums k parts → t.finish.1.2.2.lookup k = t'.finish.1.2.2.lookup k

theorem absorbed_agree {parts parts' : List (RunCompletion × List AttachmentSet × Metrics)} (h : parts.Perm parts')
    (s : Statistics) : Agree parts (empty.absorbed parts s) (empty.absorbed parts' s) := by
  have hel := Duration.toNanos_foldl_max (fun p : RunCompletion × List AttachmentSet × Metrics => p.1.elapsed)
  have hperm : (parts.map fun p => p.1.elapsed.toNanos).foldl Max.max Duration.zero.toNanos =
      (parts'.map fun p => p.1.elapsed.toNanos).foldl Max.max Duration.zero.toNanos :=
    (h.map _).foldl_eq' (fun _ _ _ _ _ => by omega) _
  refine ⟨rfl, by simp [finish, absorbed, h.any_eq], by simp [finish, absorbed, h.any_eq], ?_, ?_, ?_, ?_⟩
  · -- the two longest spans are equally long, so the same span
    apply Duration.eq_of_toNanos
    simp only [finish, absorbed, empty, hel, hperm]
  · exact ⟨_, _, h.flatMap_right _, rfl, rfl⟩
  · simpa [finish, absorbed, empty] using h.flatMap_right _
  · intro k hk
    simp only [finish, absorbed, empty, Metrics.lookup_foldl_absorb]
    exact Metrics.foldl_mergeStep_perm (Metrics.valuesOf_perm h k) hk.1 hk.2

end RunTally

/-- Partials fold to the same tally, whatever the order they come in. Discovery partials fold to
the same tally, so to the same reported total and abort mark. Run partials fold in one order
exactly when they fold in the other; the completions they then finish with have the same
statistics, marks and elapsed time, errors and attachment sets that are permutations of each
other, and the same value for every metric whose values are all signed 64-bit words that stay
within the word however many of them are added. -/
theorem partials_fold_in_any_order :
    (∀ parts parts' : List (Int × Bool), parts.Perm parts' →
      parts.foldlM (fun r p => r.aggregate? p.1 p.2) DiscoveryTally.empty =
        parts'.foldlM (fun r p => r.aggregate? p.1 p.2) DiscoveryTally.empty) ∧
    (∀ parts parts' : List (RunCompletion × List AttachmentSet × Metrics), parts.Perm parts' →
      (parts.foldlM (fun (r : RunTally) p => r.aggregate? p.1 p.2.1 p.2.2) RunTally.empty).isSome =
        (parts'.foldlM (fun (r : RunTally) p => r.aggregate? p.1 p.2.1 p.2.2) RunTally.empty).isSome ∧
      ∀ t t' : RunTally, parts.foldlM (fun r p => r.aggregate? p.1 p.2.1 p.2.2) RunTally.empty = some t →
        parts'.foldlM (fun r p => r.aggregate? p.1 p.2.1 p.2.2) RunTally.empty = some t' → RunTally.Agree parts t t') := by
  refine ⟨fun parts parts' h => DiscoveryTally.foldlM_aggregate_perm h, fun parts parts' h => ?_⟩
  -- both folds merge the same statistics, so both fail or both hold the same sums
  have hstats : (parts.map (·.1.stats)).foldl Statistics.plus Statistics.empty =
      (parts'.map (·.1.stats)).foldl Statistics.plus Statistics.empty :=
    Statistics.foldl_plus_perm (h.map _) _
  simp only [RunTally.foldlM_aggregate, show RunTally.empty.stats = Statistics.empty from rfl,
    Statistics.foldlM_merge _ Statistics.empty_fits, hstats]
  refine ⟨by rw [Option.isSome_map, Option.isSome_map], fun t t' ht ht' => ?_⟩
  by_cases hfit : ((parts'.map (·.1.stats)).foldl Statistics.plus Statistics.empty).Fits
  · simp only [hfit, if_true, Option.map_some, Option.some.injEq] at ht ht'
    subst ht ht'
    exact RunTally.absorbed_agree h _
  · simp [hfit] at ht

/-- Two discovery partials, counted in both orders. -/
theorem twoPartials_either_order :
    [((3 : Int), false), (4, false)].Perm [(4, false), (3, false)] ∧
      [((3 : Int), false), (4, false)].foldlM (fun t p => t.aggregate? p.1 p.2) DiscoveryTally.empty =
        [((4 : Int), false), (3, false)].foldlM (fun t p => t.aggregate? p.1 p.2) DiscoveryTally.empty :=
  ⟨List.Perm.swap _ _ _, partials_fold_in_any_order.1 _ _ (List.Perm.swap _ _ _)⟩

end TestConductor
