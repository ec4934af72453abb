import FlowObs.Agreement
import FlowObs.Lib.Decimal

/-!
# Tolerance, and the conflict that is named

Two totals are within tolerance when they differ by at most the absolute bound or by at most the relative one, as long
as the product under the relative bound fits into 64 bits. A product that does not fit is answered "apart"
(`withinTolerance_iff`).

The text of a conflict names two sources and their totals, and can be read back (`conflictText_inj`). The pair that it
names is the first one that the loop finds apart, which need not be the one that the verdict rests on.
-/

namespace FlowObs

/-! ## Tolerance -/

theorem checkedMul_overflow {a b : UInt64} : (checkedMul a b).overflow = true ↔ 2 ^ 64 ≤ a.toNat * b.toNat := by
  unfold checkedMul
  by_cases hzero : a = 0 ∨ b = 0
  · rw [if_pos hzero]
    rcases hzero with rfl | rfl <;> simp [checkedOk]
  · rw [if_neg hzero]
    rw [not_or] at hzero
    have hb : 0 < b.toNat := Nat.pos_of_ne_zero fun h => hzero.2 (UInt64.toNat_inj.1 h)
    have hdiv : a > 0xFFFFFFFFFFFFFFFF / b ↔ 2 ^ 64 ≤ a.toNat * b.toNat := by
      have hmax : (0xFFFFFFFFFFFFFFFF : UInt64).toNat = 2 ^ 64 - 1 := rfl
      rw [gt_iff_lt, UInt64.lt_iff_toNat_lt, UInt64.toNat_div, hmax, Nat.div_lt_iff_lt_mul hb]
      omega
    by_cases hgt : a > 0xFFFFFFFFFFFFFFFF / b
    · rw [if_pos hgt]
      exact iff_of_true rfl (hdiv.1 hgt)
    · rw [if_neg hgt]
      exact iff_of_false Bool.false_ne_true fun h => hgt (hdiv.2 h)

theorem checkedMul_value {a b : UInt64} (hfits : a.toNat * b.toNat < 2 ^ 64) :
    (checkedMul a b).value.toNat = a.toNat * b.toNat := by
  have hno : ¬ (checkedMul a b).overflow = true := fun h => absurd (checkedMul_overflow.1 h) (by omega)
  unfold checkedMul at hno ⊢
  by_cases hzero : a = 0 ∨ b = 0
  · rw [if_pos hzero]
    rcases hzero with rfl | rfl <;> simp [checkedOk]
  · rw [if_neg hzero] at hno ⊢
    by_cases hgt : a > 0xFFFFFFFFFFFFFFFF / b
    · rw [if_pos hgt] at hno
      exact absurd rfl hno
    · rw [if_neg hgt]
      show (a * b).toNat = a.toNat * b.toNat
      rw [UInt64.toNat_mul, Nat.mod_eq_of_lt hfits]

theorem checkedMulDiv_overflow {value num den : UInt64} (hden : den ≠ 0) :
    (checkedMulDiv value num den).overflow = true ↔ 2 ^ 64 ≤ value.toNat * num.toNat := by
  rw [← checkedMul_overflow]
  unfold checkedMulDiv
  rw [if_neg hden]
  by_cases h : (checkedMul value num).overflow = true
  · rw [if_pos h]
  · rw [if_neg h]
    exact iff_of_false Bool.false_ne_true h

theorem checkedMulDiv_value {value num den : UInt64} (hden : den ≠ 0) (hfits : value.toNat * num.toNat < 2 ^ 64) :
    (checkedMulDiv value num den).value.toNat = value.toNat * num.toNat / den.toNat := by
  have hno : ¬ (checkedMul value num).overflow = true := fun h => absurd (checkedMul_overflow.1 h) (by omega)
  unfold checkedMulDiv
  rw [if_neg hden, if_neg hno]
  show ((checkedMul value num).value / den).toNat = _
  rw [UInt64.toNat_div, checkedMul_value hfits]

/-- What two totals differ by. -/
def apartBy (a b : UInt64) : Nat := max a.toNat b.toNat - min a.toNat b.toNat

theorem apartBy_eq_abs (a b : UInt64) : (apartBy a b : ℤ) = |(a.toNat : ℤ) - b.toNat| := by
  unfold apartBy
  rcases le_total a.toNat b.toNat with h | h
  · rw [max_eq_right h, min_eq_left h, abs_sub_comm, abs_of_nonneg (by omega)]
    omega
  · rw [max_eq_left h, min_eq_right h, abs_of_nonneg (by omega)]
    omega

/-- **What the comparison computes**: the absolute bound, or the relative one where its product fits into 64 bits. -/
theorem withinTolerance_iff (a b : UInt64) (policy : ReconciliationPolicy) :
    withinTolerance a b policy = true ↔ apartBy a b ≤ policy.absoluteToleranceBytes.toNat ∨
      max a.toNat b.toNat * policy.relativeTolerancePpm.toNat < 2 ^ 64 ∧
        apartBy a b * 1000000 ≤ max a.toNat b.toNat * policy.relativeTolerancePpm.toNat := by
  unfold withinTolerance
  simp only
  generalize hlarger : (if b < a then a else b) = larger
  generalize hsmaller : (if b < a then b else a) = smaller
  have hmax : larger.toNat = max a.toNat b.toNat := by
    rw [← hlarger]
    split <;> rename_i h <;> rw [UInt64.lt_iff_toNat_lt] at h <;> omega
  have hmin : smaller.toNat = min a.toNat b.toNat := by
    rw [← hsmaller]
    split <;> rename_i h <;> rw [UInt64.lt_iff_toNat_lt] at h <;> omega
  have hle : smaller ≤ larger := by
    rw [UInt64.le_iff_toNat_le, hmax, hmin]
    exact min_le_max
  have hapart : (larger - smaller).toNat = apartBy a b := by
    rw [UInt64.toNat_sub_of_le _ _ hle, hmax, hmin]
    rfl
  have hmillion : (1000000 : UInt64) ≠ 0 := by decide
  rw [← hmax]
  by_cases habsolute : larger - smaller ≤ policy.absoluteToleranceBytes
  · rw [if_pos habsolute]
    rw [UInt64.le_iff_toNat_le, hapart] at habsolute
    exact iff_of_true rfl (.inl habsolute)
  · rw [if_neg habsolute]
    rw [UInt64.le_iff_toNat_le, hapart] at habsolute
    rw [or_iff_right habsolute]
    by_cases hfits : larger.toNat * policy.relativeTolerancePpm.toNat < 2 ^ 64
    · rw [if_neg (fun h => absurd ((checkedMulDiv_overflow hmillion).1 h) (by omega)), decide_eq_true_iff,
        UInt64.le_iff_toNat_le, hapart, checkedMulDiv_value hmillion hfits, Nat.le_div_iff_mul_le (by decide),
        and_iff_right hfits]
      rfl
    · rw [if_pos ((checkedMulDiv_overflow hmillion).2 (by omega))]
      exact iff_of_false Bool.false_ne_true fun h => hfits h.1

/-- **When the comparison is exact**: the product under the relative bound fits into 64 bits, the absolute bound
covers the difference, or not even the exact relative bound does. -/
theorem tolerance_exact_iff (a b : UInt64) (policy : ReconciliationPolicy) :
    (withinTolerance a b policy = true ↔ |(a.toNat : ℤ) - b.toNat| ≤ policy.absoluteToleranceBytes.toNat ∨
      |(a.toNat : ℤ) - b.toNat| * 1000000 ≤ max (a.toNat : ℤ) b.toNat * policy.relativeTolerancePpm.toNat) ↔
    max a.toNat b.toNat * policy.relativeTolerancePpm.toNat < 2 ^ 64 ∨
      |(a.toNat : ℤ) - b.toNat| ≤ policy.absoluteToleranceBytes.toNat ∨
      max (a.toNat : ℤ) b.toNat * policy.relativeTolerancePpm.toNat < |(a.toNat : ℤ) - b.toNat| * 1000000 := by
  rw [withinTolerance_iff, ← apartBy_eq_abs]
  norm_cast
  generalize max a.toNat b.toNat * policy.relativeTolerancePpm.toNat = product
  generalize apartBy a b = difference
  omega

/-- **Totals beyond 64 bits are called apart.** Two counters of 2^63 and one less are not within a tolerance of 1000
parts per million. -/
theorem tolerance_overflows : ¬ ∀ (a b : UInt64) (policy : ReconciliationPolicy),
    withinTolerance a b policy = true ↔ |(a.toNat : ℤ) - b.toNat| ≤ policy.absoluteToleranceBytes.toNat ∨
      |(a.toNat : ℤ) - b.toNat| * 1000000 ≤ max (a.toNat : ℤ) b.toNat * policy.relativeTolerancePpm.toNat := by
  intro h
  have happart := (h 0x8000000000000000 0x7FFFFFFFFFFFFFFF { relativeTolerancePpm := 1000 }).2 (.inr (by decide))
  revert happart
  decide

/-! ## The text of a conflict -/

/-- Two texts that part where neither goes on with a letter of `p`. -/
theorem append_inj_of_head {p : UInt8 → Prop} {a b s t : Str} (ha : ∀ c ∈ a, p c) (hb : ∀ c ∈ b, p c)
    (hs : ∀ c ∈ s.head?, ¬ p c) (ht : ∀ c ∈ t.head?, ¬ p c) (h : a ++ s = b ++ t) : a = b ∧ s = t := by
  induction a generalizing b with
  | nil =>
    cases b with
    | nil => exact ⟨rfl, h⟩
    | cons c b =>
      rw [List.nil_append, List.cons_append] at h
      exact absurd (hb c List.mem_cons_self) (hs c (by rw [h]; rfl))
  | cons c a ih =>
    cases b with
    | nil =>
      rw [List.nil_append, List.cons_append] at h
      exact absurd (ha c List.mem_cons_self) (ht c (by rw [← h]; rfl))
    | cons d b =>
      rw [List.cons_append, List.cons_append] at h
      obtain ⟨rfl, hrest⟩ := List.cons.inj h
      obtain ⟨rfl, hst⟩ := ih (fun e he => ha e (List.mem_cons_of_mem _ he))
        (fun e he => hb e (List.mem_cons_of_mem _ he)) hrest
      exact ⟨rfl, hst⟩

theorem decimal_digits {n : Nat} : ∀ c ∈ decimal n, 48 ≤ c ∧ c ≤ 57 := by
  intro c hc
  obtain ⟨hlow, hhigh⟩ := Decimal.isDigit_iff.1 (Decimal.isDigit_digits c hc)
  exact ⟨UInt8.le_iff_toNat_le.2 hlow, UInt8.le_iff_toNat_le.2 hhigh⟩

theorem decimal_inj {m n : Nat} (h : decimal m = decimal n) : m = n := by
  rw [← Decimal.value_digits m, ← Decimal.value_digits n]
  exact congrArg Decimal.value h

/-- Numbers of one count of hexadecimal digits that agree in each digit. -/
theorem eq_of_nibbles {n : Nat} : ∀ {v w : Nat}, v < 16 ^ n → w < 16 ^ n →
    (∀ k < n, v / 16 ^ k % 16 = w / 16 ^ k % 16) → v = w := by
  induction n with
  | zero =>
    intro v w hv hw _
    omega
  | succ n ih =>
    intro v w hv hw hsame
    have hlow : v % 16 = w % 16 := by simpa using hsame 0 (Nat.succ_pos n)
    have hhigh : v / 16 = w / 16 := by
      refine ih (by rw [pow_succ] at hv; omega) (by rw [pow_succ] at hw; omega) fun k hk => ?_
      rw [Nat.div_div_eq_div_mul, Nat.div_div_eq_div_mul, ← pow_succ']
      exact hsame (k + 1) (by omega)
    omega

theorem kHexDigits_inj : ∀ a < 16, ∀ b < 16, kHexDigits (UInt64.ofNat a) = kHexDigits (UInt64.ofNat b) → a = b := by
  decide

theorem hex16_inj {v w : UInt64} (h : hex16 v = hex16 w) : v = w := by
  have hshifts : ∀ k < 16, UInt64.ofNat (4 * k) ∈
      ([60, 56, 52, 48, 44, 40, 36, 32, 28, 24, 20, 16, 12, 8, 4, 0] : List UInt64) := by
    decide
  have hnibble : ∀ (u : UInt64) (k : Nat), k < 16 →
      (u >>> UInt64.ofNat (4 * k)) &&& 0xF = UInt64.ofNat (u.toNat / 16 ^ k % 16) := by
    intro u k hk
    have hshift : (UInt64.ofNat (4 * k)).toNat = 4 * k := UInt64.toNat_ofNat_of_lt' (show 4 * k < 2 ^ 64 by omega)
    have hmod : u.toNat / 16 ^ k % 16 < 2 ^ 64 := by omega
    rw [← UInt64.toNat_inj, UInt64.toNat_and, UInt64.toNat_shiftRight, hshift, UInt64.toNat_ofNat_of_lt' hmod,
      Nat.mod_eq_of_lt (by omega), Nat.shiftRight_eq_div_pow, pow_mul]
    exact Nat.and_two_pow_sub_one_eq_mod _ 4
  refine UInt64.toNat_inj.1 (eq_of_nibbles (n := 16) v.toNat_lt w.toNat_lt fun k hk => ?_)
  have hdigit := List.map_inj_left.1 h _ (hshifts k hk)
  rw [hnibble v k hk, hnibble w k hk] at hdigit
  exact kHexDigits_inj _ (by omega) _ (by omega) hdigit

theorem length_hex16 (v : UInt64) : (hex16 v).length = 16 := rfl

/-- An identity is read back from its text, whatever follows it. -/
theorem toStr_append_inj {d : IdDomain} {a b : OpaqueId d} {s t : Str} (h : a.toStr ++ s = b.toStr ++ t) :
    a = b ∧ s = t := by
  unfold OpaqueId.toStr at h
  simp only [List.append_assoc] at h
  obtain ⟨hhex, hrest⟩ := List.append_inj (List.append_cancel_left (List.append_cancel_left h))
    (by rw [length_hex16, length_hex16])
  exact ⟨OpaqueId.ext (hex16_inj hhex), hrest⟩

/-- A number is read back from its text, where no digit follows it. -/
theorem decimal_append_inj {m n : Nat} {s t : Str} (hs : ∀ c ∈ s.head?, ¬ (48 ≤ c ∧ c ≤ 57))
    (ht : ∀ c ∈ t.head?, ¬ (48 ≤ c ∧ c ≤ 57)) (h : decimal m ++ s = decimal n ++ t) : m = n ∧ s = t := by
  obtain ⟨hdecimal, hrest⟩ := append_inj_of_head decimal_digits decimal_digits hs ht h
  exact ⟨decimal_inj hdecimal, hrest⟩

/-- **The text of a conflict names its sources and their totals.** -/
theorem conflictText_inj {left right left' right' : SourceView}
    (h : conflictText left right = conflictText left' right') :
    left.source = left'.source ∧ right.source = right'.source ∧ (totalsOf left).bytes = (totalsOf left').bytes ∧
      (totalsOf right).bytes = (totalsOf right').bytes := by
  have hmid : ∀ rest : Str, ∀ c ∈ (str " bytes, " ++ rest).head?, ¬ (48 ≤ c ∧ c ≤ 57) := by
    intro rest c hc
    have hhead : (str " bytes, ").head? = some 32 := by with_unfolding_all decide
    rw [List.head?_append, hhead] at hc
    cases hc
    decide
  have hend : ∀ c ∈ (str " bytes, and no higher authority exists to resolve it").head?, ¬ (48 ≤ c ∧ c ≤ 57) := by
    have hhead : (str " bytes, and no higher authority exists to resolve it").head? =
        some 32 := by with_unfolding_all decide
    intro c hc
    rw [hhead] at hc
    cases hc
    decide
  unfold conflictText at h
  simp only [List.append_assoc] at h
  obtain ⟨hleft, h⟩ := toStr_append_inj (List.append_cancel_left h)
  obtain ⟨hbytes, h⟩ := decimal_append_inj (hmid _) (hmid _) (List.append_cancel_left h)
  obtain ⟨hright, h⟩ := toStr_append_inj (List.append_cancel_left h)
  obtain ⟨hbytes', -⟩ := decimal_append_inj hend hend (List.append_cancel_left h)
  exact ⟨hleft, hright, UInt64.toNat_inj.1 hbytes, UInt64.toNat_inj.1 hbytes'⟩

/-! ## The pair that is named -/

/-- The first two usable sources that the pair loop finds apart. -/
def firstApart (policy : ReconciliationPolicy) (views : List SourceView) : Option (SourceView × SourceView) :=
  (orderedPairs (listed (views.filter sourceIsUsable))).find? (disagree policy)

/-- The first of the pairs of an ascending list leads all that follow it. -/
theorem pairwise_orderedPairs {α : Type} {r : α → α → Prop} (hrefl : ∀ a, r a a) {l : List α} (hs : l.Pairwise r) :
    (orderedPairs l).Pairwise (fun p q => r p.1 q.1) := by
  induction l with
  | nil => exact List.Pairwise.nil
  | cons a l ih =>
    obtain ⟨ha, hl⟩ := List.pairwise_cons.1 hs
    unfold orderedPairs
    refine List.pairwise_append.2 ⟨?_, ih hl, fun p hp q hq => ?_⟩
    · exact List.pairwise_map.2 (List.pairwise_of_forall fun _ _ => hrefl a)
    · obtain ⟨b, -, rfl⟩ := List.mem_map.1 hp
      obtain ⟨hq₁, -, -⟩ := mem_orderedPairs hl (a := q.1) (b := q.2) hq
      exact ha _ hq₁

theorem firstApart_mem {policy : ReconciliationPolicy} {views : List SourceView} {left right : SourceView}
    (h : firstApart policy views = some (left, right)) : disagree policy (left, right) = true ∧
      (∃ v ∈ views.filter sourceIsUsable, retotal v = left) ∧ ∃ w ∈ views.filter sourceIsUsable, retotal w = right := by
  have hany : (listed (views.filter sourceIsUsable)).Pairwise (fun _ _ => True) :=
    List.pairwise_of_forall (fun _ _ => trivial)
  obtain ⟨hleft, hright, -⟩ := mem_orderedPairs hany (List.mem_of_find?_eq_some h)
  exact ⟨List.find?_some h, mem_listed.1 hleft, mem_listed.1 hright⟩

/-- No source that is apart from another has more authority than the first that is found. -/
theorem firstApart_top {policy : ReconciliationPolicy} {views : List SourceView} {left right : SourceView}
    (h : firstApart policy views = some (left, right)) {v w : SourceView} (hv : v ∈ views.filter sourceIsUsable)
    (hw : w ∈ views.filter sourceIsUsable) (heq : v.authority = w.authority)
    (hd : disagree policy (retotal v, retotal w) = true) : ¬ left.authority < v.authority := by
  have hsorted : (listed (views.filter sourceIsUsable)).Pairwise (fun a b => (!sourceViewLess b a) = true) :=
    List.pairwise_insertionSort _ _
  have hpairs := pairwise_orderedPairs (fun a => sourceViewLess_le.2 le_rfl) hsorted
  obtain ⟨-, before, after, hsplit, hbefore⟩ := List.find?_eq_some_iff_append.1 h
  have hlead : ∀ p ∈ orderedPairs (listed (views.filter sourceIsUsable)), disagree policy p = true →
      left.rank ≤ p.1.rank := by
    intro p hp hapart
    rw [hsplit] at hp hpairs
    rcases List.mem_append.1 hp with hp | hp
    · have hagree := hbefore p hp
      rw [hapart] at hagree
      cases hagree
    · rcases List.mem_cons.1 hp with rfl | hp
      · exact le_rfl
      · exact sourceViewLess_le.1 ((List.pairwise_cons.1 (List.pairwise_append.1 hpairs).2.1).1 p hp)
  have hrank : ∀ u : SourceView, left.rank ≤ u.rank → ¬ left.authority < u.authority := by
    intro u hle
    unfold SourceView.rank at hle
    rw [Prod.Lex.toLex_le_toLex] at hle
    rw [UInt32.lt_iff_toNat_lt]
    rcases hle with hlt | ⟨hsame, -⟩
    · have hless : u.authority.toNat < left.authority.toNat := OrderDual.toDual_lt_toDual.1 hlt
      omega
    · have hsame : left.authority.toNat = u.authority.toNat := OrderDual.toDual.injective hsame
      omega
  have hne : retotal v ≠ retotal w := by
    intro h
    rw [h, not_disagree_self] at hd
    cases hd
  rcases orderedPairs_or (mem_listed.2 ⟨v, hv, rfl⟩) (mem_listed.2 ⟨w, hw, rfl⟩) hne with hp | hp
  · exact hrank (retotal v) (hlead _ hp hd)
  · rw [heq]
    exact hrank (retotal w) (hlead _ hp (by rwa [disagree_comm]))

/-- The text of a reconciled view that is in conflict is of the first pair that is apart. -/
theorem conflictDetail_eq {policy : ReconciliationPolicy} {views : List SourceView} (h : Conflicted policy views)
    (flow : FlowId) (generation : GenerationId) (isCurrent : Bool) : ∃ left right,
      firstApart policy views = some (left, right) ∧
      (reconcileGeneration flow generation views policy isCurrent).conflictDetail = conflictText left right := by
  have husable : (listed views).filter sourceIsUsable = listed (views.filter sourceIsUsable) :=
    filter_listed (fun _ => rfl) views
  have hverdict : (reconcileGeneration flow generation views policy isCurrent).conflictDetail
        = (consistencyOf policy (listed (views.filter sourceIsUsable))).2.2 ∧
      (reconcileGeneration flow generation views policy isCurrent).unresolvedConflict
        = (consistencyOf policy (listed (views.filter sourceIsUsable))).2.1 := by
    rw [← husable]
    exact ⟨rfl, rfl⟩
  have hflag := (unresolvedConflict_iff flow generation views policy isCurrent).2 h
  rw [hverdict.2] at hflag
  rw [hverdict.1]
  unfold firstApart
  unfold consistencyOf at hflag ⊢
  rw [← List.head?_filter]
  by_cases hshort : (listed (views.filter sourceIsUsable)).length < 2
  · rw [if_pos hshort] at hflag
    cases hflag
  · rw [if_neg hshort] at hflag ⊢
    cases hpairs : (orderedPairs (listed (views.filter sourceIsUsable))).filter (disagree policy) with
    | nil =>
      rw [hpairs] at hflag
      cases hflag
    | cons pair rest =>
      obtain ⟨left, right⟩ := pair
      rw [hpairs] at hflag
      simp only at hflag ⊢
      by_cases hall : ((left, right) :: rest).all (settled policy (listed (views.filter sourceIsUsable))) = true
      · rw [if_pos hall] at hflag
        cases hflag
      · rw [if_neg hall]
        exact ⟨left, right, rfl, rfl⟩

/-- **When the conflict that is named is the real one**: where the first two usable sources that are apart, in the
order of `sort_source_views`, have one authority. In a list with several views of one source, it is also where two
other views that bear their names and totals are in conflict. -/
theorem conflict_named_iff (flow : FlowId) (generation : GenerationId) (policy : ReconciliationPolicy)
    (isCurrent : Bool)
    (views : List SourceView) :
    let view : GenerationView := reconcileGeneration flow generation views policy isCurrent
    let usable := views.filter sourceIsUsable
    let resolved := fun authority : UInt32 => policy.higherAuthorityResolves = true ∧
    ∃ u ∈ usable, authority < u.authority
    (view.consistency = .Conflicting → ∃ v ∈ usable, ∃ w ∈ usable,
      view.conflictDetail = conflictText (retotal v) (retotal w) ∧ v.authority = w.authority ∧
        disagree policy (retotal v, retotal w) = true ∧ ¬ resolved v.authority) ↔
      (Conflicted policy views → ∃ left right, firstApart policy views = some (left, right) ∧
        (left.authority = right.authority ∨ ∃ v ∈ usable, ∃ w ∈ usable, (retotal v, retotal w) ≠ (left, right) ∧
          v.source = left.source ∧ w.source = right.source ∧ (totalsOf (retotal v)).bytes = (totalsOf left).bytes ∧
          (totalsOf (retotal w)).bytes = (totalsOf right).bytes ∧ v.authority = w.authority ∧ ¬ resolved v.authority))
            := by
  intro view usable resolved
  have hconflicting : view.consistency = .Conflicting ↔ Conflicted policy views :=
    (consistency_iff flow generation policy isCurrent views).2.2.1
  rw [hconflicting]
  refine imp_congr_right fun hconflict => ?_
  obtain ⟨left, right, hfirst, htext⟩ := conflictDetail_eq hconflict flow generation isCurrent
  obtain ⟨hapart, ⟨v₀, hv₀, hleft⟩, w₀, hw₀, hright⟩ := firstApart_mem hfirst
  constructor
  · rintro ⟨v, hv, w, hw, hdetail, heq, -, hnone⟩
    refine ⟨left, right, hfirst, ?_⟩
    by_cases hsame : (retotal v, retotal w) = (left, right)
    · obtain ⟨hl, hr⟩ := Prod.mk.inj hsame
      exact .inl (by rw [← hl, ← hr]; exact heq)
    · obtain ⟨hsource, hsource', hbytes, hbytes'⟩ := conflictText_inj (hdetail.symm.trans htext)
      exact .inr ⟨v, hv, w, hw, hsame, hsource, hsource', hbytes, hbytes', heq, hnone⟩
  · rintro ⟨left', right', hfirst', hnamed⟩
    rw [hfirst] at hfirst'
    obtain ⟨rfl, rfl⟩ := Prod.mk.inj (Option.some.inj hfirst')
    rcases hnamed with heq | ⟨v, hv, w, hw, -, hsource, hsource', hbytes, hbytes', heq, hnone⟩
    · refine ⟨v₀, hv₀, w₀, hw₀, ?_, ?_, ?_, fun ⟨hresolves, u, hu, hlt⟩ => ?_⟩
      · rw [hleft, hright]
        exact htext
      · rw [← hleft, ← hright] at heq
        exact heq
      · rw [hleft, hright]
        exact hapart
      · -- the sources in conflict are at the top, and none of them is above the first pair
        obtain ⟨v, hv, w, hw, hvw, hd, htop⟩ := hconflict
        have hnot := firstApart_top hfirst hv hw hvw hd
        have hle : ¬ v.authority < u.authority := fun h => htop ⟨hresolves, u, hu, h⟩
        have hleft' : v₀.authority = left.authority := by rw [← hleft]; rfl
        rw [UInt32.lt_iff_toNat_lt] at hnot hle hlt
        rw [hleft'] at hlt
        omega
    · refine ⟨v, hv, w, hw, ?_, heq, ?_, hnone⟩
      · have hsame : conflictText left right = conflictText (retotal v) (retotal w) := by
          have hs : (retotal v).source = left.source := hsource
          have hs' : (retotal w).source = right.source := hsource'
          unfold conflictText
          rw [hs, hs', hbytes, hbytes']
        exact htext.trans hsame
      · have hbytes₀ : disagree policy (retotal v, retotal w) = disagree policy (left, right) := by
          unfold disagree
          rw [hbytes, hbytes']
        rw [hbytes₀]
        exact hapart

/-- Counters that differ by no more than ten bytes corroborate. -/
def tenBytes : ReconciliationPolicy := { absoluteToleranceBytes := 10 }

/-- **A conflict that is named by a resolved pair.** The first two sources apart are the strongest and the weakest;
two others of the highest authority are in conflict. -/
theorem resolved_pair_named : ¬ ∀ (flow : FlowId) (generation : GenerationId) (policy : ReconciliationPolicy)
    (isCurrent : Bool)
    (views : List SourceView), let view := reconcileGeneration flow generation views policy isCurrent
    let usable := views.filter sourceIsUsable
    view.consistency = .Conflicting → ∃ v ∈ usable, ∃ w ∈ usable,
      view.conflictDetail = conflictText (retotal v) (retotal w) ∧ v.authority = w.authority ∧
        disagree policy (retotal v, retotal w) = true ∧
        ¬ (policy.higherAuthorityResolves = true ∧ ∃ u ∈ usable, v.authority < u.authority) := by
  intro h
  have hnamed := h ⟨7⟩ ⟨1⟩ tenBytes true
    [freshView ⟨1⟩ 9 100, freshView ⟨2⟩ 9 108, freshView ⟨3⟩ 9 92, freshView ⟨4⟩ 5 1000]
    (by decide)
  revert hnamed
  decide +kernel

end FlowObs
