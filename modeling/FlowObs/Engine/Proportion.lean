import FlowObs.Engine.Shares
import Mathlib.Algebra.BigOperators.Ring.List
import Mathlib.Algebra.Order.Field.Basic
import Mathlib.Data.List.GetD
import Mathlib.Data.Rat.Lemmas
import Mathlib.Tactic.FieldSimp

/-!
# Shares in proportion

Where the products fit into 64 bits, `distribute` rounds the exact quotients: down first, and some of them up by what
is left over. A product that does not fit is cut to a floor that is too small, its remainder counts as none, and what
is missing goes to the first weight (`giveOut_many`). `proportional_iff` says for which totals and weights every share
is still less than one away from the exact quotient, and the sum of the weights that is reported is the exact one.
-/

namespace FlowObs

/-! ## The largest remainder -/

theorem foldl_largest {value : Nat → UInt64} : ∀ {l : List (UInt64 × Nat)} {best : Nat}, (∀ p ∈ l, value p.2 = p.1) →
    (∀ p ∈ l, p.1 ≤ value (l.foldl (fun best p => if value best < p.1 then p.2 else best) best)) ∧
    value best ≤ value (l.foldl (fun best p => if value best < p.1 then p.2 else best) best) ∧
    (l.foldl (fun best p => if value best < p.1 then p.2 else best) best = best ∨
      value best < value (l.foldl (fun best p => if value best < p.1 then p.2 else best) best))
  | [], _, _ => ⟨fun _ h => absurd h List.not_mem_nil, UInt64.le_refl _, .inl rfl⟩
  | p :: l, best, h => by
    have hp := h p List.mem_cons_self
    have hl : ∀ q ∈ l, value q.2 = q.1 := fun q hq => h q (List.mem_cons_of_mem _ hq)
    rw [List.foldl_cons]
    by_cases hless : value best < p.1
    · rw [if_pos hless]
      obtain ⟨hall, hle, -⟩ := @foldl_largest value l p.2 hl
      rw [hp] at hle
      have hlt : value best < _ := UInt64.lt_of_lt_of_le hless hle
      refine ⟨fun q hq => ?_, UInt64.le_of_lt hlt, .inr hlt⟩
      rcases List.mem_cons.1 hq with rfl | hq
      · exact hle
      · exact hall q hq
    · rw [if_neg hless]
      obtain ⟨hall, hle, hwhich⟩ := @foldl_largest value l best hl
      refine ⟨fun q hq => ?_, hle, hwhich⟩
      rcases List.mem_cons.1 hq with rfl | hq
      · exact UInt64.le_trans (UInt64.not_lt.1 hless) hle
      · exact hall q hq

theorem getD_zipIdx {remainders : List UInt64} : ∀ p ∈ remainders.zipIdx, remainders.getD p.2 0 = p.1 := by
  intro p hp
  have hget := (List.mem_zipIdx_iff_getElem?.1 hp)
  rw [List.getD_eq_getElem?_getD, hget]
  rfl

theorem largestIndex_spec (remainders : List UInt64) :
    (∀ p ∈ remainders.zipIdx, p.1 ≤ remainders.getD (largestIndex remainders) 0) ∧
      (largestIndex remainders = 0 ∨ remainders.getD 0 0 < remainders.getD (largestIndex remainders) 0) := by
  obtain ⟨hall, -, hwhich⟩ :=
    @foldl_largest (fun i => remainders.getD i 0) remainders.zipIdx 0 getD_zipIdx
  exact ⟨hall, hwhich⟩

/-- No remainder is larger. -/
theorem le_largestIndex (remainders : List UInt64) (i : Nat) :
    remainders.getD i 0 ≤ remainders.getD (largestIndex remainders) 0 := by
  by_cases hi : i < remainders.length
  · have hmem : (remainders[i], i) ∈ remainders.zipIdx := List.mem_zipIdx_iff_getElem?.2 (List.getElem?_eq_getElem hi)
    have hle := (largestIndex_spec remainders).1 _ hmem
    rwa [List.getD_eq_getElem _ _ hi]
  · rw [List.getD_eq_default _ _ (Nat.le_of_not_lt hi)]
    exact UInt64.le_iff_toNat_le.2 (Nat.zero_le _)

/-- Among spent remainders the first one counts as the largest. -/
theorem largestIndex_of_spent {remainders : List UInt64} (h : ∀ i, remainders.getD i 0 = 0) :
    largestIndex remainders = 0 := by
  rcases (largestIndex_spec remainders).2 with heq | hlt
  · exact heq
  · rw [h, h] at hlt
    exact absurd hlt (UInt64.lt_irrefl _)

/-- The number of remainders that are not spent. -/
def unspent (remainders : List UInt64) : Nat := remainders.countP (· != 0)

theorem unspent_eq_zero {remainders : List UInt64} : unspent remainders = 0 ↔ ∀ i, remainders.getD i 0 = 0 := by
  unfold unspent
  rw [List.countP_eq_zero]
  constructor
  · intro h i
    by_cases hi : i < remainders.length
    · rw [List.getD_eq_getElem _ _ hi]
      simpa using h _ (List.getElem_mem hi)
    · exact List.getD_eq_default _ _ (Nat.le_of_not_lt hi)
  · intro h a ha
    obtain ⟨i, hi, rfl⟩ := List.mem_iff_getElem.1 ha
    have hzero := h i
    rw [List.getD_eq_getElem _ _ hi] at hzero
    simp [hzero]

/-- While a remainder is not spent the largest one is not, and giving to it spends one. -/
theorem unspent_set {remainders : List UInt64} (h : 0 < unspent remainders) :
    largestIndex remainders < remainders.length ∧ remainders.getD (largestIndex remainders) 0 ≠ 0 ∧
      unspent (remainders.set (largestIndex remainders) 0) + 1 = unspent remainders := by
  have hlargest : remainders.getD (largestIndex remainders) 0 ≠ 0 := by
    intro hzero
    have hall : ∀ i, remainders.getD i 0 = 0 := by
      intro i
      have hle := le_largestIndex remainders i
      rw [hzero] at hle
      exact UInt64.le_zero_iff.1 hle
    exact absurd (unspent_eq_zero.2 hall) (by omega)
  have hlt : largestIndex remainders < remainders.length := by
    by_contra hge
    exact hlargest (List.getD_eq_default _ _ (Nat.le_of_not_lt hge))
  refine ⟨hlt, hlargest, ?_⟩
  rw [List.getD_eq_getElem _ _ hlt] at hlargest
  unfold unspent at h ⊢
  rw [List.countP_set hlt]
  simp only [bne_iff_ne, ne_eq, hlargest, not_false_eq_true, if_true, not_true_eq_false, if_false]
  omega

/-! ## Giving out, share by share -/

theorem getD_set {l : List UInt64} {k : Nat} (hk : k < l.length) (a : UInt64) (i : Nat) :
    (l.set k a).getD i 0 = if i = k then a else l.getD i 0 := by
  rw [List.getD_eq_getElem?_getD, List.getElem?_set]
  by_cases h : i = k
  · rw [if_pos h.symm, if_pos h, if_pos hk]
    rfl
  · rw [if_neg fun heq => h heq.symm, if_neg h, List.getD_eq_getElem?_getD]

theorem toNat_getD_modify {shares : List UInt64} {k : Nat} (hk : k < shares.length)
    (hfits : exactSum shares + 1 < 2 ^ 64) (i : Nat) :
    ((shares.modify k (· + 1)).getD i 0).toNat = (shares.getD i 0).toNat + if i = k then 1 else 0 := by
  rw [List.modify_eq_set_get _ hk]
  simp only [getD_set hk]
  split
  · rename_i heq
    have hle := @getD_le_exactSum shares k
    have hone : (1 : UInt64).toNat = 1 := rfl
    rw [heq, List.get_eq_getElem, ← List.getD_eq_getElem shares 0 hk]
    exact (addExact_eq (by omega)).2
  · rfl

/-- One round: the largest remainder is spent and its share grows. -/
theorem giveOut_round {remainders shares : List UInt64} {n : Nat} (hlen : remainders.length = shares.length)
    (hne : remainders ≠ []) (hfits : exactSum shares + (n + 1) < 2 ^ 64) :
    (remainders.set (largestIndex remainders) 0).length = (shares.modify (largestIndex remainders) (· + 1)).length ∧
      exactSum (shares.modify (largestIndex remainders) (· + 1)) + n < 2 ^ 64 ∧
      (∀ i, ((shares.modify (largestIndex remainders) (· + 1)).getD i 0).toNat
        = (shares.getD i 0).toNat + if i = largestIndex remainders then 1 else 0) ∧
      ∀ i, (remainders.set (largestIndex remainders) 0).getD i 0 = if i =
        largestIndex remainders then 0 else remainders.getD i 0 := by
  have hlt := largestIndex_lt hne
  have hlt' : largestIndex remainders < shares.length := hlen ▸ hlt
  refine ⟨by rw [List.length_set, List.length_modify, hlen], ?_, toNat_getD_modify hlt' (by omega), getD_set hlt 0⟩
  rw [exactSum_modify hlt' (by omega)]
  omega

/-- **With no more to give than unspent remainders** a share grows by at most one, and only for a remainder. -/
theorem giveOut_few : ∀ {n : Nat} {remainders shares : List UInt64}, remainders.length = shares.length →
    n ≤ unspent remainders → exactSum shares + n < 2 ^ 64 → ∀ i,
      ((giveOut n remainders shares).getD i 0).toNat = (shares.getD i 0).toNat ∨
        remainders.getD i 0 ≠ 0 ∧ ((giveOut n remainders shares).getD i 0).toNat = (shares.getD i 0).toNat + 1
  | 0, _, _, _, _, _, _ => .inl rfl
  | n + 1, remainders, shares, hlen, hfew, hfits, i => by
    obtain ⟨hlt, hlargest, hspent⟩ := unspent_set (by omega : 0 < unspent remainders)
    have hne : remainders ≠ [] := List.ne_nil_of_length_pos (by omega)
    obtain ⟨hlen', hfits', hshares, hremainders⟩ := giveOut_round hlen hne hfits
    have ih := giveOut_few hlen' (by omega) hfits' i
    rw [hshares, hremainders] at ih
    rw [giveOut]
    by_cases hi : i = largestIndex remainders
    · rw [if_pos hi, if_pos hi] at ih
      rcases ih with heq | ⟨hzero, -⟩
      · exact .inr ⟨hi ▸ hlargest, heq⟩
      · exact absurd rfl hzero
    · rw [if_neg hi, if_neg hi] at ih
      exact ih

/-- **With more to give** every unspent remainder gets one, and the first share gets all the rest. -/
theorem giveOut_many : ∀ {n : Nat} {remainders shares : List UInt64}, remainders.length = shares.length →
    remainders ≠ [] →
    unspent remainders ≤ n → exactSum shares + n < 2 ^ 64 → ∀ i,
      ((giveOut n remainders shares).getD i 0).toNat =
      (shares.getD i 0).toNat + (if remainders.getD i 0 = 0 then 0 else 1)
        + if i = 0 then n - unspent remainders else 0
  | 0, remainders, shares, _, _, hmany, _, i => by
    have hzero := unspent_eq_zero.1 (Nat.le_zero.1 hmany) i
    rw [giveOut, if_pos hzero, Nat.zero_sub, ite_self]
    rfl
  | n + 1, remainders, shares, hlen, hne, hmany, hfits, i => by
    obtain ⟨hlen', hfits', hshares, hremainders⟩ := giveOut_round hlen hne hfits
    have hne' : remainders.set (largestIndex remainders) 0 ≠ [] := by
      rw [ne_eq, List.set_eq_nil_iff]
      exact hne
    rw [giveOut]
    by_cases hspent : unspent remainders = 0
    · -- all remainders are spent: the first one counts as the largest
      have hall := unspent_eq_zero.1 hspent
      have hfirst := largestIndex_of_spent hall
      have hspent' : unspent (remainders.set (largestIndex remainders) 0) = 0 := by
        refine unspent_eq_zero.2 fun k => ?_
        rw [hremainders, hall k, ite_self]
      rw [giveOut_many hlen' hne' (by omega) hfits' i, hshares, hremainders, hspent', hspent, hall i, hfirst, ite_self]
      split <;> omega
    · obtain ⟨-, hlargest, hless⟩ := unspent_set (Nat.pos_of_ne_zero hspent)
      rw [giveOut_many hlen' hne' (by omega) hfits' i, hshares, hremainders]
      by_cases hi : i = largestIndex remainders
      · have hi' : remainders.getD i 0 ≠ 0 := hi ▸ hlargest
        simp only [if_pos hi, if_true, if_neg hi']
        split <;> omega
      · rw [if_neg hi, if_neg hi]
        split <;> split <;> omega

/-! ## Exact quotients -/

/-- Less than one away from a quotient is the floor, or the next number when there is a remainder. -/
theorem near_iff {s x d : ℕ} (hd : 0 < d) : |(s : ℚ) - (x : ℚ) / d| < 1 ↔ s = x / d ∨ s = x / d + 1 ∧ x % d ≠ 0 := by
  have hq : (0 : ℚ) < d := by exact_mod_cast hd
  have hdiv := Nat.div_add_mod x d
  have hmod := Nat.mod_lt x hd
  have hbounds : |(s : ℚ) - (x : ℚ) / d| < 1 ↔ s * d < x + d ∧ x < s * d + d := by
    rw [abs_sub_lt_iff, sub_lt_iff_lt_add, sub_lt_iff_lt_add, ← mul_lt_mul_iff_of_pos_right hq, div_lt_iff₀ hq, add_mul,
      add_mul, div_mul_cancel₀ _ hq.ne', one_mul]
    constructor
    · rintro ⟨hlow, hhigh⟩
      norm_cast at hlow hhigh
      omega
    · rintro ⟨hlow, hhigh⟩
      norm_cast
      omega
  rw [hbounds]
  generalize hx : x / d = q at *
  constructor
  · rintro ⟨hlow, hhigh⟩
    have hge : q ≤ s := by
      by_contra hlt
      have hstep : (s + 1) * d ≤ q * d := Nat.mul_le_mul_right d (by omega)
      rw [Nat.add_mul, Nat.one_mul, Nat.mul_comm q] at hstep
      omega
    have hle : s ≤ q + 1 := by
      by_contra hgt
      have hstep : (q + 2) * d ≤ s * d := Nat.mul_le_mul_right d (by omega)
      rw [Nat.add_mul, Nat.mul_comm q] at hstep
      omega
    by_cases heq : s = q
    · exact .inl heq
    · have hs : s = q + 1 := by omega
      refine .inr ⟨hs, fun hzero => ?_⟩
      rw [hs, Nat.add_mul, Nat.one_mul, Nat.mul_comm q] at hlow
      omega
  · rintro (rfl | ⟨rfl, hne⟩)
    · rw [Nat.mul_comm s]
      omega
    · rw [Nat.add_mul, Nat.one_mul, Nat.mul_comm q]
      omega

/-- The quotients and the remainders of a list give its sum. -/
theorem sum_div_mod (d : Nat) : ∀ l : List Nat, d * (l.map (· / d)).sum + (l.map (· % d)).sum = l.sum
  | [] => rfl
  | x :: l => by
    have hx := Nat.div_add_mod x d
    have ih := sum_div_mod d l
    rw [List.map_cons, List.map_cons, List.sum_cons, List.sum_cons, List.sum_cons, Nat.mul_add]
    omega

/-! ## What the floors leave over -/

/-- The floor of a product that fits into 64 bits, or of the largest value in place of one that does not. -/
def cutFloor (total sum w : Nat) : Nat := if total * w < 2 ^ 64 then total * w / sum else (2 ^ 64 - 1) / sum

/-- The product fits and leaves a remainder. -/
def Kept (total sum w : Nat) : Prop := total * w < 2 ^ 64 ∧ total * w % sum ≠ 0

instance (total sum w : Nat) : Decidable (Kept total sum w) := inferInstanceAs (Decidable (_ ∧ _))

/-- The product fits, or is cut to the same floor. -/
def FloorExact (total sum w : Nat) : Prop := total * w < 2 ^ 64 ∨ total * w / sum = (2 ^ 64 - 1) / sum

instance (total sum w : Nat) : Decidable (FloorExact total sum w) := inferInstanceAs (Decidable (_ ∨ _))

/-- The units that the exact floors leave over: the remainders of all weights together. -/
def leftOver (total : Nat) (weights : List UInt64) : Nat :=
  (weights.map fun w => total * w.toNat % exactSum weights).sum / exactSum weights

/-- The number of remainders that are kept. -/
def remaindersKept (total : Nat) (weights : List UInt64) : Nat :=
  weights.countP fun w => decide (Kept total (exactSum weights) w.toNat)

theorem cutFloor_le (total sum w : Nat) : cutFloor total sum w ≤ total * w / sum := by
  unfold cutFloor
  split
  · exact Nat.le_refl _
  · exact Nat.div_le_div_right (by omega)

theorem cutFloor_eq_iff {total sum w : Nat} : cutFloor total sum w = total * w / sum ↔ FloorExact total sum w := by
  unfold cutFloor FloorExact
  split
  · rename_i hfits
    exact ⟨fun _ => .inl hfits, fun _ => rfl⟩
  · rename_i hbig
    exact ⟨fun h => .inr h.symm, fun h => h.elim (fun hfits => absurd hfits hbig) Eq.symm⟩

/-- The exact floors and what they leave over are the total. -/
theorem leftOver_add {total : Nat} {weights : List UInt64} (h : 0 < exactSum weights) :
    (weights.map fun w => total * w.toNat / exactSum weights).sum + leftOver total weights = total := by
  have hsplit := sum_div_mod (exactSum weights) (weights.map fun w => total * w.toNat)
  have hproducts : (weights.map fun w => total * w.toNat).sum = exactSum weights * total := by
    rw [List.sum_map_mul_left, Nat.mul_comm]
    rfl
  rw [hproducts, List.map_map, List.map_map] at hsplit
  have hleft : (weights.map fun w => total * w.toNat % exactSum weights).sum
      = exactSum weights * (total - (weights.map fun w => total * w.toNat / exactSum weights).sum) := by
    rw [Nat.mul_sub]
    exact Nat.eq_sub_of_add_eq' hsplit
  have hle : (weights.map fun w => total * w.toNat / exactSum weights).sum ≤ total :=
    Nat.le_of_mul_le_mul_left (by rw [← hsplit]; exact Nat.le_add_right _ _) h
  rw [leftOver, hleft, Nat.mul_div_cancel_left _ h]
  omega

/-! ## The shares of positive weights -/

/-- The share of hop `i`. -/
def shareOf (total : UInt64) (weights : List UInt64) (i : Nat) : UInt64 := (distribute total weights).getD i 0

/-- The remainders beside the floors. -/
def spares (total sum : UInt64) (weights : List UInt64) : List UInt64 := (weights.map (scaledShare total sum)).map (·.2)

theorem length_spares (total sum : UInt64) (weights : List UInt64) :
    (spares total sum weights).length = weights.length := by
  unfold spares
  rw [List.length_map, List.length_map]

/-- A weight's floor is cut where its product is, and then its remainder counts as none. -/
theorem scaledShare_spec (total sum w : UInt64) :
    (scaledShare total sum w).1.toNat = cutFloor total.toNat sum.toNat w.toNat ∧
      ((scaledShare total sum w).2 ≠ 0 ↔ Kept total.toNat sum.toNat w.toNat) := by
  unfold cutFloor Kept
  by_cases h : total.toNat * w.toNat < 2 ^ 64
  · have hover : ¬(checkedMul total w).overflow = true := fun hover => Nat.not_le.2 h (checkedMul_overflow.1 hover)
    have hshare : scaledShare total sum w = ((checkedMul total w).value / sum, (checkedMul total w).value % sum) := by
      unfold scaledShare
      simp only [hover, Bool.false_eq_true, if_false]
    rw [hshare, if_pos h, ne_eq, ← UInt64.toNat_inj, UInt64.toNat_div, UInt64.toNat_mod, checkedMul_value h]
    exact ⟨rfl, fun hne => ⟨h, hne⟩, fun hne => hne.2⟩
  · have hshare : scaledShare total sum w = (0xFFFFFFFFFFFFFFFF / sum, 0) := by
      unfold scaledShare
      simp only [checkedMul_overflow.2 (Nat.le_of_not_lt h), if_true]
    rw [hshare, if_neg h, UInt64.toNat_div]
    exact ⟨rfl, fun hne => absurd rfl hne, fun hkept => absurd hkept.1 h⟩

theorem exactSum_floors (total sum : UInt64) : ∀ weights : List UInt64,
    exactSum (floors total sum weights) = (weights.map fun w => cutFloor total.toNat sum.toNat w.toNat).sum
  | [] => rfl
  | w :: weights => by
    show (scaledShare total sum w).1.toNat + exactSum (floors total sum weights) = _
    rw [List.map_cons, List.sum_cons, (scaledShare_spec total sum w).1, exactSum_floors total sum weights]

theorem getD_floors {total sum : UInt64} {weights : List UInt64} {i : Nat} (h : i < weights.length) :
    ((floors total sum weights).getD i 0).toNat = cutFloor total.toNat sum.toNat weights[i].toNat := by
  rw [List.getD_eq_getElem _ _ (by rwa [length_floors]), ← (scaledShare_spec total sum weights[i]).1]
  simp only [floors, List.getElem_map]

theorem getD_spares {total sum : UInt64} {weights : List UInt64} {i : Nat} (h : i < weights.length) :
    (spares total sum weights).getD i 0 ≠ 0 ↔ Kept total.toNat sum.toNat weights[i].toNat := by
  rw [List.getD_eq_getElem _ _ (by rwa [length_spares]), ← (scaledShare_spec total sum weights[i]).2]
  simp only [spares, List.getElem_map]

/-- The remainders that can be given to are those that are kept. -/
theorem unspent_spares {total sum : UInt64} {weights : List UInt64} (hsum : sum.toNat = exactSum weights) :
    unspent (spares total sum weights) = remaindersKept total.toNat weights := by
  unfold unspent spares remaindersKept
  rw [List.countP_map, List.countP_map]
  refine List.countP_congr fun w _ => ?_
  rw [← hsum, decide_eq_true_iff, ← (scaledShare_spec total sum w).2]
  exact bne_iff_ne

/-- Under a sum that fits the floors do not exceed the total, and what they left over is given out. -/
theorem distribute_eq_giveOut {total : UInt64} {weights : List UInt64} (hpos : 0 < exactSum weights)
    (hfits : exactSum weights < 2 ^ 64) : ∃ (sum : UInt64) (n : Nat), sum.toNat = exactSum weights ∧
      distribute total weights = giveOut n (spares total sum weights) (floors total sum weights) ∧
      exactSum (floors total sum weights) + n = total.toNat := by
  have hzero : (0 : UInt64).toNat = 0 := rfl
  have hsum : (weightSum 0 weights).toNat = exactSum weights := by
    rw [weightSum_eq, hzero, Nat.zero_add, if_pos hfits]
  have hne : weights.isEmpty = false := by
    rw [List.isEmpty_eq_false_iff]
    rintro rfl
    exact absurd hpos (Nat.lt_irrefl 0)
  have hnonzero : weightSum 0 weights ≠ 0 := by
    intro h
    rw [h, hzero] at hsum
    omega
  have hle := exactSum_scaled_le total (weightSum 0 weights) weights
  rw [hsum, Nat.mul_div_cancel _ hpos] at hle
  have htotal := total.toNat_lt
  obtain ⟨-, hassigned⟩ := foldlM_addExact (l := floors total (weightSum 0 weights) weights) (a := 0) (by omega)
  rw [hzero, Nat.zero_add] at hassigned
  have hunder : ¬total < (floors total (weightSum 0 weights) weights).foldl (· + ·) 0 := by
    rw [UInt64.lt_iff_toNat_lt]
    omega
  refine ⟨weightSum 0 weights, (total - (floors total (weightSum 0 weights) weights).foldl (· + ·) 0).toNat, hsum, ?_,
    ?_⟩
  · unfold distribute
    unfold floors at hunder ⊢
    simp only [hne, Bool.false_eq_true, if_false, if_neg hnonzero, if_neg hunder]
    rfl
  · rw [UInt64.toNat_sub_of_le _ _ (UInt64.not_lt.1 hunder), hassigned]
    omega

/-- **The share of a hop**: what the floors left over adds one to its floor, and only for a remainder that is kept, or
there is more left over than such remainders, and the rest goes to the first hop. -/
theorem shareOf_spec {total : UInt64} {weights : List UInt64} (hpos : 0 < exactSum weights)
    (hfits : exactSum weights < 2 ^ 64) :
    ∃ n, (weights.map fun w => cutFloor total.toNat (exactSum weights) w.toNat).sum + n = total.toNat ∧
      ∀ i, (h : i < weights.length) →
        n ≤ remaindersKept total.toNat weights ∧
          ((shareOf total weights i).toNat = cutFloor total.toNat (exactSum weights) weights[i].toNat ∨
            Kept total.toNat (exactSum weights) weights[i].toNat ∧
              (shareOf total weights i).toNat = cutFloor total.toNat (exactSum weights) weights[i].toNat + 1) ∨
        remaindersKept total.toNat weights < n ∧
          (shareOf total weights i).toNat = cutFloor total.toNat (exactSum weights) weights[i].toNat
            + (if Kept total.toNat (exactSum weights) weights[i].toNat then 1 else 0)
            + if i = 0 then n - remaindersKept total.toNat weights else 0 := by
  obtain ⟨sum, n, hsum, hgiven, hleft⟩ := @distribute_eq_giveOut total weights hpos hfits
  have hlength : (spares total sum weights).length = (floors total sum weights).length := by
    rw [length_spares, length_floors]
  have htotal := total.toNat_lt
  refine ⟨n, ?_, fun i hi => ?_⟩
  · rw [← hsum, ← exactSum_floors]
    exact hleft
  · rw [shareOf, hgiven, ← unspent_spares hsum, ← hsum, ← getD_floors hi]
    by_cases hfew : n ≤ unspent (spares total sum weights)
    · refine .inl ⟨hfew, ?_⟩
      rw [← getD_spares hi]
      exact giveOut_few hlength hfew (by omega) i
    · have hmany := Nat.lt_of_not_le hfew
      have hne : spares total sum weights ≠ [] := List.ne_nil_of_length_pos (by rw [length_spares]; omega)
      refine .inr ⟨hmany, ?_⟩
      rw [giveOut_many hlength hne hmany.le (by omega) i]
      simp only [← getD_spares hi, ne_eq, ite_not]

/-! ## Exactly when attribution is proportional -/

/-- The weights have a sum that fits, and the floors of all but the first are exact. What exact floors leave over is
no more than the remainders that are kept, or the first weight makes up for it. -/
def Divisible (total : Nat) : List UInt64 → Prop
  | [] => True
  | w :: weights =>
    exactSum (w :: weights) < 2 ^ 64 ∧ (∀ v ∈ weights, FloorExact total (exactSum (w :: weights)) v.toNat) ∧
      (FloorExact total (exactSum (w :: weights)) w.toNat ∧
        leftOver total (w :: weights) ≤ remaindersKept total (w :: weights) ∨
        2 ^ 64 ≤ total * w.toNat ∧ (leftOver total (w :: weights) = remaindersKept total (w :: weights) ∨
          leftOver total (w :: weights) = remaindersKept total (w :: weights) + 1 ∧
          total * w.toNat % exactSum (w :: weights) ≠ 0))

/-- The share of hop `i` is less than one away from the exact quotient. -/
def NearQuotient (total : UInt64) (weights : List UInt64) (i : Nat) : Prop :=
  |((shareOf total weights i).toNat : ℚ) - (total.toNat * (weights.getD i 0).toNat : ℕ) / (exactSum weights : ℕ)| < 1

/-- A target of hop `i` has its shares of the totals, and the exact quotient before rounding. -/
structure Reported (g : GenerationView) (weights : List UInt64) (i : Nat) (t : AttributedTarget) : Prop where
  bytes : t.consumption.bytes = shareOf g.total.bytes weights i
  packets : t.consumption.packets = shareOf g.total.packets weights i
  retransmissions : t.consumption.retransmissions = shareOf g.total.retransmissions weights i
  numerator : t.shareNumerator = weights.getD i 0
  denominator : t.shareDenominator.toNat = exactSum weights
  positive : 0 < t.shareDenominator

theorem nearQuotient_iff {total : UInt64} {weights : List UInt64} {i : Nat} (hpos : 0 < exactSum weights)
    (h : i < weights.length) :
    NearQuotient total weights i ↔ (shareOf total weights i).toNat = total.toNat * weights[i].toNat / exactSum weights ∨
      (shareOf total weights i).toNat = total.toNat * weights[i].toNat / exactSum weights + 1 ∧
        total.toNat * weights[i].toNat % exactSum weights ≠ 0 := by
  rw [NearQuotient, near_iff hpos, List.getD_eq_getElem _ _ h]

/-- A share that is the floor, or one more for a remainder that is kept, is near when the floor is exact. -/
theorem near_rounded {total sum w share : Nat}
    (h : share = cutFloor total sum w ∨ Kept total sum w ∧ share = cutFloor total sum w + 1) :
    share = total * w / sum ∨ share = total * w / sum + 1 ∧ total * w % sum ≠ 0 ↔ FloorExact total sum w := by
  have hle := cutFloor_le total sum w
  rw [← cutFloor_eq_iff]
  constructor
  · intro hnear
    rcases h with rfl | ⟨⟨hfits, -⟩, -⟩
    · rcases hnear with heq | ⟨heq, -⟩ <;> omega
    · exact cutFloor_eq_iff.2 (.inl hfits)
  · intro heq
    rcases h with rfl | ⟨⟨-, hrem⟩, rfl⟩
    · exact .inl heq
    · exact .inr ⟨by rw [heq], hrem⟩

/-- The first share also takes what the kept remainders did not. -/
theorem near_first {total sum w share n kept left : Nat} (hleft : cutFloor total sum w + n = total * w / sum + left)
    (h : n ≤ kept ∧ (share = cutFloor total sum w ∨ Kept total sum w ∧ share = cutFloor total sum w + 1) ∨
      kept < n ∧ share = cutFloor total sum w + (if Kept total sum w then 1 else 0) + (n - kept)) :
    share = total * w / sum ∨ share = total * w / sum + 1 ∧ total * w % sum ≠ 0 ↔
      FloorExact total sum w ∧ left ≤ kept ∨
        2 ^ 64 ≤ total * w ∧ (left = kept ∨ left = kept + 1 ∧ total * w % sum ≠ 0) := by
  have hle := cutFloor_le total sum w
  by_cases hfits : total * w < 2 ^ 64
  · have hexact : FloorExact total sum w := .inl hfits
    have hfloor := cutFloor_eq_iff.2 hexact
    have hsame : FloorExact total sum w ∧ left ≤ kept ∨
        2 ^ 64 ≤ total * w ∧ (left = kept ∨ left = kept + 1 ∧ total * w % sum ≠ 0) ↔ left ≤ kept :=
      ⟨fun h => h.elim And.right fun hbig => absurd hfits (Nat.not_lt.2 hbig.1), fun h => .inl ⟨hexact, h⟩⟩
    rw [hsame]
    rcases h with ⟨hfew, hshare⟩ | ⟨hmany, hshare⟩
    · exact ⟨fun _ => by omega, fun _ => (near_rounded hshare).2 hexact⟩
    · refine ⟨fun hnear => ?_, fun hfew => by omega⟩
      by_cases hkept : Kept total sum w
      · rw [if_pos hkept] at hshare
        rcases hnear with heq | ⟨heq, -⟩ <;> omega
      · rw [if_neg hkept] at hshare
        rcases hnear with heq | ⟨-, hrem⟩
        · omega
        · exact absurd ⟨hfits, hrem⟩ hkept
  · have hkept : ¬Kept total sum w := fun hkept => hfits hkept.1
    have hbig := Nat.le_of_not_lt hfits
    rcases h with ⟨hfew, hshare⟩ | ⟨hmany, hshare⟩
    · rw [near_rounded hshare, ← cutFloor_eq_iff]
      constructor
      · exact fun heq => .inl ⟨heq, by omega⟩
      · rintro (⟨heq, -⟩ | ⟨-, heq | ⟨heq, -⟩⟩)
        · exact heq
        · omega
        · omega
    · rw [if_neg hkept] at hshare
      rw [← cutFloor_eq_iff]
      constructor
      · rintro (heq | ⟨heq, hrem⟩)
        · exact .inr ⟨hbig, .inl (by omega)⟩
        · exact .inr ⟨hbig, .inr ⟨by omega, hrem⟩⟩
      · rintro (⟨heq, hless⟩ | ⟨-, heq | ⟨heq, hrem⟩⟩)
        · exact absurd hless (by omega)
        · exact .inl (by omega)
        · exact .inr ⟨by omega, hrem⟩

/-- Where the sum of the weights fits, every share is near for the weights that divide. -/
theorem near_all_iff {total w : UInt64} {weights : List UInt64} (hpos : 0 < exactSum (w :: weights))
    (hfits : exactSum (w :: weights) < 2 ^ 64) :
    (∀ i < (w :: weights).length, NearQuotient total (w :: weights) i) ↔ Divisible total.toNat (w :: weights) := by
  obtain ⟨n, hleft, hshare⟩ := @shareOf_spec total (w :: weights) hpos hfits
  have hexact := @leftOver_add total.toNat (w :: weights) hpos
  have hlater : ∀ i, (h : i + 1 < (w :: weights).length) → (NearQuotient total (w :: weights) (i + 1) ↔
      FloorExact total.toNat (exactSum (w :: weights)) (w :: weights)[i + 1].toNat) := by
    intro i hi
    rw [nearQuotient_iff hpos hi]
    refine near_rounded ?_
    rcases hshare (i + 1) hi with ⟨-, hcase⟩ | ⟨-, hcase⟩
    · exact hcase
    · simp only [Nat.succ_ne_zero, if_false, Nat.add_zero] at hcase
      split at hcase
      · rename_i hkept
        exact .inr ⟨hkept, hcase⟩
      · exact .inl hcase
  have hfirst : (∀ v ∈ weights, FloorExact total.toNat (exactSum (w :: weights)) v.toNat) →
      (NearQuotient total (w :: weights) 0 ↔
        FloorExact total.toNat (exactSum (w :: weights)) w.toNat ∧
            leftOver total.toNat (w :: weights) ≤ remaindersKept total.toNat (w :: weights) ∨
          2 ^ 64 ≤ total.toNat * w.toNat ∧
            (leftOver total.toNat (w :: weights) = remaindersKept total.toNat (w :: weights) ∨
              leftOver total.toNat (w :: weights) = remaindersKept total.toNat (w :: weights) + 1 ∧
                total.toNat * w.toNat % exactSum (w :: weights) ≠ 0)) := by
    intro hrest
    have hsums : weights.map (fun v => cutFloor total.toNat (exactSum (w :: weights)) v.toNat)
        = weights.map fun v => total.toNat * v.toNat / exactSum (w :: weights) :=
      List.map_congr_left fun v hv => cutFloor_eq_iff.2 (hrest v hv)
    rw [List.map_cons, List.sum_cons, hsums] at hleft
    rw [List.map_cons, List.sum_cons] at hexact
    have hmissing : cutFloor total.toNat (exactSum (w :: weights)) w.toNat + n
        = total.toNat * w.toNat / exactSum (w :: weights) + leftOver total.toNat (w :: weights) := by omega
    rw [nearQuotient_iff hpos (Nat.succ_pos _)]
    exact near_first hmissing (hshare 0 (Nat.succ_pos _))
  constructor
  · intro h
    have hrest : ∀ v ∈ weights, FloorExact total.toNat (exactSum (w :: weights)) v.toNat := by
      intro v hv
      obtain ⟨i, hi, rfl⟩ := List.mem_iff_getElem.1 hv
      exact (hlater i (Nat.succ_lt_succ hi)).1 (h (i + 1) (Nat.succ_lt_succ hi))
    exact ⟨hfits, hrest, (hfirst hrest).1 (h 0 (Nat.succ_pos _))⟩
  · rintro ⟨-, hrest, hzero⟩ i hi
    cases i with
    | zero => exact (hfirst hrest).2 hzero
    | succ i => exact (hlater i hi).2 (hrest _ (List.getElem_mem (Nat.lt_of_succ_lt_succ hi)))

/-- The sum of the weights as it is reported. -/
theorem toNat_foldl_add : ∀ (weights : List UInt64) (a : UInt64),
    (weights.foldl (· + ·) a).toNat = (a.toNat + exactSum weights) % 2 ^ 64
  | [], a => (Nat.mod_eq_of_lt a.toNat_lt).symm
  | w :: weights, a => by
    rw [List.foldl_cons, toNat_foldl_add weights, UInt64.toNat_add, exactSum_cons, Nat.mod_add_mod, Nat.add_assoc]

/-- Every target of a hop reports the exact quotient when the sum of the weights fits, and none does when it wraps. -/
theorem reported_iff {method : AttributionMethod} {g : GenerationView} {weights : List UInt64}
    (hpos : 0 < exactSum weights) (i : Nat) :
    (∀ t ∈ hopTargets method g weights i, Reported g weights i t) ↔ exactSum weights < 2 ^ 64 := by
  have hdenominator := toNat_foldl_add weights 0
  rw [UInt64.toNat_zero, Nat.zero_add] at hdenominator
  constructor
  · intro h
    have hlink : ∃ t ∈ hopTargets method g weights i, t.shareDenominator = weights.foldl (· + ·) 0 := by
      unfold hopTargets
      dsimp only
      split
      · exact ⟨_, List.mem_cons_self, rfl⟩
      · exact ⟨_, List.mem_cons_self, rfl⟩
    obtain ⟨t, ht, hsum⟩ := hlink
    have hreported := (h t ht).denominator
    rw [hsum, hdenominator] at hreported
    exact Nat.mod_eq_iff_lt (by decide) |>.1 hreported
  · intro hfits t ht
    rw [Nat.mod_eq_of_lt hfits] at hdenominator
    have hpositive : 0 < weights.foldl (· + ·) 0 := by
      rw [UInt64.lt_iff_toNat_lt, hdenominator]
      exact hpos
    unfold hopTargets at ht
    dsimp only at ht
    split at ht
    · rcases List.mem_cons.1 ht with rfl | ht
      · exact ⟨rfl, rfl, rfl, rfl, hdenominator, hpositive⟩
      · obtain rfl := List.mem_singleton.1 ht
        exact ⟨rfl, rfl, rfl, rfl, hdenominator, hpositive⟩
    · obtain rfl := List.mem_singleton.1 ht
      exact ⟨rfl, rfl, rfl, rfl, hdenominator, hpositive⟩

/-- **Exactly when attribution is proportional.** Every share is less than one away from the exact quotient, and every
target of every hop reports it. -/
theorem proportional_iff {total : UInt64} {weights : List UInt64} (hpos : ∀ w ∈ weights, 1 ≤ w) :
    (∀ i < weights.length, NearQuotient total weights i ∧
      ∀ method g, ∀ t ∈ hopTargets method g weights i, Reported g weights i t) ↔ Divisible total.toNat weights := by
  cases weights with
  | nil => exact ⟨fun _ => trivial, fun _ i hi => absurd hi (Nat.not_lt_zero i)⟩
  | cons w weights =>
    have hw := UInt64.le_iff_toNat_le.1 (hpos w List.mem_cons_self)
    have hsum : 0 < exactSum (w :: weights) := by
      rw [exactSum_cons]
      exact Nat.add_pos_left hw _
    constructor
    · intro h
      have hfits := (reported_iff hsum 0).1 ((h 0 (Nat.succ_pos _)).2 .EndpointOnly default)
      exact (near_all_iff hsum hfits).1 fun i hi => (h i hi).1
    · intro h i hi
      exact ⟨(near_all_iff hsum h.1).2 h i hi, fun method g => (reported_iff hsum i).2 h.1⟩

/-- Ten over three hops of one weight: one is left over, and three remainders are kept. -/
theorem proportional_thirds : Divisible 10 [1, 1, 1] ∧ ∀ i < 3, NearQuotient 10 [1, 1, 1] i ∧
    ∀ method g, ∀ t ∈ hopTargets method g [1, 1, 1] i, Reported g [1, 1, 1] i t := by
  have hfloors : ∀ v ∈ [(1 : UInt64), 1], FloorExact 10 3 v.toNat := by
    intro v hv
    obtain rfl : v = 1 := by simpa using hv
    exact .inl (by decide)
  have hdivisible : Divisible 10 [1, 1, 1] := ⟨by decide, hfloors, .inl ⟨.inl (by decide), by decide⟩⟩
  exact ⟨hdivisible, (@proportional_iff 10 [1, 1, 1] (by simp)).2 hdivisible⟩

/-- **Half the range over two hops of weight two**: each is due `2 ^ 62`, and the second gets one less. -/
theorem proportional_fails : ¬ ∀ (total : UInt64) (weights : List UInt64), (∀ w ∈ weights, 1 ≤ w) →
    ∀ i < weights.length, NearQuotient total weights i := by
  intro h
  have hnear := h 0x8000000000000000 [2, 2] (by simp) 1 (by decide)
  have hshare : (shareOf 0x8000000000000000 [2, 2] 1).toNat = 2 ^ 62 - 1 := by decide
  rw [nearQuotient_iff (by decide) (by decide), hshare] at hnear
  revert hnear
  decide

end FlowObs
