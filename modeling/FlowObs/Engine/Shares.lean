import FlowObs.Engine.Attribution
import FlowObs.Conflict
import FlowObs.Freshness

/-!
# Shares that add up

`distribute` cuts a total into one share for each weight. The floors never exceed the total while the sum of the
weights is exact (`exactSum_scaled_le`); once that sum has saturated each floor is at most one (`scaledShare_le_one`).
What the floors left over is given out one by one (`giveOut_spec`), and what they overshot is taken back
(`exactSum_trimShares`).

`distributeExact` is `distribute` with every plain addition replaced by one that fails when it would wrap (`addExact`):
`distribute_conserves` proves that it never fails.
-/

namespace FlowObs

/-! ## Exact sums -/

/-- The sum of 64-bit values over exact integers. -/
def exactSum (l : List UInt64) : Nat := (l.map UInt64.toNat).sum

@[simp] theorem exactSum_nil : exactSum [] = 0 := rfl
@[simp] theorem exactSum_cons (a : UInt64) (l : List UInt64) : exactSum (a :: l) = a.toNat + exactSum l := rfl

@[simp] theorem exactSum_reverse (l : List UInt64) : exactSum l.reverse = exactSum l := by
  unfold exactSum
  rw [List.map_reverse, List.sum_reverse]

/-- An addition that must not wrap. -/
def addExact (a b : UInt64) : Option UInt64 := if a.toNat + b.toNat < 2 ^ 64 then some (a + b) else none

theorem addExact_eq {a b : UInt64} (h : a.toNat + b.toNat < 2 ^ 64) :
    addExact a b = some (a + b) ∧ (a + b).toNat = a.toNat + b.toNat := by
  refine ⟨if_pos h, ?_⟩
  rw [UInt64.toNat_add, Nat.mod_eq_of_lt h]

/-- A running sum that fits is exact at every step. -/
theorem foldlM_addExact : ∀ {l : List UInt64} {a : UInt64}, a.toNat + exactSum l < 2 ^ 64 →
    l.foldlM addExact a = some (l.foldl (· + ·) a) ∧ (l.foldl (· + ·) a).toNat = a.toNat + exactSum l
  | [], _, _ => ⟨rfl, rfl⟩
  | b :: l, a, h => by
    rw [exactSum_cons] at h
    obtain ⟨hadd, hval⟩ := addExact_eq (a := a) (b := b) (by omega)
    obtain ⟨hrest, hsum⟩ := foldlM_addExact (l := l) (a := a + b) (by omega)
    refine ⟨?_, ?_⟩
    · rw [List.foldlM_cons, hadd]
      exact hrest
    · rw [List.foldl_cons, hsum, exactSum_cons]
      omega

/-! ## The weights -/

/-- The sum of the weights, or the largest value when it does not fit. -/
theorem weightSum_eq : ∀ (weights : List UInt64) (sum : UInt64), (weightSum sum weights).toNat
    = if sum.toNat + exactSum weights < 2 ^ 64 then sum.toNat + exactSum weights else 2 ^ 64 - 1
  | [], sum => by
    have hlt := sum.toNat_lt
    rw [weightSum, exactSum_nil, if_pos (by omega)]
    rfl
  | w :: weights, sum => by
    rw [weightSum, exactSum_cons]
    rcases checkedAdd_cases sum w with ⟨hover, hbig⟩ | ⟨hfits, hval⟩
    · rw [if_pos hover, if_neg (by omega)]
      rfl
    · rw [if_neg (by rw [hfits]; exact Bool.false_ne_true), weightSum_eq weights, hval, add_assoc]

/-! ## The floors -/

theorem scaledShare_cases (total sum weight : UInt64) :
    (2 ^ 64 ≤ total.toNat * weight.toNat ∧ (scaledShare total sum weight).1.toNat = (2 ^ 64 - 1) / sum.toNat) ∨
      (total.toNat * weight.toNat < 2 ^ 64 ∧
        (scaledShare total sum weight).1.toNat = total.toNat * weight.toNat / sum.toNat) := by
  have hmax : (0xFFFFFFFFFFFFFFFF : UInt64).toNat = 2 ^ 64 - 1 := rfl
  unfold scaledShare
  by_cases h : (checkedMul total weight).overflow = true
  · refine .inl ⟨checkedMul_overflow.1 h, ?_⟩
    simp only [h, if_true, UInt64.toNat_div, hmax]
  · have hfits : total.toNat * weight.toNat < 2 ^ 64 := Nat.lt_of_not_le fun hle => h (checkedMul_overflow.2 hle)
    refine .inr ⟨hfits, ?_⟩
    simp only [h, Bool.false_eq_true, if_false, UInt64.toNat_div, checkedMul_value hfits]

/-- A floor is at most the exact quotient, also where the product does not fit. -/
theorem scaledShare_le (total sum weight : UInt64) :
    (scaledShare total sum weight).1.toNat ≤ total.toNat * weight.toNat / sum.toNat := by
  rcases scaledShare_cases total sum weight with ⟨hbig, heq⟩ | ⟨-, heq⟩
  · rw [heq]
    exact Nat.div_le_div_right (by omega)
  · exact heq.le

/-- A floor under a saturated sum of weights is at most one. -/
theorem scaledShare_le_one {total sum weight : UInt64} (hsum : sum.toNat = 2 ^ 64 - 1) :
    (scaledShare total sum weight).1.toNat ≤ 1 := by
  rcases scaledShare_cases total sum weight with ⟨-, heq⟩ | ⟨hfits, heq⟩
  · rw [heq, hsum, Nat.div_self (by decide)]
  · rw [heq, hsum]
    exact Nat.div_le_of_le_mul (by omega)

/-- The floors before the remainder is given out. -/
def floors (total sum : UInt64) (weights : List UInt64) : List UInt64 := (weights.map (scaledShare total sum)).map (·.1)

theorem length_floors (total sum : UInt64) (weights : List UInt64) :
    (floors total sum weights).length = weights.length := by
  unfold floors
  rw [List.length_map, List.length_map]

/-- Under an exact sum of weights the floors stay within the total. -/
theorem exactSum_scaled_le (total sum : UInt64) : ∀ weights : List UInt64,
    exactSum (floors total sum weights) ≤ total.toNat * exactSum weights / sum.toNat
  | [] => Nat.zero_le _
  | w :: weights => by
    have hfloor := scaledShare_le total sum w
    have hrest := exactSum_scaled_le total sum weights
    have hsplit : total.toNat * w.toNat / sum.toNat + total.toNat * exactSum weights / sum.toNat
        ≤ (total.toNat * w.toNat + total.toNat * exactSum weights) / sum.toNat := Nat.div_add_div_le_add_div
    rw [← Nat.mul_add] at hsplit
    show (scaledShare total sum w).1.toNat + exactSum (floors total sum weights) ≤ _
    rw [exactSum_cons]
    omega

/-- Under a saturated sum of weights the floors stay within the number of weights. -/
theorem exactSum_scaled_le_length {total sum : UInt64} (hsum : sum.toNat = 2 ^ 64 - 1) : ∀ weights : List UInt64,
    exactSum (floors total sum weights) ≤ weights.length
  | [] => Nat.zero_le _
  | w :: weights => by
    have hfloor := @scaledShare_le_one total sum w hsum
    have hrest := @exactSum_scaled_le_length total sum hsum weights
    show (scaledShare total sum w).1.toNat + exactSum (floors total sum weights) ≤ weights.length + 1
    omega

/-- The floors of a vector of positive weights can be summed in 64 bits. -/
theorem exactSum_floors_lt {total : UInt64} {weights : List UInt64} (hne : weights ≠ [])
    (hlen : weights.length < 2 ^ 64)
    (hpos : ∀ w ∈ weights, 1 ≤ w.toNat) : exactSum (floors total (weightSum 0 weights) weights) < 2 ^ 64 := by
  have hsum := weightSum_eq weights 0
  have hzero : (0 : UInt64).toNat = 0 := rfl
  rw [hzero, Nat.zero_add] at hsum
  have htotal := total.toNat_lt
  by_cases hfits : exactSum weights < 2 ^ 64
  · rw [if_pos hfits] at hsum
    have hle := exactSum_scaled_le total (weightSum 0 weights) weights
    obtain ⟨w, rest, rfl⟩ := List.exists_cons_of_ne_nil hne
    have hw := hpos w List.mem_cons_self
    rw [hsum, Nat.mul_div_cancel _ (by rw [exactSum_cons]; omega)] at hle
    omega
  · rw [if_neg hfits] at hsum
    exact (exactSum_scaled_le_length hsum weights).trans_lt hlen

/-! ## Taking back -/

theorem length_trimShares : ∀ (excess : UInt64) (shares : List UInt64),
    (trimShares excess shares).length = shares.length
  | _, [] => rfl
  | excess, share :: shares => by
    rw [trimShares]
    split
    · rfl
    · rw [List.length_cons, List.length_cons, length_trimShares]

/-- Exactly the excess is taken back. -/
theorem exactSum_trimShares : ∀ {excess : UInt64} {shares : List UInt64}, excess.toNat ≤ exactSum shares →
    exactSum (trimShares excess shares) = exactSum shares - excess.toNat
  | excess, [], h => by
    rw [exactSum_nil] at h
    rw [trimShares, exactSum_nil]
    omega
  | excess, share :: shares, h => by
    rw [exactSum_cons] at h
    rw [trimShares]
    by_cases hzero : excess = 0
    · subst hzero
      rw [if_pos rfl]
      rfl
    · rw [if_neg hzero]
      by_cases hless : share < excess
      · have hle : share ≤ excess := UInt64.le_of_lt hless
        have hsub : (excess - share).toNat = excess.toNat - share.toNat := UInt64.toNat_sub_of_le _ _ hle
        rw [UInt64.le_iff_toNat_le] at hle
        have hrest := @exactSum_trimShares (excess - share) shares (by omega)
        simp only [if_pos hless, exactSum_cons, hrest, hsub, UInt64.sub_self, UInt64.toNat_zero]
        omega
      · have hle : excess ≤ share := UInt64.not_lt.1 hless
        have hsub : (share - excess).toNat = share.toNat - excess.toNat := UInt64.toNat_sub_of_le _ _ hle
        rw [UInt64.le_iff_toNat_le] at hle
        have hrest := @exactSum_trimShares 0 shares (Nat.zero_le _)
        simp only [if_neg hless, exactSum_cons, UInt64.sub_self, hrest, hsub, UInt64.toNat_zero]
        omega

/-! ## Giving out -/

theorem foldl_index_lt {n : Nat} {value : Nat → UInt64} : ∀ {l : List (UInt64 × Nat)} {best : Nat}, best < n →
    (∀ p ∈ l, p.2 < n) → l.foldl (fun best p => if value best < p.1 then p.2 else best) best < n
  | [], _, h, _ => h
  | p :: l, best, h, hl => by
    rw [List.foldl_cons]
    refine foldl_index_lt ?_ fun q hq => hl q (List.mem_cons_of_mem _ hq)
    split
    · exact hl p List.mem_cons_self
    · exact h

/-- The largest remainder is one of them. -/
theorem largestIndex_lt {remainders : List UInt64} (h : remainders ≠ []) :
    largestIndex remainders < remainders.length := by
  refine foldl_index_lt (List.length_pos_iff.2 h) fun p hp => ?_
  have hidx := (List.mem_zipIdx (x := p.1) (i := p.2) hp).2.1
  omega

/-- One more for one share is one more for the sum. -/
theorem exactSum_modify : ∀ {shares : List UInt64} {i : Nat}, i < shares.length → exactSum shares + 1 < 2 ^ 64 →
    exactSum (shares.modify i (· + 1)) = exactSum shares + 1
  | [], _, h, _ => absurd h (Nat.not_lt_zero _)
  | share :: shares, 0, _, hfits => by
    rw [exactSum_cons] at hfits
    have hone : (1 : UInt64).toNat = 1 := rfl
    obtain ⟨-, hadd⟩ := addExact_eq (a := share) (b := 1) (by omega)
    rw [List.modify_zero_cons, exactSum_cons, exactSum_cons, hadd]
    omega
  | share :: shares, i + 1, h, hfits => by
    rw [exactSum_cons] at hfits
    rw [List.length_cons] at h
    have hrest := @exactSum_modify shares i (by omega) (by omega)
    rw [List.modify_succ_cons, exactSum_cons, exactSum_cons, hrest]
    omega

theorem getD_le_exactSum : ∀ {shares : List UInt64} {i : Nat}, (shares.getD i 0).toNat ≤ exactSum shares
  | [], _ => Nat.zero_le _
  | share :: shares, 0 => Nat.le_add_right _ _
  | share :: shares, i + 1 => by
    have h := @getD_le_exactSum shares i
    rw [List.getD_cons_succ, exactSum_cons]
    omega

/-! ## Additions that must not wrap -/

/-- `giveOut` with an addition that must not wrap. -/
def giveOutExact : Nat → List UInt64 → List UInt64 → Option (List UInt64)
  | 0, _, shares => some shares
  | n + 1, remainders, shares => do
    let best := largestIndex remainders
    let share ← addExact (shares.getD best 0) 1
    giveOutExact n (remainders.set best 0) (shares.set best share)

/-- `distribute` with additions that must not wrap. -/
def distributeExact (total : UInt64) (weights : List UInt64) : Option (List UInt64) :=
  if weights.isEmpty then some []
  else
    let sum := weightSum 0 weights
    let count := UInt64.ofNat weights.length
    if sum = 0 then
      if total % count = 0 then some (equalShares (total / count) 0 weights.length)
      else (addExact (total / count) 1).map fun _ => equalShares (total / count) (total % count) weights.length
    else do
      let scaled := weights.map (scaledShare total sum)
      let shares := scaled.map (·.1)
      let assigned ← shares.foldlM addExact 0
      if total < assigned then some (trimShares (assigned - total) shares.reverse).reverse
      else giveOutExact (total - assigned).toNat (scaled.map (·.2)) shares

/-- What is left is given out without a wrap, and all of it. -/
theorem giveOut_spec : ∀ {n : Nat} {remainders shares : List UInt64}, remainders ≠ [] →
    remainders.length = shares.length →
    exactSum shares + n < 2 ^ 64 → giveOutExact n remainders shares = some (giveOut n remainders shares) ∧
      (giveOut n remainders shares).length = shares.length ∧
      exactSum (giveOut n remainders shares) = exactSum shares + n
  | 0, _, _, _, _, _ => ⟨rfl, rfl, rfl⟩
  | n + 1, remainders, shares, hne, hlen, hfits => by
    have hbest : largestIndex remainders < shares.length := hlen ▸ largestIndex_lt hne
    have hone : (1 : UInt64).toNat = 1 := rfl
    have hshare := @getD_le_exactSum shares (largestIndex remainders)
    obtain ⟨hadd, -⟩ := addExact_eq (a := shares.getD (largestIndex remainders) 0) (b := 1) (by omega)
    have hset : shares.set (largestIndex remainders) (shares.getD (largestIndex remainders) 0 + 1)
        = shares.modify (largestIndex remainders) (· + 1) := by
      rw [List.modify_eq_set_get _ hbest, List.getD_eq_getElem?_getD, List.getElem?_eq_getElem hbest]
      rfl
    have hmodify := exactSum_modify hbest (by omega)
    obtain ⟨hexact, hlength, hsum⟩ := @giveOut_spec n (remainders.set (largestIndex remainders) 0)
      (shares.modify (largestIndex remainders) (· + 1)) (by rw [ne_eq, List.set_eq_nil_iff]; exact hne)
      (by rw [List.length_set, List.length_modify, hlen]) (by omega)
    refine ⟨?_, ?_, ?_⟩
    · rw [giveOutExact, giveOut]
      simp only [hadd, Option.bind_eq_bind, Option.bind_some, hset]
      exact hexact
    · rw [giveOut, hlength, List.length_modify]
    · rw [giveOut, hsum, hmodify]
      omega

/-- **The shares add up to the total.** Every vector of positive weights gets one share each, and no addition on the way
wraps. -/
theorem distribute_conserves {weights : List UInt64} (hne : weights ≠ []) (hlen : weights.length < 2 ^ 64)
    (hpos : ∀ w ∈ weights, 1 ≤ w) (total : UInt64) :
    distributeExact total weights = some (distribute total weights) ∧
      (distribute total weights).length = weights.length ∧ exactSum (distribute total weights) = total.toNat := by
  have hpos' : ∀ w ∈ weights, 1 ≤ w.toNat := fun w hw => UInt64.le_iff_toNat_le.1 (hpos w hw)
  have hfloors := @exactSum_floors_lt total _ hne hlen hpos'
  have hzero : (0 : UInt64).toNat = 0 := rfl
  obtain ⟨hassigned, hval⟩ := foldlM_addExact (l := floors total (weightSum 0 weights) weights) (a := 0) (by omega)
  rw [hzero, Nat.zero_add] at hval
  have hsum : weightSum 0 weights ≠ 0 := by
    -- a sum of positive weights is positive, and so is a saturated one
    intro h
    have heq := weightSum_eq weights 0
    obtain ⟨w, rest, rfl⟩ := List.exists_cons_of_ne_nil hne
    have hw := hpos' w List.mem_cons_self
    rw [h, hzero, exactSum_cons] at heq
    split at heq <;> omega
  have hempty : weights.isEmpty = false := by
    rw [List.isEmpty_eq_false_iff]
    exact hne
  have hlength := length_floors total (weightSum 0 weights) weights
  have hrem : (weights.map (scaledShare total (weightSum 0 weights))).map (·.2) ≠ [] := by
    rw [ne_eq, List.map_eq_nil_iff, List.map_eq_nil_iff]
    exact hne
  have hrems : ((weights.map (scaledShare total (weightSum 0 weights))).map (·.2)).length = weights.length := by
    rw [List.length_map, List.length_map]
  unfold distributeExact distribute
  simp only [hempty, Bool.false_eq_true, if_false, if_neg hsum]
  unfold floors at hassigned hval hfloors hlength
  rw [hassigned]
  simp only [Option.bind_eq_bind, Option.bind_some]
  generalize (weights.map (scaledShare total (weightSum 0 weights))).map (·.1) = shares at *
  generalize (weights.map (scaledShare total (weightSum 0 weights))).map (·.2) = remainders at *
  by_cases hover : total < shares.foldl (· + ·) 0
  · have hle := UInt64.le_of_lt hover
    have hsub := UInt64.toNat_sub_of_le _ _ hle
    rw [UInt64.le_iff_toNat_le] at hle
    rw [if_pos hover, if_pos hover]
    refine ⟨rfl, ?_, ?_⟩
    · rw [List.length_reverse, length_trimShares, List.length_reverse, hlength]
    · rw [exactSum_reverse, exactSum_trimShares (by rw [exactSum_reverse]; omega), exactSum_reverse]
      omega
  · have hle := UInt64.not_lt.1 hover
    have hsub := UInt64.toNat_sub_of_le _ _ hle
    rw [UInt64.le_iff_toNat_le] at hle
    have htotal := total.toNat_lt
    rw [if_neg hover, if_neg hover]
    obtain ⟨hexact, hshares, hgiven⟩ := @giveOut_spec (total - shares.foldl (· + ·) 0).toNat remainders
      shares hrem (by rw [hrems, hlength]) (by omega)
    refine ⟨hexact, ?_, ?_⟩
    · rw [hshares, hlength]
    · omega

/-- The weights overflow when they are summed, and so does each product. -/
theorem distribute_conserves_large : exactSum (distribute 0xFFFFFFFFFFFFFFFF
    [0xFFFFFFFFFFFFFFFF, 0xFFFFFFFFFFFFFFFF, 0x8000000000000000]) = 0xFFFFFFFFFFFFFFFF :=
  (distribute_conserves (by decide) (by decide) (by simp) _).2.2

end FlowObs
