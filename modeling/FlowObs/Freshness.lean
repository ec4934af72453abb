import FlowObs.Reconcile

/-!
# Freshness never comes back

`time_difference` is the exact difference, clamped to the signed range (`toInt_timeDifference`). It grows with the
instant of evaluation, and so does the age that `classify_freshness` compares with its windows: evidence goes from
fresh to stale to expired, and never back. Only a window as long as the longest span holds ages that were clamped
(`freshness_ages`).
-/

namespace FlowObs

/-! ## Saturating differences -/

/-- The signed 64-bit range. -/
def clampInt64 (x : ℤ) : ℤ := max (-2 ^ 63) (min (2 ^ 63 - 1) x)

theorem clampInt64_mono {x y : ℤ} (h : x ≤ y) : clampInt64 x ≤ clampInt64 y := by
  unfold clampInt64
  omega

theorem int64_bounds (a : Int64) : -2 ^ 63 ≤ a.toInt ∧ a.toInt ≤ 2 ^ 63 - 1 := by
  have hlow := a.le_toInt
  have hhigh := a.toInt_lt
  omega

theorem toNat_toUInt64 {a : Int64} (h : 0 ≤ a.toInt) : (a.toUInt64.toNat : ℤ) = a.toInt := by
  have hcond := BitVec.toInt_eq_toNat_cond a.toBitVec
  have hval : a.toUInt64.toNat = a.toBitVec.toNat := rfl
  have hint : a.toInt = a.toBitVec.toInt := rfl
  have hlt := a.toBitVec.isLt
  rw [hval]
  split at hcond <;> omega

theorem toInt_toInt64 {m : UInt64} (h : m.toNat < 2 ^ 63) : m.toInt64.toInt = m.toNat := by
  have hcond := BitVec.toInt_eq_toNat_cond m.toBitVec
  have hval : m.toNat = m.toBitVec.toNat := rfl
  have hint : m.toInt64.toInt = m.toBitVec.toInt := rfl
  rw [if_pos (by omega)] at hcond
  omega

theorem signedMagnitude_eq (a : Int64) : ((signedMagnitude a).toNat : ℤ) = |a.toInt| := by
  have hbounds := int64_bounds a
  unfold signedMagnitude
  by_cases h : 0 ≤ a
  · rw [if_pos h]
    rw [Int64.le_iff_toInt_le] at h
    rw [toNat_toUInt64 h, abs_of_nonneg h]
  · -- the magnitude of the least value does not fit into the signed type
    rw [if_neg h]
    rw [Int64.le_iff_toInt_le] at h
    have hzero : (0 : Int64).toInt = 0 := rfl
    have hone : (1 : Int64).toInt = 1 := rfl
    have hneg : (-(a + 1)).toInt = -a.toInt - 1 := by
      rw [Int64.toInt_neg, Int64.toInt_add, hone, Int.bmod_eq_of_le (n := a.toInt + 1) (by omega) (by omega),
        Int.bmod_eq_of_le (by omega) (by omega)]
      omega
    have hcast := toNat_toUInt64 (a := -(a + 1)) (by omega)
    have hone' : (1 : UInt64).toNat = 1 := rfl
    have hadd : ((-(a + 1)).toUInt64 + 1).toNat = (-(a + 1)).toUInt64.toNat + 1 := by
      rw [UInt64.toNat_add, hone', Nat.mod_eq_of_lt (by omega)]
    rw [hadd, abs_of_nonpos (by omega)]
    omega

/-- A sign and a magnitude. -/
def signedValue (negative : Bool) (magnitude : ℕ) : ℤ := if negative then -(magnitude : ℤ) else magnitude

@[simp] theorem signedValue_true (n : ℕ) : signedValue true n = -(n : ℤ) := rfl
@[simp] theorem signedValue_false (n : ℕ) : signedValue false n = n := rfl

/-- What a checked operation answers: the exact value clamped, and a flag only at the ends of the range. -/
structure Saturates (answer : Checked Int64) (exact : ℤ) : Prop where
  value : answer.value.toInt = clampInt64 exact
  ends : answer.overflow = true → answer.value = int64Min ∨ answer.value = int64Max

theorem signedFrom_saturates (negative : Bool) (magnitude : UInt64) :
    Saturates (signedFrom negative magnitude) (signedValue negative magnitude.toNat) := by
  have htop : (0x8000000000000000 : UInt64).toNat = 2 ^ 63 := rfl
  have hmax : (0x7FFFFFFFFFFFFFFF : UInt64).toNat = 2 ^ 63 - 1 := rfl
  have hlow : int64Min.toInt = -2 ^ 63 := rfl
  have hhigh : int64Max.toInt = 2 ^ 63 - 1 := rfl
  unfold signedFrom signedValue
  cases negative with
  | true =>
    simp only [if_true, gt_iff_lt, UInt64.lt_iff_toNat_lt, htop, ← UInt64.toNat_inj]
    by_cases habove : 2 ^ 63 < magnitude.toNat
    · rw [if_pos habove]
      exact ⟨by rw [hlow]; unfold clampInt64; omega, fun _ => .inl rfl⟩
    · rw [if_neg habove]
      by_cases hat : magnitude.toNat = 2 ^ 63
      · rw [if_pos hat]
        exact ⟨by rw [hlow]; unfold clampInt64; omega, fun h => by cases h⟩
      · rw [if_neg hat]
        refine ⟨?_, fun h => by cases h⟩
        have hcast := toInt_toInt64 (m := magnitude) (by omega)
        show (-magnitude.toInt64).toInt = _
        rw [Int64.toInt_neg, hcast, Int.bmod_eq_of_le (by omega) (by omega)]
        unfold clampInt64
        omega
  | false =>
    simp only [Bool.false_eq_true, if_false, gt_iff_lt, UInt64.lt_iff_toNat_lt, hmax]
    by_cases habove : 2 ^ 63 - 1 < magnitude.toNat
    · rw [if_pos habove]
      exact ⟨by rw [hhigh]; unfold clampInt64; omega, fun _ => .inr rfl⟩
    · rw [if_neg habove]
      refine ⟨?_, fun h => by cases h⟩
      show magnitude.toInt64.toInt = _
      rw [toInt_toInt64 (by omega)]
      unfold clampInt64
      omega

theorem checkedAdd_cases (a b : UInt64) :
    (checkedAdd a b).overflow = true ∧ 2 ^ 64 ≤ a.toNat + b.toNat ∨
      (checkedAdd a b).overflow = false ∧ (checkedAdd a b).value.toNat = a.toNat + b.toNat := by
  have hmax : (0xFFFFFFFFFFFFFFFF : UInt64).toNat = 2 ^ 64 - 1 := rfl
  have hroom : (0xFFFFFFFFFFFFFFFF - b).toNat = 2 ^ 64 - 1 - b.toNat := by
    rw [UInt64.toNat_sub_of_le _ _ (by rw [UInt64.le_iff_toNat_le, hmax]; have := b.toNat_lt; omega), hmax]
  unfold checkedAdd
  by_cases h : a > 0xFFFFFFFFFFFFFFFF - b
  · rw [if_pos h]
    rw [gt_iff_lt, UInt64.lt_iff_toNat_lt, hroom] at h
    exact .inl ⟨rfl, by omega⟩
  · rw [if_neg h]
    rw [gt_iff_lt, UInt64.lt_iff_toNat_lt, hroom] at h
    have hb := b.toNat_lt
    refine .inr ⟨rfl, ?_⟩
    show (a + b).toNat = _
    rw [UInt64.toNat_add, Nat.mod_eq_of_lt (by omega)]

theorem addMagnitudes_saturates (aNegative bNegative : Bool) (a b : UInt64) :
    Saturates (addMagnitudes aNegative bNegative a b)
      (signedValue aNegative a.toNat + signedValue bNegative b.toNat) := by
  have hlow : int64Min.toInt = -2 ^ 63 := rfl
  have hhigh : int64Max.toInt = 2 ^ 63 - 1 := rfl
  unfold addMagnitudes
  by_cases hsign : aNegative = bNegative
  · subst hsign
    rw [if_pos rfl]
    rcases checkedAdd_cases a b with ⟨hover, hbig⟩ | ⟨hfits, hsum⟩
    · rw [if_pos hover]
      cases aNegative with
      | true =>
        refine ⟨?_, fun _ => .inl rfl⟩
        show int64Min.toInt = _
        rw [hlow, signedValue_true, signedValue_true]
        unfold clampInt64
        omega
      | false =>
        refine ⟨?_, fun _ => .inr rfl⟩
        show int64Max.toInt = _
        rw [hhigh, signedValue_false, signedValue_false]
        unfold clampInt64
        omega
    · rw [if_neg (by rw [hfits]; exact Bool.false_ne_true)]
      have hexact : signedValue aNegative a.toNat + signedValue aNegative b.toNat
          = signedValue aNegative (checkedAdd a b).value.toNat := by
        rw [hsum]
        cases aNegative <;> simp only [signedValue_true, signedValue_false] <;> omega
      rw [hexact]
      exact signedFrom_saturates _ _
  · rw [if_neg hsign]
    have hopposite : bNegative = !aNegative := by
      revert hsign
      cases aNegative <;> cases bNegative <;> decide
    subst hopposite
    by_cases hge : a ≥ b
    · rw [if_pos hge]
      have hexact : signedValue aNegative a.toNat + signedValue (!aNegative) b.toNat
          = signedValue aNegative (a - b).toNat := by
        rw [UInt64.toNat_sub_of_le _ _ hge]
        rw [ge_iff_le, UInt64.le_iff_toNat_le] at hge
        cases aNegative <;> simp only [signedValue_true, signedValue_false, Bool.not_true, Bool.not_false] <;> omega
      rw [hexact]
      exact signedFrom_saturates _ _
    · rw [if_neg hge]
      have hexact : signedValue aNegative a.toNat + signedValue (!aNegative) b.toNat
          = signedValue (!aNegative) (b - a).toNat := by
        rw [ge_iff_le, UInt64.le_iff_toNat_le] at hge
        rw [UInt64.toNat_sub_of_le _ _ (by rw [UInt64.le_iff_toNat_le]; omega)]
        cases aNegative <;> simp only [signedValue_true, signedValue_false, Bool.not_true, Bool.not_false] <;> omega
      rw [hexact]
      exact signedFrom_saturates _ _

/-- A sign and a magnitude give back the number they come from. -/
theorem signedValue_magnitude (a : Int64) : signedValue (decide (a < 0)) (signedMagnitude a).toNat = a.toInt := by
  have hzero : (0 : Int64).toInt = 0 := rfl
  unfold signedValue
  rw [signedMagnitude_eq]
  simp only [decide_eq_true_eq, Int64.lt_iff_toInt_lt, hzero]
  split
  · rw [abs_of_neg (by assumption)]
    omega
  · rw [abs_of_nonneg (by omega)]

/-- The sign that `checked_sub_signed` gives to the number it takes off. -/
theorem signedValue_negated (b : Int64) : signedValue (decide (b ≥ 0)) (signedMagnitude b).toNat = -b.toInt := by
  have hzero : (0 : Int64).toInt = 0 := rfl
  unfold signedValue
  rw [signedMagnitude_eq]
  simp only [decide_eq_true_eq, ge_iff_le, Int64.le_iff_toInt_le, hzero]
  split
  · rw [abs_of_nonneg (by assumption)]
  · rw [abs_of_neg (by omega)]

theorem checkedSubSigned_saturates (a b : Int64) : Saturates (checkedSubSigned a b) (a.toInt - b.toInt) := by
  have hexact : a.toInt - b.toInt = signedValue (decide (a < 0)) (signedMagnitude a).toNat
      + signedValue (decide (b ≥ 0)) (signedMagnitude b).toNat := by
    rw [signedValue_magnitude, signedValue_negated]
    omega
  rw [hexact]
  exact addMagnitudes_saturates _ _ _ _

/-- **`time_difference` is the exact difference, clamped.** -/
theorem toInt_timeDifference (later earlier : Timestamp) :
    (timeDifference later earlier).nanos.toInt = clampInt64 (later.nanos.toInt - earlier.nanos.toInt) := by
  obtain ⟨hvalue, hends⟩ := checkedSubSigned_saturates later.nanos earlier.nanos
  rw [← hvalue]
  unfold timeDifference
  by_cases hover : (checkedSubSigned later.nanos earlier.nanos).overflow = true
  · rw [if_pos hover]
    rcases hends hover with hmin | hmax
    · rw [hmin]
      rfl
    · rw [hmax]
      rfl
  · rw [if_neg hover]

theorem timeDifference_mono {later later' : Timestamp} (h : later ≤ later') (earlier : Timestamp) :
    timeDifference later earlier ≤ timeDifference later' earlier := by
  rw [Duration.le_def, toInt_timeDifference, toInt_timeDifference]
  rw [Timestamp.le_def] at h
  exact clampInt64_mono (by omega)

/-! ## Ageing -/

/-- The instant that evidence counts from: a source clock that is ahead is held back to the instant of receipt. -/
def countsFrom (observedAt receivedAt : Timestamp) : Timestamp :=
  if receivedAt.known && receivedAt < observedAt then receivedAt else observedAt

theorem countsFrom_le (observedAt receivedAt : Timestamp) : countsFrom observedAt receivedAt ≤ observedAt := by
  unfold countsFrom
  split
  · rename_i h
    rw [Bool.and_eq_true, decide_eq_true_eq] at h
    exact h.2.le
  · exact le_rfl

theorem effective_eq (observedAt receivedAt : Timestamp) :
    (if receivedAt.known && receivedAt < observedAt && Duration.zero <
      timeDifference observedAt receivedAt then receivedAt
      else observedAt) = countsFrom observedAt receivedAt := by
  unfold countsFrom
  by_cases h : receivedAt < observedAt
  · have hpos : Duration.zero < timeDifference observedAt receivedAt := by
      have hzero : Duration.zero.nanos.toInt = 0 := rfl
      rw [Duration.lt_def, toInt_timeDifference, hzero]
      rw [Timestamp.lt_def] at h
      unfold clampInt64
      omega
    simp [h, hpos]
  · simp [h]

/-- **What `classify_freshness` comes to at a known instant**, for evidence of this epoch or trusted after a restart. -/
theorem classifyFreshness_known (observedAt receivedAt : Timestamp) (ctx : FreshnessContext)
    (hnow : ctx.now.known = true) :
    classifyFreshness observedAt receivedAt ctx =
      if ctx.fromPreviousEpoch && ctx.policy.requireReconfirmationAfterRestart then .Unknown
      else if !observedAt.known then .Unknown
      else if ctx.now < countsFrom observedAt receivedAt then .Unknown
      else if timeDifference ctx.now (countsFrom observedAt receivedAt) ≤ ctx.policy.freshWindow then .Fresh
      else if timeDifference ctx.now (countsFrom observedAt receivedAt) ≤ ctx.policy.expireWindow then .Stale
      else .Expired := by
  unfold classifyFreshness
  simp only [effective_eq, hnow, if_true, Bool.not_true, Bool.false_eq_true, if_false]

/-- **Freshness never comes back.** Stale evidence stays stale or expires, and expired evidence stays expired.
Evidence is fresh only while its exact age is within the window, for every window below the longest span. -/
theorem freshness_ages (observedAt receivedAt : Timestamp) (policy : FreshnessPolicy) (fromPreviousEpoch : Bool)
    {t₁ t₂ : Timestamp} (h₁ : t₁.known = true) (h₂ : t₂.known = true) (hle : t₁ ≤ t₂) :
    let classified : Timestamp → Freshness :=
      fun now => classifyFreshness observedAt receivedAt ⟨now, policy, fromPreviousEpoch⟩
    (classified t₁ = .Stale → classified t₂ = .Stale ∨ classified t₂ = .Expired) ∧
      (classified t₁ = .Expired → classified t₂ = .Expired) ∧
      (policy.freshWindow < Duration.max → classified t₁ = .Fresh →
        t₁.nanos.toInt - (countsFrom observedAt receivedAt).nanos.toInt ≤ policy.freshWindow.nanos.toInt ∧
          t₁.nanos.toInt - observedAt.nanos.toInt ≤ policy.freshWindow.nanos.toInt) := by
  intro classified
  have hknown₁ : classified t₁ = _ := classifyFreshness_known observedAt receivedAt ⟨t₁, policy, fromPreviousEpoch⟩ h₁
  have hknown₂ : classified t₂ = _ := classifyFreshness_known observedAt receivedAt ⟨t₂, policy, fromPreviousEpoch⟩ h₂
  have hgrows := timeDifference_mono hle (countsFrom observedAt receivedAt)
  rw [hknown₁, hknown₂]
  by_cases hepoch : (fromPreviousEpoch && policy.requireReconfirmationAfterRestart) = true
  · simp [hepoch]
  by_cases hunknown : (!observedAt.known) = true
  · simp [hunknown]
  simp only [hepoch, hunknown, if_false, Bool.false_eq_true]
  by_cases hfuture : t₁ < countsFrom observedAt receivedAt
  · simp [hfuture]
  have hpast : ¬ t₂ < countsFrom observedAt receivedAt := not_lt.2 ((not_lt.1 hfuture).trans hle)
  rw [if_neg hfuture, if_neg hpast]
  by_cases hfresh : timeDifference t₁ (countsFrom observedAt receivedAt) ≤ policy.freshWindow
  · rw [if_pos hfresh]
    refine ⟨(by rintro ⟨⟩), (by rintro ⟨⟩), fun hbelow _ => ?_⟩
    have hcounts := countsFrom_le observedAt receivedAt
    have hmax : Duration.max.nanos.toInt = 2 ^ 63 - 1 := rfl
    rw [Duration.le_def, toInt_timeDifference] at hfresh
    rw [Duration.lt_def, hmax] at hbelow
    rw [Timestamp.le_def] at hcounts
    unfold clampInt64 at hfresh
    omega
  · -- an age beyond the first window stays beyond it
    have hfresh₂ : ¬ timeDifference t₂ (countsFrom observedAt receivedAt) ≤ policy.freshWindow :=
      fun h => hfresh (hgrows.trans h)
    rw [if_neg hfresh, if_neg hfresh₂]
    refine ⟨fun _ => ?_, fun hexpired => ?_, fun _ h => ?_⟩
    · by_cases h : timeDifference t₂ (countsFrom observedAt receivedAt) ≤ policy.expireWindow
      · exact .inl (if_pos h)
      · exact .inr (if_neg h)
    · by_cases h : timeDifference t₁ (countsFrom observedAt receivedAt) ≤ policy.expireWindow
      · rw [if_pos h] at hexpired
        cases hexpired
      · exact if_neg fun h₂ => h (hgrows.trans h₂)
    · by_cases hstale : timeDifference t₁ (countsFrom observedAt receivedAt) ≤ policy.expireWindow
      · rw [if_pos hstale] at h
        cases h
      · rw [if_neg hstale] at h
        cases h

theorem freshness_ages_minute : classifyFreshness ⟨1⟩ ⟨1⟩ ⟨⟨60000000001⟩, {}, false⟩ = .Stale ∧
    classifyFreshness ⟨1⟩ ⟨1⟩ ⟨⟨700000000001⟩, {}, false⟩ = .Expired :=
  ⟨by decide, ((@freshness_ages ⟨1⟩ ⟨1⟩ {} false ⟨60000000001⟩ ⟨700000000001⟩ (by decide) (by decide) (by decide)).1
    (by decide)).resolve_left (by decide)⟩

/-- The window as long as the longest span. -/
def boundless : FreshnessPolicy := { freshWindow := Duration.max, expireWindow := Duration.max }

/-- **An age that was clamped is fresh for ever.** Evidence of the instant before the epoch is one nanosecond too old
for the longest window at the last instant. -/
theorem clamped_age_fresh : ¬ ∀ (observedAt receivedAt : Timestamp) (policy : FreshnessPolicy)
    (fromPreviousEpoch : Bool)
    (t₁ t₂ : Timestamp), policy.validate = .ok () → t₁.known = true → t₂.known = true → t₁ ≤ t₂ →
    let classified := fun now => classifyFreshness observedAt receivedAt ⟨now, policy, fromPreviousEpoch⟩
    (classified t₁ = .Stale → classified t₂ = .Stale ∨ classified t₂ = .Expired) ∧
      (classified t₁ = .Expired → classified t₂ = .Expired) ∧
      (classified t₁ = .Fresh → t₁.nanos.toInt - observedAt.nanos.toInt ≤ policy.freshWindow.nanos.toInt) := by
  intro h
  have hage := (h ⟨-1⟩ ⟨-1⟩ boundless false ⟨int64Max⟩ ⟨int64Max⟩ (by decide) (by decide) (by decide) le_rfl).2.2
    (by decide)
  revert hage
  decide

end FlowObs
