import FlowObs.TimeText

/-!
# Arithmetic is exact or saturated

The checked operations answer the exact result where it fits, and otherwise the bound on the side that it left, with
the flag set (`Exactly`). The definitions under `Defined` follow the same source once more and stop at a step that C++
leaves undefined: a signed result out of range, or a division by zero. None of the checked operations has one
(`checked_exact`), but the subtraction of a span does: it negates the span (`timeOp_clamps_iff`).
-/

namespace FlowObs

/-! ## Steps that may be undefined -/

namespace Defined

/-- `a + b` at `int64_t`. -/
def add (a b : Int64) : Option Int64 :=
  if -2 ^ 63 ≤ a.toInt + b.toInt ∧ a.toInt + b.toInt < 2 ^ 63 then some (a + b) else none

/-- `-a` at `int64_t`: `INT64_MIN` has no negative. -/
def neg (a : Int64) : Option Int64 := if a = int64Min then none else some (-a)

/-- `a / b` at `uint64_t`. -/
def div (a b : UInt64) : Option UInt64 := if b = 0 then none else some (a / b)

/-- `checked_mul`. -/
def checkedMul (a b : UInt64) : Option (Checked UInt64) :=
  if a = 0 ∨ b = 0 then some (checkedOk 0)
  else (div 0xFFFFFFFFFFFFFFFF b).map fun most =>
    if a > most then ⟨0xFFFFFFFFFFFFFFFF, true⟩ else checkedOk (a * b)

/-- `checked_mul_div`. -/
def checkedMulDiv (value num den : UInt64) : Option (Checked UInt64) :=
  if den = 0 then some ⟨0, true⟩
  else (checkedMul value num).bind fun product =>
    if product.overflow then some product else (div product.value den).map checkedOk

/-- `signed_magnitude`. -/
def signedMagnitude (value : Int64) : Option UInt64 :=
  if 0 ≤ value then some value.toUInt64
  else ((add value 1).bind neg).map fun negated => negated.toUInt64 + 1

/-- `signed_from`. -/
def signedFrom (negative : Bool) (magnitude : UInt64) : Option (Checked Int64) :=
  if negative then
    if magnitude > 0x8000000000000000 then some ⟨int64Min, true⟩
    else if magnitude = 0x8000000000000000 then some ⟨int64Min, false⟩
    else (neg magnitude.toInt64).map fun negated => ⟨negated, false⟩
  else if magnitude > 0x7FFFFFFFFFFFFFFF then some ⟨int64Max, true⟩
  else some ⟨magnitude.toInt64, false⟩

/-- The common tail of the signed operations. -/
def addMagnitudes (aNegative bNegative : Bool) (magnitudeA magnitudeB : UInt64) : Option (Checked Int64) :=
  if aNegative = bNegative then
    if (checkedAdd magnitudeA magnitudeB).overflow then some ⟨if aNegative then int64Min else int64Max, true⟩
    else signedFrom aNegative (checkedAdd magnitudeA magnitudeB).value
  else if magnitudeA ≥ magnitudeB then signedFrom aNegative (magnitudeA - magnitudeB)
  else signedFrom bNegative (magnitudeB - magnitudeA)

/-- `checked_add_signed`. -/
def checkedAddSigned (a b : Int64) : Option (Checked Int64) :=
  (signedMagnitude a).bind fun magnitudeA => (signedMagnitude b).bind fun magnitudeB =>
    addMagnitudes (a < 0) (b < 0) magnitudeA magnitudeB

/-- `checked_sub_signed`. -/
def checkedSubSigned (a b : Int64) : Option (Checked Int64) :=
  (signedMagnitude a).bind fun magnitudeA => (signedMagnitude b).bind fun magnitudeB =>
    addMagnitudes (a < 0) (b ≥ 0) magnitudeA magnitudeB

theorem div_eq {b : UInt64} (hb : b ≠ 0) (a : UInt64) : div a b = some (a / b) := if_neg hb

theorem neg_eq {a : Int64} (ha : a ≠ int64Min) : neg a = some (-a) := if_neg ha

theorem add_one_eq {a : Int64} (ha : a.toInt < 0) : add a 1 = some (a + 1) := by
  have hone : (1 : Int64).toInt = 1 := rfl
  have hbounds := int64_bounds a
  exact if_pos ⟨by omega, by omega⟩

@[simp] theorem checkedMul_eq (a b : UInt64) : checkedMul a b = some (FlowObs.checkedMul a b) := by
  unfold checkedMul FlowObs.checkedMul
  by_cases hzero : a = 0 ∨ b = 0
  · rw [if_pos hzero, if_pos hzero]
  · rw [if_neg hzero, if_neg hzero, div_eq fun hb => hzero (.inr hb)]
    rfl

@[simp] theorem checkedMulDiv_eq (value num den : UInt64) :
    checkedMulDiv value num den = some (FlowObs.checkedMulDiv value num den) := by
  unfold checkedMulDiv FlowObs.checkedMulDiv
  by_cases hden : den = 0
  · rw [if_pos hden, if_pos hden]
  · rw [if_neg hden, if_neg hden, checkedMul_eq, Option.bind_some, div_eq hden]
    by_cases hover : (FlowObs.checkedMul value num).overflow = true
    · rw [if_pos hover, if_pos hover]
    · rw [if_neg hover, if_neg hover]
      rfl

/-- A negative number is brought up by one before it is negated. -/
@[simp] theorem signedMagnitude_eq (value : Int64) : signedMagnitude value = some (FlowObs.signedMagnitude value) := by
  unfold signedMagnitude FlowObs.signedMagnitude
  by_cases hsign : 0 ≤ value
  · rw [if_pos hsign, if_pos hsign]
  · have hneg : value.toInt < 0 := by
      rw [Int64.le_iff_toInt_le] at hsign
      exact not_le.1 hsign
    have hup : value + 1 ≠ int64Min := by
      intro h
      have hbounds := int64_bounds value
      have hone : (1 : Int64).toInt = 1 := rfl
      have hlow : int64Min.toInt = -2 ^ 63 := rfl
      have hsum := congrArg Int64.toInt h
      rw [Int64.toInt_add, hone, Int.bmod_eq_of_le (by omega) (by omega)] at hsum
      omega
    rw [if_neg hsign, if_neg hsign, add_one_eq hneg, Option.bind_some, neg_eq hup]
    rfl

@[simp] theorem signedFrom_eq (negative : Bool) (magnitude : UInt64) :
    signedFrom negative magnitude = some (FlowObs.signedFrom negative magnitude) := by
  have htop : (0x8000000000000000 : UInt64).toNat = 2 ^ 63 := rfl
  unfold signedFrom FlowObs.signedFrom
  cases negative with
  | true =>
    rw [if_pos rfl, if_pos rfl]
    by_cases habove : magnitude > 0x8000000000000000
    · rw [if_pos habove, if_pos habove]
    · by_cases hat : magnitude = 0x8000000000000000
      · rw [if_neg habove, if_neg habove, if_pos hat, if_pos hat]
      · have hsmall : magnitude.toNat < 2 ^ 63 := by
          rw [gt_iff_lt, UInt64.lt_iff_toNat_lt, htop] at habove
          rw [← UInt64.toNat_inj, htop] at hat
          omega
        have hne : magnitude.toInt64 ≠ int64Min := by
          intro h
          have hlow : int64Min.toInt = -2 ^ 63 := rfl
          have hval := toInt_toInt64 hsmall
          rw [h] at hval
          omega
        rw [if_neg habove, if_neg habove, if_neg hat, if_neg hat, neg_eq hne]
        rfl
  | false =>
    rw [if_neg Bool.false_ne_true, if_neg Bool.false_ne_true]
    split <;> rfl

@[simp] theorem addMagnitudes_eq (na nb : Bool) (a b : UInt64) :
    addMagnitudes na nb a b = some (FlowObs.addMagnitudes na nb a b) := by
  unfold addMagnitudes FlowObs.addMagnitudes
  split
  · split
    · rfl
    · exact signedFrom_eq _ _
  · split <;> exact signedFrom_eq _ _

/-- **No step of the signed addition is undefined.** -/
@[simp] theorem checkedAddSigned_eq (a b : Int64) : checkedAddSigned a b = some (FlowObs.checkedAddSigned a b) := by
  simp only [checkedAddSigned, signedMagnitude_eq, Option.bind_some, addMagnitudes_eq]
  rfl

/-- **Nor of the signed subtraction.** -/
@[simp] theorem checkedSubSigned_eq (a b : Int64) : checkedSubSigned a b = some (FlowObs.checkedSubSigned a b) := by
  simp only [checkedSubSigned, signedMagnitude_eq, Option.bind_some, addMagnitudes_eq]
  rfl

end Defined

/-! ## Exact or saturated -/

/-- A checked answer on the range from `lo` to `hi`: the exact result, or the bound that it lies beyond. -/
structure Exactly {α : Type} (toInt : α → ℤ) (lo hi : ℤ) (answer : Checked α) (exact : ℤ) : Prop where
  fits : lo ≤ exact → exact ≤ hi → answer.overflow = false ∧ toInt answer.value = exact
  above : hi < exact → answer.overflow = true ∧ toInt answer.value = hi
  below : exact < lo → answer.overflow = true ∧ toInt answer.value = lo

/-- At `uint64_t`. -/
def ExactUnsigned : Checked UInt64 → ℤ → Prop := Exactly (fun v => (v.toNat : ℤ)) 0 (2 ^ 64 - 1)

/-- At `int64_t`. -/
def ExactSigned : Checked Int64 → ℤ → Prop := Exactly Int64.toInt (-2 ^ 63) (2 ^ 63 - 1)

/-- A checked quotient of a product: the floor when the product fits, and otherwise, or without a divisor, the flag. -/
structure ExactQuotient (answer : Checked UInt64) (value num den : UInt64) : Prop where
  fits : den ≠ 0 → value.toNat * num.toNat < 2 ^ 64 →
    answer.overflow = false ∧ answer.value.toNat = value.toNat * num.toNat / den.toNat
  above : den ≠ 0 → 2 ^ 64 ≤ value.toNat * num.toNat → answer.overflow = true ∧ answer.value.toNat = 2 ^ 64 - 1
  undivided : den = 0 → answer.overflow = true

theorem checkedAdd_exact (a b : UInt64) : ExactUnsigned (checkedAdd a b) (a.toNat + b.toNat) := by
  have hmax : (0xFFFFFFFFFFFFFFFF : UInt64).toNat = 2 ^ 64 - 1 := rfl
  rcases checkedAdd_cases a b with ⟨hover, hbig⟩ | ⟨hok, hsum⟩
  · have hvalue : (checkedAdd a b).value = 0xFFFFFFFFFFFFFFFF := by
      unfold checkedAdd at hover ⊢
      split
      · rfl
      · rename_i hle
        rw [if_neg hle] at hover
        cases hover
    exact ⟨fun _ h => by omega, fun _ => ⟨hover, by rw [hvalue, hmax]; omega⟩, fun h => by omega⟩
  · have hlt := (checkedAdd a b).value.toNat_lt
    exact ⟨fun _ _ => ⟨hok, by rw [hsum]; omega⟩, fun h => by omega, fun h => by omega⟩

theorem checkedSub_exact (a b : UInt64) : ExactUnsigned (checkedSub a b) (a.toNat - b.toNat) := by
  have ha := a.toNat_lt
  unfold checkedSub
  by_cases h : b > a
  · rw [if_pos h]
    rw [gt_iff_lt, UInt64.lt_iff_toNat_lt] at h
    exact ⟨fun _ _ => by omega, fun _ => by omega, fun _ => ⟨rfl, rfl⟩⟩
  · rw [if_neg h]
    rw [gt_iff_lt, UInt64.lt_iff_toNat_lt] at h
    have hval : (a - b).toNat = a.toNat - b.toNat := UInt64.toNat_sub_of_le _ _ (UInt64.le_iff_toNat_le.2 (by omega))
    refine ⟨fun _ _ => ⟨rfl, ?_⟩, fun _ => by omega, fun _ => by omega⟩
    show (((a - b).toNat : ℕ) : ℤ) = a.toNat - b.toNat
    omega

/-- What a product that does not fit is answered with. -/
theorem checkedMul_saturated {a b : UInt64} (h : (checkedMul a b).overflow = true) :
    (checkedMul a b).value = 0xFFFFFFFFFFFFFFFF := by
  unfold checkedMul at h ⊢
  split
  · rename_i hzero
    rw [if_pos hzero] at h
    cases h
  · rename_i hzero
    rw [if_neg hzero] at h
    split
    · rfl
    · rename_i hle
      rw [if_neg hle] at h
      cases h

theorem checkedMul_exact (a b : UInt64) : ExactUnsigned (checkedMul a b) (a.toNat * b.toNat : ℕ) := by
  have hmax : (0xFFFFFFFFFFFFFFFF : UInt64).toNat = 2 ^ 64 - 1 := rfl
  refine ⟨fun _ h => ?_, fun h => ?_, fun h => by omega⟩
  · have hfits : a.toNat * b.toNat < 2 ^ 64 := by omega
    exact ⟨Bool.eq_false_iff.2 fun hover => absurd (checkedMul_overflow.1 hover) (by omega),
      congrArg Nat.cast (checkedMul_value hfits)⟩
  · have hover : (checkedMul a b).overflow = true := checkedMul_overflow.2 (by omega)
    refine ⟨hover, ?_⟩
    rw [checkedMul_saturated hover, hmax]
    omega

theorem checkedMulDiv_exact (value num den : UInt64) : ExactQuotient (checkedMulDiv value num den) value num den := by
  refine ⟨fun hden hfits => ?_, fun hden hbig => ?_, fun hden => ?_⟩
  · exact ⟨Bool.eq_false_iff.2 fun hover => absurd ((checkedMulDiv_overflow hden).1 hover) (by omega),
      checkedMulDiv_value hden hfits⟩
  · have hover := checkedMul_overflow.2 hbig
    have heq : checkedMulDiv value num den = checkedMul value num := by
      unfold checkedMulDiv
      rw [if_neg hden, if_pos hover]
    rw [heq]
    exact ⟨hover, by rw [checkedMul_saturated hover]; rfl⟩
  · unfold checkedMulDiv
    rw [if_pos hden]

/-- An answer that saturates, with a flag for exactly the results that do not fit. -/
theorem ExactSigned.of_saturates {answer : Checked Int64} {exact : ℤ} (hvalue : answer.value.toInt = clampInt64 exact)
    (hover : answer.overflow = true ↔ exact < -2 ^ 63 ∨ 2 ^ 63 ≤ exact) : ExactSigned answer exact := by
  unfold clampInt64 at hvalue
  refine ⟨fun hlo hhi => ⟨?_, ?_⟩, fun habove => ⟨?_, ?_⟩, fun hbelow => ⟨?_, ?_⟩⟩
  · exact Bool.eq_false_iff.2 fun h => by have := hover.1 h; omega
  · omega
  · exact hover.2 (.inr (by omega))
  · omega
  · exact hover.2 (.inl hbelow)
  · omega

theorem checkedAddSigned_exact (a b : Int64) : ExactSigned (checkedAddSigned a b) (a.toInt + b.toInt) :=
  .of_saturates (checkedAddSigned_value a b) (checkedAddSigned_overflow a b)

theorem checkedSubSigned_exact (a b : Int64) : ExactSigned (checkedSubSigned a b) (a.toInt - b.toInt) := by
  refine .of_saturates (checkedSubSigned_saturates a b).value ?_
  rw [sub_eq_add_neg, ← signedValue_negated b, ← signedValue_magnitude a]
  exact addMagnitudes_overflow _ _ _ _

/-- **Saturating arithmetic is exact**, and no step of it is undefined. -/
theorem checked_exact :
    (∀ a b : UInt64, ExactUnsigned (checkedAdd a b) (a.toNat + b.toNat) ∧
      ExactUnsigned (checkedSub a b) (a.toNat - b.toNat) ∧
      ExactUnsigned (checkedMul a b) (a.toNat * b.toNat) ∧ Defined.checkedMul a b = some (checkedMul a b)) ∧
    (∀ a b : Int64, ExactSigned (checkedAddSigned a b) (a.toInt + b.toInt) ∧
      Defined.checkedAddSigned a b = some (checkedAddSigned a b) ∧
      ExactSigned (checkedSubSigned a b) (a.toInt - b.toInt) ∧
      Defined.checkedSubSigned a b = some (checkedSubSigned a b)) ∧
    ∀ value num den : UInt64, ExactQuotient (checkedMulDiv value num den) value num den ∧
      Defined.checkedMulDiv value num den = some (checkedMulDiv value num den) := by
  refine ⟨fun a b => ⟨checkedAdd_exact a b, checkedSub_exact a b, ?_, Defined.checkedMul_eq a b⟩, fun a b => ?_,
    fun value num den => ⟨checkedMulDiv_exact value num den, Defined.checkedMulDiv_eq value num den⟩⟩
  · exact_mod_cast checkedMul_exact a b
  · exact ⟨checkedAddSigned_exact a b, Defined.checkedAddSigned_eq a b, checkedSubSigned_exact a b,
      Defined.checkedSubSigned_eq a b⟩

/-! ## Instants -/

/-- `operator+(Timestamp, Duration)`. -/
def Timestamp.plus (base : Timestamp) (delta : Duration) : Timestamp := timeAdd base delta

/-- `operator-(Timestamp, Duration)`: the span is negated, then added. -/
def Timestamp.minus (base : Timestamp) (delta : Duration) : Timestamp := timeAdd base ⟨-delta.nanos⟩

/-- `operator-(Timestamp, Timestamp)`. -/
def Timestamp.since (later earlier : Timestamp) : Duration := timeDifference later earlier

namespace Defined

/-- `time_difference`. -/
def timeDifference (later earlier : Timestamp) : Option Duration :=
  (checkedSubSigned later.nanos earlier.nanos).map fun difference =>
    if difference.overflow then if difference.value < 0 then ⟨int64Min⟩ else Duration.max else ⟨difference.value⟩

/-- `time_add`. -/
def timeAdd (base : Timestamp) (delta : Duration) : Option Timestamp :=
  (checkedAddSigned base.nanos delta.nanos).map fun sum =>
    if sum.overflow then ⟨if sum.value < 0 then int64Min else int64Max⟩ else ⟨sum.value⟩

/-- `operator-(Timestamp, Duration)`. -/
def minus (base : Timestamp) (delta : Duration) : Option Timestamp :=
  (neg delta.nanos).bind fun negated => timeAdd base ⟨negated⟩

@[simp] theorem timeDifference_eq (later earlier : Timestamp) :
    timeDifference later earlier = some (FlowObs.timeDifference later earlier) := by
  rw [timeDifference, checkedSubSigned_eq]
  rfl

@[simp] theorem timeAdd_eq (base : Timestamp) (delta : Duration) :
    timeAdd base delta = some (FlowObs.timeAdd base delta) := by
  rw [timeAdd, checkedAddSigned_eq]
  rfl

/-- The only span that cannot be taken off an instant. -/
theorem minus_eq_some_iff {base : Timestamp} {delta : Duration} :
    minus base delta = some (base.minus delta) ↔ delta ≠ ⟨int64Min⟩ := by
  unfold minus neg
  by_cases h : delta.nanos = int64Min
  · rw [if_pos h]
    exact iff_of_false (by simp) (not_not.2 (Duration.ext h))
  · rw [if_neg h, Option.bind_some, timeAdd_eq]
    exact iff_of_true rfl fun heq => h (congrArg Duration.nanos heq)

end Defined

/-- **`time_add` is the exact sum, clamped.** -/
theorem toInt_timeAdd (base : Timestamp) (delta : Duration) :
    (timeAdd base delta).nanos.toInt = clampInt64 (base.nanos.toInt + delta.nanos.toInt) := by
  have hvalue := checkedAddSigned_value base.nanos delta.nanos
  unfold timeAdd
  by_cases hover : (checkedAddSigned base.nanos delta.nanos).overflow = true
  · rw [if_pos hover]
    have hends := (checkedAddSigned_overflow base.nanos delta.nanos).1 hover
    have hsign : (checkedAddSigned base.nanos delta.nanos).value < 0 ↔
        clampInt64 (base.nanos.toInt + delta.nanos.toInt) < 0 := by
      rw [Int64.lt_iff_toInt_lt, hvalue]
      rfl
    unfold clampInt64 at hsign ⊢
    rcases hends with hlow | hhigh
    · rw [if_pos (hsign.2 (by omega))]
      show int64Min.toInt = _
      have hmin : int64Min.toInt = -2 ^ 63 := rfl
      omega
    · rw [if_neg fun h => absurd (hsign.1 h) (by omega)]
      show int64Max.toInt = _
      have hmax : int64Max.toInt = 2 ^ 63 - 1 := rfl
      omega
  · rw [if_neg hover]
    exact hvalue

/-- One application of the operators of `time.hpp`. -/
inductive TimeOp
  | plus (base : Timestamp) (delta : Duration)
  | minus (base : Timestamp) (delta : Duration)
  | since (later earlier : Timestamp)
  | add (base : Timestamp) (delta : Duration)
  | difference (later earlier : Timestamp)

namespace TimeOp

/-- The nanoseconds that it answers, where the arithmetic wraps at two's complement. -/
def value : TimeOp → Int64
  | plus base delta => (base.plus delta).nanos
  | minus base delta => (base.minus delta).nanos
  | since later earlier => (later.since earlier).nanos
  | add base delta => (timeAdd base delta).nanos
  | difference later earlier => (timeDifference later earlier).nanos

/-- The nanoseconds that it answers, when no step is undefined. -/
def defined : TimeOp → Option Int64
  | plus base delta => (Defined.timeAdd base delta).map Timestamp.nanos
  | minus base delta => (Defined.minus base delta).map Timestamp.nanos
  | since later earlier => (Defined.timeDifference later earlier).map Duration.nanos
  | add base delta => (Defined.timeAdd base delta).map Timestamp.nanos
  | difference later earlier => (Defined.timeDifference later earlier).map Duration.nanos

/-- The exact result. -/
def exact : TimeOp → ℤ
  | plus base delta => base.nanos.toInt + delta.nanos.toInt
  | minus base delta => base.nanos.toInt - delta.nanos.toInt
  | since later earlier => later.nanos.toInt - earlier.nanos.toInt
  | add base delta => base.nanos.toInt + delta.nanos.toInt
  | difference later earlier => later.nanos.toInt - earlier.nanos.toInt

/-- The clamped exact result, without an undefined step. -/
def Clamps (op : TimeOp) : Prop := op.defined = some op.value ∧ op.value.toInt = clampInt64 op.exact

end TimeOp

/-- A span that has a negative is taken off exactly. -/
theorem toInt_minus {delta : Duration} (h : delta ≠ ⟨int64Min⟩) (base : Timestamp) :
    (base.minus delta).nanos.toInt = clampInt64 (base.nanos.toInt - delta.nanos.toInt) := by
  have hbounds := int64_bounds delta.nanos
  have hmin : int64Min.toInt = -2 ^ 63 := rfl
  have hne : delta.nanos.toInt ≠ -2 ^ 63 := fun heq => h (Duration.ext (Int64.toInt_inj.1 (heq.trans hmin.symm)))
  have hneg : (-delta.nanos).toInt = -delta.nanos.toInt := by
    rw [Int64.toInt_neg, Int.bmod_eq_of_le (by omega) (by omega)]
  rw [Timestamp.minus, toInt_timeAdd]
  show clampInt64 (_ + (-delta.nanos).toInt) = _
  rw [hneg, sub_eq_add_neg]

/-- **Time arithmetic is exact and clamped**, except where the least span is taken off an instant. -/
theorem timeOp_clamps_iff (op : TimeOp) : op.Clamps ↔ ∀ base, op ≠ .minus base ⟨int64Min⟩ := by
  cases op with
  | plus base delta =>
    refine iff_of_true ⟨?_, toInt_timeAdd base delta⟩ fun _ h => by cases h
    rw [TimeOp.defined, Defined.timeAdd_eq]
    rfl
  | add base delta =>
    refine iff_of_true ⟨?_, toInt_timeAdd base delta⟩ fun _ h => by cases h
    rw [TimeOp.defined, Defined.timeAdd_eq]
    rfl
  | since later earlier =>
    refine iff_of_true ⟨?_, toInt_timeDifference later earlier⟩ fun _ h => by cases h
    rw [TimeOp.defined, Defined.timeDifference_eq]
    rfl
  | difference later earlier =>
    refine iff_of_true ⟨?_, toInt_timeDifference later earlier⟩ fun _ h => by cases h
    rw [TimeOp.defined, Defined.timeDifference_eq]
    rfl
  | minus base delta =>
    have hcond : (∀ base', TimeOp.minus base delta ≠ .minus base' ⟨int64Min⟩) ↔ delta ≠ ⟨int64Min⟩ := by
      refine ⟨fun h heq => h base (by rw [heq]), fun h base' heq => ?_⟩
      injection heq with _ hdelta
      exact h hdelta
    rw [hcond]
    constructor
    · rintro ⟨hdefined, -⟩ heq
      subst heq
      cases hdefined
    · intro h
      refine ⟨?_, toInt_minus h base⟩
      rw [TimeOp.defined, Defined.minus_eq_some_iff.2 h]
      rfl

/-- The least span, taken off the epoch: the negation is undefined, and where it wraps the answer is the earliest
instant instead of the latest. -/
theorem minus_least_span : (¬ ∀ op : TimeOp, op.Clamps) ∧ (TimeOp.minus ⟨0⟩ ⟨int64Min⟩).defined = none ∧
    (TimeOp.minus ⟨0⟩ ⟨int64Min⟩).value = int64Min ∧ clampInt64 (TimeOp.minus ⟨0⟩ ⟨int64Min⟩).exact = 2 ^ 63 - 1 := by
  have hnone : (TimeOp.minus ⟨0⟩ ⟨int64Min⟩).defined = none := rfl
  refine ⟨fun h => ?_, hnone, by decide, by decide⟩
  exact absurd (hnone.symm.trans (h (.minus ⟨0⟩ ⟨int64Min⟩)).1) (by simp)

end FlowObs
