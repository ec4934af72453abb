import FlowObs.Engine.Export
import FlowObs.Conflict
import FlowObs.Freshness

/-!
# When a throughput is exact

`compute_throughput` multiplies a count by 10¹² before it divides by the duration, and the product is checked, not the
quotient: a count above 18446744 is reported as saturated whatever the quotient is. `rate_eq` says what is reported of
one counter, and `throughput_exact_iff` for which counts and durations both are exact.
-/

namespace FlowObs

/-- The rate of a counter over exact integers, in thousandths of a unit for each second. -/
def exactRate (count : UInt64) (duration : Nat) : Nat := count.toNat * 10 ^ 12 / duration

/-- The span between two instants, as long as a duration can be. -/
def spanNanos (first last : Timestamp) : Nat := (min (last.nanos.toInt - first.nanos.toInt) (2 ^ 63 - 1)).toNat

/-- A throughput is exact: a rate that fits is reported, and saturation only where one of the two does not fit. -/
structure Throughput.Exact (t : Throughput) (c : Consumption) (duration : Nat) : Prop where
  bytes : exactRate c.bytes duration < 2 ^ 64 → t.bytesPerSecondMilli.toNat = exactRate c.bytes duration
  packets : exactRate c.packets duration < 2 ^ 64 → t.packetsPerSecondMilli.toNat = exactRate c.packets duration
  saturated : t.saturated = true → 2 ^ 64 ≤ exactRate c.bytes duration ∨ 2 ^ 64 ≤ exactRate c.packets duration

/-! ## One counter -/

theorem toNat_billion_thousands : (1000000000000 : UInt64).toNat = 10 ^ 12 := rfl

/-- The saturated answer of `checked_mul_div`. -/
theorem checkedMulDiv_saturated {value num den : UInt64} (hden : den ≠ 0)
    (h : 2 ^ 64 ≤ value.toNat * num.toNat) : (checkedMulDiv value num den).value.toNat = 2 ^ 64 - 1 := by
  have hover := checkedMul_overflow.2 h
  unfold checkedMulDiv
  rw [if_neg hden, if_pos hover]
  unfold checkedMul at hover ⊢
  by_cases hzero : value = 0 ∨ num = 0
  · rw [if_pos hzero] at hover
    cases hover
  · rw [if_neg hzero] at hover ⊢
    by_cases hgt : value > 0xFFFFFFFFFFFFFFFF / num
    · rw [if_pos hgt]
      rfl
    · rw [if_neg hgt] at hover
      cases hover

/-- What is reported of a count: its rate, or the largest value and a flag once the product does not fit. -/
theorem rate_eq (count duration : UInt64) (hduration : duration ≠ 0) :
    (checkedMulDiv count 1000000000000 duration).value.toNat
        = (if count.toNat * 10 ^ 12 < 2 ^ 64 then exactRate count duration.toNat else 2 ^ 64 - 1) ∧
      ((checkedMulDiv count 1000000000000 duration).overflow = true ↔ 2 ^ 64 ≤ count.toNat * 10 ^ 12) := by
  have hover := @checkedMulDiv_overflow count 1000000000000 duration hduration
  rw [toNat_billion_thousands] at hover
  refine ⟨?_, hover⟩
  by_cases hfits : count.toNat * 10 ^ 12 < 2 ^ 64
  · rw [if_pos hfits]
    exact checkedMulDiv_value hduration hfits
  · rw [if_neg hfits]
    exact checkedMulDiv_saturated hduration (Nat.le_of_not_lt hfits)

/-- A rate does not exceed the product that is checked. -/
theorem exactRate_le (count : UInt64) (duration : Nat) : exactRate count duration ≤ count.toNat * 10 ^ 12 :=
  Nat.div_le_self _ _

/-! ## Both counters -/

/-- What `compute_throughput` computes of two known instants in order. -/
theorem computeThroughput_eq {first last : Timestamp} (hfirst : first.known = true) (hlast : last.known = true)
    (h : first < last) (c : Consumption) : ∃ duration : UInt64, duration ≠ 0 ∧ duration.toNat = spanNanos first last ∧
      computeThroughput first last c =
        { durationKnown := true, durationNanos := duration
          bytesPerSecondMilli := (checkedMulDiv c.bytes 1000000000000 duration).value
          packetsPerSecondMilli := (checkedMulDiv c.packets 1000000000000 duration).value
          saturated := (checkedMulDiv c.bytes 1000000000000 duration).overflow
            || (checkedMulDiv c.packets 1000000000000 duration).overflow } := by
  have hspan : (timeDifference last first).nanos.toInt = spanNanos first last := by
    rw [toInt_timeDifference]
    rw [Timestamp.lt_def] at h
    unfold clampInt64 spanNanos
    omega
  have hpos : 0 < spanNanos first last := by
    rw [Timestamp.lt_def] at h
    unfold spanNanos
    omega
  have hnat : ((timeDifference last first).nanos.toUInt64.toNat : ℤ) = (timeDifference last first).nanos.toInt :=
    toNat_toUInt64 (by omega)
  have hzero : (0 : UInt64).toNat = 0 := rfl
  refine ⟨(timeDifference last first).nanos.toUInt64, ?_, by omega, ?_⟩
  · intro hz
    rw [hz, hzero] at hnat
    omega
  · have hlt : ¬ timeDifference last first ≤ Duration.zero := by
      rw [Duration.le_def]
      show ¬ _ ≤ (0 : ℤ)
      omega
    unfold computeThroughput
    rw [if_neg (by simp [hfirst, hlast, not_le.2 h]), if_neg hlt]

/-- When a throughput is exact: both products fit, or a quotient does not and each product that does not fit comes to
the largest value or more. -/
def RatesFit (c : Consumption) (duration : Nat) : Prop :=
  (c.bytes.toNat * 10 ^ 12 < 2 ^ 64 ∧ c.packets.toNat * 10 ^ 12 < 2 ^ 64) ∨
    ((2 ^ 64 ≤ exactRate c.bytes duration ∨ 2 ^ 64 ≤ exactRate c.packets duration) ∧
      (2 ^ 64 ≤ c.bytes.toNat * 10 ^ 12 → 2 ^ 64 - 1 ≤ exactRate c.bytes duration) ∧
      (2 ^ 64 ≤ c.packets.toNat * 10 ^ 12 → 2 ^ 64 - 1 ≤ exactRate c.packets duration))

/-- **A throughput is exact for the counts whose products fit, or whose quotients do not.** -/
theorem throughput_exact_iff {first last : Timestamp} (hfirst : first.known = true) (hlast : last.known = true)
    (h : first < last) (c : Consumption) :
    (computeThroughput first last c).durationNanos.toNat = spanNanos first last ∧
      ((computeThroughput first last c).Exact c (spanNanos first last) ↔ RatesFit c (spanNanos first last)) := by
  obtain ⟨duration, hduration, hspan, heq⟩ := computeThroughput_eq hfirst hlast h c
  rw [heq, ← hspan]
  obtain ⟨hbytes, hbytesOver⟩ := rate_eq c.bytes duration hduration
  obtain ⟨hpackets, hpacketsOver⟩ := rate_eq c.packets duration hduration
  have hb := exactRate_le c.bytes duration.toNat
  have hp := exactRate_le c.packets duration.toNat
  have hsaturated : ((checkedMulDiv c.bytes 1000000000000 duration).overflow
      || (checkedMulDiv c.packets 1000000000000 duration).overflow) = true ↔
      2 ^ 64 ≤ c.bytes.toNat * 10 ^ 12 ∨ 2 ^ 64 ≤ c.packets.toNat * 10 ^ 12 := by
    rw [Bool.or_eq_true, hbytesOver, hpacketsOver]
  refine ⟨rfl, ?_⟩
  constructor
  · rintro ⟨hexactB, hexactP, hsat⟩
    simp only [hbytes, hpackets, hsaturated] at hexactB hexactP hsat
    unfold RatesFit
    split at hexactB <;> split at hexactP <;> omega
  · intro hfit
    unfold RatesFit at hfit
    refine ⟨?_, ?_, ?_⟩
    · simp only [hbytes]
      split <;> omega
    · simp only [hpackets]
      split <;> omega
    · simp only [hsaturated]
      omega

/-- Three megabytes a second for three seconds are within reach. -/
theorem throughput_exact_slow :
    (computeThroughput ⟨1000000000⟩ ⟨4000000000⟩ { bytes := 9000000, packets := 9000 }).Exact
    { bytes := 9000000, packets := 9000 } 3000000000 :=
  (throughput_exact_iff (by decide) (by decide) (by decide) _).2.2 (.inl (by decide))

/-- Nineteen megabytes in a second are reported as the largest value, and as saturated. -/
theorem throughput_saturates_early : ¬ (computeThroughput ⟨1000000000⟩ ⟨2000000000⟩ { bytes := 19000000 }).Exact
    { bytes := 19000000 } 1000000000 :=
  fun h => absurd (h.bytes (by decide)) (by decide)

end FlowObs
