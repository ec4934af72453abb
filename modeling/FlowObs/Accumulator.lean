import FlowObs.Counters
import FlowObs.Lib.Intervals

/-!
# What an accumulator accumulates

A sequence of calls of an accumulator is a list of readings with gaps: `some value` is `observe value`, `none` is
`start_new_interval` without a baseline. One call moves the exact sum by what the policy consumes of it
(`Tallies.observe`), and the accumulated value is that sum clamped to 64 bits (`accumulates_exactly`).
-/

namespace FlowObs

namespace CounterAccumulator

/-- A call: `observe` of a value, or `start_new_interval` without a baseline. -/
def call (treatRegressionAsReset : Bool) (a : CounterAccumulator) : Option UInt64 → CounterAccumulator
  | some value => (a.observe value treatRegressionAsReset).1
  | none => a.startNewInterval none

/-- The accumulator after a sequence of calls. -/
def calls (treatRegressionAsReset : Bool) (a : CounterAccumulator) (l : List (Option UInt64)) : CounterAccumulator :=
  l.foldl (call treatRegressionAsReset) a

/-- The readings of a sequence of calls as numbers. -/
def readings (l : List (Option UInt64)) : List (Option Nat) := l.map (·.map UInt64.toNat)

@[simp] theorem readings_nil : readings [] = [] := rfl
@[simp] theorem readings_none (l : List (Option UInt64)) : readings (none :: l) = none :: readings l := rfl
@[simp] theorem readings_some (value : UInt64) (l : List (Option UInt64)) :
    readings (some value :: l) = some value.toNat :: readings l := rfl
@[simp] theorem readings_append (l l' : List (Option UInt64)) : readings (l ++ l') = readings l ++ readings l' := by
  simp [readings]

/-- The accumulated value is the exact sum clamped to 64 bits, and the saturated flag says whether it was. -/
structure Tallies (a : CounterAccumulator) (exact : Nat) : Prop where
  accumulated : a.accumulated.toNat = min (2 ^ 64 - 1) exact
  saturated : a.saturated = true ↔ 2 ^ 64 - 1 < exact

/-- A baseline is known when a last reading is. -/
def Paired (a : CounterAccumulator) : Prop := a.baseline.isSome = a.last.isSome

/-! ## One call -/

section Observe

variable {a : CounterAccumulator} {value previous : UInt64} (restart : Bool)

theorem Paired.baseline (h : a.Paired) (hlast : a.last = some previous) : ∃ base, a.baseline = some base := by
  rw [← Option.isSome_iff_exists, h, hlast]
  rfl

/-- The first reading of an interval. -/
theorem observe_first (h : a.Paired) (hlast : a.last = none) :
    (a.observe value restart).1 = { a with baseline := some value, last := some value } := by
  have hbaseline : a.baseline = none := by simpa [Paired, hlast] using h
  simp [observe, hbaseline]

/-- A sum that stays within 64 bits is added to, and one that leaves them is clamped. -/
theorem Tallies.checkedAdd {exact : Nat} (h : a.Tallies exact) (delta : UInt64) (hdelta : 0 < delta.toNat) :
    let sum := FlowObs.checkedAdd a.accumulated delta
    Tallies { a with accumulated := if sum.overflow then 0xFFFFFFFFFFFFFFFF else sum.value
                     saturated := if sum.overflow then true else a.saturated } (exact + delta.toNat) := by
  intro sum
  obtain ⟨hsum, hflag⟩ := h
  have hlt := delta.toNat_lt
  have hroom : (0xFFFFFFFFFFFFFFFF - delta).toNat = 2 ^ 64 - 1 - delta.toNat := by
    rw [UInt64.toNat_sub_of_le]
    · rfl
    · rw [UInt64.le_iff_toNat_le]
      exact Nat.le_of_lt_succ hlt
  by_cases hover : a.accumulated > 0xFFFFFFFFFFFFFFFF - delta
  · have hover' : 2 ^ 64 - 1 - delta.toNat < a.accumulated.toNat := by
      rw [← hroom]
      exact UInt64.lt_iff_toNat_lt.1 hover
    simp only [sum, FlowObs.checkedAdd, if_pos hover, if_true]
    constructor
    · show 2 ^ 64 - 1 = _
      omega
    · simp only [true_iff]
      omega
  · have hfits : a.accumulated.toNat ≤ 2 ^ 64 - 1 - delta.toNat := by
      rw [← hroom]
      exact UInt64.le_iff_toNat_le.1 (UInt64.not_lt.1 hover)
    have hadd : (a.accumulated + delta).toNat = a.accumulated.toNat + delta.toNat := by
      rw [UInt64.toNat_add, Nat.mod_eq_of_lt (by omega)]
    simp only [sum, FlowObs.checkedAdd, if_neg hover, checkedOk, Bool.false_eq_true, if_false]
    constructor
    · show (a.accumulated + delta).toNat = _
      omega
    · show a.saturated = true ↔ _
      rw [hflag]
      omega

/-- A reading above the last one adds the difference. -/
theorem observe_rise (h : a.Paired) (hlast : a.last = some previous) (hrise : previous < value) :
    let a' := (a.observe value restart).1
    a'.Paired ∧ a'.last = some value ∧ a'.unknownIntervals = a.unknownIntervals ∧
      ∀ exact, a.Tallies exact → a'.Tallies (exact + (value.toNat - previous.toNat)) := by
  obtain ⟨base, hbaseline⟩ := h.baseline hlast
  intro a'
  have hlt : previous.toNat < value.toNat := UInt64.lt_iff_toNat_lt.1 hrise
  have hdelta : (value - previous).toNat = value.toNat - previous.toNat :=
    UInt64.toNat_sub_of_le _ _ (UInt64.le_iff_toNat_le.2 (by omega))
  have hnew : a' = { a with
      last := some value
      accumulated := if (checkedAdd a.accumulated (value - previous)).overflow then 0xFFFFFFFFFFFFFFFF
        else (checkedAdd a.accumulated (value - previous)).value
      saturated := if (checkedAdd a.accumulated (value - previous)).overflow then true else a.saturated } := by
    simp only [a', observe, hbaseline, hlast, Option.getD_some, Option.isNone_some, Bool.false_eq_true, if_false,
      if_pos hrise]
    split <;> simp
  rw [hnew]
  refine ⟨by simp [Paired, hbaseline], rfl, rfl, fun exact hexact => ?_⟩
  rw [← hdelta]
  obtain ⟨hsum, hflag⟩ := hexact.checkedAdd (value - previous) (by omega)
  exact ⟨hsum, hflag⟩

/-- A reading below the last one restarts the counter and leaves an interval unknown, or is held. -/
theorem observe_fall (h : a.Paired) (hlast : a.last = some previous) (hfall : value < previous) :
    let a' := (a.observe value restart).1
    a'.Paired ∧ a'.last = some (if restart then value else previous) ∧
      a'.unknownIntervals = a.unknownIntervals + (if restart then 1 else 0) ∧
      ∀ exact, a.Tallies exact → a'.Tallies exact := by
  obtain ⟨base, hbaseline⟩ := h.baseline hlast
  have hrise : ¬ previous < value := by grind
  have hne : value ≠ previous := by grind
  cases restart with
  | true =>
    simp only [observe, hbaseline, hlast, Option.getD_some, Option.isNone_some, if_neg hrise, if_neg hne]
    exact ⟨rfl, rfl, rfl, fun _ hexact => ⟨hexact.1, hexact.2⟩⟩
  | false =>
    simp only [observe, hbaseline, hlast, Option.getD_some, Option.isNone_some, if_neg hrise, if_neg hne]
    exact ⟨by simp [Paired], rfl, by simp, fun _ hexact => ⟨hexact.1, hexact.2⟩⟩

/-- The last reading again changes nothing. -/
theorem observe_same (h : a.Paired) (hlast : a.last = some value) : (a.observe value restart).1 = a := by
  obtain ⟨base, hbaseline⟩ := h.baseline hlast
  simp [observe, hbaseline, hlast]

/-- **A later reading**: what it does to the last reading, the unknown intervals and the sum. -/
theorem observe_later (value : UInt64) (h : a.Paired) (hlast : a.last = some previous) :
    let a' := (a.observe value restart).1
    a'.Paired ∧ a'.last = some (if restart || previous < value then value else previous) ∧
      a'.unknownIntervals = a.unknownIntervals + (if restart && value < previous then 1 else 0) ∧
      ∀ exact, a.Tallies exact → a'.Tallies (exact + (value.toNat - previous.toNat)) := by
  intro a'
  by_cases hrise : previous < value
  · have hfall : ¬ value < previous := by grind
    obtain ⟨hpaired, hlast', hunknown, htallies⟩ := observe_rise restart h hlast hrise
    exact ⟨hpaired, by simpa [hrise] using hlast', by simpa [hfall] using hunknown, htallies⟩
  · have hzero : value.toNat - previous.toNat = 0 := by
      have hnot := mt UInt64.lt_iff_toNat_lt.2 hrise
      omega
    rw [hzero]
    by_cases hfall : value < previous
    · obtain ⟨hpaired, hlast', hunknown, htallies⟩ := observe_fall restart h hlast hfall
      exact ⟨hpaired, by simpa [hrise] using hlast', by simpa [hfall] using hunknown, htallies⟩
    · obtain rfl : value = previous := by grind
      have hsame : a' = a := observe_same restart h hlast
      rw [hsame]
      exact ⟨h, by simp [hlast], by simp, fun _ hexact => hexact⟩

end Observe

/-! ## A sequence of calls -/

/-- **What a sequence of calls adds**, after a last reading that is still in the open interval. -/
theorem calls_tallies (restart : Bool) (l : List (Option UInt64)) {a : CounterAccumulator} (exact : Nat) (h : a.Paired)
    (hexact : a.Tallies exact) :
    let past := readings (a.last.toList.map some ++ l)
    (a.calls restart l).Paired ∧ (a.calls restart l).Tallies (exact + consumed restart past) ∧
      (a.calls restart l).unknownIntervals = a.unknownIntervals + UInt64.ofNat (unknowns restart past) := by
  induction l generalizing a exact with
  | nil =>
    cases hlast : a.last <;> simp [calls, h, hexact]
  | cons o l ih =>
    have hnext : a.calls restart (o :: l) = (a.call restart o).calls restart l := rfl
    rw [hnext]
    cases o with
    | some value =>
      cases hlast : a.last with
      | none =>
        have hfirst : a.call restart (some value) = { a with baseline := some value, last := some value } :=
          observe_first restart h hlast
        have hnew : (a.call restart (some value)).Tallies exact := by
          rw [hfirst]
          exact ⟨hexact.1, hexact.2⟩
        have hpaired : (a.call restart (some value)).Paired := by rw [hfirst]; rfl
        have hdone := ih exact hpaired hnew
        rw [hfirst] at hdone ⊢
        simpa using hdone
      | some previous =>
        obtain ⟨hpaired, hlast', hunknown, htallies⟩ := observe_later restart value h hlast
        obtain ⟨hpaired', hsum, hcount⟩ := ih _ hpaired (htallies exact hexact)
        have hkept : (if restart || previous < value then value else previous).toNat
            = if restart then value.toNat else max previous.toNat value.toNat := by
          cases restart with
          | true => rfl
          | false =>
            simp only [Bool.false_or, decide_eq_true_eq, UInt64.lt_iff_toNat_lt, Bool.false_eq_true, if_false]
            split <;> omega
        have hfall : (value < previous) ↔ (value.toNat < previous.toNat) := UInt64.lt_iff_toNat_lt
        refine ⟨hpaired', ?_, ?_⟩
        · simp only [hlast', Option.toList_some, List.map_cons, List.map_nil, List.cons_append, List.nil_append,
            readings_some, hkept] at hsum
          simpa [call, consumed_some_some, Nat.add_assoc] using hsum
        · simp only [hlast', Option.toList_some, List.map_cons, List.map_nil, List.cons_append, List.nil_append,
            readings_some, hkept] at hcount
          rw [hunknown] at hcount
          refine hcount.trans ?_
          simp only [Option.toList_some, List.map_cons, List.map_nil, List.cons_append, List.nil_append, readings_some,
            unknowns_some_some, UInt64.ofNat_add, hfall, UInt64.add_assoc]
          congr 2
          split <;> rfl
    | none =>
      have hnew : (a.call restart none).Tallies exact := ⟨hexact.1, hexact.2⟩
      obtain ⟨hpaired, hsum, hcount⟩ := ih (a := a.call restart none) exact rfl hnew
      have hlast' : (a.call restart none).last = none := rfl
      have hunknown : (a.call restart none).unknownIntervals
          = if a.last.isSome then a.unknownIntervals + 1 else a.unknownIntervals := rfl
      rw [hlast'] at hsum hcount
      rw [hunknown] at hcount
      refine ⟨hpaired, ?_, ?_⟩
      · cases hlast : a.last <;> simpa [consumed_some_none] using hsum
      · cases hlast : a.last with
        | none => simpa [hlast] using hcount
        | some previous => simpa [hlast, unknowns_some_none, UInt64.ofNat_add, UInt64.add_assoc] using hcount

/-- **An accumulator is exact.** After any calls, the accumulated value is what the policy consumes over all
intervals, clamped to 64 bits, the saturated flag says whether it was clamped, and each interval that ended after a
reading is counted as unknown, with each regression that restarts the counter. The count is itself one of 64 bits. -/
theorem accumulates_exactly (treatRegressionAsReset : Bool) (l : List (Option UInt64)) :
    let a : CounterAccumulator := ({} : CounterAccumulator).calls treatRegressionAsReset l
    let spans := intervals (readings l)
    let exact := (spans.map (if treatRegressionAsReset then rises else climb)).sum
    let regressions := if treatRegressionAsReset then (spans.map falls).sum else 0
    let breaks := (spans.dropLast.filter (fun i => !i.isEmpty)).length
    a.accumulated.toNat = min (2 ^ 64 - 1) exact ∧ (a.saturated = true ↔ 2 ^ 64 - 1 < exact) ∧
      a.unknownIntervals = UInt64.ofNat (breaks + regressions) ∧
      (l.length < 2 ^ 64 → a.unknownIntervals.toNat = breaks + regressions) := by
  obtain ⟨-, ⟨hsum, hflag⟩, hcount⟩ := calls_tallies treatRegressionAsReset l (a := {}) 0 rfl ⟨rfl, by simp⟩
  simp only [Option.toList_none, List.map_nil, List.nil_append, Nat.zero_add] at hsum hflag hcount
  have hcount' : (({} : CounterAccumulator).calls treatRegressionAsReset l).unknownIntervals
      = UInt64.ofNat (unknowns treatRegressionAsReset (readings l)) := by simpa using hcount
  refine ⟨hsum, hflag, hcount', fun hfew => ?_⟩
  have hle := unknowns_le_length treatRegressionAsReset (readings l)
  have hlength : (readings l).length = l.length := List.length_map _
  rw [hcount', UInt64.toNat_ofNat', Nat.mod_eq_of_lt (by omega)]
  rfl

/-- Two intervals under the reset policy: the second rises past 64 bits, after a regression. -/
example : let a := ({} : CounterAccumulator).calls true [some 10, some 25, none, some 7, some 5, some 0xFFFFFFFFFFFFFFFF]
    (a.accumulated, a.unknownIntervals, a.saturated) = (0xFFFFFFFFFFFFFFFF, 2, true) := by decide

end CounterAccumulator

end FlowObs
