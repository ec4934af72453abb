import FlowObs.Calendar
import FlowObs.Conflict
import FlowObs.Freshness
import Mathlib.Data.List.TakeWhile

/-!
# The text of an instant and back

A `Stamp` is the numbers in a text with nine fraction digits, within the ranges that `parse_timestamp` checks one by
one. The texts of this layout that it takes are those of stamps (`exists_stamp`), and every text that
`format_timestamp` writes is one (`format_eq_iff`). What is read back from a text is then arithmetic on its stamp:
`instantOf_eq_some`, `days_of_date`.
-/

namespace FlowObs

open Civil Decimal

/-! ## The seconds of an instant -/

theorem signedFrom_overflow {negative : Bool} {magnitude : UInt64} :
    (signedFrom negative magnitude).overflow = true ↔ (if negative then 2 ^ 63 else 2 ^ 63 - 1) < magnitude.toNat := by
  have htop : (0x8000000000000000 : UInt64).toNat = 2 ^ 63 := rfl
  have hmax : (0x7FFFFFFFFFFFFFFF : UInt64).toNat = 2 ^ 63 - 1 := rfl
  unfold signedFrom
  cases negative with
  | true =>
    simp only [if_true, gt_iff_lt, UInt64.lt_iff_toNat_lt, htop, ← UInt64.toNat_inj]
    split
    · simp_all
    · split <;> simp_all
  | false =>
    simp only [Bool.false_eq_true, if_false, gt_iff_lt, UInt64.lt_iff_toNat_lt, hmax]
    split <;> simp_all

theorem checkedAddSigned_value (a b : Int64) : (checkedAddSigned a b).value.toInt = clampInt64 (a.toInt + b.toInt) := by
  rw [← signedValue_magnitude a, ← signedValue_magnitude b]
  exact (addMagnitudes_saturates _ _ _ _).value

/-- The signed operations report exactly the sums that do not fit. -/
theorem addMagnitudes_overflow (na nb : Bool) (a b : UInt64) : (addMagnitudes na nb a b).overflow = true ↔
    signedValue na a.toNat + signedValue nb b.toNat < -2 ^ 63 ∨
    2 ^ 63 ≤ signedValue na a.toNat + signedValue nb b.toNat := by
  have ha := a.toNat_lt
  have hb := b.toNat_lt
  unfold addMagnitudes
  by_cases hsign : na = nb
  · subst hsign
    rw [if_pos rfl]
    rcases checkedAdd_cases a b with ⟨hover, hbig⟩ | ⟨hfits, hsum⟩
    · rw [if_pos hover]
      cases na <;> simp <;> omega
    · rw [if_neg (by rw [hfits]; exact Bool.false_ne_true), signedFrom_overflow, hsum]
      cases na <;> simp <;> omega
  · rw [if_neg hsign]
    split <;> rename_i hle <;> rw [ge_iff_le, UInt64.le_iff_toNat_le] at hle
    · rw [signedFrom_overflow, UInt64.toNat_sub_of_le _ _ (UInt64.le_iff_toNat_le.2 hle)]
      cases na <;> cases nb <;> simp_all <;> omega
    · rw [signedFrom_overflow, UInt64.toNat_sub_of_le _ _ (UInt64.le_iff_toNat_le.2 (by omega))]
      cases na <;> cases nb <;> simp_all <;> omega

/-- `checked_add_signed` reports exactly the sums that do not fit. -/
theorem checkedAddSigned_overflow (a b : Int64) :
    (checkedAddSigned a b).overflow = true ↔ a.toInt + b.toInt < -2 ^ 63 ∨ 2 ^ 63 ≤ a.toInt + b.toInt := by
  rw [← signedValue_magnitude a, ← signedValue_magnitude b]
  exact addMagnitudes_overflow _ _ _ _

/-- The 64-bit pattern of the whole seconds. -/
theorem toInt_wrapped {m : UInt64} (h : 2 ^ 63 ≤ m.toNat) : m.toInt64.toInt = m.toNat - 2 ^ 64 := by
  have hcond := BitVec.toInt_eq_toNat_cond m.toBitVec
  have hval : m.toNat = m.toBitVec.toNat := rfl
  have hint : m.toInt64.toInt = m.toBitVec.toInt := rfl
  rw [if_neg (by omega)] at hcond
  omega

/-- **The instant of whole seconds and a fraction**: seconds before 1970 have none, and from 2^63 nanoseconds on the
instant is one before 1970. -/
theorem instantOf_eq_some {e : Int} {f : Nat} {t : Timestamp} (he : -2 ^ 62 ≤ e ∧ e < 2 ^ 62) (hf : f < 10 ^ 9) :
    instantOf e f = some t ↔ 0 ≤ e ∧ (e * 10 ^ 9 + f < 2 ^ 63 ∧ t.nanos.toInt = e * 10 ^ 9 + f ∨
      2 ^ 63 ≤ e * 10 ^ 9 ∧ e * 10 ^ 9 < 2 ^ 64 ∧ t.nanos.toInt = e * 10 ^ 9 + f - 2 ^ 64) := by
  have hbillion : (1000000000 : UInt64).toNat = 10 ^ 9 := rfl
  have hint : (Int64.ofInt e).toInt = e := Int64.toInt_ofInt_of_le (by omega) (by omega)
  have hfrac : (Int64.ofNat f).toInt = f := Int64.toInt_ofNat_of_lt (by omega)
  unfold instantOf
  by_cases hneg : e < 0
  · -- the cast of negative seconds is so large that the product overflows
    have hcast : ((Int64.ofInt e).toUInt64.toNat : Int) = e + 2 ^ 64 := by
      have hcond := BitVec.toInt_eq_toNat_cond (Int64.ofInt e).toBitVec
      have hval : (Int64.ofInt e).toUInt64.toNat = (Int64.ofInt e).toBitVec.toNat := rfl
      have hbits : (Int64.ofInt e).toInt = (Int64.ofInt e).toBitVec.toInt := rfl
      split at hcond <;> omega
    rw [if_pos (checkedMul_overflow.2 (by rw [hbillion]; omega))]
    simp only [reduceCtorEq, false_iff]
    omega
  · have hcast := toNat_toUInt64 (a := Int64.ofInt e) (by omega)
    rw [hint] at hcast
    by_cases hover : 2 ^ 64 ≤ e * 10 ^ 9
    · rw [if_pos (checkedMul_overflow.2 (by rw [hbillion]; omega))]
      simp only [reduceCtorEq, false_iff]
      omega
    · have hfits : (Int64.ofInt e).toUInt64.toNat * (1000000000 : UInt64).toNat < 2 ^ 64 := by
        rw [hbillion]
        omega
      have hvalue := checkedMul_value hfits
      rw [hbillion] at hvalue
      rw [if_neg (fun h => absurd (checkedMul_overflow.1 h) (by omega))]
      generalize (checkedMul (Int64.ofInt e).toUInt64 1000000000).value = m at *
      have hsum := checkedAddSigned_value m.toInt64 (Int64.ofNat f)
      have hflag := checkedAddSigned_overflow m.toInt64 (Int64.ofNat f)
      have hout : some (Timestamp.mk (checkedAddSigned m.toInt64 (Int64.ofNat f)).value) = some t ↔
          t.nanos.toInt = (checkedAddSigned m.toInt64 (Int64.ofNat f)).value.toInt := by
        rw [Option.some.injEq, Timestamp.ext_iff, Int64.toInt_inj, eq_comm]
      rw [hfrac] at hsum hflag
      by_cases hwrap : 2 ^ 63 ≤ m.toNat
      · rw [toInt_wrapped hwrap] at hsum hflag
        dsimp only
        rw [if_neg (by rw [hflag]; omega), hout, hsum]
        unfold clampInt64
        omega
      · rw [toInt_toInt64 (by omega)] at hsum hflag
        by_cases hend : e * 10 ^ 9 + f < 2 ^ 63
        · dsimp only
          rw [if_neg (by rw [hflag]; omega), hout, hsum]
          unfold clampInt64
          omega
        · dsimp only
          rw [if_pos (by rw [hflag]; omega)]
          simp only [reduceCtorEq, false_iff]
          omega

/-! ## Stamps -/

/-- The numbers in the text of an instant. -/
@[ext] structure Stamp where
  year : Nat
  month : Nat
  day : Nat
  hour : Nat
  minute : Nat
  second : Nat
  frac : Nat
  year_lt : year < 10 ^ 4
  month_range : 1 ≤ month ∧ month ≤ 12
  day_range : 1 ≤ day ∧ day ≤ 31
  hour_le : hour ≤ 23
  minute_le : minute ≤ 59
  second_le : second ≤ 60
  frac_lt : frac < 10 ^ 9
deriving DecidableEq

namespace Stamp

/-- The text of a stamp. -/
def text (s : Stamp) : Str :=
  fixed 4 s.year ++ [45] ++ fixed 2 s.month ++ [45] ++ fixed 2 s.day ++ [84] ++ fixed 2 s.hour ++ [58] ++
  fixed 2 s.minute
    ++ [58] ++ fixed 2 s.second ++ [46] ++ fixed 9 s.frac ++ [90]

/-- The seconds of the day. -/
def seconds (s : Stamp) : Nat := s.hour * 3600 + s.minute * 60 + s.second

section Fields

attribute [local simp] num text

@[simp] theorem length_text (s : Stamp) : s.text.length = 30 := by simp

@[simp] theorem num_year (s : Stamp) : num s.text 0 4 = s.year := by
  simp [value_fixed_of_lt s.year_lt]

@[simp] theorem num_month (s : Stamp) : num s.text 5 2 = s.month := by
  have hm := s.month_range
  have h : value (fixed 2 s.month) = s.month := value_fixed_of_lt (by omega)
  simp [List.drop_append, List.drop_of_length_le, h]

@[simp] theorem num_day (s : Stamp) : num s.text 8 2 = s.day := by
  have hd := s.day_range
  have h : value (fixed 2 s.day) = s.day := value_fixed_of_lt (by omega)
  simp [List.drop_append, List.drop_of_length_le, h]

@[simp] theorem num_hour (s : Stamp) : num s.text 11 2 = s.hour := by
  have hh := s.hour_le
  have h : value (fixed 2 s.hour) = s.hour := value_fixed_of_lt (by omega)
  simp [List.drop_append, List.drop_of_length_le, h]

@[simp] theorem num_minute (s : Stamp) : num s.text 14 2 = s.minute := by
  have hm := s.minute_le
  have h : value (fixed 2 s.minute) = s.minute := value_fixed_of_lt (by omega)
  simp [List.drop_append, List.drop_of_length_le, h]

@[simp] theorem num_second (s : Stamp) : num s.text 17 2 = s.second := by
  have hs := s.second_le
  have h : value (fixed 2 s.second) = s.second := value_fixed_of_lt (by omega)
  simp [List.drop_append, List.drop_of_length_le, h]

@[simp] theorem num_frac (s : Stamp) : num s.text 20 9 = s.frac := by
  simp [List.drop_append, List.drop_of_length_le, value_fixed_of_lt s.frac_lt]

end Fields

/-- A stamp is determined by its text. -/
theorem text_inj {s s' : Stamp} (h : s.text = s'.text) : s = s' := by
  refine Stamp.ext ?_ ?_ ?_ ?_ ?_ ?_ ?_
  · rw [← s.num_year, h, s'.num_year]
  · rw [← s.num_month, h, s'.num_month]
  · rw [← s.num_day, h, s'.num_day]
  · rw [← s.num_hour, h, s'.num_hour]
  · rw [← s.num_minute, h, s'.num_minute]
  · rw [← s.num_second, h, s'.num_second]
  · rw [← s.num_frac, h, s'.num_frac]

theorem parseFraction_text (s : Stamp) : parseFraction (s.text.drop 19) = some (s.frac, [90]) := by
  have hdrop : s.text.drop 19 = 46 :: (fixed 9 s.frac ++ [90]) := by
    simp [text, List.drop_append, List.drop_of_length_le]
  have hend : isDigit 90 = false := by decide
  have htake : (fixed 9 s.frac ++ [90]).takeWhile isDigit = fixed 9 s.frac := by
    rw [List.takeWhile_append_of_pos isDigit_fixed, List.takeWhile_cons, hend]
    simp
  have hrest : (fixed 9 s.frac ++ [90]).dropWhile isDigit = [90] := by
    rw [List.dropWhile_append_of_pos isDigit_fixed, List.dropWhile_cons, hend]
    rfl
  rw [hdrop, parseFraction, htake, hrest, length_fixed]
  simp [value_fixed_of_lt s.frac_lt]

/-- **The text of a stamp is read as its numbers.** -/
theorem parse_text (s : Stamp) :
    parseTimestamp s.text = instantOf (daysFromCivil s.year s.month s.day * 86400 + s.seconds) s.frac := by
  have hdigits : [0, 1, 2, 3, 5, 6, 8, 9, 11, 12, 14, 15, 17, 18].all (fun i => isDigit (s.text.getD i 0)) = true := by
    have hdigit {w n i : Nat} (h : i < (fixed w n).length) : isDigit (fixed w n)[i] = true :=
      isDigit_fixed _ (List.getElem_mem h)
    simp [text, hdigit]
  have hmarks : ¬ (s.text.getD 4 0 ≠ 45 ∨ s.text.getD 7 0 ≠ 45 ∨ s.text.getD 10 0 ≠ 84 ∨ s.text.getD 13 0 ≠ 58 ∨
      s.text.getD 16 0 ≠ 58) := by
    simp [text]
  have hranges : ¬ (s.month < 1 ∨ 12 < s.month ∨ s.day < 1 ∨ 31 < s.day ∨ 23 < s.hour ∨ 59 < s.minute ∨
      60 < s.second) := by
    have := s.month_range
    have := s.day_range
    have := s.hour_le
    have := s.minute_le
    have := s.second_le
    omega
  unfold parseTimestamp
  rw [if_neg (by rw [length_text]; omega), if_neg (not_not.2 hdigits), if_neg hmarks]
  simp only [num_year, num_month, num_day, num_hour, num_minute, num_second, parseFraction_text]
  rw [if_neg hranges, if_neg (by simp)]
  simp [seconds]

end Stamp

/-! ## The texts of instants -/

/-- Digits of a text are those of the number they spell. -/
theorem slice_eq {text : Str} (i k : Nat) (h : i + k ≤ text.length)
    (hdigit : ∀ j, j < k → isDigit (text.getD (i + j) 0) = true) :
    text.drop i = fixed k (num text i k) ++ text.drop (i + k) ∧ num text i k < 10 ^ k := by
  have hlen : ((text.drop i).take k).length = k := by
    simp
    omega
  have hall : ∀ c ∈ (text.drop i).take k, isDigit c = true := by
    intro c hc
    obtain ⟨j, hj, rfl⟩ := List.getElem_of_mem hc
    rw [hlen] at hj
    have hd := hdigit j hj
    rw [List.getD_eq_getElem?_getD, List.getElem?_eq_getElem (by omega)] at hd
    simpa using hd
  have hfixed := fixed_value hall
  have hlt := value_lt hall
  rw [hlen] at hfixed hlt
  rw [num, hfixed, ← List.drop_drop, List.take_append_drop]
  exact ⟨rfl, hlt⟩

/-- A mark between the numbers of a text. -/
theorem mark_eq {text : Str} {i : Nat} {c : UInt8} (h : i < text.length) (hc : text.getD i 0 = c) :
    text.drop i = [c] ++ text.drop (i + 1) := by
  rw [List.getD_eq_getElem?_getD, List.getElem?_eq_getElem h] at hc
  rw [List.drop_eq_getElem_cons h, ← hc]
  rfl

theorem parseFraction_eq {text rest : Str} {frac : Nat} (h : parseFraction text = some (frac, rest))
    (hrest : rest = [90])
    (hlen : text.length = 11) : text = [46] ++ fixed 9 frac ++ [90] ∧ frac < 10 ^ 9 := by
  unfold parseFraction at h
  split at h
  · rename_i rest'
    dsimp only at h
    split at h
    · simp at h
    · rename_i hcount
      simp only [Option.some.injEq, Prod.mk.injEq] at h
      obtain ⟨hfrac, hafter⟩ := h
      have hsplit := List.takeWhile_append_dropWhile (p := isDigit) (l := rest')
      rw [hafter, hrest] at hsplit
      have hnine : (rest'.takeWhile isDigit).length = 9 := by
        have := congrArg List.length hsplit
        simp at this hlen
        omega
      have hdigit : ∀ c ∈ rest'.takeWhile isDigit, isDigit c = true := fun c => List.mem_takeWhile_imp
      rw [hnine] at hfrac
      simp at hfrac
      have hfixed := fixed_value hdigit
      have hlt := value_lt hdigit
      rw [hnine, hfrac] at hfixed hlt
      rw [hfixed]
      exact ⟨by simp [hsplit], hlt⟩
  · simp only [Option.some.injEq, Prod.mk.injEq] at h
    rw [h.2, hrest] at hlen
    simp at hlen

/-- **The texts with nine fraction digits that are taken are those of stamps.** -/
theorem exists_stamp {text : Str} {t : Timestamp} (h : parseTimestamp text = some t) (hlen : text.length = 30) :
    ∃ s : Stamp, s.text = text := by
  unfold parseTimestamp at h
  rw [if_neg (by omega)] at h
  by_cases hdigits : [0, 1, 2, 3, 5, 6, 8, 9, 11, 12, 14, 15, 17, 18].all (fun i => isDigit (text.getD i 0)) = true
  · rw [if_neg (not_not.2 hdigits)] at h
    rw [List.all_eq_true] at hdigits
    split at h
    · simp at h
    · rename_i hmarks
      push Not at hmarks
      dsimp only at h
      split at h
      · simp at h
      · rename_i hranges
        split at h
        · simp at h
        · rename_i frac rest hfrac
          split at h
          · simp at h
          · rename_i hrest
            obtain ⟨hend, hlt⟩ := parseFraction_eq hfrac (not_not.1 hrest) (by simp [hlen])
            obtain ⟨hyear, hvalue⟩ := @slice_eq text 0 4 (by omega)
              (fun j hj => hdigits _ (by interval_cases j <;> decide))
            have hpair (i : Nat) (hi : i + 2 ≤ 30) (h0 : isDigit (text.getD i 0) = true)
                (h1 : isDigit (text.getD (i + 1) 0) = true) : text.drop i = fixed 2 (num text i 2) ++
                text.drop (i + 2) :=
              (slice_eq i 2 (by omega) (fun j hj => by interval_cases j <;> assumption)).1
            refine ⟨⟨num text 0 4, num text 5 2, num text 8 2, num text 11 2, num text 14 2,
              num text 17 2, frac, hvalue,
              by omega, by omega, by omega, by omega, by omega, hlt⟩, ?_⟩
            refine Eq.trans ?_ (List.drop_zero (l := text))
            rw [hyear, mark_eq (by omega) hmarks.1, hpair 5 (by omega) (hdigits _ (by decide)) (hdigits _ (by decide)),
              mark_eq (by omega) hmarks.2.1, hpair 8 (by omega) (hdigits _ (by decide)) (hdigits _ (by decide)),
              mark_eq (by omega) hmarks.2.2.1, hpair 11 (by omega) (hdigits _ (by decide)) (hdigits _ (by decide)),
              mark_eq (by omega) hmarks.2.2.2.1, hpair 14 (by omega) (hdigits _ (by decide)) (hdigits _ (by decide)),
              mark_eq (by omega) hmarks.2.2.2.2, hpair 17 (by omega) (hdigits _ (by decide)) (hdigits _ (by decide)),
              hend]
            simp [Stamp.text]
  · rw [if_pos hdigits] at h
    simp at h

/-! ## The text of an instant -/

theorem appendFixed_eq {v : Int} {w : Nat} (hw : 0 < w) (h : 0 ≤ v ∧ v < 10 ^ w) :
    appendFixed v w = fixed w v.toNat := by
  have hlt : v.toNat < 10 ^ w := by
    have hpow : ((10 ^ w : Nat) : Int) = 10 ^ w := by push_cast; rfl
    omega
  have habs : v.natAbs = v.toNat := by omega
  unfold appendFixed
  rw [if_neg (by omega), habs]
  exact pad_digits hw hlt

theorem kNanosPerDay_eq : kNanosPerDay = 86400000000000 := rfl

/-- The days of an instant before 1970 are rounded up. -/
theorem days_eq (n : Int) : n.tdiv kNanosPerDay = n / kNanosPerDay + if n < 0 ∧ n % kNanosPerDay ≠ 0 then 1 else 0 := by
  have hsign : Int.sign 86400000000000 = 1 := rfl
  rw [kNanosPerDay_eq, Int.tdiv_eq_ediv, hsign]
  split <;> split <;> omega

/-- The time of day is not. -/
theorem rem_eq (n : Int) :
    (if n.tmod kNanosPerDay < 0 then n.tmod kNanosPerDay + kNanosPerDay else n.tmod kNanosPerDay) =
    n % kNanosPerDay := by
  have hdays := days_eq n
  have hmod := Int.tmod_add_mul_tdiv n kNanosPerDay
  rw [kNanosPerDay_eq] at *
  split at hdays <;> split <;> omega

namespace Stamp

/-- The numbers that `format_timestamp` finds for an instant: the days round towards 1970, the time of day down. -/
structure Shows (s : Stamp) (t : Timestamp) : Prop where
  date : ∃ c : Date, (c.year = s.year ∧ c.month = s.month ∧ c.day = s.day) ∧
    c.number = t.nanos.toInt.tdiv kNanosPerDay + 719468
  second : s.second ≤ 59
  clock : (s.seconds : Int) * 10 ^ 9 + s.frac = t.nanos.toInt % kNanosPerDay

theorem Shows.unique {s s' : Stamp} {t : Timestamp} (h : s.Shows t) (h' : s'.Shows t) : s = s' := by
  obtain ⟨c, hc, hnum⟩ := h.date
  obtain ⟨c', hc', hnum'⟩ := h'.date
  obtain rfl := Date.eq_of_number (hnum.trans hnum'.symm)
  have hclock := h.clock.trans h'.clock.symm
  have := h.second
  have := h'.second
  have := s.minute_le
  have := s'.minute_le
  have := s.frac_lt
  have := s'.frac_lt
  unfold seconds at hclock
  apply Stamp.ext <;> omega

/-- Every instant is shown by a stamp. -/
theorem exists_shows (t : Timestamp) : ∃ s : Stamp, formatTimestamp t = s.text ∧ s.Shows t := by
  obtain ⟨c, hcivil, hnum⟩ := civilFromDays_eq (t.nanos.toInt.tdiv kNanosPerDay)
  have hbounds := int64_bounds t.nanos
  have hday : 0 ≤ t.nanos.toInt % kNanosPerDay ∧ t.nanos.toInt % kNanosPerDay < kNanosPerDay := by
    rw [kNanosPerDay_eq]
    omega
  have hyear : 0 ≤ c.year ∧ c.year < 10 ^ 4 := by
    have hin := c.in_year
    rw [hnum, days_eq, kNanosPerDay_eq] at hin
    unfold yearStart marchYear at hin
    split at hin <;> split at hin <;> omega
  generalize hr : t.nanos.toInt % kNanosPerDay = rem at *
  rw [kNanosPerDay_eq] at hday
  have hm := c.month_range
  have hd := c.day_range.1
  have hd' := c.day_le
  refine ⟨⟨c.year.toNat, c.month.toNat, c.day.toNat, (rem / 3600000000000).toNat, (rem / 60000000000 % 60).toNat,
    (rem / 1000000000 % 60).toNat,
    (rem % 1000000000).toNat, by omega, by omega, by omega, by omega, by omega, by omega, by omega⟩,
    ?_, ⟨c, by dsimp only; omega, hnum⟩, by dsimp only; omega, by simp only [seconds]; omega⟩
  unfold formatTimestamp
  dsimp only
  rw [rem_eq, hr]
  by_cases hzero : t.nanos.toInt = 0
  · rw [if_pos hzero]
    have hfirst : civilFromDays 0 = (1970, 1, 1) := by decide
    rw [hzero, Int.zero_tdiv, hfirst, Prod.mk.injEq, Prod.mk.injEq] at hcivil
    rw [hzero, Int.zero_emod] at hr
    simp only [Stamp.text, ← hr, ← hcivil.1, ← hcivil.2.1, ← hcivil.2.2]
    with_unfolding_all decide
  · rw [if_neg hzero, hcivil]
    dsimp only
    have hhour : 3600 * kNanosPerSecond = 3600000000000 := rfl
    have hminute : 60 * kNanosPerSecond = 60000000000 := rfl
    have hsecond : kNanosPerSecond = 1000000000 := rfl
    rw [hhour, hminute, hsecond, Int.tdiv_eq_ediv_of_nonneg hday.1, Int.tdiv_eq_ediv_of_nonneg hday.1,
      Int.tdiv_eq_ediv_of_nonneg hday.1, Int.tmod_eq_emod_of_nonneg hday.1, Int.tmod_eq_emod_of_nonneg (by omega),
      Int.tmod_eq_emod_of_nonneg (by omega)]
    rw [appendFixed_eq (by decide) ⟨hyear.1, hyear.2⟩, appendFixed_eq (by decide) ⟨by omega, by omega⟩,
      appendFixed_eq (by decide) ⟨by omega, by omega⟩, appendFixed_eq (by decide) ⟨by omega, by omega⟩,
      appendFixed_eq (by decide) ⟨by omega, by omega⟩, appendFixed_eq (by decide) ⟨by omega, by omega⟩,
      appendFixed_eq (by decide) ⟨by omega, by omega⟩]
    rfl

/-- **The text of an instant is that of the stamp that shows it.** -/
theorem format_eq_iff {s : Stamp} {t : Timestamp} : formatTimestamp t = s.text ↔ s.Shows t := by
  obtain ⟨s', hs', hshows⟩ := exists_shows t
  rw [hs']
  exact ⟨fun h => text_inj h ▸ hshows, fun h => congrArg text (hshows.unique h)⟩

end Stamp

/-! ## Reading back what was written -/

/-- **`days_from_civil` counts the days of a date in January and February**, and from March on two months too many. -/
theorem daysFromCivil_date (c : Date) : ∃ late : Int, daysFromCivil c.year c.month c.day = c.number - 719468 + late ∧
    (c.month ≤ 2 ∧ late = 0 ∨ 2 < c.month ∧ 61 ≤ late ∧ late ≤ 62) := by
  rw [daysFromCivil_eq c.year c.month_range.1]
  unfold Date.number dayNumber
  by_cases h : c.month ≤ 2
  · refine ⟨0, ?_, .inl ⟨h, rfl⟩⟩
    rw [if_neg (by omega)]
    unfold marchMonth
    rw [if_pos h]
    omega
  · refine ⟨monthStart (c.month + -1) - monthStart (c.month - 3), ?_, .inr ⟨by omega, ?_⟩⟩
    · rw [if_pos (by omega)]
      unfold marchMonth
      rw [if_neg h]
      omega
    · unfold monthStart
      omega

/-- What `parse_timestamp` counts for the stamp of an instant: the instant, the months that are counted too many, and
a day when the days were rounded up. -/
theorem Stamp.Shows.total {s : Stamp} {t : Timestamp} (h : s.Shows t) : ∃ late : Int,
    (daysFromCivil s.year s.month s.day * 86400 + s.seconds) * 10 ^ 9 + s.frac = t.nanos.toInt
      + (late + if t.nanos.toInt < 0 ∧ t.nanos.toInt % kNanosPerDay ≠ 0 then 1 else 0) * kNanosPerDay ∧
    (s.month ≤ 2 ∧ late = 0 ∨ 2 < s.month ∧ 61 ≤ late ∧ late ≤ 62) := by
  obtain ⟨c, ⟨hy, hm, hd⟩, hnum⟩ := h.date
  obtain ⟨late, hdays, hlate⟩ := daysFromCivil_date c
  have hclock := h.clock
  refine ⟨late, ?_, by omega⟩
  rw [hnum, days_eq] at hdays
  rw [← hy, ← hm, ← hd, hdays]
  rw [kNanosPerDay_eq] at *
  split <;> omega

/-- The instant of its own stamp is read back after 1970, in January and February. -/
theorem Stamp.Shows.instantOf_eq {s : Stamp} {t : Timestamp} (h : s.Shows t) :
    instantOf (daysFromCivil s.year s.month s.day * 86400 + s.seconds) s.frac = some t ↔
      0 ≤ t.nanos.toInt ∧ s.month ≤ 2 := by
  obtain ⟨late, htotal, hlate⟩ := h.total
  have hbounds := int64_bounds t.nanos
  have hfrac := s.frac_lt
  rw [kNanosPerDay_eq] at htotal
  rw [instantOf_eq_some (by split at htotal <;> omega) hfrac]
  split at htotal <;> omega

/-- The UTC date of an instant. -/
def IsDateOf (c : Date) (t : Timestamp) : Prop := c.number = t.nanos.toInt / kNanosPerDay + 719468

/-- **The text of a known instant is read back exactly after 1970, in January and February.** -/
theorem parse_format_iff (t : Timestamp) (hknown : t.known) : parseTimestamp (formatTimestamp t) = some t ↔
    0 < t.nanos.toInt ∧ ∃ c : Date, IsDateOf c t ∧ c.month ≤ 2 := by
  obtain ⟨s, hs, hshows⟩ := Stamp.exists_shows t
  have hzero : t.nanos.toInt ≠ 0 := by
    intro h
    have hnanos : t.nanos = 0 := Int64.toInt_inj.1 h
    simp [Timestamp.known, hnanos] at hknown
  rw [hs, s.parse_text, hshows.instantOf_eq]
  obtain ⟨c, ⟨-, hm, -⟩, hnum⟩ := hshows.date
  rw [days_eq] at hnum
  unfold IsDateOf
  constructor
  · rintro ⟨hpos, hmonth⟩
    rw [if_neg (by omega), add_zero] at hnum
    exact ⟨by omega, c, hnum, by omega⟩
  · rintro ⟨hpos, c', hnum', hmonth⟩
    rw [if_neg (by omega), add_zero] at hnum
    obtain rfl := Date.eq_of_number (hnum.trans hnum'.symm)
    exact ⟨by omega, by omega⟩

/-- The first day of 2026. -/
def newYear : Date := { year := 2026, month := 1, day := 1, month_range := by decide, day_range := by decide }

theorem parse_format_january : parseTimestamp (formatTimestamp ⟨1767225845123456789⟩) = some ⟨1767225845123456789⟩ :=
  (parse_format_iff ⟨1767225845123456789⟩ (by decide)).2 ⟨by decide, newYear, by unfold IsDateOf; decide, by decide⟩

/-- 2026-03-01T00:00:00Z is read back as 2026-05-01, and the last nanosecond of 1969 as one of 1970. -/
theorem parse_format_march : ¬ ∀ t : Timestamp, t.known → parseTimestamp (formatTimestamp t) = some t :=
  fun h => absurd (h ⟨1772323200000000000⟩ (by decide)) (by decide)

/-- The date of a text exists and lies in January or February, its second is below 60, and the instant is one of 64
bits. -/
def SpellsInstant (text : Str) : Prop :=
  ∃ c : Date, (c.year = num text 0 4 ∧ c.month = num text 5 2 ∧ c.day = num text 8 2) ∧ c.month ≤ 2 ∧
  num text 17 2 ≤ 59 ∧
    (c.number - 719468) * kNanosPerDay
      + ((num text 11 2 * 3600 + num text 14 2 * 60 + num text 17 2 : Nat) : Int) * 10 ^ 9 + num text 20 9 < 2 ^ 63

/-- **Of the texts with nine fraction digits that are taken, these are written back.** -/
theorem format_parse_iff (text : Str) (t : Timestamp) (hparse : parseTimestamp text = some t)
    (hlen : text.length = 30) :
    formatTimestamp t = text ↔ SpellsInstant text := by
  obtain ⟨s, rfl⟩ := exists_stamp hparse hlen
  rw [Stamp.format_eq_iff]
  rw [s.parse_text] at hparse
  simp only [SpellsInstant, Stamp.num_year, Stamp.num_month, Stamp.num_day, Stamp.num_hour, Stamp.num_minute,
    Stamp.num_second, Stamp.num_frac]
  constructor
  · intro h
    have hback := h.instantOf_eq.1 hparse
    obtain ⟨c, hdate, hnum⟩ := h.date
    have hclock := h.clock
    have hbounds := int64_bounds t.nanos
    rw [days_eq, if_neg (by omega)] at hnum
    refine ⟨c, hdate, by omega, h.second, ?_⟩
    unfold Stamp.seconds at hclock
    rw [kNanosPerDay_eq] at *
    omega
  · rintro ⟨c, ⟨hy, hm, hd⟩, hmonth, hsecond, hfits⟩
    obtain ⟨late, hdays, hlate⟩ := daysFromCivil_date c
    obtain rfl : late = 0 := by omega
    rw [← hy, ← hm, ← hd, hdays] at hparse
    have hhour := s.hour_le
    have hminute := s.minute_le
    have hfrac := s.frac_lt
    have hrange : -720000 ≤ c.number - 719468 ∧ c.number - 719468 < 4000000 := by
      have hin := c.in_year
      have hyear := s.year_lt
      unfold yearStart marchYear at hin
      split at hin <;> omega
    rw [kNanosPerDay_eq] at hfits
    rw [instantOf_eq_some (by unfold Stamp.seconds; omega) hfrac] at hparse
    have hn : t.nanos.toInt = (c.number - 719468) * 86400000000000 + ((s.seconds : Int) * 10 ^ 9 + s.frac) := by
      unfold Stamp.seconds at *
      omega
    have hclock : 0 ≤ (s.seconds : Int) * 10 ^ 9 + s.frac ∧ (s.seconds : Int) * 10 ^ 9 + s.frac < 86400000000000 := by
      unfold Stamp.seconds
      omega
    refine ⟨⟨c, ⟨hy, hm, hd⟩, ?_⟩, hsecond, ?_⟩
    · rw [days_eq, kNanosPerDay_eq, if_neg (by omega)]
      omega
    · rw [kNanosPerDay_eq]
      omega

theorem format_parse_january : formatTimestamp ⟨1767225845123456789⟩ = str "2026-01-01T00:04:05.123456789Z" :=
  (format_parse_iff (str "2026-01-01T00:04:05.123456789Z") ⟨1767225845123456789⟩ (by with_unfolding_all decide)
    (by with_unfolding_all decide)).2
    ⟨newYear, by with_unfolding_all decide, by decide, by with_unfolding_all decide, by with_unfolding_all decide⟩

/-- 30 February is taken, as 2 March. -/
theorem format_parse_february : ¬ ∀ (text : Str) (t : Timestamp), parseTimestamp text = some t → text.length = 30 →
    formatTimestamp t = text :=
  fun h => absurd (h (str "2026-02-30T00:00:00.000000000Z") ⟨1772409600000000000⟩ (by with_unfolding_all decide)
    (by with_unfolding_all decide))
    (by with_unfolding_all decide)

end FlowObs
