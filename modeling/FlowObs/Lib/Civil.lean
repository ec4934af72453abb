import Mathlib.Tactic.Common
import Mathlib.Tactic.IntervalCases
import Mathlib.Tactic.Linarith

/-!
# The proleptic Gregorian calendar

A `Date` carries that its month and its day exist. Its number (`dayNumber`) is counted from 0000-03-01, over years
that begin in March, so that the leap day is the last of its year. Every number is of at most one date
(`Date.eq_of_dayNumber`).

`yearOfEra` finds the year of a day among the 146097 days of an era without a search; `yearOfEra_spec` says that it
does.
-/

namespace FlowObs.Civil

/-! ## Dates -/

/-- A leap year. -/
def IsLeap (y : ℤ) : Prop := y % 4 = 0 ∧ (y % 100 ≠ 0 ∨ y % 400 = 0)

instance (y : ℤ) : Decidable (IsLeap y) := inferInstanceAs (Decidable (_ ∧ _))

/-- The days of a month. -/
def monthLength (y m : ℤ) : ℤ :=
  if m = 2 then if IsLeap y then 29 else 28
  else if m = 4 ∨ m = 6 ∨ m = 9 ∨ m = 11 then 30
  else 31

/-- A year, a month and a day that exist. -/
@[ext] structure Date where
  year : ℤ
  month : ℤ
  day : ℤ
  month_range : 1 ≤ month ∧ month ≤ 12
  day_range : 1 ≤ day ∧ day ≤ monthLength year month
deriving DecidableEq

theorem monthLength_le (y m : ℤ) : monthLength y m ≤ 31 := by
  unfold monthLength
  split <;> split <;> omega

theorem Date.day_le (c : Date) : c.day ≤ 31 := c.day_range.2.trans (monthLength_le _ _)

/-! ## Numbers of days -/

/-- The year that begins in the March before a month. -/
def marchYear (y m : ℤ) : ℤ := if m ≤ 2 then y - 1 else y

/-- The months since March. -/
def marchMonth (m : ℤ) : ℤ := if m ≤ 2 then m + 9 else m - 3

/-- The days before a year that begins in March. -/
def yearStart (y : ℤ) : ℤ := 365 * y + y / 4 - y / 100 + y / 400

/-- The days before a month of such a year. -/
def monthStart (m : ℤ) : ℤ := (153 * m + 2) / 5

/-- The days since 0000-03-01. -/
def dayNumber (y m d : ℤ) : ℤ := yearStart (marchYear y m) + monthStart (marchMonth m) + d - 1

/-- The number of a date. -/
def Date.number (c : Date) : ℤ := dayNumber c.year c.month c.day

/-- A year that begins in March has a leap day when the next one is a leap year. -/
theorem yearStart_succ (y : ℤ) : yearStart (y + 1) = yearStart y + if IsLeap (y + 1) then 366 else 365 := by
  by_cases h : IsLeap (y + 1)
  · rw [if_pos h]
    unfold IsLeap at h
    unfold yearStart
    omega
  · rw [if_neg h]
    unfold IsLeap at h
    unfold yearStart
    omega

theorem yearStart_lt {y y' : ℤ} (h : y < y') : yearStart (y + 1) ≤ yearStart y' := by
  obtain ⟨k, rfl⟩ : ∃ k : ℤ, y' = y + 1 + k := ⟨y' - y - 1, by omega⟩
  unfold yearStart
  omega

/-- Only one year holds a day. -/
theorem year_unique {n y y' : ℤ} (h : yearStart y ≤ n ∧ n < yearStart (y + 1))
    (h' : yearStart y' ≤ n ∧ n < yearStart (y' + 1)) : y = y' := by
  rcases lt_trichotomy y y' with hlt | heq | hgt
  · have := yearStart_lt hlt
    omega
  · exact heq
  · have := yearStart_lt hgt
    omega

namespace Date

/-- The days of its year before a date. -/
def dayOfYear (c : Date) : ℤ := monthStart (marchMonth c.month) + c.day - 1

theorem number_eq (c : Date) : c.number = yearStart (marchYear c.year c.month) + c.dayOfYear := by
  unfold number dayNumber dayOfYear
  omega

/-- A month is told from the day of the year, and February is the last one. -/
theorem month_of_dayOfYear (c : Date) : (5 * c.dayOfYear + 2) / 153 = marchMonth c.month ∧ 0 ≤ c.dayOfYear ∧
    (c.month ≠ 2 → c.dayOfYear < 337) ∧ (c.month = 2 → c.dayOfYear < 337 + monthLength c.year 2) := by
  obtain ⟨y, m, d, ⟨hm, hm'⟩, ⟨hd, hd'⟩⟩ := c
  have hfeb : monthLength y 2 ≤ 29 := by
    unfold monthLength
    split <;> split <;> omega
  have hother : m ≠ 2 → monthLength y m = if m = 4 ∨ m = 6 ∨ m = 9 ∨ m = 11 then 30 else 31 := fun h => if_neg h
  simp only [dayOfYear, monthStart, marchMonth]
  interval_cases m <;> norm_num at hother ⊢ <;> omega

/-- A date lies in its year. -/
theorem in_year (c : Date) : yearStart (marchYear c.year c.month) ≤ c.number ∧
    c.number < yearStart (marchYear c.year c.month + 1) := by
  obtain ⟨-, hlow, hother, hfeb⟩ := c.month_of_dayOfYear
  rw [number_eq, yearStart_succ]
  by_cases h : c.month = 2
  · have hhigh := hfeb h
    have hyear : marchYear c.year c.month + 1 = c.year := by
      unfold marchYear
      rw [if_pos (by omega)]
      omega
    unfold monthLength at hhigh
    rw [if_pos rfl] at hhigh
    rw [hyear]
    split at hhigh <;> rename_i hleap
    · rw [if_pos hleap]
      omega
    · rw [if_neg hleap]
      omega
  · have hhigh := hother h
    split <;> omega

/-- **A number is of one date.** -/
theorem eq_of_number {c c' : Date} (h : c.number = c'.number) : c = c' := by
  have hyear := year_unique c.in_year (h ▸ c'.in_year)
  have hday : c.dayOfYear = c'.dayOfYear := by
    rw [number_eq, number_eq, hyear] at h
    omega
  have hmonth : marchMonth c.month = marchMonth c'.month := by
    rw [← c.month_of_dayOfYear.1, ← c'.month_of_dayOfYear.1, hday]
  have hm := c.month_range
  have hm' := c'.month_range
  unfold marchMonth at hmonth
  have heq : c.month = c'.month := by
    split at hmonth <;> split at hmonth <;> omega
  refine Date.ext ?_ heq ?_
  · unfold marchYear at hyear
    rw [heq] at hyear
    split at hyear <;> omega
  · unfold dayOfYear at hday
    rw [heq] at hday
    omega

end Date

/-! ## From a number to its date -/

/-- The year of a day of an era. -/
def yearOfEra (doe : ℤ) : ℤ := (doe - doe / 1460 + doe / 36524 - doe / 146096) / 365

/-- Before the last day of an era, the century is that of the days. -/
theorem century {doe y : ℤ} (h0 : 0 ≤ doe) (h1 : doe < 146096) (hy : y = (doe - doe / 1460 + doe / 36524) / 365) :
    y / 100 = doe / 36524 := by
  have hc : doe / 36524 = 0 ∨ doe / 36524 = 1 ∨ doe / 36524 = 2 ∨ doe / 36524 = 3 := by omega
  rcases hc with hc | hc | hc | hc <;> rw [hc] at hy <;> omega

/-- **The year of an era holds the day.** -/
theorem yearOfEra_spec {doe : ℤ} (h0 : 0 ≤ doe) (h1 : doe < 146097) : 0 ≤ yearOfEra doe ∧ yearOfEra doe < 400 ∧
    yearStart (yearOfEra doe) ≤ doe ∧ doe < yearStart (yearOfEra doe + 1) := by
  by_cases hlast : doe = 146096
  · subst hlast
    decide
  · have hdiv : doe / 146096 = 0 := by omega
    have hy : yearOfEra doe = (doe - doe / 1460 + doe / 36524) / 365 := by
      unfold yearOfEra
      rw [hdiv, sub_zero]
    have hc := century h0 (by omega) hy
    generalize yearOfEra doe = y at *
    have hrange : 0 ≤ y ∧ y < 400 := by omega
    have hera : y / 400 = 0 ∧ 0 ≤ (y + 1) / 400 := by omega
    unfold yearStart
    -- the year is within one of four for each 1460 days
    generalize hq : doe / 1460 = q at *
    obtain ⟨t, ht⟩ : ∃ t, y = 4 * q + t := ⟨y - 4 * q, by omega⟩
    have ht' : t = -1 ∨ t = 0 ∨ t = 1 ∨ t = 2 ∨ t = 3 := by omega
    rcases ht' with rfl | rfl | rfl | rfl | rfl <;> omega

/-- Four hundred years are an era. -/
theorem yearStart_era (y era : ℤ) : yearStart (y + era * 400) = yearStart y + era * 146097 := by
  unfold yearStart
  omega

/-- The day of a year that begins in March, as a date of the calendar. -/
theorem exists_date {y doy : ℤ} (h0 : 0 ≤ doy) (h1 : doy < yearStart (y + 1) - yearStart y) :
    ∃ c : Date, marchMonth c.month = (5 * doy + 2) / 153 ∧ c.dayOfYear = doy ∧ marchYear c.year c.month = y := by
  rw [yearStart_succ] at h1
  have hmp : 0 ≤ (5 * doy + 2) / 153 ∧ (5 * doy + 2) / 153 ≤ 11 := by
    split at h1 <;> omega
  generalize hm : (5 * doy + 2) / 153 = mp at *
  have hlength : ∀ y' m : ℤ, marchMonth m = mp → 1 ≤ m → m ≤ 12 → (m = 2 → y' = y + 1) →
      1 ≤ doy - monthStart mp + 1 ∧ doy - monthStart mp + 1 ≤ monthLength y' m := by
    intro y' m hmonth hlow hhigh hfeb
    unfold monthLength monthStart
    unfold marchMonth at hmonth
    by_cases h2 : m = 2
    · rw [if_pos h2, hfeb h2]
      rw [if_pos (by omega)] at hmonth
      split at h1 <;> rename_i hleap
      · rw [if_pos hleap]
        omega
      · rw [if_neg hleap]
        omega
    · rw [if_neg h2]
      have hcases : m = 1 ∨ m = 3 ∨ m = 4 ∨ m = 5 ∨ m = 6 ∨ m = 7 ∨ m = 8 ∨ m = 9 ∨ m = 10 ∨ m = 11 ∨ m = 12 := by omega
      rcases hcases with rfl | rfl | rfl | rfl | rfl | rfl | rfl | rfl | rfl | rfl | rfl <;>
        norm_num at hmonth ⊢ <;> omega
  by_cases hlate : mp < 10
  · have hmonth : marchMonth (mp + 3) = mp := by
      unfold marchMonth
      rw [if_neg (by omega)]
      omega
    refine ⟨⟨y, mp + 3, doy - monthStart mp + 1, by omega, hlength y _ hmonth (by omega) (by omega) (by omega)⟩, hmonth,
      ?_, ?_⟩
    · simp only [Date.dayOfYear, hmonth]
      omega
    · simp only [marchYear]
      rw [if_neg (by omega)]
  · have hmonth : marchMonth (mp - 9) = mp := by
      unfold marchMonth
      rw [if_pos (by omega)]
      omega
    refine ⟨⟨y + 1, mp - 9, doy - monthStart mp + 1, by omega, hlength _ _ hmonth (by omega) (by omega) (fun _ => rfl)⟩,
      hmonth, ?_, ?_⟩
    · simp only [Date.dayOfYear, hmonth]
      omega
    · simp only [marchYear]
      rw [if_pos (by omega)]
      omega

end FlowObs.Civil
