import FlowObs.Time
import FlowObs.Lib.Civil
import FlowObs.Lib.Decimal

/-!
# Civil dates and the text of an instant

The conversions between days and civil dates of `time.cpp`, with their truncating divisions, and the text of an
instant: `format_timestamp` and `parse_timestamp`. `civil_from_days` finds the date of every day, on both sides of
1970 (`civilFromDays_eq`). `days_from_civil` is its inverse in January and February; from March on it counts a month
as the second one after it (`daysFromCivil_eq`).
-/

namespace FlowObs

open Civil Decimal

/-! ## The code -/

/-- `kNanosPerSecond`. -/
def kNanosPerSecond : Int := 1000000000
/-- `kNanosPerDay`. -/
def kNanosPerDay : Int := 86400 * kNanosPerSecond

/-- `days_from_civil`. -/
def daysFromCivil (y m d : Int) : Int :=
  let y := y - if m ≤ 2 then 1 else 0
  let era := (if y ≥ 0 then y else y - 399).tdiv 400
  let yoe := y - era * 400
  let doy := (153 * (m + if m > 2 then -1 else 9) + 2).tdiv 5 + d - 1
  let doe := yoe * 365 + yoe.tdiv 4 - yoe.tdiv 100 + doy
  era * 146097 + doe - 719468

/-- `civil_from_days`: the year, the month and the day. -/
def civilFromDays (z : Int) : Int × Int × Int :=
  let z := z + 719468
  let era := (if z ≥ 0 then z else z - 146096).tdiv 146097
  let doe := z - era * 146097
  let yoe := (doe - doe.tdiv 1460 + doe.tdiv 36524 - doe.tdiv 146096).tdiv 365
  let y := yoe + era * 400
  let doy := doe - (365 * yoe + yoe.tdiv 4 - yoe.tdiv 100)
  let mp := (5 * doy + 2).tdiv 153
  let d := doy - (153 * mp + 2).tdiv 5 + 1
  let m := mp + if mp < 10 then 3 else -9
  (y + (if m ≤ 2 then 1 else 0), m, d)

/-- `append_fixed`: the `%0*lld` of `snprintf`. -/
def appendFixed (value : Int) (width : Nat) : Str :=
  let sign := if value < 0 then str "-" else []
  sign ++ List.replicate (width - (sign ++ decimal value.natAbs).length) 48 ++ decimal value.natAbs

/-- `format_timestamp`. -/
def formatTimestamp (ts : Timestamp) : Str :=
  let nanos := ts.nanos.toInt
  if nanos = 0 then str "1970-01-01T00:00:00.000000000Z"
  else
    let days := nanos.tdiv kNanosPerDay
    let rem := nanos.tmod kNanosPerDay
    let rem := if rem < 0 then rem + kNanosPerDay else rem
    let civil := civilFromDays days
    appendFixed civil.1 4 ++ [45] ++ appendFixed civil.2.1 2 ++ [45] ++ appendFixed civil.2.2 2 ++ [84]
      ++ appendFixed (rem.tdiv (3600 * kNanosPerSecond)) 2 ++ [58]
      ++ appendFixed ((rem.tdiv (60 * kNanosPerSecond)).tmod 60) 2 ++ [58]
      ++ appendFixed ((rem.tdiv kNanosPerSecond).tmod 60) 2 ++ [46] ++ appendFixed (rem.tmod kNanosPerSecond) 9 ++ [90]

/-- The `num` lambda. -/
def num (text : Str) (pos len : Nat) : Nat := value ((text.drop pos).take len)

/-- The fraction of a second in nanoseconds, and what follows it. -/
def parseFraction : Str → Option (Nat × Str)
  | 46 :: rest =>
    let fraction := rest.takeWhile isDigit
    if fraction.length = 0 ∨ 9 < fraction.length then none
    else some (value fraction * 10 ^ (9 - fraction.length), rest.dropWhile isDigit)
  | rest => some (0, rest)

/-- The instant of whole seconds and a fraction. -/
def instantOf (epochSeconds : Int) (frac : Nat) : Option Timestamp :=
  let secondsNanos := checkedMul (Int64.ofInt epochSeconds).toUInt64 1000000000
  if secondsNanos.overflow then none
  else
    let total := checkedAddSigned secondsNanos.value.toInt64 (Int64.ofNat frac)
    if total.overflow then none else some ⟨total.value⟩

/-- `parse_timestamp`. -/
def parseTimestamp (text : Str) : Option Timestamp :=
  if text.length < 20 ∨ 30 < text.length then none
  else if ¬ [0, 1, 2, 3, 5, 6, 8, 9, 11, 12, 14, 15, 17, 18].all (fun i => isDigit (text.getD i 0)) then none
  else if text.getD 4 0 ≠ 45 ∨ text.getD 7 0 ≠ 45 ∨ text.getD 10 0 ≠ 84 ∨ text.getD 13 0 ≠ 58 ∨
    text.getD 16 0 ≠ 58 then none
  else
    let year := num text 0 4
    let month := num text 5 2
    let day := num text 8 2
    let hour := num text 11 2
    let minute := num text 14 2
    let second := num text 17 2
    if month < 1 ∨ 12 < month ∨ day < 1 ∨ 31 < day ∨ 23 < hour ∨ 59 < minute ∨ 60 < second then none
    else match parseFraction (text.drop 19) with
      | none => none
      | some (frac, rest) =>
        if rest ≠ [90] then none
        else instantOf (daysFromCivil year month day * 86400 + (hour * 3600 + minute * 60 + second)) frac

example : parseTimestamp (str "2026-01-01T00:04:05.123456789Z") =
    some ⟨1767225845123456789⟩ := by with_unfolding_all decide
example : formatTimestamp ⟨1767225845123456789⟩ = str "2026-01-01T00:04:05.123456789Z" := by with_unfolding_all decide

/-! ## The calendar -/

/-- The bias of the era arithmetic makes a truncating division round down. -/
theorem tdiv_biased (z : Int) {k : Int} (hk : 0 < k) : (if z ≥ 0 then z else z - (k - 1)).tdiv k = z / k := by
  by_cases h : z ≥ 0
  · rw [if_pos h, Int.tdiv_eq_ediv_of_nonneg h]
  · have hneg : z - (k - 1) = -(-z + (k - 1)) := by omega
    have hmod := Int.emod_add_mul_ediv z k
    have hlow := Int.emod_nonneg z hk.ne'
    have hhigh := Int.emod_lt_of_pos z hk
    have hdiv : (-z + (k - 1)) / k = -(z / k) ∧ (-z + (k - 1)) % k = k - 1 - z % k := by
      rw [Int.ediv_emod_unique hk, Int.mul_neg]
      omega
    rw [if_neg h, hneg, Int.neg_tdiv, Int.tdiv_eq_ediv_of_nonneg (by omega), hdiv.1, neg_neg]

/-- **`civil_from_days` is the date of the day.** -/
theorem civilFromDays_eq (z : Int) : ∃ c :
    Date, civilFromDays z = (c.year, c.month, c.day) ∧ c.number = z + 719468 := by
  have hera := tdiv_biased (z + 719468) (k := 146097) (by decide)
  rw [show (146097 : Int) - 1 = 146096 from rfl] at hera
  simp only [civilFromDays, hera]
  generalize hn : z + 719468 = n
  obtain ⟨hy0, hy1, hlow, hhigh⟩ := @yearOfEra_spec (n - n / 146097 * 146097) (by omega) (by omega)
  have hdoe : 0 ≤ n - n / 146097 * 146097 := by omega
  have hnum := yearStart_era (yearOfEra (n - n / 146097 * 146097)) (n / 146097)
  have hnext := yearStart_era (yearOfEra (n - n / 146097 * 146097) + 1) (n / 146097)
  generalize hd : n - n / 146097 * 146097 = doe at *
  have hyoe : (doe - doe.tdiv 1460 + doe.tdiv 36524 - doe.tdiv 146096).tdiv 365 = yearOfEra doe := by
    rw [Int.tdiv_eq_ediv_of_nonneg hdoe, Int.tdiv_eq_ediv_of_nonneg hdoe, Int.tdiv_eq_ediv_of_nonneg hdoe,
      Int.tdiv_eq_ediv_of_nonneg (by omega)]
    rfl
  rw [hyoe]
  generalize yearOfEra doe = y at *
  rw [Int.tdiv_eq_ediv_of_nonneg hy0, Int.tdiv_eq_ediv_of_nonneg hy0]
  have hdoy : doe - (365 * y + y / 4 - y / 100) = doe - yearStart y := by
    unfold yearStart
    omega
  rw [hdoy]
  generalize hr : doe - yearStart y = doy at *
  rw [Int.tdiv_eq_ediv_of_nonneg (a := 5 * doy + 2) (by omega)]
  rw [show y + 1 + n / 146097 * 400 = y + n / 146097 * 400 + 1 by omega] at hnext
  obtain ⟨c, hmonth, hday, hyear⟩ := @exists_date (y + n / 146097 * 400) doy (by omega) (by omega)
  refine ⟨c, ?_, by rw [Date.number_eq, hday, hyear]; omega⟩
  rw [← hmonth]
  have hm := c.month_range
  have hback : marchMonth c.month + (if marchMonth c.month < 10 then 3 else -9) = c.month := by
    unfold marchMonth
    split <;> split <;> omega
  have hpos : 0 ≤ marchMonth c.month := by
    unfold marchMonth
    split <;> omega
  rw [hback, Int.tdiv_eq_ediv_of_nonneg (by omega)]
  refine Prod.ext ?_ (Prod.ext rfl ?_)
  · rw [← hyear]
    show marchYear c.year c.month + _ = _
    unfold marchYear
    split <;> omega
  · rw [← hday]
    unfold Date.dayOfYear monthStart
    dsimp only
    omega

/-- `days_from_civil` counts the days of the calendar, from the month that it takes for `m`. -/
theorem daysFromCivil_eq (y : Int) {m d : Int} (hm : 1 ≤ m) :
    daysFromCivil y m d = yearStart (marchYear y m) + monthStart (m + if m > 2 then -1 else 9) + d - 1 - 719468 := by
  have hyear : y - (if m ≤ 2 then 1 else 0) = marchYear y m := by
    unfold marchYear
    split <;> omega
  have hera := tdiv_biased (marchYear y m) (k := 400) (by decide)
  rw [show (400 : Int) - 1 = 399 from rfl] at hera
  simp only [daysFromCivil, hyear, hera]
  generalize marchYear y m = y'
  have hyoe : 0 ≤ y' - y' / 400 * 400 := by omega
  have hmonth : 0 ≤ 153 * (m + if m > 2 then -1 else 9) + 2 := by split <;> omega
  rw [Int.tdiv_eq_ediv_of_nonneg hyoe, Int.tdiv_eq_ediv_of_nonneg hyoe, Int.tdiv_eq_ediv_of_nonneg hmonth]
  unfold yearStart monthStart
  omega

end FlowObs
