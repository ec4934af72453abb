import FlowObs.Identity
import Mathlib.Tactic.Linarith

/-!
# Checked arithmetic and time

The saturating operations of `checked.hpp` on 64-bit values (`checkedAdd`, `checkedSubSigned`) and the instants and
spans of `time.hpp` built on them. `timeDifference` and `timeAdd` never wrap: they clamp the result to the signed range.
-/

namespace FlowObs

/-! ## Checked operations -/

/-- `Checked<T>`. -/
structure Checked (α : Type) where
  value : α
  overflow : Bool := false
deriving DecidableEq, Repr

/-- `checked_ok`. -/
def checkedOk {α : Type} (value : α) : Checked α := ⟨value, false⟩

/-- `checked_add` at `uint64_t`. -/
def checkedAdd (a b : UInt64) : Checked UInt64 :=
  if a > 0xFFFFFFFFFFFFFFFF - b then ⟨0xFFFFFFFFFFFFFFFF, true⟩ else checkedOk (a + b)

/-- `checked_sub` at `uint64_t`. -/
def checkedSub (a b : UInt64) : Checked UInt64 := if b > a then ⟨0, true⟩ else checkedOk (a - b)

/-- `checked_mul` at `uint64_t`. -/
def checkedMul (a b : UInt64) : Checked UInt64 :=
  if a = 0 ∨ b = 0 then checkedOk 0
  else if a > 0xFFFFFFFFFFFFFFFF / b then ⟨0xFFFFFFFFFFFFFFFF, true⟩
  else checkedOk (a * b)

/-- `checked_mul_div`. -/
def checkedMulDiv (value num den : UInt64) : Checked UInt64 :=
  if den = 0 then ⟨0, true⟩
  else if (checkedMul value num).overflow then checkedMul value num
  else checkedOk ((checkedMul value num).value / den)

/-- `INT64_MAX`. -/
def int64Max : Int64 := 0x7FFFFFFFFFFFFFFF
/-- `INT64_MIN`. -/
def int64Min : Int64 := -0x8000000000000000

/-- `signed_magnitude`. -/
def signedMagnitude (value : Int64) : UInt64 :=
  if 0 ≤ value then value.toUInt64 else (-(value + 1)).toUInt64 + 1

/-- `signed_from`. -/
def signedFrom (negative : Bool) (magnitude : UInt64) : Checked Int64 :=
  if negative then
    if magnitude > 0x8000000000000000 then ⟨int64Min, true⟩
    else if magnitude = 0x8000000000000000 then ⟨int64Min, false⟩
    else ⟨-magnitude.toInt64, false⟩
  else if magnitude > 0x7FFFFFFFFFFFFFFF then ⟨int64Max, true⟩
  else ⟨magnitude.toInt64, false⟩

/-- The common tail of the signed operations: add two sign-magnitude numbers. -/
def addMagnitudes (aNegative bNegative : Bool) (magnitudeA magnitudeB : UInt64) : Checked Int64 :=
  if aNegative = bNegative then
    if (checkedAdd magnitudeA magnitudeB).overflow then ⟨if aNegative then int64Min else int64Max, true⟩
    else signedFrom aNegative (checkedAdd magnitudeA magnitudeB).value
  else if magnitudeA ≥ magnitudeB then signedFrom aNegative (magnitudeA - magnitudeB)
  else signedFrom bNegative (magnitudeB - magnitudeA)

/-- `checked_add_signed`. -/
def checkedAddSigned (a b : Int64) : Checked Int64 :=
  addMagnitudes (a < 0) (b < 0) (signedMagnitude a) (signedMagnitude b)

/-- `checked_sub_signed`. -/
def checkedSubSigned (a b : Int64) : Checked Int64 :=
  addMagnitudes (a < 0) (b ≥ 0) (signedMagnitude a) (signedMagnitude b)

/-! ## Instants and spans -/

/-- Nanoseconds since the Unix epoch; zero is "unknown". -/
@[ext] structure Timestamp where
  nanos : Int64 := 0
deriving DecidableEq, Repr, Inhabited

/-- A signed span of nanoseconds. -/
@[ext] structure Duration where
  nanos : Int64 := 0
deriving DecidableEq, Repr, Inhabited

/-- `Timestamp::known`. -/
def Timestamp.known (t : Timestamp) : Bool := t.nanos != 0

/-- `Timestamp::unknown`. -/
def Timestamp.unknown : Timestamp := ⟨0⟩

instance : LinearOrder Timestamp :=
  LinearOrder.lift' (fun a => a.nanos.toInt) (fun _ _ h => Timestamp.ext (Int64.toInt_inj.1 h))

instance : LinearOrder Duration :=
  LinearOrder.lift' (fun a => a.nanos.toInt) (fun _ _ h => Duration.ext (Int64.toInt_inj.1 h))

theorem Timestamp.lt_def {a b : Timestamp} : a < b ↔ a.nanos.toInt < b.nanos.toInt := Iff.rfl
theorem Timestamp.le_def {a b : Timestamp} : a ≤ b ↔ a.nanos.toInt ≤ b.nanos.toInt := Iff.rfl
theorem Duration.lt_def {a b : Duration} : a < b ↔ a.nanos.toInt < b.nanos.toInt := Iff.rfl
theorem Duration.le_def {a b : Duration} : a ≤ b ↔ a.nanos.toInt ≤ b.nanos.toInt := Iff.rfl

/-- `Duration::zero`. -/
def Duration.zero : Duration := ⟨0⟩
/-- `Duration::max`. -/
def Duration.max : Duration := ⟨int64Max⟩
/-- `Duration::from_seconds`. -/
def Duration.fromSeconds (seconds : Int64) : Duration := ⟨seconds * 1000000000⟩
/-- `Duration::from_minutes`. -/
def Duration.fromMinutes (minutes : Int64) : Duration := .fromSeconds (minutes * 60)
/-- `Duration::from_hours`. -/
def Duration.fromHours (hours : Int64) : Duration := .fromSeconds (hours * 3600)

/-- `time_difference`. -/
def timeDifference (later earlier : Timestamp) : Duration :=
  if (checkedSubSigned later.nanos earlier.nanos).overflow then
    if (checkedSubSigned later.nanos earlier.nanos).value < 0 then ⟨int64Min⟩ else Duration.max
  else ⟨(checkedSubSigned later.nanos earlier.nanos).value⟩

/-- `time_add`. -/
def timeAdd (base : Timestamp) (delta : Duration) : Timestamp :=
  if (checkedAddSigned base.nanos delta.nanos).overflow then
    ⟨if (checkedAddSigned base.nanos delta.nanos).value < 0 then int64Min else int64Max⟩
  else ⟨(checkedAddSigned base.nanos delta.nanos).value⟩

end FlowObs
