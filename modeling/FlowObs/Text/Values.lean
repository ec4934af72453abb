import FlowObs.Observation
import FlowObs.Conflict
import FlowObs.Freshness
import FlowObs.Lib.Decimal

/-!
# The values of an FO1 line

The value readers of `textproto.cpp` and of the name tables: numbers with the overflow checks of `checked.hpp`,
counters that may be absent, capability lists, hop capacities and names. Each is proved to read back what the
formatter writes; of the numbers it is said exactly which texts they take (`parseU64_eq_some`).
-/

namespace FlowObs.Fo1

open Decimal

/-! ## The code -/

/-- The loop of `parse_u64`. -/
def parseU64From (value : UInt64) : Str → Option UInt64
  | [] => some value
  | c :: text =>
    if c < 48 ∨ 57 < c then none
    else
      let scaled := checkedMul value 10
      if scaled.overflow then none
      else
        let added := checkedAdd scaled.value (c - 48).toUInt64
        if added.overflow then none else parseU64From added.value text

/-- `parse_u64`. -/
def parseU64 (text : Str) : Option UInt64 := if text = [] ∨ 20 < text.length then none else parseU64From 0 text

/-- `parse_i64`. -/
def parseI64 (text : Str) : Option Int64 :=
  if text = [] then none
  else
    let negative : Bool := text.head? = some 45
    let body := if negative then text.tail else text
    match parseU64 body with
    | none => none
    | some magnitude =>
      if negative then
        if magnitude > 0x8000000000000000 then none
        else some (if magnitude = 0x8000000000000000 then int64Min else -magnitude.toInt64)
      else if magnitude > 0x7FFFFFFFFFFFFFFF then none
      else some magnitude.toInt64

/-- `parse_u32`. -/
def parseU32 (text : Str) : Option UInt32 :=
  match parseU64 text with
  | none => none
  | some value => if value > 0xFFFFFFFF then none else some value.toUInt32

/-- `parse_optional_counter`: `-` is a counter that was not supplied. -/
def parseOptionalCounter (text : Str) : Option (Option UInt64) :=
  if text = str "-" then some none else (parseU64 text).map some

/-- `lookup` in a name table. -/
def lookup {α : Type} (table : List α) (name : α → Str) (text : Str) : Option α := table.find? (fun a => name a = text)

/-- `parse_observation_kind`. -/
def parseObservationKind (text : Str) : Option ObservationKind :=
  lookup [.Unknown, .Open, .Sample, .Progress, .Idle, .Close, .Reset, .Error, .PathChange, .CounterReset, .Heartbeat]
    ObservationKind.name text

/-- `parse_direction`. -/
def parseDirection (text : Str) : Option Direction :=
  lookup [.Unspecified, .Forward, .Reverse, .Aggregate] Direction.name text

/-- `parse_evidence`. -/
def parseEvidence (text : Str) : Option Evidence :=
  lookup [.Unknown, .Complete, .Incomplete, .Unsupported] Evidence.name text

/-- One name of a capability list; an empty one is passed over. -/
def addCapability (out : SourceCapabilities) (part : Str) : Option SourceCapabilities :=
  if part = str "completion" then some { out with assertsCompletion := true }
  else if part = str "reset" then some { out with assertsReset := true }
  else if part = str "path" then some { out with assertsPath := true }
  else if part = str "queue" then some { out with assertsQueue := true }
  else if part = str "counters" then some { out with assertsCounters := true }
  else if part = str "identity" then some { out with authoritativeIdentity := true }
  else if part ≠ [] then none
  else some out

/-- `parse_capabilities`. -/
def parseCapabilities (text : Str) : Option SourceCapabilities :=
  let out : SourceCapabilities := { assertsCounters := false }
  if text = [] ∨ text = str "none" then some out else (text.splitOn 44).foldlM addCapability out

/-- The loop over the parts of `hopcap`: it ends when nothing is left, so that a last part that is empty is not read. -/
def readHops : List Str → Option (List UInt64)
  | [] => some []
  | [part] => if part = [] then some [] else (parseU64 part).map (fun capacity => [capacity])
  | part :: parts =>
    match parseU64 part with
    | none => none
    | some capacity => (readHops parts).map (capacity :: ·)

/-- The value of `hopcap`. -/
def parseHops (text : Str) : Option (List UInt64) := readHops (text.splitOn 44)

/-- `format_capabilities`. -/
def formatCapabilities (capabilities : SourceCapabilities) : Str := capabilities.describe

/-! ## Numbers -/

theorem decimal_eq (n : Nat) : decimal n = digits n := rfl

theorem isDigit_decimal {n : Nat} : ∀ c ∈ decimal n, isDigit c = true := isDigit_digits

@[simp] theorem decimal_ne_nil (n : Nat) : decimal n ≠ [] := digits_ne_nil n

theorem parseU64From_eq_some {text : Str} {v n : UInt64} :
    parseU64From v text = some n ↔ (∀ c ∈ text, isDigit c = true) ∧ n.toNat = valueFrom v.toNat text := by
  induction text generalizing v with
  | nil =>
    rw [parseU64From, valueFrom_nil, Option.some.injEq, ← UInt64.toNat_inj, eq_comm]
    simp
  | cons c text ih =>
    have hten : (10 : UInt64).toNat = 10 := rfl
    have hn := n.toNat_lt
    rw [valueFrom_cons]
    have hgrow := le_valueFrom text (v.toNat * 10 + (c.toNat - 48))
    unfold parseU64From
    by_cases hc : isDigit c = true
    · have hrange := isDigit_iff.1 hc
      have h48 : (48 : UInt8).toNat = 48 := rfl
      have h57 : (57 : UInt8).toNat = 57 := rfl
      rw [if_neg (by rw [UInt8.lt_iff_toNat_lt, UInt8.lt_iff_toNat_lt, h48, h57]; omega)]
      by_cases hscale : (checkedMul v 10).overflow = true
      · have hbig := checkedMul_overflow.1 hscale
        rw [hten] at hbig
        dsimp only
        rw [if_pos hscale]
        simp only [reduceCtorEq, false_iff]
        omega
      · have hfits : v.toNat * (10 : UInt64).toNat < 2 ^ 64 := by
          rw [checkedMul_overflow] at hscale
          omega
        have hvalue := checkedMul_value hfits
        rcases checkedAdd_cases (checkedMul v 10).value (c - 48).toUInt64 with ⟨hover, hbig⟩ | ⟨hok, hsum⟩
        · rw [hvalue, hten, toNat_digitByte hc] at hbig
          dsimp only
          rw [if_neg hscale, if_pos hover]
          simp only [reduceCtorEq, false_iff]
          omega
        · rw [hvalue, hten, toNat_digitByte hc] at hsum
          simp only [hscale, hok, Bool.false_eq_true, if_false, ih, hsum, List.forall_mem_cons, hc, true_and]
    · have hout : c < 48 ∨ 57 < c := by
        simp only [isDigit, Bool.and_eq_true, decide_eq_true_eq, not_and_or, UInt8.not_le] at hc
        exact hc
      rw [if_pos hout]
      simp [hc]

/-- **The texts that are numbers**: at most twenty digits, within 64 bits. -/
theorem parseU64_eq_some {text : Str} {n : UInt64} :
    parseU64 text = some n ↔ numeral? text = some n.toNat ∧ text.length ≤ 20 := by
  unfold parseU64
  rw [numeral?_eq_some]
  split
  · rename_i h
    simp only [reduceCtorEq, false_iff]
    rcases h with rfl | h
    · simp
    · omega
  · rename_i h
    rw [not_or] at h
    rw [parseU64From_eq_some]
    simp only [h.1, ne_eq, not_false_eq_true, true_and, value, UInt64.toNat_zero]
    constructor
    · rintro ⟨hd, hn⟩
      exact ⟨⟨hd, hn.symm⟩, by omega⟩
    · rintro ⟨⟨hd, hn⟩, -⟩
      exact ⟨hd, hn.symm⟩

@[simp] theorem parseU64_decimal (n : UInt64) : parseU64 (decimal n.toNat) = some n := by
  have hlt := n.toNat_lt
  rw [parseU64_eq_some, decimal_eq, numeral?_digits]
  exact ⟨rfl, (length_digits_le (by decide)).2 (by omega)⟩

@[simp] theorem parseU32_decimal (n : UInt32) : parseU32 (decimal n.toNat) = some n := by
  have hlt := n.toNat_lt
  have hwide : n.toUInt64.toNat = n.toNat := rfl
  have hmax : (0xFFFFFFFF : UInt64).toNat = 2 ^ 32 - 1 := rfl
  unfold parseU32
  rw [← hwide, parseU64_decimal]
  simp only
  rw [if_neg (by rw [gt_iff_lt, UInt64.lt_iff_toNat_lt, hmax, hwide]; omega)]
  simp

@[simp] theorem parseI64_decimalInt (n : Int64) : parseI64 (decimalInt n.toInt) = some n := by
  have hbounds := int64_bounds n
  have hm : (UInt64.ofNat n.toInt.natAbs).toNat = n.toInt.natAbs :=
    UInt64.toNat_ofNat_of_lt' (by show _ < 2 ^ 64; omega)
  have hparse := parseU64_decimal (UInt64.ofNat n.toInt.natAbs)
  have htop : (0x8000000000000000 : UInt64).toNat = 2 ^ 63 := rfl
  have hmax : (0x7FFFFFFFFFFFFFFF : UInt64).toNat = 2 ^ 63 - 1 := rfl
  rw [hm] at hparse
  unfold parseI64 decimalInt
  generalize UInt64.ofNat n.toInt.natAbs = m at *
  by_cases hneg : n.toInt < 0
  · have hminus : str "-" ++ decimal n.toInt.natAbs = 45 :: decimal n.toInt.natAbs := by
      rw [show str "-" = [45] by with_unfolding_all decide]
      rfl
    rw [if_pos hneg, hminus]
    simp only [reduceCtorEq, if_false, List.head?_cons, List.tail_cons, decide_true, if_true, hparse]
    rw [if_neg (by rw [gt_iff_lt, UInt64.lt_iff_toNat_lt, htop]; omega), Option.some.injEq, ← Int64.toInt_inj]
    split <;> rename_i hmin
    · rw [← UInt64.toNat_inj, htop] at hmin
      have hlow : int64Min.toInt = -2 ^ 63 := rfl
      omega
    · rw [← UInt64.toNat_inj, htop] at hmin
      rw [Int64.toInt_neg, toInt_toInt64 (by omega), Int.bmod_eq_of_le (by omega) (by omega)]
      omega
  · have hhead : (decimal n.toInt.natAbs).head? ≠ some 45 := by
      intro h
      exact absurd (isDigit_decimal 45 (List.mem_of_mem_head? h)) (by decide)
    rw [if_neg hneg, if_neg (decimal_ne_nil _)]
    simp only [hhead, decide_false, Bool.false_eq_true, if_false, hparse]
    rw [if_neg (by rw [gt_iff_lt, UInt64.lt_iff_toNat_lt, hmax]; omega), Option.some.injEq, ← Int64.toInt_inj,
      toInt_toInt64 (by omega)]
    omega

theorem decimal_ne_minus (n : Nat) : decimal n ≠ str "-" := by
  intro h
  have hminus : str "-" = [45] := by with_unfolding_all decide
  have hd : isDigit 45 = true := isDigit_decimal 45 (by rw [h, hminus]; exact List.mem_cons_self)
  exact absurd hd (by decide)

@[simp] theorem parseOptionalCounter_text (c : Option UInt64) :
    parseOptionalCounter (optionalText (fun v => decimal v.toNat) c) = some c := by
  cases c with
  | none => simp [optionalText, parseOptionalCounter]
  | some v => simp [optionalText, parseOptionalCounter, decimal_ne_minus]

/-! ## Names and lists -/

/-- The names of the enumerations and every list of capabilities, the empty one too, are read back. -/
theorem parse_names : (∀ k : ObservationKind, parseObservationKind k.name = some k) ∧
    (∀ d : Direction, parseDirection d.name = some d) ∧ (∀ e : Evidence, parseEvidence e.name = some e) ∧
    ∀ a b d e f g : Bool, parseCapabilities (formatCapabilities ⟨a, b, d, e, f, g⟩) = some ⟨a, b, d, e, f, g⟩ := by
  refine ⟨fun k => ?_, fun d => ?_, fun e => ?_, ?_⟩
  · cases k <;> with_unfolding_all decide
  · cases d <;> with_unfolding_all decide
  · cases e <;> with_unfolding_all decide
  · with_unfolding_all decide

@[simp] theorem parseObservationKind_name (k : ObservationKind) :
    parseObservationKind k.name = some k := parse_names.1 k

@[simp] theorem parseDirection_name (d : Direction) : parseDirection d.name = some d := parse_names.2.1 d

@[simp] theorem parseEvidence_name (e : Evidence) : parseEvidence e.name = some e := parse_names.2.2.1 e

@[simp] theorem parseCapabilities_format (c : SourceCapabilities) : parseCapabilities (formatCapabilities c) = some c :=
  parse_names.2.2.2 c.assertsCompletion c.assertsReset c.assertsPath c.assertsQueue c.assertsCounters
    c.authoritativeIdentity

/-- The list of hop capacities. -/
def formatHops (hops : List UInt64) : Str := ((hops.map (fun u => decimal u.toNat)).intersperse (str ",")).flatten

theorem parseHops_format {hops : List UInt64} (h : hops ≠ []) : parseHops (formatHops hops) = some hops := by
  have hcomma : str "," = [44] := by with_unfolding_all decide
  have hplain : ∀ l ∈ hops.map (fun u => decimal u.toNat), 44 ∉ l := by
    intro l hl hmem
    obtain ⟨u, -, rfl⟩ := List.mem_map.1 hl
    exact absurd (isDigit_decimal 44 hmem) (by decide)
  have hsplit := List.splitOn_intercalate 44 hplain (by simpa using h)
  rw [List.intercalate] at hsplit
  rw [parseHops, formatHops, hcomma, hsplit]
  clear hsplit hplain
  induction hops with
  | nil => exact absurd rfl h
  | cons u hops ih =>
    cases hops with
    | nil => simp [readHops]
    | cons v hops =>
      have hrest := ih (by simp)
      simp only [List.map_cons] at hrest ⊢
      simp [readHops, hrest]

end FlowObs.Fo1
