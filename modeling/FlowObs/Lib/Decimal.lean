import Mathlib.Data.List.Induction
import Mathlib.Tactic.IntervalCases
import Mathlib.Tactic.Linarith

/-!
# Decimal numbers as bytes

The value of a string of ASCII digits (`value`), the digits of a number without leading zeros (`digits`) and with a
fixed width (`fixed`). Each of the two is read back (`value_digits`, `value_fixed`), and a digit string is the
fixed-width text of its own value (`fixed_value`), so that a text of a fixed layout is determined by the numbers in
it.
-/

namespace FlowObs.Decimal

/-- An ASCII digit. -/
def isDigit (c : UInt8) : Bool := 48 ≤ c && c ≤ 57

theorem isDigit_iff {c : UInt8} : isDigit c = true ↔ 48 ≤ c.toNat ∧ c.toNat ≤ 57 := by
  have hlow : (48 : UInt8).toNat = 48 := rfl
  have hhigh : (57 : UInt8).toNat = 57 := rfl
  simp only [isDigit, Bool.and_eq_true, decide_eq_true_eq, UInt8.le_iff_toNat_le, hlow, hhigh]

/-- The digit that a byte is. -/
theorem toNat_digitByte {c : UInt8} (h : isDigit c = true) : ((c - 48).toUInt64).toNat = c.toNat - 48 := by
  rw [isDigit_iff] at h
  have h48 : (48 : UInt8).toNat = 48 := rfl
  rw [UInt8.toNat_toUInt64, UInt8.toNat_sub_of_le _ _ (by rw [UInt8.le_iff_toNat_le, h48]; omega), h48]

/-! ## Values -/

/-- The value of a digit string that goes on from `v`. -/
def valueFrom (v : Nat) (l : List UInt8) : Nat := l.foldl (fun v c => v * 10 + (c.toNat - 48)) v

/-- The value of a digit string. -/
def value (l : List UInt8) : Nat := valueFrom 0 l

@[simp] theorem valueFrom_nil (v : Nat) : valueFrom v [] = v := rfl

@[simp] theorem valueFrom_cons (v : Nat) (c : UInt8) (l : List UInt8) :
    valueFrom v (c :: l) = valueFrom (v * 10 + (c.toNat - 48)) l := by
  rw [valueFrom, valueFrom, List.foldl_cons]

theorem valueFrom_append (v : Nat) (l m : List UInt8) : valueFrom v (l ++ m) = valueFrom (valueFrom v l) m :=
  List.foldl_append

@[simp] theorem value_nil : value [] = 0 := rfl

@[simp] theorem value_concat (l : List UInt8) (c : UInt8) : value (l ++ [c]) = value l * 10 + (c.toNat - 48) :=
  valueFrom_append 0 l [c]

/-- A value only grows. -/
theorem le_valueFrom : ∀ (l : List UInt8) (v : Nat), v ≤ valueFrom v l
  | [], v => le_rfl
  | c :: l, v => by
    have h := le_valueFrom l (v * 10 + (c.toNat - 48))
    rw [valueFrom_cons]
    omega

theorem value_lt : ∀ {l : List UInt8}, (∀ c ∈ l, isDigit c = true) → value l < 10 ^ l.length := by
  intro l
  induction l using List.reverseRecOn with
  | nil => intro; decide
  | append_singleton l c ih =>
    intro h
    have hl := ih fun d hd => h d (List.mem_append_left _ hd)
    have hc := isDigit_iff.1 (h c (List.mem_append_right _ List.mem_cons_self))
    rw [value_concat, List.length_append, List.length_singleton, pow_succ]
    omega

instance decidableDigits (l : List UInt8) : Decidable (∀ c ∈ l, isDigit c = true) := List.decidableBAll _ l

/-- The number that a text spells, when it is one. -/
def numeral? (l : List UInt8) : Option Nat := if l ≠ [] ∧ ∀ c ∈ l, isDigit c = true then some (value l) else none

theorem numeral?_eq_some {l : List UInt8} {n : Nat} :
    numeral? l = some n ↔ (l ≠ [] ∧ ∀ c ∈ l, isDigit c = true) ∧ value l = n := by
  unfold numeral?
  split
  · rename_i h
    exact ⟨fun heq => ⟨h, Option.some.inj heq⟩, fun heq => congrArg some heq.2⟩
  · rename_i h
    exact ⟨fun heq => (nomatch heq), fun heq => absurd heq.1 h⟩

/-! ## A fixed width -/

/-- The last `w` digits of a number. -/
def fixed : Nat → Nat → List UInt8
  | 0, _ => []
  | w + 1, n => fixed w (n / 10) ++ [UInt8.ofNat (48 + n % 10)]

@[simp] theorem length_fixed : ∀ w n, (fixed w n).length = w
  | 0, _ => rfl
  | w + 1, n => by simp [fixed, length_fixed w]

theorem toNat_digit (n : Nat) : (UInt8.ofNat (48 + n % 10)).toNat = 48 + n % 10 :=
  UInt8.toNat_ofNat_of_lt' (by show _ < 256; omega)

theorem isDigit_fixed : ∀ {w n : Nat}, ∀ c ∈ fixed w n, isDigit c = true
  | 0, _, _, h => by cases h
  | w + 1, n, c, h => by
    rcases List.mem_append.1 h with h | h
    · exact isDigit_fixed c h
    · rw [List.mem_singleton.1 h, isDigit_iff, toNat_digit]
      omega

theorem value_fixed : ∀ w n, value (fixed w n) = n % 10 ^ w
  | 0, n => by rw [fixed, value_nil, pow_zero, Nat.mod_one]
  | w + 1, n => by
    rw [fixed, value_concat, value_fixed w, toNat_digit, pow_succ', Nat.mod_mul]
    omega

theorem value_fixed_of_lt {w n : Nat} (h : n < 10 ^ w) : value (fixed w n) = n := by
  rw [value_fixed, Nat.mod_eq_of_lt h]

/-- A digit string is the text of its value. -/
theorem fixed_value {l : List UInt8} (h : ∀ c ∈ l, isDigit c = true) : fixed l.length (value l) = l := by
  induction l using List.reverseRecOn with
  | nil => rfl
  | append_singleton l c ih =>
    have hl := ih fun d hd => h d (List.mem_append_left _ hd)
    have hc := isDigit_iff.1 (h c (List.mem_append_right _ List.mem_cons_self))
    have hdiv : (value l * 10 + (c.toNat - 48)) / 10 = value l := by omega
    have hmod : 48 + (value l * 10 + (c.toNat - 48)) % 10 = c.toNat := by omega
    rw [value_concat, List.length_append, List.length_singleton, fixed, hdiv, hmod, hl, UInt8.ofNat_toNat]

/-! ## Without leading zeros -/

/-- The digits of a number. -/
def digits (n : Nat) : List UInt8 := (Nat.toDigits 10 n).map (fun c => c.toUInt8)

theorem toNat_digitChar {n : Nat} (h : n < 10) : (Nat.digitChar n).toUInt8 = UInt8.ofNat (48 + n) := by
  interval_cases n <;> rfl

/-- The digits of a number are those of its tenth and the last one. -/
theorem digits_eq (n : Nat) : digits n = (if n < 10 then [] else digits (n / 10)) ++ [UInt8.ofNat (48 + n % 10)] := by
  unfold digits
  by_cases h : n < 10
  · rw [if_pos h, Nat.toDigits_of_lt_base h, List.map_singleton, toNat_digitChar h, Nat.mod_eq_of_lt h]
    rfl
  · rw [if_neg h, Nat.toDigits_of_base_le (by decide) (by omega), List.map_append, List.map_singleton,
      toNat_digitChar (Nat.mod_lt _ (by decide))]

theorem digits_ne_nil (n : Nat) : digits n ≠ [] := by
  rw [digits_eq]
  exact List.append_ne_nil_of_right_ne_nil _ (List.cons_ne_nil _ _)

theorem isDigit_digits {n : Nat} : ∀ c ∈ digits n, isDigit c = true := by
  induction n using Nat.strong_induction_on with
  | _ n ih =>
    intro c hc
    rw [digits_eq] at hc
    rcases List.mem_append.1 hc with hc | hc
    · split at hc
      · cases hc
      · exact ih (n / 10) (by omega) c hc
    · rw [List.mem_singleton.1 hc, isDigit_iff, toNat_digit]
      omega

/-- **A number is read back from its digits.** -/
theorem value_digits (n : Nat) : value (digits n) = n := by
  induction n using Nat.strong_induction_on with
  | _ n ih =>
    rw [digits_eq, value_concat, toNat_digit]
    split
    · rw [value_nil]
      omega
    · rw [ih (n / 10) (by omega)]
      omega

@[simp] theorem numeral?_digits (n : Nat) : numeral? (digits n) = some n :=
  numeral?_eq_some.2 ⟨⟨digits_ne_nil n, isDigit_digits⟩, value_digits n⟩

theorem length_digits_le {n k : Nat} (hk : 0 < k) : (digits n).length ≤ k ↔ n < 10 ^ k := by
  rw [digits, List.length_map, Nat.length_toDigits_le_iff (by decide) hk]

/-- Leading zeros do not change a value. -/
theorem value_zeros (k : Nat) (l : List UInt8) : value (List.replicate k 48 ++ l) = value l := by
  unfold value
  rw [valueFrom_append]
  induction k with
  | zero => rfl
  | succ k ih => exact ih

/-- Digits padded with zeros are the text of a fixed width. -/
theorem pad_digits {w n : Nat} (hw : 0 < w) (h : n < 10 ^ w) :
    List.replicate (w - (digits n).length) 48 ++ digits n = fixed w n := by
  have hlen := (length_digits_le hw).2 h
  have hdigit : ∀ c ∈ List.replicate (w - (digits n).length) 48 ++ digits n, isDigit c = true := by
    intro c hc
    rcases List.mem_append.1 hc with hc | hc
    · rw [List.eq_of_mem_replicate hc]
      rfl
    · exact isDigit_digits c hc
  have hlength : (List.replicate (w - (digits n).length) 48 ++ digits n).length = w := by
    rw [List.length_append, List.length_replicate]
    omega
  have hfixed := fixed_value hdigit
  rw [hlength, value_zeros, value_digits] at hfixed
  exact hfixed.symm

end FlowObs.Decimal
