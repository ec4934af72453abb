import Mathlib.Tactic.Common
import Mathlib.Algebra.Order.Group.Nat
import Mathlib.Algebra.GroupWithZero.Nat
import Mathlib.Algebra.BigOperators.Group.List.Basic

/-!
# A cumulative counter read in intervals

A list of readings with gaps: `some a` is a reading, `none` the end of an interval of observation. What the counter
advanced by is summed over the intervals, in one of two ways: the sum of the rises from a reading to the next
(`rises`), or the climb of the running maximum above the first reading (`climb`).

- both are given one reading at a time (`consumed_some_some`) and split at a gap (`consumed_append_none`);
- a further reading anywhere never lowers the sum of the rises (`consumed_insert`).
-/

namespace FlowObs

/-- The readings of each interval, the last of which is still open. -/
def intervals {α : Type} : List (Option α) → List (List α)
  | [] => [[]]
  | none :: l => [] :: intervals l
  | some a :: l => (a :: (intervals l).headD []) :: (intervals l).tail

/-- The sum of the differences from a reading to a higher one after it. -/
def rises : List Nat → Nat
  | a :: b :: l => (b - a) + rises (b :: l)
  | _ => 0

/-- How often a reading is lower than the one before it. -/
def falls : List Nat → Nat
  | a :: b :: l => (if b < a then 1 else 0) + falls (b :: l)
  | _ => 0

/-- The running maximum above the first reading. -/
def climb : List Nat → Nat
  | a :: l => l.foldl max a - a
  | [] => 0

/-- What is consumed over all intervals, if a fall restarts the counter (`restart`) or is passed over. -/
def consumed (restart : Bool) (l : List (Option Nat)) : Nat :=
  ((intervals l).map (if restart then rises else climb)).sum

/-- The intervals that ended after a reading. -/
def ended {α : Type} (l : List (Option α)) : Nat := ((intervals l).dropLast.filter (fun i => !i.isEmpty)).length

/-- How often the consumption between two readings is unknown. -/
def unknowns (restart : Bool) (l : List (Option Nat)) : Nat :=
  ended l + if restart then ((intervals l).map falls).sum else 0

theorem intervals_eq_cons {α : Type} : ∀ l : List (Option α), ∃ i rest, intervals l = i :: rest
  | [] => ⟨[], [], rfl⟩
  | none :: l => ⟨[], intervals l, rfl⟩
  | some a :: l => ⟨a :: (intervals l).headD [], (intervals l).tail, rfl⟩

theorem intervals_append_none {α : Type} (l l' : List (Option α)) :
    intervals (l ++ none :: l') = intervals l ++ intervals l' := by
  induction l with
  | nil => rfl
  | cons o l ih =>
    obtain ⟨i, rest, hl⟩ := intervals_eq_cons l
    cases o with
    | none => simp [intervals, ih]
    | some a => simp [intervals, ih, hl]

/-! ## One reading at a time -/

@[simp] theorem consumed_nil (restart : Bool) : consumed restart [] = 0 := by
  cases restart <;> rfl

/-- Consumption splits at a gap. -/
theorem consumed_append_none (restart : Bool) (l l' : List (Option Nat)) :
    consumed restart (l ++ none :: l') = consumed restart l + consumed restart l' := by
  simp [consumed, intervals_append_none]

@[simp] theorem consumed_none (restart : Bool) (l : List (Option Nat)) :
    consumed restart (none :: l) = consumed restart l := by
  simpa using consumed_append_none restart [] l

/-- The first reading of an interval consumes nothing. -/
@[simp] theorem consumed_some (restart : Bool) (a : Nat) : consumed restart [some a] = 0 := by
  cases restart <;> simp [consumed, intervals, rises, climb]

theorem consumed_some_none (restart : Bool) (a : Nat) (l : List (Option Nat)) :
    consumed restart (some a :: none :: l) = consumed restart l := by
  simpa using consumed_append_none restart [some a] l

theorem climb_cons_cons (a b : Nat) (l : List Nat) : climb (a :: b :: l) = (b - a) + climb (max a b :: l) := by
  have hle : ∀ (l : List Nat) (m : Nat), m ≤ l.foldl max m := by
    intro l
    induction l with
    | nil => intro m; exact le_refl m
    | cons c l ih => intro m; exact (le_max_left m c).trans (ih (max m c))
  have hmax := hle l (max a b)
  simp only [climb, List.foldl_cons]
  omega

/-- **The second reading of an interval** consumes what it rises by, and takes the place of the first. -/
theorem consumed_some_some (restart : Bool) (a b : Nat) (l : List (Option Nat)) :
    consumed restart (some a :: some b :: l)
      = (b - a) + consumed restart (some (if restart then b else max a b) :: l) := by
  obtain ⟨i, rest, hl⟩ := intervals_eq_cons l
  cases restart with
  | true =>
    simp [consumed, intervals, hl, rises]
    omega
  | false =>
    simp [consumed, intervals, hl, climb_cons_cons]
    omega

@[simp] theorem unknowns_nil (restart : Bool) : unknowns restart [] = 0 := by
  cases restart <;> rfl

@[simp] theorem unknowns_some (restart : Bool) (a : Nat) : unknowns restart [some a] = 0 := by
  cases restart <;> rfl

@[simp] theorem unknowns_none (restart : Bool) (l : List (Option Nat)) :
    unknowns restart (none :: l) = unknowns restart l := by
  obtain ⟨i, rest, hl⟩ := intervals_eq_cons l
  simp [unknowns, ended, intervals, hl, falls]

/-- An interval that ends after a reading leaves one unknown. -/
theorem unknowns_some_none (restart : Bool) (a : Nat) (l : List (Option Nat)) :
    unknowns restart (some a :: none :: l) = 1 + unknowns restart l := by
  obtain ⟨i, rest, hl⟩ := intervals_eq_cons l
  simp [unknowns, ended, intervals, hl, falls]
  omega

theorem unknowns_some_some (restart : Bool) (a b : Nat) (l : List (Option Nat)) :
    unknowns restart (some a :: some b :: l)
      = (if restart && b < a then 1 else 0) + unknowns restart (some (if restart then b else max a b) :: l) := by
  obtain ⟨i, rest, hl⟩ := intervals_eq_cons l
  have hended : ended (some a :: some b :: l) = ended (some (if restart then b else max a b) :: l) := by
    cases rest <;> simp [ended, intervals, hl]
  unfold unknowns
  rw [hended]
  cases restart with
  | true =>
    simp [intervals, hl, falls]
    omega
  | false => simp

/-- No more is unknown than there are readings and gaps. -/
theorem unknowns_le_length (restart : Bool) (l : List (Option Nat)) : unknowns restart l ≤ l.length := by
  have hbound : ∀ n, ∀ l : List (Option Nat), l.length ≤ n → unknowns restart l ≤ l.length := by
    intro n
    induction n with
    | zero =>
      intro l hl
      rw [List.length_eq_zero_iff.1 (Nat.le_zero.1 hl)]
      simp
    | succ n ih =>
      intro l hl
      match l, hl with
      | [], _ => simp
      | none :: l, hl =>
        have hrest := ih l (by simpa using hl)
        simp
        omega
      | [some a], _ => simp
      | some a :: none :: l, hl =>
        have hrest := ih l (by simp at hl; omega)
        simp [unknowns_some_none]
        omega
      | some a :: some b :: l, hl =>
        have hrest := ih (some (if restart then b else max a b) :: l) (by simp at hl ⊢; omega)
        rw [unknowns_some_some]
        simp only [List.length_cons] at hrest ⊢
        split <;> omega
  exact hbound l.length l (le_refl _)

/-! ## A further reading -/

/-- **A further reading never lowers the sum of the rises.** It splits one difference into two. -/
theorem consumed_insert (a : Nat) : ∀ l l' : List (Option Nat),
    consumed true (l ++ l') ≤ consumed true (l ++ some a :: l')
  | [], [] => by simp
  | [], none :: l' => by simp [consumed_some_none]
  | [], some c :: l' => by simp [consumed_some_some]
  | none :: l, l' => by simpa using consumed_insert a l l'
  | [some b], [] => by simp [consumed_some_some]
  | [some b], none :: l' => by simp [consumed_some_some, consumed_some_none]
  | [some b], some c :: l' => by
    simp [consumed_some_some]
    omega
  | some b :: none :: l, l' => by simpa [consumed_some_none] using consumed_insert a l l'
  | some b :: some c :: l, l' => by simpa [consumed_some_some] using consumed_insert a (some c :: l) l'

/-- A gap next to a gap changes nothing, nor does one before the first reading or after the last. -/
theorem consumed_none_none (restart : Bool) (l l' : List (Option Nat)) :
    consumed restart (l ++ none :: none :: l') = consumed restart (l ++ none :: l') := by
  simp [consumed_append_none]

end FlowObs
