import Mathlib.Data.List.GetD
import Mathlib.Logic.Function.Iterate
import Mathlib.Tactic.Common

/-!
# Cyclic redundancy checks

A register of `w` bits is fed one bit at a time. `feed` is the textbook form: the register moves up and takes the
generator off when a one leaves it at the top. `step` is the reflected form, which moves down (`feed_reverse`); it is
linear over exclusive or (`step_xor`) and, when the generator has its constant term, injective (`step_injective`).
From this come the table (`iterate_split`: the low bits alone decide what is taken off) and the detection of bursts:
two runs of at most `w` bits that differ end in different registers (`run_inj_bits`), and no later bits make them
equal again (`run_inj_state`).
-/

namespace FlowObs
namespace Crc

variable {w : Nat}

/-! ## Registers -/

/-- One bit, as the lowest of a register. -/
def lowBit (w : Nat) (b : Bool) : BitVec w := if b then 1#w else 0#w

/-- One bit into the textbook register. -/
def feed (g : BitVec w) (r : BitVec w) (b : Bool) : BitVec w := if r.msb ^^ b then (r <<< 1) ^^^ g else r <<< 1

/-- One step of the reflected register. -/
def step (p : BitVec w) (s : BitVec w) : BitVec w := if s.getLsbD 0 then (s >>> 1) ^^^ p else s >>> 1

/-- Bits into the reflected register. -/
def run (p : BitVec w) (s : BitVec w) (bits : List Bool) : BitVec w :=
  bits.foldl (fun s b => step p (s ^^^ lowBit w b)) s

theorem getLsbD_lowBit (b : Bool) (i : Nat) : (lowBit w b).getLsbD i = (decide (i < w) && (decide (i = 0) && b)) := by
  cases b with
  | true => simp [lowBit, BitVec.getLsbD_one, Bool.and_comm]; grind
  | false => simp [lowBit]

theorem getLsbD_step (p s : BitVec w) (i : Nat) :
    (step p s).getLsbD i = (s.getLsbD (1 + i) ^^ (s.getLsbD 0 && p.getLsbD i)) := by
  unfold step
  cases s.getLsbD 0 <;> simp

/-- **A step is linear.** -/
theorem step_xor (p a b : BitVec w) : step p (a ^^^ b) = step p a ^^^ step p b := by
  apply BitVec.eq_of_getLsbD_eq
  intro i _
  simp only [getLsbD_step, BitVec.getLsbD_xor]
  cases a.getLsbD 0 <;> cases b.getLsbD 0 <;> cases p.getLsbD i <;> simp [Bool.xor_comm]

theorem iterate_xor (p : BitVec w) (n : Nat) (a b : BitVec w) :
    (step p)^[n] (a ^^^ b) = (step p)^[n] a ^^^ (step p)^[n] b := by
  induction n generalizing a b with
  | zero => rfl
  | succ n ih => rw [Function.iterate_succ_apply, step_xor, ih, ← Function.iterate_succ_apply,
    ← Function.iterate_succ_apply]

/-- Moving up is undone by a step when nothing is lost at the top. -/
theorem step_shiftLeft (p : BitVec w) {s : BitVec w} (h : s.getLsbD (w - 1) = false) : step p (s <<< 1) = s := by
  apply BitVec.eq_of_getLsbD_eq
  intro i hi
  have hlast : s.getLsbD i = true → i + 1 < w := by
    intro hs
    rcases Nat.lt_or_ge (i + 1) w with hlt | hge
    · exact hlt
    · rw [show i = w - 1 by omega, h] at hs
      cases hs
  simp only [getLsbD_step, BitVec.getLsbD_shiftLeft]
  cases hs : s.getLsbD i with
  | true =>
    have := hlast hs
    simp [hs]
    omega
  | false => simp [hs]

/-- **No two registers step to the same one**, if the generator has its constant term. -/
theorem step_injective {p : BitVec w} (hp : p.getLsbD (w - 1) = true) : Function.Injective (step p) := by
  -- by linearity it is enough that only zero steps to zero
  have hzero : ∀ s : BitVec w, step p s = 0#w → s = 0#w := by
    intro s hs
    have hbit : ∀ i, (s.getLsbD (1 + i) ^^ (s.getLsbD 0 && p.getLsbD i)) = false := by
      intro i
      rw [← getLsbD_step, hs, BitVec.getLsbD_zero]
    have htop : s.getLsbD (1 + (w - 1)) = false := BitVec.getLsbD_of_ge _ _ (by omega)
    have hlow : s.getLsbD 0 = false := by simpa [htop, hp] using hbit (w - 1)
    apply BitVec.eq_of_getLsbD_eq
    intro i _
    cases i with
    | zero => simp [hlow]
    | succ i => simpa [hlow, Nat.add_comm] using hbit i
  intro a b hab
  have hdiff : a ^^^ b = 0#w := hzero _ (by rw [step_xor, hab, BitVec.xor_self])
  exact BitVec.xor_eq_zero_iff.1 hdiff

/-! ## Bits at a time -/

/-- Bits packed into a register, the first one lowest. -/
def pack (w : Nat) : List Bool → BitVec w
  | [] => 0#w
  | b :: bits => lowBit w b ^^^ (pack w bits <<< 1)

theorem getLsbD_pack (bits : List Bool) (i : Nat) :
    (pack w bits).getLsbD i = (decide (i < w) && bits.getD i false) := by
  induction bits generalizing i with
  | nil => simp [pack]
  | cons b bits ih =>
    rw [pack, BitVec.getLsbD_xor, getLsbD_lowBit, BitVec.getLsbD_shiftLeft, ih]
    cases i with
    | zero => simp
    | succ i =>
      by_cases hi : i + 1 < w
      · simp [hi, Nat.lt_of_succ_lt hi]
      · simp [hi]

/-- Packing loses nothing of at most `w` bits. -/
theorem pack_inj {a b : List Bool} (hlen : a.length = b.length) (hw : a.length ≤ w) (h : pack w a = pack w b) :
    a = b := by
  refine List.ext_getElem hlen fun i ha hb => ?_
  have hi : i < w := Nat.lt_of_lt_of_le ha hw
  have hbit : (pack w a).getLsbD i = (pack w b).getLsbD i := by rw [h]
  rw [getLsbD_pack, getLsbD_pack, List.getD_eq_getElem _ _ ha, List.getD_eq_getElem _ _ hb] at hbit
  simpa [hi] using hbit

/-- **At most `w` bits** can be put into the register at once. -/
theorem run_eq_iterate (p s : BitVec w) (bits : List Bool) (hw : bits.length ≤ w) :
    run p s bits = (step p)^[bits.length] (s ^^^ pack w bits) := by
  induction bits generalizing s with
  | nil => simp [run, pack]
  | cons b bits ih =>
    rw [List.length_cons] at hw
    have htop : (pack w bits).getLsbD (w - 1) = false := by
      rw [getLsbD_pack, List.getD_eq_default _ _ (by omega), Bool.and_false]
    show run p (step p (s ^^^ lowBit w b)) bits = _
    rw [ih _ (by omega), List.length_cons, Function.iterate_succ_apply, pack, ← BitVec.xor_assoc, step_xor p (s ^^^ _),
      step_shiftLeft p htop]

theorem run_append (p s : BitVec w) (a b : List Bool) : run p s (a ++ b) = run p (run p s a) b := List.foldl_append

/-- **The same bits keep two registers apart.** -/
theorem run_inj_state {p : BitVec w} (hp : p.getLsbD (w - 1) = true) {s t : BitVec w} {bits : List Bool}
    (h : run p s bits = run p t bits) : s = t := by
  induction bits generalizing s t with
  | nil => exact h
  | cons b bits ih =>
    have hstep := step_injective hp (ih h)
    exact BitVec.xor_left_inj _ |>.1 hstep

/-- **Different bits take one register apart**, at most `w` of them. -/
theorem run_inj_bits {p : BitVec w} (hp : p.getLsbD (w - 1) = true) {s : BitVec w} {a b : List Bool}
    (hlen : a.length = b.length) (hw : a.length ≤ w) (h : run p s a = run p s b) : a = b := by
  rw [run_eq_iterate p s a hw, run_eq_iterate p s b (hlen ▸ hw), ← hlen] at h
  have hinj := (step_injective hp).iterate a.length h
  exact pack_inj hlen hw (BitVec.xor_right_inj _ |>.1 hinj)

/-! ## The table -/

/-- Bits above the lowest `n` only move down in `n` steps. -/
theorem iterate_high (p : BitVec w) (n : Nat) {s : BitVec w} (h : ∀ i < n, s.getLsbD i = false) :
    (step p)^[n] s = s >>> n := by
  induction n generalizing s with
  | zero => simp
  | succ n ih =>
    have hstep : step p s = s >>> 1 := by
      rw [step, h 0 (by omega), if_neg Bool.false_ne_true]
    rw [Function.iterate_succ_apply, hstep, ih fun i hi => ?_, ← BitVec.shiftRight_add, Nat.add_comm]
    rw [BitVec.getLsbD_ushiftRight]
    exact h (1 + i) (by omega)

/-- **`n` steps at once**: what the lowest `n` bits leave after them, and the others moved down. -/
theorem iterate_split (p : BitVec w) (n : Nat) {mask : BitVec w} (hmask : ∀ i < w, mask.getLsbD i = decide (i < n))
    (s : BitVec w) :
    (step p)^[n] s = (step p)^[n] (s &&& mask) ^^^ (s >>> n) := by
  have hsplit : s = (s &&& mask) ^^^ (s &&& ~~~mask) := by
    apply BitVec.eq_of_getLsbD_eq
    intro i hi
    simp only [BitVec.getLsbD_xor, BitVec.getLsbD_and, BitVec.getLsbD_not]
    cases s.getLsbD i <;> cases mask.getLsbD i <;> simp [hi]
  have hlow : ∀ i < n, (s &&& ~~~mask).getLsbD i = false := by
    intro i hi
    rw [BitVec.getLsbD_and, BitVec.getLsbD_not]
    by_cases hw : i < w
    · simp [hmask i hw, hi]
    · simp [hw]
  have hhigh : (s &&& ~~~mask) >>> n = s >>> n := by
    apply BitVec.eq_of_getLsbD_eq
    intro i _
    rw [BitVec.getLsbD_ushiftRight, BitVec.getLsbD_ushiftRight, BitVec.getLsbD_and, BitVec.getLsbD_not]
    by_cases hw : n + i < w
    · rw [hmask (n + i) hw]
      simp [hw]
    · simp [hw, BitVec.getLsbD_of_ge s (n + i) (by omega)]
  conv_lhs => rw [hsplit, iterate_xor]
  rw [iterate_high p n hlow, hhigh]

/-! ## The reflected register -/

/-- **One bit, in both forms.** -/
theorem feed_reverse (g r : BitVec w) (b : Bool) :
    (feed g r b).reverse = step g.reverse (r.reverse ^^^ lowBit w b) := by
  apply BitVec.eq_of_getLsbD_eq
  intro i hi
  have hlow : (r.reverse ^^^ lowBit w b).getLsbD 0 = (r.msb ^^ b) := by
    rw [BitVec.getLsbD_xor, getLsbD_lowBit, BitVec.getLsbD_reverse]
    simp [BitVec.msb, Nat.lt_of_le_of_lt (Nat.zero_le i) hi]
  have hnext : (r.reverse ^^^ lowBit w b).getLsbD (1 + i) = r.getMsbD (1 + i) := by
    rw [BitVec.getLsbD_xor, getLsbD_lowBit, BitVec.getLsbD_reverse]
    simp
  rw [getLsbD_step, hlow, hnext, BitVec.getLsbD_reverse, BitVec.getLsbD_reverse, feed]
  cases r.msb ^^ b <;> simp [BitVec.getMsbD_shiftLeft, Nat.add_comm]

/-- **Any number of bits.** -/
theorem foldl_feed_reverse (g r : BitVec w) (bits : List Bool) :
    (bits.foldl (feed g) r).reverse = run g.reverse r.reverse bits := by
  induction bits generalizing r with
  | nil => rfl
  | cons b bits ih => rw [List.foldl_cons, ih, feed_reverse]; rfl

end Crc
end FlowObs
