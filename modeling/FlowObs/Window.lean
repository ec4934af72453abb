import FlowObs.Retained
import FlowObs.Lib.Run

/-!
# The dedupe window of the folded region

`fold_mark` and `fold_contains` keep the sequences of the last incarnation and epoch that were folded in a window of
64 bits, bit `j` for the sequence `j` above the low end. `Windowed` says that the window is right: the bits are those
of the folded sequences, and none was folded that left it at either end.

- A mark keeps it right exactly where the bits need no shift, or the shift to the left that the code makes gives what
  the shift to the right would (`FoldState.slides`, `Windowed.foldMark`).
- While the window is right, an observation of the folded region is answered as a duplicate when its sequence was
  folded of late, under whatever revision (`Windowed.foldContains_iff`, `dedupe_window_iff`).
-/

namespace FlowObs

/-! ## Bits -/

theorem testBit_or_shiftLeft_one (bits : UInt64) {i : UInt64} (hi : i.toNat < 64) (j : Nat) :
    (bits ||| (1 <<< i)).toNat.testBit j = true ↔ bits.toNat.testBit j = true ∨ j = i.toNat := by
  have hpow : (1 <<< i : UInt64).toNat = 2 ^ i.toNat := by
    rw [UInt64.toNat_shiftLeft, Nat.mod_eq_of_lt hi, UInt64.toNat_one, Nat.one_shiftLeft,
      Nat.mod_eq_of_lt (Nat.pow_lt_pow_right (by decide) hi)]
  rw [UInt64.toNat_or, Nat.testBit_or, hpow, Nat.testBit_two_pow, Bool.or_eq_true, decide_eq_true_eq, eq_comm (a := j)]

theorem testBit_shiftRight (bits : UInt64) {i : UInt64} (hi : i.toNat < 64) (j : Nat) :
    (bits >>> i).toNat.testBit j = bits.toNat.testBit (i.toNat + j) := by
  have hmod : i.toNat % 64 = i.toNat := Nat.mod_eq_of_lt hi
  simp only [UInt64.toNat_shiftRight, hmod, Nat.testBit_shiftRight]

theorem and_one_ne_zero (bits : UInt64) : (bits &&& 1 != 0) = bits.toNat.testBit 0 := by
  have hand : (bits &&& 1).toNat = bits.toNat % 2 := by
    rw [UInt64.toNat_and]
    exact Nat.and_one_is_mod _
  rw [Bool.eq_iff_iff, bne_iff_ne, Nat.testBit_zero, decide_eq_true_eq, ne_eq, ← UInt64.toNat_inj, hand]
  show ¬ bits.toNat % 2 = 0 ↔ _
  omega

/-- A 64-bit word has no bit past its end. -/
theorem testBit_of_le (bits : UInt64) {j : Nat} (hj : 64 ≤ j) : bits.toNat.testBit j = false :=
  Nat.testBit_lt_two_pow (lt_of_lt_of_le bits.toNat_lt (Nat.pow_le_pow_right (by decide) hj))

/-- Shifting a word to the left or to the right by 64 and more gives nothing, as `fold_mark` has it. -/
theorem testBit_slidRight (bits shift : UInt64) (j : Nat) :
    (if 64 ≤ shift then 0 else bits >>> shift).toNat.testBit j = bits.toNat.testBit (shift.toNat + j) := by
  by_cases hfar : 64 ≤ shift
  · have hout : 64 ≤ shift.toNat := UInt64.le_iff_toNat_le.1 hfar
    rw [if_pos hfar, testBit_of_le _ (hout.trans (Nat.le_add_right _ j))]
    exact Nat.zero_testBit j
  · rw [if_neg hfar, testBit_shiftRight _ (UInt64.lt_iff_toNat_lt.1 (UInt64.not_le.1 hfar))]

theorem testBit_slidLeft (bits shift : UInt64) {j : Nat} (hj : j < 64) :
    (if 64 ≤ shift then 0 else bits <<< shift).toNat.testBit j = true ↔
      shift.toNat ≤ j ∧ bits.toNat.testBit (j - shift.toNat) = true := by
  by_cases hfar : 64 ≤ shift
  · have hout : 64 ≤ shift.toNat := UInt64.le_iff_toNat_le.1 hfar
    rw [if_pos hfar]
    refine iff_of_false (by simp) fun h => ?_
    omega
  · have hmod : shift.toNat % 64 = shift.toNat := Nat.mod_eq_of_lt (UInt64.lt_iff_toNat_lt.1 (UInt64.not_le.1 hfar))
    rw [if_neg hfar, UInt64.toNat_shiftLeft, hmod, Nat.testBit_mod_two_pow, Nat.testBit_shiftLeft]
    simp [hj]

theorem eq_of_testBit {bits bits' : UInt64} (h : ∀ j < 64, bits.toNat.testBit j = true ↔ bits'.toNat.testBit j = true) :
    bits = bits' := by
  refine UInt64.toNat_inj.1 (Nat.eq_of_testBit_eq fun j => ?_)
  by_cases hj : j < 64
  · exact Bool.eq_iff_iff.2 (h j hj)
  · rw [testBit_of_le _ (Nat.not_lt.1 hj), testBit_of_le _ (Nat.not_lt.1 hj)]

/-- **A slide to the left, bit by bit.** It gives what the slide to the right would when the bit `j` above `shift` and
the bit `j` below it are the same for all `j`, but that the lowest bit is set by the one and the highest by the other.
-/
theorem slide_eq_iff (bits shift : UInt64) : (if 64 ≤ shift then 0 else bits <<< shift) ||| 1
      = (if 64 ≤ shift then 0 else bits >>> shift) ||| ((1 : UInt64) <<< (63 : UInt64)) ↔
    ∀ j < 64, (shift.toNat ≤ j ∧ bits.toNat.testBit (j - shift.toNat) = true) ∨ j = 0 ↔
      bits.toNat.testBit (shift.toNat + j) = true ∨ j = 63 := by
  have hone : (1 : UInt64) = 1 <<< (0 : UInt64) := rfl
  have hleft : ∀ j < 64, ((if 64 ≤ shift then 0 else bits <<< shift) ||| 1).toNat.testBit j = true ↔
      (shift.toNat ≤ j ∧ bits.toNat.testBit (j - shift.toNat) = true) ∨ j = 0 := by
    intro j hj
    rw [hone, testBit_or_shiftLeft_one _ (by decide), testBit_slidLeft _ _ hj]
    rfl
  have hright : ∀ j, ((if 64 ≤ shift then 0 else bits >>> shift) ||| ((1 : UInt64) <<< (63 : UInt64))).toNat.testBit j =
    true ↔
      bits.toNat.testBit (shift.toNat + j) = true ∨ j = 63 := by
    intro j
    rw [testBit_or_shiftLeft_one _ (by decide), testBit_slidRight]
    rfl
  constructor
  · intro h j hj
    rw [← hleft j hj, h, hright]
  · exact fun h => eq_of_testBit fun j hj => (hleft j hj).trans ((h j hj).trans (hright j).symm)

/-! ## What the window says -/

/-- A key of the incarnation and the epoch of the window. -/
def FoldState.current (s : FoldState) (key : CanonicalKey) : Prop :=
  key.incarnation = s.foldedIncarnation ∧ key.epoch = s.foldedEpoch

/-- **The window is right** for the keys that were folded. -/
structure FoldState.Windowed (s : FoldState) (keys : List CanonicalKey) : Prop where
  exact : s.foldedSeqExact = true
  room : s.foldedSeqLow.toNat + 64 < 2 ^ 64
  bits : ∀ j < 64, s.foldedSeqBits.toNat.testBit j = true ↔
    ∃ k ∈ keys, s.current k ∧ k.sequence.value.toNat = s.foldedSeqLow.toNat + j
  above : ∀ k ∈ keys, s.current k → k.sequence.value.toNat < s.foldedSeqLow.toNat + 64
  below : ∀ k ∈ keys, s.current k → s.foldedSeqLow.toNat ≤ k.sequence.value.toNat ∨
    ∃ t ∈ keys, s.current t ∧ t.sequence.value.toNat = s.foldedSeqLow.toNat + 63

/-- **Marking a key leaves the window right.** The first key of an incarnation and epoch is more than 64 below the
last of all sequences. A later one lies in the window; or past it, and the bits shifted to the left with the lowest
set, as `fold_mark` leaves them, are those shifted to the right with the highest set. -/
def FoldState.slides (s : FoldState) (key : CanonicalKey) : Prop :=
  let sequence := key.sequence.value
  let shift := sequence - s.foldedSeqLow - 63
  if s.foldedIncarnation ≠ key.incarnation ∨ s.foldedEpoch ≠ key.epoch then sequence < 0xFFFFFFFFFFFFFFC0
  else if sequence < s.foldedSeqLow then False
  else if sequence < s.foldedSeqLow + 64 then True
  else sequence ≠ 0xFFFFFFFFFFFFFFFF ∧
    (if 64 ≤ shift then 0 else s.foldedSeqBits <<< shift) ||| 1
      = (if 64 ≤ shift then 0 else s.foldedSeqBits >>> shift) ||| ((1 : UInt64) <<< (63 : UInt64))

instance (s : FoldState) (key : CanonicalKey) : Decidable (s.slides key) := by
  unfold FoldState.slides
  infer_instance

/-- The keys of a window whose low end is not near the last sequence. -/
theorem FoldState.Windowed.toNat_low (s : FoldState) (h : s.foldedSeqLow.toNat + 64 < 2 ^ 64) :
    (s.foldedSeqLow + 64).toNat = s.foldedSeqLow.toNat + 64 := by
  rw [UInt64.toNat_add]
  exact Nat.mod_eq_of_lt h

namespace FoldState

variable {s : FoldState} {keys : List CanonicalKey} {key : CanonicalKey}

/-- **Looking a key up** in a window that is right: some folded key has its incarnation, epoch and sequence, and the
sequence is in the window. -/
theorem Windowed.foldContains_iff (h : s.Windowed keys) : s.foldContains key = true ↔ s.current key ∧
    s.foldedSeqLow.toNat ≤ key.sequence.value.toNat ∧ ∃ k ∈ keys, s.current k ∧ k.sequence = key.sequence := by
  have hhigh := Windowed.toNat_low s h.room
  have hsame : ∀ k : CanonicalKey, k.sequence = key.sequence ↔ k.sequence.value.toNat = key.sequence.value.toNat := by
    intro k
    rw [UInt64.toNat_inj]
    cases hk : k.sequence
    cases hkey : key.sequence
    simp
  unfold foldContains
  rw [h.exact]
  simp only [Bool.not_true, Bool.false_eq_true, if_false]
  by_cases hcurrent : s.foldedIncarnation ≠ key.incarnation ∨ s.foldedEpoch ≠ key.epoch
  · rw [if_pos hcurrent]
    simp only [Bool.false_eq_true, false_iff]
    rintro ⟨⟨hincarnation, hepoch⟩, -⟩
    exact hcurrent.elim (fun h => h hincarnation.symm) (fun h => h hepoch.symm)
  · rw [if_neg hcurrent]
    have hkey : s.current key := by
      simp only [ne_eq, not_or, not_not] at hcurrent
      exact ⟨hcurrent.1.symm, hcurrent.2.symm⟩
    by_cases hout : key.sequence.value < s.foldedSeqLow ∨ s.foldedSeqLow + 64 ≤ key.sequence.value
    · rw [if_pos hout]
      simp only [Bool.false_eq_true, false_iff]
      rintro ⟨-, hle, k, hk, hkcurrent, hseq⟩
      have habove := h.above k hk hkcurrent
      rw [hsame] at hseq
      rw [UInt64.lt_iff_toNat_lt, UInt64.le_iff_toNat_le, hhigh] at hout
      omega
    · rw [if_neg hout]
      rw [UInt64.lt_iff_toNat_lt, UInt64.le_iff_toNat_le, hhigh] at hout
      have hoffset : (key.sequence.value - s.foldedSeqLow).toNat = key.sequence.value.toNat - s.foldedSeqLow.toNat :=
        UInt64.toNat_sub_of_le _ _ (UInt64.le_iff_toNat_le.2 (by omega))
      rw [and_one_ne_zero, testBit_shiftRight _ (by omega), hoffset, Nat.add_zero, h.bits _ (by omega)]
      constructor
      · rintro ⟨k, hk, hkcurrent, hseq⟩
        exact ⟨hkey, by omega, k, hk, hkcurrent, (hsame k).2 (by omega)⟩
      · rintro ⟨-, hle, k, hk, hkcurrent, hseq⟩
        exact ⟨k, hk, hkcurrent, by rw [(hsame k).1 hseq]; omega⟩

/-- The first key of an incarnation and epoch begins a window. -/
theorem Windowed.foldMark_first (h : key.sequence.value < 0xFFFFFFFFFFFFFFC0) (hcurrent : ¬ s.current key)
    (hnone : ∀ k ∈ keys, ¬ (k.incarnation = key.incarnation ∧ k.epoch = key.epoch)) :
    (s.foldMark key).Windowed (keys ++ [key]) := by
  have hother : s.foldedIncarnation ≠ key.incarnation ∨ s.foldedEpoch ≠ key.epoch := by
    by_contra hsame
    simp only [ne_eq, not_or, not_not] at hsame
    exact hcurrent ⟨hsame.1.symm, hsame.2.symm⟩
  have honly : ∀ k ∈ keys ++ [key], k.incarnation = key.incarnation ∧ k.epoch = key.epoch → k = key := by
    intro k hk hsame
    rcases List.mem_append.1 hk with hk | hk
    · exact absurd hsame (hnone k hk)
    · exact List.mem_singleton.1 hk
  have hlast : (0xFFFFFFFFFFFFFFC0 : UInt64).toNat = 2 ^ 64 - 64 := rfl
  rw [UInt64.lt_iff_toNat_lt, hlast] at h
  unfold FoldState.foldMark
  simp only [if_pos hother]
  constructor
  · rfl
  · show key.sequence.value.toNat + 64 < 2 ^ 64
    omega
  · intro j hj
    show Nat.testBit 1 j = true ↔ _
    rw [Nat.testBit_one_eq_true_iff_self_eq_zero]
    constructor
    · intro hzero
      exact ⟨key, by simp, ⟨rfl, rfl⟩, by rw [hzero]; rfl⟩
    · rintro ⟨k, hk, hkcurrent, hseq⟩
      rw [honly k hk hkcurrent] at hseq
      have hsum : key.sequence.value.toNat = key.sequence.value.toNat + j := hseq
      omega
  · intro k hk hkcurrent
    rw [honly k hk hkcurrent]
    show key.sequence.value.toNat < key.sequence.value.toNat + 64
    omega
  · intro k hk hkcurrent
    rw [honly k hk hkcurrent]
    exact .inl (le_refl _)

/-- A key in the window sets its bit. -/
theorem Windowed.foldMark_within (h : s.Windowed keys) (hkey : s.current key)
    (hle : s.foldedSeqLow.toNat ≤ key.sequence.value.toNat)
      (hlt : key.sequence.value.toNat < s.foldedSeqLow.toNat + 64) :
    (s.foldMark key).Windowed (keys ++ [key]) := by
  have hsame : ¬ (s.foldedIncarnation ≠ key.incarnation ∨ s.foldedEpoch ≠ key.epoch) := by simp [hkey.1, hkey.2]
  have hwithin : s.foldedSeqLow ≤ key.sequence.value ∧ key.sequence.value < s.foldedSeqLow + 64 := by
    rw [UInt64.le_iff_toNat_le, UInt64.lt_iff_toNat_lt, Windowed.toNat_low s h.room]
    exact ⟨hle, hlt⟩
  have hoffset : (key.sequence.value - s.foldedSeqLow).toNat = key.sequence.value.toNat - s.foldedSeqLow.toNat :=
    UInt64.toNat_sub_of_le _ _ hwithin.1
  unfold FoldState.foldMark
  rw [if_neg hsame]
  simp only [if_pos hwithin]
  constructor
  · exact h.exact
  · exact h.room
  · intro j hj
    show (s.foldedSeqBits ||| _).toNat.testBit j = true ↔ _
    rw [testBit_or_shiftLeft_one _ (by omega), h.bits j hj, hoffset]
    constructor
    · rintro (⟨k, hk, hkcurrent, hseq⟩ | hj)
      · exact ⟨k, List.mem_append_left _ hk, hkcurrent, hseq⟩
      · refine ⟨key, by simp, hkey, ?_⟩
        show _ = s.foldedSeqLow.toNat + j
        omega
    · rintro ⟨k, hk, hkcurrent, hseq⟩
      rcases List.mem_append.1 hk with hk | hk
      · exact .inl ⟨k, hk, hkcurrent, hseq⟩
      · rw [List.mem_singleton.1 hk] at hseq
        have hseq' : key.sequence.value.toNat = s.foldedSeqLow.toNat + j := hseq
        omega
  · intro k hk hkcurrent
    rcases List.mem_append.1 hk with hk | hk
    · exact h.above k hk hkcurrent
    · rw [List.mem_singleton.1 hk]
      exact hlt
  · intro k hk hkcurrent
    rcases List.mem_append.1 hk with hk | hk
    · exact (h.below k hk hkcurrent).imp id fun ⟨t, ht, htop⟩ => ⟨t, List.mem_append_left _ ht, htop⟩
    · rw [List.mem_singleton.1 hk]
      exact .inl hle

/-- A key past the window slides it, so that its own bit is the highest. -/
theorem Windowed.foldMark_past (h : s.Windowed keys) (hkey : s.current key)
    (hpast : s.foldedSeqLow.toNat + 64 ≤ key.sequence.value.toNat) (hlast : key.sequence.value ≠ 0xFFFFFFFFFFFFFFFF)
    (hslide : (if 64 ≤ key.sequence.value - s.foldedSeqLow - 63 then 0
        else s.foldedSeqBits <<< (key.sequence.value - s.foldedSeqLow - 63)) ||| 1
      = (if 64 ≤ key.sequence.value - s.foldedSeqLow - 63 then 0
        else s.foldedSeqBits >>> (key.sequence.value - s.foldedSeqLow - 63)) ||| ((1 : UInt64) <<< (63 : UInt64))) :
    (s.foldMark key).Windowed (keys ++ [key]) := by
  have hsame : ¬ (s.foldedIncarnation ≠ key.incarnation ∨ s.foldedEpoch ≠ key.epoch) := by simp [hkey.1, hkey.2]
  have hpast' : s.foldedSeqLow + 64 ≤ key.sequence.value := by
    rw [UInt64.le_iff_toNat_le, Windowed.toNat_low s h.room]
    exact hpast
  have hnot : ¬ (s.foldedSeqLow ≤ key.sequence.value ∧ key.sequence.value < s.foldedSeqLow + 64) :=
    fun hboth => UInt64.not_lt.2 hpast' hboth.2
  have hbase : (key.sequence.value - 63).toNat = key.sequence.value.toNat - 63 :=
    UInt64.toNat_sub_of_le _ _ (UInt64.le_iff_toNat_le.2 (show 63 ≤ _ by omega))
  have hoffset : (key.sequence.value - s.foldedSeqLow).toNat = key.sequence.value.toNat - s.foldedSeqLow.toNat :=
    UInt64.toNat_sub_of_le _ _ (UInt64.le_iff_toNat_le.2 (by omega))
  have hshift : (key.sequence.value - s.foldedSeqLow - 63).toNat =
      key.sequence.value.toNat - s.foldedSeqLow.toNat - 63 := by
    rw [UInt64.toNat_sub_of_le _ _ (UInt64.le_iff_toNat_le.2 (show 63 ≤ _ by omega)), hoffset]
    rfl
  have hroom : key.sequence.value.toNat + 1 < 2 ^ 64 := by
    have hne : key.sequence.value.toNat ≠ 2 ^ 64 - 1 := fun he => hlast (UInt64.toNat_inj.1 he)
    have hbound := key.sequence.value.toNat_lt
    omega
  unfold FoldState.foldMark
  rw [if_neg hsame]
  simp only [if_neg hnot, if_pos hpast']
  constructor
  · exact h.exact
  · show (key.sequence.value - 63).toNat + 64 < 2 ^ 64
    omega
  · intro j hj
    have hone : (1 : UInt64) = 1 <<< (0 : UInt64) := rfl
    show Nat.testBit _ j = true ↔
      ∃ k ∈ keys ++ [key], s.current k ∧ k.sequence.value.toNat = (key.sequence.value - 63).toNat + j
    rw [hone, testBit_or_shiftLeft_one _ (by decide), testBit_slidLeft _ _ hj]
    refine ((slide_eq_iff _ _).1 hslide j hj).trans ?_
    rw [hbase, hshift]
    constructor
    · rintro (hbit | hj)
      · have hin : key.sequence.value.toNat - s.foldedSeqLow.toNat - 63 + j < 64 := by
          by_contra hout
          rw [testBit_of_le _ (by omega)] at hbit
          cases hbit
        obtain ⟨k, hk, hkcurrent, hseq⟩ := (h.bits _ hin).1 hbit
        exact ⟨k, List.mem_append_left _ hk, hkcurrent, by omega⟩
      · exact ⟨key, by simp, hkey, by omega⟩
    · rintro ⟨k, hk, hkcurrent, hseq⟩
      rcases List.mem_append.1 hk with hk | hk
      · have habove := h.above k hk hkcurrent
        exact .inl ((h.bits _ (by omega)).2 ⟨k, hk, hkcurrent, by omega⟩)
      · rw [List.mem_singleton.1 hk] at hseq
        exact .inr (by omega)
  · intro k hk hkcurrent
    show _ < (key.sequence.value - 63).toNat + 64
    rcases List.mem_append.1 hk with hk | hk
    · have habove := h.above k hk hkcurrent
      omega
    · rw [List.mem_singleton.1 hk]
      omega
  · intro k _ _
    refine .inr ⟨key, by simp, hkey, ?_⟩
    show _ = (key.sequence.value - 63).toNat + 63
    omega

/-- **A mark keeps the window right** where it slides as it should. -/
theorem Windowed.foldMark (h : s.Windowed keys) (hslides : s.slides key)
    (hfresh : ¬ s.current key → ∀ k ∈ keys, ¬ (k.incarnation = key.incarnation ∧ k.epoch = key.epoch)) :
    (s.foldMark key).Windowed (keys ++ [key]) := by
  unfold slides at hslides
  by_cases hcurrent : s.foldedIncarnation ≠ key.incarnation ∨ s.foldedEpoch ≠ key.epoch
  · have hnew : ¬ s.current key := fun hkey => hcurrent.elim (fun h => h hkey.1.symm) (fun h => h hkey.2.symm)
    simp only [if_pos hcurrent] at hslides
    exact .foldMark_first hslides hnew (hfresh hnew)
  · rw [if_neg hcurrent] at hslides
    have hkey : s.current key := by
      simp only [ne_eq, not_or, not_not] at hcurrent
      exact ⟨hcurrent.1.symm, hcurrent.2.symm⟩
    by_cases hlow : key.sequence.value < s.foldedSeqLow
    · simp [hlow] at hslides
    have hle : s.foldedSeqLow.toNat ≤ key.sequence.value.toNat := UInt64.le_iff_toNat_le.1 (UInt64.not_lt.1 hlow)
    by_cases hwithin : key.sequence.value < s.foldedSeqLow + 64
    · rw [UInt64.lt_iff_toNat_lt, Windowed.toNat_low s h.room] at hwithin
      exact h.foldMark_within hkey hle hwithin
    · simp only [if_neg hlow, if_neg hwithin] at hslides
      rw [UInt64.lt_iff_toNat_lt, Windowed.toNat_low s h.room] at hwithin
      exact h.foldMark_past hkey (Nat.not_lt.1 hwithin) hslides.1 hslides.2

/-! ## A run of folds -/

/-- What `fold_mark` and `fold_contains` read and write. -/
def window (s : FoldState) : IncarnationId × EpochId × Bool × UInt64 × UInt64 :=
  (s.foldedIncarnation, s.foldedEpoch, s.foldedSeqExact, s.foldedSeqLow, s.foldedSeqBits)

theorem windowed_congr {s' : FoldState} (hwindow : s'.window = s.window) : s'.Windowed keys ↔ s.Windowed keys := by
  have hall : ∀ {a b : FoldState}, a.window = b.window → a.Windowed keys → b.Windowed keys := by
    intro a b hwindow h
    simp only [window, Prod.mk.injEq] at hwindow
    obtain ⟨hincarnation, hepoch, hexact, hlow, hbits⟩ := hwindow
    have hcurrent : ∀ k, b.current k ↔ a.current k := by
      intro k
      rw [current, current, hincarnation, hepoch]
    constructor
    · rw [← hexact]
      exact h.exact
    · rw [← hlow]
      exact h.room
    · simp only [hcurrent, ← hlow, ← hbits]
      exact h.bits
    · simp only [hcurrent, ← hlow]
      exact h.above
    · simp only [hcurrent, ← hlow]
      exact h.below
  exact ⟨hall hwindow, hall hwindow.symm⟩

theorem slides_congr {s' : FoldState} (hwindow : s'.window = s.window) : s'.slides key ↔ s.slides key := by
  simp only [window, Prod.mk.injEq] at hwindow
  obtain ⟨hincarnation, hepoch, -, hlow, hbits⟩ := hwindow
  rw [slides, slides, hincarnation, hepoch, hlow, hbits]

/-- Applying an observation does not touch the window. -/
theorem window_applyObservation (policy : CounterPolicy) (s : FoldState) (obs : Observation) :
    (applyObservation policy s obs).window = s.window := by
  have hnote : ∀ (s : FoldState) (kind : Option AnomalyKind), (s.noteOpt kind).window = s.window := by
    intro s kind
    cases kind <;> rfl
  have hfence : ∀ s : FoldState, (fence s obs policy).window = s.window := by
    intro s
    unfold fence
    split
    · cases s.currentIncarnation.valid <;> rfl
    · split
      · cases (policy.honorExplicitCounterReset && kindAnnouncesCounterRestart obs.kind) <;> rfl
      · rfl
  have hcover : ∀ s : FoldState, (cover s obs).window = s.window := by
    intro s
    unfold cover
    cases obs.direction <;> cases obs.evidence == .Complete <;> rfl
  have hdeclare : ∀ s : FoldState, (declare s obs).window = s.window := by
    intro s
    unfold declare
    cases obs.kind <;> rfl
  have hcount : ∀ s : FoldState, (count s obs policy).window = s.window := by
    intro s
    have hset : ∀ (s : FoldState) (d : DirectionalAccounting), (s.setAccounting d obs.direction).window = s.window := by
      intro s d
      cases obs.direction <;> rfl
    have hlast : ∀ (s : FoldState) (progress late : Bool), (if late then
        (if progress then { s with lastProgressAt :=
          if s.lastProgressAt < obs.observedAt then obs.observedAt else s.lastProgressAt
                                   observedProgress := true } else s).note .IncompleteEvidence
        else if progress then { s with lastProgressAt :=
          if s.lastProgressAt < obs.observedAt then obs.observedAt else s.lastProgressAt
                                       observedProgress := true } else s).window = s.window := by
      intro s progress late
      cases progress <;> cases late <;> rfl
    simp only [count]
    rw [hlast, hset, hnote, hnote, hnote]
  unfold applyObservation
  have hstart : (fence (rollUp s obs) obs policy).window = s.window := hfence _
  rw [← hstart]
  generalize fence (rollUp s obs) obs policy = t
  by_cases hd : t.declared = true
  · rw [if_pos hd]
    rfl
  · rw [if_neg hd, hcount]
    exact (hdeclare _).trans (hcover _)

/-- **Folding an entry out keeps the window right** where it slides as it should. -/
theorem Windowed.foldEntry (policy : CounterPolicy) {obs : Observation} (h : s.Windowed keys)
    (hslides : s.slides obs.canonicalKey)
    (hfresh : ¬ s.current obs.canonicalKey →
      ∀ k ∈ keys, ¬ (k.incarnation = obs.canonicalKey.incarnation ∧ k.epoch = obs.canonicalKey.epoch)) :
    (SourceLedger.foldEntry policy s obs).Windowed (keys ++ [obs.canonicalKey]) := by
  have hwindow := window_applyObservation policy s obs
  have hcurrent : (applyObservation policy s obs).current obs.canonicalKey ↔ s.current obs.canonicalKey := by
    simp only [window, Prod.mk.injEq] at hwindow
    rw [current, current, hwindow.1, hwindow.2.1]
  have hmarked := Windowed.foldMark ((windowed_congr hwindow).2 h) ((slides_congr hwindow).2 hslides)
    (fun hnew => hfresh (fun hold => hnew (hcurrent.2 hold)))
  have hentry : (SourceLedger.foldEntry policy s obs).window
      = ((applyObservation policy s obs).foldMark obs.canonicalKey).window := rfl
  exact (windowed_congr hentry).2 hmarked

end FoldState

/-- Every mark of the entries that are folded leaves the window right. -/
def Slides (policy : CounterPolicy) : FoldState → List Observation → Prop :=
  Run.Along (SourceLedger.foldEntry policy) (fun s obs => s.slides obs.canonicalKey)

/-- **A run of folds keeps the window right**, in canonical order from nothing. -/
theorem windowed_foldl (policy : CounterPolicy) (folded : List Observation)
    (hascending : folded.Pairwise (fun a b => a.canonicalKey < b.canonicalKey)) (hslides : Slides policy {} folded) :
    (folded.foldl (SourceLedger.foldEntry policy) {}).Windowed (folded.map (·.canonicalKey)) := by
  induction folded using List.reverseRecOn with
  | nil => constructor <;> simp
  | append_singleton folded obs ih =>
    obtain ⟨hbefore, -, hlast⟩ := List.pairwise_append.1 hascending
    obtain ⟨hrun, hone, -⟩ := Run.along_append.1 hslides
    rw [List.foldl_append, List.map_append]
    refine (ih hbefore hrun).foldEntry policy hone fun hnew k hk hsame => hnew ?_
    -- the last that was folded stands between the two
    obtain ⟨o, ho, rfl⟩ := List.mem_map.1 hk
    rcases List.eq_nil_or_concat folded with rfl | ⟨first, last, hconcat⟩
    · exact absurd ho List.not_mem_nil
    · rw [List.concat_eq_append] at hconcat
      subst hconcat
      have hbound := foldedBound_foldEntry policy (first.foldl (SourceLedger.foldEntry policy) {}) last
      have hcurrent : (Run.exec (SourceLedger.foldEntry policy) {} (first ++ [last])).foldedBound =
          last.canonicalKey := by
        rw [Run.exec_append]
        exact hbound
      have hle : o.canonicalKey = last.canonicalKey ∨ o.canonicalKey < last.canonicalKey := by
        rcases List.mem_append.1 ho with ho | ho
        · exact .inr ((List.pairwise_append.1 hbefore).2.2 o ho last (List.mem_singleton.2 rfl))
        · exact .inl (by rw [List.mem_singleton.1 ho])
      have hlt := hlast last (by simp) obs (List.mem_singleton.2 rfl)
      have hinterval : obs.canonicalKey.incarnation = last.canonicalKey.incarnation ∧
          obs.canonicalKey.epoch = last.canonicalKey.epoch := by
        have hup := CanonicalKey.interval_le hlt
        rcases hle with hle | hle
        · exact ⟨hle ▸ hsame.1.symm, hle ▸ hsame.2.symm⟩
        · have hdown := CanonicalKey.interval_le hle
          rw [hsame.1, hsame.2] at hdown
          grind
      refine ⟨hinterval.1.trans ?_, hinterval.2.trans ?_⟩
      · rw [← hcurrent]
        rfl
      · rw [← hcurrent]
        rfl

/-! ## Redelivery below the bound -/

namespace SourceLedger

/-- Some folded observation is of the incarnation, the epoch and the sequence of the key. -/
def FoldedUnder (folded : List Observation) (key : CanonicalKey) : Prop :=
  ∃ o ∈ folded, o.key.incarnation = key.incarnation ∧ o.key.epoch = key.epoch ∧ o.key.sequence = key.sequence

/-- The sequence of the key is within the last 64 that were folded of the incarnation and the epoch that were folded
last. -/
def Recent (folded : List Observation) (key : CanonicalKey) : Prop :=
  (∃ last, folded.getLast? = some last ∧ last.key.incarnation = key.incarnation ∧ last.key.epoch = key.epoch) ∧
    ∀ o ∈ folded, o.key.incarnation = key.incarnation → o.key.epoch = key.epoch →
      o.key.sequence.value.toNat < key.sequence.value.toNat + 64

/-- **Redelivery is answered exactly**: as a duplicate only when the key was folded, as a duplicate when it was and
its sequence is recent, and as stale when not as a duplicate. -/
structure AnsweredExactly (folded : List Observation) (key : CanonicalKey) (answer : InsertResult) : Prop where
  only : answer.kind = .Duplicate → ∃ o ∈ folded, o.canonicalKey = key
  recent : (∃ o ∈ folded, o.canonicalKey = key) → Recent folded key → answer.kind = .Duplicate
  stale : answer.kind ≠ .Duplicate → answer.kind = .Refused ∧ answer.code = .StaleRevision

variable {l : SourceLedger} {folded : List Observation} {obs : Observation}

/-- The answer to an observation of the folded region. -/
theorem insert_insideFolded (hown : l.belongs obs = .ok ()) (hinside : l.insideFolded obs = true) :
    ((l.insert obs).2.kind = .Duplicate ↔ l.prefixState.foldContains obs.canonicalKey = true) ∧
      ((l.insert obs).2.kind ≠ .Duplicate → (l.insert obs).2.kind = .Refused ∧
        (l.insert obs).2.code = .StaleRevision) := by
  unfold insert
  simp only [hown, hinside, if_true]
  cases l.prefixState.foldContains obs.canonicalKey <;> simp

/-- **While the window is right it recognises the sequences that are recent and were folded**, under whatever
revision. -/
theorem foldContains_iff_recent {s : FoldState} (h : s.Windowed (folded.map (·.canonicalKey))) {last : Observation}
    (hlast : folded.getLast? = some last) (hbound : s.foldedBound = last.canonicalKey) (key : CanonicalKey) :
    s.foldContains key = true ↔ Recent folded key ∧ FoldedUnder folded key := by
  have hincarnation : s.foldedIncarnation = last.key.incarnation := congrArg CanonicalKey.incarnation hbound
  have hepoch : s.foldedEpoch = last.key.epoch := congrArg CanonicalKey.epoch hbound
  have hmem : ∀ o ∈ folded, o.canonicalKey ∈ folded.map (·.canonicalKey) := fun o ho => List.mem_map.2 ⟨o, ho, rfl⟩
  rw [h.foldContains_iff]
  constructor
  · rintro ⟨hcurrent, hle, k, hk, hkcurrent, hseq⟩
    obtain ⟨o, ho, rfl⟩ := List.mem_map.1 hk
    refine ⟨⟨⟨last, hlast, ?_, ?_⟩, fun o' ho' hi he => ?_⟩, o, ho, ?_, ?_, hseq⟩
    · rw [hcurrent.1, hincarnation]
    · rw [hcurrent.2, hepoch]
    · have habove := h.above o'.canonicalKey (hmem o' ho') ⟨hi.trans hcurrent.1, he.trans hcurrent.2⟩
      exact lt_of_lt_of_le habove (Nat.add_le_add_right hle 64)
    · exact hkcurrent.1.trans hcurrent.1.symm
    · exact hkcurrent.2.trans hcurrent.2.symm
  · rintro ⟨⟨⟨last', hlast', hi, he⟩, hrecent⟩, o, ho, hoi, hoe, hoseq⟩
    rw [hlast] at hlast'
    cases hlast'
    have hcurrent : s.current key := ⟨hi.symm.trans hincarnation.symm, he.symm.trans hepoch.symm⟩
    have hocurrent : s.current o.canonicalKey := ⟨hoi.trans hcurrent.1, hoe.trans hcurrent.2⟩
    refine ⟨hcurrent, ?_, o.canonicalKey, hmem o ho, hocurrent, hoseq⟩
    rcases h.below o.canonicalKey (hmem o ho) hocurrent with hle | ⟨t, ht, htcurrent, htop⟩
    · exact hoseq ▸ hle
    · obtain ⟨top, htop', rfl⟩ := List.mem_map.1 ht
      have hnear := hrecent top htop' (htcurrent.1.trans hcurrent.1.symm) (htcurrent.2.trans hcurrent.2.symm)
      have htop : top.key.sequence.value.toNat = s.foldedSeqLow.toNat + 63 := htop
      omega

/-- **The dedupe window.** After any insertions all of whose folds leave the window right, an observation of the
folded region is answered exactly if and only if it is not one whose sequence is recent and was folded, but under
other revisions only. -/
theorem dedupes_iff (source : SourceId) (generation : FlowGeneration) (policy : CounterPolicy)
    (arrivals : List Observation)
    (capacity : Nat) (hfew : arrivals.length < 2 ^ 32)
    (hslides : Slides policy {} (((configure source generation capacity).setCounterPolicy policy).foldedBy arrivals))
    (obs : Observation) (hown : (filled source generation policy arrivals capacity).belongs obs = .ok ())
    (hinside : (filled source generation policy arrivals capacity).insideFolded obs = true) :
    let folded := ((configure source generation capacity).setCounterPolicy policy).foldedBy arrivals
    AnsweredExactly folded obs.canonicalKey ((filled source generation policy arrivals capacity).insert obs).2 ↔
      (Recent folded obs.canonicalKey → FoldedUnder folded obs.canonicalKey →
        ∃ o ∈ folded, o.canonicalKey = obs.canonicalKey) := by
  intro folded
  obtain ⟨hholds, hlength, -⟩ := holds_filled source generation policy capacity hfew
  obtain ⟨-, -, hpolicy, -⟩ := insertAll_source
    ((configure source generation capacity).setCounterPolicy policy) arrivals
  replace hpolicy : (filled source generation policy arrivals capacity).counterPolicy = policy := hpolicy
  obtain ⟨hduplicate, hstale⟩ := insert_insideFolded hown hinside
  obtain ⟨o, ho, -⟩ := (hholds.insideFolded_iff (by rw [List.length_append] at hlength; omega) obs).1 hinside
  obtain ⟨last, hlast⟩ : ∃ last, folded.getLast? = some last :=
    ⟨_, List.getLast?_eq_some_getLast (List.ne_nil_of_mem ho)⟩
  have hwindowed : (filled source generation policy arrivals capacity).prefixState.Windowed
      (folded.map (·.canonicalKey)) := by
    rw [hholds.prefixState, hpolicy]
    exact windowed_foldl policy folded (List.pairwise_append.1 hholds.ascending).1 hslides
  rw [foldContains_iff_recent hwindowed hlast (hholds.foldedBound last hlast)] at hduplicate
  have hunder : (∃ o ∈ folded, o.canonicalKey = obs.canonicalKey) → FoldedUnder folded obs.canonicalKey := by
    rintro ⟨o, ho, hkey⟩
    exact ⟨o, ho, congrArg CanonicalKey.incarnation hkey, congrArg CanonicalKey.epoch hkey,
      congrArg CanonicalKey.sequence hkey⟩
  constructor
  · intro hexact hrecent hfolded
    exact hexact.only (hduplicate.2 ⟨hrecent, hfolded⟩)
  · intro hrevision
    refine ⟨fun hkind => ?_, fun hkey hrecent => hduplicate.2 ⟨hrecent, hunder hkey⟩, hstale⟩
    obtain ⟨hrecent, hfolded⟩ := hduplicate.1 hkind
    exact hrevision hrecent hfolded

/-- A ledger of capacity one that has folded the revisions 1 and 2. -/
theorem dedupes_iff_readings :
    let folded := ((configure ⟨1⟩ ⟨⟨7⟩, ⟨1⟩⟩ 1).setCounterPolicy {}).foldedBy
      [byteReading 1 10, byteReading 2 25, byteReading 3 5]
    let l := filled ⟨1⟩ ⟨⟨7⟩, ⟨1⟩⟩ {} [byteReading 1 10, byteReading 2 25, byteReading 3 5] 1
    AnsweredExactly folded (byteReading 2 25).canonicalKey (l.insert (byteReading 2 25)).2 ↔
      (Recent folded (byteReading 2 25).canonicalKey → FoldedUnder folded (byteReading 2 25).canonicalKey →
        ∃ o ∈ folded, o.canonicalKey = (byteReading 2 25).canonicalKey) := by
  have hfolded : ((configure ⟨1⟩ ⟨⟨7⟩, ⟨1⟩⟩ 1).setCounterPolicy {}).foldedBy
    [byteReading 1 10, byteReading 2 25, byteReading 3 5]
      = [byteReading 1 10, byteReading 2 25] := by decide
  exact dedupes_iff ⟨1⟩ ⟨⟨7⟩, ⟨1⟩⟩ {} [byteReading 1 10, byteReading 2 25, byteReading 3 5] 1 (by decide)
    (hfolded ▸ ⟨by decide, by decide, trivial⟩) (byteReading 2 25) (by decide) (by decide)

/-- The revisions and sequences 1 and 100 are folded. The second slides the window to the left, and is then not
recognised. -/
theorem slid_out_of_the_window :
    ¬ ∀ (source : SourceId) (generation : FlowGeneration) (policy : CounterPolicy) (arrivals : List Observation)
      (capacity : Nat)
      (obs : Observation), (filled source generation policy arrivals capacity).belongs obs = .ok () →
      (filled source generation policy arrivals capacity).insideFolded obs = true →
      AnsweredExactly (((configure source generation capacity).setCounterPolicy policy).foldedBy arrivals)
        obs.canonicalKey
        ((filled source generation policy arrivals capacity).insert obs).2 := by
  intro h
  have hfolded : ((configure ⟨1⟩ ⟨⟨7⟩, ⟨1⟩⟩ 1).setCounterPolicy {}).foldedBy
      [byteReading 1 10, byteReading 100 25, byteReading 101 30] = [byteReading 1 10, byteReading 100 25] := by decide
  have hexact := h ⟨1⟩ ⟨⟨7⟩, ⟨1⟩⟩ {} [byteReading 1 10, byteReading 100 25, byteReading 101 30] 1
    (byteReading 100 25)
    (by decide) (by decide)
  rw [hfolded] at hexact
  have hrecent : Recent [byteReading 1 10, byteReading 100 25] (byteReading 100 25).canonicalKey :=
    ⟨⟨byteReading 100 25, by decide, by decide, by decide⟩, by decide⟩
  exact absurd (hexact.recent ⟨byteReading 100 25, by simp, rfl⟩ hrecent) (by decide)

end SourceLedger

end FlowObs
