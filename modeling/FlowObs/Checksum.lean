import FlowObs.Identity
import FlowObs.Lib.Crc
import Mathlib.Tactic.IntervalCases

/-!
# The checksum

`update` looks up one entry of the table for each byte, in as many calls as the caller likes. The bitwise definition
of CRC-32C feeds the bits of all bytes, lowest first, to a register with the generator 0x1EDC6F41 and reflects what is
left. Both are the same (`value_updates`), and a burst within four bytes always changes it (`crc32c_burst`).
-/

namespace FlowObs

/-! ## The incremental checksum -/

/-- The entries of `kCrc32cTable`. -/
def crcEntries : List UInt32 := (List.range 256).map fun i => kCrc32cTable (UInt32.ofNat i)

/-- `Crc32c`. -/
structure Crc32c where
  state : UInt32 := 0xFFFFFFFF
deriving DecidableEq, Repr

/-- `Crc32c::update`. -/
def Crc32c.update (crc : Crc32c) (data : Str) : Crc32c :=
  ⟨data.foldl (fun state b => crcEntries.getD ((state ^^^ b.toUInt32) &&& 0xFF).toNat 0 ^^^ (state >>> 8)) crc.state⟩

/-- `Crc32c::value`. -/
def Crc32c.value (crc : Crc32c) : UInt32 := crc.state ^^^ 0xFFFFFFFF

/-- Every index has its entry. -/
theorem crcEntries_getD (x : UInt32) : crcEntries.getD (x &&& 0xFF).toNat 0 = kCrc32cTable (x &&& 0xFF) := by
  have hlt : (x &&& 0xFF).toNat < 256 := by
    rw [UInt32.toNat_and]
    exact lt_of_le_of_lt Nat.and_le_right (by decide)
  have hlen : (x &&& 0xFF).toNat < crcEntries.length := by
    rw [crcEntries, List.length_map, List.length_range]
    exact hlt
  rw [List.getD_eq_getElem _ _ hlen]
  simp [crcEntries]

theorem Crc32c.update_eq (crc : Crc32c) (data : Str) : crc.update data = ⟨data.foldl crcByte crc.state⟩ := by
  unfold Crc32c.update
  simp only [crcEntries_getD]
  rfl

/-! ## Bit by bit -/

/-- The reflected generator. -/
abbrev crcPolynomial : BitVec 32 := 0x82F63B78#32

/-- The bits of a byte, the lowest first. -/
def byteBits (b : UInt8) : List Bool := (List.range 8).map fun i => b.toBitVec.getLsbD i

/-- The bits of a text. -/
def textBits (text : Str) : List Bool := text.flatMap byteBits

/-- CRC-32C by its definition: generator 0x1EDC6F41, all ones at first, and the reflected register inverted at the
end. -/
def bitwiseCrc32c (text : Str) : UInt32 :=
  .ofBitVec (((textBits text).foldl (Crc.feed 0x1EDC6F41#32) (BitVec.allOnes 32)).reverse ^^^ BitVec.allOnes 32)

theorem textBits_cons (b : UInt8) (text : Str) : textBits (b :: text) = byteBits b ++ textBits text := List.flatMap_cons

theorem length_byteBits (b : UInt8) : (byteBits b).length = 8 := by simp [byteBits]

theorem length_textBits (text : Str) : (textBits text).length = 8 * text.length := by
  induction text with
  | nil => rfl
  | cons b text ih =>
    rw [textBits_cons, List.length_append, length_byteBits, ih, List.length_cons]
    omega

theorem getD_byteBits (b : UInt8) (i : Nat) : (byteBits b).getD i false = b.toBitVec.getLsbD i := by
  by_cases hi : i < 8
  · rw [List.getD_eq_getElem _ _ (by rw [length_byteBits]; exact hi)]
    simp [byteBits]
  · rw [List.getD_eq_default _ _ (by rw [length_byteBits]; omega), BitVec.getLsbD_of_ge _ _ (by omega)]

/-- A byte is told from its bits. -/
theorem byteBits_inj {a b : UInt8} (h : byteBits a = byteBits b) : a = b := by
  apply UInt8.toBitVec_inj.1
  apply BitVec.eq_of_getLsbD_eq
  intro i _
  rw [← getD_byteBits, h, getD_byteBits]

/-- And a text from its. -/
theorem textBits_inj : ∀ {a b : Str}, textBits a = textBits b → a = b
  | [], [], _ => rfl
  | [], b :: bs, h => by
    have hlen := congrArg List.length h
    rw [length_textBits, length_textBits, List.length_cons, List.length_nil] at hlen
    omega
  | a :: as, [], h => by
    have hlen := congrArg List.length h
    rw [length_textBits, length_textBits, List.length_cons, List.length_nil] at hlen
    omega
  | a :: as, b :: bs, h => by
    obtain ⟨hhead, htail⟩ := List.append_inj h (by rw [length_byteBits, length_byteBits])
    rw [byteBits_inj hhead, textBits_inj htail]

theorem pack_byteBits (b : UInt8) : Crc.pack 32 (byteBits b) = b.toUInt32.toBitVec := by
  apply BitVec.eq_of_getLsbD_eq
  intro i hi
  rw [Crc.getLsbD_pack, getD_byteBits, UInt8.toBitVec_toUInt32, BitVec.getLsbD_setWidth]

/-! ## The table and the bits -/

theorem crcBit_toBitVec (crc : UInt32) : (crcBit crc).toBitVec = Crc.step crcPolynomial crc.toBitVec := by
  have hlow : crc &&& 1 ≠ 0 ↔ crc.toBitVec.getLsbD 0 = true := by
    have hand : (crc &&& 1).toBitVec = BitVec.setWidth 32 (BitVec.ofBool (crc.toBitVec.getLsbD 0)) := by
      rw [UInt32.toBitVec_and]
      exact BitVec.and_one_eq_setWidth_ofBool_getLsbD
    rw [ne_eq, ← UInt32.toBitVec_inj, hand]
    cases crc.toBitVec.getLsbD 0 <;> decide
  unfold crcBit Crc.step
  by_cases h : crc.toBitVec.getLsbD 0 = true
  · rw [if_pos (hlow.2 h), if_pos h]
    rfl
  · rw [if_neg (mt hlow.1 h), if_neg h]
    rfl

theorem kCrc32cTable_toBitVec (i : UInt32) : (kCrc32cTable i).toBitVec = (Crc.step crcPolynomial)^[8] i.toBitVec := by
  show (crcBit (crcBit (crcBit (crcBit (crcBit (crcBit (crcBit (crcBit i)))))))).toBitVec = _
  simp only [crcBit_toBitVec]
  rfl

/-- **One byte from the table** is its eight bits. -/
theorem crcByte_toBitVec (state : UInt32) (b : UInt8) :
    (crcByte state b).toBitVec = Crc.run crcPolynomial state.toBitVec (byteBits b) := by
  have hmask : ∀ i < 32, (0xFF#32).getLsbD i = decide (i < 8) := by decide
  have hbyte : b.toUInt32.toBitVec >>> 8 = 0#32 := by
    apply BitVec.eq_of_getLsbD_eq
    intro i _
    rw [UInt8.toBitVec_toUInt32, BitVec.getLsbD_ushiftRight, BitVec.getLsbD_setWidth,
      BitVec.getLsbD_of_ge b.toBitVec _ (by omega)]
    simp
  rw [Crc.run_eq_iterate _ _ _ (by rw [length_byteBits]; decide), length_byteBits, pack_byteBits,
    Crc.iterate_split _ 8 hmask, BitVec.ushiftRight_xor_distrib, hbyte, BitVec.xor_zero, crcByte, UInt32.toBitVec_xor,
    kCrc32cTable_toBitVec]
  rfl

theorem foldl_crcByte_toBitVec (state : UInt32) (text : Str) :
    (text.foldl crcByte state).toBitVec = Crc.run crcPolynomial state.toBitVec (textBits text) := by
  induction text generalizing state with
  | nil => rfl
  | cons b text ih =>
    rw [List.foldl_cons, ih, crcByte_toBitVec, textBits_cons, Crc.run_append]

theorem crc32c_eq_bitwise (text : Str) : crc32c text = bitwiseCrc32c text := by
  apply UInt32.toBitVec_inj.1
  obtain ⟨hpoly, hones⟩ : (0x1EDC6F41#32).reverse = crcPolynomial ∧
      (BitVec.allOnes 32).reverse = (0xFFFFFFFF : UInt32).toBitVec := by decide +kernel
  rw [crc32c, UInt32.toBitVec_xor, foldl_crcByte_toBitVec, bitwiseCrc32c, Crc.foldl_feed_reverse, hpoly, hones]
  rfl

/-- **Any way of splitting a text into updates** gives the checksum of the whole. -/
theorem value_updates (chunks : List Str) : (chunks.foldl Crc32c.update {}).value = bitwiseCrc32c chunks.flatten := by
  have hstate : ∀ crc : Crc32c, (chunks.foldl Crc32c.update crc).state = chunks.flatten.foldl crcByte crc.state := by
    induction chunks with
    | nil => exact fun _ => rfl
    | cons chunk chunks ih =>
      intro crc
      rw [List.foldl_cons, ih, Crc32c.update_eq, List.flatten_cons, List.foldl_append]
  rw [← crc32c_eq_bitwise, Crc32c.value, hstate]
  rfl

/-! ## Bursts -/

theorem crcPolynomial_constant : crcPolynomial.getLsbD (32 - 1) = true := by decide

/-- **A burst within four bytes changes the checksum**, whatever stands before and behind it. -/
theorem crc32c_burst {pre a b post : Str} (hlen : a.length = b.length) (hfour : a.length ≤ 4) (hne : a ≠ b) :
    crc32c (pre ++ a ++ post) ≠ crc32c (pre ++ b ++ post) := by
  intro h
  apply hne
  have hstate : (pre ++ a ++ post).foldl crcByte 0xFFFFFFFF = (pre ++ b ++ post).foldl crcByte 0xFFFFFFFF :=
    UInt32.xor_left_inj _ |>.1 h
  have hbits := congrArg UInt32.toBitVec hstate
  simp only [List.foldl_append, foldl_crcByte_toBitVec] at hbits
  have hburst := Crc.run_inj_state crcPolynomial_constant hbits
  refine textBits_inj (Crc.run_inj_bits crcPolynomial_constant ?_ ?_ hburst)
  · rw [length_textBits, length_textBits, hlen]
  · rw [length_textBits]
    omega

/-- Two texts of one length that are the same outside the four bytes from `start` on. -/
structure DifferWithinFour (start : Nat) (s t : Str) : Prop where
  length : s.length = t.length
  outside : ∀ j, j < start ∨ start + 4 ≤ j → s[j]? = t[j]?
  differ : s ≠ t

theorem split_window (start : Nat) (l : Str) : l.take start ++ (l.drop start).take 4 ++ l.drop (start + 4) = l := by
  rw [← List.drop_drop, List.append_assoc, List.take_append_drop, List.take_append_drop]

/-- What stands before the window, in it and behind it. -/
theorem DifferWithinFour.parts {start : Nat} {s t : Str} (h : DifferWithinFour start s t) :
    s.take start = t.take start ∧ s.drop (start + 4) = t.drop (start + 4) ∧
      ((s.drop start).take 4).length = ((t.drop start).take 4).length ∧
      (s.drop start).take 4 ≠ (t.drop start).take 4 := by
  have hbefore : s.take start = t.take start := by
    refine List.ext_getElem? fun j => ?_
    rw [List.getElem?_take, List.getElem?_take]
    split
    · exact h.outside j (.inl (by assumption))
    · rfl
  have hbehind : s.drop (start + 4) = t.drop (start + 4) := by
    refine List.ext_getElem? fun j => ?_
    rw [List.getElem?_drop, List.getElem?_drop]
    exact h.outside _ (.inr (by omega))
  refine ⟨hbefore, hbehind, by simp [h.length], fun heq => h.differ ?_⟩
  rw [← split_window start s, ← split_window start t, hbefore, heq, hbehind]

/-- **The checksum**: the incremental one over the table is the bitwise definition of the whole text, and it tells two
texts apart that differ only within four consecutive bytes. -/
theorem crc32c_refines : (∀ chunks : List Str, (chunks.foldl Crc32c.update {}).value = bitwiseCrc32c chunks.flatten) ∧
    (∀ text : Str, crc32c text = bitwiseCrc32c text) ∧
    ∀ (start : Nat) (s t : Str), DifferWithinFour start s t → crc32c s ≠ crc32c t := by
  refine ⟨value_updates, crc32c_eq_bitwise, fun start s t h => ?_⟩
  obtain ⟨hbefore, hbehind, hlen, hne⟩ := h.parts
  rw [← split_window start s, ← split_window start t, hbefore, hbehind]
  exact crc32c_burst hlen (by rw [List.length_take]; omega) hne

/-- Two texts of nine bytes, with the last two of a number exchanged. -/
theorem crc32c_refines_digits : crc32c (str "123456789") = bitwiseCrc32c (str "123456789") ∧
    crc32c (str "123456789") ≠ crc32c (str "123456798") := by
  have hwindow : DifferWithinFour 6 (str "123456789") (str "123456798") := by
    have hs : str "123456789" = [49, 50, 51, 52, 53, 54, 55, 56, 57] := by with_unfolding_all decide
    have ht : str "123456798" = [49, 50, 51, 52, 53, 54, 55, 57, 56] := by with_unfolding_all decide
    rw [hs, ht]
    refine ⟨rfl, fun j hj => ?_, by decide⟩
    rcases hj with hj | hj
    · interval_cases j <;> rfl
    · rw [List.getElem?_eq_none (by simp; omega), List.getElem?_eq_none (by simp; omega)]
  exact ⟨crc32c_refines.2.1 _, crc32c_refines.2.2 6 _ _ hwindow⟩

end FlowObs
