import Mathlib.Data.List.DropRight
import Mathlib.Data.Nat.ModEq
import Mathlib.Tactic.Common

/-!
# A bounded ring

A ring keeps the newest `capacity` elements that were pushed, oldest first from `head`. Slots that hold no element
hold the default one. `mem_buffer_push` says where the content of a slot comes from, `foldl_push_of_room` when nothing
is lost. For a well-formed ring, pushing and resizing keep the newest elements of what it held (`toVector_push`,
`toVector_setCapacity`), and what they drop is counted (`counted_push`, `counted_setCapacity`).
-/

namespace FlowObs

/-- A ring buffer: `size` elements from index `head` on, modulo `capacity`. -/
structure Ring (α : Type) where
  buffer : List α := []
  head : Nat := 0
  size : Nat := 0
  capacity : Nat := 0
  dropped : UInt64 := 0
deriving DecidableEq, Repr, Inhabited

namespace Ring

variable {α : Type} [Inhabited α]

/-- The elements, oldest first. -/
def toVector (r : Ring α) : List α :=
  (List.range r.size).map (fun i => r.buffer.getD ((r.head + i) % r.capacity) default)

/-- The newest `limit` elements, oldest first. -/
def tail (r : Ring α) (limit : Nat) : List α :=
  let take := min limit r.size
  (List.range take).map (fun i => r.buffer.getD ((r.head + (r.size - take + i)) % r.capacity) default)

/-- Change the capacity, keeping the newest elements. -/
def setCapacity (r : Ring α) (capacity : Nat) : Ring α :=
  if capacity = r.capacity ∧ r.buffer.length = r.capacity then r
  else if capacity = 0 then { r with buffer := [], head := 0, size := 0, capacity := 0 }
  else
    let ordered := r.toVector
    let keep := min ordered.length capacity
    let skip := ordered.length - keep
    { buffer := ordered.drop skip ++ List.replicate (capacity - keep) default
      head := 0, size := keep, capacity := capacity, dropped := r.dropped + UInt64.ofNat skip }

/-- Push an element, overwriting the oldest one when the ring is full. -/
def push (r : Ring α) (event : α) : Ring α :=
  if r.capacity = 0 then { r with dropped := r.dropped + 1 }
  else if r.size < r.capacity then
    { r with buffer := r.buffer.set ((r.head + r.size) % r.capacity) event, size := r.size + 1 }
  else
    { r with buffer := r.buffer.set r.head event, head := (r.head + 1) % r.capacity, dropped := r.dropped + 1 }

omit [Inhabited α] in
/-- A slot holds what it held or the element that is pushed. -/
theorem mem_buffer_push {r : Ring α} {event a : α} (h : a ∈ (r.push event).buffer) : a ∈ r.buffer ∨ a = event := by
  unfold push at h
  split at h
  · exact .inl h
  · split at h <;> exact List.mem_or_eq_of_mem_set h

/-- An element is in a slot, or is the default one. -/
theorem mem_toVector {r : Ring α} {a : α} (h : a ∈ r.toVector) : a ∈ r.buffer ∨ a = default := by
  obtain ⟨i, -, rfl⟩ := List.mem_map.1 h
  rw [List.getD_eq_getElem?_getD]
  cases hi : r.buffer[(r.head + i) % r.capacity]? with
  | none => exact .inr rfl
  | some b => exact .inl (List.mem_of_getElem? hi)

theorem mem_buffer_setCapacity {r : Ring α} {n : Nat} {a : α} (h : a ∈ (r.setCapacity n).buffer) :
    a ∈ r.buffer ∨ a = default := by
  unfold setCapacity at h
  split at h
  · exact .inl h
  · split at h
    · cases h
    · rcases List.mem_append.1 h with h | h
      · exact mem_toVector (List.mem_of_mem_drop h)
      · exact .inr (List.eq_of_mem_replicate h)

theorem length_toVector (r : Ring α) : r.toVector.length = r.size := by
  rw [toVector, List.length_map, List.length_range]

theorem getElem_toVector (r : Ring α) {i : Nat} (h : i < r.toVector.length) :
    r.toVector[i] = r.buffer.getD ((r.head + i) % r.capacity) default := by
  simp [toVector]

/-- The newest elements are the end of all. -/
theorem tail_eq_drop (r : Ring α) (limit : Nat) : r.tail limit = r.toVector.drop (r.size - min limit r.size) := by
  have hle : min limit r.size ≤ r.size := Nat.min_le_right limit r.size
  refine List.ext_getElem ?_ fun i h₁ h₂ => ?_
  · rw [tail, List.length_map, List.length_range, List.length_drop, length_toVector]
    omega
  · simp [tail, toVector, List.getElem_drop]

omit [Inhabited α] in
/-- **Elements for which a ring has room** push nothing out. -/
theorem foldl_push_of_room {l : List α} {r : Ring α} (h : r.size + l.length ≤ r.capacity) :
    (l.foldl push r).size = r.size + l.length ∧ (l.foldl push r).capacity = r.capacity ∧
      (l.foldl push r).dropped = r.dropped := by
  induction l generalizing r with
  | nil => exact ⟨rfl, rfl, rfl⟩
  | cons a l ih =>
    rw [List.length_cons] at h
    have hpush : r.push a = { r with buffer := r.buffer.set ((r.head + r.size) % r.capacity) a, size :=
        r.size + 1 } := by
      rw [push, if_neg (by omega), if_pos (by omega)]
    have hroom : (r.push a).size + l.length ≤ (r.push a).capacity := by
      rw [hpush]
      show r.size + 1 + l.length ≤ r.capacity
      omega
    obtain ⟨hsize, hcapacity, hdropped⟩ := ih hroom
    rw [List.foldl_cons, hsize, hcapacity, hdropped, hpush, List.length_cons]
    refine ⟨?_, rfl, rfl⟩
    show r.size + 1 + l.length = r.size + (l.length + 1)
    omega

/-- The ring has the capacity `n` and is not overfull. -/
structure Fits (r : Ring α) (n : Nat) : Prop where
  capacity : r.capacity = n
  size : r.size ≤ n

omit [Inhabited α] in
theorem Fits.push {r : Ring α} {n : Nat} (h : r.Fits n) (a : α) : (r.push a).Fits n := by
  have hcapacity := h.capacity
  have hsize := h.size
  unfold Ring.push
  split
  · exact ⟨hcapacity, hsize⟩
  · split
    · refine ⟨hcapacity, ?_⟩
      show r.size + 1 ≤ n
      omega
    · exact ⟨hcapacity, hsize⟩

/-- The empty ring of a capacity. -/
theorem setCapacity_empty (n : Nat) :
    (({} : Ring α).setCapacity n).size = 0 ∧ (({} : Ring α).setCapacity n).capacity = n ∧
    (({} : Ring α).setCapacity n).dropped = 0 := by
  unfold setCapacity
  split
  · rename_i h
    exact ⟨rfl, h.1.symm, rfl⟩
  · split
    · rename_i h
      exact ⟨rfl, h.symm, rfl⟩
    · exact ⟨rfl, rfl, rfl⟩

/-! ## The newest elements -/

/-- One slot for each element of the capacity, and no more elements than slots. -/
structure WellFormed (r : Ring α) : Prop where
  buffer : r.buffer.length = r.capacity
  head : r.head < max 1 r.capacity
  size : r.size ≤ r.capacity

omit [Inhabited α] in
theorem WellFormed.empty : ({} : Ring α).WellFormed := ⟨rfl, Nat.one_pos, le_rfl⟩

omit [Inhabited α] in
/-- Two positions of the ring within one turn share a slot only when they are the same. -/
theorem slot_inj {c h i j : Nat} (hi : i < c) (hj : j < c) : (h + i) % c = (h + j) % c ↔ i = j := by
  refine ⟨fun heq => ?_, fun heq => by rw [heq]⟩
  have hmod : i ≡ j [MOD c] := Nat.ModEq.add_left_cancel' h heq
  rwa [Nat.ModEq, Nat.mod_eq_of_lt hi, Nat.mod_eq_of_lt hj] at hmod

omit [Inhabited α] in
theorem WellFormed.push {r : Ring α} (h : r.WellFormed) (a : α) : (r.push a).WellFormed := by
  obtain ⟨hbuffer, hhead, hsize⟩ := h
  unfold Ring.push
  split
  · exact ⟨hbuffer, hhead, hsize⟩
  · rename_i hpos
    split
    · refine ⟨by rw [List.length_set]; exact hbuffer, hhead, ?_⟩
      show r.size + 1 ≤ r.capacity
      omega
    · refine ⟨by rw [List.length_set]; exact hbuffer, ?_, hsize⟩
      exact lt_of_lt_of_le (Nat.mod_lt _ (by omega)) (le_max_right 1 r.capacity)

/-- **A push keeps the newest elements.** -/
theorem toVector_push {r : Ring α} (h : r.WellFormed) (a : α) :
    (r.push a).toVector = (r.toVector ++ [a]).rtake r.capacity := by
  obtain ⟨hbuffer, hhead, hsize⟩ := h
  have hlen := r.length_toVector
  unfold Ring.push
  by_cases hzero : r.capacity = 0
  · rw [if_pos hzero, hzero, List.rtake_zero]
    exact List.eq_nil_of_length_eq_zero (by rw [length_toVector]; show r.size = 0; omega)
  rw [if_neg hzero]
  by_cases hroom : r.size < r.capacity
  · -- the element goes into the slot behind the newest one, which holds none
    rw [if_pos hroom, List.rtake, List.length_append, hlen, List.length_singleton, Nat.sub_eq_zero_of_le (by omega),
      List.drop_zero]
    show (List.range (r.size + 1)).map _ = _
    rw [List.range_succ, List.map_append, List.map_singleton]
    refine congrArg₂ _ (List.map_congr_left fun i hi => ?_) ?_
    · have hlt := List.mem_range.1 hi
      have hne : (r.head + r.size) % r.capacity ≠ (r.head + i) % r.capacity :=
        fun heq => absurd ((slot_inj hroom (by omega)).1 heq) (by omega)
      simp only [List.getD_eq_getElem?_getD, List.getElem?_set, if_neg hne]
    · have hslot : (r.head + r.size) % r.capacity < r.buffer.length := hbuffer ▸ Nat.mod_lt _ (by omega)
      simp [List.getD_eq_getElem?_getD, hslot]
  · -- the element takes the slot of the oldest one, and the next one is the oldest
    have hfull : r.size = r.capacity := by omega
    have hheadlt : r.head < r.capacity := by omega
    rw [if_neg hroom]
    have hdrop : (r.toVector ++ [a]).rtake r.capacity = r.toVector.drop 1 ++ [a] := by
      rw [List.rtake, List.length_append, hlen, List.length_singleton, hfull, Nat.add_sub_cancel_left,
        List.drop_append_of_le_length (by omega)]
    rw [hdrop]
    refine List.ext_getElem ?_ fun i h₁ h₂ => ?_
    · rw [length_toVector, List.length_append, List.length_drop, hlen, List.length_singleton]
      show r.size = _
      omega
    · have hi : i < r.capacity := by
        rw [length_toVector] at h₁
        exact hfull ▸ h₁
      have hnext : r.head + 1 + i = r.head + (i + 1) := by omega
      by_cases hlast : i + 1 = r.capacity
      · have hturn : (r.head + (i + 1)) % r.capacity = r.head := by
          rw [hlast, Nat.add_mod_right, Nat.mod_eq_of_lt hheadlt]
        rw [List.getElem_append_right (by rw [List.length_drop, hlen]; omega)]
        simp [toVector, hnext, hturn, List.getD_eq_getElem?_getD, hbuffer, hheadlt]
      · have hne : r.head ≠ (r.head + (i + 1)) % r.capacity := by
          intro heq
          have hback : (r.head + 0) % r.capacity = (r.head + (i + 1)) % r.capacity := by
            rwa [Nat.add_zero, Nat.mod_eq_of_lt hheadlt]
          exact absurd ((slot_inj (by omega) (by omega)).1 hback) (by omega)
        rw [List.getElem_append_left (by rw [List.length_drop, hlen]; omega)]
        simp [toVector, hnext, List.getD_eq_getElem?_getD, List.getElem?_set, hne]

/-- **Resizing keeps the newest elements.** -/
theorem toVector_setCapacity {r : Ring α} (h : r.WellFormed) {n : Nat} (hn : 0 < n) :
    (r.setCapacity n).toVector = r.toVector.rtake n := by
  obtain ⟨hbuffer, hhead, hsize⟩ := h
  have hlen := r.length_toVector
  unfold setCapacity
  by_cases hsame : n = r.capacity ∧ r.buffer.length = r.capacity
  · rw [if_pos hsame, List.rtake, hlen, hsame.1, Nat.sub_eq_zero_of_le hsize, List.drop_zero]
  · rw [if_neg hsame, if_neg (by omega), List.rtake]
    dsimp only
    rw [show r.toVector.length - min r.toVector.length n = r.toVector.length - n by omega]
    refine List.ext_getElem ?_ fun i h₁ h₂ => ?_
    · rw [length_toVector, List.length_drop]
      show min r.toVector.length n = _
      omega
    · have hi : i < n := by
        rw [length_toVector] at h₁
        exact lt_of_lt_of_le h₁ (Nat.min_le_right _ _)
      rw [getElem_toVector]
      dsimp only
      rw [Nat.zero_add, Nat.mod_eq_of_lt hi, List.getD_eq_getElem?_getD, List.getElem?_append_left h₂,
        List.getElem?_eq_getElem h₂]
      rfl

theorem WellFormed.setCapacity {r : Ring α} (h : r.WellFormed) {n : Nat} (hn : 0 < n) :
    (r.setCapacity n).WellFormed := by
  unfold Ring.setCapacity
  split
  · exact h
  · rw [if_neg (by omega)]
    refine ⟨?_, by show 0 < max 1 n; omega, Nat.min_le_right _ _⟩
    simp only [List.length_append, List.length_drop, List.length_replicate]
    omega

theorem capacity_setCapacity {r : Ring α} {n : Nat} (hn : 0 < n) : (r.setCapacity n).capacity = n := by
  unfold setCapacity
  split
  · rename_i h
    exact h.1.symm
  · rw [if_neg (by omega)]

omit [Inhabited α] in
theorem capacity_push (r : Ring α) (a : α) : (r.push a).capacity = r.capacity := by
  unfold push
  split
  · rfl
  · split <;> rfl

/-- The elements that are held and those that were dropped, as the 64-bit number of both. -/
def counted (r : Ring α) : UInt64 := UInt64.ofNat r.size + r.dropped

omit [Inhabited α] in
/-- A push counts its element. -/
theorem counted_push (r : Ring α) (a : α) : (r.push a).counted = r.counted + 1 := by
  unfold counted push
  split
  · exact (UInt64.add_assoc _ _ _).symm
  · split
    · show UInt64.ofNat (r.size + 1) + r.dropped = _
      rw [UInt64.ofNat_add, UInt64.add_assoc, UInt64.add_comm _ r.dropped, ← UInt64.add_assoc]
      rfl
    · exact (UInt64.add_assoc _ _ _).symm

/-- Resizing moves elements from one count to the other. -/
theorem counted_setCapacity (r : Ring α) {n : Nat} (hn : 0 < n) : (r.setCapacity n).counted = r.counted := by
  unfold counted setCapacity
  split
  · rfl
  · rw [if_neg (by omega)]
    have hlen := r.length_toVector
    have hsplit : min r.toVector.length n + (r.toVector.length - min r.toVector.length n) = r.size := by omega
    show UInt64.ofNat (min _ n) + (r.dropped + UInt64.ofNat _) = _
    rw [UInt64.add_comm r.dropped, ← UInt64.add_assoc, ← UInt64.ofNat_add, hsplit]

end Ring

end FlowObs
