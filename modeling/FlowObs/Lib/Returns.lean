import FlowObs.Lib.Binary

/-!
# Readers that refuse or agree

A reader agrees with what was written when it gives the value back and leaves what stands behind it, or fails
(`Returns`). That asks less than reading back: a reader with a bound may refuse what a writer without one has written,
as long as it takes it for nothing else. Only the fields for lengths limit it (`returns_blob`, `returns_list`).
-/

namespace FlowObs.Binary

/-- Where the bytes stand in front of others, the reader gives the value and leaves the others, or fails. -/
def Returns {α : Type} (read : Reader α) (bytes : List UInt8) (a : α) : Prop :=
  ∀ rest b left, read.run (bytes ++ rest) = some (b, left) → b = a ∧ left = rest

section Rules

variable {α β : Type} {x : Reader α} {f : α → Reader β} {p q : List UInt8} {a : α} {b : β}

theorem returns_of_run (h : ∀ rest, x.run (p ++ rest) = some (a, rest)) : Returns x p a := by
  intro rest b left hr
  rw [h] at hr
  cases hr
  exact ⟨rfl, rfl⟩

theorem returns_pure (a : α) : Returns (pure a : Reader α) [] a := returns_of_run fun _ => rfl

theorem returns_bind (hx : Returns x p a) (hf : Returns (f a) q b) : Returns (x >>= f) (p ++ q) b := by
  intro rest c left hr
  rw [List.append_assoc] at hr
  obtain ⟨⟨a', mid⟩, ha, hc⟩ := Option.bind_eq_some_iff.1 hr
  obtain ⟨rfl, rfl⟩ := hx _ _ _ ha
  exact hf _ _ _ hc

/-- The last field of a record. -/
theorem returns_last {g : α → β} (hx : Returns x p a) : Returns (x >>= fun a => pure (g a)) p (g a) := by
  have hlast : Returns (x >>= fun a => pure (g a)) (p ++ []) (g a) := returns_bind hx (returns_pure (g a))
  rwa [List.append_nil] at hlast

/-- **A blob whose length fits its field** is given back or refused. -/
theorem returns_blob {maxSize : Nat} {v : List UInt8} (h : v.length < 2 ^ 32) :
    Returns (readBlob maxSize) (blob v) v := by
  by_cases hsize : v.length ≤ maxSize
  · exact returns_of_run fun rest => readBlob_blob hsize h
  · intro rest b left hr
    have hl : (UInt32.ofNat v.length).toNat = v.length := by simpa using Nat.mod_eq_of_lt h
    simp only [readBlob, blob, List.append_assoc, StateT.run_bind, readU32_u32, Option.bind_eq_bind, Option.bind_some,
      hl, if_pos (Nat.not_le.1 hsize)] at hr
    cases hr

theorem returns_items {put : α → List UInt8} {l : List α} (h : ∀ a ∈ l, Returns x (put a) a) :
    Returns (readItems x l.length) (l.flatMap put) l := by
  induction l with
  | nil => exact returns_pure []
  | cons a l ih =>
    have htail := ih fun b hb => h b (List.mem_cons_of_mem _ hb)
    exact returns_bind (h a List.mem_cons_self) (returns_last htail)

theorem length_le_flatMap {put : α → List UInt8} {l : List α} (h : ∀ a ∈ l, put a ≠ []) :
    l.length ≤ (l.flatMap put).length := by
  induction l with
  | nil => exact Nat.le_refl _
  | cons a l ih =>
    have hhead := List.length_pos_iff.2 (h a List.mem_cons_self)
    have htail := ih fun b hb => h b (List.mem_cons_of_mem _ hb)
    rw [List.length_cons, List.flatMap_cons, List.length_append]
    omega

theorem length_le_of_mem_flatMap {put : α → List UInt8} {l : List α} (h : a ∈ l) :
    (put a).length ≤ (l.flatMap put).length := by
  obtain ⟨front, back, rfl⟩ := List.append_of_mem h
  rw [List.flatMap_append, List.flatMap_cons, List.length_append, List.length_append]
  omega

/-- **A list whose bytes fit the field of its count** is given back or refused, when its items are. -/
theorem returns_list {maxCount : Nat} {put : α → List UInt8} {l : List α} (hput : ∀ a ∈ l, put a ≠ [])
    (h : (putList put l).length < 2 ^ 32) (hx : ∀ a ∈ l, (put a).length < 2 ^ 32 → Returns x (put a) a) :
    Returns (readList maxCount x) (putList put l) l := by
  rw [putList, List.length_append, length_u32] at h
  have hcount : l.length < 2 ^ 32 := by
    have := length_le_flatMap hput
    omega
  have hl : (UInt32.ofNat l.length).toNat = l.length := by simpa using Nat.mod_eq_of_lt hcount
  refine returns_bind (returns_of_run (readU32_u32 _)) ?_
  rw [hl]
  split
  · intro rest b left hr
    cases hr
  · refine returns_items fun a ha => hx a ha ?_
    have hitem : (put a).length ≤ (l.flatMap put).length := length_le_of_mem_flatMap ha
    omega

/-- What is read from a whole input that was written. -/
theorem Returns.whole (h : Returns x p a) {b : α} {left : List UInt8} (hr : x.run p = some (b, left)) : b = a := by
  rw [← List.append_nil p] at hr
  exact (h _ _ _ hr).1

end Rules

end FlowObs.Binary
