import FlowObs.Lib.Binary

/-!
# Canonical readers

A reader is canonical for a writer when it takes nothing but what the writer writes of the value that it gives
(`Spells`). Then no value has two spellings (`Spells.injective`). What a reader has consumed is followed through a
`bind` (`consumes_bind`), so that one fact about each primitive decides a whole format.
-/

namespace FlowObs.Binary

/-- Of whatever the reader gives and of the bytes that it took for it, `Q` is true. -/
def Consumes {α : Type} (read : Reader α) (Q : α → List UInt8 → Prop) : Prop :=
  ∀ bs a rest, read.run bs = some (a, rest) → ∃ used, bs = used ++ rest ∧ Q a used

/-- The reader takes what `put` writes of the value that it gives, and nothing else. -/
def Spells {α : Type} (read : Reader α) (put : α → List UInt8) : Prop := Consumes read (fun a used => used = put a)

section Rules

variable {α β : Type} {P : α → List UInt8 → Prop} {Q : β → List UInt8 → Prop} {x : Reader α} {f : α → Reader β}
variable {put : α → List UInt8}

theorem Spells.eq (h : Spells x put) {bs rest : List UInt8} {a : α} (hr : x.run bs = some (a, rest)) :
    bs = put a ++ rest := by
  obtain ⟨used, hbs, rfl⟩ := h bs a rest hr
  exact hbs

/-- **No value has two spellings.** -/
theorem Spells.injective (h : Spells x put) {bs bs' : List UInt8} {a : α} (hr : x.run bs = some (a, []))
    (hr' : x.run bs' = some (a, [])) : bs = bs' := (h.eq hr).trans (h.eq hr').symm

theorem Consumes.mono {R : α → List UInt8 → Prop} (hx : Consumes x P) (h : ∀ a used, P a used → R a used) :
    Consumes x R := by
  intro bs a rest hr
  obtain ⟨used, hbs, hp⟩ := hx bs a rest hr
  exact ⟨used, hbs, h a used hp⟩

theorem consumes_pure {b : β} (h : Q b []) : Consumes (pure b) Q := by
  intro bs a rest hr
  cases hr
  exact ⟨[], rfl, h⟩

theorem consumes_failure : Consumes (failure : Reader α) P := by
  intro bs a rest hr
  cases hr

theorem consumes_bind (hx : Consumes x P)
    (hf : ∀ a used, P a used → Consumes (f a) (fun b more => Q b (used ++ more))) :
    Consumes (x >>= f) Q := by
  intro bs b rest hr
  obtain ⟨⟨a, mid⟩, ha, hb⟩ := Option.bind_eq_some_iff.1 hr
  obtain ⟨used, rfl, hp⟩ := hx bs a mid ha
  obtain ⟨more, rfl, hq⟩ := hf a used hp mid b rest hb
  exact ⟨used ++ more, (List.append_assoc used more rest).symm, hq⟩

/-- A canonical reader before the rest of a reader. -/
theorem spells_bind (hx : Spells x put) (hf : ∀ a, Consumes (f a) (fun b more => Q b (put a ++ more))) :
    Consumes (x >>= f) Q := by
  refine consumes_bind hx ?_
  rintro a _ rfl
  exact hf a

/-- A check before the rest of a reader. -/
theorem consumes_unless {c : Prop} [Decidable c] (h : ¬ c → Consumes x P) : Consumes (if c then failure else x) P := by
  split
  · exact consumes_failure
  · exact h ‹_›

theorem Consumes.map {g : α → β} (hx : Consumes x (fun a used => Q (g a) used)) : Consumes (g <$> x) Q := by
  intro bs b rest hr
  rw [StateT.run_map] at hr
  obtain ⟨⟨a, mid⟩, ha, he⟩ := Option.map_eq_some_iff.1 hr
  obtain ⟨rfl, rfl⟩ := Prod.mk.inj he
  exact hx bs a mid ha

/-- A value that is wrapped is spelled as what is inside. -/
theorem Spells.map {g : α → β} {write : β → List UInt8} (hx : Spells x put) (h : ∀ a, write (g a) = put a) :
    Spells (g <$> x) write :=
  Consumes.map (Consumes.mono hx fun a _ hused => hused.trans (h a).symm)

end Rules

/-! ## Primitives -/

theorem consumes_readLE (k : Nat) : Consumes (readLE k) (fun n used => n < 256 ^ k ∧ used = putLE k n) := by
  intro bs n rest hr
  obtain ⟨hlt, hbs⟩ := readLE_lt hr
  exact ⟨putLE k n, hbs, hlt, rfl⟩

theorem spells_readU8 : Spells readU8 u8 :=
  Consumes.map <| (consumes_readLE 1).mono fun n _ h => by rw [h.2, u8, UInt8.toNat_ofNat_of_lt' h.1]
theorem spells_readU32 : Spells readU32 u32 :=
  Consumes.map <| (consumes_readLE 4).mono fun n _ h => by rw [h.2, u32, UInt32.toNat_ofNat_of_lt' h.1]
theorem spells_readU64 : Spells readU64 u64 :=
  Consumes.map <| (consumes_readLE 8).mono fun n _ h => by rw [h.2, u64, UInt64.toNat_ofNat_of_lt' h.1]
theorem spells_readI64 : Spells readI64 i64 := spells_readU64.map fun v => by rw [i64, UInt64.toUInt64_toInt64]

/-- Only the bytes zero and one are read as booleans. -/
theorem spells_readBoolean : Spells readBoolean boolean := by
  refine spells_bind spells_readU8 fun raw => consumes_unless fun hle => consumes_pure ?_
  rw [List.append_nil, boolean]
  have hcases : raw = 0 ∨ raw = 1 := by
    have hone : (1 : UInt8).toNat = 1 := rfl
    rw [UInt8.not_lt, UInt8.le_iff_toNat_le, hone] at hle
    rcases Nat.le_one_iff_eq_zero_or_eq_one.1 hle with h | h
    · exact .inl (UInt8.toNat.inj h)
    · exact .inr (UInt8.toNat.inj h)
  rcases hcases with rfl | rfl <;> rfl

variable {α : Type} {put : α → List UInt8} {read : Reader α}

/-- Nothing stands behind the flag of a value that is absent. -/
theorem spells_readOptional (h : Spells read put) : Spells (readOptional read) (optional put) := by
  refine spells_bind spells_readBoolean fun present => ?_
  cases present with
  | false => exact consumes_pure (List.append_nil _)
  | true => exact Consumes.map (h.mono fun a _ hused => by rw [hused, optional])

theorem consumes_readBytes (n : Nat) : Consumes (readBytes n) (fun v used => v.length = n ∧ used = v) := by
  intro bs v rest hr
  have hr : (if bs.length < n then none else some (bs.take n, bs.drop n)) = some (v, rest) := hr
  split at hr
  · cases hr
  · cases hr
    exact ⟨bs.take n, (List.take_append_drop n bs).symm, by rw [List.length_take]; omega, rfl⟩

/-- A count that was read is the one that is written of what it counts. -/
theorem u32_of_length {length : UInt32} {n : Nat} (h : n = length.toNat) : u32 (UInt32.ofNat n) = u32 length := by
  rw [h, UInt32.ofNat_toNat]

theorem spells_readBlob (maxSize : Nat) : Spells (readBlob maxSize) blob := by
  refine spells_bind spells_readU32 fun length => consumes_unless fun _ => ?_
  refine (consumes_readBytes length.toNat).mono fun v used h => ?_
  rw [h.2, blob, u32_of_length h.1]

theorem consumes_readItems (h : Spells read put) :
    ∀ n : Nat, Consumes (readItems read n) (fun l used => l.length = n ∧ used = l.flatMap put)
  | 0 => consumes_pure ⟨rfl, rfl⟩
  | n + 1 => by
    refine spells_bind h fun a => consumes_bind (consumes_readItems h n) ?_
    rintro l _ ⟨hlength, rfl⟩
    refine consumes_pure ⟨by rw [List.length_cons, hlength], ?_⟩
    rw [List.append_nil, List.flatMap_cons]

theorem spells_readList (h : Spells read put) (maxCount : Nat) : Spells (readList maxCount read) (putList put) := by
  refine spells_bind spells_readU32 fun count => consumes_unless fun _ => ?_
  refine (consumes_readItems h count.toNat).mono fun l used hl => ?_
  rw [hl.2, putList, u32_of_length hl.1]

/-- An enumeration is canonical when each of its values has one byte. -/
theorem spells_readEnum {of? : UInt8 → Option α} {toU8 : α → UInt8} (h : ∀ b a, of? b = some a → toU8 a = b) :
    Spells (readEnum of?) (fun a => u8 (toU8 a)) := by
  refine spells_bind spells_readU8 fun b => ?_
  cases hof : of? b with
  | none => exact consumes_failure
  | some a =>
    refine consumes_pure ?_
    show u8 b ++ [] = u8 (toU8 a)
    rw [List.append_nil, h b a hof]

end FlowObs.Binary
