import Mathlib.Tactic.Common
import Mathlib.Tactic.Linarith

/-!
# Little-endian byte codecs

Writers are functions to byte lists, readers are partial functions that consume a byte list from the front. For every
primitive there is one lemma that reading back what was written gives the value and leaves the rest (`readLE_putLE`,
`readBlob_blob`, `readList_putList`, `readOptional_optional`); a reader built from them by `bind` is evaluated by
rewriting with these. What a reader says of all that it gives, whatever it reads, is its postcondition (`Ensures`),
with a rule for each construct (`ensures_bind`, `ensures_readBlob`, `ensures_readList`).
-/

namespace FlowObs

/-- A reader consumes bytes from the front of its input, or fails. -/
abbrev Reader (α : Type) := StateT (List UInt8) Option α

namespace Binary

/-! ## Fixed-width integers -/

/-- The `k` low bytes of `n`, the least significant first. -/
def putLE : Nat → Nat → List UInt8
  | 0, _ => []
  | k + 1, n => UInt8.ofNat (n % 256) :: putLE k (n / 256)

/-- Read `k` bytes, the least significant first. -/
def readLE : Nat → Reader Nat
  | 0 => pure 0
  | k + 1 => fun
    | [] => none
    | b :: bs => ((readLE k).run bs).map (fun p => (b.toNat + 256 * p.1, p.2))

@[simp] theorem length_putLE : ∀ k n, (putLE k n).length = k
  | 0, _ => rfl
  | k + 1, n => by simp [putLE, length_putLE k]

@[simp] theorem readLE_putLE : ∀ (k n : Nat) (rest : List UInt8),
    (readLE k).run (putLE k n ++ rest) = some (n % 256 ^ k, rest)
  | 0, n, rest => by simp [readLE, putLE, Nat.mod_one]
  | k + 1, n, rest => by
    have hb : (UInt8.ofNat (n % 256)).toNat = n % 256 := by simp
    have ih := readLE_putLE k (n / 256) rest
    show ((readLE k).run (putLE k (n / 256) ++ rest)).map _ = _
    rw [ih]
    simp only [Option.map_some, hb, Option.some.injEq, Prod.mk.injEq, and_true]
    rw [Nat.pow_succ', Nat.mod_mul]

theorem readLE_lt : ∀ {k : Nat} {bs : List UInt8} {n : Nat} {rest : List UInt8},
    (readLE k).run bs = some (n, rest) → n < 256 ^ k ∧ bs = putLE k n ++ rest
  | 0, bs, n, rest, h => by
    have h : some (0, bs) = some (n, rest) := h
    obtain ⟨rfl, rfl⟩ := Prod.mk.inj (Option.some.inj h)
    simp [putLE]
  | k + 1, [], n, rest, h => by simp [readLE, StateT.run] at h
  | k + 1, b :: bs, n, rest, h => by
    obtain ⟨⟨m, r⟩, hm, he⟩ := Option.map_eq_some_iff.1 (show ((readLE k).run bs).map _ = some (n, rest) from h)
    obtain ⟨rfl, rfl⟩ := Prod.mk.inj he
    obtain ⟨hlt, rfl⟩ := readLE_lt hm
    have hb := b.toNat_lt
    refine ⟨by rw [Nat.pow_succ]; omega, ?_⟩
    have h1 : (b.toNat + 256 * m) % 256 = b.toNat := by omega
    have h2 : (b.toNat + 256 * m) / 256 = m := by omega
    simp only [putLE, h1, h2, List.cons_append, UInt8.ofNat_toNat]

/-- Reading takes as many bytes as it says, when they are there. -/
theorem readLE_of_le {k : Nat} {bs : List UInt8} (h : k ≤ bs.length) :
    ∃ n, (readLE k).run bs = some (n, bs.drop k) := by
  induction k generalizing bs with
  | zero => exact ⟨0, rfl⟩
  | succ k ih =>
    cases bs with
    | nil => cases h
    | cons b bs =>
      obtain ⟨n, hn⟩ := ih (Nat.le_of_succ_le_succ h)
      refine ⟨b.toNat + 256 * n, ?_⟩
      show ((readLE k).run bs).map _ = _
      rw [hn]
      rfl

theorem readLE_of_lt {k : Nat} {bs : List UInt8} (h : bs.length < k) : (readLE k).run bs = none := by
  induction k generalizing bs with
  | zero => exact absurd h (Nat.not_lt_zero _)
  | succ k ih =>
    cases bs with
    | nil => rfl
    | cons b bs =>
      show ((readLE k).run bs).map _ = _
      rw [ih (Nat.lt_of_succ_lt_succ h)]
      rfl

def u8 (v : UInt8) : List UInt8 := putLE 1 v.toNat
def u16 (v : UInt16) : List UInt8 := putLE 2 v.toNat
def u32 (v : UInt32) : List UInt8 := putLE 4 v.toNat
def u64 (v : UInt64) : List UInt8 := putLE 8 v.toNat
def i64 (v : Int64) : List UInt8 := u64 v.toUInt64

def readU8 : Reader UInt8 := UInt8.ofNat <$> readLE 1
def readU16 : Reader UInt16 := UInt16.ofNat <$> readLE 2
def readU32 : Reader UInt32 := UInt32.ofNat <$> readLE 4
def readU64 : Reader UInt64 := UInt64.ofNat <$> readLE 8
def readI64 : Reader Int64 := UInt64.toInt64 <$> readU64

@[simp] theorem readU8_u8 (v : UInt8) (rest : List UInt8) : readU8.run (u8 v ++ rest) = some (v, rest) := by
  simp [readU8, u8, Nat.mod_eq_of_lt v.toNat_lt]
@[simp] theorem readU16_u16 (v : UInt16) (rest : List UInt8) : readU16.run (u16 v ++ rest) = some (v, rest) := by
  simp [readU16, u16, Nat.mod_eq_of_lt v.toNat_lt]
@[simp] theorem readU32_u32 (v : UInt32) (rest : List UInt8) : readU32.run (u32 v ++ rest) = some (v, rest) := by
  simp [readU32, u32, Nat.mod_eq_of_lt v.toNat_lt]
@[simp] theorem readU64_u64 (v : UInt64) (rest : List UInt8) : readU64.run (u64 v ++ rest) = some (v, rest) := by
  simp [readU64, u64, Nat.mod_eq_of_lt v.toNat_lt]
@[simp] theorem readI64_i64 (v : Int64) (rest : List UInt8) : readI64.run (i64 v ++ rest) = some (v, rest) := by
  simp [readI64, i64]

/-- What was read is what the bytes spell. -/
theorem readU16_some {bytes rest : List UInt8} {v : UInt16} (h : readU16.run bytes = some (v, rest)) :
    bytes = u16 v ++ rest := by
  simp only [readU16, StateT.run_map, Option.map_eq_map, Option.map_eq_some_iff] at h
  obtain ⟨⟨n, r⟩, hn, he⟩ := h
  obtain ⟨rfl, rfl⟩ := Prod.mk.inj he
  obtain ⟨hlt, hbytes⟩ := readLE_lt hn
  rw [u16, UInt16.toNat_ofNat_of_lt' hlt, hbytes]

theorem readU32_some {bytes rest : List UInt8} {v : UInt32} (h : readU32.run bytes = some (v, rest)) :
    bytes = u32 v ++ rest := by
  simp only [readU32, StateT.run_map, Option.map_eq_map, Option.map_eq_some_iff] at h
  obtain ⟨⟨n, r⟩, hn, he⟩ := h
  obtain ⟨rfl, rfl⟩ := Prod.mk.inj he
  obtain ⟨hlt, hbytes⟩ := readLE_lt hn
  rw [u32, UInt32.toNat_ofNat_of_lt' hlt, hbytes]

@[simp] theorem length_u8 (v : UInt8) : (u8 v).length = 1 := length_putLE _ _
@[simp] theorem length_u16 (v : UInt16) : (u16 v).length = 2 := length_putLE _ _
@[simp] theorem length_u32 (v : UInt32) : (u32 v).length = 4 := length_putLE _ _
@[simp] theorem length_u64 (v : UInt64) : (u64 v).length = 8 := length_putLE _ _

/-! ## Booleans and options -/

def boolean (v : Bool) : List UInt8 := u8 (if v then 1 else 0)

/-- A byte above one is malformed. -/
def readBoolean : Reader Bool := do
  let raw ← readU8
  if 1 < raw then failure else pure (raw == 1)

@[simp] theorem readBoolean_boolean (v : Bool) (rest : List UInt8) :
    readBoolean.run (boolean v ++ rest) = some (v, rest) := by
  cases v <;> simp [readBoolean, boolean]

def optional {α : Type} (put : α → List UInt8) : Option α → List UInt8
  | some v => boolean true ++ put v
  | none => boolean false

def readOptional {α : Type} (read : Reader α) : Reader (Option α) := do
  if ← readBoolean then some <$> read else pure none

theorem readOptional_optional {α : Type} {put : α → List UInt8} {read : Reader α} {v : Option α} {rest : List UInt8}
    (h : ∀ a, v = some a → read.run (put a ++ rest) = some (a, rest)) :
    (readOptional read).run (optional put v ++ rest) = some (v, rest) := by
  cases v with
  | none => simp [readOptional, optional]
  | some a => simp [readOptional, optional, h a rfl]

/-! ## Length-prefixed bytes and lists -/

/-- Take exactly `n` bytes. -/
def readBytes (n : Nat) : Reader (List UInt8) := fun bs =>
  if bs.length < n then none else some (bs.take n, bs.drop n)

def blob (v : List UInt8) : List UInt8 := u32 (UInt32.ofNat v.length) ++ v

/-- The length is checked against its bound before anything is taken. -/
def readBlob (maxSize : Nat) : Reader (List UInt8) := do
  let length ← readU32
  if maxSize < length.toNat then failure else readBytes length.toNat

/-- A blob within its bound and the reach of its length is read back. -/
theorem readBlob_blob {maxSize : Nat} {v rest : List UInt8} (h : v.length ≤ maxSize) (h32 : v.length < 2 ^ 32) :
    (readBlob maxSize).run (blob v ++ rest) = some (v, rest) := by
  have hl : (UInt32.ofNat v.length).toNat = v.length := by simpa using Nat.mod_eq_of_lt h32
  have hn : ¬ maxSize < v.length := Nat.not_lt.2 h
  simp only [readBlob, blob, List.append_assoc, StateT.run_bind, readU32_u32, Option.bind_eq_bind, Option.bind_some, hl,
    hn, if_false]
  simp [readBytes, StateT.run]

def putList {α : Type} (put : α → List UInt8) (l : List α) : List UInt8 :=
  u32 (UInt32.ofNat l.length) ++ l.flatMap put

/-- Read `n` items. -/
def readItems {α : Type} (read : Reader α) : Nat → Reader (List α)
  | 0 => pure []
  | n + 1 => do
    let a ← read
    let l ← readItems read n
    pure (a :: l)

/-- The count is checked against its bound before any item is read. -/
def readList {α : Type} (maxCount : Nat) (read : Reader α) : Reader (List α) := do
  let count ← readU32
  if maxCount < count.toNat then failure else readItems read count.toNat

theorem readItems_flatMap {α : Type} {put : α → List UInt8} {read : Reader α} {l : List α} {rest : List UInt8}
    (h : ∀ a ∈ l, ∀ rest, read.run (put a ++ rest) = some (a, rest)) :
    (readItems read l.length).run (l.flatMap put ++ rest) = some (l, rest) := by
  induction l with
  | nil => simp [readItems]
  | cons a l ih =>
    have htail := ih (fun b hb => h b (List.mem_cons_of_mem _ hb))
    simp [readItems, List.append_assoc, h a List.mem_cons_self, htail]

/-- A list within its bound whose items are read back is read back. -/
theorem readList_putList {α : Type} {put : α → List UInt8} {read : Reader α} {maxCount : Nat} {l : List α}
    {rest : List UInt8} (h : l.length ≤ maxCount) (h32 : l.length < 2 ^ 32)
    (hi : ∀ a ∈ l, ∀ rest, read.run (put a ++ rest) = some (a, rest)) :
    (readList maxCount read).run (putList put l ++ rest) = some (l, rest) := by
  have hl : (UInt32.ofNat l.length).toNat = l.length := by simpa using Nat.mod_eq_of_lt h32
  have hn : ¬ maxCount < l.length := Nat.not_lt.2 h
  simp only [readList, putList, List.append_assoc, StateT.run_bind, readU32_u32, Option.bind_eq_bind, Option.bind_some,
    hl, hn, if_false]
  exact readItems_flatMap hi

/-! ## Postconditions -/

/-- Whatever the reader gives satisfies `Q`. -/
def Ensures {α : Type} (read : Reader α) (Q : α → Prop) : Prop := ∀ bs a rest, read.run bs = some (a, rest) → Q a

section Ensures

variable {α β : Type} {P : α → Prop} {Q : β → Prop} {x : Reader α} {f : α → Reader β}

theorem ensures_pure {b : β} (h : Q b) : Ensures (pure b) Q := by
  intro bs a rest hr
  cases hr
  exact h

theorem ensures_bind (hx : Ensures x P) (hf : ∀ a, P a → Ensures (f a) Q) : Ensures (x >>= f) Q := by
  intro bs b rest hr
  obtain ⟨⟨a, mid⟩, ha, hb⟩ := Option.bind_eq_some_iff.1 hr
  exact hf a (hx bs a mid ha) mid b rest hb

/-- A step that the postcondition does not depend on. -/
theorem ensures_skip (hf : ∀ a, Ensures (f a) Q) : Ensures (x >>= f) Q :=
  ensures_bind (P := fun _ => True) (fun _ _ _ _ => trivial) (fun a _ => hf a)

theorem Ensures.mono {R : α → Prop} (hx : Ensures x P) (h : ∀ a, P a → R a) : Ensures x R :=
  fun bs a rest hr => h a (hx bs a rest hr)

theorem ensures_failure : Ensures (failure : Reader α) P := by
  intro bs a rest hr
  cases hr

/-- A check before the rest of a reader. -/
theorem ensures_unless {c : Prop} [Decidable c] (h : ¬ c → Ensures x P) : Ensures (if c then failure else x) P := by
  split
  · exact ensures_failure
  · exact h ‹_›

theorem ensures_readBytes (n : Nat) : Ensures (readBytes n) (fun v => v.length = n) := by
  intro bs v rest hr
  have hr : (if bs.length < n then none else some (bs.take n, bs.drop n)) = some (v, rest) := hr
  split at hr
  · cases hr
  · cases hr
    rw [List.length_take]
    omega

/-- **A blob that was read is within its bound.** -/
theorem ensures_readBlob (maxSize : Nat) : Ensures (readBlob maxSize) (fun v => v.length ≤ maxSize) := by
  refine ensures_skip fun length => ensures_unless fun hle => ?_
  exact (ensures_readBytes length.toNat).mono (fun v hv => by omega)

theorem ensures_readItems {read : Reader α} (h : Ensures read P) (n : Nat) :
    Ensures (readItems read n) (fun l => l.length = n ∧ ∀ a ∈ l, P a) := by
  induction n with
  | zero => exact ensures_pure ⟨rfl, fun _ h => nomatch h⟩
  | succ n ih =>
    refine ensures_bind h fun a ha => ensures_bind ih fun l hl => ensures_pure ⟨?_, ?_⟩
    · rw [List.length_cons, hl.1]
    · exact List.forall_mem_cons.2 ⟨ha, hl.2⟩

/-- **A list that was read is within its bound**, and its items are as their reader ensures. -/
theorem ensures_readList {read : Reader α} (h : Ensures read P) (maxCount : Nat) :
    Ensures (readList maxCount read) (fun l => l.length ≤ maxCount ∧ ∀ a ∈ l, P a) := by
  refine ensures_skip fun count => ensures_unless fun hle => ?_
  exact (ensures_readItems h count.toNat).mono (fun l hl => ⟨by omega, hl.2⟩)

theorem ensures_trivial (x : Reader α) : Ensures x (fun _ => True) := fun _ _ _ _ => trivial

end Ensures

/-! ## Whole inputs -/

/-- Run a reader on a whole input: `bad` when it fails, `trailing` when bytes are left over. -/
def exactly {ε α : Type} (read : Reader α) (bad trailing : ε) (bs : List UInt8) : Except ε α :=
  match read.run bs with
  | none => .error bad
  | some (a, []) => .ok a
  | some _ => .error trailing

theorem exactly_of_run {ε α : Type} {read : Reader α} {bad trailing : ε} {bs : List UInt8} {a : α}
    (h : read.run bs = some (a, [])) : exactly read bad trailing bs = .ok a := by rw [exactly, h]

theorem exactly_ok {ε α : Type} {read : Reader α} {bad trailing : ε} {bs : List UInt8} {a : α} :
    exactly read bad trailing bs = .ok a ↔ read.run bs = some (a, []) := by
  unfold exactly
  split <;> simp_all

/-- Map the raw value of an enumeration, failing on an unknown one. -/
def readEnum {α : Type} (of? : UInt8 → Option α) : Reader α := do
  match of? (← readU8) with
  | some a => pure a
  | none => failure

theorem readEnum_u8 {α : Type} {of? : UInt8 → Option α} {b : UInt8} {a : α} (h : of? b = some a) (rest : List UInt8) :
    (readEnum of?).run (u8 b ++ rest) = some (a, rest) := by
  simp [readEnum, h]

end Binary

end FlowObs
