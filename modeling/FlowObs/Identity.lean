import Mathlib.Tactic.Common
import Mathlib.Order.Lattice
import Mathlib.Order.Compare

/-!
# Bytes, checksums and identities

A `std::string` is the list of its bytes (`Str`). The two integrity primitives (`crc32c`, `fnv1a64`) and the typed
identities of `identity.hpp`: a named identity (`OpaqueId`) is the domain-separated hash of its canonical key
(`make_id`), a numeric one (`NumericId`) is a counter of the producer. Both are ordered by their 64-bit value.
-/

namespace FlowObs

/-! ## Byte strings -/

/-- The bytes of a `std::string`. -/
abbrev Str := List UInt8

/-- The bytes of a literal. -/
@[irreducible] def str (s : String) : Str := s.toByteArray.data.toList

theorem str_inj {a b : String} : str a = str b ↔ a = b := by
  constructor
  · intro h
    unfold str at h
    exact String.toByteArray_inj.1 (ByteArray.ext (Array.toList_inj.1 h))
  · rintro rfl
    rfl

/-- The decimal text of `std::to_string` at an unsigned value. -/
def decimal (n : Nat) : Str := (Nat.toDigits 10 n).map (fun c => c.toUInt8)

/-- The decimal text of a signed value. -/
def decimalInt (n : Int) : Str := if n < 0 then str "-" ++ decimal n.natAbs else decimal n.natAbs

/-- `hex_value`. -/
def hexValue (c : UInt8) : Option UInt64 :=
  if 48 ≤ c ∧ c ≤ 57 then some (c.toUInt64 - 48)
  else if 97 ≤ c ∧ c ≤ 102 then some (c.toUInt64 - 97 + 10)
  else if 65 ≤ c ∧ c ≤ 70 then some (c.toUInt64 - 65 + 10)
  else none

/-- `kHexDigits`. -/
def kHexDigits (v : UInt64) : UInt8 := if v < 10 then 48 + v.toUInt8 else 87 + v.toUInt8

/-- `append_hex16`: sixteen lower-case digits, the most significant first. -/
def hex16 (value : UInt64) : Str :=
  [60, 56, 52, 48, 44, 40, 36, 32, 28, 24, 20, 16, 12, 8, 4, 0].map
    (fun shift : UInt64 => kHexDigits ((value >>> shift) &&& 0xF))

/-! ## Checksums -/

def crcBit (crc : UInt32) : UInt32 := if crc &&& 1 ≠ 0 then (crc >>> 1) ^^^ 0x82F63B78 else crc >>> 1

/-- The entry of the reflected CRC-32C table at a byte. -/
def kCrc32cTable (i : UInt32) : UInt32 := (List.range 8).foldl (fun crc _ => crcBit crc) i

/-- `Crc32c::update` over one byte. -/
def crcByte (state : UInt32) (b : UInt8) : UInt32 := kCrc32cTable ((state ^^^ b.toUInt32) &&& 0xFF) ^^^ (state >>> 8)

/-- `crc32c`. -/
def crc32c (text : Str) : UInt32 := text.foldl crcByte 0xFFFFFFFF ^^^ 0xFFFFFFFF

def kFnvOffset : UInt64 := 0xCBF29CE484222325
def kFnvPrime : UInt64 := 0x00000100000001B3

def fnvByte (state : UInt64) (b : UInt8) : UInt64 := (state ^^^ b.toUInt64) * kFnvPrime

/-- `fnv1a64`: the domain bytes, a zero separator, then the payload. -/
def fnv1a64 (domain payload : Str) : UInt64 := payload.foldl fnvByte (fnvByte (domain.foldl fnvByte kFnvOffset) 0)

/-- `fnv1a64_raw`: no domain separator. -/
def fnv1a64Raw (text : Str) : UInt64 := text.foldl fnvByte kFnvOffset

example : crc32c (str "123456789") = 0xE3069283 := by decide +kernel

/-! ## Identities -/

/-- The domains of the named identities. -/
inductive IdDomain
  | flow | endpoint | path | link | queue | source
deriving DecidableEq, Repr

/-- `Tag::domain`. -/
def IdDomain.domain : IdDomain → Str
  | .flow => str "flow"
  | .endpoint => str "endpoint"
  | .path => str "path"
  | .link => str "link"
  | .queue => str "queue"
  | .source => str "source"

/-- `Tag::prefix`. -/
def IdDomain.tag : IdDomain → Str
  | .flow => str "flow"
  | .endpoint => str "ep"
  | .path => str "path"
  | .link => str "link"
  | .queue => str "queue"
  | .source => str "src"

/-- The families of the numeric identities. -/
inductive NumDomain
  | epoch | incarnation | generation | revision | sequence | runtimeEpoch
deriving DecidableEq, Repr

/-- `Tag::prefix` of a numeric identity. -/
def NumDomain.tag : NumDomain → Str
  | .epoch => str "epoch"
  | .incarnation => str "inc"
  | .generation => str "gen"
  | .revision => str "rev"
  | .sequence => str "seq"
  | .runtimeEpoch => str "rt"

/-- A named identity. -/
@[ext] structure OpaqueId (d : IdDomain) where
  value : UInt64
deriving DecidableEq, Repr

/-- A numeric identity. -/
@[ext] structure NumericId (d : NumDomain) where
  value : UInt64
deriving DecidableEq, Repr

instance (d : IdDomain) : Inhabited (OpaqueId d) := ⟨⟨0⟩⟩
instance (d : NumDomain) : Inhabited (NumericId d) := ⟨⟨0⟩⟩

abbrev FlowId := OpaqueId .flow
abbrev EndpointId := OpaqueId .endpoint
abbrev PathId := OpaqueId .path
abbrev LinkId := OpaqueId .link
abbrev QueueId := OpaqueId .queue
abbrev SourceId := OpaqueId .source
abbrev EpochId := NumericId .epoch
abbrev IncarnationId := NumericId .incarnation
abbrev GenerationId := NumericId .generation
abbrev RevisionId := NumericId .revision
abbrev SequenceNo := NumericId .sequence
abbrev RuntimeEpoch := NumericId .runtimeEpoch

namespace OpaqueId

variable {d : IdDomain}

/-- `valid`: the zero value is reserved. -/
def valid (a : OpaqueId d) : Bool := a.value != 0

instance : LinearOrder (OpaqueId d) :=
  LinearOrder.lift' (fun a => a.value.toNat) (fun _ _ h => OpaqueId.ext (UInt64.toNat_inj.1 h))

instance : Std.LawfulEqOrd (OpaqueId d) := ⟨compare_eq_iff_eq.1⟩

theorem lt_def {a b : OpaqueId d} : a < b ↔ a.value.toNat < b.value.toNat := Iff.rfl
theorem le_def {a b : OpaqueId d} : a ≤ b ↔ a.value.toNat ≤ b.value.toNat := Iff.rfl

/-- `id_to_string`. -/
def toStr (a : OpaqueId d) : Str := d.tag ++ str ":" ++ hex16 a.value

end OpaqueId

namespace NumericId

variable {d : NumDomain}

/-- `valid`: the zero value is reserved. -/
def valid (a : NumericId d) : Bool := a.value != 0

/-- `next`: saturates at the top. -/
def next (a : NumericId d) : NumericId d := if a.value = 0xFFFFFFFFFFFFFFFF then a else ⟨a.value + 1⟩

instance : LinearOrder (NumericId d) :=
  LinearOrder.lift' (fun a => a.value.toNat) (fun _ _ h => NumericId.ext (UInt64.toNat_inj.1 h))

instance : Std.LawfulEqOrd (NumericId d) := ⟨compare_eq_iff_eq.1⟩

theorem lt_def {a b : NumericId d} : a < b ↔ a.value.toNat < b.value.toNat := Iff.rfl
theorem le_def {a b : NumericId d} : a ≤ b ↔ a.value.toNat ≤ b.value.toNat := Iff.rfl

/-- `id_to_string`. -/
def toStr (a : NumericId d) : Str := d.tag ++ str ":" ++ decimal a.value.toNat

end NumericId

/-- `identity_hash`: a raw hash of zero is mapped to one, so that a derived identity is valid. -/
def identityHash (domain key : Str) : UInt64 := if fnv1a64 domain key = 0 then 1 else fnv1a64 domain key

/-- `make_id`. -/
def makeId (d : IdDomain) (key : Str) : OpaqueId d := ⟨identityHash d.domain key⟩

theorem makeId_valid (d : IdDomain) (key : Str) : (makeId d key).valid = true := by
  simp only [OpaqueId.valid, makeId, identityHash, bne_iff_ne, ne_eq]
  split
  · decide
  · assumption

end FlowObs
