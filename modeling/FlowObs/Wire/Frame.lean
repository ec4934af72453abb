import FlowObs.Lib.Binary
import FlowObs.Lib.Framing
import FlowObs.Semantics

/-!
# Frames on the wire

The framing of `transport.cpp`: a header of sixteen bytes with magic, version, kind, length and checksum, and the
payload. What a stream of bytes is as frames is said without sockets and reads (`nextFrame`): the first frame and what
follows it, or why there is none.
-/

namespace FlowObs.Wire

open Binary

/-! ## Kinds -/

/-- `MessageKind`: an enumeration over 16 bits, of which a frame can carry every value. -/
structure MessageKind where
  raw : UInt16
deriving DecidableEq, Repr

namespace MessageKind

def Hello : MessageKind := ⟨1⟩
def Welcome : MessageKind := ⟨2⟩
def Ingest : MessageKind := ⟨3⟩
def IngestAck : MessageKind := ⟨4⟩
def Query : MessageKind := ⟨5⟩
def QueryResult : MessageKind := ⟨6⟩
def Explain : MessageKind := ⟨7⟩
def ExplainResult : MessageKind := ⟨8⟩
def History : MessageKind := ⟨9⟩
def HistoryResult : MessageKind := ⟨10⟩
def Attribution : MessageKind := ⟨11⟩
def AttributionResult : MessageKind := ⟨12⟩
def StatsRequest : MessageKind := ⟨13⟩
def StatsResult : MessageKind := ⟨14⟩
def Tick : MessageKind := ⟨15⟩
def TickResult : MessageKind := ⟨16⟩
def Bye : MessageKind := ⟨17⟩
def Error : MessageKind := ⟨18⟩

end MessageKind

/-! ## The code -/

/-- `Frame`. -/
structure Frame where
  kind : MessageKind := .Hello
  payload : Str := []
deriving DecidableEq, Repr

/-- `FrameHeader`. -/
structure FrameHeader where
  kind : MessageKind := .Hello
  length : UInt32 := 0
  crc : UInt32 := 0
deriving DecidableEq, Repr

/-- `kFrameHeaderBytes`. -/
def kFrameHeaderBytes : Nat := 16

/-- `kWireProtocolVersion`. -/
def kWireProtocolVersion : UInt16 := 1

/-- `FOI1`. -/
def frameMagic : Str := [70, 79, 73, 49]

/-- `frame_crc`: over the kind, the length and the payload. -/
def frameCrc (kind : MessageKind) (length : UInt32) (payload : Str) : UInt32 :=
  crc32c (u16 kind.raw ++ u32 length ++ payload)

/-- The header of a frame. -/
def frameHeader (version : UInt16) (header : FrameHeader) : Str :=
  frameMagic ++ u16 version ++ u16 header.kind.raw ++ u32 header.length ++ u32 header.crc

/-- `encode_frame`: what it appends to the buffer. -/
def encodeFrame (kind : MessageKind) (payload : Str) (maxFrameBytes : Nat) : Except FlowObs.Error Str :=
  if payload.length > maxFrameBytes then .error (limitExceeded "frame payload exceeds limits.max_frame_bytes")
  else
    let length := UInt32.ofNat payload.length
    .ok (frameHeader kWireProtocolVersion ⟨kind, length, frameCrc kind length payload⟩ ++ payload)

/-- Two bytes of a header. -/
def wireU16 (header : Str) (offset : Nat) : UInt16 := ((readU16.run (header.drop offset)).map (·.1)).getD 0

/-- Four bytes of a header. -/
def wireU32 (header : Str) (offset : Nat) : UInt32 := ((readU32.run (header.drop offset)).map (·.1)).getD 0

/-- `decode_frame_header`. -/
def decodeFrameHeader (header : Str) (maxFrameBytes : Nat) : Except FlowObs.Error FrameHeader :=
  if header.take 4 ≠ frameMagic then .error ⟨.ProtocolError, str "frame magic does not match"⟩
  else if wireU16 header 4 ≠ kWireProtocolVersion then .error
    ⟨.VersionMismatch, str "wire protocol version does not match"⟩
  else if (wireU32 header 8).toNat > maxFrameBytes then .error
    (limitExceeded "frame length exceeds limits.max_frame_bytes")
  else .ok ⟨⟨wireU16 header 6⟩, wireU32 header 8, wireU32 header 12⟩

/-! ## Headers -/

theorem length_frameHeader (version : UInt16) (header : FrameHeader) :
    (frameHeader version header).length = kFrameHeaderBytes := by
  simp [frameHeader, frameMagic, kFrameHeaderBytes]

theorem wireU16_of_drop {header rest : Str} {offset : Nat} {v : UInt16} (h : header.drop offset = u16 v ++ rest) :
    wireU16 header offset = v := by
  simp [wireU16, h]

theorem wireU32_of_drop {header rest : Str} {offset : Nat} {v : UInt32} (h : header.drop offset = u32 v ++ rest) :
    wireU32 header offset = v := by
  simp [wireU32, h]

/-- The fields of a header are those of the stream that it begins. -/
theorem wireU16_append {header : Str} {offset : Nat} (h : offset + 2 ≤ header.length) (rest : Str) :
    wireU16 (header ++ rest) offset = wireU16 header offset := by
  have hle : 2 ≤ (header.drop offset).length := by
    rw [List.length_drop]
    omega
  obtain ⟨n, hn⟩ := readLE_of_le hle
  have hread : readU16.run (header.drop offset) = some (UInt16.ofNat n,
    (header.drop offset).drop 2) := by simp [readU16, hn]
  have hdrop := readU16_some hread
  have hdrop' : (header ++ rest).drop offset = u16 (UInt16.ofNat n) ++ ((header.drop offset).drop 2 ++ rest) := by
    rw [List.drop_append_of_le_length (by omega), ← List.append_assoc, ← hdrop]
  rw [wireU16_of_drop hdrop, wireU16_of_drop hdrop']

theorem wireU32_append {header : Str} {offset : Nat} (h : offset + 4 ≤ header.length) (rest : Str) :
    wireU32 (header ++ rest) offset = wireU32 header offset := by
  have hle : 4 ≤ (header.drop offset).length := by
    rw [List.length_drop]
    omega
  obtain ⟨n, hn⟩ := readLE_of_le hle
  have hread : readU32.run (header.drop offset) = some (UInt32.ofNat n,
    (header.drop offset).drop 4) := by simp [readU32, hn]
  have hdrop := readU32_some hread
  have hdrop' : (header ++ rest).drop offset = u32 (UInt32.ofNat n) ++ ((header.drop offset).drop 4 ++ rest) := by
    rw [List.drop_append_of_le_length (by omega), ← List.append_assoc, ← hdrop]
  rw [wireU32_of_drop hdrop, wireU32_of_drop hdrop']

/-- A header is read where it stands. -/
theorem decodeFrameHeader_take {bytes : Str} {maxFrameBytes : Nat} (h : kFrameHeaderBytes ≤ bytes.length) :
    decodeFrameHeader (bytes.take kFrameHeaderBytes) maxFrameBytes = decodeFrameHeader bytes maxFrameBytes := by
  have hsize : (bytes.take kFrameHeaderBytes).length = 16 := by
    rw [List.length_take]
    unfold kFrameHeaderBytes at *
    omega
  have hsplit := List.take_append_drop kFrameHeaderBytes bytes
  have hmagic : (bytes.take kFrameHeaderBytes).take 4 = bytes.take 4 := by simp [List.take_take, kFrameHeaderBytes]
  have hversion : wireU16 (bytes.take kFrameHeaderBytes) 4 = wireU16 bytes 4 := by
    rw [← wireU16_append (by omega) (bytes.drop kFrameHeaderBytes), hsplit]
  have hkind : wireU16 (bytes.take kFrameHeaderBytes) 6 = wireU16 bytes 6 := by
    rw [← wireU16_append (by omega) (bytes.drop kFrameHeaderBytes), hsplit]
  have hlength : wireU32 (bytes.take kFrameHeaderBytes) 8 = wireU32 bytes 8 := by
    rw [← wireU32_append (by omega) (bytes.drop kFrameHeaderBytes), hsplit]
  have hcrc : wireU32 (bytes.take kFrameHeaderBytes) 12 = wireU32 bytes 12 := by
    rw [← wireU32_append (by omega) (bytes.drop kFrameHeaderBytes), hsplit]
  unfold decodeFrameHeader
  rw [hmagic, hversion, hkind, hlength, hcrc]

/-- The headers that are accepted. -/
theorem decodeFrameHeader_eq_ok {header : Str} {maxFrameBytes : Nat} {decoded : FrameHeader} :
    decodeFrameHeader header maxFrameBytes = .ok decoded ↔ header.take 4 = frameMagic ∧
    wireU16 header 4 = kWireProtocolVersion ∧
      (wireU32 header 8).toNat ≤ maxFrameBytes ∧
      decoded = ⟨⟨wireU16 header 6⟩, wireU32 header 8, wireU32 header 12⟩ := by
  unfold decodeFrameHeader
  constructor
  · intro h
    split at h
    · cases h
    · rename_i hmagic
      split at h
      · cases h
      · rename_i hversion
        split at h
        · cases h
        · rename_i hbound
          exact ⟨not_not.1 hmagic, not_not.1 hversion, Nat.not_lt.1 hbound, (Except.ok.inj h).symm⟩
  · rintro ⟨hmagic, hversion, hbound, rfl⟩
    rw [if_neg (not_not.2 hmagic), if_neg (not_not.2 hversion), if_neg (Nat.not_lt.2 hbound)]

/-- **A header is read back** when its length is within the bound. -/
theorem decodeFrameHeader_frameHeader {header : FrameHeader} {maxFrameBytes : Nat}
    (hmax : header.length.toNat ≤ maxFrameBytes) :
    decodeFrameHeader (frameHeader kWireProtocolVersion header) maxFrameBytes = .ok header := by
  obtain ⟨kind, length, crc⟩ := header
  have hversion : wireU16 (frameHeader kWireProtocolVersion ⟨kind, length, crc⟩) 4 = kWireProtocolVersion := by
    have hdrop : (frameHeader kWireProtocolVersion ⟨kind, length, crc⟩).drop 4 =
        u16 kWireProtocolVersion ++ (u16 kind.raw ++ (u32 length ++ u32 crc)) := by
      simp only [frameHeader, List.append_assoc]
      exact List.drop_left' rfl
    exact wireU16_of_drop hdrop
  have hkind : wireU16 (frameHeader kWireProtocolVersion ⟨kind, length, crc⟩) 6 = kind.raw := by
    have hdrop : (frameHeader kWireProtocolVersion ⟨kind, length, crc⟩).drop 6 = u16 kind.raw ++
        (u32 length ++ u32 crc) := by
      rw [frameHeader, List.append_assoc, List.append_assoc]
      exact List.drop_left' (by simp [frameMagic])
    exact wireU16_of_drop hdrop
  have hlength : wireU32 (frameHeader kWireProtocolVersion ⟨kind, length, crc⟩) 8 = length := by
    have hdrop : (frameHeader kWireProtocolVersion ⟨kind, length, crc⟩).drop 8 = u32 length ++ u32 crc := by
      rw [frameHeader, List.append_assoc]
      exact List.drop_left' (by simp [frameMagic])
    exact wireU32_of_drop hdrop
  have hcrc : wireU32 (frameHeader kWireProtocolVersion ⟨kind, length, crc⟩) 12 = crc := by
    have hdrop : (frameHeader kWireProtocolVersion ⟨kind, length, crc⟩).drop 12 = u32 crc ++ [] := by
      rw [List.append_nil]
      exact List.drop_left' (by simp [frameMagic])
    exact wireU32_of_drop hdrop
  unfold decodeFrameHeader
  rw [hversion, hkind, hlength, hcrc, if_neg (by simp [frameHeader, frameMagic]), if_neg (by simp),
    if_neg (by simpa using hmax)]

/-! ## Streams as frames -/

/-- Why a stream has no further frame. -/
inductive Stop
  /-- There are not enough bytes for a header. -/
  | header
  /-- The header is refused. -/
  | refused (e : FlowObs.Error)
  /-- There are not enough bytes for the payload. -/
  | payload
  /-- The checksum is another one. -/
  | checksum
deriving DecidableEq, Repr

/-- The first frame of a stream, and what follows it. -/
def nextFrame (maxFrameBytes : Nat) (bytes : Str) : Except Stop (Frame × Str) :=
  if bytes.length < kFrameHeaderBytes then .error .header
  else match decodeFrameHeader (bytes.take kFrameHeaderBytes) maxFrameBytes with
    | .error e => .error (.refused e)
    | .ok decoded =>
      if (bytes.drop kFrameHeaderBytes).length < decoded.length.toNat then .error .payload
      else
        let payload := (bytes.drop kFrameHeaderBytes).take decoded.length.toNat
        if frameCrc decoded.kind decoded.length payload ≠ decoded.crc then .error .checksum
        else .ok (⟨decoded.kind, payload⟩, (bytes.drop kFrameHeaderBytes).drop decoded.length.toNat)

/-- A frame takes at least its header. -/
theorem nextFrame_less {maxFrameBytes : Nat} {bytes : Str} {frame : Frame} {rest : Str}
    (h : nextFrame maxFrameBytes bytes = .ok (frame, rest)) : rest.length < bytes.length := by
  unfold nextFrame at h
  split at h
  · cases h
  · rename_i hlen
    split at h
    · cases h
    · split at h
      · cases h
      · dsimp only at h
        split at h
        · cases h
        · cases h
          simp only [List.length_drop, kFrameHeaderBytes] at *
          omega

/-- **A frame that was encoded is the first frame of its stream.** -/
theorem nextFrame_encodeFrame {frame : Frame} {maxFrameBytes : Nat} (hmax : maxFrameBytes < 2 ^ 32)
    (hfits : frame.payload.length ≤ maxFrameBytes) :
    ∃ bytes, encodeFrame frame.kind frame.payload maxFrameBytes = .ok bytes ∧
      ∀ tail, nextFrame maxFrameBytes (bytes ++ tail) = .ok (frame, tail) := by
  obtain ⟨kind, payload⟩ := frame
  have hnat : (UInt32.ofNat payload.length).toNat = payload.length :=
    UInt32.toNat_ofNat_of_lt' (Nat.lt_of_le_of_lt hfits hmax)
  let header : FrameHeader := ⟨kind, UInt32.ofNat payload.length, frameCrc kind (UInt32.ofNat payload.length) payload⟩
  have hlen := length_frameHeader kWireProtocolVersion header
  refine ⟨frameHeader kWireProtocolVersion header ++ payload, if_neg (Nat.not_lt.2 hfits), fun tail => ?_⟩
  have hdecode : decodeFrameHeader (frameHeader kWireProtocolVersion header) maxFrameBytes = .ok header :=
    decodeFrameHeader_frameHeader (by rw [hnat]; exact hfits)
  have htake : (frameHeader kWireProtocolVersion header ++ payload ++ tail).take kFrameHeaderBytes =
      frameHeader kWireProtocolVersion header := by
    rw [List.append_assoc]
    exact List.take_left' hlen
  have hdrop : (frameHeader kWireProtocolVersion header ++ payload ++ tail).drop kFrameHeaderBytes =
      payload ++ tail := by
    rw [List.append_assoc]
    exact List.drop_left' hlen
  unfold nextFrame
  rw [htake, hdrop, hdecode, if_neg (by simp [hlen])]
  dsimp only [header]
  rw [hnat, if_neg (by simp), List.take_left' rfl, List.drop_left' rfl, if_neg (by simp)]

/-- A frame whose magic, version, length bound or checksum is wrong, at the front of a stream. -/
structure WrongFrame (maxFrameBytes : Nat) (bytes : Str) : Prop where
  header : kFrameHeaderBytes ≤ bytes.length
  wrong : bytes.take 4 ≠ frameMagic ∨ wireU16 bytes 4 ≠ kWireProtocolVersion ∨ maxFrameBytes < (wireU32 bytes 8).toNat ∨
    kFrameHeaderBytes + (wireU32 bytes 8).toNat ≤ bytes.length ∧
      frameCrc ⟨wireU16 bytes 6⟩ (wireU32 bytes 8) ((bytes.drop kFrameHeaderBytes).take (wireU32 bytes 8).toNat) ≠
        wireU32 bytes 12

/-- The stops at which a frame was wrong, and what is said about it. -/
def Stop.complaint : Stop → Option FlowObs.Error
  | .refused e => some e
  | .checksum => some ⟨.ProtocolError, str "frame checksum mismatch"⟩
  | .header | .payload => none

/-- **A stream ends with a complaint just when a wrong frame is next.** -/
theorem wrongFrame_iff {maxFrameBytes : Nat} {bytes : Str} :
    WrongFrame maxFrameBytes bytes ↔ ∃ stop e, nextFrame maxFrameBytes bytes = .error stop ∧
    stop.complaint = some e := by
  unfold nextFrame
  by_cases hlen : bytes.length < kFrameHeaderBytes
  · rw [if_pos hlen]
    constructor
    · intro h
      exact absurd h.header (Nat.not_le.2 hlen)
    · rintro ⟨_, e, ⟨⟩, hcomplaint⟩
      cases hcomplaint
  · have hlen' := Nat.not_lt.1 hlen
    rw [if_neg hlen, decodeFrameHeader_take hlen']
    cases hdecode : decodeFrameHeader bytes maxFrameBytes with
    | error e =>
      refine ⟨fun _ => ⟨_, _, rfl, rfl⟩, fun _ => ⟨hlen', ?_⟩⟩
      by_contra hright
      simp only [not_or, not_not, not_lt] at hright
      obtain ⟨hmagic, hversion, hbound, -⟩ := hright
      have hok := decodeFrameHeader_eq_ok.2 ⟨hmagic, hversion, hbound, rfl⟩
      rw [hdecode] at hok
      cases hok
    | ok decoded =>
      obtain ⟨hmagic, hversion, hbound, rfl⟩ := decodeFrameHeader_eq_ok.1 hdecode
      have hwrong : WrongFrame maxFrameBytes bytes → kFrameHeaderBytes + (wireU32 bytes 8).toNat ≤ bytes.length ∧
          frameCrc ⟨wireU16 bytes 6⟩ (wireU32 bytes 8) ((bytes.drop kFrameHeaderBytes).take (wireU32 bytes 8).toNat) ≠
            wireU32 bytes 12 := by
        rintro ⟨-, h | h | h | h⟩
        · exact absurd hmagic h
        · exact absurd hversion h
        · exact absurd h (Nat.not_lt.2 hbound)
        · exact h
      dsimp only
      rw [List.length_drop]
      by_cases hshort : bytes.length - kFrameHeaderBytes < (wireU32 bytes 8).toNat
      · rw [if_pos hshort]
        constructor
        · intro h
          have hwhole := (hwrong h).1
          omega
        · rintro ⟨_, e, ⟨⟩, hcomplaint⟩
          cases hcomplaint
      · rw [if_neg hshort]
        split
        · rename_i hcrc
          exact ⟨fun _ => ⟨_, _, rfl, rfl⟩, fun _ => ⟨hlen', .inr (.inr (.inr ⟨by omega, hcrc⟩))⟩⟩
        · rename_i hcrc
          constructor
          · intro h
            exact absurd (hwrong h).2 hcrc
          · rintro ⟨_, e, ⟨⟩, -⟩

end FlowObs.Wire
