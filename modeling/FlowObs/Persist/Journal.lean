import FlowObs.Persist.StateCodec

/-!
# The journal

The record log of `persistence.cpp` over the bytes of its file: a 64-byte header with a checksum, then framed records,
each with a checksum of its own. A handle (`Journal`) carries the stream (bytes and position), the counters that
`append` bounds the growth with, and the header it rewrites on `flush`. Input and output do not fail here; what the
operations refuse by themselves is modelled. `readLoop_encode` reads back a run of records, `readLoop_ok` says what
every successful reading has checked.
-/

namespace FlowObs

open Binary

/-! ## The stream -/

/-- The stream of a file: its bytes, with those that are still in its buffer, and the position of the next access. -/
structure FileStream where
  bytes : List UInt8 := []
  position : Nat := 0
deriving DecidableEq, Repr, Inhabited

namespace FileStream

/-- `fwrite`: a gap before the position is filled with zeros. -/
def write (f : FileStream) (data : List UInt8) : FileStream where
  bytes := f.bytes.take f.position ++ List.replicate (f.position - f.bytes.length) 0 ++ data
    ++ f.bytes.drop (f.position + data.length)
  position := f.position + data.length

/-- `fseek` from the start. -/
def seek (f : FileStream) (position : Nat) : FileStream := { f with position := position }

/-- `fseek` to the end. -/
def seekEnd (f : FileStream) : FileStream := { f with position := f.bytes.length }

/-- Writing at the end appends. -/
theorem write_at_end {f : FileStream} (h : f.position = f.bytes.length) (data : List UInt8) :
    f.write data = ⟨f.bytes ++ data, (f.bytes ++ data).length⟩ := by
  simp [write, h]

/-- Writing at the start over at least as many bytes replaces them. -/
theorem write_at_start {data old : List UInt8} (rest : List UInt8) (p : Nat) (h : data.length = old.length) :
    (FileStream.seek ⟨old ++ rest, p⟩ 0).write data = ⟨data ++ rest, data.length⟩ := by
  simp [write, seek, h]

end FileStream

/-! ## The header -/

/-- `JournalHeader`. -/
structure JournalHeader where
  formatVersion : UInt16 := kJournalFormatVersion
  identityScheme : UInt16 := 1
  flags : UInt32 := 0
  runtimeEpoch : RuntimeEpoch := default
  createdAt : Timestamp := {}
  recordCount : UInt64 := 0
deriving DecidableEq, Repr, Inhabited

/-- `kMagic`. -/
def kMagic : List UInt8 := [70, 79, 66, 83, 74, 78, 76, 49]

/-- `kHeaderBytes`. -/
def kHeaderBytes : Nat := 64

/-- The fields of the header after the magic and before the checksum. -/
def putHeaderFields (h : JournalHeader) : List UInt8 :=
  u16 h.formatVersion ++ u16 h.identityScheme ++ u32 h.flags ++ putNum h.runtimeEpoch ++ putTime h.createdAt
    ++ u64 h.recordCount ++ u64 0 ++ u32 0

/-- The header as `write_header` lays it out: the checksum covers the first 52 bytes. -/
def encodeHeader (h : JournalHeader) : List UInt8 :=
  let body := kMagic ++ putHeaderFields h
  body ++ u32 (crc32c body) ++ List.replicate 8 0

theorem length_encodeHeader (h : JournalHeader) : (encodeHeader h).length = kHeaderBytes := by
  simp [encodeHeader, putHeaderFields, kMagic, kHeaderBytes, putNum, putTime, i64]

/-- The header fields as they are read back. -/
def readHeaderFields : Reader JournalHeader := do
  let formatVersion ← readU16
  let identityScheme ← readU16
  let flags ← readU32
  let runtimeEpoch ← readNum .runtimeEpoch
  let createdAt ← readTime
  let recordCount ← readU64
  pure { formatVersion, identityScheme, flags, runtimeEpoch, createdAt, recordCount }

theorem readHeaderFields_put (h : JournalHeader) (rest : List UInt8) :
    ∃ tail, readHeaderFields.run (putHeaderFields h ++ rest) = some (h, tail) :=
  ⟨u64 0 ++ (u32 0 ++ rest), by simp [readHeaderFields, putHeaderFields, List.append_assoc]⟩

/-- The header checks of `Journal::open` on an existing file. -/
def decodeHeader (recovery : RecoveryPolicy) (path : Str) (bytes : List UInt8) : Except Error JournalHeader :=
  if bytes.length < kHeaderBytes then .error ⟨.TruncatedRecord, str "journal header is truncated: " ++ path⟩
  else if bytes.take 8 ≠ kMagic then .error ⟨.FormatMismatch, str "journal magic does not match"⟩
  else if (readU32.run (bytes.drop 52)).map (·.1) ≠ some (crc32c (bytes.take 52)) then
    .error ⟨.IntegrityFailure, str "journal header checksum mismatch"⟩
  else match readHeaderFields.run (bytes.drop 8) with
    | none => .error ⟨.TruncatedRecord, str "journal header is truncated: " ++ path⟩
    | some (h, _) => do
      require (!(recovery.enforceFormatVersion
          && (kJournalFormatVersion < h.formatVersion || h.formatVersion < kJournalMinReadableVersion)))
        ⟨.VersionMismatch, str "journal format version " ++ decimal h.formatVersion.toNat
          ++ str " is outside the supported range [" ++ decimal kJournalMinReadableVersion.toNat ++ str ", "
          ++ decimal kJournalFormatVersion.toNat ++ str "]"⟩
      require (!(recovery.enforceIdentityScheme && h.identityScheme.toUInt32 != kIdentitySchemeVersion))
        ⟨.VersionMismatch, str "journal identity scheme " ++ decimal h.identityScheme.toNat
          ++ str " does not match this build (" ++ decimal kIdentitySchemeVersion.toNat ++ str ")"⟩
      pure h

/-- The header is of a version and a scheme that the policy takes. -/
def Supported (recovery : RecoveryPolicy) (h : JournalHeader) : Prop :=
  (recovery.enforceFormatVersion
    && (kJournalFormatVersion < h.formatVersion || h.formatVersion < kJournalMinReadableVersion)) = false ∧
  (recovery.enforceIdentityScheme && h.identityScheme.toUInt32 != kIdentitySchemeVersion) = false

/-- **A header is read back exactly when it is supported.** -/
theorem decodeHeader_iff {recovery : RecoveryPolicy} {path : Str} {h h' : JournalHeader} {rest : List UInt8} :
    decodeHeader recovery path (encodeHeader h ++ rest) = .ok h' ↔ h' = h ∧ Supported recovery h := by
  have hbody : (kMagic ++ putHeaderFields h).length = 52 := by
    simp [putHeaderFields, kMagic, putNum, putTime, i64]
  have hlen : ¬ (encodeHeader h ++ rest).length < kHeaderBytes := by
    rw [List.length_append, length_encodeHeader]; omega
  have hsplit : encodeHeader h ++ rest = (kMagic ++ putHeaderFields h)
      ++ (u32 (crc32c (kMagic ++ putHeaderFields h)) ++ (List.replicate 8 0 ++ rest)) := by
    simp [encodeHeader, List.append_assoc]
  have h8 : (encodeHeader h ++ rest).take 8 = kMagic := by
    rw [hsplit, List.append_assoc]; exact List.take_left' rfl
  have h52 : (encodeHeader h ++ rest).take 52 = kMagic ++ putHeaderFields h := by
    rw [hsplit]; exact List.take_left' hbody
  have hcrc : (encodeHeader h ++ rest).drop 52
      = u32 (crc32c (kMagic ++ putHeaderFields h)) ++ (List.replicate 8 0 ++ rest) := by
    rw [hsplit]; exact List.drop_left' hbody
  have hfields : (encodeHeader h ++ rest).drop 8
      = putHeaderFields h ++ (u32 (crc32c (kMagic ++ putHeaderFields h)) ++ (List.replicate 8 0 ++ rest)) := by
    rw [hsplit, List.append_assoc]; exact List.drop_left' rfl
  obtain ⟨tail, htail⟩ := readHeaderFields_put h (u32 (crc32c (kMagic ++ putHeaderFields h))
    ++ (List.replicate 8 0 ++ rest))
  simp only [decodeHeader, if_neg hlen, h8, h52, hcrc, hfields, htail, readU32_u32, Option.map_some, ne_eq,
    not_true_eq_false, if_false]
  constructor
  · intro hr
    rw [bind_ok] at hr
    obtain ⟨_, hversion, hr⟩ := hr
    rw [bind_ok] at hr
    obtain ⟨_, hscheme, hr⟩ := hr
    cases hr
    exact ⟨rfl, Bool.not_eq_eq_eq_not.1 (require_ok.1 hversion), Bool.not_eq_eq_eq_not.1 (require_ok.1 hscheme)⟩
  · rintro ⟨rfl, hversion, hscheme⟩
    simp only [hversion, hscheme, Bool.not_false, require_true, ok_bind, pure_eq_ok]

/-- **A header that this build wrote is read back.** -/
theorem decodeHeader_encode {recovery : RecoveryPolicy} {path : Str} {h : JournalHeader} (rest : List UInt8)
    (hv : h.formatVersion = kJournalFormatVersion) (hs : h.identityScheme = 1) :
    decodeHeader recovery path (encodeHeader h ++ rest) = .ok h := by
  refine decodeHeader_iff.2 ⟨rfl, ?_, ?_⟩
  · rw [hv]; cases recovery.enforceFormatVersion <;> rfl
  · rw [hs]; cases recovery.enforceIdentityScheme <;> rfl

/-! ## Records -/

/-- The part of a record's header that its checksum covers. -/
def recordHead (r : Record) : List UInt8 := u16 r.kind.toU16 ++ u16 0 ++ u32 (UInt32.ofNat r.payload.length)

/-- A record as it is framed in the file. -/
def encodeRecord (r : Record) : List UInt8 :=
  recordHead r ++ u32 (crc32c (recordHead r ++ r.payload)) ++ r.payload

theorem length_encodeRecord (r : Record) : (encodeRecord r).length = r.size := by
  simp only [encodeRecord, recordHead, Record.size, kRecordHeaderBytes, List.length_append, length_u16, length_u32]

theorem length_encodeRecords : ∀ rs : List Record, (rs.flatMap encodeRecord).length = (rs.map Record.size).sum
  | [] => rfl
  | r :: rs => by simp [length_encodeRecord, length_encodeRecords rs]

/-- The largest payload that is appended or read. -/
def maxPayload (limits : Limits) : Nat := (limits.maxFrameBytes * 16).toNat

/-- The largest number of records that is read. -/
def recordCap (limits : Limits) : Nat := (limits.maxResultSet * 1024 + 1024).toNat

/-- What one step of reading finds at the front of the rest of the file. -/
inductive ScanStep
  | finished
  | torn (message : Str)
  | failed (e : Error) (rest : List UInt8)
  | record (r : Record) (rest : List UInt8)
deriving DecidableEq, Repr

def readRecordHead : Reader (UInt16 × UInt16 × UInt32 × UInt32) := do
  let kind ← readU16
  let reserved ← readU16
  let length ← readU32
  let crc ← readU32
  pure (kind, reserved, length, crc)

theorem readRecordHead_of_le {bytes : List UInt8} (h : kRecordHeaderBytes ≤ bytes.length) :
    ∃ head, readRecordHead.run bytes = some (head, bytes.drop kRecordHeaderBytes) := by
  have h12 : 12 ≤ bytes.length := h
  obtain ⟨kind, hkind⟩ := readLE_of_le (show 2 ≤ bytes.length by omega)
  obtain ⟨reserved, hreserved⟩ := readLE_of_le (show 2 ≤ (bytes.drop 2).length by rw [List.length_drop]; omega)
  obtain ⟨length, hlength⟩ := readLE_of_le (show 4 ≤ (bytes.drop 4).length by rw [List.length_drop]; omega)
  obtain ⟨crc, hcrc⟩ := readLE_of_le (show 4 ≤ (bytes.drop 8).length by rw [List.length_drop]; omega)
  rw [List.drop_drop] at hreserved hlength hcrc
  exact ⟨(UInt16.ofNat kind, UInt16.ofNat reserved, UInt32.ofNat length, UInt32.ofNat crc), by
    simp [readRecordHead, readU16, readU32, hkind, hreserved, hlength, hcrc, kRecordHeaderBytes]⟩

theorem readRecordHead_of_lt {bytes : List UInt8} (h : bytes.length < kRecordHeaderBytes) :
    readRecordHead.run bytes = none := by
  have h12 : bytes.length < 12 := h
  by_cases h2 : bytes.length < 2
  · simp [readRecordHead, readU16, readLE_of_lt h2]
  · obtain ⟨kind, hkind⟩ := readLE_of_le (show 2 ≤ bytes.length by omega)
    by_cases h4 : bytes.length < 4
    · have hreserved := readLE_of_lt (show (bytes.drop 2).length < 2 by rw [List.length_drop]; omega)
      simp [readRecordHead, readU16, hkind, hreserved]
    · obtain ⟨reserved, hreserved⟩ := readLE_of_le (show 2 ≤ (bytes.drop 2).length by rw [List.length_drop]; omega)
      rw [List.drop_drop] at hreserved
      by_cases h8 : bytes.length < 8
      · have hlength := readLE_of_lt (show (bytes.drop 4).length < 4 by rw [List.length_drop]; omega)
        simp [readRecordHead, readU16, readU32, hkind, hreserved, hlength]
      · obtain ⟨length, hlength⟩ := readLE_of_le (show 4 ≤ (bytes.drop 4).length by rw [List.length_drop]; omega)
        have hcrc := readLE_of_lt (show (bytes.drop 8).length < 4 by rw [List.length_drop]; omega)
        rw [List.drop_drop] at hlength
        simp [readRecordHead, readU16, readU32, hkind, hreserved, hlength, hcrc]

/-- The body of the loop of `read_all` before the record is kept. -/
def scanRecord (limits : Limits) (bytes : List UInt8) : ScanStep :=
  if bytes = [] then .finished
  else match readRecordHead.run bytes with
    | none => .torn (str "journal ends with an incomplete record header")
    | some ((kind, _, length, crc), rest) =>
      match RecordKind.ofU16? kind with
      | none => .failed ⟨.FormatMismatch, str "unknown journal record kind " ++ decimal kind.toNat⟩ rest
      | some k =>
        if maxPayload limits < length.toNat then
          .failed (limitExceeded "journal record length exceeds the configured bound") rest
        else if rest.length < length.toNat then .torn (str "journal ends with an incomplete record payload")
        else if crc32c (bytes.take 8 ++ rest.take length.toNat) ≠ crc then
          .failed ⟨.IntegrityFailure, str "journal record checksum mismatch for kind " ++ decimal kind.toNat⟩
            (rest.drop length.toNat)
        else .record ⟨k, rest.take length.toNat⟩ (rest.drop length.toNat)

/-- The loop of `read_all`: the bytes it left unread and what it returned. Every step takes at least one byte, so that
fuel beyond the number of bytes is never used up. -/
def readLoop (limits : Limits) (recovery : RecoveryPolicy) : Nat → List Record → List UInt8 →
    List UInt8 × Except Error (List Record)
  | 0, out, rest => (rest, .ok out)
  | fuel + 1, out, rest =>
    match scanRecord limits rest with
    | .finished => ([], .ok out)
    | .torn message => ([], if recovery.tornTail = .Reject then .error ⟨.TruncatedRecord, message⟩ else .ok out)
    | .failed e rest => (rest, .error e)
    | .record r rest =>
      if recordCap limits ≤ out.length then
        (rest, .error (limitExceeded "journal record count exceeds the configured bound"))
      else readLoop limits recovery fuel (out ++ [r]) rest

/-- The part of a frame's header that its checksum covers. The writer leaves the reserved field zero. -/
def frameHead (reserved : UInt16) (r : Record) : List UInt8 :=
  u16 r.kind.toU16 ++ u16 reserved ++ u32 (UInt32.ofNat r.payload.length)

/-- A record in a frame whose reserved field is anything: the reader does not look at it. -/
def frame (reserved : UInt16) (r : Record) : List UInt8 :=
  frameHead reserved r ++ u32 (crc32c (frameHead reserved r ++ r.payload)) ++ r.payload

theorem frame_zero (r : Record) : frame 0 r = encodeRecord r := rfl

theorem length_frame (reserved : UInt16) (r : Record) : (frame reserved r).length = r.size := by
  simp only [frame, frameHead, Record.size, kRecordHeaderBytes, List.length_append, length_u16, length_u32]

@[simp] theorem readRecordHead_frame (reserved : UInt16) (r : Record) (rest : List UInt8) :
    readRecordHead.run (frame reserved r ++ rest)
      = some ((r.kind.toU16, reserved, UInt32.ofNat r.payload.length, crc32c (frameHead reserved r ++ r.payload)),
          r.payload ++ rest) := by
  simp [readRecordHead, frame, frameHead, List.append_assoc]

theorem frame_append_ne_nil (reserved : UInt16) (r : Record) (rest : List UInt8) : frame reserved r ++ rest ≠ [] := by
  intro he
  have := congrArg List.length he
  simp [length_frame, Record.size, kRecordHeaderBytes] at this

/-- A record within the payload bound is scanned back from any frame. -/
theorem scanRecord_frame {limits : Limits} {r : Record} (h : r.payload.length ≤ maxPayload limits)
    (h32 : maxPayload limits < 2 ^ 32) (reserved : UInt16) (rest : List UInt8) :
    scanRecord limits (frame reserved r ++ rest) = .record r rest := by
  have hlen : (UInt32.ofNat r.payload.length).toNat = r.payload.length := by
    simpa using Nat.mod_eq_of_lt (lt_of_le_of_lt h h32)
  have htake : (frame reserved r ++ rest).take 8 = frameHead reserved r := by
    rw [frame, List.append_assoc, List.append_assoc]
    exact List.take_left' (by simp [frameHead])
  have hshort : ¬ (r.payload ++ rest).length < r.payload.length := by simp
  simp only [scanRecord, if_neg (frame_append_ne_nil reserved r rest), readRecordHead_frame, RecordKind.ofU16?_toU16,
    hlen, if_neg (Nat.not_lt.2 h), if_neg hshort, htake, List.take_left', List.drop_left', ne_eq, not_true_eq_false,
    if_false]

/-- A record within the payload bound is scanned back. -/
theorem scanRecord_encode {limits : Limits} {r : Record} (h : r.payload.length ≤ maxPayload limits)
    (h32 : maxPayload limits < 2 ^ 32) (rest : List UInt8) :
    scanRecord limits (encodeRecord r ++ rest) = .record r rest :=
  scanRecord_frame h h32 0 rest

/-- Records within the bounds are read, and reading goes on behind them. -/
theorem readLoop_records {limits : Limits} {recovery : RecoveryPolicy} (h32 : maxPayload limits < 2 ^ 32)
    (bytes : List UInt8) (fuel : Nat) : ∀ (rs out : List Record), (∀ r ∈ rs, r.payload.length ≤ maxPayload limits) →
      out.length + rs.length ≤ recordCap limits →
      readLoop limits recovery (fuel + rs.length) out (rs.flatMap encodeRecord ++ bytes)
        = readLoop limits recovery fuel (out ++ rs) bytes
  | [], out, _, _ => by rw [List.append_nil]; rfl
  | r :: rs, out, hp, hc => by
    have hcap : ¬ recordCap limits ≤ out.length := by simp at hc; omega
    have ih : readLoop limits recovery (fuel + rs.length) (out ++ [r]) _ = _ :=
      readLoop_records h32 bytes fuel rs (out ++ [r])
      (fun r' hr' => hp r' (List.mem_cons_of_mem _ hr')) (by simp at hc ⊢; omega)
    rw [List.flatMap_cons, List.append_assoc, List.length_cons, ← Nat.add_assoc, readLoop,
      scanRecord_encode (hp r List.mem_cons_self) h32]
    simp only [if_neg hcap, ih, List.append_assoc, List.singleton_append]

/-- **A run of records within the bounds is read back.** -/
theorem readLoop_encode {limits : Limits} {recovery : RecoveryPolicy} (h32 : maxPayload limits < 2 ^ 32)
    (rs : List Record) (fuel : Nat) (out : List Record) (hfuel : rs.length < fuel)
    (hp : ∀ r ∈ rs, r.payload.length ≤ maxPayload limits) (hc : out.length + rs.length ≤ recordCap limits) :
    readLoop limits recovery fuel out (rs.flatMap encodeRecord) = ([], .ok (out ++ rs)) := by
  obtain ⟨spare, rfl⟩ := Nat.exists_eq_add_of_lt hfuel
  have h : readLoop limits recovery (spare + 1 + rs.length) out _ = _ :=
    readLoop_records h32 [] (spare + 1) rs out hp hc
  rw [List.append_nil, Nat.add_comm (spare + 1)] at h
  rw [Nat.add_assoc, h]
  simp [readLoop, scanRecord]

/-- What a scanned record has passed. -/
theorem scanRecord_record {limits : Limits} {bytes rest : List UInt8} {r : Record}
    (h : scanRecord limits bytes = .record r rest) : r.payload.length ≤ maxPayload limits := by
  unfold scanRecord at h
  split at h
  · cases h
  · split at h
    · cases h
    · split at h
      · cases h
      · split at h
        · cases h
        · split at h
          · cases h
          · split at h
            · cases h
            · cases h
              rw [List.length_take]
              omega

/-- A scanned record has taken its bytes. -/
theorem scanRecord_record_length {limits : Limits} {bytes rest : List UInt8} {r : Record}
    (h : scanRecord limits bytes = .record r rest) : bytes.length = r.size + rest.length := by
  unfold scanRecord at h
  split at h
  · cases h
  · cases hlt : decide (bytes.length < kRecordHeaderBytes) with
    | true =>
      rw [readRecordHead_of_lt (of_decide_eq_true hlt)] at h
      cases h
    | false =>
      have hle : kRecordHeaderBytes ≤ bytes.length := Nat.not_lt.1 (of_decide_eq_false hlt)
      obtain ⟨⟨kind, reserved, length, crc⟩, hhead⟩ := readRecordHead_of_le hle
      rw [hhead] at h
      simp only at h
      split at h
      · cases h
      · split at h
        · cases h
        · split at h
          · cases h
          · split at h
            · cases h
            · cases h
              simp only [Record.size, List.length_take, List.length_drop] at *
              omega

/-- **A successful reading has kept to the bounds.** -/
theorem readLoop_ok {limits : Limits} {recovery : RecoveryPolicy} : ∀ {fuel : Nat} {out rs : List Record}
    {bytes : List UInt8}, (readLoop limits recovery fuel out bytes).2 = .ok rs → out.length ≤ recordCap limits →
      (∀ r ∈ out, r.payload.length ≤ maxPayload limits) →
      rs.length ≤ recordCap limits ∧ ∀ r ∈ rs, r.payload.length ≤ maxPayload limits
  | 0, _, _, _, h, hc, hp => by cases h; exact ⟨hc, hp⟩
  | fuel + 1, out, rs, bytes, h, hc, hp => by
    rw [readLoop] at h
    split at h
    · cases h; exact ⟨hc, hp⟩
    · split at h <;> cases h
      exact ⟨hc, hp⟩
    · cases h
    · rename_i r rest hs
      split at h
      · cases h
      · refine readLoop_ok h (by simp; omega) fun r' hr' => ?_
        rcases List.mem_append.1 hr' with hr' | hr'
        · exact hp r' hr'
        · exact List.mem_singleton.1 hr' ▸ scanRecord_record hs

/-- Every reading that succeeds has reached the end of the file. -/
theorem readLoop_rest {limits : Limits} {recovery : RecoveryPolicy} : ∀ {fuel : Nat} {out rs : List Record}
    {bytes : List UInt8}, (readLoop limits recovery fuel out bytes).2 = .ok rs → bytes.length < fuel →
      (readLoop limits recovery fuel out bytes).1 = []
  | 0, _, _, _, _, hf => absurd hf (Nat.not_lt_zero _)
  | fuel + 1, out, rs, bytes, h, hf => by
    have hshorter : ∀ r rest, scanRecord limits bytes = .record r rest → rest.length < bytes.length := by
      intro r rest hs
      have hsize := scanRecord_record_length hs
      rw [Record.size, kRecordHeaderBytes] at hsize
      omega
    rw [readLoop] at h ⊢
    cases hs : scanRecord limits bytes with
    | finished => rfl
    | torn message => rfl
    | failed e rest =>
      rw [hs] at h
      cases h
    | record r rest =>
      simp only [hs] at h ⊢
      split at h
      · cases h
      · rename_i hcap
        rw [if_neg hcap]
        exact readLoop_rest h (by have := hshorter r rest hs; omega)

/-! ## The handle -/

/-- `JournalStats`, the fields that the operations keep. -/
structure JournalStats where
  bytesWritten : UInt64 := 0
  recordsWritten : UInt64 := 0
  compactions : UInt64 := 0
  fileSize : Nat := 0
deriving DecidableEq, Repr, Inhabited

/-- `Journal`. The bytes of `file` are those of the file also after the handle is closed. The advisory lock is the one
that `open_journal_file` takes. -/
structure Journal where
  path : Str := []
  limits : Limits := {}
  recovery : RecoveryPolicy := {}
  readOnly : Bool := false
  file : FileStream := {}
  isOpen : Bool := false
  header : JournalHeader := {}
  stats : JournalStats := {}
  dirty : Bool := false
  locked : Bool := false
deriving DecidableEq, Repr, Inhabited

/-- `JournalOpenOptions`. -/
structure JournalOpenOptions where
  limits : Limits := {}
  recovery : RecoveryPolicy := {}
  readOnly : Bool := false
  createIfMissing : Bool := true
  truncateExisting : Bool := false
deriving DecidableEq, Repr, Inhabited

namespace Journal

/-- `write_header`. -/
def writeHeader (j : Journal) : Journal :=
  { j with file := (j.file.seek 0).write (encodeHeader j.header), dirty := true }

/-- A handle on a file that did not exist. Its statistics start at zero: they do not count the header. -/
def create (path : Str) (options : JournalOpenOptions) : Journal :=
  writeHeader { path := path, limits := options.limits, recovery := options.recovery, isOpen := true, locked := true }

/-- A handle on an existing file. -/
def attach (path : Str) (options : JournalOpenOptions) (bytes : List UInt8) : Except Error Journal := do
  let header ← decodeHeader options.recovery path bytes
  let file : FileStream := { bytes := bytes, position := kHeaderBytes }
  pure { path := path, limits := options.limits, recovery := options.recovery, readOnly := options.readOnly
         file := if options.readOnly then file else file.seekEnd
         isOpen := true, header := header, stats := { fileSize := bytes.length }, locked := !options.readOnly }

/-- `Journal::open`, given the bytes of the file at the path when there is one. -/
def openFile (path : Str) (existing : Option (List UInt8)) (options : JournalOpenOptions) : Except Error Journal := do
  options.limits.validate
  match existing with
  | none =>
    if !options.createIfMissing then .error ⟨.NotFound, str "journal does not exist: " ++ path⟩
    else if options.readOnly then .error ⟨.IoError, str "cannot open " ++ path⟩
    else pure (create path options)
  | some bytes =>
    if options.truncateExisting && !options.readOnly then pure (create path options)
    else attach path options bytes

/-- The body of the loop of `append`: one record is written and counted. -/
def writeRecord (j : Journal) (r : Record) : Journal :=
  { j with
    file := j.file.write (encodeRecord r)
    header := { j.header with recordCount := j.header.recordCount + 1 }
    stats := { j.stats with recordsWritten := j.stats.recordsWritten + 1
                            bytesWritten := j.stats.bytesWritten + UInt64.ofNat r.size } }

/-- The loop of `append`: the records of an accepted batch, one after the other, until one is too large. -/
def writeRecords (j : Journal) : List Record → Journal × Except Error Unit
  | [] => (j, .ok ())
  | r :: rs =>
    if maxPayload j.limits < r.payload.length then
      (j, .error (limitExceeded "record payload exceeds the configured bound"))
    else writeRecords (j.writeRecord r) rs

/-- `append`. -/
def append (j : Journal) (records : List Record) : Journal × Except Error Unit :=
  if !j.isOpen then (j, .error ⟨.NotOpen, str "journal is not open"⟩)
  else if j.readOnly then (j, .error ⟨.NotOpen, str "journal is open read-only"⟩)
  else
    let pending := (records.map Record.size).sum
    if 2 ^ 64 ≤ j.stats.fileSize + pending ∨ j.limits.maxJournalBytes.toNat < j.stats.fileSize + pending then
      (j, .error (limitExceeded "journal would exceed limits.max_journal_bytes"))
    else match j.writeRecords records with
      | (j, .error e) => (j, .error e)
      | (j, .ok ()) =>
        ({ j with stats := { j.stats with fileSize := j.stats.fileSize + pending }, dirty := true }, .ok ())

/-- `flush`: the header is written again, with the count of the records. -/
def flush (j : Journal) : Journal × Except Error Unit :=
  if !j.isOpen then (j, .error ⟨.NotOpen, str "journal is not open"⟩)
  else if j.readOnly || !j.dirty then (j, .ok ())
  else
    let j := j.writeHeader
    ({ j with file := j.file.seekEnd, dirty := false }, .ok ())

/-- `close`. -/
def close (j : Journal) : Journal × Except Error Unit :=
  if !j.isOpen then (j, .ok ()) else ({ j.flush.1 with isOpen := false, locked := false }, j.flush.2)

/-- `read_all`. The position moves to where the reading stopped. -/
def readAll (j : Journal) : Journal × Except Error (List Record) :=
  if !j.isOpen then (j, .error ⟨.NotOpen, str "journal is not open"⟩)
  else if j.limits.maxJournalBytes.toNat < j.file.bytes.length then
    ({ j with file := j.file.seekEnd }, .error (limitExceeded "journal exceeds limits.max_journal_bytes"))
  else
    let body := j.file.bytes.drop kHeaderBytes
    let result := readLoop j.limits j.recovery (body.length + 1) [] body
    ({ j with file := j.file.seek (kHeaderBytes + (body.length - result.1.length)) }, result.2)

/-- `rewrite`: the file is replaced by a new one with the given records, and opened again at its end, without a lock. -/
def rewrite (j : Journal) (records : List Record) (newEpoch : RuntimeEpoch) (createdAt : Timestamp) :
    Journal × Except Error Unit :=
  if j.readOnly then (j, .error ⟨.NotOpen, str "journal is open read-only"⟩)
  else
    let header : JournalHeader := { j.header with runtimeEpoch := newEpoch, createdAt := createdAt, recordCount := 0 }
    let bytes := encodeHeader { header with recordCount := UInt64.ofNat records.length }
      ++ records.flatMap encodeRecord
    ({ j with
        file := FileStream.seekEnd { bytes := bytes }
        isOpen := true
        locked := false
        header := header
        stats := { j.stats with fileSize := bytes.length, compactions := j.stats.compactions + 1 } }, .ok ())

/-- `set_runtime_epoch` and `set_created_at`. -/
def setEpoch (j : Journal) (epoch : RuntimeEpoch) (createdAt : Timestamp) : Journal :=
  { j with header := { j.header with runtimeEpoch := epoch, createdAt := createdAt }, dirty := true }

end Journal

end FlowObs
