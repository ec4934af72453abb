import FlowObs.Persist.Damage

/-!
# Where a reading leaves the handle

Reader and writer share one stream, and neither `read_all` nor `append` seeks the end before it is done: a reading that
fails leaves the position where it stopped, and the next record is written there. `ReadsToEnd` says from the bytes
alone which readings stop at the end of the file (`readLoop_end_iff`). The record appended next stands behind the old
bytes exactly after these (`append_after_reading_iff`).
-/

namespace FlowObs

/-- **A write appends exactly at the end of the file.** -/
theorem FileStream.write_append_iff {f : FileStream} {data : List UInt8} (hne : data ≠ []) :
    (f.write data).bytes = f.bytes ++ data ↔ f.position = f.bytes.length := by
  constructor
  · intro h
    have hlength := congrArg List.length h
    have hdata := List.length_pos_iff.2 hne
    simp only [write, List.length_append, List.length_take, List.length_replicate, List.length_drop] at hlength
    omega
  · intro h
    rw [write_at_end h]

variable {limits : Limits} {bytes rest : List UInt8} {r : Record} {n : Nat}

/-! ## Readings that stop at the end -/

/-- The bytes are refused, and the last of them was read for it: a bare header of a record that is refused by its
header, or a whole frame with another checksum. -/
def RefusedLast (limits : Limits) (bytes : List UInt8) : Prop :=
  match readRecordHead.run bytes with
  | none => False
  | some ((kind, _, length, crc), rest) =>
    if RecordKind.ofU16? kind = none ∨ maxPayload limits < length.toNat then rest = []
    else rest.length = length.toNat ∧ crc32c (bytes.take 8 ++ rest) ≠ crc

instance (limits : Limits) (bytes : List UInt8) : Decidable (RefusedLast limits bytes) :=
  match h : readRecordHead.run bytes with
  | none => isFalse (by simp only [RefusedLast, h, not_false_eq_true])
  | some ((kind, _, length, crc), rest) =>
    have hiff : (if RecordKind.ofU16? kind = none ∨ maxPayload limits < length.toNat then rest = []
        else rest.length = length.toNat ∧ crc32c (bytes.take 8 ++ rest) ≠ crc) ↔ RefusedLast limits bytes := by
      simp only [RefusedLast, h]
    decidable_of_iff _ hiff

/-- **The bytes at which a reading fails and has read all of them.** -/
theorem refusedLast_iff : RefusedLast limits bytes ↔ ∃ e, scanRecord limits bytes = .failed e [] := by
  by_cases hlt : bytes.length < kRecordHeaderBytes
  · simp only [RefusedLast, scanRecord, readRecordHead_of_lt hlt, false_iff, not_exists]
    intro e
    split
    · exact fun h => by cases h
    · exact fun h => by cases h
  · obtain ⟨⟨kind, reserved, length, crc⟩, hhead⟩ := readRecordHead_of_le (Nat.not_lt.1 hlt)
    have hnil : bytes ≠ [] := by
      rintro rfl
      exact hlt (Nat.zero_lt_succ _)
    generalize bytes.drop kRecordHeaderBytes = after at hhead
    simp only [RefusedLast, scanRecord, if_neg hnil, hhead]
    cases hk : RecordKind.ofU16? kind with
    | none => simp
    | some k =>
      by_cases hle : maxPayload limits < length.toNat
      · simp [hle]
      · simp only [hle, reduceCtorEq, or_self, if_false]
        by_cases hshort : after.length < length.toNat
        · simp only [if_pos hshort, reduceCtorEq, exists_false, iff_false]
          omega
        · rw [if_neg hshort]
          by_cases hwhole : after.length = length.toNat
          · rw [← hwhole, List.take_length, List.drop_length]
            by_cases hcrc : crc32c (bytes.take 8 ++ after) = crc
            · simp [hcrc]
            · simp [hcrc]
          · have hrest : after.drop length.toNat ≠ [] := by
              rw [ne_eq, List.drop_eq_nil_iff]
              omega
            simp only [hwhole, false_and, false_iff, not_exists]
            intro e
            split
            · simp [hrest]
            · exact fun h => by cases h

/-- After `n` records the reader stops at the end of the bytes: these are whole frames of records, and at the end stands
nothing or an unfinished frame, what is refused once it is all read, or the first record over the bound on their
number. -/
inductive ReadsToEnd (limits : Limits) : Nat → List UInt8 → Prop
  | unfinished {n : Nat} {bytes : List UInt8} (h : Unfinished limits bytes) : ReadsToEnd limits n bytes
  | refused {n : Nat} {bytes : List UInt8} (h : RefusedLast limits bytes) : ReadsToEnd limits n bytes
  | surplus {n : Nat} {r : Record} {reserved : UInt16} (hp : r.payload.length ≤ maxPayload limits)
      (hn : recordCap limits ≤ n) : ReadsToEnd limits n (frame reserved r)
  | record {n : Nat} {r : Record} {reserved : UInt16} {rest : List UInt8} (hp : r.payload.length ≤ maxPayload limits)
      (hn : n < recordCap limits) (h : ReadsToEnd limits (n + 1) rest) : ReadsToEnd limits n (frame reserved r ++ rest)

/-- Bytes that give no record are read to the end when they are unfinished or refused as a whole. -/
theorem readsToEnd_no_record (h32 : maxPayload limits < 2 ^ 32)
    (hno : ∀ r rest, scanRecord limits bytes ≠ .record r rest) :
    ReadsToEnd limits n bytes ↔ Unfinished limits bytes ∨ RefusedLast limits bytes := by
  constructor
  · intro h
    cases h with
    | unfinished h => exact .inl h
    | refused h => exact .inr h
    | @surplus _ r reserved hp hn =>
      have hscan := scanRecord_frame hp h32 reserved []
      rw [List.append_nil] at hscan
      exact absurd hscan (hno r [])
    | @record _ r reserved rest hp hn h => exact absurd (scanRecord_frame hp h32 reserved rest) (hno r rest)
  · rintro (h | h)
    · exact .unfinished h
    · exact .refused h

/-- Bytes that give a record are read to the end when nothing is behind a record over the bound, or when what is behind
one within the bound is read to the end. -/
theorem readsToEnd_record (h32 : maxPayload limits < 2 ^ 32) (hscan : scanRecord limits bytes = .record r rest) :
    ReadsToEnd limits n bytes ↔
      recordCap limits ≤ n ∧ rest = [] ∨ n < recordCap limits ∧ ReadsToEnd limits (n + 1) rest := by
  constructor
  · intro h
    cases h with
    | unfinished h =>
      rcases unfinished_iff.1 h with h | ⟨_, h⟩ <;> rw [hscan] at h <;> cases h
    | refused h =>
      obtain ⟨_, h⟩ := refusedLast_iff.1 h
      rw [hscan] at h
      cases h
    | @surplus _ r' reserved hp hn =>
      have hframe := scanRecord_frame hp h32 reserved []
      rw [List.append_nil, hscan] at hframe
      cases hframe
      exact .inl ⟨hn, rfl⟩
    | @record _ r' reserved rest' hp hn h =>
      have hframe := scanRecord_frame hp h32 reserved rest'
      rw [hscan] at hframe
      cases hframe
      exact .inr ⟨hn, h⟩
  · obtain ⟨hp, reserved, rfl⟩ := (scanRecord_iff h32).1 hscan
    rintro (⟨hn, rfl⟩ | ⟨hn, h⟩)
    · rw [List.append_nil]
      exact .surplus hp hn
    · exact .record hp hn h

/-- **The readings that leave nothing unread**, whether they succeed or fail. -/
theorem readLoop_end_iff {recovery : RecoveryPolicy} (h32 : maxPayload limits < 2 ^ 32) {fuel : Nat} {out : List Record}
    (hfuel : bytes.length < fuel) :
    (readLoop limits recovery fuel out bytes).1 = [] ↔ ReadsToEnd limits out.length bytes := by
  induction fuel generalizing out bytes with
  | zero => exact absurd hfuel (Nat.not_lt_zero _)
  | succ fuel ih =>
    rw [readLoop]
    cases hscan : scanRecord limits bytes with
    | finished =>
      rw [readsToEnd_no_record h32 (by rw [hscan]; intro _ _ h; cases h)]
      exact ⟨fun _ => .inl (unfinished_iff.2 (.inl hscan)), fun _ => rfl⟩
    | torn message =>
      rw [readsToEnd_no_record h32 (by rw [hscan]; intro _ _ h; cases h)]
      exact ⟨fun _ => .inl (unfinished_iff.2 (.inr ⟨message, hscan⟩)), fun _ => rfl⟩
    | failed e left =>
      have hu : ¬ Unfinished limits bytes := by
        rw [unfinished_iff, hscan]
        rintro (h | ⟨_, h⟩) <;> cases h
      rw [readsToEnd_no_record h32 (by rw [hscan]; intro _ _ h; cases h), or_iff_right hu, refusedLast_iff, hscan]
      simp
    | record r left =>
      have hleft : left.length < fuel := by
        have := scanRecord_record_length hscan
        simp only [Record.size, kRecordHeaderBytes] at this
        omega
      rw [readsToEnd_record h32 hscan]
      by_cases hcap : recordCap limits ≤ out.length
      · rw [or_iff_left fun h => absurd h.1 (Nat.not_lt.2 hcap), and_iff_right hcap]
        simp only [if_pos hcap]
      · rw [or_iff_right fun h => hcap h.1, and_iff_right (Nat.not_le.1 hcap)]
        simp only [if_neg hcap]
        rw [ih hleft, List.length_append, List.length_singleton]

/-- A reading of the whole file stops at its end: it is refused for its length, or it has a header and the records
behind it are read to the end. -/
def ReadsThrough (limits : Limits) (bytes : List UInt8) : Prop :=
  limits.maxJournalBytes.toNat < bytes.length ∨
    kHeaderBytes ≤ bytes.length ∧ ReadsToEnd limits 0 (bytes.drop kHeaderBytes)

namespace Journal

variable {j : Journal}

/-- `verify`. -/
def verify (j : Journal) : Journal × Except Error Unit := (j.readAll.1, j.readAll.2.map fun _ => ())

/-- A reading moves the position and nothing else. -/
theorem readAll_frame (j : Journal) : ∃ position, j.readAll.1 = { j with file := j.file.seek position } := by
  unfold readAll
  split
  · exact ⟨j.file.position, rfl⟩
  · split
    · exact ⟨j.file.bytes.length, rfl⟩
    · exact ⟨_, rfl⟩

/-- **Where a reading leaves the position.** -/
theorem readAll_position_iff (ho : j.isOpen = true) (hv : j.limits.Valid) :
    j.readAll.1.file.position = j.file.bytes.length ↔ ReadsThrough j.limits j.file.bytes := by
  unfold readAll ReadsThrough
  simp only [ho, Bool.not_true, Bool.false_eq_true, if_false]
  split
  · rename_i hlong
    exact ⟨fun _ => .inl hlong, fun _ => rfl⟩
  · rename_i hlong
    have hlen : (j.file.bytes.drop kHeaderBytes).length = j.file.bytes.length - kHeaderBytes := List.length_drop
    generalize j.file.bytes.drop kHeaderBytes = body at hlen ⊢
    have hend : (readLoop j.limits j.recovery (body.length + 1) [] body).1 = [] ↔ ReadsToEnd j.limits 0 body :=
      readLoop_end_iff (maxPayload_lt hv) (Nat.lt_succ_self _)
    have hempty : body = [] → (readLoop j.limits j.recovery (body.length + 1) [] body).1 = [] := by
      rintro rfl
      rfl
    rw [or_iff_right hlong, ← hend]
    generalize (readLoop j.limits j.recovery (body.length + 1) [] body).1 = left at hempty ⊢
    show kHeaderBytes + (body.length - left.length) = j.file.bytes.length ↔ _
    rw [← List.length_eq_zero_iff, ← List.length_eq_zero_iff (l := left)] at *
    omega

/-- A record that is accepted is accepted wherever the stream stands, and is written there. -/
theorem append_anywhere {r : Record} (h : (j.append [r]).2 = .ok ()) (f : FileStream) :
    (append { j with file := f } [r]).2 = .ok () ∧
    (append { j with file := f } [r]).1.file = f.write (encodeRecord r) := by
  have hpayload := append_ok_payload h
  obtain ⟨ho, -⟩ := append_ok h
  unfold append at h ⊢
  simp only [ho, Bool.not_true, Bool.false_eq_true, if_false] at h ⊢
  split at h
  · cases h
  · rename_i hwrite
    rw [if_neg hwrite]
    split at h
    · cases h
    · rename_i hsize
      simp only [if_neg hsize, writeRecords, if_neg (Nat.not_lt.2 hpayload)]
      exact ⟨trivial, rfl⟩

/-- **Exactly when a reading does not misplace what is appended next.** The handle was opened, so that its limits are
valid, and the record is one that it accepts. -/
theorem append_after_reading_iff {r : Record} {k : Journal} (ho : j.isOpen = true) (hv : j.limits.Valid)
    (h : (j.append [r]).2 = .ok ()) (hk : k = j.readAll.1 ∨ k = j.verify.1) :
    (k.append [r]).2 = .ok () ∧ (k.append [r]).1.file.bytes = j.file.bytes ++ encodeRecord r ↔
      ReadsThrough j.limits j.file.bytes := by
  obtain rfl : k = j.readAll.1 := hk.elim id id
  obtain ⟨position, hread⟩ := readAll_frame j
  have hne : encodeRecord r ≠ [] := by
    have hlength := length_encodeRecord r
    rw [Record.size, kRecordHeaderBytes] at hlength
    exact List.ne_nil_of_length_pos (by omega)
  obtain ⟨hok, hfile⟩ := append_anywhere h (j.file.seek position)
  rw [← readAll_position_iff ho hv, hread, and_iff_right hok, hfile]
  exact FileStream.write_append_iff hne

/-- After a journal with a torn tail was read, a record stands behind the torn bytes. -/
theorem append_after_reading_torn : ((tornJournal 5).verify.1.append [sampleRecord 3]).2 = .ok () ∧
    ((tornJournal 5).verify.1.append [sampleRecord 3]).1.file.bytes
      = (tornJournal 5).file.bytes ++ encodeRecord (sampleRecord 3) :=
  (append_after_reading_iff rfl (Limits.valid_of_validate (by decide)) (by decide) (.inr rfl)).2 (by
    refine .inr ⟨by decide, ?_⟩
    have hbody : (tornJournal 5).file.bytes.drop kHeaderBytes
        = frame 0 (sampleRecord 1) ++ (encodeRecord (sampleRecord 2)).take 5 := by decide +kernel
    show ReadsToEnd _ 0 ((tornJournal 5).file.bytes.drop kHeaderBytes)
    rw [hbody]
    exact .record (by decide) (by decide) (.unfinished (by decide)))

/-- **A reading that fails at a damaged record lets the next one overwrite what stands behind it.** -/
theorem append_after_reading_can_overwrite : ¬ ∀ (path : Str) (existing : Option (List UInt8))
    (options : JournalOpenOptions) (j : Journal) (r : Record), openFile path existing options = .ok j →
    (j.append [r]).2 = .ok () → (j.verify.1.append [r]).1.file.bytes = j.file.bytes ++ encodeRecord r := by
  intro h
  have hsame := h [] (some (damagedFile 12 7)) {} (damagedJournal 12 7) (sampleRecord 3)
    (openFile_damagedJournal 12 7) (by decide)
  have hlost : ((damagedJournal 12 7).verify.1.append [sampleRecord 3]).1.file.bytes.length
      = (damagedJournal 12 7).file.bytes.length := by decide +kernel
  rw [hsame, List.length_append] at hlost
  exact absurd hlost (by decide)

end Journal

end FlowObs
