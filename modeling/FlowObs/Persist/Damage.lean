import FlowObs.Persist.JournalRun

/-!
# Torn and damaged journals

What `read_all` makes of bytes that are not a run of whole records. `scanRecord_iff` says which bytes give a record,
`Unfinished` which bytes count as a torn tail, and `readLoop_ok_iff` puts both together: the records that are read back
are exactly those whose frames the bytes spell, up to an unfinished rest (`Frames`). Two consequences: a torn tail stays
in the file, so that what is appended later stands after it (`torn_reread_iff`), and a damaged length makes a whole
record look like a torn tail (`interior_damage_iff`).
-/

namespace FlowObs

open Binary Run

/-! ## What one step finds -/

/-- The header of a frame is read from the bytes that spell it. -/
theorem readRecordHead_some {bytes rest : List UInt8} {kind reserved : UInt16} {length crc : UInt32}
    (h : readRecordHead.run bytes = some ((kind, reserved, length, crc), rest)) :
    bytes = u16 kind ++ (u16 reserved ++ (u32 length ++ (u32 crc ++ rest))) := by
  obtain ⟨⟨k, r1⟩, hk, h⟩ := Option.bind_eq_some_iff.1 h
  obtain ⟨⟨s, r2⟩, hs, h⟩ := Option.bind_eq_some_iff.1 h
  obtain ⟨⟨l, r3⟩, hl, h⟩ := Option.bind_eq_some_iff.1 h
  obtain ⟨⟨c, r4⟩, hc, h⟩ := Option.bind_eq_some_iff.1 h
  cases h
  rw [readU16_some hk, readU16_some hs, readU32_some hl, readU32_some hc]

variable {limits : Limits} {bytes rest : List UInt8} {r : Record}

/-- **The bytes that give a record** are a frame of it within the payload bound. -/
theorem scanRecord_iff (h32 : maxPayload limits < 2 ^ 32) : scanRecord limits bytes = .record r rest ↔
    r.payload.length ≤ maxPayload limits ∧ ∃ reserved, bytes = frame reserved r ++ rest := by
  constructor
  · intro h
    refine ⟨scanRecord_record h, ?_⟩
    unfold scanRecord at h
    split at h
    · cases h
    · split at h
      · cases h
      · rename_i kind reserved length crc after hhead
        split at h
        · cases h
        · rename_i k hk
          split at h
          · cases h
          · split at h
            · cases h
            · rename_i hshort
              split at h
              · cases h
              · rename_i hcrc
                cases h
                have hlen : (after.take length.toNat).length = length.toNat := by
                  rw [List.length_take]
                  omega
                have hbytes := readRecordHead_some hhead
                have hhd : frameHead reserved ⟨k, after.take length.toNat⟩ = u16 kind ++ u16 reserved ++
                    u32 length := by
                  rw [frameHead, hlen, UInt32.ofNat_toNat, RecordKind.toU16_of_ofU16? hk]
                have h8 : bytes.take 8 = u16 kind ++ u16 reserved ++ u32 length := by
                  rw [hbytes, ← List.append_assoc, ← List.append_assoc]
                  exact List.take_left' (by simp)
                rw [h8, ne_eq, Classical.not_not] at hcrc
                refine ⟨reserved, ?_⟩
                rw [frame, hhd, hcrc, hbytes]
                simp only [List.append_assoc, List.take_append_drop]
  · rintro ⟨hp, reserved, rfl⟩
    exact scanRecord_frame hp h32 reserved rest

/-- The rest of a file ends inside the payload of a frame: the header is whole, its kind is known and its length is
within the bound. -/
def Overruns (limits : Limits) (bytes : List UInt8) : Prop :=
  match readRecordHead.run bytes with
  | none => False
  | some ((kind, _, length, _), rest) =>
    RecordKind.ofU16? kind ≠ none ∧ length.toNat ≤ maxPayload limits ∧ rest.length < length.toNat

instance (limits : Limits) (bytes : List UInt8) : Decidable (Overruns limits bytes) := by
  unfold Overruns; split <;> infer_instance

/-- The rest of a file ends before a frame is whole, or there is no rest. -/
def Unfinished (limits : Limits) (bytes : List UInt8) : Prop :=
  bytes.length < kRecordHeaderBytes ∨ Overruns limits bytes

instance (limits : Limits) (bytes : List UInt8) : Decidable (Unfinished limits bytes) :=
  inferInstanceAs (Decidable (_ ∨ _))

/-- **The bytes that count as the end of the file or as a torn tail** are those of an unfinished frame. -/
theorem unfinished_iff : Unfinished limits bytes ↔
    scanRecord limits bytes = .finished ∨ ∃ message, scanRecord limits bytes = .torn message := by
  by_cases hnil : bytes = []
  · subst hnil
    exact ⟨fun _ => .inl rfl, fun _ => .inl (Nat.zero_lt_succ _)⟩
  · by_cases hlt : bytes.length < kRecordHeaderBytes
    · refine ⟨fun _ => .inr ⟨str "journal ends with an incomplete record header", ?_⟩, fun _ => .inl hlt⟩
      simp only [scanRecord, if_neg hnil, readRecordHead_of_lt hlt]
    · obtain ⟨⟨kind, reserved, length, crc⟩, hhead⟩ := readRecordHead_of_le (Nat.not_lt.1 hlt)
      simp only [Unfinished, Overruns, hlt, false_or, scanRecord, if_neg hnil, hhead]
      constructor
      · rintro ⟨hk, hle, hshort⟩
        obtain ⟨k, hk⟩ := Option.ne_none_iff_exists'.1 hk
        refine .inr ⟨str "journal ends with an incomplete record payload", ?_⟩
        simp only [hk, if_neg (Nat.not_lt.2 hle), if_pos hshort]
      · intro h
        split at h
        · rcases h with h | ⟨_, h⟩ <;> cases h
        · rename_i hk
          split at h
          · rcases h with h | ⟨_, h⟩ <;> cases h
          · rename_i hle
            split at h
            · rename_i hshort
              exact ⟨by rw [hk]; exact Option.some_ne_none _, Nat.not_lt.1 hle, hshort⟩
            · split at h <;> rcases h with h | ⟨_, h⟩ <;> cases h

/-! ## What a whole reading finds -/

/-- The bytes spell frames of the records, one after the other, and then an unfinished rest. -/
def Frames (limits : Limits) : List Record → List UInt8 → Prop
  | [], bytes => Unfinished limits bytes
  | r :: rs, bytes => r.payload.length ≤ maxPayload limits ∧
      ∃ reserved rest, bytes = frame reserved r ++ rest ∧ Frames limits rs rest

theorem frames_cons_iff (h32 : maxPayload limits < 2 ^ 32) {rs : List Record} :
    Frames limits (r :: rs) bytes ↔ ∃ rest, scanRecord limits bytes = .record r rest ∧ Frames limits rs rest := by
  simp only [Frames, scanRecord_iff h32]
  constructor
  · rintro ⟨hp, reserved, rest, hbytes, hrs⟩
    exact ⟨rest, ⟨hp, reserved, hbytes⟩, hrs⟩
  · rintro ⟨rest, ⟨hp, reserved, hbytes⟩, hrs⟩
    exact ⟨hp, reserved, rest, hbytes, hrs⟩

/-- **What is read back when torn tails are dropped**: the records whose frames the bytes spell, up to the bound on
their number. -/
theorem readLoop_ok_iff {recovery : RecoveryPolicy} (h32 : maxPayload limits < 2 ^ 32)
    (hdrop : recovery.tornTail = .TruncateTornTail) {fuel : Nat} {out l : List Record} (hfuel : bytes.length < fuel)
    (hout : out.length ≤ recordCap limits) : (readLoop limits recovery fuel out bytes).2 = .ok l ↔
      ∃ rs, l = out ++ rs ∧ Frames limits rs bytes ∧ l.length ≤ recordCap limits := by
  induction fuel generalizing out bytes with
  | zero => exact absurd hfuel (Nat.not_lt_zero _)
  | succ fuel ih =>
    -- Bytes that give no record are read to the end exactly when they are unfinished.
    have hstop : (∀ r rest, scanRecord limits bytes ≠ .record r rest) →
        ((∃ rs, l = out ++ rs ∧ Frames limits rs bytes ∧ l.length ≤ recordCap limits) ↔
          l = out ∧ Unfinished limits bytes) := by
      intro hno
      constructor
      · rintro ⟨rs, rfl, hrs, -⟩
        cases rs with
        | nil => exact ⟨List.append_nil _, hrs⟩
        | cons r rs =>
          obtain ⟨rest, hscan, -⟩ := (frames_cons_iff h32).1 hrs
          exact absurd hscan (hno r rest)
      · rintro ⟨rfl, hu⟩
        exact ⟨[], (List.append_nil _).symm, hu, hout⟩
    rw [readLoop]
    cases hscan : scanRecord limits bytes with
    | finished =>
      have hu : Unfinished limits bytes := unfinished_iff.2 (.inl hscan)
      rw [hstop (by rw [hscan]; intro _ _ h; cases h)]
      simp only [Except.ok.injEq, hu, and_true, eq_comm]
    | torn message =>
      have hu : Unfinished limits bytes := unfinished_iff.2 (.inr ⟨message, hscan⟩)
      rw [hstop (by rw [hscan]; intro _ _ h; cases h)]
      simp only [hdrop, reduceCtorEq, if_false, Except.ok.injEq, hu, and_true, eq_comm]
    | failed e rest =>
      have hu : ¬ Unfinished limits bytes := by
        rw [unfinished_iff, hscan]
        rintro (h | ⟨_, h⟩) <;> cases h
      rw [hstop (by rw [hscan]; intro _ _ h; cases h)]
      simp only [reduceCtorEq, hu, and_false]
    | record q rest =>
      have hrest : rest.length < fuel := by
        have := scanRecord_record_length hscan
        simp only [Record.size, kRecordHeaderBytes] at this
        omega
      by_cases hcap : recordCap limits ≤ out.length
      · simp only [if_pos hcap, reduceCtorEq, false_iff]
        rintro ⟨rs, rfl, hrs, hlen⟩
        cases rs with
        | nil =>
          rcases unfinished_iff.1 hrs with h | ⟨_, h⟩ <;> rw [hscan] at h <;> cases h
        | cons r rs =>
          simp only [List.length_append, List.length_cons] at hlen
          omega
      · simp only [if_neg hcap]
        rw [ih hrest (by simp only [List.length_append, List.length_singleton]; omega)]
        constructor
        · rintro ⟨rs, rfl, hrs, hlen⟩
          exact ⟨q :: rs, by simp, (frames_cons_iff h32).2 ⟨rest, hscan, hrs⟩, hlen⟩
        · rintro ⟨rs, rfl, hrs, hlen⟩
          cases rs with
          | nil =>
            rcases unfinished_iff.1 hrs with h | ⟨_, h⟩ <;> rw [hscan] at h <;> cases h
          | cons r rs =>
            obtain ⟨rest', hscan', hrs⟩ := (frames_cons_iff h32).1 hrs
            rw [hscan] at hscan'
            cases hscan'
            exact ⟨rs, by simp, hrs, hlen⟩

/-! ## Records before something else -/

/-- The reader keeps all of the records. -/
def Within (limits : Limits) (records : List Record) : Prop :=
  (∀ r ∈ records, r.payload.length ≤ maxPayload limits) ∧ records.length ≤ recordCap limits

instance (limits : Limits) (records : List Record) : Decidable (Within limits records) :=
  inferInstanceAs (Decidable (_ ∧ _))

/-- A record whose payload is too large fails the reading. -/
theorem scanRecord_too_large (hr : r.payload.length < 2 ^ 32) (h : maxPayload limits < r.payload.length)
    (rest : List UInt8) : ∃ e left, scanRecord limits (encodeRecord r ++ rest) = .failed e left := by
  have hlen : (UInt32.ofNat r.payload.length).toNat = r.payload.length := by simpa using Nat.mod_eq_of_lt hr
  refine ⟨limitExceeded "journal record length exceeds the configured bound", r.payload ++ rest, ?_⟩
  rw [← frame_zero]
  simp only [scanRecord, if_neg (frame_append_ne_nil 0 r rest), readRecordHead_frame, RecordKind.ofU16?_toU16, hlen,
    if_pos h]

/-- Records beyond the bounds fail the reading, whatever stands behind them. -/
theorem readLoop_beyond {recovery : RecoveryPolicy} (h32 : maxPayload limits < 2 ^ 32) (bytes : List UInt8) :
    ∀ {rs out : List Record} {fuel : Nat}, (∀ r ∈ rs, r.payload.length < 2 ^ 32) → rs.length ≤ fuel →
      out.length ≤ recordCap limits →
      ¬ ((∀ r ∈ rs, r.payload.length ≤ maxPayload limits) ∧ out.length + rs.length ≤ recordCap limits) →
      ∃ e, (readLoop limits recovery fuel out (rs.flatMap encodeRecord ++ bytes)).2 = .error e
  | [], _, _, _, _, hout, hbeyond => absurd ⟨(fun _ h => nomatch h), hout⟩ hbeyond
  | r :: rs, _, 0, _, hfuel, _, _ => absurd hfuel (Nat.not_succ_le_zero _)
  | r :: rs, out, fuel + 1, hlt, hfuel, hout, hbeyond => by
    rw [List.flatMap_cons, List.append_assoc, readLoop]
    by_cases hr : r.payload.length ≤ maxPayload limits
    · rw [scanRecord_encode hr h32]
      by_cases hcap : recordCap limits ≤ out.length
      · simp only [if_pos hcap]
        exact ⟨_, rfl⟩
      · simp only [if_neg hcap]
        refine readLoop_beyond h32 bytes (fun q hq => hlt q (List.mem_cons_of_mem _ hq)) (Nat.le_of_succ_le_succ hfuel)
          (by simp; omega) fun hw => hbeyond ⟨List.forall_mem_cons.2 ⟨hr, hw.1⟩, ?_⟩
        have := hw.2
        simp only [List.length_append, List.length_cons, List.length_nil] at this ⊢
        omega
    · obtain ⟨e, left, hscan⟩ := scanRecord_too_large (hlt r List.mem_cons_self) (Nat.not_le.1 hr)
        (rs.flatMap encodeRecord ++ bytes)
      exact ⟨e, by rw [hscan]⟩

/-- Frames behind records are the frames of what comes after them. -/
theorem frames_records_iff (h32 : maxPayload limits < 2 ^ 32) {l : List Record} : ∀ {rs : List Record},
    (∀ r ∈ rs, r.payload.length ≤ maxPayload limits) →
    (Frames limits l (rs.flatMap encodeRecord ++ bytes) ↔ ∃ l', l = rs ++ l' ∧ Frames limits l' bytes)
  | [], _ => by simp
  | r :: rs, hp => by
    have hscan := scanRecord_encode (hp r List.mem_cons_self) h32 (rs.flatMap encodeRecord ++ bytes)
    have htail : ∀ q ∈ rs, q.payload.length ≤ maxPayload limits := fun q hq => hp q (List.mem_cons_of_mem _ hq)
    rw [List.flatMap_cons, List.append_assoc]
    cases l with
    | nil =>
      constructor
      · intro hu
        rcases unfinished_iff.1 hu with h | ⟨_, h⟩ <;> rw [hscan] at h <;> cases h
      · rintro ⟨l', h, -⟩
        cases h
    | cons q l =>
      rw [frames_cons_iff h32, hscan]
      constructor
      · rintro ⟨rest, h, hl⟩
        cases h
        obtain ⟨l', rfl, hl'⟩ := (frames_records_iff h32 htail).1 hl
        exact ⟨l', rfl, hl'⟩
      · rintro ⟨l', h, hl'⟩
        cases h
        exact ⟨_, rfl, (frames_records_iff h32 htail).2 ⟨l', rfl, hl'⟩⟩

/-- No record is read from a torn one. -/
theorem torn_ne_frame {q : Record} {torn : List UInt8} {reserved : UInt16} (h32 : maxPayload limits < 2 ^ 32)
    (htorn : torn <+: encodeRecord r) (hstrict : torn ≠ encodeRecord r) (hr : r.payload.length < 2 ^ 32)
    (hq : q.payload.length ≤ maxPayload limits) : torn ≠ frame reserved q ++ rest := by
  rintro rfl
  obtain ⟨lost, hlost⟩ := htorn
  -- Both headers are read from the same bytes, so that the payloads are equally long.
  have hheads : readRecordHead.run (encodeRecord r ++ []) = _ := readRecordHead_frame 0 r []
  rw [List.append_nil, ← hlost, List.append_assoc, readRecordHead_frame] at hheads
  have hlength : UInt32.ofNat q.payload.length = UInt32.ofNat r.payload.length := by
    simp only [Option.some.injEq, Prod.mk.injEq] at hheads
    exact hheads.1.2.2.1
  have heq : q.payload.length = r.payload.length := by
    have := congrArg UInt32.toNat hlength
    rwa [UInt32.toNat_ofNat_of_lt' (lt_of_le_of_lt hq h32), UInt32.toNat_ofNat_of_lt' hr] at this
  have hsize := congrArg List.length hlost
  simp only [List.length_append, length_frame, length_encodeRecord, Record.size, heq] at hsize
  have hnil : lost = [] := List.length_eq_zero_iff.1 (by omega)
  rw [hnil, List.append_nil] at hlost
  exact hstrict hlost

namespace Journal

variable {path : Str} {options : JournalOpenOptions} {head : JournalHeader} {j : Journal} {body : List UInt8}

theorem openFile_some (hkeep : options.truncateExisting = false) : openFile path (some bytes) options = .ok j ↔
    options.limits.validate = .ok () ∧ attach path options bytes = .ok j := by
  unfold openFile
  rw [bind_ok]
  simp only [hkeep, Bool.false_and, Bool.false_eq_true, if_false]
  exact ⟨fun ⟨_, hvalid, h⟩ => ⟨hvalid, h⟩, fun ⟨hvalid, h⟩ => ⟨(), hvalid, h⟩⟩

/-- What opening an existing file has checked, and the handle it gives. -/
theorem openFile_existing (hkeep : options.truncateExisting = false)
    (h : openFile path (some bytes) options = .ok j) : options.limits.Valid ∧ ∃ header,
      decodeHeader options.recovery path bytes = .ok header ∧ j.header = header ∧ j.limits = options.limits ∧
      j.recovery = options.recovery ∧ j.readOnly = options.readOnly ∧ j.isOpen = true ∧ j.file.bytes = bytes ∧
      j.stats.fileSize = bytes.length := by
  obtain ⟨hvalid, h⟩ := (openFile_some hkeep).1 h
  rw [attach, bind_ok] at h
  obtain ⟨header, hheader, h⟩ := h
  cases h
  refine ⟨Limits.valid_of_validate hvalid, header, hheader, rfl, rfl, rfl, rfl, rfl, ?_, rfl⟩
  show (if options.readOnly = true then _ else _ : FileStream).bytes = _
  split <;> rfl

/-- What reading gives, in terms of what stands behind the header. -/
theorem readAll_body (ho : j.isOpen = true) (hb : j.file.bytes = encodeHeader head ++ body)
    (hsize : kHeaderBytes + body.length ≤ j.limits.maxJournalBytes.toNat) :
    j.readAll.2 = (readLoop j.limits j.recovery (body.length + 1) [] body).2 := by
  have hlen : j.file.bytes.length = kHeaderBytes + body.length := by
    rw [hb, List.length_append, length_encodeHeader]
  have hbody : j.file.bytes.drop kHeaderBytes = body := by
    rw [hb]
    exact List.drop_left' (length_encodeHeader head)
  rw [readAll, ho, hlen, if_neg (Nat.not_lt.2 hsize), hbody]
  rfl

theorem readAll_too_long (ho : j.isOpen = true) (hb : j.file.bytes = encodeHeader head ++ body)
    (hsize : j.limits.maxJournalBytes.toNat < kHeaderBytes + body.length) : ∃ e, j.readAll.2 = .error e := by
  have hlen : j.file.bytes.length = kHeaderBytes + body.length := by
    rw [hb, List.length_append, length_encodeHeader]
  rw [readAll, ho, hlen, if_pos hsize]
  exact ⟨_, rfl⟩

/-! ## Appending behind a torn tail -/

/-- The operation adds records, or only writes out what there is. -/
def Adds : JournalOp → Prop
  | .append _ | .flush | .close => True
  | .rewrite _ _ _ => False

/-- A handle on an existing file that has been read to its end, with what stands behind the header. -/
structure Attached (options : JournalOpenOptions) (j : Journal) (body : List UInt8) : Prop where
  disk : ∃ head, Supported options.recovery head ∧ j.file.bytes = encodeHeader head ++ body
  header : Supported options.recovery j.header
  atEnd : j.isOpen = true → j.file.position = j.file.bytes.length
  bounds : j.limits = options.limits
  size : j.stats.fileSize = j.file.bytes.length
  fits : j.file.bytes.length ≤ options.limits.maxJournalBytes.toNat

/-- What the loop of `append` has done when it went through the whole batch. -/
structure Wrote (j : Journal) (rs : List Record) (k : Journal) : Prop where
  bytes : k.file.bytes = j.file.bytes ++ rs.flatMap encodeRecord
  atEnd : k.file.position = k.file.bytes.length
  within : ∀ r ∈ rs, r.payload.length ≤ maxPayload j.limits
  limits : k.limits = j.limits
  fileSize : k.stats.fileSize = j.stats.fileSize
  version : k.header.formatVersion = j.header.formatVersion
  scheme : k.header.identityScheme = j.header.identityScheme

theorem writeRecords_wrote : ∀ {rs : List Record} {j k : Journal}, j.file.position = j.file.bytes.length →
    j.writeRecords rs = (k, .ok ()) → Wrote j rs k
  | [], j, k, hend, h => by
    cases h
    exact ⟨(List.append_nil _).symm, hend, (fun _ h => nomatch h), rfl, rfl, rfl, rfl⟩
  | r :: rs, j, k, hend, h => by
    rw [writeRecords] at h
    split at h
    · cases h
    · rename_i hr
      have hw : (j.writeRecord r).file = _ := FileStream.write_at_end hend (encodeRecord r)
      have ih := writeRecords_wrote (by rw [hw]) h
      refine ⟨?_, ih.atEnd, List.forall_mem_cons.2 ⟨Nat.not_lt.1 hr, ih.within⟩, ih.limits, ih.fileSize, ih.version,
        ih.scheme⟩
      rw [ih.bytes, hw, List.flatMap_cons, List.append_assoc]

theorem append_fits {rs : List Record} (h : (j.append rs).2 = .ok ()) :
    j.stats.fileSize + (rs.map Record.size).sum ≤ j.limits.maxJournalBytes.toNat := by
  unfold append at h
  split at h
  · cases h
  · split at h
    · cases h
    · simp only at h
      split at h
      · cases h
      · omega

/-- An append that succeeds puts the records behind what stood there, within the bound on their payloads. -/
theorem attached_append {rs : List Record} (hj : Attached options j body) (h : (j.append rs).2 = .ok ()) :
    Attached options (j.append rs).1 (body ++ rs.flatMap encodeRecord) ∧
      ∀ r ∈ rs, r.payload.length ≤ maxPayload options.limits := by
  have hfits := append_fits h
  obtain ⟨ho, k, hk, he⟩ := append_ok h
  have hw := writeRecords_wrote (hj.atEnd ho) hk
  obtain ⟨head, hhead, hd⟩ := hj.disk
  have hlen : k.file.bytes.length = j.stats.fileSize + (rs.map Record.size).sum := by
    rw [hw.bytes, List.length_append, length_encodeRecords, hj.size]
  rw [he]
  refine ⟨⟨⟨head, hhead, ?_⟩, ?_, fun _ => hw.atEnd, hw.limits.trans hj.bounds, ?_, ?_⟩, ?_⟩
  · show k.file.bytes = _
    rw [hw.bytes, hd, List.append_assoc]
  · show Supported options.recovery k.header
    rw [Supported, hw.version, hw.scheme]
    exact hj.header
  · show k.stats.fileSize + _ = k.file.bytes.length
    rw [hw.fileSize, hlen]
  · show k.file.bytes.length ≤ _
    rw [hlen, ← hj.bounds]
    exact hfits
  · rw [← hj.bounds]
    exact hw.within

theorem attached_flush (hj : Attached options j body) : Attached options j.flush.1 body := by
  unfold flush
  split
  · exact hj
  · split
    · exact hj
    · obtain ⟨head, hhead, hd⟩ := hj.disk
      have hlen : (encodeHeader j.header).length = (encodeHeader head).length := by
        rw [length_encodeHeader, length_encodeHeader]
      have hw : j.writeHeader.file = ⟨encodeHeader j.header ++ body, (encodeHeader j.header).length⟩ := by
        have h := FileStream.write_at_start body j.file.position hlen
        rwa [← hd] at h
      have hsame : j.writeHeader.file.bytes.length = j.file.bytes.length := by
        rw [hw, hd, List.length_append, List.length_append, hlen]
      refine ⟨⟨j.header, hj.header, ?_⟩, hj.header, fun _ => rfl, hj.bounds, ?_, ?_⟩
      · show j.writeHeader.file.bytes = _
        rw [hw]
      · show j.stats.fileSize = j.writeHeader.file.bytes.length
        rw [hsame, hj.size]
      · show j.writeHeader.file.bytes.length ≤ _
        rw [hsame]
        exact hj.fits

theorem attached_close (hj : Attached options j body) : Attached options j.close.1 body := by
  unfold close
  split
  · exact hj
  · have hf := attached_flush hj
    exact ⟨hf.disk, hf.header, fun h => Bool.noConfusion h, hf.bounds, hf.size, hf.fits⟩

/-- A handle on what stood behind the header and the records that were added to it. -/
def Extended (options : JournalOpenOptions) (body : List UInt8) (j : Journal) (added : List Record) : Prop :=
  Attached options j (body ++ added.flatMap encodeRecord) ∧ ∀ r ∈ added, r.payload.length ≤ maxPayload options.limits

theorem extended_step (body : List UInt8) (j : Journal) (added : List Record) (op : JournalOp)
    (hj : Extended options body j added) (h : Adds op ∧ j.Succeeds op) :
    Extended options body (j.step op) (op.after added) := by
  obtain ⟨hattached, hwithin⟩ := hj
  cases op with
  | append rs =>
    obtain ⟨hnew, hrs⟩ := attached_append hattached h.2
    refine ⟨?_, fun r hr => (List.mem_append.1 hr).elim (hwithin r) (hrs r)⟩
    show Attached options (j.append rs).1 (body ++ (added ++ rs).flatMap encodeRecord)
    rwa [List.flatMap_append, ← List.append_assoc]
  | flush => exact ⟨attached_flush hattached, hwithin⟩
  | rewrite rs epoch createdAt => exact absurd h.1 not_false
  | close => exact ⟨attached_close hattached, hwithin⟩

/-- A file that is read to its end leaves an attached handle. -/
theorem attached_open (hkeep : options.truncateExisting = false)
    (hopen : openFile path (some (encodeHeader head ++ body)) options = .ok j) {recovered : List Record}
    (hread : j.readAll.2 = .ok recovered) : Attached options j.readAll.1 body := by
  obtain ⟨-, header, hheader, hj, hlimits, -, -, ho, hb, hsize⟩ := openFile_existing hkeep hopen
  obtain ⟨rfl, hsupported⟩ := decodeHeader_iff.1 hheader
  have hlong : kHeaderBytes ≤ j.file.bytes.length := by
    rw [hb, List.length_append, length_encodeHeader]
    exact Nat.le_add_right _ _
  have hfits : j.file.bytes.length ≤ j.limits.maxJournalBytes.toNat := by
    by_contra hlarge
    obtain ⟨e, he⟩ := readAll_too_long ho hb (by
      rw [hb, List.length_append, length_encodeHeader] at hlarge
      exact Nat.not_le.1 hlarge)
    rw [he] at hread
    cases hread
  rw [readAll_end ho hlong hread]
  exact ⟨⟨header, hsupported, hb⟩, hj ▸ hsupported, fun _ => rfl, hlimits, hsize.trans (congrArg List.length hb).symm,
    hlimits ▸ hfits⟩

/-- Reading a file with a torn tail gives its whole records, and these are within the bounds. -/
theorem read_torn {rs recovered : List Record} {torn : List UInt8}
    (hdrop : options.recovery.tornTail = .TruncateTornTail)
    (htorn : torn <+: encodeRecord r) (hstrict : torn ≠ encodeRecord r) (hr : r.payload.length < 2 ^ 32)
    (hrs : ∀ q ∈ rs, q.payload.length < 2 ^ 32) (hkeep : options.truncateExisting = false)
    (hopen : openFile path (some (encodeHeader head ++ (rs.flatMap encodeRecord ++ torn))) options = .ok j)
    (hread : j.readAll.2 = .ok recovered) :
    recovered = rs ∧ Within options.limits rs ∧ Unfinished options.limits torn := by
  obtain ⟨hvalid, header, -, -, hlimits, hrecovery, -, ho, hb, -⟩ := openFile_existing hkeep hopen
  have h32 := maxPayload_lt hvalid
  have hsize : kHeaderBytes + (rs.flatMap encodeRecord ++ torn).length ≤ j.limits.maxJournalBytes.toNat := by
    by_contra hlarge
    obtain ⟨e, he⟩ := readAll_too_long ho hb (Nat.not_le.1 hlarge)
    rw [he] at hread
    cases hread
  rw [readAll_body ho hb hsize, hlimits, hrecovery] at hread
  have hwithin : Within options.limits rs := by
    by_contra hbeyond
    have hlen := length_le_encodeRecords rs
    have hfail : ∃ e, (readLoop options.limits options.recovery ((rs.flatMap encodeRecord ++ torn).length + 1) []
        (rs.flatMap encodeRecord ++ torn)).2 = .error e :=
      readLoop_beyond h32 torn hrs (by rw [List.length_append]; omega) (Nat.zero_le _)
        (by simpa only [Within, List.length_nil, Nat.zero_add] using hbeyond)
    obtain ⟨e, he⟩ := hfail
    rw [he] at hread
    cases hread
  obtain ⟨l, hl, hframes, -⟩ := (readLoop_ok_iff h32 hdrop (Nat.lt_succ_self _) (Nat.zero_le _)).1 hread
  obtain ⟨l', rfl, hl'⟩ := (frames_records_iff h32 hwithin.1).1 hframes
  cases l' with
  | nil => exact ⟨by simpa using hl, hwithin, hl'⟩
  | cons q l' =>
    obtain ⟨hq, reserved, rest, hframe, -⟩ := hl'
    exact absurd hframe (torn_ne_frame h32 htorn hstrict hr hq)

/-- **Exactly when a journal with a torn tail stays usable.** The torn bytes stay in the file, and what is appended
stands behind them. -/
theorem torn_reread_iff {rs recovered : List Record} {torn : List UInt8} {ops : List JournalOp}
    {again : JournalOpenOptions} (hdrop : options.recovery.tornTail = .TruncateTornTail)
    (htorn : torn <+: encodeRecord r) (hstrict : torn ≠ encodeRecord r) (hr : r.payload.length < 2 ^ 32)
    (hrs : ∀ q ∈ rs, q.payload.length < 2 ^ 32) (hkeep : options.truncateExisting = false)
    (hopen : openFile path (some (encodeHeader head ++ (rs.flatMap encodeRecord ++ torn))) options = .ok j)
    (hread : j.readAll.2 = .ok recovered) (hops : Along step (fun j op => Adds op ∧ j.Succeeds op) j.readAll.1 ops)
    (hlimits : again.limits = options.limits) (hrecovery : again.recovery = options.recovery)
    (hkeep' : again.truncateExisting = false) :
    (∃ k, openFile path (some (exec step j.readAll.1 ops).close.1.file.bytes) again = .ok k ∧
      k.readAll.2 = .ok (rs ++ written ops)) ↔
      (rs ++ written ops).length ≤ recordCap options.limits ∧
        (torn = [] ∨ written ops = [] ∨
          Frames options.limits (written ops) (torn ++ (written ops).flatMap encodeRecord)) := by
  obtain ⟨-, hwithin, hunfinished⟩ := read_torn hdrop htorn hstrict hr hrs hkeep hopen hread
  have hvalidate := ((openFile_some hkeep).1 hopen).1
  have h32 := maxPayload_lt (Limits.valid_of_validate hvalidate)
  have hstart : Extended options (rs.flatMap encodeRecord ++ torn) j.readAll.1 [] :=
    ⟨by simpa using attached_open hkeep hopen hread, fun _ h => nomatch h⟩
  obtain ⟨hend, hnew⟩ : Extended options (rs.flatMap encodeRecord ++ torn) (exec step j.readAll.1 ops) (written ops) :=
    hops.simulation (extended_step _) hstart
  have hclosed := attached_close hend
  obtain ⟨header, hsupported, hd⟩ := hclosed.disk
  rw [List.append_assoc] at hd
  -- The file opens again, with the bytes that the run left.
  have hheader : decodeHeader again.recovery path (encodeHeader header ++ (rs.flatMap encodeRecord
      ++ (torn ++ (written ops).flatMap encodeRecord))) = .ok header :=
    decodeHeader_iff.2 ⟨rfl, hrecovery.symm ▸ hsupported⟩
  obtain ⟨k, hattach⟩ : ∃ k, attach path again (exec step j.readAll.1 ops).close.1.file.bytes = .ok k := by
    rw [hd, attach, hheader]
    exact ⟨_, rfl⟩
  have hopen' := (openFile_some hkeep').2 ⟨hlimits ▸ hvalidate, hattach⟩
  obtain ⟨-, -, -, -, hk, hkrecovery, -, ho, hb, -⟩ := openFile_existing hkeep' hopen'
  have hfits : kHeaderBytes + (rs.flatMap encodeRecord ++ (torn ++ (written ops).flatMap encodeRecord)).length
      ≤ k.limits.maxJournalBytes.toNat := by
    have := hclosed.fits
    rw [hd, List.length_append, length_encodeHeader] at this
    rw [hk, hlimits]
    exact this
  simp only [hopen', Except.ok.injEq, exists_eq_left']
  rw [readAll_body ho (hb.trans hd) hfits, hk, hlimits, hkrecovery, hrecovery,
    readLoop_ok_iff h32 hdrop (Nat.lt_succ_self _) (Nat.zero_le _)]
  constructor
  · rintro ⟨l, hl, hframes, hcap⟩
    obtain ⟨l', rfl, hl'⟩ := (frames_records_iff h32 hwithin.1).1 hframes
    obtain rfl : written ops = l' := by simpa using hl
    exact ⟨hcap, .inr (.inr hl')⟩
  · rintro ⟨hcap, hspelled⟩
    refine ⟨rs ++ written ops, rfl, (frames_records_iff h32 hwithin.1).2 ⟨written ops, rfl, ?_⟩, hcap⟩
    rcases hspelled with rfl | hnone | hframes
    · have hall : Frames options.limits (written ops) ((written ops).flatMap encodeRecord ++ []) :=
        (frames_records_iff h32 hnew).2 ⟨[], (List.append_nil _).symm, .inl (Nat.zero_lt_succ _)⟩
      rwa [List.append_nil] at hall
    · rw [hnone]
      simpa [Frames] using hunfinished
    · exact hframes

/-- A record of four bytes. -/
def sampleRecord (b : UInt8) : Record := ⟨.Tombstone, [b, b, b, b]⟩

/-- A whole record and the first bytes of another one. -/
def tornFile (kept : Nat) : List UInt8 :=
  encodeHeader {} ++ ([sampleRecord 1].flatMap encodeRecord ++ (encodeRecord (sampleRecord 2)).take kept)

/-- That file, opened with the default policy. -/
def tornJournal (kept : Nat) : Journal where
  file := FileStream.seekEnd { bytes := tornFile kept }
  isOpen := true
  stats := { fileSize := (tornFile kept).length }
  locked := true

theorem openFile_tornJournal (kept : Nat) : openFile [] (some (tornFile kept)) {} = .ok (tornJournal kept) := by
  have hvalid : Limits.validate {} = .ok () := by decide
  have hheader : decodeHeader {} [] (tornFile kept) = .ok {} := decodeHeader_encode _ rfl rfl
  refine (openFile_some rfl).2 ⟨hvalid, ?_⟩
  rw [attach, hheader]
  rfl

/-- **A record that is appended** is read back behind a whole record, and is not read back behind five bytes of
another. -/
theorem torn_reread_appended :
    (∃ k, openFile [] (some (exec step (tornJournal 0).readAll.1 [.append [sampleRecord 3]]).close.1.file.bytes) {} =
      .ok k ∧
      k.readAll.2 = .ok [sampleRecord 1, sampleRecord 3]) ∧
    ¬ ∃ k, openFile [] (some (exec step (tornJournal 5).readAll.1 [.append [sampleRecord 3]]).close.1.file.bytes) {} =
      .ok k ∧
      k.readAll.2 = .ok [sampleRecord 1, sampleRecord 3] := by
  have hread : (tornJournal 0).readAll.2 = .ok [sampleRecord 1] ∧ (tornJournal 5).readAll.2 = .ok [sampleRecord 1] := by
    decide +kernel
  have hadds : Adds (.append [sampleRecord 3]) := trivial
  have hops : Along step (fun j op => Adds op ∧ j.Succeeds op) (tornJournal 0).readAll.1 [.append [sampleRecord 3]] :=
    ⟨⟨hadds, by unfold Succeeds; decide⟩, trivial⟩
  have hops' : Along step (fun j op => Adds op ∧ j.Succeeds op) (tornJournal 5).readAll.1 [.append [sampleRecord 3]] :=
    ⟨⟨hadds, by unfold Succeeds; decide⟩, trivial⟩
  have hr : (sampleRecord 2).payload.length < 2 ^ 32 := by decide
  have hrs : ∀ q ∈ [sampleRecord 1], q.payload.length < 2 ^ 32 := by decide
  constructor
  · exact (torn_reread_iff (r := sampleRecord 2) rfl (List.take_prefix 0 _) (by decide) hr hrs rfl
      (openFile_tornJournal 0) hread.1 hops rfl rfl rfl).2 ⟨by decide, .inl rfl⟩
  · intro hagain
    obtain ⟨-, htorn | hnone | ⟨-, reserved, rest, hframe, -⟩⟩ := (torn_reread_iff (r := sampleRecord 2) rfl
      (List.take_prefix 5 _) (by decide) hr hrs rfl (openFile_tornJournal 5) hread.2 hops' rfl rfl rfl).1 hagain
    · exact absurd htorn (by decide)
    · exact absurd hnone (by decide)
    · -- the length that the torn frame has kept is followed by the kind of the appended one
      have hlength : (frame reserved (sampleRecord 3) ++ rest).drop 4 = u32 4 ++
          (u32 (crc32c (frameHead reserved (sampleRecord 3) ++ (sampleRecord 3).payload)) ++
            (sampleRecord 3).payload ++ rest) := by
        simp only [frame, frameHead, List.append_assoc]
        rfl
      have hbytes := congrArg (List.take 4) ((congrArg (List.drop 4) hframe).trans hlength)
      rw [List.take_left' (length_u32 _)] at hbytes
      exact absurd hbytes (by decide)

/-- **A record that is appended behind a torn tail is lost.** -/
theorem torn_reread_can_fail : ¬ ∀ (path : Str) (options again : JournalOpenOptions) (head : JournalHeader)
    (rs recovered : List Record) (r : Record) (torn : List UInt8) (j : Journal) (ops : List JournalOp),
    options.recovery.tornTail = .TruncateTornTail → torn <+: encodeRecord r → torn ≠ encodeRecord r →
    r.payload.length < 2 ^ 32 → (∀ q ∈ rs, q.payload.length < 2 ^ 32) → options.truncateExisting = false →
    openFile path (some (encodeHeader head ++ (rs.flatMap encodeRecord ++ torn))) options = .ok j →
    j.readAll.2 = .ok recovered → Along step (fun j op => Adds op ∧ j.Succeeds op) j.readAll.1 ops →
    again.limits = options.limits → again.recovery = options.recovery → again.truncateExisting = false →
    ∃ k, openFile path (some (exec step j.readAll.1 ops).close.1.file.bytes) again = .ok k ∧
      k.readAll.2 = .ok (rs ++ written ops) := by
  intro h
  obtain ⟨k, hopen, hread⟩ := h [] {} {} {} [sampleRecord 1] [sampleRecord 1] (sampleRecord 2)
    ((encodeRecord (sampleRecord 2)).take 5) (tornJournal 5) [.append [sampleRecord 3]] rfl (List.take_prefix 5 _)
    (by decide) (by decide) (by decide) rfl (openFile_tornJournal 5) (by decide +kernel)
    ⟨⟨trivial, by unfold Succeeds; decide⟩, trivial⟩ rfl rfl rfl
  have hlost : ((openFile [] (some (exec step (tornJournal 5).readAll.1
      [.append [sampleRecord 3]]).close.1.file.bytes) {}).toOption.map fun k => k.readAll.2)
        ≠ some (.ok [sampleRecord 1, sampleRecord 3]) := by decide +kernel
  rw [hopen] at hlost
  exact hlost (congrArg some hread)

/-! ## Damage inside the journal -/

/-- The frame at the front is not whole, or its checksum is not the one it stores. -/
def ChecksumFails (bytes : List UInt8) : Prop :=
  match readRecordHead.run bytes with
  | none => True
  | some ((_, _, length, crc), rest) =>
    length.toNat ≤ rest.length → crc32c (bytes.take 8 ++ rest.take length.toNat) ≠ crc

instance (bytes : List UInt8) : Decidable (ChecksumFails bytes) := by
  unfold ChecksumFails; split <;> infer_instance

/-- A frame whose checksum fails gives no record. -/
theorem scanRecord_ne_record (hcrc : ChecksumFails bytes) : scanRecord limits bytes ≠ .record r rest := by
  intro h
  unfold scanRecord at h
  split at h
  · cases h
  · split at h
    · cases h
    · rename_i kind reserved length crc after hhead
      simp only [ChecksumFails, hhead] at hcrc
      split at h
      · cases h
      · split at h
        · cases h
        · split at h
          · cases h
          · rename_i hshort
            rw [if_pos (hcrc (Nat.not_lt.1 hshort))] at h
            cases h

/-- **Reading up to a damaged frame**: the records before it are given when it looks like a torn tail and torn tails
are dropped. -/
theorem readLoop_damaged {recovery : RecoveryPolicy} {fuel : Nat} {out : List Record} (hne : bytes ≠ [])
    (hcrc : ChecksumFails bytes) : (readLoop limits recovery (fuel + 1) out bytes).2 = .ok out ∧
        recovery.tornTail = .TruncateTornTail ∧ Unfinished limits bytes ∨
      (∃ e, (readLoop limits recovery (fuel + 1) out bytes).2 = .error e) ∧
        (recovery.tornTail = .Reject ∨ ¬ Unfinished limits bytes) := by
  rw [readLoop]
  cases hscan : scanRecord limits bytes with
  | finished =>
    unfold scanRecord at hscan
    rw [if_neg hne] at hscan
    repeat' split at hscan
    all_goals cases hscan
  | torn message =>
    cases hpolicy : recovery.tornTail with
    | Reject => exact .inr ⟨⟨⟨.TruncatedRecord, message⟩, by simp only [if_true]⟩, .inl rfl⟩
    | TruncateTornTail =>
      exact .inl ⟨by simp only [reduceCtorEq, if_false], rfl, unfinished_iff.2 (.inr ⟨message, hscan⟩)⟩
  | failed e left =>
    refine .inr ⟨⟨e, rfl⟩, .inr fun hu => ?_⟩
    rw [unfinished_iff, hscan] at hu
    rcases hu with h | ⟨_, h⟩ <;> cases h
  | record q left => exact absurd hscan (scanRecord_ne_record hcrc)

/-- Reading a file whose records are whole up to a damaged frame. -/
theorem readAll_damaged {pre : List Record} {y : List UInt8} (hvalid : j.limits.Valid) (ho : j.isOpen = true)
    (hb : j.file.bytes = encodeHeader head ++ (pre.flatMap encodeRecord ++ y)) (hne : y ≠ [])
    (hsize : kHeaderBytes + (pre.flatMap encodeRecord ++ y).length ≤ j.limits.maxJournalBytes.toNat)
    (hpre : Within j.limits pre) (hcrc : ChecksumFails y) :
    j.readAll.2 = .ok pre ∧ j.recovery.tornTail = .TruncateTornTail ∧ Unfinished j.limits y ∨
      (∃ e, j.readAll.2 = .error e) ∧ (j.recovery.tornTail = .Reject ∨ ¬ Unfinished j.limits y) := by
  rw [readAll_body ho hb hsize]
  obtain ⟨spare, hspare⟩ : ∃ spare, (pre.flatMap encodeRecord ++ y).length + 1 = spare + 1 + pre.length := by
    have := length_le_encodeRecords pre
    refine ⟨(pre.flatMap encodeRecord ++ y).length - pre.length, ?_⟩
    rw [List.length_append]
    omega
  have hread : readLoop j.limits j.recovery (spare + 1 + pre.length) [] (pre.flatMap encodeRecord ++ y) = _ :=
    readLoop_records (maxPayload_lt hvalid) y (spare + 1) pre [] hpre.1 (by simpa using hpre.2)
  rw [hspare, hread]
  exact readLoop_damaged hne hcrc

/-- **Exactly when damage inside a journal is refused.** The bytes between the records `pre` and the last one, whatever
records they were, are `x` now, and the checksum of the frame at their front fails. -/
theorem interior_damage_iff {pre : List Record} {last : Record} {x : List UInt8}
    (hkeep : options.truncateExisting = false)
    (hopen : openFile path
      (some (encodeHeader head ++ (pre.flatMap encodeRecord ++ (x ++ encodeRecord last)))) options = .ok j)
    (hpre : ∀ q ∈ pre, q.payload.length < 2 ^ 32)
    (hcrc : ChecksumFails (x ++ encodeRecord last)) :
    (∃ e, j.readAll.2 = .error e) ↔
      options.limits.maxJournalBytes.toNat
          < kHeaderBytes + (pre.flatMap encodeRecord ++ (x ++ encodeRecord last)).length ∨
        ¬ Within options.limits pre ∨ options.recovery.tornTail = .Reject ∨
        ¬ Overruns options.limits (x ++ encodeRecord last) := by
  obtain ⟨hvalid, header, -, -, hlimits, hrecovery, -, ho, hb, -⟩ := openFile_existing hkeep hopen
  rw [← hlimits] at hvalid ⊢
  rw [← hrecovery]
  have hlong : ¬ (x ++ encodeRecord last).length < kRecordHeaderBytes := by
    rw [List.length_append, length_encodeRecord, Record.size]
    omega
  have hne : x ++ encodeRecord last ≠ [] := by
    intro hnil
    rw [hnil] at hlong
    exact hlong (Nat.zero_lt_succ _)
  by_cases hsize : j.limits.maxJournalBytes.toNat
      < kHeaderBytes + (pre.flatMap encodeRecord ++ (x ++ encodeRecord last)).length
  · exact ⟨fun _ => .inl hsize, fun _ => readAll_too_long ho hb hsize⟩
  by_cases hwithin : Within j.limits pre
  · have hunfinished : Unfinished j.limits (x ++ encodeRecord last) ↔ Overruns j.limits (x ++ encodeRecord last) :=
      or_iff_right hlong
    rcases readAll_damaged hvalid ho hb hne (Nat.not_lt.1 hsize) hwithin hcrc with
      ⟨hread, hdrop, hu⟩ | ⟨hread, hwhy⟩
    · constructor
      · rintro ⟨e, herror⟩
        rw [hread] at herror
        cases herror
      · rintro (h | h | h | h)
        · exact absurd h hsize
        · exact absurd hwithin h
        · rw [hdrop] at h
          cases h
        · exact absurd (hunfinished.1 hu) h
    · rw [hunfinished] at hwhy
      exact ⟨fun _ => .inr (.inr hwhy), fun _ => hread⟩
  · refine ⟨fun _ => .inr (.inl hwithin), fun _ => ?_⟩
    rw [readAll_body ho hb (Nat.not_lt.1 hsize)]
    refine readLoop_beyond (maxPayload_lt hvalid) _ hpre ?_ (Nat.zero_le _) (by simpa [Within] using hwithin)
    have := length_le_encodeRecords pre
    rw [List.length_append]
    omega

/-- The bytes of such a record with another value at an offset. -/
def damagedRecord (offset : Nat) (value : UInt8) : List UInt8 := (encodeRecord (sampleRecord 1)).set offset value

/-- The file with a damaged record and a whole one behind it. -/
def damagedFile (offset : Nat) (value : UInt8) : List UInt8 :=
  encodeHeader {} ++ (([] : List Record).flatMap encodeRecord
    ++ (damagedRecord offset value ++ encodeRecord (sampleRecord 2)))

/-- That file, opened with the default policy. -/
def damagedJournal (offset : Nat) (value : UInt8) : Journal where
  file := FileStream.seekEnd { bytes := damagedFile offset value }
  isOpen := true
  stats := { fileSize := (damagedFile offset value).length }
  locked := true

theorem openFile_damagedJournal (offset : Nat) (value : UInt8) :
    openFile [] (some (damagedFile offset value)) {} = .ok (damagedJournal offset value) := by
  have hvalid : Limits.validate {} = .ok () := by decide
  have hheader : decodeHeader {} [] (damagedFile offset value) = .ok {} := decodeHeader_encode _ rfl rfl
  simp only [openFile, hvalid, ok_bind, Bool.false_and, Bool.false_eq_true, if_false, attach, hheader]
  rfl

/-- A damaged payload is refused. -/
theorem interior_damage_payload : ∃ e, (damagedJournal 12 7).readAll.2 = .error e :=
  (interior_damage_iff rfl (openFile_damagedJournal 12 7) (fun _ h => nomatch h) (by decide +kernel)).2
    (.inr (.inr (.inr (by decide))))

/-- **A length that is damaged to run past the end of the file hides every record from there on.** -/
theorem interior_damage_can_pass : ¬ ∀ (path : Str) (options : JournalOpenOptions) (head : JournalHeader)
    (pre mid : List Record) (r last : Record) (x : List UInt8) (j : Journal), options.truncateExisting = false →
    openFile path (some (encodeHeader head ++ (pre.flatMap encodeRecord ++ (x ++ encodeRecord last)))) options = .ok j →
    x.length = ((r :: mid).flatMap encodeRecord).length → x.take r.size ≠ encodeRecord r →
    (∀ q ∈ pre, q.payload.length < 2 ^ 32) →
    ChecksumFails (x ++ encodeRecord last) → ∃ e, j.readAll.2 = .error e := by
  intro h
  obtain ⟨e, he⟩ := h [] {} {} [] [] (sampleRecord 1) (sampleRecord 2) (damagedRecord 4 200) (damagedJournal 4 200) rfl
    (openFile_damagedJournal 4 200) (by decide) (by decide) (fun _ h => nomatch h) (by decide)
  have hread : (damagedJournal 4 200).readAll.2 = .ok [] := by decide
  rw [hread] at he
  cases he

end Journal

end FlowObs
