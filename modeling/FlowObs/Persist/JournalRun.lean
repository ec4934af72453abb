import FlowObs.Persist.Journal
import FlowObs.Lib.Run

/-!
# Runs of a journal

What is on disk after a run of operations that all succeed: a header and the records written since the last rewrite
(`Journal.Holds`, kept by every operation: `holds_step`). The writer and the reader bound different quantities, so that
the records are read back exactly when they are within the bounds of the reader (`reread_iff`).
-/

namespace FlowObs

open Run

/-- The operations of a journal in use. -/
inductive JournalOp
  | append (records : List Record)
  | flush
  | rewrite (records : List Record) (epoch : RuntimeEpoch) (createdAt : Timestamp)
  | close
deriving DecidableEq, Repr

namespace Journal

/-- One operation, with its status. -/
def call (j : Journal) : JournalOp → Journal × Except Error Unit
  | .append records => j.append records
  | .flush => j.flush
  | .rewrite records epoch createdAt => j.rewrite records epoch createdAt
  | .close => j.close

/-- The state after an operation. -/
def step (j : Journal) (op : JournalOp) : Journal := (j.call op).1

/-- The operation returns Ok. -/
def Succeeds (j : Journal) (op : JournalOp) : Prop := (j.call op).2 = .ok ()

end Journal

/-- The records that an operation leaves after those that were there. -/
def JournalOp.after (records : List Record) : JournalOp → List Record
  | .append rs => records ++ rs
  | .rewrite rs _ _ => rs
  | .flush | .close => records

/-- The records written since the last rewrite. -/
def written (ops : List JournalOp) : List Record := exec JournalOp.after [] ops

namespace Journal

/-! ## What is on disk -/

/-- The file of a writable handle holds a header of this build and the records. -/
structure Holds (options : JournalOpenOptions) (j : Journal) (records : List Record) : Prop where
  disk : ∃ h : JournalHeader, h.formatVersion = kJournalFormatVersion ∧ h.identityScheme = 1 ∧
    j.file.bytes = encodeHeader h ++ records.flatMap encodeRecord
  version : j.header.formatVersion = kJournalFormatVersion
  scheme : j.header.identityScheme = 1
  atEnd : j.isOpen = true → j.file.position = j.file.bytes.length
  writable : j.readOnly = false
  bounds : j.limits = options.limits

variable {options : JournalOpenOptions} {j : Journal} {records : List Record}

theorem holds_create (path : Str) (options : JournalOpenOptions) : Holds options (create path options) [] where
  disk := ⟨{}, rfl, rfl, by simp [create, writeHeader, FileStream.write, FileStream.seek]⟩
  version := rfl
  scheme := rfl
  atEnd _ := by simp [create, writeHeader, FileStream.write, FileStream.seek]
  writable := rfl
  bounds := rfl

theorem holds_writeRecord {r : Record} (hj : Holds options j records) (ho : j.isOpen = true) :
    Holds options (j.writeRecord r) (records ++ [r]) := by
  obtain ⟨head, hv, hs, hd⟩ := hj.disk
  have hw := FileStream.write_at_end (hj.atEnd ho) (encodeRecord r)
  refine ⟨⟨head, hv, hs, ?_⟩, hj.version, hj.scheme, fun _ => ?_, hj.writable, hj.bounds⟩
  · show (j.file.write (encodeRecord r)).bytes = _
    rw [hw, hd]
    simp [List.append_assoc]
  · show (j.file.write (encodeRecord r)).position = (j.file.write (encodeRecord r)).bytes.length
    rw [hw]

/-- Writing the records of a batch appends them. -/
theorem holds_writeRecords : ∀ {rs : List Record} {j k : Journal} {records : List Record}, Holds options j records →
    j.isOpen = true → j.writeRecords rs = (k, .ok ()) → Holds options k (records ++ rs)
  | [], j, k, records, hj, _, h => by
    cases h
    rwa [List.append_nil]
  | r :: rs, j, k, records, hj, ho, h => by
    rw [writeRecords] at h
    split at h
    · cases h
    · rw [List.append_cons]
      exact holds_writeRecords (holds_writeRecord hj ho) ho h

/-- What an append that succeeds has checked and done. -/
theorem append_ok {rs : List Record} (h : (j.append rs).2 = .ok ()) : j.isOpen = true ∧ ∃ k,
    j.writeRecords rs = (k, .ok ()) ∧ (j.append rs).1 = { k with
      stats := { k.stats with fileSize := k.stats.fileSize + (rs.map Record.size).sum }, dirty := true } := by
  unfold append at h ⊢
  by_cases ho : j.isOpen = true
  · by_cases hro : j.readOnly = true
    · simp [ho, hro] at h
    · simp only [ho, hro, Bool.not_true, Bool.false_eq_true, if_false] at h ⊢
      split at h
      · cases h
      · rename_i hsize
        cases hw : j.writeRecords rs with
        | mk k status =>
          cases status with
          | error e => simp [hw] at h
          | ok _ => exact ⟨trivial, k, rfl, by rw [if_neg hsize]⟩
  · simp [ho] at h

/-- An append of one record that fails has changed nothing. -/
theorem append_error {r : Record} {err : Error} (h : (j.append [r]).2 = .error err) : (j.append [r]).1 = j := by
  unfold append at h ⊢
  split at h
  · rename_i hclosed
    rw [if_pos hclosed]
  · rename_i hopen
    rw [if_neg hopen]
    split at h
    · rename_i hread
      rw [if_pos hread]
    · rename_i hwrite
      rw [if_neg hwrite]
      dsimp only at h ⊢
      split at h
      · rename_i hsize
        rw [if_pos hsize]
      · rename_i hsize
        rw [if_neg hsize]
        by_cases hpayload : maxPayload j.limits < r.payload.length
        · simp only [writeRecords, if_pos hpayload]
        · simp only [writeRecords, if_neg hpayload] at h
          cases h

/-- A record that was appended is within the payload bound. -/
theorem append_ok_payload {r : Record} (h : (j.append [r]).2 = .ok ()) : r.payload.length ≤ maxPayload j.limits := by
  obtain ⟨-, k, hw, -⟩ := append_ok h
  rw [writeRecords] at hw
  split at hw
  · cases hw
  · rename_i hpayload
    exact Nat.not_lt.1 hpayload

theorem holds_append {rs : List Record} (hj : Holds options j records) (h : (j.append rs).2 = .ok ()) :
    Holds options (j.append rs).1 (records ++ rs) := by
  obtain ⟨ho, k, hw, hk⟩ := append_ok h
  have := holds_writeRecords hj ho hw
  rw [hk]
  exact ⟨this.disk, this.version, this.scheme, this.atEnd, this.writable, this.bounds⟩

/-- A flush of unsaved changes replaces the header, and nothing else. -/
theorem flush_dirty (hd : j.dirty = true) (ho : j.isOpen = true) (hw : j.readOnly = false) {head : JournalHeader}
    {body : List UInt8} (hbytes : j.file.bytes = encodeHeader head ++ body) :
    j.flush = ({ j with file := FileStream.seekEnd { bytes := encodeHeader j.header ++ body }, dirty := false },
      .ok ()) := by
  have hlen : (encodeHeader j.header).length = (encodeHeader head).length := by
    rw [length_encodeHeader, length_encodeHeader]
  have hwrite := FileStream.write_at_start body j.file.position hlen
  rw [← hbytes] at hwrite
  have hfile : (j.file.seek 0).write (encodeHeader j.header) =
      ⟨encodeHeader j.header ++ body, (encodeHeader j.header).length⟩ :=
    hwrite
  unfold flush
  simp only [ho, hw, hd, Bool.not_true, Bool.or_false, Bool.false_eq_true, if_false, writeHeader, hfile]
  rfl

theorem holds_flush (hj : Holds options j records) : Holds options j.flush.1 records := by
  by_cases hquiet : j.isOpen = true ∧ j.dirty = true
  · obtain ⟨head, -, -, hd⟩ := hj.disk
    rw [flush_dirty hquiet.2 hquiet.1 hj.writable hd]
    exact ⟨⟨j.header, hj.version, hj.scheme, rfl⟩, hj.version, hj.scheme, fun _ => rfl, hj.writable, hj.bounds⟩
  · have hsame : j.flush.1 = j := by
      unfold flush
      split
      · rfl
      · rename_i hopen
        rw [if_pos]
        simp_all
    rw [hsame]
    exact hj

theorem holds_close (hj : Holds options j records) : Holds options j.close.1 records := by
  unfold close
  split
  · exact hj
  · have hf := holds_flush hj
    exact ⟨hf.disk, hf.version, hf.scheme, fun h => Bool.noConfusion h, hf.writable, hf.bounds⟩

theorem holds_rewrite {rs : List Record} {epoch : RuntimeEpoch} {createdAt : Timestamp} (hj : Holds options j records) :
    Holds options (j.rewrite rs epoch createdAt).1 rs := by
  rw [rewrite, if_neg (by rw [hj.writable]; exact Bool.false_ne_true)]
  refine ⟨⟨{ j.header with runtimeEpoch := epoch, createdAt := createdAt, recordCount := UInt64.ofNat rs.length },
    hj.version, hj.scheme, rfl⟩, hj.version, hj.scheme, fun _ => rfl, hj.writable, hj.bounds⟩

/-- **Every operation that succeeds keeps what the file holds.** -/
theorem holds_step (j : Journal) (records : List Record) (op : JournalOp) (hj : Holds options j records)
    (h : j.Succeeds op) : Holds options (j.step op) (op.after records) := by
  cases op with
  | append rs => exact holds_append hj h
  | flush => exact holds_flush hj
  | rewrite rs epoch createdAt => exact holds_rewrite hj
  | close => exact holds_close hj

theorem holds_run {path : Str} {ops : List JournalOp}
    (h : Along step Succeeds (create path options) ops) :
    Holds options (exec step (create path options) ops) (written ops) :=
  h.simulation holds_step (holds_create path options)

/-! ## Reading back -/

/-- The records are within the bounds of the reader. -/
def Readable (limits : Limits) (records : List Record) : Prop :=
  kHeaderBytes + (records.map Record.size).sum ≤ limits.maxJournalBytes.toNat ∧
    (∀ r ∈ records, r.payload.length ≤ maxPayload limits) ∧ records.length ≤ recordCap limits

theorem maxPayload_lt {limits : Limits} (h : limits.Valid) : maxPayload limits < 2 ^ 32 := by
  have := h.frameBytes.2
  simp only [UInt64.le_iff_toNat_le] at this
  have h16 : (16 : UInt64).toNat = 16 := rfl
  have hmax : (0x4000000 : UInt64).toNat = 0x4000000 := rfl
  rw [maxPayload, UInt64.toNat_mul, h16]
  refine lt_of_le_of_lt (Nat.mod_le _ _) ?_
  omega

/-- A reading that succeeds leaves the handle at the end of the file and changes nothing else. -/
theorem readAll_end {k : Journal} {rs : List Record} (ho : k.isOpen = true)
    (hlong : kHeaderBytes ≤ k.file.bytes.length) (h : k.readAll.2 = .ok rs) :
    k.readAll.1 = { k with file := k.file.seekEnd } := by
  unfold readAll at h ⊢
  simp only [ho, Bool.not_true, Bool.false_eq_true, if_false] at h ⊢
  split at h
  · cases h
  · rename_i hsize
    have hrest := readLoop_rest h (Nat.lt_succ_self _)
    have hend : kHeaderBytes + (k.file.bytes.length - kHeaderBytes) = k.file.bytes.length := by omega
    rw [if_neg hsize]
    simp only [FileStream.seek, FileStream.seekEnd]
    rw [hrest, List.length_nil, Nat.sub_zero, List.length_drop, hend]

/-- Attaching to a file that holds records succeeds. -/
theorem attach_holds (path : Str) (again : JournalOpenOptions) (hj : Holds options j records) :
    ∃ k, attach path again j.file.bytes = .ok k ∧ k.limits = again.limits ∧ k.isOpen = true ∧
      k.file.bytes = j.file.bytes := by
  obtain ⟨head, hv, hs, hd⟩ := hj.disk
  rw [attach, hd, decodeHeader_encode _ hv hs]
  refine ⟨_, rfl, rfl, rfl, ?_⟩
  show (if again.readOnly = true then _ else _ : FileStream).bytes = _
  split <;> rfl

theorem length_le_encodeRecords : ∀ rs : List Record, rs.length ≤ (rs.flatMap encodeRecord).length
  | [] => Nat.le_refl _
  | r :: rs => by
    have ih := length_le_encodeRecords rs
    simp only [List.flatMap_cons, List.length_cons, List.length_append, length_encodeRecord, Record.size,
      kRecordHeaderBytes]
    omega

/-- **Reading a file that holds records gives them exactly when they are within the reader's bounds.** -/
theorem readAll_holds_iff {k : Journal} (hv : k.limits.Valid) (ho : k.isOpen = true) (hj : Holds options j records)
    (hb : k.file.bytes = j.file.bytes) : k.readAll.2 = .ok records ↔ Readable k.limits records := by
  obtain ⟨head, -, -, hd⟩ := hj.disk
  have hlen : k.file.bytes.length = kHeaderBytes + (records.map Record.size).sum := by
    rw [hb, hd, List.length_append, length_encodeHeader, length_encodeRecords]
  have hbody : k.file.bytes.drop kHeaderBytes = records.flatMap encodeRecord := by
    rw [hb, hd]; exact List.drop_left' (length_encodeHeader head)
  simp only [readAll, ho, Bool.not_true, Bool.false_eq_true, if_false, hlen, hbody]
  constructor
  · intro h
    split at h
    · cases h
    · rename_i hsize
      obtain ⟨hc, hp⟩ := readLoop_ok h (Nat.zero_le _) (fun r hr => absurd hr List.not_mem_nil)
      exact ⟨Nat.not_lt.1 hsize, hp, hc⟩
  · rintro ⟨hsize, hp, hc⟩
    rw [if_neg (Nat.not_lt.2 hsize),
      readLoop_encode (maxPayload_lt hv) records _ [] (Nat.lt_succ_of_le (length_le_encodeRecords records)) hp
      (by simpa using hc)]
    rfl

/-- After a run on a fresh journal that succeeds, the file opens again and holds the records of the run. -/
theorem reopen_run {path : Str} {fresh : Journal} {ops : List JournalOp} {again : JournalOpenOptions}
    (hopen : openFile path none options = .ok fresh) (hops : Along step Succeeds fresh ops)
    (hlimits : again.limits = options.limits) (hkeep : again.truncateExisting = false) :
    ∃ k, openFile path (some (exec step fresh ops).close.1.file.bytes) again = .ok k ∧ k.limits = options.limits ∧
      k.limits.Valid ∧ k.isOpen = true ∧ k.file.bytes = (exec step fresh ops).close.1.file.bytes ∧
      Holds options (exec step fresh ops).close.1 (written ops) := by
  rw [openFile, bind_ok] at hopen
  obtain ⟨_, hvalid, hopen⟩ := hopen
  obtain rfl : create path options = fresh := by
    revert hopen
    simp only [pure_eq_ok]
    split
    · exact fun h => nomatch h
    · split
      · exact fun h => nomatch h
      · exact Except.ok.inj
  have hj := holds_close (holds_run hops)
  obtain ⟨k, hattach, hk, ho, hbytes⟩ := attach_holds path again hj
  refine ⟨k, ?_, hk.trans hlimits, hk ▸ hlimits ▸ Limits.valid_of_validate hvalid, ho, hbytes, hj⟩
  simp only [openFile, hlimits, hvalid, ok_bind, hkeep, Bool.false_and, Bool.false_eq_true, if_false, hattach]

/-- **Exactly when the records of a run are read back.** The operations on a fresh journal all succeed; after the handle
is closed the file is opened again with the same limits. -/
theorem reread_iff {path : Str} {fresh : Journal} {ops : List JournalOp} {again : JournalOpenOptions}
    (hopen : openFile path none options = .ok fresh) (hops : Along step Succeeds fresh ops)
    (hlimits : again.limits = options.limits) (hkeep : again.truncateExisting = false) :
    (∃ k, openFile path (some (exec step fresh ops).close.1.file.bytes) again = .ok k ∧
      k.readAll.2 = .ok (written ops)) ↔ Readable options.limits (written ops) := by
  obtain ⟨k, hopen', hk, hv, ho, hbytes, hj⟩ := reopen_run hopen hops hlimits hkeep
  simp only [hopen', Except.ok.injEq, exists_eq_left']
  rw [readAll_holds_iff hv ho hj hbytes, hk]

theorem openFile_fresh {path : Str} {options : JournalOpenOptions} (h : options.limits.validate = .ok ())
    (hc : options.createIfMissing = true) (hr : options.readOnly = false) :
    openFile path none options = .ok (create path options) := by
  simp [openFile, h, hc, hr]

/-- Three bytes appended and flushed are read back. -/
theorem reread_three_bytes :
    ∃ k, openFile [] (some (exec step (create [] {})
      [.append [⟨.ObservationRecord, [1, 2, 3]⟩], .flush]).close.1.file.bytes)
      {} = .ok k ∧ k.readAll.2 = .ok [⟨.ObservationRecord, [1, 2, 3]⟩] :=
  have hfresh : openFile [] none {} = .ok (create [] {}) := openFile_fresh (by decide) rfl rfl
  have hops : Along step Succeeds (create [] {}) [.append [⟨.ObservationRecord, [1, 2, 3]⟩], .flush] := by
    simp [Along, Succeeds, call, step, append, flush, create, writeHeader, writeRecords, writeRecord, Record.size,
      kRecordHeaderBytes, maxPayload]
  (reread_iff hfresh hops rfl rfl).2 ⟨by decide, by decide, by decide⟩

/-- A record that fills a journal of 4097 bytes but for the header. -/
def fillingRecord : Record := ⟨.ObservationRecord, List.replicate 4085 0⟩

theorem fillingRecord_length : fillingRecord.payload.length = 4085 := List.length_replicate

/-- **A fresh journal accepts a record that its reader refuses**: its file size starts at zero and not at the length of
the header. -/
theorem reread_can_fail : ¬ ∀ (path : Str) (options : JournalOpenOptions) (fresh : Journal) (ops : List JournalOp),
    openFile path none options = .ok fresh → Along step Succeeds fresh ops →
    ∃ k, openFile path (some (exec step fresh ops).close.1.file.bytes) options = .ok k ∧
      k.readAll.2 = .ok (written ops) := by
  intro h
  have hops : Along step Succeeds (create [] { limits := { maxJournalBytes := 4097 } }) [.append [fillingRecord]] := by
    simp [Along, Succeeds, call, append, create, writeHeader, writeRecords, fillingRecord_length, Record.size,
      kRecordHeaderBytes, maxPayload]
  have hfresh : openFile [] none { limits := { maxJournalBytes := 4097 } }
      = .ok (create [] { limits := { maxJournalBytes := 4097 } }) := openFile_fresh (by decide) rfl rfl
  obtain ⟨k, hopen, hread⟩ := h [] { limits := { maxJournalBytes := 4097 } } _ _ hfresh hops
  have hreopen : ∃ k, openFile [] (some _) { limits := { maxJournalBytes := 4097 } } = .ok k ∧ _ :=
    reopen_run hfresh hops rfl rfl
  obtain ⟨k', hopen', hk, hv, ho, hbytes, hj⟩ := hreopen
  obtain rfl : k' = k := Except.ok.inj (hopen'.symm.trans hopen)
  have hsize := ((readAll_holds_iff hv ho hj hbytes).1 hread).1
  rw [hk] at hsize
  simp [written, JournalOp.after, fillingRecord_length, Record.size, kRecordHeaderBytes, kHeaderBytes] at hsize

end Journal

end FlowObs
