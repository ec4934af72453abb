import FlowObs.Persist.Batches

/-!
# Rewrites that fail

`rewrite` is modelled in `Journal.lean` where no operation on a file fails. Here each of them may: `rewriteWith` is the
same sequence of steps over the files at the path of the journal and of its replacement, with the step that fails given.
Without one it is `rewrite` (`rewriteWith_none`). A failed rewrite keeps the journal as long as the old file is open:
creating and writing the replacement may fail, what comes later may not (`rewrite_keeps_iff`).
-/

namespace FlowObs

open Run

/-- What `_WIN32` selects. -/
inductive Platform
  | posix
  | windows
deriving DecidableEq, Repr

/-- The steps of a rewrite to a number of records. The system gives the text of an error of `rename`. Of a replacement
that cannot be flushed some bytes at its front reach the disk. -/
inductive RewriteStep (records : Nat)
  | create
  | writeHeader
  | writeRecord (index : Fin records)
  | flush (kept : Nat)
  | replace (message : Str)
  | reopen
  | seek
deriving DecidableEq, Repr

/-- The step is before the old file is closed. -/
def RewriteStep.Early {n : Nat} : RewriteStep n → Prop
  | .create | .writeHeader | .writeRecord _ => True
  | .flush _ | .replace _ | .reopen | .seek => False

/-- The files at the path of a journal and at that path with `.compact`. -/
structure Disk where
  journal : Option (List UInt8) := none
  replacement : Option (List UInt8) := none
deriving DecidableEq, Repr

/-- What a rewrite leaves and returns. -/
structure Rewritten where
  journal : Journal
  disk : Disk
  status : Except Error Unit
deriving DecidableEq, Repr

/-- `atomic_replace`, with the text of the error when the rename fails. -/
def atomicReplace (platform : Platform) (error : Option Str) (path : Str) (disk : Disk) : Disk × Except Error Unit :=
  let disk := match platform with
    | .posix => disk
    | .windows => { disk with journal := none }
  match error with
  | none => ({ journal := disk.replacement }, .ok ())
  | some message => (disk, .error ⟨.IoError, str "cannot replace " ++ path ++ str ": " ++ message⟩)

namespace Journal

variable {options : JournalOpenOptions} {j : Journal} {records compacted : List Record} {platform : Platform}
  {epoch : RuntimeEpoch} {createdAt : Timestamp}

/-- The header that a rewrite gives the journal. -/
def rewrittenHeader (j : Journal) (newEpoch : RuntimeEpoch) (createdAt : Timestamp) : JournalHeader :=
  { j.header with runtimeEpoch := newEpoch, createdAt := createdAt, recordCount := 0 }

/-- The bytes that a rewrite writes. -/
def replacementBytes (j : Journal) (records : List Record) (newEpoch : RuntimeEpoch) (createdAt : Timestamp) :
    List UInt8 :=
  encodeHeader { j.rewrittenHeader newEpoch createdAt with recordCount := UInt64.ofNat records.length }
    ++ records.flatMap encodeRecord

/-- The handle after the old file was closed and before the new one is open. -/
def detached (j : Journal) (disk : Disk) : Journal :=
  { j with file := { bytes := disk.journal.getD [] }, isOpen := false, locked := false }

/-- The end of `rewrite`, after the old file is closed: the replacement, of which these bytes have reached the disk, is
renamed and opened. Nothing is undone where that fails. -/
def install (platform : Platform) (j : Journal) (records : List Record) (newEpoch : RuntimeEpoch)
    (createdAt : Timestamp)
    (failing : Option (RewriteStep records.length)) (reached : List UInt8) : Rewritten :=
  let renameError := match failing with
    | some (.replace message) => some message
    | _ => none
  match atomicReplace platform renameError j.path { journal := some j.file.bytes, replacement := some reached } with
  | (disk, .error e) => ⟨j.detached disk, disk, .error e⟩
  | (disk, .ok ()) =>
    if failing = some .reopen then ⟨j.detached disk, disk, .error ⟨.IoError, str "cannot reopen " ++ j.path⟩⟩
    else if failing = some .seek then
      ⟨j.detached disk, disk, .error ⟨.IoError, str "cannot seek compacted journal"⟩⟩
    else
      let fileSize := (j.replacementBytes records newEpoch createdAt).length
      ⟨{ j with
          file := FileStream.seekEnd { bytes := reached }
          isOpen := true
          header := j.rewrittenHeader newEpoch createdAt
          stats := { j.stats with fileSize := fileSize, compactions := j.stats.compactions + 1 }
          locked := false }, disk, .ok ()⟩

/-- `rewrite`, where a step may fail. A replacement that cannot be written is removed. The results of `fflush`, `fsync`
and `fclose` are not looked at. -/
def rewriteWith (platform : Platform) (j : Journal) (records : List Record) (newEpoch : RuntimeEpoch)
    (createdAt : Timestamp) (failing : Option (RewriteStep records.length)) : Rewritten :=
  let disk : Disk := { journal := some j.file.bytes }
  let bytes := j.replacementBytes records newEpoch createdAt
  if j.readOnly then ⟨j, disk, .error ⟨.NotOpen, str "journal is open read-only"⟩⟩
  else match failing with
    | some .create => ⟨j, disk, .error ⟨.IoError, str "cannot create " ++ j.path ++ str ".compact"⟩⟩
    | some .writeHeader => ⟨j, disk, .error ⟨.IoError, str "cannot write compacted header"⟩⟩
    | some (.writeRecord _) => ⟨j, disk, .error ⟨.IoError, str "cannot write compacted record"⟩⟩
    | some (.flush kept) => j.install platform records newEpoch createdAt failing (bytes.take kept)
    | _ => j.install platform records newEpoch createdAt failing bytes

/-- **Where no step fails this is the rewrite**, and the new file stands at the path. -/
theorem rewriteWith_none (hw : j.readOnly = false) : rewriteWith platform j compacted epoch createdAt none
    = ⟨(j.rewrite compacted epoch createdAt).1, { journal := some (j.rewrite compacted epoch createdAt).1.file.bytes },
      (j.rewrite compacted epoch createdAt).2⟩ := by
  rw [rewrite, if_neg (by rw [hw]; exact Bool.false_ne_true)]
  cases platform <;> simp only [rewriteWith, hw, install, atomicReplace] <;> rfl

/-! ## What a failed rewrite leaves -/

/-- The bytes are a header of this build and the records. -/
def Spells (bytes : List UInt8) (records : List Record) : Prop :=
  ∃ h : JournalHeader, h.formatVersion = kJournalFormatVersion ∧ h.identityScheme = 1 ∧
    bytes = encodeHeader h ++ records.flatMap encodeRecord

/-- After any batches that were accepted the next one is refused for a limit if at all, and the records are read back
with those of the batches behind them, within the bounds of the reader. -/
def TakesMore (records : List Record) (j : Journal) : Prop :=
  ∀ batches : List (List Record), Along offer (fun j batch => (j.append batch).2 = .ok ()) j batches →
    (∀ batch e, ((exec offer j batches).append batch).2 = .error e → e.code = .LimitExceeded) ∧
    (Readable j.limits (records ++ batches.flatten) →
      (exec offer j batches).readAll.2 = .ok (records ++ batches.flatten))

/-- The records are still on disk, the handle is open on them and takes more. -/
structure Keeps (records : List Record) (left : Rewritten) : Prop where
  onDisk : ∃ bytes, left.disk.journal = some bytes ∧ Spells bytes records
  handle : left.journal.isOpen = true ∧ left.disk.journal = some left.journal.file.bytes
  later : TakesMore records left.journal

/-- Batches that are all accepted are behind the records. -/
theorem holds_accepted : ∀ {batches : List (List Record)} {j : Journal} {records : List Record},
    Holds options j records → j.isOpen = true → Along offer (fun j batch => (j.append batch).2 = .ok ()) j batches →
    Holds options (exec offer j batches) (records ++ batches.flatten) ∧ (exec offer j batches).isOpen = true
  | [], j, records, hj, ho, _ => by
    rw [List.flatten_nil, List.append_nil]
    exact ⟨hj, ho⟩
  | batch :: batches, j, records, hj, ho, hrun => by
    obtain ⟨hnext, hopen⟩ := holds_offer hj ho fun hrefused => by
      obtain ⟨e, he, -⟩ := hrefused
      rw [hrun.1] at he
      cases he
    rw [if_pos hrun.1] at hnext
    rw [List.flatten_cons, ← List.append_assoc]
    exact holds_accepted hnext hopen hrun.2

/-- An open handle whose file holds records takes more. -/
theorem takesMore_of_holds (hv : options.limits.Valid) (hj : Holds options j records) (ho : j.isOpen = true) :
    TakesMore records j := by
  intro batches hrun
  obtain ⟨hend, hopen⟩ := holds_accepted hj ho hrun
  refine ⟨fun batch e he => refused_of_error hend hopen he, fun hreadable => ?_⟩
  rw [hj.bounds, ← hend.bounds] at hreadable
  exact (readAll_holds_iff (hend.bounds ▸ hv) hopen hend rfl).2 hreadable

/-- **A step that fails before the old file is closed** leaves everything as it was. -/
theorem rewriteWith_early {step : RewriteStep compacted.length} (hw : j.readOnly = false) (h : step.Early) :
    ∃ e, rewriteWith platform j compacted epoch createdAt (some step)
      = ⟨j, { journal := some j.file.bytes }, .error e⟩ := by
  cases step with
  | create | writeHeader | writeRecord =>
    simp only [rewriteWith, hw, Bool.false_eq_true, if_false]
    exact ⟨_, rfl⟩
  | _ => exact h.elim

/-- A flush that fails goes unnoticed: what reached the disk takes the place of the file. -/
theorem rewriteWith_flush {kept : Nat} (hw : j.readOnly = false) :
    rewriteWith platform j compacted epoch createdAt (some (.flush kept))
      = ⟨{ (j.rewrite compacted epoch createdAt).1 with
            file := FileStream.seekEnd { bytes := (j.replacementBytes compacted epoch createdAt).take kept } },
          { journal := some ((j.replacementBytes compacted epoch createdAt).take kept) }, .ok ()⟩ := by
  rw [rewrite, if_neg (by rw [hw]; exact Bool.false_ne_true)]
  cases platform <;> simp only [rewriteWith, hw, install, atomicReplace] <;> rfl

/-- After the replacement was closed, a step that fails leaves the handle closed. -/
theorem rewriteWith_late {step : RewriteStep compacted.length} (hw : j.readOnly = false)
    (h : ¬ step.Early) (hflush : ∀ kept, step ≠ .flush kept) :
    (rewriteWith platform j compacted epoch createdAt (some step)).journal.isOpen = false := by
  cases step with
  | create | writeHeader | writeRecord => exact absurd trivial h
  | flush kept => exact absurd rfl (hflush kept)
  | replace | reopen | seek =>
    cases platform <;> simp only [rewriteWith, hw, install, atomicReplace] <;> rfl

/-- **Exactly when a rewrite that fails keeps the journal.** The handle is open and its file holds the records. -/
theorem rewrite_keeps_iff {step : RewriteStep compacted.length} (hv : options.limits.Valid)
    (hj : Holds options j records) (ho : j.isOpen = true) :
    Keeps records (rewriteWith platform j compacted epoch createdAt (some step)) ↔
      step.Early ∨ ∃ kept, step = .flush kept ∧
        Spells ((j.replacementBytes compacted epoch createdAt).take kept) records := by
  by_cases hearly : step.Early
  · have hsame : ∃ e, rewriteWith platform j compacted epoch createdAt (some step) = ⟨j, _, .error e⟩ :=
      rewriteWith_early hj.writable hearly
    obtain ⟨e, he⟩ := hsame
    rw [he]
    exact ⟨fun _ => .inl hearly, fun _ => ⟨⟨_, rfl, hj.disk⟩, ⟨ho, rfl⟩, takesMore_of_holds hv hj ho⟩⟩
  · rw [or_iff_right hearly]
    by_cases hflush : ∀ kept, step ≠ .flush kept
    · refine ⟨fun h => ?_, fun ⟨kept, h, _⟩ => absurd h (hflush kept)⟩
      have hopen := h.handle.1
      rw [rewriteWith_late hj.writable hearly hflush] at hopen
      cases hopen
    · simp only [not_forall, Classical.not_not] at hflush
      obtain ⟨kept, rfl⟩ := hflush
      rw [rewriteWith_flush hj.writable]
      constructor
      · rintro ⟨⟨bytes, hbytes, hspells⟩, -, -⟩
        cases hbytes
        exact ⟨kept, rfl, hspells⟩
      · rintro ⟨_, hkept, hspells⟩
        cases hkept
        have hnew : Holds options (j.rewrite compacted epoch createdAt).1 compacted := holds_rewrite hj
        have hopen : (j.rewrite compacted epoch createdAt).1.isOpen = true := by
          rw [rewrite, if_neg (by rw [hj.writable]; exact Bool.false_ne_true)]
        exact ⟨⟨_, rfl, hspells⟩, ⟨hopen, rfl⟩, takesMore_of_holds hv
          ⟨hspells, hnew.version, hnew.scheme, fun _ => rfl, hnew.writable, hnew.bounds⟩ hopen⟩

/-- A fresh journal with a record, which is to be rewritten to another one. -/
def rewrittenSample (platform : Platform) (step : RewriteStep 1) : Rewritten :=
  rewriteWith platform ((create [] {}).append [sampleRecord 1]).1 [sampleRecord 2] default {} (some step)

/-- When the record cannot be written to the replacement the journal keeps its own. -/
theorem rewrite_keeps_unwritten : Keeps [sampleRecord 1] (rewrittenSample .windows (.writeRecord 0)) :=
  have hj : Holds {} ((create [] {}).append [sampleRecord 1]).1 ([] ++ [sampleRecord 1]) :=
    holds_append (holds_create [] {}) (by decide)
  (rewrite_keeps_iff (Limits.valid_of_validate (by decide)) hj (by decide)).2 (.inl trivial)

/-- **A replacement that cannot be renamed leaves the journal closed.** -/
theorem rewrite_can_close : ¬ ∀ (platform : Platform) (path : Str) (options : JournalOpenOptions) (fresh : Journal)
    (records compacted : List Record) (epoch : RuntimeEpoch) (createdAt : Timestamp)
    (step : RewriteStep compacted.length), openFile path none options = .ok fresh →
    (fresh.append records).2 = .ok () →
    Keeps records (rewriteWith platform (fresh.append records).1 compacted epoch createdAt (some step)) := by
  intro h
  have hkeeps : Keeps [sampleRecord 1] (rewrittenSample .posix (.replace [])) :=
    h .posix [] {} (create [] {}) [sampleRecord 1] [sampleRecord 2] default {} (.replace [])
      (openFile_fresh (by decide) rfl rfl) (by decide)
  have hclosed : (rewrittenSample .posix (.replace [])).journal.isOpen = false := by decide
  rw [hkeeps.handle.1] at hclosed
  cases hclosed

/-- After a flush that failed nothing may be left of the records either. -/
example : (rewrittenSample .posix (.flush 0)).disk.journal = some [] := by decide

end Journal

end FlowObs
