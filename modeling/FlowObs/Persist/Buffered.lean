import FlowObs.Persist.Growth

/-!
# What has reached the file

A journal writes through a stream that keeps what is written in a buffer. Synchronising the stream (`flush` on a dirty
handle), closing it and replacing the file bring all of it to the file; while records are appended, and when a file is
created, it is left to the stream how much goes there. So an operation comes here with the number of bytes that the
stream passes on by itself (`BufferedOp`).

`file_size` counts a batch that is accepted, whether it has reached the file or not. It never counts the header of a
file that is created, nor the records of a batch before one that is too large (`Buffered.uncounted`), until the file
is replaced or opened again. `fileSize_accounted_iff` says for which runs, of operations and streams, it is the length
of the file in every state.
-/

namespace FlowObs

open Run

/-! ## A buffered stream -/

/-- A journal on a buffered stream. The bytes of `journal.file` are those that the file has when all that was written
has reached it, `length` is its length so far, and `uncounted` how many bytes were written since the file was last
opened or replaced that `file_size` was not told of. -/
structure Buffered where
  journal : Journal
  length : Nat
  uncounted : Nat
deriving DecidableEq, Repr

/-- An operation, and how many bytes the stream passes on to the file in the course of it where that is left to the
stream. -/
structure BufferedOp where
  op : FileOp
  passed : Nat := 0
deriving DecidableEq, Repr

namespace Journal

variable (j : Journal) (records : List Record)

/-- A batch gets past the checks of `append` before its records are written. -/
def Accepts : Prop :=
  j.isOpen = true ∧ j.readOnly = false ∧ j.stats.fileSize + (records.map Record.size).sum < 2 ^ 64 ∧
    j.stats.fileSize + (records.map Record.size).sum ≤ j.limits.maxJournalBytes.toNat

instance : Decidable (j.Accepts records) := inferInstanceAs (Decidable (_ ∧ _ ∧ _ ∧ _))

/-- How many bytes appending the batch writes: those of the records before the first that is too large. -/
def bytesOf : Nat := if j.Accepts records then ((records.takeWhile j.fits).map Record.size).sum else 0

/-- How many bytes `file_size` grows by: none, unless the whole batch is written. -/
def countedOf : Nat := if j.Accepts records ∧ records.all j.fits = true then (records.map Record.size).sum else 0

end Journal

namespace Buffered

/-- How many bytes of a batch that is appended, and of what is in the buffer before it, reach the file. The stream
passes nothing on when nothing is written. -/
def reaches (b : Buffered) (records : List Record) (passed : Nat) : Nat :=
  if b.journal.bytesOf records =
  0 then 0 else min passed (b.journal.file.bytes.length + b.journal.bytesOf records - b.length)

/-- A call on the handle. -/
def call (b : Buffered) (op : JournalOp) (passed : Nat) : Buffered :=
  let j := b.journal.step op
  match op with
  | .append records =>
    { journal := j, length := b.length + b.reaches records passed
      uncounted := b.uncounted + (b.journal.bytesOf records - b.journal.countedOf records) }
  | .flush =>
    let synced := b.journal.isOpen && !b.journal.readOnly && b.journal.dirty
    { b with journal := j, length := if synced then j.file.bytes.length else b.length }
  | .close => { b with journal := j, length := if b.journal.isOpen then j.file.bytes.length else b.length }
  | .rewrite _ _ _ => if b.journal.readOnly then { b with journal := j } else ⟨j, j.file.bytes.length, 0⟩

variable (path : Str) (limits : Limits)

/-- A step on the path, beside `Journal.fileStep`. A file that is created has nothing but the header in its buffer,
one that exists is there as a whole. -/
def step (last : Option Buffered) (b : BufferedOp) : Option Buffered :=
  match b.op with
  | .opens options =>
    if last.any (·.journal.isOpen) then last
    else match Journal.openFile path (last.map (·.journal.file.bytes)) { options with limits := limits } with
      | .error _ => last
      | .ok j =>
        if last.isNone || options.truncateExisting && !options.readOnly then some
          ⟨j, min b.passed kHeaderBytes, kHeaderBytes⟩
        else some ⟨j, j.file.bytes.length, 0⟩
  | .call op => last.map (·.call op b.passed)

/-- **The buffer changes nothing of what the journal does.** -/
theorem step_journal (last : Option Buffered) (b : BufferedOp) :
    (step path limits last b).map (·.journal) = Journal.fileStep path limits (last.map (·.journal)) b.op := by
  obtain ⟨op, passed⟩ := b
  cases op with
  | opens options =>
    simp only [step, Journal.fileStep, Option.any_map, Option.map_map, Function.comp_def]
    split
    · rfl
    · cases Journal.openFile path (last.map (·.journal.file.bytes)) { options with limits := limits } with
      | error err => rfl
      | ok j =>
        dsimp only
        split <;> rfl
  | call op =>
    cases last with
    | none => rfl
    | some b =>
      cases op with
      | append records => rfl
      | flush => rfl
      | close => rfl
      | rewrite records epoch createdAt =>
        simp only [step, call, Journal.fileStep, Option.map_some]
        split <;> rfl

/-- The file keeps to its bound, and `file_size` is its length. -/
def Accounted (b : Buffered) : Prop := b.length ≤ limits.maxJournalBytes.toNat ∧ b.journal.stats.fileSize = b.length

instance (b : Buffered) : Decidable (b.Accounted limits) := inferInstanceAs (Decidable (_ ∧ _))

/-- Opening creates a file, or removes the one that is there and creates it again. -/
def Creates (last : Option Buffered) (options : JournalOpenOptions) : Prop :=
  last.any (·.journal.isOpen) = false ∧ options.readOnly = false ∧
    if last.isNone then options.createIfMissing = true else options.truncateExisting = true

/-- The account is kept over an operation. The stream holds the header of a file that is created back; of a batch it
passes on as many bytes as are counted; nothing that is not counted has been written when the stream is synchronised
or closed; and what the file is replaced by is within the bound. -/
def Keeps (last : Option Buffered) (b : BufferedOp) : Prop :=
  match b.op with
  | .opens options => Creates last options → b.passed = 0
  | .call op => ∀ held ∈ last, match op with
    | .append records => held.reaches records b.passed = held.journal.countedOf records
    | .flush => held.journal.isOpen = true → held.journal.readOnly = false → held.journal.dirty = true →
      held.uncounted = 0
    | .close => held.journal.isOpen = true → held.uncounted = 0
    | .rewrite records _ _ =>
      held.journal.readOnly = false → kHeaderBytes + (records.map Record.size).sum ≤ limits.maxJournalBytes.toNat

instance (last : Option Buffered) (options : JournalOpenOptions) : Decidable (Creates last options) :=
  inferInstanceAs (Decidable (_ ∧ _ ∧ ite _ _ _))

instance : (last : Option Buffered) → (b : BufferedOp) → Decidable (Keeps limits last b)
  | last, ⟨.opens options, passed⟩ => inferInstanceAs (Decidable (Creates last options → passed = 0))
  | last, ⟨.call (.append records), passed⟩ => inferInstanceAs
    (Decidable (∀ held ∈ last, held.reaches records passed = _))
  | last, ⟨.call .flush, _⟩ => inferInstanceAs (Decidable (∀ held ∈ last, _ → _ → _ → held.uncounted = 0))
  | last, ⟨.call .close, _⟩ => inferInstanceAs (Decidable (∀ held ∈ last, _ → held.uncounted = 0))
  | last, ⟨.call (.rewrite _ _ _), _⟩ => inferInstanceAs (Decidable (∀ held ∈ last, held.journal.readOnly = false → _))

/-! ## What holds in every state -/

/-- What `file_size` and the file miss is what was not counted and what is in the buffer, and the buffer of a handle
that is closed or does not write is empty. -/
structure Sound (b : Buffered) : Prop where
  within : b.journal.limits = limits
  header : kHeaderBytes ≤ b.journal.file.bytes.length
  atEnd : b.journal.isOpen = true → b.journal.readOnly = false → b.journal.file.position = b.journal.file.bytes.length
  counted : b.journal.stats.fileSize + b.uncounted = b.journal.file.bytes.length
  reached : b.length ≤ b.journal.file.bytes.length
  settled : b.journal.isOpen = false ∨ b.journal.readOnly = true → b.length = b.journal.file.bytes.length

variable {path limits} {b : Buffered}

/-- What an append does to the file and to `file_size`. -/
theorem append_counts (hb : b.Sound limits) (records : List Record) :
    let k := (b.journal.append records).1
    k.limits = b.journal.limits ∧ k.isOpen = b.journal.isOpen ∧ k.readOnly = b.journal.readOnly ∧
      (k.isOpen = true → k.readOnly = false → k.file.position = k.file.bytes.length) ∧
      k.file.bytes.length = b.journal.file.bytes.length + b.journal.bytesOf records ∧
      k.stats.fileSize = b.journal.stats.fileSize + b.journal.countedOf records := by
  by_cases hacc : b.journal.Accepts records
  · obtain ⟨ho, hw, hword, hmax⟩ := hacc
    have hpass : ¬ (2 ^ 64 ≤ b.journal.stats.fileSize + (records.map Record.size).sum ∨
        b.journal.limits.maxJournalBytes.toNat < b.journal.stats.fileSize + (records.map Record.size).sum) := by
      omega
    obtain ⟨hmore, hok⟩ := Journal.writeRecords_extends records (hb.atEnd ho hw)
    have hacc : b.journal.Accepts records := ⟨ho, hw, hword, hmax⟩
    simp only [Journal.append, ho, hw, Bool.not_true, Bool.false_eq_true, if_false, if_neg hpass, Journal.bytesOf,
      Journal.countedOf, hacc, true_and]
    generalize b.journal.writeRecords records = written at hmore hok ⊢
    obtain ⟨k, status⟩ := written
    cases status with
    | error err =>
      have hlarge : ¬ records.all b.journal.fits = true := by
        intro hall
        cases hok.2 hall
      rw [if_neg hlarge]
      exact ⟨hmore.limits, hmore.isOpen.trans ho, hmore.readOnly.trans hw, fun _ _ => hmore.atEnd, hmore.length,
        hmore.fileSize⟩
    | ok _ =>
      rw [if_pos (hok.1 rfl)]
      refine ⟨hmore.limits, hmore.isOpen.trans ho, hmore.readOnly.trans hw, fun _ _ => hmore.atEnd, hmore.length, ?_⟩
      exact congrArg (· + _) hmore.fileSize
  · have hsame : (b.journal.append records).1 = b.journal := by
      unfold Journal.append
      dsimp only
      split
      · rfl
      · rename_i ho
        split
        · rfl
        · rename_i hw
          split
          · rfl
          · rename_i hpass
            rw [not_or] at hpass
            exact absurd ⟨by simpa using ho, by simpa using hw, Nat.lt_of_not_le hpass.1, Nat.le_of_not_lt hpass.2⟩ hacc
    simp only [hsame, Journal.bytesOf, Journal.countedOf, hacc, false_and, if_false]
    exact ⟨trivial, trivial, trivial, hb.atEnd, rfl, rfl⟩

/-- What is counted was written. -/
theorem countedOf_le (j : Journal) (records : List Record) : j.countedOf records ≤ j.bytesOf records := by
  unfold Journal.countedOf Journal.bytesOf
  split
  · rename_i h
    rw [if_pos h.1, List.takeWhile_eq_self_iff.2 fun r hr => List.all_eq_true.1 h.2 r hr]
  · exact Nat.zero_le _

theorem reaches_le (hb : b.Sound limits) (records : List Record) (passed : Nat) :
    b.length + b.reaches records passed ≤ b.journal.file.bytes.length + b.journal.bytesOf records := by
  have hreached := hb.reached
  unfold reaches
  split
  · omega
  · omega

theorem sound_append (hb : b.Sound limits) (records : List Record) (passed : Nat) :
    (b.call (.append records) passed).Sound limits := by
  obtain ⟨hlimits, ho, hw, hend, hlength, hsize⟩ := append_counts hb records
  have hle := countedOf_le b.journal records
  have hheader := hb.header
  have hcounted := hb.counted
  have hreaches := reaches_le hb records passed
  refine ⟨hlimits.trans hb.within, ?_, hend, ?_, ?_, fun h => ?_⟩
  · show _ ≤ (b.journal.append records).1.file.bytes.length
    omega
  · show (b.journal.append records).1.stats.fileSize + (b.uncounted + _) =
      (b.journal.append records).1.file.bytes.length
    omega
  · show b.length + _ ≤ (b.journal.append records).1.file.bytes.length
    omega
  · -- a handle that is closed or does not write takes no batch
    have hidle : b.journal.isOpen = false ∨ b.journal.readOnly = true := by
      rcases h with h | h
      · exact .inl (ho.symm.trans h)
      · exact .inr (hw.symm.trans h)
    have hnone : b.journal.bytesOf records = 0 := if_neg fun hacc => by
      rcases hidle with h | h
      · exact absurd (hacc.1.symm.trans h) (by decide)
      · exact absurd (hacc.2.1.symm.trans h) (by decide)
    have hsettled := hb.settled hidle
    show b.length + b.reaches records passed = (b.journal.append records).1.file.bytes.length
    rw [hlength, reaches, if_pos hnone, hnone, hsettled]

/-- A flush changes nothing but the header on the file. -/
theorem flush_same (hb : b.Sound limits) :
    let k := b.journal.flush.1
    k.limits = b.journal.limits ∧ k.isOpen = b.journal.isOpen ∧ k.readOnly = b.journal.readOnly ∧
    k.stats = b.journal.stats ∧
      (k.isOpen = true → k.readOnly = false → k.file.position = k.file.bytes.length) ∧
      k.file.bytes.length = b.journal.file.bytes.length := by
  unfold Journal.flush
  dsimp only
  split
  · exact ⟨rfl, rfl, rfl, rfl, hb.atEnd, rfl⟩
  · split
    · exact ⟨rfl, rfl, rfl, rfl, hb.atEnd, rfl⟩
    · exact ⟨rfl, rfl, rfl, rfl, fun _ _ => rfl, Journal.length_writeHeader hb.header⟩

theorem sound_flush (hb : b.Sound limits) (passed : Nat) : (b.call .flush passed).Sound limits := by
  obtain ⟨hlimits, ho, hw, hstats, hend, hlength⟩ := flush_same hb
  refine ⟨hlimits.trans hb.within, ?_, hend, ?_, ?_, fun h => ?_⟩
  · exact hlength.symm ▸ hb.header
  · show b.journal.flush.1.stats.fileSize + b.uncounted = b.journal.flush.1.file.bytes.length
    rw [hstats, hlength]
    exact hb.counted
  · show (if _ then b.journal.flush.1.file.bytes.length else b.length) ≤ b.journal.flush.1.file.bytes.length
    split
    · exact Nat.le_refl _
    · exact hlength.symm ▸ hb.reached
  · show (if _ then b.journal.flush.1.file.bytes.length else b.length) = b.journal.flush.1.file.bytes.length
    split
    · rfl
    · rw [hlength]
      refine hb.settled ?_
      rcases h with h | h
      · exact .inl (ho.symm.trans h)
      · exact .inr (hw.symm.trans h)

theorem step_close_open {j : Journal} (h : j.isOpen = true) :
    j.step .close = { j.flush.1 with isOpen := false, locked := false } := by
  show j.close.1 = _
  rw [Journal.close, h]
  rfl

theorem step_close_closed {j : Journal} (h : ¬ j.isOpen = true) : j.step .close = j := by
  show j.close.1 = _
  rw [Journal.close, Bool.eq_false_iff.2 h]
  rfl

theorem step_rewrite_readOnly {j : Journal} (h : j.readOnly = true) {records : List Record} {epoch : RuntimeEpoch}
    {createdAt : Timestamp} :
    j.step (.rewrite records epoch createdAt) = j := by
  show (j.rewrite records epoch createdAt).1 = _
  rw [Journal.rewrite, if_pos h]

theorem sound_close (hb : b.Sound limits) (passed : Nat) : (b.call .close passed).Sound limits := by
  obtain ⟨hlimits, ho, hw, hstats, hend, hlength⟩ := flush_same hb
  unfold call
  dsimp only
  by_cases hopen : b.journal.isOpen = true
  · rw [step_close_open hopen, if_pos hopen]
    refine ⟨hlimits.trans hb.within, hlength.symm ▸ hb.header, (fun h => nomatch h), ?_, Nat.le_refl _, fun _ => rfl⟩
    show b.journal.flush.1.stats.fileSize + b.uncounted = b.journal.flush.1.file.bytes.length
    rw [hstats, hlength]
    exact hb.counted
  · rw [step_close_closed hopen, if_neg hopen]
    exact ⟨hb.within, hb.header, hb.atEnd, hb.counted, hb.reached, hb.settled⟩

/-- A rewrite counts the whole of the new file. -/
theorem rewrite_counts {j : Journal} (hw : j.readOnly = false) (records : List Record) (epoch : RuntimeEpoch)
    (createdAt : Timestamp) :
    let k := (j.rewrite records epoch createdAt).1
    k.limits = j.limits ∧ k.isOpen = true ∧ k.readOnly = false ∧ k.file.position = k.file.bytes.length ∧
      k.file.bytes.length = kHeaderBytes + (records.map Record.size).sum ∧ k.stats.fileSize = k.file.bytes.length := by
  unfold Journal.rewrite
  rw [if_neg (by rw [hw]; decide)]
  refine ⟨rfl, rfl, hw, rfl, ?_, rfl⟩
  show (encodeHeader _ ++ _).length = _
  rw [List.length_append, length_encodeHeader, length_encodeRecords]

theorem sound_rewrite (hb : b.Sound limits) (records : List Record) (epoch : RuntimeEpoch) (createdAt : Timestamp)
    (passed : Nat) :
    (b.call (.rewrite records epoch createdAt) passed).Sound limits := by
  unfold call
  dsimp only
  by_cases hw : b.journal.readOnly = true
  · rw [if_pos hw, step_rewrite_readOnly hw]
    exact ⟨hb.within, hb.header, hb.atEnd, hb.counted, hb.reached, hb.settled⟩
  · rw [if_neg hw]
    obtain ⟨hlimits, -, -, hend, hlength, hsize⟩ := rewrite_counts (Bool.eq_false_iff.2 hw) records epoch createdAt
    refine ⟨hlimits.trans hb.within, ?_, fun _ _ => hend, ?_, Nat.le_refl _, fun _ => rfl⟩
    · exact hlength.symm ▸ Nat.le_add_right _ _
    · exact hsize

theorem sound_call (hb : b.Sound limits) (passed : Nat) : ∀ op, (b.call op passed).Sound limits
  | .append records => sound_append hb records passed
  | .flush => sound_flush hb passed
  | .rewrite records epoch createdAt => sound_rewrite hb records epoch createdAt passed
  | .close => sound_close hb passed

/-- Opening creates the file, or is refused, or attaches to the one that is there. -/
theorem openFile_cases (hv : limits.validate = .ok ()) (path : Str) {last : Option Buffered}
    (options : JournalOpenOptions)
    (hclosed : last.any (·.journal.isOpen) = false) :
    (Creates last options ∧ (last.isNone || options.truncateExisting && !options.readOnly) = true ∧
        Journal.openFile path (last.map (·.journal.file.bytes)) { options with limits := limits }
          = .ok (Journal.create path { options with limits := limits })) ∨
      ¬ Creates last options ∧
        ((∃ err, Journal.openFile path (last.map (·.journal.file.bytes)) { options with limits := limits } =
          .error err) ∨
        (last.isNone || options.truncateExisting && !options.readOnly) = false ∧ ∃ b, last = some b ∧
          Journal.openFile path (last.map (·.journal.file.bytes)) { options with limits := limits }
            = Journal.attach path { options with limits := limits } b.journal.file.bytes) := by
  cases last with
  | none =>
    simp only [Creates, Journal.openFile, hv, ok_bind, Option.map_none, Option.isNone_none, if_true, Option.any_none,
      true_and]
    cases hc : options.createIfMissing <;> cases hr : options.readOnly <;> simp [pure_eq_ok]
  | some b =>
    simp only [Creates, Journal.openFile, hv, ok_bind, Option.map_some, Option.isNone_some, hclosed, true_and]
    cases ht : options.truncateExisting <;> cases hr : options.readOnly <;> simp [pure_eq_ok]

theorem sound_step (hv : limits.validate = .ok ()) {last : Option Buffered} (hlast : ∀ b ∈ last, b.Sound limits)
    (op : BufferedOp) :
    ∀ b ∈ step path limits last op, b.Sound limits := by
  obtain ⟨op, passed⟩ := op
  intro b hb
  cases op with
  | call op =>
    obtain ⟨held, hheld, rfl⟩ := Option.map_eq_some_iff.1 hb
    exact sound_call (hlast held hheld) passed op
  | opens options =>
    unfold step at hb
    dsimp only at hb
    split at hb
    · exact hlast b hb
    · rename_i hclosed
      rcases openFile_cases hv path options (Bool.eq_false_iff.2 hclosed) with
        ⟨-, hfresh, hopen⟩ | ⟨-, ⟨err, hopen⟩ | ⟨hfresh, held, rfl, hopen⟩⟩
      · simp only [hopen, hfresh, if_true] at hb
        cases hb
        have hlength := Journal.length_create path { options with limits := limits }
        refine ⟨rfl, Nat.le_of_eq hlength.symm, fun _ _ => ?_, ?_, ?_, fun h => ?_⟩
        · rw [hlength, Journal.position_create]
        · show 0 + kHeaderBytes = (Journal.create path { options with limits := limits }).file.bytes.length
          rw [hlength, Nat.zero_add]
        · show min passed kHeaderBytes ≤ (Journal.create path { options with limits := limits }).file.bytes.length
          rw [hlength]
          exact Nat.min_le_right _ _
        · rcases h with h | h
          · cases h
          · cases h
      · simp only [hopen] at hb
        exact hlast b hb
      · rw [hopen] at hb
        split at hb
        · exact hlast b hb
        · rename_i j hattach
          obtain ⟨hlimits, -, hend, hbytes, hsize⟩ := Journal.attach_counts hattach
          rw [if_neg (by rw [hfresh]; decide)] at hb
          cases hb
          refine ⟨hlimits, ?_, fun _ => hend, ?_, Nat.le_refl _, fun _ => rfl⟩
          · show kHeaderBytes ≤ j.file.bytes.length
            rw [hbytes]
            exact (hlast held rfl).header
          · show j.stats.fileSize + 0 = j.file.bytes.length
            rw [hsize, hbytes]
            rfl

/-! ## The account -/

/-- A call leaves the account in order exactly when it keeps it. -/
theorem accounted_call_iff (hb : b.Sound limits) (hacc : b.Accounted limits) (op : JournalOp) (passed : Nat) :
    (b.call op passed).Accounted limits ↔ Keeps limits (some b) ⟨.call op, passed⟩ := by
  obtain ⟨hbound, hsize⟩ := hacc
  have hcounted := hb.counted
  cases op with
  | append records =>
    obtain ⟨-, -, -, -, -, hafter⟩ := append_counts hb records
    have hkeeps : Keeps limits (some b) ⟨.call (.append records), passed⟩ ↔
        b.reaches records passed = b.journal.countedOf records :=
      ⟨fun h => h b rfl, fun h held hheld => by cases hheld; exact h⟩
    -- what is counted was checked against the bound
    have hchecked : b.journal.stats.fileSize + b.journal.countedOf records ≤ limits.maxJournalBytes.toNat := by
      unfold Journal.countedOf
      split
      · rename_i h
        rw [← hb.within]
        exact h.1.2.2.2
      · omega
    rw [hkeeps]
    show b.length + b.reaches records passed ≤ _ ∧
      (b.journal.append records).1.stats.fileSize = b.length + b.reaches records passed ↔ _
    rw [hafter]
    omega
  | flush =>
    obtain ⟨-, -, -, hstats, -, hlength⟩ := flush_same hb
    have hkeeps : Keeps limits (some b) ⟨.call .flush, passed⟩ ↔
        ((b.journal.isOpen && !b.journal.readOnly && b.journal.dirty) = true → b.uncounted = 0) := by
      simp [Keeps]
    rw [hkeeps]
    show (if _ then b.journal.flush.1.file.bytes.length else b.length) ≤ _ ∧
      b.journal.flush.1.stats.fileSize = (if _ then b.journal.flush.1.file.bytes.length else b.length) ↔ _
    rw [hstats, hlength]
    split
    · rename_i hsynced
      simp only [hsynced, true_imp_iff]
      omega
    · rename_i hclean
      exact ⟨fun _ h => absurd h hclean, fun _ => ⟨hbound, hsize⟩⟩
  | close =>
    obtain ⟨-, -, -, hstats, -, hlength⟩ := flush_same hb
    have hkeeps : Keeps limits (some b) ⟨.call .close, passed⟩ ↔ (b.journal.isOpen = true → b.uncounted = 0) := by
      simp [Keeps]
    rw [hkeeps]
    by_cases hopen : b.journal.isOpen = true
    · simp only [call, step_close_open hopen, Accounted, hstats, hlength, hopen, if_true, true_imp_iff]
      omega
    · simp only [call, step_close_closed hopen, if_neg hopen, Accounted]
      exact ⟨fun _ h => absurd h hopen, fun _ => ⟨hbound, hsize⟩⟩
  | rewrite records epoch createdAt =>
    have hkeeps : Keeps limits (some b) ⟨.call (.rewrite records epoch createdAt), passed⟩ ↔
      (b.journal.readOnly = false →
        kHeaderBytes + (records.map Record.size).sum ≤ limits.maxJournalBytes.toNat) := by
      simp [Keeps]
    rw [hkeeps]
    by_cases hw : b.journal.readOnly = true
    · simp only [call, if_pos hw, step_rewrite_readOnly hw, Accounted]
      exact ⟨fun _ h => absurd (hw.symm.trans h) (by decide), fun _ => ⟨hbound, hsize⟩⟩
    · have hwrites := Bool.eq_false_iff.2 hw
      obtain ⟨-, -, -, -, hlength, hafter⟩ := rewrite_counts hwrites records epoch createdAt
      simp only [call, hwrites, true_imp_iff]
      show (b.journal.rewrite records epoch createdAt).1.file.bytes.length ≤ _ ∧
        (b.journal.rewrite records epoch createdAt).1.stats.fileSize
        = (b.journal.rewrite records epoch createdAt).1.file.bytes.length ↔ _
      rw [hafter, hlength]
      exact and_iff_left rfl

/-- An operation on the path leaves the account in order exactly when it keeps it. -/
theorem accounted_step_iff (hv : limits.validate = .ok ()) {last : Option Buffered}
    (hlast : ∀ b ∈ last, b.Sound limits ∧ b.Accounted limits) (op : BufferedOp) :
    (∀ b ∈ step path limits last op, b.Accounted limits) ↔ Keeps limits last op := by
  obtain ⟨op, passed⟩ := op
  cases op with
  | call op =>
    cases last with
    | none => exact ⟨fun _ _ h => (nomatch h), fun _ _ h => nomatch h⟩
    | some b =>
      obtain ⟨hb, hacc⟩ := hlast b rfl
      refine Iff.trans ⟨fun h => h _ rfl, fun h b' hb' => ?_⟩ (accounted_call_iff hb hacc op passed)
      cases hb'
      exact h
  | opens options =>
    show _ ↔ (Creates last options → passed = 0)
    unfold step
    dsimp only
    split
    · rename_i hopen
      exact ⟨fun _ hc => absurd (hopen.symm.trans hc.1) (by decide), fun _ b hb => (hlast b hb).2⟩
    · rename_i hclosed
      replace hclosed := Bool.eq_false_iff.2 hclosed
      rcases openFile_cases hv path options hclosed with
        ⟨hc, hfresh, hopen⟩ | ⟨hc, ⟨err, hopen⟩ | ⟨hfresh, held, rfl, hopen⟩⟩
      · simp only [hopen, hfresh, if_true]
        constructor
        · intro h _
          have hsize := (h _ rfl).2
          replace hsize : 0 = min passed kHeaderBytes := hsize
          simp only [kHeaderBytes] at hsize
          omega
        · intro h b hb
          cases hb
          rw [h hc]
          exact ⟨Nat.zero_le _, rfl⟩
      · simp only [hopen]
        exact ⟨fun _ h => absurd h hc, fun _ b hb => (hlast b hb).2⟩
      · rw [hopen]
        refine ⟨fun _ h => absurd h hc, fun _ b hb => ?_⟩
        split at hb
        · exact (hlast b hb).2
        · rename_i j hattach
          obtain ⟨-, -, -, hbytes, hsize⟩ := Journal.attach_counts hattach
          rw [if_neg (by rw [hfresh]; decide)] at hb
          cases hb
          obtain ⟨hb, hacc⟩ := hlast held rfl
          -- the file that was closed is there as a whole
          have hheld : held.length = held.journal.file.bytes.length := hb.settled (.inl (by simpa using hclosed))
          refine ⟨?_, ?_⟩
          · show j.file.bytes.length ≤ _
            rw [hbytes, ← hheld]
            exact hacc.1
          · show j.stats.fileSize = j.file.bytes.length
            rw [hsize, hbytes]

/-- **Exactly in which runs `file_size` is the length of the file.** Over any operations from no file, and whatever
the stream passes on by itself, the file is within its bound and `file_size` its length in every state if and only if
each operation keeps the account. -/
theorem fileSize_accounted_iff (hv : limits.validate = .ok ()) (path : Str) (ops : List BufferedOp) :
    (∀ before, before <+: ops → ∀ b ∈ exec (step path limits) none before, b.Accounted limits) ↔
      Along (step path limits) (Keeps limits) none ops := by
  refine forall_prefix_iff (P := fun last : Option Buffered => ∀ b ∈ last, b.Accounted limits)
    (Q := fun last : Option Buffered => ∀ b ∈ last, b.Sound limits ∧ b.Accounted limits)
      (fun _ h b hb => (h b hb).2) ?_ ?_
    (fun _ h => (nomatch h))
  · intro last op hlast hkeeps b hb
    exact ⟨sound_step hv (fun b hb => (hlast b hb).1) op b hb, (accounted_step_iff hv hlast op).2 hkeeps b hb⟩
  · intro last op hlast hafter
    exact (accounted_step_iff hv hlast op).1 hafter

/-- A journal that is created, compacted at once, used on a stream that writes through, closed and opened again. -/
def compactedRun : List BufferedOp :=
  [⟨.opens {}, 0⟩, ⟨.call (.rewrite [⟨.ObservationRecord, [1, 2]⟩] default {}), 0⟩,
    ⟨.call (.append [⟨.ObservationRecord, [3]⟩]), 13⟩,
    ⟨.call .close, 0⟩, ⟨.opens {}, 0⟩]

theorem fileSize_accounted_compacted : Along (step [] {}) (Keeps {}) none compactedRun ∧
    ∀ before, before <+: compactedRun → ∀ b ∈ exec (step [] {}) none before, b.Accounted {} := by
  have hkeeps : Along (step [] {}) (Keeps {}) none compactedRun := by decide
  exact ⟨hkeeps, (fileSize_accounted_iff (by decide) [] compactedRun).2 hkeeps⟩

/-- **`file_size` is not the length of a file that was created and flushed.** -/
theorem created_unaccounted : ¬ ∀ (limits : Limits) (path : Str) (ops : List BufferedOp), limits.validate = .ok () →
    ∀ b ∈ exec (step path limits) none ops, b.Accounted limits := by
  intro h
  have hmissed : ¬ ∀ b ∈ exec (step [] {}) none [⟨.opens {}, 0⟩, ⟨.call .flush, 0⟩], b.Accounted {} := by decide +kernel
  exact hmissed (h {} [] [⟨.opens {}, 0⟩, ⟨.call .flush, 0⟩] (by decide))

end Buffered

end FlowObs
