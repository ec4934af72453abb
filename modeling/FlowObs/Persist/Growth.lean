import FlowObs.Persist.JournalRun

/-!
# How a journal grows

A run of a journal from no file: it is opened, used and closed any number of times. `append` bounds the growth by a
counter, `file_size`, that misses the header of a file that is created: it is written and not counted. When no batch
holds a record that is too large and what is rewritten fits, the header is all that the counter ever misses, and the
file outgrows its bound by no more (`growth_within_header`).
-/

namespace FlowObs

open Run

/-- The operations on a journal path, one handle at a time. -/
inductive FileOp
  | opens (options : JournalOpenOptions)
  | call (op : JournalOp)
deriving DecidableEq, Repr

namespace Journal

variable (path : Str) (limits : Limits)

/-- One operation on a path under the given limits. There is no journal before the first handle is opened. A closed
handle keeps what is in the file, and while one is open there is no other. -/
def fileStep (last : Option Journal) : FileOp → Option Journal
  | .opens options =>
    if last.any (·.isOpen) then last
    else match openFile path (last.map (·.file.bytes)) { options with limits := limits } with
      | .ok j => some j
      | .error _ => last
  | .call op => last.map (·.step op)

variable {path limits}

/-! ## How far the account goes -/

/-- An operation that the account can follow: no batch holds a record that is too large, and what is rewritten fits. -/
def Fits (limits : Limits) : FileOp → Prop
  | .call (.append records) => ∀ r ∈ records, r.payload.length ≤ maxPayload limits
  | .call (.rewrite records _ _) => kHeaderBytes + (records.map Record.size).sum ≤ limits.maxJournalBytes.toNat
  | .call .flush | .call .close | .opens _ => True

theorem length_create (path : Str) (options : JournalOpenOptions) :
    (create path options).file.bytes.length = kHeaderBytes := by
  simp [create, writeHeader, FileStream.write, FileStream.seek, length_encodeHeader]

theorem position_create (path : Str) (options : JournalOpenOptions) :
    (create path options).file.position = kHeaderBytes := by
  simp [create, writeHeader, FileStream.write, FileStream.seek, length_encodeHeader]

/-- A journal whose account misses the header at most. -/
structure Near (limits : Limits) (j : Journal) : Prop where
  within : j.limits = limits
  header : kHeaderBytes ≤ j.file.bytes.length
  atEnd : j.isOpen = true → j.readOnly = false → j.file.position = j.file.bytes.length
  counted : j.stats.fileSize = j.file.bytes.length ∨ j.stats.fileSize + kHeaderBytes = j.file.bytes.length
  bounded : j.file.bytes.length ≤ limits.maxJournalBytes.toNat + kHeaderBytes

theorem near_create (path : Str) (options : JournalOpenOptions) (ho : options.limits = limits) :
    (create path options).Near limits := by
  have hlength := length_create path options
  refine ⟨ho, by rw [hlength], fun _ _ => ?_, .inr (by rw [hlength]; rfl), by rw [hlength]; omega⟩
  rw [hlength, position_create]

/-- The record is within the bound on the payload. -/
def fits (j : Journal) (r : Record) : Bool := decide (r.payload.length ≤ maxPayload j.limits)

/-- The handle `k` is `j` with so many bytes more written at the end. -/
structure Extends (j k : Journal) (n : Nat) : Prop where
  limits : k.limits = j.limits
  isOpen : k.isOpen = j.isOpen
  readOnly : k.readOnly = j.readOnly
  fileSize : k.stats.fileSize = j.stats.fileSize
  atEnd : k.file.position = k.file.bytes.length
  length : k.file.bytes.length = j.file.bytes.length + n

/-- Writing a batch writes each record at the end, up to the first that is too large. -/
theorem writeRecords_extends (records : List Record) {j : Journal} (hend : j.file.position = j.file.bytes.length) :
    Extends j (j.writeRecords records).1 ((records.takeWhile j.fits).map Record.size).sum ∧
      ((j.writeRecords records).2 = .ok () ↔ records.all j.fits = true) := by
  induction records generalizing j with
  | nil => exact ⟨⟨rfl, rfl, rfl, rfl, hend, rfl⟩, by simp [writeRecords]⟩
  | cons r records ih =>
    by_cases hr : r.payload.length ≤ maxPayload j.limits
    · have hfits : j.fits r = true := decide_eq_true hr
      have hwrite := FileStream.write_at_end hend (encodeRecord r)
      have hlength : (j.writeRecord r).file.bytes.length = j.file.bytes.length + r.size := by
        show (j.file.write (encodeRecord r)).bytes.length = _
        rw [hwrite, List.length_append, length_encodeRecord]
      have hend' : (j.writeRecord r).file.position = (j.writeRecord r).file.bytes.length := by
        show (j.file.write (encodeRecord r)).position = (j.file.write (encodeRecord r)).bytes.length
        rw [hwrite]
      obtain ⟨hmore, hok⟩ := ih hend'
      have hsame : (j.writeRecord r).fits = j.fits := rfl
      rw [writeRecords, if_neg (Nat.not_lt.2 hr), List.takeWhile_cons_of_pos hfits, List.all_cons, hfits, Bool.true_and]
      rw [hsame] at hmore hok
      refine ⟨⟨hmore.limits, hmore.isOpen, hmore.readOnly, hmore.fileSize, hmore.atEnd, ?_⟩, hok⟩
      rw [hmore.length, hlength, List.map_cons, List.sum_cons, Nat.add_assoc]
    · have hlarge : j.fits r = false := decide_eq_false hr
      rw [writeRecords, if_pos (Nat.lt_of_not_le hr), List.takeWhile_cons_of_neg (by rw [hlarge]; decide),
        List.all_cons, hlarge]
      exact ⟨⟨rfl, rfl, rfl, rfl, hend, rfl⟩, by simp⟩

theorem near_append {j : Journal} (hj : j.Near limits) {records : List Record}
    (hfits : ∀ r ∈ records, r.payload.length ≤ maxPayload limits) : (j.append records).1.Near limits := by
  unfold append
  by_cases ho : j.isOpen = true
  · by_cases hro : j.readOnly = true
    · simpa [ho, hro] using hj
    · simp only [ho, hro, Bool.not_true, Bool.false_eq_true, if_false]
      split
      · exact hj
      · rename_i hbound
        have hall : ∀ r ∈ records, j.fits r = true := fun r hr => decide_eq_true (by rw [hj.within]; exact hfits r hr)
        obtain ⟨hmore, hok⟩ := writeRecords_extends records (hj.atEnd ho (Bool.eq_false_iff.2 hro))
        rw [List.takeWhile_eq_self_iff.2 hall] at hmore
        have hstatus := hok.2 (List.all_eq_true.2 hall)
        have hwritten := hmore.length
        have hsize := hmore.fileSize
        have hcounted := hj.counted
        have hheader := hj.header
        rw [hj.within] at hbound
        rcases hw : j.writeRecords records with ⟨k, status⟩
        rw [hw] at hmore hstatus hwritten hsize
        cases hstatus
        refine ⟨hmore.limits.trans hj.within, ?_, fun _ _ => hmore.atEnd, ?_, ?_⟩
        all_goals simp only at *
        all_goals omega
  · simpa [ho] using hj

/-- The header that a flush writes takes the place of the one that is there. -/
theorem length_writeHeader {j : Journal} (h : kHeaderBytes ≤ j.file.bytes.length) :
    j.writeHeader.file.bytes.length = j.file.bytes.length := by
  simp only [writeHeader, FileStream.write, FileStream.seek, List.length_append, List.length_take,
    List.length_replicate, List.length_drop, length_encodeHeader]
  omega

theorem near_flush {j : Journal} (hj : j.Near limits) : j.flush.1.Near limits := by
  unfold flush
  split
  · exact hj
  · split
    · exact hj
    · have hlength := length_writeHeader hj.header
      refine ⟨hj.within, ?_, fun _ _ => rfl, ?_, ?_⟩
      · show kHeaderBytes ≤ j.writeHeader.file.bytes.length
        rw [hlength]
        exact hj.header
      · show j.stats.fileSize = j.writeHeader.file.bytes.length ∨ _ = j.writeHeader.file.bytes.length
        rw [hlength]
        exact hj.counted
      · show j.writeHeader.file.bytes.length ≤ _
        rw [hlength]
        exact hj.bounded

theorem near_close {j : Journal} (hj : j.Near limits) : j.close.1.Near limits := by
  unfold close
  split
  · exact hj
  · have hf := near_flush hj
    exact ⟨hf.within, hf.header, fun h => Bool.noConfusion h, hf.counted, hf.bounded⟩

theorem near_rewrite {j : Journal} (hj : j.Near limits) {records : List Record} {epoch : RuntimeEpoch}
    {createdAt : Timestamp}
    (hfits : kHeaderBytes + (records.map Record.size).sum ≤ limits.maxJournalBytes.toNat) :
    (j.rewrite records epoch createdAt).1.Near limits := by
  unfold rewrite
  split
  · exact hj
  · have hlength : ∀ h : JournalHeader, (encodeHeader h ++ records.flatMap encodeRecord).length
        = kHeaderBytes + (records.map Record.size).sum := by
      intro h
      rw [List.length_append, length_encodeHeader, length_encodeRecords]
    refine ⟨hj.within, ?_, fun _ _ => rfl, .inl rfl, ?_⟩
    · show kHeaderBytes ≤ (encodeHeader _ ++ _).length
      rw [hlength]
      omega
    · show (encodeHeader _ ++ _).length ≤ _
      rw [hlength]
      omega

/-- A handle on a file that exists counts it whole. -/
theorem attach_counts {options : JournalOpenOptions} {bytes : List UInt8} {k : Journal}
    (hk : attach path options bytes = .ok k) :
    k.limits = options.limits ∧ k.readOnly = options.readOnly ∧
    (k.readOnly = false → k.file.position = k.file.bytes.length) ∧
      k.file.bytes = bytes ∧ k.stats.fileSize = bytes.length := by
  unfold attach at hk
  obtain ⟨header, -, hk⟩ := bind_ok.1 hk
  cases hk
  refine ⟨rfl, rfl, fun hw => ?_, ?_, rfl⟩
  · replace hw : options.readOnly = false := hw
    simp [hw, FileStream.seekEnd]
  · cases options.readOnly <;> rfl

/-- A handle on a file that is near its account counts it whole. -/
theorem near_attach {options : JournalOpenOptions} {j k : Journal} (hj : j.Near limits) (ho : options.limits = limits)
    (hk : attach path options j.file.bytes = .ok k) : k.Near limits := by
  obtain ⟨hlimits, -, hend, hbytes, hsize⟩ := attach_counts hk
  refine ⟨hlimits.trans ho, ?_, fun _ => hend, .inl ?_, ?_⟩
  · rw [hbytes]
    exact hj.header
  · rw [hsize, hbytes]
  · rw [hbytes]
    exact hj.bounded

theorem near_openFile {options : JournalOpenOptions} {last : Option Journal} {k : Journal}
    (hlast : ∀ j, last = some j → j.Near limits) (ho : options.limits = limits)
    (hk : openFile path (last.map (·.file.bytes)) options = .ok k) : k.Near limits := by
  unfold openFile at hk
  obtain ⟨_, -, hk⟩ := bind_ok.1 hk
  cases last with
  | none =>
    simp only [Option.map_none] at hk
    split at hk
    · cases hk
    · split at hk
      · cases hk
      · cases hk
        exact near_create path options ho
  | some j =>
    simp only [Option.map_some] at hk
    split at hk
    · cases hk
      exact near_create path options ho
    · exact near_attach (hlast j rfl) ho hk

/-- **The header is all that the account misses.** In every state of a run from no file in which no batch holds a
record that is too large and what is rewritten fits, `file_size` is the length of the file or 64 less, and the file is
within 64 bytes of its bound. -/
theorem growth_within_header (path : Str) (ops : List FileOp)
    (hops : Along (fileStep path limits) (fun _ op => Fits limits op) none ops) :
    ∀ j, exec (fileStep path limits) none ops = some j → j.Near limits := by
  refine Along.invariant (P := fun s : Option Journal => ∀ j, s = some j → j.Near limits) ?_ ?_ hops
  · intro s op hs hfits j hj
    cases op with
    | opens options =>
      simp only [fileStep] at hj
      split at hj
      · exact hs j hj
      · split at hj
        · rename_i k hk
          cases hj
          exact near_openFile hs rfl hk
        · exact hs j hj
    | call op =>
      obtain ⟨k, hk, rfl⟩ := Option.map_eq_some_iff.1 hj
      have hnear := hs k hk
      cases op with
      | append records => exact near_append hnear hfits
      | flush => exact near_flush hnear
      | rewrite records epoch createdAt => exact near_rewrite hnear hfits
      | close => exact near_close hnear
  · intro j hj
    cases hj

end Journal

end FlowObs
