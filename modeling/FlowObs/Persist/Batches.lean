import FlowObs.Persist.Damage

/-!
# Batches that are refused

`append` checks the size of a batch before it writes, and the payload of each record just before it writes that record.
`append_cases` lists what a call can do. A refused batch leaves no trace exactly when it is refused before its first
record is written (`traceless_iff`); a journal that such batches are offered to gives back the records of the accepted
ones, within the bounds of the reader (`refused_batches_iff`).
-/

namespace FlowObs

open Run

namespace Journal

variable {options : JournalOpenOptions} {j : Journal} {batch records : List Record}

/-! ## One batch -/

/-- The journal would grow beyond its bound with the batch. -/
def Overflows (j : Journal) (batch : List Record) : Prop :=
  2 ^ 64 ≤ j.stats.fileSize + (batch.map Record.size).sum ∨
    j.limits.maxJournalBytes.toNat < j.stats.fileSize + (batch.map Record.size).sum

instance (j : Journal) (batch : List Record) : Decidable (Overflows j batch) := inferInstanceAs (Decidable (_ ∨ _))

/-- The record is too large for the journal. -/
def Oversize (limits : Limits) (r : Record) : Prop := maxPayload limits < r.payload.length

instance (limits : Limits) (r : Record) : Decidable (Oversize limits r) := inferInstanceAs (Decidable (_ < _))

/-- The records of a batch in front of the first that is too large. -/
def leading (limits : Limits) (batch : List Record) : List Record :=
  batch.takeWhile fun r => !decide (Oversize limits r)

/-- The loop of `append` writes the leading records, and fails when there are others. -/
theorem writeRecords_eq : ∀ (batch : List Record) (j : Journal), j.writeRecords batch =
    (exec writeRecord j (leading j.limits batch), if ∃ r ∈ batch, Oversize j.limits r then
      .error (limitExceeded "record payload exceeds the configured bound") else .ok ())
  | [], j => by simp [writeRecords, leading]
  | r :: batch, j => by
    by_cases hr : Oversize j.limits r
    · have hfirst : maxPayload j.limits < r.payload.length := hr
      simp [writeRecords, leading, hr, hfirst]
    · have hfirst : ¬ maxPayload j.limits < r.payload.length := hr
      have ih := writeRecords_eq batch (j.writeRecord r)
      rw [writeRecords, if_neg hfirst, ih]
      simp only [leading, List.takeWhile_cons, hr, decide_false, Bool.not_false, if_true, exec_cons, List.mem_cons,
        exists_eq_or_imp, false_or]
      rfl

/-- **What a call of `append` can do.** -/
inductive Appended (j : Journal) (batch : List Record) : Journal × Except Error Unit → Prop
  | closed (message : Str) (h : j.isOpen = false ∨ j.readOnly = true) : Appended j batch (j, .error ⟨.NotOpen, message⟩)
  | overflow (ho : j.isOpen = true) (h : j.Overflows batch) :
      Appended j batch (j, .error (limitExceeded "journal would exceed limits.max_journal_bytes"))
  | oversize (ho : j.isOpen = true) (h : ¬ j.Overflows batch) (hr : ∃ r ∈ batch, Oversize j.limits r) :
      Appended j batch (exec writeRecord j (leading j.limits batch),
        .error (limitExceeded "record payload exceeds the configured bound"))
  | accepted (ho : j.isOpen = true) (k : Journal) (hk : k.isOpen = true) : Appended j batch (k, .ok ())

theorem isOpen_exec_writeRecord (batch : List Record) : (exec writeRecord j batch).isOpen = j.isOpen :=
  have hstep : ∀ (k : Journal) (r : Record), k.isOpen = j.isOpen → (k.writeRecord r).isOpen = j.isOpen := fun _ _ h => h
  invariant (P := fun k : Journal => k.isOpen = j.isOpen) hstep batch rfl

theorem append_cases (j : Journal) (batch : List Record) : Appended j batch (j.append batch) := by
  unfold append
  split
  · rename_i hclosed
    exact .closed _ (.inl (by simpa using hclosed))
  · rename_i ho
    have ho : j.isOpen = true := by simpa using ho
    split
    · rename_i hread
      exact .closed _ (.inr hread)
    · dsimp only
      split
      · rename_i hover
        exact .overflow ho hover
      · rename_i hover
        rw [writeRecords_eq]
        by_cases hr : ∃ r ∈ batch, Oversize j.limits r
        · rw [if_pos hr]
          exact .oversize ho hover hr
        · rw [if_neg hr]
          exact .accepted ho _ ((isOpen_exec_writeRecord _).trans ho)

/-- A call that fails exceeds a limit, or its journal is closed or read-only. -/
theorem append_code {e : Error} (h : (j.append batch).2 = .error e) :
    e.code = .LimitExceeded ∨ e.code = .NotOpen ∧ (j.isOpen = false ∨ j.readOnly = true) := by
  have hcases := append_cases j batch
  generalize j.append batch = result at h hcases
  cases hcases with
  | closed _ hclosed =>
    cases h
    exact .inr ⟨rfl, hclosed⟩
  | overflow | oversize =>
    cases h
    exact .inl rfl
  | accepted => cases h

/-- The bytes of the file, the file size and the count of the records are those that there were. -/
structure Traceless (j k : Journal) : Prop where
  bytes : k.file.bytes = j.file.bytes
  fileSize : k.stats.fileSize = j.stats.fileSize
  recordCount : k.header.recordCount = j.header.recordCount

/-- The call returns a limit error. -/
def Refused (j : Journal) (batch : List Record) : Prop := ∃ e, (j.append batch).2 = .error e ∧ e.code = .LimitExceeded

/-- Every call that fails on an open journal is refused. -/
theorem refused_of_error (hj : Holds options j records) (ho : j.isOpen = true) {e : Error}
    (h : (j.append batch).2 = .error e) :
    e.code = .LimitExceeded := by
  refine (append_code h).resolve_right fun ⟨_, hclosed⟩ => ?_
  rw [ho, hj.writable] at hclosed
  simp at hclosed

/-- A batch that is too large as a whole, or starts with a record that is. -/
def AtOnce (j : Journal) (batch : List Record) : Prop :=
  j.Overflows batch ∨ ∃ r rest, batch = r :: rest ∧ Oversize j.limits r

theorem recordCount_written : ∀ (batch : List Record) (j : Journal),
    (exec writeRecord j batch).header.recordCount = j.header.recordCount + UInt64.ofNat batch.length
  | [], j => by simp
  | r :: batch, j => by
    rw [exec_cons, recordCount_written batch, List.length_cons, Nat.add_comm, UInt64.ofNat_add, ← UInt64.add_assoc]
    rfl

/-- Fewer than `2 ^ 64` records, but at least one, change the count. -/
theorem recordCount_changed (hne : batch ≠ []) (hlt : batch.length < 2 ^ 64) :
    (exec writeRecord j batch).header.recordCount ≠ j.header.recordCount := by
  intro h
  rw [recordCount_written, UInt64.add_eq_left] at h
  have hlength := congrArg UInt64.toNat h
  rw [UInt64.toNat_ofNat_of_lt' hlt] at hlength
  exact hne (List.length_eq_zero_iff.1 hlength)

/-- No record is written before the first one exactly when that one is too large. -/
theorem leading_eq_nil_iff {limits : Limits} (hr : ∃ r ∈ batch, Oversize limits r) :
    leading limits batch = [] ↔ ∃ r rest, batch = r :: rest ∧ Oversize limits r := by
  cases batch with
  | nil =>
    obtain ⟨_, hmem, -⟩ := hr
    cases hmem
  | cons r rest => simp [leading, List.takeWhile_cons]

/-- A call that is refused at once changes nothing. -/
theorem append_at_once (h : Refused j batch) (honce : AtOnce j batch) : (j.append batch).1 = j := by
  obtain ⟨e, he, -⟩ := h
  have hcases := append_cases j batch
  generalize j.append batch = result at he hcases
  cases hcases with
  | closed => rfl
  | overflow => rfl
  | oversize ho hover hr =>
    have hnil := (leading_eq_nil_iff hr).2 (honce.resolve_left hover)
    rw [hnil]
    rfl
  | accepted => cases he

/-- **A refused batch leaves no trace exactly when it is refused at once.** -/
theorem traceless_iff (h : Refused j batch) : Traceless j (j.append batch).1 ↔ AtOnce j batch := by
  refine ⟨fun htraceless => ?_, fun honce => ?_⟩
  · obtain ⟨e, he, hcode⟩ := h
    have hcases := append_cases j batch
    generalize j.append batch = result at he htraceless hcases
    cases hcases with
    | closed =>
      cases he
      cases hcode
    | overflow ho hover => exact .inl hover
    | oversize ho hover hr =>
      refine .inr ((leading_eq_nil_iff hr).1 ?_)
      by_contra hne
      have hlength : (leading j.limits batch).length ≤ batch.length := (List.takeWhile_prefix _).length_le
      have hsize := length_le_encodeRecords batch
      rw [length_encodeRecords] at hsize
      rw [Overflows, not_or] at hover
      exact recordCount_changed hne (by omega) htraceless.recordCount
    | accepted => cases he
  · rw [append_at_once h honce]
    exact ⟨rfl, rfl, rfl⟩

/-! ## Runs -/

/-- The state after one batch. -/
def offer (j : Journal) (batch : List Record) : Journal := (j.append batch).1

/-- The records of the batches that are accepted. -/
def accepted : Journal → List (List Record) → List Record
  | _, [] => []
  | j, batch :: batches => (if (j.append batch).2 = .ok () then batch else []) ++ accepted (j.offer batch) batches

/-- A batch that is accepted or refused at once adds its records or none. -/
theorem holds_offer (hj : Holds options j records) (ho : j.isOpen = true) (h : Refused j batch → AtOnce j batch) :
    Holds options (j.offer batch) (records ++ if (j.append batch).2 = .ok () then batch else []) ∧
      (j.offer batch).isOpen = true := by
  have hcases := append_cases j batch
  cases hresult : j.append batch with
  | mk k status =>
    rw [hresult] at hcases
    cases status with
    | error e =>
      have he : (j.append batch).2 = .error e := by rw [hresult]
      have hrefused : Refused j batch := ⟨e, he, refused_of_error hj ho he⟩
      rw [offer, append_at_once hrefused (h hrefused), if_neg (fun h => nomatch h), List.append_nil]
      exact ⟨hj, ho⟩
    | ok _ =>
      have hok : (j.append batch).2 = .ok () := by rw [hresult]
      refine ⟨?_, ?_⟩
      · rw [if_pos rfl]
        exact holds_append hj hok
      · rw [offer, hresult]
        cases hcases with
        | accepted _ _ hk => exact hk

/-- **A run of batches that are accepted or refused at once** leaves the records of the accepted ones. -/
theorem holds_offers : ∀ {batches : List (List Record)} {j : Journal} {records : List Record},
    Holds options j records → j.isOpen = true →
    Along offer (fun j batch => Refused j batch → AtOnce j batch) j batches →
    Holds options (exec offer j batches) (records ++ accepted j batches) ∧ (exec offer j batches).isOpen = true
  | [], j, records, hj, ho, _ => by
    rw [accepted, List.append_nil]
    exact ⟨hj, ho⟩
  | batch :: batches, j, records, hj, ho, hrun => by
    obtain ⟨hnext, hopen⟩ := holds_offer hj ho hrun.1
    rw [accepted, ← List.append_assoc]
    exact holds_offers hnext hopen hrun.2

/-- **Exactly when refused batches leave no trace and accepted ones are read back.** On any handle the batches of a run
that are refused leave none when each is refused at once. Where the file of an open handle holds records, these and the
records of the accepted batches are then read back when they are within the bounds of the reader. -/
theorem refused_batches_iff (j : Journal) (batches : List (List Record)) :
    (Along offer (fun j batch => Refused j batch → Traceless j (j.offer batch)) j batches ↔
      Along offer (fun j batch => Refused j batch → AtOnce j batch) j batches) ∧
    ∀ (options : JournalOpenOptions) (records : List Record), options.limits.Valid → Holds options j records →
      j.isOpen = true →
      (Along offer (fun j batch => Refused j batch → Traceless j (j.offer batch)) j batches ∧
          (exec offer j batches).readAll.2 = .ok (records ++ accepted j batches) ↔
        Along offer (fun j batch => Refused j batch → AtOnce j batch) j batches ∧
          Readable options.limits (records ++ accepted j batches)) := by
  have hcond : (fun (j : Journal) (batch : List Record) => Refused j batch → Traceless j (j.offer batch))
      = fun j batch => Refused j batch → AtOnce j batch :=
    funext fun _ => funext fun _ => propext (imp_congr_right fun h => traceless_iff h)
  rw [hcond]
  refine ⟨Iff.rfl, fun options records hv hj ho => ?_⟩
  refine and_congr_right fun honce => ?_
  obtain ⟨hend, hopen⟩ := holds_offers hj ho honce
  rw [← hend.bounds] at hv ⊢
  exact readAll_holds_iff hv hopen hend rfl

/-- A record that is too large for a journal whose frames hold 64 bytes. -/
def oversizeRecord : Record := ⟨.ObservationRecord, List.replicate 1025 0⟩

/-- The options of such a journal. -/
def narrowOptions : JournalOpenOptions where
  limits := { maxFrameBytes := 64 }

/-- After a batch that is accepted, one that starts with a record too large leaves nothing. -/
theorem refused_batches_at_once :
    Along offer (fun j batch => Refused j batch → Traceless j (j.offer batch)) (create [] narrowOptions)
        [[sampleRecord 1], [oversizeRecord, sampleRecord 2]] ∧
      (exec offer (create [] narrowOptions) [[sampleRecord 1], [oversizeRecord, sampleRecord 2]]).readAll.2
        = .ok ([] ++ accepted (create [] narrowOptions) [[sampleRecord 1], [oversizeRecord, sampleRecord 2]]) := by
  have hfirst : ((create [] narrowOptions).append [sampleRecord 1]).2 = .ok () := by decide
  have haccepted : accepted (create [] narrowOptions) [[sampleRecord 1], [oversizeRecord, sampleRecord 2]]
      = [sampleRecord 1] := by decide +kernel
  refine ((refused_batches_iff _ _).2 narrowOptions [] (Limits.valid_of_validate (by with_unfolding_all decide))
    (holds_create [] narrowOptions) rfl).2 ⟨⟨?_, fun _ => .inr ⟨_, _, rfl, by decide +kernel⟩, trivial⟩, ?_⟩
  · rintro ⟨e, he, -⟩
    rw [hfirst] at he
    cases he
  · rw [haccepted]
    exact ⟨by with_unfolding_all decide, by with_unfolding_all decide, by decide⟩

/-- **A refused batch leaves the records in front of the one that is too large**, and they are read back. -/
theorem refused_batch_can_leave_records : ¬ ∀ (path : Str) (options : JournalOpenOptions) (fresh : Journal)
    (batch : List Record), openFile path none options = .ok fresh → Refused fresh batch →
    Traceless fresh (fresh.append batch).1 ∧ (fresh.append batch).1.readAll.2 = fresh.readAll.2 := by
  intro h
  have hfresh : openFile [] none narrowOptions = .ok (create [] narrowOptions) :=
    openFile_fresh (by decide) rfl rfl
  have hrefused : Refused (create [] narrowOptions) [sampleRecord 1, oversizeRecord] :=
    ⟨limitExceeded "record payload exceeds the configured bound", by decide +kernel, rfl⟩
  have hread := (h [] narrowOptions _ _ hfresh hrefused).2
  have hleft : ((create [] narrowOptions).append [sampleRecord 1, oversizeRecord]).1.readAll.2
      = .ok [sampleRecord 1] := by decide +kernel
  have hempty : (create [] narrowOptions).readAll.2 = .ok [] := by decide +kernel
  rw [hleft, hempty] at hread
  cases hread

end Journal

end FlowObs
