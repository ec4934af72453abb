import FlowObs.Engine.Journaled
import FlowObs.Persist.Snapshots

/-!
# Reading back what the engine writes

The engine writes observations and snapshots under the bounds of its own checks, and reads them under those of its
decoders. An appended observation is decoded exactly when its optional keys are within `max_key_bytes`
(`appended_decodes_iff`), a snapshot exactly when it is within the bounds of the reader (`snapshot_rereads_iff`).
-/

namespace FlowObs

/-- The optional keys of a subject are within the bound on keys. -/
structure ObservationSubject.KeysBounded (limits : Limits) (s : ObservationSubject) : Prop where
  endpointKey : s.endpointKey.length ≤ limits.maxKeyBytes.toNat
  peerEndpointKey : s.peerEndpointKey.length ≤ limits.maxKeyBytes.toNat
  pathKey : s.pathKey.length ≤ limits.maxKeyBytes.toNat
  queueKey : s.queueKey.length ≤ limits.maxKeyBytes.toNat
  linkKey : s.linkKey.length ≤ limits.maxKeyBytes.toNat

/-- What validation checks of the lengths: the key of the flow and the number of hops. -/
theorem validateObservation_bounds {limits : Limits} {o : Observation} (h : validateObservation limits o = .ok ()) :
    o.subject.flowKey.length ≤ limits.maxKeyBytes.toNat ∧
    o.subject.hopCapacityUnits.length ≤ limits.maxPathHops.toNat := by
  simp only [validateObservation, require_bind_ok, decide_eq_true_eq] at h
  obtain ⟨-, -, -, -, -, hkey, -, -, -, -, -, -, -, hhops, -⟩ := h
  exact ⟨hkey, hhops⟩

/-- **A validated observation is within the decoder's bounds exactly when its optional keys are.** -/
theorem decodable_iff_keysBounded {limits : Limits} {o : Observation} (h : validateObservation limits o = .ok ()) :
    o.Decodable limits ↔ o.subject.KeysBounded limits := by
  obtain ⟨hkey, hhops⟩ := validateObservation_bounds h
  constructor
  · intro hd
    exact ⟨hd.endpointKey, hd.peerEndpointKey, hd.pathKey, hd.queueKey, hd.linkKey⟩
  · intro hb
    exact ⟨hhops, hkey, hb.endpointKey, hb.peerEndpointKey, hb.pathKey, hb.queueKey, hb.linkKey⟩

namespace Engine

/-! ## Observations -/

/-- An observation passes validation and is appended to the journal. -/
structure Appends (e : Engine) (incoming : Observation) : Prop where
  journaled : e.journal.isSome = true
  live : e.replaying = false
  valid : validateObservation e.config.limits incoming = .ok ()
  appended : (e.received.appendObservation (prepare e.instant incoming)).2 = .ok ()

/-- The payload that is appended for an observation. -/
def appendedPayload (e : Engine) (incoming : Observation) : List UInt8 := encodeObservation (prepare e.instant incoming)

/-- **When an appended observation is decoded**, under the same limits, to what it was but for its source key. -/
theorem appended_decodes_iff {e : Engine} {incoming : Observation} (hc : e.config.limits.validate = .ok ())
    (h : e.Appends incoming) :
    Binary.exactly (decodeObservation e.config.limits) () () (e.appendedPayload incoming)
        = .ok { prepare e.instant incoming with sourceKey := [] } ↔ incoming.subject.KeysBounded e.config.limits := by
  obtain ⟨hkey, -⟩ := (Limits.valid_of_validate hc).lt_width
  rw [Binary.exactly_ok, appendedPayload, decodeObservation_encode_iff hkey, ← decodable_iff_keysBounded h.valid]
  constructor
  · intro hd
    obtain ⟨h₁, h₂, h₃, h₄, h₅, h₆, h₇⟩ := hd
    exact ⟨h₁, h₂, h₃, h₄, h₅, h₆, h₇⟩
  · intro hd
    obtain ⟨h₁, h₂, h₃, h₄, h₅, h₆, h₇⟩ := hd
    exact ⟨h₁, h₂, h₃, h₄, h₅, h₆, h₇⟩

/-- An engine in use with a journal. -/
def journaledEngine : Engine := ({ config := { journalPath := [106] }, clock := ⟨1000⟩ } : Engine).openEngine.1

theorem journaledEngine_appends :
    journaledEngine.Appends (sampleObservation (sourceIdFromKey (str "a")) .Progress 1 ⟨1000⟩) :=
  ⟨by decide +kernel, by decide +kernel, by decide +kernel, by decide +kernel⟩

/-- The sample observation is decoded as it was appended. -/
theorem appended_decodes_sample : Binary.exactly (decodeObservation journaledEngine.config.limits) () ()
      (journaledEngine.appendedPayload (sampleObservation (sourceIdFromKey (str "a")) .Progress 1 ⟨1000⟩))
    = .ok { prepare journaledEngine.instant (sampleObservation (sourceIdFromKey (str "a")) .Progress 1 ⟨1000⟩) with
        sourceKey := [] } :=
  (appended_decodes_iff (by decide +kernel) journaledEngine_appends).2
    ⟨by decide +kernel, by decide +kernel, by decide +kernel, by decide +kernel, by decide +kernel⟩

/-- An observation whose endpoint key is one byte over the default bound. -/
def longKeyObservation : Observation :=
  let obs := sampleObservation (sourceIdFromKey (str "a")) .Progress 1 ⟨1000⟩
  { obs with subject := { obs.subject with endpointKey := List.replicate 257 0 } }

/-- **An observation with a long endpoint key is appended and cannot be decoded.** -/
theorem appended_can_fail : ¬ ∀ (e : Engine) (incoming : Observation), e.Reachable → e.Appends incoming →
    Binary.exactly (decodeObservation e.config.limits) () () (e.appendedPayload incoming)
      = .ok { prepare e.instant incoming with sourceKey := [] } := by
  intro h
  have hopen : ({ config := { journalPath := [106] }, clock := ⟨1000⟩ } : Engine).openEngine.2 = .ok () := 
    opens_new_iff.2 (EngineConfig.validate_default _)
  have happends : journaledEngine.Appends longKeyObservation :=
    ⟨by decide +kernel, by decide +kernel, by decide +kernel, by decide +kernel⟩
  have hdecode := h journaledEngine longKeyObservation (.opened { journalPath := [106] } ⟨1000⟩ hopen) happends
  have hlong := (ensures_decodeObservation _ _ _ _ (Binary.exactly_ok.1 hdecode)).endpointKey
  revert hlong
  decide +kernel

/-! ## Snapshots -/

/-- The records are read back from a file, and decoded to the state they were written from. -/
def Rereads (e : Engine) (path : Str) (bytes : List UInt8) (records : List Record) (s : PersistedState) : Prop :=
  ∃ k, Journal.openFile path (some bytes) e.loadOptions = .ok k ∧ k.readAll.2 = .ok records ∧
    decodeState records e.config.limits e.config.recovery = .ok s

/-- The state is within the bounds of the decoder, and the records that encode it within those of the journal reader. -/
structure WithinReader (e : Engine) (records : List Record) : Prop where
  decodable : e.persistState.Decodable e.config.limits e.config.recovery
  payloads : ∀ r ∈ records, r.payload.length ≤ maxPayload e.config.limits
  count : records.length ≤ recordCap e.config.limits

section Snapshot

variable {e : Engine} {records : List Record}

/-- The size of a snapshot is bounded when it is encoded. -/
theorem readable_iff (hw : encodeState e.persistState e.config.limits = .ok records) :
    Journal.Readable e.config.limits records ↔
      (∀ r ∈ records, r.payload.length ≤ maxPayload e.config.limits) ∧ records.length ≤ recordCap e.config.limits := by
  obtain ⟨hvalid, -, -, hsize, -⟩ := encodeState_ok.1 hw
  have hmin := UInt64.lt_iff_toNat_lt.1 (Limits.valid_of_validate hvalid).journalBytes
  have hbase : (4096 : UInt64).toNat = 4096 := rfl
  have htwo : (2 : UInt64).toNat = 2 := rfl
  rw [UInt64.toNat_div, htwo] at hsize
  constructor
  · exact fun h => h.2
  · intro h
    refine ⟨?_, h⟩
    rw [kHeaderBytes]
    omega

/-- A file of the records is read back and decoded exactly when they are within the bounds of both readers. -/
theorem rereads_iff {options : JournalOpenOptions} {j : Journal} (path : Str)
    (hw : encodeState e.persistState e.config.limits = .ok records) (hj : Journal.Holds options j records) :
    e.Rereads path j.file.bytes records e.persistState ↔ e.WithinReader records := by
  obtain ⟨hvalid, -⟩ := encodeState_ok.1 hw
  obtain ⟨k, hattach, hk, ho, hbytes⟩ := Journal.attach_holds path e.loadOptions hj
  have hlimits : k.limits = e.config.limits := hk
  have hopen : Journal.openFile path (some j.file.bytes) e.loadOptions = .ok k := by
    have hcheck : e.loadOptions.limits.validate = .ok () := hvalid
    simp only [Journal.openFile, hcheck, ok_bind, show e.loadOptions.truncateExisting = false from rfl, Bool.false_and,
      Bool.false_eq_true, if_false, hattach]
  have hread := Journal.readAll_holds_iff (hlimits ▸ Limits.valid_of_validate hvalid) ho hj hbytes
  rw [hlimits, readable_iff hw] at hread
  have hdecode : decodeState records e.config.limits e.config.recovery = .ok e.persistState ↔ _ :=
    decodeState_encodeState_iff hw
  constructor
  · rintro ⟨k', hopen', hread', hdecode'⟩
    obtain rfl : k = k' := Except.ok.inj (hopen.symm.trans hopen')
    obtain ⟨hpayload, hcount⟩ := hread.1 hread'
    exact ⟨hdecode.1 hdecode', hpayload, hcount⟩
  · intro hwithin
    exact ⟨k, hopen, hread.2 ⟨hwithin.payloads, hwithin.count⟩, hdecode.2 hwithin.decodable⟩

/-- What is in the file that `save_snapshot` writes. -/
theorem saveSnapshot_holds {path : Str} {existing : Option (List UInt8)} {j : Journal}
    (hw : encodeState e.persistState e.config.limits = .ok records) (h : e.saveSnapshot path existing = .ok j) :
    ∃ options, Journal.Holds options j records := by
  simp only [saveSnapshot, hw, ok_bind, bind_ok, pure_eq_ok] at h
  obtain ⟨fresh, hfresh, _, happend, _, hflush, _, hclose, h⟩ := h
  cases h
  have hnew : fresh = Journal.create path
      { limits := e.config.limits, recovery := e.config.recovery, truncateExisting := true } := by
    unfold Journal.openFile at hfresh
    rw [bind_ok] at hfresh
    obtain ⟨_, -, hfresh⟩ := hfresh
    cases existing with
    | none => exact (Except.ok.inj hfresh).symm
    | some bytes => exact (Except.ok.inj hfresh).symm
  have hempty := Journal.holds_create path
    { limits := e.config.limits, recovery := e.config.recovery, truncateExisting := true }
  rw [← hnew] at hempty
  have hset : Journal.Holds { limits := e.config.limits, recovery := e.config.recovery, truncateExisting := true }
      (fresh.setEpoch e.persistState.runtimeEpoch e.persistState.createdAt) [] :=
    ⟨hempty.disk, hempty.version, hempty.scheme, hempty.atEnd, hempty.writable, hempty.bounds⟩
  have happended := Journal.holds_append hset happend
  rw [List.nil_append] at happended
  exact ⟨_, Journal.holds_close (Journal.holds_flush happended)⟩

/-- What is in the journal after it was compacted. -/
theorem compactLocked_holds (h : e.Reachable) {j j' : Journal}
    (hw : encodeState e.persistState e.config.limits = .ok records)
    (hj : e.journal = some j) (hj' : e.compactLocked.1.journal = some j') : ∃ options,
    Journal.Holds options j' records := by
  obtain ⟨old, hheld⟩ := (h.journaled.handle j hj).file
  have hrewrite : Journal.Holds _ (j.rewrite records e.epoch e.openedAt).1 records := Journal.holds_rewrite hheld
  unfold compactLocked at hj'
  simp only [hj, hw] at hj'
  split at hj'
  all_goals
    rename_i hr
    rw [hr] at hrewrite
    cases hj'
    exact ⟨_, hrewrite⟩

/-- **When a snapshot is read back**, from the file of `save_snapshot` or from the compacted journal: exactly when it is
within the bounds of the readers. -/
theorem snapshot_rereads_iff (h : e.Reachable) (hw : encodeState e.persistState e.config.limits = .ok records) :
    (∀ path existing j, e.saveSnapshot path existing = .ok j →
      (e.Rereads path j.file.bytes records e.persistState ↔ e.WithinReader records)) ∧
    (∀ path j j', e.journal = some j → e.compactLocked.1.journal = some j' →
      (e.Rereads path j'.file.bytes records e.persistState ↔ e.WithinReader records)) := by
  constructor
  · intro path existing j hsave
    obtain ⟨options, hj⟩ := saveSnapshot_holds hw hsave
    exact rereads_iff path hw hj
  · intro path j j' hj hj'
    obtain ⟨options, hj⟩ := compactLocked_holds h hw hj hj'
    exact rereads_iff path hw hj

/-! ## Opening what was compacted -/

/-- What opening leaves when the file holds the snapshot of a state. -/
def openFrom (e : Engine) (s : PersistedState) : Engine × Except Error Unit :=
  match Journal.openFile e.config.journalPath e.disk { limits := e.config.limits, recovery := e.config.recovery } with
  | .error err => (e, .error err)
  | .ok j =>
    let read := (j.setEpoch ⟨j.header.runtimeEpoch.value + 1⟩ e.now).readAll.1
    let e := { e with openedAt := e.now, journal := some read, epoch := ⟨j.header.runtimeEpoch.value + 1⟩
                      snapshotSequence := s.snapshotSequence }
    match (e.restoreSources s.sources).restoreFlows j.header.runtimeEpoch s.flows with
    | (e, .error err) => (e, .error err)
    | (e, .ok ()) =>
      let e := e.replayAll j.header.runtimeEpoch []
      let e := e.recomputeAll e.now fun _ => true
      let e : Engine := { e with journal := e.journal.map (·.flush.1), frozen := false, isOpen := true }
      (e.tickLocked e.now, .ok ())

theorem openEngine_snapshot {s : PersistedState} {options : JournalOpenOptions} {j : Journal}
    (hvalid : e.config.validate = .ok ()) (hlimits : e.config.limits.validate = .ok ()) (hclosed : e.isOpen = false)
    (hnone : e.journal = none) (hpath : e.config.journalPath.isEmpty = false) (hrestore : e.config.restoreOnOpen = true)
    (hdisk : e.disk = some j.file.bytes) (hj : Journal.Holds options j records)
    (hreadable : Journal.Readable e.config.limits records) (hne : records ≠ [])
    (hreplay : replayRecords records e.config.limits e.config.recovery =
      .ok { state := s, sawSnapshot := true, snapshots := 1 })
    (hdigest : s.policyDigest = e.config.policyDigest) : e.openEngine = e.openFrom s := by
  obtain ⟨k, hattach, hk, ho, hbytes⟩ := Journal.attach_holds e.config.journalPath
    { limits := e.config.limits, recovery := e.config.recovery } hj
  have hopen : Journal.openFile e.config.journalPath e.disk
      { limits := e.config.limits, recovery := e.config.recovery } = .ok k := by
    simp only [Journal.openFile, hlimits, ok_bind, hdisk, Bool.false_and, Bool.false_eq_true, if_false, hattach]
  have hread : (k.setEpoch ⟨k.header.runtimeEpoch.value + 1⟩ e.now).readAll.2 = .ok records :=
    (Journal.readAll_holds_iff (k := k.setEpoch ⟨k.header.runtimeEpoch.value + 1⟩ e.now)
      (by show k.limits.Valid; rw [hk]; exact Limits.valid_of_validate hlimits) ho hj hbytes).2
      (by show Journal.Readable k.limits records; rw [hk]; exact hreadable)
  have hsome : (e.config.restoreOnOpen && !records.isEmpty) = true := by simpa [hrestore] using hne
  unfold openEngine openJournalLocked openFrom
  simp only [hvalid, hclosed, hpath, hnone, hopen, Option.any_none, journalFile_none, replaceJournal_none,
    Bool.false_eq_true, if_false]
  generalize (k.setEpoch ⟨k.header.runtimeEpoch.value + 1⟩ e.now).readAll = read at hread ⊢
  obtain ⟨k', status⟩ := read
  cases hread
  simp only [hsome, if_true, restoreLocked, hreplay, hdigest, bne_self_eq_false, Bool.and_false, Bool.false_eq_true,
    if_false]
  generalize restoreFlows _ k.header.runtimeEpoch s.flows = restored
  obtain ⟨e₁, err | _⟩ := restored
  · rfl
  · rfl

/-- **An engine that was compacted is opened again** with the state of its snapshot, by itself or by a new process. -/
theorem openEngine_compacted (h : e.Reachable) (hw : encodeState e.persistState e.config.limits = .ok records)
    (hin : e.WithinReader records) (hj : e.journal.isSome = true) (hpath : e.config.journalPath.isEmpty = false)
    (hrestore : e.config.restoreOnOpen = true) {e' : Engine} (hconfig : e'.config = e.config)
      (hclosed : e'.isOpen = false)
    (hnone : e'.journal = none) (hdisk : e'.disk = (e.step .compact).close.disk) :
    e'.openEngine = e'.openFrom e.persistState := by
  obtain ⟨j, hj⟩ := Option.isSome_iff_exists.1 hj
  have hopen : (e.step .compact).isOpen = true := step_isOpen e .compact h.reachedBy.isOpen
  obtain ⟨j', hj'⟩ : ∃ j', e.compactLocked.1.journal = some j' := by
    simp only [compactLocked, hj, hw]
    rcases j.rewrite records e.epoch e.openedAt with ⟨j', err | _⟩
    · exact ⟨j', rfl⟩
    · exact ⟨j', rfl⟩
  obtain ⟨options, hheld⟩ := compactLocked_holds h hw hj hj'
  have hbytes : (e.step .compact).close.disk = some j'.flush.1.close.1.file.bytes := by
    rw [close, if_neg (by simp [hopen])]
    have hstep : (e.step .compact).journal = some j' := hj'
    simp [count, hstep]
  obtain ⟨hvalid, -⟩ := encodeState_ok.1 hw
  have hne : records ≠ [] := by
    obtain ⟨g, rfl⟩ := encodeState_group hw
    simp [SnapshotGroup.records]
  refine openEngine_snapshot ?_ ?_ hclosed hnone ?_ ?_ (hdisk.trans hbytes)
    (Journal.holds_close (Journal.holds_flush hheld)) ?_
    hne ?_ ?_ <;> rw [hconfig]
  · exact h.validate
  · exact hvalid
  · exact hpath
  · exact hrestore
  · exact (readable_iff hw).2 ⟨hin.payloads, hin.count⟩
  · exact replayRecords_snapshot hw hin.decodable
  · rfl

theorem reopened_compacted (h : e.Reachable) (hw : encodeState e.persistState e.config.limits = .ok records)
    (hin : e.WithinReader records) (hj : e.journal.isSome = true) (hpath : e.config.journalPath.isEmpty = false)
    (hrestore : e.config.restoreOnOpen = true) :
    (e.step .compact).close.openEngine = (e.step .compact).close.openFrom e.persistState := by
  have hopen : (e.step .compact).isOpen = true := step_isOpen e .compact h.reachedBy.isOpen
  have hclosed : (e.step .compact).close.isOpen = false ∧ (e.step .compact).close.journal = none := by
    rw [close, if_neg (by simp [hopen])]
    cases (e.step .compact).journal <;> simp [count]
  exact openEngine_compacted h hw hin hj hpath hrestore
    ((close_config _).trans (step_config e .compact)) hclosed.1 hclosed.2 rfl

end Snapshot

/-- An observation with a link. -/
def linkedObservation (revision link : UInt64) : Observation :=
  let obs := sampleObservation (sourceIdFromKey (str "a")) .Progress revision ⟨1000⟩
  { obs with subject := { obs.subject with link := some ⟨link⟩ } }

/-- An engine whose paths have one hop at most. -/
def oneHopConfig : EngineConfig := { limits := { maxPathHops := 1 }, journalPath := [106] }

/-- An engine of that configuration that has seen two links of a flow. -/
def linkedEngine : Engine :=
  (({ config := oneHopConfig, clock := ⟨1000⟩ } : Engine).openEngine.1.step (.ingest (linkedObservation 1 7))).step
    (.ingest (linkedObservation 2 8))

theorem linkedEngine_reachable : linkedEngine.Reachable := by
  have hopen : ({ config := oneHopConfig, clock := ⟨1000⟩ } : Engine).openEngine.2 = .ok () := 
    opens_new_iff.2 (by decide)
  exact .step (.step (.opened oneHopConfig ⟨1000⟩ hopen) _) _

/-- The snapshot of that engine. -/
def linkedSnapshot : List Record := (encodeState linkedEngine.persistState linkedEngine.config.limits).toOption.getD []

theorem linkedSnapshot_written :
    encodeState linkedEngine.persistState linkedEngine.config.limits = .ok linkedSnapshot :=
  eq_ok_getD (by decide +kernel) []

/-- What is true of the snapshot of two links. -/
theorem snapshot_rereads_linked :
    (∀ path existing j, linkedEngine.saveSnapshot path existing = .ok j →
      (linkedEngine.Rereads path j.file.bytes linkedSnapshot linkedEngine.persistState ↔
        linkedEngine.WithinReader linkedSnapshot)) ∧
    (∀ path j j', linkedEngine.journal = some j → linkedEngine.compactLocked.1.journal = some j' →
      (linkedEngine.Rereads path j'.file.bytes linkedSnapshot linkedEngine.persistState ↔
        linkedEngine.WithinReader linkedSnapshot)) :=
  snapshot_rereads_iff linkedEngine_reachable linkedSnapshot_written

/-- **A snapshot with more links than hops of a path is written and cannot be read back.** -/
theorem snapshot_can_fail : ¬ ∀ (e : Engine) (records : List Record) (path : Str) (existing : Option (List UInt8))
    (j : Journal), e.Reachable → encodeState e.persistState e.config.limits = .ok records →
    e.saveSnapshot path existing = .ok j → e.Rereads path j.file.bytes records e.persistState := by
  intro h
  have hok : (linkedEngine.saveSnapshot [] none).isOk = true := by decide +kernel
  cases hsave : linkedEngine.saveSnapshot [] none with
  | error err =>
    rw [hsave] at hok
    cases hok
  | ok j =>
    have hreread := h linkedEngine linkedSnapshot [] none j linkedEngine_reachable linkedSnapshot_written hsave
    obtain ⟨options, hj⟩ := saveSnapshot_holds linkedSnapshot_written hsave
    have hdecodable := ((rereads_iff [] linkedSnapshot_written hj).1 hreread).decodable
    revert hdecodable
    decide +kernel

end Engine

end FlowObs
