import FlowObs.Persist.FlowCodec
import Mathlib.Tactic.IntervalCases

/-!
# Snapshots and replay

A snapshot is a group of records: a begin record, the limits in force, one record for each source and each flow, and an
end record with a running digest and the counts (`encodeState`, `decodeState`). `replayRecords` folds a journal's
records: a snapshot group replaces the state, bare records are applied in order. What `encodeState` writes is decoded to
the same state when the state is within the reader's bounds (`decodeState_encodeState`).
-/

namespace FlowObs

open Binary

/-! ## Records -/

/-- `journal::RecordKind`. -/
inductive RecordKind
  | SnapshotBegin | SourceDescriptor | Flow | SnapshotEnd | LimitsRecord | EngineCounters | Tombstone
  | ObservationRecord
deriving DecidableEq, Repr, Inhabited

def RecordKind.toU16 : RecordKind → UInt16
  | .SnapshotBegin => 1 | .SourceDescriptor => 2 | .Flow => 3 | .SnapshotEnd => 4 | .LimitsRecord => 5
  | .EngineCounters => 6 | .Tombstone => 7 | .ObservationRecord => 8

/-- `is_known_record_kind` with the kind. -/
def RecordKind.ofU16? (raw : UInt16) : Option RecordKind :=
  [none, some .SnapshotBegin, some .SourceDescriptor, some .Flow, some .SnapshotEnd, some .LimitsRecord,
    some .EngineCounters, some .Tombstone, some .ObservationRecord].getD raw.toNat none

@[simp] theorem RecordKind.ofU16?_toU16 (k : RecordKind) : RecordKind.ofU16? k.toU16 = some k := by cases k <;> rfl

theorem RecordKind.toU16_of_ofU16? {raw : UInt16} {k : RecordKind} (h : RecordKind.ofU16? raw = some k) :
    raw = k.toU16 := by
  have hlt : raw.toNat < 9 := by
    by_contra hge
    rw [RecordKind.ofU16?, List.getD_eq_getElem?_getD, List.getElem?_eq_none (by simpa using hge)] at h
    cases h
  obtain ⟨n, hn⟩ : ∃ n, raw.toNat = n := ⟨_, rfl⟩
  obtain rfl : raw = UInt16.ofNat n := by rw [← hn, UInt16.ofNat_toNat]
  rw [hn] at hlt
  interval_cases n <;> cases h <;> rfl

/-- `journal::Record`. -/
structure Record where
  kind : RecordKind := .SnapshotBegin
  payload : List UInt8 := []
deriving DecidableEq, Repr, Inhabited

/-- `kRecordHeaderBytes`. -/
def kRecordHeaderBytes : Nat := 12

/-! ## The limits record -/

/-- The names that `Limits::describe` prints, in declaration order. -/
def limitNames : List Str :=
  [str "max_flows", str "max_sources", str "max_generations_per_flow", str "max_paths_per_flow",
    str "max_queues_per_flow", str "max_path_hops", str "max_observations_per_source_flow",
    str "max_history_per_flow", str "max_history_flows", str "max_anomalies_per_flow", str "max_sources_per_flow",
    str "max_pending_observations", str "max_ingest_batch", str "worker_threads", str "max_result_set",
    str "max_journal_bytes", str "max_key_bytes", str "max_detail_bytes", str "max_frame_bytes",
    str "max_connections", str "max_aggregation_window_ns", str "max_clock_skew_ns", str "max_ingest_records"]

/-- The values of the limits, in the same order. -/
def Limits.values (l : Limits) : List UInt64 :=
  [l.maxFlows.toUInt64, l.maxSources.toUInt64, l.maxGenerationsPerFlow.toUInt64, l.maxPathsPerFlow.toUInt64,
    l.maxQueuesPerFlow.toUInt64, l.maxPathHops.toUInt64, l.maxObservationsPerSourceFlow.toUInt64,
    l.maxHistoryPerFlow.toUInt64, l.maxHistoryFlows.toUInt64, l.maxAnomaliesPerFlow.toUInt64,
    l.maxSourcesPerFlow.toUInt64, l.maxPendingObservations, l.maxIngestBatch, l.workerThreads.toUInt64,
    l.maxResultSet, l.maxJournalBytes, l.maxKeyBytes, l.maxDetailBytes, l.maxFrameBytes, l.maxConnections.toUInt64,
    l.maxAggregationWindow.nanos.toUInt64, l.maxClockSkew.nanos.toUInt64, l.maxIngestRecords]

/-- `Limits::describe`: one `key=value` on a line. -/
def Limits.describe (l : Limits) : Str :=
  (limitNames.zip l.values).flatMap (fun p => p.1 ++ str "=" ++ decimal p.2.toNat ++ [10])

theorem length_decimal_le (v : UInt64) : (decimal v.toNat).length ≤ 20 := by
  rw [decimal, List.length_map, Nat.length_toDigits_le_iff (by norm_num) (by norm_num)]
  exact lt_of_lt_of_le v.toNat_lt (by norm_num)

theorem length_flatMap_le {α : Type} {f : α → Str} {n : Nat} : ∀ {l : List α}, (∀ a ∈ l, (f a).length ≤ n) →
    (l.flatMap f).length ≤ l.length * n
  | [], _ => by simp
  | a :: l, h => by
    have ha := h a List.mem_cons_self
    have ih := length_flatMap_le (fun b hb => h b (List.mem_cons_of_mem a hb))
    simp only [List.flatMap_cons, List.length_append, List.length_cons, Nat.add_one_mul]
    omega

/-- The text of the limits fits in the limits record. -/
theorem Limits.length_describe_le (l : Limits) : l.describe.length ≤ 8192 := by
  have hn : ∀ n ∈ limitNames, n.length ≤ 40 := by with_unfolding_all decide
  have he : (str "=").length = 1 := by with_unfolding_all decide
  have hl : ∀ p ∈ limitNames.zip l.values, (p.1 ++ str "=" ++ decimal p.2.toNat ++ [10]).length ≤ 62 := by
    rintro ⟨n, v⟩ hp
    have h1 := hn n (List.of_mem_zip hp).1
    have h2 := length_decimal_le v
    simp only [List.length_append, he, List.length_cons, List.length_nil]
    omega
  rw [Limits.describe]
  refine le_trans (length_flatMap_le hl) ?_
  simp [limitNames, Limits.values]

/-! ## Writing a snapshot -/

/-- The fields of a state before its lists. -/
def putStateHead (s : PersistedState) : List UInt8 :=
  u16 s.formatVersion ++ u32 s.identityScheme ++ u32 s.schemaVersion ++ u64 s.policyDigest ++ putNum s.runtimeEpoch
    ++ putTime s.createdAt ++ putTime s.snapshotAt ++ u64 s.snapshotSequence

def readStateHead : Reader PersistedState := do
  let formatVersion ← readU16
  let identityScheme ← readU32
  let schemaVersion ← readU32
  let policyDigest ← readU64
  let runtimeEpoch ← readNum .runtimeEpoch
  let createdAt ← readTime
  let snapshotAt ← readTime
  let snapshotSequence ← readU64
  pure { formatVersion, identityScheme, schemaVersion, policyDigest, runtimeEpoch, createdAt, snapshotAt
         snapshotSequence }

theorem readStateHead_put (s : PersistedState) :
    readStateHead.run (putStateHead s) = some ({ s with sources := [], flows := [] }, []) := by
  have h : ∀ rest : List UInt8, readStateHead.run (putStateHead s ++ rest)
      = some ({ s with sources := [], flows := [] }, rest) := fun rest => by
    simp [readStateHead, putStateHead, List.append_assoc]
  simpa using h []

/-- The records of a state before the end record. -/
def stateRecords (s : PersistedState) (limits : Limits) : List Record :=
  ⟨.SnapshotBegin, putStateHead s⟩ :: ⟨.LimitsRecord, blob limits.describe⟩
    :: s.sources.map (fun d => ⟨.SourceDescriptor, writeSourceDescriptor d⟩)
    ++ s.flows.map (fun f => ⟨.Flow, writePersistedFlow f⟩)

/-- The running digest of a group. -/
def groupDigest (records : List Record) : UInt64 :=
  records.foldl (fun running r => (crc32c r.payload).toUInt64 ^^^ (running * 1099511628211)) 0

/-- The payload of the end record. -/
def putStateEnd (digest : UInt64) (sources flows : Nat) : List UInt8 :=
  u64 digest ++ u32 (UInt32.ofNat sources) ++ u32 (UInt32.ofNat flows)

def readStateEnd : Reader (UInt64 × UInt32 × UInt32) := do
  let expected ← readU64
  let sources ← readU32
  let flows ← readU32
  pure (expected, sources, flows)

/-- The bytes that a record takes in the journal. -/
def Record.size (r : Record) : Nat := kRecordHeaderBytes + r.payload.length

/-- `encode_state`. -/
def encodeState (s : PersistedState) (limits : Limits) : Except Error (List Record) := do
  limits.validate
  require (s.flows.length ≤ limits.maxFlows.toNat) (limitExceeded "snapshot contains more flows than limits.max_flows")
  require (s.sources.length ≤ limits.maxSources.toNat)
    (limitExceeded "snapshot contains more sources than limits.max_sources")
  let records := stateRecords s limits
  let out := records ++ [⟨.SnapshotEnd, putStateEnd (groupDigest records) s.sources.length s.flows.length⟩]
  require ((out.map Record.size).sum ≤ (limits.maxJournalBytes / 2).toNat)
    (limitExceeded "encoded snapshot exceeds half of limits.max_journal_bytes")
  pure out

/-! ## Reading a snapshot -/

/-- A payload that must be read to its end. -/
def payload {α : Type} (read : Reader α) (code : ErrorCode) (message : String) (r : Record) : Except Error α :=
  exactly read ⟨code, str message⟩ ⟨code, str message⟩ r.payload

/-- One record inside a snapshot group. -/
def decodeMember (limits : Limits) (s : PersistedState) (r : Record) : Except Error PersistedState :=
  match r.kind with
  | .LimitsRecord => do
    let _ ← payload (readBlob 8192) .FormatMismatch "bad limits record" r
    pure s
  | .SourceDescriptor => do
    let d ← payload (readSourceDescriptor limits.maxKeyBytes.toNat) .FormatMismatch "bad source descriptor record" r
    require (s.sources.length < limits.maxSources.toNat)
      (limitExceeded "snapshot contains more sources than limits.max_sources")
    pure { s with sources := s.sources ++ [d] }
  | .Flow => do
    let f ← payload (readPersistedFlow limits) .FormatMismatch "bad flow record" r
    require (s.flows.length < limits.maxFlows.toNat)
      (limitExceeded "snapshot contains more flows than limits.max_flows")
    pure { s with flows := s.flows ++ [f] }
  | .EngineCounters | .Tombstone | .ObservationRecord =>
    .error ⟨.FormatMismatch, str "observation record inside a snapshot group"⟩
  | .SnapshotBegin | .SnapshotEnd =>
    .error ⟨.FormatMismatch, str "snapshot group contains a nested begin/end record"⟩

/-- `decode_state`, on a group given as its first record, its members and its last record. -/
def decodeGroup (begin_ : Record) (members : List Record) (end_ : Record) (limits : Limits)
    (recovery : RecoveryPolicy) : Except Error PersistedState := do
  require (begin_.kind = .SnapshotBegin) ⟨.FormatMismatch, str "snapshot group does not begin with SnapshotBegin"⟩
  require (end_.kind = .SnapshotEnd) ⟨.IntegrityFailure, str "snapshot group is incomplete: missing SnapshotEnd"⟩
  let s ← exactly readStateHead ⟨.FormatMismatch, str "bad begin payload"⟩
    ⟨.FormatMismatch, str "SnapshotBegin payload has trailing bytes"⟩ begin_.payload
  require (!(recovery.enforceFormatVersion
      && (kJournalFormatVersion < s.formatVersion || s.formatVersion < kJournalMinReadableVersion)))
    ⟨.VersionMismatch, str "snapshot format version is not supported"⟩
  require (!(recovery.enforceIdentityScheme && s.identityScheme != kIdentitySchemeVersion))
    ⟨.VersionMismatch, str "snapshot identity scheme does not match"⟩
  let e ← exactly readStateEnd ⟨.FormatMismatch, str "bad SnapshotEnd payload"⟩
    ⟨.FormatMismatch, str "SnapshotEnd payload has trailing bytes"⟩ end_.payload
  require (e.1 = groupDigest (begin_ :: members))
    ⟨.IntegrityFailure, str "snapshot group digest mismatch: the record group is not the one that was written"⟩
  let s ← members.foldlM (decodeMember limits) s
  require (s.sources.length = e.2.1.toNat && s.flows.length = e.2.2.toNat)
    ⟨.IntegrityFailure, str "snapshot record counts do not match the SnapshotEnd declaration"⟩
  pure s

/-- `decode_state`. A group of one record is its own first and last one, and cannot be both kinds. -/
def decodeState (records : List Record) (limits : Limits) (recovery : RecoveryPolicy) :
    Except Error PersistedState :=
  match records with
  | [] => .error ⟨.IntegrityFailure, str "snapshot record group is empty"⟩
  | [r] => decodeGroup r [] r limits recovery
  | r :: rest => decodeGroup r rest.dropLast (rest.getLast?.getD r) limits recovery

/-! ## Replaying a journal -/

/-- Replace the first element that satisfies `p`. -/
def replaceFirst {α : Type} (p : α → Bool) (a : α) : List α → Option (List α)
  | [] => none
  | b :: l => if p b then some (a :: l) else (replaceFirst p a l).map (b :: ·)

/-- Replace the element that satisfies `p`, or append, within a bound. -/
def replaceOrAppend {α : Type} (p : α → Bool) (a : α) (l : List α) (bound : Nat) (e : Error) : Except Error (List α) :=
  match replaceFirst p a l with
  | some l => .ok l
  | none => if bound ≤ l.length then .error e else .ok (l ++ [a])

/-- `ReplayResult`. -/
structure ReplayResult where
  state : PersistedState := {}
  observations : List Observation := []
  snapshots : UInt64 := 0
  observationRecords : UInt64 := 0
  sourceRecords : UInt64 := 0
  sawSnapshot : Bool := false
deriving DecidableEq, Repr, Inhabited

/-- The replay so far, and the snapshot group that is being scanned, when one is open. -/
structure ReplayState where
  result : ReplayResult := {}
  group : Option (Record × List Record) := none

/-- A record outside every snapshot group. -/
def replayBare (limits : Limits) (result : ReplayResult) (r : Record) : Except Error ReplayResult :=
  match r.kind with
  | .SnapshotBegin | .SnapshotEnd => .error ⟨.FormatMismatch, str "SnapshotEnd without SnapshotBegin"⟩
  | .SourceDescriptor => do
    let d ← payload (readSourceDescriptor limits.maxKeyBytes.toNat) .IntegrityFailure
      "malformed source descriptor record" r
    let sources ← replaceOrAppend (fun e => e.id == d.id) d result.state.sources limits.maxSources.toNat
      (limitExceeded "journal declares more sources than limits.max_sources")
    pure { result with state := { result.state with sources := sources }, sourceRecords := result.sourceRecords + 1 }
  | .ObservationRecord => do
    let o ← payload (decodeObservation limits) .IntegrityFailure "malformed observation record" r
    require (result.observations.length < limits.maxIngestRecords.toNat)
      (limitExceeded "journal holds more observations than limits.max_ingest_records")
    pure { result with observations := result.observations ++ [o]
                       observationRecords := result.observationRecords + 1 }
  | .Flow => do
    let f ← payload (readPersistedFlow limits) .IntegrityFailure "malformed flow record" r
    let flows ← replaceOrAppend (fun e => e.id == f.id) f result.state.flows limits.maxFlows.toNat
      (limitExceeded "journal declares more flows than limits.max_flows")
    pure { result with state := { result.state with flows := flows } }
  | .LimitsRecord | .EngineCounters | .Tombstone => .ok result

/-- One record of the replay. A snapshot group is scanned to its end record and then replaces the state and drops the
observations before it. -/
def replayStep (limits : Limits) (recovery : RecoveryPolicy) (s : ReplayState) (r : Record) :
    Except Error ReplayState :=
  match s.group with
  | some (begin_, members) =>
    match r.kind with
    | .SnapshotBegin => .error ⟨.FormatMismatch, str "snapshot group contains a nested SnapshotBegin"⟩
    | .SnapshotEnd => do
      let state ← decodeState (begin_ :: members ++ [r]) limits recovery
      pure { result := { s.result with state := state, observations := [], sawSnapshot := true
                                       snapshots := s.result.snapshots + 1 } }
    | _ => .ok { s with group := some (begin_, members ++ [r]) }
  | none =>
    if r.kind = .SnapshotBegin then .ok { s with group := some (r, []) }
    else do
      let result ← replayBare limits s.result r
      pure { result := result }

/-- `replay_records`. -/
def replayRecords (records : List Record) (limits : Limits) (recovery : RecoveryPolicy) :
    Except Error ReplayResult := do
  let s ← records.foldlM (replayStep limits recovery) {}
  match s.group with
  | some _ => .error ⟨.IntegrityFailure, str "snapshot group is not closed by SnapshotEnd"⟩
  | none => pure s.result

/-! ## Round trip -/

/-- The bounds that reading back a snapshot checks. -/
structure PersistedState.Decodable (limits : Limits) (recovery : RecoveryPolicy) (s : PersistedState) : Prop where
  version : recovery.enforceFormatVersion = true → s.formatVersion = kJournalFormatVersion
  scheme : recovery.enforceIdentityScheme = true → s.identityScheme = kIdentitySchemeVersion
  sources : ∀ d ∈ s.sources, d.canonicalKey.length ≤ limits.maxKeyBytes.toNat
  flows : ∀ f ∈ s.flows, f.Decodable limits

instance (limits : Limits) (recovery : RecoveryPolicy) (s : PersistedState) : Decidable (s.Decodable limits recovery) :=
  decidable_of_iff ((recovery.enforceFormatVersion = true → s.formatVersion = kJournalFormatVersion) ∧
      (recovery.enforceIdentityScheme = true → s.identityScheme = kIdentitySchemeVersion) ∧
      (∀ d ∈ s.sources, d.canonicalKey.length ≤ limits.maxKeyBytes.toNat) ∧ ∀ f ∈ s.flows, f.Decodable limits)
    ⟨fun ⟨a, b, c, d⟩ => ⟨a, b, c, d⟩, fun ⟨a, b, c, d⟩ => ⟨a, b, c, d⟩⟩

theorem decodeMember_sources {limits : Limits} (hk : limits.maxKeyBytes.toNat < 2 ^ 32) :
    ∀ (ds : List SourceDescriptor) (s : PersistedState), (∀ d ∈ ds, d.canonicalKey.length ≤ limits.maxKeyBytes.toNat) →
      s.sources.length + ds.length ≤ limits.maxSources.toNat →
      (ds.map (fun d => (⟨.SourceDescriptor, writeSourceDescriptor d⟩ : Record))).foldlM (decodeMember limits) s
        = .ok { s with sources := s.sources ++ ds }
  | [], s, _, _ => by simp
  | d :: ds, s, h, hn => by
    have hr : (readSourceDescriptor limits.maxKeyBytes.toNat).run (writeSourceDescriptor d) = some (d, []) := by
      simpa using readSourceDescriptor_write (h d List.mem_cons_self) hk []
    have hlt : s.sources.length < limits.maxSources.toNat := by simp at hn; omega
    have hd : decodeMember limits s ⟨.SourceDescriptor, writeSourceDescriptor d⟩
        = .ok { s with sources := s.sources ++ [d] } := by
      simp only [decodeMember, payload, exactly_of_run hr, require, hlt, decide_true, if_true]
      rfl
    have ih := decodeMember_sources hk ds { s with sources := s.sources ++ [d] }
      (fun e he => h e (List.mem_cons_of_mem _ he)) (by simp at hn ⊢; omega)
    rw [List.map_cons, List.foldlM_cons, hd, ok_bind, ih]
    simp [List.append_assoc]

theorem decodeMember_flows {limits : Limits} (hk : limits.maxKeyBytes.toNat < 2 ^ 32)
    (hd : limits.maxDetailBytes.toNat < 2 ^ 32) :
    ∀ (fs : List PersistedFlow) (s : PersistedState), (∀ f ∈ fs, f.Decodable limits) →
      s.flows.length + fs.length ≤ limits.maxFlows.toNat →
      (fs.map (fun f => (⟨.Flow, writePersistedFlow f⟩ : Record))).foldlM (decodeMember limits) s
        = .ok { s with flows := s.flows ++ fs }
  | [], s, _, _ => by simp
  | f :: fs, s, h, hn => by
    have hr : (readPersistedFlow limits).run (writePersistedFlow f) = some (f, []) := by
      simpa using readPersistedFlow_write hk hd (h f List.mem_cons_self) []
    have hlt : s.flows.length < limits.maxFlows.toNat := by simp at hn; omega
    have hd' : decodeMember limits s ⟨.Flow, writePersistedFlow f⟩ = .ok { s with flows := s.flows ++ [f] } := by
      simp only [decodeMember, payload, exactly_of_run hr, require, hlt, decide_true, if_true]
      rfl
    have ih := decodeMember_flows hk hd fs { s with flows := s.flows ++ [f] }
      (fun e he => h e (List.mem_cons_of_mem _ he)) (by simp at hn ⊢; omega)
    rw [List.map_cons, List.foldlM_cons, hd', ok_bind, ih]
    simp [List.append_assoc]

theorem readStateEnd_put (digest : UInt64) (sources flows : Nat) :
    readStateEnd.run (putStateEnd digest sources flows)
      = some ((digest, UInt32.ofNat sources, UInt32.ofNat flows), []) := by
  have h : ∀ rest : List UInt8, readStateEnd.run (putStateEnd digest sources flows ++ rest)
      = some ((digest, UInt32.ofNat sources, UInt32.ofNat flows), rest) := fun rest => by
    simp [readStateEnd, putStateEnd, List.append_assoc]
  simpa using h []

/-- What `encode_state` writes, and the bounds it has checked. -/
theorem encodeState_ok {limits : Limits} {s : PersistedState} {out : List Record} :
    encodeState s limits = .ok out ↔ limits.validate = .ok () ∧ s.flows.length ≤ limits.maxFlows.toNat ∧
      s.sources.length ≤ limits.maxSources.toNat ∧
      (out.map Record.size).sum ≤ (limits.maxJournalBytes / 2).toNat ∧
      out = stateRecords s limits ++ [⟨.SnapshotEnd,
        putStateEnd (groupDigest (stateRecords s limits)) s.sources.length s.flows.length⟩] := by
  rw [encodeState, bind_ok]
  simp only [require_bind_ok, decide_eq_true_eq, pure_eq_ok, Except.ok.injEq]
  constructor
  · rintro ⟨_, h1, h2, h3, h4, rfl⟩
    exact ⟨h1, h2, h3, h4, rfl⟩
  · rintro ⟨h1, h2, h3, h4, rfl⟩
    exact ⟨_, h1, h2, h3, h4, rfl⟩

theorem decodeState_append (r : Record) (members : List Record) (end_ : Record) (limits : Limits)
    (recovery : RecoveryPolicy) :
    decodeState (r :: members ++ [end_]) limits recovery = decodeGroup r members end_ limits recovery := by
  cases members with
  | nil => rfl
  | cons m ms =>
    have hl : (m :: ms ++ [end_]).dropLast = m :: ms := List.dropLast_concat
    have hg : (m :: ms ++ [end_]).getLast? = some end_ := List.getLast?_concat
    show decodeGroup r (m :: ms ++ [end_]).dropLast ((m :: ms ++ [end_]).getLast?.getD r) limits recovery = _
    rw [hl, hg]
    rfl

/-- **A snapshot that is within the reader's bounds is read back.** -/
theorem decodeState_encodeState {limits : Limits} {recovery : RecoveryPolicy} {s : PersistedState} {out : List Record}
    (h : encodeState s limits = .ok out) (hk : limits.maxKeyBytes.toNat < 2 ^ 32)
    (hd : limits.maxDetailBytes.toNat < 2 ^ 32) (hs : s.Decodable limits recovery) :
    decodeState out limits recovery = .ok s := by
  obtain ⟨-, hflows, hsources, -, rfl⟩ := encodeState_ok.1 h
  have hns : (UInt32.ofNat s.sources.length).toNat = s.sources.length := by
    simpa using Nat.mod_eq_of_lt (lt_of_le_of_lt hsources limits.maxSources.toNat_lt)
  have hnf : (UInt32.ofNat s.flows.length).toNat = s.flows.length := by
    simpa using Nat.mod_eq_of_lt (lt_of_le_of_lt hflows limits.maxFlows.toNat_lt)
  have hv : (recovery.enforceFormatVersion
      && (kJournalFormatVersion < s.formatVersion || s.formatVersion < kJournalMinReadableVersion)) = false := by
    cases hr : recovery.enforceFormatVersion with
    | false => rfl
    | true => rw [hs.version hr]; rfl
  have hi : (recovery.enforceIdentityScheme && s.identityScheme != kIdentitySchemeVersion) = false := by
    cases hr : recovery.enforceIdentityScheme with
    | false => rfl
    | true => rw [hs.scheme hr]; rfl
  have hblob : (readBlob 8192).run (blob limits.describe) = some (limits.describe, []) := by
    have h32 : limits.describe.length < 2 ^ 32 := lt_of_le_of_lt limits.length_describe_le (by norm_num)
    have h : (readBlob 8192).run (blob limits.describe ++ []) = _ := readBlob_blob limits.length_describe_le h32
    simpa using h
  have hlimits : decodeMember limits { s with sources := [], flows := [] } ⟨.LimitsRecord, blob limits.describe⟩
      = .ok { s with sources := [], flows := [] } := by
    simp [decodeMember, payload, exactly_of_run hblob]
  have hmembers : ((⟨.LimitsRecord, blob limits.describe⟩ : Record)
      :: s.sources.map (fun d => (⟨.SourceDescriptor, writeSourceDescriptor d⟩ : Record))
      ++ s.flows.map (fun f => (⟨.Flow, writePersistedFlow f⟩ : Record))).foldlM (decodeMember limits)
        { s with sources := [], flows := [] } = .ok s := by
    rw [List.cons_append, List.foldlM_cons, hlimits, ok_bind, List.foldlM_append,
      decodeMember_sources hk s.sources _ hs.sources (by simpa using hsources), ok_bind,
      decodeMember_flows hk hd s.flows _ hs.flows (by simpa using hflows)]
    rfl
  rw [stateRecords, List.cons_append, decodeState_append]
  simp only [decodeGroup, exactly_of_run (readStateHead_put s), exactly_of_run (readStateEnd_put _ _ _), hv, hi,
    hmembers, hns, hnf, ok_bind, require, decide_true, Bool.and_self, Bool.not_false, if_true, pure_eq_ok]

/-! ## What is decoded -/

/-- A member of a group adds what is within the bounds and changes nothing else. -/
theorem decodeMember_ok {limits : Limits} {recovery : RecoveryPolicy} {s s' : PersistedState} {r : Record}
    (h : decodeMember limits s r = .ok s') (hs : s.Decodable limits recovery) : s'.Decodable limits recovery := by
  unfold decodeMember at h
  cases hk : r.kind with
  | LimitsRecord =>
    simp only [hk, bind_ok, pure_eq_ok] at h
    obtain ⟨_, -, h⟩ := h
    cases h
    exact hs
  | SourceDescriptor =>
    simp only [hk, bind_ok, pure_eq_ok] at h
    obtain ⟨d, hd, _, -, h⟩ := h
    cases h
    have hbound : d.canonicalKey.length ≤ limits.maxKeyBytes.toNat :=
      ensures_readSourceDescriptor _ _ d _ (exactly_ok.1 hd)
    refine ⟨hs.version, hs.scheme, fun d' hd' => ?_, hs.flows⟩
    rcases List.mem_append.1 hd' with hd' | hd'
    · exact hs.sources d' hd'
    · exact List.mem_singleton.1 hd' ▸ hbound
  | Flow =>
    simp only [hk, bind_ok, pure_eq_ok] at h
    obtain ⟨f, hf, _, -, h⟩ := h
    cases h
    have hbound : f.Decodable limits := ensures_readPersistedFlow limits _ f _ (exactly_ok.1 hf)
    refine ⟨hs.version, hs.scheme, hs.sources, fun f' hf' => ?_⟩
    rcases List.mem_append.1 hf' with hf' | hf'
    · exact hs.flows f' hf'
    · exact List.mem_singleton.1 hf' ▸ hbound
  | _ => simp [hk] at h

/-- A state that begins a group is empty. -/
theorem ensures_readStateHead : Ensures readStateHead (fun s => s.sources = [] ∧ s.flows = []) := by
  refine ensures_skip fun _ => ensures_skip fun _ => ensures_skip fun _ => ensures_skip fun _ => ?_
  exact ensures_skip fun _ => ensures_skip fun _ => ensures_skip fun _ => ensures_skip fun _ => ensures_pure ⟨rfl, rfl⟩

/-- **A state that was decoded is within the bounds.** -/
theorem decodeState_ok {limits : Limits} {recovery : RecoveryPolicy} {records : List Record} {s : PersistedState}
    (h : decodeState records limits recovery = .ok s) : s.Decodable limits recovery := by
  have hgroup : ∀ first members last, decodeGroup first members last limits recovery = .ok s →
      s.Decodable limits recovery := by
    intro first members last h
    simp only [decodeGroup, bind_ok, pure_eq_ok] at h
    obtain ⟨_, -, _, -, head, hhead, _, hversion, _, hscheme, _, -, _, -, s', hmembers, _, -, h⟩ := h
    cases h
    replace hversion := require_ok.1 hversion
    replace hscheme := require_ok.1 hscheme
    have hempty : head.sources = [] ∧ head.flows = [] := ensures_readStateHead _ head _ (exactly_ok.1 hhead)
    refine foldlM_ok (P := fun s => s.Decodable limits recovery) (fun r _ s s' h hs => decodeMember_ok h hs) hmembers
      ⟨?_, ?_, ?_, ?_⟩
    · intro hr
      rw [hr] at hversion
      have hone : kJournalFormatVersion = 1 ∧ kJournalMinReadableVersion = 1 := ⟨rfl, rfl⟩
      simp only [hone.1, hone.2, Bool.true_and, Bool.not_eq_true', Bool.or_eq_false_iff, decide_eq_false_iff_not,
        UInt16.not_lt] at hversion
      exact UInt16.le_antisymm hversion.1 hversion.2
    · intro hr
      rw [hr] at hscheme
      simpa using hscheme
    · rw [hempty.1]
      exact fun _ h => nomatch h
    · rw [hempty.2]
      exact fun _ h => nomatch h
  unfold decodeState at h
  split at h
  · cases h
  · exact hgroup _ _ _ h
  · exact hgroup _ _ _ h

/-- **A snapshot is read back exactly when it is within the reader's bounds.** -/
theorem decodeState_encodeState_iff {limits : Limits} {recovery : RecoveryPolicy} {s : PersistedState}
    {out : List Record}
    (h : encodeState s limits = .ok out) : decodeState out limits recovery = .ok s ↔ s.Decodable limits recovery := by
  obtain ⟨hkey, hdetail⟩ := (Limits.valid_of_validate (encodeState_ok.1 h).1).lt_width
  exact ⟨decodeState_ok, decodeState_encodeState h hkey hdetail⟩

/-! ## The number of flows -/

theorem length_replaceFirst {α : Type} {p : α → Bool} {a : α} : ∀ {l l' : List α}, replaceFirst p a l = some l' →
    l'.length = l.length
  | [], _, h => by cases h
  | b :: l, l', h => by
    unfold replaceFirst at h
    split at h
    · cases h
      rfl
    · obtain ⟨rest, hrest, rfl⟩ := Option.map_eq_some_iff.1 h
      simp [length_replaceFirst hrest]

theorem length_replaceOrAppend {α : Type} {p : α → Bool} {a : α} {l l' : List α} {bound : Nat} {e : Error}
    (h : replaceOrAppend p a l bound e = .ok l') (hl : l.length ≤ bound) : l'.length ≤ bound := by
  unfold replaceOrAppend at h
  split at h
  · rename_i replaced hreplaced
    cases h
    rw [length_replaceFirst hreplaced]
    exact hl
  · split at h
    · cases h
    · cases h
      rw [List.length_append, List.length_singleton]
      omega

/-- There are no more flows than `max_flows`. -/
def PersistedState.FlowsFit (limits : Limits) (s : PersistedState) : Prop := s.flows.length ≤ limits.maxFlows.toNat

section FlowsFit

variable {limits : Limits} {recovery : RecoveryPolicy}

theorem decodeMember_flowsFit {s s' : PersistedState} {r : Record} (h : decodeMember limits s r = .ok s')
    (hs : s.FlowsFit limits) : s'.FlowsFit limits := by
  unfold decodeMember at h
  cases hk : r.kind with
  | LimitsRecord =>
    simp only [hk, bind_ok, pure_eq_ok] at h
    obtain ⟨_, -, h⟩ := h
    cases h
    exact hs
  | SourceDescriptor =>
    simp only [hk, bind_ok, pure_eq_ok] at h
    obtain ⟨_, -, _, -, h⟩ := h
    cases h
    exact hs
  | Flow =>
    simp only [hk, bind_ok, pure_eq_ok] at h
    obtain ⟨_, -, _, hroom, h⟩ := h
    cases h
    have hlt : s.flows.length < limits.maxFlows.toNat := by simpa using require_ok.1 hroom
    unfold PersistedState.FlowsFit
    rw [List.length_append, List.length_singleton]
    omega
  | _ => simp [hk] at h

theorem decodeState_flowsFit {records : List Record} {s : PersistedState}
    (h : decodeState records limits recovery = .ok s) :
    s.FlowsFit limits := by
  have hgroup : ∀ first members last, decodeGroup first members last limits recovery = .ok s → s.FlowsFit limits := by
    intro first members last h
    simp only [decodeGroup, bind_ok, pure_eq_ok] at h
    obtain ⟨_, -, _, -, head, hhead, _, -, _, -, _, -, _, -, s', hmembers, _, -, h⟩ := h
    cases h
    have hempty : head.FlowsFit limits := by
      unfold PersistedState.FlowsFit
      rw [(ensures_readStateHead _ head _ (exactly_ok.1 hhead)).2]
      exact Nat.zero_le _
    exact foldlM_ok (fun r _ s s' h hs => decodeMember_flowsFit h hs) hmembers hempty
  unfold decodeState at h
  split at h
  · cases h
  · exact hgroup _ _ _ h
  · exact hgroup _ _ _ h

theorem replayBare_flowsFit {result result' : ReplayResult} {r : Record} (h : replayBare limits result r = .ok result')
    (hs : result.state.FlowsFit limits) : result'.state.FlowsFit limits := by
  unfold replayBare at h
  cases hk : r.kind with
  | SourceDescriptor =>
    simp only [hk, bind_ok, pure_eq_ok] at h
    obtain ⟨_, -, _, -, h⟩ := h
    cases h
    exact hs
  | ObservationRecord =>
    simp only [hk, bind_ok, pure_eq_ok] at h
    obtain ⟨_, -, _, -, h⟩ := h
    cases h
    exact hs
  | Flow =>
    simp only [hk, bind_ok, pure_eq_ok] at h
    obtain ⟨_, -, flows, hflows, h⟩ := h
    cases h
    exact length_replaceOrAppend hflows hs
  | LimitsRecord | EngineCounters | Tombstone =>
    simp only [hk] at h
    cases h
    exact hs
  | SnapshotBegin | SnapshotEnd => simp [hk] at h

theorem replayStep_flowsFit {s s' : ReplayState} {r : Record} (h : replayStep limits recovery s r = .ok s')
    (hs : s.result.state.FlowsFit limits) : s'.result.state.FlowsFit limits := by
  unfold replayStep at h
  split at h
  · split at h
    · cases h
    · rw [bind_ok] at h
      obtain ⟨state, hstate, h⟩ := h
      cases h
      exact decodeState_flowsFit hstate
    · cases h
      exact hs
  · split at h
    · cases h
      exact hs
    · rw [bind_ok] at h
      obtain ⟨result, hresult, h⟩ := h
      cases h
      exact replayBare_flowsFit hresult hs

/-- **A replay reads no more flows than `max_flows`.** -/
theorem replayRecords_flowsFit {records : List Record} {result : ReplayResult}
    (h : replayRecords records limits recovery = .ok result) : result.state.FlowsFit limits := by
  rw [replayRecords, bind_ok] at h
  obtain ⟨s, hrun, h⟩ := h
  have hdone : s.result.state.FlowsFit limits :=
    foldlM_ok (P := fun s => s.result.state.FlowsFit limits) (fun r _ s s' h hs => replayStep_flowsFit h hs) hrun
      (Nat.zero_le _)
  split at h
  · cases h
  · cases h
    exact hdone

end FlowsFit

end FlowObs
