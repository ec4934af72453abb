import FlowObs.Engine.State
import FlowObs.Persist.ObsCodec

/-!
# The durable projection and its field codecs

The persisted records of `persistence.hpp` and the writer and reader of each. Every reader gives back what its writer
wrote as long as the lists and strings are within the bounds the reader checks (`PersistedFlow.Decodable`,
`readPersistedFlow_write`).
-/

namespace FlowObs

open Binary

/-! ## Records -/

/-- `PersistedSource`. -/
structure PersistedSource where
  source : SourceId := default
  canonicalKey : Str := []
  authority : UInt32 := 0
  capabilities : SourceCapabilities := {}
  advisoryOnly : Bool := false
  incarnation : IncarnationId := default
  epoch : EpochId := default
  highRevision : RevisionId := default
  highSequence : SequenceNo := default
  firstObservedAt : Timestamp := {}
  lastObservedAt : Timestamp := {}
  lastReceivedAt : Timestamp := {}
  lastProgressAt : Timestamp := {}
  coverage : Coverage := {}
  hopCapacityUnits : List UInt64 := []
  forward : DirectionalAccounting := {}
  reverse : DirectionalAccounting := {}
  aggregate : DirectionalAccounting := {}
  forwardTotals : Consumption := {}
  reverseTotals : Consumption := {}
  aggregateTotals : Consumption := {}
  observedProgress : Bool := false
  lastKind : ObservationKind := .Unknown
  lastDirection : Direction := .Unspecified
  lastEvidence : Evidence := .Unknown
  declaredTerminal : Option FlowState := none
  declaredCause : StateCause := .None
  acceptedObservations : UInt32 := 0
  refusedObservations : UInt32 := 0
  droppedObservations : UInt32 := 0
  duplicatesSuppressed : UInt32 := 0
  contentConflicts : UInt32 := 0
  historicalIncarnations : UInt32 := 0
  afterTerminalObservations : UInt32 := 0
deriving DecidableEq, Repr, Inhabited

/-- `PersistedGeneration`. -/
structure PersistedGeneration where
  generation : GenerationId := default
  isCurrent : Bool := false
  firstObservedAt : Timestamp := {}
  lastObservedAt : Timestamp := {}
  lastReceivedAt : Timestamp := {}
  lastProgressAt : Timestamp := {}
  closedAt : Timestamp := {}
  state : FlowState := .Unknown
  cause : StateCause := .None
  coverage : Coverage := {}
  path : Option PathId := none
  links : List LinkId := []
  queues : List QueueId := []
  endpointA : EndpointId := default
  endpointB : EndpointId := default
  forward : Consumption := {}
  reverse : Consumption := {}
  aggregate : Consumption := {}
  total : Consumption := {}
  unresolvedConflict : Bool := false
  conflictDetail : Str := []
  sources : List PersistedSource := []
deriving DecidableEq, Repr, Inhabited

/-- `PersistedFlow`. -/
structure PersistedFlow where
  id : FlowId := default
  canonicalKey : Str := []
  keyCollisions : UInt64 := 0
  currentGeneration : GenerationId := default
  revision : RevisionId := default
  state : FlowState := .Unknown
  cause : StateCause := .None
  coverage : Coverage := {}
  createdAt : Timestamp := {}
  stateChangedAt : Timestamp := {}
  firstObservedAt : Timestamp := {}
  lastObservedAt : Timestamp := {}
  lastReceivedAt : Timestamp := {}
  lastProgressAt : Timestamp := {}
  endpointA : EndpointId := default
  endpointB : EndpointId := default
  generations : List PersistedGeneration := []
  history : List LifecycleEvent := []
  historyDropped : UInt64 := 0
  anomalies : List Anomaly := []
  anomaliesDropped : UInt64 := 0
deriving DecidableEq, Repr, Inhabited

/-- `kJournalFormatVersion` and `kJournalMinReadableVersion`. -/
def kJournalFormatVersion : UInt16 := 1
def kJournalMinReadableVersion : UInt16 := 1
/-- `kIdentitySchemeVersion`. -/
def kIdentitySchemeVersion : UInt32 := 1

/-- `PersistedState`. -/
structure PersistedState where
  formatVersion : UInt16 := kJournalFormatVersion
  identityScheme : UInt32 := kIdentitySchemeVersion
  schemaVersion : UInt32 := kObservationSchemaVersion
  policyDigest : UInt64 := 0
  runtimeEpoch : RuntimeEpoch := default
  createdAt : Timestamp := {}
  snapshotAt : Timestamp := {}
  snapshotSequence : UInt64 := 0
  sources : List SourceDescriptor := []
  flows : List PersistedFlow := []
deriving DecidableEq, Repr, Inhabited

/-! ## Accounting -/

/-- `write_accumulator`. -/
def writeAccumulator (a : CounterAccumulator) : List UInt8 :=
  optional u64 a.baseline ++ optional u64 a.last ++ u64 a.accumulated ++ u64 a.unknownIntervals ++ u64 a.regressions
    ++ boolean a.saturated

/-- `read_accumulator`. -/
def readAccumulator : Reader CounterAccumulator := do
  let baseline ← readOptional readU64
  let last ← readOptional readU64
  let accumulated ← readU64
  let unknownIntervals ← readU64
  let regressions ← readU64
  let saturated ← readBoolean
  pure { baseline, last, accumulated, unknownIntervals, regressions, saturated }

@[simp] theorem readAccumulator_write (a : CounterAccumulator) (rest : List UInt8) :
    readAccumulator.run (writeAccumulator a ++ rest) = some (a, rest) := by
  simp [readAccumulator, writeAccumulator, List.append_assoc]

/-- `write_directional`. -/
def writeDirectional (d : DirectionalAccounting) : List UInt8 :=
  writeAccumulator d.bytes ++ writeAccumulator d.packets ++ writeAccumulator d.retransmissions
    ++ boolean d.bytesUnsupported ++ boolean d.packetsUnsupported ++ boolean d.retransmissionsUnsupported

/-- `read_directional`. -/
def readDirectional : Reader DirectionalAccounting := do
  let bytes ← readAccumulator
  let packets ← readAccumulator
  let retransmissions ← readAccumulator
  let bytesUnsupported ← readBoolean
  let packetsUnsupported ← readBoolean
  let retransmissionsUnsupported ← readBoolean
  pure { bytes, packets, retransmissions, bytesUnsupported, packetsUnsupported, retransmissionsUnsupported }

@[simp] theorem readDirectional_write (d : DirectionalAccounting) (rest : List UInt8) :
    readDirectional.run (writeDirectional d ++ rest) = some (d, rest) := by
  simp [readDirectional, writeDirectional, List.append_assoc]

/-- `write_consumption`. -/
def writeConsumption (c : Consumption) : List UInt8 :=
  u64 c.bytes ++ u64 c.packets ++ u64 c.retransmissions ++ u64 c.unknownIntervals ++ boolean c.bytesUnsupported
    ++ boolean c.packetsUnsupported ++ boolean c.retransmissionsUnsupported ++ boolean c.saturated

/-- `read_consumption`. -/
def readConsumption : Reader Consumption := do
  let bytes ← readU64
  let packets ← readU64
  let retransmissions ← readU64
  let unknownIntervals ← readU64
  let bytesUnsupported ← readBoolean
  let packetsUnsupported ← readBoolean
  let retransmissionsUnsupported ← readBoolean
  let saturated ← readBoolean
  pure { bytes, packets, retransmissions, unknownIntervals, bytesUnsupported, packetsUnsupported
         retransmissionsUnsupported, saturated }

@[simp] theorem readConsumption_write (c : Consumption) (rest : List UInt8) :
    readConsumption.run (writeConsumption c ++ rest) = some (c, rest) := by
  simp [readConsumption, writeConsumption, List.append_assoc]

/-- `write_coverage`. -/
def writeCoverage (c : Coverage) : List UInt8 :=
  boolean c.forwardComplete ++ boolean c.forwardPartial ++ boolean c.reverseComplete ++ boolean c.reversePartial

/-- `read_coverage`. -/
def readCoverage : Reader Coverage := do
  let forwardComplete ← readBoolean
  let forwardPartial ← readBoolean
  let reverseComplete ← readBoolean
  let reversePartial ← readBoolean
  pure { forwardComplete, forwardPartial, reverseComplete, reversePartial }

@[simp] theorem readCoverage_write (c : Coverage) (rest : List UInt8) :
    readCoverage.run (writeCoverage c ++ rest) = some (c, rest) := by
  simp [readCoverage, writeCoverage, List.append_assoc]

/-! ## Sources -/

/-- `write_source_descriptor`. -/
def writeSourceDescriptor (d : SourceDescriptor) : List UInt8 :=
  putId d.id ++ blob d.canonicalKey ++ u32 d.authority ++ writeCapabilities d.capabilities ++ boolean d.advisoryOnly

/-- `read_source_descriptor`. -/
def readSourceDescriptor (maxKeyBytes : Nat) : Reader SourceDescriptor := do
  let id ← readId .source
  let canonicalKey ← readBlob maxKeyBytes
  let authority ← readU32
  let capabilities ← readCapabilities
  let advisoryOnly ← readBoolean
  pure { id, canonicalKey, authority, capabilities, advisoryOnly }

theorem readSourceDescriptor_write {maxKeyBytes : Nat} {d : SourceDescriptor} (h : d.canonicalKey.length ≤ maxKeyBytes)
    (hk : maxKeyBytes < 2 ^ 32) (rest : List UInt8) :
    (readSourceDescriptor maxKeyBytes).run (writeSourceDescriptor d ++ rest) = some (d, rest) := by
  simp [readSourceDescriptor, writeSourceDescriptor, List.append_assoc, readBlob_blob h (lt_of_le_of_lt h hk)]

@[simp] theorem readState_u8 (k : FlowState) (rest : List UInt8) :
    (readEnum FlowState.ofU8?).run (u8 k.toU8 ++ rest) = some (k, rest) := readEnum_u8 (by simp) rest
@[simp] theorem readCause_u8 (k : StateCause) (rest : List UInt8) :
    (readEnum StateCause.ofU8?).run (u8 k.toU8 ++ rest) = some (k, rest) := readEnum_u8 (by simp) rest
@[simp] theorem readAnomalyKind_u8 (k : AnomalyKind) (rest : List UInt8) :
    (readEnum AnomalyKind.ofU8?).run (u8 k.toU8 ++ rest) = some (k, rest) := readEnum_u8 (by simp) rest

/-- A terminal state as the 32-bit word it is written in. -/
def putTerminal (s : FlowState) : List UInt8 := u32 s.toU8.toUInt32

def readTerminal : Reader FlowState := do
  let raw ← readU32
  match if raw < 8 then FlowState.ofU8? raw.toUInt8 else none with
  | some s => pure s
  | none => failure

@[simp] theorem readOptional_terminal (t : Option FlowState) (rest : List UInt8) :
    (readOptional readTerminal).run (optional putTerminal t ++ rest) = some (t, rest) :=
  readOptional_optional fun s _ => by cases s <;> simp [readTerminal, putTerminal, FlowState.toU8] <;> rfl

/-- The identity, the descriptor and the fence of a persisted source. -/
def putSourceHead (s : PersistedSource) : List UInt8 :=
  putId s.source ++ blob s.canonicalKey ++ u32 s.authority ++ writeCapabilities s.capabilities ++ boolean s.advisoryOnly
    ++ putNum s.incarnation ++ putNum s.epoch ++ putNum s.highRevision ++ putNum s.highSequence

def readSourceHead (maxKeyBytes : Nat) : Reader PersistedSource := do
  let source ← readId .source
  let canonicalKey ← readBlob maxKeyBytes
  let authority ← readU32
  let capabilities ← readCapabilities
  let advisoryOnly ← readBoolean
  let incarnation ← readNum .incarnation
  let epoch ← readNum .epoch
  let highRevision ← readNum .revision
  let highSequence ← readNum .sequence
  pure { source, canonicalKey, authority, capabilities, advisoryOnly, incarnation, epoch, highRevision, highSequence }

/-- The instants, the coverage and the capacities of a persisted source. -/
def putSourceTimes (s : PersistedSource) : List UInt8 :=
  putTime s.firstObservedAt ++ putTime s.lastObservedAt ++ putTime s.lastReceivedAt ++ putTime s.lastProgressAt
    ++ writeCoverage s.coverage ++ putList u64 s.hopCapacityUnits

def readSourceTimes (s : PersistedSource) : Reader PersistedSource := do
  let firstObservedAt ← readTime
  let lastObservedAt ← readTime
  let lastReceivedAt ← readTime
  let lastProgressAt ← readTime
  let coverage ← readCoverage
  let hopCapacityUnits ← readList 4096 readU64
  pure { s with firstObservedAt, lastObservedAt, lastReceivedAt, lastProgressAt, coverage, hopCapacityUnits }

/-- The accounting of a persisted source and its totals. -/
def putSourceAccounting (s : PersistedSource) : List UInt8 :=
  writeDirectional s.forward ++ writeDirectional s.reverse ++ writeDirectional s.aggregate
    ++ writeConsumption s.forwardTotals ++ writeConsumption s.reverseTotals ++ writeConsumption s.aggregateTotals

def readSourceAccounting (s : PersistedSource) : Reader PersistedSource := do
  let forward ← readDirectional
  let reverse ← readDirectional
  let aggregate ← readDirectional
  let forwardTotals ← readConsumption
  let reverseTotals ← readConsumption
  let aggregateTotals ← readConsumption
  pure { s with forward, reverse, aggregate, forwardTotals, reverseTotals, aggregateTotals }

/-- The last-seen fields and the declaration of a persisted source. -/
def putSourceLast (s : PersistedSource) : List UInt8 :=
  boolean s.observedProgress ++ u8 s.lastKind.toU8 ++ u8 s.lastDirection.toU8 ++ u8 s.lastEvidence.toU8
    ++ optional putTerminal s.declaredTerminal ++ u8 s.declaredCause.toU8

def readSourceLast (s : PersistedSource) : Reader PersistedSource := do
  let observedProgress ← readBoolean
  let lastKind ← readEnum ObservationKind.ofU8?
  let lastDirection ← readEnum Direction.ofU8?
  let lastEvidence ← readEnum Evidence.ofU8?
  let declaredTerminal ← readOptional readTerminal
  let declaredCause ← readEnum StateCause.ofU8?
  pure { s with observedProgress, lastKind, lastDirection, lastEvidence, declaredTerminal, declaredCause }

/-- The counts of a persisted source. -/
def putSourceCounts (s : PersistedSource) : List UInt8 :=
  u32 s.acceptedObservations ++ u32 s.refusedObservations ++ u32 s.droppedObservations ++ u32 s.duplicatesSuppressed
    ++ u32 s.contentConflicts ++ u32 s.historicalIncarnations ++ u32 s.afterTerminalObservations

def readSourceCounts (s : PersistedSource) : Reader PersistedSource := do
  let acceptedObservations ← readU32
  let refusedObservations ← readU32
  let droppedObservations ← readU32
  let duplicatesSuppressed ← readU32
  let contentConflicts ← readU32
  let historicalIncarnations ← readU32
  let afterTerminalObservations ← readU32
  pure { s with acceptedObservations, refusedObservations, droppedObservations, duplicatesSuppressed, contentConflicts
                historicalIncarnations, afterTerminalObservations }

/-- `write_persisted_source`. -/
def writePersistedSource (s : PersistedSource) : List UInt8 :=
  putSourceHead s ++ putSourceTimes s ++ putSourceAccounting s ++ putSourceLast s ++ putSourceCounts s

/-- `read_persisted_source`. -/
def readPersistedSource (maxKeyBytes : Nat) : Reader PersistedSource := do
  let s ← readSourceHead maxKeyBytes
  let s ← readSourceTimes s
  let s ← readSourceAccounting s
  let s ← readSourceLast s
  readSourceCounts s

/-- The bounds that `read_persisted_source` checks. -/
structure PersistedSource.Decodable (limits : Limits) (s : PersistedSource) : Prop where
  key : s.canonicalKey.length ≤ limits.maxKeyBytes.toNat
  hops : s.hopCapacityUnits.length ≤ 4096

instance (limits : Limits) (s : PersistedSource) : Decidable (s.Decodable limits) :=
  decidable_of_iff (s.canonicalKey.length ≤ limits.maxKeyBytes.toNat ∧ s.hopCapacityUnits.length ≤ 4096)
    ⟨fun ⟨h, k⟩ => ⟨h, k⟩, fun ⟨h, k⟩ => ⟨h, k⟩⟩

section

variable (s t : PersistedSource) (rest : List UInt8)

theorem readSourceHead_put {maxKeyBytes : Nat} (h : s.canonicalKey.length ≤ maxKeyBytes) (hk : maxKeyBytes < 2 ^ 32) :
    (readSourceHead maxKeyBytes).run (putSourceHead s ++ rest)
      = some ({ source := s.source, canonicalKey := s.canonicalKey, authority := s.authority
                capabilities := s.capabilities, advisoryOnly := s.advisoryOnly, incarnation := s.incarnation
                epoch := s.epoch, highRevision := s.highRevision, highSequence := s.highSequence }, rest) := by
  simp [readSourceHead, putSourceHead, List.append_assoc, readBlob_blob h (lt_of_le_of_lt h hk)]

theorem readSourceTimes_put (h : s.hopCapacityUnits.length ≤ 4096) :
    (readSourceTimes t).run (putSourceTimes s ++ rest)
      = some ({ t with
          firstObservedAt := s.firstObservedAt, lastObservedAt := s.lastObservedAt, lastReceivedAt := s.lastReceivedAt
          lastProgressAt := s.lastProgressAt, coverage := s.coverage
          hopCapacityUnits := s.hopCapacityUnits }, rest) := by
  have hl : ∀ rest : List UInt8, (readList 4096 readU64).run (putList u64 s.hopCapacityUnits ++ rest)
      = some (s.hopCapacityUnits, rest) := fun rest =>
    readList_putList h (lt_of_le_of_lt h (by norm_num)) fun a _ rest => readU64_u64 a rest
  simp [readSourceTimes, putSourceTimes, List.append_assoc, hl]

theorem readSourceAccounting_put :
    (readSourceAccounting t).run (putSourceAccounting s ++ rest)
      = some ({ t with
          forward := s.forward, reverse := s.reverse, aggregate := s.aggregate, forwardTotals := s.forwardTotals
          reverseTotals := s.reverseTotals, aggregateTotals := s.aggregateTotals }, rest) := by
  simp [readSourceAccounting, putSourceAccounting, List.append_assoc]

theorem readSourceLast_put :
    (readSourceLast t).run (putSourceLast s ++ rest)
      = some ({ t with
          observedProgress := s.observedProgress, lastKind := s.lastKind, lastDirection := s.lastDirection
          lastEvidence := s.lastEvidence, declaredTerminal := s.declaredTerminal
          declaredCause := s.declaredCause }, rest) := by
  simp [readSourceLast, putSourceLast, List.append_assoc]

theorem readSourceCounts_put :
    (readSourceCounts t).run (putSourceCounts s ++ rest)
      = some ({ t with
          acceptedObservations := s.acceptedObservations, refusedObservations := s.refusedObservations
          droppedObservations := s.droppedObservations, duplicatesSuppressed := s.duplicatesSuppressed
          contentConflicts := s.contentConflicts, historicalIncarnations := s.historicalIncarnations
          afterTerminalObservations := s.afterTerminalObservations }, rest) := by
  simp [readSourceCounts, putSourceCounts, List.append_assoc]

end

theorem readPersistedSource_write {limits : Limits} (hk : limits.maxKeyBytes.toNat < 2 ^ 32) {s : PersistedSource}
    (h : s.Decodable limits) (rest : List UInt8) :
    (readPersistedSource limits.maxKeyBytes.toNat).run (writePersistedSource s ++ rest) = some (s, rest) := by
  simp only [readPersistedSource, writePersistedSource, List.append_assoc, StateT.run_bind,
    readSourceHead_put _ _ h.key hk, readSourceTimes_put _ _ _ h.hops, readSourceAccounting_put, readSourceLast_put,
    readSourceCounts_put, Option.bind_eq_bind, Option.bind_some]

/-! ## What is read -/

theorem ensures_readSourceHead (maxKeyBytes : Nat) :
    Ensures (readSourceHead maxKeyBytes) (fun s => s.canonicalKey.length ≤ maxKeyBytes) := by
  refine ensures_skip fun source => ensures_bind (ensures_readBlob maxKeyBytes) fun key hkey => ?_
  refine ensures_skip fun _ => ensures_skip fun _ => ensures_skip fun _ => ensures_skip fun _ =>
    ensures_skip fun _ => ?_
  exact ensures_skip fun _ => ensures_skip fun _ => ensures_pure hkey

theorem ensures_readSourceTimes (t : PersistedSource) : Ensures (readSourceTimes t)
    (fun s => s.canonicalKey = t.canonicalKey ∧ s.hopCapacityUnits.length ≤ 4096) := by
  refine ensures_skip fun _ => ensures_skip fun _ => ensures_skip fun _ => ensures_skip fun _ =>
    ensures_skip fun _ => ?_
  exact ensures_bind (ensures_readList (ensures_trivial readU64) 4096) fun hops hhops => ensures_pure ⟨rfl, hhops.1⟩

/-- The rest of a persisted source keeps its key and its hop capacities. -/
def SameBounded (t s : PersistedSource) : Prop :=
  s.canonicalKey = t.canonicalKey ∧ s.hopCapacityUnits = t.hopCapacityUnits

theorem ensures_readSourceAccounting (t : PersistedSource) : Ensures (readSourceAccounting t) (SameBounded t) := by
  refine ensures_skip fun _ => ensures_skip fun _ => ensures_skip fun _ => ensures_skip fun _ =>
    ensures_skip fun _ => ?_
  exact ensures_skip fun _ => ensures_pure ⟨rfl, rfl⟩

theorem ensures_readSourceLast (t : PersistedSource) : Ensures (readSourceLast t) (SameBounded t) := by
  refine ensures_skip fun _ => ensures_skip fun _ => ensures_skip fun _ => ensures_skip fun _ =>
    ensures_skip fun _ => ?_
  exact ensures_skip fun _ => ensures_pure ⟨rfl, rfl⟩

theorem ensures_readSourceCounts (t : PersistedSource) : Ensures (readSourceCounts t) (SameBounded t) := by
  refine ensures_skip fun _ => ensures_skip fun _ => ensures_skip fun _ => ensures_skip fun _ =>
    ensures_skip fun _ => ?_
  exact ensures_skip fun _ => ensures_skip fun _ => ensures_pure ⟨rfl, rfl⟩

/-- **A persisted source that was read is within the bounds.** -/
theorem ensures_readPersistedSource (limits : Limits) :
    Ensures (readPersistedSource limits.maxKeyBytes.toNat) (fun s => s.Decodable limits) := by
  refine ensures_bind (ensures_readSourceHead _) fun s₁ h₁ => ensures_bind (ensures_readSourceTimes s₁) fun s₂ h₂ => ?_
  refine ensures_bind (ensures_readSourceAccounting s₂) fun s₃ h₃ =>
    ensures_bind (ensures_readSourceLast s₃) fun s₄ h₄ => ?_
  refine (ensures_readSourceCounts s₄).mono fun s₅ h₅ => ⟨?_, ?_⟩
  · rw [h₅.1, h₄.1, h₃.1, h₂.1]
    exact h₁
  · rw [h₅.2, h₄.2, h₃.2]
    exact h₂.2

theorem ensures_readSourceDescriptor (maxKeyBytes : Nat) :
    Ensures (readSourceDescriptor maxKeyBytes) (fun d => d.canonicalKey.length ≤ maxKeyBytes) := by
  refine ensures_skip fun _ => ensures_bind (ensures_readBlob maxKeyBytes) fun key hkey => ?_
  exact ensures_skip fun _ => ensures_skip fun _ => ensures_skip fun _ => ensures_pure hkey

end FlowObs
