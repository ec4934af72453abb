import FlowObs.Engine.Recompute
import FlowObs.Persist.Journal

/-!
# The engine

The state of `Engine::Impl` (`Engine`) with its clock reading, and what the operations are made of: the evaluation
instant and context, the tables, the durable projection (`persistState`) and the journal helpers. The threads and
their locks are not part of the state; every operation is one atomic step.
-/

namespace FlowObs

/-! ## State -/

/-- `EngineCounters`, the counters that the operations here keep. -/
structure EngineCounters where
  observationsReceived : UInt64 := 0
  observationsApplied : UInt64 := 0
  observationsRefused : UInt64 := 0
  observationsDuplicate : UInt64 := 0
  observationsConflicting : UInt64 := 0
  observationsDroppedQueueFull : UInt64 := 0
  flowsCreated : UInt64 := 0
  flowsEvicted : UInt64 := 0
  flowsExpired : UInt64 := 0
  generationsCreated : UInt64 := 0
  generationsEvicted : UInt64 := 0
  transitions : UInt64 := 0
  anomaliesRecorded : UInt64 := 0
  identityCollisions : UInt64 := 0
  ticks : UInt64 := 0
  journalRecordsAppended : UInt64 := 0
  journalBytesAppended : UInt64 := 0
  journalCompactions : UInt64 := 0
  journalFailures : UInt64 := 0
  workerBatches : UInt64 := 0
  shutdowns : UInt64 := 0
deriving DecidableEq, Repr, Inhabited

/-- What recomputing a flow adds to the counters. -/
def EngineCounters.addReport (c : EngineCounters) (r : RecomputeReport) : EngineCounters :=
  { c with anomaliesRecorded := c.anomaliesRecorded + r.anomaliesRecorded, transitions := c.transitions + r.transitions
           flowsExpired := c.flowsExpired + r.flowsExpired }

/-- The identity registries of the engine. -/
structure Registries where
  endpoints : IdentityRegistry .endpoint := ∅
  paths : IdentityRegistry .path := ∅
  links : IdentityRegistry .link := ∅
  queues : IdentityRegistry .queue := ∅
deriving DecidableEq, Inhabited

/-- `Engine::Impl`. `clock` is what the clock reads, `disk` the file at the journal path while no handle is open. -/
structure Engine where
  config : EngineConfig := {}
  clock : Timestamp := {}
  counters : EngineCounters := {}
  flows : SortedVec FlowRuntime.id := ∅
  sources : SourceTable := ∅
  registries : Registries := {}
  journal : Option Journal := none
  disk : Option (List UInt8) := none
  epoch : RuntimeEpoch := default
  openedAt : Timestamp := {}
  isOpen : Bool := false
  replaying : Bool := false
  replayNow : Timestamp := {}
  replayEpoch : RuntimeEpoch := default
  evaluationOverride : Timestamp := {}
  snapshotSequence : UInt64 := 0
  frozen : Bool := false
  queue : List Observation := []
deriving DecidableEq, Inhabited

namespace Engine

/-! ## Instants and tables -/

/-- `now`. -/
def now (e : Engine) : Timestamp := if e.evaluationOverride.known then e.evaluationOverride else e.clock

/-- The evaluation instant of `apply_locked` and of the context. -/
def instant (e : Engine) : Timestamp := if e.replaying && e.replayNow.known then e.replayNow else e.now

/-- `context`. -/
def context (e : Engine) : FreshnessContext := { now := e.instant, policy := e.config.freshness }

/-- Change the counters. -/
def count (e : Engine) (f : EngineCounters → EngineCounters) : Engine := { e with counters := f e.counters }

/-- `recompute_flow` on a flow of the engine at an instant, with its report. -/
def recompute (e : Engine) (atTime : Timestamp) (f : FlowRuntime) : FlowRuntime × RecomputeReport :=
  (recomputeFlow e.config e.sources e.context atTime f, recomputeReport e.config e.sources e.context atTime f)

/-! ## The durable projection -/

/-- `persist_source`: the whole fold of the ledger with the descriptor of the source. -/
def persistSource (e : Engine) (b : SourceBinding) : PersistedSource :=
  let s := b.ledger.foldedState
  let d := ((e.sources.find? b.source).map (·.descriptor)).getD {}
  { source := b.source
    canonicalKey := d.canonicalKey, authority := d.authority, capabilities := d.capabilities
    advisoryOnly := d.advisoryOnly
    incarnation := s.currentIncarnation, epoch := s.currentEpoch
    highRevision := s.highRevision, highSequence := s.highSequence
    firstObservedAt := s.firstObservedAt, lastObservedAt := s.lastObservedAt
    lastReceivedAt := s.lastReceivedAt, lastProgressAt := s.lastProgressAt
    coverage := s.coverage, hopCapacityUnits := s.hopCapacityUnits
    forward := s.forward, reverse := s.reverse, aggregate := s.aggregate
    forwardTotals := toConsumption s.forward, reverseTotals := toConsumption s.reverse
    aggregateTotals := toConsumption s.aggregate
    observedProgress := s.observedProgress
    lastKind := s.lastKind, lastDirection := s.lastDirection, lastEvidence := s.lastEvidence
    declaredTerminal := s.declaredTerminal, declaredCause := s.declaredCause
    acceptedObservations := s.foldedObservations
    refusedObservations := b.refusedObservations
    droppedObservations := b.ledger.prefixState.foldedObservations
    duplicatesSuppressed := b.ledger.duplicatesSuppressed.toUInt32
    contentConflicts := b.ledger.contentConflicts.toUInt32
    historicalIncarnations := s.historicalIncarnations
    afterTerminalObservations := s.afterTerminalObservations }

/-- One generation of `persist_flow`. -/
def persistGeneration (e : Engine) (f : FlowRuntime) (g : GenerationRuntime) : PersistedGeneration :=
  let view := generationView e.config e.sources e.context f.id f.currentGeneration g
  { generation := g.id
    isCurrent := g.id == f.currentGeneration
    firstObservedAt := g.firstObservedAt, lastObservedAt := g.lastObservedAt
    lastReceivedAt := g.lastReceivedAt, lastProgressAt := g.lastProgressAt
    closedAt := g.closedAt, state := g.state, cause := g.cause, coverage := g.coverage
    path := view.path, links := view.links, queues := view.queues
    endpointA := g.endpointA, endpointB := g.endpointB
    forward := view.forward, reverse := view.reverse, aggregate := view.aggregate, total := view.total
    unresolvedConflict := view.unresolvedConflict, conflictDetail := view.conflictDetail
    sources := g.bindings.toList.map e.persistSource }

/-- `persist_flow`. -/
def persistFlow (e : Engine) (f : FlowRuntime) : PersistedFlow where
  id := f.id
  canonicalKey := f.canonicalKey
  keyCollisions := f.keyCollisions
  currentGeneration := f.currentGeneration
  revision := f.revision
  state := f.state
  cause := f.cause
  coverage := f.coverage
  createdAt := f.createdAt
  stateChangedAt := f.stateChangedAt
  firstObservedAt := f.firstObservedAt
  lastObservedAt := f.lastObservedAt
  lastReceivedAt := f.lastReceivedAt
  lastProgressAt := f.lastProgressAt
  endpointA := f.endpointA
  endpointB := f.endpointB
  generations := f.generations.toList.map (e.persistGeneration f)
  history := f.history.toVector
  historyDropped := f.history.dropped
  anomalies := f.anomalies
  anomaliesDropped := f.anomaliesDropped

/-- `persist_state`. Retired sources are left out. -/
def persistState (e : Engine) : PersistedState where
  policyDigest := e.config.policyDigest
  runtimeEpoch := e.epoch
  createdAt := e.openedAt
  snapshotAt := e.now
  snapshotSequence := e.snapshotSequence + 1
  sources := (e.sources.toList.filter (fun s => !s.retired)).map (·.descriptor)
  flows := e.flows.toList.map e.persistFlow

/-! ## Journal helpers -/

/-- A failure of the journal is counted. -/
def journalFailed (e : Engine) : Engine := e.count fun c => { c with journalFailures := c.journalFailures + 1 }

/-- `compact_locked`. -/
def compactLocked (e : Engine) : Engine × Except Error Unit :=
  match e.journal with
  | none => (e, .ok ())
  | some j =>
    match encodeState e.persistState e.config.limits with
    | .error err => (e.journalFailed, .error err)
    | .ok records =>
      match j.rewrite records e.epoch e.openedAt with
      | (j, .error err) => ({ e with journal := some j }.journalFailed, .error err)
      | (j, .ok ()) =>
        ({ e with journal := some j, snapshotSequence := e.snapshotSequence + 1 }.count
          fun c => { c with journalCompactions := c.journalCompactions + 1 }, .ok ())

/-- Append one record to the journal of the engine. -/
def appendRecord (e : Engine) (r : Record) : Engine × Except Error Unit :=
  match e.journal with
  | none => (e, .ok ())
  | some j => ({ e with journal := some (j.append [r]).1 }, (j.append [r]).2)

/-- The end of an append: its record is counted. -/
def recordAppended (r : Record) : Engine × Except Error Unit → Engine × Except Error Unit
  | (e, .error err) => (e.journalFailed, .error err)
  | (e, .ok ()) => (e.count fun c =>
      { c with journalRecordsAppended := c.journalRecordsAppended + 1
               journalBytesAppended := c.journalBytesAppended + UInt64.ofNat r.payload.length }, .ok ())

/-- A status that reports a limit. -/
def isLimit : Except Error Unit → Bool
  | .error err => err.code == .LimitExceeded
  | .ok () => false

/-- `append_observation_locked`: when the log has reached its bound it is compacted once and the append is tried
again. -/
def appendObservation (e : Engine) (obs : Observation) : Engine × Except Error Unit :=
  if e.journal.isNone then (e, .ok ())
  else
    let r : Record := ⟨.ObservationRecord, encodeObservation obs⟩
    let first := e.appendRecord r
    if isLimit first.2 then
      let compacted := first.1.compactLocked
      if compacted.2.isOk then recordAppended r (compacted.1.appendRecord r) else compacted
    else recordAppended r first

/-- What appending the record of an observation, counting it and compacting preserve, journalling the observation
does. -/
theorem appendObservation_rule {P : Engine → Prop} {obs : Observation}
    (happend : ∀ e, P e → P (e.appendRecord ⟨.ObservationRecord, encodeObservation obs⟩).1)
    (hcompact : ∀ e, P e → P e.compactLocked.1)
      (hrecorded : ∀ r p, P p.1 → P (recordAppended r p).1) {e : Engine} (h : P e) :
    P (e.appendObservation obs).1 := by
  have hfirst := happend e h
  simp only [appendObservation]
  split
  · exact h
  · split
    · have hcompacted := hcompact _ hfirst
      split
      · exact hrecorded _ _ (happend _ hcompacted)
      · exact hcompacted
    · exact hrecorded _ _ hfirst

/-- `append_source_locked`. -/
def appendSource (e : Engine) (d : SourceDescriptor) : Engine × Except Error Unit :=
  let appended := e.appendRecord ⟨.SourceDescriptor, writeSourceDescriptor d⟩
  if appended.2.isOk then appended else (appended.1.journalFailed, appended.2)

/-- A descriptor is answered as its record is. -/
theorem appendSource_status (e : Engine) (d : SourceDescriptor) :
    (e.appendSource d).2 = (e.appendRecord ⟨.SourceDescriptor, writeSourceDescriptor d⟩).2 := by
  simp only [appendSource]
  split
  · rfl
  · rfl

theorem appendSource_of_ok {e : Engine} {d : SourceDescriptor} (h : (e.appendSource d).2 = .ok ()) :
    e.appendSource d = e.appendRecord ⟨.SourceDescriptor, writeSourceDescriptor d⟩ := by
  rw [appendSource_status] at h
  simp only [appendSource, h]
  rfl

theorem appendSource_of_error {e : Engine} {d : SourceDescriptor} {err : Error}
    (h : (e.appendSource d).2 = .error err) :
    e.appendSource d = ((e.appendRecord ⟨.SourceDescriptor, writeSourceDescriptor d⟩).1.journalFailed, .error err) := by
  rw [appendSource_status] at h
  simp only [appendSource, h]
  rfl

end Engine

end FlowObs
