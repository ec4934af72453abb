import FlowObs.Engine.Apply

/-!
# Recovery

`restore_locked` and `open_journal_locked`. The snapshot part of a replay is rebuilt record by record
(`restoreSource`, `restoreGeneration`, `restoreFlow`), the observations of the journal are applied again at the
instant they were received (`replayAll`), and every flow is settled at the current instant. The source appends the
generations and the sources of a snapshot as they come; a snapshot that an engine writes lists them in ascending
order, so that inserting them is appending them (`toList_restoreFlow`, `toList_restoreGeneration`).
-/

namespace FlowObs

/-! ## Rebuilding records -/

/-- The prefix of a restored ledger. Its folded bound is the persisted high-water mark, component by component. -/
def restorePrefix (p : PersistedSource) : LedgerPrefix where
  currentIncarnation := p.incarnation
  currentEpoch := p.epoch
  highRevision := p.highRevision
  highSequence := p.highSequence
  foldedIncarnation := p.incarnation
  foldedEpoch := p.epoch
  foldedRevision := p.highRevision
  foldedSequence := p.highSequence
  firstObservedAt := p.firstObservedAt
  lastObservedAt := p.lastObservedAt
  lastReceivedAt := p.lastReceivedAt
  lastProgressAt := p.lastProgressAt
  coverage := p.coverage
  hopCapacityUnits := p.hopCapacityUnits
  forward := p.forward
  reverse := p.reverse
  aggregate := p.aggregate
  lastKind := p.lastKind
  lastDirection := p.lastDirection
  lastEvidence := p.lastEvidence
  declaredTerminal := p.declaredTerminal
  declaredCause := p.declaredCause
  observedProgress := p.observedProgress
  historicalIncarnations := p.historicalIncarnations
  distinctIncarnations := if p.historicalIncarnations = 0 then 0 else p.historicalIncarnations + 1
  afterTerminalObservations := p.afterTerminalObservations
  foldedObservations := p.acceptedObservations

/-- A restored binding awaits reconfirmation. -/
def restoreSource (limits : Limits) (generation : FlowGeneration) (p : PersistedSource) : SourceBinding where
  source := p.source
  ledger := (SourceLedger.configure p.source generation limits.maxObservationsPerSourceFlow.toNat).seed
    (restorePrefix p)
  restored := true
  reconfirmed := false
  refusedObservations := p.refusedObservations

/-- The sources of a generation that are restored: the loop stops at the bound. -/
def restoredSources (limits : Limits) (p : PersistedGeneration) : List PersistedSource :=
  p.sources.take limits.maxSourcesPerFlow.toNat

/-- The generations of a flow that are restored. -/
def restoredGenerations (limits : Limits) (p : PersistedFlow) : List PersistedGeneration :=
  p.generations.take limits.maxGenerationsPerFlow.toNat

def restoreGeneration (limits : Limits) (flow : FlowId) (p : PersistedGeneration) : GenerationRuntime where
  id := p.generation
  state := p.state
  cause := p.cause
  firstObservedAt := p.firstObservedAt
  lastObservedAt := p.lastObservedAt
  lastReceivedAt := p.lastReceivedAt
  lastProgressAt := p.lastProgressAt
  closedAt := p.closedAt
  coverage := p.coverage
  endpointA := p.endpointA
  endpointB := p.endpointB
  lastTouched := p.lastReceivedAt
  bindings := (restoredSources limits p).foldl (fun v s => v.set (restoreSource limits ⟨flow, p.generation⟩ s)) ∅

def restoreFlow (limits : Limits) (previousEpoch : RuntimeEpoch) (p : PersistedFlow) : FlowRuntime where
  id := p.id
  canonicalKey := p.canonicalKey
  keyCollisions := p.keyCollisions
  currentGeneration := p.currentGeneration
  revision := p.revision
  state := p.state
  cause := p.cause
  coverage := p.coverage
  createdAt := p.createdAt
  stateChangedAt := p.stateChangedAt
  firstObservedAt := p.firstObservedAt
  lastObservedAt := p.lastObservedAt
  lastReceivedAt := p.lastReceivedAt
  lastProgressAt := p.lastProgressAt
  endpointA := p.endpointA
  endpointB := p.endpointB
  generations := (restoredGenerations limits p).foldl (fun v g => v.set (restoreGeneration limits p.id g)) ∅
  history := p.history.foldl Ring.push (({} : LifecycleHistory).setCapacity limits.maxHistoryPerFlow.toNat)
  anomalies := p.anomalies
  anomaliesDropped := p.anomaliesDropped
  restored := true
  restoredEpoch := previousEpoch
  lastTouched := p.lastReceivedAt

/-- Generations that are listed in ascending order, as in every snapshot that is written, are appended. -/
theorem toList_restoreFlow {limits : Limits} {p : PersistedFlow} (previousEpoch : RuntimeEpoch)
    (h : (p.generations.map PersistedGeneration.generation).Pairwise (· < ·)) :
    (restoreFlow limits previousEpoch p).generations.toList =
    (restoredGenerations limits p).map (restoreGeneration limits p.id) := by
  have hsorted : (restoredGenerations limits p).Pairwise (fun q r => q.generation < r.generation) :=
    (List.pairwise_map.1 h).sublist (List.take_sublist _ _)
  exact SortedVec.toList_foldl_set (restoreGeneration limits p.id) (w := ∅) (List.pairwise_map.2 hsorted)
    (fun _ hb => by cases hb)

/-- So are the sources of a generation. -/
theorem toList_restoreGeneration {limits : Limits} {p : PersistedGeneration} (flow : FlowId)
    (h : (p.sources.map PersistedSource.source).Pairwise (· < ·)) :
    (restoreGeneration limits flow p).bindings.toList
      = (restoredSources limits p).map (restoreSource limits ⟨flow, p.generation⟩) := by
  have hsorted : (restoredSources limits p).Pairwise (fun q r => q.source < r.source) :=
    (List.pairwise_map.1 h).sublist (List.take_sublist _ _)
  exact SortedVec.toList_foldl_set (restoreSource limits ⟨flow, p.generation⟩) (w := ∅) (List.pairwise_map.2 hsorted)
    (fun _ hb => by cases hb)

/-- A source that only the bindings of a snapshot name is registered from what they carry. -/
def restoreDescriptor (openedAt : Timestamp) (sources : SourceTable) (p : PersistedSource) : SourceTable :=
  if (sources.find? p.source).isSome then sources
  else
    let descriptor : SourceDescriptor :=
      { id := p.source, canonicalKey := p.canonicalKey, authority := p.authority, capabilities := p.capabilities
        advisoryOnly := p.advisoryOnly }
    sources.set { descriptor := descriptor, registeredAt := openedAt }

/-- Sources that are there stay as they are when others are registered from what is recorded of them, and all of those
are there then. -/
theorem restoreDescriptors_registers (openedAt : Timestamp) (ps : List PersistedSource) (v : SourceTable) :
    (∀ id, (v.find? id).isSome = true → (ps.foldl (restoreDescriptor openedAt) v).find? id = v.find? id) ∧
      ∀ p ∈ ps, ((ps.foldl (restoreDescriptor openedAt) v).find? p.source).isSome = true := by
  have hone : ∀ (p : PersistedSource) (v : SourceTable),
      (∀ id, (v.find? id).isSome = true → (restoreDescriptor openedAt v p).find? id = v.find? id) ∧
        ((restoreDescriptor openedAt v p).find? p.source).isSome = true := by
    intro p v
    unfold restoreDescriptor
    split
    · rename_i hs
      exact ⟨fun _ _ => rfl, hs⟩
    · rename_i hs
      refine ⟨fun id hid => SortedVec.find?_set_of_ne _ fun hp => hs ?_, ?_⟩
      · rw [show p.source = id from hp]
        exact hid
      · exact Option.isSome_of_eq_some (SortedVec.find?_set_self v _)
  induction ps generalizing v with
  | nil => exact ⟨fun _ _ => rfl, fun _ h => absurd h List.not_mem_nil⟩
  | cons p ps ih =>
    obtain ⟨hkeep, hnamed⟩ := hone p v
    obtain ⟨hkeeps, hall⟩ := ih (restoreDescriptor openedAt v p)
    refine ⟨fun id hid => ?_, fun p' hp' => ?_⟩
    · have hsame := hkeep id hid
      rw [List.foldl_cons, hkeeps id (by rw [hsame]; exact hid), hsame]
    · rcases List.mem_cons.1 hp' with rfl | hp'
      · rw [List.foldl_cons, hkeeps _ hnamed]
        exact hnamed
      · exact hall p' hp'

/-- Nothing is registered exactly when all of the sources are there. -/
theorem restoreDescriptors_eq_iff (openedAt : Timestamp) (ps : List PersistedSource) (v : SourceTable) :
    ps.foldl (restoreDescriptor openedAt) v = v ↔ ∀ p ∈ ps, (v.find? p.source).isSome = true := by
  constructor
  · intro h p hp
    have hnamed := (restoreDescriptors_registers openedAt ps v).2 p hp
    rwa [h] at hnamed
  · intro h
    induction ps with
    | nil => rfl
    | cons p ps ih =>
      have hsame : restoreDescriptor openedAt v p = v := if_pos (h p List.mem_cons_self)
      rw [List.foldl_cons, hsame]
      exact ih fun p' hp' => h p' (List.mem_cons_of_mem _ hp')

namespace Engine

/-! ## Restoring -/

/-- The descriptors of the replay are registered. -/
def restoreSources (e : Engine) (descriptors : List SourceDescriptor) : Engine :=
  { e with sources := descriptors.foldl (fun v d => v.set { descriptor := d, registeredAt := e.openedAt }) e.sources }

/-- The flows of a snapshot are rebuilt, up to the first that declares a current generation and records none. A flow
that is already there stays. -/
def restoreFlows (e : Engine) (previousEpoch : RuntimeEpoch) : List PersistedFlow → Engine × Except Error Unit
  | [] => (e, .ok ())
  | p :: ps =>
    let flow := restoreFlow e.config.limits previousEpoch p
    let named := (restoredGenerations e.config.limits p).flatMap (restoredSources e.config.limits)
    let e := { e with sources := named.foldl (restoreDescriptor e.openedAt) e.sources }
    if flow.generations.toList.isEmpty && p.currentGeneration.valid then
      (e, .error ⟨.IntegrityFailure, str "persisted flow declares a current generation but records none"⟩)
    else
      restoreFlows { e with flows := if (e.flows.find? flow.id).isSome then e.flows else e.flows.set flow }
        previousEpoch ps

/-- One observation of the journal is applied at the instant it was received. -/
def replayOne (e : Engine) (obs : Observation) : Engine := ({ e with replayNow := obs.receivedAt }.applyLocked obs).1

/-- The observations of the journal are applied in order. -/
def replayAll (e : Engine) (previousEpoch : RuntimeEpoch) (observations : List Observation) : Engine :=
  { observations.foldl replayOne { e with replaying := true, replayEpoch := previousEpoch } with
    replaying := false, replayNow := {}, replayEpoch := default }

/-- `recompute_flow` on a flow that `due` selects. -/
def recomputeDue (e : Engine) (atTime : Timestamp) (due : FlowRuntime → Bool) (f : FlowRuntime) : FlowRuntime :=
  if due f then recomputeFlow e.config e.sources e.context atTime f else f

theorem recomputeDue_id (e : Engine) (atTime : Timestamp) (due : FlowRuntime → Bool) (f : FlowRuntime) :
    (e.recomputeDue atTime due f).id = f.id := by
  unfold recomputeDue
  split
  · exact recomputeFlow_id f
  · rfl

/-- `recompute_flow` on every flow that `due` selects. -/
def recomputeAll (e : Engine) (atTime : Timestamp) (due : FlowRuntime → Bool) : Engine :=
  { e with
    flows := e.flows.map (e.recomputeDue atTime due) (e.recomputeDue_id atTime due)
    counters := (e.flows.toList.filter due).foldl
      (fun c f => c.addReport (recomputeReport e.config e.sources e.context atTime f)) e.counters }

theorem find?_recomputeAll (e : Engine) (atTime : Timestamp) (due : FlowRuntime → Bool) (id : FlowId) :
    (e.recomputeAll atTime due).flows.find? id = (e.flows.find? id).map (e.recomputeDue atTime due) :=
  SortedVec.find?_map _ _ (e.recomputeDue_id atTime due) _

/-- `restore_locked`. -/
def restoreLocked (e : Engine) (records : List Record) (previousEpoch : RuntimeEpoch) : Engine × Except Error Unit :=
  match replayRecords records e.config.limits e.config.recovery with
  | .error err => (e, .error err)
  | .ok result =>
    if result.sawSnapshot && result.state.policyDigest != e.config.policyDigest then
      (e, .error ⟨.VersionMismatch,
        str "the journal was folded under a different counter policy; refusing to reinterpret its accounting"⟩)
    else
      let e := { e with snapshotSequence := result.state.snapshotSequence }
      match (e.restoreSources result.state.sources).restoreFlows previousEpoch result.state.flows with
      | (e, .error err) => (e, .error err)
      | (e, .ok ()) =>
        let e := e.replayAll previousEpoch result.observations
        (e.recomputeAll e.now (fun _ => true), .ok ())

/-- The file at the journal path: what the handle that is held on it has in it, or else what is on disk. -/
def journalFile (held : Option Journal) (disk : Option (List UInt8)) : Option (List UInt8) :=
  match held with
  | some j => some j.file.bytes
  | none => disk

/-- The new handle `j` takes the place of the one that is held, which is closed by that and writes its header when it
is dirty. -/
def replaceJournal (held : Option Journal) (j : Journal) : Journal :=
  match held with
  | some old => { j with file := { j.file with bytes := old.close.1.file.bytes } }
  | none => j

@[simp] theorem journalFile_none (disk : Option (List UInt8)) : journalFile none disk = disk := rfl
@[simp] theorem replaceJournal_none (j : Journal) : replaceJournal none j = j := rfl

/-- `open_journal_locked`. A handle that was held keeps others from opening the file as long as it has its lock, which
a rewrite gives up. -/
def openJournalLocked (e : Engine) : Engine × Except Error Unit :=
  let e := { e with openedAt := e.now }
  if e.config.journalPath.isEmpty then ({ e with epoch := ⟨1⟩ }, .ok ())
  else if e.journal.any (·.locked) then
    (e, .error ⟨.AlreadyOpen,
      str "journal is already open for writing by another runtime: " ++ e.config.journalPath⟩)
  else match Journal.openFile e.config.journalPath (journalFile e.journal e.disk)
      { limits := e.config.limits, recovery := e.config.recovery } with
    | .error err => (e, .error err)
    | .ok j =>
      let previous := j.header.runtimeEpoch
      let epoch : RuntimeEpoch := ⟨previous.value + 1⟩
      let (j, read) := ((replaceJournal e.journal j).setEpoch epoch e.openedAt).readAll
      let e := { e with journal := some j, epoch := epoch }
      match read with
      | .error err => (e, .error err)
      | .ok records =>
        match (if e.config.restoreOnOpen && !records.isEmpty then e.restoreLocked records
          previous else (e, .ok ())) with
        | (e, .error err) => (e, .error err)
        | (e, .ok ()) => ({ e with journal := e.journal.map (·.flush.1) }, .ok ())

end Engine

end FlowObs
