import FlowObs.Persist.Records

/-!
# The codec of a persisted flow

`write_persisted_flow` and `read_persisted_flow` with the generations, history and anomalies inside. The reader bounds
every list by the limits; a flow within them is read back whole (`readPersistedFlow_write`).
-/

namespace FlowObs

open Binary

/-! ## Generations -/

/-- The identity, the instants and the state of a persisted generation. -/
def putGenerationHead (g : PersistedGeneration) : List UInt8 :=
  putNum g.generation ++ boolean g.isCurrent ++ putTime g.firstObservedAt ++ putTime g.lastObservedAt
    ++ putTime g.lastReceivedAt ++ putTime g.lastProgressAt ++ putTime g.closedAt ++ u8 g.state.toU8 ++ u8 g.cause.toU8
    ++ writeCoverage g.coverage

def readGenerationHead : Reader PersistedGeneration := do
  let generation ← readNum .generation
  let isCurrent ← readBoolean
  let firstObservedAt ← readTime
  let lastObservedAt ← readTime
  let lastReceivedAt ← readTime
  let lastProgressAt ← readTime
  let closedAt ← readTime
  let state ← readEnum FlowState.ofU8?
  let cause ← readEnum StateCause.ofU8?
  let coverage ← readCoverage
  pure { generation, isCurrent, firstObservedAt, lastObservedAt, lastReceivedAt, lastProgressAt, closedAt, state, cause
         coverage }

/-- The resources of a persisted generation. -/
def putGenerationResources (g : PersistedGeneration) : List UInt8 :=
  optional putId g.path ++ putList putId g.links ++ putList putId g.queues ++ putId g.endpointA ++ putId g.endpointB

def readGenerationResources (maxHops maxQueues : Nat) (g : PersistedGeneration) : Reader PersistedGeneration := do
  let path ← readOptional (readId .path)
  let links ← readList maxHops (readId .link)
  let queues ← readList maxQueues (readId .queue)
  let endpointA ← readId .endpoint
  let endpointB ← readId .endpoint
  pure { g with path, links, queues, endpointA, endpointB }

/-- The totals, the conflict and the sources of a persisted generation. -/
def putGenerationTail (g : PersistedGeneration) : List UInt8 :=
  writeConsumption g.forward ++ writeConsumption g.reverse ++ writeConsumption g.aggregate ++ writeConsumption g.total
    ++ boolean g.unresolvedConflict ++ blob g.conflictDetail ++ putList writePersistedSource g.sources

/-- The count of sources is not bounded by the reader. -/
def readGenerationTail (maxKeyBytes : Nat) (g : PersistedGeneration) : Reader PersistedGeneration := do
  let forward ← readConsumption
  let reverse ← readConsumption
  let aggregate ← readConsumption
  let total ← readConsumption
  let unresolvedConflict ← readBoolean
  let conflictDetail ← readBlob 4096
  let sources ← readList 0xFFFFFFFF (readPersistedSource maxKeyBytes)
  pure { g with forward, reverse, aggregate, total, unresolvedConflict, conflictDetail, sources }

/-- `write_persisted_generation`. -/
def writePersistedGeneration (g : PersistedGeneration) : List UInt8 :=
  putGenerationHead g ++ putGenerationResources g ++ putGenerationTail g

/-- `read_persisted_generation`. -/
def readPersistedGeneration (limits : Limits) : Reader PersistedGeneration := do
  let g ← readGenerationHead
  let g ← readGenerationResources limits.maxPathHops.toNat limits.maxQueuesPerFlow.toNat g
  readGenerationTail limits.maxKeyBytes.toNat g

/-- The bounds that `read_persisted_generation` checks. -/
structure PersistedGeneration.Decodable (limits : Limits) (g : PersistedGeneration) : Prop where
  links : g.links.length ≤ limits.maxPathHops.toNat
  queues : g.queues.length ≤ limits.maxQueuesPerFlow.toNat
  detail : g.conflictDetail.length ≤ 4096
  sources : g.sources.length < 2 ^ 32
  each : ∀ s ∈ g.sources, s.Decodable limits

instance (limits : Limits) (g : PersistedGeneration) : Decidable (g.Decodable limits) :=
  decidable_of_iff (g.links.length ≤ limits.maxPathHops.toNat ∧ g.queues.length ≤ limits.maxQueuesPerFlow.toNat ∧
      g.conflictDetail.length ≤ 4096 ∧ g.sources.length < 2 ^ 32 ∧ ∀ s ∈ g.sources, s.Decodable limits)
    ⟨fun ⟨a, b, c, d, e⟩ => ⟨a, b, c, d, e⟩, fun ⟨a, b, c, d, e⟩ => ⟨a, b, c, d, e⟩⟩

section

variable (g h : PersistedGeneration) (rest : List UInt8)

theorem readGenerationHead_put : readGenerationHead.run (putGenerationHead g ++ rest)
    = some ({ generation := g.generation, isCurrent := g.isCurrent, firstObservedAt := g.firstObservedAt
              lastObservedAt := g.lastObservedAt, lastReceivedAt := g.lastReceivedAt
              lastProgressAt := g.lastProgressAt, closedAt := g.closedAt, state := g.state, cause := g.cause
              coverage := g.coverage }, rest) := by
  simp [readGenerationHead, putGenerationHead, List.append_assoc]

theorem readGenerationResources_put {maxHops maxQueues : Nat} (hl : g.links.length ≤ maxHops)
    (hq : g.queues.length ≤ maxQueues) (hm : maxHops < 2 ^ 32) (hn : maxQueues < 2 ^ 32) :
    (readGenerationResources maxHops maxQueues h).run (putGenerationResources g ++ rest)
      = some ({ h with path := g.path, links := g.links, queues := g.queues, endpointA := g.endpointA
                       endpointB := g.endpointB }, rest) := by
  have hlinks : ∀ rest : List UInt8, (readList maxHops (readId .link)).run (putList putId g.links ++ rest)
      = some (g.links, rest) := fun rest =>
    readList_putList hl (lt_of_le_of_lt hl hm) fun a _ rest => readId_put a rest
  have hqueues : ∀ rest : List UInt8, (readList maxQueues (readId .queue)).run (putList putId g.queues ++ rest)
      = some (g.queues, rest) := fun rest =>
    readList_putList hq (lt_of_le_of_lt hq hn) fun a _ rest => readId_put a rest
  simp [readGenerationResources, putGenerationResources, List.append_assoc, hlinks, hqueues]

theorem readGenerationTail_put {limits : Limits} (hk : limits.maxKeyBytes.toNat < 2 ^ 32) (hg : g.Decodable limits) :
    (readGenerationTail limits.maxKeyBytes.toNat h).run (putGenerationTail g ++ rest)
      = some ({ h with
          forward := g.forward, reverse := g.reverse, aggregate := g.aggregate, total := g.total
          unresolvedConflict := g.unresolvedConflict, conflictDetail := g.conflictDetail
          sources := g.sources }, rest) := by
  have hs : ∀ rest : List UInt8, (readList 0xFFFFFFFF (readPersistedSource limits.maxKeyBytes.toNat)).run
      (putList writePersistedSource g.sources ++ rest) = some (g.sources, rest) := fun rest =>
    readList_putList (by have := hg.sources; omega) hg.sources fun s hm rest => readPersistedSource_write hk
      (hg.each s hm) rest
  simp [readGenerationTail, putGenerationTail, List.append_assoc, hs,
    readBlob_blob hg.detail (lt_of_le_of_lt hg.detail (by norm_num))]

end

theorem readPersistedGeneration_write {limits : Limits} (hk : limits.maxKeyBytes.toNat < 2 ^ 32)
    {g : PersistedGeneration} (hg : g.Decodable limits) (rest : List UInt8) :
    (readPersistedGeneration limits).run (writePersistedGeneration g ++ rest) = some (g, rest) := by
  simp only [readPersistedGeneration, writePersistedGeneration, List.append_assoc, StateT.run_bind,
    readGenerationHead_put, readGenerationResources_put _ _ _ hg.links hg.queues limits.maxPathHops.toNat_lt
      limits.maxQueuesPerFlow.toNat_lt, readGenerationTail_put _ _ _ hk hg, Option.bind_eq_bind, Option.bind_some]

/-! ## Lifecycle events and anomalies -/

/-- `write_lifecycle_event`. -/
def writeLifecycleEvent (e : LifecycleEvent) : List UInt8 :=
  putTime e.atTime ++ putTime e.observedAt ++ putId e.generation.flow ++ putNum e.generation.generation
    ++ u8 e.fromState.toU8 ++ u8 e.toState.toU8 ++ u8 e.cause.toU8 ++ putId e.source ++ blob e.detail

/-- `read_lifecycle_event`. -/
def readLifecycleEvent (maxDetailBytes : Nat) : Reader LifecycleEvent := do
  let atTime ← readTime
  let observedAt ← readTime
  let flow ← readId .flow
  let generation ← readNum .generation
  let fromState ← readEnum FlowState.ofU8?
  let toState ← readEnum FlowState.ofU8?
  let cause ← readEnum StateCause.ofU8?
  let source ← readId .source
  let detail ← readBlob maxDetailBytes
  pure { atTime, observedAt, generation := ⟨flow, generation⟩, fromState, toState, cause, source, detail }

theorem readLifecycleEvent_write {maxDetailBytes : Nat} {e : LifecycleEvent} (h : e.detail.length ≤ maxDetailBytes)
    (hd : maxDetailBytes < 2 ^ 32) (rest : List UInt8) :
    (readLifecycleEvent maxDetailBytes).run (writeLifecycleEvent e ++ rest) = some (e, rest) := by
  simp [readLifecycleEvent, writeLifecycleEvent, List.append_assoc, readBlob_blob h (lt_of_le_of_lt h hd)]

/-- `write_anomaly`. -/
def writeAnomaly (a : Anomaly) : List UInt8 :=
  u8 a.kind.toU8 ++ putTime a.atTime ++ putTime a.observedAt ++ putId a.generation.flow
    ++ putNum a.generation.generation ++ putId a.source ++ blob a.detail

/-- `read_anomaly`. -/
def readAnomaly (maxDetailBytes : Nat) : Reader Anomaly := do
  let kind ← readEnum AnomalyKind.ofU8?
  let atTime ← readTime
  let observedAt ← readTime
  let flow ← readId .flow
  let generation ← readNum .generation
  let source ← readId .source
  let detail ← readBlob maxDetailBytes
  pure { kind, atTime, observedAt, generation := ⟨flow, generation⟩, source, detail }

theorem readAnomaly_write {maxDetailBytes : Nat} {a : Anomaly} (h : a.detail.length ≤ maxDetailBytes)
    (hd : maxDetailBytes < 2 ^ 32) (rest : List UInt8) :
    (readAnomaly maxDetailBytes).run (writeAnomaly a ++ rest) = some (a, rest) := by
  simp [readAnomaly, writeAnomaly, List.append_assoc, readBlob_blob h (lt_of_le_of_lt h hd)]

/-! ## Flows -/

/-- The identity and the state of a persisted flow. -/
def putFlowHead (f : PersistedFlow) : List UInt8 :=
  putId f.id ++ blob f.canonicalKey ++ u64 f.keyCollisions ++ putNum f.currentGeneration ++ putNum f.revision
    ++ u8 f.state.toU8 ++ u8 f.cause.toU8 ++ writeCoverage f.coverage

def readFlowHead (maxKeyBytes : Nat) : Reader PersistedFlow := do
  let id ← readId .flow
  let canonicalKey ← readBlob maxKeyBytes
  let keyCollisions ← readU64
  let currentGeneration ← readNum .generation
  let revision ← readNum .revision
  let state ← readEnum FlowState.ofU8?
  let cause ← readEnum StateCause.ofU8?
  let coverage ← readCoverage
  pure { id, canonicalKey, keyCollisions, currentGeneration, revision, state, cause, coverage }

/-- The instants and the endpoints of a persisted flow. -/
def putFlowTimes (f : PersistedFlow) : List UInt8 :=
  putTime f.createdAt ++ putTime f.stateChangedAt ++ putTime f.firstObservedAt ++ putTime f.lastObservedAt
    ++ putTime f.lastReceivedAt ++ putTime f.lastProgressAt ++ putId f.endpointA ++ putId f.endpointB

def readFlowTimes (f : PersistedFlow) : Reader PersistedFlow := do
  let createdAt ← readTime
  let stateChangedAt ← readTime
  let firstObservedAt ← readTime
  let lastObservedAt ← readTime
  let lastReceivedAt ← readTime
  let lastProgressAt ← readTime
  let endpointA ← readId .endpoint
  let endpointB ← readId .endpoint
  pure { f with createdAt, stateChangedAt, firstObservedAt, lastObservedAt, lastReceivedAt, lastProgressAt, endpointA
                endpointB }

/-- The generations, the history and the anomalies of a persisted flow. -/
def putFlowLists (f : PersistedFlow) : List UInt8 :=
  putList writePersistedGeneration f.generations ++ putList writeLifecycleEvent f.history ++ u64 f.historyDropped
    ++ putList writeAnomaly f.anomalies ++ u64 f.anomaliesDropped

def readFlowLists (limits : Limits) (f : PersistedFlow) : Reader PersistedFlow := do
  let generations ← readList limits.maxGenerationsPerFlow.toNat (readPersistedGeneration limits)
  let history ← readList limits.maxHistoryPerFlow.toNat (readLifecycleEvent limits.maxDetailBytes.toNat)
  let historyDropped ← readU64
  let anomalies ← readList limits.maxAnomaliesPerFlow.toNat (readAnomaly limits.maxDetailBytes.toNat)
  let anomaliesDropped ← readU64
  pure { f with generations, history, historyDropped, anomalies, anomaliesDropped }

/-- `write_persisted_flow`. -/
def writePersistedFlow (f : PersistedFlow) : List UInt8 := putFlowHead f ++ putFlowTimes f ++ putFlowLists f

/-- `read_persisted_flow`. -/
def readPersistedFlow (limits : Limits) : Reader PersistedFlow := do
  let f ← readFlowHead limits.maxKeyBytes.toNat
  let f ← readFlowTimes f
  readFlowLists limits f

/-- The bounds that `read_persisted_flow` checks. -/
structure PersistedFlow.Decodable (limits : Limits) (f : PersistedFlow) : Prop where
  key : f.canonicalKey.length ≤ limits.maxKeyBytes.toNat
  generations : f.generations.length ≤ limits.maxGenerationsPerFlow.toNat
  eachGeneration : ∀ g ∈ f.generations, g.Decodable limits
  history : f.history.length ≤ limits.maxHistoryPerFlow.toNat
  eachEvent : ∀ e ∈ f.history, e.detail.length ≤ limits.maxDetailBytes.toNat
  anomalies : f.anomalies.length ≤ limits.maxAnomaliesPerFlow.toNat
  eachAnomaly : ∀ a ∈ f.anomalies, a.detail.length ≤ limits.maxDetailBytes.toNat

instance (limits : Limits) (f : PersistedFlow) : Decidable (f.Decodable limits) :=
  decidable_of_iff (f.canonicalKey.length ≤ limits.maxKeyBytes.toNat ∧
      f.generations.length ≤ limits.maxGenerationsPerFlow.toNat ∧ (∀ g ∈ f.generations, g.Decodable limits) ∧
      f.history.length ≤ limits.maxHistoryPerFlow.toNat ∧
      (∀ e ∈ f.history, e.detail.length ≤ limits.maxDetailBytes.toNat) ∧
      f.anomalies.length ≤ limits.maxAnomaliesPerFlow.toNat ∧
      ∀ a ∈ f.anomalies, a.detail.length ≤ limits.maxDetailBytes.toNat)
    ⟨fun ⟨a, b, c, d, e, g, h⟩ => ⟨a, b, c, d, e, g, h⟩, fun ⟨a, b, c, d, e, g, h⟩ => ⟨a, b, c, d, e, g, h⟩⟩

/-- **Reading back a flow** that is within the reader's bounds. -/
theorem readPersistedFlow_write {limits : Limits} (hk : limits.maxKeyBytes.toNat < 2 ^ 32)
    (hd : limits.maxDetailBytes.toNat < 2 ^ 32) {f : PersistedFlow} (hf : f.Decodable limits) (rest : List UInt8) :
    (readPersistedFlow limits).run (writePersistedFlow f ++ rest) = some (f, rest) := by
  have hhead : ∀ rest : List UInt8, (readFlowHead limits.maxKeyBytes.toNat).run (putFlowHead f ++ rest)
      = some ({ id := f.id, canonicalKey := f.canonicalKey, keyCollisions := f.keyCollisions
                currentGeneration := f.currentGeneration, revision := f.revision, state := f.state, cause := f.cause
                coverage := f.coverage }, rest) := fun rest => by
    simp [readFlowHead, putFlowHead, List.append_assoc, readBlob_blob hf.key (lt_of_le_of_lt hf.key hk)]
  have htimes : ∀ (g : PersistedFlow) (rest : List UInt8), (readFlowTimes g).run (putFlowTimes f ++ rest)
      = some ({ g with
          createdAt := f.createdAt, stateChangedAt := f.stateChangedAt, firstObservedAt := f.firstObservedAt
          lastObservedAt := f.lastObservedAt, lastReceivedAt := f.lastReceivedAt, lastProgressAt := f.lastProgressAt
          endpointA := f.endpointA, endpointB := f.endpointB }, rest) := fun g rest => by
    simp [readFlowTimes, putFlowTimes, List.append_assoc]
  have hgs : ∀ rest : List UInt8, (readList limits.maxGenerationsPerFlow.toNat (readPersistedGeneration limits)).run
      (putList writePersistedGeneration f.generations ++ rest) = some (f.generations, rest) := fun rest =>
    readList_putList hf.generations (lt_of_le_of_lt hf.generations limits.maxGenerationsPerFlow.toNat_lt)
      fun g hg rest => readPersistedGeneration_write hk (hf.eachGeneration g hg) rest
  have hes : ∀ rest : List UInt8, (readList limits.maxHistoryPerFlow.toNat
      (readLifecycleEvent limits.maxDetailBytes.toNat)).run (putList writeLifecycleEvent f.history ++ rest)
      = some (f.history, rest) := fun rest =>
    readList_putList hf.history (lt_of_le_of_lt hf.history limits.maxHistoryPerFlow.toNat_lt)
      fun e he rest => readLifecycleEvent_write (hf.eachEvent e he) hd rest
  have has : ∀ rest : List UInt8, (readList limits.maxAnomaliesPerFlow.toNat
      (readAnomaly limits.maxDetailBytes.toNat)).run (putList writeAnomaly f.anomalies ++ rest)
      = some (f.anomalies, rest) := fun rest =>
    readList_putList hf.anomalies (lt_of_le_of_lt hf.anomalies limits.maxAnomaliesPerFlow.toNat_lt)
      fun a ha rest => readAnomaly_write (hf.eachAnomaly a ha) hd rest
  simp [readPersistedFlow, writePersistedFlow, readFlowLists, putFlowLists, List.append_assoc, hhead, htimes, hgs, hes,
    has]

/-! ## What is read -/

/-- The resources of a generation are within the bounds. -/
theorem ensures_readGenerationResources (maxHops maxQueues : Nat) (t : PersistedGeneration) :
    Ensures (readGenerationResources maxHops maxQueues t)
      (fun g => g.links.length ≤ maxHops ∧ g.queues.length ≤ maxQueues) := by
  refine ensures_skip fun _ => ensures_bind (ensures_readList (ensures_trivial _) maxHops) fun links hlinks => ?_
  refine ensures_bind (ensures_readList (ensures_trivial _) maxQueues) fun queues hqueues => ?_
  exact ensures_skip fun _ => ensures_skip fun _ => ensures_pure ⟨hlinks.1, hqueues.1⟩

theorem ensures_readGenerationTail (limits : Limits) (t : PersistedGeneration) :
    Ensures (readGenerationTail limits.maxKeyBytes.toNat t) (fun g => (g.links = t.links ∧ g.queues = t.queues) ∧
      g.conflictDetail.length ≤ 4096 ∧ g.sources.length < 2 ^ 32 ∧ ∀ s ∈ g.sources, s.Decodable limits) := by
  refine ensures_skip fun _ => ensures_skip fun _ => ensures_skip fun _ => ensures_skip fun _ =>
    ensures_skip fun _ => ?_
  refine ensures_bind (ensures_readBlob 4096) fun detail hdetail => ?_
  refine ensures_bind (ensures_readList (ensures_readPersistedSource limits) _) fun sources hsources => ?_
  exact ensures_pure ⟨⟨rfl, rfl⟩, hdetail, lt_of_le_of_lt hsources.1 (by norm_num), hsources.2⟩

/-- A persisted generation that was read is within the bounds. -/
theorem ensures_readPersistedGeneration (limits : Limits) :
    Ensures (readPersistedGeneration limits) (fun g => g.Decodable limits) := by
  refine ensures_skip fun _ => ensures_bind (ensures_readGenerationResources _ _ _) fun t ht => ?_
  refine (ensures_readGenerationTail limits t).mono fun g ⟨⟨hlinks, hqueues⟩, hdetail, hcount, hsources⟩ => ?_
  refine ⟨?_, ?_, hdetail, hcount, hsources⟩
  · rw [hlinks]
    exact ht.1
  · rw [hqueues]
    exact ht.2

theorem ensures_readLifecycleEvent (maxDetailBytes : Nat) :
    Ensures (readLifecycleEvent maxDetailBytes) (fun e => e.detail.length ≤ maxDetailBytes) := by
  refine ensures_skip fun _ => ensures_skip fun _ => ensures_skip fun _ => ensures_skip fun _ =>
    ensures_skip fun _ => ?_
  refine ensures_skip fun _ => ensures_skip fun _ => ensures_skip fun _ => ?_
  exact ensures_bind (ensures_readBlob maxDetailBytes) fun detail hdetail => ensures_pure hdetail

theorem ensures_readAnomaly (maxDetailBytes : Nat) :
    Ensures (readAnomaly maxDetailBytes) (fun a => a.detail.length ≤ maxDetailBytes) := by
  refine ensures_skip fun _ => ensures_skip fun _ => ensures_skip fun _ => ensures_skip fun _ =>
    ensures_skip fun _ => ?_
  exact ensures_skip fun _ => ensures_bind (ensures_readBlob maxDetailBytes) fun detail hdetail => ensures_pure hdetail

theorem ensures_readFlowHead (maxKeyBytes : Nat) :
    Ensures (readFlowHead maxKeyBytes) (fun f => f.canonicalKey.length ≤ maxKeyBytes) := by
  refine ensures_skip fun _ => ensures_bind (ensures_readBlob maxKeyBytes) fun key hkey => ?_
  refine ensures_skip fun _ => ensures_skip fun _ => ensures_skip fun _ => ensures_skip fun _ =>
    ensures_skip fun _ => ?_
  exact ensures_skip fun _ => ensures_pure hkey

theorem ensures_readFlowTimes (t : PersistedFlow) :
    Ensures (readFlowTimes t) (fun f => f.canonicalKey = t.canonicalKey) := by
  refine ensures_skip fun _ => ensures_skip fun _ => ensures_skip fun _ => ensures_skip fun _ =>
    ensures_skip fun _ => ?_
  exact ensures_skip fun _ => ensures_skip fun _ => ensures_skip fun _ => ensures_pure rfl

/-- **A persisted flow that was read is within the bounds.** -/
theorem ensures_readPersistedFlow (limits : Limits) :
    Ensures (readPersistedFlow limits) (fun f => f.Decodable limits) := by
  refine ensures_bind (ensures_readFlowHead _) fun f₁ h₁ => ensures_bind (ensures_readFlowTimes f₁) fun f₂ h₂ => ?_
  refine ensures_bind (ensures_readList (ensures_readPersistedGeneration limits) _) fun gs hgs => ?_
  refine ensures_bind (ensures_readList (ensures_readLifecycleEvent _) _) fun history hhistory =>
    ensures_skip fun _ => ?_
  refine ensures_bind (ensures_readList (ensures_readAnomaly _) _) fun anomalies hanomalies => ensures_skip fun _ => ?_
  have hkey : f₂.canonicalKey.length ≤ limits.maxKeyBytes.toNat := by
    rw [h₂]
    exact h₁
  exact ensures_pure ⟨hkey, hgs.1, hgs.2, hhistory.1, hhistory.2, hanomalies.1, hanomalies.2⟩

end FlowObs
