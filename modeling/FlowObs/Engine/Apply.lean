import FlowObs.Engine.Core

/-!
# Applying an observation

`apply_locked`, stage by stage. After validation, journalling and the resolution of the source and of the flow, the rest
works on the one flow: `FlowTx` is that flow with the registries and the counters, and a stage either goes on or leaves
with a refusal (`Exit`). `applyLocked` puts the stages together.
-/

namespace FlowObs

/-! ## Outcomes -/

/-- `IngestDisposition`. -/
inductive IngestDisposition
  | Applied | Duplicate | Refused | Queued | DroppedQueueFull
deriving DecidableEq, Repr, Inhabited

/-- `IngestOutcome`. -/
structure IngestOutcome where
  disposition : IngestDisposition := .Refused
  code : ErrorCode := .Ok
  detail : Str := []
  generation : FlowGeneration := {}
  stateBefore : FlowState := .Unknown
  stateAfter : FlowState := .Unknown
  cause : StateCause := .None
  transitions : UInt32 := 0
  anomalies : UInt32 := 0
deriving DecidableEq, Repr, Inhabited

/-- A refusal with its code and detail. -/
def refusal (code : ErrorCode) (detail : Str) : IngestOutcome :=
  { disposition := .Refused, code := code, detail := detail }

/-! ## Validation -/

/-- An identity given with its key must be the one derived from the key. -/
def identityAgrees {d : IdDomain} (id : OpaqueId d) (key : Str) : Bool := !id.valid || key.isEmpty || keyMatches id key

/-- `validate_observation`. -/
def validateObservation (limits : Limits) (o : Observation) : Except Error Unit := do
  require (o.schemaVersion == kObservationSchemaVersion)
    ⟨.VersionMismatch, str "observation schema version " ++ decimal o.schemaVersion.toNat
      ++ str " is not supported by this build"⟩
  require o.key.source.valid (invalidArgument "observation source identity is invalid")
  require o.key.incarnation.valid
    (invalidArgument "observation incarnation is invalid: an incarnation fence is required")
  require o.subject.generation.valid (invalidArgument "observation generation is invalid")
  require (!o.subject.flowKey.isEmpty) (invalidArgument "observation flow_key is required")
  require (o.subject.flowKey.length ≤ limits.maxKeyBytes.toNat)
    (limitExceeded "observation flow_key exceeds limits.max_key_bytes")
  require (!o.subject.flow.valid || keyMatches o.subject.flow o.subject.flowKey)
    (invalidArgument "observation flow identity does not match its canonical key")
  require (identityAgrees o.subject.endpoint o.subject.endpointKey)
    (invalidArgument "observation endpoint identity does not match its canonical key")
  require (o.subject.path.all (fun id => o.subject.pathKey.isEmpty || keyMatches id o.subject.pathKey))
    (invalidArgument "observation path identity does not match its canonical key")
  require (o.subject.queue.all (fun id => o.subject.queueKey.isEmpty || keyMatches id o.subject.queueKey))
    (invalidArgument "observation queue identity does not match its canonical key")
  require (o.subject.link.all (fun id => o.subject.linkKey.isEmpty || keyMatches id o.subject.linkKey))
    (invalidArgument "observation link identity does not match its canonical key")
  require o.observedAt.known
    (invalidArgument "observation observed_at is required: absence of a time is not evidence")
  require (!(o.evidence == .Unsupported && o.counters.any))
    (invalidArgument
      "evidence marked unsupported must not carry counter values; a value that does not exist is not zero")
  require (o.subject.hopCapacityUnits.length ≤ limits.maxPathHops.toNat)
    (limitExceeded "observation declares more hops than limits.max_path_hops")
  require (o.subject.pathGeneration.all (· == o.subject.generation))
    ⟨.StaleGeneration, str "observation declares path generation "
      ++ decimal ((o.subject.pathGeneration.map (·.value.toNat)).getD 0) ++ str " for flow generation "
      ++ decimal o.subject.generation.value.toNat⟩

/-- The observation with the instant of receipt and the flow identity filled in. -/
def prepare (atTime : Timestamp) (o : Observation) : Observation :=
  { o with
    receivedAt := if o.receivedAt.known then o.receivedAt else atTime
    subject := { o.subject with
      flow := if o.subject.flow.valid then o.subject.flow else flowIdFromKey o.subject.flowKey } }

/-! ## The flow of the observation -/

/-- A flow with the tables that the stages on it change. -/
structure FlowTx where
  flow : FlowRuntime
  registries : Registries
  counters : EngineCounters

namespace FlowTx

/-- Record an anomaly on the flow. -/
def note (tx : FlowTx) (limits : Limits) (anomaly : Anomaly) : FlowTx :=
  { tx with flow := tx.flow.note anomaly limits
            counters := { tx.counters with anomaliesRecorded := tx.counters.anomaliesRecorded + 1 } }

/-- Count a refusal. -/
def refused (tx : FlowTx) : FlowTx :=
  { tx with counters := { tx.counters with observationsRefused := tx.counters.observationsRefused + 1 } }

/-- Count an identity collision, on the flow too. -/
def collided (tx : FlowTx) : FlowTx :=
  { tx with flow := { tx.flow with keyCollisions := tx.flow.keyCollisions + 1 }
            counters := { tx.counters with identityCollisions := tx.counters.identityCollisions + 1 } }

end FlowTx

/-- What leaves the stages: a refusal of one of them, or the result of the last. -/
abbrev Exit := FlowTx × IngestOutcome

/-- The text of an identity collision. -/
def collisionText (existing key domain : Str) : Str :=
  str "identity collision: \"" ++ existing ++ str "\" and \"" ++ key ++ str "\" map to the same " ++ domain

/-- The canonical key must be that of the flow. A collision makes the flow conflicting. -/
def matchKey (limits : Limits) (atTime : Timestamp) (obs : Observation) (tx : FlowTx) : Except Exit FlowTx :=
  if tx.flow.canonicalKey = obs.subject.flowKey then .ok tx
  else
    let detail := collisionText tx.flow.canonicalKey obs.subject.flowKey (str "flow identity")
    let tx := tx.collided.note limits (makeAnomaly .IdentityCollision atTime obs detail)
    .error ({ tx with
      flow := { tx.flow with state := .Conflicting, cause := .AuthorityConflict }
      counters := { tx.counters with observationsConflicting := tx.counters.observationsConflicting + 1 } },
      refusal .EvidenceConflict detail)

/-- The `handle` lambda of `register_identity`, with the refusal when there is one. -/
def registerOne {d : IdDomain} (limits : Limits) (r : IdentityRegistry d) (id : OpaqueId d) (key : Str) :
    IdentityRegistry d × Option (AnomalyKind × Error) :=
  if !id.valid || key.isEmpty then (r, none)
  else match r.observe id key limits.maxFlows.toNat with
    | (r, .Registered) | (r, .Known) => (r, none)
    | (r, .Collision existing) =>
      (r, some (.IdentityCollision, ⟨.EvidenceConflict, collisionText existing key (str "identity")⟩))
    | (r, .Full) => (r, some (.LimitEviction, limitExceeded "identity registry is full"))

/-- `register_identity` on the registries: endpoint, peer endpoint, path, queue and link, up to the first refusal. -/
def registerIdentity (limits : Limits) (s : ObservationSubject) (r : Registries) :
    Registries × Option (AnomalyKind × Error) :=
  match registerOne limits r.endpoints s.endpoint s.endpointKey with
  | (endpoints, some e) => ({ r with endpoints }, some e)
  | (endpoints, none) =>
    match registerOne limits endpoints s.peerEndpoint s.peerEndpointKey with
    | (endpoints, some e) => ({ r with endpoints }, some e)
    | (endpoints, none) =>
      match registerOne limits r.paths (s.path.getD default) s.pathKey with
      | (paths, some e) => ({ r with endpoints, paths }, some e)
      | (paths, none) =>
        match registerOne limits r.queues (s.queue.getD default) s.queueKey with
        | (queues, some e) => ({ r with endpoints, paths, queues }, some e)
        | (queues, none) =>
          let (links, e) := registerOne limits r.links (s.link.getD default) s.linkKey
          ({ r with endpoints, paths, queues, links }, e)

/-- The identities of the observation are registered. -/
def registerIdentities (limits : Limits) (atTime : Timestamp) (obs : Observation) (tx : FlowTx) : Except Exit FlowTx :=
  match registerIdentity limits obs.subject tx.registries with
  | (registries, none) => .ok { tx with registries := registries }
  | (registries, some (kind, e)) =>
    let tx := { tx with registries := registries }
    let tx := if kind = .IdentityCollision then tx.collided else tx
    .error ((tx.note limits (makeAnomaly kind atTime obs e.message)).refused, refusal e.code e.message)

/-- The clock-skew check. A clamped observation goes on with its instant of receipt. -/
def clampSkew (limits : Limits) (freshness : FreshnessPolicy) (atTime : Timestamp) (obs : Observation) (tx : FlowTx) :
    Except Exit (FlowTx × Observation) :=
  if !exceedsClockSkew obs.observedAt obs.receivedAt limits.maxClockSkew then .ok (tx, obs)
  else if !freshness.clampFutureTimestamps then
    .error ((tx.note limits (makeAnomaly .ClockSkew atTime obs
        (str "observed_at is further ahead of received_at than limits.max_clock_skew and clamping is disabled"))).refused,
      refusal .OutOfRange (str "observed_at exceeds the tolerated clock skew"))
  else
    .ok (tx.note limits (makeAnomaly .ClockSkew atTime obs
      (str "observed_at was ahead of received_at and was clamped")), { obs with observedAt := obs.receivedAt })

/-- `evict_one_generation_locked`: the terminal generation with the lowest identity that is not the current one. -/
def FlowRuntime.evictOneGeneration (f : FlowRuntime) : Option FlowRuntime :=
  (f.generations.toList.find? (fun g => g.id != f.currentGeneration && isTerminal g.state)).map
    (fun g => { f with generations := f.generations.erase g.id })

/-- A full generation table gives up a terminal generation for a new one. -/
def makeGenerationRoom (limits : Limits) (atTime : Timestamp) (obs : Observation) (tx : FlowTx) : Except Exit FlowTx :=
  if (tx.flow.generations.find? obs.subject.generation).isSome
      || tx.flow.generations.toList.length < limits.maxGenerationsPerFlow.toNat then .ok tx
  else match tx.flow.evictOneGeneration with
    | some flow =>
      .ok { tx with flow := flow
                    counters := { tx.counters with generationsEvicted := tx.counters.generationsEvicted + 1 } }
    | none =>
      .error ((tx.note limits (makeAnomaly .LimitEviction atTime obs
          (str "generation table is full and no terminal generation can be evicted"))).refused,
        refusal .LimitExceeded (str "generation table is full"))

/-- `obtain_generation`. -/
def obtainGeneration (f : FlowRuntime) (id : GenerationId) (atTime : Timestamp) : GenerationRuntime :=
  (f.generations.find? id).getD { id := id, lastTouched := atTime }

/-- The generation is entered: a newer one becomes current, an older one is noted as superseded. -/
def enterGeneration (limits : Limits) (atTime : Timestamp) (obs : Observation) (tx : FlowTx) : FlowTx :=
  let wanted := obs.subject.generation
  let created : UInt64 := if (tx.flow.generations.find? wanted).isNone then 1 else 0
  let tx : FlowTx :=
    { tx with
      flow := { tx.flow with generations := tx.flow.generations.set (obtainGeneration tx.flow wanted atTime) }
      counters := { tx.counters with generationsCreated := tx.counters.generationsCreated + created } }
  if !tx.flow.currentGeneration.valid || tx.flow.currentGeneration < wanted then
    { tx with flow := { tx.flow with currentGeneration := wanted } }
  else if wanted < tx.flow.currentGeneration then
    tx.note limits (makeAnomaly .StaleGenerationEvidence atTime obs
      (str "evidence names a superseded generation; it is retained as history and cannot support current attribution"))
  else tx

/-- The source table of the generation has room for the source. -/
def checkSourceRoom (limits : Limits) (atTime : Timestamp) (obs : Observation) (tx : FlowTx) : Except Exit FlowTx :=
  let g := obtainGeneration tx.flow obs.subject.generation atTime
  if (g.bindings.find? obs.key.source).isSome || g.bindings.toList.length < limits.maxSourcesPerFlow.toNat then .ok tx
  else
    .error ((tx.note limits (makeAnomaly .LimitEviction atTime obs
      (str "per-generation source table is full"))).refused,
      refusal .LimitExceeded (str "per-generation source table is full"))

/-- `obtain_binding`. -/
def obtainBinding (limits : Limits) (replaying : Bool) (g : GenerationRuntime) (source : SourceId)
    (generation : FlowGeneration) : SourceBinding :=
  (g.bindings.find? source).getD
    { source := source
      ledger := .configure source generation limits.maxObservationsPerSourceFlow.toNat
      restored := replaying
      reconfirmed := !replaying }

/-- The binding after the ledger has taken the observation. -/
def SourceBinding.take (b : SourceBinding) (replaying : Bool) (obs : Observation) : SourceBinding × InsertResult :=
  let (ledger, r) := b.ledger.insert obs
  match r.kind with
  | .Accepted => ({ b with ledger := ledger, cached := none, reconfirmed := b.reconfirmed || !replaying }, r)
  | .Refused => ({ b with ledger := ledger, refusedObservations := b.refusedObservations + 1 }, r)
  | .Duplicate | .ContentConflict => ({ b with ledger := ledger }, r)

/-- The flow with the observation in the ledger of its source, and what the ledger answered. -/
def insertEvidence (limits : Limits) (replaying : Bool) (atTime : Timestamp) (obs : Observation) (f : FlowRuntime) :
    FlowRuntime × InsertResult :=
  let g := obtainGeneration f obs.subject.generation atTime
  let b := obtainBinding limits replaying g obs.key.source ⟨f.id, g.id⟩
  let (b, r) := b.take replaying obs
  ({ f with generations := f.generations.set { g with bindings := g.bindings.set b } }, r)

/-- What the answer of the ledger does to the flow and to the counters. -/
def settleInsert (limits : Limits) (atTime : Timestamp) (obs : Observation) (r : InsertResult) (tx : FlowTx) : FlowTx :=
  match r.kind with
  | .Accepted =>
    { tx with flow := { tx.flow with revision := tx.flow.revision.next }
              counters := { tx.counters with observationsApplied := tx.counters.observationsApplied + 1 } }
  | .Duplicate =>
    { tx with counters := { tx.counters with observationsDuplicate := tx.counters.observationsDuplicate + 1 } }
  | .ContentConflict =>
    { tx with counters := { tx.counters with observationsConflicting := tx.counters.observationsConflicting + 1 } }.note
      limits (makeAnomaly .SequenceConflict atTime obs r.detail)
  | .Refused =>
    tx.refused.note limits (makeAnomaly (if r.code = .StaleRevision then .LateEvidenceRejected else .MalformedEvidence)
      atTime obs r.detail)

/-- The disposition of an answer. -/
def InsertKind.disposition : InsertKind → IngestDisposition
  | .Accepted => .Applied
  | .Duplicate => .Duplicate
  | .ContentConflict | .Refused => .Refused

/-- The flow and the generation are touched. -/
def FlowRuntime.touch (f : FlowRuntime) (g : GenerationId) (atTime : Timestamp) : FlowRuntime :=
  { f with lastTouched := atTime
           generations := f.generations.set { obtainGeneration f g atTime with lastTouched := atTime } }

/-- The apply and recompute stages of `apply_locked`. A refusal by the ledger returns before the recomputation. -/
def applyEvidence (config : EngineConfig) (sources : SourceTable) (ctx : FreshnessContext) (replaying : Bool)
    (atTime : Timestamp) (obs : Observation) (tx : FlowTx) : FlowTx × IngestOutcome :=
  let before := obtainGeneration tx.flow obs.subject.generation atTime
  let inserted := insertEvidence config.limits replaying atTime obs tx.flow
  let tx := settleInsert config.limits atTime obs inserted.2 { tx with flow := inserted.1 }
  let outcome : IngestOutcome :=
    { disposition := inserted.2.kind.disposition, code := inserted.2.code, detail := inserted.2.detail
      generation := ⟨tx.flow.id, before.id⟩, stateBefore := before.state }
  if inserted.2.kind = .Refused then (tx, outcome)
  else
    let touched := tx.flow.touch obs.subject.generation atTime
    let report := recomputeReport config sources ctx atTime touched
    let flow := recomputeFlow config sources ctx atTime touched
    let after := obtainGeneration flow obs.subject.generation atTime
    ({ tx with flow := flow, counters := tx.counters.addReport report },
      { outcome with stateAfter := after.state, cause := after.cause
                     transitions := UInt32.ofNat report.events.length
                     anomalies := report.anomaliesRecorded.toUInt32 })

/-- The stages of `apply_locked` on the flow of the observation, in order. -/
def applyToFlow (config : EngineConfig) (sources : SourceTable) (ctx : FreshnessContext) (replaying : Bool)
    (atTime : Timestamp) (obs : Observation) (tx : FlowTx) : Except Exit Exit := do
  let tx ← matchKey config.limits atTime obs tx
  let tx ← registerIdentities config.limits atTime obs tx
  let (tx, obs) ← clampSkew config.limits config.freshness atTime obs tx
  let tx ← makeGenerationRoom config.limits atTime obs tx
  let tx ← checkSourceRoom config.limits atTime obs (enterGeneration config.limits atTime obs tx)
  pure (applyEvidence config sources ctx replaying atTime obs tx)

/-- The result of the stages, whichever way they end. -/
def Exit.ofExcept : Except Exit Exit → Exit
  | .error x => x
  | .ok x => x

namespace Engine

/-! ## The tables of the engine -/

/-- Refuse an observation before its flow is known. -/
def refuse (e : Engine) (code : ErrorCode) (detail : Str) : Engine × IngestOutcome :=
  (e.count fun c => { c with observationsRefused := c.observationsRefused + 1 }, refusal code detail)

/-- An unknown source as it is registered by its first observation: it is granted nothing. -/
def unregisteredSource (atTime : Timestamp) (source : SourceId) : SourceState where
  descriptor := { id := source, canonicalKey := str "unregistered:" ++ source.toStr, capabilities := {} }
  registeredAt := atTime

/-- The source of the observation. -/
def resolveSource (e : Engine) (atTime : Timestamp) (source : SourceId) : Except Error Engine :=
  match e.sources.find? source with
  | some s => if s.retired then .error ⟨.NotFound, str "source has been retired"⟩ else .ok e
  | none =>
    if e.config.limits.maxSources.toNat ≤ e.sources.toList.length then .error (limitExceeded "source registry is full")
    else .ok { e with sources := e.sources.set (unregisteredSource atTime source) }

/-- The better of two flows to evict: terminal, the least recently touched, then the lowest identity. -/
def betterVictim (best : Option FlowRuntime) (f : FlowRuntime) : Option FlowRuntime :=
  if !isTerminal f.state then best
  else match best with
    | none => some f
    | some b =>
      if f.lastTouched < b.lastTouched || (f.lastTouched == b.lastTouched && f.id < b.id) then some f else some b

/-- The flow that `evict_one_flow_locked` gives up. -/
def victim (e : Engine) : Option FlowRuntime := e.flows.toList.foldl betterVictim none

/-- `evict_one_flow_locked`. -/
def evictOneFlow (e : Engine) : Option Engine :=
  e.victim.map (fun f => { e with flows := e.flows.erase f.id }.count
    fun c => { c with flowsEvicted := c.flowsEvicted + 1 })

/-- There is room for one more flow, after an eviction when the table is full. -/
def makeFlowRoom (e : Engine) : Engine × Bool :=
  if e.flows.toList.length < e.config.limits.maxFlows.toNat then (e, true)
  else match e.evictOneFlow with
    | none => (e, false)
    | some e => (e, e.flows.toList.length < e.config.limits.maxFlows.toNat)

/-- A flow as it is created for its first observation. -/
def createFlow (e : Engine) (atTime : Timestamp) (obs : Observation) : FlowRuntime where
  id := obs.subject.flow
  canonicalKey := obs.subject.flowKey
  createdAt := atTime
  stateChangedAt := atTime
  restored := e.replaying
  restoredEpoch := if e.replaying then e.replayEpoch else e.epoch
  lastTouched := atTime
  history := ({} : LifecycleHistory).setCapacity e.config.limits.maxHistoryPerFlow.toNat

/-- The flow of the observation, found or created. -/
def resolveFlow (e : Engine) (atTime : Timestamp) (obs : Observation) : Engine × Option FlowRuntime :=
  match e.flows.find? obs.subject.flow with
  | some f => (e, some f)
  | none =>
    let room := e.makeFlowRoom
    if room.2 then
      (room.1.count fun c => { c with flowsCreated := c.flowsCreated + 1 }, some (room.1.createFlow atTime obs))
    else (room.1, none)

/-- The end of the stages on a flow: what they changed is stored. -/
def store (e : Engine) (tx : FlowTx) : Engine :=
  { e with flows := e.flows.set tx.flow, registries := tx.registries, counters := tx.counters }

/-- The part of `apply_locked` after the observation is journalled. -/
def applyJournaled (e : Engine) (atTime : Timestamp) (obs : Observation) : Engine × IngestOutcome :=
  match e.resolveSource atTime obs.key.source with
  | .error err => e.refuse err.code err.message
  | .ok e =>
    match e.resolveFlow atTime obs with
    | (e, none) => e.refuse .LimitExceeded (str "flow table is full and no terminal flow can be evicted")
    | (e, some flow) =>
      let x := Exit.ofExcept (applyToFlow e.config e.sources e.context e.replaying atTime obs
        ⟨flow, e.registries, e.counters⟩)
      (e.store x.1, x.2)

/-- An observation is counted as received. -/
def received (e : Engine) : Engine := e.count fun c => { c with observationsReceived := c.observationsReceived + 1 }

@[simp] theorem received_config (e : Engine) : e.received.config = e.config := rfl
@[simp] theorem received_replaying (e : Engine) : e.received.replaying = e.replaying := rfl

/-- `apply_locked`. The observation is journalled before it is applied. -/
def applyLocked (e : Engine) (incoming : Observation) : Engine × IngestOutcome :=
  let atTime := e.instant
  let e := e.received
  match validateObservation e.config.limits incoming with
  | .error err => e.refuse err.code err.message
  | .ok () =>
    let obs := prepare atTime incoming
    if e.replaying then e.applyJournaled atTime obs
    else
      let journaled := e.appendObservation obs
      match journaled.2 with
      | .error err => journaled.1.refuse err.code (str "durable log refused the observation: " ++ err.message)
      | .ok () => journaled.1.applyJournaled atTime obs

end Engine

end FlowObs
