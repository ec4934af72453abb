import FlowObs.Engine.Recovery

/-!
# The operations of the engine

The entry points of `engine_api.cpp` that change the state: opening and closing, registering and retiring sources, the
four ways evidence comes in, ticks and compaction.
-/

namespace FlowObs

namespace Engine

/-! ## Sources -/

/-- The checks of `register_source` on the descriptor alone. -/
def checkDescriptor (limits : Limits) (d : SourceDescriptor) : Except Error Unit := do
  require d.id.valid (invalidArgument "source descriptor has an invalid identity")
  require (!d.canonicalKey.isEmpty) (invalidArgument "source descriptor requires a canonical key")
  require (d.canonicalKey.length ≤ limits.maxKeyBytes.toNat) (limitExceeded "source key exceeds limits.max_key_bytes")
  require (d.id == sourceIdFromKey d.canonicalKey) (invalidArgument "source identity does not match its canonical key")

/-- `register_source`. A source that is known takes the new descriptor without a trace in the journal. -/
def registerSource (e : Engine) (d : SourceDescriptor) : Engine × Except Error Unit :=
  match checkDescriptor e.config.limits d with
  | .error err => (e, .error err)
  | .ok () =>
    if e.frozen then (e, .error ⟨.ShuttingDown, str "engine is frozen"⟩)
    else match e.sources.find? d.id with
      | some s =>
        if s.descriptor.canonicalKey ≠ d.canonicalKey then
          (e, .error ⟨.EvidenceConflict, str "source identity collision: two keys map to the same source identity"⟩)
        else ({ e with sources := e.sources.set { s with descriptor := d, retired := false } }, .ok ())
      | none =>
        if e.config.limits.maxSources.toNat ≤ e.sources.toList.length then
          (e, .error (limitExceeded "source registry is full"))
        else match e.appendSource d with
          | (e, .error err) => (e, .error err)
          | (e, .ok ()) => ({ e with sources := e.sources.set { descriptor := d, registeredAt := e.now } }, .ok ())

/-- **What `register_source` can do.** -/
inductive Registering (e : Engine) (d : SourceDescriptor) : Engine × Except Error Unit → Prop
  | invalid (err : Error) (hd : checkDescriptor e.config.limits d = .error err) : Registering e d (e, .error err)
  | frozen (hf : e.frozen = true) : Registering e d (e, .error ⟨.ShuttingDown, str "engine is frozen"⟩)
  | collision (s : SourceState) (hs : e.sources.find? d.id = some s)
    (hkey : s.descriptor.canonicalKey ≠ d.canonicalKey) :
      Registering e d
        (e, .error ⟨.EvidenceConflict, str "source identity collision: two keys map to the same source identity"⟩)
  | known (s : SourceState) (hd : checkDescriptor e.config.limits d = .ok ()) (hf : e.frozen = false)
      (hs : e.sources.find? d.id = some s) (hkey : s.descriptor.canonicalKey = d.canonicalKey) :
      Registering e d ({ e with sources := e.sources.set { s with descriptor := d, retired := false } }, .ok ())
  | full (hs : e.sources.find? d.id = none) : Registering e d (e, .error (limitExceeded "source registry is full"))
  | unjournaled (e₁ : Engine) (err : Error) (hs : e.sources.find? d.id = none)
    (hj : e.appendSource d = (e₁, .error err)) :
      Registering e d (e₁, .error err)
  | fresh (e₁ : Engine) (hd : checkDescriptor e.config.limits d = .ok ()) (hs : e.sources.find? d.id = none)
      (hroom : e.sources.toList.length < e.config.limits.maxSources.toNat) (hj : e.appendSource d = (e₁, .ok ())) :
      Registering e d ({ e₁ with sources := e₁.sources.set { descriptor := d, registeredAt := e₁.now } }, .ok ())

theorem registerSource_cases (e : Engine) (d : SourceDescriptor) : Registering e d (e.registerSource d) := by
  unfold registerSource
  split
  · rename_i err hd
    exact .invalid err hd
  · rename_i hd
    split
    · rename_i hf
      exact .frozen hf
    · rename_i hf
      split
      · rename_i s hs
        split
        · rename_i hkey
          exact .collision s hs hkey
        · rename_i hkey
          exact .known s hd (Bool.eq_false_iff.2 hf) hs (not_not.1 hkey)
      · rename_i hs
        split
        · exact .full hs
        · rename_i hroom
          split
          · rename_i e₁ err hj
            exact .unjournaled e₁ err hs hj
          · rename_i e₁ hj
            exact .fresh e₁ hd hs (Nat.not_le.1 hroom) hj

/-- A generation without the evidence of a source. -/
def dropBinding (id : SourceId) (g : GenerationRuntime) : GenerationRuntime :=
  { g with bindings := g.bindings.erase id }

theorem dropBinding_id (id : SourceId) (g : GenerationRuntime) : (dropBinding id g).id = g.id := rfl

/-- A flow without the evidence of a source. -/
def dropSource (id : SourceId) (f : FlowRuntime) : FlowRuntime :=
  { f with generations := f.generations.map (dropBinding id) (dropBinding_id id) }

theorem dropSource_id (id : SourceId) (f : FlowRuntime) : (dropSource id f).id = f.id := rfl

/-- `retire_source`: its evidence is removed everywhere and every flow is recomputed. -/
def retireSource (e : Engine) (id : SourceId) : Engine × Except Error Unit :=
  match e.sources.find? id with
  | none => (e, .error ⟨.NotFound, str "source is not registered"⟩)
  | some s =>
    let e := { e with sources := e.sources.set { s with retired := true }
                      flows := e.flows.map (dropSource id) (dropSource_id id) }
    (e.recomputeAll e.now (fun _ => true), .ok ())

/-! ## Evidence -/

/-- `ingest`. -/
def ingest (e : Engine) (obs : Observation) : Engine × Except Error IngestOutcome :=
  if !e.isOpen then (e, .error ⟨.NotOpen, str "engine is not open"⟩)
  else if e.frozen then (e, .error ⟨.ShuttingDown, str "engine is frozen"⟩)
  else ((e.applyLocked obs).1, .ok (e.applyLocked obs).2)

/-- The flow identity and the instant of receipt that `submit` and `enqueue` fill in. -/
def prefill (e : Engine) (obs : Observation) : Observation :=
  { obs with
    receivedAt := if obs.receivedAt.known then obs.receivedAt else e.now
    subject := { obs.subject with
      flow := if !obs.subject.flow.valid && !obs.subject.flowKey.isEmpty then flowIdFromKey obs.subject.flowKey
        else obs.subject.flow } }

/-- The observation that `submit` hands on: without capabilities of its own it takes those of the source. -/
def prepareSubmit (e : Engine) (obs : Observation) : Observation :=
  let prepared := e.prefill obs
  match e.sources.find? obs.key.source with
  | some s => if obs.capabilities.empty then { prepared with capabilities := s.descriptor.capabilities } else prepared
  | none => prepared

/-- `submit`. -/
def submit (e : Engine) (obs : Observation) : Engine × Except Error IngestOutcome :=
  if e.frozen then (e, .error ⟨.ShuttingDown, str "engine is frozen"⟩) else e.ingest (e.prepareSubmit obs)

/-- `enqueue`. -/
def enqueue (e : Engine) (obs : Observation) : Engine × IngestOutcome :=
  if !e.isOpen then (e, refusal .NotOpen (str "engine is not open"))
  else if e.frozen then (e, refusal .ShuttingDown (str "engine is frozen"))
  else if e.config.limits.maxPendingObservations.toNat ≤ e.queue.length then
    (e.count fun c => { c with observationsDroppedQueueFull := c.observationsDroppedQueueFull + 1 },
      { disposition := .DroppedQueueFull, code := .LimitExceeded
        detail := str "ingest queue is full; the observation was refused, not discarded" })
  else ({ e with queue := e.queue ++ [e.prefill obs] }, { disposition := .Queued })

/-- A batch taken from the queue is applied, under one lock. -/
def applyBatch (e : Engine) (batch : List Observation) : Engine :=
  (batch.foldl (fun e obs => (e.applyLocked obs).1) e).count fun c => { c with workerBatches := c.workerBatches + 1 }

/-- `drain`. A batch that is taken while the engine is closed is lost. -/
def drain (e : Engine) (maxObservations : Nat) : Engine × Except Error Unit :=
  let batch := e.queue.take maxObservations
  let e := { e with queue := e.queue.drop maxObservations }
  if batch.isEmpty then (e, .ok ())
  else if !e.isOpen then (e, .error ⟨.NotOpen, str "engine is not open"⟩)
  else (e.applyBatch batch, .ok ())

/-! ## Time, compaction, opening and closing -/

/-- A tick passes over a flow whose generations are all terminal. -/
def tickDue (f : FlowRuntime) : Bool := f.generations.toList.isEmpty || f.generations.toList.any (!isTerminal ·.state)

/-- `tick_locked`. -/
def tickLocked (e : Engine) (evaluatedAt : Timestamp) : Engine :=
  { { e with evaluationOverride := evaluatedAt }.recomputeAll evaluatedAt tickDue with evaluationOverride := {} }.count
    fun c => { c with ticks := c.ticks + 1 }

/-- `tick`. -/
def tick (e : Engine) (evaluatedAt : Timestamp) : Engine × Except Error Unit :=
  if !evaluatedAt.known then (e, .error (invalidArgument "tick requires a known evaluation instant"))
  else if !e.isOpen then (e, .error ⟨.NotOpen, str "engine is not open"⟩)
  else (e.tickLocked evaluatedAt, .ok ())

/-- `compact`. -/
def compact (e : Engine) : Engine × Except Error Unit := e.compactLocked

/-- `flush`. -/
def flush (e : Engine) : Engine := { e with journal := e.journal.map (·.flush.1) }

/-- `Engine::open`. -/
def openEngine (e : Engine) : Engine × Except Error Unit :=
  match e.config.validate with
  | .error err => (e, .error err)
  | .ok () =>
    if e.isOpen then (e, .error ⟨.AlreadyOpen, str "engine is already open"⟩)
    else match e.openJournalLocked with
      | (e, .error err) => (e, .error err)
      | (e, .ok ()) =>
        let e := { e with frozen := false, isOpen := true }
        (e.tickLocked e.now, .ok ())

/-- `Engine::close`: the journal is flushed and closed, and everything in memory is given up. -/
def close (e : Engine) : Engine :=
  if !e.isOpen && e.journal.isNone then e
  else
    { e with
      isOpen := false
      disk := match e.journal with
        | some j => some j.flush.1.close.1.file.bytes
        | none => e.disk
      journal := none
      flows := ∅, sources := ∅, registries := {}, queue := [] }.count fun c => { c with shutdowns := c.shutdowns + 1 }

/-- `save_snapshot` to a path with the given file, if any; also the handle it closed, with what is in the file then. -/
def saveSnapshot (e : Engine) (path : Str) (existing : Option (List UInt8)) : Except Error Journal := do
  let state := e.persistState
  let records ← encodeState state e.config.limits
  let j ← Journal.openFile path existing
    { limits := e.config.limits, recovery := e.config.recovery, truncateExisting := true }
  let (j, appended) := (j.setEpoch state.runtimeEpoch state.createdAt).append records
  appended
  let (j, flushed) := j.flush
  flushed
  let (j, closed) := j.close
  closed
  pure j

/-- `load_snapshot` after the file at the path has been read. -/
def loadRecords (e : Engine) (records : List Record) : Engine × Except Error Unit :=
  { e with flows := ∅, registries := {} }.restoreLocked records e.epoch

/-- The options under which `load_snapshot` opens the file. -/
def loadOptions (e : Engine) : JournalOpenOptions :=
  { limits := e.config.limits, recovery := e.config.recovery, readOnly := true, createIfMissing := false }

/-- `load_snapshot` from a path with the given file, if any. -/
def loadSnapshot (e : Engine) (path : Str) (existing : Option (List UInt8)) : Engine × Except Error Unit :=
  match Journal.openFile path existing e.loadOptions with
  | .error err => (e, .error err)
  | .ok j =>
    match j.readAll.2 with
    | .error err => (e, .error err)
    | .ok records => e.loadRecords records

/-! ## Runs -/

/-- What can happen to an engine in use, one whole call after the other. Batches that a worker holds are applied on
their own; `advance` is the clock. -/
inductive Op
  | ingest (obs : Observation)
  | submit (obs : Observation)
  | enqueue (obs : Observation)
  | drain (maxObservations : Nat)
  | work (batch : List Observation)
  | tick (evaluatedAt : Timestamp)
  | registerSource (d : SourceDescriptor)
  | retireSource (id : SourceId)
  | compact
  | flush
  | freeze
  | advance (clock : Timestamp)
deriving DecidableEq, Repr

/-- The state after an operation. -/
def step (e : Engine) : Op → Engine
  | .ingest obs => (e.ingest obs).1
  | .submit obs => (e.submit obs).1
  | .enqueue obs => (e.enqueue obs).1
  | .drain maxObservations => (e.drain maxObservations).1
  | .work batch => e.applyBatch batch
  | .tick evaluatedAt => (e.tick evaluatedAt).1
  | .registerSource d => (e.registerSource d).1
  | .retireSource id => (e.retireSource id).1
  | .compact => e.compact.1
  | .flush => e.flush
  | .freeze => { e with frozen := true }
  | .advance clock => { e with clock := clock }

end Engine

/-! ## Small inputs -/

/-- The descriptor of a source with a key. -/
def sampleSource (key : Str) (capabilities : SourceCapabilities) : SourceDescriptor :=
  { id := sourceIdFromKey key, canonicalKey := key, capabilities := capabilities }

/-- An observation of generation 1 of the flow `f`, by revision. -/
def sampleObservation (source : SourceId) (kind : ObservationKind) (revision : UInt64) (instant : Timestamp) :
    Observation :=
  { key := { source := source, incarnation := ⟨1⟩, epoch := ⟨1⟩, revision := ⟨revision⟩, sequence := ⟨revision⟩ }
    subject := { generation := ⟨1⟩, flowKey := str "f" }
    observedAt := instant, receivedAt := instant, kind := kind, evidence := .Complete, direction := .Forward }

/-- The observation with a byte counter. -/
def Observation.withBytes (obs : Observation) (bytes : UInt64) : Observation :=
  { obs with counters := { obs.counters with bytes := some bytes } }

/-- The flow of the sample observations. -/
def sampleFlow : FlowId := flowIdFromKey (str "f")

/-- An engine in use, without a journal, after a run. -/
def Engine.ranFrom (config : EngineConfig) (clock : Timestamp) (ops : List Engine.Op) : Engine :=
  ops.foldl Engine.step { config := config, clock := clock, isOpen := true }

end FlowObs
