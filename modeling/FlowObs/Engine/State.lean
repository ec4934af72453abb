import FlowObs.Reconcile
import FlowObs.Lib.Ring

/-!
# The runtime state

The mutable records of `engine_impl.hpp`: what the engine keeps for a source of one generation (`SourceBinding`), for a
generation, for a flow and for a registered source, with the identity registries. Tables that the source keeps as
sorted vectors or ordered maps are `SortedVec`s of records that carry their own key.
-/

namespace FlowObs

/-! ## Records of the flow view -/

/-- `Anomaly`. -/
structure Anomaly where
  kind : AnomalyKind := .None
  atTime : Timestamp := {}
  observedAt : Timestamp := {}
  generation : FlowGeneration := {}
  source : SourceId := default
  detail : Str := []
deriving DecidableEq, Repr, Inhabited

/-- `LifecycleEvent`. -/
structure LifecycleEvent where
  atTime : Timestamp := {}
  observedAt : Timestamp := {}
  generation : FlowGeneration := {}
  fromState : FlowState := .Unknown
  toState : FlowState := .Unknown
  cause : StateCause := .None
  source : SourceId := default
  detail : Str := []
deriving DecidableEq, Repr, Inhabited

/-- `LifecycleHistory`. -/
abbrev LifecycleHistory := Ring LifecycleEvent

/-! ## Runtime records -/

/-- `SourceBinding`. The cached fold is absent while `cache_valid` is false. -/
structure SourceBinding where
  source : SourceId := default
  ledger : SourceLedger := {}
  restored : Bool := false
  reconfirmed : Bool := true
  refusedObservations : UInt32 := 0
  promotedAnomalyKinds : UInt32 := 0
  staleEpochEvents : UInt32 := 0
  staleIncarnationEvents : UInt32 := 0
  clockSkewEvents : UInt32 := 0
  unsupportedEvents : UInt32 := 0
  incompleteEvents : UInt32 := 0
  cached : Option SourceView := none
deriving DecidableEq, Repr, Inhabited

/-- `GenerationRuntime`. -/
structure GenerationRuntime where
  id : GenerationId := default
  state : FlowState := .Unknown
  cause : StateCause := .None
  firstObservedAt : Timestamp := {}
  lastObservedAt : Timestamp := {}
  lastReceivedAt : Timestamp := {}
  lastProgressAt : Timestamp := {}
  closedAt : Timestamp := {}
  coverage : Coverage := {}
  endpointA : EndpointId := default
  endpointB : EndpointId := default
  bindings : SortedVec SourceBinding.source := ∅
  lastTouched : Timestamp := {}
deriving DecidableEq, Repr, Inhabited

/-- `FlowRuntime`. -/
structure FlowRuntime where
  id : FlowId := default
  canonicalKey : Str := []
  keyCollisions : UInt64 := 0
  currentGeneration : GenerationId := default
  revision : RevisionId := default
  state : FlowState := .Unknown
  cause : StateCause := .None
  coverage : Coverage := {}
  createdAt : Timestamp := {}
  stateChangedAt : Timestamp := {}
  firstObservedAt : Timestamp := {}
  lastObservedAt : Timestamp := {}
  lastReceivedAt : Timestamp := {}
  lastProgressAt : Timestamp := {}
  endpointA : EndpointId := default
  endpointB : EndpointId := default
  generations : SortedVec GenerationRuntime.id := ∅
  history : LifecycleHistory := {}
  anomalies : List Anomaly := []
  anomaliesDropped : UInt64 := 0
  restored : Bool := false
  restoredEpoch : RuntimeEpoch := default
  lastTouched : Timestamp := {}
deriving DecidableEq, Repr, Inhabited

/-- `SourceState`. -/
structure SourceState where
  descriptor : SourceDescriptor := {}
  retired : Bool := false
  registeredAt : Timestamp := {}
deriving DecidableEq, Repr, Inhabited

/-- The identity under which a source is registered. -/
def SourceState.id (s : SourceState) : SourceId := s.descriptor.id

/-- The registered sources. -/
abbrev SourceTable := SortedVec SourceState.id

/-! ## Identity registries -/

/-- `IdentityRegistry`. -/
abbrev IdentityRegistry (d : IdDomain) := SortedVec (fun p : OpaqueId d × Str => p.1)

/-- `IdentityRegistry::Outcome`. A collision carries the key already registered. -/
inductive RegistryOutcome
  | Registered | Known | Collision (existing : Str) | Full
deriving DecidableEq, Repr

/-- `observe`. -/
def IdentityRegistry.observe {d : IdDomain} (r : IdentityRegistry d) (id : OpaqueId d) (key : Str) (capacity : Nat) :
    IdentityRegistry d × RegistryOutcome :=
  match r.find? id with
  | some p => (r, if p.2 = key then .Known else .Collision p.2)
  | none => if capacity ≤ r.toList.length then (r, .Full) else (r.set (id, key), .Registered)

/-! ## Anomalies -/

/-- `note`: the bounded anomaly list of a flow drops its oldest entry. -/
def FlowRuntime.note (f : FlowRuntime) (anomaly : Anomaly) (limits : Limits) : FlowRuntime :=
  if limits.maxAnomaliesPerFlow = 0 then { f with anomaliesDropped := f.anomaliesDropped + 1 }
  else if limits.maxAnomaliesPerFlow.toNat ≤ f.anomalies.length then
    { f with anomalies := f.anomalies.tail ++ [anomaly], anomaliesDropped := f.anomaliesDropped + 1 }
  else { f with anomalies := f.anomalies ++ [anomaly] }

/-- `make_anomaly`. -/
def makeAnomaly (kind : AnomalyKind) (atTime : Timestamp) (obs : Observation) (detail : Str) : Anomaly where
  kind := kind
  atTime := atTime
  observedAt := obs.observedAt
  generation := ⟨obs.subject.flow, obs.subject.generation⟩
  source := obs.key.source
  detail := detail

end FlowObs
