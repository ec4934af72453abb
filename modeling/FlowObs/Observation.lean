import FlowObs.Config
import Mathlib.Data.Prod.Lex

/-!
# Observations

The evidence envelope of `observation.hpp`, its canonical serialisation and the digest that decides whether two
records under one key are the same evidence. The receive instant is not part of what the source said:
`contentDigest_received` is what makes a redelivery recognisable.
-/

namespace FlowObs

/-! ## Counters as supplied -/

/-- `CounterSet`: an absent counter is not a zero counter. -/
structure CounterSet where
  bytes : Option UInt64 := none
  packets : Option UInt64 := none
  retransmissions : Option UInt64 := none
deriving DecidableEq, Repr, Inhabited

/-- `CounterSet::any`. -/
def CounterSet.any (c : CounterSet) : Bool := c.bytes.isSome || c.packets.isSome || c.retransmissions.isSome

/-! ## Provenance and subject -/

/-- `ObservationKey`. -/
structure ObservationKey where
  source : SourceId := default
  incarnation : IncarnationId := default
  epoch : EpochId := default
  revision : RevisionId := default
  sequence : SequenceNo := default
deriving DecidableEq, Repr, Inhabited

/-- `SourceCapabilities`. -/
structure SourceCapabilities where
  assertsCompletion : Bool := false
  assertsReset : Bool := false
  assertsPath : Bool := false
  assertsQueue : Bool := false
  assertsCounters : Bool := true
  authoritativeIdentity : Bool := false
deriving DecidableEq, Repr, Inhabited

/-- `SourceCapabilities::empty`. -/
def SourceCapabilities.empty (c : SourceCapabilities) : Bool :=
  !c.assertsCompletion && !c.assertsReset && !c.assertsPath && !c.assertsQueue && !c.assertsCounters &&
    !c.authoritativeIdentity

/-- `SourceCapabilities::describe`. -/
def SourceCapabilities.describe (c : SourceCapabilities) : Str :=
  let names := (if c.assertsCompletion then [str "completion"] else []) ++
  (if c.assertsReset then [str "reset"] else [])
    ++ (if c.assertsPath then [str "path"] else []) ++ (if c.assertsQueue then [str "queue"] else [])
    ++ (if c.assertsCounters then [str "counters"] else [])
    ++ (if c.authoritativeIdentity then [str "identity"] else [])
  if names.isEmpty then str "none" else (names.intersperse (str ",")).flatten

/-- `SourceDescriptor`. -/
structure SourceDescriptor where
  id : SourceId := default
  canonicalKey : Str := []
  authority : UInt32 := 0
  capabilities : SourceCapabilities := {}
  advisoryOnly : Bool := false
deriving DecidableEq, Repr, Inhabited

/-- `ObservationSubject`. -/
structure ObservationSubject where
  flow : FlowId := default
  generation : GenerationId := default
  endpoint : EndpointId := default
  peerEndpoint : EndpointId := default
  path : Option PathId := none
  queue : Option QueueId := none
  link : Option LinkId := none
  pathGeneration : Option GenerationId := none
  hopCapacityUnits : List UInt64 := []
  flowKey : Str := []
  endpointKey : Str := []
  peerEndpointKey : Str := []
  pathKey : Str := []
  queueKey : Str := []
  linkKey : Str := []
deriving DecidableEq, Repr, Inhabited

/-- `ObservationSubject::valid`. -/
def ObservationSubject.valid (s : ObservationSubject) : Bool := s.flow.valid && s.generation.valid

/-- `kObservationSchemaVersion`. -/
def kObservationSchemaVersion : UInt32 := 1

/-- `Observation`. -/
structure Observation where
  key : ObservationKey := {}
  sourceKey : Str := []
  capabilities : SourceCapabilities := {}
  subject : ObservationSubject := {}
  observedAt : Timestamp := {}
  receivedAt : Timestamp := {}
  kind : ObservationKind := .Sample
  direction : Direction := .Unspecified
  evidence : Evidence := .Unknown
  counters : CounterSet := {}
  coveredDuration : Option Duration := none
  reportedRtt : Option Duration := none
  schemaVersion : UInt32 := kObservationSchemaVersion
deriving DecidableEq, Repr, Inhabited

/-- `Observation::valid`. -/
def Observation.valid (o : Observation) : Bool := o.key.source.valid && o.subject.valid

/-- `FlowGeneration`. -/
structure FlowGeneration where
  flow : FlowId := default
  generation : GenerationId := default
deriving DecidableEq, Repr, Inhabited

/-- `FlowGeneration::valid`. -/
def FlowGeneration.valid (g : FlowGeneration) : Bool := g.flow.valid && g.generation.valid

/-- `FlowGeneration::to_string`. -/
def FlowGeneration.toStr (g : FlowGeneration) : Str := g.flow.toStr ++ str "/" ++ g.generation.toStr

/-! ## The canonical form -/

/-- An optional field, `-` when absent. -/
def optionalText {α : Type} (f : α → Str) : Option α → Str
  | some a => f a
  | none => str "-"

/-- The canonical form up to the observation instant. -/
def Observation.canonicalHead (o : Observation) : Str :=
  str "obs v=" ++ decimal o.schemaVersion.toNat ++ str " src=" ++ o.key.source.toStr
    ++ str " inc=" ++ decimal o.key.incarnation.value.toNat ++ str " epoch=" ++ decimal o.key.epoch.value.toNat
    ++ str " rev=" ++ decimal o.key.revision.value.toNat ++ str " seq=" ++ decimal o.key.sequence.value.toNat
    ++ str " flow=" ++ o.subject.flow.toStr ++ str " gen=" ++ decimal o.subject.generation.value.toNat
    ++ str " ep=" ++ o.subject.endpoint.toStr ++ str " peer=" ++ o.subject.peerEndpoint.toStr
    ++ str " path=" ++ optionalText OpaqueId.toStr o.subject.path
    ++ str " queue=" ++ optionalText OpaqueId.toStr o.subject.queue
    ++ str " link=" ++ optionalText OpaqueId.toStr o.subject.link
    ++ str " pathgen=" ++ optionalText (fun g => decimal g.value.toNat) o.subject.pathGeneration
    ++ str " hopcap=" ++ (if o.subject.hopCapacityUnits.isEmpty then str "-"
        else ((o.subject.hopCapacityUnits.map (fun u => decimal u.toNat)).intersperse (str ",")).flatten)
    ++ str " kind=" ++ o.kind.name ++ str " dir=" ++ o.direction.name ++ str " ev=" ++ o.evidence.name
    ++ str " obs_at=" ++ decimalInt o.observedAt.nanos.toInt

/-- The canonical form after the instants. -/
def Observation.canonicalTail (o : Observation) : Str :=
  str " bytes=" ++ optionalText (fun v => decimal v.toNat) o.counters.bytes
    ++ str " packets=" ++ optionalText (fun v => decimal v.toNat) o.counters.packets
    ++ str " retx=" ++ optionalText (fun v => decimal v.toNat) o.counters.retransmissions
    ++ str " dur=" ++ optionalText (fun d => decimalInt d.nanos.toInt) o.coveredDuration
    ++ str " rtt=" ++ optionalText (fun d => decimalInt d.nanos.toInt) o.reportedRtt
    ++ str " caps=" ++ o.capabilities.describe

/-- `Observation::canonical_form`. -/
def Observation.canonicalForm (o : Observation) (includeReceiveTime : Bool) : Str :=
  o.canonicalHead ++ (if includeReceiveTime then str " rx_at=" ++ decimalInt o.receivedAt.nanos.toInt else [])
    ++ o.canonicalTail

/-- `content_digest`, which is `evidence_digest`: what the source said, without the receive instant. -/
def contentDigest (o : Observation) : UInt64 := fnv1a64Raw (o.canonicalForm false)

/-- What the digest reads. -/
theorem contentDigest_eq (o : Observation) :
    contentDigest o = fnv1a64Raw (o.canonicalHead ++ [] ++ o.canonicalTail) := by
  rw [contentDigest, Observation.canonicalForm, if_neg Bool.false_ne_true]

/-- The receive instant takes no part in the digest. -/
@[simp] theorem contentDigest_received (o : Observation) (t : Timestamp) :
    contentDigest { o with receivedAt := t } = contentDigest o := by
  rw [contentDigest_eq, contentDigest_eq]; rfl

/-- The source's canonical key text takes no part in the digest. -/
@[simp] theorem contentDigest_sourceKey (o : Observation) (k : Str) :
    contentDigest { o with sourceKey := k } = contentDigest o := by
  rw [contentDigest_eq, contentDigest_eq]; rfl

/-! ## The canonical order -/

/-- The part of an observation's key that orders a ledger. -/
@[ext] structure CanonicalKey where
  incarnation : IncarnationId
  epoch : EpochId
  revision : RevisionId
  sequence : SequenceNo
deriving DecidableEq, Repr, Inhabited

instance : LinearOrder CanonicalKey :=
  LinearOrder.lift' (fun k => toLex (k.incarnation, toLex (k.epoch, toLex (k.revision, k.sequence))))
    (fun a b h => by
      have h := congrArg ofLex h
      simp only [ofLex_toLex, Prod.mk.injEq, EmbeddingLike.apply_eq_iff_eq] at h
      exact CanonicalKey.ext h.1 h.2.1 h.2.2.1 h.2.2.2)

/-- The canonical key of an observation. -/
def Observation.canonicalKey (o : Observation) : CanonicalKey :=
  ⟨o.key.incarnation, o.key.epoch, o.key.revision, o.key.sequence⟩

/-- `canonical_less`. -/
def canonicalLess (a b : CanonicalKey) : Bool :=
  if a.incarnation ≠ b.incarnation then a.incarnation < b.incarnation
  else if a.epoch ≠ b.epoch then a.epoch < b.epoch
  else if a.revision ≠ b.revision then a.revision < b.revision
  else a.sequence < b.sequence

/-- **`canonical_less` is the lexicographic order.** -/
theorem canonicalLess_iff {a b : CanonicalKey} : canonicalLess a b = true ↔ a < b := by
  have hlt : a < b ↔ a.incarnation < b.incarnation ∨ a.incarnation = b.incarnation ∧ (a.epoch < b.epoch ∨
      a.epoch = b.epoch ∧ (a.revision < b.revision ∨ a.revision = b.revision ∧ a.sequence < b.sequence)) := by
    show toLex (a.incarnation, toLex (a.epoch, toLex (a.revision, a.sequence)))
      < toLex (b.incarnation, toLex (b.epoch, toLex (b.revision, b.sequence))) ↔ _
    simp only [Prod.Lex.toLex_lt_toLex]
  rw [hlt, canonicalLess]
  split <;> [skip; split <;> [skip; split]] <;> grind

/-- Keys that ascend are of incarnations and epochs that do. -/
theorem CanonicalKey.interval_le {a b : CanonicalKey} (h : a < b) :
    a.incarnation < b.incarnation ∨ a.incarnation = b.incarnation ∧ a.epoch ≤ b.epoch := by
  rw [← canonicalLess_iff] at h
  unfold canonicalLess at h
  grind

end FlowObs
