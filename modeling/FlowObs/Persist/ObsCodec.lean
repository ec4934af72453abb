import FlowObs.Observation
import FlowObs.Lib.Binary

/-!
# The observation codec

`encode_observation` and `decode_observation`: the payload of a journalled observation. The canonical key of the source
is not written. An observation within the bounds that the decoder checks (`Observation.Decodable`) is read back but for
that key (`decodeObservation_encode`).
-/

namespace FlowObs

open Binary

/-! ## Identities derived from keys -/

/-- `flow_id_from_key`. -/
def flowIdFromKey (key : Str) : FlowId := makeId .flow key

/-- `source_id_from_key`. -/
def sourceIdFromKey (key : Str) : SourceId := makeId .source key

/-- `key_matches`. -/
def keyMatches {d : IdDomain} (id : OpaqueId d) (key : Str) : Bool := id.valid && !key.isEmpty && makeId d key == id

/-! ## Fields -/

def writeCapabilities (c : SourceCapabilities) : List UInt8 :=
  boolean c.assertsCompletion ++ boolean c.assertsReset ++ boolean c.assertsPath ++ boolean c.assertsQueue
    ++ boolean c.assertsCounters ++ boolean c.authoritativeIdentity

def readCapabilities : Reader SourceCapabilities := do
  let completion ← readBoolean
  let reset ← readBoolean
  let path ← readBoolean
  let queue ← readBoolean
  let counters ← readBoolean
  let identity ← readBoolean
  pure ⟨completion, reset, path, queue, counters, identity⟩

@[simp] theorem readCapabilities_write (c : SourceCapabilities) (rest : List UInt8) :
    readCapabilities.run (writeCapabilities c ++ rest) = some (c, rest) := by
  simp [readCapabilities, writeCapabilities, List.append_assoc]

def putId {d : IdDomain} (id : OpaqueId d) : List UInt8 := u64 id.value
def readId (d : IdDomain) : Reader (OpaqueId d) := OpaqueId.mk <$> readU64
def putNum {d : NumDomain} (id : NumericId d) : List UInt8 := u64 id.value
def readNum (d : NumDomain) : Reader (NumericId d) := NumericId.mk <$> readU64
def putTime (t : Timestamp) : List UInt8 := i64 t.nanos
def readTime : Reader Timestamp := Timestamp.mk <$> readI64
def putDuration (d : Duration) : List UInt8 := i64 d.nanos
def readDuration : Reader Duration := Duration.mk <$> readI64

@[simp] theorem readId_put {d : IdDomain} (id : OpaqueId d) (rest : List UInt8) :
    (readId d).run (putId id ++ rest) = some (id, rest) := by simp [readId, putId]
@[simp] theorem readNum_put {d : NumDomain} (id : NumericId d) (rest : List UInt8) :
    (readNum d).run (putNum id ++ rest) = some (id, rest) := by simp [readNum, putNum]
@[simp] theorem readTime_put (t : Timestamp) (rest : List UInt8) :
    readTime.run (putTime t ++ rest) = some (t, rest) := by
  simp [readTime, putTime]
@[simp] theorem readDuration_put (d : Duration) (rest : List UInt8) :
    readDuration.run (putDuration d ++ rest) = some (d, rest) := by simp [readDuration, putDuration]

@[simp] theorem readOptional_id {d : IdDomain} (id : Option (OpaqueId d)) (rest : List UInt8) :
    (readOptional (readId d)).run (optional putId id ++ rest) = some (id, rest) :=
  readOptional_optional fun a _ => readId_put a rest
@[simp] theorem readOptional_num {d : NumDomain} (id : Option (NumericId d)) (rest : List UInt8) :
    (readOptional (readNum d)).run (optional putNum id ++ rest) = some (id, rest) :=
  readOptional_optional fun a _ => readNum_put a rest
@[simp] theorem readOptional_u64 (v : Option UInt64) (rest : List UInt8) :
    (readOptional readU64).run (optional u64 v ++ rest) = some (v, rest) :=
  readOptional_optional fun a _ => readU64_u64 a rest
@[simp] theorem readOptional_duration (v : Option Duration) (rest : List UInt8) :
    (readOptional readDuration).run (optional putDuration v ++ rest) = some (v, rest) :=
  readOptional_optional fun a _ => readDuration_put a rest

@[simp] theorem readKind_u8 (k : ObservationKind) (rest : List UInt8) :
    (readEnum ObservationKind.ofU8?).run (u8 k.toU8 ++ rest) = some (k, rest) := readEnum_u8 (by simp) rest
@[simp] theorem readDirection_u8 (k : Direction) (rest : List UInt8) :
    (readEnum Direction.ofU8?).run (u8 k.toU8 ++ rest) = some (k, rest) := readEnum_u8 (by simp) rest
@[simp] theorem readEvidence_u8 (k : Evidence) (rest : List UInt8) :
    (readEnum Evidence.ofU8?).run (u8 k.toU8 ++ rest) = some (k, rest) := readEnum_u8 (by simp) rest

/-! ## Observations -/

/-- The fields of the key, in the order both sides use. -/
def putKey (k : ObservationKey) : List UInt8 :=
  putId k.source ++ putNum k.incarnation ++ putNum k.epoch ++ putNum k.revision ++ putNum k.sequence

def readKey : Reader ObservationKey := do
  let source ← readId .source
  let incarnation ← readNum .incarnation
  let epoch ← readNum .epoch
  let revision ← readNum .revision
  let sequence ← readNum .sequence
  pure { source, incarnation, epoch, revision, sequence }

@[simp] theorem readKey_put (k : ObservationKey) (rest : List UInt8) :
    readKey.run (putKey k ++ rest) = some (k, rest) := by
  simp [readKey, putKey, List.append_assoc]

/-- The identities of the subject. -/
def putSubjectIds (s : ObservationSubject) : List UInt8 :=
  putId s.flow ++ putNum s.generation ++ putId s.endpoint ++ putId s.peerEndpoint ++ optional putId s.path
    ++ optional putId s.queue ++ optional putId s.link ++ optional putNum s.pathGeneration

def readSubjectIds : Reader ObservationSubject := do
  let flow ← readId .flow
  let generation ← readNum .generation
  let endpoint ← readId .endpoint
  let peerEndpoint ← readId .endpoint
  let path ← readOptional (readId .path)
  let queue ← readOptional (readId .queue)
  let link ← readOptional (readId .link)
  let pathGeneration ← readOptional (readNum .generation)
  pure { flow, generation, endpoint, peerEndpoint, path, queue, link, pathGeneration }

theorem readSubjectIds_put (s : ObservationSubject) (rest : List UInt8) :
    readSubjectIds.run (putSubjectIds s ++ rest) = some ({ s with
      hopCapacityUnits := [], flowKey := [], endpointKey := [], peerEndpointKey := [], pathKey := [], queueKey := []
      linkKey := [] }, rest) := by
  simp [readSubjectIds, putSubjectIds, List.append_assoc]

/-- The capacities and the keys of the subject. -/
def putSubjectKeys (s : ObservationSubject) : List UInt8 :=
  putList u64 s.hopCapacityUnits ++ blob s.flowKey ++ blob s.endpointKey ++ blob s.peerEndpointKey ++ blob s.pathKey
    ++ blob s.queueKey ++ blob s.linkKey

def readSubjectKeys (limits : Limits) (s : ObservationSubject) : Reader ObservationSubject := do
  let hopCapacityUnits ← readList limits.maxPathHops.toNat readU64
  let flowKey ← readBlob limits.maxKeyBytes.toNat
  let endpointKey ← readBlob limits.maxKeyBytes.toNat
  let peerEndpointKey ← readBlob limits.maxKeyBytes.toNat
  let pathKey ← readBlob limits.maxKeyBytes.toNat
  let queueKey ← readBlob limits.maxKeyBytes.toNat
  let linkKey ← readBlob limits.maxKeyBytes.toNat
  pure { s with hopCapacityUnits, flowKey, endpointKey, peerEndpointKey, pathKey, queueKey, linkKey }

/-- What the observation says: instants, kind, direction, quality, counters and durations. -/
def putContent (o : Observation) : List UInt8 :=
  putTime o.observedAt ++ putTime o.receivedAt ++ u8 o.kind.toU8 ++ u8 o.direction.toU8 ++ u8 o.evidence.toU8
    ++ optional u64 o.counters.bytes ++ optional u64 o.counters.packets ++ optional u64 o.counters.retransmissions
    ++ optional putDuration o.coveredDuration ++ optional putDuration o.reportedRtt

def readContent (o : Observation) : Reader Observation := do
  let observedAt ← readTime
  let receivedAt ← readTime
  let kind ← readEnum ObservationKind.ofU8?
  let direction ← readEnum Direction.ofU8?
  let evidence ← readEnum Evidence.ofU8?
  let bytes ← readOptional readU64
  let packets ← readOptional readU64
  let retransmissions ← readOptional readU64
  let coveredDuration ← readOptional readDuration
  let reportedRtt ← readOptional readDuration
  pure { o with observedAt, receivedAt, kind, direction, evidence, counters := { bytes, packets, retransmissions }
                coveredDuration, reportedRtt }

theorem readContent_put (o o' : Observation) (rest : List UInt8) :
    (readContent o').run (putContent o ++ rest) = some ({ o' with
      observedAt := o.observedAt, receivedAt := o.receivedAt, kind := o.kind, direction := o.direction
      evidence := o.evidence, counters := o.counters, coveredDuration := o.coveredDuration
      reportedRtt := o.reportedRtt }, rest) := by
  simp [readContent, putContent, List.append_assoc]

/-- `encode_observation`. -/
def encodeObservation (o : Observation) : List UInt8 :=
  u32 o.schemaVersion ++ putKey o.key ++ writeCapabilities o.capabilities ++ putSubjectIds o.subject
    ++ putSubjectKeys o.subject ++ putContent o

/-- `decode_observation`. -/
def decodeObservation (limits : Limits) : Reader Observation := do
  let schemaVersion ← readU32
  let key ← readKey
  let capabilities ← readCapabilities
  let ids ← readSubjectIds
  let subject ← readSubjectKeys limits ids
  readContent { key, capabilities, subject, schemaVersion }

/-- The bounds that the decoder checks. -/
structure Observation.Decodable (limits : Limits) (o : Observation) : Prop where
  hops : o.subject.hopCapacityUnits.length ≤ limits.maxPathHops.toNat
  flowKey : o.subject.flowKey.length ≤ limits.maxKeyBytes.toNat
  endpointKey : o.subject.endpointKey.length ≤ limits.maxKeyBytes.toNat
  peerEndpointKey : o.subject.peerEndpointKey.length ≤ limits.maxKeyBytes.toNat
  pathKey : o.subject.pathKey.length ≤ limits.maxKeyBytes.toNat
  queueKey : o.subject.queueKey.length ≤ limits.maxKeyBytes.toNat
  linkKey : o.subject.linkKey.length ≤ limits.maxKeyBytes.toNat

theorem readSubjectKeys_put {limits : Limits} {o : Observation} (h : o.Decodable limits)
    (hk : limits.maxKeyBytes.toNat < 2 ^ 32) (s : ObservationSubject) (rest : List UInt8) :
    (readSubjectKeys limits s).run (putSubjectKeys o.subject ++ rest) = some ({ s with
      hopCapacityUnits := o.subject.hopCapacityUnits, flowKey := o.subject.flowKey, endpointKey := o.subject.endpointKey
      peerEndpointKey := o.subject.peerEndpointKey, pathKey := o.subject.pathKey, queueKey := o.subject.queueKey
      linkKey := o.subject.linkKey }, rest) := by
  have hb : ∀ {v : Str} (rest : List UInt8), v.length ≤ limits.maxKeyBytes.toNat →
      (readBlob limits.maxKeyBytes.toNat).run (blob v ++ rest) = some (v, rest) := fun rest hv =>
    readBlob_blob hv (lt_of_le_of_lt hv hk)
  have hl : ∀ rest : List UInt8, (readList limits.maxPathHops.toNat readU64).run
      (putList u64 o.subject.hopCapacityUnits ++ rest) = some (o.subject.hopCapacityUnits, rest) := fun rest =>
    readList_putList h.hops (lt_of_le_of_lt h.hops limits.maxPathHops.toNat_lt) fun a _ rest => readU64_u64 a rest
  simp [readSubjectKeys, putSubjectKeys, List.append_assoc, hl, hb _ h.flowKey, hb _ h.endpointKey,
    hb _ h.peerEndpointKey, hb _ h.pathKey, hb _ h.queueKey, hb _ h.linkKey]

/-- **Reading back an observation**: all of it but the source's canonical key. The key bound is below `2^32`, as a
validated one is. -/
theorem decodeObservation_encode {limits : Limits} {o : Observation} (h : o.Decodable limits)
    (hk : limits.maxKeyBytes.toNat < 2 ^ 32) (rest : List UInt8) :
    (decodeObservation limits).run (encodeObservation o ++ rest) = some ({ o with sourceKey := [] }, rest) := by
  simp [decodeObservation, encodeObservation, List.append_assoc, readSubjectIds_put, readSubjectKeys_put h hk,
    readContent_put]

theorem ensures_readSubjectKeys (limits : Limits) (t : ObservationSubject) : Ensures (readSubjectKeys limits t)
    (fun s => ({ subject := s } : Observation).Decodable limits) := by
  refine ensures_bind (ensures_readList (ensures_trivial _) _) fun hops hhops => ?_
  refine ensures_bind (ensures_readBlob _) fun flowKey hflow =>
    ensures_bind (ensures_readBlob _) fun endpointKey hend => ?_
  refine ensures_bind (ensures_readBlob _) fun peerKey hpeer =>
    ensures_bind (ensures_readBlob _) fun pathKey hpath => ?_
  refine ensures_bind (ensures_readBlob _) fun queueKey hqueue =>
    ensures_bind (ensures_readBlob _) fun linkKey hlink => ?_
  exact ensures_pure ⟨hhops.1, hflow, hend, hpeer, hpath, hqueue, hlink⟩

/-- The bounds are about the subject alone. -/
theorem Observation.Decodable.of_subject {limits : Limits} {o o' : Observation} (h : o.Decodable limits)
    (hs : o'.subject = o.subject) : o'.Decodable limits := by
  obtain ⟨h₁, h₂, h₃, h₄, h₅, h₆, h₇⟩ := h
  exact ⟨hs ▸ h₁, hs ▸ h₂, hs ▸ h₃, hs ▸ h₄, hs ▸ h₅, hs ▸ h₆, hs ▸ h₇⟩

/-- **An observation that was decoded is within the bounds.** -/
theorem ensures_decodeObservation (limits : Limits) :
    Ensures (decodeObservation limits) (fun o => o.Decodable limits) := by
  refine ensures_skip fun _ => ensures_skip fun _ => ensures_skip fun _ => ensures_skip fun ids => ?_
  refine ensures_bind (ensures_readSubjectKeys limits ids) fun subject hsubject => ?_
  refine ensures_skip fun _ => ensures_skip fun _ => ensures_skip fun _ => ensures_skip fun _ =>
    ensures_skip fun _ => ?_
  refine ensures_skip fun _ => ensures_skip fun _ => ensures_skip fun _ => ensures_skip fun _ =>
    ensures_skip fun _ => ?_
  exact ensures_pure (hsubject.of_subject rfl)

/-- **An observation is read back exactly when it is within the decoder's bounds.** -/
theorem decodeObservation_encode_iff {limits : Limits} {o : Observation} (hk : limits.maxKeyBytes.toNat < 2 ^ 32) :
    (decodeObservation limits).run (encodeObservation o) = some ({ o with sourceKey := [] }, []) ↔
    o.Decodable limits := by
  constructor
  · intro h
    exact (ensures_decodeObservation limits _ _ _ h).of_subject rfl
  · intro h
    have hread := decodeObservation_encode h hk []
    rwa [List.append_nil] at hread

end FlowObs
