import FlowObs.Text.Accepted
import FlowObs.Text.Layout

/-!
# The round trip of an observation

What is read back from the line of an observation is `reread`: a raw `@` identity is read as a key, and an empty list
of capabilities is left out, for which the parser takes the default. Of the observations that a line gives, those
survive whose identities all have keys; the source has none, since `parse_line` does not keep it.
-/

namespace FlowObs.Fo1

/-! ## The round trip -/

/-- `o'` is `o` in every field that the line of `o` carries: a key is carried when there is one, the identity always. -/
structure Carried (o o' : Observation) : Prop where
  key : o'.key = o.key
  sourceKey : o.sourceKey ≠ [] → o'.sourceKey = o.sourceKey
  capabilities : o'.capabilities = o.capabilities
  flow : o'.subject.flow = o.subject.flow
  generation : o'.subject.generation = o.subject.generation
  endpoint : o'.subject.endpoint = o.subject.endpoint
  peerEndpoint : o'.subject.peerEndpoint = o.subject.peerEndpoint
  path : o'.subject.path = o.subject.path
  queue : o'.subject.queue = o.subject.queue
  link : o'.subject.link = o.subject.link
  pathGeneration : o'.subject.pathGeneration = o.subject.pathGeneration
  hopCapacityUnits : o'.subject.hopCapacityUnits = o.subject.hopCapacityUnits
  flowKey : o.subject.flowKey ≠ [] → o'.subject.flowKey = o.subject.flowKey
  endpointKey : o.subject.endpointKey ≠ [] → o'.subject.endpointKey = o.subject.endpointKey
  peerEndpointKey : o.subject.peerEndpointKey ≠ [] → o'.subject.peerEndpointKey = o.subject.peerEndpointKey
  pathKey : o.subject.pathKey ≠ [] → o'.subject.pathKey = o.subject.pathKey
  queueKey : o.subject.queueKey ≠ [] → o'.subject.queueKey = o.subject.queueKey
  linkKey : o.subject.linkKey ≠ [] → o'.subject.linkKey = o.subject.linkKey
  observedAt : o'.observedAt = o.observedAt
  receivedAt : o'.receivedAt = o.receivedAt
  kind : o'.kind = o.kind
  direction : o'.direction = o.direction
  evidence : o'.evidence = o.evidence
  counters : o'.counters = o.counters
  coveredDuration : o'.coveredDuration = o.coveredDuration
  reportedRtt : o'.reportedRtt = o.reportedRtt
  schemaVersion : o'.schemaVersion = o.schemaVersion

/-- The observations that survive their line: the source is the identity of its own raw form, no identity is that of
the empty key, and there is a capability. -/
structure Survives (o : Observation) : Prop where
  source : makeId .source ([64] ++ hex16 o.key.source.value) = o.key.source
  flow : o.subject.flowKey ≠ []
  endpoint : o.subject.endpoint.valid → o.subject.endpointKey ≠ []
  peer : o.subject.peerEndpoint.valid → o.subject.peerEndpointKey ≠ []
  path : o.subject.path ≠ none → o.subject.pathKey ≠ []
  queue : o.subject.queue ≠ none → o.subject.queueKey ≠ []
  link : o.subject.link ≠ none → o.subject.linkKey ≠ []
  capabilities : o.capabilities.empty = false

/-- The identity of the empty key is not that of its raw form. -/
theorem reread_empty_key : ∀ d : IdDomain, makeId d ([64] ++ hex16 (makeId d []).value) ≠ makeId d [] := by
  intro d
  cases d <;> with_unfolding_all decide

/-- What is read back of an identity that is that of its key. -/
theorem makeId_idText {d : IdDomain} {key : Str} : makeId d (idText key (makeId d key).value) = makeId d key ↔
    key ≠ [] := by
  unfold idText
  by_cases h : key ≠ []
  · rw [if_pos h]
    simp [h]
  · rw [if_neg h]
    obtain rfl := not_not.1 h
    exact ⟨fun heq => absurd heq (reread_empty_key d), fun hne => absurd rfl hne⟩

/-- An endpoint that a line may leave out is read back when it has a key. -/
theorem endpoint_back {id : EndpointId} {key : Str}
    (h : id = default ∧ key = [] ∨ id = makeId .endpoint key) :
    (if id.valid then makeId .endpoint (idText key id.value) else default) = id ↔ (id.valid → key ≠ []) := by
  rcases h with ⟨rfl, rfl⟩ | rfl
  · have hzero : (default : EndpointId).value = 0 := rfl
    simp [OpaqueId.valid, hzero]
  · simp [makeId_valid, makeId_idText]

/-- An optional identity is read back when it has a key. -/
theorem option_back {d : IdDomain} {x : Option (OpaqueId d)} {key : Str}
    (h : x = none ∧ key = [] ∨ x = some (makeId d key)) :
    (x.map fun id => makeId d (idText key id.value)) = x ↔ (x ≠ none → key ≠ []) := by
  rcases h with ⟨rfl, rfl⟩ | rfl
  · simp
  · simp [makeId_idText]

theorem idText_of_ne {key : Str} (h : key ≠ []) (id : UInt64) : idText key id = key := if_pos h

/-- A key that an endpoint has is read back. -/
theorem endpoint_key_back {id : EndpointId} {key : Str} (h : id = default ∧ key = [] ∨ id = makeId .endpoint key)
    (hne : key ≠ []) :
    (if id.valid then idText key id.value else []) = key := by
  rcases h with ⟨-, hnil⟩ | rfl
  · exact absurd hnil hne
  · rw [if_pos (makeId_valid _ _), idText_of_ne hne]

/-- A key that an optional identity has is read back. -/
theorem option_key_back {d : IdDomain} {x : Option (OpaqueId d)} {key : Str}
    (h : x = none ∧ key = [] ∨ x = some (makeId d key))
    (hne : key ≠ []) : (x.map fun id => idText key id.value).getD [] = key := by
  rcases h with ⟨-, hnil⟩ | rfl
  · exact absurd hnil hne
  · exact idText_of_ne hne _

/-- **The round trip**: an observation that a line gives is accepted when it is written, and read back as it was just
when it survives its line. -/
theorem format_parse_iff_survives {line : Str} {lineNumber : Nat} {r : Record} (h : parseLine line lineNumber = .ok r)
    (hkind : r.kind = .Observation) (lineNumber' : Nat) :
    (∃ r', parseLine (formatObservation r.observation) lineNumber' = .ok r' ∧ r'.kind = .Observation ∧
      Carried r.observation r'.observation) ↔ Survives r.observation := by
  obtain ⟨hnamed, hflow, hinc, hgen⟩ := parseLine_observation h hkind
  generalize r.observation = o at *
  have hsource : idText o.sourceKey o.key.source.value = [64] ++ hex16 o.key.source.value := by simp [idText,
    hnamed.sourceKey]
  rw [parseLine_format o lineNumber' hinc hgen]
  constructor
  · rintro ⟨_, ⟨⟩, -, hcarried⟩
    have hkey := congrArg ObservationKey.source hcarried.key
    have hcaps := hcarried.capabilities
    simp only [reread, hsource] at hkey hcaps
    refine ⟨hkey, ?_, (endpoint_back hnamed.endpoint).1 hcarried.endpoint,
      (endpoint_back hnamed.peer).1 hcarried.peerEndpoint,
      (option_back hnamed.path).1 hcarried.path, (option_back hnamed.queue).1 hcarried.queue,
      (option_back hnamed.link).1 hcarried.link, ?_⟩
    · have hback : makeId .flow (idText o.subject.flowKey o.subject.flow.value) = o.subject.flow := hcarried.flow
      rw [hflow] at hback
      exact makeId_idText.1 hback
    · cases hempty : o.capabilities.empty with
      | false => rfl
      | true =>
        rw [if_pos hempty] at hcaps
        rw [← hcaps] at hempty
        exact absurd hempty (by decide)
  · intro hs
    refine ⟨_, rfl, rfl, ?_⟩
    exact
      { key := by simp only [reread, hsource, hs.source]
        sourceKey := fun hne => absurd hnamed.sourceKey hne
        capabilities := by simp only [reread, hs.capabilities, Bool.false_eq_true, if_false]
        flow := by
          show makeId .flow (idText o.subject.flowKey o.subject.flow.value) = o.subject.flow
          rw [hflow]
          exact makeId_idText.2 hs.flow
        generation := rfl
        endpoint := (endpoint_back hnamed.endpoint).2 hs.endpoint
        peerEndpoint := (endpoint_back hnamed.peer).2 hs.peer
        path := (option_back hnamed.path).2 hs.path
        queue := (option_back hnamed.queue).2 hs.queue
        link := (option_back hnamed.link).2 hs.link
        pathGeneration := rfl
        hopCapacityUnits := rfl
        flowKey := fun hne => idText_of_ne hne _
        endpointKey := endpoint_key_back hnamed.endpoint
        peerEndpointKey := endpoint_key_back hnamed.peer
        pathKey := option_key_back hnamed.path
        queueKey := option_key_back hnamed.queue
        linkKey := option_key_back hnamed.link
        observedAt := rfl
        receivedAt := rfl
        kind := rfl
        direction := rfl
        evidence := rfl
        counters := rfl
        coveredDuration := rfl
        reportedRtt := rfl
        schemaVersion := rfl }

/-- The example line of `docs/protocol.md`. -/
def openLine : Str :=
  str "OBS v=1 src=\"fabric-a\" inc=1 epoch=1 rev=1 seq=1 flow=\"tenant-7/flow-1\" gen=1 obs=1700000000000000000 kind=open "
    ++ str "dir=forward ev=complete ep=\"host-a:443\" peer=\"host-b:9000\" path=\"p0\" queue=\"q0\" bytes=0 pkts=0"

theorem openLine_reread : ((parseLine openLine 1).toOption.bind fun r =>
    (parseLine (formatObservation r.observation) 1).toOption.map
    fun r' => (r.kind == .Observation && r'.observation.key.source != r.observation.key.source)) = some true := by
  decide +kernel

theorem openLine_accepted : ∃ r r', parseLine openLine 1 = .ok r ∧ r.kind = .Observation ∧
    parseLine (formatObservation r.observation) 1 = .ok r' ∧ r'.observation.key.source ≠ r.observation.key.source := by
  have htwo {x : Except Error Record} {r : Record} (h : x.toOption = some r) : x = .ok r := by
    cases x with
    | error e => cases h
    | ok a => exact congrArg Except.ok (Option.some.inj h)
  obtain ⟨r, hr, h⟩ := Option.bind_eq_some_iff.1 openLine_reread
  obtain ⟨r', hr', h⟩ := Option.map_eq_some_iff.1 h
  simp only [Bool.and_eq_true, beq_iff_eq, bne_iff_ne] at h
  exact ⟨r, r', htwo hr, h.1, htwo hr', h.2⟩

/-- The source of the example is not the identity of its own raw form. -/
theorem format_parse_iff_survives_openLine : ∃ r, parseLine openLine 1 = .ok r ∧
    ¬ ∃ r', parseLine (formatObservation r.observation) 1 = .ok r' ∧ r'.kind = .Observation ∧
      Carried r.observation r'.observation := by
  obtain ⟨r, -, hparse, hkind, -⟩ := openLine_accepted
  refine ⟨r, hparse, mt (format_parse_iff_survives hparse hkind 1).1 fun hsurvives => ?_⟩
  have hother : ((parseLine openLine 1).toOption.map fun r =>
      makeId .source ([64] ++ hex16 r.observation.key.source.value) != r.observation.key.source) = some true := by
    decide +kernel
  rw [hparse] at hother
  exact bne_iff_ne.1 (Option.some.inj hother) hsurvives.source

/-- The source of the example is another one when its line is read back. -/
theorem format_parse_openLine : ¬ ∀ (line : Str) (lineNumber : Nat) (r : Record), parseLine line lineNumber = .ok r →
    r.kind = .Observation → ∃ r', parseLine (formatObservation r.observation) lineNumber = .ok r' ∧
    r'.kind = .Observation ∧
      Carried r.observation r'.observation := by
  intro h
  obtain ⟨r, r', hparse, hkind, hback, hne⟩ := openLine_accepted
  obtain ⟨r'', hback', -, hcarried⟩ := h openLine 1 r hparse hkind
  obtain rfl := Except.ok.inj (hback.symm.trans hback')
  exact hne (congrArg ObservationKey.source hcarried.key)

end FlowObs.Fo1
