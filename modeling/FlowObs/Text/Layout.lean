import FlowObs.Text.Fields

/-!
# The fields of an observation

What `format_observation` writes is a list of fields (`layout`), each with the text it is written as and the value
that is read from it. The fields have their effects one after the other (`setAll_layout`), so that the line is always
accepted, as the observation `reread`.
-/

namespace FlowObs.Fo1

theorem isKeyByte_name (f : ObsField) :
    ∀ c ∈ f.name, isKeyByte c = true := List.all_eq_true.1 (by cases f <;> with_unfolding_all decide)

theorem lookup_name (f : ObsField) :
    lookup ObsField.all ObsField.name f.name = some f := by cases f <;> with_unfolding_all decide

/-! ## The fields of an observation -/

/-- A field of a line: the text it is written as, and the value it is read as. -/
structure Entry where
  field : ObsField
  written : Str
  value : Str
  reads : Written written value

/-- A field whose value needs no quotes. -/
def plainEntry (f : ObsField) (value : Str) (h : ∀ c ∈ value, isPlain c = true) : Entry := ⟨f, value, value, .plain h⟩

/-- A number. -/
def numberEntry (f : ObsField) (n : UInt64) : Entry := plainEntry f (decimal n.toNat) isPlain_decimal

/-- An instant or a span. -/
def nanosEntry (f : ObsField) (n : Int64) : Entry := plainEntry f (decimalInt n.toInt) isPlain_decimalInt

/-- A counter that may be absent. -/
def counterEntry (f : ObsField) (n : Option UInt64) : Entry :=
  plainEntry f (optionalText (fun v => decimal v.toNat) n) (isPlain_optionalText n)

/-- An identity. -/
def idEntry (f : ObsField) (key : Str) (id : UInt64) : Entry :=
  ⟨f, appendIdOrKey key id, idText key id, .id key id⟩

/-- The fields that `format_observation` writes behind the version. -/
def layout (o : Observation) : List Entry :=
  [idEntry .src o.sourceKey o.key.source.value, idEntry .flow o.subject.flowKey o.subject.flow.value,
    numberEntry .gen o.subject.generation.value, numberEntry .inc o.key.incarnation.value,
    numberEntry .epoch o.key.epoch.value, numberEntry .rev o.key.revision.value, numberEntry .seq o.key.sequence.value]
  ++ (if o.subject.endpoint.valid then [idEntry .ep o.subject.endpointKey o.subject.endpoint.value] else [])
  ++ (if o.subject.peerEndpoint.valid then
    [idEntry .peer o.subject.peerEndpointKey o.subject.peerEndpoint.value] else [])
  ++ (o.subject.path.map fun id => idEntry .path o.subject.pathKey id.value).toList
  ++ (o.subject.queue.map fun id => idEntry .queue o.subject.queueKey id.value).toList
  ++ (o.subject.link.map fun id => idEntry .link o.subject.linkKey id.value).toList
  ++ (o.subject.pathGeneration.map fun g => numberEntry .pathgen g.value).toList
  ++ (if o.subject.hopCapacityUnits ≠ [] then
      [plainEntry .hopcap (formatHops o.subject.hopCapacityUnits) (isPlain_hops _)] else [])
  ++ [nanosEntry .obs o.observedAt.nanos]
  ++ (if o.receivedAt.known then [nanosEntry .rx o.receivedAt.nanos] else [])
  ++ [plainEntry .kind o.kind.name (isPlain_kind _), plainEntry .dir o.direction.name (isPlain_direction _),
    plainEntry .ev o.evidence.name (isPlain_evidence _), counterEntry .bytes o.counters.bytes,
    counterEntry .pkts o.counters.packets, counterEntry .retx o.counters.retransmissions]
  ++ (o.coveredDuration.map fun d => nanosEntry .dur d.nanos).toList
  ++ (o.reportedRtt.map fun d => nanosEntry .rtt d.nanos).toList
  ++ (if !o.capabilities.empty then [plainEntry .caps (formatCapabilities o.capabilities)
    (isPlain_capabilities _)] else [])
  ++ (if o.schemaVersion ≠ kObservationSchemaVersion then
      [plainEntry .schema (decimal o.schemaVersion.toNat) isPlain_decimal] else [])

/-- The text of fields. -/
def textOf (entries : List Entry) : Str := entries.flatMap fun e => field e.field.name e.written

@[simp] theorem textOf_nil : textOf [] = [] := rfl

@[simp] theorem textOf_cons (e : Entry) (entries : List Entry) :
    textOf (e :: entries) = field e.field.name e.written ++ textOf entries := rfl

@[simp] theorem textOf_append (l m : List Entry) : textOf (l ++ m) = textOf l ++ textOf m := List.flatMap_append

@[simp] theorem textOf_ite (c : Prop) [Decidable c] (l m : List Entry) :
    textOf (if c then l else m) = if c then textOf l else textOf m := apply_ite textOf c l m

theorem textOf_toList {α : Type} (f : ObsField) (written value : α → Str) (h : ∀ a, Written (written a) (value a))
    (x : Option α) : textOf (x.map fun a => ⟨f, written a, value a, h a⟩).toList =
    optionalField f.name (x.map written) := by
  cases x with
  | none => rfl
  | some a => exact List.append_nil _

theorem optionalField_ite (c : Prop) [Decidable c] (name : Str) (x y : Option Str) :
    optionalField name (if c then x else y) = if c then optionalField name x else optionalField name y :=
  apply_ite (optionalField name) c x y

theorem optionalField_none (name : Str) : optionalField name none = [] := rfl
theorem optionalField_some (name value : Str) : optionalField name (some value) = field name value := rfl

/-- **`format_observation` writes the fields of the layout.** -/
theorem formatObservation_eq (o : Observation) :
    formatObservation o = str "OBS" ++
    (field (str "v") (decimal kTextObservationVersion.toNat) ++ textOf (layout o)) := by
  unfold formatObservation layout
  simp only [idEntry, numberEntry, nanosEntry, counterEntry, plainEntry, textOf_append, textOf_ite, textOf_cons,
    textOf_nil, textOf_toList, optionalField_ite, optionalField_none, optionalField_some, List.append_assoc,
    List.append_nil]
  rfl

/-- Fields are read as their values. -/
theorem spells_textOf (size : Nat) :
    ∀ entries : List Entry, Spells size (textOf entries) (entries.map fun e => (e.field.name, e.value))
  | [] => Spells.nil size
  | e :: entries => Spells.cons (isKeyByte_name e.field) e.reads (spells_textOf size entries)

theorem untrimmed_textOf : ∀ entries : List Entry, Untrimmed (textOf entries)
  | [] => .of_forall (by simp)
  | e :: entries => (untrimmed_field e.reads).append (untrimmed_textOf entries)

theorem length_layout (o : Observation) : (layout o).length ≤ 28 := by
  have hite (c : Prop) [Decidable c] (e : Entry) : (if c then [e] else []).length ≤ 1 := by split <;> simp
  have hopt (x : Option Entry) : x.toList.length ≤ 1 := by cases x <;> simp
  have happend {l m : List Entry} {a b : Nat} (hl : l.length ≤ a) (hm : m.length ≤ b) : (l ++ m).length ≤ a + b := by
    rw [List.length_append]
    omega
  unfold layout
  refine Nat.le_trans (happend (b := 1)
    (happend (b := 1) (happend (b := 1) (happend (b := 1) (happend (b := 6) (happend (b := 1)
    (happend (b := 1) (happend (b := 1)
      (happend (b := 1) (happend (b := 1) (happend (b := 1) (happend (b := 1) (happend (b := 1)
    (happend (b := 1) (a := 7) ?_ ?_) ?_) ?_) ?_) ?_) ?_) ?_) ?_) ?_) ?_) ?_) ?_) ?_) ?_) (by decide)
  all_goals first | exact hite _ _ | exact hopt _ | exact Nat.le_refl _

/-! ## Reading the fields -/

/-- The effect of fields. -/
def setAll (entries : List Entry) (o : Observation) : Option Observation :=
  entries.foldlM (fun o e => e.field.set? e.value o) o

@[simp] theorem setAll_nil (o : Observation) : setAll [] o = some o := rfl

@[simp] theorem setAll_cons (e : Entry) (entries : List Entry) (o : Observation) :
    setAll (e :: entries) o = (e.field.set? e.value o).bind (setAll entries) := rfl

theorem setAll_append (l m : List Entry) (o : Observation) : setAll (l ++ m) o = (setAll l o).bind (setAll m) :=
  List.foldlM_append

/-- Tokens that are these fields have their effect. -/
theorem foldlM_readObsField : ∀ {entries : List Entry} {ts : List Token} {s : ObsState} {o : Observation},
    (∀ t ∈ ts, t.hasValue = true) →
    ts.map (fun t => (t.key, t.value)) = entries.map (fun e => (e.field.name, e.value)) →
    setAll entries s.observation = some o → ts.foldlM readObsField s = .ok
      { observation := o, haveSrc := s.haveSrc || entries.any (fun e => e.field == .src),
        haveFlow := s.haveFlow || entries.any (fun e => e.field == .flow),
        haveObsAt := s.haveObsAt || entries.any (fun e => e.field == .obs),
        haveKind := s.haveKind || entries.any (fun e => e.field == .kind) }
  | [], [], s, o, _, _, hset => by
    obtain rfl := Option.some.inj hset
    simp
  | [], _ :: _, _, _, _, hmap, _ => by simp at hmap
  | _ :: _, [], _, _, _, hmap, _ => by simp at hmap
  | e :: entries, t :: ts, s, o, hall, hmap, hset => by
    simp only [List.map_cons, List.cons.injEq, Prod.mk.injEq] at hmap
    obtain ⟨⟨hkey, hvalue⟩, hrest⟩ := hmap
    rw [setAll_cons, Option.bind_eq_some_iff] at hset
    obtain ⟨o', hfield, hset⟩ := hset
    have hread : readObsField s t = .ok (s.note e.field o') := by
      rw [readObsField, if_neg (by simp [hall t List.mem_cons_self]), hkey, lookup_name, hvalue]
      simp only [hfield, orFail_some, ok_bind]
    rw [List.foldlM_cons, hread, ok_bind,
      foldlM_readObsField (fun t ht => hall t (List.mem_cons_of_mem _ ht)) hrest hset]
    simp [ObsState.note, Bool.or_assoc]

/-- What is read back from the line of an observation. -/
def reread (o : Observation) : Observation where
  key :=
    { o.key with source := makeId .source (idText o.sourceKey o.key.source.value) }
  capabilities := if o.capabilities.empty then {} else o.capabilities
  subject :=
    { flow := makeId .flow (idText o.subject.flowKey o.subject.flow.value)
      flowKey := idText o.subject.flowKey o.subject.flow.value
      generation := o.subject.generation
      endpoint :=
        if o.subject.endpoint.valid then makeId .endpoint
          (idText o.subject.endpointKey o.subject.endpoint.value) else default
      endpointKey := if o.subject.endpoint.valid then idText o.subject.endpointKey o.subject.endpoint.value else []
      peerEndpoint :=
        if o.subject.peerEndpoint.valid then
          makeId .endpoint (idText o.subject.peerEndpointKey o.subject.peerEndpoint.value) else default
      peerEndpointKey :=
        if o.subject.peerEndpoint.valid then idText o.subject.peerEndpointKey o.subject.peerEndpoint.value else []
      path := o.subject.path.map fun id => makeId .path (idText o.subject.pathKey id.value)
      pathKey := (o.subject.path.map fun id => idText o.subject.pathKey id.value).getD []
      queue := o.subject.queue.map fun id => makeId .queue (idText o.subject.queueKey id.value)
      queueKey := (o.subject.queue.map fun id => idText o.subject.queueKey id.value).getD []
      link := o.subject.link.map fun id => makeId .link (idText o.subject.linkKey id.value)
      linkKey := (o.subject.link.map fun id => idText o.subject.linkKey id.value).getD []
      pathGeneration := o.subject.pathGeneration
      hopCapacityUnits := o.subject.hopCapacityUnits }
  observedAt := o.observedAt
  receivedAt := o.receivedAt
  kind := o.kind
  direction := o.direction
  evidence := o.evidence
  counters := o.counters
  coveredDuration := o.coveredDuration
  reportedRtt := o.reportedRtt
  schemaVersion := o.schemaVersion

/-- A field that is there only under a condition. -/
theorem setAll_ite {c : Prop} [Decidable c] {e : Entry} {o o' : Observation}
    (hthere : c → e.field.set? e.value o = some o')
    (hnot : ¬ c → o = o') : setAll (if c then [e] else []) o = some o' := by
  by_cases h : c
  · rw [if_pos h, setAll_cons, hthere h]
    rfl
  · rw [if_neg h, hnot h]
    rfl

/-- A field that is there when there is a value for it. -/
theorem setAll_toList {α : Type} {f : α → Entry} {x : Option α} {o o' : Observation}
    (hthere : ∀ a, x = some a → (f a).field.set? (f a).value o = some o') (hnot : x = none → o = o') :
    setAll (x.map f).toList o = some o' := by
  cases x with
  | none => rw [hnot rfl]; rfl
  | some a =>
    show setAll [f a] o = some o'
    rw [setAll_cons, hthere a rfl]
    rfl

theorem setAll_step {l m : List Entry} {a b c : Observation} (hl : setAll l a = some b) (hm : setAll m b = some c) :
    setAll (l ++ m) a = some c := by
  rw [setAll_append, hl, Option.bind_some, hm]

/-- What is read back from the identities and counts that every line has. -/
def rereadHead (o : Observation) : Observation :=
  { key := (reread o).key
    subject :=
      { flow := (reread o).subject.flow, flowKey := (reread o).subject.flowKey, generation :=
        (reread o).subject.generation } }

/-- What is read back up to the subject. -/
def rereadSubject (o : Observation) : Observation := { key := (reread o).key, subject := (reread o).subject }

/-- What is read back up to the counters. -/
def rereadCounters (o : Observation) : Observation :=
  { rereadSubject o with
    observedAt := o.observedAt, receivedAt := o.receivedAt, kind := o.kind, direction := o.direction,
    evidence := o.evidence
    counters := o.counters }

theorem setAll_head (o : Observation) :
    setAll [idEntry .src o.sourceKey o.key.source.value, idEntry .flow o.subject.flowKey o.subject.flow.value,
      numberEntry .gen o.subject.generation.value, numberEntry .inc o.key.incarnation.value,
      numberEntry .epoch o.key.epoch.value, numberEntry .rev o.key.revision.value,
      numberEntry .seq o.key.sequence.value] {}
      = some (rereadHead o) := by
  simp [idEntry, numberEntry, plainEntry, ObsField.set?, rereadHead, reread]

/-- The fields of the subject that a line may leave out. -/
theorem setAll_subject (o : Observation) {entries : List Entry} (h : setAll entries {} = some (rereadHead o)) :
    setAll (entries
      ++ (if o.subject.endpoint.valid then [idEntry .ep o.subject.endpointKey o.subject.endpoint.value] else [])
      ++ (if o.subject.peerEndpoint.valid then
        [idEntry .peer o.subject.peerEndpointKey o.subject.peerEndpoint.value] else [])
      ++ (o.subject.path.map fun id => idEntry .path o.subject.pathKey id.value).toList
      ++ (o.subject.queue.map fun id => idEntry .queue o.subject.queueKey id.value).toList
      ++ (o.subject.link.map fun id => idEntry .link o.subject.linkKey id.value).toList
      ++ (o.subject.pathGeneration.map fun g => numberEntry .pathgen g.value).toList
      ++ (if o.subject.hopCapacityUnits ≠ [] then
          [plainEntry .hopcap (formatHops o.subject.hopCapacityUnits) (isPlain_hops _)] else [])) {}
      = some (rereadSubject o) := by
  let s : ObservationSubject := (reread o).subject
  let hops := { s with hopCapacityUnits := [] }
  let pathgen := { hops with pathGeneration := none }
  let link := { pathgen with link := none, linkKey := [] }
  let queue := { link with queue := none, queueKey := [] }
  let path := { queue with path := none, pathKey := [] }
  let peer := { path with peerEndpoint := default, peerEndpointKey := [] }
  refine setAll_step (b := { key := (reread o).key, subject := hops })
    (setAll_step (b := { key := (reread o).key, subject := pathgen })
      (setAll_step (b := { key := (reread o).key, subject := link })
        (setAll_step (b := { key := (reread o).key, subject := queue })
          (setAll_step (b := { key := (reread o).key, subject := path })
            (setAll_step (b := { key := (reread o).key, subject := peer }) (setAll_step h ?_) ?_) ?_) ?_) ?_) ?_) ?_
  · refine setAll_ite (fun h => ?_) (fun h => ?_)
    · simp [idEntry, ObsField.set?, s, hops, pathgen, link, queue, path, peer, rereadHead, reread, h]
    · simp [s, hops, pathgen, link, queue, path, peer, rereadHead, reread, h]
  · refine setAll_ite (fun h => ?_) (fun h => ?_)
    · simp [idEntry, ObsField.set?, s, hops, pathgen, link, queue, path, peer, reread, h]
    · simp [s, hops, pathgen, link, queue, path, peer, reread, h]
  · refine setAll_toList (fun id h => ?_) (fun h => ?_)
    · simp [idEntry, ObsField.set?, s, hops, pathgen, link, queue, path, reread, h]
    · simp [s, hops, pathgen, link, queue, path, reread, h]
  · refine setAll_toList (fun id h => ?_) (fun h => ?_)
    · simp [idEntry, ObsField.set?, s, hops, pathgen, link, queue, reread, h]
    · simp [s, hops, pathgen, link, queue, reread, h]
  · refine setAll_toList (fun id h => ?_) (fun h => ?_)
    · simp [idEntry, ObsField.set?, s, hops, pathgen, link, reread, h]
    · simp [s, hops, pathgen, link, reread, h]
  · refine setAll_toList (fun g h => ?_) (fun h => ?_)
    · simp [numberEntry, plainEntry, ObsField.set?, s, hops, pathgen, reread, h]
    · simp [s, hops, pathgen, reread, h]
  · refine setAll_ite (fun h => ?_) (fun h => ?_)
    · simp [plainEntry, ObsField.set?, s, hops, rereadSubject, reread, parseHops_format h]
    · simp [s, hops, rereadSubject, reread, not_not.1 h]

/-- **The fields of the layout make the observation that is read back.** -/
theorem setAll_layout (o : Observation) : setAll (layout o) {} = some (reread o) := by
  refine setAll_step (b := { reread o with schemaVersion := kObservationSchemaVersion })
    (setAll_step (b := { rereadCounters o with coveredDuration := o.coveredDuration, reportedRtt := o.reportedRtt })
      (setAll_step (b := { rereadCounters o with coveredDuration := o.coveredDuration })
        (setAll_step (b := rereadCounters o)
          (setAll_step (b := { rereadSubject o with observedAt := o.observedAt, receivedAt := o.receivedAt })
            (setAll_step (b := { rereadSubject o with observedAt := o.observedAt })
              (setAll_step (setAll_subject o (setAll_head o)) ?_) ?_) ?_) ?_) ?_) ?_) ?_
  · simp [nanosEntry, plainEntry, ObsField.set?]
  · refine setAll_ite (fun h => ?_) (fun h => ?_)
    · simp [nanosEntry, plainEntry, ObsField.set?]
    · have hzero : o.receivedAt = {} := by
        simpa [Timestamp.known, Timestamp.ext_iff] using h
      rw [hzero]
      rfl
  · simp [counterEntry, plainEntry, ObsField.set?, rereadCounters]
  · refine setAll_toList (fun d h => ?_) (fun h => ?_)
    · simp [nanosEntry, plainEntry, ObsField.set?, h]
    · rw [h]; rfl
  · refine setAll_toList (fun d h => ?_) (fun h => ?_)
    · simp [nanosEntry, plainEntry, ObsField.set?, h]
    · rw [h]; rfl
  · refine setAll_ite (fun h => ?_) (fun h => ?_)
    · have hsome : o.capabilities.empty = false := by simpa using h
      simp [plainEntry, ObsField.set?, rereadCounters, rereadSubject, reread, hsome]
    · have hnone : o.capabilities.empty = true := by simpa using h
      simp [rereadCounters, rereadSubject, reread, hnone]
  · refine setAll_ite (fun h => ?_) (fun h => ?_)
    · simp [plainEntry, ObsField.set?, reread]
    · simp [reread, not_not.1 h]

theorem directives_ne : str "OBS" ≠ str "FREEZE" ∧ str "OBS" ≠ str "SRC" ∧ str "OBS" ≠ str "AT" ∧
    str "OBS" ≠ str "TICK" := by
  with_unfolding_all decide

/-- **What `format_observation` writes is always accepted**, as `reread` of the observation. -/
theorem parseLine_format (o : Observation) (lineNumber : Nat) (hinc : o.key.incarnation.valid)
    (hgen : o.subject.generation.valid) :
    parseLine (formatObservation o) lineNumber =
      .ok { kind := .Observation, line := lineNumber, observation := reread o } := by
  have hv : ∀ c ∈ str "v", isKeyByte c = true := List.all_eq_true.1 (by with_unfolding_all decide)
  have hnumber := Written.plain (@isPlain_decimal kTextObservationVersion.toNat)
  have hlayout := length_layout o
  have hspells := Spells.cons hv hnumber (spells_textOf (formatObservation o).length (layout o))
  have htrim : Untrimmed (formatObservation o) := by
    rw [formatObservation_eq]
    exact .append (.of_forall (by decide +kernel)) ((untrimmed_field hnumber).append (untrimmed_textOf _))
  rw [formatObservation_eq] at hspells htrim ⊢
  obtain ⟨ts, hall, hmap, hparse⟩ :=
    parseLine_spelled (c := 79) lineNumber (by decide +kernel) (by with_unfolding_all decide) (by decide)
    hspells htrim (by simp only [List.length_cons, List.length_map]; omega)
  rw [hparse]
  cases ts with
  | nil => simp at hmap
  | cons t ts =>
    simp only [List.map_cons, List.cons.injEq, Prod.mk.injEq] at hmap
    have hread := foldlM_readObsField (s := {}) (fun t ht => hall t (List.mem_cons_of_mem _ ht)) hmap.2
      (setAll_layout o)
    obtain ⟨hfreeze, hsrc, hat, htick⟩ := directives_ne
    have hany (f : ObsField) (h : ∃ e ∈ layout o, e.field = f) : (layout o).any (fun e => e.field == f) = true := by
      obtain ⟨e, he, rfl⟩ := h
      exact List.any_eq_true.2 ⟨e, he, by simp⟩
    have hflags : (layout o).any (fun e => e.field == .src) = true ∧ (layout o).any (fun e => e.field == .flow) = true ∧
        (layout o).any (fun e => e.field == .obs) = true ∧ (layout o).any (fun e => e.field == .kind) = true := by
      simp [layout, idEntry, nanosEntry, plainEntry]
    have hobs : readObs ts = .ok (reread o) := by
      have hinc' : (reread o).key.incarnation.valid = true := hinc
      have hgen' : (reread o).subject.generation.valid = true := hgen
      simp [readObs, hread, hflags, hinc', hgen']
    simp [readRecord, hfreeze, hsrc, hat, htick, expectVersion_cons ts hmap.1.1 hmap.1.2, hobs, Except.mapError]

end FlowObs.Fo1
