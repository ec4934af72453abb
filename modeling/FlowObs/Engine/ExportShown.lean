import FlowObs.Conflict
import FlowObs.Engine.Coherent
import FlowObs.Engine.ExportJson
import FlowObs.Text.Accepted
import FlowObs.Wire.Requests

/-!
# What an export shows

Two exports in JSON that are read as the same value are of results that agree in everything that the format shows
(`export_lossless`). Of a snapshot that is all of it, its generations, sources and anomalies too, but the counters
that are marked as unsupported, the partial sight of a direction that is completely seen, the identities of an anomaly
that are not valid, and the fields of a source that the writer leaves out (`shown`).
-/

namespace FlowObs

/-! ## The names of the enumerations -/

/-- `parse_state_cause`. -/
def parseStateCause (text : Str) : Option StateCause :=
  Fo1.lookup [.None, .FirstObservation, .ProgressObserved, .IdleThresholdReached, .CompletionObserved,
    .TerminalCountersObserved,
    .ResetObserved, .CounterRegression, .ExpiryPolicy, .AuthorityConflict, .ConflictResolved, .RecoveredFromJournal,
    .GenerationAdvanced, .EvidenceFenced] StateCause.toStr text

/-- `parse_freshness`. -/
def parseFreshness (text : Str) : Option Freshness :=
  Fo1.lookup [.Unknown, .Fresh, .Stale, .Expired] Freshness.toStr text

/-- `parse_consistency`. -/
def parseConsistency (text : Str) : Option Consistency :=
  Fo1.lookup [.Unknown, .Corroborated, .Conflicting, .Resolved] Consistency.toStr text

/-- `parse_visibility`. -/
def parseVisibility (text : Str) : Option Visibility :=
  Fo1.lookup [.Unknown, .OneSided, .TwoSided] Visibility.toStr text

/-- `parse_anomaly_kind`. -/
def parseAnomalyKind (text : Str) : Option AnomalyKind :=
  Fo1.lookup [.None, .DuplicateEvidence, .SequenceConflict, .StaleEpochReplay, .StaleIncarnationReplay,
    .StaleGenerationEvidence,
    .StaleRevisionReplay, .LateEvidenceRejected, .CounterRegression, .CounterOverflow, .ClockSkew, .AuthorityConflict,
    .CapabilityUnsupported, .IdentityCollision, .LimitEviction, .UnsupportedMetric, .IncompleteEvidence,
    .OneSidedVisibility,
    .RestartGap, .MalformedEvidence] AnomalyKind.toStr text

/-- The names of the enumerations are read back. -/
theorem parse_toStr : (∀ s : FlowState, Wire.parseFlowState s.toStr = some s) ∧
    (∀ c : StateCause, parseStateCause c.toStr = some c) ∧
    (∀ f : Freshness, parseFreshness f.toStr = some f) ∧ (∀ c : Consistency, parseConsistency c.toStr = some c) ∧
    (∀ v : Visibility, parseVisibility v.toStr = some v) ∧ ∀ k : AnomalyKind, parseAnomalyKind k.toStr = some k := by
  refine ⟨fun s => ?_, fun c => ?_, fun f => ?_, fun c => ?_, fun v => ?_, fun k => ?_⟩
  · cases s <;> with_unfolding_all decide
  · cases c <;> with_unfolding_all decide
  · cases f <;> with_unfolding_all decide
  · cases c <;> with_unfolding_all decide
  · cases v <;> with_unfolding_all decide
  · cases k <;> with_unfolding_all decide

/-- A name that is read back belongs to one value. -/
theorem inj_of_parse {α : Type} {name : α → Str} {parse : Str → Option α} (h : ∀ a, parse (name a) = some a) {a b : α} :
    name a = name b ↔ a = b :=
  ⟨fun hab => Option.some.inj (by rw [← h a, hab, h b]), congrArg name⟩

namespace Json

section Names

@[simp] theorem flowState_inj {a b : FlowState} : a.toStr = b.toStr ↔ a = b := inj_of_parse parse_toStr.1
@[simp] theorem stateCause_inj {a b : StateCause} : a.toStr = b.toStr ↔ a = b := inj_of_parse parse_toStr.2.1
@[simp] theorem freshness_inj {a b : Freshness} : a.toStr = b.toStr ↔ a = b := inj_of_parse parse_toStr.2.2.1
@[simp] theorem consistency_inj {a b : Consistency} : a.toStr = b.toStr ↔ a = b := inj_of_parse parse_toStr.2.2.2.1
@[simp] theorem visibility_inj {a b : Visibility} : a.toStr = b.toStr ↔ a = b := inj_of_parse parse_toStr.2.2.2.2.1
@[simp] theorem anomalyKind_inj {a b : AnomalyKind} : a.toStr = b.toStr ↔ a = b := inj_of_parse parse_toStr.2.2.2.2.2
@[simp] theorem evidence_inj {a b : Evidence} : a.name = b.name ↔ a = b := inj_of_parse Fo1.parseEvidence_name
@[simp] theorem direction_inj {a b : Direction} : a.name = b.name ↔ a = b := inj_of_parse Fo1.parseDirection_name
@[simp] theorem observationKind_inj {a b : ObservationKind} : a.name = b.name ↔ a = b :=
  inj_of_parse Fo1.parseObservationKind_name
@[simp] theorem capabilities_inj {a b : SourceCapabilities} : a.describe = b.describe ↔ a = b :=
  inj_of_parse Fo1.parseCapabilities_format
@[simp] theorem opaqueId_inj {d : IdDomain} {a b : OpaqueId d} : a.toStr = b.toStr ↔ a = b :=
  ⟨fun h => (toStr_append_inj (s := []) (t := []) (by rw [h])).1, congrArg _⟩
@[simp] theorem numericId_inj {d : NumDomain} {a b : NumericId d} :
    a.value = b.value ↔ a = b := ⟨NumericId.ext, congrArg _⟩

end Names

/-! ## Values -/

section Values

@[simp] theorem string_tree_inj {s t : Str} :
    (Scalar.string s).tree = (Scalar.string t).tree ↔ s = t := by simp [Scalar.tree]
@[simp] theorem uint_tree_inj {a b : UInt64} : (Scalar.uint a).tree = (Scalar.uint b).tree ↔ a = b := by
  simp [Scalar.tree, UInt64.toNat_inj]
@[simp] theorem int_tree_inj {a b : Int64} : (Scalar.int a).tree = (Scalar.int b).tree ↔ a = b := by
  simp [Scalar.tree, Int64.toInt_inj]
@[simp] theorem bool_tree_inj {a b : Bool} :
    (Scalar.bool a).tree = (Scalar.bool b).tree ↔ a = b := by simp [Scalar.tree]
@[simp] theorem instant_inj {a b : Timestamp} : a.nanos = b.nanos ↔ a = b := ⟨Timestamp.ext, congrArg _⟩

@[simp] theorem entry_field_inj {name name' : Str} {s s' : Scalar} :
    (Member.field name s).entry = (Member.field name' s').entry ↔ name = name' ∧ s.tree = s'.tree := by
  simp [Member.entry, Member.field]
@[simp] theorem entry_of_inj {name name' : Str} {e e' : Element} :
    (Member.of name e).entry = (Member.of name' e').entry ↔ name = name' ∧ e.value = e'.value := by
  simp [Member.entry, Member.of]

@[simp] theorem object_inj {ms ms' : List Member} {h : (ms.map Member.name).Nodup} {h' : (ms'.map Member.name).Nodup} :
    (Element.object ms h).value = (Element.object ms' h').value ↔ ms.map Member.entry = ms'.map Member.entry := by
  simp [Element.object]
@[simp] theorem array_inj {es es' : List Element} :
    (Element.array es).value = (Element.array es').value ↔ es.map Element.value = es'.map Element.value := by
  simp [Element.array]
@[simp] theorem scalar_inj {s s' : Scalar} :
    (Element.scalar s).value = (Element.scalar s').value ↔ s.tree = s'.tree := Iff.rfl

/-- Elements that are equal one by one. -/
theorem map_value_inj {α β : Type} {f : α → Element} {shown : α → β}
    (h : ∀ {a b}, (f a).value = (f b).value → shown a = shown b) :
    ∀ {l l' : List α}, (l.map f).map Element.value = (l'.map f).map Element.value → l.map shown = l'.map shown
  | [], [], _ => rfl
  | [], _ :: _, heq => by simp at heq
  | _ :: _, [], heq => by simp at heq
  | a :: l, b :: l', heq => by
    obtain ⟨hhead, htail⟩ := List.cons.inj heq
    rw [List.map_cons, List.map_cons, h hhead, map_value_inj h htail]

end Values

end Json

/-! ## What is shown -/

/-- What is shown of a consumption: a counter that is not supported is not. -/
def Consumption.shown (c : Consumption) : Consumption :=
  { c with
    bytes := if c.bytesUnsupported then 0 else c.bytes
    packets := if c.packetsUnsupported then 0 else c.packets
    retransmissions := if c.retransmissionsUnsupported then 0 else c.retransmissions }

/-- What is shown of a coverage: a direction that is completely seen is not shown as partially seen too. -/
def Coverage.shown (c : Coverage) : Coverage :=
  { c with
    forwardPartial := !c.forwardComplete && c.forwardPartial
    reversePartial := !c.reverseComplete && c.reversePartial }

/-- What is shown of an anomaly: identities that are not valid are not. -/
def Anomaly.shown (a : Anomaly) : Anomaly :=
  { a with
    generation := if a.generation.valid then a.generation else {}
    source := if a.source.valid then a.source else default }

/-- What is shown of a source: not all of its fields are. -/
def SourceView.shown (v : SourceView) : SourceView where
  source := v.source
  canonicalKey := v.canonicalKey
  authority := v.authority
  advisoryOnly := v.advisoryOnly
  capabilities := v.capabilities
  incarnation := v.incarnation
  epoch := v.epoch
  highRevision := v.highRevision
  highSequence := v.highSequence
  firstObservedAt := v.firstObservedAt
  lastObservedAt := v.lastObservedAt
  lastReceivedAt := v.lastReceivedAt
  lastProgressAt := v.lastProgressAt
  freshness := v.freshness
  lastEvidence := v.lastEvidence
  lastKind := v.lastKind
  lastDirection := v.lastDirection
  coverage := v.coverage.shown
  forwardTotals := v.forwardTotals.shown
  reverseTotals := v.reverseTotals.shown
  aggregateTotals := v.aggregateTotals.shown
  declaredTerminal := v.declaredTerminal
  acceptedObservations := v.acceptedObservations
  droppedObservations := v.droppedObservations
  duplicatesSuppressed := v.duplicatesSuppressed
  contentConflicts := v.contentConflicts
  distinctIncarnations := v.distinctIncarnations
  anomalyCounts := (List.range kAnomalyKindCount).map (v.anomalyCounts.getD · 0)
  regressions := v.regressions
  restartGaps := v.restartGaps
  saturated := v.saturated
  restoredFromJournal := v.restoredFromJournal
  reconfirmed := v.reconfirmed

/-- What is shown of a generation: all of it, and its sources when the options include them. -/
def GenerationView.shown (options : ExportOptions) (v : GenerationView) : GenerationView :=
  { v with
    coverage := v.coverage.shown
    forward := v.forward.shown
    reverse := v.reverse.shown
    aggregate := v.aggregate.shown
    total := v.total.shown
    sources := if options.includeSources then v.sources.map SourceView.shown else [] }

/-- What is shown of a flow: all of it, and its generations and anomalies when the options include them. -/
def FlowSnapshot.shown (options : ExportOptions) (s : FlowSnapshot) : FlowSnapshot :=
  { s with
    coverage := s.coverage.shown
    total := s.total.shown
    generations := if options.includeGenerations then s.generations.map (GenerationView.shown options) else []
    anomalies := if options.includeAnomalies then s.anomalies.map Anomaly.shown else [] }

namespace Json

theorem counter_inj {name name' : Str} {u u' : Bool} {a b : UInt64}
    (h : (counterMember name u a).entry = (counterMember name' u' b).entry) :
    u = u' ∧ (if u then 0 else a) = if u' then 0 else b := by
  have htree := ((entry_of_inj).1 h).2
  cases u <;> cases u' <;> simp [Scalar.tree, UInt64.toNat_inj] at htree ⊢
  exact htree

theorem consumption_inj {c c' : Consumption} (h : (consumptionElement c).value = (consumptionElement c').value) :
    c.shown = c'.shown := by
  rw [consumptionElement, consumptionElement, object_inj] at h
  simp only [consumptionMembers, List.map_cons, List.map_nil, List.cons.injEq, entry_of_inj, true_and, and_true,
    scalar_inj, uint_tree_inj, bool_tree_inj] at h
  obtain ⟨hbytes, hpackets, hretransmissions, hunknown, -, hsaturated⟩ := h
  obtain ⟨hb, hbytes⟩ := counter_inj hbytes
  obtain ⟨hp, hpackets⟩ := counter_inj hpackets
  obtain ⟨hr, hretransmissions⟩ := counter_inj hretransmissions
  simp only [Consumption.shown, hbytes, hpackets, hretransmissions]
  simp only [hb, hp, hr, hunknown, hsaturated]

theorem coverageWord_inj {a b c d : Bool} (h : coverageWord a b = coverageWord c d) :
    a = c ∧ (!a && b) = (!c && d) := by
  revert a b c d
  with_unfolding_all decide

theorem coverage_inj {c c' : Coverage} (h : (coverageElement c).value = (coverageElement c').value) :
    c.shown = c'.shown := by
  rw [coverageElement, coverageElement, object_inj] at h
  simp only [List.map_cons, List.map_nil, List.cons.injEq, entry_field_inj, true_and, and_true, string_tree_inj] at h
  obtain ⟨hforward, hforward'⟩ := coverageWord_inj h.1
  obtain ⟨hreverse, hreverse'⟩ := coverageWord_inj h.2.1
  simp only [Coverage.shown, hforward', hreverse']
  simp only [hforward, hreverse]

theorem anomaly_inj {a a' : Anomaly} (h : (anomalyElement a).value = (anomalyElement a').value) :
    a.shown = a'.shown := by
  obtain ⟨kind, atTime, observedAt, ⟨flow, generation⟩, source, detail⟩ := a
  obtain ⟨kind', atTime', observedAt', ⟨flow', generation'⟩, source', detail'⟩ := a'
  rw [anomalyElement, anomalyElement, object_inj] at h
  unfold Anomaly.shown
  -- The members that are there tell which identities are valid: their number is another one in each case.
  cases hg : FlowGeneration.valid ⟨flow, generation⟩ <;> cases hg' : FlowGeneration.valid ⟨flow', generation'⟩ <;>
    cases hs : source.valid <;> cases hs' : source'.valid <;>
    simp [anomalyMembers, Member.when, hg, hg', hs, hs', and_assoc] at h ⊢
  all_goals exact ⟨h.1, h.2.2⟩

/-- The counts that are written are those of the entries. -/
theorem anomalyCount_mem {counts : List UInt32} {i : Nat} (hi : i < kAnomalyKindCount) {n : UInt32} (hn : n ≠ 0) :
    (anomalyName i, (Scalar.uint n.toUInt64).tree) ∈ (anomalyCountMembers counts).map Member.entry ↔
    counts.getD i 0 = n := by
  have hname : ∀ j < kAnomalyKindCount, anomalyName j = anomalyName i → j = i := fun j hj h =>
    List.inj_on_of_nodup_map anomalyName_nodup (List.mem_range.2 hj) (List.mem_range.2 hi) h
  simp only [anomalyCountMembers, List.mem_map, List.mem_flatMap, List.mem_range, Member.when]
  constructor
  · rintro ⟨m, ⟨j, hj, hm⟩, hentry⟩
    split at hm
    · rw [List.mem_singleton.1 hm, Member.entry, Member.field_name] at hentry
      obtain ⟨hnames, hvalues⟩ := Prod.mk.inj hentry
      rw [← hname j hj hnames]
      exact UInt32.toUInt64_inj.1 (uint_tree_inj.1 hvalues)
    · cases hm
  · intro h
    have hthere : decide (n ≠ 0) = true := decide_eq_true hn
    exact ⟨_, ⟨i, hi, by rw [h, if_pos hthere]; exact List.mem_singleton_self _⟩, rfl⟩

theorem anomalyCounts_inj {counts counts' : List UInt32}
    (h : (anomalyCountMembers counts).map Member.entry = (anomalyCountMembers counts').map Member.entry) :
    (List.range kAnomalyKindCount).map (counts.getD · 0) = (List.range kAnomalyKindCount).map (counts'.getD · 0) := by
  refine List.map_congr_left fun i hi => ?_
  rw [List.mem_range] at hi
  by_cases hzero : counts.getD i 0 = 0
  · by_cases hzero' : counts'.getD i 0 = 0
    · rw [hzero, hzero']
    · exact (anomalyCount_mem hi hzero').1 (h ▸ (anomalyCount_mem hi hzero').2 rfl)
  · exact ((anomalyCount_mem hi hzero).1 (h ▸ (anomalyCount_mem hi hzero).2 rfl)).symm

theorem optionalMember_inj {name : Str} {s s' : Option Str}
    (h : (optionalMember name s).entry = (optionalMember name s').entry) :
    s = s' := by
  have htree := (entry_field_inj.1 h).2
  cases s <;> cases s' <;> simp [Scalar.tree] at htree ⊢
  exact htree

theorem source_inj {v v' : SourceView} (h : (sourceElement v).value = (sourceElement v').value) :
    v.shown = v'.shown := by
  rw [sourceElement, sourceElement, object_inj] at h
  simp only [sourceMembers, List.map_cons, List.map_nil, List.cons.injEq, entry_field_inj, entry_of_inj, object_inj,
    string_tree_inj, uint_tree_inj, int_tree_inj, bool_tree_inj, opaqueId_inj, numericId_inj, instant_inj,
    freshness_inj, evidence_inj, observationKind_inj, direction_inj, capabilities_inj, UInt32.toUInt64_inj, true_and,
    and_true] at h
  obtain ⟨hsource, hkey, hauthority, hadvisory, hcapabilities, hincarnation, hepoch, hrevision, hsequence,
    hfirst, hlast,
    hreceived, hprogress, hfreshness, hevidence, hkind, hdirection, hrestored, hreconfirmed, -, hcoverage,
    hforward, hreverse,
    haggregate, hdeclared, haccepted, hdropped, hduplicates, hconflicts, hincarnations, hregressions, hgaps, hsaturated,
    hcounts⟩ := h
  have hterminal : v.declaredTerminal = v'.declaredTerminal :=
    Option.map_injective (fun _ _ => flowState_inj.1) (optionalMember_inj hdeclared)
  simp only [SourceView.shown, coverage_inj hcoverage, consumption_inj hforward, consumption_inj hreverse,
    consumption_inj haggregate, anomalyCounts_inj hcounts, *]

theorem scalars_inj {α : Type} {f : α → Scalar} (hf : ∀ {a b}, (f a).tree = (f b).tree → a = b) {l l' : List α}
    (h : (l.map fun a => Element.scalar (f a)).map Element.value =
      (l'.map fun a => Element.scalar (f a)).map Element.value) :
    l = l' := by
  have hid : l.map id = l'.map id := map_value_inj (fun heq => hf (scalar_inj.1 heq)) h
  simpa using hid

theorem flowGeneration_ext {g g' : FlowGeneration} (hflow : g.flow = g'.flow)
    (hgeneration : g.generation = g'.generation) :
    g = g' := by
  cases g
  cases g'
  cases hflow
  cases hgeneration
  rfl

theorem length_when (b : Bool) (ms : List Member) : (Member.when b ms).length = if b then ms.length else 0 := by
  cases b <;> rfl

theorem detail_inj {d d' : Str}
    (h : (Member.when (d ≠ []) [.field (str "conflict_detail") (.string d)]).map Member.entry =
    (Member.when (d' ≠ []) [.field (str "conflict_detail") (.string d')]).map Member.entry) : d = d' := by
  by_cases hd : d = [] <;> by_cases hd' : d' = [] <;> simp [Member.when, hd, hd'] at h ⊢
  exact h

theorem generationHead_inj {v v' : GenerationView}
    (h : (generationHead v).map Member.entry = (generationHead v').map Member.entry) :
    v.generation = v'.generation ∧ v.isCurrent = v'.isCurrent ∧ v.state = v'.state ∧ v.cause = v'.cause ∧
      v.freshness = v'.freshness ∧ v.consistency = v'.consistency ∧ v.visibility = v'.visibility ∧
      v.unresolvedConflict = v'.unresolvedConflict := by
  simp only [generationHead, List.map_cons, List.map_nil, List.cons.injEq, entry_field_inj, string_tree_inj,
    uint_tree_inj, bool_tree_inj, opaqueId_inj, numericId_inj, flowState_inj, stateCause_inj, freshness_inj,
    consistency_inj, visibility_inj, true_and, and_true] at h
  obtain ⟨hgeneration, hflow, h⟩ := h
  exact ⟨flowGeneration_ext hflow hgeneration, h⟩

theorem length_generation (v : GenerationView) : (generationHead v).length = 9 ∧ (generationBody v).length = 26 := by
  simp only [generationHead, generationBody, List.length_cons, List.length_nil, and_self]

/-- The elements of an array that is written under a condition. -/
theorem when_array_inj {α β : Type} {f : α → Element} {shown : α → β}
    (hf : ∀ {a b}, (f a).value = (f b).value → shown a = shown b)
    {b : Bool} {name : Str} {l l' : List α}
    (h : (Member.when b [.of name (.array (l.map f))]).map Member.entry =
      (Member.when b [.of name (.array (l'.map f))]).map Member.entry) :
    (if b then l.map shown else []) = if b then l'.map shown else [] := by
  cases b with
  | false => rfl
  | true =>
    simp only [Member.when, if_true, List.map_cons, List.cons.injEq, entry_of_inj, array_inj] at h
    exact map_value_inj hf h.1.2

theorem generation_inj {o : ExportOptions} {v v' : GenerationView}
    (h : (generationElement v o).value = (generationElement v' o).value) : v.shown o = v'.shown o := by
  rw [generationElement, generationElement, object_inj] at h
  simp only [generationMembers, List.flatten_cons, List.flatten_nil, List.map_append, List.append_nil] at h
  obtain ⟨hlengthHead, hlengthBody⟩ := length_generation v
  obtain ⟨hlengthHead', hlengthBody'⟩ := length_generation v'
  have hlength := congrArg List.length h
  simp only [List.length_append, List.length_map, length_when, hlengthHead, hlengthBody, hlengthHead', hlengthBody',
    List.length_singleton] at hlength
  obtain ⟨hhead, h⟩ := List.append_inj h (by rw [List.length_map, List.length_map, hlengthHead, hlengthHead'])
  obtain ⟨hdetail, h⟩ := List.append_inj h (by
    simp only [List.length_map, length_when, List.length_singleton]
    omega)
  obtain ⟨hbody, hsources⟩ := List.append_inj h (by rw [List.length_map, List.length_map, hlengthBody, hlengthBody'])
  obtain ⟨hgeneration, hcurrent, hstate, hcause, hfreshness, hconsistency, hvisibility, hunresolved⟩ :=
    generationHead_inj hhead
  simp only [generationBody, List.map_cons, List.map_nil, List.cons.injEq, entry_field_inj, entry_of_inj, array_inj,
    uint_tree_inj, int_tree_inj, bool_tree_inj, string_tree_inj, opaqueId_inj, instant_inj, UInt32.toUInt64_inj,
    true_and, and_true] at hbody
  obtain ⟨hfirst, hlast, hreceived, hprogress, hclosed, -, -, -, -, -, ha, hb, hpath, hpaths, hqueued, hprimary,
    hstale, hadvisory,
    hcoverage, hforward, hreverse, haggregate, htotal, hlinks, hqueues, hhops⟩ := hbody
  have hpath : v.path = v'.path := Option.map_injective (fun _ _ => opaqueId_inj.1) (optionalMember_inj hpath)
  have hlinks := scalars_inj (fun heq => opaqueId_inj.1 (string_tree_inj.1 heq)) hlinks
  have hqueues := scalars_inj (fun heq => opaqueId_inj.1 (string_tree_inj.1 heq)) hqueues
  have hhops := scalars_inj uint_tree_inj.1 hhops
  simp only [GenerationView.shown, coverage_inj hcoverage, consumption_inj hforward, consumption_inj hreverse,
    consumption_inj haggregate, consumption_inj htotal, detail_inj hdetail, when_array_inj source_inj hsources, *]

theorem length_flowHead (s : FlowSnapshot) : (flowHead s).length = 28 := by
  simp only [flowHead, List.length_cons, List.length_nil]

theorem flow_inj {o : ExportOptions} {s s' : FlowSnapshot} (h : (flowElement s o).value = (flowElement s' o).value) :
    s.shown o = s'.shown o := by
  rw [flowElement, flowElement, object_inj] at h
  simp only [flowMembers, List.flatten_cons, List.flatten_nil, List.map_append, List.append_nil] at h
  obtain ⟨hhead, h⟩ := List.append_inj h (by rw [List.length_map, List.length_map, length_flowHead, length_flowHead])
  obtain ⟨hgenerations, hanomalies⟩ := List.append_inj h (by
    simp only [List.length_map, length_when, List.length_singleton])
  simp only [flowHead, List.map_cons, List.map_nil, List.cons.injEq, entry_field_inj, entry_of_inj, uint_tree_inj,
    int_tree_inj, bool_tree_inj, string_tree_inj, opaqueId_inj, numericId_inj, instant_inj, flowState_inj,
    stateCause_inj, freshness_inj, consistency_inj, visibility_inj, true_and, and_true] at hhead
  obtain ⟨hid, hkey, hstate, hcause, hfreshness, hconsistency, hvisibility, -, -, hcurrent, hrevision, hcreated,
    hchanged, hfirst,
    hlast, hreceived, hprogress, ha, hb, hrestored, hrestoredEpoch, hepoch, hcollisions, hdropped, -, -,
    hcoverage, htotal⟩ :=
    hhead
  simp only [FlowSnapshot.shown, coverage_inj hcoverage, consumption_inj htotal,
    when_array_inj generation_inj hgenerations, when_array_inj anomaly_inj hanomalies, *]

/-- What is read of a result is what is shown of it. -/
theorem result_inj {o o' : ExportOptions} (hsame : o.includeGenerations = o'.includeGenerations ∧
    o.includeSources = o'.includeSources ∧ o.includeAnomalies = o'.includeAnomalies) {r r' : QueryResult}
    (h : (resultElement r o).value = (resultElement r' o').value) :
    r.flows.map (FlowSnapshot.shown o) = r'.flows.map (FlowSnapshot.shown o') ∧ r.evaluatedAt = r'.evaluatedAt ∧
      UInt64.ofNat r.matched = UInt64.ofNat r'.matched ∧ r.truncated = r'.truncated := by
  have hshown : ∀ s, flowElement s o' = flowElement s o := by
    intro s
    simp only [flowElement, flowMembers, generationElement, generationMembers, hsame]
  have hgeneration : GenerationView.shown o' = GenerationView.shown o := by
    funext v
    simp only [GenerationView.shown, hsame]
  have hshown' : FlowSnapshot.shown o' = FlowSnapshot.shown o := by
    funext s
    simp only [FlowSnapshot.shown, hsame, hgeneration]
  rw [resultElement, resultElement, object_inj] at h
  simp only [resultMembers, countsElement, List.map_cons, List.map_nil, List.cons.injEq, entry_field_inj, entry_of_inj,
    object_inj, array_inj, uint_tree_inj, int_tree_inj, bool_tree_inj, instant_inj, true_and, and_true] at h
  obtain ⟨hevaluated, -, ⟨hmatched, -, htruncated⟩, -, hflows⟩ := h
  simp only [hshown] at hflows
  rw [hshown']
  exact ⟨map_value_inj flow_inj hflows, hevaluated, hmatched, htruncated⟩

end Json

/-! ## Exports -/

namespace Engine

variable {e e' : Engine} {o o' : ExportOptions} {t t' : Str}

/-- **An export in JSON is one JSON text of one value**: whatever the engine holds and whatever the options ask for,
the text is read as what is said of the result, in no other way, and no object in it has two members of one name. -/
theorem exportText_json (hformat : o.format = .Json) (h : e.exportText o = .ok t) :
    ∃ r, e.exportData o = .ok r ∧ (∀ v, Json.Text t v ↔ v = (Json.resultElement r o).value) ∧
      Json.Distinct (Json.resultElement r o).value := by
  obtain ⟨r, hr, htext⟩ := text_exported hformat h
  exact ⟨r, hr, htext, (Json.resultElement r o).distinct⟩

theorem exportText_json_reported :
    ∃ t r, reported.exportText {} = .ok t ∧ Json.Text t (Json.resultElement r {}).value := by
  have hvalid : ({} : ExportOptions).validate reported.config.limits reported.config.query =
      .ok () := by with_unfolding_all decide
  obtain ⟨r, hr, -⟩ := flows_exportData hvalid
  have ht : reported.exportText {} = .ok (renderExport {} r) := exportText_ok.2 ⟨r, hr, rfl⟩
  obtain ⟨r', -, htext, -⟩ := exportText_json rfl ht
  exact ⟨_, r', ht, (htext _).2 rfl⟩

/-- **The export in JSON is lossless**: when two exports with the same parts, pretty or not, of whatever engines are
read as one value, their results show the same flows, with all that is shown of each, as of the same instant. -/
theorem export_lossless (hformat : o.format = .Json) (hformat' : o'.format = .Json)
    (hsame : o.includeGenerations = o'.includeGenerations ∧ o.includeSources = o'.includeSources ∧
      o.includeAnomalies = o'.includeAnomalies)
    (h : e.exportText o = .ok t) (h' : e'.exportText o' = .ok t') {v : Json.Value} (hv : Json.Text t v)
      (hv' : Json.Text t' v) :
    ∃ r r', e.exportData o = .ok r ∧ e'.exportData o' = .ok r' ∧
      r.flows.map (FlowSnapshot.shown o) = r'.flows.map (FlowSnapshot.shown o') ∧ r.evaluatedAt = r'.evaluatedAt ∧
      UInt64.ofNat r.matched = UInt64.ofNat r'.matched ∧ r.truncated = r'.truncated := by
  obtain ⟨r, hr, htext⟩ := text_exported hformat h
  obtain ⟨r', hr', htext'⟩ := text_exported hformat' h'
  exact ⟨r, r', hr, hr', Json.result_inj hsame (((htext v).1 hv).symm.trans ((htext' v).1 hv'))⟩

/-- The pretty export and the compact one. -/
theorem export_lossless_reported :
    ∃ r r', reported.exportData {} = .ok r ∧ reported.exportData { pretty := false } = .ok r' ∧
    r.flows.map (FlowSnapshot.shown {}) = r'.flows.map (FlowSnapshot.shown { pretty := false }) := by
  have hvalid : ({} : ExportOptions).validate reported.config.limits reported.config.query =
      .ok () := by with_unfolding_all decide
  obtain ⟨r, hr, -⟩ := flows_exportData hvalid
  have hcompact : reported.exportData { pretty := false } = .ok r := hr
  have hread : ∀ o : ExportOptions, o.format = .Json → reported.exportData o = .ok r →
      Json.Text (renderExport o r) (Json.resultElement r o).value := fun o ho _ =>
    (renderExport_json ho r).symm ▸ ((Json.resultElement r o).text o.pretty).2.1
  obtain ⟨r₁, r₂, h₁, h₂, hflows, -⟩ := export_lossless (o := {}) rfl
    (show ({ pretty := false } : ExportOptions).format = .Json from rfl) ⟨rfl, rfl, rfl⟩
    (exportText_ok.2 ⟨r, hr, rfl⟩) (exportText_ok.2 ⟨r, hcompact, rfl⟩) (hread {} rfl hr)
      (hread { pretty := false } rfl hcompact)
  exact ⟨r₁, r₂, h₁, h₂, hflows⟩

end Engine

end FlowObs
