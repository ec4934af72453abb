import FlowObs.Calendar
import FlowObs.JsonDocument

/-!
# The JSON export

The functions of `export_json.cpp` that write the views as sequences of calls of the writer, from an anomaly up to the
result of a query (`writeQueryResult`), and `export_data` with the text that it returns. Each sequence is the one of a
document that says what the view shows (`writeSource_eq` to `writeQueryResult_eq`), so that whatever the engine
exports in this format is one JSON text of one value in which no name occurs twice (`exportText_json`).
-/

namespace FlowObs

/-! ## Names -/

/-- `to_string` of a kind of anomaly. -/
def AnomalyKind.toStr : AnomalyKind → Str
  | .None => str "none"
  | .DuplicateEvidence => str "duplicate-evidence"
  | .SequenceConflict => str "sequence-conflict"
  | .StaleEpochReplay => str "stale-epoch-replay"
  | .StaleIncarnationReplay => str "stale-incarnation-replay"
  | .StaleGenerationEvidence => str "stale-generation-evidence"
  | .StaleRevisionReplay => str "stale-revision-replay"
  | .LateEvidenceRejected => str "late-evidence-rejected"
  | .CounterRegression => str "counter-regression"
  | .CounterOverflow => str "counter-overflow"
  | .ClockSkew => str "clock-skew"
  | .AuthorityConflict => str "authority-conflict"
  | .CapabilityUnsupported => str "capability-unsupported"
  | .IdentityCollision => str "identity-collision"
  | .LimitEviction => str "limit-eviction"
  | .UnsupportedMetric => str "unsupported-metric"
  | .IncompleteEvidence => str "incomplete-evidence"
  | .OneSidedVisibility => str "one-sided-visibility"
  | .RestartGap => str "restart-gap"
  | .MalformedEvidence => str "malformed-evidence"

/-- `to_string` of what is cast to a kind of anomaly. -/
def anomalyName (i : Nat) : Str := ((AnomalyKind.ofU8? (UInt8.ofNat i)).map AnomalyKind.toStr).getD (str "invalid")

/-- `anomaly_is_conservative_refusal`. -/
def anomalyIsConservativeRefusal : AnomalyKind → Bool
  | .None => false
  | _ => true

/-- `usable_for_liveness`. -/
def SourceView.usableForLiveness (v : SourceView) : Bool :=
  !v.advisoryOnly && isUsableForLiveness v.freshness && v.reconfirmed

/-- `asserts_completion` of a state. -/
def assertsCompletion (s : FlowState) : Bool := s == .Completed

/-- The word for what is seen of a direction. -/
def coverageWord (complete part : Bool) : Str :=
  if complete then str "complete" else if part then str "partial" else str "unobserved"

namespace Json

/-! ## The calls of the writer -/

/-- `write_consumption`. -/
def writeConsumption (c : Consumption) (name : Str) : List Call := (writeConsumptionJson c name).map ofJsonCall

/-- `write_coverage`. -/
def writeCoverage (c : Coverage) : List Call :=
  [.key (str "coverage"), .beginObject,
    .field (str "forward") (.string (coverageWord c.forwardComplete c.forwardPartial)),
    .field (str "reverse") (.string (coverageWord c.reverseComplete c.reversePartial)),
    .field (str "bidirectional_proven") (.bool c.bidirectional), .endObject]

/-- `write_anomaly_json`. -/
def writeAnomaly (a : Anomaly) : List Call :=
  ([[.beginObject, .field (str "kind") (.string a.kind.toStr),
      .field (str "conservative_refusal") (.bool (anomalyIsConservativeRefusal a.kind)),
      .field (str "at") (.int a.atTime.nanos), .field (str "observed_at") (.int a.observedAt.nanos)],
    (if a.generation.valid then
        [.field (str "flow") (.string a.generation.flow.toStr),
          .field (str "generation") (.uint a.generation.generation.value)]
      else []),
    (if a.source.valid then [.field (str "source") (.string a.source.toStr)] else []),
    [.field (str "detail") (.string a.detail), .endObject]] : List (List Call)).flatten

/-- An optional field, null when absent. -/
def optionalField (name : Str) (value : Option Str) : Call := .field name ((value.map Scalar.string).getD .null)

/-- `write_source_json`. -/
def writeSource (v : SourceView) : List Call :=
  ([[.beginObject, .field (str "source") (.string v.source.toStr), .field (str "key") (.string v.canonicalKey),
      .field (str "authority") (.uint v.authority.toUInt64), .field (str "advisory_only") (.bool v.advisoryOnly),
      .field (str "capabilities") (.string v.capabilities.describe),
      .field (str "incarnation") (.uint v.incarnation.value),
      .field (str "epoch") (.uint v.epoch.value), .field (str "high_revision") (.uint v.highRevision.value),
      .field (str "high_sequence") (.uint v.highSequence.value),
      .field (str "first_observed_at") (.int v.firstObservedAt.nanos),
      .field (str "last_observed_at") (.int v.lastObservedAt.nanos),
      .field (str "last_received_at") (.int v.lastReceivedAt.nanos),
      .field (str "last_progress_at") (.int v.lastProgressAt.nanos),
      .field (str "freshness") (.string v.freshness.toStr),
      .field (str "evidence") (.string v.lastEvidence.name), .field (str "last_kind") (.string v.lastKind.name),
      .field (str "last_direction") (.string v.lastDirection.name),
      .field (str "restored_from_journal") (.bool v.restoredFromJournal),
      .field (str "reconfirmed") (.bool v.reconfirmed),
      .field (str "usable_for_liveness") (.bool v.usableForLiveness)],
    writeCoverage v.coverage,
    writeConsumption v.forwardTotals (str "forward"),
    writeConsumption v.reverseTotals (str "reverse"),
    writeConsumption v.aggregateTotals (str "aggregate"),
    [optionalField (str "declared_terminal") (v.declaredTerminal.map FlowState.toStr),
      .field (str "accepted_observations") (.uint v.acceptedObservations.toUInt64),
      .field (str "dropped_observations") (.uint v.droppedObservations.toUInt64),
      .field (str "duplicates_suppressed") (.uint v.duplicatesSuppressed.toUInt64),
      .field (str "content_conflicts") (.uint v.contentConflicts.toUInt64),
      .field (str "distinct_incarnations") (.uint v.distinctIncarnations.toUInt64),
      .field (str "regressions") (.uint v.regressions.toUInt64),
      .field (str "restart_gaps") (.uint v.restartGaps.toUInt64),
      .field (str "saturated") (.bool v.saturated), .key (str "anomalies"), .beginObject],
    (List.range kAnomalyKindCount).flatMap (fun i =>
        if v.anomalyCounts.getD i 0 = 0 then [] else [.field (anomalyName i)
          (.uint (v.anomalyCounts.getD i 0).toUInt64)]),
    [.endObject, .endObject]] : List (List Call)).flatten

/-- `write_generation_json`. -/
def writeGeneration (v : GenerationView) (options : ExportOptions) : List Call :=
  let throughput := computeThroughput v.firstObservedAt v.lastObservedAt v.total
  ([[.beginObject, .field (str "generation") (.uint v.generation.generation.value),
      .field (str "flow") (.string v.generation.flow.toStr), .field (str "is_current") (.bool v.isCurrent),
      .field (str "state") (.string v.state.toStr), .field (str "cause") (.string v.cause.toStr),
      .field (str "freshness") (.string v.freshness.toStr), .field (str "consistency") (.string v.consistency.toStr),
      .field (str "visibility") (.string v.visibility.toStr),
      .field (str "unresolved_conflict") (.bool v.unresolvedConflict)],
    (if v.conflictDetail ≠ [] then [.field (str "conflict_detail") (.string v.conflictDetail)] else []),
    [.field (str "first_observed_at") (.int v.firstObservedAt.nanos),
      .field (str "last_observed_at") (.int v.lastObservedAt.nanos),
      .field (str "last_received_at") (.int v.lastReceivedAt.nanos),
      .field (str "last_progress_at") (.int v.lastProgressAt.nanos), .field (str "closed_at") (.int v.closedAt.nanos),
      .field (str "duration_ns") (.uint throughput.durationNanos),
      .field (str "duration_known") (.bool throughput.durationKnown),
      .field (str "throughput_bytes_per_second_milli") (.uint throughput.bytesPerSecondMilli),
      .field (str "throughput_packets_per_second_milli") (.uint throughput.packetsPerSecondMilli),
      .field (str "throughput_saturated") (.bool throughput.saturated),
      .field (str "endpoint_a") (.string v.endpointA.toStr), .field (str "endpoint_b") (.string v.endpointB.toStr),
      optionalField (str "path") (v.path.map OpaqueId.toStr),
      .field (str "has_path_correlation") (.bool v.hasPathCorrelation),
      .field (str "has_queue_correlation") (.bool v.hasQueueCorrelation),
      .field (str "primary_source") (.string v.primarySource.toStr),
      .field (str "excluded_stale_sources") (.uint v.excludedStaleSources.toUInt64),
      .field (str "excluded_advisory_sources") (.uint v.excludedAdvisorySources.toUInt64)],
    writeCoverage v.coverage,
    writeConsumption v.forward (str "forward"),
    writeConsumption v.reverse (str "reverse"),
    writeConsumption v.aggregate (str "aggregate"),
    writeConsumption v.total (str "total"),
    [.key (str "links"), .beginArray],
    v.links.map (fun link => .value (.string link.toStr)),
    [.endArray],
    [.key (str "queues"), .beginArray],
    v.queues.map (fun queue => .value (.string queue.toStr)),
    [.endArray],
    [.key (str "hop_capacity_units"), .beginArray],
    v.hopCapacityUnits.map (fun units => .value (.uint units)),
    [.endArray],
    (if options.includeSources then
        [.key (str "sources"), .beginArray] ++ v.sources.flatMap writeSource ++ [.endArray]
      else []),
    [.endObject]] : List (List Call)).flatten

/-- `write_flow_json`. -/
def writeFlow (s : FlowSnapshot) (options : ExportOptions) : List Call :=
  let throughput := computeThroughput s.firstObservedAt s.lastObservedAt s.total
  ([[.beginObject, .field (str "flow") (.string s.id.toStr), .field (str "key") (.string s.canonicalKey),
      .field (str "state") (.string s.state.toStr), .field (str "cause") (.string s.cause.toStr),
      .field (str "freshness") (.string s.freshness.toStr), .field (str "consistency") (.string s.consistency.toStr),
      .field (str "visibility") (.string s.visibility.toStr), .field (str "live") (.bool s.isLive),
      .field (str "completion_proven") (.bool (assertsCompletion s.state)),
      .field (str "current_generation") (.uint s.currentGeneration.value),
      .field (str "revision") (.uint s.revision.value),
      .field (str "created_at") (.int s.createdAt.nanos), .field (str "state_changed_at") (.int s.stateChangedAt.nanos),
      .field (str "first_observed_at") (.int s.firstObservedAt.nanos),
      .field (str "last_observed_at") (.int s.lastObservedAt.nanos),
      .field (str "last_received_at") (.int s.lastReceivedAt.nanos),
      .field (str "last_progress_at") (.int s.lastProgressAt.nanos),
      .field (str "endpoint_a") (.string s.endpointA.toStr), .field (str "endpoint_b") (.string s.endpointB.toStr),
      .field (str "restored_from_journal") (.bool s.restoredFromJournal),
      .field (str "restored_epoch") (.uint s.restoredEpoch.value),
      .field (str "current_epoch") (.uint s.currentEpoch.value),
      .field (str "key_collisions") (.uint s.keyCollisions),
      .field (str "anomalies_dropped") (.uint s.anomaliesDropped),
      .field (str "duration_ns") (.uint throughput.durationNanos),
      .field (str "throughput_bytes_per_second_milli") (.uint throughput.bytesPerSecondMilli)],
    writeCoverage s.coverage,
    writeConsumption s.total (str "total"),
    (if options.includeGenerations then
        [.key (str "generations"), .beginArray] ++ s.generations.flatMap (writeGeneration · options) ++ [.endArray]
      else []),
    (if options.includeAnomalies then
        [.key (str "anomalies"), .beginArray] ++ s.anomalies.flatMap writeAnomaly ++ [.endArray]
      else []),
    [.endObject]] : List (List Call)).flatten

/-- `write_query_result_json`. -/
def writeQueryResult (r : QueryResult) (options : ExportOptions) : List Call :=
  ([[.beginObject, .field (str "schema") (.string (str "flow-observatory/export/1")),
      .field (str "engine_version") (.string (str "1.0.0")), .field (str "api_version") (.uint 1),
      .field (str "identity_scheme") (.uint 1), .field (str "journal_format_version") (.uint 1),
      .field (str "evaluated_at") (.int r.evaluatedAt.nanos),
      .field (str "evaluated_at_utc") (.string (formatTimestamp r.evaluatedAt)), .key (str "result"), .beginObject,
      .field (str "matched") (.uint (UInt64.ofNat r.matched)),
      .field (str "returned") (.uint (UInt64.ofNat r.returned)),
      .field (str "truncated") (.bool r.truncated), .endObject,
      .field (str "deterministic") (.bool options.deterministic),
      .key (str "flows"), .beginArray],
    r.flows.flatMap (writeFlow · options),
    [.endArray, .endObject]] : List (List Call)).flatten

/-! ## What the calls say -/

/-- A counter of a consumption. -/
def counterMember (name : Str) (unsupported : Bool) (value : UInt64) : Member :=
  .of name (.scalar (if unsupported then .null else .uint value))

theorem writeCounter_eq (name : Str) (unsupported : Bool) (value : UInt64) :
    (writeCounter name unsupported value).map ofJsonCall = (counterMember name unsupported value).calls := by
  cases unsupported <;> rfl

/-- The members of a consumption. -/
def consumptionMembers (c : Consumption) : List Member :=
  [counterMember (str "bytes") c.bytesUnsupported c.bytes, counterMember (str "packets") c.packetsUnsupported c.packets,
    counterMember (str "retransmissions") c.retransmissionsUnsupported c.retransmissions,
    .of (str "unknown_intervals") (.scalar (.uint c.unknownIntervals)), .of (str "exact") (.scalar (.bool c.isExact)),
    .of (str "saturated") (.scalar (.bool c.saturated))]

theorem consumption_names (c : Consumption) : ((consumptionMembers c).map Member.name).Nodup := by
  simp only [consumptionMembers, counterMember, List.map_cons, List.map_nil, Member.of_name]
  simp [str_inj]

/-- What is said of a consumption. -/
def consumptionElement (c : Consumption) : Element := .object (consumptionMembers c) (consumption_names c)

theorem writeConsumption_eq (c : Consumption) (name : Str) :
    writeConsumption c name = (Member.of name (consumptionElement c)).calls := by
  simp only [writeConsumption, writeConsumptionJson, List.map_append, writeCounter_eq, List.map_cons, ofJsonCall]
  rfl

/-- What is said of what is seen of the directions. -/
def coverageElement (c : Coverage) : Element :=
  .object
    [.field (str "forward") (.string (coverageWord c.forwardComplete c.forwardPartial)),
      .field (str "reverse") (.string (coverageWord c.reverseComplete c.reversePartial)),
      .field (str "bidirectional_proven") (.bool c.bidirectional)]
    (by
      simp only [List.map_cons, List.map_nil, Member.field_name]
      simp [str_inj])

theorem writeCoverage_eq (c : Coverage) :
    writeCoverage c = (Member.of (str "coverage") (coverageElement c)).calls := rfl

/-- The members of an anomaly. -/
def anomalyMembers (a : Anomaly) : List Member :=
  ([[.field (str "kind") (.string a.kind.toStr),
      .field (str "conservative_refusal") (.bool (anomalyIsConservativeRefusal a.kind)),
      .field (str "at") (.int a.atTime.nanos), .field (str "observed_at") (.int a.observedAt.nanos)],
    Member.when a.generation.valid
      [.field (str "flow") (.string a.generation.flow.toStr),
        .field (str "generation") (.uint a.generation.generation.value)],
    Member.when a.source.valid [.field (str "source") (.string a.source.toStr)],
    [.field (str "detail") (.string a.detail)]] : List (List Member)).flatten

theorem anomaly_names (a : Anomaly) : ((anomalyMembers a).map Member.name).Nodup := by
  refine Member.nodup_groups (.cons (.refl _) (.cons (Member.when_sublist _ _) (.cons (Member.when_sublist _ _)
    (.cons (.refl _) .nil)))) ?_
  simp only [List.flatten_cons, List.flatten_nil, List.cons_append, List.nil_append, List.map_cons, List.map_nil,
    Member.field_name]
  simp [str_inj]

/-- What is said of an anomaly. -/
def anomalyElement (a : Anomaly) : Element := .object (anomalyMembers a) (anomaly_names a)

theorem writeAnomaly_eq (a : Anomaly) : writeAnomaly a = (anomalyElement a).calls := by
  simp only [writeAnomaly, anomalyElement, anomalyMembers, Element.object_calls, List.flatten_cons, List.flatten_nil,
    List.flatMap_append, List.flatMap_cons, List.flatMap_nil, Member.flatMap_calls_when, Member.field_calls,
    List.cons_append, List.nil_append, List.append_nil, List.append_assoc]

/-- A member that is null when there is no value. -/
def optionalMember (name : Str) (value : Option Str) : Member := .field name ((value.map Scalar.string).getD .null)

@[simp] theorem optionalMember_name (name : Str) (value : Option Str) : (optionalMember name value).name = name := rfl
@[simp] theorem optionalMember_calls (name : Str) (value : Option Str) :
    (optionalMember name value).calls = [optionalField name value] := rfl

/-- The counters of the anomalies of a source. -/
def anomalyCountMembers (counts : List UInt32) : List Member :=
  (List.range kAnomalyKindCount).flatMap fun i =>
    Member.when (counts.getD i 0 ≠ 0) [.field (anomalyName i) (.uint (counts.getD i 0).toUInt64)]

theorem anomalyName_nodup : ((List.range kAnomalyKindCount).map anomalyName).Nodup := by with_unfolding_all decide

theorem anomalyCount_names (counts : List UInt32) : ((anomalyCountMembers counts).map Member.name).Nodup := by
  refine Member.nodup_groups (k := (List.range kAnomalyKindCount).map fun i =>
    [.field (anomalyName i) (.uint (counts.getD i 0).toUInt64)]) ?_ ?_
  · rw [List.forall₂_map_left_iff, List.forall₂_map_right_iff, List.forall₂_same]
    exact fun i _ => Member.when_sublist _ _
  · rw [← List.flatMap_def, List.map_flatMap]
    exact anomalyName_nodup

/-- The members of a source. -/
def sourceMembers (v : SourceView) : List Member :=
  [.field (str "source") (.string v.source.toStr), .field (str "key") (.string v.canonicalKey),
    .field (str "authority") (.uint v.authority.toUInt64), .field (str "advisory_only") (.bool v.advisoryOnly),
    .field (str "capabilities") (.string v.capabilities.describe),
    .field (str "incarnation") (.uint v.incarnation.value),
    .field (str "epoch") (.uint v.epoch.value), .field (str "high_revision") (.uint v.highRevision.value),
    .field (str "high_sequence") (.uint v.highSequence.value),
    .field (str "first_observed_at") (.int v.firstObservedAt.nanos),
    .field (str "last_observed_at") (.int v.lastObservedAt.nanos),
    .field (str "last_received_at") (.int v.lastReceivedAt.nanos),
    .field (str "last_progress_at") (.int v.lastProgressAt.nanos), .field (str "freshness") (.string v.freshness.toStr),
    .field (str "evidence") (.string v.lastEvidence.name), .field (str "last_kind") (.string v.lastKind.name),
    .field (str "last_direction") (.string v.lastDirection.name),
    .field (str "restored_from_journal") (.bool v.restoredFromJournal),
    .field (str "reconfirmed") (.bool v.reconfirmed),
    .field (str "usable_for_liveness") (.bool v.usableForLiveness),
    .of (str "coverage") (coverageElement v.coverage), .of (str "forward") (consumptionElement v.forwardTotals),
    .of (str "reverse") (consumptionElement v.reverseTotals),
    .of (str "aggregate") (consumptionElement v.aggregateTotals),
    optionalMember (str "declared_terminal") (v.declaredTerminal.map FlowState.toStr),
    .field (str "accepted_observations") (.uint v.acceptedObservations.toUInt64),
    .field (str "dropped_observations") (.uint v.droppedObservations.toUInt64),
    .field (str "duplicates_suppressed") (.uint v.duplicatesSuppressed.toUInt64),
    .field (str "content_conflicts") (.uint v.contentConflicts.toUInt64),
    .field (str "distinct_incarnations") (.uint v.distinctIncarnations.toUInt64),
    .field (str "regressions") (.uint v.regressions.toUInt64),
    .field (str "restart_gaps") (.uint v.restartGaps.toUInt64),
    .field (str "saturated") (.bool v.saturated),
    .of (str "anomalies") (.object (anomalyCountMembers v.anomalyCounts) (anomalyCount_names v.anomalyCounts))]

theorem source_names (v : SourceView) : ((sourceMembers v).map Member.name).Nodup := by
  simp only [sourceMembers, List.map_cons, List.map_nil, Member.field_name, Member.of_name, optionalMember_name]
  simp [str_inj]

/-- What is said of a source. -/
def sourceElement (v : SourceView) : Element := .object (sourceMembers v) (source_names v)

theorem anomalyCountMembers_calls (counts : List UInt32) :
    (anomalyCountMembers counts).flatMap Member.calls = (List.range kAnomalyKindCount).flatMap fun i =>
      if counts.getD i 0 = 0 then [] else [.field (anomalyName i) (.uint (counts.getD i 0).toUInt64)] := by
  rw [anomalyCountMembers, List.flatMap_assoc]
  exact List.flatMap_congr fun i _ => by simp

theorem writeSource_eq (v : SourceView) : writeSource v = (sourceElement v).calls := by
  simp only [writeSource, sourceElement, sourceMembers, Element.object_calls, writeCoverage_eq, writeConsumption_eq,
    anomalyCountMembers_calls, List.flatten_cons, List.flatten_nil, List.flatMap_cons, List.flatMap_nil,
    Member.field_calls, Member.of_calls, optionalMember_calls, List.cons_append, List.nil_append, List.append_nil,
    List.append_assoc]

/-- The members of a generation in front of the detail of a conflict. -/
def generationHead (v : GenerationView) : List Member :=
  [.field (str "generation") (.uint v.generation.generation.value),
    .field (str "flow") (.string v.generation.flow.toStr),
    .field (str "is_current") (.bool v.isCurrent), .field (str "state") (.string v.state.toStr),
    .field (str "cause") (.string v.cause.toStr), .field (str "freshness") (.string v.freshness.toStr),
    .field (str "consistency") (.string v.consistency.toStr), .field (str "visibility") (.string v.visibility.toStr),
    .field (str "unresolved_conflict") (.bool v.unresolvedConflict)]

/-- The members of a generation behind the detail of a conflict. -/
def generationBody (v : GenerationView) : List Member :=
  let throughput := computeThroughput v.firstObservedAt v.lastObservedAt v.total
  [.field (str "first_observed_at") (.int v.firstObservedAt.nanos),
    .field (str "last_observed_at") (.int v.lastObservedAt.nanos),
    .field (str "last_received_at") (.int v.lastReceivedAt.nanos),
    .field (str "last_progress_at") (.int v.lastProgressAt.nanos), .field (str "closed_at") (.int v.closedAt.nanos),
    .field (str "duration_ns") (.uint throughput.durationNanos),
    .field (str "duration_known") (.bool throughput.durationKnown),
    .field (str "throughput_bytes_per_second_milli") (.uint throughput.bytesPerSecondMilli),
    .field (str "throughput_packets_per_second_milli") (.uint throughput.packetsPerSecondMilli),
    .field (str "throughput_saturated") (.bool throughput.saturated),
    .field (str "endpoint_a") (.string v.endpointA.toStr), .field (str "endpoint_b") (.string v.endpointB.toStr),
    optionalMember (str "path") (v.path.map OpaqueId.toStr),
    .field (str "has_path_correlation") (.bool v.hasPathCorrelation),
    .field (str "has_queue_correlation") (.bool v.hasQueueCorrelation),
    .field (str "primary_source") (.string v.primarySource.toStr),
    .field (str "excluded_stale_sources") (.uint v.excludedStaleSources.toUInt64),
    .field (str "excluded_advisory_sources") (.uint v.excludedAdvisorySources.toUInt64),
    .of (str "coverage") (coverageElement v.coverage), .of (str "forward") (consumptionElement v.forward),
    .of (str "reverse") (consumptionElement v.reverse), .of (str "aggregate") (consumptionElement v.aggregate),
    .of (str "total") (consumptionElement v.total),
    .of (str "links") (.array (v.links.map fun link => .scalar (.string link.toStr))),
    .of (str "queues") (.array (v.queues.map fun queue => .scalar (.string queue.toStr))),
    .of (str "hop_capacity_units") (.array (v.hopCapacityUnits.map fun units => .scalar (.uint units)))]

/-- The members of a generation. -/
def generationMembers (v : GenerationView) (options : ExportOptions) : List Member :=
  [generationHead v, Member.when (v.conflictDetail ≠ []) [.field (str "conflict_detail") (.string v.conflictDetail)],
    generationBody v, Member.when options.includeSources
      [.of (str "sources") (.array (v.sources.map sourceElement))]].flatten

theorem generation_names (v : GenerationView) (options : ExportOptions) :
    ((generationMembers v options).map Member.name).Nodup := by
  refine Member.nodup_groups (.cons (.refl _) (.cons (Member.when_sublist _ _) (.cons (.refl _)
    (.cons (Member.when_sublist _ _) .nil)))) ?_
  simp only [generationHead, generationBody, List.flatten_cons, List.flatten_nil, List.cons_append, List.nil_append,
    List.map_cons, List.map_nil, Member.field_name, Member.of_name, optionalMember_name]
  simp [str_inj]

/-- What is said of a generation. -/
def generationElement (v : GenerationView) (options : ExportOptions) : Element :=
  .object (generationMembers v options) (generation_names v options)

theorem writeGeneration_eq (v : GenerationView) (options : ExportOptions) :
    writeGeneration v options = (generationElement v options).calls := by
  have hsources : v.sources.flatMap writeSource = (v.sources.map sourceElement).flatMap Element.calls := by
    rw [List.flatMap_map]
    exact List.flatMap_congr fun source _ => writeSource_eq source
  simp only [writeGeneration, generationElement, generationMembers, generationHead, generationBody,
    Element.object_calls, writeCoverage_eq, writeConsumption_eq, hsources, Member.flatMap_calls_when, List.flatten_cons,
    List.flatten_nil, List.flatMap_append, List.flatMap_cons, List.flatMap_nil, Member.field_calls, Member.of_calls,
    optionalMember_calls, Element.array_calls, Element.flatMap_calls_scalar, List.cons_append, List.nil_append,
    List.append_nil, List.append_assoc, decide_eq_true_eq]

/-- The members of every flow. -/
def flowHead (s : FlowSnapshot) : List Member :=
  let throughput := computeThroughput s.firstObservedAt s.lastObservedAt s.total
  [.field (str "flow") (.string s.id.toStr), .field (str "key") (.string s.canonicalKey),
    .field (str "state") (.string s.state.toStr), .field (str "cause") (.string s.cause.toStr),
    .field (str "freshness") (.string s.freshness.toStr), .field (str "consistency") (.string s.consistency.toStr),
    .field (str "visibility") (.string s.visibility.toStr), .field (str "live") (.bool s.isLive),
    .field (str "completion_proven") (.bool (assertsCompletion s.state)),
    .field (str "current_generation") (.uint s.currentGeneration.value),
    .field (str "revision") (.uint s.revision.value),
    .field (str "created_at") (.int s.createdAt.nanos), .field (str "state_changed_at") (.int s.stateChangedAt.nanos),
    .field (str "first_observed_at") (.int s.firstObservedAt.nanos),
    .field (str "last_observed_at") (.int s.lastObservedAt.nanos),
    .field (str "last_received_at") (.int s.lastReceivedAt.nanos),
    .field (str "last_progress_at") (.int s.lastProgressAt.nanos),
    .field (str "endpoint_a") (.string s.endpointA.toStr), .field (str "endpoint_b") (.string s.endpointB.toStr),
    .field (str "restored_from_journal") (.bool s.restoredFromJournal),
    .field (str "restored_epoch") (.uint s.restoredEpoch.value),
    .field (str "current_epoch") (.uint s.currentEpoch.value),
    .field (str "key_collisions") (.uint s.keyCollisions), .field (str "anomalies_dropped") (.uint s.anomaliesDropped),
    .field (str "duration_ns") (.uint throughput.durationNanos),
    .field (str "throughput_bytes_per_second_milli") (.uint throughput.bytesPerSecondMilli),
    .of (str "coverage") (coverageElement s.coverage), .of (str "total") (consumptionElement s.total)]

/-- The members of a flow. -/
def flowMembers (s : FlowSnapshot) (options : ExportOptions) : List Member :=
  [flowHead s,
    Member.when options.includeGenerations
      [.of (str "generations") (.array (s.generations.map (generationElement · options)))],
    Member.when options.includeAnomalies [.of (str "anomalies") (.array (s.anomalies.map anomalyElement))]].flatten

theorem flow_names (s : FlowSnapshot) (options : ExportOptions) : ((flowMembers s options).map Member.name).Nodup := by
  refine Member.nodup_groups (.cons (.refl _) (.cons (Member.when_sublist _ _) (.cons (Member.when_sublist _ _) .nil)))
    ?_
  simp only [flowHead, List.flatten_cons, List.flatten_nil, List.cons_append, List.nil_append, List.map_cons,
    List.map_nil, Member.field_name, Member.of_name]
  simp [str_inj]

/-- What is said of a flow. -/
def flowElement (s : FlowSnapshot) (options : ExportOptions) : Element :=
  .object (flowMembers s options) (flow_names s options)

theorem writeFlow_eq (s : FlowSnapshot) (options : ExportOptions) :
    writeFlow s options = (flowElement s options).calls := by
  have hgenerations : s.generations.flatMap (writeGeneration · options) =
      (s.generations.map (generationElement · options)).flatMap Element.calls := by
    rw [List.flatMap_map]
    exact List.flatMap_congr fun generation _ => writeGeneration_eq generation options
  have hanomalies : s.anomalies.flatMap writeAnomaly = (s.anomalies.map anomalyElement).flatMap Element.calls := by
    rw [List.flatMap_map]
    exact List.flatMap_congr fun anomaly _ => writeAnomaly_eq anomaly
  simp only [writeFlow, flowElement, flowMembers, flowHead, Element.object_calls, writeCoverage_eq, writeConsumption_eq,
    hgenerations, hanomalies, Member.flatMap_calls_when, List.flatten_cons, List.flatten_nil, List.flatMap_append,
    List.flatMap_cons, List.flatMap_nil, Member.field_calls, Member.of_calls, Element.array_calls, List.cons_append,
    List.nil_append, List.append_nil, List.append_assoc]

/-- The counts of a result. -/
def countsElement (r : QueryResult) : Element :=
  .object
    [.field (str "matched") (.uint (UInt64.ofNat r.matched)), .field (str "returned") (.uint (UInt64.ofNat r.returned)),
      .field (str "truncated") (.bool r.truncated)]
    (by
      simp only [List.map_cons, List.map_nil, Member.field_name]
      simp [str_inj])

/-- The members of a result. -/
def resultMembers (r : QueryResult) (options : ExportOptions) : List Member :=
  [.field (str "schema") (.string (str "flow-observatory/export/1")),
    .field (str "engine_version") (.string (str "1.0.0")),
    .field (str "api_version") (.uint 1), .field (str "identity_scheme") (.uint 1),
    .field (str "journal_format_version") (.uint 1), .field (str "evaluated_at") (.int r.evaluatedAt.nanos),
    .field (str "evaluated_at_utc") (.string (formatTimestamp r.evaluatedAt)), .of (str "result") (countsElement r),
    .field (str "deterministic") (.bool options.deterministic),
    .of (str "flows") (.array (r.flows.map (flowElement · options)))]

theorem result_names (r : QueryResult) (options : ExportOptions) :
    ((resultMembers r options).map Member.name).Nodup := by
  simp only [resultMembers, List.map_cons, List.map_nil, Member.field_name, Member.of_name]
  simp [str_inj]

/-- What is said of a result. -/
def resultElement (r : QueryResult) (options : ExportOptions) : Element :=
  .object (resultMembers r options) (result_names r options)

theorem writeQueryResult_eq (r : QueryResult) (options : ExportOptions) :
    writeQueryResult r options = (resultElement r options).calls := by
  have hflows : r.flows.flatMap (writeFlow · options) =
      (r.flows.map (flowElement · options)).flatMap Element.calls := by
    rw [List.flatMap_map]
    exact List.flatMap_congr fun flow _ => writeFlow_eq flow options
  simp only [writeQueryResult, resultElement, resultMembers, countsElement, Element.object_calls, hflows,
    List.flatten_cons, List.flatten_nil, List.flatMap_cons, List.flatMap_nil, Member.field_calls, Member.of_calls,
    Element.array_calls, List.cons_append, List.nil_append, List.append_nil, List.append_assoc]

end Json

/-! ## The text of an export -/

/-- The text of a counter in `Consumption::describe`. -/
def counterText (unsupported : Bool) (value : UInt64) : Str := if unsupported then str "-" else decimal value.toNat

/-- `Consumption::describe`. -/
def Consumption.describe (c : Consumption) : Str :=
  [str "bytes=", counterText c.bytesUnsupported c.bytes, str " packets=", counterText c.packetsUnsupported c.packets,
    str " retransmissions=", counterText c.retransmissionsUnsupported c.retransmissions, str " unknown_intervals=",
    decimal c.unknownIntervals.toNat, if c.saturated then str " saturated=true" else str " saturated=false"].flatten

/-- `FlowSnapshot::one_line`. -/
def FlowSnapshot.oneLine (s : FlowSnapshot) : Str :=
  [s.id.toStr, str " key=", s.canonicalKey, str " gen=", decimal s.currentGeneration.value.toNat, str " state=",
    s.state.toStr,
    str " cause=", s.cause.toStr, str " freshness=", s.freshness.toStr, str " consistency=", s.consistency.toStr,
    str " visibility=", s.visibility.toStr, str " total\x7b", s.total.describe, str "\x7d",
    if s.restoredFromJournal then str " restored=true" else []].flatten

/-- `render_text`. -/
def renderText (result : QueryResult) : Str := result.flows.flatMap fun s => s.oneLine ++ [10]

/-- The text of a result in the format of the options. -/
def renderExport (o : ExportOptions) (result : QueryResult) : Str :=
  match o.format with
  | .Json => Json.written o.pretty (Json.writeQueryResult result o) ++ [10]
  | .Csv => renderCsv result
  | .Text => renderText result

namespace Engine

/-- `export_data`: the text of the result. -/
def exportText (e : Engine) (o : ExportOptions) : Except Error Str := (e.exportData o).map (renderExport o)

variable {e : Engine} {o : ExportOptions} {t : Str}

theorem exportText_ok : e.exportText o = .ok t ↔ ∃ r, e.exportData o = .ok r ∧ renderExport o r = t := by
  unfold exportText
  cases e.exportData o <;> simp [Except.map]

theorem renderExport_json (hformat : o.format = .Json) (r : QueryResult) :
    renderExport o r = Json.written o.pretty (Json.resultElement r o).calls ++ [10] := by
  rw [renderExport, hformat, ← Json.writeQueryResult_eq]

/-- What an export in JSON is read as. -/
theorem text_exported (hformat : o.format = .Json) (h : e.exportText o = .ok t) :
    ∃ r, e.exportData o = .ok r ∧ ∀ v, Json.Text t v ↔ v = (Json.resultElement r o).value := by
  obtain ⟨r, hr, rfl⟩ := exportText_ok.1 h
  obtain ⟨-, hline, hunique⟩ := (Json.resultElement r o).text o.pretty
  rw [renderExport_json hformat]
  exact ⟨r, hr, fun v => ⟨hunique v, fun hv => hv ▸ hline⟩⟩

end Engine

end FlowObs
