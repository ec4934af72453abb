import FlowObs.Calendar
import FlowObs.Engine.ExportJson

/-!
# Explanations

`build_explanation` and `Explanation::render` of `explain.cpp`: the lines that tell what is known of a flow, and the
text of them.
-/

namespace FlowObs

namespace Explanation

/-- `on_off`. -/
def onOff (value : Bool) : Str := if value then str "yes" else str "no"

/-- `append_kv`: the line that is appended. -/
def kv (key : String) (value : Str) : Str := str "  " ++ str key ++ str " = " ++ value ++ [10]

/-- `append_kv` of a count. -/
def kvCount (key : String) (value : Nat) : Str := kv key (decimal value)

/-- `append_kv` of an instant. -/
def kvInstant (key : String) (value : Timestamp) : Str := kv key (decimalInt value.nanos.toInt)

/-- `consumption_line`. -/
def consumptionLine (c : Consumption) : Str :=
  [str "bytes=", counterText c.bytesUnsupported c.bytes, str " packets=", counterText c.packetsUnsupported c.packets,
    str " retransmissions=", counterText c.retransmissionsUnsupported c.retransmissions, str " unknown_intervals=",
    decimal c.unknownIntervals.toNat, if c.isExact then str " exact=yes" else str " exact=no"].flatten

/-- How much of a direction was observed. -/
def coverageWord (complete isPartial : Bool) : Str :=
  if complete then str "complete" else if isPartial then str "partial" else str "unobserved"

variable (s : FlowSnapshot)

/-- The lines of the classification. -/
def classification (evaluatedAt : Timestamp) : Str :=
  [kvInstant "evaluated_at" evaluatedAt, kv "evaluated_at_utc" (formatTimestamp evaluatedAt),
    kv "freshness" s.freshness.toStr, kv "consistency" s.consistency.toStr, kv "visibility" s.visibility.toStr,
    kv "asserts_liveness" (onOff (assertsLiveness s.state)),
    kv "asserts_completion" (onOff (assertsCompletion s.state)),
    kv "terminal" (onOff (isTerminal s.state)), kvCount "current_generation" s.currentGeneration.value.toNat,
    kvCount "revision" s.revision.value.toNat].flatten

/-- The lines of the instants. -/
def instants : Str :=
  [kvInstant "created_at" s.createdAt, kvInstant "state_changed_at" s.stateChangedAt,
    kvInstant "first_observed_at" s.firstObservedAt, kvInstant "last_observed_at" s.lastObservedAt,
    kvInstant "last_received_at" s.lastReceivedAt, kvInstant "last_progress_at" s.lastProgressAt].flatten

/-- The lines of the coverage. -/
def coverage : Str :=
  [kv "endpoint_a" s.endpointA.toStr, kv "endpoint_b" s.endpointB.toStr,
    kv "forward" (coverageWord s.coverage.forwardComplete s.coverage.forwardPartial),
    kv "reverse" (coverageWord s.coverage.reverseComplete s.coverage.reversePartial),
    kv "bidirectional_proven" (onOff s.coverage.bidirectional), kv "total" (consumptionLine s.total)].flatten

/-- The lines of the epochs. -/
def epochs (journalOpen : Bool) (currentEpoch : RuntimeEpoch) : Str :=
  [kv "restored_from_journal" (onOff s.restoredFromJournal), kvCount "restored_epoch" s.restoredEpoch.value.toNat,
    kvCount "current_epoch" s.currentEpoch.value.toNat, kvCount "engine_epoch" currentEpoch.value.toNat,
    kv "journal_open" (onOff journalOpen),
    if s.restoredFromJournal && s.restoredEpoch != s.currentEpoch then
      kv "note" (str "restored evidence is not current; liveness requires fresh evidence in the current runtime epoch")
    else []].flatten

/-- The line and the body of a source. -/
def sourceLines (v : SourceView) : List Str :=
  [[str "    source ", v.source.toStr, str " key=\"", v.canonicalKey, str "\" authority=", decimal v.authority.toNat,
      str " freshness=", v.freshness.toStr, str " usable=", onOff v.usableForLiveness].flatten,
    [kv "capabilities" v.capabilities.describe, kvCount "incarnation" v.incarnation.value.toNat,
      kvCount "epoch" v.epoch.value.toNat, kvCount "high_revision" v.highRevision.value.toNat,
      kvCount "high_sequence" v.highSequence.value.toNat, kv "last_kind" v.lastKind.name,
      kv "last_evidence" v.lastEvidence.name, kvCount "accepted" v.acceptedObservations.toNat,
      kvCount "duplicates" v.duplicatesSuppressed.toNat, kvCount "content_conflicts" v.contentConflicts.toNat,
      kvCount "dropped" v.droppedObservations.toNat, kvCount "regressions" v.regressions.toNat,
      kvCount "restart_gaps" v.restartGaps.toNat, kv "forward" (consumptionLine v.forwardTotals),
      kv "reverse" (consumptionLine v.reverseTotals), kv "aggregate" (consumptionLine v.aggregateTotals),
      (v.declaredTerminal.map fun state => kv "declared_terminal" state.toStr).getD [],
      kv "reconfirmed" (onOff v.reconfirmed)].flatten]

/-- The lines of a generation and its sources. -/
def generationLines (g : GenerationView) : List Str :=
  [str "  generation ", decimal g.generation.generation.value.toNat,
    if g.isCurrent then str " (current)" else str " (superseded)",
      str " state=", g.state.toStr, str " freshness=", g.freshness.toStr, str " visibility=", g.visibility.toStr,
      str " consistency=", g.consistency.toStr].flatten ::
    [kv "total" (consumptionLine g.total), kv "forward" (consumptionLine g.forward),
      kv "reverse" (consumptionLine g.reverse),
      kv "aggregate" (consumptionLine g.aggregate), kvInstant "first_observed_at" g.firstObservedAt,
      kvInstant "last_observed_at" g.lastObservedAt, kvCount "sources" g.sources.length,
      kvCount "excluded_stale_sources" g.excludedStaleSources.toNat,
      kv "path_correlation" (onOff g.hasPathCorrelation), kv "queue_correlation" (onOff g.hasQueueCorrelation),
      (g.path.map fun path => kv "path" path.toStr).getD [],
      if g.unresolvedConflict then kv "conflict" g.conflictDetail else []].flatten ::
    g.sources.flatMap sourceLines

/-- The line of an anomaly. -/
def anomalyLine (a : Anomaly) : Str :=
  [str "  ", a.kind.toStr, if anomalyIsConservativeRefusal a.kind then str " [conservative refusal]" else str
    " [informational]",
    str " at=", decimalInt a.atTime.nanos.toInt, if a.source.valid then str " source=" ++ a.source.toStr else [],
    if a.detail ≠ [] then str " " ++ a.detail else []].flatten

/-- The lines of the anomalies. -/
def anomalyLines : List Str :=
  (if s.anomalies.isEmpty && s.anomaliesDropped == 0 then [str "  none"] else []) ++ s.anomalies.map anomalyLine ++
    if s.anomaliesDropped > 0 then [str "  anomalies_dropped = " ++ decimal s.anomaliesDropped.toNat] else []

/-- The line about the state. -/
def stateLine : FlowState → Str
  | .Unknown => str "  no accepted evidence names this flow; Unknown is the honest answer, not a default"
  | .Observed => str "  evidence exists but carries no current progress; existence is not liveness"
  | .Active => str "  fresh evidence inside the idle window shows progress"
  | .Idle => str "  no progress within expiry.idle_after; idle is not completion"
  | .Completed => str "  completion was declared by a source holding the completion capability"
  | .Reset => str "  a reset was declared; the consumption across the reset boundary is unknown and is reported as such"
  | .Expired =>
    str "  the expiry policy closed this generation; expired is not completed and the runtime does not claim the flow finished"
  | .Conflicting => str "  equal-authority sources disagree and no rule resolves it"

/-- The lines about the visibility and the freshness. -/
def reservations : List Str :=
  (if s.visibility = .OneSided then
      [str "  one-sided visibility: the reverse direction was never observed, so bidirectional behaviour is unproven"]
    else if s.visibility = .Unknown then
      [str "  no accepted observation currently proves coverage of either direction"]
    else []) ++
    if s.freshness ≠ .Fresh then
      [[str "  freshness is ", s.freshness.toStr, str ", so this evidence cannot support current attribution"].flatten]
    else []

/-- `build_explanation`. -/
def build (evaluatedAt : Timestamp) (journalOpen : Bool) (currentEpoch : RuntimeEpoch) : List Str :=
  [[str "flow ", s.id.toStr, str " key=\"", s.canonicalKey, str "\""].flatten,
      [str "state: ", s.state.toStr, str " (cause ", s.cause.toStr, str ")"].flatten,
      str "  --- classification ---", classification s evaluatedAt, str "  --- instants ---", instants s,
      str "  --- coverage ---", coverage s, str "  --- runtime epoch ---", epochs s journalOpen currentEpoch,
      str "  --- generations ---"] ++ s.generations.flatMap generationLines ++
    [str "  --- anomalies ---"] ++ anomalyLines s ++ [str "  --- why this state ---", stateLine s.state] ++
      reservations s

/-- `Explanation::render`. -/
def render (lines : List Str) : Str := lines.flatMap (· ++ [10])

end Explanation

end FlowObs
