import FlowObs.Semantics

/-!
# Limits, policies and the engine configuration

Every bound of `limits.hpp`, every policy of `policy.hpp` and the `EngineConfig` of `engine.hpp`, with their defaults
and their `validate` checks in source order. A validated configuration is one whose `validate` succeeds; the facts the
rest of the development takes from that are the lemmas below.
-/

namespace FlowObs

/-! ## Limits -/

/-- `Limits`. -/
structure Limits where
  maxFlows : UInt32 := 200000
  maxSources : UInt32 := 4096
  maxGenerationsPerFlow : UInt32 := 8
  maxPathsPerFlow : UInt32 := 8
  maxQueuesPerFlow : UInt32 := 32
  maxPathHops : UInt32 := 64
  maxObservationsPerSourceFlow : UInt32 := 64
  maxHistoryPerFlow : UInt32 := 128
  maxHistoryFlows : UInt32 := 8192
  maxAnomaliesPerFlow : UInt32 := 32
  maxSourcesPerFlow : UInt32 := 16
  maxPendingObservations : UInt64 := 65536
  maxIngestBatch : UInt64 := 512
  workerThreads : UInt32 := 3
  maxResultSet : UInt64 := 10000
  maxJournalBytes : UInt64 := 512 * 1024 * 1024
  maxKeyBytes : UInt64 := 256
  maxDetailBytes : UInt64 := 512
  maxFrameBytes : UInt64 := 1024 * 1024
  maxConnections : UInt32 := 16
  maxAggregationWindow : Duration := .fromHours 1
  maxClockSkew : Duration := .fromMinutes 5
  maxIngestRecords : UInt64 := 100000000
deriving DecidableEq, Repr, Inhabited

/-- `check`: an out-of-range bound with its message. -/
def check (condition : Bool) (message : String) : Except Error Unit := require condition ⟨.OutOfRange, str message⟩

/-- `Limits::validate`. -/
def Limits.validate (l : Limits) : Except Error Unit := do
  check (0 < l.maxFlows) "limits.max_flows must be greater than zero"
  check (l.maxFlows ≤ 100000000) "limits.max_flows exceeds the supported maximum"
  check (0 < l.maxSources) "limits.max_sources must be greater than zero"
  check (l.maxSources ≤ 1000000) "limits.max_sources exceeds the supported maximum"
  check (0 < l.maxGenerationsPerFlow) "limits.max_generations_per_flow must be greater than zero"
  check (l.maxGenerationsPerFlow ≤ 4096) "limits.max_generations_per_flow exceeds the supported maximum"
  check (0 < l.maxPathsPerFlow) "limits.max_paths_per_flow must be greater than zero"
  check (l.maxPathsPerFlow ≤ 4096) "limits.max_paths_per_flow exceeds the supported maximum"
  check (0 < l.maxQueuesPerFlow) "limits.max_queues_per_flow must be greater than zero"
  check (l.maxQueuesPerFlow ≤ 65536) "limits.max_queues_per_flow exceeds the supported maximum"
  check (0 < l.maxPathHops) "limits.max_path_hops must be greater than zero"
  check (l.maxPathHops ≤ 4096) "limits.max_path_hops exceeds the supported maximum"
  check (0 < l.maxObservationsPerSourceFlow) "limits.max_observations_per_source_flow must be greater than zero"
  check (l.maxObservationsPerSourceFlow ≤ 65536)
    "limits.max_observations_per_source_flow exceeds the supported maximum"
  check (0 < l.maxHistoryPerFlow) "limits.max_history_per_flow must be greater than zero"
  check (l.maxHistoryPerFlow ≤ 65536) "limits.max_history_per_flow exceeds the supported maximum"
  check (0 < l.maxHistoryFlows) "limits.max_history_flows must be greater than zero"
  check (l.maxHistoryFlows ≤ 100000000) "limits.max_history_flows exceeds the supported maximum"
  check (0 < l.maxAnomaliesPerFlow) "limits.max_anomalies_per_flow must be greater than zero"
  check (l.maxAnomaliesPerFlow ≤ 65536) "limits.max_anomalies_per_flow exceeds the supported maximum"
  check (0 < l.maxSourcesPerFlow) "limits.max_sources_per_flow must be greater than zero"
  check (l.maxSourcesPerFlow ≤ 65536) "limits.max_sources_per_flow exceeds the supported maximum"
  check (0 < l.maxPendingObservations) "limits.max_pending_observations must be greater than zero"
  check (l.maxPendingObservations ≤ 0x100000000) "limits.max_pending_observations exceeds the supported maximum"
  check (0 < l.maxIngestBatch) "limits.max_ingest_batch must be greater than zero"
  check (l.maxIngestBatch ≤ l.maxPendingObservations)
    "limits.max_ingest_batch must not exceed limits.max_pending_observations"
  check (l.workerThreads ≤ 1024) "limits.worker_threads exceeds the supported maximum"
  check (0 < l.maxResultSet) "limits.max_result_set must be greater than zero"
  check (l.maxResultSet ≤ 100000000) "limits.max_result_set exceeds the supported maximum"
  check (4096 < l.maxJournalBytes) "limits.max_journal_bytes must exceed 4096"
  check (0 < l.maxKeyBytes) "limits.max_key_bytes must be greater than zero"
  check (l.maxKeyBytes ≤ 65536) "limits.max_key_bytes exceeds the supported maximum"
  check (0 < l.maxDetailBytes) "limits.max_detail_bytes must be greater than zero"
  check (l.maxDetailBytes ≤ 65536) "limits.max_detail_bytes exceeds the supported maximum"
  check (64 ≤ l.maxFrameBytes) "limits.max_frame_bytes must be at least 64"
  check (l.maxFrameBytes ≤ 0x4000000) "limits.max_frame_bytes exceeds the supported maximum"
  check (0 < l.maxConnections) "limits.max_connections must be greater than zero"
  check (l.maxConnections ≤ 4096) "limits.max_connections exceeds the supported maximum"
  check (0 < l.maxAggregationWindow.nanos) "limits.max_aggregation_window must be positive"
  check (0 ≤ l.maxClockSkew.nanos) "limits.max_clock_skew must not be negative"
  check (0 < l.maxIngestRecords) "limits.max_ingest_records must be greater than zero"

/-- What `Limits::validate` has checked, limit by limit. -/
structure Limits.Valid (l : Limits) : Prop where
  flows : 0 < l.maxFlows ∧ l.maxFlows ≤ 100000000
  sources : 0 < l.maxSources ∧ l.maxSources ≤ 1000000
  generations : 0 < l.maxGenerationsPerFlow ∧ l.maxGenerationsPerFlow ≤ 4096
  pathHops : 0 < l.maxPathHops ∧ l.maxPathHops ≤ 4096
  observations : 0 < l.maxObservationsPerSourceFlow ∧ l.maxObservationsPerSourceFlow ≤ 65536
  history : 0 < l.maxHistoryPerFlow ∧ l.maxHistoryPerFlow ≤ 65536
  anomalies : 0 < l.maxAnomaliesPerFlow ∧ l.maxAnomaliesPerFlow ≤ 65536
  sourcesPerFlow : 0 < l.maxSourcesPerFlow ∧ l.maxSourcesPerFlow ≤ 65536
  pending : 0 < l.maxPendingObservations ∧ l.maxPendingObservations ≤ 0x100000000
  resultSet : 0 < l.maxResultSet ∧ l.maxResultSet ≤ 100000000
  journalBytes : 4096 < l.maxJournalBytes
  keyBytes : 0 < l.maxKeyBytes ∧ l.maxKeyBytes ≤ 65536
  detailBytes : 0 < l.maxDetailBytes ∧ l.maxDetailBytes ≤ 65536
  frameBytes : 64 ≤ l.maxFrameBytes ∧ l.maxFrameBytes ≤ 0x4000000
  clockSkew : 0 ≤ l.maxClockSkew.nanos
  ingestRecords : 0 < l.maxIngestRecords

theorem Limits.valid_of_validate {l : Limits} (h : l.validate = .ok ()) : l.Valid := by
  simp only [Limits.validate, check, require_bind_ok, require_ok, decide_eq_true_eq] at h
  constructor <;> grind

/-- The lengths of keys and details fit the length fields of the codecs. -/
theorem Limits.Valid.lt_width {l : Limits} (h : l.Valid) :
    l.maxKeyBytes.toNat < 2 ^ 32 ∧ l.maxDetailBytes.toNat < 2 ^ 32 := by
  have hkey := UInt64.le_iff_toNat_le.1 h.keyBytes.2
  have hdetail := UInt64.le_iff_toNat_le.1 h.detailBytes.2
  have hmax : (65536 : UInt64).toNat = 65536 := rfl
  constructor <;> omega

/-! ## Policies -/

/-- `FreshnessPolicy`. -/
structure FreshnessPolicy where
  freshWindow : Duration := .fromSeconds 30
  expireWindow : Duration := .fromMinutes 10
  clampFutureTimestamps : Bool := true
  requireReconfirmationAfterRestart : Bool := true
deriving DecidableEq, Repr, Inhabited

def FreshnessPolicy.validate (p : FreshnessPolicy) : Except Error Unit := do
  check (0 ≤ p.freshWindow.nanos) "freshness.fresh_window must not be negative"
  check (0 < p.expireWindow.nanos) "freshness.expire_window must be positive"
  check (p.expireWindow.nanos ≥ p.freshWindow.nanos)
    "freshness.expire_window must be at least freshness.fresh_window"

/-- `ExpiryPolicy`. -/
structure ExpiryPolicy where
  enabled : Bool := true
  idleAfter : Duration := .fromSeconds 30
  expireAfter : Duration := .fromMinutes 15
deriving DecidableEq, Repr, Inhabited

def ExpiryPolicy.validate (p : ExpiryPolicy) : Except Error Unit := do
  check (0 ≤ p.idleAfter.nanos) "expiry.idle_after must not be negative"
  check (0 < p.expireAfter.nanos) "expiry.expire_after must be positive"
  check (p.expireAfter.nanos ≥ p.idleAfter.nanos) "expiry.expire_after must be at least expiry.idle_after"

/-- `CounterPolicy`. -/
structure CounterPolicy where
  treatRegressionAsReset : Bool := true
  honorExplicitCounterReset : Bool := true
deriving DecidableEq, Repr, Inhabited

/-- `ReconciliationPolicy::Method`. -/
inductive ReconciliationMethod
  | PrimaryAuthoritative | MaximumObserved | ConservativeMinimum
deriving DecidableEq, Repr, Inhabited

/-- `ReconciliationPolicy`. -/
structure ReconciliationPolicy where
  method : ReconciliationMethod := .PrimaryAuthoritative
  absoluteToleranceBytes : UInt64 := 0
  relativeTolerancePpm : UInt64 := 0
  higherAuthorityResolves : Bool := true
  excludeStaleFromTotals : Bool := true
deriving DecidableEq, Repr, Inhabited

def ReconciliationPolicy.validate (p : ReconciliationPolicy) : Except Error Unit :=
  check (p.relativeTolerancePpm ≤ 1000000) "reconciliation.relative_tolerance_ppm must not exceed 1000000"

/-- `RecoveryPolicy::TornTail`. -/
inductive TornTail
  | Reject | TruncateTornTail
deriving DecidableEq, Repr, Inhabited

/-- `RecoveryPolicy`. -/
structure RecoveryPolicy where
  tornTail : TornTail := .TruncateTornTail
  enforceFormatVersion : Bool := true
  enforceIdentityScheme : Bool := true
  demoteRestoredLiveness : Bool := true
  newAccountingIntervalAfterRestart : Bool := true
deriving DecidableEq, Repr, Inhabited

/-- `AttributionPolicy::Method`. -/
inductive AttributionMethod
  | EndpointOnly | UniformAcrossHops | ProportionalToCapacity
deriving DecidableEq, Repr, Inhabited

/-- `AttributionPolicy`. -/
structure AttributionPolicy where
  method : AttributionMethod := .EndpointOnly
  requireFreshGeneration : Bool := true
  requireCurrentGeneration : Bool := true
deriving DecidableEq, Repr, Inhabited

/-- `QueryPolicy`. -/
structure QueryPolicy where
  maxRows : UInt64 := 10000
  maxWindow : Duration := .fromHours 1
  includeAnomalies : Bool := true
  includeSources : Bool := true
  includeGenerations : Bool := true
deriving DecidableEq, Repr, Inhabited

def QueryPolicy.validate (p : QueryPolicy) : Except Error Unit := do
  check (0 < p.maxRows) "query.max_rows must be greater than zero"
  check (0 < p.maxWindow.nanos) "query.max_window must be positive"

/-! ## The engine configuration -/

/-- `EngineConfig`. The clock is not part of it: an engine state carries its reading. -/
structure EngineConfig where
  limits : Limits := {}
  freshness : FreshnessPolicy := {}
  expiry : ExpiryPolicy := {}
  counters : CounterPolicy := {}
  reconciliation : ReconciliationPolicy := {}
  attribution : AttributionPolicy := {}
  recovery : RecoveryPolicy := {}
  query : QueryPolicy := {}
  journalPath : Str := []
  restoreOnOpen : Bool := true
deriving DecidableEq, Repr, Inhabited

/-- `EngineConfig::validate`. The enumerated methods are all known, so their switches always pass. -/
def EngineConfig.validate (c : EngineConfig) : Except Error Unit := do
  c.limits.validate
  c.freshness.validate
  c.expiry.validate
  c.reconciliation.validate
  c.query.validate
  check (c.query.maxRows ≤ c.limits.maxResultSet) "query.max_rows must not exceed limits.max_result_set"

theorem EngineConfig.validate_limits {c : EngineConfig} (h : c.validate = .ok ()) : c.limits.validate = .ok () := by
  unfold EngineConfig.validate at h
  cases hl : c.limits.validate with
  | error e => rw [hl] at h; cases h
  | ok _ => rfl

theorem EngineConfig.limits_valid {c : EngineConfig} (h : c.validate = .ok ()) : c.limits.Valid :=
  Limits.valid_of_validate (validate_limits h)

/-- **The defaults pass their own checks**, whatever the path of the journal is. -/
theorem EngineConfig.validate_default (path : Str) : ({ journalPath := path } : EngineConfig).validate = .ok () := by
  show ({} : EngineConfig).validate = .ok ()
  decide

/-- `CounterPolicy::describe`. -/
def CounterPolicy.describe (p : CounterPolicy) : Str :=
  str "treat_regression_as_reset=" ++ (if p.treatRegressionAsReset then str "true" else str "false")
    ++ str " honor_explicit_counter_reset=" ++ (if p.honorExplicitCounterReset then str "true" else str "false")

/-- `policy_digest`: only the counter policy takes part. -/
def EngineConfig.policyDigest (c : EngineConfig) : UInt64 := fnv1a64Raw c.counters.describe

example : (({} : EngineConfig).validate).isOk = true := by decide

end FlowObs
