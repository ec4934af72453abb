import FlowObs.Ledger

/-!
# Freshness, reconciliation and the lifecycle decision

The pure folds of `reconcile.cpp`: a ledger and its source's descriptor give a `SourceView` (`foldSourceView`), the
source views of a generation give a `GenerationView` (`reconcileGeneration`), and that view with the state last
recorded gives the next state (`decideGenerationState`).
-/

namespace FlowObs

/-! ## Freshness -/

/-- `FreshnessContext`. -/
structure FreshnessContext where
  now : Timestamp := {}
  policy : FreshnessPolicy := {}
  fromPreviousEpoch : Bool := false
deriving DecidableEq, Repr, Inhabited

/-- `classify_freshness`. -/
def classifyFreshness (observedAt receivedAt : Timestamp) (ctx : FreshnessContext) : Freshness :=
  if ctx.fromPreviousEpoch && ctx.policy.requireReconfirmationAfterRestart then .Unknown
  else if !observedAt.known then .Unknown
  else
    -- a source clock ahead of ours is never treated as newer than the instant of receipt
    let effective := if receivedAt.known && receivedAt < observedAt
        && Duration.zero < timeDifference observedAt receivedAt then receivedAt else observedAt
    let reference := if ctx.now.known then ctx.now else receivedAt
    if !reference.known then .Unknown
    else if reference < effective then .Unknown
    else
      let age := timeDifference reference effective
      if age ≤ ctx.policy.freshWindow then .Fresh
      else if age ≤ ctx.policy.expireWindow then .Stale
      else .Expired

/-- `exceeds_clock_skew`. -/
def exceedsClockSkew (observedAt receivedAt : Timestamp) (maxSkew : Duration) : Bool :=
  if !observedAt.known || !receivedAt.known then false
  else if observedAt ≤ receivedAt then false
  else maxSkew < timeDifference observedAt receivedAt

/-! ## Source views -/

/-- `SourceView`. -/
structure SourceView where
  source : SourceId := default
  canonicalKey : Str := []
  authority : UInt32 := 0
  advisoryOnly : Bool := false
  capabilities : SourceCapabilities := {}
  incarnation : IncarnationId := default
  epoch : EpochId := default
  highRevision : RevisionId := default
  highSequence : SequenceNo := default
  firstObservedAt : Timestamp := {}
  lastObservedAt : Timestamp := {}
  lastReceivedAt : Timestamp := {}
  lastProgressAt : Timestamp := {}
  freshness : Freshness := .Unknown
  lastEvidence : Evidence := .Unknown
  lastKind : ObservationKind := .Unknown
  lastDirection : Direction := .Unspecified
  coverage : Coverage := {}
  forward : DirectionalAccounting := {}
  reverse : DirectionalAccounting := {}
  aggregate : DirectionalAccounting := {}
  forwardTotals : Consumption := {}
  reverseTotals : Consumption := {}
  aggregateTotals : Consumption := {}
  observedProgress : Bool := false
  declaredTerminal : Option FlowState := none
  declaredCause : StateCause := .None
  endpointA : EndpointId := default
  endpointB : EndpointId := default
  path : Option PathId := none
  links : List LinkId := []
  queues : List QueueId := []
  hasQueue : Bool := false
  hopCapacityUnits : List UInt64 := []
  acceptedObservations : UInt32 := 0
  refusedObservations : UInt32 := 0
  droppedObservations : UInt32 := 0
  duplicatesSuppressed : UInt32 := 0
  contentConflicts : UInt32 := 0
  historicalIncarnations : UInt32 := 0
  distinctIncarnations : UInt32 := 0
  afterTerminalObservations : UInt32 := 0
  anomalyCounts : List UInt32 := List.replicate kAnomalyKindCount 0
  regressions : UInt32 := 0
  staleEpochEvents : UInt32 := 0
  staleIncarnationEvents : UInt32 := 0
  clockSkewEvents : UInt32 := 0
  restartGaps : UInt32 := 0
  unsupportedEvents : UInt32 := 0
  incompleteEvents : UInt32 := 0
  saturated : Bool := false
  restoredFromJournal : Bool := false
  reconfirmed : Bool := false
deriving DecidableEq, Repr, Inhabited

/-- The fold of a ledger's prefix and retained entries. -/
def SourceLedger.foldAll (l : SourceLedger) (counters : CounterPolicy) : FoldState :=
  l.entries.toList.foldl (applyObservation counters) l.prefixState.toFoldState

/-- `fold_source_view`. -/
def foldSourceView (ledger : SourceLedger) (descriptor : SourceDescriptor) (ctx : FreshnessContext)
    (counters : CounterPolicy) : SourceView :=
  let s := ledger.foldAll counters
  { source := ledger.source
    canonicalKey := descriptor.canonicalKey
    authority := descriptor.authority
    advisoryOnly := descriptor.advisoryOnly
    capabilities := descriptor.capabilities
    incarnation := s.currentIncarnation
    epoch := s.currentEpoch
    highRevision := s.highRevision
    highSequence := s.highSequence
    firstObservedAt := s.firstObservedAt
    lastObservedAt := s.lastObservedAt
    lastReceivedAt := s.lastReceivedAt
    lastProgressAt := s.lastProgressAt
    freshness := classifyFreshness s.lastObservedAt s.lastReceivedAt ctx
    lastEvidence := s.lastEvidence
    lastKind := s.lastKind
    lastDirection := s.lastDirection
    coverage := s.coverage
    forward := s.forward
    reverse := s.reverse
    aggregate := s.aggregate
    forwardTotals := toConsumption s.forward
    reverseTotals := toConsumption s.reverse
    aggregateTotals := toConsumption s.aggregate
    observedProgress := s.observedProgress
    declaredTerminal := s.declaredTerminal.filter isTerminal
    declaredCause := s.declaredCause
    endpointA := s.endpointA
    endpointB := s.endpointB
    path := s.path
    links := s.links
    queues := s.queues
    hasQueue := s.hasQueue
    hopCapacityUnits := s.hopCapacityUnits
    acceptedObservations := ledger.totalAccepted.toUInt32
    droppedObservations := ledger.prefixState.foldedObservations
    duplicatesSuppressed := ledger.duplicatesSuppressed.toUInt32
    contentConflicts := ledger.contentConflicts.toUInt32
    historicalIncarnations := s.historicalIncarnations
    distinctIncarnations := s.distinctIncarnations
    afterTerminalObservations := s.afterTerminalObservations
    anomalyCounts := s.anomalyCounts
    regressions := s.anomalyCount .CounterRegression
    staleEpochEvents := s.anomalyCount .StaleEpochReplay
    staleIncarnationEvents := s.anomalyCount .StaleIncarnationReplay
    clockSkewEvents := s.anomalyCount .ClockSkew
    restartGaps := s.anomalyCount .RestartGap
    unsupportedEvents := s.anomalyCount .UnsupportedMetric
    incompleteEvents := s.anomalyCount .IncompleteEvidence
    saturated := s.forward.saturated || s.reverse.saturated || s.aggregate.saturated
    restoredFromJournal := ctx.fromPreviousEpoch
    reconfirmed := !ctx.fromPreviousEpoch }

/-! ## Generation views -/

/-- `GenerationView`. -/
structure GenerationView where
  generation : FlowGeneration := {}
  isCurrent : Bool := false
  firstObservedAt : Timestamp := {}
  lastObservedAt : Timestamp := {}
  lastReceivedAt : Timestamp := {}
  lastProgressAt : Timestamp := {}
  closedAt : Timestamp := {}
  state : FlowState := .Unknown
  cause : StateCause := .None
  freshness : Freshness := .Unknown
  consistency : Consistency := .Unknown
  coverage : Coverage := {}
  visibility : Visibility := .Unknown
  path : Option PathId := none
  links : List LinkId := []
  queues : List QueueId := []
  hopCapacityUnits : List UInt64 := []
  endpointA : EndpointId := default
  endpointB : EndpointId := default
  forward : Consumption := {}
  reverse : Consumption := {}
  aggregate : Consumption := {}
  total : Consumption := {}
  sources : List SourceView := []
  primarySource : SourceId := default
  excludedStaleSources : UInt32 := 0
  excludedAdvisorySources : UInt32 := 0
  hasPathCorrelation : Bool := false
  hasQueueCorrelation : Bool := false
  unresolvedConflict : Bool := false
  conflictDetail : Str := []
deriving DecidableEq, Repr, Inhabited

/-- The order of `sort_source_views`: authority descending, then source ascending. -/
def sourceViewLess (a b : SourceView) : Bool :=
  if a.authority ≠ b.authority then b.authority < a.authority else a.source < b.source

/-- `sort_source_views`, a stable sort. -/
def sortSourceViews (views : List SourceView) : List SourceView :=
  views.insertionSort (fun a b => !sourceViewLess b a)

/-- `within_tolerance`. -/
def withinTolerance (a b : UInt64) (policy : ReconciliationPolicy) : Bool :=
  let larger := if b < a then a else b
  let smaller := if b < a then b else a
  let absolute := larger - smaller
  if absolute ≤ policy.absoluteToleranceBytes then true
  else
    let relative := checkedMulDiv larger policy.relativeTolerancePpm 1000000
    if relative.overflow then false else absolute ≤ relative.value

/-- `source_is_usable`. -/
def sourceIsUsable (v : SourceView) : Bool := !v.advisoryOnly && isUsableForLiveness v.freshness && v.reconfirmed

/-- `accumulate_coverage`. -/
def accumulateCoverage (a b : Coverage) : Coverage where
  forwardComplete := a.forwardComplete || b.forwardComplete
  forwardPartial := a.forwardPartial || b.forwardPartial
  reverseComplete := a.reverseComplete || b.reverseComplete
  reversePartial := a.reversePartial || b.reversePartial

/-- `sum_consumption`. -/
def sumConsumption (a b : Consumption) : Consumption :=
  let bytes := checkedAdd a.bytes b.bytes
  let packets := checkedAdd a.packets b.packets
  let retx := checkedAdd a.retransmissions b.retransmissions
  let gaps := checkedAdd a.unknownIntervals b.unknownIntervals
  { bytes := bytes.value, packets := packets.value, retransmissions := retx.value, unknownIntervals := gaps.value
    saturated := a.saturated || b.saturated || bytes.overflow || packets.overflow || retx.overflow || gaps.overflow
    bytesUnsupported := a.bytesUnsupported && b.bytesUnsupported
    packetsUnsupported := a.packetsUnsupported && b.packetsUnsupported
    retransmissionsUnsupported := a.retransmissionsUnsupported && b.retransmissionsUnsupported }

/-- `maximum_consumption`. -/
def maximumConsumption (a b : Consumption) : Consumption where
  bytes := if b.bytes < a.bytes then a.bytes else b.bytes
  packets := if b.packets < a.packets then a.packets else b.packets
  retransmissions := if b.retransmissions < a.retransmissions then a.retransmissions else b.retransmissions
  unknownIntervals := if a.unknownIntervals < b.unknownIntervals then a.unknownIntervals else b.unknownIntervals
  saturated := a.saturated || b.saturated
  bytesUnsupported := a.bytesUnsupported && b.bytesUnsupported
  packetsUnsupported := a.packetsUnsupported && b.packetsUnsupported
  retransmissionsUnsupported := a.retransmissionsUnsupported && b.retransmissionsUnsupported

/-- `minimum_consumption`. -/
def minimumConsumption (a b : Consumption) : Consumption where
  bytes := if a.bytes < b.bytes then a.bytes else b.bytes
  packets := if a.packets < b.packets then a.packets else b.packets
  retransmissions := if a.retransmissions < b.retransmissions then a.retransmissions else b.retransmissions
  unknownIntervals := if b.unknownIntervals < a.unknownIntervals then a.unknownIntervals else b.unknownIntervals
  saturated := a.saturated || b.saturated
  bytesUnsupported := a.bytesUnsupported || b.bytesUnsupported
  packetsUnsupported := a.packetsUnsupported || b.packetsUnsupported
  retransmissionsUnsupported := a.retransmissionsUnsupported || b.retransmissionsUnsupported

/-- The `totals_of` lambda. -/
def totalsOf (v : SourceView) : Consumption :=
  sumConsumption (sumConsumption v.forwardTotals v.reverseTotals) v.aggregateTotals

/-- The derived totals of a view, recomputed from its accumulators. -/
def retotal (v : SourceView) : SourceView :=
  { v with forwardTotals := toConsumption v.forward, reverseTotals := toConsumption v.reverse
           aggregateTotals := toConsumption v.aggregate }

/-- The total of the chosen method over the usable sources, starting from the first. -/
def chosenTotal (policy : ReconciliationPolicy) (first : SourceView) (usable : List SourceView) : Consumption :=
  match policy.method with
  | .PrimaryAuthoritative => totalsOf first
  | .MaximumObserved => usable.foldl (fun c v => maximumConsumption c (totalsOf v)) (totalsOf first)
  | .ConservativeMinimum => usable.foldl (fun c v => minimumConsumption c (totalsOf v)) (totalsOf first)

/-- The pairs `i < j` of a list, in loop order. -/
def orderedPairs {α : Type} : List α → List (α × α)
  | [] => []
  | a :: l => l.map (fun b => (a, b)) ++ orderedPairs l

/-- Two usable sources disagree. -/
def disagree (policy : ReconciliationPolicy) (p : SourceView × SourceView) : Bool :=
  !withinTolerance (totalsOf p.1).bytes (totalsOf p.2).bytes policy

/-- The disagreement of a pair is settled by a strictly higher authority. -/
def settled (policy : ReconciliationPolicy) (usable : List SourceView) (p : SourceView × SourceView) : Bool :=
  p.2.authority < p.1.authority
    || (policy.higherAuthorityResolves && usable.any (fun v => p.1.authority < v.authority))

/-- The text of an unresolved disagreement between `left` and `right`. -/
def conflictText (left right : SourceView) : Str :=
  str "equal-authority sources disagree: " ++ left.source.toStr ++ str " reports "
    ++ decimal (totalsOf left).bytes.toNat ++ str " bytes, " ++ right.source.toStr ++ str " reports "
    ++ decimal (totalsOf right).bytes.toNat ++ str " bytes, and no higher authority exists to resolve it"

/-- The verdict on disagreement: the consistency, whether it is unresolved, and its text. -/
def consistencyOf (policy : ReconciliationPolicy) (usable : List SourceView) : Consistency × Bool × Str :=
  if usable.length < 2 then (.Unknown, false, [])
  else
    match (orderedPairs usable).filter (disagree policy) with
    | [] => (.Corroborated, false, [])
    | (left, right) :: rest =>
      if ((left, right) :: rest).all (settled policy usable) then (.Resolved, false, [])
      else (.Conflicting, true, conflictText left right)

/-- The queues of the sources, bounded by the budget. -/
def mergeQueues (budget : Nat) (sources : List SourceView) : List QueueId :=
  sources.foldl (fun acc v => v.queues.foldl
    (fun acc q => if budget ≤ acc.length then acc else pushNew acc (some q)) acc) []

/-- The links of the sources. -/
def mergeLinks (sources : List SourceView) : List LinkId :=
  sources.foldl (fun acc v => v.links.foldl (fun acc l => pushNew acc (some l)) acc) []

/-- The freshness of a generation: fresh when a source is usable, else the first known one. -/
def generationFreshness (sources : List SourceView) : Freshness :=
  if sources.any sourceIsUsable then .Fresh
  else ((sources.find? (fun v => v.freshness != .Unknown)).map (·.freshness)).getD .Unknown

/-- `reconcile_generation`. -/
def reconcileGeneration (flow : FlowId) (generation : GenerationId) (sourceViews : List SourceView)
    (policy : ReconciliationPolicy) (isCurrent : Bool) : GenerationView :=
  let sources := sortSourceViews (sourceViews.map retotal)
  let usable := sources.filter sourceIsUsable
  let primary := sources.find? (fun v => !v.advisoryOnly)
  let shown := usable.head?.or primary
  let verdict := consistencyOf policy usable
  { generation := ⟨flow, generation⟩
    isCurrent := isCurrent
    sources := sources
    firstObservedAt := sources.foldl (fun t v =>
      if !t.known || (v.firstObservedAt.known && v.firstObservedAt < t) then v.firstObservedAt else t) {}
    lastObservedAt := sources.foldl (fun t v => if t < v.lastObservedAt then v.lastObservedAt else t) {}
    lastReceivedAt := sources.foldl (fun t v => if t < v.lastReceivedAt then v.lastReceivedAt else t) {}
    lastProgressAt := sources.foldl (fun t v => if t < v.lastProgressAt then v.lastProgressAt else t) {}
    freshness := generationFreshness sources
    consistency := verdict.1
    unresolvedConflict := verdict.2.1
    conflictDetail := verdict.2.2
    coverage := (sources.filter (fun v => !v.advisoryOnly)).foldl (fun c v => accumulateCoverage c v.coverage) {}
    visibility := (usable.foldl (fun c v => accumulateCoverage c v.coverage) ({} : Coverage)).classify
    path := sources.findSome? (·.path)
    links := mergeLinks sources
    queues := mergeQueues (sources.length * 4 + 4) sources
    hopCapacityUnits := ((sources.find? (fun v => !v.hopCapacityUnits.isEmpty)).map (·.hopCapacityUnits)).getD []
    endpointA := ((sources.find? (·.endpointA.valid)).map (·.endpointA)).getD default
    endpointB := ((sources.find? (·.endpointB.valid)).map (·.endpointB)).getD default
    forward := (shown.map (·.forwardTotals)).getD {}
    reverse := (shown.map (·.reverseTotals)).getD {}
    aggregate := (shown.map (·.aggregateTotals)).getD {}
    total := match usable with
      | first :: _ => chosenTotal policy first usable
      | [] => (primary.map totalsOf).getD {}
    primarySource := (primary.map (·.source)).getD default
    excludedStaleSources := UInt32.ofNat (sources.countP (fun v => !sourceIsUsable v && !v.advisoryOnly))
    excludedAdvisorySources := UInt32.ofNat (sources.countP (fun v => !sourceIsUsable v && v.advisoryOnly))
    hasPathCorrelation := (sources.findSome? (·.path)).isSome
    hasQueueCorrelation := sources.any (·.hasQueue) }

/-! ## The lifecycle decision -/

/-- `StateDecision`. -/
structure StateDecision where
  state : FlowState := .Unknown
  cause : StateCause := .None
  detail : Str := []
  changed : Bool := false
deriving DecidableEq, Repr

/-- The `finish` lambda. -/
def finish (previous state : FlowState) (cause : StateCause) (detail : Str) : StateDecision :=
  ⟨state, cause, detail, state != previous⟩

/-- The terminal state a source declares and is entitled to declare. -/
def honoured (v : SourceView) : Option FlowState :=
  if v.advisoryOnly then none
  else match v.declaredTerminal with
    | some .Completed => if v.capabilities.assertsCompletion then some .Completed else none
    | some .Reset => if v.capabilities.assertsReset then some .Reset else none
    | _ => none

/-- The decision on a terminal declaration that `v` is entitled to make. -/
def honour (previous : FlowState) (v : SourceView) : Option StateDecision :=
  match honoured v with
  | some .Completed =>
    some (finish previous .Completed .CompletionObserved (str "completion declared by " ++ v.source.toStr
      ++ (if v.reconfirmed then [] else str " (evidence carried over from a previous epoch)")))
  | some .Reset => some (finish previous .Reset .ResetObserved (str "reset declared by " ++ v.source.toStr))
  | _ => none

/-- The evidence is older than a window at the reference instant. -/
def agedPast (reference at_ : Timestamp) (window : Duration) : Bool :=
  at_.known && reference.known && window < timeDifference reference at_

/-- The decision when no source currently holds trustworthy evidence. -/
def decideUnusable (view : GenerationView) (previous : FlowState) (expiry : ExpiryPolicy) (reference : Timestamp) :
    StateDecision :=
  if view.sources.any (·.restoredFromJournal) && expiry.enabled then
    if agedPast reference view.lastObservedAt expiry.expireAfter then
      finish previous .Expired .ExpiryPolicy (str "restored evidence aged past expiry.expire_after")
    else
      finish previous .Observed .RecoveredFromJournal
        (str "restored from journal; awaiting evidence in the current runtime epoch")
  else if expiry.enabled && agedPast reference view.lastObservedAt expiry.expireAfter then
    finish previous .Expired .ExpiryPolicy (str "no accepted evidence within expiry.expire_after")
  else if expiry.enabled && previous == .Active && agedPast reference view.lastProgressAt expiry.idleAfter then
    finish previous .Idle .IdleThresholdReached (str "no usable evidence for longer than expiry.idle_after")
  else if previous = .Unknown then
    finish previous .Observed .FirstObservation (str "evidence exists but is not currently trustworthy")
  else finish previous previous .None (str "no change")

/-- The decision when usable evidence exists. -/
def decideUsable (view : GenerationView) (usable : List SourceView) (previous : FlowState) (expiry : ExpiryPolicy)
    (reference : Timestamp) : StateDecision :=
  let lastProgress := usable.foldl (fun t v => if t < v.lastProgressAt then v.lastProgressAt else t) view.lastProgressAt
  if !usable.any (·.observedProgress) then
    finish previous .Observed .FirstObservation (str "usable evidence carries no progress")
  else if expiry.enabled && agedPast reference lastProgress expiry.idleAfter then
    finish previous .Idle .IdleThresholdReached (str "no progress within expiry.idle_after")
  else finish previous .Active .ProgressObserved (str "fresh evidence shows progress")

/-- `decide_generation_state`. -/
def decideGenerationState (view : GenerationView) (previous : FlowState) (expiry : ExpiryPolicy)
    (ctx : FreshnessContext) : StateDecision :=
  if isTerminal previous then finish previous previous .None (str "generation is terminal")
  else if view.unresolvedConflict then finish previous .Conflicting .AuthorityConflict view.conflictDetail
  else match view.sources.findSome? (honour previous) with
    | some d => d
    | none =>
      let usable := view.sources.filter sourceIsUsable
      if usable.isEmpty then decideUnusable view previous expiry ctx.now
      else decideUsable view usable previous expiry ctx.now

end FlowObs
