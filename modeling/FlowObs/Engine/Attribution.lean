import FlowObs.Engine.Query

/-!
# Attribution

`attribute_generation` attributes the total of a reconciled generation to its flow, its endpoints, and by the method
of the policy to its links and queues, in shares that `distribute` cuts.
-/

namespace FlowObs

/-! ## Shares -/

/-- The sum of the weights, saturated at the first overflow. -/
def weightSum : UInt64 → List UInt64 → UInt64
  | sum, [] => sum
  | sum, w :: weights =>
    if (checkedAdd sum w).overflow then 0xFFFFFFFFFFFFFFFF else weightSum (checkedAdd sum w).value weights

/-- An equal split of `n` shares. The remainder goes to the lowest indices. -/
def equalShares (base : UInt64) : UInt64 → Nat → List UInt64
  | _, 0 => []
  | remainder, n + 1 =>
    (if 0 < remainder then base + 1 else base) :: equalShares base
      (if 0 < remainder then remainder - 1 else remainder) n

/-- The share of a weight before the remainder is given out, with its own remainder. -/
def scaledShare (total sum weight : UInt64) : UInt64 × UInt64 :=
  let product := checkedMul total weight
  if product.overflow then (0xFFFFFFFFFFFFFFFF / sum, 0) else (product.value / sum, product.value % sum)

/-- The excess is taken back from the shares, first to last. -/
def trimShares : UInt64 → List UInt64 → List UInt64
  | _, [] => []
  | excess, share :: shares =>
    if excess = 0 then share :: shares
    else
      let take := if share < excess then share else excess
      (share - take) :: trimShares (excess - take) shares

/-- The index of the largest remainder, the first among equals. -/
def largestIndex (remainders : List UInt64) : Nat :=
  remainders.zipIdx.foldl (fun best p => if (remainders.getD best 0) < p.1 then p.2 else best) 0

/-- The remainder is given out one by one, each time to the largest remainder, which is then spent. -/
def giveOut : Nat → List UInt64 → List UInt64 → List UInt64
  | 0, _, shares => shares
  | n + 1, remainders, shares =>
    let best := largestIndex remainders
    giveOut n (remainders.set best 0) (shares.modify best (· + 1))

/-- `distribute`: largest-remainder shares of the total. -/
def distribute (total : UInt64) (weights : List UInt64) : List UInt64 :=
  if weights.isEmpty then []
  else
    let sum := weightSum 0 weights
    let count := UInt64.ofNat weights.length
    if sum = 0 then equalShares (total / count) (total % count) weights.length
    else
      let scaled := weights.map (scaledShare total sum)
      let shares := scaled.map (·.1)
      let assigned := shares.foldl (· + ·) 0
      if total < assigned then (trimShares (assigned - total) shares.reverse).reverse
      else giveOut (total - assigned).toNat (scaled.map (·.2)) shares

example : distribute 10 [1, 1, 1] = [4, 3, 3] := by decide

/-! ## Reports -/

/-- `AttributionStatus`. -/
inductive AttributionStatus
  | Ok | FlowNotFound | GenerationNotFound | StaleGeneration | NotCurrentGeneration | NoPathCorrelation
  | UnsupportedByMetadata | UnresolvedConflict | LimitExceeded
deriving DecidableEq, Repr, Inhabited

/-- `AttributedTarget::Kind`. -/
inductive TargetKind
  | Flow | EndpointA | EndpointB | Path | Link | Queue
deriving DecidableEq, Repr, Inhabited

/-- `AttributedTarget`. -/
structure AttributedTarget where
  kind : TargetKind := .Flow
  index : UInt32 := 0
  link : LinkId := default
  queue : QueueId := default
  endpoint : EndpointId := default
  consumption : Consumption := {}
  capacityUnits : Option UInt64 := none
  shareNumerator : UInt64 := 0
  shareDenominator : UInt64 := 0
deriving DecidableEq, Repr, Inhabited

/-- `AttributionReport`. -/
structure AttributionReport where
  flow : FlowId := default
  generation : GenerationId := default
  status : AttributionStatus := .Ok
  statusDetail : Str := []
  method : AttributionMethod := .EndpointOnly
  generationIsCurrent : Bool := false
  generationFreshness : Freshness := .Unknown
  total : Consumption := {}
  targets : List AttributedTarget := []
  notes : List Str := []
deriving DecidableEq, Repr, Inhabited

/-- The `fail` lambda. -/
def AttributionReport.fail (r : AttributionReport) (status : AttributionStatus) (detail : Str) : AttributionReport :=
  { r with status := status, statusDetail := detail }

/-- The targets of the endpoints. -/
def endpointTargets (g : GenerationView) : List AttributedTarget :=
  if g.endpointA.valid || g.endpointB.valid then
    [{ kind := .EndpointA, endpoint := g.endpointA, consumption := g.forward },
     { kind := .EndpointB, endpoint := g.endpointB, consumption := if g.endpointB.valid then g.reverse else {} }]
  else []

/-- The notes on the endpoints. -/
def endpointNotes (g : GenerationView) : List Str :=
  if g.endpointA.valid || g.endpointB.valid then
    if g.endpointB.valid then [] else [str "the reverse endpoint was never named by any accepted observation"]
  else [str "no endpoint correlation was declared by any accepted observation"]

/-- The weights of the hops under the method, or why there are none. -/
def hopWeights (method : AttributionMethod) (g : GenerationView) : Except Str (List UInt64) :=
  if method = .ProportionalToCapacity then
    if g.hopCapacityUnits.length ≠ g.links.length then
      .error (str "capacity metadata is missing or its length does not match the hop count")
    else if g.hopCapacityUnits.any (· == 0) then .error (str "capacity metadata contains a zero weight")
    else .ok g.hopCapacityUnits
  else .ok (List.replicate g.links.length 1)

/-- The targets of hop `i`: its link, and a queue when there is one of that index. -/
def hopTargets (method : AttributionMethod) (g : GenerationView) (weights : List UInt64) (i : Nat) :
    List AttributedTarget :=
  let share : UInt64 → UInt64 := fun total => (distribute total weights).getD i 0
  let split : Consumption :=
    { bytes := share g.total.bytes, packets := share g.total.packets, retransmissions := share g.total.retransmissions
      unknownIntervals := g.total.unknownIntervals, saturated := g.total.saturated }
  let weight := weights.getD i 0
  let denominator := weights.foldl (· + ·) 0
  let link : AttributedTarget :=
    { kind := .Link, index := UInt32.ofNat i, link := g.links.getD i default
      consumption := { split with
        bytesUnsupported := g.total.bytesUnsupported, packetsUnsupported := g.total.packetsUnsupported
        retransmissionsUnsupported := g.total.retransmissionsUnsupported }
      shareNumerator := weight, shareDenominator := denominator
      capacityUnits := if method = .ProportionalToCapacity then some weight else none }
  if h : i < g.queues.length then
    [link, { kind := .Queue, index := UInt32.ofNat i, queue := g.queues[i], consumption := split
             shareNumerator := weight, shareDenominator := denominator }]
  else [link]

/-- The notes on the hops. -/
def hopNotes (g : GenerationView) : List Str :=
  (if g.links.length < g.queues.length then [str "more queues than hops were declared; the extra queues carry no share"]
    else []) ++
  if 0 < g.total.unknownIntervals then
    [str "the total is a lower bound: " ++ decimal g.total.unknownIntervals.toNat ++
      str " interval(s) were never observed"]
  else []

/-- The targets of the flow and of its endpoints. -/
def ownTargets (g : GenerationView) : List AttributedTarget :=
  { kind := .Flow, consumption := g.total } :: endpointTargets g

/-- The attribution of a generation that may be attributed, to its hops too when the method asks for it. -/
def attributeTotal (report : AttributionReport) (g : GenerationView) (policy : AttributionPolicy) (maxTargets : Nat) :
    AttributionReport :=
  let report := { report with total := g.total, targets := ownTargets g, notes := endpointNotes g }
  if policy.method = .EndpointOnly then
    if maxTargets < report.targets.length then
      report.fail .LimitExceeded (str "target count exceeds the configured bound")
    else report
  else if g.path.isNone || g.links.isEmpty then
    report.fail .NoPathCorrelation (str "the chosen method needs a path with hop evidence and none was accepted")
  else if maxTargets < g.links.length then report.fail .LimitExceeded (str "path exceeds the configured target bound")
  else match hopWeights policy.method g with
    | .error detail => report.fail .UnsupportedByMetadata detail
    | .ok weights =>
      let report := { report with
        targets := report.targets ++ (List.range g.links.length).flatMap (hopTargets policy.method g weights)
        notes := report.notes ++ hopNotes g }
      if maxTargets < report.targets.length then
        report.fail .LimitExceeded (str "target count exceeds the configured bound")
      else report

/-- `attribute_generation`. -/
def attributeGeneration (flow : FlowSnapshot) (g : GenerationView) (policy : AttributionPolicy) (maxTargets : Nat) :
    AttributionReport :=
  let report : AttributionReport :=
    { flow := flow.id, generation := g.generation.generation, method := policy.method,
      generationIsCurrent := g.isCurrent
      generationFreshness := g.freshness }
  if policy.requireCurrentGeneration && !g.isCurrent then
    report.fail .NotCurrentGeneration (str "the flow has advanced beyond this generation")
  else if policy.requireFreshGeneration && g.freshness != .Fresh then
    report.fail .StaleGeneration (str "generation freshness is " ++ g.freshness.toStr
      ++ str "; stale path generations cannot support current attribution")
  else if g.unresolvedConflict then
    report.fail .UnresolvedConflict (if g.conflictDetail.isEmpty then str "sources disagree" else g.conflictDetail)
  else attributeTotal report g policy maxTargets

end FlowObs
