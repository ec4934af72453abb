import FlowObs.Engine.State

/-!
# Recomputing a flow

`recompute_flow` re-derives every generation of a flow from its ledgers and records the lifecycle decision. The flow
enters it only through its generations: `recomputeGeneration` is what happens to one of them and what it emits, and
`recomputeFlow` applies it to each and rolls the results up.
-/

namespace FlowObs

/-! ## Views -/

/-- The cached fold of a binding, folding the ledger when there is none. -/
def SourceBinding.fold (b : SourceBinding) (descriptor : SourceDescriptor) (ctx : FreshnessContext)
    (config : EngineConfig) : SourceView :=
  b.cached.getD (foldSourceView b.ledger descriptor { ctx with fromPreviousEpoch := !b.reconfirmed } config.counters)

/-- `source_view`: the cached fold with what depends on the instant and on the binding. -/
def sourceView (config : EngineConfig) (b : SourceBinding) (descriptor : SourceDescriptor) (ctx : FreshnessContext) :
    SourceView :=
  let v := b.fold descriptor ctx config
  { v with
    freshness := if !b.reconfirmed && config.freshness.requireReconfirmationAfterRestart then .Unknown
      else classifyFreshness v.lastObservedAt v.lastReceivedAt ctx
    refusedObservations := b.refusedObservations
    staleEpochEvents := b.staleEpochEvents
    staleIncarnationEvents := b.staleIncarnationEvents
    clockSkewEvents := b.clockSkewEvents
    unsupportedEvents := b.unsupportedEvents
    incompleteEvents := b.incompleteEvents
    restoredFromJournal := b.restored
    reconfirmed := b.reconfirmed }

/-- The view of a binding whose source is registered. -/
def bindingView (config : EngineConfig) (sources : SourceTable) (ctx : FreshnessContext) (b : SourceBinding) :
    Option SourceView :=
  (sources.find? b.source).map (fun s => sourceView config b s.descriptor ctx)

/-- The reconciled evidence of a generation. -/
def evidenceView (config : EngineConfig) (sources : SourceTable) (ctx : FreshnessContext) (flow : FlowId)
    (current : GenerationId) (g : GenerationRuntime) : GenerationView :=
  reconcileGeneration flow g.id (g.bindings.toList.filterMap (bindingView config sources ctx)) config.reconciliation
    (g.id == current)

/-- `generation_view`: the evidence with the lifecycle fields of the runtime record. -/
def generationView (config : EngineConfig) (sources : SourceTable) (ctx : FreshnessContext) (flow : FlowId)
    (current : GenerationId) (g : GenerationRuntime) : GenerationView :=
  { evidenceView config sources ctx flow current g with state := g.state, cause := g.cause, closedAt := g.closedAt }

/-! ## Anomalies promoted from a fold -/

/-- The anomaly kinds of a fold that were not promoted before, by index. -/
def newKinds (v : SourceView) (promoted : UInt32) : List Nat :=
  (List.range kAnomalyKindCount).filter
    (fun i => v.anomalyCounts.getD i 0 != 0 && (promoted >>> UInt32.ofNat i) &&& 1 == 0)

/-- What recomputing does to a binding: its fold is cached and its anomalies are marked as promoted. -/
def refreshBinding (config : EngineConfig) (sources : SourceTable) (ctx : FreshnessContext) (b : SourceBinding) :
    SourceBinding :=
  match sources.find? b.source with
  | none => b
  | some s =>
    { b with
      cached := some (b.fold s.descriptor ctx config)
      promotedAnomalyKinds := (newKinds (sourceView config b s.descriptor ctx) b.promotedAnomalyKinds).foldl
        (fun bits i => bits ||| (1 <<< UInt32.ofNat i)) b.promotedAnomalyKinds }

theorem refreshBinding_source (config : EngineConfig) (sources : SourceTable) (ctx : FreshnessContext)
    (b : SourceBinding) : (refreshBinding config sources ctx b).source = b.source := by
  unfold refreshBinding
  split <;> rfl

/-- The anomalies promoted from one binding. -/
def promotedAnomalies (config : EngineConfig) (sources : SourceTable) (ctx : FreshnessContext) (flow : FlowId)
    (generation : GenerationId) (atTime : Timestamp) (b : SourceBinding) : List Anomaly :=
  match bindingView config sources ctx b with
  | none => []
  | some v => (newKinds v b.promotedAnomalyKinds).map (fun i =>
    { kind := (AnomalyKind.ofU8? (UInt8.ofNat i)).getD .None
      atTime := atTime
      observedAt := v.lastObservedAt
      generation := ⟨flow, generation⟩
      source := b.source
      detail := decimal (v.anomalyCounts.getD i 0).toNat
        ++ str " occurrence(s) recorded while folding this source's evidence" })

/-- A usable source declared a terminal state without the capability to do so. -/
def unentitled (v : SourceView) : Option FlowState :=
  if !(!v.advisoryOnly && isUsableForLiveness v.freshness && v.reconfirmed) then none
  else v.declaredTerminal.filter (fun declared =>
    !(match declared with
      | .Completed => v.capabilities.assertsCompletion
      | .Reset => v.capabilities.assertsReset
      | _ => true))

/-- The anomaly that records an unentitled declaration. -/
def capabilityAnomaly (atTime : Timestamp) (v : SourceView) : Option Anomaly :=
  (unentitled v).map (fun declared => makeAnomaly .CapabilityUnsupported atTime {}
    (str "source " ++ v.source.toStr ++ str " declared " ++ declared.toStr ++ str " without holding the capability"))

/-! ## One generation -/

/-- What recomputing one generation gives. -/
structure GenerationStep where
  generation : GenerationRuntime
  promoted : List Anomaly := []
  refused : List Anomaly := []
  event : Option LifecycleEvent := none

/-- The projections of the evidence that recomputing assigns to the record. -/
def projectView (g : GenerationRuntime) (view : GenerationView) : GenerationRuntime :=
  { g with coverage := view.coverage, endpointA := view.endpointA, endpointB := view.endpointB
           firstObservedAt := view.firstObservedAt, lastObservedAt := view.lastObservedAt
           lastReceivedAt := view.lastReceivedAt, lastProgressAt := view.lastProgressAt }

/-- `transition`: the record takes the new state and cause; a terminal one closes it. -/
def transition (g : GenerationRuntime) (next : FlowState) (cause : StateCause) (atTime : Timestamp) :
    GenerationRuntime :=
  { g with state := next, cause := cause, closedAt := if isTerminal next then atTime else g.closedAt }

/-- The lifecycle event of a decision for a generation. -/
def lifecycleEvent (flow : FlowId) (g : GenerationRuntime) (decision : StateDecision) (cause : StateCause)
    (atTime observedAt : Timestamp) : LifecycleEvent where
  atTime := atTime
  observedAt := observedAt
  generation := ⟨flow, g.id⟩
  fromState := g.state
  toState := decision.state
  cause := cause
  source := (g.bindings.toList.head?.map (·.source)).getD default
  detail := decision.detail

/-- The lifecycle decision on a generation. -/
def decisionFor (config : EngineConfig) (sources : SourceTable) (ctx : FreshnessContext) (flow : FlowId)
    (current : GenerationId) (g : GenerationRuntime) : StateDecision :=
  decideGenerationState (generationView config sources ctx flow current g) g.state config.expiry ctx

/-- A decision whose cause is `None` keeps the previous cause. -/
def StateDecision.causeFor (d : StateDecision) (g : GenerationRuntime) : StateCause :=
  if d.cause = .None then g.cause else d.cause

/-- A decision changes the state or the cause of a generation. -/
def StateDecision.changes (d : StateDecision) (g : GenerationRuntime) : Bool :=
  d.state != g.state || d.causeFor g != g.cause

/-- A generation with its bindings refreshed and the projections of its evidence assigned. -/
def refreshGeneration (config : EngineConfig) (sources : SourceTable) (ctx : FreshnessContext) (flow : FlowId)
    (current : GenerationId) (g : GenerationRuntime) : GenerationRuntime :=
  let bindings := g.bindings.map (refreshBinding config sources ctx) (refreshBinding_source config sources ctx)
  projectView { g with bindings := bindings } (generationView config sources ctx flow current g)

/-- The record of a generation after the body of the loop of `recompute_flow`. -/
def recomputeRecord (config : EngineConfig) (sources : SourceTable) (ctx : FreshnessContext) (flow : FlowId)
    (current : GenerationId) (atTime : Timestamp) (g : GenerationRuntime) : GenerationRuntime :=
  let d := decisionFor config sources ctx flow current g
  let next := refreshGeneration config sources ctx flow current g
  if d.changes g then transition next d.state (d.causeFor g) atTime else next

theorem recomputeRecord_id (config : EngineConfig) (sources : SourceTable) (ctx : FreshnessContext) (flow : FlowId)
    (current : GenerationId) (atTime : Timestamp) (g : GenerationRuntime) :
    (recomputeRecord config sources ctx flow current atTime g).id = g.id := by
  simp only [recomputeRecord]
  split <;> rfl

theorem recomputeRecord_bindings (config : EngineConfig) (sources : SourceTable) (ctx : FreshnessContext)
    (flow : FlowId)
    (current : GenerationId) (atTime : Timestamp) (g : GenerationRuntime) :
    (recomputeRecord config sources ctx flow current atTime g).bindings
      = g.bindings.map (refreshBinding config sources ctx) (refreshBinding_source config sources ctx) := by
  simp only [recomputeRecord]
  split <;> rfl

/-- The body of the loop of `recompute_flow`. -/
def recomputeGeneration (config : EngineConfig) (sources : SourceTable) (ctx : FreshnessContext) (flow : FlowId)
    (current : GenerationId) (atTime : Timestamp) (g : GenerationRuntime) : GenerationStep :=
  let view := generationView config sources ctx flow current g
  let d := decisionFor config sources ctx flow current g
  { generation := recomputeRecord config sources ctx flow current atTime g
    promoted := g.bindings.toList.flatMap (promotedAnomalies config sources ctx flow g.id atTime)
    refused := view.sources.filterMap (capabilityAnomaly atTime)
    event := if d.changes g then some (lifecycleEvent flow g d (d.causeFor g) atTime view.lastObservedAt) else none }

/-! ## The whole flow -/

/-- What recomputing a flow reports besides the flow. -/
structure RecomputeReport where
  events : List LifecycleEvent := []
  anomaliesRecorded : UInt64 := 0
  transitions : UInt64 := 0
  flowsExpired : UInt64 := 0
deriving DecidableEq, Repr, Inhabited

/-- The event as it is kept in the history: its detail is bounded. -/
def boundDetail (limits : Limits) (e : LifecycleEvent) : LifecycleEvent :=
  { e with detail := e.detail.take limits.maxDetailBytes.toNat }

/-- What one generation's step leaves on the flow: anomalies, history and the instant of the change. -/
def FlowRuntime.absorb (limits : Limits) (atTime : Timestamp) (f : FlowRuntime) (step : GenerationStep) : FlowRuntime :=
  let f := (step.promoted ++ step.refused).foldl (fun f a => f.note a limits) f
  match step.event with
  | none => f
  | some e => { f with history := f.history.push (boundDetail limits e), stateChangedAt := atTime }

/-- The roll-ups of a flow over its generations. -/
def FlowRuntime.rollUpGenerations (f : FlowRuntime) : FlowRuntime :=
  let gs := f.generations.toList
  { f with
    coverage := gs.foldl (fun c g => accumulateCoverage c g.coverage) {}
    firstObservedAt := gs.foldl (fun t g =>
      if g.firstObservedAt.known && (!t.known || g.firstObservedAt < t) then g.firstObservedAt else t) {}
    lastObservedAt := gs.foldl (fun t g => if t < g.lastObservedAt then g.lastObservedAt else t) {}
    lastReceivedAt := gs.foldl (fun t g => if t < g.lastReceivedAt then g.lastReceivedAt else t) {}
    lastProgressAt := gs.foldl (fun t g => if t < g.lastProgressAt then g.lastProgressAt else t) {} }

/-- The flow takes the state of its current generation, or of the last one when the current one is gone. -/
def FlowRuntime.mirrorCurrent (f : FlowRuntime) : FlowRuntime :=
  match f.generations.find? f.currentGeneration with
  | some g => { f with state := g.state, cause := g.cause }
  | none => match f.generations.toList.getLast? with
    | some g => { f with currentGeneration := g.id, state := g.state, cause := g.cause }
    | none => f

/-- Some source of the current generation was reconfirmed in this runtime epoch. -/
def FlowRuntime.reconfirmed (f : FlowRuntime) : Bool :=
  ((f.generations.find? f.currentGeneration).map (fun g => g.bindings.toList.any (·.reconfirmed))).getD false

/-- A flow is restored while nothing of its current generation was reconfirmed. -/
def FlowRuntime.markRestored (f : FlowRuntime) : FlowRuntime :=
  { f with restored := !f.reconfirmed && !f.generations.toList.isEmpty }

/-- The steps of a flow's generations. -/
def generationSteps (config : EngineConfig) (sources : SourceTable) (ctx : FreshnessContext) (atTime : Timestamp)
    (f : FlowRuntime) : List GenerationStep :=
  f.generations.toList.map (recomputeGeneration config sources ctx f.id f.currentGeneration atTime)

/-- The generations of a flow, recomputed. -/
def recomputedGenerations (config : EngineConfig) (sources : SourceTable) (ctx : FreshnessContext) (atTime : Timestamp)
    (f : FlowRuntime) : SortedVec GenerationRuntime.id :=
  f.generations.map (recomputeRecord config sources ctx f.id f.currentGeneration atTime)
    (recomputeRecord_id config sources ctx f.id f.currentGeneration atTime)

/-- `recompute_flow`. -/
def recomputeFlow (config : EngineConfig) (sources : SourceTable) (ctx : FreshnessContext) (atTime : Timestamp)
    (f : FlowRuntime) : FlowRuntime :=
  let steps := generationSteps config sources ctx atTime f
  let f := { steps.foldl (fun f s => f.absorb config.limits atTime s) f with
    generations := recomputedGenerations config sources ctx atTime f }
  f.rollUpGenerations.mirrorCurrent.markRestored

/-- What `recompute_flow` adds to the counters and reports to its caller. -/
def recomputeReport (config : EngineConfig) (sources : SourceTable) (ctx : FreshnessContext) (atTime : Timestamp)
    (f : FlowRuntime) : RecomputeReport :=
  let steps := generationSteps config sources ctx atTime f
  let events := steps.filterMap (·.event)
  { events := events
    anomaliesRecorded := UInt64.ofNat (steps.map (·.promoted.length)).sum
    transitions := UInt64.ofNat events.length
    flowsExpired := UInt64.ofNat (events.countP (fun e => e.toState == .Expired && e.fromState != .Expired)) }

/-! ## What recomputing leaves alone -/

section

variable {config : EngineConfig} {sources : SourceTable} {ctx : FreshnessContext} {atTime : Timestamp}

/-- Two flows that differ in what is noted on them at most. -/
def FlowRuntime.Noted (f f' : FlowRuntime) : Prop :=
  ∃ anomalies dropped collisions,
    f' = { f with anomalies := anomalies, anomaliesDropped := dropped, keyCollisions := collisions }

namespace FlowRuntime

theorem Noted.refl (f : FlowRuntime) : f.Noted f := ⟨_, _, _, rfl⟩

theorem Noted.trans {f g h : FlowRuntime} (hfg : f.Noted g) (hgh : g.Noted h) : f.Noted h := by
  obtain ⟨_, _, _, rfl⟩ := hfg
  obtain ⟨_, _, _, rfl⟩ := hgh
  exact ⟨_, _, _, rfl⟩

theorem noted_note (f : FlowRuntime) (a : Anomaly) (limits : Limits) : f.Noted (f.note a limits) := by
  unfold note
  split
  · exact ⟨_, _, _, rfl⟩
  · split <;> exact ⟨_, _, _, rfl⟩

theorem noted_notes (limits : Limits) : ∀ (as : List Anomaly) (f : FlowRuntime),
    f.Noted (as.foldl (fun f a => f.note a limits) f)
  | [], f => .refl f
  | a :: as, f => (noted_note f a limits).trans (noted_notes limits as (f.note a limits))

/-- What a generation's step leaves on the flow: notes, and at most one event of its history. -/
theorem absorb_eq (limits : Limits) (atTime : Timestamp) (f : FlowRuntime) (s : GenerationStep) :
    ∃ f' : FlowRuntime, f.Noted f' ∧ ∃ changed, f.absorb limits atTime s = { f' with
      history := (s.event.map (boundDetail limits)).elim f.history f.history.push, stateChangedAt := changed } := by
  have hn := noted_notes limits (s.promoted ++ s.refused) f
  refine ⟨_, hn, ?_⟩
  obtain ⟨a, d, k, he⟩ := hn
  unfold absorb
  cases s.event with
  | none => exact ⟨_, by rw [he]; rfl⟩
  | some ev => exact ⟨atTime, by rw [he]; rfl⟩

/-- What the steps of a flow leave on it. -/
theorem foldl_absorb_eq (limits : Limits) (atTime : Timestamp) : ∀ (steps : List GenerationStep) (f : FlowRuntime),
    ∃ f' : FlowRuntime, f.Noted f' ∧ ∃ changed, steps.foldl (fun f s => f.absorb limits atTime s) f = { f' with
      history := ((steps.filterMap (·.event)).map (boundDetail limits)).foldl Ring.push f.history
      stateChangedAt := changed }
  | [], f => ⟨f, .refl f, f.stateChangedAt, rfl⟩
  | s :: steps, f => by
    obtain ⟨f1, ⟨a1, d1, k1, rfl⟩, c1, h1⟩ := absorb_eq limits atTime f s
    obtain ⟨f2, ⟨a2, d2, k2, rfl⟩, c2, h2⟩ := foldl_absorb_eq limits atTime steps (f.absorb limits atTime s)
    refine ⟨_, ⟨a2, d2, k2, rfl⟩, c2, ?_⟩
    rw [List.foldl_cons, h2, h1, List.filterMap_cons]
    cases s.event <;> rfl

end FlowRuntime

/-- **What recomputing changes of a flow.** -/
theorem recomputeFlow_eq (f : FlowRuntime) :
    ∃ anomalies dropped collisions changed coverage first last received progress
    current state cause restored, recomputeFlow config sources ctx atTime f = { f with
      anomalies := anomalies, anomaliesDropped := dropped, keyCollisions := collisions, stateChangedAt := changed
      coverage := coverage, firstObservedAt := first, lastObservedAt := last, lastReceivedAt := received
      lastProgressAt := progress, currentGeneration := current, state := state, cause := cause, restored := restored
      history := (((generationSteps config sources ctx atTime f).filterMap (·.event)).map
        (boundDetail config.limits)).foldl Ring.push f.history
      generations := recomputedGenerations config sources ctx atTime f } := by
  obtain ⟨f', ⟨a, d, k, rfl⟩, c, h⟩ :=
    FlowRuntime.foldl_absorb_eq config.limits atTime (generationSteps config sources ctx atTime f) f
  simp only [recomputeFlow, h, FlowRuntime.rollUpGenerations, FlowRuntime.mirrorCurrent]
  split
  · exact ⟨_, _, _, _, _, _, _, _, _, _, _, _, _, rfl⟩
  · split <;> exact ⟨_, _, _, _, _, _, _, _, _, _, _, _, _, rfl⟩

@[simp] theorem recomputeFlow_id (f : FlowRuntime) : (recomputeFlow config sources ctx atTime f).id = f.id := by
  obtain ⟨_, _, _, _, _, _, _, _, _, _, _, _, _, h⟩ := recomputeFlow_eq f
  rw [h]

@[simp] theorem recomputeFlow_canonicalKey (f : FlowRuntime) :
    (recomputeFlow config sources ctx atTime f).canonicalKey = f.canonicalKey := by
  obtain ⟨_, _, _, _, _, _, _, _, _, _, _, _, _, h⟩ := recomputeFlow_eq f
  rw [h]

@[simp] theorem recomputeFlow_generations (f : FlowRuntime) :
    (recomputeFlow config sources ctx atTime f).generations = recomputedGenerations config sources ctx atTime f := by
  obtain ⟨_, _, _, _, _, _, _, _, _, _, _, _, _, h⟩ := recomputeFlow_eq f
  rw [h]

theorem recomputeFlow_history (f : FlowRuntime) : (recomputeFlow config sources ctx atTime f).history
    = (((generationSteps config sources ctx atTime f).filterMap (·.event)).map
        (boundDetail config.limits)).foldl Ring.push f.history := by
  obtain ⟨_, _, _, _, _, _, _, _, _, _, _, _, _, h⟩ := recomputeFlow_eq f
  rw [h]

/-- A generation after the flow is recomputed. -/
theorem find?_recomputed (f : FlowRuntime) (id : GenerationId) :
    (recomputedGenerations config sources ctx atTime f).find? id
      = (f.generations.find? id).map (recomputeRecord config sources ctx f.id f.currentGeneration atTime) :=
  SortedVec.find?_map _ _ _ _

/-- **Recomputing keeps a terminal state and its cause.** -/
theorem recomputeRecord_of_terminal (config : EngineConfig) (sources : SourceTable) (ctx : FreshnessContext)
    (flow : FlowId) (current : GenerationId) (atTime : Timestamp) {g : GenerationRuntime}
      (h : isTerminal g.state = true) :
    (recomputeRecord config sources ctx flow current atTime g).state = g.state ∧
      (recomputeRecord config sources ctx flow current atTime g).cause = g.cause ∧
      (decisionFor config sources ctx flow current g).changes g = false := by
  have hd : decisionFor config sources ctx flow current g =
      finish g.state g.state .None (str "generation is terminal") := by
    rw [decisionFor, decideGenerationState, if_pos h]
  have hc : (decisionFor config sources ctx flow current g).changes g = false := by
    simp [hd, StateDecision.changes, StateDecision.causeFor, finish]
  refine ⟨?_, ?_, hc⟩ <;> simp [recomputeRecord, hc, refreshGeneration, projectView]

end

end FlowObs
