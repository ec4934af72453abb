import FlowObs.Engine.Reachable
import FlowObs.Fold
import FlowObs.Persist.Snapshots

/-!
# What a snapshot keeps

A snapshot is written from the folds of the ledgers and restored into prefixes (`restoreLocked_snapshot` puts the
layers together: `decodeState_encodeState`, `replayRecords_snapshot`, `find?_restoreFlow`). The accounting of a source
comes back (`accounts_restored`), and what no layer carries is gone (`traces_restored`): its path, links, queues and
endpoints, its anomaly counts, its distinct incarnations.
-/

namespace FlowObs

/-! ## What is shown of a source -/

/-- The accounting of a source, with its coverage, its declaration and its hop capacities. -/
structure SourceAccounts where
  forward : DirectionalAccounting := {}
  reverse : DirectionalAccounting := {}
  aggregate : DirectionalAccounting := {}
  forwardTotals : Consumption := {}
  reverseTotals : Consumption := {}
  aggregateTotals : Consumption := {}
  coverage : Coverage := {}
  declaredTerminal : Option FlowState := none
  hopCapacityUnits : List UInt64 := []
deriving DecidableEq, Repr, Inhabited

/-- The correlations and the counts of a source. -/
structure SourceTraces where
  path : Option PathId := none
  links : List LinkId := []
  queues : List QueueId := []
  endpointA : EndpointId := default
  endpointB : EndpointId := default
  distinctIncarnations : UInt32 := 0
  anomalyCounts : List UInt32 := List.replicate kAnomalyKindCount 0
deriving DecidableEq, Repr, Inhabited

def SourceView.accounts (v : SourceView) : SourceAccounts :=
  ⟨v.forward, v.reverse, v.aggregate, v.forwardTotals, v.reverseTotals, v.aggregateTotals, v.coverage,
    v.declaredTerminal,
    v.hopCapacityUnits⟩

def SourceView.traces (v : SourceView) : SourceTraces :=
  ⟨v.path, v.links, v.queues, v.endpointA, v.endpointB, v.distinctIncarnations, v.anomalyCounts⟩

/-- The accounts of a fold. -/
def FoldState.accounts (s : FoldState) : SourceAccounts :=
  ⟨s.forward, s.reverse, s.aggregate, toConsumption s.forward, toConsumption s.reverse, toConsumption s.aggregate,
    s.coverage, s.declaredTerminal.filter isTerminal, s.hopCapacityUnits⟩

/-- The traces that are left of a fold in a snapshot. -/
def FoldState.carriedTraces (s : FoldState) : SourceTraces where
  distinctIncarnations := if s.historicalIncarnations = 0 then 0 else s.historicalIncarnations + 1

namespace SourceBinding

/-- The accounts that the engine shows of a binding: they depend neither on the descriptor nor on the instant. -/
def accounts (config : EngineConfig) (b : SourceBinding) : SourceAccounts := (b.fold {} {} config).accounts

/-- The traces that the engine shows of a binding. -/
def traces (config : EngineConfig) (b : SourceBinding) : SourceTraces := (b.fold {} {} config).traces

end SourceBinding

section Shown

variable (config : EngineConfig) (b : SourceBinding) (d : SourceDescriptor) (ctx : FreshnessContext)

theorem accounts_sourceView : (sourceView config b d ctx).accounts = b.accounts config := by
  unfold SourceBinding.accounts sourceView SourceBinding.fold
  cases b.cached <;> rfl

theorem traces_sourceView : (sourceView config b d ctx).traces = b.traces config := by
  unfold SourceBinding.traces sourceView SourceBinding.fold
  cases b.cached <;> rfl

/-- Refreshing a binding shows of it what was shown before. -/
theorem refreshBinding_shown (sources : SourceTable) :
    (refreshBinding config sources ctx b).accounts config = b.accounts config ∧
    (refreshBinding config sources ctx b).traces config = b.traces config := by
  unfold refreshBinding
  split
  · exact ⟨rfl, rfl⟩
  · rename_i s _
    unfold SourceBinding.accounts SourceBinding.traces SourceBinding.fold
    cases b.cached <;> exact ⟨rfl, rfl⟩

end Shown

/-! ## One source -/

section Restored

variable (e : Engine) (b : SourceBinding) (limits : Limits) (generation : FlowGeneration) (config : EngineConfig)

/-- **The accounts come back.** -/
theorem accounts_restored :
    (restoreSource limits generation (e.persistSource b)).accounts config = b.ledger.foldedState.accounts := rfl

/-- **The traces do not.** -/
theorem traces_restored :
    (restoreSource limits generation (e.persistSource b)).traces config = b.ledger.foldedState.carriedTraces := rfl

end Restored

/-- A binding that shows nothing but what a snapshot carries of it. -/
structure SourceBinding.Carried (config : EngineConfig) (b : SourceBinding) : Prop where
  accounts : b.accounts config = b.ledger.foldedState.accounts
  traces : b.traces config = b.ledger.foldedState.carriedTraces

/-- The generations of a flow that settling it can move: a terminal one stays. -/
def FlowRuntime.unsettled (f : FlowRuntime) : Nat := f.generations.toList.countP (fun g => !isTerminal g.state)

/-! ## The layers -/

namespace Engine

section Restore

variable (e : Engine) (previous : RuntimeEpoch)

/-- Flows that are not there yet are put into the table. -/
theorem restoreFlows_flows {ps : List PersistedFlow} {e : Engine} (hdistinct : ps.Pairwise (fun p q => p.id ≠ q.id))
    (hnew : ∀ p ∈ ps, e.flows.find? p.id = none) (h : (e.restoreFlows previous ps).2 = .ok ()) :
    (e.restoreFlows previous ps).1.flows
        = ps.foldl (fun v p => v.set (restoreFlow e.config.limits previous p)) e.flows ∧
      (e.restoreFlows previous ps).1.config = e.config := by
  induction ps generalizing e with
  | nil => exact ⟨rfl, rfl⟩
  | cons p ps ih =>
    obtain ⟨hp, hdistinct⟩ := List.pairwise_cons.1 hdistinct
    have hid : (restoreFlow e.config.limits previous p).id = p.id := rfl
    simp only [restoreFlows, hid, hnew p List.mem_cons_self, Option.isSome_none, Bool.false_eq_true, if_false] at h ⊢
    split at h
    · cases h
    · rename_i hcurrent
      rw [if_neg hcurrent]
      refine ih hdistinct (fun q hq => ?_) h
      show (e.flows.set (restoreFlow e.config.limits previous p)).find? q.id = none
      rw [SortedVec.find?_set_of_ne e.flows (hp q hq)]
      exact hnew q (List.mem_cons_of_mem _ hq)

/-- A restored generation holds the restored bindings. -/
theorem find?_restoreGeneration {limits : Limits} (flow : FlowId) (f : FlowRuntime) (g : GenerationRuntime)
    (hb : g.bindings.toList.length ≤ limits.maxSourcesPerFlow.toNat) (source : SourceId) :
    (restoreGeneration limits flow (e.persistGeneration f g)).bindings.find? source
      = (g.bindings.find? source).map (fun b => restoreSource limits ⟨flow, g.id⟩ (e.persistSource b)) := by
  have hall : restoredSources limits (e.persistGeneration f g) = g.bindings.toList.map e.persistSource :=
    List.take_of_length_le (by rw [persistGeneration, List.length_map]; exact hb)
  rw [restoreGeneration, hall, List.foldl_map]
  exact SortedVec.find?_rebuild g.bindings (fun b => restoreSource limits ⟨flow, g.id⟩ (e.persistSource b))
    (fun _ => rfl) source

/-- A restored flow holds the restored generations. -/
theorem find?_restoreFlow {limits : Limits} (f : FlowRuntime)
    (hg : f.generations.toList.length ≤ limits.maxGenerationsPerFlow.toNat) (gen : GenerationId) :
    (restoreFlow limits previous (e.persistFlow f)).generations.find? gen
      = (f.generations.find? gen).map (fun g => restoreGeneration limits f.id (e.persistGeneration f g)) := by
  have hall : restoredGenerations limits (e.persistFlow f) = f.generations.toList.map (e.persistGeneration f) :=
    List.take_of_length_le (by rw [persistFlow, List.length_map]; exact hg)
  rw [restoreFlow, hall, List.foldl_map]
  exact SortedVec.find?_rebuild f.generations (fun g => restoreGeneration limits f.id (e.persistGeneration f g))
    (fun _ => rfl) gen

/-- A restored flow holds the restored bindings. -/
theorem binding?_restoreFlow_persist {limits : Limits} {f : FlowRuntime} (hf : f.Bounded limits)
    (hg : f.generations.toList.length ≤ limits.maxGenerationsPerFlow.toNat) (gen : GenerationId) (source : SourceId) :
    (restoreFlow limits previous (e.persistFlow f)).binding? gen source
      = (f.binding? gen source).map (fun b => restoreSource limits ⟨f.id, gen⟩ (e.persistSource b)) := by
  unfold FlowRuntime.binding?
  rw [find?_restoreFlow e previous f hg gen]
  cases hfind : f.generations.find? gen with
  | none => rfl
  | some g =>
    have hid : g.id = gen := SortedVec.find?_key hfind
    rw [Option.map_some, Option.bind_some, Option.bind_some, find?_restoreGeneration e f.id f g (hf gen g hfind), hid]

/-- What the tables of an engine hold after a snapshot of `e` was restored into it. -/
structure Restored (e e' : Engine) (previous : RuntimeEpoch) : Prop where
  limits : e'.config.limits = e.config.limits
  flows : ∃ (sources : SourceTable) (ctx : FreshnessContext) (atTime : Timestamp), ∀ flow, e'.flows.find? flow
    = (e.flows.find? flow).map (fun f =>
        recomputeFlow e'.config sources ctx atTime (restoreFlow e.config.limits previous (e.persistFlow f)))

/-- **Restoring a snapshot** into an engine without flows gives each flow as it was persisted, recomputed. -/
theorem restoreLocked_snapshot {e fresh : Engine} {records : List Record} {previous : RuntimeEpoch}
    (hw : encodeState e.persistState e.config.limits = .ok records) (hl : fresh.config.limits = e.config.limits)
    (hd : e.persistState.Decodable e.config.limits fresh.config.recovery)
    (hf : fresh.flows = ∅) (hr : (fresh.restoreLocked records previous).2 = .ok ()) :
    e.Restored (fresh.restoreLocked records previous).1 previous := by
  rw [restoreLocked, hl, replayRecords_snapshot hw hd] at hr ⊢
  dsimp only at hr ⊢
  split at hr
  · cases hr
  rename_i hdigest
  rw [if_neg hdigest]
  have hdistinct : e.persistState.flows.Pairwise (fun p q => p.id ≠ q.id) :=
    List.pairwise_map.2 (e.flows.sorted.imp (fun h => ne_of_lt h))
  generalize hready : restoreSources _ e.persistState.sources = ready at hr ⊢
  have hrflows : ready.flows = ∅ := by
    rw [← hready]
    exact hf
  have hrlimits : ready.config.limits = e.config.limits := by
    rw [← hready]
    exact hl
  have hempty : ∀ p ∈ e.persistState.flows, ready.flows.find? p.id = none := by
    intro p _
    rw [hrflows]
    rfl
  generalize hres : ready.restoreFlows previous e.persistState.flows = res at hr ⊢
  obtain ⟨e₁, status⟩ := res
  cases status with
  | error err => cases hr
  | ok _ =>
    obtain ⟨hflows, hconfig⟩ := restoreFlows_flows previous hdistinct hempty (congrArg Prod.snd hres)
    rw [hres, hrlimits, hrflows, persistState, List.foldl_map] at hflows
    rw [hres] at hconfig
    refine ⟨(congrArg EngineConfig.limits hconfig).trans hrlimits, e₁.sources, (e₁.replayAll previous []).context,
      (e₁.replayAll previous []).now, fun flow => ?_⟩
    have hlookup : (e₁.replayAll previous []).flows.find? flow = (e.flows.find? flow).map
        (fun f => restoreFlow e.config.limits previous (e.persistFlow f)) := by
      show e₁.flows.find? flow = _
      rw [show e₁.flows = _ from hflows]
      exact SortedVec.find?_rebuild e.flows (fun f => restoreFlow e.config.limits previous (e.persistFlow f))
        (fun _ => rfl) flow
    rw [find?_recomputeAll, hlookup, Option.map_map]
    rfl

/-- Whether a snapshot is restored is told from the state it was written from. -/
theorem restoreLocked_of_state {e fresh : Engine} {records : List Record} {previous : RuntimeEpoch}
    (hw : encodeState e.persistState e.config.limits = .ok records)
    (hd : e.persistState.Decodable e.config.limits e.config.recovery) (hc : fresh.config = e.config)
    (h : ((({ fresh with snapshotSequence := e.persistState.snapshotSequence } : Engine).restoreSources
      e.persistState.sources).restoreFlows previous e.persistState.flows).2 = .ok ()) :
    (fresh.restoreLocked records previous).2 = .ok () := by
  have hdigest : (true && e.persistState.policyDigest != fresh.config.policyDigest) = false := by
    rw [hc]
    simp [persistState]
  rw [restoreLocked, hc, replayRecords_snapshot hw hd]
  simp only [← hc, hdigest, Bool.false_eq_true, if_false]
  generalize restoreFlows _ previous e.persistState.flows = res at h ⊢
  obtain ⟨e₁, status⟩ := res
  cases h
  rfl

end Restore

/-! ## The view -/

/-- What the engine shows of a source in a generation of a flow. -/
def shown (e : Engine) (flow : FlowId) (gen : GenerationId) (source : SourceId) :
    Option (SourceAccounts × SourceTraces) :=
  (e.binding? flow gen source).map (fun b =>
    let d := ((e.sources.find? source).map (·.descriptor)).getD {}
    ((sourceView e.config b d e.context).accounts, (sourceView e.config b d e.context).traces))

/-- How many lifecycle events a flow has dropped. -/
def droppedHistory (e : Engine) (flow : FlowId) : Option UInt64 := (e.flows.find? flow).map (·.history.dropped)

/-- Two engines show the same flows, generations and sources, the same accounts and traces of every source, and the same
number of dropped events of every flow. -/
structure SameView (e e' : Engine) : Prop where
  generations : ∀ flow gen, (e'.generation? flow gen).isSome = (e.generation? flow gen).isSome
  shown : ∀ flow gen source, e'.shown flow gen source = e.shown flow gen source
  dropped : ∀ flow, e'.droppedHistory flow = e.droppedHistory flow

/-- A snapshot carries all that the engine shows: of every source nothing but what is carried, and every flow has
dropped no event and has room for the events of settling it. -/
structure Carried (e : Engine) : Prop where
  sources : e.Holds (fun _ _ b => b.Carried e.config)
  history : ∀ flow f, e.flows.find? flow = some f → f.history.dropped = 0 ∧
    f.history.size + f.unsettled ≤ e.config.limits.maxHistoryPerFlow.toNat

section View

variable {e e' : Engine} {previous : RuntimeEpoch} {recovery : RecoveryPolicy}

theorem shown_eq (e : Engine) (flow : FlowId) (gen : GenerationId) (source : SourceId) : e.shown flow gen source
    = (e.binding? flow gen source).map (fun b => (b.accounts e.config, b.traces e.config)) := by
  unfold shown
  cases e.binding? flow gen source with
  | none => rfl
  | some b => simp only [Option.map_some, accounts_sourceView, traces_sourceView]

/-- The bound on generations that the reader checks. -/
theorem generations_le (hd : e.persistState.Decodable e.config.limits recovery) {flow : FlowId} {f : FlowRuntime}
    (hf : e.flows.find? flow = some f) : f.generations.toList.length ≤ e.config.limits.maxGenerationsPerFlow.toNat := by
  have hmem : e.persistFlow f ∈ e.persistState.flows := List.mem_map_of_mem (SortedVec.find?_mem hf)
  have hlen := (hd.flows _ hmem).generations
  rwa [persistFlow, List.length_map] at hlen

/-- What a restored binding shows, under any configuration. -/
theorem shown_restored (config : EngineConfig) (sources : SourceTable) (ctx : FreshnessContext)
    (generation : FlowGeneration)
    (limits : Limits) (b : SourceBinding) (e : Engine) :
    (refreshBinding config sources ctx (restoreSource limits generation (e.persistSource b))).accounts config
        = b.ledger.foldedState.accounts ∧
      (refreshBinding config sources ctx (restoreSource limits generation (e.persistSource b))).traces config
        = b.ledger.foldedState.carriedTraces := by
  obtain ⟨haccounts, htraces⟩ :=
    refreshBinding_shown config (restoreSource limits generation (e.persistSource b)) ctx sources
  exact ⟨haccounts.trans (accounts_restored _ _ _ _ _), htraces.trans (traces_restored _ _ _ _ _)⟩

/-- **What is shown after a restore**: of every source what a snapshot carries of the fold of its ledger. -/
theorem Restored.shown_eq (hr : e.Restored e' previous) (h : e.Reachable)
    (hd : e.persistState.Decodable e.config.limits recovery) (flow : FlowId) (gen : GenerationId)
    (source : SourceId) : e'.shown flow gen source = (e.binding? flow gen source).map (fun b =>
      (b.ledger.foldedState.accounts, b.ledger.foldedState.carriedTraces)) := by
  obtain ⟨sources, ctx, atTime, hflows⟩ := hr.flows
  rw [Engine.shown_eq, binding?, hflows]
  cases hf : e.flows.find? flow with
  | none => simp [binding?, hf]
  | some f =>
    rw [Option.map_some, Option.bind_some, binding?_recomputeFlow,
      binding?_restoreFlow_persist e previous (h.bounded flow f hf) (generations_le hd hf), binding?, hf,
      Option.bind_some]
    cases f.binding? gen source with
    | none => rfl
    | some b =>
      obtain ⟨haccounts, htraces⟩ := shown_restored e'.config sources ctx ⟨f.id, gen⟩ e.config.limits b e
      simp only [Option.map_some, haccounts, htraces]

theorem Restored.generations (hr : e.Restored e' previous) (hd : e.persistState.Decodable e.config.limits recovery)
    (flow : FlowId) (gen : GenerationId) : (e'.generation? flow gen).isSome = (e.generation? flow gen).isSome := by
  obtain ⟨sources, ctx, atTime, hflows⟩ := hr.flows
  rw [generation?, generation?, hflows]
  cases hf : e.flows.find? flow with
  | none => rfl
  | some f =>
    rw [Option.map_some, Option.bind_some, Option.bind_some, recomputeFlow_generations, find?_recomputed,
      find?_restoreFlow e previous f (generations_le hd hf)]
    cases f.generations.find? gen <;> rfl

/-- Settling a flow records an event of the generations that can move at most. -/
theorem length_events_le (config : EngineConfig) (sources : SourceTable) (ctx : FreshnessContext) (atTime : Timestamp)
    (f : FlowRuntime) : ((generationSteps config sources ctx atTime f).filterMap (·.event)).length ≤ f.unsettled := by
  rw [generationSteps, List.filterMap_map, List.length_filterMap_eq_countP]
  refine List.countP_mono_left fun g _ hg => ?_
  by_contra hterminal
  rw [Bool.not_eq_true, Bool.not_eq_false'] at hterminal
  have hstays := (recomputeRecord_of_terminal config sources ctx f.id f.currentGeneration atTime hterminal).2.2
  simp [recomputeGeneration, hstays] at hg

/-- A restored flow has the states of the one that was written. -/
theorem unsettled_restoreFlow (e : Engine) (previous : RuntimeEpoch) {limits : Limits} (f : FlowRuntime) :
    (restoreFlow limits previous (e.persistFlow f)).unsettled ≤ f.unsettled := by
  have hsorted : ((e.persistFlow f).generations.map PersistedGeneration.generation).Pairwise (· < ·) := by
    rw [persistFlow, List.map_map]
    exact List.pairwise_map.2 f.generations.sorted
  have hwritten : (e.persistFlow f).generations = f.generations.toList.map (e.persistGeneration f) := rfl
  rw [FlowRuntime.unsettled, toList_restoreFlow previous hsorted, restoredGenerations, hwritten, List.countP_map,
    ← List.map_take, List.countP_map]
  exact (List.take_sublist _ _).countP_le

/-- A history with room for the events of settling the flow drops none. -/
theorem Restored.droppedHistory (hr : e.Restored e' previous) {flow : FlowId} {f : FlowRuntime}
    (hf : e.flows.find? flow = some f)
      (hroom : f.history.size + f.unsettled ≤ e.config.limits.maxHistoryPerFlow.toNat) :
    e'.droppedHistory flow = some 0 := by
  obtain ⟨sources, ctx, atTime, hflows⟩ := hr.flows
  obtain ⟨hsize, hcapacity, hdropped⟩ :=
    Ring.setCapacity_empty (α := LifecycleEvent) e.config.limits.maxHistoryPerFlow.toNat
  have hlen : f.history.toVector.length = f.history.size := Ring.length_toVector _
  have hpush := Ring.foldl_push_of_room (l := f.history.toVector)
    (r := ({} : LifecycleHistory).setCapacity e.config.limits.maxHistoryPerFlow.toNat) (by omega)
  rw [hsize, hcapacity, hdropped, hlen] at hpush
  let events := ((generationSteps e'.config sources ctx atTime
    (restoreFlow e.config.limits previous (e.persistFlow f))).filterMap (·.event)).map (boundDetail e'.config.limits)
  have hevents : events.length ≤ f.unsettled := by
    rw [List.length_map]
    exact (length_events_le _ _ _ _ _).trans (unsettled_restoreFlow e previous f)
  have hsettle := Ring.foldl_push_of_room (l := events)
    (r := (restoreFlow e.config.limits previous (e.persistFlow f)).history) (by
      show (f.history.toVector.foldl Ring.push _).size + events.length ≤ (f.history.toVector.foldl Ring.push _).capacity
      rw [hpush.1, hpush.2.1]
      omega)
  rw [Engine.droppedHistory, hflows, hf, Option.map_some, Option.map_some, recomputeFlow_history, hsettle.2.2]
  exact congrArg some hpush.2.2

/-- **A snapshot preserves the view of an engine whose sources show nothing but what it carries**, and only then their
views. The snapshot is within the bounds of its reader, and is restored into an engine with the same limits and without
flows. -/
theorem snapshot_view_iff {fresh : Engine} {records : List Record} (h : e.Reachable)
    (hw : encodeState e.persistState e.config.limits = .ok records) (hl : fresh.config.limits = e.config.limits)
    (hd : e.persistState.Decodable e.config.limits fresh.config.recovery) (hf : fresh.flows = ∅)
      (hr : (fresh.restoreLocked records previous).2 = .ok ()) :
    (e.SameView (fresh.restoreLocked records previous).1 → e.Holds (fun _ _ b => b.Carried e.config)) ∧
      (e.Carried → e.SameView (fresh.restoreLocked records previous).1) := by
  have hrestored := restoreLocked_snapshot hw hl hd hf hr
  generalize (fresh.restoreLocked records previous).1 = e' at hrestored ⊢
  constructor
  · intro hsame flow gen source b hb
    have hshown := hsame.shown flow gen source
    rw [hrestored.shown_eq h hd, Engine.shown_eq, hb, Option.map_some, Option.map_some, Option.some.injEq,
      Prod.mk.injEq] at hshown
    exact ⟨hshown.1.symm, hshown.2.symm⟩
  · intro hcarried
    refine ⟨hrestored.generations hd, fun flow gen source => ?_, fun flow => ?_⟩
    · rw [hrestored.shown_eq h hd, Engine.shown_eq]
      cases hb : e.binding? flow gen source with
      | none => rfl
      | some b =>
        have hb := hcarried.sources flow gen source b hb
        rw [Option.map_some, Option.map_some, hb.accounts, hb.traces]
    · cases hfind : e.flows.find? flow with
      | none =>
        obtain ⟨_, _, _, hflows⟩ := hrestored.flows
        rw [Engine.droppedHistory, Engine.droppedHistory, hflows, hfind]
        rfl
      | some f =>
        obtain ⟨hnone, hroom⟩ := hcarried.history flow f hfind
        rw [hrestored.droppedHistory hfind hroom, Engine.droppedHistory, hfind, Option.map_some, hnone]

end View

/-! ## A flow with a path -/

/-- An observation with a path and a byte counter. -/
def routedObservation : Observation :=
  let obs := (sampleObservation (sourceIdFromKey (str "a")) .Progress 1 ⟨1000⟩).withBytes 5
  { obs with subject := { obs.subject with path := some ⟨7⟩ } }

/-- An engine that accepted it. -/
def routedFlow : Engine := ({ clock := ⟨1000⟩ } : Engine).openEngine.1.step (.ingest routedObservation)

/-- The snapshot of that engine. -/
def routedSnapshot : List Record := (encodeState routedFlow.persistState routedFlow.config.limits).toOption.getD []

/-- Another engine of the same configuration. -/
def freshEngine : Engine := ({ clock := ⟨2000⟩ } : Engine).openEngine.1

theorem routedFlow_reachable : routedFlow.Reachable := by
  have hopen : ({ config := {}, clock := ⟨1000⟩ } : Engine).openEngine.2 = .ok () := 
    opens_new_iff.2 (EngineConfig.validate_default _)
  exact .step (.opened {} ⟨1000⟩ hopen) (.ingest routedObservation)

theorem routedSnapshot_written : encodeState routedFlow.persistState routedFlow.config.limits = .ok routedSnapshot :=
  eq_ok_getD (by decide +kernel) []

theorem routedSnapshot_decodable :
    routedFlow.persistState.Decodable routedFlow.config.limits
      routedFlow.config.recovery := by with_unfolding_all decide

theorem freshEngine_config : freshEngine.config = routedFlow.config := by with_unfolding_all decide

theorem routedSnapshot_restores : (freshEngine.restoreLocked routedSnapshot ⟨1⟩).2 = .ok () :=
  restoreLocked_of_state routedSnapshot_written routedSnapshot_decodable freshEngine_config
    (by with_unfolding_all decide)

/-- What is true of the snapshot of a flow with a path. -/
theorem snapshot_view_iff_routed :
    (routedFlow.SameView (freshEngine.restoreLocked routedSnapshot ⟨1⟩).1 →
        routedFlow.Holds (fun _ _ b => b.Carried routedFlow.config)) ∧
      (routedFlow.Carried → routedFlow.SameView (freshEngine.restoreLocked routedSnapshot ⟨1⟩).1) :=
  snapshot_view_iff routedFlow_reachable routedSnapshot_written (by rw [freshEngine_config])
    (by rw [freshEngine_config]; exact routedSnapshot_decodable) (by decide) routedSnapshot_restores

/-- **A snapshot loses the path of a source.** -/
theorem snapshot_view_fails : ¬ ∀ (e fresh : Engine) (records : List Record) (previous : RuntimeEpoch), e.Reachable →
    encodeState e.persistState e.config.limits = .ok records → fresh.config = e.config → fresh.flows = ∅ →
    (fresh.restoreLocked records previous).2 = .ok () → e.SameView (fresh.restoreLocked records previous).1 := by
  intro h
  have hsame := h routedFlow freshEngine routedSnapshot
    ⟨1⟩ routedFlow_reachable routedSnapshot_written freshEngine_config
    (by decide) routedSnapshot_restores
  have hrestored := restoreLocked_snapshot routedSnapshot_written (by rw [freshEngine_config])
    (by rw [freshEngine_config]; exact routedSnapshot_decodable) (by decide) routedSnapshot_restores
  have hshown := hsame.shown sampleFlow ⟨1⟩ (sourceIdFromKey (str "a"))
  rw [hrestored.shown_eq routedFlow_reachable routedSnapshot_decodable, shown_eq] at hshown
  have hpath : (routedFlow.binding? sampleFlow ⟨1⟩ (sourceIdFromKey (str "a"))).map (fun b => (b.traces {}).path)
      = some (some ⟨7⟩) := by with_unfolding_all decide
  obtain ⟨b, hb, hpath⟩ := Option.map_eq_some_iff.1 hpath
  rw [hb, Option.map_some, Option.map_some, Option.some.injEq, Prod.mk.injEq] at hshown
  have hnone := congrArg SourceTraces.path hshown.2
  have hconfig : routedFlow.config = {} := by with_unfolding_all decide
  rw [hconfig, hpath] at hnone
  cases hnone

end Engine

end FlowObs
