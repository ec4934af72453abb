import FlowObs.Engine.Settled

/-!
# What a duplicate leaves of its flow

The ledger answers `Duplicate` to what it has and counts it, and the flow is recomputed at the present instant. What
is durable of a flow (`durableFlow`) is what that should leave alone: the account of its generations takes no notice
of the count of duplicates (`accountOf_remarked`), so that only a flow that is not up to date changes
(`durable_redelivered_iff`).
-/

namespace FlowObs

/-! ## The account of a generation -/

/-- What is accounted for a generation. -/
structure Account where
  forward : Consumption
  reverse : Consumption
  aggregate : Consumption
  total : Consumption
  coverage : Coverage
  consistency : Consistency
deriving DecidableEq

def GenerationView.account (v : GenerationView) : Account :=
  ⟨v.forward, v.reverse, v.aggregate, v.total, v.coverage, v.consistency⟩

/-- The account of the sorted views of the sources. -/
def accountOf (policy : ReconciliationPolicy) (sources : List SourceView) : Account :=
  let usable := sources.filter sourceIsUsable
  let primary := sources.find? (fun v => !v.advisoryOnly)
  let shown := usable.head?.or primary
  { forward := (shown.map (·.forwardTotals)).getD {}
    reverse := (shown.map (·.reverseTotals)).getD {}
    aggregate := (shown.map (·.aggregateTotals)).getD {}
    total := match usable with
      | first :: _ => chosenTotal policy first usable
      | [] => (primary.map totalsOf).getD {}
    coverage := (sources.filter (fun v => !v.advisoryOnly)).foldl (fun c v => accumulateCoverage c v.coverage) {}
    consistency := (consistencyOf policy usable).1 }

section Account

variable (mark : Bool → Bool) (count : UInt32 → UInt32)

/-- The account takes no notice of the mark of restored evidence nor of the count of duplicates. -/
theorem accountOf_remarked (policy : ReconciliationPolicy) (sources : List SourceView) :
    accountOf policy (sources.map (SourceView.remarked mark count)) = accountOf policy sources := by
  have hprimary : (sources.map (SourceView.remarked mark count)).find? (fun v => !v.advisoryOnly)
      = (sources.find? (fun v => !v.advisoryOnly)).map (SourceView.remarked mark count) := by
    rw [List.find?_map]
    rfl
  have hcoverage : ((sources.map (SourceView.remarked mark count)).filter (fun v => !v.advisoryOnly)).foldl
        (fun c v => accumulateCoverage c v.coverage) ({} : Coverage)
      = (sources.filter (fun v => !v.advisoryOnly)).foldl (fun c v => accumulateCoverage c v.coverage) {} := by
    rw [List.filter_map, List.foldl_map]
    rfl
  unfold accountOf
  simp only [hprimary, usable_remarked, hcoverage, consistencyOf_remarked]
  generalize sources.filter sourceIsUsable = usable
  generalize sources.find? (fun v => !v.advisoryOnly) = primary
  cases usable with
  | nil => cases primary <;> rfl
  | cons first usable =>
    have htotal : chosenTotal policy (first.remarked mark count)
      ((first :: usable).map (SourceView.remarked mark count))
        = chosenTotal policy first (first :: usable) := by
      unfold chosenTotal
      cases policy.method <;> simp only [List.foldl_map] <;> rfl
    simp only [List.map_cons] at htotal ⊢
    rw [htotal]
    rfl

/-- What is accounted and decided depends on the views up to the counts of duplicates. -/
theorem reconcile_recounted (flow : FlowId) (generation : GenerationId) (policy : ReconciliationPolicy)
    (isCurrent : Bool)
    {views views' : List SourceView} (h : views'.map SourceView.uncounted = views.map SourceView.uncounted) :
    (reconcileGeneration flow generation views' policy isCurrent).account
        = (reconcileGeneration flow generation views policy isCurrent).account ∧
      (listed views').map SourceView.uncounted = (listed views).map SourceView.uncounted ∧
      ∀ previous expiry ctx,
        decideGenerationState (reconcileGeneration flow generation views' policy isCurrent) previous expiry ctx
          = decideGenerationState (reconcileGeneration flow generation views policy isCurrent) previous expiry ctx := by
  have hlisted : (listed views').map SourceView.uncounted = (listed views).map SourceView.uncounted := by
    rw [SourceView.uncounted_eq] at h ⊢
    rw [← listed_remarked, ← listed_remarked, h]
  refine ⟨?_, hlisted, fun previous expiry ctx => ?_⟩
  · show accountOf policy (listed views') = accountOf policy (listed views)
    rw [← accountOf_remarked id (fun _ => 0) policy (listed views'),
      ← accountOf_remarked id (fun _ => 0) policy (listed views)]
    exact congrArg (accountOf policy) hlisted
  · rw [← decide_uncounted previous expiry ctx, h, decide_uncounted]

end Account

/-! ## The notes on a flow -/

section Tally

variable {limits : Limits} {config : EngineConfig} {sources : SourceTable} {ctx : FreshnessContext} {atTime : Timestamp}

/-- The number of anomalies that were noted on a flow: those that are kept and those that were dropped. -/
def FlowRuntime.tally (f : FlowRuntime) : UInt64 := UInt64.ofNat f.anomalies.length + f.anomaliesDropped

theorem tally_note (f : FlowRuntime) (a : Anomaly) : (f.note a limits).tally = f.tally + 1 := by
  unfold FlowRuntime.note
  split
  · exact (UInt64.add_assoc _ _ _).symm
  · rename_i hmax
    have hpos : limits.maxAnomaliesPerFlow.toNat ≠ 0 := fun h0 => hmax (UInt32.toNat_inj.1 h0)
    split
    · rename_i hfull
      have hlength : (f.anomalies.tail ++ [a]).length = f.anomalies.length := by
        rw [List.length_append, List.length_tail, List.length_singleton]
        omega
      unfold FlowRuntime.tally
      rw [hlength]
      exact (UInt64.add_assoc _ _ _).symm
    · unfold FlowRuntime.tally
      rw [List.length_append, List.length_singleton, UInt64.ofNat_add, UInt64.add_assoc,
        UInt64.add_comm (UInt64.ofNat 1), ← UInt64.add_assoc]
      rfl

theorem tally_notes (as : List Anomaly) (f : FlowRuntime) :
    (as.foldl (fun f a => f.note a limits) f).tally = f.tally + UInt64.ofNat as.length := by
  induction as generalizing f with
  | nil => exact (UInt64.add_zero _).symm
  | cons a as ih =>
    rw [List.foldl_cons, ih, tally_note, List.length_cons, Nat.add_comm, UInt64.ofNat_add]
    exact UInt64.add_assoc _ _ _

/-- The anomalies that recomputing a generation notes. -/
def GenerationStep.notes (s : GenerationStep) : Nat := s.promoted.length + s.refused.length

theorem tally_absorb (f : FlowRuntime) (s : GenerationStep) :
    (f.absorb limits atTime s).tally = f.tally + UInt64.ofNat s.notes := by
  have hnotes := @tally_notes limits (s.promoted ++ s.refused) f
  rw [List.length_append] at hnotes
  unfold FlowRuntime.absorb
  cases s.event with
  | none => exact hnotes
  | some event => exact hnotes

theorem tally_recomputeFlow (f : FlowRuntime) : (recomputeFlow config sources ctx atTime f).tally
    = f.tally + UInt64.ofNat ((generationSteps config sources ctx atTime f).map (·.notes)).sum := by
  have habsorbed : ∀ (steps : List GenerationStep) (f : FlowRuntime),
      (steps.foldl (fun f s => f.absorb config.limits atTime s) f).tally =
      f.tally + UInt64.ofNat (steps.map (·.notes)).sum := by
    intro steps
    induction steps with
    | nil => exact fun f => (UInt64.add_zero _).symm
    | cons s steps ih =>
      intro f
      rw [List.foldl_cons, ih, tally_absorb, List.map_cons, List.sum_cons, UInt64.ofNat_add]
      exact UInt64.add_assoc _ _ _
  have hsteps := habsorbed (generationSteps config sources ctx atTime f) f
  simp only [recomputeFlow, FlowRuntime.rollUpGenerations, FlowRuntime.mirrorCurrent]
  split
  · exact hsteps
  · split <;> exact hsteps

end Tally

/-! ## What is durable -/

/-- What is durable of a generation: its state, its account at an instant, and what its ledgers retain. -/
structure DurableGeneration where
  id : GenerationId
  state : FlowState
  cause : StateCause
  coverage : Coverage
  account : Account
  entries : List (SourceId × List Observation)
deriving DecidableEq

/-- What is durable of a flow. -/
structure DurableFlow where
  id : FlowId
  state : FlowState
  cause : StateCause
  coverage : Coverage
  noted : UInt64
  generations : List DurableGeneration
deriving DecidableEq

section Durable

variable (config : EngineConfig) (sources : SourceTable) (ctx : FreshnessContext)

def durableGeneration (flow : FlowId) (current : GenerationId) (g : GenerationRuntime) : DurableGeneration where
  id := g.id
  state := g.state
  cause := g.cause
  coverage := g.coverage
  account := (generationView config sources ctx flow current g).account
  entries := g.bindings.toList.map (fun b => (b.source, b.ledger.entries.toList))

def durableFlow (f : FlowRuntime) : DurableFlow where
  id := f.id
  state := f.state
  cause := f.cause
  coverage := f.coverage
  noted := f.tally
  generations := f.generations.toList.map (durableGeneration config sources ctx f.id f.currentGeneration)

end Durable

/-! ## The duplicate in its generation -/

/-- The ledger has counted one more answer: a duplicate that it suppressed, or a conflict in which it keeps what it
has. -/
def SourceLedger.counted (l : SourceLedger) : InsertKind → SourceLedger
  | .Duplicate => { l with duplicatesSuppressed := l.duplicatesSuppressed + 1 }
  | .ContentConflict => { l with contentConflicts := l.contentConflicts + 1 }
  | .Accepted | .Refused => l

/-- The binding of the source has counted one more answer. -/
def SourceBinding.recounted (kind : InsertKind) (source : SourceId) (b : SourceBinding) : SourceBinding :=
  if b.source = source then { b with ledger := b.ledger.counted kind } else b

theorem SourceBinding.recounted_source (kind : InsertKind) (source : SourceId) (b : SourceBinding) :
    (b.recounted kind source).source = b.source := by
  unfold recounted
  split <;> rfl

/-- The generation once an observation of the source was delivered to it again. -/
def GenerationRuntime.redelivered (kind : InsertKind) (source : SourceId) (atTime : Timestamp) (g : GenerationRuntime) :
    GenerationRuntime :=
  { g with lastTouched := atTime
           bindings := g.bindings.map (SourceBinding.recounted kind source)
             (SourceBinding.recounted_source kind source) }

section Duplicate

variable {config : EngineConfig} {sources : SourceTable} {ctx : FreshnessContext} {atTime : Timestamp}
    {source : SourceId}
variable {flow : FlowId} {current : GenerationId} {g g' : GenerationRuntime} {kind : InsertKind}

/-- The views of the two generations differ in the counts of duplicates at most, and so do their ledgers. -/
structure Recounted (config : EngineConfig) (sources : SourceTable) (ctx : FreshnessContext)
    (g g' : GenerationRuntime) : Prop where
  id : g'.id = g.id
  state : g'.state = g.state
  cause : g'.cause = g.cause
  views : (g'.bindings.toList.filterMap (bindingView config sources ctx)).map SourceView.uncounted
    = (g.bindings.toList.filterMap (bindingView config sources ctx)).map SourceView.uncounted
  promoted : ∀ flow gen atTime, g'.bindings.toList.flatMap (promotedAnomalies config sources ctx flow gen atTime)
    = g.bindings.toList.flatMap (promotedAnomalies config sources ctx flow gen atTime)
  coverage : g'.coverage = g.coverage
  entries : g'.bindings.toList.map (fun b => (b.source, b.ledger.entries.toList))
    = g.bindings.toList.map (fun b => (b.source, b.ledger.entries.toList))

theorem Recounted.refl (g : GenerationRuntime) : Recounted config sources ctx g g :=
  ⟨rfl, rfl, rfl, rfl, fun _ _ _ => rfl, rfl, rfl⟩

theorem bindingView_recounted (b : SourceBinding) :
    (bindingView config sources ctx (b.recounted kind source)).map SourceView.uncounted
      = (bindingView config sources ctx b).map SourceView.uncounted := by
  unfold SourceBinding.recounted
  split
  · unfold bindingView
    cases sources.find? b.source with
    | none => rfl
    | some s =>
      simp only [Option.map_some, Option.some.injEq]
      unfold sourceView SourceBinding.fold SourceLedger.counted
      cases b.cached <;> cases kind <;> rfl
  · rfl

theorem promotedAnomalies_recounted (gen : GenerationId) (b : SourceBinding) :
    promotedAnomalies config sources ctx flow gen atTime (b.recounted kind source)
      = promotedAnomalies config sources ctx flow gen atTime b := by
  have hview := @bindingView_recounted config sources ctx source kind b
  have hbinding : (b.recounted kind source).promotedAnomalyKinds = b.promotedAnomalyKinds := by
    unfold SourceBinding.recounted
    split <;> rfl
  unfold promotedAnomalies
  rw [hbinding, SourceBinding.recounted_source]
  cases hv : bindingView config sources ctx b with
  | none =>
    rw [hv] at hview
    rw [Option.map_eq_none_iff.1 hview]
  | some v =>
    rw [hv, Option.map_some] at hview
    obtain ⟨v', hv', heq⟩ := Option.map_eq_some_iff.1 hview
    have hcounts : v'.uncounted.anomalyCounts = v.uncounted.anomalyCounts := congrArg SourceView.anomalyCounts heq
    have hobserved : v'.uncounted.lastObservedAt = v.uncounted.lastObservedAt := congrArg SourceView.lastObservedAt heq
    replace hcounts : v'.anomalyCounts = v.anomalyCounts := hcounts
    replace hobserved : v'.lastObservedAt = v.lastObservedAt := hobserved
    rw [hv']
    simp only [newKinds, hcounts, hobserved]

theorem recounted_redelivered (kind : InsertKind) (source : SourceId) (atTime : Timestamp) (g : GenerationRuntime) :
    Recounted config sources ctx g (g.redelivered kind source atTime) where
  id := rfl
  state := rfl
  cause := rfl
  coverage := rfl
  views := by
    have hbindings : (g.redelivered kind source atTime).bindings.toList
        = g.bindings.toList.map (SourceBinding.recounted kind source) := rfl
    rw [hbindings, List.filterMap_map, List.map_filterMap, List.map_filterMap]
    congr 1
    funext b
    exact bindingView_recounted b
  promoted := by
    intro flow gen at'
    have hbindings : (g.redelivered kind source atTime).bindings.toList
        = g.bindings.toList.map (SourceBinding.recounted kind source) := rfl
    rw [hbindings, List.flatMap_map]
    congr 1
    funext b
    exact promotedAnomalies_recounted gen b
  entries := by
    have hbindings : (g.redelivered kind source atTime).bindings.toList
        = g.bindings.toList.map (SourceBinding.recounted kind source) := rfl
    rw [hbindings, List.map_map]
    refine List.map_congr_left fun b _ => ?_
    show ((b.recounted kind source).source, (b.recounted kind source).ledger.entries.toList) = _
    unfold SourceBinding.recounted SourceLedger.counted
    split
    · cases kind <;> rfl
    · rfl

/-- A duplicate changes neither what is decided, nor what is noted, nor what is accounted. -/
theorem Recounted.same (h : Recounted config sources ctx g g') (current' : GenerationId) :
    decisionFor config sources ctx flow current' g' = decisionFor config sources ctx flow current g ∧
      (recomputeGeneration config sources ctx flow current' atTime g').notes
        = (recomputeGeneration config sources ctx flow current atTime g).notes ∧
      (generationView config sources ctx flow current' g').account =
        (generationView config sources ctx flow current g).account := by
  have hdecision : ∀ current x, decisionFor config sources ctx flow current x =
    decideGenerationState (reconcileGeneration flow x.id
      (x.bindings.toList.filterMap (bindingView config sources ctx)) config.reconciliation true) x.state
        config.expiry ctx :=
    fun _ _ => decide_congr rfl rfl rfl rfl rfl _ _ _
  obtain ⟨haccount, hlisted, hdecide⟩ := reconcile_recounted flow g.id config.reconciliation true h.views
  refine ⟨?_, ?_, ?_⟩
  · rw [hdecision, hdecision, h.id, h.state, hdecide]
  · have hrefused : ∀ views : List SourceView, (listed views).filterMap (capabilityAnomaly atTime)
        = ((listed views).map SourceView.uncounted).filterMap (capabilityAnomaly atTime) := by
      intro views
      rw [List.filterMap_map]
      rfl
    have hnotes : ∀ current x, (recomputeGeneration config sources ctx flow current atTime x).notes
        = (x.bindings.toList.flatMap (promotedAnomalies config sources ctx flow x.id atTime)).length
          + ((listed (x.bindings.toList.filterMap (bindingView config sources ctx))).filterMap
            (capabilityAnomaly atTime)).length :=
      fun _ _ => rfl
    rw [hnotes, hnotes, hrefused, hlisted, ← hrefused, h.id, h.promoted]
  · have hview : ∀ current x, (generationView config sources ctx flow current x).account =
      (reconcileGeneration flow x.id
        (x.bindings.toList.filterMap (bindingView config sources ctx)) config.reconciliation true).account :=
          fun _ _ => rfl
    rw [hview, hview, h.id, haccount]

/-- **What is durable of a generation stays** when a duplicate is delivered and the flow recomputed, exactly when
nothing is decided and its coverage is that of its account. -/
theorem Recounted.durable_iff (h : Recounted config sources ctx g g') (current' : GenerationId) :
    durableGeneration config sources ctx flow current' (recomputeRecord config sources ctx flow current' atTime g')
        = durableGeneration config sources ctx flow current g ↔
      (decisionFor config sources ctx flow current g).changes g = false ∧
        g.coverage = (generationView config sources ctx flow current g).account.coverage := by
  obtain ⟨hdecision, -, haccount⟩ := @Recounted.same config sources ctx atTime flow current g g' h current'
  have hcause : (decisionFor config sources ctx flow current' g').causeFor g'
      = (decisionFor config sources ctx flow current g).causeFor g := by
    unfold StateDecision.causeFor
    rw [hdecision, h.cause]
  have hcoverage : (recomputeRecord config sources ctx flow current' atTime g').coverage
      = (generationView config sources ctx flow current' g').account.coverage := by
    simp only [recomputeRecord]
    split <;> rfl
  have hrecomputed : (generationView config sources ctx flow current'
    (recomputeRecord config sources ctx flow current' atTime g')).account
      = (generationView config sources ctx flow current' g').account := by
    have hview : ∀ x, (generationView config sources ctx flow current' x).account
        = accountOf config.reconciliation (listed (x.bindings.toList.filterMap (bindingView config sources ctx))) :=
          fun _ => rfl
    rw [hview, hview, views_recomputed]
  have hentries : (recomputeRecord config sources ctx flow current' atTime g').bindings.toList.map
      (fun b => (b.source, b.ledger.entries.toList)) =
      g.bindings.toList.map (fun b => (b.source, b.ledger.entries.toList)) := by
    rw [recomputeRecord_bindings, SortedVec.toList_map, List.map_map, ← h.entries]
    refine List.map_congr_left fun b _ => ?_
    show ((refreshBinding config sources ctx b).source, (refreshBinding config sources ctx b).ledger.entries.toList) = _
    rw [refreshBinding_source, refreshBinding_ledger]
  unfold durableGeneration
  rw [recomputeRecord_id, recomputeRecord_state, recomputeRecord_cause, hcause, hdecision, hcoverage, hrecomputed,
    haccount, hentries, h.id]
  unfold StateDecision.changes
  simp only [DurableGeneration.mk.injEq, true_and, and_true, Bool.or_eq_false_iff, bne_eq_false_iff_eq, and_assoc]
  exact and_congr_right fun _ => and_congr_right fun _ => eq_comm

end Duplicate

/-! ## The duplicate in its flow -/

/-- The flow once an observation of the source was delivered to the generation again. -/
def FlowRuntime.redelivered (kind : InsertKind) (f : FlowRuntime) (gen : GenerationId) (source : SourceId)
    (atTime : Timestamp) :
    FlowRuntime :=
  { f with lastTouched := atTime
           generations := f.generations.map (fun g => if g.id = gen then g.redelivered kind source atTime else g) (by
             intro g
             split <;> rfl) }

/-- The flow is up to date at an instant: its generations have nothing left to decide or to note, and their coverage,
that of the flow and its state are what a recomputation would make of them. -/
structure FlowRuntime.UpToDate (config : EngineConfig) (sources : SourceTable) (ctx : FreshnessContext)
    (atTime : Timestamp)
    (f : FlowRuntime) : Prop where
  decided : ∀ g ∈ f.generations.toList, (decisionFor config sources ctx f.id f.currentGeneration g).changes g = false
  noted : ∀ g ∈ f.generations.toList,
  (recomputeGeneration config sources ctx f.id f.currentGeneration atTime g).notes = 0
  covered : ∀ g ∈ f.generations.toList,
  g.coverage = (generationView config sources ctx f.id f.currentGeneration g).coverage
  rolledUp : f.rollUpGenerations.coverage = f.coverage
  mirrored : f.mirrorCurrent.state = f.state ∧ f.mirrorCurrent.cause = f.cause

section Flow

variable {config : EngineConfig} {sources : SourceTable} {ctx : FreshnessContext} {atTime : Timestamp}
    {source : SourceId}
variable {f f' h : FlowRuntime} {gen : GenerationId} {kind : InsertKind}

/-- The state that a flow shows of its generations depends on their states. -/
theorem mirrorCurrent_state (φ : GenerationRuntime → GenerationRuntime) (hid : ∀ g, (φ g).id = g.id)
    (hgenerations : f'.generations = f.generations.map φ hid) (hcurrent : f'.currentGeneration = f.currentGeneration)
    (hstate : f'.state = f.state) (hsame : ∀ g ∈ f.generations.toList, (φ g).state = g.state) :
    f'.mirrorCurrent.state = f.mirrorCurrent.state := by
  unfold FlowRuntime.mirrorCurrent
  rw [hgenerations, hcurrent, SortedVec.find?_map, SortedVec.toList_map, List.getLast?_map]
  cases hfind : f.generations.find? f.currentGeneration with
  | some g => exact hsame g (SortedVec.find?_mem hfind)
  | none =>
    cases hlast : f.generations.toList.getLast? with
    | some g => exact hsame g (List.mem_of_getLast? hlast)
    | none => exact hstate

/-- And the cause on their causes. -/
theorem mirrorCurrent_cause (φ : GenerationRuntime → GenerationRuntime) (hid : ∀ g, (φ g).id = g.id)
    (hgenerations : f'.generations = f.generations.map φ hid) (hcurrent : f'.currentGeneration = f.currentGeneration)
    (hcause : f'.cause = f.cause) (hsame : ∀ g ∈ f.generations.toList, (φ g).cause = g.cause) :
    f'.mirrorCurrent.cause = f.mirrorCurrent.cause := by
  unfold FlowRuntime.mirrorCurrent
  rw [hgenerations, hcurrent, SortedVec.find?_map, SortedVec.toList_map, List.getLast?_map]
  cases hfind : f.generations.find? f.currentGeneration with
  | some g => exact hsame g (SortedVec.find?_mem hfind)
  | none =>
    cases hlast : f.generations.toList.getLast? with
    | some g => exact hsame g (List.mem_of_getLast? hlast)
    | none => exact hcause

theorem rollUp_congr (φ : GenerationRuntime → GenerationRuntime) (hid : ∀ g, (φ g).id = g.id)
    (hgenerations : f'.generations = f.generations.map φ hid)
      (hsame : ∀ g ∈ f.generations.toList, (φ g).coverage = g.coverage) :
    f'.rollUpGenerations.coverage = f.rollUpGenerations.coverage := by
  have hfold : ∀ (gs : List GenerationRuntime) (c : Coverage), (∀ g ∈ gs, (φ g).coverage = g.coverage) →
      (gs.map φ).foldl (fun c g => accumulateCoverage c g.coverage) c =
      gs.foldl (fun c g => accumulateCoverage c g.coverage) c := by
    intro gs
    induction gs with
    | nil => exact fun _ _ => rfl
    | cons g gs ih =>
      intro c hgs
      rw [List.map_cons, List.foldl_cons, List.foldl_cons, hgs g List.mem_cons_self]
      exact ih _ fun g hg => hgs g (List.mem_cons_of_mem _ hg)
  unfold FlowRuntime.rollUpGenerations
  rw [hgenerations]
  exact hfold _ _ hsame

/-- What recomputing makes of the fields of a flow that are durable. -/
theorem recomputeFlow_shown (f : FlowRuntime) : ∃ f' :
    FlowRuntime, f'.generations = recomputedGenerations config sources ctx atTime f ∧
    f'.currentGeneration = f.currentGeneration ∧ f'.state = f.state ∧ f'.cause = f.cause ∧
    (recomputeFlow config sources ctx atTime f).state = f'.mirrorCurrent.state ∧
    (recomputeFlow config sources ctx atTime f).cause = f'.mirrorCurrent.cause ∧
    (recomputeFlow config sources ctx atTime f).coverage = f'.rollUpGenerations.coverage := by
  obtain ⟨f₁, ⟨a, d, k, rfl⟩, c, h⟩ :=
    FlowRuntime.foldl_absorb_eq config.limits atTime (generationSteps config sources ctx atTime f) f
  refine ⟨{ f with generations := recomputedGenerations config sources ctx atTime f }, rfl, rfl, rfl, rfl, ?_⟩
  simp only [recomputeFlow, h, FlowRuntime.markRestored, FlowRuntime.mirrorCurrent, FlowRuntime.rollUpGenerations]
  split
  · exact ⟨rfl, rfl, rfl⟩
  · split <;> exact ⟨rfl, rfl, rfl⟩

/-- The generation as an observation that is delivered to it again, or to another generation, leaves it. -/
def GenerationRuntime.delivered (kind : InsertKind) (gen : GenerationId) (source : SourceId) (atTime : Timestamp)
    (g : GenerationRuntime) : GenerationRuntime := if g.id = gen then g.redelivered kind source atTime else g

theorem recounted_delivered (g : GenerationRuntime) :
    Recounted config sources ctx g (g.delivered kind gen source atTime) := by
  unfold GenerationRuntime.delivered
  split
  · exact recounted_redelivered kind source atTime g
  · exact .refl g

theorem recomputed_delivered_id (config : EngineConfig) (sources : SourceTable) (ctx : FreshnessContext)
    (atTime : Timestamp)
    (kind : InsertKind) (f : FlowRuntime) (gen : GenerationId) (source : SourceId) (g : GenerationRuntime) :
    (recomputeRecord config sources ctx f.id f.currentGeneration atTime (g.delivered kind gen source atTime)).id =
    g.id := by
  have hrecounted : Recounted config sources ctx g (g.delivered kind gen source atTime) := recounted_delivered g
  exact (recomputeRecord_id ..).trans hrecounted.id

/-- The generations of a flow once an observation was delivered to it again and it was recomputed. -/
theorem recomputed_redelivered (hnoted : f.Noted h) :
    recomputedGenerations config sources ctx atTime (h.redelivered kind gen source atTime) = f.generations.map
      (fun g => recomputeRecord config sources ctx f.id f.currentGeneration atTime (g.delivered kind gen source atTime))
      (recomputed_delivered_id config sources ctx atTime kind f gen source) := by
  obtain ⟨a, d, c, rfl⟩ := hnoted
  refine SortedVec.ext ?_
  have hgenerations : (FlowRuntime.redelivered kind { f with anomalies := a, anomaliesDropped := d, keyCollisions := c }
      gen source atTime).generations.toList = f.generations.toList.map (·.delivered kind gen source atTime) := rfl
  unfold recomputedGenerations
  rw [SortedVec.toList_map, SortedVec.toList_map, hgenerations, List.map_map]
  rfl

/-- The number of anomalies that recomputing a flow notes. -/
def FlowRuntime.toNote (config : EngineConfig) (sources : SourceTable) (ctx : FreshnessContext) (atTime : Timestamp)
    (f : FlowRuntime) : Nat := ((generationSteps config sources ctx atTime f).map (·.notes)).sum

/-- **What is durable of a flow stays** when a duplicate is delivered to it, exactly when the flow is up to date and
nothing was noted on the way. -/
theorem durable_redelivered_iff (hnoted : f.Noted h) (k : Nat) (htally : h.tally = f.tally + UInt64.ofNat k)
    (hfew : k + f.toNote config sources ctx atTime < 2 ^ 64) :
    durableFlow config sources ctx (recomputeFlow config sources ctx atTime (h.redelivered kind gen source atTime))
        = durableFlow config sources ctx f ↔ k = 0 ∧ f.UpToDate config sources ctx atTime := by
  let φ : GenerationRuntime → GenerationRuntime := fun g =>
    recomputeRecord config sources ctx f.id f.currentGeneration atTime (g.delivered kind gen source atTime)
  have hδ : ∀ g, Recounted config sources ctx g (g.delivered kind gen source atTime) := recounted_delivered
  have hφ : ∀ g, (φ g).id = g.id := recomputed_delivered_id config sources ctx atTime kind f gen source
  have hrecomputed : recomputedGenerations config sources ctx atTime (h.redelivered kind gen source atTime)
      = f.generations.map φ hφ := recomputed_redelivered hnoted
  generalize hT : h.redelivered kind gen source atTime = touched at hrecomputed
  have hid : touched.id = f.id ∧ touched.currentGeneration = f.currentGeneration ∧ touched.state = f.state ∧
      touched.cause = f.cause ∧ touched.generations.toList =
      f.generations.toList.map (·.delivered kind gen source atTime) := by
    obtain ⟨a, d, c, rfl⟩ := hnoted
    rw [← hT]
    exact ⟨rfl, rfl, rfl, rfl, rfl⟩
  obtain ⟨hid, hcurrent, hstate, hcause, hgenerations⟩ := hid
  have hcounted : touched.tally = f.tally + UInt64.ofNat k := by
    rw [← htally, ← hT]
    rfl
  have hnotes : (recomputeFlow config sources ctx atTime touched).tally
      = f.tally + UInt64.ofNat (k + f.toNote config sources ctx atTime) := by
    have hsum : ((generationSteps config sources ctx atTime touched).map (·.notes)).sum =
        f.toNote config sources ctx atTime := by
      unfold FlowRuntime.toNote generationSteps
      rw [hgenerations, hid, hcurrent, List.map_map, List.map_map, List.map_map]
      congr 1
      refine List.map_congr_left fun g _ => ?_
      exact ((hδ g).same f.currentGeneration).2.1
    rw [tally_recomputeFlow, hsum, hcounted, UInt64.ofNat_add]
    exact UInt64.add_assoc _ _ _
  obtain ⟨f', hf', hcurrent', hstate', hcause', hshownState, hshownCause, hshownCoverage⟩ :=
    @recomputeFlow_shown config sources ctx atTime touched
  rw [hrecomputed] at hf'
  have hzero : (f.tally + UInt64.ofNat (k + f.toNote config sources ctx atTime) = f.tally) ↔
      k = 0 ∧ f.toNote config sources ctx atTime = 0 := by
    have hnat : (UInt64.ofNat (k + f.toNote config sources ctx atTime)).toNat =
        k + f.toNote config sources ctx atTime := by
      rw [UInt64.toNat_ofNat']
      exact Nat.mod_eq_of_lt hfew
    rw [← Nat.add_eq_zero_iff, UInt64.add_eq_left]
    constructor
    · intro h0
      rw [← hnat, h0]
      rfl
    · intro h0
      rw [h0]
      rfl
  have hlist : (recomputeFlow config sources ctx atTime touched).generations.toList.map
        (durableGeneration config sources ctx f.id (recomputeFlow config sources ctx atTime touched).currentGeneration)
      = f.generations.toList.map (durableGeneration config sources ctx f.id f.currentGeneration) ↔
      ∀ g ∈ f.generations.toList, (decisionFor config sources ctx f.id f.currentGeneration g).changes g = false ∧
        g.coverage = (generationView config sources ctx f.id f.currentGeneration g).coverage := by
    rw [recomputeFlow_generations, hrecomputed, SortedVec.toList_map, List.map_map, List.map_inj_left]
    exact forall₂_congr fun g _ => (hδ g).durable_iff f.currentGeneration
  -- what the flow shows of generations that stay
  have hshown : (∀ g ∈ f.generations.toList,
    (decisionFor config sources ctx f.id f.currentGeneration g).changes g = false ∧
        g.coverage = (generationView config sources ctx f.id f.currentGeneration g).coverage) →
      f'.mirrorCurrent.state = f.mirrorCurrent.state ∧ f'.mirrorCurrent.cause = f.mirrorCurrent.cause ∧
        f'.rollUpGenerations.coverage = f.rollUpGenerations.coverage := by
    intro hkeep
    have hsame : ∀ g ∈ f.generations.toList, (φ g).state = g.state ∧ (φ g).cause = g.cause ∧
        (φ g).coverage = g.coverage := by
      intro g hg
      have hdurable : durableGeneration config sources ctx f.id f.currentGeneration (φ g)
          = durableGeneration config sources ctx f.id f.currentGeneration g :=
        ((hδ g).durable_iff f.currentGeneration).2 (hkeep g hg)
      exact ⟨congrArg DurableGeneration.state hdurable, congrArg DurableGeneration.cause hdurable,
        congrArg DurableGeneration.coverage hdurable⟩
    have hs := mirrorCurrent_state φ hφ hf' (hcurrent'.trans hcurrent) (hstate'.trans hstate) fun g hg => (hsame g hg).1
    have hc := mirrorCurrent_cause φ hφ hf' (hcurrent'.trans hcurrent) (hcause'.trans hcause) fun g hg =>
      (hsame g hg).2.1
    exact ⟨hs, hc, rollUp_congr φ hφ hf' fun g hg => (hsame g hg).2.2⟩
  unfold durableFlow
  rw [recomputeFlow_id, hid, hshownState, hshownCause, hshownCoverage, hnotes]
  simp only [DurableFlow.mk.injEq, true_and]
  rw [hzero, hlist]
  have hsum : f.toNote config sources ctx atTime = 0 ↔ ∀ g ∈ f.generations.toList,
      (recomputeGeneration config sources ctx f.id f.currentGeneration atTime g).notes = 0 := by
    unfold FlowRuntime.toNote generationSteps
    rw [List.map_map, List.sum_eq_zero_iff_forall_eq_nat]
    simp
  constructor
  · rintro ⟨hs, hc, hcov, ⟨hk, hnone⟩, hkeep⟩
    obtain ⟨hs', hc', hcov'⟩ := hshown hkeep
    exact ⟨hk, fun g hg => (hkeep g hg).1, hsum.1 hnone, fun g hg => (hkeep g hg).2, hcov'.symm.trans hcov,
      hs'.symm.trans hs,
      hc'.symm.trans hc⟩
  · rintro ⟨hk, hup⟩
    have hkeep := fun g hg => And.intro (hup.decided g hg) (hup.covered g hg)
    obtain ⟨hs', hc', hcov'⟩ := hshown hkeep
    exact ⟨hs'.trans hup.mirrored.1, hc'.trans hup.mirrored.2, hcov'.trans hup.rolledUp, ⟨hk, hsum.2 hup.noted⟩, hkeep⟩

end Flow

end FlowObs
