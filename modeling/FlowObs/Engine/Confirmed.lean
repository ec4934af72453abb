import FlowObs.Decision
import FlowObs.Engine.Restart

/-!
# Restored provenance after confirmation

A binding that was restored keeps its mark for good; accepting an observation only confirms it. Confirmed bindings
stay confirmed in a run, and every binding that is made in one is (`confirmedAt_exec`). But the lifecycle decision
looks at the mark whenever no source is usable, so a confirmed generation whose evidence is no longer fresh is again
one that awaits evidence (`confirmed_decides_iff`).
-/

namespace FlowObs

/-- Every source of the generation accepted an observation in this process. -/
def GenerationRuntime.Confirmed (g : GenerationRuntime) : Prop := ∀ b ∈ g.bindings.toList, b.reconfirmed = true

section Generation

variable {config : EngineConfig} {sources : SourceTable} {ctx : FreshnessContext} {limits : Limits}
variable {atTime : Timestamp} {obs : Observation} {f f' : FlowRuntime} {gen : GenerationId} {outcome : IngestOutcome}
variable {flow : FlowId} {current : GenerationId} {g : GenerationRuntime}

theorem confirmed_recomputeRecord (h : g.Confirmed) :
    (recomputeRecord config sources ctx flow current atTime g).Confirmed := by
  intro b hb
  rw [recomputeRecord_bindings, SortedVec.toList_map] at hb
  obtain ⟨b₀, hb₀, rfl⟩ := List.mem_map.1 hb
  exact (refreshBinding_marks config sources ctx b₀).1.trans (h b₀ hb₀)

/-- Outside a replay every binding that takes an observation is confirmed, or as confirmed as it was. -/
theorem confirmed_insertGeneration (h : g.Confirmed) : (insertGeneration limits false flow obs g).Confirmed := by
  intro b hb
  rcases insertGeneration_bindings limits false flow obs g hb with rfl | hb
  · have hobtained : (obtainBinding limits false g obs.key.source ⟨flow, g.id⟩).reconfirmed = true := by
      unfold obtainBinding
      cases hfind : g.bindings.find? obs.key.source with
      | some b₀ => exact h b₀ (SortedVec.find?_mem hfind)
      | none => rfl
    rcases (SourceBinding.take_marks (obtainBinding limits false g obs.key.source ⟨flow, g.id⟩) false obs).2 with
      hsame | ⟨-, hconfirmed⟩
    · exact hsame.trans hobtained
    · rw [hconfirmed, hobtained]
      rfl
  · exact h b hb

theorem FlowApplied.confirmed (h : FlowApplied config sources ctx false atTime obs f f' outcome)
    (hf : ∀ g, f.generations.find? gen = some g → g.Confirmed) : ∀ g, f'.generations.find? gen = some g → g.Confirmed :=
  h.generation hf (fun _ hb => (nomatch hb)) (fun _ hg => hg) (fun _ _ _ _ hg => confirmed_insertGeneration hg)
    (fun _ _ hg => confirmed_recomputeRecord hg)

end Generation

namespace Engine

/-! ## Runs -/

/-- The engine is not replaying, and if it has the generation, all its sources are confirmed. -/
structure ConfirmedAt (e : Engine) (flow : FlowId) (gen : GenerationId) : Prop where
  live : e.replaying = false
  confirmed : e.EachFlow (fun f => f.id = flow → ∀ g, f.generations.find? gen = some g → g.Confirmed)

section Runs

variable {flow : FlowId} {gen : GenerationId}

theorem confirmedAt_applyLocked (e : Engine) (obs : Observation) (h : e.ConfirmedAt flow gen) :
    (e.applyLocked obs).1.ConfirmedAt flow gen where
  live := (sameSettings_applyLocked e obs).replaying_eq.trans h.live
  confirmed := by
    refine eachFlow_applyLocked h.confirmed obs (fun f f' _ _ _ happ hf hflow => ?_) (fun _ g hg => nomatch hg)
    rw [h.live] at happ
    exact happ.confirmed (hf (happ.kept.id.symm.trans hflow))

theorem confirmedAt_recomputeAll (e : Engine) (atTime : Timestamp) (due : FlowRuntime → Bool)
    (h : e.ConfirmedAt flow gen) :
    (e.recomputeAll atTime due).ConfirmedAt flow gen where
  live := h.live
  confirmed := by
    refine eachFlow_recomputeAll h.confirmed due (fun sources ctx f hf hid g hg => ?_)
    rw [recomputeFlow_id] at hid
    rw [recomputeFlow_generations, find?_recomputed] at hg
    obtain ⟨g₀, hg₀, rfl⟩ := Option.map_eq_some_iff.1 hg
    exact confirmed_recomputeRecord (hf hid g₀ hg₀)

theorem confirmedAt_dropped (e : Engine) (s : SourceState) (id : SourceId) (h : e.ConfirmedAt flow gen) :
    (e.dropped s id).ConfirmedAt flow gen where
  live := h.live
  confirmed := by
    intro flow' f hf hid g hg
    rw [find?_dropped] at hf
    obtain ⟨f₀, hf₀, rfl⟩ := Option.map_eq_some_iff.1 hf
    obtain ⟨g₀, hg₀, rfl⟩ := Option.map_eq_some_iff.1
      ((SortedVec.find?_map f₀.generations (dropBinding id) (dropBinding_id id) gen).symm.trans hg)
    exact fun b hb => h.confirmed flow' f₀ hf₀ hid g₀ hg₀ b (SortedVec.mem_erase.1 hb).1

theorem ConfirmedAt.of_same {e e' : Engine} (h : e.ConfirmedAt flow gen) (hlive : e'.replaying = e.replaying)
    (hflows : e'.flows = e.flows) : e'.ConfirmedAt flow gen where
  live := hlive.trans h.live
  confirmed id f hid := h.confirmed id f (by rw [← hflows]; exact hid)

theorem confirmedAt_step (e : Engine) (op : Op) (h : e.ConfirmedAt flow gen) : (e.step op).ConfirmedAt flow gen := by
  refine step_rule (P := (·.ConfirmedAt flow gen)) (fun e obs h (_ : True) => confirmedAt_applyLocked e obs h)
    confirmedAt_recomputeAll (fun e s id _ h => confirmedAt_dropped e s id h) (fun e _ s _ h => ?_)
    (fun e _ s _ (_ : True) h => ?_) (fun e e' hsame h => h.of_same hsame.replaying hsame.flows) h (fun _ _ => trivial)
    (fun _ _ => trivial)
  · exact h.of_same rfl rfl
  · exact h.of_same rfl rfl

/-- **Confirmed sources stay confirmed in a run.** -/
theorem confirmedAt_exec (e : Engine) (ops : List Op) (h : e.ConfirmedAt flow gen) :
    (Run.exec step e ops).ConfirmedAt flow gen :=
  Run.invariant (fun e op => confirmedAt_step e op) ops h

end Runs

/-- **When a confirmed generation is decided on as if it had never been restored.** In every state of every run from
where all its sources are confirmed, and at every instant: exactly when the decision does not come down to evidence
that is not fresh (a terminal state, a conflict, an honoured declaration or a fresh source decide), expiry is
disabled, or no source was restored. -/
theorem confirmed_decides_iff {e : Engine} {flow : FlowId} {gen : GenerationId} (h : e.ConfirmedAt flow gen)
    (ops : List Op)
    (ctx : FreshnessContext) {f : FlowRuntime} {g : GenerationRuntime}
      (hf : (Run.exec step e ops).flows.find? flow = some f)
    (hg : f.generations.find? gen = some g) :
    let e' : Engine := Run.exec step e ops
    let views := g.bindings.toList.filterMap (bindingView e'.config e'.sources ctx)
    let unmarked := reconcileGeneration flow gen (views.map SourceView.unmarked) e'.config.reconciliation
      (gen == f.currentGeneration)
    decisionFor e'.config e'.sources ctx flow f.currentGeneration g
        = decideGenerationState unmarked g.state e'.config.expiry ctx ↔
      isTerminal g.state = true ∨ Conflicted e'.config.reconciliation views ∨ (∃ v ∈ driving views, honoured v ≠ none) ∨
        (∃ v ∈ views, v.advisoryOnly = false ∧ v.freshness = .Fresh) ∨ e'.config.expiry.enabled = false ∨
        anyRestored views = false := by
  intro e' views unmarked
  have hconfirmed : g.Confirmed := (confirmedAt_exec e ops h).confirmed flow f hf (SortedVec.find?_key hf) g hg
  have husable : (∃ v ∈ views, sourceIsUsable v = true) ↔ ∃ v ∈ views, v.advisoryOnly = false ∧
      v.freshness = .Fresh := by
    refine exists_congr fun v => and_congr_right fun hv => ?_
    obtain ⟨b, hb, hview⟩ := List.mem_filterMap.1 hv
    obtain ⟨s, -, rfl⟩ := Option.map_eq_some_iff.1 hview
    have hreconfirmed : (sourceView e'.config b s.descriptor ctx).reconfirmed = true := hconfirmed b hb
    unfold sourceIsUsable isUsableForLiveness
    rw [hreconfirmed]
    simp
  have hdecision : decisionFor e'.config e'.sources ctx flow f.currentGeneration g
      = decideGenerationState (reconcileGeneration flow gen views e'.config.reconciliation (gen == f.currentGeneration))
        g.state e'.config.expiry ctx := by
    have hid : g.id = gen := SortedVec.find?_key hg
    subst hid
    exact decide_congr rfl rfl rfl rfl rfl _ _ _
  rw [hdecision, ← husable]
  exact restored_mark_iff g.state e'.config.expiry ctx

/-! ## Stale after confirmation -/

theorem ConfirmedAt.of_generation? {e : Engine} {flow : FlowId} {gen : GenerationId} (hlive : e.replaying = false)
    (h : ((e.generation? flow gen).all fun g => g.bindings.toList.all (·.reconfirmed)) = true) :
    e.ConfirmedAt flow gen where
  live := hlive
  confirmed := by
    intro id f hf hid g hg b hb
    have hkey : id = flow := (SortedVec.find?_key hf).symm.trans hid
    have hgen : e.generation? flow gen = some g := by
      unfold generation?
      rw [← hkey, hf, Option.bind_some, hg]
    rw [hgen] at h
    exact List.all_eq_true.1 h b hb

/-- The flow restored, and confirmed by its source. -/
def confirmedFlow : Engine :=
  savedFlow.close.openEngine.1.step
    (.ingest ((sampleObservation (sourceIdFromKey (str "a")) .Progress 2 ⟨950⟩).withBytes 10))

/-- A minute later. -/
def minuteLater : FreshnessContext := { now := ⟨60000000000⟩ }

/-- The generation is confirmed, and a minute later it awaits evidence again, where without the mark it would be idle.
-/
theorem confirmedFlow_reverts : savedFlow.close.openEngine.2 = .ok () ∧ confirmedFlow.replaying = false ∧
    ((confirmedFlow.generation? sampleFlow ⟨1⟩).all fun g => g.bindings.toList.all (·.reconfirmed)) = true ∧
    ((confirmedFlow.flows.find? sampleFlow).bind fun f => (f.generations.find? ⟨1⟩).map fun g =>
      ((decisionFor confirmedFlow.config confirmedFlow.sources minuteLater sampleFlow f.currentGeneration g).state,
        (decideGenerationState (reconcileGeneration sampleFlow ⟨1⟩ ((g.bindings.toList.filterMap (bindingView
          confirmedFlow.config confirmedFlow.sources minuteLater)).map SourceView.unmarked)
            confirmedFlow.config.reconciliation
          (⟨1⟩ == f.currentGeneration)) g.state confirmedFlow.config.expiry minuteLater).state))
      = some (.Observed, .Idle) := by
  unfold confirmedFlow
  rw [savedFlow_reopened]
  decide +kernel

theorem confirmedFlow_reachable : confirmedFlow.Reachable :=
  .step (.reopened (.step openFlow_reachable .compact) confirmedFlow_reverts.1) _

theorem confirmedFlow_confirmed : confirmedFlow.ConfirmedAt sampleFlow ⟨1⟩ :=
  .of_generation? confirmedFlow_reverts.2.1 confirmedFlow_reverts.2.2.1

theorem confirmed_decides_iff_later : ∃ f g, confirmedFlow.flows.find? sampleFlow = some f ∧
    f.generations.find? ⟨1⟩ = some g ∧
    let views := g.bindings.toList.filterMap (bindingView confirmedFlow.config confirmedFlow.sources minuteLater)
    (decisionFor confirmedFlow.config confirmedFlow.sources minuteLater sampleFlow f.currentGeneration g
        = decideGenerationState (reconcileGeneration sampleFlow ⟨1⟩ (views.map SourceView.unmarked)
          confirmedFlow.config.reconciliation (⟨1⟩ == f.currentGeneration)) g.state
            confirmedFlow.config.expiry minuteLater ↔
      isTerminal g.state = true ∨ Conflicted confirmedFlow.config.reconciliation views ∨
        (∃ v ∈ driving views, honoured v ≠ none) ∨ (∃ v ∈ views, v.advisoryOnly = false ∧ v.freshness = .Fresh) ∨
        confirmedFlow.config.expiry.enabled = false ∨ anyRestored views = false) := by
  obtain ⟨f, hf, hmap⟩ := Option.bind_eq_some_iff.1 confirmedFlow_reverts.2.2.2
  obtain ⟨g, hg, -⟩ := Option.map_eq_some_iff.1 hmap
  have hdecides := @confirmed_decides_iff confirmedFlow sampleFlow ⟨1⟩ confirmedFlow_confirmed [] minuteLater f g
  rw [Run.exec_nil] at hdecides
  exact ⟨f, g, hf, hg, hdecides hf hg⟩

/-- **A restored flow that its source confirmed awaits evidence again** once that evidence is stale, instead of
becoming idle. -/
theorem confirmed_flow_reverts : ¬ ∀ e : Engine, e.Reachable → ∀ flow gen, e.ConfirmedAt flow gen →
    ∀ (ops : List Op) (ctx : FreshnessContext) (f : FlowRuntime) (g : GenerationRuntime),
      (Run.exec step e ops).flows.find? flow = some f → f.generations.find? gen = some g →
      let e' := Run.exec step e ops
      decisionFor e'.config e'.sources ctx flow f.currentGeneration g
        = decideGenerationState (reconcileGeneration flow gen
          ((g.bindings.toList.filterMap (bindingView e'.config e'.sources
          ctx)).map SourceView.unmarked) e'.config.reconciliation (gen == f.currentGeneration)) g.state
            e'.config.expiry ctx := by
  intro h
  have hsame := h confirmedFlow confirmedFlow_reachable sampleFlow ⟨1⟩ confirmedFlow_confirmed [] minuteLater
  rw [Run.exec_nil] at hsame
  obtain ⟨f, hf, hmap⟩ := Option.bind_eq_some_iff.1 confirmedFlow_reverts.2.2.2
  obtain ⟨g, hg, hstates⟩ := Option.map_eq_some_iff.1 hmap
  obtain ⟨hmarked, hunmarked⟩ := Prod.mk.inj hstates
  have hstate := congrArg StateDecision.state (hsame f g hf hg)
  rw [hmarked, hunmarked] at hstate
  cases hstate

end Engine

end FlowObs
