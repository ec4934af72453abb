import FlowObs.Decision
import FlowObs.Engine.Frozen
import FlowObs.Engine.Restart

/-!
# Deciding again

A recomputation leaves nothing to decide at its instant: the views of a generation are what they were, its state is
what was decided, and the decision settles (`changes_recomputed`). So a second tick at one instant transitions nothing
and adds nothing to any history (`tick_settles`).
-/

namespace FlowObs

section Generation

variable {config : EngineConfig} {sources : SourceTable} {ctx : FreshnessContext} {atTime : Timestamp}
variable {flow : FlowId} {current : GenerationId} {g : GenerationRuntime} {f : FlowRuntime}

/-- A generation that was recomputed is decided on as before, from its new state. -/
theorem decisionFor_recomputed (current' : GenerationId) :
    decisionFor config sources ctx flow current' (recomputeRecord config sources ctx flow current atTime g)
      = decideGenerationState (generationView config sources ctx flow current g)
          (decisionFor config sources ctx flow current g).state config.expiry ctx := by
  unfold decisionFor
  rw [recomputeRecord_state]
  unfold generationView evidenceView
  rw [views_recomputed, recomputeRecord_id]
  exact decide_congr rfl rfl rfl rfl rfl _ _ _

theorem recomputeRecord_cause : (recomputeRecord config sources ctx flow current atTime g).cause
    = (decisionFor config sources ctx flow current g).causeFor g := by
  simp only [recomputeRecord]
  split
  · rfl
  · rename_i hchanges
    have hcause : ¬ (decisionFor config sources ctx flow current g).causeFor g ≠ g.cause := fun hne => hchanges (by
      simp [StateDecision.changes, hne])
    exact (not_not.1 hcause).symm

/-- **A generation that was recomputed has nothing left to decide.** -/
theorem changes_recomputed (current' : GenerationId) :
    (decisionFor config sources ctx flow current' (recomputeRecord config sources ctx flow current atTime g)).changes
      (recomputeRecord config sources ctx flow current atTime g) = false := by
  obtain ⟨hstate, hcause⟩ := decision_settles (generationView config sources ctx flow current g) g.state
    config.expiry ctx
  rw [decisionFor_recomputed]
  have hnext : (decisionFor config sources ctx flow current g).state
      = (decideGenerationState (generationView config sources ctx flow current g) g.state config.expiry ctx).state :=
        rfl
  have hsame : (decideGenerationState (generationView config sources ctx flow current g)
      (decisionFor config sources ctx flow current g).state config.expiry ctx).causeFor
        (recomputeRecord config sources ctx flow current atTime g)
      = (recomputeRecord config sources ctx flow current atTime g).cause := by
    unfold StateDecision.causeFor
    split
    · rfl
    · rename_i hnone
      rw [hnext] at hnone ⊢
      rw [recomputeRecord_cause, hcause.resolve_left hnone]
      unfold StateDecision.causeFor decisionFor
      rw [if_neg (by rw [← hcause.resolve_left hnone]; exact hnone)]
  unfold StateDecision.changes
  rw [hsame, hnext, hstate, recomputeRecord_state, hnext]
  simp

/-- A flow that was recomputed reports nothing new. -/
theorem events_recomputed (atTime' : Timestamp) :
    (recomputeReport config sources ctx atTime' (recomputeFlow config sources ctx atTime f)).events = [] := by
  show (generationSteps config sources ctx atTime' (recomputeFlow config sources ctx atTime f)).filterMap (·.event) = []
  refine List.filterMap_eq_nil_iff.2 fun step hstep => ?_
  unfold generationSteps at hstep
  rw [recomputeFlow_generations, recomputeFlow_id] at hstep
  obtain ⟨g', hg', rfl⟩ := List.mem_map.1 hstep
  unfold recomputedGenerations at hg'
  rw [SortedVec.toList_map] at hg'
  obtain ⟨g, -, rfl⟩ := List.mem_map.1 hg'
  simp only [recomputeGeneration, changes_recomputed, Bool.false_eq_true, if_false]

theorem history_recomputed (atTime' : Timestamp) : (recomputeFlow config sources ctx atTime'
    (recomputeFlow config sources ctx atTime f)).history = (recomputeFlow config sources ctx atTime f).history := by
  have hevents := @events_recomputed config sources ctx atTime f atTime'
  rw [recomputeFlow_history (recomputeFlow config sources ctx atTime f)]
  unfold recomputeReport at hevents
  simp only at hevents
  rw [hevents]
  rfl

end Generation

namespace Engine

/-- **The lifecycle decision is stable.** Decided again from its own answer it answers the same, for no cause or the
same one. So after a tick nothing is left to decide at its instant, and another tick leaves every history as it is. -/
theorem decision_stable :
    (∀ (view : GenerationView) (previous : FlowState) (expiry : ExpiryPolicy) (ctx : FreshnessContext),
      (decideGenerationState view (decideGenerationState view previous expiry ctx).state expiry ctx).state
          = (decideGenerationState view previous expiry ctx).state ∧
        ((decideGenerationState view (decideGenerationState view previous expiry ctx).state expiry ctx).cause = .None ∨
          (decideGenerationState view (decideGenerationState view previous expiry ctx).state expiry ctx).cause
            = (decideGenerationState view previous expiry ctx).cause)) ∧
    ∀ (e : Engine) (evaluatedAt : Timestamp), (e.tickLocked evaluatedAt).SettledAt evaluatedAt ∧
      ∀ id, (((e.tickLocked evaluatedAt).tickLocked evaluatedAt).flows.find? id).map (·.history)
        = ((e.tickLocked evaluatedAt).flows.find? id).map (·.history) := by
  refine ⟨decision_settles, fun e evaluatedAt => ?_⟩
  generalize hset : ({ e with evaluationOverride := evaluatedAt } : Engine) = set
  have hflows : ∀ id, (e.tickLocked evaluatedAt).flows.find? id
      = (e.flows.find? id).map (set.recomputeDue evaluatedAt tickDue) := by
    intro id
    rw [← hset, (sameState_tickLocked e evaluatedAt).flows, find?_recomputeAll]
  have hctx : ({ e.tickLocked evaluatedAt with evaluationOverride := evaluatedAt } : Engine).context = set.context := by
    rw [← hset]
    rfl
  have hsame : (e.tickLocked evaluatedAt).config = set.config ∧ (e.tickLocked evaluatedAt).sources = set.sources := by
    rw [← hset]
    exact ⟨rfl, rfl⟩
  -- a flow that the second tick passes over is one that the first recomputed
  have hticked : ∀ f₀, tickDue (set.recomputeDue evaluatedAt tickDue f₀) = true →
      set.recomputeDue evaluatedAt tickDue f₀ = recomputeFlow set.config set.sources set.context evaluatedAt f₀ := by
    intro f₀ hdue
    unfold recomputeDue at hdue ⊢
    split
    · rfl
    · rename_i hnot
      rw [if_neg hnot] at hdue
      exact absurd hdue hnot
  constructor
  · intro id f hf hdue gen g hg
    rw [hflows] at hf
    obtain ⟨f₀, -, rfl⟩ := Option.map_eq_some_iff.1 hf
    rw [hticked f₀ hdue] at hg ⊢
    rw [recomputeFlow_generations, find?_recomputed] at hg
    obtain ⟨g₀, -, rfl⟩ := Option.map_eq_some_iff.1 hg
    rw [hctx, hsame.1, hsame.2, recomputeFlow_id]
    exact changes_recomputed _
  · intro id
    rw [(sameState_tickLocked (e.tickLocked evaluatedAt) evaluatedAt).flows, find?_recomputeAll, hflows]
    cases e.flows.find? id with
    | none => rfl
    | some f₀ =>
      simp only [Option.map_some, Option.some.injEq]
      have hagain : ∀ f, ({ e.tickLocked evaluatedAt with evaluationOverride := evaluatedAt } : Engine).recomputeDue
          evaluatedAt tickDue f
          = if tickDue f then recomputeFlow set.config set.sources set.context evaluatedAt f else f := by
        intro f
        unfold recomputeDue
        rw [hctx]
        exact hsame.1 ▸ hsame.2 ▸ rfl
      rw [hagain]
      by_cases hdue : tickDue (set.recomputeDue evaluatedAt tickDue f₀) = true
      · rw [if_pos hdue, hticked f₀ hdue]
        exact history_recomputed evaluatedAt
      · rw [if_neg hdue]

end Engine

end FlowObs
