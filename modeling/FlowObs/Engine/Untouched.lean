import FlowObs.Engine.Redelivered
import FlowObs.Engine.Refusal

/-!
# When a refusal takes everything back

`apply_locked` makes what an observation needs on its way: it registers the source, gives up a terminal flow, creates
the flow. Nothing is undone when a later check refuses the observation. Nor is a content conflict a mere refusal: the
smaller digest is retained, and the flow is evaluated again. `Touches` lists what of this changes the evidence or a
state, and a refused observation leaves both untouched exactly when none of it applies (`refused_untouched_iff`).
-/

namespace FlowObs

namespace SourceLedger

variable {l : SourceLedger} {obs stored : Observation}

/-- Other content with a larger digest is replaced. -/
theorem insert_replaced (hb : l.belongs obs = .ok ()) (hi : l.insideFolded obs = false)
    (hf : l.entries.find? obs.canonicalKey = some stored) (hd : contentDigest obs < contentDigest stored) :
    (l.insert obs).2.kind = .ContentConflict ∧ (l.insert obs).1.entries = l.entries.set obs := by
  have hne : ¬ contentDigest stored = contentDigest obs := by grind
  unfold insert
  simp only [hb, hi, hf, hne, hd, Bool.false_eq_true, if_false, if_true, and_self]

/-- Other content with a smaller digest stays, and the conflict is counted. -/
theorem insert_outranked (hb : l.belongs obs = .ok ()) (hi : l.insideFolded obs = false)
    (hf : l.entries.find? obs.canonicalKey = some stored) (hd : contentDigest stored < contentDigest obs) :
    l.Counts obs .ContentConflict := by
  have hne : ¬ contentDigest stored = contentDigest obs := by grind
  have hnot : ¬ contentDigest obs < contentDigest stored := by grind
  refine ⟨?_, ?_, .inr rfl⟩ <;>
  · unfold insert
    simp only [hb, hi, hf, hne, hnot, Bool.false_eq_true, if_false, counted]

end SourceLedger

/-! ## The flow -/

/-- The evidence of the two flows is the same, and so are the lifecycle states. -/
structure FlowRuntime.Untouched (f f' : FlowRuntime) : Prop where
  evidence : f.SameEvidence f'
  states : ∀ gen g g', f.generations.find? gen = some g → f'.generations.find? gen = some g' → g'.state = g.state
  state : f'.state = f.state

/-- Evaluated at an instant, the flow and its generations keep their states. -/
structure FlowRuntime.Rests (config : EngineConfig) (sources : SourceTable) (ctx : FreshnessContext) (f : FlowRuntime) :
    Prop where
  decided : ∀ g ∈ f.generations.toList, (decisionFor config sources ctx f.id f.currentGeneration g).state = g.state
  mirrored : f.mirrorCurrent.state = f.state

section Flow

variable {config : EngineConfig} {sources : SourceTable} {ctx : FreshnessContext} {replaying : Bool}
    {atTime : Timestamp}
variable {obs : Observation} {f f' h : FlowRuntime} {gen : GenerationId} {source : SourceId} {kind : InsertKind}

theorem FlowRuntime.Untouched.of_generations (hgenerations : f'.generations = f.generations)
    (hstate : f'.state = f.state) :
    f.Untouched f' where
  evidence := .of_generations hgenerations
  states gen g g' hg hg' := by
    rw [hgenerations, hg] at hg'
    rw [Option.some.inj hg']
  state := hstate

theorem untouched_of_noted (hnoted : f.Noted f') : f.Untouched f' := by
  obtain ⟨_, _, _, rfl⟩ := hnoted
  exact .of_generations rfl rfl

/-- Only the generations and the state of the flow before matter. -/
theorem FlowRuntime.Untouched.congr {f₁ : FlowRuntime} (hgenerations : f₁.generations = f.generations)
    (hstate : f₁.state = f.state) :
    f₁.Untouched f' ↔ f.Untouched f' := by
  have hbinding : ∀ gen source, f₁.evidence gen source = f.evidence gen source := by
    intro gen source
    unfold FlowRuntime.evidence FlowRuntime.binding?
    rw [hgenerations]
  constructor
  · rintro ⟨⟨hgen, hheld⟩, hstates, hs⟩
    rw [hgenerations] at hgen hstates
    exact ⟨⟨hgen, fun gen source => (hheld gen source).trans (hbinding gen source)⟩, hstates, hs.trans hstate⟩
  · rintro ⟨⟨hgen, hheld⟩, hstates, hs⟩
    rw [← hgenerations] at hgen hstates
    exact ⟨⟨hgen, fun gen source => (hheld gen source).trans (hbinding gen source).symm⟩, hstates, hs.trans hstate.symm⟩

/-- What a binding holds is the same whatever the ledger counts. -/
theorem SourceBinding.held_recounted (b : SourceBinding) : (b.recounted kind source).held = b.held := by
  unfold recounted SourceLedger.counted
  split
  · cases kind <;> rfl
  · rfl

/-- The bindings of a generation to which an observation was delivered again. -/
theorem held_delivered (g : GenerationRuntime) (other : SourceId) :
    ((g.delivered kind gen source atTime).bindings.find? other).map SourceBinding.held
      = (g.bindings.find? other).map SourceBinding.held := by
  unfold GenerationRuntime.delivered
  split
  · show (((g.bindings.map (SourceBinding.recounted kind source) (SourceBinding.recounted_source kind source)).find?
      other).map _) = _
    rw [SortedVec.find?_map, Option.map_map]
    exact congrArg (Option.map · _) (funext SourceBinding.held_recounted)
  · rfl

/-- The evidence of a flow to which an observation was delivered again, once it is recomputed. -/
theorem sameEvidence_redelivered (hnoted : f.Noted h) :
    f.SameEvidence (recomputeFlow config sources ctx atTime (h.redelivered kind gen source atTime)) where
  generations gen' := by
    rw [recomputeFlow_generations, recomputed_redelivered hnoted, SortedVec.find?_map, Option.isSome_map]
  held gen' source' := by
    unfold FlowRuntime.evidence FlowRuntime.binding?
    rw [recomputeFlow_generations, recomputed_redelivered hnoted, SortedVec.find?_map]
    cases f.generations.find? gen' with
    | none => rfl
    | some g =>
      simp only [Option.map_some, Option.bind_some]
      rw [recomputeRecord_bindings, SortedVec.find?_map, Option.map_map]
      have hheld : SourceBinding.held ∘ refreshBinding config sources ctx = SourceBinding.held := by
        funext b
        simp only [Function.comp_apply, SourceBinding.held, refreshBinding_ledger]
      rw [hheld]
      exact held_delivered g source'

/-- **A conflict that changes no entry leaves the flow untouched** exactly when nothing is left to decide about it. -/
theorem untouched_redelivered_iff (hnoted : f.Noted h) :
    f.Untouched (recomputeFlow config sources ctx atTime (h.redelivered kind gen source atTime)) ↔
    f.Rests config sources ctx := by
  let φ : GenerationRuntime → GenerationRuntime := fun g =>
    recomputeRecord config sources ctx f.id f.currentGeneration atTime (g.delivered kind gen source atTime)
  have hφ : ∀ g, (φ g).id = g.id := recomputed_delivered_id config sources ctx atTime kind f gen source
  have hdecided : ∀ g, (φ g).state = (decisionFor config sources ctx f.id f.currentGeneration g).state := by
    intro g
    have hrecounted : Recounted config sources ctx g (g.delivered kind gen source atTime) := recounted_delivered g
    have hdecision := (@Recounted.same config sources ctx atTime f.id f.currentGeneration g _ hrecounted
      f.currentGeneration).1
    exact recomputeRecord_state.trans (congrArg StateDecision.state hdecision)
  have hevidence := @sameEvidence_redelivered config sources ctx atTime f h gen source kind hnoted
  have hrecomputed : recomputedGenerations config sources ctx atTime (h.redelivered kind gen source atTime)
      = f.generations.map φ hφ := recomputed_redelivered hnoted
  obtain ⟨f', hf', hcurrent', hstate', -, hshown, -, -⟩ :=
    @recomputeFlow_shown config sources ctx atTime (h.redelivered kind gen source atTime)
  rw [hrecomputed] at hf'
  have hcurrent : f'.currentGeneration = f.currentGeneration ∧ f'.state = f.state := by
    obtain ⟨_, _, _, rfl⟩ := hnoted
    exact ⟨hcurrent', hstate'⟩
  have hmirrored : (∀ g ∈ f.generations.toList, (φ g).state = g.state) →
      f'.mirrorCurrent.state = f.mirrorCurrent.state :=
    mirrorCurrent_state φ hφ hf' hcurrent.1 hcurrent.2
  constructor
  · rintro ⟨-, hstates, hstate⟩
    have hkept : ∀ g ∈ f.generations.toList, (φ g).state = g.state := by
      intro g hg
      have hfind := SortedVec.find?_of_mem hg
      refine hstates g.id g (φ g) hfind ?_
      rw [recomputeFlow_generations, hrecomputed, SortedVec.find?_map, hfind]
      rfl
    refine ⟨fun g hg => (hdecided g).symm.trans (hkept g hg), ?_⟩
    rw [← hmirrored hkept, ← hshown, hstate]
  · rintro ⟨hkept, hstate⟩
    refine ⟨hevidence, fun gen' g g' hg hg' => ?_, ?_⟩
    · rw [recomputeFlow_generations, hrecomputed, SortedVec.find?_map, hg] at hg'
      obtain rfl : φ g = g' := Option.some.inj hg'
      exact (hdecided g).trans (hkept g (SortedVec.find?_mem hg))
    · rw [hshown, hmirrored fun g hg => (hdecided g).trans (hkept g hg), hstate]

/-- An observation of a source that the generation does not have touches nothing of its flow when it is refused. -/
theorem RefusedFlow.untouched (h : RefusedFlow config sources ctx atTime obs f f')
    (hkey : f.canonicalKey = obs.subject.flowKey)
    (hb : f.binding? obs.subject.generation obs.key.source = none) : f.Untouched f' := by
  cases h with
  | kept hevidence hstates hstate =>
    exact ⟨hevidence, fun gen g g' hg hg' => (hstates.states gen g g' hg hg').1, hstate.1⟩
  | collided hne _ _ => exact absurd hkey hne
  | conflicting b _ _ hbound _ _ _ _ _ =>
    rw [hb] at hbound
    cases hbound

/-- A refusal by the ledger leaves the flow untouched. -/
theorem untouched_refused {b : SourceBinding} {entered : FlowTx}
    (hb : f.binding? obs.subject.generation obs.key.source = some b)
    (hentered : (f.enter obs.subject.generation atTime).Noted entered.flow)
    (hrefused : (b.ledger.insert (clampedObservation config.limits obs)).2.kind = .Refused)
    (hanswer : (insertEvidence config.limits replaying atTime (clampedObservation config.limits obs) entered.flow).2
      = (b.ledger.insert (clampedObservation config.limits obs)).2) :
    f.Untouched (applyEvidence config sources ctx replaying atTime
      (clampedObservation config.limits obs) entered).1.flow := by
  obtain ⟨g, hg, -⟩ := Option.bind_eq_some_iff.1 hb
  have hroom : Roomed config.limits f obs.subject.generation f := .known (by rw [hg]; rfl)
  have hkind : (insertEvidence config.limits replaying atTime
    (clampedObservation config.limits obs) entered.flow).2.kind
      = .Refused := by rw [hanswer, hrefused]
  have hsettled := (applyEvidence_cases config sources ctx replaying atTime
    (clampedObservation config.limits obs) entered).2
  rw [if_pos hkind] at hsettled
  have hinserted := (insertEvidence_noted config.limits replaying atTime
    (clampedObservation config.limits obs) hentered).2
  have hnoted := hinserted.trans hsettled
  rw [← clampedObservation_subject config.limits obs, ← clampedObservation_key config.limits obs] at hb
  have hevidence := sameEvidence_insert config.limits replaying atTime hb hrefused
  rw [clampedObservation_subject] at hevidence
  have hstates := sameStates_insert replaying atTime hroom (clampedObservation config.limits obs)
    (clampedObservation_subject _ _)
  obtain ⟨_, _, _, hn⟩ := hnoted
  rw [hn]
  exact ⟨⟨hevidence.generations, hevidence.held⟩, fun gen g g' hg hg' => (hstates.states gen g g' hg hg').1, rfl⟩

/-- Another entry under the key of the observation is other evidence. -/
theorem not_untouched_replaced {b : SourceBinding} {stored : Observation} {entered : FlowTx}
    (hb : f.binding? obs.subject.generation obs.key.source = some b)
    (hentered : (f.enter obs.subject.generation atTime).Noted entered.flow)
    (hbelongs : b.ledger.belongs (clampedObservation config.limits obs) = .ok ())
    (hunfolded : b.ledger.insideFolded (clampedObservation config.limits obs) = false)
    (hstored : b.ledger.entries.find? obs.canonicalKey = some stored)
    (hd : contentDigest (clampedObservation config.limits obs) < contentDigest stored) :
    ¬ f.Untouched (applyEvidence config sources ctx replaying atTime
      (clampedObservation config.limits obs) entered).1.flow := by
  rw [← clampedObservation_canonicalKey config.limits obs] at hstored
  obtain ⟨hkind, hentries⟩ := SourceLedger.insert_replaced hbelongs hunfolded hstored hd
  obtain ⟨g, hg, hbinding⟩ := Option.bind_eq_some_iff.1 hb
  obtain ⟨hgenerations, hanswer⟩ := insertEvidence_entered config.limits replaying hg hbinding hentered
  have hne : ¬ (insertEvidence config.limits replaying atTime
    (clampedObservation config.limits obs) entered.flow).2.kind
      = .Refused := by
    rw [hanswer, hkind]
    decide
  have hsettled := (applyEvidence_cases config sources ctx replaying atTime
    (clampedObservation config.limits obs) entered).2
  rw [if_neg hne] at hsettled
  obtain ⟨settled, hnoted, hflow⟩ := hsettled
  intro huntouched
  have hheld := huntouched.evidence.held obs.subject.generation obs.key.source
  have hafter : (applyEvidence config sources ctx replaying atTime
    (clampedObservation config.limits obs) entered).1.flow.evidence
      obs.subject.generation obs.key.source =
      some (b.take replaying (clampedObservation config.limits obs)).1.held := by
    have hthere : entered.flow.binding? (clampedObservation config.limits obs).subject.generation
        (clampedObservation config.limits obs).key.source = some b := by
      rw [clampedObservation_subject, clampedObservation_key, hentered.binding?, binding?_enter, hb]
    have htaken := evidence_insertEvidence config.limits replaying atTime hthere obs.subject.generation obs.key.source
    rw [clampedObservation_subject, clampedObservation_key, if_pos ⟨rfl, rfl⟩] at htaken
    rw [← htaken, hflow]
    unfold FlowRuntime.evidence
    rw [binding?_recomputeFlow, binding?_touch, hnoted.binding?, binding?_revise, Option.map_map]
    refine congrArg (Option.map · _) (funext fun b => ?_)
    simp only [Function.comp_apply, SourceBinding.held, refreshBinding_ledger]
  rw [hafter, FlowRuntime.evidence, hb, Option.map_some, Option.some.injEq] at hheld
  have hsame : b.ledger.entries.set (clampedObservation config.limits obs) = b.ledger.entries := by
    rw [← hentries, ← SourceBinding.take_ledger b replaying (clampedObservation config.limits obs)]
    exact congrArg Prod.fst hheld
  have hfound := SortedVec.find?_set_self b.ledger.entries (clampedObservation config.limits obs)
  rw [hsame, hstored] at hfound
  rw [Option.some.inj hfound] at hd
  exact absurd hd (by grind)

end Flow

/-! ## The engine -/

namespace Engine

/-- The sources, the flows, their evidence and their lifecycle states are the same. -/
structure Untouched (e e' : Engine) : Prop where
  sources : e'.sources = e.sources
  flows : ∀ id, (e'.flows.find? id).isSome = (e.flows.find? id).isSome
  same : ∀ id f f', e.flows.find? id = some f → e'.flows.find? id = some f' → f.Untouched f'

/-- Nothing refuses the observation before the ledger of its source does, which retains an entry under its key. -/
structure Disputes (e : Engine) (obs : Observation) (f : FlowRuntime) (b : SourceBinding) (stored : Observation) :
    Prop where
  key : f.canonicalKey = obs.subject.flowKey
  identities : (registerIdentity e.config.limits obs.subject e.registries).2 = none
  tolerated : obs.skewed e.config.limits = true → e.config.freshness.clampFutureTimestamps = true
  binding : f.binding? obs.subject.generation obs.key.source = some b
  belongs : b.ledger.belongs obs = .ok ()
  unfolded : b.ledger.insideFolded obs = false
  retained : b.ledger.entries.find? obs.canonicalKey = some stored

/-- **What a refused observation changes in its flow.** -/
inductive TouchesFlow (e : Engine) (obs : Observation) (f : FlowRuntime) : Prop
  /-- The flow has another key, and is marked as conflicting. -/
  | collides (hkey : f.canonicalKey ≠ obs.subject.flowKey) (hstate : f.state ≠ .Conflicting)
  /-- The retained entry has the larger digest, and is replaced. -/
  | replaces (b : SourceBinding) (stored : Observation) (h : e.Disputes obs f b stored)
    (hd : contentDigest (clampedObservation e.config.limits obs) < contentDigest stored)
  /-- The retained entry has the smaller digest and stays, but evaluating the flow moves a state. -/
  | moves (b : SourceBinding) (stored : Observation) (h : e.Disputes obs f b stored)
    (hd : contentDigest stored < contentDigest (clampedObservation e.config.limits obs))
    (hmoves : ¬ (f.enter obs.subject.generation e.instant).Rests e.config e.sources e.context)

/-- The source is registered and not retired. -/
def InUse (e : Engine) (source : SourceId) : Prop := ∃ s, e.sources.find? source = some s ∧ s.retired = false

/-- **What a refused observation changes.** -/
inductive Touches (e : Engine) (obs : Observation) : Prop
  /-- The source is unknown, and is registered. -/
  | registers (hsource : e.sources.find? obs.key.source = none)
    (hroom : e.sources.toList.length < e.config.limits.maxSources.toNat)
  /-- The flow is unknown, and is created, or a terminal one is given up for it. -/
  | enters (hsource : e.InUse obs.key.source) (hflow : e.flows.find? obs.subject.flow = none)
    (hroom : e.flows.toList.length < e.config.limits.maxFlows.toNat ∨ ∃ f ∈ e.flows.toList, isTerminal f.state = true)
  /-- The flow is known. -/
  | flow (f : FlowRuntime) (hsource : e.InUse obs.key.source) (hflow : e.flows.find? obs.subject.flow = some f)
    (h : e.TouchesFlow obs f)

section Engine

variable {e e' : Engine} {obs : Observation} {f : FlowRuntime} {atTime : Timestamp}

theorem Untouched.of_tables (hsources : e'.sources = e.sources) (hflows : e'.flows = e.flows) : e.Untouched e' where
  sources := hsources
  flows id := by rw [hflows]
  same id f f' hf hf' := by
    rw [hflows, hf] at hf'
    rw [← Option.some.inj hf']
    exact untouched_of_noted (.refl f)

/-- Storing a flow touches the engine when it touches that flow. -/
theorem untouched_store_iff {tx : FlowTx} (hsame : e.SameTables e') (hf : e.flows.find? f.id = some f)
    (hid : tx.flow.id = f.id) :
    e.Untouched (e'.store tx) ↔ f.Untouched tx.flow := by
  obtain ⟨_, _, _, rfl⟩ := hsame
  have hfind : ∀ id, (e.flows.set tx.flow).find? id = if f.id = id then some tx.flow else e.flows.find? id := by
    intro id
    rw [SortedVec.find?_set, hid]
  constructor
  · rintro ⟨-, -, hsame⟩
    refine hsame f.id f tx.flow hf ?_
    exact (hfind f.id).trans (if_pos rfl)
  · intro h
    refine ⟨rfl, fun id => ?_, fun id g g' hg hg' => ?_⟩
    · show ((e.flows.set tx.flow).find? id).isSome = _
      rw [hfind]
      split
      · rename_i hkey
        rw [← hkey, hf]
        rfl
      · rfl
    · change (e.flows.set tx.flow).find? id = some g' at hg'
      rw [hfind] at hg'
      split at hg'
      · rename_i hkey
        rw [← hkey, hf] at hg
        rw [← Option.some.inj hg, ← Option.some.inj hg']
        exact h
      · rw [hg] at hg'
        rw [← Option.some.inj hg']
        exact untouched_of_noted (.refl g)

/-- A flow with another key is marked as conflicting. -/
theorem untouched_collided_iff {tx : FlowTx} {config : EngineConfig} {sources : SourceTable} {ctx : FreshnessContext}
    {replaying : Bool} (hkey : tx.flow.canonicalKey ≠ obs.subject.flowKey) :
    tx.flow.Untouched (Exit.ofExcept (applyToFlow config sources ctx replaying atTime obs tx)).1.flow
      ↔ tx.flow.state = .Conflicting := by
  cases hmatch : matchKey config.limits atTime obs tx with
  | ok tx' => exact absurd (matchKey_ok.1 hmatch).1 hkey
  | error x =>
    obtain ⟨tx', outcome⟩ := x
    obtain ⟨-, -, -, -, a, d, c, hnoted⟩ := matchKey_error hmatch
    have happlied : applyToFlow config sources ctx replaying atTime obs tx = .error (tx', outcome) := by
      unfold applyToFlow
      rw [hmatch]
      rfl
    have hmarked : tx'.flow.state = .Conflicting ∧ tx'.flow.generations = tx.flow.generations := by
      rw [hnoted]
      exact ⟨rfl, rfl⟩
    rw [happlied]
    constructor
    · exact fun h => h.state.symm.trans hmarked.1
    · exact fun hstate => .of_generations hmarked.2 (hmarked.1.trans hstate.symm)

/-- A flow whose identities are refused is noted. -/
theorem noted_unregistered {tx : FlowTx} {config : EngineConfig} {sources : SourceTable} {ctx : FreshnessContext}
    {replaying : Bool} (hkey : tx.flow.canonicalKey = obs.subject.flowKey)
    (hidentities : (registerIdentity config.limits obs.subject tx.registries).2 ≠ none) :
    tx.flow.Noted (Exit.ofExcept (applyToFlow config sources ctx replaying atTime obs tx)).1.flow := by
  cases hregistered : registerIdentities config.limits atTime obs tx with
  | ok tx' => exact absurd (congrArg Prod.snd (registerIdentities_ok hregistered).1) hidentities
  | error x =>
    obtain ⟨tx', outcome⟩ := x
    have happlied : applyToFlow config sources ctx replaying atTime obs tx = .error (tx', outcome) := by
      unfold applyToFlow
      rw [matchKey_ok.2 ⟨hkey, rfl⟩]
      simp only [ok_bind, hregistered]
      rfl
    rw [happlied]
    exact (registerIdentities_error hregistered).2.1

/-- **What the answer of the ledger leaves of the flow**, when it is a refusal. -/
theorem untouched_answered_iff {b : SourceBinding} {entered : FlowTx} (hkey : f.canonicalKey = obs.subject.flowKey)
    (hidentities : (registerIdentity e.config.limits obs.subject e.registries).2 = none)
    (hb : f.binding? obs.subject.generation obs.key.source = some b)
    (htolerated : obs.skewed e.config.limits = true → e.config.freshness.clampFutureTimestamps = true)
    (hentered : (f.enter obs.subject.generation e.instant).Noted entered.flow)
    (ho : (applyEvidence e.config e.sources e.context e.replaying e.instant
      (clampedObservation e.config.limits obs) entered).2.disposition
      = .Refused) :
    f.Untouched (applyEvidence e.config e.sources e.context e.replaying e.instant
      (clampedObservation e.config.limits obs)
      entered).1.flow ↔ ¬ e.TouchesFlow obs f := by
  obtain ⟨g, hg, hbinding⟩ := Option.bind_eq_some_iff.1 hb
  obtain ⟨hgenerations, hanswer⟩ := insertEvidence_entered e.config.limits e.replaying hg hbinding hentered
  have hdisposition := (applyEvidence_cases e.config e.sources e.context e.replaying e.instant
    (clampedObservation e.config.limits obs) entered).1
  rw [ho, hanswer] at hdisposition
  have hbelongs : b.ledger.belongs (clampedObservation e.config.limits obs) = b.ledger.belongs obs := by
    unfold SourceLedger.belongs
    rw [clampedObservation_valid, clampedObservation_key, clampedObservation_subject]
  have hfolded : b.ledger.insideFolded (clampedObservation e.config.limits obs) = b.ledger.insideFolded obs := by
    unfold SourceLedger.insideFolded
    rw [clampedObservation_canonicalKey]
  -- a dispute in the flow is one in this ledger, and about the entry that it retains
  have hretains : ∀ {b' stored}, e.Disputes obs f b' stored → b.ledger.belongs obs = .ok () ∧
      b.ledger.insideFolded obs = false ∧ b.ledger.entries.find? obs.canonicalKey = some stored := by
    intro b' stored h
    have hb' := h.binding
    rw [hb] at hb'
    rw [Option.some.inj hb']
    exact ⟨h.belongs, h.unfolded, h.retained⟩
  have hcases := b.ledger.insert_cases (clampedObservation e.config.limits obs)
  generalize hkind : (b.ledger.insert (clampedObservation e.config.limits obs)).2.kind = kind at hcases hdisposition
  generalize (b.ledger.insert (clampedObservation e.config.limits obs)).1 = ledger at hcases
  cases hcases with
  | foreign hforeign =>
    refine iff_of_true (untouched_refused hb hentered hkind hanswer) ?_
    rintro (⟨hne, -⟩ | ⟨b', stored, h, -⟩ | ⟨b', stored, h, -, -⟩)
    · exact hne hkey
    · rw [hbelongs, (hretains h).1] at hforeign
      cases hforeign
    · rw [hbelongs, (hretains h).1] at hforeign
      cases hforeign
  | stale _ hi _ =>
    refine iff_of_true (untouched_refused hb hentered hkind hanswer) ?_
    rw [hfolded] at hi
    rintro (⟨hne, -⟩ | ⟨b', stored, h, -⟩ | ⟨b', stored, h, -, -⟩)
    · exact hne hkey
    · rw [(hretains h).2.1] at hi
      cases hi
    · rw [(hretains h).2.1] at hi
      cases hi
  | replaced hb' hi stored hf hd =>
    rw [clampedObservation_canonicalKey] at hf
    refine iff_of_false (not_untouched_replaced hb hentered hb' hi hf hd) (not_not.2 ?_)
    exact .replaces b stored ⟨hkey, hidentities, htolerated, hb, hbelongs.symm.trans hb', hfolded.symm.trans hi, hf⟩ hd
  | outranked hb' hi stored hf hd =>
    have hcounts := SourceLedger.insert_outranked hb' hi hf hd
    obtain ⟨h, hnoted, -, hflow⟩ :=
      applyEvidence_counted e.config e.sources e.context e.replaying hg hbinding hentered hcounts
    have hsame : f.Untouched (applyEvidence e.config e.sources e.context e.replaying e.instant
        (clampedObservation e.config.limits obs) entered).1.flow ↔
          (f.enter obs.subject.generation e.instant).Rests e.config e.sources e.context := by
      rw [hflow, ← untouched_redelivered_iff (hentered.trans hnoted)]
      exact (FlowRuntime.Untouched.congr (enter_generations hg) rfl).symm
    rw [clampedObservation_canonicalKey] at hf
    refine hsame.trans ⟨?_, fun hnot => by_contra fun hmoves => hnot (.moves b stored ?_ hd hmoves)⟩
    · rintro hrests (⟨hne, -⟩ | ⟨b', stored', h, hd'⟩ | ⟨-, -, -, -, hmoves⟩)
      · exact hne hkey
      · have hstored := (hretains h).2.2
        rw [hf] at hstored
        rw [← Option.some.inj hstored] at hd'
        exact absurd hd' (by grind)
      · exact hmoves hrests
    · exact ⟨hkey, hidentities, htolerated, hb, hbelongs.symm.trans hb', hfolded.symm.trans hi, hf⟩
  | refolded | redelivered | accepted => cases hdisposition

/-- **What a refusal leaves of a flow that is known.** -/
theorem untouched_known_iff (hmax : 0 < e.config.limits.maxSourcesPerFlow.toNat) (hv : obs.valid = true)
    (hid : f.id = obs.subject.flow) (counters : EngineCounters)
    (ho : (Exit.ofExcept (applyToFlow e.config e.sources e.context e.replaying e.instant obs
      ⟨f, e.registries, counters⟩)).2.disposition
      = .Refused) :
    f.Untouched (Exit.ofExcept (applyToFlow e.config e.sources e.context e.replaying e.instant obs
      ⟨f, e.registries, counters⟩)).1.flow ↔ ¬ e.TouchesFlow obs f := by
  by_cases hkey : f.canonicalKey = obs.subject.flowKey
  · have hdisputed : e.TouchesFlow obs f → ∃ b stored, e.Disputes obs f b stored := by
      rintro (⟨hne, -⟩ | ⟨b, stored, h, -⟩ | ⟨b, stored, h, -, -⟩)
      · exact absurd hkey hne
      · exact ⟨b, stored, h⟩
      · exact ⟨b, stored, h⟩
    by_cases hidentities : (registerIdentity e.config.limits obs.subject e.registries).2 = none
    · have hregistered : registerIdentity e.config.limits obs.subject e.registries
          = ((registerIdentity e.config.limits obs.subject e.registries).1, none) := Prod.ext rfl hidentities
      cases hb : f.binding? obs.subject.generation obs.key.source with
      | none =>
        refine iff_of_true ?_ fun h => ?_
        · have hrefused := (applyToFlow_cases e.config e.sources e.context e.replaying e.instant obs
            ⟨f, e.registries, counters⟩).refused ho hmax hv hid
          exact hrefused.untouched (by rwa [clampedObservation_subject])
            (by rwa [clampedObservation_subject, clampedObservation_key])
        · obtain ⟨b, stored, hdisputes⟩ := hdisputed h
          rw [hdisputes.binding] at hb
          cases hb
      | some b =>
        obtain ⟨g, hg, hbinding⟩ := Option.bind_eq_some_iff.1 hb
        have hgen : (⟨f, e.registries, counters⟩ : FlowTx).flow.generations.find? obs.subject.generation = some g := hg
        rcases applyToFlow_entered e.config e.sources e.context e.replaying hkey hregistered hgen hbinding with
          ⟨hskewed, hunclamped, x, happlied, hnoted, -⟩ | ⟨htolerated, entered, hentered, -, happlied⟩
        · rw [happlied]
          refine iff_of_true (untouched_of_noted hnoted) fun h => ?_
          obtain ⟨b, stored, hdisputes⟩ := hdisputed h
          rw [hdisputes.tolerated hskewed] at hunclamped
          cases hunclamped
        · rw [happlied] at ho ⊢
          exact untouched_answered_iff hkey hidentities hb htolerated hentered ho
    · refine iff_of_true (untouched_of_noted (noted_unregistered hkey hidentities)) fun h => ?_
      obtain ⟨b, stored, hdisputes⟩ := hdisputed h
      exact hidentities hdisputes.identities
  · have hcollided := @untouched_collided_iff obs e.instant
      ⟨f, e.registries, counters⟩ e.config e.sources e.context e.replaying hkey
    refine hcollided.trans ⟨?_, fun h => by_contra fun hstate => h (.collides hkey hstate)⟩
    rintro hstate (⟨-, hne⟩ | ⟨b, stored, h, -⟩ | ⟨b, stored, h, -, -⟩)
    · exact hne hstate
    · exact hkey h.key
    · exact hkey h.key

/-- A flow is given up when a terminal one is there. -/
theorem victim_eq_none_iff : e.victim = none ↔ ∀ f ∈ e.flows.toList, isTerminal f.state = false := by
  have hbetter : ∀ (best : Option FlowRuntime) (f : FlowRuntime),
      betterVictim best f = none ↔ best = none ∧ isTerminal f.state = false := by
    intro best f
    unfold betterVictim
    cases best with
    | none => cases isTerminal f.state <;> simp
    | some b =>
      cases isTerminal f.state with
      | false => simp
      | true =>
        simp only [Bool.not_true, Bool.false_eq_true, if_false, reduceCtorEq, false_and, iff_false]
        split <;> exact Option.some_ne_none _
  have hfold : ∀ (fs : List FlowRuntime) (best : Option FlowRuntime),
      fs.foldl betterVictim best = none ↔ best = none ∧ ∀ f ∈ fs, isTerminal f.state = false := by
    intro fs
    induction fs with
    | nil => simp
    | cons f fs ih =>
      intro best
      rw [List.foldl_cons, ih, hbetter, List.forall_mem_cons, and_assoc]
  exact (hfold e.flows.toList none).trans ⟨And.right, fun h => ⟨rfl, h⟩⟩

/-- The source of an observation is resolved before anything else happens in the tables. -/
theorem applyJournaled_sources {e₁ : Engine} (h : e.resolveSource atTime obs.key.source = .ok e₁) :
    (e.applyJournaled atTime obs).1.sources = e₁.sources := by
  unfold applyJournaled
  simp only [h, resolveFlow]
  cases e₁.flows.find? obs.subject.flow with
  | some f => rfl
  | none =>
    have hsources : e₁.makeFlowRoom.1.sources = e₁.sources := by
      rw [(makeFlowRoom_cases e₁).2]
    cases e₁.makeFlowRoom.2 with
    | true => exact hsources
    | false => exact hsources

/-- An observation that is refused for its source leaves the tables. -/
theorem applyJournaled_unserved {err : Error} (h : e.resolveSource atTime obs.key.source = .error err) :
    e.applyJournaled atTime obs = e.refuse err.code err.message := by
  unfold applyJournaled
  simp only [h]

theorem resolveSource_used {source : SourceId} (h : e.InUse source) : e.resolveSource atTime source = .ok e := by
  obtain ⟨s, hs, hactive⟩ := h
  unfold resolveSource
  simp only [hs, hactive, Bool.false_eq_true, if_false]

/-- An observation of a source in use whose flow is unknown makes room for it and creates it, or is refused. -/
theorem applyJournaled_unknown (hsource : e.InUse obs.key.source) (hflow : e.flows.find? obs.subject.flow = none) :
    (e.makeFlowRoom.2 = false ∧ (e.applyJournaled atTime obs).1.flows = e.makeFlowRoom.1.flows) ∨
      e.makeFlowRoom.2 = true ∧ ((e.applyJournaled atTime obs).1.flows.find? obs.subject.flow).isSome = true := by
  unfold applyJournaled
  simp only [resolveSource_used hsource, resolveFlow, hflow]
  cases hroom : e.makeFlowRoom.2 with
  | false => exact .inl ⟨rfl, rfl⟩
  | true =>
    refine .inr ⟨rfl, ?_⟩
    simp only [if_true]
    generalize hroomy : e.makeFlowRoom.1.count (fun c => { c with flowsCreated := c.flowsCreated + 1 }) = roomy
    have hid := (applyToFlow_cases roomy.config roomy.sources roomy.context roomy.replaying atTime obs
      ⟨e.makeFlowRoom.1.createFlow atTime obs, roomy.registries, roomy.counters⟩).kept.id
    have hcreated : (e.makeFlowRoom.1.createFlow atTime obs).id = obs.subject.flow := rfl
    rw [hcreated] at hid
    rw [← hid]
    exact Option.isSome_iff_exists.2 ⟨_, SortedVec.find?_set_self _ _⟩

/-- **What a refusal leaves when the flow is unknown**: room for one is made whatever comes of the observation. -/
theorem untouched_unknown_iff (hsource : e.InUse obs.key.source) (hflow : e.flows.find? obs.subject.flow = none) :
    e.Untouched (e.applyJournaled atTime obs).1 ↔
      e.config.limits.maxFlows.toNat ≤ e.flows.toList.length ∧ ∀ f ∈ e.flows.toList, isTerminal f.state = false := by
  have houtcome := @applyJournaled_unknown e obs atTime hsource hflow
  -- the flow that is created is one that was not there
  have hcreated : ((e.applyJournaled atTime obs).1.flows.find? obs.subject.flow).isSome = true →
      ¬ e.Untouched (e.applyJournaled atTime obs).1 := by
    intro hthere h
    have hflows := h.flows obs.subject.flow
    rw [hthere, hflow] at hflows
    cases hflows
  by_cases hfull : e.config.limits.maxFlows.toNat ≤ e.flows.toList.length
  · cases hvictim : e.victim with
    | none =>
      have hroom : e.makeFlowRoom = (e, false) := by
        unfold makeFlowRoom evictOneFlow
        simp only [Nat.not_lt.2 hfull, hvictim, if_false, Option.map_none]
      refine iff_of_true ?_ ⟨hfull, victim_eq_none_iff.1 hvictim⟩
      rcases houtcome with ⟨-, hflows⟩ | ⟨hroomy, -⟩
      · refine .of_tables (applyJournaled_sources (resolveSource_used hsource)) ?_
        rw [hflows, hroom]
      · rw [hroom] at hroomy
        cases hroomy
    | some v =>
      refine iff_of_false ?_ fun h => ?_
      · rcases houtcome with ⟨-, hflows⟩ | ⟨-, hthere⟩
        · have hroom : e.makeFlowRoom.1.flows = e.flows.erase v.id := by
            unfold makeFlowRoom evictOneFlow
            simp only [Nat.not_lt.2 hfull, hvictim, if_false, Option.map_some]
            rfl
          intro h
          have hgone := h.flows v.id
          rw [hflows, hroom, SortedVec.find?_erase, if_pos rfl, SortedVec.find?_of_mem (victim_spec hvictim).1] at hgone
          cases hgone
        · exact hcreated hthere
      · rw [victim_eq_none_iff.2 h.2] at hvictim
        cases hvictim
  · have hroom : e.makeFlowRoom = (e, true) := by
      unfold makeFlowRoom
      rw [if_pos (Nat.not_le.1 hfull)]
    refine iff_of_false ?_ fun h => hfull h.1
    rcases houtcome with ⟨hroomy, -⟩ | ⟨-, hthere⟩
    · rw [hroom] at hroomy
      cases hroomy
    · exact hcreated hthere

/-- **What a refusal leaves**, once the observation is in the journal. -/
theorem applyJournaled_untouched_iff (hmax : 0 < e.config.limits.maxSourcesPerFlow.toNat) (hv : obs.valid = true)
    (ho : (e.applyJournaled e.instant obs).2.disposition = .Refused) :
    e.Untouched (e.applyJournaled e.instant obs).1 ↔ ¬ e.Touches obs := by
  cases hsource : e.sources.find? obs.key.source with
  | none =>
    have hunused : ¬ e.InUse obs.key.source := by
      rintro ⟨s, hs, -⟩
      rw [hsource] at hs
      cases hs
    by_cases hroom : e.sources.toList.length < e.config.limits.maxSources.toNat
    · refine iff_of_false (fun h => ?_) (not_not.2 (.registers hsource hroom))
      have hresolved : e.resolveSource e.instant obs.key.source
          = .ok { e with sources := e.sources.set (unregisteredSource e.instant obs.key.source) } := by
        unfold resolveSource
        simp only [hsource, Nat.not_le.2 hroom, if_false]
      have hset : e.sources = e.sources.set (unregisteredSource e.instant obs.key.source) :=
        h.sources.symm.trans (applyJournaled_sources hresolved)
      have hfound := SortedVec.find?_set_self e.sources (unregisteredSource e.instant obs.key.source)
      rw [← hset] at hfound
      cases hsource.symm.trans hfound
    · have hresolved : e.resolveSource e.instant obs.key.source = .error (limitExceeded "source registry is full") := by
        unfold resolveSource
        simp only [hsource, Nat.not_lt.1 hroom, if_true]
      refine iff_of_true ?_ ?_
      · rw [applyJournaled_unserved hresolved]
        exact .of_tables rfl rfl
      · rintro (⟨-, h⟩ | ⟨h, -, -⟩ | ⟨-, h, -, -⟩)
        · exact hroom h
        · exact hunused h
        · exact hunused h
  | some s =>
    cases hretired : s.retired with
    | true =>
      have hresolved : e.resolveSource e.instant obs.key.source =
          .error ⟨.NotFound, str "source has been retired"⟩ := by
        unfold resolveSource
        simp only [hsource, hretired, if_true]
      have hunused : ¬ e.InUse obs.key.source := by
        rintro ⟨s', hs', hactive⟩
        rw [hsource] at hs'
        rw [← Option.some.inj hs', hretired] at hactive
        cases hactive
      refine iff_of_true ?_ ?_
      · rw [applyJournaled_unserved hresolved]
        exact .of_tables rfl rfl
      · rintro (⟨h, -⟩ | ⟨h, -, -⟩ | ⟨-, h, -, -⟩)
        · rw [hsource] at h
          cases h
        · exact hunused h
        · exact hunused h
    | false =>
      have hused : e.InUse obs.key.source := ⟨s, hsource, hretired⟩
      cases hflow : e.flows.find? obs.subject.flow with
      | some f =>
        have hid : f.id = obs.subject.flow := SortedVec.find?_key hflow
        have hserves : e.Serves obs.key.source := by
          intro s' hs'
          rw [hsource] at hs'
          rw [← Option.some.inj hs', hretired]
        have hstored := @applyJournaled_known e obs f e.instant s hsource hserves hflow
        rw [hstored] at ho ⊢
        have hid' := (applyToFlow_cases e.config e.sources e.context e.replaying e.instant obs
          ⟨f, e.registries, e.counters⟩).kept.id
        rw [untouched_store_iff (.refl e) (hid ▸ hflow) hid', untouched_known_iff hmax hv hid e.counters ho]
        refine not_congr ⟨fun h => .flow f hused hflow h, ?_⟩
        rintro (⟨h, -⟩ | ⟨-, h, -⟩ | ⟨f', -, h, htouches⟩)
        · rw [hsource] at h
          cases h
        · rw [hflow] at h
          cases h
        · rw [hflow] at h
          rwa [Option.some.inj h]
      | none =>
        rw [untouched_unknown_iff hused hflow]
        constructor
        · rintro ⟨hfull, hnone⟩ (⟨h, -⟩ | ⟨-, -, h | ⟨f, hf, hterminal⟩⟩ | ⟨f, -, h, -⟩)
          · rw [hsource] at h
            cases h
          · exact Nat.not_lt.2 hfull h
          · rw [hnone f hf] at hterminal
            cases hterminal
          · rw [hflow] at h
            cases h
        · intro h
          refine ⟨Nat.not_lt.1 fun hroom => h (.enters hused hflow (.inl hroom)), fun f hf => ?_⟩
          by_contra hterminal
          exact h (.enters hused hflow (.inr ⟨f, hf, Bool.not_eq_false _ ▸ hterminal⟩))

theorem Untouched.of_sameTables {e₁ : Engine} (hsame : e.SameTables e₁) : e₁.Untouched e' ↔ e.Untouched e' := by
  obtain ⟨_, _, _, rfl⟩ := hsame
  exact ⟨fun ⟨hsources, hflows, h⟩ => ⟨hsources, hflows, h⟩, fun ⟨hsources, hflows, h⟩ => ⟨hsources, hflows, h⟩⟩

theorem Disputes.of_sameTables {e₁ : Engine} {b : SourceBinding} {stored : Observation} (hsame : e.SameTables e₁)
    (h : e₁.Disputes obs f b stored) : e.Disputes obs f b stored := by
  obtain ⟨_, _, _, rfl⟩ := hsame
  exact ⟨h.key, h.identities, h.tolerated, h.binding, h.belongs, h.unfolded, h.retained⟩

/-- What an observation touches does not depend on the counters and the journal. -/
theorem Touches.of_sameTables {e₁ : Engine} (hsame : e.SameTables e₁) (h : e₁.Touches obs) : e.Touches obs := by
  have hdisputes : ∀ {f b stored}, e₁.Disputes obs f b stored → e.Disputes obs f b stored :=
    fun h => h.of_sameTables hsame
  obtain ⟨_, _, _, rfl⟩ := hsame
  cases h with
  | registers hsource hroom => exact .registers hsource hroom
  | enters hsource hflow hroom => exact .enters hsource hflow hroom
  | flow f hsource hflow h =>
    refine .flow f hsource hflow ?_
    cases h with
    | collides hkey hstate => exact .collides hkey hstate
    | replaces b stored h hd => exact .replaces b stored (hdisputes h) hd
    | moves b stored h hd hmoves => exact .moves b stored (hdisputes h) hd hmoves

theorem SameTables.symm {e₁ : Engine} (h : e.SameTables e₁) : e₁.SameTables e := by
  obtain ⟨_, _, _, rfl⟩ := h
  exact ⟨_, _, _, rfl⟩

end Engine

/-- **A refusal takes everything back exactly when nothing was touched**: the observation is not valid, the journal
does not take it, or it touches neither the tables nor its flow on its way. -/
theorem refused_untouched_iff (e : Engine) (incoming : Observation) (hc : e.config.validate = .ok ())
    (ho : (e.applyLocked incoming).2.disposition = .Refused) :
    e.Untouched (e.applyLocked incoming).1 ↔
      (validateObservation e.config.limits incoming = .ok () → e.Journals incoming →
        ¬ e.Touches (prepare e.instant incoming)) := by
  have hmax : 0 < e.config.limits.maxSourcesPerFlow.toNat := by
    have hpos := (EngineConfig.limits_valid hc).sourcesPerFlow.1
    exact UInt32.lt_iff_toNat_lt.1 hpos
  cases hv : validateObservation e.config.limits incoming with
  | error err =>
    refine iff_of_true ?_ fun h => nomatch h
    rw [applyLocked_invalid hv]
    exact .of_tables rfl rfl
  | ok _ =>
    by_cases hj : e.Journals incoming
    · obtain ⟨e₁, hsame, happlied⟩ := applyLocked_taken hv hj
      have hinstant : e₁.instant = e.instant ∧ e₁.config = e.config := by
        obtain ⟨_, _, _, rfl⟩ := hsame
        exact ⟨rfl, rfl⟩
      rw [happlied, ← hinstant.1] at ho ⊢
      rw [← Untouched.of_sameTables hsame, applyJournaled_untouched_iff (by rwa [hinstant.2]) (prepare_valid _ hv) ho]
      exact ⟨fun h _ _ htouches => h (htouches.of_sameTables hsame.symm), fun h htouches =>
        h rfl hj (htouches.of_sameTables hsame)⟩
    · have hlive : e.replaying = false := Bool.eq_false_iff.2 fun hr => hj (.inl hr)
      have hsame := sameTables_appendObservation e.received (prepare e.instant incoming)
      refine iff_of_true ?_ fun _ h => absurd h hj
      cases hstatus : (e.received.appendObservation (prepare e.instant incoming)).2 with
      | ok _ => exact absurd (.inr hstatus) hj
      | error err =>
        rw [applyLocked_unjournaled hv hlive hstatus]
        have htables : (e.received.appendObservation (prepare e.instant incoming)).1.sources = e.sources ∧
            (e.received.appendObservation (prepare e.instant incoming)).1.flows = e.flows := by
          obtain ⟨_, _, _, hsame⟩ := hsame
          rw [hsame]
          exact ⟨rfl, rfl⟩
        exact .of_tables htables.1 htables.2

/-- The configuration of an engine with room for one flow, that clamps no instants. -/
def crowdedConfig : EngineConfig := { limits := { maxFlows := 1 }, freshness := { clampFutureTimestamps := false } }

/-- An engine with room for one flow, in which one was opened or closed. -/
def crowdedBy (kind : ObservationKind) : Engine :=
  let a := sampleSource (str "a") { assertsCompletion := true }
  (({ config := crowdedConfig, clock := ⟨1000⟩ } : Engine).openEngine.1.step (.registerSource a)).step
    (.ingest (sampleObservation a.id kind 1 ⟨900⟩))

/-- An observation of another flow, from an hour ahead. -/
def aheadOfTime : Observation := { openingOf (str "g") with observedAt := ⟨3600000000000⟩ }

/-- With an open flow in the table the observation is refused for the table, and nothing is touched. With a closed
one, that flow is given up before the observation is refused for its instant. -/
theorem refused_untouched_iff_crowded :
    (crowdedBy .Open).Untouched ((crowdedBy .Open).applyLocked aheadOfTime).1 ∧
      ¬ (crowdedBy .Close).Untouched ((crowdedBy .Close).applyLocked aheadOfTime).1 := by
  constructor
  · refine (refused_untouched_iff (crowdedBy .Open) aheadOfTime (by with_unfolding_all decide)
      (by with_unfolding_all decide)).2 fun _ _ htouches => ?_
    have hknown : ((crowdedBy .Open).sources.find? (prepare (crowdedBy .Open).instant aheadOfTime).key.source).isSome =
        true := by
      with_unfolding_all decide
    have hfull : (crowdedBy .Open).config.limits.maxFlows.toNat ≤
        (crowdedBy .Open).flows.toList.length := by with_unfolding_all decide
    have hopen : ∀ f ∈ (crowdedBy .Open).flows.toList, isTerminal f.state = false := by with_unfolding_all decide
    have hunknown : (crowdedBy .Open).flows.find? (prepare (crowdedBy .Open).instant aheadOfTime).subject.flow =
        none := by
      with_unfolding_all decide
    rcases htouches with ⟨hsource, -⟩ | ⟨-, -, hroom | ⟨f, hf, hterminal⟩⟩ | ⟨f, -, hflow, -⟩
    · rw [hsource] at hknown
      cases hknown
    · exact Nat.not_lt.2 hfull hroom
    · rw [hopen f hf] at hterminal
      cases hterminal
    · rw [hflow] at hunknown
      cases hunknown
  · obtain ⟨s, hs, hactive⟩ : ∃ s,
  (crowdedBy .Close).sources.find? (prepare (crowdedBy .Close).instant aheadOfTime).key.source = some s ∧
        s.retired = false := Option.map_eq_some_iff.1 (by with_unfolding_all decide)
    have hterminal : ∃ f ∈ (crowdedBy .Close).flows.toList, isTerminal f.state = true := by with_unfolding_all decide
    exact fun h => (refused_untouched_iff (crowdedBy .Close) aheadOfTime (by with_unfolding_all decide)
      (by with_unfolding_all decide)).1 h
      (by with_unfolding_all decide) (.inr (by with_unfolding_all decide))
        (.enters ⟨s, hs, hactive⟩ (by with_unfolding_all decide) (.inr hterminal))

/-- **A refused observation can cost another flow**, which was terminal: the flow is given up, and an empty one takes
its place. -/
theorem refused_can_evict : ¬ ∀ e : Engine, e.Reachable → ∀ o :
    Observation, (e.applyLocked o).2.disposition = .Refused →
    e.Untouched (e.applyLocked o).1 := by
  intro h
  have hopened : ({ config := crowdedConfig, clock := ⟨1000⟩ } : Engine).openEngine.2 = .ok () := by decide
  have hreached : (crowdedBy .Close).Reachable := by
    unfold crowdedBy
    exact .step (.step (.opened crowdedConfig ⟨1000⟩ hopened) _) _
  have huntouched := h (crowdedBy .Close) hreached aheadOfTime (by with_unfolding_all decide)
  have hflows := huntouched.flows sampleFlow
  revert hflows
  with_unfolding_all decide

end Engine

end FlowObs
