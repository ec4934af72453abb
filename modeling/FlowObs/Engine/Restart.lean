import FlowObs.Engine.Reachable
import FlowObs.Engine.Refusal
import FlowObs.Engine.Reread

/-!
# After a restart

What a process restores awaits reconfirmation: until an observation of a generation is accepted, none of its sources
is usable, and recomputing cannot make it `Active` (`recomputeRecord_quiet`). It can leave it `Active`, though:
`Settles` says when it does not, and `restart_quiet` that a run after a restart then never shows the generation as
`Active`.
-/

namespace FlowObs

/-! ## One generation -/

/-- No source of the generation was reconfirmed in this process. -/
def GenerationRuntime.Awaiting (g : GenerationRuntime) : Prop := ∀ b ∈ g.bindings.toList, b.reconfirmed = false

/-- A generation that is not live and that nothing but new evidence can make live. -/
structure GenerationRuntime.Quiet (g : GenerationRuntime) : Prop where
  awaiting : g.Awaiting
  state : g.state ≠ .Active

/-- The evidence takes a generation out of `Active` while none of its sources is usable: an entitled source declared a
terminal state, or expiry is enabled and there is a restored source or the evidence has aged. -/
def Settles (view : GenerationView) (expiry : ExpiryPolicy) (reference : Timestamp) : Prop :=
  (∃ v ∈ view.sources, (honoured v).isSome = true) ∨
    expiry.enabled = true ∧ ((∃ v ∈ view.sources, v.restoredFromJournal = true) ∨
      agedPast reference view.lastObservedAt expiry.expireAfter = true ∨
      agedPast reference view.lastProgressAt expiry.idleAfter = true)

section Generation

variable {config : EngineConfig} {sources : SourceTable} {ctx : FreshnessContext} {replaying : Bool} {limits : Limits}
variable {atTime : Timestamp} {obs : Observation} {f f' : FlowRuntime} {gen : GenerationId} {outcome : IngestOutcome}
variable {flow : FlowId} {current : GenerationId} {g : GenerationRuntime}

theorem mem_sortSourceViews {v : SourceView} {views : List SourceView} : v ∈ sortSourceViews views ↔ v ∈ views :=
  (List.perm_insertionSort _ views).mem_iff

/-- A source of the view of a generation is one of its bindings. -/
theorem mem_generationView {v : SourceView} (h : v ∈ (generationView config sources ctx flow current g).sources) :
    ∃ b ∈ g.bindings.toList, ∃ s, sources.find? b.source = some s ∧
    v = retotal (sourceView config b s.descriptor ctx) := by
  have hv : v ∈ sortSourceViews ((g.bindings.toList.filterMap (bindingView config sources ctx)).map retotal) := h
  obtain ⟨v₀, hv₀, rfl⟩ := List.mem_map.1 (mem_sortSourceViews.1 hv)
  obtain ⟨b, hb, hview⟩ := List.mem_filterMap.1 hv₀
  obtain ⟨s, hs, rfl⟩ := Option.map_eq_some_iff.1 hview
  exact ⟨b, hb, s, hs, rfl⟩

theorem mem_generationView_of (config : EngineConfig) (ctx : FreshnessContext) (flow : FlowId) (current : GenerationId)
    {b : SourceBinding} {s : SourceState} (hb : b ∈ g.bindings.toList)
    (hs : sources.find? b.source = some s) : retotal (sourceView config b s.descriptor ctx)
      ∈ (generationView config sources ctx flow current g).sources := by
  have hv : sourceView config b s.descriptor ctx ∈ g.bindings.toList.filterMap (bindingView config sources ctx) :=
    List.mem_filterMap.2 ⟨b, hb, by rw [bindingView, hs, Option.map_some]⟩
  exact mem_sortSourceViews.2 (List.mem_map.2 ⟨_, hv, rfl⟩)

/-- A generation that awaits reconfirmation has no usable source. -/
theorem usable_of_awaiting (config : EngineConfig) (sources : SourceTable) (ctx : FreshnessContext) (flow : FlowId)
    (current : GenerationId) (h : g.Awaiting) :
    (generationView config sources ctx flow current g).sources.filter sourceIsUsable = [] := by
  refine List.filter_eq_nil_iff.2 (fun v hv => ?_)
  obtain ⟨b, hb, s, -, rfl⟩ := mem_generationView hv
  have hview : (retotal (sourceView config b s.descriptor ctx)).reconfirmed = b.reconfirmed := rfl
  simp [sourceIsUsable, hview, h b hb]

theorem unresolved_of_awaiting (config : EngineConfig) (sources : SourceTable) (ctx : FreshnessContext) (flow : FlowId)
    (current : GenerationId) (h : g.Awaiting) :
    (generationView config sources ctx flow current g).unresolvedConflict = false := by
  have husable := usable_of_awaiting config sources ctx flow current h
  show (consistencyOf config.reconciliation
    ((generationView config sources ctx flow current g).sources.filter sourceIsUsable)).2.1 = false
  rw [husable]
  rfl

theorem honour_cases (previous : FlowState) (v : SourceView) :
    honour previous v = none ∧ honoured v = none ∨
      ∃ d, honour previous v = some d ∧ d.state ≠ .Active ∧ (honoured v).isSome = true := by
  have hstates : honoured v = none ∨ honoured v = some .Completed ∨ honoured v = some .Reset := by
    unfold honoured
    split
    · exact .inl rfl
    · split
      · split
        · exact .inr (.inl rfl)
        · exact .inl rfl
      · split
        · exact .inr (.inr rfl)
        · exact .inl rfl
      · exact .inl rfl
  rcases hstates with h | h | h
  · exact .inl ⟨by rw [honour, h], h⟩
  · exact .inr ⟨_, by rw [honour, h], by simp [finish], by rw [h]; rfl⟩
  · exact .inr ⟨_, by rw [honour, h], by simp [finish], by rw [h]; rfl⟩

/-- Without a usable source a generation is left `Active` exactly when expiry does not take it out of it. -/
theorem decideUnusable_active (view : GenerationView) (previous : FlowState) (expiry : ExpiryPolicy)
    (reference : Timestamp) : (decideUnusable view previous expiry reference).state = .Active ↔
      previous = .Active ∧ ¬ (expiry.enabled = true ∧ ((∃ v ∈ view.sources, v.restoredFromJournal = true) ∨
        agedPast reference view.lastObservedAt expiry.expireAfter = true ∨
        agedPast reference view.lastProgressAt expiry.idleAfter = true)) := by
  have hany : (view.sources.any (·.restoredFromJournal)) = true ↔ ∃ v ∈ view.sources, v.restoredFromJournal = true :=
    List.any_eq_true
  unfold decideUnusable
  cases henabled : expiry.enabled with
  | false =>
    simp only [Bool.and_false, Bool.false_eq_true, Bool.false_and, if_false, false_and, not_false_iff, and_true]
    split
    · rename_i hprevious
      simp [finish, hprevious]
    · rfl
  | true =>
    simp only [Bool.and_true, Bool.true_and, true_and, ← hany]
    split
    · rename_i hrestored
      split <;> simp [finish, hrestored]
    · rename_i hrestored
      split
      · rename_i haged
        simp [finish, haged]
      · rename_i haged
        split
        · rename_i hidle
          simp [finish, (Bool.and_eq_true _ _ ▸ hidle).2]
        · rename_i hidle
          split
          · rename_i hprevious
            simp [finish, hprevious]
          · have hprevious : previous = .Active → agedPast reference view.lastProgressAt expiry.idleAfter = false := by
              rintro rfl
              simpa using hidle
            constructor
            · intro hactive
              have hactive : previous = .Active := hactive
              exact ⟨hactive, by simp [hrestored, haged, hprevious hactive]⟩
            · exact fun h => h.1

/-- **A generation that awaits reconfirmation is left `Active` exactly when it was `Active` and nothing settles it.** -/
theorem decisionFor_active (h : g.Awaiting) : (decisionFor config sources ctx flow current g).state = .Active ↔
    g.state = .Active ∧ ¬ Settles (generationView config sources ctx flow current g) config.expiry ctx.now := by
  have hunresolved := unresolved_of_awaiting config sources ctx flow current h
  have husable := usable_of_awaiting config sources ctx flow current h
  unfold decisionFor decideGenerationState
  split
  · rename_i hterminal
    have hnot : g.state ≠ .Active := fun hactive => by rw [hactive] at hterminal; cases hterminal
    exact ⟨fun hactive => absurd hactive hnot, fun hactive => absurd hactive.1 hnot⟩
  · rw [hunresolved, if_neg (by decide)]
    generalize generationView config sources ctx flow current g = view at husable
    cases hfind : view.sources.findSome? (honour g.state) with
    | some d =>
      obtain ⟨v, hv, hd⟩ := List.exists_of_findSome?_eq_some hfind
      rcases honour_cases g.state v with ⟨hnone, -⟩ | ⟨d', hd', hstate, hsome⟩
      · rw [hnone] at hd
        cases hd
      · rw [hd'] at hd
        cases hd
        exact ⟨fun hactive => absurd hactive hstate, fun hactive => absurd (.inl ⟨v, hv, hsome⟩) hactive.2⟩
    | none =>
      have hhonoured : ¬ ∃ v ∈ view.sources, (honoured v).isSome = true := by
        rintro ⟨v, hv, hsome⟩
        have hnone := List.findSome?_eq_none_iff.1 hfind v hv
        rcases honour_cases g.state v with ⟨-, hnone'⟩ | ⟨d', hd', -, -⟩
        · rw [hnone'] at hsome
          cases hsome
        · rw [hd'] at hnone
          cases hnone
      simp only [husable, List.isEmpty_nil, if_true]
      rw [decideUnusable_active]
      unfold Settles
      simp only [hhonoured, false_or]

theorem recomputeRecord_state : (recomputeRecord config sources ctx flow current atTime g).state
    = (decisionFor config sources ctx flow current g).state := by
  simp only [recomputeRecord]
  split
  · rfl
  · rename_i hchanges
    have hstate : ¬ (decisionFor config sources ctx flow current g).state ≠ g.state := fun hne => hchanges (by
      simp [StateDecision.changes, hne])
    exact (not_not.1 hstate).symm

/-- A binding whose fold was cached shows what it showed. -/
theorem bindingView_refreshed (b : SourceBinding) :
    bindingView config sources ctx (refreshBinding config sources ctx b) = bindingView config sources ctx b := by
  unfold bindingView
  rw [refreshBinding_source]
  unfold refreshBinding
  cases hs : sources.find? b.source with
  | none => rfl
  | some s => rfl

/-- The views of the sources of a generation are the same after it was recomputed. -/
theorem views_recomputed : (recomputeRecord config sources ctx flow current atTime g).bindings.toList.filterMap
    (bindingView config sources ctx) = g.bindings.toList.filterMap (bindingView config sources ctx) := by
  rw [recomputeRecord_bindings, SortedVec.toList_map, List.filterMap_map]
  congr 1
  funext b
  exact bindingView_refreshed b

/-- What settles a generation still does so after it was recomputed. -/
theorem settles_recomputed (current' : GenerationId) :
    Settles (generationView config sources ctx flow current' (recomputeRecord config sources ctx flow current atTime g))
      config.expiry ctx.now ↔ Settles (generationView config sources ctx flow current g) config.expiry ctx.now := by
  unfold Settles generationView evidenceView
  rw [views_recomputed]
  rfl

theorem refreshBinding_marks (config : EngineConfig) (sources : SourceTable) (ctx : FreshnessContext)
    (b : SourceBinding) :
    (refreshBinding config sources ctx b).reconfirmed = b.reconfirmed ∧
    (refreshBinding config sources ctx b).restored = b.restored := by
  unfold refreshBinding
  split <;> exact ⟨rfl, rfl⟩

theorem awaiting_recomputeRecord (config : EngineConfig) (sources : SourceTable) (ctx : FreshnessContext)
    (flow : FlowId)
    (current : GenerationId) (atTime : Timestamp) (h : g.Awaiting) :
    (recomputeRecord config sources ctx flow current atTime g).Awaiting := by
  intro b hb
  rw [recomputeRecord_bindings, SortedVec.toList_map] at hb
  obtain ⟨b₀, hb₀, rfl⟩ := List.mem_map.1 hb
  exact (refreshBinding_marks config sources ctx b₀).1.trans (h b₀ hb₀)

/-- **Recomputing does not make a quiet generation live.** -/
theorem recomputeRecord_quiet (h : g.Quiet) : (recomputeRecord config sources ctx flow current atTime g).Quiet where
  awaiting := awaiting_recomputeRecord _ _ _ _ _ _ h.awaiting
  state hactive := by
    rw [recomputeRecord_state] at hactive
    exact h.state ((decisionFor_active h.awaiting).1 hactive).1

/-- Recomputing once more on the same evidence decides the same. -/
theorem recomputed_twice_active (h : g.Awaiting) (current' : GenerationId) :
    (recomputeRecord config sources ctx flow current' atTime
      (recomputeRecord config sources ctx flow current atTime g)).state = .Active ↔
    (recomputeRecord config sources ctx flow current atTime g).state = .Active := by
  have hrecomputed := awaiting_recomputeRecord config sources ctx flow current atTime h
  rw [recomputeRecord_state, decisionFor_active hrecomputed, settles_recomputed]
  constructor
  · exact fun hactive => hactive.1
  · intro hactive
    have hdecision := hactive
    rw [recomputeRecord_state, decisionFor_active h] at hdecision
    exact ⟨hactive, hdecision.2⟩

/-! ## The generations of a flow -/

/-- **What an observation does to one generation of its flow**: a property that a generation has when it is entered
first, that being touched and recomputed keep, and that the answer of its ledger keeps, is kept. -/
theorem FlowApplied.generation {R : GenerationRuntime → Prop}
    (h : FlowApplied config sources ctx replaying atTime obs f f' outcome)
    (hf : ∀ g, f.generations.find? gen = some g → R g)
    (hfresh : R { id := gen, lastTouched := atTime })
    (htouch : ∀ g, R g → R { g with lastTouched := atTime })
    (hinsert : ∀ g, g.id = gen → obs.subject.generation = gen →
      outcome.disposition = ((obtainBinding config.limits replaying g obs.key.source ⟨f.id, g.id⟩).ledger.insert
        (clampedObservation config.limits obs)).2.kind.disposition → R g →
      R (insertGeneration config.limits replaying f.id (clampedObservation config.limits obs) g))
    (hrecompute : ∀ current g, R g → R (recomputeRecord config sources ctx f.id current atTime g)) :
    ∀ g, f'.generations.find? gen = some g → R g := by
  have hobtain : ∀ f₀ : FlowRuntime, (∀ g, f₀.generations.find? gen = some g → R g) →
      R (obtainGeneration f₀ gen atTime) := by
    intro f₀ h₀
    unfold obtainGeneration
    cases hg : f₀.generations.find? gen with
    | none => exact hfresh
    | some g => exact h₀ g hg
  have henter : ∀ room, Roomed config.limits f obs.subject.generation room → ∀ g,
      (room.enter obs.subject.generation atTime).generations.find? gen = some g → R g := by
    intro room hroom g hg
    have hroomed : ∀ g, room.generations.find? gen = some g → R g := by
      intro g hg
      rcases hroom.find?.2 gen with hsame | hnone
      · exact hf g (hsame ▸ hg)
      · rw [hnone] at hg
        cases hg
    rw [find?_enter] at hg
    split at hg
    · rename_i hgen
      cases hg
      rw [hgen]
      exact hobtain room hroomed
    · exact hroomed g hg
  have hinserted : ∀ room, Roomed config.limits f obs.subject.generation room →
      outcome.disposition = (insertEvidence config.limits replaying atTime (clampedObservation config.limits obs)
        (room.enter obs.subject.generation atTime)).2.kind.disposition → ∀ g,
      (insertEvidence config.limits replaying atTime (clampedObservation config.limits obs)
        (room.enter obs.subject.generation atTime)).1.generations.find? gen = some g → R g := by
    intro room hroom ho g hg
    rw [find?_insertEvidence, clampedObservation_subject] at hg
    split at hg
    · rename_i hgen
      cases hg
      have hentered := hobtain _ (henter room hroom)
      rw [hgen] at hentered ho ⊢
      have hid : (room.enter gen atTime).id = f.id := hroom.same.1
      rw [hid]
      refine hinsert _ (obtainGeneration_id ..) hgen ?_ hentered
      simp only [insertEvidence, clampedObservation_subject, clampedObservation_key, hgen, hid] at ho
      rw [ho, SourceBinding.take_result]
    · exact henter room hroom g hg
  cases h with
  | collided _ hn _ => exact fun g hg => hf g (hn.generations_eq ▸ hg)
  | stopped _ hn _ => exact fun g hg => hf g (hn.generations_eq ▸ hg)
  | noSourceRoom room _ hroom _ hn _ => exact fun g hg => henter room hroom g (hn.generations_eq ▸ hg)
  | ledgerRefused room _ hroom _ hr hn ho =>
    exact fun g hg => hinserted room hroom (by rw [ho, hr]; rfl) g (hn.generations_eq ▸ hg)
  | recomputed room settled _ hroom _ _ _ hn ho =>
    intro g hg
    have hsettled : ∀ g, settled.generations.find? gen = some g → R g := by
      intro g hg
      rw [hn.generations_eq, revise_generations] at hg
      exact hinserted room hroom ho g hg
    have hid : settled.id = f.id := by
      obtain ⟨_, _, _, rfl⟩ := hn
      have hrevised : ∀ (f₀ : FlowRuntime) kind, (f₀.revise kind).id = f₀.id := by
        intro f₀ kind
        unfold FlowRuntime.revise
        split <;> rfl
      exact (hrevised _ _).trans hroom.same.1
    rw [recomputeFlow_generations, find?_recomputed] at hg
    obtain ⟨g₀, hg₀, rfl⟩ := Option.map_eq_some_iff.1 hg
    have htouched : R g₀ := by
      rw [find?_touch] at hg₀
      split at hg₀
      · rename_i hgen
        cases hg₀
        rw [hgen]
        exact htouch _ (hobtain _ hsettled)
      · exact hsettled g₀ hg₀
    have hrecomputed := hrecompute (settled.touch obs.subject.generation atTime).currentGeneration g₀ htouched
    rwa [← hid] at hrecomputed

theorem SourceBinding.take_marks (b : SourceBinding) (replaying : Bool) (obs : Observation) :
    (b.take replaying obs).1.restored = b.restored ∧ ((b.take replaying obs).1.reconfirmed = b.reconfirmed ∨
      (b.ledger.insert obs).2.kind = .Accepted ∧
      (b.take replaying obs).1.reconfirmed = (b.reconfirmed || !replaying)) := by
  unfold SourceBinding.take
  cases hr : (b.ledger.insert obs).2.kind with
  | Accepted => simp [hr]
  | _ => simp [hr]

theorem insertGeneration_bindings {b : SourceBinding} (limits : Limits) (replaying : Bool) (flow : FlowId)
    (obs : Observation) (g : GenerationRuntime)
    (hb : b ∈ (insertGeneration limits replaying flow obs g).bindings.toList) :
    b = ((obtainBinding limits replaying g obs.key.source ⟨flow, g.id⟩).take replaying obs).1 ∨
    b ∈ g.bindings.toList := by
  rcases SortedVec.mem_set.1 hb with rfl | ⟨hb, -⟩
  · exact .inl rfl
  · exact .inr hb

/-- Evidence that is not accepted leaves a quiet generation quiet: only a source that is already in it can answer so. -/
theorem quiet_insertGeneration (h : g.Quiet) (hv : obs.valid = true) (hflow : obs.subject.flow = flow)
    (hgen : obs.subject.generation = g.id)
    (hkind : ((obtainBinding limits replaying g obs.key.source ⟨flow, g.id⟩).ledger.insert obs).2.kind ≠ .Accepted) :
    (insertGeneration limits replaying flow obs g).Quiet where
  awaiting := by
    intro b hb
    rcases insertGeneration_bindings limits replaying flow obs g hb with rfl | hb
    · rcases (SourceBinding.take_marks (obtainBinding limits replaying g obs.key.source ⟨flow, g.id⟩)
        replaying obs).2 with
        hsame | ⟨haccepted, -⟩
      · rw [hsame]
        cases hfind : g.bindings.find? obs.key.source with
        | some b₀ =>
          rw [obtainBinding, hfind, Option.getD_some]
          exact h.awaiting b₀ (SortedVec.find?_mem hfind)
        | none =>
          have hfresh : obtainBinding limits replaying g obs.key.source ⟨flow, g.id⟩
              = freshBinding limits replaying obs.key.source ⟨obs.subject.flow, obs.subject.generation⟩ := by
            rw [obtainBinding, hfind, hflow, hgen]
            rfl
          rw [hfresh] at hkind
          exact absurd (freshBinding_insert hv) hkind
      · exact absurd haccepted hkind
    · exact h.awaiting b hb
  state := h.state

/-- **An observation that is not accepted for a generation leaves it quiet.** -/
theorem FlowApplied.quiet (h : FlowApplied config sources ctx replaying atTime obs f f' outcome) (hv : obs.valid = true)
    (hid : f.id = obs.subject.flow) (hnot : obs.subject.generation = gen → outcome.disposition ≠ .Applied)
    (hf : ∀ g, f.generations.find? gen = some g → g.Quiet) : ∀ g, f'.generations.find? gen = some g → g.Quiet := by
  refine h.generation hf ⟨fun b hb => (nomatch hb), fun h => nomatch h⟩ (fun g hg => ⟨hg.awaiting, hg.state⟩) ?_
    (fun current g hg => recomputeRecord_quiet hg)
  intro g hgid hgen ho hg
  refine quiet_insertGeneration hg (by rwa [clampedObservation_valid]) (by rw [clampedObservation_subject, hid])
    (by rw [clampedObservation_subject, hgen, hgid]) ?_
  intro haccepted
  rw [clampedObservation_key] at haccepted
  rw [haccepted] at ho
  exact hnot hgen ho

end Generation

namespace Engine

/-! ## Runs after a restart -/

/-- The generation is quiet if the engine has it. -/
def QuietAt (e : Engine) (flow : FlowId) (gen : GenerationId) : Prop :=
  e.EachFlow (fun f => f.id = flow → ∀ g, f.generations.find? gen = some g → g.Quiet)

/-- The observation is not accepted for the generation. -/
def NotAccepted (flow : FlowId) (gen : GenerationId) (e : Engine) (obs : Observation) : Prop :=
  (prepare e.instant obs).subject.flow = flow → obs.subject.generation = gen →
    (e.applyLocked obs).2.disposition ≠ .Applied

section Runs

variable {flow : FlowId} {gen : GenerationId}

theorem quietAt_applyLocked (e : Engine) (obs : Observation) (h : e.QuietAt flow gen)
    (hnot : NotAccepted flow gen e obs) :
    (e.applyLocked obs).1.QuietAt flow gen := by
  refine eachFlow_applyLocked h obs (fun f f' hid hv _ happ hf hflow => ?_) (fun _ g hg => nomatch hg)
  have hflow : f.id = flow := happ.kept.id.symm.trans hflow
  have hnot' : (prepare e.instant obs).subject.generation = gen → (e.applyLocked obs).2.disposition ≠ .Applied :=
    fun hgen => hnot (hid.symm.trans hflow) hgen
  exact happ.quiet (prepare_valid _ hv) hid hnot' (hf hflow)

theorem quietAt_recomputeAll (e : Engine) (atTime : Timestamp) (due : FlowRuntime → Bool) (h : e.QuietAt flow gen) :
    (e.recomputeAll atTime due).QuietAt flow gen := by
  refine eachFlow_recomputeAll h due (fun sources ctx f hf hid g hg => ?_)
  rw [recomputeFlow_id] at hid
  rw [recomputeFlow_generations, find?_recomputed] at hg
  obtain ⟨g₀, hg₀, rfl⟩ := Option.map_eq_some_iff.1 hg
  exact recomputeRecord_quiet (hf hid g₀ hg₀)

theorem quietAt_dropped (e : Engine) (s : SourceState) (id : SourceId) (h : e.QuietAt flow gen) :
    (e.dropped s id).QuietAt flow gen := by
  intro flow' f hf hid g hg
  rw [find?_dropped] at hf
  obtain ⟨f₀, hf₀, rfl⟩ := Option.map_eq_some_iff.1 hf
  obtain ⟨g₀, hg₀, rfl⟩ := Option.map_eq_some_iff.1
    ((SortedVec.find?_map f₀.generations (dropBinding id) (dropBinding_id id) gen).symm.trans hg)
  have hquiet := h flow' f₀ hf₀ hid g₀ hg₀
  exact ⟨fun b hb => hquiet.awaiting b (SortedVec.mem_erase.1 hb).1, hquiet.state⟩

theorem QuietAt.of_flows {e e' : Engine} (h : e.QuietAt flow gen) (hf : e'.flows = e.flows) : e'.QuietAt flow gen := by
  intro id f hid
  rw [hf] at hid
  exact h id f hid

/-- **No operation makes a quiet generation live, as long as it applies no observation that is accepted for it.** -/
theorem quietAt_step (e : Engine) (op : Op) (h : e.QuietAt flow gen)
    (hcond : ∀ p ∈ e.applications op, NotAccepted flow gen p.1 p.2) : (e.step op).QuietAt flow gen := by
  refine step_rule (P := (·.QuietAt flow gen)) quietAt_applyLocked quietAt_recomputeAll
    (fun e s id _ h => quietAt_dropped e s id h) (fun e _ s _ h => ?_) (fun e _ s _ (_ : True) h => ?_)
    (fun e e' hsame h => h.of_flows hsame.flows) h hcond (fun _ _ => trivial)
  · exact h.of_flows rfl
  · exact h.of_flows rfl

theorem QuietAt.generation {e : Engine} (h : e.QuietAt flow gen) {g : GenerationRuntime}
    (hg : e.generation? flow gen = some g) : g.Quiet := by
  obtain ⟨f, hf, hg⟩ := Option.bind_eq_some_iff.1 hg
  exact h flow f hf (SortedVec.find?_key hf) g hg

end Runs

/-! ## Recovery -/

/-- `restore_locked` up to where every flow is settled: what it read and the state it replayed. -/
def replayed (e : Engine) (records : List Record) (previousEpoch : RuntimeEpoch) : Option (ReplayResult × Engine) :=
  match replayRecords records e.config.limits e.config.recovery with
  | .error _ => none
  | .ok result =>
    let e := { e with snapshotSequence := result.state.snapshotSequence }
    match (e.restoreSources result.state.sources).restoreFlows previousEpoch result.state.flows with
    | (_, .error _) => none
    | (e, .ok ()) => some (result, e.replayAll previousEpoch result.observations)

/-- What `open` reads from the journal and the state it replays from it, when it restores anything. -/
def recovered (e : Engine) : Option (ReplayResult × Engine) :=
  if e.config.journalPath.isEmpty then none
  else match Journal.openFile e.config.journalPath e.disk
      { limits := e.config.limits, recovery := e.config.recovery } with
    | .error _ => none
    | .ok j =>
      let previous := j.header.runtimeEpoch
      let epoch : RuntimeEpoch := ⟨previous.value + 1⟩
      match (j.setEpoch epoch e.now).readAll with
      | (_, .error _) => none
      | (j, .ok records) =>
        if e.config.restoreOnOpen && !records.isEmpty then
          { e with openedAt := e.now, journal := some j, epoch := epoch }.replayed records previous
        else none

/-- A process that has not opened its journal yet. -/
def started (config : EngineConfig) (clock : Timestamp) (disk : Option (List UInt8)) : Engine :=
  { config := config, clock := clock, disk := disk }

theorem restoreLocked_replayed {e : Engine} {records : List Record} {previous : RuntimeEpoch}
    (h : (e.restoreLocked records previous).2 = .ok ()) : ∃ result r, e.replayed records previous = some (result, r) ∧
      (e.restoreLocked records previous).1 = r.recomputeAll r.now (fun _ => true) := by
  cases hread : replayRecords records e.config.limits e.config.recovery with
  | error err =>
    simp only [restoreLocked, hread] at h
    cases h
  | ok result =>
    simp only [restoreLocked, replayed, hread] at h ⊢
    split at h
    · cases h
    · rename_i hdigest
      rw [if_neg hdigest]
      rcases hr : (({ e with snapshotSequence := result.state.snapshotSequence } : Engine).restoreSources
        result.state.sources).restoreFlows previous result.state.flows with ⟨e₁, err | ok⟩
      · rw [hr] at h
        cases h
      · exact ⟨result, e₁.replayAll previous result.observations, rfl, rfl⟩

/-- What opening the journal leaves: no flow, or those that were replayed, settled at the current instant. -/
theorem openJournalLocked_recovered {e : Engine} (hflows : e.flows = ∅) (hclosed : e.journal = none)
    (h : e.openJournalLocked.2 = .ok ()) :
    e.recovered = none ∧ e.openJournalLocked.1.flows = ∅ ∨ ∃ result r journal, e.recovered = some (result, r) ∧
      e.openJournalLocked.1 = { r.recomputeAll r.now (fun _ => true) with journal := journal } := by
  by_cases hpath : e.config.journalPath.isEmpty = true
  · left
    simp only [openJournalLocked, recovered, hpath, if_true]
    exact ⟨trivial, hflows⟩
  · cases hfile : Journal.openFile e.config.journalPath e.disk
        { limits := e.config.limits, recovery := e.config.recovery } with
    | error err =>
      simp only [openJournalLocked, hpath, hclosed, journalFile_none, hfile] at h
      cases h
    | ok j =>
      rcases hread : (j.setEpoch ⟨j.header.runtimeEpoch.value + 1⟩ e.now).readAll with ⟨j', err | records⟩
      · simp only [openJournalLocked, hpath, hclosed, journalFile_none, replaceJournal_none, hfile] at h
        simp [hread] at h
      · simp only [openJournalLocked, recovered, hpath, hclosed, journalFile_none, replaceJournal_none, hfile, hread,
          Option.any_none, Bool.false_eq_true, if_false] at h ⊢
        by_cases hrestore : (e.config.restoreOnOpen && !records.isEmpty) = true
        · right
          simp only [hrestore, if_true] at h ⊢
          generalize ({ e with openedAt := e.now, journal := some j',
                               epoch := ⟨j.header.runtimeEpoch.value + 1⟩ } : Engine) = read at h ⊢
          rcases hr : read.restoreLocked records j.header.runtimeEpoch with ⟨e₁, err | ok⟩
          · rw [hr] at h
            cases h
          · obtain ⟨result, r, hreplayed, he⟩ := restoreLocked_replayed (congrArg Prod.snd hr)
            rw [hr] at he
            exact ⟨result, r, _, hreplayed, by rw [← he]⟩
        · left
          simp only [hrestore, Bool.false_eq_true, if_false]
          exact ⟨trivial, hflows⟩

/-- **The flows after an opening**: none, or those that were replayed, settled and ticked at the current instant. -/
theorem openEngine_recovered {config : EngineConfig} {clock : Timestamp} {disk : Option (List UInt8)}
    (h : (started config clock disk).openEngine.2 = .ok ()) :
    (started config clock disk).recovered = none ∧ (started config clock disk).openEngine.1.flows = ∅ ∨
      ∃ result r, (started config clock disk).recovered = some (result, r) ∧
        (started config clock disk).openEngine.1.flows
          = ((r.recomputeAll r.now (fun _ => true)).tickLocked r.now).flows := by
  have hvalid := validate_of_open h
  have hclosed : (started config clock disk).isOpen = false := rfl
  simp only [openEngine, hvalid, hclosed, Bool.false_eq_true, if_false] at h ⊢
  rcases hj : (started config clock disk).openJournalLocked with ⟨e₁, err | ok⟩
  · rw [hj] at h
    cases h
  · rcases openJournalLocked_recovered (e := started config clock disk) rfl rfl (by rw [hj]) with
      ⟨hnone, hflows⟩ | ⟨result, r, journal, hsome, he⟩
    · rw [hj] at hflows
      refine .inl ⟨hnone, ?_⟩
      have hopened : ({ e₁ with frozen := false, isOpen := true } : Engine).flows = ∅ := hflows
      exact tickLocked_empty hopened _
    · rw [hj] at he
      refine .inr ⟨result, r, hsome, ?_⟩
      have he : e₁ = { r.recomputeAll r.now (fun _ => true) with journal := journal } := he
      rw [he]
      rfl

end Engine

/-! ## What is replayed -/

/-- Every restored record of the generation that is `Active` has a source, and expiry is enabled. -/
def ReplayResult.Backed (result : ReplayResult) (config : EngineConfig) (flow : FlowId) (gen : GenerationId) : Prop :=
  ∀ p ∈ result.state.flows, p.id = flow → ∀ pg ∈ restoredGenerations config.limits p, pg.generation = gen →
    pg.state = .Active → config.expiry.enabled = true ∧ restoredSources config.limits pg ≠ []

/-- A generation while it is replayed: its bindings are restored ones of registered sources, and under `cond` it is
`Active` only with a binding and with expiry enabled. -/
structure GenerationRuntime.Replayed (cond : Prop) (expiry : ExpiryPolicy) (sources : SourceTable)
    (g : GenerationRuntime) :
    Prop where
  marks : ∀ b ∈ g.bindings.toList, b.restored = true ∧ b.reconfirmed = false
  registered : ∀ b ∈ g.bindings.toList, (sources.find? b.source).isSome = true
  held : cond → g.state = .Active → expiry.enabled = true ∧ g.bindings.toList ≠ []

section Replay

variable {cond : Prop} {expiry : ExpiryPolicy} {config : EngineConfig} {sources sources' : SourceTable}
variable {ctx : FreshnessContext} {limits : Limits} {atTime : Timestamp} {obs : Observation} {f f' : FlowRuntime}
variable {flow : FlowId} {gen current : GenerationId} {outcome : IngestOutcome} {g : GenerationRuntime}

theorem GenerationRuntime.Replayed.awaiting (h : g.Replayed cond expiry sources) : g.Awaiting :=
  fun b hb => (h.marks b hb).2

theorem GenerationRuntime.Replayed.mono (h : g.Replayed cond expiry sources)
    (hkeeps : ∀ id, (sources.find? id).isSome = true → (sources'.find? id).isSome = true) :
    g.Replayed cond expiry sources' :=
  ⟨h.marks, fun b hb => hkeeps _ (h.registered b hb), h.held⟩

theorem replayed_recomputeRecord (h : g.Replayed cond expiry sources) :
    (recomputeRecord config sources' ctx flow current atTime g).Replayed cond expiry sources := by
  have hmem : ∀ b ∈ (recomputeRecord config sources' ctx flow current atTime g).bindings.toList,
      ∃ b₀ ∈ g.bindings.toList, b = refreshBinding config sources' ctx b₀ := by
    intro b hb
    rw [recomputeRecord_bindings, SortedVec.toList_map] at hb
    obtain ⟨b₀, hb₀, rfl⟩ := List.mem_map.1 hb
    exact ⟨b₀, hb₀, rfl⟩
  refine ⟨fun b hb => ?_, fun b hb => ?_, fun hc hactive => ?_⟩
  · obtain ⟨b₀, hb₀, rfl⟩ := hmem b hb
    obtain ⟨hreconfirmed, hrestored⟩ := refreshBinding_marks config sources' ctx b₀
    rw [hreconfirmed, hrestored]
    exact h.marks b₀ hb₀
  · obtain ⟨b₀, hb₀, rfl⟩ := hmem b hb
    rw [refreshBinding_source]
    exact h.registered b₀ hb₀
  · rw [recomputeRecord_state] at hactive
    obtain ⟨henabled, hne⟩ := h.held hc ((decisionFor_active h.awaiting).1 hactive).1
    refine ⟨henabled, ?_⟩
    rw [recomputeRecord_bindings, SortedVec.toList_map]
    simpa using hne

theorem replayed_insertGeneration (h : g.Replayed cond expiry sources)
    (hs : (sources.find? obs.key.source).isSome = true) :
    (insertGeneration limits true flow obs g).Replayed cond expiry sources := by
  have hfound : ∀ b₀, g.bindings.find? obs.key.source = some b₀ →
      b₀ ∈ g.bindings.toList := fun b₀ => SortedVec.find?_mem
  refine ⟨fun b hb => ?_, fun b hb => ?_, fun hc hactive => ⟨(h.held hc hactive).1, ?_⟩⟩
  · rcases insertGeneration_bindings limits true flow obs g hb with rfl | hb
    · obtain ⟨hrestored, hreconfirmed⟩ :=
        SourceBinding.take_marks (obtainBinding limits true g obs.key.source ⟨flow, g.id⟩) true obs
      have hmarks : (obtainBinding limits true g obs.key.source ⟨flow, g.id⟩).restored = true ∧
          (obtainBinding limits true g obs.key.source ⟨flow, g.id⟩).reconfirmed = false := by
        unfold obtainBinding
        cases hfind : g.bindings.find? obs.key.source with
        | some b₀ => exact h.marks b₀ (hfound b₀ hfind)
        | none => exact ⟨rfl, rfl⟩
      refine ⟨hrestored.trans hmarks.1, ?_⟩
      rcases hreconfirmed with hsame | ⟨-, hsame⟩
      · exact hsame.trans hmarks.2
      · rw [hsame, hmarks.2]
        rfl
    · exact h.marks b hb
  · rcases insertGeneration_bindings limits true flow obs g hb with rfl | hb
    · rw [SourceBinding.take_source]
      unfold obtainBinding
      cases hfind : g.bindings.find? obs.key.source with
      | some b₀ => exact h.registered b₀ (hfound b₀ hfind)
      | none => exact hs
    · exact h.registered b hb
  · exact List.ne_nil_of_mem (SortedVec.mem_set_self _ _)

/-- **A replayed observation keeps what holds while a generation is replayed.** -/
theorem FlowApplied.replayed (h : FlowApplied config sources' ctx true atTime obs f f' outcome)
    (hs : (sources.find? obs.key.source).isSome = true)
    (hf : ∀ g, f.generations.find? gen = some g → g.Replayed cond expiry sources) :
    ∀ g, f'.generations.find? gen = some g → g.Replayed cond expiry sources := by
  refine h.generation hf ⟨fun b hb => (nomatch hb), fun b hb => (nomatch hb), fun _ h => (nomatch h)⟩
    (fun g hg => ⟨hg.marks, hg.registered, hg.held⟩) (fun g _ _ _ hg => ?_)
    (fun current g hg => replayed_recomputeRecord hg)
  exact replayed_insertGeneration hg (by rwa [clampedObservation_key])

theorem replayed_restoreFlow {previous : RuntimeEpoch} {p : PersistedFlow}
    (hg : (restoreFlow limits previous p).generations.find? gen = some g)
    (hnamed : ∀ s ∈ (restoredGenerations limits p).flatMap (restoredSources limits),
      (sources.find? s.source).isSome = true)
    (hbacked : cond → ∀ pg ∈ restoredGenerations limits p, pg.generation = gen → pg.state = .Active →
      expiry.enabled = true ∧ restoredSources limits pg ≠ []) : g.Replayed cond expiry sources := by
  obtain ⟨pg, hpg, hgen, rfl⟩ := find?_restoreFlow_some hg
  refine ⟨fun b hb => ?_, fun b hb => ?_, fun hc hactive => ?_⟩
  · obtain ⟨s, -, rfl⟩ := mem_restoreGeneration hb
    exact ⟨rfl, rfl⟩
  · obtain ⟨s, hs, rfl⟩ := mem_restoreGeneration hb
    exact hnamed s (List.mem_flatMap.2 ⟨pg, hpg, hs⟩)
  · obtain ⟨henabled, hne⟩ := hbacked hc pg hpg hgen hactive
    exact ⟨henabled, SortedVec.foldl_set_ne_nil _ hne _⟩

end Replay

namespace Engine

section Recovery

variable {cond : Prop} {flow : FlowId} {gen : GenerationId}

/-- What holds of a generation while the engine replays it. -/
def ReplayedAt (cond : Prop) (flow : FlowId) (gen : GenerationId) (e : Engine) : Prop :=
  e.EachFlow (fun f => f.id = flow → ∀ g, f.generations.find? gen = some g →
    g.Replayed cond e.config.expiry e.sources)

theorem replayedAt_restoreFlows (previous : RuntimeEpoch) {ps : List PersistedFlow} {e : Engine}
    (h : e.ReplayedAt cond flow gen)
    (hbacked : cond → ∀ p ∈ ps, p.id = flow → ∀ pg ∈ restoredGenerations e.config.limits p, pg.generation = gen →
      pg.state = .Active → e.config.expiry.enabled = true ∧ restoredSources e.config.limits pg ≠ []) :
    (e.restoreFlows previous ps).1.ReplayedAt cond flow gen ∧ (e.restoreFlows previous ps).1.config = e.config := by
  induction ps generalizing e with
  | nil => exact ⟨h, rfl⟩
  | cons p ps ih =>
    obtain ⟨hkeeps, hnamed⟩ := restoreDescriptors_registers e.openedAt
      ((restoredGenerations e.config.limits p).flatMap (restoredSources e.config.limits)) e.sources
    have hregistered : ({ e with sources := ((restoredGenerations e.config.limits p).flatMap
        (restoredSources e.config.limits)).foldl (restoreDescriptor e.openedAt) e.sources } : Engine).ReplayedAt
          cond flow gen := fun id f hf hid g hg => (h id f hf hid g hg).mono fun id hid => by rwa [hkeeps id hid]
    simp only [restoreFlows]
    split
    · exact ⟨hregistered, rfl⟩
    · refine ih ?_ (fun hc p' hp' => hbacked hc p' (List.mem_cons_of_mem _ hp'))
      split
      · exact hregistered
      · refine EachFlow.set hregistered rfl (fun hid g hg => ?_)
        exact replayed_restoreFlow hg hnamed (fun hc => hbacked hc p List.mem_cons_self hid)

theorem replayedAt_replayAll (previous : RuntimeEpoch) (observations : List Observation) {e : Engine}
    (h : e.ReplayedAt cond flow gen) : (e.replayAll previous observations).ReplayedAt cond flow gen ∧
      (e.replayAll previous observations).config = e.config := by
  have hone : ∀ (e : Engine) (obs : Observation), e.replaying = true → e.ReplayedAt cond flow gen →
      (e.replayOne obs).replaying = true ∧ (e.replayOne obs).ReplayedAt cond flow gen ∧
        (e.replayOne obs).config = e.config := by
    intro e obs hr h
    have hsame := sameSettings_applyLocked { e with replayNow := obs.receivedAt } obs
    refine ⟨hsame.replaying_eq.trans hr, ?_, hsame.config_eq⟩
    unfold ReplayedAt
    rw [show (e.replayOne obs).config = e.config from hsame.config_eq]
    have hmono : ({ e with replayNow := obs.receivedAt } : Engine).EachFlow (fun f => f.id = flow →
        ∀ g, f.generations.find? gen = some g → g.Replayed cond e.config.expiry (e.replayOne obs).sources) :=
      fun id f hf hid g hg => (h id f hf hid g hg).mono (fun _ hid => by
        obtain ⟨s, hs⟩ := Option.isSome_iff_exists.1 hid
        exact Option.isSome_iff_exists.2 ⟨s, keeps_applyLocked { e with replayNow := obs.receivedAt } obs hs⟩)
    refine eachFlow_applyLocked hmono obs (fun f f' hid _ hreg happ hf hflow => ?_) (fun _ g hg => nomatch hg)
    have hreplaying : ({ e with replayNow := obs.receivedAt } : Engine).replaying = true := hr
    rw [hreplaying] at happ
    exact happ.replayed hreg.named (hf (happ.kept.id.symm.trans hflow))
  have hall : ∀ (observations : List Observation) (e : Engine), e.replaying = true → e.ReplayedAt cond flow gen →
      (observations.foldl replayOne e).ReplayedAt cond flow gen ∧
      (observations.foldl replayOne e).config = e.config := by
    intro observations
    induction observations with
    | nil => exact fun e _ h => ⟨h, rfl⟩
    | cons obs observations ih =>
      intro e hr h
      obtain ⟨hr', h', hc'⟩ := hone e obs hr h
      obtain ⟨hdone, hc⟩ := ih _ hr' h'
      exact ⟨hdone, hc.trans hc'⟩
  exact hall observations { e with replaying := true, replayEpoch := previous } rfl h

theorem recovered_replayed {config : EngineConfig} {clock : Timestamp} {disk : Option (List UInt8)}
    {result : ReplayResult}
    {r : Engine} (flow : FlowId) (gen : GenerationId) (h : (started config clock disk).recovered = some (result, r)) :
    r.config = config ∧
      r.replaying = false ∧ r.ReplayedAt (result.Backed config flow gen) flow gen := by
  have hreplayed : ∀ {e : Engine} {records : List Record} {previous : RuntimeEpoch}, e.config = config → e.flows = ∅ →
      e.replayed records previous = some (result, r) → r.config = config ∧ r.replaying = false ∧
        r.ReplayedAt (result.Backed config flow gen) flow gen := by
    rintro e records previous rfl hflows hr
    unfold replayed at hr
    split at hr
    · cases hr
    · rename_i result' _
      dsimp only at hr
      split at hr
      · cases hr
      · rename_i e₁ hrestored
        cases hr
        have hstart : (({ e with snapshotSequence := result.state.snapshotSequence } : Engine).restoreSources
            result.state.sources).ReplayedAt (result.Backed e.config flow gen) flow gen := by
          intro id f hf
          have hnone : (∅ : SortedVec FlowRuntime.id).find? id = some f := hflows ▸ hf
          cases hnone
        obtain ⟨hrestore, hc⟩ := replayedAt_restoreFlows previous hstart
          (fun hb p hp hid pg hpg hgen hactive => hb p hp hid pg hpg hgen hactive)
        rw [hrestored] at hrestore hc
        obtain ⟨hdone, hc'⟩ := replayedAt_replayAll previous result.observations hrestore
        exact ⟨hc'.trans hc, rfl, hdone⟩
  unfold recovered at h
  split at h
  · cases h
  · split at h
    · cases h
    · dsimp only at h
      split at h
      · cases h
      · split at h
        · exact hreplayed rfl rfl h
        · cases h

/-! ## Opening -/

/-- What is `Active` of a generation is settled by its evidence at the current instant. -/
def SettlesAt (e : Engine) (flow : FlowId) (gen : GenerationId) : Prop :=
  ∀ f g, e.flows.find? flow = some f → f.generations.find? gen = some g → g.state = .Active →
    Settles (generationView e.config e.sources e.context f.id f.currentGeneration g) e.config.expiry e.context.now

theorem context_ticked {e : Engine} (h : e.replaying = false) :
    ({ e with evaluationOverride := e.now } : Engine).context = e.context := by
  have hnow : ({ e with evaluationOverride := e.now } : Engine).now = e.now := by
    unfold now
    dsimp only
    cases hk : e.evaluationOverride.known with
    | true => simp [hk]
    | false => simp
  have hinstant : ∀ e : Engine, e.replaying = false → e.instant = e.now := by
    intro e h
    simp [instant, h]
  unfold context
  rw [hinstant e h, hinstant { e with evaluationOverride := e.now } h, hnow]

/-- **What opening settles**: a generation that awaits reconfirmation still does, and it is not `Active` afterwards
exactly when its evidence settles it. -/
theorem settled_iff {r : Engine} (flow : FlowId) (gen : GenerationId) (hr : r.replaying = false)
    (hawaiting : ∀ f g, r.flows.find? flow = some f → f.generations.find? gen = some g → g.Awaiting) :
    (∀ f g, ((r.recomputeAll r.now (fun _ => true)).tickLocked r.now).flows.find? flow = some f →
      f.generations.find? gen = some g → g.Awaiting) ∧
    ((∀ f g, ((r.recomputeAll r.now (fun _ => true)).tickLocked r.now).flows.find? flow = some f →
      f.generations.find? gen = some g → g.state ≠ .Active) ↔ r.SettlesAt flow gen) := by
  let settled := r.recomputeAll r.now (fun _ => true)
  let ticked : FlowRuntime → FlowRuntime := fun f =>
    if tickDue f then recomputeFlow r.config r.sources r.context r.now f else f
  have hcontext : ({ settled with evaluationOverride := r.now } : Engine).context = r.context := context_ticked hr
  have hfind : ∀ id, (settled.tickLocked r.now).flows.find? id = (r.flows.find? id).map (fun f =>
      ticked (recomputeFlow r.config r.sources r.context r.now f)) := by
    intro id
    show (({ settled with evaluationOverride := r.now } : Engine).recomputeAll r.now tickDue).flows.find? id = _
    rw [find?_recomputeAll]
    have hticked : ({ settled with evaluationOverride := r.now } : Engine).recomputeDue r.now tickDue = ticked := by
      funext f
      unfold recomputeDue
      rw [hcontext]
      rfl
    rw [hticked]
    show (settled.flows.find? id).map _ = _
    rw [find?_recomputeAll, Option.map_map]
    rfl
  -- the generation is recomputed once or twice, on the same evidence
  have hone : ∀ f g, r.flows.find? flow = some f → f.generations.find? gen = some g → ∃ g',
      (ticked (recomputeFlow r.config r.sources r.context r.now f)).generations.find? gen = some g' ∧ g'.Awaiting ∧
      (g'.state = .Active ↔ g.state = .Active ∧
        ¬ Settles (generationView r.config r.sources r.context f.id f.currentGeneration g) r.config.expiry
          r.context.now) := by
    intro f g hf hg
    have hg₁ : (recomputedGenerations r.config r.sources r.context r.now f).find? gen = _ := find?_recomputed f gen
    have hg₂ : (recomputedGenerations r.config r.sources r.context r.now
        (recomputeFlow r.config r.sources r.context r.now f)).find? gen = _ := find?_recomputed _ gen
    rw [hg, Option.map_some] at hg₁
    rw [recomputeFlow_generations, hg₁, Option.map_some] at hg₂
    have hawaiting₁ := awaiting_recomputeRecord r.config r.sources r.context f.id f.currentGeneration r.now
      (hawaiting f g hf hg)
    have hiff : (recomputeRecord r.config r.sources r.context f.id f.currentGeneration r.now g).state = .Active ↔
        g.state = .Active ∧ ¬ Settles (generationView r.config r.sources r.context f.id f.currentGeneration g)
          r.config.expiry r.context.now := by
      rw [recomputeRecord_state, decisionFor_active (hawaiting f g hf hg)]
    simp only [ticked]
    split
    · rw [recomputeFlow_generations, hg₂]
      refine ⟨_, rfl, awaiting_recomputeRecord _ _ _ _ _ _ hawaiting₁, ?_⟩
      rw [recomputeFlow_id, recomputed_twice_active (hawaiting f g hf hg), hiff]
    · rw [recomputeFlow_generations, hg₁]
      exact ⟨_, rfl, hawaiting₁, hiff⟩
  have hback : ∀ f' g', (settled.tickLocked r.now).flows.find? flow = some f' → f'.generations.find? gen = some g' →
      ∃ f g, r.flows.find? flow = some f ∧ f.generations.find? gen = some g ∧ g'.Awaiting ∧
        (g'.state = .Active ↔ g.state = .Active ∧
          ¬ Settles (generationView r.config r.sources r.context f.id f.currentGeneration g) r.config.expiry
            r.context.now) := by
    intro f' g' hf' hg'
    rw [hfind] at hf'
    obtain ⟨f, hf, rfl⟩ := Option.map_eq_some_iff.1 hf'
    have hsome : ∃ g, f.generations.find? gen = some g := by
      cases hg : f.generations.find? gen with
      | some g => exact ⟨g, rfl⟩
      | none =>
        simp only [ticked] at hg'
        split at hg' <;> simp [find?_recomputed, hg] at hg'
    obtain ⟨g, hg⟩ := hsome
    obtain ⟨g'', hg'', hrest⟩ := hone f g hf hg
    rw [hg''] at hg'
    cases hg'
    exact ⟨f, g, hf, hg, hrest⟩
  refine ⟨fun f' g' hf' hg' => ?_, fun hnot f g hf hg hactive => ?_, fun hsettles f' g' hf' hg' hactive => ?_⟩
  · obtain ⟨_, _, _, _, hawaiting', _⟩ := hback f' g' hf' hg'
    exact hawaiting'
  · obtain ⟨g', hg', -, hiff⟩ := hone f g hf hg
    have hnot' := hnot _ g' (by rw [hfind, hf, Option.map_some]) hg'
    by_contra hsettles
    exact hnot' (hiff.2 ⟨hactive, hsettles⟩)
  · obtain ⟨f, g, hf, hg, -, hiff⟩ := hback f' g' hf' hg'
    obtain ⟨hbefore, hnot⟩ := hiff.1 hactive
    exact hnot (hsettles f g hf hg hbefore)

/-- A replayed generation whose records are backed settles. -/
theorem settlesAt_of_backed {config : EngineConfig} {clock : Timestamp} {disk : Option (List UInt8)}
    {result : ReplayResult} {r : Engine} (h : (started config clock disk).recovered = some (result, r))
    (hbacked : result.Backed config flow gen) : r.SettlesAt flow gen := by
  obtain ⟨-, -, hreplayed⟩ := recovered_replayed flow gen h
  intro f g hf hg hactive
  have hg' := hreplayed flow f hf (SortedVec.find?_key hf) g hg
  obtain ⟨henabled, hne⟩ := hg'.held hbacked hactive
  obtain ⟨b, hb⟩ := List.exists_mem_of_ne_nil _ hne
  obtain ⟨s, hs⟩ := Option.isSome_iff_exists.1 (hg'.registered b hb)
  have hview := mem_generationView_of r.config r.context f.id f.currentGeneration hb hs
  exact .inr ⟨henabled, .inl ⟨_, hview, (hg'.marks b hb).1⟩⟩

/-- Opening leaves a generation waiting, and not `Active` exactly when what was replayed of it settles. -/
theorem opened_settles {config : EngineConfig} {clock : Timestamp} {disk : Option (List UInt8)}
    (h : (started config clock disk).openEngine.2 = .ok ()) (flow : FlowId) (gen : GenerationId) :
    (∀ f g, (started config clock disk).openEngine.1.flows.find? flow = some f →
      f.generations.find? gen = some g → g.Awaiting) ∧
    ((∀ f g, (started config clock disk).openEngine.1.flows.find? flow = some f → f.generations.find? gen = some g →
        g.state ≠ .Active) ↔
      ∀ result r, (started config clock disk).recovered = some (result, r) → r.SettlesAt flow gen) := by
  rcases openEngine_recovered h with ⟨hnone, hflows⟩ | ⟨result, r, hsome, hflows⟩
  · rw [hflows, hnone]
    exact ⟨fun f g hf => (nomatch hf), fun _ result r hr => (nomatch hr), fun _ f g hf => (nomatch hf)⟩
  · obtain ⟨-, hr, hreplayed⟩ := recovered_replayed flow gen hsome
    obtain ⟨hawaiting, hiff⟩ := settled_iff flow gen hr
      (fun f g hf hg => (hreplayed flow f hf (SortedVec.find?_key hf) g hg).awaiting)
    rw [← hflows] at hawaiting hiff
    refine ⟨hawaiting, hiff.trans ⟨fun hsettles result' r' hr' => ?_, fun hall => hall result r hsome⟩⟩
    rw [hsome] at hr'
    cases hr'
    exact hsettles

/-- **After a restart.** Until an observation is accepted for it, a generation is never `Active`, in any run, exactly
when its evidence settles it at the end of the replay; it does when every `Active` record of it has a source and
expiry is enabled. -/
theorem restart_quiet (config : EngineConfig) (clock : Timestamp) (disk : Option (List UInt8))
    (h : (started config clock disk).openEngine.2 = .ok ()) (flow : FlowId) (gen : GenerationId) :
    (∀ result r, (started config clock disk).recovered = some (result, r) → result.Backed config flow gen →
      r.SettlesAt flow gen) ∧
    ((∀ ops, Run.Along step (fun e op => ∀ p ∈ e.applications op, NotAccepted flow gen p.1 p.2)
        (started config clock disk).openEngine.1 ops →
      ∀ g, (Run.exec step (started config clock disk).openEngine.1 ops).generation? flow gen = some g →
        g.state ≠ .Active) ↔
      ∀ result r, (started config clock disk).recovered = some (result, r) → r.SettlesAt flow gen) := by
  refine ⟨fun result r hr hbacked => settlesAt_of_backed hr hbacked, ?_⟩
  obtain ⟨hawaiting, hiff⟩ := opened_settles h flow gen
  rw [← hiff]
  constructor
  · intro hruns f g hf hg
    exact hruns [] trivial g (Option.bind_eq_some_iff.2 ⟨f, hf, hg⟩)
  · intro hnot ops hops g hg
    have hquiet : (started config clock disk).openEngine.1.QuietAt flow gen := by
      intro id f hf hid g hg
      have hf' : (started config clock disk).openEngine.1.flows.find? flow = some f := by
        rw [← hid, SortedVec.find?_key hf]
        exact hf
      exact ⟨hawaiting f g hf' hg, hnot f g hf' hg⟩
    have hend := Run.Along.invariant (P := (·.QuietAt flow gen)) (fun e op he hcond => quietAt_step e op he hcond)
      hquiet hops
    exact (hend.generation hg).state

end Recovery

/-! ## Restarts that show a generation as live -/

/-- An engine with a flow of one source that has opened it. -/
def openFlow : Engine :=
  ({ config := { journalPath := str "j" }, clock := ⟨1000⟩ } : Engine).openEngine.1.step
    (.ingest (sampleObservation (sourceIdFromKey (str "a")) .Open 1 ⟨900⟩))

/-- An engine whose journal is a snapshot of a flow with one source. -/
def savedFlow : Engine :=
  (({ config := { journalPath := str "j" }, clock := ⟨1000⟩ } : Engine).openEngine.1.step
    (.ingest (sampleObservation (sourceIdFromKey (str "a")) .Open 1 ⟨900⟩))).step .compact

theorem openFlow_reachable : openFlow.Reachable := by
  have hopen : ({ config := { journalPath := str "j" }, clock := ⟨1000⟩ } : Engine).openEngine.2 = .ok () :=
    opens_new_iff.2 (EngineConfig.validate_default _)
  exact .step (.opened { journalPath := str "j" } ⟨1000⟩ hopen) _

/-- Its journal is there, and its state is written and within the bounds of the reader. -/
theorem openFlow_compacts : (openFlow.journal.isSome = true ∧ openFlow.config.journalPath.isEmpty = false ∧
      openFlow.config.restoreOnOpen = true) ∧
    encodeState openFlow.persistState openFlow.config.limits
      = .ok ((encodeState openFlow.persistState openFlow.config.limits).toOption.getD []) ∧
    openFlow.WithinReader ((encodeState openFlow.persistState openFlow.config.limits).toOption.getD []) :=
  ⟨by decide +kernel, eq_ok_getD (by decide +kernel) [], by constructor <;> decide +kernel⟩

theorem savedFlow_reopened : savedFlow.close.openEngine = savedFlow.close.openFrom openFlow.persistState := by
  obtain ⟨⟨hj, hpath, hrestore⟩, hw, hin⟩ := openFlow_compacts
  exact reopened_compacted openFlow_reachable hw hin hj hpath hrestore

/-- A new process that finds the journal. -/
def restartedFlow : Engine := started { journalPath := str "j" } ⟨1000⟩ savedFlow.close.disk

theorem restartedFlow_opened : restartedFlow.openEngine = restartedFlow.openFrom openFlow.persistState := by
  have hsaved : savedFlow = openFlow.step .compact := rfl
  have hdisk : restartedFlow.disk = (openFlow.step .compact).close.disk := by rw [← hsaved, restartedFlow, started]
  obtain ⟨⟨hj, hpath, hrestore⟩, hw, hin⟩ := openFlow_compacts
  refine openEngine_compacted openFlow_reachable hw hin hj hpath hrestore ?_ ?_ ?_ hdisk
  · rw [openFlow, step_config, open_config, restartedFlow, started]
  · rw [restartedFlow, started]
  · rw [restartedFlow, started]

/-- The generation was `Active` when the snapshot was written; it is restored, and awaits evidence. -/
theorem restartedFlow_restored : openFlow.config.expiry.enabled = true ∧
    (openFlow.generation? sampleFlow ⟨1⟩).map (·.state) = some .Active ∧ restartedFlow.openEngine.2 = .ok () ∧
    (restartedFlow.openEngine.1.generation? sampleFlow ⟨1⟩).map (·.state) = some .Observed := by
  rw [restartedFlow_opened]
  decide +kernel

/-- **A generation that was `Active` is restored, and never shown as that** before a source confirms it. -/
theorem restart_quiet_restored : (openFlow.generation? sampleFlow ⟨1⟩).map (·.state) = some .Active ∧
    (restartedFlow.openEngine.1.generation? sampleFlow ⟨1⟩).map (·.state) = some .Observed ∧
    (∀ ops, Run.Along step (fun e op => ∀ p ∈ e.applications op, NotAccepted sampleFlow ⟨1⟩ p.1 p.2)
        restartedFlow.openEngine.1 ops →
      ∀ g, (Run.exec step restartedFlow.openEngine.1 ops).generation? sampleFlow ⟨1⟩ = some g → g.state ≠ .Active) := by
  obtain ⟨-, hactive, hopen, hrestored⟩ := restartedFlow_restored
  refine ⟨hactive, hrestored, (restart_quiet _ _ _ hopen sampleFlow ⟨1⟩).2.2
    ((opened_settles hopen sampleFlow ⟨1⟩).2.1 ?_)⟩
  intro f g hf hg hstate
  have hg' : restartedFlow.openEngine.1.generation? sampleFlow ⟨1⟩ = some g := Option.bind_eq_some_iff.2 ⟨f, hf, hg⟩
  rw [hg', Option.map_some, hstate] at hrestored
  cases hrestored

/-- Expiry is switched off. -/
def unexpiring : EngineConfig := { journalPath := str "j", expiry := { enabled := false } }

/-- An engine with a flow that is `Active`. -/
def activeFlow : Engine :=
  (started unexpiring ⟨1000⟩ none).openEngine.1.step
    (.ingest (sampleObservation (sourceIdFromKey (str "a")) .Open 1 ⟨900⟩))

/-- An engine whose journal is a snapshot of a flow that is `Active`. -/
def activeSnapshot : Engine :=
  ((started unexpiring ⟨1000⟩ none).openEngine.1.step
    (.ingest (sampleObservation (sourceIdFromKey (str "a")) .Open 1 ⟨900⟩))).step .compact

theorem activeFlow_reachable : activeFlow.Reachable := by
  have hopen : (started unexpiring ⟨1000⟩ none).openEngine.2 = .ok () := opens_new_iff.2 (by decide)
  exact .step (.opened unexpiring ⟨1000⟩ hopen) _

theorem activeSnapshot_reachable : activeSnapshot.Reachable := .step activeFlow_reachable .compact

theorem activeSnapshot_reopened : activeSnapshot.close.openEngine.2 = .ok () ∧
    (activeSnapshot.close.openEngine.1.generation? sampleFlow ⟨1⟩).map (·.state) = some .Active := by
  have hreopened : activeSnapshot.close.openEngine = activeSnapshot.close.openFrom activeFlow.persistState :=
    reopened_compacted activeFlow_reachable (eq_ok_getD (by decide +kernel) [])
      ⟨by decide +kernel, by decide +kernel, by decide +kernel⟩ (by decide +kernel) (by decide +kernel)
        (by decide +kernel)
  rw [hreopened]
  decide +kernel

/-- **Where expiry is switched off a restored generation is still `Active` when `open` completes.** -/
theorem restart_can_be_live : ¬ ∀ e : Engine, e.Reachable → e.close.openEngine.2 = .ok () → ∀ flow gen g,
    e.close.openEngine.1.generation? flow gen = some g → g.state ≠ .Active := by
  intro h
  obtain ⟨hopen, hactive⟩ := activeSnapshot_reopened
  obtain ⟨g, hg, hstate⟩ := Option.map_eq_some_iff.1 hactive
  exact h activeSnapshot activeSnapshot_reachable hopen sampleFlow ⟨1⟩ g hg hstate

end Engine

end FlowObs
