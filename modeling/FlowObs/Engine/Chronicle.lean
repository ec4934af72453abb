import FlowObs.Decision
import FlowObs.Engine.Authority
import FlowObs.Engine.Bare
import FlowObs.Engine.Durable
import FlowObs.Engine.Generations
import FlowObs.Engine.Restart

/-!
# What the journal tells of a flow

A flow table or a generation table that is full gives up what has ended and, of the flows, what was touched longest ago.
The journal holds neither the ticks nor the later descriptors that live states depend on. A `Chronicle` is what the
journalled observations alone tell of a flow: one that is heard touches it at its instant of receipt, and a generation
has ended when a source then declares a terminal state that the journal grants it, or when its evidence has aged by
then. A replay leaves each flow as its chronicle tells (`Chronicle.Tells.next`).
-/

namespace FlowObs

/-! ## What ends a generation -/

/-- The descriptor that a journal with the descriptors `ds` gives a source: an unknown one is granted nothing. -/
def granted (ds : List SourceDescriptor) (id : SourceId) : SourceDescriptor := (lastFor ds id).getD { id := id }

/-- A view with what the journal grants its source. -/
def SourceView.grant (ds : List SourceDescriptor) (source : SourceId) (v : SourceView) : SourceView :=
  { v with capabilities := (granted ds source).capabilities, advisoryOnly := (granted ds source).advisoryOnly }

/-- The source of the binding declares a terminal state that the journal grants it. -/
def SourceBinding.ends (ds : List SourceDescriptor) (b : SourceBinding) : Bool :=
  b.cached.any fun v => (honoured (v.grant ds b.source)).isSome

/-- The evidence of the generation ends it: by a declaration, or by its age at the instant. -/
def GenerationRuntime.ends (config : EngineConfig) (ds : List SourceDescriptor) (atTime : Timestamp)
    (g : GenerationRuntime) : Bool :=
  g.bindings.toList.any (·.ends ds) ||
    config.expiry.enabled && agedOut config.expiry atTime (g.bindings.toList.filterMap (·.cached))

/-- The sources of the table have what the journal grants them. -/
def Grants (ds : List SourceDescriptor) (sources : SourceTable) : Prop := ∀ id s, sources.find? id = some s →
  s.descriptor.capabilities = (granted ds id).capabilities ∧ s.descriptor.advisoryOnly = (granted ds id).advisoryOnly

/-- A binding in a replay: nothing confirms it, and its fold has what the journal grants its source. -/
structure SourceBinding.Unconfirmed (ds : List SourceDescriptor) (b : SourceBinding) : Prop where
  awaiting : b.reconfirmed = false
  granted : ∀ v, b.cached = some v → v.capabilities = (granted ds b.source).capabilities ∧
    v.advisoryOnly = (FlowObs.granted ds b.source).advisoryOnly

section Ends

variable {config : EngineConfig} {sources : SourceTable} {ctx : FreshnessContext} {ds ds' : List SourceDescriptor}
variable {atTime now : Timestamp} {obs : Observation} {b : SourceBinding} {g : GenerationRuntime} {s : SourceState}

theorem SourceBinding.Unconfirmed.fold (h : b.Unconfirmed ds) (hgrants : Grants ds sources)
    (hs : sources.find? b.source = some s) :
    (b.fold s.descriptor ctx config).capabilities = (FlowObs.granted ds b.source).capabilities ∧
      (b.fold s.descriptor ctx config).advisoryOnly = (FlowObs.granted ds b.source).advisoryOnly := by
  unfold SourceBinding.fold
  cases hcached : b.cached with
  | none => exact hgrants _ s hs
  | some v => exact h.granted v hcached

theorem SourceBinding.Unconfirmed.refresh (h : b.Unconfirmed ds) (hgrants : Grants ds sources)
    (ctx : FreshnessContext) :
    (refreshBinding config sources ctx b).Unconfirmed ds := by
  cases hs : sources.find? b.source with
  | none =>
    rw [refreshBinding, hs]
    exact h
  | some s =>
    rw [refreshBinding, hs]
    refine ⟨h.awaiting, fun v hv => ?_⟩
    cases hv
    exact h.fold hgrants hs

theorem SourceBinding.Unconfirmed.take (h : b.Unconfirmed ds) (obs : Observation) :
    (b.take true obs).1.Unconfirmed ds := by
  simp only [SourceBinding.take]
  cases (b.ledger.insert obs).2.kind with
  | Accepted => exact ⟨by simp [h.awaiting], fun v hv => by cases hv⟩
  | Duplicate => exact ⟨h.awaiting, h.granted⟩
  | ContentConflict => exact ⟨h.awaiting, h.granted⟩
  | Refused => exact ⟨h.awaiting, h.granted⟩

/-- A fresh fold declares with what its source was granted. -/
theorem honoured_grant {v : SourceView} {source : SourceId}
    (h : v.capabilities = (granted ds source).capabilities ∧ v.advisoryOnly = (granted ds source).advisoryOnly) :
    v.grant ds source = v := by
  rw [SourceView.grant, ← h.1, ← h.2]

/-- What ends a generation is in its sketch. -/
theorem SourceBinding.ends_sketch (b : SourceBinding) : b.sketch.ends ds = b.ends ds := by
  unfold ends sketch
  cases b.cached <;> rfl

theorem GenerationRuntime.ends_sketch (g : GenerationRuntime) : g.sketch.ends config ds now = g.ends config ds now := by
  have hbindings : g.sketch.bindings.toList = g.bindings.toList.map SourceBinding.sketch := rfl
  have hany : g.sketch.bindings.toList.any (·.ends ds) = g.bindings.toList.any (·.ends ds) := by
    rw [hbindings, List.any_map]
    exact congrArg (fun p => g.bindings.toList.any p) (funext fun b => b.ends_sketch)
  have hviews : g.sketch.bindings.toList.filterMap (·.cached)
      = (g.bindings.toList.filterMap (·.cached)).map SourceView.sketch := by
    rw [hbindings, List.filterMap_map, List.map_filterMap]
    rfl
  have haged : ∀ views : List SourceView, agedOut config.expiry now (views.map SourceView.sketch)
      = agedOut config.expiry now views := by
    intro views
    simp only [agedOut, latest, runningMax, List.foldl_map]
    rfl
  rw [ends, ends, hany, hviews, haged]

/-- Journals that grant the sources of a generation alike end it alike. -/
theorem GenerationRuntime.ends_congr (h : ∀ b ∈ g.bindings.toList, granted ds b.source = granted ds' b.source) :
    g.ends config ds now = g.ends config ds' now := by
  have hbinding : ∀ b ∈ g.bindings.toList, b.ends ds = b.ends ds' := by
    intro b hb
    simp only [SourceBinding.ends, SourceView.grant, h b hb]
  have hany : g.bindings.toList.any (·.ends ds) = g.bindings.toList.any (·.ends ds') := by
    rw [Bool.eq_iff_iff, List.any_eq_true, List.any_eq_true]
    exact exists_congr fun b => and_congr_right fun hb => by rw [hbinding b hb]
  rw [ends, ends, hany]

end Ends

/-! ## Recomputing in a replay -/

/-- The sources of the generation are registered, and nothing confirms them. -/
structure GenerationRuntime.Unconfirmed (ds : List SourceDescriptor) (sources : SourceTable) (g : GenerationRuntime) :
    Prop where
  bindings : ∀ b ∈ g.bindings.toList, b.Unconfirmed ds
  registered : ∀ b ∈ g.bindings.toList, (sources.find? b.source).isSome = true

section Recomputed

variable {config : EngineConfig} {sources : SourceTable} {ctx : FreshnessContext} {ds : List SourceDescriptor}
variable {atTime : Timestamp} {flow : FlowId} {current : GenerationId} {g : GenerationRuntime}

/-- What a view shows of a binding, and what is cached of it then. -/
theorem bindingView_fold (config : EngineConfig) (ctx : FreshnessContext) {b : SourceBinding}
    (hs : (sources.find? b.source).isSome = true) : ∃ s,
    sources.find? b.source = some s ∧ bindingView config sources ctx b = some (sourceView config b s.descriptor ctx) ∧
      (refreshBinding config sources ctx b).cached = some (b.fold s.descriptor ctx config) := by
  obtain ⟨s, hs⟩ := Option.isSome_iff_exists.1 hs
  exact ⟨s, hs, by rw [bindingView, hs, Option.map_some], by rw [refreshBinding, hs]⟩

/-- The declarations that are honoured are those of the folds that are cached then. -/
theorem GenerationRuntime.Unconfirmed.honoured_iff (h : g.Unconfirmed ds sources) (hgrants : Grants ds sources)
    (flow : FlowId) (current : GenerationId) (atTime : Timestamp) :
    (∃ v ∈ driving (g.bindings.toList.filterMap (bindingView config sources ctx)), honoured v ≠ none) ↔
      (recomputeRecord config sources ctx flow current atTime g).bindings.toList.any (·.ends ds) = true := by
  have hends : ∀ b ∈ g.bindings.toList, ∃ s : SourceState,
  bindingView config sources ctx b = some (sourceView config b s.descriptor ctx) ∧
      (refreshBinding config sources ctx b).ends ds = (honoured (sourceView config b s.descriptor ctx)).isSome := by
    intro b hb
    obtain ⟨s, hs, hview, hcached⟩ := bindingView_fold config ctx (h.registered b hb)
    refine ⟨s, hview, ?_⟩
    rw [SourceBinding.ends, hcached, refreshBinding_source, Option.any_some,
      honoured_grant ((h.bindings b hb).fold hgrants hs)]
    rfl
  rw [List.any_eq_true, recomputeRecord_bindings, SortedVec.toList_map]
  constructor
  · rintro ⟨v, hv, hhonoured⟩
    obtain ⟨b, hb, hview⟩ := List.mem_filterMap.1 (List.mem_of_mem_filter hv)
    obtain ⟨s, hview', hends⟩ := hends b hb
    rw [hview'] at hview
    cases hview
    exact ⟨_, List.mem_map_of_mem hb, by rw [hends]; exact Option.isSome_iff_ne_none.2 hhonoured⟩
  · rintro ⟨_, hrefreshed, hended⟩
    obtain ⟨b, hb, rfl⟩ := List.mem_map.1 hrefreshed
    obtain ⟨s, hview, hends⟩ := hends b hb
    rw [hends] at hended
    have hhonoured := Option.isSome_iff_ne_none.1 hended
    refine ⟨_, List.mem_filter.2 ⟨List.mem_filterMap.2 ⟨b, hb, hview⟩, ?_⟩, hhonoured⟩
    -- what an advisory source declares is not honoured
    cases hadvisory : (sourceView config b s.descriptor ctx).advisoryOnly with
    | false => rfl
    | true => exact absurd (by rw [honoured, if_pos hadvisory]) hhonoured

/-- The evidence is as old as the folds that are cached then. -/
theorem GenerationRuntime.Unconfirmed.agedOut_eq (h : g.Unconfirmed ds sources) (flow : FlowId) (current : GenerationId)
    (atTime : Timestamp) :
    agedOut config.expiry ctx.now (g.bindings.toList.filterMap (bindingView config sources ctx))
      = agedOut config.expiry ctx.now
        ((recomputeRecord config sources ctx flow current atTime g).bindings.toList.filterMap (·.cached)) := by
  have hmap : ∀ views : List SourceView, latest (·.lastObservedAt) views
      = (views.map (·.lastObservedAt)).foldl (fun t u => if t < u then u else t) {} := by
    intro views
    rw [latest, runningMax, List.foldl_map]
  have hsame : (g.bindings.toList.filterMap (bindingView config sources ctx)).map (·.lastObservedAt)
      = ((recomputeRecord config sources ctx flow current atTime g).bindings.toList.filterMap (·.cached)).map
        (·.lastObservedAt) := by
    rw [recomputeRecord_bindings, SortedVec.toList_map, List.filterMap_map, List.map_filterMap, List.map_filterMap]
    refine List.filterMap_congr fun b hb => ?_
    obtain ⟨s, -, hview, hcached⟩ := bindingView_fold config ctx (h.registered b hb)
    rw [hview, Function.comp_apply, hcached]
    rfl
  rw [agedOut, agedOut, hmap, hmap, hsame]

/-- A generation that nobody confirms fades out when its evidence has aged. -/
theorem isTerminal_fadedState {previous : FlowState} (hopen : isTerminal previous = false)
    (enabled aged restored idle : Bool) : isTerminal (fadedState previous enabled aged restored idle) =
    (enabled && aged) := by
  unfold fadedState
  cases enabled <;> cases aged <;> cases restored <;> cases idle <;> cases previous <;> first | rfl | cases hopen

/-- None of the sources is usable. -/
theorem GenerationRuntime.Unconfirmed.unusable (h : g.Unconfirmed ds sources) (config : EngineConfig)
    (ctx : FreshnessContext) :
    (g.bindings.toList.filterMap (bindingView config sources ctx)).filter sourceIsUsable = [] := by
  refine List.filter_eq_nil_iff.2 fun v hv => ?_
  obtain ⟨b, hb, hview⟩ := List.mem_filterMap.1 hv
  obtain ⟨s, -, rfl⟩ := Option.map_eq_some_iff.1 hview
  have hreconfirmed : (sourceView config b s.descriptor ctx).reconfirmed = b.reconfirmed := rfl
  simp [sourceIsUsable, hreconfirmed, (h.bindings b hb).awaiting]

/-- **Recomputing in a replay** ends a generation exactly when its evidence does. -/
theorem GenerationRuntime.Unconfirmed.recompute_ends (h : g.Unconfirmed ds sources) (hgrants : Grants ds sources) :
    isTerminal (recomputeRecord config sources ctx flow current atTime g).state = (isTerminal g.state ||
      (recomputeRecord config sources ctx flow current atTime g).ends config ds ctx.now) := by
  cases hopen : isTerminal g.state with
  | true => rw [(recomputeRecord_of_terminal config sources ctx flow current atTime hopen).1, hopen, Bool.true_or]
  | false =>
    have hunusable := h.unusable config ctx
    have hcalm : ¬ Conflicted config.reconciliation (g.bindings.toList.filterMap (bindingView config sources ctx)) := by
      rintro ⟨v, hv, -⟩
      rw [hunusable] at hv
      cases hv
    have hdecision : decisionFor config sources ctx flow current g = decideGenerationState
        (evidenceView config sources ctx flow current g) g.state config.expiry ctx :=
          decide_congr rfl rfl rfl rfl rfl _ _ _
    rw [recomputeRecord_state, hdecision, evidenceView, Bool.false_or, GenerationRuntime.ends]
    by_cases hdeclared : ∃ v ∈ driving (g.bindings.toList.filterMap (bindingView config sources ctx)), honoured v ≠ none
    · rw [state_of_honoured _ _ _ _ _ _ hopen hcalm hdeclared, (h.honoured_iff hgrants _ _ _).1 hdeclared, Bool.true_or]
    · have hnot := mt (h.honoured_iff hgrants flow current atTime).2 hdeclared
      have hnone : ∀ v ∈ driving (g.bindings.toList.filterMap (bindingView config sources ctx)), honoured v = none := by
        intro v hv
        by_contra hne
        exact hdeclared ⟨v, hv, hne⟩
      rw [state_of_open _ _ _ _ _ _ hopen hcalm hnone, hunusable, if_pos List.isEmpty_nil, isTerminal_fadedState hopen,
        h.agedOut_eq flow current atTime, Bool.eq_false_iff.2 hnot, Bool.false_or]

end Recomputed

/-! ## Chronicles -/

/-- What the journal tells of a flow: when it was touched last, whether it has ended, and which generations have. -/
structure Chronicle where
  touched : Timestamp
  closed : Bool := false
  ended : GenerationId → Bool := fun _ => false

/-- The flow is as its chronicle tells. -/
structure Chronicle.Tells (c : Chronicle) (f : FlowRuntime) : Prop where
  touched : f.lastTouched = c.touched
  closed : isTerminal f.state = c.closed
  ended : ∀ gen g, f.generations.find? gen = some g → isTerminal g.state = c.ended gen

/-- The observation is heard: no stage refuses it before the ledger, nor does the ledger. -/
def FlowTx.hears (config : EngineConfig) (obs : Observation) (tx : FlowTx) : Bool :=
  match toLedger config obs.receivedAt obs tx with
  | .error _ => false
  | .ok p => (insertEvidence config.limits true obs.receivedAt p.2 p.1.flow).2.kind != .Refused

/-- The chronicle after an observation that leaves the flow `f` as `f'`. A generation that is new has not ended; another
key makes a flow conflicting; an observation that is heard ends what its evidence ends. -/
def Chronicle.next (c : Chronicle) (config : EngineConfig) (ds : List SourceDescriptor) (obs : Observation)
    (heard : Bool) (f f' : FlowRuntime) : Chronicle :=
  let kept : GenerationId → Bool := fun gen => (f.generations.find? gen).isSome && c.ended gen
  let ended : GenerationId → Bool := fun gen =>
    kept gen || (f'.generations.find? gen).any (·.ends config ds obs.receivedAt)
  if heard then { touched := obs.receivedAt, closed := ended f'.currentGeneration, ended := ended }
  else { touched := c.touched, closed := c.closed && f.canonicalKey == obs.subject.flowKey, ended := kept }

section Sketches

variable {config : EngineConfig} {ds ds' : List SourceDescriptor} {obs : Observation} {c : Chronicle}
variable {f f' g g' : FlowRuntime} {tx tx' : FlowTx}

/-- The next chronicle is a matter of sketches. -/
theorem Chronicle.next_congr (hf : f.sketch = g.sketch) (hf' : f'.sketch = g'.sketch) (heard : Bool) :
    c.next config ds obs heard f f' = c.next config ds obs heard g g' := by
  have hkey : f.canonicalKey = g.canonicalKey := by rw [← f.sketch_canonicalKey, hf, g.sketch_canonicalKey]
  have hcurrent : f'.sketch.currentGeneration = g'.sketch.currentGeneration := by rw [hf']
  change f'.currentGeneration = g'.currentGeneration at hcurrent
  have hkept := fun gen => FlowRuntime.isSome_of_sketch hf gen
  have hends : ∀ gen, (f'.generations.find? gen).any (·.ends config ds obs.receivedAt)
      = (g'.generations.find? gen).any (·.ends config ds obs.receivedAt) := by
    have hsketch : ∀ (f : FlowRuntime) gen, (f.generations.find? gen).any (·.ends config ds obs.receivedAt)
        = (f.sketch.generations.find? gen).any (·.ends config ds obs.receivedAt) := by
      intro f gen
      rw [f.find?_sketch]
      cases f.generations.find? gen with
      | none => rfl
      | some g => exact g.ends_sketch.symm
    intro gen
    rw [hsketch f', hsketch g', hf']
  simp only [Chronicle.next, hkey, hcurrent, hkept, hends]

/-- Journals that grant the sources of a flow alike tell the same of it. -/
theorem Chronicle.next_granted (h : ∀ gen g, f'.generations.find? gen = some g → ∀ b ∈ g.bindings.toList,
    granted ds b.source = granted ds' b.source) (heard : Bool) :
    c.next config ds obs heard f f' = c.next config ds' obs heard f f' := by
  have hends : ∀ gen, (f'.generations.find? gen).any (·.ends config ds obs.receivedAt)
      = (f'.generations.find? gen).any (·.ends config ds' obs.receivedAt) := by
    intro gen
    cases hg : f'.generations.find? gen with
    | none => rfl
    | some g => exact GenerationRuntime.ends_congr (h gen g hg)
  simp only [Chronicle.next, hends]

/-- Two flows with one sketch, that give up the same generation, both hear an observation or neither. -/
theorem FlowTx.Alike.hears (h : tx.Alike tx')
    (hsame : tx.flow.Asked config tx.registries obs → tx.flow.evictable = tx'.flow.evictable) (k : Str) :
    tx.hears config obs = tx'.hears config { obs with sourceKey := k } := by
  have hledger : Together (fun p p' => p.1.Alike p'.1 ∧ p'.2 = { p.2 with sourceKey := k })
      (FlowObs.toLedger config obs.receivedAt obs tx)
        (FlowObs.toLedger config obs.receivedAt { obs with sourceKey := k } tx') :=
    h.toLedger rfl hsame
  unfold FlowTx.hears
  generalize FlowObs.toLedger config obs.receivedAt obs tx = m at hledger ⊢
  generalize FlowObs.toLedger config obs.receivedAt { obs with sourceKey := k } tx' = m' at hledger ⊢
  cases m with
  | error x =>
    cases m' with
    | error y => rfl
    | ok p' => exact hledger.elim
  | ok p =>
    cases m' with
    | error y => exact hledger.elim
    | ok p' =>
      obtain ⟨tx₁, obs₁⟩ := p
      obtain ⟨tx₁', obs₁'⟩ := p'
      obtain ⟨htx, hobs⟩ := hledger
      dsimp only at htx hobs ⊢
      subst hobs
      rw [(htx.insertEvidence config.limits true true obs.receivedAt obs.receivedAt obs₁ k).2]

end Sketches

/-! ## States that are carried -/

section Carried

variable {config : EngineConfig} {limits : Limits} {atTime : Timestamp} {obs : Observation} {wanted : GenerationId}
variable {f f₁ f₂ room : FlowRuntime} {g : GenerationRuntime}

/-- The generations of `f₁` have ended that had in `f`. -/
def FlowRuntime.Carries (f f₁ : FlowRuntime) : Prop := ∀ gen g, f₁.generations.find? gen = some g →
  isTerminal g.state = (f.generations.find? gen).any (fun g => isTerminal g.state)

theorem FlowRuntime.Carries.of_generations (h : f.Carries f₁) (hg : f₂.generations = f₁.generations) : f.Carries f₂ :=
  fun gen g hgen => h gen g (hg ▸ hgen)

theorem FlowRuntime.Carries.refl (f : FlowRuntime) : f.Carries f := fun _ _ hg => by rw [hg, Option.any_some]

theorem isTerminal_obtainGeneration (f : FlowRuntime) (wanted : GenerationId) (atTime : Timestamp) :
    isTerminal (obtainGeneration f wanted atTime).state
      = (f.generations.find? wanted).any (fun g => isTerminal g.state) := by
  unfold obtainGeneration
  cases f.generations.find? wanted <;> rfl

/-- Entering a generation, with room made for it. -/
theorem FlowRuntime.Carries.enter (hroom : Roomed limits f wanted room) (atTime : Timestamp) :
    f.Carries (room.enter wanted atTime) := by
  intro gen g hg
  rw [find?_enter] at hg
  split at hg
  · rename_i hgen
    cases hg
    rw [isTerminal_obtainGeneration, hroom.find?.1, hgen]
  · rcases hroom.find?.2 gen with hsame | hnone
    · rw [← hsame, hg, Option.any_some]
    · rw [hnone] at hg
      cases hg

/-- Setting a generation that is there, in the state it had. -/
theorem FlowRuntime.Carries.set (h : f.Carries f₁) (atTime : Timestamp)
    (hknown : (f₁.generations.find? wanted).isSome = true)
    (hfind : ∀ gen, f₂.generations.find? gen = if wanted = gen then some g else f₁.generations.find? gen)
    (hstate : g.state = (obtainGeneration f₁ wanted atTime).state) : f.Carries f₂ := by
  intro gen g' hg'
  rw [hfind] at hg'
  split at hg'
  · rename_i hgen
    cases hg'
    obtain ⟨g₁, hg₁⟩ := Option.isSome_iff_exists.1 hknown
    have hobtained : obtainGeneration f₁ wanted atTime = g₁ := by rw [obtainGeneration, hg₁, Option.getD_some]
    rw [hstate, hobtained, ← hgen]
    exact h wanted g₁ hg₁
  · exact h gen g' hg'

end Carried

/-! ## One observation in a replay -/

section Replay

variable {config : EngineConfig} {sources : SourceTable} {ctx : FreshnessContext} {ds : List SourceDescriptor}
variable {limits : Limits} {atTime : Timestamp} {obs : Observation} {f f' : FlowRuntime} {c : Chronicle} {tx : FlowTx}

/-- What an observation that is not heard leaves of a flow. -/
structure FlowRuntime.Unheard (obs : Observation) (f f' : FlowRuntime) : Prop where
  touched : f'.lastTouched = f.lastTouched
  closed : isTerminal f'.state = (isTerminal f.state && f.canonicalKey == obs.subject.flowKey)
  carries : f.Carries f'

theorem FlowRuntime.Unheard.of_key (hkey : f.canonicalKey = obs.subject.flowKey)
    (htouched : f'.lastTouched = f.lastTouched) (hstate : f'.state = f.state) (hcarries : f.Carries f') :
    f.Unheard obs f' :=
  ⟨htouched, by rw [hstate, hkey, beq_self_eq_true, Bool.and_true], hcarries⟩

theorem FlowRuntime.Noted.kept (h : f.Noted f') : f'.lastTouched = f.lastTouched ∧ f'.state = f.state := by
  obtain ⟨_, _, _, rfl⟩ := h
  exact ⟨rfl, rfl⟩

theorem Roomed.touched {room : FlowRuntime} {wanted : GenerationId} (h : Roomed limits f wanted room) :
    room.lastTouched = f.lastTouched := by
  cases h with
  | known => rfl
  | free => rfl
  | evicted _ _ he =>
    obtain ⟨g, -, rfl⟩ := Option.map_eq_some_iff.1 he
    rfl

theorem Unreached.unheard (h : Unreached limits atTime obs f f') : f.Unheard obs f' := by
  cases h with
  | collided hkey hf =>
    refine ⟨hf.kept.1, ?_, (FlowRuntime.Carries.refl f).of_generations hf.generations_eq⟩
    rw [hf.kept.2, beq_false_of_ne hkey, Bool.and_false]
    rfl
  | stopped hkey hf =>
    exact .of_key hkey hf.kept.1 hf.kept.2 ((FlowRuntime.Carries.refl f).of_generations hf.generations_eq)
  | noSourceRoom room hkey hroom hf =>
    refine .of_key hkey (hf.kept.1.trans hroom.touched) (hf.kept.2.trans hroom.same.2.1) ?_
    exact (FlowRuntime.Carries.enter hroom atTime).of_generations hf.generations_eq

/-- **One observation in a replay**: it is not heard, or its flow is touched and recomputed. -/
theorem FlowTx.replay_cases (config : EngineConfig) (sources : SourceTable) (ctx : FreshnessContext) (obs : Observation)
    (tx : FlowTx) :
    tx.hears config obs = false ∧ tx.flow.Unheard obs
        (Exit.ofExcept (applyToFlow config sources ctx true obs.receivedAt obs tx)).1.flow ∨
      tx.hears config obs = true ∧ ∃ t, tx.flow.Carries t ∧ t.lastTouched = obs.receivedAt ∧
        (t.generations.find? obs.subject.generation).isSome = true ∧
        (Exit.ofExcept (applyToFlow config sources ctx true obs.receivedAt obs tx)).1.flow
          = recomputeFlow config sources ctx obs.receivedAt t := by
  rw [applyToFlow_eq, hears]
  rcases toLedger_cases config obs.receivedAt obs tx with ⟨x, hx, hunreached⟩ | ⟨tx', room, hx, hkey, hroom, hentered⟩
  · rw [hx]
    exact .inl ⟨rfl, hunreached.unheard⟩
  · rw [hx]
    have hsubject := clampedObservation_subject config.limits obs
    have hknown : (tx'.flow.generations.find? obs.subject.generation).isSome = true := by
      rw [hentered.generations_eq, find?_enter, if_pos rfl]
      rfl
    have hfind := find?_insertEvidence config.limits true obs.receivedAt (clampedObservation config.limits obs) tx'.flow
    rw [hsubject] at hfind
    have hinserted : tx.flow.Carries (insertEvidence config.limits true obs.receivedAt
        (clampedObservation config.limits obs) tx'.flow).1 :=
      ((FlowRuntime.Carries.enter hroom obs.receivedAt).of_generations hentered.generations_eq).set
        obs.receivedAt hknown
        hfind rfl
    have hcases := (applyEvidence_cases config sources ctx true obs.receivedAt
      (clampedObservation config.limits obs) tx').2
    dsimp only at hcases ⊢
    split at hcases
    · rename_i hkind
      refine .inl ⟨by rw [hkind]; rfl, .of_key hkey ?_ ?_ (hinserted.of_generations hcases.generations_eq)⟩
      · exact hcases.kept.1.trans (hentered.kept.1.trans hroom.touched)
      · exact hcases.kept.2.trans (hentered.kept.2.trans hroom.same.2.1)
    · rename_i hkind
      obtain ⟨settled, hsettled, hflow⟩ := hcases
      rw [hsubject] at hflow
      have hgenerations : settled.generations = (insertEvidence config.limits true obs.receivedAt
          (clampedObservation config.limits obs) tx'.flow).1.generations :=
        hsettled.generations_eq.trans (revise_generations _ _)
      have hsome : (settled.generations.find? obs.subject.generation).isSome = true := by
        rw [hgenerations, hfind, if_pos rfl]
        rfl
      refine .inr ⟨by simpa using hkind, settled.touch obs.subject.generation obs.receivedAt, ?_, rfl, ?_, hflow⟩
      · exact (hinserted.of_generations hgenerations).set obs.receivedAt hsome
          (fun gen => find?_touch settled obs.subject.generation gen obs.receivedAt) rfl
      · rw [find?_touch, if_pos rfl]
        rfl

/-- A flow that is recomputed shows the state of its current generation. -/
theorem recomputeFlow_mirrors {f : FlowRuntime} {g : GenerationRuntime}
    (hg : (recomputeFlow config sources ctx atTime f).generations.find?
      (recomputeFlow config sources ctx atTime f).currentGeneration = some g) :
    (recomputeFlow config sources ctx atTime f).state = g.state := by
  have hmirror : ∀ f : FlowRuntime, f.mirrorCurrent.generations.find? f.mirrorCurrent.currentGeneration = some g →
      f.mirrorCurrent.state = g.state := by
    intro f hg
    unfold FlowRuntime.mirrorCurrent at hg ⊢
    split at hg
    · rename_i g' hg'
      rw [hg'] at hg
      cases hg
      rfl
    · rename_i hnone
      split at hg
      · rename_i g' hlast
        rw [SortedVec.find?_of_mem (List.mem_of_getLast? hlast)] at hg
        cases hg
        rfl
      · rw [hnone] at hg
        cases hg
  exact hmirror _ hg

theorem recomputeFlow_touched (config : EngineConfig) (sources : SourceTable) (ctx : FreshnessContext)
    (atTime : Timestamp) (f : FlowRuntime) : (recomputeFlow config sources ctx atTime f).lastTouched =
    f.lastTouched := by
  obtain ⟨_, _, _, _, _, _, _, _, _, _, _, _, _, h⟩ := recomputeFlow_eq f
  rw [h]

/-- A binding is in a replay before it is refreshed when it is afterwards. -/
theorem SourceBinding.Unconfirmed.of_refresh {b : SourceBinding}
    (h : (refreshBinding config sources ctx b).Unconfirmed ds) : b.Unconfirmed ds := by
  refine ⟨(refreshBinding_marks config sources ctx b).1.symm.trans h.awaiting, fun v hv => ?_⟩
  rw [← refreshBinding_source config sources ctx b]
  refine h.granted v ?_
  unfold refreshBinding
  split
  · exact hv
  · simp only [SourceBinding.fold, hv, Option.getD_some]

/-- **One observation in a replay** leaves its flow as the next chronicle tells. -/
theorem Chronicle.Tells.next (h : c.Tells tx.flow) (hgrants : Grants ds sources) (hnow : ctx.now = obs.receivedAt)
    (hheaded : (Exit.ofExcept (applyToFlow config sources ctx true obs.receivedAt obs tx)).1.flow.Headed)
    (hreplay : ∀ gen g, (Exit.ofExcept
      (applyToFlow config sources ctx true obs.receivedAt obs tx)).1.flow.generations.find?
      gen = some g → g.Unconfirmed ds sources) :
    (c.next config ds obs (tx.hears config obs) tx.flow
      (Exit.ofExcept (applyToFlow config sources ctx true obs.receivedAt obs tx)).1.flow).Tells
        (Exit.ofExcept (applyToFlow config sources ctx true obs.receivedAt obs tx)).1.flow := by
  have hkept : ∀ gen, (tx.flow.generations.find? gen).any (fun g => isTerminal g.state)
      = ((tx.flow.generations.find? gen).isSome && c.ended gen) := by
    intro gen
    cases hg : tx.flow.generations.find? gen with
    | none => rfl
    | some g => rw [Option.any_some, Option.isSome_some, Bool.true_and, h.ended gen g hg]
  rcases FlowTx.replay_cases config sources ctx obs
    tx with ⟨hheard, hunheard⟩ | ⟨hheard, t, hcarries, htouched, hknown, hflow⟩
  · rw [hheard]
    refine ⟨hunheard.touched.trans h.touched, ?_, fun gen g hg => ?_⟩
    · rw [hunheard.closed, h.closed]
      rfl
    · rw [hunheard.carries gen g hg, hkept]
      rfl
  · rw [hheard]
    rw [hflow] at hheaded hreplay ⊢
    have hended : ∀ gen g, (recomputeFlow config sources ctx obs.receivedAt t).generations.find? gen = some g →
        isTerminal g.state = ((tx.flow.generations.find? gen).isSome && c.ended gen ||
          ((recomputeFlow config sources ctx obs.receivedAt t).generations.find? gen).any
            (·.ends config ds obs.receivedAt)) := by
      intro gen g hg
      have hunconfirmed := hreplay gen g hg
      rw [hg, Option.any_some, ← hkept]
      rw [recomputeFlow_generations, find?_recomputed] at hg
      obtain ⟨g₀, hg₀, rfl⟩ := Option.map_eq_some_iff.1 hg
      have hbefore : g₀.Unconfirmed ds sources := by
        have hmem : ∀ b ∈ g₀.bindings.toList,
        refreshBinding config sources ctx b ∈ (recomputeRecord config sources ctx t.id
            t.currentGeneration obs.receivedAt g₀).bindings.toList := by
          intro b hb
          rw [recomputeRecord_bindings, SortedVec.toList_map]
          exact List.mem_map_of_mem hb
        refine ⟨fun b hb => (hunconfirmed.bindings _ (hmem b hb)).of_refresh, fun b hb => ?_⟩
        have hregistered := hunconfirmed.registered _ (hmem b hb)
        rwa [refreshBinding_source] at hregistered
      rw [hbefore.recompute_ends hgrants, hcarries gen g₀ hg₀, hnow]
    refine ⟨(recomputeFlow_touched _ _ _ _ t).trans htouched, ?_, hended⟩
    have hcurrent : ∃ g, (recomputeFlow config sources ctx obs.receivedAt t).generations.find?
        (recomputeFlow config sources ctx obs.receivedAt t).currentGeneration = some g := by
      rcases hheaded.retained with hsome | ⟨hnone, -⟩
      · exact Option.isSome_iff_exists.1 hsome
      · have hgone := hnone obs.subject.generation
        rw [recomputeFlow_generations, find?_recomputed, Option.map_eq_none_iff] at hgone
        rw [hgone] at hknown
        cases hknown
    obtain ⟨g, hg⟩ := hcurrent
    rw [recomputeFlow_mirrors hg]
    exact hended _ g hg

end Replay

end FlowObs
