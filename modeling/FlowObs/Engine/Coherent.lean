import FlowObs.Engine.Reachable
import FlowObs.Engine.Refusal

/-!
# The cached folds

A binding caches the fold of its ledger. What can make the fold another one without giving up the cache is an
observation whose key the ledger knows, and another descriptor for a source. `Agrees` says of a projection of the
views that the cache and the ledger show the same; `coherent_of_reachedBy` carries it through every run in which
nothing changes the projection under a cached fold, and `sourceView_coherent` is the case of the whole view.
-/

namespace FlowObs

/-! ## One binding -/

/-- The ledger knows the key of an observation: it is retained, or remembered within the folded region. -/
def SourceLedger.knows (l : SourceLedger) (obs : Observation) : Bool :=
  if l.insideFolded obs then l.prefixState.foldContains obs.canonicalKey else (l.entries.find? obs.canonicalKey).isSome

/-- The ledger replaces what it retains under the key of an observation by the observation. -/
def SourceLedger.replaces (l : SourceLedger) (obs : Observation) : Bool :=
  !l.insideFolded obs && (l.entries.find? obs.canonicalKey).any (fun stored => contentDigest obs < contentDigest stored)

/-- The cached fold of a binding shows what its ledger shows under the descriptor of its source. -/
def Agrees {α : Type} (shown : SourceView → α) (config : EngineConfig) (sources : SourceTable) (b : SourceBinding) :
    Prop :=
  ∀ v, b.cached = some v → ∃ s ctx, sources.find? b.source = some s ∧
    shown v = shown (foldSourceView b.ledger s.descriptor ctx config.counters)

section Binding

variable {α : Type} {shown : SourceView → α} {config : EngineConfig} {sources sources' : SourceTable}
    {b : SourceBinding}
variable {obs : Observation}

theorem Agrees.of_none (h : b.cached = none) : Agrees shown config sources b := by
  intro v hv
  rw [h] at hv
  cases hv

/-- Every source of the one table has the same descriptor in the other. -/
def SameDescriptors (sources sources' : SourceTable) : Prop :=
  ∀ id s, sources.find? id = some s → ∃ s', sources'.find? id = some s' ∧ s'.descriptor = s.descriptor

theorem Agrees.mono (h : Agrees shown config sources b) (hsame : SameDescriptors sources sources') :
    Agrees shown config sources' b := by
  intro v hv
  obtain ⟨s, ctx, hs, hshown⟩ := h v hv
  obtain ⟨s', hs', hd⟩ := hsame _ s hs
  exact ⟨s', ctx, hs', hd ▸ hshown⟩

/-- Caching the fold keeps the agreement. -/
theorem Agrees.refresh (h : Agrees shown config sources b) (ctx : FreshnessContext) :
    Agrees shown config sources (refreshBinding config sources ctx b) := by
  unfold refreshBinding
  cases hs : sources.find? b.source with
  | none => exact h
  | some s =>
    intro v hv
    have hfold : b.fold s.descriptor ctx config = v := Option.some.inj hv
    unfold SourceBinding.fold at hfold
    cases hc : b.cached with
    | some v' =>
      rw [hc] at hfold
      obtain rfl : v' = v := hfold
      exact h v' hc
    | none =>
      rw [hc] at hfold
      exact ⟨s, _, hs, by rw [← hfold]; rfl⟩

/-- The ledger gives the same fold when it has refused an observation. -/
theorem foldSourceView_of_refused {l : SourceLedger} (h : (l.insert obs).2.kind = .Refused) (d : SourceDescriptor)
    (ctx : FreshnessContext) (counters : CounterPolicy) :
    foldSourceView (l.insert obs).1 d ctx counters = foldSourceView l d ctx counters := by
  have hcases := l.insert_cases obs
  generalize (l.insert obs).1 = l' at hcases
  rw [h] at hcases
  cases hcases with
  | foreign _ => rfl
  | stale _ _ _ => rfl

/-- What the ledger shows is the same after an observation that is neither accepted nor refused. -/
def SourceLedger.Shows (shown : SourceView → α) (counters : CounterPolicy) (l : SourceLedger) (obs : Observation) :
    Prop :=
  (l.insert obs).2.kind = .Duplicate ∨ (l.insert obs).2.kind = .ContentConflict →
    ∀ d ctx, shown (foldSourceView (l.insert obs).1 d ctx counters) = shown (foldSourceView l d ctx counters)

/-- **What taking an observation does to the agreement.** -/
theorem Agrees.take (h : Agrees shown config sources b) (replaying : Bool)
    (hshows : b.cached ≠ none → b.ledger.Shows shown config.counters obs) :
    Agrees shown config sources (b.take replaying obs).1 := by
  intro v hv
  rw [SourceBinding.take_source, SourceBinding.take_ledger]
  have hcached : (b.ledger.insert obs).2.kind ≠ .Accepted ∧ b.cached = some v := by
    unfold SourceBinding.take at hv
    cases hk : (b.ledger.insert obs).2.kind with
    | Accepted => simp [hk] at hv
    | Duplicate => simpa [hk] using hv
    | ContentConflict => simpa [hk] using hv
    | Refused => simpa [hk] using hv
  obtain ⟨hnot, hc⟩ := hcached
  obtain ⟨s, ctx, hs, hshown⟩ := h v hc
  refine ⟨s, ctx, hs, hshown.trans ?_⟩
  have hsame := hshows (by rw [hc]; exact Option.some_ne_none v)
  cases hk : (b.ledger.insert obs).2.kind with
  | Accepted => exact absurd hk hnot
  | Refused => rw [foldSourceView_of_refused hk]
  | Duplicate => exact (hsame (.inl hk) _ _).symm
  | ContentConflict => exact (hsame (.inr hk) _ _).symm

end Binding

namespace Engine

/-! ## Runs -/

section Run

variable {α : Type} {shown : SourceView → α} {e : Engine}

/-- What an observation leaves of a cached fold. -/
def KeepsShown (shown : SourceView → α) (e : Engine) (incoming : Observation) : Prop :=
  e.reachesLedger incoming = true → (e.bindingFor (e.taken incoming)).cached ≠ none →
    (e.bindingFor (e.taken incoming)).ledger.Shows shown e.config.counters (e.taken incoming)

/-- What another descriptor for a known source leaves of the cached folds. -/
def KeepsDescribed (shown : SourceView → α) (e : Engine) (d : SourceDescriptor) : Prop :=
  ∀ s, e.Updates d s → ∀ flow gen b, e.binding? flow gen d.id = some b → b.cached ≠ none → ∀ ctx,
    shown (foldSourceView b.ledger s.descriptor ctx e.config.counters)
      = shown (foldSourceView b.ledger d ctx e.config.counters)

/-- The caches of the engine show what its ledgers show. -/
def Coherent (shown : SourceView → α) (e : Engine) : Prop := e.Holds (fun _ _ b => Agrees shown e.config e.sources b)

theorem binding?_source {flow : FlowId} {gen : GenerationId} {source : SourceId} {b : SourceBinding}
    (h : e.binding? flow gen source = some b) : b.source = source := by
  obtain ⟨f, -, hb⟩ := Option.bind_eq_some_iff.1 h
  obtain ⟨g, -, hb⟩ := Option.bind_eq_some_iff.1 hb
  exact SortedVec.find?_key hb

theorem Coherent.of_sources (h : e.Coherent shown) {e' : Engine} (hc : e'.config = e.config) (hf : e'.flows = e.flows)
    (hsame : SameDescriptors e.sources e'.sources) : e'.Coherent shown := by
  have hmono := h.mono (fun flow gen b hb => hb.mono hsame)
  unfold Coherent
  rw [hc]
  exact hmono.of_flows hf

theorem coherent_applyLocked (h : e.Coherent shown) {incoming : Observation} (hkeeps : e.KeepsShown shown incoming) :
    (e.applyLocked incoming).1.Coherent shown := by
  have hmono : e.Holds (fun _ _ b => Agrees shown e.config (e.applyLocked incoming).1.sources b) :=
    h.mono (fun _ _ b hb => hb.mono (fun id s hs => ⟨s, keeps_applyLocked e incoming hs, rfl⟩))
  unfold Coherent
  rw [(sameSettings_applyLocked e incoming).config_eq]
  refine holds_applyLocked hmono (fun ctx flow gen b hb => hb.refresh ctx) (fun _ hreach => ?_)
  refine Agrees.take ?_ e.replaying (hkeeps hreach)
  unfold bindingFor
  cases hb : e.binding? (e.taken incoming).subject.flow (e.taken incoming).subject.generation
    (e.taken incoming).key.source with
  | none => exact .of_none rfl
  | some b => exact hmono _ _ _ b hb

/-- A known source that gets another descriptor. -/
theorem coherent_update (h : e.Coherent shown) {d : SourceDescriptor} {s : SourceState} (hu : e.Updates d s)
    (hkeeps : e.KeepsDescribed shown d) :
    ({ e with sources := e.sources.set { s with descriptor := d, retired := false } } : Engine).Coherent shown := by
  intro flow gen source b hb v hv
  obtain ⟨s', ctx, hs', hshown⟩ := h flow gen source b hb v hv
  show ∃ s'' ctx, (e.sources.set { s with descriptor := d, retired := false }).find? b.source = some s'' ∧ _
  rw [SortedVec.find?_set]
  split
  · rename_i hid
    have hsource : d.id = b.source := hid
    rw [← hsource, hu.known] at hs'
    cases hs'
    refine ⟨_, ctx, rfl, hshown.trans ?_⟩
    have hb' : e.binding? flow gen b.source = some b := by rw [binding?_source hb]; exact hb
    refine hkeeps s hu flow gen b (hsource ▸ hb') (fun hnone => ?_) ctx
    rw [hnone] at hv
    cases hv
  · exact ⟨s', ctx, hs', hshown⟩

/-- Registering sources that are not known leaves the descriptors of the others. -/
theorem sameDescriptors_set {sources : SourceTable} {s : SourceState} (h : sources.find? s.id = none) :
    SameDescriptors sources (sources.set s) := by
  intro id s' hs'
  refine ⟨s', ?_, rfl⟩
  rw [SortedVec.find?_set]
  split
  · rename_i hid
    rw [← hid, h] at hs'
    cases hs'
  · exact hs'

theorem sameDescriptors_restored (openedAt : Timestamp) (ps : List PersistedSource) (sources : SourceTable) :
    SameDescriptors sources (ps.foldl (restoreDescriptor openedAt) sources) := by
  induction ps generalizing sources with
  | nil => exact fun id s hs => ⟨s, hs, rfl⟩
  | cons p ps ih =>
    have hone : SameDescriptors sources (restoreDescriptor openedAt sources p) := by
      unfold restoreDescriptor
      split
      · exact fun id s hs => ⟨s, hs, rfl⟩
      · rename_i hnone
        exact sameDescriptors_set (Option.not_isSome_iff_eq_none.1 hnone)
    intro id s hs
    obtain ⟨s₁, hs₁, hd₁⟩ := hone id s hs
    obtain ⟨s₂, hs₂, hd₂⟩ := ih (restoreDescriptor openedAt sources p) id s₁ hs₁
    exact ⟨s₂, hs₂, hd₂.trans hd₁⟩

/-- A source that is retired keeps its descriptor. -/
theorem sameDescriptors_retired {sources : SourceTable} {id : SourceId} {s : SourceState}
    (h : sources.find? id = some s) :
    SameDescriptors sources (sources.set { s with retired := true }) := by
  intro id' s' hs'
  rw [SortedVec.find?_set]
  split
  · rename_i hid
    have hkey : s.id = id' := hid
    rw [← hkey, SortedVec.find?_key h, h] at hs'
    cases hs'
    exact ⟨_, rfl, rfl⟩
  · exact ⟨s', hs', rfl⟩

/-- **In every run in which nothing changes what is shown under a cached fold, the caches are coherent.** -/
theorem coherent_of_reachedBy (h : e.ReachedBy (KeepsShown shown) (KeepsDescribed shown)) : e.Coherent shown := by
  have hnone : ∀ e : Engine, e.flows = ∅ → e.Coherent shown := by
    intro e hf flow gen source b hb
    unfold binding? at hb
    rw [hf] at hb
    cases hb
  refine reachedBy_rule (P := Coherent shown) (fun e _ hf => hnone e hf) (fun e e' hc hf hs h => ?_)
    (fun e e' _ hf _ => hnone e' hf) (fun e obs h hkeeps => coherent_applyLocked h hkeeps) (fun e atTime due h => ?_)
    (fun e s id hs h => ?_) (fun e d s _ hd hdescribed _ h => ?_) (fun e d s hu hkeeps h => coherent_update h hu hkeeps)
    (fun e ps h => ?_) (fun e previous p h => ?_) h
  · exact h.of_sources hc hf (fun id s hid => ⟨s, hs ▸ hid, rfl⟩)
  · exact holds_recomputeAll h due (fun ctx flow gen b hb => hb.refresh ctx)
  · have hretired : ({ e with sources := e.sources.set { s with retired := true } } : Engine).Coherent shown :=
      h.of_sources rfl rfl (sameDescriptors_retired hs)
    exact Holds.dropped hretired s id
  · exact h.of_sources rfl rfl (sameDescriptors_set (by rw [SourceState.id, hdescribed]; exact hd))
  · exact h.of_sources rfl rfl (sameDescriptors_restored e.openedAt ps e.sources)
  · refine h.set rfl (fun gen source b hb => ?_)
    obtain ⟨s, rfl⟩ := binding?_restoreFlow hb
    exact .of_none rfl

end Run

/-! ## The whole view -/

/-- No observation whose key the ledger knows reaches it while its fold is cached. -/
def Unrepeated (e : Engine) (incoming : Observation) : Prop :=
  e.reachesLedger incoming = true → (e.bindingFor (e.taken incoming)).ledger.knows (e.taken incoming) = true →
    (e.bindingFor (e.taken incoming)).cached = none

/-- A known source gets another descriptor only while no fold of its evidence is cached. -/
def KeepsDescriptor (e : Engine) (d : SourceDescriptor) : Prop :=
  ∀ s, e.Updates d s → s.descriptor = d ∨ ∀ flow gen b, e.binding? flow gen d.id = some b → b.cached = none

instance (e : Engine) (incoming : Observation) : Decidable (e.Unrepeated incoming) :=
  inferInstanceAs (Decidable (_ → _ → _))

end Engine

/-- A view without what `source_view` sets in it. -/
def SourceView.folded (v : SourceView) : SourceView :=
  { v with
    freshness := .Unknown, refusedObservations := 0, staleEpochEvents := 0, staleIncarnationEvents := 0
    clockSkewEvents := 0, unsupportedEvents := 0, incompleteEvents := 0, restoredFromJournal := false
    reconfirmed := false }

/-- The context matters to a fold only in what `source_view` sets. -/
theorem folded_foldSourceView (l : SourceLedger) (d : SourceDescriptor) (ctx ctx' : FreshnessContext)
    (counters : CounterPolicy) : (foldSourceView l d ctx counters).folded =
    (foldSourceView l d ctx' counters).folded := by
  simp only [foldSourceView, SourceView.folded]

/-- `source_view` shows of a fold what is left of it without what it sets. -/
theorem sourceView_congr {config : EngineConfig} {b b' : SourceBinding} {d : SourceDescriptor} {ctx : FreshnessContext}
    (hb : b' = { b with cached := b'.cached }) (h : (b'.fold d ctx config).folded = (b.fold d ctx config).folded) :
    sourceView config b' d ctx = sourceView config b d ctx := by
  have hset : ∀ b₀ : SourceBinding, sourceView config b₀ d ctx = { (b₀.fold d ctx config).folded with
      freshness := if !b₀.reconfirmed && config.freshness.requireReconfirmationAfterRestart then .Unknown
        else classifyFreshness (b₀.fold d ctx config).folded.lastObservedAt
          (b₀.fold d ctx config).folded.lastReceivedAt ctx
      refusedObservations := b₀.refusedObservations, staleEpochEvents := b₀.staleEpochEvents
      staleIncarnationEvents := b₀.staleIncarnationEvents, clockSkewEvents := b₀.clockSkewEvents
      unsupportedEvents := b₀.unsupportedEvents, incompleteEvents := b₀.incompleteEvents
      restoredFromJournal := b₀.restored, reconfirmed := b₀.reconfirmed } := fun _ => rfl
  rw [hset b', hset b, h, hb]

/-- **A cached fold that agrees with its ledger shows what a fresh one shows.** -/
theorem bindingView_of_agrees {config : EngineConfig} {sources : SourceTable} {b : SourceBinding}
    (h : Agrees SourceView.folded config sources b) (ctx : FreshnessContext) :
    bindingView config sources ctx b = bindingView config sources ctx { b with cached := none } := by
  cases hs : sources.find? b.source with
  | none => simp only [bindingView, hs, Option.map_none]
  | some s =>
    simp only [bindingView, hs, Option.map_some]
    refine congrArg some (sourceView_congr rfl ?_)
    cases hc : b.cached with
    | none => simp only [SourceBinding.fold, hc]
    | some v =>
      obtain ⟨s', ctx', hs', hv⟩ := h v hc
      rw [hs] at hs'
      cases hs'
      simp only [SourceBinding.fold, hc, Option.getD_some, Option.getD_none, hv]
      exact folded_foldSourceView b.ledger s.descriptor ctx' _ config.counters

/-- A ledger that neither accepts nor refuses an observation knows its key. -/
theorem SourceLedger.knows_of_kind {l : SourceLedger} {obs : Observation}
    (h : (l.insert obs).2.kind = .Duplicate ∨ (l.insert obs).2.kind = .ContentConflict) : l.knows obs = true := by
  have hcases := l.insert_cases obs
  generalize (l.insert obs).1 = l' at hcases
  generalize (l.insert obs).2.kind = kind at h hcases
  unfold knows
  cases hcases with
  | foreign _ => simp at h
  | refolded _ hi hc => rw [if_pos hi, hc]
  | stale _ _ _ => simp at h
  | redelivered _ hi stored hf _ => rw [if_neg (by rw [hi]; decide), hf]; rfl
  | replaced _ hi stored hf _ => rw [if_neg (by rw [hi]; decide), hf]; rfl
  | outranked _ hi stored hf _ => rw [if_neg (by rw [hi]; decide), hf]; rfl
  | accepted _ _ _ => simp at h

namespace Engine

theorem keepsShown_of_unrepeated {e : Engine} {incoming : Observation} (h : e.Unrepeated incoming) :
    e.KeepsShown SourceView.folded incoming := by
  intro hreach hcached hkind
  exact absurd (h hreach (SourceLedger.knows_of_kind hkind)) hcached

theorem keepsDescribed_of_keepsDescriptor {e : Engine} {d : SourceDescriptor} (h : e.KeepsDescriptor d) :
    e.KeepsDescribed SourceView.folded d := by
  intro s hu flow gen b hb hcached ctx
  rcases h s hu with hsame | hnone
  · rw [hsame]
  · exact absurd (hnone flow gen b hb) hcached

/-- **`source_view` is coherent.** In every state reached when no key that a ledger knows is delivered to it again,
and no known source is described anew, while a fold is cached, each view is the one that a fold of the ledger gives.
-/
theorem sourceView_coherent {e : Engine} (h : e.ReachedBy Unrepeated KeepsDescriptor) : e.Holds (fun _ _ b =>
    ∀ ctx, bindingView e.config e.sources ctx b = bindingView e.config e.sources ctx { b with cached := none }) := by
  have hreached := h.mono (fun _ _ => keepsShown_of_unrepeated) (fun _ _ => keepsDescribed_of_keepsDescriptor)
  exact (coherent_of_reachedBy hreached).mono (fun _ _ b hb ctx => bindingView_of_agrees hb ctx)

/-- An engine to which the source `a` reported two bytes. -/
def reported : Engine :=
  ({ clock := ⟨1000⟩ } : Engine).openEngine.1.step
    (.ingest ((sampleObservation (sourceIdFromKey (str "a")) .Sample 1 ⟨900⟩).withBytes 2))

theorem reported_opened : ({ clock := ⟨1000⟩ } : Engine).openEngine.2 = .ok () := 
  opens_new_iff.2 (EngineConfig.validate_default _)

theorem sourceView_coherent_reported : reported.Holds (fun _ _ b =>
    ∀ ctx, bindingView reported.config reported.sources ctx b
      = bindingView reported.config reported.sources ctx { b with cached := none }) :=
  sourceView_coherent (.step (.opened {} ⟨1000⟩ none reported_opened (fun p hp => by cases hp)) _
    (by with_unfolding_all decide)
    (fun d hd => by cases hd))

/-- **A fold stays cached when a conflicting observation takes the place of the one that was folded.** -/
theorem sourceView_can_be_stale : ¬ ∀ e : Engine, e.Reachable → e.Holds (fun _ _ b =>
    ∀ ctx, bindingView e.config e.sources ctx b = bindingView e.config e.sources ctx { b with cached := none }) := by
  intro h
  have hreached : (reported.step (.ingest oneByte)).Reachable := .step (.step (.opened {} ⟨1000⟩ reported_opened) _) _
  have hstale : ((reported.step (.ingest oneByte)).binding? sampleFlow ⟨1⟩ (sourceIdFromKey (str "a"))).any (fun b =>
      bindingView (reported.step (.ingest oneByte)).config (reported.step (.ingest oneByte)).sources {} b
        != bindingView (reported.step (.ingest oneByte)).config (reported.step (.ingest oneByte)).sources {}
          { b with cached := none }) = true := by
    decide +kernel
  obtain ⟨b, hb, hne⟩ := (Option.any_eq_true _ _).1 hstale
  rw [h _ hreached _ _ _ b hb {}, bne_self_eq_false] at hne
  cases hne

end Engine

end FlowObs
