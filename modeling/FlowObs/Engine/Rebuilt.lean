import Mathlib.Data.Finset.Card
import FlowObs.Engine.Chronicle
import FlowObs.Engine.Registered

/-!
# What a restart rebuilds

A journal that is not compacted is replayed observation by observation. Two engines whose flows have one sketch take
an observation alike when its source finds its place in both and they give up the same flow and the same generation
for room (`SameSketches.applyJournaled`). What a replay gives up, the chronicles of the journal choose
(`Replays.tell`); so a live engine that chooses by them is rebuilt by the replay of its log
(`Reproduces.applyLocked`).
-/

namespace FlowObs

namespace Engine

/-! ## Engines that are alike -/

/-- The identities of the registered sources. -/
def sourceIds (e : Engine) : Finset SourceId := (e.sources.toList.map SourceState.id).toFinset

/-- The flows of two engines are the same when they are bare, and so are the registries and the configuration. -/
structure SameLedgers (e e' : Engine) : Prop where
  config : e.config = e'.config
  flows : e.flows.map FlowRuntime.bare FlowRuntime.bare_id = e'.flows.map FlowRuntime.bare FlowRuntime.bare_id
  registries : e.registries = e'.registries

/-- The flows of two engines have one sketch, and the registries and the configuration are the same. -/
structure SameSketches (e e' : Engine) : Prop where
  config : e.config = e'.config
  flows : e.flows.map FlowRuntime.sketch FlowRuntime.sketch_id = e'.flows.map FlowRuntime.sketch FlowRuntime.sketch_id
  registries : e.registries = e'.registries

/-- The source is registered, or there is room to register it. -/
def Admits (e : Engine) (source : SourceId) : Prop :=
  source ∈ e.sourceIds ∨ e.sourceIds.card < e.config.limits.maxSources.toNat

instance (e : Engine) (source : SourceId) : Decidable (e.Admits source) := inferInstanceAs (Decidable (_ ∨ _))

/-- No source is retired under the identity. -/
def Serves (e : Engine) (source : SourceId) : Prop := ∀ s, e.sources.find? source = some s → s.retired = false

instance (e : Engine) (source : SourceId) : Decidable (e.Serves source) :=
  decidable_of_iff ((e.sources.find? source).all (!·.retired) = true) (by
    unfold Serves
    cases e.sources.find? source <;> simp)

/-- The flow of an observation, found or created. -/
def flowFor (e : Engine) (atTime : Timestamp) (obs : Observation) : FlowRuntime :=
  (e.flows.find? obs.subject.flow).getD (e.createFlow atTime obs)

/-- The flows with room for the flow of an observation, and whether there is room. -/
def roomFor (e : Engine) (obs : Observation) : SortedVec FlowRuntime.id × Bool :=
  if (e.flows.find? obs.subject.flow).isSome then (e.flows, true)
  else (e.makeFlowRoom.1.flows, e.makeFlowRoom.2)

variable {e e' e'' : Engine} {atTime atTime' : Timestamp} {obs : Observation} {k : Str} {source : SourceId}

theorem mem_sourceIds : source ∈ e.sourceIds ↔ (e.sources.find? source).isSome = true := by
  rw [sourceIds, List.mem_toFinset, List.mem_map]
  constructor
  · rintro ⟨s, hs, rfl⟩
    rw [SortedVec.find?_of_mem hs]
    rfl
  · intro h
    obtain ⟨s, hs⟩ := Option.isSome_iff_exists.1 h
    exact ⟨s, SortedVec.find?_mem hs, SortedVec.find?_key hs⟩

theorem card_sourceIds (e : Engine) : e.sourceIds.card = e.sources.toList.length := by
  rw [sourceIds, List.toFinset_card_of_nodup e.sources.nodup_keys, List.length_map]

theorem sourceIds_set (e : Engine) (s : SourceState) :
    ({ e with sources := e.sources.set s } : Engine).sourceIds = insert s.id e.sourceIds := by
  ext id
  rw [Finset.mem_insert, mem_sourceIds, mem_sourceIds, SortedVec.find?_set]
  split
  · rename_i h
    simp [← h, SourceState.id]
  · rename_i h
    have hne : id ≠ s.id := fun he => h he.symm
    simp [hne]

theorem SameLedgers.refl (e : Engine) : e.SameLedgers e := ⟨rfl, rfl, rfl⟩

theorem SameLedgers.trans (h : e.SameLedgers e') (h' : e'.SameLedgers e'') : e.SameLedgers e'' :=
  ⟨h.config.trans h'.config, h.flows.trans h'.flows, h.registries.trans h'.registries⟩

theorem SameLedgers.find? (h : e.SameLedgers e') (flow : FlowId) :
    (e.flows.find? flow).map FlowRuntime.bare = (e'.flows.find? flow).map FlowRuntime.bare := by
  rw [← SortedVec.find?_map _ _ FlowRuntime.bare_id, h.flows, SortedVec.find?_map]

namespace SameSketches

theorem refl (e : Engine) : e.SameSketches e := ⟨rfl, rfl, rfl⟩

theorem symm (h : e.SameSketches e') : e'.SameSketches e := ⟨h.config.symm, h.flows.symm, h.registries.symm⟩

theorem trans (h : e.SameSketches e') (h' : e'.SameSketches e'') : e.SameSketches e'' :=
  ⟨h.config.trans h'.config, h.flows.trans h'.flows, h.registries.trans h'.registries⟩

theorem find? (h : e.SameSketches e') (flow : FlowId) :
    (e.flows.find? flow).map FlowRuntime.sketch = (e'.flows.find? flow).map FlowRuntime.sketch := by
  rw [← SortedVec.find?_map _ _ FlowRuntime.sketch_id, h.flows, SortedVec.find?_map]

theorem isSome (h : e.SameSketches e') (flow : FlowId) :
    (e.flows.find? flow).isSome = (e'.flows.find? flow).isSome := by
  have hboth := congrArg Option.isSome (h.find? flow)
  rwa [Option.isSome_map, Option.isSome_map] at hboth

theorem ids (h : e.SameSketches e') : e.flows.toList.map (·.id) = e'.flows.toList.map (·.id) := by
  have hsketch : ∀ v : SortedVec FlowRuntime.id,
      v.toList.map (·.id) = (v.map FlowRuntime.sketch FlowRuntime.sketch_id).toList.map (·.id) := fun v => by
    rw [SortedVec.toList_map, List.map_map]
    rfl
  exact (hsketch e.flows).trans ((congrArg (fun v => v.toList.map (·.id)) h.flows).trans (hsketch e'.flows).symm)

theorem length (h : e.SameSketches e') : e.flows.toList.length = e'.flows.toList.length := by
  simpa only [List.length_map] using congrArg List.length h.ids

theorem sameLedgers (h : e.SameSketches e') : e.SameLedgers e' := by
  refine ⟨h.config, SortedVec.ext_find? fun flow => ?_, h.registries⟩
  have hfind := h.find? flow
  rw [SortedVec.find?_map, SortedVec.find?_map]
  cases hf : e.flows.find? flow with
  | none =>
    rw [hf, Option.map_none] at hfind
    rw [Option.map_eq_none_iff.1 hfind.symm]
  | some f =>
    rw [hf, Option.map_some] at hfind
    obtain ⟨f', hf', hsketch⟩ := Option.map_eq_some_iff.1 hfind.symm
    rw [hf', Option.map_some, Option.map_some, FlowRuntime.bare_of_sketch hsketch]

theorem flowFor (h : e.SameSketches e') (atTime atTime' : Timestamp) (obs : Observation) (k : Str) :
    (e.flowFor atTime obs).sketch = (e'.flowFor atTime' { obs with sourceKey := k }).sketch := by
  have hfind := h.find? obs.subject.flow
  unfold Engine.flowFor
  cases hf : e.flows.find? obs.subject.flow with
  | none =>
    rw [hf, Option.map_none] at hfind
    rw [Option.map_eq_none_iff.1 hfind.symm]
    rfl
  | some f =>
    rw [hf, Option.map_some] at hfind
    obtain ⟨f', hf', hsketch⟩ := Option.map_eq_some_iff.1 hfind.symm
    rw [hf']
    exact hsketch.symm

end SameSketches

/-! ## Room for a flow -/

/-- Two engines give up the same for an observation: the same flow when its flow is unknown and the table is full, and
the same generation when its flow asks for room. -/
structure SameChoices (e e' : Engine) (obs : Observation) : Prop where
  flow : e.flows.find? obs.subject.flow = none → e.config.limits.maxFlows.toNat ≤ e.flows.toList.length →
    e.victim.map (·.id) = e'.victim.map (·.id)
  generation : ∀ f f', e.flows.find? obs.subject.flow = some f → e'.flows.find? obs.subject.flow = some f' →
    f.Asked e.config e.registries obs → f.evictable = f'.evictable

theorem roomFor_known (h : (e.flows.find? obs.subject.flow).isSome = true) : e.roomFor obs = (e.flows, true) := if_pos h

theorem roomFor_unknown (hnone : e.flows.find? obs.subject.flow = none) : e.roomFor obs =
    if e.flows.toList.length < e.config.limits.maxFlows.toNat then (e.flows, true)
    else match e.victim.map (·.id) with
      | none => (e.flows, false)
      | some id => (e.flows.erase id, decide ((e.flows.erase id).toList.length < e.config.limits.maxFlows.toNat)) := by
  rw [roomFor, hnone, if_neg (by simp), makeFlowRoom, evictOneFlow]
  split
  · rfl
  · cases e.victim <;> rfl

/-- Engines that give up the same flow make the same room. -/
theorem SameSketches.roomFor (h : e.SameSketches e') (hsame : e.SameChoices e' obs) (k : Str) :
    (e.roomFor obs).1.map FlowRuntime.sketch FlowRuntime.sketch_id
        = (e'.roomFor { obs with sourceKey := k }).1.map FlowRuntime.sketch FlowRuntime.sketch_id ∧
      (e.roomFor obs).2 = (e'.roomFor { obs with sourceKey := k }).2 := by
  have hsome := h.isSome obs.subject.flow
  cases hf : e.flows.find? obs.subject.flow with
  | some f =>
    have hknown : (e.flows.find? obs.subject.flow).isSome = true := by rw [hf, Option.isSome_some]
    have hknown' : (e'.flows.find? ({ obs with sourceKey := k } : Observation).subject.flow).isSome = true :=
      hsome.symm.trans hknown
    rw [roomFor_known hknown, roomFor_known hknown']
    exact ⟨h.flows, rfl⟩
  | none =>
    rw [hf, Option.isSome_none] at hsome
    have hf' : e'.flows.find? ({ obs with sourceKey := k } : Observation).subject.flow = none :=
      Option.not_isSome_iff_eq_none.1 (Bool.eq_false_iff.1 hsome.symm)
    rw [roomFor_unknown hf, roomFor_unknown hf', h.length, h.config]
    split
    · exact ⟨h.flows, rfl⟩
    · rename_i hfull
      rw [hsame.flow hf (by rw [h.length, h.config]; exact Nat.not_lt.1 hfull)]
      cases e'.victim with
      | none => exact ⟨h.flows, rfl⟩
      | some v =>
        have herased : (e.flows.erase v.id).map FlowRuntime.sketch FlowRuntime.sketch_id
            = (e'.flows.erase v.id).map FlowRuntime.sketch FlowRuntime.sketch_id := by
          rw [SortedVec.map_erase, SortedVec.map_erase, h.flows]
        have hlength := congrArg (fun v : SortedVec FlowRuntime.id => v.toList.length) herased
        simp only [SortedVec.toList_map, List.length_map] at hlength
        exact ⟨herased, by simp only [Option.map_some, hlength]⟩

/-! ## One observation -/

theorem resolveSource_admits (atTime : Timestamp) (hs : e.Serves source) (ha : e.Admits source) : ∃ sources,
    e.resolveSource atTime source = .ok { e with sources := sources } ∧
      ({ e with sources := sources } : Engine).sourceIds = insert source e.sourceIds := by
  unfold resolveSource
  cases hf : e.sources.find? source with
  | some s =>
    have hmem : source ∈ e.sourceIds := mem_sourceIds.2 (by rw [hf]; rfl)
    refine ⟨e.sources, ?_, (Finset.insert_eq_of_mem hmem).symm⟩
    simp [hs s hf]
  | none =>
    have hroom : e.sourceIds.card < e.config.limits.maxSources.toNat := by
      refine ha.resolve_left fun hmem => ?_
      have hsome := mem_sourceIds.1 hmem
      rw [hf] at hsome
      cases hsome
    rw [card_sourceIds] at hroom
    refine ⟨_, if_neg (Nat.not_le.2 hroom), ?_⟩
    exact sourceIds_set e (unregisteredSource atTime source)

/-- An observation whose source finds no place changes none of the tables. -/
theorem applyJournaled_refused (atTime : Timestamp) (ha : ¬ e.Admits obs.key.source) :
    (e.applyJournaled atTime obs).1 = (e.refuse .LimitExceeded (str "source registry is full")).1 := by
  have hnone : e.sources.find? obs.key.source = none := by
    cases hf : e.sources.find? obs.key.source with
    | none => rfl
    | some s => exact absurd (.inl (mem_sourceIds.2 (by rw [hf]; rfl))) ha
  have hfull : e.config.limits.maxSources.toNat ≤ e.sources.toList.length := by
    rw [← card_sourceIds]
    exact Nat.not_lt.1 fun hlt => ha (.inr hlt)
  simp only [applyJournaled, resolveSource, hnone, if_pos hfull]
  rfl

/-- An observation whose source finds its place is handed to its flow, or finds no room for it. -/
theorem applyJournaled_admitted (atTime : Timestamp) (hs : e.Serves obs.key.source) (ha : e.Admits obs.key.source) :
    ∃ sources counters, ({ e with sources := sources } : Engine).sourceIds = insert obs.key.source e.sourceIds ∧
      (e.applyJournaled atTime obs).1 =
        if (e.roomFor obs).2 then ({ e with sources := sources, flows := (e.roomFor obs).1 } : Engine).store
          (Exit.ofExcept (applyToFlow e.config sources e.context e.replaying atTime obs
            ⟨e.flowFor atTime obs, e.registries, counters⟩)).1
        else { e with sources := sources, flows := (e.roomFor obs).1, counters := counters } := by
  obtain ⟨sources, hresolve, hids⟩ := resolveSource_admits atTime hs ha
  cases hf : e.flows.find? obs.subject.flow with
  | some f =>
    refine ⟨sources, e.counters, hids, ?_⟩
    simp only [applyJournaled, hresolve, resolveFlow, roomFor, flowFor, hf]
    rfl
  | none =>
    obtain ⟨-, hroomed⟩ := makeFlowRoom_cases e
    have hroom : ({ e with sources := sources } : Engine).makeFlowRoom
        = ({ e.makeFlowRoom.1 with sources := sources }, e.makeFlowRoom.2) := by
      have hvictim : ({ e with sources := sources } : Engine).victim = e.victim := rfl
      unfold makeFlowRoom evictOneFlow
      rw [hvictim]
      split
      · rfl
      · cases e.victim <;> rfl
    generalize hmade : e.makeFlowRoom = made at hroom hroomed
    obtain ⟨e₁, roomy⟩ := made
    dsimp only at hroom hroomed
    generalize e₁.flows = flows at hroomed
    generalize e₁.counters = counters at hroomed
    subst hroomed
    cases roomy with
    | true =>
      refine ⟨sources, { counters with flowsCreated := counters.flowsCreated + 1 }, hids, ?_⟩
      simp only [applyJournaled, hresolve, resolveFlow, roomFor, flowFor, hf, hroom, hmade]
      rfl
    | false =>
      refine ⟨sources, { counters with observationsRefused := counters.observationsRefused + 1 }, hids, ?_⟩
      simp only [applyJournaled, hresolve, resolveFlow, roomFor, flowFor, hf, hroom, hmade]
      rfl

/-- Flows that are found, or created, give up the same generation. -/
theorem SameSketches.evictable (h : e.SameSketches e') (hsame : e.SameChoices e' obs)
    (atTime atTime' : Timestamp) (k : Str)
    (hasked : (e.flowFor atTime obs).Asked e.config e.registries obs) :
    (e.flowFor atTime obs).evictable = (e'.flowFor atTime' { obs with sourceKey := k }).evictable := by
  have hsome := h.isSome obs.subject.flow
  unfold Engine.flowFor at hasked ⊢
  cases hf : e.flows.find? obs.subject.flow with
  | none =>
    rw [hf, Option.isSome_none] at hsome
    rw [Option.not_isSome_iff_eq_none.1 (Bool.eq_false_iff.1 hsome.symm)]
    rfl
  | some f =>
    rw [hf, Option.isSome_some] at hsome
    obtain ⟨f', hf'⟩ := Option.isSome_iff_exists.1 hsome.symm
    rw [hf, Option.getD_some] at hasked
    rw [hf', Option.getD_some, Option.getD_some]
    exact hsame.generation f f' hf hf' hasked

/-- **One observation** that both engines take, giving up the same, leaves them alike. -/
theorem SameSketches.applyJournaled (h : e.SameSketches e') (hsame : e.SameChoices e' obs) (atTime atTime' : Timestamp)
    (k : Str) (hserves : e.Serves obs.key.source) (hserves' : e'.Serves obs.key.source) (ha : e.Admits obs.key.source)
    (ha' : e'.Admits obs.key.source)
    (hreg : (e.applyJournaled atTime obs).1.EachFlow (Registered (e.applyJournaled atTime obs).1.sources))
    (hreg' : (e'.applyJournaled atTime' { obs with sourceKey := k }).1.EachFlow
      (Registered (e'.applyJournaled atTime' { obs with sourceKey := k }).1.sources)) :
    (e.applyJournaled atTime obs).1.SameSketches (e'.applyJournaled atTime' { obs with sourceKey := k }).1 := by
  obtain ⟨sources, counters, -, heq⟩ := applyJournaled_admitted atTime hserves ha
  obtain ⟨sources', counters', -, heq'⟩ := @applyJournaled_admitted e' { obs with sourceKey := k } atTime' hserves' ha'
  obtain ⟨hflows, hroomy⟩ := h.roomFor hsame k
  have htx : (⟨e.flowFor atTime obs, e.registries, counters⟩ : FlowTx).Alike
      ⟨e'.flowFor atTime' { obs with sourceKey := k }, e'.registries, counters'⟩ :=
        ⟨h.flowFor atTime atTime' obs k, h.registries⟩
  rw [heq] at hreg ⊢
  rw [heq'] at hreg' ⊢
  rw [← hroomy] at hreg' ⊢
  cases hroom : (e.roomFor obs).2 with
  | false => exact ⟨h.config, hflows, h.registries⟩
  | true =>
    rw [hroom, if_pos rfl] at hreg hreg'
    have hstored : ∀ (e : Engine) (tx : FlowTx), (e.store tx).EachFlow (Registered (e.store tx).sources) →
        Registered e.sources tx.flow := fun e tx hstored =>
      hstored tx.flow.id tx.flow ((SortedVec.find?_set e.flows tx.flow tx.flow.id).trans (if_pos rfl))
    have happlied := htx.applyToFlow h.config (h.evictable hsame atTime atTime' k) (hstored _ _ hreg)
      (hstored _ _ hreg')
    rw [if_pos rfl, if_pos rfl]
    refine ⟨h.config, ?_, happlied.registries⟩
    show ((e.roomFor obs).1.set _).map FlowRuntime.sketch FlowRuntime.sketch_id
      = ((e'.roomFor { obs with sourceKey := k }).1.set _).map FlowRuntime.sketch FlowRuntime.sketch_id
    rw [SortedVec.map_set, SortedVec.map_set, hflows, happlied.flow]

theorem sourceIds_applyJournaled (atTime : Timestamp) (hserves : e.Serves obs.key.source)
    (ha : e.Admits obs.key.source) :
    (e.applyJournaled atTime obs).1.sourceIds = insert obs.key.source e.sourceIds := by
  obtain ⟨sources, counters, hids, heq⟩ := applyJournaled_admitted atTime hserves ha
  rw [heq, ← hids]
  split <;> rfl

/-- No observation retires a source. -/
theorem serves_applyJournaled (h : ∀ id, e.Serves id) (atTime : Timestamp) (obs : Observation) (id : SourceId) :
    (e.applyJournaled atTime obs).1.Serves id := by
  have hfor : ∀ sources, SourceFor e atTime obs.key.source sources → ∀ s, sources.find? id = some s →
      s.retired = false := by
    intro sources hsources s hs
    cases hsources with
    | known _ _ _ => exact h id s hs
    | fresh _ _ =>
      rw [SortedVec.find?_set] at hs
      split at hs
      · cases hs
        rfl
      · exact h id s hs
  intro s hs
  cases applyJournaled_cases e atTime obs with
  | noSource he _ =>
    rw [he.sameState.sources] at hs
    exact h id s hs
  | noFlowRoom sources _ hsource _ _ he _ =>
    rw [he.sameState.sources] at hs
    exact hfor sources hsource s hs
  | found sources _ _ _ hsource _ _ he =>
    rw [he.sameState.sources] at hs
    exact hfor sources hsource s hs
  | created sources _ _ _ hsource _ _ _ he =>
    rw [he.sameState.sources] at hs
    exact hfor sources hsource s hs

end Engine

/-! ## Recorded observations -/

/-- An observation that is read back and replayed as it is: it is within the bounds of the decoder, it passed
validation, its instant of receipt is known, and its flow is given. -/
structure Observation.Recorded (limits : Limits) (o : Observation) : Prop where
  decodable : o.Decodable limits
  valid : validateObservation limits o = .ok ()
  received : o.receivedAt.known = true
  flow : o.subject.flow.valid = true

theorem Observation.Recorded.prepare {limits : Limits} {o : Observation} (h : o.Recorded limits) (atTime : Timestamp) :
    prepare atTime o = o := by
  simp only [FlowObs.prepare, h.received, h.flow, if_true]

/-- What is journalled passes validation again. -/
theorem validate_prepare {limits : Limits} {o : Observation} (atTime : Timestamp)
    (h : validateObservation limits o = .ok ()) :
    validateObservation limits (prepare atTime o).bare = .ok () := by
  simp only [validateObservation, require_bind_ok] at h ⊢
  obtain ⟨hversion, hsource, hincarnation, hgeneration, hkey, hlength, hmatches, hrest⟩ := h
  refine ⟨hversion, hsource, hincarnation, hgeneration, hkey, hlength, ?_, hrest⟩
  simp only [Observation.bare, prepare]
  split
  · exact hmatches
  · simp only [keyMatches, flowIdFromKey, makeId_valid, hkey, beq_self_eq_true, Bool.and_self, Bool.not_true,
      Bool.false_or]

theorem recorded_prepare {limits : Limits} {o : Observation} {atTime : Timestamp}
    (h : validateObservation limits o = .ok ())
    (hbounded : o.subject.KeysBounded limits) (hknown : (prepare atTime o).receivedAt.known = true) :
    (prepare atTime o).bare.Recorded limits := by
  have hvalid := prepare_valid atTime h
  simp only [Observation.valid, ObservationSubject.valid, Bool.and_eq_true] at hvalid
  obtain ⟨hkey, hhops⟩ := validateObservation_bounds h
  refine ⟨?_, validate_prepare atTime h, hknown, hvalid.2.1⟩
  exact ⟨hhops, hkey, hbounded.endpointKey, hbounded.peerEndpointKey, hbounded.pathKey, hbounded.queueKey,
    hbounded.linkKey⟩

/-! ## Cached folds -/

section Cached

variable {config : EngineConfig} {sources : SourceTable} {ctx : FreshnessContext} {replaying : Bool}
    {atTime : Timestamp}
variable {obs : Observation} {f f' : FlowRuntime} {outcome : IngestOutcome}

/-- Every binding of the flow has its fold cached. -/
def FlowRuntime.Cached (f : FlowRuntime) : Prop :=
  ∀ gen source b, f.binding? gen source = some b → b.cached.isSome = true

theorem FlowRuntime.Cached.of_bindings (h : f.Cached)
    (hbindings : ∀ gen source b, f'.binding? gen source = some b → f.binding? gen source = some b) : f'.Cached :=
  fun gen source b hb => h gen source b (hbindings gen source b hb)

theorem SourceBinding.cached_take {b : SourceBinding} (h : (b.ledger.insert obs).2.kind ≠ .Accepted) :
    (b.take replaying obs).1.cached = b.cached := by
  simp only [SourceBinding.take]
  cases hk : (b.ledger.insert obs).2.kind with
  | Accepted => exact absurd hk h
  | Duplicate => rfl
  | ContentConflict => rfl
  | Refused => rfl

/-- **However an observation ends**, the folds of its flow are cached when its sources are registered: a new binding is
recomputed. -/
theorem FlowApplied.cached (h : FlowApplied config sources ctx replaying atTime obs f f' outcome)
    (hv : obs.valid = true)
    (hid : f.id = obs.subject.flow) (hf : f.Cached) (hregistered : Engine.Registered sources f') : f'.Cached := by
  cases h with
  | collided _ hn _ =>
    have hbindings : ∀ gen source, f'.binding? gen source = f.binding? gen source := fun gen source => hn.binding?
    exact hf.of_bindings fun gen source b hb => by rwa [hbindings] at hb
  | stopped _ hn _ => exact hf.of_bindings fun gen source b hb => by rwa [hn.binding?] at hb
  | noSourceRoom room _ hroom _ hn _ =>
    refine hf.of_bindings fun gen source b hb => ?_
    rw [hn.binding?, binding?_enter] at hb
    exact hroom.binding?_some hb
  | ledgerRefused room _ hroom _ hr hn _ =>
    -- what the ledger refuses is of a source that the generation knows, and leaves its fold
    intro gen source b hb
    have hsubject := clampedObservation_subject config.limits obs
    have hroom' : Roomed config.limits f (clampedObservation config.limits obs).subject.generation room := by
      rwa [hsubject]
    have hanswer := hr
    rw [← hsubject] at hanswer
    obtain ⟨rfl, b₀, hb₀,
      -⟩ := binding?_of_not_accepted replaying atTime hroom' (by simpa using hv) (by rw [hsubject, hid])
      (by rw [hanswer]; decide)
    rw [insertEvidence_answer, binding?_enter, hb₀, Option.getD_some] at hanswer
    rw [hn.binding?, binding?_insertEvidence, binding?_enter] at hb
    split at hb
    · rename_i hk
      obtain ⟨rfl, rfl⟩ := hk
      rw [hb₀, Option.getD_some] at hb
      cases hb
      rw [SourceBinding.cached_take (by rw [hanswer]; decide)]
      exact hf _ _ b₀ hb₀
    · exact hf gen source b hb
  | recomputed room settled _ _ _ _ _ _ _ =>
    intro gen source b hb
    have hb' := hb
    rw [binding?_recomputeFlow] at hb'
    obtain ⟨b₀, -, rfl⟩ := Option.map_eq_some_iff.1 hb'
    have hsome := hregistered gen source _ hb
    rw [refreshBinding_source] at hsome
    obtain ⟨s, hs⟩ := Option.isSome_iff_exists.1 hsome
    rw [refreshBinding, hs]
    rfl

end Cached

namespace Engine

/-! ## Replays -/

variable {config : EngineConfig} {ds : List SourceDescriptor} {r r' : Engine} {e : Engine} {obs : Observation}

/-- An engine in a replay of a journal with the descriptors `ds`: nothing is retired or confirmed, and its sources
have what the journal grants them. -/
structure Replays (config : EngineConfig) (ds : List SourceDescriptor) (r : Engine) : Prop where
  config : r.config = config
  replaying : r.replaying = true
  serves : ∀ id, r.Serves id
  declared : ∀ id, (lastFor ds id).isSome = true → (r.sources.find? id).isSome = true
  grants : Grants ds r.sources
  headed : r.Headed
  registered : r.EachFlow (Registered r.sources)
  cached : r.EachFlow FlowRuntime.Cached
  unconfirmed : r.Holds fun _ _ b => b.Unconfirmed ds

/-- The state in which an observation is replayed. -/
def replayAt (r : Engine) (obs : Observation) : Engine := ({ r with replayNow := obs.receivedAt } : Engine).received

theorem replayOne_recorded (hr : r.replaying = true) (hrec : obs.Recorded r.config.limits) :
    replayOne r obs = ((r.replayAt obs).applyJournaled obs.receivedAt obs).1 := by
  have happ := applyLocked_replaying (e := { r with replayNow := obs.receivedAt }) hrec.valid hr
  have hinstant : ({ r with replayNow := obs.receivedAt } : Engine).instant = obs.receivedAt := by
    simp only [instant, hr, hrec.received, Bool.and_self, if_true]
  rw [hrec.prepare, hinstant] at happ
  exact congrArg Prod.fst happ

/-- Applying an observation leaves every fold cached. -/
theorem cached_applyLocked (h : e.EachFlow FlowRuntime.Cached) (hregistered : e.EachFlow (Registered e.sources))
    (incoming : Observation) : (e.applyLocked incoming).1.EachFlow FlowRuntime.Cached := by
  have hboth : e.EachFlow fun f => Registered (e.applyLocked incoming).1.sources f ∧ f.Cached := fun id f hf =>
    ⟨(hregistered id f hf).mono fun id hid => by
      obtain ⟨s, hs⟩ := Option.isSome_iff_exists.1 hid
      rw [keeps_applyLocked e incoming hs]
      rfl, h id f hf⟩
  have hafter := eachFlow_applyLocked hboth incoming (fun f f' hid hv hregisters happ hf => ?_)
    ⟨fun gen source b hb => (by cases hb), fun gen source b hb => (by cases hb)⟩
  · exact fun id f hf => (hafter id f hf).2
  · have hregistered' := hf.1.applied happ hregisters.named
    exact ⟨hregistered', happ.cached (prepare_valid _ hv) hid hf.2 hregistered'⟩

/-- An observation registers its source with nothing granted to it. -/
theorem grants_applyLocked (hdeclared : ∀ id, (lastFor ds id).isSome = true → (e.sources.find? id).isSome = true)
    (h : Grants ds e.sources) (incoming : Observation) : Grants ds (e.applyLocked incoming).1.sources := by
  rcases sources_applyLocked e incoming with hsame | hsource
  · rwa [hsame]
  · generalize (e.applyLocked incoming).1.sources = sources at hsource ⊢
    cases hsource with
    | known _ _ _ => exact h
    | fresh hnone _ =>
      intro id s hs
      rw [SortedVec.find?_set] at hs
      split at hs
      · rename_i hid
        cases hs
        have hundeclared : lastFor ds id = none := by
          refine Option.not_isSome_iff_eq_none.1 fun hsome => ?_
          have hknown := hdeclared id hsome
          rw [← hid] at hknown
          have hgone : e.sources.find? (unregisteredSource e.instant incoming.key.source).id = none := hnone
          rw [hgone] at hknown
          cases hknown
        rw [granted, hundeclared]
        exact ⟨rfl, rfl⟩
      · exact h id s hs

/-- No observation of a replay is confirmed. -/
theorem unconfirmed_applyLocked (hr : e.replaying = true) (h : e.Holds fun _ _ b => b.Unconfirmed ds)
    (incoming : Observation)
    (hgrants : Grants ds (e.applyLocked incoming).1.sources) :
    (e.applyLocked incoming).1.Holds fun _ _ b => b.Unconfirmed ds := by
  refine holds_applyLocked h (fun ctx _ _ b hb => hb.refresh hgrants ctx) fun _ _ => ?_
  rw [bindingAfter, hr]
  refine SourceBinding.Unconfirmed.take ?_ _
  unfold bindingFor
  cases hb : e.binding? (e.taken incoming).subject.flow (e.taken incoming).subject.generation
    (e.taken incoming).key.source with
  | none =>
    rw [hr]
    exact ⟨rfl, fun v hv => by cases hv⟩
  | some b => exact h _ _ _ b hb

theorem Replays.step (h : Replays config ds r) (hrec : obs.Recorded config.limits) :
    Replays config ds (replayOne r obs) := by
  rw [← h.config] at hrec
  have heq := replayOne_recorded h.replaying hrec
  have hconfig : (replayOne r obs).config = config := by
    rw [heq]
    exact (applyJournaled_frame (·.config) (fun _ _ _ _ _ => rfl) _ _ _).trans h.config
  have hreplaying : (replayOne r obs).replaying = true := by
    rw [heq]
    exact (applyJournaled_frame (·.replaying) (fun _ _ _ _ _ => rfl) _ _ _).trans h.replaying
  have hserves : ∀ id, (replayOne r obs).Serves id := by
    rw [heq]
    exact serves_applyJournaled (e := r.replayAt obs) h.serves _ _
  have hgrants : Grants ds (replayOne r obs).sources :=
    grants_applyLocked (e := { r with replayNow := obs.receivedAt }) h.declared h.grants obs
  refine ⟨hconfig, hreplaying, hserves, fun id hid => ?_, hgrants, ?_, ?_, ?_, ?_⟩
  · obtain ⟨s, hs⟩ := Option.isSome_iff_exists.1 (h.declared id hid)
    have hkept := keeps_applyLocked { r with replayNow := obs.receivedAt } obs hs
    exact Option.isSome_iff_exists.2 ⟨s, hkept⟩
  · exact (keepsHeads_applyLocked { r with replayNow := obs.receivedAt } obs h.headed).1
  · exact registered_applyLocked (e := { r with replayNow := obs.receivedAt }) h.registered obs
  · exact cached_applyLocked (e := { r with replayNow := obs.receivedAt }) h.cached h.registered obs
  · exact unconfirmed_applyLocked (e := { r with replayNow := obs.receivedAt }) h.replaying h.unconfirmed obs hgrants

/-- The sources after one replayed observation. -/
theorem sourceIds_replayOne (h : Replays config ds r) (hrec : obs.Recorded config.limits) :
    r.Admits obs.key.source ∧ (replayOne r obs).sourceIds = insert obs.key.source r.sourceIds ∨
      ¬ r.Admits obs.key.source ∧ (replayOne r obs).sourceIds = r.sourceIds ∧ (replayOne r obs).flows = r.flows ∧
        (replayOne r obs).registries = r.registries := by
  rw [← h.config] at hrec
  rw [replayOne_recorded h.replaying hrec]
  by_cases ha : r.Admits obs.key.source
  · exact .inl ⟨ha, sourceIds_applyJournaled (e := r.replayAt obs) _ (h.serves _) ha⟩
  · have hsame := applyJournaled_refused (e := r.replayAt obs) obs.receivedAt ha
    rw [hsame]
    exact .inr ⟨ha, rfl, rfl, rfl⟩

theorem Replays.run (h : Replays config ds r) {l : List Observation} (hrec : ∀ o ∈ l, o.Recorded config.limits) :
    Replays config ds (Run.exec replayOne r l) := by
  have hrun : Run.Along replayOne (fun _ o => o.Recorded config.limits) r l :=
    Run.along_of_forall fun o ho _ => hrec o ho
  exact hrun.invariant (P := Replays config ds) (fun _ _ hr hrec => hr.step hrec) h

theorem sourceIds_subset_replay {l : List Observation} : ∀ {r : Engine}, Replays config ds r →
    (∀ o ∈ l, o.Recorded config.limits) → r.sourceIds ⊆ (Run.exec replayOne r l).sourceIds := by
  induction l with
  | nil => exact fun _ _ => Finset.Subset.refl _
  | cons obs l ih =>
    intro r h hrec
    have hobs := hrec obs List.mem_cons_self
    have hrest := ih (h.step hobs) (fun o ho => hrec o (List.mem_cons_of_mem _ ho))
    refine Finset.Subset.trans ?_ hrest
    rcases sourceIds_replayOne h hobs with ⟨-, hids⟩ | ⟨-, hids, -⟩
    · rw [hids]
      exact Finset.subset_insert _ _
    · rw [hids]

end Engine

/-! ## The chronicles of an engine -/

/-- What the journal tells of each flow. -/
abbrev Chronicles := FlowId → Chronicle

/-- A flow as its chronicle tells. -/
def Chronicle.flow (c : Chronicle) (id : FlowId) : FlowRuntime :=
  { id := id, state := if c.closed then .Completed else .Observed, lastTouched := c.touched }

/-- The flow that is given up by the chronicles: `evict_one_flow_locked` on the flows as they tell. -/
def Chronicles.victim (C : Chronicles) (ids : List FlowId) : Option FlowId :=
  ((ids.map fun id => (C id).flow id).foldl Engine.betterVictim none).map (·.id)

/-- The generation that is given up by a chronicle: the first that has ended and is not the current one. -/
def Chronicle.evictable (c : Chronicle) (current : GenerationId) (gens : List GenerationId) : Option GenerationId :=
  gens.find? fun gen => gen != current && c.ended gen

/-- The flows of the engine are as the chronicles tell. -/
def Chronicles.Tell (C : Chronicles) (e : Engine) : Prop := ∀ id f, e.flows.find? id = some f → (C id).Tells f

/-- The chronicles after an observation that leaves the engine `e` as `e'`. A flow that is created has a new one. -/
def Chronicles.next (C : Chronicles) (ds : List SourceDescriptor) (e : Engine) (obs : Observation) (e' : Engine) :
    Chronicles :=
  if e.Admits obs.key.source then
    match e'.flows.find? obs.subject.flow with
    | none => C
    | some f' =>
      let f := e.flowFor obs.receivedAt obs
      let c : Chronicle := if (e.flows.find? obs.subject.flow).isSome then C
          obs.subject.flow else { touched := obs.receivedAt }
      Function.update C obs.subject.flow
        (c.next e.config ds obs (FlowTx.hears e.config obs ⟨f, e.registries, {}⟩) f f')
  else C

/-- What `evict_one_generation_locked` gives up of a flow is what its chronicle gives up. -/
theorem Chronicle.Tells.evictable {c : Chronicle} {f : FlowRuntime} (h : c.Tells f) :
    f.evictable = c.evictable f.currentGeneration (f.generations.toList.map (·.id)) := by
  rw [FlowRuntime.evictable, Chronicle.evictable, List.find?_map, ← List.head?_filter, ← List.head?_filter]
  refine congrArg (fun gs : List GenerationRuntime => gs.head?.map (·.id)) (List.filter_congr fun g hg => ?_)
  rw [Function.comp_apply, h.ended g.id g (SortedVec.find?_of_mem hg)]

namespace Engine

variable {config : EngineConfig} {ds : List SourceDescriptor} {r r' : Engine} {e e' : Engine} {obs : Observation}
variable {C : Chronicles}

/-- What `evict_one_flow_locked` gives up is what the chronicles give up. -/
theorem victim_of_tell (h : C.Tell e) : e.victim.map (·.id) = C.victim (e.flows.toList.map (·.id)) := by
  have hshape : ∀ (fs : List FlowRuntime), (∀ f ∈ fs, (C f.id).Tells f) → ∀ best best' : Option FlowRuntime,
      Option.Rel (fun f f' => f.id = f'.id ∧ f.lastTouched = f'.lastTouched) best best' →
      (fs.foldl betterVictim best).map (·.id)
        = ((fs.map fun f => (C f.id).flow f.id).foldl betterVictim best').map (·.id) := by
    intro fs
    induction fs with
    | nil =>
      intro _ best best' hbest
      cases hbest with
      | none => rfl
      | some hsame => exact congrArg some hsame.1
    | cons f fs ih =>
      intro htells best best' hbest
      obtain ⟨htouched, hclosed, -⟩ := htells f List.mem_cons_self
      rw [List.foldl_cons, List.map_cons, List.foldl_cons]
      refine ih (fun f hf => htells f (List.mem_cons_of_mem _ hf)) _ _ ?_
      have hterminal : isTerminal ((C f.id).flow f.id).state = isTerminal f.state := by
        rw [hclosed, Chronicle.flow]
        cases (C f.id).closed <;> rfl
      simp only [betterVictim, hterminal]
      cases isTerminal f.state with
      | false => exact hbest
      | true =>
        cases hbest with
        | none => exact .some ⟨rfl, htouched⟩
        | @some b b' hsame =>
          have hbetter : (decide (f.lastTouched < b.lastTouched) || f.lastTouched == b.lastTouched && decide
            (f.id < b.id))
              = (decide (((C f.id).flow f.id).lastTouched < b'.lastTouched)
                || ((C f.id).flow f.id).lastTouched == b'.lastTouched && decide (((C f.id).flow f.id).id < b'.id)) := by
            rw [hsame.1, hsame.2, htouched]
            rfl
          simp only [Bool.not_true, Bool.false_eq_true, if_false, hbetter]
          split
          · exact .some ⟨rfl, htouched⟩
          · exact .some hsame
  rw [Chronicles.victim, List.map_map]
  exact hshape _ (fun f hf => h f.id f (SortedVec.find?_of_mem hf)) none none .none

/-- The flows with room for one more are flows of the engine. -/
theorem find?_roomFor (e : Engine) (obs : Observation) (id : FlowId) :
    (e.roomFor obs).1.find? id = e.flows.find? id ∨ (e.roomFor obs).1.find? id = none := by
  unfold roomFor
  split
  · exact .inl rfl
  · rcases (makeFlowRoom_cases e).1 with ⟨-, hroom⟩ | ⟨-, hroom | hroom⟩
    · exact hroom.find?_eq id
    · exact .inl (by rw [hroom])
    · exact hroom.find?_eq id

/-- What an observation hears does not depend on the counters. -/
theorem hears_counters (config : EngineConfig) (obs : Observation) (f : FlowRuntime) (registries : Registries)
    (counters counters' : EngineCounters) :
    FlowTx.hears config obs ⟨f, registries, counters⟩ = FlowTx.hears config obs ⟨f, registries, counters'⟩ := by
  have halike : (⟨f, registries, counters⟩ : FlowTx).Alike ⟨f, registries, counters'⟩ := ⟨rfl, rfl⟩
  exact halike.hears (fun _ => rfl) obs.sourceKey

theorem flowFor_id (e : Engine) (atTime : Timestamp) (obs : Observation) :
    (e.flowFor atTime obs).id = obs.subject.flow := by
  unfold flowFor
  cases hf : e.flows.find? obs.subject.flow with
  | none => rfl
  | some f => exact SortedVec.find?_key hf

/-- The generations of a replay are unconfirmed. -/
theorem Replays.generation (h : Replays config ds r) {flow : FlowId} {f : FlowRuntime} {gen : GenerationId}
    {g : GenerationRuntime} (hf : r.flows.find? flow = some f) (hg : f.generations.find? gen = some g) :
    g.Unconfirmed ds r.sources := by
  have hfound : ∀ b ∈ g.bindings.toList, f.binding? gen b.source = some b := fun b hb => by
    rw [FlowRuntime.binding?, hg, Option.bind_some, SortedVec.find?_of_mem hb]
  refine ⟨fun b hb => holds_iff.1 h.unconfirmed flow f hf gen b.source b (hfound b hb), fun b hb => ?_⟩
  exact h.registered flow f hf gen b.source b (hfound b hb)

theorem replayAt_context (hr : r.replaying = true) (hrec : obs.Recorded config.limits) :
    (r.replayAt obs).context.now = obs.receivedAt := by
  show (r.replayAt obs).instant = obs.receivedAt
  simp only [instant, replayAt, received, count, hr, hrec.received, Bool.and_self, if_true]

/-- The flows that are kept for room are as the chronicles tell. -/
theorem tells_roomFor (h : C.Tell e) (obs : Observation) {id : FlowId} {f : FlowRuntime}
    (hf : (e.roomFor obs).1.find? id = some f) : (C id).Tells f := by
  rcases find?_roomFor e obs id with hsame | hnone
  · exact h id f (hsame.symm.trans hf)
  · rw [hnone] at hf
    cases hf

/-- So is the flow of an observation, found or created. -/
theorem tells_flowFor (h : C.Tell e) (obs : Observation) :
    (if (e.flows.find? obs.subject.flow).isSome then C obs.subject.flow
      else { touched := obs.receivedAt } : Chronicle).Tells (e.flowFor obs.receivedAt obs) := by
  unfold flowFor
  cases hf : e.flows.find? obs.subject.flow with
  | some f => exact h _ f hf
  | none => exact ⟨rfl, rfl, fun gen g hg => by cases hg⟩

/-- A flow for which there is no room is not known. -/
theorem find?_roomFor_none (h : (e.roomFor obs).2 = false) : (e.roomFor obs).1.find? obs.subject.flow = none := by
  refine Option.not_isSome_iff_eq_none.1 fun hsome => ?_
  have hknown : (e.flows.find? obs.subject.flow).isSome = true := by
    rcases find?_roomFor e obs obs.subject.flow with hsame | hnone
    · rwa [← hsame]
    · rw [hnone] at hsome
      cases hsome
  rw [roomFor_known hknown] at h
  cases h

/-- An observation that a replay admits finds no room for its flow, or is handed to it. -/
theorem Replays.cases (h : Replays config ds r) (hrec : obs.Recorded config.limits) (ha : r.Admits obs.key.source) :
    (replayOne r obs).flows = ((r.replayAt obs).roomFor obs).1 ∧
        (replayOne r obs).flows.find? obs.subject.flow = none ∨
      ∃ counters f, f.id = obs.subject.flow ∧ (replayOne r obs).flows = ((r.replayAt obs).roomFor obs).1.set f ∧
        f = (Exit.ofExcept (applyToFlow r.config (replayOne r obs).sources (r.replayAt obs).context true obs.receivedAt
          obs ⟨r.flowFor obs.receivedAt obs, r.registries, counters⟩)).1.flow := by
  rw [← h.config] at hrec
  have heq := replayOne_recorded h.replaying hrec
  have hreplaying : (r.replayAt obs).replaying = true := h.replaying
  obtain ⟨sources, counters, -, happ⟩ := applyJournaled_admitted (e := r.replayAt obs) obs.receivedAt (h.serves _) ha
  rw [happ, hreplaying] at heq
  cases hroomy : ((r.replayAt obs).roomFor obs).2 with
  | false =>
    rw [hroomy, if_neg Bool.false_ne_true] at heq
    left
    rw [heq]
    exact ⟨rfl, find?_roomFor_none hroomy⟩
  | true =>
    rw [hroomy, if_pos rfl] at heq
    right
    have hid := (applyToFlow_cases (r.replayAt obs).config sources (r.replayAt obs).context true obs.receivedAt obs
      ⟨(r.replayAt obs).flowFor obs.receivedAt obs, (r.replayAt obs).registries, counters⟩).kept.id
    rw [heq]
    exact ⟨counters, _, hid.trans (flowFor_id _ _ _), rfl, rfl⟩

/-- **One observation of a replay** leaves the flows as the next chronicles tell. -/
theorem Replays.tell (h : Replays config ds r) (hrec : obs.Recorded config.limits) (hC : C.Tell r) :
    (C.next ds r obs (replayOne r obs)).Tell (replayOne r obs) := by
  have hnext := h.step hrec
  have hkept : ∀ {id f}, ((r.replayAt obs).roomFor obs).1.find? id = some f → (C id).Tells f :=
    fun hf => tells_roomFor (e := r.replayAt obs) hC obs hf
  by_cases ha : r.Admits obs.key.source
  · rw [Chronicles.next, if_pos ha]
    rcases h.cases hrec ha with ⟨hflows, hnone⟩ | ⟨counters, f, hid, hflows, rfl⟩
    · rw [hnone]
      intro id f hf
      rw [hflows] at hf
      exact hkept hf
    · have hfind := SortedVec.find?_set ((r.replayAt obs).roomFor obs).1 (Exit.ofExcept (applyToFlow r.config
        (replayOne r obs).sources (r.replayAt obs).context true obs.receivedAt obs
        ⟨r.flowFor obs.receivedAt obs, r.registries, counters⟩)).1.flow
      rw [hid, ← hflows] at hfind
      have hflow := (hfind obs.subject.flow).trans (if_pos rfl)
      have htells := (tells_flowFor hC obs).next hnext.grants (replayAt_context h.replaying hrec)
        (hnext.headed _ _ hflow) fun gen g hg => hnext.generation hflow hg
      rw [hflow]
      dsimp only
      intro id f' hf'
      rw [hfind] at hf'
      split at hf'
      · rename_i hflowid
        cases hf'
        subst hflowid
        rw [Function.update_self, hears_counters _ _ _ _ _ counters]
        exact htells
      · rename_i hne
        rw [Function.update_of_ne fun heq => hne heq.symm]
        exact hkept hf'
  · rw [Chronicles.next, if_neg ha]
    intro id f hf
    rcases sourceIds_replayOne h hrec with ⟨ha', -⟩ | ⟨-, -, hflows, -⟩
    · exact absurd ha' ha
    · rw [hflows] at hf
      exact hC id f hf

/-- The next chronicles are a matter of sketches. -/
theorem SameSketches.next (h : e.SameSketches e') (hsame : e.SameChoices e' obs) {e₁ e₁' : Engine}
    (ha : e.Admits obs.key.source ↔ e'.Admits obs.key.source) (hafter : e₁.SameSketches e₁') (k : Str) :
    C.next ds e obs e₁ = C.next ds e' { obs with sourceKey := k } e₁' := by
  have hfind := hafter.find? obs.subject.flow
  have hflow := h.flowFor obs.receivedAt obs.receivedAt obs k
  have htx : (⟨e.flowFor obs.receivedAt obs, e.registries, {}⟩ : FlowTx).Alike
      ⟨e'.flowFor obs.receivedAt { obs with sourceKey := k }, e'.registries, {}⟩ := ⟨hflow, h.registries⟩
  have hheard := htx.hears (h.evictable hsame obs.receivedAt obs.receivedAt k) k
  unfold Chronicles.next
  refine if_congr ha ?_ rfl
  cases hf : e₁.flows.find? obs.subject.flow with
  | none =>
    rw [hf, Option.map_none] at hfind
    rw [Option.map_eq_none_iff.1 hfind.symm]
  | some f =>
    rw [hf, Option.map_some] at hfind
    obtain ⟨f', hf', hsketch⟩ := Option.map_eq_some_iff.1 hfind.symm
    rw [hf']
    dsimp only
    rw [hheard, h.isSome, h.config]
    exact congrArg (Function.update C obs.subject.flow) (Chronicle.next_congr hflow hsketch.symm _)

/-- Journals that grant the sources of an engine alike tell the same of it. -/
theorem Chronicles.next_granted {ds' : List SourceDescriptor} {e₁ : Engine}
    (h : ∀ source ∈ e₁.sourceIds, granted ds source = granted ds' source) (hreg : e₁.EachFlow (Registered e₁.sources)) :
    C.next ds e obs e₁ = C.next ds' e obs e₁ := by
  unfold Chronicles.next
  split
  · cases hf : e₁.flows.find? obs.subject.flow with
    | none => rfl
    | some f =>
      refine congrArg (Function.update C obs.subject.flow) (Chronicle.next_granted (fun gen g hg b hb => ?_) _)
      refine h b.source (mem_sourceIds.2 (hreg _ f hf gen b.source b ?_))
      rw [FlowRuntime.binding?, hg, Option.bind_some, SortedVec.find?_of_mem hb]
  · rfl

/-- Chronicles that tell of one engine what another is like. -/
theorem Chronicles.Tell.of_common {C' : Chronicles} (h : C.Tell e) (hC : C'.Tell e) (hC' : C'.Tell e')
    (hsame : e.SameSketches e') : C.Tell e' := by
  intro id f' hf'
  have hfind := hsame.find? id
  rw [hf', Option.map_some] at hfind
  obtain ⟨f, hf, hsketch⟩ := Option.map_eq_some_iff.1 hfind
  obtain ⟨htouched, hclosed, hended⟩ := h id f hf
  obtain ⟨htouched₁, hclosed₁, hended₁⟩ := hC id f hf
  obtain ⟨htouched₂, hclosed₂, hended₂⟩ := hC' id f' hf'
  refine ⟨htouched₂.trans (htouched₁.symm.trans htouched), hclosed₂.trans (hclosed₁.symm.trans hclosed),
    fun gen g' hg' => ?_⟩
  have hsome := FlowRuntime.isSome_of_sketch hsketch gen
  rw [hg', Option.isSome_some] at hsome
  obtain ⟨g, hg⟩ := Option.isSome_iff_exists.1 hsome
  exact (hended₂ gen g' hg').trans ((hended₁ gen g hg).symm.trans (hended gen g hg))

/-- What the engine gives up for an observation, the chronicles give up: the flow when its flow is unknown and the
table is full, and the generation when its flow asks for room. -/
structure ChoosesBy (C : Chronicles) (e : Engine) (obs : Observation) : Prop where
  flow : e.flows.find? obs.subject.flow = none → e.config.limits.maxFlows.toNat ≤ e.flows.toList.length →
    e.victim.map (·.id) = C.victim (e.flows.toList.map (·.id))
  generation : ∀ f, e.flows.find? obs.subject.flow = some f → f.Asked e.config e.registries obs →
    f.evictable = (C obs.subject.flow).evictable f.currentGeneration (f.generations.toList.map (·.id))

theorem choosesBy_of_tell (h : C.Tell e) (obs : Observation) : ChoosesBy C e obs :=
  ⟨fun _ _ => victim_of_tell h, fun f hf _ => (h _ f hf).evictable⟩

/-- Engines that choose by the same chronicles give up the same. -/
theorem SameSketches.choices (h : e.SameSketches e') (he : ChoosesBy C e obs) (he' : C.Tell e') :
    e.SameChoices e' obs := by
  refine ⟨fun hnone hfull => ?_, fun f f' hf hf' hasked => ?_⟩
  · rw [he.flow hnone hfull, victim_of_tell he', h.ids]
  · have hfind := h.find? obs.subject.flow
    rw [hf, hf', Option.map_some, Option.map_some, Option.some.injEq] at hfind
    have hcurrent : f.sketch.currentGeneration = f'.sketch.currentGeneration := by rw [hfind]
    have hids : ∀ f : FlowRuntime,
        f.generations.toList.map (·.id) = f.sketch.generations.toList.map (·.id) := fun f => by
      rw [FlowRuntime.sketch, SortedVec.toList_map, List.map_map]
      rfl
    rw [he.generation f hf hasked, (he' _ f' hf').evictable, hids f, hids f', hfind]
    exact congrArg (fun current => (C obs.subject.flow).evictable current _) hcurrent

/-! ## Two replays -/

/-- Two replays have the same sketches, chronicles tell of both, and the second knows the sources `more` besides. -/
structure Beside (more : Finset SourceId) (r r' : Engine) : Prop where
  sketches : r.SameSketches r'
  sources : r'.sourceIds = r.sourceIds ∪ more
  told : ∃ C : Chronicles, C.Tell r ∧ C.Tell r'

/-- The second admits what the first admits, where there is room for the sources that it knows besides. -/
theorem Beside.admits {more : Finset SourceId} {source : SourceId} (h : Beside more r r')
    (hlimits : r'.config.limits = r.config.limits)
    (hplace : more = ∅ ∨ (insert source r.sourceIds).card + more.card ≤ r.config.limits.maxSources.toNat)
    (ha : r.Admits source) : r'.Admits source := by
  by_cases hmem : source ∈ r.sourceIds
  · left
    rw [h.sources]
    exact Finset.mem_union_left _ hmem
  · right
    have hlt := ha.resolve_left hmem
    rw [hlimits, h.sources]
    rcases hplace with rfl | hplace
    · rwa [Finset.union_empty]
    · rw [Finset.card_insert_of_notMem hmem] at hplace
      have hunion := Finset.card_union_le r.sourceIds more
      omega

/-- Where the first refuses a source, its table is full, so the second knows no other source and refuses it too. -/
theorem Beside.refuses {more : Finset SourceId} {source : SourceId} (h : Beside more r r')
    (hlimits : r'.config.limits = r.config.limits)
    (hplace : more = ∅ ∨ r.sourceIds.card + more.card ≤ r.config.limits.maxSources.toNat)
    (ha : ¬ r.Admits source) : ¬ r'.Admits source := by
  have hfull : r.config.limits.maxSources.toNat ≤ r.sourceIds.card := Nat.not_lt.1 fun hlt => ha (.inr hlt)
  have hempty : more = ∅ := by
    refine hplace.elim id fun hplace => Finset.card_eq_zero.1 ?_
    omega
  have hsources : r'.sourceIds = r.sourceIds := by rw [h.sources, hempty, Finset.union_empty]
  rintro (hmem | hlt)
  · exact ha (.inl (hsources ▸ hmem))
  · rw [hsources, hlimits] at hlt
    omega

/-- **One observation** of two replays, where the sources that the second knows besides take nobody's place. -/
theorem Beside.step {more : Finset SourceId} {ds' : List SourceDescriptor} (h : Beside more r r')
    (hr : Replays config ds r) (hr' : Replays config ds' r') (hrec : obs.Recorded config.limits)
    (hgranted : ∀ source ∉ more, granted ds source = granted ds' source)
    (hother : Disjoint (replayOne r obs).sourceIds more)
    (hplace : more = ∅ ∨ (replayOne r obs).sourceIds.card + more.card ≤ config.limits.maxSources.toNat) :
    Beside more (replayOne r obs) (replayOne r' obs) := by
  obtain ⟨C, hC, hC'⟩ := h.told
  have hlimits : r'.config.limits = r.config.limits := by rw [hr.config, hr'.config]
  rw [← hr.config] at hplace
  rcases sourceIds_replayOne hr hrec with ⟨ha, hids⟩ | ⟨ha, hids, hflows, hregistries⟩
  · have ha' : r'.Admits obs.key.source := h.admits hlimits (hids ▸ hplace) ha
    have hsame : r.SameChoices r' obs := h.sketches.choices (choosesBy_of_tell hC obs) hC'
    have heq := replayOne_recorded hr.replaying (by rw [hr.config]; exact hrec)
    have heq' := replayOne_recorded hr'.replaying (by rw [hr'.config]; exact hrec)
    have hsketches : (replayOne r obs).SameSketches (replayOne r' obs) := by
      have hat : (r.replayAt obs).SameSketches (r'.replayAt obs) :=
        ⟨h.sketches.config, h.sketches.flows, h.sketches.registries⟩
      have hregistered := (hr.step hrec).registered
      have hregistered' := (hr'.step hrec).registered
      rw [heq] at hregistered ⊢
      rw [heq'] at hregistered' ⊢
      exact hat.applyJournaled ⟨hsame.flow, hsame.generation⟩ obs.receivedAt obs.receivedAt obs.sourceKey (hr.serves _)
        (hr'.serves _) ha ha' hregistered hregistered'
    refine ⟨hsketches, ?_, C.next ds r obs (replayOne r obs), hr.tell hrec hC, ?_⟩
    · rcases sourceIds_replayOne hr' hrec with ⟨-, hids'⟩ | ⟨hnot, -⟩
      · rw [hids', hids, h.sources, Finset.insert_union]
      · exact absurd ha' hnot
    · rw [Chronicles.next_granted (fun source hsource => hgranted source (Finset.disjoint_left.1 hother hsource))
        (hr.step hrec).registered, h.sketches.next hsame ⟨fun _ => ha', fun _ => ha⟩ hsketches obs.sourceKey]
      exact hr'.tell hrec hC'
  · have ha' : ¬ r'.Admits obs.key.source := h.refuses hlimits (hids ▸ hplace) ha
    rcases sourceIds_replayOne hr' hrec with ⟨hadmits, -⟩ | ⟨-, hids', hflows', hregistries'⟩
    · exact absurd hadmits ha'
    · refine ⟨⟨?_, ?_, ?_⟩, by rw [hids', hids, h.sources], C, ?_, ?_⟩
      · rw [(hr.step hrec).config, (hr'.step hrec).config]
      · rw [hflows, hflows']
        exact h.sketches.flows
      · rw [hregistries, hregistries']
        exact h.sketches.registries
      · exact fun id f hf => hC id f (hflows ▸ hf)
      · exact fun id f hf => hC' id f (hflows' ▸ hf)

/-- **Two replays** of the same observations. -/
theorem Beside.run {more : Finset SourceId} {ds' : List SourceDescriptor} {l : List Observation}
    (hgranted : ∀ source ∉ more, granted ds source = granted ds' source) (hrec : ∀ o ∈ l, o.Recorded config.limits) :
    ∀ {r r' : Engine}, Beside more r r' → Replays config ds r → Replays config ds' r' →
      Disjoint (Run.exec replayOne r l).sourceIds more →
      (more = ∅ ∨ (Run.exec replayOne r l).sourceIds.card + more.card ≤ config.limits.maxSources.toNat) →
      Beside more (Run.exec replayOne r l) (Run.exec replayOne r' l) := by
  induction l with
  | nil => exact fun h _ _ _ _ => h
  | cons obs l ih =>
    intro r r' h hr hr' hother hplace
    have hobs := hrec obs List.mem_cons_self
    have hlater : ∀ o ∈ l, o.Recorded config.limits := fun o ho => hrec o (List.mem_cons_of_mem _ ho)
    have hnext := hr.step hobs
    have hsubset := sourceIds_subset_replay hnext hlater
    have hcard := Finset.card_le_card hsubset
    have hstep := h.step hr hr' hobs hgranted (hother.mono_left hsubset)
      (hplace.imp id fun hplace => (Nat.add_le_add_right hcard _).trans hplace)
    exact ih hlater hstep hnext (hr'.step hobs) hother hplace

end Engine

end FlowObs
