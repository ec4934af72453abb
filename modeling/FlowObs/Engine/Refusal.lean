import FlowObs.Engine.Terminal
import FlowObs.Engine.Evidence

/-!
# What a refusal leaves behind

A refused observation changes nothing of the evidence of other flows, and of its own flow only what the conflict it
reports is about: a key collision marks the flow as conflicting, and of two contents under one source key the one with
the smaller digest is retained (`RefusedFlow`). `refused_leaves` says this of the whole engine, for every exit of
`apply_locked`.
-/

namespace FlowObs

/-- What a binding holds: the retained observations and the accounting they were folded into. -/
def SourceBinding.held (b : SourceBinding) : SortedVec Observation.canonicalKey × LedgerPrefix :=
  (b.ledger.entries, b.ledger.prefixState)

/-- What the flow holds of the evidence of a source in a generation. -/
def FlowRuntime.evidence (f : FlowRuntime) (gen : GenerationId) (source : SourceId) :
    Option (SortedVec Observation.canonicalKey × LedgerPrefix) := (f.binding? gen source).map (·.held)

/-- The two flows have the same generations with the same sources, and hold the same evidence. -/
structure FlowRuntime.SameEvidence (f f' : FlowRuntime) : Prop where
  generations : ∀ gen, (f'.generations.find? gen).isSome = (f.generations.find? gen).isSome
  held : ∀ gen source, f'.evidence gen source = f.evidence gen source

/-- **What a refused observation leaves of its flow.** -/
inductive RefusedFlow (config : EngineConfig) (sources : SourceTable) (ctx : FreshnessContext) (atTime : Timestamp)
    (obs : Observation) (f : FlowRuntime) : FlowRuntime → Prop
  /-- The evidence and every lifecycle state. -/
  | kept {f' : FlowRuntime} (he : f.SameEvidence f') (hs : f.SameStates f')
    (hf : f'.state = f.state ∧ f'.cause = f.cause) : RefusedFlow config sources ctx atTime obs f f'
  /-- Another key has the identity of the flow, which is marked as conflicting. -/
  | collided {f' : FlowRuntime} (hkey : f.canonicalKey ≠ obs.subject.flowKey) (hg : f'.generations = f.generations)
    (hf : f'.state = .Conflicting ∧ f'.cause = .AuthorityConflict) : RefusedFlow config sources ctx atTime obs f f'
  /-- Other content is retained under the key of the observation. The one with the smaller digest stays, and the flow is
  evaluated again. -/
  | conflicting (b : SourceBinding) (stored : Observation) (f₁ : FlowRuntime)
    (hb : f.binding? obs.subject.generation obs.key.source = some b)
    (hstored : b.ledger.entries.find? obs.canonicalKey = some stored) (hd : contentDigest stored ≠ contentDigest obs)
    (hheld : ∀ gen source, f₁.evidence gen source
      = if obs.subject.generation = gen ∧ obs.key.source = source then
          some (if contentDigest obs < contentDigest stored then b.ledger.entries.set obs else b.ledger.entries,
            b.ledger.prefixState)
        else f.evidence gen source)
    (hgen : ∀ gen, (f₁.generations.find? gen).isSome = (f.generations.find? gen).isSome) (hs : f.SameStates f₁) :
    RefusedFlow config sources ctx atTime obs f (recomputeFlow config sources ctx atTime f₁)

section Flow

variable {config : EngineConfig} {sources : SourceTable} {ctx : FreshnessContext} {replaying : Bool}
variable {atTime : Timestamp} {obs : Observation} {f f' : FlowRuntime} {outcome : IngestOutcome} {wanted : GenerationId}

theorem FlowRuntime.SameEvidence.of_generations (h : f'.generations = f.generations) : f.SameEvidence f' where
  generations gen := by rw [h]
  held gen source := by unfold evidence binding?; rw [h]

theorem SourceBinding.held_take_of_refused (replaying : Bool) {b : SourceBinding}
    (h : (b.ledger.insert obs).2.kind = .Refused) :
    (b.take replaying obs).1.held = b.held := by
  have hc := b.ledger.insert_cases obs
  rw [SourceBinding.held, SourceBinding.take_ledger]
  generalize (b.ledger.insert obs).1 = l at hc
  rw [h] at hc
  cases hc <;> rfl

/-- What a content conflict leaves in the binding. -/
theorem SourceBinding.held_take_of_conflict (replaying : Bool) {b : SourceBinding}
    (h : (b.ledger.insert obs).2.kind = .ContentConflict) :
    ∃ stored, b.ledger.entries.find? obs.canonicalKey = some stored ∧ contentDigest stored ≠ contentDigest obs ∧
      (b.take replaying obs).1.held
        = (if contentDigest obs < contentDigest stored then b.ledger.entries.set obs else b.ledger.entries,
            b.ledger.prefixState) := by
  have hc := b.ledger.insert_cases obs
  rw [SourceBinding.held, SourceBinding.take_ledger]
  generalize (b.ledger.insert obs).1 = l at hc
  rw [h] at hc
  cases hc with
  | replaced _ _ stored hf hd => exact ⟨stored, hf, by grind, by rw [if_pos hd]⟩
  | outranked _ _ stored hf hd => exact ⟨stored, hf, by grind, by rw [if_neg (by grind)]⟩

@[simp] theorem clampedObservation_valid (limits : Limits) (obs : Observation) :
    (clampedObservation limits obs).valid = obs.valid := by
  unfold clampedObservation; split <;> rfl

@[simp] theorem clampedObservation_canonicalKey (limits : Limits) (obs : Observation) :
    (clampedObservation limits obs).canonicalKey = obs.canonicalKey := by
  unfold clampedObservation; split <;> rfl

/-- Only an observation of a source that is already in the generation can fail to be accepted. -/
theorem binding?_of_not_accepted (replaying : Bool) (atTime : Timestamp) {room : FlowRuntime}
    (hroom : Roomed config.limits f obs.subject.generation room) (hv : obs.valid = true) (hid : f.id = obs.subject.flow)
    (h : (insertEvidence config.limits replaying atTime obs (room.enter obs.subject.generation atTime)).2.kind ≠
      .Accepted) :
    f = room ∧ ∃ b, f.binding? obs.subject.generation obs.key.source = some b ∧
      (insertEvidence config.limits replaying atTime obs (room.enter obs.subject.generation atTime)).2 =
      (b.ledger.insert obs).2 := by
  rw [insertEvidence_answer, binding?_enter, hroom.binding?,
    show (room.enter obs.subject.generation atTime).id = room.id from rfl, hroom.same.1, hid] at h ⊢
  cases hb : f.binding? obs.subject.generation obs.key.source with
  | none =>
    rw [hb, Option.getD_none] at h
    exact absurd (freshBinding_insert hv) h
  | some b =>
    obtain ⟨g, hg, -⟩ := Option.bind_eq_some_iff.1 hb
    exact ⟨(hroom.eq_of_known hg).symm, b, rfl, rfl⟩

/-- Entering a generation that is known keeps every generation. -/
theorem find?_enter_of_known {g : GenerationRuntime} (hg : f.generations.find? wanted = some g) (gen : GenerationId) :
    (f.enter wanted atTime).generations.find? gen = f.generations.find? gen := by
  rw [find?_enter]
  split
  · rename_i h
    subst h
    rw [obtainGeneration, hg, Option.getD_some]
  · rfl

theorem isSome_insertEvidence {limits : Limits} {g : GenerationRuntime}
    (hg : f.generations.find? obs.subject.generation = some g) (gen : GenerationId) :
    ((insertEvidence limits replaying atTime obs f).1.generations.find? gen).isSome =
    (f.generations.find? gen).isSome := by
  rw [find?_insertEvidence]
  split
  · rename_i h
    subst h
    rw [hg]
    rfl
  · rfl

/-- The evidence of a flow after an insertion into a binding it has. -/
theorem evidence_insertEvidence (limits : Limits) (replaying : Bool) (atTime : Timestamp) {b : SourceBinding}
    (hb : f.binding? obs.subject.generation obs.key.source = some b) (gen : GenerationId) (source : SourceId) :
    (insertEvidence limits replaying atTime obs f).1.evidence gen source
      = if obs.subject.generation = gen ∧ obs.key.source = source then some (b.take replaying obs).1.held
        else f.evidence gen source := by
  unfold FlowRuntime.evidence
  rw [binding?_insertEvidence]
  split
  · rename_i h
    obtain ⟨rfl, rfl⟩ := h
    rw [hb]
    rfl
  · rfl

theorem evidence_enter (f : FlowRuntime) (wanted gen : GenerationId) (source : SourceId) :
    (f.enter wanted atTime).evidence gen source = f.evidence gen source := by
  unfold FlowRuntime.evidence
  rw [binding?_enter]

/-- A refusal by the ledger keeps the evidence. -/
theorem sameEvidence_insert (limits : Limits) (replaying : Bool) (atTime : Timestamp) {b : SourceBinding}
    (hb : f.binding? obs.subject.generation obs.key.source = some b) (h : (b.ledger.insert obs).2.kind = .Refused) :
    f.SameEvidence (insertEvidence limits replaying atTime obs (f.enter obs.subject.generation atTime)).1 := by
  obtain ⟨g, hg, -⟩ := Option.bind_eq_some_iff.1 hb
  refine ⟨fun gen => ?_, fun gen source => ?_⟩
  · rw [isSome_insertEvidence (by rw [find?_enter_of_known hg, hg]), find?_enter_of_known hg]
  · have hb' : (f.enter obs.subject.generation atTime).binding? obs.subject.generation obs.key.source = some b := by
      rw [binding?_enter, hb]
    rw [evidence_insertEvidence limits replaying atTime hb', evidence_enter]
    split
    · rename_i hk
      obtain ⟨rfl, rfl⟩ := hk
      rw [SourceBinding.held_take_of_refused replaying h, FlowRuntime.evidence, hb]
      rfl
    · rfl

theorem kept_of_noted (h : f.Noted f') : RefusedFlow config sources ctx atTime obs f f' := by
  refine .kept (.of_generations h.generations_eq) h.sameStates ?_
  obtain ⟨_, _, _, rfl⟩ := h
  exact ⟨rfl, rfl⟩

theorem RefusedFlow.noted {f₁ : FlowRuntime} (he : f.SameEvidence f₁) (hs : f.SameStates f₁)
    (hf : f₁.state = f.state ∧ f₁.cause = f.cause) (hn : f₁.Noted f') :
    RefusedFlow config sources ctx atTime obs f f' := by
  have hs' := hs.noted hn
  obtain ⟨_, _, _, rfl⟩ := hn
  exact .kept ⟨he.generations, he.held⟩ hs' hf

/-- **Every exit with a refusal leaves the flow as `RefusedFlow` says.** -/
theorem FlowApplied.refused (h : FlowApplied config sources ctx replaying atTime obs f f' outcome)
    (ho : outcome.disposition = .Refused) (hmax : 0 < config.limits.maxSourcesPerFlow.toNat) (hv : obs.valid = true)
    (hid : f.id = obs.subject.flow) :
    RefusedFlow config sources ctx atTime (clampedObservation config.limits obs) f f' := by
  have hknown : ∀ room, Roomed config.limits f obs.subject.generation room →
      (insertEvidence config.limits replaying atTime (clampedObservation config.limits obs)
        (room.enter obs.subject.generation atTime)).2.kind ≠ .Accepted →
      f = room ∧ ∃ b, f.binding? obs.subject.generation obs.key.source = some b ∧
        (insertEvidence config.limits replaying atTime (clampedObservation config.limits obs)
          (room.enter obs.subject.generation atTime)).2 =
            (b.ledger.insert (clampedObservation config.limits obs)).2 := by
    intro room hroom hne
    rw [← clampedObservation_subject config.limits obs] at hroom hid hne
    have h := binding?_of_not_accepted replaying atTime hroom (by rwa [clampedObservation_valid]) hid hne
    rwa [clampedObservation_subject, clampedObservation_key] at h
  cases h with
  | collided hkey hf _ =>
    refine .collided (by rwa [clampedObservation_subject]) hf.generations_eq ?_
    obtain ⟨_, _, _, rfl⟩ := hf
    exact ⟨rfl, rfl⟩
  | stopped _ hf _ => exact kept_of_noted hf
  | noSourceRoom room _ hroom hfull hf _ =>
    cases hg : room.generations.find? obs.subject.generation with
    | none =>
      rw [obtainGeneration, hg] at hfull
      exact absurd (Nat.lt_of_lt_of_le hmax hfull) (Nat.lt_irrefl 0)
    | some g =>
      rw [hroom.find?.1] at hg
      obtain rfl := hroom.eq_of_known hg
      refine .noted ⟨fun gen => ?_, fun gen source => evidence_enter ..⟩ (sameStates_enter atTime hroom) ⟨rfl, rfl⟩ hf
      rw [find?_enter_of_known hg]
  | ledgerRefused room _ hroom _ hr hf _ =>
    obtain ⟨rfl, b, hb, ha⟩ := hknown room hroom (by rw [hr]; decide)
    rw [ha] at hr
    rw [← clampedObservation_subject config.limits obs, ← clampedObservation_key config.limits obs] at hb
    have he := sameEvidence_insert config.limits replaying atTime hb hr
    rw [clampedObservation_subject] at he
    exact .noted he (sameStates_insert replaying atTime hroom _ (clampedObservation_subject _ _)) ⟨rfl, rfl⟩ hf
  | recomputed room settled _ hroom _ _ hr hs ho' =>
    have hk : (insertEvidence config.limits replaying atTime (clampedObservation config.limits obs)
        (room.enter obs.subject.generation atTime)).2.kind = .ContentConflict := by
      rw [ho] at ho'
      generalize (insertEvidence config.limits replaying atTime (clampedObservation config.limits obs)
        (room.enter obs.subject.generation atTime)).2.kind = kind at hr ho'
      cases kind with
      | Accepted => cases ho'
      | Duplicate => cases ho'
      | ContentConflict => rfl
      | Refused => exact absurd rfl hr
    obtain ⟨rfl, b, hb, ha⟩ := hknown room hroom (by rw [hk]; decide)
    obtain ⟨g, hg, -⟩ := Option.bind_eq_some_iff.1 hb
    obtain ⟨stored, hstored, hd, hheld⟩ := SourceBinding.held_take_of_conflict replaying (ha ▸ hk)
    have hins := ((sameStates_insert replaying atTime hroom
      (clampedObservation config.limits obs) (clampedObservation_subject _ _)).revise _).noted hs
    have hfind : ∀ gen, (settled.generations.find? gen).isSome = (f.generations.find? gen).isSome := fun gen => by
      rw [hs.generations_eq, revise_generations, isSome_insertEvidence
        (by rw [clampedObservation_subject, find?_enter_of_known hg, hg]), find?_enter_of_known hg]
    have hsome : (settled.generations.find? obs.subject.generation).isSome = true := by rw [hfind, hg]; rfl
    refine .conflicting b stored (settled.touch obs.subject.generation atTime) ?_ ?_ hd ?_ ?_ (hins.touch hsome)
    · rwa [clampedObservation_subject, clampedObservation_key]
    · exact hstored
    · intro gen source
      have hb' : (f.enter obs.subject.generation atTime).binding?
          (clampedObservation config.limits obs).subject.generation (clampedObservation config.limits obs).key.source
            = some b := by
        rw [binding?_enter, clampedObservation_subject, clampedObservation_key, hb]
      have he := evidence_insertEvidence config.limits replaying atTime hb' gen source
      rw [hheld, evidence_enter] at he
      rw [← he]
      simp only [FlowRuntime.evidence, binding?_touch, hs.binding?, binding?_revise]
    · intro gen
      rw [find?_touch]
      split
      · rename_i h
        subst h
        rw [hg]
        rfl
      · exact hfind gen

end Flow

/-! ## The engine -/

/-- An observation that passed validation belongs to a flow and a generation. -/
theorem prepare_valid {limits : Limits} {o : Observation} (atTime : Timestamp)
    (h : validateObservation limits o = .ok ()) : (prepare atTime o).valid = true := by
  simp only [validateObservation, require_bind_ok] at h
  obtain ⟨-, hsource, -, hgen, -⟩ := h
  have hflow : (prepare atTime o).subject.flow.valid = true := by
    simp only [prepare]
    split
    · assumption
    · exact makeId_valid _ _
  simp only [Observation.valid, ObservationSubject.valid, Bool.and_eq_true]
  exact ⟨hsource, hflow, hgen⟩

namespace Engine

/-- **What a refused observation leaves of the tables.** -/
structure RefusedLeaves (e e' : Engine) (obs : Observation) : Prop where
  /-- An unknown source may have been registered, with nothing granted to it. -/
  sources : e'.sources = e.sources ∨
    e.sources.find? obs.key.source = none ∧ e'.sources = e.sources.set (unregisteredSource e.instant obs.key.source)
  /-- The other flows are unchanged; one that was terminal may have been given up for a new one. -/
  others : ∃ gone : Option FlowId,
    (∀ id, id ≠ obs.subject.flow → e'.flows.find? id = if gone = some id then none else e.flows.find? id) ∧
    ∀ id, gone = some id → e.flows.find? obs.subject.flow = none ∧
      e.config.limits.maxFlows.toNat ≤ e.flows.toList.length ∧ ∃ v, e.flows.find? id = some v ∧
      isTerminal v.state = true
  /-- The flow of the observation keeps what `RefusedFlow` says. -/
  known : ∀ f, e.flows.find? obs.subject.flow = some f → ∃ f', e'.flows.find? obs.subject.flow = some f' ∧
    RefusedFlow e.config e'.sources e.context e.instant (clampedObservation e.config.limits obs) f f'
  /-- A flow that was not there holds nothing. -/
  fresh : e.flows.find? obs.subject.flow = none → ∀ f', e'.flows.find? obs.subject.flow = some f' → f'.generations = ∅

variable {e e' : Engine} {obs : Observation} {outcome : IngestOutcome}

theorem victim_spec {v : FlowRuntime} (h : e.victim = some v) : v ∈ e.flows.toList ∧ isTerminal v.state = true := by
  refine List.foldlRecOn (motive := fun best => ∀ b, best = some b → b ∈ e.flows.toList ∧ isTerminal b.state = true)
    e.flows.toList betterVictim (b := none) (by simp) (fun best hbest f hf b hb => ?_) v h
  unfold betterVictim at hb
  split at hb
  · exact hbest b hb
  · rename_i ht
    replace ht : isTerminal f.state = true := by simpa using ht
    split at hb
    · cases hb; exact ⟨hf, ht⟩
    · split at hb
      · cases hb; exact ⟨hf, ht⟩
      · exact hbest b hb

/-- The flow table with room for one more flow differs by one terminal flow at most. -/
theorem FlowRoom.gone {flows : SortedVec FlowRuntime.id} (h : FlowRoom e flows) : ∃ gone : Option FlowId,
    (∀ id, flows.find? id = if gone = some id then none else e.flows.find? id) ∧ ∀ id, gone = some id →
      e.config.limits.maxFlows.toNat ≤ e.flows.toList.length ∧ ∃ v, e.flows.find? id = some v ∧
      isTerminal v.state = true := by
  cases h with
  | free => exact ⟨none, fun id => by simp, fun _ h => nomatch h⟩
  | evicted hfull v hv =>
    obtain ⟨hmem, ht⟩ := victim_spec hv
    refine ⟨some v.id, fun id => ?_, fun id hid => ?_⟩
    · rw [SortedVec.find?_erase]
      simp only [Option.some.injEq]
    · cases hid
      exact ⟨hfull, v, SortedVec.find?_of_mem hmem, ht⟩

theorem SourceFor.eq_or {atTime : Timestamp} {source : SourceId} {sources : SourceTable}
    (h : SourceFor e atTime source sources) : sources = e.sources ∨
      e.sources.find? source = none ∧ sources = e.sources.set (unregisteredSource atTime source) := by
  cases h with
  | known => exact .inl rfl
  | fresh hn _ => exact .inr ⟨hn, rfl⟩

/-- A flow that was created for a refused observation holds nothing. -/
theorem generations_of_refused {config : EngineConfig} {sources : SourceTable} {ctx : FreshnessContext}
    {atTime : Timestamp} {f f' : FlowRuntime} (h : RefusedFlow config sources ctx atTime obs f f')
    (hf : f.generations = ∅) : f'.generations = ∅ := by
  cases h with
  | kept he _ _ =>
    refine SortedVec.ext_find? fun gen => ?_
    have hgen := he.generations gen
    rw [hf] at hgen
    exact Option.not_isSome_iff_eq_none.1 (by rw [hgen]; exact Bool.false_ne_true)
  | collided _ hg _ => rw [hg, hf]
  | conflicting _ _ _ hb _ _ _ _ _ =>
    unfold FlowRuntime.binding? at hb
    rw [hf] at hb
    cases hb

theorem Admitted.refused (h : Admitted e e.instant obs e' outcome) (ho : outcome.disposition = .Refused)
    (hmax : 0 < e.config.limits.maxSourcesPerFlow.toNat) (hv : obs.valid = true) : e.RefusedLeaves e' obs := by
  cases h with
  | noSource he _ =>
    obtain ⟨_, _, _, rfl⟩ := he
    exact ⟨.inl rfl, ⟨none, fun _ _ => by simp, fun _ h => nomatch h⟩,
      fun f hf => ⟨f, hf, kept_of_noted (.refl f)⟩, fun hn f' hf' => by rw [hn] at hf'; cases hf'⟩
  | noFlowRoom sources flows hsource hnone hroom he _ =>
    obtain ⟨_, _, _, rfl⟩ := he
    have hgone : ∃ gone : Option FlowId, (∀ id, flows.find? id = if gone = some id then none else e.flows.find? id) ∧
        ∀ id, gone = some id → e.config.limits.maxFlows.toNat ≤ e.flows.toList.length ∧
          ∃ v, e.flows.find? id = some v ∧ isTerminal v.state = true := by
      rcases hroom with rfl | hroom
      · exact ⟨none, fun id => by simp, fun _ h => nomatch h⟩
      · exact hroom.gone
    obtain ⟨gone, hfind, hg⟩ := hgone
    refine ⟨hsource.eq_or, ⟨gone, fun id _ => hfind id, fun id hid => ⟨hnone, hg id hid⟩⟩,
      fun f hf => (by rw [hnone] at hf; cases hf), fun _ f' hf' => ?_⟩
    rw [hfind, hnone] at hf'
    split at hf' <;> cases hf'
  | found sources f f' _ hsource hf happ he =>
    obtain ⟨_, _, _, rfl⟩ := he
    have hid := SortedVec.find?_key hf
    have hid' : f'.id = obs.subject.flow := happ.kept.id.trans hid
    refine ⟨hsource.eq_or, ⟨none, fun id hne => ?_, fun _ h => nomatch h⟩, fun f₀ hf₀ => ⟨f', ?_, ?_⟩,
      fun hn => by rw [hf] at hn; cases hn⟩
    · rw [if_neg (fun h => nomatch h)]
      exact SortedVec.find?_set_of_ne _ (by rw [hid']; exact Ne.symm hne)
    · rw [← hid']
      exact SortedVec.find?_set_self _ _
    · rw [hf] at hf₀
      cases hf₀
      exact happ.refused ho hmax hv hid
  | created sources flows f' _ hsource hnone hroom happ he =>
    obtain ⟨_, _, _, rfl⟩ := he
    obtain ⟨gone, hfind, hg⟩ := hroom.gone
    have hid' : f'.id = obs.subject.flow := happ.kept.id
    refine ⟨hsource.eq_or, ⟨gone, fun id hne => ?_, fun id hid => ⟨hnone, hg id hid⟩⟩,
      fun f hf => (by rw [hnone] at hf; cases hf), fun _ f₁ hf₁ => ?_⟩
    · rw [← hfind]
      exact SortedVec.find?_set_of_ne _ (by rw [hid']; exact Ne.symm hne)
    · rw [← hid'] at hf₁
      cases (SortedVec.find?_set_self _ _).symm.trans hf₁
      exact generations_of_refused (happ.refused ho hmax hv rfl) rfl

theorem refusedLeaves_of_tables (hs : e'.sources = e.sources) (hf : e'.flows = e.flows) : e.RefusedLeaves e' obs :=
  ⟨.inl hs, ⟨none, fun _ _ => by simp [hf], fun _ h => nomatch h⟩,
    fun f h => ⟨f, by rw [hf, h], kept_of_noted (.refl f)⟩, fun hn f' h => by rw [hf, hn] at h; cases h⟩

/-- **A refused observation leaves the evidence as it was**, whichever check refuses it: `RefusedLeaves` lists the
exceptions. -/
theorem refused_leaves (e : Engine) (incoming : Observation) (hc : e.config.validate = .ok ())
    (ho : (e.applyLocked incoming).2.disposition = .Refused) :
    e.RefusedLeaves (e.applyLocked incoming).1 (prepare e.instant incoming) := by
  have hmax : 0 < e.config.limits.maxSourcesPerFlow.toNat := by
    have := (EngineConfig.limits_valid hc).sourcesPerFlow.1
    exact UInt32.lt_iff_toNat_lt.1 this
  have h := applyLocked_cases e incoming
  generalize (e.applyLocked incoming).1 = e' at h
  generalize (e.applyLocked incoming).2 = outcome at h ho
  cases h with
  | invalid _ _ he _ =>
    obtain ⟨_, rfl⟩ := he
    exact refusedLeaves_of_tables rfl rfl
  | unjournaled _ _ _ _ he _ =>
    obtain ⟨_, _, _, h⟩ := sameTables_appendObservation e.received (prepare e.instant incoming)
    refine refusedLeaves_of_tables ?_ ?_ <;> rw [he, h] <;> rfl
  | admitted e₁ hv _ hsame ha =>
    obtain ⟨_, _, _, rfl⟩ := hsame
    obtain ⟨hs, ho, hk, hf⟩ := Admitted.refused ha ho hmax (prepare_valid e.instant hv)
    exact ⟨hs, ho, hk, hf⟩

/-- A flow for which the source `a` reported two bytes. -/
def twoBytes : Engine :=
  let a := sampleSource (str "a") {}
  .ranFrom {} ⟨1000⟩ [.registerSource a, .ingest ((sampleObservation a.id .Sample 1 ⟨900⟩).withBytes 2)]

/-- The same observation with one byte, whose digest is smaller. -/
def oneByte : Observation := (sampleObservation (sourceIdFromKey (str "a")) .Sample 1 ⟨900⟩).withBytes 1

/-- A refused observation can take the place of the one that is retained. -/
example :
    let a := sourceIdFromKey (str "a")
    let after := twoBytes.applyLocked oneByte
    after.2.disposition = .Refused ∧ (after.1.flows.find? sampleFlow).bind (·.evidence ⟨1⟩ a)
      ≠ (twoBytes.flows.find? sampleFlow).bind (·.evidence ⟨1⟩ a) := by decide +kernel

end Engine

end FlowObs
