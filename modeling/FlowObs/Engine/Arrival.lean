import FlowObs.Engine.Coherent
import FlowObs.Engine.Generations
import FlowObs.Engine.Threads

/-!
# The order of arrival

What an engine knows, without the order in which it was told: which generations there are, what each source has said
of them and how the sources are described (`Knowledge`). An observation that is applied while nothing is given up or
folded for it becomes part of the knowledge (`knowledge_applyLocked`), a recomputation leaves it alone
(`learns_recomputeAll`), and different observations are recorded in any order (`Knowledge.exec_perm`). The knowledge
determines what a generation shows of its evidence (`evidenceShown_of_knowledge`). So threads that apply the same
observations in whatever order show the same evidence (`arrival_order`): only the lifecycle of a generation remembers
the order.
-/

namespace FlowObs

/-! ## What is known -/

/-- What an engine was told: the generations, the evidence of each source, and the descriptors of the sources. -/
@[ext] structure Knowledge where
  generations : FlowId → GenerationId → Bool
  evidence : FlowId → GenerationId → SourceId → Option SourceBinding
  descriptors : SourceId → Option SourceDescriptor

/-- Where an observation is kept. -/
def Observation.address (o : Observation) : FlowId × GenerationId × SourceId × CanonicalKey :=
  (o.subject.flow, o.subject.generation, o.key.source, o.canonicalKey)

/-- The evidence of a source with one more observation. -/
def SourceBinding.add (b : SourceBinding) (replaying : Bool) (obs : Observation) : SourceBinding :=
  { b with
    ledger := { b.ledger with entries := b.ledger.entries.set obs, totalAccepted := b.ledger.totalAccepted + 1 }
    reconfirmed := b.reconfirmed || !replaying }

namespace Knowledge

/-- The knowledge with one more observation. A source that was not known is described as one that is not registered. -/
def record (limits : Limits) (replaying : Bool) (a : Knowledge) (obs : Observation) : Knowledge where
  generations flow gen := a.generations flow gen || decide (obs.subject.flow = flow ∧ obs.subject.generation = gen)
  evidence flow gen source :=
    if obs.subject.flow = flow ∧ obs.subject.generation = gen ∧ obs.key.source = source then
      some (((a.evidence flow gen source).getD (freshBinding limits replaying source ⟨flow, gen⟩)).add replaying obs)
    else a.evidence flow gen source
  descriptors id := (a.descriptors id).or
    (if obs.key.source = id then some (Engine.unregisteredSource {} id).descriptor else none)

/-- An observation is kept under the address. -/
def knows (a : Knowledge) (o : Observation) : Bool :=
  (a.evidence o.subject.flow o.subject.generation o.key.source).any fun b =>
    (b.ledger.entries.find? o.canonicalKey).isSome

variable {limits : Limits} {replaying : Bool} {a : Knowledge} {o o' : Observation} {told told' : List Observation}

theorem knows_congr (h : o.address = o'.address) : a.knows o = a.knows o' := by
  simp only [Observation.address, Prod.mk.injEq] at h
  obtain ⟨hflow, hgen, hsource, hkey⟩ := h
  unfold knows
  rw [hflow, hgen, hsource, hkey]

/-- What was recorded is known. -/
theorem knows_record_self (a : Knowledge) (o : Observation) : (a.record limits replaying o).knows o = true := by
  simp [knows, record, SourceBinding.add]

/-- What is known stays known. -/
theorem knows_record (h : a.knows o = true) (o' : Observation) : (a.record limits replaying o').knows o = true := by
  obtain ⟨b, hb, hkey⟩ := (Option.any_eq_true _ _).1 h
  unfold knows record
  simp only [hb, Option.getD_some]
  split
  · simp only [Option.any_some, SourceBinding.add]
    rw [SortedVec.find?_set]
    split
    · rfl
    · exact hkey
  · exact hkey

/-- An address that is known is not recorded again. -/
theorem ne_of_known (h : a.knows o = true) :
    Run.Along (record limits replaying) (fun a o => a.knows o = false) a told →
    ∀ o' ∈ told, o'.address ≠ o.address := by
  induction told generalizing a with
  | nil => exact fun _ o' ho' => absurd ho' List.not_mem_nil
  | cons x told ih =>
    rintro ⟨hfresh, hrest⟩ o' ho'
    rcases List.mem_cons.1 ho' with rfl | ho'
    · intro haddress
      rw [knows_congr haddress, h] at hfresh
      cases hfresh
    · exact ih (knows_record h x) hrest o' ho'

/-- Observations that are each new when they are recorded have different addresses. -/
theorem nodup_addresses (h : Run.Along (record limits replaying) (fun a o => a.knows o = false) a told) :
    (told.map Observation.address).Nodup := by
  induction told generalizing a with
  | nil => exact List.nodup_nil
  | cons x told ih =>
    rw [List.map_cons, List.nodup_cons]
    refine ⟨fun hmem => ?_, ih h.2⟩
    obtain ⟨o', ho', haddress⟩ := List.mem_map.1 hmem
    exact ne_of_known (knows_record_self a x) h.2 o' ho' haddress

/-- Two observations are added to the evidence of a source in any order. -/
theorem add_comm (b : SourceBinding) (hkey : o.canonicalKey ≠ o'.canonicalKey) :
    (b.add replaying o).add replaying o' = (b.add replaying o').add replaying o := by
  unfold SourceBinding.add
  simp only [SortedVec.set_comm _ hkey]

/-- **Different observations can be recorded in any order.** -/
theorem record_comm (h : o.address = o'.address → o = o') (a : Knowledge) :
    (a.record limits replaying o).record limits replaying o' =
    (a.record limits replaying o').record limits replaying o := by
  by_cases heq : o = o'
  · rw [heq]
  have haddress : o.address ≠ o'.address := fun hsame => heq (h hsame)
  refine Knowledge.ext ?_ ?_ ?_
  · funext flow gen
    exact Bool.or_right_comm _ _ _
  · funext flow gen source
    simp only [record]
    by_cases ho : o.subject.flow = flow ∧ o.subject.generation = gen ∧ o.key.source = source <;>
      by_cases ho' : o'.subject.flow = flow ∧ o'.subject.generation = gen ∧ o'.key.source = source
    · obtain ⟨rfl, rfl, rfl⟩ := ho
      have hkey : o.canonicalKey ≠ o'.canonicalKey := fun hkey => haddress (by
        unfold Observation.address
        rw [hkey, ho'.1, ho'.2.1, ho'.2.2])
      simp only [ho', and_self, if_true, Option.getD_some, add_comm _ hkey]
    · simp only [if_pos ho, if_neg ho']
    · simp only [if_neg ho, if_pos ho']
    · simp only [if_neg ho, if_neg ho']
  · funext id
    simp only [record, Option.or_assoc]
    congr 1
    by_cases ho : o.key.source = id <;> by_cases ho' : o'.key.source = id <;> simp [ho, ho']

/-- **What is recorded of new observations does not depend on their order.** -/
theorem exec_perm (h : Run.Along (record limits replaying) (fun a o => a.knows o = false) a told)
    (hperm : told.Perm told') :
    Run.exec (record limits replaying) a told = Run.exec (record limits replaying) a told' := by
  have hdistinct := nodup_addresses h
  refine hperm.foldl_eq' (fun o ho o' ho' a => ?_) a
  exact record_comm (fun hsame => List.inj_on_of_nodup_map hdistinct ho ho' hsame) a

end Knowledge

/-! ## What is shown of it -/

section View

variable {config : EngineConfig} {sources sources' : SourceTable} {b : SourceBinding}

theorem SourceBinding.evidence_source (b : SourceBinding) : b.evidence.source = b.source := rfl

/-- The view of a binding is determined by its evidence and the descriptor of its source. -/
theorem bindingView_evidence (h : Agrees SourceView.folded config sources b) (ctx : FreshnessContext) :
    bindingView config sources ctx b
      = ((sources.find? b.source).map SourceState.descriptor).map fun d => sourceView config b.evidence d ctx := by
  rw [Option.map_map, bindingView_of_agrees h]
  rfl

end View

namespace Engine

variable {e e' : Engine} {flow : FlowId} {gen : GenerationId}

/-- What an engine knows. -/
def knowledge (e : Engine) : Knowledge where
  generations flow gen := (e.generation? flow gen).isSome
  evidence flow gen source := (e.binding? flow gen source).map SourceBinding.evidence
  descriptors id := (e.sources.find? id).map SourceState.descriptor

/-- What a generation shows of its evidence: the view of `generation_view` but for its state, its cause and when it
was closed. -/
def evidenceShown (e : Engine) (ctx : FreshnessContext) (flow : FlowId) (gen : GenerationId) : Option GenerationView :=
  (e.flows.find? flow).bind fun f =>
    (f.generations.find? gen).map (evidenceView e.config e.sources ctx flow f.currentGeneration)

theorem evidenceShown_of_none (h : e.generation? flow gen = none) (ctx : FreshnessContext) :
    e.evidenceShown ctx flow gen = none := by
  unfold generation? at h
  unfold evidenceShown
  cases hf : e.flows.find? flow with
  | none => rfl
  | some f =>
    rw [hf, Option.bind_some] at h
    rw [Option.bind_some, h, Option.map_none]

/-- The views of the sources of a generation, from the knowledge. -/
theorem views_knowledge (h : e.Coherent SourceView.folded) {f : FlowRuntime} {g : GenerationRuntime}
    (hf : e.flows.find? flow = some f) (hg : f.generations.find? gen = some g) (ctx : FreshnessContext) :
    g.bindings.toList.filterMap (bindingView e.config e.sources ctx)
      = (g.bindings.map SourceBinding.evidence SourceBinding.evidence_source).toList.filterMap fun b =>
          (e.knowledge.descriptors b.source).map fun d => sourceView e.config b d ctx := by
  rw [SortedVec.toList_map, List.filterMap_map]
  refine List.filterMap_congr fun b hb => ?_
  have hbinding : e.binding? flow gen b.source = some b := by
    unfold binding? FlowRuntime.binding?
    rw [hf, Option.bind_some, hg, Option.bind_some]
    exact SortedVec.find?_of_mem hb
  exact bindingView_evidence (h _ _ _ b hbinding) ctx

/-- The evidence of a generation, from the knowledge. -/
theorem find?_evidence {f : FlowRuntime} {g : GenerationRuntime} (hf : e.flows.find? flow = some f)
    (hg : f.generations.find? gen = some g) (source : SourceId) :
    (g.bindings.map SourceBinding.evidence SourceBinding.evidence_source).find? source
      = e.knowledge.evidence flow gen source := by
  show _ = (e.binding? flow gen source).map SourceBinding.evidence
  unfold binding? FlowRuntime.binding?
  rw [SortedVec.find?_map, hf, Option.bind_some, hg, Option.bind_some]

/-- The current generation of a flow is not older than that of a flow with no more generations. -/
theorem current_le {f f' : FlowRuntime} (h : f.Headed) (h' : f'.Headed)
    (hfound : (f.generations.find? gen).isSome = true)
    (hsome : ∀ gen, (f.generations.find? gen).isSome = true → (f'.generations.find? gen).isSome = true) :
    f.currentGeneration ≤ f'.currentGeneration := by
  refine h'.greatest _ (hsome _ (h.retained.resolve_right fun hnone => ?_))
  rw [hnone.1 gen] at hfound
  cases hfound

/-- **The knowledge determines what a generation shows of its evidence.** -/
theorem evidenceShown_of_knowledge (hconfig : e'.config = e.config) (hknowledge : e'.knowledge = e.knowledge)
    (hheaded : e.Headed)
    (hheaded' : e'.Headed) (h : e.Coherent SourceView.folded) (h' : e'.Coherent SourceView.folded)
      (ctx : FreshnessContext)
    (flow : FlowId) (gen : GenerationId) : e'.evidenceShown ctx flow gen = e.evidenceShown ctx flow gen := by
  have hsome : ∀ gen, (e'.generation? flow gen).isSome = (e.generation? flow gen).isSome := fun gen =>
    congrFun (congrFun (congrArg Knowledge.generations hknowledge) flow) gen
  cases hg : e.generation? flow gen with
  | none =>
    have hg' : e'.generation? flow gen = none := by
      rw [← Option.not_isSome_iff_eq_none, hsome, hg]
      exact Bool.false_ne_true
    rw [evidenceShown_of_none hg, evidenceShown_of_none hg']
  | some g =>
    obtain ⟨g', hg'⟩ := Option.isSome_iff_exists.1 ((hsome gen).trans (congrArg Option.isSome hg))
    obtain ⟨f, hf, hg⟩ := Option.bind_eq_some_iff.1 hg
    obtain ⟨f', hf', hg'⟩ := Option.bind_eq_some_iff.1 hg'
    have hfound : ∀ gen, (f'.generations.find? gen).isSome = (f.generations.find? gen).isSome := by
      intro gen
      have hboth := hsome gen
      unfold generation? at hboth
      rwa [hf, hf'] at hboth
    have hthere : (f.generations.find? gen).isSome = true := by rw [hg]; rfl
    have hthere' : (f'.generations.find? gen).isSome = true := by rw [hg']; rfl
    have hcurrent : f'.currentGeneration = f.currentGeneration := by
      refine le_antisymm (current_le (hheaded' _ f' hf') (hheaded _ f hf) hthere' ?_)
        (current_le (hheaded _ f hf) (hheaded' _ f' hf') hthere ?_)
      · exact fun gen h => hfound gen ▸ h
      · exact fun gen h => (hfound gen).trans h
    have hevidence : g'.bindings.map SourceBinding.evidence SourceBinding.evidence_source
        = g.bindings.map SourceBinding.evidence SourceBinding.evidence_source := by
      refine SortedVec.ext_find? fun source => ?_
      rw [find?_evidence hf hg, find?_evidence hf' hg', hknowledge]
    have hviews : g'.bindings.toList.filterMap (bindingView e'.config e'.sources ctx)
        = g.bindings.toList.filterMap (bindingView e.config e.sources ctx) := by
      rw [views_knowledge h hf hg, views_knowledge h' hf' hg', hevidence, hknowledge, hconfig]
    rw [hconfig] at hviews
    unfold evidenceShown
    simp only [hf, hf', Option.bind_some, hg, hg', Option.map_some, evidenceView, hviews, hcurrent, hconfig,
      SortedVec.find?_key hg, SortedVec.find?_key hg']

end Engine

/-! ## One observation -/

section Flow

variable {config : EngineConfig} {sources : SourceTable} {ctx : FreshnessContext} {replaying : Bool} {limits : Limits}
variable {atTime : Timestamp} {obs : Observation} {f f' room : FlowRuntime} {b : SourceBinding}
    {outcome : IngestOutcome}
variable {wanted : GenerationId}

theorem InsertKind.accepted_of_applied {kind : InsertKind} (h : kind.disposition = .Applied) : kind = .Accepted := by
  cases kind <;> first | rfl | cases h

/-- What an accepted observation adds, where the ledger has room for it. -/
theorem evidence_take (replaying : Bool) (h : (b.ledger.insert obs).2.kind = .Accepted)
    (hroom : b.ledger.entries.toList.length < b.ledger.capacity) :
    (b.take replaying obs).1.evidence = b.evidence.add replaying obs := by
  have hcases := b.ledger.insert_cases obs
  have htake : (b.take replaying obs).1
      = { b with ledger := (b.ledger.insert obs).1, cached := none, reconfirmed := b.reconfirmed || !replaying } := by
    unfold SourceBinding.take
    simp only [h]
  rw [htake]
  rw [h] at hcases
  generalize (b.ledger.insert obs).1 = l at hcases
  cases hcases with
  | accepted _ _ hnew =>
    have hfits : (b.ledger.entries.set obs).toList.length ≤ b.ledger.capacity := by
      rw [SortedVec.length_set_of_none hnew]
      exact hroom
    rw [SourceLedger.compactEntries_of_le (l := { b.ledger with
      entries := b.ledger.entries.set obs, totalAccepted := b.ledger.totalAccepted + 1 }) hfits]
    rfl

/-- A flow of which no generation is missing afterwards gave up none to make room. -/
theorem Roomed.eq_of_retained (h : Roomed limits f wanted room)
    (hkept : ∀ gen, (f.generations.find? gen).isSome = true →
      gen = wanted ∨ (room.generations.find? gen).isSome = true) : room = f := by
  cases h with
  | known => rfl
  | free => rfl
  | evicted hnone _ he =>
    obtain ⟨g, hfound, rfl⟩ := Option.map_eq_some_iff.1 he
    have hg := SortedVec.find?_of_mem (List.mem_of_find?_eq_some hfound)
    rcases hkept g.id (by rw [hg]; rfl) with rfl | hroom
    · rw [hg] at hnone
      cases hnone
    · rw [SortedVec.find?_erase, if_pos rfl] at hroom
      cases hroom

/-- **What an observation that is applied does to its flow**, in which there may be made room for it. -/
theorem FlowApplied.applied (h : FlowApplied config sources ctx replaying atTime obs f f' outcome)
    (ho : outcome.disposition = .Applied) : ∃ room, Roomed config.limits f obs.subject.generation room ∧
      (∀ gen, (f'.generations.find? gen).isSome
        = (decide (obs.subject.generation = gen) || (room.generations.find? gen).isSome)) ∧
      (((f.bindingFor config.limits replaying obs).ledger.insert (clampedObservation config.limits obs)).2.kind =
        .Accepted) ∧
      ∀ gen source, (f'.binding? gen source).map SourceBinding.evidence
        = if obs.subject.generation = gen ∧ obs.key.source = source then
            some (((f.bindingFor config.limits replaying obs).take replaying
              (clampedObservation config.limits obs)).1.evidence)
          else (room.binding? gen source).map SourceBinding.evidence := by
  cases h with
  | collided _ _ hrefused | stopped _ _ hrefused | noSourceRoom _ _ _ _ _ hrefused
  | ledgerRefused _ _ _ _ _ _ hrefused => rw [ho] at hrefused; cases hrefused
  | recomputed room settled _ hroom _ _ _ hn hkind =>
    have hid : (room.enter obs.subject.generation atTime).id = f.id := hroom.same.1
    have hbefore : ((room.enter obs.subject.generation atTime).binding? obs.subject.generation obs.key.source).getD
        (freshBinding config.limits replaying obs.key.source
          ⟨(room.enter obs.subject.generation atTime).id, obs.subject.generation⟩)
          = f.bindingFor config.limits replaying obs := by
      rw [binding?_enter, hroom.binding?, hid]
      rfl
    refine ⟨room, hroom, fun gen => ?_, ?_, fun gen source => ?_⟩
    · rw [recomputeFlow_generations, find?_recomputed, Option.isSome_map, find?_touch]
      by_cases hgen : obs.subject.generation = gen
      · rw [if_pos hgen, decide_eq_true hgen]
        rfl
      · rw [if_neg hgen, decide_eq_false hgen, hn.generations_eq, revise_generations, find?_insertEvidence,
          clampedObservation_subject, if_neg hgen, find?_enter, if_neg hgen, Bool.false_or]
    · rw [insertEvidence_answer, clampedObservation_subject, clampedObservation_key, hbefore] at hkind
      exact InsertKind.accepted_of_applied (hkind.symm.trans ho)
    · rw [binding?_recomputeFlow, Option.map_map,
        show SourceBinding.evidence ∘ refreshBinding config sources ctx = SourceBinding.evidence from
          funext (evidence_refreshBinding config sources ctx),
        binding?_touch, hn.binding?, binding?_revise, binding?_insertEvidence, clampedObservation_subject,
        clampedObservation_key]
      by_cases haddress : obs.subject.generation = gen ∧ obs.key.source = source
      · obtain ⟨rfl, rfl⟩ := haddress
        rw [if_pos ⟨rfl, rfl⟩, if_pos ⟨rfl, rfl⟩, hbefore, Option.map_some]
      · rw [if_neg haddress, if_neg haddress, binding?_enter]

end Flow

namespace Engine

variable {e e' : Engine} {atTime : Timestamp} {obs incoming : Observation} {outcome : IngestOutcome}
variable {flow : FlowId} {gen : GenerationId} {source : SourceId}

/-- Every generation of the one engine is there in the other. -/
def KeepsGenerations (e e' : Engine) : Prop :=
  ∀ f ∈ e.flows.toList, ∀ g ∈ f.generations.toList, (e'.generation? f.id g.id).isSome = true

instance (e e' : Engine) : Decidable (e.KeepsGenerations e') :=
  inferInstanceAs (Decidable (∀ f ∈ e.flows.toList, ∀ g ∈ f.generations.toList,
    (e'.generation? f.id g.id).isSome = true))

theorem KeepsGenerations.generation (h : e.KeepsGenerations e') (hsome : (e.generation? flow gen).isSome = true) :
    (e'.generation? flow gen).isSome = true := by
  obtain ⟨g, hg⟩ := Option.isSome_iff_exists.1 hsome
  obtain ⟨f, hf, hg⟩ := Option.bind_eq_some_iff.1 hg
  have hkept := h f (SortedVec.find?_mem hf) g (SortedVec.find?_mem hg)
  rwa [SortedVec.find?_key hf, SortedVec.find?_key hg] at hkept

/-- The observation is applied, and nothing is given up or folded for it. -/
structure Adds (e : Engine) (incoming : Observation) : Prop where
  applied : (e.applyLocked incoming).2.disposition = .Applied
  retains : e.KeepsGenerations (e.applyLocked incoming).1
  room : (e.bindingFor (e.taken incoming)).ledger.entries.toList.length <
    (e.bindingFor (e.taken incoming)).ledger.capacity

instance (e : Engine) (incoming : Observation) : Decidable (e.Adds incoming) :=
  decidable_of_iff (_ ∧ _ ∧ _) ⟨fun ⟨h₁, h₂, h₃⟩ => ⟨h₁, h₂, h₃⟩, fun h => ⟨h.applied, h.retains, h.room⟩⟩

theorem binding?_eq (e : Engine) (flow : FlowId) (gen : GenerationId) (source : SourceId) :
    e.binding? flow gen source = (e.generation? flow gen).bind (·.bindings.find? source) := by
  unfold binding? generation? FlowRuntime.binding?
  cases e.flows.find? flow <;> rfl

/-- A source that an observation names is described as it was, or as one that is not registered. -/
theorem SourceFor.descriptors {sources : SourceTable} (h : SourceFor e atTime source sources) (id : SourceId) :
    (sources.find? id).map SourceState.descriptor = ((e.sources.find? id).map SourceState.descriptor).or
      (if source = id then some (unregisteredSource {} id).descriptor else none) := by
  cases h with
  | known s hs _ =>
    by_cases hid : source = id
    · subst hid
      rw [hs, Option.map_some, Option.some_or]
    · rw [if_neg hid, Option.or_none]
  | fresh hnone _ =>
    rw [SortedVec.find?_set]
    by_cases hid : source = id
    · subst hid
      have hnew : (unregisteredSource atTime source).id = source := rfl
      rw [if_pos hnew, if_pos rfl, hnone]
      rfl
    · have hother : ¬ (unregisteredSource atTime source).id = id := hid
      rw [if_neg hid, if_neg hother, Option.or_none]

/-- The knowledge once a flow is stored that took an observation. -/
theorem knowledge_stored {flows : SortedVec FlowRuntime.id} {f f' : FlowRuntime} (hflows : e'.flows = flows.set f')
    (hid : f'.id = obs.subject.flow) (hsource : SourceFor e atTime obs.key.source e'.sources)
    (hothers : ∀ flow, obs.subject.flow ≠ flow → ∀ gen,
      (flows.find? flow).bind (·.generations.find? gen) = e.generation? flow gen)
    (hbefore : ∀ gen, f.generations.find? gen = e.generation? obs.subject.flow gen)
    (hgenerations : ∀ gen, (f'.generations.find? gen).isSome
      = (decide (obs.subject.generation = gen) || (f.generations.find? gen).isSome))
    (hevidence : ∀ gen source, (f'.binding? gen source).map SourceBinding.evidence
      = if obs.subject.generation = gen ∧ obs.key.source = source then
          some ((e.bindingFor obs).evidence.add e.replaying (clampedObservation e.config.limits obs))
        else (f.binding? gen source).map SourceBinding.evidence) :
    e'.knowledge = e.knowledge.record e.config.limits e.replaying (clampedObservation e.config.limits obs) := by
  have hgeneration : ∀ flow gen, e'.generation? flow gen
      = if obs.subject.flow = flow then f'.generations.find? gen else e.generation? flow gen := by
    intro flow gen
    unfold generation?
    rw [hflows, SortedVec.find?_set, hid]
    by_cases hflow : obs.subject.flow = flow
    · rw [if_pos hflow, if_pos hflow, Option.bind_some]
    · rw [if_neg hflow, if_neg hflow]
      exact hothers flow hflow gen
  refine Knowledge.ext ?_ ?_ ?_
  · funext flow gen
    simp only [knowledge, Knowledge.record, clampedObservation_subject, hgeneration]
    by_cases hflow : obs.subject.flow = flow
    · subst hflow
      simp only [if_true, hgenerations, hbefore, true_and]
      exact Bool.or_comm _ _
    · simp only [hflow, if_false, false_and, decide_false, Bool.or_false]
  · funext flow gen source
    have hbinding : e'.binding? flow gen source
        = if obs.subject.flow = flow then f'.binding? gen source else e.binding? flow gen source := by
      rw [binding?_eq, hgeneration, binding?_eq e]
      split <;> rfl
    simp only [knowledge, Knowledge.record, clampedObservation_subject, clampedObservation_key, hbinding]
    by_cases hflow : obs.subject.flow = flow
    · subst hflow
      have hsame : f.binding? gen source = e.binding? obs.subject.flow gen source := by
        rw [binding?_eq, ← hbefore]
        rfl
      simp only [if_true, hevidence, hsame, true_and]
      by_cases haddress : obs.subject.generation = gen ∧ obs.key.source = source
      · obtain ⟨rfl, rfl⟩ := haddress
        simp only [and_self, if_true, bindingFor]
        cases e.binding? obs.subject.flow obs.subject.generation obs.key.source <;> rfl
      · rw [if_neg haddress, if_neg haddress]
    · simp only [hflow, if_false, false_and]
  · funext id
    simp only [knowledge, Knowledge.record, clampedObservation_key]
    exact hsource.descriptors id

/-- The binding that an observation finds or makes, in the flow that it finds. -/
theorem bindingFor_found {f : FlowRuntime} (hf : e.flows.find? obs.subject.flow = some f) :
    f.bindingFor e.config.limits e.replaying obs = e.bindingFor obs := by
  unfold FlowRuntime.bindingFor bindingFor binding?
  rw [hf, Option.bind_some, SortedVec.find?_key hf]

theorem bindingFor_created (hnone : e.flows.find? obs.subject.flow = none) (atTime : Timestamp) :
    (e.createFlow atTime obs).bindingFor e.config.limits e.replaying obs = e.bindingFor obs := by
  unfold FlowRuntime.bindingFor bindingFor binding?
  rw [hnone]
  rfl

/-- The ledger accepts an observation that is applied. -/
theorem Admitted.accepted (ha : Admitted e atTime obs e' outcome) (ho : outcome.disposition = .Applied) :
    ((e.bindingFor obs).ledger.insert (clampedObservation e.config.limits obs)).2.kind = .Accepted := by
  cases ha with
  | noSource _ hrefused | noFlowRoom _ _ _ _ _ _ hrefused => rw [ho] at hrefused; cases hrefused
  | found sources f f' registries _ hf happ _ =>
    obtain ⟨-, -, -, haccepted, -⟩ := happ.applied ho
    rwa [bindingFor_found hf] at haccepted
  | created sources flows f' registries _ hnone _ happ _ =>
    obtain ⟨-, -, -, haccepted, -⟩ := happ.applied ho
    rwa [bindingFor_created hnone] at haccepted

/-- **An observation that is applied becomes part of the knowledge**, if every generation is retained and the ledger
has room. -/
theorem Admitted.knowledge (ha : Admitted e atTime obs e' outcome) (ho : outcome.disposition = .Applied)
    (hkept : e.KeepsGenerations e')
    (hroom : (e.bindingFor obs).ledger.entries.toList.length < (e.bindingFor obs).ledger.capacity) :
    e'.knowledge = e.knowledge.record e.config.limits e.replaying (clampedObservation e.config.limits obs) := by
  have haccepted := ha.accepted ho
  have htaken := evidence_take e.replaying haccepted hroom
  cases ha with
  | noSource _ hrefused | noFlowRoom _ _ _ _ _ _ hrefused => rw [ho] at hrefused; cases hrefused
  | found sources f f' registries hsource hf happ he =>
    obtain ⟨room, hroomed, hgenerations, -, hevidence⟩ := happ.applied ho
    have hflows : e'.flows = e.flows.set f' := he.flows_eq
    have hsources : sources = e'.sources := he.sources_eq.symm
    have hid : f'.id = obs.subject.flow := happ.kept.id.trans (SortedVec.find?_key hf)
    have hretained : room = f := by
      refine hroomed.eq_of_retained fun gen hgen => ?_
      have hthere : (e'.generation? obs.subject.flow gen).isSome = true := hkept.generation (by
        unfold generation?
        rwa [hf, Option.bind_some])
      unfold generation? at hthere
      rw [hflows, ← hid, SortedVec.find?_set_self, Option.bind_some, hgenerations] at hthere
      exact (Bool.or_eq_true_iff.1 hthere).imp_left fun h => (of_decide_eq_true h).symm
    subst hretained
    rw [bindingFor_found hf, htaken] at hevidence
    refine knowledge_stored hflows hid (hsources ▸ hsource) (fun flow _ gen => rfl)
      (fun gen => ?_) hgenerations hevidence
    unfold generation?
    rw [hf, Option.bind_some]
  | created sources flows f' registries hsource hnone hflowRoom happ he =>
    obtain ⟨room, hroomed, hgenerations, -, hevidence⟩ := happ.applied ho
    have hflows : e'.flows = flows.set f' := he.flows_eq
    have hsources : sources = e'.sources := he.sources_eq.symm
    have hid : f'.id = obs.subject.flow := happ.kept.id
    have hretained : room = e.createFlow atTime obs := hroomed.eq_of_retained fun gen hgen => by cases hgen
    subst hretained
    rw [bindingFor_created hnone, htaken] at hevidence
    refine knowledge_stored hflows hid (hsources ▸ hsource) (fun flow hflow gen => ?_)
      (fun gen => ?_) hgenerations hevidence
    · cases hg : e.generation? flow gen with
      | none =>
        rcases hflowRoom.find?_eq flow with hsame | hgone
        · rw [hsame]
          exact hg
        · rw [hgone]
          rfl
      | some g =>
        have hthere : (e'.generation? flow gen).isSome = true := hkept.generation (by rw [hg]; rfl)
        unfold generation? at hthere
        rw [hflows, SortedVec.find?_set_of_ne _ (hid ▸ hflow)] at hthere
        rcases hflowRoom.find?_eq flow with hsame | hgone
        · rw [hsame]
          exact hg
        · rw [hgone] at hthere
          cases hthere
    · unfold generation?
      rw [hnone]
      rfl

/-- **What `apply_locked` does to the knowledge** with an observation that it applies, and what the ledger had
answered. -/
theorem knowledge_applyLocked (h : e.Adds incoming) :
    ((e.bindingFor (e.taken incoming)).ledger.insert (e.taken incoming)).2.kind = .Accepted ∧
      (e.applyLocked incoming).1.knowledge = e.knowledge.record e.config.limits e.replaying (e.taken incoming) := by
  obtain ⟨ho, hkept, hroom⟩ := h
  have hfor : e.bindingFor (e.taken incoming) = e.bindingFor (prepare e.instant incoming) := by
    unfold bindingFor taken
    rw [clampedObservation_subject, clampedObservation_key]
  rw [hfor] at hroom ⊢
  cases applyLocked_cases e incoming with
  | invalid _ _ _ hrefused | unjournaled _ _ _ _ _ hrefused => rw [ho] at hrefused; cases hrefused
  | admitted e₁ _ _ hsame ha =>
    obtain ⟨_, _, _, rfl⟩ := hsame
    exact ⟨ha.accepted ho, ha.knowledge ho hkept hroom⟩

/-! ## What is told in turn -/

/-- The one engine becomes the other when it is told the observations in this order. Each was new to it. -/
structure Learns (e : Engine) (told : List Observation) (e' : Engine) : Prop where
  config : e'.config = e.config
  replaying : e'.replaying = e.replaying
  knowledge : e'.knowledge = Run.exec (Knowledge.record e.config.limits e.replaying) e.knowledge told
  fresh : Run.Along (Knowledge.record e.config.limits e.replaying) (fun a o => a.knows o = false) e.knowledge told
  headed : e.Headed → e'.Headed
  coherent : e.Coherent SourceView.folded → e'.Coherent SourceView.folded

theorem Learns.trans {e'' : Engine} {told told' : List Observation} (h : e.Learns told e') (h' : e'.Learns told' e'') :
    e.Learns (told ++ told') e'' where
  config := h'.config.trans h.config
  replaying := h'.replaying.trans h.replaying
  knowledge := by rw [Run.exec_append, ← h.knowledge, h'.knowledge, h.config, h.replaying]
  fresh := by
    refine Run.along_append.2 ⟨h.fresh, ?_⟩
    have hfresh := h'.fresh
    rwa [h.config, h.replaying, h.knowledge] at hfresh
  headed := fun hheaded => h'.headed (h.headed hheaded)
  coherent := fun hcoherent => h'.coherent (h.coherent hcoherent)

/-- Nothing is told when the tables stay as they are. -/
theorem learns_same (hconfig : e'.config = e.config) (hreplaying : e'.replaying = e.replaying)
    (hflows : e'.flows = e.flows)
    (hsources : e'.sources = e.sources) : e.Learns [] e' where
  config := hconfig
  replaying := hreplaying
  knowledge := by
    unfold knowledge generation? binding?
    rw [hflows, hsources]
    rfl
  fresh := trivial
  headed := fun h => (keepsHeads_of_flows hflows h).1
  coherent := fun h => h.of_sources hconfig hflows fun id s hs => ⟨s, hsources ▸ hs, rfl⟩

theorem SameState.learns (h : e.SameState e') : e.Learns [] e' := learns_same h.config h.replaying h.flows h.sources

/-- A recomputation tells nothing. -/
theorem learns_recomputeAll (e : Engine) (atTime : Timestamp) (due : FlowRuntime → Bool) :
    e.Learns [] (e.recomputeAll atTime due) where
  config := rfl
  replaying := rfl
  knowledge := by
    have hgeneration : ∀ f : FlowRuntime, ∀ gen, ((e.recomputeDue atTime due f).generations.find? gen).isSome
        = (f.generations.find? gen).isSome := by
      intro f gen
      unfold recomputeDue
      split
      · rw [recomputeFlow_generations, find?_recomputed, Option.isSome_map]
      · rfl
    have hevidence : ∀ f : FlowRuntime, ∀ gen source,
        ((e.recomputeDue atTime due f).binding? gen source).map SourceBinding.evidence
          = (f.binding? gen source).map SourceBinding.evidence := by
      intro f gen source
      unfold recomputeDue
      split
      · rw [binding?_recomputeFlow, Option.map_map]
        exact congrArg (Option.map · _) (funext (evidence_refreshBinding _ _ _))
      · rfl
    refine Knowledge.ext ?_ ?_ rfl
    · funext flow gen
      show ((e.recomputeAll atTime due).generation? flow gen).isSome = (e.generation? flow gen).isSome
      unfold generation?
      rw [find?_recomputeAll]
      cases e.flows.find? flow with
      | none => rfl
      | some f => exact hgeneration f gen
    · funext flow gen source
      show ((e.recomputeAll atTime due).binding? flow gen source).map _ = (e.binding? flow gen source).map _
      unfold binding?
      rw [find?_recomputeAll]
      cases e.flows.find? flow with
      | none => rfl
      | some f => exact hevidence f gen source
  fresh := trivial
  headed := fun h => (keepsHeads_recomputeAll e atTime due h).1
  coherent := fun h => holds_recomputeAll h due fun ctx _ _ _ hb => hb.refresh ctx

/-- An observation that is applied was new. -/
theorem knows_of_accepted (h : ((e.bindingFor obs).ledger.insert obs).2.kind = .Accepted) :
    e.knowledge.knows obs = false := by
  have hcases := (e.bindingFor obs).ledger.insert_cases obs
  rw [h] at hcases
  generalize ((e.bindingFor obs).ledger.insert obs).1 = l at hcases
  cases hcases with
  | accepted _ _ hnew =>
    show ((e.binding? obs.subject.flow obs.subject.generation obs.key.source).map SourceBinding.evidence).any _ = false
    unfold bindingFor at hnew
    cases hb : e.binding? obs.subject.flow obs.subject.generation obs.key.source with
    | none => rfl
    | some b =>
      rw [hb] at hnew
      have hnone : b.evidence.ledger.entries.find? obs.canonicalKey = none := hnew
      rw [Option.map_some, Option.any_some, hnone, Option.isSome_none]

theorem learns_applyLocked (h : e.Adds incoming) : e.Learns [e.taken incoming] (e.applyLocked incoming).1 := by
  obtain ⟨haccepted, hknowledge⟩ := knowledge_applyLocked h
  have hsettings := sameSettings_applyLocked e incoming
  refine ⟨hsettings.config_eq, hsettings.replaying_eq, hknowledge, ⟨knows_of_accepted haccepted, trivial⟩,
    fun hheaded => ?_,
    fun hcoherent => ?_⟩
  · exact (keepsHeads_applyLocked e incoming hheaded).1
  · refine coherent_applyLocked hcoherent fun _ _ hkind => ?_
    rw [haccepted] at hkind
    rcases hkind with hkind | hkind <;> cases hkind

theorem learns_batch {batch : List Observation} (h : ∀ p ∈ e.batchApplications batch, p.1.Adds p.2) :
    e.Learns ((e.batchApplications batch).map fun p => p.1.taken p.2)
      (batch.foldl (fun e obs => (e.applyLocked obs).1) e) := by
  induction batch generalizing e with
  | nil => exact (SameState.refl e).learns
  | cons obs batch ih =>
    have hhead := learns_applyLocked (h (e, obs) List.mem_cons_self)
    exact hhead.trans (ih fun p hp => h p (List.mem_cons_of_mem _ hp))

theorem learns_applyBatch {batch : List Observation} (h : ∀ p ∈ e.batchApplications batch, p.1.Adds p.2) :
    e.Learns ((e.batchApplications batch).map fun p => p.1.taken p.2) (e.applyBatch batch) := by
  have hbatch := (learns_batch h).trans (sameState_applyBatch e batch).learns
  rwa [List.append_nil] at hbatch


/-! ## What an operation tells -/

/-- The operation neither describes a source nor gives one up. -/
def Op.feeds : Op → Bool
  | .registerSource _ | .retireSource _ => false
  | _ => true

/-- **What an operation tells**, if it neither describes a source nor gives one up. -/
theorem learns_step {op : Op} (hfeeds : op.feeds = true) (h : ∀ p ∈ e.applications op, p.1.Adds p.2) :
    e.Learns ((e.applications op).map fun p => p.1.taken p.2) (e.step op) := by
  cases op with
  | ingest obs =>
    show e.Learns _ (e.ingest obs).1
    rcases ingest_cases e obs with ⟨happs, he⟩ | ⟨happs, he⟩
    · rw [happs, he]
      exact (SameState.refl e).learns
    · rw [happs] at h ⊢
      rw [he]
      exact learns_applyLocked (h (e, obs) (List.mem_singleton_self _))
  | submit obs =>
    rcases submit_cases e obs with ⟨happs, he⟩ | ⟨happs, he⟩
    · rw [happs, he]
      exact (SameState.refl e).learns
    · rw [happs] at h ⊢
      rw [he]
      exact learns_applyLocked (h (e, e.prepareSubmit obs) (List.mem_singleton_self _))
  | enqueue obs => exact (sameState_enqueue e obs).learns
  | drain n =>
    by_cases hopen : e.isOpen = true
    · rw [applications, if_pos hopen] at h ⊢
      have htold := ((sameState_taken e n).learns.trans (learns_batch h)).trans (sameState_drain hopen n).learns
      rwa [List.nil_append, List.append_nil] at htold
    · rw [applications, if_neg hopen]
      exact (sameState_drain_closed hopen n).learns
  | work batch => exact learns_applyBatch h
  | tick evaluatedAt =>
    simp only [step, tick]
    split
    · exact (SameState.refl e).learns
    · split
      · exact (SameState.refl e).learns
      · have hset : e.SameState { e with evaluationOverride := evaluatedAt } := ⟨rfl, rfl, rfl, rfl, rfl, rfl⟩
        exact (hset.learns.trans (learns_recomputeAll _ evaluatedAt tickDue)).trans
          (sameState_tickLocked e evaluatedAt).learns
  | registerSource d => cases hfeeds
  | retireSource id => cases hfeeds
  | compact => exact (sameTables_compactLocked e).sameState.learns
  | flush => exact SameState.learns ⟨rfl, rfl, rfl, rfl, rfl, rfl⟩
  | freeze => exact SameState.learns ⟨rfl, rfl, rfl, rfl, rfl, rfl⟩
  | advance clock => exact SameState.learns ⟨rfl, rfl, rfl, rfl, rfl, rfl⟩

end Engine

/-! ## What the threads tell -/

namespace Threads

variable {s : Threads} {ev : Event} {evs evs' : List Event}

/-- The observations that a section applies, each with the state it is applied to. -/
def applications (s : Threads) : Event → List (Engine × Observation)
  | .work i => s.engine.batchApplications (s.workers[i]?.getD [])
  | .finish i => if s.engine.isOpen then s.engine.batchApplications (s.drainers[i]?.getD []) else []
  | .call (.op op) => if (Engine.Call.op op).usesQueue then [] else s.engine.applications op
  | _ => []

/-- The section neither describes or gives up a source nor empties or fills the tables. -/
def Event.feeds : Event → Bool
  | .call (.op op) => op.feeds
  | .call (.loadSnapshot ..) | .endClose | .openEngine => false
  | _ => true

/-- Each observation that the section applies is taken up whole. -/
structure Adds (s : Threads) (ev : Event) : Prop where
  feeds : ev.feeds = true
  adds : ∀ p ∈ s.applications ev, p.1.Adds p.2

instance (s : Threads) (ev : Event) : Decidable (s.Adds ev) :=
  decidable_of_iff (_ ∧ _) ⟨fun ⟨h₁, h₂⟩ => ⟨h₁, h₂⟩, fun h => ⟨h.feeds, h.adds⟩⟩

/-- What the threads tell the engine, section by section. -/
def told (s : Threads) : List Event → List Observation
  | [] => []
  | ev :: evs => ((s.applications ev).map fun p => p.1.taken p.2) ++ (s.step ev).told evs

theorem startLocked_engine (s : Threads) : s.startLocked.engine = s.engine := by
  unfold startLocked
  split <;> rfl

theorem learns_step (h : s.Adds ev) :
    s.engine.Learns ((s.applications ev).map fun p => p.1.taken p.2) (s.step ev).engine := by
  obtain ⟨hfeeds, hadds⟩ := h
  have hsame : s.engine.Learns [] s.engine := (Engine.SameState.refl s.engine).learns
  cases ev with
  | enqueue obs =>
    simp only [step]
    split <;> exact hsame
  | push i =>
    simp only [step]
    split
    · exact hsame
    · refine Engine.SameState.learns ?_
      unfold Engine.pushQueued
      split <;> exact ⟨rfl, rfl, rfl, rfl, rfl, rfl⟩
  | pop i =>
    simp only [step]
    split
    · exact Engine.SameState.learns ⟨rfl, rfl, rfl, rfl, rfl, rfl⟩
    · exact hsame
  | work i =>
    simp only [step, applications] at hadds ⊢
    cases hi : s.workers[i]? with
    | none => exact hsame
    | some batch =>
      rw [hi] at hadds
      cases batch with
      | nil => exact hsame
      | cons obs batch => exact Engine.learns_applyBatch hadds
  | leave i =>
    simp only [step]
    split <;> exact hsame
  | drain n =>
    have htaken : s.engine.Learns [] (s.engine.takeQueued n).1 := Engine.SameState.learns ⟨rfl, rfl, rfl, rfl, rfl, rfl⟩
    simp only [step]
    split <;> exact htaken
  | finish i =>
    simp only [step, applications] at hadds ⊢
    cases hi : s.drainers[i]? with
    | none => split <;> exact hsame
    | some batch =>
      rw [hi] at hadds
      cases hopen : s.engine.isOpen with
      | false => exact hsame
      | true =>
        rw [hopen, if_pos rfl] at hadds
        exact Engine.learns_applyBatch hadds
  | startWorkers =>
    simp only [step]
    split
    · rw [startLocked_engine]
      exact hsame
    · exact hsame
  | beginClose =>
    simp only [step, Engine.beginClose]
    split
    · exact hsame
    · rename_i e he
      split at he
      · cases he
      · cases he
        exact Engine.learns_same rfl rfl rfl rfl
  | stopWorkers | joinWorkers | stopClose | joinClose =>
    simp only [step]
    split <;> exact hsame
  | endClose | openEngine => cases hfeeds
  | call c =>
    cases c with
    | loadSnapshot path existing => cases hfeeds
    | op op =>
      simp only [step, applications] at hadds ⊢
      split
      · exact hsame
      · rename_i hqueue
        rw [if_neg hqueue] at hadds
        exact Engine.learns_step hfeeds hadds

/-- What the threads tell in a run. -/
theorem learns_exec (h : Run.Along step Adds s evs) : s.engine.Learns (s.told evs) (Run.exec step s evs).engine := by
  induction evs generalizing s with
  | nil => exact (Engine.SameState.refl s.engine).learns
  | cons ev evs ih => exact (learns_step h.1).trans (ih h.2)

/-- **The order of arrival does not show in the evidence.** Two runs of the threads from one engine, whose caches are
coherent and whose flows are at their greatest generation, as they are where nothing has arrived, show the same of
every generation at every instant if they apply the same observations: in whatever order, by whichever threads and
whatever comes between. Each observation is new and is applied, and no generation is given up and no entry folded for
it. -/
theorem arrival_order {e : Engine} (hheaded : e.Headed) (hcoherent : e.Coherent SourceView.folded)
    (h : Run.Along step Adds (start e) evs) (h' : Run.Along step Adds (start e) evs')
    (hperm : ((start e).told evs).Perm ((start e).told evs')) (ctx : FreshnessContext) (flow : FlowId)
      (gen : GenerationId) :
    (Run.exec step (start e) evs').engine.evidenceShown ctx flow gen
      = (Run.exec step (start e) evs).engine.evidenceShown ctx flow gen := by
  have hlearns := learns_exec h
  have hlearns' := learns_exec h'
  refine Engine.evidenceShown_of_knowledge (hlearns'.config.trans hlearns.config.symm) ?_ (hlearns.headed hheaded)
    (hlearns'.headed hheaded) (hlearns.coherent hcoherent) (hlearns'.coherent hcoherent) ctx flow gen
  rw [hlearns.knowledge, hlearns'.knowledge]
  exact (Knowledge.exec_perm hlearns.fresh hperm).symm

/-- Two reports of one source, the one handed in by a caller and the other through the queue, and a third of another
source. -/
def reportedInTurn : List Event :=
  let a := sourceIdFromKey (str "a")
  let b := sourceIdFromKey (str "b")
  [.call (.op (.ingest ((sampleObservation a .Sample 1 ⟨900⟩).withBytes 2))),
    .enqueue ((sampleObservation a .Sample 2 ⟨950⟩).withBytes 5), .push 0, .drain 1, .finish 0,
    .call (.op (.ingest ((sampleObservation b .Sample 1 ⟨920⟩).withBytes 3)))]

/-- The same reports the other way round, with a tick in between. -/
def reportedInReturn : List Event :=
  let a := sourceIdFromKey (str "a")
  let b := sourceIdFromKey (str "b")
  [.call (.op (.ingest ((sampleObservation b .Sample 1 ⟨920⟩).withBytes 3))),
    .call (.op (.ingest ((sampleObservation a .Sample 2 ⟨950⟩).withBytes 5))), .call (.op (.tick ⟨1000⟩)),
    .enqueue ((sampleObservation a .Sample 1 ⟨900⟩).withBytes 2), .push 0, .drain 1, .finish 0]

theorem arrival_order_returned :
    (Run.exec step (start { clock := ⟨1000⟩, isOpen := true }) reportedInReturn).engine.evidenceShown {} sampleFlow ⟨1⟩
      = (Run.exec step (start { clock := ⟨1000⟩, isOpen := true }) reportedInTurn).engine.evidenceShown {}
        sampleFlow ⟨1⟩
    ∧ ((Run.exec step (start { clock := ⟨1000⟩, isOpen := true }) reportedInTurn).engine.evidenceShown {} sampleFlow
      ⟨1⟩).isSome = true := by
  refine ⟨arrival_order (e := { clock := ⟨1000⟩, isOpen := true }) ?_ ?_ ?_ ?_ ?_ {} sampleFlow
    ⟨1⟩, by with_unfolding_all decide⟩
  · intro id f hf
    cases hf
  · intro flow gen source b hb
    cases hb
  · with_unfolding_all decide
  · with_unfolding_all decide
  · decide +kernel

end Threads

end FlowObs
