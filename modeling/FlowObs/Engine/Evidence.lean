import FlowObs.Engine.ApplyCases

/-!
# The evidence of a flow

What a flow holds of a source in one of its generations (`FlowRuntime.binding?`), and what each stage of an
observation and each recomputation does to it. The lookups of this module are how later results reason about the
ledgers of a flow.
-/

namespace FlowObs

/-- What the flow holds of a source in one of its generations. -/
def FlowRuntime.binding? (f : FlowRuntime) (gen : GenerationId) (source : SourceId) : Option SourceBinding :=
  (f.generations.find? gen).bind (·.bindings.find? source)

/-- A binding as `obtain_binding` makes it. -/
def freshBinding (limits : Limits) (replaying : Bool) (source : SourceId) (generation : FlowGeneration) :
    SourceBinding :=
  obtainBinding limits replaying {} source generation

section

variable {config : EngineConfig} {sources : SourceTable} {ctx : FreshnessContext} {replaying : Bool} {limits : Limits}
variable {atTime : Timestamp} {obs : Observation} {f f' : FlowRuntime} {gen wanted : GenerationId} {source : SourceId}

/-! ## One binding -/

@[simp] theorem freshBinding_source (limits : Limits) (replaying : Bool) (source : SourceId)
    (generation : FlowGeneration) :
    (freshBinding limits replaying source generation).source = source := rfl

@[simp] theorem SourceBinding.take_ledger (b : SourceBinding) (replaying : Bool) (obs : Observation) :
    (b.take replaying obs).1.ledger = (b.ledger.insert obs).1 := by
  unfold SourceBinding.take
  cases hr : (b.ledger.insert obs).2.kind <;> simp only [hr]

@[simp] theorem SourceBinding.take_result (b : SourceBinding) (replaying : Bool) (obs : Observation) :
    (b.take replaying obs).2 = (b.ledger.insert obs).2 := by
  unfold SourceBinding.take
  cases hr : (b.ledger.insert obs).2.kind <;> simp only [hr]

@[simp] theorem SourceBinding.take_source (b : SourceBinding) (replaying : Bool) (obs : Observation) :
    (b.take replaying obs).1.source = b.source := by
  unfold SourceBinding.take
  cases hr : (b.ledger.insert obs).2.kind <;> simp only [hr]

@[simp] theorem refreshBinding_ledger (config : EngineConfig) (sources : SourceTable) (ctx : FreshnessContext)
    (b : SourceBinding) : (refreshBinding config sources ctx b).ledger = b.ledger := by
  unfold refreshBinding
  split <;> rfl

/-- The binding that an observation finds or makes. -/
theorem obtainBinding_eq (limits : Limits) (replaying : Bool) (f : FlowRuntime) (wanted : GenerationId)
    (atTime : Timestamp)
    (source : SourceId) (generation : FlowGeneration) :
    obtainBinding limits replaying (obtainGeneration f wanted atTime) source generation
      = (f.binding? wanted source).getD (freshBinding limits replaying source generation) := by
  unfold FlowRuntime.binding? obtainGeneration
  cases f.generations.find? wanted <;> rfl

/-- The first observation of a source in a generation is accepted. -/
theorem freshBinding_insert (hv : obs.valid = true) : ((freshBinding limits replaying obs.key.source
    ⟨obs.subject.flow, obs.subject.generation⟩).ledger.insert obs).2.kind = .Accepted := by
  have hb : (freshBinding limits replaying obs.key.source ⟨obs.subject.flow, obs.subject.generation⟩).ledger.belongs obs
      = .ok () := by
    simp [SourceLedger.belongs, hv, freshBinding, obtainBinding, SourceLedger.configure]
  rw [SourceLedger.insert, hb]
  rfl

/-! ## One flow -/

theorem find?_obtainGeneration (f : FlowRuntime) (wanted : GenerationId) (atTime : Timestamp) (source : SourceId) :
    (obtainGeneration f wanted atTime).bindings.find? source = f.binding? wanted source := by
  unfold FlowRuntime.binding? obtainGeneration
  cases f.generations.find? wanted <;> rfl

/-- Setting a generation that holds of every source what was held before. -/
theorem binding?_of_find? {g : GenerationRuntime}
    (h : ∀ gen, f'.generations.find? gen = if wanted = gen then some g else f.generations.find? gen)
    (hg : ∀ source, g.bindings.find? source = f.binding? wanted source) : f'.binding? gen source =
    f.binding? gen source := by
  unfold FlowRuntime.binding?
  rw [h]
  split
  · rename_i hgen
    subst hgen
    exact hg source
  · rfl

theorem FlowRuntime.Noted.binding? (h : f.Noted f') : f'.binding? gen source = f.binding? gen source := by
  obtain ⟨_, _, _, rfl⟩ := h
  rfl

theorem FlowRuntime.Noted.generations_eq (h : f.Noted f') : f'.generations = f.generations := by
  obtain ⟨_, _, _, rfl⟩ := h
  rfl

@[simp] theorem binding?_enter (f : FlowRuntime) (wanted gen : GenerationId) (atTime : Timestamp) (source : SourceId) :
    (f.enter wanted atTime).binding? gen source = f.binding? gen source :=
  binding?_of_find? (fun gen => find?_enter f wanted gen atTime) (find?_obtainGeneration f wanted atTime)

@[simp] theorem binding?_touch (f : FlowRuntime) (wanted gen : GenerationId) (atTime : Timestamp) (source : SourceId) :
    (f.touch wanted atTime).binding? gen source = f.binding? gen source :=
  binding?_of_find? (fun gen => find?_touch f wanted gen atTime) (find?_obtainGeneration f wanted atTime)

@[simp] theorem binding?_revise (f : FlowRuntime) (kind : InsertKind) (gen : GenerationId) (source : SourceId) :
    (f.revise kind).binding? gen source = f.binding? gen source := by
  unfold FlowRuntime.revise
  split <;> rfl

@[simp] theorem revise_generations (f : FlowRuntime) (kind : InsertKind) :
    (f.revise kind).generations = f.generations := by
  unfold FlowRuntime.revise
  split <;> rfl

/-- **What an insertion does to the bindings of a flow**: only that of the source in the generation is another one. -/
theorem binding?_insertEvidence (limits : Limits) (replaying : Bool) (atTime : Timestamp) (obs : Observation)
    (f : FlowRuntime) (gen : GenerationId) (source : SourceId) :
    (insertEvidence limits replaying atTime obs f).1.binding? gen source
      = if obs.subject.generation = gen ∧ obs.key.source = source then
          some (((f.binding? gen source).getD (freshBinding limits replaying source ⟨f.id, gen⟩)).take replaying obs).1
        else f.binding? gen source := by
  unfold FlowRuntime.binding?
  rw [find?_insertEvidence]
  by_cases hgen : obs.subject.generation = gen
  · subst hgen
    rw [if_pos rfl, Option.bind_some, insertGeneration, SortedVec.find?_set, SourceBinding.take_source,
      obtainBinding_eq, obtainGeneration_id, find?_obtainGeneration]
    have hsource : ((f.binding? obs.subject.generation obs.key.source).getD
      (freshBinding limits replaying obs.key.source
        ⟨f.id, obs.subject.generation⟩)).source = obs.key.source := by
      cases hb : f.binding? obs.subject.generation obs.key.source with
      | none => rfl
      | some b =>
        obtain ⟨g, -, hb⟩ := Option.bind_eq_some_iff.1 hb
        exact SortedVec.find?_key hb
    rw [hsource]
    by_cases hs : obs.key.source = source
    · subst hs
      simp [FlowRuntime.binding?]
    · simp [hs, FlowRuntime.binding?]
  · rw [if_neg hgen, if_neg (fun h => hgen h.1)]

/-- The answer of the ledger to an insertion. -/
theorem insertEvidence_answer (limits : Limits) (replaying : Bool) (atTime : Timestamp) (obs : Observation)
    (f : FlowRuntime) : (insertEvidence limits replaying atTime obs f).2
      = (((f.binding? obs.subject.generation obs.key.source).getD (freshBinding limits replaying obs.key.source
          ⟨f.id, obs.subject.generation⟩)).ledger.insert obs).2 := by
  have h := obtainBinding_eq limits replaying f obs.subject.generation atTime obs.key.source
    ⟨f.id, obs.subject.generation⟩
  rw [← SourceBinding.take_result _ replaying, ← h]
  simp only [insertEvidence, obtainGeneration_id]

@[simp] theorem binding?_recomputeFlow (config : EngineConfig) (sources : SourceTable) (ctx : FreshnessContext)
    (atTime : Timestamp) (f : FlowRuntime) (gen : GenerationId) (source : SourceId) :
    (recomputeFlow config sources ctx atTime f).binding? gen source
      = (f.binding? gen source).map (refreshBinding config sources ctx) := by
  unfold FlowRuntime.binding?
  rw [recomputeFlow_generations, find?_recomputed]
  cases hg : f.generations.find? gen with
  | none => rfl
  | some g =>
    show (recomputeRecord config sources ctx f.id f.currentGeneration atTime g).bindings.find? source = _
    have hb : (recomputeRecord config sources ctx f.id f.currentGeneration atTime g).bindings
        = g.bindings.map (refreshBinding config sources ctx) (refreshBinding_source config sources ctx) := by
      simp only [recomputeRecord]
      split <;> rfl
    rw [hb]
    exact SortedVec.find?_map _ _ _ _

/-- Making room keeps the bindings of the generation that is entered. -/
theorem Roomed.binding? {room : FlowRuntime} (h : Roomed limits f wanted room) :
    room.binding? wanted source = f.binding? wanted source := by
  unfold FlowRuntime.binding?
  rw [h.find?.1]

/-- Making room for a generation keeps the identity and the state of the flow. -/
theorem Roomed.same {room : FlowRuntime} (h : Roomed limits f wanted room) :
    room.id = f.id ∧ room.state = f.state ∧ room.cause = f.cause := by
  cases h with
  | known => exact ⟨rfl, rfl, rfl⟩
  | free => exact ⟨rfl, rfl, rfl⟩
  | evicted _ _ he => obtain ⟨g, -, rfl⟩ := Option.map_eq_some_iff.1 he; exact ⟨rfl, rfl, rfl⟩

/-- No room has to be made for a generation that is known. -/
theorem Roomed.eq_of_known {room : FlowRuntime} (h : Roomed limits f wanted room) {g : GenerationRuntime}
    (hg : f.generations.find? wanted = some g) : room = f := by
  cases h with
  | known => rfl
  | free => rfl
  | evicted h => rw [hg] at h; cases h

end

end FlowObs
