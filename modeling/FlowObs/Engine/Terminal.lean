import FlowObs.Engine.Steps

/-!
# Terminal states are absorbing

No step of an engine in use takes a generation out of a terminal state, and none records such a transition: one flow
(`FlowRuntime.Kept`, for every way an observation ends), one atomic step of the engine (`Engine.Kept`), and the states
that a run passes through (`Engine.trail`, `terminal_absorbing`).
-/

namespace FlowObs

/-! ## One flow -/

/-- No generation leaves a terminal state from `f` to `f'`, and no new event of the history leaves one. -/
structure FlowRuntime.Kept (f f' : FlowRuntime) : Prop where
  id : f'.id = f.id
  terminal : ∀ gen g g', f.generations.find? gen = some g → f'.generations.find? gen = some g' →
    isTerminal g.state = true → g'.state = g.state ∧ g'.cause = g.cause
  history : ∀ ev ∈ f'.history.buffer, isTerminal ev.fromState = false ∨ ev ∈ f.history.buffer

section Flow

variable {config : EngineConfig} {sources : SourceTable} {ctx : FreshnessContext} {replaying : Bool}
variable {atTime : Timestamp} {obs : Observation} {f f' : FlowRuntime} {outcome : IngestOutcome}

theorem mem_buffer_pushes {ev : LifecycleEvent} {evs : List LifecycleEvent} {r : LifecycleHistory}
    (h : ev ∈ (evs.foldl Ring.push r).buffer) : ev ∈ r.buffer ∨ ev ∈ evs := by
  induction evs generalizing r with
  | nil => exact .inl h
  | cons a evs ih =>
    rcases ih h with h | h
    · rcases Ring.mem_buffer_push h with h | rfl
      · exact .inl h
      · exact .inr List.mem_cons_self
    · exact .inr (List.mem_cons_of_mem _ h)

/-- An event of a recomputation leaves a state that was not terminal. -/
theorem generationSteps_event {ev : LifecycleEvent}
    (h : ev ∈ (generationSteps config sources ctx atTime f).filterMap (·.event)) : isTerminal ev.fromState = false := by
  obtain ⟨s, hs, he⟩ := List.mem_filterMap.1 h
  obtain ⟨g, -, rfl⟩ := List.mem_map.1 hs
  simp only [recomputeGeneration] at he
  split at he
  · rename_i hc
    cases he
    cases ht : isTerminal g.state with
    | false => exact ht
    | true => rw [(recomputeRecord_of_terminal config sources ctx f.id f.currentGeneration atTime ht).2.2] at hc; cases hc
  · cases he

/-- **Recomputing a flow keeps its terminal generations.** -/
theorem kept_recomputeFlow (config : EngineConfig) (sources : SourceTable) (ctx : FreshnessContext) (atTime : Timestamp)
    (f : FlowRuntime) : f.Kept (recomputeFlow config sources ctx atTime f) where
  id := recomputeFlow_id f
  terminal gen g g' hg hg' ht := by
    rw [recomputeFlow_generations, find?_recomputed, hg] at hg'
    cases hg'
    obtain ⟨hs, hc, -⟩ := recomputeRecord_of_terminal config sources ctx f.id f.currentGeneration atTime ht
    exact ⟨hs, hc⟩
  history ev hev := by
    rw [recomputeFlow_history] at hev
    rcases mem_buffer_pushes hev with h | h
    · exact .inr h
    · obtain ⟨ev', hev', rfl⟩ := List.mem_map.1 h
      have hfrom := generationSteps_event hev'
      exact .inl hfrom

/-- The states and causes of the generations that `f` and `f'` share are the same, and so is the history. -/
structure FlowRuntime.SameStates (f f' : FlowRuntime) : Prop where
  id : f'.id = f.id
  states : ∀ gen g g', f.generations.find? gen = some g → f'.generations.find? gen = some g' →
    g'.state = g.state ∧ g'.cause = g.cause
  history : f'.history = f.history

theorem FlowRuntime.SameStates.refl (f : FlowRuntime) : f.SameStates f :=
  ⟨rfl, fun gen g g' hg hg' => by rw [hg] at hg'; cases hg'; exact ⟨rfl, rfl⟩, rfl⟩

theorem FlowRuntime.SameStates.kept (h : f.SameStates f') : f.Kept f' :=
  ⟨h.id, fun gen g g' hg hg' _ => h.states gen g g' hg hg', fun _ hev => .inr (h.history ▸ hev)⟩

theorem FlowRuntime.Noted.sameStates (h : f.Noted f') : f.SameStates f' := by
  obtain ⟨_, _, _, rfl⟩ := h
  have h := SameStates.refl f
  exact ⟨rfl, h.states, rfl⟩

/-- What is recomputed after the states stayed the same. -/
theorem FlowRuntime.SameStates.recompute (h : f.SameStates f') :
    f.Kept (recomputeFlow config sources ctx atTime f') := by
  have hk := kept_recomputeFlow config sources ctx atTime f'
  refine ⟨hk.id.trans h.id, fun gen g g' hg hg' ht => ?_, fun ev hev => h.history ▸ hk.history ev hev⟩
  rw [recomputeFlow_generations, find?_recomputed] at hg'
  obtain ⟨g₁, hg₁, -⟩ := Option.map_eq_some_iff.1 hg'
  obtain ⟨hs, hc⟩ := h.states gen g g₁ hg hg₁
  obtain ⟨hs', hc'⟩ := hk.terminal gen g₁ g' hg₁ (by rw [recomputeFlow_generations, find?_recomputed, hg']) (hs ▸ ht)
  exact ⟨hs'.trans hs, hc'.trans hc⟩

/-- Entering a generation after making room for it keeps the states: the generation given up is another one. -/
theorem sameStates_enter {room : FlowRuntime} {wanted : GenerationId} (atTime : Timestamp)
    (h : Roomed config.limits f wanted room) : f.SameStates (room.enter wanted atTime) := by
  obtain ⟨hw, hfind⟩ := h.find?
  refine ⟨?_, fun gen g g' hg hg' => ?_, ?_⟩
  · cases h with
    | known => rfl
    | free => rfl
    | evicted _ _ he => obtain ⟨_, -, rfl⟩ := Option.map_eq_some_iff.1 he; rfl
  · rw [find?_enter] at hg'
    split at hg'
    · rename_i hgen
      subst hgen
      rw [obtainGeneration, hw, hg] at hg'
      cases hg'
      exact ⟨rfl, rfl⟩
    · rcases hfind gen with h | h
      · rw [h, hg] at hg'; cases hg'; exact ⟨rfl, rfl⟩
      · rw [h] at hg'; cases hg'
  · cases h with
    | known => rfl
    | free => rfl
    | evicted _ _ he => obtain ⟨_, -, rfl⟩ := Option.map_eq_some_iff.1 he; rfl

/-- A step on the generation of an observation that keeps its state and cause. -/
theorem FlowRuntime.SameStates.set (h : f.SameStates f') {f'' : FlowRuntime} {wanted : GenerationId}
    {g₁ : GenerationRuntime} (hid : f''.id = f'.id) (hhist : f''.history = f'.history)
    (hfind : ∀ gen, f''.generations.find? gen = if wanted = gen then some g₁ else f'.generations.find? gen)
    (hg₁ : ∀ g', f'.generations.find? wanted = some g' → g₁.state = g'.state ∧ g₁.cause = g'.cause)
    (hsome : (f'.generations.find? wanted).isSome = true) : f.SameStates f'' := by
  refine ⟨hid.trans h.id, fun gen g g' hg hg' => ?_, hhist.trans h.history⟩
  rw [hfind] at hg'
  split at hg'
  · rename_i hgen
    subst hgen
    cases hg'
    obtain ⟨g', hg'⟩ := Option.isSome_iff_exists.1 hsome
    obtain ⟨hs, hc⟩ := hg₁ g' hg'
    obtain ⟨hs', hc'⟩ := h.states wanted g g' hg hg'
    exact ⟨hs.trans hs', hc.trans hc'⟩
  · exact h.states gen g g' hg hg'

/-- The ledger's answer does not touch a state. -/
theorem sameStates_insert {room : FlowRuntime} (replaying : Bool) (atTime : Timestamp)
    (h : Roomed config.limits f obs.subject.generation room) (obs' : Observation) (hsub : obs'.subject = obs.subject) :
    f.SameStates (insertEvidence config.limits replaying atTime obs' (room.enter obs.subject.generation atTime)).1 := by
  have he := sameStates_enter atTime h
  have hfind := find?_insertEvidence config.limits replaying atTime obs' (room.enter obs.subject.generation atTime)
  rw [hsub] at hfind
  refine he.set rfl rfl hfind (fun g' hg' => ?_) ?_
  · rw [obtainGeneration, hg']
    exact ⟨rfl, rfl⟩
  · rw [find?_enter, if_pos rfl]; rfl

theorem FlowRuntime.SameStates.touch (h : f.SameStates f') {wanted : GenerationId}
    (hsome : (f'.generations.find? wanted).isSome = true) : f.SameStates (f'.touch wanted atTime) := by
  refine h.set rfl rfl (fun gen => find?_touch f' wanted gen atTime) (fun g' hg' => ?_) hsome
  rw [obtainGeneration, hg']
  exact ⟨rfl, rfl⟩

theorem FlowRuntime.SameStates.noted {f'' : FlowRuntime} (h : f.SameStates f') (hn : f'.Noted f'') :
    f.SameStates f'' := by
  obtain ⟨_, _, _, rfl⟩ := hn
  exact ⟨h.id, h.states, h.history⟩

theorem FlowRuntime.SameStates.revise (h : f.SameStates f') (kind : InsertKind) : f.SameStates (f'.revise kind) := by
  unfold FlowRuntime.revise
  split
  · exact ⟨h.id, h.states, h.history⟩
  · exact h

/-- **However an observation ends, the terminal generations of its flow are kept.** -/
theorem FlowApplied.kept (h : FlowApplied config sources ctx replaying atTime obs f f' outcome) : f.Kept f' := by
  cases h with
  | collided _ hf _ =>
    obtain ⟨_, _, _, rfl⟩ := hf
    have h := FlowRuntime.SameStates.refl f
    exact FlowRuntime.SameStates.kept ⟨rfl, h.states, rfl⟩
  | stopped _ hf _ => exact hf.sameStates.kept
  | noSourceRoom room _ hroom _ hf _ => exact ((sameStates_enter atTime hroom).noted hf).kept
  | ledgerRefused room _ hroom _ _ hf _ =>
    exact ((sameStates_insert replaying atTime hroom _ (clampedObservation_subject _ _)).noted hf).kept
  | recomputed room settled _ hroom _ _ _ hs _ =>
    have hins := ((sameStates_insert replaying atTime hroom
      (clampedObservation config.limits obs) (clampedObservation_subject _ _)).revise _).noted hs
    refine (hins.touch ?_).recompute
    have hfind : settled.generations.find? obs.subject.generation
        = (insertEvidence config.limits replaying atTime (clampedObservation config.limits obs)
            (room.enter obs.subject.generation atTime)).1.generations.find? obs.subject.generation := by
      obtain ⟨_, _, _, rfl⟩ := hs
      unfold FlowRuntime.revise
      split <;> rfl
    rw [hfind, find?_insertEvidence, if_pos (by rw [clampedObservation_subject])]
    rfl

end Flow

/-! ## One atomic step of the engine -/

namespace Engine

/-- Every flow of `e'` is a flow of `e` whose terminal generations are kept, or a new one with no event out of a
terminal state in its history. -/
def Kept (e e' : Engine) : Prop :=
  ∀ id f', e'.flows.find? id = some f' → (∃ f, e.flows.find? id = some f ∧ f.Kept f') ∨
    e.flows.find? id = none ∧ ∀ ev ∈ f'.history.buffer, isTerminal ev.fromState = false

section Steps

variable {e e' : Engine} {atTime : Timestamp} {obs : Observation} {outcome : IngestOutcome}

theorem kept_of_flows (h : e'.flows = e.flows) : e.Kept e' :=
  fun _ f' hf' => .inl ⟨f', by rw [← h, hf'], (FlowRuntime.SameStates.refl f').kept⟩

/-- The flows given up for a new one are not touched otherwise. -/
theorem FlowRoom.find?_eq {flows : SortedVec FlowRuntime.id} (h : FlowRoom e flows) (id : FlowId) :
    flows.find? id = e.flows.find? id ∨ flows.find? id = none := by
  cases h with
  | free => exact .inl rfl
  | evicted _ v _ =>
    rw [SortedVec.find?_erase]
    split
    · exact .inr rfl
    · exact .inl rfl

theorem SameTables.sources_eq (h : e.SameTables e') : e'.sources = e.sources := by
  obtain ⟨_, _, _, rfl⟩ := h
  rfl

theorem SameTables.flows_eq (h : e.SameTables e') : e'.flows = e.flows := by
  obtain ⟨_, _, _, rfl⟩ := h
  rfl

/-- A flow that is created has an empty history. -/
theorem createFlow_history {ev : LifecycleEvent} (h : ev ∈ (e.createFlow atTime obs).history.buffer) :
    isTerminal ev.fromState = false := by
  rcases Ring.mem_buffer_setCapacity h with h | rfl
  · cases h
  · rfl

/-- **What an observation does to the flows**: each of them stays as it is, or is what the stages make of the flow of
that identity, or of a new one. -/
theorem Admitted.flows {Q : Option FlowRuntime → FlowRuntime → Prop} (h : Admitted e atTime obs e' outcome)
    (hstays : ∀ f, Q (some f) f)
    (happ : ∀ f f', FlowApplied e.config e'.sources e.context e.replaying atTime obs f f' outcome → Q (some f) f')
    (hnew : ∀ f', FlowApplied e.config e'.sources e.context e.replaying atTime obs
      (e.createFlow atTime obs) f' outcome →
      Q none f') : ∀ id f', e'.flows.find? id = some f' → Q (e.flows.find? id) f' := by
  have hold : ∀ flows : SortedVec FlowRuntime.id, (∀ id, flows.find? id = e.flows.find? id ∨ flows.find? id = none) →
      ∀ id f', flows.find? id = some f' → Q (e.flows.find? id) f' := by
    intro flows hflows id f' hf'
    rcases hflows id with h | h
    · rw [← h, hf']
      exact hstays f'
    · rw [h] at hf'
      cases hf'
  cases h with
  | noSource he _ => exact hold _ (fun id => .inl (by rw [he.flows_eq]))
  | noFlowRoom sources flows _ _ hroom he _ =>
    refine hold _ (fun id => ?_)
    rw [he.flows_eq]
    rcases hroom with rfl | hroom
    · exact .inl rfl
    · exact hroom.find?_eq id
  | found sources f f₁ _ _ hf hflow he =>
    rw [show e'.sources = sources from he.sources_eq] at happ
    intro id f' hf'
    rw [he.flows_eq, SortedVec.find?_set] at hf'
    split at hf'
    · rename_i hid
      cases hf'
      rw [← hid, hflow.kept.id, SortedVec.find?_key hf, hf]
      exact happ f _ hflow
    · exact hold e.flows (fun _ => .inl rfl) id f' hf'
  | created sources flows f₁ _ _ hnone hroom hflow he =>
    rw [show e'.sources = sources from he.sources_eq] at hnew
    intro id f' hf'
    rw [he.flows_eq, SortedVec.find?_set] at hf'
    split at hf'
    · rename_i hid
      cases hf'
      have hkey : e.flows.find? id = none := by
        rw [← hid, hflow.kept.id]
        exact hnone
      rw [hkey]
      exact hnew _ hflow
    · exact hold flows hroom.find?_eq id f' hf'

/-- The same of `apply_locked`. -/
theorem flows_applyLocked {Q : Option FlowRuntime → FlowRuntime → Prop} (e : Engine) (incoming : Observation)
    (hstays : ∀ f, Q (some f) f)
    (happ : ∀ f f', FlowApplied e.config (e.applyLocked incoming).1.sources e.context e.replaying e.instant
      (prepare e.instant incoming) f f' (e.applyLocked incoming).2 → Q (some f) f')
    (hnew : ∀ f', FlowApplied e.config (e.applyLocked incoming).1.sources e.context e.replaying e.instant
      (prepare e.instant incoming) (e.createFlow e.instant (prepare e.instant incoming)) f' (e.applyLocked incoming).2 →
      Q none f') :
    ∀ id f', (e.applyLocked incoming).1.flows.find? id = some f' → Q (e.flows.find? id) f' := by
  have hsame : ∀ e' : Engine, e'.flows = e.flows → ∀ id f', e'.flows.find? id = some f' → Q (e.flows.find? id) f' := by
    intro e' he id f' hf'
    rw [← he, hf']
    exact hstays f'
  cases applyLocked_cases e incoming with
  | invalid _ _ he _ =>
    obtain ⟨_, he⟩ := he
    exact hsame _ (by rw [he])
  | unjournaled _ _ _ _ he _ =>
    have h := (sameTables_appendObservation e.received (prepare e.instant incoming)).flows_eq
    exact hsame _ (by rw [he]; exact h)
  | admitted e₁ _ _ htables ha =>
    obtain ⟨_, _, _, rfl⟩ := htables
    exact ha.flows hstays happ hnew

/-- **Applying an observation keeps the terminal generations.** -/
theorem kept_applyLocked (e : Engine) (incoming : Observation) : e.Kept (e.applyLocked incoming).1 := by
  refine flows_applyLocked e incoming (Q := fun o f' => (∃ f, o = some f ∧ f.Kept f') ∨
    o = none ∧ ∀ ev ∈ f'.history.buffer, isTerminal ev.fromState = false) (fun f => ?_) (fun f f' h => ?_)
      (fun f' h => ?_)
  · exact .inl ⟨f, rfl, (FlowRuntime.SameStates.refl f).kept⟩
  · exact .inl ⟨f, rfl, h.kept⟩
  · refine .inr ⟨rfl, fun ev hev => ?_⟩
    rcases h.kept.history ev hev with h | h
    · exact h
    · exact createFlow_history h

theorem kept_recomputeAll (e : Engine) (atTime : Timestamp) (due : FlowRuntime → Bool) :
    e.Kept (e.recomputeAll atTime due) := by
  intro id f' hf'
  rw [find?_recomputeAll] at hf'
  obtain ⟨f, hf, rfl⟩ := Option.map_eq_some_iff.1 hf'
  refine .inl ⟨f, hf, ?_⟩
  unfold recomputeDue
  split
  · exact kept_recomputeFlow ..
  · exact (FlowRuntime.SameStates.refl f).kept

/-- Giving up the evidence of a source keeps the states. -/
theorem sameStates_dropSource (id : SourceId) (f : FlowRuntime) : f.SameStates (dropSource id f) := by
  refine ⟨rfl, fun gen g g' hg hg' => ?_, rfl⟩
  have hmap := SortedVec.find?_map f.generations (dropBinding id) (dropBinding_id id) gen
  rw [hg] at hmap
  cases hmap.symm.trans hg'
  exact ⟨rfl, rfl⟩

/-- The retirement of a source keeps the terminal generations. -/
theorem kept_retired (e : Engine) (s : SourceState) (id : SourceId) (atTime : Timestamp) :
    e.Kept ((e.dropped s id).recomputeAll atTime (fun _ => true)) := by
  intro flow f' hf'
  rw [find?_recomputeAll, find?_dropped] at hf'
  obtain ⟨f₁, hf₁, rfl⟩ := Option.map_eq_some_iff.1 hf'
  obtain ⟨f, hf, rfl⟩ := Option.map_eq_some_iff.1 hf₁
  refine .inl ⟨f, hf, ?_⟩
  rw [recomputeDue, if_pos rfl]
  exact (sameStates_dropSource id f).recompute

/-- **The states that an operation goes through keep the terminal generations**, each those of the one before. -/
theorem isChain_kept (e : Engine) (op : Op) : (e :: e.passes op).IsChain Kept := by
  refine passes_rule (fun _ _ => True) (fun _ => True) (fun e e' h => kept_of_flows h.flows)
    (fun h hkept h' => ?_) (fun e obs _ => kept_applyLocked e obs) kept_recomputeAll
    (fun e s id atTime _ => kept_retired e s id atTime) (fun e s _ => kept_of_flows rfl) (fun _ _ => trivial)
    (fun _ _ _ => trivial)
  unfold Kept at hkept ⊢
  rwa [h'.flows, ← h.flows]

end Steps

/-! ## Runs -/

/-- What the engine holds of a generation. -/
def generation? (e : Engine) (flow : FlowId) (gen : GenerationId) : Option GenerationRuntime :=
  (e.flows.find? flow).bind (·.generations.find? gen)

theorem isChain_trail (e : Engine) (ops : List Op) : (e :: e.trail ops).IsChain Kept :=
  Run.isChain_trail getLast?_passes isChain_kept e ops

/-- A step keeps a terminal generation that is there before and after it. -/
theorem Kept.generation {e e' : Engine} (h : e.Kept e') {flow : FlowId} {gen : GenerationId} {g g' : GenerationRuntime}
    (hg : e.generation? flow gen = some g) (hg' : e'.generation? flow gen = some g') (ht : isTerminal g.state = true) :
    g'.state = g.state ∧ g'.cause = g.cause := by
  obtain ⟨f, hf, hg⟩ := Option.bind_eq_some_iff.1 hg
  obtain ⟨f', hf', hg'⟩ := Option.bind_eq_some_iff.1 hg'
  rcases h flow f' hf' with ⟨f₁, hf₁, hk⟩ | ⟨hn, -⟩
  · rw [hf] at hf₁
    cases hf₁
    exact hk.terminal gen g g' hg hg' ht
  · rw [hf] at hn
    cases hn

/-- **Terminal states are absorbing.** A generation that is terminal and stays retained keeps its state and cause
through every state of a run, and an event out of a terminal state that the history of a flow shows was there before
the run. -/
theorem terminal_absorbing (e : Engine) (ops : List Op) :
    (∀ flow gen g, e.generation? flow gen = some g → isTerminal g.state = true →
      (∀ e' ∈ e.trail ops, (e'.generation? flow gen).isSome = true) →
      ∀ e' ∈ e.trail ops, ∃ g', e'.generation? flow gen = some g' ∧ g'.state = g.state ∧ g'.cause = g.cause) ∧
    ∀ e' ∈ e.trail ops, ∀ flow f', e'.flows.find? flow = some f' → ∀ ev ∈ f'.history.toVector,
      isTerminal ev.fromState = true → ∃ f, e.flows.find? flow = some f ∧ ev ∈ f.history.buffer := by
  refine ⟨fun flow gen g hg ht hretained => ?_, fun e' he' flow f' hf' ev hev ht => ?_⟩
  · refine Run.forall_of_isChain (fun s s' hk hs hs' => ?_) (isChain_trail e ops) ⟨g, hg, rfl, rfl⟩ hretained
    obtain ⟨g₁, hg₁, hstate, hcause⟩ := hs
    obtain ⟨g₂, hg₂⟩ := Option.isSome_iff_exists.1 hs'
    obtain ⟨hs₂, hc₂⟩ := hk.generation hg₁ hg₂ (hstate ▸ ht)
    exact ⟨g₂, hg₂, hs₂.trans hstate, hc₂.trans hcause⟩
  · have hbuffer : ev ∈ f'.history.buffer := by
      rcases Ring.mem_toVector hev with h | rfl
      · exact h
      · cases ht
    refine Run.forall_of_isChain (P := fun e' => ∀ f', e'.flows.find? flow = some f' → ev ∈ f'.history.buffer →
        ∃ f, e.flows.find? flow = some f ∧ ev ∈ f.history.buffer) (Q := fun _ => True)
      (fun s s' hk hs _ f₂ hf₂ hev₂ => ?_) (isChain_trail e ops) (fun f hf hev => ⟨f, hf, hev⟩) (fun _ _ => trivial)
      e' he' f' hf' hbuffer
    rcases hk flow f₂ hf₂ with ⟨f₁, hf₁, hk⟩ | ⟨-, hc⟩
    · rcases hk.history ev hev₂ with h | h
      · rw [h] at ht; cases ht
      · exact hs f₁ hf₁ h
    · rw [hc ev hev₂] at ht; cases ht

/-- A flow that was closed by the source `a`, which may do so. -/
def closedFlow : Engine :=
  let a := sampleSource (str "a") { assertsCompletion := true, assertsReset := true }
  .ranFrom {} ⟨1000⟩ [.registerSource a, .ingest (sampleObservation a.id .Close 1 ⟨900⟩)]

/-- What happens to it later: the source takes the completion back, an hour passes, and the source is retired. -/
def laterOps : List Op :=
  let a := sourceIdFromKey (str "a")
  [.ingest (sampleObservation a .Reset 2 ⟨950⟩), .tick ⟨3600000000000⟩, .retireSource a]

theorem terminal_absorbing_closedFlow : ∃ g, closedFlow.generation? sampleFlow ⟨1⟩ = some g ∧ g.state = .Completed ∧
    ∀ e' ∈ closedFlow.trail laterOps, ∃ g', e'.generation? sampleFlow ⟨1⟩ = some g' ∧ g'.state = g.state ∧
      g'.cause = g.cause := by
  have h : (closedFlow.generation? sampleFlow ⟨1⟩).map (·.state) = some .Completed := by with_unfolding_all decide
  obtain ⟨g, hg, hs⟩ := Option.map_eq_some_iff.1 h
  refine ⟨g, hg, hs, (terminal_absorbing closedFlow laterOps).1 sampleFlow ⟨1⟩ g hg ?_ ?_⟩
  · rw [hs]; rfl
  · with_unfolding_all decide

end Engine

end FlowObs
