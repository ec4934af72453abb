import FlowObs.Engine.Reachable

/-!
# A frozen engine

What `freeze` does not stop. The entry points that look at the flag leave the engine as it is; `drain`, a worker with a
batch, `tick`, `retire_source` and `load_snapshot` do not look at it. A call that does not get past the flag
(`Spared`) leaves the registered sources and what every generation says (`unchanged_call`).
-/

namespace FlowObs

/-! ## What a generation says -/

/-- A binding without what recomputing derives from it. -/
def SourceBinding.evidence (b : SourceBinding) : SourceBinding := { b with cached := none, promotedAnomalyKinds := 0 }

/-- The state of a generation, its cause and the evidence of each source. -/
def GenerationRuntime.account (g : GenerationRuntime) : FlowState × StateCause × (SourceId → Option SourceBinding) :=
  (g.state, g.cause, fun source => (g.bindings.find? source).map SourceBinding.evidence)

/-- The accounts of the generations of a flow. -/
def FlowRuntime.generationAccounts (f : FlowRuntime) (gen : GenerationId) :
    Option (FlowState × StateCause × (SourceId → Option SourceBinding)) :=
  (f.generations.find? gen).map GenerationRuntime.account

theorem evidence_refreshBinding (config : EngineConfig) (sources : SourceTable) (ctx : FreshnessContext)
    (b : SourceBinding) : (refreshBinding config sources ctx b).evidence = b.evidence := by
  unfold refreshBinding
  split <;> rfl

/-- A recomputation that decides nothing new leaves the account of a generation. -/
theorem account_recomputeRecord {config : EngineConfig} {sources : SourceTable} {ctx : FreshnessContext} {flow : FlowId}
    {current : GenerationId} {atTime : Timestamp} {g : GenerationRuntime}
    (h : (decisionFor config sources ctx flow current g).changes g = false) :
    (recomputeRecord config sources ctx flow current atTime g).account = g.account := by
  have hbindings : ∀ source, ((g.bindings.map (refreshBinding config sources ctx)
      (refreshBinding_source config sources ctx)).find? source).map SourceBinding.evidence
        = (g.bindings.find? source).map SourceBinding.evidence := by
    intro source
    rw [SortedVec.find?_map, Option.map_map]
    congr 1
    funext b
    exact evidence_refreshBinding config sources ctx b
  simp only [recomputeRecord, h, Bool.false_eq_true, if_false, GenerationRuntime.account, refreshGeneration,
    projectView, hbindings]

namespace Engine

/-- The two engines have the same registered sources and the same flows, each with the same generations and their
accounts. -/
structure Unchanged (e e' : Engine) : Prop where
  sources : e'.sources = e.sources
  flows : ∀ id, (e'.flows.find? id).map FlowRuntime.generationAccounts
    = (e.flows.find? id).map FlowRuntime.generationAccounts

theorem Unchanged.refl (e : Engine) : e.Unchanged e := ⟨rfl, fun _ => rfl⟩

theorem Unchanged.trans {e₁ e₂ e₃ : Engine} (h : e₁.Unchanged e₂) (h' : e₂.Unchanged e₃) : e₁.Unchanged e₃ :=
  ⟨h'.sources.trans h.sources, fun id => (h'.flows id).trans (h.flows id)⟩

theorem unchanged_of_tables {e e' : Engine} (hs : e'.sources = e.sources) (hf : e'.flows = e.flows) : e.Unchanged e' :=
  ⟨hs, fun id => by rw [hf]⟩

/-! ## The calls -/

/-- What can be called on an engine in use: the operations, and `load_snapshot` from a path with the given file, if
any. -/
inductive Call
  | op (op : Op)
  | loadSnapshot (path : Str) (existing : Option (List UInt8))
deriving DecidableEq, Repr

/-- The state after a call. -/
def call (e : Engine) : Call → Engine
  | .op op => e.step op
  | .loadSnapshot path existing => (e.loadSnapshot path existing).1

/-- A tick at the instant decides nothing new on the flows that it passes over. -/
def SettledAt (e : Engine) (evaluatedAt : Timestamp) : Prop :=
  ∀ id f, e.flows.find? id = some f → tickDue f = true → ∀ gen g, f.generations.find? gen = some g →
    (decisionFor e.config e.sources ({ e with evaluationOverride := evaluatedAt } : Engine).context f.id
      f.currentGeneration g).changes g = false

/-- The call does not get past the flag: there is nothing to apply, nothing to decide, no source to retire and no file
to load. -/
def Spared (e : Engine) : Call → Prop
  | .op (.drain maxObservations) => e.isOpen = true → e.queue.take maxObservations = []
  | .op (.work batch) => batch = []
  | .op (.tick evaluatedAt) => e.isOpen = true → evaluatedAt.known = true → e.SettledAt evaluatedAt
  | .op (.retireSource id) => e.sources.find? id = none
  | .loadSnapshot path existing => ∀ j, Journal.openFile path existing e.loadOptions = .ok j →
      ∀ records, j.readAll.2 ≠ .ok records
  | _ => True

variable {e : Engine}

/-- A tick that decides nothing new. -/
theorem unchanged_tickLocked {evaluatedAt : Timestamp} (h : e.SettledAt evaluatedAt) :
    e.Unchanged (e.tickLocked evaluatedAt) := by
  have hstate := sameState_tickLocked e evaluatedAt
  refine ⟨hstate.sources, fun id => ?_⟩
  rw [hstate.flows, find?_recomputeAll]
  cases hf : e.flows.find? id with
  | none => rfl
  | some f =>
    simp only [Option.map_some, Option.some.injEq]
    unfold recomputeDue
    split
    · rename_i hdue
      funext gen
      rw [FlowRuntime.generationAccounts, recomputeFlow_generations, find?_recomputed]
      cases hg : f.generations.find? gen with
      | none => simp only [FlowRuntime.generationAccounts, hg, Option.map_none]
      | some g =>
        simp only [FlowRuntime.generationAccounts, hg, Option.map_some]
        rw [account_recomputeRecord (h id f hf hdue gen g hg)]
    · rfl

/-- **A call on a frozen engine that does not get past the flag changes nothing.** -/
theorem unchanged_call (e : Engine) (c : Call) (hfrozen : e.frozen = true) (h : e.Spared c) :
    e.Unchanged (e.call c) ∧ (e.call c).frozen = true := by
  cases c with
  | loadSnapshot path existing =>
    simp only [call, loadSnapshot]
    split
    · exact ⟨.refl e, hfrozen⟩
    · rename_i j hj
      split
      · exact ⟨.refl e, hfrozen⟩
      · rename_i records hr
        exact absurd hr (h j hj records)
  | op op =>
    cases op with
    | ingest obs =>
      have hsame : (e.ingest obs).1 = e := by
        simp only [ingest, hfrozen, if_true]
        split <;> rfl
      simp only [call, step, hsame]
      exact ⟨.refl e, hfrozen⟩
    | submit obs =>
      simp only [call, step, submit, hfrozen, if_true]
      exact ⟨.refl e, trivial⟩
    | enqueue obs =>
      have hsame : (e.enqueue obs).1 = e := by
        simp only [enqueue, hfrozen, if_true]
        split <;> rfl
      simp only [call, step, hsame]
      exact ⟨.refl e, hfrozen⟩
    | drain maxObservations =>
      simp only [call, step, drain]
      split
      · exact ⟨unchanged_of_tables rfl rfl, hfrozen⟩
      · rename_i hbatch
        split
        · exact ⟨unchanged_of_tables rfl rfl, hfrozen⟩
        · rename_i hopen
          rw [h (by simpa using hopen)] at hbatch
          exact absurd rfl hbatch
    | work batch =>
      obtain rfl : batch = [] := h
      exact ⟨unchanged_of_tables rfl rfl, hfrozen⟩
    | tick evaluatedAt =>
      simp only [call, step, tick]
      split
      · exact ⟨.refl e, hfrozen⟩
      · rename_i hknown
        split
        · exact ⟨.refl e, hfrozen⟩
        · rename_i hopen
          exact ⟨unchanged_tickLocked (h (by simpa using hopen) (by simpa using hknown)), hfrozen⟩
    | registerSource d =>
      have hsame : (e.registerSource d).1 = e := by
        simp only [registerSource, hfrozen, if_true]
        split <;> rfl
      simp only [call, step, hsame]
      exact ⟨.refl e, hfrozen⟩
    | retireSource id =>
      have hnone : e.sources.find? id = none := h
      simp only [call, step, retireSource, hnone]
      exact ⟨.refl e, hfrozen⟩
    | compact =>
      have htables := sameTables_compactLocked e
      refine ⟨unchanged_of_tables htables.sameState.sources htables.sameState.flows, ?_⟩
      obtain ⟨_, _, _, hcompact⟩ := htables
      simp only [call, step, compact, hcompact]
      exact hfrozen
    | flush => exact ⟨unchanged_of_tables rfl rfl, hfrozen⟩
    | freeze => exact ⟨unchanged_of_tables rfl rfl, rfl⟩
    | advance clock => exact ⟨unchanged_of_tables rfl rfl, hfrozen⟩

/-- An engine with an observation of an unregistered source in its queue. -/
def queuedEngine : Engine :=
  ({ clock := ⟨1000⟩ } : Engine).openEngine.1.step
    (.enqueue (sampleObservation (sourceIdFromKey (str "a")) .Open 1 ⟨900⟩))

theorem reachable_queuedEngine : Reachable queuedEngine :=
  .step (.opened {} ⟨1000⟩ (opens_new_iff.2 (EngineConfig.validate_default _))) _

end Engine

end FlowObs
