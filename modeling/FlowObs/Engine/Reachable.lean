import FlowObs.Engine.Invariant
import FlowObs.Persist.JournalRun

/-!
# Reachable states

An engine is opened on no file, used, and possibly closed and opened again on what its journal holds (`Reachable`). What
the operations, a restored flow and a recomputation preserve holds of every such state (`reachable_rule`): its bounds
(`Bounded`) and the policy of its ledgers.
-/

namespace FlowObs

/-! ## The bounds of a flow -/

/-- No generation of the flow has more sources than `max_sources_per_flow`. -/
def FlowRuntime.Bounded (limits : Limits) (f : FlowRuntime) : Prop :=
  ∀ gen g, f.generations.find? gen = some g → g.bindings.toList.length ≤ limits.maxSourcesPerFlow.toNat

section Bounds

variable {config : EngineConfig} {sources : SourceTable} {ctx : FreshnessContext} {replaying : Bool} {limits : Limits}
variable {atTime : Timestamp} {obs : Observation} {f f' : FlowRuntime} {outcome : IngestOutcome} {wanted : GenerationId}

theorem FlowRuntime.Bounded.of_generations (h : f.Bounded limits) (hg : f'.generations = f.generations) :
    f'.Bounded limits := by
  intro gen g hf'
  rw [hg] at hf'
  exact h gen g hf'

/-- Setting a generation that is within the bound. -/
theorem FlowRuntime.Bounded.set (h : f.Bounded limits) {g : GenerationRuntime}
    (hfind : ∀ gen, f'.generations.find? gen = if wanted = gen then some g else f.generations.find? gen)
    (hg : g.bindings.toList.length ≤ limits.maxSourcesPerFlow.toNat) : f'.Bounded limits := by
  intro gen g' hg'
  rw [hfind] at hg'
  split at hg'
  · cases hg'
    exact hg
  · exact h gen g' hg'

theorem FlowRuntime.Bounded.obtain (h : f.Bounded limits) (wanted : GenerationId) (atTime : Timestamp) :
    (obtainGeneration f wanted atTime).bindings.toList.length ≤ limits.maxSourcesPerFlow.toNat := by
  unfold obtainGeneration
  cases hg : f.generations.find? wanted with
  | none => exact Nat.zero_le _
  | some g => exact h wanted g hg

theorem FlowRuntime.Bounded.roomed {room : FlowRuntime} (h : f.Bounded limits) (hroom : Roomed limits f wanted room) :
    room.Bounded limits := by
  intro gen g hg
  rcases hroom.find?.2 gen with hfind | hfind
  · rw [hfind] at hg
    exact h gen g hg
  · rw [hfind] at hg
    cases hg

theorem FlowRuntime.Bounded.enter (h : f.Bounded limits) (wanted : GenerationId) (atTime : Timestamp) :
    (f.enter wanted atTime).Bounded limits :=
  h.set (fun gen => find?_enter f wanted gen atTime) (h.obtain wanted atTime)

theorem bounded_recomputeFlow (h : f.Bounded limits) : (recomputeFlow config sources ctx atTime f).Bounded limits := by
  intro gen g hg
  rw [recomputeFlow_generations, find?_recomputed] at hg
  obtain ⟨g₀, hg₀, rfl⟩ := Option.map_eq_some_iff.1 hg
  have hlen : (recomputeRecord config sources ctx f.id f.currentGeneration atTime g₀).bindings.toList.length
      = g₀.bindings.toList.length := by
    simp only [recomputeRecord]
    split <;> simp [transition, refreshGeneration, projectView]
  rw [hlen]
  exact h gen g₀ hg₀

/-- An insertion keeps the bound: it finds its binding or there is room for one more. -/
theorem bounded_insertEvidence {room : FlowRuntime} (replaying : Bool) (h : room.Bounded limits) (obs : Observation)
    (hbind : ((obtainGeneration room obs.subject.generation atTime).bindings.find? obs.key.source).isSome = true ∨
      (obtainGeneration room obs.subject.generation atTime).bindings.toList.length < limits.maxSourcesPerFlow.toNat) :
    (insertEvidence limits replaying atTime obs (room.enter obs.subject.generation atTime)).1.Bounded limits := by
  refine (h.enter obs.subject.generation atTime).set
    (fun gen => find?_insertEvidence limits replaying atTime obs (room.enter obs.subject.generation atTime) gen) ?_
  rw [obtainGeneration_enter]
  have hobtain := h.obtain obs.subject.generation atTime
  generalize obtainGeneration room obs.subject.generation atTime = g at hbind hobtain ⊢
  have hsource : ∀ flow : FlowId,
  ((obtainBinding limits replaying g obs.key.source ⟨flow, g.id⟩).take replaying obs).1.source
      = obs.key.source := by
    intro flow
    rw [SourceBinding.take_source, obtainBinding]
    cases hb : g.bindings.find? obs.key.source with
    | none => rfl
    | some b => exact SortedVec.find?_key hb
  simp only [insertGeneration]
  generalize hb : ((obtainBinding limits replaying g obs.key.source ⟨_, g.id⟩).take replaying obs).1 = b
  have hs : b.source = obs.key.source := hb ▸ hsource _
  cases hfind : g.bindings.find? obs.key.source with
  | some b₀ =>
    rw [← hs] at hfind
    rw [SortedVec.length_set_of_some hfind]
    exact hobtain
  | none =>
    rw [hfind] at hbind
    rw [← hs] at hfind
    rw [SortedVec.length_set_of_none hfind]
    rcases hbind with hbind | hbind
    · cases hbind
    · omega

/-- **An observation keeps the bounds of its flow.** -/
theorem FlowApplied.bounded (h : FlowApplied config sources ctx replaying atTime obs f f' outcome)
    (hf : f.Bounded config.limits) : f'.Bounded config.limits := by
  have hinsert : ∀ room, Roomed config.limits f obs.subject.generation room →
      (((obtainGeneration room obs.subject.generation atTime).bindings.find? obs.key.source).isSome = true ∨
        (obtainGeneration room obs.subject.generation atTime).bindings.toList.length
          < config.limits.maxSourcesPerFlow.toNat) →
      (insertEvidence config.limits replaying atTime (clampedObservation config.limits obs)
        (room.enter obs.subject.generation atTime)).1.Bounded config.limits := by
    intro room hroom hbind
    have h := bounded_insertEvidence replaying (hf.roomed hroom) (clampedObservation config.limits obs)
      (by rwa [clampedObservation_subject, clampedObservation_key])
    rwa [clampedObservation_subject] at h
  cases h with
  | collided _ hn _ => exact hf.of_generations hn.generations_eq
  | stopped _ hn _ => exact hf.of_generations hn.generations_eq
  | noSourceRoom room _ hroom _ hn _ =>
    exact ((hf.roomed hroom).enter obs.subject.generation atTime).of_generations hn.generations_eq
  | ledgerRefused room _ hroom hbind _ hn _ => exact (hinsert room hroom hbind).of_generations hn.generations_eq
  | recomputed room settled _ hroom hbind _ _ hn _ =>
    have hsettled : settled.Bounded config.limits :=
      (hinsert room hroom hbind).of_generations (hn.generations_eq.trans (revise_generations _ _))
    exact bounded_recomputeFlow (hsettled.set (fun gen => find?_touch settled obs.subject.generation gen atTime)
      (hsettled.obtain obs.subject.generation atTime))

/-- A generation of a restored flow is one of those of its record. -/
theorem find?_restoreFlow_some {previous : RuntimeEpoch} {p : PersistedFlow} {gen : GenerationId}
    {g : GenerationRuntime}
    (hg : (restoreFlow limits previous p).generations.find? gen = some g) :
    ∃ pg ∈ restoredGenerations limits p, pg.generation = gen ∧ g = restoreGeneration limits p.id pg := by
  have hmem : g ∈ ((restoredGenerations limits p).foldl (fun v pg => v.set (restoreGeneration limits p.id pg))
    (∅ : SortedVec GenerationRuntime.id)).toList := SortedVec.find?_mem hg
  rcases SortedVec.mem_foldl_set hmem with h | ⟨pg, hpg, rfl⟩
  · cases h
  · have hkey : (restoreGeneration limits p.id pg).id = gen := SortedVec.find?_key hg
    exact ⟨pg, hpg, hkey, rfl⟩

/-- A binding of a restored generation is one of those of its record. -/
theorem mem_restoreGeneration {flow : FlowId} {pg : PersistedGeneration} {b : SourceBinding}
    (hb : b ∈ (restoreGeneration limits flow pg).bindings.toList) :
    ∃ s ∈ restoredSources limits pg, b = restoreSource limits ⟨flow, pg.generation⟩ s := by
  have hmem : b ∈ ((restoredSources limits pg).foldl (fun v s => v.set (restoreSource limits ⟨flow, pg.generation⟩ s))
    (∅ : SortedVec SourceBinding.source)).toList := hb
  rcases SortedVec.mem_foldl_set hmem with h | h
  · cases h
  · exact h

/-- A restored flow is within the bounds: the loop over its sources stops at them. -/
theorem bounded_restoreFlow (limits : Limits) (previous : RuntimeEpoch) (p : PersistedFlow) :
    (restoreFlow limits previous p).Bounded limits := by
  intro gen g hg
  obtain ⟨pg, -, -, rfl⟩ := find?_restoreFlow_some hg
  have hset := SortedVec.length_foldl_set_le (restoreSource limits ⟨p.id, pg.generation⟩) (restoredSources limits pg)
    (∅ : SortedVec SourceBinding.source)
  have hlen : (restoredSources limits pg).length ≤ limits.maxSourcesPerFlow.toNat := List.length_take_le _ _
  simp only [SortedVec.emptyCollection_eq, SortedVec.toList_empty, List.length_nil] at hset
  exact le_trans hset (by omega)

/-- A binding of a restored flow is a restored binding. -/
theorem binding?_restoreFlow {previous : RuntimeEpoch} {p : PersistedFlow} {gen : GenerationId} {source : SourceId}
    {b : SourceBinding} (hb : (restoreFlow limits previous p).binding? gen source = some b) :
    ∃ s, b = restoreSource limits ⟨p.id, gen⟩ s := by
  obtain ⟨g, hg, hb⟩ := Option.bind_eq_some_iff.1 hb
  obtain ⟨pg, -, rfl, rfl⟩ := find?_restoreFlow_some hg
  obtain ⟨s, -, rfl⟩ := mem_restoreGeneration (SortedVec.find?_mem hb)
  exact ⟨s, rfl⟩

end Bounds

namespace Engine

/-! ## What is applied again -/

/-- The observations that a replay applies, each with the state it is applied to. -/
def replayApplications (e : Engine) : List Observation → List (Engine × Observation)
  | [] => []
  | obs :: observations => ({ e with replayNow := obs.receivedAt }, obs) ::
    (e.replayOne obs).replayApplications observations

/-- The observations that `restore_locked` applies. -/
def restoreApplications (e : Engine) (records : List Record) (previous : RuntimeEpoch) : List (Engine × Observation) :=
  match replayRecords records e.config.limits e.config.recovery with
  | .error _ => []
  | .ok result =>
    if result.sawSnapshot && result.state.policyDigest != e.config.policyDigest then []
    else
      let e := { e with snapshotSequence := result.state.snapshotSequence }
      match (e.restoreSources result.state.sources).restoreFlows previous result.state.flows with
      | (_, .error _) => []
      | (e, .ok ()) => { e with replaying := true, replayEpoch := previous }.replayApplications result.observations

/-- The observations that `open` applies: those of its journal. -/
def openApplications (e : Engine) : List (Engine × Observation) :=
  if e.config.journalPath.isEmpty then []
  else match Journal.openFile e.config.journalPath (journalFile e.journal e.disk)
      { limits := e.config.limits, recovery := e.config.recovery } with
    | .error _ => []
    | .ok j =>
      let previous := j.header.runtimeEpoch
      let epoch : RuntimeEpoch := ⟨previous.value + 1⟩
      match ((replaceJournal e.journal j).setEpoch epoch e.now).readAll with
      | (_, .error _) => []
      | (j, .ok records) =>
        if e.config.restoreOnOpen && !records.isEmpty then
          { e with openedAt := e.now, journal := some j, epoch := epoch }.restoreApplications records previous
        else []

/-- The observations that `load_snapshot` applies: those of the file. -/
def loadApplications (e : Engine) (path : Str) (existing : Option (List UInt8)) : List (Engine × Observation) :=
  match Journal.openFile path existing e.loadOptions with
  | .error _ => []
  | .ok j =>
    match j.readAll.2 with
    | .error _ => []
    | .ok records => { e with flows := ∅, registries := {} }.restoreApplications records e.epoch

/-- What `restore_locked` reads, when it goes on to rebuild it. -/
def restoreReads (e : Engine) (records : List Record) : Option ReplayResult :=
  match replayRecords records e.config.limits e.config.recovery with
  | .error _ => none
  | .ok result =>
    if result.sawSnapshot && result.state.policyDigest != e.config.policyDigest then none else some result

/-- What `open` reads from its journal and rebuilds. -/
def openReads (e : Engine) : Option ReplayResult :=
  if e.config.journalPath.isEmpty then none
  else match Journal.openFile e.config.journalPath (journalFile e.journal e.disk)
      { limits := e.config.limits, recovery := e.config.recovery } with
    | .error _ => none
    | .ok j =>
      match ((replaceJournal e.journal j).setEpoch ⟨j.header.runtimeEpoch.value + 1⟩ e.now).readAll with
      | (_, .error _) => none
      | (_, .ok records) => if e.config.restoreOnOpen && !records.isEmpty then e.restoreReads records else none

/-- What `load_snapshot` reads from the file and rebuilds. -/
def loadReads (e : Engine) (path : Str) (existing : Option (List UInt8)) : Option ReplayResult :=
  match Journal.openFile path existing e.loadOptions with
  | .error _ => none
  | .ok j =>
    match j.readAll.2 with
    | .error _ => none
    | .ok records => e.restoreReads records

/-- The sources and the flows of what was read, up to the first flow that is refused. -/
def rebuiltFrom (e : Engine) (previous : RuntimeEpoch) (result : ReplayResult) : Engine :=
  ((({ e with snapshotSequence := result.state.snapshotSequence } : Engine).restoreSources
    result.state.sources).restoreFlows previous result.state.flows).1

/-! ## Opening -/

/-- What recovery leaves alone: a field that applying an observation leaves alone and that recovery does not set. -/
theorem restoreLocked_frame {α : Type} (field : Engine → α) (happly : ∀ e obs, field (e.applyLocked obs).1 = field e)
    (hset : ∀ (e : Engine) flows sources counters sequence replaying instant epoch, field { e with
      flows := flows, sources := sources, counters := counters, snapshotSequence := sequence, replaying := replaying
      replayNow := instant, replayEpoch := epoch } = field e)
    (e : Engine) (records : List Record) (previous : RuntimeEpoch) :
    field (e.restoreLocked records previous).1 = field e := by
  have hflows : ∀ (ps : List PersistedFlow) (e : Engine), field (e.restoreFlows previous ps).1 = field e := by
    intro ps
    induction ps with
    | nil => exact fun _ => rfl
    | cons p ps ih =>
      intro e
      simp only [restoreFlows]
      split
      · exact hset e _ _ _ _ _ _ _
      · exact (ih _).trans (hset e _ _ _ _ _ _ _)
  have hreplay : ∀ (observations : List Observation) (e : Engine),
      field (observations.foldl replayOne e) = field e := by
    intro observations
    induction observations with
    | nil => exact fun _ => rfl
    | cons obs observations ih =>
      exact fun e => (ih _).trans ((happly _ obs).trans (hset e _ _ _ _ _ _ _))
  unfold restoreLocked
  split
  · rfl
  · rename_i result _
    split
    · rfl
    · have hread := hset e e.flows (result.state.sources.foldl (fun v d =>
        v.set { descriptor := d, registeredAt := e.openedAt }) e.sources) e.counters result.state.snapshotSequence
        e.replaying e.replayNow e.replayEpoch
      have hrestored := (hflows result.state.flows
        (({ e with snapshotSequence := result.state.snapshotSequence } : Engine).restoreSources
          result.state.sources)).trans hread
      dsimp only
      split
      · rename_i hr
        rw [hr] at hrestored
        exact hrestored
      · rename_i e₁ hr
        rw [hr] at hrestored
        have hready := hset e₁ e₁.flows e₁.sources e₁.counters e₁.snapshotSequence true e₁.replayNow previous
        have hdone := (hreplay result.observations _).trans (hready.trans hrestored)
        have hall : field (e₁.replayAll previous result.observations) = field e :=
          (hset _ _ _ _ _ false {} default).trans hdone
        exact (hset _ _ _ _ _ _ _ _).trans hall

/-- What opening leaves alone: a field that applying an observation leaves alone, and that neither recovery nor
opening sets. -/
theorem openEngine_frame {α : Type} (field : Engine → α) (happly : ∀ e obs, field (e.applyLocked obs).1 = field e)
    (hset : ∀ (e : Engine) flows sources counters sequence replaying instant epoch, field { e with
      flows := flows, sources := sources, counters := counters, snapshotSequence := sequence, replaying := replaying
      replayNow := instant, replayEpoch := epoch } = field e)
    (hopen : ∀ (e : Engine) flows counters journal epoch openedAt isOpen override frozen, field { e with
      flows := flows, counters := counters, journal := journal, epoch := epoch, openedAt := openedAt, isOpen := isOpen
      evaluationOverride := override, frozen := frozen } = field e)
    (e : Engine) : field e.openEngine.1 = field e := by
  have hrestored : ∀ (c : Bool) (read : Engine) (records : List Record) (previous : RuntimeEpoch),
      field (if c then read.restoreLocked records previous else (read, .ok ())).1 = field read := by
    intro c read records previous
    cases c with
    | true => exact restoreLocked_frame field happly hset read records previous
    | false => rfl
  have hjournal : field e.openJournalLocked.1 = field e := by
    simp only [openJournalLocked]
    split
    · exact hopen e _ _ _ _ _ _ _ _
    · split
      · exact hopen e _ _ _ _ _ _ _ _
      · split
        · exact hopen e _ _ _ _ _ _ _ _
        · split
          · exact hopen e _ _ _ _ _ _ _ _
          · split
            · rename_i hr
              have hread := (congrArg (fun p => field p.1) hr).symm.trans (hrestored _ _ _ _)
              exact hread.trans (hopen e _ _ _ _ _ _ _ _)
            · rename_i hr
              have hread := (congrArg (fun p => field p.1) hr).symm.trans (hrestored _ _ _ _)
              exact (hopen _ _ _ _ _ _ _ _ _).trans (hread.trans (hopen e _ _ _ _ _ _ _ _))
  unfold openEngine
  split
  · rfl
  · split
    · rfl
    · split
      · rename_i hr
        exact (congrArg (fun p => field p.1) hr).symm.trans hjournal
      · rename_i e₁ hr
        exact (hopen e₁ _ _ _ _ _ _ _ _).trans ((congrArg (fun p => field p.1) hr).symm.trans hjournal)

theorem recomputeAll_empty {e : Engine} (h : e.flows = ∅) (atTime : Timestamp) (due : FlowRuntime → Bool) :
    (e.recomputeAll atTime due).flows = ∅ := by
  refine SortedVec.ext_find? (fun id => ?_)
  rw [find?_recomputeAll, h]
  rfl

/-- A tick of an engine without flows makes none. -/
theorem tickLocked_empty {e : Engine} (h : e.flows = ∅) (evaluatedAt : Timestamp) :
    (e.tickLocked evaluatedAt).flows = ∅ := by
  have hset : ({ e with evaluationOverride := evaluatedAt } : Engine).flows = ∅ := h
  exact recomputeAll_empty hset evaluatedAt tickDue

/-- The two engines have the same configuration and the same tables, but may be replaying or not. -/
structure Alike (e e' : Engine) : Prop where
  config : e'.config = e.config
  flows : e'.flows = e.flows
  sources : e'.sources = e.sources
  registries : e'.registries = e.registries

theorem SameState.alike {e e' : Engine} (h : e.SameState e') :
    e.Alike e' := ⟨h.config, h.flows, h.sources, h.registries⟩

section Rule

variable {P : Engine → Prop} {apply : Engine → Observation → Prop}

theorem tick_rule (hsame : ∀ e e' : Engine, e.Alike e' → P e → P e')
    (hrecompute : ∀ e atTime due, P e → P (e.recomputeAll atTime due)) {e : Engine} (h : P e)
      (evaluatedAt : Timestamp) :
    P (e.tickLocked evaluatedAt) := by
  have hset : P { e with evaluationOverride := evaluatedAt } := hsame e _ ⟨rfl, rfl, rfl, rfl⟩ h
  have hticked := hrecompute _ evaluatedAt tickDue hset
  exact hsame _ _ (sameState_tickLocked e evaluatedAt).alike hticked

/-- **The rule for recovery.** A property of the configuration and the tables that a replayed observation and a
recomputation keep holds after recovery, when it holds before and after the flows are rebuilt. -/
theorem restore_rule (hsame : ∀ e e' : Engine, e.Alike e' → P e → P e')
    (happly : ∀ e obs, P e → apply e obs → P (e.applyLocked obs).1)
    (hrecompute : ∀ e atTime due, P e → P (e.recomputeAll atTime due)) {e : Engine} (h : P e) (records : List Record)
    (previous : RuntimeEpoch) (hrebuilt : ∀ result ∈ e.restoreReads records, P (e.rebuiltFrom previous result))
    (hcond : ∀ p ∈ e.restoreApplications records previous, apply p.1 p.2) : P (e.restoreLocked records previous).1 := by
  have hreplay : ∀ (obs : List Observation) (e : Engine), P e → (∀ p ∈ e.replayApplications obs, apply p.1 p.2) →
      P (obs.foldl replayOne e) := by
    intro obs
    induction obs with
    | nil => exact fun e h _ => h
    | cons o obs ih =>
      intro e h hcond
      have hset : P { e with replayNow := o.receivedAt } := hsame e _ ⟨rfl, rfl, rfl, rfl⟩ h
      have hone := happly _ o hset (hcond (_, o) List.mem_cons_self)
      exact ih _ hone (fun p hp => hcond p (List.mem_cons_of_mem _ hp))
  unfold restoreApplications at hcond
  unfold restoreReads rebuiltFrom at hrebuilt
  unfold restoreLocked
  cases hread : replayRecords records e.config.limits e.config.recovery with
  | error err => exact h
  | ok result =>
    simp only [hread] at hcond hrebuilt ⊢
    by_cases hdigest : (result.sawSnapshot && result.state.policyDigest != e.config.policyDigest) = true
    · rw [if_pos hdigest]
      exact h
    · rw [if_neg hdigest] at hcond hrebuilt ⊢
      have hrestore := hrebuilt result rfl
      rcases hr : (({ e with snapshotSequence := result.state.snapshotSequence } : Engine).restoreSources
        result.state.sources).restoreFlows previous result.state.flows with ⟨e₁, err | ok⟩
      · rw [hr] at hrestore
        exact hrestore
      · simp only [hr] at hrestore hcond ⊢
        have hready : P { e₁ with replaying := true, replayEpoch := previous } :=
          hsame e₁ _ ⟨rfl, rfl, rfl, rfl⟩ hrestore
        have hdone : P (e₁.replayAll previous result.observations) :=
          hsame _ _ (by exact ⟨rfl, rfl, rfl, rfl⟩) (hreplay result.observations _ hready hcond)
        exact hrecompute _ _ _ hdone

/-- The rule for opening. -/
theorem open_rule (hsame : ∀ e e' : Engine, e.Alike e' → P e → P e')
    (happly : ∀ e obs, P e → apply e obs → P (e.applyLocked obs).1)
    (hrecompute : ∀ e atTime due, P e → P (e.recomputeAll atTime due)) {e : Engine} (h : P e)
    (hrebuilt : ∀ e' previous, e.Alike e' → ∀ result ∈ e.openReads, P (e'.rebuiltFrom previous result))
    (hcond : ∀ p ∈ e.openApplications, apply p.1 p.2) : P e.openEngine.1 := by
  have hjournal : P e.openJournalLocked.1 := by
    unfold openApplications at hcond
    unfold openReads at hrebuilt
    simp only [openJournalLocked]
    split
    · exact hsame e _ ⟨rfl, rfl, rfl, rfl⟩ h
    · rename_i hpath
      rw [if_neg hpath] at hcond hrebuilt
      split
      · exact hsame e _ ⟨rfl, rfl, rfl, rfl⟩ h
      · cases hfile : Journal.openFile e.config.journalPath (journalFile e.journal e.disk)
            { limits := e.config.limits, recovery := e.config.recovery } with
        | error err => exact hsame e _ ⟨rfl, rfl, rfl, rfl⟩ h
        | ok j =>
          simp only [hfile] at hcond hrebuilt ⊢
          rcases hread : ((replaceJournal e.journal j).setEpoch ⟨j.header.runtimeEpoch.value + 1⟩ e.now).readAll with
            ⟨j', err | records⟩
          · exact hsame e _ ⟨rfl, rfl, rfl, rfl⟩ h
          · simp only [hread] at hcond hrebuilt ⊢
            generalize hr : ({ e with openedAt := e.now, journal := some j',
                                      epoch := ⟨j.header.runtimeEpoch.value + 1⟩ } : Engine) = read at hcond ⊢
            have halike : e.Alike read := hr ▸ ⟨rfl, rfl, rfl, rfl⟩
            have h₁ : P read := hsame e read halike h
            have hdone : P (if (e.config.restoreOnOpen && !records.isEmpty) = true then
                read.restoreLocked records j.header.runtimeEpoch else (read, .ok ())).1 := by
              split
              · rename_i hrestore
                rw [if_pos hrestore] at hcond hrebuilt
                refine restore_rule hsame happly hrecompute h₁ records _ (fun result hresult => ?_) hcond
                refine hrebuilt read _ halike result ?_
                rwa [restoreReads, ← halike.config]
              · exact h₁
            split
            · rename_i hopen
              rw [hopen] at hdone
              exact hdone
            · rename_i hopen
              rw [hopen] at hdone
              exact hsame _ _ (by exact ⟨rfl, rfl, rfl, rfl⟩) hdone
  unfold openEngine
  split
  · exact h
  · split
    · exact h
    · split
      · rename_i hr
        rw [hr] at hjournal
        exact hjournal
      · rename_i e₁ hr
        rw [hr] at hjournal
        have hopen : P { e₁ with frozen := false, isOpen := true } := hsame e₁ _ ⟨rfl, rfl, rfl, rfl⟩ hjournal
        exact tick_rule hsame hrecompute hopen _

/-- The rule for loading. -/
theorem load_rule (hsame : ∀ e e' : Engine, e.Alike e' → P e → P e')
    (happly : ∀ e obs, P e → apply e obs → P (e.applyLocked obs).1)
    (hrecompute : ∀ e atTime due, P e → P (e.recomputeAll atTime due)) {e : Engine} (h : P e) (path : Str)
    (existing : Option (List UInt8)) (hcleared : P { e with flows := ∅, registries := {} })
    (hrebuilt : ∀ previous, ∀ result ∈ e.loadReads path existing,
      P (({ e with flows := ∅, registries := {} } : Engine).rebuiltFrom previous result))
    (hcond : ∀ p ∈ e.loadApplications path existing, apply p.1 p.2) : P (e.loadSnapshot path existing).1 := by
  unfold loadApplications at hcond
  unfold loadReads at hrebuilt
  unfold loadSnapshot
  split
  · exact h
  · rename_i j hj
    simp only [hj] at hcond hrebuilt
    split
    · exact h
    · rename_i records hread
      simp only [hread] at hcond hrebuilt
      exact restore_rule hsame happly hrecompute hcleared records _ (hrebuilt e.epoch) hcond

/-- A property of the configuration, the flows and the sources that survives a restored flow holds after any flows are
rebuilt in an engine without flows. -/
theorem rebuilt_rule
    (hempty : ∀ e e' : Engine, e'.config = e.config → e'.flows = ∅ → P e → P e')
    (hnamed : ∀ (e : Engine) (ps : List PersistedSource), P e →
      P { e with sources := ps.foldl (restoreDescriptor e.openedAt) e.sources })
    (hrestored : ∀ (e : Engine) previous p, P e →
      P { e with flows := e.flows.set (restoreFlow e.config.limits previous p) })
    {e : Engine} (h : P e) (hnone : e.flows = ∅) (previous : RuntimeEpoch) (result : ReplayResult) :
    P (e.rebuiltFrom previous result) := by
  have hflows : ∀ (ps : List PersistedFlow) (e : Engine), P e → P (e.restoreFlows previous ps).1 := by
    intro ps
    induction ps with
    | nil => exact fun e h => h
    | cons p ps ih =>
      intro e h
      have hregistered := hnamed e ((restoredGenerations e.config.limits p).flatMap (restoredSources e.config.limits)) h
      simp only [restoreFlows]
      split
      · exact hregistered
      · refine ih _ ?_
        split
        · exact hregistered
        · exact hrestored _ previous p hregistered
  have hset : P (({ e with snapshotSequence := result.state.snapshotSequence } : Engine).restoreSources
    result.state.sources) := hempty e _ rfl hnone h
  exact hflows result.state.flows _ hset

end Rule

/-! ## Opening on no file -/

/-- Nothing is read from a file that did not exist. -/
theorem readAll_create {path : Str} {options : JournalOpenOptions} (hv : options.limits.Valid) (epoch : RuntimeEpoch)
    (createdAt : Timestamp) : (((Journal.create path options).setEpoch epoch createdAt).readAll).2 = .ok [] := by
  have hlimits : ((Journal.create path options).setEpoch epoch createdAt).limits = options.limits := rfl
  refine (Journal.readAll_holds_iff (k := (Journal.create path options).setEpoch epoch createdAt) hv rfl
    (Journal.holds_create path options) rfl).2 ?_
  have hsize := UInt64.lt_iff_toNat_lt.1 hv.journalBytes
  have hleast : (4096 : UInt64).toNat = 4096 := rfl
  refine ⟨?_, fun r hr => absurd hr List.not_mem_nil, Nat.zero_le _⟩
  rw [hlimits, List.map_nil, List.sum_nil, kHeaderBytes]
  omega

/-- The engine has the configuration and holds nothing. -/
structure Empty (config : EngineConfig) (e : Engine) : Prop where
  config : e.config = config
  flows : e.flows = ∅
  sources : e.sources = ∅
  registries : e.registries = {}
  queue : e.queue = []

/-- A journal that did not exist is created, and nothing is restored from it. -/
theorem openJournalLocked_new {config : EngineConfig} (hvalid : config.validate = .ok ()) (clock : Timestamp) :
    ∃ e, ({ config := config, clock := clock } : Engine).openJournalLocked = (e, .ok ()) ∧ Empty config e := by
  have hread : ∀ epoch createdAt, ((Journal.create config.journalPath
      { limits := config.limits, recovery := config.recovery }).setEpoch epoch createdAt).readAll.2 = .ok [] :=
    readAll_create (EngineConfig.limits_valid hvalid)
  unfold openJournalLocked
  dsimp only
  split
  · exact ⟨_, rfl, ⟨rfl, rfl, rfl, rfl, rfl⟩⟩
  · rw [journalFile_none, Journal.openFile_fresh (EngineConfig.validate_limits hvalid) rfl rfl]
    simp only [replaceJournal_none, Option.any_none, Bool.false_eq_true, if_false, hread, List.isEmpty_nil,
      Bool.not_true, Bool.and_false]
    exact ⟨_, rfl, ⟨rfl, rfl, rfl, rfl, rfl⟩⟩

/-- An engine that is opened on no file holds nothing. -/
theorem opened_empty (config : EngineConfig) (clock : Timestamp) :
    Empty config ({ config := config, clock := clock } : Engine).openEngine.1 := by
  unfold openEngine
  split
  · exact ⟨rfl, rfl, rfl, rfl, rfl⟩
  · rename_i hvalid
    obtain ⟨e, hjournal, hempty⟩ := openJournalLocked_new hvalid clock
    rw [hjournal]
    exact ⟨hempty.config, tickLocked_empty hempty.flows _, hempty.sources, hempty.registries, hempty.queue⟩

/-- **An engine opens on no file just when its configuration is valid.** -/
theorem opens_new_iff {config : EngineConfig} {clock : Timestamp} :
    ({ config := config, clock := clock } : Engine).openEngine.2 = .ok () ↔ config.validate = .ok () := by
  unfold openEngine
  constructor
  · intro h
    split at h
    · cases h
    · assumption
  · intro hvalid
    obtain ⟨e, hjournal, -⟩ := openJournalLocked_new hvalid clock
    rw [hvalid]
    dsimp only
    rw [hjournal]
    rfl

/-! ## Reachable states -/

/-- The states of an engine: opened on no file, in use, or closed and opened again on what it left there. -/
inductive Reachable : Engine → Prop
  | opened (config : EngineConfig) (clock : Timestamp)
    (h : ({ config := config, clock := clock } : Engine).openEngine.2 = .ok ()) :
    Reachable ({ config := config, clock := clock } : Engine).openEngine.1
  | step {e : Engine} (h : Reachable e) (op : Op) : Reachable (e.step op)
  | reopened {e : Engine} (h : Reachable e) (ho : e.close.openEngine.2 = .ok ()) : Reachable e.close.openEngine.1

/-- The states of an engine that is opened on any file, used, closed and opened again, or given a snapshot, when every
observation is applied under the condition `apply` and every descriptor registered under `register`. -/
inductive ReachedBy (apply : Engine → Observation → Prop) (register : Engine → SourceDescriptor → Prop) : Engine → Prop
  | opened (config : EngineConfig) (clock : Timestamp) (disk : Option (List UInt8))
    (h : ({ config := config, clock := clock, disk := disk } : Engine).openEngine.2 = .ok ())
    (happly : ∀ p ∈ ({ config := config, clock := clock, disk := disk } : Engine).openApplications, apply p.1 p.2) :
    ReachedBy apply register ({ config := config, clock := clock, disk := disk } : Engine).openEngine.1
  | step {e : Engine} (h : ReachedBy apply register e) (op : Op) (happly : ∀ p ∈ e.applications op, apply p.1 p.2)
    (hregister : ∀ d, op = .registerSource d → register e d) : ReachedBy apply register (e.step op)
  | reopened {e : Engine} (h : ReachedBy apply register e) (ho : e.close.openEngine.2 = .ok ())
    (happly : ∀ p ∈ e.close.openApplications, apply p.1 p.2) : ReachedBy apply register e.close.openEngine.1
  | loaded {e : Engine} (h : ReachedBy apply register e) (path : Str) (existing : Option (List UInt8))
    (happly : ∀ p ∈ e.loadApplications path existing, apply p.1 p.2) :
    ReachedBy apply register (e.loadSnapshot path existing).1

theorem ReachedBy.mono {apply apply' : Engine → Observation → Prop}
    {register register' : Engine → SourceDescriptor → Prop}
    {e : Engine} (h : e.ReachedBy apply register) (happly : ∀ e obs, apply e obs → apply' e obs)
    (hregister : ∀ e d, register e d → register' e d) : e.ReachedBy apply' register' := by
  induction h with
  | opened config clock disk h hcond => exact .opened config clock disk h (fun p hp => happly _ _ (hcond p hp))
  | step _ op hcond hdescribed ih =>
    exact .step ih op (fun p hp => happly _ _ (hcond p hp)) (fun d hd => hregister _ d (hdescribed d hd))
  | reopened _ ho hcond ih => exact .reopened ih ho (fun p hp => happly _ _ (hcond p hp))
  | loaded _ path existing hcond ih => exact .loaded ih path existing (fun p hp => happly _ _ (hcond p hp))

theorem Reachable.reachedBy {e : Engine} (h : e.Reachable) : e.ReachedBy (fun _ _ => True) (fun _ _ => True) := by
  induction h with
  | opened config clock h => exact .opened config clock none h (fun _ _ => trivial)
  | step _ op ih => exact .step ih op (fun _ _ => trivial) (fun _ _ => trivial)
  | reopened _ ho ih => exact .reopened ih ho (fun _ _ => trivial)

/-- The same states, when every observation is applied under the condition `apply`, and what a file holds is rebuilt
under the condition `reads`. -/
inductive ReachedFrom (apply : Engine → Observation → Prop) (reads : Engine → ReplayResult → Prop) : Engine → Prop
  | opened (config : EngineConfig) (clock : Timestamp) (disk : Option (List UInt8))
    (h : ({ config := config, clock := clock, disk := disk } : Engine).openEngine.2 = .ok ())
    (happly : ∀ p ∈ ({ config := config, clock := clock, disk := disk } : Engine).openApplications, apply p.1 p.2)
    (hreads : ∀ result ∈ ({ config := config, clock := clock, disk := disk } : Engine).openReads,
      reads { config := config, clock := clock, disk := disk } result) :
    ReachedFrom apply reads ({ config := config, clock := clock, disk := disk } : Engine).openEngine.1
  | step {e : Engine} (h : ReachedFrom apply reads e) (op : Op) (happly : ∀ p ∈ e.applications op, apply p.1 p.2) :
    ReachedFrom apply reads (e.step op)
  | reopened {e : Engine} (h : ReachedFrom apply reads e) (ho : e.close.openEngine.2 = .ok ())
    (happly : ∀ p ∈ e.close.openApplications, apply p.1 p.2)
    (hreads : ∀ result ∈ e.close.openReads, reads e.close result) : ReachedFrom apply reads e.close.openEngine.1
  | loaded {e : Engine} (h : ReachedFrom apply reads e) (path : Str) (existing : Option (List UInt8))
    (happly : ∀ p ∈ e.loadApplications path existing, apply p.1 p.2)
    (hreads : ∀ result ∈ e.loadReads path existing, reads e result) :
    ReachedFrom apply reads (e.loadSnapshot path existing).1

theorem validate_of_open {e : Engine} (h : e.openEngine.2 = .ok ()) : e.config.validate = .ok () := by
  unfold openEngine at h
  split at h
  · cases h
  · assumption

theorem isOpen_of_open {e : Engine} (h : e.openEngine.2 = .ok ()) : e.openEngine.1.isOpen = true := by
  revert h
  unfold openEngine
  split
  · intro h
    cases h
  · split
    · intro h
      cases h
    · split
      · intro h
        cases h
      · exact fun _ => rfl

theorem close_config (e : Engine) : e.close.config = e.config := by
  unfold close
  split <;> rfl

theorem close_journal (e : Engine) : e.close.journal = none := by
  unfold close
  split
  · rename_i h
    rw [Bool.and_eq_true, Option.isNone_iff_eq_none] at h
    exact h.2
  · rfl

/-- A closed engine holds no flow. -/
theorem close_flows {e : Engine} (h : e.isOpen = true) : e.close.flows = ∅ := by
  unfold close
  rw [h]
  rfl

theorem step_isOpen (e : Engine) (op : Op) (h : e.isOpen = true) : (e.step op).isOpen = true := by
  refine step_rule (P := fun e => e.isOpen = true) (fun e obs h (_ : True) => ?_) (fun _ _ _ h => h)
    (fun _ _ _ _ h => h)
    (fun _ _ _ _ h => h) (fun _ _ _ _ (_ : True) h => h) (fun e e' hsame h => hsame.isOpen.trans h) h
    (fun _ _ => trivial) (fun _ _ => trivial)
  obtain ⟨_, _, _, _, _, _, he⟩ := sameSettings_applyLocked e obs
  rw [he]
  exact h

/-- Opening keeps the configuration. -/
theorem open_config (e : Engine) : e.openEngine.1.config = e.config :=
  openEngine_frame (·.config) (fun e obs => (sameSettings_applyLocked e obs).config_eq) (fun _ _ _ _ _ _ _ _ => rfl)
    (fun _ _ _ _ _ _ _ _ _ => rfl) e

/-! ## The queue -/

theorem applyLocked_queue (e : Engine) (obs : Observation) : (e.applyLocked obs).1.queue = e.queue := by
  obtain ⟨_, _, _, _, _, _, he⟩ := sameSettings_applyLocked e obs
  rw [he]

theorem ingest_queue (e : Engine) (obs : Observation) : (e.ingest obs).1.queue = e.queue := by
  unfold ingest
  split
  · rfl
  · split
    · rfl
    · exact applyLocked_queue e obs

/-- Applying a batch leaves the queue alone. -/
theorem applyBatch_queue (e : Engine) (batch : List Observation) : (e.applyBatch batch).queue = e.queue := by
  have hfold : ∀ (batch : List Observation) (e : Engine),
      (batch.foldl (fun (e : Engine) obs => (e.applyLocked obs).1) e).queue = e.queue := by
    intro batch
    induction batch with
    | nil => exact fun _ => rfl
    | cons obs batch ih => exact fun e => (ih _).trans (applyLocked_queue e obs)
  exact hfold batch e

/-- No operation changes the configuration. -/
theorem step_config (e : Engine) (op : Op) : (e.step op).config = e.config := by
  refine step_rule (P := fun e' => e'.config = e.config) (fun e' obs h (_ : True) => ?_) (fun _ _ _ h => h)
    (fun _ _ _ _ h => h) (fun _ _ _ _ h => h) (fun _ _ _ _ (_ : True) h => h)
      (fun e e' hsame h => hsame.config.trans h) rfl
    (fun _ _ => trivial) (fun _ _ => trivial)
  exact (sameSettings_applyLocked e' obs).config_eq.trans h

section Rule

variable {P : Engine → Prop} {apply : Engine → Observation → Prop} {register : Engine → SourceDescriptor → Prop}

theorem ReachedBy.isOpen {e : Engine} (h : e.ReachedBy apply register) : e.isOpen = true := by
  induction h with
  | opened config clock disk h _ => exact isOpen_of_open h
  | step _ op _ _ ih => exact step_isOpen _ op ih
  | reopened _ ho _ _ => exact isOpen_of_open ho
  | @loaded e _ path existing _ ih =>
    have hrestore := restoreLocked_frame (·.isOpen) (fun e obs => by
      obtain ⟨_, _, _, _, _, _, he⟩ := sameSettings_applyLocked e obs
      rw [he]) (fun _ _ _ _ _ _ _ _ => rfl)
    unfold loadSnapshot
    split
    · exact ih
    · split
      · exact ih
      · exact (hrestore _ _ _).trans ih

/-- **The rule for states reached under a condition.** A property of the configuration, the flows and the sources. -/
theorem reachedBy_rule (hstart : ∀ e : Engine, e.config.validate = .ok () → e.flows = ∅ → P e)
    (hsame : ∀ e e' : Engine, e'.config = e.config → e'.flows = e.flows → e'.sources = e.sources → P e → P e')
    (hempty : ∀ e e' : Engine, e'.config = e.config → e'.flows = ∅ → P e → P e')
    (happly : ∀ e obs, P e → apply e obs → P (e.applyLocked obs).1)
    (hrecompute : ∀ e atTime due, P e → P (e.recomputeAll atTime due))
    (hdrop : ∀ e s id, e.sources.find? id = some s → P e → P (e.dropped s id))
    (hregister : ∀ e d s, checkDescriptor e.config.limits d = .ok () → e.sources.find? d.id = none → s.descriptor = d →
      s.retired = false → P e → P { e with sources := e.sources.set s })
    (hupdate : ∀ e d s, e.Updates d s → register e d → P e →
      P { e with sources := e.sources.set { s with descriptor := d, retired := false } })
    (hnamed : ∀ (e : Engine) (ps : List PersistedSource), P e →
      P { e with sources := ps.foldl (restoreDescriptor e.openedAt) e.sources })
    (hrestored : ∀ (e : Engine) previous p, P e →
      P { e with flows := e.flows.set (restoreFlow e.config.limits previous p) })
    {e : Engine} (h : e.ReachedBy apply register) : P e := by
  have halike : ∀ e e' : Engine, e.Alike e' → P e → P e' := fun e e' ha h => hsame e e' ha.config ha.flows ha.sources h
  induction h with
  | opened config clock disk h hcond =>
    have hbase : P { config := config, clock := clock, disk := disk } := hstart _ (validate_of_open h) rfl
    exact open_rule halike happly hrecompute hbase (fun e' previous ha result _ =>
      rebuilt_rule hempty hnamed hrestored (halike _ e' ha hbase) ha.flows previous result) hcond
  | step _ op hcond hdescribed ih =>
    refine step_rule happly hrecompute hdrop
      (fun e d s hd => hregister e d s hd.checked hd.unknown hd.described hd.active)
      hupdate (fun e e' h => ?_) ih hcond hdescribed
    exact hsame e e' h.config h.flows h.sources
  | reopened h ho hcond ih =>
    have hnone := close_flows h.isOpen
    have hclosed := hempty _ _ (close_config _) hnone ih
    exact open_rule halike happly hrecompute hclosed (fun e' previous ha result _ =>
      rebuilt_rule hempty hnamed hrestored (halike _ e' ha hclosed) (ha.flows.trans hnone) previous result) hcond
  | @loaded e h path existing hcond ih =>
    have hcleared : P { e with flows := ∅, registries := {} } := hempty e _ rfl rfl ih
    exact load_rule halike happly hrecompute ih path existing hcleared (fun previous result _ =>
      rebuilt_rule hempty hnamed hrestored hcleared rfl previous result) hcond

theorem ReachedFrom.reachedBy {reads : Engine → ReplayResult → Prop} {e : Engine} (h : e.ReachedFrom apply reads) :
    e.ReachedBy apply (fun _ _ => True) := by
  induction h with
  | opened config clock disk h happly _ => exact .opened config clock disk h happly
  | step _ op happly ih => exact .step ih op happly (fun _ _ => trivial)
  | reopened _ ho happly _ ih => exact .reopened ih ho happly
  | loaded _ path existing happly _ ih => exact .loaded ih path existing happly

/-- **The rule for states reached when files are read under a condition.** A property of the configuration and the
tables. -/
theorem reachedFrom_rule {reads : Engine → ReplayResult → Prop}
    (hstart : ∀ e : Engine, e.config.validate = .ok () → e.flows = ∅ → e.sources = ∅ → e.registries = {} → P e)
    (hsame : ∀ e e' : Engine, e.Alike e' → P e → P e')
    (happly : ∀ e obs, P e → apply e obs → P (e.applyLocked obs).1)
    (hrecompute : ∀ e atTime due, P e → P (e.recomputeAll atTime due))
    (hdrop : ∀ e s id, e.sources.find? id = some s → P e → P (e.dropped s id))
    (hregister : ∀ e d s, e.Describes d s → P e → P { e with sources := e.sources.set s })
    (hupdate : ∀ e d s, e.Updates d s → P e →
      P { e with sources := e.sources.set { s with descriptor := d, retired := false } })
    (hclear : ∀ e : Engine, P e → P { e with flows := ∅, registries := {} })
    (hrebuilt : ∀ e e' previous result, reads e result → e'.config = e.config → e'.sources = e.sources → e'.flows = ∅ →
      e'.registries = {} → P e' → P (e'.rebuiltFrom previous result))
    {e : Engine} (h : e.ReachedFrom apply reads) : P e := by
  have hopened : ∀ e : Engine, e.config.validate = .ok () → e.flows = ∅ → e.sources = ∅ → e.registries = {} →
      (∀ p ∈ e.openApplications, apply p.1 p.2) → (∀ result ∈ e.openReads, reads e result) → P e.openEngine.1 := by
    intro e hv hflows hsources hregistries happlications hreads
    have hbase := hstart e hv hflows hsources hregistries
    refine open_rule hsame happly hrecompute hbase (fun e' previous ha result hresult => ?_) happlications
    exact hrebuilt e e' previous result (hreads result hresult) ha.config ha.sources (ha.flows.trans hflows)
      (ha.registries.trans hregistries) (hsame e e' ha hbase)
  induction h with
  | opened config clock disk h happlications hreads =>
    exact hopened _ (validate_of_open h) rfl rfl rfl happlications hreads
  | step _ op happlications ih =>
    exact step_rule happly hrecompute hdrop hregister (fun e d s hu (_ : True) => hupdate e d s hu)
      (fun e e' hs => hsame e e' hs.alike) ih happlications (fun _ _ => trivial)
  | @reopened e h ho happlications hreads _ =>
    have hclosed : e.close.flows = ∅ ∧ e.close.sources = ∅ ∧ e.close.registries = {} := by
      unfold close
      rw [h.reachedBy.isOpen]
      exact ⟨rfl, rfl, rfl⟩
    exact hopened _ (validate_of_open ho) hclosed.1 hclosed.2.1 hclosed.2.2 happlications hreads
  | loaded _ path existing happlications hreads ih =>
    refine load_rule hsame happly hrecompute ih path existing (hclear _ ih)
      (fun previous result hresult => ?_) happlications
    exact hrebuilt _ _ previous result (hreads result hresult) rfl rfl rfl rfl (hclear _ ih)

/-- **The rule for reachable states.** A property of the configuration and the flows. -/
theorem reachable_rule (hempty : ∀ e : Engine, e.config.validate = .ok () → e.flows = ∅ → P e)
    (hsame : ∀ e e' : Engine, e'.config = e.config → e'.flows = e.flows → P e → P e')
    (happly : ∀ e obs, P e → P (e.applyLocked obs).1)
    (hrecompute : ∀ e atTime due, P e → P (e.recomputeAll atTime due))
    (hdrop : ∀ e s id, P e → P (e.dropped s id))
    (hrestored : ∀ (e : Engine) previous p, P e →
      P { e with flows := e.flows.set (restoreFlow e.config.limits previous p) })
    {e : Engine} (h : e.Reachable) : P e := by
  have hstrong : e.config.validate = .ok () ∧ P e := by
    refine reachedBy_rule (P := fun e => e.config.validate = .ok () ∧ P e) (fun e hv hf => ⟨hv, hempty e hv hf⟩)
      (fun e e' hc hf _ h => ?_) (fun e e' hc hf h => ?_) (fun e obs h _ => ?_) (fun e atTime due h => ?_)
      (fun e s id _ h => ?_) (fun e d s _ _ _ _ h => ?_) (fun e d s _ _ h => ?_) (fun e ps h => ?_)
      (fun e previous p h => ?_) h.reachedBy
    · exact ⟨hc ▸ h.1, hsame e e' hc hf h.2⟩
    · have hv : e'.config.validate = .ok () := hc ▸ h.1
      exact ⟨hv, hempty e' hv hf⟩
    · refine ⟨?_, happly e obs h.2⟩
      rw [(sameSettings_applyLocked e obs).config_eq]
      exact h.1
    · exact ⟨h.1, hrecompute e atTime due h.2⟩
    · exact ⟨h.1, hdrop e s id h.2⟩
    · exact ⟨h.1, hsame e _ rfl rfl h.2⟩
    · exact ⟨h.1, hsame e _ rfl rfl h.2⟩
    · exact ⟨h.1, hsame e _ rfl rfl h.2⟩
    · exact ⟨h.1, hrestored e previous p h.2⟩
  exact hstrong.2

/-- The configuration of a reachable engine is a valid one. -/
theorem Reachable.validate {e : Engine} (h : e.Reachable) : e.config.validate = .ok () := by
  refine reachable_rule (P := fun e => e.config.validate = .ok ()) (fun _ h _ => h) (fun e e' hc _ h => ?_)
    (fun e obs h => ?_) (fun _ _ _ h => h) (fun _ _ _ h => h) (fun _ _ _ h => h) h
  · rw [hc]
    exact h
  · rw [(sameSettings_applyLocked e obs).config_eq]
    exact h

end Rule

/-! ## Bounds -/

theorem bounded_dropSource {limits : Limits} {f : FlowRuntime} (h : f.Bounded limits) (id : SourceId) :
    (dropSource id f).Bounded limits := by
  intro gen g hg
  obtain ⟨g₀, hg₀, rfl⟩ := Option.map_eq_some_iff.1
    ((SortedVec.find?_map f.generations (dropBinding id) (dropBinding_id id) gen).symm.trans hg)
  exact le_trans (SortedVec.length_erase_le _ _) (h gen g₀ hg₀)

/-- **The rule for the flows of the states reached.** What an observation, a recomputation and giving up a source keep
of a flow holds of every flow, when it holds of those that are created and restored. -/
theorem ReachedBy.eachFlow {apply : Engine → Observation → Prop} {register : Engine → SourceDescriptor → Prop}
    {Q : Limits → FlowRuntime → Prop}
    (happ : ∀ config sources ctx replaying atTime obs f f' outcome,
      FlowApplied config sources ctx replaying atTime obs f f' outcome → Q config.limits f → Q config.limits f')
    (hcreate : ∀ (e : Engine) atTime obs, Q e.config.limits (e.createFlow atTime obs))
    (hrecompute : ∀ config sources ctx atTime f, Q config.limits f →
      Q config.limits (recomputeFlow config sources ctx atTime f))
    (hdrop : ∀ limits id f, Q limits f → Q limits (dropSource id f))
    (hrestored : ∀ limits previous p, Q limits (restoreFlow limits previous p)) {e : Engine}
      (h : e.ReachedBy apply register) :
    e.EachFlow (Q e.config.limits) := by
  have hnone : ∀ e : Engine, e.flows = ∅ → e.EachFlow (Q e.config.limits) := by
    intro e hflows id f hf
    rw [hflows] at hf
    cases hf
  refine reachedBy_rule (P := fun e => e.EachFlow (Q e.config.limits)) (fun e _ hflows => hnone e hflows)
    (fun e e' hconfig hflows _ h => ?_) (fun e e' _ hflows _ => hnone e' hflows) (fun e obs h _ => ?_)
      (fun e atTime due h => ?_)
    (fun e s id _ h => ?_) (fun e d s _ _ _ _ h => h) (fun e d s _ _ h => h) (fun e ps h => h)
      (fun e previous p h => ?_) h
  · rw [hconfig]
    exact h.of_find? fun id => .inl (by rw [hflows])
  · rw [(sameSettings_applyLocked e obs).config_eq]
    exact eachFlow_applyLocked h obs (fun f f' _ _ _ hf => happ _ _ _ _ _ _ f f' _ hf) (hcreate e _ _)
  · exact eachFlow_recomputeAll h due fun sources ctx f => hrecompute _ sources ctx _ f
  · intro flow f hf
    rw [find?_dropped] at hf
    obtain ⟨f₀, hf₀, rfl⟩ := Option.map_eq_some_iff.1 hf
    exact hdrop _ id f₀ (h flow f₀ hf₀)
  · exact h.set rfl (hrestored _ previous p)

/-- **An engine that is reached is within its bounds.** -/
theorem ReachedBy.bounded {apply : Engine → Observation → Prop}
    {register : Engine → SourceDescriptor → Prop} {e : Engine}
    (h : e.ReachedBy apply register) : e.EachFlow (·.Bounded e.config.limits) := by
  refine ReachedBy.eachFlow (Q := fun limits f => f.Bounded limits) (fun _ _ _ _ _ _ _ _ _ happ hf => happ.bounded hf)
    (fun e atTime obs gen g hg => ?_) (fun _ _ _ _ _ hf => bounded_recomputeFlow hf)
      (fun _ id _ hf => bounded_dropSource hf id)
    bounded_restoreFlow h
  cases hg

theorem Reachable.bounded {e : Engine} (h : e.Reachable) : e.EachFlow (·.Bounded e.config.limits) := h.reachedBy.bounded

/-! ## The policy of the ledgers -/

/-- The ledgers fold their entries under the default policy: the engine gives them no other. -/
theorem ReachedBy.policy {apply : Engine → Observation → Prop}
    {register : Engine → SourceDescriptor → Prop} {e : Engine}
    (h : e.ReachedBy apply register) : e.Holds (fun _ _ b => b.ledger.counterPolicy = {}) := by
  have hnone : ∀ e : Engine, e.flows = ∅ → e.Holds (fun _ _ b => b.ledger.counterPolicy = {}) := by
    intro e hf flow gen source b hb
    unfold binding? at hb
    rw [hf] at hb
    cases hb
  refine reachedBy_rule (P := Holds _) (fun e _ hf => hnone e hf) (fun e e' _ hf _ h => h.of_flows hf)
    (fun e e' _ hf _ => hnone e' hf) (fun e obs h _ => ?_) (fun e atTime due h => ?_) (fun e s id _ h => ?_)
    (fun e d s _ _ _ _ h => h.of_flows rfl) (fun e d s _ _ h => h.of_flows rfl) (fun e ps h => h.of_flows rfl)
    (fun e previous p h => ?_) h
  · refine holds_applyLocked h (fun ctx flow gen b hb => by rwa [refreshBinding_ledger]) (fun _ _ => ?_)
    unfold bindingAfter bindingFor
    rw [SourceBinding.take_ledger, (SourceLedger.insert_source _ _).2.2.1]
    cases hb : e.binding? (e.taken obs).subject.flow (e.taken obs).subject.generation (e.taken obs).key.source with
    | none => rfl
    | some b => exact h _ _ _ b hb
  · exact holds_recomputeAll h due (fun ctx flow gen b hb => by rwa [refreshBinding_ledger])
  · exact h.dropped s id
  · refine h.set rfl (fun gen source b hb => ?_)
    obtain ⟨s, rfl⟩ := binding?_restoreFlow hb
    rfl

theorem Reachable.policy {e : Engine} (h : e.Reachable) : e.Holds (fun _ _ b => b.ledger.counterPolicy = {}) :=
  h.reachedBy.policy

end Engine

end FlowObs
