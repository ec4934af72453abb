import FlowObs.Engine.Rebuilt

/-!
# The replay of a log

A live engine that gives up what the chronicles of its journal give up is rebuilt by the replay of its log:
`Reproduces` says that the replay has the sketches and the sources of the engine, and `Reproduces.applyLocked` that an
observation which is journalled keeps that.
-/

namespace FlowObs

namespace Engine

variable {config : EngineConfig} {ds : List SourceDescriptor} {r r' : Engine} {e e' : Engine} {obs : Observation}
variable {C : Chronicles}

/-! ## The log of a run -/

theorem sourceIds_restoreSources (h : e.sources = ∅) {ds : List SourceDescriptor} {id : SourceId} :
    id ∈ (e.restoreSources ds).sourceIds ↔ (lastFor ds id).isSome = true := by
  rw [mem_sourceIds, restoreSources]
  show ((ds.foldl _ e.sources).find? id).isSome = true ↔ _
  rw [find?_setAll, h]
  cases lastFor ds id <;> simp

theorem serves_restoreSources (h : e.sources = ∅) (ds : List SourceDescriptor) (id : SourceId) :
    (e.restoreSources ds).Serves id := by
  intro s hs
  simp only [restoreSources] at hs
  rw [find?_setAll, h] at hs
  cases hl : lastFor ds id with
  | none =>
    rw [hl] at hs
    cases hs
  | some d =>
    rw [hl] at hs
    cases hs
    rfl

/-- An engine that starts to replay a log with the descriptors. -/
def replayStart (config : EngineConfig) (ds : List SourceDescriptor) : Engine :=
  ({ config := config, replaying := true } : Engine).restoreSources ds

/-- An engine that holds nothing starts a replay. -/
theorem replays_restored {q : Engine} (hconfig : q.config = config) (hflows : q.flows = ∅) (hsources : q.sources = ∅)
    (ds : List SourceDescriptor) (previous : RuntimeEpoch) :
    Replays config ds { q.restoreSources ds with replaying := true, replayEpoch := previous } := by
  have hfind : ∀ id, (q.restoreSources ds).sources.find? id
      = (lastFor ds id).map (fun d => ({ descriptor := d, registeredAt := q.openedAt } : SourceState)) := by
    intro id
    rw [restoreSources]
    show (ds.foldl _ q.sources).find? id = _
    rw [find?_setAll, hsources]
    exact Option.or_none
  have hnone : ∀ {P : FlowRuntime → Prop},
      ({ q.restoreSources ds with replaying := true, replayEpoch := previous } : Engine).EachFlow P := by
    intro P id f hf
    have hgone : q.flows.find? id = some f := hf
    rw [hflows] at hgone
    cases hgone
  refine ⟨hconfig, rfl, serves_restoreSources hsources ds, fun id hid => ?_, fun id s hs => ?_, hnone, hnone, hnone, ?_⟩
  · show ((q.restoreSources ds).sources.find? id).isSome = true
    rwa [hfind, Option.isSome_map]
  · have hs' : (q.restoreSources ds).sources.find? id = some s := hs
    rw [hfind] at hs'
    obtain ⟨d, hd, rfl⟩ := Option.map_eq_some_iff.1 hs'
    rw [granted, hd]
    exact ⟨rfl, rfl⟩
  · exact holds_iff.2 fun flow f hf =>
      hnone (P := fun _ => ∀ gen source b, f.binding? gen source = some b → b.Unconfirmed ds)
      flow f hf

theorem replays_start (config : EngineConfig) (ds : List SourceDescriptor) :
    Replays config ds (replayStart config ds) :=
  replays_restored (q := { config := config, replaying := true }) rfl rfl rfl ds default

/-- An engine that has replayed a log. -/
def rebuilt (config : EngineConfig) (log : List LogEntry) : Engine :=
  Run.exec replayOne (replayStart config (declared log)) (observed log)

/-- Replaying the journal gives the sketches of the engine, and leaves its flows as the chronicles tell. -/
structure Reproduces (e : Engine) (log : List LogEntry) (C : Chronicles) : Prop where
  logs : e.Logs log
  live : e.replaying = false
  declares : DeclaresOnce e.config.limits log
  recorded : ∀ o ∈ observed log, o.Recorded e.config.limits
  sketches : (rebuilt e.config log).SameSketches e
  sources : (rebuilt e.config log).sourceIds = e.sourceIds
  told : C.Tell (rebuilt e.config log)

/-- An observation that is read back and applied again alike: its keys are within the bound of the decoder, its source
is not retired, its instant of receipt is known, and what is given up for it the chronicles give up. -/
structure Replayable (C : Chronicles) (e : Engine) (incoming : Observation) : Prop where
  bounded : incoming.subject.KeysBounded e.config.limits
  serves : e.Serves incoming.key.source
  received : (prepare e.instant incoming).receivedAt.known = true
  chosen : e.Admits incoming.key.source → ChoosesBy C e (prepare e.instant incoming)

variable {log : List LogEntry} {incoming : Observation}

/-- What keeps the log, the sketches and the sources. -/
theorem Reproduces.keep (h : e.Reproduces log C) (hlogs : e'.Logs log) (hlive : e'.replaying = e.replaying)
    (hsketches : e.SameSketches e') (hsources : e'.sourceIds = e.sourceIds) : e'.Reproduces log C := by
  refine ⟨hlogs, hlive.trans h.live, ?_, ?_, ?_, ?_, ?_⟩ <;> rw [← hsketches.config]
  · exact h.declares
  · exact h.recorded
  · exact h.sketches.trans hsketches
  · exact h.sources.trans hsources.symm
  · exact h.told

theorem Reproduces.of_same (h : e.Reproduces log C) (hfile : e.SameFile e') (hlive : e'.replaying = e.replaying)
    (hsketches : e.SameSketches e') (hsources : e'.sourceIds = e.sourceIds) : e'.Reproduces log C :=
  h.keep (h.logs.of_same hfile) hlive hsketches hsources

theorem SameTables.sameSketches (h : e.SameTables e') : e.SameSketches e' := by
  obtain ⟨_, _, _, rfl⟩ := h
  exact ⟨rfl, rfl, rfl⟩

theorem Reproduces.of_tables (h : e.Reproduces log C) (hsame : e.SameTables e') (hlogs : e'.Logs log) :
    e'.Reproduces log C := by
  obtain ⟨_, _, _, rfl⟩ := hsame
  exact h.keep hlogs rfl ⟨rfl, rfl, rfl⟩ rfl

theorem Reproduces.replays (h : e.Reproduces log C) : Replays e.config (declared log) (rebuilt e.config log) :=
  (replays_start _ _).run h.recorded

/-! ## What an engine shares with its replay -/

/-- The bindings of every flow have a fold, and a source that is registered, and every flow has its current
generation. -/
structure Folded (e : Engine) : Prop where
  registered : e.EachFlow (Registered e.sources)
  cached : e.EachFlow FlowRuntime.Cached
  headed : e.Headed

theorem Replays.folded (h : Replays config ds r) : r.Folded := ⟨h.registered, h.cached, h.headed⟩

/-- A flow has the sketch of a flow of an engine with the same sketches. -/
theorem SameSketches.flow (h : e.SameSketches e') {flow : FlowId} {f' : FlowRuntime}
    (hf' : e'.flows.find? flow = some f') :
    ∃ f, e.flows.find? flow = some f ∧ f.sketch = f'.sketch := by
  have hfind := h.find? flow
  rw [hf', Option.map_some] at hfind
  exact Option.map_eq_some_iff.1 hfind

/-- Its bindings have the sketches of bindings of that flow. -/
theorem SameSketches.binding (h : e.SameSketches e') {flow : FlowId} {f' : FlowRuntime} {gen : GenerationId}
    {source : SourceId} {b' : SourceBinding} (hf' : e'.flows.find? flow = some f')
      (hb' : f'.binding? gen source = some b') :
    ∃ f b, e.flows.find? flow = some f ∧ f.binding? gen source = some b ∧ b.sketch = b'.sketch := by
  obtain ⟨f, hf, hsketch⟩ := h.flow hf'
  have hfind := f.binding?_sketch gen source
  rw [hsketch, f'.binding?_sketch, hb', Option.map_some] at hfind
  obtain ⟨b, hb, hboth⟩ := Option.map_eq_some_iff.1 hfind.symm
  exact ⟨f, b, hf, hb, hboth⟩

/-- What an engine with the same sketches and the same sources shares. -/
theorem Folded.of_sketches (h : e.Folded) (hsketches : e.SameSketches e') (hsources : e.sourceIds = e'.sourceIds) :
    e'.Folded := by
  refine ⟨fun flow f' hf' gen source b' hb' => ?_, fun flow f' hf' gen source b' hb' => ?_, fun flow f' hf' => ?_⟩
  · obtain ⟨f, b, hf, hb, hsketch⟩ := hsketches.binding hf' hb'
    have hknown := mem_sourceIds.2 (h.registered flow f hf gen source b hb)
    rw [hsources, mem_sourceIds] at hknown
    rwa [← b'.sketch_source, ← hsketch, b.sketch_source]
  · obtain ⟨f, b, hf, hb, hsketch⟩ := hsketches.binding hf' hb'
    have hcached := h.cached flow f hf gen source b hb
    have hsome : ∀ b : SourceBinding, b.sketch.cached.isSome = b.cached.isSome := fun b => Option.isSome_map
    rwa [← hsome, hsketch, hsome] at hcached
  · obtain ⟨f, hf, hsketch⟩ := hsketches.flow hf'
    obtain ⟨hgreatest, hretained⟩ := h.headed flow f hf
    have hcurrent : f.sketch.currentGeneration = f'.sketch.currentGeneration := by rw [hsketch]
    change f.currentGeneration = f'.currentGeneration at hcurrent
    have hsome := FlowRuntime.isSome_of_sketch hsketch
    refine ⟨fun gen hgen => ?_, ?_⟩
    · rw [← hcurrent]
      exact hgreatest gen ((hsome gen).trans hgen)
    · rw [← hcurrent]
      refine hretained.imp (fun hfound => (hsome _).symm.trans hfound) (fun ⟨hnone, hunset⟩ => ⟨fun gen => ?_, hunset⟩)
      refine Option.not_isSome_iff_eq_none.1 fun hfound => ?_
      rw [← hsome gen, hnone gen] at hfound
      cases hfound

theorem Reproduces.folded (h : e.Reproduces log C) : e.Folded := h.replays.folded.of_sketches h.sketches h.sources

/-! ## Observations that are journalled -/

theorem rebuilt_concat (config : EngineConfig) (log : List LogEntry) (obs : Observation) :
    rebuilt config (log ++ [.observation obs]) = replayOne (rebuilt config log) obs.bare := by
  rw [rebuilt, declared_append, observed_append, Run.exec_append]
  show Run.exec replayOne (Run.exec replayOne (replayStart config (declared log ++ [])) _) [obs.bare] = _
  rw [List.append_nil]
  rfl

theorem Reproduces.admits (h : e.Reproduces log C) (source : SourceId) :
    e.Admits source ↔ (rebuilt e.config log).Admits source := by
  rw [Admits, Admits, h.sources, h.replays.config]

/-- An observation that the engine takes is replayed as it was applied. -/
theorem Reproduces.taken (h : e.Reproduces log C) (hsame : e.SameTables e') (hrec : obs.bare.Recorded e.config.limits)
    (hserves : e.Serves obs.key.source) (ha : e.Admits obs.key.source) (hchosen : ChoosesBy C e obs)
      (atTime : Timestamp)
    (hregistered : (e'.applyJournaled atTime obs).1.EachFlow (Registered (e'.applyJournaled atTime obs).1.sources)) :
    (e'.applyJournaled atTime obs).1.SameSketches (replayOne (rebuilt e.config log) obs.bare) := by
  have hr := h.replays
  have hchoices : e.SameChoices (rebuilt e.config log) obs := h.sketches.symm.choices hchosen h.told
  have hafter := (hr.step hrec).registered
  have heq := replayOne_recorded hr.replaying (by rw [hr.config]; exact hrec)
  have hboth := hsame.sameSketches.symm.trans h.sketches.symm
  have hat : e'.SameSketches ((rebuilt e.config log).replayAt obs.bare) :=
    ⟨hboth.config, hboth.flows, hboth.registries⟩
  rw [heq] at hafter ⊢
  obtain ⟨_, _, _, rfl⟩ := hsame
  exact hat.applyJournaled ⟨hchoices.flow, hchoices.generation⟩ atTime obs.receivedAt [] hserves (hr.serves _) ha
    ((h.admits _).1 ha) hregistered hafter

/-- An observation that is in the journal leaves the engine as its replay leaves what is rebuilt. -/
theorem Reproduces.replayed (h : e.Reproduces log C) (hsame : e.SameTables e')
    (hrec : obs.bare.Recorded e.config.limits)
    (hserves : e.Serves obs.key.source) (hchosen : e.Admits obs.key.source → ChoosesBy C e obs) (atTime : Timestamp)
    (hregistered : (e'.applyJournaled atTime obs).1.EachFlow (Registered (e'.applyJournaled atTime obs).1.sources)) :
    (replayOne (rebuilt e.config log) obs.bare).SameSketches (e'.applyJournaled atTime obs).1 ∧
      (replayOne (rebuilt e.config log) obs.bare).sourceIds = (e'.applyJournaled atTime obs).1.sourceIds ∧
      (C.next (declared log) e obs (e'.applyJournaled atTime obs).1).Tell
        (replayOne (rebuilt e.config log) obs.bare) := by
  have hr := h.replays
  have hids' : e'.sourceIds = e.sourceIds := by rw [sourceIds, sourceIds, hsame.sameState.sources]
  have hadmits' : e'.Admits obs.key.source ↔ e.Admits obs.key.source := by
    rw [Admits, Admits, hids', hsame.sameState.config]
  have hserves' : e'.Serves obs.key.source := by
    rw [Serves, hsame.sameState.sources]
    exact hserves
  rcases sourceIds_replayOne hr hrec with ⟨ha, hids⟩ | ⟨ha, hids, hflows, hregistries⟩
  · have ha' := (h.admits _).2 ha
    have hsketches := h.taken hsame hrec hserves ha' (hchosen ha') atTime hregistered
    have hchoices : e.SameChoices (rebuilt e.config log) obs := h.sketches.symm.choices (hchosen ha') h.told
    refine ⟨hsketches.symm, ?_, ?_⟩
    · rw [hids, sourceIds_applyJournaled atTime hserves' (hadmits'.2 ha'), h.sources, hids']
      rfl
    · rw [h.sketches.symm.next hchoices (h.admits _) hsketches []]
      exact hr.tell hrec h.told
  · have ha' : ¬ e.Admits obs.key.source := fun ha' => ha ((h.admits _).1 ha')
    rw [applyJournaled_refused atTime fun ha => ha' (hadmits'.1 ha), Chronicles.next, if_neg ha']
    have hsketches := h.sketches.trans hsame.sameSketches
    refine ⟨⟨(hr.step hrec).config.trans hsame.sameSketches.config, ?_, ?_⟩, (hids.trans h.sources).trans hids'.symm,
      fun id f hf => h.told id f (hflows ▸ hf)⟩
    · rw [hflows]
      exact hsketches.flows
    · rw [hregistries]
      exact hsketches.registries

/-- An observation that is in the journal, and is replayed as it was applied. -/
theorem Reproduces.applyJournaled (h : e.Reproduces log C) (hsame : e.SameTables e')
    (hlogs : e'.Logs (log ++ [.observation obs])) (hrec : obs.bare.Recorded e.config.limits)
    (hserves : e.Serves obs.key.source) (hchosen : e.Admits obs.key.source → ChoosesBy C e obs) (atTime : Timestamp)
    (hregistered : (e'.applyJournaled atTime obs).1.EachFlow (Registered (e'.applyJournaled atTime obs).1.sources)) :
    (e'.applyJournaled atTime obs).1.Reproduces (log ++ [.observation obs])
      (C.next (declared log) e obs (e'.applyJournaled atTime obs).1) := by
  have hconfig : (e'.applyJournaled atTime obs).1.config = e.config :=
    (applyJournaled_frame (·.config) (fun _ _ _ _ _ => rfl) e' atTime obs).trans hsame.sameState.config
  have hlive : (e'.applyJournaled atTime obs).1.replaying = e.replaying :=
    (applyJournaled_frame (·.replaying) (fun _ _ _ _ _ => rfl) e' atTime obs).trans hsame.sameState.replaying
  have hdeclared : declared (log ++ [.observation obs]) = declared log := by
    rw [declared_append]
    exact List.append_nil _
  obtain ⟨hsketches, hids, htold⟩ := h.replayed hsame hrec hserves hchosen atTime hregistered
  refine ⟨hlogs.of_same (sameFile_applyJournaled _ _ _), hlive.trans h.live, ?_, ?_, ?_, ?_, ?_⟩ <;> rw [hconfig]
  · exact ⟨hdeclared ▸ h.declares.keys, hdeclared ▸ h.declares.once⟩
  · intro o ho
    rw [observed_append] at ho
    rcases List.mem_append.1 ho with ho | ho
    · exact h.recorded o ho
    · rw [List.mem_singleton.1 ho]
      exact hrec
  all_goals rw [rebuilt_concat]
  · exact hsketches
  · exact hids
  · exact htold

/-- The chronicles after an incoming observation: the journal tells what is in it. -/
def chroniclesAfter (ds : List SourceDescriptor) (C : Chronicles) (e : Engine) (incoming : Observation) : Chronicles :=
  if (validateObservation e.config.limits incoming).isOk &&
    (e.received.appendObservation (prepare e.instant incoming)).2.isOk
  then C.next ds e (prepare e.instant incoming) (e.applyLocked incoming).1 else C

/-- **Applying an observation** that can be applied again alike: the replay of the log follows. -/
theorem Reproduces.applyLocked (h : e.Reproduces log C)
    (hseq : (e.applyLocked incoming).1.snapshotSequence = e.snapshotSequence)
    (hcond : e.Appends incoming → Replayable C e incoming) : ∃ more, declared more = [] ∧
      (e.applyLocked incoming).1.Reproduces (log ++ more) (chroniclesAfter (declared log) C e incoming) := by
  have hstay : ∀ e' : Engine, e'.Reproduces log C → ∃ more, declared more = [] ∧
      e'.Reproduces (log ++ more) C := fun e' he' =>
    ⟨[], rfl, by rwa [List.append_nil]⟩
  have hregistered := registered_applyLocked h.folded.registered incoming
  have hreceived : e.received.Reproduces log C := h.of_same ⟨rfl, rfl, rfl⟩ rfl ⟨rfl, rfl, rfl⟩ rfl
  unfold chroniclesAfter
  cases hv : validateObservation e.config.limits incoming with
  | error err =>
    rw [applyLocked_invalid hv, if_neg (by simp [Except.isOk, Except.toBool])]
    exact hstay _ (hreceived.of_same ⟨rfl, rfl, rfl⟩ rfl ⟨rfl, rfl, rfl⟩ rfl)
  | ok _ =>
    have hsame := sameTables_appendObservation e.received (prepare e.instant incoming)
    have happend : (e.received.appendObservation (prepare e.instant incoming)).1.snapshotSequence
        = e.received.snapshotSequence := by
      cases hj : (e.received.appendObservation (prepare e.instant incoming)).2 with
      | error err =>
        rw [applyLocked_unjournaled hv h.live hj] at hseq
        exact hseq
      | ok _ =>
        rw [applyLocked_journaled hv h.live hj] at hseq
        have hframe := applyJournaled_frame (·.snapshotSequence) (fun _ _ _ _ _ => rfl)
          (e.received.appendObservation (prepare e.instant incoming)).1 e.instant (prepare e.instant incoming)
        exact hframe.symm.trans hseq
    rcases logs_appendObservation happend hreceived.logs with ⟨hj, hlogs⟩ | ⟨hj, hlogs⟩
    · rw [applyLocked_journaled hv h.live hj] at hregistered ⊢
      rw [if_pos (by rw [hj]; rfl)]
      have hjournaled : e.journal.isSome = true := by
        obtain ⟨j, hjournal, -⟩ := h.logs.file
        rw [hjournal]
        rfl
      have happlied := hcond ⟨hjournaled, h.live, hv, hj⟩
      have hall := h.applyJournaled ((SameTables.count e _).trans hsame) hlogs
        (recorded_prepare hv happlied.bounded happlied.received) happlied.serves happlied.chosen e.instant hregistered
      exact ⟨_, rfl, hall⟩
    · obtain ⟨err, herr⟩ : ∃ err, (e.received.appendObservation (prepare e.instant incoming)).2 = .error err := by
        cases hr : (e.received.appendObservation (prepare e.instant incoming)).2 with
        | ok _ =>
          rw [hr] at hj
          cases hj
        | error err => exact ⟨err, rfl⟩
      rw [applyLocked_unjournaled hv h.live herr, if_neg (by simp [hj])]
      exact hstay _ ((hreceived.of_tables hsame hlogs).of_same ⟨rfl, rfl, rfl⟩ rfl ⟨rfl, rfl, rfl⟩ rfl)

/-- What the journal tells after a batch of observations. -/
def chroniclesAfterAll (ds : List SourceDescriptor) (C : Chronicles) (ps : List (Engine × Observation)) : Chronicles :=
  Run.exec (fun C (p : Engine × Observation) => chroniclesAfter ds C p.1 p.2) C ps

/-- Every observation that the batch journals is applied again alike. -/
def ReplayableAll (ds : List SourceDescriptor) (C : Chronicles) (ps : List (Engine × Observation)) : Prop :=
  Run.Along (fun C (p : Engine × Observation) => chroniclesAfter ds C p.1 p.2)
    (fun C p => p.1.Appends p.2 → Replayable C p.1 p.2) C ps

/-- **A batch** of observations that can be applied again alike. -/
theorem Reproduces.batch : ∀ {batch : List Observation} {e : Engine} {log : List LogEntry} {C : Chronicles},
    e.Reproduces log C → (∀ p ∈ e.batchApplications batch, (p.1.applyLocked p.2).1.snapshotSequence =
      p.1.snapshotSequence) →
    ReplayableAll (declared log) C (e.batchApplications batch) → ∃ more, declared more = [] ∧
      (batch.foldl (fun (e : Engine) obs => (e.applyLocked obs).1) e).Reproduces (log ++ more)
        (chroniclesAfterAll (declared log) C (e.batchApplications batch))
  | [], e, log, C, h, _, _ => ⟨[], rfl, by rw [List.append_nil]; exact h⟩
  | obs :: batch, e, log, C, h, hseq, hcond => by
    obtain ⟨more, hmore, hnext⟩ := h.applyLocked (hseq (e, obs) List.mem_cons_self) hcond.1
    have hdeclared : declared (log ++ more) = declared log := by rw [declared_append, hmore, List.append_nil]
    obtain ⟨rest, hrest, hdone⟩ := hnext.batch (fun p hp => hseq p (List.mem_cons_of_mem _ hp))
      (by rw [hdeclared]; exact hcond.2)
    refine ⟨more ++ rest, by rw [declared_append, hmore, hrest]; rfl, ?_⟩
    rw [hdeclared, List.append_assoc] at hdone
    exact hdone

end Engine

end FlowObs
