import FlowObs.Engine.Reproduced

/-!
# When a restart brings back the accounting

The journal holds the observations that were applied and the sources that were registered while they were unknown.
Retirements, evictions and the clock are not in it. So closing and opening an engine gives every binding back, with the
fold of its ledger, in every run in which no evidence is retired, no retired source is heard, every observation is
journalled with a known instant of receipt, and what is given up for room is what the journal tells to give up
(`replay_reproduces`), and not in every run (`retired_evidence_returns`).
-/

namespace FlowObs

/-- The sketch of a flow whose folds are cached is settled. -/
theorem FlowRuntime.settle_sketch {f : FlowRuntime} (hheaded : f.Headed) (hcached : f.Cached)
    (counters : CounterPolicy) :
    f.sketch.settle counters = f.sketch := by
  have hheading : f.sketch.heading = f.currentGeneration := by
    unfold heading
    rcases hheaded.retained with hsome | ⟨hnone, -⟩
    · exact if_pos (by rw [f.find?_sketch, Option.isSome_map]; exact hsome)
    · have hempty : f.sketch.generations.toList = [] := by
        refine List.eq_nil_iff_forall_not_mem.2 fun g hg => ?_
        have hfound := SortedVec.find?_of_mem hg
        rw [f.find?_sketch, hnone, Option.map_none] at hfound
        cases hfound
      rw [hempty]
      split <;> rfl
  have hgenerations : f.sketch.generations.map (GenerationRuntime.settle counters)
    (GenerationRuntime.settle_id counters)
      = f.sketch.generations := by
    refine SortedVec.ext_find? fun gen => ?_
    rw [SortedVec.find?_map, f.find?_sketch]
    cases hg : f.generations.find? gen with
    | none => rfl
    | some g =>
      have hbindings : g.sketch.bindings.map (SourceBinding.settle counters) (SourceBinding.settle_source counters)
          = g.sketch.bindings := by
        refine SortedVec.ext_find? fun source => ?_
        rw [SortedVec.find?_map, g.find?_sketch]
        cases hb : g.bindings.find? source with
        | none => rfl
        | some b =>
          have hfold := hcached gen source b (by rw [binding?, hg, Option.bind_some, hb])
          obtain ⟨v, hv⟩ := Option.isSome_iff_exists.1 hfold
          simp only [Option.map_some, SourceBinding.settle, SourceBinding.sketch, hv, Option.getD_some]
      simp only [Option.map_some, GenerationRuntime.settle, hbindings]
  have hall : f.sketch.settle counters = { f.sketch with
      currentGeneration := f.sketch.heading
      generations := f.sketch.generations.map (GenerationRuntime.settle counters)
        (GenerationRuntime.settle_id counters) } :=
    rfl
  rw [hall, hheading, hgenerations]
  rfl

namespace Engine

variable {e e' : Engine} {log : List LogEntry} {op : Op} {C : Chronicles} {ds : List SourceDescriptor}

/-! ## What leaves the ledgers alone -/

theorem sameLedgers_recomputeAll (e : Engine) (atTime : Timestamp) (due : FlowRuntime → Bool) :
    e.SameLedgers (e.recomputeAll atTime due) := by
  have hdue : ∀ f, (e.recomputeDue atTime due f).bare = f.bare := by
    intro f
    unfold recomputeDue
    split
    · exact bare_recomputeFlow _ _ _ _ f
    · rfl
  refine ⟨rfl, SortedVec.ext_find? fun flow => ?_, rfl⟩
  rw [SortedVec.find?_map, SortedVec.find?_map, find?_recomputeAll, Option.map_map]
  exact congrArg (fun h => (e.flows.find? flow).map h) (funext fun f => (hdue f).symm)

theorem sameLedgers_tickLocked (e : Engine) (evaluatedAt : Timestamp) : e.SameLedgers (e.tickLocked evaluatedAt) := by
  have hset : e.SameLedgers { e with evaluationOverride := evaluatedAt } := ⟨rfl, rfl, rfl⟩
  have hall := hset.trans (sameLedgers_recomputeAll { e with evaluationOverride := evaluatedAt } evaluatedAt tickDue)
  exact ⟨hall.config, hall.flows, hall.registries⟩

/-- Recomputing keeps the sketches of an engine that is folded. -/
theorem Folded.sameSketches_recomputeAll (h : e.Folded) (atTime : Timestamp) (due : FlowRuntime → Bool) :
    e.SameSketches (e.recomputeAll atTime due) := by
  refine ⟨rfl, SortedVec.ext_find? fun flow => ?_, rfl⟩
  rw [SortedVec.find?_map, SortedVec.find?_map, find?_recomputeAll, Option.map_map]
  cases hf : e.flows.find? flow with
  | none => rfl
  | some f =>
    have hsketch : (e.recomputeDue atTime due f).sketch = f.sketch := by
      unfold recomputeDue
      split
      · rw [sketch_recomputeFlow (h.registered flow f hf),
          FlowRuntime.settle_sketch (h.headed flow f hf) (h.cached flow f hf)]
      · rfl
    exact congrArg some hsketch.symm

/-- A source without evidence leaves none behind when it is retired. -/
theorem sameSketches_dropped (s : SourceState) {id : SourceId} (h : ∀ flow gen, e.binding? flow gen id = none) :
    e.SameSketches (e.dropped s id) := by
  refine ⟨rfl, SortedVec.ext_find? fun flow => ?_, rfl⟩
  rw [SortedVec.find?_map, SortedVec.find?_map, find?_dropped]
  cases hf : e.flows.find? flow with
  | none => rfl
  | some f =>
    have hgeneration : f.generations.map (dropBinding id) (dropBinding_id id) = f.generations := by
      refine SortedVec.ext_find? fun gen => ?_
      rw [SortedVec.find?_map]
      cases hg : f.generations.find? gen with
      | none => rfl
      | some g =>
        have hnone : g.bindings.find? id = none := by
          have hbinding := h flow gen
          rwa [binding?, hf, Option.bind_some, FlowRuntime.binding?, hg, Option.bind_some] at hbinding
        have herase : g.bindings.erase id = g.bindings := by
          refine SortedVec.ext_find? fun source => ?_
          rw [SortedVec.find?_erase]
          split
          · rename_i hid
            rw [← hid, hnone]
          · rfl
        simp only [Option.map_some, dropBinding, herase]
    simp only [Option.map_some, dropSource, hgeneration]

theorem sourceIds_set_known {s : SourceState} (h : s.id ∈ e.sourceIds) :
    ({ e with sources := e.sources.set s } : Engine).sourceIds = e.sourceIds := by
  rw [sourceIds_set, Finset.insert_eq_of_mem h]

/-! ## Operations -/

/-- The descriptors that the operation journals: that of a source that was unknown. -/
def declarations (e : Engine) : Op → List SourceDescriptor
  | .registerSource d => if (e.registerSource d).2.isOk && (e.sources.find? d.id).isNone then [d] else []
  | _ => []

/-- The step is replayed alike, with the chronicles that the journal tells before it: so is every observation that it
applies, and a source that it retires has no evidence. -/
structure ReplayedAlike (ds : List SourceDescriptor) (C : Chronicles) (e : Engine) (op : Op) : Prop where
  applied : ReplayableAll ds C (e.applications op)
  retired : ∀ id, op = .retireSource id → ∀ flow gen, e.binding? flow gen id = none

/-- Replaying the journal gives the sketches of `e'` if it gives those of `e`. -/
def Follows (e e' : Engine) : Prop :=
  ∀ log C, e.Reproduces log C → ∃ more, declared more = [] ∧ e'.Reproduces (log ++ more) C

theorem Follows.of_same (hfile : e.SameFile e') (hlive : e'.replaying = e.replaying) (hsketches : e.SameSketches e')
    (hsources : e'.sourceIds = e.sourceIds) : e.Follows e' := fun _ _ h =>
  ⟨[], rfl, by rw [List.append_nil]; exact h.of_same hfile hlive hsketches hsources⟩

theorem Follows.of_state (hfile : e.SameFile e') (hsame : e.SameState e') : e.Follows e' :=
  .of_same hfile hsame.replaying ⟨hsame.config.symm, by rw [hsame.flows], hsame.registries.symm⟩
    (by rw [sourceIds, sourceIds, hsame.sources])

theorem Follows.trans {e'' : Engine} (h : e.Follows e') (h' : e'.Follows e'') : e.Follows e'' := by
  intro log C hlog
  obtain ⟨more, hmore, hnext⟩ := h log C hlog
  obtain ⟨rest, hrest, hdone⟩ := h' _ C hnext
  refine ⟨more ++ rest, by rw [declared_append, hmore, hrest]; rfl, ?_⟩
  rwa [List.append_assoc] at hdone

theorem follows_recomputeAll (e : Engine) (atTime : Timestamp) (due : FlowRuntime → Bool) :
    e.Follows (e.recomputeAll atTime due) := by
  intro log C h
  have hsketches := h.folded.sameSketches_recomputeAll atTime due
  refine ⟨[], rfl, ?_⟩
  rw [List.append_nil]
  exact h.of_same ⟨rfl, rfl, rfl⟩ rfl hsketches rfl

/-- The operations that apply no observation. -/
theorem follows_quiet (hop : e.Uncompacted op)
    (hretired : ∀ id, op = .retireSource id → ∀ flow gen, e.binding? flow gen id = none)
    (hquiet : e.applications op = []) (hother : ∀ d, op ≠ .registerSource d) : e.Follows (e.step op) := by
  refine unregistered_rule (R := Follows) (fun hfile hsame => .of_state hfile hsame) (fun h h' => h.trans h')
    follows_recomputeAll ?_ (fun p hp => ?_) (fun id s hretire hs => ?_) ?_ hother
  · intro log C h
    refine ⟨[], rfl, ?_⟩
    rw [List.append_nil]
    exact h.keep (logs_flush h.logs) rfl ⟨rfl, rfl, rfl⟩ rfl
  · rw [hquiet] at hp
    cases hp
  · refine Follows.of_same ⟨rfl, rfl, rfl⟩ rfl (sameSketches_dropped s (hretired id hretire)) ?_
    have hknown : s.id ∈ e.sourceIds := mem_sourceIds.2 (by rw [SortedVec.find?_key hs, hs]; rfl)
    exact sourceIds_set_known (s := { s with retired := true }) hknown
  · rintro rfl log C h
    have hseq : e.compactLocked.1.snapshotSequence = e.snapshotSequence := hop.asked rfl
    exact Follows.of_state (compactLocked_counted h.logs hseq).1 (sameTables_compactLocked e).sameState log C h

/-- The operation applies a batch of observations, if only of one, and changes nothing else that the journal tells. -/
def Batches (e : Engine) (op : Op) : Prop :=
  ∃ (e₁ : Engine) (batch : List Observation), e.SameFile e₁ ∧ e.SameState e₁ ∧
  e.applications op = e₁.batchApplications batch ∧
  (batch.foldl (fun (e : Engine) obs => (e.applyLocked obs).1) e₁).SameFile (e.step op) ∧
  (batch.foldl (fun (e : Engine) obs => (e.applyLocked obs).1) e₁).SameState (e.step op)

theorem Batches.of_eq (batch : List Observation) (happs : e.applications op = e.batchApplications batch)
    (hstep : e.step op = batch.foldl (fun (e : Engine) obs => (e.applyLocked obs).1) e) : e.Batches op :=
  ⟨e, batch, ⟨rfl, rfl, rfl⟩, .refl e, happs, hstep ▸ ⟨rfl, rfl, rfl⟩, hstep ▸ .refl _⟩

/-- **Every operation** applies a batch, registers a source, or applies nothing. -/
theorem batches_step (e : Engine) (op : Op) : e.Batches op ∨ e.applications op = [] := by
  cases op with
  | ingest obs =>
    rcases ingest_cases e obs with ⟨happs, -⟩ | ⟨happs, he⟩
    · exact .inr happs
    · exact .inl (.of_eq [obs] happs he)
  | submit obs =>
    rcases submit_cases e obs with ⟨happs, -⟩ | ⟨happs, he⟩
    · exact .inr happs
    · exact .inl (.of_eq [e.prepareSubmit obs] happs he)
  | work batch =>
    exact .inl ⟨e, batch, ⟨rfl, rfl, rfl⟩, .refl e, rfl, ⟨rfl, rfl, rfl⟩, ⟨rfl, rfl, rfl, rfl, rfl, rfl⟩⟩
  | drain n =>
    cases hopen : e.isOpen with
    | false => exact .inr (if_neg (by rw [hopen]; exact Bool.false_ne_true))
    | true =>
      refine .inl ⟨{ e with queue := e.queue.drop n }, e.queue.take n, ⟨rfl, rfl, rfl⟩, sameState_taken e n,
        if_pos hopen, ?_⟩
      simp only [step, drain, hopen, Bool.not_true, Bool.false_eq_true, if_false]
      split
      · rename_i hempty
        rw [List.isEmpty_iff.1 hempty]
        exact ⟨⟨rfl, rfl, rfl⟩, .refl _⟩
      · exact ⟨⟨rfl, rfl, rfl⟩, ⟨rfl, rfl, rfl, rfl, rfl, rfl⟩⟩
  | _ => exact .inr rfl

/-- **Every operation but a registration** that is replayed alike. -/
theorem Reproduces.step (h : e.Reproduces log C) (hop : e.Uncompacted op) (hcond : e.ReplayedAlike (declared log) C op)
    (hother : ∀ d, op ≠ .registerSource d) : ∃ more, declared more = [] ∧
      (e.step op).Reproduces (log ++ more) (chroniclesAfterAll (declared log) C (e.applications op)) := by
  rcases batches_step e op with ⟨e₁, batch, hfile, hstate, happs, hfile', hstate'⟩ | hquiet
  · obtain ⟨more, hmore, hstart⟩ := Follows.of_state hfile hstate log C h
    have hdeclared : declared (log ++ more) = declared log := by rw [declared_append, hmore, List.append_nil]
    have happlied := hcond.applied
    have hseq := hop.applied
    rw [happs] at happlied hseq ⊢
    obtain ⟨rest, hrest, hdone⟩ := hstart.batch hseq (by rwa [hdeclared])
    obtain ⟨last, hlast, hend⟩ := Follows.of_state hfile' hstate' _ _ hdone
    rw [hdeclared] at hend
    refine ⟨more ++ (rest ++ last), by rw [declared_append, declared_append, hmore, hrest, hlast]; rfl, ?_⟩
    rwa [← List.append_assoc, ← List.append_assoc]
  · have hfollows := follows_quiet hop hcond.retired hquiet hother log C h
    rwa [hquiet]

theorem sameSketches_registerSource (e : Engine) (d : SourceDescriptor) :
    e.SameSketches (e.registerSource d).1 ∧ (e.registerSource d).1.replaying = e.replaying := by
  have happend := sameTables_appendSource e d
  have hcases := registerSource_cases e d
  generalize e.registerSource d = result at hcases ⊢
  cases hcases with
  | known => exact ⟨⟨rfl, rfl, rfl⟩, rfl⟩
  | unjournaled _ _ _ hj =>
    rw [hj] at happend
    exact ⟨happend.sameSketches, happend.sameState.replaying⟩
  | fresh _ _ _ _ hj =>
    rw [hj] at happend
    have hsketches := happend.sameSketches
    exact ⟨⟨hsketches.config, hsketches.flows, hsketches.registries⟩, happend.sameState.replaying⟩
  | _ => exact ⟨.refl e, rfl⟩

/-- An unknown source is registered only where there is room. -/
theorem room_of_registered {d : SourceDescriptor} (hok : (e.registerSource d).2 = .ok ())
    (hnone : e.sources.find? d.id = none) :
    e.sourceIds.card < e.config.limits.maxSources.toNat := by
  rw [card_sourceIds]
  have hcases := registerSource_cases e d
  generalize e.registerSource d = result at hcases hok
  cases hcases with
  | known _ _ _ hs => cases hnone.symm.trans hs
  | fresh _ _ _ hroom => exact hroom
  | _ => cases hok

/-- Nothing is in an engine that starts to replay. -/
theorem tell_start (C : Chronicles) (config : EngineConfig) (ds : List SourceDescriptor) :
    C.Tell (replayStart config ds) :=
  fun _ _ hf => by cases hf

/-- A replay that starts with one more descriptor goes beside the replay that starts without it. -/
theorem beside_declared {config : EngineConfig} {l : List Observation} {d : SourceDescriptor}
    (hrec : ∀ o ∈ l, o.Recorded config.limits)
    (hunknown : d.id ∉ (Run.exec replayOne (replayStart config ds) l).sourceIds)
    (hroom : (Run.exec replayOne (replayStart config ds) l).sourceIds.card < config.limits.maxSources.toNat) :
    Beside {d.id} (Run.exec replayOne (replayStart config ds) l)
      (Run.exec replayOne (replayStart config (ds ++ [d])) l) := by
  have hstart : Beside {d.id} (replayStart config ds) (replayStart config (ds ++ [d])) := by
    refine ⟨⟨rfl, rfl, rfl⟩, ?_, fun _ => { touched := {} }, tell_start _ _ _, tell_start _ _ _⟩
    ext id
    rw [Finset.mem_union, Finset.mem_singleton, replayStart, replayStart, sourceIds_restoreSources rfl,
      sourceIds_restoreSources rfl, lastFor_concat]
    split
    · rename_i hid
      simp [hid]
    · rename_i hid
      have hne : id ≠ d.id := fun he => hid he.symm
      simp [hne]
  have hgranted : ∀ source ∉ ({d.id} : Finset SourceId), granted ds source = granted (ds ++ [d]) source := by
    intro source hsource
    have hne : d.id ≠ source := fun he => hsource (Finset.mem_singleton.2 he.symm)
    rw [granted, granted, lastFor_concat, if_neg hne]
  exact hstart.run hgranted hrec (replays_start _ _) (replays_start _ _) (Finset.disjoint_singleton_right.2 hunknown)
    (.inr (by rw [Finset.card_singleton]; exact hroom))

/-- **Registering a source**: the replay of the log follows, with the descriptor of an unknown source from its start. -/
theorem Reproduces.register (h : e.Reproduces log C) (d : SourceDescriptor) : ∃ log',
    declared log' = declared log ++ e.declarations (.registerSource d) ∧ (e.registerSource d).1.Reproduces log' C := by
  obtain ⟨hsketches, hlive⟩ := sameSketches_registerSource e d
  have hconfig := hsketches.config
  rcases logs_register h.logs d with ⟨err, herr, hlogs, hsources⟩ | ⟨hok, s, hs, hsources,
    ⟨⟨known, hknown⟩, hlogs⟩ | ⟨hnone, hlength, hlogs⟩⟩
  · refine ⟨log, ?_, h.keep hlogs hlive hsketches (by rw [sourceIds, sourceIds, hsources])⟩
    rw [declarations, herr]
    exact (List.append_nil _).symm
  · have hids : s.id ∈ e.sourceIds := mem_sourceIds.2 (by rw [hs, hknown]; rfl)
    refine ⟨log, ?_, h.keep hlogs hlive hsketches (by rw [← sourceIds_set_known hids, sourceIds, sourceIds, hsources])⟩
    rw [declarations, hknown, Option.isNone_some, Bool.and_false]
    exact (List.append_nil _).symm
  · have hids : (e.registerSource d).1.sourceIds = insert d.id e.sourceIds := by
      rw [← hs, ← sourceIds_set, sourceIds, sourceIds, hsources]
    have hunknown : d.id ∉ e.sourceIds := by
      rw [mem_sourceIds, hnone]
      exact Bool.false_ne_true
    have hdeclared : declared (log ++ [.source d]) = declared log ++ [d] := declared_append log [.source d]
    have hobserved : observed (log ++ [.source d]) = observed log := by
      rw [observed_append]
      exact List.append_nil _
    have hrun : Beside {d.id} (rebuilt e.config log) (rebuilt e.config (log ++ [.source d])) := by
      rw [rebuilt, rebuilt, hdeclared, hobserved]
      refine beside_declared h.recorded ?_ ?_ <;> rw [← rebuilt, h.sources]
      · exact hunknown
      · exact room_of_registered hok hnone
    refine ⟨log ++ [.source d], ?_, hlogs, hlive.trans h.live, ?_, ?_, ?_, ?_, ?_⟩
    · rw [hdeclared, declarations, hok, hnone]
      rfl
    all_goals rw [← hconfig]
    · constructor
      · rw [hdeclared]
        intro d' hd'
        rcases List.mem_append.1 hd' with hd' | hd'
        · exact h.declares.keys d' hd'
        · exact List.mem_singleton.1 hd' ▸ hlength
      · rw [hdeclared, List.map_append]
        refine List.nodup_append.2 ⟨h.declares.once, List.nodup_singleton _, fun x hx y hy => ?_⟩
        obtain ⟨d', hd', rfl⟩ := List.mem_map.1 hx
        rw [List.map_singleton, List.mem_singleton] at hy
        rintro rfl
        refine hunknown (hy ▸ h.sources ▸ sourceIds_subset_replay (replays_start _ _) h.recorded ?_)
        rw [replayStart, sourceIds_restoreSources rfl, lastFor, List.find?_isSome]
        exact ⟨d', List.mem_reverse.2 hd', beq_self_eq_true _⟩
    · rw [hobserved]
      exact h.recorded
    · exact hrun.sketches.symm.trans (h.sketches.trans hsketches)
    · rw [hrun.sources, hids, Finset.union_comm, ← Finset.insert_eq]
      exact congrArg (insert d.id) h.sources
    · obtain ⟨C', hC, hC'⟩ := hrun.told
      exact Chronicles.Tell.of_common h.told hC hC' hrun.sketches

/-! ## Opening -/

theorem attached_tables {read : Engine} {records : List Record} {previous : RuntimeEpoch}
    (h : e.attached = some (read, records, previous)) : read.registries = e.registries ∧
    read.replaying = e.replaying := by
  unfold attached at h
  split at h
  · cases h
  · split at h
    · cases h
    · cases h
      exact ⟨rfl, rfl⟩

/-- Two engines with the same sketches and the same sources, of which the second is folded. -/
structure Restores (r e : Engine) : Prop where
  sketches : r.SameSketches e
  sources : e.sourceIds = r.sourceIds
  folded : e.Folded

/-- Recomputing the second keeps that. -/
theorem Restores.recomputeAll {r : Engine} (h : r.Restores e) (atTime : Timestamp) (due : FlowRuntime → Bool) :
    r.Restores (e.recomputeAll atTime due) := by
  have hsketches := h.folded.sameSketches_recomputeAll atTime due
  exact ⟨h.sketches.trans hsketches, h.sources, h.folded.of_sketches hsketches rfl⟩

theorem Restores.of_tables {r : Engine} (h : r.Restores e) (hconfig : e'.config = e.config)
    (hflows : e'.flows = e.flows)
    (hsources : e'.sources = e.sources) (hregistries : e'.registries = e.registries) : r.Restores e' := by
  have hsketches : e.SameSketches e' := ⟨hconfig.symm, by rw [hflows], hregistries.symm⟩
  have hids : e'.sourceIds = e.sourceIds := by rw [sourceIds, sourceIds, hsources]
  exact ⟨h.sketches.trans hsketches, hids.trans h.sources, h.folded.of_sketches hsketches hids.symm⟩

theorem Restores.tickLocked {r : Engine} (h : r.Restores e) (evaluatedAt : Timestamp) :
    r.Restores (e.tickLocked evaluatedAt) := by
  have hset : r.Restores { e with evaluationOverride := evaluatedAt } := h.of_tables rfl rfl rfl rfl
  exact (hset.recomputeAll evaluatedAt tickDue).of_tables rfl rfl rfl rfl

/-- A replay of a log by an engine that holds nothing gives what every replay of it gives. -/
theorem restores_replayAll {q : Engine} {config : EngineConfig} (hconfig : q.config = config) (hflows : q.flows = ∅)
    (hsources : q.sources = ∅) (hregistries : q.registries = {}) (hrec : ∀ o ∈ observed log, o.Recorded config.limits)
    (previous : RuntimeEpoch) :
    (rebuilt config log).Restores ((q.restoreSources (declared log)).replayAll previous (observed log)) := by
  have hr := replays_restored hconfig hflows hsources (declared log) previous
  generalize hstart :
    ({ q.restoreSources (declared log) with replaying := true, replayEpoch := previous } : Engine) = start
    at hr
  have hbeside : Beside ∅ (replayStart config (declared log)) start := by
    refine ⟨⟨hr.config.symm, ?_, ?_⟩, ?_, fun _ => { touched := {} }, tell_start _ _ _, fun id f hf => ?_⟩
    · rw [← hstart]
      show (∅ : SortedVec FlowRuntime.id).map _ _ = q.flows.map _ _
      rw [hflows]
    · rw [← hstart]
      exact hregistries.symm
    · ext id
      rw [Finset.union_empty, ← hstart]
      exact (sourceIds_restoreSources (e := q) hsources).trans (sourceIds_restoreSources rfl).symm
    · rw [← hstart] at hf
      have hgone : q.flows.find? id = some f := hf
      rw [hflows] at hgone
      cases hgone
  have hrun := hbeside.run (fun _ _ => rfl) hrec (replays_start _ _) hr (Finset.disjoint_empty_right _) (.inl rfl)
  have hids := hrun.sources
  rw [Finset.union_empty] at hids
  have hdone : (rebuilt config log).Restores (Run.exec replayOne start (observed log)) :=
    ⟨hrun.sketches, hids, (hr.run hrec).folded⟩
  rw [replayAll, hstart]
  exact hdone.of_tables rfl rfl rfl rfl

/-- **Opening an engine that holds nothing** on the log that was left on its disk. -/
theorem opened_reproduces (hpath : e.config.journalPath.isEmpty = false) (hrestore : e.config.restoreOnOpen = true)
    (hflows : e.flows = ∅) (hsources : e.sources = ∅) (hregistries : e.registries = {}) (hlive : e.replaying = false)
    (hfree : e.journal = none) (hd : e.Leaves log)
    (hb : ∀ entry ∈ log, entry.record.payload.length ≤ maxPayload e.config.limits)
    (hdeclares : DeclaresOnce e.config.limits log) (hrec : ∀ o ∈ observed log, o.Recorded e.config.limits)
    (htold : C.Tell (rebuilt e.config log)) (h : e.openEngine.2 = .ok ()) : e.openEngine.1.Reproduces log C := by
  have hvalid := EngineConfig.limits_valid (validate_of_open h)
  obtain ⟨hlogs, -, -⟩ := opened_recovers e log hpath hrestore hflows hfree hd hb hdeclares h
  obtain ⟨read, records, previous, e₁, hattached, hrestored, hopened⟩ := openEngine_attached hpath h
  obtain ⟨rfl, -, hconfig, hreadflows, hreadsources⟩ := attached_logs hfree hd hb hattached
  obtain ⟨hreadregistries, hreadlive⟩ := attached_tables hattached
  have hreplayed : ∀ q : Engine, q.config = e.config → q.flows = ∅ → q.sources = ∅ → q.registries = {} → _ :=
    fun q h₁ h₂ h₃ h₄ =>
    restores_replayAll h₁ h₂ h₃ h₄ hrec previous
  -- what is restored is what the replay leaves
  have hdone : (rebuilt e.config log).Restores e₁ ∧ e₁.replaying = false := by
    by_cases hnil : log = []
    · subst hnil
      rw [if_neg (by simp)] at hrestored
      cases hrestored
      have hall := hreplayed read hconfig (hreadflows.trans hflows) (hreadsources.trans hsources)
        (hreadregistries.trans hregistries)
      exact ⟨hall.of_tables rfl rfl rfl rfl, hreadlive.trans hlive⟩
    · rw [if_pos (by simp [hrestore, hnil])] at hrestored
      cases hreplay : replayRecords (log.map LogEntry.record) read.config.limits read.config.recovery with
      | error err =>
        rw [restoreLocked, hreplay] at hrestored
        cases hrestored
      | ok result =>
        have hwidth := hvalid.lt_width.1
        rw [← hconfig] at hwidth hdeclares hrec
        obtain ⟨hdeclared, hnone, hsnapshot⟩ := replayRecords_log hwidth hdeclares.keys hdeclares.once hreplay
        have hobserved := replayRecords_observed hwidth (fun o ho => (hrec o ho).decodable) hreplay
        simp only [restoreLocked, hreplay, hsnapshot, hnone, restoreFlows, Bool.false_and, Bool.false_eq_true, if_false,
          hdeclared, hobserved] at hrestored
        have hall := hreplayed { read with snapshotSequence := result.state.snapshotSequence } hconfig
          (hreadflows.trans hflows) (hreadsources.trans hsources) (hreadregistries.trans hregistries)
        cases hrestored
        exact ⟨hall.recomputeAll _ _, rfl⟩
  obtain ⟨hrestored, hstopped⟩ := hdone
  have hticked : (rebuilt e.config log).Restores e.openEngine.1 := by
    rw [hopened]
    have hflushed : (rebuilt e.config log).Restores
        { e₁ with journal := e₁.journal.map (·.flush.1), frozen := false, isOpen := true } :=
      hrestored.of_tables rfl rfl rfl rfl
    exact hflushed.tickLocked _
  have hopenlive : e.openEngine.1.replaying = false := by
    rw [hopened]
    exact hstopped
  refine ⟨hlogs, hopenlive, ?_, ?_, ?_, ?_, ?_⟩ <;> rw [open_config]
  · exact hdeclares
  · exact hrec
  · exact hticked.sketches
  · exact hticked.sources.symm
  · exact htold

/-- Closing and opening an engine replays its log. -/
theorem Reproduces.reopened (h : e.Reproduces log C) (hopen : e.isOpen = true)
    (hpath : e.config.journalPath.isEmpty = false)
    (hrestore : e.config.restoreOnOpen = true) (ho : e.close.openEngine.2 = .ok ()) :
    e.close.openEngine.1.Reproduces log C := by
  have hconfig := close_config e
  have hclosed : e.close.sources = ∅ ∧ e.close.registries = {} ∧ e.close.replaying = e.replaying := by
    rw [close, if_neg (by simp [hopen])]
    exact ⟨rfl, rfl, rfl⟩
  obtain ⟨hsources, hregistries, hlive⟩ := hclosed
  refine opened_reproduces ?_ ?_ (close_flows hopen) hsources hregistries (hlive.trans h.live) (close_journal e)
    (close_leaves h.logs) ?_ ?_ ?_ ?_ ho <;> rw [hconfig]
  · exact hpath
  · exact hrestore
  · exact h.logs.bounded
  · exact h.declares
  · exact h.recorded
  · exact h.told

/-! ## Runs -/

/-- A run of operations and restarts of a journaled engine that is not compacted, with what its journal tells: the
descriptors in it, and the chronicles of the flows. -/
inductive ToldBy (cond : List SourceDescriptor → Chronicles → Engine → Op → Prop) :
    Engine → List SourceDescriptor → Chronicles → Prop
  | opened (config : EngineConfig) (clock : Timestamp) (hpath : config.journalPath.isEmpty = false)
    (h : ({ config := config, clock := clock } : Engine).openEngine.2 = .ok ()) :
    ToldBy cond ({ config := config, clock := clock } : Engine).openEngine.1 [] fun _ => { touched := {} }
  | step {e : Engine} {ds : List SourceDescriptor} {C : Chronicles} (h : ToldBy cond e ds C) (op : Op)
    (hop : e.Uncompacted op) (hcond : cond ds C e op) :
    ToldBy cond (e.step op) (ds ++ e.declarations op) (chroniclesAfterAll ds C (e.applications op))
  | reopened {e : Engine} {ds : List SourceDescriptor} {C : Chronicles} (h : ToldBy cond e ds C)
    (ho : e.close.openEngine.2 = .ok ()) : ToldBy cond e.close.openEngine.1 ds C

/-- Every run of a journaled engine has its chronicles. -/
theorem RegisteredBy.told (h : e.RegisteredBy (fun _ _ _ => True) ds) :
    ∃ ds' C, e.ToldBy (fun _ _ _ _ => True) ds' C := by
  induction h with
  | opened config clock hpath h => exact ⟨_, _, .opened config clock hpath h⟩
  | step _ op hop _ ih =>
    obtain ⟨ds', C, ih⟩ := ih
    exact ⟨_, _, ih.step op hop trivial⟩
  | reopened _ ho ih =>
    obtain ⟨ds', C, ih⟩ := ih
    exact ⟨_, _, ih.reopened ho⟩

/-- A run with chronicles is a run. -/
theorem ToldBy.registered {cond : List SourceDescriptor → Chronicles → Engine → Op → Prop} (h : e.ToldBy cond ds C) :
    ∃ ds', e.RegisteredBy (fun _ _ _ => True) ds' := by
  induction h with
  | opened config clock hpath h => exact ⟨_, .opened config clock hpath h⟩
  | step _ op hop _ ih =>
    obtain ⟨ds', ih⟩ := ih
    exact ⟨_, ih.step op hop trivial⟩
  | reopened _ ho ih =>
    obtain ⟨ds', ih⟩ := ih
    exact ⟨_, ih.reopened ho⟩

theorem ToldBy.isOpen {cond : List SourceDescriptor → Chronicles → Engine → Op → Prop} (h : e.ToldBy cond ds C) :
    e.isOpen = true := by
  obtain ⟨_, hrun⟩ := h.registered
  exact hrun.reachable.reachedBy.isOpen

/-- Ingesting an observation that is applied again alike. -/
theorem ToldBy.ingest (h : e.ToldBy ReplayedAlike ds C) (obs : Observation) (hop : e.Uncompacted (.ingest obs))
    (hobs : Replayable C e obs) :
    (e.step (.ingest obs)).ToldBy ReplayedAlike ds (chroniclesAfterAll ds C (e.applications (.ingest obs))) := by
  have hcond : e.ReplayedAlike ds C (.ingest obs) := by
    refine ⟨?_, fun id hid => by cases hid⟩
    rcases ingest_cases e obs with ⟨happs, -⟩ | ⟨happs, -⟩
    · rw [happs]
      trivial
    · rw [happs]
      exact ⟨fun _ => hobs, trivial⟩
  have hstep := h.step (.ingest obs) hop hcond
  have hnone : e.declarations (.ingest obs) = [] := rfl
  rwa [hnone, List.append_nil] at hstep

/-- **In every run whose steps are replayed alike** the journal reproduces the engine. -/
theorem ToldBy.reproduces (h : e.ToldBy ReplayedAlike ds C) (hrestore : e.config.restoreOnOpen = true) :
    e.config.journalPath.isEmpty = false ∧ ∃ log, declared log = ds ∧ e.Reproduces log C := by
  induction h with
  | opened config clock hpath h =>
    rw [open_config] at hrestore ⊢
    exact ⟨hpath, [], rfl, opened_reproduces hpath hrestore rfl rfl rfl rfl rfl (.inl ⟨rfl, rfl⟩)
      (fun _ h => by cases h)
      ⟨fun _ h => (by cases h), List.nodup_nil⟩ (fun _ h => by cases h) (tell_start _ _ _) h⟩
  | @step e ds C _ op hop hcond ih =>
    rw [step_config] at hrestore ⊢
    obtain ⟨hpath, log, rfl, hlog⟩ := ih hrestore
    refine ⟨hpath, ?_⟩
    by_cases hother : ∀ d, op ≠ .registerSource d
    · obtain ⟨more, hmore, hdone⟩ := hlog.step hop hcond hother
      have hnone : e.declarations op = [] := by
        cases op with
        | registerSource d => exact absurd rfl (hother d)
        | _ => rfl
      exact ⟨_, by rw [declared_append, hmore, hnone], hdone⟩
    · obtain ⟨d, rfl⟩ : ∃ d, op = .registerSource d := by simpa using hother
      exact hlog.register d
  | @reopened e ds C h ho ih =>
    have hconfig : e.close.openEngine.1.config = e.config := (open_config e.close).trans (close_config e)
    rw [hconfig] at hrestore ⊢
    obtain ⟨hpath, log, hds, hlog⟩ := ih hrestore
    exact ⟨hpath, log, hds, hlog.reopened h.isOpen hpath hrestore ho⟩

/-- Engines with the same ledgers have the same bindings, and the same fold of each. -/
theorem SameLedgers.folds (h : e.SameLedgers e') (flow : FlowId) (gen : GenerationId) (source : SourceId)
    (counters : CounterPolicy) : (e.binding? flow gen source).map (fun b => b.ledger.foldAll counters)
      = (e'.binding? flow gen source).map (fun b => b.ledger.foldAll counters) := by
  have hflow : ∀ f : FlowRuntime, (f.binding? gen source).map (fun b => b.ledger.foldAll counters)
      = (f.bare.binding? gen source).map (fun b => b.ledger.foldAll counters) := by
    intro f
    rw [FlowRuntime.binding?, FlowRuntime.binding?, f.find?_bare]
    cases f.generations.find? gen with
    | none => rfl
    | some g =>
      rw [Option.map_some, Option.bind_some, Option.bind_some, g.find?_bare, Option.map_map]
      exact congrArg (fun fold => (g.bindings.find? source).map fold)
        (funext fun b => (b.ledger.foldAll_bare counters).symm)
  have hbinding : ∀ e : Engine, (e.binding? flow gen source).map (fun b => b.ledger.foldAll counters)
      = ((e.flows.find? flow).map FlowRuntime.bare).bind
          (fun f => (f.binding? gen source).map (fun b => b.ledger.foldAll counters)) := by
    intro e
    rw [binding?]
    cases e.flows.find? flow with
    | none => rfl
    | some f => exact hflow f
  rw [hbinding, hbinding, h.find? flow]

/-- **A restart brings back the accounting** in every run of a journaled engine that is not compacted and whose steps
are replayed alike: the same bindings, with the same fold of the ledger of each. -/
theorem replay_reproduces (h : e.ToldBy ReplayedAlike ds C) (hrestore : e.config.restoreOnOpen = true)
    (ho : e.close.openEngine.2 = .ok ()) (flow : FlowId) (gen : GenerationId) (source : SourceId) :
    (e.close.openEngine.1.binding? flow gen source).map (fun b => b.ledger.foldAll e.config.counters)
      = (e.binding? flow gen source).map (fun b => b.ledger.foldAll e.config.counters) := by
  obtain ⟨hpath, log, -, hlog⟩ := h.reproduces hrestore
  have hreopened := (hlog.reopened h.isOpen hpath hrestore ho).sketches
  rw [open_config, close_config] at hreopened
  exact (hreopened.symm.trans hlog.sketches).sameLedgers.folds flow gen source e.config.counters

/-! ## What a replay gives up too, and evidence that returns -/

/-- An engine with room for one flow. -/
def crowding : Engine :=
  ({ config := { journalPath := str "j", limits := { maxFlows := 1 } }, clock := ⟨1000⟩ } : Engine).openEngine.1

/-- The source `a` is registered there with a capability and closes a flow. -/
def crowded : Engine :=
  (crowding.step (.registerSource closer)).step (.ingest (sampleObservation closer.id .Close 1 ⟨900⟩))

/-- An observation of another flow. -/
def elsewhere : Observation :=
  { sampleObservation closer.id .Progress 2 ⟨950⟩ with subject := { generation := ⟨1⟩, flowKey := str "g" } }

/-- An observation of an unknown flow, where the table is not full or gives up what the chronicles give up. -/
theorem choosesBy_unknown {obs : Observation} (hnone : (e.flows.find? obs.subject.flow).isNone = true)
    (hflow : e.flows.toList.length < e.config.limits.maxFlows.toNat ∨
      e.victim.map (·.id) = C.victim (e.flows.toList.map (·.id))) : ChoosesBy C e obs := by
  rw [Option.isNone_iff_eq_none] at hnone
  refine ⟨fun _ hfull => hflow.resolve_left (Nat.not_lt.2 hfull), fun f hf => ?_⟩
  rw [hnone] at hf
  cases hf

set_option maxRecDepth 100000 in
theorem crowded_told : ∃ C, (crowded.step (.ingest elsewhere)).ToldBy ReplayedAlike [closer] C := by
  have hopened : crowding.ToldBy ReplayedAlike [] fun _ => { touched := {} } :=
    .opened _ _ (by with_unfolding_all decide) (by with_unfolding_all decide)
  have hregistered := hopened.step (.registerSource closer) ⟨fun p hp => (by cases hp), fun h => by cases h⟩
    ⟨trivial, fun _ h => by cases h⟩
  have hds : [] ++ crowding.declarations (.registerSource closer) = [closer] := by with_unfolding_all decide
  rw [hds] at hregistered
  have hclosed := hregistered.ingest (sampleObservation closer.id .Close 1 ⟨900⟩)
    ⟨by with_unfolding_all decide, fun h => by cases h⟩
    ⟨by constructor <;> decide, by with_unfolding_all decide, by decide,
      fun _ => choosesBy_unknown (by with_unfolding_all decide) (.inl (by with_unfolding_all decide))⟩
  -- the table is full, and the flow that was closed is the one that its chronicle gives up
  exact ⟨_, hclosed.ingest elsewhere ⟨by with_unfolding_all decide, fun h => by cases h⟩
    ⟨by constructor <;> decide, by with_unfolding_all decide, by decide,
      fun _ => choosesBy_unknown (by with_unfolding_all decide) (.inr (by with_unfolding_all decide))⟩⟩

set_option maxRecDepth 100000 in
/-- The flow that was closed is given up for the other one, before the restart and in it. -/
theorem replay_reproduces_crowded : (crowded.binding? sampleFlow ⟨1⟩ closer.id).isSome = true ∧
    ((crowded.step (.ingest elsewhere)).close.openEngine.1.binding? sampleFlow ⟨1⟩ closer.id).map
        (fun b => b.ledger.foldAll crowding.config.counters) = none ∧
    ((crowded.step (.ingest elsewhere)).close.openEngine.1.binding? (flowIdFromKey (str "g")) ⟨1⟩ closer.id).map
        (fun b => b.ledger.foldAll crowding.config.counters)
      = ((crowded.step (.ingest elsewhere)).binding? (flowIdFromKey (str "g")) ⟨1⟩ closer.id).map
        (fun b => b.ledger.foldAll crowding.config.counters) := by
  obtain ⟨C, hrun⟩ := crowded_told
  have hconfig : (crowded.step (.ingest elsewhere)).config = crowding.config := by
    rw [step_config, crowded, step_config, step_config]
  have hreopens : (crowded.step (.ingest elsewhere)).close.openEngine.2 = .ok () := by decide +kernel
  have hsame := replay_reproduces hrun (by with_unfolding_all decide) hreopens
  rw [hconfig] at hsame
  have hgone : ((crowded.step (.ingest elsewhere)).binding? sampleFlow ⟨1⟩ closer.id).isNone = true := by
    with_unfolding_all decide
  refine ⟨by with_unfolding_all decide, ?_, hsame _ _ _⟩
  rw [hsame, Option.isNone_iff_eq_none.1 hgone, Option.map_none]

/-- An observation with a byte counter is ingested. -/
def counted : Engine := recording.step
    (.ingest ((sampleObservation (sourceIdFromKey (str "a")) .Progress 1 ⟨900⟩).withBytes 10))

/-- The source of that observation is retired. -/
def retiring : Engine := counted.step (.retireSource (sourceIdFromKey (str "a")))

theorem retiring_registered : retiring.RegisteredBy (fun _ _ _ => True) [] := by
  have hcounted : counted.RegisteredBy (fun _ _ _ => True) [] :=
    (recording_registered _).next _ ⟨by decide +kernel, fun h => by cases h⟩ trivial (List.append_nil _)
  exact hcounted.next _ ⟨fun p hp => (by cases hp), fun h => by cases h⟩ trivial (List.append_nil _)

set_option maxRecDepth 1000000 in
theorem retiring_reopened : retiring.close.openEngine.2 = .ok () ∧
    (retiring.close.openEngine.1.binding? sampleFlow ⟨1⟩ (sourceIdFromKey (str "a"))).isSome = true ∧
    (retiring.binding? sampleFlow ⟨1⟩ (sourceIdFromKey (str "a"))).isSome = false := by
  decide +kernel

/-- **The evidence of a retired source returns** with a restart: its retirement is not journalled. -/
theorem retired_evidence_returns : ¬ ∀ (e : Engine) (ds : List SourceDescriptor) (C : Chronicles),
    e.ToldBy (fun _ _ _ _ => True) ds C → e.config.restoreOnOpen = true → e.close.openEngine.2 = .ok () →
    ∀ flow gen source, (e.close.openEngine.1.binding? flow gen source).map (fun b => b.ledger.foldAll e.config.counters)
      = (e.binding? flow gen source).map (fun b => b.ledger.foldAll e.config.counters) := by
  intro h
  obtain ⟨ds, C, hrun⟩ := retiring_registered.told
  obtain ⟨hopen, hafter, hbefore⟩ := retiring_reopened
  have hsame := congrArg Option.isSome (h retiring ds C hrun (by decide +kernel) hopen sampleFlow ⟨1⟩
    (sourceIdFromKey (str "a")))
  rw [Option.isSome_map, Option.isSome_map, hafter, hbefore] at hsame
  cases hsame

end Engine

end FlowObs
