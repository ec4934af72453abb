import FlowObs.Engine.Api
import Mathlib.Logic.Relation

/-!
# The accounts of ingest

Every call of `apply_locked` is counted as received and ends in one way: applied, duplicate, refused or conflicting.
Each stage leaves these counters or ends the observation (`Tallies`), so one application adds one to one of the four
(`ended_applyLocked`). Nothing else touches them: what an operation, a recovery or a restart does to them is a
sequence of applications (`Counted`), and after any calls the accounts are balanced (`ingest_balanced`).
-/

namespace FlowObs

/-! ## The counters of the observations -/

/-- The counters of the observations: those that were received, and those that ended in each of the four ways. -/
structure IngestTally where
  received : UInt64 := 0
  applied : UInt64 := 0
  duplicate : UInt64 := 0
  refused : UInt64 := 0
  conflicting : UInt64 := 0
deriving DecidableEq, Repr

def EngineCounters.ingested (c : EngineCounters) : IngestTally where
  received := c.observationsReceived
  applied := c.observationsApplied
  duplicate := c.observationsDuplicate
  refused := c.observationsRefused
  conflicting := c.observationsConflicting

/-- How an observation ends. -/
inductive Ending
  | Applied | Duplicate | Refused | Conflicting
deriving DecidableEq, Repr

/-- What is answered. A conflict is a refusal to the caller. -/
def Ending.disposition : Ending → IngestDisposition
  | .Applied => .Applied
  | .Duplicate => .Duplicate
  | .Refused | .Conflicting => .Refused

namespace IngestTally

/-- One more observation is received. -/
def receive (t : IngestTally) : IngestTally := { t with received := t.received + 1 }

/-- One more observation ends. -/
def finish (t : IngestTally) : Ending → IngestTally
  | .Applied => { t with applied := t.applied + 1 }
  | .Duplicate => { t with duplicate := t.duplicate + 1 }
  | .Refused => { t with refused := t.refused + 1 }
  | .Conflicting => { t with conflicting := t.conflicting + 1 }

/-- **Every observation that was received has ended in one of the four ways.** -/
def Balanced (t : IngestTally) : Prop := t.received = t.applied + t.duplicate + t.refused + t.conflicting

theorem Balanced.count {t : IngestTally} (h : t.Balanced) (ending : Ending) : (t.receive.finish ending).Balanced := by
  unfold Balanced at h ⊢
  cases ending <;> simp only [receive, finish] <;> rw [h] <;> ac_rfl

/-- Any number of observations are received, each of which ends. -/
def Counted : IngestTally → IngestTally → Prop :=
  Relation.ReflTransGen (fun t t' => ∃ ending, t' = t.receive.finish ending)

theorem Counted.refl (t : IngestTally) : Counted t t := Relation.ReflTransGen.refl

theorem Counted.of_eq {t t' : IngestTally} (h : t' = t) : Counted t t' := h ▸ .refl t

theorem Counted.trans {t t' t'' : IngestTally} (h : Counted t t') (h' : Counted t' t'') : Counted t t'' :=
  Relation.ReflTransGen.trans h h'

theorem Balanced.counted {t t' : IngestTally} (ht : t.Balanced) (h : Counted t t') : t'.Balanced := by
  induction h with
  | refl => exact ht
  | tail _ hstep ih =>
    obtain ⟨ending, rfl⟩ := hstep
    exact ih.count ending

end IngestTally

/-! ## The stages -/

/-- The observation has ended, and is answered accordingly. -/
def Ends (t t' : IngestTally) (outcome : IngestOutcome) : Prop :=
  ∃ ending, t' = t.finish ending ∧ outcome.disposition = ending.disposition

/-- A stage leaves the counters or ends the observation. -/
def Tallies {α : Type} (counters : α → EngineCounters) (t : IngestTally) : Except Exit α → Prop
  | .ok a => (counters a).ingested = t
  | .error x => Ends t x.1.counters.ingested x.2

section Stages

variable {config : EngineConfig} {limits : Limits} {atTime : Timestamp} {obs : Observation} {tx : FlowTx}
    {t : IngestTally}

/-- A refusal with a note. -/
theorem ends_refused (limits : Limits) (a : Anomaly) (code : ErrorCode) (detail : Str) (h : tx.counters.ingested = t) :
    Ends t (tx.note limits a).refused.counters.ingested (refusal code detail) := ⟨.Refused, h ▸ rfl, rfl⟩

theorem tallies_matchKey (h : tx.counters.ingested = t) :
    Tallies FlowTx.counters t (matchKey limits atTime obs tx) := by
  unfold matchKey
  split
  · exact h
  · exact ⟨.Conflicting, h ▸ rfl, rfl⟩

theorem tallies_registerIdentities (h : tx.counters.ingested = t) :
    Tallies FlowTx.counters t (registerIdentities limits atTime obs tx) := by
  unfold registerIdentities
  split
  · exact h
  · refine ends_refused limits _ _ _ ?_
    split
    · exact h
    · exact h

theorem tallies_clampSkew (freshness : FreshnessPolicy) (h : tx.counters.ingested = t) :
    Tallies (fun a : FlowTx × Observation => a.1.counters) t (clampSkew limits freshness atTime obs tx) := by
  unfold clampSkew
  split
  · exact h
  · split
    · exact ends_refused limits _ _ _ h
    · exact h

theorem tallies_makeGenerationRoom (h : tx.counters.ingested = t) :
    Tallies FlowTx.counters t (makeGenerationRoom limits atTime obs tx) := by
  unfold makeGenerationRoom
  split
  · exact h
  · split
    · exact h
    · exact ends_refused limits _ _ _ h

theorem ingested_enterGeneration (limits : Limits) (atTime : Timestamp) (obs : Observation) (tx : FlowTx) :
    (enterGeneration limits atTime obs tx).counters.ingested = tx.counters.ingested := by
  simp only [enterGeneration]
  split
  · rfl
  · split <;> rfl

theorem tallies_checkSourceRoom (h : tx.counters.ingested = t) :
    Tallies FlowTx.counters t (checkSourceRoom limits atTime obs tx) := by
  simp only [checkSourceRoom]
  split
  · exact h
  · exact ends_refused limits _ _ _ h

theorem ends_settleInsert (r : InsertResult) (tx : FlowTx) :
    ∃ ending, (settleInsert limits atTime obs r tx).counters.ingested = tx.counters.ingested.finish ending ∧
      r.kind.disposition = ending.disposition := by
  unfold settleInsert
  cases hk : r.kind with
  | Accepted => exact ⟨.Applied, rfl, rfl⟩
  | Duplicate => exact ⟨.Duplicate, rfl, rfl⟩
  | ContentConflict => exact ⟨.Conflicting, rfl, rfl⟩
  | Refused => exact ⟨.Refused, rfl, rfl⟩

theorem ends_applyEvidence (sources : SourceTable) (ctx : FreshnessContext) (replaying : Bool)
    (h : tx.counters.ingested = t) :
    Ends t (applyEvidence config sources ctx replaying atTime obs tx).1.counters.ingested
      (applyEvidence config sources ctx replaying atTime obs tx).2 := by
  simp only [applyEvidence]
  obtain ⟨ending, hcounted, hanswer⟩ := @ends_settleInsert config.limits atTime obs
    (insertEvidence config.limits replaying atTime obs tx.flow).2
    { tx with flow := (insertEvidence config.limits replaying atTime obs tx.flow).1 }
  have hended : _ = t.finish ending := hcounted.trans (congrArg (IngestTally.finish · ending) h)
  split
  · exact ⟨ending, hended, hanswer⟩
  · exact ⟨ending, hended, hanswer⟩

/-- A stage before the others. -/
theorem ends_bind {α : Type} {counters : α → EngineCounters} {x : Except Exit α} {f : α → Except Exit Exit}
    (hx : Tallies counters t x)
    (hf : ∀ a, (counters a).ingested = t → Ends t (Exit.ofExcept (f a)).1.counters.ingested (Exit.ofExcept (f a)).2) :
    Ends t (Exit.ofExcept (x >>= f)).1.counters.ingested (Exit.ofExcept (x >>= f)).2 := by
  cases x with
  | error e => exact hx
  | ok a => exact hf a hx

/-- **The stages end the observation in one way.** -/
theorem ends_applyToFlow (sources : SourceTable) (ctx : FreshnessContext) (replaying : Bool)
    (h : tx.counters.ingested = t) :
    Ends t (Exit.ofExcept (applyToFlow config sources ctx replaying atTime obs tx)).1.counters.ingested
      (Exit.ofExcept (applyToFlow config sources ctx replaying atTime obs tx)).2 := by
  refine ends_bind (tallies_matchKey h) fun tx₁ h₁ => ends_bind (tallies_registerIdentities h₁) fun tx₂ h₂ => ?_
  refine ends_bind (tallies_clampSkew config.freshness h₂) fun clamped h₃ => ?_
  refine ends_bind (tallies_makeGenerationRoom h₃) fun tx₄ h₄ => ?_
  refine ends_bind (tallies_checkSourceRoom ((ingested_enterGeneration config.limits atTime clamped.2 tx₄).trans h₄)) ?_
  exact fun tx₅ h₅ => ends_applyEvidence sources ctx replaying h₅

end Stages

namespace Engine

open IngestTally (Counted)

/-! ## One application -/

/-- The accounts of the engine. -/
def ingested (e : Engine) : IngestTally := e.counters.ingested

theorem ingested_compactLocked (e : Engine) : e.compactLocked.1.ingested = e.ingested := by
  unfold compactLocked
  split
  · rfl
  · split
    · rfl
    · split <;> rfl

theorem ingested_appendRecord (e : Engine) (r : Record) : (e.appendRecord r).1.ingested = e.ingested := by
  unfold appendRecord
  split <;> rfl

theorem ingested_recordAppended (r : Record) (x : Engine × Except Error Unit) :
    (recordAppended r x).1.ingested = x.1.ingested := by
  obtain ⟨e, err | ok⟩ := x <;> rfl

theorem ingested_appendObservation (e : Engine) (obs : Observation) :
    (e.appendObservation obs).1.ingested = e.ingested :=
  appendObservation_rule (P := fun e' => e'.ingested = e.ingested) (fun _ h => (ingested_appendRecord _ _).trans h)
    (fun _ h => (ingested_compactLocked _).trans h) (fun _ _ h => (ingested_recordAppended _ _).trans h) rfl

theorem ingested_appendSource (e : Engine) (d : SourceDescriptor) : (e.appendSource d).1.ingested = e.ingested := by
  have happend := ingested_appendRecord e ⟨.SourceDescriptor, writeSourceDescriptor d⟩
  simp only [appendSource]
  split
  · exact happend
  · exact happend

theorem ingested_resolveSource {e e' : Engine} {atTime : Timestamp} {source : SourceId}
    (h : e.resolveSource atTime source = .ok e') : e'.ingested = e.ingested := by
  unfold resolveSource at h
  split at h
  · split at h
    · cases h
    · cases h
      rfl
  · split at h
    · cases h
    · cases h
      rfl

theorem ingested_makeFlowRoom (e : Engine) : e.makeFlowRoom.1.ingested = e.ingested := by
  unfold makeFlowRoom
  split
  · rfl
  · split
    · rfl
    · rename_i e' he
      obtain ⟨f, -, rfl⟩ := Option.map_eq_some_iff.1 he
      rfl

theorem ingested_resolveFlow (e : Engine) (atTime : Timestamp) (obs : Observation) :
    (e.resolveFlow atTime obs).1.ingested = e.ingested := by
  unfold resolveFlow
  split
  · rfl
  · dsimp only
    split
    · exact ingested_makeFlowRoom e
    · exact ingested_makeFlowRoom e

theorem ends_refuse {e : Engine} {t : IngestTally} (h : e.ingested = t) (code : ErrorCode) (detail : Str) :
    Ends t (e.refuse code detail).1.ingested (e.refuse code detail).2 := ⟨.Refused, h ▸ rfl, rfl⟩

theorem ends_applyJournaled {e : Engine} {t : IngestTally} (h : e.ingested = t) (atTime : Timestamp)
    (obs : Observation) :
    Ends t (e.applyJournaled atTime obs).1.ingested (e.applyJournaled atTime obs).2 := by
  unfold applyJournaled
  split
  · exact ends_refuse h _ _
  · rename_i e₁ hsource
    have h₁ := (ingested_resolveSource hsource).trans h
    have h₂ := (ingested_resolveFlow e₁ atTime obs).trans h₁
    split
    · rename_i e₂ hflow
      rw [hflow] at h₂
      exact ends_refuse h₂ _ _
    · rename_i e₂ flow hflow
      rw [hflow] at h₂
      exact ends_applyToFlow _ _ _ h₂

/-- **One application is counted once**: as received, and as ended in the way that is answered. -/
theorem ended_applyLocked (e : Engine) (incoming : Observation) :
    Ends e.ingested.receive (e.applyLocked incoming).1.ingested (e.applyLocked incoming).2 := by
  have hreceived : e.received.ingested = e.ingested.receive := rfl
  unfold applyLocked
  dsimp only
  split
  · exact ends_refuse hreceived _ _
  · split
    · exact ends_applyJournaled hreceived _ _
    · have hjournaled := (ingested_appendObservation e.received (prepare e.instant incoming)).trans hreceived
      split
      · exact ends_refuse hjournaled _ _
      · exact ends_applyJournaled hjournaled _ _

/-! ## Runs -/

theorem counted_applyLocked (e : Engine) (obs : Observation) : Counted e.ingested (e.applyLocked obs).1.ingested := by
  obtain ⟨ending, hended, -⟩ := ended_applyLocked e obs
  exact Relation.ReflTransGen.single ⟨ending, hended⟩

theorem counted_batch (batch : List Observation) (e : Engine) :
    Counted e.ingested (batch.foldl (fun (e : Engine) obs => (e.applyLocked obs).1) e).ingested := by
  induction batch generalizing e with
  | nil => exact .refl _
  | cons obs batch ih => exact (counted_applyLocked e obs).trans (ih _)

theorem ingested_recomputeAll (e : Engine) (atTime : Timestamp) (due : FlowRuntime → Bool) :
    (e.recomputeAll atTime due).ingested = e.ingested := by
  have hreports : ∀ (flows : List FlowRuntime) (c : EngineCounters), (flows.foldl
      (fun c f => c.addReport (recomputeReport e.config e.sources e.context atTime f)) c).ingested = c.ingested := by
    intro flows
    induction flows with
    | nil => exact fun _ => rfl
    | cons f flows ih => exact fun c => ih _
  exact hreports _ _

theorem ingested_tickLocked (e : Engine) (evaluatedAt : Timestamp) : (e.tickLocked evaluatedAt).ingested = e.ingested :=
  ingested_recomputeAll { e with evaluationOverride := evaluatedAt } evaluatedAt tickDue

theorem ingested_registerSource (e : Engine) (d : SourceDescriptor) : (e.registerSource d).1.ingested = e.ingested := by
  have happend := ingested_appendSource e d
  have hcases := registerSource_cases e d
  generalize e.registerSource d = result at hcases ⊢
  cases hcases with
  | unjournaled _ _ _ hj | fresh _ _ _ _ hj =>
    rw [hj] at happend
    exact happend
  | _ => rfl

theorem counted_ingest (e : Engine) (obs : Observation) : Counted e.ingested (e.ingest obs).1.ingested := by
  unfold ingest
  split
  · exact .refl _
  · split
    · exact .refl _
    · exact counted_applyLocked e obs

/-- **What an operation does to the accounts is a sequence of applications.** -/
theorem counted_step (e : Engine) (op : Op) : Counted e.ingested (e.step op).ingested := by
  cases op with
  | ingest obs => exact counted_ingest e obs
  | submit obs =>
    simp only [step, submit]
    split
    · exact .refl _
    · exact counted_ingest e _
  | enqueue obs =>
    refine .of_eq ?_
    simp only [step, enqueue]
    split
    · rfl
    · split
      · rfl
      · split <;> rfl
  | drain n =>
    simp only [step, drain]
    split
    · exact .refl _
    · split
      · exact .refl _
      · exact counted_batch (e.queue.take n) { e with queue := e.queue.drop n }
  | work batch => exact counted_batch batch e
  | tick evaluatedAt =>
    refine .of_eq ?_
    simp only [step, tick]
    split
    · rfl
    · split
      · rfl
      · exact ingested_tickLocked e evaluatedAt
  | registerSource d => exact .of_eq (ingested_registerSource e d)
  | retireSource id =>
    refine .of_eq ?_
    simp only [step, retireSource]
    split
    · rfl
    · exact ingested_recomputeAll _ _ _
  | compact => exact .of_eq (ingested_compactLocked e)
  | flush => exact .refl _
  | freeze => exact .refl _
  | advance clock => exact .refl _

/-! ## Recovery -/

theorem ingested_restoreFlows (previous : RuntimeEpoch) (ps : List PersistedFlow) (e : Engine) :
    (e.restoreFlows previous ps).1.ingested = e.ingested := by
  induction ps generalizing e with
  | nil => rfl
  | cons p ps ih =>
    simp only [restoreFlows]
    split
    · rfl
    · rw [ih]
      rfl

/-- A replay is a sequence of applications. -/
theorem counted_replay (observations : List Observation) (e : Engine) :
    Counted e.ingested (observations.foldl replayOne e).ingested := by
  induction observations generalizing e with
  | nil => exact .refl _
  | cons obs observations ih => exact (counted_applyLocked { e with replayNow := obs.receivedAt } obs).trans (ih _)

theorem counted_restoreLocked (e : Engine) (records : List Record) (previous : RuntimeEpoch) :
    Counted e.ingested (e.restoreLocked records previous).1.ingested := by
  unfold restoreLocked
  split
  · exact .refl _
  · rename_i result _
    split
    · exact .refl _
    · have hrestored := ingested_restoreFlows previous result.state.flows
        (({ e with snapshotSequence := result.state.snapshotSequence } : Engine).restoreSources result.state.sources)
      dsimp only
      split
      · rename_i hr
        rw [hr] at hrestored
        exact .of_eq hrestored
      · rename_i e₁ hr
        rw [hr] at hrestored
        have hreplay := counted_replay result.observations { e₁ with replaying := true, replayEpoch := previous }
        exact (Counted.of_eq hrestored).trans (hreplay.trans (.of_eq (ingested_recomputeAll _ _ _)))

theorem counted_openJournalLocked (e : Engine) : Counted e.ingested e.openJournalLocked.1.ingested := by
  simp only [openJournalLocked]
  split
  · exact .refl _
  · split
    · exact .refl _
    · split
      · exact .refl _
      · rename_i j _
        split
        · exact .refl _
        · rename_i records _
          generalize hread : ({ e with openedAt := e.now, journal := _, epoch := _ } : Engine) = read
          have hsame : read.ingested = e.ingested := hread ▸ rfl
          have hdone : Counted e.ingested (if (e.config.restoreOnOpen && !records.isEmpty) = true then
              read.restoreLocked records j.header.runtimeEpoch else (read, .ok ())).1.ingested := by
            refine (Counted.of_eq hsame).trans ?_
            split
            · exact counted_restoreLocked read records _
            · exact .refl _
          split
          · rename_i hopen
            rw [hopen] at hdone
            exact hdone
          · rename_i hopen
            rw [hopen] at hdone
            exact hdone

theorem counted_openEngine (e : Engine) : Counted e.ingested e.openEngine.1.ingested := by
  have hjournal := counted_openJournalLocked e
  unfold openEngine
  split
  · exact .refl _
  · split
    · exact .refl _
    · split
      · rename_i hr
        rw [hr] at hjournal
        exact hjournal
      · rename_i e₁ hr
        rw [hr] at hjournal
        exact hjournal.trans (.of_eq (ingested_tickLocked { e₁ with frozen := false, isOpen := true } _))

theorem ingested_close (e : Engine) : e.close.ingested = e.ingested := by
  unfold close
  split <;> rfl

theorem counted_loadSnapshot (e : Engine) (path : Str) (existing : Option (List UInt8)) :
    Counted e.ingested (e.loadSnapshot path existing).1.ingested := by
  unfold loadSnapshot
  split
  · exact .refl _
  · split
    · exact .refl _
    · exact counted_restoreLocked { e with flows := ∅, registries := {} } _ e.epoch

/-! ## Every run -/

/-- What can be called, at any time: an operation, or to open the engine on any file, to close it, or to load a
snapshot. -/
inductive Entry
  | operation (op : Op)
  | openOn (disk : Option (List UInt8))
  | close
  | load (path : Str) (existing : Option (List UInt8))

/-- The state after a call, whether it succeeds or fails. -/
def enterBy (e : Engine) : Entry → Engine
  | .operation op => e.step op
  | .openOn disk => ({ e with disk := disk } : Engine).openEngine.1
  | .close => e.close
  | .load path existing => (e.loadSnapshot path existing).1

theorem counted_entry (e : Engine) (c : Entry) : Counted e.ingested (e.enterBy c).ingested := by
  cases c with
  | operation op => exact counted_step e op
  | openOn disk => exact counted_openEngine { e with disk := disk }
  | close => exact .of_eq (ingested_close e)
  | load path existing => exact counted_loadSnapshot e path existing

theorem counted_entries (calls : List Entry) (e : Engine) : Counted e.ingested (calls.foldl enterBy e).ingested := by
  induction calls generalizing e with
  | nil => exact .refl _
  | cons c calls ih => exact (counted_entry e c).trans (ih _)

/-- **The accounts of ingest balance.** Every call of `apply_locked` adds one to the observations received and one to
exactly one of the applied, duplicate, refused and conflicting, the one that is answered; and after any calls of an
engine, however they end, the received are the sum of the four. -/
theorem ingest_balanced :
    (∀ (e : Engine) (incoming : Observation), ∃ ending,
      (e.applyLocked incoming).1.counters.ingested = e.counters.ingested.receive.finish ending ∧
        (e.applyLocked incoming).2.disposition = ending.disposition) ∧
    ∀ (config : EngineConfig) (clock : Timestamp) (calls : List Entry),
      let c := (calls.foldl enterBy { config := config, clock := clock }).counters
      c.observationsReceived
        = c.observationsApplied + c.observationsDuplicate + c.observationsRefused + c.observationsConflicting := by
  refine ⟨fun e incoming => ended_applyLocked e incoming, fun config clock calls => ?_⟩
  have hzero : ({ config := config, clock := clock } : Engine).ingested.Balanced := rfl
  exact hzero.counted (counted_entries calls _)

end Engine

end FlowObs
