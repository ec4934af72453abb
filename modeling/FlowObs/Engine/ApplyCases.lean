import FlowObs.Engine.Api

/-!
# Every way an observation ends

The inversion of `apply_locked`. `FlowApplied` lists what the stages can do to the flow of the observation, up to the
anomalies and counts noted on it, and `applyToFlow_cases` says that the list is complete; `Admitted` and
`applyLocked_cases` do the same for the whole engine. Later results reason on these cases and never unfold a stage.
-/

namespace FlowObs

/-! ## The stages -/

/-- The flow with the generation of an observation entered. -/
def FlowRuntime.enter (f : FlowRuntime) (wanted : GenerationId) (atTime : Timestamp) : FlowRuntime :=
  { f with
    generations := f.generations.set (obtainGeneration f wanted atTime)
    currentGeneration := if !f.currentGeneration.valid || f.currentGeneration < wanted then wanted
      else f.currentGeneration }

/-- The flow has room for a generation, or makes it by giving one up. -/
inductive Roomed (limits : Limits) (f : FlowRuntime) (wanted : GenerationId) : FlowRuntime → Prop
  | known (h : (f.generations.find? wanted).isSome = true) : Roomed limits f wanted f
  | free (h : f.generations.toList.length < limits.maxGenerationsPerFlow.toNat) : Roomed limits f wanted f
  | evicted (h : f.generations.find? wanted = none) (f' : FlowRuntime) (he : f.evictOneGeneration = some f') :
    Roomed limits f wanted f'

/-- The observation as it is applied: clamped to its instant of receipt when it is too far ahead. -/
def clampedObservation (limits : Limits) (obs : Observation) : Observation :=
  if exceedsClockSkew obs.observedAt obs.receivedAt limits.maxClockSkew then { obs with observedAt := obs.receivedAt }
  else obs

@[simp] theorem clampedObservation_key (limits : Limits) (obs : Observation) :
    (clampedObservation limits obs).key = obs.key := by
  unfold clampedObservation; split <;> rfl

@[simp] theorem clampedObservation_subject (limits : Limits) (obs : Observation) :
    (clampedObservation limits obs).subject = obs.subject := by
  unfold clampedObservation; split <;> rfl

@[simp] theorem clampedObservation_kind (limits : Limits) (obs : Observation) :
    (clampedObservation limits obs).kind = obs.kind := by
  unfold clampedObservation; split <;> rfl

section Stages

variable {config : EngineConfig} {sources : SourceTable} {ctx : FreshnessContext} {replaying : Bool}
variable {limits : Limits} {freshness : FreshnessPolicy} {atTime : Timestamp} {obs obs' : Observation} {tx tx' : FlowTx}
variable {outcome : IngestOutcome}

theorem FlowTx.noted_note (tx : FlowTx) (limits : Limits) (a : Anomaly) : tx.flow.Noted (tx.note limits a).flow :=
  FlowRuntime.noted_note tx.flow a limits

theorem FlowTx.noted_collided (tx : FlowTx) : tx.flow.Noted tx.collided.flow := ⟨_, _, _, rfl⟩

theorem matchKey_ok : matchKey limits atTime obs tx = .ok tx' ↔ tx.flow.canonicalKey = obs.subject.flowKey ∧
    tx' = tx := by
  unfold matchKey
  split
  · simp_all [eq_comm]
  · simp_all

theorem matchKey_error (h : matchKey limits atTime obs tx = .error (tx', outcome)) :
    tx.flow.canonicalKey ≠ obs.subject.flowKey ∧ tx'.registries = tx.registries ∧ outcome.disposition = .Refused ∧
      outcome.code = .EvidenceConflict ∧
      { tx.flow with state := .Conflicting, cause := .AuthorityConflict }.Noted tx'.flow := by
  unfold matchKey at h
  split at h
  · cases h
  · rename_i hne
    cases h
    refine ⟨hne, rfl, rfl, rfl, ?_⟩
    obtain ⟨a, d, k, he⟩ := (FlowTx.noted_collided tx).trans (FlowTx.noted_note tx.collided limits
      (makeAnomaly .IdentityCollision atTime obs (collisionText tx.flow.canonicalKey obs.subject.flowKey
        (str "flow identity"))))
    exact ⟨a, d, k, by simp only [he]⟩

theorem registerIdentities_ok (h : registerIdentities limits atTime obs tx = .ok tx') :
    registerIdentity limits obs.subject tx.registries = (tx'.registries, none) ∧ tx'.flow = tx.flow := by
  unfold registerIdentities at h
  split at h
  · cases h; exact ⟨by assumption, rfl⟩
  · cases h

theorem registerIdentities_error (h : registerIdentities limits atTime obs tx = .error (tx', outcome)) :
    (∃ e, registerIdentity limits obs.subject tx.registries = (tx'.registries, some e)) ∧ tx.flow.Noted tx'.flow ∧
      outcome.disposition = .Refused := by
  unfold registerIdentities at h
  split at h
  · cases h
  · rename_i registries kind e hr
    cases h
    refine ⟨⟨(kind, e), ?_⟩, ?_, rfl⟩
    · rw [hr]
      split <;> rfl
    · refine FlowRuntime.Noted.trans ?_ (FlowTx.noted_note _ _ _)
      split
      · exact FlowTx.noted_collided _
      · exact .refl _

theorem clampSkew_ok (h : clampSkew limits freshness atTime obs tx = .ok (tx', obs')) :
    obs' = clampedObservation limits obs ∧ tx'.registries = tx.registries ∧ tx.flow.Noted tx'.flow ∧
      (exceedsClockSkew obs.observedAt obs.receivedAt limits.maxClockSkew = true →
        freshness.clampFutureTimestamps = true) := by
  unfold clampSkew at h
  split at h
  · rename_i hs
    cases h
    have hs : exceedsClockSkew obs.observedAt obs.receivedAt limits.maxClockSkew = false := by simpa using hs
    exact ⟨by simp [clampedObservation, hs], rfl, .refl _, fun h => by rw [hs] at h; cases h⟩
  · split at h
    · cases h
    · rename_i hs hc
      cases h
      refine ⟨?_, rfl, FlowTx.noted_note _ _ _, fun _ => by simpa using hc⟩
      rw [clampedObservation, if_pos (by simpa using hs)]

theorem clampSkew_error (h : clampSkew limits freshness atTime obs tx = .error (tx', outcome)) :
    tx'.registries = tx.registries ∧ tx.flow.Noted tx'.flow ∧ outcome.disposition = .Refused := by
  unfold clampSkew at h
  split at h
  · cases h
  · split at h
    · cases h
      exact ⟨rfl, FlowTx.noted_note _ _ _, rfl⟩
    · cases h

theorem makeGenerationRoom_ok (h : makeGenerationRoom limits atTime obs tx = .ok tx') :
    Roomed limits tx.flow obs.subject.generation tx'.flow ∧ tx'.registries = tx.registries := by
  unfold makeGenerationRoom at h
  split at h
  · rename_i hk
    cases h
    rcases Bool.or_eq_true _ _ ▸ hk with hk | hk
    · exact ⟨.known hk, rfl⟩
    · exact ⟨.free (by simpa using hk), rfl⟩
  · rename_i hk
    split at h
    · rename_i flow he
      cases h
      refine ⟨.evicted ?_ flow he, rfl⟩
      simp only [Bool.or_eq_true, not_or, Option.isSome_iff_exists, not_exists] at hk
      exact Option.eq_none_iff_forall_ne_some.2 hk.1
    · cases h

theorem makeGenerationRoom_error (h : makeGenerationRoom limits atTime obs tx = .error (tx', outcome)) :
    tx'.registries = tx.registries ∧ tx.flow.Noted tx'.flow ∧ outcome.disposition = .Refused := by
  unfold makeGenerationRoom at h
  split at h
  · cases h
  · split at h
    · cases h
    · cases h
      exact ⟨rfl, FlowTx.noted_note _ _ _, rfl⟩

theorem enterGeneration_flow (limits : Limits) (atTime : Timestamp) (obs : Observation) (tx : FlowTx) :
    (tx.flow.enter obs.subject.generation atTime).Noted (enterGeneration limits atTime obs tx).flow ∧
      (enterGeneration limits atTime obs tx).registries = tx.registries := by
  simp only [enterGeneration, FlowRuntime.enter]
  split
  · exact ⟨.refl _, rfl⟩
  · split
    · exact ⟨FlowTx.noted_note _ _ _, rfl⟩
    · exact ⟨.refl _, rfl⟩

theorem checkSourceRoom_ok (h : checkSourceRoom limits atTime obs tx = .ok tx') : tx' = tx ∧
    (((obtainGeneration tx.flow obs.subject.generation atTime).bindings.find? obs.key.source).isSome = true ∨
      (obtainGeneration tx.flow obs.subject.generation atTime).bindings.toList.length <
        limits.maxSourcesPerFlow.toNat) := by
  simp only [checkSourceRoom] at h
  split at h
  · cases h
    exact ⟨rfl, by simp_all⟩
  · cases h

theorem checkSourceRoom_error (h : checkSourceRoom limits atTime obs tx = .error (tx', outcome)) :
    tx'.registries = tx.registries ∧ tx.flow.Noted tx'.flow ∧ outcome.disposition = .Refused ∧
      (obtainGeneration tx.flow obs.subject.generation atTime).bindings.find? obs.key.source = none ∧
      limits.maxSourcesPerFlow.toNat ≤
        (obtainGeneration tx.flow obs.subject.generation atTime).bindings.toList.length := by
  simp only [checkSourceRoom] at h
  split at h
  · cases h
  · rename_i hk
    cases h
    simp only [Bool.or_eq_true, not_or, decide_eq_true_eq, Nat.not_lt, Option.isSome_iff_exists, not_exists] at hk
    exact ⟨rfl, FlowTx.noted_note _ _ _, rfl, Option.eq_none_iff_forall_ne_some.2 hk.1, hk.2⟩

/-! ## The flow of the observation -/

/-- The flow after the ledger has answered: an accepted observation makes a new revision. -/
def FlowRuntime.revise (f : FlowRuntime) (kind : InsertKind) : FlowRuntime :=
  if kind = .Accepted then { f with revision := f.revision.next } else f

/-- Notes do not matter to the insertion. -/
theorem insertEvidence_noted (limits : Limits) (replaying : Bool) (atTime : Timestamp) (obs : Observation)
    {f f' : FlowRuntime} (h : f.Noted f') :
    (insertEvidence limits replaying atTime obs f').2 = (insertEvidence limits replaying atTime obs f).2 ∧
      (insertEvidence limits replaying atTime obs f).1.Noted (insertEvidence limits replaying atTime obs f').1 := by
  obtain ⟨a, d, k, rfl⟩ := h
  exact ⟨rfl, ⟨a, d, k, rfl⟩⟩

theorem settleInsert_flow (limits : Limits) (atTime : Timestamp) (obs : Observation) (r : InsertResult) (tx : FlowTx) :
    (tx.flow.revise r.kind).Noted (settleInsert limits atTime obs r tx).flow ∧
      (settleInsert limits atTime obs r tx).registries = tx.registries := by
  unfold settleInsert FlowRuntime.revise
  cases hk : r.kind with
  | Accepted => exact ⟨.refl _, rfl⟩
  | Duplicate => exact ⟨.refl _, rfl⟩
  | ContentConflict => exact ⟨FlowTx.noted_note _ _ _, rfl⟩
  | Refused => exact ⟨FlowTx.noted_note _ _ _, rfl⟩

/-- **What the stages can do to a flow `f`**, with the outcome they report. -/
inductive FlowApplied (config : EngineConfig) (sources : SourceTable) (ctx : FreshnessContext) (replaying : Bool)
    (atTime : Timestamp) (obs : Observation) (f : FlowRuntime) : FlowRuntime → IngestOutcome → Prop
  /-- The key of the flow is another one. -/
  | collided {f' : FlowRuntime} {outcome : IngestOutcome} (hkey : f.canonicalKey ≠ obs.subject.flowKey)
    (hf : { f with state := .Conflicting, cause := .AuthorityConflict }.Noted f')
    (ho : outcome.disposition = .Refused) : FlowApplied config sources ctx replaying atTime obs f f' outcome
  /-- Refused by an identity registry, for its clock skew, or by the generation table. -/
  | stopped {f' : FlowRuntime} {outcome : IngestOutcome} (hkey : f.canonicalKey = obs.subject.flowKey) (hf : f.Noted f')
    (ho : outcome.disposition = .Refused) : FlowApplied config sources ctx replaying atTime obs f f' outcome
  /-- The source table of the generation is full. -/
  | noSourceRoom {f' : FlowRuntime} {outcome : IngestOutcome} (room : FlowRuntime)
    (hkey : f.canonicalKey = obs.subject.flowKey)
    (hroom : Roomed config.limits f obs.subject.generation room)
    (hfull : config.limits.maxSourcesPerFlow.toNat
      ≤ (obtainGeneration room obs.subject.generation atTime).bindings.toList.length)
    (hf : (room.enter obs.subject.generation atTime).Noted f')
    (ho : outcome.disposition = .Refused) : FlowApplied config sources ctx replaying atTime obs f f' outcome
  /-- The ledger refused the observation. -/
  | ledgerRefused {f' : FlowRuntime} {outcome : IngestOutcome} (room : FlowRuntime)
    (hkey : f.canonicalKey = obs.subject.flowKey)
    (hroom : Roomed config.limits f obs.subject.generation room)
    (hbind : ((obtainGeneration room obs.subject.generation atTime).bindings.find? obs.key.source).isSome = true ∨
      (obtainGeneration room obs.subject.generation atTime).bindings.toList.length <
        config.limits.maxSourcesPerFlow.toNat)
    (hr : (insertEvidence config.limits replaying atTime (clampedObservation config.limits obs)
      (room.enter obs.subject.generation atTime)).2.kind = .Refused)
    (hf : (insertEvidence config.limits replaying atTime (clampedObservation config.limits obs)
      (room.enter obs.subject.generation atTime)).1.Noted f')
    (ho : outcome.disposition = .Refused) : FlowApplied config sources ctx replaying atTime obs f f' outcome
  /-- The ledger answered otherwise and the flow is recomputed. -/
  | recomputed {outcome : IngestOutcome} (room settled : FlowRuntime) (hkey : f.canonicalKey = obs.subject.flowKey)
    (hroom : Roomed config.limits f obs.subject.generation room)
    (hbind : ((obtainGeneration room obs.subject.generation atTime).bindings.find? obs.key.source).isSome = true ∨
      (obtainGeneration room obs.subject.generation atTime).bindings.toList.length <
        config.limits.maxSourcesPerFlow.toNat)
    (hskew : exceedsClockSkew obs.observedAt obs.receivedAt config.limits.maxClockSkew = true →
      config.freshness.clampFutureTimestamps = true)
    (hr : (insertEvidence config.limits replaying atTime (clampedObservation config.limits obs)
      (room.enter obs.subject.generation atTime)).2.kind ≠ .Refused)
    (hs : ((insertEvidence config.limits replaying atTime (clampedObservation config.limits obs)
      (room.enter obs.subject.generation atTime)).1.revise (insertEvidence config.limits replaying atTime
        (clampedObservation config.limits obs) (room.enter obs.subject.generation atTime)).2.kind).Noted settled)
    (ho : outcome.disposition = (insertEvidence config.limits replaying atTime (clampedObservation config.limits obs)
      (room.enter obs.subject.generation atTime)).2.kind.disposition) :
    FlowApplied config sources ctx replaying atTime obs f
      (recomputeFlow config sources ctx atTime (settled.touch obs.subject.generation atTime)) outcome

@[simp] theorem obtainGeneration_id (f : FlowRuntime) (wanted : GenerationId) (atTime : Timestamp) :
    (obtainGeneration f wanted atTime).id = wanted := by
  unfold obtainGeneration
  cases h : f.generations.find? wanted with
  | none => rfl
  | some g => exact SortedVec.find?_key h

theorem find?_enter (f : FlowRuntime) (wanted gen : GenerationId) (atTime : Timestamp) :
    (f.enter wanted atTime).generations.find? gen
      = if wanted = gen then some (obtainGeneration f wanted atTime) else f.generations.find? gen := by
  show (f.generations.set (obtainGeneration f wanted atTime)).find? gen = _
  rw [SortedVec.find?_set, obtainGeneration_id]

/-- The generation of an observation after the ledger of its source has answered. -/
def insertGeneration (limits : Limits) (replaying : Bool) (flow : FlowId) (obs : Observation) (g : GenerationRuntime) :
    GenerationRuntime :=
  let taken := (obtainBinding limits replaying g obs.key.source ⟨flow, g.id⟩).take replaying obs
  { g with bindings := g.bindings.set taken.1 }

theorem insertEvidence_generations (limits : Limits) (replaying : Bool) (atTime : Timestamp) (obs : Observation)
    (f : FlowRuntime) : (insertEvidence limits replaying atTime obs f).1 = { f with
      generations := f.generations.set (insertGeneration limits replaying f.id obs
        (obtainGeneration f obs.subject.generation atTime)) } := rfl

theorem find?_insertEvidence (limits : Limits) (replaying : Bool) (atTime : Timestamp) (obs : Observation)
    (f : FlowRuntime) (gen : GenerationId) : (insertEvidence limits replaying atTime obs f).1.generations.find? gen
      = if obs.subject.generation = gen then some (insertGeneration limits replaying f.id obs
          (obtainGeneration f obs.subject.generation atTime)) else f.generations.find? gen := by
  rw [insertEvidence_generations]
  show (f.generations.set (insertGeneration limits replaying f.id obs
    (obtainGeneration f obs.subject.generation atTime))).find? gen = _
  rw [SortedVec.find?_set, show (insertGeneration limits replaying f.id obs
    (obtainGeneration f obs.subject.generation atTime)).id = obs.subject.generation from obtainGeneration_id ..]

theorem find?_touch (f : FlowRuntime) (wanted gen : GenerationId) (atTime : Timestamp) :
    (f.touch wanted atTime).generations.find? gen
      = if wanted = gen then some { obtainGeneration f wanted atTime with lastTouched := atTime }
        else f.generations.find? gen := by
  show (f.generations.set { obtainGeneration f wanted atTime with lastTouched := atTime }).find? gen = _
  rw [SortedVec.find?_set, show ({ obtainGeneration f wanted atTime with lastTouched := atTime } : GenerationRuntime).id
    = wanted from obtainGeneration_id ..]

/-- Making room for a generation keeps it when it is there, and takes away one other at most. -/
theorem Roomed.find? {f room : FlowRuntime} {wanted : GenerationId} (h : Roomed limits f wanted room) :
    room.generations.find? wanted = f.generations.find? wanted ∧
      ∀ gen, room.generations.find? gen = f.generations.find? gen ∨ room.generations.find? gen = none := by
  cases h with
  | known h => exact ⟨rfl, fun _ => .inl rfl⟩
  | free h => exact ⟨rfl, fun _ => .inl rfl⟩
  | evicted h _ he =>
    obtain ⟨g, -, rfl⟩ := Option.map_eq_some_iff.1 he
    have hfind : ∀ gen, (f.generations.erase g.id).find? gen = f.generations.find? gen ∨
        (f.generations.erase g.id).find? gen = none := fun gen => by
      rw [SortedVec.find?_erase]
      split
      · exact .inr rfl
      · exact .inl rfl
    refine ⟨?_, hfind⟩
    rcases hfind wanted with hw | hw
    · exact hw
    · exact hw.trans h.symm

theorem obtainGeneration_enter (f : FlowRuntime) (wanted : GenerationId) (atTime : Timestamp) :
    obtainGeneration (f.enter wanted atTime) wanted atTime = obtainGeneration f wanted atTime := by
  rw [obtainGeneration, find?_enter, if_pos rfl, Option.getD_some]

theorem obtainGeneration_noted {f f' : FlowRuntime} (h : f.Noted f') (wanted : GenerationId) (atTime : Timestamp) :
    obtainGeneration f' wanted atTime = obtainGeneration f wanted atTime := by
  obtain ⟨a, d, k, rfl⟩ := h
  rfl

/-- Notes do not matter to the room for a generation. -/
theorem Roomed.noted {f f' room : FlowRuntime} {wanted : GenerationId} (hf : f.Noted f')
    (h : Roomed limits f' wanted room) : ∃ room', Roomed limits f wanted room' ∧ room'.Noted room := by
  obtain ⟨a, d, k, rfl⟩ := hf
  cases h with
  | known h => exact ⟨f, .known h, ⟨a, d, k, rfl⟩⟩
  | free h => exact ⟨f, .free h, ⟨a, d, k, rfl⟩⟩
  | evicted h _ he =>
    obtain ⟨g, hg, rfl⟩ := Option.map_eq_some_iff.1 he
    refine ⟨{ f with generations := f.generations.erase g.id }, .evicted (f := f) h _ ?_, ⟨a, d, k, rfl⟩⟩
    exact Option.map_eq_some_iff.2 ⟨g, hg, rfl⟩

theorem FlowRuntime.Noted.enter {f f' : FlowRuntime} (h : f.Noted f') (wanted : GenerationId) (atTime : Timestamp) :
    (f.enter wanted atTime).Noted (f'.enter wanted atTime) := by
  obtain ⟨a, d, k, rfl⟩ := h
  exact ⟨a, d, k, rfl⟩

theorem FlowRuntime.Noted.revise {f f' : FlowRuntime} (h : f.Noted f') (kind : InsertKind) :
    (f.revise kind).Noted (f'.revise kind) := by
  obtain ⟨a, d, k, rfl⟩ := h
  unfold FlowRuntime.revise
  split <;> exact ⟨a, d, k, rfl⟩

/-- What the apply stage does to a flow in which the generation was entered. -/
theorem applyEvidence_cases (config : EngineConfig) (sources : SourceTable) (ctx : FreshnessContext) (replaying : Bool)
    (atTime : Timestamp) (obs : Observation) (tx : FlowTx) :
    let inserted := insertEvidence config.limits replaying atTime obs tx.flow
    let result := applyEvidence config sources ctx replaying atTime obs tx
    result.2.disposition = inserted.2.kind.disposition ∧
      if inserted.2.kind = .Refused then inserted.1.Noted result.1.flow
      else ∃ settled, (inserted.1.revise inserted.2.kind).Noted settled ∧
        result.1.flow = recomputeFlow config sources ctx atTime (settled.touch obs.subject.generation atTime) := by
  intro inserted result
  have hs := (settleInsert_flow config.limits atTime obs inserted.2 { tx with flow := inserted.1 }).1
  by_cases hk : inserted.2.kind = .Refused
  · have hr : result = (settleInsert config.limits atTime obs inserted.2 { tx with flow := inserted.1 }, result.2) := by
      simp only [result, applyEvidence, inserted] at hk ⊢
      rw [if_pos hk]
    rw [if_pos hk]
    refine ⟨by simp only [result, applyEvidence, inserted] at hk ⊢; rw [if_pos hk], ?_⟩
    rw [hr]
    rwa [FlowRuntime.revise, if_neg (by rw [hk]; decide)] at hs
  · rw [if_neg hk]
    refine ⟨by simp only [result, applyEvidence, inserted] at hk ⊢; rw [if_neg hk], _, hs, ?_⟩
    simp only [result, applyEvidence, inserted] at hk ⊢
    rw [if_neg hk]

/-- **The list of `FlowApplied` is complete.** -/
theorem applyToFlow_cases (config : EngineConfig) (sources : SourceTable) (ctx : FreshnessContext) (replaying : Bool)
    (atTime : Timestamp) (obs : Observation) (tx : FlowTx) :
    FlowApplied config sources ctx replaying atTime obs tx.flow
      (Exit.ofExcept (applyToFlow config sources ctx replaying atTime obs tx)).1.flow
      (Exit.ofExcept (applyToFlow config sources ctx replaying atTime obs tx)).2 := by
  unfold applyToFlow
  cases h1 : matchKey config.limits atTime obs tx with
  | error x =>
    obtain ⟨hkey, -, ho, -, hf⟩ := matchKey_error h1
    exact .collided hkey hf ho
  | ok tx1 =>
    obtain ⟨hkey, rfl⟩ := matchKey_ok.1 h1
    simp only [ok_bind]
    cases h2 : registerIdentities config.limits atTime obs tx1 with
    | error x =>
      obtain ⟨-, hf, ho⟩ := registerIdentities_error h2
      exact .stopped hkey hf ho
    | ok tx2 =>
      obtain ⟨-, hf2⟩ := registerIdentities_ok h2
      simp only [ok_bind]
      cases h3 : clampSkew config.limits config.freshness atTime obs tx2 with
      | error x =>
        obtain ⟨-, hf, ho⟩ := clampSkew_error h3
        exact .stopped hkey (hf2 ▸ hf) ho
      | ok p =>
        obtain ⟨tx3, obs'⟩ := p
        obtain ⟨rfl, -, hf3, hskew⟩ := clampSkew_ok h3
        rw [hf2] at hf3
        simp only [ok_bind]
        cases h4 : makeGenerationRoom config.limits atTime (clampedObservation config.limits obs) tx3 with
        | error x =>
          obtain ⟨-, hf, ho⟩ := makeGenerationRoom_error h4
          exact .stopped hkey (hf3.trans hf) ho
        | ok tx4 =>
          obtain ⟨hroom, -⟩ := makeGenerationRoom_ok h4
          rw [clampedObservation_subject] at hroom
          obtain ⟨room, hroom, hr4⟩ := hroom.noted hf3
          have he := (enterGeneration_flow config.limits atTime (clampedObservation config.limits obs) tx4).1
          rw [clampedObservation_subject] at he
          replace he := (hr4.enter obs.subject.generation atTime).trans he
          have hobtain : obtainGeneration
            (enterGeneration config.limits atTime (clampedObservation config.limits obs) tx4).flow
              obs.subject.generation atTime = obtainGeneration room obs.subject.generation atTime := by
            rw [obtainGeneration_noted he, obtainGeneration_enter]
          simp only [ok_bind]
          cases h5 : checkSourceRoom config.limits atTime (clampedObservation config.limits obs)
              (enterGeneration config.limits atTime (clampedObservation config.limits obs) tx4) with
          | error x =>
            obtain ⟨-, hf, ho, -, hfull⟩ := checkSourceRoom_error h5
            rw [clampedObservation_subject, hobtain] at hfull
            exact .noSourceRoom room hkey hroom hfull (he.trans hf) ho
          | ok tx5 =>
            obtain ⟨rfl, hbind⟩ := checkSourceRoom_ok h5
            rw [clampedObservation_subject, clampedObservation_key, hobtain] at hbind
            obtain ⟨ho, hc⟩ := applyEvidence_cases config sources ctx replaying atTime
              (clampedObservation config.limits obs)
              (enterGeneration config.limits atTime (clampedObservation config.limits obs) tx4)
            obtain ⟨hk, hn⟩ := insertEvidence_noted config.limits replaying atTime
              (clampedObservation config.limits obs) he
            rw [hk] at ho hc
            split at hc
            · rename_i hkind
              exact .ledgerRefused room hkey hroom hbind hkind (hn.trans hc) (by rw [hkind] at ho; exact ho)
            · rename_i hkind
              obtain ⟨settled, hs, hflow⟩ := hc
              rw [clampedObservation_subject] at hflow
              have happ : FlowApplied config sources ctx replaying atTime obs tx1.flow _ _ :=
                .recomputed room settled hkey hroom hbind hskew hkind ((hn.revise _).trans hs) ho
              exact hflow ▸ happ

/-! ## The registries -/

/-- Each of the registries has the property. -/
structure Registries.Each (P : ∀ d, IdentityRegistry d → Prop) (r : Registries) : Prop where
  endpoints : P .endpoint r.endpoints
  paths : P .path r.paths
  links : P .link r.links
  queues : P .queue r.queues

/-- **What registering each identity of an observation keeps, registering them all keeps**, also up to a refusal. -/
theorem Registries.Each.register {P : ∀ d, IdentityRegistry d → Prop} {r : Registries} (h : r.Each P)
    {s : ObservationSubject}
    (hendpoint : ∀ r, P .endpoint r → P .endpoint (registerOne limits r s.endpoint s.endpointKey).1)
    (hpeer : ∀ endpoints, registerOne limits r.endpoints s.endpoint s.endpointKey = (endpoints, none) →
      P .endpoint endpoints → P .endpoint (registerOne limits endpoints s.peerEndpoint s.peerEndpointKey).1)
    (hpath : ∀ r, P .path r → P .path (registerOne limits r (s.path.getD default) s.pathKey).1)
    (hqueue : ∀ r, P .queue r → P .queue (registerOne limits r (s.queue.getD default) s.queueKey).1)
    (hlink : ∀ r, P .link r → P .link (registerOne limits r (s.link.getD default) s.linkKey).1) :
    (registerIdentity limits s r).1.Each P := by
  have hpaths := hpath _ h.paths
  have hqueues := hqueue _ h.queues
  have hlinks := hlink _ h.links
  have hendpoints := hendpoint _ h.endpoints
  unfold registerIdentity
  generalize registerOne limits r.endpoints s.endpoint s.endpointKey = first at hendpoints hpeer ⊢
  obtain ⟨endpoints, _ | err⟩ := first
  · have hpeers := hpeer _ rfl hendpoints
    simp only
    generalize registerOne limits endpoints s.peerEndpoint s.peerEndpointKey = second at hpeers ⊢
    obtain ⟨peers, _ | err⟩ := second
    · simp only
      generalize registerOne limits r.paths (s.path.getD default) s.pathKey = third at hpaths ⊢
      obtain ⟨paths, _ | err⟩ := third
      · simp only
        generalize registerOne limits r.queues (s.queue.getD default) s.queueKey = fourth at hqueues ⊢
        obtain ⟨queues, _ | err⟩ := fourth
        · exact ⟨hpeers, hpaths, hlinks, hqueues⟩
        · exact ⟨hpeers, hpaths, h.links, hqueues⟩
      · exact ⟨hpeers, hpaths, h.links, h.queues⟩
    · exact ⟨hpeers, h.paths, h.links, h.queues⟩
  · exact ⟨hendpoints, h.paths, h.links, h.queues⟩

/-! ## The logs of the flow and the registries -/

/-- The identity of the flow, its logs, the registries and the count of collisions are as they were. -/
structure FlowTx.SameLogs (tx tx' : FlowTx) : Prop where
  id : tx'.flow.id = tx.flow.id
  canonicalKey : tx'.flow.canonicalKey = tx.flow.canonicalKey
  anomalies : tx'.flow.anomalies = tx.flow.anomalies
  history : tx'.flow.history = tx.flow.history
  registries : tx'.registries = tx.registries
  collisions : tx'.counters.identityCollisions = tx.counters.identityCollisions

/-- A property of the logs of a flow, of the registries and of the count of collisions that the stages after the
identities keep. -/
structure LogRule (limits : Limits) (R : FlowTx → Prop) : Prop where
  keep : ∀ tx tx' : FlowTx, tx.SameLogs tx' → R tx → R tx'
  note : ∀ tx a, R tx → R (tx.note limits a)
  recompute : ∀ config sources ctx atTime tx, config.limits = limits → R tx →
    R { tx with flow := recomputeFlow config sources ctx atTime tx.flow }

/-- Such a property that every stage keeps. -/
structure StageRule (limits : Limits) (subject : ObservationSubject) (R : FlowTx → Prop) : Prop
    extends LogRule limits R where
  collided : ∀ tx, R tx → R tx.collided
  register : ∀ tx, R tx → R { tx with registries := (registerIdentity limits subject tx.registries).1 }

/-- The property holds where a stage ends, whichever way. -/
def Leaves (R : FlowTx → Prop) : Except Exit FlowTx → Prop
  | .error x => R x.1
  | .ok tx => R tx

namespace LogRule

variable {R : FlowTx → Prop}

theorem clampSkew (hR : LogRule limits R) (h : R tx) :
    Leaves R ((clampSkew limits freshness atTime obs tx).map (·.1)) := by
  unfold FlowObs.clampSkew
  split
  · exact h
  · split
    · exact hR.keep (tx.note limits _) _ ⟨rfl, rfl, rfl, rfl, rfl, rfl⟩ (hR.note tx _ h)
    · exact hR.note tx _ h

theorem makeGenerationRoom (hR : LogRule limits R) (h : R tx) :
    Leaves R (makeGenerationRoom limits atTime obs' tx) := by
  unfold FlowObs.makeGenerationRoom
  split
  · exact h
  · split
    · rename_i flow he
      obtain ⟨g, -, rfl⟩ := Option.map_eq_some_iff.1 he
      exact hR.keep tx _ ⟨rfl, rfl, rfl, rfl, rfl, rfl⟩ h
    · exact hR.keep (tx.note limits _) _ ⟨rfl, rfl, rfl, rfl, rfl, rfl⟩ (hR.note tx _ h)

theorem enterGeneration (hR : LogRule limits R) (h : R tx) :
    R (enterGeneration limits atTime obs' tx) := by
  simp only [FlowObs.enterGeneration]
  split
  · exact hR.keep tx _ ⟨rfl, rfl, rfl, rfl, rfl, rfl⟩ h
  · split
    · exact hR.note _ _ (hR.keep tx _ ⟨rfl, rfl, rfl, rfl, rfl, rfl⟩ h)
    · exact hR.keep tx _ ⟨rfl, rfl, rfl, rfl, rfl, rfl⟩ h

theorem checkSourceRoom (hR : LogRule limits R) (h : R tx) :
    Leaves R (checkSourceRoom limits atTime obs' tx) := by
  simp only [FlowObs.checkSourceRoom]
  split
  · exact h
  · exact hR.keep (tx.note limits _) _ ⟨rfl, rfl, rfl, rfl, rfl, rfl⟩ (hR.note tx _ h)

theorem applyEvidence (hR : LogRule config.limits R) (h : R tx) :
    R (applyEvidence config sources ctx replaying atTime obs' tx).1 := by
  have hsettled : ∀ r tx, R tx → R (settleInsert config.limits atTime obs' r tx) := by
    intro r tx h
    unfold settleInsert
    split
    · exact hR.keep tx _ ⟨rfl, rfl, rfl, rfl, rfl, rfl⟩ h
    · exact hR.keep tx _ ⟨rfl, rfl, rfl, rfl, rfl, rfl⟩ h
    · exact hR.note _ _ (hR.keep tx _ ⟨rfl, rfl, rfl, rfl, rfl, rfl⟩ h)
    · exact hR.note _ _ (hR.keep tx _ ⟨rfl, rfl, rfl, rfl, rfl, rfl⟩ h)
  have hinserted := hsettled (insertEvidence config.limits replaying atTime obs' tx.flow).2 _
    (hR.keep tx { tx with flow := (insertEvidence config.limits replaying atTime obs' tx.flow).1 }
      ⟨rfl, rfl, rfl, rfl, rfl, rfl⟩ h)
  simp only [FlowObs.applyEvidence]
  split
  · exact hinserted
  · generalize settleInsert config.limits atTime obs' _ _ = settled at hinserted
    have htouched := hR.keep settled { settled with flow := settled.flow.touch obs'.subject.generation atTime }
      ⟨rfl, rfl, rfl, rfl, rfl, rfl⟩ hinserted
    have hrecomputed := hR.recompute config sources ctx atTime _ rfl htouched
    generalize settled.flow.touch obs'.subject.generation atTime = touched at hrecomputed ⊢
    exact hR.keep { settled with flow := recomputeFlow config sources ctx atTime touched } _
      ⟨rfl, rfl, rfl, rfl, rfl, rfl⟩ hrecomputed

/-- **What the stages after the identities keep holds after the stages**, when it holds after the identities. -/
theorem applyToFlow (hR : LogRule config.limits R)
    (h : Leaves R (FlowObs.matchKey config.limits atTime obs tx >>= FlowObs.registerIdentities config.limits
      atTime obs)) :
    R (Exit.ofExcept (applyToFlow config sources ctx replaying atTime obs tx)).1 := by
  have hstages : FlowObs.applyToFlow config sources ctx replaying atTime obs tx
      = (FlowObs.matchKey config.limits atTime obs tx >>= FlowObs.registerIdentities config.limits atTime obs)
        >>= (fun tx => do
        let clamped ← FlowObs.clampSkew config.limits config.freshness atTime obs tx
        let tx ← FlowObs.makeGenerationRoom config.limits atTime clamped.2 clamped.1
        let tx ← FlowObs.checkSourceRoom config.limits atTime clamped.2
          (FlowObs.enterGeneration config.limits atTime clamped.2 tx)
        pure (FlowObs.applyEvidence config sources ctx replaying atTime clamped.2 tx)) := by
    rw [FlowObs.applyToFlow, bind_assoc]
  rw [hstages]
  cases hr : FlowObs.matchKey config.limits atTime obs tx >>= FlowObs.registerIdentities config.limits atTime obs with
  | error x =>
    rw [hr] at h
    exact h
  | ok tx2 =>
    rw [hr] at h
    simp only [ok_bind]
    have h3 : Leaves R ((FlowObs.clampSkew config.limits config.freshness atTime obs tx2).map (·.1)) := hR.clampSkew h
    cases hc : FlowObs.clampSkew config.limits config.freshness atTime obs tx2 with
    | error x =>
      rw [hc] at h3
      exact h3
    | ok p =>
      obtain ⟨tx3, obs'⟩ := p
      rw [hc] at h3
      simp only [ok_bind]
      have h4 : Leaves R (FlowObs.makeGenerationRoom config.limits atTime obs' tx3) := hR.makeGenerationRoom h3
      cases hg : FlowObs.makeGenerationRoom config.limits atTime obs' tx3 with
      | error x =>
        rw [hg] at h4
        exact h4
      | ok tx4 =>
        rw [hg] at h4
        simp only [ok_bind]
        have h5 : Leaves R (FlowObs.checkSourceRoom config.limits atTime obs'
            (FlowObs.enterGeneration config.limits atTime obs' tx4)) := hR.checkSourceRoom (hR.enterGeneration h4)
        cases hs : FlowObs.checkSourceRoom config.limits atTime obs'
            (FlowObs.enterGeneration config.limits atTime obs' tx4) with
        | error x =>
          rw [hs] at h5
          exact h5
        | ok tx5 =>
          rw [hs] at h5
          exact hR.applyEvidence h5

end LogRule

namespace StageRule

variable {R : FlowTx → Prop}

theorem matchKey (hR : StageRule limits obs.subject R) (h : R tx) : Leaves R (matchKey limits atTime obs tx) := by
  unfold FlowObs.matchKey
  split
  · exact h
  · have hcollided := hR.collided tx h
    exact hR.keep (tx.collided.note limits _) _ ⟨rfl, rfl, rfl, rfl, rfl, rfl⟩ (hR.note _ _ hcollided)

theorem registerIdentities (hR : StageRule limits obs.subject R) (h : R tx) :
    Leaves R (registerIdentities limits atTime obs tx) := by
  have hregistered := hR.register tx h
  unfold FlowObs.registerIdentities
  split
  · rename_i hr
    rw [hr] at hregistered
    exact hregistered
  · rename_i registries kind err hr
    rw [hr] at hregistered
    have hcounted : R (if kind = .IdentityCollision then FlowTx.collided { tx with registries := registries }
        else { tx with registries := registries }) := by
      split
      · exact hR.collided { tx with registries := registries } hregistered
      · exact hregistered
    exact hR.keep (FlowTx.note _ limits _) _ ⟨rfl, rfl, rfl, rfl, rfl, rfl⟩ (hR.note _ _ hcounted)

/-- **What every stage keeps, the stages keep.** -/
theorem applyToFlow (hR : StageRule config.limits obs.subject R) (h : R tx) :
    R (Exit.ofExcept (applyToFlow config sources ctx replaying atTime obs tx)).1 := by
  refine hR.toLogRule.applyToFlow ?_
  have hmatched : Leaves R (FlowObs.matchKey config.limits atTime obs tx) := hR.matchKey h
  cases hm : FlowObs.matchKey config.limits atTime obs tx with
  | error x =>
    rw [hm] at hmatched
    exact hmatched
  | ok tx1 =>
    rw [hm] at hmatched
    exact hR.registerIdentities hmatched

end StageRule

end Stages

/-! ## The engine -/

namespace Engine

variable {e e' : Engine} {atTime : Timestamp} {obs : Observation} {outcome : IngestOutcome}

/-- The two engines differ in their tables, counters and journal at most. -/
def SameSettings (e e' : Engine) : Prop :=
  ∃ counters journal sequence flows sources registries, e' = { e with
    counters := counters, journal := journal, snapshotSequence := sequence, flows := flows, sources := sources
    registries := registries }

/-- The two engines differ in their counters and journal at most. -/
def SameTables (e e' : Engine) : Prop :=
  ∃ counters journal sequence, e' = { e with
    counters := counters, journal := journal, snapshotSequence := sequence }

theorem SameTables.refl (e : Engine) : e.SameTables e := ⟨_, _, _, rfl⟩

theorem SameTables.trans {e₁ e₂ e₃ : Engine} (h : e₁.SameTables e₂) (h' : e₂.SameTables e₃) : e₁.SameTables e₃ := by
  obtain ⟨_, _, _, rfl⟩ := h
  obtain ⟨_, _, _, rfl⟩ := h'
  exact ⟨_, _, _, rfl⟩

theorem SameTables.count (e : Engine) (f : EngineCounters → EngineCounters) : e.SameTables (e.count f) := ⟨_, _, _, rfl⟩

theorem sameTables_compactLocked (e : Engine) : e.SameTables e.compactLocked.1 := by
  unfold compactLocked
  split
  · exact .refl e
  · split
    · exact ⟨_, _, _, rfl⟩
    · split <;> exact ⟨_, _, _, rfl⟩

theorem sameTables_appendRecord (e : Engine) (r : Record) : e.SameTables (e.appendRecord r).1 := by
  unfold appendRecord
  split <;> exact ⟨_, _, _, rfl⟩

theorem sameTables_recordAppended (r : Record) (p : Engine × Except Error Unit) :
    p.1.SameTables (recordAppended r p).1 := by
  obtain ⟨e, status⟩ := p
  cases status <;> exact ⟨_, _, _, rfl⟩

theorem sameTables_appendObservation (e : Engine) (obs : Observation) : e.SameTables (e.appendObservation obs).1 :=
  appendObservation_rule (P := e.SameTables) (fun _ h => h.trans (sameTables_appendRecord _ _))
    (fun _ h => h.trans (sameTables_compactLocked _)) (fun _ _ h => h.trans (sameTables_recordAppended _ _)) (.refl e)

theorem sameTables_appendSource (e : Engine) (d : SourceDescriptor) : e.SameTables (e.appendSource d).1 := by
  have h := sameTables_appendRecord e ⟨.SourceDescriptor, writeSourceDescriptor d⟩
  simp only [appendSource]
  split
  · exact h
  · exact h.trans ⟨_, _, _, rfl⟩

/-- The source table that an observation from `source` finds or makes. -/
inductive SourceFor (e : Engine) (atTime : Timestamp) (source : SourceId) : SourceTable → Prop
  | known (s : SourceState) (h : e.sources.find? source = some s) (hr : s.retired = false) :
  SourceFor e atTime source e.sources
  | fresh (h : e.sources.find? source = none) (hroom : e.sources.toList.length < e.config.limits.maxSources.toNat) :
    SourceFor e atTime source (e.sources.set (unregisteredSource atTime source))

theorem resolveSource_ok {source : SourceId} (h : e.resolveSource atTime source = .ok e') :
    SourceFor e atTime source e'.sources ∧ e' = { e with sources := e'.sources } := by
  unfold resolveSource at h
  split at h
  · rename_i s hs
    split at h
    · cases h
    · rename_i hr
      cases h
      exact ⟨.known s hs (by simpa using hr), rfl⟩
  · rename_i hn
    split at h
    · cases h
    · rename_i hlen
      cases h
      exact ⟨.fresh hn (Nat.not_le.1 hlen), rfl⟩

/-- The flow table in which there may be room for one more flow. -/
inductive FlowRoom (e : Engine) : SortedVec FlowRuntime.id → Prop
  | free (h : e.flows.toList.length < e.config.limits.maxFlows.toNat) : FlowRoom e e.flows
  | evicted (h : e.config.limits.maxFlows.toNat ≤ e.flows.toList.length) (v : FlowRuntime) (hv : e.victim = some v) :
    FlowRoom e (e.flows.erase v.id)

theorem FlowRoom.of_sources {sources : SourceTable} {flows : SortedVec FlowRuntime.id}
    (h : FlowRoom { e with sources := sources } flows) : FlowRoom e flows := by
  cases h with
  | free h => exact .free h
  | evicted h v hv => exact .evicted (e := e) h v hv

theorem makeFlowRoom_cases (e : Engine) :
    (e.makeFlowRoom.2 = true ∧ FlowRoom e e.makeFlowRoom.1.flows ∨
        e.makeFlowRoom.2 = false ∧ (e.makeFlowRoom.1.flows = e.flows ∨ FlowRoom e e.makeFlowRoom.1.flows)) ∧
      e.makeFlowRoom.1 = { e with flows := e.makeFlowRoom.1.flows, counters := e.makeFlowRoom.1.counters } := by
  unfold makeFlowRoom
  split
  · rename_i hlen
    exact ⟨.inl ⟨rfl, .free hlen⟩, rfl⟩
  · rename_i hlen
    simp only [evictOneFlow]
    cases hv : e.victim with
    | none => exact ⟨.inr ⟨rfl, .inl rfl⟩, rfl⟩
    | some v =>
      have hroom : FlowRoom e (e.flows.erase v.id) := .evicted (Nat.not_lt.1 hlen) v hv
      refine ⟨?_, rfl⟩
      simp only [Option.map_some, count, decide_eq_true_eq, decide_eq_false_iff_not, Nat.not_lt]
      rcases Nat.lt_or_ge (e.flows.erase v.id).toList.length e.config.limits.maxFlows.toNat with h | h
      · exact .inl ⟨h, hroom⟩
      · exact .inr ⟨h, .inr hroom⟩

/-- **What `applyJournaled` can do to the engine**, with the outcome it reports. -/
inductive Admitted (e : Engine) (atTime : Timestamp) (obs : Observation) : Engine → IngestOutcome → Prop
  /-- The source table is full or the source is retired. -/
  | noSource {e' : Engine} {outcome : IngestOutcome} (he : e.SameTables e') (ho : outcome.disposition = .Refused) :
    Admitted e atTime obs e' outcome
  /-- The flow table is full. -/
  | noFlowRoom {e' : Engine} {outcome : IngestOutcome} (sources : SourceTable) (flows : SortedVec FlowRuntime.id)
    (hsource : SourceFor e atTime obs.key.source sources) (hnone : e.flows.find? obs.subject.flow = none)
    (hroom : flows = e.flows ∨ FlowRoom e flows) (he : { e with sources := sources, flows := flows }.SameTables e')
    (ho : outcome.disposition = .Refused) : Admitted e atTime obs e' outcome
  /-- The flow is known. -/
  | found {e' : Engine} {outcome : IngestOutcome} (sources : SourceTable) (f f' : FlowRuntime) (registries : Registries)
    (hsource : SourceFor e atTime obs.key.source sources) (hf : e.flows.find? obs.subject.flow = some f)
    (happ : FlowApplied e.config sources e.context e.replaying atTime obs f f' outcome)
    (he : { e with sources := sources, registries := registries, flows := e.flows.set f' }.SameTables e') :
    Admitted e atTime obs e' outcome
  /-- The flow is created. -/
  | created {e' : Engine} {outcome : IngestOutcome} (sources : SourceTable) (flows : SortedVec FlowRuntime.id)
    (f' : FlowRuntime) (registries : Registries) (hsource : SourceFor e atTime obs.key.source sources)
    (hnone : e.flows.find? obs.subject.flow = none) (hroom : FlowRoom e flows)
    (happ : FlowApplied e.config sources e.context e.replaying atTime obs (e.createFlow atTime obs) f' outcome)
    (he : { e with sources := sources, registries := registries, flows := flows.set f' }.SameTables e') :
    Admitted e atTime obs e' outcome

/-- **The list of `Admitted` is complete.** -/
theorem applyJournaled_cases (e : Engine) (atTime : Timestamp) (obs : Observation) :
    Admitted e atTime obs (e.applyJournaled atTime obs).1 (e.applyJournaled atTime obs).2 := by
  unfold applyJournaled
  split
  · exact .noSource ⟨_, _, _, rfl⟩ rfl
  · rename_i e₁ h₁
    obtain ⟨hsource, he₁⟩ := resolveSource_ok h₁
    generalize e₁.sources = sources at hsource he₁
    subst he₁
    simp only [resolveFlow]
    cases hf : e.flows.find? obs.subject.flow with
    | some f =>
      exact .found sources f _ _ hsource hf (applyToFlow_cases e.config sources e.context e.replaying atTime obs
        ⟨f, e.registries, e.counters⟩) ⟨_, _, _, rfl⟩
    | none =>
      obtain ⟨hroom, he₂⟩ := makeFlowRoom_cases { e with sources := sources }
      generalize hr : ({ e with sources := sources } : Engine).makeFlowRoom = room at hroom he₂
      obtain ⟨e₂, ok⟩ := room
      simp only at hroom he₂
      generalize e₂.flows = flows at hroom he₂
      generalize e₂.counters = counters at he₂
      subst he₂
      cases ok with
      | false =>
        have hflows : flows = e.flows ∨ FlowRoom e flows := by
          rcases hroom with ⟨h, -⟩ | ⟨-, h | h⟩
          · cases h
          · exact .inl h
          · exact .inr h.of_sources
        exact .noFlowRoom sources flows hsource hf hflows ⟨_, _, _, rfl⟩ rfl
      | true =>
        have hflows : FlowRoom e flows := by
          rcases hroom with ⟨-, h⟩ | ⟨h, -⟩
          · exact h.of_sources
          · cases h
        exact .created sources flows _ _ hsource hf hflows (applyToFlow_cases e.config sources e.context e.replaying
          atTime obs ⟨e.createFlow atTime obs, e.registries, _⟩) ⟨_, _, _, rfl⟩

/-- **What `apply_locked` can do to the engine**, with the outcome it reports. -/
inductive Received (e : Engine) (incoming : Observation) : Engine → IngestOutcome → Prop
  /-- The observation is malformed. -/
  | invalid {e' : Engine} {outcome : IngestOutcome} (err : Error)
    (hv : validateObservation e.config.limits incoming = .error err)
    (he : ∃ counters, e' = { e with counters := counters }) (ho : outcome.disposition = .Refused) :
    Received e incoming e' outcome
  /-- The journal refused it. -/
  | unjournaled {e' : Engine} {outcome : IngestOutcome} (err : Error)
    (hv : validateObservation e.config.limits incoming = .ok ()) (hlive : e.replaying = false)
    (hj : (e.received.appendObservation (prepare e.instant incoming)).2 = .error err)
    (he : e' = (e.received.appendObservation (prepare e.instant incoming)).1.count fun c =>
      { c with observationsRefused := c.observationsRefused + 1 })
    (ho : outcome.disposition = .Refused) : Received e incoming e' outcome
  /-- It is admitted to the tables, after it was journalled unless it is replayed. -/
  | admitted {e' : Engine} {outcome : IngestOutcome} (e₁ : Engine)
    (hv : validateObservation e.config.limits incoming = .ok ())
    (hj : e.replaying = true ∧ e₁ = e.received ∨
      e.replaying = false ∧ e.received.appendObservation (prepare e.instant incoming) = (e₁, .ok ()))
    (hsame : e.SameTables e₁) (ha : Admitted e₁ e.instant (prepare e.instant incoming) e' outcome) :
    Received e incoming e' outcome

theorem applyLocked_invalid {err : Error} {incoming : Observation}
    (hv : validateObservation e.config.limits incoming = .error err) :
    e.applyLocked incoming = e.received.refuse err.code err.message := by
  simp [applyLocked, hv]

theorem applyLocked_replaying {incoming : Observation} (hv : validateObservation e.config.limits incoming = .ok ())
    (hr : e.replaying = true) : e.applyLocked incoming =
    e.received.applyJournaled e.instant (prepare e.instant incoming) := by
  simp [applyLocked, hv, hr]

theorem applyLocked_unjournaled {err : Error} {incoming : Observation}
    (hv : validateObservation e.config.limits incoming = .ok ()) (hr : e.replaying = false)
    (hj : (e.received.appendObservation (prepare e.instant incoming)).2 = .error err) :
    e.applyLocked incoming = (e.received.appendObservation (prepare e.instant incoming)).1.refuse err.code
      (str "durable log refused the observation: " ++ err.message) := by
  simp [applyLocked, hv, hr, hj]

theorem applyLocked_journaled {incoming : Observation} (hv : validateObservation e.config.limits incoming = .ok ())
    (hr : e.replaying = false) (hj : (e.received.appendObservation (prepare e.instant incoming)).2 = .ok ()) :
    e.applyLocked incoming = (e.received.appendObservation (prepare e.instant incoming)).1.applyJournaled e.instant
      (prepare e.instant incoming) := by
  simp [applyLocked, hv, hr, hj]

/-- **The list of `Received` is complete.** -/
theorem applyLocked_cases (e : Engine) (incoming : Observation) :
    Received e incoming (e.applyLocked incoming).1 (e.applyLocked incoming).2 := by
  cases hv : validateObservation e.config.limits incoming with
  | error err =>
    rw [applyLocked_invalid hv]
    exact .invalid err hv ⟨_, rfl⟩ rfl
  | ok _ =>
    by_cases hr : e.replaying = true
    · rw [applyLocked_replaying hv hr]
      exact .admitted e.received hv (.inl ⟨hr, rfl⟩) ⟨_, _, _, rfl⟩ (applyJournaled_cases _ _ _)
    · have hsame := sameTables_appendObservation e.received (prepare e.instant incoming)
      replace hr : e.replaying = false := Bool.eq_false_iff.2 hr
      cases hj : (e.received.appendObservation (prepare e.instant incoming)).2 with
      | error err =>
        rw [applyLocked_unjournaled hv hr hj]
        exact .unjournaled err hv hr hj rfl rfl
      | ok _ =>
        rw [applyLocked_journaled hv hr hj]
        refine .admitted _ hv (.inr ⟨hr, Prod.ext rfl hj⟩) ?_ (applyJournaled_cases _ _ _)
        exact SameTables.trans ⟨_, _, _, rfl⟩ hsame

/-- Applying an observation changes tables, counters and the journal only. -/
theorem sameSettings_applyLocked (e : Engine) (incoming : Observation) : e.SameSettings (e.applyLocked incoming).1 := by
  have happ : ∀ {e₁ e' : Engine} {atTime : Timestamp} {obs : Observation} {outcome : IngestOutcome},
      Admitted e₁ atTime obs e' outcome → e₁.SameSettings e' := by
    intro e₁ e' atTime obs outcome ha
    cases ha with
    | noSource he _ => obtain ⟨_, _, _, rfl⟩ := he; exact ⟨_, _, _, _, _, _, rfl⟩
    | noFlowRoom _ _ _ _ _ he _ => obtain ⟨_, _, _, rfl⟩ := he; exact ⟨_, _, _, _, _, _, rfl⟩
    | found _ _ _ _ _ _ _ he => obtain ⟨_, _, _, rfl⟩ := he; exact ⟨_, _, _, _, _, _, rfl⟩
    | created _ _ _ _ _ _ _ _ he => obtain ⟨_, _, _, rfl⟩ := he; exact ⟨_, _, _, _, _, _, rfl⟩
  cases applyLocked_cases e incoming with
  | invalid _ _ he _ =>
    obtain ⟨_, he⟩ := he
    rw [he]
    exact ⟨_, _, _, _, _, _, rfl⟩
  | unjournaled _ _ _ _ he _ =>
    obtain ⟨_, _, _, hj⟩ := sameTables_appendObservation e.received (prepare e.instant incoming)
    rw [he, hj]
    exact ⟨_, _, _, _, _, _, rfl⟩
  | admitted e₁ _ _ hsame ha =>
    obtain ⟨_, _, _, rfl⟩ := hsame
    obtain ⟨_, _, _, _, _, _, he⟩ := happ ha
    rw [he]
    exact ⟨_, _, _, _, _, _, rfl⟩

theorem SameSettings.config_eq (h : e.SameSettings e') : e'.config = e.config := by
  obtain ⟨_, _, _, _, _, _, rfl⟩ := h
  rfl

theorem SameSettings.replaying_eq (h : e.SameSettings e') : e'.replaying = e.replaying := by
  obtain ⟨_, _, _, _, _, _, rfl⟩ := h
  rfl

end Engine

end FlowObs
