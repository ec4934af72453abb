import FlowObs.Engine.Snapshot

/-!
# What a restored ledger takes

A restored ledger retains no entry. All that it knows of the evidence that was accepted before is one bound, put
together component by component from where the ledger stood (`SourceLedger.mark`), so that it takes what lies past
that bound (`seeded_accepts_iff`). `resumes_iff` says so of every binding that comes back with a snapshot.
-/

namespace FlowObs

/-! ## One ledger -/

/-- The number of observations that a ledger has accepted, retained or folded, as it is counted: it wraps. -/
def SourceLedger.held (l : SourceLedger) : UInt32 :=
  l.prefixState.foldedObservations + UInt32.ofNat l.entries.toList.length

theorem SourceLedger.held_foldedState (l : SourceLedger) : l.foldedState.foldedObservations = l.held := by
  unfold SourceLedger.foldedState SourceLedger.held
  cases hback : l.entries.toList.getLast? with
  | none =>
    rw [List.getLast?_eq_none_iff] at hback
    rw [hback]
    simp
  | some back => rfl

/-- A valid observation of a source in a generation of a flow. -/
structure Observation.IsOf (obs : Observation) (flow : FlowId) (gen : GenerationId) (source : SourceId) : Prop where
  valid : obs.valid = true
  source : obs.key.source = source
  flow : obs.subject.flow = flow
  generation : obs.subject.generation = gen

instance (obs : Observation) (flow : FlowId) (gen : GenerationId) (source : SourceId) :
    Decidable (obs.IsOf flow gen source) :=
  decidable_of_iff (obs.valid = true ∧ obs.key.source = source ∧ obs.subject.flow = flow ∧ obs.subject.generation = gen)
    ⟨fun ⟨hv, hs, hf, hg⟩ => ⟨hv, hs, hf, hg⟩, fun h => ⟨h.valid, h.source, h.flow, h.generation⟩⟩

theorem Observation.IsOf.belongs {obs : Observation} {flow : FlowId} {gen : GenerationId} {source : SourceId}
    (h : obs.IsOf flow gen source) {l : SourceLedger} (hs : l.source = source) (hg : l.generation = ⟨flow, gen⟩) :
    l.belongs obs = .ok () := by
  unfold SourceLedger.belongs
  rw [hs, hg]
  simp [h.valid, h.source, h.flow, h.generation]

/-- A fold without the bits of the folded region remembers no key. -/
theorem FoldState.foldContains_of_blank {s : FoldState} (h : s.foldedSeqBits = 0) (key : CanonicalKey) :
    s.foldContains key = false := by
  unfold FoldState.foldContains
  rw [h]
  simp

/-- **A ledger without entries takes what is past its bound**, and everything when it counts nothing as folded. -/
theorem seeded_accepts_iff {l : SourceLedger} {obs : Observation} (hb : l.belongs obs = .ok ())
    (hentries : l.entries = ∅)
    (hbits : l.prefixState.foldedSeqBits = 0) : (l.insert obs).2.kind = .Accepted ↔
      l.prefixState.foldedObservations = 0 ∨ l.prefixState.foldedBound < obs.canonicalKey := by
  have hinside : l.insideFolded obs = false ↔
      l.prefixState.foldedObservations = 0 ∨ l.prefixState.foldedBound < obs.canonicalKey := by
    unfold SourceLedger.insideFolded
    rw [← canonicalLess_iff, Bool.and_eq_false_iff]
    refine or_congr ?_ (by simp)
    rw [decide_eq_false_iff_not, UInt32.not_lt]
    exact UInt32.le_zero_iff
  have hcontains := FoldState.foldContains_of_blank hbits obs.canonicalKey
  rw [← hinside]
  unfold SourceLedger.insert
  simp only [hb]
  by_cases hi : l.insideFolded obs = true
  · rw [if_pos hi, if_neg (by rw [hcontains]; exact Bool.false_ne_true)]
    simp [hi]
  · rw [if_neg hi]
    have hfind : l.entries.find? obs.canonicalKey = none := by
      rw [hentries]
      rfl
    rw [hfind]
    simp [Bool.eq_false_iff.2 hi]

namespace Engine

/-! ## A binding that comes back -/

section Resumed

variable {e : Engine} {flow : FlowId} {gen : GenerationId} {source : SourceId} {b : SourceBinding}

/-- **The ledger of a binding that comes back with a snapshot.** -/
theorem Restored.ledger {e' : Engine} {previous : RuntimeEpoch} (hr : e.Restored e' previous) (h : e.Reachable)
    {recovery : RecoveryPolicy} (hd : e.persistState.Decodable e.config.limits recovery)
      (hb : e.binding? flow gen source = some b) :
    ∃ b', e'.binding? flow gen source = some b' ∧
      b'.ledger = (restoreSource e.config.limits ⟨flow, gen⟩ (e.persistSource b)).ledger := by
  obtain ⟨sources, ctx, atTime, hflows⟩ := hr.flows
  obtain ⟨f, hf, hfb⟩ := Option.bind_eq_some_iff.1 hb
  have hid : f.id = flow := SortedVec.find?_key hf
  refine ⟨refreshBinding e'.config sources ctx (restoreSource e.config.limits ⟨flow, gen⟩ (e.persistSource b)), ?_, ?_⟩
  · rw [binding?, hflows, hf, Option.map_some, Option.bind_some, binding?_recomputeFlow,
      binding?_restoreFlow_persist e previous (h.bounded flow f hf) (generations_le hd hf), hfb, hid]
    rfl
  · exact refreshBinding_ledger _ _ _ _

/-- What the ledger of a restored source takes. -/
theorem restoreSource_accepts_iff {obs : Observation} (limits : Limits) (hs : b.source = source)
    (hobs : obs.IsOf flow gen source) :
    ((restoreSource limits ⟨flow, gen⟩ (e.persistSource b)).ledger.insert obs).2.kind = .Accepted ↔
      b.ledger.held = 0 ∨ b.ledger.mark < obs.canonicalKey := by
  have hbelongs : (restoreSource limits ⟨flow, gen⟩ (e.persistSource b)).ledger.belongs obs = .ok () :=
    hobs.belongs hs rfl
  rw [seeded_accepts_iff hbelongs rfl rfl, ← SourceLedger.held_foldedState, ← SourceLedger.mark_foldedState]
  rfl

/-- **What a restored ledger accepts.** Of the observations of its source in its generation, those whose key is past
where the ledger stood: the incarnation and the epoch of the greatest key it had accepted, with the greatest revision
and the greatest sequence of all of them. It accepts every one of them when the number it had accepted is a multiple
of 2^32. -/
theorem resumes_iff {fresh : Engine} {records : List Record} {previous : RuntimeEpoch} (h : e.Reachable)
    (hw : encodeState e.persistState e.config.limits = .ok records)
    (hd : e.persistState.Decodable e.config.limits e.config.recovery) (hc : fresh.config = e.config)
    (hf : fresh.flows = ∅) (hr : (fresh.restoreLocked records previous).2 = .ok ()) : e.Holds (fun flow gen b =>
      ∃ b', (fresh.restoreLocked records previous).1.binding? flow gen b.source = some b' ∧ ∀ obs,
        obs.IsOf flow gen b.source →
          ((b'.ledger.insert obs).2.kind = .Accepted ↔ b.ledger.held = 0 ∨ b.ledger.mark < obs.canonicalKey)) := by
  intro flow gen source b hb
  have hs : b.source = source := by
    obtain ⟨f, -, hfb⟩ := Option.bind_eq_some_iff.1 hb
    obtain ⟨g, -, hgb⟩ := Option.bind_eq_some_iff.1 hfb
    exact SortedVec.find?_key hgb
  obtain ⟨b', hb', hledger⟩ := (restoreLocked_snapshot hw (by rw [hc]) (by rw [hc]; exact hd) hf hr).ledger h hd hb
  refine ⟨b', hs ▸ hb', fun obs hobs => ?_⟩
  rw [hledger]
  exact restoreSource_accepts_iff e.config.limits rfl hobs

end Resumed

/-! ## A source that began again -/

/-- The keys of the observations of a source in a generation of a flow that a run accepts. -/
def acceptedKeys (flow : FlowId) (gen : GenerationId) (source : SourceId) (e : Engine) : List Op → List CanonicalKey
  | [] => []
  | op :: ops =>
    ((e.applications op).filter (fun p => (p.1.applyLocked p.2).2.disposition == .Applied
        && decide ((prepare p.1.instant p.2).IsOf flow gen source))).map (·.2.canonicalKey)
      ++ (e.step op).acceptedKeys flow gen source ops

/-- An observation of the source `a` in an epoch, by revision and sequence. -/
def epochObservation (epoch revision sequence : UInt64) : Observation :=
  let obs := sampleObservation (sourceIdFromKey (str "a")) .Sample revision ⟨1000⟩
  { obs with
    key := { obs.key with epoch := ⟨epoch⟩, sequence := ⟨sequence⟩ }
    subject := { obs.subject with flow := sampleFlow } }

/-- The source reports revision 100 in its first epoch, and begins again at revision 1 in its second. -/
def epochOps : List Op := [.ingest (epochObservation 1 100 1), .ingest (epochObservation 2 1 2)]

/-- An engine that took the reports. -/
def renumbered : Engine :=
  (({ clock := ⟨1000⟩ } : Engine).openEngine.1.step (.ingest (epochObservation 1 100 1))).step
    (.ingest (epochObservation 2 1 2))

/-- The snapshot of that engine. -/
def renumberedSnapshot : List Record := (encodeState renumbered.persistState renumbered.config.limits).toOption.getD []

theorem renumbered_reachable : renumbered.Reachable := by
  have hopen : ({ config := {}, clock := ⟨1000⟩ } : Engine).openEngine.2 = .ok () := 
    opens_new_iff.2 (EngineConfig.validate_default _)
  exact .step (.step (.opened {} ⟨1000⟩ hopen) _) _

theorem renumberedSnapshot_written :
    encodeState renumbered.persistState renumbered.config.limits = .ok renumberedSnapshot :=
  eq_ok_getD (by decide +kernel) []

theorem renumberedSnapshot_decodable :
    renumbered.persistState.Decodable renumbered.config.limits
      renumbered.config.recovery := by with_unfolding_all decide

theorem renumberedSnapshot_restores : (freshEngine.restoreLocked renumberedSnapshot ⟨1⟩).2 = .ok () :=
  restoreLocked_of_state renumberedSnapshot_written renumberedSnapshot_decodable (by with_unfolding_all decide)
    (by with_unfolding_all decide)

theorem resumes_iff_renumbered : renumbered.Holds (fun flow gen b =>
    ∃ b', (freshEngine.restoreLocked renumberedSnapshot ⟨1⟩).1.binding? flow gen b.source = some b' ∧ ∀ obs,
      obs.IsOf flow gen b.source →
        ((b'.ledger.insert obs).2.kind = .Accepted ↔ b.ledger.held = 0 ∨ b.ledger.mark < obs.canonicalKey)) :=
  resumes_iff renumbered_reachable renumberedSnapshot_written renumberedSnapshot_decodable
    (by with_unfolding_all decide)
    (by decide) renumberedSnapshot_restores

/-- **A restored ledger refuses a greater key than any it had accepted**: revision 2 of the second epoch. -/
theorem resumption_refuses : ¬ ∀ (config : EngineConfig) (clock : Timestamp) (ops : List Op) (fresh : Engine)
    (records : List Record) (previous : RuntimeEpoch) (flow : FlowId) (gen : GenerationId) (source : SourceId)
    (b' : SourceBinding) (obs : Observation),
    let start := ({ config := config, clock := clock } : Engine).openEngine
    let e := ops.foldl step start.1
    start.2 = .ok () → encodeState e.persistState e.config.limits = .ok records → fresh.config = e.config →
    fresh.flows = ∅ →
    (fresh.restoreLocked records previous).2 = .ok () →
    (fresh.restoreLocked records previous).1.binding? flow gen source = some b' → obs.IsOf flow gen source →
    (∀ key ∈ start.1.acceptedKeys flow gen source ops, key < obs.canonicalKey) →
    (b'.ledger.insert obs).2.kind = .Accepted := by
  intro h
  have hheld : (renumbered.binding? sampleFlow ⟨1⟩ (sourceIdFromKey (str "a"))).any (fun b =>
      b.source == sourceIdFromKey (str "a") && b.ledger.held == 2 && b.ledger.mark == ⟨⟨1⟩, ⟨2⟩, ⟨100⟩, ⟨2⟩⟩) =
        true := by
    with_unfolding_all decide
  obtain ⟨b, hb, hat⟩ := (Option.any_eq_true _ _).1 hheld
  simp only [Bool.and_eq_true, beq_iff_eq] at hat
  obtain ⟨⟨hsource, hheld⟩, hmark⟩ := hat
  have hfresh : freshEngine.config = renumbered.config := by with_unfolding_all decide
  obtain ⟨b', hb', hledger⟩ := (restoreLocked_snapshot renumberedSnapshot_written (by rw [hfresh])
    (by rw [hfresh]; exact renumberedSnapshot_decodable) (by decide) renumberedSnapshot_restores).ledger
      renumbered_reachable renumberedSnapshot_decodable hb
  have hobs : (epochObservation 2 2 3).IsOf sampleFlow ⟨1⟩ (sourceIdFromKey (str "a")) := by with_unfolding_all decide
  have haccepted := h {} ⟨1000⟩ epochOps freshEngine renumberedSnapshot ⟨1⟩ sampleFlow ⟨1⟩ _ b' (epochObservation 2 2 3)
    (by decide) renumberedSnapshot_written (by with_unfolding_all decide) (by decide) renumberedSnapshot_restores hb'
    hobs (by with_unfolding_all decide)
  rw [hledger, restoreSource_accepts_iff _ hsource hobs, hheld, hmark] at haccepted
  revert haccepted
  decide

end Engine

end FlowObs
