import FlowObs.Engine.Reachable
import FlowObs.Engine.Refusal

/-!
# The tables stay within their limits

Nine tables of the engine have a configured limit (`Engine.WithinLimits`). Some refuse what is one too many, the flows
and the generations of a flow give up a terminal one first, a ledger folds its lowest entries, the history and the
anomalies of a flow drop their oldest. `stays_within_limits` says that no run of an engine that is opened on no file
exceeds a limit.
-/

namespace FlowObs

/-! ## A ledger -/

namespace SourceLedger

/-- The ledger has the capacity `n` and retains no more entries. -/
structure Fits (l : SourceLedger) (n : Nat) : Prop where
  capacity : l.capacity = n
  entries : l.entries.toList.length ≤ n

variable {l : SourceLedger} {n : Nat}

theorem fits_configure (source : SourceId) (generation : FlowGeneration) (hn : 0 < n) :
    (configure source generation n).Fits n where
  capacity := if_neg (by omega)
  entries := Nat.zero_le _

/-- An insertion folds what is one too many. -/
theorem Fits.insert (h : l.Fits n) (obs : Observation) : (l.insert obs).1.Fits n := by
  have hcapacity : (l.insert obs).1.capacity = n := (insert_source l obs).2.2.2.trans h.capacity
  refine ⟨hcapacity, ?_⟩
  have hcases := insert_cases l obs
  generalize (l.insert obs).1 = l' at hcases
  generalize (l.insert obs).2.kind = kind at hcases
  cases hcases with
  | accepted =>
    obtain ⟨p, he⟩ := compactEntries_eq { l with entries := l.entries.set obs, totalAccepted := l.totalAccepted + 1 }
    rw [he]
    show ((l.entries.set obs).drop ((l.entries.set obs).toList.length - l.capacity)).toList.length ≤ n
    rw [SortedVec.toList_drop, List.length_drop, h.capacity]
    omega
  | replaced _ _ stored hf =>
    show (l.entries.set obs).toList.length ≤ n
    rw [SortedVec.length_set_of_some hf]
    exact h.entries
  | _ => exact h.entries

end SourceLedger

/-! ## The registries -/

/-- No registry has more than `n` entries. -/
abbrev Registries.Fit (r : Registries) (n : Nat) : Prop := r.Each (fun _ r => r.toList.length ≤ n)

/-- A registry that is full registers nothing. -/
theorem fits_registerOne {d : IdDomain} {limits : Limits} {r : IdentityRegistry d}
    (h : r.toList.length ≤ limits.maxFlows.toNat) (id : OpaqueId d) (key : Str) :
    (registerOne limits r id key).1.toList.length ≤ limits.maxFlows.toNat := by
  have hobserve : (r.observe id key limits.maxFlows.toNat).1.toList.length ≤ limits.maxFlows.toNat := by
    unfold IdentityRegistry.observe
    cases hf : r.find? id with
    | some p => exact h
    | none =>
      simp only
      split
      · exact h
      · rw [SortedVec.length_set_of_none (a := (id, key)) hf]
        omega
  unfold registerOne
  split
  · exact h
  · split <;> simp_all

theorem Registries.Fit.register {limits : Limits} {r : Registries} (h : r.Fit limits.maxFlows.toNat)
    (s : ObservationSubject) : (registerIdentity limits s r).1.Fit limits.maxFlows.toNat :=
  Registries.Each.register h (fun _ h => fits_registerOne h _ _) (fun _ _ h => fits_registerOne h _ _)
    (fun _ h => fits_registerOne h _ _) (fun _ h => fits_registerOne h _ _) (fun _ h => fits_registerOne h _ _)

/-! ## The logs of a flow -/

/-- The anomalies and the history of the flow are within their limits. -/
structure FlowRuntime.Logged (limits : Limits) (f : FlowRuntime) : Prop where
  anomalies : f.anomalies.length ≤ limits.maxAnomaliesPerFlow.toNat
  history : f.history.Fits limits.maxHistoryPerFlow.toNat

section Logs

variable {limits : Limits} {f f' : FlowRuntime}

/-- A full list of anomalies drops its oldest entry. -/
theorem FlowRuntime.Logged.note (h : f.Logged limits) (a : Anomaly) : (f.note a limits).Logged limits := by
  unfold FlowRuntime.note
  split
  · exact ⟨h.anomalies, h.history⟩
  · rename_i hmax
    have hpos : 0 < limits.maxAnomaliesPerFlow.toNat := by
      refine Nat.pos_of_ne_zero fun h0 => hmax ?_
      exact UInt32.toNat_inj.1 h0
    split
    · refine ⟨?_, h.history⟩
      have hlen := h.anomalies
      show (f.anomalies.tail ++ [a]).length ≤ limits.maxAnomaliesPerFlow.toNat
      rw [List.length_append, List.length_tail, List.length_singleton]
      omega
    · refine ⟨?_, h.history⟩
      show (f.anomalies ++ [a]).length ≤ limits.maxAnomaliesPerFlow.toNat
      rw [List.length_append, List.length_singleton]
      omega

theorem FlowRuntime.Logged.notes (h : f.Logged limits) (as : List Anomaly) :
    (as.foldl (fun f a => f.note a limits) f).Logged limits := by
  induction as generalizing f with
  | nil => exact h
  | cons a as ih => exact ih (h.note a)

theorem FlowRuntime.Logged.absorb (h : f.Logged limits) (atTime : Timestamp) (s : GenerationStep) :
    (f.absorb limits atTime s).Logged limits := by
  have hnoted := h.notes (s.promoted ++ s.refused)
  unfold FlowRuntime.absorb
  cases s.event with
  | none => exact hnoted
  | some event => exact ⟨hnoted.anomalies, hnoted.history.push _⟩

theorem FlowRuntime.Logged.absorbs (h : f.Logged limits) (atTime : Timestamp) (steps : List GenerationStep) :
    (steps.foldl (fun f s => f.absorb limits atTime s) f).Logged limits := by
  induction steps generalizing f with
  | nil => exact h
  | cons s steps ih => exact ih (h.absorb atTime s)

/-- **Recomputing a flow keeps its logs within their limits**, however much it notes. -/
theorem logged_recomputeFlow {config : EngineConfig} (sources : SourceTable) (ctx : FreshnessContext)
    (atTime : Timestamp)
    (h : f.Logged config.limits) : (recomputeFlow config sources ctx atTime f).Logged config.limits := by
  have habsorbed := h.absorbs atTime (generationSteps config sources ctx atTime f)
  simp only [recomputeFlow, FlowRuntime.rollUpGenerations, FlowRuntime.mirrorCurrent]
  split
  · exact ⟨habsorbed.anomalies, habsorbed.history⟩
  · split <;> exact ⟨habsorbed.anomalies, habsorbed.history⟩

/-- The stages keep the logs of a flow and the registries within their limits. -/
theorem stageRule_fit (subject : ObservationSubject) : StageRule limits subject
    (fun tx => tx.flow.Logged limits ∧ tx.registries.Fit limits.maxFlows.toNat) where
  keep tx tx' hs h := by
    refine ⟨⟨?_, ?_⟩, ?_⟩
    · rw [hs.anomalies]
      exact h.1.anomalies
    · rw [hs.history]
      exact h.1.history
    · rw [hs.registries]
      exact h.2
  note tx a h := ⟨h.1.note a, h.2⟩
  collided tx h := ⟨⟨h.1.anomalies, h.1.history⟩, h.2⟩
  register tx h := ⟨h.1, Registries.Fit.register h.2 subject⟩
  recompute config sources ctx atTime tx hc h := by
    subst hc
    exact ⟨logged_recomputeFlow sources ctx atTime h.1, h.2⟩

end Logs

/-! ## The generations of a flow -/

/-- The flow has no more generations than its limit. -/
def FlowRuntime.Spans (limits : Limits) (f : FlowRuntime) : Prop :=
  f.generations.toList.length ≤ limits.maxGenerationsPerFlow.toNat

section Generations

variable {limits : Limits} {config : EngineConfig} {sources : SourceTable} {ctx : FreshnessContext} {replaying : Bool}
variable {atTime : Timestamp} {obs : Observation} {f f' room : FlowRuntime} {outcome : IngestOutcome}
    {wanted : GenerationId}

theorem spans_recomputeFlow (h : f.Spans limits) : (recomputeFlow config sources ctx atTime f).Spans limits := by
  unfold FlowRuntime.Spans
  rw [recomputeFlow_generations, recomputedGenerations, SortedVec.toList_map, List.length_map]
  exact h

theorem FlowRuntime.Spans.of_generations (h : f.Spans limits) (hg : f'.generations = f.generations) :
    f'.Spans limits := by
  unfold FlowRuntime.Spans
  rw [hg]
  exact h

/-- Setting a generation that is there. -/
theorem FlowRuntime.Spans.set (h : f.Spans limits) {g g₀ : GenerationRuntime}
    (hfind : f.generations.find? wanted = some g₀)
    (hid : g.id = wanted) (hf' : f'.generations = f.generations.set g) : f'.Spans limits := by
  unfold FlowRuntime.Spans
  rw [hf', SortedVec.length_set_of_some (b := g₀) (by rwa [hid])]
  exact h

/-- The room that was made is taken by one generation at most. -/
theorem FlowRuntime.Spans.enter (h : f.Spans limits) (hroom : Roomed limits f wanted room) (atTime : Timestamp) :
    (room.enter wanted atTime).Spans limits := by
  have hset : (room.enter wanted atTime).generations = room.generations.set (obtainGeneration room wanted atTime) := rfl
  unfold FlowRuntime.Spans at h ⊢
  cases hfind : room.generations.find? wanted with
  | some g =>
    have hlen : room.generations.toList.length ≤ f.generations.toList.length := by
      cases hroom with
      | known => exact Nat.le_refl _
      | free => exact Nat.le_refl _
      | evicted _ _ he =>
        obtain ⟨g, -, rfl⟩ := Option.map_eq_some_iff.1 he
        exact SortedVec.length_erase_le _ _
    rw [hset, SortedVec.length_set_of_some (b := g) (by rwa [obtainGeneration_id])]
    omega
  | none =>
    have hlen : room.generations.toList.length < limits.maxGenerationsPerFlow.toNat := by
      cases hroom with
      | known hknown => simp [hfind] at hknown
      | free hfree => exact hfree
      | evicted _ _ he =>
        obtain ⟨g, hg, rfl⟩ := Option.map_eq_some_iff.1 he
        have herased := SortedVec.length_erase_lt (v := f.generations) (List.mem_of_find?_eq_some hg)
        exact Nat.lt_of_lt_of_le herased h
    rw [hset, SortedVec.length_set_of_none (by rwa [obtainGeneration_id])]
    omega

/-- **An observation keeps the generations of its flow within their limit.** -/
theorem FlowApplied.spans (h : FlowApplied config sources ctx replaying atTime obs f f' outcome)
    (hf : f.Spans config.limits) : f'.Spans config.limits := by
  have hinsert : ∀ room, Roomed config.limits f obs.subject.generation room →
      (insertEvidence config.limits replaying atTime (clampedObservation config.limits obs)
        (room.enter obs.subject.generation atTime)).1.Spans config.limits := by
    intro room hroom
    have hfind := find?_enter room obs.subject.generation obs.subject.generation atTime
    rw [if_pos rfl] at hfind
    have hid : (insertGeneration config.limits replaying (room.enter obs.subject.generation atTime).id
        (clampedObservation config.limits obs) (obtainGeneration (room.enter obs.subject.generation atTime)
          (clampedObservation config.limits obs).subject.generation atTime)).id = obs.subject.generation := by
      rw [clampedObservation_subject]
      exact obtainGeneration_id _ _ _
    exact (hf.enter hroom atTime).set hfind hid rfl
  cases h with
  | collided _ hn _ => exact hf.of_generations hn.generations_eq
  | stopped _ hn _ => exact hf.of_generations hn.generations_eq
  | noSourceRoom room _ hroom _ hn _ => exact (hf.enter hroom atTime).of_generations hn.generations_eq
  | ledgerRefused room _ hroom _ _ hn _ => exact (hinsert room hroom).of_generations hn.generations_eq
  | recomputed room settled _ hroom _ _ _ hn _ =>
    have hgenerations := hn.generations_eq.trans (revise_generations _ _)
    have hsettled : settled.Spans config.limits := (hinsert room hroom).of_generations hgenerations
    have hfind := find?_insertEvidence config.limits replaying atTime (clampedObservation config.limits obs)
      (room.enter obs.subject.generation atTime) obs.subject.generation
    rw [clampedObservation_subject, if_pos rfl, ← hgenerations] at hfind
    have hid : ({ obtainGeneration settled obs.subject.generation atTime with lastTouched := atTime } :
      GenerationRuntime).id
        = obs.subject.generation := obtainGeneration_id _ _ _
    exact spans_recomputeFlow (hsettled.set hfind hid rfl)

end Generations

/-! ## The flows and the sources -/

namespace Engine

variable {e e' : Engine} {atTime : Timestamp} {obs : Observation}

/-- Room in the flow table. -/
theorem FlowRoom.length_lt {flows : SortedVec FlowRuntime.id} (h : FlowRoom e flows)
    (hle : e.flows.toList.length ≤ e.config.limits.maxFlows.toNat) : flows.toList.length <
      e.config.limits.maxFlows.toNat := by
  cases h with
  | free hlt => exact hlt
  | evicted _ v hv => exact Nat.lt_of_lt_of_le (SortedVec.length_erase_lt (victim_spec hv).1) hle

theorem length_flows_applyLocked (e : Engine) (incoming : Observation)
    (hle : e.flows.toList.length ≤ e.config.limits.maxFlows.toNat) :
    (e.applyLocked incoming).1.flows.toList.length ≤ e.config.limits.maxFlows.toNat := by
  cases applyLocked_cases e incoming with
  | invalid _ _ he _ =>
    obtain ⟨_, he⟩ := he
    rw [he]
    exact hle
  | unjournaled _ _ _ _ he _ =>
    have hf := (sameTables_appendObservation e.received (prepare e.instant incoming)).flows_eq
    rw [he]
    show (e.received.appendObservation (prepare e.instant incoming)).1.flows.toList.length ≤ _
    rw [hf]
    exact hle
  | admitted e₁ _ _ hsame ha =>
    obtain ⟨_, _, _, rfl⟩ := hsame
    generalize (e.applyLocked incoming).1 = e' at ha ⊢
    generalize (e.applyLocked incoming).2 = outcome at ha
    cases ha with
    | noSource he _ =>
      rw [he.flows_eq]
      exact hle
    | noFlowRoom sources flows _ _ hroom he _ =>
      rw [he.flows_eq]
      rcases hroom with rfl | hroom
      · exact hle
      · exact Nat.le_of_lt (hroom.length_lt hle)
    | found sources f f' _ _ hf happ he =>
      rw [he.flows_eq]
      show (e.flows.set f').toList.length ≤ _
      have hid : f'.id = (prepare e.instant incoming).subject.flow := happ.kept.id.trans (SortedVec.find?_key hf)
      rw [SortedVec.length_set_of_some (b := f) (by rw [hid]; exact hf)]
      exact hle
    | created sources flows f' _ _ hnone hroom happ he =>
      rw [he.flows_eq]
      show (flows.set f').toList.length ≤ _
      have hlt := hroom.length_lt hle
      have hid : f'.id = (prepare e.instant incoming).subject.flow := happ.kept.id
      have hfind : flows.find? f'.id = none := by
        rw [hid]
        rcases hroom.find?_eq (prepare e.instant incoming).subject.flow with hsame | hsame
        · exact hsame.trans hnone
        · exact hsame
      rw [SortedVec.length_set_of_none hfind]
      exact hlt

theorem length_sources_applyLocked (e : Engine) (incoming : Observation)
    (hle : e.sources.toList.length ≤ e.config.limits.maxSources.toNat) :
    (e.applyLocked incoming).1.sources.toList.length ≤ e.config.limits.maxSources.toNat := by
  rcases sources_applyLocked e incoming with hsame | hsource
  · rw [hsame]
    exact hle
  · generalize (e.applyLocked incoming).1.sources = sources at hsource
    cases hsource with
    | known s h hr => exact hle
    | fresh hnone hroom =>
      rw [SortedVec.length_set_of_none (a := unregisteredSource e.instant incoming.key.source) hnone]
      omega

end Engine

/-! ## The whole engine -/

/-- The generations of a flow, their sources and the ledgers of these are within their limits. -/
structure FlowRuntime.Filled (limits : Limits) (f : FlowRuntime) : Prop where
  generations : f.Spans limits
  sources : f.Bounded limits
  ledgers : ∀ gen source b, f.binding? gen source = some b → b.ledger.Fits limits.maxObservationsPerSourceFlow.toNat

/-- A flow is within its limits. -/
structure FlowRuntime.Within (limits : Limits) (f : FlowRuntime) : Prop extends f.Filled limits, f.Logged limits

section Flow

variable {limits : Limits} {config : EngineConfig} {sources : SourceTable} {ctx : FreshnessContext} {replaying : Bool}
variable {atTime : Timestamp} {obs : Observation} {f f' : FlowRuntime} {outcome : IngestOutcome}

/-- The ledger of the binding that an observation finds or makes. -/
theorem FlowRuntime.Filled.bindingFor (h : f.Filled limits) (hpos : 0 < limits.maxObservationsPerSourceFlow.toNat) :
    (f.bindingFor limits replaying obs).ledger.Fits limits.maxObservationsPerSourceFlow.toNat := by
  unfold FlowRuntime.bindingFor
  cases hb : f.binding? obs.subject.generation obs.key.source with
  | none => exact SourceLedger.fits_configure _ _ hpos
  | some b => exact h.ledgers _ _ b hb

/-- **An observation keeps the evidence of its flow within its limits.** -/
theorem FlowApplied.filled (h : FlowApplied config sources ctx replaying atTime obs f f' outcome)
    (hpos : 0 < config.limits.maxObservationsPerSourceFlow.toNat) (hf : f.Filled config.limits) :
    f'.Filled config.limits where
  generations := h.spans hf.generations
  sources := h.bounded hf.sources
  ledgers := by
    refine h.bindings (P := fun _ b => b.ledger.Fits config.limits.maxObservationsPerSourceFlow.toNat) hf.ledgers
      (fun gen b hb => ?_) ?_
    · rwa [refreshBinding_ledger]
    · rw [SourceBinding.take_ledger]
      exact (hf.bindingFor hpos).insert _

theorem within_recomputeFlow (h : f.Within config.limits) :
    (recomputeFlow config sources ctx atTime f).Within config.limits := by
  refine ⟨⟨spans_recomputeFlow h.generations, bounded_recomputeFlow h.sources, fun gen source b hb => ?_⟩,
    logged_recomputeFlow sources ctx atTime h.toLogged⟩
  rw [binding?_recomputeFlow] at hb
  obtain ⟨b₀, hb₀, rfl⟩ := Option.map_eq_some_iff.1 hb
  rw [refreshBinding_ledger]
  exact h.ledgers gen source b₀ hb₀

end Flow

namespace Engine

theorem within_dropSource {limits : Limits} {f : FlowRuntime} (h : f.Within limits) (id : SourceId) :
    (dropSource id f).Within limits := by
  refine ⟨⟨?_, bounded_dropSource h.sources id, fun gen source b hb => ?_⟩, ⟨h.anomalies, h.history⟩⟩
  · have hlen : (dropSource id f).generations.toList.length = f.generations.toList.length := List.length_map _
    unfold FlowRuntime.Spans
    rw [hlen]
    exact h.generations
  · rw [binding?_dropSource] at hb
    split at hb
    · cases hb
    · exact h.ledgers gen source b hb

/-- The tables that observations fill are within their limits. -/
structure TablesFit (e : Engine) : Prop where
  flows : e.flows.toList.length ≤ e.config.limits.maxFlows.toNat
  sources : e.sources.toList.length ≤ e.config.limits.maxSources.toNat
  registries : e.registries.Fit e.config.limits.maxFlows.toNat
  each : e.EachFlow (·.Within e.config.limits)

/-- **Every table is within its limit**, and so is the queue. -/
structure WithinLimits (e : Engine) : Prop extends e.TablesFit where
  queue : e.queue.length ≤ e.config.limits.maxPendingObservations.toNat

section Steps

variable {e e' : Engine}

theorem SameTables.queue_eq (h : e.SameTables e') : e'.queue = e.queue := by
  obtain ⟨_, _, _, rfl⟩ := h
  rfl

theorem TablesFit.of_same (h : e.TablesFit) (hsame : e.SameState e') : e'.TablesFit := by
  obtain ⟨hflows, hsources, hregistries, heach⟩ := h
  rw [← hsame.config] at hflows hsources hregistries heach
  refine ⟨hsame.flows ▸ hflows, hsame.sources ▸ hsources, hsame.registries ▸ hregistries, ?_⟩
  exact heach.of_find? (fun id => .inl (by rw [hsame.flows]))

/-- A flow that is created is empty. -/
theorem within_createFlow (e : Engine) (atTime : Timestamp) (obs : Observation) :
    (e.createFlow atTime obs).Within e.config.limits := by
  obtain ⟨hsize, hcapacity, -⟩ := Ring.setCapacity_empty (α := LifecycleEvent) e.config.limits.maxHistoryPerFlow.toNat
  refine ⟨⟨Nat.zero_le _, fun _ _ hg => (by cases hg), fun _ _ _ hb => (by cases hb)⟩, ⟨Nat.zero_le _, hcapacity, ?_⟩⟩
  show (Ring.setCapacity _ _).size ≤ _
  rw [hsize]
  exact Nat.zero_le _

/-- **Applying an observation keeps the tables within their limits**, however it ends. -/
theorem TablesFit.apply (h : e.TablesFit) (hpos : 0 < e.config.limits.maxObservationsPerSourceFlow.toNat)
    (incoming : Observation) : (e.applyLocked incoming).1.TablesFit := by
  have hconfig := (sameSettings_applyLocked e incoming).config_eq
  have hcreated := within_createFlow e e.instant (prepare e.instant incoming)
  obtain ⟨hlogs, hregistries⟩ := logs_applyLocked (fun id f hf => (h.each id f hf).toLogged) h.registries incoming
    (fun _ => stageRule_fit _) hcreated.toLogged
  have hfilled := eachFlow_applyLocked (fun id f hf => (h.each id f hf).toFilled) incoming
    (fun f f' _ _ _ happ hf => happ.filled hpos hf) hcreated.toFilled
  refine ⟨?_, ?_, ?_, fun id f hf => ?_⟩
  · rw [hconfig]
    exact length_flows_applyLocked e incoming h.flows
  · rw [hconfig]
    exact length_sources_applyLocked e incoming h.sources
  · rw [hconfig]
    exact hregistries
  · rw [hconfig]
    exact ⟨hfilled id f hf, hlogs id f hf⟩

theorem TablesFit.recompute (h : e.TablesFit) (atTime : Timestamp) (due : FlowRuntime → Bool) :
    (e.recomputeAll atTime due).TablesFit := by
  have hlen : (e.recomputeAll atTime due).flows.toList.length = e.flows.toList.length := List.length_map _
  refine ⟨?_, h.sources, h.registries, eachFlow_recomputeAll h.each due (fun _ _ f hf => within_recomputeFlow hf)⟩
  rw [hlen]
  exact h.flows

theorem TablesFit.drop (h : e.TablesFit) {s : SourceState} {id : SourceId} (hs : e.sources.find? id = some s) :
    (e.dropped s id).TablesFit := by
  have hlen : (e.dropped s id).flows.toList.length = e.flows.toList.length := List.length_map _
  obtain rfl := SortedVec.find?_key hs
  refine ⟨?_, ?_, h.registries, fun flow f hf => ?_⟩
  · rw [hlen]
    exact h.flows
  · show (e.sources.set { s with retired := true }).toList.length ≤ _
    rw [SortedVec.length_set_of_some (a := { s with retired := true }) (b := s) hs]
    exact h.sources
  · rw [find?_dropped] at hf
    obtain ⟨f₀, hf₀, rfl⟩ := Option.map_eq_some_iff.1 hf
    exact within_dropSource (h.each flow f₀ hf₀) s.id

/-- The step lemma: **every operation keeps the tables within their limits.** -/
theorem TablesFit.step (h : e.TablesFit) (hvalid : e.config.limits.validate = .ok ()) (op : Op) :
    (e.step op).TablesFit := by
  have hstep : (e.step op).config.limits.validate = .ok () ∧ (e.step op).TablesFit := by
    refine step_rule (P := fun e => e.config.limits.validate = .ok () ∧ e.TablesFit) (fun e obs h (_ : True) => ?_)
      (fun e atTime due h => ⟨h.1, h.2.recompute atTime due⟩) (fun e s id hs h => ⟨h.1, h.2.drop hs⟩)
      (fun e d s hd h => ⟨h.1, ?_⟩) (fun e d s hd (_ : True) h => ⟨h.1, ?_⟩)
      (fun e e' hsame h => ⟨hsame.config ▸ h.1, h.2.of_same hsame⟩) ⟨hvalid, h⟩ (fun _ _ => trivial)
        (fun _ _ => trivial)
    · have hpos := (Limits.valid_of_validate h.1).observations.1
      refine ⟨?_, h.2.apply (UInt32.lt_iff_toNat_lt.1 hpos) obs⟩
      rw [(sameSettings_applyLocked e obs).config_eq]
      exact h.1
    · have hnone : e.sources.find? s.id = none := by
        rw [SourceState.id, hd.described]
        exact hd.unknown
      refine ⟨h.2.flows, ?_, h.2.registries, h.2.each⟩
      show (e.sources.set s).toList.length ≤ _
      rw [SortedVec.length_set_of_none hnone]
      exact hd.room
    · refine ⟨h.2.flows, ?_, h.2.registries, h.2.each⟩
      show (e.sources.set { s with descriptor := d, retired := false }).toList.length ≤ _
      rw [SortedVec.length_set_of_some (b := s) hd.known]
      exact h.2.sources
  exact hstep.2

/-- **A full queue takes no observation.** -/
theorem queue_step (e : Engine) (op : Op) (h : e.queue.length ≤ e.config.limits.maxPendingObservations.toNat) :
    (e.step op).queue.length ≤ e.config.limits.maxPendingObservations.toNat := by
  cases op with
  | ingest obs => exact (ingest_queue e obs).symm ▸ h
  | submit obs =>
    simp only [step, submit]
    split
    · exact h
    · rw [ingest_queue]
      exact h
  | enqueue obs =>
    simp only [step, enqueue]
    split
    · exact h
    · split
      · exact h
      · split
        · exact h
        · show (e.queue ++ [e.prefill obs]).length ≤ _
          rw [List.length_append, List.length_singleton]
          omega
  | drain n =>
    have hdropped : (e.queue.drop n).length ≤ e.config.limits.maxPendingObservations.toNat := by
      rw [List.length_drop]
      omega
    simp only [step, drain]
    split
    · exact hdropped
    · split
      · exact hdropped
      · rw [applyBatch_queue]
        exact hdropped
  | work batch =>
    rw [show e.step (.work batch) = e.applyBatch batch from rfl, applyBatch_queue]
    exact h
  | tick evaluatedAt =>
    simp only [step, tick]
    split
    · exact h
    · split <;> exact h
  | registerSource d =>
    have happend := (sameTables_appendSource e d).queue_eq
    have hcases := registerSource_cases e d
    simp only [step]
    generalize e.registerSource d = result at hcases ⊢
    cases hcases with
    | unjournaled _ _ _ hj | fresh _ _ _ _ hj =>
      rw [hj] at happend
      exact happend.symm ▸ h
    | _ => exact h
  | retireSource id =>
    simp only [step, retireSource]
    split <;> exact h
  | compact =>
    rw [show (e.step .compact).queue = e.queue from (sameTables_compactLocked e).queue_eq]
    exact h
  | flush => exact h
  | freeze => exact h
  | advance clock => exact h

end Steps

/-! ## Runs -/

/-- The step lemma for every table. -/
theorem WithinLimits.step {e : Engine} (h : e.WithinLimits) (hvalid : e.config.limits.validate = .ok ()) (op : Op) :
    (e.step op).WithinLimits := by
  refine ⟨h.toTablesFit.step hvalid op, ?_⟩
  rw [step_config]
  exact queue_step e op h.queue

/-- The run lemma: **what is within its limits stays within them.** -/
theorem WithinLimits.run {ops : List Op} {e : Engine} (h : e.WithinLimits)
    (hvalid : e.config.limits.validate = .ok ()) :
    (ops.foldl Engine.step e).WithinLimits := by
  induction ops generalizing e with
  | nil => exact h
  | cons op ops ih => exact ih (h.step hvalid op) (by rw [step_config]; exact hvalid)

theorem Empty.withinLimits {config : EngineConfig} {e : Engine} (h : Empty config e) : e.WithinLimits := by
  refine ⟨⟨?_, ?_, ?_, fun id f hf => ?_⟩, ?_⟩
  · rw [h.flows]
    exact Nat.zero_le _
  · rw [h.sources]
    exact Nat.zero_le _
  · rw [h.registries]
    exact ⟨Nat.zero_le _, Nat.zero_le _, Nat.zero_le _, Nat.zero_le _⟩
  · rw [h.flows] at hf
    cases hf
  · rw [h.queue]
    exact Nat.zero_le _

/-- **No table ever exceeds its limit**, whatever is done with an engine that is opened on no file, when its limits
are valid. -/
theorem stays_within_limits (config : EngineConfig) (clock : Timestamp) (hvalid : config.limits.validate = .ok ())
    (ops : List Op) : (ops.foldl step ({ config := config, clock := clock } : Engine).openEngine.1).WithinLimits := by
  have hempty := opened_empty config clock
  exact hempty.withinLimits.run (by rw [hempty.config]; exact hvalid)

/-- Limits of one source and one generation of a flow. -/
def narrow : EngineConfig := { limits := { maxSources := 1, maxGenerationsPerFlow := 1 } }

/-- A second source and a second generation of the flow come to an engine that has room for one of each. -/
theorem stays_within_limits_narrow : (([.ingest (sampleObservation ⟨1⟩ .Sample 1 ⟨1000⟩),
    .ingest (sampleObservation ⟨2⟩ .Sample 1 ⟨1000⟩),
    .ingest { sampleObservation ⟨1⟩ .Sample 2 ⟨1000⟩ with subject := { generation := ⟨2⟩, flowKey := str "f" } }] :
      List Op).foldl
      step ({ config := narrow, clock := ⟨1000⟩ } : Engine).openEngine.1).WithinLimits :=
  stays_within_limits narrow ⟨1000⟩ (by decide) _

end Engine

end FlowObs
