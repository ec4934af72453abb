import FlowObs.Engine.Terminal
import FlowObs.Engine.Evidence

/-!
# Invariants of a run

The induction principles of the engine. `step_rule` is the one for the whole state: what applying an observation, a
recomputation, giving up the evidence of a source and a new source descriptor preserve, every operation preserves.
`Holds P` says that every binding of the engine satisfies `P`; `holds_step` reduces it to what an observation does to
the binding it goes to, and to the refreshing of its cached fold.
-/

namespace FlowObs

/-! ## The bindings of a flow -/

section Flow

variable {config : EngineConfig} {sources : SourceTable} {ctx : FreshnessContext} {replaying : Bool}
variable {atTime : Timestamp} {obs : Observation} {f f' : FlowRuntime} {outcome : IngestOutcome}

/-- The binding that an observation finds or makes in a flow. -/
def FlowRuntime.bindingFor (f : FlowRuntime) (limits : Limits) (replaying : Bool) (obs : Observation) : SourceBinding :=
  (f.binding? obs.subject.generation obs.key.source).getD
    (freshBinding limits replaying obs.key.source ⟨f.id, obs.subject.generation⟩)

/-- Making room for a generation makes no binding. -/
theorem Roomed.binding?_some {limits : Limits} {room : FlowRuntime} {wanted gen : GenerationId} {source : SourceId}
    {b : SourceBinding} (h : Roomed limits f wanted room) (hb : room.binding? gen source = some b) :
    f.binding? gen source = some b := by
  unfold FlowRuntime.binding? at hb ⊢
  rcases h.find?.2 gen with hg | hg
  · rwa [hg] at hb
  · rw [hg] at hb
    cases hb

/-- **What an observation does to the bindings of its flow**: a property that holds of them, that refreshing keeps and
that holds of the binding that takes the observation, holds of them afterwards. -/
theorem FlowApplied.bindings {P : GenerationId → SourceBinding → Prop}
    (h : FlowApplied config sources ctx replaying atTime obs f f' outcome)
    (hf : ∀ gen source b, f.binding? gen source = some b → P gen b)
    (hrefresh : ∀ gen b, P gen b → P gen (refreshBinding config sources ctx b))
    (htake : P obs.subject.generation
      ((f.bindingFor config.limits replaying obs).take replaying (clampedObservation config.limits obs)).1) :
    ∀ gen source b, f'.binding? gen source = some b → P gen b := by
  intro gen source b hb
  have hinsert : ∀ room, Roomed config.limits f obs.subject.generation room → ∀ gen source b,
      (insertEvidence config.limits replaying atTime (clampedObservation config.limits obs)
        (room.enter obs.subject.generation atTime)).1.binding? gen source = some b → P gen b := by
    intro room hroom gen source b hb
    rw [binding?_insertEvidence, clampedObservation_subject, clampedObservation_key] at hb
    split at hb
    · rename_i hk
      obtain ⟨rfl, rfl⟩ := hk
      have hid : (room.enter obs.subject.generation atTime).id = f.id := hroom.same.1
      rw [binding?_enter, hroom.binding?, hid] at hb
      cases hb
      exact htake
    · rw [binding?_enter] at hb
      exact hf gen source b (hroom.binding?_some hb)
  cases h with
  | collided _ hn _ =>
    rw [hn.binding?] at hb
    exact hf gen source b hb
  | stopped _ hn _ =>
    rw [hn.binding?] at hb
    exact hf gen source b hb
  | noSourceRoom room _ hroom _ hn _ =>
    rw [hn.binding?, binding?_enter] at hb
    exact hf gen source b (hroom.binding?_some hb)
  | ledgerRefused room _ hroom _ _ hn _ =>
    rw [hn.binding?] at hb
    exact hinsert room hroom gen source b hb
  | recomputed room settled _ hroom _ _ _ hn _ =>
    rw [binding?_recomputeFlow, binding?_touch, hn.binding?, binding?_revise] at hb
    obtain ⟨b₀, hb₀, rfl⟩ := Option.map_eq_some_iff.1 hb
    exact hrefresh gen b₀ (hinsert room hroom gen source b₀ hb₀)

/-- The stages before the ledger: the flow with room for the observation, and the observation as the ledger gets it. -/
def toLedger (config : EngineConfig) (atTime : Timestamp) (obs : Observation) (tx : FlowTx) :
    Except Exit (FlowTx × Observation) := do
  let tx ← matchKey config.limits atTime obs tx
  let tx ← registerIdentities config.limits atTime obs tx
  let (tx, obs) ← clampSkew config.limits config.freshness atTime obs tx
  let tx ← makeGenerationRoom config.limits atTime obs tx
  let tx ← checkSourceRoom config.limits atTime obs (enterGeneration config.limits atTime obs tx)
  pure (tx, obs)

theorem applyToFlow_eq (tx : FlowTx) : applyToFlow config sources ctx replaying atTime obs tx
    = toLedger config atTime obs tx >>= fun p => pure (applyEvidence config sources ctx replaying atTime p.2 p.1) := by
  simp only [applyToFlow, toLedger, bind_assoc, pure_bind]

/-- **How the stages before the ledger leave a flow** that they refuse. -/
inductive Unreached (limits : Limits) (atTime : Timestamp) (obs : Observation) (f : FlowRuntime) : FlowRuntime → Prop
  /-- The key of the flow is another one. -/
  | collided {f' : FlowRuntime} (hkey : f.canonicalKey ≠ obs.subject.flowKey)
    (hf : { f with state := .Conflicting, cause := .AuthorityConflict }.Noted f') : Unreached limits atTime obs f f'
  /-- Refused by an identity registry, for its clock skew, or by the generation table. -/
  | stopped {f' : FlowRuntime} (hkey : f.canonicalKey = obs.subject.flowKey) (hf : f.Noted f') :
    Unreached limits atTime obs f f'
  /-- The source table of the generation is full. -/
  | noSourceRoom {f' : FlowRuntime} (room : FlowRuntime) (hkey : f.canonicalKey = obs.subject.flowKey)
    (hroom : Roomed limits f obs.subject.generation room) (hf : (room.enter obs.subject.generation atTime).Noted f') :
    Unreached limits atTime obs f f'

/-- **The stages before the ledger**: they leave the flow as `Unreached` says, or hand it on with its generation. -/
theorem toLedger_cases (config : EngineConfig) (atTime : Timestamp) (obs : Observation) (tx : FlowTx) :
    (∃ x, toLedger config atTime obs tx = .error x ∧ Unreached config.limits atTime obs tx.flow x.1.flow) ∨
      ∃ tx' room, toLedger config atTime obs tx = .ok (tx', clampedObservation config.limits obs) ∧
        tx.flow.canonicalKey = obs.subject.flowKey ∧ Roomed config.limits tx.flow obs.subject.generation room ∧
        (room.enter obs.subject.generation atTime).Noted tx'.flow := by
  unfold toLedger
  cases h1 : matchKey config.limits atTime obs tx with
  | error x =>
    obtain ⟨hkey, -, -, -, hf⟩ := matchKey_error h1
    exact .inl ⟨x, rfl, .collided hkey hf⟩
  | ok tx1 =>
    obtain ⟨hkey, rfl⟩ := matchKey_ok.1 h1
    simp only [ok_bind]
    cases h2 : registerIdentities config.limits atTime obs tx1 with
    | error x => exact .inl ⟨x, rfl, .stopped hkey (registerIdentities_error h2).2.1⟩
    | ok tx2 =>
      obtain ⟨-, hf2⟩ := registerIdentities_ok h2
      simp only [ok_bind]
      cases h3 : clampSkew config.limits config.freshness atTime obs tx2 with
      | error x => exact .inl ⟨x, rfl, .stopped hkey (hf2 ▸ (clampSkew_error h3).2.1)⟩
      | ok p =>
        obtain ⟨tx3, obs'⟩ := p
        obtain ⟨rfl, -, hf3, -⟩ := clampSkew_ok h3
        rw [hf2] at hf3
        simp only [ok_bind]
        cases h4 : makeGenerationRoom config.limits atTime (clampedObservation config.limits obs) tx3 with
        | error x => exact .inl ⟨x, rfl, .stopped hkey (hf3.trans (makeGenerationRoom_error h4).2.1)⟩
        | ok tx4 =>
          have hroom := (makeGenerationRoom_ok h4).1
          have henter := (enterGeneration_flow config.limits atTime (clampedObservation config.limits obs) tx4).1
          rw [clampedObservation_subject] at hroom henter
          obtain ⟨room, hroom, hr⟩ := hroom.noted hf3
          have hentered := (hr.enter obs.subject.generation atTime).trans henter
          simp only [ok_bind]
          cases h5 : checkSourceRoom config.limits atTime (clampedObservation config.limits obs)
              (enterGeneration config.limits atTime (clampedObservation config.limits obs) tx4) with
          | error x => exact .inl ⟨x, rfl,
            .noSourceRoom room hkey hroom (hentered.trans (checkSourceRoom_error h5).2.1)⟩
          | ok tx5 =>
            obtain ⟨rfl, -⟩ := checkSourceRoom_ok h5
            exact .inr ⟨_, room, rfl, hkey, hroom, hentered⟩

/-- A stage that refuses before the ledger makes and changes no binding. -/
theorem Unreached.binding? {limits : Limits} (h : Unreached limits atTime obs f f') : f'.id = f.id ∧
    ∀ gen source b, f'.binding? gen source = some b → f.binding? gen source = some b := by
  have hnoted : ∀ {f f' : FlowRuntime}, f.Noted f' → f'.id = f.id ∧
      ∀ gen source b, f'.binding? gen source = some b → f.binding? gen source = some b := by
    intro f f' hn
    refine ⟨?_, fun gen source b hb => by rwa [hn.binding?] at hb⟩
    obtain ⟨_, _, _, rfl⟩ := hn
    rfl
  cases h with
  | collided _ hf =>
    have hmarked := hnoted hf
    exact hmarked
  | stopped _ hf => exact hnoted hf
  | noSourceRoom room _ hroom hf =>
    obtain ⟨hid, hbind⟩ := hnoted hf
    refine ⟨hid.trans hroom.same.1, fun gen source b hb => ?_⟩
    have hentered := hbind gen source b hb
    rw [binding?_enter] at hentered
    exact hroom.binding?_some hentered

end Flow

namespace Engine

/-! ## The bindings of the engine -/

/-- What the engine holds of a source in a generation of a flow. -/
def binding? (e : Engine) (flow : FlowId) (gen : GenerationId) (source : SourceId) : Option SourceBinding :=
  (e.flows.find? flow).bind (·.binding? gen source)

/-- Every binding of the engine satisfies `P`. -/
def Holds (P : FlowId → GenerationId → SourceBinding → Prop) (e : Engine) : Prop :=
  ∀ flow gen source b, e.binding? flow gen source = some b → P flow gen b

/-- The binding that a prepared observation finds or makes. -/
def bindingFor (e : Engine) (obs : Observation) : SourceBinding :=
  (e.binding? obs.subject.flow obs.subject.generation obs.key.source).getD
    (freshBinding e.config.limits e.replaying obs.key.source ⟨obs.subject.flow, obs.subject.generation⟩)

/-- The observation as the ledger gets it. -/
def taken (e : Engine) (incoming : Observation) : Observation :=
  clampedObservation e.config.limits (prepare e.instant incoming)

/-- The binding after it took the observation. -/
def bindingAfter (e : Engine) (incoming : Observation) : SourceBinding :=
  ((e.bindingFor (e.taken incoming)).take e.replaying (e.taken incoming)).1

/-- Every flow of the engine satisfies `Q`. -/
def EachFlow (Q : FlowRuntime → Prop) (e : Engine) : Prop := ∀ id f, e.flows.find? id = some f → Q f

section EachFlow

variable {Q : FlowRuntime → Prop} {e e' : Engine} {obs : Observation} {outcome : IngestOutcome} {atTime : Timestamp}

theorem EachFlow.of_find? (h : e.EachFlow Q)
    (hf : ∀ id, e'.flows.find? id = e.flows.find? id ∨ e'.flows.find? id = none) :
    e'.EachFlow Q := by
  intro id f hid
  rcases hf id with hf | hf
  · rw [hf] at hid
    exact h id f hid
  · rw [hf] at hid
    cases hid

theorem EachFlow.set (h : e.EachFlow Q) {f : FlowRuntime} (hflows : e'.flows = e.flows.set f) (hf : Q f) :
    e'.EachFlow Q := by
  intro id f' hid
  rw [hflows, SortedVec.find?_set] at hid
  split at hid
  · cases hid
    exact hf
  · exact h id f' hid

/-- The sources of `e` are as they were in `e'`, with one more at most. -/
structure Registers (e e' : Engine) (source : SourceId) : Prop where
  keeps : ∀ id s, e.sources.find? id = some s → e'.sources.find? id = some s
  named : (e'.sources.find? source).isSome = true

theorem SourceFor.registers {source : SourceId} (h : SourceFor e atTime source e'.sources) : e.Registers e' source := by
  generalize hs : e'.sources = sources at h
  cases h with
  | known s h hr => exact ⟨fun id s hid => by rw [hs]; exact hid, by rw [hs, h]; rfl⟩
  | fresh h hroom =>
    have hfind : ∀ id, e'.sources.find? id = if source = id then some (unregisteredSource atTime source)
        else e.sources.find? id := by
      intro id
      rw [hs]
      exact SortedVec.find?_set _ _ _
    constructor
    · intro id s hid
      rw [hfind]
      split
      · rename_i hsource
        rw [← hsource, h] at hid
        cases hid
      · exact hid
    · rw [hfind, if_pos rfl]
      rfl

theorem Admitted.eachFlow (ha : Admitted e atTime obs e' outcome) (h : e.EachFlow Q)
    (happ : ∀ f f', f.id = obs.subject.flow → e.Registers e' obs.key.source →
      FlowApplied e.config e'.sources e.context e.replaying atTime obs f f' outcome → Q f → Q f')
    (hcreate : Q (e.createFlow atTime obs)) : e'.EachFlow Q := by
  cases ha with
  | noSource he _ => exact h.of_find? (fun id => .inl (by rw [he.flows_eq]))
  | noFlowRoom sources flows _ _ hroom he _ =>
    refine h.of_find? (fun id => ?_)
    rw [he.flows_eq]
    rcases hroom with rfl | hroom
    · exact .inl rfl
    · exact hroom.find?_eq id
  | found sources f f' _ hsource hf hflow he =>
    have hs : e'.sources = sources := he.sources_eq
    rw [← hs] at hflow hsource
    exact h.set he.flows_eq (happ f f' (SortedVec.find?_key hf) hsource.registers hflow (h _ f hf))
  | created sources flows f' _ hsource _ hroom hflow he =>
    have hs : e'.sources = sources := he.sources_eq
    rw [← hs] at hflow hsource
    have hold : ({ e with flows := flows } : Engine).EachFlow Q := h.of_find? hroom.find?_eq
    exact hold.set he.flows_eq (happ _ f' rfl hsource.registers hflow hcreate)

/-- **What every way to apply an observation to its flow preserves, applying it to the engine preserves.** -/
theorem eachFlow_applyLocked (h : e.EachFlow Q) (incoming : Observation)
    (happ : ∀ f f', f.id = (prepare e.instant incoming).subject.flow →
      validateObservation e.config.limits incoming = .ok () →
      e.Registers (e.applyLocked incoming).1 incoming.key.source →
      FlowApplied e.config (e.applyLocked incoming).1.sources e.context e.replaying e.instant
        (prepare e.instant incoming) f f' (e.applyLocked incoming).2 → Q f → Q f')
    (hcreate : Q (e.createFlow e.instant (prepare e.instant incoming))) : (e.applyLocked incoming).1.EachFlow Q := by
  cases applyLocked_cases e incoming with
  | invalid _ _ he _ =>
    obtain ⟨_, he⟩ := he
    exact h.of_find? (fun id => .inl (by rw [he]))
  | unjournaled _ _ _ _ he _ =>
    have hf := (sameTables_appendObservation e.received (prepare e.instant incoming)).flows_eq
    exact h.of_find? (fun id => .inl (by rw [he]; exact congrArg (SortedVec.find? · id) hf))
  | admitted e₁ hv _ hsame ha =>
    have h₁ : e₁.EachFlow Q := h.of_find? (fun id => .inl (by rw [hsame.flows_eq]))
    obtain ⟨_, _, _, rfl⟩ := hsame
    exact ha.eachFlow h₁ (fun f f' hid hreg hflow => happ f f' hid hv ⟨hreg.keeps, hreg.named⟩ hflow) hcreate

/-- The same for a property of the logs of the flows and one of the registries: those are what a stage can keep. -/
theorem eachFlow_applyJournaled {R : Registries → Prop} (h : e.EachFlow Q) (hreg : R e.registries)
    (hstages : StageRule e.config.limits obs.subject (fun tx => Q tx.flow ∧ R tx.registries))
    (hcreate : Q (e.createFlow atTime obs)) :
    (e.applyJournaled atTime obs).1.EachFlow Q ∧ R (e.applyJournaled atTime obs).1.registries := by
  have hstored : ∀ sources flows counters f, Q f → (∀ id, flows.find? id = e.flows.find? id ∨ flows.find? id = none) →
      let x := Exit.ofExcept (applyToFlow e.config sources e.context e.replaying atTime obs ⟨f, e.registries, counters⟩)
      ({ e with sources := sources, flows := flows, counters := counters }.store x.1).EachFlow Q ∧
        R ({ e with sources := sources, flows := flows, counters := counters }.store x.1).registries := by
    intro sources flows counters f hf hflows x
    have hx : Q x.1.flow ∧ R x.1.registries := by
      have htx : Q (FlowTx.mk f e.registries counters).flow ∧
          R (FlowTx.mk f e.registries counters).registries := ⟨hf, hreg⟩
      exact hstages.applyToFlow htx
    have hkept : ({ e with sources := sources, flows := flows, counters := counters } : Engine).EachFlow Q :=
      h.of_find? hflows
    exact ⟨hkept.set rfl hx.1, hx.2⟩
  unfold applyJournaled
  split
  · exact ⟨h, hreg⟩
  · rename_i e₁ h₁
    obtain ⟨-, he₁⟩ := resolveSource_ok h₁
    generalize e₁.sources = sources at he₁
    subst he₁
    simp only [resolveFlow]
    cases hf : e.flows.find? obs.subject.flow with
    | some f => exact hstored sources e.flows e.counters f (h _ f hf) (fun id => .inl rfl)
    | none =>
      obtain ⟨hroom, he₂⟩ := makeFlowRoom_cases { e with sources := sources }
      generalize hr : ({ e with sources := sources } : Engine).makeFlowRoom = room at hroom he₂
      obtain ⟨e₂, ok⟩ := room
      simp only at hroom he₂
      generalize e₂.flows = flows at hroom he₂
      generalize e₂.counters = counters at he₂
      subst he₂
      have hflows : ∀ id, flows.find? id = e.flows.find? id ∨ flows.find? id = none := by
        intro id
        rcases hroom with ⟨-, hroom⟩ | ⟨-, rfl | hroom⟩
        · exact hroom.find?_eq id
        · exact .inl rfl
        · exact hroom.find?_eq id
      cases ok with
      | false => exact ⟨h.of_find? hflows, hreg⟩
      | true => exact hstored sources flows _ _ hcreate hflows

/-- **What every stage keeps of the logs of the flows and of the registries, applying an observation keeps.** -/
theorem logs_applyLocked {R : Registries → Prop} (h : e.EachFlow Q) (hreg : R e.registries) (incoming : Observation)
    (hstages : validateObservation e.config.limits incoming = .ok () →
      StageRule e.config.limits (prepare e.instant incoming).subject (fun tx => Q tx.flow ∧ R tx.registries))
    (hcreate : Q (e.createFlow e.instant (prepare e.instant incoming))) :
    (e.applyLocked incoming).1.EachFlow Q ∧ R (e.applyLocked incoming).1.registries := by
  cases hv : validateObservation e.config.limits incoming with
  | error err =>
    rw [applyLocked_invalid hv]
    exact ⟨h, hreg⟩
  | ok _ =>
    have hjournaled : ∀ e₁, e.SameTables e₁ → (e₁.applyJournaled e.instant (prepare e.instant incoming)).1.EachFlow Q ∧
        R (e₁.applyJournaled e.instant (prepare e.instant incoming)).1.registries := by
      rintro e₁ ⟨_, _, _, rfl⟩
      exact eachFlow_applyJournaled h hreg (hstages hv) hcreate
    by_cases hr : e.replaying = true
    · rw [applyLocked_replaying hv hr]
      exact hjournaled _ (.count e _)
    · have hsame : e.SameTables (e.received.appendObservation (prepare e.instant incoming)).1 :=
        (SameTables.count e _).trans (sameTables_appendObservation e.received (prepare e.instant incoming))
      replace hr : e.replaying = false := Bool.eq_false_iff.2 hr
      cases hj : (e.received.appendObservation (prepare e.instant incoming)).2 with
      | error err =>
        rw [applyLocked_unjournaled hv hr hj]
        have hflows := hsame.flows_eq
        have hregistries : (e.received.appendObservation (prepare e.instant incoming)).1.registries = e.registries := by
          obtain ⟨_, _, _, he⟩ := hsame
          rw [he]
        refine ⟨h.of_find? (fun id => .inl ?_), ?_⟩
        · exact congrArg (SortedVec.find? · id) hflows
        · exact hregistries.symm ▸ hreg
      | ok _ =>
        rw [applyLocked_journaled hv hr hj]
        exact hjournaled _ hsame

/-- Applying an observation leaves the sources as they are, or finds or registers its own. -/
theorem sources_applyLocked (e : Engine) (incoming : Observation) : (e.applyLocked incoming).1.sources = e.sources ∨
    SourceFor e e.instant incoming.key.source (e.applyLocked incoming).1.sources := by
  cases applyLocked_cases e incoming with
  | invalid _ _ he _ =>
    obtain ⟨_, he⟩ := he
    exact .inl (by rw [he])
  | unjournaled _ _ _ _ he _ =>
    have hs := (sameTables_appendObservation e.received (prepare e.instant incoming)).sources_eq
    exact .inl (by rw [he]; exact hs)
  | admitted e₁ _ _ hsame ha =>
    have hfor : ∀ sources, SourceFor e₁ e.instant incoming.key.source sources →
        SourceFor e e.instant incoming.key.source sources := by
      obtain ⟨_, _, _, rfl⟩ := hsame
      intro sources hsource
      cases hsource with
      | known s h hr => exact .known s h hr
      | fresh h hroom => exact .fresh h hroom
    generalize (e.applyLocked incoming).1 = e' at ha ⊢
    cases ha with
    | noSource he _ => exact .inl (he.sources_eq.trans hsame.sources_eq)
    | noFlowRoom sources _ hsource _ _ he _ => exact .inr (he.sources_eq ▸ hfor sources hsource)
    | found sources _ _ _ hsource _ _ he => exact .inr (he.sources_eq ▸ hfor sources hsource)
    | created sources _ _ _ hsource _ _ _ he => exact .inr (he.sources_eq ▸ hfor sources hsource)

/-- Applying an observation keeps every source. -/
theorem keeps_applyLocked (e : Engine) (incoming : Observation) {id : SourceId} {s : SourceState}
    (h : e.sources.find? id = some s) : (e.applyLocked incoming).1.sources.find? id = some s := by
  rcases sources_applyLocked e incoming with hsame | hsource
  · rwa [hsame]
  · exact hsource.registers.keeps id s h

theorem eachFlow_recomputeAll (h : e.EachFlow Q) (due : FlowRuntime → Bool)
    (hrecompute : ∀ sources ctx f, Q f → Q (recomputeFlow e.config sources ctx atTime f)) :
    (e.recomputeAll atTime due).EachFlow Q := by
  intro id f' hf'
  rw [find?_recomputeAll] at hf'
  obtain ⟨f, hf, rfl⟩ := Option.map_eq_some_iff.1 hf'
  unfold recomputeDue
  split
  · exact hrecompute _ _ f (h id f hf)
  · exact h id f hf

end EachFlow

section Holds

variable {P : FlowId → GenerationId → SourceBinding → Prop} {e e' : Engine} {obs incoming : Observation}
variable {outcome : IngestOutcome} {atTime : Timestamp}

theorem holds_iff : e.Holds P ↔ ∀ flow f, e.flows.find? flow = some f →
    ∀ gen source b, f.binding? gen source = some b → P flow gen b := by
  constructor
  · intro h flow f hf gen source b hb
    exact h flow gen source b (by rw [binding?, hf, Option.bind_some, hb])
  · intro h flow gen source b hb
    obtain ⟨f, hf, hb⟩ := Option.bind_eq_some_iff.1 hb
    exact h flow f hf gen source b hb

theorem Holds.of_flows (h : e.Holds P) (hf : e'.flows = e.flows) : e'.Holds P := by
  unfold Holds binding? at h ⊢
  rwa [hf]

theorem Holds.mono {Q : FlowId → GenerationId → SourceBinding → Prop} (h : e.Holds P)
    (hpq : ∀ flow gen b, P flow gen b → Q flow gen b) : e.Holds Q :=
  fun flow gen source b hb => hpq flow gen b (h flow gen source b hb)

/-- The flows that are left satisfy what they satisfied. -/
theorem Holds.of_find? (h : e.Holds P) (hf : ∀ id, e'.flows.find? id = e.flows.find? id ∨ e'.flows.find? id = none) :
    e'.Holds P := by
  intro flow gen source b hb
  unfold binding? at hb
  rcases hf flow with hf | hf
  · rw [hf] at hb
    exact h flow gen source b hb
  · rw [hf] at hb
    cases hb

/-- A flow that is put into the table brings its own bindings. -/
theorem Holds.set (h : e.Holds P) {f : FlowRuntime} (hflows : e'.flows = e.flows.set f)
    (hf : ∀ gen source b, f.binding? gen source = some b → P f.id gen b) : e'.Holds P := by
  rw [holds_iff] at h ⊢
  intro flow f' hf'
  rw [hflows, SortedVec.find?_set] at hf'
  split at hf'
  · rename_i hid
    cases hf'
    rw [← hid]
    exact hf
  · exact h flow f' hf'

theorem Admitted.holds (ha : Admitted e atTime obs e' outcome) (h : e.Holds P)
    (hrefresh : ∀ ctx flow gen b, P flow gen b → P flow gen (refreshBinding e.config e'.sources ctx b))
    (htake : P obs.subject.flow obs.subject.generation
      ((e.bindingFor obs).take e.replaying (clampedObservation e.config.limits obs)).1) : e'.Holds P := by
  cases ha with
  | noSource he _ => exact h.of_flows he.flows_eq
  | noFlowRoom sources flows _ _ hroom he _ =>
    refine h.of_find? (fun id => ?_)
    rw [he.flows_eq]
    rcases hroom with rfl | hroom
    · exact .inl rfl
    · exact hroom.find?_eq id
  | found sources f f' _ _ hf happ he =>
    have hid := SortedVec.find?_key hf
    have hs : e'.sources = sources := he.sources_eq
    rw [hs] at hrefresh
    refine h.set he.flows_eq ?_
    rw [happ.kept.id, hid]
    refine happ.bindings (fun gen source b hb => holds_iff.1 h _ f hf gen source b hb) (hrefresh e.context _) ?_
    have hfor : f.bindingFor e.config.limits e.replaying obs = e.bindingFor obs := by
      unfold FlowRuntime.bindingFor bindingFor binding?
      rw [hf, Option.bind_some, hid]
    rwa [hfor]
  | created sources flows f' _ _ hnone hroom happ he =>
    have hold : ({ e with flows := flows } : Engine).Holds P := h.of_find? hroom.find?_eq
    have hs : e'.sources = sources := he.sources_eq
    rw [hs] at hrefresh
    refine hold.set he.flows_eq ?_
    rw [happ.kept.id]
    refine happ.bindings (fun gen source b hb => nomatch hb) (hrefresh e.context _) ?_
    have hfor : (e.createFlow atTime obs).bindingFor e.config.limits e.replaying obs = e.bindingFor obs := by
      unfold FlowRuntime.bindingFor bindingFor binding?
      rw [hnone]
      rfl
    rwa [hfor]

/-- The source and the flow of the observation are found or made, and no stage on the flow refuses it before the
ledger. -/
def admits (e : Engine) (atTime : Timestamp) (obs : Observation) : Bool :=
  match e.resolveSource atTime obs.key.source with
  | .error _ => false
  | .ok e =>
    match e.resolveFlow atTime obs with
    | (_, none) => false
    | (e, some flow) => (toLedger e.config atTime obs ⟨flow, e.registries, e.counters⟩).isOk

/-- `apply_locked` hands the observation to the ledger of its source: no earlier stage refuses it. -/
def reachesLedger (e : Engine) (incoming : Observation) : Bool :=
  let obs := prepare e.instant incoming
  let journaled := if e.replaying then (e.received, .ok ()) else e.received.appendObservation obs
  (validateObservation e.config.limits incoming).isOk && journaled.2.isOk && journaled.1.admits e.instant obs

theorem resolveFlow_holds (atTime : Timestamp) (obs : Observation) (h : e.Holds P) :
    (e.resolveFlow atTime obs).1.Holds P ∧
    ∀ f, (e.resolveFlow atTime obs).2 = some f → ∀ gen source b, f.binding? gen source = some b → P f.id gen b := by
  unfold resolveFlow
  cases hf : e.flows.find? obs.subject.flow with
  | some f =>
    refine ⟨h, fun f' hf' => ?_⟩
    cases hf'
    have hid := SortedVec.find?_key hf
    rw [hid]
    exact holds_iff.1 h _ f hf
  | none =>
    obtain ⟨hroom, -⟩ := makeFlowRoom_cases e
    have hroomed : e.makeFlowRoom.1.Holds P := by
      rcases hroom with ⟨-, hroom⟩ | ⟨-, hroom | hroom⟩
      · exact h.of_find? hroom.find?_eq
      · exact h.of_flows hroom
      · exact h.of_find? hroom.find?_eq
    simp only
    split
    · refine ⟨hroomed.of_flows rfl, fun f' hf' gen source b hb => ?_⟩
      cases hf'
      cases hb
    · refine ⟨hroomed, fun f' hf' => ?_⟩
      cases hf'

theorem holds_of_unadmitted (h : e.Holds P) (hn : e.admits atTime obs = false) :
    (e.applyJournaled atTime obs).1.Holds P := by
  unfold admits at hn
  unfold applyJournaled
  cases hs : e.resolveSource atTime obs.key.source with
  | error err => exact h.of_flows rfl
  | ok e₁ =>
    have h₁ : e₁.Holds P := h.of_flows (by rw [(resolveSource_ok hs).2])
    obtain ⟨h₂, hflow⟩ := resolveFlow_holds atTime obs h₁
    simp only [hs] at hn ⊢
    rcases hr : e₁.resolveFlow atTime obs with ⟨e₂, _ | f⟩
    · rw [hr] at h₂
      exact h₂.of_flows rfl
    · simp only [hr] at h₂ hn hflow ⊢
      rcases toLedger_cases e₂.config atTime obs
        ⟨f, e₂.registries, e₂.counters⟩ with ⟨x, hx, hunreached⟩ | ⟨_, _, hx, -⟩
      · obtain ⟨hid, hbind⟩ := hunreached.binding?
        rw [applyToFlow_eq, hx]
        refine h₂.set rfl (fun gen source b hb => ?_)
        have hbefore : P f.id gen b := hflow f rfl gen source b (hbind gen source b hb)
        rw [← hid] at hbefore
        exact hbefore
      · rw [hx] at hn
        cases hn

/-- **An observation that does not reach the ledger makes and changes no binding.** -/
theorem holds_of_unreached (h : e.Holds P) (hn : e.reachesLedger incoming = false) :
    (e.applyLocked incoming).1.Holds P := by
  have hreceived : e.received.Holds P := h.of_flows rfl
  cases hv : validateObservation e.config.limits incoming with
  | error err =>
    rw [applyLocked_invalid hv]
    exact h.of_flows rfl
  | ok _ =>
    by_cases hr : e.replaying = true
    · rw [applyLocked_replaying hv hr]
      refine holds_of_unadmitted hreceived ?_
      simpa [reachesLedger, hv, hr, Except.isOk, Except.toBool] using hn
    · replace hr : e.replaying = false := Bool.eq_false_iff.2 hr
      have hflows := (sameTables_appendObservation e.received (prepare e.instant incoming)).flows_eq
      have happended := hreceived.of_flows hflows
      cases hj : (e.received.appendObservation (prepare e.instant incoming)).2 with
      | error err =>
        rw [applyLocked_unjournaled hv hr hj]
        exact happended.of_flows rfl
      | ok _ =>
        rw [applyLocked_journaled hv hr hj]
        refine holds_of_unadmitted happended ?_
        simpa [reachesLedger, hv, hr, hj, Except.isOk, Except.toBool] using hn

/-- **What applying an observation does to the bindings of the engine.** -/
theorem holds_applyLocked (h : e.Holds P)
    (hrefresh : ∀ ctx flow gen b, P flow gen b →
      P flow gen (refreshBinding e.config (e.applyLocked incoming).1.sources ctx b))
    (htake : validateObservation e.config.limits incoming = .ok () → e.reachesLedger incoming = true →
      P (e.taken incoming).subject.flow (e.taken incoming).subject.generation (e.bindingAfter incoming)) :
    (e.applyLocked incoming).1.Holds P := by
  by_cases hreach : e.reachesLedger incoming = true
  · cases applyLocked_cases e incoming with
    | invalid _ _ he _ =>
      obtain ⟨_, he⟩ := he
      exact h.of_flows (by rw [he])
    | unjournaled _ _ _ _ he _ =>
      have hf := (sameTables_appendObservation e.received (prepare e.instant incoming)).flows_eq
      exact h.of_flows (by rw [he]; exact hf)
    | admitted e₁ hv _ hsame ha =>
      have htake := htake hv hreach
      have h₁ : e₁.Holds P := h.of_flows hsame.flows_eq
      obtain ⟨_, _, _, rfl⟩ := hsame
      refine ha.holds h₁ hrefresh ?_
      unfold bindingAfter taken at htake
      rw [clampedObservation_subject] at htake
      have hfor : e.bindingFor (clampedObservation e.config.limits (prepare e.instant incoming))
          = e.bindingFor (prepare e.instant incoming) := by
        unfold bindingFor
        rw [clampedObservation_subject, clampedObservation_key]
      rw [hfor] at htake
      exact htake
  · exact holds_of_unreached h (Bool.eq_false_iff.2 hreach)

theorem holds_recomputeAll (h : e.Holds P) (due : FlowRuntime → Bool)
    (hrefresh : ∀ ctx flow gen b, P flow gen b → P flow gen (refreshBinding e.config e.sources ctx b)) :
    (e.recomputeAll atTime due).Holds P := by
  rw [holds_iff] at h ⊢
  intro flow f' hf' gen source b hb
  rw [find?_recomputeAll] at hf'
  obtain ⟨f, hf, rfl⟩ := Option.map_eq_some_iff.1 hf'
  unfold recomputeDue at hb
  split at hb
  · rw [binding?_recomputeFlow] at hb
    obtain ⟨b₀, hb₀, rfl⟩ := Option.map_eq_some_iff.1 hb
    exact hrefresh _ _ _ _ (h flow f hf gen source b₀ hb₀)
  · exact h flow f hf gen source b hb

/-- Giving up the evidence of a source leaves the other bindings. -/
theorem binding?_dropSource (id : SourceId) (f : FlowRuntime) (gen : GenerationId) (source : SourceId) :
    (dropSource id f).binding? gen source = if id = source then none else f.binding? gen source := by
  unfold FlowRuntime.binding?
  have hmap := SortedVec.find?_map f.generations (dropBinding id) (dropBinding_id id) gen
  rw [show (dropSource id f).generations = f.generations.map (dropBinding id) (dropBinding_id id) from rfl, hmap]
  cases f.generations.find? gen with
  | none => simp
  | some g => exact SortedVec.find?_erase g.bindings id source

end Holds

/-! ## Registered sources -/

section Registered

variable {e : Engine}

/-- The sources of the flow are registered. -/
def Registered (sources : SourceTable) (f : FlowRuntime) : Prop :=
  ∀ gen source b, f.binding? gen source = some b → (sources.find? b.source).isSome = true

theorem Registered.mono {sources sources' : SourceTable} {f : FlowRuntime} (h : Registered sources f)
    (hkeeps : ∀ id, (sources.find? id).isSome = true → (sources'.find? id).isSome = true) : Registered sources' f :=
  fun gen source b hb => hkeeps _ (h gen source b hb)

theorem isSome_set {sources : SourceTable} (s : SourceState) {id : SourceId} (h : (sources.find? id).isSome = true) :
    ((sources.set s).find? id).isSome = true := by
  rw [SortedVec.find?_set]
  split
  · rfl
  · exact h

/-- An observation of a registered source leaves the sources of its flow registered. -/
theorem Registered.applied {config : EngineConfig} {sources sources' : SourceTable} {ctx : FreshnessContext}
    {replaying : Bool} {atTime : Timestamp} {obs : Observation} {f f' : FlowRuntime} {outcome : IngestOutcome}
    (h : Registered sources f) (happ : FlowApplied config sources' ctx replaying atTime obs f f' outcome)
    (hsource : (sources.find? obs.key.source).isSome = true) : Registered sources f' := by
  refine happ.bindings (P := fun _ b => (sources.find? b.source).isSome = true) h
    (fun gen b hb => by rwa [refreshBinding_source]) ?_
  rw [SourceBinding.take_source]
  unfold FlowRuntime.bindingFor
  cases hb : f.binding? obs.subject.generation obs.key.source with
  | none => exact hsource
  | some b => exact h _ _ b hb

/-- Applying an observation registers its source. -/
theorem registered_applyLocked (h : e.EachFlow (Registered e.sources)) (obs : Observation) :
    (e.applyLocked obs).1.EachFlow (Registered (e.applyLocked obs).1.sources) := by
  have hmono : e.EachFlow (Registered (e.applyLocked obs).1.sources) := fun id f hf => (h id f hf).mono fun id hid => by
    obtain ⟨s, hs⟩ := Option.isSome_iff_exists.1 hid
    rw [keeps_applyLocked e obs hs]
    rfl
  exact eachFlow_applyLocked hmono obs (fun f f' _ _ hregisters happ hf => hf.applied happ hregisters.named)
    (fun gen source b hb => (by cases hb))

theorem registered_recomputeAll (h : e.EachFlow (Registered e.sources)) (atTime : Timestamp)
    (due : FlowRuntime → Bool) :
    (e.recomputeAll atTime due).EachFlow (Registered (e.recomputeAll atTime due).sources) := by
  refine eachFlow_recomputeAll h due fun sources ctx f hf gen source b hb => ?_
  rw [binding?_recomputeFlow] at hb
  obtain ⟨b₀, hb₀, rfl⟩ := Option.map_eq_some_iff.1 hb
  rw [refreshBinding_source]
  exact hf gen source b₀ hb₀

end Registered

/-! ## What every operation preserves -/

/-- Giving up the evidence of a source keeps what holds of the other bindings. -/
theorem Holds.dropped {P : FlowId → GenerationId → SourceBinding → Prop} {e : Engine} (h : e.Holds P) (s : SourceState)
    (id : SourceId) : (e.dropped s id).Holds P := by
  rw [holds_iff] at h ⊢
  intro flow f hf gen source b hb
  rw [find?_dropped] at hf
  obtain ⟨f₀, hf₀, rfl⟩ := Option.map_eq_some_iff.1 hf
  rw [binding?_dropSource] at hb
  split at hb
  · cases hb
  · exact h flow f₀ hf₀ gen source b hb

/-- `register_source` gives a known source `s` the descriptor `d`. -/
structure Updates (e : Engine) (d : SourceDescriptor) (s : SourceState) : Prop where
  checked : checkDescriptor e.config.limits d = .ok ()
  running : e.frozen = false
  known : e.sources.find? d.id = some s
  sameKey : s.descriptor.canonicalKey = d.canonicalKey

/-- `register_source` registers a new source `s` with the descriptor `d`. -/
structure Describes (e : Engine) (d : SourceDescriptor) (s : SourceState) : Prop where
  checked : checkDescriptor e.config.limits d = .ok ()
  unknown : e.sources.find? d.id = none
  room : e.sources.toList.length < e.config.limits.maxSources.toNat
  described : s.descriptor = d
  active : s.retired = false

section Rule

variable {P : Engine → Prop} {cond : Engine → Observation → Prop} {register : Engine → SourceDescriptor → Prop}

/-- What applying one observation preserves, a batch preserves. -/
theorem batch_rule (happly : ∀ e obs, P e → cond e obs → P (e.applyLocked obs).1)
    {batch : List Observation} {e : Engine}
    (h : P e) (hcond : ∀ p ∈ e.batchApplications batch, cond p.1 p.2) :
    P (batch.foldl (fun e obs => (e.applyLocked obs).1) e) := by
  induction batch generalizing e with
  | nil => exact h
  | cons obs batch ih =>
    have hhead := hcond (e, obs) List.mem_cons_self
    exact ih (happly e obs h hhead) (fun p hp => hcond p (List.mem_cons_of_mem _ hp))

/-- **The rule for the operations of an engine in use.** -/
theorem step_rule (happly : ∀ e obs, P e → cond e obs → P (e.applyLocked obs).1)
    (hrecompute : ∀ e atTime due, P e → P (e.recomputeAll atTime due))
    (hdrop : ∀ e s id, e.sources.find? id = some s → P e → P (e.dropped s id))
    (hregister : ∀ e d s, e.Describes d s → P e → P { e with sources := e.sources.set s })
    (hupdate : ∀ e d s, e.Updates d s → register e d → P e →
      P { e with sources := e.sources.set { s with descriptor := d, retired := false } })
    (hsame : ∀ e e', e.SameState e' → P e → P e') {e : Engine} {op : Op} (h : P e)
    (hcond : ∀ p ∈ e.applications op, cond p.1 p.2) (hdescribed : ∀ d, op = .registerSource d → register e d) :
    P (e.step op) := by
  cases op with
  | ingest obs =>
    show P (e.ingest obs).1
    rcases ingest_cases e obs with ⟨-, he⟩ | ⟨happs, he⟩
    · exact he.symm ▸ h
    · exact he.symm ▸ happly e obs h (hcond (e, obs) (happs ▸ List.mem_singleton_self _))
  | submit obs =>
    rcases submit_cases e obs with ⟨-, he⟩ | ⟨happs, he⟩
    · exact he.symm ▸ h
    · exact he.symm ▸ happly e _ h (hcond (e, e.prepareSubmit obs) (happs ▸ List.mem_singleton_self _))
  | enqueue obs => exact hsame _ _ (sameState_enqueue e obs) h
  | drain n =>
    by_cases hopen : e.isOpen = true
    · rw [applications, if_pos hopen] at hcond
      have hbatch := batch_rule happly (hsame _ _ (sameState_taken e n) h) hcond
      exact hsame _ _ (sameState_drain hopen n) hbatch
    · exact hsame _ _ (sameState_drain_closed hopen n) h
  | work batch =>
    have hbatch := batch_rule happly h hcond
    exact hsame _ _ (sameState_applyBatch _ _) hbatch
  | tick evaluatedAt =>
    simp only [step, tick]
    split
    · exact h
    · split
      · exact h
      · have hset : P { e with evaluationOverride := evaluatedAt } := hsame e _ ⟨rfl, rfl, rfl, rfl, rfl, rfl⟩ h
        have hticked := hrecompute _ evaluatedAt tickDue hset
        exact hsame _ _ (sameState_tickLocked e evaluatedAt) hticked
  | registerSource d =>
    have happend := sameTables_appendSource e d
    have hcases := registerSource_cases e d
    simp only [step]
    generalize e.registerSource d = result at hcases ⊢
    cases hcases with
    | known s hd hf hs hkey => exact hupdate e d s ⟨hd, hf, hs, hkey⟩ (hdescribed d rfl) h
    | unjournaled _ _ _ hj =>
      rw [hj] at happend
      exact hsame e _ happend.sameState h
    | fresh e₁ hd hs hroom hj =>
      rw [hj] at happend
      have hconfig := happend.sameState.config
      have hsources := happend.sameState.sources
      refine hregister _ d _ ⟨hconfig ▸ hd, hsources ▸ hs, ?_, rfl, rfl⟩ (hsame e _ happend.sameState h)
      rw [hconfig, hsources]
      exact hroom
    | _ => exact h
  | retireSource id =>
    simp only [step, retireSource]
    split
    · exact h
    · rename_i s hs
      exact hrecompute _ _ _ (hdrop e s id hs h)
  | compact =>
    exact hsame e _ (sameTables_compactLocked e).sameState h
  | flush => exact hsame e _ ⟨rfl, rfl, rfl, rfl, rfl, rfl⟩ h
  | freeze => exact hsame e _ ⟨rfl, rfl, rfl, rfl, rfl, rfl⟩ h
  | advance clock => exact hsame e _ ⟨rfl, rfl, rfl, rfl, rfl, rfl⟩ h

end Rule

end Engine

end FlowObs
