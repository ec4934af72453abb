import Mathlib.Algebra.Order.BigOperators.Group.List
import FlowObs.Retained
import FlowObs.Engine.Durable
import FlowObs.Engine.Pages
import FlowObs.Engine.Rebuilt

/-!
# Delivering an observation again

An observation that the ledger has is delivered again. The stages around the ledger leave their traces: one that is
clamped again or whose generation was superseded is noted, a retired source or a changed key refuses it, and the flow
is recomputed (`applyToFlow_known`). `redelivery_iff` says when nothing durable comes of it.
-/

namespace FlowObs

/-! ## The duplicate in the stages -/

section Stages

variable {config : EngineConfig} {sources : SourceTable} {ctx : FreshnessContext} {replaying : Bool} {limits : Limits}
variable {atTime : Timestamp} {obs : Observation} {f : FlowRuntime} {g : GenerationRuntime}
    {b : SourceBinding} {tx : FlowTx}
variable {gen : GenerationId}

/-- The observation is too far ahead of its receipt. -/
def Observation.skewed (limits : Limits) (obs : Observation) : Bool :=
  exceedsClockSkew obs.observedAt obs.receivedAt limits.maxClockSkew

/-- Nothing is below an identity that is not valid. -/
theorem NumericId.not_lt_of_invalid {d : NumDomain} {a b : NumericId d} (h : b.valid = false) : ¬ a < b := by
  intro hlt
  have hzero : b.value = 0 := by simpa [NumericId.valid] using h
  have hvalue : a.value < b.value := hlt
  rw [hzero] at hvalue
  exact UInt64.not_lt_zero hvalue

/-- Entering a generation that is there keeps the generations. -/
theorem enter_generations (hgen : f.generations.find? gen = some g) :
    (f.enter gen atTime).generations = f.generations := by
  have hobtained : obtainGeneration f gen atTime = g := by
    unfold obtainGeneration
    rw [hgen]
    rfl
  show f.generations.set (obtainGeneration f gen atTime) = f.generations
  rw [hobtained, SortedVec.set_self]
  rw [SortedVec.find?_key hgen, hgen]

/-- Entering a generation that is there leaves what is durable. -/
theorem durableFlow_enter (hgen : f.generations.find? gen = some g) :
    durableFlow config sources ctx (f.enter gen atTime) = durableFlow config sources ctx f := by
  have hgenerations := @enter_generations atTime f g gen hgen
  unfold durableFlow
  rw [hgenerations]
  rfl

/-- Entering a generation that is there notes that it was superseded, or nothing. -/
theorem enterGeneration_known (hgen : tx.flow.generations.find? obs.subject.generation = some g) :
    (tx.flow.enter obs.subject.generation atTime).Noted (enterGeneration limits atTime obs tx).flow ∧
      (enterGeneration limits atTime obs tx).flow.tally
        = tx.flow.tally + UInt64.ofNat (if obs.subject.generation < tx.flow.currentGeneration then 1 else 0) ∧
      (tx.flow.enter obs.subject.generation atTime).generations = tx.flow.generations := by
  refine ⟨(enterGeneration_flow limits atTime obs tx).1, ?_, enter_generations hgen⟩
  · by_cases hlt : obs.subject.generation < tx.flow.currentGeneration
    · have hcurrent : (!tx.flow.currentGeneration.valid || decide
          (tx.flow.currentGeneration < obs.subject.generation)) = false := by
        rw [Bool.or_eq_false_iff, Bool.not_eq_false', decide_eq_false_iff_not]
        exact ⟨by_contra fun hinvalid => NumericId.not_lt_of_invalid (Bool.not_eq_true _ ▸ hinvalid) hlt, lt_asymm hlt⟩
      rw [if_pos hlt]
      simp only [enterGeneration, hcurrent, hlt, Bool.false_eq_true, if_false, if_true]
      exact tally_note _ _
    · rw [if_neg hlt]
      simp only [enterGeneration, hlt, if_false]
      split <;> exact (UInt64.add_zero _).symm

/-- The stages before the ledger let an observation through to a binding that is there, unless its keys or its instant
are refused. -/
theorem toLedger_known {registries : Registries} (hkey : tx.flow.canonicalKey = obs.subject.flowKey)
    (hregistered : registerIdentity config.limits obs.subject tx.registries = (registries, none))
    (hgen : tx.flow.generations.find? obs.subject.generation = some g)
      (hbinding : g.bindings.find? obs.key.source = some b) :
    toLedger config atTime obs tx =
      (clampSkew config.limits config.freshness atTime obs { tx with registries := registries }).map
      (fun p => (enterGeneration config.limits atTime p.2 p.1, p.2)) := by
  unfold toLedger
  rw [matchKey_ok.2 ⟨hkey, rfl⟩]
  simp only [ok_bind]
  have hidentities : registerIdentities config.limits atTime obs tx = .ok { tx with registries := registries } := by
    unfold registerIdentities
    rw [hregistered]
  rw [hidentities]
  simp only [ok_bind]
  cases hclamp : clampSkew config.limits config.freshness atTime obs { tx with registries := registries } with
  | error x => rfl
  | ok p =>
    obtain ⟨tx', obs'⟩ := p
    obtain ⟨rfl, -, hnoted, -⟩ := clampSkew_ok hclamp
    have hgenerations : tx'.flow.generations = tx.flow.generations := by
      obtain ⟨_, _, _, hn⟩ := hnoted
      rw [hn]
    have hroom : makeGenerationRoom config.limits atTime (clampedObservation config.limits obs) tx' = .ok tx' := by
      unfold makeGenerationRoom
      rw [if_pos]
      rw [hgenerations, clampedObservation_subject, hgen]
      rfl
    have hentered : (enterGeneration config.limits atTime (clampedObservation config.limits obs) tx').flow.generations
        = tx.flow.generations := by
      have hknown : tx'.flow.generations.find? (clampedObservation config.limits obs).subject.generation = some g := by
        rw [hgenerations, clampedObservation_subject, hgen]
      obtain ⟨⟨_, _, _, hn⟩, -, hsame⟩ := enterGeneration_known hknown
      rw [hn]
      exact hsame.trans hgenerations
    have hsource : checkSourceRoom config.limits atTime (clampedObservation config.limits obs)
        (enterGeneration config.limits atTime (clampedObservation config.limits obs) tx')
          = .ok (enterGeneration config.limits atTime (clampedObservation config.limits obs) tx') := by
      have hobtained : obtainGeneration
        (enterGeneration config.limits atTime (clampedObservation config.limits obs) tx').flow
          (clampedObservation config.limits obs).subject.generation atTime = g := by
        unfold obtainGeneration
        rw [hentered, clampedObservation_subject, hgen]
        rfl
      unfold checkSourceRoom
      simp only [hobtained, clampedObservation_key, hbinding, Option.isSome_some, Bool.true_or, if_true]
    simp only [ok_bind, hroom, hsource]
    rfl

/-- The ledger answers that it has the key of the observation: it counts this, and keeps what it has. -/
structure SourceLedger.Counts (l : SourceLedger) (obs : Observation) (kind : InsertKind) : Prop where
  answer : (l.insert obs).2.kind = kind
  ledger : (l.insert obs).1 = l.counted kind
  known : kind = .Duplicate ∨ kind = .ContentConflict

/-- A duplicate is counted by the ledger, and nothing else becomes of it there. -/
theorem SourceLedger.counts_duplicate {l : SourceLedger} (hduplicate : (l.insert obs).2.kind = .Duplicate) :
    l.Counts obs .Duplicate := by
  have hinserted := SourceLedger.insert_cases l obs
  refine ⟨hduplicate, ?_, .inl rfl⟩
  rw [hduplicate] at hinserted
  generalize (l.insert obs).1 = ledger at hinserted
  cases hinserted with
  | refolded _ _ _ => rfl
  | redelivered _ _ _ _ _ => rfl

/-- What is taken of an observation that the ledger counts. -/
theorem take_counted {kind : InsertKind} (hcounts : b.ledger.Counts obs kind) :
    (b.take replaying obs).1 = b.recounted kind b.source := by
  obtain ⟨hanswer, hledger, hknown⟩ := hcounts
  unfold SourceBinding.take SourceBinding.recounted
  rw [if_pos rfl]
  rcases hknown with rfl | rfl
  · simp only [hanswer, hledger]
  · simp only [hanswer, hledger]

/-- The generation of an observation that is counted, once the ledger has answered and it was touched. -/
theorem insertGeneration_counted {flow : FlowId} {kind : InsertKind}
    (hbinding : g.bindings.find? obs.key.source = some b)
    (hcounts : b.ledger.Counts obs kind) :
    { insertGeneration limits replaying flow obs g with lastTouched := atTime } =
    g.redelivered kind obs.key.source atTime := by
  have hsource : b.source = obs.key.source := SortedVec.find?_key hbinding
  have hobtained : obtainBinding limits replaying g obs.key.source ⟨flow, g.id⟩ = b := by
    unfold obtainBinding
    rw [hbinding]
    rfl
  have hbindings : g.bindings.set (b.recounted kind b.source)
      = g.bindings.map (SourceBinding.recounted kind obs.key.source)
        (SourceBinding.recounted_source kind obs.key.source) := by
    refine SortedVec.ext_find? fun source => ?_
    rw [SortedVec.find?_set, SortedVec.find?_map, SourceBinding.recounted_source, hsource]
    split
    · rename_i hkey
      rw [← hkey, hbinding]
      rfl
    · rename_i hne
      cases hfind : g.bindings.find? source with
      | none => rfl
      | some other =>
        have hother : other.source ≠ obs.key.source := by
          rw [SortedVec.find?_key hfind]
          exact Ne.symm hne
        rw [Option.map_some, SourceBinding.recounted, if_neg hother]
  unfold insertGeneration GenerationRuntime.redelivered
  simp only [hobtained, take_counted hcounts, hbindings]

/-- The flow of an observation that is counted, once the ledger has answered and it was touched. -/
theorem touch_counted {kind : InsertKind} (hgen : f.generations.find? obs.subject.generation = some g)
    (hbinding : g.bindings.find? obs.key.source = some b) (hcounts : b.ledger.Counts obs kind) :
    (insertEvidence limits replaying atTime obs f).1.touch obs.subject.generation atTime
      = f.redelivered kind obs.subject.generation obs.key.source atTime := by
  have hobtained : obtainGeneration f obs.subject.generation atTime = g := by
    unfold obtainGeneration
    rw [hgen]
    rfl
  have hinserted : obtainGeneration (insertEvidence limits replaying atTime obs f).1 obs.subject.generation atTime
      = insertGeneration limits replaying f.id obs g := by
    rw [obtainGeneration, find?_insertEvidence, if_pos rfl, hobtained]
    rfl
  have hgenerations : ((insertEvidence limits replaying atTime obs f).1.touch obs.subject.generation atTime).generations
      = (f.redelivered kind obs.subject.generation obs.key.source atTime).generations := by
    refine SortedVec.ext_find? fun gen => ?_
    have hmapped : (f.redelivered kind obs.subject.generation obs.key.source atTime).generations.find? gen
        = (f.generations.find? gen).map (fun g =>
            if g.id = obs.subject.generation then g.redelivered kind obs.key.source atTime else g) := by
      simp only [FlowRuntime.redelivered, SortedVec.find?_map]
    rw [find?_touch, find?_insertEvidence, hmapped, hinserted]
    split
    · rename_i hkey
      rw [← hkey, hgen, Option.map_some, if_pos (SortedVec.find?_key hgen), insertGeneration_counted hbinding hcounts]
    · rename_i hne
      cases hfind : f.generations.find? gen with
      | none => rfl
      | some other =>
        have hother : other.id ≠ obs.subject.generation := by
          rw [SortedVec.find?_key hfind]
          exact Ne.symm hne
        rw [Option.map_some, if_neg hother]
  have hrest : (insertEvidence limits replaying atTime obs f).1.touch obs.subject.generation atTime
      = { f.redelivered kind obs.subject.generation obs.key.source atTime with
          generations := ((insertEvidence limits replaying atTime obs f).1.touch obs.subject.generation
            atTime).generations } := rfl
  rw [hrest, hgenerations]

/-- An observation that is clamped is noted. -/
theorem tally_clampSkew {freshness : FreshnessPolicy} {tx' : FlowTx} {obs' : Observation}
    (h : clampSkew limits freshness atTime obs tx = .ok (tx', obs')) :
    tx'.flow.tally = tx.flow.tally + UInt64.ofNat (if obs.skewed limits then 1 else 0) := by
  unfold clampSkew at h
  split at h
  · rename_i hs
    cases h
    have hs : obs.skewed limits = false := by simpa [Observation.skewed] using hs
    rw [hs]
    exact (UInt64.add_zero _).symm
  · rename_i hs
    have hs : obs.skewed limits = true := by simpa [Observation.skewed] using hs
    split at h
    · cases h
    · cases h
      rw [hs]
      exact tally_note _ _

/-- Only an observation that is too far ahead is refused for its instant, when it is not to be clamped. -/
theorem skewed_of_refused {freshness : FreshnessPolicy} {x : Exit}
    (h : clampSkew limits freshness atTime obs tx = .error x) :
    obs.skewed limits = true ∧ freshness.clampFutureTimestamps = false := by
  unfold clampSkew at h
  split at h
  · cases h
  · rename_i hs
    split at h
    · rename_i hclamp
      exact ⟨by simpa [Observation.skewed] using hs, by simpa using hclamp⟩
    · cases h

/-- The notes on a flow that an observation of a known generation leaves before it is in the ledger. -/
def FlowRuntime.traces (limits : Limits) (obs : Observation) (f : FlowRuntime) : Nat :=
  (if obs.skewed limits then 1 else 0) + (if obs.subject.generation < f.currentGeneration then 1 else 0)

/-- **What becomes of an observation whose generation and source are known**, once its keys are accepted: it is
refused for its instant, or the ledger is asked. -/
theorem applyToFlow_entered (config : EngineConfig) (sources : SourceTable) (ctx : FreshnessContext) (replaying : Bool)
    {registries : Registries} (hkey : tx.flow.canonicalKey = obs.subject.flowKey)
    (hregistered : registerIdentity config.limits obs.subject tx.registries = (registries, none))
    (hgen : tx.flow.generations.find? obs.subject.generation = some g)
      (hbinding : g.bindings.find? obs.key.source = some b) :
    (obs.skewed config.limits = true ∧ config.freshness.clampFutureTimestamps = false ∧ ∃ x,
        applyToFlow config sources ctx replaying atTime obs tx = .error x ∧ tx.flow.Noted x.1.flow ∧
        x.2.disposition = .Refused) ∨
      (obs.skewed config.limits = true → config.freshness.clampFutureTimestamps = true) ∧ ∃ entered : FlowTx,
        (tx.flow.enter obs.subject.generation atTime).Noted entered.flow ∧
        entered.flow.tally = tx.flow.tally + UInt64.ofNat (tx.flow.traces config.limits obs) ∧
        applyToFlow config sources ctx replaying atTime obs tx
          = .ok (applyEvidence config sources ctx replaying atTime (clampedObservation config.limits obs) entered) := by
  rw [applyToFlow_eq, toLedger_known hkey hregistered hgen hbinding]
  cases hclamp : clampSkew config.limits config.freshness atTime obs { tx with registries := registries } with
  | error x =>
    obtain ⟨tx', outcome⟩ := x
    obtain ⟨hskewed, hunclamped⟩ := skewed_of_refused hclamp
    obtain ⟨-, hnoted, hrefused⟩ := clampSkew_error hclamp
    exact .inl ⟨hskewed, hunclamped, _, rfl, hnoted, hrefused⟩
  | ok p =>
    obtain ⟨tx', obs'⟩ := p
    have htally := tally_clampSkew hclamp
    obtain ⟨rfl, -, ⟨a, d, c, hnoted⟩, htolerated⟩ := clampSkew_ok hclamp
    have hcurrent : tx'.flow.currentGeneration = tx.flow.currentGeneration := by rw [hnoted]
    have hknown : tx'.flow.generations.find? (clampedObservation config.limits obs).subject.generation = some g := by
      rw [hnoted, clampedObservation_subject]
      exact hgen
    obtain ⟨hentered, hmore, -⟩ := enterGeneration_known hknown
    refine .inr ⟨htolerated, enterGeneration config.limits atTime (clampedObservation config.limits obs) tx', ?_, ?_,
      rfl⟩
    · have hbefore : (tx.flow.enter obs.subject.generation atTime).Noted
          (tx'.flow.enter obs.subject.generation atTime) := by
        rw [hnoted]
        exact ⟨a, d, c, rfl⟩
      rw [clampedObservation_subject] at hentered
      exact hbefore.trans hentered
    · rw [hmore, htally, clampedObservation_subject, hcurrent, FlowRuntime.traces, UInt64.ofNat_add]
      exact UInt64.add_assoc _ _ _

/-- What the ledger answers once the generation is entered. -/
theorem insertEvidence_entered (limits : Limits) (replaying : Bool) {entered : FlowRuntime}
    (hgen : f.generations.find? obs.subject.generation = some g)
    (hbinding : g.bindings.find? obs.key.source = some b)
      (hentered : (f.enter obs.subject.generation atTime).Noted entered) :
    entered.generations = f.generations ∧
      (insertEvidence limits replaying atTime (clampedObservation limits obs) entered).2
        = (b.ledger.insert (clampedObservation limits obs)).2 := by
  have hgenerations : entered.generations = f.generations := hentered.generations_eq.trans (enter_generations hgen)
  refine ⟨hgenerations, ?_⟩
  rw [insertEvidence_answer, FlowRuntime.binding?, clampedObservation_subject, clampedObservation_key, hgenerations,
    hgen, Option.bind_some, hbinding, Option.getD_some]

/-- The flow of an observation that is counted is recomputed. -/
theorem applyEvidence_counted (config : EngineConfig) (sources : SourceTable) (ctx : FreshnessContext)
    (replaying : Bool)
    {kind : InsertKind} {entered : FlowTx} (hgen : f.generations.find? obs.subject.generation = some g)
    (hbinding : g.bindings.find? obs.key.source = some b)
      (hentered : (f.enter obs.subject.generation atTime).Noted entered.flow)
    (hcounts : b.ledger.Counts (clampedObservation config.limits obs) kind) :
    ∃ h, entered.flow.Noted h ∧ (kind = .Duplicate → h = entered.flow) ∧
      (applyEvidence config sources ctx replaying atTime (clampedObservation config.limits obs) entered).1.flow
        = recomputeFlow config sources ctx atTime
          (h.redelivered kind obs.subject.generation obs.key.source atTime) := by
  obtain ⟨hgenerations, hanswer⟩ := insertEvidence_entered config.limits replaying hgen hbinding hentered
  rw [← hgenerations, ← clampedObservation_subject config.limits obs] at hgen
  rw [← clampedObservation_key config.limits obs] at hbinding
  have htouched := @touch_counted replaying config.limits atTime _ _ _ _ kind hgen hbinding hcounts
  rw [clampedObservation_subject, clampedObservation_key] at htouched
  have hkind : (insertEvidence config.limits replaying atTime
      (clampedObservation config.limits obs) entered.flow).2.kind = kind := by
    rw [hanswer, hcounts.answer]
  have hne : kind ≠ .Refused := by rcases hcounts.known with rfl | rfl <;> decide
  unfold applyEvidence
  simp only [hkind, hne, if_false, clampedObservation_subject]
  generalize insertEvidence config.limits replaying atTime
    (clampedObservation config.limits obs) entered.flow = inserted at *
  rcases hcounts.known with rfl | rfl
  · refine ⟨entered.flow, .refl _, fun _ => rfl, ?_⟩
    simp only [settleInsert, hkind, htouched]
  · obtain ⟨⟨a, d, c, hnoted⟩, -⟩ :=
      settleInsert_flow config.limits atTime
        (clampedObservation config.limits obs) inserted.2 { entered with flow := inserted.1 }
    have hkept : inserted.1.revise inserted.2.kind = inserted.1 := by rw [hkind]; rfl
    refine ⟨{ entered.flow with anomalies := a, anomaliesDropped := d, keyCollisions := c }, ⟨a, d, c, rfl⟩,
      fun hduplicate => InsertKind.noConfusion hduplicate, ?_⟩
    simp only [hkept] at hnoted
    rw [hnoted]
    have hsettled : FlowRuntime.touch { inserted.1 with anomalies := a, anomaliesDropped := d, keyCollisions := c }
        obs.subject.generation atTime = { inserted.1.touch obs.subject.generation atTime with
          anomalies := a, anomaliesDropped := d, keyCollisions := c } := rfl
    rw [hsettled, htouched]
    rfl

/-- An observation whose generation and source are known is refused for its instant, or gets the answer of the ledger.
-/
theorem applyToFlow_known {registries : Registries} (hkey : tx.flow.canonicalKey = obs.subject.flowKey)
    (hregistered : registerIdentity config.limits obs.subject tx.registries = (registries, none))
    (hgen : tx.flow.generations.find? obs.subject.generation = some g)
      (hbinding : g.bindings.find? obs.key.source = some b) :
    obs.skewed config.limits = true ∧
        (Exit.ofExcept (applyToFlow config sources ctx replaying atTime obs tx)).2.disposition = .Refused ∨
      (Exit.ofExcept (applyToFlow config sources ctx replaying atTime obs tx)).2.disposition
          = (b.ledger.insert (clampedObservation config.limits obs)).2.kind.disposition ∧
        ((b.ledger.insert (clampedObservation config.limits obs)).2.kind = .Duplicate →
          ∃ h, (tx.flow.enter obs.subject.generation atTime).Noted h ∧
            h.tally = tx.flow.tally + UInt64.ofNat (tx.flow.traces config.limits obs) ∧
            (Exit.ofExcept (applyToFlow config sources ctx replaying atTime obs tx)).1.flow
              = recomputeFlow config sources ctx atTime
                  (h.redelivered .Duplicate obs.subject.generation obs.key.source atTime)) := by
  rcases applyToFlow_entered config sources ctx replaying hkey hregistered hgen hbinding with
    ⟨hskewed, -, x, happlied, -, hrefused⟩ | ⟨-, entered, hentered, htally, happlied⟩
  · rw [happlied]
    exact .inl ⟨hskewed, hrefused⟩
  · rw [happlied]
    obtain ⟨-, hanswer⟩ := insertEvidence_entered config.limits replaying hgen hbinding hentered
    obtain ⟨hdisposition, -⟩ := applyEvidence_cases config sources ctx replaying atTime
      (clampedObservation config.limits obs) entered
    rw [hanswer] at hdisposition
    refine .inr ⟨hdisposition, fun hduplicate => ?_⟩
    obtain ⟨h, -, hsame, hflow⟩ := applyEvidence_counted config sources ctx replaying hgen hbinding hentered
      (SourceLedger.counts_duplicate hduplicate)
    rw [hsame rfl] at hflow
    exact ⟨entered.flow, hentered, htally, hflow⟩

/-- A duplicate has the key of its flow, and its identities are known or new. -/
theorem keys_of_duplicate
    (h : (Exit.ofExcept (applyToFlow config sources ctx replaying atTime obs tx)).2.disposition = .Duplicate) :
    tx.flow.canonicalKey = obs.subject.flowKey ∧
    (registerIdentity config.limits obs.subject tx.registries).2 = none := by
  unfold applyToFlow at h
  cases hmatch : matchKey config.limits atTime obs tx with
  | error x =>
    obtain ⟨tx', outcome⟩ := x
    rw [hmatch] at h
    have hrefused : outcome.disposition = .Refused := (matchKey_error hmatch).2.2.1
    cases hrefused.symm.trans h
  | ok tx' =>
    obtain ⟨hkey, rfl⟩ := matchKey_ok.1 hmatch
    simp only [hmatch, ok_bind] at h
    cases hidentities : registerIdentities config.limits atTime obs tx' with
    | error x =>
      obtain ⟨tx'', outcome⟩ := x
      rw [hidentities] at h
      have hrefused : outcome.disposition = .Refused := (registerIdentities_error hidentities).2.2
      cases hrefused.symm.trans h
    | ok tx'' =>
      have hregistered := (registerIdentities_ok hidentities).1
      exact ⟨hkey, by rw [hregistered]⟩

end Stages

/-- The ledger takes an observation of its own for a duplicate when it was folded, or what is retained has its digest.
-/
theorem SourceLedger.duplicate_iff {l : SourceLedger} {obs x : Observation} (hb : l.belongs obs = .ok ())
    (hx : l.entries.find? obs.canonicalKey = some x) : (l.insert obs).2.kind = .Duplicate ↔
      if l.insideFolded obs then l.prefixState.foldContains obs.canonicalKey = true else contentDigest x =
      contentDigest obs := by
  unfold insert
  simp only [hb, hx]
  split
  · split
    · simp_all
    · simp_all
  · split
    · simp_all
    · split
      · simp_all
      · simp_all

namespace Engine

/-! ## The duplicate in the engine -/

/-- What is durable of the flows of the engine, at its instant. -/
def durable (e : Engine) : List DurableFlow := e.flows.toList.map (durableFlow e.config e.sources e.context)

/-- The journal takes the record of an observation, or the observation is replayed. -/
def Journals (e : Engine) (o : Observation) : Prop :=
  e.replaying = true ∨ (e.received.appendObservation (prepare e.instant o)).2 = .ok ()

section Engine

variable {e e' : Engine} {o obs : Observation} {f : FlowRuntime} {atTime : Timestamp}

/-- An observation that is valid and in the journal goes on to its source. -/
theorem applyLocked_taken (hv : validateObservation e.config.limits o = .ok ()) (hj : e.Journals o) :
    ∃ e₁, e.SameTables e₁ ∧ e.applyLocked o = e₁.applyJournaled e.instant (prepare e.instant o) := by
  by_cases hr : e.replaying = true
  · exact ⟨e.received, ⟨_, _, _, rfl⟩, applyLocked_replaying hv hr⟩
  · have hlive : e.replaying = false := Bool.eq_false_iff.2 hr
    have hsame := sameTables_appendObservation e.received (prepare e.instant o)
    have hreceived : e.SameTables e.received := ⟨_, _, _, rfl⟩
    exact ⟨_, hreceived.trans hsame, applyLocked_journaled hv hlive (hj.resolve_left hr)⟩

/-- A duplicate is valid and in the journal. -/
theorem taken_of_duplicate (h : (e.applyLocked o).2.disposition = .Duplicate) :
    validateObservation e.config.limits o = .ok () ∧ e.Journals o := by
  cases hv : validateObservation e.config.limits o with
  | error err =>
    rw [applyLocked_invalid hv] at h
    cases h
  | ok _ =>
    refine ⟨rfl, ?_⟩
    by_cases hr : e.replaying = true
    · exact .inl hr
    · have hlive : e.replaying = false := Bool.eq_false_iff.2 hr
      cases hj : (e.received.appendObservation (prepare e.instant o)).2 with
      | error err =>
        rw [applyLocked_unjournaled hv hlive hj] at h
        cases h
      | ok _ => exact .inr hj

/-- An observation of a source that is known and in use, and of a flow that is known, goes through the stages. -/
theorem applyJournaled_known {s : SourceState} (hs : e.sources.find? obs.key.source = some s)
    (hserves : e.Serves obs.key.source)
    (hf : e.flows.find? obs.subject.flow = some f) : e.applyJournaled atTime obs
      = (e.store (Exit.ofExcept (applyToFlow e.config e.sources e.context e.replaying atTime obs
        ⟨f, e.registries, e.counters⟩)).1,
          (Exit.ofExcept (applyToFlow e.config e.sources e.context e.replaying atTime obs
            ⟨f, e.registries, e.counters⟩)).2) := by
  have hactive : s.retired = false := hserves s hs
  unfold applyJournaled resolveSource resolveFlow
  simp only [hs, hactive, hf, Bool.false_eq_true, if_false]

/-- A duplicate is of a source that is in use. -/
theorem serves_of_duplicate (h : (e.applyJournaled atTime obs).2.disposition = .Duplicate) :
    e.Serves obs.key.source := by
  intro s hs
  by_contra hretired
  have hretired : s.retired = true := Bool.not_eq_false _ ▸ hretired
  unfold applyJournaled resolveSource at h
  simp only [hs, hretired, if_true] at h
  cases h

/-- What is durable of the engine stays when that of the one flow that is stored stays. -/
theorem durable_store_iff {tx : FlowTx} (hsame : e.SameTables e') (hf : e.flows.find? f.id = some f)
    (hid : tx.flow.id = f.id) :
    (e'.store tx).durable = e.durable ↔
      durableFlow e.config e.sources e.context tx.flow = durableFlow e.config e.sources e.context f := by
  obtain ⟨_, _, _, rfl⟩ := hsame
  have hlist : (e.flows.set tx.flow).toList = e.flows.toList.map (fun x => if x.id = tx.flow.id then tx.flow else x) :=
    SortedVec.toList_set_of_some (b := f) (by rw [hid, hf])
  show (e.flows.set tx.flow).toList.map (durableFlow e.config e.sources e.context) = e.durable ↔ _
  unfold durable
  rw [hlist, List.map_map, List.map_inj_left]
  constructor
  · intro h
    have hone := h f (SortedVec.find?_mem hf)
    simpa [hid] using hone
  · intro h x hx
    show durableFlow e.config e.sources e.context (if x.id = tx.flow.id then tx.flow else x) = _
    split
    · rename_i hx'
      rw [h, SortedVec.eq_of_key (SortedVec.find?_mem hf) hx (by rw [hx', hid])]
    · rfl

end Engine

/-! ## The states reached -/

section Reached

variable {apply : Engine → Observation → Prop} {register : Engine → SourceDescriptor → Prop} {e : Engine}

/-- **The flows of every state reached have no more generations than their limit.** -/
theorem ReachedBy.spans (h : e.ReachedBy apply register) : e.EachFlow (·.Spans e.config.limits) := by
  refine ReachedBy.eachFlow (Q := fun limits f => f.Spans limits) (fun _ _ _ _ _ _ _ _ _ happ hf => happ.spans hf)
    (fun _ _ _ => Nat.zero_le _) (fun _ _ _ _ _ hf => spans_recomputeFlow hf) (fun limits id f hf => ?_)
    (fun limits previous p => ?_) h
  · have hlen : (dropSource id f).generations.toList.length = f.generations.toList.length := List.length_map _
    unfold FlowRuntime.Spans
    rw [hlen]
    exact hf
  · have hset := SortedVec.length_foldl_set_le (restoreGeneration limits p.id) (restoredGenerations limits p)
      (∅ : SortedVec GenerationRuntime.id)
    have hlen : (restoredGenerations limits p).length ≤ limits.maxGenerationsPerFlow.toNat := List.length_take_le _ _
    simp only [SortedVec.emptyCollection_eq, SortedVec.toList_empty, List.length_nil] at hset
    exact le_trans hset (by omega)

/-- The ledger of a binding is that of its source in its generation. -/
def Named (flow : FlowId) (gen : GenerationId) (b : SourceBinding) : Prop :=
  b.ledger.source = b.source ∧ b.ledger.generation = ⟨flow, gen⟩

/-- **Every ledger of a state reached is that of its binding.** -/
theorem ReachedBy.named (h : e.ReachedBy apply register) : e.Holds Named := by
  have hnone : ∀ e : Engine, e.flows = ∅ → e.Holds Named := by
    intro e hflows flow gen source b hb
    unfold binding? at hb
    rw [hflows] at hb
    cases hb
  refine reachedBy_rule (P := Holds Named) (fun e _ hflows => hnone e hflows)
    (fun e e' _ hflows _ h => h.of_flows hflows)
    (fun e e' _ hflows _ => hnone e' hflows) (fun e obs h _ => ?_) (fun e atTime due h => ?_)
      (fun e s id _ h => h.dropped s id)
    (fun e d s _ _ _ _ h => h.of_flows rfl) (fun e d s _ _ h => h.of_flows rfl) (fun e ps h => h.of_flows rfl)
    (fun e previous p h => ?_) h
  · refine holds_applyLocked h (fun ctx flow gen b hb => ?_) (fun _ _ => ?_)
    · unfold Named
      rw [refreshBinding_ledger, refreshBinding_source]
      exact hb
    · unfold Named bindingAfter bindingFor
      rw [SourceBinding.take_ledger, SourceBinding.take_source, (SourceLedger.insert_source _ _).1,
        (SourceLedger.insert_source _ _).2.1]
      cases hb : e.binding? (e.taken obs).subject.flow (e.taken obs).subject.generation (e.taken obs).key.source with
      | none => exact ⟨rfl, rfl⟩
      | some b => exact h _ _ _ b hb
  · refine holds_recomputeAll h due (fun ctx flow gen b hb => ?_)
    unfold Named
    rw [refreshBinding_ledger, refreshBinding_source]
    exact hb
  · refine h.set rfl (fun gen source b hb => ?_)
    obtain ⟨s, rfl⟩ := binding?_restoreFlow hb
    exact ⟨rfl, rfl⟩

/-- Rebuilding flows registers the sources they name. -/
theorem registered_restoreFlows (previous : RuntimeEpoch) (ps : List PersistedFlow) (e : Engine)
    (h : e.EachFlow (Registered e.sources)) :
    (e.restoreFlows previous ps).1.EachFlow (Registered (e.restoreFlows previous ps).1.sources) := by
  induction ps generalizing e with
  | nil => exact h
  | cons p ps ih =>
    obtain ⟨hkeeps, hnamed⟩ := restoreDescriptors_registers e.openedAt
      ((restoredGenerations e.config.limits p).flatMap (restoredSources e.config.limits)) e.sources
    have hregistered : ({ e with sources := ((restoredGenerations e.config.limits p).flatMap
        (restoredSources e.config.limits)).foldl (restoreDescriptor e.openedAt) e.sources } : Engine).EachFlow
          (Registered (((restoredGenerations e.config.limits p).flatMap
            (restoredSources e.config.limits)).foldl (restoreDescriptor e.openedAt) e.sources)) :=
      fun id f hf => (h id f hf).mono fun id hid => by rwa [hkeeps id hid]
    simp only [restoreFlows]
    split
    · exact hregistered
    · refine ih _ ?_
      split
      · exact hregistered
      · refine EachFlow.set hregistered rfl fun gen source b hb => ?_
        obtain ⟨g, hg, hb⟩ := Option.bind_eq_some_iff.1 hb
        obtain ⟨pg, hpg, -, rfl⟩ := find?_restoreFlow_some hg
        obtain ⟨s, hs, rfl⟩ := mem_restoreGeneration (SortedVec.find?_mem hb)
        exact hnamed s (List.mem_flatMap.2 ⟨pg, hpg, hs⟩)

theorem registered_dropped (h : e.EachFlow (Registered e.sources)) (s : SourceState) (id : SourceId) :
    (e.dropped s id).EachFlow (Registered (e.dropped s id).sources) := by
  intro flow f hf gen source b hb
  rw [find?_dropped] at hf
  obtain ⟨f₀, hf₀, rfl⟩ := Option.map_eq_some_iff.1 hf
  rw [binding?_dropSource] at hb
  split at hb
  · cases hb
  · exact isSome_set _ (h flow f₀ hf₀ gen source b hb)

/-- Giving the table one more source, or a source again, leaves those of the flows in it. -/
theorem registered_set (h : e.EachFlow (Registered e.sources)) (s : SourceState) :
    ({ e with sources := e.sources.set s } : Engine).EachFlow (Registered (e.sources.set s)) :=
  fun id f hf => (h id f hf).mono fun _ hid => isSome_set s hid

/-- **The sources of the evidence of every state reached are registered.** -/
theorem ReachedBy.registered (h : e.ReachedBy apply register) : e.EachFlow (Registered e.sources) := by
  refine reachedFrom_rule (P := fun e => e.EachFlow (Registered e.sources)) (fun e _ hflows _ _ id f hf => ?_)
    (fun e e' ha h => ?_) (fun e obs h _ => registered_applyLocked h obs)
    (fun e atTime due h => registered_recomputeAll h atTime due) (fun e s id _ h => registered_dropped h s id)
    (fun e d s _ h => registered_set h s) (fun e d s _ h => registered_set h _) (fun e h id f hf => (by cases hf))
    (fun e e' previous result _ _ _ hflows _ _ => ?_) h.reachedFrom
  · rw [hflows] at hf
    cases hf
  · rw [ha.sources]
    exact h.of_find? fun id => .inl (by rw [ha.flows])
  · refine registered_restoreFlows previous result.state.flows _ fun id f hf => ?_
    have hnone : e'.flows.find? id = some f := hf
    rw [hflows] at hnone
    cases hnone

end Reached

end Engine

/-! ## How much there is to note -/

section Notes

variable {config : EngineConfig} {sources : SourceTable} {ctx : FreshnessContext} {atTime : Timestamp} {f : FlowRuntime}
variable {flow : FlowId} {gen current : GenerationId}

/-- A binding has at most one anomaly of each kind to promote. -/
theorem length_promotedAnomalies_le (b : SourceBinding) :
    (promotedAnomalies config sources ctx flow gen atTime b).length ≤ kAnomalyKindCount := by
  unfold promotedAnomalies
  split
  · exact Nat.zero_le _
  · rw [List.length_map, newKinds]
    exact (List.length_filter_le _ _).trans (List.length_range).le

/-- A generation has at most as much to note as its bindings. -/
theorem notes_le (g : GenerationRuntime) : (recomputeGeneration config sources ctx flow current atTime g).notes
    ≤ g.bindings.toList.length * kAnomalyKindCount + g.bindings.toList.length := by
  refine Nat.add_le_add ?_ ?_
  · show (g.bindings.toList.flatMap (promotedAnomalies config sources ctx flow g.id atTime)).length ≤ _
    have hsum := List.sum_le_card_nsmul
      (g.bindings.toList.map (fun b => (promotedAnomalies config sources ctx flow g.id atTime b).length))
        kAnomalyKindCount (by
        intro n hn
        obtain ⟨b, -, rfl⟩ := List.mem_map.1 hn
        exact length_promotedAnomalies_le b)
    rw [List.length_map] at hsum
    rw [List.length_flatMap]
    exact hsum
  · have hlisted : (generationView config sources ctx flow current g).sources
        = listed (g.bindings.toList.filterMap (bindingView config sources ctx)) := rfl
    have hrefused := List.length_filterMap_le (capabilityAnomaly atTime)
      (generationView config sources ctx flow current g).sources
    refine hrefused.trans ?_
    rw [hlisted, listed, sortSourceViews, (List.perm_insertionSort _ _).length_eq, List.length_map]
    exact List.length_filterMap_le _ _

/-- **A flow within its bounds has far less to note than the count of notes can hold.** -/
theorem toNote_lt (hvalid : config.limits.Valid) (hspans : f.Spans config.limits) (hbounded : f.Bounded config.limits) :
    2 + f.toNote config sources ctx atTime < 2 ^ 64 := by
  have hsources : config.limits.maxSourcesPerFlow.toNat ≤ 65536 := UInt32.le_iff_toNat_le.1 hvalid.sourcesPerFlow.2
  have hgenerations : config.limits.maxGenerationsPerFlow.toNat ≤ 4096 := UInt32.le_iff_toNat_le.1 hvalid.generations.2
  have hsum := List.sum_le_card_nsmul ((generationSteps config sources ctx atTime f).map (·.notes))
    (65536 * kAnomalyKindCount + 65536) (by
      intro n hn
      obtain ⟨step, hstep, rfl⟩ := List.mem_map.1 hn
      obtain ⟨g, hg, rfl⟩ := List.mem_map.1 hstep
      have hlength : g.bindings.toList.length ≤ 65536 := (hbounded g.id g (SortedVec.find?_of_mem hg)).trans hsources
      exact (notes_le g).trans (Nat.add_le_add (Nat.mul_le_mul_right _ hlength) hlength))
  have hlength : ((generationSteps config sources ctx atTime f).map (·.notes)).length ≤ 4096 := by
    unfold generationSteps
    rw [List.length_map, List.length_map]
    exact hspans.trans hgenerations
  have hall : f.toNote config sources ctx atTime ≤ 4096 * (65536 * kAnomalyKindCount + 65536) :=
    hsum.trans (Nat.mul_le_mul_right _ hlength)
  unfold kAnomalyKindCount at hall
  omega

end Notes

/-! ## Redelivery -/

namespace Engine

/-- The observation `o` is delivered again: under its key the ledger of its source retains `x`, which says what `o`
says as it was taken when it was received. -/
structure Redelivers (e : Engine) (o : Observation) (f : FlowRuntime) (g : GenerationRuntime) (b : SourceBinding)
    (x : Observation) : Prop where
  flow : e.flows.find? (prepare e.instant o).subject.flow = some f
  generation : f.generations.find? o.subject.generation = some g
  source : g.bindings.find? o.key.source = some b
  retained : b.ledger.entries.find? o.canonicalKey = some x
  content : said x = said (clampedObservation e.config.limits { prepare e.instant o with receivedAt := x.receivedAt })

/-- The observation is absorbed: nothing refuses it on its way or notes it, the ledger recognises it since what it
retains was not clamped, and the flow is up to date. -/
structure Absorbs (e : Engine) (o : Observation) (f : FlowRuntime) (b : SourceBinding) (x : Observation) : Prop where
  unfrozen : e.frozen = false
  valid : validateObservation e.config.limits o = .ok ()
  journaled : e.Journals o
  serves : e.Serves o.key.source
  key : f.canonicalKey = o.subject.flowKey
  identities : (registerIdentity e.config.limits (prepare e.instant o).subject e.registries).2 = none
  level : (prepare e.instant o).skewed e.config.limits = false
  current : ¬ o.subject.generation < f.currentGeneration
  recognised : if b.ledger.insideFolded o then b.ledger.prefixState.foldContains o.canonicalKey = true
    else ({ prepare e.instant o with receivedAt := x.receivedAt } : Observation).skewed e.config.limits = true →
      contentDigest { prepare e.instant o with observedAt := x.receivedAt } = contentDigest (prepare e.instant o)
  upToDate : (f.enter o.subject.generation e.instant).UpToDate e.config e.sources e.context e.instant

section Redelivery

variable {apply : Engine → Observation → Prop} {register : Engine → SourceDescriptor → Prop} {e : Engine}
    {o x : Observation}
variable {f : FlowRuntime} {g : GenerationRuntime} {b : SourceBinding}

/-- The digest of what is retained is that of the observation, unless it was clamped. -/
theorem Redelivers.digest_iff (hr : e.Redelivers o f g b x) : contentDigest x = contentDigest (prepare e.instant o) ↔
    (({ prepare e.instant o with receivedAt := x.receivedAt } : Observation).skewed e.config.limits = true →
      contentDigest { prepare e.instant o with observedAt := x.receivedAt } = contentDigest (prepare e.instant o)) := by
  have hx : contentDigest x
      = contentDigest (clampedObservation e.config.limits { prepare e.instant o with receivedAt := x.receivedAt }) := by
    rw [← contentDigest_said x, hr.content, contentDigest_said]
  rw [hx]
  unfold clampedObservation
  split
  · rename_i hskewed
    have hclamped : contentDigest { prepare e.instant o with receivedAt := x.receivedAt, observedAt := x.receivedAt }
        = contentDigest { prepare e.instant o with observedAt := x.receivedAt } :=
      contentDigest_received { prepare e.instant o with observedAt := x.receivedAt } x.receivedAt
    rw [hclamped]
    exact ⟨fun h _ => h, fun h => h hskewed⟩
  · rename_i hskewed
    rw [contentDigest_received]
    exact ⟨fun _ h => absurd h hskewed, fun _ => rfl⟩

/-- The observation belongs to the ledger, which answers that it is a duplicate when it recognises it. -/
theorem Redelivers.duplicate_iff (h : e.ReachedBy apply register) (hr : e.Redelivers o f g b x)
    (hv : validateObservation e.config.limits o = .ok ()) :
    (b.ledger.insert (prepare e.instant o)).2.kind = .Duplicate ↔
      if b.ledger.insideFolded o then b.ledger.prefixState.foldContains o.canonicalKey = true
      else ({ prepare e.instant o with receivedAt := x.receivedAt } : Observation).skewed e.config.limits = true →
        contentDigest { prepare e.instant o with observedAt := x.receivedAt } =
        contentDigest (prepare e.instant o) := by
  have hbinding : e.binding? (prepare e.instant o).subject.flow o.subject.generation o.key.source = some b := by
    unfold binding? FlowRuntime.binding?
    rw [hr.flow, Option.bind_some, hr.generation, Option.bind_some, hr.source]
  obtain ⟨hsource, hgeneration⟩ := h.named _ _ _ _ hbinding
  have hbelongs : b.ledger.belongs (prepare e.instant o) = .ok () := by
    unfold SourceLedger.belongs
    rw [prepare_valid e.instant hv, hsource, SortedVec.find?_key hr.source, hgeneration]
    simp [prepare]
  rw [SourceLedger.duplicate_iff hbelongs hr.retained, hr.digest_iff]
  rfl

/-- A redelivery that is valid and in the journal goes through the stages on its flow, when its source is in use. -/
theorem Redelivers.stages (h : e.ReachedBy apply register) (hr : e.Redelivers o f g b x)
    (hv : validateObservation e.config.limits o = .ok ()) (hj : e.Journals o) (hserves : e.Serves o.key.source) :
    ∃ e₁ counters, e.SameTables e₁ ∧ e.applyLocked o
      = (e₁.store (Exit.ofExcept (applyToFlow e.config e.sources e.context e.replaying e.instant (prepare e.instant o)
          ⟨f, e.registries, counters⟩)).1,
        (Exit.ofExcept (applyToFlow e.config e.sources e.context e.replaying e.instant (prepare e.instant o)
          ⟨f, e.registries, counters⟩)).2) := by
  have hbinding : f.binding? o.subject.generation o.key.source = some b := by
    unfold FlowRuntime.binding?
    rw [hr.generation, Option.bind_some, hr.source]
  have hknown : (e.sources.find? o.key.source).isSome = true := by
    rw [← SortedVec.find?_key hr.source]
    exact h.registered _ f hr.flow _ _ b hbinding
  obtain ⟨s, hs⟩ := Option.isSome_iff_exists.1 hknown
  obtain ⟨e₁, ⟨counters, journal, sequence, rfl⟩, happlied⟩ := applyLocked_taken hv hj
  exact ⟨_, counters, ⟨counters, journal, sequence, rfl⟩, happlied.trans (applyJournaled_known hs hserves hr.flow)⟩

/-- **What becomes of a redelivery whose keys are accepted**: it is refused for its instant, or gets the answer of the
ledger, and a duplicate leaves what is durable exactly when nothing was noted and the flow is up to date. -/
theorem applyLocked_redelivered (h : e.ReachedBy apply register) (hr : e.Redelivers o f g b x)
    (hv : validateObservation e.config.limits o = .ok ()) (hj : e.Journals o) (hserves : e.Serves o.key.source)
    (hkey : f.canonicalKey = o.subject.flowKey)
    (hidentities : (registerIdentity e.config.limits (prepare e.instant o).subject e.registries).2 = none) :
    (prepare e.instant o).skewed e.config.limits = true ∧ (e.applyLocked o).2.disposition = .Refused ∨
      (e.applyLocked o).2.disposition
          = (b.ledger.insert (clampedObservation e.config.limits (prepare e.instant o))).2.kind.disposition ∧
        ((b.ledger.insert (clampedObservation e.config.limits (prepare e.instant o))).2.kind = .Duplicate →
          ((e.applyLocked o).1.durable = e.durable ↔ f.traces e.config.limits (prepare e.instant o) = 0 ∧
            (f.enter o.subject.generation e.instant).UpToDate e.config e.sources e.context e.instant)) := by
  obtain ⟨hvalid, -⟩ := flows_reached h
  have hspans := h.spans _ f hr.flow
  have hbounded := h.bounded _ f hr.flow
  have hregistered : registerIdentity e.config.limits (prepare e.instant o).subject e.registries
      = ((registerIdentity e.config.limits (prepare e.instant o).subject e.registries).1, none) :=
        Prod.ext rfl hidentities
  obtain ⟨e₁, counters, hsame, hstored⟩ := hr.stages h hv hj hserves
  have hstages := @applyToFlow_known e.config e.sources e.context e.replaying e.instant (prepare e.instant o) g b
    ⟨f, e.registries, counters⟩ _ hkey hregistered hr.generation hr.source
  rw [hstored]
  rcases hstages with hrefused | ⟨hanswer, hduplicate⟩
  · exact .inl hrefused
  · refine .inr ⟨hanswer, fun hkind => ?_⟩
    obtain ⟨noted, hnoted, htally, hflow⟩ := hduplicate hkind
    have hid : f.id = (prepare e.instant o).subject.flow := SortedVec.find?_key hr.flow
    have hfound : e.flows.find? f.id = some f := by rw [hid, hr.flow]
    have hgenerations := @enter_generations e.instant f g o.subject.generation hr.generation
    have htraces : f.traces e.config.limits (prepare e.instant o) ≤ 2 := by
      unfold FlowRuntime.traces
      split <;> split <;> omega
    have hfew := @toNote_lt e.config e.sources e.context e.instant (f.enter o.subject.generation e.instant)
      (EngineConfig.limits_valid hvalid) (hspans.of_generations hgenerations) (hbounded.of_generations hgenerations)
    have hmany : f.traces e.config.limits (prepare e.instant o)
        + (f.enter o.subject.generation e.instant).toNote e.config e.sources e.context e.instant < 2 ^ 64 := by omega
    have hdurable : durableFlow e.config e.sources e.context (recomputeFlow e.config e.sources e.context e.instant
          (noted.redelivered .Duplicate o.subject.generation o.key.source e.instant))
        = durableFlow e.config e.sources e.context (f.enter o.subject.generation e.instant) ↔
        f.traces e.config.limits (prepare e.instant o) = 0 ∧
          (f.enter o.subject.generation e.instant).UpToDate e.config e.sources e.context e.instant :=
      durable_redelivered_iff hnoted _ htally hmany
    refine (durable_store_iff hsame hfound ?_).trans ?_
    · rw [hflow, recomputeFlow_id]
      obtain ⟨_, _, _, rfl⟩ := hnoted
      rfl
    · rw [hflow, ← durableFlow_enter hr.generation]
      exact hdurable

end Redelivery

/-- **Redelivery is idempotent exactly when it is absorbed**: it is answered as a duplicate and leaves what is
durable. -/
theorem redelivery_iff {e : Engine} (h : e.ReachedBy (fun _ _ => True) (fun _ _ => True)) {o x : Observation}
    {f : FlowRuntime}
    {g : GenerationRuntime} {b : SourceBinding} (hr : e.Redelivers o f g b x) :
    ((∃ outcome, (e.ingest o).2 = .ok outcome ∧ outcome.disposition = .Duplicate) ∧
      (e.ingest o).1.durable = e.durable) ↔
      e.Absorbs o f b x := by
  have hopen := h.isOpen
  have hingest : e.frozen = false → e.ingest o = ((e.applyLocked o).1, .ok (e.applyLocked o).2) := by
    intro hunfrozen
    unfold ingest
    simp [hopen, hunfrozen]
  have htraces : f.traces e.config.limits (prepare e.instant o) = 0 ↔
      (prepare e.instant o).skewed e.config.limits = false ∧ ¬ o.subject.generation < f.currentGeneration := by
    show (if _ then 1 else 0) + (if o.subject.generation < f.currentGeneration then 1 else 0) = 0 ↔ _
    rw [Nat.add_eq_zero_iff]
    simp
  have hclamped : (prepare e.instant o).skewed e.config.limits = false →
      clampedObservation e.config.limits (prepare e.instant o) = prepare e.instant o := by
    intro hlevel
    unfold clampedObservation
    exact if_neg (by rw [show exceedsClockSkew _ _ _ = false from hlevel]; exact Bool.false_ne_true)
  constructor
  · rintro ⟨⟨outcome, hok, hanswered⟩, hkept⟩
    have hunfrozen : e.frozen = false := by
      by_contra hfrozen
      have hfrozen : e.frozen = true := by simpa using hfrozen
      unfold ingest at hok
      simp [hopen, hfrozen] at hok
    rw [hingest hunfrozen] at hok hkept
    obtain rfl : (e.applyLocked o).2 = outcome := Except.ok.inj hok
    obtain ⟨hv, hj⟩ := taken_of_duplicate hanswered
    have hserves : e.Serves o.key.source := by
      obtain ⟨e₁, ⟨_, _, _, rfl⟩, happlied⟩ := applyLocked_taken hv hj
      rw [happlied] at hanswered
      have hserved := serves_of_duplicate hanswered
      exact hserved
    obtain ⟨hkey, hidentities⟩ : f.canonicalKey = o.subject.flowKey ∧
        (registerIdentity e.config.limits (prepare e.instant o).subject e.registries).2 = none := by
      obtain ⟨e₁, counters, -, hstored⟩ := hr.stages h hv hj hserves
      rw [hstored] at hanswered
      exact keys_of_duplicate hanswered
    rcases applyLocked_redelivered h hr hv hj hserves hkey hidentities with ⟨-, hrefused⟩ | ⟨hdisposition, hdurable⟩
    · cases hrefused.symm.trans hanswered
    · have hkind : (b.ledger.insert (clampedObservation e.config.limits (prepare e.instant o))).2.kind =
          .Duplicate := by
        rw [hanswered] at hdisposition
        generalize (b.ledger.insert (clampedObservation e.config.limits (prepare e.instant o))).2.kind =
          kind at hdisposition
        cases kind <;> first | rfl | cases hdisposition
      obtain ⟨hnone, hup⟩ := (hdurable hkind).1 hkept
      obtain ⟨hlevel, hcurrent⟩ := htraces.1 hnone
      rw [hclamped hlevel] at hkind
      exact ⟨hunfrozen, hv, hj, hserves, hkey, hidentities, hlevel, hcurrent, (hr.duplicate_iff h hv).1 hkind, hup⟩
  · intro ha
    have hkind : (b.ledger.insert (clampedObservation e.config.limits (prepare e.instant o))).2.kind = .Duplicate := by
      rw [hclamped ha.level]
      exact (hr.duplicate_iff h ha.valid).2 ha.recognised
    rw [hingest ha.unfrozen]
    rcases applyLocked_redelivered h hr ha.valid ha.journaled ha.serves ha.key ha.identities with
      ⟨hskewed, -⟩ | ⟨hdisposition, hdurable⟩
    · rw [ha.level] at hskewed
      cases hskewed
    · rw [hkind] at hdisposition
      exact ⟨⟨_, rfl, hdisposition⟩, (hdurable hkind).2 ⟨htraces.2 ⟨ha.level, ha.current⟩, ha.upToDate⟩⟩

/-- The redelivery that a search finds. -/
theorem Redelivers.of_found {e : Engine} {o : Observation}
    (h : ((e.flows.find? (prepare e.instant o).subject.flow).bind fun f =>
      (f.generations.find? o.subject.generation).bind fun g =>
      (g.bindings.find? o.key.source).bind fun b => (b.ledger.entries.find? o.canonicalKey).map fun x =>
        decide (said x = said (clampedObservation e.config.limits
          { prepare e.instant o with receivedAt := x.receivedAt })))
      = some true) : ∃ f g b x, e.Redelivers o f g b x := by
  obtain ⟨f, hf, h⟩ := Option.bind_eq_some_iff.1 h
  obtain ⟨g, hg, h⟩ := Option.bind_eq_some_iff.1 h
  obtain ⟨b, hb, h⟩ := Option.bind_eq_some_iff.1 h
  obtain ⟨x, hx, hsaid⟩ := Option.map_eq_some_iff.1 h
  exact ⟨f, g, b, x, hf, hg, hb, hx, of_decide_eq_true hsaid⟩

/-- What the engine was told, delivered again a little later. -/
def toldAgain : Observation :=
  { (sampleObservation (sourceIdFromKey (str "a")) .Sample 1 ⟨900⟩).withBytes 2 with receivedAt := ⟨950⟩ }

theorem redelivery_iff_reported :
    ∃ f g b x, reported.Redelivers toldAgain f g b x ∧ reported.Absorbs toldAgain f b x := by
  obtain ⟨f, g, b, x, hr⟩ : ∃ f g b x, reported.Redelivers toldAgain f g b x :=
    Redelivers.of_found (by with_unfolding_all decide)
  have hreached : reported.Reachable := .step (.opened {} ⟨1000⟩ reported_opened) _
  exact ⟨f, g, b, x, hr, (redelivery_iff hreached.reachedBy hr).1
    ⟨⟨(reported.applyLocked toldAgain).2, by decide +kernel, by decide +kernel⟩, by decide +kernel⟩⟩

/-- The engine once the source went on to the next generation. -/
def superseded : Engine :=
  reported.step (.ingest { sampleObservation (sourceIdFromKey (str "a")) .Sample 2 ⟨900⟩ with
    subject := { generation := ⟨2⟩, flowKey := str "f" } })

/-- **A redelivery to a superseded generation is noted on the flow**, although it is answered as a duplicate. -/
theorem redelivery_is_noted : ¬ ∀ e :
    Engine, e.Reachable → ∀ (o x : Observation) (f : FlowRuntime) (g : GenerationRuntime)
    (b : SourceBinding), e.Redelivers o f g b x →
      (∃ outcome, (e.ingest o).2 = .ok outcome ∧ outcome.disposition = .Duplicate) ∧
      (e.ingest o).1.durable = e.durable := by
  intro h
  obtain ⟨f, g, b, x, hr⟩ : ∃ f g b x, superseded.Redelivers toldAgain f g b x :=
    Redelivers.of_found (by with_unfolding_all decide)
  have hreached : superseded.Reachable := .step (.step (.opened {} ⟨1000⟩ reported_opened) _) _
  have hkept := (h superseded hreached toldAgain x f g b hr).2
  revert hkept
  decide +kernel

end Engine

end FlowObs
