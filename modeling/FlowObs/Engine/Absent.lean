import FlowObs.Advisory
import FlowObs.Metered
import FlowObs.Engine.Authority
import FlowObs.Engine.Totals
import FlowObs.Engine.Export
import FlowObs.Engine.Attribution

/-!
# Absent counters

A counter that a source says it cannot report is marked (`Observation.leavesOut`), and the mark is what renderings
show in the place of a number. A fold carries the marks of the observations it counts (`FoldState.Folds`), a
generation those of its first usable source, and a row of the table none, so that what is absent and what is shown as
absent are the same only as far as `absent_iff` says.
-/

namespace FlowObs

/-! ## Metrics and scopes -/

namespace Metric

/-- The number that is reported. -/
def number (c : Metric) (consumption : Consumption) : UInt64 :=
  match c with
  | .Bytes => consumption.bytes
  | .Packets => consumption.packets
  | .Retransmissions => consumption.retransmissions

/-- The counter is reported as unsupported. -/
def unsupported (c : Metric) (consumption : Consumption) : Bool :=
  match c with
  | .Bytes => consumption.bytesUnsupported
  | .Packets => consumption.packetsUnsupported
  | .Retransmissions => consumption.retransmissionsUnsupported

/-- Its key in an object of the JSON export. -/
def name : Metric → Str
  | .Bytes => str "bytes"
  | .Packets => str "packets"
  | .Retransmissions => str "retransmissions"

/-- Its column in the table. -/
def column : Metric → Nat
  | .Bytes => 12
  | .Packets => 13
  | .Retransmissions => 14

end Metric

/-- What a consumption of a generation sums. -/
inductive Scope
  | Forward | Reverse | Aggregate | Total
deriving DecidableEq, Repr, Inhabited

/-- The accounting that an observation of a direction is counted in. -/
def Direction.scope : Direction → Scope
  | .Forward => .Forward
  | .Reverse => .Reverse
  | .Aggregate | .Unspecified => .Aggregate

namespace Scope

/-- An observation of the direction belongs to the scope. -/
def covers (scope : Scope) (direction : Direction) : Bool := scope = .Total || scope = direction.scope

/-- The consumption of the scope. -/
def consumption (scope : Scope) (v : GenerationView) : Consumption :=
  match scope with
  | .Forward => v.forward
  | .Reverse => v.reverse
  | .Aggregate => v.aggregate
  | .Total => v.total

/-- Its key in the JSON export. -/
def name : Scope → Str
  | .Forward => str "forward"
  | .Reverse => str "reverse"
  | .Aggregate => str "aggregate"
  | .Total => str "total"

end Scope

/-! ## The marks of a fold -/

/-- The observation marks a counter as one that its source cannot report. -/
def Observation.leavesOut (obs : Observation) (c : Metric) : Bool :=
  obs.evidence == .Unsupported && (obs.counters.counter c).isNone

/-- The observation gives a value of a counter in a scope. -/
def Observation.supplies (obs : Observation) (scope : Scope) (c : Metric) : Bool :=
  scope.covers obs.direction && (obs.counters.counter c).isSome

/-- Some counted observation of the direction marks the counter. -/
def marked (taken : List Observation) (scope : Scope) (c : Metric) : Bool :=
  (counted taken).any (fun obs => scope.covers obs.direction && obs.leavesOut c)

namespace FoldState

/-- The fold shows the counter as unsupported in a direction. -/
def unsupported (s : FoldState) (direction : Direction) (c : Metric) : Bool :=
  c.unsupported (toConsumption (s.accountingFor direction))

/-- The fold is one of these observations, as far as marks go. -/
structure Folds (s : FoldState) (taken : List Observation) : Prop where
  unsupported : ∀ direction c, s.unsupported direction c = marked taken direction.scope c
  declared : s.declared = taken.any (·.kind.declares.isSome)

theorem folds_nil : ({} : FoldState).Folds [] where
  unsupported direction c := by cases direction <;> cases c <;> rfl
  declared := rfl

variable (policy : CounterPolicy) (s : FoldState) (obs : Observation)

/-- What one counter of an observation does to its mark. -/
theorem unsupported_applyCounter (evidence : Evidence) (asReset : Bool) (a : CounterAccumulator) (unsupported : Bool)
    (value : Option UInt64) : (applyCounter evidence asReset a unsupported value).unsupported
      = (unsupported || (evidence == .Unsupported && value.isNone)) := by
  cases value with
  | none =>
    unfold applyCounter
    cases evidence <;> simp
  | some value =>
    simp only [applyCounter, Option.isNone_some, Bool.and_false, Bool.or_false]
    obtain ⟨a', outcome⟩ := a.observe value asReset
    cases outcome <;> rfl

/-- The accounting of a direction after the counters of an observation. -/
theorem unsupported_count (direction : Direction) (c : Metric) : (count s obs policy).unsupported direction c
    = (s.unsupported direction c || (direction.scope.covers obs.direction && obs.leavesOut c)) := by
  have hopt : ∀ (s : FoldState) (kind : Option AnomalyKind), (s.noteOpt kind).accountingFor direction
      = s.accountingFor direction := by
    intro s kind
    cases kind <;> cases direction <;> rfl
  have hmoved : ∀ (s : FoldState) (progress : Bool) (last : Timestamp), FoldState.accountingFor
      (if progress then { s with lastProgressAt := last, observedProgress := true } else s) direction
        = s.accountingFor direction := by
    intro s progress last
    cases progress <;> cases direction <;> rfl
  have hlast : ∀ (s : FoldState) (late : Bool), FoldState.accountingFor (if late then s.note .IncompleteEvidence else s)
      direction = s.accountingFor direction := by
    intro s late
    cases late <;> cases direction <;> rfl
  have hset : ∀ (s : FoldState) (d : DirectionalAccounting), (s.setAccounting d obs.direction).accountingFor direction
      = if direction.scope = obs.direction.scope then d else s.accountingFor direction := by
    intro s d
    cases direction <;> cases obs.direction <;> rfl
  have hsame : direction.scope = obs.direction.scope → s.accountingFor obs.direction = s.accountingFor direction := by
    intro h
    cases hd : direction <;> cases ho : obs.direction <;> rw [hd, ho] at h <;> first | rfl | cases h
  unfold unsupported
  simp only [count]
  rw [hlast, hmoved, hset, hopt, hopt, hopt]
  have hcovers : direction.scope.covers obs.direction = decide (direction.scope = obs.direction.scope) := by
    cases direction <;> cases obs.direction <;> rfl
  rw [hcovers]
  by_cases h : direction.scope = obs.direction.scope
  · rw [if_pos h, decide_eq_true h, Bool.true_and, hsame h]
    cases c <;> exact unsupported_applyCounter _ _ _ _ _
  · rw [if_neg h, decide_eq_false h, Bool.false_and, Bool.or_false]

/-- What precedes the counters leaves the accounting but for an interval that is broken, which keeps the marks. -/
theorem unsupported_fence (direction : Direction) (c : Metric) :
    (fence (rollUp s obs) obs policy).unsupported direction c = s.unsupported direction c := by
  have hrolled : (rollUp s obs).unsupported direction c = s.unsupported direction c := by cases direction <;> rfl
  rw [← hrolled]
  refine fence_frame policy (rollUp s obs) obs (fun s => s.unsupported direction c) (fun s kind => ?_) (fun s => ?_)
    (fun s incarnation epoch distinct => ?_)
  · cases direction <;> rfl
  · cases direction <;> cases c <;> rfl
  · cases direction <;> rfl

/-- **What one more observation does to a mark.** -/
theorem unsupported_applyObservation (direction : Direction) (c : Metric) :
    (applyObservation policy s obs).unsupported direction c = (s.unsupported direction c ||
      (!s.declared && direction.scope.covers obs.direction && obs.leavesOut c)) := by
  have hfence := unsupported_fence policy s obs direction c
  have hdeclared : (fence (rollUp s obs) obs policy).declared = s.declared := by
    unfold declared
    rw [declaredTerminal_fence]
  unfold applyObservation
  generalize fence (rollUp s obs) obs policy = t at hfence hdeclared ⊢
  cases hd : s.declared with
  | true =>
    rw [if_pos (hdeclared.trans hd), ← hfence]
    cases direction <;> simp [unsupported, accountingFor]
  | false =>
    rw [if_neg (by rw [hdeclared, hd]; exact Bool.false_ne_true), unsupported_count, Bool.not_false, Bool.true_and,
      ← hfence]
    unfold unsupported
    rw [accountingFor_correlate]

/-- **The marks of a fold after one more observation**, by any step that declares and marks as `apply_observation`
does. -/
theorem Folds.step {s s' : FoldState} {taken : List Observation} (h : s.Folds taken) {obs : Observation}
    (hsame : s'.declaredTerminal = (applyObservation policy s obs).declaredTerminal)
    (hmarks : ∀ direction c, s'.unsupported direction c = (applyObservation policy s obs).unsupported direction c) :
    s'.Folds (taken ++ [obs]) := by
  refine ⟨fun direction c => ?_, ?_⟩
  · rw [hmarks, unsupported_applyObservation, h.unsupported, h.declared, marked, marked, counted_concat]
    cases taken.any (·.kind.declares.isSome) with
    | true => simp
    | false => simp
  · rw [List.any_append, List.any_cons, List.any_nil, Bool.or_false, ← h.declared, ← declared_applyObservation policy,
      FoldState.declared, FoldState.declared, hsame]

/-- **The marks of a fold** over a list of observations. -/
theorem Folds.foldl {step : FoldState → Observation → FoldState} (hstep : ∀ s obs,
      (step s obs).declaredTerminal = (applyObservation policy s obs).declaredTerminal ∧
      ∀ direction c, (step s obs).unsupported direction c = (applyObservation policy s obs).unsupported direction c)
    (entries : List Observation) {s : FoldState} {taken : List Observation} (h : s.Folds taken) :
    (entries.foldl step s).Folds (taken ++ entries) := by
  induction entries generalizing s taken with
  | nil => rwa [List.append_nil]
  | cons obs entries ih =>
    rw [List.append_cons]
    exact ih (h.step policy (hstep s obs).1 (hstep s obs).2)

end FoldState

/-- **A ledger folds to the marks of what it has taken**, whatever the policies. -/
theorem SourceLedger.Took.folds {l : SourceLedger} {taken : List Observation} (h : l.Took taken)
    (counters : CounterPolicy) :
    (l.foldAll counters).Folds taken := by
  obtain ⟨folded, rfl, hstart⟩ := h
  have hentry : ∀ s obs, (foldEntry l.counterPolicy s obs).declaredTerminal
      = (applyObservation l.counterPolicy s obs).declaredTerminal ∧
      ∀ direction c, (foldEntry l.counterPolicy s obs).unsupported direction c
        = (applyObservation l.counterPolicy s obs).unsupported direction c := by
    intro s obs
    refine ⟨foldEntry_frame FoldState.declaredTerminal (fun _ => rfl) _ s obs, fun direction c => ?_⟩
    refine foldEntry_frame (fun s => s.unsupported direction c) (fun s => ?_) _ s obs
    cases direction <;> rfl
  have hprefix : (folded.foldl (foldEntry l.counterPolicy) {}).Folds ([] ++ folded) :=
    FoldState.folds_nil.foldl l.counterPolicy hentry folded
  rw [← hstart, List.nil_append] at hprefix
  exact hprefix.foldl counters (fun s obs => ⟨rfl, fun _ _ => rfl⟩) l.entries.toList

/-! ## The marks of a generation -/

/-- The consumption of a source in a scope. -/
def SourceView.consumption (v : SourceView) : Scope → Consumption
  | .Forward => v.forwardTotals
  | .Reverse => v.reverseTotals
  | .Aggregate => v.aggregateTotals
  | .Total => totalsOf v

/-- The accounts of the sources of a generation: what the ledger of each has accepted, and what its view is folded
from, which is what was accepted when the fold was cached. -/
structure GenerationRuntime.Accounts (g : GenerationRuntime) where
  accepted : SourceId → List Observation
  folded : SourceId → List Observation
  source : ∀ b ∈ g.bindings.toList, b.ledger.source = b.source
  took : ∀ b ∈ g.bindings.toList, b.ledger.Took (accepted b.source)
  uncached : ∀ b ∈ g.bindings.toList, b.cached = none → folded b.source = accepted b.source
  cached : ∀ b ∈ g.bindings.toList, ∀ v, b.cached = some v → v.source = b.source ∧ ∃ s : FoldState,
    s.Folds (folded b.source) ∧ v.forward = s.forward ∧ v.reverse = s.reverse ∧ v.aggregate = s.aggregate

section Marks

variable {config : EngineConfig} {sources : SourceTable} {ctx : FreshnessContext} {flow : FlowId}
    {current : GenerationId}
variable {g : GenerationRuntime} (a : g.Accounts)

/-- **A view shows the marks of what it is folded from.** -/
theorem GenerationRuntime.Accounts.marks {u : SourceView}
    (hu : u ∈ (generationView config sources ctx flow current g).sources) (direction : Direction) (c : Metric) :
    c.unsupported (u.consumption direction.scope) = marked (a.folded u.source) direction.scope c := by
  have hlisted : u ∈ listed (g.bindings.toList.filterMap (bindingView config sources ctx)) := hu
  obtain ⟨v, hv, rfl⟩ := mem_listed.1 hlisted
  obtain ⟨b, hb, hv⟩ := List.mem_filterMap.1 hv
  obtain ⟨registered, -, rfl⟩ := Option.map_eq_some_iff.1 hv
  obtain ⟨hsource, s, hfolds, hforward, hreverse, haggregate⟩ : (b.fold registered.descriptor ctx config).source =
    b.source ∧
      ∃ s : FoldState, s.Folds (a.folded b.source) ∧ (b.fold registered.descriptor ctx config).forward = s.forward ∧
        (b.fold registered.descriptor ctx config).reverse = s.reverse ∧
        (b.fold registered.descriptor ctx config).aggregate = s.aggregate := by
    unfold SourceBinding.fold
    cases hc : b.cached with
    | none =>
      refine ⟨a.source b hb, b.ledger.foldAll config.counters, ?_, rfl, rfl, rfl⟩
      rw [a.uncached b hb hc]
      exact (a.took b hb).folds config.counters
    | some v => exact a.cached b hb v hc
  have hshown : (retotal (sourceView config b registered.descriptor ctx)).source = b.source := hsource
  have hscope : (retotal (sourceView config b registered.descriptor ctx)).consumption direction.scope
      = toConsumption (s.accountingFor direction) := by
    cases direction with
    | Forward => exact congrArg toConsumption hforward
    | Reverse => exact congrArg toConsumption hreverse
    | Aggregate => exact congrArg toConsumption haggregate
    | Unspecified => exact congrArg toConsumption haggregate
  rw [hshown, hscope]
  exact hfolds.unsupported direction c

end Marks

/-- A total over the three accountings is unsupported when each of them is. -/
theorem unsupported_totalsOf (v : SourceView) (c : Metric) :
    c.unsupported (totalsOf v) = true ↔
    ∀ direction : Direction, c.unsupported (v.consumption direction.scope) = true := by
  have hand : c.unsupported (totalsOf v)
      = (c.unsupported v.forwardTotals && c.unsupported v.reverseTotals && c.unsupported v.aggregateTotals) := by
    cases c <;> rfl
  rw [hand, Bool.and_eq_true, Bool.and_eq_true]
  constructor
  · rintro ⟨⟨hforward, hreverse⟩, haggregate⟩ direction
    cases direction with
    | Forward => exact hforward
    | Reverse => exact hreverse
    | Aggregate => exact haggregate
    | Unspecified => exact haggregate
  · exact fun h => ⟨⟨h .Forward, h .Reverse⟩, h .Aggregate⟩

/-- The mark of a total that is the largest, or the smallest, of several. -/
theorem unsupported_foldl (c : Metric) (views : List SourceView) (start : Consumption) :
    c.unsupported (views.foldl (fun t v => maximumConsumption t (totalsOf v)) start)
        = (c.unsupported start && views.all (fun v => c.unsupported (totalsOf v))) ∧
      c.unsupported (views.foldl (fun t v => minimumConsumption t (totalsOf v)) start)
        = (c.unsupported start || views.any (fun v => c.unsupported (totalsOf v))) := by
  have hmaximum : ∀ x y, c.unsupported (maximumConsumption x y) = (c.unsupported x && c.unsupported y) := by
    intro x y
    cases c <;> rfl
  have hminimum : ∀ x y, c.unsupported (minimumConsumption x y) = (c.unsupported x || c.unsupported y) := by
    intro x y
    cases c <;> rfl
  constructor
  · induction views generalizing start with
    | nil => rw [List.foldl_nil, List.all_nil, Bool.and_true]
    | cons v views ih => rw [List.foldl_cons, ih, hmaximum, List.all_cons, Bool.and_assoc]
  · induction views generalizing start with
    | nil => rw [List.foldl_nil, List.any_nil, Bool.or_false]
    | cons v views ih => rw [List.foldl_cons, ih, hminimum, List.any_cons, Bool.or_assoc]

/-! ## What is rendered -/

/-- The call that writes the value under a key, in the object under another. -/
def valueUnder (calls : List JsonCall) (object name : Str) : Option JsonCall :=
  ((calls.dropWhile (· != .key object)).dropWhile (· != .key name))[1]?

/-- The scope of the consumption of a target. -/
def TargetKind.scope : TargetKind → Scope
  | .EndpointA => .Forward
  | .EndpointB => .Reverse
  | .Flow | .Path | .Link | .Queue => .Total

/-- The target is given a share of a total, not a total. -/
def TargetKind.isShare : TargetKind → Bool
  | .Path | .Link | .Queue => true
  | .Flow | .EndpointA | .EndpointB => false

/-- Some accepted observation of a usable source of the generation gives a value of the counter in the scope. -/
def GenerationView.supplied (v : GenerationView) (accepted : SourceId → List Observation) (scope : Scope) (c : Metric) :
    Bool :=
  v.sources.any (fun u => sourceIsUsable u && (accepted u.source).any (·.supplies scope c))

/-- **What is absent is shown as absent**, and what was supplied as a number: in the JSON export, in a row of the
table that shows the total, and in every attribution. -/
structure GenerationView.ShowsAbsence (v : GenerationView) (accepted : SourceId → List Observation) : Prop where
  json : ∀ scope c, valueUnder (writeAccounting v) scope.name c.name
    = some (if v.supplied accepted scope c then .uint (c.number (scope.consumption v)) else .null)
  table : ∀ s : FlowSnapshot, s.total = v.total → ∀ c,
    (csvRow s)[c.column]? = some (decimal (c.number v.total).toNat) ↔ v.supplied accepted .Total c = true
  attribution : ∀ flow policy maxTargets, ∀ t ∈ (attributeGeneration flow v policy maxTargets).targets, ∀ c,
    c.unsupported t.consumption = !v.supplied accepted t.kind.scope c ∧
      (v.supplied accepted t.kind.scope c = true → t.kind.isShare = false →
        c.number t.consumption = c.number (t.kind.scope.consumption v))

section Rendering

variable (v : GenerationView) (c : Metric)

theorem valueUnder_writeAccounting (scope : Scope) : valueUnder (writeAccounting v) scope.name c.name
    = some (if c.unsupported (scope.consumption v) then .null else .uint (c.number (scope.consumption v))) := by
  have hcounter : ∀ name unsupported value, writeCounter name unsupported value
      = [.key name, if unsupported then .null else .uint value] := by
    intro name unsupported value
    cases unsupported <;> rfl
  have hvalue : ∀ (unsupported : Bool) value name, (if unsupported then JsonCall.null else .uint value) ≠
      .key name := by
    intro unsupported value name
    cases unsupported <;> exact fun h => JsonCall.noConfusion h
  unfold valueUnder writeAccounting writeConsumptionJson
  simp only [hcounter]
  cases scope <;> cases c <;> simp [Scope.name, Metric.name, str_inj, hvalue] <;> rfl

theorem csvRow_column (s : FlowSnapshot) : (csvRow s)[c.column]? = some (decimal (c.number s.total).toNat) := by
  cases c <;> rfl

/-- What a target of an attribution is given: its own total, or a share of the total. -/
inductive Attributed (v : GenerationView) : AttributedTarget → Prop
  | flow : Attributed v { kind := .Flow, consumption := v.total }
  | endpointA (h : (v.endpointA.valid || v.endpointB.valid) = true) :
    Attributed v { kind := .EndpointA, endpoint := v.endpointA, consumption := v.forward }
  | endpointB (h : (v.endpointA.valid || v.endpointB.valid) = true) :
    Attributed v { kind := .EndpointB, endpoint := v.endpointB, consumption :=
      if v.endpointB.valid then v.reverse else {} }
  | link (t : AttributedTarget) (hkind : t.kind = .Link)
    (h : ∀ c : Metric, c.unsupported t.consumption = c.unsupported v.total) : Attributed v t
  | queue (t : AttributedTarget) (hkind : t.kind = .Queue) (h : ∀ c : Metric, c.unsupported t.consumption = false) :
    Attributed v t

theorem attributed_ownTargets {t : AttributedTarget} (h : t ∈ ownTargets v) : Attributed v t := by
  unfold ownTargets endpointTargets at h
  rcases List.mem_cons.1 h with rfl | h
  · exact .flow
  · split at h
    · rename_i hnamed
      rcases List.mem_cons.1 h with rfl | h
      · exact .endpointA hnamed
      · obtain rfl := List.mem_singleton.1 h
        exact .endpointB hnamed
    · cases h

theorem attributed_hopTargets {method : AttributionMethod} {weights : List UInt64} {i : Nat} {t : AttributedTarget}
    (h : t ∈ hopTargets method v weights i) : Attributed v t := by
  simp only [hopTargets] at h
  split at h
  · rcases List.mem_cons.1 h with rfl | h
    · exact .link _ rfl (fun c => by cases c <;> rfl)
    · obtain rfl := List.mem_singleton.1 h
      exact .queue _ rfl (fun c => by cases c <;> rfl)
  · obtain rfl := List.mem_singleton.1 h
    exact .link _ rfl (fun c => by cases c <;> rfl)

/-- **What an attribution attributes**: nothing while sources disagree, and else what its targets are given. -/
theorem attributed_of_mem {flow : FlowSnapshot} {policy : AttributionPolicy} {maxTargets : Nat} {t : AttributedTarget}
    (h : t ∈ (attributeGeneration flow v policy maxTargets).targets) : v.unresolvedConflict = false ∧
    Attributed v t := by
  have htotal : ∀ report : AttributionReport, t ∈ (attributeTotal report v policy maxTargets).targets →
      Attributed v t := by
    intro report ht
    have hown : ∀ {r : AttributionReport}, r.targets = ownTargets v → t ∈ r.targets → Attributed v t :=
      fun hr ht => attributed_ownTargets v (hr ▸ ht)
    simp only [attributeTotal] at ht
    split at ht
    · split at ht <;> exact hown rfl ht
    · split at ht
      · exact hown rfl ht
      · split at ht
        · exact hown rfl ht
        · split at ht
          · exact hown rfl ht
          · rename_i weights _
            have hall : t ∈ ownTargets v ++
                (List.range v.links.length).flatMap (hopTargets policy.method v weights) := by
              split at ht <;> exact ht
            rcases List.mem_append.1 hall with ht | ht
            · exact attributed_ownTargets v ht
            · obtain ⟨i, -, ht⟩ := List.mem_flatMap.1 ht
              exact attributed_hopTargets v ht
  simp only [attributeGeneration] at h
  split at h
  · cases h
  · split at h
    · cases h
    · split at h
      · cases h
      · rename_i hconflict
        exact ⟨Bool.eq_false_iff.2 hconflict, htotal _ h⟩

end Rendering

/-! ## When absence is shown -/

/-- **What a generation shows while a source is usable**: the accounting of the first, and the total of the method. -/
theorem shown_of_usable (flow : FlowId) (gen : GenerationId) (views : List SourceView) (policy : ReconciliationPolicy)
    (isCurrent : Bool) {u : SourceView}
    (hu : (reconcileGeneration flow gen views policy isCurrent).sources.find? sourceIsUsable = some u) :
    (∀ direction : Direction, direction.scope.consumption (reconcileGeneration flow gen views policy isCurrent)
      = u.consumption direction.scope) ∧
    (reconcileGeneration flow gen views policy isCurrent).total
      = chosenTotal policy u ((reconcileGeneration flow gen views policy isCurrent).sources.filter sourceIsUsable) := by
  have hhead : ((sortSourceViews (views.map retotal)).filter sourceIsUsable).head? = some u := by
    rw [List.head?_filter]
    exact hu
  have hsources : (reconcileGeneration flow gen views policy isCurrent).sources =
      sortSourceViews (views.map retotal) := rfl
  obtain ⟨rest, hrest⟩ := List.head?_eq_some_iff.1 hhead
  rw [hsources]
  unfold reconcileGeneration
  simp only [hrest]
  refine ⟨fun direction => ?_, trivial⟩
  cases direction <;> rfl

/-- The mark of the total of a method. -/
theorem unsupported_chosenTotal {policy : ReconciliationPolicy} {u : SourceView} {usable : List SourceView}
    (hu : u ∈ usable)
    (c : Metric) : c.unsupported (chosenTotal policy u usable) = true ↔ match policy.method with
      | .PrimaryAuthoritative => c.unsupported (totalsOf u) = true
      | .MaximumObserved => ∀ v ∈ usable, c.unsupported (totalsOf v) = true
      | .ConservativeMinimum => ∃ v ∈ usable, c.unsupported (totalsOf v) = true := by
  unfold chosenTotal
  cases policy.method with
  | PrimaryAuthoritative => rfl
  | MaximumObserved =>
    simp only [(unsupported_foldl c usable (totalsOf u)).1, Bool.and_eq_true, List.all_eq_true]
    exact ⟨fun h => h.2, fun h => ⟨h u hu, h⟩⟩
  | ConservativeMinimum =>
    simp only [(unsupported_foldl c usable (totalsOf u)).2, Bool.or_eq_true, List.any_eq_true]
    exact ⟨fun h => h.elim (fun h => ⟨u, hu, h⟩) id, .inr⟩

/-- When absence is shown: every counter was given by a usable source, the first of which marks what no usable source
gives and nothing else; under the smallest total no usable source marks a counter throughout; and the reverse endpoint
is named unless it is not attributed to or has nothing to be attributed. -/
structure GenerationView.Gives (v : GenerationView) (method : ReconciliationMethod)
    (accepted folded : SourceId → List Observation) : Prop where
  every : ∀ c, v.supplied accepted .Total c = true
  first : ∀ u, v.sources.find? sourceIsUsable = some u → ∀ direction c,
    marked (folded u.source) (Direction.scope direction) c = !v.supplied accepted direction.scope c
  smallest : method = .ConservativeMinimum → ∀ u ∈ v.sources, sourceIsUsable u = true → ∀ c, ∃ direction,
    marked (folded u.source) (Direction.scope direction) c = false
  reverse : v.unresolvedConflict = true ∨ v.endpointB.valid = true ∨ v.endpointA.valid = false ∨
    ∀ c : Metric, v.supplied accepted .Reverse c = true ∧ c.number v.reverse = 0

section Shows

variable {v : GenerationView}

/-- A scope is that of a direction, or the total. -/
theorem Scope.cases (scope : Scope) : scope = .Total ∨ ∃ direction : Direction, scope = direction.scope := by
  cases scope with
  | Forward => exact .inr ⟨.Forward, rfl⟩
  | Reverse => exact .inr ⟨.Reverse, rfl⟩
  | Aggregate => exact .inr ⟨.Aggregate, rfl⟩
  | Total => exact .inl rfl

/-- What a usable source gives in all, it gives in some direction. -/
theorem supplied_total {accepted : SourceId → List Observation} {c : Metric} (h : v.supplied accepted .Total c = true) :
    ∃ direction : Direction, v.supplied accepted direction.scope c = true := by
  obtain ⟨u, hu, h⟩ := List.any_eq_true.1 h
  obtain ⟨husable, h⟩ := Bool.and_eq_true_iff.1 h
  obtain ⟨obs, hobs, h⟩ := List.any_eq_true.1 h
  refine ⟨obs.direction, List.any_eq_true.2
    ⟨u, hu, Bool.and_eq_true_iff.2 ⟨husable, List.any_eq_true.2 ⟨obs, hobs, ?_⟩⟩⟩⟩
  unfold Observation.supplies at h ⊢
  rw [Bool.and_eq_true] at h ⊢
  exact ⟨by simp [Scope.covers], h.2⟩

/-- Something is given by a usable source. -/
theorem usable_of_supplied {accepted : SourceId → List Observation} {scope : Scope} {c : Metric}
    (h : v.supplied accepted scope c = true) : ∃ u, v.sources.find? sourceIsUsable = some u := by
  obtain ⟨u, hu, h⟩ := List.any_eq_true.1 h
  exact Option.isSome_iff_exists.1 (List.find?_isSome.2 ⟨u, hu, (Bool.and_eq_true_iff.1 h).1⟩)

/-- A source that does not mark a counter in some direction does not mark its total. -/
theorem unsupported_totalsOf_false {u : SourceView} {c : Metric} :
    c.unsupported (totalsOf u) = false ↔
    ∃ direction : Direction, c.unsupported (u.consumption direction.scope) = false := by
  rw [← Bool.not_eq_true, unsupported_totalsOf, not_forall]
  exact exists_congr fun direction => by rw [Bool.not_eq_true]

variable {policy : ReconciliationPolicy} {accepted folded : SourceId → List Observation}
variable (hmarks : ∀ u ∈ v.sources, ∀ (direction : Direction) (c : Metric),
  c.unsupported (u.consumption direction.scope) = marked (folded u.source) direction.scope c)
variable (hshown : ∀ u, v.sources.find? sourceIsUsable = some u →
  (∀ direction : Direction, direction.scope.consumption v = u.consumption direction.scope) ∧
    v.total = chosenTotal policy u (v.sources.filter sourceIsUsable))

include hmarks hshown

/-- The marks of the first usable source are those of the generation. -/
theorem unsupported_direction {u : SourceView} (hu : v.sources.find? sourceIsUsable = some u) (direction : Direction)
    (c : Metric) : c.unsupported (direction.scope.consumption v) = marked (folded u.source) direction.scope c := by
  rw [(hshown u hu).1, hmarks u (List.mem_of_find?_eq_some hu)]

/-- The total is marked unless the sources that the method takes it from count in some direction. -/
theorem unsupported_total {u : SourceView} (hu : v.sources.find? sourceIsUsable = some u) {c : Metric}
    (hfirst : ∃ direction : Direction, marked (folded u.source) direction.scope c = false) :
    c.unsupported v.total = false ↔ (policy.method = .ConservativeMinimum → ∀ u ∈ v.sources, sourceIsUsable u = true →
      ∃ direction : Direction, marked (folded u.source) direction.scope c = false) := by
  have hmem := List.mem_of_find?_eq_some hu
  have htotals : ∀ u ∈ v.sources, c.unsupported (totalsOf u) = false ↔
      ∃ direction : Direction, marked (folded u.source) direction.scope c = false := by
    intro u hu
    rw [unsupported_totalsOf_false]
    exact exists_congr fun direction => by rw [hmarks u hu]
  have hown := (htotals u hmem).2 hfirst
  have huse : u ∈ v.sources.filter sourceIsUsable := List.mem_filter.2 ⟨hmem, List.find?_some hu⟩
  rw [(hshown u hu).2, ← Bool.not_eq_true, unsupported_chosenTotal huse c]
  cases policy.method with
  | PrimaryAuthoritative => simp [hown]
  | MaximumObserved =>
    simp only [reduceCtorEq, false_implies, iff_true]
    exact fun h => absurd (h u huse) (by rw [hown]; exact Bool.false_ne_true)
  | ConservativeMinimum =>
    simp only [forall_const, not_exists, not_and, Bool.not_eq_true]
    constructor
    · exact fun h w hw husable => (htotals w hw).1 (h w (List.mem_filter.2 ⟨hw, husable⟩))
    · exact fun h w hw => (htotals w (List.mem_filter.1 hw).1).2 (h w (List.mem_filter.1 hw).1 (List.mem_filter.1 hw).2)

/-- What is asked of the sources when absence is shown. -/
theorem gives_of_showsAbsence (h : v.ShowsAbsence accepted) : v.Gives policy.method accepted folded := by
  have hevery : ∀ c, v.supplied accepted .Total c = true :=
    fun c => (h.table { total := v.total } rfl c).1 (csvRow_column c _)
  have hjson : ∀ (scope : Scope) (c : Metric), c.unsupported (scope.consumption v) = !v.supplied accepted scope c := by
    intro scope c
    have hvalue := (valueUnder_writeAccounting v c scope).symm.trans (h.json scope c)
    cases hu : c.unsupported (scope.consumption v) <;> cases hs : v.supplied accepted scope c <;> rw [hu,
      hs] at hvalue <;>
      simp at hvalue ⊢
  have hfirst : ∀ u, v.sources.find? sourceIsUsable = some u → ∀ direction c,
      marked (folded u.source) (Direction.scope direction) c = !v.supplied accepted direction.scope c := by
    intro u hu direction c
    rw [← unsupported_direction hmarks hshown hu, hjson]
  refine ⟨hevery, hfirst, fun hmethod u hu husable c => ?_, ?_⟩
  · obtain ⟨first, hf⟩ := usable_of_supplied (hevery c)
    obtain ⟨direction, hd⟩ := supplied_total (hevery c)
    have hcounts : ∃ direction : Direction, marked (folded first.source) direction.scope c = false :=
      ⟨direction, by rw [hfirst first hf, hd]; rfl⟩
    have htotal : c.unsupported v.total = false := by
      have hscope := hjson .Total c
      rw [hevery c] at hscope
      exact hscope
    exact (unsupported_total hmarks hshown hf hcounts).1 htotal hmethod u hu husable
  · cases hconflict : v.unresolvedConflict with
    | true => exact .inl rfl
    | false =>
      cases hb : v.endpointB.valid with
      | true => exact .inr (.inl rfl)
      | false =>
        cases ha : v.endpointA.valid with
        | false => exact .inr (.inr (.inl rfl))
        | true =>
          right; right; right
          intro c
          have htarget : { kind := .EndpointB, endpoint := v.endpointB, consumption := {} } ∈
              (attributeGeneration default v ⟨.EndpointOnly, false, false⟩ 3).targets := by
            simp [attributeGeneration, attributeTotal, ownTargets, endpointTargets, hconflict, ha, hb]
          obtain ⟨hmark, hnumber⟩ := h.attribution _ _ _ _ htarget c
          have hunmarked : c.unsupported ({} : Consumption) = false := by cases c <;> rfl
          have hsupplied : v.supplied accepted .Reverse c = true := by
            rw [hunmarked, TargetKind.scope] at hmark
            simpa using hmark
          exact ⟨hsupplied, (hnumber hsupplied rfl).symm.trans (by cases c <;> rfl)⟩

/-- Absence is shown when the sources give what is asked of them. -/
theorem showsAbsence_of_gives (h : v.Gives policy.method accepted folded) : v.ShowsAbsence accepted := by
  have hscope : ∀ (scope : Scope) (c : Metric), c.unsupported (scope.consumption v) = !v.supplied accepted scope c := by
    intro scope c
    obtain ⟨u, hu⟩ := usable_of_supplied (h.every c)
    rcases scope.cases with rfl | ⟨direction, rfl⟩
    · obtain ⟨direction, hd⟩ := supplied_total (h.every c)
      have hcounts : ∃ direction : Direction, marked (folded u.source) direction.scope c = false :=
        ⟨direction, by rw [h.first u hu, hd]; rfl⟩
      rw [h.every c]
      exact (unsupported_total hmarks hshown hu hcounts).2
        (fun hmethod w hw husable => h.smallest hmethod w hw husable c)
    · rw [unsupported_direction hmarks hshown hu, h.first u hu]
  refine ⟨fun scope c => ?_, fun s hs c => ?_, fun flow policy maxTargets t ht c => ?_⟩
  · rw [valueUnder_writeAccounting, hscope]
    cases v.supplied accepted scope c <;> rfl
  · rw [← hs]
    exact ⟨fun _ => h.every c, fun _ => csvRow_column c s⟩
  · obtain ⟨hconflict, hattributed⟩ := attributed_of_mem v ht
    have htotal := h.every c
    cases hattributed with
    | flow => exact ⟨hscope .Total c, fun _ _ => rfl⟩
    | endpointA hnamed => exact ⟨hscope .Forward c, fun _ _ => rfl⟩
    | endpointB hnamed =>
      have hreverse := h.reverse
      rw [hconflict] at hreverse
      cases hb : v.endpointB.valid with
      | true => exact ⟨hscope .Reverse c, fun _ _ => rfl⟩
      | false =>
        rw [hb, Bool.or_false] at hnamed
        rw [hb, hnamed] at hreverse
        simp only [Bool.false_eq_true, Bool.true_eq_false, false_or] at hreverse
        obtain ⟨hsupplied, hzero⟩ := hreverse c
        refine ⟨?_, fun _ _ => ?_⟩
        · rw [TargetKind.scope, hsupplied]
          cases c <;> rfl
        · rw [TargetKind.scope, Scope.consumption, hzero]
          cases c <;> rfl
    | link t hkind hmark =>
      rw [hkind]
      refine ⟨(hmark c).trans (hscope .Total c), fun _ hshare => ?_⟩
      cases hshare
    | queue t hkind hmark =>
      rw [hkind]
      refine ⟨?_, fun _ hshare => ?_⟩
      · rw [hmark c, TargetKind.scope, htotal]
        rfl
      · cases hshare

end Shows

/-- **Absence is shown exactly when** the first usable source stands for all of them. -/
theorem absent_iff (config : EngineConfig) (sources : SourceTable) (ctx : FreshnessContext) (flow : FlowId)
    (current : GenerationId) (g : GenerationRuntime) (a : g.Accounts) :
    (generationView config sources ctx flow current g).ShowsAbsence a.accepted ↔
      (generationView config sources ctx flow current g).Gives config.reconciliation.method a.accepted a.folded := by
  have hshown : ∀ u, (generationView config sources ctx flow current g).sources.find? sourceIsUsable = some u →
      (∀ direction : Direction, direction.scope.consumption (generationView config sources ctx flow current g)
        = u.consumption direction.scope) ∧
      (generationView config sources ctx flow current g).total = chosenTotal config.reconciliation u
        ((generationView config sources ctx flow current g).sources.filter sourceIsUsable) :=
    fun u hu => shown_of_usable flow g.id (g.bindings.toList.filterMap (bindingView config sources ctx))
      config.reconciliation (g.id == current) hu
  exact ⟨gives_of_showsAbsence (fun u hu => a.marks hu) hshown, showsAbsence_of_gives (fun u hu => a.marks hu) hshown⟩

/-! ## Runs -/

/-- A binding has accounts: its ledger took some observations, and its cached fold is one of some. -/
structure SourceBinding.Accounted (b : SourceBinding) : Prop where
  source : b.ledger.source = b.source
  took : ∃ taken, b.ledger.Took taken
  cached : ∀ v, b.cached = some v → v.source = b.source ∧ ∃ taken, ∃ s : FoldState, s.Folds taken ∧
    v.forward = s.forward ∧
    v.reverse = s.reverse ∧ v.aggregate = s.aggregate

namespace SourceBinding

variable {b : SourceBinding}

theorem accounted_fresh (limits : Limits) (replaying : Bool) (source : SourceId) (generation : FlowGeneration) :
    (freshBinding limits replaying source generation).Accounted where
  source := rfl
  took := ⟨[], SourceLedger.took_configure _ _ _⟩
  cached v hv := by cases hv

theorem Accounted.refresh (h : b.Accounted) (config : EngineConfig) (sources : SourceTable) (ctx : FreshnessContext) :
    (refreshBinding config sources ctx b).Accounted := by
  refine ⟨?_, ?_, fun v hv => ?_⟩
  · rw [refreshBinding_ledger, refreshBinding_source, h.source]
  · rw [refreshBinding_ledger]
    exact h.took
  · rw [refreshBinding_source]
    unfold refreshBinding at hv
    cases hs : sources.find? b.source with
    | none =>
      rw [hs] at hv
      exact h.cached v hv
    | some s =>
      rw [hs] at hv
      obtain rfl : b.fold s.descriptor ctx config = v := Option.some.inj hv
      unfold SourceBinding.fold
      cases hc : b.cached with
      | some v => exact h.cached v hc
      | none =>
        obtain ⟨taken, htook⟩ := h.took
        exact ⟨h.source, taken, _, htook.folds config.counters, rfl, rfl, rfl⟩

theorem Accounted.take (h : b.Accounted) (replaying : Bool) (obs : Observation) :
    (b.take replaying obs).1.Accounted := by
  refine ⟨?_, ?_, fun v hv => ?_⟩
  · rw [take_ledger, take_source, (SourceLedger.insert_source _ _).1, h.source]
  · rw [take_ledger]
    obtain ⟨taken, htook⟩ := h.took
    obtain ⟨taken', htook', -⟩ := htook.insert obs
    exact ⟨taken', htook'⟩
  · rw [take_source]
    rcases take_cached b replaying obs with hnone | ⟨-, hsame⟩
    · rw [hnone] at hv
      cases hv
    · exact h.cached v (hsame ▸ hv)

end SourceBinding

namespace Engine

/-- **Every binding has accounts** in every run of an engine that is opened on no file. -/
theorem accounted_of_run (config : EngineConfig) (clock : Timestamp) (ops : List Op) :
    (ops.foldl step ({ config := config, clock := clock } : Engine).openEngine.1).Holds (fun _ _ b => b.Accounted) := by
  have hstart : ({ config := config, clock := clock } : Engine).openEngine.1.Holds (fun _ _ b => b.Accounted) := by
    intro flow gen source b hb
    rw [binding?, (opened_empty config clock).flows] at hb
    cases hb
  generalize ({ config := config, clock := clock } : Engine).openEngine.1 = e at hstart ⊢
  induction ops generalizing e with
  | nil => exact hstart
  | cons op ops ih =>
    refine ih (e.step op) ?_
    refine step_rule (P := fun e => e.Holds (fun _ _ b => b.Accounted)) (fun e incoming h (_ : True) => ?_)
      (fun e atTime due h => ?_) (fun e s id _ h => h.dropped s id) (fun e d s _ h => h.of_flows rfl)
      (fun e d s _ (_ : True) h => h.of_flows rfl) (fun e e' hsame h => h.of_flows hsame.flows) hstart
      (fun _ _ => trivial) (fun _ _ => trivial)
    · refine holds_applyLocked h (fun ctx flow gen b hb => hb.refresh _ _ ctx) (fun _ _ => ?_)
      refine SourceBinding.Accounted.take ?_ e.replaying _
      unfold bindingFor
      cases hb : e.binding? (e.taken incoming).subject.flow (e.taken incoming).subject.generation
          (e.taken incoming).key.source with
      | none => exact SourceBinding.accounted_fresh _ _ _ _
      | some b => exact h _ _ _ b hb
    · exact holds_recomputeAll h due (fun ctx flow gen b hb => hb.refresh _ _ ctx)

/-- **Every generation has accounts** in every run of an engine that is opened on no file. -/
theorem exists_accounts (config : EngineConfig) (clock : Timestamp) (ops : List Op) {flow : FlowId} {gen : GenerationId}
    {g : GenerationRuntime}
    (hg : (ops.foldl step ({ config := config, clock := clock } : Engine).openEngine.1).generation? flow gen = some g) :
    Nonempty g.Accounts := by
  have haccounted : ∀ b ∈ g.bindings.toList, b.Accounted := by
    intro b hb
    obtain ⟨f, hf, hg⟩ := Option.bind_eq_some_iff.1 hg
    refine accounted_of_run config clock ops flow gen b.source b ?_
    rw [binding?, hf, Option.bind_some, FlowRuntime.binding?, hg, Option.bind_some]
    exact SortedVec.find?_of_mem hb
  have hlists : ∀ id, ∃ accepted folded, ∀ b ∈ g.bindings.toList, b.source = id → b.ledger.Took accepted ∧
      (b.cached = none → folded = accepted) ∧ ∀ v, b.cached = some v → ∃ s : FoldState, s.Folds folded ∧
        v.forward = s.forward ∧ v.reverse = s.reverse ∧ v.aggregate = s.aggregate := by
    intro id
    cases hb : g.bindings.find? id with
    | none => exact ⟨[], [], fun b hmem hid => absurd hid (SortedVec.find?_eq_none.1 hb b hmem)⟩
    | some b =>
      obtain ⟨hmem, hid⟩ := SortedVec.find?_eq_some.1 hb
      have hone : ∀ b' ∈ g.bindings.toList, b'.source = id → b' = b :=
        fun b' hb' hid' => SortedVec.eq_of_key hb' hmem (hid'.trans hid.symm)
      obtain ⟨-, ⟨taken, htook⟩, hcached⟩ := haccounted b hmem
      cases hc : b.cached with
      | none =>
        refine ⟨taken, taken, fun b' hb' hid' => ?_⟩
        obtain rfl := hone b' hb' hid'
        exact ⟨htook, fun _ => rfl, fun v hv => by rw [hc] at hv; cases hv⟩
      | some v =>
        obtain ⟨-, folded, s, hs⟩ := hcached v hc
        refine ⟨taken, folded, fun b' hb' hid' => ?_⟩
        obtain rfl := hone b' hb' hid'
        refine ⟨htook, fun hnone => ?_, fun v' hv' => ?_⟩
        · rw [hc] at hnone
          cases hnone
        · rw [hc] at hv'
          cases hv'
          exact ⟨s, hs⟩
  choose accepted folded hall using hlists
  exact ⟨{
    accepted := accepted
    folded := folded
    source := fun b hb => (haccounted b hb).source
    took := fun b hb => (hall b.source b hb rfl).1
    uncached := fun b hb => (hall b.source b hb rfl).2.1
    cached := fun b hb v hv => ⟨((haccounted b hb).cached v hv).1, (hall b.source b hb rfl).2.2 v hv⟩ }⟩

/-! ## Packets that nobody counted -/

/-- An engine to which the source `a` reported ten bytes, and no packets. -/
def bytesOnly : Engine := ({ clock := ⟨1000⟩ } : Engine).openEngine.1.step
  (.ingest ((sampleObservation (sourceIdFromKey (str "a")) .Sample 1 ⟨900⟩).withBytes 10))

/-- The observations that the ledgers of a generation retain. -/
def retainedBy (g : GenerationRuntime) : List Observation := g.bindings.toList.flatMap (·.ledger.entries.toList)

/-- The one ledger of a generation has folded nothing out, and its view shows what it retains. -/
def plain (g : GenerationRuntime) : Bool := g.bindings.toList.all (fun b =>
  b.ledger.source == b.source && b.ledger.entries.toList == retainedBy g && b.ledger.prefixState.toFoldState == {}
    && b.cached.all (fun v => v.source == b.source && v.forward == (b.ledger.foldAll {}).forward
      && v.reverse == (b.ledger.foldAll {}).reverse && v.aggregate == (b.ledger.foldAll {}).aggregate))

/-- Its accounts. -/
def plainAccounts {g : GenerationRuntime} (h : plain g = true) : g.Accounts :=
  have hall : ∀ b ∈ g.bindings.toList, b.ledger.source = b.source ∧ b.ledger.Took (retainedBy g) ∧
  ∀ v, b.cached = some v →
      v.source = b.source ∧ v.forward = (b.ledger.foldAll {}).forward ∧ v.reverse = (b.ledger.foldAll {}).reverse ∧
        v.aggregate = (b.ledger.foldAll {}).aggregate := by
    intro b hb
    have hplain := List.all_eq_true.1 h b hb
    simp only [Bool.and_eq_true, beq_iff_eq, option_all_iff] at hplain
    obtain ⟨⟨⟨hsource, hentries⟩, hfolded⟩, hcached⟩ := hplain
    refine ⟨hsource, ⟨[], hentries.symm, hfolded⟩, fun v hv => ?_⟩
    obtain ⟨⟨⟨hid, hforward⟩, hreverse⟩, haggregate⟩ := hcached v hv
    exact ⟨hid, hforward, hreverse, haggregate⟩
  { accepted := fun _ => retainedBy g
    folded := fun _ => retainedBy g
    source := fun b hb => (hall b hb).1
    took := fun b hb => (hall b hb).2.1
    uncached := fun _ _ _ => rfl
    cached := fun b hb v hv =>
      have hshown := (hall b hb).2.2 v hv
      ⟨hshown.1, _, (hall b hb).2.1.folds {}, hshown.2⟩ }

/-- **Packets that no source counted are shown as zero.** -/
theorem absent_shown_as_zero : ¬ ∀ e : Engine, e.Reachable → ∀ flow f, e.flows.find? flow = some f →
    ∀ gen g, f.generations.find? gen = some g → ∀ a : g.Accounts,
      (generationView e.config e.sources e.context f.id f.currentGeneration g).ShowsAbsence a.accepted := by
  intro h
  have hreached : bytesOnly.Reachable := .step (.opened {} ⟨1000⟩ reported_opened) _
  have hplain : (bytesOnly.flows.find? sampleFlow).any (fun f => (f.generations.find? ⟨1⟩).any (fun g =>
      plain g && (retainedBy g).all (·.counters.packets.isNone))) = true := by
    with_unfolding_all decide
  obtain ⟨f, hf, hplain⟩ := (Option.any_eq_true _ _).1 hplain
  obtain ⟨g, hg, hplain⟩ := (Option.any_eq_true _ _).1 hplain
  obtain ⟨hplain, hnone⟩ := Bool.and_eq_true_iff.1 hplain
  have hsupplied := ((h bytesOnly hreached _ f hf _ g hg (plainAccounts hplain)).table
    { total := _ } rfl .Packets).1 (csvRow_column .Packets _)
  obtain ⟨u, -, hu⟩ := List.any_eq_true.1 hsupplied
  obtain ⟨obs, hobs, hobs'⟩ := List.any_eq_true.1 (Bool.and_eq_true_iff.1 hu).2
  have habsent := List.all_eq_true.1 hnone obs hobs
  have hpresent : obs.counters.packets.isSome = true := (Bool.and_eq_true_iff.1 hobs').2
  rw [Option.isNone_iff_eq_none] at habsent
  rw [habsent] at hpresent
  cases hpresent

end Engine

end FlowObs
