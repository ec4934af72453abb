import FlowObs.Accumulator
import FlowObs.Retained

/-!
# What a fold does to its counters

A fold calls each of its nine counters (`FoldState.counter`): it ends the interval where the key of an observation is
one of another incarnation or epoch (`CanonicalKey.interrupts`), and observes the reading of the observation, if it
has one (`counter_applyObservation`, `counter_foldl`).

- After a declared terminal nothing is observed, but the interval is still ended (`accounting_late`, `freezes_iff`).
- A further observation splits a difference into two, or stands between intervals that were apart before
  (`consumed_callsOver_insert`), so evidence never lowers a total (`evidence_never_lowers_totals`).
-/

namespace FlowObs

/-! ## The counters of a fold -/

/-- Which of the three counters of a direction. -/
inductive Metric
  | Bytes | Packets | Retransmissions
deriving DecidableEq, Repr, Inhabited

def DirectionalAccounting.counter (d : DirectionalAccounting) : Metric → CounterAccumulator
  | .Bytes => d.bytes
  | .Packets => d.packets
  | .Retransmissions => d.retransmissions

def CounterSet.counter (c : CounterSet) : Metric → Option UInt64
  | .Bytes => c.bytes
  | .Packets => c.packets
  | .Retransmissions => c.retransmissions

/-- A counter of a fold. -/
def FoldState.counter (s : FoldState) (direction : Direction) (metric : Metric) : CounterAccumulator :=
  (s.accountingFor direction).counter metric

/-- The direction under which a direction is accounted. -/
def Direction.account : Direction → Direction
  | .Unspecified => .Aggregate
  | direction => direction

/-- What an observation reads of a counter. -/
def Observation.reading (obs : Observation) (direction : Direction) (metric : Metric) : Option UInt64 :=
  if obs.direction.account = direction.account then obs.counters.counter metric else none

/-- An observation under `key` ends the intervals of a fold that stands at `mark`. -/
def CanonicalKey.interrupts (mark key : CanonicalKey) : Bool :=
  if key.incarnation ≠ mark.incarnation then mark.incarnation.valid else key.epoch ≠ mark.epoch

/-- The call that ends the interval, if there is one. -/
def gap (mark key : CanonicalKey) : List (Option UInt64) := if mark.interrupts key then [none] else []

/-- The call that observes a reading, if there is one. -/
def Observation.observed (obs : Observation) (direction : Direction) (metric : Metric) : List (Option UInt64) :=
  (obs.reading direction metric).toList.map some

section Step

variable (policy : CounterPolicy) (s : FoldState) (obs : Observation) (direction : Direction) (metric : Metric)

@[simp] theorem accountingFor_account : s.accountingFor direction.account = s.accountingFor direction := by
  cases direction <;> rfl

/-- The fences end the intervals of every direction, or of none. -/
theorem accountingFor_fence : (fence (rollUp s obs) obs policy).accountingFor direction
    = if s.mark.interrupts obs.canonicalKey then (s.accountingFor direction).breakInterval
      else s.accountingFor direction := by
  have hmark : ∀ s : FoldState, s.mark.interrupts obs.canonicalKey
      = if obs.key.incarnation ≠ s.currentIncarnation then s.currentIncarnation.valid
        else decide (obs.key.epoch ≠ s.currentEpoch) := fun _ => rfl
  have hrolled : s.mark.interrupts obs.canonicalKey = (rollUp s obs).mark.interrupts obs.canonicalKey := rfl
  have hkept : s.accountingFor direction = (rollUp s obs).accountingFor direction := by
    cases direction <;> rfl
  rw [hrolled, hkept]
  generalize rollUp s obs = s
  rw [hmark]
  unfold fence
  by_cases hincarnation : obs.key.incarnation ≠ s.currentIncarnation
  · rw [if_pos hincarnation, if_pos hincarnation]
    cases s.currentIncarnation.valid <;> cases direction <;> rfl
  · rw [if_neg hincarnation, if_neg hincarnation]
    by_cases hepoch : obs.key.epoch ≠ s.currentEpoch
    · rw [if_pos hepoch, if_pos (decide_eq_true hepoch)]
      cases policy.honorExplicitCounterReset && kindAnnouncesCounterRestart obs.kind <;> cases direction <;> rfl
    · rw [if_neg hepoch, if_neg (by simpa using hepoch)]

theorem accountingFor_setAccounting (d : DirectionalAccounting) :
    (s.setAccounting d obs.direction).accountingFor direction
      = if obs.direction.account = direction.account then d else s.accountingFor direction := by
  cases hobs : obs.direction <;> cases direction <;> rfl

/-- What a counter step does to its accumulator: it observes the value, if there is one. -/
theorem accumulator_applyCounter (evidence : Evidence) (restart : Bool) (a : CounterAccumulator) (unsupported : Bool)
    (value : Option UInt64) :
    (applyCounter evidence restart a unsupported value).accumulator = a.calls restart (value.toList.map some) := by
  cases value with
  | none =>
    simp only [applyCounter]
    split <;> rfl
  | some value =>
    show _ = (a.observe value restart).1
    simp only [applyCounter]
    split <;> simp_all

/-- Only the accounting of its direction is touched by an observation that is counted. -/
theorem counter_count : (count s obs policy).counter direction metric
    = (s.counter direction metric).calls policy.treatRegressionAsReset (obs.observed direction metric) := by
  have hnote : ∀ (s : FoldState) (kind : AnomalyKind),
      (s.note kind).accountingFor direction = s.accountingFor direction := by
    intro s kind
    cases direction <;> rfl
  have hopt : ∀ (s : FoldState) (kind : Option AnomalyKind),
      (s.noteOpt kind).accountingFor direction = s.accountingFor direction := by
    intro s kind
    cases kind with
    | none => rfl
    | some kind => exact hnote s kind
  have hprogress : ∀ (s : FoldState) (progress : Bool) (last : Timestamp),
      (if progress then { s with lastProgressAt := last, observedProgress := true } else s).accountingFor direction
        = s.accountingFor direction := by
    intro s progress last
    cases progress <;> cases direction <;> rfl
  have hlast : ∀ (s : FoldState) (late : Bool), (if late then s.note .IncompleteEvidence else s).accountingFor direction
      = s.accountingFor direction := by
    intro s late
    cases late with
    | false => rfl
    | true => exact hnote s _
  unfold FoldState.counter Observation.observed Observation.reading
  simp only [count]
  rw [hlast, hprogress, accountingFor_setAccounting]
  by_cases hsame : obs.direction.account = direction.account
  · have haccounting : s.accountingFor obs.direction = s.accountingFor direction := by
      rw [← accountingFor_account s obs.direction, hsame, accountingFor_account]
    rw [if_pos hsame, if_pos hsame, haccounting]
    cases metric <;> exact accumulator_applyCounter _ _ _ _ _
  · rw [if_neg hsame, if_neg hsame, hopt, hopt, hopt]
    rfl

/-- The late branch: the intervals may end, and nothing else of the accounting changes. -/
theorem applyObservation_late (hd : s.declared = true) : applyObservation policy s obs
    = { fence (rollUp s obs) obs policy with
        afterTerminalObservations := (fence (rollUp s obs) obs policy).afterTerminalObservations + 1 } := by
  have hdeclared : (fence (rollUp s obs) obs policy).declared = true := by
    unfold FoldState.declared
    rw [declaredTerminal_fence]
    exact hd
  unfold applyObservation
  exact if_pos hdeclared

/-- **What an observation does to a counter**: it may end the interval, and unless it is late its reading is observed.
-/
theorem counter_applyObservation : (applyObservation policy s obs).counter direction metric
    = (s.counter direction metric).calls policy.treatRegressionAsReset
        (gap s.mark obs.canonicalKey ++ if s.declared then [] else obs.observed direction metric) := by
  have hfence : (fence (rollUp s obs) obs policy).counter direction metric
      = (s.counter direction metric).calls policy.treatRegressionAsReset (gap s.mark obs.canonicalKey) := by
    unfold FoldState.counter gap
    rw [accountingFor_fence]
    cases s.mark.interrupts obs.canonicalKey <;> cases metric <;> rfl
  have hcalls : ∀ (a : CounterAccumulator) (restart : Bool) (l l' : List (Option UInt64)),
      a.calls restart (l ++ l') = (a.calls restart l).calls restart l' := fun _ _ _ _ => List.foldl_append
  rw [hcalls, ← hfence]
  cases hd : s.declared with
  | true =>
    rw [applyObservation_late policy s obs hd]
    cases direction <;> rfl
  | false =>
    have hopen : (fence (rollUp s obs) obs policy).declared = false := by
      unfold FoldState.declared at hd ⊢
      rw [declaredTerminal_fence]
      exact hd
    unfold applyObservation
    generalize fence (rollUp s obs) obs policy = t at hopen ⊢
    have hcorrelate : (correlate (declare (cover t obs) obs) obs).accountingFor direction = t.accountingFor direction :=
      accountingFor_correlate direction
    simp only [hopen, Bool.false_eq_true, if_false]
    rw [counter_count]
    unfold FoldState.counter
    rw [hcorrelate]

end Step

/-! ## After a declared terminal -/

/-- Somewhere along a list of observations the intervals of a fold that stands at `mark` end. -/
def interruptedBy : CanonicalKey → List Observation → Bool
  | _, [] => false
  | mark, obs :: later => mark.interrupts obs.canonicalKey || interruptedBy obs.canonicalKey later

/-- No counter of a direction has a reading in the interval that is open. -/
def DirectionalAccounting.Unread (d : DirectionalAccounting) : Prop :=
  ∀ metric, (d.counter metric).baseline = none ∧ (d.counter metric).last = none

/-- What is as it was at the terminal: accounting, coverage and the declaration. -/
structure FoldState.Frozen (s s' : FoldState) : Prop where
  forward : s'.forward = s.forward
  reverse : s'.reverse = s.reverse
  aggregate : s'.aggregate = s.aggregate
  coverage : s'.coverage = s.coverage
  declaredTerminal : s'.declaredTerminal = s.declaredTerminal
  declaredCause : s'.declaredCause = s.declaredCause

/-- The interval of an accounting ends without a trace when nothing was read in it. -/
theorem breakInterval_eq_self {d : DirectionalAccounting} : d.breakInterval = d ↔ d.Unread := by
  have hone : ∀ a : CounterAccumulator, a.startNewInterval none = a ↔ a.baseline = none ∧ a.last = none := by
    rintro ⟨baseline, last, _, unknown, _, _⟩
    cases baseline <;> cases last <;> simp [CounterAccumulator.startNewInterval]
  constructor
  · intro h metric
    have hmetric := congrArg (DirectionalAccounting.counter · metric) h
    cases metric <;> exact (hone _).1 hmetric
  · intro h
    have hb := (hone _).2 (h .Bytes)
    have hp := (hone _).2 (h .Packets)
    have hr := (hone _).2 (h .Retransmissions)
    simp only [DirectionalAccounting.counter] at hb hp hr
    unfold DirectionalAccounting.breakInterval
    rw [hb, hp, hr]

theorem breakInterval_breakInterval (d : DirectionalAccounting) : d.breakInterval.breakInterval = d.breakInterval := by
  rw [breakInterval_eq_self]
  intro metric
  cases metric <;> exact ⟨rfl, rfl⟩

section Late

variable (policy : CounterPolicy) (direction : Direction) (later : List Observation) {s : FoldState}
    (hd : s.declared = true)

include hd

/-- Late observations keep coverage and declaration, and are counted. -/
theorem late_frame : let s' := later.foldl (applyObservation policy) s
    s'.declared = true ∧ s'.coverage = s.coverage ∧ s'.declaredTerminal = s.declaredTerminal ∧
      s'.declaredCause = s.declaredCause ∧
      s'.afterTerminalObservations = s.afterTerminalObservations + UInt32.ofNat later.length := by
  induction later generalizing s with
  | nil => simp [hd]
  | cons obs later ih =>
    have hframe : ∀ {α : Type} (field : FoldState → α), (∀ s kind, field (FoldState.note s kind) = field s) →
        (∀ s, field (FoldState.breakInterval s) = field s) →
        (∀ s incarnation epoch distinct, field { s with
          currentIncarnation := incarnation, currentEpoch := epoch, distinctIncarnations := distinct } = field s) →
        field (fence (rollUp s obs) obs policy) = field (rollUp s obs) :=
      fun field hnote hbreak hset => fence_frame policy (rollUp s obs) obs field hnote hbreak hset
    have hlate := applyObservation_late policy s obs hd
    have hfields : (fence (rollUp s obs) obs policy).coverage = s.coverage ∧
        (fence (rollUp s obs) obs policy).declaredTerminal = s.declaredTerminal ∧
        (fence (rollUp s obs) obs policy).declaredCause = s.declaredCause ∧
        (fence (rollUp s obs) obs policy).afterTerminalObservations = s.afterTerminalObservations :=
      ⟨hframe FoldState.coverage (fun _ _ => rfl) (fun _ => rfl) (fun _ _ _ _ => rfl),
        hframe FoldState.declaredTerminal (fun _ _ => rfl) (fun _ => rfl) (fun _ _ _ _ => rfl),
        hframe FoldState.declaredCause (fun _ _ => rfl) (fun _ => rfl) (fun _ _ _ _ => rfl),
        hframe FoldState.afterTerminalObservations (fun _ _ => rfl) (fun _ => rfl) (fun _ _ _ _ => rfl)⟩
    have hdeclared : (applyObservation policy s obs).declared = true := by
      rw [declared_applyObservation, hd, Bool.true_or]
    obtain ⟨hdone, hcoverage, hterminal, hcause, hcount⟩ := ih hdeclared
    rw [List.foldl_cons]
    refine ⟨hdone, hcoverage.trans ?_, hterminal.trans ?_, hcause.trans ?_, hcount.trans ?_⟩
    · rw [hlate]
      exact hfields.1
    · rw [hlate]
      exact hfields.2.1
    · rw [hlate]
      exact hfields.2.2.1
    · rw [hlate, List.length_cons, Nat.add_comm, UInt32.ofNat_add, ← UInt32.add_assoc]
      exact congrArg (· + 1 + UInt32.ofNat later.length) hfields.2.2.2

/-- **What late observations do to the accounting**: they end its intervals, once, if they interrupt them. -/
theorem accounting_late : (later.foldl (applyObservation policy) s).accountingFor direction
    = if interruptedBy s.mark later then (s.accountingFor direction).breakInterval else s.accountingFor direction := by
  have hmark : ∀ (mark mark' : CanonicalKey) (later : List Observation), mark.incarnation = mark'.incarnation →
      mark.epoch = mark'.epoch → interruptedBy mark later = interruptedBy mark' later := by
    intro mark mark' later hincarnation hepoch
    cases later <;> simp [interruptedBy, CanonicalKey.interrupts, hincarnation, hepoch]
  induction later generalizing s with
  | nil => rfl
  | cons obs later ih =>
    have hdeclared : (applyObservation policy s obs).declared = true := by
      rw [declared_applyObservation, hd, Bool.true_or]
    have hone : (applyObservation policy s obs).accountingFor direction
        = if s.mark.interrupts obs.canonicalKey then (s.accountingFor direction).breakInterval
          else s.accountingFor direction := by
      rw [← accountingFor_fence policy s obs direction, applyObservation_late policy s obs hd]
      cases direction <;> rfl
    have hafter : interruptedBy (applyObservation policy s obs).mark later = interruptedBy obs.canonicalKey later := by
      rw [mark_applyObservation]
      exact hmark _ _ later rfl rfl
    rw [List.foldl_cons, ih hdeclared, hafter, hone, interruptedBy]
    cases s.mark.interrupts obs.canonicalKey <;> cases interruptedBy obs.canonicalKey later <;>
      simp [breakInterval_breakInterval]

/-- **When accounting freezes at a declared terminal**: exactly when no later observation comes from another
incarnation or epoch than the one before it, or nothing was read in the intervals that it would end. -/
theorem freezes_iff : let s' : FoldState := later.foldl (applyObservation policy) s
    (s.Frozen s' ∧ s'.afterTerminalObservations = s.afterTerminalObservations + UInt32.ofNat later.length) ↔
      (interruptedBy s.mark later = false ∨ s.forward.Unread ∧ s.reverse.Unread ∧ s.aggregate.Unread) := by
  intro s'
  obtain ⟨-, hcoverage, hterminal, hcause, hcount⟩ := late_frame policy later hd
  have hforward := accounting_late policy .Forward later hd
  have hreverse := accounting_late policy .Reverse later hd
  have haggregate := accounting_late policy .Aggregate later hd
  simp only [FoldState.accountingFor] at hforward hreverse haggregate
  cases hinterrupted : interruptedBy s.mark later with
  | false =>
    rw [hinterrupted] at hforward hreverse haggregate
    exact ⟨fun _ => .inl rfl, fun _ => ⟨⟨hforward, hreverse, haggregate, hcoverage, hterminal, hcause⟩, hcount⟩⟩
  | true =>
    rw [hinterrupted, if_pos rfl] at hforward hreverse haggregate
    constructor
    · rintro ⟨⟨hf, hr, ha, -, -, -⟩, -⟩
      refine .inr ⟨breakInterval_eq_self.1 ?_, breakInterval_eq_self.1 ?_, breakInterval_eq_self.1 ?_⟩
      · exact hforward.symm.trans hf
      · exact hreverse.symm.trans hr
      · exact haggregate.symm.trans ha
    · rintro (hfalse | ⟨hf, hr, ha⟩)
      · cases hfalse
      · exact ⟨⟨hforward.trans (breakInterval_eq_self.2 hf), hreverse.trans (breakInterval_eq_self.2 hr),
          haggregate.trans (breakInterval_eq_self.2 ha), hcoverage, hterminal, hcause⟩, hcount⟩

end Late

/-- A fold of two readings, the second of which closes the flow. -/
def closedFold : FoldState :=
  [byteReading 1 10, { byteReading 2 25 with kind := .Close }].foldl (applyObservation {}) {}

/-- A reading after a restart of the source. -/
def restartedReading : Observation :=
  { byteReading 1 900 with key := { (byteReading 1 900).key with incarnation := ⟨2⟩ } }

theorem freezes_iff_closed : closedFold.Frozen ([byteReading 3 900].foldl (applyObservation {}) closedFold) ∧
    ([byteReading 3 900].foldl (applyObservation {}) closedFold).afterTerminalObservations
      = closedFold.afterTerminalObservations + UInt32.ofNat 1 :=
  (freezes_iff {} [byteReading 3 900] (by decide)).2 (.inl (by decide))

/-- **A restarted source thaws the accounting**: its late reading ends the interval, and one more is unknown. -/
theorem restart_after_terminal :
    ¬ ∀ (policy : CounterPolicy) (s : FoldState) (later : List Observation), s.declared = true →
    let s' := later.foldl (applyObservation policy) s
    s.Frozen s' ∧ s'.afterTerminalObservations = s.afterTerminalObservations + UInt32.ofNat later.length := by
  intro h
  obtain ⟨hfrozen, -⟩ := h {} closedFold [restartedReading] (by decide)
  have hunknown := congrArg DirectionalAccounting.unknownIntervals hfrozen.forward
  revert hunknown
  decide

/-! ## A further observation -/

section Calls

variable (direction : Direction) (metric : Metric)

/-- The calls of a counter along a list of observations, from a fold that stands at `mark`. -/
def callsOver : CanonicalKey → List Observation → List (Option UInt64)
  | _, [] => []
  | mark, obs :: entries => gap mark obs.canonicalKey ++ obs.observed direction metric ++
  callsOver obs.canonicalKey entries

variable {direction metric}

/-- Only the incarnation and the epoch of the mark matter. -/
theorem callsOver_mark {mark mark' : CanonicalKey} (entries : List Observation)
    (hincarnation : mark.incarnation = mark'.incarnation) (hepoch : mark.epoch = mark'.epoch) :
    callsOver direction metric mark entries = callsOver direction metric mark' entries := by
  cases entries <;> simp [callsOver, gap, CanonicalKey.interrupts, hincarnation, hepoch]

/-- **What a fold does to a counter** when no observation declares a terminal state. -/
theorem counter_foldl {policy : CounterPolicy} (entries : List Observation) {s : FoldState} (hd : s.declared = false)
    (hopen : ∀ o ∈ entries, o.kind.declares = none) :
    (entries.foldl (applyObservation policy) s).counter direction metric
      = (s.counter direction metric).calls policy.treatRegressionAsReset
        (callsOver direction metric s.mark entries) := by
  induction entries generalizing s with
  | nil => rfl
  | cons obs entries ih =>
    have hnext : (applyObservation policy s obs).declared = false := by
      rw [declared_applyObservation, hd, hopen obs List.mem_cons_self]
      rfl
    have hmark : callsOver direction metric (applyObservation policy s obs).mark entries
        = callsOver direction metric obs.canonicalKey entries := by
      rw [mark_applyObservation]
      exact callsOver_mark entries rfl rfl
    rw [List.foldl_cons, ih hnext (fun o ho => hopen o (List.mem_cons_of_mem _ ho)), hmark, counter_applyObservation,
      hd]
    simp [callsOver, CounterAccumulator.calls]

theorem callsOver_append (mark : CanonicalKey) (before : List Observation) (last : Observation)
    (after : List Observation) :
    callsOver direction metric mark (before ++ last :: after)
      = callsOver direction metric mark (before ++ [last]) ++ callsOver direction metric last.canonicalKey after := by
  induction before generalizing mark with
  | nil => simp [callsOver]
  | cons obs before ih => simp [callsOver, ih]

/-- From a valid incarnation, another incarnation and another epoch end the intervals alike. -/
theorem CanonicalKey.interrupts_eq_false {mark key : CanonicalKey} (hvalid : mark.incarnation.valid = true) :
    mark.interrupts key = false ↔ key.incarnation = mark.incarnation ∧ key.epoch = mark.epoch := by
  unfold interrupts
  rw [hvalid]
  by_cases hincarnation : key.incarnation = mark.incarnation <;> simp [hincarnation]

open CounterAccumulator in
/-- Observing a reading more, or none, never lowers what is consumed. -/
theorem consumed_observed (obs : Observation) (l l' : List (Option UInt64)) :
    consumed true (readings (l ++ l')) ≤ consumed true (readings (l ++ obs.observed direction metric ++ l')) := by
  unfold Observation.observed
  cases obs.reading direction metric with
  | none => simp
  | some value => simpa using consumed_insert value.toNat (readings l) (readings l')

open CounterAccumulator in
/-- An interval that ends before the first reading consumes nothing. -/
theorem consumed_gap (mark key : CanonicalKey) (l : List (Option UInt64)) :
    consumed true (readings (gap mark key ++ l)) = consumed true (readings l) := by
  unfold gap
  split <;> simp

open CounterAccumulator in
theorem consumed_append_gap (mark key : CanonicalKey) (l : List (Option UInt64)) :
    consumed true (readings (l ++ gap mark key)) = consumed true (readings l) := by
  unfold gap
  split <;> simp [consumed_append_none]

open CounterAccumulator in
/-- **A further observation never lowers what is consumed.** It stands in an interval that was there, or apart from
all. -/
theorem consumed_callsOver_insert {before after : List Observation} {obs : Observation}
    (hascending : (before ++ obs :: after).Pairwise (fun a b => a.canonicalKey < b.canonicalKey))
    (hvalid : ∀ o ∈ before ++ obs :: after, o.key.incarnation.valid = true) :
    consumed true (readings (callsOver direction metric default (before ++ after)))
      ≤ consumed true (readings (callsOver direction metric default (before ++ obs :: after))) := by
  have hmore := fun past rest => @consumed_observed direction metric obs past rest
  rcases List.eq_nil_or_concat before with rfl | ⟨before, last, hlast⟩
  · have hstart : consumed true (readings (callsOver direction metric default after))
        = consumed true (readings (callsOver direction metric obs.canonicalKey after)) := by
      cases after with
      | nil => rfl
      | cons first rest => simp only [callsOver, List.append_assoc, consumed_gap]
    simp only [List.nil_append, callsOver, List.append_assoc, consumed_gap]
    rw [hstart]
    exact hmore [] _
  · rw [List.concat_eq_append] at hlast
    subst hlast
    simp only [List.append_assoc, List.singleton_append] at hascending ⊢
    rw [callsOver_append, callsOver_append default before last (obs :: after)]
    generalize callsOver direction metric default (before ++ [last]) = past
    have hends := (List.pairwise_append.1 hascending).2.1
    have hlt : last.canonicalKey < obs.canonicalKey := (List.pairwise_cons.1 hends).1 obs (by simp)
    cases after with
    | nil =>
      have hlonger := hmore (past ++ gap last.canonicalKey obs.canonicalKey) []
      rw [List.append_nil, consumed_append_gap] at hlonger
      simpa [callsOver] using hlonger
    | cons next after =>
      have hlt' : obs.canonicalKey < next.canonicalKey :=
        (List.pairwise_cons.1 (List.pairwise_cons.1 hends).2).1 next (by simp)
      have hmark : last.canonicalKey.incarnation.valid = true := hvalid last (by simp)
      have hobs : obs.canonicalKey.incarnation.valid = true := hvalid obs (by simp)
      have hle := CanonicalKey.interval_le hlt
      have hle' := CanonicalKey.interval_le hlt'
      simp only [callsOver, List.append_assoc]
      generalize next.observed direction metric ++ callsOver direction metric next.canonicalKey after = rest
      cases hfirst : last.canonicalKey.interrupts obs.canonicalKey with
      | false =>
        -- in the interval of the one before it
        obtain ⟨hincarnation, hepoch⟩ := (CanonicalKey.interrupts_eq_false hmark).1 hfirst
        have hsame : obs.canonicalKey.interrupts next.canonicalKey =
            last.canonicalKey.interrupts next.canonicalKey := by
          unfold CanonicalKey.interrupts
          rw [hincarnation, hepoch]
        have hgap : gap obs.canonicalKey next.canonicalKey = gap last.canonicalKey next.canonicalKey := by
          unfold gap
          rw [hsame]
        have hnone : gap last.canonicalKey obs.canonicalKey = [] := by
          unfold gap
          rw [hfirst]
          rfl
        rw [hgap, hnone]
        simpa using hmore past (gap last.canonicalKey next.canonicalKey ++ rest)
      | true =>
        have hapart : gap last.canonicalKey obs.canonicalKey = [none] := by
          unfold gap
          rw [hfirst]
          rfl
        have hnot : ¬ (obs.canonicalKey.incarnation = last.canonicalKey.incarnation ∧
            obs.canonicalKey.epoch = last.canonicalKey.epoch) := by
          rw [← CanonicalKey.interrupts_eq_false hmark, hfirst]
          simp
        have hfar : gap last.canonicalKey next.canonicalKey = [none] := by
          unfold gap
          rw [if_pos]
          rw [← Bool.not_eq_false, CanonicalKey.interrupts_eq_false hmark]
          rintro ⟨hincarnation, hepoch⟩
          grind
        rw [hapart, hfar]
        cases hsecond : obs.canonicalKey.interrupts next.canonicalKey with
        | false =>
          -- in the interval of the one after it
          have hnone : gap obs.canonicalKey next.canonicalKey = [] := by
            unfold gap
            rw [hsecond]
            rfl
          have hlonger := hmore (past ++ [none]) rest
          simpa [hnone] using hlonger
        | true =>
          -- in an interval of its own
          have halone : gap obs.canonicalKey next.canonicalKey = [none] := by
            unfold gap
            rw [hsecond]
            rfl
          have hlonger := hmore (past ++ [none]) ([none] ++ rest)
          simpa [halone, consumed_none_none] using hlonger

end Calls

/-! ## Totals and evidence -/

section Totals

variable {policy : CounterPolicy} (direction : Direction) (metric : Metric)

/-- **A counter of the fold of evidence** that declares no terminal state: what it accumulates is what is consumed
along it. -/
theorem tallies_foldl {entries : List Observation} (hopen : ∀ o ∈ entries, o.kind.declares = none) :
    ((entries.foldl (applyObservation policy) {}).counter direction metric).Tallies
      (consumed policy.treatRegressionAsReset
        (CounterAccumulator.readings (callsOver direction metric default entries))) := by
  have hstart : ({} : FoldState).counter direction metric = {} := by
    cases direction <;> cases metric <;> rfl
  have hmark : ({} : FoldState).mark = default := rfl
  rw [counter_foldl entries rfl hopen, hstart, hmark]
  obtain ⟨-, htallies, -⟩ := CounterAccumulator.calls_tallies policy.treatRegressionAsReset
    (callsOver direction metric default entries) (a := {}) 0 rfl ⟨rfl, by simp⟩
  simpa using htallies

/-- The total over an ascending list does not decrease when an observation is put in its place. -/
theorem accumulated_insert (hreset : policy.treatRegressionAsReset = true) {before after : List Observation}
    {obs : Observation}
    (hascending : (before ++ obs :: after).Pairwise (fun a b => a.canonicalKey < b.canonicalKey))
    (hvalid : ∀ o ∈ before ++ obs :: after, o.key.incarnation.valid = true)
    (hopen : ∀ o ∈ before ++ obs :: after, o.kind.declares = none) :
    (((before ++ after).foldl (applyObservation policy) {}).counter direction metric).accumulated
      ≤ (((before ++ obs :: after).foldl (applyObservation policy) {}).counter direction metric).accumulated := by
  have hfewer : ∀ o ∈ before ++ after, o.kind.declares = none := by
    intro o ho
    refine hopen o ?_
    simp only [List.mem_append, List.mem_cons] at ho ⊢
    exact ho.imp id .inr
  have hbefore := (@tallies_foldl policy direction metric _ hfewer).accumulated
  have hafter := (@tallies_foldl policy direction metric _ hopen).accumulated
  have hmore := @consumed_callsOver_insert direction metric _ _ _ hascending hvalid
  rw [hreset] at hbefore hafter
  rw [UInt64.le_iff_toNat_le, hbefore, hafter]
  omega

/-- Two ascending lists, one of which has one element more, differ by an insertion. -/
theorem split_of_perm {l l' : List Observation} {obs : Observation} (h : l'.Perm (obs :: l))
    (hl : l.Pairwise (fun a b => a.canonicalKey < b.canonicalKey))
    (hl' : l'.Pairwise (fun a b => a.canonicalKey < b.canonicalKey)) :
    ∃ before after, l = before ++ after ∧ l' = before ++ obs :: after := by
  obtain ⟨before, after, rfl⟩ := List.append_of_mem (h.mem_iff.2 List.mem_cons_self)
  refine ⟨before, after, ?_, rfl⟩
  have hperm : (before ++ after).Perm l := (List.perm_cons obs).1 (List.perm_middle.symm.trans h)
  have hsorted : (before ++ after).Pairwise (fun a b => a.canonicalKey < b.canonicalKey) :=
    hl'.sublist ((List.Sublist.refl _).append (List.sublist_cons_self _ _))
  have hanti : ∀ a b, a ∈ l → b ∈ before ++ after → a.canonicalKey < b.canonicalKey → b.canonicalKey < a.canonicalKey →
      a = b :=
    fun a b _ _ hab hba => absurd (lt_trans hab hba) (lt_irrefl _)
  exact List.Perm.eq_of_pairwise hanti hl hsorted hperm.symm

/-- **Evidence never lowers a total.** If a regression restarts a counter, and no observation closes or resets the
flow, a further observation with a key of its own leaves every total of the fold of a set of observations where it was
or raises it, wherever it stands in the canonical order. So does an observation that a ledger accepts, however many
entries the ledger folded out. Every observation names an incarnation, as `validate_observation` requires. -/
theorem evidence_never_lowers_totals (hreset : policy.treatRegressionAsReset = true) (arrivals : List Observation)
    (obs : Observation) (hopen : ∀ o ∈ obs :: arrivals, o.kind ≠ .Close ∧ o.kind ≠ .Reset)
    (hvalid : ∀ o ∈ obs :: arrivals, o.key.incarnation.valid = true) :
    (∀ evidence : SortedVec Observation.canonicalKey, (∀ o ∈ evidence.toList, o ∈ arrivals) →
      evidence.find? obs.canonicalKey = none →
      ((evidence.toList.foldl (applyObservation policy) {}).counter direction metric).accumulated
        ≤ (((evidence.set obs).toList.foldl (applyObservation policy) {}).counter direction metric).accumulated) ∧
    ∀ (source : SourceId) (generation : FlowGeneration) (capacity : Nat), arrivals.length < 2 ^ 32 →
      let l := SourceLedger.filled source generation policy arrivals capacity
      (l.insert obs).2.kind = .Accepted →
        ((l.foldAll policy).counter direction metric).accumulated
          ≤ (((l.insert obs).1.foldAll policy).counter direction metric).accumulated := by
  have hdeclares : ∀ o ∈ obs :: arrivals, o.kind.declares = none := by
    intro o ho
    obtain ⟨hclose, hreset⟩ := hopen o ho
    unfold ObservationKind.declares
    split <;> simp_all
  have hgrows : ∀ {l l' : List Observation}, l'.Perm (obs :: l) → (∀ o ∈ l, o ∈ arrivals) →
      l.Pairwise (fun a b => a.canonicalKey < b.canonicalKey) →
      l'.Pairwise (fun a b => a.canonicalKey < b.canonicalKey) →
      ((l.foldl (applyObservation policy) {}).counter direction metric).accumulated
        ≤ ((l'.foldl (applyObservation policy) {}).counter direction metric).accumulated := by
    intro l l' hperm hfrom hl hl'
    obtain ⟨before, after, rfl, rfl⟩ := split_of_perm hperm hl hl'
    have hall : ∀ o ∈ before ++ obs :: after, o ∈ obs :: arrivals := by
      intro o ho
      rcases List.mem_cons.1 (hperm.mem_iff.1 ho) with rfl | ho
      · exact List.mem_cons_self
      · exact List.mem_cons_of_mem _ (hfrom o ho)
    exact accumulated_insert direction metric hreset hl' (fun o ho => hvalid o (hall o ho))
      (fun o ho => hdeclares o (hall o ho))
  constructor
  · intro evidence hfrom hnew
    exact hgrows (SortedVec.perm_set hnew) hfrom evidence.sorted (evidence.set obs).sorted
  · intro source generation capacity hfew l hkind
    obtain ⟨hholds, hlength, hfrom⟩ := SourceLedger.holds_filled source generation policy capacity hfew
    rw [List.length_append] at hlength
    have hgrew := hholds.insert (by omega) obs
    have hpolicy : l.counterPolicy = policy := (insertAll_source _ arrivals).2.2.1
    have hpolicy' : (l.insert obs).1.counterPolicy = policy := (l.insert_source obs).2.2.1.trans hpolicy
    have hfold := hholds.unmark_foldAll
    have hfold' := hgrew.holds.unmark_foldAll
    rw [show SourceLedger.filled source generation policy arrivals capacity = l from rfl] at hfold hfold'
    rw [hpolicy] at hfold
    rw [hpolicy'] at hfold'
    have hunmarked : ∀ s : FoldState, s.counter direction metric = s.unmark.counter direction metric := by
      intro s
      cases direction <;> rfl
    rw [hunmarked (l.foldAll policy), hfold, hunmarked ((l.insert obs).1.foldAll policy), hfold', ← hunmarked,
      ← hunmarked]
    exact hgrows (hgrew.accepted hkind) hfrom hholds.ascending hgrew.holds.ascending

end Totals

theorem evidence_never_lowers_totals_readings :
    let l := SourceLedger.filled ⟨1⟩ ⟨⟨7⟩, ⟨1⟩⟩ {} [byteReading 1 10, byteReading 3 20] 2
    ((l.foldAll {}).counter .Forward .Bytes).accumulated
      ≤ (((l.insert (byteReading 2 5)).1.foldAll {}).counter .Forward .Bytes).accumulated :=
  (evidence_never_lowers_totals .Forward .Bytes rfl [byteReading 1 10, byteReading 3 20] (byteReading 2 5) (by decide)
    (by decide)).2 ⟨1⟩ ⟨⟨7⟩, ⟨1⟩⟩ 2 (by decide) (by decide)

end FlowObs
