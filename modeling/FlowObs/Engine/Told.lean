import FlowObs.Capacity
import FlowObs.Decision
import FlowObs.Engine.Recovery

/-!
# What a source has told

Of the evidence that a source gives, a fold keeps a declaration and the directions it covers, and a restart carries
both on. They come from the observations that were taken, in the order they were folded (`FoldState.told`,
`Tracked.told`):

- the declaration is that of the first observation that makes one, whatever its evidence is worth (`foldl_tell`);
- a direction is covered completely when one complete observation of it was counted, however old it is.

So a completion may rest on a close without complete evidence (`completion_backed_iff`), and a two-sided visibility on
one direction that was last seen long ago (`twoSided_fresh_iff`).
-/

namespace FlowObs

/-! ## Telling -/

/-- What an observation adds to the coverage of its source. -/
def Coverage.take (c : Coverage) (obs : Observation) : Coverage :=
  match obs.direction with
  | .Forward => if obs.evidence ==
    .Complete then { c with forwardComplete := true } else { c with forwardPartial := true }
  | .Reverse => if obs.evidence ==
    .Complete then { c with reverseComplete := true } else { c with reversePartial := true }
  | .Aggregate | .Unspecified => c

/-- The declaration and the coverage after one more observation. A declaration of a terminal state ends the telling. -/
def tell (told : Option FlowState × Coverage) (obs : Observation) : Option FlowState × Coverage :=
  if told.1.any isTerminal then told else (obs.kind.declares.or told.1, told.2.take obs)

/-- The declaration and the coverage of a fold. -/
def FoldState.told (s : FoldState) : Option FlowState × Coverage := (s.declaredTerminal, s.coverage)

/-- A fold over an observation tells what the observation adds. -/
theorem told_applyObservation (policy : CounterPolicy) (s : FoldState) (obs : Observation) :
    (applyObservation policy s obs).told = tell s.told obs := by
  have hdeclared := declaredTerminal_applyObservation policy s obs
  have hfence : (fence (rollUp s obs) obs policy).coverage = s.coverage :=
    fence_frame policy (rollUp s obs) obs FoldState.coverage (fun _ _ => rfl) (fun _ => rfl) (fun _ _ _ _ => rfl)
  have hsame : (fence (rollUp s obs) obs policy).declared = s.declared := by
    unfold FoldState.declared
    rw [declaredTerminal_fence]
  have hcovered : (applyObservation policy s obs).coverage =
      if s.declared then s.coverage else s.coverage.take obs := by
    unfold applyObservation
    generalize fence (rollUp s obs) obs policy = t at hfence hsame
    rw [← hsame, ← hfence]
    by_cases hd : t.declared = true
    · rw [if_pos hd, if_pos hd]
    · rw [if_neg hd, if_neg hd,
        count_frame policy _ obs FoldState.coverage (fun _ _ => rfl) (fun _ _ d => by cases d <;> rfl) (fun _ _ => rfl)]
      have hdeclare : (declare (cover t obs) obs).coverage = (cover t obs).coverage := by
        unfold declare
        cases obs.kind <;> rfl
      have hcorrelate : ∀ s : FoldState, (correlate s obs).coverage = s.coverage := fun _ => rfl
      rw [hcorrelate, hdeclare]
      unfold cover Coverage.take
      cases obs.evidence == .Complete <;> cases obs.direction <;> rfl
  have htell : tell s.told obs =
      if s.declared then s.told else (obs.kind.declares.or s.declaredTerminal, s.coverage.take obs) := rfl
  have htold : (applyObservation policy s obs).told
      = ((applyObservation policy s obs).declaredTerminal, (applyObservation policy s obs).coverage) := rfl
  rw [htell, htold, hdeclared, hcovered]
  by_cases hd : s.declared = true
  · rw [if_pos hd, if_pos hd, if_pos hd]
    rfl
  · rw [if_neg hd, if_neg hd, if_neg hd]

theorem told_unmark (s : FoldState) : s.unmark.told = s.told := rfl

theorem told_foldMark (s : FoldState) (key : CanonicalKey) : (s.foldMark key).told = s.told := by
  rw [← told_unmark, unmark_foldMark, told_unmark]

theorem told_foldEntry (policy : CounterPolicy) (s : FoldState) (obs : Observation) :
    (SourceLedger.foldEntry policy s obs).told = tell s.told obs := by
  have hentry : (SourceLedger.foldEntry policy s obs).told =
      ((applyObservation policy s obs).foldMark obs.canonicalKey).told := rfl
  rw [hentry, told_foldMark, told_applyObservation]

/-- A fold whose steps tell what the observations add tells what they add in turn. -/
theorem told_foldl {step : FoldState → Observation → FoldState} (h : ∀ s obs, (step s obs).told = tell s.told obs)
    (entries : List Observation) (s : FoldState) : (entries.foldl step s).told = entries.foldl tell s.told := by
  induction entries generalizing s with
  | nil => rfl
  | cons obs entries ih => rw [List.foldl_cons, ih, h, List.foldl_cons]

/-- What a ledger persists tells what the ledger does. -/
theorem told_foldedState (l : SourceLedger) : l.foldedState.told = l.entries.toList.foldl tell l.prefixState.told := by
  have hunmarked := unmark_foldedState l
  rw [← told_unmark, ← hunmarked, told_unmark]
  exact told_foldl (told_applyObservation l.counterPolicy) l.entries.toList l.prefixState.toFoldState

/-! ## What is told of a sequence -/

/-- The first observation of a sequence that declares a terminal state. -/
def declaring (taken : List Observation) : Option Observation := taken.find? (·.kind.declares.isSome)

/-- An observation completely covers a direction. -/
def Observation.covers (obs : Observation) (direction : Direction) : Bool :=
  obs.direction == direction && obs.evidence == .Complete

theorem isTerminal_of_declares {kind : ObservationKind} {declared : FlowState} (h : kind.declares = some declared) :
    isTerminal declared = true := by
  cases kind <;> simp [ObservationKind.declares] at h <;> rw [← h] <;> rfl

/-- Nothing is told after a declaration. -/
theorem foldl_tell_declared {told : Option FlowState × Coverage} (h : told.1.any isTerminal = true)
    (taken : List Observation) : taken.foldl tell told = told := by
  induction taken with
  | nil => rfl
  | cons obs taken ih =>
    have hstep : tell told obs = told := if_pos h
    rw [List.foldl_cons, hstep, ih]

/-- **What a sequence tells**: the first declaration, and the coverage of what is counted. -/
theorem foldl_tell (taken : List Observation) (c : Coverage) : taken.foldl tell (none, c)
    = ((declaring taken).bind (·.kind.declares), (counted taken).foldl Coverage.take c) := by
  induction taken generalizing c with
  | nil => rfl
  | cons obs taken ih =>
    have hstep : tell (none, c) obs = (obs.kind.declares, c.take obs) := by
      simp [tell]
    rw [List.foldl_cons, hstep, counted]
    cases hkind : obs.kind.declares with
    | none =>
      have hskip : declaring (obs :: taken) = declaring taken := List.find?_cons_of_neg (by simp [hkind])
      rw [ih, hskip]
      simp
    | some declared =>
      have hfirst : declaring (obs :: taken) = some obs := List.find?_cons_of_pos (by simp [hkind])
      have hterminal := isTerminal_of_declares hkind
      rw [foldl_tell_declared (by simp [hterminal]), hfirst]
      simp [hkind]

/-- A direction is covered completely when one counted observation covers it. -/
theorem foldl_take_complete (counted : List Observation) (c : Coverage) :
    (counted.foldl Coverage.take c).forwardComplete = (c.forwardComplete || counted.any (·.covers .Forward)) ∧
      (counted.foldl Coverage.take c).reverseComplete = (c.reverseComplete || counted.any (·.covers .Reverse)) := by
  induction counted generalizing c with
  | nil => simp
  | cons obs counted ih =>
    have hstep : (c.take obs).forwardComplete = (c.forwardComplete || obs.covers .Forward) ∧
        (c.take obs).reverseComplete = (c.reverseComplete || obs.covers .Reverse) := by
      unfold Coverage.take Observation.covers
      cases obs.direction <;> cases obs.evidence <;> simp
    obtain ⟨hforward, hreverse⟩ := ih (c.take obs)
    rw [List.foldl_cons, hforward, hreverse, hstep.1, hstep.2, List.any_cons, List.any_cons, Bool.or_assoc,
      Bool.or_assoc]
    exact ⟨rfl, rfl⟩

/-! ## Following a ledger -/

/-- What happens to the ledger of a source in a generation: an observation arrives, or a runtime ends and the next one
restores what it persisted. -/
inductive LedgerEvent
  | arrived (obs : Observation)
  | restarted (e : Engine) (limits : Limits)

/-- The ledger that is restored from what an engine persists of it. -/
def SourceLedger.restarted (l : SourceLedger) (e : Engine) (limits : Limits) : SourceLedger :=
  (restoreSource limits l.generation (e.persistSource { source := l.source, ledger := l })).ledger

/-- The entries that the insertion of an observation folds out. -/
def SourceLedger.foldedOut (l : SourceLedger) (obs : Observation) : List Observation :=
  if (l.insert obs).2.kind = .Accepted then
    (l.entries.set obs).toList.take ((l.entries.set obs).toList.length - l.capacity)
  else []

/-- A ledger, with the observations that were folded into its prefix, in the order they were. -/
structure Tracked where
  ledger : SourceLedger
  folded : List Observation

namespace Tracked

/-- A ledger that was configured. -/
def start (source : SourceId) (generation : FlowGeneration) (capacity : Nat) (policy : CounterPolicy) : Tracked :=
  ⟨(SourceLedger.configure source generation capacity).setCounterPolicy policy, []⟩

def step (t : Tracked) : LedgerEvent → Tracked
  | .arrived obs => ⟨(t.ledger.insert obs).1, t.folded ++ t.ledger.foldedOut obs⟩
  | .restarted e limits => ⟨t.ledger.restarted e limits, t.folded ++ t.ledger.entries.toList⟩

/-- The observations that were taken: the folded ones, and then those that are retained. -/
def taken (t : Tracked) : List Observation := t.folded ++ t.ledger.entries.toList

/-- The prefix tells what was folded into it. -/
def Told (t : Tracked) : Prop := t.ledger.prefixState.told = t.folded.foldl tell (none, {})

theorem told_start (source : SourceId) (generation : FlowGeneration) (capacity : Nat) (policy : CounterPolicy) :
    (start source generation capacity policy).Told := rfl

variable {t : Tracked}

theorem Told.step (h : t.Told) (event : LedgerEvent) : (t.step event).Told := by
  unfold Told at h ⊢
  cases event with
  | restarted e limits =>
    have hfloor : (t.step (.restarted e limits)).ledger.prefixState.told = t.ledger.foldedState.told := rfl
    have hfolded : (t.step (.restarted e limits)).folded = t.folded ++ t.ledger.entries.toList := rfl
    rw [hfloor, hfolded, told_foldedState, List.foldl_append, h]
  | arrived obs =>
    show (t.ledger.insert obs).1.prefixState.told = (t.folded ++ t.ledger.foldedOut obs).foldl tell (none, {})
    rw [List.foldl_append, ← h]
    unfold SourceLedger.foldedOut
    have hcases := t.ledger.insert_cases obs
    generalize (t.ledger.insert obs).1 = l' at hcases ⊢
    generalize (t.ledger.insert obs).2.kind = kind at hcases ⊢
    cases hcases with
    | accepted _ _ _ =>
      rw [if_pos rfl, SourceLedger.compactEntries_foldOut]
      exact told_foldl (told_foldEntry t.ledger.counterPolicy) _ t.ledger.prefixState.toFoldState
    | _ => rfl

theorem told_run (events : List LedgerEvent) (h : t.Told) : (events.foldl Tracked.step t).Told := by
  induction events generalizing t with
  | nil => exact h
  | cons event events ih => exact ih (h.step event)

/-- **A ledger tells what was taken**, through every compaction and restart. -/
theorem Told.told_foldAll (h : t.Told) (counters : CounterPolicy) :
    (t.ledger.foldAll counters).told = t.taken.foldl tell (none, {}) := by
  unfold SourceLedger.foldAll taken
  rw [told_foldl (told_applyObservation counters), List.foldl_append, ← h]

theorem source_run (events : List LedgerEvent) : (events.foldl Tracked.step t).ledger.source = t.ledger.source := by
  induction events generalizing t with
  | nil => rfl
  | cons event events ih =>
    refine ih.trans ?_
    cases event with
    | arrived obs => exact (t.ledger.insert_source obs).1
    | restarted e limits => rfl

end Tracked

/-! ## Contributions -/

/-- What a source gives to a generation: a ledger with all that happened to it, and the descriptor of the source. -/
structure Contribution where
  source : SourceId := default
  generation : FlowGeneration := {}
  capacity : Nat := 0
  ledgerPolicy : CounterPolicy := {}
  events : List LedgerEvent := []
  descriptor : SourceDescriptor := {}
  fromPreviousEpoch : Bool := false

namespace Contribution

variable (c : Contribution)

def tracked : Tracked := c.events.foldl Tracked.step (Tracked.start c.source c.generation c.capacity c.ledgerPolicy)

/-- The observations that were taken of the source, in the order they are folded. -/
def taken : List Observation := c.tracked.taken

/-- The view of the source at an instant. -/
def view (ctx : FreshnessContext) (counters : CounterPolicy) : SourceView :=
  foldSourceView c.tracked.ledger c.descriptor { ctx with fromPreviousEpoch := c.fromPreviousEpoch } counters

theorem told (counters : CounterPolicy) : (c.tracked.ledger.foldAll counters).told
    = ((declaring c.taken).bind (·.kind.declares), (counted c.taken).foldl Coverage.take {}) := by
  have htold : c.tracked.Told := Tracked.told_run c.events (Tracked.told_start _ _ _ _)
  exact (htold.told_foldAll counters).trans (foldl_tell c.taken {})

/-- **What the view of a source declares** is what the first observation that makes a declaration does. -/
theorem declaredTerminal_view (ctx : FreshnessContext) (counters : CounterPolicy) :
    (c.view ctx counters).declaredTerminal = (declaring c.taken).bind (·.kind.declares) := by
  have hview : (c.view ctx counters).declaredTerminal =
      (c.tracked.ledger.foldAll counters).told.1.filter isTerminal := rfl
  rw [hview, told]
  cases hdeclaring : declaring c.taken with
  | none => rfl
  | some obs =>
    cases hkind : obs.kind.declares with
    | none => simp [hkind]
    | some declared => simp [hkind, Option.filter, isTerminal_of_declares hkind]

/-- **What the view of a source covers completely** is what one counted observation does. -/
theorem coverage_view (ctx : FreshnessContext) (counters : CounterPolicy) :
    (c.view ctx counters).coverage.forwardComplete = (counted c.taken).any (·.covers .Forward) ∧
      (c.view ctx counters).coverage.reverseComplete = (counted c.taken).any (·.covers .Reverse) := by
  have hview : (c.view ctx counters).coverage = (c.tracked.ledger.foldAll counters).told.2 := rfl
  rw [hview, told]
  simpa using foldl_take_complete (counted c.taken) {}

/-- The terminal state that the source declares with its first declaration, where it is entitled to. -/
def declares : Option FlowState :=
  if c.descriptor.advisoryOnly then none
  else (declaring c.taken).bind fun obs =>
    match obs.kind with
    | .Close => if c.descriptor.capabilities.assertsCompletion then some .Completed else none
    | .Reset => if c.descriptor.capabilities.assertsReset then some .Reset else none
    | _ => none

/-- The view of a contribution honours what it declares. -/
theorem honoured_view (ctx : FreshnessContext) (counters : CounterPolicy) :
    honoured (c.view ctx counters) = c.declares := by
  unfold honoured declares
  rw [declaredTerminal_view]
  have hview : (c.view ctx counters).advisoryOnly = c.descriptor.advisoryOnly ∧
      (c.view ctx counters).capabilities = c.descriptor.capabilities := ⟨rfl, rfl⟩
  rw [hview.1, hview.2]
  cases declaring c.taken with
  | none => rfl
  | some obs =>
    rw [Option.bind_some, Option.bind_some]
    cases obs.kind <;> rfl

/-- The order in which a generation asks its sources: the greater authority first, and then the lower identity. -/
def before (a b : Contribution) : Bool :=
  if a.descriptor.authority ≠ b.descriptor.authority then b.descriptor.authority < a.descriptor.authority
  else a.source < b.source

theorem sourceViewLess_view (a b : Contribution) (ctx : FreshnessContext) (counters : CounterPolicy) :
    sourceViewLess (a.view ctx counters) (b.view ctx counters) = a.before b := by
  have hsource : ∀ c : Contribution, (c.view ctx counters).source = c.source := fun c =>
    Tracked.source_run (t := .start c.source c.generation c.capacity c.ledgerPolicy) c.events
  unfold sourceViewLess before
  rw [hsource, hsource]
  rfl

/-- The declaration of the first source that is entitled to one. -/
def firstDeclared (contributions : List Contribution) : Option FlowState :=
  (contributions.insertionSort (fun a b => !b.before a)).findSome? declares

theorem findSome?_listed (contributions : List Contribution) (ctx : FreshnessContext) (counters : CounterPolicy) :
    (listed (contributions.map (·.view ctx counters))).findSome? honoured = firstDeclared contributions := by
  have hsort := List.map_insertionSort (fun a b : Contribution => (!b.before a) = true)
    (fun a b : SourceView => (!sourceViewLess b a) = true) (fun c => retotal (c.view ctx counters)) contributions
    (fun a _ b _ => by rw [← sourceViewLess_view b a ctx counters]; rfl)
  have hlisted : listed (contributions.map (·.view ctx counters)) = (contributions.insertionSort
      (fun a b => !b.before a)).map (fun c => retotal (c.view ctx counters)) := by
    rw [listed, sortSourceViews, List.map_map, hsort]
    rfl
  rw [hlisted, List.findSome?_map, firstDeclared]
  exact congrArg (fun f => List.findSome? f _) (funext fun c => c.honoured_view ctx counters)

end Contribution

/-! ## Completion -/

/-- The source closes its generation on complete evidence: it is entitled to, and the observation that declares it is
a close whose evidence is complete. -/
def Contribution.ProvesCompletion (c : Contribution) : Prop :=
  c.declares = some .Completed ∧ ∃ obs, declaring c.taken = some obs ∧ obs.kind = .Close ∧ obs.evidence = .Complete

/-- The state that honouring a declaration decides. -/
theorem map_state_honour (previous : FlowState) (v : SourceView) :
    (honour previous v).map (·.state) = honoured v := by
  have hterminal : ∀ declared, honoured v = some declared → declared = .Completed ∨ declared = .Reset := by
    intro declared h
    unfold honoured at h
    split at h
    · cases h
    · split at h
      · split at h <;> cases h
        exact .inl rfl
      · split at h <;> cases h
        exact .inr rfl
      · cases h
  unfold honour
  cases hv : honoured v with
  | none => rfl
  | some declared =>
    rcases hterminal declared hv with rfl | rfl
    · rfl
    · rfl

theorem map_state_findSome? (previous : FlowState) (views : List SourceView) :
    (views.findSome? (honour previous)).map (·.state) = views.findSome? honoured := by
  induction views with
  | nil => rfl
  | cons v views ih =>
    rw [List.findSome?_cons, List.findSome?_cons, ← map_state_honour previous v]
    cases honour previous v with
    | none => exact ih
    | some d => rfl

section Completion

variable (flow : FlowId) (generation : GenerationId) (policy : ReconciliationPolicy) (isCurrent : Bool)
  (views : List SourceView) {previous : FlowState} (expiry : ExpiryPolicy) (ctx : FreshnessContext)

/-- **When a generation is decided completed**: when it is open and not in conflict, and the first declaration that is
honoured, in the order of authority, is a completion. -/
theorem completed_iff (hopen : isTerminal previous = false) :
    (decideGenerationState (reconcileGeneration flow generation views policy isCurrent) previous expiry ctx).state =
    .Completed ↔
      ¬ Conflicted policy views ∧ (listed views).findSome? honoured = some .Completed := by
  by_cases hconflict : Conflicted policy views
  · rw [state_of_conflict flow generation policy isCurrent views hconflict hopen expiry ctx]
    exact iff_of_false (by rintro ⟨⟩) fun h => h.1 hconflict
  have hcalm : ¬ (reconcileGeneration flow generation views policy isCurrent).unresolvedConflict = true :=
    fun h => hconflict ((unresolvedConflict_iff _ _ _ _ _).1 h)
  rw [and_iff_right hconflict, ← map_state_findSome? previous]
  have hsources : (reconcileGeneration flow generation views policy isCurrent).sources = listed views := rfl
  unfold decideGenerationState
  rw [if_neg (by rw [hopen]; exact Bool.false_ne_true), if_neg hcalm, hsources]
  cases (listed views).findSome? (honour previous) with
  | some d => simp
  | none =>
    refine iff_of_false (fun h => ?_) (by rintro ⟨⟩)
    -- without a declaration the state is not a completion
    simp only at h
    split at h
    · rw [state_decideUnusable] at h
      revert h hopen
      unfold fadedState
      cases previous <;> grind [isTerminal]
    · rw [state_decideUsable] at h
      revert h
      unfold liveState
      grind

end Completion

/-- **When a completion is backed by complete evidence.** The generation is not decided completed (it was closed
otherwise, is in conflict, or the first declaration of a source that is entitled to it is not a completion), or some
source proves the completion. -/
theorem completion_backed_iff (flow : FlowId) (generation : GenerationId) (policy : ReconciliationPolicy)
    (isCurrent : Bool)
    (contributions : List Contribution) (previous : FlowState) (expiry : ExpiryPolicy) (ctx : FreshnessContext)
    (counters : CounterPolicy) :
    let views : List SourceView := contributions.map (·.view ctx counters)
    let view := reconcileGeneration flow generation views policy isCurrent
    ((decideGenerationState view previous expiry ctx).state = .Completed → ∃ c ∈ contributions, c.ProvesCompletion) ↔
      (if isTerminal previous then previous ≠ .Completed
        else Conflicted policy views ∨ Contribution.firstDeclared contributions ≠ some .Completed) ∨
        ∃ c ∈ contributions, c.ProvesCompletion := by
  intro views view
  rw [← Contribution.findSome?_listed contributions ctx counters]
  have hdecided : (decideGenerationState view previous expiry ctx).state = .Completed ↔ ¬ (if isTerminal previous then
      previous ≠ .Completed else Conflicted policy views ∨ (listed views).findSome? honoured ≠ some .Completed) := by
    by_cases hopen : isTerminal previous = true
    · rw [if_pos hopen, not_not]
      unfold decideGenerationState
      rw [if_pos hopen]
      exact Iff.rfl
    · rw [if_neg hopen, completed_iff flow generation policy isCurrent views expiry ctx (Bool.eq_false_iff.2 hopen),
        not_or, not_not]
  rw [hdecided]
  exact or_iff_not_imp_left.symm

/-- A close whose evidence is incomplete, from the source 1. -/
def partialClose : Observation := { byteReading 1 10 with kind := .Close, evidence := .Incomplete }

/-- What a source gives that is entitled to close a generation. -/
def closes (events : List LedgerEvent) : Contribution :=
  { source := ⟨1⟩, generation := ⟨⟨7⟩, ⟨1⟩⟩, capacity := 4, events := events
    descriptor := { id := ⟨1⟩, capabilities := { assertsCompletion := true } } }

/-- **A close without complete evidence completes a generation.** -/
theorem completion_unbacked : ¬ ∀ (flow : FlowId) (generation : GenerationId) (policy : ReconciliationPolicy)
    (isCurrent : Bool)
    (contributions : List Contribution) (previous : FlowState) (expiry : ExpiryPolicy) (ctx : FreshnessContext)
    (counters : CounterPolicy), isTerminal previous = false →
    let view := reconcileGeneration flow generation (contributions.map (·.view ctx counters)) policy isCurrent
    (decideGenerationState view previous expiry ctx).state = .Completed → ∃ c ∈ contributions, c.ProvesCompletion := by
  intro h
  obtain ⟨c, hc, -, obs, hobs, -, hcomplete⟩ :=
    h ⟨7⟩ ⟨1⟩ {} true [closes [.arrived partialClose]] .Observed {} {} {} rfl
    (by decide)
  have hfirst : declaring (closes [.arrived partialClose]).taken = some partialClose := by decide
  rw [List.mem_singleton.1 hc, hfirst] at hobs
  cases hobs
  cases hcomplete

/-! ## Two-sided visibility -/

/-- A source that is not advisory gave a complete observation of a direction that is itself fresh. -/
def Contribution.FreshlyCovers (c : Contribution) (ctx : FreshnessContext) (direction : Direction) : Prop :=
  c.descriptor.advisoryOnly = false ∧ ∃ obs ∈ c.taken, obs.covers direction = true ∧
    classifyFreshness obs.observedAt obs.receivedAt { ctx with fromPreviousEpoch := false } = .Fresh

/-- Some usable source counted a complete observation of a direction. -/
def CountedIn (contributions : List Contribution) (ctx : FreshnessContext) (counters : CounterPolicy)
    (direction : Direction) :
    Prop :=
  ∃ c ∈ contributions, sourceIsUsable (c.view ctx counters) = true ∧ ∃ obs ∈ counted c.taken,
  obs.covers direction = true

/-- Sources cover a direction completely together when one of them does. -/
theorem foldl_accumulate_complete (views : List SourceView) (c : Coverage) :
    (views.foldl (fun c v => accumulateCoverage c v.coverage) c).forwardComplete
        = (c.forwardComplete || views.any (·.coverage.forwardComplete)) ∧
      (views.foldl (fun c v => accumulateCoverage c v.coverage) c).reverseComplete
        = (c.reverseComplete || views.any (·.coverage.reverseComplete)) := by
  induction views generalizing c with
  | nil => simp
  | cons v views ih =>
    obtain ⟨hforward, hreverse⟩ := ih (accumulateCoverage c v.coverage)
    rw [List.foldl_cons, hforward, hreverse, List.any_cons, List.any_cons]
    exact ⟨Bool.or_assoc _ _ _, Bool.or_assoc _ _ _⟩

theorem classify_twoSided (c : Coverage) :
    c.classify = .TwoSided ↔ c.forwardComplete = true ∧ c.reverseComplete = true := by
  unfold Coverage.classify Coverage.bidirectional
  cases c.forwardComplete <;> cases c.reverseComplete <;> cases c.any <;> decide

section Visibility

variable (flow : FlowId) (generation : GenerationId) (policy : ReconciliationPolicy) (isCurrent : Bool)

/-- **When visibility is two-sided**: when each direction is covered completely by some usable source. -/
theorem visibility_twoSided (views : List SourceView) :
    (reconcileGeneration flow generation views policy isCurrent).visibility = .TwoSided ↔
      (∃ v ∈ views.filter sourceIsUsable, v.coverage.forwardComplete = true) ∧
        ∃ v ∈ views.filter sourceIsUsable, v.coverage.reverseComplete = true := by
  have husable : (listed views).filter sourceIsUsable = listed (views.filter sourceIsUsable) :=
    filter_listed (fun _ => rfl) views
  have hvisibility : (reconcileGeneration flow generation views policy isCurrent).visibility
      = (((listed views).filter sourceIsUsable).foldl (fun c v => accumulateCoverage c v.coverage)
        ({} : Coverage)).classify := rfl
  obtain ⟨hforward, hreverse⟩ := foldl_accumulate_complete (listed (views.filter sourceIsUsable)) {}
  rw [hvisibility, husable, classify_twoSided, hforward, hreverse, any_listed _ (fun _ => rfl),
    any_listed _ (fun _ => rfl), Bool.false_or, Bool.false_or, List.any_eq_true, List.any_eq_true]

variable (contributions : List Contribution) (ctx : FreshnessContext) (counters : CounterPolicy)

theorem visibility_contributions :
    (reconcileGeneration flow generation (contributions.map (·.view ctx counters)) policy isCurrent).visibility =
    .TwoSided ↔
      CountedIn contributions ctx counters .Forward ∧ CountedIn contributions ctx counters .Reverse := by
  have hview : ∀ (field : Coverage → Bool) (direction : Direction),
      (∀ c : Contribution, field (c.view ctx counters).coverage = (counted c.taken).any (·.covers direction)) →
      ((∃ v ∈ (contributions.map (·.view ctx counters)).filter sourceIsUsable, field v.coverage = true) ↔
        CountedIn contributions ctx counters direction) := by
    intro field direction hfield
    constructor
    · rintro ⟨v, hv, hcovered⟩
      obtain ⟨hmem, husable⟩ := List.mem_filter.1 hv
      obtain ⟨c, hc, rfl⟩ := List.mem_map.1 hmem
      rw [hfield, List.any_eq_true] at hcovered
      exact ⟨c, hc, husable, hcovered⟩
    · rintro ⟨c, hc, husable, hcovered⟩
      rw [← List.any_eq_true, ← hfield] at hcovered
      exact ⟨_, List.mem_filter.2 ⟨List.mem_map.2 ⟨c, hc, rfl⟩, husable⟩, hcovered⟩
  rw [visibility_twoSided, hview Coverage.forwardComplete .Forward fun c => (c.coverage_view ctx counters).1,
    hview Coverage.reverseComplete .Reverse fun c => (c.coverage_view ctx counters).2]

/-- **When two-sided visibility is fresh on both sides.** Some direction has no complete observation that a usable
source counted, or both directions have a complete observation of a source that is not advisory and that is itself
fresh. -/
theorem twoSided_fresh_iff :
    let view : GenerationView := reconcileGeneration flow generation
      (contributions.map (·.view ctx counters)) policy isCurrent
    let fresh := (∃ c ∈ contributions, c.FreshlyCovers ctx .Forward) ∧ ∃ c ∈ contributions, c.FreshlyCovers ctx .Reverse
    (view.visibility = .TwoSided → fresh) ↔
      ¬ CountedIn contributions ctx counters .Forward ∨ ¬ CountedIn contributions ctx counters .Reverse ∨ fresh := by
  intro view fresh
  have hvisible : view.visibility = .TwoSided ↔ _ :=
    visibility_contributions flow generation policy isCurrent contributions ctx counters
  rw [hvisible, imp_iff_not_or, not_and_or, or_assoc]

end Visibility

/-- A complete reading of one direction, from the source 1. -/
def sideReading (direction : Direction) (revision : UInt64) (instant : Timestamp) : Observation :=
  { byteReading revision 10 with
    direction := direction, evidence := .Complete, observedAt := instant, receivedAt := instant }

/-- **Two-sided visibility rests on one fresh side.** The forward direction was last seen ten minutes ago. -/
theorem stale_side_visible : ¬ ∀ (flow : FlowId) (generation : GenerationId) (policy : ReconciliationPolicy)
    (isCurrent : Bool)
    (contributions : List Contribution) (ctx : FreshnessContext) (counters : CounterPolicy),
    let view := reconcileGeneration flow generation (contributions.map (·.view ctx counters)) policy isCurrent
    view.visibility = .TwoSided →
      (∃ c ∈ contributions, c.FreshlyCovers ctx .Forward) ∧ ∃ c ∈ contributions, c.FreshlyCovers ctx .Reverse := by
  intro h
  have hboth := h ⟨7⟩ ⟨1⟩ {} true [closes [.arrived (sideReading .Forward 1 ⟨1⟩),
    .arrived (sideReading .Reverse 2 ⟨600000000001⟩)]] { now := ⟨600000000001⟩ } {} (by decide)
  obtain ⟨⟨c, hc, -, obs, hobs, hcovers, hfresh⟩, -⟩ := hboth
  have htaken : (closes [.arrived (sideReading .Forward 1 ⟨1⟩), .arrived (sideReading .Reverse 2 ⟨600000000001⟩)]).taken
      = [sideReading .Forward 1 ⟨1⟩, sideReading .Reverse 2 ⟨600000000001⟩] := by decide
  rw [List.mem_singleton.1 hc, htaken] at hobs
  simp only [List.mem_cons, List.not_mem_nil, or_false] at hobs
  rcases hobs with rfl | rfl
  · revert hfresh
    decide
  · revert hcovers
    decide

end FlowObs
