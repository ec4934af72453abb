import FlowObs.Agreement

/-!
# What the lifecycle decision settles on

`decide_generation_state` reads the state last recorded. Decided again with its own answer, it answers the same, for
no cause or the same one (`decision_settles`): a terminal state is kept, a conflict and an honoured declaration do not
depend on the state, and of the rest only an idle flow and a first observation are told apart by it.

Not every `Active` is recent progress. Without a usable source `Active` is kept until a window is over, and with one
the progress of every source counts (`active_recent_iff`).
-/

namespace FlowObs

/-- What the lifecycle decision reads of a view. -/
theorem decide_congr {view view' : GenerationView} (hsources : view'.sources = view.sources)
    (hconflict : view'.unresolvedConflict = view.unresolvedConflict)
      (hdetail : view'.conflictDetail = view.conflictDetail)
    (hobserved : view'.lastObservedAt = view.lastObservedAt) (hprogress : view'.lastProgressAt = view.lastProgressAt)
    (previous : FlowState) (expiry : ExpiryPolicy) (ctx : FreshnessContext) :
    decideGenerationState view' previous expiry ctx = decideGenerationState view previous expiry ctx := by
  unfold decideGenerationState decideUnusable decideUsable
  rw [hsources, hconflict, hdetail, hobserved, hprogress]

/-! ## Deciding twice -/

theorem honour_state {previous : FlowState} {v : SourceView} {d : StateDecision} (h : honour previous v = some d) :
    isTerminal d.state = true := by
  unfold honour at h
  split at h
  · cases h
    rfl
  · cases h
    rfl
  · cases h

theorem honour_eq_none {previous : FlowState} {v : SourceView} : honour previous v = none ↔ honoured v = none := by
  unfold honour honoured
  cases v.advisoryOnly with
  | true => simp
  | false =>
    rcases v.declaredTerminal with _ | declared
    · simp
    · cases declared <;> cases v.capabilities.assertsCompletion <;> cases v.capabilities.assertsReset <;> simp

theorem findSome?_honour_eq_none {previous : FlowState} {views : List SourceView} :
    views.findSome? (honour previous) = none ↔ ∀ v ∈ views, honoured v = none := by
  rw [List.findSome?_eq_none_iff]
  exact forall₂_congr fun v _ => honour_eq_none

/-- The answer of a second decision is that of the first, for no cause or the same. -/
def StateDecision.Settled (first second : StateDecision) : Prop :=
  second.state = first.state ∧ (second.cause = .None ∨ second.cause = first.cause)

section Settled

variable (view : GenerationView) (previous : FlowState) (expiry : ExpiryPolicy) (reference : Timestamp)

theorem decideUnusable_settled : (decideUnusable view previous expiry reference).Settled
    (decideUnusable view (decideUnusable view previous expiry reference).state expiry reference) := by
  unfold decideUnusable StateDecision.Settled
  cases expiry.enabled <;> cases agedPast reference view.lastObservedAt expiry.expireAfter <;>
    cases view.sources.any (·.restoredFromJournal) <;> cases agedPast reference view.lastProgressAt expiry.idleAfter <;>
    cases previous <;> simp [finish]

/-- With a usable source the state last recorded does not matter. -/
theorem decideUsable_settled (usable : List SourceView) : (decideUsable view usable previous expiry reference).Settled
    (decideUsable view usable (decideUsable view usable previous expiry reference).state expiry reference) := by
  unfold decideUsable
  simp only
  split
  · exact ⟨rfl, .inr rfl⟩
  · split
    · exact ⟨rfl, .inr rfl⟩
    · exact ⟨rfl, .inr rfl⟩

/-- **The lifecycle decision settles at once.** -/
theorem decision_settles (ctx : FreshnessContext) : (decideGenerationState view previous expiry ctx).Settled
    (decideGenerationState view (decideGenerationState view previous expiry ctx).state expiry ctx) := by
  have hterminal : ∀ {d : StateDecision}, isTerminal d.state = true →
      d.Settled (decideGenerationState view d.state expiry ctx) := by
    intro d hd
    unfold decideGenerationState
    rw [if_pos hd]
    exact ⟨rfl, .inl rfl⟩
  generalize hfirst : decideGenerationState view previous expiry ctx = first
  by_cases hdone : isTerminal first.state = true
  · exact hterminal hdone
  unfold decideGenerationState at hfirst ⊢
  rw [if_neg hdone]
  by_cases hprevious : isTerminal previous = true
  · rw [if_pos hprevious] at hfirst
    rw [← hfirst] at hdone
    exact absurd hprevious hdone
  rw [if_neg hprevious] at hfirst
  by_cases hconflict : view.unresolvedConflict = true
  · rw [if_pos hconflict] at hfirst ⊢
    rw [← hfirst]
    exact ⟨rfl, .inr rfl⟩
  rw [if_neg hconflict] at hfirst ⊢
  cases hfind : view.sources.findSome? (honour previous) with
  | some d =>
    rw [hfind] at hfirst
    obtain ⟨v, -, hv⟩ := List.exists_of_findSome?_eq_some hfind
    rw [← hfirst] at hdone
    exact absurd (honour_state hv) hdone
  | none =>
    rw [hfind] at hfirst
    rw [findSome?_honour_eq_none.2 (findSome?_honour_eq_none.1 hfind)]
    simp only at hfirst ⊢
    by_cases hempty : (view.sources.filter sourceIsUsable).isEmpty = true
    · rw [if_pos hempty] at hfirst ⊢
      rw [← hfirst]
      exact decideUnusable_settled view previous expiry ctx.now
    · rw [if_neg hempty] at hfirst ⊢
      rw [← hfirst]
      exact decideUsable_settled view previous expiry ctx.now _

end Settled

/-! ## Recent progress -/

/-- The last progress of a source is known and within `idle_after` at a known instant. -/
def RecentProgress (expiry : ExpiryPolicy) (now : Timestamp) (v : SourceView) : Prop :=
  now.known = true ∧ v.lastProgressAt.known = true ∧ timeDifference now v.lastProgressAt ≤ expiry.idleAfter

instance (expiry : ExpiryPolicy) (now : Timestamp) (v : SourceView) : Decidable (RecentProgress expiry now v) :=
  inferInstanceAs (Decidable (_ ∧ _ ∧ _))

/-- What makes `Active` mean recent progress. A conflict and an honoured declaration decide otherwise. Without a
usable source `Active` must be left: it was not the state, or expiry is enabled and all evidence is too old, was
restored, or shows no recent progress. With one, `Active` must not be decided, or some usable source made recent
progress itself. -/
def ProgressBacked (policy : ReconciliationPolicy) (previous : FlowState) (expiry : ExpiryPolicy) (now : Timestamp)
    (views : List SourceView) : Prop :=
  Conflicted policy views ∨ (∃ v ∈ driving views, honoured v ≠ none) ∨
    if (views.filter sourceIsUsable).isEmpty then
      previous ≠ .Active ∨ expiry.enabled = true ∧
        (agedOut expiry now views = true ∨ anyRestored views = true ∨ idledOut expiry now views = true)
    else (views.filter sourceIsUsable).any (·.observedProgress) = false ∨
      expiry.enabled = true ∧ idledOut expiry now views = true ∨
      ∃ v ∈ views.filter sourceIsUsable, RecentProgress expiry now v

theorem fadedState_active {previous : FlowState} (enabled aged restored idle : Bool) :
    fadedState previous enabled aged restored idle = .Active ↔
      ¬ (previous ≠ .Active ∨ enabled = true ∧ (aged = true ∨ restored = true ∨ idle = true)) := by
  cases previous <;> revert enabled aged restored idle <;> decide

theorem liveState_active (enabled progress idle : Bool) :
    liveState enabled progress idle = .Active ↔ ¬ (progress = false ∨ enabled = true ∧ idle = true) := by
  revert enabled progress idle
  decide

section Recent

variable (flow : FlowId) (generation : GenerationId) (policy : ReconciliationPolicy) (isCurrent : Bool)
  {views : List SourceView} {previous : FlowState} (expiry : ExpiryPolicy) (ctx : FreshnessContext)

/-- An honoured declaration closes a generation that is open and not in conflict. -/
theorem state_of_honoured (hopen : isTerminal previous = false) (hconflict : ¬ Conflicted policy views)
    (hdeclared : ∃ v ∈ driving views, honoured v ≠ none) :
    isTerminal (decideGenerationState (reconcileGeneration flow generation views policy isCurrent) previous
      expiry ctx).state
      = true := by
  have hcalm : ¬ (reconcileGeneration flow generation views policy isCurrent).unresolvedConflict = true :=
    fun h => hconflict ((unresolvedConflict_iff _ _ _ _ _).1 h)
  unfold decideGenerationState
  rw [if_neg (by rw [hopen]; exact Bool.false_ne_true), if_neg hcalm]
  cases hfind : (reconcileGeneration flow generation views policy isCurrent).sources.findSome? (honour previous) with
  | some d =>
    obtain ⟨v, -, hv⟩ := List.exists_of_findSome?_eq_some hfind
    exact honour_state hv
  | none =>
    obtain ⟨v, hv, hhonoured⟩ := hdeclared
    have hnone := findSome?_honour_eq_none.1 hfind (retotal v) (mem_listed.2 ⟨v, List.mem_of_mem_filter hv, rfl⟩)
    exact absurd hnone hhonoured

/-- **When `Active` means recent progress.** -/
theorem active_recent_iff (hopen : isTerminal previous = false) :
    let view : GenerationView := reconcileGeneration flow generation views policy isCurrent
    ((decideGenerationState view previous expiry ctx).state = .Active →
      ∃ v ∈ views.filter sourceIsUsable, RecentProgress expiry ctx.now v) ↔
        ProgressBacked policy previous expiry ctx.now views := by
  intro view
  unfold ProgressBacked
  by_cases hconflict : Conflicted policy views
  · have hstate : (decideGenerationState view previous expiry ctx).state = .Conflicting :=
      state_of_conflict flow generation policy isCurrent views hconflict hopen expiry ctx
    rw [hstate]
    exact iff_of_true (fun h => by cases h) (.inl hconflict)
  rw [or_iff_right hconflict]
  by_cases hdeclared : ∃ v ∈ driving views, honoured v ≠ none
  · have hterminal : isTerminal (decideGenerationState view previous expiry ctx).state = true :=
      state_of_honoured flow generation policy isCurrent expiry ctx hopen hconflict hdeclared
    refine iff_of_true (fun h => ?_) (.inl hdeclared)
    rw [h] at hterminal
    cases hterminal
  rw [or_iff_right hdeclared]
  simp only [not_exists, not_and, not_not] at hdeclared
  have hstate : (decideGenerationState view previous expiry ctx).state = _ :=
    state_of_open flow generation policy isCurrent expiry ctx hopen hconflict hdeclared
  rw [hstate]
  by_cases hempty : (views.filter sourceIsUsable).isEmpty = true
  · -- without a usable source nothing backs the state that is kept
    rw [if_pos hempty, if_pos hempty, fadedState_active]
    rw [List.isEmpty_iff] at hempty
    constructor
    · intro h
      by_contra hkept
      obtain ⟨v, hv, -⟩ := h hkept
      rw [hempty] at hv
      cases hv
    · exact fun h hkept => absurd h hkept
  · rw [if_neg hempty, if_neg hempty, liveState_active]
    constructor
    · intro h
      by_cases hidle : (views.filter sourceIsUsable).any (·.observedProgress) = false ∨
          expiry.enabled = true ∧ idledOut expiry ctx.now views = true
      · exact hidle.imp_right .inl
      · exact .inr (.inr (h hidle))
    · rintro (hprogress | hidle | hrecent) hactive
      · exact absurd (.inl hprogress) hactive
      · exact absurd (.inr hidle) hactive
      · exact hrecent

end Recent

theorem active_recent_iff_quiet :
    ((decideGenerationState (reconcileGeneration ⟨7⟩ ⟨1⟩ [quietView] {} true) .Active quickIdle { now := ⟨1000⟩ }).state
      = .Active →
      ∃ v ∈ [quietView].filter sourceIsUsable, RecentProgress quickIdle ⟨1000⟩ v) ↔
        ProgressBacked {} .Active quickIdle ⟨1000⟩ [quietView] :=
  active_recent_iff ⟨7⟩ ⟨1⟩ {} true quickIdle { now := ⟨1000⟩ } (by decide)

/-- **A flow is active on the progress of an advisory source.** The only usable source made its last progress long
before `idle_after`. -/
theorem active_on_advisory_progress : ¬ ∀ (flow : FlowId) (generation : GenerationId) (policy : ReconciliationPolicy)
    (isCurrent : Bool) (views : List SourceView) (previous : FlowState) (expiry : ExpiryPolicy)
      (ctx : FreshnessContext),
    policy.validate = .ok () → expiry.validate = .ok () → isTerminal previous = false →
    (decideGenerationState (reconcileGeneration flow generation views policy isCurrent) previous expiry ctx).state =
    .Active →
      ∃ v ∈ views.filter sourceIsUsable, RecentProgress expiry ctx.now v := by
  intro h
  have hrecent := h ⟨7⟩ ⟨1⟩ {} true [quietView, advisoryView] .Active quickIdle { now := ⟨1000⟩ }
    (by decide) (by decide)
    (by decide) (by decide)
  revert hrecent
  decide

/-! ## The mark of restored evidence -/

/-- The source view without the mark. -/
def SourceView.unmarked (v : SourceView) : SourceView := { v with restoredFromJournal := false }

/-- The source view without the counts of duplicates and of conflicts. -/
def SourceView.uncounted (v : SourceView) : SourceView := { v with duplicatesSuppressed := 0, contentConflicts := 0 }

/-- The source view with another mark and other counts of duplicates and of conflicts. Reconciliation reads none of
them. -/
def SourceView.remarked (mark : Bool → Bool) (count : UInt32 → UInt32) (v : SourceView) : SourceView :=
  { v with
    restoredFromJournal := mark v.restoredFromJournal
    duplicatesSuppressed := count v.duplicatesSuppressed
    contentConflicts := count v.contentConflicts }

theorem SourceView.unmarked_eq : SourceView.unmarked = SourceView.remarked (fun _ => false) id := rfl
theorem SourceView.uncounted_eq : SourceView.uncounted = SourceView.remarked id (fun _ => 0) := rfl

/-- The pairs of an image are the images of the pairs. -/
theorem orderedPairs_map {α β : Type} (φ : α → β) (l : List α) :
    orderedPairs (l.map φ) = (orderedPairs l).map (Prod.map φ φ) := by
  induction l with
  | nil => rfl
  | cons a l ih => simp [orderedPairs, ih]

section Remarked

variable (mark : Bool → Bool) (count : UInt32 → UInt32)

theorem listed_remarked (views : List SourceView) :
    listed (views.map (SourceView.remarked mark count)) = (listed views).map (SourceView.remarked mark count) := by
  let le := fun a b : SourceView => (!sourceViewLess b a) = true
  have hsort := List.map_insertionSort le le (SourceView.remarked mark count) (views.map retotal)
    (fun _ _ _ _ => Iff.rfl)
  unfold listed sortSourceViews
  rw [hsort, List.map_map, List.map_map]
  rfl

theorem usable_remarked (views : List SourceView) : (views.map (SourceView.remarked mark count)).filter sourceIsUsable
    = (views.filter sourceIsUsable).map (SourceView.remarked mark count) := by
  rw [List.filter_map]
  rfl

theorem consistencyOf_remarked (policy : ReconciliationPolicy) (usable : List SourceView) :
    consistencyOf policy (usable.map (SourceView.remarked mark count)) = consistencyOf policy usable := by
  have hdisagree : disagree policy ∘ Prod.map (SourceView.remarked mark count) (SourceView.remarked mark count)
      = disagree policy := rfl
  have hsettled : settled policy (usable.map (SourceView.remarked mark count))
      ∘ Prod.map (SourceView.remarked mark count) (SourceView.remarked mark count) = settled policy usable := by
    funext p
    simp only [settled, Function.comp_apply, List.any_map]
    rfl
  unfold consistencyOf
  rw [List.length_map, orderedPairs_map, List.filter_map, hdisagree]
  split
  · rfl
  · cases (orderedPairs usable).filter (disagree policy) with
    | nil => rfl
    | cons pair rest =>
      have hall : ((pair :: rest).map (Prod.map (SourceView.remarked mark count) (SourceView.remarked mark count))).all
          (settled policy (usable.map (SourceView.remarked mark count))) =
          (pair :: rest).all (settled policy usable) := by
        rw [List.all_map, hsettled]
      rw [List.map_cons] at hall ⊢
      simp only [Prod.map_apply'] at hall ⊢
      rw [hall]
      rfl

end Remarked

section Unmarked

variable (flow : FlowId) (generation : GenerationId) (policy : ReconciliationPolicy) (isCurrent : Bool)
  (views : List SourceView) (mark : Bool → Bool) (count : UInt32 → UInt32)

/-- Two views that the lifecycle decision tells apart by the mark alone. -/
structure GenerationView.Remarked (view view' : GenerationView) : Prop where
  sources : view'.sources = view.sources.map (SourceView.remarked mark count)
  unresolved : view'.unresolvedConflict = view.unresolvedConflict
  detail : view'.conflictDetail = view.conflictDetail
  observed : view'.lastObservedAt = view.lastObservedAt
  progress : view'.lastProgressAt = view.lastProgressAt

/-- Reconciliation does not look at the mark. -/
theorem reconcile_remarked : GenerationView.Remarked mark count
    (reconcileGeneration flow generation views policy isCurrent)
    (reconcileGeneration flow generation (views.map (SourceView.remarked mark count)) policy isCurrent) := by
  have hlisted := listed_remarked mark count views
  have hverdict : consistencyOf policy ((listed (views.map (SourceView.remarked mark count))).filter sourceIsUsable)
      = consistencyOf policy ((listed views).filter sourceIsUsable) := by
    rw [hlisted, usable_remarked, consistencyOf_remarked]
  have hlatest : ∀ field : SourceView → Timestamp, (∀ v, field (v.remarked mark count) = field v) →
      runningMax field {} (listed (views.map (SourceView.remarked mark count))) =
      runningMax field {} (listed views) := by
    intro field hfield
    rw [hlisted]
    unfold runningMax
    simp only [List.foldl_map, hfield]
  exact ⟨hlisted, congrArg (·.2.1) hverdict, congrArg (·.2.2) hverdict, hlatest _ fun _ => rfl, hlatest _ fun _ => rfl⟩

variable {flow generation policy isCurrent views mark count}

/-- With a usable source the mark is not looked at. -/
theorem decideUsable_remarked {view view' : GenerationView} (h : GenerationView.Remarked mark count view view')
    (usable : List SourceView) (previous : FlowState) (expiry : ExpiryPolicy) (reference : Timestamp) :
    decideUsable view' (usable.map (SourceView.remarked mark count)) previous expiry reference
      = decideUsable view usable previous expiry reference := by
  have hany : (usable.map (SourceView.remarked mark count)).any (·.observedProgress) =
      usable.any (·.observedProgress) := by
    rw [List.any_map]
    rfl
  unfold decideUsable
  rw [List.foldl_map, hany, h.progress]
  rfl

/-- The counts of duplicates and of conflicts do not take part in the decision. -/
theorem decide_uncounted (previous : FlowState) (expiry : ExpiryPolicy) (ctx : FreshnessContext) :
    decideGenerationState (reconcileGeneration flow generation (views.map SourceView.uncounted) policy isCurrent)
      previous expiry ctx
      = decideGenerationState (reconcileGeneration flow generation views policy isCurrent) previous expiry ctx := by
  rw [SourceView.uncounted_eq]
  have h := reconcile_remarked flow generation policy isCurrent views id (fun _ => 0)
  generalize reconcileGeneration flow generation views policy isCurrent = view at h ⊢
  generalize reconcileGeneration flow generation (views.map (SourceView.remarked id fun _ => 0)) policy isCurrent =
    view' at h ⊢
  have hhonour : view'.sources.findSome? (honour previous) = view.sources.findSome? (honour previous) := by
    rw [h.sources, List.findSome?_map]
    rfl
  have hrestored : view'.sources.any (·.restoredFromJournal) = view.sources.any (·.restoredFromJournal) := by
    rw [h.sources, List.any_map]
    rfl
  have hunusable : decideUnusable view' previous expiry ctx.now = decideUnusable view previous expiry ctx.now := by
    unfold decideUnusable
    rw [hrestored, h.observed, h.progress]
  have husable := decideUsable_remarked h (view.sources.filter sourceIsUsable) previous expiry ctx.now
  unfold decideGenerationState
  rw [h.unresolved, h.detail, hhonour, h.sources, usable_remarked]
  simp only [List.isEmpty_map, hunusable, husable]

/-- Without one the mark decides as long as expiry is enabled. -/
theorem decideUnusable_remarked {view view' : GenerationView}
    (h : GenerationView.Remarked (fun _ => false) id view view') (previous : FlowState)
    (expiry : ExpiryPolicy) (reference : Timestamp) :
    decideUnusable view previous expiry reference = decideUnusable view' previous expiry reference ↔
      expiry.enabled = false ∨ view.sources.any (·.restoredFromJournal) = false := by
  have hnone : view'.sources.any (·.restoredFromJournal) = false := by
    rw [h.sources, List.any_map]
    exact List.any_eq_false.2 fun _ _ => Bool.false_ne_true
  unfold decideUnusable
  rw [hnone, h.observed, h.progress]
  cases henabled : expiry.enabled with
  | false => simp
  | true =>
    cases hmarked : view.sources.any (·.restoredFromJournal) with
    | false => simp
    | true =>
      refine iff_of_false (fun heq => ?_) (by simp)
      simp only [Bool.and_true, if_true, Bool.false_eq_true, if_false, Bool.true_and] at heq
      by_cases haged : agedPast reference view.lastObservedAt expiry.expireAfter = true
      · -- expired in both, for different reasons
        rw [if_pos haged, if_pos haged] at heq
        have hdetail := str_inj.1 (congrArg StateDecision.detail heq)
        revert hdetail
        decide
      · rw [if_neg haged, if_neg haged] at heq
        have hcause := congrArg StateDecision.cause heq
        revert hcause
        split
        · exact fun hcause => by cases hcause
        · split
          · exact fun hcause => by cases hcause
          · exact fun hcause => by cases hcause

/-- **When the mark of restored evidence makes no difference** to the lifecycle decision. -/
theorem restored_mark_iff (previous : FlowState) (expiry : ExpiryPolicy) (ctx : FreshnessContext) :
    decideGenerationState (reconcileGeneration flow generation views policy isCurrent) previous expiry ctx
        = decideGenerationState (reconcileGeneration flow generation (views.map SourceView.unmarked) policy isCurrent)
          previous expiry ctx ↔
      isTerminal previous = true ∨ Conflicted policy views ∨ (∃ v ∈ driving views, honoured v ≠ none) ∨
        (∃ v ∈ views, sourceIsUsable v = true) ∨ expiry.enabled = false ∨ anyRestored views = false := by
  rw [SourceView.unmarked_eq]
  have hunmarked := reconcile_remarked flow generation policy isCurrent views (fun _ => false) id
  have hsources : (reconcileGeneration flow generation views policy isCurrent).sources = listed views := rfl
  have hconflicted := unresolvedConflict_iff flow generation views policy isCurrent
  generalize reconcileGeneration flow generation views policy isCurrent = view at hunmarked hsources hconflicted ⊢
  generalize reconcileGeneration flow generation (views.map (SourceView.remarked (fun _ => false) id)) policy
    isCurrent = view'
    at hunmarked ⊢
  have hhonour : view'.sources.findSome? (honour previous) = view.sources.findSome? (honour previous) := by
    rw [hunmarked.sources, List.findSome?_map]
    rfl
  have hdeclared : view.sources.findSome? (honour previous) = none ↔ ¬ ∃ v ∈ driving views, honoured v ≠ none := by
    rw [hsources, findSome?_driving, driving_listed, findSome?_honour_eq_none]
    simp only [not_exists, not_and, not_not]
    constructor
    · exact fun h v hv => h (retotal v) (mem_listed.2 ⟨v, hv, rfl⟩)
    · intro h v hv
      obtain ⟨u, hu, rfl⟩ := mem_listed.1 hv
      exact h u hu
  have husable : (view.sources.filter sourceIsUsable).isEmpty = true ↔ ¬ ∃ v ∈ views, sourceIsUsable v = true := by
    rw [hsources, List.isEmpty_iff, List.filter_eq_nil_iff]
    simp only [not_exists, not_and]
    constructor
    · exact fun h v hv => h (retotal v) (mem_listed.2 ⟨v, hv, rfl⟩)
    · intro h v hv
      obtain ⟨u, hu, rfl⟩ := mem_listed.1 hv
      exact h u hu
  unfold decideGenerationState
  by_cases hterminal : isTerminal previous = true
  · rw [if_pos hterminal, if_pos hterminal]
    exact iff_of_true rfl (.inl hterminal)
  rw [if_neg hterminal, if_neg hterminal, or_iff_right hterminal, hunmarked.unresolved, hunmarked.detail]
  by_cases hconflict : view.unresolvedConflict = true
  · rw [if_pos hconflict, if_pos hconflict]
    exact iff_of_true rfl (.inl (hconflicted.1 hconflict))
  rw [if_neg hconflict, if_neg hconflict, or_iff_right (fun h => hconflict (hconflicted.2 h)), hhonour]
  cases hfind : view.sources.findSome? (honour previous) with
  | some d =>
    have hsome : ∃ v ∈ driving views, honoured v ≠ none := by
      by_contra hnone
      rw [hdeclared.2 hnone] at hfind
      cases hfind
    exact iff_of_true rfl (.inl hsome)
  | none =>
    rw [or_iff_right (hdeclared.1 hfind)]
    simp only
    rw [hunmarked.sources, usable_remarked, List.isEmpty_map]
    by_cases hempty : (view.sources.filter sourceIsUsable).isEmpty = true
    · rw [if_pos hempty, if_pos hempty, or_iff_right (husable.1 hempty), decideUnusable_remarked hunmarked, hsources,
        any_listed views (fun _ => rfl)]
      rfl
    · rw [if_neg hempty, if_neg hempty, decideUsable_remarked hunmarked]
      exact iff_of_true rfl (.inl (not_not.1 fun h => hempty (husable.2 h)))

end Unmarked

end FlowObs
