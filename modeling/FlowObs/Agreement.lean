import FlowObs.Advisory

/-!
# When sources agree

Reconciliation sorts its sources first, so that it depends on their order only when two of them have one identity
(`reconcile_perm`). The loop over all pairs of usable sources then comes to four cases, which `consistency_iff` states
over all pairs and authorities:

- fewer than two usable sources, or no two of them apart (`Apart`);
- some two apart in conflict (`Conflicted`), or not.

A higher authority of the two sources that are apart settles them whatever the policy says (`conflicts_iff_unranked`).
-/

namespace FlowObs

/-! ## The order of the sources -/

/-- Source views of different sources are listed in one order, however they come. -/
theorem listed_perm {views views' : List SourceView} (hperm : views.Perm views')
    (hdistinct : (views.map (·.source)).Nodup) : listed views = listed views' := by
  have hsorted : ∀ views : List SourceView, (listed views).Pairwise (fun a b => (!sourceViewLess b a) = true) :=
    fun views => List.pairwise_insertionSort _ _
  have hsame : (listed views).Perm (listed views') :=
    (List.perm_insertionSort _ _).trans ((hperm.map retotal).trans (List.perm_insertionSort _ _).symm)
  refine List.Perm.eq_of_pairwise (fun a b ha hb hab hba => ?_) (hsorted views) (hsorted views') hsame
  obtain ⟨v, hv, rfl⟩ := mem_listed.1 ha
  obtain ⟨w, hw, rfl⟩ := mem_listed.1 hb
  have hrank : (retotal v).rank = (retotal w).rank := le_antisymm (sourceViewLess_le.1 hab) (sourceViewLess_le.1 hba)
  have hsource : v.source = w.source := congrArg (fun rank => (ofLex rank).2) hrank
  rw [List.inj_on_of_nodup_map hdistinct hv (hperm.mem_iff.2 hw) hsource]

/-- **Reconciliation does not depend on the order of the sources.** For source views of pairwise different sources,
every order gives the same generation view, in every field. -/
theorem reconcile_perm {views views' : List SourceView} (hperm : views.Perm views')
    (hdistinct : (views.map (·.source)).Nodup) (flow : FlowId) (generation : GenerationId)
      (policy : ReconciliationPolicy)
    (isCurrent : Bool) : reconcileGeneration flow generation views policy isCurrent
      = reconcileGeneration flow generation views' policy isCurrent := by
  have hlisted := listed_perm hperm hdistinct
  unfold listed at hlisted
  unfold reconcileGeneration
  rw [hlisted]

/-- A view of a source with an authority, fresh and reconfirmed, that has counted `bytes`. -/
def freshView (source : SourceId) (authority : UInt32) (bytes : UInt64) : SourceView :=
  { source := source, authority := authority, freshness := .Fresh, reconfirmed := true
    forward := { bytes := ({} : CounterAccumulator).observe 0 true |>.1.observe bytes true |>.1 } }

theorem reconcile_perm_three :
    reconcileGeneration ⟨7⟩ ⟨1⟩ [freshView ⟨1⟩ 5 1000, freshView ⟨2⟩ 9 4000, freshView ⟨3⟩ 5 5000] {} true
      = reconcileGeneration ⟨7⟩ ⟨1⟩ [freshView ⟨3⟩ 5 5000, freshView ⟨1⟩ 5 1000, freshView ⟨2⟩ 9 4000]
        {} true :=
  reconcile_perm (by decide) (by decide) ⟨7⟩ ⟨1⟩ {} true

/-! ## Consistency -/

/-- Two usable sources report byte totals that differ beyond the tolerance. -/
def Apart (policy : ReconciliationPolicy) (views : List SourceView) : Prop :=
  ∃ v ∈ views.filter sourceIsUsable, ∃ w ∈ views.filter sourceIsUsable, disagree policy (retotal v, retotal w) = true

instance (policy : ReconciliationPolicy) (views : List SourceView) : Decidable (Apart policy views) :=
  inferInstanceAs (Decidable (∃ v ∈ _, ∃ w ∈ _, _))

section Consistency

variable (flow : FlowId) (generation : GenerationId) (policy : ReconciliationPolicy) (isCurrent : Bool)
  (views : List SourceView)

/-- The pairs that the loop finds apart are the usable sources that are. -/
theorem filter_disagree_eq_nil :
    (orderedPairs (listed (views.filter sourceIsUsable))).filter (disagree policy) = [] ↔ ¬ Apart policy views := by
  rw [List.filter_eq_nil_iff]
  constructor
  · rintro hnone ⟨v, hv, w, hw, hd⟩
    have hne : retotal v ≠ retotal w := by
      intro h
      rw [h, not_disagree_self] at hd
      cases hd
    rcases orderedPairs_or (mem_listed.2 ⟨v, hv, rfl⟩) (mem_listed.2 ⟨w, hw, rfl⟩) hne with hp | hp
    · exact hnone _ hp hd
    · exact hnone _ hp (by rwa [disagree_comm])
  · rintro hagree ⟨a, b⟩ hp hd
    have hany : (listed (views.filter sourceIsUsable)).Pairwise (fun _ _ => True) :=
      List.pairwise_of_forall (fun _ _ => trivial)
    obtain ⟨ha, hb, -⟩ := mem_orderedPairs hany hp
    obtain ⟨v, hv, rfl⟩ := mem_listed.1 ha
    obtain ⟨w, hw, rfl⟩ := mem_listed.1 hb
    exact hagree ⟨v, hv, w, hw, hd⟩

/-- Sources that are apart are two. -/
theorem Apart.two_le {policy : ReconciliationPolicy} {views : List SourceView} (h : Apart policy views) :
    2 ≤ (views.filter sourceIsUsable).length := by
  obtain ⟨v, hv, w, hw, hd⟩ := h
  by_contra hshort
  rcases hviews : views.filter sourceIsUsable with _ | ⟨u, _ | ⟨u', rest⟩⟩
  · rw [hviews] at hv
    cases hv
  · rw [hviews, List.mem_singleton] at hv hw
    rw [hv, hw, not_disagree_self] at hd
    cases hd
  · rw [hviews] at hshort
    simp only [List.length_cons] at hshort
    omega

theorem Conflicted.apart {policy : ReconciliationPolicy} {views : List SourceView} (h : Conflicted policy views) :
    Apart policy views := by
  obtain ⟨v, hv, w, hw, -, hd, -⟩ := h
  exact ⟨v, hv, w, hw, hd⟩

/-- **What the pair loop comes to**: one of four cases. -/
theorem consistency_iff : let view := reconcileGeneration flow generation views policy isCurrent
    (view.consistency = .Unknown ↔ (views.filter sourceIsUsable).length < 2) ∧
      (view.consistency = .Corroborated ↔ 2 ≤ (views.filter sourceIsUsable).length ∧ ¬ Apart policy views) ∧
      (view.consistency = .Conflicting ↔ Conflicted policy views) ∧
      (view.consistency = .Resolved ↔ Apart policy views ∧ ¬ Conflicted policy views) ∧
      (view.unresolvedConflict = true ↔ view.consistency = .Conflicting) := by
  intro view
  have husable : (listed views).filter sourceIsUsable = listed (views.filter sourceIsUsable) :=
    filter_listed (fun _ => rfl) views
  have hverdict : view.consistency = (consistencyOf policy (listed (views.filter sourceIsUsable))).1 ∧
      view.unresolvedConflict = (consistencyOf policy (listed (views.filter sourceIsUsable))).2.1 := by
    rw [← husable]
    exact ⟨rfl, rfl⟩
  have hlength : (listed (views.filter sourceIsUsable)).length = (views.filter sourceIsUsable).length := by
    unfold listed sortSourceViews
    rw [List.length_insertionSort, List.length_map]
  have hconflict : view.unresolvedConflict = true ↔ Conflicted policy views :=
    unresolvedConflict_iff flow generation views policy isCurrent
  have hnil := filter_disagree_eq_nil policy views
  rw [hverdict.2] at hconflict
  rw [hverdict.1, hverdict.2]
  unfold consistencyOf at hconflict ⊢
  rw [hlength] at hconflict ⊢
  by_cases hshort : (views.filter sourceIsUsable).length < 2
  · have hagree : ¬ Apart policy views := fun h => absurd h.two_le (by omega)
    have hcalm : ¬ Conflicted policy views := fun h => hagree h.apart
    simp [hshort, hagree, hcalm]
  · rw [if_neg hshort] at hconflict ⊢
    cases hpairs : (orderedPairs (listed (views.filter sourceIsUsable))).filter (disagree policy) with
    | nil =>
      have hagree := hnil.1 hpairs
      have hcalm : ¬ Conflicted policy views := fun h => hagree h.apart
      simp [hshort, hagree, hcalm, Nat.le_of_not_lt hshort]
    | cons pair rest =>
      have hapart : Apart policy views := by
        by_contra hagree
        rw [hnil.2 hagree] at hpairs
        cases hpairs
      rw [hpairs] at hconflict
      obtain ⟨left, right⟩ := pair
      simp only at hconflict ⊢
      by_cases hall : ((left, right) :: rest).all (settled policy (listed (views.filter sourceIsUsable))) = true
      · rw [if_pos hall] at hconflict ⊢
        have hcalm : ¬ Conflicted policy views := fun h => by cases hconflict.2 h
        simp [hshort, hapart, hcalm]
      · rw [if_neg hall] at hconflict ⊢
        simp [hshort, hapart, hconflict.1 rfl]

/-- **The classification of consistency** where a higher authority resolves: over all usable sources, their pairs and
authorities. -/
theorem consistency_classified (hresolves : policy.higherAuthorityResolves = true) :
    let view : GenerationView := reconcileGeneration flow generation views policy isCurrent
    let usable := views.filter sourceIsUsable
    let apart := fun v w => disagree policy (retotal v, retotal w) = true
    let conflicting := ∃ v ∈ usable, ∃ w ∈ usable, apart v w ∧ v.authority = w.authority ∧
      ∀ u ∈ usable, ¬ v.authority < u.authority
    (view.consistency = .Unknown ↔ usable.length < 2) ∧
      (view.consistency = .Corroborated ↔ 2 ≤ usable.length ∧ ∀ v ∈ usable, ∀ w ∈ usable, ¬ apart v w) ∧
      (view.consistency = .Conflicting ↔ conflicting) ∧
      (view.consistency = .Resolved ↔
        2 ≤ usable.length ∧ ¬ (∀ v ∈ usable, ∀ w ∈ usable, ¬ apart v w) ∧ ¬ conflicting) ∧
      (view.unresolvedConflict = true ↔ view.consistency = .Conflicting) := by
  intro view usable apart conflicting
  have happart : Apart policy views ↔ ¬ ∀ v ∈ usable, ∀ w ∈ usable, ¬ apart v w := by
    unfold Apart
    simp only [not_forall, not_not, exists_prop]
    rfl
  have hconflicting : Conflicted policy views ↔ conflicting := by
    constructor
    · rintro ⟨v, hv, w, hw, heq, hd, hnone⟩
      exact ⟨v, hv, w, hw, hd, heq, fun u hu hlt => hnone ⟨hresolves, u, hu, hlt⟩⟩
    · rintro ⟨v, hv, w, hw, hd, heq, hnone⟩
      exact ⟨v, hv, w, hw, heq, hd, fun ⟨_, u, hu, hlt⟩ => hnone u hu hlt⟩
  obtain ⟨hunknown, hcorroborated, hconflict, hresolved, hflag⟩ :=
    consistency_iff flow generation policy isCurrent views
  refine ⟨hunknown, hcorroborated.trans ?_, hconflict.trans hconflicting, hresolved.trans ?_, hflag⟩
  · rw [happart, not_not]
  · rw [hconflicting]
    constructor
    · rintro ⟨ha, hcalm⟩
      exact ⟨ha.two_le, happart.1 ha, hcalm⟩
    · rintro ⟨-, ha, hcalm⟩
      exact ⟨happart.2 ha, hcalm⟩

/-- A conflict decides the state of a generation that is open. -/
theorem state_of_conflict (hconflict : Conflicted policy views) {previous : FlowState}
    (hopen : isTerminal previous = false)
    (expiry : ExpiryPolicy) (ctx : FreshnessContext) :
    (decideGenerationState (reconcileGeneration flow generation views policy isCurrent) previous expiry ctx).state
      = .Conflicting := by
  have hflag := (unresolvedConflict_iff flow generation views policy isCurrent).2 hconflict
  unfold decideGenerationState
  rw [if_neg (by rw [hopen]; exact Bool.false_ne_true), if_pos hflag]
  rfl

/-- **When disagreement is a conflict without `higher_authority_resolves`**: exactly when there is none, or some two
usable sources that are apart have one authority. Where all that are apart differ in authority, the higher one is
picked. -/
theorem conflicts_iff_unranked (hoff : policy.higherAuthorityResolves = false) :
    let view : GenerationView := reconcileGeneration flow generation views policy isCurrent
    (Apart policy views → view.consistency = .Conflicting ∧ view.unresolvedConflict = true ∧
      ∀ previous expiry ctx, isTerminal previous = false →
        (decideGenerationState view previous expiry ctx).state = .Conflicting) ↔
      (¬ Apart policy views ∨ ∃ v ∈ views.filter sourceIsUsable, ∃ w ∈ views.filter sourceIsUsable,
        disagree policy (retotal v, retotal w) = true ∧ v.authority = w.authority) := by
  intro view
  obtain ⟨-, -, hconflict, -, hflag⟩ := consistency_iff flow generation policy isCurrent views
  constructor
  · intro h
    by_cases happart : Apart policy views
    · obtain ⟨v, hv, w, hw, heq, hd, -⟩ := hconflict.1 (h happart).1
      exact .inr ⟨v, hv, w, hw, hd, heq⟩
    · exact .inl happart
  · rintro (hagree | ⟨v, hv, w, hw, hd, heq⟩) happart
    · exact absurd happart hagree
    · have hconflicted : Conflicted policy views := by
        refine ⟨v, hv, w, hw, heq, hd, fun ⟨hon, _⟩ => ?_⟩
        rw [hoff] at hon
        cases hon
      have hconflicting := hconflict.2 hconflicted
      exact ⟨hconflicting, hflag.2 hconflicting, fun previous expiry ctx hopen =>
        state_of_conflict flow generation policy isCurrent views hconflicted hopen expiry ctx⟩

end Consistency

theorem consistency_classified_three :
    (reconcileGeneration ⟨7⟩ ⟨1⟩ [freshView ⟨1⟩ 5 1000, freshView ⟨2⟩ 9 4000, freshView ⟨3⟩ 5 5000] {} true).consistency
      = .Resolved :=
  (consistency_classified ⟨7⟩ ⟨1⟩ {} true [freshView ⟨1⟩ 5 1000, freshView ⟨2⟩ 9 4000, freshView ⟨3⟩ 5 5000]
    rfl).2.2.2.1.2
    (by decide)

/-- The policy under which no authority resolves a disagreement. -/
def unresolving : ReconciliationPolicy := { higherAuthorityResolves := false }

theorem conflicts_iff_unranked_equals :
    (reconcileGeneration ⟨7⟩ ⟨1⟩ [freshView ⟨1⟩ 5 1000, freshView ⟨2⟩ 5 4000] unresolving true).consistency =
    .Conflicting :=
  ((conflicts_iff_unranked ⟨7⟩ ⟨1⟩ unresolving true [freshView ⟨1⟩ 5 1000, freshView ⟨2⟩ 5 4000] rfl).2
    (.inr (by decide)) (by decide)).1

/-- **Authority picks silently** although the policy says that it does not resolve: two sources of different authority
that are apart are reported as resolved. -/
theorem authority_picks_silently :
    ¬ ∀ (flow : FlowId) (generation : GenerationId) (policy : ReconciliationPolicy) (isCurrent : Bool)
    (views : List SourceView), policy.higherAuthorityResolves = false → Apart policy views →
    let view := reconcileGeneration flow generation views policy isCurrent
    view.consistency = .Conflicting ∧ view.unresolvedConflict = true ∧
      ∀ previous expiry ctx, isTerminal previous = false →
        (decideGenerationState view previous expiry ctx).state = .Conflicting := by
  intro h
  have hconflicting := (h ⟨7⟩ ⟨1⟩ unresolving true [freshView ⟨1⟩ 9 1000, freshView ⟨2⟩ 5 4000] rfl (by decide)).1
  revert hconflicting
  decide

end FlowObs
