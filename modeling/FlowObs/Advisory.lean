import FlowObs.Reconcile
import FlowObs.Lib.Sort

/-!
# What advisory sources decide

Reconciliation sets advisory sources aside where it totals, compares and judges visibility: each of these reads only
the driving views, those that are not advisory (`sources_driving`, `usable_reconcile`, `sameTotals_of_driving`). The
instants of a generation and its mark of restored evidence are taken over every source, and the lifecycle decision
reads them. So an advisory source can decide between active and idle, between expired and not, and between restored
and not. `advisory_interferes_iff` says exactly when it does not.
-/

namespace FlowObs

/-! ## The order of source views -/

/-- What source views are sorted by. -/
def SourceView.rank (v : SourceView) : Lex (Natᵒᵈ × SourceId) := toLex (OrderDual.toDual v.authority.toNat, v.source)

theorem sourceViewLess_iff {a b : SourceView} : sourceViewLess a b = true ↔ a.rank < b.rank := by
  have hrank : a.rank < b.rank ↔ b.authority.toNat < a.authority.toNat ∨
      a.authority.toNat = b.authority.toNat ∧ a.source < b.source := by
    unfold SourceView.rank
    rw [Prod.Lex.toLex_lt_toLex]
    simp only [OrderDual.toDual_lt_toDual, EmbeddingLike.apply_eq_iff_eq]
  rw [hrank]
  unfold sourceViewLess
  by_cases h : a.authority = b.authority
  · rw [if_neg (not_not.2 h), h]
    simp
  · have hne : a.authority.toNat ≠ b.authority.toNat := fun he => h (UInt32.toNat_inj.1 he)
    rw [if_pos h]
    simp [UInt32.lt_iff_toNat_lt, hne]

theorem sourceViewLess_le {a b : SourceView} : (!sourceViewLess b a) = true ↔ a.rank ≤ b.rank := by
  rw [Bool.not_eq_true', ← Bool.not_eq_true, sourceViewLess_iff, not_lt]

instance : Std.Total (fun a b : SourceView => (!sourceViewLess b a) = true) where
  total a b := by
    simp only [sourceViewLess_le]
    exact le_total _ _

instance : IsTrans SourceView (fun a b => (!sourceViewLess b a) = true) where
  trans a b c := by
    simp only [sourceViewLess_le]
    exact le_trans

theorem filter_sortSourceViews (p : SourceView → Bool) (views : List SourceView) :
    (sortSourceViews views).filter p = sortSourceViews (views.filter p) :=
  filter_insertionSort p views

/-! ## What is read of the driving views only -/

/-- The views that are not advisory. -/
def driving (views : List SourceView) : List SourceView := views.filter (fun v => !v.advisoryOnly)

/-- The sources that a reconciled view lists. -/
def listed (views : List SourceView) : List SourceView := sortSourceViews (views.map retotal)

theorem mem_listed {views : List SourceView} {v : SourceView} : v ∈ listed views ↔ ∃ u ∈ views, retotal u = v := by
  unfold listed sortSourceViews
  rw [(List.perm_insertionSort _ _).mem_iff, List.mem_map]

theorem filter_listed {p : SourceView → Bool} (hp : ∀ v, p (retotal v) = p v) (views : List SourceView) :
    (listed views).filter p = listed (views.filter p) := by
  have hcomp : p ∘ retotal = p := funext hp
  unfold listed
  rw [filter_sortSourceViews, List.filter_map, hcomp]

theorem driving_listed (views : List SourceView) : driving (listed views) = listed (driving views) :=
  filter_listed (fun _ => rfl) views

/-- A usable view is a driving one. -/
theorem usable_driving (views : List SourceView) :
    (driving views).filter sourceIsUsable = views.filter sourceIsUsable := by
  unfold driving
  rw [List.filter_filter]
  refine List.filter_congr fun v _ => ?_
  unfold sourceIsUsable
  cases v.advisoryOnly <;> simp

theorem find?_driving (views : List SourceView) : views.find? (fun v => !v.advisoryOnly) = (driving views).head? :=
  List.head?_filter.symm

/-- An advisory view's declaration is not honoured. -/
theorem findSome?_driving (previous : FlowState) (views : List SourceView) :
    views.findSome? (honour previous) = (driving views).findSome? (honour previous) := by
  induction views with
  | nil => rfl
  | cons v views ih =>
    unfold driving at ih ⊢
    cases ha : v.advisoryOnly with
    | false => rw [List.filter_cons_of_pos (by simp [ha]), List.findSome?_cons, List.findSome?_cons, ih]
    | true =>
      have hnone : honour previous v = none := by simp [honour, honoured, ha]
      rw [List.filter_cons_of_neg (by simp [ha]), List.findSome?_cons, hnone, ih]

/-- The totals of two reconciled views are the same. -/
structure GenerationView.SameTotals (view view' : GenerationView) : Prop where
  forward : view.forward = view'.forward
  reverse : view.reverse = view'.reverse
  aggregate : view.aggregate = view'.aggregate
  total : view.total = view'.total

section Driving

variable (flow : FlowId) (generation : GenerationId) (policy : ReconciliationPolicy) (isCurrent : Bool)
  {views views' : List SourceView} (h : driving views = driving views')

include h

theorem usable_listed : (listed views).filter sourceIsUsable = (listed views').filter sourceIsUsable := by
  rw [← usable_driving, driving_listed, h, ← driving_listed, usable_driving]

/-- **Totals, consistency and visibility are read of the driving views only.** -/
theorem sameTotals_of_driving :
    let view := reconcileGeneration flow generation views policy isCurrent
    let view' := reconcileGeneration flow generation views' policy isCurrent
    view.SameTotals view' ∧ view.consistency = view'.consistency ∧ view.visibility = view'.visibility := by
  have husable := usable_listed h
  have hprimary : (listed views).find? (fun v => !v.advisoryOnly) =
      (listed views').find? (fun v => !v.advisoryOnly) := by
    rw [find?_driving, find?_driving, driving_listed, driving_listed, h]
  unfold listed at husable hprimary
  refine ⟨⟨?_, ?_, ?_, ?_⟩, ?_, ?_⟩
  all_goals simp only [reconcileGeneration, husable, hprimary]

end Driving

/-! ## Conflicts -/

/-- The pairs of an ascending list ascend. -/
theorem mem_orderedPairs {α : Type} {r : α → α → Prop} {l : List α} (hs : l.Pairwise r) {a b : α}
    (h : (a, b) ∈ orderedPairs l) : a ∈ l ∧ b ∈ l ∧ r a b := by
  induction l with
  | nil => cases h
  | cons c l ih =>
    obtain ⟨hc, hl⟩ := List.pairwise_cons.1 hs
    rcases List.mem_append.1 h with h | h
    · obtain ⟨d, hd, heq⟩ := List.mem_map.1 h
      obtain ⟨rfl, rfl⟩ := Prod.mk.inj heq
      exact ⟨List.mem_cons_self, List.mem_cons_of_mem _ hd, hc d hd⟩
    · obtain ⟨ha, hb, hr⟩ := ih hl h
      exact ⟨List.mem_cons_of_mem _ ha, List.mem_cons_of_mem _ hb, hr⟩

theorem orderedPairs_or {α : Type} {l : List α} {a b : α} (ha : a ∈ l) (hb : b ∈ l) (hne : a ≠ b) :
    (a, b) ∈ orderedPairs l ∨ (b, a) ∈ orderedPairs l := by
  induction l with
  | nil => cases ha
  | cons c l ih =>
    unfold orderedPairs
    simp only [List.mem_append]
    rcases List.mem_cons.1 ha with rfl | ha'
    · rcases List.mem_cons.1 hb with rfl | hb'
      · exact absurd rfl hne
      · exact .inl (.inl (List.mem_map.2 ⟨b, hb', rfl⟩))
    · rcases List.mem_cons.1 hb with rfl | hb'
      · exact .inr (.inl (List.mem_map.2 ⟨a, ha', rfl⟩))
      · exact (ih ha' hb').imp .inr .inr

theorem withinTolerance_comm (a b : UInt64) (policy : ReconciliationPolicy) :
    withinTolerance a b policy = withinTolerance b a policy := by
  have hlarger : (if b < a then a else b) = if a < b then b else a := by grind
  have hsmaller : (if b < a then b else a) = if a < b then a else b := by grind
  unfold withinTolerance
  rw [hlarger, hsmaller]

theorem disagree_comm (policy : ReconciliationPolicy) (v w : SourceView) :
    disagree policy (v, w) = disagree policy (w, v) := by
  unfold disagree
  rw [withinTolerance_comm]

theorem not_disagree_self (policy : ReconciliationPolicy) (v : SourceView) : disagree policy (v, v) = false := by
  simp [disagree, withinTolerance]

/-- A conflict is unresolved when some disagreement is not settled. -/
theorem unresolved_iff (policy : ReconciliationPolicy) (usable : List SourceView) :
    (consistencyOf policy usable).2.1 = true ↔
      ∃ p ∈ orderedPairs usable, disagree policy p = true ∧ settled policy usable p = false := by
  have hshort : usable.length < 2 → orderedPairs usable = [] := by
    intro h
    rcases usable with _ | ⟨a, _ | ⟨b, rest⟩⟩
    · rfl
    · rfl
    · simp only [List.length_cons] at h
      omega
  unfold consistencyOf
  by_cases hlen : usable.length < 2
  · rw [if_pos hlen, hshort hlen]
    simp
  · rw [if_neg hlen]
    have hmem : ∀ p, p ∈ (orderedPairs usable).filter (disagree policy) ↔ p ∈ orderedPairs usable ∧
        disagree policy p = true :=
      fun p => List.mem_filter
    cases hpairs : (orderedPairs usable).filter (disagree policy) with
    | nil =>
      refine ⟨fun h => (by cases h), fun ⟨p, hp, hd, _⟩ => ?_⟩
      have hin := (hmem p).2 ⟨hp, hd⟩
      rw [hpairs] at hin
      cases hin
    | cons pair rest =>
      rw [hpairs] at hmem
      simp only
      by_cases hall : (pair :: rest).all (settled policy usable) = true
      · rw [if_pos hall]
        refine ⟨fun h => (by cases h), fun ⟨p, hp, hd, hs⟩ => ?_⟩
        have hsettled := List.all_eq_true.1 hall p ((hmem p).2 ⟨hp, hd⟩)
        rw [hs] at hsettled
        cases hsettled
      · rw [if_neg hall]
        refine ⟨fun _ => ?_, fun _ => rfl⟩
        obtain ⟨p, hp, hs⟩ := List.all_eq_false.1 (Bool.eq_false_iff.2 hall)
        exact ⟨p, ((hmem p).1 hp).1, ((hmem p).1 hp).2, Bool.eq_false_iff.2 hs⟩

/-- Two usable sources of one authority report byte totals that differ beyond the tolerance, and no usable source of a
higher authority resolves it. -/
def Conflicted (policy : ReconciliationPolicy) (views : List SourceView) : Prop :=
  ∃ v ∈ views.filter sourceIsUsable, ∃ w ∈ views.filter sourceIsUsable, v.authority = w.authority ∧
    disagree policy (retotal v, retotal w) = true ∧
    ¬ (policy.higherAuthorityResolves = true ∧ ∃ u ∈ views.filter sourceIsUsable, v.authority < u.authority)

/-- **A reconciled view is in conflict when its sources are.** -/
theorem unresolvedConflict_iff (flow : FlowId) (generation : GenerationId) (views : List SourceView)
    (policy : ReconciliationPolicy) (isCurrent : Bool) :
    (reconcileGeneration flow generation views policy isCurrent).unresolvedConflict = true ↔
    Conflicted policy views := by
  have husable : (listed views).filter sourceIsUsable = listed (views.filter sourceIsUsable) :=
    filter_listed (fun _ => rfl) views
  have hconflict : (reconcileGeneration flow generation views policy isCurrent).unresolvedConflict
      = (consistencyOf policy (listed (views.filter sourceIsUsable))).2.1 := by
    rw [← husable]
    rfl
  rw [hconflict, unresolved_iff]
  generalize hu : views.filter sourceIsUsable = usable
  have hsorted : (listed usable).Pairwise (fun a b => (!sourceViewLess b a) = true) := List.pairwise_insertionSort _ _
  have hhigher : ∀ authority : UInt32, (listed usable).any (fun v => authority < v.authority) = true ↔
      ∃ u ∈ usable, authority < u.authority := by
    intro authority
    rw [List.any_eq_true]
    constructor
    · rintro ⟨v, hv, hlt⟩
      obtain ⟨u, hu, rfl⟩ := mem_listed.1 hv
      exact ⟨u, hu, of_decide_eq_true hlt⟩
    · rintro ⟨u, hu, hlt⟩
      exact ⟨retotal u, mem_listed.2 ⟨u, hu, rfl⟩, decide_eq_true hlt⟩
  unfold Conflicted
  rw [hu]
  constructor
  · rintro ⟨⟨a, b⟩, hp, hd, hs⟩
    obtain ⟨ha, hb, hle⟩ := mem_orderedPairs hsorted hp
    obtain ⟨v, hv, rfl⟩ := mem_listed.1 ha
    obtain ⟨w, hw, rfl⟩ := mem_listed.1 hb
    unfold settled at hs
    rw [Bool.or_eq_false_iff, Bool.and_eq_false_imp] at hs
    refine ⟨v, hv, w, hw, ?_, hd, fun ⟨hresolves, hu⟩ => ?_⟩
    · -- sorted by authority, and not strictly above
      have hnot : ¬ w.authority < v.authority := of_decide_eq_false hs.1
      have hrank : (retotal v).rank ≤ (retotal w).rank := sourceViewLess_le.1 hle
      unfold SourceView.rank at hrank
      rw [Prod.Lex.toLex_le_toLex] at hrank
      rcases hrank with hlt | ⟨heq, -⟩
      · exact absurd (UInt32.lt_iff_toNat_lt.2 (OrderDual.toDual_lt_toDual.1 hlt)) hnot
      · exact UInt32.toNat_inj.1 (OrderDual.toDual.injective heq)
    · have hnone : (listed usable).any (fun u => v.authority < u.authority) = false := hs.2 hresolves
      rw [(hhigher v.authority).2 hu] at hnone
      cases hnone
  · rintro ⟨v, hv, w, hw, heq, hd, hnone⟩
    have hne : retotal v ≠ retotal w := by
      intro h
      rw [h, not_disagree_self] at hd
      cases hd
    have hunsettled : ∀ a b : SourceView, a.authority = v.authority → b.authority = v.authority →
        settled policy (listed usable) (a, b) = false := by
      intro a b ha hb
      unfold settled
      rw [ha, hb, Bool.or_eq_false_iff, Bool.and_eq_false_imp]
      refine ⟨by simp, fun hresolves => Bool.eq_false_iff.2 fun hany => hnone ⟨hresolves, (hhigher v.authority).1 hany⟩⟩
    rcases orderedPairs_or (mem_listed.2 ⟨v, hv, rfl⟩) (mem_listed.2 ⟨w, hw, rfl⟩) hne with hp | hp
    · exact ⟨_, hp, hd, hunsettled _ _ rfl heq.symm⟩
    · exact ⟨_, hp, by rw [disagree_comm]; exact hd, hunsettled _ _ heq.symm rfl⟩

/-! ## What is read of every view -/

section Rollups

variable (expiry : ExpiryPolicy) (now : Timestamp) (views : List SourceView)

/-- The latest of an instant over source views. -/
def latest (field : SourceView → Timestamp) (views : List SourceView) : Timestamp := runningMax field {} views

/-- All evidence is older than `expire_after`. -/
def agedOut : Bool := agedPast now (latest (·.lastObservedAt) views) expiry.expireAfter

/-- All progress is older than `idle_after`. -/
def idledOut : Bool := agedPast now (latest (·.lastProgressAt) views) expiry.idleAfter

/-- Some source was restored from a journal. -/
def anyRestored : Bool := views.any (·.restoredFromJournal)

/-- The instants of a generation are the latest of its sources. -/
theorem latest_listed {field : SourceView → Timestamp} (hfield : ∀ v, field (retotal v) = field v) :
    runningMax field {} (listed views) = latest field views := by
  have hmap : ∀ start, runningMax field start (views.map retotal) = runningMax field start views := by
    intro start
    unfold runningMax
    simp only [List.foldl_map, hfield]
  unfold listed sortSourceViews latest
  rw [runningMax_perm field (List.perm_insertionSort _ _), hmap]

theorem any_listed {p : SourceView → Bool} (hp : ∀ v, p (retotal v) = p v) : (listed views).any p = views.any p := by
  rw [Bool.eq_iff_iff, List.any_eq_true, List.any_eq_true]
  constructor
  · rintro ⟨v, hv, h⟩
    obtain ⟨u, hu, rfl⟩ := mem_listed.1 hv
    exact ⟨u, hu, hp u ▸ h⟩
  · rintro ⟨u, hu, h⟩
    exact ⟨retotal u, mem_listed.2 ⟨u, hu, rfl⟩, (hp u).trans h⟩

end Rollups

/-! ## The lifecycle decision -/

/-- The state when no source holds trustworthy evidence. -/
def fadedState (previous : FlowState) (enabled aged restored idle : Bool) : FlowState :=
  if enabled && aged then .Expired
  else if enabled && restored then .Observed
  else if enabled && previous == .Active && idle then .Idle
  else if previous = .Unknown then .Observed
  else previous

/-- The state when usable evidence exists. -/
def liveState (enabled progress idle : Bool) : FlowState :=
  if !progress then .Observed else if enabled && idle then .Idle else .Active

theorem state_decideUnusable (view : GenerationView) (previous : FlowState) (expiry : ExpiryPolicy) (now : Timestamp) :
    (decideUnusable view previous expiry now).state = fadedState previous expiry.enabled
      (agedPast now view.lastObservedAt expiry.expireAfter) (view.sources.any (·.restoredFromJournal))
      (agedPast now view.lastProgressAt expiry.idleAfter) := by
  unfold decideUnusable fadedState finish
  cases expiry.enabled <;> cases agedPast now view.lastObservedAt expiry.expireAfter <;>
    cases view.sources.any (·.restoredFromJournal) <;> cases agedPast now view.lastProgressAt expiry.idleAfter <;>
    cases previous <;> rfl

theorem state_decideUsable (view : GenerationView) (usable : List SourceView) (previous : FlowState)
    (expiry : ExpiryPolicy)
    (now : Timestamp) : (decideUsable view usable previous expiry now).state = liveState expiry.enabled
      (usable.any (·.observedProgress))
      (agedPast now (runningMax (·.lastProgressAt) view.lastProgressAt usable) expiry.idleAfter) := by
  unfold decideUsable liveState finish runningMax
  simp only
  cases usable.any (·.observedProgress) <;> cases expiry.enabled <;>
    cases agedPast now (usable.foldl (fun t v => if t < v.lastProgressAt then v.lastProgressAt else t)
      view.lastProgressAt)
      expiry.idleAfter <;> rfl

section Decision

variable (flow : FlowId) (generation : GenerationId) (policy : ReconciliationPolicy) (isCurrent : Bool)
  {views : List SourceView} {previous : FlowState} (expiry : ExpiryPolicy) (ctx : FreshnessContext)

/-- **What the lifecycle decision comes to** when the generation is open, its sources are not in conflict and none of
them makes a declaration that is honoured. -/
theorem state_of_open (hopen : isTerminal previous = false) (hconflict : ¬ Conflicted policy views)
    (hdeclared : ∀ v ∈ driving views, honoured v = none) :
    (decideGenerationState (reconcileGeneration flow generation views policy isCurrent) previous expiry ctx).state
      = if (views.filter sourceIsUsable).isEmpty then
          fadedState previous expiry.enabled (agedOut expiry ctx.now views) (anyRestored views)
            (idledOut expiry ctx.now views)
        else liveState expiry.enabled ((views.filter sourceIsUsable).any (·.observedProgress))
          (idledOut expiry ctx.now views) := by
  generalize hview : reconcileGeneration flow generation views policy isCurrent = view
  have hsources : view.sources = listed views := by rw [← hview]; rfl
  have hobserved : view.lastObservedAt = latest (·.lastObservedAt) views := by
    rw [← hview]
    exact latest_listed views (fun _ => rfl)
  have hprogress : view.lastProgressAt = latest (·.lastProgressAt) views := by
    rw [← hview]
    exact latest_listed views (fun _ => rfl)
  have hcalm : view.unresolvedConflict = false := by
    rw [← hview]
    exact Bool.eq_false_iff.2 fun h => hconflict ((unresolvedConflict_iff _ _ _ _ _).1 h)
  have hnone : view.sources.findSome? (honour previous) = none := by
    rw [hsources, findSome?_driving, driving_listed, List.findSome?_eq_none_iff]
    intro v hv
    obtain ⟨u, hu, rfl⟩ := mem_listed.1 hv
    have hhonoured : honoured (retotal u) = none := hdeclared u hu
    unfold honour
    rw [hhonoured]
  have husable : view.sources.filter sourceIsUsable = listed (views.filter sourceIsUsable) := by
    rw [hsources]
    exact filter_listed (fun _ => rfl) views
  have hempty : (listed (views.filter sourceIsUsable)).isEmpty = (views.filter sourceIsUsable).isEmpty := by
    have hlength : (listed (views.filter sourceIsUsable)).length = (views.filter sourceIsUsable).length := by
      unfold listed sortSourceViews
      rw [List.length_insertionSort, List.length_map]
    rw [Bool.eq_iff_iff, List.isEmpty_iff_length_eq_zero, List.isEmpty_iff_length_eq_zero, hlength]
  unfold decideGenerationState
  rw [if_neg (by rw [hopen]; exact Bool.false_ne_true), if_neg (by rw [hcalm]; exact Bool.false_ne_true), hnone]
  simp only [husable, hempty]
  by_cases he : (views.filter sourceIsUsable).isEmpty = true
  · rw [if_pos he, if_pos he, state_decideUnusable, hobserved, hprogress, hsources, any_listed views (fun _ => rfl)]
    rfl
  · rw [if_neg he, if_neg he, state_decideUsable]
    have hlatest : runningMax (·.lastProgressAt) view.lastProgressAt (listed (views.filter sourceIsUsable))
        = latest (·.lastProgressAt) views := by
      rw [hprogress, ← latest_listed views (fun _ => rfl), ← filter_listed (fun _ => rfl) views]
      exact runningMax_absorb _ _ fun v hv => List.mem_of_mem_filter hv
    rw [any_listed _ (fun _ => rfl), hlatest]
    rfl

/-- A terminal state, a conflict and an honoured declaration decide without advisory sources. -/
theorem state_of_driving {views' : List SourceView} (h : driving views = driving views')
    (hdecided : isTerminal previous = true ∨ Conflicted policy views ∨ ∃ v ∈ driving views, honoured v ≠ none) :
    (decideGenerationState (reconcileGeneration flow generation views policy isCurrent) previous expiry ctx).state
      = (decideGenerationState (reconcileGeneration flow generation views' policy isCurrent) previous expiry
        ctx).state := by
  have husable : views.filter sourceIsUsable = views'.filter sourceIsUsable := by
    rw [← usable_driving, h, usable_driving]
  have hconflict : (reconcileGeneration flow generation views policy isCurrent).unresolvedConflict
      = (reconcileGeneration flow generation views' policy isCurrent).unresolvedConflict := by
    rw [Bool.eq_iff_iff, unresolvedConflict_iff, unresolvedConflict_iff]
    unfold Conflicted
    rw [husable]
  have hdeclared : (reconcileGeneration flow generation views policy isCurrent).sources.findSome? (honour previous)
      = (reconcileGeneration flow generation views' policy isCurrent).sources.findSome? (honour previous) := by
    show (listed views).findSome? (honour previous) = (listed views').findSome? (honour previous)
    rw [findSome?_driving, findSome?_driving _ (listed views'), driving_listed, driving_listed, h]
  unfold decideGenerationState
  by_cases hterminal : isTerminal previous = true
  · rw [if_pos hterminal, if_pos hterminal]
  · rw [if_neg hterminal, if_neg hterminal, ← hconflict]
    by_cases hc : (reconcileGeneration flow generation views policy isCurrent).unresolvedConflict = true
    · rw [if_pos hc, if_pos hc]
      rfl
    · rw [if_neg hc, if_neg hc, ← hdeclared]
      obtain ⟨v, hv, hhonoured⟩ := (hdecided.resolve_left hterminal).resolve_left
        (fun h => hc ((unresolvedConflict_iff _ _ _ _ _).2 h))
      have hsome : ((reconcileGeneration flow generation views policy isCurrent).sources.findSome?
          (honour previous)).isSome := by
        rw [List.findSome?_isSome_iff]
        refine ⟨retotal v, mem_listed.2 ⟨v, List.mem_of_mem_filter hv, rfl⟩, ?_⟩
        have hsame : honoured (retotal v) = honoured v := rfl
        unfold honour
        rw [hsame]
        revert hhonoured
        unfold honoured
        cases v.advisoryOnly <;> rcases v.declaredTerminal with _ | declared <;> try simp
        cases declared <;> cases v.capabilities.assertsCompletion <;> cases v.capabilities.assertsReset <;> simp
      obtain ⟨d, hd⟩ := Option.isSome_iff_exists.1 hsome
      rw [hd]

end Decision

/-! ## When advisory sources decide nothing -/

/-- Two states without trustworthy evidence are the same. -/
theorem fadedState_eq_iff {previous : FlowState} (h : isTerminal previous = false)
    (enabled aged aged' restored restored' idle idle' : Bool) :
    fadedState previous enabled aged restored idle = fadedState previous enabled aged' restored' idle' ↔
      enabled = false ∨ aged = aged' ∧ (aged = true ∨ previous = .Unknown ∨ previous = .Observed ∨
        restored = restored' ∧ (restored = true ∨ previous ≠ .Active ∨ idle = idle')) := by
  revert h
  cases previous <;> cases enabled <;> cases aged <;> cases aged' <;> revert restored restored' idle idle' <;> decide

theorem liveState_eq_iff (enabled progress idle idle' : Bool) :
    liveState enabled progress idle = liveState enabled progress idle' ↔
      enabled = false ∨ progress = false ∨ idle = idle' := by
  revert enabled progress idle idle'
  decide

/-- What two lists of views with the same driving views must agree on for the lifecycle decision to come out the same.
It is nothing where the driving views decide alone (a terminal state, a conflict, an honoured declaration, no expiry,
usable evidence without progress). Otherwise it is whether all progress is older than `idle_after`, and without usable
evidence whether all evidence is older than `expire_after` and whether any was restored, as far as the previous state
makes these matter. -/
def AdvisoryInert (policy : ReconciliationPolicy) (previous : FlowState) (expiry : ExpiryPolicy) (now : Timestamp)
    (views views' : List SourceView) : Prop :=
  isTerminal previous = true ∨ Conflicted policy views ∨ (∃ v ∈ driving views, honoured v ≠ none) ∨
    expiry.enabled = false ∨
    if (views.filter sourceIsUsable).isEmpty then
      agedOut expiry now views = agedOut expiry now views' ∧ (agedOut expiry now views = true ∨
        previous = .Unknown ∨ previous = .Observed ∨
        anyRestored views = anyRestored views' ∧ (anyRestored views = true ∨ previous ≠ .Active ∨
          idledOut expiry now views = idledOut expiry now views'))
    else (views.filter sourceIsUsable).any (·.observedProgress) = false ∨
      idledOut expiry now views = idledOut expiry now views'

/-- **When views that differ in advisory sources alone are treated alike.** Totals, consistency and visibility always
are. The lifecycle state is when the views agree on what the decision reads of every source. -/
theorem advisory_interferes_iff (flow : FlowId) (generation : GenerationId) (policy : ReconciliationPolicy)
    (isCurrent : Bool)
    (previous : FlowState) (expiry : ExpiryPolicy) (ctx : FreshnessContext) {views views' : List SourceView}
    (h : driving views = driving views') :
    let view := reconcileGeneration flow generation views policy isCurrent
    let view' := reconcileGeneration flow generation views' policy isCurrent
    ((decideGenerationState view previous expiry ctx).state = (decideGenerationState view' previous expiry ctx).state ∧
      view.SameTotals view' ∧ view.consistency = view'.consistency ∧ view.visibility = view'.visibility) ↔
        AdvisoryInert policy previous expiry ctx.now views views' := by
  intro view view'
  rw [and_iff_left (sameTotals_of_driving flow generation policy isCurrent h)]
  unfold AdvisoryInert
  by_cases hdecided : isTerminal previous = true ∨ Conflicted policy views ∨ ∃ v ∈ driving views, honoured v ≠ none
  · refine iff_of_true (state_of_driving flow generation policy isCurrent expiry ctx h hdecided) ?_
    rcases hdecided with hterminal | hconflict | hdeclared
    · exact .inl hterminal
    · exact .inr (.inl hconflict)
    · exact .inr (.inr (.inl hdeclared))
  · simp only [not_or, not_exists, not_and, not_not] at hdecided
    obtain ⟨hopen, hconflict, hdeclared⟩ := hdecided
    replace hopen : isTerminal previous = false := Bool.eq_false_iff.2 hopen
    have husable : views.filter sourceIsUsable = views'.filter sourceIsUsable := by
      rw [← usable_driving, h, usable_driving]
    have hconflict' : ¬ Conflicted policy views' := by
      unfold Conflicted at hconflict ⊢
      rwa [← husable]
    have hstate := state_of_open flow generation policy isCurrent expiry ctx hopen hconflict hdeclared
    have hstate' := state_of_open flow generation policy isCurrent expiry ctx hopen hconflict' (h ▸ hdeclared)
    rw [or_iff_right (by rw [hopen]; exact Bool.false_ne_true), or_iff_right hconflict, or_iff_right
      (fun ⟨v, hv, hne⟩ => hne (hdeclared v hv)), hstate, hstate', ← husable]
    by_cases he : (views.filter sourceIsUsable).isEmpty = true
    · rw [if_pos he, if_pos he, if_pos he]
      exact fadedState_eq_iff hopen _ _ _ _ _ _ _
    · rw [if_neg he, if_neg he, if_neg he]
      exact liveState_eq_iff _ _ _ _

/-- A flow is idle after 100 ns without progress. -/
def quickIdle : ExpiryPolicy := { idleAfter := ⟨100⟩ }

/-- Usable evidence whose last progress is long ago. -/
def quietView : SourceView :=
  { source := ⟨1⟩, freshness := .Fresh, reconfirmed := true, observedProgress := true
    lastObservedAt := ⟨990⟩, lastProgressAt := ⟨10⟩ }

/-- Advisory evidence of progress just now. -/
def advisoryView : SourceView :=
  { source := ⟨2⟩, advisoryOnly := true, freshness := .Fresh, reconfirmed := true, observedProgress := true
    lastObservedAt := ⟨990⟩, lastProgressAt := ⟨990⟩ }

theorem advisory_interferes_iff_quiet :
    let view := reconcileGeneration ⟨7⟩ ⟨1⟩ [quietView] {} true
    let view' := reconcileGeneration ⟨7⟩ ⟨1⟩ [quietView, advisoryView] {} true
    ((decideGenerationState view .Active quickIdle { now := ⟨1000⟩ }).state
        = (decideGenerationState view' .Active quickIdle { now := ⟨1000⟩ }).state ∧
      view.SameTotals view' ∧ view.consistency = view'.consistency ∧ view.visibility = view'.visibility) ↔
        AdvisoryInert {} .Active quickIdle ⟨1000⟩ [quietView] [quietView, advisoryView] :=
  advisory_interferes_iff ⟨7⟩ ⟨1⟩ {} true .Active quickIdle { now := ⟨1000⟩ } rfl

/-- **Progress that only an advisory source saw keeps a flow active.** -/
theorem advisory_keeps_active : ¬ ∀ (flow : FlowId) (generation : GenerationId) (policy : ReconciliationPolicy)
    (isCurrent : Bool) (previous : FlowState) (expiry : ExpiryPolicy) (ctx : FreshnessContext)
      (views views' : List SourceView),
    driving views = driving views' →
      let view := reconcileGeneration flow generation views policy isCurrent
      let view' := reconcileGeneration flow generation views' policy isCurrent
      (decideGenerationState view previous expiry ctx).state = (decideGenerationState view' previous expiry ctx).state ∧
        view.SameTotals view' ∧ view.consistency = view'.consistency ∧ view.visibility = view'.visibility := by
  intro h
  obtain ⟨hstate, -⟩ := h ⟨7⟩ ⟨1⟩ {} true .Active quickIdle { now := ⟨1000⟩ } [quietView] [quietView, advisoryView] rfl
  have hdiffer : (decideGenerationState (reconcileGeneration ⟨7⟩ ⟨1⟩ [quietView] {} true) .Active quickIdle
      { now := ⟨1000⟩ }).state ≠ (decideGenerationState (reconcileGeneration ⟨7⟩ ⟨1⟩ [quietView, advisoryView] {} true)
        .Active quickIdle { now := ⟨1000⟩ }).state := by
    decide
  exact hdiffer hstate

end FlowObs
