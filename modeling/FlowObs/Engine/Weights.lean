import FlowObs.Engine.Attribution
import FlowObs.Engine.Names

/-!
# Whose links the capacities weight

The links of a generation are those of all its sources, in the order of first sight, and the capacities are those of
the first source that has any. Only the two lengths are compared. `capacities_belong_iff` says when the links that are
weighted are those of a source that supplied the capacities.
-/

namespace FlowObs

/-! ## First sights -/

section FirstSights

variable {α : Type} [DecidableEq α]

theorem removeAll_append_singleton (l acc : List α) (a : α) :
    l.removeAll (acc ++ [a]) = (l.removeAll acc).filter (fun b => !b == a) := by
  rw [List.removeAll, List.removeAll, List.filter_filter]
  refine List.filter_congr fun b _ => ?_
  by_cases hb : b ∈ acc <;> simp [hb, beq_eq_decide]

/-- Keeping what is new keeps the first sights. -/
theorem foldl_pushNew_eq : ∀ (l acc : List α), (l.map some).foldl pushNew acc = acc ++ (l.removeAll acc).eraseDups
  | [], acc => by simp [List.removeAll]
  | a :: l, acc => by
    rw [List.map_cons, List.foldl_cons, foldl_pushNew_eq l, pushNew]
    by_cases ha : a ∈ acc
    · rw [if_pos ha]
      simp [List.removeAll, ha]
    · have hcons : (a :: l).removeAll acc = a :: l.removeAll acc := by simp [List.removeAll, ha]
      rw [if_neg ha, removeAll_append_singleton, hcons, List.eraseDups_cons, List.append_assoc]
      rfl

theorem nodup_eraseDups (l : List α) : l.eraseDups.Nodup := by
  have hfold := foldl_pushNew_eq l []
  rw [List.nil_append, show l.removeAll [] = l by simp [List.removeAll]] at hfold
  rw [← hfold]
  exact nodup_foldl_pushNew _ List.nodup_nil

theorem eraseDups_of_nodup : ∀ {l : List α}, l.Nodup → l.eraseDups = l
  | [], _ => rfl
  | a :: l, h => by
    obtain ⟨hnot, hl⟩ := List.nodup_cons.1 h
    have hfilter : l.filter (fun b => !b == a) = l := by
      refine List.filter_eq_self.2 fun b hb => ?_
      have hne : b ≠ a := fun heq => hnot (heq ▸ hb)
      simp [hne]
    rw [List.eraseDups_cons, hfilter, eraseDups_of_nodup hl]

/-- **The first sights among three lists are the middle one** when it repeats nothing and has everything, and the
first sights of the list before it are its beginning. -/
theorem eraseDups_eq_middle {before l after : List α} : (before ++ l ++ after).eraseDups = l ↔
    l.Nodup ∧ (∀ a ∈ before ++ after, a ∈ l) ∧ before.eraseDups <+: l := by
  constructor
  · intro h
    refine ⟨h ▸ nodup_eraseDups _, fun a ha => ?_, ?_⟩
    · have hmem : a ∈ (before ++ l ++ after).eraseDups := by
        rw [List.mem_eraseDups]
        rcases List.mem_append.1 ha with ha | ha
        · exact List.mem_append_left _ (List.mem_append_left _ ha)
        · exact List.mem_append_right _ ha
      rwa [h] at hmem
    · rw [List.append_assoc, List.eraseDups_append] at h
      exact ⟨_, h⟩
  · rintro ⟨hnodup, hall, ⟨rest, hrest⟩⟩
    have hafter : after.removeAll (before ++ l) = [] := by
      rw [List.removeAll, List.filter_eq_nil_iff]
      intro a ha
      simp [hall a (List.mem_append_right _ ha)]
    have hl : l.removeAll before = rest := by
      rw [← hrest, List.removeAll, List.filter_append]
      have hdisjoint := (List.nodup_append.1 (hrest ▸ hnodup)).2.2
      rw [List.filter_eq_nil_iff.2, List.filter_eq_self.2, List.nil_append]
      · intro a ha
        have hnot : a ∉ before := fun hb => hdisjoint a (List.mem_eraseDups.2 hb) a ha rfl
        simp [hnot]
      · intro a ha
        simp [List.mem_eraseDups.1 ha]
    have hrestnodup : rest.Nodup := (List.nodup_append.1 (hrest ▸ hnodup)).2.1
    rw [List.eraseDups_append, List.eraseDups_append, hafter, hl, eraseDups_of_nodup hrestnodup, List.eraseDups_nil,
      List.append_nil]
    exact hrest

end FirstSights

/-! ## The capacities of a generation -/

/-- A listed source has the capacities of the first source that has any. It names no link twice and every link that
any source names, and the links that the sources listed before it name first are, in their order, the beginning of its
own. -/
def CapacitiesMatch (views : List SourceView) : Prop :=
  ∃ before s after supplier, listed views = before ++ s :: after ∧
    (listed views).find? (fun v => !v.hopCapacityUnits.isEmpty) = some supplier ∧
    s.hopCapacityUnits = supplier.hopCapacityUnits ∧
    s.links.Nodup ∧ (∀ v ∈ listed views, ∀ l ∈ v.links, l ∈ s.links) ∧ (before.flatMap (·.links)).eraseDups <+: s.links

theorem mergeLinks_eq_eraseDups (sources : List SourceView) :
    mergeLinks sources = (sources.flatMap (·.links)).eraseDups := by
  rw [mergeLinks_eq, foldl_pushNew_eq, List.nil_append]
  simp [List.removeAll]

/-- The links of a generation are those of one of its sources. -/
theorem mergeLinks_eq_iff {before after : List SourceView} {s : SourceView} :
    mergeLinks (before ++ s :: after) = s.links ↔
    s.links.Nodup ∧ (∀ v ∈ before ++ s :: after, ∀ l ∈ v.links, l ∈ s.links) ∧
    (before.flatMap (·.links)).eraseDups <+: s.links := by
  have hsplit : (before ++ s :: after).flatMap (·.links)
      = before.flatMap (·.links) ++ s.links ++ after.flatMap (·.links) := by
    rw [List.flatMap_append, List.flatMap_cons, List.append_assoc]
  rw [mergeLinks_eq_eraseDups, hsplit, eraseDups_eq_middle]
  refine and_congr_right fun _ => and_congr_left fun _ => ?_
  constructor
  · intro h v hv l hl
    rcases List.mem_append.1 hv with hv | hv
    · exact h l (List.mem_append_left _ (List.mem_flatMap.2 ⟨v, hv, hl⟩))
    · rcases List.mem_cons.1 hv with rfl | hv
      · exact hl
      · exact h l (List.mem_append_right _ (List.mem_flatMap.2 ⟨v, hv, hl⟩))
  · intro h l hl
    rcases List.mem_append.1 hl with hl | hl
    · obtain ⟨v, hv, hl⟩ := List.mem_flatMap.1 hl
      exact h v (List.mem_append_left _ hv) l hl
    · obtain ⟨v, hv, hl⟩ := List.mem_flatMap.1 hl
      exact h v (List.mem_append_right _ (List.mem_cons_of_mem _ hv)) l hl

/-- What an attribution by capacity that succeeds has checked. -/
theorem attributed_by_capacity {flow : FlowSnapshot} {g : GenerationView} {policy : AttributionPolicy}
    {maxTargets : Nat}
    (hmethod : policy.method = .ProportionalToCapacity)
      (hok : (attributeGeneration flow g policy maxTargets).status = .Ok) :
    g.links ≠ [] ∧ g.hopCapacityUnits.length = g.links.length := by
  unfold attributeGeneration at hok
  dsimp only at hok
  split at hok
  · cases hok
  split at hok
  · cases hok
  split at hok
  · cases hok
  unfold attributeTotal at hok
  dsimp only at hok
  rw [if_neg (by rw [hmethod]; decide)] at hok
  split at hok
  · cases hok
  rename_i hlinks
  split at hok
  · cases hok
  simp only [Bool.or_eq_true, List.isEmpty_iff, not_or] at hlinks
  refine ⟨hlinks.2, ?_⟩
  by_contra hlen
  rw [hopWeights, if_pos hmethod, if_pos hlen] at hok
  cases hok

/-- **Exactly when the capacities belong to the links they weight.** The attribution by capacity of a reconciled
generation succeeds. -/
theorem capacities_belong_iff {flow : FlowId} {generation : GenerationId} {views : List SourceView}
    {reconciliation : ReconciliationPolicy}
    {isCurrent : Bool} {snapshot : FlowSnapshot} {policy : AttributionPolicy} {maxTargets : Nat}
    (hmethod : policy.method = .ProportionalToCapacity) (hok : (attributeGeneration snapshot
      (reconcileGeneration flow generation views reconciliation isCurrent) policy maxTargets).status = .Ok) :
    (∃ s ∈ views,
      s.hopCapacityUnits = (reconcileGeneration flow generation views reconciliation isCurrent).hopCapacityUnits ∧
      s.links = (reconcileGeneration flow generation views reconciliation isCurrent).links) ↔
        CapacitiesMatch views := by
  obtain ⟨hlinks, hlen⟩ := attributed_by_capacity hmethod hok
  have hcapacities : (reconcileGeneration flow generation views reconciliation isCurrent).hopCapacityUnits
      = (((listed views).find? (fun v => !v.hopCapacityUnits.isEmpty)).map (·.hopCapacityUnits)).getD [] := rfl
  have hmerged : (reconcileGeneration flow generation views reconciliation isCurrent).links =
      mergeLinks (listed views) := rfl
  rw [hcapacities] at hlen ⊢
  rw [hmerged] at hlinks hlen ⊢
  cases hfind : (listed views).find? (fun v => !v.hopCapacityUnits.isEmpty) with
  | none =>
    rw [hfind] at hlen
    exact absurd (List.eq_nil_of_length_eq_zero hlen.symm) hlinks
  | some supplier =>
    rw [Option.map_some, Option.getD_some]
    constructor
    · rintro ⟨s, hs, hsupplied, hsame⟩
      have hmem : retotal s ∈ listed views := mem_listed.2 ⟨s, hs, rfl⟩
      obtain ⟨before, after, hsplit⟩ := List.append_of_mem hmem
      have hlist : mergeLinks (before ++ retotal s :: after) = (retotal s).links := by
        rw [← hsplit]
        exact hsame.symm
      refine ⟨before, retotal s, after, supplier, hsplit, hfind, hsupplied, ?_⟩
      rw [hsplit]
      exact mergeLinks_eq_iff.1 hlist
    · rintro ⟨before, s, after, first, hsplit, hfirst, hsupplied, hlist⟩
      have hmem : s ∈ listed views := by
        rw [hsplit]
        exact List.mem_append_right _ List.mem_cons_self
      obtain ⟨u, hu, rfl⟩ := mem_listed.1 hmem
      obtain rfl : supplier = first := Option.some.inj (hfind.symm.trans hfirst)
      refine ⟨u, hu, hsupplied, ?_⟩
      rw [hsplit] at hlist ⊢
      exact (mergeLinks_eq_iff.2 hlist).symm

/-- A fresh source with links and capacities on one path. -/
def hopView (source : SourceId) (links : List LinkId) (capacities : List UInt64) : SourceView :=
  { source := source, freshness := .Fresh, reconfirmed := true, path := some ⟨1⟩, links := links,
    hopCapacityUnits := capacities }

/-- The weights of the capacities. -/
def byCapacity : AttributionPolicy := { method := .ProportionalToCapacity }

/-- Two sources on the same two links. -/
theorem capacities_belong_same : ∃ s ∈ [hopView ⟨1⟩ [⟨10⟩, ⟨20⟩] [3, 1], hopView ⟨2⟩ [⟨20⟩, ⟨10⟩] []],
    s.hopCapacityUnits = (reconcileGeneration ⟨7⟩ ⟨1⟩ [hopView ⟨1⟩ [⟨10⟩, ⟨20⟩] [3, 1], hopView ⟨2⟩ [⟨20⟩, ⟨10⟩] []] {}
      true).hopCapacityUnits ∧
    s.links = (reconcileGeneration ⟨7⟩ ⟨1⟩ [hopView ⟨1⟩ [⟨10⟩, ⟨20⟩] [3, 1], hopView ⟨2⟩ [⟨20⟩, ⟨10⟩] []] {}
      true).links :=
  (@capacities_belong_iff ⟨7⟩ ⟨1⟩ [hopView ⟨1⟩ [⟨10⟩, ⟨20⟩] [3, 1], hopView ⟨2⟩ [⟨20⟩, ⟨10⟩] []] {} true {}
    byCapacity 100
    rfl (by decide)).2 ⟨[], _, _, _, rfl, rfl, rfl, by decide, by decide, List.nil_prefix⟩

/-- **Two hops by accident**: the first source has two capacities and one link, the second another link. -/
theorem capacities_misplaced : ¬ ∀ (views : List SourceView) (policy : AttributionPolicy),
    policy.method = .ProportionalToCapacity →
    (attributeGeneration {} (reconcileGeneration ⟨7⟩ ⟨1⟩ views {} true) policy 100).status = .Ok →
    ∃ s ∈ views, s.hopCapacityUnits = (reconcileGeneration ⟨7⟩ ⟨1⟩ views {} true).hopCapacityUnits ∧
      s.links = (reconcileGeneration ⟨7⟩ ⟨1⟩ views {} true).links := by
  intro h
  obtain ⟨hok, hnone⟩ : (attributeGeneration {}
    (reconcileGeneration ⟨7⟩ ⟨1⟩ [hopView ⟨1⟩ [⟨10⟩] [5, 7], hopView ⟨2⟩ [⟨20⟩] []] {} true)
      byCapacity 100).status = .Ok ∧
        (reconcileGeneration ⟨7⟩ ⟨1⟩ [hopView ⟨1⟩ [⟨10⟩] [5, 7], hopView ⟨2⟩ [⟨20⟩] []] {} true).links
        = [⟨10⟩, ⟨20⟩] := by decide
  obtain ⟨s, hs, -, hlinks⟩ := h _ byCapacity rfl hok
  rw [hnone] at hlinks
  simp only [List.mem_cons, List.not_mem_nil, or_false] at hs
  rcases hs with rfl | rfl <;> cases hlinks

end FlowObs
