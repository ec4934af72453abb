import FlowObs.Advisory
import FlowObs.Fold
import FlowObs.Engine.Coherent
import FlowObs.Engine.Tables
import FlowObs.Engine.Terminal
import Mathlib.Data.Finset.Card
import Mathlib.Data.Finset.Dedup

/-!
# The links and the queues of a generation

A source names links and queues one observation at a time, and what it has named is kept (`Naming`): neither its fold
nor the merge of the sources drops any, but for the budget of the merged queues. Nor does a file that is loaded ask
what room there is for its sources. The bounds on all three hold in a run whose observations name no more than there
is room for, and which reads no file that brings more sources than that (`retains_within`).
-/

namespace FlowObs

/-! ## Names without repetition -/

section Push

variable {α : Type} [DecidableEq α]

theorem mem_pushNew {l : List α} {o : Option α} {a : α} : a ∈ pushNew l o ↔ a ∈ l ∨ o = some a := by
  cases o with
  | none => simp [pushNew]
  | some b =>
    simp only [pushNew]
    by_cases hb : b ∈ l
    · simp only [hb, if_true, Option.some.injEq]
      exact ⟨.inl, fun h => h.elim id (fun h => h ▸ hb)⟩
    · simp only [hb, if_false, List.mem_append, List.mem_singleton, Option.some.injEq, eq_comm]

theorem nodup_pushNew {l : List α} (h : l.Nodup) (o : Option α) : (pushNew l o).Nodup := by
  cases o with
  | none => exact h
  | some b =>
    simp only [pushNew]
    by_cases hb : b ∈ l
    · rwa [if_pos hb]
    · rw [if_neg hb]
      exact List.Nodup.append h (List.nodup_singleton b) (by simpa using hb)

/-- What is pushed one by one has no repetition. -/
theorem nodup_foldl_pushNew (names : List (Option α)) {l : List α} (h : l.Nodup) : (names.foldl pushNew l).Nodup := by
  induction names generalizing l with
  | nil => exact h
  | cons o names ih => exact ih (nodup_pushNew h o)

theorem mem_foldl_pushNew {names : List (Option α)} {l : List α} {a : α} :
    a ∈ names.foldl pushNew l ↔ a ∈ l ∨ some a ∈ names := by
  induction names generalizing l with
  | nil => simp
  | cons o names ih => rw [List.foldl_cons, ih, mem_pushNew, List.mem_cons, or_assoc, eq_comm (a := o)]

/-- A list without repetition is as long as the set of its elements, at most as a set that they are in. -/
theorem length_le_of_subset {l : List α} {s : Finset α} (h : l.Nodup) (hs : ∀ a ∈ l, a ∈ s) : l.length ≤ s.card := by
  rw [← List.toFinset_card_of_nodup h]
  exact Finset.card_le_card fun a ha => hs a (List.mem_toFinset.1 ha)

end Push

/-! ## What a source names -/

/-- A kind of name that a fold collects: where it is kept, where a view shows it, and where an observation gives it. -/
structure Naming (α : Type) [DecidableEq α] where
  kept : FoldState → List α
  shown : SourceView → List α
  named : Observation → Option α
  start : kept {} = []
  restored : ∀ p, kept (restorePrefix p).toFoldState = []
  applied : ∀ policy s obs, kept (applyObservation policy s obs) =
    if s.declared then kept s else pushNew (kept s) (named obs)
  marked : ∀ policy s obs, kept (SourceLedger.foldEntry policy s obs) = kept (applyObservation policy s obs)
  folded : ∀ ledger descriptor ctx counters,
    shown (foldSourceView ledger descriptor ctx counters) = kept (ledger.foldAll counters)
  viewed : ∀ config b descriptor ctx, shown (retotal (sourceView config b descriptor ctx)) =
    shown (b.fold descriptor ctx config)

/-- What the stages of an observation that is counted collect, when the correlation is what collects. -/
theorem collected {α : Type} [DecidableEq α] (kept : FoldState → List α) (named : Observation → Option α)
    (hrolled : ∀ s obs, kept (rollUp s obs) = kept s) (hnote : ∀ s kind, kept (FoldState.note s kind) = kept s)
    (hbreak : ∀ s, kept (FoldState.breakInterval s) = kept s)
    (hset : ∀ s incarnation epoch distinct, kept { s with
      currentIncarnation := incarnation, currentEpoch := epoch, distinctIncarnations := distinct } = kept s)
    (hseen : ∀ s kind direction evidence counters coverage, kept { s with
      lastKind := kind, lastDirection := direction, lastEvidence := evidence, lastCounters := counters
      coverage := coverage } = kept s)
    (hdeclare : ∀ s obs, kept (declare s obs) = kept s)
    (hcorrelate : ∀ s obs, kept (correlate s obs) = pushNew (kept s) (named obs))
    (haccounting : ∀ s d direction, kept (FoldState.setAccounting s d direction) = kept s)
    (hprogress : ∀ s last, kept { s with lastProgressAt := last, observedProgress := true } = kept s)
    (hafter : ∀ s n, kept { s with afterTerminalObservations := n } = kept s)
    (policy : CounterPolicy) (s : FoldState) (obs : Observation) :
    kept (applyObservation policy s obs) = if s.declared then kept s else pushNew (kept s) (named obs) := by
  have hfence : kept (fence (rollUp s obs) obs policy) = kept s :=
    (fence_frame policy (rollUp s obs) obs kept hnote hbreak hset).trans (hrolled s obs)
  have hdeclared : (fence (rollUp s obs) obs policy).declared = s.declared := by
    unfold FoldState.declared
    rw [declaredTerminal_fence]
  unfold applyObservation
  generalize fence (rollUp s obs) obs policy = t at hfence hdeclared ⊢
  by_cases hd : t.declared = true
  · rw [if_pos hd, if_pos (hdeclared ▸ hd), ← hfence]
    exact hafter t _
  · rw [if_neg hd, if_neg (hdeclared ▸ hd), count_frame policy _ obs kept hnote haccounting hprogress, hcorrelate,
      hdeclare, cover_frame t obs kept hnote hseen, hfence]

/-- The links. -/
def linkNaming : Naming LinkId where
  kept := FoldState.links
  shown := SourceView.links
  named obs := obs.subject.link
  start := rfl
  restored _ := rfl
  applied := collected FoldState.links (·.subject.link) (fun _ _ => rfl) (fun _ _ => rfl) (fun _ => rfl)
    (fun _ _ _ _ => rfl)
    (fun _ _ _ _ _ _ => rfl) (fun _ obs => by unfold declare; cases obs.kind <;> rfl) (fun _ _ => rfl)
    (fun _ _ direction => by cases direction <;> rfl) (fun _ _ => rfl) (fun _ _ => rfl)
  marked := foldEntry_frame FoldState.links (fun _ => rfl)
  folded _ _ _ _ := rfl
  viewed _ _ _ _ := rfl

/-- The queues. -/
def queueNaming : Naming QueueId where
  kept := FoldState.queues
  shown := SourceView.queues
  named obs := obs.subject.queue
  start := rfl
  restored _ := rfl
  applied := collected FoldState.queues (·.subject.queue) (fun _ _ => rfl) (fun _ _ => rfl) (fun _ => rfl)
    (fun _ _ _ _ => rfl)
    (fun _ _ _ _ _ _ => rfl) (fun _ obs => by unfold declare; cases obs.kind <;> rfl) (fun _ _ => rfl)
    (fun _ _ direction => by cases direction <;> rfl) (fun _ _ => rfl) (fun _ _ => rfl)
  marked := foldEntry_frame FoldState.queues (fun _ => rfl)
  folded _ _ _ _ := rfl
  viewed _ _ _ _ := rfl

/-- The observations that the fold of a ledger counts past its prefix. -/
def SourceLedger.counting (l : SourceLedger) : List Observation :=
  if l.prefixState.declared then [] else counted l.entries.toList

namespace Naming

variable {α : Type} [DecidableEq α] (n : Naming α)

/-- The names that a ledger holds: those of its prefix, and those of the observations that its fold counts. -/
def ofLedger (l : SourceLedger) : Finset α :=
  (n.kept l.prefixState.toFoldState).toFinset ∪ (l.counting.filterMap n.named).toFinset

/-- The names that a binding holds: those of its ledger and those of its cached fold. -/
def ofBinding (b : SourceBinding) : Finset α :=
  n.ofLedger b.ledger ∪ (b.cached.elim [] n.shown).toFinset

/-- The names that the bindings of a generation hold. -/
def ofBindings (bindings : List SourceBinding) : Finset α := bindings.foldr (fun b names => n.ofBinding b ∪ names) ∅

theorem mem_ofBindings {bindings : List SourceBinding} {a : α} :
    a ∈ n.ofBindings bindings ↔ ∃ b ∈ bindings, a ∈ n.ofBinding b := by
  unfold ofBindings
  induction bindings with
  | nil => simp
  | cons b bindings ih => simp [ih]

/-- **What a fold keeps** is what it kept and what the observations that it counts name. -/
theorem kept_foldl (policy : CounterPolicy) (entries : List Observation) (s : FoldState) :
    n.kept (entries.foldl (applyObservation policy) s)
      = ((if s.declared then [] else counted entries).map n.named).foldl pushNew (n.kept s) := by
  induction entries generalizing s with
  | nil => cases s.declared <;> rfl
  | cons obs entries ih =>
    rw [List.foldl_cons, ih, n.applied, declared_applyObservation, counted]
    cases s.declared with
    | true => rfl
    | false =>
      rw [Bool.false_or, if_neg Bool.false_ne_true, if_neg Bool.false_ne_true, List.map_cons, List.foldl_cons]

theorem mem_kept_foldAll {l : SourceLedger} {counters : CounterPolicy} {a : α} :
    a ∈ n.kept (l.foldAll counters) ↔ a ∈ n.ofLedger l := by
  unfold SourceLedger.foldAll ofLedger SourceLedger.counting
  rw [kept_foldl, mem_foldl_pushNew, Finset.mem_union, List.mem_toFinset, List.mem_toFinset, List.mem_map,
    List.mem_filterMap]

/-- The names of a binding are kept without repetition. -/
structure Tidy (b : SourceBinding) : Prop where
  ledger : (n.kept b.ledger.prefixState.toFoldState).Nodup
  cached : ∀ v, b.cached = some v → (n.shown v).Nodup

variable {n} {b : SourceBinding}

theorem Tidy.foldAll (h : n.Tidy b) (counters : CounterPolicy) : (n.kept (b.ledger.foldAll counters)).Nodup := by
  unfold SourceLedger.foldAll
  rw [kept_foldl]
  exact nodup_foldl_pushNew _ h.ledger

/-- **What a view shows** is without repetition, and among the names of its binding. -/
theorem Tidy.fold (h : n.Tidy b) (descriptor : SourceDescriptor) (ctx : FreshnessContext) (config : EngineConfig) :
    (n.shown (b.fold descriptor ctx config)).Nodup ∧ ∀ a ∈ n.shown (b.fold descriptor ctx config),
    a ∈ n.ofBinding b := by
  unfold SourceBinding.fold ofBinding
  cases hc : b.cached with
  | none =>
    rw [Option.getD_none, n.folded]
    exact ⟨h.foldAll _, fun a ha => Finset.mem_union_left _ (n.mem_kept_foldAll.1 ha)⟩
  | some v => exact ⟨h.cached v hc, fun a ha => Finset.mem_union_right _ (List.mem_toFinset.2 ha)⟩

theorem tidy_fresh (limits : Limits) (replaying : Bool) (source : SourceId) (generation : FlowGeneration) :
    n.Tidy (freshBinding limits replaying source generation) where
  ledger := n.start.symm ▸ List.nodup_nil
  cached v hv := by cases hv

/-- A restored binding has no names. -/
theorem tidy_restoreSource (limits : Limits) (generation : FlowGeneration) (p : PersistedSource) :
    n.Tidy (restoreSource limits generation p) ∧ n.ofBinding (restoreSource limits generation p) = ∅ := by
  have hkept : n.kept (restoreSource limits generation p).ledger.prefixState.toFoldState = [] := n.restored p
  refine ⟨⟨hkept.symm ▸ List.nodup_nil, fun v hv => (by cases hv)⟩, ?_⟩
  have hcounting : (restoreSource limits generation p).ledger.counting = [] := by
    unfold SourceLedger.counting
    split <;> rfl
  unfold ofBinding ofLedger
  rw [hkept, hcounting]
  rfl

/-- Caching the fold adds no name. -/
theorem Tidy.refresh (h : n.Tidy b) (config : EngineConfig) (sources : SourceTable) (ctx : FreshnessContext) :
    n.Tidy (refreshBinding config sources ctx b) ∧
    n.ofBinding (refreshBinding config sources ctx b) ⊆ n.ofBinding b := by
  unfold refreshBinding
  cases sources.find? b.source with
  | none => exact ⟨h, Finset.Subset.refl _⟩
  | some s =>
    obtain ⟨hnodup, hnames⟩ := h.fold s.descriptor ctx config
    refine ⟨⟨h.ledger, fun v hv => ?_⟩, fun a ha => ?_⟩
    · cases hv
      exact hnodup
    · rcases Finset.mem_union.1 ha with ha | ha
      · exact Finset.mem_union_left _ ha
      · exact hnames a (List.mem_toFinset.1 ha)

/-- An insertion keeps the prefix without repetition. -/
theorem nodup_insert {l : SourceLedger} (h : (n.kept l.prefixState.toFoldState).Nodup) (obs : Observation) :
    (n.kept (l.insert obs).1.prefixState.toFoldState).Nodup := by
  have hfolded : ∀ (policy : CounterPolicy) (entries : List Observation) (s : FoldState), (n.kept s).Nodup →
      (n.kept (entries.foldl (SourceLedger.foldEntry policy) s)).Nodup := by
    intro policy entries
    induction entries with
    | nil => exact fun s h => h
    | cons obs entries ih =>
      intro s h
      refine ih _ ?_
      rw [n.marked, n.applied]
      split
      · exact h
      · exact nodup_pushNew h _
  have hcases := l.insert_cases obs
  generalize (l.insert obs).1 = l' at hcases ⊢
  generalize (l.insert obs).2.kind = kind at hcases
  cases hcases with
  | accepted _ _ _ =>
    rw [SourceLedger.compactEntries_foldOut]
    exact hfolded _ _ _ h
  | _ => exact h

theorem Tidy.take (h : n.Tidy b) (replaying : Bool) (obs : Observation) : n.Tidy (b.take replaying obs).1 := by
  refine ⟨?_, fun v hv => ?_⟩
  · rw [SourceBinding.take_ledger]
    exact nodup_insert h.ledger obs
  · unfold SourceBinding.take at hv
    cases hk : (b.ledger.insert obs).2.kind with
    | Accepted => simp [hk] at hv
    | _ => exact h.cached v (by simpa [hk] using hv)

end Naming

/-! ## What the sources of a generation name -/

/-- The links of the sources, one by one. -/
theorem mergeLinks_eq (sources : List SourceView) :
    mergeLinks sources = ((sources.flatMap (·.links)).map some).foldl pushNew [] := by
  have hall : ∀ acc, sources.foldl (fun acc v => v.links.foldl (fun acc l => pushNew acc (some l)) acc) acc
      = ((sources.flatMap (·.links)).map some).foldl pushNew acc := by
    induction sources with
    | nil => exact fun _ => rfl
    | cons v sources ih =>
      intro acc
      rw [List.foldl_cons, ih, List.flatMap_cons, List.map_append, List.foldl_append, List.foldl_map (l := v.links)]
  exact hall []

/-- The merged queues are queues of the sources, without repetition, and no more than the budget. -/
theorem mergeQueues_spec (budget : Nat) (sources : List SourceView) : (mergeQueues budget sources).Nodup ∧
    (∀ a ∈ mergeQueues budget sources, ∃ v ∈ sources, a ∈ v.queues) ∧ (mergeQueues budget sources).length ≤ budget := by
  have hqueues : ∀ (queues acc : List QueueId), acc.Nodup → acc.length ≤ budget →
      let merged := queues.foldl (fun acc q => if budget ≤ acc.length then acc else pushNew acc (some q)) acc
      merged.Nodup ∧ (∀ a ∈ merged, a ∈ acc ∨ a ∈ queues) ∧ merged.length ≤ budget := by
    intro queues
    induction queues with
    | nil => exact fun acc hnodup hlen => ⟨hnodup, fun a ha => .inl ha, hlen⟩
    | cons q queues ih =>
      intro acc hnodup hlen
      have hnext : (if budget ≤ acc.length then acc else pushNew acc (some q)).Nodup ∧
          (if budget ≤ acc.length then acc else pushNew acc (some q)).length ≤ budget := by
        split
        · exact ⟨hnodup, hlen⟩
        · refine ⟨nodup_pushNew hnodup _, ?_⟩
          simp only [pushNew]
          split
          · exact hlen
          · rw [List.length_append, List.length_singleton]
            omega
      obtain ⟨hn, hmem, hl⟩ := ih _ hnext.1 hnext.2
      refine ⟨hn, fun a ha => ?_, hl⟩
      rcases hmem a ha with ha | ha
      · split at ha
        · exact .inl ha
        · rcases mem_pushNew.1 ha with ha | ha
          · exact .inl ha
          · cases ha
            exact .inr List.mem_cons_self
      · exact .inr (List.mem_cons_of_mem _ ha)
  have hall : ∀ acc : List QueueId, acc.Nodup → acc.length ≤ budget →
      let merged := sources.foldl (fun acc v => v.queues.foldl
        (fun acc q => if budget ≤ acc.length then acc else pushNew acc (some q)) acc) acc
      merged.Nodup ∧ (∀ a ∈ merged, a ∈ acc ∨ ∃ v ∈ sources, a ∈ v.queues) ∧ merged.length ≤ budget := by
    induction sources with
    | nil => exact fun acc hnodup hlen => ⟨hnodup, fun a ha => .inl ha, hlen⟩
    | cons v sources ih =>
      intro acc hnodup hlen
      obtain ⟨hn, hmem, hl⟩ := hqueues v.queues acc hnodup hlen
      obtain ⟨hn', hmem', hl'⟩ := ih _ hn hl
      refine ⟨hn', fun a ha => ?_, hl'⟩
      rcases hmem' a ha with ha | ⟨w, hw, ha⟩
      · exact (hmem a ha).imp id (fun ha => ⟨v, List.mem_cons_self, ha⟩)
      · exact .inr ⟨w, List.mem_cons_of_mem _ hw, ha⟩
  obtain ⟨hn, hmem, hl⟩ := hall [] List.nodup_nil (Nat.zero_le _)
  exact ⟨hn, fun a ha => (hmem a ha).resolve_left List.not_mem_nil, hl⟩

/-- The bounds on what a generation retains, for each of its sources and after they are merged. -/
structure GenerationView.Within (limits : Limits) (v : GenerationView) : Prop where
  queues : v.queues.length ≤ limits.maxQueuesPerFlow.toNat
  links : v.links.length ≤ limits.maxPathHops.toNat
  sources : ∀ u ∈ v.sources, u.queues.length ≤ limits.maxQueuesPerFlow.toNat ∧ u.links.length ≤ limits.maxPathHops.toNat

/-- There is room for what the bindings of a generation name: for the queues of each, for all their links, and for all
their queues unless the budget of the merge is as small. -/
structure Limits.Room (limits : Limits) (bindings : List SourceBinding) : Prop where
  queues : ∀ b ∈ bindings, (queueNaming.ofBinding b).card ≤ limits.maxQueuesPerFlow.toNat
  links : (linkNaming.ofBindings bindings).card ≤ limits.maxPathHops.toNat
  merged : (queueNaming.ofBindings bindings).card ≤ limits.maxQueuesPerFlow.toNat ∨
    4 * (bindings.map (·.source)).toFinset.card + 4 ≤ limits.maxQueuesPerFlow.toNat

theorem room_iff {limits : Limits} {bindings : List SourceBinding} : limits.Room bindings ↔
    (∀ b ∈ bindings, (queueNaming.ofBinding b).card ≤ limits.maxQueuesPerFlow.toNat) ∧
    (linkNaming.ofBindings bindings).card ≤ limits.maxPathHops.toNat ∧
    ((queueNaming.ofBindings bindings).card ≤ limits.maxQueuesPerFlow.toNat ∨
      4 * (bindings.map (·.source)).toFinset.card + 4 ≤ limits.maxQueuesPerFlow.toNat) :=
  ⟨fun h => ⟨h.queues, h.links, h.merged⟩, fun ⟨hqueues, hlinks, hmerged⟩ => ⟨hqueues, hlinks, hmerged⟩⟩

instance (limits : Limits) (bindings : List SourceBinding) : Decidable (limits.Room bindings) :=
  decidable_of_iff _ room_iff.symm

/-- The binding comes from another one of its source, and holds no other names. -/
structure SourceBinding.Derives (b₀ b : SourceBinding) : Prop where
  source : b.source = b₀.source
  links : linkNaming.ofBinding b ⊆ linkNaming.ofBinding b₀
  queues : queueNaming.ofBinding b ⊆ queueNaming.ofBinding b₀

/-- The names of a binding are kept without repetition. -/
structure SourceBinding.Tidy (b : SourceBinding) : Prop where
  links : linkNaming.Tidy b
  queues : queueNaming.Tidy b

theorem SourceBinding.Derives.refl (b : SourceBinding) : b.Derives b :=
  ⟨rfl, Finset.Subset.refl _, Finset.Subset.refl _⟩

theorem ofBindings_subset {α : Type} [DecidableEq α] (n : Naming α) {bindings bindings' : List SourceBinding}
    (h : ∀ b ∈ bindings', ∃ b₀ ∈ bindings, n.ofBinding b ⊆ n.ofBinding b₀) :
    n.ofBindings bindings' ⊆ n.ofBindings bindings := by
  intro a ha
  obtain ⟨b, hb, ha⟩ := n.mem_ofBindings.1 ha
  obtain ⟨b₀, hb₀, hsub⟩ := h b hb
  exact n.mem_ofBindings.2 ⟨b₀, hb₀, hsub ha⟩

/-- There is room for bindings that hold no other names. -/
theorem Limits.Room.of_derives {limits : Limits} {bindings bindings' : List SourceBinding} (h : limits.Room bindings)
    (hderives : ∀ b ∈ bindings', ∃ b₀ ∈ bindings, b₀.Derives b) : limits.Room bindings' where
  queues b hb := by
    obtain ⟨b₀, hb₀, hd⟩ := hderives b hb
    exact le_trans (Finset.card_le_card hd.queues) (h.queues b₀ hb₀)
  links := by
    refine le_trans (Finset.card_le_card (ofBindings_subset linkNaming fun b hb => ?_)) h.links
    obtain ⟨b₀, hb₀, hd⟩ := hderives b hb
    exact ⟨b₀, hb₀, hd.links⟩
  merged := by
    refine h.merged.imp (fun h => ?_) (fun h => ?_)
    · refine le_trans (Finset.card_le_card (ofBindings_subset queueNaming fun b hb => ?_)) h
      obtain ⟨b₀, hb₀, hd⟩ := hderives b hb
      exact ⟨b₀, hb₀, hd.queues⟩
    · have hsources : (bindings'.map (·.source)).toFinset ⊆ (bindings.map (·.source)).toFinset := by
        intro id hid
        obtain ⟨b, hb, rfl⟩ := List.mem_map.1 (List.mem_toFinset.1 hid)
        obtain ⟨b₀, hb₀, hd⟩ := hderives b hb
        exact List.mem_toFinset.2 (List.mem_map.2 ⟨b₀, hb₀, hd.source.symm⟩)
      have hcard := Finset.card_le_card hsources
      omega

/-- There is room for bindings that name nothing. -/
theorem room_of_unnamed {limits : Limits} {bindings : List SourceBinding}
    (h : ∀ b ∈ bindings, linkNaming.ofBinding b = ∅ ∧ queueNaming.ofBinding b = ∅) : limits.Room bindings := by
  have hempty : ∀ {α : Type} [DecidableEq α] (n : Naming α), (∀ b ∈ bindings, n.ofBinding b = ∅) →
      (n.ofBindings bindings).card = 0 := by
    intro α _ n hn
    rw [Finset.card_eq_zero, Finset.eq_empty_iff_forall_notMem]
    intro a ha
    obtain ⟨b, hb, ha⟩ := n.mem_ofBindings.1 ha
    rw [hn b hb] at ha
    exact Finset.notMem_empty a ha
  refine ⟨fun b hb => ?_, ?_, .inl ?_⟩
  · rw [(h b hb).2]
    exact Nat.zero_le _
  · rw [hempty linkNaming fun b hb => (h b hb).1]
    exact Nat.zero_le _
  · rw [hempty queueNaming fun b hb => (h b hb).2]
    exact Nat.zero_le _

/-- **A generation retains no more than there was room for.** -/
theorem within_of_room {config : EngineConfig} {sources : SourceTable} (ctx : FreshnessContext) (flow : FlowId)
    (current : GenerationId) {g : GenerationRuntime} (htidy : ∀ b ∈ g.bindings.toList, b.Tidy)
    (hroom : config.limits.Room g.bindings.toList) :
    (generationView config sources ctx flow current g).Within config.limits := by
  have hviewed : ∀ u ∈ listed (g.bindings.toList.filterMap (bindingView config sources ctx)), ∃ b ∈ g.bindings.toList,
      ∃ d : SourceDescriptor, u = retotal (sourceView config b d ctx) := by
    intro u hu
    obtain ⟨v, hv, rfl⟩ := mem_listed.1 hu
    obtain ⟨b, hb, hv⟩ := List.mem_filterMap.1 hv
    obtain ⟨registered, -, rfl⟩ := Option.map_eq_some_iff.1 hv
    exact ⟨b, hb, registered.descriptor, rfl⟩
  have hlinks : ∀ u ∈ listed (g.bindings.toList.filterMap (bindingView config sources ctx)), u.links.Nodup ∧
      ∀ a ∈ u.links, a ∈ linkNaming.ofBindings g.bindings.toList := by
    intro u hu
    obtain ⟨b, hb, d, rfl⟩ := hviewed u hu
    obtain ⟨hnodup, hmem⟩ := (htidy b hb).links.fold d ctx config
    exact ⟨hnodup, fun a ha => linkNaming.mem_ofBindings.2 ⟨b, hb, hmem a ha⟩⟩
  have hqueues : ∀ u ∈ listed (g.bindings.toList.filterMap (bindingView config sources ctx)), ∃ b ∈ g.bindings.toList,
      u.queues.Nodup ∧ ∀ a ∈ u.queues, a ∈ queueNaming.ofBinding b := by
    intro u hu
    obtain ⟨b, hb, d, rfl⟩ := hviewed u hu
    exact ⟨b, hb, (htidy b hb).queues.fold d ctx config⟩
  refine ⟨?_, ?_, fun u hu => ⟨?_, ?_⟩⟩
  · change (mergeQueues ((listed (g.bindings.toList.filterMap (bindingView config sources ctx))).length * 4 + 4)
      (listed (g.bindings.toList.filterMap (bindingView config sources ctx)))).length ≤ _
    obtain ⟨hnodup, hmem, hbudget⟩ := mergeQueues_spec
      ((listed (g.bindings.toList.filterMap (bindingView config sources ctx))).length * 4 + 4)
      (listed (g.bindings.toList.filterMap (bindingView config sources ctx)))
    rcases hroom.merged with hcard | hcard
    · refine le_trans (length_le_of_subset hnodup fun a ha => ?_) hcard
      obtain ⟨u, hu, ha⟩ := hmem a ha
      obtain ⟨b, hb, -, hnames⟩ := hqueues u hu
      exact queueNaming.mem_ofBindings.2 ⟨b, hb, hnames a ha⟩
    · have hlength : (listed (g.bindings.toList.filterMap (bindingView config sources ctx))).length
          ≤ (g.bindings.toList.map (·.source)).toFinset.card := by
        unfold listed sortSourceViews
        rw [List.length_insertionSort, List.length_map, List.toFinset_card_of_nodup g.bindings.nodup_keys,
          List.length_map]
        exact List.length_filterMap_le _ _
      omega
  · change (mergeLinks (listed (g.bindings.toList.filterMap (bindingView config sources ctx)))).length ≤ _
    rw [mergeLinks_eq]
    refine le_trans (length_le_of_subset (nodup_foldl_pushNew _ List.nodup_nil) fun a ha => ?_) hroom.links
    rcases mem_foldl_pushNew.1 ha with ha | ha
    · cases ha
    · obtain ⟨l, hl, hla⟩ := List.mem_map.1 ha
      cases hla
      obtain ⟨u, hu, hl⟩ := List.mem_flatMap.1 hl
      exact (hlinks u hu).2 _ hl
  · obtain ⟨b, hb, hnodup, hmem⟩ := hqueues u hu
    exact le_trans (length_le_of_subset hnodup hmem) (hroom.queues b hb)
  · obtain ⟨hnodup, hmem⟩ := hlinks u hu
    exact le_trans (length_le_of_subset hnodup hmem) hroom.links

namespace Engine

/-! ## Runs -/

/-- The bindings of a generation. -/
def bindingsOf (e : Engine) (flow : FlowId) (gen : GenerationId) : SortedVec SourceBinding.source :=
  ((e.generation? flow gen).map (·.bindings)).getD ∅

/-- There is room for what an observation that reaches a ledger makes its source name. -/
def FitsNames (e : Engine) (incoming : Observation) : Prop :=
  e.reachesLedger incoming = true → e.config.limits.Room
    ((e.bindingsOf (e.taken incoming).subject.flow (e.taken incoming).subject.generation).toList ++
      [e.bindingAfter incoming])

instance (e : Engine) (incoming : Observation) : Decidable (e.FitsNames incoming) := inferInstanceAs (Decidable (_ → _))

/-- The sources that the flows of a snapshot name, up to the first flow that is refused. -/
def restoredNames (limits : Limits) : List PersistedFlow → List PersistedSource
  | [] => []
  | p :: ps =>
    (restoredGenerations limits p).flatMap (restoredSources limits) ++
      if (restoreFlow limits default p).generations.toList.isEmpty && p.currentGeneration.valid then []
      else restoredNames limits ps

/-- There is room for the sources that a file brings, next to those that are there. -/
def FitsSources (e : Engine) (result : ReplayResult) : Prop :=
  (e.sources.toList.map (·.id) ++ result.state.sources.map (·.id)
    ++ (restoredNames e.config.limits result.state.flows).map (·.source)).toFinset.card ≤
      e.config.limits.maxSources.toNat

/-- **What a run keeps**: names without repetition, and room for them. -/
structure Roomy (e : Engine) : Prop where
  tidy : e.Holds (fun _ _ b => b.Tidy)
  room : ∀ flow gen, e.config.limits.Room (e.bindingsOf flow gen).toList

section Run

variable {e e' : Engine} {flow : FlowId} {gen : GenerationId} {b : SourceBinding}

theorem mem_bindingsOf : b ∈ (e.bindingsOf flow gen).toList ↔ e.binding? flow gen b.source = some b := by
  unfold bindingsOf generation? binding? FlowRuntime.binding?
  cases e.flows.find? flow with
  | none => simp
  | some f =>
    rw [Option.bind_some, Option.bind_some]
    cases f.generations.find? gen with
    | none => simp
    | some g =>
      rw [Option.map_some, Option.getD_some, Option.bind_some]
      exact ⟨SortedVec.find?_of_mem, SortedVec.find?_mem⟩

/-- Room for bindings that derive from those there was room for. -/
theorem Roomy.of_holds (bindings : FlowId → GenerationId → List SourceBinding) (hc : e'.config = e.config)
    (hroom : ∀ flow gen, e.config.limits.Room (bindings flow gen))
    (h : e'.Holds (fun flow gen b => b.Tidy ∧ ∃ b₀ ∈ bindings flow gen, b₀.Derives b)) : e'.Roomy := by
  refine ⟨h.mono (fun _ _ _ h => h.1), fun flow gen => ?_⟩
  rw [hc]
  exact (hroom flow gen).of_derives (fun b hb => (h flow gen b.source b (mem_bindingsOf.1 hb)).2)

/-- Every binding derives from itself. -/
theorem Roomy.holds (h : e.Roomy) :
    e.Holds (fun flow gen b => b.Tidy ∧ ∃ b₀ ∈ (e.bindingsOf flow gen).toList, b₀.Derives b) := by
  intro flow gen source b hb
  refine ⟨h.tidy flow gen source b hb, b, mem_bindingsOf.2 ?_, .refl b⟩
  rw [binding?_source hb]
  exact hb

theorem Roomy.of_flows (h : e.Roomy) (hc : e'.config = e.config) (hf : e'.flows = e.flows) : e'.Roomy :=
  .of_holds _ hc h.room (h.holds.of_flows hf)

theorem derives_refresh {b₀ : SourceBinding} (htidy : b.Tidy) (hd : b₀.Derives b) (config : EngineConfig)
    (sources : SourceTable) (ctx : FreshnessContext) : (refreshBinding config sources ctx b).Tidy ∧
      b₀.Derives (refreshBinding config sources ctx b) := by
  have hlinks := htidy.links.refresh config sources ctx
  have hqueues := htidy.queues.refresh config sources ctx
  refine ⟨⟨hlinks.1, hqueues.1⟩, ⟨?_, hlinks.2.trans hd.links, hqueues.2.trans hd.queues⟩⟩
  rw [refreshBinding_source]
  exact hd.source

/-- **Applying an observation keeps room**, when there is room for what it names. -/
theorem Roomy.apply (h : e.Roomy) {incoming : Observation} (hfits : e.FitsNames incoming) :
    (e.applyLocked incoming).1.Roomy := by
  let target : FlowId → GenerationId → Bool := fun flow gen => e.reachesLedger incoming &&
    (decide (flow = (e.taken incoming).subject.flow) && decide (gen = (e.taken incoming).subject.generation))
  refine Roomy.of_holds (e := e)
    (fun flow gen => (e.bindingsOf flow gen).toList ++ if target flow gen then [e.bindingAfter incoming] else [])
    (sameSettings_applyLocked e incoming).config_eq (fun flow gen => ?_) ?_
  · cases ht : target flow gen with
    | true =>
      simp only [target, Bool.and_eq_true, decide_eq_true_eq] at ht
      obtain ⟨hreach, rfl, rfl⟩ := ht
      exact hfits hreach
    | false =>
      rw [if_neg Bool.false_ne_true, List.append_nil]
      exact h.room flow gen
  · refine holds_applyLocked ?_ (fun ctx flow gen b hb => ?_) (fun _ hreach => ?_)
    · refine h.holds.mono (fun flow gen b hb => ?_)
      obtain ⟨htidy, b₀, hb₀, hd⟩ := hb
      exact ⟨htidy, b₀, List.mem_append_left _ hb₀, hd⟩
    · obtain ⟨htidy, b₀, hb₀, hd⟩ := hb
      obtain ⟨htidy', hd'⟩ := derives_refresh htidy hd e.config (e.applyLocked incoming).1.sources ctx
      exact ⟨htidy', b₀, hb₀, hd'⟩
    · have htidy : (e.bindingFor (e.taken incoming)).Tidy := by
        unfold bindingFor
        cases hb : e.binding? (e.taken incoming).subject.flow (e.taken incoming).subject.generation
            (e.taken incoming).key.source with
        | none => exact ⟨Naming.tidy_fresh _ _ _ _, Naming.tidy_fresh _ _ _ _⟩
        | some b => exact h.tidy _ _ _ b hb
      refine ⟨⟨htidy.links.take _ _, htidy.queues.take _ _⟩, e.bindingAfter incoming,
        List.mem_append_right _ ?_, .refl _⟩
      simp [target, hreach]

theorem Roomy.recompute (h : e.Roomy) (atTime : Timestamp) (due : FlowRuntime → Bool) :
    (e.recomputeAll atTime due).Roomy := by
  refine Roomy.of_holds _ rfl h.room (holds_recomputeAll h.holds due (fun ctx flow gen b hb => ?_))
  obtain ⟨htidy, b₀, hb₀, hd⟩ := hb
  obtain ⟨htidy', hd'⟩ := derives_refresh htidy hd e.config e.sources ctx
  exact ⟨htidy', b₀, hb₀, hd'⟩

theorem Roomy.drop (h : e.Roomy) (s : SourceState) (id : SourceId) : (e.dropped s id).Roomy :=
  Roomy.of_holds _ rfl h.room (h.holds.dropped s id)

theorem roomy_empty (hf : e.flows = ∅) : e.Roomy := by
  have hnone : ∀ flow gen source, e.binding? flow gen source = none := by
    intro flow gen source
    rw [binding?, hf]
    rfl
  refine ⟨fun flow gen source b hb => ?_, fun flow gen => room_of_unnamed fun b hb => ?_⟩
  · rw [hnone] at hb
    cases hb
  · rw [mem_bindingsOf, hnone] at hb
    cases hb

/-- A restored flow brings no names. -/
theorem Roomy.restore (h : e.Roomy) (previous : RuntimeEpoch) (p : PersistedFlow) :
    Roomy { e with flows := e.flows.set (restoreFlow e.config.limits previous p) } := by
  have hrestored : ∀ gen source b, (restoreFlow e.config.limits previous p).binding? gen source = some b →
      b.Tidy ∧ linkNaming.ofBinding b = ∅ ∧ queueNaming.ofBinding b = ∅ := by
    intro gen source b hb
    obtain ⟨s, rfl⟩ := binding?_restoreFlow hb
    have hlinks := Naming.tidy_restoreSource (n := linkNaming) e.config.limits ⟨p.id, gen⟩ s
    have hqueues := Naming.tidy_restoreSource (n := queueNaming) e.config.limits ⟨p.id, gen⟩ s
    exact ⟨⟨hlinks.1, hqueues.1⟩, hlinks.2, hqueues.2⟩
  refine ⟨h.tidy.set rfl (fun gen source b hb => (hrestored gen source b hb).1), fun flow gen => ?_⟩
  have hbinding : ∀ source, ({ e with flows := e.flows.set (restoreFlow e.config.limits previous p) } : Engine).binding?
      flow gen source = if p.id = flow then (restoreFlow e.config.limits previous p).binding? gen source
        else e.binding? flow gen source := by
    intro source
    unfold binding?
    rw [SortedVec.find?_set]
    have hid : (restoreFlow e.config.limits previous p).id = p.id := rfl
    rw [hid]
    split <;> rfl
  by_cases hid : p.id = flow
  · refine room_of_unnamed fun b hb => ?_
    rw [mem_bindingsOf, hbinding, if_pos hid] at hb
    exact (hrestored gen _ b hb).2
  · refine (h.room flow gen).of_derives fun b hb => ⟨b, ?_, .refl b⟩
    rw [mem_bindingsOf, hbinding, if_neg hid] at hb
    exact mem_bindingsOf.2 hb

/-! ## The source table -/

theorem mem_restoreDescriptors {openedAt : Timestamp} {ps : List PersistedSource} {sources : SourceTable}
    {s : SourceState}
    (hs : s ∈ (ps.foldl (restoreDescriptor openedAt) sources).toList) :
    s ∈ sources.toList ∨ ∃ p ∈ ps, s.id = p.source ∧ s.descriptor.canonicalKey = p.canonicalKey := by
  induction ps generalizing sources with
  | nil => exact .inl hs
  | cons p ps ih =>
    rcases ih hs with hs | ⟨p', hp', hnamed⟩
    · unfold restoreDescriptor at hs
      split at hs
      · exact .inl hs
      · rcases SortedVec.mem_set.1 hs with rfl | ⟨hs, -⟩
        · exact .inr ⟨p, List.mem_cons_self, rfl, rfl⟩
        · exact .inl hs
    · exact .inr ⟨p', List.mem_cons_of_mem _ hp', hnamed⟩

/-- The sources after flows are restored: those that were there, and those that the flows name. -/
theorem mem_sources_restoreFlows {previous : RuntimeEpoch} {ps : List PersistedFlow} {e : Engine} {s : SourceState}
    (hs : s ∈ (e.restoreFlows previous ps).1.sources.toList) : s ∈ e.sources.toList ∨
      ∃ p ∈ restoredNames e.config.limits ps, s.id = p.source ∧ s.descriptor.canonicalKey = p.canonicalKey := by
  induction ps generalizing e with
  | nil => exact .inl hs
  | cons p ps ih =>
    simp only [restoreFlows] at hs
    have hrefused : (restoreFlow e.config.limits previous p).generations
        = (restoreFlow e.config.limits default p).generations := rfl
    rw [restoredNames, ← hrefused]
    split at hs
    · rename_i hr
      rw [if_pos hr, List.append_nil]
      exact mem_restoreDescriptors hs
    · rename_i hr
      rw [if_neg hr]
      rcases ih hs with hs | ⟨p', hp', hnamed⟩
      · rcases mem_restoreDescriptors hs with hs | ⟨p', hp', hnamed⟩
        · exact .inl hs
        · exact .inr ⟨p', List.mem_append_left _ hp', hnamed⟩
      · exact .inr ⟨p', List.mem_append_right _ hp', hnamed⟩

/-- The sources that a snapshot names are sources of its flows. -/
theorem mem_restoredNames {limits : Limits} {ps : List PersistedFlow} {s : PersistedSource}
    (hs : s ∈ restoredNames limits ps) :
    ∃ p ∈ ps, ∃ g ∈ p.generations, s ∈ g.sources := by
  induction ps with
  | nil => cases hs
  | cons p ps ih =>
    rcases List.mem_append.1 hs with hs | hs
    · obtain ⟨g, hg, hs⟩ := List.mem_flatMap.1 hs
      exact ⟨p, List.mem_cons_self, g, List.mem_of_mem_take hg, List.mem_of_mem_take hs⟩
    · split at hs
      · cases hs
      · obtain ⟨p', hp', hs⟩ := ih hs
        exact ⟨p', List.mem_cons_of_mem _ hp', hs⟩

/-- **The sources that are there when a file was read** fit when there was room for those that it brings. -/
theorem length_sources_rebuilt {result : ReplayResult} (hfits : e.FitsSources result) (hc : e'.config = e.config)
    (hs : e'.sources = e.sources) (previous : RuntimeEpoch) :
    (e'.rebuiltFrom previous result).sources.toList.length ≤ e.config.limits.maxSources.toNat := by
  rw [← List.length_map (·.id)]
  refine le_trans (length_le_of_subset (e'.rebuiltFrom previous result).sources.nodup_keys fun id hid => ?_) hfits
  obtain ⟨s, hmem, rfl⟩ := List.mem_map.1 hid
  rw [List.mem_toFinset, List.mem_append, List.mem_append]
  rcases mem_sources_restoreFlows hmem with hmem | ⟨p, hp, hsource, -⟩
  · left
    rcases SortedVec.mem_foldl_set hmem with hmem | ⟨d, hd, rfl⟩
    · exact .inl (List.mem_map_of_mem (hs ▸ hmem))
    · exact .inr (List.mem_map.2 ⟨d, hd, rfl⟩)
  · right
    have hp : p ∈ restoredNames e.config.limits result.state.flows := hc ▸ hp
    exact List.mem_map.2 ⟨p, hp, hsource.symm⟩

/-! ## The bounds -/

/-- Every generation retains queues and links within the bounds, and so many sources are there. -/
structure Retains (e : Engine) : Prop where
  sources : e.sources.toList.length ≤ e.config.limits.maxSources.toNat
  generations : ∀ flow f, e.flows.find? flow = some f → ∀ gen g, f.generations.find? gen = some g →
    (generationView e.config e.sources e.context f.id f.currentGeneration g).Within e.config.limits

theorem Roomy.retains (h : e.Roomy) (hs : e.sources.toList.length ≤ e.config.limits.maxSources.toNat) : e.Retains where
  sources := hs
  generations flow f hf gen g hg := by
    have hbindings : e.bindingsOf flow gen = g.bindings := by
      rw [bindingsOf, generation?, hf, Option.bind_some, hg]
      rfl
    have hroom := h.room flow gen
    rw [hbindings] at hroom
    refine within_of_room e.context f.id f.currentGeneration (fun b hb => ?_) hroom
    rw [← hbindings, mem_bindingsOf] at hb
    exact h.tidy _ _ _ b hb

/-- **The bounds hold in every run** whose observations name what there is room for, and which reads only files for
whose sources there is room. -/
theorem retains_within (h : e.ReachedFrom FitsNames FitsSources) : e.Retains := by
  have hkept : e.sources.toList.length ≤ e.config.limits.maxSources.toNat ∧ e.Roomy := by
    refine reachedFrom_rule (P := fun e => e.sources.toList.length ≤ e.config.limits.maxSources.toNat ∧ e.Roomy)
      (fun e _ hf hs _ => ⟨?_, roomy_empty hf⟩) (fun e e' ha h => ⟨?_, h.2.of_flows ha.config ha.flows⟩)
      (fun e obs h hfits => ⟨?_, h.2.apply hfits⟩) (fun e atTime due h => ⟨h.1, h.2.recompute atTime due⟩)
      (fun e s id hs h => ⟨?_, h.2.drop s id⟩) (fun e d s hd h => ⟨?_, h.2.of_flows rfl rfl⟩)
      (fun e d s hu h => ⟨?_, h.2.of_flows rfl rfl⟩) (fun e h => ⟨h.1, roomy_empty rfl⟩)
      (fun e e' previous result hfits hc hs hf _ h => ⟨?_, ?_⟩) h
    · rw [hs]
      exact Nat.zero_le _
    · rw [ha.config, ha.sources]
      exact h.1
    · rw [(sameSettings_applyLocked e obs).config_eq]
      exact length_sources_applyLocked e obs h.1
    · obtain rfl := SortedVec.find?_key hs
      show (e.sources.set { s with retired := true }).toList.length ≤ _
      rw [SortedVec.length_set_of_some (a := { s with retired := true }) (b := s) hs]
      exact h.1
    · have hnone : e.sources.find? s.id = none := by
        rw [SourceState.id, hd.described]
        exact hd.unknown
      show (e.sources.set s).toList.length ≤ _
      rw [SortedVec.length_set_of_none hnone]
      exact hd.room
    · show (e.sources.set { s with descriptor := d, retired := false }).toList.length ≤ _
      rw [SortedVec.length_set_of_some (b := s) hu.known]
      exact h.1
    · have hconfig : (e'.rebuiltFrom previous result).config = e'.config :=
        rebuilt_rule (P := fun x => x.config = e'.config) (fun _ _ hc _ h => hc.trans h) (fun _ _ h => h)
          (fun _ _ _ h => h)
          rfl hf previous result
      rw [hconfig, hc]
      exact length_sources_rebuilt hfits hc hs previous
    · exact rebuilt_rule (fun e e' _ hf _ => roomy_empty hf) (fun e ps h => h.of_flows rfl rfl)
        (fun e previous p h => h.restore previous p) h.2 hf previous result
  exact hkept.2.retains hkept.1

end Run

/-! ## Two queues -/

/-- A flow retains one queue. -/
def oneQueue : EngineConfig := { limits := { maxQueuesPerFlow := 1 } }

/-- An observation of the source `a` on a queue. -/
def queuedObservation (queue : UInt64) (revision : UInt64) : Observation :=
  { sampleObservation (sourceIdFromKey (str "a")) .Sample revision ⟨900⟩ with
    subject := { generation := ⟨1⟩, flowKey := str "f", queue := some ⟨queue⟩ } }

/-- An engine to which the source `a` reported one queue. -/
def onceQueued : Engine := ({ config := oneQueue, clock := ⟨1000⟩ } : Engine).openEngine.1.step
  (.ingest (queuedObservation 7 1))

theorem oneQueue_opened : ({ config := oneQueue, clock := ⟨1000⟩ } : Engine).openEngine.2 = .ok () := 
  opens_new_iff.2 (by decide)

theorem retains_within_once : onceQueued.Retains :=
  retains_within (.step (.opened oneQueue ⟨1000⟩ none oneQueue_opened (fun p hp => by cases hp)
    (fun r hr => by cases hr)) _
    (by with_unfolding_all decide))

/-- The same engine after another queue. -/
def twiceQueued : Engine := onceQueued.step (.ingest (queuedObservation 8 2))

/-- **A flow retains one queue more than its bound**, though each observation names only one. -/
theorem queues_exceed_bound : ¬ ∀ e : Engine, e.Reachable → e.Retains := by
  intro h
  have hreached : twiceQueued.Reachable := .step (.step (.opened oneQueue ⟨1000⟩ oneQueue_opened) _) _
  have htwo : (twiceQueued.flows.find? sampleFlow).any (fun f => (f.generations.find? ⟨1⟩).any (fun g =>
      decide (twiceQueued.config.limits.maxQueuesPerFlow.toNat < (generationView twiceQueued.config twiceQueued.sources
        twiceQueued.context f.id f.currentGeneration g).queues.length))) = true := by
    with_unfolding_all decide
  obtain ⟨f, hf, htwo⟩ := (Option.any_eq_true _ _).1 htwo
  obtain ⟨g, hg, htwo⟩ := (Option.any_eq_true _ _).1 htwo
  have hqueues := ((h twiceQueued hreached).generations _ f hf _ g hg).queues
  exact absurd hqueues (Nat.not_le.2 (of_decide_eq_true htwo))

end Engine

end FlowObs
