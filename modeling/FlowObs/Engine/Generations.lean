import FlowObs.Engine.Invariant
import FlowObs.Lib.LowerBound

/-!
# The generations of a flow

The generations of a flow and the bindings of a generation are kept in ascending order: `obtain_generation` and
`obtain_binding` search for the lower bound by halving and insert there (`toList_obtainGeneration`,
`toList_obtainBinding`). The current generation is the greatest that is retained (`FlowRuntime.Headed`): a newer one
takes its place, an older one does not, and eviction spares it. So the current generation of a flow that stays
retained never goes back (`generations_ordered`).
-/

namespace FlowObs

/-! ## Insertion -/

/-- **`obtain_generation` inserts at the lower bound**, unless the generation is there. -/
theorem toList_obtainGeneration (f : FlowRuntime) (wanted : GenerationId) (atTime : Timestamp) :
    (f.generations.set (obtainGeneration f wanted atTime)).toList =
      let position := lowerBound (fun g => decide (g.id < wanted)) f.generations.toList
      if (f.generations.toList[position]?).any (fun g => decide (g.id = wanted)) then f.generations.toList
      else f.generations.toList.insertIdx position { id := wanted, lastTouched := atTime } :=
  SortedVec.toList_set_obtained f.generations { id := wanted, lastTouched := atTime }

/-- **`obtain_binding` inserts at the lower bound**, unless the binding is there. -/
theorem toList_obtainBinding (limits : Limits) (replaying : Bool) (g : GenerationRuntime) (source : SourceId)
    (generation : FlowGeneration) : (g.bindings.set (obtainBinding limits replaying g source generation)).toList =
      let position := lowerBound (fun b => decide (b.source < source)) g.bindings.toList
      if (g.bindings.toList[position]?).any (fun b => decide (b.source = source)) then g.bindings.toList
      else g.bindings.toList.insertIdx position
        { source := source, ledger := .configure source generation limits.maxObservationsPerSourceFlow.toNat
          restored := replaying, reconfirmed := !replaying } :=
  SortedVec.toList_set_obtained g.bindings
    { source := source, ledger := .configure source generation limits.maxObservationsPerSourceFlow.toNat
      restored := replaying, reconfirmed := !replaying }

/-! ## The current generation -/

/-- The current generation of a flow is the greatest that is retained, or there is none. -/
structure FlowRuntime.Headed (f : FlowRuntime) : Prop where
  greatest : ∀ gen, (f.generations.find? gen).isSome = true → gen ≤ f.currentGeneration
  retained : (f.generations.find? f.currentGeneration).isSome = true ∨
    (∀ gen, f.generations.find? gen = none) ∧ f.currentGeneration = default

/-- A flow is in order: its generations and their bindings ascend without duplicates, and the current generation is
the greatest that is retained. A flow without generations has none. -/
structure FlowRuntime.InOrder (f : FlowRuntime) : Prop where
  generations : f.generations.toList.Pairwise (fun g g' => g.id < g'.id)
  bindings : ∀ g ∈ f.generations.toList, g.bindings.toList.Pairwise (fun b b' => b.source < b'.source)
  greatest : ∀ g ∈ f.generations.toList, g.id ≤ f.currentGeneration
  retained : f.generations.toList = [] ∧ f.currentGeneration = default ∨
    ∃ g ∈ f.generations.toList, g.id = f.currentGeneration

theorem FlowRuntime.Headed.inOrder {f : FlowRuntime} (h : f.Headed) : f.InOrder where
  generations := f.generations.sorted
  bindings g _ := g.bindings.sorted
  greatest g hg := h.greatest g.id (by rw [SortedVec.find?_of_mem hg]; rfl)
  retained := by
    rcases h.retained with hsome | ⟨hnone, hunset⟩
    · obtain ⟨g, hg⟩ := Option.isSome_iff_exists.1 hsome
      exact .inr ⟨g, SortedVec.find?_mem hg, SortedVec.find?_key hg⟩
    · refine .inl ⟨List.eq_nil_iff_forall_not_mem.2 fun g hg => ?_, hunset⟩
      have hfound := SortedVec.find?_of_mem hg
      rw [hnone] at hfound
      cases hfound

/-- The same generations, and the same one is current. -/
structure FlowRuntime.SameHead (f f' : FlowRuntime) : Prop where
  current : f'.currentGeneration = f.currentGeneration
  found : ∀ gen, (f'.generations.find? gen).isSome = (f.generations.find? gen).isSome

section Flow

variable {config : EngineConfig} {sources : SourceTable} {ctx : FreshnessContext} {replaying : Bool} {limits : Limits}
variable {atTime : Timestamp} {obs : Observation} {f f' f'' room : FlowRuntime} {outcome : IngestOutcome}
    {wanted : GenerationId}

theorem FlowRuntime.SameHead.headed (h : f.SameHead f') (hf : f.Headed) : f'.Headed := by
  refine ⟨fun gen hgen => ?_, ?_⟩
  · rw [h.current]
    exact hf.greatest gen (h.found gen ▸ hgen)
  · rw [h.current, h.found]
    refine hf.retained.imp_right fun hnone => ⟨fun gen => ?_, hnone.2⟩
    rw [← Option.not_isSome_iff_eq_none, h.found, hnone.1 gen]
    exact Bool.false_ne_true

theorem FlowRuntime.SameHead.trans (h : f.SameHead f') (h' : f'.SameHead f'') : f.SameHead f'' :=
  ⟨h'.current.trans h.current, fun gen => (h'.found gen).trans (h.found gen)⟩

theorem FlowRuntime.Noted.sameHead (h : f.Noted f') : f.SameHead f' := by
  obtain ⟨_, _, _, rfl⟩ := h
  exact ⟨rfl, fun _ => rfl⟩

theorem sameHead_revise (f : FlowRuntime) (kind : InsertKind) : f.SameHead (f.revise kind) := by
  unfold FlowRuntime.revise
  split <;> exact ⟨rfl, fun _ => rfl⟩

/-- Giving up the evidence of a source keeps the generations. -/
theorem sameHead_dropSource (id : SourceId) (f : FlowRuntime) : f.SameHead (Engine.dropSource id f) := by
  refine ⟨rfl, fun gen => ?_⟩
  have hmap := SortedVec.find?_map f.generations (Engine.dropBinding id) (Engine.dropBinding_id id) gen
  show ((f.generations.map (Engine.dropBinding id) (Engine.dropBinding_id id)).find? gen).isSome = _
  rw [hmap, Option.isSome_map]

/-- Setting a generation that is there. -/
theorem FlowRuntime.SameHead.set {g : GenerationRuntime} (hcurrent : f'.currentGeneration = f.currentGeneration)
    (hfind : ∀ gen, f'.generations.find? gen = if wanted = gen then some g else f.generations.find? gen)
    (hsome : (f.generations.find? wanted).isSome = true) : f.SameHead f' := by
  refine ⟨hcurrent, fun gen => ?_⟩
  rw [hfind]
  split
  · rename_i hgen
    rw [← hgen, hsome]
    rfl
  · rfl

/-- **Recomputing a flow keeps its current generation**, which is retained if any is. -/
theorem FlowRuntime.Headed.recompute (h : f.Headed) : f.SameHead (recomputeFlow config sources ctx atTime f) := by
  have hfind : ∀ gen, ((recomputeFlow config sources ctx atTime f).generations.find? gen).isSome
      = (f.generations.find? gen).isSome := by
    intro gen
    rw [recomputeFlow_generations, find?_recomputed, Option.isSome_map]
  refine ⟨?_, hfind⟩
  obtain ⟨f₁, ⟨a, d, k, rfl⟩, c, hsteps⟩ :=
    FlowRuntime.foldl_absorb_eq config.limits atTime (generationSteps config sources ctx atTime f) f
  have hcurrent : (recomputedGenerations config sources ctx atTime f).find? f.currentGeneration
      = (f.generations.find? f.currentGeneration).map _ := find?_recomputed f f.currentGeneration
  simp only [recomputeFlow, hsteps, FlowRuntime.rollUpGenerations, FlowRuntime.mirrorCurrent, FlowRuntime.markRestored]
  split
  · rfl
  · rename_i hnone
    -- without a current generation there is none at all
    rw [hcurrent, Option.map_eq_none_iff] at hnone
    rcases h.retained with hsome | ⟨hempty, -⟩
    · rw [hnone] at hsome
      cases hsome
    · split
      · rename_i g hlast
        have hg := SortedVec.find?_of_mem (List.mem_of_mem_getLast? hlast)
        rw [find?_recomputed, hempty] at hg
        cases hg
      · rfl

/-- Making room for a generation spares the current one. -/
theorem FlowRuntime.Headed.roomed (h : f.Headed) (hroom : Roomed limits f wanted room) :
    room.Headed ∧ room.currentGeneration = f.currentGeneration := by
  cases hroom with
  | known _ => exact ⟨h, rfl⟩
  | free _ => exact ⟨h, rfl⟩
  | evicted _ f' he =>
    obtain ⟨g, hg, rfl⟩ := Option.map_eq_some_iff.1 he
    have hother : g.id ≠ f.currentGeneration := by
      have hcond := List.find?_some hg
      rw [Bool.and_eq_true, bne_iff_ne] at hcond
      exact hcond.1
    have hg' := SortedVec.find?_of_mem (List.mem_of_find?_eq_some hg)
    refine ⟨⟨fun gen hgen => h.greatest gen ?_, ?_⟩, rfl⟩
    · show (f.generations.find? gen).isSome = true
      change ((f.generations.erase g.id).find? gen).isSome = true at hgen
      rw [SortedVec.find?_erase] at hgen
      split at hgen
      · cases hgen
      · exact hgen
    · refine h.retained.imp (fun hsome => ?_) fun hnone => ?_
      · show ((f.generations.erase g.id).find? f.currentGeneration).isSome = true
        rwa [SortedVec.find?_erase, if_neg hother]
      · rw [hnone.1 g.id] at hg'
        cases hg'

/-- The unset identity is the least. -/
theorem le_of_unset {current : GenerationId} (h : (!current.valid) = true) (gen : GenerationId) : current ≤ gen := by
  have hzero : current.value = 0 := by
    rw [Bool.not_eq_true', NumericId.valid, bne_eq_false_iff_eq] at h
    exact h
  rw [NumericId.le_def, hzero]
  exact Nat.zero_le _

/-- **Entering a generation**: the greater of it and the current one is current. -/
theorem FlowRuntime.Headed.enter (h : f.Headed) (wanted : GenerationId) (atTime : Timestamp) :
    (f.enter wanted atTime).Headed ∧ f.currentGeneration ≤ (f.enter wanted atTime).currentGeneration := by
  have hcurrent : (f.enter wanted atTime).currentGeneration
      = if !f.currentGeneration.valid || f.currentGeneration < wanted then wanted else f.currentGeneration := rfl
  by_cases hnewer : (!f.currentGeneration.valid || decide (f.currentGeneration < wanted)) = true
  · rw [if_pos hnewer] at hcurrent
    have hle : f.currentGeneration ≤ wanted := by
      rcases Bool.or_eq_true_iff.1 hnewer with hunset | hlt
      · exact le_of_unset hunset wanted
      · exact (of_decide_eq_true hlt).le
    rw [hcurrent]
    refine ⟨⟨fun gen hgen => ?_, .inl ?_⟩, hle⟩
    · rw [hcurrent]
      rw [find?_enter] at hgen
      split at hgen
      · rename_i heq
        exact heq.symm.le
      · exact (h.greatest gen hgen).trans hle
    · rw [hcurrent, find?_enter, if_pos rfl]
      rfl
  · rw [if_neg hnewer] at hcurrent
    rw [Bool.or_eq_true, not_or, decide_eq_true_eq] at hnewer
    rw [hcurrent]
    refine ⟨⟨fun gen hgen => ?_, .inl ?_⟩, le_rfl⟩
    · rw [hcurrent]
      rw [find?_enter] at hgen
      split at hgen
      · rename_i heq
        exact heq ▸ not_lt.1 hnewer.2
      · exact h.greatest gen hgen
    · rw [hcurrent, find?_enter]
      split
      · rfl
      · refine h.retained.resolve_right fun hnone => hnewer.1 ?_
        rw [hnone.2]
        rfl

/-- An insertion after the generation was entered. -/
theorem sameHead_insert (replaying : Bool) (atTime : Timestamp) (obs : Observation) (f : FlowRuntime) :
    (f.enter obs.subject.generation atTime).SameHead
      (insertEvidence limits replaying atTime obs (f.enter obs.subject.generation atTime)).1 := by
  refine FlowRuntime.SameHead.set rfl (find?_insertEvidence limits replaying atTime obs _) ?_
  rw [find?_enter, if_pos rfl]
  rfl

/-- **However an observation ends, the current generation of its flow is the greatest**, and none that is older than
before. -/
theorem FlowApplied.headed (h : FlowApplied config sources ctx replaying atTime obs f f' outcome) (hf : f.Headed) :
    f'.Headed ∧ f.currentGeneration ≤ f'.currentGeneration := by
  have hsame : ∀ {f₁ f₂ : FlowRuntime}, f₁.SameHead f₂ → f₁.Headed ∧ f.currentGeneration ≤ f₁.currentGeneration →
      f₂.Headed ∧ f.currentGeneration ≤ f₂.currentGeneration :=
    fun hsame h => ⟨hsame.headed h.1, hsame.current ▸ h.2⟩
  have henter : ∀ room, Roomed config.limits f obs.subject.generation room →
      (room.enter obs.subject.generation atTime).Headed ∧
        f.currentGeneration ≤ (room.enter obs.subject.generation atTime).currentGeneration := by
    intro room hroom
    obtain ⟨hheaded, hcurrent⟩ := hf.roomed hroom
    exact hcurrent ▸ hheaded.enter obs.subject.generation atTime
  have hinsert : ∀ room : FlowRuntime,
  (room.enter obs.subject.generation atTime).SameHead (insertEvidence config.limits replaying atTime
      (clampedObservation config.limits obs) (room.enter obs.subject.generation atTime)).1 := by
    intro room
    have h := @sameHead_insert config.limits replaying atTime (clampedObservation config.limits obs) room
    rwa [clampedObservation_subject] at h
  cases h with
  | collided _ hn _ => exact hsame hn.sameHead ⟨⟨hf.greatest, hf.retained⟩, le_rfl⟩
  | stopped _ hn _ => exact hsame hn.sameHead ⟨hf, le_rfl⟩
  | noSourceRoom room _ hroom _ hn _ => exact hsame hn.sameHead (henter room hroom)
  | ledgerRefused room _ hroom _ _ hn _ => exact hsame ((hinsert room).trans hn.sameHead) (henter room hroom)
  | recomputed room settled _ hroom _ _ _ hn _ =>
    have hsettled := ((hinsert room).trans (sameHead_revise _ _)).trans hn.sameHead
    have hsome : (settled.generations.find? obs.subject.generation).isSome = true := by
      rw [hsettled.found, find?_enter, if_pos rfl]
      rfl
    have htouched : settled.SameHead (settled.touch obs.subject.generation atTime) :=
      .set rfl (fun gen => find?_touch settled obs.subject.generation gen atTime) hsome
    have hdone := hsame (hsettled.trans htouched) (henter room hroom)
    exact hsame hdone.1.recompute hdone

end Flow

namespace Engine

/-! ## Runs -/

/-- Every flow has the greatest of its generations for its current one. -/
def Headed (e : Engine) : Prop := e.EachFlow FlowRuntime.Headed

/-- No flow that is retained goes back to an older generation. -/
def Advances (e e' : Engine) : Prop := ∀ id f f', e.flows.find? id = some f → e'.flows.find? id = some f' →
  f.currentGeneration ≤ f'.currentGeneration

/-- A step keeps the heads of the flows, and none of them goes back. -/
def KeepsHeads (e e' : Engine) : Prop := e.Headed → e'.Headed ∧ e.Advances e'

section Steps

variable {e e' : Engine}

theorem keepsHeads_of_flows (h : e'.flows = e.flows) : e.KeepsHeads e' := by
  intro hheaded
  refine ⟨fun id f hf => hheaded id f (h ▸ hf), fun id f f' hf hf' => ?_⟩
  rw [h, hf] at hf'
  cases hf'
  exact le_rfl

/-- What is done to each flow in its place. -/
theorem keepsHeads_of_map {φ : FlowRuntime → FlowRuntime} (hfind : ∀ id, e'.flows.find? id = (e.flows.find? id).map φ)
    (hφ : ∀ f : FlowRuntime, f.Headed → f.SameHead (φ f)) : e.KeepsHeads e' := by
  intro hheaded
  have hsame : ∀ id f', e'.flows.find? id = some f' → ∃ f, e.flows.find? id = some f ∧ f.Headed ∧ f.SameHead f' := by
    intro id f' hf'
    rw [hfind] at hf'
    obtain ⟨f, hf, rfl⟩ := Option.map_eq_some_iff.1 hf'
    exact ⟨f, hf, hheaded id f hf, hφ f (hheaded id f hf)⟩
  refine ⟨fun id f' hf' => ?_, fun id f f' hf hf' => ?_⟩
  · obtain ⟨f, -, hf, hsame⟩ := hsame id f' hf'
    exact hsame.headed hf
  · obtain ⟨f₁, hf₁, -, hsame⟩ := hsame id f' hf'
    rw [hf] at hf₁
    cases hf₁
    exact hsame.current.ge

theorem keepsHeads_applyLocked (e : Engine) (incoming : Observation) : e.KeepsHeads (e.applyLocked incoming).1 := by
  intro hheaded
  have hfresh : (e.createFlow e.instant (prepare e.instant incoming)).Headed := by
    refine ⟨fun gen hgen => ?_, .inr ⟨fun gen => rfl, rfl⟩⟩
    cases hgen
  have hall : ∀ id f', (e.applyLocked incoming).1.flows.find? id = some f' →
      f'.Headed ∧ ∀ f, e.flows.find? id = some f → f.currentGeneration ≤ f'.currentGeneration := by
    have hflows := flows_applyLocked (Q := fun o f' => (∀ f, o = some f → f.Headed) →
      f'.Headed ∧ ∀ f, o = some f → f.currentGeneration ≤ f'.currentGeneration) e incoming (fun f hf => ?_)
      (fun f f' happ hf => ?_) (fun f' happ _ => ?_)
    · exact fun id f' hf' => hflows id f' hf' (hheaded id)
    · refine ⟨hf f rfl, fun f₁ h₁ => ?_⟩
      cases h₁
      exact le_rfl
    · obtain ⟨hheaded', hle⟩ := happ.headed (hf f rfl)
      refine ⟨hheaded', fun f₁ h₁ => ?_⟩
      cases h₁
      exact hle
    · exact ⟨(happ.headed hfresh).1, fun f hf => by cases hf⟩
  exact ⟨fun id f' hf' => (hall id f' hf').1, fun id f f' hf hf' => (hall id f' hf').2 f hf⟩

theorem keepsHeads_recomputeAll (e : Engine) (atTime : Timestamp) (due : FlowRuntime → Bool) :
    e.KeepsHeads (e.recomputeAll atTime due) := by
  refine keepsHeads_of_map (find?_recomputeAll e atTime due) fun f hf => ?_
  unfold recomputeDue
  split
  · exact hf.recompute
  · exact ⟨rfl, fun _ => rfl⟩

theorem keepsHeads_retired (e : Engine) (s : SourceState) (id : SourceId) (atTime : Timestamp) :
    e.KeepsHeads ((e.dropped s id).recomputeAll atTime (fun _ => true)) := by
  refine keepsHeads_of_map (φ := fun f => (e.dropped s id).recomputeDue atTime (fun _ => true) (dropSource id f))
    (fun flow => ?_) fun f hf => ?_
  · rw [find?_recomputeAll, find?_dropped, Option.map_map]
    rfl
  · have hdropped := sameHead_dropSource id f
    exact hdropped.trans (hdropped.headed hf).recompute

/-- **The states that an operation goes through keep the heads of the flows.** -/
theorem isChain_keepsHeads (e : Engine) (op : Op) : (e :: e.passes op).IsChain KeepsHeads := by
  refine passes_rule (fun _ _ => True) (fun _ => True) (fun e e' h => keepsHeads_of_flows h.flows)
    (fun h hkeeps h' => ?_) (fun e obs _ => keepsHeads_applyLocked e obs) keepsHeads_recomputeAll
    (fun e s id atTime _ => keepsHeads_retired e s id atTime) (fun e s _ => keepsHeads_of_flows rfl)
      (fun _ _ => trivial)
    (fun _ _ _ => trivial)
  unfold KeepsHeads Headed EachFlow Advances at hkeeps ⊢
  rwa [h'.flows, ← h.flows]

end Steps

/-- **The flows of every run are in order, and none goes back.** In every state that an engine without flows passes
through, the generations of a flow and the bindings of a generation ascend without duplicates, and the current
generation is the greatest that is retained. From each of these states on, the current generation of a flow does not
decrease as long as the flow is retained. -/
theorem generations_ordered (e : Engine) (ops : List Op) (hempty : e.flows = ∅) :
    (∀ e' ∈ e :: e.trail ops, ∀ id f, e'.flows.find? id = some f → f.InOrder) ∧
    ∀ before s after rest, e :: e.trail ops = before ++ s :: (after ++ rest) → ∀ id f, s.flows.find? id = some f →
      (∀ e' ∈ after, (e'.flows.find? id).isSome = true) →
      ∀ e' ∈ after, ∃ f', e'.flows.find? id = some f' ∧ f.currentGeneration ≤ f'.currentGeneration := by
  have hheaded : e.Headed := by
    intro id f hf
    rw [hempty] at hf
    cases hf
  obtain ⟨hchain, hall⟩ : (e :: e.trail ops).IsChain Advances ∧ ∀ e' ∈ e :: e.trail ops, e'.Headed :=
    Run.isChain_of_carried (Run.isChain_trail getLast?_passes isChain_keepsHeads e ops) hheaded
  refine ⟨fun e' he' id f hf => (hall e' he' id f hf).inOrder, fun before s after rest hsplit id f hf hretained => ?_⟩
  rw [hsplit] at hchain
  have hpart : (s :: after).IsChain Advances := by
    rw [← List.cons_append] at hchain
    exact (List.isChain_append.1 (List.isChain_append.1 hchain).2.1).1
  refine Run.forall_of_isChain (P := fun e' => ∃ f', e'.flows.find? id = some f' ∧
    f.currentGeneration ≤ f'.currentGeneration)
    (fun s s' hadvances hs hs' => ?_) hpart ⟨f, hf, le_rfl⟩ hretained
  obtain ⟨f₁, hf₁, hle₁⟩ := hs
  obtain ⟨f₂, hf₂⟩ := Option.isSome_iff_exists.1 hs'
  exact ⟨f₂, hf₂, hle₁.trans (hadvances id f₁ f₂ hf₁ hf₂)⟩

/-- Evidence of a second generation, and then of the first again. -/
def twoGenerations : List Op :=
  let a := sourceIdFromKey (str "a")
  let first := sampleObservation a .Sample 1 ⟨900⟩
  [.ingest first, .ingest { sampleObservation a .Sample 2 ⟨950⟩ with subject :=
    { first.subject with generation := ⟨2⟩ } },
    .ingest (sampleObservation a .Sample 3 ⟨960⟩)]

theorem generations_ordered_two :
    ∃ f, (twoGenerations.foldl step { clock := ⟨1000⟩, isOpen := true }).flows.find? sampleFlow
    = some f ∧ f.InOrder ∧ f.generations.toList.map (·.id) = [⟨1⟩, ⟨2⟩] ∧ f.currentGeneration = ⟨2⟩ := by
  have hlast : ((twoGenerations.foldl step { clock := ⟨1000⟩, isOpen := true }).flows.find? sampleFlow).map
      (fun f => (f.generations.toList.map (·.id), f.currentGeneration)) =
      some ([⟨1⟩, ⟨2⟩], ⟨2⟩) := by with_unfolding_all decide
  obtain ⟨f, hf, hshape⟩ := Option.map_eq_some_iff.1 hlast
  rw [Prod.mk.injEq] at hshape
  refine ⟨f, hf, (generations_ordered { clock := ⟨1000⟩, isOpen := true } twoGenerations rfl).1 _ ?_ sampleFlow f hf,
    hshape⟩
  exact .tail _ (.tail _ (.tail _ (.head _)))

end Engine

end FlowObs
