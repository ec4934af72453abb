import FlowObs.Engine.Coherent
import FlowObs.Fold
import FlowObs.Persist.JournalRun

/-!
# Who may end a generation

A generation is completed or reset on the word of a source that was registered with the capability to say so. The word
is read from the cached fold of the source (`SourceBinding.declared?`), whose capabilities come from the source table
and whose declaration comes from the ledger. `Authorised` carries both through a run; what breaks the second is an
observation that replaces the only one that made a declaration (`Disowned`). `enters_with_authority` is the result for
every step of a run.
-/

namespace FlowObs

/-! ## A declaration and the capability to make it -/

/-- The states that a source may declare. -/
def FlowState.isDeclared : FlowState → Bool
  | .Completed | .Reset => true
  | _ => false

/-- The capability to declare a state. -/
def SourceCapabilities.asserts (c : SourceCapabilities) : FlowState → Bool
  | .Completed => c.assertsCompletion
  | .Reset => c.assertsReset
  | _ => false

theorem honoured_some {v : SourceView} {declared : FlowState} (h : honoured v = some declared) :
    v.declaredTerminal = some declared ∧ v.advisoryOnly = false ∧ v.capabilities.asserts declared = true := by
  unfold honoured at h
  by_cases hadvisory : v.advisoryOnly = true
  · rw [if_pos hadvisory] at h
    cases h
  · rw [if_neg hadvisory] at h
    replace hadvisory : v.advisoryOnly = false := Bool.eq_false_iff.2 hadvisory
    split at h
    · rename_i hd
      split at h
      · rename_i hc
        cases h
        exact ⟨hd, hadvisory, hc⟩
      · cases h
    · rename_i hd
      split at h
      · rename_i hc
        cases h
        exact ⟨hd, hadvisory, hc⟩
      · cases h
    · cases h

/-- The state that the cached fold of a binding declares and is entitled to declare. -/
def SourceBinding.declared? (b : SourceBinding) : Option FlowState := b.cached.bind honoured

/-! ## The ledger behind a declaration -/

namespace SourceLedger

variable {l : SourceLedger} {obs : Observation} {declared : FlowState}

/-- The ledger has what makes a declaration: it was folded, or is retained. -/
def supports (l : SourceLedger) (declared : FlowState) : Bool :=
  l.prefixState.declaredTerminal == some declared || l.entries.toList.any (fun o => o.kind.declares == some declared)

/-- The observation replaces the only one that makes a declaration. -/
def disowns (l : SourceLedger) (obs : Observation) (declared : FlowState) : Bool :=
  l.replaces obs && !({ l with entries := l.entries.set obs } : SourceLedger).supports declared

/-- **What a view declares is in the ledger.** -/
theorem supports_foldSourceView {d : SourceDescriptor} {ctx : FreshnessContext} {counters : CounterPolicy}
    (h : (foldSourceView l d ctx counters).declaredTerminal = some declared) : l.supports declared = true := by
  have hfold : (l.foldAll counters).declaredTerminal = some declared := (Option.filter_eq_some_iff.1 h).1
  unfold supports
  rw [Bool.or_eq_true]
  rcases declaredTerminal_foldl (declaredTerminal_applyObservation counters) l.entries.toList
    hfold with h | ⟨o, ho, hkind⟩
  · exact .inl (beq_iff_eq.2 h)
  · exact .inr (List.any_eq_true.2 ⟨o, ho, beq_iff_eq.2 hkind⟩)

/-- An insertion that is not accepted leaves what makes a declaration, unless it replaces it. -/
theorem supports_insert (h : l.supports declared = true) (hkind : (l.insert obs).2.kind ≠ .Accepted)
    (hkeeps : l.disowns obs declared = false) : (l.insert obs).1.supports declared = true := by
  have hcases := l.insert_cases obs
  generalize (l.insert obs).1 = l' at hcases ⊢
  generalize (l.insert obs).2.kind = kind at hcases hkind
  cases hcases with
  | foreign _ => exact h
  | refolded _ _ _ => exact h
  | stale _ _ _ => exact h
  | redelivered _ _ _ _ _ => exact h
  | outranked _ _ _ _ _ => exact h
  | accepted _ _ _ => exact absurd rfl hkind
  | replaced _ hi stored hf hd =>
    have hreplaces : l.replaces obs = true := by simp [replaces, hi, hf, hd]
    unfold disowns at hkeeps
    rw [hreplaces, Bool.true_and, Bool.not_eq_false'] at hkeeps
    exact hkeeps

/-- Folding an entry out of a ledger declares what its kind does. -/
theorem declaresAlike_foldEntry (policy : CounterPolicy) : DeclaresAlike (foldEntry policy) := by
  intro s obs
  rw [← declaredTerminal_applyObservation policy]
  have hunmarked := congrArg FoldState.declaredTerminal
    (unmark_foldMark (applyObservation policy s obs) obs.canonicalKey)
  exact hunmarked

/-- **What supports a declaration was taken.** -/
theorem Took.of_supports {taken : List Observation} (ht : l.Took taken) (h : l.supports declared = true) :
    ∃ o ∈ taken, o.kind.declares = some declared := by
  obtain ⟨folded, rfl, hstart⟩ := ht
  unfold supports at h
  rw [Bool.or_eq_true] at h
  rcases h with h | h
  · have hfolded := beq_iff_eq.1 h
    rw [hstart] at hfolded
    rcases declaredTerminal_foldl (declaresAlike_foldEntry l.counterPolicy) folded hfolded with hnone | ⟨o, ho, hkind⟩
    · cases hnone
    · exact ⟨o, List.mem_append_left _ ho, hkind⟩
  · obtain ⟨o, ho, hkind⟩ := List.any_eq_true.1 h
    exact ⟨o, List.mem_append_right _ ho, beq_iff_eq.1 hkind⟩

/-- A ledger whose prefix declares nothing retains every declaration that it took. -/
theorem Took.retained {taken : List Observation} (ht : l.Took taken) (hnone : l.prefixState.declaredTerminal = none)
    (ho : obs ∈ taken) (hkind : obs.kind.declares.isSome = true) : obs ∈ l.entries.toList := by
  obtain ⟨folded, rfl, hstart⟩ := ht
  refine (List.mem_append.1 ho).resolve_left (fun hfolded => ?_)
  have hsome := isSome_declaredTerminal_foldl (declaresAlike_foldEntry l.counterPolicy) folded (s := {})
    (.inr ⟨obs, hfolded, hkind⟩)
  rw [← hstart, hnone] at hsome
  cases hsome

end SourceLedger

/-! ## The decision -/

section Decision

variable {config : EngineConfig} {sources : SourceTable} {ctx : FreshnessContext} {atTime : Timestamp}

/-- A decision for a state that sources declare is for the previous one, or honours a source. -/
theorem decideGenerationState_declared {view : GenerationView} {previous : FlowState} {expiry : ExpiryPolicy}
    (h : (decideGenerationState view previous expiry ctx).state.isDeclared = true) :
    (decideGenerationState view previous expiry ctx).state = previous ∨
      ∃ v ∈ view.sources, honoured v = some (decideGenerationState view previous expiry ctx).state := by
  unfold decideGenerationState at h ⊢
  split
  · exact .inl rfl
  · rename_i hprevious
    rw [if_neg hprevious] at h
    split
    · rename_i hconflict
      rw [if_pos hconflict] at h
      cases h
    · rename_i hconflict
      rw [if_neg hconflict] at h
      cases hfound : view.sources.findSome? (honour previous) with
      | some d =>
        obtain ⟨v, hv, hd⟩ := List.exists_of_findSome?_eq_some hfound
        refine .inr ⟨v, hv, ?_⟩
        unfold honour at hd
        split at hd
        · rename_i hh
          cases hd
          exact hh
        · rename_i hh
          cases hd
          exact hh
        · cases hd
      | none =>
        left
        simp only [hfound] at h ⊢
        split
        · rename_i husable
          rw [if_pos husable] at h
          unfold decideUnusable finish at h ⊢
          split_ifs at h ⊢ <;> first | rfl | cases h
        · rename_i husable
          rw [if_neg husable] at h
          unfold decideUsable finish at h
          dsimp only at h
          split_ifs at h <;> cases h

/-- **A generation that takes a declared state is told so by the fold of one of its sources.** -/
theorem recomputeRecord_declared {flow : FlowId} {current : GenerationId} {g : GenerationRuntime}
    (h : (recomputeRecord config sources ctx flow current atTime g).state.isDeclared = true) :
    (recomputeRecord config sources ctx flow current atTime g).state = g.state ∨ ∃ b ∈ g.bindings.toList,
      (refreshBinding config sources ctx b).declared?
        = some (recomputeRecord config sources ctx flow current atTime g).state := by
  have hstate : (recomputeRecord config sources ctx flow current atTime g).state = g.state ∨
      (recomputeRecord config sources ctx flow current atTime g).state
        = (decisionFor config sources ctx flow current g).state := by
    simp only [recomputeRecord]
    split
    · exact .inr rfl
    · exact .inl rfl
  rcases hstate with hstate | hstate
  · exact .inl hstate
  · rw [hstate] at h ⊢
    rcases decideGenerationState_declared h with hprevious | ⟨v, hv, hh⟩
    · exact .inl hprevious
    · right
      have hviews : v ∈ (g.bindings.toList.filterMap (bindingView config sources ctx)).map retotal :=
        (List.perm_insertionSort _ _).mem_iff.1 hv
      obtain ⟨v₀, hv₀, rfl⟩ := List.mem_map.1 hviews
      obtain ⟨b, hb, hview⟩ := List.mem_filterMap.1 hv₀
      refine ⟨b, hb, ?_⟩
      obtain ⟨s, hs, rfl⟩ := Option.map_eq_some_iff.1 hview
      have hsame : honoured (retotal (sourceView config b s.descriptor ctx)) =
          honoured (b.fold s.descriptor ctx config) := rfl
      unfold decisionFor
      rw [← hh, hsame]
      unfold SourceBinding.declared? refreshBinding
      simp only [hs, Option.bind_some]

/-! ## One flow -/

variable {replaying : Bool} {obs : Observation} {f f' f'' : FlowRuntime} {outcome : IngestOutcome}

/-- The generations of `f'` have the states that they have in `f`, or none yet. -/
def FlowRuntime.Stays (f f' : FlowRuntime) : Prop := ∀ gen g', f'.generations.find? gen = some g' →
  (∃ g, f.generations.find? gen = some g ∧ g'.state = g.state) ∨ g'.state = .Unknown

theorem FlowRuntime.Stays.of_generations (h : f'.generations = f.generations) : f.Stays f' :=
  fun _ g' hg' => .inl ⟨g', h ▸ hg', rfl⟩

theorem FlowRuntime.Stays.trans (h : f.Stays f') (h' : f'.Stays f'') : f.Stays f'' := by
  intro gen g'' hg''
  rcases h' gen g'' hg'' with ⟨g', hg', hstate⟩ | hnew
  · rw [hstate]
    exact h gen g' hg'
  · exact .inr hnew

/-- Setting a generation that was obtained, in the state it had. -/
theorem FlowRuntime.Stays.set (atTime : Timestamp) {wanted : GenerationId} {g : GenerationRuntime}
    (hfind : ∀ gen, f'.generations.find? gen = if wanted = gen then some g else f.generations.find? gen)
    (hstate : g.state = (obtainGeneration f wanted atTime).state) : f.Stays f' := by
  intro gen g' hg'
  rw [hfind] at hg'
  split at hg'
  · rename_i hgen
    cases hg'
    rw [hstate, ← hgen]
    unfold obtainGeneration
    cases hf : f.generations.find? wanted with
    | none => exact .inr rfl
    | some g₀ => exact .inl ⟨g₀, rfl, rfl⟩
  · exact .inl ⟨g', hg', rfl⟩

theorem stays_enter {room : FlowRuntime} {wanted : GenerationId} (atTime : Timestamp)
    (h : Roomed config.limits f wanted room) : f.Stays (room.enter wanted atTime) := by
  have hroom : f.Stays room := by
    intro gen g' hg'
    rcases h.find?.2 gen with hgen | hgen
    · exact .inl ⟨g', hgen ▸ hg', rfl⟩
    · rw [hgen] at hg'
      cases hg'
  exact hroom.trans (.set atTime (fun gen => find?_enter room wanted gen atTime) rfl)

theorem stays_insert (replaying : Bool) (atTime : Timestamp) {room : FlowRuntime}
    (h : Roomed config.limits f obs.subject.generation room) :
    f.Stays (insertEvidence config.limits replaying atTime (clampedObservation config.limits obs)
      (room.enter obs.subject.generation atTime)).1 :=
  (stays_enter atTime h).trans (.set atTime (find?_insertEvidence config.limits replaying atTime
    (clampedObservation config.limits obs) (room.enter obs.subject.generation atTime)) rfl)

/-- A generation of `f'` whose state is a declared one had it in `f`, or the cached fold of a source declares it. -/
def FlowRuntime.Declared (f f' : FlowRuntime) : Prop := ∀ gen g', f'.generations.find? gen = some g' →
  g'.state.isDeclared = true → (∃ g, f.generations.find? gen = some g ∧ g'.state = g.state) ∨
    ∃ source b, f'.binding? gen source = some b ∧ b.declared? = some g'.state

theorem FlowRuntime.Stays.declared (h : f.Stays f') : f.Declared f' := by
  intro gen g' hg' hd
  rcases h gen g' hg' with hsame | hnew
  · exact .inl hsame
  · rw [hnew] at hd
    cases hd

/-- **Recomputing gives a generation a declared state only on the word of a source.** -/
theorem FlowRuntime.Stays.recompute (h : f.Stays f') : f.Declared (recomputeFlow config sources ctx atTime f') := by
  intro gen g' hg' hd
  have hfind := hg'
  rw [recomputeFlow_generations, find?_recomputed] at hfind
  obtain ⟨g, hg, rfl⟩ := Option.map_eq_some_iff.1 hfind
  rcases recomputeRecord_declared hd with hsame | ⟨b, hb, hdeclared⟩
  · rcases h gen g hg with ⟨g₀, hg₀, hstate⟩ | hnew
    · exact .inl ⟨g₀, hg₀, hsame.trans hstate⟩
    · rw [hsame, hnew] at hd
      cases hd
  · refine .inr ⟨b.source, refreshBinding config sources ctx b, ?_, hdeclared⟩
    rw [binding?_recomputeFlow, FlowRuntime.binding?, hg, Option.bind_some, SortedVec.find?_of_mem hb]
    rfl

theorem FlowApplied.declared (h : FlowApplied config sources ctx replaying atTime obs f f' outcome) :
    f.Declared f' := by
  cases h with
  | collided _ hn _ => exact (FlowRuntime.Stays.of_generations hn.generations_eq).declared
  | stopped _ hn _ => exact (FlowRuntime.Stays.of_generations hn.generations_eq).declared
  | noSourceRoom room _ hroom _ hn _ =>
    exact ((stays_enter atTime hroom).trans (.of_generations hn.generations_eq)).declared
  | ledgerRefused room _ hroom _ _ hn _ =>
    exact ((stays_insert replaying atTime hroom).trans (.of_generations hn.generations_eq)).declared
  | recomputed room settled _ hroom _ _ _ hs _ =>
    have hsettled := (stays_insert replaying atTime hroom).trans
      (.of_generations (hs.generations_eq.trans (revise_generations _ _)))
    exact (hsettled.trans (.set atTime (fun gen => find?_touch settled obs.subject.generation gen atTime)
      rfl)).recompute

end Decision

/-! ## One binding -/

namespace SourceBinding

variable {registered : SourceDescriptor → Prop} {delivered : Observation → Prop} {b : SourceBinding} {obs : Observation}

/-- The ledger of a binding took what its source delivered, and the cached fold has the capabilities of a descriptor
that was registered, or none. -/
structure Authorised (registered : SourceDescriptor → Prop) (delivered : Observation → Prop) (b : SourceBinding) :
    Prop where
  source : b.ledger.source = b.source
  took : ∃ taken, b.ledger.Took taken ∧ ∀ o ∈ taken, delivered o ∧ o.key.source = b.source
  described : ∀ v, b.cached = some v → ∃ d : SourceDescriptor, d.id = b.source ∧
    (registered d ∨ d.capabilities = {}) ∧ v.capabilities = d.capabilities ∧ v.advisoryOnly = d.advisoryOnly

/-- What the cached fold of a binding declares is in its ledger. -/
def Backed (b : SourceBinding) : Prop := ∀ declared, b.declared? = some declared → b.ledger.supports declared = true

theorem authorised_fresh (limits : Limits) (replaying : Bool) (source : SourceId) (generation : FlowGeneration) :
    (freshBinding limits replaying source generation).Authorised registered delivered where
  source := rfl
  took := ⟨[], SourceLedger.took_configure _ _ _, fun o ho => by cases ho⟩
  described v hv := by cases hv

theorem backed_of_none (h : b.cached = none) : b.Backed := by
  intro declared hd
  rw [declared?, h] at hd
  cases hd

section Refresh

variable {config : EngineConfig} {sources : SourceTable}

theorem Authorised.refresh (h : b.Authorised registered delivered) (ctx : FreshnessContext)
    (hsources : ∀ id s, sources.find? id = some s → registered s.descriptor ∨ s.descriptor.capabilities = {}) :
    (refreshBinding config sources ctx b).Authorised registered delivered := by
  refine ⟨?_, ?_, ?_⟩
  · rw [refreshBinding_ledger, refreshBinding_source, h.source]
  · rw [refreshBinding_ledger, refreshBinding_source]
    exact h.took
  · intro v hv
    rw [refreshBinding_source]
    unfold refreshBinding at hv
    cases hs : sources.find? b.source with
    | none =>
      rw [hs] at hv
      exact h.described v hv
    | some s =>
      rw [hs] at hv
      obtain rfl : b.fold s.descriptor ctx config = v := Option.some.inj hv
      unfold SourceBinding.fold
      cases hc : b.cached with
      | some v => exact h.described v hc
      | none =>
        have hid : s.descriptor.id = b.source := (SortedVec.find?_key hs : s.id = b.source)
        exact ⟨s.descriptor, hid, hsources _ s hs, rfl, rfl⟩

theorem Backed.refresh (h : b.Backed) (ctx : FreshnessContext) : (refreshBinding config sources ctx b).Backed := by
  intro declared hd
  rw [refreshBinding_ledger]
  unfold refreshBinding at hd
  cases hs : sources.find? b.source with
  | none =>
    rw [hs] at hd
    exact h declared hd
  | some s =>
    rw [hs] at hd
    have hfold : honoured (b.fold s.descriptor ctx config) = some declared := hd
    unfold SourceBinding.fold at hfold
    cases hc : b.cached with
    | some v =>
      rw [hc] at hfold
      exact h declared (by rw [declared?, hc]; exact hfold)
    | none =>
      rw [hc] at hfold
      exact SourceLedger.supports_foldSourceView (honoured_some hfold).1

end Refresh

/-- An observation that is accepted gives up the cached fold; another one leaves it. -/
theorem take_cached (b : SourceBinding) (replaying : Bool) (obs : Observation) :
    (b.take replaying obs).1.cached = none ∨
    (b.ledger.insert obs).2.kind ≠ .Accepted ∧ (b.take replaying obs).1.cached = b.cached := by
  unfold take
  cases hk : (b.ledger.insert obs).2.kind <;> simp [hk]

theorem Authorised.take (h : b.Authorised registered delivered) (replaying : Bool) (hd : delivered obs) :
    (b.take replaying obs).1.Authorised registered delivered := by
  refine ⟨?_, ?_, ?_⟩
  · rw [take_ledger, take_source, (SourceLedger.insert_source _ _).1, h.source]
  · rw [take_ledger, take_source]
    obtain ⟨taken, htook, hall⟩ := h.took
    obtain ⟨taken', htook', hall'⟩ := htook.insert obs
    refine ⟨taken', htook', fun o ho => ?_⟩
    rcases hall' o ho with ho | ⟨hbelongs, rfl⟩
    · exact hall o ho
    · refine ⟨hd, ?_⟩
      unfold SourceLedger.belongs at hbelongs
      split_ifs at hbelongs with _ hsource
      rw [not_not.1 hsource, h.source]
  · intro v hv
    rw [take_source]
    rcases take_cached b replaying obs with hnone | ⟨-, hsame⟩
    · rw [hnone] at hv
      cases hv
    · exact h.described v (hsame ▸ hv)

theorem Backed.take (h : b.Backed) (replaying : Bool)
    (hkeeps : ∀ declared, b.declared? = some declared → b.ledger.disowns obs declared = false) :
    (b.take replaying obs).1.Backed := by
  rcases take_cached b replaying obs with hnone | ⟨hkind, hsame⟩
  · exact backed_of_none hnone
  · intro declared hd
    unfold declared? at hd
    rw [hsame] at hd
    rw [take_ledger]
    exact SourceLedger.supports_insert (h declared hd) hkind (hkeeps declared hd)

end SourceBinding

namespace Engine

/-! ## One step of the engine -/

/-- The engine holds the generation in a terminal state. -/
def terminal (e : Engine) (flow : FlowId) (gen : GenerationId) : Bool :=
  (e.generation? flow gen).any (fun g => isTerminal g.state)

/-- An observation replaces, in the ledger of a generation that is not terminal yet, the only one that makes the
declaration of the cached fold. -/
def Disowned (e : Engine) (incoming : Observation) : Prop :=
  e.reachesLedger incoming = true ∧
  e.terminal (e.taken incoming).subject.flow (e.taken incoming).subject.generation = false ∧
    (e.bindingFor (e.taken incoming)).declared?.any
      ((e.bindingFor (e.taken incoming)).ledger.disowns (e.taken incoming)) = true

instance (e : Engine) (incoming : Observation) : Decidable (e.Disowned incoming) :=
  inferInstanceAs (Decidable (_ ∧ _ ∧ _))

/-- A generation of `e'` whose state is a declared one had it in `e`, or the cached fold of a source declares it. -/
def Declared (e e' : Engine) : Prop := ∀ flow gen g', e'.generation? flow gen = some g' → g'.state.isDeclared = true →
  (∃ g, e.generation? flow gen = some g ∧ g'.state = g.state) ∨
    ∃ source b, e'.binding? flow gen source = some b ∧ b.declared? = some g'.state

section Step

variable {e e' : Engine} {atTime : Timestamp}

/-- What a step does to each flow it does to the engine. -/
theorem declared_of_flows (h : ∀ id f', e'.flows.find? id = some f' → ∀ gen g', f'.generations.find? gen = some g' →
      g'.state.isDeclared = true → (∃ g, (e.flows.find? id).bind (·.generations.find? gen) = some g ∧
        g'.state = g.state) ∨
        ∃ source b, f'.binding? gen source = some b ∧ b.declared? = some g'.state) : e.Declared e' := by
  intro flow gen g' hg' hd
  obtain ⟨f', hf', hg'⟩ := Option.bind_eq_some_iff.1 hg'
  rcases h flow f' hf' gen g' hg' hd with hsame | ⟨source, b, hb, hdeclared⟩
  · exact .inl hsame
  · exact .inr ⟨source, b, by rw [binding?, hf', Option.bind_some, hb], hdeclared⟩

theorem declared_applyLocked (e : Engine) (incoming : Observation) : e.Declared (e.applyLocked incoming).1 := by
  refine declared_of_flows (flows_applyLocked e incoming
    (Q := fun o f' => ∀ gen g', f'.generations.find? gen = some g' →
    g'.state.isDeclared = true → (∃ g, o.bind (·.generations.find? gen) = some g ∧ g'.state = g.state) ∨
      ∃ source b, f'.binding? gen source = some b ∧ b.declared? = some g'.state) (fun f => ?_) (fun f f' h => ?_)
    (fun f' h => ?_))
  · exact fun gen g' hg' _ => .inl ⟨g', hg', rfl⟩
  · exact h.declared
  · intro gen g' hg' hd
    rcases h.declared gen g' hg' hd with ⟨g, hg, -⟩ | hsource
    · cases hg
    · exact .inr hsource

/-- A recomputation of flows that stay as they are. -/
theorem declared_recomputeAll {before : Engine} (e : Engine) (atTime : Timestamp) (due : FlowRuntime → Bool)
    (h : ∀ id f', e.flows.find? id = some f' → ∃ f, before.flows.find? id = some f ∧ f.Stays f') :
    before.Declared (e.recomputeAll atTime due) := by
  refine declared_of_flows (fun id f' hf' => ?_)
  rw [find?_recomputeAll] at hf'
  obtain ⟨f₁, hf₁, rfl⟩ := Option.map_eq_some_iff.1 hf'
  obtain ⟨f, hf, hstays⟩ := h id f₁ hf₁
  rw [hf]
  unfold recomputeDue
  split
  · exact hstays.recompute
  · exact hstays.declared

theorem stays_dropSource (id : SourceId) (f : FlowRuntime) : f.Stays (dropSource id f) := by
  intro gen g' hg'
  have hmap := SortedVec.find?_map f.generations (dropBinding id) (dropBinding_id id) gen
  obtain ⟨g, hg, rfl⟩ := Option.map_eq_some_iff.1 (hmap.symm.trans hg')
  exact .inl ⟨g, hg, rfl⟩

end Step

/-! ## What a run carries -/

section Run

variable {registered : SourceDescriptor → Prop} {delivered : Observation → Prop} {e e' : Engine}
    {incoming : Observation}

/-- **What a run carries.** The sources have descriptors that were registered, or no capability; so have the cached
folds, and what they declare is in the ledgers, as long as it matters. -/
structure Authorised (registered : SourceDescriptor → Prop) (delivered : Observation → Prop) (e : Engine) : Prop where
  sources : ∀ id s, e.sources.find? id = some s → registered s.descriptor ∨ s.descriptor.capabilities = {}
  bindings : e.Holds (fun _ _ b => b.Authorised registered delivered)
  backed : e.Holds (fun flow gen b => b.Backed ∨ e.terminal flow gen = true)

/-- A generation enters a declared state only when a source of it was registered with the capability to declare it,
not as advisory, and the ledger of that source took an observation which does and which the source delivered. -/
def EntersWith (registered : SourceDescriptor → Prop) (delivered : Observation → Prop) (e e' : Engine) : Prop :=
  ∀ flow gen g', e'.generation? flow gen = some g' → g'.state.isDeclared = true →
    (∀ g, e.generation? flow gen = some g → g.state ≠ g'.state) → ∃ source b, e'.binding? flow gen source = some b ∧
      (∃ d : SourceDescriptor, registered d ∧ d.id = source ∧ d.advisoryOnly = false ∧
        d.capabilities.asserts g'.state = true) ∧
      ∃ taken, b.ledger.Took taken ∧
        ∃ o ∈ taken, o.kind.declares = some g'.state ∧ delivered o ∧ o.key.source = source

/-- The sources after an observation: those of before, and one without capabilities at most. -/
theorem described_applyLocked (incoming : Observation)
    (h : ∀ id s, e.sources.find? id = some s → registered s.descriptor ∨ s.descriptor.capabilities = {}) :
    ∀ id s, (e.applyLocked incoming).1.sources.find? id = some s → registered s.descriptor ∨
    s.descriptor.capabilities = {} := by
  intro id s hs
  rcases sources_applyLocked e incoming with hsame | hsource
  · exact h id s (hsame ▸ hs)
  · generalize (e.applyLocked incoming).1.sources = sources at hs hsource
    cases hsource with
    | known _ _ _ => exact h id s hs
    | fresh _ _ =>
      rw [SortedVec.find?_set] at hs
      split at hs
      · cases hs
        exact .inr rfl
      · exact h id s hs

/-- **What carries over and what enters**, after a step that keeps the terminal generations and gives no generation a
declared state but on the word of a source. -/
theorem Authorised.step (hkept : e.Kept e') (hdeclared : e.Declared e')
    (hsources : ∀ id s, e'.sources.find? id = some s → registered s.descriptor ∨ s.descriptor.capabilities = {})
    (hbindings : e'.Holds (fun _ _ b => b.Authorised registered delivered))
    (hbacked : e'.Holds (fun flow gen b => b.Backed ∨ e.terminal flow gen = true)) :
    e'.Authorised registered delivered ∧ EntersWith registered delivered e e' := by
  have hgeneration : ∀ {flow gen source b}, e'.binding? flow gen source = some b →
      ∃ g', e'.generation? flow gen = some g' := by
    intro flow gen source b hb
    obtain ⟨f', hf', hb⟩ := Option.bind_eq_some_iff.1 hb
    obtain ⟨g', hg', -⟩ := Option.bind_eq_some_iff.1 hb
    exact ⟨g', by rw [generation?, hf', Option.bind_some, hg']⟩
  have hterminal : ∀ {flow gen g'}, e.terminal flow gen = true → e'.generation? flow gen = some g' →
      ∃ g, e.generation? flow gen = some g ∧ isTerminal g.state = true ∧ g'.state = g.state := by
    intro flow gen g' ht hg'
    obtain ⟨g, hg, ht⟩ := (Option.any_eq_true _ _).1 ht
    exact ⟨g, hg, ht, (hkept.generation hg hg' ht).1⟩
  refine ⟨⟨hsources, hbindings, fun flow gen source b hb => ?_⟩, fun flow gen g' hg' hd hnew => ?_⟩
  · refine (hbacked flow gen source b hb).imp id (fun ht => ?_)
    obtain ⟨g', hg'⟩ := hgeneration hb
    obtain ⟨g, hg, ht, hsame⟩ := hterminal ht hg'
    rw [terminal, hg', Option.any_some, hsame, ht]
  · rcases hdeclared flow gen g' hg' hd with ⟨g, hg, hsame⟩ | ⟨source, b, hb, hb'⟩
    · exact absurd hsame.symm (hnew g hg)
    · have hsupported : b.ledger.supports g'.state = true := by
        rcases hbacked flow gen source b hb with hbacked | ht
        · exact hbacked _ hb'
        · obtain ⟨g, hg, -, hsame⟩ := hterminal ht hg'
          exact absurd hsame.symm (hnew g hg)
      have hauthorised := hbindings flow gen source b hb
      have hsource : b.source = source := by
        obtain ⟨f', -, hfb⟩ := Option.bind_eq_some_iff.1 hb
        obtain ⟨g, -, hgb⟩ := Option.bind_eq_some_iff.1 hfb
        exact SortedVec.find?_key hgb
      refine ⟨source, b, hb, ?_, ?_⟩
      · obtain ⟨v, hv, hhonoured⟩ := Option.bind_eq_some_iff.1 hb'
        obtain ⟨-, hadvisory, hasserts⟩ := honoured_some hhonoured
        obtain ⟨d, hid, hregistered, hcapabilities, hadvises⟩ := hauthorised.described v hv
        rw [hcapabilities] at hasserts
        refine ⟨d, hregistered.resolve_right (fun hnone => ?_), hid.trans hsource, hadvises ▸ hadvisory, hasserts⟩
        rw [hnone] at hasserts
        unfold SourceCapabilities.asserts at hasserts
        split at hasserts <;> cases hasserts
      · obtain ⟨taken, htook, hall⟩ := hauthorised.took
        obtain ⟨o, ho, hkind⟩ := htook.of_supports hsupported
        obtain ⟨hdelivered, hkey⟩ := hall o ho
        exact ⟨taken, htook, o, ho, hkind, hdelivered, hkey.trans hsource⟩

theorem Authorised.apply (h : e.Authorised registered delivered) (hd : delivered (e.taken incoming))
    (hkeeps : ¬ e.Disowned incoming) : (e.applyLocked incoming).1.Authorised registered delivered ∧
      EntersWith registered delivered e (e.applyLocked incoming).1 := by
  have hsources := described_applyLocked incoming h.sources
  refine Authorised.step (kept_applyLocked e incoming) (declared_applyLocked e incoming) hsources ?_ ?_
  · refine holds_applyLocked h.bindings (fun ctx flow gen b hb => hb.refresh ctx hsources) (fun _ _ => ?_)
    refine SourceBinding.Authorised.take ?_ e.replaying hd
    unfold bindingFor
    cases hb : e.binding? (e.taken incoming).subject.flow (e.taken incoming).subject.generation
      (e.taken incoming).key.source with
    | none => exact SourceBinding.authorised_fresh _ _ _ _
    | some b => exact h.bindings _ _ _ b hb
  · refine holds_applyLocked h.backed (fun ctx flow gen b hb => hb.imp (·.refresh ctx) id) (fun _ hreach => ?_)
    by_cases ht : e.terminal (e.taken incoming).subject.flow (e.taken incoming).subject.generation = true
    · exact .inr ht
    · refine .inl (SourceBinding.Backed.take ?_ e.replaying (fun declared hdeclared => ?_))
      · unfold bindingFor
        cases hb : e.binding? (e.taken incoming).subject.flow (e.taken incoming).subject.generation
            (e.taken incoming).key.source with
        | none => exact SourceBinding.backed_of_none rfl
        | some b => exact (h.backed _ _ _ b hb).resolve_right ht
      · by_contra hdisowns
        refine hkeeps ⟨hreach, Bool.eq_false_iff.2 ht, ?_⟩
        rw [hdeclared, Option.any_some]
        exact Bool.not_eq_false _ ▸ hdisowns

theorem Authorised.of_same (h : e.Authorised registered delivered) (hsame : e.SameState e') :
    e'.Authorised registered delivered := by
  refine ⟨hsame.sources ▸ h.sources, h.bindings.of_flows hsame.flows, ?_⟩
  have hterminal : e'.terminal = e.terminal := by
    unfold terminal generation?
    rw [hsame.flows]
  rw [hterminal]
  exact h.backed.of_flows hsame.flows

theorem Authorised.recompute (h : e.Authorised registered delivered) (atTime : Timestamp) (due : FlowRuntime → Bool) :
    (e.recomputeAll atTime due).Authorised registered delivered ∧
      EntersWith registered delivered e (e.recomputeAll atTime due) := by
  refine Authorised.step (kept_recomputeAll e atTime due) ?_ h.sources ?_ ?_
  · exact declared_recomputeAll e atTime due (fun id f' hf' => ⟨f', hf', .of_generations rfl⟩)
  · exact holds_recomputeAll h.bindings due (fun ctx flow gen b hb => hb.refresh ctx h.sources)
  · exact holds_recomputeAll h.backed due (fun ctx flow gen b hb => hb.imp (·.refresh ctx) id)

/-- The retirement of a source leaves descriptors as they are. -/
theorem described_dropped {s : SourceState} {id : SourceId} (hs : e.sources.find? id = some s)
    (h : ∀ id s, e.sources.find? id = some s → registered s.descriptor ∨ s.descriptor.capabilities = {}) :
    ∀ id' s', (e.dropped s id).sources.find? id' = some s' → registered s'.descriptor ∨
    s'.descriptor.capabilities = {} := by
  intro id' s' hs'
  rw [show (e.dropped s id).sources = e.sources.set { s with retired := true } from rfl, SortedVec.find?_set] at hs'
  split at hs'
  · cases hs'
    exact h id s hs
  · exact h id' s' hs'

theorem Authorised.retire (h : e.Authorised registered delivered) {s : SourceState} {id : SourceId}
    (hs : e.sources.find? id = some s) (atTime : Timestamp) :
    ((e.dropped s id).recomputeAll atTime (fun _ => true)).Authorised registered delivered ∧
      EntersWith registered delivered e ((e.dropped s id).recomputeAll atTime (fun _ => true)) := by
  have hsources := described_dropped hs h.sources
  refine Authorised.step (kept_retired e s id atTime) ?_ hsources ?_ ?_
  · refine declared_recomputeAll _ _ _ (fun flow f' hf' => ?_)
    rw [find?_dropped] at hf'
    obtain ⟨f, hf, rfl⟩ := Option.map_eq_some_iff.1 hf'
    exact ⟨f, hf, stays_dropSource id f⟩
  · exact holds_recomputeAll (h.bindings.dropped s id) _ (fun ctx flow gen b hb => hb.refresh ctx hsources)
  · exact holds_recomputeAll (h.backed.dropped s id) _ (fun ctx flow gen b hb => hb.imp (·.refresh ctx) (fun ht => ht))

theorem Authorised.register (h : e.Authorised registered delivered) {s : SourceState} (hs : registered s.descriptor) :
    Authorised registered delivered { e with sources := e.sources.set s } := by
  refine ⟨fun id s' hs' => ?_, h.bindings.of_flows rfl, h.backed.of_flows rfl⟩
  rw [SortedVec.find?_set] at hs'
  split at hs'
  · cases hs'
    exact .inl hs
  · exact h.sources id s' hs'

/-- Nothing enters when the flows stay as they are. -/
theorem entersWith_of_flows (h : e'.flows = e.flows) : EntersWith registered delivered e e' := by
  intro flow gen g' hg' _ hnew
  unfold generation? at hg' hnew
  rw [h] at hg'
  exact absurd rfl (hnew g' hg')

/-- **The states that an operation goes through**, each with what it carries over to the next. -/
theorem Authorised.passes (h : e.Authorised registered delivered) {op : Op}
    (hcond : ∀ p ∈ e.applications op, delivered (p.1.taken p.2) ∧ ¬ p.1.Disowned p.2)
    (hregistered : ∀ d, op = .registerSource d → (e.registerSource d).2 = .ok () → registered d) :
    (e :: e.passes op).IsChain (EntersWith registered delivered) ∧ (e.step op).Authorised registered delivered := by
  have hchain : (e :: e.passes op).IsChain (fun e e' => e.Authorised registered delivered →
      e'.Authorised registered delivered ∧ EntersWith registered delivered e e') := by
    refine passes_rule (fun e obs => delivered (e.taken obs) ∧ ¬ e.Disowned obs) registered
      (fun e e' hsame h => ⟨h.of_same hsame, entersWith_of_flows hsame.flows⟩) (fun hsame hstep hsame' h => ?_)
      (fun e obs hcond h => h.apply hcond.1 hcond.2) (fun e atTime due h => h.recompute atTime due)
      (fun e s id atTime hs h => h.retire hs atTime) (fun e s hs h => ⟨h.register hs, entersWith_of_flows rfl⟩) hcond
      hregistered
    obtain ⟨hnext, henters⟩ := hstep (h.of_same hsame)
    refine ⟨hnext.of_same hsame', ?_⟩
    unfold EntersWith generation? binding? at henters ⊢
    rwa [hsame'.flows, ← hsame.flows]
  obtain ⟨henters, hall⟩ := Run.isChain_of_carried hchain h
  have hlast : e.step op ∈ e :: e.passes op := List.mem_cons_of_mem _ (List.mem_of_getLast? (getLast?_passes e op))
  exact ⟨henters, hall _ hlast⟩

end Run

/-! ## Runs -/

/-- The observations that a run applies, each with the state it is applied to. -/
def runApplications (e : Engine) : List Op → List (Engine × Observation)
  | [] => []
  | op :: ops => e.applications op ++ (e.step op).runApplications ops

/-- The observations that a run hands to the ledgers. -/
def deliveries (e : Engine) (ops : List Op) : List Observation := (e.runApplications ops).map (fun p => p.1.taken p.2)

/-- The descriptors that `register_source` takes in a run. -/
def registrations (e : Engine) : List Op → List SourceDescriptor
  | [] => []
  | .registerSource d :: ops =>
    (if (e.registerSource d).2.isOk then [d] else []) ++ (e.step (.registerSource d)).registrations ops
  | op :: ops => (e.step op).registrations ops

section Runs

variable {registered : SourceDescriptor → Prop} {delivered : Observation → Prop}

theorem mem_registrations {e : Engine} {op : Op} {ops : List Op} :
    (∀ d, op = .registerSource d → (e.registerSource d).2 = .ok () → d ∈ e.registrations (op :: ops)) ∧
      ∀ d ∈ (e.step op).registrations ops, d ∈ e.registrations (op :: ops) := by
  cases op with
  | registerSource d =>
    refine ⟨fun d' hd' hok => ?_, fun d' hd' => List.mem_append_right _ hd'⟩
    cases hd'
    refine List.mem_append_left _ ?_
    rw [hok]
    exact List.mem_singleton.2 rfl
  | _ => exact ⟨fun d hd => (by cases hd), fun d hd => hd⟩

/-- **A run carries what its steps carry**, to its last operation. -/
theorem Authorised.run {ops : List Op} {e : Engine} {op : Op} (h : e.Authorised registered delivered)
    (hregistered : ∀ d ∈ e.registrations (ops ++ [op]), registered d)
    (hcond : ∀ p ∈ e.runApplications (ops ++ [op]), delivered (p.1.taken p.2) ∧ ¬ p.1.Disowned p.2) :
    (ops.foldl Engine.step e :: (ops.foldl Engine.step e).passes op).IsChain (EntersWith registered delivered) := by
  induction ops generalizing e with
  | nil =>
    exact (h.passes (fun p hp => hcond p (List.mem_append_left _ hp))
      (fun d hd hok => hregistered d (mem_registrations.1 d hd hok))).1
  | cons first ops ih =>
    have hstep := (h.passes (fun p hp => hcond p (List.mem_append_left _ hp))
      (fun d hd hok => hregistered d (mem_registrations.1 d hd hok))).2
    exact ih hstep (fun d hd => hregistered d (mem_registrations.2 d hd))
      (fun p hp => hcond p (List.mem_append_right _ hp))

theorem authorised_empty {e : Engine} (hflows : e.flows = ∅) (hsources : e.sources = ∅) :
    e.Authorised registered delivered := by
  have hnone : ∀ flow gen source, e.binding? flow gen source = none := by
    intro flow gen source
    rw [binding?, hflows]
    rfl
  refine ⟨fun id s hs => ?_, fun flow gen source b hb => ?_, fun flow gen source b hb => ?_⟩
  · rw [hsources] at hs
    cases hs
  · rw [hnone] at hb
    cases hb
  · rw [hnone] at hb
    cases hb

/-- **A generation is completed or reset only on the word of a source that was entitled to give it.** In every step of
a run of an engine that is opened on no file, when no observation of the run replaces the only one that makes a
declaration which is still to be honoured. -/
theorem enters_with_authority (config : EngineConfig) (clock : Timestamp) (ops : List Op) (op : Op) :
    let start := ({ config := config, clock := clock } : Engine).openEngine.1
    (∀ p ∈ start.runApplications (ops ++ [op]), ¬ p.1.Disowned p.2) →
    (ops.foldl step start :: (ops.foldl step start).passes op).IsChain (EntersWith
      (· ∈ start.registrations (ops ++ [op])) (· ∈ start.deliveries (ops ++ [op]))) := by
  intro start hcond
  have hempty := opened_empty config clock
  refine Authorised.run (authorised_empty hempty.flows hempty.sources) (fun d hd => hd) (fun p hp => ⟨?_, hcond p hp⟩)
  exact List.mem_map_of_mem hp

end Runs

/-! ## A dispute -/

/-- A source that may complete a flow. -/
def closer : SourceDescriptor := sampleSource (str "a") { assertsCompletion := true }

/-- A source that may not. -/
def witness : SourceDescriptor := sampleSource (str "b") {}

/-- The source `a` closes the flow while it disagrees with the source `b` about its bytes. -/
def disputedOps : List Op :=
  [.registerSource closer, .registerSource witness,
    .ingest ((sampleObservation witness.id .Sample 1 ⟨900⟩).withBytes 0),
    .ingest ((sampleObservation witness.id .Sample 2 ⟨900⟩).withBytes 5),
    .ingest ((sampleObservation closer.id .Sample 1 ⟨900⟩).withBytes 0),
    .ingest ((sampleObservation closer.id .Close 2 ⟨1000⟩).withBytes 1000000000)]

/-- A tick when neither is fresh any more. -/
def settlingTick : Op := .tick ⟨100000000000⟩

/-- The same key with other content, of a smaller digest, that closes nothing. -/
def withdrawal : Op := .ingest ((sampleObservation closer.id .Sample 2 ⟨1000⟩).withBytes 1)

/-- The engine of the dispute, to begin with. -/
def disputed : Engine := ({ clock := ⟨1000⟩ } : Engine).openEngine.1

theorem enters_with_authority_disputed :
    (disputedOps.foldl step disputed :: (disputedOps.foldl step disputed).passes settlingTick).IsChain (EntersWith
      (· ∈ disputed.registrations (disputedOps ++ [settlingTick]))
        (· ∈ disputed.deliveries (disputedOps ++ [settlingTick]))) :=
  enters_with_authority {} ⟨1000⟩ disputedOps settlingTick (by with_unfolding_all decide)

/-- **A flow is completed on a word that was withdrawn**: the ledger of the source has no such observation any more. -/
theorem enters_without_authority : ¬ ∀ (config : EngineConfig) (clock : Timestamp) (ops : List Op) (op : Op),
    let start := ({ config := config, clock := clock } : Engine).openEngine.1
    ({ config := config, clock := clock } : Engine).openEngine.2 = .ok () →
    (ops.foldl step start :: (ops.foldl step start).passes op).IsChain (EntersWith
      (· ∈ start.registrations (ops ++ [op])) (· ∈ start.deliveries (ops ++ [op]))) := by
  intro h
  have hchain := h {} ⟨1000⟩ (disputedOps ++ [withdrawal]) settlingTick (by decide)
  obtain ⟨henters, -⟩ := List.isChain_cons_cons.1 hchain
  have hbefore : (((disputedOps ++ [withdrawal]).foldl step disputed).generation? sampleFlow ⟨1⟩).map (·.state)
      = some .Conflicting := by decide +kernel
  have hafter : ((((disputedOps ++ [withdrawal]).foldl step disputed).step settlingTick).generation? sampleFlow ⟨1⟩).map
      (·.state) = some .Completed := by decide +kernel
  have hclosers : ∀ o ∈ disputed.deliveries (disputedOps ++ [withdrawal] ++ [settlingTick]),
      o.kind.declares = some .Completed → o.key.source = closer.id := by with_unfolding_all decide
  have hledger : ((((disputedOps ++ [withdrawal]).foldl step disputed).step settlingTick).binding? sampleFlow
    ⟨1⟩ closer.id).any
      (fun b => b.ledger.prefixState.declaredTerminal == none && b.ledger.entries.toList.all (·.kind == .Sample)) =
      true := by
    decide +kernel
  obtain ⟨g', hg', hstate⟩ := Option.map_eq_some_iff.1 hafter
  obtain ⟨source, b, hb, -, taken, htook, o, ho, hkind, hdelivered, hkey⟩ := henters sampleFlow ⟨1⟩ g' hg'
    (by rw [hstate]; rfl) (fun g hg heq => by
      have hconflicting : some g.state = some .Conflicting := hbefore ▸ congrArg (Option.map (·.state)) hg ▸ rfl
      rw [heq, hstate] at hconflicting
      cases hconflicting)
  rw [hstate] at hkind
  obtain rfl : source = closer.id := hkey.symm.trans (hclosers o hdelivered hkind)
  obtain ⟨b', hb', hat⟩ := (Option.any_eq_true _ _).1 hledger
  obtain rfl : b' = b := Option.some.inj (hb'.symm.trans hb)
  rw [Bool.and_eq_true, beq_iff_eq, List.all_eq_true] at hat
  have hretained := htook.retained hat.1 ho (by rw [hkind]; rfl)
  have hsample := beq_iff_eq.1 (hat.2 o hretained)
  rw [hsample] at hkind
  cases hkind

end Engine

end FlowObs
