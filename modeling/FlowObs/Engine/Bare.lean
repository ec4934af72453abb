import FlowObs.Engine.Invariant
import FlowObs.Persist.Log

/-!
# What applying an observation depends on

Which observations the tables take, and what the ledgers make of them, depends on the keys, the current generations and
the ledgers of the flows, on what their cached folds declare and on the identity registries, but for the room that is
made: for that a flow gives up a terminal generation (`FlowRuntime.evictable`). `sketch` erases all else from a flow,
and two flows with one sketch that give up the same generation keep one sketch, whatever the instant, the descriptors
of the sources and whether the observation is replayed (`FlowTx.Alike.applyToFlow`). `bare` leaves the ledgers alone.
-/

namespace FlowObs

theorem SortedVec.map_erase {α κ : Type} [LinearOrder κ] {key : α → κ} (v : SortedVec key) (f : α → α)
    (hf : ∀ a, key (f a) = key a) (k : κ) : (v.erase k).map f hf = (v.map f hf).erase k := by
  refine SortedVec.ext_find? fun k' => ?_
  rw [find?_map, find?_erase, find?_erase, find?_map]
  split <;> rfl

/-! ## The bare tables -/

theorem Observation.bare_canonicalKey (o : Observation) : o.bare.canonicalKey = o.canonicalKey := rfl

/-- A ledger whose entries are bare. -/
def SourceLedger.bare (l : SourceLedger) : SourceLedger :=
  { l with entries := l.entries.map Observation.bare Observation.bare_canonicalKey }

/-- The ledger of a binding. -/
def SourceBinding.bare (b : SourceBinding) : SourceBinding := { source := b.source, ledger := b.ledger.bare }

theorem SourceBinding.bare_source (b : SourceBinding) : b.bare.source = b.source := rfl

/-- The ledgers of a generation. -/
def GenerationRuntime.bare (g : GenerationRuntime) : GenerationRuntime :=
  { id := g.id, bindings := g.bindings.map SourceBinding.bare SourceBinding.bare_source }

theorem GenerationRuntime.bare_id (g : GenerationRuntime) : g.bare.id = g.id := rfl

/-- The key and the ledgers of a flow. -/
def FlowRuntime.bare (f : FlowRuntime) : FlowRuntime :=
  { id := f.id, canonicalKey := f.canonicalKey
    generations := f.generations.map GenerationRuntime.bare GenerationRuntime.bare_id }

theorem FlowRuntime.bare_id (f : FlowRuntime) : f.bare.id = f.id := rfl

/-! ## Sketches -/

/-- What a cached fold declares: the terminal state, and the last instant that was observed. -/
def SourceView.sketch (v : SourceView) : SourceView :=
  { declaredTerminal := v.declaredTerminal, lastObservedAt := v.lastObservedAt }

/-- What the fold of a ledger declares. -/
def SourceLedger.sketch (l : SourceLedger) (counters : CounterPolicy) : SourceView :=
  (foldSourceView l {} {} counters).sketch

/-- The ledger of a binding, and what its cached fold declares. -/
def SourceBinding.sketch (b : SourceBinding) : SourceBinding :=
  { source := b.source, ledger := b.ledger.bare, cached := b.cached.map SourceView.sketch }

theorem SourceBinding.sketch_source (b : SourceBinding) : b.sketch.source = b.source := rfl

/-- The sketches of the bindings of a generation. -/
def GenerationRuntime.sketch (g : GenerationRuntime) : GenerationRuntime :=
  { id := g.id, bindings := g.bindings.map SourceBinding.sketch SourceBinding.sketch_source }

theorem GenerationRuntime.sketch_id (g : GenerationRuntime) : g.sketch.id = g.id := rfl

/-- The key of a flow, its current generation and the sketches of its generations. -/
def FlowRuntime.sketch (f : FlowRuntime) : FlowRuntime :=
  { id := f.id, canonicalKey := f.canonicalKey, currentGeneration := f.currentGeneration
    generations := f.generations.map GenerationRuntime.sketch GenerationRuntime.sketch_id }

theorem FlowRuntime.sketch_id (f : FlowRuntime) : f.sketch.id = f.id := rfl
theorem FlowRuntime.sketch_canonicalKey (f : FlowRuntime) : f.sketch.canonicalKey = f.canonicalKey := rfl

/-! ## Ledgers -/

namespace SourceLedger

theorem bare_compactEntries (l : SourceLedger) :
    l.bare.compactEntries = (l.compactEntries.1.bare, l.compactEntries.2) := by
  have hfold : ∀ (policy : CounterPolicy) (os : List Observation) (s : FoldState),
      (os.map Observation.bare).foldl (foldEntry policy) s = os.foldl (foldEntry policy) s := by
    intro policy os s
    rw [List.foldl_map]
    rfl
  have hlength : l.bare.entries.toList.length = l.entries.toList.length := List.length_map _
  have hcapacity : l.bare.capacity = l.capacity := rfl
  by_cases hfits : l.entries.toList.length ≤ l.capacity
  · simp only [compactEntries, hlength, hcapacity, if_pos hfits]
  · have htake : ∀ n, l.bare.entries.toList.take n = (l.entries.toList.take n).map Observation.bare :=
      fun _ => List.map_take.symm
    have hdrop : ∀ n, l.bare.entries.drop n = (l.entries.drop n).map Observation.bare Observation.bare_canonicalKey :=
      fun _ =>
      SortedVec.ext List.map_drop.symm
    simp only [compactEntries, hlength, hcapacity, if_neg hfits, htake, hdrop, hfold]
    rfl

/-- **Insertion** takes no notice of the key of the source. -/
theorem bare_insert (l : SourceLedger) (obs : Observation) :
    l.bare.insert obs.bare = ((l.insert obs).1.bare, (l.insert obs).2) := by
  have hdigest : ∀ o : Observation, contentDigest o.bare = contentDigest o := fun o => contentDigest_sourceKey o []
  have hfind : l.bare.entries.find? obs.bare.canonicalKey = (l.entries.find? obs.canonicalKey).map Observation.bare :=
    SortedVec.find?_map _ _ Observation.bare_canonicalKey _
  have hset : l.bare.entries.set obs.bare = (l.entries.set obs).map Observation.bare Observation.bare_canonicalKey :=
    (SortedVec.map_set _ _ Observation.bare_canonicalKey _).symm
  have hbelongs : l.bare.belongs obs.bare = l.belongs obs := rfl
  have hinside : l.bare.insideFolded obs.bare = l.insideFolded obs := rfl
  have hfolded : l.bare.prefixState.foldContains obs.bare.canonicalKey =
      l.prefixState.foldContains obs.canonicalKey := rfl
  unfold insert
  rw [hbelongs]
  cases l.belongs obs with
  | error detail => rfl
  | ok _ =>
    simp only [hinside, hfolded]
    split
    · split <;> rfl
    · rw [hfind]
      cases l.entries.find? obs.canonicalKey with
      | some stored =>
        simp only [Option.map_some, hdigest, hset]
        split
        · rfl
        · split <;> rfl
      | none =>
        simp only [Option.map_none, hset]
        have hcompact := bare_compactEntries
            { l with entries := l.entries.set obs, totalAccepted := l.totalAccepted + 1 }
        exact congrArg
          (fun p : SourceLedger × UInt32 => (p.1, ({ kind := .Accepted, code := .Ok, folded := p.2 } : InsertResult)))
            hcompact

theorem foldAll_bare (l : SourceLedger) (counters : CounterPolicy) : l.bare.foldAll counters = l.foldAll counters := by
  have hentries : l.bare.entries.toList = l.entries.toList.map Observation.bare := rfl
  rw [foldAll, foldAll, hentries, List.foldl_map]
  rfl

end SourceLedger

/-! ## Bindings and generations -/

section Tables

variable {config : EngineConfig} {sources : SourceTable} {ctx : FreshnessContext} {counters : CounterPolicy}
variable {limits : Limits} {replaying replaying' : Bool} {atTime atTime' : Timestamp} {obs : Observation} {k : Str}

theorem SourceLedger.sketch_bare (l : SourceLedger) (counters : CounterPolicy) :
    l.bare.sketch counters = l.sketch counters := by
  simp only [SourceLedger.sketch, foldSourceView, l.foldAll_bare]
  rfl

theorem SourceBinding.sketch_take (b : SourceBinding) (replaying : Bool) (obs : Observation) :
    (b.take replaying obs).1.sketch
        = { source := b.source, ledger := (b.ledger.insert obs).1.bare
            cached := if (b.ledger.insert obs).2.kind = .Accepted then none else b.sketch.cached } ∧
      (b.take replaying obs).2 = (b.ledger.insert obs).2 := by
  simp only [SourceBinding.take]
  cases hkind : (b.ledger.insert obs).2.kind with
  | Accepted => exact ⟨rfl, rfl⟩
  | Duplicate => exact ⟨rfl, rfl⟩
  | ContentConflict => exact ⟨rfl, rfl⟩
  | Refused => exact ⟨rfl, rfl⟩

theorem SourceBinding.take_alike (replaying replaying' : Bool) (obs : Observation) (k : Str) {b b' : SourceBinding}
    (h : b.sketch = b'.sketch) :
    (b.take replaying obs).1.sketch = (b'.take replaying' { obs with sourceKey := k }).1.sketch ∧
      (b.take replaying obs).2 = (b'.take replaying' { obs with sourceKey := k }).2 := by
  have hsource : b.source = b'.source := by rw [← b.sketch_source, h, b'.sketch_source]
  have hledger : b.ledger.bare = b'.ledger.bare := congrArg SourceBinding.ledger h
  have hcached : b.sketch.cached = b'.sketch.cached := congrArg SourceBinding.cached h
  have hleft := b.ledger.bare_insert obs
  have hright := b'.ledger.bare_insert { obs with sourceKey := k }
  have hboth : ((b.ledger.insert obs).1.bare, (b.ledger.insert obs).2)
      = ((b'.ledger.insert { obs with sourceKey := k }).1.bare, (b'.ledger.insert { obs with sourceKey := k }).2) := by
    rw [← hleft, ← hright, hledger]
    rfl
  obtain ⟨hledger, hresult⟩ := Prod.mk.inj hboth
  obtain ⟨htaken, hanswer⟩ := b.sketch_take replaying obs
  obtain ⟨htaken', hanswer'⟩ := b'.sketch_take replaying' { obs with sourceKey := k }
  rw [htaken, hanswer, htaken', hanswer', hsource, hledger, hresult, hcached]
  exact ⟨rfl, rfl⟩

variable {g g' : GenerationRuntime}

theorem GenerationRuntime.find?_bare (g : GenerationRuntime) (source : SourceId) :
    g.bare.bindings.find? source = (g.bindings.find? source).map SourceBinding.bare :=
  SortedVec.find?_map _ _ SourceBinding.bare_source _

theorem GenerationRuntime.find?_sketch (g : GenerationRuntime) (source : SourceId) :
    g.sketch.bindings.find? source = (g.bindings.find? source).map SourceBinding.sketch :=
  SortedVec.find?_map _ _ SourceBinding.sketch_source _

theorem obtainBinding_alike (limits : Limits) (replaying replaying' : Bool) (h : g.sketch = g'.sketch)
    (source : SourceId) (generation : FlowGeneration) :
    (obtainBinding limits replaying g source generation).sketch
      = (obtainBinding limits replaying' g' source generation).sketch := by
  have hfind : (g.bindings.find? source).map SourceBinding.sketch
      = (g'.bindings.find? source).map SourceBinding.sketch := by
    rw [← g.find?_sketch, ← g'.find?_sketch, h]
  unfold obtainBinding
  cases hb : g.bindings.find? source with
  | none =>
    rw [hb, Option.map_none] at hfind
    rw [Option.map_eq_none_iff.1 hfind.symm]
    rfl
  | some b =>
    rw [hb, Option.map_some] at hfind
    obtain ⟨b', hb', hsketch⟩ := Option.map_eq_some_iff.1 hfind.symm
    rw [hb']
    exact hsketch.symm

theorem insertGeneration_alike (h : g.sketch = g'.sketch) (flow : FlowId) :
    (insertGeneration limits replaying flow obs g).sketch
      = (insertGeneration limits replaying' flow { obs with sourceKey := k } g').sketch := by
  have hid : g.id = g'.id := by rw [← g.sketch_id, h, g'.sketch_id]
  have hbindings : g.sketch.bindings = g'.sketch.bindings := congrArg GenerationRuntime.bindings h
  have htaken := (SourceBinding.take_alike replaying replaying' obs k
    (obtainBinding_alike limits replaying replaying' h obs.key.source ⟨flow, g.id⟩)).1
  have hset : ∀ (g : GenerationRuntime) (b : SourceBinding),
      ({ g with bindings := g.bindings.set b } : GenerationRuntime).sketch
        = { id := g.id, bindings := g.sketch.bindings.set b.sketch } := by
    intro g b
    unfold GenerationRuntime.sketch
    rw [SortedVec.map_set]
  refine (hset g _).trans (Eq.trans ?_ (hset g' _).symm)
  rw [hbindings, htaken, hid]

/-! ## Flows -/

variable {f f' : FlowRuntime}

theorem FlowRuntime.find?_bare (f : FlowRuntime) (gen : GenerationId) :
    f.bare.generations.find? gen = (f.generations.find? gen).map GenerationRuntime.bare :=
  SortedVec.find?_map _ _ GenerationRuntime.bare_id _

theorem FlowRuntime.find?_sketch (f : FlowRuntime) (gen : GenerationId) :
    f.sketch.generations.find? gen = (f.generations.find? gen).map GenerationRuntime.sketch :=
  SortedVec.find?_map _ _ GenerationRuntime.sketch_id _

theorem FlowRuntime.binding?_sketch (f : FlowRuntime) (gen : GenerationId) (source : SourceId) :
    f.sketch.binding? gen source = (f.binding? gen source).map SourceBinding.sketch := by
  rw [FlowRuntime.binding?, f.find?_sketch, FlowRuntime.binding?]
  cases f.generations.find? gen with
  | none => rfl
  | some g => exact g.find?_sketch source

/-- Flows with one sketch have the same generations. -/
theorem FlowRuntime.isSome_of_sketch (h : f.sketch = f'.sketch) (gen : GenerationId) :
    (f.generations.find? gen).isSome = (f'.generations.find? gen).isSome := by
  have hboth := congrArg (fun f : FlowRuntime => (f.generations.find? gen).isSome) h
  simpa only [FlowRuntime.find?_sketch, Option.isSome_map] using hboth

/-- The ledgers are in the sketch. -/
theorem FlowRuntime.bare_of_sketch (h : f.sketch = f'.sketch) : f.bare = f'.bare := by
  have hobservations : ∀ l : SourceLedger, l.bare.bare = l.bare := by
    intro l
    have hentries : (l.entries.map Observation.bare Observation.bare_canonicalKey).map Observation.bare
        Observation.bare_canonicalKey = l.entries.map Observation.bare Observation.bare_canonicalKey :=
      SortedVec.ext (List.map_map.trans rfl)
    simp only [SourceLedger.bare, hentries]
  have hbinding : ∀ b : SourceBinding, b.sketch.bare = b.bare := by
    intro b
    simp only [SourceBinding.sketch, SourceBinding.bare, hobservations]
  have hgeneration : ∀ g : GenerationRuntime, g.sketch.bare = g.bare := by
    intro g
    have hbindings : (g.bindings.map SourceBinding.sketch SourceBinding.sketch_source).map SourceBinding.bare
        SourceBinding.bare_source = g.bindings.map SourceBinding.bare SourceBinding.bare_source :=
      SortedVec.ext (List.map_map.trans (congrArg (List.map · _) (funext hbinding)))
    simp only [GenerationRuntime.sketch, GenerationRuntime.bare, hbindings]
  have hflow : ∀ f : FlowRuntime, f.sketch.bare = f.bare := by
    intro f
    have hgenerations : (f.generations.map GenerationRuntime.sketch GenerationRuntime.sketch_id).map
        GenerationRuntime.bare GenerationRuntime.bare_id
          = f.generations.map GenerationRuntime.bare GenerationRuntime.bare_id :=
      SortedVec.ext (List.map_map.trans (congrArg (List.map · _) (funext hgeneration)))
    simp only [FlowRuntime.sketch, FlowRuntime.bare, hgenerations]
  rw [← hflow f, ← hflow f', h]

theorem FlowRuntime.Noted.sketch (h : f.Noted f') : f'.sketch = f.sketch := by
  obtain ⟨_, _, _, rfl⟩ := h
  rfl

theorem FlowRuntime.sketch_set (f : FlowRuntime) (g : GenerationRuntime) :
    ({ f with generations := f.generations.set g } : FlowRuntime).sketch
      = { f.sketch with generations := f.sketch.generations.set g.sketch } := by
  unfold FlowRuntime.sketch
  rw [SortedVec.map_set]

theorem FlowRuntime.sketch_erase (f : FlowRuntime) (gen : GenerationId) :
    ({ f with generations := f.generations.erase gen } : FlowRuntime).sketch
      = { f.sketch with generations := f.sketch.generations.erase gen } := by
  unfold FlowRuntime.sketch
  rw [SortedVec.map_erase]

theorem obtainGeneration_sketch (f : FlowRuntime) (gen : GenerationId) (atTime : Timestamp) :
    (obtainGeneration f gen atTime).sketch = (f.sketch.generations.find? gen).getD { id := gen } := by
  rw [f.find?_sketch, obtainGeneration]
  cases f.generations.find? gen <;> rfl

/-! ## Recomputing -/

/-- What recomputing a flow makes of it, whatever `φ` keeps of its bindings. -/
theorem recomputed_generations (φ ψ : GenerationRuntime → GenerationRuntime) (hφ : ∀ g, (φ g).id = g.id)
    (hψ : ∀ g, (ψ g).id = g.id) (f : FlowRuntime)
    (h : ∀ g ∈ f.generations.toList, φ (recomputeRecord config sources ctx f.id f.currentGeneration atTime g) = ψ g) :
    (recomputeFlow config sources ctx atTime f).generations.map φ hφ = f.generations.map ψ hψ := by
  refine SortedVec.ext_find? fun gen => ?_
  rw [SortedVec.find?_map, recomputeFlow_generations, find?_recomputed, SortedVec.find?_map, Option.map_map]
  cases hg : f.generations.find? gen with
  | none => rfl
  | some g => exact congrArg some (h g (SortedVec.find?_mem hg))

/-- **Recomputing** leaves the bare flow. -/
theorem bare_recomputeFlow (config : EngineConfig) (sources : SourceTable) (ctx : FreshnessContext)
    (atTime : Timestamp) (f : FlowRuntime) : (recomputeFlow config sources ctx atTime f).bare = f.bare := by
  have hbinding : ∀ b, (refreshBinding config sources ctx b).bare = b.bare := by
    intro b
    unfold refreshBinding
    split <;> rfl
  have hgeneration : ∀ g, (recomputeRecord config sources ctx f.id f.currentGeneration atTime g).bare = g.bare := by
    intro g
    unfold GenerationRuntime.bare
    rw [recomputeRecord_id]
    congr 1
    refine SortedVec.ext_find? fun source => ?_
    rw [SortedVec.find?_map, recomputeRecord_bindings, SortedVec.find?_map, SortedVec.find?_map, Option.map_map]
    exact congrArg (fun h => (g.bindings.find? source).map h) (funext hbinding)
  unfold FlowRuntime.bare
  rw [recomputeFlow_id, recomputeFlow_canonicalKey]
  congr 1
  exact recomputed_generations _ _ GenerationRuntime.bare_id GenerationRuntime.bare_id f fun g _ => hgeneration g

/-- A binding with the declaration of its fold cached. -/
def SourceBinding.settle (counters : CounterPolicy) (b : SourceBinding) : SourceBinding :=
  { b with cached := some (b.cached.getD (b.ledger.sketch counters)) }

theorem SourceBinding.settle_source (counters : CounterPolicy) (b : SourceBinding) :
    (b.settle counters).source = b.source := rfl

/-- A generation with the declarations of its folds cached. -/
def GenerationRuntime.settle (counters : CounterPolicy) (g : GenerationRuntime) : GenerationRuntime :=
  { g with bindings := g.bindings.map (SourceBinding.settle counters) (SourceBinding.settle_source counters) }

theorem GenerationRuntime.settle_id (counters : CounterPolicy) (g : GenerationRuntime) :
    (g.settle counters).id = g.id := rfl

/-- The current generation of a flow that is recomputed: the last one when the current one is gone. -/
def FlowRuntime.heading (f : FlowRuntime) : GenerationId :=
  if (f.generations.find? f.currentGeneration).isSome then f.currentGeneration
  else (f.generations.toList.getLast?.map (·.id)).getD f.currentGeneration

/-- A flow with the declarations of its folds cached. -/
def FlowRuntime.settle (counters : CounterPolicy) (f : FlowRuntime) : FlowRuntime :=
  { f with currentGeneration := f.heading
           generations := f.generations.map (GenerationRuntime.settle counters) (GenerationRuntime.settle_id counters) }

/-- Refreshing a binding of a registered source caches its fold. -/
theorem sketch_refreshBinding {b : SourceBinding} (h : (sources.find? b.source).isSome = true) :
    (refreshBinding config sources ctx b).sketch = b.sketch.settle config.counters := by
  obtain ⟨s, hs⟩ := Option.isSome_iff_exists.1 h
  have hfold : (b.fold s.descriptor ctx config).sketch
      = (b.cached.map SourceView.sketch).getD (b.ledger.bare.sketch config.counters) := by
    rw [b.ledger.sketch_bare, SourceBinding.fold]
    cases b.cached <;> rfl
  simp only [refreshBinding, hs, SourceBinding.sketch, SourceBinding.settle, Option.map_some, hfold]

theorem recomputeFlow_current (f : FlowRuntime) :
    (recomputeFlow config sources ctx atTime f).currentGeneration = f.heading := by
  obtain ⟨f₁, ⟨a, d, k, rfl⟩, c, hsteps⟩ :=
    FlowRuntime.foldl_absorb_eq config.limits atTime (generationSteps config sources ctx atTime f) f
  have hlast : (recomputedGenerations config sources ctx atTime f).toList.getLast? = f.generations.toList.getLast?.map
      (recomputeRecord config sources ctx f.id f.currentGeneration atTime) := by
    rw [recomputedGenerations, SortedVec.toList_map, List.getLast?_map]
  simp only [recomputeFlow, hsteps, FlowRuntime.rollUpGenerations, FlowRuntime.mirrorCurrent,
    FlowRuntime.markRestored, FlowRuntime.heading, find?_recomputed, hlast]
  cases f.generations.find? f.currentGeneration with
  | some g => rfl
  | none =>
    cases f.generations.toList.getLast? with
    | some g => exact recomputeRecord_id _ _ _ _ _ _ g
    | none => rfl

/-- **Recomputing** settles the sketch of a flow whose sources are registered. -/
theorem sketch_recomputeFlow (h : Engine.Registered sources f) :
    (recomputeFlow config sources ctx atTime f).sketch = f.sketch.settle config.counters := by
  have hgeneration : ∀ g ∈ f.generations.toList,
      (recomputeRecord config sources ctx f.id f.currentGeneration atTime g).sketch
        = g.sketch.settle config.counters := by
    intro g hg
    unfold GenerationRuntime.sketch GenerationRuntime.settle
    rw [recomputeRecord_id]
    congr 1
    refine SortedVec.ext_find? fun source => ?_
    rw [SortedVec.find?_map, recomputeRecord_bindings, SortedVec.find?_map, SortedVec.find?_map, SortedVec.find?_map,
      Option.map_map, Option.map_map]
    cases hb : g.bindings.find? source with
    | none => rfl
    | some b =>
      refine congrArg some (sketch_refreshBinding (h g.id source b ?_))
      rw [FlowRuntime.binding?, SortedVec.find?_of_mem hg, Option.bind_some, hb]
  have hheading : f.sketch.heading = f.heading := by
    have hlast : f.sketch.generations.toList.getLast? = f.generations.toList.getLast?.map GenerationRuntime.sketch :=
      List.getLast?_map
    simp only [FlowRuntime.heading, hlast, f.find?_sketch, Option.isSome_map, Option.map_map]
    rfl
  have hgenerations := @recomputed_generations config sources ctx atTime GenerationRuntime.sketch
    (fun g => g.sketch.settle config.counters) GenerationRuntime.sketch_id (fun _ => rfl) f hgeneration
  have hsettled : f.sketch.settle config.counters
      = { f.sketch with currentGeneration := f.heading
                        generations := f.generations.map (fun g => g.sketch.settle config.counters)
                          (fun _ => rfl) } := by
    have hmap : f.sketch.generations.map (GenerationRuntime.settle config.counters) (GenerationRuntime.settle_id _)
        = f.generations.map (fun g => g.sketch.settle config.counters) (fun _ => rfl) := SortedVec.ext List.map_map
    rw [FlowRuntime.settle, hheading, hmap]
  rw [hsettled, ← hgenerations]
  unfold FlowRuntime.sketch
  rw [recomputeFlow_id, recomputeFlow_canonicalKey, recomputeFlow_current]

end Tables

/-! ## The stages -/

/-- The flows of two transactions have one sketch, and the registries are the same. -/
structure FlowTx.Alike (tx tx' : FlowTx) : Prop where
  flow : tx.flow.sketch = tx'.flow.sketch
  registries : tx.registries = tx'.registries

/-- Both stages go on as `R` says, or both leave alike. -/
def Together {α : Type} (R : α → α → Prop) : Except Exit α → Except Exit α → Prop
  | .ok a, .ok b => R a b
  | .error x, .error y => x.1.Alike y.1
  | _, _ => False

theorem Together.bind {α β : Type} {R : α → α → Prop} {S : β → β → Prop} {m m' : Except Exit α}
    {next next' : α → Except Exit β} (h : Together R m m')
    (hnext : ∀ a b, m = .ok a → m' = .ok b → R a b → Together S (next a) (next' b)) : Together S (m >>= next)
      (m' >>= next') := by
  cases m with
  | error x =>
    cases m' with
    | error y => exact h
    | ok b => exact h.elim
  | ok a =>
    cases m' with
    | error y => exact h.elim
    | ok b => exact hnext a b rfl rfl h

/-- The flow has the generation of the observation, or room for one more. -/
def FlowRuntime.Fits (limits : Limits) (f : FlowRuntime) (gen : GenerationId) : Prop :=
  (f.generations.find? gen).isSome = true ∨ f.generations.toList.length < limits.maxGenerationsPerFlow.toNat

theorem FlowRuntime.fits_of_sketch {limits : Limits} {gen : GenerationId} {f f' : FlowRuntime}
    (h : f.sketch = f'.sketch) : f.Fits limits gen ↔ f'.Fits limits gen := by
  have hlength := congrArg (fun f : FlowRuntime => f.generations.toList.length) h
  simp only [FlowRuntime.sketch, SortedVec.toList_map, List.length_map] at hlength
  rw [Fits, Fits, isSome_of_sketch h, hlength]

/-- The generation that `evict_one_generation_locked` gives up. -/
def FlowRuntime.evictable (f : FlowRuntime) : Option GenerationId :=
  (f.generations.toList.find? (fun g => g.id != f.currentGeneration && isTerminal g.state)).map (·.id)

theorem FlowRuntime.evictOneGeneration_eq (f : FlowRuntime) : f.evictOneGeneration =
    f.evictable.map (fun gen => { f with generations := f.generations.erase gen }) := by
  rw [evictOneGeneration, evictable, Option.map_map]
  rfl

theorem FlowRuntime.Noted.evictable {f f' : FlowRuntime} (h : f.Noted f') : f'.evictable = f.evictable := by
  obtain ⟨_, _, _, rfl⟩ := h
  rfl

/-- The observation asks the flow for room: the flow has its key, its identities are registered and its skew is
tolerated, but the table of generations is full without its own. -/
structure FlowRuntime.Asked (config : EngineConfig) (registries : Registries) (obs : Observation) (f : FlowRuntime) :
    Prop where
  key : f.canonicalKey = obs.subject.flowKey
  registered : (registerIdentity config.limits obs.subject registries).2 = none
  skew : exceedsClockSkew obs.observedAt obs.receivedAt config.limits.maxClockSkew = true →
    config.freshness.clampFutureTimestamps = true
  full : ¬ f.Fits config.limits obs.subject.generation

section Stages

variable {limits : Limits} {freshness : FreshnessPolicy} {atTime atTime' : Timestamp} {obs : Observation} {k : Str}
variable {tx tx' : FlowTx}

namespace FlowTx.Alike

theorem id (h : tx.Alike tx') : tx.flow.id = tx'.flow.id := by
  rw [← tx.flow.sketch_id, h.flow, tx'.flow.sketch_id]

theorem of_noted {tx₁ tx₁' : FlowTx} (h : tx.Alike tx') (hf : tx.flow.Noted tx₁.flow) (hf' : tx'.flow.Noted tx₁'.flow)
    (hr : tx₁.registries = tx.registries) (hr' : tx₁'.registries = tx'.registries) : tx₁.Alike tx₁' :=
  ⟨by rw [hf.sketch, hf'.sketch, h.flow], by rw [hr, hr', h.registries]⟩

theorem note (h : tx.Alike tx') (a a' : Anomaly) : (tx.note limits a).Alike (tx'.note limits a') :=
  h.of_noted (FlowTx.noted_note _ _ _) (FlowTx.noted_note _ _ _) rfl rfl

theorem refused (h : tx.Alike tx') : tx.refused.Alike tx'.refused := ⟨h.flow, h.registries⟩

/-- The key is that of both flows or of none. -/
theorem matchKey (h : tx.Alike tx') :
    Together FlowTx.Alike (matchKey limits atTime obs tx)
      (matchKey limits atTime' { obs with sourceKey := k } tx') := by
  have hkey : tx.flow.canonicalKey = tx'.flow.canonicalKey := by
    rw [← tx.flow.sketch_canonicalKey, h.flow, tx'.flow.sketch_canonicalKey]
  by_cases hmatch : tx'.flow.canonicalKey = obs.subject.flowKey
  · have hleft : FlowObs.matchKey limits atTime obs tx = .ok tx := matchKey_ok.2 ⟨hkey.trans hmatch, rfl⟩
    have hright : FlowObs.matchKey limits atTime' { obs with sourceKey := k } tx' = .ok tx' :=
      matchKey_ok.2 ⟨hmatch, rfl⟩
    rw [hleft, hright]
    exact h
  · simp only [FlowObs.matchKey, hkey, if_neg hmatch]
    exact ⟨((h.of_noted tx.noted_collided tx'.noted_collided rfl rfl).note _ _).flow, h.registries⟩

theorem registerIdentities (h : tx.Alike tx') : Together FlowTx.Alike (registerIdentities limits atTime obs tx)
    (registerIdentities limits atTime' { obs with sourceKey := k } tx') := by
  unfold FlowObs.registerIdentities
  rw [h.registries]
  dsimp only
  cases registerIdentity limits obs.subject tx'.registries with
  | mk registries refused =>
    cases refused with
    | none => exact ⟨h.flow, rfl⟩
    | some refused =>
      have hset : ({ tx with registries := registries } : FlowTx).Alike { tx' with registries := registries } :=
        ⟨h.flow, rfl⟩
      obtain ⟨kind, err⟩ := refused
      dsimp only
      split
      · exact ((hset.of_noted (FlowTx.noted_collided _) (FlowTx.noted_collided _) rfl rfl).note _ _).refused
      · exact (hset.note _ _).refused

theorem clampSkew (h : tx.Alike tx') : Together (fun a b => a.1.Alike b.1 ∧ b.2 = { a.2 with sourceKey := k })
    (clampSkew limits freshness atTime obs tx)
      (clampSkew limits freshness atTime' { obs with sourceKey := k } tx') := by
  unfold FlowObs.clampSkew
  dsimp only
  split
  · exact ⟨h, rfl⟩
  · split
    · exact (h.note _ _).refused
    · exact ⟨h.note _ _, rfl⟩

/-- Both flows have room, or make it by giving up the same generation, or neither can. -/
theorem makeGenerationRoom (h : tx.Alike tx')
    (hsame : ¬ tx.flow.Fits limits obs.subject.generation → tx.flow.evictable = tx'.flow.evictable) :
    Together FlowTx.Alike (makeGenerationRoom limits atTime obs tx)
      (makeGenerationRoom limits atTime' { obs with sourceKey := k } tx') := by
  unfold FlowObs.makeGenerationRoom
  by_cases hfits : tx.flow.Fits limits obs.subject.generation
  · have hfits' := (FlowRuntime.fits_of_sketch h.flow).1 hfits
    rw [if_pos (by simpa [FlowRuntime.Fits] using hfits), if_pos (by simpa [FlowRuntime.Fits] using hfits')]
    exact h
  · have hfits' := mt (FlowRuntime.fits_of_sketch h.flow).2 hfits
    rw [if_neg (by simpa [FlowRuntime.Fits] using hfits), if_neg (by simpa [FlowRuntime.Fits] using hfits'),
      FlowRuntime.evictOneGeneration_eq, FlowRuntime.evictOneGeneration_eq, hsame hfits]
    cases tx'.flow.evictable with
    | none => exact (h.note _ _).refused
    | some gen => exact ⟨by rw [FlowRuntime.sketch_erase, FlowRuntime.sketch_erase, h.flow], h.registries⟩

theorem obtainGeneration (h : tx.Alike tx') (gen : GenerationId) (atTime atTime' : Timestamp) :
    (obtainGeneration tx.flow gen atTime).sketch = (obtainGeneration tx'.flow gen atTime').sketch := by
  rw [obtainGeneration_sketch, obtainGeneration_sketch, h.flow]

theorem enterGeneration (h : tx.Alike tx') : (enterGeneration limits atTime obs tx).Alike
    (enterGeneration limits atTime' { obs with sourceKey := k } tx') := by
  obtain ⟨hflow, hregistries⟩ := enterGeneration_flow limits atTime obs tx
  obtain ⟨hflow', hregistries'⟩ := enterGeneration_flow limits atTime' { obs with sourceKey := k } tx'
  refine ⟨?_, by rw [hregistries, hregistries', h.registries]⟩
  have henter : ∀ (f : FlowRuntime) (atTime : Timestamp), (f.enter obs.subject.generation atTime).sketch
      = { f.sketch with
          generations := f.sketch.generations.set (FlowObs.obtainGeneration f obs.subject.generation atTime).sketch
          currentGeneration := if !f.sketch.currentGeneration.valid
              || f.sketch.currentGeneration < obs.subject.generation then obs.subject.generation
            else f.sketch.currentGeneration } := by
    intro f atTime
    unfold FlowRuntime.enter FlowRuntime.sketch
    rw [SortedVec.map_set]
  rw [hflow.sketch, hflow'.sketch, henter, henter, h.flow, h.obtainGeneration _ atTime atTime']

theorem checkSourceRoom (h : tx.Alike tx') : Together FlowTx.Alike (checkSourceRoom limits atTime obs tx)
    (checkSourceRoom limits atTime' { obs with sourceKey := k } tx') := by
  have hobtain := h.obtainGeneration obs.subject.generation atTime atTime'
  have hfind : ((FlowObs.obtainGeneration tx.flow obs.subject.generation atTime).bindings.find? obs.key.source).isSome
      = ((FlowObs.obtainGeneration tx'.flow obs.subject.generation atTime').bindings.find? obs.key.source).isSome := by
    have hboth := congrArg (fun g : GenerationRuntime => (g.bindings.find? obs.key.source).isSome) hobtain
    simpa only [GenerationRuntime.find?_sketch, Option.isSome_map] using hboth
  have hlength : (FlowObs.obtainGeneration tx.flow obs.subject.generation atTime).bindings.toList.length
      = (FlowObs.obtainGeneration tx'.flow obs.subject.generation atTime').bindings.toList.length := by
    have hboth := congrArg (fun g : GenerationRuntime => g.bindings.toList.length) hobtain
    simpa only [GenerationRuntime.sketch, SortedVec.toList_map, List.length_map] using hboth
  simp only [FlowObs.checkSourceRoom, hfind, hlength]
  split
  · exact h
  · exact (h.note _ _).refused

variable {config config' : EngineConfig}

/-- **The stages before the ledger** leave two flows with one sketch, when they give up the same generation for room. -/
theorem toLedger (h : tx.Alike tx') (hc : config = config')
    (hsame : tx.flow.Asked config tx.registries obs → tx.flow.evictable = tx'.flow.evictable) :
    Together (fun p p' => p.1.Alike p'.1 ∧ p'.2 = { p.2 with sourceKey := k }) (toLedger config atTime obs tx)
      (toLedger config' atTime' { obs with sourceKey := k } tx') := by
  subst hc
  unfold FlowObs.toLedger
  refine h.matchKey.bind fun tx₁ tx₁' h₁ h₁' htx₁ => htx₁.registerIdentities.bind fun tx₂ tx₂' h₂ h₂' htx₂ =>
    htx₂.clampSkew.bind fun p p' h₃ h₃' hp => ?_
  obtain ⟨tx₃, obs₃⟩ := p
  obtain ⟨tx₃', obs₃'⟩ := p'
  obtain ⟨htx₃, hobs₃⟩ := hp
  dsimp only at htx₃ hobs₃ ⊢
  subst hobs₃
  -- the stages so far have left the generations, and have passed the checks that the room depends on
  obtain ⟨hkey, rfl⟩ := matchKey_ok.1 h₁
  obtain ⟨-, rfl⟩ := matchKey_ok.1 h₁'
  obtain ⟨hregistered, hflow₂⟩ := registerIdentities_ok h₂
  obtain ⟨-, hflow₂'⟩ := registerIdentities_ok h₂'
  obtain ⟨rfl, -, hnoted, hskew⟩ := clampSkew_ok h₃
  obtain ⟨-, -, hnoted', -⟩ := clampSkew_ok h₃'
  rw [hflow₂] at hnoted
  rw [hflow₂'] at hnoted'
  have hroom : ¬ tx₃.flow.Fits config.limits (clampedObservation config.limits obs).subject.generation →
      tx₃.flow.evictable = tx₃'.flow.evictable := by
    intro hfull
    rw [clampedObservation_subject, FlowRuntime.fits_of_sketch hnoted.sketch] at hfull
    rw [hnoted.evictable, hnoted'.evictable]
    exact hsame ⟨hkey, by rw [hregistered], hskew, hfull⟩
  exact (htx₃.makeGenerationRoom hroom).bind fun tx₄ tx₄' _ _ htx₄ => htx₄.enterGeneration.checkSourceRoom.bind
    fun tx₅ tx₅' _ _ htx₅ => ⟨htx₅, rfl⟩

variable {sources sources' : SourceTable} {ctx ctx' : FreshnessContext} {replaying replaying' : Bool}

theorem insertEvidence (h : tx.Alike tx') (limits : Limits) (replaying replaying' : Bool) (atTime atTime' : Timestamp)
    (obs : Observation) (k : Str) :
    (insertEvidence limits replaying atTime obs tx.flow).1.sketch
        = (insertEvidence limits replaying' atTime' { obs with sourceKey := k } tx'.flow).1.sketch ∧
      (insertEvidence limits replaying atTime obs tx.flow).2
        = (insertEvidence limits replaying' atTime' { obs with sourceKey := k } tx'.flow).2 := by
  have hobtain := h.obtainGeneration obs.subject.generation atTime atTime'
  constructor
  · rw [insertEvidence_generations, insertEvidence_generations, FlowRuntime.sketch_set, FlowRuntime.sketch_set, h.flow,
      h.id, insertGeneration_alike hobtain]
  · have hgen := obtainBinding_alike limits replaying replaying' hobtain obs.key.source
      ⟨tx.flow.id, obs.subject.generation⟩
    have hid : ∀ (f : FlowRuntime) (atTime : Timestamp), (FlowObs.obtainGeneration f obs.subject.generation atTime).id
        = obs.subject.generation := fun f atTime => obtainGeneration_id _ _ _
    have hresult := (SourceBinding.take_alike replaying replaying' obs k hgen).2
    simp only [FlowObs.insertEvidence, hid, ← h.id]
    exact hresult

theorem settleInsert (h : tx.Alike tx') (limits : Limits) (atTime atTime' : Timestamp) (obs : Observation) (k : Str)
    (r : InsertResult) : (settleInsert limits atTime obs r tx).Alike
    (settleInsert limits atTime' { obs with sourceKey := k } r tx') := by
  obtain ⟨hflow, hregistries⟩ := settleInsert_flow limits atTime obs r tx
  obtain ⟨hflow', hregistries'⟩ := settleInsert_flow limits atTime' { obs with sourceKey := k } r tx'
  have hrevise : ∀ f : FlowRuntime, (f.revise r.kind).sketch = f.sketch := by
    intro f
    unfold FlowRuntime.revise
    split <;> rfl
  exact ⟨by rw [hflow.sketch, hflow'.sketch, hrevise, hrevise, h.flow], by rw [hregistries, hregistries', h.registries]⟩

theorem touch (h : tx.Alike tx') (gen : GenerationId) :
    (tx.flow.touch gen atTime).sketch = (tx'.flow.touch gen atTime').sketch := by
  have htouch : ∀ (f : FlowRuntime) (atTime : Timestamp), (f.touch gen atTime).sketch
      = { f.sketch with generations := f.sketch.generations.set (FlowObs.obtainGeneration f gen atTime).sketch } :=
    fun f atTime => f.sketch_set _
  rw [htouch, htouch, h.flow, h.obtainGeneration gen atTime atTime']

/-- The sources of a recomputed flow are those of the flow. -/
theorem registered_of_recomputed {f : FlowRuntime}
    (h : Engine.Registered sources (recomputeFlow config sources ctx atTime f)) : Engine.Registered sources f := by
  intro gen source b hb
  have hrefreshed := h gen source (refreshBinding config sources ctx b) (by rw [binding?_recomputeFlow, hb]; rfl)
  rwa [refreshBinding_source] at hrefreshed

theorem applyEvidence (h : tx.Alike tx')
    (hsources : Engine.Registered sources (applyEvidence config sources ctx replaying atTime obs tx).1.flow)
    (hsources' : Engine.Registered sources'
      (applyEvidence config sources' ctx' replaying' atTime' { obs with sourceKey := k } tx').1.flow) :
    (applyEvidence config sources ctx replaying atTime obs tx).1.Alike
      (applyEvidence config sources' ctx' replaying' atTime' { obs with sourceKey := k } tx').1 := by
  obtain ⟨hflow, hresult⟩ := h.insertEvidence config.limits replaying replaying' atTime atTime' obs k
  have hinserted : ({ tx with flow := (FlowObs.insertEvidence config.limits replaying atTime obs tx.flow).1 } :
    FlowTx).Alike
      { tx' with flow := (FlowObs.insertEvidence config.limits replaying' atTime' { obs with sourceKey := k }
        tx'.flow).1 } :=
    ⟨hflow, h.registries⟩
  have hsettled := hinserted.settleInsert config.limits atTime atTime' obs k
    (FlowObs.insertEvidence config.limits replaying atTime obs tx.flow).2
  simp only [FlowObs.applyEvidence, ← hresult] at hsources hsources' ⊢
  split
  · exact hsettled
  · rename_i hkind
    rw [if_neg hkind] at hsources hsources'
    refine ⟨?_, hsettled.registries⟩
    show (recomputeFlow _ _ _ _ _).sketch = (recomputeFlow _ _ _ _ _).sketch
    rw [sketch_recomputeFlow (registered_of_recomputed hsources),
      sketch_recomputeFlow (registered_of_recomputed hsources'), hsettled.touch]

/-- **Applying an observation to flows with one sketch** leaves them so, when they give up the same generation. -/
theorem applyToFlow (h : tx.Alike tx') (hc : config = config')
    (hsame : tx.flow.Asked config tx.registries obs → tx.flow.evictable = tx'.flow.evictable)
    (hsources : Engine.Registered sources
      (Exit.ofExcept (applyToFlow config sources ctx replaying atTime obs tx)).1.flow)
    (hsources' : Engine.Registered sources'
      (Exit.ofExcept (applyToFlow config' sources' ctx' replaying' atTime' { obs with sourceKey := k } tx')).1.flow) :
    (Exit.ofExcept (applyToFlow config sources ctx replaying atTime obs tx)).1.Alike
      (Exit.ofExcept (applyToFlow config' sources' ctx' replaying' atTime' { obs with sourceKey := k } tx')).1 := by
  have hledger : Together (fun p p' => p.1.Alike p'.1 ∧ p'.2 = { p.2 with sourceKey := k })
      (FlowObs.toLedger config atTime obs tx) (FlowObs.toLedger config' atTime' { obs with sourceKey := k } tx') :=
    h.toLedger hc hsame
  subst hc
  rw [applyToFlow_eq] at hsources hsources' ⊢
  rw [applyToFlow_eq]
  generalize FlowObs.toLedger config atTime obs tx = m at hledger hsources ⊢
  generalize FlowObs.toLedger config atTime' { obs with sourceKey := k } tx' = m' at hledger hsources' ⊢
  cases m with
  | error x =>
    cases m' with
    | error y => exact hledger
    | ok p' => exact hledger.elim
  | ok p =>
    cases m' with
    | error y => exact hledger.elim
    | ok p' =>
      obtain ⟨tx₁, obs₁⟩ := p
      obtain ⟨tx₁', obs₁'⟩ := p'
      obtain ⟨htx, hobs⟩ := hledger
      dsimp only at htx hobs
      subst hobs
      exact htx.applyEvidence hsources hsources'

end FlowTx.Alike

end Stages

end FlowObs
