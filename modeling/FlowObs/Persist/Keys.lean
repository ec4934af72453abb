import FlowObs.Lib.Returns
import FlowObs.Persist.StateCodec

/-!
# The keys of the sources in a journal

The records of a journal name sources with their keys: a descriptor of its own, or the sources of a flow. A record
within the reach of its length fields is read back as it was written or is refused (`returns_readPersistedFlow`), so a
replay finds no key for a source but those that were written (`replayRecords_keyed`).
-/

namespace FlowObs

open Binary

/-! ## Reading back, or refusing -/

section Returns

variable {maxKeyBytes maxDetailBytes : Nat} {limits : Limits}

theorem returns_readSourceDescriptor {d : SourceDescriptor} (h : (writeSourceDescriptor d).length < 2 ^ 32) :
    Returns (readSourceDescriptor maxKeyBytes) (writeSourceDescriptor d) d := by
  simp only [writeSourceDescriptor, blob, List.length_append] at h
  simp only [writeSourceDescriptor, List.append_assoc]
  refine returns_bind (returns_of_run (readId_put _)) (returns_bind (returns_blob (by omega)) ?_)
  exact returns_bind (returns_of_run (readU32_u32 _)) (returns_bind (returns_of_run (readCapabilities_write _))
    (returns_last (returns_of_run (readBoolean_boolean _))))

theorem returns_readPersistedSource {s : PersistedSource} (h : (writePersistedSource s).length < 2 ^ 32) :
    Returns (readPersistedSource maxKeyBytes) (writePersistedSource s) s := by
  simp only [writePersistedSource, List.length_append] at h
  have hhead : Returns (readSourceHead maxKeyBytes) (putSourceHead s)
      { source := s.source, canonicalKey := s.canonicalKey, authority := s.authority, capabilities := s.capabilities
        advisoryOnly := s.advisoryOnly, incarnation := s.incarnation, epoch := s.epoch, highRevision := s.highRevision
        highSequence := s.highSequence } := by
    have hkey : s.canonicalKey.length < 2 ^ 32 := by
      simp only [putSourceHead, blob, List.length_append] at h
      omega
    simp only [putSourceHead, List.append_assoc]
    refine returns_bind (returns_of_run (readId_put _)) (returns_bind (returns_blob hkey) ?_)
    refine returns_bind (returns_of_run (readU32_u32 _)) (returns_bind (returns_of_run (readCapabilities_write _)) ?_)
    refine returns_bind (returns_of_run (readBoolean_boolean _)) (returns_bind (returns_of_run (readNum_put _)) ?_)
    exact returns_bind (returns_of_run (readNum_put _)) (returns_bind (returns_of_run (readNum_put _))
      (returns_last (returns_of_run (readNum_put _))))
  have htimes : ∀ t : PersistedSource, Returns (readSourceTimes t) (putSourceTimes s) { t with
      firstObservedAt := s.firstObservedAt, lastObservedAt := s.lastObservedAt, lastReceivedAt := s.lastReceivedAt
      lastProgressAt := s.lastProgressAt, coverage := s.coverage, hopCapacityUnits := s.hopCapacityUnits } := by
    intro t
    have hhops : (putList u64 s.hopCapacityUnits).length < 2 ^ 32 := by
      simp only [putSourceTimes, List.length_append] at h
      omega
    simp only [putSourceTimes, List.append_assoc]
    refine returns_bind (returns_of_run (readTime_put _)) (returns_bind (returns_of_run (readTime_put _)) ?_)
    refine returns_bind (returns_of_run (readTime_put _)) (returns_bind (returns_of_run (readTime_put _)) ?_)
    refine returns_bind (returns_of_run (readCoverage_write _)) (returns_last (returns_list ?_ hhops ?_))
    · exact fun _ _ => List.ne_nil_of_length_pos (by simp)
    · exact fun _ _ _ => returns_of_run (readU64_u64 _)
  simp only [writePersistedSource, List.append_assoc]
  refine returns_bind hhead (returns_bind (htimes _) ?_)
  refine returns_bind (returns_of_run fun rest => readSourceAccounting_put s _ rest) ?_
  refine returns_bind (returns_of_run fun rest => readSourceLast_put s _ rest) ?_
  exact returns_of_run fun rest => readSourceCounts_put s _ rest

theorem writePersistedSource_ne_nil (s : PersistedSource) : writePersistedSource s ≠ [] := by
  refine List.ne_nil_of_length_pos ?_
  simp only [writePersistedSource, putSourceHead, putId, List.length_append, length_u64]
  omega

theorem returns_readPersistedGeneration {g : PersistedGeneration} (h : (writePersistedGeneration g).length < 2 ^ 32) :
    Returns (readPersistedGeneration limits) (writePersistedGeneration g) g := by
  simp only [writePersistedGeneration, List.length_append] at h
  have hresources : ∀ t : PersistedGeneration, Returns (readGenerationResources limits.maxPathHops.toNat
      limits.maxQueuesPerFlow.toNat t) (putGenerationResources g) { t with
        path := g.path, links := g.links, queues := g.queues, endpointA := g.endpointA, endpointB := g.endpointB } := by
    intro t
    simp only [putGenerationResources, List.length_append] at h
    simp only [putGenerationResources, List.append_assoc]
    refine returns_bind (returns_of_run (readOptional_id _)) (returns_bind (returns_list ?_ (by omega) ?_) ?_)
    · exact fun _ _ => List.ne_nil_of_length_pos (by simp [putId])
    · exact fun _ _ _ => returns_of_run (readId_put _)
    · refine returns_bind (returns_list ?_ (by omega) ?_) ?_
      · exact fun _ _ => List.ne_nil_of_length_pos (by simp [putId])
      · exact fun _ _ _ => returns_of_run (readId_put _)
      · exact returns_bind (returns_of_run (readId_put _)) (returns_last (returns_of_run (readId_put _)))
  have htail : ∀ t : PersistedGeneration, Returns (readGenerationTail limits.maxKeyBytes.toNat t) (putGenerationTail g)
      { t with
        forward := g.forward, reverse := g.reverse, aggregate := g.aggregate, total := g.total
        unresolvedConflict := g.unresolvedConflict, conflictDetail := g.conflictDetail, sources := g.sources } := by
    intro t
    simp only [putGenerationTail, blob, List.length_append] at h
    simp only [putGenerationTail, List.append_assoc]
    refine returns_bind (returns_of_run (readConsumption_write _))
      (returns_bind (returns_of_run (readConsumption_write _)) ?_)
    refine returns_bind (returns_of_run (readConsumption_write _))
      (returns_bind (returns_of_run (readConsumption_write _)) ?_)
    refine returns_bind (returns_of_run (readBoolean_boolean _)) (returns_bind (returns_blob (by omega)) ?_)
    refine returns_last (returns_list ?_ (by omega) ?_)
    · exact fun s _ => writePersistedSource_ne_nil s
    · exact fun s _ hs => returns_readPersistedSource hs
  simp only [writePersistedGeneration, List.append_assoc]
  exact returns_bind (returns_of_run fun rest => readGenerationHead_put g rest) (returns_bind (hresources _) (htail _))

theorem writePersistedGeneration_ne_nil (g : PersistedGeneration) : writePersistedGeneration g ≠ [] := by
  refine List.ne_nil_of_length_pos ?_
  simp only [writePersistedGeneration, putGenerationHead, putNum, List.length_append, length_u64]
  omega

theorem returns_readLifecycleEvent {e : LifecycleEvent} (h : (writeLifecycleEvent e).length < 2 ^ 32) :
    Returns (readLifecycleEvent maxDetailBytes) (writeLifecycleEvent e) e := by
  simp only [writeLifecycleEvent, blob, List.length_append] at h
  simp only [writeLifecycleEvent, List.append_assoc]
  refine returns_bind (returns_of_run (readTime_put _)) (returns_bind (returns_of_run (readTime_put _)) ?_)
  refine returns_bind (returns_of_run (readId_put _)) (returns_bind (returns_of_run (readNum_put _)) ?_)
  refine returns_bind (returns_of_run (readState_u8 _)) (returns_bind (returns_of_run (readState_u8 _)) ?_)
  exact returns_bind (returns_of_run (readCause_u8 _)) (returns_bind (returns_of_run (readId_put _))
    (returns_last (returns_blob (by omega))))

theorem returns_readAnomaly {a : Anomaly} (h : (writeAnomaly a).length < 2 ^ 32) :
    Returns (readAnomaly maxDetailBytes) (writeAnomaly a) a := by
  simp only [writeAnomaly, blob, List.length_append] at h
  simp only [writeAnomaly, List.append_assoc]
  refine returns_bind (returns_of_run (readAnomalyKind_u8 _)) (returns_bind (returns_of_run (readTime_put _)) ?_)
  refine returns_bind (returns_of_run (readTime_put _)) (returns_bind (returns_of_run (readId_put _)) ?_)
  exact returns_bind (returns_of_run (readNum_put _)) (returns_bind (returns_of_run (readId_put _))
    (returns_last (returns_blob (by omega))))

/-- **A flow that was written is read back or refused**, when its bytes fit the length field of a record. -/
theorem returns_readPersistedFlow {f : PersistedFlow} (h : (writePersistedFlow f).length < 2 ^ 32) :
    Returns (readPersistedFlow limits) (writePersistedFlow f) f := by
  simp only [writePersistedFlow, List.length_append] at h
  have hhead : Returns (readFlowHead limits.maxKeyBytes.toNat) (putFlowHead f)
      { id := f.id, canonicalKey := f.canonicalKey, keyCollisions := f.keyCollisions
        currentGeneration := f.currentGeneration, revision := f.revision, state := f.state, cause := f.cause
        coverage := f.coverage } := by
    have hkey : f.canonicalKey.length < 2 ^ 32 := by
      simp only [putFlowHead, blob, List.length_append] at h
      omega
    simp only [putFlowHead, List.append_assoc]
    refine returns_bind (returns_of_run (readId_put _)) (returns_bind (returns_blob hkey) ?_)
    refine returns_bind (returns_of_run (readU64_u64 _)) (returns_bind (returns_of_run (readNum_put _)) ?_)
    refine returns_bind (returns_of_run (readNum_put _)) (returns_bind (returns_of_run (readState_u8 _)) ?_)
    exact returns_bind (returns_of_run (readCause_u8 _)) (returns_last (returns_of_run (readCoverage_write _)))
  have htimes : ∀ t : PersistedFlow, Returns (readFlowTimes t) (putFlowTimes f) { t with
      createdAt := f.createdAt, stateChangedAt := f.stateChangedAt, firstObservedAt := f.firstObservedAt
      lastObservedAt := f.lastObservedAt, lastReceivedAt := f.lastReceivedAt, lastProgressAt := f.lastProgressAt
      endpointA := f.endpointA, endpointB := f.endpointB } := by
    refine fun t => returns_of_run fun rest => ?_
    simp [readFlowTimes, putFlowTimes, List.append_assoc]
  have hlists : ∀ t : PersistedFlow, Returns (readFlowLists limits t) (putFlowLists f) { t with
      generations := f.generations, history := f.history, historyDropped := f.historyDropped, anomalies := f.anomalies
      anomaliesDropped := f.anomaliesDropped } := by
    intro t
    simp only [putFlowLists, List.length_append] at h
    simp only [putFlowLists, List.append_assoc]
    refine returns_bind (returns_list ?_ (by omega) ?_) (returns_bind (returns_list ?_ (by omega) ?_) ?_)
    · exact fun g _ => writePersistedGeneration_ne_nil g
    · exact fun g _ hg => returns_readPersistedGeneration hg
    · exact fun e _ => List.ne_nil_of_length_pos (by simp [writeLifecycleEvent, putTime, i64])
    · exact fun e _ he => returns_readLifecycleEvent he
    · refine returns_bind (returns_of_run (readU64_u64 _)) (returns_bind (returns_list ?_ (by omega) ?_) ?_)
      · exact fun a _ => List.ne_nil_of_length_pos (by simp [writeAnomaly])
      · exact fun a _ ha => returns_readAnomaly ha
      · exact returns_last (returns_of_run (readU64_u64 _))
  simp only [writePersistedFlow, List.append_assoc]
  exact returns_bind hhead (returns_bind (htimes _) (hlists _))

end Returns

/-! ## Records with keys -/

/-- The keys that a flow gives for its sources satisfy `K`. -/
def PersistedFlow.Keyed (K : SourceId → Str → Prop) (f : PersistedFlow) : Prop :=
  ∀ g ∈ f.generations, ∀ s ∈ g.sources, K s.source s.canonicalKey

/-- So do the keys of the descriptors and of the flows of a state. -/
structure PersistedState.Keyed (K : SourceId → Str → Prop) (s : PersistedState) : Prop where
  sources : ∀ d ∈ s.sources, K d.id d.canonicalKey
  flows : ∀ f ∈ s.flows, f.Keyed K

/-- So do the keys of whatever is read from a record. -/
structure Record.Keyed (limits : Limits) (K : SourceId → Str → Prop) (r : Record) : Prop where
  source : r.kind = .SourceDescriptor →
    ∀ d, (readSourceDescriptor limits.maxKeyBytes.toNat).run r.payload = some (d, []) → K d.id d.canonicalKey
  flow : r.kind = .Flow → ∀ f, (readPersistedFlow limits).run r.payload = some (f, []) → f.Keyed K

/-- A record that was written with keys that satisfy `K`: what is read from it has such keys when its payload has a
length. -/
def Record.Inscribed (limits : Limits) (K : SourceId → Str → Prop) (r : Record) : Prop :=
  r.payload.length < 2 ^ 32 → r.Keyed limits K

section Keyed

variable {K K' : SourceId → Str → Prop} {limits : Limits} {recovery : RecoveryPolicy} {r : Record}
    {s s' : PersistedState}

theorem Record.Inscribed.mono (h : r.Inscribed limits K) (hk : ∀ id key, K id key → K' id key) :
    r.Inscribed limits K' := by
  intro hlt
  obtain ⟨hsource, hflow⟩ := h hlt
  exact ⟨fun hr d hd => hk _ _ (hsource hr d hd), fun hr f hf g hg s hs => hk _ _ (hflow hr f hf g hg s hs)⟩

/-- A record of another kind gives no key. -/
theorem Record.inscribed_other (hsource : r.kind ≠ .SourceDescriptor) (hflow : r.kind ≠ .Flow) : r.Inscribed limits K :=
  fun _ => ⟨fun h => absurd h hsource, fun h => absurd h hflow⟩

theorem Record.inscribed_source {d : SourceDescriptor} (h : K d.id d.canonicalKey) :
    Record.Inscribed limits K ⟨.SourceDescriptor, writeSourceDescriptor d⟩ := by
  refine fun hlt => ⟨fun _ d' hd' => ?_, fun hr => (by cases hr)⟩
  have hreturns : Returns (readSourceDescriptor limits.maxKeyBytes.toNat) (writeSourceDescriptor d) d :=
    returns_readSourceDescriptor hlt
  obtain rfl := hreturns.whole hd'
  exact h

theorem Record.inscribed_flow {f : PersistedFlow} (h : f.Keyed K) :
    Record.Inscribed limits K ⟨.Flow, writePersistedFlow f⟩ := by
  refine fun hlt => ⟨fun hr => (by cases hr), fun _ f' hf' => ?_⟩
  have hreturns : Returns (readPersistedFlow limits) (writePersistedFlow f) f := returns_readPersistedFlow hlt
  obtain rfl := hreturns.whole hf'
  exact h

/-- **The records of a snapshot** are written with the keys of the state. -/
theorem inscribed_encodeState {out : List Record} (h : encodeState s limits = .ok out) (hs : s.Keyed K) :
    ∀ r ∈ out, r.Inscribed limits K := by
  obtain ⟨-, -, -, -, rfl⟩ := encodeState_ok.1 h
  intro r hr
  simp only [stateRecords, List.mem_append, List.mem_cons, List.mem_map, List.not_mem_nil, or_false] at hr
  rcases hr with ((rfl | rfl | ⟨d, hd, rfl⟩) | ⟨f, hf, rfl⟩) | rfl
  · exact Record.inscribed_other (fun h => by cases h) (fun h => by cases h)
  · exact Record.inscribed_other (fun h => by cases h) (fun h => by cases h)
  · exact Record.inscribed_source (hs.sources d hd)
  · exact Record.inscribed_flow (hs.flows f hf)
  · exact Record.inscribed_other (fun h => by cases h) (fun h => by cases h)

/-! ## Replaying -/

theorem decodeMember_keyed (h : decodeMember limits s r = .ok s') (hr : r.Keyed limits K) (hs : s.Keyed K) :
    s'.Keyed K := by
  unfold decodeMember at h
  cases hk : r.kind with
  | LimitsRecord =>
    simp only [hk, bind_ok, pure_eq_ok] at h
    obtain ⟨_, -, h⟩ := h
    cases h
    exact hs
  | SourceDescriptor =>
    simp only [hk, bind_ok, pure_eq_ok] at h
    obtain ⟨d, hd, _, -, h⟩ := h
    cases h
    refine ⟨fun d' hd' => ?_, hs.flows⟩
    rcases List.mem_append.1 hd' with hd' | hd'
    · exact hs.sources d' hd'
    · exact List.mem_singleton.1 hd' ▸ hr.source hk d (exactly_ok.1 hd)
  | Flow =>
    simp only [hk, bind_ok, pure_eq_ok] at h
    obtain ⟨f, hf, _, -, h⟩ := h
    cases h
    refine ⟨hs.sources, fun f' hf' => ?_⟩
    rcases List.mem_append.1 hf' with hf' | hf'
    · exact hs.flows f' hf'
    · exact List.mem_singleton.1 hf' ▸ hr.flow hk f (exactly_ok.1 hf)
  | _ => simp [hk] at h

theorem decodeGroup_keyed {first last : Record} {members : List Record}
    (h : decodeGroup first members last limits recovery = .ok s) (hm : ∀ r ∈ members, r.Keyed limits K) :
    s.Keyed K := by
  simp only [decodeGroup, bind_ok, pure_eq_ok] at h
  obtain ⟨_, -, _, -, head, hhead, _, -, _, -, _, -, _, -, s', hmembers, _, -, h⟩ := h
  cases h
  obtain ⟨hsources, hflows⟩ := ensures_readStateHead _ head _ (exactly_ok.1 hhead)
  refine foldlM_ok (fun r hr s s' h hs => decodeMember_keyed h (hm r hr) hs) hmembers ⟨?_, ?_⟩
  · rw [hsources]
    exact List.forall_mem_nil _
  · rw [hflows]
    exact List.forall_mem_nil _

/-- What replaces an element, or is added, satisfies what the elements do. -/
theorem forall_replaceOrAppend {α : Type} {P : α → Prop} {p : α → Bool} {a : α} {l l' : List α}
    {bound : Nat} {e : Error}
    (h : replaceOrAppend p a l bound e = .ok l') (ha : P a) (hl : ∀ b ∈ l, P b) : ∀ b ∈ l', P b := by
  have hfirst : ∀ {l l' : List α}, replaceFirst p a l = some l' → (∀ b ∈ l, P b) → ∀ b ∈ l', P b := by
    intro l
    induction l with
    | nil =>
      intro l' h
      cases h
    | cons b l ih =>
      intro l' h hl
      obtain ⟨hb, hrest⟩ := List.forall_mem_cons.1 hl
      unfold replaceFirst at h
      split at h
      · cases h
        exact List.forall_mem_cons.2 ⟨ha, hrest⟩
      · obtain ⟨rest, hr, rfl⟩ := Option.map_eq_some_iff.1 h
        exact List.forall_mem_cons.2 ⟨hb, ih hr hrest⟩
  unfold replaceOrAppend at h
  split at h
  · rename_i replaced hreplaced
    cases h
    exact hfirst hreplaced hl
  · split at h
    · cases h
    · cases h
      intro b hb
      rcases List.mem_append.1 hb with hb | hb
      · exact hl b hb
      · exact List.mem_singleton.1 hb ▸ ha

theorem replayBare_keyed {result result' : ReplayResult} (h : replayBare limits result r = .ok result')
    (hr : r.Keyed limits K) (hs : result.state.Keyed K) : result'.state.Keyed K := by
  unfold replayBare at h
  cases hk : r.kind with
  | SourceDescriptor =>
    simp only [hk, bind_ok, pure_eq_ok] at h
    obtain ⟨d, hd, _, hsources, h⟩ := h
    cases h
    exact ⟨forall_replaceOrAppend hsources (hr.source hk d (exactly_ok.1 hd)) hs.sources, hs.flows⟩
  | ObservationRecord =>
    simp only [hk, bind_ok, pure_eq_ok] at h
    obtain ⟨_, -, _, -, h⟩ := h
    cases h
    exact hs
  | Flow =>
    simp only [hk, bind_ok, pure_eq_ok] at h
    obtain ⟨f, hf, _, hflows, h⟩ := h
    cases h
    exact ⟨hs.sources, forall_replaceOrAppend hflows (hr.flow hk f (exactly_ok.1 hf)) hs.flows⟩
  | LimitsRecord | EngineCounters | Tombstone =>
    simp only [hk] at h
    cases h
    exact hs
  | SnapshotBegin | SnapshotEnd => simp [hk] at h

/-- The keys of what was replayed so far, and of the records of the group that is open. -/
structure ReplayState.Keyed (limits : Limits) (K : SourceId → Str → Prop) (s : ReplayState) : Prop where
  result : s.result.state.Keyed K
  group : ∀ first members, s.group = some (first, members) → ∀ r ∈ members, r.Keyed limits K

theorem replayStep_keyed {s s' : ReplayState} (h : replayStep limits recovery s r = .ok s') (hr : r.Keyed limits K)
    (hs : s.Keyed limits K) : s'.Keyed limits K := by
  unfold replayStep at h
  split at h
  · rename_i first members hgroup
    split at h
    · cases h
    · rw [bind_ok] at h
      obtain ⟨state, hstate, h⟩ := h
      cases h
      rw [decodeState_append] at hstate
      exact ⟨decodeGroup_keyed hstate (hs.group first members hgroup), fun _ _ h => (by cases h)⟩
    · cases h
      refine ⟨hs.result, fun first' members' he => ?_⟩
      cases he
      exact List.forall_mem_append.2 ⟨hs.group first members hgroup, List.forall_mem_singleton.2 hr⟩
  · split at h
    · cases h
      refine ⟨hs.result, fun first' members' he => ?_⟩
      cases he
      exact List.forall_mem_nil _
    · rw [bind_ok] at h
      obtain ⟨result, hresult, h⟩ := h
      cases h
      exact ⟨replayBare_keyed hresult hr hs.result, fun _ _ h => (by cases h)⟩

/-- **A replay finds no key for a source** but those that its records give. -/
theorem replayRecords_keyed {records : List Record} {result : ReplayResult}
    (h : replayRecords records limits recovery = .ok result) (hr : ∀ r ∈ records, r.Keyed limits K) :
    result.state.Keyed K := by
  rw [replayRecords, bind_ok] at h
  obtain ⟨s, hrun, h⟩ := h
  have hempty : ({} : ReplayState).Keyed limits K :=
    ⟨⟨List.forall_mem_nil _, List.forall_mem_nil _⟩, fun _ _ h => (by cases h)⟩
  have hdone : s.Keyed limits K := foldlM_ok (fun r hmem s s' h hs => replayStep_keyed h (hr r hmem) hs) hrun hempty
  split at h
  · cases h
  · cases h
    exact hdone.result

end Keyed

end FlowObs
