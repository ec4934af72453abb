import FlowObs.Engine.Pages
import FlowObs.Engine.Identities

/-!
# The endpoints of a flow

Evidence names endpoints in the views of the generations, and `recompute_flow` carries them to the generations. The
filter reads two further fields, of the flow itself. Nothing but a restart writes these: every stage on a flow keeps
them (`FlowApplied.endpoints`), and a file gives what it was written with. The filter therefore follows the evidence
as far as these two fields happen to say the same (`endpoint_filter_iff`), which in a run that reads none from a file
is: for the endpoints that no evidence names.
-/

namespace FlowObs

/-- The endpoints of the flow itself, which the filter reads. -/
def FlowRuntime.endpoints (f : FlowRuntime) : EndpointId × EndpointId := (f.endpointA, f.endpointB)

/-- A reconciled view names the endpoint, as one end or the other. -/
def FlowSnapshot.names (s : FlowSnapshot) (id : EndpointId) : Bool :=
  s.generations.any (fun g => g.endpointA == id || g.endpointB == id)

/-- The filter takes the flow for one with the endpoint. -/
def FlowSnapshot.ends (s : FlowSnapshot) (id : EndpointId) : Bool := s.endpointA == id || s.endpointB == id

/-! ## The stages on the flow -/

section Stages

variable {config : EngineConfig} {sources : SourceTable} {ctx : FreshnessContext} {replaying : Bool}
variable {limits : Limits} {atTime : Timestamp} {obs : Observation} {f f' room : FlowRuntime} {outcome : IngestOutcome}

theorem endpoints_recomputeFlow (f : FlowRuntime) :
    (recomputeFlow config sources ctx atTime f).endpoints = f.endpoints := by
  obtain ⟨_, _, _, _, _, _, _, _, _, _, _, _, _, h⟩ := recomputeFlow_eq f
  rw [h]
  rfl

theorem FlowRuntime.Noted.endpoints (h : f.Noted f') : f'.endpoints = f.endpoints := by
  obtain ⟨_, _, _, rfl⟩ := h
  rfl

theorem Roomed.endpoints {wanted : GenerationId} (h : Roomed limits f wanted room) : room.endpoints = f.endpoints := by
  cases h with
  | known _ => rfl
  | free _ => rfl
  | evicted _ _ he =>
    obtain ⟨_, -, rfl⟩ := Option.map_eq_some_iff.1 he
    rfl

theorem FlowRuntime.endpoints_revise (f : FlowRuntime) (kind : InsertKind) :
    (f.revise kind).endpoints = f.endpoints := by
  unfold revise
  split <;> rfl

/-- **No stage writes the endpoints of the flow.** -/
theorem FlowApplied.endpoints (h : FlowApplied config sources ctx replaying atTime obs f f' outcome) :
    f'.endpoints = f.endpoints := by
  cases h with
  | collided _ hf _ => exact hf.endpoints
  | stopped _ hf _ => exact hf.endpoints
  | noSourceRoom room _ hroom _ hf _ =>
    have henter : (room.enter obs.subject.generation atTime).endpoints = room.endpoints := rfl
    rw [hf.endpoints, henter, hroom.endpoints]
  | ledgerRefused room _ hroom _ _ hf _ =>
    have hinsert : (insertEvidence config.limits replaying atTime (clampedObservation config.limits obs)
        (room.enter obs.subject.generation atTime)).1.endpoints = room.endpoints := rfl
    rw [hf.endpoints, hinsert, hroom.endpoints]
  | recomputed room settled _ hroom _ _ _ hs _ =>
    have hinsert : (insertEvidence config.limits replaying atTime (clampedObservation config.limits obs)
        (room.enter obs.subject.generation atTime)).1.endpoints = room.endpoints := rfl
    have htouch : (settled.touch obs.subject.generation atTime).endpoints = settled.endpoints := rfl
    rw [endpoints_recomputeFlow, htouch, hs.endpoints, FlowRuntime.endpoints_revise, hinsert, hroom.endpoints]

end Stages

namespace Engine

/-! ## Runs that read no endpoint -/

/-- No flow of what was read from a file has an endpoint of its own. -/
def ReadsNoEndpoint (_ : Engine) (result : ReplayResult) : Prop :=
  ∀ p ∈ result.state.flows, p.endpointA = default ∧ p.endpointB = default

/-- Then no flow ever has one. -/
theorem endpoints_reached {apply : Engine → Observation → Prop} {e : Engine} (h : e.ReachedFrom apply ReadsNoEndpoint) :
    e.EachFlow (fun f => f.endpoints = default) := by
  have hempty : ∀ e : Engine, e.flows = ∅ → e.EachFlow (fun f => f.endpoints = default) := by
    intro e he id f hf
    rw [he] at hf
    cases hf
  refine reachedFrom_rule (P := EachFlow (fun f => f.endpoints = default)) (fun e _ hf _ _ => hempty e hf)
    (fun e e' ha h => ?_)
    (fun e obs h _ => ?_) (fun e atTime due h => ?_) (fun e s id _ h => ?_) (fun e d s _ h => h) (fun e d s _ h => h)
    (fun e _ => hempty _ rfl) (fun e e' previous result hread _ _ hflows _ _ => ?_) h
  · exact h.of_find? (fun id => .inl (by rw [ha.flows]))
  · exact eachFlow_applyLocked h obs (fun f f' _ _ _ happ hf => happ.endpoints.trans hf) rfl
  · exact eachFlow_recomputeAll h due (fun sources ctx f hf => (endpoints_recomputeFlow f).trans hf)
  · intro flow f hf
    rw [find?_dropped] at hf
    obtain ⟨f₀, hf₀, rfl⟩ := Option.map_eq_some_iff.1 hf
    exact h flow f₀ hf₀
  · refine eachFlow_restoreFlows previous result.state.flows (hempty _ hflows) (fun p hp _ => ?_)
    have hmem : p ∈ result.state.flows := List.takeWhile_subset _ (List.mem_of_find?_eq_some hp)
    obtain ⟨hA, hB⟩ := hread p hmem
    exact Prod.ext hA hB

/-- What such an engine writes to a file has no endpoint of a flow either. -/
theorem endpoints_persistState {e : Engine} (h : e.EachFlow (fun f => f.endpoints = default)) {p : PersistedFlow}
    (hp : p ∈ e.persistState.flows) : p.endpointA = default ∧ p.endpointB = default := by
  obtain ⟨f, hf, rfl⟩ := List.mem_map.1 hp
  have hf' : f.endpoints = default := h f.id f (SortedVec.find?_of_mem hf)
  exact Prod.ext_iff.1 hf'

/-! ## The filter -/

/-- The flows that a query asks for when it filters by the endpoint: some generation that is retained names it, and
they match otherwise. -/
def naming (e : Engine) (q : FlowQuery) (id : EndpointId) : List FlowSnapshot :=
  e.snapshots.filter (fun s => flowMatches s { q with endpoint := none } && s.names id)

/-- **The filter follows the evidence.** A query by the endpoint gives the flows that name it: the one that it names
itself, or else its window of them. An export gives the window. -/
def FollowsEvidence (e : Engine) (id : EndpointId) : Prop :=
  (∀ q : FlowQuery, q.validate e.config.query = .ok () → q.endpoint = some id → ∃ r, e.query q = .ok r ∧ r.flows =
    match q.flow with
    | some flow => (e.naming q id).filter (fun s => decide (s.id = flow))
    | none => q.window (e.naming q id)) ∧
  ∀ o : ExportOptions, o.validate e.config.limits e.config.query = .ok () → o.query.endpoint = some id →
    ∃ r, e.exportData o = .ok r ∧ r.flows = o.query.window (e.naming o.query id)

/-- The filter reads the endpoints of the flow. -/
theorem flowMatches_endpoint {q : FlowQuery} {id : EndpointId} (h : q.endpoint = some id) (s : FlowSnapshot) :
    flowMatches s q = (flowMatches s { q with endpoint := none } && s.ends id) := by
  unfold flowMatches FlowSnapshot.ends
  rw [h]
  simp only [Option.all_some, Option.all_none, Bool.and_true]
  ac_rfl

/-- Where the two agree on the endpoint, what matches is what is asked for. -/
theorem matching_naming {e : Engine} {q : FlowQuery} {id : EndpointId} (h : q.endpoint = some id)
    (hagree : ∀ s ∈ e.snapshots, s.ends id = s.names id) : e.matching q = e.naming q id := by
  refine List.filter_congr fun s hs => ?_
  rw [flowMatches_endpoint h, hagree s hs]

/-- Two lists with the same windows of one row, as far as both go, are equal. -/
theorem eq_of_windows {α : Type} {l m : List α} {bound : Nat} (hl : l.length ≤ bound) (hm : m.length ≤ bound)
    (h : ∀ i < bound, (l.drop i).take 1 = (m.drop i).take 1) : l = m := by
  refine List.ext_getElem? fun i => ?_
  by_cases hi : i < bound
  · have hone : ∀ n : List α, n[i]? = ((n.drop i).take 1)[0]? := by
      intro n
      rw [List.getElem?_take_of_lt Nat.one_pos, List.getElem?_drop, Nat.add_zero]
    rw [hone l, hone m, h i hi]
  · rw [List.getElem?_eq_none (by omega), List.getElem?_eq_none (by omega)]

/-- The query for one row by an endpoint alone. -/
def rowAt (id : EndpointId) (i : Nat) : FlowQuery := { endpoint := some id, limit := 1, offset := UInt64.ofNat i }

theorem validate_rowAt {config : EngineConfig} (h : config.validate = .ok ()) (id : EndpointId) {i : Nat}
    (hi : i < 100000000) :
    (rowAt id i).validate config.query = .ok () ∧ (rowAt id i).offset.toNat = i := by
  have hbound : (100000000 : UInt64).toNat = 100000000 := rfl
  have hoffset : (UInt64.ofNat i).toNat = i := by
    rw [UInt64.toNat_ofNat']
    exact Nat.mod_eq_of_lt (by omega)
  have hle : UInt64.ofNat i ≤ 100000000 := by
    rw [UInt64.le_iff_toNat_le, hoffset, hbound]
    omega
  have hrows : (1 : UInt64) ≤ config.query.maxRows := by
    simp only [EngineConfig.validate, bind_ok] at h
    obtain ⟨⟨⟩, -, ⟨⟩, -, ⟨⟩, -, ⟨⟩, -, ⟨⟩, hquery, -⟩ := h
    obtain ⟨hpositive, -⟩ := require_bind_ok.1 hquery
    have hpos : 0 < config.query.maxRows := by simpa using hpositive
    rw [UInt64.lt_iff_toNat_lt] at hpos
    rw [UInt64.le_iff_toNat_le]
    exact hpos
  refine ⟨?_, hoffset⟩
  unfold rowAt FlowQuery.validate
  simp [hle, hrows, require]

/-- The rows of the queries by an endpoint alone determine what they select. -/
theorem ends_of_follows {e : Engine} (hconfig : e.config.validate = .ok ())
    (hfew : e.flows.toList.length ≤ e.config.limits.maxFlows.toNat) {id : EndpointId} (h : e.FollowsEvidence id) :
    ∀ s ∈ e.snapshots, s.ends id = s.names id := by
  have hbound : e.snapshots.length ≤ 100000000 := by
    have hlimits := (EngineConfig.limits_valid hconfig).flows.2
    have hmax : (100000000 : UInt32).toNat = 100000000 := rfl
    rw [UInt32.le_iff_toNat_le, hmax] at hlimits
    have hsnapshots : e.snapshots.length = e.flows.toList.length := List.length_map _
    omega
  have hmatching : ∀ i, e.matching (rowAt id i) = e.snapshots.filter (fun s => s.ends id) := by
    intro i
    refine List.filter_congr fun s _ => ?_
    rw [flowMatches_endpoint rfl]
    simp [flowMatches, rowAt]
  have hnaming : ∀ i, e.naming (rowAt id i) id = e.snapshots.filter (fun s => s.names id) := by
    intro i
    refine List.filter_congr fun s _ => ?_
    simp [flowMatches, rowAt]
  have hsame : e.snapshots.filter (fun s => s.ends id) = e.snapshots.filter (fun s => s.names id) := by
    refine eq_of_windows ((List.length_filter_le _ _).trans hbound) ((List.length_filter_le _ _).trans hbound)
      (fun i hi => ?_)
    obtain ⟨hvalid, hoffset⟩ := validate_rowAt hconfig id hi
    obtain ⟨r, hr, hasked⟩ := h.1 (rowAt id i) hvalid rfl
    obtain ⟨r', hr', hgiven⟩ := flows_query hvalid
    obtain rfl : r = r' := Except.ok.inj (hr.symm.trans hr')
    have hwindow : (rowAt id i).window (e.matching (rowAt id i)) = (rowAt id i).window (e.naming (rowAt id i) id) :=
      hgiven.symm.trans hasked
    rw [hmatching, hnaming] at hwindow
    unfold FlowQuery.window at hwindow
    rw [hoffset] at hwindow
    exact hwindow
  intro s hs
  have hmem : s ∈ e.snapshots.filter (fun s => s.ends id) ↔
      s ∈ e.snapshots.filter (fun s => s.names id) := by rw [hsame]
  rw [List.mem_filter, List.mem_filter, and_iff_right hs, and_iff_right hs] at hmem
  exact Bool.eq_iff_iff.2 hmem

/-- **When the endpoint filter follows the evidence**: exactly when for every flow the endpoints of the flow itself
say of the endpoint what the views of its generations say. In a run that reads no endpoint of a flow from a file,
which is then in no file that is written either, no flow has one, and the filter follows the evidence for the
endpoints that no view names. -/
theorem endpoint_filter_iff {e : Engine} (h : e.ReachedBy (fun _ _ => True) (fun _ _ => True)) (id : EndpointId) :
    (e.FollowsEvidence id ↔ ∀ s ∈ e.snapshots, s.ends id = s.names id) ∧
      (e.ReachedFrom (fun _ _ => True) ReadsNoEndpoint →
        (id.valid = true → (e.FollowsEvidence id ↔ ∀ s ∈ e.snapshots, s.names id = false)) ∧
        ∀ p ∈ e.persistState.flows, p.endpointA = default ∧ p.endpointB = default) := by
  obtain ⟨hconfig, hflows⟩ := flows_reached h
  have hiff : e.FollowsEvidence id ↔ ∀ s ∈ e.snapshots, s.ends id = s.names id := by
    refine ⟨ends_of_follows hconfig hflows, fun hagree => ⟨fun q hvalid hq => ?_, fun o hvalid ho => ?_⟩⟩
    · obtain ⟨r, hr, hgiven⟩ := flows_query hvalid
      rw [matching_naming hq hagree] at hgiven
      exact ⟨r, hr, hgiven⟩
    · obtain ⟨r, hr, hgiven⟩ := flows_exportData hvalid
      rw [matching_naming ho hagree] at hgiven
      exact ⟨r, hr, hgiven⟩
  refine ⟨hiff, fun hfrom => ?_⟩
  have hunset := endpoints_reached hfrom
  refine ⟨fun hid => ?_, fun p hp => endpoints_persistState hunset hp⟩
  have hnone : ∀ s ∈ e.snapshots, s.ends id = false := by
    intro s hs
    obtain ⟨f, hf, rfl⟩ := List.mem_map.1 hs
    have hends : f.endpoints = default := hunset f.id f (SortedVec.find?_of_mem hf)
    obtain ⟨hA, hB⟩ := Prod.ext_iff.1 hends
    have hne : (default : EndpointId) ≠ id := by
      rintro rfl
      cases hid
    have hA' : f.endpointA ≠ id := fun heq => hne (hA.symm.trans heq)
    have hB' : f.endpointB ≠ id := fun heq => hne (hB.symm.trans heq)
    simp [FlowSnapshot.ends, snapshotOf, hA', hB']
  rw [hiff]
  refine forall₂_congr fun s hs => ?_
  rw [hnone s hs, eq_comm]

theorem endpoint_filter_iff_between : (between (str "b")).FollowsEvidence ⟨5⟩ := by
  have hopened : ({ clock := ⟨1000⟩ } : Engine).openEngine.2 = .ok () := reported_opened
  refine ((endpoint_filter_iff (Reachable.step (.opened {} ⟨1000⟩ hopened) _).reachedBy ⟨5⟩).2 ?_).1 rfl |>.2
    (by with_unfolding_all decide)
  exact .step (.opened {} ⟨1000⟩ none hopened (fun p hp => by cases hp) (fun r hr => by cases hr)) _
    (fun _ _ => trivial)

/-- **The endpoint that a sample names selects nothing.** -/
theorem named_endpoint_missed : ¬ ∀ e : Engine, e.Reachable → ∀ id, e.FollowsEvidence id := by
  intro h
  have hreached : (between (str "b")).Reachable := .step (.opened {} ⟨1000⟩ reported_opened) _
  have hvalid : ({ endpoint := some (makeId .endpoint (str "a")) } : FlowQuery).validate
    (between (str "b")).config.query
      = .ok () := by with_unfolding_all decide
  obtain ⟨r, hr, hasked⟩ := (h _ hreached (makeId .endpoint (str "a"))).1 _ hvalid rfl
  obtain ⟨r', hr', hgiven⟩ := flows_query hvalid
  obtain rfl : r = r' := Except.ok.inj (hr.symm.trans hr')
  have hlength := congrArg List.length (hgiven.symm.trans hasked)
  revert hlength
  with_unfolding_all decide

end Engine

end FlowObs
