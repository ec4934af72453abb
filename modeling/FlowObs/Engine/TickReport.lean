import FlowObs.Engine.Coherent
import FlowObs.Engine.Settled
import FlowObs.Engine.Terminal

/-!
# Reports of ticks

What `tick_locked` reports. Its events tell of the generations whose state or cause the tick changed, one event each
and none of others, and the histories of the flows take the same events; a second tick at the instant has none
(`tick_report_exact`). Over a run of ticks the reports are a log from which the lifecycle of every generation can be
replayed (`tick_log_replays`).
-/

namespace FlowObs

/-- `TickReport`. -/
structure TickReport where
  evaluatedAt : Timestamp := {}
  flowsExamined : UInt32 := 0
  transitions : UInt32 := 0
  expired : UInt32 := 0
  becameIdle : UInt32 := 0
  events : List LifecycleEvent := []
deriving DecidableEq, Repr

/-- The events of recomputing a flow. -/
def flowEvents (config : EngineConfig) (sources : SourceTable) (ctx : FreshnessContext) (atTime : Timestamp)
    (f : FlowRuntime) :
    List LifecycleEvent :=
  (recomputeReport config sources ctx atTime f).events

namespace Engine

/-- The context of a tick. -/
def tickContext (e : Engine) (evaluatedAt : Timestamp) : FreshnessContext :=
  ({ e with evaluationOverride := evaluatedAt } : Engine).context

/-- The events of a tick, flow by flow. -/
def tickEvents (e : Engine) (evaluatedAt : Timestamp) : List LifecycleEvent :=
  (e.flows.toList.filter tickDue).flatMap (flowEvents e.config e.sources (e.tickContext evaluatedAt) evaluatedAt)

/-- The report of `tick_locked`. -/
def tickReport (e : Engine) (evaluatedAt : Timestamp) : TickReport where
  evaluatedAt := evaluatedAt
  flowsExamined := UInt32.ofNat e.flows.toList.length
  transitions := UInt32.ofNat (min (e.tickEvents evaluatedAt).length 0xFFFFFFFF)
  expired := ((e.tickLocked evaluatedAt).counters.flowsExpired - e.counters.flowsExpired).toUInt32
  becameIdle := UInt32.ofNat ((e.tickEvents evaluatedAt).countP (·.toState == .Idle))
  events := (e.tickEvents evaluatedAt).take e.config.limits.maxResultSet.toNat

end Engine

/-! ## Events of a flow -/

section Flow

variable {config : EngineConfig} {sources : SourceTable} {ctx : FreshnessContext} {atTime : Timestamp} {f : FlowRuntime}

/-- A decision changes a generation when its state or its cause is another one afterwards. -/
theorem changes_iff {flow : FlowId} {current : GenerationId} {g : GenerationRuntime} :
    (decisionFor config sources ctx flow current g).changes g = true ↔
      (recomputeRecord config sources ctx flow current atTime g).state ≠ g.state ∨
      (recomputeRecord config sources ctx flow current atTime g).cause ≠ g.cause := by
  rw [recomputeRecord_state, recomputeRecord_cause]
  simp [StateDecision.changes]

/-- The event of a generation tells what it was and what it is. -/
theorem recomputeGeneration_event {flow : FlowId} {current : GenerationId} {g : GenerationRuntime} {ev : LifecycleEvent}
    (h : (recomputeGeneration config sources ctx flow current atTime g).event = some ev) :
    let g' := recomputeRecord config sources ctx flow current atTime g
    (g'.state ≠ g.state ∨ g'.cause ≠ g.cause) ∧ ev.generation = ⟨flow, g.id⟩ ∧ ev.fromState = g.state ∧
    ev.toState = g'.state ∧
      ev.cause = g'.cause ∧ ev.observedAt = g'.lastObservedAt ∧ ev.atTime = atTime := by
  simp only [recomputeGeneration] at h
  split at h
  · rename_i hchanges
    cases h
    refine ⟨changes_iff.1 hchanges, rfl, rfl, recomputeRecord_state.symm, recomputeRecord_cause.symm, ?_, rfl⟩
    rw [recomputeRecord, if_pos hchanges]
    rfl
  · cases h

theorem mem_flowEvents {ev : LifecycleEvent} : ev ∈ flowEvents config sources ctx atTime f ↔
    ∃ g ∈ f.generations.toList, (recomputeGeneration config sources ctx f.id f.currentGeneration atTime g).event =
    some ev := by
  simp [flowEvents, recomputeReport, generationSteps, List.mem_filterMap]

theorem flowEvents_flow {ev : LifecycleEvent} (h : ev ∈ flowEvents config sources ctx atTime f) :
    ev.generation.flow = f.id := by
  obtain ⟨g, -, hg⟩ := mem_flowEvents.1 h
  rw [(recomputeGeneration_event hg).2.1]

/-- A generation has one event at most. -/
theorem flowEvents_sublist : ((flowEvents config sources ctx atTime f).map (·.generation)).Sublist
    (f.generations.toList.map fun g => (⟨f.id, g.id⟩ : FlowGeneration)) := by
  simp only [flowEvents, recomputeReport, generationSteps]
  induction f.generations.toList with
  | nil => exact .slnil
  | cons g gs ih =>
    rw [List.map_cons, List.map_cons, List.filterMap_cons]
    cases h : (recomputeGeneration config sources ctx f.id f.currentGeneration atTime g).event with
    | none => exact ih.cons _
    | some ev =>
      rw [List.map_cons, (recomputeGeneration_event h).2.1]
      exact ih.cons_cons _

end Flow

/-! ## Events of a tick -/

namespace Engine

variable (e : Engine) (evaluatedAt : Timestamp)

/-- What a tick makes of a generation of a flow. -/
def tickedGeneration (f : FlowRuntime) (g : GenerationRuntime) : GenerationRuntime :=
  if tickDue f then recomputeRecord e.config e.sources
    (e.tickContext evaluatedAt) f.id f.currentGeneration evaluatedAt g else g

theorem find?_tickLocked (flow : FlowId) :
    (e.tickLocked evaluatedAt).flows.find? flow = (e.flows.find? flow).map fun f =>
    if tickDue f then recomputeFlow e.config e.sources (e.tickContext evaluatedAt) evaluatedAt f else f := by
  rw [(sameState_tickLocked e evaluatedAt).flows, find?_recomputeAll]
  rfl

theorem generation?_tickLocked (flow : FlowId) (gen : GenerationId) : (e.tickLocked evaluatedAt).generation? flow gen =
    (e.flows.find? flow).bind fun f => (f.generations.find? gen).map (e.tickedGeneration evaluatedAt f) := by
  unfold generation?
  rw [find?_tickLocked]
  cases e.flows.find? flow with
  | none => rfl
  | some f =>
    simp only [Option.map_some, Option.bind_some]
    by_cases hdue : tickDue f = true
    · have hticked : e.tickedGeneration evaluatedAt f =
          recomputeRecord e.config e.sources (e.tickContext evaluatedAt) f.id f.currentGeneration evaluatedAt :=
        funext fun _ => if_pos hdue
      rw [if_pos hdue, recomputeFlow_generations, find?_recomputed, hticked]
    · have hticked : e.tickedGeneration evaluatedAt f = id := funext fun _ => if_neg hdue
      rw [if_neg hdue, hticked, Option.map_id_fun, id_eq]

variable {e evaluatedAt}

theorem mem_tickEvents {ev : LifecycleEvent} : ev ∈ e.tickEvents evaluatedAt ↔
    ∃ f ∈ e.flows.toList, tickDue f = true ∧
    ev ∈ flowEvents e.config e.sources (e.tickContext evaluatedAt) evaluatedAt f := by
  simp [tickEvents, List.mem_flatMap, List.mem_filter, and_assoc]

/-- An event tells of a generation that the tick changed. -/
theorem tickEvents_tell {ev : LifecycleEvent} (h : ev ∈ e.tickEvents evaluatedAt) : ∃ g g',
    e.generation? ev.generation.flow ev.generation.generation = some g ∧
    (e.tickLocked evaluatedAt).generation? ev.generation.flow ev.generation.generation = some g' ∧
    (g'.state ≠ g.state ∨ g'.cause ≠ g.cause) ∧ ev.fromState = g.state ∧ ev.toState = g'.state ∧ ev.cause = g'.cause ∧
    ev.observedAt = g'.lastObservedAt ∧ ev.atTime = evaluatedAt := by
  obtain ⟨f, hf, hdue, hev⟩ := mem_tickEvents.1 h
  obtain ⟨g, hg, hevent⟩ := mem_flowEvents.1 hev
  obtain ⟨hchanged, hgeneration, htold⟩ := recomputeGeneration_event hevent
  have hflow := SortedVec.find?_of_mem hf
  have hgen := SortedVec.find?_of_mem hg
  refine ⟨g, _, ?_, ?_, hchanged, htold⟩
  · rw [hgeneration, generation?, hflow]
    exact hgen
  · rw [hgeneration, generation?_tickLocked, hflow]
    simp only [Option.bind_some, hgen, Option.map_some, tickedGeneration, if_pos hdue]

/-- A generation that the tick changed has an event. -/
theorem tickEvents_complete {flow : FlowId} {gen : GenerationId} {g g' : GenerationRuntime}
    (hg : e.generation? flow gen = some g) (hg' : (e.tickLocked evaluatedAt).generation? flow gen = some g')
    (hchanged : g'.state ≠ g.state ∨ g'.cause ≠ g.cause) : ∃ ev ∈ e.tickEvents evaluatedAt,
    ev.generation = ⟨flow, gen⟩ := by
  rw [generation?_tickLocked] at hg'
  obtain ⟨f, hf, hgen⟩ := Option.bind_eq_some_iff.1 hg
  rw [hf, Option.bind_some, hgen, Option.map_some] at hg'
  obtain rfl := Option.some.inj hg'
  obtain rfl := SortedVec.find?_key hf
  obtain rfl := SortedVec.find?_key hgen
  by_cases hdue : tickDue f = true
  · rw [tickedGeneration, if_pos hdue] at hchanged
    obtain ⟨ev, hev⟩ : ∃ ev, (recomputeGeneration e.config e.sources
      (e.tickContext evaluatedAt) f.id f.currentGeneration
        evaluatedAt g).event = some ev := ⟨_, if_pos (changes_iff.2 hchanged)⟩
    exact ⟨ev, mem_tickEvents.2 ⟨f, SortedVec.find?_mem hf, hdue, mem_flowEvents.2 ⟨g, SortedVec.find?_mem hgen, hev⟩⟩,
      (recomputeGeneration_event hev).2.1⟩
  · rw [tickedGeneration, if_neg hdue] at hchanged
    simp at hchanged

/-- No generation has two events. -/
theorem tickEvents_nodup : ((e.tickEvents evaluatedAt).map (·.generation)).Nodup := by
  have hall : (e.flows.toList.flatMap fun f => f.generations.toList.map fun g =>
      (⟨f.id, g.id⟩ : FlowGeneration)).Nodup := by
    refine List.nodup_flatMap.2 ⟨fun f _ => ?_, e.flows.sorted.imp fun hlt => ?_⟩
    · have hkeys := f.generations.nodup_keys
      rw [show (f.generations.toList.map fun g => (⟨f.id, g.id⟩ : FlowGeneration)) =
        (f.generations.toList.map GenerationRuntime.id).map (FlowGeneration.mk f.id) by rw [List.map_map]; rfl]
      exact hkeys.map fun _ _ h => (FlowGeneration.mk.inj h).2
    · intro x hx hy
      obtain ⟨g, -, rfl⟩ := List.mem_map.1 hx
      obtain ⟨g', -, heq⟩ := List.mem_map.1 hy
      exact ne_of_lt hlt (FlowGeneration.mk.inj heq).1.symm
  have hsublist : ∀ fs : List FlowRuntime, (((fs.filter tickDue).flatMap
      (flowEvents e.config e.sources (e.tickContext evaluatedAt) evaluatedAt)).map (·.generation)).Sublist
        (fs.flatMap fun f => f.generations.toList.map fun g => (⟨f.id, g.id⟩ : FlowGeneration)) := by
    intro fs
    induction fs with
    | nil => exact .slnil
    | cons f fs ih =>
      rw [List.filter_cons, List.flatMap_cons]
      split
      · rw [List.flatMap_cons, List.map_append]
        exact flowEvents_sublist.append ih
      · exact ih.trans (List.sublist_append_right _ _)
  exact (hsublist e.flows.toList).nodup hall

/-- The events of a tick on one flow are those of recomputing it. -/
theorem tickEvents_filter (flow : FlowId) :
    (e.tickEvents evaluatedAt).filter (fun ev => decide (ev.generation.flow = flow)) =
    ((e.flows.find? flow).toList.filter tickDue).flatMap
      (flowEvents e.config e.sources (e.tickContext evaluatedAt) evaluatedAt) := by
  have hone : ∀ f, (flowEvents e.config e.sources (e.tickContext evaluatedAt) evaluatedAt f).filter
      (fun ev => decide (ev.generation.flow = flow)) =
        if f.id = flow then flowEvents e.config e.sources (e.tickContext evaluatedAt) evaluatedAt f else [] := by
    intro f
    split
    · rename_i hflow
      exact List.filter_eq_self.2 fun ev hev => decide_eq_true ((flowEvents_flow hev).trans hflow)
    · rename_i hflow
      refine List.filter_eq_nil_iff.2 fun ev hev hdec => hflow ?_
      rw [← flowEvents_flow hev]
      exact of_decide_eq_true hdec
  rw [← SortedVec.filter_key, tickEvents]
  induction e.flows.toList with
  | nil => rfl
  | cons f fs ih =>
    rw [List.filter_cons, List.filter_cons]
    by_cases hdue : tickDue f = true <;> by_cases hflow : f.id = flow <;>
      simp [hdue, hflow, hone, ih]

/-- **The histories take the events of the tick**, with details within the bound. -/
theorem history_tickLocked {flow : FlowId} {f : FlowRuntime} (h : e.flows.find? flow = some f) :
    ((e.tickLocked evaluatedAt).flows.find? flow).map (·.history) =
      some ((((e.tickEvents evaluatedAt).filter fun ev => decide (ev.generation.flow = flow)).map
        (boundDetail e.config.limits)).foldl Ring.push f.history) := by
  rw [find?_tickLocked, tickEvents_filter, h]
  simp only [Option.map_some, Option.toList_some, List.filter_cons, List.filter_nil]
  split
  · rw [recomputeFlow_history, List.flatMap_cons, List.flatMap_nil, List.append_nil]
    rfl
  · rfl

/-! ## Counters -/

/-- An event of an expiry. -/
def expires (ev : LifecycleEvent) : Bool := ev.toState == .Expired && ev.fromState != .Expired

theorem addReports (e : Engine) (evaluatedAt : Timestamp) (fs : List FlowRuntime) : ∀ c : EngineCounters,
    let c' := fs.foldl
      (fun c f => c.addReport (recomputeReport e.config e.sources (e.tickContext evaluatedAt) evaluatedAt f)) c
    let events := fs.flatMap (flowEvents e.config e.sources (e.tickContext evaluatedAt) evaluatedAt)
    c'.transitions = c.transitions + UInt64.ofNat events.length ∧
    c'.flowsExpired = c.flowsExpired + UInt64.ofNat (events.countP expires) := by
  induction fs with
  | nil =>
    intro c
    exact ⟨(UInt64.add_zero _).symm, (UInt64.add_zero _).symm⟩
  | cons f fs ih =>
    intro c
    obtain ⟨htransitions, hexpired⟩ :=
      ih (c.addReport (recomputeReport e.config e.sources (e.tickContext evaluatedAt) evaluatedAt f))
    dsimp only at htransitions hexpired ⊢
    rw [List.foldl_cons, List.flatMap_cons, List.length_append, List.countP_append, UInt64.ofNat_add, UInt64.ofNat_add,
      htransitions, hexpired, ← UInt64.add_assoc, ← UInt64.add_assoc]
    exact ⟨rfl, rfl⟩

theorem counters_tickLocked (e : Engine) (evaluatedAt : Timestamp) :
    (e.tickLocked evaluatedAt).counters.transitions =
    e.counters.transitions + UInt64.ofNat (e.tickEvents evaluatedAt).length ∧
    (e.tickLocked evaluatedAt).counters.flowsExpired =
      e.counters.flowsExpired + UInt64.ofNat ((e.tickEvents evaluatedAt).countP expires) :=
  addReports e evaluatedAt (e.flows.toList.filter tickDue) e.counters

/-- The expired are counted by the difference of a counter, which may wrap. -/
theorem expired_tickReport (e : Engine) (evaluatedAt : Timestamp) :
    (e.tickReport evaluatedAt).expired = UInt32.ofNat ((e.tickEvents evaluatedAt).countP expires) := by
  show ((e.tickLocked evaluatedAt).counters.flowsExpired - e.counters.flowsExpired).toUInt32 = _
  rw [(counters_tickLocked e evaluatedAt).2, UInt64.add_comm, UInt64.add_sub_cancel, UInt64.toUInt32_ofNat']

/-! ## Reports -/

/-- A second tick at the instant has no events. -/
theorem tickEvents_settled (e : Engine) (evaluatedAt : Timestamp) :
    (e.tickLocked evaluatedAt).tickEvents evaluatedAt = [] := by
  refine List.eq_nil_iff_forall_not_mem.2 fun ev hev => ?_
  obtain ⟨f', hf', hdue', hev⟩ := mem_tickEvents.1 hev
  have hfind := find?_tickLocked e evaluatedAt f'.id
  rw [SortedVec.find?_of_mem hf'] at hfind
  obtain ⟨f, -, hf⟩ := Option.map_eq_some_iff.1 hfind.symm
  by_cases hdue : tickDue f = true
  · rw [if_pos hdue] at hf
    have hnone : flowEvents e.config e.sources (e.tickContext evaluatedAt) evaluatedAt f' = [] :=
      hf ▸ events_recomputed evaluatedAt
    have hsame : ev ∈ flowEvents e.config e.sources (e.tickContext evaluatedAt) evaluatedAt f' := hev
    rw [hnone] at hsame
    cases hsame
  · rw [if_neg hdue] at hf
    exact hdue (hf ▸ hdue')

/-- **A tick accounts for what it does.** Its events are one for each generation whose state or cause it changed, with
what these were and are, and none besides. The counters and the histories of the flows take all of them; the report
tells their number, how many expired and the first of them, and how many went to idle or took another cause there. The
tick after it at the same instant has none. -/
theorem tick_report_exact (e : Engine) (evaluatedAt : Timestamp) :
    let events := e.tickEvents evaluatedAt
    let e' := e.tickLocked evaluatedAt
    let report := e.tickReport evaluatedAt
    ((events.map (·.generation)).Nodup ∧
      (∀ ev ∈ events, ∃ g g', e.generation? ev.generation.flow ev.generation.generation = some g ∧
        e'.generation? ev.generation.flow ev.generation.generation = some g' ∧
        (g'.state ≠ g.state ∨ g'.cause ≠ g.cause) ∧ ev.fromState = g.state ∧ ev.toState = g'.state ∧
        ev.cause = g'.cause ∧
        ev.observedAt = g'.lastObservedAt ∧ ev.atTime = evaluatedAt) ∧
      ∀ flow gen g g', e.generation? flow gen = some g → e'.generation? flow gen = some g' →
        (g'.state ≠ g.state ∨ g'.cause ≠ g.cause) → ∃ ev ∈ events, ev.generation = ⟨flow, gen⟩) ∧
    (e'.counters.transitions = e.counters.transitions + UInt64.ofNat events.length ∧
      e'.counters.flowsExpired = e.counters.flowsExpired + UInt64.ofNat (events.countP expires) ∧
      ∀ flow f, e.flows.find? flow = some f → (e'.flows.find? flow).map (·.history) =
        some (((events.filter fun ev => decide (ev.generation.flow = flow)).map
          (boundDetail e.config.limits)).foldl Ring.push f.history)) ∧
    (report.transitions = UInt32.ofNat (min events.length 0xFFFFFFFF) ∧
      report.expired = UInt32.ofNat (events.countP expires) ∧
      report.becameIdle = UInt32.ofNat (events.countP (·.toState == .Idle)) ∧
      report.events = events.take e.config.limits.maxResultSet.toNat) ∧
    ((e'.tickReport evaluatedAt).transitions = 0 ∧ (e'.tickReport evaluatedAt).expired = 0 ∧
      (e'.tickReport evaluatedAt).becameIdle = 0 ∧ (e'.tickReport evaluatedAt).events = []) := by
  refine ⟨⟨tickEvents_nodup, fun ev => tickEvents_tell, fun flow gen g g' hg hg' => tickEvents_complete hg hg'⟩,
    ⟨(counters_tickLocked e evaluatedAt).1, (counters_tickLocked e evaluatedAt).2, fun flow f => history_tickLocked⟩,
    ⟨rfl, expired_tickReport e evaluatedAt, rfl, rfl⟩, ?_⟩
  have hsettled := tickEvents_settled e evaluatedAt
  refine ⟨?_, ?_, ?_, ?_⟩
  · rw [tickReport, hsettled]
    rfl
  · rw [expired_tickReport, hsettled]
    rfl
  · rw [tickReport, hsettled]
    rfl
  · rw [tickReport, hsettled]
    exact List.take_nil

/-! ## Logs -/

/-- The state and the cause of every generation. -/
def lifecycle (e : Engine) (id : FlowGeneration) : Option (FlowState × StateCause) :=
  (e.generation? id.flow id.generation).map fun g => (g.state, g.cause)

/-- What an event tells of the generations. -/
def tellEvent (l : FlowGeneration → Option (FlowState × StateCause)) (ev : LifecycleEvent) :
    FlowGeneration → Option (FlowState × StateCause) :=
  Function.update l ev.generation (some (ev.toState, ev.cause))

theorem foldl_tellEvent_of_not_mem {id : FlowGeneration} {events : List LifecycleEvent}
    (h : id ∉ events.map (·.generation)) :
    ∀ l, events.foldl tellEvent l id = l id := by
  induction events with
  | nil => exact fun l => rfl
  | cons ev events ih =>
    intro l
    obtain ⟨hne, hrest⟩ := not_or.1 (fun hor => h (List.mem_cons.2 hor))
    rw [List.foldl_cons, ih hrest, tellEvent, Function.update_of_ne hne]

theorem foldl_tellEvent_of_mem {ev : LifecycleEvent} {events : List LifecycleEvent}
    (hnodup : (events.map (·.generation)).Nodup)
    (h : ev ∈ events) : ∀ l, events.foldl tellEvent l ev.generation = some (ev.toState, ev.cause) := by
  induction events with
  | nil => cases h
  | cons ev' events ih =>
    intro l
    obtain ⟨hnew, hrest⟩ := List.nodup_cons.1 hnodup
    rw [List.foldl_cons]
    rcases List.mem_cons.1 h with rfl | hmem
    · rw [foldl_tellEvent_of_not_mem hnew, tellEvent, Function.update_self]
    · exact ih hrest hmem _

/-- The events of a tick turn the states before it into the states after it. -/
theorem lifecycle_tickLocked (e : Engine) (evaluatedAt : Timestamp) :
    (e.tickLocked evaluatedAt).lifecycle = (e.tickEvents evaluatedAt).foldl tellEvent e.lifecycle := by
  funext id
  by_cases hmem : id ∈ (e.tickEvents evaluatedAt).map (·.generation)
  · obtain ⟨ev, hev, rfl⟩ := List.mem_map.1 hmem
    obtain ⟨g, g', -, hg', -, -, hto, hcause, -⟩ := tickEvents_tell hev
    rw [foldl_tellEvent_of_mem tickEvents_nodup hev, lifecycle, hg', hto, hcause]
    rfl
  · rw [foldl_tellEvent_of_not_mem hmem]
    have hboth := generation?_tickLocked e evaluatedAt id.flow id.generation
    cases hg : e.generation? id.flow id.generation with
    | none =>
      have hnone : (e.tickLocked evaluatedAt).generation? id.flow id.generation = none := by
        rw [hboth]
        cases hf : e.flows.find? id.flow with
        | none => rfl
        | some f =>
          rw [generation?, hf, Option.bind_some] at hg
          rw [Option.bind_some, hg, Option.map_none]
      rw [lifecycle, lifecycle, hg, hnone]
    | some g =>
      obtain ⟨f, hf, hgen⟩ := Option.bind_eq_some_iff.1 hg
      rw [hf, Option.bind_some, hgen, Option.map_some] at hboth
      have hsame : ¬ ((e.tickedGeneration evaluatedAt f g).state ≠ g.state ∨
          (e.tickedGeneration evaluatedAt f g).cause ≠ g.cause) := by
        intro hchanged
        obtain ⟨ev, hev, hid⟩ := tickEvents_complete hg hboth hchanged
        exact hmem (List.mem_map.2 ⟨ev, hev, hid⟩)
      obtain ⟨hstate, hcause⟩ := not_or.1 hsame
      rw [lifecycle, lifecycle, hg, hboth, Option.map_some, Option.map_some, not_not.1 hstate, not_not.1 hcause]

/-- The reports of the ticks that are not refused. -/
def tickReports (e : Engine) : List Timestamp → List TickReport
  | [] => []
  | instant :: instants =>
    match (e.tick instant).2 with
    | .error _ => tickReports (e.tick instant).1 instants
    | .ok () => e.tickReport instant :: tickReports (e.tick instant).1 instants

/-- A tick is refused or done. -/
theorem tick_cases (e : Engine) (instant : Timestamp) :
    (∃ err, e.tick instant = (e, .error err)) ∨ e.tick instant = (e.tickLocked instant, .ok ()) := by
  unfold tick
  split
  · exact .inl ⟨_, rfl⟩
  · split
    · exact .inl ⟨_, rfl⟩
    · exact .inr rfl

/-- A report that is not full has all events. -/
theorem events_tickReport {e : Engine} {evaluatedAt : Timestamp}
    (h : (e.tickReport evaluatedAt).events.length < e.config.limits.maxResultSet.toNat) :
    (e.tickReport evaluatedAt).events = e.tickEvents evaluatedAt := by
  have hlength : (e.tickReport evaluatedAt).events.length =
      min e.config.limits.maxResultSet.toNat (e.tickEvents evaluatedAt).length := List.length_take
  exact List.take_of_length_le (by omega)

/-- **The reports of ticks are a log of the lifecycle.** As long as none of them is full, their events in order lead
from the state and cause of every generation before a run of ticks to those after it. -/
theorem tick_log_replays (instants : List Timestamp) : ∀ e : Engine,
    (∀ report ∈ e.tickReports instants, report.events.length < e.config.limits.maxResultSet.toNat) →
    ((instants.map Op.tick).foldl step e).lifecycle =
      ((e.tickReports instants).flatMap (·.events)).foldl tellEvent e.lifecycle := by
  induction instants with
  | nil => exact fun e _ => rfl
  | cons instant instants ih =>
    intro e hroom
    rw [List.map_cons, List.foldl_cons]
    show ((instants.map Op.tick).foldl step (e.tick instant).1).lifecycle = _
    rcases tick_cases e instant with ⟨err, herr⟩ | hok
    · simp only [tickReports, herr] at hroom ⊢
      exact ih e hroom
    · simp only [tickReports, hok] at hroom ⊢
      obtain ⟨hfirst, hrest⟩ := List.forall_mem_cons.1 hroom
      have hconfig : (e.tickLocked instant).config = e.config := rfl
      rw [ih (e.tickLocked instant) (hconfig ▸ hrest), List.flatMap_cons, List.foldl_append, events_tickReport hfirst,
        lifecycle_tickLocked]

/-- The flow that was reported once expires at the second tick. -/
theorem tick_log_replays_reported :
    (([⟨2000⟩, ⟨10000000000000000⟩].map Op.tick).foldl step reported).lifecycle =
      ((reported.tickReports [⟨2000⟩, ⟨10000000000000000⟩]).flatMap (·.events)).foldl tellEvent reported.lifecycle ∧
    ((reported.tickReports [⟨2000⟩, ⟨10000000000000000⟩]).flatMap (·.events)).map (·.toState) = [.Expired] :=
  ⟨tick_log_replays _ reported (by with_unfolding_all decide), by with_unfolding_all decide⟩

end Engine

end FlowObs
