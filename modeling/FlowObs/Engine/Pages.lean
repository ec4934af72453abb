import FlowObs.Engine.Query
import FlowObs.Engine.Tables

/-!
# Paging through a query

A query that names no flow is answered page by page. Every page takes the window of the flows that match, and says
whether any are left (`query_window`). The pages from the first on, until one is not truncated, are therefore all that
match, each flow once (`pages_cover`). The offset of a page is bounded by the number of flows, which no restart lets
grow beyond its limit (`flows_reached`).
-/

namespace FlowObs

/-! ## Windows -/

/-- **The scan says whether flows that match are left.** -/
theorem truncated_scanStep (q : FlowQuery) (snapshots : List FlowSnapshot) (evaluatedAt : Timestamp) :
    (snapshots.foldl (scanStep q) { evaluatedAt := evaluatedAt }).truncated
      = decide (q.offset.toNat + q.limit.toNat < (snapshots.filter (fun s => flowMatches s q)).length) := by
  induction snapshots using List.reverseRecOn with
  | nil => simp
  | append_singleton l s ih =>
    obtain ⟨hmatched, hflows⟩ := foldl_scanStep q l evaluatedAt
    rw [List.foldl_append, List.foldl_cons, List.foldl_nil, List.filter_append]
    have hlength : (l.foldl (scanStep q) { evaluatedAt := evaluatedAt }).flows.length
        = min q.limit.toNat ((l.foldl (scanStep q) { evaluatedAt := evaluatedAt }).matched - q.offset.toNat) := by
      rw [hflows, hmatched]
      simp [FlowQuery.window]
    rw [← hmatched] at ih
    rw [List.length_append, ← hmatched]
    generalize l.foldl (scanStep q) { evaluatedAt := evaluatedAt } = r at hlength ih ⊢
    unfold scanStep
    by_cases hm : flowMatches s q = true
    · have hone : [s].filter (fun s => flowMatches s q) = [s] := by simp [hm]
      rw [hone, List.length_singleton]
      simp only [hm, Bool.not_true, Bool.false_eq_true, if_false]
      by_cases hoffset : r.matched + 1 ≤ q.offset.toNat
      · rw [if_pos hoffset, ih, decide_eq_decide]
        omega
      · rw [if_neg hoffset]
        by_cases hlimit : q.limit.toNat ≤ r.flows.length
        · rw [if_pos hlimit, eq_comm, decide_eq_true_eq]
          omega
        · rw [if_neg hlimit, ih, decide_eq_decide]
          omega
    · have hone : [s].filter (fun s => flowMatches s q) = [] := by simp [hm]
      rw [hone, if_pos (by simp [hm]), ih]
      rfl

namespace Engine

variable {e : Engine} {q : FlowQuery}

/-- **What a page of a query shows.** -/
theorem query_window (hflow : q.flow = none) (hvalid : q.validate e.config.query = .ok ()) :
    ∃ page, e.query q = .ok page ∧ page.matched = (e.matching q).length ∧ page.flows = q.window (e.matching q) ∧
      (page.truncated = true ↔ q.offset.toNat + q.limit.toNat < (e.matching q).length) := by
  obtain ⟨hmatched, hflows⟩ := foldl_scanStep q e.snapshots e.context.now
  have htruncated := truncated_scanStep q e.snapshots e.context.now
  refine ⟨e.scan q e.context.now, ?_, hmatched, hflows, ?_⟩
  · unfold query
    rw [hvalid, hflow]
    rfl
  · have hscan : (e.scan q e.context.now).truncated
        = (e.snapshots.foldl (scanStep q) { evaluatedAt := e.context.now }).truncated := rfl
    rw [hscan, htruncated, decide_eq_true_eq]
    rfl

/-! ## Pages -/

/-- The pages of a query from an offset on, until one is not truncated. -/
inductive Pages (e : Engine) (q : FlowQuery) : UInt64 → List QueryResult → Prop
  | last {offset : UInt64} {page : QueryResult} (h : e.query { q with offset := offset } = .ok page)
    (hlast : page.truncated = false) : Pages e q offset [page]
  | more {offset : UInt64} {page : QueryResult} {pages : List QueryResult}
    (h : e.query { q with offset := offset } = .ok page) (hmore : page.truncated = true)
    (hpages : Pages e q (offset + q.limit) pages) : Pages e q offset (page :: pages)

/-- The offset of a query does not matter for what matches, and for its validity only by its bound. -/
theorem validate_offset {policy : QueryPolicy} (hvalid : ({ q with offset := 0 } : FlowQuery).validate policy = .ok ())
    {offset : UInt64} (h : offset.toNat ≤ 100000000) : ({ q with offset := offset } : FlowQuery).validate policy =
    .ok () := by
  have hbound : (100000000 : UInt64).toNat = 100000000 := rfl
  have hle : offset ≤ 100000000 := by rwa [UInt64.le_iff_toNat_le, hbound]
  unfold FlowQuery.validate at hvalid ⊢
  simpa [hle] using hvalid

/-- **The pages of a query**: they end, there is one way to turn them, and together they are what matches from the
offset on. -/
theorem pages_from (hflow : q.flow = none)
    (hvalid : ({ q with offset := 0 } : FlowQuery).validate e.config.query = .ok ())
    (hfew : (e.matching q).length ≤ 100000000) (offset : UInt64) (hoffset : offset.toNat ≤ 100000000) :
    ∃ pages, (∀ pages', e.Pages q offset pages' ↔ pages' = pages) ∧
      pages.flatMap (·.flows) = (e.matching q).drop offset.toNat ∧ ∀ page ∈ pages,
      page.matched = (e.matching q).length := by
  have hlimit : 1 ≤ q.limit.toNat := by
    obtain ⟨hlimit, -⟩ := require_bind_ok.1 hvalid
    by_contra hzero
    have hzero' : q.limit = 0 := UInt64.toNat_inj.1 (show q.limit.toNat = 0 by omega)
    simp [hzero'] at hlimit
  induction hleft : (e.matching q).length - offset.toNat using Nat.strong_induction_on generalizing offset with
  | _ left ih =>
    obtain ⟨page, hpage, hmatched, hflows, htruncated⟩ := query_window (q := { q with offset := offset }) (e := e) hflow
      (validate_offset hvalid hoffset)
    have hmatching : e.matching { q with offset := offset } = e.matching q := rfl
    rw [hmatching] at hmatched hflows htruncated
    have hwindow : page.flows = ((e.matching q).drop offset.toNat).take q.limit.toNat := hflows
    by_cases hmore : offset.toNat + q.limit.toNat < (e.matching q).length
    · -- the next page starts where this one ends
      have hnext : (offset + q.limit).toNat = offset.toNat + q.limit.toNat := by
        rw [UInt64.toNat_add, Nat.mod_eq_of_lt (by omega)]
      obtain ⟨pages, honly, hrest, hcounted⟩ :=
        ih ((e.matching q).length - (offset + q.limit).toNat) (by omega) (offset + q.limit)
        (by omega) rfl
      refine ⟨page :: pages, fun pages' => ⟨fun h => ?_, ?_⟩, ?_, ?_⟩
      · cases h with
        | last h hlast =>
          rw [hpage] at h
          cases h
          rw [htruncated.2 hmore] at hlast
          cases hlast
        | more h _ hpages =>
          rw [hpage] at h
          cases h
          rw [(honly _).1 hpages]
      · rintro rfl
        exact .more hpage (htruncated.2 hmore) ((honly _).2 rfl)
      · rw [List.flatMap_cons, hrest, hwindow, hnext, ← List.drop_drop]
        exact List.take_append_drop _ _
      · intro p hp
        rcases List.mem_cons.1 hp with rfl | hp
        · exact hmatched
        · exact hcounted p hp
    · have hlast : page.truncated = false := Bool.eq_false_iff.2 fun h => hmore (htruncated.1 h)
      refine ⟨[page], fun pages' => ⟨fun h => ?_, ?_⟩, ?_, ?_⟩
      · cases h with
        | last h _ =>
          rw [hpage] at h
          cases h
          rfl
        | more h hmore' _ =>
          rw [hpage] at h
          cases h
          rw [hlast] at hmore'
          cases hmore'
      · rintro rfl
        exact .last hpage hlast
      · rw [List.flatMap_cons, List.flatMap_nil, List.append_nil, hwindow, List.take_of_length_le]
        rw [List.length_drop]
        omega
      · intro p hp
        rw [List.mem_singleton.1 hp]
        exact hmatched

/-! ## The flow table after a restart -/

/-- What was read from a file by a replay under the limits of the engine. -/
def ReadsRecords (e : Engine) (result : ReplayResult) : Prop :=
  ∃ records, replayRecords records e.config.limits e.config.recovery = .ok result

theorem restoreReads_records {e : Engine} {records : List Record} {result : ReplayResult}
    (h : result ∈ e.restoreReads records) :
    e.ReadsRecords result := by
  unfold restoreReads at h
  cases hr : replayRecords records e.config.limits e.config.recovery with
  | error err =>
    rw [hr] at h
    cases h
  | ok read =>
    simp only [hr] at h
    split at h
    · cases h
    · cases h
      exact ⟨records, hr⟩

theorem openReads_records {e : Engine} {result : ReplayResult} (h : result ∈ e.openReads) : e.ReadsRecords result := by
  unfold openReads at h
  split at h
  · cases h
  · split at h
    · cases h
    · split at h
      · cases h
      · split at h
        · exact restoreReads_records h
        · cases h

theorem loadReads_records {e : Engine} {path : Str} {existing : Option (List UInt8)} {result : ReplayResult}
    (h : result ∈ e.loadReads path existing) : e.ReadsRecords result := by
  unfold loadReads at h
  split at h
  · cases h
  · split at h
    · cases h
    · exact restoreReads_records h

/-- What a file gives is always read by a replay. -/
theorem ReachedBy.reachedFrom {apply : Engine → Observation → Prop}
    {register : Engine → SourceDescriptor → Prop} {e : Engine}
    (h : e.ReachedBy apply register) : e.ReachedFrom apply ReadsRecords := by
  induction h with
  | opened config clock disk h happly => exact .opened config clock disk h happly (fun _ hr => openReads_records hr)
  | step _ op happly _ ih => exact .step ih op happly
  | reopened _ ho happly ih => exact .reopened ih ho happly (fun _ hr => openReads_records hr)
  | loaded _ path existing happly ih => exact .loaded ih path existing happly (fun _ hr => loadReads_records hr)

/-- Restored flows are at most as many as were read. -/
theorem length_restoreFlows (previous : RuntimeEpoch) (ps : List PersistedFlow) (e : Engine) :
    (e.restoreFlows previous ps).1.flows.toList.length ≤ e.flows.toList.length + ps.length := by
  induction ps generalizing e with
  | nil => exact Nat.le_refl _
  | cons p ps ih =>
    simp only [restoreFlows]
    split
    · show e.flows.toList.length ≤ _
      exact Nat.le_add_right _ _
    · refine (ih _).trans ?_
      rw [List.length_cons]
      show (if _ then e.flows else e.flows.set _).toList.length + _ ≤ _
      split
      · omega
      · rename_i hnone
        rw [SortedVec.length_set_of_none (by simpa using hnone)]
        omega

/-- **The flows of every state reached are within `max_flows`**, whatever files it was opened on. -/
theorem flows_reached {apply : Engine → Observation → Prop} {register : Engine → SourceDescriptor → Prop} {e : Engine}
    (h : e.ReachedBy apply register) : e.config.validate = .ok () ∧
    e.flows.toList.length ≤ e.config.limits.maxFlows.toNat := by
  refine reachedFrom_rule (P := fun e => e.config.validate = .ok () ∧
    e.flows.toList.length ≤ e.config.limits.maxFlows.toNat)
    (fun e hvalid hflows _ _ => ⟨hvalid, ?_⟩) (fun e e' ha h => ?_) (fun e obs h _ => ?_) (fun e atTime due h => ?_)
    (fun e s id _ h => ?_) (fun e d s _ h => h) (fun e d s _ h => h) (fun e h => ⟨h.1, Nat.zero_le _⟩)
    (fun e e' previous result hread hconfig _ hflows _ h => ?_) h.reachedFrom
  · rw [hflows]
    exact Nat.zero_le _
  · rw [ha.config, ha.flows]
    exact h
  · rw [(sameSettings_applyLocked e obs).config_eq]
    exact ⟨h.1, length_flows_applyLocked e obs h.2⟩
  · have hlen : (e.recomputeAll atTime due).flows.toList.length = e.flows.toList.length := List.length_map _
    refine ⟨h.1, ?_⟩
    rw [hlen]
    exact h.2
  · have hlen : (e.dropped s id).flows.toList.length = e.flows.toList.length := List.length_map _
    refine ⟨h.1, ?_⟩
    rw [hlen]
    exact h.2
  · obtain ⟨records, hrecords⟩ := hread
    have hrebuilt : (e'.rebuiltFrom previous result).config = e'.config :=
      rebuilt_rule (P := fun x => x.config = e'.config) (fun _ _ hc _ h => hc.trans h) (fun _ _ h => h)
        (fun _ _ _ h => h)
        rfl hflows previous result
    rw [hrebuilt]
    refine ⟨h.1, ?_⟩
    have hlength := length_restoreFlows previous result.state.flows
      (({ e' with snapshotSequence := result.state.snapshotSequence } : Engine).restoreSources result.state.sources)
    have hstart : (({ e' with snapshotSequence := result.state.snapshotSequence } : Engine).restoreSources
        result.state.sources).flows.toList.length = 0 := by
      show e'.flows.toList.length = 0
      rw [hflows]
      rfl
    rw [hstart, Nat.zero_add] at hlength
    rw [hconfig]
    exact hlength.trans (replayRecords_flowsFit hrecords)

/-! ## All pages -/

/-- The flows of an engine are shown in the order of their identities. -/
theorem snapshots_ascending (e : Engine) : e.snapshots.Pairwise (fun s t => s.id < t.id) :=
  List.pairwise_map.2 e.flows.sorted

/-- **Paging loses and repeats nothing.** In every state reached and for every valid query that names no flow, turning
the pages from the first one ends and gives the flows that the query accepts, in ascending order. Every page counts
all of them, shows its window, and is truncated exactly when some are left after it. -/
theorem pages_cover {e : Engine} (h : e.ReachedBy (fun _ _ => True) (fun _ _ => True)) {q : FlowQuery}
    (hflow : q.flow = none)
    (hvalid : ({ q with offset := 0 } : FlowQuery).validate e.config.query = .ok ()) :
    let all : List FlowSnapshot := e.snapshots.filter (fun s => q.Accepts s)
    (∃ pages, (∀ pages', e.Pages q 0 pages' ↔ pages' = pages) ∧ pages.flatMap (·.flows) = all ∧
        ∀ page ∈ pages, page.matched = all.length) ∧
      all.Pairwise (fun s t => s.id < t.id) ∧
      ∀ offset : UInt64, offset.toNat ≤ 100000000 → ∃ page, e.query { q with offset := offset } = .ok page ∧
        page.matched = all.length ∧ page.flows = (all.drop offset.toNat).take q.limit.toNat ∧
        (page.truncated = true ↔ offset.toNat + q.limit.toNat < all.length) := by
  intro all
  have hall : all = e.matching q := accepted_of_none e q hflow
  obtain ⟨hconfig, hflows⟩ := flows_reached h
  have hfew : (e.matching q).length ≤ 100000000 := by
    have hlimits := (EngineConfig.limits_valid hconfig).flows.2
    have hbound : (100000000 : UInt32).toNat = 100000000 := rfl
    rw [UInt32.le_iff_toNat_le, hbound] at hlimits
    have hsnapshots : e.snapshots.length = e.flows.toList.length := List.length_map _
    have hmatching : (e.matching q).length ≤ e.snapshots.length := List.length_filter_le _ _
    omega
  refine ⟨?_, e.snapshots_ascending.filter _, fun offset hoffset => ?_⟩
  · rw [hall]
    exact pages_from hflow hvalid hfew 0 (Nat.zero_le _)
  · rw [hall]
    exact query_window (q := { q with offset := offset }) hflow (validate_offset hvalid hoffset)

/-- A first observation of another flow. -/
def openingOf (flowKey : Str) : Observation :=
  let obs := sampleObservation (sourceIdFromKey (str "a")) .Open 2 ⟨900⟩
  { obs with subject := { obs.subject with flowKey := flowKey } }

/-- An engine with three flows. -/
def threeFlows : Engine := (reported.step (.ingest (openingOf (str "g")))).step (.ingest (openingOf (str "h")))

theorem threeFlows_reachable : threeFlows.Reachable := .step (.step (.step (.opened {} ⟨1000⟩ reported_opened) _) _) _

theorem threeFlows_accepted :
    (threeFlows.snapshots.filter (fun s => ({ limit := 2 } : FlowQuery).Accepts s)).length =
    3 := by with_unfolding_all decide

/-- Three flows are two pages of two rows at most; only the first is truncated. -/
theorem pages_cover_three :
    let all : List FlowSnapshot := threeFlows.snapshots.filter (fun s => ({ limit := 2 } : FlowQuery).Accepts s)
    ∃ first last, threeFlows.Pages { limit := 2 } 0 [first, last] ∧ first.flows ++ last.flows = all ∧ all.length = 3 ∧
      first.matched = 3 ∧ last.matched = 3 ∧ first.flows = all.take 2 ∧ last.flows = all.drop 2 ∧
      first.truncated = true ∧ last.truncated = false := by
  intro all
  have hlength : all.length = 3 := threeFlows_accepted
  obtain ⟨⟨pages, hunique, hcover, hmatched⟩, -, hwindow⟩ := pages_cover threeFlows_reachable.reachedBy
    (q := { limit := 2 }) rfl (by with_unfolding_all decide)
  obtain ⟨first, hfirst, hfirstMatched, hfirstFlows, hfirstCut⟩ := hwindow 0 (by decide)
  obtain ⟨last, hlast, hlastMatched, hlastFlows, hlastCut⟩ := hwindow 2 (by decide)
  have hmore : first.truncated = true := hfirstCut.2 (by rw [threeFlows_accepted]; decide)
  have hend : last.truncated = false := by
    rw [Bool.eq_false_iff]
    intro h
    have hleft := hlastCut.1 h
    rw [threeFlows_accepted] at hleft
    revert hleft
    decide
  have hpages : threeFlows.Pages { limit := 2 } 0 [first, last] := .more hfirst hmore (.last hlast hend)
  rw [← (hunique _).1 hpages] at hcover
  refine ⟨first, last, hpages, by simpa using hcover, hlength, hfirstMatched.trans hlength, hlastMatched.trans hlength,
    hfirstFlows, hlastFlows.trans (List.take_of_length_le ?_), hmore, hend⟩
  rw [List.length_drop, threeFlows_accepted]
  decide

/-- A query may ask for one row. -/
def oneRow : EngineConfig := { query := { maxRows := 1 } }

/-- **A page that is larger than `max_rows` is refused**, although it is within `max_result_set`. -/
theorem large_page_refused : ¬ ∀ e : Engine, e.Reachable → ∀ q : FlowQuery, q.flow = none → 1 ≤ q.limit →
    q.limit ≤ e.config.limits.maxResultSet →
    ∃ pages, e.Pages q 0 pages ∧ pages.flatMap (·.flows) = e.snapshots.filter (fun s => q.Accepts s) := by
  intro h
  have hopened : ({ config := oneRow, clock := ⟨1000⟩ } : Engine).openEngine.2 = .ok () := 
    opens_new_iff.2 (by decide)
  have hconfig := (opened_empty oneRow ⟨1000⟩).config
  have hreached := Reachable.opened oneRow ⟨1000⟩ hopened
  generalize ({ config := oneRow, clock := ⟨1000⟩ } : Engine).openEngine.1 = e at hconfig hreached
  obtain ⟨pages, hpages, -⟩ := h e hreached { limit := 2 } rfl (by decide) (by rw [hconfig]; decide)
  have hrefused : ∃ err, e.query { limit := 2 } = .error err := by
    unfold query
    rw [hconfig]
    exact ⟨_, rfl⟩
  obtain ⟨err, hrefused⟩ := hrefused
  cases hpages with
  | last hpage _ =>
    rw [hrefused] at hpage
    cases hpage
  | more hpage _ _ =>
    rw [hrefused] at hpage
    cases hpage

end Engine

end FlowObs
