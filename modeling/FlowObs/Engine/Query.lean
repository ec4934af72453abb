import FlowObs.Engine.Coherent

/-!
# Reading flows

What the engine reports of a flow (`snapshotOf`) and the two entry points that select flows: `query`, which looks a
named flow up and else scans the table, and `export_data`, which scans. The scan is a window on the flows that match
(`flows_scan`). It does not read the flow a query names, and the lookup does not read the window, so that the two
select what the query asks for only as far as `select_iff` says.
-/

namespace FlowObs

/-! ## Snapshots -/

/-- `FlowSnapshot`. -/
structure FlowSnapshot where
  id : FlowId := default
  canonicalKey : Str := []
  keyCollisions : UInt64 := 0
  currentGeneration : GenerationId := default
  revision : RevisionId := default
  state : FlowState := .Unknown
  cause : StateCause := .None
  freshness : Freshness := .Unknown
  consistency : Consistency := .Unknown
  coverage : Coverage := {}
  visibility : Visibility := .Unknown
  createdAt : Timestamp := {}
  stateChangedAt : Timestamp := {}
  firstObservedAt : Timestamp := {}
  lastObservedAt : Timestamp := {}
  lastReceivedAt : Timestamp := {}
  lastProgressAt : Timestamp := {}
  endpointA : EndpointId := default
  endpointB : EndpointId := default
  total : Consumption := {}
  generations : List GenerationView := []
  anomalies : List Anomaly := []
  anomaliesDropped : UInt64 := 0
  restoredFromJournal : Bool := false
  restoredEpoch : RuntimeEpoch := default
  currentEpoch : RuntimeEpoch := default
deriving DecidableEq, Repr, Inhabited

/-- `FlowSnapshot::is_live`. -/
def FlowSnapshot.isLive (s : FlowSnapshot) : Bool := s.state == .Active && !s.restoredFromJournal

/-- `snapshot_of`: the flow with the views of its generations, showing those of the current one, or else of the last. -/
def Engine.snapshotOf (e : Engine) (ctx : FreshnessContext) (f : FlowRuntime) : FlowSnapshot :=
  let generations := f.generations.toList.map (generationView e.config e.sources ctx f.id f.currentGeneration)
  let current := (generations.find? (·.isCurrent)).or generations.getLast?
  { id := f.id
    canonicalKey := f.canonicalKey
    keyCollisions := f.keyCollisions
    currentGeneration := f.currentGeneration
    revision := f.revision
    state := (current.map (·.state)).getD f.state
    cause := (current.map (·.cause)).getD f.cause
    freshness := (current.map (·.freshness)).getD .Unknown
    consistency := (current.map (·.consistency)).getD .Unknown
    coverage := f.coverage
    visibility := (current.map (·.visibility)).getD f.coverage.classify
    createdAt := f.createdAt
    stateChangedAt := f.stateChangedAt
    firstObservedAt := f.firstObservedAt
    lastObservedAt := f.lastObservedAt
    lastReceivedAt := f.lastReceivedAt
    lastProgressAt := f.lastProgressAt
    endpointA := f.endpointA
    endpointB := f.endpointB
    total := (current.map (·.total)).getD {}
    generations := generations
    anomalies := f.anomalies
    anomaliesDropped := f.anomaliesDropped
    restoredFromJournal := f.restored
    restoredEpoch := f.restoredEpoch
    currentEpoch := e.epoch }

/-! ## Queries -/

/-- `FlowQuery`. -/
structure FlowQuery where
  flow : Option FlowId := none
  state : Option FlowState := none
  generation : Option GenerationId := none
  source : Option SourceId := none
  endpoint : Option EndpointId := none
  path : Option PathId := none
  queue : Option QueueId := none
  includeTerminal : Bool := true
  onlyLive : Bool := false
  onlyRestored : Bool := false
  limit : UInt64 := 1000
  offset : UInt64 := 0
  since : Option Timestamp := none
deriving DecidableEq, Repr, Inhabited

/-- `FlowQuery::validate`. A state is always a known one here. -/
def FlowQuery.validate (q : FlowQuery) (policy : QueryPolicy) : Except Error Unit := do
  require (q.limit != 0) (invalidArgument "query.limit must be greater than zero")
  require (q.limit ≤ policy.maxRows) (limitExceeded "query.limit exceeds query.max_rows")
  require (q.offset ≤ 100000000) ⟨.OutOfRange, str "query.offset exceeds the supported maximum"⟩
  require (q.flow.all (·.valid)) (invalidArgument "query.flow is the invalid identity")
  require (q.source.all (·.valid)) (invalidArgument "query.source is the invalid identity")
  require (q.generation.all (·.valid)) (invalidArgument "query.generation is the invalid identity")
  require (q.since.all (·.known)) (invalidArgument "query.since must be a known instant")

/-- `flow_matches`. -/
def flowMatches (s : FlowSnapshot) (q : FlowQuery) : Bool :=
  q.state.all (fun state => s.state == state)
    && q.generation.all (fun id => s.generations.any (fun g => g.generation.generation == id))
    && q.source.all (fun id => s.generations.any (fun g => g.sources.any (fun v => v.source == id)))
    && q.endpoint.all (fun id => s.endpointA == id || s.endpointB == id)
    && q.path.all (fun id => s.generations.any (fun g => g.path == some id))
    && q.queue.all (fun id => s.generations.any (fun g => g.queues.any (· == id)))
    && (q.includeTerminal || !isTerminal s.state)
    && (!q.onlyLive || s.isLive)
    && (!q.onlyRestored || s.restoredFromJournal)
    && q.since.all (fun since => !(s.lastObservedAt.known && s.lastObservedAt < since))

/-- `QueryResult`. -/
structure QueryResult where
  flows : List FlowSnapshot := []
  matched : Nat := 0
  returned : Nat := 0
  truncated : Bool := false
  evaluatedAt : Timestamp := {}
deriving DecidableEq, Repr, Inhabited

/-- `ExportOptions::Format`. -/
inductive ExportFormat
  | Json | Csv | Text
deriving DecidableEq, Repr, Inhabited

/-- `ExportOptions`. -/
structure ExportOptions where
  format : ExportFormat := .Json
  query : FlowQuery := {}
  pretty : Bool := true
  includeAnomalies : Bool := true
  includeSources : Bool := true
  includeGenerations : Bool := true
  includeHistory : Bool := false
  includeLimits : Bool := true
  includeStats : Bool := true
  deterministic : Bool := true
  evaluatedAt : Option Timestamp := none
deriving DecidableEq, Repr, Inhabited

/-- `ExportOptions::validate`. A format is always a known one here. -/
def ExportOptions.validate (o : ExportOptions) (limits : Limits) (policy : QueryPolicy) : Except Error Unit := do
  o.query.validate policy
  require (o.query.limit ≤ limits.maxResultSet) (limitExceeded "export row limit exceeds limits.max_result_set")
  require (o.evaluatedAt.all (·.known)) (invalidArgument "export.evaluated_at must be a known instant")

/-- What the scan does with one flow. -/
def scanStep (q : FlowQuery) (r : QueryResult) (s : FlowSnapshot) : QueryResult :=
  if !flowMatches s q then r
  else
    let r := { r with matched := r.matched + 1 }
    if r.matched ≤ q.offset.toNat then r
    else if q.limit.toNat ≤ r.flows.length then { r with truncated := true }
    else { r with flows := r.flows ++ [s] }

namespace Engine

/-- The snapshots of all flows, in the order of their identities. -/
def snapshots (e : Engine) : List FlowSnapshot := e.flows.toList.map (e.snapshotOf e.context)

/-- The scan of `query` and `export_data`. -/
def scan (e : Engine) (q : FlowQuery) (evaluatedAt : Timestamp) : QueryResult :=
  let r := e.snapshots.foldl (scanStep q) { evaluatedAt := evaluatedAt }
  { r with returned := r.flows.length }

/-- `query`. -/
def query (e : Engine) (q : FlowQuery) : Except Error QueryResult := do
  q.validate e.config.query
  match q.flow with
  | some id =>
    match (e.flows.find? id).map (e.snapshotOf e.context) with
    | none => return { evaluatedAt := e.context.now }
    | some s =>
      if flowMatches s q then return { flows := [s], matched := 1, returned := 1, evaluatedAt := e.context.now }
      else return { evaluatedAt := e.context.now }
  | none => return e.scan q e.context.now

/-- `export_data`, up to the text of the format. -/
def exportData (e : Engine) (o : ExportOptions) : Except Error QueryResult := do
  o.validate e.config.limits e.config.query
  return e.scan o.query (o.evaluatedAt.getD e.context.now)

end Engine

/-! ## What a query asks for -/

/-- A flow satisfies every filter of a query. -/
structure FlowQuery.Accepts (q : FlowQuery) (s : FlowSnapshot) : Prop where
  flow : ∀ id, q.flow = some id → s.id = id
  state : ∀ state, q.state = some state → s.state = state
  generation : ∀ id, q.generation = some id → ∃ g ∈ s.generations, g.generation.generation = id
  source : ∀ id, q.source = some id → ∃ g ∈ s.generations, ∃ v ∈ g.sources, v.source = id
  endpoint : ∀ id, q.endpoint = some id → s.endpointA = id ∨ s.endpointB = id
  path : ∀ id, q.path = some id → ∃ g ∈ s.generations, g.path = some id
  queue : ∀ id, q.queue = some id → ∃ g ∈ s.generations, id ∈ g.queues
  terminal : q.includeTerminal = false → isTerminal s.state = false
  live : q.onlyLive = true → s.isLive = true
  restored : q.onlyRestored = true → s.restoredFromJournal = true
  since : ∀ since, q.since = some since → s.lastObservedAt.known = true → since ≤ s.lastObservedAt

theorem option_all_iff {α : Type} {o : Option α} {p : α → Bool} : o.all p = true ↔ ∀ a, o = some a → p a = true := by
  cases o <;> simp

/-- **`flow_matches` checks every filter but the flow that is named.** -/
theorem accepts_iff (q : FlowQuery) (s : FlowSnapshot) :
    q.Accepts s ↔ flowMatches s q = true ∧ ∀ id, q.flow = some id → s.id = id := by
  unfold flowMatches
  simp only [Bool.and_eq_true, option_all_iff, Bool.or_eq_true, Bool.not_eq_true', List.any_eq_true, beq_iff_eq,
    Bool.and_eq_false_imp, decide_eq_false_iff_not, not_lt]
  constructor
  · intro h
    have hqueue : ∀ id, q.queue = some id → ∃ g ∈ s.generations, ∃ x ∈ g.queues, x = id := by
      intro id hid
      obtain ⟨g, hg, hq⟩ := h.queue id hid
      exact ⟨g, hg, id, hq, rfl⟩
    have hflag : ∀ {a b : Bool}, (a = true → b = true) → a = false ∨ b = true := by
      intro a b hab
      cases a with
      | false => exact .inl rfl
      | true => exact .inr (hab rfl)
    have hterminal : q.includeTerminal = true ∨ isTerminal s.state = false := by
      cases ht : q.includeTerminal with
      | true => exact .inl rfl
      | false => exact .inr (h.terminal ht)
    exact ⟨⟨⟨⟨⟨⟨⟨⟨⟨⟨h.state, h.generation⟩, h.source⟩, h.endpoint⟩, h.path⟩, hqueue⟩, hterminal⟩, hflag h.live⟩,
      hflag h.restored⟩, h.since⟩, h.flow⟩
  · rintro ⟨⟨⟨⟨⟨⟨⟨⟨⟨⟨hstate, hgeneration⟩, hsource⟩, hendpoint⟩, hpath⟩, hqueue⟩, hterminal⟩, hlive⟩, hrestored⟩,
      hsince⟩, hflow⟩
    exact {
      flow := hflow
      state := hstate
      generation := hgeneration
      source := hsource
      endpoint := hendpoint
      path := hpath
      queue := by
        intro id hid
        obtain ⟨g, hg, x, hx, rfl⟩ := hqueue id hid
        exact ⟨g, hg, hx⟩
      terminal := fun ht => hterminal.resolve_left (by rw [ht]; exact Bool.false_ne_true)
      live := fun hl => hlive.resolve_left (by rw [hl]; exact Bool.noConfusion)
      restored := fun hr => hrestored.resolve_left (by rw [hr]; exact Bool.noConfusion)
      since := hsince }

instance (q : FlowQuery) (s : FlowSnapshot) : Decidable (q.Accepts s) := decidable_of_iff _ (accepts_iff q s).symm

/-- The window of a query on a list. -/
def FlowQuery.window {α : Type} (q : FlowQuery) (l : List α) : List α := (l.drop q.offset.toNat).take q.limit.toNat

/-- **What a query asks for**: its window of the flows that satisfy every filter, in the order of their identities. -/
def Engine.selection (e : Engine) (q : FlowQuery) : List FlowSnapshot :=
  q.window (e.snapshots.filter (fun s => q.Accepts s))

/-! ## What the engine selects -/

/-- A window on a list that goes on. -/
theorem FlowQuery.window_concat {α : Type} (q : FlowQuery) (l : List α) (a : α) : q.window (l ++ [a]) =
    if l.length + 1 ≤ q.offset.toNat ∨ q.limit.toNat ≤ (q.window l).length then q.window l else q.window l ++ [a] := by
  unfold window
  by_cases hoffset : l.length + 1 ≤ q.offset.toNat
  · rw [if_pos (.inl hoffset), List.drop_eq_nil_of_le (by simpa using hoffset), List.drop_eq_nil_of_le (by omega)]
  · rw [List.drop_append_of_le_length (by omega)]
    by_cases hlimit : q.limit.toNat ≤ ((l.drop q.offset.toNat).take q.limit.toNat).length
    · rw [if_pos (.inr hlimit), List.take_append_of_le_length (by rw [List.length_take] at hlimit; omega)]
    · have hshort : (l.drop q.offset.toNat).length < q.limit.toNat := by
        rw [List.length_take] at hlimit
        omega
      rw [if_neg (by simp only [not_or]; exact ⟨hoffset, hlimit⟩), List.take_of_length_le (Nat.le_of_lt hshort),
        List.take_of_length_le (by rw [List.length_append]; exact hshort)]

/-- **The scan counts the flows that match and takes the window of them.** -/
theorem foldl_scanStep (q : FlowQuery) (snapshots : List FlowSnapshot) (evaluatedAt : Timestamp) :
    (snapshots.foldl (scanStep q) { evaluatedAt := evaluatedAt }).matched
        = (snapshots.filter (fun s => flowMatches s q)).length ∧
      (snapshots.foldl (scanStep q) { evaluatedAt := evaluatedAt }).flows
        = q.window (snapshots.filter (fun s => flowMatches s q)) := by
  induction snapshots using List.reverseRecOn with
  | nil => exact ⟨rfl, by simp [FlowQuery.window]⟩
  | append_singleton l s ih =>
    obtain ⟨hmatched, hflows⟩ := ih
    rw [List.foldl_append, List.foldl_cons, List.foldl_nil, List.filter_append]
    generalize l.foldl (scanStep q) { evaluatedAt := evaluatedAt } = r at hmatched hflows ⊢
    unfold scanStep
    by_cases hm : flowMatches s q = true
    · have hone : [s].filter (fun s => flowMatches s q) = [s] := by simp [hm]
      rw [hone, List.length_append, q.window_concat, ← hflows, ← hmatched]
      simp only [hm, Bool.not_true, Bool.false_eq_true, if_false, List.length_singleton]
      by_cases hoffset : r.matched + 1 ≤ q.offset.toNat
      · rw [if_pos hoffset, if_pos (.inl hoffset)]
        exact ⟨rfl, rfl⟩
      · rw [if_neg hoffset]
        by_cases hlimit : q.limit.toNat ≤ r.flows.length
        · rw [if_pos hlimit, if_pos (.inr hlimit)]
          exact ⟨rfl, rfl⟩
        · rw [if_neg hlimit, if_neg (by simp only [not_or]; exact ⟨hoffset, hlimit⟩)]
          exact ⟨rfl, rfl⟩
    · have hone : [s].filter (fun s => flowMatches s q) = [] := by simp [hm]
      rw [hone, List.append_nil, if_pos (by simp [hm])]
      exact ⟨hmatched, hflows⟩

namespace Engine

variable (e : Engine) (q : FlowQuery)

/-- The flows that match a query, the flow it names aside. -/
def matching : List FlowSnapshot := e.snapshots.filter (fun s => flowMatches s q)

theorem flows_scan (evaluatedAt : Timestamp) : (e.scan q evaluatedAt).flows = q.window (e.matching q) :=
  (foldl_scanStep q e.snapshots evaluatedAt).2

/-- Without a named flow a query accepts what matches. -/
theorem accepted_of_none (h : q.flow = none) : e.snapshots.filter (fun s => q.Accepts s) = e.matching q := by
  refine List.filter_congr fun s _ => ?_
  rw [Bool.eq_iff_iff, decide_eq_true_iff, accepts_iff, and_iff_left]
  intro id hid
  rw [h] at hid
  cases hid

theorem selection_of_none (h : q.flow = none) : e.selection q = q.window (e.matching q) := by
  unfold selection
  rw [accepted_of_none e q h]

/-- With a named flow it accepts that one of what matches. -/
theorem accepted_of_some {id : FlowId} (h : q.flow = some id) : e.snapshots.filter (fun s => q.Accepts s)
    = (e.matching q).filter (fun s => decide (s.id = id)) := by
  unfold matching
  rw [List.filter_filter]
  refine List.filter_congr fun s _ => ?_
  rw [Bool.eq_iff_iff, decide_eq_true_iff, accepts_iff, h, Bool.and_eq_true, decide_eq_true_iff, and_comm]
  simp

/-- The flow that is looked up is the one that is named, if it matches. -/
theorem found_of_some (id : FlowId) : (e.matching q).filter (fun s => decide (s.id = id))
    = ((e.flows.find? id).map (e.snapshotOf e.context)).toList.filter (fun s => flowMatches s q) := by
  have hnamed : e.snapshots.filter (fun s => decide (s.id = id)) =
      ((e.flows.find? id).map (e.snapshotOf e.context)).toList := by
    have hcomp : (fun s : FlowSnapshot => decide (s.id = id)) ∘ e.snapshotOf e.context =
        fun f => decide (f.id = id) := rfl
    have hkey := SortedVec.filter_key e.flows id
    unfold snapshots
    rw [List.filter_map, hcomp, hkey]
    cases e.flows.find? id <;> rfl
  unfold matching
  rw [← hnamed, List.filter_filter, List.filter_filter]
  refine List.filter_congr fun s _ => ?_
  rw [Bool.and_comm]

/-- What the lookup of a named flow and the scan agree on. Without a named flow, everything. If the named flow matches
the other filters, it must be the first that does, on a window that starts there and holds no other. If not, the
window must lie past all that match. -/
def NamedAlone : Prop := ∀ id, q.flow = some id →
  if (e.matching q).any (fun s => s.id == id) then
    q.offset = 0 ∧ (e.matching q).head?.any (fun s => s.id == id) ∧ (q.limit = 1 ∨ (e.matching q).length = 1)
  else (e.matching q).length ≤ q.offset.toNat

variable {e q}

/-- **What `query` selects** of a valid query: the named flow if it matches, without a window, or else the window of
what matches. -/
theorem flows_query (h : q.validate e.config.query = .ok ()) : ∃ r, e.query q = .ok r ∧ r.flows =
    match q.flow with
    | some id => (e.matching q).filter (fun s => decide (s.id = id))
    | none => q.window (e.matching q) := by
  unfold query
  rw [h]
  cases hflow : q.flow with
  | none => exact ⟨_, rfl, e.flows_scan q _⟩
  | some id =>
    simp only [found_of_some]
    cases hfound : (e.flows.find? id).map (e.snapshotOf e.context) with
    | none => exact ⟨_, rfl, rfl⟩
    | some s =>
      by_cases hm : flowMatches s q = true
      · exact ⟨{ flows := [s], matched := 1, returned := 1, evaluatedAt := e.context.now }, by simp [hm], by simp [hm]⟩
      · exact ⟨{ evaluatedAt := e.context.now }, by simp [hm], by simp [hm]⟩

/-- What `export_data` selects. -/
theorem flows_exportData {o : ExportOptions} (h : o.validate e.config.limits e.config.query = .ok ()) :
    ∃ r, e.exportData o = .ok r ∧ r.flows = o.query.window (e.matching o.query) := by
  unfold exportData
  rw [h]
  exact ⟨_, rfl, e.flows_scan o.query _⟩

/-- The query of valid export options is valid, and asks for at least one row. -/
theorem query_of_validate {o : ExportOptions} {limits : Limits} {policy : QueryPolicy}
    (h : o.validate limits policy = .ok ()) :
    o.query.validate policy = .ok () ∧ 1 ≤ o.query.limit.toNat := by
  obtain ⟨⟨⟩, hquery, -⟩ := bind_ok.1 h
  refine ⟨hquery, ?_⟩
  obtain ⟨hlimit, -⟩ := require_bind_ok.1 hquery
  have hne : o.query.limit.toNat ≠ 0 := by
    intro hzero
    have : o.query.limit = 0 := UInt64.toNat_inj.1 hzero
    simp [this] at hlimit
  omega

end Engine

/-- A window on one row or none. -/
theorem FlowQuery.window_singleton {α : Type} {q : FlowQuery} (hlimit : 1 ≤ q.limit.toNat) (a : α) :
    q.window [a] = [a] ↔ q.offset = 0 := by
  have hzero : q.offset = 0 ↔ q.offset.toNat = 0 := UInt64.toNat_inj.symm
  rw [hzero]
  unfold window
  constructor
  · intro h
    by_contra hne
    rw [List.drop_eq_nil_of_le (by simp only [List.length_singleton]; omega), List.take_nil] at h
    cases h
  · intro h
    rw [h, List.drop_zero, List.take_of_length_le hlimit]

theorem FlowQuery.window_eq_nil {α : Type} {q : FlowQuery} (hlimit : 1 ≤ q.limit.toNat) (l : List α) :
    q.window l = [] ↔ l.length ≤ q.offset.toNat := by
  unfold window
  rw [List.take_eq_nil_iff, List.drop_eq_nil_iff]
  constructor
  · rintro (h | h)
    · omega
    · exact h
  · exact .inr

/-- A window that starts at the first row is one row when that is the only row or the limit is one. -/
theorem FlowQuery.window_eq_singleton {α : Type} {q : FlowQuery} (hlimit : 1 ≤ q.limit.toNat) (hoffset : q.offset = 0)
    (l : List α) (a : α) : q.window l = [a] ↔ l.head? = some a ∧ (q.limit = 1 ∨ l.length = 1) := by
  have hone : q.limit = 1 ↔ q.limit.toNat = 1 := UInt64.toNat_inj.symm
  have hzero : q.offset.toNat = 0 := by rw [hoffset]; rfl
  unfold window
  rw [hzero, List.drop_zero, hone]
  generalize q.limit.toNat = n at hlimit
  cases l with
  | nil => simp
  | cons b l =>
    obtain ⟨m, rfl⟩ : ∃ m, n = m + 1 := ⟨n - 1, by omega⟩
    rw [List.take_succ_cons, List.cons.injEq, List.take_eq_nil_iff, List.head?_cons, Option.some.injEq,
      List.length_cons]
    simp

namespace Engine

/-- **When the lookup and the scan select what is asked for.** For every state and all valid options, `query` and
`export_data` both give the window of the flows that satisfy every filter, in the order of their identities, exactly
when the query names no flow, or names one that they agree on. -/
theorem select_iff (e : Engine) (o : ExportOptions) (h : o.validate e.config.limits e.config.query = .ok ()) :
    ((∃ r, e.query o.query = .ok r ∧ r.flows = e.selection o.query) ∧
      (∃ r, e.exportData o = .ok r ∧ r.flows = e.selection o.query)) ↔ e.NamedAlone o.query := by
  obtain ⟨hvalid, hlimit⟩ := query_of_validate h
  obtain ⟨rq, hq, hqflows⟩ := flows_query hvalid
  obtain ⟨rx, hx, hxflows⟩ := flows_exportData h
  rw [hq, hx]
  simp only [Except.ok.injEq, exists_eq_left']
  rw [hqflows, hxflows]
  unfold NamedAlone
  cases hflow : o.query.flow with
  | none =>
    rw [selection_of_none e o.query hflow]
    simp
  | some id =>
    have hselection : e.selection o.query =
        o.query.window ((e.matching o.query).filter (fun s => decide (s.id = id))) := by
      unfold selection
      rw [accepted_of_some e o.query hflow]
    rw [hselection]
    simp only [Option.some.injEq, forall_eq']
    generalize hM : e.matching o.query = M
    -- the named flow is among those that match, or not
    have hfound := e.found_of_some o.query id
    rw [hM] at hfound
    have hlength : (M.filter (fun s => decide (s.id = id))).length ≤ 1 := by
      rw [hfound]
      refine (List.length_filter_le _ _).trans ?_
      cases e.flows.find? id <;> simp
    by_cases hnamed : M.any (fun s => s.id == id) = true
    · rw [if_pos hnamed]
      obtain ⟨s, hs, hid⟩ := List.any_eq_true.1 hnamed
      replace hid : s.id = id := by simpa using hid
      have hmem : s ∈ M.filter (fun s => decide (s.id = id)) := List.mem_filter.2 ⟨hs, decide_eq_true hid⟩
      have hpos : 0 < (M.filter (fun s => decide (s.id = id))).length := List.length_pos_of_mem hmem
      obtain ⟨t, ht⟩ := List.length_eq_one_iff.1 (show (M.filter (fun s => decide (s.id = id))).length = 1 by omega)
      have hst : s = t := by
        rw [ht] at hmem
        exact List.mem_singleton.1 hmem
      subst hst
      have hwindow : [s] = o.query.window [s] ↔ o.query.offset = 0 := by
        rw [eq_comm, FlowQuery.window_singleton hlimit]
      rw [ht, hwindow]
      refine and_congr_right fun hoffset => ?_
      rw [(FlowQuery.window_singleton hlimit s).2 hoffset, FlowQuery.window_eq_singleton hlimit hoffset]
      refine and_congr_left fun _ => ?_
      -- the first of what matches bears the name exactly when it is the one
      constructor
      · intro hhead
        rw [hhead]
        simpa using hid
      · intro hhead
        obtain ⟨u, hu, huid⟩ := (Option.any_eq_true _ _).1 hhead
        have huM : u ∈ M.filter (fun s => decide (s.id = id)) :=
          List.mem_filter.2 ⟨List.mem_of_mem_head? hu, by simpa using huid⟩
        rw [ht] at huM
        rw [hu, List.mem_singleton.1 huM]
    · rw [if_neg hnamed]
      have hnone : M.filter (fun s => decide (s.id = id)) = [] := by
        refine List.filter_eq_nil_iff.2 fun s hs hid => hnamed (List.any_eq_true.2 ⟨s, hs, ?_⟩)
        simpa using hid
      have hempty : o.query.window ([] : List FlowSnapshot) = [] := by simp [FlowQuery.window]
      rw [hnone, hempty, and_iff_right rfl, FlowQuery.window_eq_nil hlimit]

theorem select_iff_reported :
    ((∃ r, reported.query { flow := some sampleFlow } = .ok r ∧
      r.flows = reported.selection { flow := some sampleFlow }) ∧
      (∃ r, reported.exportData { query := { flow := some sampleFlow } } = .ok r ∧
        r.flows = reported.selection { flow := some sampleFlow })) ↔ reported.NamedAlone { flow := some sampleFlow } :=
  select_iff reported { query := { flow := some sampleFlow } } (by with_unfolding_all decide)

/-- **An export of a flow by name exports every flow.** -/
theorem export_ignores_flow : ¬ ∀ e : Engine, e.Reachable → ∀ o : ExportOptions,
    o.validate e.config.limits e.config.query = .ok () →
      (∃ r, e.query o.query = .ok r ∧ r.flows = e.selection o.query) ∧
      (∃ r, e.exportData o = .ok r ∧ r.flows = e.selection o.query) := by
  intro h
  have hreached : reported.Reachable := .step (.opened {} ⟨1000⟩ reported_opened) _
  have hvalid : ({ query := { flow := some ⟨7⟩ } } : ExportOptions).validate reported.config.limits
    reported.config.query
      = .ok () := by with_unfolding_all decide
  obtain ⟨-, r, hr, hasked⟩ := h reported hreached { query := { flow := some ⟨7⟩ } } hvalid
  obtain ⟨r', hr', hexported⟩ := flows_exportData hvalid
  have hsame : r = r' := Except.ok.inj (hr.symm.trans hr')
  have hone : (({ flow := some ⟨7⟩ } : FlowQuery).window (reported.matching { flow := some ⟨7⟩ })).length = 1 := by
    with_unfolding_all decide
  have hnone : (reported.selection { flow := some ⟨7⟩ }).length = 0 := by with_unfolding_all decide
  rw [← hexported, ← hsame, hasked, hnone] at hone
  cases hone

end Engine

end FlowObs
