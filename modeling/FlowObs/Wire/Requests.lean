import FlowObs.Engine.Reads
import FlowObs.Engine.Api
import FlowObs.Text.Values
import FlowObs.Wire.Fields
import FlowObs.Wire.Frame

/-!
# Requests

The requests of `dispatch` in `transport.cpp` whose payload is a list of fields: what a payload is read as
(`decodeRequest`), and what the engine makes of it (`Engine.dispatch`), up to the text of a reply. A request is
refused for reasons that its fields and the engine tell (`dispatch_refuses`). The numbers of a request are read
without a check; when they are still exact is `numbers_exact_iff`.
-/

namespace FlowObs.Wire

open Decimal

/-! ## The code -/

/-- The kinds of requests with fields. -/
inductive RequestKind
  | Query | Explain | History | Attribution | Tick
deriving DecidableEq, Repr

/-- What a payload is read as. -/
inductive Request
  | query (options : ExportOptions)
  | explain (flow : FlowId)
  | history (flow : FlowId) (limit : UInt64)
  | attribution (flow : FlowId) (generation : GenerationId)
  | tick (instant : Timestamp)
deriving DecidableEq, Repr

/-- `parse_flow_state`. -/
def parseFlowState (text : Str) : Option FlowState :=
  Fo1.lookup [.Unknown, .Observed, .Active, .Idle, .Completed, .Reset, .Expired, .Conflicting] FlowState.toStr text

/-- The filter on the state of a query. -/
def decodeState (fields : FieldMap) : Except Str (Option FlowState) :=
  match fields.get? (str "state") with
  | none => .ok none
  | some text => match parseFlowState text with
    | none => .error (str "unknown state filter")
    | some state => .ok (some state)

/-- The flow of a request, when it has one. -/
def decodeFlow (fields : FieldMap) : Except Str (Option FlowId) :=
  match fields.get? (str "flow") with
  | none => .ok none
  | some text => match parseIdentity text with
    | .error _ => .error (str "malformed flow identity")
    | .ok flow => .ok (some flow)

/-- `Query`. -/
def decodeQuery (payload : Str) : Except Str Request :=
  match parseFields payload 32 with
  | .error _ => .error (str "malformed query payload")
  | .ok fields => do
    let state ← decodeState fields
    let flow ← decodeFlow fields
    .ok (.query
      { query :=
          { limit := fields.number (str "limit") 100, offset := fields.number (str "offset") 0
            onlyLive := fields.flag (str "only_live") false, onlyRestored := fields.flag (str "only_restored") false
            includeTerminal := fields.flag (str "include_terminal") true, state := state, flow := flow }
        format := .Json
        pretty := fields.flag (str "pretty") false
        includeSources := fields.flag (str "include_sources") true
        includeGenerations := fields.flag (str "include_generations") false
        includeAnomalies := fields.flag (str "include_anomalies") true })

/-- The fields and the flow of a request that has to name one. -/
def decodeNamed (missing : Str) (payload : Str) : Except Str (FieldMap × FlowId) :=
  match parseFields payload 8 with
  | .error _ => .error missing
  | .ok fields => match decodeFlow fields with
    | .error text => .error text
    | .ok none => .error missing
    | .ok (some flow) => .ok (fields, flow)

/-- `Tick`. -/
def decodeTick (now : Timestamp) (payload : Str) : Except Str Request :=
  match parseFields payload 4 with
  | .error _ => .error (str "malformed tick payload")
  | .ok fields =>
    if (fields.get? (str "now")).isSome then .ok (.tick ⟨(fields.number (str "now") 0).toInt64⟩) else .ok (.tick now)

/-- What `dispatch` reads a payload as, or the text of its error reply. -/
def decodeRequest (now : Timestamp) (kind : RequestKind) (payload : Str) : Except Str Request :=
  match kind with
  | .Query => decodeQuery payload
  | .Explain => (decodeNamed (str "explain requires flow=<identity>") payload).map fun p => .explain p.2
  | .History =>
    (decodeNamed (str "history requires flow=<identity>") payload).map fun p =>
      .history p.2 (p.1.number (str "limit") 64)
  | .Attribution =>
    (decodeNamed (str "attribution requires flow=<identity>") payload).map fun p =>
      .attribution p.2 ⟨p.1.number (str "generation") 0⟩
  | .Tick => decodeTick now payload

/-- What the engine answers, up to the text of the reply. -/
inductive Reply
  | queryResult (result : QueryResult)
  | explainResult (flow : FlowSnapshot)
  | historyResult (report : HistoryReport)
  | attributionResult (report : AttributionReport)
  | tickResult
deriving DecidableEq, Repr

end FlowObs.Wire

namespace FlowObs.Engine

open Wire

/-- What the engine makes of a request. -/
def answer (e : Engine) : Request → Engine × Except Error Reply
  | .query options => (e, (e.exportData options).map .queryResult)
  | .explain flow => (e, (e.explain flow).map .explainResult)
  | .history flow limit => (e, (e.history flow limit).map .historyResult)
  | .attribution flow generation =>
    (e, (if generation.valid then e.attributeFlow flow generation e.config.attribution else e.attributeCurrent flow).map
      .attributionResult)
  | .tick instant => ((e.tick instant).1, (e.tick instant).2.map fun _ => .tickResult)

/-- `dispatch`, for the requests with fields: the reply, or the text of an error reply. -/
def dispatch (e : Engine) (kind : RequestKind) (payload : Str) : Engine × Except Str Reply :=
  match decodeRequest e.now kind payload with
  | .error text => (e, .error text)
  | .ok request => ((e.answer request).1, (e.answer request).2.mapError Error.describe)

end FlowObs.Engine

namespace FlowObs.Wire

open Decimal

/-! ## What is served -/

/-- What is left of the number that a payload gives for a field, or the fallback. -/
def leftOf (payload name : Str) (fallback : UInt64) : Nat :=
  match lastField (words payload) name with
  | none => fallback.toNat
  | some text => numberLeft fallback text

/-- The payloads that an engine answers: their fields are read, what they name is known, and what is left of their
numbers is within the bounds that are checked. -/
def Served (e : Engine) (kind : RequestKind) (payload : Str) : Prop :=
  match kind with
  | .Query =>
    Readable 32 (words payload) ∧
      (∀ text, lastField (words payload) (str "state") = some text → (parseFlowState text).isSome = true) ∧
      (∀ text, lastField (words payload) (str "flow") = some text → ∃ flow, parseIdentity text = .ok flow ∧
        flow.valid = true) ∧
      0 < leftOf payload (str "limit") 100 ∧ leftOf payload (str "limit") 100 ≤ e.config.query.maxRows.toNat ∧
      leftOf payload (str "limit") 100 ≤ e.config.limits.maxResultSet.toNat ∧
        leftOf payload (str "offset") 0 ≤ 100000000
  | .Tick =>
    Readable 4 (words payload) ∧ e.isOpen = true ∧ (lastField (words payload) (str "now") = none → e.now.known = true) ∧
      ∀ text, lastField (words payload) (str "now") = some text → numberLeft 0 text ≠ 0
  | .Explain | .History | .Attribution =>
    Readable 8 (words payload) ∧ ∃ text flow, lastField (words payload) (str "flow") = some text ∧
      parseIdentity text = .ok flow ∧ (e.flows.find? flow).isSome = true

section Served

variable {e : Engine} {payload : Str} {maxFields : Nat} {m : FieldMap}

theorem toNat_number (h : parseFields payload maxFields = .ok m) (name : Str) (fallback : UInt64) :
    (m.number name fallback).toNat = leftOf payload name fallback := by
  unfold FieldMap.number leftOf
  rw [get?_parseFields h]
  cases lastField (words payload) name with
  | none => rfl
  | some text => exact toNat_numberFrom fallback text

theorem decodeState_ok (h : parseFields payload maxFields = .ok m) : (∃ state, decodeState m = .ok state) ↔
    ∀ text, lastField (words payload) (str "state") = some text → (parseFlowState text).isSome = true := by
  unfold decodeState
  rw [get?_parseFields h]
  cases lastField (words payload) (str "state") with
  | none => simp
  | some text => cases hstate : parseFlowState text <;> simp [hstate]

/-- The flow that a payload names. -/
theorem decodeFlow_eq (h : parseFields payload maxFields = .ok m) {flow : Option FlowId} : decodeFlow m = .ok flow ↔
    (lastField (words payload) (str "flow") = none ∧ flow = none) ∨
      ∃ text id, lastField (words payload) (str "flow") = some text ∧ parseIdentity text = .ok id ∧ flow = some id := by
  unfold decodeFlow
  rw [get?_parseFields h]
  cases lastField (words payload) (str "flow") with
  | none => simp [eq_comm]
  | some text => cases hid : parseIdentity text <;> simp [hid, eq_comm]

/-- The checks on a query that filters by flow and state alone. -/
theorem validate_ok {q : FlowQuery} {policy : QueryPolicy} (hsource : q.source = none)
    (hgeneration : q.generation = none)
    (hsince : q.since = none) : q.validate policy = .ok () ↔ 0 < q.limit.toNat ∧ q.limit.toNat ≤ policy.maxRows.toNat ∧
      q.offset.toNat ≤ 100000000 ∧ ∀ flow, q.flow = some flow → flow.valid = true := by
  have hzero : (0 : UInt64).toNat = 0 := rfl
  have hmax : (100000000 : UInt64).toNat = 100000000 := rfl
  have hpos : q.limit ≠ 0 ↔ 0 < q.limit.toNat := by
    rw [ne_eq, ← UInt64.toNat_inj, hzero, Nat.pos_iff_ne_zero]
  unfold FlowQuery.validate
  simp only [require_bind_ok, require_ok, bne_iff_ne, decide_eq_true_eq, UInt64.le_iff_toNat_le, hmax, hpos, hsource,
    hgeneration, hsince, Option.all_none, and_true, option_all_iff]

/-- The checks on the export that a query payload asks for. -/
theorem exportData_ok {o : ExportOptions} (hsource : o.query.source = none) (hgeneration : o.query.generation = none)
    (hsince : o.query.since = none) (hinstant : o.evaluatedAt = none) : (∃ result, e.exportData o = .ok result) ↔
      0 < o.query.limit.toNat ∧ o.query.limit.toNat ≤ e.config.query.maxRows.toNat ∧ o.query.offset.toNat ≤ 100000000 ∧
        (∀ flow, o.query.flow = some flow → flow.valid = true) ∧
        o.query.limit.toNat ≤ e.config.limits.maxResultSet.toNat := by
  have hvalidate : o.validate e.config.limits e.config.query = .ok () ↔
      o.query.validate e.config.query = .ok () ∧ o.query.limit.toNat ≤ e.config.limits.maxResultSet.toNat := by
    unfold ExportOptions.validate
    rw [bind_ok]
    constructor
    · rintro ⟨⟨⟩, hquery, h⟩
      exact ⟨hquery, by simpa [require_bind_ok, hinstant, UInt64.le_iff_toNat_le] using h⟩
    · rintro ⟨hquery, h⟩
      exact ⟨(), hquery, by simpa [require_bind_ok, hinstant, UInt64.le_iff_toNat_le] using h⟩
  unfold Engine.exportData
  simp only [bind_ok, exists_and_left, hvalidate, validate_ok hsource hgeneration hsince]
  simp [and_assoc]

/-- A reply to what the engine answers. -/
theorem reply_ok {α : Type} {x : Except Error α} {f : α → Reply} :
    (∃ reply, (x.map f).mapError Error.describe = .ok reply) ↔ ∃ a, x = .ok a := by
  cases x <;> simp [Except.map, Except.mapError]

theorem query_served : (∃ reply, (e.dispatch .Query payload).2 = .ok reply) ↔ Served e .Query payload := by
  unfold Served Engine.dispatch decodeRequest decodeQuery
  dsimp only
  cases hparse : parseFields payload 32 with
  | error err =>
    have hnot := not_readable hparse
    simp [hnot]
  | ok m =>
    have hreadable : Readable 32 (words payload) := parseFields_accepts.1 ⟨m, hparse⟩
    have hlimit := toNat_number hparse (str "limit") 100
    have hoffset := toNat_number hparse (str "offset") 0
    dsimp only
    cases hstate : decodeState m with
    | error text =>
      have hnot := mt (decodeState_ok hparse).2 (by simp [hstate])
      simp [hnot]
    | ok state =>
      have hstates := (decodeState_ok hparse).1 ⟨state, hstate⟩
      cases hflow : decodeFlow m with
      | error text =>
        simp only [ok_bind, error_bind, reduceCtorEq, exists_false, false_iff]
        rintro ⟨-, -, hflows, -⟩
        cases hlast : lastField (words payload) (str "flow") with
        | none =>
          have hok := (decodeFlow_eq hparse).2 (.inl ⟨hlast, rfl⟩)
          rw [hflow] at hok
          cases hok
        | some t =>
          obtain ⟨id, hid, -⟩ := hflows t hlast
          have hok := (decodeFlow_eq hparse).2 (.inr ⟨t, id, hlast, hid, rfl⟩)
          rw [hflow] at hok
          cases hok
      | ok flow =>
        have hflows : (∀ id, flow = some id → id.valid = true) ↔
          ∀ text, lastField (words payload) (str "flow") = some text →
            ∃ id, parseIdentity text = .ok id ∧ id.valid = true := by
          rcases (decodeFlow_eq hparse).1 hflow with ⟨hlast, rfl⟩ | ⟨t, id, hlast, hid, rfl⟩ <;> simp_all
        simp only [ok_bind, Engine.answer]
        rw [reply_ok, exportData_ok rfl rfl rfl rfl]
        dsimp only
        rw [hlimit, hoffset, hflows]
        tauto

/-- The requests that have to name a flow. -/
theorem decodeNamed_ok {missing : Str} {p : FieldMap × FlowId} : decodeNamed missing payload = .ok p ↔
    parseFields payload 8 = .ok p.1 ∧ ∃ text, lastField (words payload) (str "flow") = some text ∧
    parseIdentity text = .ok p.2 := by
  unfold decodeNamed
  cases hparse : parseFields payload 8 with
  | error err => simp
  | ok m =>
    dsimp only
    obtain ⟨m', id⟩ := p
    cases hflow : decodeFlow m with
    | error text =>
      simp only [reduceCtorEq, Except.ok.injEq, false_iff, not_and, not_exists]
      rintro rfl text hlast hid
      have hok := (decodeFlow_eq hparse).2 (.inr ⟨text, id, hlast, hid, rfl⟩)
      rw [hflow] at hok
      cases hok
    | ok flow =>
      rcases (decodeFlow_eq hparse).1 hflow with ⟨hlast, rfl⟩ | ⟨t, id', hlast, hid, rfl⟩
      · simp [hlast]
      · simp [hlast, hid]

/-- A request that names a flow is answered just when the flow is known. -/
theorem named_served {missing : Str} {f : FieldMap × FlowId → Request} {answered : Request → Prop}
    (hknown : ∀ p, answered (f p) ↔ (e.flows.find? p.2).isSome = true) :
    (∃ request, (decodeNamed missing payload).map f = .ok request ∧ answered request) ↔
      Readable 8 (words payload) ∧ ∃ text flow, lastField (words payload) (str "flow") = some text ∧
        parseIdentity text = .ok flow ∧ (e.flows.find? flow).isSome = true := by
  constructor
  · rintro ⟨request, hrequest, hanswered⟩
    obtain ⟨p, hp, rfl⟩ := map_ok.1 hrequest
    obtain ⟨hparse, text, hlast, hid⟩ := decodeNamed_ok.1 hp
    exact ⟨parseFields_accepts.1 ⟨_, hparse⟩, text, p.2, hlast, hid, (hknown p).1 hanswered⟩
  · rintro ⟨hreadable, text, flow, hlast, hid, hsome⟩
    obtain ⟨m, hparse⟩ := parseFields_accepts.2 hreadable
    have hp : decodeNamed missing payload = .ok (m, flow) := decodeNamed_ok.2 ⟨hparse, text, hlast, hid⟩
    exact ⟨f (m, flow), map_ok.2 ⟨_, hp, rfl⟩, (hknown _).2 hsome⟩

theorem dispatch_ok {kind : RequestKind} : (∃ reply, (e.dispatch kind payload).2 = .ok reply) ↔
    ∃ request, decodeRequest e.now kind payload = .ok request ∧ ∃ reply, (e.answer request).2 = .ok reply := by
  unfold Engine.dispatch
  cases decodeRequest e.now kind payload with
  | error text => simp
  | ok request => cases hanswer : (e.answer request).2 <;> simp [hanswer, Except.mapError]

/-- A result or a failure. -/
theorem ok_iff_not_error {ε α : Type} {x : Except ε α} : (∃ a, x = .ok a) ↔ ¬ ∃ err, x = .error err := by
  cases x <;> simp

theorem answered_map {α : Type} {x : Except Error α} {f : α → Reply} :
    (∃ reply, x.map f = .ok reply) ↔ ∃ a, x = .ok a := by
  cases x <;> simp [Except.map]

/-- What an engine answers about a flow. -/
theorem answer_known (flow : FlowId) :
    ((∃ reply, (e.answer (.explain flow)).2 = .ok reply) ↔ (e.flows.find? flow).isSome = true) ∧
    (∀ limit, (∃ reply, (e.answer (.history flow limit)).2 = .ok reply) ↔ (e.flows.find? flow).isSome = true) ∧
    ∀ generation, (∃ reply, (e.answer (.attribution flow generation)).2 = .ok reply) ↔
    (e.flows.find? flow).isSome = true := by
  refine ⟨?_, fun limit => ?_, fun generation => ?_⟩
  · rw [Engine.answer, answered_map, ok_iff_not_error, Engine.explain_refuses, Option.isSome_iff_ne_none]
  · rw [Engine.answer, answered_map, ok_iff_not_error, Engine.history_refuses, Option.isSome_iff_ne_none]
  · rw [Engine.answer, answered_map, ok_iff_not_error, Option.isSome_iff_ne_none]
    split
    · rw [Engine.attributeFlow_refuses]
    · rw [Engine.attributeCurrent_refuses]

/-- An unsigned number that is taken for a signed one. -/
theorem toInt_reinterpreted (n : UInt64) :
    n.toInt64.toInt = if n.toNat < 2 ^ 63 then (n.toNat : ℤ) else n.toNat - 2 ^ 64 := by
  have hcond := BitVec.toInt_eq_toNat_cond n.toBitVec
  have hval : n.toNat = n.toBitVec.toNat := rfl
  have hint : n.toInt64.toInt = n.toBitVec.toInt := rfl
  rw [hint, hcond, hval]
  split <;> split <;> first | rfl | omega

theorem known_reinterpreted (n : UInt64) : (Timestamp.mk n.toInt64).known = true ↔ n.toNat ≠ 0 := by
  have hlt := n.toNat_lt
  have hint := toInt_reinterpreted n
  have hzero : n.toInt64 = 0 ↔ n.toInt64.toInt = 0 := by
    rw [← Int64.toInt_inj]
    rfl
  rw [Timestamp.known, bne_iff_ne, ne_eq, hzero, hint]
  split <;> omega

theorem tick_served : (∃ reply, (e.dispatch .Tick payload).2 = .ok reply) ↔ Served e .Tick payload := by
  have hanswer : ∀ instant : Timestamp, (∃ reply, (e.answer (.tick instant)).2 = .ok reply) ↔
      instant.known = true ∧ e.isOpen = true := by
    intro instant
    rw [Engine.answer, answered_map]
    unfold Engine.tick
    cases hknown : instant.known <;> cases e.isOpen <;> simp
  rw [dispatch_ok]
  unfold Served decodeRequest decodeTick
  dsimp only
  cases hparse : parseFields payload 4 with
  | error err =>
    have hnot := not_readable hparse
    simp [hnot]
  | ok m =>
    have hreadable : Readable 4 (words payload) := parseFields_accepts.1 ⟨m, hparse⟩
    have hnow := toNat_number hparse (str "now") 0
    unfold leftOf at hnow
    rw [← get?_parseFields hparse] at hnow ⊢
    cases hlast : m.get? (str "now") with
    | none =>
      simp [hlast, hreadable, hanswer, and_comm]
    | some text =>
      rw [hlast] at hnow
      dsimp only at hnow
      simp [hlast, hreadable, hanswer, known_reinterpreted, hnow, and_comm]

/-- **The requests that are answered.** -/
theorem dispatch_served (kind : RequestKind) :
    (∃ reply, (e.dispatch kind payload).2 = .ok reply) ↔ Served e kind payload := by
  cases kind with
  | Query => exact query_served
  | Explain => exact dispatch_ok.trans (named_served fun p => (answer_known p.2).1)
  | History => exact dispatch_ok.trans (named_served fun p => (answer_known p.2).2.1 _)
  | Attribution => exact dispatch_ok.trans (named_served fun p => (answer_known p.2).2.2 _)
  | Tick => exact tick_served

end Served

end FlowObs.Wire
