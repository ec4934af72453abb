import FlowObs.Engine.Attribution

/-!
# Reading one flow

The entry points of `engine_api.cpp` that look one flow up: `explain` up to its text, `history`, `attribute` and
`attribute_current`. Each refuses a flow that is not known, and nothing else.
-/

namespace FlowObs

/-- `HistoryReport`. -/
structure HistoryReport where
  flow : FlowId := default
  events : List LifecycleEvent := []
  eventsDropped : UInt64 := 0
  returned : Nat := 0
  truncated : Bool := false
deriving DecidableEq, Repr, Inhabited

/-- What is said of a flow that is not known. -/
def unknownFlow : Error := ⟨.NotFound, str "flow is not known to this runtime"⟩

namespace Engine

/-- `explain`, up to the text of the explanation. -/
def explain (e : Engine) (flow : FlowId) : Except Error FlowSnapshot :=
  match e.flows.find? flow with
  | none => .error unknownFlow
  | some f => .ok (e.snapshotOf e.context f)

/-- `history`. A limit of zero is none but the bound on every result. -/
def history (e : Engine) (flow : FlowId) (limit : UInt64) : Except Error HistoryReport :=
  match e.flows.find? flow with
  | none => .error unknownFlow
  | some f =>
    let maxRows := e.config.limits.maxResultSet
    let bounded := if limit = 0 then maxRows else if limit > maxRows then maxRows else limit
    let events := f.history.tail bounded.toNat
    .ok { flow := flow, events := events, eventsDropped := f.history.dropped, returned := events.length
          truncated := f.history.size > events.length }

/-- `attribute`. A method is always a known one here. -/
def attributeFlow (e : Engine) (flow : FlowId) (generation : GenerationId) (policy : AttributionPolicy) :
    Except Error AttributionReport :=
  match e.flows.find? flow with
  | none => .error unknownFlow
  | some f =>
    let snapshot := e.snapshotOf e.context f
    match snapshot.generations.find? (fun candidate => candidate.generation.generation == generation) with
    | none =>
      .ok { flow := flow, generation := generation, status := .GenerationNotFound
            statusDetail := str "the flow has no record of that generation" }
    | some view => .ok (attributeGeneration snapshot view policy e.config.limits.maxResultSet.toNat)

/-- `attribute_current`. -/
def attributeCurrent (e : Engine) (flow : FlowId) : Except Error AttributionReport :=
  match e.flows.find? flow with
  | none => .error unknownFlow
  | some f => e.attributeFlow flow f.currentGeneration e.config.attribution

variable {e : Engine} {flow : FlowId}

theorem explain_refuses : (∃ err, e.explain flow = .error err) ↔ e.flows.find? flow = none := by
  unfold explain
  cases e.flows.find? flow <;> simp

theorem history_refuses {limit : UInt64} : (∃ err, e.history flow limit = .error err) ↔ e.flows.find? flow = none := by
  unfold history
  cases e.flows.find? flow <;> simp

theorem attributeFlow_refuses {generation : GenerationId} {policy : AttributionPolicy} :
    (∃ err, e.attributeFlow flow generation policy = .error err) ↔ e.flows.find? flow = none := by
  unfold attributeFlow
  cases e.flows.find? flow with
  | none => simp
  | some f =>
    dsimp only
    split <;> simp

theorem attributeCurrent_refuses : (∃ err, e.attributeCurrent flow = .error err) ↔ e.flows.find? flow = none := by
  unfold attributeCurrent
  cases hfind : e.flows.find? flow with
  | none => simp
  | some f =>
    dsimp only
    rw [attributeFlow_refuses, hfind]

end Engine

end FlowObs
