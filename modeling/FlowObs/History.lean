import FlowObs.Engine.State

/-!
# The lifecycle history

Pushes and changes of the capacity, in any order, on a history that starts empty. It always holds the newest of the
events that were pushed (`HoldsNewest.run`), so that the three readers agree on them (`history_ring_law`).
-/

namespace FlowObs

/-- A call that changes the history. A capacity is at least one. -/
inductive HistoryOp
  | push (event : LifecycleEvent)
  | setCapacity (capacity : Nat) (positive : 0 < capacity)

namespace HistoryOp

/-- Make the call. -/
def apply (history : LifecycleHistory) : HistoryOp → LifecycleHistory
  | push event => history.push event
  | setCapacity capacity _ => history.setCapacity capacity

/-- The events that it pushes. -/
def pushed : HistoryOp → List LifecycleEvent
  | push event => [event]
  | setCapacity _ _ => []

/-- The capacity after it. -/
def capacityAfter (capacity : Nat) : HistoryOp → Nat
  | push _ => capacity
  | setCapacity capacity _ => capacity

end HistoryOp

/-- The calls, one after the other, on an empty history. -/
def runHistory (ops : List HistoryOp) : LifecycleHistory := ops.foldl HistoryOp.apply {}

/-- The capacity that was set last; none before that. -/
def capacitySet (ops : List HistoryOp) : Nat := ops.foldl HistoryOp.capacityAfter 0

/-- What holds of a history into which `events` were pushed. -/
structure HoldsNewest (history : LifecycleHistory) (events : List LifecycleEvent) : Prop where
  wellFormed : history.WellFormed
  newest : history.toVector <:+ events
  counted : history.counted = UInt64.ofNat events.length

theorem HoldsNewest.empty : HoldsNewest {} [] := ⟨.empty, List.suffix_rfl, rfl⟩

theorem rtake_suffix {α : Type} (n : Nat) (l : List α) : l.rtake n <:+ l := List.drop_suffix _ l

/-- One call. -/
theorem HoldsNewest.apply {history : LifecycleHistory} {events : List LifecycleEvent} (h : HoldsNewest history events)
    (op : HistoryOp) : HoldsNewest (op.apply history) (events ++ op.pushed) := by
  obtain ⟨hwf, hnewest, hcounted⟩ := h
  cases op with
  | push event =>
    refine ⟨hwf.push event, ?_, ?_⟩
    · have hsuffix := Ring.toVector_push hwf event
      show (history.push event).toVector <:+ events ++ [event]
      rw [hsuffix]
      refine (rtake_suffix _ _).trans ?_
      obtain ⟨dropped, rfl⟩ := hnewest
      exact ⟨dropped, (List.append_assoc _ _ _).symm⟩
    · show (history.push event).counted = UInt64.ofNat (events ++ [event]).length
      rw [Ring.counted_push, hcounted, List.length_append, List.length_singleton, UInt64.ofNat_add]
      rfl
  | setCapacity capacity positive =>
    rw [HistoryOp.pushed, List.append_nil]
    refine ⟨hwf.setCapacity positive, ?_, (Ring.counted_setCapacity history positive).trans hcounted⟩
    show (history.setCapacity capacity).toVector <:+ events
    rw [Ring.toVector_setCapacity hwf positive]
    exact (rtake_suffix _ _).trans hnewest

/-- Any number of calls. -/
theorem HoldsNewest.run {ops : List HistoryOp} {history : LifecycleHistory} {events : List LifecycleEvent}
    (h : HoldsNewest history events) : HoldsNewest (ops.foldl HistoryOp.apply history)
      (events ++ ops.flatMap (·.pushed)) := by
  induction ops generalizing history events with
  | nil => rwa [List.flatMap_nil, List.append_nil]
  | cons op ops ih =>
    rw [List.foldl_cons, List.flatMap_cons, ← List.append_assoc]
    exact ih (h.apply op)

theorem capacity_run {ops : List HistoryOp} {history : LifecycleHistory} :
    (ops.foldl HistoryOp.apply history).capacity = ops.foldl HistoryOp.capacityAfter history.capacity := by
  induction ops generalizing history with
  | nil => rfl
  | cons op ops ih =>
    have hstep : (op.apply history).capacity = op.capacityAfter history.capacity := by
      cases op with
      | push event => exact Ring.capacity_push history event
      | setCapacity capacity positive => exact Ring.capacity_setCapacity positive
    rw [List.foldl_cons, List.foldl_cons, ih, ← hstep]

/-- The counter of dropped events, which has 64 bits, together with the events that are held. -/
theorem HoldsNewest.exact {history : LifecycleHistory} {events : List LifecycleEvent} (h : HoldsNewest history events) :
    history.size + history.dropped.toNat = events.length ∨ 2 ^ 64 ≤ events.length := by
  by_cases hbig : 2 ^ 64 ≤ events.length
  · exact .inr hbig
  have hle := h.newest.length_le
  rw [Ring.length_toVector] at hle
  have hsum := congrArg UInt64.toNat h.counted
  unfold Ring.counted at hsum
  rw [UInt64.toNat_add, UInt64.toNat_ofNat', UInt64.toNat_ofNat', Nat.mod_eq_of_lt (by omega : history.size < 2 ^ 64),
    Nat.mod_eq_of_lt (by omega : events.length < 2 ^ 64)] at hsum
  have hdropped := history.dropped.toNat_lt
  omega

/-- **The law of the history ring.** -/
theorem history_ring_law (ops : List HistoryOp) :
    (runHistory ops).toVector <:+ ops.flatMap (·.pushed) ∧
    (runHistory ops).toVector.length = (runHistory ops).size ∧
    (runHistory ops).size ≤ (runHistory ops).capacity ∧ (runHistory ops).capacity = capacitySet ops ∧
    UInt64.ofNat (runHistory ops).size + (runHistory ops).dropped = UInt64.ofNat (ops.flatMap (·.pushed)).length ∧
    ((runHistory ops).size + (runHistory ops).dropped.toNat = (ops.flatMap (·.pushed)).length ∨
      2 ^ 64 ≤ (ops.flatMap (·.pushed)).length) ∧
    ∀ limit, (runHistory ops).tail limit = (runHistory ops).toVector.rtake (min limit (runHistory ops).size) := by
  have h : HoldsNewest (runHistory ops) (ops.flatMap (·.pushed)) := HoldsNewest.empty.run
  refine ⟨h.newest, Ring.length_toVector _, h.wellFormed.size, capacity_run, h.counted, h.exact, fun limit => ?_⟩
  rw [Ring.tail_eq_drop, List.rtake, Ring.length_toVector]

end FlowObs
