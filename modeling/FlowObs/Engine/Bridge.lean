import FlowObs.Bridge
import FlowObs.Engine.Resumption

/-!
# What a restored counter goes on from

A snapshot keeps the last reading of each counter, and `restore_locked` puts it back without breaking the interval.
The first reading after a restore is then compared with the last one before it: `bridges_iff` says when the counter
starts anew all the same.
-/

namespace FlowObs.Engine

section Restored

variable {e fresh : Engine} {records : List Record} {previous : RuntimeEpoch}

/-- **When a restored counter starts a new interval.** Whatever the restored ledger takes, a counter with a last
reading adds what that comes to on its own, with one more interval unknown, exactly when the first thing that the
counter is called with ends its interval, or is a reading below the last one that restarts it. -/
theorem bridges_iff (h : e.Reachable) (hw : encodeState e.persistState e.config.limits = .ok records)
    (hd : e.persistState.Decodable e.config.limits e.config.recovery) (hc : fresh.config = e.config)
      (hf : fresh.flows = ∅)
    (hr : (fresh.restoreLocked records previous).2 = .ok ()) : e.Holds (fun flow gen b =>
      ∃ b', (fresh.restoreLocked records previous).1.binding? flow gen b.source = some b' ∧
        ∀ (direction : Direction) (metric : Metric) (last : UInt64),
          (b.ledger.foldedState.counter direction metric).last = some last → ∀ arrivals : List Observation,
            let a := b.ledger.foldedState.counter direction metric
            let calls := b'.ledger.calledSince direction metric e.config.counters arrivals
            a.StartsAnew (({} : CounterAccumulator).play calls)
                (((b'.ledger.insertAll arrivals).foldAll e.config.counters).counter direction metric) ↔
              (∃ restart, calls.head? = some (restart, none)) ∨
                a.baseline.isSome = true ∧ ∃ value, calls.head? = some (true, some value) ∧ value < last) := by
  intro flow gen source b hb
  have hs : b.source = source := by
    obtain ⟨f, -, hfb⟩ := Option.bind_eq_some_iff.1 hb
    obtain ⟨g, -, hgb⟩ := Option.bind_eq_some_iff.1 hfb
    exact SortedVec.find?_key hgb
  obtain ⟨b', hb', hledger⟩ := (restoreLocked_snapshot hw (by rw [hc]) (by rw [hc]; exact hd) hf hr).ledger h hd hb
  refine ⟨b', hs ▸ hb', fun direction metric last hlast arrivals => ?_⟩
  have hpolicy : b'.ledger.counterPolicy.treatRegressionAsReset = true := by
    rw [hledger]
    rfl
  have hcounter : b'.ledger.prefixState.counter direction metric = b.ledger.foldedState.counter direction metric := by
    rw [hledger]
    cases direction <;> rfl
  simp only
  rw [SourceLedger.counter_since, hcounter]
  exact CounterAccumulator.startsAnew_iff hlast
    (b'.ledger.calledSince_pairwise direction metric e.config.counters arrivals hpolicy)

end Restored

/-! ## A reading across a restore -/

/-- A reading of the bytes of the source `a`. -/
def bytesObservation (revision bytes : UInt64) : Observation :=
  (epochObservation 1 revision revision).withBytes bytes

/-- An engine that took one reading. -/
def measured : Engine := ({ clock := ⟨1000⟩ } : Engine).openEngine.1.step (.ingest (bytesObservation 1 10))

/-- The snapshot of that engine. -/
def measuredSnapshot : List Record := (encodeState measured.persistState measured.config.limits).toOption.getD []

theorem measured_reachable : measured.Reachable := by
  have hopen : ({ config := {}, clock := ⟨1000⟩ } : Engine).openEngine.2 = .ok () := 
    opens_new_iff.2 (EngineConfig.validate_default _)
  exact .step (.opened {} ⟨1000⟩ hopen) _

theorem measuredSnapshot_written : encodeState measured.persistState measured.config.limits = .ok measuredSnapshot :=
  eq_ok_getD (by decide +kernel) []

theorem measuredSnapshot_decodable :
    measured.persistState.Decodable measured.config.limits measured.config.recovery := by
  with_unfolding_all decide

theorem measuredSnapshot_restores : (freshEngine.restoreLocked measuredSnapshot ⟨1⟩).2 = .ok () :=
  restoreLocked_of_state measuredSnapshot_written measuredSnapshot_decodable (by with_unfolding_all decide)
    (by with_unfolding_all decide)

theorem bridges_iff_measured : measured.Holds (fun flow gen b =>
    ∃ b', (freshEngine.restoreLocked measuredSnapshot ⟨1⟩).1.binding? flow gen b.source = some b' ∧
      ∀ (direction : Direction) (metric : Metric) (last : UInt64),
        (b.ledger.foldedState.counter direction metric).last = some last → ∀ arrivals : List Observation,
          let a := b.ledger.foldedState.counter direction metric
          let calls := b'.ledger.calledSince direction metric measured.config.counters arrivals
          a.StartsAnew (({} : CounterAccumulator).play calls)
              (((b'.ledger.insertAll arrivals).foldAll measured.config.counters).counter direction metric) ↔
            (∃ restart, calls.head? = some (restart, none)) ∨
              a.baseline.isSome = true ∧ ∃ value, calls.head? = some (true, some value) ∧ value < last) :=
  bridges_iff measured_reachable measuredSnapshot_written measuredSnapshot_decodable
    (by with_unfolding_all decide) (by decide)
    measuredSnapshot_restores

/-- **A restored counter bridges the restore**: a reading of 25 after one of 10 is accounted as 15 bytes. -/
theorem restore_bridges : ¬ ∀ (config : EngineConfig) (clock : Timestamp) (ops : List Op) (fresh : Engine)
    (records : List Record) (previous : RuntimeEpoch) (flow : FlowId) (gen : GenerationId) (source : SourceId)
    (b b' : SourceBinding) (direction : Direction) (metric : Metric) (last : UInt64) (arrivals : List Observation),
    let start := ({ config := config, clock := clock } : Engine).openEngine
    let e := ops.foldl step start.1
    start.2 = .ok () → encodeState e.persistState e.config.limits = .ok records → fresh.config = e.config →
    fresh.flows = ∅ →
    (fresh.restoreLocked records previous).2 = .ok () → e.binding? flow gen source = some b →
    (fresh.restoreLocked records previous).1.binding? flow gen source = some b' →
    (b.ledger.foldedState.counter direction metric).last = some last →
    (∃ p ∈ b'.ledger.since e.config.counters arrivals, (p.2.reading direction metric).isSome = true) →
    (b.ledger.foldedState.counter direction metric).StartsAnew
      (({} : CounterAccumulator).play (b'.ledger.calledSince direction metric e.config.counters arrivals))
      (((b'.ledger.insertAll arrivals).foldAll e.config.counters).counter direction metric) := by
  intro h
  have hbridged : (measured.binding? sampleFlow ⟨1⟩ (sourceIdFromKey (str "a"))).any (fun b =>
      let l := (restoreSource measured.config.limits ⟨sampleFlow, ⟨1⟩⟩ (measured.persistSource b)).ledger
      let after := ((l.insertAll [bytesObservation 2 25]).foldAll measured.config.counters).counter .Forward .Bytes
      let own := ({} : CounterAccumulator).play
        (l.calledSince .Forward .Bytes measured.config.counters [bytesObservation 2 25])
      (b.ledger.foldedState.counter .Forward .Bytes).last == some 10 &&
        (l.since measured.config.counters [bytesObservation 2 25]).any
          (fun p => (p.2.reading .Forward .Bytes).isSome) &&
        after.accumulated.toNat != min (2 ^ 64 - 1)
          ((b.ledger.foldedState.counter .Forward .Bytes).accumulated.toNat + own.accumulated.toNat)) = true := by
    with_unfolding_all decide
  obtain ⟨b, hb, hat⟩ := (Option.any_eq_true _ _).1 hbridged
  simp only [Bool.and_eq_true, beq_iff_eq, bne_iff_ne, List.any_eq_true] at hat
  obtain ⟨⟨hlast, hread⟩, hsum⟩ := hat
  have hfresh : freshEngine.config = measured.config := by with_unfolding_all decide
  obtain ⟨b', hb', hledger⟩ := (restoreLocked_snapshot measuredSnapshot_written (by rw [hfresh])
    (by rw [hfresh]; exact measuredSnapshot_decodable) (by decide) measuredSnapshot_restores).ledger measured_reachable
      measuredSnapshot_decodable hb
  have hanew := h {} ⟨1000⟩ [.ingest (bytesObservation 1 10)] freshEngine measuredSnapshot ⟨1⟩ sampleFlow
    ⟨1⟩ _ b b' .Forward .Bytes
    10 [bytesObservation 2 25] (by decide) measuredSnapshot_written (by with_unfolding_all decide) (by decide)
    measuredSnapshot_restores hb hb' hlast (hledger ▸ hread)
  rw [hledger] at hanew
  exact hsum hanew.accumulated

end FlowObs.Engine
