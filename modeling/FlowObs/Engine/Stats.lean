import FlowObs.Conflict
import FlowObs.Engine.Core

/-!
# Statistics

`stats` of `engine_api.cpp` and `EngineStats::describe` of `stats.cpp`. The operations keep their counters in the
engine; those that the reads move are beside it (`ReadCounters`), so that a read leaves the engine itself as it is.
Two texts that are equal tell the same of everything (`describe_inj`).
-/

namespace FlowObs

/-- The counters of `EngineCounters` that the reads move. -/
structure ReadCounters where
  queriesServed : UInt64 := 0
  exportsServed : UInt64 := 0
  explanationsServed : UInt64 := 0
  attributionsServed : UInt64 := 0
deriving DecidableEq, Repr, Inhabited

/-- `EngineStats`. -/
structure EngineStats where
  counters : EngineCounters := {}
  reads : ReadCounters := {}
  liveFlows : Nat := 0
  totalFlows : Nat := 0
  queueDepth : Nat := 0
  queueCapacity : Nat := 0
  journalFileBytes : Nat := 0
  journalOpen : Bool := false
  runtimeEpoch : RuntimeEpoch := default
deriving DecidableEq, Inhabited

namespace EngineStats

/-- The `line` lambda. -/
def line (key : Str) (value : Nat) : Str := key ++ 61 :: (decimal value ++ [10])

/-- The names and values of the lines before `journal_open`. Nothing moves the counters that are zero here. -/
def lines (s : EngineStats) : List (Str × Nat) :=
  [(str "observations_received", s.counters.observationsReceived.toNat),
    (str "observations_applied", s.counters.observationsApplied.toNat),
    (str "observations_refused", s.counters.observationsRefused.toNat),
    (str "observations_duplicate", s.counters.observationsDuplicate.toNat),
    (str "observations_conflicting", s.counters.observationsConflicting.toNat),
    (str "observations_dropped_queue_full", s.counters.observationsDroppedQueueFull.toNat),
    (str "observations_requeued", 0),
    (str "flows_created", s.counters.flowsCreated.toNat),
    (str "flows_evicted", s.counters.flowsEvicted.toNat),
    (str "flows_expired", s.counters.flowsExpired.toNat),
    (str "generations_created", s.counters.generationsCreated.toNat),
    (str "generations_evicted", s.counters.generationsEvicted.toNat),
    (str "transitions", s.counters.transitions.toNat),
    (str "anomalies_recorded", s.counters.anomaliesRecorded.toNat),
    (str "anomalies_dropped", 0),
    (str "identity_collisions", s.counters.identityCollisions.toNat),
    (str "queries_served", s.reads.queriesServed.toNat),
    (str "exports_served", s.reads.exportsServed.toNat),
    (str "explanations_served", s.reads.explanationsServed.toNat),
    (str "attributions_served", s.reads.attributionsServed.toNat),
    (str "ticks", s.counters.ticks.toNat),
    (str "journal_records_appended", s.counters.journalRecordsAppended.toNat),
    (str "journal_bytes_appended", s.counters.journalBytesAppended.toNat),
    (str "journal_compactions", s.counters.journalCompactions.toNat),
    (str "journal_failures", s.counters.journalFailures.toNat),
    (str "transport_frames_in", 0),
    (str "transport_frames_out", 0),
    (str "transport_frames_rejected", 0),
    (str "transport_connections", 0),
    (str "worker_batches", s.counters.workerBatches.toNat),
    (str "shutdowns", s.counters.shutdowns.toNat),
    (str "live_flows", s.liveFlows),
    (str "total_flows", s.totalFlows),
    (str "queue_depth", s.queueDepth),
    (str "queue_capacity", s.queueCapacity),
    (str "journal_file_bytes", s.journalFileBytes)]

/-- `EngineStats::describe`. -/
def describe (s : EngineStats) : Str :=
  s.lines.flatMap (fun p => line p.1 p.2) ++ str "journal_open=" ++
  (if s.journalOpen then str "true" else str "false") ++ [10]
    ++ line (str "runtime_epoch") s.runtimeEpoch.value.toNat

/-- The value of a line is read back from it, whatever follows. -/
theorem line_inj {key : Str} {m n : Nat} {s t : Str} (h : line key m ++ s = line key n ++ t) : m = n ∧ s = t := by
  have hnewline : ∀ rest : Str, ∀ c ∈ (10 :: rest).head?, ¬ (48 ≤ c ∧ c ≤ 57) := by
    intro rest c hc
    cases hc
    decide
  unfold line at h
  simp only [List.append_assoc, List.cons_append, List.nil_append] at h
  obtain ⟨hvalue, hrest⟩ := decimal_append_inj (hnewline s) (hnewline t) (List.cons.inj (List.append_cancel_left h)).2
  exact ⟨hvalue, (List.cons.inj hrest).2⟩

/-- So are the values of lines with the same keys. -/
theorem lines_inj {x y : Str} : ∀ {ps qs : List (Str × Nat)}, ps.map Prod.fst = qs.map Prod.fst →
    ps.flatMap (fun p => line p.1 p.2) ++ x = qs.flatMap (fun p => line p.1 p.2) ++ y → ps = qs ∧ x = y
  | [], [], _, h => ⟨rfl, h⟩
  | [], _ :: _, hkeys, _ => nomatch hkeys
  | _ :: _, [], hkeys, _ => nomatch hkeys
  | (key, m) :: ps, (key', n) :: qs, hkeys, h => by
    obtain ⟨hkey, hothers⟩ := List.cons.inj hkeys
    have hkey : key = key' := hkey
    subst hkey
    rw [List.flatMap_cons, List.flatMap_cons, List.append_assoc, List.append_assoc] at h
    obtain ⟨rfl, hrest⟩ := line_inj h
    obtain ⟨rfl, hxy⟩ := lines_inj hothers hrest
    exact ⟨rfl, hxy⟩

/-- **The text tells everything**: statistics of one text are the same. -/
theorem describe_inj {s t : EngineStats} (h : s.describe = t.describe) :
    s.lines = t.lines ∧ s.journalOpen = t.journalOpen ∧ s.runtimeEpoch = t.runtimeEpoch := by
  unfold describe at h
  simp only [List.append_assoc] at h
  have hkeys : s.lines.map Prod.fst = t.lines.map Prod.fst := rfl
  obtain ⟨hlines, hrest⟩ := lines_inj hkeys h
  have hrest := List.append_cancel_left hrest
  have hends : ∀ x y : Str, str "true" ++ x ≠ str "false" ++ y := by
    intro x y heq
    have htrue : (str "true").head? = some 116 := by with_unfolding_all decide
    have hfalse : (str "false").head? = some 102 := by with_unfolding_all decide
    have hhead := congrArg List.head? heq
    rw [List.head?_append, List.head?_append, htrue, hfalse] at hhead
    cases hhead
  have hepoch : s.journalOpen = t.journalOpen → s.runtimeEpoch = t.runtimeEpoch := by
    intro hopen
    rw [hopen] at hrest
    have hline : line (str "runtime_epoch") s.runtimeEpoch.value.toNat ++ [] =
        line (str "runtime_epoch") t.runtimeEpoch.value.toNat ++ [] := by
      rw [List.append_nil, List.append_nil]
      exact List.append_cancel_left (List.append_cancel_left hrest)
    exact NumericId.ext (UInt64.toNat_inj.1 (line_inj hline).1)
  cases hs : s.journalOpen <;> cases ht : t.journalOpen <;> rw [hs, ht] at hrest hepoch
  · exact ⟨hlines, rfl, hepoch rfl⟩
  · exact absurd hrest.symm (hends _ _)
  · exact absurd hrest (hends _ _)
  · exact ⟨hlines, rfl, hepoch rfl⟩

end EngineStats

/-- `stats`. -/
def Engine.stats (e : Engine) (reads : ReadCounters) : EngineStats where
  counters := e.counters
  reads := reads
  liveFlows := e.flows.toList.countP (·.state == .Active)
  totalFlows := e.flows.toList.length
  queueDepth := e.queue.length
  queueCapacity := e.config.limits.maxPendingObservations.toNat
  journalFileBytes := (e.journal.map (·.stats.fileSize)).getD 0
  journalOpen := e.journal.isSome
  runtimeEpoch := e.epoch

end FlowObs
