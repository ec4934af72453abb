import FlowObs.Engine.Threads
import FlowObs.Lib.Waiters

/-!
# The loop of the workers

`start_workers_locked` and `stop_workers_locked` with the condition variable of the queue: the workers are consumers
in the sense of `Lib.Waiters` that take `max_ingest_batch` observations at a time, and `stop_workers_locked` stores
the flag and notifies without the mutex. What the workers do in between their waits are the sections of `Threads`
(`refines_workers`). An observation in the queue is not forgotten while a worker is there (`queued_served`), but a
worker can miss the flag, and then the join never returns (`join_returns_iff`).
-/

namespace FlowObs

open Run Waiters

/-- The loop of the workers: what is taken at a time, and a stop without the mutex. -/
def workerLoop (limits : Limits) : Protocol := { batch := limits.maxIngestBatch.toNat, synced := false }

/-- The workers as they are started beside a queue. -/
def startedWorkers (limits : Limits) (queue : List Observation) : State Observation :=
  { queue := queue, consumers := List.replicate limits.workerThreads.toNat .outside }

namespace Waiters.Phase

/-- A worker that has not left. -/
def isAlive (c : Phase Observation) : Bool := !c.isDone

end Waiters.Phase

/-- The workers at the engine that they serve. -/
structure ServedEngine where
  waits : State Observation
  engine : Engine

namespace ServedEngine

/-- A worker that has finished has applied its batch, under the lock of the engine. -/
def applied (s : ServedEngine) : Waiters.Event Observation → Engine
  | .finish i =>
    match s.waits.consumers[i]? with
    | some (.working batch) => if batch.isEmpty then s.engine else s.engine.applyBatch batch
    | _ => s.engine
  | _ => s.engine

/-- The state after an event: the queue of the engine is the one at which the workers wait. -/
def step (s : ServedEngine) (ev : Waiters.Event Observation) : ServedEngine :=
  let waits := s.waits.step (workerLoop s.engine.config.limits) ev
  { waits := waits, engine := { s.applied ev with queue := waits.queue } }

theorem waits_step (s : ServedEngine) (ev : Waiters.Event Observation) :
    (s.step ev).waits = s.waits.step (workerLoop s.engine.config.limits) ev := rfl

theorem engine_step (s : ServedEngine) (ev : Waiters.Event Observation) :
    (s.step ev).engine = { s.applied ev with queue := (s.step ev).waits.queue } := rfl

end ServedEngine

namespace Threads

/-- The workers of the threads are those of the loop that have not left, with their batches. -/
structure ShowsWaits (t : Threads) (w : State Observation) : Prop where
  queue : t.engine.queue = w.queue
  stop : t.stop = w.stop
  workers : t.workers = (w.consumers.filter Phase.isAlive).map Phase.items

/-- The threads show the loop, and the engine that its workers serve. -/
structure Shows (t : Threads) (s : ServedEngine) : Prop where
  engine : t.engine = s.engine
  waits : t.ShowsWaits s.waits

variable {α : Type}

/-- The place of an element among those that a filter keeps. -/
theorem filter_place {P : α → Bool} {l : List α} {i : Nat} {c : α} (hi : l[i]? = some c) (hc : P c = true) :
    ∃ k, (l.filter P)[k]? = some c ∧ ∀ d,
      (l.set i d).filter P = if P d then (l.filter P).set k d else (l.filter P).eraseIdx k := by
  induction l generalizing i with
  | nil => cases hi
  | cons a l ih =>
    cases i with
    | zero =>
      cases hi
      refine ⟨0, by rw [List.filter_cons_of_pos hc]; rfl, fun d => ?_⟩
      rw [List.set_cons_zero, List.filter_cons, List.filter_cons_of_pos hc]
      split <;> rfl
    | succ i =>
      obtain ⟨k, hk, hset⟩ := ih (i := i) hi
      cases ha : P a with
      | true =>
        refine ⟨k + 1, by rw [List.filter_cons_of_pos ha]; exact hk, fun d => ?_⟩
        rw [List.set_cons_succ, List.filter_cons_of_pos ha, List.filter_cons_of_pos ha, hset]
        split <;> rfl
      | false =>
        have hne : ¬ P a = true := by rw [ha]; exact Bool.false_ne_true
        refine ⟨k, by rw [List.filter_cons_of_neg hne]; exact hk, fun d => ?_⟩
        rw [List.set_cons_succ, List.filter_cons_of_neg hne, List.filter_cons_of_neg hne, hset]

variable {t : Threads} {w : State Observation} {s : ServedEngine}

/-- The place of a worker of the loop among the workers of the threads. -/
theorem worker_place (h : t.ShowsWaits w) {i : Nat} {c : Phase Observation} (hi : w.consumers[i]? = some c)
    (hc : c.isAlive = true) : ∃ k, t.workers[k]? = some c.items ∧ ∀ d : Phase Observation,
      ((w.consumers.set i d).filter Phase.isAlive).map Phase.items =
        if d.isAlive then t.workers.set k d.items else t.workers.eraseIdx k := by
  obtain ⟨k, hk, hset⟩ := filter_place hi hc
  refine ⟨k, by rw [h.workers, List.getElem?_map, hk]; rfl, fun d => ?_⟩
  rw [hset, h.workers]
  split
  · rw [List.map_set]
  · rw [List.eraseIdx_map]

/-- A worker that goes from one wait or test to another does nothing that the threads see. -/
theorem shows_setConsumer (h : t.ShowsWaits w) {i : Nat} {c d : Phase Observation} (hi : w.consumers[i]? = some c)
    (hc : c.isAlive = true) (hd : d.isAlive = true) (hitems : d.items = c.items) : t.ShowsWaits
      (w.setConsumer i d) := by
  obtain ⟨k, hk, hset⟩ := worker_place h hi hc
  refine ⟨h.queue, h.stop, ?_⟩
  rw [State.setConsumer, hset, if_pos hd, hitems]
  obtain ⟨hlt, heq⟩ := List.getElem?_eq_some_iff.1 hk
  rw [← heq, List.set_getElem_self]

/-- What the threads see of all the workers when some are woken. -/
theorem items_wake (l : List (Phase Observation)) :
    ((l.map Phase.wake).filter Phase.isAlive).map Phase.items = (l.filter Phase.isAlive).map Phase.items := by
  have halive : Phase.isAlive ∘ Phase.wake = Phase.isAlive := funext fun c => by cases c <;> rfl
  have hitems : (Phase.items (α := Observation)) ∘ Phase.wake = Phase.items := funext fun c => by cases c <;> rfl
  rw [List.filter_map, halive, List.map_map, hitems]

/-- A worker that is about to lock the mutex has no batch. -/
theorem ready_items {c : Phase Observation} (h : c.isReady = true) : c.isAlive = true ∧ c.items = [] := by
  cases c <;> first | exact ⟨rfl, rfl⟩ | cases h

theorem step_pop (t : Threads) {k : Nat} (hk : t.workers[k]? = some []) :
    t.step (.pop k) = { t with
      engine := (t.engine.takeQueued t.engine.config.limits.maxIngestBatch.toNat).1
      workers := t.workers.set k (t.engine.takeQueued t.engine.config.limits.maxIngestBatch.toNat).2 } := if_pos hk

theorem step_work (t : Threads) {k : Nat} {batch : List Observation} (hk : t.workers[k]? = some batch) :
    (t.step (.work k)).engine = (if batch.isEmpty then t.engine else t.engine.applyBatch batch) ∧
      (t.step (.work k)).stop = t.stop ∧ (t.step (.work k)).workers = t.workers.set k [] := by
  simp only [step, hk]
  cases batch with
  | nil =>
    obtain ⟨hlt, heq⟩ := List.getElem?_eq_some_iff.1 hk
    have hset : t.workers.set k [] = t.workers :=
      (congrArg (t.workers.set k) heq.symm).trans (List.set_getElem_self hlt)
    exact ⟨rfl, rfl, hset.symm⟩
  | cons obs batch => exact ⟨rfl, rfl, rfl⟩

/-- What a worker does, and what wakes it. -/
def ofWorkers : Waiters.Event Observation → Bool
  | .check _ | .park _ | .finish _ | .wake _ | .notify _ | .sync | .notifyAll => true
  | _ => false

/-- **Taking and waiting are sections of a worker, or nothing.** -/
theorem refines_waits (h : t.ShowsWaits w) {ev : Waiters.Event Observation} (hev : ofWorkers ev = true)
    (hfinish : ∀ i, ev ≠ .finish i) : ∃ evs,
      (Run.exec step t evs).ShowsWaits (w.step (workerLoop t.engine.config.limits) ev) ∧
      (Run.exec step t evs).engine = { t.engine with queue := (Run.exec step t evs).engine.queue } := by
  have hsteps := State.steps_step (workerLoop t.engine.config.limits) w ev
  generalize w.step (workerLoop t.engine.config.limits) ev = w' at hsteps
  have hsame : ∀ {w'}, t.ShowsWaits w' → ∃ evs, (Run.exec step t evs).ShowsWaits w' ∧
      (Run.exec step t evs).engine = { t.engine with queue := (Run.exec step t evs).engine.queue } :=
        fun h => ⟨[], h, rfl⟩
  cases hsteps with
  | stutter => exact hsame h
  | leaves i hi hfree hqueue hstop =>
    obtain ⟨c, hi, hc⟩ := hi
    obtain ⟨halive, hnone⟩ := ready_items hc
    obtain ⟨k, hk, hset⟩ := worker_place h hi halive
    rw [hnone] at hk
    have hleave : t.step (.leave k) = { t with workers := t.workers.eraseIdx k } :=
      if_pos ⟨hk, h.stop.trans hstop, h.queue.trans hqueue⟩
    refine ⟨[.leave k], ?_, by rw [Run.exec_cons, Run.exec_nil, hleave]⟩
    rw [Run.exec_cons, Run.exec_nil, hleave]
    exact ⟨h.queue, h.stop, (hset .done).symm⟩
  | tests i hi hfree hqueue hstop =>
    obtain ⟨c, hi, hc⟩ := hi
    obtain ⟨halive, hnone⟩ := ready_items hc
    exact hsame (shows_setConsumer h hi halive rfl hnone.symm)
  | takes i hi hfree hqueue =>
    obtain ⟨c, hi, hc⟩ := hi
    obtain ⟨halive, hnone⟩ := ready_items hc
    obtain ⟨k, hk, hset⟩ := worker_place h hi halive
    rw [hnone] at hk
    have hpop := t.step_pop hk
    refine ⟨[.pop k], ?_, by rw [Run.exec_cons, Run.exec_nil, hpop]; rfl⟩
    rw [Run.exec_cons, Run.exec_nil, hpop]
    refine ⟨congrArg (List.drop _) h.queue, h.stop, ?_⟩
    have hworkers := hset (.working (w.queue.take t.engine.config.limits.maxIngestBatch.toNat))
    rw [← h.queue] at hworkers ⊢
    exact hworkers.symm
  | parks i hi => exact hsame (shows_setConsumer h hi rfl rfl rfl)
  | finishes i items hi => exact absurd rfl (hfinish i)
  | wakes i hi => exact hsame (shows_setConsumer h hi rfl rfl rfl)
  | notifies i hi howed =>
    have hshows : t.ShowsWaits { w with owed := w.owed - 1 } := ⟨h.queue, h.stop, h.workers⟩
    exact hsame (shows_setConsumer hshows hi rfl rfl rfl)
  | unheard i hnone howed => exact hsame ⟨h.queue, h.stop, h.workers⟩
  | syncs hstop hfree => exact hsame ⟨h.queue, h.stop, h.workers⟩
  | notifiesAll hstop hsynced => exact hsame ⟨h.queue, h.stop, by rw [items_wake]; exact h.workers⟩
  | pushes | removes | stops => cases hev

/-- **The end of a batch is the section that applies it.** -/
theorem refines_finish (h : t.Shows s) (i : Nat) : ∃ evs, (Run.exec step t evs).Shows (s.step (.finish i)) := by
  have hnothing : s.waits.step (workerLoop s.engine.config.limits) (.finish i) = s.waits →
    s.applied (.finish i) = s.engine →
      t.Shows (s.step (.finish i)) := by
    intro hwaits hengine
    refine ⟨?_, by rw [ServedEngine.waits_step, hwaits]; exact h.waits⟩
    rw [ServedEngine.engine_step, ServedEngine.waits_step, hwaits, hengine, ← h.engine, ← h.waits.queue]
  cases hi : s.waits.consumers[i]? with
  | none =>
    refine ⟨[], hnothing ?_ ?_⟩
    · simp only [State.step, Waiters.Event.consumer, hi]
    · simp only [ServedEngine.applied, hi]
  | some c =>
    cases c with
    | working batch =>
      obtain ⟨k, hk, hset⟩ := worker_place h.waits hi rfl
      have hbatch : t.workers[k]? = some batch := hk
      obtain ⟨hengine, hstop, hworkers⟩ := t.step_work hbatch
      have hqueue : (t.step (.work k)).engine.queue = t.engine.queue := by
        rw [hengine]
        split
        · rfl
        · exact Engine.applyBatch_queue _ _
      have hwaits : s.waits.step (workerLoop s.engine.config.limits) (.finish i) = s.waits.setConsumer i .outside :=
        State.step_finish hi
      have hserved : s.applied (.finish i) = if batch.isEmpty then s.engine else s.engine.applyBatch batch := by
        simp only [ServedEngine.applied, hi]
      refine ⟨[.work k], ?_, ?_⟩
      · rw [ServedEngine.engine_step, ServedEngine.waits_step, hwaits, hserved, ← h.engine, Run.exec_cons, Run.exec_nil,
          ← hengine]
        rw [State.setConsumer, ← hqueue.trans h.waits.queue]
      · rw [ServedEngine.waits_step, hwaits, Run.exec_cons, Run.exec_nil]
        exact ⟨hqueue.trans h.waits.queue, hstop.trans h.waits.stop, hworkers.trans (hset .outside).symm⟩
    | _ =>
      refine ⟨[], hnothing ?_ ?_⟩
      · simp only [State.step, Waiters.Event.consumer, hi, State.stepConsumer]
      · simp only [ServedEngine.applied, hi]

/-- **A step of the workers is a section of the threads, or nothing.** -/
theorem refines_step (h : t.Shows s) {ev : Waiters.Event Observation} (hev : ofWorkers ev = true) :
    ∃ evs, (Run.exec step t evs).Shows (s.step ev) := by
  by_cases hfinish : ∃ i, ev = .finish i
  · obtain ⟨i, rfl⟩ := hfinish
    exact refines_finish h i
  · obtain ⟨evs, hwaits, hengine⟩ := refines_waits h.waits hev (fun i hi => hfinish ⟨i, hi⟩)
    have hserved : s.applied ev = s.engine := by
      cases ev <;> first | rfl | exact absurd ⟨_, rfl⟩ hfinish
    rw [h.engine] at hwaits hengine
    refine ⟨evs, ?_, hwaits⟩
    rw [hengine, hwaits.queue, ServedEngine.step, hserved]

/-- **The workers with their waits do nothing that the threads without them do not do**: what they take from the queue,
apply to the engine and leave behind is a run of the sections of `Threads`, with the same engine. -/
theorem refines_workers (h : t.Shows s) {evs : List (Waiters.Event Observation)}
    (hevs : ∀ ev ∈ evs, ofWorkers ev = true) :
    ∃ sections, (Run.exec step t sections).Shows (Run.exec ServedEngine.step s evs) := by
  induction evs generalizing t s with
  | nil => exact ⟨[], h⟩
  | cons ev evs ih =>
    obtain ⟨hev, hrest⟩ := List.forall_mem_cons.1 hevs
    obtain ⟨first, hstep⟩ := refines_step h hev
    obtain ⟨sections, hsections⟩ := ih hstep hrest
    refine ⟨first ++ sections, ?_⟩
    rw [Run.exec_append]
    exact hsections

/-- An engine with an observation in its queue. -/
def queuedFlow : Engine :=
  ({ clock := ⟨1000⟩ } : Engine).openEngine.1.step
    (.enqueue (sampleObservation (sourceIdFromKey (str "a")) .Open 1 ⟨900⟩))

/-- Of two workers the first takes what is queued and applies it while the second parks. -/
theorem refines_workers_two :
    let served : ServedEngine := { waits := { queue := queuedFlow.queue, consumers := [.outside, .outside] }, engine := queuedFlow }
    let evs : List (Waiters.Event Observation) := [.check 0, .check 1, .park 1, .finish 0]
    queuedFlow.queue.length = 1 ∧ queuedFlow.flows = ∅ ∧
      ((Run.exec ServedEngine.step served evs).engine.flows.find? sampleFlow).isSome = true ∧
      (Run.exec ServedEngine.step served evs).engine.queue = [] ∧
      ∃ sections : List Event, (Run.exec step { engine := queuedFlow, workers := [[], []] } sections).Shows
        (Run.exec ServedEngine.step served evs) := by
  intro served evs
  refine ⟨by decide, by decide, by with_unfolding_all decide, by decide, ?_⟩
  refine refines_workers (t := { engine := queuedFlow, workers := [[], []] }) ⟨rfl, rfl, rfl, rfl⟩ (fun ev hev => ?_)
  revert ev
  exact List.forall_mem_cons.2 ⟨rfl,
    List.forall_mem_cons.2 ⟨rfl, List.forall_mem_cons.2 ⟨rfl, List.forall_mem_singleton.2 rfl⟩⟩⟩

end Threads

/-- The workers of any run. -/
theorem told_workers (limits : Limits) (queue : List Observation) (evs : List (Waiters.Event Observation)) :
    (Run.exec (State.step (workerLoop limits)) (startedWorkers limits queue) evs).Told (workerLoop limits) :=
  State.told_exec (State.told_start _ queue _) evs

theorem batch_pos {limits : Limits} (h : limits.validate = .ok ()) : 0 < (workerLoop limits).batch := by
  have hpos : 0 < limits.maxIngestBatch := by
    simp only [Limits.validate, check, require_bind_ok, require_ok, decide_eq_true_eq] at h
    grind
  exact UInt64.lt_iff_toNat_lt.1 hpos

/-- **No observation in the queue is forgotten.** After any interleaving of producers, drains, workers and wake-ups
only so many steps are left to the workers and to the notifications that are owed, and when none is left the queue is
empty, unless all workers have been stopped. -/
theorem queued_served (limits : Limits) (h : limits.validate = .ok ()) (queue : List Observation)
    (evs evs' : List (Waiters.Event Observation))
    (hevs' : Run.Along (State.step (workerLoop limits))
      (fun s ev => ev.isInternal = true ∧ s.step (workerLoop limits) ev ≠ s)
      (Run.exec (State.step (workerLoop limits)) (startedWorkers limits queue) evs) evs') :
    evs'.length ≤ (Run.exec (State.step (workerLoop limits)) (startedWorkers limits queue) evs).measure ∧
    ((Run.exec (State.step (workerLoop limits)) (startedWorkers limits queue) (evs ++ evs')).Rest (workerLoop limits) →
      (Run.exec (State.step (workerLoop limits)) (startedWorkers limits queue) (evs ++ evs')).queue = [] ∨
      ∀ c ∈ (Run.exec (State.step (workerLoop limits)) (startedWorkers limits queue) (evs ++ evs')).consumers,
        c.isDone = true) :=
  ⟨State.length_le_measure (batch_pos h) hevs', State.rest_cases (told_workers limits queue _).served⟩

/-- Two workers are parked when two observations are queued: the one that is notified first takes both, the other finds
nothing, and both park again. -/
theorem queued_served_two :
    let limits : Limits := { workerThreads := 2 }
    let obs := sampleObservation (sourceIdFromKey (str "a")) .Open 1 ⟨900⟩
    let evs : List (Waiters.Event Observation) := [.check 0, .park 0, .check 1, .park 1, .push obs, .push obs]
    let evs' : List (Waiters.Event Observation) :=
      [.notify 0, .check 0, .notify 1, .finish 0, .check 1, .park 1, .check 0, .park 0]
    (Run.exec (State.step (workerLoop limits)) (startedWorkers limits []) evs).queue.length = 2 ∧
      evs'.length ≤ (Run.exec (State.step (workerLoop limits)) (startedWorkers limits []) evs).measure ∧
      (Run.exec (State.step (workerLoop limits)) (startedWorkers limits []) (evs ++ evs')).queue = [] := by
  intro limits obs evs evs'
  have hserved := queued_served limits (by decide) [] evs evs'
    ⟨⟨rfl, State.ne_of_measure (by decide)⟩, ⟨rfl, State.ne_of_measure (by decide)⟩,
      ⟨rfl, State.ne_of_measure (by decide)⟩,
      ⟨rfl, State.ne_of_measure (by decide)⟩, ⟨rfl, State.ne_of_measure (by decide)⟩,
      ⟨rfl, State.ne_of_measure (by decide)⟩,
      ⟨rfl, State.ne_of_measure (by decide)⟩, ⟨rfl, State.ne_of_measure (by decide)⟩, trivial⟩
  have hparked : (Run.exec (State.step (workerLoop limits)) (startedWorkers limits []) (evs ++ evs')).consumers.all
      Phase.isParked = true := by decide
  have htwo : (Run.exec (State.step (workerLoop limits)) (startedWorkers limits []) (evs ++ evs')).consumers.length =
      2 := by
    decide
  have howed : (Run.exec (State.step (workerLoop limits)) (startedWorkers limits []) (evs ++ evs')).owed =
      0 := by decide
  rw [List.all_eq_true] at hparked
  refine ⟨by decide, hserved.1,
    (hserved.2 (State.rest_of_asleep (fun c hc => .inl (hparked c hc)) howed)).resolve_right fun hdone => ?_⟩
  obtain ⟨c, hc⟩ := List.exists_mem_of_length_pos (Nat.lt_of_lt_of_eq Nat.two_pos htwo.symm)
  have hleft := hdone c hc
  have hasleep := hparked c hc
  cases c with
  | parked => cases hleft
  | _ => cases hasleep

/-- **`stop_workers` returns exactly when it does not catch a worker between its test and its wait.** Once the flag is
stored and all workers are notified, and they have no step left, all have ended, so that the join returns, if and only
if no worker had tested the flag and the queue and not yet begun to wait when it was notified. -/
theorem join_returns_iff (limits : Limits) {w : State Observation} (hstop : w.stop = true)
    {evs : List (Waiters.Event Observation)} (hevs : ∀ ev ∈ evs, ev.isConsumer = true)
    (hfinal : (Run.exec (State.step (workerLoop limits)) (w.step (workerLoop limits) .notifyAll) evs).Final
      (workerLoop limits)) :
    (∀ c ∈ (Run.exec (State.step (workerLoop limits)) (w.step (workerLoop limits) .notifyAll) evs).consumers,
      c.isDone = true) ↔ ∀ c ∈ w.consumers, c.isChecked = false :=
  State.all_done_iff hstop (fun h => absurd h Bool.false_ne_true) hevs hfinal

/-- One worker finds nothing, the flag is stored, all are notified, and the worker parks: it never ends. -/
theorem join_returns_iff_missed :
    ¬ ∀ c ∈ (Run.exec (State.step (workerLoop {})) (startedWorkers { workerThreads := 1 } [])
      [.check 0, .setStop, .notifyAll, .park 0]).consumers, c.isDone = true := by
  let w := Run.exec (State.step (workerLoop {})) (startedWorkers { workerThreads := 1 } []) [.check 0, .setStop]
  have hfinal : (Run.exec (State.step (workerLoop {})) (w.step (workerLoop {}) .notifyAll) [.park 0]).Final
      (workerLoop {}) := by
    refine State.final_of_asleep fun c hc => ?_
    rw [List.mem_singleton.1 (show c ∈ [Phase.parked] from hc)]
    exact .inl rfl
  have hiff := join_returns_iff {} (w := w) rfl (fun ev hev => by rw [List.mem_singleton.1 hev]; rfl) hfinal
  exact fun hdone => Bool.false_ne_true (hiff.1 hdone .checked List.mem_cons_self).symm

end FlowObs
