import FlowObs.Engine.Frozen
import Mathlib.Data.List.Perm.Basic

/-!
# Threads around the queue

Producers, workers, drains and closes interleave at the locks of the engine. `Threads` is the engine with what each
thread holds between two locks, `Threads.step` one section under a lock; the operations of the engine are their
sections one after the other (`enqueue_eq`, `drain_eq`, `close_eq`). What a step does to the whereabouts of the queued
observations is `count_step`; a run accounts for all of them exactly when no step gives any up (`accounted_iff`).
-/

namespace FlowObs

open Run

namespace Engine

/-! ## The sections of the operations -/

/-- The section of `enqueue` under the engine lock. -/
def admitQueued (e : Engine) (obs : Observation) : Except IngestOutcome Observation :=
  if !e.isOpen then .error (refusal .NotOpen (str "engine is not open"))
  else if e.frozen then .error (refusal .ShuttingDown (str "engine is frozen"))
  else .ok (e.prefill obs)

/-- The section of `enqueue` under the queue lock. -/
def pushQueued (e : Engine) (prepared : Observation) : Engine × IngestOutcome :=
  if e.config.limits.maxPendingObservations.toNat ≤ e.queue.length then
    (e.count fun c => { c with observationsDroppedQueueFull := c.observationsDroppedQueueFull + 1 },
      { disposition := .DroppedQueueFull, code := .LimitExceeded
        detail := str "ingest queue is full; the observation was refused, not discarded" })
  else ({ e with queue := e.queue ++ [prepared] }, { disposition := .Queued })

/-- The section of `drain` and of a worker under the queue lock: the engine and the batch. -/
def takeQueued (e : Engine) (maxObservations : Nat) : Engine × List Observation :=
  ({ e with queue := e.queue.drop maxObservations }, e.queue.take maxObservations)

/-- The section of `close` that marks the engine as closed. -/
def beginClose (e : Engine) : Option Engine :=
  if !e.isOpen && e.journal.isNone then none else some { e with isOpen := false }

/-- The section of `close` that closes the journal and clears what is in memory. -/
def endClose (e : Engine) : Engine :=
  { e with
    disk := match e.journal with
      | some j => some j.flush.1.close.1.file.bytes
      | none => e.disk
    journal := none
    flows := ∅, sources := ∅, registries := {}, queue := [] }.count fun c => { c with shutdowns := c.shutdowns + 1 }

theorem enqueue_eq (e : Engine) (obs : Observation) : e.enqueue obs = match e.admitQueued obs with
    | .error outcome => (e, outcome)
    | .ok prepared => e.pushQueued prepared := by
  unfold enqueue admitQueued pushQueued
  split
  · rfl
  · split <;> rfl

theorem drain_eq (e : Engine) (maxObservations : Nat) : e.drain maxObservations =
    let taken := e.takeQueued maxObservations
    if taken.2.isEmpty then (taken.1, .ok ())
    else if !taken.1.isOpen then (taken.1, .error ⟨.NotOpen, str "engine is not open"⟩)
    else (taken.1.applyBatch taken.2, .ok ()) := rfl

theorem close_eq (e : Engine) : e.close = (e.beginClose.map endClose).getD e := by
  unfold close beginClose
  split <;> rfl

/-! ## What leaves the queue alone -/

theorem restoreLocked_queue (e : Engine) (records : List Record) (previous : RuntimeEpoch) :
    (e.restoreLocked records previous).1.queue = e.queue :=
  restoreLocked_frame (·.queue) applyLocked_queue (fun _ _ _ _ _ _ _ _ => rfl) e records previous

theorem openEngine_queue (e : Engine) : e.openEngine.1.queue = e.queue :=
  openEngine_frame (·.queue) applyLocked_queue (fun _ _ _ _ _ _ _ _ => rfl) (fun _ _ _ _ _ _ _ _ _ => rfl) e

theorem compactLocked_queue (e : Engine) : e.compactLocked.1.queue = e.queue := by
  obtain ⟨_, _, _, he⟩ := sameTables_compactLocked e
  rw [he]

/-- The operations that take the queue lock. -/
def Call.usesQueue : Call → Bool
  | .op (.enqueue _) | .op (.drain _) | .op (.work _) => true
  | _ => false

/-- **The other operations leave the queue alone.** -/
theorem call_queue (e : Engine) (c : Call) (h : c.usesQueue = false) : (e.call c).queue = e.queue := by
  cases c with
  | loadSnapshot path existing =>
    simp only [call, loadSnapshot]
    split
    · rfl
    · split
      · rfl
      · exact restoreLocked_queue _ _ _
  | op op =>
    cases op with
    | ingest obs => exact ingest_queue e obs
    | submit obs =>
      simp only [call, step, submit]
      split
      · rfl
      · exact ingest_queue e _
    | enqueue obs => cases h
    | drain maxObservations => cases h
    | work batch => cases h
    | tick evaluatedAt =>
      simp only [call, step, tick]
      split
      · rfl
      · split <;> rfl
    | registerSource d =>
      have happend : (e.appendSource d).1.queue = e.queue := by
        obtain ⟨_, _, _, he⟩ := sameTables_appendSource e d
        rw [he]
      have hcases := registerSource_cases e d
      simp only [call, step]
      generalize e.registerSource d = result at hcases ⊢
      cases hcases with
      | unjournaled _ _ _ hj | fresh _ _ _ _ hj =>
        rw [hj] at happend
        exact happend
      | _ => rfl
    | retireSource id =>
      simp only [call, step, retireSource]
      split <;> rfl
    | compact => exact compactLocked_queue e
    | flush => rfl
    | freeze => rfl
    | advance clock => rfl

end Engine

/-! ## The threads -/

/-- The engine with what its threads hold between two sections: the observations that producers have had admitted, the
batches of the workers and of the drains, the calls of `stop_workers` that wait for the workers, and the closes that
have marked the engine, that wait for the workers and that have joined them. `queued` and `applied` record what has
been acknowledged as queued and what has been handed to `apply_locked` so far. -/
structure Threads where
  engine : Engine
  producers : List Observation := []
  workers : List (List Observation) := []
  drainers : List (List Observation) := []
  workersRunning : Bool := false
  stop : Bool := false
  stoppers : Nat := 0
  marked : Nat := 0
  joining : Nat := 0
  joined : Nat := 0
  queued : List Observation := []
  applied : List Observation := []

namespace Threads

/-- One section of a thread. Producers, workers and drains are named by their place among those under way. -/
inductive Event
  | enqueue (obs : Observation)
  | push (producer : Nat)
  | pop (worker : Nat)
  | work (worker : Nat)
  | leave (worker : Nat)
  | drain (maxObservations : Nat)
  | finish (drainer : Nat)
  | startWorkers
  | stopWorkers
  | joinWorkers
  | beginClose
  | stopClose
  | joinClose
  | endClose
  | openEngine
  | call (c : Engine.Call)

/-- `start_workers_locked`. -/
def startLocked (s : Threads) : Threads :=
  if s.workersRunning || s.engine.config.limits.workerThreads == 0 then s
  else { s with
    stop := false, workersRunning := true
    workers := s.workers ++ List.replicate s.engine.config.limits.workerThreads.toNat [] }

/-- The state after a section. A section whose turn has not come leaves the state as it is. -/
def step (s : Threads) : Event → Threads
  | .enqueue obs =>
    match s.engine.admitQueued obs with
    | .error _ => s
    | .ok prepared => { s with producers := s.producers ++ [prepared] }
  | .push i =>
    match s.producers[i]? with
    | none => s
    | some prepared =>
      { s with
        engine := (s.engine.pushQueued prepared).1
        producers := s.producers.eraseIdx i
        queued := if (s.engine.pushQueued prepared).2.disposition = .Queued then s.queued ++ [prepared] else s.queued }
  -- a worker that finds the queue empty takes nothing and waits on
  | .pop i =>
    let taken := s.engine.takeQueued s.engine.config.limits.maxIngestBatch.toNat
    if s.workers[i]? = some [] then { s with engine := taken.1, workers := s.workers.set i taken.2 } else s
  -- a worker applies its batch whether or not the engine is still open
  | .work i =>
    match s.workers[i]? with
    | none => s
    | some batch =>
      if batch.isEmpty then s
      else { s with
        engine := s.engine.applyBatch batch, workers := s.workers.set i [], applied := s.applied ++ batch }
  | .leave i =>
    if s.workers[i]? = some [] ∧ s.stop ∧ s.engine.queue = [] then { s with workers := s.workers.eraseIdx i } else s
  | .drain maxObservations =>
    let taken := s.engine.takeQueued maxObservations
    if taken.2.isEmpty then { s with engine := taken.1 }
    else { s with engine := taken.1, drainers := s.drainers ++ [taken.2] }
  | .finish i =>
    match s.drainers[i]? with
    | none => s
    | some batch =>
      if !s.engine.isOpen then { s with drainers := s.drainers.eraseIdx i }
      else { s with
        engine := s.engine.applyBatch batch, drainers := s.drainers.eraseIdx i, applied := s.applied ++ batch }
  | .startWorkers => if s.engine.isOpen then s.startLocked else s
  | .stopWorkers => if s.workersRunning then { s with stop := true, stoppers := s.stoppers + 1 } else s
  | .joinWorkers =>
    if 0 < s.stoppers ∧ s.workers = [] then { s with stoppers := s.stoppers - 1, workersRunning := false } else s
  | .beginClose =>
    match s.engine.beginClose with
    | none => s
    | some e => { s with engine := e, marked := s.marked + 1 }
  | .stopClose =>
    if 0 < s.marked then { s with stop := true, marked := s.marked - 1, joining := s.joining + 1 } else s
  | .joinClose =>
    if 0 < s.joining ∧ s.workers = [] then
      { s with workersRunning := false, joining := s.joining - 1, joined := s.joined + 1 }
    else s
  | .endClose => if 0 < s.joined then { s with engine := s.engine.endClose, joined := s.joined - 1 } else s
  | .openEngine =>
    match s.engine.openEngine with
    | (e, .error _) => { s with engine := e }
    | (e, .ok ()) => startLocked { s with engine := e }
  | .call c => if c.usesQueue then s else { s with engine := s.engine.call c }

/-! ## Where the observations are -/

/-- How often an observation is in the queue, in a batch of a worker or of a drain, or among those applied. -/
def located (s : Threads) (obs : Observation) : Nat :=
  s.engine.queue.count obs + s.workers.flatten.count obs + s.drainers.flatten.count obs + s.applied.count obs

/-- Every observation is in one of these places exactly as often as it has been acknowledged. -/
def Accounted (s : Threads) : Prop := ∀ obs, s.located obs = s.queued.count obs

/-- What a section gives up: the batch of a drain that finds the engine closed, and what is still in the queue when a
close clears it. -/
def lost (s : Threads) : Event → List Observation
  | .finish i => if s.engine.isOpen then [] else s.drainers[i]?.getD []
  | .endClose => if 0 < s.joined then s.engine.queue else []
  | _ => []

/-! ### Counting in a list of batches -/

theorem count_flatten_eraseIdx {batches : List (List Observation)} {i : Nat} {batch : List Observation}
    (h : batches[i]? = some batch) (obs : Observation) :
    (batches.eraseIdx i).flatten.count obs + batch.count obs = batches.flatten.count obs := by
  obtain ⟨hi, rfl⟩ := List.getElem?_eq_some_iff.1 h
  have hperm := (List.getElem_cons_eraseIdx_perm hi).flatten.count_eq obs
  rw [List.flatten_cons, List.count_append] at hperm
  omega

theorem count_flatten_set {batches : List (List Observation)} {i : Nat} {batch : List Observation}
    (h : batches[i]? = some batch) (batch' : List Observation) (obs : Observation) :
    (batches.set i batch').flatten.count obs + batch.count obs = batches.flatten.count obs + batch'.count obs := by
  have hi := (List.getElem?_eq_some_iff.1 h).1
  have hperm := (List.set_perm_cons_eraseIdx hi batch').flatten.count_eq obs
  have herase := count_flatten_eraseIdx h obs
  rw [List.flatten_cons, List.count_append] at hperm
  omega

theorem count_takeQueued (e : Engine) (n : Nat) (obs : Observation) :
    (e.takeQueued n).1.queue.count obs + (e.takeQueued n).2.count obs = e.queue.count obs := by
  have hsplit : (e.queue.take n ++ e.queue.drop n).count obs = e.queue.count obs := by
    rw [List.take_append_drop]
  rw [List.count_append] at hsplit
  simp only [Engine.takeQueued]
  omega

/-! ### What a section does -/

theorem startLocked_located (s : Threads) (obs : Observation) : s.startLocked.located obs = s.located obs := by
  unfold startLocked
  split
  · rfl
  · simp [located]

theorem startLocked_queued (s : Threads) : s.startLocked.queued = s.queued := by
  unfold startLocked
  split <;> rfl

/-- An observation that is pushed is in the queue exactly when it is acknowledged. -/
theorem count_pushQueued (e : Engine) (prepared obs : Observation) (queued : List Observation) :
    (e.pushQueued prepared).1.queue.count obs + queued.count obs = e.queue.count obs +
      (if (e.pushQueued prepared).2.disposition = .Queued then queued ++ [prepared] else queued).count obs := by
  unfold Engine.pushQueued
  split
  · simp [Engine.count]
  · simp [List.count_append]
    omega

/-- What a section adds to the acknowledged observations it puts into one of the places, and what leaves the places is
lost. -/
def Counts (s : Threads) (ev : Event) (obs : Observation) : Prop :=
  (s.step ev).queued.count obs + s.located obs = s.queued.count obs + (s.step ev).located obs + (s.lost ev).count obs

/-- A worker takes what leaves the queue. -/
theorem counts_pop (s : Threads) (i : Nat) (obs : Observation) : s.Counts (.pop i) obs := by
  unfold Counts step lost
  dsimp only
  split
  · rename_i hi
    have htake := count_takeQueued s.engine s.engine.config.limits.maxIngestBatch.toNat obs
    have hset := count_flatten_set hi (s.engine.takeQueued s.engine.config.limits.maxIngestBatch.toNat).2 obs
    simp only [located, List.count_nil] at hset ⊢
    omega
  · simp

/-- A batch that is applied has left its worker for good. -/
theorem counts_work (s : Threads) (i : Nat) (obs : Observation) : s.Counts (.work i) obs := by
  unfold Counts step lost
  dsimp only
  split
  · simp
  · rename_i batch hi
    split
    · simp
    · have hset := count_flatten_set hi [] obs
      simp only [located, List.count_nil, Engine.applyBatch_queue, List.count_append] at hset ⊢
      omega

/-- So does a drain, which keeps what it took until it has applied it. -/
theorem counts_drain (s : Threads) (n : Nat) (obs : Observation) : s.Counts (.drain n) obs := by
  have htake := count_takeQueued s.engine n obs
  unfold Counts step lost
  dsimp only
  split
  · rename_i hempty
    rw [List.isEmpty_iff.1 hempty, List.count_nil] at htake
    simp only [located, List.count_nil]
    omega
  · simp only [located, List.flatten_append, List.flatten_singleton, List.count_append, List.count_nil]
    omega

/-- A batch of a drain is applied, or lost when the engine is closed. -/
theorem counts_finish (s : Threads) (i : Nat) (obs : Observation) : s.Counts (.finish i) obs := by
  unfold Counts step lost
  dsimp only
  split
  · rename_i hi
    cases hopen : s.engine.isOpen <;> simp [hi]
  · rename_i batch hi
    have herase := count_flatten_eraseIdx hi obs
    cases hopen : s.engine.isOpen with
    | false =>
      simp only [hi, located, Option.getD_some, Bool.not_false, if_true, Bool.false_eq_true, if_false]
      omega
    | true =>
      simp only [located, Bool.not_true, Bool.false_eq_true, if_false, if_true, Engine.applyBatch_queue,
        List.count_append, List.count_nil]
      omega

/-- Opening keeps the queue, whether it succeeds or not. -/
theorem counts_openEngine (s : Threads) (obs : Observation) : s.Counts .openEngine obs := by
  have hqueue := Engine.openEngine_queue s.engine
  unfold Counts step lost
  dsimp only
  split
  · rename_i e err hr
    rw [hr] at hqueue
    have hcount : e.queue.count obs = s.engine.queue.count obs := by rw [← hqueue]
    simp only [located, hcount, List.count_nil]
    omega
  · rename_i e hr
    rw [hr] at hqueue
    have hcount : e.queue.count obs = s.engine.queue.count obs := by rw [← hqueue]
    rw [startLocked_located, startLocked_queued]
    simp only [located, hcount, List.count_nil]
    omega

/-- **Every section counts.** -/
theorem count_step (s : Threads) (ev : Event) (obs : Observation) :
    (s.step ev).queued.count obs + s.located obs =
      s.queued.count obs + (s.step ev).located obs + (s.lost ev).count obs := by
  show s.Counts ev obs
  cases ev with
  | enqueue o =>
    unfold Counts step lost
    dsimp only
    split <;> simp [located]
  | push i =>
    unfold Counts step lost
    dsimp only
    split
    · simp
    · rename_i prepared _
      have hcount := count_pushQueued s.engine prepared obs s.queued
      simp only [located, List.count_nil]
      omega
  | pop i => exact counts_pop s i obs
  | work i => exact counts_work s i obs
  | leave i =>
    unfold Counts step lost
    dsimp only
    split
    · rename_i h
      have herase := count_flatten_eraseIdx h.1 obs
      simp only [located, List.count_nil] at herase ⊢
      omega
    · simp
  | drain n => exact counts_drain s n obs
  | finish i => exact counts_finish s i obs
  | startWorkers =>
    unfold Counts step lost
    dsimp only
    split
    · simp [startLocked_located, startLocked_queued]
    · simp
  | stopWorkers =>
    unfold Counts step lost
    dsimp only
    split <;> simp [located]
  | joinWorkers =>
    unfold Counts step lost
    dsimp only
    split <;> simp [located]
  | beginClose =>
    simp only [Counts, step, lost, Engine.beginClose]
    split
    · simp
    · rename_i e he
      split at he
      · cases he
      · cases he
        simp [located]
  | stopClose =>
    unfold Counts step lost
    dsimp only
    split <;> simp [located]
  | joinClose =>
    unfold Counts step lost
    dsimp only
    split <;> simp [located]
  | endClose =>
    unfold Counts step lost
    dsimp only
    split
    · simp only [located, Engine.endClose, Engine.count, List.count_nil]
      omega
    · simp
  | openEngine => exact counts_openEngine s obs
  | call c =>
    unfold Counts step lost
    dsimp only
    split
    · simp
    · rename_i hc
      have hqueue := Engine.call_queue s.engine c (by simpa using hc)
      simp [located, hqueue]

/-- The dropped counter, which counts the observations that are refused at a full queue, does not count what is lost. -/
theorem lost_uncounted (s : Threads) (ev : Event) (h : s.lost ev ≠ []) :
    (s.step ev).engine.counters.observationsDroppedQueueFull = s.engine.counters.observationsDroppedQueueFull := by
  cases ev with
  | finish i =>
    simp only [lost] at h
    simp only [step]
    split
    · rfl
    · cases hopen : s.engine.isOpen with
      | false => rfl
      | true => exact absurd (if_pos hopen) h
  | endClose =>
    simp only [step]
    split <;> rfl
  | _ => exact absurd rfl h

/-! ## Runs -/

/-- The threads before anything has happened. What is in the queue counts as acknowledged. -/
def start (e : Engine) : Threads := { engine := e, queued := e.queue }

theorem accounted_start (e : Engine) : (start e).Accounted := fun obs => by simp [located, start]

/-- What is missing stays missing. -/
theorem missing_exec (obs : Observation) (n : Nat) (s : Threads) (evs : List Event)
    (h : s.located obs + n ≤ s.queued.count obs) :
    (Run.exec step s evs).located obs + n ≤ (Run.exec step s evs).queued.count obs := by
  refine Run.invariant (P := fun s : Threads => s.located obs + n ≤ s.queued.count obs) (fun s ev hs => ?_) evs h
  have hcount := count_step s ev obs
  omega

theorem accounted_exec (s : Threads) (evs : List Event) (h : s.Accounted) :
    (Run.exec step s evs).Accounted ↔ Run.Along step (fun s ev => s.lost ev = []) s evs := by
  induction evs generalizing s with
  | nil => simp [h, Along]
  | cons ev evs ih =>
    by_cases hlost : s.lost ev = []
    · have hstep : (s.step ev).Accounted := by
        intro obs
        have hcount := count_step s ev obs
        rw [hlost, List.count_nil, h obs] at hcount
        omega
      simp [Along, hlost, ih _ hstep]
    · -- an observation that is lost here is still missing at the end
      obtain ⟨obs, hobs⟩ := List.exists_mem_of_ne_nil _ hlost
      have hpos := List.count_pos_iff.2 hobs
      have hmissing : (s.step ev).located obs + 1 ≤ (s.step ev).queued.count obs := by
        have hcount := count_step s ev obs
        rw [h obs] at hcount
        omega
      have hend := missing_exec obs 1 (s.step ev) evs hmissing
      constructor
      · intro hacc
        have hobs := hacc obs
        rw [Run.exec_cons] at hobs
        omega
      · intro hal
        exact absurd hal.1 hlost

/-- **In every interleaving no observation is applied more often than it was acknowledged, and every acknowledged
observation is in the queue, in a batch or applied exactly if no drain came to a closed engine with its batch and no
close found the queue not empty.** -/
theorem accounted_iff (e : Engine) (evs : List Event) :
    (∀ obs, (Run.exec step (start e) evs).applied.count obs ≤ (Run.exec step (start e) evs).queued.count obs) ∧
    ((Run.exec step (start e) evs).Accounted ↔ Run.Along step (fun s ev => s.lost ev = []) (start e) evs) := by
  refine ⟨fun obs => ?_, accounted_exec _ evs (accounted_start e)⟩
  have hplaces := missing_exec obs 0 (start e) evs (accounted_start e obs).le
  have happlied : (Run.exec step (start e) evs).applied.count obs ≤ (Run.exec step (start e) evs).located obs := by
    simp only [located]
    omega
  omega

/-- **A drain that took an observation before a close loses it, and nothing counts it.** -/
theorem queued_can_vanish : ¬ ∀ (clock : Timestamp) (evs : List Event),
    (Run.exec step (start { clock := clock }) evs).engine.counters.observationsDroppedQueueFull = 0 →
      (Run.exec step (start { clock := clock }) evs).Accounted := by
  intro h
  let obs := sampleObservation (sourceIdFromKey (str "a")) .Open 1 ⟨900⟩
  let evs : List Event := [.openEngine, .enqueue obs, .push 0, .drain 1, .beginClose, .finish 0]
  have hdropped :
      (Run.exec step (start { clock := ⟨1000⟩ }) evs).engine.counters.observationsDroppedQueueFull = 0 := by
    decide
  have hlost := (accounted_exec _ evs (accounted_start _)).1 (h ⟨1000⟩ evs hdropped)
  have hfinish : ((Run.exec step (start { clock := ⟨1000⟩ }) (evs.take 5)).lost (.finish 0)).isEmpty = false := by
    decide
  have hend : Run.Along step (fun s ev => s.lost ev = []) (start { clock := ⟨1000⟩ }) (evs.take 5 ++ [.finish 0]) :=
    hlost
  rw [(along_append.1 hend).2.1] at hfinish
  cases hfinish

end Threads

end FlowObs
