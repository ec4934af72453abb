import FlowObs.LockOrder

/-!
# The locks of the engine

Which mutexes each operation of `engine_api.cpp` takes, in which order, on each of its ways through; and the loop of
the workers, which waits on the condition variable of the queue. Any number of threads run any of these in any
interleaving. Every way through follows the ranks (`follows_paths`), so what the audit sees is in order
(`guarded_step`), and nobody ever waits for a lock in a circle: when nothing moves, no lock is held (`no_deadlock`).
-/

namespace FlowObs

open Locks Run

/-- What an operation does about locks: it takes a guard, leaves its innermost one, waits on `queue_cv` or joins the
workers. -/
inductive LockAction
  | lock (rank : LockRank) (mode : Mode)
  | unlock
  | wait
  | join
deriving DecidableEq

namespace LockAction

/-- A section under `EngineSharedGuard`. -/
def sharedSection : List LockAction := [lock .Engine .shared, unlock]
/-- A section under `EngineMutexGuard`. -/
def exclusiveSection : List LockAction := [lock .Engine .exclusive, unlock]
/-- A section under `QueueGuard`. -/
def queueSection : List LockAction := [lock .Queue .exclusive, unlock]

end LockAction

open LockAction

/-- The operations of the engine that take locks. -/
inductive Operation
  | now | runtimeEpoch | isOpen | openEngine | close
  | registerSource | describeSource | listSources | retireSource
  | ingest | submit | enqueue | startWorkers | stopWorkers | queueDepth | drain
  | query | snapshot | history | explain | attributeFlow | attributeCurrent | exportData
  | tick | flush | compact | verifyJournal | saveSnapshot | loadSnapshot | stats | stateDigest

/-- The ways through an operation. -/
def Operation.paths : Operation → List (List LockAction)
  | now | runtimeEpoch | isOpen | describeSource | listSources | snapshot | history | explain | verifyJournal
  | saveSnapshot | stateDigest => [sharedSection]
  -- the arguments are checked before the lock is taken
  | query | attributeFlow | exportData => [[], sharedSection]
  | openEngine | registerSource | tick | loadSnapshot => [[], exclusiveSection]
  | retireSource | ingest | startWorkers | flush | compact => [exclusiveSection]
  | close =>
    [exclusiveSection,
      exclusiveSection ++ [join, lock .Engine .exclusive, lock .Queue .exclusive, unlock, unlock]]
  | submit => [sharedSection, sharedSection ++ exclusiveSection]
  | enqueue => [sharedSection, sharedSection ++ queueSection]
  | stopWorkers => [exclusiveSection, exclusiveSection ++ [join]]
  | queueDepth => [queueSection]
  | drain => [queueSection, queueSection ++ exclusiveSection]
  | attributeCurrent => [sharedSection, sharedSection ++ sharedSection]
  | stats => [[lock .Engine .shared, lock .Queue .exclusive, unlock, unlock]]

/-- One turn of the loop of a worker: it finds nothing to take, or applies what it took. -/
def workerPaths : List (List LockAction) :=
  [[lock .Queue .exclusive, wait, unlock], [lock .Queue .exclusive, wait, unlock] ++ exclusiveSection]

/-- Whether the actions, begun inside these guards, take locks above what is held, wait inside the queue guard alone,
join outside all guards and leave what they took. -/
def follows : List (LockRank × Mode) → List LockAction → Bool
  | guards, [] => guards.isEmpty
  | guards, .lock rank mode :: rest =>
    guards.all (fun g => decide (g.1.raw < rank.raw)) && follows ((rank, mode) :: guards) rest
  | guards, .unlock :: rest => !guards.isEmpty && follows guards.tail rest
  | guards, .wait :: rest => decide (guards = [(.Queue, .exclusive)]) && follows guards rest
  | guards, .join :: rest => guards.isEmpty && follows guards rest

/-- **Every way through every operation follows the ranks.** -/
theorem follows_paths (op : Operation) : ∀ path ∈ op.paths, follows [] path = true := by
  cases op <;> decide

theorem follows_workerPaths : ∀ path ∈ workerPaths, follows [] path = true ∧ LockAction.join ∉ path := by
  decide

/-! ## Threads -/

/-- A thread runs, is parked in the condition variable, or is woken and has to lock the queue again. -/
inductive LockStatus
  | running | parked | woken
deriving DecidableEq

/-- A thread with the guards it is in, the innermost first, and what it has still to do. -/
structure LockThread where
  guards : List (LockRank × Mode) := []
  todo : List LockAction := []
  status : LockStatus := .running
  worker : Bool := false
  exited : Bool := false

namespace LockThread

/-- What a thread really holds and waits for. A thread that waits on the condition variable is still in its queue
guard but does not hold the mutex. -/
def holder (t : LockThread) : Holder LockRank :=
  match t.status with
  | .running =>
    { held := t.guards
      wants := match t.todo with
        | .lock rank mode :: _ => some (rank, mode)
        | _ => none }
  | .parked => { held := t.guards.tail }
  | .woken => { held := t.guards.tail, wants := t.guards.head? }

/-- The thread after its next action. -/
def run (t : LockThread) : LockThread :=
  match t.status, t.todo with
  | .woken, _ => { t with status := .running }
  | .running, .lock rank mode :: rest => { t with guards := (rank, mode) :: t.guards, todo := rest }
  | .running, .unlock :: rest => { t with guards := t.guards.tail, todo := rest }
  | .running, _ :: rest => { t with todo := rest }
  | _, _ => t

/-- What the next action of a thread tells the audit. -/
def guardEvent (i : Nat) (t : LockThread) : Option GuardEvent :=
  match t.status, t.todo with
  | .running, .lock rank _ :: _ => some (.take i rank)
  | .running, .unlock :: _ => some (.leave i)
  | _, _ => none

/-- What holds of a thread in every run. -/
structure Fits (t : LockThread) : Prop where
  follows : follows t.guards t.todo = true
  waiting : t.status ≠ .running → t.todo.head? = some .wait
  working : t.worker = true → LockAction.join ∉ t.todo

end LockThread

/-- The threads and the audit. -/
structure Locking where
  threads : List LockThread := []
  audits : Audits := {}

namespace Locking

/-- A thread is started, begins an operation on one of its ways or a turn of the worker's loop, ends that loop, or
takes its next action; a worker at its wait finds nothing and parks, or is woken. -/
inductive Event
  | spawn (worker : Bool)
  | call (i : Nat) (op : Operation) (path : Nat)
  | turn (i : Nat) (path : Nat)
  | exit (i : Nat)
  | run (i : Nat)
  | park (i : Nat)
  | wake (i : Nat)

def holders (s : Locking) : List (Holder LockRank) := s.threads.map LockThread.holder

/-- The next action of a thread is not blocked. -/
def canRun (s : Locking) (t : LockThread) : Bool :=
  match t.status, t.todo with
  | .parked, _ => false
  | .woken, _ => t.guards.head?.any fun w => grantable s.holders w.1 w.2
  | .running, [] => false
  | .running, .lock rank mode :: _ => grantable s.holders rank mode
  | .running, .join :: _ => s.threads.all fun u => !u.worker || u.exited
  | .running, _ :: _ => true

/-- The guards of all threads, as the audit is told of them. -/
def guarded (s : Locking) : Guarded :=
  { audits := s.audits, guards := fun i => (s.threads[i]?.map fun t => t.guards.map Prod.fst).getD [] }

/-- What a step does to one thread. An event whose turn has not come leaves the thread as it is. -/
def stepThread (s : Locking) (t : LockThread) : Event → LockThread
  | .spawn _ => t
  | .call _ op path => if t.todo = [] ∧ t.worker = false then { t with todo := op.paths.getD path [] } else t
  | .turn _ path =>
    if t.todo = [] ∧ t.worker = true ∧ t.exited = false then { t with todo := workerPaths.getD path [] } else t
  | .exit _ => if t.todo = [] ∧ t.worker = true then { t with exited := true } else t
  | .run _ => if s.canRun t then t.run else t
  | .park _ => if t.status = .running ∧ t.todo.head? = some .wait then { t with status := .parked } else t
  | .wake _ => if t.status = .parked then { t with status := .woken } else t

/-- What the audit is told of a step. -/
def told (s : Locking) (t : LockThread) : Event → Option GuardEvent
  | .run i => if s.canRun t then t.guardEvent i else none
  | _ => none

/-- The thread of an event. -/
def Event.thread : Event → Option Nat
  | .spawn _ => none
  | .call i _ _ | .turn i _ | .exit i | .run i | .park i | .wake i => some i

def step (s : Locking) (ev : Event) : Locking :=
  match ev.thread with
  | none => { s with threads := s.threads ++ [{ worker := match ev with | .spawn worker => worker | _ => false }] }
  | some i =>
    match s.threads[i]? with
    | none => s
    | some t =>
      { threads := s.threads.set i (s.stepThread t ev)
        audits := match s.told t ev with
          | some g => (s.guarded.step g).audits
          | none => s.audits }

/-! ### What a step preserves -/

variable {s : Locking}

theorem fits_run {t : LockThread} (h : t.Fits) : t.run.Fits := by
  obtain ⟨hfollows, hwaiting, hworking⟩ := h
  obtain ⟨guards, todo, status, worker, exited⟩ := t
  cases status with
  | parked => cases todo <;> exact ⟨hfollows, hwaiting, hworking⟩
  | woken => exact ⟨hfollows, fun hne => absurd rfl hne, hworking⟩
  | running =>
    cases todo with
    | nil => exact ⟨hfollows, hwaiting, hworking⟩
    | cons action rest =>
      have hrest : worker = true → LockAction.join ∉ rest := fun hw hmem => hworking hw (List.mem_cons_of_mem _ hmem)
      cases action with
      | lock rank mode =>
        rw [follows, Bool.and_eq_true] at hfollows
        exact ⟨hfollows.2, fun hne => absurd rfl hne, hrest⟩
      | unlock =>
        rw [follows, Bool.and_eq_true] at hfollows
        exact ⟨hfollows.2, fun hne => absurd rfl hne, hrest⟩
      | wait =>
        rw [follows, Bool.and_eq_true] at hfollows
        exact ⟨hfollows.2, fun hne => absurd rfl hne, hrest⟩
      | join =>
        rw [follows, Bool.and_eq_true] at hfollows
        exact ⟨hfollows.2, fun hne => absurd rfl hne, hrest⟩

/-- A thread that begins one of some ways that follow the ranks. -/
theorem getD_paths {P : List LockAction → Prop} {paths : List (List LockAction)} (h : ∀ path ∈ paths, P path)
    (hnil : P []) (n : Nat) : P (paths.getD n []) := by
  rw [List.getD_eq_getElem?_getD]
  cases hn : paths[n]? with
  | none => exact hnil
  | some path => exact h path (List.mem_of_getElem? hn)

theorem fits_idle {t : LockThread} (h : t.Fits) (hidle : t.todo = []) : t.guards = [] ∧ t.status = .running := by
  obtain ⟨hfollows, hwaiting, -⟩ := h
  rw [hidle] at hfollows hwaiting
  refine ⟨List.isEmpty_iff.1 hfollows, ?_⟩
  by_contra hne
  cases hwaiting hne

/-- A thread that waits on the condition variable is in the queue guard alone. -/
theorem waiting_cases {t : LockThread} (h : t.Fits) (hne : t.status ≠ .running) :
    t.guards = [(.Queue, .exclusive)] ∧ ∃ rest, t.todo = .wait :: rest := by
  obtain ⟨hfollows, hwaiting, -⟩ := h
  obtain ⟨rest, htodo⟩ := List.head?_eq_some_iff.1 (hwaiting hne)
  rw [htodo, follows, Bool.and_eq_true, decide_eq_true_eq] at hfollows
  exact ⟨hfollows.1, rest, htodo⟩

theorem fits_stepThread {t : LockThread} (h : t.Fits) (ev : Event) : (s.stepThread t ev).Fits := by
  unfold stepThread
  cases ev with
  | spawn worker => exact h
  | call i op path =>
    simp only
    split
    · rename_i hc
      obtain ⟨hguards, hstatus⟩ := fits_idle h hc.1
      refine ⟨?_, fun hne => absurd hstatus hne, fun hw => ?_⟩
      · rw [hguards]
        exact getD_paths (P := fun path => follows [] path = true) (follows_paths op) rfl path
      · rw [hc.2] at hw
        cases hw
    · exact h
  | turn i path =>
    simp only
    split
    · rename_i hc
      obtain ⟨hguards, hstatus⟩ := fits_idle h hc.1
      have hpath := getD_paths (P := fun path => follows [] path = true ∧ LockAction.join ∉ path) follows_workerPaths
        ⟨rfl, List.not_mem_nil⟩ path
      refine ⟨?_, fun hne => absurd hstatus hne, fun _ => hpath.2⟩
      rw [hguards]
      exact hpath.1
    · exact h
  | exit i =>
    simp only
    split
    · exact ⟨h.follows, h.waiting, h.working⟩
    · exact h
  | run i =>
    simp only
    split
    · exact fits_run h
    · exact h
  | park i =>
    simp only
    split
    · rename_i hc
      exact ⟨h.follows, fun _ => hc.2, h.working⟩
    · exact h
  | wake i =>
    simp only
    split
    · rename_i hc
      exact ⟨h.follows, fun _ => h.waiting (by rw [hc]; decide), h.working⟩
    · exact h

/-- What holds of all threads in every run. -/
def Fits (s : Locking) : Prop := ∀ t ∈ s.threads, t.Fits

theorem fits_step (h : s.Fits) (ev : Event) : (s.step ev).Fits := by
  unfold step
  split
  · intro t ht
    rcases List.mem_append.1 ht with ht | ht
    · exact h t ht
    · rw [List.mem_singleton.1 ht]
      exact ⟨rfl, fun hne => absurd rfl hne, fun _ => List.not_mem_nil⟩
  · split
    · exact h
    · rename_i i _ t hi
      intro u hu
      rcases List.mem_or_eq_of_mem_set hu with hu | rfl
      · exact h u hu
      · exact fits_stepThread (h t (List.mem_of_getElem? hi)) ev

/-! ### What the audit is told -/

theorem guards_set {i : Nat} {t u : LockThread} (hi : s.threads[i]? = some t) :
    (fun j => (((s.threads.set i u)[j]?).map fun t => t.guards.map Prod.fst).getD []) =
      Function.update s.guarded.guards i (u.guards.map Prod.fst) := by
  funext j
  have hlt := (List.getElem?_eq_some_iff.1 hi).1
  rcases eq_or_ne j i with rfl | hne
  · simp [hlt]
  · rw [Function.update_of_ne hne, List.getElem?_set_ne (Ne.symm hne)]
    rfl

theorem guarded_guards {i : Nat} {t : LockThread} (hi : s.threads[i]? = some t) :
    s.guarded.guards i = t.guards.map Prod.fst := by
  simp [guarded, hi]

/-- The guards of a thread that takes no guard and leaves none. -/
theorem guards_stepThread {t : LockThread} {ev : Event} (hnone : s.told t ev = none) :
    (s.stepThread t ev).guards = t.guards := by
  unfold stepThread
  cases ev with
  | run i =>
    simp only [told] at hnone ⊢
    split
    · rename_i hc
      rw [if_pos hc] at hnone
      obtain ⟨guards, todo, status, worker, exited⟩ := t
      cases status with
      | running =>
        cases todo with
        | nil => rfl
        | cons action rest => cases action <;> first | rfl | cases hnone
      | _ => rfl
    · rfl
  | _ =>
    simp only
    try split <;> rfl

/-- **What the audit is told of a step is in order, and is what happens to the guards.** -/
theorem guarded_step (h : s.Fits) (ev : Event) :
    (s.step ev).guarded = s.guarded ∨ ∃ g, s.guarded.InOrder g ∧ (s.step ev).guarded = s.guarded.step g := by
  unfold step
  split
  · left
    simp only [guarded]
    congr 1
    funext j
    rcases Nat.lt_trichotomy j s.threads.length with hj | rfl | hj
    · rw [List.getElem?_append_left hj]
    · simp
    · rw [List.getElem?_eq_none (by rw [List.length_append, List.length_singleton]; omega),
        List.getElem?_eq_none (by omega)]
  · rename_i i hev
    split
    · exact .inl rfl
    · rename_i t hi
      have hlt := (List.getElem?_eq_some_iff.1 hi).1
      have hguards := guarded_guards hi
      have hset := fun u => guards_set (u := u) hi
      cases htold : s.told t ev with
      | none =>
        left
        simp only [guarded, hset, guards_stepThread htold, ← hguards, Function.update_eq_self]
      | some g =>
        right
        refine ⟨g, ?_⟩
        cases ev with
        | run j =>
          cases hev
          simp only [told] at htold
          split at htold
          · rename_i hc
            have hfollows := (h t (List.mem_of_getElem? hi)).follows
            simp only [guarded, hset, stepThread, if_pos hc]
            obtain ⟨guards, todo, status, worker, exited⟩ := t
            cases status with
            | parked => cases todo <;> cases htold
            | woken => cases todo <;> cases htold
            | running =>
              cases todo with
              | nil => cases htold
              | cons action rest =>
                cases action with
                | wait => cases htold
                | join => cases htold
                | lock rank mode =>
                  cases htold
                  rw [follows, Bool.and_eq_true, List.all_eq_true] at hfollows
                  refine ⟨fun q hq => ?_, ?_⟩
                  · have hmem : q ∈ guards.map Prod.fst := hguards ▸ hq
                    obtain ⟨g, hg, rfl⟩ := List.mem_map.1 hmem
                    exact of_decide_eq_true (hfollows.1 g hg)
                  · simp [Guarded.step, LockThread.run, hi]
                | unlock =>
                  cases htold
                  refine ⟨trivial, ?_⟩
                  cases guards with
                  | nil => simp [follows] at hfollows
                  | cons g outer => simp [Guarded.step, LockThread.run, hi]
          · cases htold
        | _ => cases htold

/-! ### Who can go on -/

/-- A thread that can go on: its next action is not blocked, or it is a worker between two turns. -/
def canMove (s : Locking) (t : LockThread) : Bool := s.canRun t || (t.worker && !t.exited && t.todo.isEmpty)

/-- A thread that has nothing to do, a worker parked in the condition variable, or a thread that waits for such a
worker to end. -/
def AtRest (s : Locking) (t : LockThread) : Prop :=
  (t.todo = [] ∧ (t.worker = true → t.exited = true)) ∨ t.status = .parked ∨
    (t.todo.head? = some .join ∧ ∃ u ∈ s.threads, u.worker = true ∧ u.exited = false ∧ u.status = .parked)

theorem ordered_holder {t : LockThread} (h : t.Fits) : t.holder.Ordered LockRank.raw := by
  have hfollows := h.follows
  have hwaits := waiting_cases h
  obtain ⟨guards, todo, status, worker, exited⟩ := t
  intro w hw g hg
  cases status with
  | running =>
    cases todo with
    | nil => cases hw
    | cons action rest =>
      cases action with
      | lock rank mode =>
        cases hw
        rw [follows, Bool.and_eq_true, List.all_eq_true] at hfollows
        exact of_decide_eq_true (hfollows.1 g hg)
      | _ => cases hw
  | parked => cases hw
  | woken =>
    obtain ⟨rfl, -⟩ := hwaits (by simp)
    cases hg

/-- A thread that is not blocked as far as locks go can run its next action. -/
theorem canRun_of_unblocked {t : LockThread} (h : t.Fits) (hu : t.holder.Unblocked s.holders) : s.canRun t = true := by
  have hfollows := h.follows
  have hwaits := waiting_cases h
  obtain ⟨guards, todo, status, worker, exited⟩ := t
  cases status with
  | running =>
    cases todo with
    | nil =>
      rcases hu with ⟨-, hheld⟩ | ⟨w, hw, -⟩
      · exact absurd (List.isEmpty_iff.1 hfollows) hheld
      · cases hw
    | cons action rest =>
      cases action with
      | lock rank mode =>
        rcases hu with ⟨hw, -⟩ | ⟨w, hw, hgrant⟩
        · cases hw
        · cases hw
          exact hgrant
      | unlock => rfl
      | wait => rfl
      | join =>
        rcases hu with ⟨-, hheld⟩ | ⟨w, hw, -⟩
        · rw [follows, Bool.and_eq_true] at hfollows
          exact absurd (List.isEmpty_iff.1 hfollows.1) hheld
        · cases hw
  | parked =>
    obtain ⟨rfl, -⟩ := hwaits (by simp)
    rcases hu with ⟨-, hheld⟩ | ⟨w, hw, -⟩
    · exact absurd rfl hheld
    · cases hw
  | woken =>
    obtain ⟨rfl, -⟩ := hwaits (by simp)
    rcases hu with ⟨hw, -⟩ | ⟨w, hw, hgrant⟩
    · cases hw
    · cases hw
      exact hgrant

/-- Where nothing can move no thread waits for a lock. -/
theorem wants_of_stuck (h : s.Fits) (hstuck : ∀ t ∈ s.threads, s.canMove t = false) :
    ∀ t ∈ s.threads, t.holder.wants = none := by
  intro t ht
  by_contra hw
  have hord : ∀ u ∈ s.holders, u.Ordered LockRank.raw := by
    intro u hu
    obtain ⟨v, hv, rfl⟩ := List.mem_map.1 hu
    exact ordered_holder (h v hv)
  obtain ⟨u, hu, hunblocked⟩ := exists_unblocked hord (List.mem_map_of_mem ht) hw
  obtain ⟨v, hv, rfl⟩ := List.mem_map.1 hu
  have hmove := hstuck v hv
  rw [canMove, canRun_of_unblocked (h v hv) hunblocked] at hmove
  cases hmove

/-- What a thread is at where nothing can move: nothing, its wait, or a join. -/
theorem stuck_cases (h : s.Fits) (hstuck : ∀ t ∈ s.threads, s.canMove t = false) {t : LockThread} (ht : t ∈ s.threads) :
    t.holder.held = [] ∧ ((t.todo = [] ∧ (t.worker = true → t.exited = true)) ∨ t.status = .parked ∨
      (t.status = .running ∧ t.todo.head? = some .join ∧ s.canRun t = false)) := by
  have hwants := wants_of_stuck h hstuck t ht
  have hmove := hstuck t ht
  have hfollows := (h t ht).follows
  have hwaits := waiting_cases (h t ht)
  rw [canMove, Bool.or_eq_false_iff] at hmove
  obtain ⟨hrun, hidle⟩ := hmove
  obtain ⟨guards, todo, status, worker, exited⟩ := t
  cases status with
  | running =>
    cases todo with
    | nil =>
      refine ⟨List.isEmpty_iff.1 hfollows, .inl ⟨rfl, fun hw => ?_⟩⟩
      cases hw
      simpa using hidle
    | cons action rest =>
      cases action with
      | lock rank mode => cases hwants
      | unlock => cases hrun
      | wait => cases hrun
      | join =>
        rw [follows, Bool.and_eq_true] at hfollows
        exact ⟨List.isEmpty_iff.1 hfollows.1, .inr (.inr ⟨rfl, rfl, hrun⟩)⟩
  | parked =>
    obtain ⟨rfl, -⟩ := hwaits (by simp)
    exact ⟨rfl, .inr (.inl rfl)⟩
  | woken =>
    obtain ⟨rfl, -⟩ := hwaits (by simp)
    cases hwants

theorem atRest_of_stuck (h : s.Fits) (hstuck : ∀ t ∈ s.threads, s.canMove t = false) {t : LockThread}
    (ht : t ∈ s.threads) : t.holder.held = [] ∧ s.AtRest t := by
  obtain ⟨hheld, hcases⟩ := stuck_cases h hstuck ht
  refine ⟨hheld, ?_⟩
  rcases hcases with hidle | hparked | ⟨hrunning, hjoin, hrun⟩
  · exact .inl hidle
  · exact .inr (.inl hparked)
  · -- the worker that has not ended is parked, since it neither joins nor can move
    refine .inr (.inr ⟨hjoin, ?_⟩)
    obtain ⟨guards, todo, status, worker, exited⟩ := t
    cases hrunning
    cases todo with
    | nil => cases hjoin
    | cons action rest =>
      cases hjoin
      obtain ⟨u, hu, hworks⟩ := List.all_eq_false.1 hrun
      rw [Bool.not_eq_true, Bool.or_eq_false_iff, Bool.not_eq_false'] at hworks
      refine ⟨u, hu, hworks.1, hworks.2, ?_⟩
      rcases (stuck_cases h hstuck hu).2 with hidle | hparked | ⟨-, hjoins, -⟩
      · rw [hidle.2 hworks.1] at hworks
        cases hworks.2
      · exact hparked
      · exact absurd (List.mem_of_mem_head? hjoins) ((h u hu).working hworks.1)

/-! ### Runs -/

/-- What holds in every run. -/
structure Sound (s : Locking) : Prop where
  fits : s.Fits
  tracked : s.guarded.Tracked
  exact : s.guarded.Exact
  clean : s.audits.violations = 0

theorem sound_step (h : s.Sound) (ev : Event) : (s.step ev).Sound := by
  have hviolations : (s.step ev).audits.violations = (s.step ev).guarded.audits.violations := rfl
  rcases guarded_step h.fits ev with heq | ⟨g, hin, heq⟩
  · exact ⟨fits_step h.fits ev, heq ▸ h.tracked, heq ▸ h.exact, hviolations.trans (heq ▸ h.clean)⟩
  · have hr : s.guarded.rejects g = false :=
      Bool.eq_false_iff.2 fun hr => Guarded.not_inOrder_of_rejects h.tracked hr hin
    refine ⟨fits_step h.fits ev, heq ▸ Guarded.tracked_step h.tracked g,
      heq ▸ Guarded.exact_step h.tracked h.exact hr, ?_⟩
    rw [hviolations, heq, Guarded.violations_step h.tracked, hr, if_neg Bool.false_ne_true]
    exact h.clean

theorem sound_exec (evs : List Event) : (Run.exec step {} evs).Sound := by
  refine Run.invariant (P := Sound) (fun _ ev h => sound_step h ev) evs ⟨fun _ h => ?_, ?_, ?_, rfl⟩
  · exact absurd h List.not_mem_nil
  · exact ⟨rfl, fun _ => LockAudit.recorded_default, fun _ => List.nil_sublist _⟩
  · exact fun _ => rfl

/-- **The operations of the engine never deadlock.** In every interleaving of any number of threads and workers the
audit counts nothing, and a thread can go on unless no lock is held at all and every thread is done, parked in the
condition variable of the queue, or waits for a worker that is. -/
theorem no_deadlock (evs : List Event) :
    (Run.exec step {} evs).audits.violations = 0 ∧
    ((∃ t ∈ (Run.exec step {} evs).threads, (Run.exec step {} evs).canMove t = true) ∨
      ∀ t ∈ (Run.exec step {} evs).threads, t.holder.held = [] ∧ (Run.exec step {} evs).AtRest t) := by
  have hsound := sound_exec evs
  refine ⟨hsound.clean, ?_⟩
  by_cases hmove : ∃ t ∈ (Run.exec step {} evs).threads, (Run.exec step {} evs).canMove t = true
  · exact .inl hmove
  · exact .inr fun t ht => atRest_of_stuck hsound.fits (fun u hu => Bool.eq_false_iff.2 fun h => hmove ⟨u, hu, h⟩) ht

end Locking

end FlowObs
