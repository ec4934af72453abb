import FlowObs.Lib.Waiters
import Mathlib.Data.List.Perm.Basic
import Mathlib.Data.List.Nodup

/-!
# The connections of the server

`serve`, `handler_loop`, `handle_connection` and `Server::stop` as far as they deal with sockets: accepted connections
wait in `pending` until a handler takes them into `active`, from which they are erased when they are done. The
handlers are consumers in the sense of `Lib.Waiters` that take one connection at a time; `stop` takes the mutex
between the flag and the notification, so that every handler ends (`stop_ends_handlers`). A handler closes its socket
before it erases it, so the system can hand out the same descriptor in between. As long as that does not happen
`active` lists exactly what is being served (`registry_exact`); once it does a connection can be served without being
listed (`registry_misses`). `serve` tests the flag before it takes the mutex, so that one connection may come in
behind `stop`; `stop` reaches all others (`stop_reaches`).
-/

namespace FlowObs

open Waiters

/-- A socket descriptor. -/
abbrev Socket := Nat

/-- The loop of the handlers. -/
def handlerLoop : Protocol := { batch := 1, synced := true }

/-- The server: its handlers with `pending` as their queue, the connections in `active`, the descriptors that are
open, the connection that `serve` has accepted and not yet handed on, and the handlers that have closed their socket
but not erased it. -/
structure Pool where
  maxConnections : Nat
  handlers : State Socket := {}
  active : List Socket := []
  opened : List Socket := []
  arrived : Option Socket := none
  closing : List Nat := []

namespace Pool

/-- `accept` returns a descriptor, which is handed on or refused; a handler tests, parks, closes its socket or erases
it; handlers are woken; the server is stopped. -/
inductive Event
  | accept (socket : Socket)
  | handOn
  | check (i : Nat)
  | park (i : Nat)
  | wake (i : Nat)
  | notify (i : Nat)
  | closeSocket (i : Nat)
  | finish (i : Nat)
  | setStop
  | sync
  | notifyAll

/-- The connections that are being served. -/
def serving (s : Pool) : List Socket := s.handlers.consumers.flatMap Phase.items

/-- What a handler takes. -/
def taken (h : State Socket) (i : Nat) : List Socket :=
  match h.consumers[i]? with
  | some c => if c.isReady && h.free then h.queue.take 1 else []
  | none => []

/-- The state after an event. An event whose turn has not come leaves the state as it is. -/
def step (s : Pool) : Event → Pool
  -- `accept` returns a descriptor that is not open; the flag is tested before the mutex is taken
  | .accept socket =>
    if s.arrived.isSome ∨ socket ∈ s.opened ∨ s.handlers.stop then s
    else { s with arrived := some socket, opened := socket :: s.opened }
  | .handOn =>
    match s.arrived with
    | none => s
    | some socket =>
      if s.handlers.free then
        if s.maxConnections ≤ s.handlers.queue.length + s.active.length then
          { s with arrived := none, opened := s.opened.filter (· ≠ socket) }
        else { s with arrived := none, handlers := s.handlers.step handlerLoop (.push socket) }
      else s
  | .check i =>
    { s with handlers := s.handlers.step handlerLoop (.check i), active := s.active ++ taken s.handlers i }
  | .park i => { s with handlers := s.handlers.step handlerLoop (.park i) }
  | .wake i => { s with handlers := s.handlers.step handlerLoop (.wake i) }
  | .notify i => { s with handlers := s.handlers.step handlerLoop (.notify i) }
  | .closeSocket i =>
    match s.handlers.consumers[i]? with
    | some (.working sockets) =>
      if i ∈ s.closing then s
      else { s with opened := s.opened.filter (· ∉ sockets), closing := i :: s.closing }
    | _ => s
  | .finish i =>
    match s.handlers.consumers[i]? with
    | some (.working sockets) =>
      if i ∈ s.closing ∧ s.handlers.free then
        { s with
          handlers := s.handlers.step handlerLoop (.finish i)
          active := s.active.filter (· ∉ sockets)
          closing := s.closing.erase i }
      else s
    | _ => s
  | .setStop => { s with handlers := s.handlers.step handlerLoop .setStop }
  -- the connections in `active` are shut down, those in `pending` are closed
  | .sync =>
    if s.handlers.stop && s.handlers.free then
      { s with
        handlers := (s.handlers.step handlerLoop .sync).step handlerLoop (.remove s.handlers.queue.length)
        opened := s.opened.filter (· ∉ s.handlers.queue) }
    else s
  | .notifyAll => { s with handlers := s.handlers.step handlerLoop .notifyAll }

/-- The server as it is started. -/
def start (maxConnections : Nat) : Pool :=
  { maxConnections := maxConnections, handlers := { consumers := List.replicate maxConnections .outside } }

variable {s : Pool}

/-! ### The loop of the handlers -/

/-- What happens to the handlers is a run of their loop. -/
theorem handlers_step (s : Pool) (ev : Event) :
    ∃ evs, (s.step ev).handlers = Run.exec (State.step handlerLoop) s.handlers evs := by
  cases ev with
  | accept socket =>
    simp only [step]
    split <;> exact ⟨[], rfl⟩
  | handOn =>
    simp only [step]
    split
    · exact ⟨[], rfl⟩
    · rename_i socket _
      split
      · split
        · exact ⟨[], rfl⟩
        · exact ⟨[.push socket], rfl⟩
      · exact ⟨[], rfl⟩
  | check i => exact ⟨[.check i], rfl⟩
  | park i => exact ⟨[.park i], rfl⟩
  | wake i => exact ⟨[.wake i], rfl⟩
  | notify i => exact ⟨[.notify i], rfl⟩
  | closeSocket i =>
    refine ⟨[], ?_⟩
    simp only [step]
    split
    · split <;> rfl
    · rfl
  | finish i =>
    simp only [step]
    split
    · split
      · exact ⟨[.finish i], rfl⟩
      · exact ⟨[], rfl⟩
    · exact ⟨[], rfl⟩
  | setStop => exact ⟨[.setStop], rfl⟩
  | sync =>
    simp only [step]
    split
    · exact ⟨[.sync, .remove s.handlers.queue.length], rfl⟩
    · exact ⟨[], rfl⟩
  | notifyAll => exact ⟨[.notifyAll], rfl⟩

theorem told_exec (maxConnections : Nat) (evs : List Event) :
    (Run.exec step (start maxConnections) evs).handlers.Told handlerLoop := by
  refine Run.invariant (P := fun s : Pool => s.handlers.Told handlerLoop) (fun s ev h => ?_) evs
    (State.told_start _ _ _)
  obtain ⟨evs, heq⟩ := handlers_step s ev
  rw [heq]
  exact State.told_exec h evs

/-- **A stopped server ends all its handlers.** Whatever connections come and go in whatever interleaving, once `stop`
has notified the handlers and they have no step left all have ended, so that `join` returns. -/
theorem stop_ends_handlers (maxConnections : Nat) (evs : List Event)
    (hnotified : (Run.exec step (start maxConnections) evs).handlers.notified = true)
    (hfinal : (Run.exec step (start maxConnections) evs).handlers.Final handlerLoop) :
    ∀ c ∈ (Run.exec step (start maxConnections) evs).handlers.consumers, c.isDone = true := by
  have htold := told_exec maxConnections evs
  intro c hc
  refine (State.final_cases hfinal hc).resolve_left fun hparked => ?_
  exact Bool.false_ne_true (((htold.awake rfl hnotified).2 c hc).symm.trans hparked)

/-- Of two handlers one serves a connection and the other is parked when the server is stopped: both end. -/
theorem stop_ends_handlers_two :
    let before : List Event := [.accept 7, .handOn, .check 0, .check 1, .park 1]
    let after : List Event := [.setStop, .sync, .notifyAll, .check 1, .closeSocket 0, .finish 0, .check 0]
    (Run.exec step (start 2) before).serving = [7] ∧
      ((Run.exec step (start 2) before).handlers.consumers.map Phase.isParked) = [false, true] ∧
      ∀ c ∈ (Run.exec step (start 2) (before ++ after)).handlers.consumers, c.isDone = true := by
  intro before after
  refine ⟨by decide, by decide, stop_ends_handlers 2 (before ++
    after) (by decide) (State.final_of_asleep fun c hc => .inr ?_)⟩
  have hall : (Run.exec step (start 2) (before ++ after)).handlers.consumers.all Phase.isDone = true := by decide
  exact List.all_eq_true.1 hall c hc

/-! ### The connections -/

/-- What the handlers have taken when one of them is in another phase. -/
theorem serving_set {l : List (Phase Socket)} {i : Nat} {c : Phase Socket} (hi : l[i]? = some c) (d : Phase Socket) :
    (d.items ++ l.flatMap Phase.items).Perm (c.items ++ (l.set i d).flatMap Phase.items) := by
  obtain ⟨hlt, rfl⟩ := List.getElem?_eq_some_iff.1 hi
  have hold : (l.flatMap Phase.items).Perm (l[i].items ++ (l.eraseIdx i).flatMap Phase.items) := by
    have hperm := (List.getElem_cons_eraseIdx_perm hlt).flatMap_right Phase.items
    rw [List.flatMap_cons] at hperm
    exact hperm.symm
  have hnew : ((l.set i d).flatMap Phase.items).Perm (d.items ++ (l.eraseIdx i).flatMap Phase.items) := by
    have hperm := (List.set_perm_cons_eraseIdx hlt d).flatMap_right Phase.items
    rwa [List.flatMap_cons] at hperm
  refine (hold.append_left d.items).trans (.trans ?_ (hnew.symm.append_left _))
  exact List.perm_append_comm_assoc _ _ _

/-- A handler that is in another phase has taken as much as before. -/
theorem serving_setConsumer {h : State Socket} {i : Nat} {c d : Phase Socket} (hi : h.consumers[i]? = some c)
    (hc : c.items = []) (hd : d.items = []) :
    ((h.setConsumer i d).consumers.flatMap Phase.items).Perm (h.consumers.flatMap Phase.items) := by
  have hset := serving_set hi d
  rw [hc, hd, List.nil_append, List.nil_append] at hset
  exact hset.symm

/-- **What the queue and the handlers have after a step of the loop** that is neither a test nor the end of a
connection. -/
theorem serving_step (h : State Socket) {ev : Waiters.Event Socket} (hcheck : ∀ i, ev ≠ .check i)
    (hfinish : ∀ i, ev ≠ .finish i) :
    ((h.step handlerLoop ev).consumers.flatMap Phase.items).Perm (h.consumers.flatMap Phase.items) := by
  have hsteps := State.steps_step handlerLoop h ev
  generalize h.step handlerLoop ev = h' at hsteps
  cases hsteps with
  | stutter | unheard | pushes | removes | stops | syncs => exact .rfl
  | leaves i | tests i | takes i => exact absurd rfl (hcheck i)
  | finishes i => exact absurd rfl (hfinish i)
  | parks i hi => exact serving_setConsumer hi rfl rfl
  | wakes i hi => exact serving_setConsumer hi rfl rfl
  | notifies i hi howed => exact serving_setConsumer (h := { h with owed := h.owed - 1 }) hi rfl rfl
  | notifiesAll hstop hsynced =>
    have hwake : (Phase.items (α := Socket)) ∘ Phase.wake = Phase.items := funext fun c => by cases c <;> rfl
    rw [List.flatMap_map]
    exact .of_eq (congrArg (fun f => h.consumers.flatMap f) hwake)

/-- The queue after a step of the loop that neither takes, pushes nor removes. -/
theorem queue_step (h : State Socket) {ev : Waiters.Event Socket} (hcheck : ∀ i, ev ≠ .check i)
    (hpush : ∀ socket, ev ≠ .push socket) (hremove : ∀ n, ev ≠ .remove n) :
    (h.step handlerLoop ev).queue = h.queue := by
  have hsteps := State.steps_step handlerLoop h ev
  generalize h.step handlerLoop ev = h' at hsteps
  cases hsteps with
  | leaves i | tests i | takes i => exact absurd rfl (hcheck i)
  | pushes socket => exact absurd rfl (hpush socket)
  | removes n => exact absurd rfl (hremove n)
  | _ => rfl

/-- **What a handler takes leaves the queue and is being served.** -/
theorem check_taken (h : State Socket) (i : Nat) :
    taken h i ++ (h.step handlerLoop (.check i)).queue = h.queue ∧
    ((h.step handlerLoop (.check i)).consumers.flatMap Phase.items).Perm
      (h.consumers.flatMap Phase.items ++ taken h i) := by
  by_cases hturn : ∃ c, h.consumers[i]? = some c ∧ (c.isReady && h.free) = true
  · obtain ⟨c, hi, hready⟩ := hturn
    obtain ⟨hc, hfree⟩ := Bool.and_eq_true_iff.1 hready
    have hnone : c.items = [] := by cases c <;> first | rfl | cases hc
    have htaken : taken h i = h.queue.take 1 := by rw [taken, hi]; exact if_pos hready
    rw [State.step_check hi hc hfree, htaken, State.check]
    cases hqueue : h.queue with
    | nil =>
      have hset := serving_setConsumer (h := h) (d := if h.stop then .done else .checked) hi hnone (by split <;> rfl)
      exact ⟨hqueue, hset.trans (.of_eq (List.append_nil _).symm)⟩
    | cons socket rest =>
      have hset := serving_set hi (.working [socket])
      rw [hnone, List.nil_append] at hset
      exact ⟨rfl, hset.symm.trans List.perm_append_comm⟩
  · have hno : ∀ c, h.consumers[i]? = some c → (c.isReady && h.free) = false :=
      fun c hi => Bool.eq_false_iff.2 fun hready => hturn ⟨c, hi, hready⟩
    have htaken : taken h i = [] := by
      unfold taken
      split
      · rename_i c hi
        rw [hno c hi, if_neg Bool.false_ne_true]
      · rfl
    rw [State.step_check_of_not hno, htaken, List.append_nil]
    exact ⟨rfl, .rfl⟩

/-- `active` lists what is being served, nothing is listed twice, what is pending is open, and so is what has arrived,
which is not listed yet. -/
structure Exact (s : Pool) : Prop where
  active : s.active.Perm s.serving
  nodup : (s.handlers.queue ++ s.active).Nodup
  opened : ∀ socket ∈ s.handlers.queue, socket ∈ s.opened
  bounded : s.handlers.queue.length + s.active.length ≤ s.maxConnections
  arrived : ∀ socket, s.arrived = some socket → socket ∈ s.opened ∧ socket ∉ s.handlers.queue ++ s.active

/-- The descriptor of a new connection is not listed any more. -/
def Fresh (s : Pool) : Event → Prop
  | .accept socket => socket ∉ s.active
  | _ => True

theorem push_eq {h : State Socket} (hfree : h.free = true) (socket : Socket) :
    h.step handlerLoop (.push socket) = { h with queue := h.queue ++ [socket], owed := h.owed + 1 } := if_pos hfree

theorem sync_eq {h : State Socket} (hstop : h.stop = true) (hfree : h.free = true) :
    (h.step handlerLoop .sync).step handlerLoop (.remove h.queue.length) = { h with queue := [], synced := true } := by
  have hsync : h.step handlerLoop .sync = { h with synced := true } := if_pos (by rw [hstop, hfree]; rfl)
  have hremove : ({ h with synced := true } : State Socket).step handlerLoop (.remove h.queue.length) =
      { h with queue := h.queue.drop h.queue.length, synced := true } := if_pos hfree
  rw [hsync, hremove, List.drop_length]

/-- A step of the loop that moves no connection keeps everything exact. -/
theorem Exact.of_handlers (h : s.Exact) {ev : Waiters.Event Socket} (hcheck : ∀ i, ev ≠ .check i)
    (hfinish : ∀ i, ev ≠ .finish i) (hpush : ∀ socket, ev ≠ .push socket) (hremove : ∀ n, ev ≠ .remove n) :
    Exact { s with handlers := s.handlers.step handlerLoop ev } := by
  have hqueue := queue_step s.handlers hcheck hpush hremove
  have hserving := serving_step s.handlers hcheck hfinish
  exact ⟨h.active.trans hserving.symm, hqueue ▸ h.nodup, hqueue ▸ h.opened, hqueue ▸ h.bounded, hqueue ▸ h.arrived⟩

/-- A connection that is accepted is new. -/
theorem exact_accept (h : s.Exact) {socket : Socket} (hfresh : s.Fresh (.accept socket)) :
    (s.step (.accept socket)).Exact := by
  simp only [step]
  split
  · exact h
  · rename_i hcond
    obtain ⟨-, hcond⟩ := not_or.1 hcond
    obtain ⟨hclosed, -⟩ := not_or.1 hcond
    refine ⟨h.active, h.nodup, fun other hother => List.mem_cons_of_mem _ (h.opened _ hother), h.bounded,
      fun other hother => ?_⟩
    obtain rfl := Option.some.inj hother
    exact ⟨List.mem_cons_self, fun hmem => (List.mem_append.1 hmem).elim (fun hq => hclosed (h.opened _ hq)) hfresh⟩

/-- What has arrived is queued where there is room, and closed where there is none. -/
theorem exact_handOn (h : s.Exact) : (s.step .handOn).Exact := by
  simp only [step]
  split
  · exact h
  · rename_i socket harrived
    obtain ⟨hopened, hnew⟩ := h.arrived socket harrived
    split
    · rename_i hfree
      split
      · refine ⟨h.active, h.nodup, fun other hother => List.mem_filter.2 ⟨h.opened other hother, ?_⟩, h.bounded,
          fun _ hno => by cases hno⟩
        refine decide_eq_true fun heq => hnew ?_
        exact List.mem_append_left _ (heq ▸ hother)
      · rename_i hroom
        rw [push_eq hfree]
        refine ⟨h.active, ?_, fun other hother => ?_, ?_, fun _ hno => by cases hno⟩
        · rw [List.append_assoc, List.singleton_append]
          exact List.nodup_middle.2 (List.nodup_cons.2 ⟨hnew, h.nodup⟩)
        · rcases List.mem_append.1 hother with hother | hother
          · exact h.opened _ hother
          · rw [List.mem_singleton.1 hother]
            exact hopened
        · show (s.handlers.queue ++ [socket]).length + s.active.length ≤ s.maxConnections
          rw [List.length_append, List.length_singleton]
          omega
    · exact h

/-- A handler takes what it serves from the front of the queue. -/
theorem exact_check (h : s.Exact) (i : Nat) : (s.step (.check i)).Exact := by
  obtain ⟨hqueue, hserving⟩ := check_taken s.handlers i
  have hperm : (s.handlers.queue ++ s.active).Perm
      ((s.handlers.step handlerLoop (.check i)).queue ++ (s.active ++ taken s.handlers i)) := by
    rw [← hqueue, List.append_assoc]
    refine (List.perm_append_comm_assoc _ _ _).trans (.append_left _ List.perm_append_comm)
  refine ⟨?_, hperm.nodup_iff.1 h.nodup, fun socket hsocket => h.opened socket ?_, ?_, fun socket harrived => ?_⟩
  · exact (h.active.append_right _).trans hserving.symm
  · rw [← hqueue]
    exact List.mem_append_right _ hsocket
  · have hlength := hperm.length_eq
    rw [List.length_append, List.length_append] at hlength
    exact hlength ▸ h.bounded
  · obtain ⟨hopened, hnew⟩ := h.arrived socket harrived
    exact ⟨hopened, fun hmem => hnew (hperm.mem_iff.2 hmem)⟩

/-- What is closed is being served, so it is neither pending nor arrived. -/
theorem exact_closeSocket (h : s.Exact) (i : Nat) : (s.step (.closeSocket i)).Exact := by
  simp only [step]
  split
  · rename_i sockets hi
    split
    · exact h
    · -- what is closed is being served, so it is neither pending nor arrived
      have hlisted : ∀ socket ∈ sockets, socket ∈ s.active := fun socket hmem =>
        h.active.mem_iff.2 (List.mem_flatMap.2 ⟨_, List.mem_of_getElem? hi, hmem⟩)
      refine ⟨h.active, h.nodup, fun socket hsocket => ?_, h.bounded, fun socket harrived => ?_⟩
      · refine List.mem_filter.2 ⟨h.opened socket hsocket, decide_eq_true fun hmem => ?_⟩
        exact List.disjoint_of_nodup_append h.nodup hsocket (hlisted socket hmem)
      · obtain ⟨hopened, hnew⟩ := h.arrived socket harrived
        refine ⟨List.mem_filter.2 ⟨hopened, decide_eq_true fun hmem => ?_⟩, hnew⟩
        exact hnew (List.mem_append_right _ (hlisted socket hmem))
  · exact h

/-- What a handler has served is not active any more. -/
theorem exact_finish (h : s.Exact) (i : Nat) : (s.step (.finish i)).Exact := by
  simp only [step]
  split
  · rename_i sockets hi
    split
    · have hset := serving_set hi .outside
      have hstep := State.step_finish (p := handlerLoop) hi
      have hqueue : (s.handlers.step handlerLoop (.finish i)).queue = s.handlers.queue := by rw [hstep]; rfl
      have hactive : s.active.Perm (sockets ++
          (s.handlers.step handlerLoop (.finish i)).consumers.flatMap Phase.items) := by
        rw [hstep]
        exact h.active.trans hset
      have hnodup := hactive.nodup_iff.1 (List.nodup_append.1 h.nodup).2.1
      have hsub : (s.active.filter (· ∉ sockets)).Sublist s.active := List.filter_sublist
      refine ⟨?_, ?_, ?_, ?_, fun socket harrived => ?_⟩
      · refine (hactive.filter _).trans (.of_eq ?_)
        rw [List.filter_append, List.filter_eq_nil_iff.2 fun x hx => by simpa using hx, List.nil_append]
        refine List.filter_eq_self.2 fun x hx => decide_eq_true fun hmem => ?_
        exact List.disjoint_of_nodup_append hnodup hmem hx
      · rw [hqueue]
        exact h.nodup.sublist (hsub.append_left _)
      · rw [hqueue]
        exact h.opened
      · have hlength := hsub.length_le
        have hbounded := h.bounded
        show (s.handlers.step handlerLoop (.finish i)).queue.length + (s.active.filter (· ∉ sockets)).length ≤
          s.maxConnections
        rw [hqueue]
        omega
      · obtain ⟨hopened, hnew⟩ := h.arrived socket harrived
        refine ⟨hopened, fun hmem => hnew ?_⟩
        rw [hqueue] at hmem
        exact (hsub.append_left _).subset hmem
    · exact h
  · exact h

/-- `stop` closes what is pending. -/
theorem exact_sync (h : s.Exact) : (s.step .sync).Exact := by
  simp only [step]
  split
  · rename_i hcond
    obtain ⟨hstop, hfree⟩ := Bool.and_eq_true_iff.1 hcond
    rw [sync_eq hstop hfree]
    refine ⟨h.active, (List.nodup_append.1 h.nodup).2.1, fun _ hmem => absurd hmem List.not_mem_nil, ?_,
      fun socket harrived => ?_⟩
    · have hbounded := h.bounded
      show 0 + s.active.length ≤ s.maxConnections
      omega
    · obtain ⟨hopened, hnew⟩ := h.arrived socket harrived
      refine ⟨List.mem_filter.2 ⟨hopened, decide_eq_true fun hmem => hnew (List.mem_append_left _ hmem)⟩,
        fun hmem => ?_⟩
      exact hnew (List.mem_append_right _ hmem)
  · exact h

/-- **A step keeps the list of what is being served exact**, unless it accepts a descriptor that is still listed. -/
theorem exact_step (h : s.Exact) (ev : Event) (hfresh : s.Fresh ev) : (s.step ev).Exact := by
  cases ev with
  | accept socket => exact exact_accept h hfresh
  | handOn => exact exact_handOn h
  | check i => exact exact_check h i
  | park i => exact h.of_handlers (by simp) (by simp) (by simp) (by simp)
  | wake i => exact h.of_handlers (by simp) (by simp) (by simp) (by simp)
  | notify i => exact h.of_handlers (by simp) (by simp) (by simp) (by simp)
  | setStop => exact h.of_handlers (by simp) (by simp) (by simp) (by simp)
  | notifyAll => exact h.of_handlers (by simp) (by simp) (by simp) (by simp)
  | closeSocket i => exact exact_closeSocket h i
  | finish i => exact exact_finish h i
  | sync => exact exact_sync h

theorem exact_start (maxConnections : Nat) : (start maxConnections).Exact := by
  have hserving : (start maxConnections).serving = [] :=
    List.flatMap_eq_nil_iff.2 fun c hc => by rw [List.eq_of_mem_replicate hc]; rfl
  exact ⟨.of_eq hserving.symm, .nil, fun _ hmem => absurd hmem List.not_mem_nil, Nat.zero_le _,
    fun _ hno => by cases hno⟩

/-- **The server knows exactly the connections that are being served**, each once and none of them pending, and there
are never more than `max_connections` of both together, as long as no descriptor is accepted that is closed but still
listed. -/
theorem registry_exact (maxConnections : Nat) (evs : List Event)
    (hfresh : Run.Along step Fresh (start maxConnections) evs) : (Run.exec step (start maxConnections) evs).Exact :=
  Run.Along.invariant (P := Exact) (fun _ ev h hf => exact_step h ev hf) (exact_start maxConnections) hfresh

/-- Two connections, the second with a new descriptor. -/
theorem registry_exact_two : (Run.exec step (start 2)
    [.accept 7, .handOn, .accept 8, .handOn, .check 0, .check 1]).active.Perm
    (Run.exec step (start 2) [.accept 7, .handOn, .accept 8, .handOn, .check 0, .check 1]).serving :=
  (registry_exact 2 [.accept 7, .handOn, .accept 8, .handOn, .check 0, .check 1]
    ⟨List.not_mem_nil, trivial, List.not_mem_nil, trivial, trivial, trivial, trivial⟩).active

/-- **A descriptor that is handed out again too early is lost**: its second connection is served but not listed, so
`stop` does not reach it and it is not counted. -/
theorem registry_misses : ∃ evs : List Event, (Run.exec step (start 2) evs).active = [] ∧
    7 ∈ (Run.exec step (start 2) evs).serving :=
  ⟨[.accept 7, .handOn, .check 0, .closeSocket 0, .accept 7, .handOn, .check 1, .finish 0], by decide, by decide⟩

/-! ### What `stop` reaches -/

/-- The connections that the server holds: pending, being served or just accepted. -/
def held (s : Pool) : List Socket := s.handlers.queue ++ s.serving ++ s.arrived.toList

theorem stop_kept {h : State Socket} (hstop : h.stop = true) (ev : Waiters.Event Socket) :
    (h.step handlerLoop ev).stop = true := by
  have hsteps := State.steps_step handlerLoop h ev
  generalize h.step handlerLoop ev = h' at hsteps
  cases hsteps <;> first | exact hstop | rfl

/-- A step of the loop that neither takes, pushes, removes nor finishes holds what was held. -/
theorem held_of_handlers {ev : Waiters.Event Socket} (hcheck : ∀ i, ev ≠ .check i) (hfinish : ∀ i, ev ≠ .finish i)
    (hpush : ∀ socket, ev ≠ .push socket) (hremove : ∀ n, ev ≠ .remove n) {socket : Socket}
    (h : socket ∈ held { s with handlers := s.handlers.step handlerLoop ev }) : socket ∈ s.held := by
  simp only [held, serving, List.mem_append, queue_step s.handlers hcheck hpush hremove,
    (serving_step s.handlers hcheck hfinish).mem_iff] at h ⊢
  exact h

/-- **A stopped server gets no new connection**: after a step it holds what it held. -/
theorem held_step (hstop : s.handlers.stop = true) (ev : Event) {socket : Socket} (h : socket ∈ (s.step ev).held) :
    socket ∈ s.held := by
  cases ev with
  | accept other =>
    have hrefused : s.arrived.isSome ∨ other ∈ s.opened ∨ s.handlers.stop = true := .inr (.inr hstop)
    rw [step, if_pos hrefused] at h
    exact h
  | handOn =>
    simp only [step] at h
    split at h
    · exact h
    · rename_i other harrived
      split at h
      · rename_i hfree
        split at h
        · simp only [held, serving, List.mem_append, Option.toList_none, List.not_mem_nil, or_false] at h ⊢
          exact .inl h
        · rw [push_eq hfree] at h
          simp only [held, serving, List.mem_append, List.mem_singleton, Option.toList_none, List.not_mem_nil,
            or_false] at h ⊢
          rw [harrived, Option.toList_some, List.mem_singleton]
          tauto
      · exact h
  | check i =>
    obtain ⟨hqueue, hserving⟩ := check_taken s.handlers i
    simp only [step, held, serving, List.mem_append, hserving.mem_iff] at h ⊢
    rw [← hqueue, List.mem_append]
    tauto
  | park i => exact held_of_handlers (by simp) (by simp) (by simp) (by simp) h
  | wake i => exact held_of_handlers (by simp) (by simp) (by simp) (by simp) h
  | notify i => exact held_of_handlers (by simp) (by simp) (by simp) (by simp) h
  | setStop => exact held_of_handlers (by simp) (by simp) (by simp) (by simp) h
  | notifyAll => exact held_of_handlers (by simp) (by simp) (by simp) (by simp) h
  | closeSocket i =>
    simp only [step] at h
    split at h
    · split at h <;> exact h
    · exact h
  | finish i =>
    simp only [step] at h
    split at h
    · rename_i sockets hi
      split at h
      · have hset := serving_set hi .outside
        rw [State.step_finish hi] at h
        simp only [held, serving, List.mem_append] at h ⊢
        have hmem : socket ∈ (s.handlers.setConsumer i .outside).consumers.flatMap Phase.items →
            socket ∈ s.handlers.consumers.flatMap Phase.items := fun hnew =>
          hset.mem_iff.2 (List.mem_append_right _ hnew)
        exact h.imp_left (Or.imp_right hmem)
      · exact h
    · exact h
  | sync =>
    simp only [step] at h
    split at h
    · rename_i hcond
      obtain ⟨hstop, hfree⟩ := Bool.and_eq_true_iff.1 hcond
      rw [sync_eq hstop hfree] at h
      simp only [held, serving, List.mem_append, List.not_mem_nil, false_or] at h ⊢
      exact h.imp_left .inr
    · exact h

theorem stop_step (hstop : s.handlers.stop = true) (ev : Event) : (s.step ev).handlers.stop = true := by
  obtain ⟨evs, heq⟩ := handlers_step s ev
  rw [heq]
  exact Run.invariant (P := fun h : State Socket => h.stop = true) (fun _ ev h => stop_kept h ev) evs hstop

/-- **What `stop` reaches.** After it has shut down what is listed in `active` and closed what is pending, whatever is
served later is one of the connections that it has shut down, or the one that `serve` had accepted and not yet handed
on. -/
theorem stop_reaches (maxConnections : Nat) (before after : List Event)
    (hfresh : Run.Along step Fresh (start maxConnections) before)
    (hstop : (Run.exec step (start maxConnections) before).handlers.stop = true)
    (hfree : (Run.exec step (start maxConnections) before).handlers.free = true) :
    ∀ socket ∈ (Run.exec step ((Run.exec step (start maxConnections) before).step .sync) after).serving,
      socket ∈ (Run.exec step (start maxConnections) before).active ∨
      (Run.exec step (start maxConnections) before).arrived = some socket := by
  have hexact := Run.Along.invariant (P := Exact) (fun _ ev h hf => exact_step h ev hf)
    (exact_start maxConnections) hfresh
  generalize Run.exec step (start maxConnections) before = s at hexact hstop hfree
  have hsynced : s.step .sync = { s with
      handlers := { s.handlers with queue := [], synced := true }, opened :=
        s.opened.filter (· ∉ s.handlers.queue) } := by
    rw [step, if_pos (by rw [hstop, hfree]; rfl), sync_eq hstop hfree]
  have hrun := Run.invariant (P := fun t : Pool => t.handlers.stop = true ∧ ∀ socket ∈ t.held,
    socket ∈ (s.step .sync).held)
    (fun _ ev h => ⟨stop_step h.1 ev, fun socket hsocket => h.2 socket (held_step h.1 ev hsocket)⟩) after
    (s := s.step .sync) ⟨stop_step hstop .sync, fun _ h => h⟩
  intro socket hsocket
  have hheld := hrun.2 socket (List.mem_append_left _ (List.mem_append_right _ hsocket))
  rw [hsynced] at hheld
  simp only [held, serving, List.nil_append, List.mem_append, Option.mem_toList] at hheld
  exact hheld.imp_left hexact.active.mem_iff.2

/-- The connection 8 is accepted before the server is stopped and handed on behind `stop`, which does not reach it. -/
theorem stop_reaches_late :
    8 ∈ (Run.exec step ((Run.exec step (start 2) [.accept 7, .handOn, .check 0, .accept 8, .setStop]).step .sync)
      [.notifyAll, .handOn, .check 1]).serving ∧
    ∀ socket ∈ (Run.exec step ((Run.exec step (start 2) [.accept 7, .handOn, .check 0, .accept 8, .setStop]).step .sync)
      [.notifyAll, .handOn, .check 1]).serving,
      socket ∈ (Run.exec step (start 2) [.accept 7, .handOn, .check 0, .accept 8, .setStop]).active ∨
      (Run.exec step (start 2) [.accept 7, .handOn, .check 0, .accept 8, .setStop]).arrived = some socket :=
  ⟨by decide, stop_reaches 2 [.accept 7, .handOn, .check 0, .accept 8, .setStop] [.notifyAll, .handOn, .check 1]
    ⟨List.not_mem_nil, trivial, trivial, by show 8 ∉ [7]; decide, trivial, trivial⟩ rfl rfl⟩

end Pool

end FlowObs
