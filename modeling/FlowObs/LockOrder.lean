import FlowObs.Lib.Run
import FlowObs.Lib.Locks
import Mathlib.Algebra.GroupWithZero.Nat
import Mathlib.Data.List.Basic
import Mathlib.Tactic.Common

/-!
# The lock audit

`lockorder.hpp` and `lockorder.cpp`. Every guard records the rank of its mutex on a stack of its thread once it holds
the mutex; a rank that is not above the one on top is not recorded but counted. The stacks stay ascending whatever is
called (`Recorded`), so the sixteen slots are never full. As long as nothing is counted a stack is what its thread
holds; after a rejection it may hold less, since the guard that was not recorded is still left (`sublist_exec`). So
every rejection is an inversion or a re-entry, and the first of them is always seen (`audit_exact`).
-/

namespace FlowObs

/-- `LockRank`. -/
inductive LockRank
  | None | Engine | Queue | Journal
deriving DecidableEq, Repr, Inhabited

/-- The value of a rank. -/
def LockRank.raw : LockRank → Nat
  | .None => 0
  | .Engine => 1
  | .Queue => 2
  | .Journal => 3

theorem LockRank.raw_le (r : LockRank) : r.raw ≤ 3 := by
  cases r <;> decide

/-- The acquisition stack of one thread. -/
structure LockAudit where
  depth : Nat := 0
  stack : List Nat := List.replicate 16 0

namespace LockAudit

/-- `enter` while the audit is enabled: the stack, and whether the acquisition keeps to the order. -/
def enter (a : LockAudit) (rank : LockRank) : LockAudit × Bool :=
  if 0 < a.depth ∧ rank.raw ≤ a.stack.getD (a.depth - 1) 0 then (a, false)
  else ({ depth := a.depth + 1, stack := if a.depth < 16 then a.stack.set a.depth rank.raw else a.stack }, true)

/-- `leave` while the audit is enabled. -/
def leave (a : LockAudit) : LockAudit :=
  if 0 < a.depth then
    { depth := a.depth - 1, stack := if a.depth - 1 < 16 then a.stack.set (a.depth - 1) 0 else a.stack }
  else a

/-- The ranks on the stack, the innermost first. -/
def ranks (a : LockAudit) : List Nat := (a.stack.take a.depth).reverse

/-- The stack is ascending, so it holds every rank at most once. -/
structure Recorded (a : LockAudit) : Prop where
  slots : a.stack.length = 16
  fits : a.depth ≤ 16
  ascending : a.ranks.Pairwise (· > ·)
  bounded : ∀ x ∈ a.ranks, x ≤ 3

theorem recorded_default : Recorded {} := ⟨rfl, by decide, .nil, fun _ h => absurd h List.not_mem_nil⟩

variable {a : LockAudit}

theorem length_ranks (h : a.Recorded) : a.ranks.length = a.depth := by
  have := h.slots
  have := h.fits
  rw [ranks, List.length_reverse, List.length_take]
  omega

/-- A descending list of numbers up to `n` is short. -/
theorem length_le_of_descending {l : List Nat} {n : Nat} (hl : l.Pairwise (· > ·)) (hn : ∀ x ∈ l, x ≤ n) :
    l.length ≤ n + 1 := by
  induction l generalizing n with
  | nil => exact Nat.zero_le _
  | cons x l ih =>
    obtain ⟨hx, hl⟩ := List.pairwise_cons.1 hl
    obtain ⟨hxn, -⟩ := List.forall_mem_cons.1 hn
    cases l with
    | nil => simp
    | cons y l =>
      have hy := hx y List.mem_cons_self
      have hrest := ih hl (n := n - 1) fun z hz => by
        have := hx z hz
        omega
      rw [List.length_cons]
      omega

/-- **At most four ranks are recorded**, so the slots suffice. -/
theorem depth_le (h : a.Recorded) : a.depth ≤ 4 := by
  have hlen := length_le_of_descending h.ascending h.bounded
  rwa [length_ranks h] at hlen

/-- The top of the stack. -/
theorem head?_ranks (h : a.Recorded) (hpos : 0 < a.depth) : a.ranks.head? = some (a.stack.getD (a.depth - 1) 0) := by
  have hslots := h.slots
  have hfits := h.fits
  have hlt : a.depth - 1 < a.stack.length := by omega
  rw [ranks, List.head?_reverse, List.getLast?_eq_getElem?, List.length_take, Nat.min_eq_left (by omega),
    List.getElem?_take_of_lt (by omega), List.getD_eq_getElem?_getD, List.getElem?_eq_getElem hlt, Option.getD_some]

/-- What an accepted acquisition records. -/
theorem ranks_enter (h : a.Recorded) {rank : LockRank} (hok : (a.enter rank).2 = true) :
    (a.enter rank).1.ranks = rank.raw :: a.ranks := by
  have hslots := h.slots
  have hdepth := depth_le h
  unfold enter at hok ⊢
  split at hok
  · cases hok
  · rename_i hcond
    rw [if_neg hcond]
    simp only [ranks, if_pos (show a.depth < 16 by omega)]
    rw [List.take_add_one, List.getElem?_set_self (by omega), List.take_set_of_le (Nat.le_refl _)]
    simp

/-- A rejected acquisition leaves the stack as it is. -/
theorem enter_rejected {rank : LockRank} (hno : (a.enter rank).2 = false) : (a.enter rank).1 = a := by
  unfold enter at hno ⊢
  split at hno
  · rename_i hcond
    rw [if_pos hcond]
  · cases hno

/-- **An acquisition is accepted exactly when its rank is above everything on the stack.** -/
theorem enter_ok_iff (h : a.Recorded) (rank : LockRank) : (a.enter rank).2 = true ↔ ∀ x ∈ a.ranks, x < rank.raw := by
  have hpair := h.ascending
  have hhead := head?_ranks h
  have hlen := length_ranks h
  unfold enter
  cases hr : a.ranks with
  | nil =>
    rw [hr, List.length_nil] at hlen
    rw [if_neg (by omega)]
    simp
  | cons x l =>
    rw [hr, List.length_cons] at hlen
    have hpos : 0 < a.depth := by omega
    have hx := hhead hpos
    rw [hr, List.head?_cons, Option.some.injEq] at hx
    rw [hr] at hpair
    rw [← hx]
    by_cases hle : rank.raw ≤ x
    · rw [if_pos ⟨hpos, hle⟩]
      refine iff_of_false Bool.false_ne_true fun hall => ?_
      have := hall x List.mem_cons_self
      omega
    · rw [if_neg (by omega)]
      refine iff_of_true rfl fun y hy => ?_
      rcases List.mem_cons.1 hy with rfl | hy
      · omega
      · have := List.rel_of_pairwise_cons hpair hy
        omega

theorem ranks_leave (h : a.Recorded) : a.leave.ranks = a.ranks.tail := by
  have hslots := h.slots
  have hdepth := depth_le h
  unfold leave
  split
  · rename_i hpos
    simp only [ranks, if_pos (show a.depth - 1 < 16 by omega)]
    obtain ⟨d, hd⟩ : ∃ d, a.depth = d + 1 := ⟨a.depth - 1, by omega⟩
    rw [hd, Nat.add_sub_cancel, List.take_set_of_le (Nat.le_refl _), List.tail_reverse, List.dropLast_take (by omega),
      Nat.add_sub_cancel]
  · have hzero : a.depth = 0 := by omega
    simp [ranks, hzero]

theorem recorded_enter (h : a.Recorded) (rank : LockRank) : (a.enter rank).1.Recorded := by
  cases hok : (a.enter rank).2 with
  | false => rwa [enter_rejected hok]
  | true =>
    have hranks := ranks_enter h hok
    have habove := (enter_ok_iff h rank).1 hok
    have hdepth := depth_le h
    refine ⟨?_, ?_, ?_, ?_⟩
    · unfold enter
      split
      · exact h.slots
      · simp only
        split
        · rw [List.length_set, h.slots]
        · exact h.slots
    · unfold enter
      split
      · exact h.fits
      · simp only
        omega
    · rw [hranks]
      exact List.pairwise_cons.2 ⟨habove, h.ascending⟩
    · rw [hranks]
      exact List.forall_mem_cons.2 ⟨rank.raw_le, h.bounded⟩

theorem recorded_leave (h : a.Recorded) : a.leave.Recorded := by
  have hranks := ranks_leave h
  have hfits := h.fits
  refine ⟨?_, ?_, ?_, ?_⟩
  · unfold leave
    split
    · simp only
      split
      · rw [List.length_set, h.slots]
      · exact h.slots
    · exact h.slots
  · unfold leave
    split
    · simp only
      omega
    · exact hfits
  · rw [hranks]
    exact h.ascending.tail
  · rw [hranks]
    exact fun x hx => h.bounded x (List.mem_of_mem_tail hx)

end LockAudit

/-! ## All threads -/

/-- The stacks of all threads and what they share. -/
structure Audits where
  thread : Nat → LockAudit := fun _ => {}
  violations : UInt64 := 0
  enabled : Bool := true

namespace Audits

/-- `LockAudit::enter`. -/
def enter (s : Audits) (t : Nat) (rank : LockRank) : Audits × Bool :=
  if !s.enabled then (s, true)
  else
    let entered := (s.thread t).enter rank
    ({ s with
        thread := Function.update s.thread t entered.1
        violations := if entered.2 then s.violations else s.violations + 1 }, entered.2)

/-- `LockAudit::leave`. The rank is not looked at. -/
def leave (s : Audits) (t : Nat) (_rank : LockRank) : Audits :=
  if !s.enabled then s else { s with thread := Function.update s.thread t (s.thread t).leave }

end Audits

/-! ## Guards -/

/-- A thread takes a guard, or leaves its innermost one. -/
inductive GuardEvent
  | take (t : Nat) (rank : LockRank)
  | leave (t : Nat)

/-- The audit beside the guards that the threads are in, the innermost first. -/
structure Guarded where
  audits : Audits := {}
  guards : Nat → List LockRank := fun _ => []

namespace Guarded

open Run

/-- The constructors and the destructors of the guards. -/
def step (s : Guarded) : GuardEvent → Guarded
  | .take t rank =>
    { audits := (s.audits.enter t rank).1, guards := Function.update s.guards t (rank :: s.guards t) }
  | .leave t =>
    match s.guards t with
    | [] => s
    | rank :: outer => { audits := s.audits.leave t rank, guards := Function.update s.guards t outer }

/-- A guard is taken only above everything the thread holds: neither an inversion nor a re-entry. -/
def InOrder (s : Guarded) : GuardEvent → Prop
  | .take t rank => ∀ q ∈ s.guards t, q.raw < rank.raw
  | .leave _ => True

/-- The audit rejects the guard. -/
def rejects (s : Guarded) : GuardEvent → Bool
  | .take t rank => !(s.audits.enter t rank).2
  | .leave _ => false

/-- What is recorded is held, though perhaps not all that is held is recorded. -/
structure Tracked (s : Guarded) : Prop where
  enabled : s.audits.enabled = true
  recorded : ∀ t, (s.audits.thread t).Recorded
  held : ∀ t, (s.audits.thread t).ranks.Sublist ((s.guards t).map LockRank.raw)

/-- What is recorded is what is held. -/
def Exact (s : Guarded) : Prop := ∀ t, (s.audits.thread t).ranks = (s.guards t).map LockRank.raw

variable {s : Guarded}

theorem tracked_default : Tracked {} := ⟨rfl, fun _ => LockAudit.recorded_default, fun _ => List.nil_sublist _⟩

/-! ### One guard -/

/-- The stack of each thread after a guard is taken. -/
theorem thread_take (h : s.Tracked) (t : Nat) (rank : LockRank) : (s.step (.take t rank)).audits.thread =
    Function.update s.audits.thread t ((s.audits.thread t).enter rank).1 := by
  simp [step, Audits.enter, h.enabled]

theorem rejects_take (h : s.Tracked) (t : Nat) (rank : LockRank) :
    s.rejects (.take t rank) = !((s.audits.thread t).enter rank).2 := by
  simp [rejects, Audits.enter, h.enabled]

theorem thread_leave (h : s.Tracked) {t : Nat} {rank : LockRank} {outer : List LockRank}
    (hg : s.guards t = rank :: outer) : (s.step (.leave t)).audits.thread =
      Function.update s.audits.thread t (s.audits.thread t).leave := by
  simp [step, hg, Audits.leave, h.enabled]

theorem step_enabled (h : s.Tracked) (ev : GuardEvent) : (s.step ev).audits.enabled = true := by
  cases ev with
  | take t rank => simp [step, Audits.enter, h.enabled]
  | leave t =>
    simp only [step]
    split
    · exact h.enabled
    · simp [Audits.leave, h.enabled]

/-- **A rejected guard is out of order.** -/
theorem not_inOrder_of_rejects (h : s.Tracked) {ev : GuardEvent} (hr : s.rejects ev = true) : ¬ s.InOrder ev := by
  cases ev with
  | leave t => cases hr
  | take t rank =>
    intro hin
    have hok : ((s.audits.thread t).enter rank).2 = true := by
      refine (LockAudit.enter_ok_iff (h.recorded t) rank).2 fun x hx => ?_
      obtain ⟨q, hq, rfl⟩ := List.mem_map.1 ((h.held t).subset hx)
      exact hin q hq
    rw [rejects_take h, hok] at hr
    cases hr

/-- While the stacks are exact a guard that is accepted is in order. -/
theorem inOrder_of_not_rejects (h : s.Tracked) (he : s.Exact) {ev : GuardEvent} (hr : s.rejects ev = false) :
    s.InOrder ev := by
  cases ev with
  | leave t => trivial
  | take t rank =>
    rw [rejects_take h, Bool.not_eq_false'] at hr
    intro q hq
    refine (LockAudit.enter_ok_iff (h.recorded t) rank).1 hr q.raw ?_
    rw [he t]
    exact List.mem_map_of_mem hq

/-- The stack of the thread that takes a guard. -/
theorem ranks_take (h : s.Tracked) (t : Nat) (rank : LockRank) :
    ((s.audits.thread t).enter rank).1.ranks =
      if s.rejects (.take t rank) then (s.audits.thread t).ranks else rank.raw :: (s.audits.thread t).ranks := by
  rw [rejects_take h]
  cases hok : ((s.audits.thread t).enter rank).2 with
  | false => simp [LockAudit.enter_rejected hok]
  | true => simp [LockAudit.ranks_enter (h.recorded t) hok]

/-- **What is recorded stays held.** -/
theorem tracked_step (h : s.Tracked) (ev : GuardEvent) : (s.step ev).Tracked := by
  refine ⟨step_enabled h ev, fun u => ?_, fun u => ?_⟩
  · cases ev with
    | take t rank =>
      rw [thread_take h]
      rcases eq_or_ne u t with rfl | hne
      · rw [Function.update_self]
        exact LockAudit.recorded_enter (h.recorded u) rank
      · rw [Function.update_of_ne hne]
        exact h.recorded u
    | leave t =>
      cases hg : s.guards t with
      | nil => simpa [step, hg] using h.recorded u
      | cons rank outer =>
        rw [thread_leave h hg]
        rcases eq_or_ne u t with rfl | hne
        · rw [Function.update_self]
          exact LockAudit.recorded_leave (h.recorded u)
        · rw [Function.update_of_ne hne]
          exact h.recorded u
  · cases ev with
    | take t rank =>
      rw [thread_take h]
      simp only [step]
      rcases eq_or_ne u t with rfl | hne
      · rw [Function.update_self, Function.update_self, ranks_take h, List.map_cons]
        split
        · exact (h.held u).cons _
        · exact (h.held u).cons_cons _
      · rw [Function.update_of_ne hne, Function.update_of_ne hne]
        exact h.held u
    | leave t =>
      cases hg : s.guards t with
      | nil => simpa [step, hg] using h.held u
      | cons rank outer =>
        rw [thread_leave h hg]
        simp only [step, hg]
        rcases eq_or_ne u t with rfl | hne
        · have hheld := (h.held u).tail
          rw [Function.update_self, Function.update_self, LockAudit.ranks_leave (h.recorded u)]
          rwa [hg] at hheld
        · rw [Function.update_of_ne hne, Function.update_of_ne hne]
          exact h.held u

/-- Guards that are accepted keep the stacks exact. -/
theorem exact_step (h : s.Tracked) (he : s.Exact) {ev : GuardEvent} (hr : s.rejects ev = false) :
    (s.step ev).Exact := by
  intro u
  cases ev with
  | take t rank =>
    rw [thread_take h]
    simp only [step]
    rcases eq_or_ne u t with rfl | hne
    · rw [Function.update_self, Function.update_self, ranks_take h, hr, he u]
      rfl
    · rw [Function.update_of_ne hne, Function.update_of_ne hne]
      exact he u
  | leave t =>
    cases hg : s.guards t with
    | nil => simpa [step, hg] using he u
    | cons rank outer =>
      rw [thread_leave h hg]
      simp only [step, hg]
      rcases eq_or_ne u t with rfl | hne
      · rw [Function.update_self, Function.update_self, LockAudit.ranks_leave (h.recorded u), he u, hg]
        rfl
      · rw [Function.update_of_ne hne, Function.update_of_ne hne]
        exact he u

/-- The counter counts the rejections. -/
theorem violations_step (h : s.Tracked) (ev : GuardEvent) :
    (s.step ev).audits.violations = if s.rejects ev then s.audits.violations + 1 else s.audits.violations := by
  cases ev with
  | take t rank =>
    rw [rejects_take h]
    simp only [step, Audits.enter, h.enabled]
    cases ((s.audits.thread t).enter rank).2 <;> simp
  | leave t =>
    simp only [step, rejects]
    split
    · rfl
    · simp [Audits.leave, h.enabled]

/-! ### Runs -/

theorem tracked_exec (evs : List GuardEvent) (h : s.Tracked) : (Run.exec step s evs).Tracked :=
  Run.invariant (P := Tracked) (fun _ ev h => tracked_step h ev) evs h

/-- The counter only grows, and stays what it was exactly when no guard is rejected. -/
theorem violations_exec (h : s.Tracked) {evs : List GuardEvent}
    (hroom : s.audits.violations.toNat + evs.length < 2 ^ 64) :
    s.audits.violations.toNat ≤ (Run.exec step s evs).audits.violations.toNat ∧
      ((Run.exec step s evs).audits.violations = s.audits.violations ↔
        Along step (fun s ev => s.rejects ev = false) s evs) := by
  induction evs generalizing s with
  | nil => simp [Along]
  | cons ev evs ih =>
    rw [List.length_cons] at hroom
    have hstep := violations_step h ev
    rw [Run.exec_cons]
    cases hr : s.rejects ev with
    | false =>
      rw [hr, if_neg Bool.false_ne_true] at hstep
      have hrest := ih (tracked_step h ev) (by rw [hstep]; omega)
      rw [hstep] at hrest
      simpa [Along, hr] using hrest
    | true =>
      rw [hr, if_pos rfl] at hstep
      have hnext : (s.step ev).audits.violations.toNat = s.audits.violations.toNat + 1 := by
        rw [hstep, UInt64.toNat_add]
        simp only [UInt64.reduceToNat]
        omega
      have hrest := (ih (tracked_step h ev) (by rw [hnext]; omega)).1
      refine ⟨by omega, iff_of_false (fun heq => ?_) fun hal => ?_⟩
      · rw [heq] at hrest
        omega
      · exact Bool.false_ne_true (hal.1.symm.trans hr)

/-- From exact stacks a run is in order exactly when nothing is rejected. -/
theorem along_inOrder_iff (h : s.Tracked) (he : s.Exact) (evs : List GuardEvent) :
    Along step InOrder s evs ↔ Along step (fun s ev => s.rejects ev = false) s evs := by
  induction evs generalizing s with
  | nil => exact Iff.rfl
  | cons ev evs ih =>
    have hiff : s.InOrder ev ↔ s.rejects ev = false :=
      ⟨fun hin => Bool.eq_false_iff.2 fun hr => not_inOrder_of_rejects h hr hin, inOrder_of_not_rejects h he⟩
    simp only [Along, hiff]
    exact and_congr_right fun hr => ih (tracked_step h ev) (exact_step h he hr)

/-- **The audit is exact up to the first violation and sound after it.** Whatever guards the threads take in whatever
interleaving, at most four of the sixteen slots of a thread are used, a guard that is rejected is an inversion or a
re-entry, and the counter is still zero exactly when every guard was taken in order. -/
theorem audit_exact (evs : List GuardEvent) (hcount : evs.length < 2 ^ 64) :
    (∀ t, ((Run.exec step {} evs).audits.thread t).depth ≤ 4) ∧
    (∀ ev, (Run.exec step {} evs).rejects ev = true → ¬ (Run.exec step {} evs).InOrder ev) ∧
    ((Run.exec step {} evs).audits.violations = 0 ↔ Along step InOrder {} evs) := by
  have htracked := tracked_exec evs tracked_default
  refine ⟨fun t => LockAudit.depth_le (htracked.recorded t), fun ev => not_inOrder_of_rejects htracked, ?_⟩
  have hroom : ({} : Guarded).audits.violations.toNat + evs.length < 2 ^ 64 := by
    show 0 + evs.length < 2 ^ 64
    omega
  rw [along_inOrder_iff tracked_default (fun _ => rfl)]
  exact (violations_exec tracked_default hroom).2

/-- Two threads that nest the two mutexes in opposite directions: the second is seen. -/
theorem audit_exact_inversion :
    (Run.exec step {} [.take 0 .Engine, .take 1 .Queue, .take 1 .Engine]).audits.violations ≠ 0 := by
  intro hzero
  have hall := ((audit_exact [.take 0 .Engine, .take 1 .Queue, .take 1 .Engine] (by decide)).2.2).1 hzero
  exact absurd (hall.2.2.1 .Queue (by decide)) (by decide)

end Guarded

end FlowObs
