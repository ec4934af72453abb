import FlowObs.Lib.Run
import Mathlib.Algebra.GroupWithZero.Nat
import Mathlib.Algebra.Order.BigOperators.Group.List

/-!
# Consumers that wait on a condition variable

Consumers take items from a queue under a mutex, `batch` at a time, and wait on a condition variable until the queue
has an item or a flag `stop` is set. Producers push under the mutex and notify one consumer afterwards. Whoever stops
the consumers stores the flag without the mutex and notifies all of them; with `synced` it has the mutex once in
between.

A consumer tests and begins to wait under the mutex, in two steps (`Phase.checked` lies between them). Pushing cannot
fall in between, so no item is forgotten (`rest_cases`). Storing the flag can: the consumers caught there are exactly
those that wait for ever (`lost_exec`), and with `synced` there are none (`awake_exec`). The others end
(`length_le_measure`, `final_cases`).
-/

namespace FlowObs.Waiters

/-- Where a consumer is: about to lock the mutex, still holding it after a test that found nothing, parked in the
condition variable, woken and about to lock the mutex again, at work on what it took, or gone. -/
inductive Phase (α : Type)
  | outside | checked | parked | woken
  | working (items : List α)
  | done

/-- How many items are taken at a time, and whether the stopper has the mutex between the flag and the notification. -/
structure Protocol where
  batch : Nat
  synced : Bool

structure State (α : Type) where
  queue : List α := []
  stop : Bool := false
  synced : Bool := false
  notified : Bool := false
  owed : Nat := 0
  consumers : List (Phase α) := []

/-- One step. A consumer tests, parks, finishes what it took or wakes up without reason; a producer pushes an item and
owes a notification, which goes to a consumer that is parked; items are removed under the mutex; the stopper stores
the flag, has the mutex and notifies all. -/
inductive Event (α : Type)
  | check (i : Nat)
  | park (i : Nat)
  | finish (i : Nat)
  | wake (i : Nat)
  | push (item : α)
  | remove (n : Nat)
  | notify (i : Nat)
  | setStop
  | sync
  | notifyAll

variable {α : Type}

namespace Phase

def isChecked : Phase α → Bool
  | checked => true
  | _ => false

def isParked : Phase α → Bool
  | parked => true
  | _ => false

/-- Not asleep and not gone. -/
def isAwake : Phase α → Bool
  | outside | woken | working _ => true
  | _ => false

/-- About to lock the mutex. -/
def isReady : Phase α → Bool
  | outside | woken => true
  | _ => false

def isDone : Phase α → Bool
  | done => true
  | _ => false

/-- Between the test and the end of the wait. -/
def isWaiting (c : Phase α) : Bool := c.isChecked || c.isParked

/-- How many steps a consumer has before it at most, if it finds no more items and nobody wakes it. -/
def weight : Phase α → Nat
  | outside | woken => 2
  | checked => 1
  | working _ => 3
  | parked | done => 0

/-- What a consumer has taken. -/
def items : Phase α → List α
  | working items => items
  | _ => []

/-- What a notification does to a consumer. -/
def wake : Phase α → Phase α
  | parked => woken
  | c => c

end Phase

namespace Event

/-- The steps that consumers take of themselves. -/
def isConsumer : Event α → Bool
  | check _ | park _ | finish _ => true
  | _ => false

/-- What happens without producers, a stopper or a spurious wake-up. -/
def isInternal : Event α → Bool
  | check _ | park _ | finish _ | notify _ => true
  | _ => false

/-- The consumer that an event names. -/
def consumer : Event α → Option Nat
  | check i | park i | finish i | wake i | notify i => some i
  | _ => none

end Event

namespace State

/-- Nobody holds the mutex between a test and a wait. -/
def free (s : State α) : Bool := s.consumers.all fun c => !c.isChecked

def setConsumer (s : State α) (i : Nat) (c : Phase α) : State α := { s with consumers := s.consumers.set i c }

/-- A consumer that has the mutex tests and takes, leaves or begins to wait. -/
def check (p : Protocol) (s : State α) (i : Nat) : State α :=
  if s.queue.isEmpty then s.setConsumer i (if s.stop then .done else .checked)
  else { s with queue := s.queue.drop p.batch }.setConsumer i (.working (s.queue.take p.batch))

/-- What an event does to the consumer that it names. -/
def stepConsumer (p : Protocol) (s : State α) (i : Nat) : Phase α → Event α → State α
  | .outside, .check _ => if s.free then s.check p i else s
  | .woken, .check _ => if s.free then s.check p i else s
  | .checked, .park _ => s.setConsumer i .parked
  | .working _, .finish _ => s.setConsumer i .outside
  | .parked, .wake _ => s.setConsumer i .woken
  | c, .notify _ =>
    if s.owed = 0 then s
    else if c.isParked then { s with owed := s.owed - 1 }.setConsumer i .woken
    else if s.consumers.all fun c => !c.isParked then { s with owed := s.owed - 1 }
    else s
  | _, _ => s

/-- What an event does that names no consumer. -/
def stepShared (p : Protocol) (s : State α) : Event α → State α
  | .push item => if s.free then { s with queue := s.queue ++ [item], owed := s.owed + 1 } else s
  | .remove n => if s.free then { s with queue := s.queue.drop n } else s
  | .setStop => { s with stop := true }
  | .sync => if s.stop && s.free then { s with synced := true } else s
  | .notifyAll =>
    if s.stop && (s.synced || !p.synced) then { s with notified := true, consumers := s.consumers.map Phase.wake } else s
  | _ => s

/-- The state after an event. An event whose turn has not come leaves the state as it is. -/
def step (p : Protocol) (s : State α) (ev : Event α) : State α :=
  match ev.consumer with
  | none => s.stepShared p ev
  | some i =>
    match s.consumers[i]? with
    | none => s
    | some c => s.stepConsumer p i c ev

/-- What an event can do. -/
inductive Steps (p : Protocol) (s : State α) : Event α → State α → Prop
  | stutter (ev : Event α) : Steps p s ev s
  | leaves (i : Nat) (hi : ∃ c, s.consumers[i]? = some c ∧ c.isReady = true) (hfree : s.free = true)
      (hqueue : s.queue = []) (hstop : s.stop = true) : Steps p s (.check i) (s.setConsumer i .done)
  | tests (i : Nat) (hi : ∃ c, s.consumers[i]? = some c ∧ c.isReady = true) (hfree : s.free = true)
      (hqueue : s.queue = []) (hstop : s.stop = false) : Steps p s (.check i) (s.setConsumer i .checked)
  | takes (i : Nat) (hi : ∃ c, s.consumers[i]? = some c ∧ c.isReady = true) (hfree : s.free = true)
      (hqueue : s.queue ≠ []) : Steps p s (.check i)
        ({ s with queue := s.queue.drop p.batch }.setConsumer i (.working (s.queue.take p.batch)))
  | parks (i : Nat) (hi : s.consumers[i]? = some .checked) : Steps p s (.park i) (s.setConsumer i .parked)
  | finishes (i : Nat) (items : List α) (hi : s.consumers[i]? = some (.working items)) :
      Steps p s (.finish i) (s.setConsumer i .outside)
  | wakes (i : Nat) (hi : s.consumers[i]? = some .parked) : Steps p s (.wake i) (s.setConsumer i .woken)
  | notifies (i : Nat) (hi : s.consumers[i]? = some .parked) (howed : s.owed ≠ 0) :
      Steps p s (.notify i) ({ s with owed := s.owed - 1 }.setConsumer i .woken)
  | unheard (i : Nat) (hnone : ∀ c ∈ s.consumers, c.isParked = false) (howed : s.owed ≠ 0) :
      Steps p s (.notify i) { s with owed := s.owed - 1 }
  | pushes (item : α) (hfree : s.free = true) :
      Steps p s (.push item) { s with queue := s.queue ++ [item], owed := s.owed + 1 }
  | removes (n : Nat) (hfree : s.free = true) : Steps p s (.remove n) { s with queue := s.queue.drop n }
  | stops : Steps p s .setStop { s with stop := true }
  | syncs (hstop : s.stop = true) (hfree : s.free = true) : Steps p s .sync { s with synced := true }
  | notifiesAll (hstop : s.stop = true) (hsynced : p.synced = true → s.synced = true) :
      Steps p s .notifyAll { s with notified := true, consumers := s.consumers.map Phase.wake }

variable {p : Protocol} {s : State α}

theorem steps_check {i : Nat} {c : Phase α} (hi : s.consumers[i]? = some c) (hc : c.isReady = true) :
    Steps p s (.check i) (if s.free then s.check p i else s) := by
  cases hfree : s.free with
  | false => exact .stutter _
  | true =>
    simp only [if_true, check]
    cases hqueue : s.queue with
    | nil =>
      cases hstop : s.stop with
      | false => exact .tests i ⟨c, hi, hc⟩ hfree hqueue hstop
      | true => exact .leaves i ⟨c, hi, hc⟩ hfree hqueue hstop
    | cons item rest =>
      have h := Steps.takes (p := p) i ⟨c, hi, hc⟩ hfree (by rw [hqueue]; exact List.cons_ne_nil _ _)
      rw [hqueue] at h
      exact h

/-- **What a step can do.** -/
theorem steps_step (p : Protocol) (s : State α) (ev : Event α) : Steps p s ev (s.step p ev) := by
  cases ev with
  | push item =>
    simp only [step, Event.consumer, stepShared]
    split
    · exact .pushes item ‹_›
    · exact .stutter _
  | remove n =>
    simp only [step, Event.consumer, stepShared]
    split
    · exact .removes n ‹_›
    · exact .stutter _
  | setStop => exact .stops
  | sync =>
    simp only [step, Event.consumer, stepShared]
    split
    · rename_i h
      rw [Bool.and_eq_true] at h
      exact .syncs h.1 h.2
    · exact .stutter _
  | notifyAll =>
    simp only [step, Event.consumer, stepShared]
    split
    · rename_i h
      rw [Bool.and_eq_true, Bool.or_eq_true] at h
      refine .notifiesAll h.1 fun hp => h.2.resolve_right ?_
      simp [hp]
    · exact .stutter _
  | check i =>
    simp only [step, Event.consumer]
    cases hi : s.consumers[i]? with
    | none => exact .stutter _
    | some c =>
      cases c with
      | outside => exact steps_check hi rfl
      | woken => exact steps_check hi rfl
      | _ => exact .stutter _
  | park i =>
    simp only [step, Event.consumer]
    cases hi : s.consumers[i]? with
    | none => exact .stutter _
    | some c =>
      cases c with
      | checked => exact .parks i hi
      | _ => exact .stutter _
  | finish i =>
    simp only [step, Event.consumer]
    cases hi : s.consumers[i]? with
    | none => exact .stutter _
    | some c =>
      cases c with
      | working items => exact .finishes i items hi
      | _ => exact .stutter _
  | wake i =>
    simp only [step, Event.consumer]
    cases hi : s.consumers[i]? with
    | none => exact .stutter _
    | some c =>
      cases c with
      | parked => exact .wakes i hi
      | _ => exact .stutter _
  | notify i =>
    simp only [step, Event.consumer]
    cases hi : s.consumers[i]? with
    | none => exact .stutter _
    | some c =>
      have hnotify : s.stepConsumer p i c (.notify i) =
          if s.owed = 0 then s
          else if c.isParked then { s with owed := s.owed - 1 }.setConsumer i .woken
          else if s.consumers.all fun c => !c.isParked then { s with owed := s.owed - 1 }
          else s := by
        cases c <;> rfl
      simp only [hnotify]
      split
      · exact .stutter _
      · rename_i howed
        split
        · rename_i hparked
          cases c with
          | parked => exact .notifies i hi howed
          | _ => cases hparked
        · split
          · rename_i hall
            refine .unheard i (fun c hc => ?_) howed
            simpa using List.all_eq_true.1 hall c hc
          · exact .stutter _

/-! ### No item is forgotten -/

/-- An item in the queue is not forgotten: a notification is owed, or a consumer is awake, or all are gone. -/
def Served (s : State α) : Prop :=
  s.queue ≠ [] → s.owed ≠ 0 ∨ (∃ c ∈ s.consumers, c.isAwake = true) ∨ ∀ c ∈ s.consumers, c.isDone = true

/-- Who holds the mutex after its test found nothing. -/
def Tested (s : State α) : Prop := ∀ c ∈ s.consumers, c.isChecked = true → s.queue = []

theorem not_checked_of_free (h : s.free = true) {c : Phase α} (hc : c ∈ s.consumers) : c.isChecked = false := by
  simpa using List.all_eq_true.1 h c hc

theorem mem_setConsumer {i : Nat} {c d : Phase α} (h : d ∈ (s.setConsumer i c).consumers) : d ∈ s.consumers ∨ d = c :=
  List.mem_or_eq_of_mem_set h

/-- The consumer that is set is there. -/
theorem setConsumer_mem {i : Nat} {c d : Phase α} (hi : s.consumers[i]? = some d) : c ∈ (s.setConsumer i c).consumers :=
  List.mem_set (List.getElem?_eq_some_iff.1 hi).1 c

theorem tested_step (h : s.Tested) (ev : Event α) : (s.step p ev).Tested := by
  have hsteps := steps_step p s ev
  generalize s.step p ev = s' at hsteps
  intro c hc hchecked
  cases hsteps with
  | stutter => exact h c hc hchecked
  | leaves i hi hfree hqueue hstop => exact hqueue
  | tests i hi hfree hqueue hstop => exact hqueue
  | takes i hi hfree hqueue =>
    rcases mem_setConsumer hc with hc | rfl
    · exact absurd hchecked (by rw [not_checked_of_free hfree hc]; exact Bool.false_ne_true)
    · cases hchecked
  | parks i hi =>
    rcases mem_setConsumer hc with hc | rfl
    · exact h c hc hchecked
    · cases hchecked
  | finishes i items hi =>
    rcases mem_setConsumer hc with hc | rfl
    · exact h c hc hchecked
    · cases hchecked
  | wakes i hi =>
    rcases mem_setConsumer hc with hc | rfl
    · exact h c hc hchecked
    · cases hchecked
  | notifies i hi howed =>
    rcases mem_setConsumer hc with hc | rfl
    · exact h c hc hchecked
    · cases hchecked
  | unheard i hnone howed => exact h c hc hchecked
  | pushes item hfree => exact absurd hchecked (by rw [not_checked_of_free hfree hc]; exact Bool.false_ne_true)
  | removes n hfree => exact absurd hchecked (by rw [not_checked_of_free hfree hc]; exact Bool.false_ne_true)
  | stops => exact h c hc hchecked
  | syncs hstop hfree => exact h c hc hchecked
  | notifiesAll hstop hsynced =>
    obtain ⟨d, hd, rfl⟩ := List.mem_map.1 hc
    refine h d hd ?_
    cases d <;> first | rfl | cases hchecked

/-- **What a step does leaves no item forgotten.** -/
theorem served_step (ht : s.Tested) (h : s.Served) (ev : Event α) : (s.step p ev).Served := by
  have hsteps := steps_step p s ev
  generalize s.step p ev = s' at hsteps
  intro hne
  cases hsteps with
  | stutter => exact h hne
  | leaves i hi hfree hqueue hstop => exact absurd hqueue hne
  | tests i hi hfree hqueue hstop => exact absurd hqueue hne
  | takes i hi hfree hqueue =>
    obtain ⟨c, hi, -⟩ := hi
    exact .inr (.inl ⟨_, setConsumer_mem (s := { s with queue := _ }) hi, rfl⟩)
  | parks i hi => exact absurd (ht _ (List.mem_of_getElem? hi) rfl) hne
  | finishes i items hi => exact .inr (.inl ⟨_, setConsumer_mem hi, rfl⟩)
  | wakes i hi => exact .inr (.inl ⟨_, setConsumer_mem hi, rfl⟩)
  | notifies i hi howed => exact .inr (.inl ⟨_, setConsumer_mem (s := { s with owed := _ }) hi, rfl⟩)
  | unheard i hnone howed =>
    -- nobody is parked and nobody tests, since the queue has an item
    by_cases hawake : ∃ c ∈ s.consumers, c.isAwake = true
    · exact .inr (.inl hawake)
    · refine .inr (.inr fun c hc => ?_)
      have hparked := hnone c hc
      have hchecked : c.isChecked ≠ true := fun hchecked => hne (ht c hc hchecked)
      have hasleep : c.isAwake ≠ true := fun h => hawake ⟨c, hc, h⟩
      cases c <;> simp_all [Phase.isAwake, Phase.isChecked, Phase.isParked, Phase.isDone]
  | pushes item hfree => exact .inl (Nat.succ_ne_zero _)
  | removes n hfree =>
    refine h fun hqueue => hne ?_
    show s.queue.drop n = []
    rw [hqueue, List.drop_nil]
  | stops => exact h hne
  | syncs hstop hfree => exact h hne
  | notifiesAll hstop hsynced =>
    rcases h hne with howed | ⟨c, hc, hawake⟩ | hall
    · exact .inl howed
    · refine .inr (.inl ⟨c.wake, List.mem_map_of_mem hc, ?_⟩)
      cases c <;> first | rfl | cases hawake
    · refine .inr (.inr fun c hc => ?_)
      obtain ⟨d, hd, rfl⟩ := List.mem_map.1 hc
      have hdone := hall d hd
      cases d <;> first | rfl | cases hdone

/-! ### What the stopper has told -/

/-- What the flag and the notification leave behind. -/
structure Told (p : Protocol) (s : State α) : Prop where
  tested : s.Tested
  served : s.Served
  flagged : s.synced = true ∨ s.notified = true → s.stop = true
  quiet : s.synced = true → ∀ c ∈ s.consumers, c.isChecked = false
  awake : p.synced = true → s.notified = true → s.synced = true ∧ ∀ c ∈ s.consumers, c.isParked = false

theorem told_start (p : Protocol) (queue : List α) (n : Nat) :
    Told p { queue := queue, consumers := List.replicate n .outside } := by
  refine ⟨fun c hc hchecked => ?_, fun _ => ?_, fun h => ?_, fun h => ?_, fun _ h => ?_⟩
  · cases List.eq_of_mem_replicate hc
    cases hchecked
  · cases n with
    | zero => exact .inr (.inr fun c hc => absurd hc List.not_mem_nil)
    | succ n => exact .inr (.inl ⟨.outside, List.mem_cons_self, rfl⟩)
  · rcases h with h | h <;> cases h
  · cases h
  · cases h

/-- Where somebody is between its test and its wait somebody was before, or the flag is not stored yet. -/
theorem checked_step {ev : Event α} {c : Phase α} (hc : c ∈ (s.step p ev).consumers) (hchecked : c.isChecked = true) :
    (∃ d ∈ s.consumers, d.isChecked = true) ∨ s.stop = false := by
  have hsteps := steps_step p s ev
  generalize s.step p ev = s' at hsteps hc
  cases hsteps with
  | stutter | unheard | pushes | removes | stops | syncs => exact .inl ⟨c, hc, hchecked⟩
  | tests i hi hfree hqueue hstop => exact .inr hstop
  | notifiesAll hstop hsynced =>
    obtain ⟨d, hd, rfl⟩ := List.mem_map.1 hc
    refine .inl ⟨d, hd, ?_⟩
    cases d <;> first | rfl | cases hchecked
  | _ =>
    rcases mem_setConsumer hc with hc | rfl
    · exact .inl ⟨c, hc, hchecked⟩
    · cases hchecked

/-- Where somebody is parked somebody was parked or about to be. -/
theorem parked_step {ev : Event α} {c : Phase α} (hc : c ∈ (s.step p ev).consumers) (hparked : c.isParked = true) :
    ∃ d ∈ s.consumers, d.isChecked = true ∨ d.isParked = true := by
  have hsteps := steps_step p s ev
  generalize s.step p ev = s' at hsteps hc
  cases hsteps with
  | stutter | unheard | pushes | removes | stops | syncs => exact ⟨c, hc, .inr hparked⟩
  | parks i hi => exact ⟨_, List.mem_of_getElem? hi, .inl rfl⟩
  | notifiesAll hstop hsynced =>
    obtain ⟨d, hd, rfl⟩ := List.mem_map.1 hc
    cases d <;> cases hparked
  | _ =>
    rcases mem_setConsumer hc with hc | rfl
    · exact ⟨c, hc, .inr hparked⟩
    · cases hparked

theorem flagged_step (h : s.Told p) (ev : Event α) (hs : (s.step p ev).synced = true ∨ (s.step p ev).notified = true) :
    (s.step p ev).stop = true := by
  have hsteps := steps_step p s ev
  generalize s.step p ev = s' at hsteps hs
  cases hsteps with
  | stops => rfl
  | syncs hstop hfree => exact hstop
  | notifiesAll hstop hsynced => exact hstop
  | _ => exact h.flagged hs

/-- The stopper that has had the mutex finds nobody between test and wait. -/
theorem quiet_step (h : s.Told p) (ev : Event α) (hs : (s.step p ev).synced = true) :
    ∀ c ∈ (s.step p ev).consumers, c.isChecked = false := by
  by_cases hsynced : s.synced = true
  · intro c hc
    refine Bool.eq_false_iff.2 fun hchecked => ?_
    rcases checked_step hc hchecked with ⟨d, hd, hchecked⟩ | hstop
    · exact Bool.false_ne_true ((h.quiet hsynced d hd).symm.trans hchecked)
    · exact Bool.false_ne_true (hstop.symm.trans (h.flagged (.inl hsynced)))
  · have hsteps := steps_step p s ev
    generalize s.step p ev = s' at hsteps hs
    cases hsteps with
    | syncs hstop hfree => exact fun c hc => not_checked_of_free hfree hc
    | _ => exact absurd hs hsynced

/-- The stopper that has had the mutex leaves nobody parked. -/
theorem awake_step (h : s.Told p) (ev : Event α) (hp : p.synced = true) (hn : (s.step p ev).notified = true) :
    (s.step p ev).synced = true ∧ ∀ c ∈ (s.step p ev).consumers, c.isParked = false := by
  by_cases hnotified : s.notified = true
  · obtain ⟨hsynced, hparked⟩ := h.awake hp hnotified
    constructor
    · have hsteps := steps_step p s ev
      generalize s.step p ev = s' at hsteps
      cases hsteps <;> first | exact hsynced | rfl
    · intro c hc
      refine Bool.eq_false_iff.2 fun hc' => ?_
      obtain ⟨d, hd, hchecked | hd'⟩ := parked_step hc hc'
      · exact Bool.false_ne_true ((h.quiet hsynced d hd).symm.trans hchecked)
      · exact Bool.false_ne_true ((hparked d hd).symm.trans hd')
  · have hsteps := steps_step p s ev
    generalize s.step p ev = s' at hsteps hn
    cases hsteps with
    | notifiesAll hstop hsynced =>
      refine ⟨hsynced hp, fun c hc => ?_⟩
      obtain ⟨d, -, rfl⟩ := List.mem_map.1 hc
      cases d <;> rfl
    | _ => exact absurd hn hnotified

theorem told_step (h : s.Told p) (ev : Event α) : (s.step p ev).Told p :=
  ⟨tested_step h.tested ev, served_step h.tested h.served ev, flagged_step h ev, quiet_step h ev, awake_step h ev⟩

theorem told_exec (h : s.Told p) (evs : List (Event α)) : (Run.exec (step p) s evs).Told p :=
  Run.invariant (P := Told p) (fun _ ev h => told_step h ev) evs h

/-! ### How long the consumers go on -/

/-- No consumer can take another step of its own. -/
def Final (p : Protocol) (s : State α) : Prop := ∀ ev : Event α, ev.isConsumer = true → s.step p ev = s

/-- No consumer can take another step, and no notification is owed. -/
def Rest (p : Protocol) (s : State α) : Prop := ∀ ev : Event α, ev.isInternal = true → s.step p ev = s

/-- A bound for the steps that are still taken without producers, a stopper or a spurious wake-up. -/
def measure (s : State α) : Nat := 2 * s.queue.length + 3 * s.owed + (s.consumers.map Phase.weight).sum

theorem sum_weight_set {l : List (Phase α)} {i : Nat} {c : Phase α} (hi : l[i]? = some c) (d : Phase α) :
    ((l.set i d).map Phase.weight).sum + c.weight = (l.map Phase.weight).sum + d.weight := by
  induction l generalizing i with
  | nil => cases hi
  | cons a l ih =>
    cases i with
    | zero =>
      cases hi
      simp only [List.set_cons_zero, List.map_cons, List.sum_cons]
      omega
    | succ i =>
      have hrest := ih (i := i) hi
      simp only [List.set_cons_succ, List.map_cons, List.sum_cons]
      omega

/-- The weights after one consumer is in another phase. -/
theorem measure_setConsumer {i : Nat} {c : Phase α} (hi : s.consumers[i]? = some c) (d : Phase α) :
    (s.setConsumer i d).measure + c.weight = s.measure + d.weight := by
  have hsum := sum_weight_set hi d
  simp only [measure, setConsumer]
  omega

theorem weight_of_ready {c : Phase α} (h : c.isReady = true) : c.weight = 2 := by
  cases c <;> first | rfl | cases h

/-- **Every step without producers, a stopper or a spurious wake-up lowers the measure.** -/
theorem measure_step (hbatch : 0 < p.batch) {ev : Event α} (hev : ev.isInternal = true) (hne : s.step p ev ≠ s) :
    (s.step p ev).measure < s.measure := by
  have hsteps := steps_step p s ev
  generalize s.step p ev = s' at hsteps hne
  cases hsteps with
  | stutter => exact absurd rfl hne
  | leaves i hi hfree hqueue _ =>
    obtain ⟨c, hi, hc⟩ := hi
    have hset := measure_setConsumer hi .done
    have hw := weight_of_ready hc
    have hdone : (Phase.done : Phase α).weight = 0 := rfl
    omega
  | tests i hi hfree hqueue _ =>
    obtain ⟨c, hi, hc⟩ := hi
    have hset := measure_setConsumer hi .checked
    have hw := weight_of_ready hc
    have hchecked : (Phase.checked : Phase α).weight = 1 := rfl
    omega
  | takes i hi hfree hqueue =>
    obtain ⟨c, hi, hc⟩ := hi
    have hset := measure_setConsumer (s := { s with queue := s.queue.drop p.batch }) hi
      (.working (s.queue.take p.batch))
    have hlength := List.length_drop (i := p.batch) (l := s.queue)
    have hpos := List.length_pos_of_ne_nil hqueue
    rw [weight_of_ready hc] at hset
    simp only [measure, Phase.weight] at hset ⊢
    omega
  | parks i hi =>
    have hset := measure_setConsumer hi .parked
    simp only [Phase.weight] at hset
    omega
  | finishes i items hi =>
    have hset := measure_setConsumer hi .outside
    simp only [Phase.weight] at hset
    omega
  | notifies i hi howed =>
    have hset := measure_setConsumer (s := { s with owed := s.owed - 1 }) hi .woken
    simp only [measure, Phase.weight] at hset ⊢
    omega
  | unheard i hnone howed =>
    simp only [measure]
    omega
  | wakes | pushes | removes | stops | syncs | notifiesAll => cases hev

/-- **Only so many steps are taken without producers, a stopper or a spurious wake-up.** -/
theorem length_le_measure (hbatch : 0 < p.batch) {evs : List (Event α)}
    (hevs : Run.Along (step p) (fun s ev => ev.isInternal = true ∧ s.step p ev ≠ s) s evs) : evs.length ≤
      s.measure := by
  induction evs generalizing s with
  | nil => exact Nat.zero_le _
  | cons ev evs ih =>
    obtain ⟨⟨hev, hne⟩, hrest⟩ := hevs
    have hlt := measure_step hbatch hev hne
    have hle := ih hrest
    rw [List.length_cons]
    omega

/-! ### What each consumer can do -/

/-- An event that names a consumer is a step of that consumer. -/
theorem step_consumer {i : Nat} {c : Phase α} {ev : Event α} (hev : ev.consumer = some i)
    (hi : s.consumers[i]? = some c) :
    s.step p ev = s.stepConsumer p i c ev := by
  unfold step
  rw [hev]
  dsimp only
  rw [hi]

/-- An event that names no consumer there is does nothing. -/
theorem step_nobody {i : Nat} {ev : Event α} (hev : ev.consumer = some i) (hi : s.consumers[i]? = none) :
    s.step p ev = s := by
  unfold step
  rw [hev]
  dsimp only
  rw [hi]

theorem step_park {i : Nat} (hi : s.consumers[i]? = some .checked) : s.step p (.park i) = s.setConsumer i .parked :=
  step_consumer rfl hi

theorem step_finish {i : Nat} {items : List α} (hi : s.consumers[i]? = some (.working items)) :
    s.step p (.finish i) = s.setConsumer i .outside := step_consumer rfl hi

theorem step_check {i : Nat} {c : Phase α} (hi : s.consumers[i]? = some c) (hc : c.isReady = true)
    (hfree : s.free = true) :
    s.step p (.check i) = s.check p i := by
  rw [step_consumer rfl hi]
  cases c with
  | outside | woken => exact if_pos hfree
  | _ => cases hc

/-- A consumer whose turn has not come does not test. -/
theorem step_check_of_not {i : Nat} (h : ∀ c, s.consumers[i]? = some c → (c.isReady && s.free) = false) :
    s.step p (.check i) = s := by
  cases hi : s.consumers[i]? with
  | none => exact step_nobody rfl hi
  | some c =>
    have hturn := h c hi
    rw [step_consumer rfl hi]
    cases c with
    | outside | woken =>
      rw [Phase.isReady, Bool.true_and] at hturn
      exact if_neg (by rw [hturn]; exact Bool.false_ne_true)
    | _ => rfl

/-- What has fewer steps before it is another state. -/
theorem ne_of_measure {s s' : State α} (h : s'.measure ≠ s.measure) : s' ≠ s := fun heq => h (congrArg measure heq)

/-- A step that puts a consumer into another phase is not nothing. -/
theorem step_ne {i : Nat} {c : Phase α} (hi : s.consumers[i]? = some c) {ev : Event α} {t : State α} {d : Phase α}
    (hstep : s.step p ev = t.setConsumer i d) (ht : t.consumers = s.consumers) (hcd : c ≠ d) : s.step p ev ≠ s := by
  intro heq
  have hset : (s.step p ev).consumers[i]? = some d := by
    rw [hstep, setConsumer, ht]
    exact List.getElem?_set_self (List.getElem?_eq_some_iff.1 hi).1
  rw [heq, hi] at hset
  exact hcd (Option.some.inj hset)

/-- Who is not asleep, gone or kept from the mutex has a step of its own. -/
theorem exists_step {i : Nat} {c : Phase α} (hi : s.consumers[i]? = some c)
    (hc : c.isChecked = true ∨ (c.isAwake = true ∧ (c.isReady = true → s.free = true))) :
    ∃ ev : Event α, ev.isConsumer = true ∧ s.step p ev ≠ s := by
  cases c with
  | checked => exact ⟨.park i, rfl, step_ne hi (step_park hi) rfl (by simp)⟩
  | working items => exact ⟨.finish i, rfl, step_ne hi (step_finish hi) rfl (by simp)⟩
  | outside | woken =>
    -- who locks the mutex takes something, leaves or begins to wait
    rcases hc with hc | ⟨-, hfree⟩
    · cases hc
    · have hstep := step_check (p := p) hi rfl (hfree rfl)
      refine ⟨.check i, rfl, ?_⟩
      by_cases hqueue : s.queue.isEmpty = true
      · rw [check, if_pos hqueue] at hstep
        refine step_ne hi hstep rfl ?_
        split <;> simp
      · rw [check, if_neg hqueue] at hstep
        exact step_ne hi hstep rfl (by simp)
  | parked => rcases hc with hc | ⟨hc, -⟩ <;> cases hc
  | done => rcases hc with hc | ⟨hc, -⟩ <;> cases hc

theorem isInternal_of_isConsumer {ev : Event α} (h : ev.isConsumer = true) : ev.isInternal = true := by
  cases ev <;> first | rfl | cases h

/-- Where nothing is left to do nobody holds the mutex. -/
theorem free_of_final (hfinal : s.Final p) : s.free = true := by
  refine List.all_eq_true.2 fun c hc => ?_
  obtain ⟨i, hi⟩ := List.mem_iff_getElem?.1 hc
  rw [Bool.not_eq_true']
  refine Bool.eq_false_iff.2 fun hchecked => ?_
  obtain ⟨ev, hev, hne⟩ := exists_step (p := p) hi (.inl hchecked)
  exact hne (hfinal ev hev)

/-- Where no consumer has a step left each is parked or gone. -/
theorem final_cases (hfinal : s.Final p) {c : Phase α} (hc : c ∈ s.consumers) :
    c.isParked = true ∨ c.isDone = true := by
  obtain ⟨i, hi⟩ := List.mem_iff_getElem?.1 hc
  have hfree := free_of_final hfinal
  have hasleep : ¬ (c.isChecked = true ∨ (c.isAwake = true ∧ (c.isReady = true → s.free = true))) := by
    intro hstep
    obtain ⟨ev, hev, hne⟩ := exists_step (p := p) hi hstep
    exact hne (hfinal ev hev)
  cases c with
  | outside => exact absurd (.inr ⟨rfl, fun _ => hfree⟩) hasleep
  | woken => exact absurd (.inr ⟨rfl, fun _ => hfree⟩) hasleep
  | working items => exact absurd (.inr ⟨rfl, fun _ => hfree⟩) hasleep
  | checked => exact absurd (.inl rfl) hasleep
  | parked => exact .inl rfl
  | done => exact .inr rfl

/-- Where each is parked or gone no consumer has a step left. -/
theorem final_of_asleep (h : ∀ c ∈ s.consumers, c.isParked = true ∨ c.isDone = true) : s.Final p := by
  intro ev hev
  have hsteps := steps_step p s ev
  have hready : ∀ {i : Nat} {c : Phase α}, s.consumers[i]? = some c → c.isReady = true → False := by
    intro i c hi hc
    have hasleep : c.isReady = false := by
      rcases h c (List.mem_of_getElem? hi) with h | h <;> cases c <;> first | rfl | cases h
    exact Bool.false_ne_true (hasleep.symm.trans hc)
  generalize s.step p ev = s' at hsteps
  cases hsteps with
  | stutter => rfl
  | leaves i hi _ _ _ | tests i hi _ _ _ | takes i hi _ _ =>
    obtain ⟨c, hi, hc⟩ := hi
    exact (hready hi hc).elim
  | parks i hi => rcases h _ (List.mem_of_getElem? hi) with h | h <;> cases h
  | finishes i items hi => rcases h _ (List.mem_of_getElem? hi) with h | h <;> cases h
  | wakes | notifies | unheard | pushes | removes | stops | syncs | notifiesAll => cases hev

/-- And where no notification is owed nothing is left to do. -/
theorem rest_of_asleep (h : ∀ c ∈ s.consumers, c.isParked = true ∨ c.isDone = true) (howed : s.owed = 0) :
    s.Rest p := by
  intro ev hev
  cases ev with
  | notify i =>
    simp only [step, Event.consumer]
    cases s.consumers[i]? with
    | none => rfl
    | some c => cases c <;> exact if_pos howed
  | check i => exact final_of_asleep h (.check i) rfl
  | park i => exact final_of_asleep h (.park i) rfl
  | finish i => exact final_of_asleep h (.finish i) rfl
  | _ => cases hev

/-- **When everything has come to rest the queue is empty**, unless all consumers are gone. -/
theorem rest_cases (hserved : s.Served) (hrest : s.Rest p) : s.queue = [] ∨ ∀ c ∈ s.consumers, c.isDone = true := by
  have hcases := fun c => final_cases (p := p) (s := s) (c := c) fun ev hev => hrest ev (isInternal_of_isConsumer hev)
  by_cases hqueue : s.queue = []
  · exact .inl hqueue
  · refine .inr ?_
    rcases hserved hqueue with howed | ⟨c, hc, hawake⟩ | hall
    · -- a notification that is owed goes to somebody who is parked
      intro c hc
      refine (hcases c hc).resolve_left fun hparked => ?_
      obtain ⟨i, hi⟩ := List.mem_iff_getElem?.1 hc
      cases c with
      | parked =>
        have hstep : s.step p (.notify i) = { s with owed := s.owed - 1 }.setConsumer i .woken := by
          rw [step_consumer rfl hi]
          exact (if_neg howed).trans (if_pos rfl)
        exact step_ne hi hstep rfl (by simp) (hrest (.notify i) rfl)
      | _ => cases hparked
    · have hasleep : c.isAwake = false := by
        rcases hcases c hc with h | h <;> cases c <;> first | rfl | cases h
      exact absurd (hasleep.symm.trans hawake) Bool.false_ne_true
    · exact hall

/-! ### Who waits for ever -/

/-- A consumer's own step stores no flag and takes none back. -/
theorem stop_step {ev : Event α} (hev : ev.isConsumer = true) : (s.step p ev).stop = s.stop := by
  have hsteps := steps_step p s ev
  generalize s.step p ev = s' at hsteps
  cases hsteps <;> first | rfl | cases hev

/-- Whether a consumer is between its test and the end of its wait. -/
def waitingAt (s : State α) (i : Nat) : Bool := s.consumers[i]?.any Phase.isWaiting

theorem waitingAt_setConsumer {i : Nat} {c d : Phase α} (hi : s.consumers[i]? = some c)
    (hcd : c.isWaiting = d.isWaiting)
    (j : Nat) : (s.setConsumer i d).waitingAt j = s.waitingAt j := by
  have hlt := (List.getElem?_eq_some_iff.1 hi).1
  simp only [waitingAt, setConsumer]
  rcases eq_or_ne i j with rfl | hne
  · rw [List.getElem?_set_self hlt, hi, Option.any_some, Option.any_some, hcd]
  · rw [List.getElem?_set_ne hne]

/-- **After the flag is stored no consumer begins to wait, and none that waits ends it of itself.** -/
theorem waitingAt_step (hstop : s.stop = true) {ev : Event α} (hev : ev.isConsumer = true) (j : Nat) :
    (s.step p ev).waitingAt j = s.waitingAt j := by
  have hsteps := steps_step p s ev
  generalize s.step p ev = s' at hsteps
  have hready : ∀ {c : Phase α}, c.isReady = true → c.isWaiting = false := by
    intro c hc
    cases c <;> first | rfl | cases hc
  cases hsteps with
  | stutter => rfl
  | leaves i hi hfree hqueue _ =>
    obtain ⟨c, hi, hc⟩ := hi
    exact waitingAt_setConsumer (d := .done) hi (hready hc) j
  | tests i hi hfree hqueue hstop' => exact absurd (hstop'.symm.trans hstop) Bool.false_ne_true
  | takes i hi hfree hqueue =>
    obtain ⟨c, hi, hc⟩ := hi
    exact waitingAt_setConsumer (s := { s with queue := s.queue.drop p.batch })
      (d := .working (s.queue.take p.batch)) hi
      (hready hc) j
  | parks i hi => exact waitingAt_setConsumer (d := .parked) hi rfl j
  | finishes i items hi => exact waitingAt_setConsumer (d := .outside) hi rfl j
  | wakes | notifies | unheard | pushes | removes | stops | syncs | notifiesAll => cases hev

theorem waitingAt_exec (hstop : s.stop = true) {evs : List (Event α)}
    (hevs : ∀ ev ∈ evs, ev.isConsumer = true) (j : Nat) :
    (Run.exec (step p) s evs).waitingAt j = s.waitingAt j ∧ (Run.exec (step p) s evs).stop = true := by
  induction evs generalizing s with
  | nil => exact ⟨rfl, hstop⟩
  | cons ev evs ih =>
    obtain ⟨hev, hrest⟩ := List.forall_mem_cons.1 hevs
    have hnext := ih (s := s.step p ev) (by rw [stop_step hev, hstop]) hrest
    exact ⟨hnext.1.trans (waitingAt_step hstop hev j), hnext.2⟩

/-- Whom a notification of all does not reach: who has tested and does not wait yet. -/
theorem waitingAt_notifyAll (hstop : s.stop = true) (hsynced : p.synced = true → s.synced = true) (i : Nat) :
    (s.step p .notifyAll).waitingAt i = s.consumers[i]?.any Phase.isChecked := by
  have hcond : (s.stop && (s.synced || !p.synced)) = true := by
    cases hp : p.synced with
    | false => simp [hstop]
    | true => simp [hstop, hsynced hp]
  have hstep : s.step p .notifyAll = { s with notified := true, consumers := s.consumers.map Phase.wake } := if_pos hcond
  rw [hstep, waitingAt, List.getElem?_map]
  cases s.consumers[i]? with
  | none => rfl
  | some c => cases c <;> rfl

/-- **Who waits for the consumers to end waits for ever exactly when the notification came between a test and a
wait**: the consumers that have no step left after it are all gone if and only if none had tested and not yet begun to
wait. -/
theorem all_done_iff (hstop : s.stop = true) (hsynced : p.synced = true → s.synced = true) {evs : List (Event α)}
    (hevs : ∀ ev ∈ evs, ev.isConsumer = true) (hfinal : (Run.exec (step p) (s.step p .notifyAll) evs).Final p) :
    (∀ c ∈ (Run.exec (step p) (s.step p .notifyAll) evs).consumers, c.isDone = true) ↔
      ∀ c ∈ s.consumers, c.isChecked = false := by
  have hstop' : (s.step p .notifyAll).stop = true := by
    simp only [step, Event.consumer, stepShared]
    split <;> exact hstop
  have hwaiting : ∀ i, (Run.exec (step p) (s.step p .notifyAll) evs).waitingAt i =
      s.consumers[i]?.any Phase.isChecked :=
    fun i => (waitingAt_exec hstop' hevs i).1.trans (waitingAt_notifyAll hstop hsynced i)
  generalize Run.exec (step p) (s.step p .notifyAll) evs = t at hfinal hwaiting
  constructor
  · intro hdone c hc
    obtain ⟨i, hi⟩ := List.mem_iff_getElem?.1 hc
    have hw := hwaiting i
    rw [hi, Option.any_some, waitingAt] at hw
    refine hw.symm.trans ?_
    cases hd : t.consumers[i]? with
    | none => rfl
    | some d =>
      have hgone := hdone d (List.mem_of_getElem? hd)
      cases d <;> first | rfl | cases hgone
  · intro hnone c hc
    obtain ⟨i, hi⟩ := List.mem_iff_getElem?.1 hc
    refine (final_cases hfinal hc).resolve_left fun hparked => ?_
    have hw := hwaiting i
    rw [waitingAt, hi, Option.any_some, Phase.isWaiting, hparked, Bool.or_true] at hw
    obtain ⟨d, hd, hchecked⟩ := (Option.any_eq_true _ _).1 hw.symm
    exact Bool.false_ne_true ((hnone d (List.mem_of_getElem? hd)).symm.trans hchecked)

end State

end FlowObs.Waiters
