import FlowObs.Engine.Threads

/-!
# What happens after a freeze

`freeze` stores its flag without the mutex of the engine. A call of `ingest` or `register_source` (and of `submit`,
which goes on as `ingest`) looks at the flag once, behind the mutex, and then does its work: where the flag goes up in
between, it does it after `freeze` has returned. `Freezing` is the engine with its threads (`Threads`) and the call
that is between the two; without a freeze in between the two halves are the call (`enter_finish`).

After a freeze nothing changes as long as no section gets past the flag: `frozen_final`, over every interleaving of
the sections.
-/

namespace FlowObs

open Run

namespace Engine

/-- The calls that look at the flag behind the mutex and then go on. -/
def Op.looks : Op → Bool
  | .ingest _ | .registerSource _ => true
  | _ => false

/-- What a call does that has found the flag down, wherever the flag is by then. -/
def past (e : Engine) (op : Op) : Engine := { { e with frozen := false }.step op with frozen := e.frozen }

end Engine

/-- The section needs the mutex of the engine. The queue has one of its own; joining threads, the stop flag, the clock
and `freeze` need neither. -/
def Threads.Event.locks : Threads.Event → Bool
  | .push _ | .pop _ | .leave _ | .drain _ | .joinWorkers | .stopClose | .joinClose => false
  | .call (.op .freeze) | .call (.op (.advance _)) => false
  | _ => true

/-- The engine with its threads, and the call that holds the mutex and has found the flag down. -/
structure Freezing where
  threads : Threads
  inside : Option Engine.Op := none

namespace Freezing

/-- A section of a thread; the two halves of a call that looks at the flag; and `freeze`. -/
inductive Event
  | thread (ev : Threads.Event)
  | enter (op : Engine.Op)
  | finish
  | freeze

/-- The state with another engine. -/
def withEngine (s : Freezing) (e : Engine) : Freezing := { s with threads := { s.threads with engine := e } }

/-- One event. A section that needs the mutex waits while a call holds it. -/
def step (s : Freezing) : Event → Freezing
  | .thread ev => if s.inside.isSome && ev.locks then s else { s with threads := s.threads.step ev }
  -- the mutex is taken and the flag looked at: a call that finds it up returns
  | .enter op => if s.inside.isSome || !op.looks || s.threads.engine.frozen then s else { s with inside := some op }
  | .finish =>
    match s.inside with
    | none => s
    | some op => { (s.withEngine (s.threads.engine.past op)) with inside := none }
  | .freeze => s.withEngine { s.threads.engine with frozen := true }

/-! ## The two halves of a call -/

theorem step_looks_frozen (e : Engine) {op : Engine.Op} (h : op.looks = true) : (e.step op).frozen = e.frozen := by
  cases op with
  | ingest obs =>
    simp only [Engine.step, Engine.ingest]
    split
    · rfl
    · split
      · rfl
      · obtain ⟨_, _, _, _, _, _, he⟩ := Engine.sameSettings_applyLocked e obs
        rw [he]
  | registerSource d =>
    have happend : (e.appendSource d).1.frozen = e.frozen := by
      obtain ⟨_, _, _, he⟩ := Engine.sameTables_appendSource e d
      rw [he]
    have hcases := Engine.registerSource_cases e d
    simp only [Engine.step]
    generalize e.registerSource d = result at hcases ⊢
    cases hcases with
    | unjournaled _ _ _ hj | fresh _ _ _ _ hj =>
      rw [hj] at happend
      exact happend
    | _ => rfl
  | _ => cases h

/-- A call that finds the flag up changes nothing. -/
theorem step_looks_stopped {e : Engine} {op : Engine.Op} (h : op.looks = true) (hfrozen : e.frozen = true) :
    e.step op = e := by
  cases op with
  | ingest obs =>
    simp only [Engine.step, Engine.ingest, hfrozen, if_true]
    split <;> rfl
  | registerSource d =>
    simp only [Engine.step, Engine.registerSource, hfrozen, if_true]
    split <;> rfl
  | _ => cases h

/-- **The two halves are the call**, when nothing comes in between. -/
theorem enter_finish {s : Freezing} (hfree : s.inside = none) {op : Engine.Op} (h : op.looks = true) :
    (s.step (.enter op)).step .finish = s.step (.thread (.call (.op op))) := by
  have hcall : s.threads.step (.call (.op op)) = { s.threads with engine := s.threads.engine.step op } := by
    cases op with
    | ingest obs => rfl
    | registerSource d => rfl
    | _ => cases h
  cases hfrozen : s.threads.engine.frozen with
  | true =>
    have hsame := step_looks_stopped h hfrozen
    have hstay : s.step (.enter op) = s := by simp [step, hfrozen]
    rw [hstay]
    simp only [step, hfree, Option.isSome_none, Bool.false_and, Bool.false_eq_true, if_false, hcall, hsame]
    cases s
    cases hfree
    rfl
  | false =>
    have hpast : s.threads.engine.past op = s.threads.engine.step op := by
      have hsame : ({ s.threads.engine with frozen := false } : Engine) = s.threads.engine := by rw [← hfrozen]
      have hkept := step_looks_frozen s.threads.engine h
      unfold Engine.past
      rw [hsame, ← hkept]
    simp only [step, hfree, h, hfrozen, Option.isSome_none, Bool.not_true, Bool.or_false, Bool.false_and,
      Bool.false_eq_true, if_false, hcall, hpast, withEngine]

end Freezing

/-! ## After the freeze -/

namespace Threads

/-- The section does not get past the flag of a frozen engine. A worker and a drain have nothing to apply, or the
drain finds the engine closed; no close clears the engine and no open starts it anew; and a call is spared
(`Engine.Spared`). -/
def Spared (s : Threads) : Event → Prop
  | .work i => s.workers[i]?.getD [] = []
  | .finish i => s.engine.isOpen = true → s.drainers[i]?.getD [] = []
  | .endClose => s.joined = 0
  | .openEngine => s.engine.isOpen = true
  | .call c => c.usesQueue = false → s.engine.Spared c
  | _ => True

end Threads

namespace Freezing

/-- Nothing gets past the flag: a section is spared or waits for the mutex, and no call is behind its look at the
flag. -/
def Spared (s : Freezing) : Event → Prop
  | .thread ev => (s.inside.isSome && ev.locks) = false → s.threads.Spared ev
  | .finish => s.inside = none
  | .enter _ | .freeze => True

end Freezing

namespace Threads

/-- **A section that does not get past the flag changes nothing.** -/
theorem unchanged_step (s : Threads) (ev : Event) (hfrozen : s.engine.frozen = true) (h : s.Spared ev) :
    s.engine.Unchanged (s.step ev).engine ∧ (s.step ev).engine.frozen = true := by
  have hkept : ∀ e : Engine, e.sources = s.engine.sources → e.flows = s.engine.flows → e.frozen = s.engine.frozen →
      s.engine.Unchanged e ∧ e.frozen = true :=
    fun e hs hf hz => ⟨Engine.unchanged_of_tables hs hf, hz.trans hfrozen⟩
  have hsame : s.engine.Unchanged s.engine ∧ s.engine.frozen = true := ⟨.refl _, hfrozen⟩
  cases ev with
  | enqueue obs =>
    simp only [step]
    split <;> exact hsame
  | push i =>
    simp only [step]
    split
    · exact hsame
    · unfold Engine.pushQueued
      split
      · exact hkept _ rfl rfl rfl
      · exact hkept _ rfl rfl rfl
  | pop i =>
    simp only [step]
    split
    · exact hkept _ rfl rfl rfl
    · exact hsame
  | work i =>
    have hnone : s.workers[i]?.getD [] = [] := h
    simp only [step]
    split
    · exact hsame
    · rename_i batch hbatch
      rw [hbatch] at hnone
      rw [show batch = [] from hnone, List.isEmpty_nil, if_pos rfl]
      exact hsame
  | leave i =>
    simp only [step]
    split <;> exact hsame
  | drain maxObservations =>
    simp only [step]
    split <;> exact hkept _ rfl rfl rfl
  | finish i =>
    simp only [step]
    split
    · exact hsame
    · rename_i batch hbatch
      split
      · exact hsame
      · rename_i hopen
        have hnone : s.drainers[i]?.getD [] = [] := h (by simpa using hopen)
        rw [hbatch] at hnone
        rw [show batch = [] from hnone]
        exact hkept _ rfl rfl rfl
  | startWorkers =>
    simp only [step, startLocked]
    split
    · split <;> exact hsame
    · exact hsame
  | stopWorkers =>
    simp only [step]
    split <;> exact hsame
  | joinWorkers =>
    simp only [step]
    split <;> exact hsame
  | beginClose =>
    simp only [step, Engine.beginClose]
    split
    · exact hsame
    · rename_i e he
      split at he
      · cases he
      · cases he
        exact hkept _ rfl rfl rfl
  | stopClose =>
    simp only [step]
    split <;> exact hsame
  | joinClose =>
    simp only [step]
    split <;> exact hsame
  | endClose =>
    have hnone : s.joined = 0 := h
    simp only [step, hnone, Nat.lt_irrefl, if_false]
    exact hsame
  | openEngine =>
    have hopen : s.engine.isOpen = true := h
    have hrefused : ∃ err, s.engine.openEngine = (s.engine, .error err) := by
      unfold Engine.openEngine
      split
      · exact ⟨_, rfl⟩
      · rw [if_pos hopen]
        exact ⟨_, rfl⟩
    obtain ⟨err, he⟩ := hrefused
    simp only [step, he]
    exact hsame
  | call c =>
    simp only [step]
    split
    · exact hsame
    · rename_i hqueue
      exact Engine.unchanged_call s.engine c hfrozen (h (Bool.eq_false_iff.2 hqueue))

end Threads

namespace Freezing

/-- An event that does not get past the flag changes nothing. -/
theorem unchanged_step (s : Freezing) (ev : Event) (hfrozen : s.threads.engine.frozen = true) (h : s.Spared ev) :
    s.threads.engine.Unchanged (s.step ev).threads.engine ∧ (s.step ev).threads.engine.frozen = true := by
  cases ev with
  | thread ev =>
    simp only [step]
    split
    · exact ⟨.refl _, hfrozen⟩
    · rename_i hfree
      exact Threads.unchanged_step s.threads ev hfrozen (h (Bool.eq_false_iff.2 hfree))
  | enter op =>
    have hstay : s.step (.enter op) = s := by simp [step, hfrozen]
    rw [hstay]
    exact ⟨.refl _, hfrozen⟩
  | finish =>
    have hnone : s.inside = none := h
    simp only [step, hnone]
    exact ⟨.refl _, hfrozen⟩
  | freeze => exact ⟨Engine.unchanged_of_tables rfl rfl, rfl⟩

/-- **What a frozen engine keeps.** After `freeze`, over any interleaving of the sections of any threads of which none
gets past the flag, no source, no flow, and no state or evidence of a generation changes. -/
theorem frozen_final (s : Freezing) {events : List Event} (h : Along step Spared (s.step .freeze) events) :
    s.threads.engine.Unchanged (exec step (s.step .freeze) events).threads.engine := by
  have hstep : ∀ (t : Freezing) (ev : Event), s.threads.engine.Unchanged t.threads.engine ∧
    t.threads.engine.frozen = true →
      t.Spared ev → s.threads.engine.Unchanged (t.step ev).threads.engine ∧
      (t.step ev).threads.engine.frozen = true := by
    rintro t ev ⟨hsame, hfrozen⟩ hspared
    obtain ⟨hnext, hstill⟩ := unchanged_step t ev hfrozen hspared
    exact ⟨hsame.trans hnext, hstill⟩
  have hfirst : s.threads.engine.Unchanged (s.step .freeze).threads.engine ∧
      (s.step .freeze).threads.engine.frozen = true :=
    ⟨Engine.unchanged_of_tables rfl rfl, rfl⟩
  exact (h.invariant hstep hfirst).1

/-- An engine with an observation in its queue, and another that a producer has had admitted. -/
def queuedThreads : Threads where
  engine := Engine.queuedEngine
  producers := [sampleObservation (sourceIdFromKey (str "a")) .Progress 2 ⟨950⟩]

/-- After `freeze` an observation is ingested, submitted, queued and pushed and a source registered; then a close
begins, and a drain finds the engine closed. -/
theorem frozen_final_queued :
    let a := sampleSource (str "a") {}
    let obs := sampleObservation a.id .Progress 3 ⟨960⟩
    queuedThreads.engine.Unchanged (exec step (step ⟨queuedThreads, none⟩ .freeze)
      [.enter (.ingest obs), .finish, .enter (.registerSource a), .thread (.call (.op (.submit obs))),
        .thread (.enqueue obs),
        .thread (.push 0), .thread (.call (.op .compact)), .thread .beginClose, .thread (.drain 5),
        .thread (.finish 0)]).threads.engine :=
  frozen_final ⟨queuedThreads, none⟩ ⟨trivial, Option.isNone_iff_eq_none.1 (by decide), trivial, fun _ _ => trivial,
    fun _ => trivial, fun _ => trivial,
    fun _ _ => trivial, fun _ => trivial, fun _ => trivial, fun _ hopen => absurd hopen (by decide), trivial⟩

/-- **An observation that was queued before `freeze` is still applied after it**, and so is one that is being
ingested. -/
theorem frozen_can_change :
    (¬ ∀ (s : Freezing) (events : List Event), s.threads.engine.Reachable → s.inside = none →
      s.threads.engine.Unchanged (exec step (s.step .freeze) events).threads.engine) ∧
    ¬ ∀ (s : Freezing) (op : Engine.Op), s.threads.engine.Reachable → s.inside = none →
      (s.step (.enter op)).threads.engine.Unchanged
        (exec step (s.step (.enter op)) [.freeze, .finish]).threads.engine := by
  constructor
  · intro h
    have hflows := (h ⟨queuedThreads, none⟩
      [.thread (.drain 1), .thread (.finish 0)] Engine.reachable_queuedEngine rfl).flows
      sampleFlow
    have hbefore : (queuedThreads.engine.flows.find? sampleFlow).isNone = true := by decide
    have hafter : ((exec step (step ⟨queuedThreads, none⟩ .freeze)
      [.thread (.drain 1), .thread (.finish 0)]).threads.engine.flows.find?
        sampleFlow).isSome = true := by with_unfolding_all decide
    obtain ⟨f, hf⟩ := Option.isSome_iff_exists.1 hafter
    rw [Option.isNone_iff_eq_none.1 hbefore, hf] at hflows
    cases hflows
  · intro h
    let obs := sampleObservation (sourceIdFromKey (str "a")) .Progress 3 ⟨960⟩
    have hflows := (h ⟨queuedThreads, none⟩ (.ingest obs) Engine.reachable_queuedEngine rfl).flows sampleFlow
    have hbefore : ((step ⟨queuedThreads, none⟩ (.enter (.ingest obs))).threads.engine.flows.find? sampleFlow).isNone =
        true := by
      decide
    have hafter : ((exec step (step ⟨queuedThreads, none⟩ (.enter (.ingest obs)))
      [.freeze, .finish]).threads.engine.flows.find?
        sampleFlow).isSome = true := by with_unfolding_all decide
    obtain ⟨f, hf⟩ := Option.isSome_iff_exists.1 hafter
    rw [Option.isNone_iff_eq_none.1 hbefore, hf] at hflows
    cases hflows

end Freezing

end FlowObs
