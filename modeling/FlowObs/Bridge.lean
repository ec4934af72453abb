import FlowObs.Metered

/-!
# A counter that goes on

An accumulator that is handed on with its last reading bridges the time in between: its next reading is compared with
that one.

- Two accumulators with the same last reading stay a constant apart, whatever they are called with (`Ahead.step`,
`Ahead.run`).
- So the calls that follow add what they come to on their own, with one interval unknown, exactly when the first of
  them ends the interval or regresses and restarts it (`startsAnew_iff`).
- A ledger hands its counters the calls of all that it took since (`counter_since`), the entries it folded out under
  its own policy, and those it retains under that of the view (`SourceLedger.since`).
-/

namespace FlowObs

namespace CounterAccumulator

/-! ## Calls under different policies -/

/-- The accumulator after a sequence of calls, each with its own treatment of a regression. -/
def play (a : CounterAccumulator) (l : List (Bool × Option UInt64)) : CounterAccumulator :=
  l.foldl (fun a c => a.call c.1 c.2) a

@[simp] theorem play_nil (a : CounterAccumulator) : a.play [] = a := rfl
@[simp] theorem play_cons (a : CounterAccumulator) (c : Bool × Option UInt64) (l : List (Bool × Option UInt64)) :
    a.play (c :: l) = (a.call c.1 c.2).play l := rfl

theorem play_append (a : CounterAccumulator) (l l' : List (Bool × Option UInt64)) :
    a.play (l ++ l') = (a.play l).play l' :=
  List.foldl_append

theorem play_map (restart : Bool) (a : CounterAccumulator) (l : List (Option UInt64)) :
    a.play (l.map (restart, ·)) = a.calls restart l := by
  rw [play, calls, List.foldl_map]

/-! ## A constant apart -/

/-- Two accumulators read alike, the second `base` and `unknown` ahead of the first. -/
structure Ahead (base : Nat) (unknown : UInt64) (own a : CounterAccumulator) : Prop where
  ownPaired : own.Paired
  paired : a.Paired
  last : a.last = own.last
  accumulated : a.accumulated.toNat = min (2 ^ 64 - 1) (base + own.accumulated.toNat)
  unknownIntervals : a.unknownIntervals = unknown + own.unknownIntervals

/-- What a later reading adds, whether or not the flag of the accumulator is set. -/
theorem accumulated_observe_later {a : CounterAccumulator} {previous : UInt64} (restart : Bool) (value : UInt64)
    (h : a.Paired)
    (hlast : a.last = some previous) : (a.observe value restart).1.accumulated.toNat
      = min (2 ^ 64 - 1) (a.accumulated.toNat + (value.toNat - previous.toNat)) := by
  have hflag : ({ a with saturated := false }.observe value restart).1.accumulated =
      (a.observe value restart).1.accumulated := by
    unfold observe
    dsimp only
    split
    · rfl
    · split
      · split <;> rfl
      · split
        · rfl
        · split <;> rfl
  have hlt := a.accumulated.toNat_lt
  have htallies : Tallies { a with saturated := false } a.accumulated.toNat := by
    constructor
    · show a.accumulated.toNat = _
      omega
    · simp only [Bool.false_eq_true, false_iff]
      omega
  have hlater := (observe_later restart value (a := { a with saturated := false }) h hlast).2.2.2 _ htallies
  rw [← hflag]
  exact hlater.accumulated

/-- **A call keeps two accumulators a constant apart.** -/
theorem Ahead.step {base : Nat} {unknown : UInt64} {own a : CounterAccumulator} (h : Ahead base unknown own a)
    (c : Bool × Option UInt64) : Ahead base unknown (own.call c.1 c.2) (a.call c.1 c.2) := by
  obtain ⟨restart, call⟩ := c
  have hunknown := h.unknownIntervals
  cases call with
  | none =>
    refine ⟨rfl, rfl, rfl, h.accumulated, ?_⟩
    show (if a.last.isSome then _ else _) = unknown + if own.last.isSome then _ else _
    rw [h.last, hunknown]
    split
    · exact UInt64.add_assoc _ _ _
    · rfl
  | some value =>
    cases hlast : own.last with
    | none =>
      have hfirst : a.call restart (some value) = { a with baseline := some value, last := some value } :=
        observe_first restart h.paired (h.last.trans hlast)
      have hfirst' : own.call restart (some value) = { own with baseline := some value, last := some value } :=
        observe_first restart h.ownPaired hlast
      rw [hfirst, hfirst']
      exact ⟨rfl, rfl, rfl, h.accumulated, hunknown⟩
    | some previous =>
      obtain ⟨hpaired, hnext, hmore, -⟩ := observe_later restart value h.paired (h.last.trans hlast)
      obtain ⟨hpaired', hnext', hmore', -⟩ := observe_later restart value h.ownPaired hlast
      have hsum := accumulated_observe_later restart value h.paired (h.last.trans hlast)
      have hsum' := accumulated_observe_later restart value h.ownPaired hlast
      refine ⟨hpaired', hpaired, hnext.trans hnext'.symm, ?_, ?_⟩
      · show (a.observe value restart).1.accumulated.toNat =
          min _ (base + (own.observe value restart).1.accumulated.toNat)
        have hbefore := h.accumulated
        omega
      · refine hmore.trans ?_
        show _ = unknown + (own.observe value restart).1.unknownIntervals
        rw [hmore', hunknown, UInt64.add_assoc]

theorem Ahead.run {base : Nat} {unknown : UInt64} (l : List (Bool × Option UInt64)) {own a : CounterAccumulator}
    (h : Ahead base unknown own a) : Ahead base unknown (own.play l) (a.play l) := by
  induction l generalizing own a with
  | nil => exact h
  | cons c l ih => exact ih (h.step c)

/-- Two accumulators that hold a regression have the same intervals unknown, up to a constant, whatever their last
readings. -/
structure Level (unknown : UInt64) (own a : CounterAccumulator) : Prop where
  ownPaired : own.Paired
  paired : a.Paired
  read : a.last.isSome = own.last.isSome
  unknownIntervals : a.unknownIntervals = unknown + own.unknownIntervals

theorem Level.step {unknown : UInt64} {own a : CounterAccumulator} (h : Level unknown own a) (call : Option UInt64) :
    Level unknown (own.call false call) (a.call false call) := by
  have hunknown := h.unknownIntervals
  cases call with
  | none =>
    refine ⟨rfl, rfl, rfl, ?_⟩
    show (if a.last.isSome then _ else _) = unknown + if own.last.isSome then _ else _
    rw [h.read, hunknown]
    split
    · exact UInt64.add_assoc _ _ _
    · rfl
  | some value =>
    have hread := h.read
    cases hown : own.last with
    | none =>
      rw [hown, Option.isSome_none, Option.isSome_eq_false_iff, Option.isNone_iff_eq_none] at hread
      have hfirst : a.call false (some value) = { a with baseline := some value, last := some value } :=
        observe_first false h.paired hread
      have hfirst' : own.call false (some value) = { own with baseline := some value, last := some value } :=
        observe_first false h.ownPaired hown
      rw [hfirst, hfirst']
      exact ⟨rfl, rfl, rfl, hunknown⟩
    | some previous =>
      rw [hown, Option.isSome_some] at hread
      obtain ⟨last, hlast⟩ := Option.isSome_iff_exists.1 hread
      obtain ⟨hpaired, hnext, hmore, -⟩ := observe_later false value h.paired hlast
      obtain ⟨hpaired', hnext', hmore', -⟩ := observe_later false value h.ownPaired hown
      refine ⟨hpaired', hpaired, ?_, ?_⟩
      · show (a.observe value false).1.last.isSome = (own.observe value false).1.last.isSome
        rw [hnext, hnext']
        rfl
      · refine hmore.trans ?_
        show _ = unknown + (own.observe value false).1.unknownIntervals
        rw [hmore', hunknown]
        simp

theorem Level.run {unknown : UInt64} {l : List (Bool × Option UInt64)} (hheld : ∀ c ∈ l, c.1 = false)
    {own a : CounterAccumulator} (h : Level unknown own a) : Level unknown (own.play l) (a.play l) := by
  induction l generalizing own a with
  | nil => exact h
  | cons c l ih =>
    have hc := hheld c List.mem_cons_self
    rw [play_cons, play_cons, hc]
    exact ih (fun c' hc' => hheld c' (List.mem_cons_of_mem _ hc')) (h.step c.2)

/-! ## Starting anew -/

/-- **Calls are accounted for from a new interval**: they add to `a` what they come to on their own, and one interval
more is unknown. -/
structure StartsAnew (a own after : CounterAccumulator) : Prop where
  accumulated : after.accumulated.toNat = min (2 ^ 64 - 1) (a.accumulated.toNat + own.accumulated.toNat)
  unknownIntervals : after.unknownIntervals = a.unknownIntervals + 1 + own.unknownIntervals

/-- One interval more is not none more. -/
theorem not_startsAnew {a own after : CounterAccumulator}
    (h : after.unknownIntervals = a.unknownIntervals + own.unknownIntervals) :
    ¬ a.StartsAnew own after := by
  rintro ⟨-, hone⟩
  rw [h] at hone
  grind

/-- **When the calls after a reading start anew**, those that restart at a regression before those that hold it: the
first of them ends the interval, or it reads less than before and restarts it. -/
theorem startsAnew_iff {a : CounterAccumulator} {last : UInt64} (hlast : a.last = some last)
    {l : List (Bool × Option UInt64)}
    (hheld : l.Pairwise (fun c c' => c.1 = false → c'.1 = false)) :
    a.StartsAnew (({} : CounterAccumulator).play l) (a.play l) ↔ (∃ restart, l.head? = some (restart, none)) ∨
      a.baseline.isSome = true ∧ ∃ value, l.head? = some (true, some value) ∧ value < last := by
  have hlt := a.accumulated.toNat_lt
  cases l with
  | nil =>
    have hnot : ¬ a.StartsAnew {} a := not_startsAnew (by simp)
    simpa using hnot
  | cons c l =>
    obtain ⟨restart, call⟩ := c
    rw [play_cons, play_cons]
    cases call with
    | none =>
      have hahead : Ahead a.accumulated.toNat (a.unknownIntervals + 1) (({} : CounterAccumulator).call restart none)
          (a.call restart none) := by
        refine ⟨rfl, rfl, rfl, ?_, ?_⟩
        · show a.accumulated.toNat = min (2 ^ 64 - 1) (a.accumulated.toNat + 0)
          omega
        · show (if a.last.isSome then a.unknownIntervals + 1 else a.unknownIntervals) = a.unknownIntervals + 1 + 0
          rw [hlast]
          simp
      have hrun := hahead.run l
      exact ⟨fun _ => .inl ⟨restart, rfl⟩, fun _ => ⟨hrun.accumulated, hrun.unknownIntervals⟩⟩
    | some value =>
      have hown : ({} : CounterAccumulator).call restart (some value) =
          { baseline := some value, last := some value } := rfl
      simp only [List.head?_cons, Option.some.injEq, Prod.mk.injEq, reduceCtorEq, and_false, exists_const, false_or]
      by_cases hpaired : a.baseline.isSome = true
      · have hp : a.Paired := by
          rw [Paired, hpaired, hlast]
          rfl
        by_cases hfall : restart = true ∧ value < last
        · -- the regression restarts the interval
          obtain ⟨rfl, hfall⟩ := hfall
          obtain ⟨hp', hlast', hmore, -⟩ := observe_fall true hp hlast hfall
          have hsum := accumulated_observe_later true value hp hlast
          have hle := UInt64.lt_iff_toNat_lt.1 hfall
          have hahead : Ahead a.accumulated.toNat (a.unknownIntervals + 1)
            (({} : CounterAccumulator).call true (some value))
              (a.call true (some value)) := by
            rw [hown]
            refine ⟨rfl, hp', hlast', ?_, ?_⟩
            · show (a.observe value true).1.accumulated.toNat = min (2 ^ 64 - 1) (a.accumulated.toNat + 0)
              omega
            · refine hmore.trans ?_
              simp
          have hrun := hahead.run l
          exact ⟨fun _ => ⟨hpaired, value, ⟨rfl, rfl⟩, hfall⟩, fun _ => ⟨hrun.accumulated, hrun.unknownIntervals⟩⟩
        · have hsame : (a.call restart (some value)).unknownIntervals = a.unknownIntervals := by
            have hmore := (observe_later restart value hp hlast).2.2.1
            refine hmore.trans ?_
            have hnone : (restart && decide (value < last)) = false := by
              simpa using hfall
            rw [hnone]
            simp
          have hnot : ¬ (a.baseline.isSome = true ∧ ∃ v, (restart = true ∧ value = v) ∧ v < last) := by
            rintro ⟨-, v, ⟨hr, rfl⟩, hv⟩
            exact hfall ⟨hr, hv⟩
          refine iff_of_false (not_startsAnew ?_) hnot
          obtain ⟨hp', hlast', -, -⟩ := observe_later restart value hp hlast
          cases restart with
          | true =>
            -- both read alike from here on
            have hahead : Ahead (a.accumulated.toNat + (value.toNat - last.toNat)) a.unknownIntervals
                (({} : CounterAccumulator).call true (some value)) (a.call true (some value)) := by
              rw [hown]
              refine ⟨rfl, hp', hlast', ?_, hsame.trans (by simp)⟩
              exact (accumulated_observe_later true value hp hlast).trans (by simp)
            exact (hahead.run l).unknownIntervals
          | false =>
            have hall : ∀ c ∈ l, c.1 = false := fun c hc => (List.pairwise_cons.1 hheld).1 c hc rfl
            have hlevel : Level a.unknownIntervals (({} : CounterAccumulator).call false (some value))
                (a.call false (some value)) := by
              rw [hown]
              refine ⟨rfl, hp', ?_, hsame.trans (by simp)⟩
              show (a.observe value false).1.last.isSome = true
              rw [hlast']
              rfl
            exact (hlevel.run hall).unknownIntervals
      · -- without a baseline the reading is a first one
        have hfirst : a.call restart (some value) = { a with baseline := some value, last := some value } := by
          simp only [Bool.not_eq_true, Option.isSome_eq_false_iff] at hpaired
          simp [call, observe, hpaired]
        have hahead : Ahead a.accumulated.toNat a.unknownIntervals (({} : CounterAccumulator).call restart (some value))
            (a.call restart (some value)) := by
          rw [hown, hfirst]
          refine ⟨rfl, rfl, rfl, ?_, by simp⟩
          show a.accumulated.toNat = min (2 ^ 64 - 1) (a.accumulated.toNat + 0)
          omega
        exact iff_of_false (not_startsAnew (hahead.run l).unknownIntervals) (fun h => hpaired h.1)

end CounterAccumulator

/-! ## The calls of a ledger -/

section Metered

variable (direction : Direction) (metric : Metric)

/-- The calls of a counter along observations that are folded under policies of their own, from a fold that stands at
`mark`, and for which a terminal state was declared if it is `late`. -/
def metered : Bool → CanonicalKey → List (CounterPolicy × Observation) → List (Bool × Option UInt64)
  | _, _, [] => []
  | late, mark, (policy, obs) :: l =>
    (gap mark obs.canonicalKey ++ if late then [] else obs.observed direction metric).map
      (policy.treatRegressionAsReset, ·)
      ++ metered (late || obs.kind.declares.isSome) (mark.past obs.canonicalKey) l

/-- What is called last of all holds a regression when what is called before it does, if the policies are so. -/
theorem metered_pairwise {l : List (CounterPolicy × Observation)} (hheld : l.Pairwise (fun p q =>
      p.1.treatRegressionAsReset = false → q.1.treatRegressionAsReset = false)) (late : Bool) (mark : CanonicalKey) :
    (metered direction metric late mark l).Pairwise (fun c c' => c.1 = false → c'.1 = false) := by
  have hof : ∀ (l : List (CounterPolicy × Observation)) (late : Bool) (mark : CanonicalKey),
      ∀ c ∈ metered direction metric late mark l, ∃ p ∈ l, c.1 = p.1.treatRegressionAsReset := by
    intro l
    induction l with
    | nil => exact fun _ _ c hc => absurd hc List.not_mem_nil
    | cons p l ih =>
      intro late mark c hc
      rcases List.mem_append.1 hc with hc | hc
      · obtain ⟨call, -, rfl⟩ := List.mem_map.1 hc
        exact ⟨p, List.mem_cons_self, rfl⟩
      · obtain ⟨q, hq, hflag⟩ := ih _ _ c hc
        exact ⟨q, List.mem_cons_of_mem _ hq, hflag⟩
  induction l generalizing late mark with
  | nil => exact .nil
  | cons p l ih =>
    obtain ⟨hfirst, hrest⟩ := List.pairwise_cons.1 hheld
    refine List.pairwise_append.2 ⟨?_, ih hrest _ _, fun c hc c' hc' hflag => ?_⟩
    · exact List.pairwise_map.2 (List.pairwise_iff_forall_sublist.2 fun _ hflag => hflag)
    · obtain ⟨call, -, rfl⟩ := List.mem_map.1 hc
      obtain ⟨q, hq, hflag'⟩ := hof l _ _ c' hc'
      rw [hflag']
      exact hfirst q hq hflag

/-- **What observations do to a counter**, under a step that does to it what applying them does, with what follows
them. -/
theorem play_metered (step : FoldState → Observation → FoldState) (policy : CounterPolicy)
    (hstep : ∀ {α : Type} (field : FoldState → α), (∀ s, field (s.erase false) = field s) →
      ∀ s obs, field (step s obs) = field (applyObservation policy s obs))
    (entries : List Observation) (rest : List (CounterPolicy × Observation)) (s : FoldState) :
    let s' := entries.foldl step s
    (s.counter direction metric).play (metered direction metric s.declared s.mark (entries.map (policy, ·) ++ rest))
      = (s'.counter direction metric).play (metered direction metric s'.declared s'.mark rest) := by
  induction entries generalizing s with
  | nil => rfl
  | cons obs entries ih =>
    have hcounter : (step s obs).counter direction metric = (applyObservation policy s obs).counter direction metric :=
      hstep (fun s => s.counter direction metric) (fun s => by cases direction <;> rfl) s obs
    have hdeclared := hstep FoldState.declared (fun _ => rfl) s obs
    have hmark := hstep FoldState.mark (fun _ => rfl) s obs
    rw [counter_applyObservation] at hcounter
    rw [declared_applyObservation] at hdeclared
    rw [mark_applyObservation] at hmark
    intro s'
    have hgo : (obs :: entries).foldl step s = entries.foldl step (step s obs) := rfl
    simp only [s', hgo]
    rw [← ih (step s obs), hcounter, hdeclared, hmark, List.map_cons, List.cons_append, metered,
      CounterAccumulator.play_append, CounterAccumulator.play_map]

end Metered

namespace SourceLedger

/-- The prefix after an insertion has folded what the insertion folds out. -/
theorem prefixState_insert (l : SourceLedger) (obs : Observation) : (l.insert obs).1.prefixState.toFoldState
    = (l.folds obs).foldl (foldEntry l.counterPolicy) l.prefixState.toFoldState := by
  have hcases := l.insert_cases obs
  generalize (l.insert obs).1 = l' at hcases ⊢
  generalize (l.insert obs).2.kind = kind at hcases
  cases hcases with
  | foreign hforeign => simp [folds, hforeign]
  | refolded _ hi _ => simp [folds, hi]
  | stale _ hi _ => simp [folds, hi]
  | redelivered _ _ stored hf _ => simp [folds, hf]
  | replaced _ _ stored hf _ => simp [folds, hf]
  | outranked _ _ stored hf _ => simp [folds, hf]
  | accepted hb hi hf =>
    rw [compactEntries_foldOut, folds, if_pos ⟨hb, hi, hf⟩]
    rfl

theorem prefixState_insertAll (l : SourceLedger) (arrivals : List Observation) :
    (l.insertAll arrivals).prefixState.toFoldState
    = (l.foldedBy arrivals).foldl (foldEntry l.counterPolicy) l.prefixState.toFoldState := by
  induction arrivals generalizing l with
  | nil => rfl
  | cons obs arrivals ih =>
    have hgo : l.insertAll (obs :: arrivals) = (l.insert obs).1.insertAll arrivals := rfl
    rw [hgo, ih, foldedBy, List.foldl_append, prefixState_insert, (l.insert_source obs).2.2.1]

/-- What a ledger has taken since, in the order in which a view folds it: what it folded out, under its own policy,
and what it retains, under the policy of the view. -/
def since (l : SourceLedger) (counters : CounterPolicy) (arrivals : List Observation) :
    List (CounterPolicy × Observation) :=
  (l.foldedBy arrivals).map (l.counterPolicy, ·) ++ (l.insertAll arrivals).entries.toList.map (counters, ·)

/-- The calls of a counter for what a ledger has taken since. -/
def calledSince (l : SourceLedger) (direction : Direction) (metric : Metric) (counters : CounterPolicy)
    (arrivals : List Observation) : List (Bool × Option UInt64) :=
  metered direction metric l.prefixState.declared l.prefixState.mark (l.since counters arrivals)

variable (l : SourceLedger) (direction : Direction) (metric : Metric) (counters : CounterPolicy)
    (arrivals : List Observation)

/-- **What arrivals do to a counter of a ledger**, as a view folds it. -/
theorem counter_since : ((l.insertAll arrivals).foldAll counters).counter direction metric
    = (l.prefixState.counter direction metric).play (l.calledSince direction metric counters arrivals) := by
  have hfolded := play_metered direction metric (foldEntry l.counterPolicy) l.counterPolicy
    (fun field herase => foldEntry_frame field herase l.counterPolicy) (l.foldedBy arrivals)
    ((l.insertAll arrivals).entries.toList.map (counters, ·)) l.prefixState.toFoldState
  have hretained := play_metered direction metric (applyObservation counters) counters
    (fun _ _ _ _ => rfl) (l.insertAll arrivals).entries.toList [] (l.insertAll arrivals).prefixState.toFoldState
  rw [calledSince, since, hfolded, ← prefixState_insertAll]
  rw [List.append_nil] at hretained
  exact hretained.symm

/-- The calls of a ledger whose own policy restarts at a regression end with those that hold it, if any do. -/
theorem calledSince_pairwise (hreset : l.counterPolicy.treatRegressionAsReset = true) :
    (l.calledSince direction metric counters arrivals).Pairwise (fun c c' => c.1 = false → c'.1 = false) := by
  refine metered_pairwise direction metric (List.pairwise_append.2 ⟨?_, ?_, fun p hp q hq hflag => ?_⟩) _ _
  · exact List.pairwise_map.2 (List.pairwise_iff_forall_sublist.2 fun _ hflag => hflag)
  · exact List.pairwise_map.2 (List.pairwise_iff_forall_sublist.2 fun _ hflag => hflag)
  · obtain ⟨obs, -, rfl⟩ := List.mem_map.1 hp
    rw [hreset] at hflag
    cases hflag

end SourceLedger

end FlowObs
