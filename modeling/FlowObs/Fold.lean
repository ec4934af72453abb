import FlowObs.Reconcile

/-!
# What a fold remembers

Facts about the fold of a source's evidence. The marks of the folded region take no part in it
(`unmark_applyObservation`), so that a prefix with entries on top folds to the same accounting as the ledger persists
(`unmark_foldedState`). A fold that lets a regression alone does not depend on what was folded out
(`erase_foldAll_foldOut`). It stands at the incarnation and the epoch of the last observation with the greatest
revision and sequence it has seen (`mark_foldl`), and what it has declared comes from an observation of its kind
(`declaredTerminal_foldl`).
-/

namespace FlowObs

/-! ## The marks of the folded region -/

/-- The fold without the marks of the folded region. -/
def FoldState.unmark (s : FoldState) : FoldState :=
  { s with foldedIncarnation := default, foldedEpoch := default, foldedRevision := default, foldedSequence := default
           foldedSeqExact := true, foldedSeqLow := 0, foldedSeqBits := 0 }

/-- The fold without the marks and, if `quiet`, without the anomaly counts. -/
def FoldState.erase (quiet : Bool) (s : FoldState) : FoldState :=
  { s.unmark with anomalyCounts := if quiet then [] else s.anomalyCounts }

section Erase

variable (quiet : Bool) (policy : CounterPolicy) (s : FoldState) (obs : Observation)

/-- Nothing is noted where the counts are erased. -/
theorem note_erase (kind : AnomalyKind) : (s.erase true).note kind = s.erase true := by
  simp [FoldState.note, FoldState.erase]

theorem erase_note (kind : AnomalyKind) : (s.note kind).erase quiet = (s.erase quiet).note kind := by
  cases quiet with
  | false => rfl
  | true => exact (note_erase s kind).symm

theorem erase_foldMark (key : CanonicalKey) : (s.foldMark key).erase quiet = s.erase quiet := by
  simp only [FoldState.foldMark]
  split
  · rfl
  · split
    · rfl
    · split <;> rfl

theorem erase_rollUp : (rollUp s obs).erase quiet = rollUp (s.erase quiet) obs := rfl

theorem erase_fence : (fence s obs policy).erase quiet = fence (s.erase quiet) obs policy := by
  have hfields : (s.erase quiet).currentIncarnation = s.currentIncarnation ∧
    (s.erase quiet).currentEpoch = s.currentEpoch ∧
      (s.erase quiet).distinctIncarnations = s.distinctIncarnations := ⟨rfl, rfl, rfl⟩
  simp only [fence, hfields.1, hfields.2.1]
  split
  · cases s.currentIncarnation.valid <;> cases quiet <;> rfl
  · split
    · cases policy.honorExplicitCounterReset && kindAnnouncesCounterRestart obs.kind <;> cases quiet <;> rfl
    · rfl

theorem erase_cover : (cover s obs).erase quiet = cover (s.erase quiet) obs := by
  unfold cover
  cases obs.evidence == .Complete <;> cases obs.direction <;> cases quiet <;> rfl

theorem erase_declare : (declare s obs).erase quiet = declare (s.erase quiet) obs := by
  unfold declare
  cases obs.kind <;> cases quiet <;> rfl

theorem erase_correlate : (correlate s obs).erase quiet = correlate (s.erase quiet) obs := rfl

theorem erase_noteOpt (kind : Option AnomalyKind) : (s.noteOpt kind).erase quiet = (s.erase quiet).noteOpt kind := by
  cases kind with
  | none => rfl
  | some kind => exact erase_note quiet s kind

theorem erase_setAccounting (d : DirectionalAccounting) (direction : Direction) :
    (s.setAccounting d direction).erase quiet = (s.erase quiet).setAccounting d direction := by
  cases direction <;> rfl

theorem erase_accountingFor (direction : Direction) :
    (s.erase quiet).accountingFor direction = s.accountingFor direction := by
  cases direction <;> rfl

theorem erase_count : (count s obs policy).erase quiet = count (s.erase quiet) obs policy := by
  have hprogress : ∀ (s : FoldState) (progress : Bool),
      (if progress then { s with
          lastProgressAt := if s.lastProgressAt < obs.observedAt then obs.observedAt else s.lastProgressAt
          observedProgress := true } else s).erase quiet
        = if progress then { s.erase quiet with
            lastProgressAt :=
              if (s.erase quiet).lastProgressAt < obs.observedAt then obs.observedAt else (s.erase quiet).lastProgressAt
            observedProgress := true } else s.erase quiet := by
    intro s progress
    cases progress <;> rfl
  have hlast : ∀ (s : FoldState) (late : Bool), (if late then s.note .IncompleteEvidence else s).erase quiet
      = if late then (s.erase quiet).note .IncompleteEvidence else s.erase quiet := by
    intro s late
    cases late with
    | false => rfl
    | true => exact erase_note quiet s _
  simp only [count, erase_accountingFor]
  rw [hlast, hprogress, erase_setAccounting, erase_noteOpt, erase_noteOpt, erase_noteOpt]

/-- **The marks and the anomaly counts take no part in a fold.** -/
theorem erase_applyObservation :
    (applyObservation policy s obs).erase quiet = applyObservation policy (s.erase quiet) obs := by
  unfold applyObservation
  have hs : (fence (rollUp s obs) obs policy).erase quiet = fence (rollUp (s.erase quiet) obs) obs policy := by
    rw [erase_fence, erase_rollUp]
  rw [← hs]
  generalize fence (rollUp s obs) obs policy = t
  by_cases hd : t.declared = true
  · rw [if_pos hd, if_pos (show (t.erase quiet).declared = true from hd)]
    rfl
  · rw [if_neg hd, if_neg (show ¬ (t.erase quiet).declared = true from hd), erase_count, erase_correlate, erase_declare,
      erase_cover]

theorem unmark_foldMark (key : CanonicalKey) : (s.foldMark key).unmark = s.unmark := erase_foldMark false s key

/-- **The marks take no part in a fold.** -/
theorem unmark_applyObservation : (applyObservation policy s obs).unmark = applyObservation policy s.unmark obs :=
  erase_applyObservation false policy s obs

end Erase

/-- Two folds that step alike up to what is erased end alike. -/
theorem erase_foldl (quiet : Bool) {step step' : FoldState → Observation → FoldState} (policy : CounterPolicy)
    (h : ∀ s obs, (step s obs).erase quiet = applyObservation policy (s.erase quiet) obs)
    (h' : ∀ s obs, (step' s obs).erase quiet = applyObservation policy (s.erase quiet) obs) (entries : List Observation)
    {s s' : FoldState} (hs : s.erase quiet = s'.erase quiet) :
    (entries.foldl step s).erase quiet = (entries.foldl step' s').erase quiet := by
  induction entries generalizing s s' with
  | nil => exact hs
  | cons obs entries ih =>
    refine ih ?_
    rw [h, h', hs]

/-- **What a ledger persists is what its views show**, when they are folded under the same policy. -/
theorem unmark_foldedState (l : SourceLedger) :
    (l.foldAll l.counterPolicy).unmark = l.foldedState.toFoldState.unmark := by
  unfold SourceLedger.foldAll SourceLedger.foldedState
  have hmarked : ∀ s obs, ((applyObservation l.counterPolicy s obs).foldMark obs.canonicalKey).unmark
      = applyObservation l.counterPolicy s.unmark obs := by
    intro s obs
    rw [unmark_foldMark, unmark_applyObservation]
  cases hback : l.entries.toList.getLast? with
  | none =>
    rw [List.getLast?_eq_none_iff] at hback
    rw [hback]
    rfl
  | some back =>
    simp only
    exact erase_foldl false l.counterPolicy (erase_applyObservation false l.counterPolicy) hmarked l.entries.toList rfl

/-! ## The counter policy -/

/-- A counter value lies below the last one of its interval. -/
def CounterAccumulator.regresses (a : CounterAccumulator) : Option UInt64 → Bool
  | none => false
  | some value => a.baseline.isSome && value < a.last.getD 0

/-- A counter of an observation lies below the last one. -/
def DirectionalAccounting.regresses (d : DirectionalAccounting) (counters : CounterSet) : Bool :=
  d.bytes.regresses counters.bytes || d.packets.regresses counters.packets
    || d.retransmissions.regresses counters.retransmissions

/-- A counter of an observation lies below the last one where the observation is folded. -/
def FoldState.regresses (s : FoldState) (obs : Observation) : Bool :=
  let s := fence (rollUp s obs) obs {}
  !s.declared && (s.accountingFor obs.direction).regresses obs.counters

/-- The policy decides what a regression does, and nothing else of a counter. -/
theorem CounterAccumulator.observe_of_not_regresses {a : CounterAccumulator} {value : UInt64}
    (h : a.regresses (some value) = false) (r r' : Bool) : a.observe value r = a.observe value r' := by
  simp only [CounterAccumulator.regresses, Bool.and_eq_false_iff, decide_eq_false_iff_not] at h
  unfold CounterAccumulator.observe
  split
  · rfl
  · rename_i hbaseline
    have hsome : a.baseline.isSome = true := by
      cases hb : a.baseline with
      | none => simp [hb] at hbaseline
      | some _ => rfl
    have hle : ¬ value < a.last.getD 0 := by
      rcases h with h | h
      · rw [hsome] at h
        cases h
      · exact h
    simp only
    split
    · rfl
    · rename_i hnot
      have heq : value = a.last.getD 0 := by
        have h₁ : value ≤ a.last.getD 0 := UInt64.not_lt.1 hnot
        exact UInt64.le_antisymm h₁ (UInt64.not_lt.1 hle)
      rw [if_pos heq, if_pos heq]

theorem applyCounter_of_not_regresses {evidence : Evidence} {a : CounterAccumulator} {unsupported : Bool}
    {value : Option UInt64} (h : a.regresses value = false) (r r' : Bool) :
    applyCounter evidence r a unsupported value = applyCounter evidence r' a unsupported value := by
  cases value with
  | none => rfl
  | some value =>
    unfold applyCounter
    simp only [CounterAccumulator.observe_of_not_regresses h r r']

section Policy

variable {policy policy' : CounterPolicy} {s : FoldState} {obs : Observation}

theorem fence_erased (policy policy' : CounterPolicy) (s : FoldState) (obs : Observation) :
    fence (s.erase true) obs policy = fence (s.erase true) obs policy' := by
  have hbreak : ∀ b : Bool, (if b then (s.erase true).breakInterval
      else (s.erase true).breakInterval.note .CounterRegression) = (s.erase true).breakInterval := by
    intro b
    cases b <;> rfl
  simp only [fence, hbreak]

/-- The counters are folded alike under policies that treat a regression alike, and when there is none. -/
theorem count_policy (h : policy.treatRegressionAsReset = policy'.treatRegressionAsReset ∨
    (s.accountingFor obs.direction).regresses obs.counters = false) : count s obs policy = count s obs policy' := by
  rcases h with h | h
  · simp only [count, h]
  · simp only [DirectionalAccounting.regresses, Bool.or_eq_false_iff] at h
    obtain ⟨⟨hb, hp⟩, hr⟩ := h
    simp only [count, applyCounter_of_not_regresses hb policy.treatRegressionAsReset policy'.treatRegressionAsReset,
      applyCounter_of_not_regresses hp policy.treatRegressionAsReset policy'.treatRegressionAsReset,
      applyCounter_of_not_regresses hr policy.treatRegressionAsReset policy'.treatRegressionAsReset]

theorem accountingFor_correlate (direction : Direction) :
    (correlate (declare (cover s obs) obs) obs).accountingFor direction = s.accountingFor direction := by
  have hcover : (cover s obs).forward = s.forward ∧ (cover s obs).reverse = s.reverse ∧
      (cover s obs).aggregate = s.aggregate := by
    unfold cover
    cases obs.evidence == .Complete <;> cases obs.direction <;> exact ⟨rfl, rfl, rfl⟩
  have hdeclare : ∀ s : FoldState, (declare s obs).forward = s.forward ∧ (declare s obs).reverse = s.reverse ∧
      (declare s obs).aggregate = s.aggregate := by
    intro s
    unfold declare
    cases obs.kind <;> exact ⟨rfl, rfl, rfl⟩
  obtain ⟨hf, hr, ha⟩ := hdeclare (cover s obs)
  cases direction with
  | Forward => exact hf.trans hcover.1
  | Reverse => exact hr.trans hcover.2.1
  | Aggregate => exact ha.trans hcover.2.2
  | Unspecified => exact ha.trans hcover.2.2

/-- **Two policies fold an observation alike**, up to what is noted, when they treat a regression alike or there is
none. -/
theorem applyObservation_policy
    (h : policy.treatRegressionAsReset = policy'.treatRegressionAsReset ∨ s.regresses obs = false) :
    applyObservation policy (s.erase true) obs = applyObservation policy' (s.erase true) obs := by
  unfold applyObservation
  have hrolled : rollUp (s.erase true) obs = (rollUp s obs).erase true := rfl
  have hfence : fence (rollUp (s.erase true) obs) obs policy' = fence (rollUp (s.erase true) obs) obs policy := by
    rw [hrolled]
    exact fence_erased policy' policy (rollUp s obs) obs
  have hnone : fence (rollUp (s.erase true) obs) obs policy = (fence (rollUp s obs) obs {}).erase true := by
    rw [hrolled, fence_erased policy {}, erase_fence]
  simp only [hfence, hnone]
  split
  · rfl
  · rename_i hd
    refine count_policy (h.imp id (fun h => ?_))
    rw [accountingFor_correlate, erase_accountingFor]
    have hopen : (fence (rollUp s obs) obs {}).declared = false := Bool.eq_false_iff.2 hd
    unfold FoldState.regresses at h
    simpa [hopen] using h

end Policy

/-! ## Folding entries out of a ledger -/

/-- No observation of the list carries a counter below the last one where it is folded. -/
def steadyFrom (policy : CounterPolicy) (s : FoldState) : List Observation → Bool
  | [] => true
  | obs :: entries => !s.regresses obs && steadyFrom policy (applyObservation policy s obs) entries

/-- No observation that the ledger retains carries a counter below the last one where it is folded. -/
def SourceLedger.steady (l : SourceLedger) : Bool :=
  steadyFrom l.counterPolicy l.prefixState.toFoldState l.entries.toList

/-- The ledger after its first `n` entries were folded into the prefix. -/
def SourceLedger.foldOut (l : SourceLedger) (n : Nat) : SourceLedger :=
  { l with
    prefixState := ⟨(l.entries.toList.take n).foldl (foldEntry l.counterPolicy) l.prefixState.toFoldState,
      l.prefixState.foldedObservations + UInt32.ofNat (l.entries.toList.take n).length⟩
    entries := l.entries.drop n }

/-- Compaction folds out what is over the capacity. -/
theorem SourceLedger.compactEntries_foldOut (l : SourceLedger) :
    l.compactEntries.1 = l.foldOut (l.entries.toList.length - l.capacity) := by
  unfold compactEntries foldOut
  simp only [List.length_take, Nat.min_eq_left (Nat.sub_le l.entries.toList.length l.capacity)]
  split
  · rename_i h
    rw [Nat.sub_eq_zero_of_le h, List.take_zero]
    simp [SortedVec.drop]
  · rfl

theorem steadyFrom_append {policy : CounterPolicy} (first rest : List Observation) {s : FoldState}
    (h : steadyFrom policy s (first ++ rest) = true) : steadyFrom policy s first = true ∧
      steadyFrom policy (first.foldl (applyObservation policy) s) rest = true := by
  induction first generalizing s with
  | nil => exact ⟨rfl, h⟩
  | cons obs first ih =>
    simp only [List.cons_append, steadyFrom, Bool.and_eq_true] at h ⊢
    obtain ⟨hfirst, hrest⟩ := ih h.2
    exact ⟨⟨h.1, hfirst⟩, hrest⟩

/-- Two policies that treat a regression alike, or a steady list, give the same fold up to what is noted. -/
theorem erase_foldl_policy {policy policy' : CounterPolicy} (entries : List Observation) {s s' : FoldState}
    (hs : s'.erase true = s.erase true)
    (h : policy.treatRegressionAsReset = policy'.treatRegressionAsReset ∨ steadyFrom policy s entries = true) :
    (entries.foldl (applyObservation policy') s').erase true =
    (entries.foldl (applyObservation policy) s).erase true := by
  induction entries generalizing s s' with
  | nil => exact hs
  | cons obs entries ih =>
    have hsplit : (policy.treatRegressionAsReset = policy'.treatRegressionAsReset ∨ s.regresses obs = false) ∧
        (policy.treatRegressionAsReset = policy'.treatRegressionAsReset ∨
          steadyFrom policy (applyObservation policy s obs) entries = true) := by
      rcases h with h | h
      · exact ⟨.inl h, .inl h⟩
      · simp only [steadyFrom, Bool.and_eq_true, Bool.not_eq_true'] at h
        exact ⟨.inr h.1, .inr h.2⟩
    refine ih ?_ hsplit.2
    rw [erase_applyObservation, hs, erase_applyObservation, applyObservation_policy hsplit.1]

theorem erase_foldEntry (quiet : Bool) (policy : CounterPolicy) (s : FoldState) (obs : Observation) :
    (SourceLedger.foldEntry policy s obs).erase quiet = applyObservation policy (s.erase quiet) obs := by
  have hmarks : (SourceLedger.foldEntry policy s obs).erase quiet
      = ((applyObservation policy s obs).foldMark obs.canonicalKey).erase quiet := rfl
  rw [hmarks, erase_foldMark, erase_applyObservation]

/-- Folding an entry is applying it to what is not erased. -/
theorem foldEntry_frame {α : Type} (field : FoldState → α) (herase : ∀ s, field (FoldState.erase false s) = field s)
    (policy : CounterPolicy) (s : FoldState) (obs : Observation) :
    field (SourceLedger.foldEntry policy s obs) = field (applyObservation policy s obs) := by
  rw [← herase, erase_foldEntry, ← erase_applyObservation, herase]

/-- **A fold does not depend on what was folded out**, up to marks and notes, when the policy treats a regression as the
ledger does or nothing retained regresses. -/
theorem SourceLedger.erase_foldAll_foldOut (l : SourceLedger) (policy : CounterPolicy)
    (h : l.counterPolicy.treatRegressionAsReset = policy.treatRegressionAsReset ∨ l.steady = true) (n : Nat) :
    ((l.foldOut n).foldAll policy).erase true = (l.foldAll l.counterPolicy).erase true := by
  have hentries : l.entries.toList = l.entries.toList.take n ++ l.entries.toList.drop n :=
    (List.take_append_drop n _).symm
  have hfolded : ((l.entries.toList.take n).foldl (foldEntry l.counterPolicy) l.prefixState.toFoldState).erase true
      = ((l.entries.toList.take n).foldl (applyObservation l.counterPolicy) l.prefixState.toFoldState).erase true :=
    erase_foldl true l.counterPolicy (erase_foldEntry true l.counterPolicy)
      (erase_applyObservation true l.counterPolicy) _ rfl
  have hrest := h.imp id (fun h => (steadyFrom_append _ _ (hentries ▸ h : steadyFrom l.counterPolicy
    l.prefixState.toFoldState (l.entries.toList.take n ++ l.entries.toList.drop n) = true)).2)
  have hdone := erase_foldl_policy (l.entries.toList.drop n) hfolded hrest
  have hall : l.foldAll l.counterPolicy = (l.entries.toList.drop n).foldl (applyObservation l.counterPolicy)
      ((l.entries.toList.take n).foldl (applyObservation l.counterPolicy) l.prefixState.toFoldState) := by
    rw [← List.foldl_append, List.take_append_drop]
    rfl
  rw [hall]
  exact hdone

/-- What a ledger persists does not depend on what was folded out either. -/
theorem SourceLedger.erase_foldedState_foldOut (l : SourceLedger) (n : Nat) :
    (l.foldOut n).foldedState.toFoldState.erase true = (l.foldAll l.counterPolicy).erase true := by
  have hpersisted := congrArg (fun s : FoldState => { s with anomalyCounts := [] }) (unmark_foldedState (l.foldOut n))
  exact hpersisted.symm.trans (l.erase_foldAll_foldOut l.counterPolicy (.inl rfl) n)

/-! ## Where a fold stands -/

/-- The incarnation and the epoch that a fold is in, with the greatest revision and the greatest sequence it has seen.
-/
def FoldState.mark (s : FoldState) : CanonicalKey :=
  ⟨s.currentIncarnation, s.currentEpoch, s.highRevision, s.highSequence⟩

/-- The mark after an observation: its incarnation and epoch, and the greater revision and sequence of the two. -/
def CanonicalKey.past (mark key : CanonicalKey) : CanonicalKey :=
  ⟨key.incarnation, key.epoch, max mark.revision key.revision, max mark.sequence key.sequence⟩

section Mark

variable (policy : CounterPolicy) (s : FoldState) (obs : Observation)

/-- The fences keep what neither a broken interval nor a note touches. -/
theorem fence_frame {α : Type} (field : FoldState → α) (hnote : ∀ s kind, field (FoldState.note s kind) = field s)
    (hbreak : ∀ s, field (FoldState.breakInterval s) = field s)
    (hset : ∀ s incarnation epoch distinct, field { s with
      currentIncarnation := incarnation, currentEpoch := epoch, distinctIncarnations := distinct } = field s) :
    field (fence s obs policy) = field s := by
  have hepoch : ∀ (s : FoldState) epoch, field { s with currentEpoch := epoch } = field s :=
    fun s epoch => hset s s.currentIncarnation epoch s.distinctIncarnations
  unfold fence
  split
  · refine (hset _ _ _ _).trans ?_
    split
    · exact (hnote _ _).trans (hbreak s)
    · rfl
  · split
    · refine (hepoch _ _).trans ?_
      split
      · exact hbreak s
      · exact (hnote _ _).trans (hbreak s)
    · rfl

/-- The last-seen stage keeps what neither it nor a note touches. -/
theorem cover_frame {α : Type} (field : FoldState → α) (hnote : ∀ s kind, field (FoldState.note s kind) = field s)
    (hset : ∀ s kind direction evidence counters coverage, field { s with
      lastKind := kind, lastDirection := direction, lastEvidence := evidence, lastCounters := counters
      coverage := coverage } = field s) : field (cover s obs) = field s := by
  have hseen := fun direction => hset s obs.kind direction obs.evidence
    (if obs.counters.any then obs.counters else s.lastCounters)
  unfold cover
  cases obs.evidence == .Complete <;> cases obs.direction <;>
    first | exact hseen _ _ | exact (hnote _ _).trans (hseen _ s.coverage)

/-- The counters keep what neither an accounting nor progress nor a note touches. -/
theorem count_frame {α : Type} (field : FoldState → α) (hnote : ∀ s kind, field (FoldState.note s kind) = field s)
    (hset : ∀ s d direction, field (FoldState.setAccounting s d direction) = field s)
    (hprogress : ∀ s last, field { s with lastProgressAt := last, observedProgress := true } = field s) :
    field (count s obs policy) = field s := by
  have hopt : ∀ (s : FoldState) (kind : Option AnomalyKind), field (s.noteOpt kind) = field s := by
    intro s kind
    cases kind with
    | none => rfl
    | some kind => exact hnote s kind
  have hmoved : ∀ (s : FoldState) (progress : Bool) (last : Timestamp),
      field (if progress then { s with lastProgressAt := last, observedProgress := true } else s) = field s := by
    intro s progress last
    cases progress with
    | false => rfl
    | true => exact hprogress s last
  have hlast : ∀ (s : FoldState) (late : Bool), field (if late then s.note .IncompleteEvidence else s) = field s := by
    intro s late
    cases late with
    | false => rfl
    | true => exact hnote s _
  simp only [count]
  rw [hlast, hmoved, hset, hopt, hopt, hopt]

theorem mark_cover : (cover s obs).mark = s.mark :=
  cover_frame s obs FoldState.mark (fun _ _ => rfl) (fun _ _ _ _ _ _ => rfl)

theorem mark_declare : (declare s obs).mark = s.mark := by
  unfold declare
  cases obs.kind <;> rfl

theorem mark_correlate : (correlate s obs).mark = s.mark := rfl

theorem mark_count : (count s obs policy).mark = s.mark :=
  count_frame policy s obs FoldState.mark (fun _ _ => rfl) (fun _ _ d => by cases d <;> rfl) (fun _ _ => rfl)

/-- The fences move to the incarnation and the epoch of the observation. -/
theorem mark_fence : (fence s obs policy).mark =
    ⟨obs.key.incarnation, obs.key.epoch, s.highRevision, s.highSequence⟩ := by
  unfold fence
  by_cases hincarnation : obs.key.incarnation ≠ s.currentIncarnation
  · rw [if_pos hincarnation]
    cases s.currentIncarnation.valid <;> rfl
  · rw [if_neg hincarnation]
    replace hincarnation : obs.key.incarnation = s.currentIncarnation := not_not.1 hincarnation
    by_cases hepoch : obs.key.epoch ≠ s.currentEpoch
    · rw [if_pos hepoch, hincarnation]
      cases policy.honorExplicitCounterReset && kindAnnouncesCounterRestart obs.kind <;> rfl
    · rw [if_neg hepoch, hincarnation, not_not.1 hepoch]
      rfl

/-- **One observation moves the mark past its key.** -/
theorem mark_applyObservation : (applyObservation policy s obs).mark = s.mark.past obs.canonicalKey := by
  have hfence : (fence (rollUp s obs) obs policy).mark = s.mark.past obs.canonicalKey := by
    rw [mark_fence]
    simp only [rollUp, CanonicalKey.past, FoldState.mark, Observation.canonicalKey, max_def_lt]
  unfold applyObservation
  generalize fence (rollUp s obs) obs policy = t at hfence ⊢
  by_cases hd : t.declared = true
  · rw [if_pos hd, ← hfence]
    rfl
  · rw [if_neg hd, mark_count, mark_correlate, mark_declare, mark_cover, hfence]

theorem mark_foldMark (key : CanonicalKey) : (s.foldMark key).mark = s.mark := by
  have hmark : (s.foldMark key).unmark.mark = s.unmark.mark := by rw [unmark_foldMark]
  exact hmark

end Mark

/-- A fold moves the mark past the keys of its observations, one by one. -/
theorem mark_foldl {step : FoldState → Observation → FoldState}
    (h : ∀ s obs, (step s obs).mark = s.mark.past obs.canonicalKey) (entries : List Observation) (s : FoldState) :
    (entries.foldl step s).mark = (entries.map Observation.canonicalKey).foldl CanonicalKey.past s.mark := by
  induction entries generalizing s with
  | nil => rfl
  | cons obs entries ih => rw [List.foldl_cons, ih, h, List.map_cons, List.foldl_cons]

/-- Where a ledger stands: past the keys of the entries it retains. -/
def SourceLedger.mark (l : SourceLedger) : CanonicalKey :=
  (l.entries.toList.map Observation.canonicalKey).foldl CanonicalKey.past l.prefixState.mark

/-- **What a ledger persists stands where the ledger does.** -/
theorem SourceLedger.mark_foldedState (l : SourceLedger) : l.foldedState.mark = l.mark := by
  have hstep : ∀ (s : FoldState) (obs : Observation),
      ((applyObservation l.counterPolicy s obs).foldMark obs.canonicalKey).mark = s.mark.past obs.canonicalKey := by
    intro s obs
    rw [mark_foldMark, mark_applyObservation]
  unfold SourceLedger.foldedState SourceLedger.mark
  cases hback : l.entries.toList.getLast? with
  | none =>
    rw [List.getLast?_eq_none_iff] at hback
    rw [hback]
    rfl
  | some back => exact mark_foldl hstep l.entries.toList l.prefixState.toFoldState

/-! ## What a fold declares -/

/-- The terminal state that a kind of observation declares. -/
def ObservationKind.declares : ObservationKind → Option FlowState
  | .Close => some .Completed
  | .Reset => some .Reset
  | _ => none

theorem declaredTerminal_fence (policy : CounterPolicy) (s : FoldState) (obs : Observation) :
    (fence (rollUp s obs) obs policy).declaredTerminal = s.declaredTerminal :=
  fence_frame policy (rollUp s obs) obs FoldState.declaredTerminal (fun _ _ => rfl) (fun _ => rfl) (fun _ _ _ _ => rfl)

/-- **What a fold declares after one more observation**: what it declared, or else what the observation does. -/
theorem declaredTerminal_applyObservation (policy : CounterPolicy) (s : FoldState) (obs : Observation) :
    (applyObservation policy s obs).declaredTerminal
      = if s.declared then s.declaredTerminal else obs.kind.declares.or s.declaredTerminal := by
  have hfence := declaredTerminal_fence policy s obs
  unfold applyObservation
  have hdeclared : (fence (rollUp s obs) obs policy).declared = s.declared := by
    unfold FoldState.declared
    rw [hfence]
  generalize fence (rollUp s obs) obs policy = t at hfence hdeclared ⊢
  by_cases hd : t.declared = true
  · rw [if_pos hd, if_pos (hdeclared ▸ hd)]
    exact hfence
  · rw [if_neg hd, if_neg (hdeclared ▸ hd), count_frame policy _ obs FoldState.declaredTerminal (fun _ _ => rfl)
      (fun _ _ d => by cases d <;> rfl) (fun _ _ => rfl)]
    have hcover : (cover t obs).declaredTerminal = t.declaredTerminal :=
      cover_frame t obs FoldState.declaredTerminal (fun _ _ => rfl) (fun _ _ _ _ _ _ => rfl)
    have hcorrelate : ∀ s : FoldState, (correlate s obs).declaredTerminal = s.declaredTerminal := fun _ => rfl
    rw [hcorrelate, ← hfence, ← hcover]
    unfold declare ObservationKind.declares
    cases obs.kind <;> rfl

/-- A step that declares as `apply_observation` does. -/
def DeclaresAlike (step : FoldState → Observation → FoldState) : Prop := ∀ s obs, (step s obs).declaredTerminal
  = if s.declared then s.declaredTerminal else obs.kind.declares.or s.declaredTerminal

/-- **What a fold declares was declared before it, or by an observation of that kind.** -/
theorem declaredTerminal_foldl {step : FoldState → Observation → FoldState} (hstep : DeclaresAlike step)
    (entries : List Observation) {s : FoldState} {declared : FlowState}
    (h : (entries.foldl step s).declaredTerminal = some declared) :
    s.declaredTerminal = some declared ∨ ∃ obs ∈ entries, obs.kind.declares = some declared := by
  induction entries generalizing s with
  | nil => exact .inl h
  | cons obs entries ih =>
    rcases ih h with hs | ⟨obs', hobs', hkind⟩
    · rw [hstep] at hs
      split at hs
      · exact .inl hs
      · rcases Option.or_eq_some_iff.1 hs with hkind | ⟨-, hs⟩
        · exact .inr ⟨obs, List.mem_cons_self, hkind⟩
        · exact .inl hs
    · exact .inr ⟨obs', List.mem_cons_of_mem _ hobs', hkind⟩

/-- A fold over an observation that declares a state declares one. -/
theorem isSome_declaredTerminal_foldl {step : FoldState → Observation → FoldState} (hstep : DeclaresAlike step)
    (entries : List Observation) {s : FoldState}
    (h : s.declaredTerminal.isSome = true ∨ ∃ obs ∈ entries, obs.kind.declares.isSome = true) :
    (entries.foldl step s).declaredTerminal.isSome = true := by
  induction entries generalizing s with
  | nil =>
    rcases h with h | ⟨obs, hobs, -⟩
    · exact h
    · cases hobs
  | cons obs entries ih =>
    refine ih ?_
    rw [hstep]
    rcases h with h | ⟨obs', hobs', hkind⟩
    · left
      split
      · exact h
      · rw [Option.isSome_or, h, Bool.or_true]
    · rcases List.mem_cons.1 hobs' with rfl | hobs'
      · left
        split
        · rename_i hd
          obtain ⟨declared, hs, -⟩ := (Option.any_eq_true _ _).1 hd
          rw [hs]
          rfl
        · rw [Option.isSome_or, hkind, Bool.true_or]
      · exact .inr ⟨obs', hobs', hkind⟩

/-! ## What a fold counts -/

/-- The observations that are counted: those up to the first that declares a terminal state. -/
def counted : List Observation → List Observation
  | [] => []
  | obs :: taken => obs :: if obs.kind.declares.isSome then [] else counted taken

theorem counted_concat (taken : List Observation) (obs : Observation) : counted (taken ++ [obs])
    = if taken.any (·.kind.declares.isSome) then counted taken else counted taken ++ [obs] := by
  induction taken with
  | nil => simp [counted]
  | cons first taken ih =>
    rw [List.cons_append, counted, counted, ih, List.any_cons]
    cases first.kind.declares.isSome with
    | true => simp
    | false => cases taken.any (·.kind.declares.isSome) <;> simp

/-- A fold has declared a terminal state after an observation when it had, or the observation does. -/
theorem declared_applyObservation (policy : CounterPolicy) (s : FoldState) (obs : Observation) :
    (applyObservation policy s obs).declared = (s.declared || obs.kind.declares.isSome) := by
  unfold FoldState.declared
  rw [declaredTerminal_applyObservation]
  cases hd : s.declared with
  | true =>
    replace hd : s.declaredTerminal.any isTerminal = true := hd
    rw [if_pos rfl, hd, Bool.true_or]
  | false =>
    rw [if_neg Bool.false_ne_true]
    replace hd : s.declaredTerminal.any isTerminal = false := hd
    cases obs.kind <;> simp [ObservationKind.declares, isTerminal, hd]

/-! ## What a ledger has taken -/

/-- The observations that a ledger has taken: the folded ones, and then those it retains. -/
def SourceLedger.Took (l : SourceLedger) (taken : List Observation) : Prop :=
  ∃ folded, taken = folded ++ l.entries.toList ∧
    l.prefixState.toFoldState = folded.foldl (SourceLedger.foldEntry l.counterPolicy) {}

theorem SourceLedger.took_configure (source : SourceId) (generation : FlowGeneration) (capacity : Nat) :
    (configure source generation capacity).Took [] := ⟨[], rfl, rfl⟩

/-- Folding entries out of a ledger takes nothing from it. -/
theorem SourceLedger.Took.foldOut {l : SourceLedger} {taken : List Observation} (h : l.Took taken) (n : Nat) :
    (l.foldOut n).Took taken := by
  obtain ⟨folded, rfl, hstart⟩ := h
  refine ⟨folded ++ l.entries.toList.take n, ?_, ?_⟩
  · have hentries : (l.foldOut n).entries.toList = l.entries.toList.drop n := rfl
    rw [hentries, List.append_assoc, List.take_append_drop]
  · have hpolicy : (l.foldOut n).counterPolicy = l.counterPolicy := rfl
    rw [List.foldl_append, hpolicy, ← hstart]
    rfl

/-- **What a ledger has taken after an insertion**: what it had taken before, and the observation. -/
theorem SourceLedger.Took.insert {l : SourceLedger} {taken : List Observation} (h : l.Took taken) (obs : Observation) :
    ∃ taken', (l.insert obs).1.Took taken' ∧ ∀ o ∈ taken', o ∈ taken ∨ l.belongs obs = .ok () ∧ o = obs := by
  obtain ⟨folded, rfl, hstart⟩ := h
  have hsame : ∀ l' : SourceLedger, l'.prefixState = l.prefixState → l'.entries = l.entries →
      l'.counterPolicy = l.counterPolicy → ∃ taken', l'.Took taken' ∧ ∀ o ∈ taken',
        o ∈ folded ++ l.entries.toList ∨ l.belongs obs = .ok () ∧ o = obs := by
    intro l' hp he hc
    exact ⟨folded ++ l.entries.toList, ⟨folded, by rw [he], by rw [hp, hc, hstart]⟩, fun o ho => .inl ho⟩
  have hset : ∀ hb : l.belongs obs = .ok (), ∀ o ∈ folded ++ (l.entries.set obs).toList,
      o ∈ folded ++ l.entries.toList ∨ l.belongs obs = .ok () ∧ o = obs := by
    intro hb o ho
    rcases List.mem_append.1 ho with ho | ho
    · exact .inl (List.mem_append_left _ ho)
    · rcases SortedVec.mem_set.1 ho with rfl | ⟨ho, -⟩
      · exact .inr ⟨hb, rfl⟩
      · exact .inl (List.mem_append_right _ ho)
  have hcases := l.insert_cases obs
  generalize (l.insert obs).1 = l' at hcases ⊢
  generalize (l.insert obs).2.kind = kind at hcases
  cases hcases with
  | foreign _ => exact hsame _ rfl rfl rfl
  | refolded _ _ _ => exact hsame _ rfl rfl rfl
  | stale _ _ _ => exact hsame _ rfl rfl rfl
  | redelivered _ _ _ _ _ => exact hsame _ rfl rfl rfl
  | outranked _ _ _ _ _ => exact hsame _ rfl rfl rfl
  | replaced hb _ _ _ _ => exact ⟨folded ++ (l.entries.set obs).toList, ⟨folded, rfl, hstart⟩, hset hb⟩
  | accepted hb _ _ =>
    have htook : ({ l with entries := l.entries.set obs, totalAccepted := l.totalAccepted + 1 } : SourceLedger).Took
        (folded ++ (l.entries.set obs).toList) := ⟨folded, rfl, hstart⟩
    rw [compactEntries_foldOut]
    exact ⟨_, htook.foldOut _, hset hb⟩

end FlowObs
