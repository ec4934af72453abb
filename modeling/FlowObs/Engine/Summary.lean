import FlowObs.Engine.Restart
import FlowObs.Engine.Query
import FlowObs.Metered

/-!
# The summary counts of a view

A view has a table of the anomalies that its fold noted, one count for each kind, and seven counts of its own.
`fold_source_view` takes all seven from the table; `source_view` then puts the counts that the binding keeps in the
place of five of them, and nothing ever adds to those. Two of the five kinds are noted by a fold: unsupported metrics
and incomplete evidence (`Observation.notes`). So a view agrees with its table exactly as long as its fold has counted
none of these (`summarised_iff`), which is so in every run in which the ledgers count plain observations only
(`summary_agrees`).
-/

namespace FlowObs

/-! ## What a fold notes -/

/-- The kinds whose summary count `source_view` takes from the binding. -/
def AnomalyKind.fromBinding : AnomalyKind → Bool
  | .ClockSkew | .StaleEpochReplay | .StaleIncarnationReplay | .UnsupportedMetric | .IncompleteEvidence => true
  | _ => false

/-- How often a fold that counts an observation notes a kind for it, of the kinds from the binding. -/
def Observation.notes (obs : Observation) : AnomalyKind → Nat
  | .IncompleteEvidence =>
    match obs.direction with
    | .Forward | .Reverse => 0
    | .Aggregate => 1
    | .Unspecified => if obs.counters.any then 2 else 1
  | .UnsupportedMetric =>
    if obs.evidence = .Unsupported then
      [obs.counters.bytes, obs.counters.packets, obs.counters.retransmissions].countP (·.isNone)
    else 0
  | _ => 0

/-- An observation of one direction that reports every counter or does not say that it lacks any. -/
def Observation.Plain (obs : Observation) : Prop :=
  (obs.direction = .Forward ∨ obs.direction = .Reverse) ∧ (obs.evidence = .Unsupported →
    obs.counters.bytes.isSome = true ∧ obs.counters.packets.isSome = true ∧ obs.counters.retransmissions.isSome = true)

instance (obs : Observation) : Decidable obs.Plain := inferInstanceAs (Decidable (_ ∧ _))

/-- **A plain observation is one that is noted for nothing.** -/
theorem plain_iff (obs : Observation) : obs.Plain ↔ ∀ kind :
    AnomalyKind, kind.fromBinding = true → obs.notes kind = 0 := by
  have hcounters : ∀ a b c : Option UInt64, [a, b, c].countP (·.isNone) = 0 ↔
      a.isSome = true ∧ b.isSome = true ∧ c.isSome = true := by
    intro a b c
    cases a <;> cases b <;> cases c <;> simp
  have hdirection : obs.notes .IncompleteEvidence = 0 ↔ obs.direction = .Forward ∨ obs.direction = .Reverse := by
    unfold Observation.notes
    cases obs.direction <;> simp
    split <;> simp
  have hevidence : obs.notes .UnsupportedMetric = 0 ↔ (obs.evidence = .Unsupported →
      obs.counters.bytes.isSome = true ∧ obs.counters.packets.isSome = true ∧
      obs.counters.retransmissions.isSome = true) := by
    simp only [Observation.notes]
    split
    · rename_i h
      rw [hcounters]
      exact ⟨fun hall _ => hall, fun hall => hall h⟩
    · rename_i h
      exact ⟨fun _ hun => absurd hun h, fun _ => rfl⟩
  unfold Observation.Plain
  rw [← hdirection, ← hevidence]
  constructor
  · rintro ⟨hincomplete, hunsupported⟩ kind hkind
    cases kind with
    | IncompleteEvidence => exact hincomplete
    | UnsupportedMetric => exact hunsupported
    | _ => rfl
  · exact fun h => ⟨h _ rfl, h _ rfl⟩

section Notes

variable (s : FoldState) (obs : Observation) (policy : CounterPolicy) {kind kind' : AnomalyKind}

theorem AnomalyKind.toU8_inj (h : kind.toU8 = kind'.toU8) : kind = kind' := by
  have hback := congrArg AnomalyKind.ofU8? h
  rw [AnomalyKind.ofU8?_toU8, AnomalyKind.ofU8?_toU8] at hback
  exact Option.some.inj hback

/-- A note leaves the other kinds. -/
theorem anomalyCount_note_ne (h : kind' ≠ kind) : (s.note kind').anomalyCount kind = s.anomalyCount kind := by
  have hindex : kind'.toU8.toNat ≠ kind.toU8.toNat := fun heq => h (AnomalyKind.toU8_inj (UInt8.toNat_inj.1 heq))
  simp only [FoldState.anomalyCount, FoldState.note, List.getD_eq_getElem?_getD, List.getElem?_modify, if_neg hindex]
  cases s.anomalyCounts[kind.toU8.toNat]? <;> rfl

/-- The table has a count for each kind. -/
def FoldState.Tabled (s : FoldState) : Prop := s.anomalyCounts.length = kAnomalyKindCount

theorem anomalyCount_note (h : s.Tabled) (kind : AnomalyKind) :
    (s.note kind).anomalyCount kind = s.anomalyCount kind + 1 := by
  have hlt : kind.toU8.toNat < s.anomalyCounts.length := by
    rw [h]
    cases kind <;> decide
  simp only [FoldState.anomalyCount, FoldState.note, List.getD_eq_getElem?_getD, List.getElem?_modify,
    List.getElem?_eq_getElem hlt]
  rfl

theorem tabled_note (h : s.Tabled) (kind : AnomalyKind) : (s.note kind).Tabled := by
  unfold FoldState.Tabled FoldState.note
  rw [List.length_modify]
  exact h

/-- Every observation keeps the table one count for each kind. -/
theorem tabled_applyObservation (h : s.Tabled) : (applyObservation policy s obs).Tabled := by
  have hnote : ∀ (s : FoldState) (kind : AnomalyKind), (s.note kind).anomalyCounts.length = s.anomalyCounts.length :=
    fun s kind => List.length_modify ..
  have hfence : (fence (rollUp s obs) obs policy).anomalyCounts.length = s.anomalyCounts.length :=
    fence_frame policy (rollUp s obs) obs (·.anomalyCounts.length) hnote (fun _ => rfl) (fun _ _ _ _ => rfl)
  unfold FoldState.Tabled at h ⊢
  rw [← h, ← hfence]
  unfold applyObservation
  generalize fence (rollUp s obs) obs policy = t
  by_cases hd : t.declared = true
  · rw [if_pos hd]
  · have hcover : (cover t obs).anomalyCounts.length = t.anomalyCounts.length :=
      cover_frame t obs (·.anomalyCounts.length) hnote (fun _ _ _ _ _ _ => rfl)
    have hdeclare : (declare (cover t obs) obs).anomalyCounts.length = (cover t obs).anomalyCounts.length := by
      unfold declare
      cases obs.kind <;> first | rfl | exact hnote _ _
    rw [if_neg hd,
      count_frame policy _ obs (·.anomalyCounts.length) hnote (fun _ _ d => by cases d <;> rfl) (fun _ _ => rfl),
      ← hcover, ← hdeclare]
    rfl

/-- The fences note restarts and regressions. -/
theorem anomalyCount_fence (hkind : kind.fromBinding = true) :
    (fence s obs policy).anomalyCount kind = s.anomalyCount kind := by
  have hgap : AnomalyKind.RestartGap ≠ kind := by rintro rfl; cases hkind
  have hregression : AnomalyKind.CounterRegression ≠ kind := by rintro rfl; cases hkind
  unfold fence
  split
  · split
    · exact anomalyCount_note_ne s.breakInterval hgap
    · rfl
  · split
    · split
      · rfl
      · exact anomalyCount_note_ne s.breakInterval hregression
    · rfl

/-- The last-seen stage notes a direction that is not one. -/
theorem anomalyCount_cover (h : s.Tabled) (kind : AnomalyKind) : (cover s obs).anomalyCount kind = s.anomalyCount kind +
    if kind = .IncompleteEvidence ∧ (obs.direction = .Aggregate ∨ obs.direction = .Unspecified) then 1 else 0 := by
  have hincomplete : ∀ s' : FoldState, s'.anomalyCounts = s.anomalyCounts →
      (s'.note .IncompleteEvidence).anomalyCount kind = s.anomalyCount kind + if kind =
      .IncompleteEvidence then 1 else 0 := by
    intro s' hs'
    have hsame : s'.anomalyCount kind = s.anomalyCount kind := by unfold FoldState.anomalyCount; rw [hs']
    by_cases hk : kind = .IncompleteEvidence
    · subst hk
      rw [if_pos rfl, anomalyCount_note s' (by unfold FoldState.Tabled; rw [hs']; exact h), hsame]
    · rw [if_neg hk, anomalyCount_note_ne s' (Ne.symm hk), hsame, UInt32.add_zero]
  unfold cover
  cases hdirection : obs.direction with
  | Forward => cases obs.evidence == .Complete <;> simp [FoldState.anomalyCount]
  | Reverse => cases obs.evidence == .Complete <;> simp [FoldState.anomalyCount]
  | Aggregate =>
    simp only [true_or, and_true]
    exact hincomplete _ rfl
  | Unspecified =>
    simp only [or_true, and_true]
    exact hincomplete _ rfl

theorem anomalyCount_declare (hkind : kind.fromBinding = true) :
    (declare s obs).anomalyCount kind = s.anomalyCount kind := by
  have hmalformed : AnomalyKind.MalformedEvidence ≠ kind := by rintro rfl; cases hkind
  unfold declare
  cases obs.kind <;> first | rfl | exact anomalyCount_note_ne s hmalformed

theorem tabled_noteOpt (h : s.Tabled) (noted : Option AnomalyKind) : (s.noteOpt noted).Tabled := by
  cases noted with
  | none => exact h
  | some kind => exact tabled_note s h kind

/-- A counter that is said to be lacking is noted; of the other notes for a counter none is of a kind from the
binding. -/
theorem anomalyCount_applyCounter (h : s.Tabled) (hkind : kind.fromBinding = true) (evidence : Evidence)
    (restart : Bool)
    (a : CounterAccumulator) (unsupported : Bool) (value : Option UInt64) :
    (s.noteOpt (applyCounter evidence restart a unsupported value).noted).anomalyCount kind = s.anomalyCount kind +
      if kind = .UnsupportedMetric ∧ evidence = .Unsupported ∧ value = none then 1 else 0 := by
  have hregression : AnomalyKind.CounterRegression ≠ kind := by rintro rfl; cases hkind
  have hoverflow : AnomalyKind.CounterOverflow ≠ kind := by rintro rfl; cases hkind
  cases value with
  | none =>
    by_cases he : evidence = .Unsupported
    · simp only [applyCounter, he, and_true]
      by_cases hk : kind = .UnsupportedMetric
      · subst hk
        rw [if_pos rfl]
        exact anomalyCount_note s h _
      · rw [if_neg hk, UInt32.add_zero]
        exact anomalyCount_note_ne s (Ne.symm hk)
    · simp only [applyCounter, he, false_and, and_false, if_false, UInt32.add_zero]
      rfl
  | some value =>
    rw [if_neg (fun hlacking => absurd hlacking.2.2 (Option.some_ne_none value)), UInt32.add_zero]
    simp only [applyCounter]
    rcases a.observe value restart with ⟨a', outcome⟩
    cases outcome with
    | Regressed | Held => exact anomalyCount_note_ne s hregression
    | Saturated => exact anomalyCount_note_ne s hoverflow
    | _ => rfl

theorem any_applyCounter (evidence : Evidence) (restart : Bool) (a : CounterAccumulator) (unsupported : Bool)
    (value : Option UInt64) : (applyCounter evidence restart a unsupported value).any = value.isSome := by
  cases value with
  | none =>
    simp only [applyCounter]
    split <;> rfl
  | some value =>
    simp only [applyCounter]
    rcases a.observe value restart with ⟨a', outcome⟩
    cases outcome <;> rfl

/-- The counters note the lacking ones, and a reading without a direction. -/
theorem anomalyCount_count (h : s.Tabled) (hkind : kind.fromBinding = true) :
    (count s obs policy).anomalyCount kind = s.anomalyCount kind +
      (if kind = .UnsupportedMetric ∧ obs.evidence = .Unsupported ∧ obs.counters.bytes = none then 1 else 0) +
      (if kind = .UnsupportedMetric ∧ obs.evidence = .Unsupported ∧ obs.counters.packets = none then 1 else 0) +
      (if kind = .UnsupportedMetric ∧ obs.evidence = .Unsupported ∧ obs.counters.retransmissions = none then 1 else 0) +
      (if kind = .IncompleteEvidence ∧ obs.counters.any = true ∧ obs.direction = .Unspecified then 1 else 0) := by
  have hset : ∀ (s : FoldState) (d : DirectionalAccounting) (direction : Direction),
      (s.setAccounting d direction).anomalyCounts = s.anomalyCounts := by
    intro s d direction
    cases direction <;> rfl
  have hprogress : ∀ (s : FoldState) (progress : Bool) (last : Timestamp),
      (if progress then { s with lastProgressAt := last, observedProgress := true } else s).anomalyCounts =
      s.anomalyCounts := by
    intro s progress last
    cases progress <;> rfl
  have hlast : ∀ (s t : FoldState) (late : Bool), s.anomalyCounts = t.anomalyCounts → t.Tabled →
      (if late then s.note .IncompleteEvidence else s).anomalyCount kind
        = t.anomalyCount kind + if kind = .IncompleteEvidence ∧ late = true then 1 else 0 := by
    intro s t late hst ht
    have hsame : s.anomalyCount kind = t.anomalyCount kind := by unfold FoldState.anomalyCount; rw [hst]
    cases late with
    | false => rw [if_neg Bool.false_ne_true, if_neg (fun hboth => Bool.false_ne_true hboth.2), UInt32.add_zero, hsame]
    | true =>
      rw [if_pos rfl]
      by_cases hk : kind = .IncompleteEvidence
      · subst hk
        rw [if_pos ⟨rfl, rfl⟩, anomalyCount_note s (by unfold FoldState.Tabled; rw [hst]; exact ht), hsame]
      · rw [if_neg (fun hboth => hk hboth.1), UInt32.add_zero, anomalyCount_note_ne s (Ne.symm hk), hsame]
  have hb := tabled_noteOpt s h
  simp only [count]
  rw [hlast _ _ _ ((hprogress _ _ _).trans (hset _ _ _)) (tabled_noteOpt _ (tabled_noteOpt _ (hb _) _) _),
    anomalyCount_applyCounter _ (tabled_noteOpt _ (hb _) _) hkind, anomalyCount_applyCounter _ (hb _) hkind,
    anomalyCount_applyCounter _ h hkind, any_applyCounter, any_applyCounter, any_applyCounter]
  have hlate : ((obs.counters.bytes.isSome || obs.counters.packets.isSome || obs.counters.retransmissions.isSome)
      && obs.direction == .Unspecified) = true ↔ obs.counters.any = true ∧ obs.direction = .Unspecified := by
    rw [Bool.and_eq_true, beq_iff_eq]
    rfl
  simp only [hlate]

/-- **What one observation adds to the table**, of the kinds from the binding: nothing behind a terminal declaration,
else its notes. -/
theorem anomalyCount_applyObservation (h : s.Tabled) (hkind : kind.fromBinding = true) :
    (applyObservation policy s obs).anomalyCount kind
      = s.anomalyCount kind + UInt32.ofNat (if s.declared then 0 else obs.notes kind) := by
  have hfence : (fence (rollUp s obs) obs policy).anomalyCount kind = s.anomalyCount kind :=
    anomalyCount_fence (rollUp s obs) obs policy hkind
  have htabled : (fence (rollUp s obs) obs policy).Tabled := by
    have hlength := fence_frame policy (rollUp s obs) obs (·.anomalyCounts.length) (fun s kind => List.length_modify ..)
      (fun _ => rfl) (fun _ _ _ _ => rfl)
    exact hlength.trans h
  cases hd : s.declared with
  | true =>
    rw [applyObservation_late policy s obs hd, if_pos rfl, ← hfence]
    exact (UInt32.add_zero _).symm
  | false =>
    have hopen : ¬ (fence (rollUp s obs) obs policy).declared = true := by
      unfold FoldState.declared at hd ⊢
      rw [declaredTerminal_fence, hd]
      exact Bool.false_ne_true
    unfold applyObservation
    rw [if_neg hopen, if_neg Bool.false_ne_true, ← hfence]
    generalize fence (rollUp s obs) obs policy = t at htabled ⊢
    have hcover : (cover t obs).Tabled :=
      (cover_frame t obs (·.anomalyCounts.length) (fun s kind => List.length_modify ..)
      (fun _ _ _ _ _ _ => rfl)).trans htabled
    have hdeclare : (declare (cover t obs) obs).Tabled := by
      unfold declare
      cases obs.kind <;> first | exact hcover | exact tabled_note _ hcover _
    have hcorrelate : ∀ s : FoldState, (correlate s obs).anomalyCount kind = s.anomalyCount kind := fun _ => rfl
    rw [anomalyCount_count _ obs policy (show (correlate (declare (cover t obs) obs) obs).Tabled from hdeclare) hkind,
      hcorrelate, anomalyCount_declare _ obs hkind, anomalyCount_cover t obs htabled]
    cases kind with
    | IncompleteEvidence =>
      cases hdirection : obs.direction <;> cases hany : obs.counters.any <;>
        simp [Observation.notes, hdirection, hany, UInt32.add_assoc]
    | UnsupportedMetric =>
      by_cases he : obs.evidence = .Unsupported
      · cases hb : obs.counters.bytes <;> cases hp : obs.counters.packets <;>
          cases hr : obs.counters.retransmissions <;>
          simp [Observation.notes, he, hb, hp, hr, UInt32.add_assoc]
      · simp [Observation.notes, he]
    | ClockSkew | StaleEpochReplay | StaleIncarnationReplay => simp [Observation.notes]
    | _ => cases hkind

end Notes

/-! ## What a ledger counts -/

/-- A step of a fold that notes as `apply_observation` does. -/
structure NotesAlike (step : FoldState → Observation → FoldState) : Prop where
  tabled : ∀ s obs, s.Tabled → (step s obs).Tabled
  declared : ∀ s obs, (step s obs).declared = (s.declared || obs.kind.declares.isSome)
  noted : ∀ s obs (kind : AnomalyKind), s.Tabled → kind.fromBinding = true →
    (step s obs).anomalyCount kind = s.anomalyCount kind + UInt32.ofNat (if s.declared then 0 else obs.notes kind)

theorem notesAlike_applyObservation (policy : CounterPolicy) : NotesAlike (applyObservation policy) where
  tabled s obs := tabled_applyObservation s obs policy
  declared s obs := declared_applyObservation policy s obs
  noted s obs _ h hkind := anomalyCount_applyObservation s obs policy h hkind

theorem notesAlike_foldEntry (policy : CounterPolicy) : NotesAlike (SourceLedger.foldEntry policy) := by
  have hmark : ∀ (s : FoldState) (key : CanonicalKey), (s.foldMark key).anomalyCounts = s.anomalyCounts ∧
      (s.foldMark key).declaredTerminal = s.declaredTerminal := by
    intro s key
    have hunmark := unmark_foldMark s key
    have hcounts : (s.foldMark key).unmark.anomalyCounts = s.unmark.anomalyCounts := by rw [hunmark]
    have hterminal : (s.foldMark key).unmark.declaredTerminal = s.unmark.declaredTerminal := by rw [hunmark]
    exact ⟨hcounts, hterminal⟩
  have hcounts : ∀ s obs, (SourceLedger.foldEntry policy s obs).anomalyCounts =
      (applyObservation policy s obs).anomalyCounts :=
    fun s obs => (hmark (applyObservation policy s obs) obs.canonicalKey).1
  constructor
  · intro s obs h
    unfold FoldState.Tabled
    rw [hcounts]
    exact tabled_applyObservation s obs policy h
  · intro s obs
    rw [← declared_applyObservation policy s obs]
    exact congrArg (Option.any isTerminal) (hmark (applyObservation policy s obs) obs.canonicalKey).2
  · intro s obs kind h hkind
    rw [← anomalyCount_applyObservation s obs policy h hkind]
    exact congrArg (List.getD · kind.toU8.toNat 0) (hcounts s obs)

/-- The observations that a fold from a state counts. -/
def FoldState.counts (s : FoldState) (entries : List Observation) : List Observation :=
  if s.declared then [] else counted entries

/-- What is counted of a list that goes on. -/
theorem counts_append {step : FoldState → Observation → FoldState} (hstep : NotesAlike step)
    (entries more : List Observation)
    (s : FoldState) : s.counts (entries ++ more) = s.counts entries ++ (entries.foldl step s).counts more := by
  unfold FoldState.counts
  induction entries generalizing s with
  | nil =>
    rw [List.nil_append, List.foldl_nil, counted]
    cases s.declared <;> rfl
  | cons obs entries ih =>
    have hrest := ih (step s obs)
    rw [hstep.declared] at hrest
    rw [List.foldl_cons]
    cases hd : s.declared with
    | true =>
      rw [hd, Bool.true_or, if_pos rfl, if_pos rfl, List.nil_append] at hrest
      rw [← hrest]
      rfl
    | false =>
      rw [hd, Bool.false_or] at hrest
      simp only [Bool.false_eq_true, if_false, List.cons_append, counted]
      rw [hrest]

/-- **A fold adds to the table what is noted for the observations that it counts.** -/
theorem anomalyCount_foldl {step : FoldState → Observation → FoldState} (hstep : NotesAlike step) {kind : AnomalyKind}
    (hkind : kind.fromBinding = true) (entries : List Observation) {s : FoldState} (h : s.Tabled) :
    (entries.foldl step s).anomalyCount kind
      = s.anomalyCount kind + UInt32.ofNat ((s.counts entries).map (·.notes kind)).sum := by
  unfold FoldState.counts
  induction entries generalizing s with
  | nil =>
    have hnone : (if s.declared then [] else counted []) = [] := by cases s.declared <;> rfl
    rw [hnone]
    exact (UInt32.add_zero _).symm
  | cons obs entries ih =>
    rw [List.foldl_cons, ih (hstep.tabled s obs h), hstep.noted s obs kind h hkind, hstep.declared]
    cases hd : s.declared with
    | true =>
      rw [Bool.true_or, if_pos rfl, if_pos rfl, if_pos rfl]
      exact UInt32.add_zero _
    | false =>
      rw [Bool.false_or, if_neg Bool.false_ne_true, if_neg Bool.false_ne_true, counted, List.map_cons, List.sum_cons,
        UInt32.ofNat_add, UInt32.add_assoc]

theorem tabled_foldl {step : FoldState → Observation → FoldState} (hstep : NotesAlike step) (entries : List Observation)
    {s : FoldState} (h : s.Tabled) : (entries.foldl step s).Tabled := by
  induction entries generalizing s with
  | nil => exact h
  | cons obs entries ih => exact ih (hstep.tabled s obs h)

/-- A fold that counts an observation notes none of the kinds for it, of those from the binding. -/
def Observation.Spares (kinds : AnomalyKind → Bool) (obs : Observation) : Prop :=
  ∀ kind : AnomalyKind, kind.fromBinding = true → kinds kind = true → obs.notes kind = 0

/-- What is noted for few observations fits the table. -/
theorem sum_notes_lt {s : FoldState} {entries : List Observation} (h : 3 * entries.length < 2 ^ 32)
    (kind : AnomalyKind) :
    ((s.counts entries).map (·.notes kind)).sum < 2 ^ 32 := by
  have hone : ∀ obs : Observation, obs.notes kind ≤ 3 := by
    intro obs
    unfold Observation.notes
    split
    · split <;> grind
    · split
      · exact List.countP_le_length
      · omega
    · omega
  have hcounted : ∀ l : List Observation, (counted l).length ≤ l.length := by
    intro l
    induction l with
    | nil => exact le_rfl
    | cons obs l ih =>
      rw [counted]
      split
      · simp
      · simpa using ih
  have hlength : (s.counts entries).length ≤ entries.length := by
    unfold FoldState.counts
    split
    · exact Nat.zero_le _
    · exact hcounted entries
  have hsum : ∀ l : List Observation, (l.map (·.notes kind)).sum ≤ 3 * l.length := by
    intro l
    induction l with
    | nil => exact le_rfl
    | cons obs l ih =>
      have hobs := hone obs
      rw [List.map_cons, List.sum_cons, List.length_cons]
      omega
  have hnotes := hsum (s.counts entries)
  omega

/-- A state whose table holds no count of the kinds. -/
structure FoldState.Quiet (kinds : AnomalyKind → Bool) (s : FoldState) : Prop where
  tabled : s.Tabled
  silent : ∀ kind : AnomalyKind, kind.fromBinding = true → kinds kind = true → s.anomalyCount kind = 0

/-- A ledger whose prefix holds no count of the kinds, and whose fold notes none of them. -/
structure SourceLedger.Quiet (kinds : AnomalyKind → Bool) (l : SourceLedger) : Prop where
  folded : l.prefixState.Quiet kinds
  spared : ∀ obs ∈ l.prefixState.counts l.entries.toList, obs.Spares kinds

/-- What a ledger counts once it has taken an observation satisfies `P`. It counts its entries, in canonical order, up
to the first that declares a terminal state. -/
def SourceLedger.Takes (P : Observation → Prop) (l : SourceLedger) (obs : Observation) : Prop :=
  (l.insert obs).2.kind = .Accepted ∨ l.replaces obs = true → ∀ o ∈ l.prefixState.counts (l.entries.set obs).toList, P o

instance (P : Observation → Prop) [DecidablePred P] (l : SourceLedger) (obs : Observation) :
    Decidable (l.Takes P obs) :=
  inferInstanceAs (Decidable (_ → _))

/-- `anomaly_counts` of a view at a kind. -/
def SourceView.anomalyCount (v : SourceView) (kind : AnomalyKind) : UInt32 := v.anomalyCounts.getD kind.toU8.toNat 0

/-- A view whose fold noted none of the kinds. The counts that stay as the fold set them are those of the table. -/
structure SourceView.Quiet (kinds : AnomalyKind → Bool) (v : SourceView) : Prop where
  regressions : v.regressions = v.anomalyCount .CounterRegression
  restartGaps : v.restartGaps = v.anomalyCount .RestartGap
  silent : ∀ kind : AnomalyKind, kind.fromBinding = true → kinds kind = true → v.anomalyCount kind = 0

/-- A binding with nothing to show of the kinds: nothing in its ledger, nothing in its cached fold, nothing in its own
counts. -/
structure SourceBinding.Quiet (kinds : AnomalyKind → Bool) (b : SourceBinding) : Prop where
  ledger : b.ledger.Quiet kinds
  cached : ∀ v, b.cached = some v → v.Quiet kinds
  staleEpochEvents : b.staleEpochEvents = 0
  staleIncarnationEvents : b.staleIncarnationEvents = 0
  clockSkewEvents : b.clockSkewEvents = 0
  unsupportedEvents : b.unsupportedEvents = 0
  incompleteEvents : b.incompleteEvents = 0

section Quiet

variable {kinds : AnomalyKind → Bool} {l : SourceLedger} {b : SourceBinding} {obs : Observation}

/-- **A fold that counts spared observations stays quiet.** -/
theorem quiet_foldl {step : FoldState → Observation → FoldState} (hstep : NotesAlike step) {entries : List Observation}
    {s : FoldState} (h : s.Quiet kinds) (hspared : ∀ obs ∈ s.counts entries, obs.Spares kinds) :
    (entries.foldl step s).Quiet kinds := by
  refine ⟨tabled_foldl hstep entries h.tabled, fun kind hfrom hkind => ?_⟩
  have hsum : ((s.counts entries).map (·.notes kind)).sum = 0 :=
    List.sum_eq_zero (fun n hn => by
      obtain ⟨obs, hobs, rfl⟩ := List.mem_map.1 hn
      exact hspared obs hobs kind hfrom hkind)
  rw [anomalyCount_foldl hstep hfrom entries h.tabled, h.silent kind hfrom hkind, hsum]
  rfl

/-- Folding entries out of a ledger keeps it quiet. -/
theorem SourceLedger.Quiet.foldOut (h : l.Quiet kinds) (n : Nat) : (l.foldOut n).Quiet kinds := by
  have hstep := notesAlike_foldEntry l.counterPolicy
  have hcounts := counts_append hstep (l.entries.toList.take n) (l.entries.toList.drop n) l.prefixState.toFoldState
  rw [List.take_append_drop] at hcounts
  constructor
  · exact quiet_foldl hstep h.folded (fun obs hobs => h.spared obs (by rw [hcounts]; exact List.mem_append_left _ hobs))
  · exact fun obs hobs => h.spared obs (by rw [hcounts]; exact List.mem_append_right _ hobs)

/-- **A ledger that counts spared observations when it has taken one stays quiet.** -/
theorem SourceLedger.Quiet.insert (h : l.Quiet kinds) (htakes : l.Takes (Observation.Spares kinds) obs) :
    (l.insert obs).1.Quiet kinds := by
  unfold Takes at htakes
  have hcases := l.insert_cases obs
  generalize (l.insert obs).1 = l' at hcases ⊢
  generalize (l.insert obs).2.kind = kind at hcases htakes
  cases hcases with
  | foreign _ => exact h
  | refolded _ _ _ => exact ⟨h.folded, h.spared⟩
  | stale _ _ _ => exact ⟨h.folded, h.spared⟩
  | redelivered _ _ _ _ _ => exact ⟨h.folded, h.spared⟩
  | outranked _ _ _ _ _ => exact ⟨h.folded, h.spared⟩
  | replaced _ hi stored hf hd =>
    have hreplaces : l.replaces obs = true := by simp [replaces, hi, hf, hd]
    exact ⟨h.folded, htakes (.inr hreplaces)⟩
  | accepted _ _ _ =>
    have hset : ({ l with entries := l.entries.set obs, totalAccepted := l.totalAccepted + 1 } : SourceLedger).Quiet
        kinds :=
      ⟨h.folded, htakes (.inl rfl)⟩
    rw [compactEntries_foldOut]
    exact hset.foldOut _

/-- The view of a quiet ledger is quiet. -/
theorem quiet_foldSourceView (h : l.Quiet kinds) (d : SourceDescriptor) (ctx : FreshnessContext)
    (counters : CounterPolicy) :
    (foldSourceView l d ctx counters).Quiet kinds where
  regressions := rfl
  restartGaps := rfl
  silent := (quiet_foldl (notesAlike_applyObservation counters) h.folded h.spared).silent

theorem SourceBinding.Quiet.fold (h : b.Quiet kinds) (d : SourceDescriptor) (ctx : FreshnessContext)
    (config : EngineConfig) :
    (b.fold d ctx config).Quiet kinds := by
  unfold SourceBinding.fold
  cases hc : b.cached with
  | none => exact quiet_foldSourceView h.ledger d _ config.counters
  | some v => exact h.cached v hc

theorem SourceBinding.Quiet.refresh (h : b.Quiet kinds) (config : EngineConfig) (sources : SourceTable)
    (ctx : FreshnessContext) :
    (refreshBinding config sources ctx b).Quiet kinds := by
  unfold refreshBinding
  cases hs : sources.find? b.source with
  | none => exact h
  | some s =>
    refine { h with cached := fun v hv => ?_ }
    rw [← Option.some.inj hv]
    exact h.fold s.descriptor ctx config

theorem SourceBinding.Quiet.take (h : b.Quiet kinds) (replaying : Bool)
    (htakes : b.ledger.Takes (Observation.Spares kinds) obs) :
    (b.take replaying obs).1.Quiet kinds := by
  have hledger := h.ledger.insert htakes
  unfold SourceBinding.take
  cases hr : (b.ledger.insert obs).2.kind with
  | Accepted =>
    simp only [hr]
    exact { h with ledger := hledger, cached := fun v hv => nomatch hv }
  | Refused | Duplicate | ContentConflict =>
    simp only [hr]
    exact { h with ledger := hledger }

end Quiet

/-! ## Runs -/

namespace Engine

/-- A ledger that takes the observation then counts only what satisfies `P`. -/
def CountsOnly (P : Observation → Prop) (e : Engine) (incoming : Observation) : Prop :=
  e.reachesLedger incoming = true → (e.bindingFor (e.taken incoming)).ledger.Takes P (e.taken incoming)

instance (P : Observation → Prop) [DecidablePred P] (e : Engine) (incoming : Observation) :
    Decidable (e.CountsOnly P incoming) :=
  inferInstanceAs (Decidable (_ → _))

section Run

variable {kinds : AnomalyKind → Bool} {e : Engine}

/-- The table of a new fold holds nothing. -/
theorem quiet_new {s : FoldState} (h : s.anomalyCounts = List.replicate kAnomalyKindCount 0) : s.Quiet kinds := by
  refine ⟨by rw [FoldState.Tabled, h, List.length_replicate], fun kind _ _ => ?_⟩
  unfold FoldState.anomalyCount
  rw [h]
  cases kind <;> rfl

/-- A ledger without entries counts what its prefix does. -/
theorem quiet_empty {l : SourceLedger} (hentries : l.entries = ∅) (h : l.prefixState.Quiet kinds) : l.Quiet kinds := by
  refine ⟨h, fun obs hobs => ?_⟩
  rw [hentries] at hobs
  unfold FoldState.counts at hobs
  split at hobs <;> cases hobs

theorem quiet_freshBinding (limits : Limits) (replaying : Bool) (source : SourceId) (generation : FlowGeneration) :
    (freshBinding limits replaying source generation).Quiet kinds :=
  ⟨quiet_empty rfl (quiet_new rfl), (fun _ hv => nomatch hv), rfl, rfl, rfl, rfl, rfl⟩

/-- The anomaly counts of a source are not persisted. -/
theorem quiet_restoreSource (limits : Limits) (generation : FlowGeneration) (p : PersistedSource) :
    (restoreSource limits generation p).Quiet kinds :=
  ⟨quiet_empty rfl (quiet_new rfl), (fun _ hv => nomatch hv), rfl, rfl, rfl, rfl, rfl⟩

/-- One observation keeps the bindings quiet. -/
theorem quiet_applyLocked (h : e.Holds (fun _ _ b => b.Quiet kinds)) {incoming : Observation}
    (hcounts : e.CountsOnly (Observation.Spares kinds) incoming) :
    (e.applyLocked incoming).1.Holds (fun _ _ b => b.Quiet kinds) := by
  refine holds_applyLocked h (fun ctx _ _ b hb => hb.refresh _ _ ctx) (fun _ hreach => ?_)
  refine SourceBinding.Quiet.take ?_ e.replaying (hcounts hreach)
  unfold bindingFor
  cases hb : e.binding? (e.taken incoming).subject.flow (e.taken incoming).subject.generation
    (e.taken incoming).key.source with
  | none => exact quiet_freshBinding _ _ _ _
  | some b => exact h _ _ _ b hb

/-- **In every run in which the ledgers count spared observations only, the bindings are quiet.** -/
theorem quiet_of_reachedBy (h : e.ReachedBy (CountsOnly (Observation.Spares kinds)) (fun _ _ => True)) :
    e.Holds (fun _ _ b => b.Quiet kinds) := by
  have hnone : ∀ e : Engine, e.flows = ∅ → e.Holds (fun _ _ b => b.Quiet kinds) := by
    intro e hf flow gen source b hb
    unfold binding? at hb
    rw [hf] at hb
    cases hb
  refine reachedBy_rule (P := Holds (fun _ _ b => b.Quiet kinds)) (fun e _ hf => hnone e hf)
    (fun e e' _ hf _ h => h.of_flows hf)
    (fun e e' _ hf _ => hnone e' hf) (fun e obs h hcounts => quiet_applyLocked h hcounts)
    (fun e atTime due h => holds_recomputeAll h due (fun ctx _ _ b hb => hb.refresh _ _ ctx))
    (fun e s id _ h => Holds.dropped h s id) (fun e d s _ _ _ _ h => h.of_flows rfl) (fun e d s _ _ h => h.of_flows rfl)
    (fun e ps h => h.of_flows rfl) (fun e previous p h => h.set rfl (fun gen source b hb => ?_)) h
  obtain ⟨s, rfl⟩ := binding?_restoreFlow hb
  exact quiet_restoreSource _ _ s

end Run

end Engine

/-! ## What is shown -/

/-- **The summary agrees with the table**: each summary count of the view is the count of its kind. -/
structure SourceView.Summarised (v : SourceView) : Prop where
  regressions : v.regressions = v.anomalyCount .CounterRegression
  clockSkewEvents : v.clockSkewEvents = v.anomalyCount .ClockSkew
  restartGaps : v.restartGaps = v.anomalyCount .RestartGap
  staleEpochEvents : v.staleEpochEvents = v.anomalyCount .StaleEpochReplay
  staleIncarnationEvents : v.staleIncarnationEvents = v.anomalyCount .StaleIncarnationReplay
  unsupportedEvents : v.unsupportedEvents = v.anomalyCount .UnsupportedMetric
  incompleteEvents : v.incompleteEvents = v.anomalyCount .IncompleteEvidence

/-- The source views of a result. -/
def QueryResult.sources (r : QueryResult) : List SourceView :=
  r.flows.flatMap (fun s => s.generations.flatMap (·.sources))

namespace Engine

/-- The view stands in what a query or an export of the engine answers. -/
def Shows (e : Engine) (v : SourceView) : Prop :=
  ∃ r, ((∃ q, e.query q = .ok r) ∨ ∃ o, e.exportData o = .ok r) ∧ v ∈ r.sources

variable {e : Engine} {v : SourceView}

/-- A query whose answer passes a test. -/
theorem query_of_any {q : FlowQuery} {p : QueryResult → Bool} (h : (e.query q).toOption.any p = true) :
    ∃ r, e.query q = .ok r ∧ p r = true := by
  cases hq : e.query q with
  | error err =>
    rw [hq] at h
    cases h
  | ok r =>
    rw [hq] at h
    exact ⟨r, rfl, h⟩

/-- What is answered is selected among the snapshots. -/
theorem flows_answered {r : QueryResult} (h : (∃ q, e.query q = .ok r) ∨ ∃ o, e.exportData o = .ok r) :
    ∀ s ∈ r.flows, s ∈ e.snapshots := by
  have hmatching : ∀ q : FlowQuery, ∀ s ∈ e.matching q, s ∈ e.snapshots := fun q s hs => List.mem_of_mem_filter hs
  have hwindow : ∀ q : FlowQuery, ∀ s ∈ q.window (e.matching q), s ∈ e.snapshots :=
    fun q s hs => hmatching q s (List.mem_of_mem_drop (List.mem_of_mem_take hs))
  rcases h with ⟨q, hq⟩ | ⟨o, ho⟩
  · cases hv : q.validate e.config.query with
    | error err =>
      unfold query at hq
      rw [hv] at hq
      cases hq
    | ok _ =>
      obtain ⟨r', hr', hflows⟩ := flows_query hv
      rw [hq] at hr'
      rw [Except.ok.inj hr', hflows]
      cases q.flow with
      | none => exact hwindow q
      | some id => exact fun s hs => hmatching q s (List.mem_of_mem_filter hs)
  · cases hv : o.validate e.config.limits e.config.query with
    | error err =>
      unfold exportData at ho
      rw [hv] at ho
      cases ho
    | ok _ =>
      obtain ⟨r', hr', hflows⟩ := flows_exportData hv
      rw [ho] at hr'
      rw [Except.ok.inj hr', hflows]
      exact hwindow o.query

/-- **A view that is shown is that of a binding.** -/
theorem Shows.binding (h : e.Shows v) : ∃ flow gen source b d ctx, e.binding? flow gen source = some b ∧
    v = retotal (sourceView e.config b d ctx) := by
  obtain ⟨r, hr, hv⟩ := h
  obtain ⟨s, hs, hv⟩ := List.mem_flatMap.1 hv
  obtain ⟨g, hg, hv⟩ := List.mem_flatMap.1 hv
  obtain ⟨f, hf, rfl⟩ := List.mem_map.1 (flows_answered hr s hs)
  obtain ⟨g, hgen, rfl⟩ := List.mem_map.1 hg
  obtain ⟨b, hb, s, -, rfl⟩ := mem_generationView hv
  refine ⟨f.id, g.id, b.source, b, s.descriptor, e.context, ?_, rfl⟩
  unfold binding? FlowRuntime.binding?
  rw [SortedVec.find?_eq_some.2 ⟨hf, rfl⟩, Option.bind_some, SortedVec.find?_eq_some.2 ⟨hgen, rfl⟩, Option.bind_some]
  exact SortedVec.find?_eq_some.2 ⟨hb, rfl⟩

/-- The kinds of which no fold ever notes one. -/
def unnoted (kind : AnomalyKind) : Bool := kind != .UnsupportedMetric && kind != .IncompleteEvidence

/-- Every observation spares these. -/
theorem spares_unnoted (obs : Observation) : obs.Spares unnoted := by
  intro kind _ hkind
  cases kind with
  | UnsupportedMetric | IncompleteEvidence => cases hkind
  | _ => rfl

/-- The view of a binding without counts of its own agrees with its table exactly if that counts none of the two
kinds. -/
theorem summarised_sourceView {config : EngineConfig} {b : SourceBinding} (h : b.Quiet unnoted) (d : SourceDescriptor)
    (ctx : FreshnessContext) : (sourceView config b d ctx).Summarised ↔
      (sourceView config b d ctx).anomalyCount .UnsupportedMetric = 0 ∧
        (sourceView config b d ctx).anomalyCount .IncompleteEvidence = 0 := by
  have hfold := h.fold d ctx config
  have hcount : ∀ kind, (sourceView config b d ctx).anomalyCount kind =
      (b.fold d ctx config).anomalyCount kind := fun _ => rfl
  constructor
  · intro hs
    exact ⟨hs.unsupportedEvents.symm.trans h.unsupportedEvents, hs.incompleteEvents.symm.trans h.incompleteEvents⟩
  · rintro ⟨hunsupported, hincomplete⟩
    exact {
      regressions := hfold.regressions
      restartGaps := hfold.restartGaps
      clockSkewEvents := h.clockSkewEvents.trans (hfold.silent .ClockSkew rfl rfl).symm
      staleEpochEvents := h.staleEpochEvents.trans (hfold.silent .StaleEpochReplay rfl rfl).symm
      staleIncarnationEvents := h.staleIncarnationEvents.trans (hfold.silent .StaleIncarnationReplay rfl rfl).symm
      unsupportedEvents := h.unsupportedEvents.trans hunsupported.symm
      incompleteEvents := h.incompleteEvents.trans hincomplete.symm }

/-- **What is counted decides**: a fresh fold over a quiet prefix gives a view that agrees with its table exactly if
all that it counts is plain. -/
theorem summarised_fresh {config : EngineConfig} {b : SourceBinding} (h : b.Quiet unnoted) (hfresh : b.cached = none)
    (hfolded : b.ledger.prefixState.Quiet (fun _ => true)) (hfew : 3 * b.ledger.entries.toList.length < 2 ^ 32)
    (d : SourceDescriptor) (ctx : FreshnessContext) : (sourceView config b d ctx).Summarised ↔
      ∀ obs ∈ b.ledger.prefixState.counts b.ledger.entries.toList, obs.Plain := by
  have hcount : ∀ kind : AnomalyKind, kind.fromBinding = true → ((sourceView config b d ctx).anomalyCount kind = 0 ↔
      ∀ obs ∈ b.ledger.prefixState.counts b.ledger.entries.toList, obs.notes kind = 0) := by
    intro kind hkind
    have hview : (sourceView config b d ctx).anomalyCount kind =
        (b.ledger.foldAll config.counters).anomalyCount kind := by
      unfold sourceView SourceBinding.fold
      rw [hfresh]
      rfl
    have hfold := anomalyCount_foldl (notesAlike_applyObservation config.counters) hkind b.ledger.entries.toList
      hfolded.tabled
    rw [hfolded.silent kind hkind rfl, UInt32.zero_add] at hfold
    rw [hview, SourceLedger.foldAll, hfold, ← UInt32.toNat_inj, UInt32.toNat_ofNat_of_lt' (sum_notes_lt hfew kind)]
    exact List.sum_eq_zero_iff_forall_eq_nat.trans List.forall_mem_map
  rw [summarised_sourceView h d ctx, hcount .UnsupportedMetric rfl, hcount .IncompleteEvidence rfl]
  constructor
  · rintro ⟨hunsupported, hincomplete⟩ obs hobs
    refine (plain_iff obs).2 (fun kind hkind => ?_)
    cases kind with
    | UnsupportedMetric => exact hunsupported obs hobs
    | IncompleteEvidence => exact hincomplete obs hobs
    | _ => rfl
  · intro hplain
    exact ⟨fun obs hobs => (plain_iff obs).1 (hplain obs hobs) _ rfl,
      fun obs hobs => (plain_iff obs).1 (hplain obs hobs) _ rfl⟩

/-- **In every state**, a view that is shown agrees with its table exactly if its fold counts neither an unsupported
metric nor incomplete evidence. -/
theorem summarised_iff (h : e.ReachedBy (fun _ _ => True) (fun _ _ => True)) (hv : e.Shows v) :
    v.Summarised ↔ v.anomalyCount .UnsupportedMetric = 0 ∧ v.anomalyCount .IncompleteEvidence = 0 := by
  have hquiet : e.Holds (fun _ _ b => b.Quiet unnoted) :=
    quiet_of_reachedBy (h.mono (fun _ _ _ _ _ o _ => spares_unnoted o) (fun _ _ h => h))
  obtain ⟨flow, gen, source, b, d, ctx, hb, rfl⟩ := hv.binding
  have hview : (sourceView e.config b d ctx).Summarised ↔ _ := summarised_sourceView (hquiet flow gen source b hb) d ctx
  refine Iff.trans ⟨fun hs => ?_, fun hs => ?_⟩ hview
  · exact ⟨hs.1, hs.2, hs.3, hs.4, hs.5, hs.6, hs.7⟩
  · exact ⟨hs.1, hs.2, hs.3, hs.4, hs.5, hs.6, hs.7⟩

/-- **The summary agrees with the table in every run in which the ledgers count plain observations only.** -/
theorem summary_agrees (h : e.ReachedBy (CountsOnly Observation.Plain) (fun _ _ => True)) (hv : e.Shows v) :
    v.Summarised := by
  have hspared : e.ReachedBy (CountsOnly (Observation.Spares (fun _ => true))) (fun _ _ => True) :=
    h.mono (fun _ _ hc hreach hkind o ho kind hfrom _ => (plain_iff o).1 (hc hreach hkind o ho) kind hfrom)
      (fun _ _ h => h)
  have hreached : e.ReachedBy (fun _ _ => True) (fun _ _ => True) := h.mono (fun _ _ _ => trivial) (fun _ _ h => h)
  refine (summarised_iff hreached hv).2 ?_
  obtain ⟨flow, gen, source, b, d, ctx, hb, rfl⟩ := hv.binding
  have hfold := (quiet_of_reachedBy hspared flow gen source b hb).fold d ctx e.config
  exact ⟨hfold.silent .UnsupportedMetric rfl rfl, hfold.silent .IncompleteEvidence rfl rfl⟩

/-- An engine whose source counted two bytes in one direction shows a view that agrees. -/
theorem summary_agrees_reported : ∃ v, reported.Shows v ∧ v.Summarised := by
  have hshown : (reported.query {}).toOption.any (fun r => !r.sources.isEmpty) = true := by with_unfolding_all decide
  obtain ⟨r, hquery, hne⟩ := query_of_any hshown
  obtain ⟨v, hv⟩ : ∃ v, v ∈ r.sources := List.exists_mem_of_ne_nil _ (by simpa using hne)
  have hshows : reported.Shows v := ⟨r, .inl ⟨{}, hquery⟩, hv⟩
  exact ⟨v, hshows, summary_agrees (.step (.opened {} ⟨1000⟩ none reported_opened (fun p hp => by cases hp)) _
    (by with_unfolding_all decide) (fun _ _ => trivial)) hshows⟩

/-- An engine whose source counted two bytes of both directions together. -/
def aggregated : Engine :=
  ({ clock := ⟨1000⟩ } : Engine).openEngine.1.step
    (.ingest { (sampleObservation (sourceIdFromKey (str "a")) .Sample 1 ⟨900⟩).withBytes 2 with direction :=
      .Aggregate })

/-- **The table counts incomplete evidence once, and the summary says that there was none.** -/
theorem summary_disagrees : ¬ ∀ (e : Engine) (v : SourceView), e.Reachable → e.Shows v → v.Summarised := by
  intro h
  have hreached : aggregated.Reachable := .step (.opened {} ⟨1000⟩ reported_opened) _
  have hshown : (aggregated.query {}).toOption.any (fun r => r.sources.any (fun v =>
      v.incompleteEvents == 0 && v.anomalyCount .IncompleteEvidence == 1)) = true := by
    with_unfolding_all decide
  obtain ⟨r, hquery, hany⟩ := query_of_any hshown
  obtain ⟨v, hv, hcounts⟩ := List.any_eq_true.1 hany
  obtain ⟨hzero, hone⟩ := Bool.and_eq_true_iff.1 hcounts
  have hagrees := (h aggregated v hreached ⟨r, .inl ⟨{}, hquery⟩, hv⟩).incompleteEvents
  rw [eq_of_beq hzero, eq_of_beq hone] at hagrees
  cases hagrees

end Engine

end FlowObs
