import FlowObs.Engine.Coherent
import FlowObs.Fold

/-!
# Persisted and reported totals

The engine accounts twice: what it persists of a source is the fold of its ledger under the ledger's own policy, what
it reports is a fold of the retained entries under the configured one, and the fold may be a cached one.
`totals_agree` says when the two give the same totals, however many entries were folded out of the ledger.
-/

namespace FlowObs

/-- The forward, the reverse and the aggregate totals that are persisted of a source. -/
def PersistedSource.totals (p : PersistedSource) : Consumption × Consumption × Consumption :=
  (p.forwardTotals, p.reverseTotals, p.aggregateTotals)

/-- The forward, the reverse and the aggregate totals that a view reports. -/
def SourceView.totals (v : SourceView) : Consumption × Consumption × Consumption :=
  (v.forwardTotals, v.reverseTotals, v.aggregateTotals)

/-- The totals of a fold. -/
def FoldState.totals (s : FoldState) : Consumption × Consumption × Consumption :=
  (toConsumption s.forward, toConsumption s.reverse, toConsumption s.aggregate)

/-- What is erased does not matter to the totals. -/
theorem FoldState.totals_congr {quiet : Bool} {s s' : FoldState} (h : s.erase quiet = s'.erase quiet) :
    s.totals = s'.totals := by
  have htotals : (s.erase quiet).totals = (s'.erase quiet).totals := by rw [h]
  exact htotals

theorem totals_foldSourceView (l : SourceLedger) (d : SourceDescriptor) (ctx : FreshnessContext)
    (counters : CounterPolicy) :
    (foldSourceView l d ctx counters).totals = (l.foldAll counters).totals := rfl

/-- The binding after the first `n` entries of its ledger were folded out, which gives up the cached fold. -/
def SourceBinding.foldOut (b : SourceBinding) (n : Nat) : SourceBinding :=
  { b with ledger := b.ledger.foldOut n, cached := none }

/-- Only an observation that replaces a retained one changes the totals without being accepted. -/
theorem SourceLedger.shows_totals {l : SourceLedger} {obs : Observation} (h : l.replaces obs = false)
    (counters : CounterPolicy) : l.Shows SourceView.totals counters obs := by
  intro hkind d ctx
  rw [totals_foldSourceView, totals_foldSourceView]
  have hcases := l.insert_cases obs
  generalize (l.insert obs).1 = l' at hcases ⊢
  generalize (l.insert obs).2.kind = kind at hkind hcases
  cases hcases with
  | foreign _ => simp at hkind
  | stale _ _ _ => simp at hkind
  | accepted _ _ _ => simp at hkind
  | refolded _ _ _ => rfl
  | redelivered _ _ _ _ _ => rfl
  | outranked _ _ _ _ _ => rfl
  | replaced _ hi stored hf hd =>
    simp [replaces, hi, hf, hd] at h

namespace Engine

/-- No observation takes the place of a retained one in a ledger whose fold is cached. -/
def Unreplaced (e : Engine) (incoming : Observation) : Prop :=
  e.reachesLedger incoming = true → (e.bindingFor (e.taken incoming)).ledger.replaces (e.taken incoming) = true →
    (e.bindingFor (e.taken incoming)).cached = none

instance (e : Engine) (incoming : Observation) : Decidable (e.Unreplaced incoming) :=
  inferInstanceAs (Decidable (_ → _ → _))

theorem keepsShown_of_unreplaced {e : Engine} {incoming : Observation} (h : e.Unreplaced incoming) :
    e.KeepsShown SourceView.totals incoming := by
  intro hreach hcached
  have hnot : (e.bindingFor (e.taken incoming)).ledger.replaces (e.taken incoming) ≠ true :=
    fun hreplaces => hcached (h hreach hreplaces)
  exact SourceLedger.shows_totals (Bool.eq_false_iff.2 hnot) e.config.counters

/-- A descriptor has no part in the totals. -/
theorem keepsDescribed_totals (e : Engine) (d : SourceDescriptor) : e.KeepsDescribed SourceView.totals d := by
  intro s _ flow gen b _ _ ctx
  rw [totals_foldSourceView, totals_foldSourceView]

/-- What is reported of a binding whose cache is coherent: the totals of the fold under the configured policy. -/
theorem totals_sourceView {config : EngineConfig} {sources : SourceTable} {b : SourceBinding}
    (h : Agrees SourceView.totals config sources b) (d : SourceDescriptor) (ctx : FreshnessContext) :
    (sourceView config b d ctx).totals = (b.ledger.foldAll config.counters).totals := by
  have hview : (sourceView config b d ctx).totals = (b.fold d ctx config).totals := rfl
  rw [hview, SourceBinding.fold]
  cases hc : b.cached with
  | none => exact totals_foldSourceView _ _ _ _
  | some v =>
    obtain ⟨s, ctx', -, hv⟩ := h v hc
    exact hv.trans (totals_foldSourceView _ _ _ _)

/-- **Persisted and reported totals.** In every state reached when no retained observation is replaced under a cached
fold, what is persisted of a binding and what is reported of it agree, and neither changes when entries are folded out
of its ledger, if a regression is treated as a reset or no retained observation regresses. -/
theorem totals_agree {e : Engine} (h : e.ReachedBy Unreplaced (fun _ _ => True)) : e.Holds (fun _ _ b =>
    e.config.counters.treatRegressionAsReset = true ∨ b.ledger.steady = true → ∀ n d ctx,
      (e.persistSource b).totals = (sourceView e.config b d ctx).totals ∧
      (e.persistSource (b.foldOut n)).totals = (e.persistSource b).totals ∧
      (sourceView e.config (b.foldOut n) d ctx).totals = (sourceView e.config b d ctx).totals) := by
  have hreached := h.mono (fun _ _ => keepsShown_of_unreplaced) (fun e d _ => keepsDescribed_totals e d)
  intro flow gen source b hb hcond n d ctx
  have hagrees := coherent_of_reachedBy hreached flow gen source b hb
  have hpolicy : b.ledger.counterPolicy = {} := h.policy flow gen source b hb
  have hsame : b.ledger.counterPolicy.treatRegressionAsReset = e.config.counters.treatRegressionAsReset ∨
      b.ledger.steady = true := hcond.imp (fun htreat => by rw [hpolicy, htreat]) id
  -- each of the four is the total of the whole fold under the policy of the ledger
  have hfolded : ∀ n, ((b.ledger.foldOut n).foldAll e.config.counters).totals
      = (b.ledger.foldAll b.ledger.counterPolicy).totals :=
    fun n => FoldState.totals_congr (b.ledger.erase_foldAll_foldOut e.config.counters hsame n)
  have hwhole : (b.ledger.foldAll e.config.counters).totals =
      (b.ledger.foldAll b.ledger.counterPolicy).totals := hfolded 0
  have hunmarked : (b.ledger.foldAll b.ledger.counterPolicy).erase false
      = b.ledger.foldedState.toFoldState.erase false := unmark_foldedState b.ledger
  have hpersisted : (e.persistSource b).totals = (b.ledger.foldAll b.ledger.counterPolicy).totals :=
    (FoldState.totals_congr hunmarked).symm
  have hpersistedOut : (e.persistSource (b.foldOut n)).totals = (b.ledger.foldAll b.ledger.counterPolicy).totals :=
    FoldState.totals_congr (b.ledger.erase_foldedState_foldOut n)
  have hview := (totals_sourceView hagrees d ctx).trans hwhole
  have hviewOut : (sourceView e.config (b.foldOut n) d ctx).totals = (b.ledger.foldAll b.ledger.counterPolicy).totals :=
    (totals_sourceView (.of_none rfl : Agrees SourceView.totals e.config e.sources (b.foldOut n)) d ctx).trans
      (hfolded n)
  exact ⟨hpersisted.trans hview.symm, hpersistedOut.trans hpersisted.symm, hviewOut.trans hview.symm⟩

/-- A counter that goes back is held, and counted on from where it was. -/
def holding : EngineConfig := { counters := { treatRegressionAsReset := false } }

/-- An engine to which the source `a` reported ten bytes and then five. -/
def regressed : Engine :=
  (({ config := holding, clock := ⟨1000⟩ } : Engine).openEngine.1.step
    (.ingest ((sampleObservation (sourceIdFromKey (str "a")) .Sample 1 ⟨900⟩).withBytes 10))).step
    (.ingest ((sampleObservation (sourceIdFromKey (str "a")) .Sample 2 ⟨910⟩).withBytes 5))

/-- An engine to which the source `a` reported two bytes, then nine, and then, after a reset, four. -/
def recounted : Engine :=
  (reported.step (.ingest ((sampleObservation (sourceIdFromKey (str "a")) .Sample 2 ⟨910⟩).withBytes 9))).step
    (.ingest ((sampleObservation (sourceIdFromKey (str "a")) .Sample 3 ⟨920⟩).withBytes 4))

theorem totals_agree_recounted : recounted.Holds (fun _ _ b =>
    recounted.config.counters.treatRegressionAsReset = true ∨ b.ledger.steady = true → ∀ n d ctx,
      (recounted.persistSource b).totals = (sourceView recounted.config b d ctx).totals ∧
      (recounted.persistSource (b.foldOut n)).totals = (recounted.persistSource b).totals ∧
      (sourceView recounted.config (b.foldOut n) d ctx).totals = (sourceView recounted.config b d ctx).totals) := by
  have hreported : reported.ReachedBy Unreplaced (fun _ _ => True) :=
    .step (.opened {} ⟨1000⟩ none reported_opened (fun p hp => by cases hp)) _ (by with_unfolding_all decide)
      (fun _ _ => trivial)
  exact totals_agree (.step (.step hreported _ (by with_unfolding_all decide) (fun _ _ => trivial)) _
    (by with_unfolding_all decide)
    (fun _ _ => trivial))

/-- **A ledger persists a reset where the configured policy reports a counter that is held.** -/
theorem totals_can_differ : ¬ ∀ e : Engine, e.Reachable → e.Holds (fun _ _ b => ∀ d ctx,
    (e.persistSource b).totals = (sourceView e.config b d ctx).totals) := by
  intro h
  have hopen : ({ config := holding, clock := ⟨1000⟩ } : Engine).openEngine.2 = .ok () := 
    opens_new_iff.2 (by decide)
  have hreached : regressed.Reachable := .step (.step (.opened holding ⟨1000⟩ hopen) _) _
  have hdiffer : (regressed.binding? sampleFlow ⟨1⟩ (sourceIdFromKey (str "a"))).any (fun b =>
      (regressed.persistSource b).totals != (sourceView regressed.config b {} {}).totals) = true := by
    with_unfolding_all decide
  obtain ⟨b, hb, hne⟩ := (Option.any_eq_true _ _).1 hdiffer
  rw [h regressed hreached _ _ _ b hb {} {}, bne_self_eq_false] at hne
  cases hne

end Engine

end FlowObs
