import FlowObs.Engine.Query

/-!
# Exports as of an instant

`export_data` prints the instant that it is asked for and takes its snapshots at the engine's own. What a snapshot
says depends on the instant only through the freshness of the sources (`snapshotOf_congr`), so the two agree on a flow
whose sources are as fresh at the one instant as at the other; but the instant that is printed is the one that was
used only when they are the same (`export_as_of_iff`).
-/

namespace FlowObs

/-! ## What depends on the instant -/

section Views

variable {config : EngineConfig} {sources : SourceTable} {ctx ctx' : FreshnessContext} {b : SourceBinding}

/-- **A source is seen alike at two instants at which it is equally fresh.** -/
theorem sourceView_of_freshness {d : SourceDescriptor}
    (h : (sourceView config b d ctx).freshness = (sourceView config b d ctx').freshness) :
    sourceView config b d ctx = sourceView config b d ctx' := by
  unfold sourceView SourceBinding.fold at h ⊢
  cases hc : b.cached with
  | some v =>
    rw [hc] at h
    simp only [Option.getD_some] at h ⊢
    rw [h]
  | none =>
    rw [hc] at h
    simp only [Option.getD_none, foldSourceView] at h ⊢
    rw [h]

theorem bindingView_congr (h : ∀ s, sources.find? b.source = some s →
    (sourceView config b s.descriptor ctx).freshness = (sourceView config b s.descriptor ctx').freshness) :
    bindingView config sources ctx b = bindingView config sources ctx' b := by
  unfold bindingView
  exact Option.map_congr fun s hs => sourceView_of_freshness (h s hs)

theorem generationView_congr {flow : FlowId} {current : GenerationId} {g : GenerationRuntime}
    (h : ∀ b ∈ g.bindings.toList, bindingView config sources ctx b = bindingView config sources ctx' b) :
    generationView config sources ctx flow current g = generationView config sources ctx' flow current g := by
  unfold generationView evidenceView
  rw [List.filterMap_congr h]

end Views

namespace Engine

/-- Every source of a flow is as fresh in the one context as in the other. -/
def EquallyFresh (e : Engine) (ctx ctx' : FreshnessContext) (f : FlowRuntime) : Prop :=
  ∀ g ∈ f.generations.toList, ∀ b ∈ g.bindings.toList, ∀ s, e.sources.find? b.source = some s →
    (sourceView e.config b s.descriptor ctx).freshness = (sourceView e.config b s.descriptor ctx').freshness

/-- **A snapshot depends on the instant only through the freshness of the sources.** -/
theorem snapshotOf_congr {e : Engine} {ctx ctx' : FreshnessContext} {f : FlowRuntime} (h : e.EquallyFresh ctx ctx' f) :
    e.snapshotOf ctx f = e.snapshotOf ctx' f := by
  have hviews : f.generations.toList.map (generationView e.config e.sources ctx f.id f.currentGeneration)
      = f.generations.toList.map (generationView e.config e.sources ctx' f.id f.currentGeneration) :=
    List.map_congr_left fun g hg => generationView_congr fun b hb => bindingView_congr (h g hg b hb)
  unfold snapshotOf
  rw [hviews]

/-! ## The requested instant -/

/-- The engine with its evaluation at an instant. -/
def asOf (e : Engine) (t : Timestamp) : Engine := { e with evaluationOverride := t, replaying := false }

theorem context_asOf (e : Engine) {t : Timestamp} (h : t.known = true) :
    (e.asOf t).context = { e.context with now := t } := by
  have hnow : (e.asOf t).instant = t := if_pos h
  unfold context
  rw [hnow]
  rfl

end Engine

/-- Two snapshots report the same freshness, visibility, consistency and totals. -/
structure FlowSnapshot.SameReport (s s' : FlowSnapshot) : Prop where
  freshness : s.freshness = s'.freshness
  visibility : s.visibility = s'.visibility
  consistency : s.consistency = s'.consistency
  total : s.total = s'.total

namespace Engine

/-- What is reported of a flow is what the engine reports of it as of an instant. -/
def ReportedAsOf (e : Engine) (t : Timestamp) (s : FlowSnapshot) : Prop :=
  ∃ f, e.flows.find? s.id = some f ∧ s.SameReport ((e.asOf t).snapshotOf (e.asOf t).context f)

/-- **An export is a view as of an instant**: every flow is reported as of it, and the instant that is printed is the
one of the context in which `export_data` took the snapshots. -/
structure ExportedAsOf (e : Engine) (t : Timestamp) (r : QueryResult) : Prop where
  reported : ∀ s ∈ r.flows, e.ReportedAsOf t s
  printed : r.evaluatedAt = e.context.now

variable {e : Engine} {o : ExportOptions} {r : QueryResult} {t : Timestamp}

/-- **An export reports the snapshots at the engine's own instant**, whatever instant it is asked for. -/
theorem exported (h : e.exportData o = .ok r) :
    (∀ s ∈ r.flows, ∃ f, e.flows.find? s.id = some f ∧ s = e.snapshotOf e.context f) ∧
      r.evaluatedAt = o.evaluatedAt.getD e.context.now := by
  obtain ⟨⟨⟩, hvalid, h⟩ := bind_ok.1 h
  obtain rfl := Except.ok.inj h
  constructor
  · intro s hs
    rw [flows_scan] at hs
    have hmatching : s ∈ e.matching o.query := List.mem_of_mem_drop (List.mem_of_mem_take hs)
    obtain ⟨f, hf, rfl⟩ := List.mem_map.1 (List.mem_of_mem_filter hmatching)
    exact ⟨f, SortedVec.find?_of_mem hf, rfl⟩
  · have hkeeps : ∀ (l : List FlowSnapshot) (r : QueryResult), (l.foldl (scanStep o.query) r).evaluatedAt =
        r.evaluatedAt := by
      intro l
      induction l with
      | nil => exact fun _ => rfl
      | cons s l ih =>
        intro r
        rw [List.foldl_cons, ih]
        unfold scanStep
        dsimp only
        split_ifs <;> rfl
    exact hkeeps _ _

/-- **When an export is a view as of the instant that it is asked for**: when that is the engine's own. What it
reports of a flow is right also when its sources are as fresh at the one instant as at the other. -/
theorem export_as_of_iff (ht : o.evaluatedAt = some t) (h : e.exportData o = .ok r) :
    (e.ExportedAsOf t r ↔ t = e.context.now) ∧
      ∀ s ∈ r.flows, (∀ f, e.flows.find? s.id = some f → e.EquallyFresh e.context (e.asOf t).context f) →
        e.ReportedAsOf t s := by
  obtain ⟨hflows, hprinted⟩ := exported h
  rw [ht, Option.getD_some] at hprinted
  have hreports : ∀ s ∈ r.flows, (∀ f, e.flows.find? s.id = some f → e.EquallyFresh e.context (e.asOf t).context f) →
      e.ReportedAsOf t s := by
    intro s hs hfresh
    obtain ⟨f, hf, hsnap⟩ := hflows s hs
    refine ⟨f, hf, ?_⟩
    have hsame : s = (e.asOf t).snapshotOf (e.asOf t).context f := hsnap.trans (snapshotOf_congr (hfresh f hf))
    rw [← hsame]
    exact ⟨rfl, rfl, rfl, rfl⟩
  refine ⟨⟨fun has => hprinted.symm.trans has.printed, fun hsame => ?_⟩, hreports⟩
  refine ⟨fun s hs => hreports s hs fun f _ => ?_, hprinted.trans hsame⟩
  -- at its own instant the engine evaluates as it does
  have hknown : t.known = true := by
    obtain ⟨⟨⟩, hvalid, -⟩ := bind_ok.1 h
    obtain ⟨⟨⟩, -, hvalid⟩ := bind_ok.1 hvalid
    obtain ⟨-, hvalid⟩ := require_bind_ok.1 hvalid
    have hall := require_ok.1 hvalid
    rwa [ht] at hall
  rw [context_asOf e hknown, hsame]
  exact fun _ _ _ _ _ _ => rfl

/-- An export of what is reported, at the engine's own instant and at another. -/
def exportAt (t : Timestamp) : ExportOptions := { evaluatedAt := some t }

theorem export_as_of_iff_now : ∃ r, reported.exportData (exportAt ⟨1000⟩) = .ok r ∧ reported.ExportedAsOf ⟨1000⟩ r := by
  have hvalid : (exportAt ⟨1000⟩).validate reported.config.limits reported.config.query =
      .ok () := by with_unfolding_all decide
  obtain ⟨r, hr, -⟩ := flows_exportData hvalid
  exact ⟨r, hr, (export_as_of_iff rfl hr).1.2 (by with_unfolding_all decide)⟩

/-- **An export as of a later instant still calls fresh what has expired by then.** The evidence was observed at 900
ns; it is exported as of one hour later. -/
theorem export_at_other_instant : ¬ ∀ e : Engine, e.Reachable → ∀ (o : ExportOptions) (t : Timestamp) (r : QueryResult),
    o.evaluatedAt = some t → e.exportData o = .ok r → e.ExportedAsOf t r := by
  intro h
  have hreached : reported.Reachable := .step (.opened {} ⟨1000⟩ reported_opened) _
  have hvalid : (exportAt ⟨3600000000000⟩).validate reported.config.limits reported.config.query =
      .ok () := by with_unfolding_all decide
  obtain ⟨r, hr, hflows⟩ := flows_exportData hvalid
  have hfresh : r.flows.map (·.freshness) = [.Fresh] := by
    rw [hflows]
    with_unfolding_all decide
  have hlater : ∀ f ∈ reported.flows.toList, ((reported.asOf ⟨3600000000000⟩).snapshotOf
      (reported.asOf ⟨3600000000000⟩).context f).freshness ≠ .Fresh := by with_unfolding_all decide
  obtain ⟨s, hs⟩ : ∃ s, r.flows = [s] := List.length_eq_one_iff.1 (by simpa using congrArg List.length hfresh)
  have hone : s.freshness = .Fresh := by
    rw [hs] at hfresh
    simpa using hfresh
  obtain ⟨f, hf,
    hsame⟩ := (h reported hreached (exportAt ⟨3600000000000⟩) ⟨3600000000000⟩ r rfl hr).reported s (by simp [hs])
  exact hlater f (SortedVec.find?_mem hf) (hsame.freshness.symm.trans hone)

end Engine

end FlowObs
