import FlowObs.Engine.ApplyCases
import FlowObs.Lib.Run

/-!
# The steps of a run

An operation goes through states of its own: a batch applies one observation after the other (`passes`). `passes_rule`
says what relates each of these states to the next, given what relates the states before and after an observation, a
recomputation, the retirement of a source and the registration of one. `applications` are the observations that an
operation applies; what a caller hands in is applied or changes nothing (`ingest_cases`, `submit_cases`).
-/

namespace FlowObs

namespace Engine

/-! ## What an operation applies -/

/-- The observations of a batch, each with the state it is applied to. -/
def batchApplications (e : Engine) : List Observation → List (Engine × Observation)
  | [] => []
  | obs :: batch => (e, obs) :: (e.applyLocked obs).1.batchApplications batch

/-- The observations that an operation applies, each with the state it is applied to. -/
def applications (e : Engine) : Op → List (Engine × Observation)
  | .ingest obs => if e.isOpen && !e.frozen then [(e, obs)] else []
  | .submit obs => if e.isOpen && !e.frozen then [(e, e.prepareSubmit obs)] else []
  | .work batch => e.batchApplications batch
  | .drain n => if e.isOpen then { e with queue := e.queue.drop n }.batchApplications (e.queue.take n) else []
  | _ => []

theorem eq_of_mem_applications {e : Engine} {obs : Observation} {p : Engine × Observation}
    (h : p ∈ e.applications (.ingest obs)) : p = (e, obs) := by
  simp only [applications] at h
  split at h
  · exact List.mem_singleton.1 h
  · cases h

/-- The engine while the flows lose the evidence of a retired source. -/
def dropped (e : Engine) (s : SourceState) (id : SourceId) : Engine :=
  { e with sources := e.sources.set { s with retired := true }
           flows := e.flows.map (dropSource id) (dropSource_id id) }

theorem find?_dropped (e : Engine) (s : SourceState) (id : SourceId) (flow : FlowId) :
    (e.dropped s id).flows.find? flow = (e.flows.find? flow).map (dropSource id) :=
  SortedVec.find?_map _ _ (dropSource_id id) _

/-! ## The same state -/

/-- The two engines have the same configuration and the same tables. -/
structure SameState (e e' : Engine) : Prop where
  config : e'.config = e.config
  replaying : e'.replaying = e.replaying
  isOpen : e'.isOpen = e.isOpen
  flows : e'.flows = e.flows
  sources : e'.sources = e.sources
  registries : e'.registries = e.registries

theorem SameState.refl (e : Engine) : e.SameState e := ⟨rfl, rfl, rfl, rfl, rfl, rfl⟩

theorem SameTables.sameState {e e' : Engine} (h : e.SameTables e') : e.SameState e' := by
  obtain ⟨_, _, _, rfl⟩ := h
  exact ⟨rfl, rfl, rfl, rfl, rfl, rfl⟩

theorem sameState_tickLocked (e : Engine) (evaluatedAt : Timestamp) :
    (({ e with evaluationOverride := evaluatedAt } : Engine).recomputeAll evaluatedAt tickDue).SameState
      (e.tickLocked evaluatedAt) := ⟨rfl, rfl, rfl, rfl, rfl, rfl⟩

theorem sameState_applyBatch (e : Engine) (batch : List Observation) :
    (batch.foldl (fun (e : Engine) obs => (e.applyLocked obs).1) e).SameState (e.applyBatch batch) :=
      ⟨rfl, rfl, rfl, rfl, rfl, rfl⟩

/-! ## How an operation ends -/

/-- An observation that a caller hands in is applied, or nothing is. -/
theorem ingest_cases (e : Engine) (obs : Observation) :
    (e.applications (.ingest obs) = [] ∧ (e.ingest obs).1 = e) ∨
      (e.applications (.ingest obs) = [(e, obs)] ∧ (e.ingest obs).1 = (e.applyLocked obs).1) := by
  unfold ingest applications
  cases hopen : e.isOpen with
  | false => exact .inl ⟨rfl, rfl⟩
  | true =>
    cases hfrozen : e.frozen with
    | true => exact .inl ⟨rfl, rfl⟩
    | false => exact .inr ⟨rfl, rfl⟩

theorem submit_cases (e : Engine) (obs : Observation) :
    (e.applications (.submit obs) = [] ∧ e.step (.submit obs) = e) ∨
      (e.applications (.submit obs) = [(e, e.prepareSubmit obs)] ∧
        e.step (.submit obs) = (e.applyLocked (e.prepareSubmit obs)).1) := by
  simp only [step, submit]
  cases hfrozen : e.frozen with
  | true =>
    refine .inl ⟨?_, rfl⟩
    simp only [applications, hfrozen, Bool.not_true, Bool.and_false]
    rfl
  | false => exact ingest_cases e (e.prepareSubmit obs)

theorem sameState_enqueue (e : Engine) (obs : Observation) : e.SameState (e.step (.enqueue obs)) := by
  simp only [step, enqueue]
  split
  · exact .refl e
  · split
    · exact .refl e
    · split <;> exact ⟨rfl, rfl, rfl, rfl, rfl, rfl⟩

/-- A drain takes its batch from the queue. -/
theorem sameState_taken (e : Engine) (n : Nat) : e.SameState { e with queue := e.queue.drop n } :=
  ⟨rfl, rfl, rfl, rfl, rfl, rfl⟩

/-- A drain of an open engine applies its batch. -/
theorem sameState_drain {e : Engine} (hopen : e.isOpen = true) (n : Nat) :
    ((e.queue.take n).foldl (fun (e : Engine) obs => (e.applyLocked obs).1)
      { e with queue := e.queue.drop n }).SameState
      (e.step (.drain n)) := by
  simp only [step, drain]
  cases hb : e.queue.take n with
  | nil => exact .refl _
  | cons obs batch => simpa [hopen] using sameState_applyBatch { e with queue := e.queue.drop n } (obs :: batch)

/-- A drain of a closed engine applies nothing. -/
theorem sameState_drain_closed {e : Engine} (hclosed : ¬ e.isOpen = true) (n : Nat) :
    e.SameState (e.step (.drain n)) := by
  simp only [step, drain]
  split
  · exact sameState_taken e n
  · rw [if_pos (by simpa using hclosed)]
    exact sameState_taken e n

/-! ## The states of a run -/

/-- The states between the observations of a batch. -/
def during (e : Engine) : List Observation → List Engine
  | [] => []
  | obs :: batch => (e.applyLocked obs).1 :: (e.applyLocked obs).1.during batch

/-- The states that an operation goes through: batches apply one observation after the other. -/
def passes (e : Engine) (op : Op) : List Engine :=
  match op with
  | .work batch => e.during batch ++ [e.step op]
  | .drain maxObservations =>
    (if e.isOpen then { e with queue := e.queue.drop maxObservations }.during (e.queue.take maxObservations) else [])
      ++ [e.step op]
  | _ => [e.step op]

/-- All the states of a run after `e`. -/
def trail (e : Engine) (ops : List Op) : List Engine := Run.trail passes step e ops

theorem getLast?_during : ∀ (e : Engine) (batch : List Observation),
    (e :: e.during batch).getLast? = some (batch.foldl (fun e obs => (e.applyLocked obs).1) e)
  | _, [] => rfl
  | e, obs :: batch => by
    rw [during, List.getLast?_cons_cons]
    exact getLast?_during (e.applyLocked obs).1 batch

theorem getLast?_passes (e : Engine) (op : Op) : (e.passes op).getLast? = some (e.step op) := by
  cases op <;> simp [passes]

section Rule

variable {R : Engine → Engine → Prop} {apply : Engine → Observation → Prop}

theorem isChain_during (happly : ∀ e obs, apply e obs → R e (e.applyLocked obs).1) :
    ∀ {e : Engine} {batch : List Observation}, (∀ p ∈ e.batchApplications batch, apply p.1 p.2) →
      (e :: e.during batch).IsChain R
  | e, [], _ => .singleton e
  | e, obs :: batch, hcond => by
    have hhead := happly e obs (hcond (e, obs) List.mem_cons_self)
    have hrest : ((e.applyLocked obs).1 :: (e.applyLocked obs).1.during batch).IsChain R :=
      isChain_during happly (fun p hp => hcond p (List.mem_cons_of_mem _ hp))
    exact List.isChain_cons_cons.2 ⟨hhead, hrest⟩

/-- A batch and what is left to do after it. -/
theorem isChain_batch (hsame : ∀ e e', e.SameState e' → R e e')
    (happly : ∀ e obs, apply e obs → R e (e.applyLocked obs).1) {e last : Engine} {batch : List Observation}
    (hcond : ∀ p ∈ e.batchApplications batch, apply p.1 p.2)
    (h : (batch.foldl (fun (e : Engine) obs => (e.applyLocked obs).1) e).SameState last) :
    (e :: (e.during batch ++ [last])).IsChain R := by
  rw [← List.cons_append]
  refine List.isChain_append.2 ⟨isChain_during happly hcond, .singleton _, fun x hx y hy => ?_⟩
  rw [getLast?_during] at hx
  cases hx
  cases hy
  exact hsame _ _ h

/-- **The rule for the states that an operation goes through.** A relation between two states that takes no notice of
what lies outside the configuration and the tables. -/
theorem passes_rule (apply : Engine → Observation → Prop) (register : SourceDescriptor → Prop)
    (hsame : ∀ e e', e.SameState e' → R e e')
    (hbetween : ∀ {e₁ e₂ e₃ e₄}, e₁.SameState e₂ → R e₂ e₃ → e₃.SameState e₄ → R e₁ e₄)
    (happly : ∀ e obs, apply e obs → R e (e.applyLocked obs).1)
    (hrecompute : ∀ e atTime due, R e (e.recomputeAll atTime due))
    (hretire : ∀ e s id atTime, e.sources.find? id = some s →
      R e ((e.dropped s id).recomputeAll atTime (fun _ => true)))
    (hregister : ∀ e s, register s.descriptor → R e { e with sources := e.sources.set s }) {e : Engine} {op : Op}
    (hcond : ∀ p ∈ e.applications op, apply p.1 p.2)
    (hdescribed : ∀ d, op = .registerSource d → (e.registerSource d).2 = .ok () → register d) :
    (e :: e.passes op).IsChain R := by
  have hone : ∀ e', R e e' → ([e, e'] : List Engine).IsChain R := fun e' h => .cons_cons h (.singleton _)
  cases op with
  | ingest obs =>
    refine hone _ ?_
    show R e (e.ingest obs).1
    rcases ingest_cases e obs with ⟨-, he⟩ | ⟨happs, he⟩
    · exact he.symm ▸ hsame _ _ (.refl e)
    · exact he.symm ▸ happly e obs (hcond (e, obs) (happs ▸ List.mem_singleton_self _))
  | submit obs =>
    refine hone _ ?_
    rcases submit_cases e obs with ⟨-, he⟩ | ⟨happs, he⟩
    · exact he.symm ▸ hsame _ _ (.refl e)
    · exact he.symm ▸ happly e _ (hcond (e, e.prepareSubmit obs) (happs ▸ List.mem_singleton_self _))
  | enqueue obs => exact hone _ (hsame _ _ (sameState_enqueue e obs))
  | drain n =>
    by_cases hopen : e.isOpen = true
    · rw [applications, if_pos hopen] at hcond
      obtain ⟨hfirst, hrest⟩ := List.isChain_cons.1 (isChain_batch hsame happly hcond (sameState_drain hopen n))
      simp only [passes, if_pos hopen]
      exact List.isChain_cons.2 ⟨fun e' he' => hbetween (sameState_taken e n) (hfirst e' he') (.refl e'), hrest⟩
    · simp only [passes, if_neg hopen]
      exact hone _ (hsame _ _ (sameState_drain_closed hopen n))
  | work batch => exact isChain_batch hsame happly hcond (sameState_applyBatch e batch)
  | tick evaluatedAt =>
    refine hone _ ?_
    simp only [step, tick]
    split
    · exact hsame _ _ (.refl e)
    · split
      · exact hsame _ _ (.refl e)
      · have hset : e.SameState { e with evaluationOverride := evaluatedAt } := ⟨rfl, rfl, rfl, rfl, rfl, rfl⟩
        exact hbetween hset (hrecompute _ evaluatedAt tickDue) (sameState_tickLocked e evaluatedAt)
  | registerSource d =>
    have happend := (sameTables_appendSource e d).sameState
    have hdone := hdescribed d rfl
    refine hone _ ?_
    have hcases := registerSource_cases e d
    simp only [step]
    generalize e.registerSource d = result at hcases hdone ⊢
    cases hcases with
    | known s => exact hregister e { s with descriptor := d, retired := false } (hdone rfl)
    | unjournaled _ _ _ hj =>
      rw [hj] at happend
      exact hsame _ _ happend
    | fresh e₁ _ _ _ hj =>
      rw [hj] at happend
      exact hbetween happend (hregister e₁ { descriptor := d, registeredAt := e₁.now } (hdone rfl)) (.refl _)
    | _ => exact hsame _ _ (.refl e)
  | retireSource id =>
    refine hone _ ?_
    simp only [step, retireSource]
    split
    · exact hsame _ _ (.refl e)
    · rename_i s hs
      exact hretire e s id _ hs
  | compact => exact hone _ (hsame _ _ (sameTables_compactLocked e).sameState)
  | flush => exact hone _ (hsame _ _ ⟨rfl, rfl, rfl, rfl, rfl, rfl⟩)
  | freeze => exact hone _ (hsame _ _ ⟨rfl, rfl, rfl, rfl, rfl, rfl⟩)
  | advance clock => exact hone _ (hsame _ _ ⟨rfl, rfl, rfl, rfl, rfl, rfl⟩)

end Rule

end Engine

end FlowObs
