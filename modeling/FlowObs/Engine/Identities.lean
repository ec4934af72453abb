import FlowObs.Engine.Reachable

/-!
# The keys next to the identities

The engine keeps a canonical key next to an identity in its flows and in its registries (`Engine.Stores`), and refuses
an observation that gives another key for the identity (`Engine.Collides`). `validate_observation` checks every pair
of an observation but that of the peer endpoint, and a flow of a file is rebuilt under whatever key the file gives it.
When the pairs that get past these two gaps agree (`Engine.PeerAgrees`, `Rebuilds`), every key that is kept hashes to
its identity and a collision is one of two keys that were presented (`identities_sound`).
-/

namespace FlowObs

/-! ## Registering identities -/

section Registries

variable {d : IdDomain} {limits : Limits} {r : IdentityRegistry d} {id : OpaqueId d} {key : Str}

/-- What is registered was registered before, or is the pair that is given and there is room for it. -/
theorem mem_registerOne {p : OpaqueId d × Str} (h : p ∈ (registerOne limits r id key).1.toList) :
    p ∈ r.toList ∨ p = (id, key) ∧ id.valid = true ∧ key ≠ [] ∧ r.toList.length < limits.maxFlows.toNat := by
  unfold registerOne at h
  split at h
  · exact .inl h
  · rename_i hgiven
    obtain ⟨hid, hkey⟩ : id.valid = true ∧ key ≠ [] := by simpa using hgiven
    unfold IdentityRegistry.observe at h
    cases hfind : r.find? id with
    | some known =>
      simp only [hfind] at h
      left
      split at h <;> simp_all
    | none =>
      simp only [hfind] at h
      by_cases hfull : limits.maxFlows.toNat ≤ r.toList.length
      · rw [if_pos hfull] at h
        exact .inl h
      · rw [if_neg hfull] at h
        rcases SortedVec.mem_set.1 h with rfl | ⟨h, -⟩
        · exact .inr ⟨rfl, hid, hkey, Nat.not_le.1 hfull⟩
        · exact .inl h

/-- A collision is with another key that is registered for the identity. -/
theorem collision_registerOne {err : Error} (h : (registerOne limits r id key).2 = some (.IdentityCollision, err)) :
    ∃ existing, (id, existing) ∈ r.toList ∧ existing ≠ key ∧ id.valid = true ∧ key ≠ [] := by
  unfold registerOne at h
  split at h
  · cases h
  · rename_i hgiven
    obtain ⟨hid, hkey⟩ : id.valid = true ∧ key ≠ [] := by simpa using hgiven
    unfold IdentityRegistry.observe at h
    cases hfind : r.find? id with
    | some known =>
      obtain ⟨id', existing⟩ := known
      obtain rfl : id' = id := SortedVec.find?_key hfind
      by_cases hsame : existing = key
      · simp [hfind, hsame] at h
      · exact ⟨existing, SortedVec.find?_mem hfind, hsame, hid, hkey⟩
    | none =>
      by_cases hfull : limits.maxFlows.toNat ≤ r.toList.length <;> simp [hfind, hfull] at h

end Registries

/-- The observation gives the key for the identity. -/
def ObservationSubject.Gives (s : ObservationSubject) : (d : IdDomain) → OpaqueId d → Str → Prop
  | .flow, id, key => s.flow = id ∧ s.flowKey = key
  | .endpoint, id, key => s.endpoint = id ∧ s.endpointKey = key ∨ s.peerEndpoint = id ∧ s.peerEndpointKey = key
  | .path, id, key => s.path.getD default = id ∧ s.pathKey = key
  | .queue, id, key => s.queue.getD default = id ∧ s.queueKey = key
  | .link, id, key => s.link.getD default = id ∧ s.linkKey = key
  | .source, _, _ => False

/-- The observation presents the key for the identity: it gives both. -/
def ObservationSubject.Presents (s : ObservationSubject) (d : IdDomain) (id : OpaqueId d) (key : Str) : Prop :=
  id.valid = true ∧ key ≠ [] ∧ s.Gives d id key

/-- Every key of a registry is as `P` says of it and its identity. -/
abbrev Registries.All (P : ∀ d, OpaqueId d → Str → Prop) (r : Registries) : Prop :=
  r.Each (fun d r => ∀ p ∈ r.toList, P d p.1 p.2)

/-- The pairs that `register_identity` comes to are as `P` says. It comes to that of the peer endpoint when it has not
refused that of the endpoint, and when the registry knows the peer endpoint or has room for it. -/
structure ObservationSubject.Vouched (s : ObservationSubject) (limits : Limits) (r : Registries)
    (P : ∀ d, OpaqueId d → Str → Prop) : Prop where
  endpoint : s.endpoint.valid = true → s.endpointKey ≠ [] → P .endpoint s.endpoint s.endpointKey
  peer : ∀ endpoints, registerOne limits r.endpoints s.endpoint s.endpointKey = (endpoints, none) →
    (endpoints.find? s.peerEndpoint).isSome = true ∨ endpoints.toList.length < limits.maxFlows.toNat →
    s.peerEndpoint.valid = true → s.peerEndpointKey ≠ [] → P .endpoint s.peerEndpoint s.peerEndpointKey
  path : (s.path.getD default).valid = true → s.pathKey ≠ [] → P .path (s.path.getD default) s.pathKey
  queue : (s.queue.getD default).valid = true → s.queueKey ≠ [] → P .queue (s.queue.getD default) s.queueKey
  link : (s.link.getD default).valid = true → s.linkKey ≠ [] → P .link (s.link.getD default) s.linkKey

section Vouched

variable {limits : Limits} {s : ObservationSubject} {r : Registries} {P : ∀ d, OpaqueId d → Str → Prop}

theorem all_registerOne {d : IdDomain} {r : IdentityRegistry d} {id : OpaqueId d} {key : Str}
    (h : ∀ p ∈ r.toList, P d p.1 p.2)
    (hnew : id.valid = true → key ≠ [] → r.toList.length < limits.maxFlows.toNat → P d id key) :
    ∀ p ∈ (registerOne limits r id key).1.toList, P d p.1 p.2 := by
  intro p hp
  rcases mem_registerOne hp with hp | ⟨rfl, hid, hkey, hroom⟩
  · exact h p hp
  · exact hnew hid hkey hroom

theorem ObservationSubject.Vouched.register (hv : s.Vouched limits r P) (h : r.All P) :
    (registerIdentity limits s r).1.All P :=
  Registries.Each.register h (fun _ h => all_registerOne h (fun hid hkey _ => hv.endpoint hid hkey))
    (fun endpoints hfirst h => all_registerOne h (fun hid hkey hroom => hv.peer endpoints hfirst (.inr hroom) hid hkey))
    (fun _ h => all_registerOne h (fun hid hkey _ => hv.path hid hkey))
    (fun _ h => all_registerOne h (fun hid hkey _ => hv.queue hid hkey))
    (fun _ h => all_registerOne h (fun hid hkey _ => hv.link hid hkey))

/-- **A collision is one of two different keys that `P` holds of**, and the observation presents one of them. -/
theorem ObservationSubject.Vouched.collision (hv : s.Vouched limits r P) (h : r.All P) {err : Error}
    (hc : (registerIdentity limits s r).2 = some (.IdentityCollision, err)) :
    ∃ d id key key', key ≠ key' ∧ P d id key ∧ P d id key' ∧ s.Presents d id key' := by
  have hone : ∀ {d : IdDomain} {r : IdentityRegistry d} {id : OpaqueId d} {key : Str} {err : Error},
      (∀ p ∈ r.toList, P d p.1 p.2) → (registerOne limits r id key).2 = some (.IdentityCollision, err) →
      ((r.find? id).isSome = true → id.valid = true → key ≠ [] → P d id key) → s.Gives d id key →
      ∃ d id key key', key ≠ key' ∧ P d id key ∧ P d id key' ∧ s.Presents d id key' := by
    intro d r id key err hall hrefused hsound hgives
    obtain ⟨existing, hmem, hne, hid, hkey⟩ := collision_registerOne hrefused
    have hknown : (r.find? id).isSome = true := by
      rw [show r.find? id = some (id, existing) from SortedVec.find?_of_mem hmem]
      rfl
    exact ⟨d, id, existing, key, hne, hall _ hmem, hsound hknown hid hkey, hid, hkey, hgives⟩
  unfold registerIdentity at hc
  have hendpoints : ∀ p ∈ (registerOne limits r.endpoints s.endpoint s.endpointKey).1.toList, P .endpoint p.1 p.2 :=
    all_registerOne h.endpoints (fun hid hkey _ => hv.endpoint hid hkey)
  cases hfirst : registerOne limits r.endpoints s.endpoint s.endpointKey with
  | mk endpoints refused =>
    rw [hfirst] at hc hendpoints
    cases refused with
    | some e =>
      cases hc
      exact hone h.endpoints (by rw [hfirst]) (fun _ => hv.endpoint) (.inl ⟨rfl, rfl⟩)
    | none =>
      simp only at hc
      cases hpeer : registerOne limits endpoints s.peerEndpoint s.peerEndpointKey with
      | mk peers refused =>
        rw [hpeer] at hc
        cases refused with
        | some e =>
          cases hc
          exact hone hendpoints (by rw [hpeer]) (fun hknown => hv.peer endpoints hfirst (.inl hknown)) (.inr ⟨rfl, rfl⟩)
        | none =>
          simp only at hc
          cases hpath : registerOne limits r.paths (s.path.getD default) s.pathKey with
          | mk paths refused =>
            rw [hpath] at hc
            cases refused with
            | some e =>
              cases hc
              exact hone h.paths (by rw [hpath]) (fun _ => hv.path) ⟨rfl, rfl⟩
            | none =>
              simp only at hc
              cases hqueue : registerOne limits r.queues (s.queue.getD default) s.queueKey with
              | mk queues refused =>
                rw [hqueue] at hc
                cases refused with
                | some e =>
                  cases hc
                  exact hone h.queues (by rw [hqueue]) (fun _ => hv.queue) ⟨rfl, rfl⟩
                | none => exact hone h.links hc (fun _ => hv.link) ⟨rfl, rfl⟩

end Vouched

/-! ## The stages on the flow -/

section Stages

variable {config : EngineConfig} {sources : SourceTable} {ctx : FreshnessContext} {replaying : Bool}
variable {limits : Limits} {atTime : Timestamp} {obs : Observation} {tx : FlowTx}

/-- The registries after the identities of an observation of the flow. -/
def FlowRuntime.registers (f : FlowRuntime) (limits : Limits) (s : ObservationSubject) (r : Registries) : Registries :=
  if f.canonicalKey = s.flowKey then (registerIdentity limits s r).1 else r

/-- An observation of the flow is refused because one of its keys is not the one that is kept for the identity. -/
def FlowRuntime.collides (f : FlowRuntime) (limits : Limits) (s : ObservationSubject) (r : Registries) : Bool :=
  f.canonicalKey != s.flowKey || (registerIdentity limits s r).2.any (·.1 == .IdentityCollision)

/-- What the stages make of the identity of the flow, of the registries and of the count of collisions. -/
structure FlowTx.Identified (limits : Limits) (s : ObservationSubject) (tx tx' : FlowTx) : Prop where
  id : tx'.flow.id = tx.flow.id
  canonicalKey : tx'.flow.canonicalKey = tx.flow.canonicalKey
  registries : tx'.registries = tx.flow.registers limits s tx.registries
  collisions : tx'.counters.identityCollisions = tx.counters.identityCollisions
    + if tx.flow.collides limits s tx.registries then 1 else 0

theorem logRule_identified (s : ObservationSubject) (tx : FlowTx) : LogRule limits (tx.Identified limits s) where
  keep _ _ hs h := ⟨hs.id.trans h.id, hs.canonicalKey.trans h.canonicalKey, hs.registries.trans h.registries,
    hs.collisions.trans h.collisions⟩
  note tx' a h := by
    obtain ⟨_, _, _, hn⟩ := FlowTx.noted_note tx' limits a
    exact ⟨by rw [hn]; exact h.id, by rw [hn]; exact h.canonicalKey, h.registries, h.collisions⟩
  recompute _ _ _ _ _ _ h := ⟨(recomputeFlow_id _).trans h.id, (recomputeFlow_canonicalKey _).trans h.canonicalKey,
    h.registries, h.collisions⟩

/-- The canonical key and the identities are checked. -/
theorem identified_registerIdentities (limits : Limits) (atTime : Timestamp) (obs : Observation) (tx : FlowTx) :
    Leaves (tx.Identified limits obs.subject)
      (matchKey limits atTime obs tx >>= registerIdentities limits atTime obs) := by
  have hrule : LogRule limits (tx.Identified limits obs.subject) := logRule_identified obs.subject tx
  unfold matchKey
  by_cases hkey : tx.flow.canonicalKey = obs.subject.flowKey
  · rw [if_pos hkey]
    simp only [ok_bind]
    unfold registerIdentities
    have hregisters : (registerIdentity limits obs.subject tx.registries).1
        = tx.flow.registers limits obs.subject tx.registries := by rw [FlowRuntime.registers, if_pos hkey]
    have hcollides : tx.flow.collides limits obs.subject tx.registries
        = (registerIdentity limits obs.subject tx.registries).2.any (·.1 == .IdentityCollision) := by
      simp [FlowRuntime.collides, hkey]
    rcases hr : registerIdentity limits obs.subject tx.registries with ⟨registries, _ | ⟨kind, err⟩⟩
    · rw [hr] at hregisters hcollides
      exact ⟨rfl, rfl, hregisters, by simp [hcollides]⟩
    · rw [hr] at hregisters hcollides
      have hcounted : tx.Identified limits obs.subject
          (if kind = .IdentityCollision then FlowTx.collided { tx with registries := registries }
            else { tx with registries := registries }) := by
        split
        · rename_i hkind
          exact ⟨rfl, rfl, hregisters, by simp [hcollides, hkind, FlowTx.collided]⟩
        · rename_i hkind
          exact ⟨rfl, rfl, hregisters, by simp [hcollides, hkind]⟩
      exact hrule.keep (FlowTx.note _ limits _) _ ⟨rfl, rfl, rfl, rfl, rfl, rfl⟩ (hrule.note _ _ hcounted)
  · rw [if_neg hkey]
    have hcollided : tx.Identified limits obs.subject tx.collided :=
      ⟨rfl, rfl, by rw [FlowRuntime.registers, if_neg hkey]; rfl, by simp [FlowRuntime.collides, hkey, FlowTx.collided]⟩
    exact hrule.keep (tx.collided.note limits _) _ ⟨rfl, rfl, rfl, rfl, rfl, rfl⟩ (hrule.note _ _ hcollided)

/-- **What the stages do to the identities**, whichever way they end. -/
theorem identified_applyToFlow (tx : FlowTx) : tx.Identified config.limits obs.subject
    (Exit.ofExcept (applyToFlow config sources ctx replaying atTime obs tx)).1 :=
  (logRule_identified obs.subject tx).applyToFlow (identified_registerIdentities config.limits atTime obs tx)

end Stages

/-! ## Applying an observation -/

namespace Engine

/-- The engine and the flow once the source and the flow of the observation are found or made. -/
def resolve (e : Engine) (atTime : Timestamp) (obs : Observation) : Option (Engine × FlowRuntime) :=
  match e.resolveSource atTime obs.key.source with
  | .error _ => none
  | .ok e =>
    match e.resolveFlow atTime obs with
    | (_, none) => none
    | (e, some flow) => some (e, flow)

/-- The engine and the flow that `apply_locked` hands to the stages on the flow, when the observation is valid,
journalled and resolved. -/
def handed (e : Engine) (incoming : Observation) : Option (Engine × FlowRuntime) :=
  let obs := prepare e.instant incoming
  let journaled := if e.replaying then (e.received, .ok ()) else e.received.appendObservation obs
  if (validateObservation e.config.limits incoming).isOk && journaled.2.isOk then journaled.1.resolve
    e.instant obs else none

/-- The registries and the count of collisions are as they were, and so are the flows that are left. -/
structure SameIdentities (e e' : Engine) : Prop where
  config : e'.config = e.config
  registries : e'.registries = e.registries
  collisions : e'.counters.identityCollisions = e.counters.identityCollisions
  flows : ∀ id, e'.flows.find? id = e.flows.find? id ∨ e'.flows.find? id = none

section Apply

variable {e e' e'' : Engine} {incoming : Observation} {atTime : Timestamp} {obs : Observation}

theorem SameIdentities.refl (e : Engine) : e.SameIdentities e := ⟨rfl, rfl, rfl, fun _ => .inl rfl⟩

theorem SameIdentities.trans (h : e.SameIdentities e') (h' : e'.SameIdentities e'') : e.SameIdentities e'' where
  config := h'.config.trans h.config
  registries := h'.registries.trans h.registries
  collisions := h'.collisions.trans h.collisions
  flows id := by
    rcases h'.flows id with hsame | hnone
    · rw [hsame]
      exact h.flows id
    · exact .inr hnone

/-- What an engine with the same flows and registries has counted. -/
theorem SameIdentities.of_eq (hc : e'.config = e.config) (hf : e'.flows = e.flows) (hr : e'.registries = e.registries)
    (hn : e'.counters.identityCollisions = e.counters.identityCollisions) : e.SameIdentities e' :=
  ⟨hc, hr, hn, fun _ => .inl (by rw [hf])⟩

theorem sameIdentities_appendRecord (e : Engine) (r : Record) : e.SameIdentities (e.appendRecord r).1 := by
  unfold appendRecord
  split <;> exact .of_eq rfl rfl rfl rfl

theorem sameIdentities_recordAppended (r : Record) (p : Engine × Except Error Unit) :
    p.1.SameIdentities (recordAppended r p).1 := by
  obtain ⟨e, status⟩ := p
  cases status <;> exact .of_eq rfl rfl rfl rfl

theorem sameIdentities_compactLocked (e : Engine) : e.SameIdentities e.compactLocked.1 := by
  unfold compactLocked
  split
  · exact .refl e
  · split
    · exact .of_eq rfl rfl rfl rfl
    · split <;> exact .of_eq rfl rfl rfl rfl

theorem sameIdentities_appendObservation (e : Engine) (obs : Observation) :
    e.SameIdentities (e.appendObservation obs).1 :=
  appendObservation_rule (P := e.SameIdentities) (fun _ h => h.trans (sameIdentities_appendRecord _ _))
    (fun _ h => h.trans (sameIdentities_compactLocked _))
      (fun _ _ h => h.trans (sameIdentities_recordAppended _ _)) (.refl e)

theorem sameIdentities_makeFlowRoom (e : Engine) : e.SameIdentities e.makeFlowRoom.1 := by
  unfold makeFlowRoom
  split
  · exact .refl e
  · simp only [evictOneFlow]
    cases e.victim with
    | none => exact .refl e
    | some v =>
      refine ⟨rfl, rfl, rfl, fun id => ?_⟩
      show (e.flows.erase v.id).find? id = _ ∨ (e.flows.erase v.id).find? id = none
      rw [SortedVec.find?_erase]
      split
      · exact .inr rfl
      · exact .inl rfl

/-- The flow that an observation finds or makes. -/
theorem resolveFlow_some {f : FlowRuntime} (h : e.resolveFlow atTime obs = (e', some f)) :
    e.SameIdentities e' ∧ (e.flows.find? obs.subject.flow = some f ∨
      f.id = obs.subject.flow ∧ f.canonicalKey = obs.subject.flowKey) := by
  unfold resolveFlow at h
  split at h
  · rename_i f' hf
    cases h
    exact ⟨.refl e, .inl hf⟩
  · have hroom := sameIdentities_makeFlowRoom e
    simp only at h
    split at h
    · cases h
      exact ⟨hroom.trans (.of_eq rfl rfl rfl rfl), .inr ⟨rfl, rfl⟩⟩
    · cases h

theorem resolveFlow_none (h : e.resolveFlow atTime obs = (e', none)) : e.SameIdentities e' := by
  unfold resolveFlow at h
  split at h
  · cases h
  · have hroom := sameIdentities_makeFlowRoom e
    simp only at h
    split at h
    · cases h
    · cases h
      exact hroom

theorem applyJournaled_unresolved (h : e.resolve atTime obs = none) :
    e.SameIdentities (e.applyJournaled atTime obs).1 := by
  unfold resolve at h
  unfold applyJournaled
  cases hs : e.resolveSource atTime obs.key.source with
  | error err => exact .of_eq rfl rfl rfl rfl
  | ok e₁ =>
    obtain ⟨-, he₁⟩ := resolveSource_ok hs
    generalize e₁.sources = sources at he₁
    subst he₁
    simp only [hs] at h ⊢
    have hkept : e.SameIdentities { e with sources := sources } := .of_eq rfl rfl rfl rfl
    rcases hr : ({ e with sources := sources } : Engine).resolveFlow atTime obs with ⟨e₂, _ | f⟩
    · exact (hkept.trans (resolveFlow_none hr)).trans (.of_eq rfl rfl rfl rfl)
    · rw [hr] at h
      cases h

/-- What becomes of the identities when the flow `f` of `e` is handed on. -/
structure Handled (e : Engine) (f : FlowRuntime) (s : ObservationSubject) (e' : Engine) : Prop where
  config : e'.config = e.config
  flows : ∃ f', e'.flows = e.flows.set f' ∧ f'.id = f.id ∧ f'.canonicalKey = f.canonicalKey
  registries : e'.registries = f.registers e.config.limits s e.registries
  collisions : e'.counters.identityCollisions = e.counters.identityCollisions
    + if f.collides e.config.limits s e.registries then 1 else 0

theorem applyJournaled_resolved {f : FlowRuntime} (h : e.resolve atTime obs = some (e', f)) :
    e.SameIdentities e' ∧ (e.flows.find? obs.subject.flow = some f ∨
        f.id = obs.subject.flow ∧ f.canonicalKey = obs.subject.flowKey) ∧
      Handled e' f obs.subject (e.applyJournaled atTime obs).1 := by
  unfold resolve at h
  unfold applyJournaled
  cases hs : e.resolveSource atTime obs.key.source with
  | error err =>
    rw [hs] at h
    cases h
  | ok e₁ =>
    obtain ⟨-, he₁⟩ := resolveSource_ok hs
    generalize e₁.sources = sources at he₁
    subst he₁
    simp only [hs] at h ⊢
    have hkept : e.SameIdentities { e with sources := sources } := .of_eq rfl rfl rfl rfl
    rcases hr : ({ e with sources := sources } : Engine).resolveFlow atTime obs with ⟨e₂, _ | f₂⟩
    · rw [hr] at h
      cases h
    · rw [hr] at h
      cases h
      obtain ⟨hroom, hflow⟩ := resolveFlow_some hr
      have hstages : FlowTx.Identified e'.config.limits obs.subject ⟨f, e'.registries, e'.counters⟩
          (Exit.ofExcept (applyToFlow e'.config e'.sources e'.context e'.replaying atTime obs
            ⟨f, e'.registries, e'.counters⟩)).1 := identified_applyToFlow _
      obtain ⟨hid, hkey, hregistries, hcollisions⟩ := hstages
      exact ⟨hkept.trans hroom, hflow, rfl, ⟨_, rfl, hid, hkey⟩, hregistries, hcollisions⟩

/-- **An observation that is not handed to its flow** leaves the identities alone. -/
theorem applyLocked_unhanded (h : e.handed incoming = none) : e.SameIdentities (e.applyLocked incoming).1 := by
  have hreceived : e.SameIdentities e.received := .of_eq rfl rfl rfl rfl
  unfold handed at h
  cases hv : validateObservation e.config.limits incoming with
  | error err =>
    rw [applyLocked_invalid hv]
    exact .of_eq rfl rfl rfl rfl
  | ok _ =>
    by_cases hr : e.replaying = true
    · rw [applyLocked_replaying hv hr]
      refine hreceived.trans (applyJournaled_unresolved ?_)
      simpa [hv, hr, Except.isOk, Except.toBool] using h
    · replace hr : e.replaying = false := Bool.eq_false_iff.2 hr
      have happended := hreceived.trans (sameIdentities_appendObservation e.received (prepare e.instant incoming))
      cases hj : (e.received.appendObservation (prepare e.instant incoming)).2 with
      | error err =>
        rw [applyLocked_unjournaled hv hr hj]
        exact happended.trans (.of_eq rfl rfl rfl rfl)
      | ok _ =>
        rw [applyLocked_journaled hv hr hj]
        refine happended.trans (applyJournaled_unresolved ?_)
        simpa [hv, hr, hj, Except.isOk, Except.toBool] using h

/-- **What an observation that is handed to its flow** does to the identities. -/
theorem applyLocked_handed {f : FlowRuntime} (h : e.handed incoming = some (e', f)) :
    validateObservation e.config.limits incoming = .ok () ∧ e.SameIdentities e' ∧
      (e.flows.find? (prepare e.instant incoming).subject.flow = some f ∨
        f.id = (prepare e.instant incoming).subject.flow ∧ f.canonicalKey = incoming.subject.flowKey) ∧
      Handled e' f (prepare e.instant incoming).subject (e.applyLocked incoming).1 := by
  have hreceived : e.SameIdentities e.received := .of_eq rfl rfl rfl rfl
  unfold handed at h
  cases hv : validateObservation e.config.limits incoming with
  | error err => simp [hv, Except.isOk, Except.toBool] at h
  | ok _ =>
    by_cases hr : e.replaying = true
    · rw [applyLocked_replaying hv hr]
      have hresolved : e.received.resolve e.instant (prepare e.instant incoming) = some (e', f) := by
        simpa [hv, hr, Except.isOk, Except.toBool] using h
      obtain ⟨hsame, hflow, hhandled⟩ := applyJournaled_resolved hresolved
      exact ⟨rfl, hreceived.trans hsame, hflow, hhandled⟩
    · replace hr : e.replaying = false := Bool.eq_false_iff.2 hr
      have happended := hreceived.trans (sameIdentities_appendObservation e.received (prepare e.instant incoming))
      cases hj : (e.received.appendObservation (prepare e.instant incoming)).2 with
      | error err => simp [hv, hr, hj, Except.isOk, Except.toBool] at h
      | ok _ =>
        rw [applyLocked_journaled hv hr hj]
        have hresolved : (e.received.appendObservation (prepare e.instant incoming)).1.resolve e.instant
            (prepare e.instant incoming) = some (e', f) := by
          simpa [hv, hr, hj, Except.isOk, Except.toBool] using h
        obtain ⟨hsame, hflow, hhandled⟩ := applyJournaled_resolved hresolved
        refine ⟨rfl, happended.trans hsame, ?_, hhandled⟩
        have htables := (sameTables_appendObservation e.received (prepare e.instant incoming)).flows_eq
        rw [show e.flows = e.received.flows from rfl, ← htables]
        exact hflow

end Apply

/-! ## What the engine keeps -/

/-- The engine keeps the key next to the identity. -/
def Stores (e : Engine) : (d : IdDomain) → OpaqueId d → Str → Prop
  | .flow, id, key => ∃ f, e.flows.find? id = some f ∧ f.canonicalKey = key
  | .endpoint, id, key => (id, key) ∈ e.registries.endpoints.toList
  | .path, id, key => (id, key) ∈ e.registries.paths.toList
  | .queue, id, key => (id, key) ∈ e.registries.queues.toList
  | .link, id, key => (id, key) ∈ e.registries.links.toList
  | .source, _, _ => False

/-- The observation is refused for an identity collision, which is counted. -/
def Collides (e : Engine) (incoming : Observation) : Prop :=
  (e.applyLocked incoming).1.counters.identityCollisions ≠ e.counters.identityCollisions

/-- The identities of the observation are registered as far as that of its peer endpoint: its flow has its key, the
registry takes its endpoint, and it knows the peer endpoint or has room for it. -/
def registersPeer (e : Engine) (incoming : Observation) : Bool :=
  match e.handed incoming with
  | none => false
  | some (_, flow) =>
    let s := incoming.subject
    let first := registerOne e.config.limits e.registries.endpoints s.endpoint s.endpointKey
    flow.canonicalKey == s.flowKey && first.2.isNone
      && ((first.1.find? s.peerEndpoint).isSome || first.1.toList.length < e.config.limits.maxFlows.toNat)

/-- The peer endpoint of the observation is the one of its key, or is not registered. -/
def PeerAgrees (e : Engine) (incoming : Observation) : Prop :=
  e.registersPeer incoming = true → identityAgrees incoming.subject.peerEndpoint incoming.subject.peerEndpointKey = true

/-- What the observation presents was presented. -/
def PresentsOnly (e : Engine) (presented : ∀ d, OpaqueId d → Str → Prop) (incoming : Observation) : Prop :=
  ∀ d id key, (prepare e.instant incoming).subject.Presents d id key → presented d id key

/-- The key hashes to the identity, and was presented for it. -/
def Genuine (presented : ∀ d, OpaqueId d → Str → Prop) (d : IdDomain) (id : OpaqueId d) (key : Str) : Prop :=
  keyMatches id key = true ∧ presented d id key

/-- Every key that the engine keeps is genuine. -/
structure KeepsGenuine (presented : ∀ d, OpaqueId d → Str → Prop) (e : Engine) : Prop where
  flows : e.EachFlow (fun f => Genuine presented .flow f.id f.canonicalKey)
  registries : e.registries.All (Genuine presented)

section Genuine

variable {presented presented' : ∀ d, OpaqueId d → Str → Prop} {e e' : Engine} {incoming : Observation}

theorem KeepsGenuine.stores (h : e.KeepsGenuine presented) {d : IdDomain} {id : OpaqueId d} {key : Str}
    (hs : e.Stores d id key) : Genuine presented d id key := by
  cases d with
  | flow =>
    obtain ⟨f, hf, rfl⟩ := hs
    rw [← SortedVec.find?_key hf]
    exact h.flows id f hf
  | endpoint => exact h.registries.endpoints _ hs
  | path => exact h.registries.paths _ hs
  | link => exact h.registries.links _ hs
  | queue => exact h.registries.queues _ hs
  | source => exact hs.elim

theorem KeepsGenuine.mono (h : e.KeepsGenuine presented) (hp : ∀ d id key, presented d id key → presented' d id key) :
    e.KeepsGenuine presented' where
  flows id f hf := ⟨(h.flows id f hf).1, hp _ _ _ (h.flows id f hf).2⟩
  registries := by
    obtain ⟨hendpoints, hpaths, hlinks, hqueues⟩ := h.registries
    exact ⟨fun p hm => ⟨(hendpoints p hm).1, hp _ _ _ (hendpoints p hm).2⟩,
      fun p hm => ⟨(hpaths p hm).1, hp _ _ _ (hpaths p hm).2⟩,
      fun p hm => ⟨(hlinks p hm).1, hp _ _ _ (hlinks p hm).2⟩,
      fun p hm => ⟨(hqueues p hm).1, hp _ _ _ (hqueues p hm).2⟩⟩

theorem KeepsGenuine.of_same (h : e.KeepsGenuine presented) (hs : e.SameIdentities e') : e'.KeepsGenuine presented where
  flows := h.flows.of_find? hs.flows
  registries := hs.registries ▸ h.registries

/-- A pair that an observation presents and that hashes is genuine. -/
theorem genuine_of_presents {d : IdDomain} {id : OpaqueId d} {key : Str} (hid : id.valid = true) (hkey : key ≠ [])
    (hgives : (prepare e.instant incoming).subject.Gives d id key) (hpresents : e.PresentsOnly presented incoming)
    (hagrees : identityAgrees id key = true) : Genuine presented d id key := by
  refine ⟨?_, hpresents d id key ⟨hid, hkey, hgives⟩⟩
  simpa [identityAgrees, hid, hkey] using hagrees

/-- **The pairs of a valid observation whose peer endpoint agrees are genuine.** -/
theorem vouched_of_validated (hv : validateObservation e.config.limits incoming = .ok ())
    (hpresents : e.PresentsOnly presented incoming) {f : FlowRuntime} (hh : e.handed incoming = some (e', f))
    (hkey : f.canonicalKey = incoming.subject.flowKey) (hpeer : e.PeerAgrees incoming) :
    (prepare e.instant incoming).subject.Vouched e.config.limits e.registries (Genuine presented) := by
  simp only [validateObservation, require_bind_ok] at hv
  obtain ⟨-, -, -, -, -, -, -, hendpoint, hpath, hqueue, hlink, -⟩ := hv
  have hoption : ∀ {d : IdDomain} (o : Option (OpaqueId d)) (key : Str), (o.getD default).valid = true →
      o.all (fun id => key.isEmpty || keyMatches id key) = true → identityAgrees (o.getD default) key = true := by
    intro d o key hid ho
    cases o with
    | none => cases hid
    | some id =>
      simp only [Option.all_some, Option.getD_some, identityAgrees, Bool.or_eq_true] at ho ⊢
      rcases ho with ho | ho
      · exact .inl (.inr ho)
      · exact .inr ho
  refine ⟨fun hid hk => genuine_of_presents hid hk (.inl ⟨rfl, rfl⟩) hpresents hendpoint, ?_, ?_, ?_, ?_⟩
  · intro endpoints hfirst hroom hid hk
    refine genuine_of_presents hid hk (.inr ⟨rfl, rfl⟩) hpresents (hpeer ?_)
    have hfirst' : registerOne e.config.limits e.registries.endpoints incoming.subject.endpoint
        incoming.subject.endpointKey = (endpoints, none) := hfirst
    simp only [registersPeer, hh, hfirst', hkey, beq_self_eq_true, Option.isNone_none, Bool.true_and, Bool.or_eq_true,
      decide_eq_true_eq]
    exact hroom
  · exact fun hid hk => genuine_of_presents hid hk ⟨rfl, rfl⟩ hpresents (hoption _ _ hid hpath)
  · exact fun hid hk => genuine_of_presents hid hk ⟨rfl, rfl⟩ hpresents (hoption _ _ hid hqueue)
  · exact fun hid hk => genuine_of_presents hid hk ⟨rfl, rfl⟩ hpresents (hoption _ _ hid hlink)

/-- The flow of a valid observation has the identity of its key. -/
theorem genuine_flow (hv : validateObservation e.config.limits incoming = .ok ())
    (hpresents : e.PresentsOnly presented incoming) :
    Genuine presented .flow (prepare e.instant incoming).subject.flow incoming.subject.flowKey := by
  simp only [validateObservation, require_bind_ok] at hv
  obtain ⟨-, -, -, -, hgiven, -, hflow, -⟩ := hv
  have hmatches : keyMatches (prepare e.instant incoming).subject.flow incoming.subject.flowKey = true := by
    simp only [prepare]
    split
    · rename_i hvalid
      simpa [hvalid] using hflow
    · have hvalid : (flowIdFromKey incoming.subject.flowKey).valid = true := makeId_valid _ _
      simp only [keyMatches, hvalid, Bool.true_and, Bool.and_eq_true]
      exact ⟨hgiven, beq_self_eq_true _⟩
  have hvalid : (prepare e.instant incoming).subject.flow.valid = true := by
    simp only [keyMatches, Bool.and_eq_true] at hmatches
    exact hmatches.1.1
  exact ⟨hmatches, hpresents .flow _ _ ⟨hvalid, by simpa using hgiven, rfl, rfl⟩⟩

/-- The step lemma: **an observation whose peer endpoint agrees leaves only genuine keys.** -/
theorem KeepsGenuine.apply (h : e.KeepsGenuine presented) (hpeer : e.PeerAgrees incoming)
    (hpresents : e.PresentsOnly presented incoming) : (e.applyLocked incoming).1.KeepsGenuine presented := by
  cases hh : e.handed incoming with
  | none => exact h.of_same (applyLocked_unhanded hh)
  | some handed =>
    obtain ⟨e₂, f⟩ := handed
    obtain ⟨hv, hsame, hflow, hhandled⟩ := applyLocked_handed hh
    have h₂ := h.of_same hsame
    have hf : Genuine presented .flow f.id f.canonicalKey := by
      rcases hflow with hflow | ⟨hid, hkey⟩
      · exact h.flows _ f hflow
      · rw [hid, hkey]
        exact genuine_flow hv hpresents
    obtain ⟨f', hflows, hid, hkey⟩ := hhandled.flows
    constructor
    · refine h₂.flows.set hflows ?_
      rw [hid, hkey]
      exact hf
    · rw [hhandled.registries, FlowRuntime.registers, hsame.config, hsame.registries]
      split
      · rename_i hk
        exact (vouched_of_validated hv hpresents hh hk hpeer).register h.registries
      · exact h.registries

/-- **A collision is one of two different keys that hash to the identity**: the one that the observation presents, and
one that it presents too or that was presented. -/
theorem KeepsGenuine.collision (h : e.KeepsGenuine presented) (hpeer : e.PeerAgrees incoming)
    (hc : e.Collides incoming) :
    ∃ d id key key', key ≠ key' ∧ keyMatches id key = true ∧ keyMatches id key' = true ∧
      (presented d id key ∨ (prepare e.instant incoming).subject.Presents d id key) ∧
      (prepare e.instant incoming).subject.Presents d id key' := by
  have hwide : e.KeepsGenuine (fun d id key => presented d id key ∨
    (prepare e.instant incoming).subject.Presents d id key) := h.mono (fun _ _ _ hp => .inl hp)
  have hpresents : e.PresentsOnly (fun d id key => presented d id key ∨
    (prepare e.instant incoming).subject.Presents d id key) incoming := fun _ _ _ hp => .inr hp
  unfold Collides at hc
  cases hh : e.handed incoming with
  | none => exact absurd (applyLocked_unhanded hh).collisions hc
  | some handed =>
    obtain ⟨e₂, f⟩ := handed
    obtain ⟨hv, hsame, hflow, hhandled⟩ := applyLocked_handed hh
    have hcollides : f.collides e.config.limits (prepare e.instant incoming).subject e.registries = true := by
      rw [← hsame.config, ← hsame.registries]
      by_contra hn
      rw [hhandled.collisions, if_neg hn, hsame.collisions] at hc
      exact hc (UInt64.add_zero _)
    by_cases hkey : f.canonicalKey = incoming.subject.flowKey
    · have hregistered : (registerIdentity e.config.limits (prepare e.instant incoming).subject e.registries).2.any
          (·.1 == .IdentityCollision) = true := by
        have hsubject : (f.canonicalKey != (prepare e.instant incoming).subject.flowKey) = false := by
          simpa [prepare] using hkey
        rwa [FlowRuntime.collides, hsubject, Bool.false_or] at hcollides
      obtain ⟨⟨kind, err⟩, hrefused, hkind⟩ := (Option.any_eq_true _ _).1 hregistered
      obtain rfl : kind = .IdentityCollision := by simpa using hkind
      obtain ⟨d, id, key, key', hne, hgenuine, hgenuine', hp⟩ :=
        (vouched_of_validated hv hpresents hh hkey hpeer).collision hwide.registries hrefused
      exact ⟨d, id, key, key', hne, hgenuine.1, hgenuine'.1, hgenuine.2, hp⟩
    · have hnew := genuine_flow hv hpresents
      rcases hflow with hflow | ⟨-, hsame⟩
      · have hold : Genuine _ .flow f.id f.canonicalKey := hwide.flows _ f hflow
        rw [SortedVec.find?_key hflow] at hold
        refine ⟨.flow, _, f.canonicalKey, incoming.subject.flowKey, hkey, hold.1, hnew.1, hold.2, ?_⟩
        have hmatches := hnew.1
        simp only [keyMatches, Bool.and_eq_true, Bool.not_eq_true', List.isEmpty_eq_false_iff] at hmatches
        exact ⟨hmatches.1.1, hmatches.1.2, rfl, rfl⟩
      · exact absurd hsame hkey

end Genuine

/-! ## What is rebuilt from a file -/

/-- The flow record is not refused: it records a generation, or declares none as current. -/
def accepts (limits : Limits) (p : PersistedFlow) : Bool :=
  !((restoreFlow limits default p).generations.toList.isEmpty && p.currentGeneration.valid)

/-- The flow record is rebuilt: it comes before any record that is refused, and first among those of its flow. -/
def Rebuilds (limits : Limits) (ps : List PersistedFlow) (p : PersistedFlow) : Prop :=
  (ps.takeWhile (accepts limits)).find? (fun q => q.id == p.id) = some p

section Rebuilt

variable {presented : ∀ d, OpaqueId d → Str → Prop} {e : Engine}

/-- Rebuilding flows adds those of the records that are rebuilt and are not there yet. -/
theorem eachFlow_restoreFlows {Q : FlowRuntime → Prop} (previous : RuntimeEpoch) (ps : List PersistedFlow)
    (h : e.EachFlow Q)
    (hps : ∀ p, Rebuilds e.config.limits ps p → e.flows.find? p.id = none →
      Q (restoreFlow e.config.limits previous p)) :
    (e.restoreFlows previous ps).1.EachFlow Q := by
  induction ps generalizing e with
  | nil => exact h
  | cons p ps ih =>
    simp only [restoreFlows]
    by_cases hrefused : ((restoreFlow e.config.limits previous p).generations.toList.isEmpty
        && p.currentGeneration.valid) = true
    · rw [if_pos hrefused]
      exact h
    · rw [if_neg hrefused]
      have haccepted : accepts e.config.limits p = true := by
        rw [accepts, Bool.not_eq_eq_eq_not, Bool.not_true]
        exact Bool.eq_false_iff.2 hrefused
      have htaken : ∀ q, (p.id == q.id) = false → Rebuilds e.config.limits ps q →
          Rebuilds e.config.limits (p :: ps) q := by
        intro q hne hq
        unfold Rebuilds at hq ⊢
        rw [List.takeWhile_cons_of_pos haccepted, List.find?_cons_of_neg (by simp [hne])]
        exact hq
      have hfirst : Rebuilds e.config.limits (p :: ps) p := by
        unfold Rebuilds
        rw [List.takeWhile_cons_of_pos haccepted]
        exact List.find?_cons_of_pos (beq_self_eq_true p.id)
      by_cases hknown : (e.flows.find? p.id).isSome = true
      · refine ih ?_ (fun q hq hnone => ?_)
        · refine h.of_find? (fun id => .inl ?_)
          simp only [if_pos (show (e.flows.find? (restoreFlow e.config.limits previous p).id).isSome =
            true from hknown)]
        · have hnone' : e.flows.find? q.id = none := by
            simpa only [if_pos (show (e.flows.find? (restoreFlow e.config.limits previous p).id).isSome =
              true from hknown)]
              using hnone
          refine hps q (htaken q ?_ hq) hnone'
          by_contra hsame
          rw [Bool.not_eq_false, beq_iff_eq] at hsame
          rw [hsame, hnone'] at hknown
          cases hknown
      · have hp : e.flows.find? p.id = none := by simpa using hknown
        have hnew : ¬ (e.flows.find? (restoreFlow e.config.limits previous p).id).isSome = true := hknown
        refine ih ?_ (fun q hq hnone => ?_)
        · simp only [if_neg hnew]
          exact h.set rfl (hps p hfirst hp)
        · simp only [if_neg hnew, SortedVec.find?_set] at hnone
          split at hnone
          · cases hnone
          · rename_i hne
            exact hps q (htaken q (by simpa [restoreFlow] using hne) hq) hnone

/-- Rebuilding flows leaves the registries alone. -/
theorem restoreFlows_registries (previous : RuntimeEpoch) (ps : List PersistedFlow) (e : Engine) :
    (e.restoreFlows previous ps).1.registries = e.registries := by
  induction ps generalizing e with
  | nil => rfl
  | cons p ps ih =>
    simp only [restoreFlows]
    split
    · rfl
    · exact ih _

/-- Every flow record of what is read that is rebuilt has a genuine key. -/
def ReadsGenuine (presented : ∀ d, OpaqueId d → Str → Prop) (e : Engine) (result : ReplayResult) : Prop :=
  ∀ p, Rebuilds e.config.limits result.state.flows p → Genuine presented .flow p.id p.canonicalKey

theorem KeepsGenuine.rebuilt (h : e.KeepsGenuine presented) {result : ReplayResult}
    (hread : e.ReadsGenuine presented result) (previous : RuntimeEpoch) :
    (e.rebuiltFrom previous result).KeepsGenuine presented := by
  constructor
  · exact eachFlow_restoreFlows previous result.state.flows (h.flows.of_find? (fun _ => .inl rfl))
      (fun p hp _ => hread p hp)
  · unfold rebuiltFrom
    rw [restoreFlows_registries]
    exact h.registries

end Rebuilt

/-! ## Runs -/

/-- **Every key that is kept hashes to its identity, and only genuine collisions are refused**, in the states of an
engine that is given no peer endpoint under a foreign key and reads no flow under one. -/
theorem identities_sound (presented : ∀ d, OpaqueId d → Str → Prop) {e : Engine}
    (h : e.ReachedFrom (fun e obs => e.PeerAgrees obs ∧ e.PresentsOnly presented obs) (ReadsGenuine presented)) :
    (∀ d id key, e.Stores d id key → keyMatches id key = true ∧ presented d id key) ∧
      ∀ incoming, e.PeerAgrees incoming → e.Collides incoming →
        ∃ d id key key', key ≠ key' ∧ keyMatches id key = true ∧ keyMatches id key' = true ∧
          (presented d id key ∨ (prepare e.instant incoming).subject.Presents d id key) ∧
          (prepare e.instant incoming).subject.Presents d id key' := by
  have hempty : Registries.All (Genuine presented) {} := by
    refine ⟨?_, ?_, ?_, ?_⟩ <;> exact fun p hp => (by cases hp)
  have hkeeps : e.KeepsGenuine presented := by
    refine reachedFrom_rule (P := KeepsGenuine presented) (fun e _ hf _ hr => ⟨fun id f hf' => ?_, ?_⟩)
      (fun e e' ha h => ?_)
      (fun e obs h hcond => h.apply hcond.1 hcond.2) (fun e atTime due h => ⟨?_, h.registries⟩)
      (fun e s id hs h => ⟨fun flow f hf => ?_, h.registries⟩) (fun e d s _ h => ⟨h.flows, h.registries⟩)
      (fun e d s _ h => ⟨h.flows, h.registries⟩) (fun e h => ⟨fun id f hf => (by cases hf), hempty⟩)
      (fun e e' previous result hread hc _ _ _ h => ?_) h
    · rw [hf] at hf'
      cases hf'
    · rw [hr]
      exact hempty
    · exact ⟨h.flows.of_find? (fun id => .inl (by rw [ha.flows])), ha.registries ▸ h.registries⟩
    · refine eachFlow_recomputeAll h.flows due (fun sources ctx f hf => ?_)
      rwa [recomputeFlow_id, recomputeFlow_canonicalKey]
    · rw [find?_dropped] at hf
      obtain ⟨f₀, hf₀, rfl⟩ := Option.map_eq_some_iff.1 hf
      exact h.flows flow f₀ hf₀
    · refine h.rebuilt (fun p hp => hread p ?_) previous
      rwa [hc] at hp
  exact ⟨fun d id key hs => hkeeps.stores hs, fun incoming hpeer hc => hkeeps.collision hpeer hc⟩

/-- A sample of the flow between `a` and `b`, which gives the key for `b`. -/
def betweenSample (revision : UInt64) (peerKey : Str) : Observation :=
  let o := sampleObservation ⟨1⟩ .Sample revision ⟨1000⟩
  { o with subject := { o.subject with
      endpoint := makeId .endpoint (str "a"), endpointKey := str "a"
      peerEndpoint := makeId .endpoint (str "b"), peerEndpointKey := peerKey } }

/-- An engine that was given the sample. -/
def between (peerKey : Str) : Engine :=
  ({ config := {}, clock := ⟨1000⟩ } : Engine).openEngine.1.step (.ingest (betweenSample 1 peerKey))

instance (e : Engine) (incoming : Observation) : Decidable (e.PeerAgrees incoming) :=
  inferInstanceAs (Decidable (_ → _))

theorem identities_sound_between : (between (str "b")).Stores .endpoint (makeId .endpoint (str "b")) (str "b") ∧
    keyMatches (makeId .endpoint (str "b")) (str "b") = true ∧
    (prepare ⟨1000⟩ (betweenSample 1 (str "b"))).subject.Presents .endpoint (makeId .endpoint (str "b")) (str "b") := by
  have hstored : (between (str "b")).Stores .endpoint (makeId .endpoint (str "b")) (str "b") := by
    show (_, _) ∈ _
    with_unfolding_all decide
  refine ⟨hstored, (identities_sound (prepare ⟨1000⟩ (betweenSample 1 (str "b"))).subject.Presents
    (.step (.opened {} ⟨1000⟩ none
    (by decide) (fun p hp => by cases hp) (fun r hr => by cases hr)) _ (fun p hp => ?_))).1 _ _ _ hstored⟩
  obtain rfl := eq_of_mem_applications hp
  exact ⟨by with_unfolding_all decide, fun d id key h => h⟩

/-- **A peer endpoint under a foreign key is registered**, and the honest observation after it is refused as a
collision. -/
theorem foreign_peer_registered :
    (¬ ∀ e : Engine, e.Reachable → ∀ d id key, e.Stores d id key → keyMatches id key = true) ∧
      ∃ e : Engine, e.Reachable ∧ ∃ honest : Observation, e.Collides honest ∧ e.PeerAgrees honest ∧
        (e.applyLocked honest).2.disposition = .Refused ∧ (e.applyLocked honest).2.code = .EvidenceConflict := by
  have hreached : (between (str "x")).Reachable :=
    .step (.opened {} ⟨1000⟩ (opens_new_iff.2 (EngineConfig.validate_default _))) _
  refine ⟨fun h => ?_, between (str "x"), hreached, betweenSample 2 (str "b"),
    ?_, by with_unfolding_all decide, by with_unfolding_all decide,
    by with_unfolding_all decide⟩
  · have hstored : (between (str "x")).Stores .endpoint (makeId .endpoint (str "b")) (str "x") := by
      show (_, _) ∈ _
      with_unfolding_all decide
    have hmatches := h _ hreached _ _ _ hstored
    revert hmatches
    with_unfolding_all decide
  · unfold Collides
    with_unfolding_all decide

end Engine

end FlowObs
