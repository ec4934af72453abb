import FlowObs.Persist.StateCodec

/-!
# Snapshots in a log

A snapshot group is read back as it was written (`snapshot_round_trips`). In a log it takes the place of everything
before it: the replay of what follows goes on from the state of the snapshot, with no observations pending
(`replay_group`), and depends on nothing else that was replayed before (`Alike.foldlM`). So a log can be cut off
before a snapshot (`snapshot_supersedes`).
-/

namespace FlowObs

/-! ## Round trip -/

/-- **A snapshot is read back as it was written**, when it is within the bounds that the reader checks. -/
theorem snapshot_round_trips {limits : Limits} {recovery : RecoveryPolicy} {s : PersistedState} {out : List Record}
    (h : encodeState s limits = .ok out) (hs : s.Decodable limits recovery) : decodeState out limits recovery = .ok s :=
  (decodeState_encodeState_iff h).2 hs

/-- A snapshot of one source and one flow, with what they carry. -/
def sampleState : PersistedState where
  policyDigest := 7
  snapshotSequence := 3
  sources := [{ id := ⟨1⟩, canonicalKey := str "a" }]
  flows := [{ id := ⟨2⟩, canonicalKey := str "f", generations :=
    [{ generation := ⟨1⟩, sources := [{ source := ⟨1⟩ }] }] }]

theorem sampleState_written : ∃ out, encodeState sampleState {} = .ok out := by
  have hok : (encodeState sampleState {}).isOk = true := by decide +kernel
  cases hout : encodeState sampleState {} with
  | error err =>
    rw [hout] at hok
    cases hok
  | ok out => exact ⟨out, rfl⟩

theorem snapshot_round_trips_sample :
    ∃ out, encodeState sampleState {} = .ok out ∧ decodeState out {} {} = .ok sampleState := by
  obtain ⟨out, hout⟩ := sampleState_written
  exact ⟨out, hout, snapshot_round_trips hout (by with_unfolding_all decide)⟩

/-! ## Groups -/

/-- A complete snapshot group: from a begin record to the first end record after it. -/
structure SnapshotGroup where
  first : Record
  members : List Record
  last : Record
  begins : first.kind = .SnapshotBegin
  plain : ∀ r ∈ members, r.kind ≠ .SnapshotBegin ∧ r.kind ≠ .SnapshotEnd
  ends : last.kind = .SnapshotEnd

/-- The records of a group. -/
def SnapshotGroup.records (g : SnapshotGroup) : List Record := g.first :: g.members ++ [g.last]

/-- **What `encode_state` writes is a complete group.** -/
theorem encodeState_group {limits : Limits} {s : PersistedState} {out : List Record}
    (h : encodeState s limits = .ok out) :
    ∃ g : SnapshotGroup, g.records = out := by
  obtain ⟨-, -, -, -, rfl⟩ := encodeState_ok.1 h
  refine ⟨⟨⟨.SnapshotBegin, putStateHead s⟩, ⟨.LimitsRecord, Binary.blob limits.describe⟩
    :: s.sources.map (fun d => ⟨.SourceDescriptor, writeSourceDescriptor d⟩)
      ++ s.flows.map (fun f => ⟨.Flow, writePersistedFlow f⟩), ⟨.SnapshotEnd, _⟩, rfl, fun r hr => ?_, rfl⟩, rfl⟩
  rcases List.mem_append.1 hr with hr | hr
  · rcases List.mem_cons.1 hr with rfl | hr
    · exact ⟨nofun, nofun⟩
    · obtain ⟨d, -, rfl⟩ := List.mem_map.1 hr
      exact ⟨nofun, nofun⟩
  · obtain ⟨f, -, rfl⟩ := List.mem_map.1 hr
    exact ⟨nofun, nofun⟩

section Replay

variable {limits : Limits} {recovery : RecoveryPolicy}

/-- The members of an open group are collected. -/
theorem foldlM_members (first : Record) (result : ReplayResult) (seen members : List Record)
    (h : ∀ r ∈ members, r.kind ≠ .SnapshotBegin ∧ r.kind ≠ .SnapshotEnd) :
    members.foldlM (replayStep limits recovery) { result := result, group := some (first, seen) }
      = .ok { result := result, group := some (first, seen ++ members) } := by
  induction members generalizing seen with
  | nil => simp
  | cons r members ih =>
    obtain ⟨hbegin, hend⟩ := h r List.mem_cons_self
    have hstep : replayStep limits recovery { result := result, group := some (first, seen) } r
        = .ok { result := result, group := some (first, seen ++ [r]) } := by
      unfold replayStep
      cases hk : r.kind <;> simp_all
    rw [List.foldlM_cons, hstep, ok_bind, ih _ fun r' hr' => h r' (List.mem_cons_of_mem _ hr'), List.append_assoc]
    rfl

/-- **What the replay of a group does**: outside a group, it puts the state of the snapshot in the place of what was
replayed, and drops the observations. -/
theorem replay_group (g : SnapshotGroup) (s : ReplayState) : g.records.foldlM (replayStep limits recovery) s =
    match s.group with
    | some _ => .error ⟨.FormatMismatch, str "snapshot group contains a nested SnapshotBegin"⟩
    | none => (decodeState g.records limits recovery).map fun state => { result := { s.result with
        state := state, observations := [], sawSnapshot := true, snapshots := s.result.snapshots + 1 } } := by
  obtain ⟨result, group⟩ := s
  unfold SnapshotGroup.records
  rw [List.cons_append, List.foldlM_cons]
  cases group with
  | some open_ =>
    have hstep : replayStep limits recovery { result := result, group := some open_ } g.first
        = .error ⟨.FormatMismatch, str "snapshot group contains a nested SnapshotBegin"⟩ := by
      simp only [replayStep, g.begins]
    rw [hstep]
    rfl
  | none =>
    have hstep : replayStep limits recovery { result := result } g.first
        = .ok { result := result, group := some (g.first, []) } := by
      simp only [replayStep, g.begins, if_true]
    have hlast : replayStep limits recovery { result := result, group := some (g.first, [] ++ g.members) } g.last
        = (decodeState (g.first :: (g.members ++ [g.last])) limits recovery).map fun state => { result := { result with
            state := state, observations := [], sawSnapshot := true, snapshots := result.snapshots + 1 } } := by
      simp only [replayStep, g.ends, List.nil_append, List.cons_append]
      cases decodeState (g.first :: (g.members ++ [g.last])) limits recovery <;> rfl
    rw [hstep, ok_bind, List.foldlM_append, foldlM_members g.first result [] g.members g.plain, ok_bind,
      List.foldlM_cons, hlast]
    cases decodeState (g.first :: (g.members ++ [g.last])) limits recovery <;> rfl

/-! ## What a replay depends on -/

/-- The two replays have the same state and the same observations, and are in the same group. They may have met
different numbers of records. -/
structure ReplayState.Alike (s t : ReplayState) : Prop where
  state : t.result.state = s.result.state
  observations : t.result.observations = s.result.observations
  group : t.group = s.group

theorem replayBare_alike {result result' t : ReplayResult} {r : Record} (hstate : t.state = result.state)
    (hobs : t.observations = result.observations) (h : replayBare limits result r = .ok result') :
    ∃ t', replayBare limits t r = .ok t' ∧ t'.state = result'.state ∧ t'.observations = result'.observations := by
  unfold replayBare at h ⊢
  cases hk : r.kind with
  | SnapshotBegin | SnapshotEnd => simp [hk] at h
  | LimitsRecord | EngineCounters | Tombstone =>
    simp only [hk] at h
    cases h
    exact ⟨t, rfl, hstate, hobs⟩
  | SourceDescriptor =>
    simp only [hk, bind_ok, pure_eq_ok] at h
    obtain ⟨d, hd, sources, hsources, h⟩ := h
    cases h
    simp only [hd, hstate, hsources, ok_bind, pure_eq_ok, Except.ok.injEq, exists_eq_left']
    exact ⟨trivial, hobs⟩
  | Flow =>
    simp only [hk, bind_ok, pure_eq_ok] at h
    obtain ⟨f, hf, flows, hflows, h⟩ := h
    cases h
    simp only [hf, hstate, hflows, ok_bind, pure_eq_ok, Except.ok.injEq, exists_eq_left']
    exact ⟨trivial, hobs⟩
  | ObservationRecord =>
    simp only [hk, bind_ok, pure_eq_ok] at h
    obtain ⟨o, ho, _, hroom, h⟩ := h
    cases h
    simp only [ho, hobs, hroom, ok_bind, pure_eq_ok, Except.ok.injEq, exists_eq_left']
    exact ⟨hstate, trivial⟩

/-- **One record has the same effect on both.** -/
theorem ReplayState.Alike.step {s s' t : ReplayState} {r : Record} (h : s.Alike t)
    (hs : replayStep limits recovery s r = .ok s') : ∃ t', replayStep limits recovery t r = .ok t' ∧ s'.Alike t' := by
  unfold replayStep at hs ⊢
  rw [h.group]
  cases hg : s.group with
  | some open_ =>
    obtain ⟨first, members⟩ := open_
    cases hk : r.kind with
    | SnapshotBegin => simp [hg, hk] at hs
    | SnapshotEnd =>
      simp only [hg, hk, bind_ok, pure_eq_ok] at hs
      obtain ⟨state, hstate, hs⟩ := hs
      cases hs
      simp only [hstate, ok_bind, pure_eq_ok, Except.ok.injEq, exists_eq_left']
      exact ⟨rfl, rfl, rfl⟩
    | _ =>
      simp only [hg, hk] at hs ⊢
      cases hs
      exact ⟨_, rfl, h.state, h.observations, rfl⟩
  | none =>
    simp only [hg] at hs ⊢
    by_cases hk : r.kind = .SnapshotBegin
    · rw [if_pos hk] at hs ⊢
      cases hs
      exact ⟨_, rfl, h.state, h.observations, rfl⟩
    · rw [if_neg hk, bind_ok] at hs
      obtain ⟨result, hresult, hs⟩ := hs
      cases hs
      obtain ⟨result', hresult', hstate, hobs⟩ := replayBare_alike h.state h.observations hresult
      rw [if_neg hk, hresult']
      exact ⟨_, rfl, hstate, hobs, rfl⟩

/-- The same records have the same effect on both. -/
theorem ReplayState.Alike.foldlM {s s' t : ReplayState} {records : List Record} (h : s.Alike t)
    (hs : records.foldlM (replayStep limits recovery) s = .ok s') :
    ∃ t', records.foldlM (replayStep limits recovery) t = .ok t' ∧ s'.Alike t' := by
  induction records generalizing s t with
  | nil =>
    cases hs
    exact ⟨t, rfl, h⟩
  | cons r records ih =>
    rw [List.foldlM_cons, bind_ok] at hs
    obtain ⟨s₁, hstep, hs⟩ := hs
    obtain ⟨t₁, hstep', h₁⟩ := h.step hstep
    rw [List.foldlM_cons, hstep', ok_bind]
    exact ih h₁ hs

/-- What a replay that succeeds has gone through. -/
theorem replayRecords_ok {records : List Record} {result : ReplayResult} :
    replayRecords records limits recovery = .ok result ↔
      records.foldlM (replayStep limits recovery) {} = .ok { result := result } := by
  unfold replayRecords
  rw [bind_ok]
  constructor
  · rintro ⟨⟨result', group⟩, hrun, h⟩
    cases group with
    | some open_ => cases h
    | none =>
      cases h
      exact hrun
  · exact fun hrun => ⟨_, hrun, rfl⟩

/-- **A snapshot supersedes what precedes it.** If a log with a complete snapshot group is replayed, then so is the
log from the group on, to the same state, which holds the same source descriptors, and to the same observations in the
same order. -/
theorem snapshot_supersedes (xs ys : List Record) (g : SnapshotGroup) {result : ReplayResult}
    (h : replayRecords (xs ++ g.records ++ ys) limits recovery = .ok result) :
    ∃ result', replayRecords (g.records ++ ys) limits recovery = .ok result' ∧ result'.state = result.state ∧
      result'.state.sources = result.state.sources ∧ result'.observations = result.observations := by
  rw [replayRecords_ok, List.foldlM_append, List.foldlM_append, bind_ok] at h
  obtain ⟨s₂, h₂, hys⟩ := h
  obtain ⟨s₁, -, hgroup⟩ := bind_ok.1 h₂
  rw [replay_group] at hgroup
  cases hopen : s₁.group with
  | some open_ =>
    rw [hopen] at hgroup
    cases hgroup
  | none =>
    rw [hopen] at hgroup
    cases hstate : decodeState g.records limits recovery with
    | error err =>
      rw [hstate] at hgroup
      cases hgroup
    | ok state =>
      rw [hstate] at hgroup
      have hs₂ := (Except.ok.inj hgroup).symm
      -- the group on its own leaves the same state, and as few observations
      have hfresh : g.records.foldlM (replayStep limits recovery) {}
          = .ok { result := { state := state, sawSnapshot := true, snapshots := 1 } } := by
        rw [replay_group, hstate]
        rfl
      have hsame : s₂.Alike { result := { state := state, sawSnapshot := true, snapshots := 1 } } := by
        rw [hs₂]
        exact ⟨rfl, rfl, rfl⟩
      obtain ⟨⟨result', group⟩, hrun, halike⟩ := hsame.foldlM hys
      obtain rfl : group = none := halike.group
      refine ⟨result', ?_, halike.state, congrArg PersistedState.sources halike.state, halike.observations⟩
      rw [replayRecords_ok, List.foldlM_append, hfresh, ok_bind, hrun]

end Replay

/-- A snapshot on its own is replayed to the state that it was written from. -/
theorem replayRecords_snapshot {limits : Limits} {recovery : RecoveryPolicy} {s : PersistedState}
    {records : List Record}
    (hw : encodeState s limits = .ok records) (hd : s.Decodable limits recovery) :
    replayRecords records limits recovery = .ok { state := s, sawSnapshot := true, snapshots := 1 } := by
  have hdecode := (decodeState_encodeState_iff hw).2 hd
  obtain ⟨g, rfl⟩ := encodeState_group hw
  rw [replayRecords_ok, replay_group, hdecode]
  rfl

/-- A snapshot behind a record that says nothing. -/
theorem snapshot_supersedes_sample : ∃ records result, encodeState sampleState {} = .ok records ∧
    replayRecords records {} {} = .ok result ∧ result.state = sampleState ∧ result.observations = [] := by
  obtain ⟨records, hw⟩ := sampleState_written
  obtain ⟨g, hg⟩ := encodeState_group hw
  have hreplay := @replayRecords_snapshot {} {} _ _ hw (by with_unfolding_all decide)
  have hlog : replayRecords ([⟨.Tombstone, []⟩] ++ g.records ++ []) {} {}
      = .ok { state := sampleState, sawSnapshot := true, snapshots := 1 } := by
    rw [hg, List.append_nil, replayRecords_ok] at *
    exact hreplay
  obtain ⟨result, hresult, hstate, -, hobs⟩ := snapshot_supersedes [⟨.Tombstone, []⟩] [] g hlog
  rw [List.append_nil, hg] at hresult
  exact ⟨records, result, hw, hresult, hstate, hobs⟩

end FlowObs
