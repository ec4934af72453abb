import FlowObs.Persist.Damage

/-!
# A journal as a log

As long as a journal is not compacted it holds descriptors and observations, in the order in which they were appended
(`LogEntry`). Reading its file gives the log back (`readAll_log`), and replaying it declares the descriptors of the
log in that order when each source has one (`replayRecords_log`) and gives its observations back when they are within
the bounds of the decoder (`replayRecords_observed`).
-/

namespace FlowObs

open Binary

/-! ## Entries -/

/-- What an engine appends to its journal. -/
inductive LogEntry
  | source (d : SourceDescriptor)
  | observation (obs : Observation)
deriving DecidableEq, Repr

namespace LogEntry

/-- The record of an entry. -/
def record : LogEntry → Record
  | source d => ⟨.SourceDescriptor, writeSourceDescriptor d⟩
  | observation obs => ⟨.ObservationRecord, encodeObservation obs⟩

/-- The descriptor of an entry. -/
def source? : LogEntry → Option SourceDescriptor
  | source d => some d
  | observation _ => none

end LogEntry

/-- An observation as a journal gives it back: the canonical key of its source is not journalled. -/
def Observation.bare (o : Observation) : Observation := { o with sourceKey := [] }

/-- The observation of an entry, as the journal gives it back. -/
def LogEntry.observation? : LogEntry → Option Observation
  | .source _ => none
  | .observation obs => some obs.bare

/-- The observations of a log. -/
def observed (log : List LogEntry) : List Observation := log.filterMap LogEntry.observation?

theorem observed_append (log more : List LogEntry) : observed (log ++ more) = observed log ++ observed more :=
  List.filterMap_append

/-- The descriptors of a log. -/
def declared (log : List LogEntry) : List SourceDescriptor := log.filterMap LogEntry.source?

theorem declared_append (log more : List LogEntry) : declared (log ++ more) = declared log ++ declared more :=
  List.filterMap_append

/-- The last descriptor for an identity. -/
def lastFor (ds : List SourceDescriptor) (id : SourceId) : Option SourceDescriptor := ds.reverse.find? (·.id == id)

@[simp] theorem lastFor_nil (id : SourceId) : lastFor [] id = none := rfl

theorem lastFor_concat (ds : List SourceDescriptor) (d : SourceDescriptor) (id : SourceId) :
    lastFor (ds ++ [d]) id = if d.id = id then some d else lastFor ds id := by
  rw [lastFor, List.reverse_append, List.reverse_singleton, List.singleton_append]
  by_cases h : d.id = id
  · rw [if_pos h]
    exact List.find?_cons_of_pos (beq_iff_eq.2 h)
  · rw [if_neg h]
    exact List.find?_cons_of_neg (by simpa using h)

/-- Descriptors that are set one after the other leave the last for each identity. -/
theorem find?_setAll (registeredAt : Timestamp) (ds : List SourceDescriptor) (v : SourceTable) (id : SourceId) :
    (ds.foldl (fun v d => v.set { descriptor := d, registeredAt := registeredAt }) v).find? id
      = ((lastFor ds id).map (fun d => ({ descriptor := d, registeredAt := registeredAt } : SourceState))).or
        (v.find? id) := by
  induction ds using List.reverseRecOn with
  | nil => rfl
  | append_singleton ds d ih =>
    rw [List.foldl_append, List.foldl_cons, List.foldl_nil, lastFor_concat]
    by_cases h : d.id = id
    · subst h
      rw [if_pos rfl]
      exact SortedVec.find?_set_self _ _
    · rw [if_neg h, ← ih]
      exact SortedVec.find?_set_of_ne _ h

/-! ## Reading a log -/

/-- Reading records whose payloads fit their length fields gives them back, if it does not fail. -/
theorem readLoop_log {limits : Limits} {recovery : RecoveryPolicy} (h32 : maxPayload limits < 2 ^ 32) :
    ∀ {records : List Record} {fuel : Nat} {out rs : List Record}, (∀ r ∈ records, r.payload.length < 2 ^ 32) →
      records.length < fuel → (readLoop limits recovery fuel out (records.flatMap encodeRecord)).2 = .ok rs →
      rs = out ++ records
  | _, 0, _, _, _, hfuel, _ => absurd hfuel (Nat.not_lt_zero _)
  | [], fuel + 1, out, rs, _, _, h => by
    simp only [List.flatMap_nil, readLoop, scanRecord, if_true, Except.ok.injEq] at h
    rw [List.append_nil, h]
  | r :: records, fuel + 1, out, rs, hp, hfuel, h => by
    obtain ⟨hr, hrest⟩ := List.forall_mem_cons.1 hp
    rw [List.flatMap_cons, readLoop] at h
    by_cases hbound : r.payload.length ≤ maxPayload limits
    · rw [scanRecord_encode hbound h32] at h
      dsimp only at h
      split at h
      · cases h
      · have hread := readLoop_log h32 hrest (Nat.lt_of_succ_lt_succ hfuel) h
        rw [hread, List.append_assoc, List.singleton_append]
    · obtain ⟨e, left, hscan⟩ := scanRecord_too_large hr (Nat.not_le.1 hbound) (records.flatMap encodeRecord)
      rw [hscan] at h
      cases h

namespace Journal

variable {options : JournalOpenOptions} {j : Journal} {records rs : List Record}

/-- **Reading a file that holds records whose payloads fit their length fields** gives them back, if it does not fail.
-/
theorem readAll_log (h32 : maxPayload j.limits < 2 ^ 32) (ho : j.isOpen = true) (hj : Holds options j records)
    (hp : ∀ r ∈ records, r.payload.length < 2 ^ 32) (h : j.readAll.2 = .ok rs) : rs = records := by
  obtain ⟨head, -, -, hd⟩ := hj.disk
  have hbody : j.file.bytes.drop kHeaderBytes = records.flatMap encodeRecord := by
    rw [hd]
    exact List.drop_left' (length_encodeHeader head)
  simp only [readAll, ho, Bool.not_true, Bool.false_eq_true, if_false, hbody] at h
  split at h
  · cases h
  · exact readLoop_log h32 hp (Nat.lt_succ_of_le (length_le_encodeRecords records)) h

end Journal

/-! ## Replaying a log -/

/-- A replay has declared the descriptors, and has met neither a snapshot nor a flow. -/
structure ReplayState.Declares (s : ReplayState) (ds : List SourceDescriptor) : Prop where
  bare : s.group = none
  sources : s.result.state.sources = ds
  flows : s.result.state.flows = []
  live : s.result.sawSnapshot = false

theorem replaceFirst_none {α : Type} {p : α → Bool} (a : α) : ∀ {l : List α}, (∀ b ∈ l, p b = false) →
    replaceFirst p a l = none
  | [], _ => rfl
  | b :: l, h => by
    have ih : replaceFirst p a l = none := replaceFirst_none a (fun c hc => h c (List.mem_cons_of_mem _ hc))
    simp [replaceFirst, h b List.mem_cons_self, ih]

section Replay

variable {limits : Limits} {recovery : RecoveryPolicy} {s s' : ReplayState} {ds : List SourceDescriptor}

/-- **One entry of a log** adds its descriptor, when its source has none yet. -/
theorem replayStep_declares (hk : limits.maxKeyBytes.toNat < 2 ^ 32) (h : s.Declares ds) {entry : LogEntry}
    (hkey : ∀ d, entry.source? = some d → d.canonicalKey.length ≤ limits.maxKeyBytes.toNat ∧ d.id ∉ ds.map (·.id))
    (hstep : replayStep limits recovery s entry.record = .ok s') : s'.Declares (ds ++ entry.source?.toList) := by
  obtain ⟨hbare, hsources, hflows, hlive⟩ := h
  cases entry with
  | source d =>
    obtain ⟨hlength, hnew⟩ := hkey d rfl
    have hread : (readSourceDescriptor limits.maxKeyBytes.toNat).run (writeSourceDescriptor d) = some (d, []) := by
      simpa using readSourceDescriptor_write hlength hk []
    have hfresh : ∀ d' ∈ s.result.state.sources, (d'.id == d.id) = false := by
      intro d' hd'
      rw [hsources] at hd'
      exact beq_eq_false_iff_ne.2 (fun he => hnew (he ▸ List.mem_map_of_mem hd'))
    have hnone := replaceFirst_none d hfresh
    simp only [replayStep, hbare, LogEntry.record, replayBare, payload, exactly_of_run hread, ok_bind, replaceOrAppend,
      hnone, reduceCtorEq, if_false] at hstep
    split at hstep
    · cases hstep
    · cases hstep
      exact ⟨rfl, by rw [← hsources]; rfl, hflows, hlive⟩
  | observation obs =>
    simp only [replayStep, hbare, LogEntry.record, replayBare, bind_ok, pure_eq_ok, reduceCtorEq, if_false] at hstep
    obtain ⟨result, ⟨o, -, _, -, hresult⟩, hs'⟩ := hstep
    cases hresult
    cases hs'
    exact ⟨rfl, by simpa [LogEntry.source?] using hsources, hflows, hlive⟩

theorem foldlM_declares (hk : limits.maxKeyBytes.toNat < 2 ^ 32) {log : List LogEntry} (h : s.Declares ds)
    (hkey : ∀ d ∈ declared log, d.canonicalKey.length ≤ limits.maxKeyBytes.toNat)
    (hnodup : ((ds ++ declared log).map (·.id)).Nodup)
    (hrun : (log.map LogEntry.record).foldlM (replayStep limits recovery) s = .ok s') : s'.Declares
      (ds ++ declared log) := by
  induction log generalizing s ds with
  | nil =>
    cases hrun
    rwa [declared, List.filterMap_nil, List.append_nil]
  | cons entry log ih =>
    rw [List.map_cons, List.foldlM_cons, bind_ok] at hrun
    obtain ⟨s₁, hstep, hrun⟩ := hrun
    have hsplit : declared (entry :: log) = entry.source?.toList ++ declared log := by
      rw [declared, List.filterMap_cons]
      cases entry <;> rfl
    rw [hsplit, ← List.append_assoc] at hnodup ⊢
    have hhead : ∀ d, entry.source? = some d → d.canonicalKey.length ≤ limits.maxKeyBytes.toNat ∧
        d.id ∉ ds.map (·.id) := by
      intro d hd
      refine ⟨hkey d (by rw [hsplit, hd]; exact List.mem_append_left _ List.mem_cons_self), fun hmem => ?_⟩
      rw [hd, List.append_assoc, List.map_append] at hnodup
      exact (List.nodup_append.1 hnodup).2.2 _ hmem _ List.mem_cons_self rfl
    exact ih (replayStep_declares hk h hhead hstep)
      (fun d hd => hkey d (by rw [hsplit]; exact List.mem_append_right _ hd)) hnodup hrun

/-- **What a replay makes of a log** in which no source is declared twice: its descriptors, and no flow. -/
theorem replayRecords_log (hk : limits.maxKeyBytes.toNat < 2 ^ 32) {log : List LogEntry} {result : ReplayResult}
    (hkey : ∀ d ∈ declared log, d.canonicalKey.length ≤ limits.maxKeyBytes.toNat)
    (hnodup : ((declared log).map (·.id)).Nodup)
    (h : replayRecords (log.map LogEntry.record) limits recovery = .ok result) :
    result.state.sources = declared log ∧ result.state.flows = [] ∧ result.sawSnapshot = false := by
  rw [replayRecords, bind_ok] at h
  obtain ⟨s, hrun, h⟩ := h
  have hstart : ReplayState.Declares {} [] := ⟨rfl, rfl, rfl, rfl⟩
  have hdone := foldlM_declares hk hstart hkey hnodup hrun
  rw [hdone.bare] at h
  cases h
  exact ⟨hdone.sources, hdone.flows, hdone.live⟩

/-- **One entry of a log** gives its observation back, when it is within the bounds. -/
theorem replayStep_observed (hk : limits.maxKeyBytes.toNat < 2 ^ 32) (hbare : s.group = none) {entry : LogEntry}
    (hdecodable : ∀ o, entry.observation? = some o → o.Decodable limits)
    (hstep : replayStep limits recovery s entry.record = .ok s') :
    s'.group = none ∧ s'.result.observations = s.result.observations ++ entry.observation?.toList := by
  cases entry with
  | source d =>
    simp only [replayStep, hbare, LogEntry.record, replayBare, bind_ok, pure_eq_ok, reduceCtorEq, if_false] at hstep
    obtain ⟨result, ⟨_, -, _, -, hresult⟩, hs'⟩ := hstep
    cases hresult
    cases hs'
    exact ⟨rfl, (List.append_nil _).symm⟩
  | observation obs =>
    have hread : (decodeObservation limits).run (encodeObservation obs) = some (obs.bare, []) :=
      (decodeObservation_encode_iff hk).2 ((hdecodable obs.bare rfl).of_subject rfl)
    simp only [replayStep, hbare, LogEntry.record, replayBare, payload, exactly_of_run hread, ok_bind, bind_ok,
      pure_eq_ok, reduceCtorEq, if_false] at hstep
    obtain ⟨result, ⟨_, -, hresult⟩, hs'⟩ := hstep
    cases hresult
    cases hs'
    exact ⟨rfl, rfl⟩

theorem foldlM_observed (hk : limits.maxKeyBytes.toNat < 2 ^ 32) {log : List LogEntry} (hbare : s.group = none)
    (hdecodable : ∀ o ∈ observed log, o.Decodable limits)
    (hrun : (log.map LogEntry.record).foldlM (replayStep limits recovery) s = .ok s') :
    s'.result.observations = s.result.observations ++ observed log := by
  induction log generalizing s with
  | nil =>
    cases hrun
    exact (List.append_nil _).symm
  | cons entry log ih =>
    rw [List.map_cons, List.foldlM_cons, bind_ok] at hrun
    obtain ⟨s₁, hstep, hrun⟩ := hrun
    have hsplit : observed (entry :: log) = entry.observation?.toList ++ observed log := by
      rw [observed, List.filterMap_cons]
      cases entry <;> rfl
    rw [hsplit] at hdecodable ⊢
    obtain ⟨hbare₁, hobs₁⟩ := replayStep_observed hk hbare
      (fun o ho => hdecodable o (List.mem_append_left _ (Option.mem_toList.2 ho))) hstep
    rw [ih hbare₁ (fun o ho => hdecodable o (List.mem_append_right _ ho)) hrun, hobs₁, List.append_assoc]

/-- **The observations that a replay makes of a log.** -/
theorem replayRecords_observed (hk : limits.maxKeyBytes.toNat < 2 ^ 32) {log : List LogEntry} {result : ReplayResult}
    (hdecodable : ∀ o ∈ observed log, o.Decodable limits)
    (h : replayRecords (log.map LogEntry.record) limits recovery = .ok result) : result.observations =
    observed log := by
  rw [replayRecords, bind_ok] at h
  obtain ⟨s, hrun, h⟩ := h
  have hdone := foldlM_observed hk rfl hdecodable hrun
  split at h
  · cases h
  · cases h
    exact hdone

end Replay

end FlowObs
