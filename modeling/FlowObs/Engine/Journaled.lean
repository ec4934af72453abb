import FlowObs.Engine.Reachable
import FlowObs.Persist.JournalRun

/-!
# The journal of an engine

The journal of a reachable engine is an open writable handle on a file that holds whole records behind a header of
this build, and the file that it leaves when it is closed holds whole records too (`Reachable.journaled`). Every
operation on the handle keeps that (`held_append`, `held_rewrite`, `held_flush`), reading the file included, which
stops at its end.
-/

namespace FlowObs

namespace Journal

/-! ## The handle -/

/-- An open writable handle of a configuration, on a file of whole records. -/
structure Held (config : EngineConfig) (j : Journal) : Prop where
  isOpen : j.isOpen = true
  recovery : j.recovery = config.recovery
  file : ∃ records, Holds { limits := config.limits } j records

variable {config : EngineConfig} {j : Journal}

/-- Appending one record leaves whole records, whether it succeeds or not. -/
theorem held_append (h : Held config j) (r : Record) : Held config (j.append [r]).1 := by
  obtain ⟨records, hj⟩ := h.file
  cases hr : (j.append [r]).2 with
  | ok _ =>
    obtain ⟨-, k, hk, he⟩ := append_ok hr
    have hkept : k.isOpen = j.isOpen ∧ k.recovery = j.recovery := by
      rw [writeRecords] at hk
      split at hk
      · cases hk
      · cases hk
        exact ⟨rfl, rfl⟩
    refine ⟨?_, ?_, records ++ [r], holds_append hj hr⟩
    · rw [he]
      exact hkept.1.trans h.isOpen
    · rw [he]
      exact hkept.2.trans h.recovery
  | error err =>
    rw [append_error hr]
    exact h

theorem held_rewrite (h : Held config j) (records : List Record) (epoch : RuntimeEpoch) (createdAt : Timestamp) :
    Held config (j.rewrite records epoch createdAt).1 := by
  obtain ⟨old, hj⟩ := h.file
  refine ⟨?_, ?_, records, holds_rewrite hj⟩
  · rw [rewrite, if_neg (by rw [hj.writable]; exact Bool.false_ne_true)]
  · rw [rewrite, if_neg (by rw [hj.writable]; exact Bool.false_ne_true)]
    exact h.recovery

theorem held_flush (h : Held config j) : Held config j.flush.1 := by
  obtain ⟨records, hj⟩ := h.file
  refine ⟨?_, ?_, records, holds_flush hj⟩
  · unfold flush
    split
    · exact h.isOpen
    · split <;> exact h.isOpen
  · unfold flush
    split
    · exact h.recovery
    · split <;> exact h.recovery

/-- A file of whole records behind a header of this build. -/
def OnDisk (bytes : List UInt8) : Prop := ∃ (head : JournalHeader) (records : List Record),
  head.formatVersion = kJournalFormatVersion ∧ head.identityScheme = 1 ∧
    bytes = encodeHeader head ++ records.flatMap encodeRecord

theorem Holds.onDisk {options : JournalOpenOptions} {records : List Record} (h : Holds options j records) :
    OnDisk j.file.bytes := by
  obtain ⟨head, hv, hs, hd⟩ := h.disk
  exact ⟨head, records, hv, hs, hd⟩

/-- Opening no file for writing creates one. -/
theorem holds_open_none {path : Str} {k : Journal}
    (ho : openFile path none { limits := config.limits, recovery := config.recovery } = .ok k) :
    k.isOpen = true ∧ k.recovery = config.recovery ∧ k.limits = config.limits ∧
    Holds { limits := config.limits } k [] := by
  unfold openFile at ho
  rw [bind_ok] at ho
  obtain ⟨_, -, ho⟩ := ho
  cases ho
  have hnew := holds_create path { limits := config.limits, recovery := config.recovery }
  exact ⟨rfl, rfl, rfl, hnew.disk, hnew.version, hnew.scheme, hnew.atEnd, hnew.writable, rfl⟩

/-- Opening a file of whole records for writing. -/
theorem holds_open {path : Str} {k : Journal} {head : JournalHeader} {records : List Record}
    (hv : head.formatVersion = kJournalFormatVersion) (hs : head.identityScheme = 1)
    (ho : openFile path (some (encodeHeader head ++ records.flatMap encodeRecord))
      { limits := config.limits, recovery := config.recovery } = .ok k) :
    k.isOpen = true ∧ k.recovery = config.recovery ∧ k.limits = config.limits ∧
      Holds { limits := config.limits } k records := by
  unfold openFile at ho
  rw [bind_ok] at ho
  obtain ⟨_, -, ho⟩ := ho
  simp only [Bool.false_and, Bool.false_eq_true, if_false] at ho
  rw [attach, decodeHeader_encode _ hv hs, ok_bind] at ho
  cases ho
  exact ⟨rfl, rfl, rfl, ⟨head, hv, hs, rfl⟩, hv, hs, fun _ => rfl, rfl, rfl⟩

/-- **Opening a journal and reading it** gives a handle on whole records, at the end of the file. -/
theorem held_open {path : Str} {existing : Option (List UInt8)} {k : Journal} {epoch : RuntimeEpoch}
    {createdAt : Timestamp}
    {records : List Record} (hd : ∀ bytes, existing = some bytes → OnDisk bytes)
    (ho : openFile path existing { limits := config.limits, recovery := config.recovery } = .ok k)
    (hr : (k.setEpoch epoch createdAt).readAll.2 = .ok records) :
    Held config (k.setEpoch epoch createdAt).readAll.1 := by
  have hk : k.isOpen = true ∧ k.recovery = config.recovery ∧ k.limits = config.limits ∧
      ∃ held, Holds { limits := config.limits } k held := by
    cases existing with
    | none =>
      obtain ⟨ho, hrecovery, hlimits, hheld⟩ := holds_open_none ho
      exact ⟨ho, hrecovery, hlimits, [], hheld⟩
    | some bytes =>
      obtain ⟨head, held, hv, hs, rfl⟩ := hd bytes rfl
      obtain ⟨ho, hrecovery, hlimits, hheld⟩ := holds_open hv hs ho
      exact ⟨ho, hrecovery, hlimits, held, hheld⟩
  obtain ⟨hopen, hrecovery, hlimits, held, hheld⟩ := hk
  have hlong : kHeaderBytes ≤ (k.setEpoch epoch createdAt).file.bytes.length := by
    obtain ⟨head, -, -, hbytes⟩ := hheld.disk
    show kHeaderBytes ≤ k.file.bytes.length
    rw [hbytes, List.length_append, length_encodeHeader]
    exact Nat.le_add_right _ _
  have hset : (k.setEpoch epoch createdAt).isOpen = true := hopen
  rw [readAll_end hset hlong hr]
  exact ⟨hopen, hrecovery, held, hheld.disk, hheld.version, hheld.scheme, fun _ => rfl, hheld.writable, hheld.bounds⟩

end Journal

namespace Engine

/-! ## The engine -/

/-- What the journal of an engine is, and what it left on disk. -/
structure Journaled (e : Engine) : Prop where
  handle : ∀ j, e.journal = some j → j.Held e.config
  disk : ∀ bytes, e.disk = some bytes → Journal.OnDisk bytes

/-- The two engines have the same configuration, journal and file. -/
structure SameFile (e e' : Engine) : Prop where
  config : e'.config = e.config
  journal : e'.journal = e.journal
  disk : e'.disk = e.disk

variable {e e' : Engine}

theorem SameFile.trans {e₁ e₂ e₃ : Engine} (h : e₁.SameFile e₂) (h' : e₂.SameFile e₃) : e₁.SameFile e₃ :=
  ⟨h'.config.trans h.config, h'.journal.trans h.journal, h'.disk.trans h.disk⟩

theorem Journaled.of_same (h : e.Journaled) (hs : e.SameFile e') : e'.Journaled := by
  constructor
  · intro j hj
    rw [hs.config]
    exact h.handle j (hs.journal ▸ hj)
  · intro bytes hb
    exact h.disk bytes (hs.disk ▸ hb)

/-- A step of the journal alone. -/
theorem Journaled.of_handle (h : e.Journaled) (hc : e'.config = e.config) (hd : e'.disk = e.disk)
    (hj : ∀ j, e'.journal = some j → j.Held e.config) : e'.Journaled := by
  constructor
  · intro j hj'
    rw [hc]
    exact hj j hj'
  · intro bytes hb
    exact h.disk bytes (hd ▸ hb)

theorem journaled_appendRecord (h : e.Journaled) (r : Record) : (e.appendRecord r).1.Journaled := by
  unfold appendRecord
  split
  · exact h
  · rename_i j hj
    refine h.of_handle rfl rfl (fun k hk => ?_)
    cases hk
    exact Journal.held_append (h.handle j hj) r

theorem journaled_compactLocked (h : e.Journaled) : e.compactLocked.1.Journaled := by
  unfold compactLocked
  split
  · exact h
  · rename_i j hj
    split
    · exact h.of_same ⟨rfl, rfl, rfl⟩
    · rename_i records _
      have hheld := Journal.held_rewrite (h.handle j hj) records e.epoch e.openedAt
      split
      all_goals
        rename_i hr
        rw [hr] at hheld
        refine h.of_handle rfl rfl (fun k hk => ?_)
        cases hk
        exact hheld

theorem journaled_recordAppended (r : Record) {p : Engine × Except Error Unit} (h : p.1.Journaled) :
    (recordAppended r p).1.Journaled := by
  obtain ⟨e, status⟩ := p
  cases status <;> exact Journaled.of_same h ⟨rfl, rfl, rfl⟩

theorem journaled_appendObservation (h : e.Journaled) (obs : Observation) : (e.appendObservation obs).1.Journaled :=
  appendObservation_rule (P := Journaled) (fun _ h => journaled_appendRecord h _) (fun _ h => journaled_compactLocked h)
    (fun r _ h => journaled_recordAppended r h) h

theorem journaled_appendSource (h : e.Journaled) (d : SourceDescriptor) : (e.appendSource d).1.Journaled := by
  have happend := journaled_appendRecord h ⟨.SourceDescriptor, writeSourceDescriptor d⟩
  simp only [appendSource]
  split
  · exact happend
  · exact happend.of_same ⟨rfl, rfl, rfl⟩

/-- What admitting an observation leaves alone: a field that depends neither on the tables nor on the counters. -/
theorem applyJournaled_frame {α : Type} (field : Engine → α)
    (hset : ∀ (e : Engine) flows sources registries counters, field { e with
      flows := flows, sources := sources, registries := registries, counters := counters } = field e)
    (e : Engine) (atTime : Timestamp) (obs : Observation) : field (e.applyJournaled atTime obs).1 = field e := by
  have hroom : ∀ e : Engine, field e.makeFlowRoom.1 = field e := by
    intro e
    unfold makeFlowRoom
    split
    · rfl
    · split
      · rfl
      · rename_i hevict
        obtain ⟨f, -, rfl⟩ := Option.map_eq_some_iff.1 hevict
        exact hset e (e.flows.erase f.id) e.sources e.registries _
  have hflow : ∀ e : Engine, field (e.resolveFlow atTime obs).1 = field e := by
    intro e
    unfold resolveFlow
    split
    · rfl
    · simp only
      split
      · exact (hset e.makeFlowRoom.1 _ _ _ _).trans (hroom e)
      · exact hroom e
  unfold applyJournaled
  split
  · exact hset e e.flows e.sources e.registries _
  · rename_i e₁ hsource
    obtain ⟨-, he₁⟩ := resolveSource_ok hsource
    have h₁ : field e₁ = field e := by
      rw [he₁]
      exact hset e e.flows _ e.registries e.counters
    split
    · rename_i e₂ hr
      have h₂ : field e₂ = field e₁ := (congrArg (fun p => field p.1) hr).symm.trans (hflow e₁)
      exact (hset e₂ e₂.flows e₂.sources e₂.registries _).trans (h₂.trans h₁)
    · rename_i e₂ flow hr
      have h₂ : field e₂ = field e₁ := (congrArg (fun p => field p.1) hr).symm.trans (hflow e₁)
      exact (hset e₂ _ e₂.sources _ _).trans (h₂.trans h₁)

/-- After it is journalled, an observation leaves the journal alone. -/
theorem sameFile_applyJournaled (e : Engine) (atTime : Timestamp) (obs : Observation) :
    e.SameFile (e.applyJournaled atTime obs).1 where
  config := applyJournaled_frame (·.config) (fun _ _ _ _ _ => rfl) e atTime obs
  journal := applyJournaled_frame (·.journal) (fun _ _ _ _ _ => rfl) e atTime obs
  disk := applyJournaled_frame (·.disk) (fun _ _ _ _ _ => rfl) e atTime obs

/-- A replayed observation is not journalled again. -/
theorem sameFile_applyLocked (hr : e.replaying = true) (incoming : Observation) :
    e.SameFile (e.applyLocked incoming).1 := by
  cases hv : validateObservation e.config.limits incoming with
  | error err =>
    rw [applyLocked_invalid hv]
    exact ⟨rfl, rfl, rfl⟩
  | ok _ =>
    rw [applyLocked_replaying hv hr]
    have hreceived : e.SameFile e.received := ⟨rfl, rfl, rfl⟩
    exact hreceived.trans (sameFile_applyJournaled e.received _ _)

theorem journaled_applyLocked (h : e.Journaled) (incoming : Observation) : (e.applyLocked incoming).1.Journaled := by
  by_cases hr : e.replaying = true
  · exact h.of_same (sameFile_applyLocked hr incoming)
  · replace hr : e.replaying = false := Bool.eq_false_iff.2 hr
    have hreceived : e.received.Journaled := h.of_same ⟨rfl, rfl, rfl⟩
    have happend := journaled_appendObservation hreceived (prepare e.instant incoming)
    cases hv : validateObservation e.config.limits incoming with
    | error err =>
      rw [applyLocked_invalid hv]
      exact hreceived.of_same ⟨rfl, rfl, rfl⟩
    | ok _ =>
      cases hj : (e.received.appendObservation (prepare e.instant incoming)).2 with
      | error err =>
        rw [applyLocked_unjournaled hv hr hj]
        exact happend.of_same ⟨rfl, rfl, rfl⟩
      | ok _ =>
        rw [applyLocked_journaled hv hr hj]
        exact happend.of_same (sameFile_applyJournaled _ _ _)

theorem journaled_batch (h : e.Journaled) (batch : List Observation) :
    (batch.foldl (fun (e : Engine) obs => (e.applyLocked obs).1) e).Journaled := by
  induction batch generalizing e with
  | nil => exact h
  | cons obs batch ih => exact ih (journaled_applyLocked h obs)

/-- **Every operation keeps the journal whole.** -/
theorem journaled_step (h : e.Journaled) (op : Op) : (e.step op).Journaled := by
  cases op with
  | ingest obs =>
    show (e.ingest obs).1.Journaled
    rcases ingest_cases e obs with ⟨-, he⟩ | ⟨-, he⟩
    · exact he.symm ▸ h
    · exact he.symm ▸ journaled_applyLocked h obs
  | submit obs =>
    rcases submit_cases e obs with ⟨-, he⟩ | ⟨-, he⟩
    · exact he.symm ▸ h
    · exact he.symm ▸ journaled_applyLocked h _
  | enqueue obs =>
    simp only [step, enqueue]
    split
    · exact h
    · split
      · exact h
      · split <;> exact h.of_same ⟨rfl, rfl, rfl⟩
  | drain n =>
    have hqueue : ({ e with queue := e.queue.drop n } : Engine).Journaled := h.of_same ⟨rfl, rfl, rfl⟩
    simp only [step, drain]
    split
    · exact hqueue
    · split
      · exact hqueue
      · exact (journaled_batch hqueue _).of_same ⟨rfl, rfl, rfl⟩
  | work batch => exact (journaled_batch h batch).of_same ⟨rfl, rfl, rfl⟩
  | tick evaluatedAt =>
    simp only [step, tick]
    split
    · exact h
    · split
      · exact h
      · exact h.of_same ⟨rfl, rfl, rfl⟩
  | registerSource d =>
    have happend := journaled_appendSource h d
    have hcases := registerSource_cases e d
    simp only [step]
    generalize e.registerSource d = result at hcases ⊢
    cases hcases with
    | known => exact h.of_same ⟨rfl, rfl, rfl⟩
    | unjournaled _ _ _ hj | fresh _ _ _ _ hj =>
      rw [hj] at happend
      exact happend.of_same ⟨rfl, rfl, rfl⟩
    | _ => exact h
  | retireSource id =>
    simp only [step, retireSource]
    split
    · exact h
    · exact h.of_same ⟨rfl, rfl, rfl⟩
  | compact => exact journaled_compactLocked h
  | flush =>
    refine h.of_handle rfl rfl (fun j hj => ?_)
    obtain ⟨k, hk, rfl⟩ := Option.map_eq_some_iff.1 hj
    exact Journal.held_flush (h.handle k hk)
  | freeze => exact h.of_same ⟨rfl, rfl, rfl⟩
  | advance clock => exact h.of_same ⟨rfl, rfl, rfl⟩

/-- Recovery leaves the journal alone. -/
theorem sameFile_restoreLocked (e : Engine) (records : List Record) (previous : RuntimeEpoch) :
    e.SameFile (e.restoreLocked records previous).1 := by
  have hflows : ∀ (ps : List PersistedFlow) (e : Engine), e.SameFile (e.restoreFlows previous ps).1 := by
    intro ps
    induction ps with
    | nil => exact fun e => ⟨rfl, rfl, rfl⟩
    | cons p ps ih =>
      intro e
      simp only [restoreFlows]
      split
      · exact ⟨rfl, rfl, rfl⟩
      · obtain ⟨hc, hj, hd⟩ := ih { e with
          sources := ((restoredGenerations e.config.limits p).flatMap (restoredSources e.config.limits)).foldl
            (restoreDescriptor e.openedAt) e.sources
          flows := if (e.flows.find? (restoreFlow e.config.limits previous p).id).isSome then e.flows
            else e.flows.set (restoreFlow e.config.limits previous p) }
        exact ⟨hc, hj, hd⟩
  have hreplay : ∀ (obs : List Observation) (e : Engine), e.replaying = true → e.SameFile (obs.foldl replayOne e) := by
    intro obs
    induction obs with
    | nil => exact fun e _ => ⟨rfl, rfl, rfl⟩
    | cons o obs ih =>
      intro e hr
      have hset : e.SameFile { e with replayNow := o.receivedAt } := ⟨rfl, rfl, rfl⟩
      have hone := hset.trans (sameFile_applyLocked (e := { e with replayNow := o.receivedAt }) hr o)
      exact hone.trans (ih (e.replayOne o) ((sameSettings_applyLocked _ o).replaying_eq.trans hr))
  unfold restoreLocked
  split
  · exact ⟨rfl, rfl, rfl⟩
  · rename_i result _
    split
    · exact ⟨rfl, rfl, rfl⟩
    · have hrestore := hflows result.state.flows
          (({ e with snapshotSequence := result.state.snapshotSequence } : Engine).restoreSources
        result.state.sources)
      simp only
      split
      · rename_i hr
        rw [hr] at hrestore
        exact ⟨hrestore.config, hrestore.journal, hrestore.disk⟩
      · rename_i e₁ hr
        rw [hr] at hrestore
        have hdone := hreplay result.observations { e₁ with replaying := true, replayEpoch := previous } rfl
        exact ⟨hdone.config.trans hrestore.config, hdone.journal.trans hrestore.journal, hdone.disk.trans hrestore.disk⟩

theorem sameFile_tickLocked (e : Engine) (evaluatedAt : Timestamp) :
    e.SameFile (e.tickLocked evaluatedAt) := ⟨rfl, rfl, rfl⟩

/-- **Opening an engine** that is closed, on a file of whole records or on none. -/
theorem journaled_openEngine (hj : e.journal = none) (hd : ∀ bytes, e.disk = some bytes → Journal.OnDisk bytes)
    (h : e.openEngine.2 = .ok ()) : e.openEngine.1.Journaled := by
  have hclosed : e.Journaled := ⟨fun j hj' => absurd (hj.symm.trans hj') (by simp), hd⟩
  have hjournal : e.openJournalLocked.2 = .ok () → e.openJournalLocked.1.Journaled := by
    simp only [openJournalLocked, hj, journalFile_none, replaceJournal_none, Option.any_none, Bool.false_eq_true,
      if_false]
    split
    · exact fun _ => hclosed.of_same ⟨rfl, hj.symm, rfl⟩
    · split
      · intro h
        cases h
      · rename_i j hopen
        split
        · intro h
          cases h
        · rename_i records hread
          have hheld := Journal.held_open hd hopen hread
          let read : Engine := { e with
            openedAt := e.now, epoch := ⟨j.header.runtimeEpoch.value + 1⟩
            journal := some (j.setEpoch ⟨j.header.runtimeEpoch.value + 1⟩ e.now).readAll.1 }
          have hreadJ : read.Journaled := by
            refine hclosed.of_handle rfl rfl (fun k hk => ?_)
            cases hk
            exact hheld
          have hopened : ∀ p, (if read.config.restoreOnOpen && !records.isEmpty then
              read.restoreLocked records j.header.runtimeEpoch else (read, .ok ())) = p → p.1.Journaled := by
            rintro p rfl
            split
            · exact hreadJ.of_same (sameFile_restoreLocked _ _ _)
            · exact hreadJ
          split
          · intro h
            cases h
          · rename_i hr
            intro _
            have hdone := hopened _ hr
            refine hdone.of_handle rfl rfl (fun k hk => ?_)
            obtain ⟨k₀, hk₀, rfl⟩ := Option.map_eq_some_iff.1 hk
            exact Journal.held_flush (hdone.handle k₀ hk₀)
  unfold openEngine at h ⊢
  split at h
  · cases h
  · rename_i hvalid
    split at h
    · cases h
    · rename_i hopen
      split at h
      · cases h
      · rename_i e₁ hr
        rw [hr] at hjournal
        simp only [if_neg hopen]
        exact (hjournal rfl).of_same ⟨rfl, rfl, rfl⟩

/-- **The journal of a reachable engine is whole.** -/
theorem Reachable.journaled (h : e.Reachable) : e.Journaled := by
  induction h with
  | opened config clock h => exact journaled_openEngine rfl (fun _ h => nomatch h) h
  | step _ op ih => exact journaled_step ih op
  | @reopened e h ho ih =>
    have hclosed : e.close.journal = none ∧ ∀ bytes, e.close.disk = some bytes → Journal.OnDisk bytes := by
      unfold close
      split
      · rename_i hc
        simp only [Bool.and_eq_true, Option.isNone_iff_eq_none] at hc
        exact ⟨hc.2, ih.disk⟩
      · refine ⟨rfl, fun bytes hb => ?_⟩
        cases hj : e.journal with
        | none =>
          simp only [hj, count] at hb
          exact ih.disk bytes hb
        | some j =>
          simp only [hj, count, Option.some.injEq] at hb
          obtain ⟨records, hheld⟩ := (Journal.held_flush (ih.handle j hj)).file
          rw [← hb]
          exact (Journal.holds_close hheld).onDisk
    exact journaled_openEngine hclosed.1 hclosed.2 ho

end Engine

end FlowObs
