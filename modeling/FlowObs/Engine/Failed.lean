import FlowObs.Engine.Frozen
import FlowObs.Engine.Journaled

/-!
# Calls that fail

`open` takes the journal handle before it reads and restores the file, and `load_snapshot` clears the flows and the
identity registries before it decodes the records; neither is undone when a later step fails. An open that fails
leaves the engine intact exactly when it had not got as far as a handle (`Attaches`), a load exactly when the file was
not read or the engine held nothing that is taken from it (`Spares`): `failed_intact_iff`.
-/

namespace FlowObs.Engine

/-- The flows, the sources, the identity registries and the journal handle are as they were. -/
structure Intact (e e' : Engine) : Prop where
  flows : e'.flows = e.flows
  sources : e'.sources = e.sources
  registries : e'.registries = e.registries
  journal : e'.journal = e.journal

/-! ## Opening -/

/-- Opening gets as far as a journal handle: the engine may be opened, it holds no lock, and the file at its path can
be opened. -/
def Attaches (e : Engine) : Prop :=
  e.config.validate = .ok () ∧ e.isOpen = false ∧ e.config.journalPath ≠ [] ∧ e.journal.any (·.locked) = false ∧
    ∃ j, Journal.openFile e.config.journalPath (journalFile e.journal e.disk)
      { limits := e.config.limits, recovery := e.config.recovery } = .ok j

variable {e : Engine} {err : Error}

/-- A handle that is opened for writing holds the lock. -/
theorem locked_openFile {path : Str} {existing : Option (List UInt8)} {options : JournalOpenOptions} {j : Journal}
    (hw : options.readOnly = false) (h : Journal.openFile path existing options = .ok j) : j.locked = true := by
  unfold Journal.openFile at h
  rw [bind_ok] at h
  obtain ⟨-, -, h⟩ := h
  cases existing with
  | none =>
    simp only [hw, Bool.false_eq_true, if_false] at h
    split at h
    · cases h
    · cases h
      rfl
  | some bytes =>
    simp only at h
    split at h
    · cases h
      rfl
    · unfold Journal.attach at h
      rw [bind_ok] at h
      obtain ⟨header, -, h⟩ := h
      cases h
      exact congrArg (!·) hw

/-- Reading a file does not give up the lock on it. -/
theorem locked_readAll (j : Journal) : j.readAll.1.locked = j.locked := by
  unfold Journal.readAll
  split
  · rfl
  · split <;> rfl

theorem locked_replaceJournal (held : Option Journal) (j : Journal) : (replaceJournal held j).locked = j.locked := by
  cases held <;> rfl

/-- Before the handle is taken, nothing is changed. -/
theorem openJournalLocked_detached (h : ¬ (e.config.journalPath ≠ [] ∧ e.journal.any (·.locked) = false ∧
    ∃ j, Journal.openFile e.config.journalPath (journalFile e.journal e.disk)
      { limits := e.config.limits, recovery := e.config.recovery } = .ok j)) : e.Intact e.openJournalLocked.1 := by
  unfold openJournalLocked
  dsimp only
  split
  · exact ⟨rfl, rfl, rfl, rfl⟩
  · rename_i hpath
    split
    · exact ⟨rfl, rfl, rfl, rfl⟩
    · rename_i hunlocked
      split
      · exact ⟨rfl, rfl, rfl, rfl⟩
      · rename_i j hj
        exact absurd ⟨by simpa using hpath, Bool.eq_false_iff.2 hunlocked, j, hj⟩ h

/-- Behind the handle, an engine that fails to open keeps it, and with it the lock. -/
theorem openJournalLocked_attached {j : Journal} (hpath : e.config.journalPath ≠ [])
    (hunlocked : e.journal.any (·.locked) = false)
    (hj : Journal.openFile e.config.journalPath (journalFile e.journal e.disk)
      { limits := e.config.limits, recovery := e.config.recovery } = .ok j)
    (h : e.openJournalLocked.2 = .error err) : e.openJournalLocked.1.journal.any (·.locked) = true := by
  have hpath' : ¬ e.config.journalPath.isEmpty = true := by simpa using hpath
  have hunlocked' : ¬ e.journal.any (·.locked) = true := by rw [hunlocked]; decide
  have hlocked : ∀ epoch createdAt,
      ((replaceJournal e.journal j).setEpoch epoch createdAt).readAll.1.locked = true := by
    intro epoch createdAt
    have hsame : ((replaceJournal e.journal j).setEpoch epoch createdAt).locked =
        (replaceJournal e.journal j).locked := rfl
    rw [locked_readAll, hsame, locked_replaceJournal, locked_openFile rfl hj]
  revert h
  unfold openJournalLocked
  rw [if_neg hpath', if_neg hunlocked']
  simp only [hj]
  split
  · exact fun _ => hlocked _ _
  · rename_i records _
    -- Restoring touches no handle.
    have hkept : ∀ (e₁ : Engine) previous p, (if e₁.config.restoreOnOpen && !records.isEmpty then
        e₁.restoreLocked records previous else (e₁, .ok ())) = p → e₁.journal.any (·.locked) = true →
          p.1.journal.any (·.locked) = true := by
      rintro e₁ previous p rfl he₁
      split
      · rw [(sameFile_restoreLocked e₁ records previous).journal]
        exact he₁
      · exact he₁
    let read : Engine := { e with
      openedAt := e.now, epoch := ⟨j.header.runtimeEpoch.value + 1⟩
      journal := some ((replaceJournal e.journal j).setEpoch ⟨j.header.runtimeEpoch.value + 1⟩ e.now).readAll.1 }
    split
    · rename_i hr
      exact fun _ => hkept read _ _ hr (hlocked _ _)
    · exact fun h => nomatch h

/-- **An open that fails leaves the engine intact exactly when it had not taken the journal.** -/
theorem open_intact_iff (h : e.openEngine.2 = .error err) : e.Intact e.openEngine.1 ↔ ¬ e.Attaches := by
  have hattached := @openJournalLocked_attached e
  have hdetached := openJournalLocked_detached (e := e)
  revert h
  unfold openEngine
  split
  · rename_i hinvalid
    refine fun _ => ⟨fun _ ha => ?_, fun _ => ⟨rfl, rfl, rfl, rfl⟩⟩
    rw [ha.1] at hinvalid
    cases hinvalid
  · rename_i hvalid
    split
    · rename_i hopen
      refine fun _ => ⟨fun _ ha => ?_, fun _ => ⟨rfl, rfl, rfl, rfl⟩⟩
      rw [ha.2.1] at hopen
      cases hopen
    · rename_i hclosed
      split
      · rename_i e₁ err' hjournal
        rw [hjournal] at hattached hdetached
        intro _
        constructor
        · rintro hintact ⟨-, -, hpath, hunlocked, j, hj⟩
          have hlocked := hattached hpath hunlocked hj rfl
          rw [hintact.journal, hunlocked] at hlocked
          cases hlocked
        · intro ha
          exact hdetached fun ⟨hpath, hunlocked, j, hj⟩ => ha ⟨hvalid, by simpa using hclosed, hpath, hunlocked, j, hj⟩
      · exact fun h => nomatch h

/-! ## Loading -/

/-- A record at which restoration stops: it declares a current generation and holds none to restore. -/
def Hollow (limits : Limits) (p : PersistedFlow) : Bool :=
  (restoredGenerations limits p).isEmpty && p.currentGeneration.valid

/-- The records of flows that are restored before the first at which restoration stops. -/
def restorable (limits : Limits) (ps : List PersistedFlow) : List PersistedFlow :=
  ps.takeWhile fun p => !Hollow limits p

/-- The sources that the record of a flow names. -/
def namedSources (limits : Limits) (p : PersistedFlow) : List PersistedSource :=
  (restoredGenerations limits p).flatMap (restoredSources limits)

/-- The engine holds what a snapshot says: its flows are those of the records that can be restored, each as it is
recorded first; the sources that the snapshot describes are registered so, as of the opening; and the ones that its
flows name are registered. -/
structure Mirrors (e : Engine) (state : PersistedState) : Prop where
  flows : ∀ id, e.flows.find? id = ((restorable e.config.limits state.flows).find? (fun p => decide (p.id = id))).map
    (restoreFlow e.config.limits e.epoch)
  described : ∀ id d, state.sources.reverse.find? (fun d => decide (d.id = id)) = some d →
    e.sources.find? id = some { descriptor := d, registeredAt := e.openedAt }
  named : ∀ p ∈ restorable e.config.limits state.flows, ∀ s ∈ namedSources e.config.limits p,
    (e.sources.find? s.source).isSome = true

/-- The engine holds nothing that a load of these records, when it fails, takes from it. -/
def Spares (e : Engine) (records : List Record) : Prop :=
  e.registries = {} ∧ match replayRecords records e.config.limits e.config.recovery with
    | .error _ => e.flows = ∅
    | .ok result =>
      if result.sawSnapshot && result.state.policyDigest != e.config.policyDigest then e.flows =
        ∅ else e.Mirrors result.state

theorem isEmpty_restoreFlow (limits : Limits) (previous : RuntimeEpoch) (p : PersistedFlow) :
    (restoreFlow limits previous p).generations.toList.isEmpty = (restoredGenerations limits p).isEmpty := by
  unfold restoreFlow
  cases hgs : restoredGenerations limits p with
  | nil => rfl
  | cons g gs =>
    exact List.isEmpty_eq_false_iff.2
      (SortedVec.foldl_set_ne_nil (restoreGeneration limits p.id) (List.cons_ne_nil g gs) _)

theorem namedSources_hollow {limits : Limits} {p : PersistedFlow} (h : Hollow limits p = true) :
    namedSources limits p = [] := by
  unfold Hollow at h
  rw [Bool.and_eq_true, List.isEmpty_iff] at h
  unfold namedSources
  rw [h.1, List.flatMap_nil]

/-- **What restoring flows leaves**, whether it fails or not: of several records of a flow the first one, behind what
was there. -/
theorem restoreFlows_tables (previous : RuntimeEpoch) (ps : List PersistedFlow) (e : Engine) :
    (∀ id, (e.restoreFlows previous ps).1.flows.find? id = (e.flows.find? id).or
        (((restorable e.config.limits ps).find? (fun p => decide (p.id = id))).map
          (restoreFlow e.config.limits previous))) ∧
      (e.restoreFlows previous ps).1.sources
        = ((restorable e.config.limits ps).flatMap (namedSources e.config.limits)).foldl
          (restoreDescriptor e.openedAt) e.sources ∧
      (e.restoreFlows previous ps).1.registries = e.registries := by
  induction ps generalizing e with
  | nil => exact ⟨fun id => (Option.or_none).symm, rfl, rfl⟩
  | cons p ps ih =>
    unfold restoreFlows
    simp only [isEmpty_restoreFlow]
    split
    · rename_i hhollow
      have hnone : restorable e.config.limits (p :: ps) = [] := List.takeWhile_cons_of_neg (by
        rw [Hollow, hhollow]
        decide)
      have hnamed : (restoredGenerations e.config.limits p).flatMap (restoredSources e.config.limits) = [] :=
        namedSources_hollow hhollow
      rw [hnone]
      refine ⟨fun id => (Option.or_none).symm, ?_, rfl⟩
      simp only [hnamed, List.flatMap_nil, List.foldl_nil]
    · rename_i hfull
      have hcons : restorable e.config.limits (p :: ps) = p :: restorable e.config.limits ps :=
        List.takeWhile_cons_of_pos (by
        rw [Hollow, Bool.eq_false_iff.2 hfull]
        decide)
      rw [hcons]
      have hid : (restoreFlow e.config.limits previous p).id = p.id := rfl
      obtain ⟨hflows, hsources, hregistries⟩ := ih { e with
        sources := ((restoredGenerations e.config.limits p).flatMap (restoredSources e.config.limits)).foldl
          (restoreDescriptor e.openedAt) e.sources
        flows := if (e.flows.find? (restoreFlow e.config.limits previous p).id).isSome then e.flows
          else e.flows.set (restoreFlow e.config.limits previous p) }
      refine ⟨fun id => ?_, hsources.trans ?_, hregistries⟩
      · rw [hflows id, List.find?_cons]
        simp only [hid]
        by_cases hp : p.id = id
        · subst hp
          simp only [decide_true, Option.map_some]
          cases hheld : e.flows.find? p.id with
          | some f => simp [hheld]
          | none => simp [SortedVec.find?_set, hid]
        · simp only [decide_eq_false hp]
          split
          · rfl
          · rw [SortedVec.find?_set_of_ne _ (by rw [hid]; exact hp)]
      · rw [List.flatMap_cons, List.foldl_append]
        rfl

/-- The sources after those of a snapshot were registered: of several descriptors of a source the last one. -/
theorem find?_restoreSources (ds : List SourceDescriptor) (e : Engine) (id : SourceId) :
    (e.restoreSources ds).sources.find? id = ((ds.reverse.find? (fun d => decide (d.id = id))).map
      fun d => ({ descriptor := d, registeredAt := e.openedAt } : SourceState)).or (e.sources.find? id) := by
  show (ds.foldl (fun (v : SourceTable) d => v.set { descriptor := d, registeredAt := e.openedAt }) e.sources).find?
    id = _
  generalize e.sources = v
  induction ds generalizing v with
  | nil => rfl
  | cons d ds ih =>
    rw [List.foldl_cons, ih, List.reverse_cons, List.find?_append, List.find?_singleton, SortedVec.find?_set]
    cases ds.reverse.find? (fun d => decide (d.id = id)) with
    | some d' => rfl
    | none =>
      by_cases hd : d.id = id
      · simp [hd, SourceState.id]
      · simp [hd, SourceState.id]

/-- What is registered from a snapshot leaves the sources as they are. -/
theorem restoredSources_eq_iff (e : Engine) (ds : List SourceDescriptor) (ps : List PersistedSource) :
    ps.foldl (restoreDescriptor e.openedAt) (e.restoreSources ds).sources = e.sources ↔
      (∀ id d, ds.reverse.find? (fun d => decide (d.id = id)) = some d →
        e.sources.find? id = some { descriptor := d, registeredAt := e.openedAt }) ∧
      ∀ p ∈ ps, (e.sources.find? p.source).isSome = true := by
  have hafter := restoreDescriptors_registers e.openedAt ps (e.restoreSources ds).sources
  -- Where all that is described is registered so, registering it changes nothing.
  have hsame (h : ∀ id d, ds.reverse.find? (fun d => decide (d.id = id)) = some d →
      e.sources.find? id = some { descriptor := d, registeredAt := e.openedAt }) : (e.restoreSources ds).sources =
        e.sources := by
    refine SortedVec.ext_find? fun id => ?_
    rw [find?_restoreSources]
    cases hd : ds.reverse.find? (fun d => decide (d.id = id)) with
    | none => rfl
    | some d => exact (h id d hd).symm
  constructor
  · intro h
    have hdescribed : ∀ id d, ds.reverse.find? (fun d => decide (d.id = id)) = some d →
        e.sources.find? id = some { descriptor := d, registeredAt := e.openedAt } := by
      intro id d hd
      have hregistered : (e.restoreSources ds).sources.find? id =
          some { descriptor := d, registeredAt := e.openedAt } := by
        rw [find?_restoreSources, hd]
        rfl
      have hkept := hafter.1 id (by rw [hregistered]; rfl)
      rwa [h, hregistered] at hkept
    exact ⟨hdescribed, fun p hp => by simpa only [h] using hafter.2 p hp⟩
  · rintro ⟨hdescribed, hnamed⟩
    rw [hsame hdescribed]
    exact (restoreDescriptors_eq_iff e.openedAt ps e.sources).2 hnamed

/-- **What a load that fails on the records leaves**: no identity, the journal, and the flows and sources of before
exactly when they are what it restores. -/
theorem loadRecords_failed {records : List Record} (h : (e.loadRecords records).2 = .error err) :
    (e.loadRecords records).1.registries = {} ∧ (e.loadRecords records).1.journal = e.journal ∧
      ((e.loadRecords records).1.flows = e.flows ∧ (e.loadRecords records).1.sources = e.sources ∧ e.registries = {} ↔
        e.Spares records) := by
  have hjournal := (sameFile_restoreLocked { e with flows := ∅, registries := {} } records e.epoch).journal
  suffices htables : (e.loadRecords records).1.registries = {} ∧
      ((e.loadRecords records).1.flows = e.flows ∧ (e.loadRecords records).1.sources = e.sources ∧ e.registries = {} ↔
        e.Spares records) from ⟨htables.1, hjournal, htables.2⟩
  have hcleared : (∅ = e.flows ∧ True ∧ e.registries = {}) ↔ e.registries = {} ∧ e.flows = ∅ :=
    ⟨fun ⟨hf, _, hr⟩ => ⟨hr, hf.symm⟩, fun ⟨hr, hf⟩ => ⟨hf.symm, trivial, hr⟩⟩
  revert h
  cases hreplay : replayRecords records e.config.limits e.config.recovery with
  | error err' =>
    simp only [loadRecords, restoreLocked, Spares, hreplay]
    exact fun _ => ⟨trivial, hcleared⟩
  | ok result =>
    by_cases hpolicy : (result.sawSnapshot && result.state.policyDigest != e.config.policyDigest) = true
    · simp only [loadRecords, restoreLocked, Spares, hreplay, if_pos hpolicy]
      exact fun _ => ⟨trivial, hcleared⟩
    · simp only [loadRecords, restoreLocked, Spares, hreplay, if_neg hpolicy]
      obtain ⟨hflows, hsources, hregistries⟩ := restoreFlows_tables e.epoch result.state.flows
        (({ e with flows := ∅, registries := {}, snapshotSequence := result.state.snapshotSequence } :
          Engine).restoreSources result.state.sources)
      split
      · rename_i hr
        rw [hr] at hflows hsources hregistries
        refine fun _ => ⟨hregistries, ?_⟩
        have heq := restoredSources_eq_iff e result.state.sources
          ((restorable e.config.limits result.state.flows).flatMap (namedSources e.config.limits))
        constructor
        · rintro ⟨hf, hs', he⟩
          rw [hs'] at hsources
          obtain ⟨hdescribed, hnamed⟩ := heq.1 hsources.symm
          refine ⟨he, ⟨fun id => ?_, hdescribed, fun p hp s hsp => hnamed s (List.mem_flatMap.2 ⟨p, hp, hsp⟩)⟩⟩
          rw [← hf]
          exact hflows id
        · rintro ⟨he, hm⟩
          refine ⟨SortedVec.ext_find? fun id => ?_, hsources.trans (heq.2 ⟨hm.described, fun s hs => ?_⟩), he⟩
          · rw [hm.flows id]
            exact hflows id
          · obtain ⟨p, hp, hsp⟩ := List.mem_flatMap.1 hs
            exact hm.named p hp s hsp
      · exact fun h => nomatch h

/-- **A load that fails leaves the engine intact exactly when the file was not read**, or when the engine held nothing
that the records take from it. -/
theorem load_intact_iff {path : Str} {existing : Option (List UInt8)}
    (h : (e.loadSnapshot path existing).2 = .error err) : e.Intact (e.loadSnapshot path existing).1 ↔
      ∀ j records, Journal.openFile path existing e.loadOptions = .ok j → j.readAll.2 = .ok records →
      e.Spares records := by
  revert h
  unfold loadSnapshot
  split
  · rename_i hopen
    refine fun _ => ⟨fun _ j records hj => ?_, fun _ => ⟨rfl, rfl, rfl, rfl⟩⟩
    rw [hopen] at hj
    cases hj
  · rename_i j hopen
    split
    · rename_i hread
      refine fun _ => ⟨fun _ j' records hj hr => ?_, fun _ => ⟨rfl, rfl, rfl, rfl⟩⟩
      rw [hopen] at hj
      cases hj
      rw [hread] at hr
      cases hr
    · rename_i records hread
      intro h
      obtain ⟨hregistries, hjournal, hspares⟩ := loadRecords_failed h
      constructor
      · intro hintact j' records' hj hr
        rw [hopen] at hj
        cases hj
        rw [hread] at hr
        cases hr
        exact hspares.1 ⟨hintact.flows, hintact.sources, hintact.registries.symm.trans hregistries⟩
      · intro hsame
        obtain ⟨hf, hs, hr⟩ := hspares.2 (hsame j records hopen hread)
        exact ⟨hf, hs, hregistries.trans hr.symm, hjournal⟩

/-- **Exactly when a call that fails leaves the engine intact.** -/
theorem failed_intact_iff (e : Engine) (path : Str) (existing : Option (List UInt8)) :
    (∀ err, e.openEngine.2 = .error err → (e.Intact e.openEngine.1 ↔ ¬ e.Attaches)) ∧
    ∀ err, (e.loadSnapshot path existing).2 = .error err → (e.Intact (e.loadSnapshot path existing).1 ↔
      ∀ j records, Journal.openFile path existing e.loadOptions = .ok j → j.readAll.2 = .ok records →
      e.Spares records) :=
  ⟨fun _ h => open_intact_iff h, fun _ h => load_intact_iff h⟩

/-- An engine in use with one flow. -/
def engineWithFlow : Engine := queuedEngine.step (.drain 1)

/-- A file that no open or load gets through: an observation of one byte. -/
def undecodableFile : List UInt8 := encodeHeader {} ++ encodeRecord ⟨.ObservationRecord, [1]⟩

/-- A closed engine with that file at its journal path. -/
def engineOnUndecodable : Engine :=
  { config := { journalPath := str "journal" }, clock := ⟨1000⟩, disk := some undecodableFile }

theorem isOk_error {α : Type} {x : Except Error α} (h : x.isOk = false) : ∃ err, x = .error err := by
  cases x with
  | error err => exact ⟨err, rfl⟩
  | ok a => cases h

/-- An engine that is open refuses to be opened, and a file that is missing is not loaded: both leave it intact. -/
theorem failed_intact_missing : engineWithFlow.Intact engineWithFlow.openEngine.1 ∧
    engineWithFlow.Intact (engineWithFlow.loadSnapshot [] none).1 := by
  obtain ⟨err, ho⟩ := isOk_error (show engineWithFlow.openEngine.2.isOk = false by with_unfolding_all decide)
  obtain ⟨err', hl⟩ := isOk_error
    (show (engineWithFlow.loadSnapshot [] none).2.isOk = false by with_unfolding_all decide)
  have hfile : Journal.openFile [] none engineWithFlow.loadOptions
      = .error ⟨.NotFound, str "journal does not exist: " ++ []⟩ := by with_unfolding_all decide
  refine ⟨((failed_intact_iff engineWithFlow [] none).1 err ho).2 fun ha => ?_,
    ((failed_intact_iff engineWithFlow [] none).2 err' hl).2 fun j records hj => ?_⟩
  · have hopen : engineWithFlow.isOpen = true := by with_unfolding_all decide
    rw [ha.2.1] at hopen
    cases hopen
  · rw [hfile] at hj
    cases hj

/-- **A failed open keeps the journal handle, and a failed load gives up the flows.** -/
theorem failed_can_change :
    (¬ ∀ (e : Engine) (err : Error), e.openEngine.2 = .error err → e.Intact e.openEngine.1) ∧
    ¬ ∀ (e : Engine) (path : Str) (existing : Option (List UInt8)) (err : Error), e.Reachable →
      (e.loadSnapshot path existing).2 = .error err → e.Intact (e.loadSnapshot path existing).1 := by
  constructor
  · intro h
    obtain ⟨err, he⟩ := isOk_error (show engineOnUndecodable.openEngine.2.isOk = false by decide +kernel)
    have hheld : engineOnUndecodable.openEngine.1.journal.isSome = true := by decide +kernel
    rw [(h engineOnUndecodable err he).journal] at hheld
    cases hheld
  · intro h
    have hreachable : Reachable engineWithFlow := .step reachable_queuedEngine _
    obtain ⟨err, he⟩ := isOk_error
      (show (engineWithFlow.loadSnapshot [] (some undecodableFile)).2.isOk = false by decide +kernel)
    have hbefore : (engineWithFlow.flows.find? sampleFlow).isSome = true := by with_unfolding_all decide
    have hafter : ((engineWithFlow.loadSnapshot [] (some undecodableFile)).1.flows.find? sampleFlow).isSome =
        false := by
      decide +kernel
    rw [(h engineWithFlow [] (some undecodableFile) err hreachable he).flows, hbefore] at hafter
    cases hafter

end FlowObs.Engine
