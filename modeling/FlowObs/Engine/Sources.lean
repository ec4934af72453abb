import FlowObs.Engine.Names
import FlowObs.Engine.Redelivered
import FlowObs.Persist.Batches
import FlowObs.Persist.Keys

/-!
# Claiming the identity of a source

A source that gives evidence before it is registered stands in the table under a key that the engine makes up
(`unregisteredKey`), and a registration is refused when the table holds another key for its identity. Every key that
an engine keeps in its table or writes to its journal was supplied by a registration or is such a stand-in
(`SuppliedWith.keyed`). So a refusal names a key that was supplied exactly when no stand-in is in the way
(`registration_conflicts_iff`).
-/

namespace FlowObs

namespace Engine

/-- The key that a source stands under when its evidence came before its registration. -/
def unregisteredKey (id : SourceId) : Str := str "unregistered:" ++ id.toStr

section Keyed

variable {K K' : SourceId → Str → Prop} {e e' : Engine}

/-! ## The table -/

/-- The keys of the source table satisfy `K`, and the sources of the flows are in it. -/
structure TableKeyed (K : SourceId → Str → Prop) (e : Engine) : Prop where
  table : ∀ s ∈ e.sources.toList, K s.id s.descriptor.canonicalKey
  flows : e.EachFlow (Registered e.sources)

theorem TableKeyed.of_tables (h : e.TableKeyed K) (hs : e'.sources = e.sources) (hf : e'.flows = e.flows) :
    e'.TableKeyed K := by
  refine ⟨?_, ?_⟩
  · rw [hs]
    exact h.table
  · rw [hs]
    exact h.flows.of_find? fun id => .inl (by rw [hf])

theorem TableKeyed.mono (h : e.TableKeyed K) (hk : ∀ id key, K id key → K' id key) : e.TableKeyed K' :=
  ⟨fun s hs => hk _ _ (h.table s hs), h.flows⟩

theorem TableKeyed.set (h : e.TableKeyed K) {s : SourceState} (hs : K s.id s.descriptor.canonicalKey) :
    ({ e with sources := e.sources.set s } : Engine).TableKeyed K := by
  refine ⟨fun s' hs' => ?_, registered_set h.flows s⟩
  rcases SortedVec.mem_set.1 hs' with rfl | ⟨hs', -⟩
  · exact hs
  · exact h.table s' hs'

theorem TableKeyed.recompute (h : e.TableKeyed K) (atTime : Timestamp) (due : FlowRuntime → Bool) :
    (e.recomputeAll atTime due).TableKeyed K := ⟨h.table, registered_recomputeAll h.flows atTime due⟩

theorem TableKeyed.drop (h : e.TableKeyed K) {s : SourceState} {id : SourceId} (hs : e.sources.find? id = some s) :
    (e.dropped s id).TableKeyed K := by
  refine ⟨fun s' hs' => ?_, registered_dropped h.flows s id⟩
  rcases SortedVec.mem_set.1 hs' with rfl | ⟨hs', -⟩
  · exact h.table s (SortedVec.find?_mem hs)
  · exact h.table s' hs'

/-- An observation brings the stand-in of its source at most. -/
theorem TableKeyed.apply (hstand : ∀ id, K id (unregisteredKey id)) (h : e.TableKeyed K) (obs : Observation) :
    (e.applyLocked obs).1.TableKeyed K := by
  refine ⟨?_, registered_applyLocked h.flows obs⟩
  rcases sources_applyLocked e obs with hs | hs
  · rw [hs]
    exact h.table
  · generalize (e.applyLocked obs).1.sources = sources at hs
    cases hs with
    | known s _ _ => exact h.table
    | fresh hnone _ => exact (h.set (s := unregisteredSource e.instant obs.key.source) (hstand obs.key.source)).table

/-- What is rebuilt in an engine without flows, from a file whose keys satisfy `K`. -/
theorem TableKeyed.rebuilt (h : e.TableKeyed K) (hnone : e.flows = ∅) {result : ReplayResult}
    (hr : result.state.Keyed K)
    (previous : RuntimeEpoch) : (e.rebuiltFrom previous result).TableKeyed K := by
  refine ⟨fun s hs => ?_, ?_⟩
  · rcases mem_sources_restoreFlows hs with hs | ⟨p, hp, hid, hkey⟩
    · rcases SortedVec.mem_foldl_set hs with hs | ⟨d, hd, rfl⟩
      · exact h.table s hs
      · exact hr.sources d hd
    · obtain ⟨f, hf, g, hg, hp⟩ := mem_restoredNames hp
      rw [hid, hkey]
      exact hr.flows f hf g hg p hp
  · refine registered_restoreFlows previous result.state.flows _ fun id f hf => ?_
    have hfind : e.flows.find? id = some f := hf
    rw [hnone] at hfind
    cases hfind

/-! ## The journal -/

/-- The journal of the engine, and what is left on disk, were written with keys that satisfy `K`. -/
structure FileKeyed (K : SourceId → Str → Prop) (e : Engine) : Prop where
  handle : ∀ j, e.journal = some j → ∃ records, Journal.Holds { limits := e.config.limits } j records ∧
    ∀ r ∈ records, r.Inscribed e.config.limits K
  disk : ∃ records, e.LeavesRecords records ∧ ∀ r ∈ records, r.Inscribed e.config.limits K

theorem FileKeyed.of_same (h : e.FileKeyed K) (hs : e.SameFile e') : e'.FileKeyed K := by
  constructor
  · rw [hs.config, hs.journal]
    exact h.handle
  · unfold LeavesRecords
    rw [hs.config, hs.disk]
    exact h.disk

theorem FileKeyed.mono (h : e.FileKeyed K) (hk : ∀ id key, K id key → K' id key) : e.FileKeyed K' := by
  constructor
  · intro j hj
    obtain ⟨records, hheld, hr⟩ := h.handle j hj
    exact ⟨records, hheld, fun r hmem => (hr r hmem).mono hk⟩
  · obtain ⟨records, hleft, hr⟩ := h.disk
    exact ⟨records, hleft, fun r hmem => (hr r hmem).mono hk⟩

/-- A step of the journal alone. -/
theorem FileKeyed.of_handle (h : e.FileKeyed K) (hc : e'.config = e.config) (hd : e'.disk = e.disk)
    (hj : ∀ j, e'.journal = some j → ∃ records, Journal.Holds { limits := e.config.limits } j records ∧
      ∀ r ∈ records, r.Inscribed e.config.limits K) : e'.FileKeyed K := by
  constructor
  · rw [hc]
    exact hj
  · unfold LeavesRecords
    rw [hc, hd]
    exact h.disk

theorem FileKeyed.appendRecord (h : e.FileKeyed K) {r : Record}
    (hr : (e.appendRecord r).2 = .ok () → r.Inscribed e.config.limits K) : (e.appendRecord r).1.FileKeyed K := by
  unfold Engine.appendRecord at hr ⊢
  split
  · exact h
  · rename_i j hj
    simp only [hj] at hr
    obtain ⟨records, hheld, hrecords⟩ := h.handle j hj
    refine h.of_handle rfl rfl fun k hk => ?_
    cases hk
    cases happend : (j.append [r]).2 with
    | ok _ =>
      refine ⟨records ++ [r], Journal.holds_append hheld happend, fun r' hr' => ?_⟩
      rcases List.mem_append.1 hr' with hr' | hr'
      · exact hrecords r' hr'
      · exact List.mem_singleton.1 hr' ▸ hr happend
    | error err =>
      rw [Journal.append_error happend]
      exact ⟨records, hheld, hrecords⟩

theorem fileKeyed_recordAppended (r : Record) {p : Engine × Except Error Unit} (h : p.1.FileKeyed K) :
    (recordAppended r p).1.FileKeyed K := h.of_same (sameFile_recordAppended r p)

/-- What is persisted of the tables. -/
theorem TableKeyed.persisted (h : e.TableKeyed K) : e.persistState.Keyed K := by
  constructor
  · intro d hd
    obtain ⟨s, hs, rfl⟩ := List.mem_map.1 hd
    exact h.table s (List.mem_filter.1 hs).1
  · intro p hp g hg s hs
    obtain ⟨f, hf, rfl⟩ := List.mem_map.1 hp
    obtain ⟨g₀, hg₀, rfl⟩ := List.mem_map.1 hg
    obtain ⟨b, hb, rfl⟩ := List.mem_map.1 hs
    have hbinding : f.binding? g₀.id b.source = some b := by
      unfold FlowRuntime.binding?
      rw [SortedVec.find?_of_mem hg₀]
      exact SortedVec.find?_of_mem hb
    obtain ⟨s, hs⟩ := Option.isSome_iff_exists.1 (h.flows f.id f (SortedVec.find?_of_mem hf) g₀.id b.source b hbinding)
    have hkey := h.table s (SortedVec.find?_mem hs)
    rw [SortedVec.find?_key hs] at hkey
    unfold persistSource
    rw [hs]
    exact hkey

/-- **A compaction writes the keys of the table.** -/
theorem FileKeyed.compact (h : e.FileKeyed K) (ht : e.TableKeyed K) : e.compactLocked.1.FileKeyed K := by
  unfold compactLocked
  split
  · exact h
  · rename_i j hj
    split
    · exact h.of_same ⟨rfl, rfl, rfl⟩
    · rename_i records hencode
      obtain ⟨old, hheld, -⟩ := h.handle j hj
      have hrewritten : Journal.Holds { limits := e.config.limits } (j.rewrite records e.epoch e.openedAt).1 records :=
        Journal.holds_rewrite hheld
      have hinscribed := inscribed_encodeState hencode ht.persisted
      split
      all_goals
        rename_i hr
        rw [hr] at hrewritten
        refine h.of_handle rfl rfl fun k hk => ?_
        cases hk
        exact ⟨records, hrewritten, hinscribed⟩

theorem FileKeyed.appendObservation (h : e.FileKeyed K) (ht : e.TableKeyed K) (obs : Observation) :
    (e.appendObservation obs).1.FileKeyed K := by
  refine (appendObservation_rule (P := fun e' => e'.FileKeyed K ∧ e.SameTables e') ?_ ?_ ?_ ⟨h, .refl e⟩).1
  · rintro e' ⟨hfile, hsame⟩
    exact ⟨hfile.appendRecord fun _ => Record.inscribed_other nofun nofun, hsame.trans (sameTables_appendRecord e' _)⟩
  · rintro e' ⟨hfile, hsame⟩
    have htables := ht.of_tables hsame.sameState.sources hsame.sameState.flows
    exact ⟨hfile.compact htables, hsame.trans (sameTables_compactLocked e')⟩
  · rintro r p ⟨hfile, hsame⟩
    exact ⟨fileKeyed_recordAppended r hfile, hsame.trans (sameTables_recordAppended r p)⟩

theorem FileKeyed.appendSource (h : e.FileKeyed K) {d : SourceDescriptor}
    (hd : (e.appendSource d).2 = .ok () → K d.id d.canonicalKey) : (e.appendSource d).1.FileKeyed K := by
  have hfirst : (e.appendRecord ⟨.SourceDescriptor, writeSourceDescriptor d⟩).1.FileKeyed K :=
    h.appendRecord fun hok => Record.inscribed_source (hd ((appendSource_status e d).trans hok))
  simp only [Engine.appendSource]
  split
  · exact hfirst
  · exact hfirst.of_same ⟨rfl, rfl, rfl⟩

/-- **An observation writes no key**, but a compaction on its way does. -/
theorem FileKeyed.apply (h : e.FileKeyed K) (ht : e.TableKeyed K) (incoming : Observation) :
    (e.applyLocked incoming).1.FileKeyed K := by
  by_cases hr : e.replaying = true
  · exact h.of_same (sameFile_applyLocked hr incoming)
  · replace hr : e.replaying = false := Bool.eq_false_iff.2 hr
    have hreceived : e.received.FileKeyed K := h.of_same ⟨rfl, rfl, rfl⟩
    have happend := hreceived.appendObservation (ht.of_tables rfl rfl) (prepare e.instant incoming)
    cases hv : validateObservation e.config.limits incoming with
    | error err =>
      rw [applyLocked_invalid hv]
      exact hreceived.of_same ⟨rfl, rfl, rfl⟩
    | ok _ =>
      cases hj : (e.received.appendObservation (prepare e.instant incoming)).2 with
      | error err =>
        rw [applyLocked_unjournaled hv hr hj]
        exact happend.of_same ⟨rfl, rfl, rfl⟩
      | ok _ =>
        rw [applyLocked_journaled hv hr hj]
        exact happend.of_same (sameFile_applyJournaled _ _ _)

/-! ## Operations -/

/-- The table and the journal of the engine have keys that satisfy `K`. -/
structure Keyed (K : SourceId → Str → Prop) (e : Engine) : Prop where
  tables : e.TableKeyed K
  file : e.FileKeyed K

theorem Keyed.mono (h : e.Keyed K) (hk : ∀ id key, K id key → K' id key) :
    e.Keyed K' := ⟨h.tables.mono hk, h.file.mono hk⟩

/-- **Every operation but a registration** brings stand-ins at most. -/
theorem Keyed.step (hstand : ∀ id, K id (unregisteredKey id)) {op : Op} (hother : ∀ d, op ≠ .registerSource d)
    (h : e.Keyed K) :
    (e.step op).Keyed K := by
  refine unregistered_rule (R := fun e e' => e.Keyed K → e'.Keyed K) (fun hfile hstate h => ?_)
    (fun h h' hk => h' (h hk))
    (fun e atTime due h => ⟨h.tables.recompute atTime due, h.file.of_same ⟨rfl, rfl, rfl⟩⟩) (fun h => ?_)
    (fun p _ h => ⟨h.tables.apply hstand p.2, h.file.apply h.tables p.2⟩)
    (fun id s _ hs h => ⟨h.tables.drop hs, h.file.of_same ⟨rfl, rfl, rfl⟩⟩) (fun _ h => ?_) hother h
  · exact ⟨h.tables.of_tables hstate.sources hstate.flows, h.file.of_same hfile⟩
  · refine ⟨h.tables.of_tables rfl rfl, h.file.of_handle rfl rfl fun j hj => ?_⟩
    obtain ⟨k, hk, rfl⟩ := Option.map_eq_some_iff.1 hj
    obtain ⟨records, hheld, hr⟩ := h.file.handle k hk
    exact ⟨records, Journal.holds_flush hheld, hr⟩
  · have hsame := (sameTables_compactLocked e).sameState
    exact ⟨h.tables.of_tables hsame.sources hsame.flows, h.file.compact h.tables⟩

/-- **A registration** brings the key of its descriptor, when it succeeds. -/
theorem Keyed.register (h : e.Keyed K) {d : SourceDescriptor}
    (hd : (e.registerSource d).2 = .ok () → K d.id d.canonicalKey) :
    (e.registerSource d).1.Keyed K := by
  have hsame := (sameTables_appendSource e d).sameState
  have htables := h.tables.of_tables hsame.sources hsame.flows
  have hcases := registerSource_cases e d
  generalize e.registerSource d = result at hcases hd ⊢
  cases hcases with
  | known => exact ⟨h.tables.set (hd rfl), h.file.of_same ⟨rfl, rfl, rfl⟩⟩
  | unjournaled e₁ err _ hj =>
    have hfile := h.file.appendSource (d := d) fun hok => by
      rw [hj] at hok
      cases hok
    rw [hj] at htables hfile
    exact ⟨htables, hfile⟩
  | fresh e₁ _ _ _ hj =>
    have hfile := h.file.appendSource (d := d) fun _ => hd rfl
    rw [hj] at htables hfile
    exact ⟨htables.set (hd rfl), hfile.of_same ⟨rfl, rfl, rfl⟩⟩
  | _ => exact h

/-! ## Files -/

/-- The payloads of the records that are left on disk fit their length fields. -/
def Framed (e : Engine) : Prop := ∀ records, e.LeavesRecords records → ∀ r ∈ records, r.payload.length < 2 ^ 32

/-- They do when the file is shorter than a length field can say. -/
theorem framed_of_short (h : ∀ bytes, e.disk = some bytes → bytes.length < 2 ^ 32) : e.Framed := by
  rintro records (⟨-, rfl⟩ | ⟨head, -, -, hdisk⟩) r hr
  · cases hr
  · have hlength := h _ hdisk
    obtain ⟨front, back, rfl⟩ := List.append_of_mem hr
    rw [List.length_append, length_encodeRecords, List.map_append, List.map_cons, List.sum_append, List.sum_cons,
      Record.size]
      at hlength
    omega

/-- What is read on opening was read from the journal. -/
theorem openReads_attached {result : ReplayResult} (h : e.openReads = some result) : ∃ read records previous,
    e.attached = some (read, records, previous) ∧ replayRecords records e.config.limits e.config.recovery =
    .ok result := by
  unfold openReads at h
  unfold attached
  split at h
  · cases h
  · cases hfile : Journal.openFile e.config.journalPath (journalFile e.journal e.disk)
        { limits := e.config.limits, recovery := e.config.recovery } with
    | error err => simp [hfile] at h
    | ok j =>
      simp only [hfile] at h ⊢
      rcases hread : ((replaceJournal e.journal j).setEpoch ⟨j.header.runtimeEpoch.value + 1⟩ e.now).readAll with
        ⟨k, err | records⟩
      · simp [hread] at h
      · simp only [hread] at h ⊢
        refine ⟨_, records, _, rfl, ?_⟩
        split at h
        · unfold restoreReads at h
          split at h
          · cases h
          · rename_i result' hreplay
            split at h
            · cases h
            · cases h
              exact hreplay
        · cases h

/-- **Opening what was left** brings no key that was not written. -/
theorem Keyed.opened (hstand : ∀ id, K id (unregisteredKey id)) (ht : e.TableKeyed K) (hnone : e.flows = ∅)
    (hj : e.journal = none) (hd : ∃ records, e.LeavesRecords records ∧ ∀ r ∈ records, r.Inscribed e.config.limits K)
    (hframed : e.Framed) (h : e.openEngine.2 = .ok ()) : e.openEngine.1.Keyed K := by
  obtain ⟨written, hleft, hinscribed⟩ := hd
  refine ⟨?_, ?_⟩
  · refine open_rule (P := TableKeyed K) (fun e e' ha h => h.of_tables ha.sources ha.flows)
      (fun e obs h (_ : True) => h.apply hstand obs) (fun e atTime due h => h.recompute atTime due) ht
      (fun e' previous ha result hresult => ?_) (fun _ _ => trivial)
    obtain ⟨read, records, _, hattached, hreplay⟩ := openReads_attached hresult
    obtain ⟨rfl, -⟩ := attached_holds hj hleft (hframed written hleft) hattached
    have hkeyed := replayRecords_keyed hreplay fun r hr => hinscribed r hr (hframed _ hleft r hr)
    exact (ht.of_tables ha.sources ha.flows).rebuilt (ha.flows.trans hnone) hkeyed previous
  · have hclosed : e.FileKeyed K := ⟨fun j hj' => absurd (hj.symm.trans hj') (by simp), written, hleft, hinscribed⟩
    by_cases hpath : e.config.journalPath.isEmpty = true
    · have hsame : e.SameFile e.openEngine.1 := by
        unfold openEngine
        split
        · exact ⟨rfl, rfl, rfl⟩
        · split
          · exact ⟨rfl, rfl, rfl⟩
          · simp only [openJournalLocked, hpath, if_true]
            exact ⟨rfl, rfl, rfl⟩
      exact hclosed.of_same hsame
    · obtain ⟨read, records, previous, e₁, hattached, hrestored, hopened⟩ :=
        openEngine_attached (by simpa using hpath) h
      obtain ⟨rfl, ⟨k, hk, hheld⟩, hdisk, hconfig, -, -⟩ := attached_holds hj hleft (hframed written hleft) hattached
      have hread : read.FileKeyed K := by
        refine hclosed.of_handle hconfig hdisk fun j hj' => ?_
        rw [hk] at hj'
        cases hj'
        exact ⟨records, hheld, hinscribed⟩
      have hdone : e₁.FileKeyed K := by
        split at hrestored
        · have hsame := sameFile_restoreLocked read records previous
          rw [hrestored] at hsame
          exact hread.of_same hsame
        · cases hrestored
          exact hread
      rw [hopened]
      refine FileKeyed.of_same (e := { e₁ with journal := e₁.journal.map (·.flush.1) }) ?_ ⟨rfl, rfl, rfl⟩
      refine hdone.of_handle rfl rfl fun j hj' => ?_
      obtain ⟨k', hk', rfl⟩ := Option.map_eq_some_iff.1 hj'
      obtain ⟨records', hheld', hr'⟩ := hdone.handle k' hk'
      exact ⟨records', Journal.holds_flush hheld', hr'⟩

/-- **Closing** leaves the keys of the journal on disk. -/
theorem FileKeyed.close (h : e.FileKeyed K) :
    ∃ records, e.close.LeavesRecords records ∧ ∀ r ∈ records, r.Inscribed e.close.config.limits K := by
  rw [close_config]
  unfold Engine.close
  split
  · exact h.disk
  · cases hj : e.journal with
    | none => exact h.disk
    | some j =>
      obtain ⟨records, hheld, hr⟩ := h.handle j hj
      obtain ⟨head, hv, hs, hbytes⟩ := (Journal.holds_close (Journal.holds_flush hheld)).disk
      exact ⟨records, .inr ⟨head, hv, hs, congrArg some hbytes⟩, hr⟩

/-- **Loading a snapshot** whose keys satisfy `K`. -/
theorem Keyed.loaded (hstand : ∀ id, K id (unregisteredKey id)) (h : e.Keyed K) (path : Str)
    (existing : Option (List UInt8))
    (hreads : ∀ result ∈ e.loadReads path existing, result.state.Keyed K) :
    (e.loadSnapshot path existing).1.Keyed K := by
  have hcleared : ({ e with flows := ∅, registries := {} } : Engine).TableKeyed K :=
    ⟨h.tables.table, fun id f hf => (by cases hf)⟩
  refine ⟨?_, ?_⟩
  · exact load_rule (P := TableKeyed K) (fun e e' ha h => h.of_tables ha.sources ha.flows)
      (fun e obs h (_ : True) => h.apply hstand obs) (fun e atTime due h => h.recompute atTime due) h.tables path
        existing hcleared
      (fun previous result hresult => hcleared.rebuilt rfl (hreads result hresult) previous) (fun _ _ => trivial)
  · refine h.file.of_same ?_
    unfold loadSnapshot
    split
    · exact ⟨rfl, rfl, rfl⟩
    · split
      · exact ⟨rfl, rfl, rfl⟩
      · rename_i records _
        have hsame : e.SameFile { e with flows := ∅, registries := {} } := ⟨rfl, rfl, rfl⟩
        exact hsame.trans (sameFile_restoreLocked { e with flows := ∅, registries := {} } records e.epoch)

end Keyed

/-! ## Runs -/

/-- The key that a valid observation supplies for its source, if it carries one. -/
def suppliedBy (limits : Limits) (obs : Observation) : Option (SourceId × Str) :=
  if (validateObservation limits obs).isOk && !obs.sourceKey.isEmpty then some (obs.key.source, obs.sourceKey) else none

/-- The keys that an operation supplies: that of a descriptor it registers, and those of the observations it applies. -/
def supplies (e : Engine) (op : Op) : List (SourceId × Str) :=
  (e.registrations [op]).map (fun d => (d.id, d.canonicalKey))
    ++ (e.applications op).filterMap (fun p => suppliedBy p.1.config.limits p.2)

/-- The key was supplied for the source, or is its stand-in. -/
def Accounted (given : List (SourceId × Str)) (id : SourceId) (key : Str) : Prop :=
  key = unregisteredKey id ∨ (id, key) ∈ given

/-- The states of an engine with the keys that were supplied so far: opened on no file, in use, closed and opened
again on what it left there, or given a snapshot that has no other keys. -/
inductive SuppliedWith : Engine → List (SourceId × Str) → Prop
  | opened (config : EngineConfig) (clock : Timestamp)
    (h : ({ config := config, clock := clock } : Engine).openEngine.2 = .ok ()) :
    SuppliedWith ({ config := config, clock := clock } : Engine).openEngine.1 []
  | step {e : Engine} {given : List (SourceId × Str)} (h : SuppliedWith e given) (op : Op) :
    SuppliedWith (e.step op) (given ++ e.supplies op)
  | reopened {e : Engine} {given : List (SourceId × Str)} (h : SuppliedWith e given)
    (ho : e.close.openEngine.2 = .ok ())
    (hframed : e.close.Framed) : SuppliedWith e.close.openEngine.1 given
  | loaded {e : Engine} {given : List (SourceId × Str)} (h : SuppliedWith e given) (path : Str)
    (existing : Option (List UInt8))
    (hreads : ∀ result ∈ e.loadReads path existing, result.state.Keyed (Accounted given)) :
    SuppliedWith (e.loadSnapshot path existing).1 given

/-- The table holds the stand-in for the source. -/
def StandsIn (e : Engine) (id : SourceId) : Prop :=
  ∃ s, e.sources.find? id = some s ∧ s.descriptor.canonicalKey = unregisteredKey id

section Runs

variable {e : Engine} {given : List (SourceId × Str)} {d : SourceDescriptor}

theorem SuppliedWith.reachedBy (h : e.SuppliedWith given) : e.ReachedBy (fun _ _ => True) (fun _ _ => True) := by
  induction h with
  | opened config clock h => exact .opened config clock none h (fun _ _ => trivial)
  | step _ op ih => exact .step ih op (fun _ _ => trivial) (fun _ _ => trivial)
  | reopened _ ho _ ih => exact .reopened ih ho (fun _ _ => trivial)
  | loaded _ path existing _ ih => exact .loaded ih path existing (fun _ _ => trivial)

theorem SuppliedWith.next (h : e.SuppliedWith given) (op : Op) {given' : List (SourceId × Str)}
    (hgiven : given ++ e.supplies op = given') : (e.step op).SuppliedWith given' := hgiven ▸ .step h op

/-- **Every key that is kept was supplied** for its source, or is its stand-in. -/
theorem SuppliedWith.keyed (h : e.SuppliedWith given) : e.Keyed (Accounted given) := by
  have hstand : ∀ given id, Accounted given id (unregisteredKey id) := fun _ _ => .inl rfl
  have hempty : ∀ e : Engine, e.sources = ∅ → e.flows = ∅ → ∀ given, e.TableKeyed (Accounted given) := by
    intro e hs hf given
    refine ⟨?_, fun id f hid => ?_⟩
    · rw [hs]
      exact fun _ h => nomatch h
    · rw [hf] at hid
      cases hid
  induction h with
  | opened config clock h =>
    have hframed : ({ config := config, clock := clock } : Engine).Framed := framed_of_short fun _ hb => nomatch hb
    exact Keyed.opened (hstand _) (hempty _ rfl rfl _) rfl rfl ⟨[], .inl ⟨rfl, rfl⟩, fun _ h => nomatch h⟩ hframed h
  | @step e given _ op ih =>
    have hmore : e.Keyed (Accounted (given ++ e.supplies op)) :=
      ih.mono fun _ _ h => h.imp_right (List.mem_append_left _)
    by_cases hother : ∀ d, op ≠ .registerSource d
    · exact hmore.step (hstand _) hother
    · obtain ⟨d, rfl⟩ : ∃ d, op = .registerSource d := by simpa using hother
      refine hmore.register fun hok => .inr (List.mem_append_right _ (List.mem_append_left _ ?_))
      rw [registrations_register, hok]
      exact List.mem_cons_self
  | @reopened e given h ho hframed ih =>
    have hclosed : e.close.sources = ∅ ∧ e.close.flows = ∅ ∧ e.close.journal = none := by
      unfold close
      rw [h.reachedBy.isOpen]
      exact ⟨rfl, rfl, rfl⟩
    exact Keyed.opened (hstand _) (hempty _ hclosed.1 hclosed.2.1 _) hclosed.2.1 hclosed.2.2 ih.file.close hframed ho
  | loaded _ path existing hreads ih => exact ih.loaded (hstand _) path existing hreads

/-- The journal answers a descriptor that it does not take with no conflict. -/
theorem appendSource_code {err : Error} (h : (e.appendSource d).2 = .error err) : err.code ≠ .EvidenceConflict := by
  have hrecord := (appendSource_status e d).symm.trans h
  unfold appendRecord at hrecord
  split at hrecord
  · cases hrecord
  · rename_i j _
    rcases Journal.append_code hrecord with hcode | ⟨hcode, -⟩
    all_goals
      rw [hcode]
      exact nofun

/-- A valid registration with a running engine is refused for a conflict exactly when the table has another key. -/
theorem conflict_iff (hd : checkDescriptor e.config.limits d = .ok ()) (hf : e.frozen = false) :
    (∃ err, (e.registerSource d).2 = .error err ∧ err.code = .EvidenceConflict) ↔
      ∃ s, e.sources.find? d.id = some s ∧ s.descriptor.canonicalKey ≠ d.canonicalKey := by
  have hcases := registerSource_cases e d
  generalize e.registerSource d = result at hcases ⊢
  cases hcases with
  | invalid err herr => cases hd.symm.trans herr
  | frozen hfrozen => cases hf.symm.trans hfrozen
  | collision s hs hkey => exact ⟨fun _ => ⟨s, hs, hkey⟩, fun _ => ⟨_, rfl, rfl⟩⟩
  | known s _ _ hs hkey =>
    refine ⟨fun ⟨_, h, _⟩ => (by cases h), ?_⟩
    rintro ⟨s', hs', hne⟩
    cases hs.symm.trans hs'
    exact absurd hkey hne
  | full hs =>
    refine ⟨?_, fun ⟨_, hs', _⟩ => (by cases hs.symm.trans hs')⟩
    rintro ⟨_, ⟨⟩, hcode⟩
    cases hcode
  | unjournaled e₁ err hs hj =>
    refine ⟨?_, fun ⟨_, hs', _⟩ => (by cases hs.symm.trans hs')⟩
    rintro ⟨_, ⟨⟩, hcode⟩
    exact absurd hcode (appendSource_code (congrArg Prod.snd hj))
  | fresh e₁ _ hs => exact ⟨fun ⟨_, h, _⟩ => (by cases h), fun ⟨_, hs', _⟩ => (by cases hs.symm.trans hs')⟩

/-- **A source can claim its identity** in every state of a run, unless another key was supplied for it, exactly when
no stand-in with a key of its own is in the way. -/
theorem registration_conflicts_iff (h : e.SuppliedWith given) (hd : checkDescriptor e.config.limits d = .ok ())
    (hf : e.frozen = false) :
    (∀ err, (e.registerSource d).2 = .error err → err.code = .EvidenceConflict →
        ∃ key, key ≠ d.canonicalKey ∧ (d.id, key) ∈ given) ↔
      (e.StandsIn d.id → d.canonicalKey = unregisteredKey d.id ∨ ∃ key, key ≠ d.canonicalKey ∧
        (d.id, key) ∈ given) := by
  have hconflict := conflict_iff hd hf
  constructor
  · rintro hsupplied ⟨s, hs, hstand⟩
    by_cases hkey : d.canonicalKey = unregisteredKey d.id
    · exact .inl hkey
    · obtain ⟨err, herr, hcode⟩ := hconflict.2 ⟨s, hs, fun he => hkey (he.symm.trans hstand)⟩
      exact .inr (hsupplied err herr hcode)
  · intro hclear err herr hcode
    obtain ⟨s, hs, hne⟩ := hconflict.1 ⟨err, herr, hcode⟩
    have haccounted := h.keyed.tables.table s (SortedVec.find?_mem hs)
    rw [SortedVec.find?_key hs] at haccounted
    rcases haccounted with hstand | hgiven
    · rcases hclear ⟨s, hs, hstand⟩ with hkey | hother
      · exact absurd (hstand.trans hkey.symm) hne
      · exact hother
    · exact ⟨_, hne, hgiven⟩

end Runs

/-! ## A source that is registered twice, and one that reports first -/

/-- A journaled engine with the source `a`, after a restart. -/
def remembering : Engine := (recording.step (.registerSource closer)).close.openEngine.1

set_option maxRecDepth 1000000 in
theorem registration_conflicts_remembering : ¬ remembering.StandsIn closer.id ∧
    ∀ err, (remembering.registerSource closer).2 = .error err → err.code = .EvidenceConflict →
      ∃ key, key ≠ closer.canonicalKey ∧ (closer.id, key) ∈ [(closer.id, closer.canonicalKey)] := by
  have hrecording : recording.SuppliedWith [] :=
    .opened { journalPath := str "j" } ⟨1000⟩ (opens_new_iff.2 (EngineConfig.validate_default _))
  have hregistered : (recording.step (.registerSource closer)).SuppliedWith [(closer.id, closer.canonicalKey)] :=
    hrecording.next _ (by with_unfolding_all decide)
  have hshort : (recording.step (.registerSource closer)).close.disk.all
      (fun bytes => decide (bytes.length < 2 ^ 32)) = true := by
    with_unfolding_all decide
  have hframed : (recording.step (.registerSource closer)).close.Framed := by
    refine framed_of_short fun bytes hb => ?_
    rw [hb] at hshort
    exact of_decide_eq_true hshort
  have hnone : (remembering.sources.find? closer.id).any (fun s =>
      s.descriptor.canonicalKey == unregisteredKey closer.id) = false := by
    decide +kernel
  have habsent : ¬ remembering.StandsIn closer.id := by
    rintro ⟨s, hs, hkey⟩
    rw [hs, Option.any_some, hkey, beq_self_eq_true] at hnone
    cases hnone
  exact ⟨habsent, (registration_conflicts_iff (.reopened hregistered (by decide +kernel) hframed) (by decide +kernel)
    (by decide +kernel)).2 fun hs => absurd hs habsent⟩

/-- An engine to which the source `a` reported under its key before it was registered. -/
def announced : Engine :=
  ({ clock := ⟨1000⟩ } : Engine).openEngine.1.step
    (.ingest { sampleObservation closer.id .Sample 1 ⟨900⟩ with sourceKey := closer.canonicalKey })

/-- **A source that reported before it was registered is refused its own identity**, though no other key was ever
supplied. -/
theorem registration_can_be_blocked : ¬ ∀ (e : Engine) (given : List (SourceId × Str)) (d : SourceDescriptor),
    e.SuppliedWith given → checkDescriptor e.config.limits d = .ok () → e.frozen = false →
    ∀ err, (e.registerSource d).2 = .error err → err.code = .EvidenceConflict →
      ∃ key, key ≠ d.canonicalKey ∧ (d.id, key) ∈ given := by
  intro h
  have hopened : ({ clock := ⟨1000⟩ } : Engine).openEngine.1.SuppliedWith [] := .opened {} ⟨1000⟩ reported_opened
  have hrun : announced.SuppliedWith [(closer.id, closer.canonicalKey)] := hopened.next _ (by with_unfolding_all decide)
  obtain ⟨key, hne, hgiven⟩ := h announced _ closer hrun (by with_unfolding_all decide) (by with_unfolding_all decide)
    ⟨.EvidenceConflict, str "source identity collision: two keys map to the same source identity"⟩
      (by with_unfolding_all decide) rfl
  rw [List.mem_singleton, Prod.mk.injEq] at hgiven
  exact hne hgiven.2

end Engine

end FlowObs
