import FlowObs.Engine.Journaled
import FlowObs.Engine.Authority
import FlowObs.Persist.Log

/-!
# What a restart remembers of the sources

The journal of an engine that is never compacted is a log (`Logs`): every operation adds observations to it, and
registering an unknown source its descriptor (`logs_step`). Registering a known source again adds nothing. So a
restart brings back the descriptors that were last registered, and the states that they imply, when each registration
of a known source repeats the last one (`Repeats`, `registrations_durable`), and not otherwise
(`registration_forgotten`).
-/

namespace FlowObs

namespace Engine

/-! ## The log -/

/-- The file of the journal holds the log, and every record of it is within the payload bound. -/
structure Logs (e : Engine) (log : List LogEntry) : Prop where
  file : ∃ j, e.journal = some j ∧ Journal.Holds { limits := e.config.limits } j (log.map LogEntry.record)
  bounded : ∀ entry ∈ log, entry.record.payload.length ≤ maxPayload e.config.limits

variable {e e' e'' : Engine} {log : List LogEntry}

theorem Logs.of_same (h : e.Logs log) (hs : e.SameFile e') : e'.Logs log := by
  obtain ⟨j, hj, hheld⟩ := h.file
  refine ⟨⟨j, hs.journal.trans hj, ?_⟩, ?_⟩
  · rw [hs.config]
    exact hheld
  · rw [hs.config]
    exact h.bounded

/-- The journal of `e'` has the entries of that of `e`, and observations after them. -/
def Extends (e e' : Engine) : Prop := ∀ log, e.Logs log → ∃ more, declared more = [] ∧ e'.Logs (log ++ more)

theorem Extends.of_same (h : e.SameFile e') : e.Extends e' := fun log hlog =>
  ⟨[], rfl, by rw [List.append_nil]; exact hlog.of_same h⟩

/-- Observations that are added to a log, and then more. -/
theorem more_trans {P Q R : List LogEntry → Prop} (h : ∀ log, P log → ∃ more, declared more = [] ∧ Q (log ++ more))
    (h' : ∀ log, Q log → ∃ more, declared more = [] ∧ R (log ++ more)) :
    ∀ log, P log → ∃ more, declared more = [] ∧ R (log ++ more) := by
  intro log hlog
  obtain ⟨more, hmore, hlog⟩ := h log hlog
  obtain ⟨more', hmore', hlog⟩ := h' _ hlog
  refine ⟨more ++ more', ?_, ?_⟩
  · rw [declared_append, hmore, hmore']
    rfl
  · rwa [← List.append_assoc]

theorem Extends.trans (h : e.Extends e') (h' : e'.Extends e'') : e.Extends e'' := more_trans h h'

/-- An append adds its record, or it fails and changes nothing. -/
theorem logs_appendRecord (h : e.Logs log) (entry : LogEntry) :
    (e.appendRecord entry.record).2 = .ok () ∧ (e.appendRecord entry.record).1.Logs (log ++ [entry]) ∨
      ∃ err, (e.appendRecord entry.record).2 = .error err ∧ (e.appendRecord entry.record).1 = e := by
  obtain ⟨j, hj, hheld⟩ := h.file
  have happend : e.appendRecord entry.record
      = ({ e with journal := some (j.append [entry.record]).1 }, (j.append [entry.record]).2) := by
    rw [appendRecord, hj]
  rw [happend]
  cases hr : (j.append [entry.record]).2 with
  | ok _ =>
    refine .inl ⟨rfl, ⟨_, rfl, ?_⟩, fun x hx => ?_⟩
    · have hmore := Journal.holds_append hheld hr
      rwa [List.map_append]
    · rcases List.mem_append.1 hx with hx | hx
      · exact h.bounded x hx
      · have hpayload := Journal.append_ok_payload hr
        rw [hheld.bounds] at hpayload
        exact List.mem_singleton.1 hx ▸ hpayload
  | error err =>
    refine .inr ⟨err, rfl, ?_⟩
    rw [Journal.append_error hr, ← hj]

/-- A compaction that succeeds is counted in the snapshot sequence, and one that fails changes nothing of the journal.
-/
theorem compactLocked_counted (h : e.Logs log) (hseq : e.compactLocked.1.snapshotSequence = e.snapshotSequence) :
    e.SameFile e.compactLocked.1 ∧ e.compactLocked.2.isOk = false := by
  obtain ⟨j, hj, hheld⟩ := h.file
  unfold compactLocked at hseq ⊢
  simp only [hj] at hseq ⊢
  split
  · exact ⟨⟨rfl, hj.symm ▸ rfl, rfl⟩, rfl⟩
  · rename_i records hencode
    have hwritable : ¬ j.readOnly = true := by
      rw [hheld.writable]
      exact Bool.false_ne_true
    simp only [hencode, Journal.rewrite, if_neg hwritable, count] at hseq
    have hnext : e.snapshotSequence + 1 ≠ e.snapshotSequence := by simp
    exact absurd hseq hnext

theorem sameFile_recordAppended (r : Record) (p : Engine × Except Error Unit) :
    p.1.SameFile (recordAppended r p).1 := by
  obtain ⟨e, status⟩ := p
  cases status <;> exact ⟨rfl, rfl, rfl⟩

theorem recordAppended_sequence (r : Record) (p : Engine × Except Error Unit) :
    (recordAppended r p).1.snapshotSequence = p.1.snapshotSequence := by
  obtain ⟨e, status⟩ := p
  cases status <;> rfl

theorem appendRecord_sequence (e : Engine) (r : Record) :
    (e.appendRecord r).1.snapshotSequence = e.snapshotSequence := by
  unfold appendRecord
  split <;> rfl

/-- **Journalling an observation** adds it to the log, or it fails and changes nothing of it. -/
theorem logs_appendObservation {obs : Observation}
    (hseq : (e.appendObservation obs).1.snapshotSequence = e.snapshotSequence) (hlog : e.Logs log) :
    (e.appendObservation obs).2 = .ok () ∧ (e.appendObservation obs).1.Logs (log ++ [.observation obs]) ∨
      (e.appendObservation obs).2.isOk = false ∧ (e.appendObservation obs).1.Logs log := by
  obtain ⟨j, hj, -⟩ := hlog.file
  have hsome : e.journal.isNone = false := by
    rw [hj]
    rfl
  simp only [appendObservation, hsome, Bool.false_eq_true, if_false] at hseq ⊢
  rcases logs_appendRecord hlog (.observation obs) with ⟨hok, hmore⟩ | ⟨err, herr, hsame⟩
  · rw [LogEntry.record] at hok hmore
    rw [if_neg (by rw [hok]; exact Bool.false_ne_true)]
    refine .inl ⟨?_, hmore.of_same (sameFile_recordAppended _ _)⟩
    generalize e.appendRecord ⟨.ObservationRecord, encodeObservation obs⟩ = p at hok
    obtain ⟨e', status⟩ := p
    cases hok
    rfl
  · right
    rw [LogEntry.record] at herr hsame
    rw [hsame] at hseq ⊢
    split at hseq
    · rename_i hlimit
      rw [if_pos hlimit]
      split at hseq
      · rename_i hcompacted
        rw [recordAppended_sequence, appendRecord_sequence] at hseq
        rw [(compactLocked_counted hlog hseq).2] at hcompacted
        cases hcompacted
      · rename_i hfailed
        rw [if_neg hfailed]
        obtain ⟨hfile, hstatus⟩ := compactLocked_counted hlog hseq
        exact ⟨hstatus, hlog.of_same hfile⟩
    · rename_i hlimit
      rw [if_neg hlimit]
      have hfirst := sameFile_recordAppended ⟨.ObservationRecord, encodeObservation obs⟩
        (e.appendRecord ⟨.ObservationRecord, encodeObservation obs⟩)
      rw [hsame] at hfirst
      refine ⟨?_, hlog.of_same hfirst⟩
      generalize e.appendRecord ⟨.ObservationRecord, encodeObservation obs⟩ = p at herr
      obtain ⟨e', status⟩ := p
      cases herr
      rfl

theorem extends_appendObservation {obs : Observation}
    (hseq : (e.appendObservation obs).1.snapshotSequence = e.snapshotSequence) : e.Extends
      (e.appendObservation obs).1 := by
  intro log hlog
  rcases logs_appendObservation hseq hlog with ⟨-, hmore⟩ | ⟨-, hsame⟩
  · exact ⟨[.observation obs], rfl, hmore⟩
  · exact ⟨[], rfl, by rwa [List.append_nil]⟩

/-- **Applying an observation** adds it to the log at most. -/
theorem extends_applyLocked {incoming : Observation}
    (hseq : (e.applyLocked incoming).1.snapshotSequence = e.snapshotSequence) : e.Extends
      (e.applyLocked incoming).1 := by
  have hreceived : e.Extends e.received := Extends.of_same ⟨rfl, rfl, rfl⟩
  cases hv : validateObservation e.config.limits incoming with
  | error err =>
    rw [applyLocked_invalid hv]
    exact Extends.of_same ⟨rfl, rfl, rfl⟩
  | ok _ =>
    by_cases hr : e.replaying = true
    · exact Extends.of_same (sameFile_applyLocked hr incoming)
    · replace hr : e.replaying = false := Bool.eq_false_iff.2 hr
      cases hj : (e.received.appendObservation (prepare e.instant incoming)).2 with
      | error err =>
        rw [applyLocked_unjournaled hv hr hj] at hseq ⊢
        exact hreceived.trans ((extends_appendObservation hseq).trans (Extends.of_same ⟨rfl, rfl, rfl⟩))
      | ok _ =>
        rw [applyLocked_journaled hv hr hj] at hseq ⊢
        have hframe := applyJournaled_frame (·.snapshotSequence) (fun _ _ _ _ _ => rfl)
          (e.received.appendObservation (prepare e.instant incoming)).1 e.instant (prepare e.instant incoming)
        have happend := extends_appendObservation (hframe.symm.trans hseq)
        exact hreceived.trans (happend.trans (Extends.of_same (sameFile_applyJournaled _ _ _)))

/-! ## Operations -/

section Rule

variable {R : Engine → Engine → Prop}

theorem batch_relates (hrefl : ∀ e, R e e) (htrans : ∀ {e₁ e₂ e₃}, R e₁ e₂ → R e₂ e₃ → R e₁ e₃) :
    ∀ {batch : List Observation} {e : Engine}, (∀ p ∈ e.batchApplications batch, R p.1 (p.1.applyLocked p.2).1) →
      R e (batch.foldl (fun (e : Engine) obs => (e.applyLocked obs).1) e)
  | [], e, _ => hrefl e
  | obs :: batch, e, h => by
    have hrest : R (e.applyLocked obs).1
        (batch.foldl (fun (e : Engine) obs => (e.applyLocked obs).1) (e.applyLocked obs).1) :=
      batch_relates hrefl htrans (fun p hp => h p (List.mem_cons_of_mem _ hp))
    exact htrans (h (e, obs) List.mem_cons_self) hrest

/-- **The rule for an operation that registers no source**: what relates the states before and after an observation, a
recomputation, a flush, a compaction and the loss of a retired source's evidence. -/
theorem unregistered_rule (hsame : ∀ {e e' : Engine}, e.SameFile e' → e.SameState e' → R e e')
    (htrans : ∀ {e₁ e₂ e₃}, R e₁ e₂ → R e₂ e₃ → R e₁ e₃) (hrecompute : ∀ e atTime due, R e (e.recomputeAll atTime due))
    (hflush : R e e.flush) {op : Op} (happly : ∀ p ∈ e.applications op, R p.1 (p.1.applyLocked p.2).1)
    (hretire : ∀ id s, op = .retireSource id → e.sources.find? id = some s → R e (e.dropped s id))
    (hcompact : op = .compact → R e e.compactLocked.1) (hother : ∀ d, op ≠ .registerSource d) : R e (e.step op) := by
  have hrefl : ∀ e, R e e := fun e => hsame ⟨rfl, rfl, rfl⟩ (.refl e)
  have hcounted : ∀ (e : Engine) (batch : List Observation),
  R (batch.foldl (fun (e : Engine) obs => (e.applyLocked obs).1) e)
      (e.applyBatch batch) := fun _ _ => hsame ⟨rfl, rfl, rfl⟩ ⟨rfl, rfl, rfl, rfl, rfl, rfl⟩
  cases op with
  | ingest obs =>
    show R e (e.ingest obs).1
    rcases ingest_cases e obs with ⟨-, he⟩ | ⟨happs, he⟩
    · exact he.symm ▸ hrefl e
    · exact he.symm ▸ happly (e, obs) (happs ▸ List.mem_singleton_self _)
  | submit obs =>
    rcases submit_cases e obs with ⟨-, he⟩ | ⟨happs, he⟩
    · exact he.symm ▸ hrefl e
    · exact he.symm ▸ happly (e, e.prepareSubmit obs) (happs ▸ List.mem_singleton_self _)
  | enqueue obs =>
    simp only [step, enqueue]
    split
    · exact hrefl e
    · split
      · exact hrefl e
      · split <;> exact hsame ⟨rfl, rfl, rfl⟩ ⟨rfl, rfl, rfl, rfl, rfl, rfl⟩
  | drain n =>
    have hqueue : R e { e with queue := e.queue.drop n } := hsame ⟨rfl, rfl, rfl⟩ (sameState_taken e n)
    simp only [step, drain]
    split
    · exact hqueue
    · split
      · exact hqueue
      · rename_i hopen
        rw [applications, if_pos (by simpa using hopen)] at happly
        exact htrans hqueue (htrans (batch_relates hrefl htrans happly) (hcounted _ _))
  | work batch => exact htrans (batch_relates hrefl htrans happly) (hcounted _ _)
  | tick evaluatedAt =>
    simp only [step, tick]
    split
    · exact hrefl e
    · split
      · exact hrefl e
      · have hset : R e { e with evaluationOverride := evaluatedAt } :=
          hsame ⟨rfl, rfl, rfl⟩ ⟨rfl, rfl, rfl, rfl, rfl, rfl⟩
        refine htrans hset (htrans (hrecompute _ evaluatedAt tickDue) ?_)
        exact hsame ⟨rfl, rfl, rfl⟩ (sameState_tickLocked e evaluatedAt)
  | registerSource d => exact absurd rfl (hother d)
  | retireSource id =>
    simp only [step, retireSource]
    split
    · exact hrefl e
    · rename_i s hs
      exact htrans (hretire id s rfl hs) (hrecompute (e.dropped s id) _ _)
  | compact => exact hcompact rfl
  | flush => exact hflush
  | freeze => exact hsame ⟨rfl, rfl, rfl⟩ ⟨rfl, rfl, rfl, rfl, rfl, rfl⟩
  | advance clock => exact hsame ⟨rfl, rfl, rfl⟩ ⟨rfl, rfl, rfl, rfl, rfl, rfl⟩

end Rule

/-- The operation does not compact the journal. -/
structure Uncompacted (e : Engine) (op : Op) : Prop where
  applied : ∀ p ∈ e.applications op, (p.1.applyLocked p.2).1.snapshotSequence = p.1.snapshotSequence
  asked : op = .compact → (e.step .compact).snapshotSequence = e.snapshotSequence

theorem logs_flush (h : e.Logs log) : e.flush.Logs log := by
  obtain ⟨j, hj, hheld⟩ := h.file
  refine ⟨⟨j.flush.1, ?_, Journal.holds_flush hheld⟩, h.bounded⟩
  show e.journal.map (·.flush.1) = some j.flush.1
  rw [hj]
  rfl

/-- **Every operation but a registration** adds observations to the log at most. -/
theorem extends_step {op : Op} (hop : e.Uncompacted op) (hother : ∀ d, op ≠ .registerSource d) :
    e.Extends (e.step op) := by
  refine unregistered_rule (R := Extends) (fun hfile _ => Extends.of_same hfile) (fun h h' => h.trans h')
    (fun _ _ _ => Extends.of_same ⟨rfl, rfl, rfl⟩) ?_ (fun p hp => extends_applyLocked (hop.applied p hp))
    (fun _ _ _ _ => Extends.of_same ⟨rfl, rfl, rfl⟩) ?_ hother
  · intro log hlog
    exact ⟨[], rfl, by rw [List.append_nil]; exact logs_flush hlog⟩
  · rintro rfl log hlog
    have hseq : e.compactLocked.1.snapshotSequence = e.snapshotSequence := hop.asked rfl
    exact Extends.of_same (compactLocked_counted hlog hseq).1 log hlog

/-- **What registering a source does**: it fails and changes neither the log nor the table, or it gives a known source
its descriptor and leaves the log, or it adds the descriptor of an unknown source to both. -/
theorem logs_register (h : e.Logs log) (d : SourceDescriptor) :
    (∃ err, (e.registerSource d).2 = .error err ∧ (e.registerSource d).1.Logs log ∧
      (e.registerSource d).1.sources = e.sources) ∨
    ((e.registerSource d).2 = .ok () ∧ ∃ s, s.id = d.id ∧ (e.registerSource d).1.sources = e.sources.set s ∧
      ((∃ known, e.sources.find? d.id = some known) ∧ (e.registerSource d).1.Logs log ∨
        e.sources.find? d.id = none ∧ d.canonicalKey.length ≤ e.config.limits.maxKeyBytes.toNat ∧
          (e.registerSource d).1.Logs (log ++ [.source d]))) := by
  have hsources := (sameTables_appendSource e d).sameState.sources
  have hstatus := appendSource_status e d
  have happend := logs_appendRecord h (.source d)
  simp only [LogEntry.record] at happend
  have hcases := registerSource_cases e d
  generalize e.registerSource d = result at hcases ⊢
  cases hcases with
  | known s _ _ hs =>
    exact .inr ⟨rfl, { s with descriptor := d, retired := false }, rfl, rfl, .inl ⟨⟨s, hs⟩, h.of_same ⟨rfl, rfl, rfl⟩⟩⟩
  | unjournaled e₁ err _ hj =>
    rw [hj] at hsources
    rw [hj] at hstatus
    refine .inl ⟨err, rfl, ?_, hsources⟩
    rcases happend with ⟨hok, -⟩ | ⟨_, -, hsame⟩
    · cases hstatus.trans hok
    · have hfailed := appendSource_of_error (congrArg Prod.snd hj)
      rw [hj, hsame] at hfailed
      cases hfailed
      exact h.of_same ⟨rfl, rfl, rfl⟩
  | fresh e₁ hd hs _ hj =>
    rw [hj] at hsources
    have hlength : d.canonicalKey.length ≤ e.config.limits.maxKeyBytes.toNat := by
      simp only [checkDescriptor, require_bind_ok, decide_eq_true_eq] at hd
      exact hd.2.2.1
    refine .inr ⟨rfl, { descriptor := d, registeredAt := e₁.now }, rfl, ?_, .inr ⟨hs, hlength, ?_⟩⟩
    · rw [← hsources]
    · rcases happend with ⟨-, hmore⟩ | ⟨_, herr, -⟩
      · rw [← appendSource_of_ok (congrArg Prod.snd hj), hj] at hmore
        exact hmore.of_same ⟨rfl, rfl, rfl⟩
      · rw [hj] at hstatus
        cases hstatus.trans herr
  | _ => exact .inl ⟨_, rfl, h, rfl⟩

/-- A source stays in the table. -/
theorem known_step {id : SourceId} (op : Op) (h : (e.sources.find? id).isSome = true) :
    ((e.step op).sources.find? id).isSome = true := by
  have hset : ∀ (v : SourceTable) (s : SourceState), (v.find? id).isSome = true →
      ((v.set s).find? id).isSome = true := by
    intro v s hv
    rw [SortedVec.find?_set]
    split
    · rfl
    · exact hv
  refine step_rule (P := fun e => (e.sources.find? id).isSome = true) (fun e obs h (_ : True) => ?_) (fun _ _ _ h => h)
    (fun e s id' _ h => hset _ _ h) (fun e d s _ h => hset _ _ h) (fun e d s _ (_ : True) h => hset _ _ h)
    (fun e e' hsame h => by rw [hsame.sources]; exact h) h (fun _ _ => trivial) (fun _ _ => trivial)
  obtain ⟨s, hs⟩ := Option.isSome_iff_exists.1 h
  rw [keeps_applyLocked e obs hs]
  rfl

/-! ## Opening -/

/-- The engine that `open` goes on with when it has read its journal, with the records and the epoch before. -/
def attached (e : Engine) : Option (Engine × List Record × RuntimeEpoch) :=
  match Journal.openFile e.config.journalPath (journalFile e.journal e.disk)
      { limits := e.config.limits, recovery := e.config.recovery } with
  | .error _ => none
  | .ok j =>
    match ((replaceJournal e.journal j).setEpoch ⟨j.header.runtimeEpoch.value + 1⟩ e.now).readAll with
    | (_, .error _) => none
    | (k, .ok records) =>
      some ({ e with openedAt := e.now, journal := some k, epoch := ⟨j.header.runtimeEpoch.value + 1⟩ }, records,
        j.header.runtimeEpoch)

/-- What `open` would make of the observations in its journal if the journal had declared the descriptors `ds`, in
order. -/
def implied (e : Engine) (ds : List SourceDescriptor) : Engine :=
  match e.attached with
  | none => e
  | some (read, records, previous) =>
    match replayRecords records read.config.limits read.config.recovery with
    | .error _ => read
    | .ok result =>
      let r := (read.rebuiltFrom previous { result with state := { result.state with sources := ds } }).replayAll
        previous
        result.observations
      (r.recomputeAll r.now (fun _ => true)).tickLocked r.now

/-- Opening an engine with a journal, step by step. -/
theorem openEngine_attached (hpath : e.config.journalPath.isEmpty = false) (h : e.openEngine.2 = .ok ()) :
    ∃ read records previous e₁, e.attached = some (read, records, previous) ∧
      (if e.config.restoreOnOpen && !records.isEmpty then read.restoreLocked records previous else (read, .ok ()))
        = (e₁, .ok ()) ∧
      e.openEngine.1 = ({ e₁ with journal := e₁.journal.map (·.flush.1), frozen := false, isOpen := true } :
        Engine).tickLocked
        e₁.now := by
  have hvalid := validate_of_open h
  unfold openEngine at h ⊢
  simp only [hvalid] at h ⊢
  split at h
  · cases h
  · rename_i hclosed
    rw [if_neg hclosed]
    split at h
    · cases h
    · rename_i e₂ hj
      simp only [openJournalLocked, hpath, Bool.false_eq_true, if_false] at hj
      split at hj
      · cases hj
      · split at hj
        · cases hj
        · rename_i j hfile
          split at hj
          · cases hj
          · rename_i records hread
            split at hj
            · cases hj
            · rename_i e₁ hrestored
              cases hj
              refine ⟨_, records, j.header.runtimeEpoch, e₁, ?_, hrestored, rfl⟩
              have hpair : ((replaceJournal e.journal j).setEpoch ⟨j.header.runtimeEpoch.value + 1⟩ e.now).readAll
                  = (((replaceJournal e.journal j).setEpoch ⟨j.header.runtimeEpoch.value + 1⟩ e.now).readAll.1,
                    .ok records) :=
                Prod.ext rfl hread
              simp only [attached, hfile]
              rw [hpair]

/-- What is left on disk holds the log, or there is no file and the log is empty. -/
def Leaves (e : Engine) (log : List LogEntry) : Prop :=
  e.disk = none ∧ log = [] ∨ ∃ head : JournalHeader, head.formatVersion = kJournalFormatVersion ∧
  head.identityScheme = 1 ∧
    e.disk = some (encodeHeader head ++ (log.map LogEntry.record).flatMap encodeRecord)

/-- The limits of an engine that reads its journal are valid. -/
theorem attached_valid {read : Engine} {records : List Record} {previous : RuntimeEpoch}
    (h : e.attached = some (read, records, previous)) : e.config.limits.Valid := by
  unfold attached at h
  split at h
  · cases h
  · rename_i j hfile
    unfold Journal.openFile at hfile
    rw [bind_ok] at hfile
    obtain ⟨_, hlimits, -⟩ := hfile
    exact Limits.valid_of_validate hlimits

/-- What is left on disk holds the records, or there is no file and there are none. -/
def LeavesRecords (e : Engine) (records : List Record) : Prop :=
  e.disk = none ∧ records = [] ∨ ∃ head : JournalHeader, head.formatVersion = kJournalFormatVersion ∧
  head.identityScheme = 1 ∧
    e.disk = some (encodeHeader head ++ records.flatMap encodeRecord)

/-- **Reading back the records that were left** gives them, on a handle that holds them, when their payloads fit their
length fields. -/
theorem attached_holds {read : Engine} {written records : List Record} {previous : RuntimeEpoch}
    (hfree : e.journal = none)
    (hd : e.LeavesRecords written) (hb : ∀ r ∈ written, r.payload.length < 2 ^ 32)
      (h : e.attached = some (read, records, previous)) :
    records = written ∧ (∃ k, read.journal = some k ∧ Journal.Holds { limits := e.config.limits } k written) ∧
      read.disk = e.disk ∧ read.config = e.config ∧ read.flows = e.flows ∧ read.sources = e.sources := by
  have hvalid := attached_valid h
  unfold attached at h
  rw [hfree] at h
  simp only [journalFile_none, replaceJournal_none] at h
  split at h
  · cases h
  · rename_i j hfile
    split at h
    · cases h
    · rename_i k rs hread
      cases h
      have hj : j.isOpen = true ∧ j.limits = e.config.limits ∧
          Journal.Holds { limits := e.config.limits } j written := by
        rcases hd with ⟨hnone, rfl⟩ | ⟨head, hv, hs, hsome⟩
        · rw [hnone] at hfile
          obtain ⟨ho, -, hlimits, hheld⟩ := Journal.holds_open_none hfile
          exact ⟨ho, hlimits, hheld⟩
        · rw [hsome] at hfile
          obtain ⟨ho, -, hlimits, hheld⟩ := Journal.holds_open hv hs hfile
          exact ⟨ho, hlimits, hheld⟩
      obtain ⟨ho, hlimits, hheld⟩ := hj
      have hset : Journal.Holds { limits := e.config.limits } (j.setEpoch ⟨j.header.runtimeEpoch.value + 1⟩ e.now)
          written := ⟨hheld.disk, hheld.version, hheld.scheme, hheld.atEnd, hheld.writable, hheld.bounds⟩
      have hopen : (j.setEpoch ⟨j.header.runtimeEpoch.value + 1⟩ e.now).isOpen = true := ho
      have hmax : maxPayload (j.setEpoch ⟨j.header.runtimeEpoch.value + 1⟩ e.now).limits = maxPayload e.config.limits :=
        congrArg maxPayload hlimits
      have hlong : kHeaderBytes ≤ (j.setEpoch ⟨j.header.runtimeEpoch.value + 1⟩ e.now).file.bytes.length := by
        obtain ⟨head, -, -, hbytes⟩ := hset.disk
        rw [hbytes, List.length_append, length_encodeHeader]
        exact Nat.le_add_right _ _
      have hrs := Journal.readAll_log (hmax ▸ Journal.maxPayload_lt hvalid) hopen hset hb (congrArg Prod.snd hread)
      have hend := Journal.readAll_end hopen hlong (congrArg Prod.snd hread)
      rw [hread] at hend
      refine ⟨hrs, ⟨k, rfl, ?_⟩, rfl, rfl, rfl, rfl⟩
      have hk : k = { j.setEpoch ⟨j.header.runtimeEpoch.value + 1⟩ e.now with
        file := (j.setEpoch ⟨j.header.runtimeEpoch.value + 1⟩ e.now).file.seekEnd } := hend
      rw [hk]
      exact ⟨hset.disk, hset.version, hset.scheme, fun _ => rfl, hset.writable, hset.bounds⟩

/-- **Reading back what was left** gives the log. -/
theorem attached_logs {read : Engine} {records : List Record} {previous : RuntimeEpoch} (hfree : e.journal = none)
    (hd : e.Leaves log)
    (hb : ∀ entry ∈ log, entry.record.payload.length ≤ maxPayload e.config.limits)
    (h : e.attached = some (read, records, previous)) :
    records = log.map LogEntry.record ∧ read.Logs log ∧ read.config = e.config ∧ read.flows = e.flows ∧
      read.sources = e.sources := by
  have hleft : e.LeavesRecords (log.map LogEntry.record) := by
    rcases hd with ⟨hnone, rfl⟩ | hsome
    · exact .inl ⟨hnone, rfl⟩
    · exact .inr hsome
  have hfits : ∀ r ∈ log.map LogEntry.record, r.payload.length < 2 ^ 32 := by
    intro r hr
    obtain ⟨entry, hentry, rfl⟩ := List.mem_map.1 hr
    exact lt_of_le_of_lt (hb entry hentry) (Journal.maxPayload_lt (attached_valid h))
  obtain ⟨hrs, ⟨k, hk, hheld⟩, -, hconfig, htables⟩ := attached_holds hfree hleft hfits h
  refine ⟨hrs, ⟨⟨k, hk, ?_⟩, ?_⟩, hconfig, htables⟩
  · rw [hconfig]
    exact hheld
  · rw [hconfig]
    exact hb

/-- Every source that a log may declare is declared once, under a key that is within the bound. -/
structure DeclaresOnce (limits : Limits) (log : List LogEntry) : Prop where
  keys : ∀ d ∈ declared log, d.canonicalKey.length ≤ limits.maxKeyBytes.toNat
  once : ((declared log).map (·.id)).Nodup

theorem replayAll_keeps (previous : RuntimeEpoch) (observations : List Observation) {id : SourceId} {s : SourceState}
    (h : e.sources.find? id = some s) : (e.replayAll previous observations).sources.find? id = some s := by
  have hfold : ∀ (observations : List Observation) (e : Engine), e.sources.find? id = some s →
      (observations.foldl replayOne e).sources.find? id = some s := by
    intro observations
    induction observations with
    | nil => exact fun e h => h
    | cons obs observations ih =>
      intro e h
      exact ih _ (keeps_applyLocked { e with replayNow := obs.receivedAt } obs h)
  exact hfold observations { e with replaying := true, replayEpoch := previous } h

/-- The implied state depends on the last descriptor for each source alone. -/
theorem implied_congr {ds ds' : List SourceDescriptor} (h : ∀ id, lastFor ds id = lastFor ds' id) :
    e.implied ds = e.implied ds' := by
  have hsources : ∀ e : Engine, e.restoreSources ds = e.restoreSources ds' := by
    intro e
    have htable : ds.foldl (fun v d => v.set { descriptor := d, registeredAt := e.openedAt }) e.sources
        = ds'.foldl (fun v d => v.set { descriptor := d, registeredAt := e.openedAt }) e.sources := by
      refine SortedVec.ext_find? (fun id => ?_)
      rw [find?_setAll, find?_setAll, h]
    rw [restoreSources, restoreSources, htable]
  simp only [implied, rebuiltFrom, hsources]

theorem settled_empty {r : Engine} (h : r.flows = ∅) :
    ((r.recomputeAll r.now (fun _ => true)).tickLocked r.now).flows = ∅ :=
  tickLocked_empty (recomputeAll_empty h _ _) _

/-- **What opening recovers from a log**: every descriptor, and the states that they imply. -/
theorem opened_recovers (e : Engine) (log : List LogEntry) (hpath : e.config.journalPath.isEmpty = false)
    (hrestore : e.config.restoreOnOpen = true)
    (hflows : e.flows = ∅) (hfree : e.journal = none) (hd : e.Leaves log)
    (hb : ∀ entry ∈ log, entry.record.payload.length ≤ maxPayload e.config.limits)
      (hdeclares : DeclaresOnce e.config.limits log)
    (h : e.openEngine.2 = .ok ()) :
    e.openEngine.1.Logs log ∧
      (∀ id d, lastFor (declared log) id = some d → ∃ s, e.openEngine.1.sources.find? id = some s ∧ s.descriptor = d) ∧
      e.openEngine.1.flows = (e.implied (declared log)).flows := by
  obtain ⟨read, records, previous, e₁, hattached, hrestored, hopened⟩ := openEngine_attached hpath h
  obtain ⟨rfl, hlogs, hconfig, hnoflows, -⟩ := attached_logs hfree hd hb hattached
  have hflushed : ∀ e₁ : Engine, e₁.Logs log →
      ({ e₁ with journal := e₁.journal.map (·.flush.1), frozen := false, isOpen := true } : Engine).Logs log := by
    intro e₁ hlog
    exact (logs_flush hlog).of_same ⟨rfl, rfl, rfl⟩
  have hticked : e₁.Logs log → e.openEngine.1.Logs log := by
    intro hlog
    rw [hopened]
    exact (hflushed e₁ hlog).of_same (sameFile_tickLocked _ _)
  by_cases hempty : log = []
  · subst hempty
    rw [if_neg (by simp)] at hrestored
    cases hrestored
    refine ⟨hticked hlogs, fun id d hd => (by cases hd), ?_⟩
    have hread : read.flows = ∅ := hnoflows.trans hflows
    have hreplay : replayRecords (([] : List LogEntry).map LogEntry.record) read.config.limits read.config.recovery =
        .ok {} :=
      rfl
    have himplied : (e.implied []).flows = ∅ := by
      simp only [implied, hattached, hreplay]
      refine settled_empty ?_
      exact hread
    have hopen : ({ read with journal := read.journal.map (·.flush.1), frozen := false, isOpen := true } :
        Engine).flows = ∅ :=
      hread
    rw [hopened]
    exact (tickLocked_empty hopen _).trans himplied.symm
  · rw [if_pos (by simp [hrestore, hempty])] at hrestored
    have hsame := sameFile_restoreLocked read (log.map LogEntry.record) previous
    rw [hrestored] at hsame
    cases hreplay : replayRecords (log.map LogEntry.record) read.config.limits read.config.recovery with
    | error err =>
      rw [restoreLocked, hreplay] at hrestored
      cases hrestored
    | ok result =>
      have hwidth := (EngineConfig.limits_valid (validate_of_open h)).lt_width.1
      rw [← hconfig] at hwidth hdeclares
      obtain ⟨hdeclared, hnone, hlive⟩ := replayRecords_log hwidth hdeclares.keys hdeclares.once hreplay
      simp only [restoreLocked, hreplay, hlive, hnone, restoreFlows, Bool.false_and, Bool.false_eq_true,
        if_false] at hrestored
      cases hrestored
      refine ⟨hticked (hlogs.of_same hsame), fun id d hd => ?_, ?_⟩
      · rw [hopened]
        refine ⟨{ descriptor := d, registeredAt := read.openedAt }, replayAll_keeps previous _ ?_, rfl⟩
        show (result.state.sources.foldl _ read.sources).find? id = _
        rw [find?_setAll, hdeclared, hd]
        rfl
      · rw [hopened, ← hdeclared]
        simp only [implied, hattached, hreplay, rebuiltFrom, hnone, restoreFlows]
        rfl

/-- Closing leaves the log on disk. -/
theorem close_leaves (h : e.Logs log) : e.close.Leaves log := by
  obtain ⟨j, hj, hheld⟩ := h.file
  obtain ⟨head, hv, hs, hbytes⟩ := (Journal.holds_close (Journal.holds_flush hheld)).disk
  refine .inr ⟨head, hv, hs, ?_⟩
  rw [close, if_neg (by simp [hj]), ← hbytes]
  simp only [hj, count]

/-! ## Runs -/

/-- The states of an engine with a journal that is opened on no file, used without a compaction, and closed and opened
again, with the descriptors that were registered so far, when every operation meets the condition. -/
inductive RegisteredBy (cond : Engine → List SourceDescriptor → Op → Prop) : Engine → List SourceDescriptor → Prop
  | opened (config : EngineConfig) (clock : Timestamp) (hpath : config.journalPath.isEmpty = false)
    (h : ({ config := config, clock := clock } : Engine).openEngine.2 = .ok ()) :
    RegisteredBy cond ({ config := config, clock := clock } : Engine).openEngine.1 []
  | step {e : Engine} {ds : List SourceDescriptor} (h : RegisteredBy cond e ds) (op : Op) (hop : e.Uncompacted op)
    (hcond : cond e ds op) : RegisteredBy cond (e.step op) (ds ++ e.registrations [op])
  | reopened {e : Engine} {ds : List SourceDescriptor} (h : RegisteredBy cond e ds)
    (ho : e.close.openEngine.2 = .ok ()) :
    RegisteredBy cond e.close.openEngine.1 ds

/-- Registering a known source repeats the descriptor that was last registered for it. -/
def Repeats (e : Engine) (ds : List SourceDescriptor) (op : Op) : Prop :=
  ∀ d, op = .registerSource d → (e.registerSource d).2 = .ok () → (e.sources.find? d.id).isSome = true →
    lastFor ds d.id = some d

/-- After a restart every source has the descriptor that was last registered for it, and every generation the state
that these descriptors imply. -/
structure Durable (e : Engine) (ds : List SourceDescriptor) : Prop where
  descriptors : ∀ id d, lastFor ds id = some d → ∃ s, e.close.openEngine.1.sources.find? id = some s ∧ s.descriptor = d
  states : ∀ flow gen, (e.close.openEngine.1.generation? flow gen).map (·.state)
    = ((e.close.implied ds).generation? flow gen).map (·.state)

/-- The journal of the engine declares the last of the descriptors `ds` for each source. -/
structure Remembers (e : Engine) (ds : List SourceDescriptor) (log : List LogEntry) : Prop where
  path : e.config.journalPath.isEmpty = false
  logs : e.Logs log
  declares : DeclaresOnce e.config.limits log
  last : ∀ id, lastFor (declared log) id = lastFor ds id
  known : ∀ d ∈ declared log, (e.sources.find? d.id).isSome = true

section Runs

variable {cond : Engine → List SourceDescriptor → Op → Prop} {ds : List SourceDescriptor}

theorem RegisteredBy.reachable (h : e.RegisteredBy cond ds) : e.Reachable := by
  induction h with
  | opened config clock _ h => exact .opened config clock h
  | step _ op _ _ ih => exact .step ih op
  | reopened _ ho ih => exact .reopened ih ho

theorem RegisteredBy.next (h : e.RegisteredBy cond ds) (op : Op) (hop : e.Uncompacted op) (hcond : cond e ds op)
    {ds' : List SourceDescriptor} (hds : ds ++ e.registrations [op] = ds') : (e.step op).RegisteredBy cond ds' :=
  hds ▸ .step h op hop hcond

theorem registrations_other {op : Op} (hother : ∀ d, op ≠ .registerSource d) : e.registrations [op] = [] := by
  cases op with
  | registerSource d => exact absurd rfl (hother d)
  | _ => rfl

theorem registrations_register (e : Engine) (d : SourceDescriptor) :
    e.registrations [.registerSource d] = if (e.registerSource d).2.isOk then [d] else [] := List.append_nil _

/-- **One operation**: a registration of an unknown source is remembered, and one that repeats the last changes
nothing. -/
theorem Remembers.step (h : e.Remembers ds log) {op : Op} (hop : e.Uncompacted op) (hcond : e.Repeats ds op) :
    ∃ log', (e.step op).Remembers (ds ++ e.registrations [op]) log' := by
  have hconfig := step_config e op
  have hpath : (e.step op).config.journalPath.isEmpty = false := by
    rw [hconfig]
    exact h.path
  have hknown : ∀ d ∈ declared log, ((e.step op).sources.find? d.id).isSome = true :=
    fun d hd => known_step op (h.known d hd)
  have hdeclares : DeclaresOnce (e.step op).config.limits log := by
    rw [hconfig]
    exact h.declares
  by_cases hother : ∀ d, op ≠ .registerSource d
  · obtain ⟨more, hmore, hlogs⟩ := extends_step hop hother log h.logs
    have hsame : declared (log ++ more) = declared log := by rw [declared_append, hmore, List.append_nil]
    rw [registrations_other hother, List.append_nil]
    exact ⟨log ++ more, hpath, hlogs, ⟨hsame ▸ hdeclares.keys, hsame ▸ hdeclares.once⟩, hsame ▸ h.last, hsame ▸ hknown⟩
  · obtain ⟨d, rfl⟩ : ∃ d, op = .registerSource d := by simpa using hother
    rcases logs_register h.logs d with ⟨err, herr, hlogs, -⟩ | ⟨hok, s, hs, hsources,
      ⟨⟨known, hfound⟩, hlogs⟩ | ⟨hnone, hlength, hlogs⟩⟩
    · rw [registrations_register, herr]
      rw [show (Except.error err : Except Error Unit).isOk = false from rfl, if_neg Bool.false_ne_true, List.append_nil]
      exact ⟨log, hpath, hlogs, hdeclares, h.last, hknown⟩
    · have hone : e.registrations [.registerSource d] = [d] := by
        rw [registrations_register, hok]
        rfl
      have hrepeats := hcond d rfl hok (by rw [hfound]; rfl)
      refine ⟨log, hpath, hlogs, hdeclares, fun id => ?_, hknown⟩
      rw [hone, lastFor_concat, h.last]
      split
      · rename_i hid
        rw [← hid, hrepeats]
      · rfl
    · have hone : e.registrations [.registerSource d] = [d] := by
        rw [registrations_register, hok]
        rfl
      have hmore : declared (log ++ [.source d]) = declared log ++ [d] := declared_append log [.source d]
      refine ⟨log ++ [LogEntry.source d], hpath, hlogs, ⟨?_, ?_⟩, fun id => ?_, ?_⟩
      · rw [hmore, hconfig]
        intro d' hd'
        rcases List.mem_append.1 hd' with hd' | hd'
        · exact h.declares.keys d' hd'
        · exact List.mem_singleton.1 hd' ▸ hlength
      · rw [hmore, List.map_append]
        refine List.nodup_append.2 ⟨h.declares.once, List.nodup_singleton _, fun x hx y hy => ?_⟩
        obtain ⟨d', hd', rfl⟩ := List.mem_map.1 hx
        rw [List.map_singleton, List.mem_singleton] at hy
        rintro rfl
        have hfound := h.known d' hd'
        rw [hy, hnone] at hfound
        cases hfound
      · rw [hmore, hone, lastFor_concat, lastFor_concat, h.last]
      · rw [hmore]
        intro d' hd'
        rcases List.mem_append.1 hd' with hd' | hd'
        · exact hknown d' hd'
        · rw [List.mem_singleton.1 hd']
          show ((e.registerSource d).1.sources.find? d.id).isSome = true
          rw [hsources, ← hs]
          exact congrArg Option.isSome (SortedVec.find?_set_self _ _)

/-- What a restart brings back of what is remembered. -/
theorem Remembers.recovers (h : e.Remembers ds log) (hopen : e.isOpen = true) (hrestore : e.config.restoreOnOpen = true)
    (ho : e.close.openEngine.2 = .ok ()) : e.close.openEngine.1.Logs log ∧
      (∀ id d, lastFor ds id = some d → ∃ s, e.close.openEngine.1.sources.find? id = some s ∧ s.descriptor = d) ∧
      e.close.openEngine.1.flows = (e.close.implied ds).flows := by
  have hconfig := close_config e
  obtain ⟨hlogs, hsources, hflows⟩ := opened_recovers e.close log (by rw [hconfig]; exact h.path)
    (by rw [hconfig]; exact hrestore) (close_flows hopen) (close_journal e) (close_leaves h.logs)
      (by rw [hconfig]; exact h.logs.bounded)
    (by rw [hconfig]; exact h.declares) ho
  exact ⟨hlogs, fun id d hd => hsources id d ((h.last id).trans hd),
    hflows.trans (by rw [implied_congr h.last])⟩

/-- **A run in which registrations are repeated at most** is remembered. -/
theorem RegisteredBy.remembers (h : e.RegisteredBy Repeats ds) (hrestore : e.config.restoreOnOpen = true) :
    ∃ log, e.Remembers ds log := by
  induction h with
  | opened config clock hpath h =>
    have hnothing : ∀ limits, DeclaresOnce limits [] := fun limits => ⟨fun d hd => (by cases hd), List.nodup_nil⟩
    rw [(opened_empty config clock).config] at hrestore
    obtain ⟨hlogs, -, -⟩ := opened_recovers { config := config, clock := clock }
      [] hpath hrestore rfl rfl (.inl ⟨rfl, rfl⟩) (fun _ h => by cases h) (hnothing _) h
    exact ⟨[], by rw [open_config]; exact hpath, hlogs, hnothing _, fun _ => rfl, fun _ h => by cases h⟩
  | step _ op hop hcond ih =>
    obtain ⟨log, hlog⟩ := ih (by rwa [step_config] at hrestore)
    exact hlog.step hop hcond
  | @reopened e ds h ho ih =>
    have hconfig : e.close.openEngine.1.config = e.config := (open_config e.close).trans (close_config e)
    rw [hconfig] at hrestore
    obtain ⟨log, hlog⟩ := ih hrestore
    obtain ⟨hlogs, hsources, -⟩ := hlog.recovers h.reachable.reachedBy.isOpen hrestore ho
    refine ⟨log, by rw [hconfig]; exact hlog.path, hlogs, by rw [hconfig]; exact hlog.declares, hlog.last,
      fun d hd => ?_⟩
    cases hlast : lastFor (declared log) d.id with
    | some d' =>
      obtain ⟨s, hs, -⟩ := hsources d.id d' ((hlog.last d.id).symm.trans hlast)
      rw [hs]
      rfl
    | none =>
      have hmissing := List.find?_eq_none.1 hlast d (List.mem_reverse.2 hd)
      simp at hmissing

/-- **Registrations survive a restart** in every run of a journaled engine that is not compacted, when each
registration of a known source repeats the last one. -/
theorem registrations_durable (h : e.RegisteredBy Repeats ds) (hrestore : e.config.restoreOnOpen = true)
    (ho : e.close.openEngine.2 = .ok ()) : e.Durable ds := by
  obtain ⟨log, hlog⟩ := h.remembers hrestore
  obtain ⟨-, hsources, hflows⟩ := hlog.recovers h.reachable.reachedBy.isOpen hrestore ho
  refine ⟨hsources, fun flow gen => ?_⟩
  rw [generation?, generation?, hflows]

end Runs

/-! ## A registration that is repeated, and one that is forgotten -/

/-- A journaled engine in use. -/
def recording : Engine := ({ config := { journalPath := str "j" }, clock := ⟨1000⟩ } : Engine).openEngine.1

theorem recording_registered (cond : Engine → List SourceDescriptor → Op → Prop) : recording.RegisteredBy cond [] :=
  .opened { journalPath := str "j" } ⟨1000⟩ (by with_unfolding_all decide)
    (opens_new_iff.2 (EngineConfig.validate_default _))

/-- The source `a` is registered with a capability, closes a flow, and is registered again with the same. -/
def repeatedly : Engine :=
  ((recording.step (.registerSource closer)).step (.ingest (sampleObservation closer.id .Close 1 ⟨900⟩))).step
    (.registerSource closer)

theorem repeatedly_registered : repeatedly.RegisteredBy Repeats [closer, closer] := by
  have hfirst : (recording.step (.registerSource closer)).RegisteredBy Repeats [closer] := by
    refine (recording_registered _).next _ ⟨by decide, fun h => by cases h⟩ (fun d hd _ hknown => ?_)
      (by decide +kernel)
    cases hd
    revert hknown
    decide +kernel
  have hclosed := hfirst.next (.ingest (sampleObservation closer.id .Close 1 ⟨900⟩))
    ⟨by decide +kernel, fun h => by cases h⟩ (fun _ h => by cases h) (List.append_nil _)
  refine hclosed.next _ ⟨by decide, fun h => by cases h⟩ (fun d hd _ _ => ?_) (by decide +kernel)
  cases hd
  with_unfolding_all decide

set_option maxRecDepth 1000000 in
theorem registrations_durable_repeatedly : repeatedly.Durable [closer, closer] :=
  registrations_durable repeatedly_registered (by with_unfolding_all decide) (by decide +kernel)

/-- The source `a` closes a flow before it is given the capability to do so. -/
def forgetful : Engine :=
  ((recording.step (.registerSource { closer with capabilities := {} })).step
    (.ingest (sampleObservation closer.id .Close 1 ⟨900⟩))).step (.registerSource closer)

theorem forgetful_registered :
    forgetful.RegisteredBy (fun _ _ _ => True) [{ closer with capabilities := {} }, closer] := by
  have hfirst : (recording.step (.registerSource { closer with capabilities := {} })).RegisteredBy (fun _ _ _ => True)
      [{ closer with capabilities := {} }] :=
    (recording_registered _).next _ ⟨by decide, fun h => by cases h⟩ trivial (by decide +kernel)
  have hclosed := hfirst.next (.ingest (sampleObservation closer.id .Close 1 ⟨900⟩))
    ⟨by decide +kernel, fun h => by cases h⟩ trivial (List.append_nil _)
  exact hclosed.next (.registerSource closer) ⟨by decide, fun h => by cases h⟩ trivial (by decide +kernel)

set_option maxRecDepth 1000000 in
/-- The restart brings back the first descriptor, and the state that it implies. -/
theorem forgetful_reopened : forgetful.close.openEngine.2 = .ok () ∧
    (forgetful.close.openEngine.1.sources.find? closer.id).map (·.descriptor) =
    some { closer with capabilities := {} } ∧
    (forgetful.close.openEngine.1.generation? sampleFlow ⟨1⟩).map (·.state) = some .Observed ∧
    ((forgetful.close.implied [{ closer with capabilities := {} }, closer]).generation? sampleFlow ⟨1⟩).map (·.state)
      = some .Completed := by
  decide +kernel

/-- **A registration of a known source is forgotten**: it is not journalled. -/
theorem registration_forgotten : ¬ ∀ (e : Engine) (ds : List SourceDescriptor), e.RegisteredBy (fun _ _ _ => True) ds →
    e.config.restoreOnOpen = true → e.close.openEngine.2 = .ok () → e.Durable ds := by
  intro h
  obtain ⟨hopen, hdescriptor, -⟩ := forgetful_reopened
  obtain ⟨s, hs, hcloser⟩ := (h forgetful _ forgetful_registered (by decide +kernel) hopen).descriptors closer.id closer
    (by with_unfolding_all decide)
  rw [hs, Option.map_some, hcloser] at hdescriptor
  revert hdescriptor
  with_unfolding_all decide

end Engine

end FlowObs
