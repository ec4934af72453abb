import FlowObs.Engine.Reachable
import FlowObs.Lib.Run
import FlowObs.Text.Script

/-!
# Applying scripts

`apply_script` and `apply_script_text` of `transport.cpp`. A script is a run of operations of the engine, one for each
of its records (`applyScript_runs`); its result counts every observation once, and has one diagnostic for everything
that was not done (`apply_script_accounts`). A text that cannot be read leaves the engine as it is, and two texts are
applied like their two scripts (`apply_script_text_join`).
-/

namespace FlowObs

open Fo1 (Script parseScript)

/-! ## The code -/

/-- `to_string` of a disposition. -/
def IngestDisposition.toStr : IngestDisposition → Str
  | .Applied => str "applied"
  | .Duplicate => str "duplicate"
  | .Refused => str "refused"
  | .Queued => str "queued"
  | .DroppedQueueFull => str "dropped-queue-full"

/-- The code and the detail of an outcome. -/
def IngestOutcome.reason (o : IngestOutcome) : Str :=
  if o.code ≠ .Ok then
    [str " (", o.code.toStr, if o.detail ≠ [] then str ": " ++ o.detail else [], str ")"].flatten
  else if o.detail ≠ [] then [str " (", o.detail, str ")"].flatten
  else []

/-- `IngestOutcome::describe`. -/
def IngestOutcome.describe (o : IngestOutcome) : Str :=
  [o.disposition.toStr, o.reason, if o.generation.valid then str " " ++ o.generation.toStr else [],
    if o.stateBefore ≠ o.stateAfter then [str " ", o.stateBefore.toStr, str "->",
      o.stateAfter.toStr].flatten else []].flatten

/-- `ScriptResult`. -/
structure ScriptResult where
  applied : UInt64 := 0
  duplicates : UInt64 := 0
  refused : UInt64 := 0
  ticks : UInt64 := 0
  sources : UInt64 := 0
  diagnostics : List Str := []
  code : ErrorCode := .Ok
deriving DecidableEq, Repr

namespace ScriptResult

/-- A diagnostic. -/
def note (r : ScriptResult) (diagnostic : Str) : ScriptResult := { r with diagnostics := r.diagnostics ++ [diagnostic] }

/-- A status that failed: its code is kept when it is the first one. -/
def failed (r : ScriptResult) (diagnostic : Str) (code : ErrorCode) : ScriptResult :=
  { r.note diagnostic with code := if r.code = .Ok then code else r.code }

/-- What an observation comes to, and the line that it stands on. -/
def observed (r : ScriptResult) (line : Str) : Except Error IngestOutcome → ScriptResult
  | .error err => { r with refused := r.refused + 1 }.failed (line ++ err.describe) err.code
  | .ok outcome =>
    match outcome.disposition with
    | .Applied | .Queued => { r with applied := r.applied + 1 }
    | .Duplicate => { r with duplicates := r.duplicates + 1 }
    | .Refused | .DroppedQueueFull => { r with refused := r.refused + 1 }.note (line ++ outcome.describe)

/-- What a registration comes to. -/
def registered (r : ScriptResult) (key : Str) : Except Error Unit → ScriptResult
  | .error err => r.failed (str "SRC " ++ key ++ str ": " ++ err.describe) err.code
  | .ok () => { r with sources := r.sources + 1 }

/-- What a tick comes to. -/
def ticked (r : ScriptResult) : Except Error Unit → ScriptResult
  | .error err => r.failed (str "TICK: " ++ err.describe) err.code
  | .ok () => { r with ticks := r.ticks + 1 }

end ScriptResult

/-- The beginning of a diagnostic about an observation. -/
def obsLine (record : Fo1.Record) : Str := str "OBS line " ++ decimal record.line ++ str ": "

namespace Engine

/-- The instant of a `TICK`: its own, or else that of the clock or of the engine. -/
def tickInstant (e : Engine) (manual : Bool) (record : Fo1.Record) : Timestamp :=
  if record.now.known then record.now else if manual then e.clock else e.now

/-- One record of `apply_script`. With `manual` the clock that is given is the one of the engine. -/
def applyRecord (manual : Bool) (p : Engine × ScriptResult) (record : Fo1.Record) : Engine × ScriptResult :=
  match record.kind with
  | .Comment => p
  | .Source =>
    ((p.1.registerSource record.source).1,
      p.2.registered record.source.canonicalKey (p.1.registerSource record.source).2)
  | .At => (if manual then { p.1 with clock := record.now } else p.1, p.2)
  | .Observation => ((p.1.submit record.observation).1, p.2.observed (obsLine record) (p.1.submit record.observation).2)
  | .Tick => ((p.1.tick (p.1.tickInstant manual record)).1, p.2.ticked (p.1.tick (p.1.tickInstant manual record)).2)
  | .Freeze => ({ p.1 with frozen := true }, p.2)

/-- `apply_script`. -/
def applyScript (e : Engine) (script : Script) (manual : Bool) : Engine × ScriptResult :=
  script.records.foldl (applyRecord manual) (e, {})

/-- `apply_script_text`. -/
def applyScriptText (e : Engine) (text : Str) (maxRecords : Nat) (manual : Bool) : Engine × Except Error ScriptResult :=
  match parseScript text maxRecords with
  | .error err => (e, .error err)
  | .ok script => ((e.applyScript script manual).1, .ok (e.applyScript script manual).2)

end Engine

/-! ## Operations -/

namespace Engine

/-- The operations of a record: none or one. -/
def recordOps (manual : Bool) (e : Engine) (record : Fo1.Record) : List Op :=
  match record.kind with
  | .Comment => []
  | .Source => [.registerSource record.source]
  | .At => if manual then [.advance record.now] else []
  | .Observation => [.submit record.observation]
  | .Tick => [.tick (e.tickInstant manual record)]
  | .Freeze => [.freeze]

/-- The operations of records in order. -/
def scriptOps (manual : Bool) (e : Engine) : List Fo1.Record → List Op
  | [] => []
  | record :: records =>
    e.recordOps manual record ++ scriptOps manual ((e.recordOps manual record).foldl step e) records

/-- **A record is its operation.** -/
theorem applyRecord_runs (manual : Bool) (p : Engine × ScriptResult) (record : Fo1.Record) :
    (applyRecord manual p record).1 = (p.1.recordOps manual record).foldl step p.1 := by
  unfold applyRecord recordOps
  cases record.kind with
  | At => cases manual <;> rfl
  | Comment | Source | Observation | Tick | Freeze => rfl

/-- **A script is the run of its operations.** -/
theorem applyRecords_runs (manual : Bool) (records : List Fo1.Record) : ∀ p : Engine × ScriptResult,
    (records.foldl (applyRecord manual) p).1 = (scriptOps manual p.1 records).foldl step p.1 := by
  induction records with
  | nil => exact fun p => rfl
  | cons record records ih =>
    intro p
    rw [List.foldl_cons, ih, applyRecord_runs, scriptOps, List.foldl_append]

theorem reachable_run {e : Engine} (h : e.Reachable) (ops : List Op) : (ops.foldl step e).Reachable := by
  induction ops generalizing e with
  | nil => exact h
  | cons op ops ih => exact ih (h.step op)

end Engine

/-! ## Results -/

namespace ScriptResult

/-- One result behind another. -/
def andThen (r s : ScriptResult) : ScriptResult where
  applied := r.applied + s.applied
  duplicates := r.duplicates + s.duplicates
  refused := r.refused + s.refused
  ticks := r.ticks + s.ticks
  sources := r.sources + s.sources
  diagnostics := r.diagnostics ++ s.diagnostics
  code := if r.code = .Ok then s.code else r.code

variable (r : ScriptResult)

@[simp] theorem andThen_default : r.andThen {} = r := by
  cases r
  simp only [andThen, List.append_nil, mk.injEq, true_and]
  split <;> simp_all

theorem andThen_assoc (s t : ScriptResult) : (r.andThen s).andThen t = r.andThen (s.andThen t) := by
  simp only [andThen, mk.injEq, UInt64.add_assoc, List.append_assoc, true_and]
  by_cases h : r.code = .Ok <;> simp [h]

theorem registered_eq (key : Str) (x : Except Error Unit) :
    r.registered key x = r.andThen (({} : ScriptResult).registered key x) := by
  cases x <;> simp [registered, failed, note, andThen]

theorem ticked_eq (x : Except Error Unit) : r.ticked x = r.andThen (({} : ScriptResult).ticked x) := by
  cases x <;> simp [ticked, failed, note, andThen]

theorem observed_eq (line : Str) (x : Except Error IngestOutcome) :
    r.observed line x = r.andThen (({} : ScriptResult).observed line x) := by
  cases x with
  | error err => simp [observed, failed, note, andThen]
  | ok outcome => cases h : outcome.disposition <;> simp [observed, note, andThen, h]

/-- The observations that are counted. -/
def observations : UInt64 := r.applied + r.duplicates + r.refused

/-- What was done, and the diagnostics of what was not. -/
def told : UInt64 := r.applied + r.duplicates + r.ticks + r.sources + UInt64.ofNat r.diagnostics.length

theorem observations_andThen (s : ScriptResult) : (r.andThen s).observations = r.observations + s.observations := by
  simp only [observations, andThen]
  ac_rfl

theorem told_andThen (s : ScriptResult) : (r.andThen s).told = r.told + s.told := by
  simp only [told, andThen, List.length_append, UInt64.ofNat_add]
  ac_rfl

/-- A diagnostic and the same one for a script that begins so many lines further down: the number of its line is
another one if it is about an observation. -/
inductive Renumbered (lines : Nat) : Str → Str → Prop
  | observed (record : Fo1.Record) (rest : Str) : Renumbered lines (obsLine (record.moved lines) ++ rest)
    (obsLine record ++ rest)
  | other {diagnostic : Str} (h : ¬ str "OBS line " <+: diagnostic) : Renumbered lines diagnostic diagnostic

/-- A result is another one whose script begins so many lines further down. -/
structure Moved (lines : Nat) (r s : ScriptResult) : Prop where
  counts : r.applied = s.applied ∧ r.duplicates = s.duplicates ∧ r.refused = s.refused ∧ r.ticks = s.ticks ∧
    r.sources = s.sources
  diagnostics : r.diagnostics.Forall₂ (Renumbered lines) s.diagnostics
  code : r.code = s.code

variable {lines : Nat} {r}

theorem Moved.nothing : ({} : ScriptResult).Moved lines {} := ⟨⟨rfl, rfl, rfl, rfl, rfl⟩, .nil, rfl⟩

theorem Moved.andThen {s t u : ScriptResult} (h : r.Moved lines s) (h' : t.Moved lines u) :
    (r.andThen t).Moved lines (s.andThen u) := by
  obtain ⟨⟨ha, hd, hr, ht, hs⟩, hdiagnostics, hcode⟩ := h
  obtain ⟨⟨ha', hd', hr', ht', hs'⟩, hdiagnostics', hcode'⟩ := h'
  refine ⟨⟨?_, ?_, ?_, ?_, ?_⟩, List.rel_append hdiagnostics hdiagnostics', ?_⟩ <;> simp only [ScriptResult.andThen, *]

/-- A diagnostic that begins with another letter is not about an observation. -/
theorem Renumbered.of_head {word : Str} {c : UInt8} (h : word.head? = some c) (hc : c ≠ 79) (rest : Str) :
    Renumbered lines (word ++ rest) (word ++ rest) := by
  refine .other ?_
  rintro ⟨line, hline⟩
  have hobs : (str "OBS line ").head? = some 79 := by with_unfolding_all decide
  have hhead := congrArg List.head? hline
  rw [List.head?_append, List.head?_append, hobs, h] at hhead
  exact hc (Option.some.inj hhead).symm

theorem moved_registered (key : Str) (x : Except Error Unit) :
    (({} : ScriptResult).registered key x).Moved lines (({} : ScriptResult).registered key x) := by
  cases x with
  | ok _ => exact ⟨⟨rfl, rfl, rfl, rfl, rfl⟩, .nil, rfl⟩
  | error err =>
    have hsrc : (str "SRC ").head? = some 83 := by with_unfolding_all decide
    have hsame : Renumbered lines _ _ := .of_head hsrc (by decide) (key ++ str ": " ++ err.describe)
    rw [← List.append_assoc, ← List.append_assoc] at hsame
    exact ⟨⟨rfl, rfl, rfl, rfl, rfl⟩, .cons hsame .nil, rfl⟩

theorem moved_ticked (x : Except Error Unit) :
    (({} : ScriptResult).ticked x).Moved lines (({} : ScriptResult).ticked x) := by
  cases x with
  | ok _ => exact ⟨⟨rfl, rfl, rfl, rfl, rfl⟩, .nil, rfl⟩
  | error err =>
    have htick : (str "TICK: ").head? = some 84 := by with_unfolding_all decide
    exact ⟨⟨rfl, rfl, rfl, rfl, rfl⟩, .cons (.of_head htick (by decide) err.describe) .nil, rfl⟩

theorem moved_observed (record : Fo1.Record) (x : Except Error IngestOutcome) :
    (({} : ScriptResult).observed (obsLine (record.moved lines)) x).Moved lines
      (({} : ScriptResult).observed (obsLine record) x) := by
  cases x with
  | error err => exact ⟨⟨rfl, rfl, rfl, rfl, rfl⟩, .cons (.observed record _) .nil, rfl⟩
  | ok outcome =>
    simp only [observed]
    cases outcome.disposition with
    | Applied | Queued | Duplicate => exact ⟨⟨rfl, rfl, rfl, rfl, rfl⟩, .nil, rfl⟩
    | Refused | DroppedQueueFull => exact ⟨⟨rfl, rfl, rfl, rfl, rfl⟩, .cons (.observed record _) .nil, rfl⟩

end ScriptResult

namespace Engine

variable (manual : Bool)

/-- What a record adds to a result. -/
def recordResult (e : Engine) (record : Fo1.Record) : ScriptResult := (applyRecord manual (e, {}) record).2

/-- What records in order add to a result. -/
def recordsResult (e : Engine) (records : List Fo1.Record) : ScriptResult :=
  (records.foldl (applyRecord manual) (e, {})).2

/-- The status of a record, when it failed. -/
def recordStatus (e : Engine) (record : Fo1.Record) : Option Error :=
  match record.kind with
  | .Source => match (e.registerSource record.source).2 with | .error err => some err | .ok _ => none
  | .Observation => match (e.submit record.observation).2 with | .error err => some err | .ok _ => none
  | .Tick => match (e.tick (e.tickInstant manual record)).2 with | .error err => some err | .ok _ => none
  | .Comment | .At | .Freeze => none

/-- The statuses that failed, in the order of the records. -/
def scriptStatuses : Engine → List Fo1.Record → List Error
  | _, [] => []
  | e, record :: records =>
    (e.recordStatus manual record).toList ++ scriptStatuses ((e.recordOps manual record).foldl step e) records

/-- **A record adds to the result** what it adds to an empty one. -/
theorem applyRecord_result (p : Engine × ScriptResult) (record : Fo1.Record) :
    (applyRecord manual p record).2 = p.2.andThen (p.1.recordResult manual record) := by
  unfold recordResult applyRecord
  cases record.kind with
  | Comment | At | Freeze => exact p.2.andThen_default.symm
  | Source => exact p.2.registered_eq _ _
  | Observation => exact p.2.observed_eq _ _
  | Tick => exact p.2.ticked_eq _

theorem recordsResult_cons (e : Engine) (record : Fo1.Record) (records : List Fo1.Record) :
    e.recordsResult manual (record :: records) =
      (e.recordResult manual record).andThen
        (((e.recordOps manual record).foldl step e).recordsResult manual records) := by
  have hrun : ∀ (records : List Fo1.Record) (p : Engine × ScriptResult),
      (records.foldl (applyRecord manual) p).2 = p.2.andThen (p.1.recordsResult manual records) := by
    intro records
    induction records with
    | nil => exact fun p => p.2.andThen_default.symm
    | cons record records ih =>
      intro p
      have hfirst : p.1.recordsResult manual (record :: records) = (p.1.recordResult manual record).andThen
          ((applyRecord manual p record).1.recordsResult manual records) := by
        rw [applyRecord_runs, recordsResult, List.foldl_cons, ih, applyRecord_runs]
        rfl
      rw [List.foldl_cons, ih, applyRecord_result, ScriptResult.andThen_assoc, hfirst]
  rw [recordsResult, List.foldl_cons, hrun, applyRecord_runs]
  rfl

/-- What the result of one record says. -/
theorem recordResult_accounts (e : Engine) (record : Fo1.Record) :
    (e.recordResult manual record).observations = (if record.kind == .Observation then 1 else 0) ∧
    (e.recordResult manual record).told =
      (if record.kind == .Source || record.kind == .Observation || record.kind == .Tick then 1 else 0) ∧
    (e.recordResult manual record).code = ((e.recordStatus manual record).map Error.code).getD .Ok := by
  unfold recordResult applyRecord recordStatus ScriptResult.observations ScriptResult.told
  cases hkind : record.kind with
  | Comment | At | Freeze => exact ⟨rfl, rfl, rfl⟩
  | Source => cases (e.registerSource record.source).2 <;> exact ⟨rfl, rfl, rfl⟩
  | Tick => cases (e.tick (e.tickInstant manual record)).2 <;> exact ⟨rfl, rfl, rfl⟩
  | Observation =>
    cases (e.submit record.observation).2 with
    | error err => exact ⟨rfl, rfl, rfl⟩
    | ok outcome =>
      simp only [ScriptResult.observed]
      cases outcome.disposition <;> exact ⟨rfl, rfl, rfl⟩

/-- What the result of records says. -/
theorem recordsResult_accounts (records : List Fo1.Record) : ∀ e : Engine,
    (e.recordsResult manual records).observations = UInt64.ofNat (records.countP (·.kind == .Observation)) ∧
    (e.recordsResult manual records).told =
      UInt64.ofNat (records.countP fun r => r.kind == .Source || r.kind == .Observation || r.kind == .Tick) ∧
    (e.recordsResult manual records).code =
      (((scriptStatuses manual e records).map Error.code).find? (· ≠ .Ok)).getD .Ok := by
  induction records with
  | nil => exact fun e => ⟨rfl, rfl, rfl⟩
  | cons record records ih =>
    intro e
    obtain ⟨hobservations, htold, hcode⟩ := ih ((e.recordOps manual record).foldl step e)
    obtain ⟨hobserved, hsaid, hfailed⟩ := e.recordResult_accounts manual record
    rw [recordsResult_cons, ScriptResult.observations_andThen, ScriptResult.told_andThen, hobservations, htold,
      hobserved, hsaid, List.countP_cons, List.countP_cons, UInt64.ofNat_add, UInt64.ofNat_add]
    refine ⟨?_, ?_, ?_⟩
    · rw [UInt64.add_comm]
      split <;> rfl
    · rw [UInt64.add_comm]
      split <;> rfl
    · rw [scriptStatuses, ScriptResult.andThen, hcode, hfailed]
      cases e.recordStatus manual record with
      | none => rfl
      | some err => by_cases h : err.code = .Ok <;> simp [h]

/-- **What applying a script comes to**, from every state and with whatever records: the engine ends where the run of
the operations of the records ends; every observation is counted once, as applied, as a duplicate or as refused; what
was not done of registrations, observations and ticks has left one diagnostic each; and the code is that of the first
status that failed. -/
theorem apply_script_accounts (e : Engine) (script : Script) :
    (e.applyScript script manual).1 = (scriptOps manual e script.records).foldl step e ∧
    (e.applyScript script manual).2.observations = UInt64.ofNat (script.records.countP (·.kind == .Observation)) ∧
    (e.applyScript script manual).2.told =
      UInt64.ofNat (script.records.countP fun r => r.kind == .Source || r.kind == .Observation || r.kind == .Tick) ∧
    (e.applyScript script manual).2.code =
      (((scriptStatuses manual e script.records).map Error.code).find? (· ≠ .Ok)).getD .Ok :=
  ⟨applyRecords_runs manual script.records (e, {}), recordsResult_accounts manual script.records e⟩

/-! ## Texts -/

/-- A script ends where the run of its records ends. -/
theorem applyScript_of (e : Engine) (records : List Fo1.Record) :
    e.applyScript (.of records) manual =
    ((scriptOps manual e records).foldl step e, e.recordsResult manual records) := by
  rw [applyScript, Fo1.of_records]
  exact Prod.ext (applyRecords_runs manual records (e, {})) rfl

theorem recordsResult_append (xs ys : List Fo1.Record) : ∀ e : Engine, e.recordsResult manual (xs ++ ys) =
    (e.recordsResult manual xs).andThen (((scriptOps manual e xs).foldl step e).recordsResult manual ys) := by
  induction xs with
  | nil =>
    intro e
    have hnil : e.recordsResult manual [] = {} := rfl
    rw [List.nil_append, hnil]
    cases h : e.recordsResult manual ys
    simp [ScriptResult.andThen, scriptOps, h]
  | cons x xs ih =>
    intro e
    rw [List.cons_append, recordsResult_cons, ih, recordsResult_cons, ScriptResult.andThen_assoc, scriptOps,
      List.foldl_append]

theorem scriptOps_append (xs ys : List Fo1.Record) : ∀ e : Engine,
    scriptOps manual e (xs ++ ys) = scriptOps manual e xs ++
    scriptOps manual ((scriptOps manual e xs).foldl step e) ys := by
  induction xs with
  | nil => exact fun e => rfl
  | cons x xs ih =>
    intro e
    rw [List.cons_append, scriptOps, ih, scriptOps, List.append_assoc, List.foldl_append]

/-- The operations do not depend on the numbers of the lines. -/
theorem scriptOps_moved (k : Nat) (records : List Fo1.Record) : ∀ e : Engine,
    scriptOps manual e (records.map (Fo1.Record.moved k)) = scriptOps manual e records := by
  induction records with
  | nil => exact fun e => rfl
  | cons record records ih =>
    intro e
    rw [List.map_cons, scriptOps, ih]
    rfl

/-- The numbers of the lines are told in the diagnostics alone. -/
theorem recordsResult_moved (k : Nat) (records : List Fo1.Record) : ∀ e : Engine,
    (e.recordsResult manual (records.map (Fo1.Record.moved k))).Moved k (e.recordsResult manual records) := by
  induction records with
  | nil => exact fun e => .nothing
  | cons record records ih =>
    intro e
    rw [List.map_cons, recordsResult_cons, recordsResult_cons]
    have hrecord : (e.recordResult manual (record.moved k)).Moved k (e.recordResult manual record) := by
      have hkind : (record.moved k).kind = record.kind := rfl
      simp only [recordResult, applyRecord, hkind]
      cases record.kind with
      | Observation => exact ScriptResult.moved_observed record _
      | Source => exact ScriptResult.moved_registered _ _
      | Tick => exact ScriptResult.moved_ticked _
      | Comment | At | Freeze => exact .nothing
    exact hrecord.andThen (ih _)

variable {manual}

theorem applyScriptText_ok {e e' : Engine} {text : Str} {maxRecords : Nat} {r : ScriptResult} :
    e.applyScriptText text maxRecords manual = (e', .ok r) ↔
      ∃ s, parseScript text maxRecords = .ok s ∧ e.applyScript s manual = (e', r) := by
  unfold applyScriptText
  cases parseScript text maxRecords <;> simp [Prod.ext_iff]

/-- **Two texts behind one another.** When the text of both is applied, it comes to what the first one comes to and
then the second, whose diagnostics tell lines that are further down by those of the first. Otherwise nothing is
applied, of neither: one of the two cannot be read, or there are too many records. -/
theorem apply_script_text_join (e : Engine) (a b : Str) (maxRecords : Nat) (manual : Bool) :
    (∀ e' r, e.applyScriptText (a ++ 10 :: b) maxRecords manual = (e', .ok r) → ∃ e₁ r₁ r₂ moved,
      e.applyScriptText a maxRecords manual = (e₁, .ok r₁) ∧ e₁.applyScriptText b maxRecords manual = (e', .ok r₂) ∧
      moved.Moved (a.splitOn 10).length r₂ ∧ r = r₁.andThen moved) ∧
    ∀ e' err, e.applyScriptText (a ++ 10 :: b) maxRecords manual = (e', .error err) → e' = e ∧
      ∀ sa sb, parseScript a maxRecords = .ok sa → parseScript b maxRecords = .ok sb →
        maxRecords < sa.records.length + sb.records.length := by
  constructor
  · intro e' r h
    obtain ⟨s, hs, happly⟩ := applyScriptText_ok.1 h
    obtain ⟨sa, sb, hsa, hsb, -, rfl⟩ := Fo1.parseScript_join.1 hs
    obtain ⟨xs, -, -, rfl⟩ := Fo1.parseScript_ok.1 hsa
    obtain ⟨ys, -, -, rfl⟩ := Fo1.parseScript_ok.1 hsb
    rw [applyScript_of, scriptOps_append, Fo1.of_records, Fo1.of_records, scriptOps_moved, List.foldl_append,
      recordsResult_append] at happly
    obtain ⟨rfl, rfl⟩ := Prod.mk.inj happly
    exact ⟨_, _, _, _, applyScriptText_ok.2 ⟨_, hsa, applyScript_of manual e _⟩,
      applyScriptText_ok.2 ⟨_, hsb, applyScript_of manual _ _⟩, recordsResult_moved manual _ _ _, rfl⟩
  · intro e' err h
    unfold applyScriptText at h
    cases hparse : parseScript (a ++ 10 :: b) maxRecords with
    | ok s =>
      rw [hparse] at h
      cases (Prod.mk.inj h).2
    | error err' =>
      rw [hparse] at h
      refine ⟨(Prod.mk.inj h).1.symm, fun sa sb hsa hsb => ?_⟩
      by_contra hroom
      have hok := Fo1.parseScript_join.2 ⟨sa, sb, hsa, hsb, Nat.not_lt.1 hroom, rfl⟩
      rw [hparse] at hok
      cases hok

end Engine

end FlowObs
