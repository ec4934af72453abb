import FlowObs.Text.Accepted
import Mathlib.Data.List.Forall2

/-!
# Scripts

`parse_script` of `textproto.cpp`: the lines of a text, numbered from one, of which the comments are dropped. A script
is read when every line is and there are not more records than the bound; otherwise the first line at which one of the
two fails says why (`parse_script_exact`). Two texts with a line end between them are read as the one script behind
the other (`parseScript_join`).
-/

namespace FlowObs.Fo1

/-! ## The code -/

/-- `Script`. -/
structure Script where
  records : List Record := []
  sourceRecords : Nat := 0
  observationRecords : Nat := 0
  atRecords : Nat := 0
  tickRecords : Nat := 0
  freezeRecords : Nat := 0
deriving DecidableEq, Repr

/-- The counter of the kind of a record, and the record. -/
def Script.push (s : Script) (record : Record) : Script :=
  let s := match record.kind with
    | .Source => { s with sourceRecords := s.sourceRecords + 1 }
    | .Observation => { s with observationRecords := s.observationRecords + 1 }
    | .At => { s with atRecords := s.atRecords + 1 }
    | .Tick => { s with tickRecords := s.tickRecords + 1 }
    | .Freeze => { s with freezeRecords := s.freezeRecords + 1 }
    | .Comment => s
  { s with records := s.records ++ [record] }

/-- What is said of a script with too many records. -/
def tooManyRecords : Error := limitExceeded "FO1 script exceeds the configured record bound"

/-- One line of the loop. -/
def readLine (maxRecords : Nat) (s : Script) (line : Str) (lineNumber : Nat) : Except Error Script := do
  let record ← parseLine line lineNumber
  if record.kind = .Comment then .ok s
  else if maxRecords ≤ s.records.length then .error tooManyRecords
  else .ok (s.push record)

/-- The loop over the lines; so many stand before them. -/
def readLines (maxRecords : Nat) (s : Script) (before : Nat) : List Str → Except Error Script
  | [] => .ok s
  | line :: lines => do
    let s ← readLine maxRecords s line (before + 1)
    readLines maxRecords s (before + 1) lines

/-- `parse_script`. -/
def parseScript (text : Str) (maxRecords : Nat) : Except Error Script := readLines maxRecords {} 0 (text.splitOn 10)

/-! ## What is read -/

/-- A record that is kept. -/
def Record.kept (r : Record) : Bool := r.kind ≠ .Comment

/-- The script of records. -/
def Script.of (records : List Record) : Script := records.foldl Script.push {}

@[simp] theorem push_records (s : Script) (r : Record) : (s.push r).records = s.records ++ [r] := by
  unfold Script.push
  cases r.kind <;> rfl

theorem records_foldl (s : Script) (records : List Record) :
    (records.foldl Script.push s).records = s.records ++ records := by
  induction records generalizing s with
  | nil => simp
  | cons r records ih => simp [ih]

@[simp] theorem of_records (records : List Record) : (Script.of records).records = records := by simp [Script.of,
  records_foldl]

theorem of_append (xs ys : List Record) : Script.of (xs ++ ys) = ys.foldl Script.push (.of xs) := List.foldl_append

theorem of_snoc (xs : List Record) (r : Record) :
    Script.of (xs ++ [r]) = (Script.of xs).push r := by rw [of_append]; rfl

/-- The counters are those of the kinds. -/
theorem of_counts (records : List Record) : (Script.of records).sourceRecords = records.countP (·.kind == .Source) ∧
    (Script.of records).observationRecords = records.countP (·.kind == .Observation) ∧
    (Script.of records).atRecords = records.countP (·.kind == .At) ∧
    (Script.of records).tickRecords = records.countP (·.kind == .Tick) ∧
    (Script.of records).freezeRecords = records.countP (·.kind == .Freeze) := by
  induction records using List.reverseRecOn with
  | nil => exact ⟨rfl, rfl, rfl, rfl, rfl⟩
  | append_singleton records r ih =>
    obtain ⟨hsource, hobservation, hat, htick, hfreeze⟩ := ih
    rw [of_snoc]
    simp only [List.countP_append, List.countP_singleton, ← hsource, ← hobservation, ← hat, ← htick, ← hfreeze]
    unfold Script.push
    cases r.kind <;> exact ⟨rfl, rfl, rfl, rfl, rfl⟩

/-- The lines with their numbers are read as these records. -/
def Parsed (before : Nat) (lines : List Str) (rs : List Record) : Prop :=
  List.Forall₂ (fun line r => parseLine line.1 line.2 = .ok r) (lines.zipIdx (before + 1)) rs

/-- One line adds its record, unless it fails or there is no room. -/
theorem readLine_of {maxRecords : Nat} {records : List Record} {line : Str} {lineNumber : Nat} :
    readLine maxRecords (.of records) line lineNumber = (parseLine line lineNumber).bind fun r =>
      if r.kept then if maxRecords ≤ records.length then .error tooManyRecords else .ok (.of (records ++ [r]))
      else .ok (.of records) := by
  unfold readLine
  cases parseLine line lineNumber with
  | error e => rfl
  | ok r =>
    show (if r.kind = .Comment then _ else _) = (if r.kept then _ else _)
    by_cases h : r.kind = .Comment
    · simp [Record.kept, h]
    · simp [Record.kept, h, of_snoc]

theorem readLine_ok {maxRecords : Nat} {records : List Record} {line : Str} {lineNumber : Nat} {s : Script}
    (hroom : records.length ≤ maxRecords) : readLine maxRecords (.of records) line lineNumber = .ok s ↔
      ∃ r, parseLine line lineNumber = .ok r ∧ (records ++ [r].filter Record.kept).length ≤ maxRecords ∧
        s = .of (records ++ [r].filter Record.kept) := by
  rw [readLine_of]
  cases parseLine line lineNumber with
  | error e => simp [Except.bind]
  | ok r =>
    simp only [Except.bind, Except.ok.injEq, exists_eq_left']
    by_cases hkept : r.kept = true
    · simp only [hkept, if_true, List.filter_cons_of_pos, List.filter_nil, List.length_append, List.length_singleton]
      split
      · simp
        omega
      · constructor
        · rintro ⟨⟩
          exact ⟨by omega, rfl⟩
        · rintro ⟨-, rfl⟩
          rfl
    · simp [hkept, hroom, eq_comm]

theorem readLine_error {maxRecords : Nat} {records : List Record} {line : Str} {lineNumber : Nat} {err : Error} :
    readLine maxRecords (.of records) line lineNumber = .error err ↔ parseLine line lineNumber = .error err ∨
      ∃ r, parseLine line lineNumber = .ok r ∧ r.kept = true ∧ maxRecords ≤ records.length ∧ err = tooManyRecords := by
  rw [readLine_of]
  cases parseLine line lineNumber with
  | error e => simp [Except.bind]
  | ok r =>
    simp only [Except.bind, Except.ok.injEq, exists_eq_left', reduceCtorEq, false_or]
    by_cases hkept : r.kept = true <;> by_cases hfull : maxRecords ≤ records.length <;> simp [hkept, hfull, eq_comm]

theorem parsed_cons {before : Nat} {line : Str} {lines : List Str} {rs : List Record} :
    Parsed before (line :: lines) rs ↔
    ∃ r rest, parseLine line (before + 1) = .ok r ∧ Parsed (before + 1) lines rest ∧ rs = r :: rest := by
  rw [Parsed, List.zipIdx_cons, List.forall₂_cons_left_iff]
  rfl

theorem parsed_nil {before : Nat} {rs : List Record} : Parsed before [] rs ↔ rs = [] := List.forall₂_nil_left_iff

/-- **The lines that are read**: each of them, and not more records than there is room for. -/
theorem readLines_ok {maxRecords : Nat} {lines : List Str} : ∀ {records : List Record} {before : Nat} {s : Script},
    records.length ≤ maxRecords → (readLines maxRecords (.of records) before lines = .ok s ↔
      ∃ rs, Parsed before lines rs ∧ (records ++ rs.filter Record.kept).length ≤ maxRecords ∧
        s = .of (records ++ rs.filter Record.kept)) := by
  induction lines with
  | nil =>
    intro records before s hroom
    simp [readLines, parsed_nil, hroom, eq_comm]
  | cons line lines ih =>
    intro records before s hroom
    rw [readLines, bind_ok]
    constructor
    · rintro ⟨s₁, hline, hlines⟩
      obtain ⟨r, hr, hroom₁, rfl⟩ := (readLine_ok hroom).1 hline
      obtain ⟨rs, hrs, hroom₂, rfl⟩ := (ih hroom₁).1 hlines
      rw [List.append_assoc, ← List.filter_append] at hroom₂ ⊢
      exact ⟨r :: rs, parsed_cons.2 ⟨r, rs, hr, hrs, rfl⟩, hroom₂, rfl⟩
    · rintro ⟨rs, hrs, hroom₂, rfl⟩
      obtain ⟨r, rest, hr, hrest, rfl⟩ := parsed_cons.1 hrs
      have hsplit : (r :: rest).filter Record.kept = [r].filter Record.kept ++ rest.filter Record.kept :=
        List.filter_append [r] rest
      rw [hsplit, ← List.append_assoc] at hroom₂ ⊢
      have hroom₁ : (records ++ [r].filter Record.kept).length ≤ maxRecords := by
        rw [List.length_append] at hroom₂
        omega
      exact ⟨_, (readLine_ok hroom).2 ⟨r, hr, hroom₁, rfl⟩, (ih hroom₁).2 ⟨rest, hrest, hroom₂, rfl⟩⟩

theorem readLines_append (maxRecords : Nat) (lines rest : List Str) : ∀ (s : Script) (before : Nat),
    readLines maxRecords s before (lines ++ rest) =
      (readLines maxRecords s before lines).bind fun s => readLines maxRecords s (before + lines.length) rest := by
  induction lines with
  | nil => exact fun s before => rfl
  | cons line lines ih =>
    intro s before
    rw [List.cons_append, readLines, readLines]
    cases readLine maxRecords s line (before + 1) with
    | error e => rfl
    | ok s₁ =>
      show readLines maxRecords s₁ (before + 1) (lines ++ rest) = _
      rw [ih, List.length_cons, Nat.add_assoc, Nat.add_comm 1]
      rfl

/-- **The lines that are not read**: the first one that fails, or for whose record there is no room, says why. -/
theorem readLines_error {maxRecords : Nat} {lines : List Str} {err : Error} {records : List Record} {before : Nat}
    (hroom : records.length ≤ maxRecords) : readLines maxRecords (.of records) before lines = .error err ↔
      ∃ pre line post rs, lines = pre ++ line :: post ∧ Parsed before pre rs ∧
        (records ++ rs.filter Record.kept).length ≤ maxRecords ∧
        readLine maxRecords (.of (records ++ rs.filter Record.kept)) line (before + pre.length + 1) = .error err := by
  constructor
  · intro h
    induction lines generalizing records before with
    | nil => cases h
    | cons line lines ih =>
      rw [readLines] at h
      cases hline : readLine maxRecords (.of records) line (before + 1) with
      | error e =>
        rw [hline] at h
        obtain rfl := Except.error.inj h
        exact ⟨[], line, lines, [], rfl, parsed_nil.2 rfl, by simpa using hroom, by simpa using hline⟩
      | ok s =>
        rw [hline] at h
        obtain ⟨r, hr, hroom₁, rfl⟩ := (readLine_ok hroom).1 hline
        obtain ⟨pre, line', post, rs, rfl, hrs, hroom₂, herr⟩ := ih hroom₁ h
        have hsplit : (r :: rs).filter Record.kept = [r].filter Record.kept ++ rs.filter Record.kept :=
          List.filter_append [r] rs
        rw [List.append_assoc, ← hsplit] at hroom₂ herr
        refine ⟨line :: pre, line', post, r :: rs, rfl, parsed_cons.2 ⟨r, rs, hr, hrs, rfl⟩, hroom₂, ?_⟩
        rw [← herr, List.length_cons]
        congr 1
        omega
  · rintro ⟨pre, line, post, rs, rfl, hrs, hroom₁, herr⟩
    have hpre := (readLines_ok hroom).2 ⟨rs, hrs, hroom₁, rfl⟩
    rw [readLines_append, hpre]
    show readLines maxRecords _ (before + pre.length) (line :: post) = _
    rw [readLines, herr]
    rfl

/-! ## Line numbers -/

/-- A record so many lines further down. -/
def Record.moved (lines : Nat) (r : Record) : Record := { r with line := r.line + lines }

theorem readRecord_moved (n k : Nat) (directive : Str) (tokens : List Token) :
    readRecord (n + k) directive tokens = (readRecord n directive tokens).map (Record.moved k) := by
  unfold readRecord
  split_ifs
  · rfl
  · cases expectVersion tokens with
    | error e => rfl
    | ok tokens => cases hd : readSource tokens <;> simp [hd, Except.map, Record.moved]
  · cases expectVersion tokens with
    | error e => rfl
    | ok tokens => cases hd : readAt tokens <;> simp [hd, Except.map, Record.moved]
  · cases expectVersion tokens with
    | error e => rfl
    | ok tokens => cases hd : readTick tokens <;> simp [hd, Except.map, Record.moved]
  · cases expectVersion tokens with
    | error e => rfl
    | ok tokens => cases hd : readObs tokens <;> simp [hd, Except.map, Record.moved]
  · rfl

/-- **A line is read alike wherever it stands**, up to the number of its record. -/
theorem parseLine_moved {line : Str} {n k : Nat} {r' : Record} :
    parseLine line (n + k) = .ok r' ↔ ∃ r, parseLine line n = .ok r ∧ r' = r.moved k := by
  unfold parseLine
  dsimp only
  split
  · simp [Record.moved, eq_comm]
  · split
    · simp
    · simp [Record.moved, eq_comm]
    · rename_i t ts _
      rw [readRecord_moved]
      cases readRecord n t.key ts <;> simp [Except.map, Except.mapError, eq_comm]

theorem parsed_moved {lines : List Str} {k : Nat} : ∀ {before : Nat} {rs' : List Record},
    Parsed (before + k) lines rs' ↔ ∃ rs, Parsed before lines rs ∧ rs' = rs.map (Record.moved k) := by
  induction lines with
  | nil => simp [parsed_nil]
  | cons line lines ih =>
    intro before rs'
    have hnext : before + k + 1 = before + 1 + k := by omega
    simp only [parsed_cons, hnext, parseLine_moved, ih]
    constructor
    · rintro ⟨_, _, ⟨r, hr, rfl⟩, ⟨rs, hrs, rfl⟩, rfl⟩
      exact ⟨r :: rs, ⟨r, rs, hr, hrs, rfl⟩, rfl⟩
    · rintro ⟨_, ⟨r, rs, hr, hrs, rfl⟩, rfl⟩
      exact ⟨_, _, ⟨r, hr, rfl⟩, ⟨rs, hrs, rfl⟩, rfl⟩

theorem parsed_append {pre post : List Str} : ∀ {before : Nat} {rs : List Record}, Parsed before (pre ++ post) rs ↔
    ∃ xs ys, Parsed before pre xs ∧ Parsed (before + pre.length) post ys ∧ rs = xs ++ ys := by
  induction pre with
  | nil => simp [parsed_nil]
  | cons line pre ih =>
    intro before rs
    have hnext : before + (line :: pre).length = before + 1 + pre.length := by
      rw [List.length_cons]
      omega
    simp only [List.cons_append, parsed_cons, ih, hnext]
    constructor
    · rintro ⟨r, _, hr, ⟨xs, ys, hxs, hys, rfl⟩, rfl⟩
      exact ⟨r :: xs, ys, ⟨r, xs, hr, hxs, rfl⟩, hys, rfl⟩
    · rintro ⟨_, ys, ⟨r, xs, hr, hxs, rfl⟩, hys, rfl⟩
      exact ⟨r, xs ++ ys, hr, ⟨xs, ys, hxs, hys, rfl⟩, rfl⟩

/-! ## Scripts -/

/-- A script is read when every line is, and there is room for the records. -/
theorem parseScript_ok {text : Str} {maxRecords : Nat} {s : Script} : parseScript text maxRecords = .ok s ↔
    ∃ rs, Parsed 0 (text.splitOn 10) rs ∧ (rs.filter Record.kept).length ≤ maxRecords ∧
    s = .of (rs.filter Record.kept) := by
  have h : readLines maxRecords (.of []) 0 (text.splitOn 10) = .ok s ↔ _ := readLines_ok (Nat.zero_le maxRecords)
  simpa [parseScript, Script.of] using h

/-- Every record that is kept is counted once. -/
theorem sum_counts {records : List Record} (h : ∀ r ∈ records, r.kept = true) :
    (Script.of records).sourceRecords + (Script.of records).observationRecords + (Script.of records).atRecords +
      (Script.of records).tickRecords + (Script.of records).freezeRecords = records.length := by
  obtain ⟨hsource, hobservation, hat, htick, hfreeze⟩ := of_counts records
  rw [hsource, hobservation, hat, htick, hfreeze]
  clear hsource hobservation hat htick hfreeze
  induction records with
  | nil => rfl
  | cons r records ih =>
    have hrest := ih fun r hr => h r (List.mem_cons_of_mem _ hr)
    have hkept := h r List.mem_cons_self
    simp only [List.countP_cons, List.length_cons]
    cases hkind : r.kind with
    | Comment => simp [Record.kept, hkind] at hkept
    | Source | Observation | At | Tick | Freeze => simp; omega

/-- Every counter of a script is that of its kind, and every record is counted once. -/
structure Script.Counted (s : Script) : Prop where
  sources : s.sourceRecords = s.records.countP (·.kind == .Source)
  observations : s.observationRecords = s.records.countP (·.kind == .Observation)
  ats : s.atRecords = s.records.countP (·.kind == .At)
  ticks : s.tickRecords = s.records.countP (·.kind == .Tick)
  freezes : s.freezeRecords = s.records.countP (·.kind == .Freeze)
  once : s.sourceRecords + s.observationRecords + s.atRecords + s.tickRecords + s.freezeRecords = s.records.length

/-- **What a script is read as.** It is read when every line is and there is room for the records, and gives these
with the counts of their kinds; otherwise the first line that fails under its number, or whose record there is no room
for, decides. -/
theorem parse_script_exact (text : Str) (maxRecords : Nat) :
    (∀ s, parseScript text maxRecords = .ok s ↔ ∃ rs, Parsed 0 (text.splitOn 10) rs ∧
      (rs.filter Record.kept).length ≤ maxRecords ∧ s = .of (rs.filter Record.kept)) ∧
    (∀ err, parseScript text maxRecords = .error err ↔ ∃ pre line post rs, text.splitOn 10 = pre ++ line :: post ∧
      Parsed 0 pre rs ∧ (rs.filter Record.kept).length ≤ maxRecords ∧
      (parseLine line (pre.length + 1) = .error err ∨ ∃ r, parseLine line (pre.length + 1) = .ok r ∧ r.kept = true ∧
        (rs.filter Record.kept).length = maxRecords ∧ err = tooManyRecords)) ∧
    ∀ s, parseScript text maxRecords = .ok s → s.Counted := by
  refine ⟨fun s => parseScript_ok, fun err => ?_, fun s hs => ?_⟩
  · have h : readLines maxRecords (.of []) 0 (text.splitOn 10) = .error err ↔
        _ := readLines_error (Nat.zero_le maxRecords)
    rw [parseScript, show ({} : Script) = .of [] from rfl, h]
    simp only [List.nil_append, Nat.zero_add, readLine_error]
    constructor
    · rintro ⟨pre, line, post, rs, htext, hrs, hroom, herr⟩
      refine ⟨pre, line, post, rs, htext, hrs, hroom, herr.imp_right ?_⟩
      rintro ⟨r, hr, hkept, hfull, rfl⟩
      exact ⟨r, hr, hkept, by omega, rfl⟩
    · rintro ⟨pre, line, post, rs, htext, hrs, hroom, herr⟩
      refine ⟨pre, line, post, rs, htext, hrs, hroom, herr.imp_right ?_⟩
      rintro ⟨r, hr, hkept, hfull, rfl⟩
      exact ⟨r, hr, hkept, by omega, rfl⟩
  · obtain ⟨rs, -, -, rfl⟩ := parseScript_ok.1 hs
    obtain ⟨hsources, hobservations, hats, hticks, hfreezes⟩ := of_counts (rs.filter Record.kept)
    have honce := @sum_counts (rs.filter Record.kept) fun r hr => List.of_mem_filter hr
    constructor <;> rw [of_records] <;> assumption

/-- **Two texts with a line end between them** are read as the one script behind the other, when there is room for
both. -/
theorem parseScript_join {a b : Str} {maxRecords : Nat} {s : Script} : parseScript (a ++ 10 :: b) maxRecords = .ok s ↔
    ∃ sa sb, parseScript a maxRecords = .ok sa ∧ parseScript b maxRecords = .ok sb ∧
      sa.records.length + sb.records.length ≤ maxRecords ∧
      s = .of (sa.records ++ sb.records.map (Record.moved (a.splitOn 10).length)) := by
  have hfilter : ∀ (k : Nat) (rs : List Record), (rs.map (Record.moved k)).filter Record.kept =
      (rs.filter Record.kept).map (Record.moved k) := fun k rs => by
    rw [List.filter_map]
    rfl
  have hlines : (a ++ 10 :: b).splitOn 10 = a.splitOn 10 ++ b.splitOn 10 := List.splitOnP_append_cons a b (by decide)
  simp only [parseScript_ok, hlines, parsed_append]
  constructor
  · rintro ⟨_, ⟨xs, ys, hxs, hys, rfl⟩, hroom, rfl⟩
    obtain ⟨zs, hzs, rfl⟩ := parsed_moved.1 hys
    rw [List.filter_append, hfilter, List.length_append, List.length_map] at hroom
    refine ⟨_, _, ⟨xs, hxs, by omega, rfl⟩, ⟨zs, hzs, by omega, rfl⟩, ?_, ?_⟩
    · rw [of_records, of_records]
      exact hroom
    · rw [of_records, of_records, List.filter_append, hfilter]
  · rintro ⟨_, _, ⟨xs, hxs, hroomx, rfl⟩, ⟨ys, hys, hroomy, rfl⟩, hroom, rfl⟩
    rw [of_records, of_records] at hroom ⊢
    refine ⟨_, ⟨xs, _, hxs, parsed_moved.2 ⟨ys, hys, rfl⟩, rfl⟩, ?_, ?_⟩
    · rw [List.filter_append, hfilter, List.length_append, List.length_map]
      exact hroom
    · rw [List.filter_append, hfilter]

end FlowObs.Fo1
