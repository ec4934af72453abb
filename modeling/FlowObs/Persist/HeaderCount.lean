import FlowObs.Persist.JournalRun

/-!
# The record count of the header

A path on which one handle after the other is opened, used and closed (`JournalSession`). The count in the header of
the file is compared with the records that the file holds in full. A rewrite writes the right count to the file and
keeps zero in memory, so that the count of a later flush lacks the records of the rewrite. `HeaderLag` follows what
the two counts lack, from the calls alone (`follows_step`), and a flush leaves the right count exactly when the file's
lacks nothing (`header_count_iff`).
-/

namespace FlowObs

open Binary Run

/-! ## Sessions -/

/-- The calls on a journal. -/
inductive SessionOp
  | opens (options : JournalOpenOptions)
  | use (op : JournalOp)
deriving DecidableEq, Repr

/-- A path with the handle that was opened last. What the handle holds as its file is what the path names. -/
structure JournalSession where
  path : Str := []
  handle : Option Journal := none
deriving DecidableEq, Repr

namespace JournalSession

/-- The bytes of the file, when there is one. -/
def disk (s : JournalSession) : Option (List UInt8) := s.handle.map (·.file.bytes)

/-- One call. A journal is not opened while its handle is open. -/
def call (s : JournalSession) : SessionOp → JournalSession × Except Error Unit
  | .opens options =>
    if s.handle.any (·.isOpen) then
      (s, .error ⟨.AlreadyOpen, str "journal is already open for writing by another runtime: " ++ s.path⟩)
    else match Journal.openFile s.path s.disk options with
      | .error e => (s, .error e)
      | .ok j => ({ s with handle := some j }, .ok ())
  | .use op =>
    match s.handle with
    | none => (s, .error ⟨.NotOpen, str "journal is not open"⟩)
    | some j => ({ s with handle := some (j.call op).1 }, (j.call op).2)

/-- The session after a call. -/
def step (s : JournalSession) (op : SessionOp) : JournalSession := (s.call op).1

/-- The call returns Ok. -/
def Succeeds (s : JournalSession) (op : SessionOp) : Prop := (s.call op).2 = .ok ()

instance (s : JournalSession) (op : SessionOp) : Decidable (s.Succeeds op) := inferInstanceAs (Decidable (_ = _))

end JournalSession

/-! ## The count on disk -/

/-- `record_count` as the header of a file has it. -/
def storedCount (bytes : List UInt8) : Option UInt64 := (readU64.run (bytes.drop 32)).map (·.1)

/-- The number of records whose header and payload are complete, from the front on. -/
def countRecords : Nat → List UInt8 → Nat
  | 0, _ => 0
  | fuel + 1, bytes =>
    match readRecordHead.run bytes with
    | none => 0
    | some ((_, _, length, _), rest) =>
      if rest.length < length.toNat then 0 else countRecords fuel (rest.drop length.toNat) + 1

/-- The number of complete records in a file. A record takes at least one byte. -/
def completeRecords (bytes : List UInt8) : Nat := countRecords bytes.length (bytes.drop kHeaderBytes)

/-- The count in the header is the number of complete records, as the 64-bit number that it is. -/
def JournalSession.CountAgrees (s : JournalSession) : Prop :=
  ∃ bytes, s.disk = some bytes ∧ storedCount bytes = some (UInt64.ofNat (completeRecords bytes))

/-- The lengths of the payloads fit into the four bytes that a record has for it. -/
def Framed (records : List Record) : Prop := ∀ r ∈ records, r.payload.length < 2 ^ 32

instance (records : List Record) : Decidable (Framed records) := inferInstanceAs (Decidable (∀ _ ∈ records, _))

theorem storedCount_encode (h : JournalHeader) (body : List UInt8) :
    storedCount (encodeHeader h ++ body) = some h.recordCount := by
  have hsplit : encodeHeader h ++ body = (kMagic ++ (u16 h.formatVersion ++ u16 h.identityScheme ++ u32 h.flags
      ++ putNum h.runtimeEpoch ++ putTime h.createdAt)) ++ (u64 h.recordCount ++ (u64 0 ++ (u32 0
        ++ (u32 (crc32c (kMagic ++ putHeaderFields h)) ++ (List.replicate 8 0 ++ body))))) := by
    simp [encodeHeader, putHeaderFields, List.append_assoc]
  have hlen : (kMagic ++ (u16 h.formatVersion ++ u16 h.identityScheme ++ u32 h.flags ++ putNum h.runtimeEpoch
      ++ putTime h.createdAt)).length = 32 := by
    simp [kMagic, putNum, putTime, i64]
  rw [storedCount, hsplit, List.drop_left' hlen, readU64_u64]
  rfl

theorem countRecords_encode : ∀ {records : List Record} {fuel : Nat}, Framed records → records.length ≤ fuel →
    countRecords fuel (records.flatMap encodeRecord) = records.length
  | [], 0, _, _ => rfl
  | [], fuel + 1, _, _ => by
    rw [List.flatMap_nil, countRecords, readRecordHead_of_lt (by decide)]
    rfl
  | r :: records, 0, _, hfuel => absurd hfuel (by simp)
  | r :: records, fuel + 1, hframed, hfuel => by
    have hlen : (UInt32.ofNat r.payload.length).toNat = r.payload.length := by
      simpa using Nat.mod_eq_of_lt (hframed r List.mem_cons_self)
    have hshort : ¬ (r.payload ++ records.flatMap encodeRecord).length < r.payload.length := by simp
    have ih := @countRecords_encode records fuel
      (fun r' hr' => hframed r' (List.mem_cons_of_mem _ hr')) (by simpa using hfuel)
    rw [List.flatMap_cons, countRecords, ← frame_zero, readRecordHead_frame]
    simp only [hlen, if_neg hshort, List.drop_left', ih, List.length_cons]

/-- The records of a file that was written whole are its complete records. -/
theorem completeRecords_encode {records : List Record} (hframed : Framed records) (h : JournalHeader) :
    completeRecords (encodeHeader h ++ records.flatMap encodeRecord) = records.length := by
  have hle := Journal.length_le_encodeRecords records
  rw [completeRecords, List.drop_left' (length_encodeHeader h)]
  exact countRecords_encode hframed (by rw [List.length_append]; omega)

/-! ## What the counts lack -/

/-- What the count in the file and the count in memory lack of the number of records, and whether a flush writes. -/
structure HeaderLag where
  present : Bool := false
  disk : UInt64 := 0
  handle : UInt64 := 0
  dirty : Bool := false
deriving DecidableEq, Repr

/-- The effect of a call that returns Ok. -/
def HeaderLag.after (lag : HeaderLag) : SessionOp → HeaderLag
  | .opens options =>
    if !lag.present || (options.truncateExisting && !options.readOnly) then { present := true, dirty := true }
    else { lag with handle := lag.disk, dirty := false }
  | .use (.append _) => { lag with dirty := true }
  | .use (.rewrite records _ _) => { lag with disk := 0, handle := UInt64.ofNat records.length }
  | .use .flush | .use .close => if lag.dirty then { lag with disk := lag.handle, dirty := false } else lag

/-- The payloads of a rewrite, which does not bound them, are framed. -/
def SessionOp.Fits : SessionOp → Prop
  | .use (.rewrite records _ _) => Framed records
  | .use (.append _) | .use .flush | .use .close | .opens _ => True

instance : DecidablePred SessionOp.Fits
  | .use (.rewrite records _ _) => inferInstanceAs (Decidable (Framed records))
  | .use (.append _) | .use .flush | .use .close | .opens _ => isTrue trivial

/-- A call that returns Ok, and does not rewrite with a payload whose length does not fit. -/
def JournalSession.Regular (s : JournalSession) (op : SessionOp) : Prop := s.Succeeds op ∧ op.Fits

instance (s : JournalSession) (op : SessionOp) : Decidable (s.Regular op) := inferInstanceAs (Decidable (_ ∧ _))

namespace Journal

/-- A handle on a file with the given records, and what its counts lack of their number. -/
structure Follows (j : Journal) (records : List Record) (lag : HeaderLag) : Prop where
  disk : ∃ h : JournalHeader, h.formatVersion = kJournalFormatVersion ∧ h.identityScheme = 1 ∧
    j.file.bytes = encodeHeader h ++ records.flatMap encodeRecord ∧
    (lag.dirty = false → h.recordCount + lag.disk = UInt64.ofNat records.length)
  counted : j.header.recordCount + lag.handle = UInt64.ofNat records.length
  version : j.header.formatVersion = kJournalFormatVersion
  scheme : j.header.identityScheme = 1
  atEnd : j.isOpen = true → j.readOnly = false → j.file.position = j.file.bytes.length
  dirty : j.dirty = lag.dirty
  busy : lag.dirty = true → j.isOpen = true ∧ j.readOnly = false
  framed : Framed records
  bounds : j.limits.Valid
  present : lag.present = true

variable {j : Journal} {records : List Record} {lag : HeaderLag}

theorem Follows.holds (h : Follows j records lag) (hw : j.readOnly = false) :
    Holds { limits := j.limits } j records := by
  obtain ⟨head, hversion, hscheme, hbytes, -⟩ := h.disk
  exact ⟨⟨head, hversion, hscheme, hbytes⟩, h.version, h.scheme, fun ho => h.atEnd ho hw, hw, rfl⟩

/-- What the loop of `append` counts, and the payloads that it takes. -/
theorem writeRecords_count : ∀ {rs : List Record} {j k : Journal}, j.writeRecords rs = (k, .ok ()) →
    k.header = { j.header with recordCount := j.header.recordCount + UInt64.ofNat rs.length } ∧
      k.isOpen = j.isOpen ∧ k.readOnly = j.readOnly ∧ k.limits = j.limits ∧
      ∀ r ∈ rs, r.payload.length ≤ maxPayload j.limits
  | [], j, k, h => by
    cases h
    exact ⟨by simp, rfl, rfl, rfl, fun r hr => absurd hr List.not_mem_nil⟩
  | r :: rs, j, k, h => by
    rw [writeRecords] at h
    split at h
    · cases h
    · rename_i hpayload
      obtain ⟨hheader, hopen, hread, hlimits, hall⟩ := writeRecords_count h
      refine ⟨?_, hopen, hread, hlimits, fun r' hr' => ?_⟩
      · rw [hheader, List.length_cons, UInt64.ofNat_add, UInt64.add_comm (UInt64.ofNat rs.length), ← UInt64.add_assoc]
        rfl
      · rcases List.mem_cons.1 hr' with rfl | hr'
        · exact Nat.not_lt.1 hpayload
        · exact hall r' hr'

theorem Follows.append {rs : List Record} (h : Follows j records lag) (hok : (j.append rs).2 = .ok ()) :
    Follows (j.append rs).1 (records ++ rs) { lag with dirty := true } := by
  obtain ⟨hopen, k, hwrite, hk⟩ := append_ok hok
  have hread : j.readOnly = false := by
    rw [Journal.append, if_neg (by simp [hopen])] at hok
    split at hok
    · cases hok
    · simp_all
  obtain ⟨hheader, hopen', hread', hlimits, hpayloads⟩ := writeRecords_count hwrite
  have hholds := holds_writeRecords (h.holds hread) hopen hwrite
  obtain ⟨head, hversion, hscheme, hbytes⟩ := hholds.disk
  rw [hk]
  refine ⟨⟨head, hversion, hscheme, hbytes, fun hd => by cases hd⟩, ?_, hholds.version, hholds.scheme,
    fun ho _ => hholds.atEnd ho, rfl, fun _ => ⟨hopen'.trans hopen, hread'.trans hread⟩, fun r hr => ?_, ?_, h.present⟩
  · show k.header.recordCount + lag.handle = _
    rw [hheader, List.length_append, UInt64.ofNat_add, ← h.counted, UInt64.add_assoc, UInt64.add_assoc,
      UInt64.add_comm lag.handle]
  · rcases List.mem_append.1 hr with hr | hr
    · exact h.framed r hr
    · exact lt_of_le_of_lt (hpayloads r hr) (maxPayload_lt h.bounds)
  · show k.limits.Valid
    rw [hlimits]
    exact h.bounds

theorem Follows.flush (h : Follows j records lag) : Follows j.flush.1 records (lag.after (.use .flush)) := by
  rw [HeaderLag.after]
  by_cases hdirty : lag.dirty = true
  · obtain ⟨hopen, hread⟩ := h.busy hdirty
    obtain ⟨head, -, -, hbytes, -⟩ := h.disk
    rw [if_pos hdirty, flush_dirty (h.dirty.trans hdirty) hopen hread hbytes]
    exact ⟨⟨j.header, h.version, h.scheme, rfl, fun _ => h.counted⟩, h.counted, h.version, h.scheme,
      fun _ _ => rfl, rfl,
      (fun hd => by cases hd), h.framed, h.bounds, h.present⟩
  · have hquiet : j.flush.1 = j := by
      have hclean : j.dirty = false := h.dirty.trans (Bool.eq_false_iff.2 hdirty)
      unfold Journal.flush
      split
      · rfl
      · rw [if_pos (by rw [hclean]; simp)]
    rw [if_neg hdirty, hquiet]
    exact h

theorem Follows.close (h : Follows j records lag) : Follows j.close.1 records (lag.after (.use .close)) := by
  have hf := h.flush
  have hclean : (lag.after (.use .flush)).dirty = false := by
    rw [HeaderLag.after]
    split
    · rfl
    · rename_i hdirty
      exact Bool.eq_false_iff.2 hdirty
  unfold Journal.close
  split
  · rename_i hclosed
    have hsame : lag.after (.use .close) = lag := by
      rw [HeaderLag.after, if_neg]
      intro hdirty
      have hopen := (h.busy hdirty).1
      simp [hopen] at hclosed
    rw [hsame]
    exact h
  · exact ⟨hf.disk, hf.counted, hf.version, hf.scheme, (fun ho => by cases ho), hf.dirty,
      (fun hd => by rw [show lag.after (.use .close) = lag.after (.use .flush) from rfl, hclean] at hd; cases hd),
      hf.framed, hf.bounds, hf.present⟩

theorem Follows.rewrite {rs : List Record} {epoch : RuntimeEpoch} {createdAt : Timestamp} (h : Follows j records lag)
    (hframed : Framed rs) (hok : (j.rewrite rs epoch createdAt).2 = .ok ()) :
    Follows (j.rewrite rs epoch createdAt).1 rs (lag.after (.use (.rewrite rs epoch createdAt))) := by
  have hread : j.readOnly = false := by
    rw [Journal.rewrite] at hok
    split at hok
    · cases hok
    · simp_all
  rw [Journal.rewrite, if_neg (by rw [hread]; exact Bool.false_ne_true)]
  refine ⟨⟨{ j.header with runtimeEpoch := epoch, createdAt := createdAt, recordCount := UInt64.ofNat rs.length },
    h.version,
    h.scheme, rfl, fun _ => UInt64.add_zero _⟩, ?_, h.version, h.scheme, fun _ _ => rfl, h.dirty,
      fun _ => ⟨rfl, hread⟩, hframed,
    h.bounds, h.present⟩
  exact UInt64.zero_add _

/-- **One call of a handle** that returns Ok. -/
theorem follows_call {op : JournalOp} (h : Follows j records lag) (hok : (j.call op).2 = .ok ())
    (hfits : SessionOp.Fits (.use op)) :
    Follows (j.call op).1 (op.after records) (lag.after (.use op)) := by
  cases op with
  | append rs => exact h.append hok
  | flush => exact h.flush
  | rewrite rs epoch createdAt => exact h.rewrite hfits hok
  | close => exact h.close

theorem follows_create (path : Str) {options : JournalOpenOptions} (hvalid : options.limits.Valid) :
    Follows (create path options) [] { present := true, dirty := true } := by
  obtain ⟨⟨head, hversion, hscheme, hbytes⟩, hv, hs, hend, hread, -⟩ := holds_create path options
  exact ⟨⟨head, hversion, hscheme, hbytes, fun hd => by cases hd⟩, rfl, hv, hs, fun ho _ => hend ho, rfl,
    fun _ => ⟨rfl, rfl⟩,
    fun r hr => absurd hr List.not_mem_nil, hvalid, rfl⟩

/-- A handle on a file that was left by another one. -/
theorem Follows.attach {k : Journal} {path : Str} {options : JournalOpenOptions} (h : Follows j records lag)
    (hclean : lag.dirty = false) (hvalid : options.limits.Valid)
      (hok : Journal.attach path options j.file.bytes = .ok k) :
    Follows k records { lag with handle := lag.disk, dirty := false } := by
  obtain ⟨head, hversion, hscheme, hbytes, hcount⟩ := h.disk
  rw [Journal.attach, hbytes, decodeHeader_encode _ hversion hscheme] at hok
  cases hok
  refine ⟨⟨head, hversion, hscheme, ?_, fun _ => hcount hclean⟩, hcount hclean, hversion, hscheme, fun _ hw => ?_, rfl,
    (fun hd => by cases hd), h.framed, hvalid, h.present⟩
  · show (if options.readOnly = true then _ else _ : FileStream).bytes = _
    split <;> rfl
  · have hw' : options.readOnly = false := hw
    show (if options.readOnly = true then _ else _ : FileStream).position
      = (if options.readOnly = true then _ else _ : FileStream).bytes.length
    rw [hw']
    rfl

end Journal

namespace JournalSession

variable {s : JournalSession} {lag : HeaderLag}

/-- No file and no handle yet, or a handle on a file with some records. -/
def Tracks (s : JournalSession) (lag : HeaderLag) : Prop :=
  s.handle = none ∧ lag = {} ∨ ∃ j records, s.handle = some j ∧ Journal.Follows j records lag

theorem call_none (hs : s.handle = none) (op : JournalOp) :
    s.call (.use op) = (s, .error ⟨.NotOpen, str "journal is not open"⟩) := by
  rw [call, hs]

theorem call_some {j : Journal} (hs : s.handle = some j) (op : JournalOp) :
    s.call (.use op) = ({ s with handle := some (j.call op).1 }, (j.call op).2) := by
  rw [call, hs]

/-- What a successful open has done. -/
theorem opens_ok {options : JournalOpenOptions} (h : s.Succeeds (.opens options)) : s.handle.any (·.isOpen) = false ∧
    ∃ j, Journal.openFile s.path s.disk options = .ok j ∧ s.step (.opens options) = { s with handle := some j } := by
  rw [Succeeds, call] at h
  rw [step, call]
  by_cases hclosed : s.handle.any (·.isOpen) = true
  · rw [if_pos hclosed] at h
    cases h
  · rw [if_neg hclosed] at h
    refine ⟨Bool.eq_false_iff.2 hclosed, ?_⟩
    rw [if_neg hclosed]
    cases hopen : Journal.openFile s.path s.disk options with
    | error e =>
      rw [hopen] at h
      cases h
    | ok j => exact ⟨j, rfl, rfl⟩

/-- **One call.** -/
theorem tracks_step (s : JournalSession) (lag : HeaderLag) (op : SessionOp) (h : s.Tracks lag) (hop : s.Regular op) :
    (s.step op).Tracks (lag.after op) := by
  obtain ⟨hok, hfits⟩ := hop
  cases op with
  | opens options =>
    obtain ⟨hclosed, j, hopen, hstep⟩ := opens_ok hok
    rw [hstep]
    unfold Journal.openFile at hopen
    rw [bind_ok] at hopen
    obtain ⟨_, hvalid, hopen⟩ := hopen
    have hlimits := Limits.valid_of_validate hvalid
    rcases h with ⟨hnone, rfl⟩ | ⟨j', records, hsome, hfollows⟩
    · refine .inr ⟨j, [], rfl, ?_⟩
      rw [disk, hnone] at hopen
      obtain rfl : Journal.create s.path options = j := by
        revert hopen
        simp only [Option.map_none, pure_eq_ok]
        split
        · exact fun h => nomatch h
        · split
          · exact fun h => nomatch h
          · exact Except.ok.inj
      exact Journal.follows_create s.path hlimits
    · have hshut : j'.isOpen = false := by simpa [hsome] using hclosed
      have hclean : lag.dirty = false := by
        refine Bool.eq_false_iff.2 fun hdirty => ?_
        rw [(hfollows.busy hdirty).1] at hshut
        cases hshut
      rw [disk, hsome] at hopen
      simp only [Option.map_some] at hopen
      rw [HeaderLag.after, hfollows.present]
      by_cases htruncate : (options.truncateExisting && !options.readOnly) = true
      · rw [if_pos htruncate] at hopen
        cases hopen
        rw [if_pos (by rw [htruncate]; rfl)]
        exact .inr ⟨_, [], rfl, Journal.follows_create s.path hlimits⟩
      · rw [if_neg htruncate] at hopen
        rw [if_neg (by simpa using htruncate)]
        have hattach := hfollows.attach hclean hlimits hopen
        rw [hfollows.present] at hattach
        exact .inr ⟨j, records, rfl, hattach⟩
  | use op =>
    rcases h with ⟨hnone, -⟩ | ⟨j, records, hsome, hfollows⟩
    · rw [Succeeds, call_none hnone] at hok
      cases hok
    · have hcall : (j.call op).2 = .ok () := by
        rw [Succeeds, call_some hsome] at hok
        exact hok
      refine .inr ⟨(j.call op).1, op.after records, ?_, Journal.follows_call hfollows hcall hfits⟩
      rw [step, call_some hsome]

/-- **Any number of calls.** -/
theorem tracks_run {path : Str} {ops : List SessionOp} (h : Along step Regular { path := path } ops) :
    (exec step { path := path } ops).Tracks (exec HeaderLag.after {} ops) :=
  h.simulation tracks_step (.inl ⟨rfl, rfl⟩)

/-- When nothing waits to be flushed, the count of the file is right exactly when it lacks nothing. -/
theorem Tracks.agrees_iff (h : s.Tracks lag) (hpresent : s.handle ≠ none) (hclean : lag.dirty = false) :
    s.CountAgrees ↔ lag.disk = 0 := by
  rcases h with ⟨hnone, -⟩ | ⟨j, records, hsome, hfollows⟩
  · exact absurd hnone hpresent
  obtain ⟨head, -, -, hbytes, hcount⟩ := hfollows.disk
  have hstored : storedCount j.file.bytes = some head.recordCount := by rw [hbytes, storedCount_encode]
  have hcomplete : completeRecords j.file.bytes = records.length := by rw [hbytes,
    completeRecords_encode hfollows.framed]
  have hdisk : s.disk = some j.file.bytes := by rw [disk, hsome]; rfl
  have hiff : s.CountAgrees ↔ head.recordCount = UInt64.ofNat records.length := by
    unfold CountAgrees
    rw [hdisk]
    simp [hstored, hcomplete]
  rw [hiff, ← hcount hclean]
  constructor
  · intro heq
    have hself : head.recordCount + lag.disk = head.recordCount + 0 := by rw [← heq, UInt64.add_zero]
    exact UInt64.add_right_inj _ |>.1 hself
  · intro hzero
    rw [hzero, UInt64.add_zero]

/-- **After a flush the count of the header is right exactly when it lacks no record of a rewrite.** The path names no
file at first; the calls return Ok and end with the flush. -/
theorem header_count_iff {path : Str} {ops : List SessionOp}
    (h : Along step Regular { path := path } (ops ++ [.use .flush])) :
    (exec step { path := path } (ops ++ [.use .flush])).CountAgrees ↔
      (exec HeaderLag.after {} (ops ++ [.use .flush])).disk = 0 := by
  refine (tracks_run h).agrees_iff ?_ ?_
  · -- a flush without a handle does not return Ok
    obtain ⟨-, ⟨hok, -⟩, -⟩ := along_append.1 h
    rw [exec_append, exec_cons, exec_nil]
    cases hs : (exec step { path := path } ops).handle with
    | none =>
      rw [Succeeds, call_none hs] at hok
      cases hok
    | some j =>
      rw [step, call_some hs]
      exact Option.some_ne_none _
  · rw [exec_append, exec_cons, exec_nil, HeaderLag.after]
    split
    · rfl
    · rename_i hdirty
      exact Bool.eq_false_iff.2 hdirty

/-- A record of one byte. -/
def oneByte : Record := ⟨.ObservationRecord, [7]⟩

/-- Two records are counted over a reopening and a rewrite without records. -/
theorem header_count_reopened :
    (exec step {} ([.opens {}, .use (.append [oneByte]), .use .close, .opens {}, .use (.rewrite [] ⟨1⟩ ⟨0⟩),
      .use (.append [oneByte, oneByte])] ++ [.use .flush])).CountAgrees :=
  (@header_count_iff [] _ (by decide +kernel)).2 (by with_unfolding_all decide)

/-- **One record is rewritten and one appended**: the header says one. -/
theorem header_count_lost : ¬ ∀ (path : Str) (ops : List SessionOp),
    Along step Succeeds { path := path } (ops ++ [.use .flush]) →
      (exec step { path := path } (ops ++ [.use .flush])).CountAgrees := by
  intro h
  have hrun : Along step Regular {}
      [.opens {}, .use (.rewrite [oneByte] ⟨1⟩ ⟨0⟩), .use (.append [oneByte]), .use .flush] := by
    decide
  have hok := h [] [.opens {}, .use (.rewrite [oneByte] ⟨1⟩ ⟨0⟩), .use (.append [oneByte])]
    (hrun.strengthen (P := fun _ => True) (fun _ _ _ _ => trivial) (fun _ _ _ hs => hs.1) trivial)
  have hzero := ((@tracks_run [] _ hrun).agrees_iff (by decide) rfl).1 hok
  exact absurd hzero (by decide)

end JournalSession

end FlowObs
