import FlowObs.Persist.JournalRun

/-!
# Several handles on one journal

A path that any number of handles open, use and close (`SharedJournal`). The path names a file. A handle holds an open
file description on a file, and the lock, when it is taken, belongs to the description: `open` takes it for writing,
closing the description gives it up, and `rewrite` puts a new file in the place of the old one and opens it without a
lock. Operations are atomic and the descriptions of one file share its bytes.

The lock keeps a second writer out while the only writer holds it on the file that the path names
(`SharedJournal.Exclusive`). `single_writer_iff` says which runs that is true of.
-/

namespace FlowObs

open Run

/-- A handle and its open file description: the number of the file, and whether the lock was taken through it. -/
structure Handle where
  journal : Journal
  file : Nat
  locked : Bool
deriving DecidableEq, Repr

/-- The handle is open for writing. -/
def Handle.writes (h : Handle) : Bool := h.journal.isOpen && !h.journal.readOnly

/-- A path, the bytes of every file that it has named, the file that it names now, and the handles opened on it. -/
structure SharedJournal where
  path : Str := []
  files : List (List UInt8) := []
  name : Option Nat := none
  handles : List Handle := []
deriving DecidableEq, Repr

/-- The operations of all handles, which are named by the order in which they were opened. -/
inductive SharedOp
  | opens (options : JournalOpenOptions)
  | call (handle : Nat) (op : JournalOp)
deriving DecidableEq, Repr

namespace SharedJournal

/-- Some open file description holds the lock on the file. -/
def lockHeld (s : SharedJournal) (file : Nat) : Bool := s.handles.any (fun h => h.locked && h.file == file)

/-- The bytes that are found at the path. -/
def contents (s : SharedJournal) : Option (List UInt8) := s.name.map (fun file => s.files.getD file [])

/-- A handle for writing on a new file that the path names from now on. -/
def create (s : SharedJournal) (j : Journal) : SharedJournal :=
  { s with files := s.files ++ [j.file.bytes], name := some s.files.length
           handles := s.handles ++ [⟨j, s.files.length, true⟩] }

/-- `Journal::open`. A truncating open removes the name before it looks for a lock. -/
def opens (s : SharedJournal) (options : JournalOpenOptions) : SharedJournal × Except Error Unit :=
  match s.name with
  | none =>
    match Journal.openFile s.path none options with
    | .error e => (s, .error e)
    | .ok j => (s.create j, .ok ())
  | some file =>
    match options.limits.validate with
    | .error e => (s, .error e)
    | .ok () =>
      if options.truncateExisting && !options.readOnly then (s.create (Journal.create s.path options), .ok ())
      else if !options.readOnly && s.lockHeld file then
        (s, .error ⟨.AlreadyOpen, str "journal is already open for writing by another runtime: " ++ s.path⟩)
      else match Journal.attach s.path options (s.files.getD file []) with
        | .error e => (s, .error e)
        | .ok j => ({ s with handles := s.handles ++ [⟨j, file, !options.readOnly⟩] }, .ok ())

/-- An operation of one handle, on the bytes that its file has now. -/
def call (s : SharedJournal) (k : Nat) (op : JournalOp) : SharedJournal × Except Error Unit :=
  match s.handles[k]? with
  | none => (s, .ok ())
  | some h =>
    let j := { h.journal with file := { h.journal.file with bytes := s.files.getD h.file [] } }
    let r := j.call op
    match op with
    | .rewrite _ _ _ =>
      -- the file is renamed over the path, and opened again without the lock
      if j.readOnly then (s, r.2)
      else ({ s with files := s.files ++ [r.1.file.bytes], name := some s.files.length
                     handles := s.handles.set k ⟨r.1, s.files.length, false⟩ }, r.2)
    | .close =>
      ({ s with files := s.files.set h.file r.1.file.bytes, handles := s.handles.set k ⟨r.1, h.file, false⟩ }, r.2)
    | .append _ | .flush =>
      ({ s with files := s.files.set h.file r.1.file.bytes, handles := s.handles.set k ⟨r.1, h.file, h.locked⟩ }, r.2)

/-- The state after an operation. -/
def step (s : SharedJournal) : SharedOp → SharedJournal
  | .opens options => (s.opens options).1
  | .call k op => (s.call k op).1

/-- **At most one handle is open for writing.** -/
def SingleWriter (s : SharedJournal) : Prop := ∀ (k l : Nat) (h h' : Handle), s.handles[k]? = some h →
  s.handles[l]? = some h' → h.writes = true → h'.writes = true → k = l

/-- The only writer can hold the lock, and if it does it holds it on the file that the path names. -/
structure Exclusive (s : SharedJournal) : Prop where
  single : s.SingleWriter
  writes : ∀ h ∈ s.handles, h.locked = true → h.writes = true
  named : ∀ h ∈ s.handles, h.locked = true → s.name = some h.file

/-- An operation that the lock guards. When a handle is opened for writing and another is open for writing, that other
holds its lock and the open does not truncate, unless the open is refused for what it finds. A closed handle is not
rewritten while another is open for writing. -/
def Guarded (s : SharedJournal) : SharedOp → Prop
  | .opens options =>
    options.readOnly = true ∨ (∃ e, Journal.openFile s.path s.contents options = .error e) ∨
      ∀ h ∈ s.handles, h.writes = true → h.locked = true ∧ options.truncateExisting = false
  | .call k (.rewrite _ _ _) => ∀ h, s.handles[k]? = some h → h.journal.readOnly = false →
      ∀ l h', s.handles[l]? = some h' → h'.writes = true → l = k
  | .call _ (.append _) | .call _ .flush | .call _ .close => True

/-! ## What the operations of a handle leave open -/

theorem writeRecords_frame : ∀ (records : List Record) (j : Journal),
    (j.writeRecords records).1.isOpen = j.isOpen ∧ (j.writeRecords records).1.readOnly = j.readOnly
  | [], j => ⟨rfl, rfl⟩
  | r :: records, j => by
    unfold Journal.writeRecords
    split
    · exact ⟨rfl, rfl⟩
    · exact writeRecords_frame records (j.writeRecord r)

theorem append_frame (j : Journal) (records : List Record) :
    (j.append records).1.isOpen = j.isOpen ∧ (j.append records).1.readOnly = j.readOnly := by
  have hframe := writeRecords_frame records j
  unfold Journal.append
  split
  · exact ⟨rfl, rfl⟩
  · split
    · exact ⟨rfl, rfl⟩
    · simp only
      split
      · exact ⟨rfl, rfl⟩
      · cases hw : j.writeRecords records with
        | mk k status =>
          rw [hw] at hframe
          cases status <;> exact hframe

theorem flush_frame (j : Journal) : j.flush.1.isOpen = j.isOpen ∧ j.flush.1.readOnly = j.readOnly := by
  unfold Journal.flush
  split
  · exact ⟨rfl, rfl⟩
  · split <;> exact ⟨rfl, rfl⟩

theorem close_isOpen (j : Journal) : j.close.1.isOpen = false := by
  unfold Journal.close
  by_cases h : j.isOpen = true
  · rw [if_neg (by simp [h])]
  · rw [if_pos (by simpa using h)]
    exact Bool.eq_false_iff.2 h

/-! ## One step -/

section Step

variable {s s' : SharedJournal} {k : Nat} {h h' : Handle}

/-- The handles of `s'` are those of `s` but for one, which is put in the place `k`. -/
def Placed (s s' : SharedJournal) (k : Nat) (h' : Handle) : Prop := ∀ (l : Nat) (g : Handle), s'.handles[l]? = some g →
  l = k ∧ g = h' ∨ l ≠ k ∧ s.handles[l]? = some g

theorem placed_set (hhandles : s'.handles = s.handles.set k h') : Placed s s' k h' := by
  intro l g hg
  rw [hhandles, List.getElem?_set] at hg
  by_cases hl : k = l
  · rw [if_pos hl] at hg
    split at hg
    · exact .inl ⟨hl.symm, (Option.some.inj hg).symm⟩
    · cases hg
  · rw [if_neg hl] at hg
    exact .inr ⟨Ne.symm hl, hg⟩

theorem placed_concat (hhandles : s'.handles = s.handles ++ [h']) : Placed s s' s.handles.length h' := by
  intro l g hg
  rw [hhandles, List.getElem?_append] at hg
  split at hg
  · exact .inr ⟨by omega, hg⟩
  · rename_i hl
    have hzero : l - s.handles.length = 0 := by
      obtain ⟨hlt, -⟩ := List.getElem?_eq_some_iff.1 hg
      simpa using hlt
    rw [hzero] at hg
    exact .inl ⟨by omega, (Option.some.inj hg).symm⟩

/-- **A handle that is put in its place keeps the writer exclusive** if it writes alone and, when it is locked, is
locked on the file that is named. Another file may be named only when no other handle is locked. -/
theorem Exclusive.placed (hs : s.Exclusive) (hplaced : Placed s s' k h')
    (hnew : h'.locked = true → h'.writes = true ∧ s'.name = some h'.file)
    (halone : h'.writes = true → ∀ l g, s.handles[l]? = some g → l ≠ k → g.writes = false)
    (hname : s'.name = s.name ∨ ∀ l g, s.handles[l]? = some g → l ≠ k → g.locked = false) : s'.Exclusive := by
  have hother : ∀ g ∈ s'.handles, g = h' ∨ ∃ l, l ≠ k ∧ s.handles[l]? = some g := by
    intro g hg
    obtain ⟨l, hl⟩ := List.mem_iff_getElem?.1 hg
    exact (hplaced l g hl).imp (fun h => h.2) (fun h => ⟨l, h⟩)
  refine ⟨?_, ?_, ?_⟩
  · intro l m g g' hg hg' hw hw'
    rcases hplaced l g hg with ⟨rfl, rfl⟩ | ⟨hl, hg⟩ <;> rcases hplaced m g' hg' with ⟨rfl, rfl⟩ | ⟨hm, hg'⟩
    · rfl
    · rw [halone hw m g' hg' hm] at hw'
      cases hw'
    · rw [halone hw' l g hg hl] at hw
      cases hw
    · exact hs.single _ _ _ _ hg hg' hw hw'
  · intro g hg hlocked
    rcases hother g hg with rfl | ⟨l, -, hg⟩
    · exact (hnew hlocked).1
    · exact hs.writes g (List.mem_of_getElem? hg) hlocked
  · intro g hg hlocked
    rcases hother g hg with rfl | ⟨l, hl, hg⟩
    · exact (hnew hlocked).2
    · rcases hname with hname | hname
      · rw [hname]
        exact hs.named g (List.mem_of_getElem? hg) hlocked
      · rw [hname l g hg hl] at hlocked
        cases hlocked

/-- An operation that opens nothing keeps the writer exclusive. -/
theorem Exclusive.used (hs : s.Exclusive) (hk : s.handles[k]? = some h) (hhandles : s'.handles = s.handles.set k h')
    (hname : s'.name = s.name) (hwrites : h'.writes = true → h.writes = true)
    (hlocked : h'.locked = true → h.locked = true ∧ h'.file = h.file ∧ h'.writes = true) : s'.Exclusive := by
  refine hs.placed (placed_set hhandles) (fun hl => ?_) (fun hw l g hg hne => ?_) (.inl hname)
  · obtain ⟨hold, hfile, hw⟩ := hlocked hl
    rw [hname, hfile]
    exact ⟨hw, hs.named h (List.mem_of_getElem? hk) hold⟩
  · by_contra hw'
    exact hne (hs.single _ _ _ _ hg hk (Bool.eq_true_of_not_eq_false hw') (hwrites hw))

/-- **A guarded operation of a handle keeps the writer exclusive.** -/
theorem exclusive_call (hs : s.Exclusive) {op : JournalOp} (hg : s.Guarded (.call k op)) :
    (s.call k op).1.Exclusive := by
  unfold call
  cases hk : s.handles[k]? with
  | none => exact hs
  | some h =>
    simp only
    generalize hj : ({ h.journal with file := { h.journal.file with bytes := s.files.getD h.file [] } } : Journal) = j
    have hwrites : h.writes = (j.isOpen && !j.readOnly) := by rw [← hj]; rfl
    have hmem : h ∈ s.handles := List.mem_of_getElem? hk
    cases op with
    | append records =>
      have hframe := append_frame j records
      have hsame : (⟨(j.append records).1, h.file, h.locked⟩ : Handle).writes = h.writes := by
        rw [hwrites, Handle.writes, hframe.1, hframe.2]
      exact hs.used hk rfl rfl (fun hw => hsame ▸ hw) (fun hl => ⟨hl, rfl, hsame.trans (hs.writes h hmem hl)⟩)
    | flush =>
      have hframe := flush_frame j
      have hsame : (⟨j.flush.1, h.file, h.locked⟩ : Handle).writes = h.writes := by
        rw [hwrites, Handle.writes, hframe.1, hframe.2]
      exact hs.used hk rfl rfl (fun hw => hsame ▸ hw) (fun hl => ⟨hl, rfl, hsame.trans (hs.writes h hmem hl)⟩)
    | close =>
      have hclosed : (⟨(j.call .close).1, h.file, false⟩ : Handle).writes = false := by
        show (j.close.1.isOpen && !j.close.1.readOnly) = false
        rw [close_isOpen]
        rfl
      refine hs.used hk rfl rfl (fun hw => ?_) (fun hl => by cases hl)
      rw [hclosed] at hw
      cases hw
    | rewrite records epoch createdAt =>
      by_cases hro : h.journal.readOnly = true
      · simp only [hro, if_true]
        exact hs
      · simp only [hro]
        have hwritable : h.journal.readOnly = false := Bool.eq_false_iff.2 hro
        have halone : ∀ l g, s.handles[l]? = some g → l ≠ k → g.writes = false :=
          fun l g hl hne => Bool.eq_false_iff.2 fun hw => hne (hg h hk hwritable l g hl hw)
        refine hs.placed (placed_set rfl) (fun hl => by cases hl) (fun _ => halone) (.inr fun l g hl hne => ?_)
        by_contra hlocked
        have hw := hs.writes g (List.mem_of_getElem? hl) (Bool.eq_true_of_not_eq_false hlocked)
        rw [halone l g hl hne] at hw
        cases hw

variable {options : JournalOpenOptions}

/-- A handle that is opened for writing while no other writes keeps the writer exclusive. -/
theorem Exclusive.opened (hs : s.Exclusive) {j : Journal} {file : Nat} {locked : Bool}
    (hhandles : s'.handles = s.handles ++ [⟨j, file, locked⟩])
    (hlocked : locked = true → (⟨j, file, locked⟩ : Handle).writes = true ∧ s'.name = some file)
    (halone : (⟨j, file, locked⟩ : Handle).writes = true → ∀ g ∈ s.handles, g.writes = false)
    (hname : s'.name = s.name ∨ ∀ g ∈ s.handles, g.locked = false) : s'.Exclusive :=
  hs.placed (placed_concat hhandles) hlocked (fun hw _ g hg _ => halone hw g (List.mem_of_getElem? hg))
    (hname.imp_right fun hfree _ g hg _ => hfree g (List.mem_of_getElem? hg))

/-- What an attached handle is open for. -/
theorem attach_frame {path : Str} {bytes : List UInt8} {j : Journal} (hj : Journal.attach path options bytes = .ok j) :
    j.isOpen = true ∧ j.readOnly = options.readOnly := by
  unfold Journal.attach at hj
  cases hd : decodeHeader options.recovery path bytes with
  | error e => simp [hd, bind, Except.bind] at hj
  | ok header =>
    simp only [hd, bind, Except.bind, pure, Except.pure, Except.ok.injEq] at hj
    rw [← hj]
    exact ⟨rfl, rfl⟩

/-- The lock refuses the open. -/
def LockedOut (s : SharedJournal) (options : JournalOpenOptions) : Prop :=
  options.readOnly = false ∧ options.truncateExisting = false ∧ ∃ file, s.name = some file ∧ s.lockHeld file = true

/-- An open that creates its file. -/
def Creates (s : SharedJournal) (options : JournalOpenOptions) : Prop :=
  options.readOnly = false ∧ (options.truncateExisting = true ∨ s.name = none)

/-- **What an open does.** It is refused, for what it finds or for the lock, or it adds one handle. -/
theorem opens_cases (s : SharedJournal) (options : JournalOpenOptions) :
    ((∃ e, Journal.openFile s.path s.contents options = .error e) ∨ s.LockedOut options) ∧ (s.opens options).1 = s ∨
      ∃ j, Journal.openFile s.path s.contents options = .ok j ∧ j.isOpen = true ∧ j.readOnly = options.readOnly ∧
        (s.Creates options ∧ (s.opens options).1 = s.create j ∨
          ∃ file, s.name = some file ∧ (options.readOnly = false → s.lockHeld file = false) ∧
            (s.opens options).1 = { s with handles := s.handles ++ [⟨j, file, !options.readOnly⟩] }) := by
  unfold opens contents
  cases hname : s.name with
  | none =>
    simp only [Option.map_none]
    cases hopen : Journal.openFile s.path none options with
    | error e => exact .inl ⟨.inl ⟨e, rfl⟩, rfl⟩
    | ok j =>
      unfold Journal.openFile at hopen
      cases hv : options.limits.validate with
      | error e => simp [hv, bind, Except.bind] at hopen
      | ok =>
        simp only [hv, bind, Except.bind] at hopen
        split at hopen
        · cases hopen
        · split at hopen
          · cases hopen
          · rename_i hro
            simp only [pure, Except.pure, Except.ok.injEq] at hopen
            subst hopen
            have hwrite : options.readOnly = false := Bool.eq_false_iff.2 hro
            exact .inr ⟨_, rfl, rfl, hwrite.symm, .inl ⟨⟨hwrite, .inr hname⟩, rfl⟩⟩
  | some file =>
    simp only [Option.map_some]
    unfold Journal.openFile
    cases hv : options.limits.validate with
    | error e => exact .inl ⟨.inl ⟨e, rfl⟩, rfl⟩
    | ok =>
      simp only [bind, Except.bind]
      by_cases hcreate : (options.truncateExisting && !options.readOnly) = true
      · rw [if_pos hcreate, if_pos hcreate]
        simp only [Bool.and_eq_true, Bool.not_eq_true'] at hcreate
        exact .inr ⟨_, rfl, rfl, hcreate.2.symm, .inl ⟨⟨hcreate.2, .inl hcreate.1⟩, rfl⟩⟩
      · rw [if_neg hcreate, if_neg hcreate]
        by_cases hlock : (!options.readOnly && s.lockHeld file) = true
        · rw [if_pos hlock]
          simp only [Bool.and_eq_true, Bool.not_eq_true'] at hlock
          have htruncate : options.truncateExisting = false := by
            simpa [hlock.1] using hcreate
          exact .inl ⟨.inr ⟨hlock.1, htruncate, file, hname, hlock.2⟩, rfl⟩
        · rw [if_neg hlock]
          cases ha : Journal.attach s.path options (s.files.getD file []) with
          | error e => exact .inl ⟨.inl ⟨e, rfl⟩, rfl⟩
          | ok j =>
            obtain ⟨hopen, hro⟩ := attach_frame ha
            refine .inr ⟨j, rfl, hopen, hro, .inr ⟨file, rfl, fun hr => ?_, rfl⟩⟩
            simpa [hr] using hlock

/-- **A guarded open keeps the writer exclusive.** -/
theorem exclusive_opens (hs : s.Exclusive) (hg : s.Guarded (.opens options)) : (s.opens options).1.Exclusive := by
  rcases opens_cases s options with ⟨-, hsame⟩ | ⟨j, hopen, hisOpen, hro, hcases⟩
  · rw [hsame]
    exact hs
  · have hwrites : ∀ file locked, (⟨j, file, locked⟩ : Handle).writes = !options.readOnly := by
      intro file locked
      rw [Handle.writes, hisOpen, hro, Bool.true_and]
    -- a writer would be locked on the file that the path names, and the open would have been refused
    have hwriter : options.readOnly = false → ∀ h ∈ s.handles, h.writes = true →
        options.truncateExisting = false ∧ ∃ file, s.name = some file ∧ s.lockHeld file = true := by
      intro hr h hh hw
      rcases hg with hg | ⟨e, hg⟩ | hg
      · rw [hr] at hg
        cases hg
      · rw [hopen] at hg
        cases hg
      · obtain ⟨hlocked, htruncate⟩ := hg h hh hw
        exact ⟨htruncate, h.file, hs.named h hh hlocked,
          List.any_eq_true.2 ⟨h, hh, by rw [hlocked, beq_self_eq_true, Bool.and_self]⟩⟩
    rcases hcases with ⟨⟨hr, hcreate⟩, hafter⟩ | ⟨file, hname, hfree, hafter⟩
    · have halone : ∀ g ∈ s.handles, g.writes = false := by
        intro g hh
        by_contra hw
        obtain ⟨htruncate, file, hnamed, -⟩ := hwriter hr g hh (Bool.eq_true_of_not_eq_false hw)
        rcases hcreate with hcreate | hcreate
        · rw [htruncate] at hcreate
          cases hcreate
        · rw [hnamed] at hcreate
          cases hcreate
      rw [hafter]
      refine hs.opened rfl (fun _ => ⟨by rw [hwrites, hr]; rfl, rfl⟩) (fun _ => halone) (.inr fun g hh => ?_)
      by_contra hlocked
      have hw := hs.writes g hh (Bool.eq_true_of_not_eq_false hlocked)
      rw [halone g hh] at hw
      cases hw
    · rw [hafter]
      refine hs.opened rfl (fun hl => ⟨(hwrites _ _).trans hl, hname⟩) (fun hw g hh => ?_) (.inl rfl)
      rw [hwrites] at hw
      have hr : options.readOnly = false := by simpa using hw
      by_contra hwg
      obtain ⟨-, file', hnamed, hlock⟩ := hwriter hr g hh (Bool.eq_true_of_not_eq_false hwg)
      rw [hname] at hnamed
      cases hnamed
      rw [hfree hr] at hlock
      cases hlock

/-- **An open that is not guarded makes a second writer.** -/
theorem not_single_opens (hs : s.Exclusive) (hg : ¬ s.Guarded (.opens options)) :
    ¬ (s.opens options).1.SingleWriter := by
  intro hsingle
  simp only [Guarded, not_or, not_exists, not_forall] at hg
  obtain ⟨hr, hok, h, hh, hw, hopenable⟩ := hg
  rw [Bool.not_eq_true] at hr
  obtain ⟨k, hk⟩ := List.mem_iff_getElem?.1 hh
  -- the writer that is there and the one that is added stand at different places
  have hsecond : ∀ g, g.writes = true → (s.opens options).1.handles = s.handles ++ [g] → False := by
    intro g hwg hhandles
    have hlt : k < s.handles.length := (List.getElem?_eq_some_iff.1 hk).1
    have heq := hsingle k s.handles.length h g (by rw [hhandles, List.getElem?_append_left hlt, hk])
      (by rw [hhandles, List.getElem?_append_right (Nat.le_refl _), Nat.sub_self]; rfl) hw hwg
    omega
  rcases opens_cases s options with ⟨hrefused, -⟩ | ⟨j, -, hisOpen, hro, hcases⟩
  · rcases hrefused with ⟨e, he⟩ | ⟨-, htruncate, file, -, hlock⟩
    · exact hok e he
    · -- the lock is held by a handle that writes, which is the one that is there
      obtain ⟨g, hg, hgl⟩ := List.any_eq_true.1 hlock
      rw [Bool.and_eq_true] at hgl
      obtain ⟨l, hl⟩ := List.mem_iff_getElem?.1 hg
      have heq := hs.single k l h g hk hl hw (hs.writes g hg hgl.1)
      subst heq
      rw [hk] at hl
      cases hl
      exact hopenable ⟨hgl.1, htruncate⟩
  · have hwrites : ∀ file locked, (⟨j, file, locked⟩ : Handle).writes = true := by
      intro file locked
      rw [Handle.writes, hisOpen, hro, hr]
      rfl
    rcases hcases with ⟨-, hafter⟩ | ⟨file, -, -, hafter⟩
    · exact hsecond _ (hwrites _ _) (by rw [hafter]; rfl)
    · exact hsecond _ (hwrites _ _) (by rw [hafter])

/-- **A closed handle that is rewritten while another writes is a second writer.** -/
theorem not_single_call {op : JournalOp} (hg : ¬ s.Guarded (.call k op)) : ¬ (s.call k op).1.SingleWriter := by
  cases op with
  | append records => exact absurd trivial hg
  | flush => exact absurd trivial hg
  | close => exact absurd trivial hg
  | rewrite records epoch createdAt =>
    intro hsingle
    simp only [Guarded, not_forall] at hg
    obtain ⟨h, hk, hwritable, l, g, hl, hw, hne⟩ := hg
    have hlt : k < s.handles.length := (List.getElem?_eq_some_iff.1 hk).1
    have hafter : ∃ g', g'.writes = true ∧
        (s.call k (.rewrite records epoch createdAt)).1.handles = s.handles.set k g' := by
      simp only [call, hk, hwritable, Bool.false_eq_true, if_false, Journal.call, Journal.rewrite]
      exact ⟨_, rfl, rfl⟩
    obtain ⟨g', hw', hhandles⟩ := hafter
    refine hne (hsingle l k g g' ?_ ?_ hw hw')
    · rw [hhandles, List.getElem?_set_ne (Ne.symm hne), hl]
    · rw [hhandles, List.getElem?_set_self hlt]

end Step

/-- The step lemma: a guarded operation keeps the writer exclusive. -/
theorem exclusive_step {s : SharedJournal} (hs : s.Exclusive) : ∀ {op : SharedOp}, s.Guarded op → (s.step op).Exclusive
  | .opens _, hg => exclusive_opens hs hg
  | .call _ _, hg => exclusive_call hs hg

theorem not_single_step {s : SharedJournal} (hs : s.Exclusive) : ∀ {op : SharedOp}, ¬ s.Guarded op →
    ¬ (s.step op).SingleWriter
  | .opens _, hg => not_single_opens hs hg
  | .call _ _, hg => not_single_call hg

/-- **At most one handle is open for writing, after every operation of a run, if and only if every operation of it is
guarded.** No handle is open when the run begins; the path may name any file then. -/
theorem single_writer_iff (s : SharedJournal) (hstart : s.handles = []) (ops : List SharedOp) :
    (∀ before, before <+: ops → (exec step s before).SingleWriter) ↔ Along step Guarded s ops := by
  have hexclusive : s.Exclusive := by
    refine ⟨?_, ?_, ?_⟩
    · intro k l h h' hk
      rw [hstart] at hk
      cases hk
    · intro h hh
      rw [hstart] at hh
      cases hh
    · intro h hh
      rw [hstart] at hh
      cases hh
  exact forall_prefix_iff (fun _ h => h.single) (fun _ _ h hg => exclusive_step h hg)
    (fun _ _ h hafter => by_contra fun hg => not_single_step h hg hafter) hexclusive

/-- Without a rewrite the second writer is refused. -/
theorem single_writer_iff_twice :
    ((∀ before, before <+: [SharedOp.opens {}, .opens {}] → (exec step {} before).SingleWriter) ↔
      Along step Guarded {} [SharedOp.opens {}, .opens {}]) ∧ Along step Guarded {} [SharedOp.opens {}, .opens {}] := by
  refine ⟨single_writer_iff {} rfl _, .inr (.inr fun h hh => ?_), .inr (.inr fun h hh _ => ⟨?_, rfl⟩), trivial⟩
  · cases hh
  · have hlocked : (step {} (.opens {})).handles.all (·.locked) = true := by decide
    exact List.all_eq_true.1 hlocked h hh

/-- Two handles, the first of which has rewritten the journal before the second was opened. -/
def reopened : SharedJournal := exec step {} [.opens {}, .call 0 (.rewrite [] ⟨1⟩ ⟨0⟩), .opens {}]

set_option maxRecDepth 1000000 in
theorem reopened_writes : ((reopened.handles.map Handle.writes) = [true, true]) := by
  decide

/-- The writer rewrites its journal and holds no lock any more, so a second one opens the journal for writing. -/
theorem two_writers_after_rewrite : ¬ ∀ (s : SharedJournal), s.handles = [] → ∀ ops before, before <+: ops →
    (exec step s before).SingleWriter := by
  intro hclaim
  have htwo : reopened.SingleWriter := hclaim {} rfl _ _ (List.prefix_refl _)
  have hwrites : ∀ k, k < 2 → ∃ h, reopened.handles[k]? = some h ∧ h.writes = true := by
    intro k hk
    have hget := congrArg (fun l => l[k]?) reopened_writes
    simp only [List.getElem?_map] at hget
    cases hh : reopened.handles[k]? with
    | none =>
      rw [hh] at hget
      interval_cases k <;> cases hget
    | some h =>
      rw [hh] at hget
      refine ⟨h, rfl, ?_⟩
      interval_cases k <;> exact Option.some.inj hget
  obtain ⟨h, hh, hw⟩ := hwrites 0 (by decide)
  obtain ⟨h', hh', hw'⟩ := hwrites 1 (by decide)
  exact absurd (htwo 0 1 h h' hh hh' hw hw') (by decide)

end SharedJournal

end FlowObs
