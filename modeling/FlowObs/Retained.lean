import FlowObs.Capacity
import Mathlib.Data.List.Dedup

/-!
# What a ledger folds and what it retains

A ledger that was configured and filled holds the fold of the entries it folded out, and above them the entries it
retains, in one ascending sequence (`SourceLedger.Holds`).

- One insertion keeps it (`Holds.insert`), so every sequence of insertions does (`holds_filled`), and the representation
  invariant of the ledger follows (`ledger_invariant`).
- While nothing is folded the ledger retains for each key the presented observation with the smallest digest
  (`Keeps.insert`), which does not depend on the order of arrival (`arrival_order_does_not_matter`).
-/

namespace FlowObs

namespace SourceLedger

/-! ## The representation invariant -/

/-- A ledger that holds the fold of `folded`, with the entries it retains above it. -/
structure Holds (l : SourceLedger) (folded : List Observation) : Prop where
  prefixState : l.prefixState = ⟨folded.foldl (foldEntry l.counterPolicy) {}, UInt32.ofNat folded.length⟩
  ascending : (folded ++ l.entries.toList).Pairwise (fun a b => a.canonicalKey < b.canonicalKey)
  within : l.entries.toList.length ≤ l.capacity
  total : l.totalAccepted = UInt64.ofNat (folded.length + l.entries.toList.length)
  own : ∀ o ∈ folded ++ l.entries.toList, l.belongs o = .ok ()

variable {l : SourceLedger} {folded : List Observation} {obs : Observation}

/-- The bound of the folded region is the key of the observation that was folded last. -/
theorem Holds.foldedBound (h : l.Holds folded) (last : Observation) (hlast : folded.getLast? = some last) :
    l.prefixState.foldedBound = last.canonicalKey := by
  obtain ⟨first, rfl⟩ := List.getLast?_eq_some_iff.1 hlast
  rw [h.prefixState, List.foldl_append]
  exact foldedBound_foldEntry l.counterPolicy _ last

/-- **The folded region**: an observation lies in it when one that was folded is not below it. -/
theorem Holds.insideFolded_iff (h : l.Holds folded) (hfew : folded.length < 2 ^ 32) (obs : Observation) :
    l.insideFolded obs = true ↔ ∃ o ∈ folded, obs.canonicalKey ≤ o.canonicalKey := by
  have hcount : l.prefixState.foldedObservations = UInt32.ofNat folded.length := by rw [h.prefixState]
  unfold insideFolded
  rw [Bool.and_eq_true, decide_eq_true_eq, hcount]
  rcases List.eq_nil_or_concat folded with rfl | ⟨first, last, hconcat⟩
  · simp
  · rw [List.concat_eq_append] at hconcat
    subst hconcat
    have hbound := h.foldedBound last (by simp)
    have hpos : (0 : UInt32) < UInt32.ofNat (first ++ [last]).length := by
      rw [UInt32.lt_iff_toNat_lt, UInt32.toNat_ofNat_of_lt' hfew]
      simp
    have hbelow : ∀ o ∈ first, o.canonicalKey < last.canonicalKey := by
      have hfolded := (List.pairwise_append.1 h.ascending).1
      exact fun o ho => (List.pairwise_append.1 hfolded).2.2 o ho last (List.mem_singleton.2 rfl)
    rw [hbound, Bool.not_eq_true', ← Bool.not_eq_true, canonicalLess_iff, not_lt]
    constructor
    · rintro ⟨-, hle⟩
      exact ⟨last, by simp, hle⟩
    · rintro ⟨o, ho, hle⟩
      refine ⟨hpos, ?_⟩
      rcases List.mem_append.1 ho with ho | ho
      · exact hle.trans (hbelow o ho).le
      · rwa [List.mem_singleton.1 ho] at hle

/-- Folding the first entries out of a ledger that is over its capacity. -/
theorem Holds.foldOut {n : Nat}
    (hstate : l.prefixState = ⟨folded.foldl (foldEntry l.counterPolicy) {}, UInt32.ofNat folded.length⟩)
    (hascending : (folded ++ l.entries.toList).Pairwise (fun a b => a.canonicalKey < b.canonicalKey))
    (hwithin : l.entries.toList.length - n ≤ l.capacity)
    (htotal : l.totalAccepted = UInt64.ofNat (folded.length + l.entries.toList.length))
    (hown : ∀ o ∈ folded ++ l.entries.toList, l.belongs o = .ok ()) :
    (l.foldOut n).Holds (folded ++ l.entries.toList.take n) := by
  have hentries : (l.foldOut n).entries.toList = l.entries.toList.drop n := rfl
  have hall : folded ++ l.entries.toList.take n ++ (l.foldOut n).entries.toList = folded ++ l.entries.toList := by
    rw [hentries, List.append_assoc, List.take_append_drop]
  constructor
  · have hpolicy : (l.foldOut n).counterPolicy = l.counterPolicy := rfl
    rw [hpolicy, List.foldl_append, List.length_append, UInt32.ofNat_add]
    unfold SourceLedger.foldOut
    rw [hstate]
  · rw [hall]
    exact hascending
  · rw [hentries, List.length_drop]
    exact hwithin
  · rw [hentries, List.length_append, List.length_drop, List.length_take]
    have hsum : folded.length + min n l.entries.toList.length + (l.entries.toList.length - n)
        = folded.length + l.entries.toList.length := by omega
    rw [hsum]
    exact htotal
  · rw [hall]
    exact hown

/-- The ledger holds the same with other counts of what it did not accept. -/
theorem Holds.recount (h : l.Holds folded) (suppressed late conflicts : UInt64) :
    Holds { l with duplicatesSuppressed := suppressed, lateRejected := late, contentConflicts := conflicts } folded :=
  ⟨h.prefixState, h.ascending, h.within, h.total, h.own⟩

/-- What is above all that was folded stands above it in one ascending sequence, with the entries. -/
theorem Holds.ascending_set (h : l.Holds folded) (hfew : folded.length < 2 ^ 32)
    (hinside : l.insideFolded obs = false) :
    (folded ++ (l.entries.set obs).toList).Pairwise (fun a b => a.canonicalKey < b.canonicalKey) := by
  obtain ⟨hfolded, -, hacross⟩ := List.pairwise_append.1 h.ascending
  refine List.pairwise_append.2 ⟨hfolded, (l.entries.set obs).sorted, fun a ha b hb => ?_⟩
  rcases SortedVec.mem_set.1 hb with rfl | ⟨hb, -⟩
  · by_contra hnot
    have hinto := (h.insideFolded_iff hfew b).2 ⟨a, ha, not_lt.1 hnot⟩
    rw [hinside] at hinto
    cases hinto
  · exact hacross a ha b hb

theorem Holds.own_set (h : l.Holds folded) (hb : l.belongs obs = .ok ()) :
    ∀ o ∈ folded ++ (l.entries.set obs).toList, l.belongs o = .ok () := by
  intro o ho
  rcases List.mem_append.1 ho with ho | ho
  · exact h.own o (List.mem_append_left _ ho)
  · rcases SortedVec.mem_set.1 ho with rfl | ⟨ho, -⟩
    · exact hb
    · exact h.own o (List.mem_append_right _ ho)

/-- The entries that an insertion folds out: those over the capacity, when the observation is a new entry. -/
def folds (l : SourceLedger) (obs : Observation) : List Observation :=
  if l.belongs obs = .ok () ∧ l.insideFolded obs = false ∧ l.entries.find? obs.canonicalKey = none then
    (l.entries.set obs).toList.take ((l.entries.set obs).toList.length - l.capacity)
  else []

/-- The entries that a sequence of insertions folds out. -/
def foldedBy (l : SourceLedger) : List Observation → List Observation
  | [] => []
  | obs :: arrivals => l.folds obs ++ (l.insert obs).1.foldedBy arrivals

/-- What an insertion leaves of a ledger that holds `folded`: the invariant, with what is folded grown at its end, and
nothing but what it held and the observation. An accepted observation is one more in the sequence. -/
structure Grew (l : SourceLedger) (folded : List Observation) (obs : Observation) (l' : SourceLedger)
    (kind : InsertKind) :
    Prop where
  holds : l'.Holds (folded ++ l.folds obs)
  length : (folded ++ l.folds obs ++ l'.entries.toList).length ≤ (folded ++ l.entries.toList).length + 1
  mem : ∀ o ∈ folded ++ l.folds obs ++ l'.entries.toList, o = obs ∨ o ∈ folded ++ l.entries.toList
  accepted : kind = .Accepted → (folded ++ l.folds obs ++ l'.entries.toList).Perm (obs :: (folded ++ l.entries.toList))

/-- **One insertion keeps the invariant.** -/
theorem Holds.insert (h : l.Holds folded) (hfew : folded.length < 2 ^ 32) (obs : Observation) :
    l.Grew folded obs (l.insert obs).1 (l.insert obs).2.kind := by
  have hcases := l.insert_cases obs
  generalize (l.insert obs).1 = l' at hcases ⊢
  generalize (l.insert obs).2.kind = kind at hcases ⊢
  have hsame : ∀ l' : SourceLedger, l'.Holds folded → l'.entries = l.entries → kind ≠ .Accepted → l.folds obs = [] →
      l.Grew folded obs l' kind := by
    intro l' hl' hentries hkind hnone
    constructor
    · rwa [hnone, List.append_nil]
    · rw [hnone, List.append_nil, hentries]
      omega
    · intro o ho
      rw [hnone, List.append_nil, hentries] at ho
      exact .inr ho
    · intro he
      exact absurd he hkind
  have hold : l.insideFolded obs = true → l.folds obs = [] := by
    intro hi
    simp [folds, hi]
  have hknown : ∀ stored, l.entries.find? obs.canonicalKey = some stored → l.folds obs = [] := by
    intro stored hf
    simp [folds, hf]
  cases hcases with
  | foreign hforeign => exact hsame _ h rfl (by decide) (by simp [folds, hforeign])
  | refolded _ hi _ => exact hsame _ (h.recount _ _ _) rfl (by decide) (hold hi)
  | stale _ hi _ => exact hsame _ (h.recount _ _ _) rfl (by decide) (hold hi)
  | redelivered _ _ stored hf _ => exact hsame _ (h.recount _ _ _) rfl (by decide) (hknown stored hf)
  | outranked _ _ stored hf _ => exact hsame _ (h.recount _ _ _) rfl (by decide) (hknown stored hf)
  | replaced hb hi stored hf _ =>
    have hlength := SortedVec.length_set_of_some hf
    have hnone := hknown stored hf
    refine ⟨?_, ?_, fun o ho => ?_, fun he => by cases he⟩
    all_goals rw [hnone] at *
    · rw [List.append_nil]
      refine ⟨h.prefixState, h.ascending_set hfew hi, ?_, ?_, h.own_set hb⟩
      · exact hlength ▸ h.within
      · show l.totalAccepted = UInt64.ofNat (folded.length + (l.entries.set obs).toList.length)
        rw [hlength]
        exact h.total
    · rw [List.append_nil, List.length_append, hlength, List.length_append]
      omega
    · rw [List.append_nil] at ho
      rcases List.mem_append.1 ho with ho | ho
      · exact .inr (List.mem_append_left _ ho)
      · exact (SortedVec.mem_set.1 ho).imp id fun ho => List.mem_append_right _ ho.1
  | accepted hb hi hf =>
    have hlength := SortedVec.length_set_of_none hf
    let grown : SourceLedger := { l with entries := l.entries.set obs, totalAccepted := l.totalAccepted + 1 }
    have htotal : grown.totalAccepted = UInt64.ofNat (folded.length + grown.entries.toList.length) := by
      show l.totalAccepted + 1 = _
      rw [h.total, hlength, ← Nat.add_assoc]
      exact (UInt64.ofNat_add _ 1).symm
    have hholds := Holds.foldOut (l := grown) (n := grown.entries.toList.length - grown.capacity) h.prefixState
      (h.ascending_set hfew hi) (by omega) htotal (h.own_set hb)
    have hperm : (folded ++ (l.entries.set obs).toList).Perm (obs :: (folded ++ l.entries.toList)) :=
      ((SortedVec.perm_set hf).append_left folded).trans List.perm_middle
    have hfolds : l.folds obs = grown.entries.toList.take (grown.entries.toList.length - grown.capacity) := by
      unfold folds
      rw [if_pos ⟨hb, hi, hf⟩]
    rw [compactEntries_foldOut]
    have hall : folded ++ l.folds obs ++ (grown.foldOut (grown.entries.toList.length - grown.capacity)).entries.toList
        = folded ++ (l.entries.set obs).toList := by
      rw [hfolds, List.append_assoc]
      exact congrArg (folded ++ ·) (List.take_append_drop _ _)
    refine ⟨hfolds ▸ hholds, ?_, fun o ho => ?_, fun _ => ?_⟩
    · rw [hall, hperm.length_eq]
      rfl
    · rw [hall] at ho
      exact List.mem_cons.1 (hperm.mem_iff.1 ho)
    · rw [hall]
      exact hperm

theorem holds_configure (source : SourceId) (generation : FlowGeneration) (capacity : Nat) (policy : CounterPolicy) :
    ((configure source generation capacity).setCounterPolicy policy).Holds [] := by
  constructor <;> simp [configure, setCounterPolicy]

/-- **Every sequence of insertions keeps the invariant**, and leaves nothing but what was held and what arrived. -/
theorem Holds.insertAll (arrivals : List Observation) (h : l.Holds folded)
    (hfew : (folded ++ l.entries.toList).length + arrivals.length < 2 ^ 32) :
    (l.insertAll arrivals).Holds (folded ++ l.foldedBy arrivals) ∧
      (folded ++ l.foldedBy arrivals ++ (l.insertAll arrivals).entries.toList).length
        ≤ (folded ++ l.entries.toList).length + arrivals.length ∧
      ∀ o ∈ folded ++ l.foldedBy arrivals ++ (l.insertAll arrivals).entries.toList,
        o ∈ arrivals ∨ o ∈ folded ++ l.entries.toList := by
  induction arrivals generalizing l folded with
  | nil =>
    rw [foldedBy, List.append_nil]
    exact ⟨h, le_refl _, fun o ho => .inr ho⟩
  | cons obs arrivals ih =>
    have hfolded : folded.length < 2 ^ 32 := by
      simp only [List.length_append] at hfew
      omega
    have hone := h.insert hfolded obs
    have hlength := hone.length
    simp only [List.length_cons] at hfew
    obtain ⟨hrest, hlength', hmem⟩ := ih hone.holds (by omega)
    have hgo : l.insertAll (obs :: arrivals) = (l.insert obs).1.insertAll arrivals := rfl
    rw [hgo, foldedBy, ← List.append_assoc folded]
    refine ⟨hrest, ?_, fun o ho => ?_⟩
    · rw [List.length_cons]
      omega
    · rcases hmem o ho with ho | ho
      · exact .inl (List.mem_cons_of_mem _ ho)
      · rcases hone.mem o ho with rfl | ho
        · exact .inl List.mem_cons_self
        · exact .inr ho

theorem holds_filled (source : SourceId) (generation : FlowGeneration) (policy : CounterPolicy)
    {arrivals : List Observation}
    (capacity : Nat) (hfew : arrivals.length < 2 ^ 32) :
    let folded := ((configure source generation capacity).setCounterPolicy policy).foldedBy arrivals
    let l := filled source generation policy arrivals capacity
    l.Holds folded ∧ (folded ++ l.entries.toList).length ≤ arrivals.length ∧
      ∀ o ∈ folded ++ l.entries.toList, o ∈ arrivals := by
  have hempty : ((configure source generation capacity).setCounterPolicy policy).entries.toList = [] := rfl
  have hall := (holds_configure source generation capacity policy).insertAll arrivals (by simpa [hempty] using hfew)
  simp only [List.nil_append, hempty, List.length_nil, Nat.zero_add, List.not_mem_nil, or_false] at hall
  exact hall

/-- A ledger folds to the fold of all that it holds, up to the marks of the folded region. -/
theorem Holds.unmark_foldAll (h : l.Holds folded) : (l.foldAll l.counterPolicy).unmark
    = ((folded ++ l.entries.toList).foldl (applyObservation l.counterPolicy) {}).unmark := by
  have htook : l.Took (folded ++ l.entries.toList) := ⟨folded, rfl, by rw [h.prefixState]⟩
  exact htook.unmark_foldAll

/-- **The representation invariant of a ledger.** After any fewer than 2³² insertions, the entries ascend in the
canonical order above the bound of what was folded, they fit the capacity, every accepted observation was folded or is
retained, and what is retained is of the source and the generation. -/
theorem ledger_invariant (source : SourceId) (generation : FlowGeneration) (policy : CounterPolicy)
    (arrivals : List Observation) (capacity : Nat) (hcapacity : 1 ≤ capacity) (hfew : arrivals.length < 2 ^ 32) :
    let l := filled source generation policy arrivals capacity
    l.entries.toList.Pairwise (fun a b => canonicalLess a.canonicalKey b.canonicalKey = true) ∧
      (0 < l.prefixState.foldedObservations →
        ∀ o ∈ l.entries.toList, canonicalLess l.prefixState.foldedBound o.canonicalKey = true) ∧
      l.entries.toList.length ≤ capacity ∧
      l.totalAccepted.toNat = l.prefixState.foldedObservations.toNat + l.entries.toList.length ∧
      ∀ o ∈ l.entries.toList, o.key.source = source ∧ o.subject.flow = generation.flow ∧
        o.subject.generation = generation.generation := by
  intro l
  obtain ⟨hholds, hlength, -⟩ := holds_filled source generation policy capacity hfew
  generalize ((configure source generation capacity).setCounterPolicy policy).foldedBy arrivals =
    folded at hholds hlength
  rw [List.length_append] at hlength
  obtain ⟨hsource, hgeneration, -, hcap⟩ :=
    insertAll_source ((configure source generation capacity).setCounterPolicy policy) arrivals
  have hcount : l.prefixState.foldedObservations.toNat = folded.length := by
    rw [hholds.prefixState]
    exact UInt32.toNat_ofNat_of_lt' (by unfold UInt32.size; omega)
  refine ⟨l.entries.sorted.imp canonicalLess_iff.2, fun hpos o ho => ?_, ?_, ?_, fun o ho => ?_⟩
  · rw [UInt32.lt_iff_toNat_lt, hcount] at hpos
    obtain ⟨first, last, hlast⟩ := (List.eq_nil_or_concat folded).resolve_left (by
      rintro rfl
      exact absurd hpos (lt_irrefl _))
    rw [List.concat_eq_append] at hlast
    rw [hholds.foldedBound last (by simp [hlast]), canonicalLess_iff]
    exact (List.pairwise_append.1 hholds.ascending).2.2 last (by simp [hlast]) o ho
  · have hwithin := hholds.within
    have hconfigured : ((configure source generation capacity).setCounterPolicy policy).capacity = capacity := by
      have hne : capacity ≠ 0 := by omega
      simp [configure, setCounterPolicy, hne]
    rw [hconfigured] at hcap
    exact hwithin.trans (le_of_eq hcap)
  · rw [hholds.total, hcount]
    exact UInt64.toNat_ofNat_of_lt' (by unfold UInt64.size; omega)
  · have hown := hholds.own o (List.mem_append_right _ ho)
    have hl : l.source = source ∧ l.generation = generation := ⟨hsource, hgeneration⟩
    unfold belongs at hown
    split at hown
    · cases hown
    · split at hown
      · cases hown
      · split at hown
        · cases hown
        · rename_i hs hg
          have hg' := not_or.1 hg
          exact ⟨(not_not.1 hs).trans hl.1, (not_not.1 hg'.1).trans (by rw [hl.2]),
            (not_not.1 hg'.2).trans (by rw [hl.2])⟩

theorem ledger_invariant_readings :
    let l := filled ⟨1⟩ ⟨⟨7⟩, ⟨1⟩⟩ {} [byteReading 3 5, byteReading 1 10, byteReading 2 25] 2
    l.entries.toList.Pairwise (fun a b => canonicalLess a.canonicalKey b.canonicalKey = true) ∧
      (0 < l.prefixState.foldedObservations →
        ∀ o ∈ l.entries.toList, canonicalLess l.prefixState.foldedBound o.canonicalKey = true) ∧
      l.entries.toList.length ≤ 2 ∧
      l.totalAccepted.toNat = l.prefixState.foldedObservations.toNat + l.entries.toList.length ∧
      ∀ o ∈ l.entries.toList, o.key.source = ⟨1⟩ ∧ o.subject.flow = ⟨7⟩ ∧ o.subject.generation = ⟨1⟩ :=
  ledger_invariant ⟨1⟩ ⟨⟨7⟩, ⟨1⟩⟩ {} _ 2 (by decide) (by decide)

/-! ## The order of arrival -/

/-- Nothing was folded, and under each key that was presented the ledger retains the observation with the smallest
digest. -/
structure Keeps (l : SourceLedger) (seen : List Observation) : Prop where
  unfolded : l.prefixState = {}
  covered : ∀ o ∈ seen, ∃ r ∈ l.entries.toList, r.canonicalKey = o.canonicalKey
  chosen : ∀ r ∈ l.entries.toList, r ∈ seen ∧ ∀ o ∈ seen, o.canonicalKey = r.canonicalKey →
    contentDigest r ≤ contentDigest o

/-- A ledger has no more entries than keys were presented. -/
theorem Keeps.length_le {seen : List Observation} {entries : SortedVec Observation.canonicalKey}
    (h : ∀ r ∈ entries.toList, r ∈ seen) : entries.toList.length ≤
      (seen.map Observation.canonicalKey).dedup.length := by
  rw [← List.length_map (f := Observation.canonicalKey)]
  refine (List.subperm_of_subset entries.nodup_keys fun k hk => ?_).length_le
  obtain ⟨r, hr, rfl⟩ := List.mem_map.1 hk
  exact List.mem_dedup.2 (List.mem_map_of_mem (h r hr))

/-- **One arrival**: it takes the place of a copy with a larger digest, or is new. -/
theorem Keeps.insert {seen : List Observation} (h : l.Keeps seen) (hb : l.belongs obs = .ok ())
    (hroom : ((seen ++ [obs]).map Observation.canonicalKey).dedup.length ≤ l.capacity) :
    (l.insert obs).1.Keeps (seen ++ [obs]) := by
  have hinside : l.insideFolded obs = false := by
    unfold insideFolded
    rw [h.unfolded]
    rfl
  have hcases := l.insert_cases obs
  generalize (l.insert obs).1 = l' at hcases ⊢
  generalize (l.insert obs).2.kind = kind at hcases
  -- a copy that is retained keeps its place before a digest that is no smaller
  have hstays : ∀ l' : SourceLedger, l'.prefixState = l.prefixState → l'.entries = l.entries → ∀ stored,
      l.entries.find? obs.canonicalKey = some stored → contentDigest stored ≤ contentDigest obs →
      l'.Keeps (seen ++ [obs]) := by
    intro l' hstate hentries stored hf hle
    obtain ⟨hstored, hkey⟩ := SortedVec.find?_eq_some.1 hf
    refine ⟨hstate.trans h.unfolded, fun o ho => ?_, fun r hr => ?_⟩
    · rw [hentries]
      rcases List.mem_append.1 ho with ho | ho
      · exact h.covered o ho
      · exact ⟨stored, hstored, hkey.trans (by rw [List.mem_singleton.1 ho])⟩
    · rw [hentries] at hr
      obtain ⟨hseen, hmin⟩ := h.chosen r hr
      refine ⟨List.mem_append_left _ hseen, fun o ho hsame => ?_⟩
      rcases List.mem_append.1 ho with ho | ho
      · exact hmin o ho hsame
      · obtain rfl := List.mem_singleton.1 ho
        rwa [SortedVec.eq_of_key hr hstored (hsame.symm.trans hkey.symm)]
  -- a new entry is the only copy, or has a smaller digest than the one it replaces
  have hset : (∀ stored, l.entries.find? obs.canonicalKey = some stored → contentDigest obs < contentDigest stored) →
      (∀ r ∈ (l.entries.set obs).toList, r ∈ seen ++ [obs] ∧
        ∀ o ∈ seen ++ [obs], o.canonicalKey = r.canonicalKey → contentDigest r ≤ contentDigest o) ∧
      ∀ o ∈ seen ++ [obs], ∃ r ∈ (l.entries.set obs).toList, r.canonicalKey = o.canonicalKey := by
    intro hsmaller
    refine ⟨fun r hr => ?_, fun o ho => ?_⟩
    · rcases SortedVec.mem_set.1 hr with rfl | ⟨hr, hne⟩
      · refine ⟨by simp, fun o ho hsame => ?_⟩
        rcases List.mem_append.1 ho with ho | ho
        · obtain ⟨stored, hstored, hkey⟩ := h.covered o ho
          have hf : l.entries.find? r.canonicalKey = some stored :=
            SortedVec.find?_eq_some.2 ⟨hstored, hkey.trans hsame⟩
          exact UInt64.le_trans (UInt64.le_of_lt (hsmaller stored hf)) ((h.chosen stored hstored).2 o ho hkey.symm)
        · rw [List.mem_singleton.1 ho]
          exact UInt64.le_refl _
      · obtain ⟨hseen, hmin⟩ := h.chosen r hr
        refine ⟨List.mem_append_left _ hseen, fun o ho hsame => ?_⟩
        rcases List.mem_append.1 ho with ho | ho
        · exact hmin o ho hsame
        · rw [List.mem_singleton.1 ho] at hsame
          exact absurd hsame.symm hne
    · rcases List.mem_append.1 ho with ho | ho
      · by_cases hkey : o.canonicalKey = obs.canonicalKey
        · exact ⟨obs, SortedVec.mem_set_self _ _, hkey.symm⟩
        · obtain ⟨r, hr, hrkey⟩ := h.covered o ho
          exact ⟨r, SortedVec.mem_set.2 (.inr ⟨hr, hrkey.trans_ne hkey⟩), hrkey⟩
      · exact ⟨obs, SortedVec.mem_set_self _ _, by rw [List.mem_singleton.1 ho]⟩
  cases hcases with
  | foreign hforeign =>
    rw [hb] at hforeign
    cases hforeign
  | refolded _ hi _ =>
    rw [hinside] at hi
    cases hi
  | stale _ hi _ =>
    rw [hinside] at hi
    cases hi
  | redelivered _ _ stored hf hd => exact hstays _ rfl rfl stored hf (by rw [hd]; exact UInt64.le_refl _)
  | outranked _ _ stored hf hd => exact hstays _ rfl rfl stored hf (UInt64.le_of_lt hd)
  | replaced _ _ stored hf hd =>
    obtain ⟨hchosen, hcovered⟩ := hset (fun stored' hf' => by
      rw [hf] at hf'
      obtain rfl := Option.some.inj hf'
      exact hd)
    exact ⟨h.unfolded, hcovered, hchosen⟩
  | accepted _ _ hf =>
    obtain ⟨hchosen, hcovered⟩ := hset (fun stored hf' => by
      rw [hf] at hf'
      cases hf')
    have hfits := (Keeps.length_le fun r hr => (hchosen r hr).1).trans hroom
    rw [compactEntries_of_le (by exact hfits)]
    exact ⟨h.unfolded, hcovered, hchosen⟩

theorem Keeps.insertAll {arrivals seen : List Observation} (h : l.Keeps seen)
    (hb : ∀ o ∈ arrivals, l.belongs o = .ok ())
    (hroom : ((seen ++ arrivals).map Observation.canonicalKey).dedup.length ≤ l.capacity) :
    (l.insertAll arrivals).Keeps (seen ++ arrivals) := by
  induction arrivals generalizing l seen with
  | nil => rwa [List.append_nil]
  | cons obs arrivals ih =>
    have hsource := l.insert_source obs
    have happend : seen ++ obs :: arrivals = seen ++ [obs] ++ arrivals := by simp
    have hfewer : ((seen ++ [obs]).map Observation.canonicalKey).dedup.length ≤ l.capacity := by
      refine le_trans (List.subperm_of_subset (List.nodup_dedup _) fun k hk => ?_).length_le hroom
      rw [List.mem_dedup] at hk ⊢
      rw [happend, List.map_append]
      exact List.mem_append_left _ hk
    rw [happend] at hroom ⊢
    refine ih (h.insert (hb obs List.mem_cons_self) hfewer) (fun o ho => ?_) (by rwa [hsource.2.2.2])
    have hbelongs : (l.insert obs).1.belongs o = l.belongs o := by
      unfold belongs
      rw [hsource.1, hsource.2.1]
    rw [hbelongs]
    exact hb o (List.mem_cons_of_mem _ ho)

end SourceLedger

/-! ## What the source said -/

/-- What the source said in an observation: all but the receive instant and the texts of keys. -/
def said (o : Observation) : Observation :=
  { o with
    receivedAt := {}
    sourceKey := []
    subject := { o.subject with
      flowKey := [], endpointKey := [], peerEndpointKey := [], pathKey := [], queueKey := [], linkKey := [] } }

/-- The digest is one of what the source said. -/
theorem contentDigest_said (o : Observation) : contentDigest (said o) = contentDigest o := by
  rw [contentDigest_eq, contentDigest_eq]
  rfl

/-- The fold without the instant of the last receipt. -/
def FoldState.unreceived (s : FoldState) : FoldState := { s with lastReceivedAt := {} }

section Unreceived

variable (policy : CounterPolicy) (s : FoldState) (obs : Observation)

theorem unreceived_fence : (fence s obs policy).unreceived = fence s.unreceived obs policy := by
  unfold fence
  have hfields : s.unreceived.currentIncarnation = s.currentIncarnation ∧ s.unreceived.currentEpoch = s.currentEpoch :=
    ⟨rfl, rfl⟩
  rw [hfields.1, hfields.2]
  split
  · cases s.currentIncarnation.valid <;> rfl
  · split
    · cases policy.honorExplicitCounterReset && kindAnnouncesCounterRestart obs.kind <;> rfl
    · rfl

theorem unreceived_cover : (cover s obs).unreceived = cover s.unreceived obs := by
  unfold cover
  cases obs.evidence == .Complete <;> cases obs.direction <;> rfl

theorem unreceived_declare : (declare s obs).unreceived = declare s.unreceived obs := by
  unfold declare
  cases obs.kind <;> rfl

theorem unreceived_count : (count s obs policy).unreceived = count s.unreceived obs policy := by
  have hopt : ∀ (s : FoldState) (kind : Option AnomalyKind),
      (s.noteOpt kind).unreceived = s.unreceived.noteOpt kind := by
    intro s kind
    cases kind <;> rfl
  have hset : ∀ (s : FoldState) (d : DirectionalAccounting), (s.setAccounting d obs.direction).unreceived
      = s.unreceived.setAccounting d obs.direction := by
    intro s d
    cases obs.direction <;> rfl
  have hprogress : ∀ (s : FoldState) (progress : Bool),
      (if progress then { s with
          lastProgressAt := if s.lastProgressAt < obs.observedAt then obs.observedAt else s.lastProgressAt
          observedProgress := true } else s).unreceived
        = if progress then { s.unreceived with
            lastProgressAt := if s.unreceived.lastProgressAt < obs.observedAt then obs.observedAt
              else s.unreceived.lastProgressAt
            observedProgress := true } else s.unreceived := by
    intro s progress
    cases progress <;> rfl
  have hlast : ∀ (s : FoldState) (late : Bool), (if late then s.note .IncompleteEvidence else s).unreceived
      = if late then s.unreceived.note .IncompleteEvidence else s.unreceived := by
    intro s late
    cases late <;> rfl
  have haccounting : s.unreceived.accountingFor obs.direction = s.accountingFor obs.direction := by
    cases obs.direction <;> rfl
  simp only [count, haccounting]
  rw [hlast, hprogress, hset, hopt, hopt, hopt]

/-- **A fold reads what the source said**, but for the instant of the last receipt. -/
theorem unreceived_applyObservation :
    (applyObservation policy s obs).unreceived = (applyObservation policy s.unreceived (said obs)).unreceived := by
  have hroll : (rollUp s obs).unreceived = (rollUp s.unreceived (said obs)).unreceived := rfl
  have hstart : (fence (rollUp s obs) obs policy).unreceived
      = (fence (rollUp s.unreceived (said obs)) (said obs) policy).unreceived := by
    rw [unreceived_fence, unreceived_fence, hroll]
    rfl
  unfold applyObservation
  generalize fence (rollUp s obs) obs policy = t at hstart ⊢
  generalize fence (rollUp s.unreceived (said obs)) (said obs) policy = t' at hstart ⊢
  have hd : t.unreceived.declared = t'.unreceived.declared := by rw [hstart]
  replace hd : t.declared = t'.declared := hd
  by_cases hdeclared : t'.declared = true
  · rw [if_pos hdeclared, if_pos (hd.trans hdeclared)]
    have hlate : ∀ s : FoldState,
        ({ s with afterTerminalObservations := s.afterTerminalObservations + 1 } : FoldState).unreceived
          = { s.unreceived with afterTerminalObservations := s.unreceived.afterTerminalObservations + 1 } :=
            fun _ => rfl
    rw [hlate, hlate, hstart]
  · have hcorrelate : ∀ (s : FoldState) (o : Observation), (correlate s o).unreceived = correlate s.unreceived o :=
      fun _ _ => rfl
    have hsaid : ∀ s : FoldState, cover s (said obs) = cover s obs ∧ declare s (said obs) = declare s obs ∧
        correlate s (said obs) = correlate s obs ∧ count s (said obs) policy = count s obs policy :=
      fun _ => ⟨rfl, rfl, rfl, rfl⟩
    rw [if_neg hdeclared, if_neg (hd ▸ hdeclared), (hsaid _).2.2.2, (hsaid _).2.2.1, (hsaid _).2.1, (hsaid _).1,
      unreceived_count, hcorrelate, unreceived_declare, unreceived_cover, hstart, unreceived_count, hcorrelate,
      unreceived_declare, unreceived_cover]

/-- Entries in which the source said the same fold alike. -/
theorem unreceived_foldl {entries entries' : List Observation} (h : entries.map said = entries'.map said)
    {s s' : FoldState} (hs : s.unreceived = s'.unreceived) :
    (entries.foldl (applyObservation policy) s).unreceived =
    (entries'.foldl (applyObservation policy) s').unreceived := by
  induction entries generalizing entries' s s' with
  | nil =>
    cases entries' with
    | nil => exact hs
    | cons obs' entries' => cases h
  | cons obs entries ih =>
    cases entries' with
    | nil => cases h
    | cons obs' entries' =>
      obtain ⟨hobs, hrest⟩ := List.cons.inj h
      refine ih hrest ?_
      calc (applyObservation policy s obs).unreceived
          = (applyObservation policy s.unreceived (said obs)).unreceived := unreceived_applyObservation policy s obs
        _ = (applyObservation policy s'.unreceived (said obs')).unreceived := by rw [hs, hobs]
        _ = (applyObservation policy s' obs').unreceived := (unreceived_applyObservation policy s' obs').symm

end Unreceived

namespace SourceLedger

/-- **The order of arrival does not matter.** Of observations of one source in a generation, with no more keys than
the ledger has room for, any two orders of arrival leave the same keys in the same order. Under each key both ledgers
retain the presented observation with the smallest digest, and if equal digests mean that the source said the same,
they retain the same and fold to the same accounting. -/
theorem arrival_order_does_not_matter (source : SourceId) (generation : FlowGeneration) (policy : CounterPolicy)
    (capacity : Nat) (arrivals arrivals' : List Observation) (horder : arrivals.Perm arrivals')
    (hown : ∀ o ∈ arrivals, (configure source generation capacity).belongs o = .ok ())
    (hkeys : (arrivals.map Observation.canonicalKey).dedup.length ≤ capacity)
    (hdigest : ∀ a ∈ arrivals, ∀ b ∈ arrivals, a.canonicalKey = b.canonicalKey → contentDigest a = contentDigest b →
      said a = said b) :
    let l := filled source generation policy arrivals capacity
    let l' := filled source generation policy arrivals' capacity
    l.entries.toList.map Observation.canonicalKey = l'.entries.toList.map Observation.canonicalKey ∧
      (∀ r, r ∈ l.entries.toList ∨ r ∈ l'.entries.toList → r ∈ arrivals ∧
        ∀ o ∈ arrivals, o.canonicalKey = r.canonicalKey → contentDigest r ≤ contentDigest o) ∧
      (∀ o ∈ arrivals, o.canonicalKey ∈ l.entries.toList.map Observation.canonicalKey) ∧
      l.entries.toList.map said = l'.entries.toList.map said ∧
      ∀ (descriptor : SourceDescriptor) (ctx : FreshnessContext) (counters : CounterPolicy),
        let v := foldSourceView l descriptor ctx counters
        let v' := foldSourceView l' descriptor ctx counters
        (v.forward, v.reverse, v.aggregate) = (v'.forward, v'.reverse, v'.aggregate) ∧
          (v.forwardTotals, v.reverseTotals, v.aggregateTotals) =
          (v'.forwardTotals, v'.reverseTotals, v'.aggregateTotals) ∧
          (v.coverage, v.declaredTerminal, v.declaredCause) = (v'.coverage, v'.declaredTerminal, v'.declaredCause) := by
  intro l l'
  have hempty : ((configure source generation capacity).setCounterPolicy policy).Keeps [] := by
    constructor
    · rfl
    · intro o ho
      cases ho
    · intro r hr
      cases hr
  have hroom : capacity ≤ ((configure source generation capacity).setCounterPolicy policy).capacity := by
    simp only [configure, setCounterPolicy]
    split <;> omega
  have hkeeps : l.Keeps arrivals := hempty.insertAll hown (hkeys.trans hroom)
  have hkeeps' : l'.Keeps arrivals' := by
    refine hempty.insertAll (fun o ho => hown o (horder.mem_iff.2 ho)) ?_
    have hlength := (horder.map Observation.canonicalKey).dedup.length_eq
    rw [List.nil_append, ← hlength]
    exact hkeys.trans hroom
  have hsaid : ∀ o : Observation, (said o).canonicalKey = o.canonicalKey := fun _ => rfl
  have hsame : l.entries.map said hsaid = l'.entries.map said hsaid := by
    refine SortedVec.ext_find? fun k => ?_
    rw [SortedVec.find?_map, SortedVec.find?_map]
    cases hf : l.entries.find? k with
    | none =>
      have hnone : l'.entries.find? k = none := by
        refine SortedVec.find?_eq_none.2 fun r hr hk => ?_
        obtain ⟨r', hr', hkey⟩ := hkeeps.covered r (horder.mem_iff.2 (hkeeps'.chosen r hr).1)
        exact SortedVec.find?_eq_none.1 hf r' hr' (hkey.trans hk)
      rw [hnone]
    | some r =>
      obtain ⟨hr, hk⟩ := SortedVec.find?_eq_some.1 hf
      obtain ⟨hpresented, hmin⟩ := hkeeps.chosen r hr
      obtain ⟨r', hr', hkey⟩ := hkeeps'.covered r (horder.mem_iff.1 hpresented)
      obtain ⟨hpresented', hmin'⟩ := hkeeps'.chosen r' hr'
      have hdigests : contentDigest r = contentDigest r' :=
        UInt64.le_antisymm (hmin r' (horder.mem_iff.2 hpresented') hkey)
          (hmin' r (horder.mem_iff.1 hpresented) hkey.symm)
      rw [SortedVec.find?_eq_some.2 ⟨hr', hkey.trans hk⟩, Option.map_some, Option.map_some,
        hdigest r hpresented r' (horder.mem_iff.2 hpresented') hkey.symm hdigests]
  have hlists : l.entries.toList.map said = l'.entries.toList.map said := congrArg SortedVec.toList hsame
  have hkeyed : ∀ entries : List Observation,
      entries.map Observation.canonicalKey = (entries.map said).map Observation.canonicalKey := by
    intro entries
    rw [List.map_map]
    rfl
  refine ⟨?_, ?_, fun o ho => ?_, hlists, fun descriptor ctx counters => ?_⟩
  · rw [hkeyed, hkeyed l'.entries.toList, hlists]
  · rintro r (hr | hr)
    · exact hkeeps.chosen r hr
    · obtain ⟨hpresented, hmin⟩ := hkeeps'.chosen r hr
      exact ⟨horder.mem_iff.2 hpresented, fun o ho => hmin o (horder.mem_iff.1 ho)⟩
  · obtain ⟨r, hr, hsame⟩ := hkeeps.covered o ho
    exact hsame ▸ List.mem_map_of_mem hr
  · have hfold : (l.foldAll counters).unreceived = (l'.foldAll counters).unreceived := by
      unfold foldAll
      rw [hkeeps.unfolded, hkeeps'.unfolded]
      exact unreceived_foldl counters hlists rfl
    have hfield : ∀ {α : Type} (field : FoldState → α), (∀ s, field (FoldState.unreceived s) = field s) →
        field (l.foldAll counters) = field (l'.foldAll counters) := by
      intro α field hreads
      rw [← hreads, hfold, hreads]
    refine ⟨hfield (fun s => (s.forward, s.reverse, s.aggregate)) (fun _ => rfl),
      hfield (fun s => (toConsumption s.forward, toConsumption s.reverse, toConsumption s.aggregate)) (fun _ => rfl),
      hfield (fun s => (s.coverage, s.declaredTerminal.filter isTerminal, s.declaredCause)) (fun _ => rfl)⟩

theorem arrival_order_does_not_matter_readings :
    let arrivals := [byteReading 2 25, byteReading 1 10, byteReading 2 7]
    let arrivals' := [byteReading 2 7, byteReading 2 25, byteReading 1 10]
    let ledger := fun arrivals => filled ⟨1⟩ ⟨⟨7⟩, ⟨1⟩⟩ {} arrivals 2
    (ledger arrivals).entries.toList.map Observation.canonicalKey
        = (ledger arrivals').entries.toList.map Observation.canonicalKey ∧
      (ledger arrivals).entries.toList.map said = (ledger arrivals').entries.toList.map said := by
  intro arrivals arrivals' ledger
  obtain ⟨hkeys, -, -, hsaid, -⟩ := arrival_order_does_not_matter ⟨1⟩ ⟨⟨7⟩, ⟨1⟩⟩ {} 2 arrivals arrivals'
    (by decide) (by decide) (by decide) (by decide +kernel)
  exact ⟨hkeys, hsaid⟩

end SourceLedger

end FlowObs
