import FlowObs.Counters
import FlowObs.Lib.SortedVec

/-!
# The per-source ledger

The fold of one source's evidence (`applyObservation`), advanced in canonical order, and the bounded ledger that stores
the accepted observations of one (flow, generation, source) in that order (`SourceLedger`). When the ledger is over
capacity its lowest entries are folded into the prefix, so that the fold of prefix and entries is the fold of
everything that was accepted.
-/

namespace FlowObs

/-! ## The fold state -/

/-- The number of anomaly kinds. -/
def kAnomalyKindCount : Nat := 20

/-- `FoldState`, also the fields of `SourceLedger::Prefix` but its count. -/
structure FoldState where
  forward : DirectionalAccounting := {}
  reverse : DirectionalAccounting := {}
  aggregate : DirectionalAccounting := {}
  coverage : Coverage := {}
  declaredTerminal : Option FlowState := none
  declaredCause : StateCause := .None
  lastKind : ObservationKind := .Unknown
  lastDirection : Direction := .Unspecified
  lastEvidence : Evidence := .Unknown
  lastCounters : CounterSet := {}
  firstObservedAt : Timestamp := {}
  lastObservedAt : Timestamp := {}
  lastReceivedAt : Timestamp := {}
  lastProgressAt : Timestamp := {}
  currentIncarnation : IncarnationId := default
  currentEpoch : EpochId := default
  highRevision : RevisionId := default
  highSequence : SequenceNo := default
  foldedIncarnation : IncarnationId := default
  foldedEpoch : EpochId := default
  foldedRevision : RevisionId := default
  foldedSequence : SequenceNo := default
  foldedSeqExact : Bool := true
  foldedSeqLow : UInt64 := 0
  foldedSeqBits : UInt64 := 0
  anomalyCounts : List UInt32 := List.replicate kAnomalyKindCount 0
  historicalIncarnations : UInt32 := 0
  distinctIncarnations : UInt32 := 0
  afterTerminalObservations : UInt32 := 0
  observedProgress : Bool := false
  endpointA : EndpointId := default
  endpointB : EndpointId := default
  path : Option PathId := none
  links : List LinkId := []
  queues : List QueueId := []
  hopCapacityUnits : List UInt64 := []
  hasQueue : Bool := false
deriving DecidableEq, Repr, Inhabited

/-- `SourceLedger::Prefix`. -/
structure LedgerPrefix extends FoldState where
  foldedObservations : UInt32 := 0
deriving DecidableEq, Repr, Inhabited

namespace FoldState

/-- `note`. -/
def note (s : FoldState) (kind : AnomalyKind) : FoldState :=
  { s with anomalyCounts := s.anomalyCounts.modify kind.toU8.toNat (· + 1) }

/-- `anomaly_count`. -/
def anomalyCount (s : FoldState) (kind : AnomalyKind) : UInt32 := s.anomalyCounts.getD kind.toU8.toNat 0

/-- `break_interval`. -/
def breakInterval (s : FoldState) : FoldState :=
  { s with forward := s.forward.breakInterval, reverse := s.reverse.breakInterval
           aggregate := s.aggregate.breakInterval }

/-- `fold_mark`. -/
def foldMark (s : FoldState) (key : CanonicalKey) : FoldState :=
  if s.foldedIncarnation ≠ key.incarnation ∨ s.foldedEpoch ≠ key.epoch then
    { s with foldedIncarnation := key.incarnation, foldedEpoch := key.epoch, foldedSeqLow := key.sequence.value
             foldedSeqBits := 1, foldedSeqExact := true }
  else
    let low := s.foldedSeqLow
    let sequence := key.sequence.value
    if low ≤ sequence ∧ sequence < low + 64 then
      { s with foldedSeqBits := s.foldedSeqBits ||| (1 <<< (sequence - low)) }
    else if low + 64 ≤ sequence then
      let shift := sequence - low - 63
      { s with foldedSeqBits := (if 64 ≤ shift then 0 else s.foldedSeqBits <<< shift) ||| 1
               foldedSeqLow := sequence - 63 }
    else { s with foldedSeqExact := false }

/-- `fold_contains`. -/
def foldContains (s : FoldState) (key : CanonicalKey) : Bool :=
  if !s.foldedSeqExact then false
  else if s.foldedIncarnation ≠ key.incarnation ∨ s.foldedEpoch ≠ key.epoch then false
  else
    let sequence := key.sequence.value
    if sequence < s.foldedSeqLow ∨ s.foldedSeqLow + 64 ≤ sequence then false
    else ((s.foldedSeqBits >>> (sequence - s.foldedSeqLow)) &&& 1) != 0

/-- The bound of the folded region. -/
def foldedBound (s : FoldState) : CanonicalKey :=
  ⟨s.foldedIncarnation, s.foldedEpoch, s.foldedRevision, s.foldedSequence⟩

end FoldState

/-! ## Folding one observation -/

/-- The roll-ups of instants, revision and sequence. -/
def rollUp (s : FoldState) (obs : Observation) : FoldState :=
  { s with
    firstObservedAt :=
      if !s.firstObservedAt.known || (obs.observedAt.known && obs.observedAt < s.firstObservedAt) then obs.observedAt
      else s.firstObservedAt
    lastObservedAt := if s.lastObservedAt < obs.observedAt then obs.observedAt else s.lastObservedAt
    lastReceivedAt := if s.lastReceivedAt < obs.receivedAt then obs.receivedAt else s.lastReceivedAt
    highRevision := if s.highRevision < obs.key.revision then obs.key.revision else s.highRevision
    highSequence := if s.highSequence < obs.key.sequence then obs.key.sequence else s.highSequence }

/-- The incarnation and epoch fences. -/
def fence (s : FoldState) (obs : Observation) (policy : CounterPolicy) : FoldState :=
  if obs.key.incarnation ≠ s.currentIncarnation then
    let s := if s.currentIncarnation.valid then s.breakInterval.note .RestartGap else s
    { s with currentIncarnation := obs.key.incarnation, currentEpoch := obs.key.epoch
             distinctIncarnations := s.distinctIncarnations + 1 }
  else if obs.key.epoch ≠ s.currentEpoch then
    let s := s.breakInterval
    let s := if policy.honorExplicitCounterReset && kindAnnouncesCounterRestart obs.kind then s
             else s.note .CounterRegression
    { s with currentEpoch := obs.key.epoch }
  else s

/-- The last-seen fields and the directional coverage. -/
def cover (s : FoldState) (obs : Observation) : FoldState :=
  let s := { s with lastKind := obs.kind, lastDirection := obs.direction, lastEvidence := obs.evidence
                    lastCounters := if obs.counters.any then obs.counters else s.lastCounters }
  let complete := obs.evidence == .Complete
  match obs.direction with
  | .Forward =>
    if complete then { s with coverage := { s.coverage with forwardComplete := true } }
    else { s with coverage := { s.coverage with forwardPartial := true } }
  | .Reverse =>
    if complete then { s with coverage := { s.coverage with reverseComplete := true } }
    else { s with coverage := { s.coverage with reversePartial := true } }
  | .Aggregate | .Unspecified => s.note .IncompleteEvidence

/-- The declared terminal state. -/
def declare (s : FoldState) (obs : Observation) : FoldState :=
  match obs.kind with
  | .Close => { s with declaredTerminal := some .Completed, declaredCause := .CompletionObserved }
  | .Reset => { s with declaredTerminal := some .Reset, declaredCause := .ResetObserved }
  | .Error => s.note .MalformedEvidence
  | _ => s

/-- `push_back` unless present. -/
def pushNew {α : Type} [DecidableEq α] (l : List α) : Option α → List α
  | some a => if a ∈ l then l else l ++ [a]
  | none => l

/-- The correlation with endpoints, path, link, queue and capacities. -/
def correlate (s : FoldState) (obs : Observation) : FoldState :=
  let e := obs.subject.endpoint
  let a := if e.valid && !s.endpointA.valid then e else s.endpointA
  let b := if e.valid && s.endpointA.valid && s.endpointA != e && !s.endpointB.valid then e else s.endpointB
  let p := obs.subject.peerEndpoint
  { s with
    endpointA := a
    endpointB := if p.valid && !b.valid && a != p then p else b
    path := if obs.subject.path.isSome && s.path.isNone then obs.subject.path else s.path
    links := pushNew s.links obs.subject.link
    hasQueue := s.hasQueue || obs.subject.queue.isSome
    queues := pushNew s.queues obs.subject.queue
    hopCapacityUnits := if s.hopCapacityUnits.isEmpty && !obs.subject.hopCapacityUnits.isEmpty
      then obs.subject.hopCapacityUnits else s.hopCapacityUnits }

/-- What one counter of an observation does: the `apply_counter` lambda. -/
structure CounterStep where
  accumulator : CounterAccumulator
  unsupported : Bool
  noted : Option AnomalyKind
  advanced : Bool
  any : Bool

/-- `apply_counter`. -/
def applyCounter (evidence : Evidence) (regressionAsReset : Bool) (accumulator : CounterAccumulator)
    (unsupported : Bool) : Option UInt64 → CounterStep
  | none =>
    if evidence = .Unsupported then ⟨accumulator, true, some .UnsupportedMetric, false, false⟩
    else ⟨accumulator, unsupported, none, false, false⟩
  | some value =>
    match accumulator.observe value regressionAsReset with
    | (a, .Advanced) => ⟨a, unsupported, none, true, true⟩
    | (a, .Regressed) => ⟨a, unsupported, some .CounterRegression, false, true⟩
    | (a, .Saturated) => ⟨a, unsupported, some .CounterOverflow, false, true⟩
    | (a, .Held) => ⟨a, unsupported, some .CounterRegression, false, true⟩
    | (a, .BaselineEstablished) => ⟨a, unsupported, none, false, true⟩
    | (a, .Unchanged) => ⟨a, unsupported, none, false, true⟩

/-- Note an optional anomaly. -/
def FoldState.noteOpt (s : FoldState) : Option AnomalyKind → FoldState
  | some kind => s.note kind
  | none => s

/-- `accounting_for`. -/
def FoldState.accountingFor (s : FoldState) : Direction → DirectionalAccounting
  | .Forward => s.forward
  | .Reverse => s.reverse
  | .Aggregate | .Unspecified => s.aggregate

/-- Write back the accounting of a direction. -/
def FoldState.setAccounting (s : FoldState) (d : DirectionalAccounting) : Direction → FoldState
  | .Forward => { s with forward := d }
  | .Reverse => { s with reverse := d }
  | .Aggregate | .Unspecified => { s with aggregate := d }

/-- The counters of an observation and the progress they show. -/
def count (s : FoldState) (obs : Observation) (policy : CounterPolicy) : FoldState :=
  let d := s.accountingFor obs.direction
  let step := applyCounter obs.evidence policy.treatRegressionAsReset
  let b := step d.bytes d.bytesUnsupported obs.counters.bytes
  let p := step d.packets d.packetsUnsupported obs.counters.packets
  let r := step d.retransmissions d.retransmissionsUnsupported obs.counters.retransmissions
  let s := ((s.noteOpt b.noted).noteOpt p.noted).noteOpt r.noted
  let s := s.setAccounting ⟨b.accumulator, p.accumulator, r.accumulator, b.unsupported, p.unsupported, r.unsupported⟩
    obs.direction
  let progress := b.advanced || p.advanced || r.advanced || obs.kind == .Progress || obs.kind == .Open
    || obs.kind == .PathChange
  let s := if progress then
      { s with lastProgressAt := if s.lastProgressAt < obs.observedAt then obs.observedAt else s.lastProgressAt
               observedProgress := true }
    else s
  if (b.any || p.any || r.any) && obs.direction == .Unspecified then s.note .IncompleteEvidence else s

/-- A terminal state was declared. -/
def FoldState.declared (s : FoldState) : Bool := s.declaredTerminal.any isTerminal

/-- `apply_observation`. Evidence after a terminal declaration is counted and ignored. -/
def applyObservation (policy : CounterPolicy) (s : FoldState) (obs : Observation) : FoldState :=
  let s := fence (rollUp s obs) obs policy
  if s.declared then { s with afterTerminalObservations := s.afterTerminalObservations + 1 }
  else count (correlate (declare (cover s obs) obs) obs) obs policy

/-! ## The ledger -/

/-- `SourceLedger`. The entries are in canonical order by construction. -/
structure SourceLedger where
  source : SourceId := default
  generation : FlowGeneration := {}
  counterPolicy : CounterPolicy := {}
  capacity : Nat := 0
  entries : SortedVec Observation.canonicalKey := ∅
  prefixState : LedgerPrefix := {}
  contentConflicts : UInt64 := 0
  duplicatesSuppressed : UInt64 := 0
  lateRejected : UInt64 := 0
  totalAccepted : UInt64 := 0
deriving DecidableEq, Repr, Inhabited

/-- `InsertResult::Kind`. -/
inductive InsertKind
  | Accepted | Duplicate | ContentConflict | Refused
deriving DecidableEq, Repr

/-- `InsertResult`. -/
structure InsertResult where
  kind : InsertKind := .Accepted
  code : ErrorCode := .Ok
  detail : Str := []
  folded : UInt32 := 0
deriving DecidableEq, Repr

namespace SourceLedger

/-- The constructor, `configure`. -/
def configure (source : SourceId) (generation : FlowGeneration) (capacity : Nat) : SourceLedger :=
  { source := source, generation := generation, capacity := if capacity = 0 then 1 else capacity }

/-- Fold one entry into the prefix, moving the bound of the folded region to it. -/
def foldEntry (policy : CounterPolicy) (s : FoldState) (obs : Observation) : FoldState :=
  let s := (applyObservation policy s obs).foldMark obs.canonicalKey
  { s with foldedRevision := obs.key.revision, foldedSequence := obs.key.sequence }

/-- Fold the lowest entries when the ledger is over capacity; also the number folded. -/
def compactEntries (l : SourceLedger) : SourceLedger × UInt32 :=
  let excess := l.entries.toList.length - l.capacity
  if l.entries.toList.length ≤ l.capacity then (l, 0)
  else
    let s := (l.entries.toList.take excess).foldl (foldEntry l.counterPolicy) l.prefixState.toFoldState
    ({ l with
        prefixState := ⟨s, l.prefixState.foldedObservations + UInt32.ofNat excess⟩
        entries := l.entries.drop excess }, UInt32.ofNat excess)

/-- The observation lies at or below the bound of the folded region. -/
def insideFolded (l : SourceLedger) (obs : Observation) : Bool :=
  0 < l.prefixState.foldedObservations && !canonicalLess l.prefixState.foldedBound obs.canonicalKey

/-- The checks that an observation belongs to the ledger, with the detail of the one that fails. -/
def belongs (l : SourceLedger) (obs : Observation) : Except Str Unit :=
  if !obs.valid then .error (str "observation is missing a key or a subject")
  else if obs.key.source ≠ l.source then .error (str "observation source does not match the ledger source")
  else if obs.subject.flow ≠ l.generation.flow ∨ obs.subject.generation ≠ l.generation.generation then
    .error (str "observation subject does not match the ledger generation")
  else .ok ()

/-- `insert`. -/
def insert (l : SourceLedger) (obs : Observation) : SourceLedger × InsertResult :=
  match l.belongs obs with
  | .error detail => (l, { kind := .Refused, code := .InvalidArgument, detail := detail })
  | .ok () =>
    if l.insideFolded obs then
      if l.prefixState.foldContains obs.canonicalKey then
        ({ l with duplicatesSuppressed := l.duplicatesSuppressed + 1 },
          { kind := .Duplicate, code := .DuplicateEvidence
            detail := str "evidence was already folded into the durable accounting" })
      else
        ({ l with lateRejected := l.lateRejected + 1 },
          { kind := .Refused, code := .StaleRevision
            detail := str "evidence falls inside the compacted observation window" })
    else
      match l.entries.find? obs.canonicalKey with
      | some stored =>
        if contentDigest stored = contentDigest obs then
          ({ l with duplicatesSuppressed := l.duplicatesSuppressed + 1 },
            { kind := .Duplicate, code := .DuplicateEvidence, detail := str "identical evidence already stored" })
        else if contentDigest obs < contentDigest stored then
          -- the smaller digest is retained, whichever copy arrived first
          ({ l with contentConflicts := l.contentConflicts + 1, entries := l.entries.set obs },
            { kind := .ContentConflict, code := .EvidenceConflict
              detail := str "the same source key carried different content (larger digest refused)" })
        else
          ({ l with contentConflicts := l.contentConflicts + 1 },
            { kind := .ContentConflict, code := .EvidenceConflict
              detail := str "the same source key carried different content (smaller digest already retained)" })
      | none =>
        let (l, folded) := compactEntries
          { l with entries := l.entries.set obs, totalAccepted := l.totalAccepted + 1 }
        (l, { kind := .Accepted, code := .Ok, folded := folded })

/-- `folded_state`: the prefix with every retained entry folded on top. -/
def foldedState (l : SourceLedger) : LedgerPrefix :=
  match l.entries.toList.getLast? with
  | none => l.prefixState
  | some back =>
    let s := l.entries.toList.foldl
      (fun s obs => (applyObservation l.counterPolicy s obs).foldMark obs.canonicalKey) l.prefixState.toFoldState
    ⟨{ s with foldedIncarnation := s.currentIncarnation, foldedEpoch := s.currentEpoch
              foldedRevision := back.key.revision, foldedSequence := back.key.sequence },
      l.prefixState.foldedObservations + UInt32.ofNat l.entries.toList.length⟩

/-- `seed`. -/
def seed (l : SourceLedger) (p : LedgerPrefix) : SourceLedger :=
  { l with entries := ∅, prefixState := p, contentConflicts := 0, duplicatesSuppressed := 0, lateRejected := 0
           totalAccepted := p.foldedObservations.toUInt64 }

/-! ## What an insertion does -/

/-- **Every way an insertion ends**, with the kind of its answer. -/
inductive Inserted (l : SourceLedger) (obs : Observation) : SourceLedger → InsertKind → Prop
  /-- The observation is not one of this ledger. -/
  | foreign {detail : Str} (h : l.belongs obs = .error detail) : Inserted l obs l .Refused
  /-- It is below the bound of the folded region, and was folded. -/
  | refolded (hb : l.belongs obs = .ok ()) (hi : l.insideFolded obs = true)
    (hc : l.prefixState.foldContains obs.canonicalKey = true) :
    Inserted l obs { l with duplicatesSuppressed := l.duplicatesSuppressed + 1 } .Duplicate
  /-- It is below the bound of the folded region, and is not known to have been folded. -/
  | stale (hb : l.belongs obs = .ok ()) (hi : l.insideFolded obs = true)
    (hc : l.prefixState.foldContains obs.canonicalKey = false) :
    Inserted l obs { l with lateRejected := l.lateRejected + 1 } .Refused
  /-- The same content is retained under its key. -/
  | redelivered (hb : l.belongs obs = .ok ()) (hi : l.insideFolded obs = false) (stored : Observation)
    (hf : l.entries.find? obs.canonicalKey = some stored) (hd : contentDigest stored = contentDigest obs) :
    Inserted l obs { l with duplicatesSuppressed := l.duplicatesSuppressed + 1 } .Duplicate
  /-- Other content with a larger digest is retained under its key, and is replaced. -/
  | replaced (hb : l.belongs obs = .ok ()) (hi : l.insideFolded obs = false) (stored : Observation)
    (hf : l.entries.find? obs.canonicalKey = some stored) (hd : contentDigest obs < contentDigest stored) :
    Inserted l obs { l with contentConflicts := l.contentConflicts + 1, entries := l.entries.set obs } .ContentConflict
  /-- Other content with a smaller digest is retained under its key. -/
  | outranked (hb : l.belongs obs = .ok ()) (hi : l.insideFolded obs = false) (stored : Observation)
    (hf : l.entries.find? obs.canonicalKey = some stored) (hd : contentDigest stored < contentDigest obs) :
    Inserted l obs { l with contentConflicts := l.contentConflicts + 1 } .ContentConflict
  /-- It is a new entry. -/
  | accepted (hb : l.belongs obs = .ok ()) (hi : l.insideFolded obs = false)
    (hf : l.entries.find? obs.canonicalKey = none) :
    Inserted l obs (compactEntries { l with entries := l.entries.set obs, totalAccepted := l.totalAccepted + 1 }).1
      .Accepted

theorem insert_cases (l : SourceLedger) (obs : Observation) :
    Inserted l obs (l.insert obs).1 (l.insert obs).2.kind := by
  unfold insert
  cases hb : l.belongs obs with
  | error detail => exact .foreign hb
  | ok _ =>
    by_cases hi : l.insideFolded obs = true
    · simp only [hi, if_true]
      by_cases hc : l.prefixState.foldContains obs.canonicalKey = true
      · simp only [hc, if_true]
        exact .refolded hb hi hc
      · simp only [hc, Bool.false_eq_true, if_false]
        exact .stale hb hi (Bool.eq_false_iff.2 hc)
    · replace hi : l.insideFolded obs = false := Bool.eq_false_iff.2 hi
      simp only [hi, Bool.false_eq_true, if_false]
      cases hf : l.entries.find? obs.canonicalKey with
      | none => exact .accepted hb hi hf
      | some stored =>
        simp only
        split
        · rename_i hd
          exact .redelivered hb hi stored hf hd
        · rename_i hne
          split
          · rename_i hd
            exact .replaced hb hi stored hf hd
          · rename_i hd
            exact .outranked hb hi stored hf (by grind)

/-- Compaction moves entries into the prefix and touches nothing else. -/
theorem compactEntries_eq (l : SourceLedger) : ∃ p, l.compactEntries.1 =
    { l with prefixState := p, entries := l.entries.drop (l.entries.toList.length - l.capacity) } := by
  simp only [compactEntries]
  split
  · rename_i h
    refine ⟨l.prefixState, ?_⟩
    rw [Nat.sub_eq_zero_of_le h]
    rfl
  · exact ⟨_, rfl⟩

/-- A ledger that is within its capacity is left alone. -/
theorem compactEntries_of_le {l : SourceLedger} (h : l.entries.toList.length ≤ l.capacity) :
    l.compactEntries = (l, 0) := by
  simp [compactEntries, h]

/-- An insertion keeps whose ledger it is. -/
theorem insert_source (l : SourceLedger) (obs : Observation) :
    (l.insert obs).1.source = l.source ∧ (l.insert obs).1.generation = l.generation ∧
      (l.insert obs).1.counterPolicy = l.counterPolicy ∧ (l.insert obs).1.capacity = l.capacity := by
  have h := insert_cases l obs
  generalize (l.insert obs).1 = l' at h
  generalize (l.insert obs).2.kind = kind at h
  cases h with
  | accepted =>
    obtain ⟨p, h⟩ := compactEntries_eq { l with entries := l.entries.set obs, totalAccepted := l.totalAccepted + 1 }
    rw [h]
    exact ⟨rfl, rfl, rfl, rfl⟩
  | _ => exact ⟨rfl, rfl, rfl, rfl⟩

end SourceLedger

end FlowObs
