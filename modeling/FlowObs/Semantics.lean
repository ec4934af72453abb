import FlowObs.Time

/-!
# Error codes and the vocabulary of the runtime

The enumerations of `error.hpp` and `semantics.hpp`. A failure is an `Error` (a code and the text of its message); an
operation that can fail returns `Except Error α`. Enumerations that are persisted carry their wire byte (`toU8`) and
its partial inverse (`ofU8?`).
-/

namespace FlowObs

/-! ## Errors -/

/-- `ErrorCode`. -/
inductive ErrorCode
  | Ok | InvalidArgument | OutOfRange | LimitExceeded | NotFound
  | StaleEvidence | StaleEpoch | StaleIncarnation | StaleGeneration | StaleRevision | SequenceReplay
  | DuplicateEvidence | EvidenceConflict | UnsupportedCapability | IncompleteEvidence
  | IntegrityFailure | FormatMismatch | VersionMismatch | TruncatedRecord
  | NotOpen | AlreadyOpen | ShuttingDown | Cancelled | AlreadyRunning | NotRunning
  | ProtocolError | ConnectionClosed | ConnectionRefused | AddressInUse
  | ArithmeticOverflow | OutOfMemory | IoError | Internal
deriving DecidableEq, Repr, Inhabited

/-- `to_string`. -/
def ErrorCode.toStr : ErrorCode → Str
  | .Ok => str "ok"
  | .InvalidArgument => str "invalid_argument"
  | .OutOfRange => str "out_of_range"
  | .LimitExceeded => str "limit_exceeded"
  | .NotFound => str "not_found"
  | .StaleEvidence => str "stale_evidence"
  | .StaleEpoch => str "stale_epoch"
  | .StaleIncarnation => str "stale_incarnation"
  | .StaleGeneration => str "stale_generation"
  | .StaleRevision => str "stale_revision"
  | .SequenceReplay => str "sequence_replay"
  | .DuplicateEvidence => str "duplicate_evidence"
  | .EvidenceConflict => str "evidence_conflict"
  | .UnsupportedCapability => str "unsupported_capability"
  | .IncompleteEvidence => str "incomplete_evidence"
  | .IntegrityFailure => str "integrity_failure"
  | .FormatMismatch => str "format_mismatch"
  | .VersionMismatch => str "version_mismatch"
  | .TruncatedRecord => str "truncated_record"
  | .NotOpen => str "not_open"
  | .AlreadyOpen => str "already_open"
  | .ShuttingDown => str "shutting_down"
  | .Cancelled => str "cancelled"
  | .AlreadyRunning => str "already_running"
  | .NotRunning => str "not_running"
  | .ProtocolError => str "protocol_error"
  | .ConnectionClosed => str "connection_closed"
  | .ConnectionRefused => str "connection_refused"
  | .AddressInUse => str "address_in_use"
  | .ArithmeticOverflow => str "arithmetic_overflow"
  | .OutOfMemory => str "out_of_memory"
  | .IoError => str "io_error"
  | .Internal => str "internal"

/-- A failed `Status`: its code and message. -/
structure Error where
  code : ErrorCode
  message : Str
deriving DecidableEq, Repr

/-- `Status::describe`. -/
def Error.describe (e : Error) : Str := e.code.toStr ++ if e.message ≠ [] then str ": " ++ e.message else []

/-- `invalid_argument`. -/
def invalidArgument (message : String) : Error := ⟨.InvalidArgument, str message⟩
/-- `limit_exceeded`. -/
def limitExceeded (message : String) : Error := ⟨.LimitExceeded, str message⟩

/-- A guard: the error unless the condition holds. -/
def require (condition : Bool) (e : Error) : Except Error Unit := if condition then .ok () else .error e

@[simp] theorem require_true (e : Error) : require true e = .ok () := rfl
@[simp] theorem require_false (e : Error) : require false e = .error e := rfl

theorem require_ok {c : Bool} {e : Error} : require c e = .ok () ↔ c = true := by
  cases c <;> simp [require]

@[simp] theorem ok_bind {ε α β : Type} (a : α) (f : α → Except ε β) : (Except.ok a >>= f) = f a := rfl
@[simp] theorem error_bind {ε α β : Type} (e : ε) (f : α → Except ε β) : (Except.error e >>= f) = .error e := rfl
@[simp] theorem pure_eq_ok {ε α : Type} (a : α) : (pure a : Except ε α) = .ok a := rfl

/-- A bind succeeds when both of its halves do. -/
theorem bind_ok {ε α β : Type} {x : Except ε α} {f : α → Except ε β} {b : β} :
    (x >>= f) = .ok b ↔ ∃ a, x = .ok a ∧ f a = .ok b := by
  cases x with
  | error e => simp [bind, Except.bind]
  | ok a => simp [bind, Except.bind]

/-- A mapped result comes from a result. -/
theorem map_ok {ε α β : Type} {x : Except ε α} {f : α → β} {b : β} : x.map f = .ok b ↔ ∃ a, x = .ok a ∧ f a = b := by
  cases x <;> simp [Except.map]

/-- A result that is there. -/
theorem eq_ok_getD {ε α : Type} {x : Except ε α} (h : x.isOk = true) (a : α) : x = .ok (x.toOption.getD a) := by
  cases x with
  | error e => cases h
  | ok b => rfl

theorem require_bind_ok {c : Bool} {e : Error} {β : Type} {f : Unit → Except Error β} {b : β} :
    (require c e >>= f) = .ok b ↔ c = true ∧ f () = .ok b := by
  cases c <;> simp [require]

/-- What every successful step of a fold preserves, the fold preserves. -/
theorem foldlM_ok {ε σ ι : Type} {P : σ → Prop} {f : σ → ι → Except ε σ} {l : List ι} {s s' : σ}
    (hf : ∀ i ∈ l, ∀ s s', f s i = .ok s' → P s → P s') (h : l.foldlM f s = .ok s') (hs : P s) : P s' := by
  induction l generalizing s with
  | nil =>
    cases h
    exact hs
  | cons i l ih =>
    rw [List.foldlM_cons, bind_ok] at h
    obtain ⟨s₁, h₁, h⟩ := h
    obtain ⟨hi, hrest⟩ := List.forall_mem_cons.1 hf
    exact ih hrest h (hi s s₁ h₁ hs)

/-- In a fold that succeeds every step does. -/
theorem foldlM_steps {ε σ ι : Type} {f : σ → ι → Except ε σ} {l : List ι} {s s' : σ} (h : l.foldlM f s = .ok s') :
    ∀ i ∈ l, ∃ t t', f t i = .ok t' := by
  induction l generalizing s with
  | nil => simp
  | cons i l ih =>
    rw [List.foldlM_cons, bind_ok] at h
    obtain ⟨s₁, h₁, h⟩ := h
    exact List.forall_mem_cons.2 ⟨⟨s, s₁, h₁⟩, ih h⟩

/-! ## Lifecycle -/

/-- `FlowState`. -/
inductive FlowState
  | Unknown | Observed | Active | Idle | Completed | Reset | Expired | Conflicting
deriving DecidableEq, Repr, Inhabited

/-- `to_string`. -/
def FlowState.toStr : FlowState → Str
  | .Unknown => str "unknown"
  | .Observed => str "observed"
  | .Active => str "active"
  | .Idle => str "idle"
  | .Completed => str "completed"
  | .Reset => str "reset"
  | .Expired => str "expired"
  | .Conflicting => str "conflicting"

/-- `is_terminal`. -/
def isTerminal : FlowState → Bool
  | .Completed | .Reset | .Expired => true
  | _ => false

/-- `asserts_liveness`. -/
def assertsLiveness (s : FlowState) : Bool := s == .Active

/-- `StateCause`. -/
inductive StateCause
  | None | FirstObservation | ProgressObserved | IdleThresholdReached | CompletionObserved | TerminalCountersObserved
  | ResetObserved | CounterRegression | ExpiryPolicy | AuthorityConflict | ConflictResolved | RecoveredFromJournal
  | GenerationAdvanced | EvidenceFenced
deriving DecidableEq, Repr, Inhabited

/-- `to_string`. -/
def StateCause.toStr : StateCause → Str
  | .None => str "none"
  | .FirstObservation => str "first-observation"
  | .ProgressObserved => str "progress-observed"
  | .IdleThresholdReached => str "idle-threshold"
  | .CompletionObserved => str "completion-observed"
  | .TerminalCountersObserved => str "terminal-counters"
  | .ResetObserved => str "reset-observed"
  | .CounterRegression => str "counter-regression"
  | .ExpiryPolicy => str "expiry-policy"
  | .AuthorityConflict => str "authority-conflict"
  | .ConflictResolved => str "conflict-resolved"
  | .RecoveredFromJournal => str "recovered-from-journal"
  | .GenerationAdvanced => str "generation-advanced"
  | .EvidenceFenced => str "evidence-fenced"

/-! ## Evidence -/

/-- `Freshness`. -/
inductive Freshness
  | Unknown | Fresh | Stale | Expired
deriving DecidableEq, Repr, Inhabited

/-- `to_string`. -/
def Freshness.toStr : Freshness → Str
  | .Unknown => str "unknown"
  | .Fresh => str "fresh"
  | .Stale => str "stale"
  | .Expired => str "expired"

/-- `is_usable_for_liveness`. -/
def isUsableForLiveness (f : Freshness) : Bool := f == .Fresh

/-- `Evidence`. -/
inductive Evidence
  | Unknown | Complete | Incomplete | Unsupported
deriving DecidableEq, Repr, Inhabited

/-- `Consistency`. -/
inductive Consistency
  | Unknown | Corroborated | Conflicting | Resolved
deriving DecidableEq, Repr, Inhabited

/-- `to_string`. -/
def Consistency.toStr : Consistency → Str
  | .Unknown => str "unknown"
  | .Corroborated => str "corroborated"
  | .Conflicting => str "conflicting"
  | .Resolved => str "resolved"

/-- `Direction`. -/
inductive Direction
  | Unspecified | Forward | Reverse | Aggregate
deriving DecidableEq, Repr, Inhabited

/-- `Visibility`. -/
inductive Visibility
  | Unknown | OneSided | TwoSided
deriving DecidableEq, Repr, Inhabited

/-- `to_string`. -/
def Visibility.toStr : Visibility → Str
  | .Unknown => str "unknown"
  | .OneSided => str "one-sided"
  | .TwoSided => str "two-sided"

/-- `Coverage`. -/
structure Coverage where
  forwardComplete : Bool := false
  forwardPartial : Bool := false
  reverseComplete : Bool := false
  reversePartial : Bool := false
deriving DecidableEq, Repr, Inhabited

namespace Coverage

def any (c : Coverage) : Bool := c.forwardComplete || c.forwardPartial || c.reverseComplete || c.reversePartial

def bidirectional (c : Coverage) : Bool := c.forwardComplete && c.reverseComplete

def classify (c : Coverage) : Visibility :=
  if c.bidirectional then .TwoSided else if !c.any then .Unknown else .OneSided

end Coverage

/-- `ObservationKind`. -/
inductive ObservationKind
  | Unknown | Open | Sample | Progress | Idle | Close | Reset | Error | PathChange | CounterReset | Heartbeat
deriving DecidableEq, Repr, Inhabited

/-- `kind_announces_counter_restart`. -/
def kindAnnouncesCounterRestart (k : ObservationKind) : Bool := k == .CounterReset || k == .Reset

/-- `AnomalyKind`. -/
inductive AnomalyKind
  | None | DuplicateEvidence | SequenceConflict | StaleEpochReplay | StaleIncarnationReplay | StaleGenerationEvidence
  | StaleRevisionReplay | LateEvidenceRejected | CounterRegression | CounterOverflow | ClockSkew | AuthorityConflict
  | CapabilityUnsupported | IdentityCollision | LimitEviction | UnsupportedMetric | IncompleteEvidence
  | OneSidedVisibility | RestartGap | MalformedEvidence
deriving DecidableEq, Repr, Inhabited

/-! ## Names used by the canonical form -/

/-- `to_string` of a kind. -/
def ObservationKind.name : ObservationKind → Str
  | .Unknown => str "unknown"
  | .Open => str "open"
  | .Sample => str "sample"
  | .Progress => str "progress"
  | .Idle => str "idle"
  | .Close => str "close"
  | .Reset => str "reset"
  | .Error => str "error"
  | .PathChange => str "path-change"
  | .CounterReset => str "counter-reset"
  | .Heartbeat => str "heartbeat"

/-- `to_string` of a direction. -/
def Direction.name : Direction → Str
  | .Unspecified => str "unspecified"
  | .Forward => str "forward"
  | .Reverse => str "reverse"
  | .Aggregate => str "aggregate"

/-- `to_string` of an evidence quality. -/
def Evidence.name : Evidence → Str
  | .Unknown => str "unknown"
  | .Complete => str "complete"
  | .Incomplete => str "incomplete"
  | .Unsupported => str "unsupported"

/-! ## Wire bytes -/

def FlowState.toU8 : FlowState → UInt8
  | .Unknown => 0 | .Observed => 1 | .Active => 2 | .Idle => 3
  | .Completed => 4 | .Reset => 5 | .Expired => 6 | .Conflicting => 7

def FlowState.ofU8? (b : UInt8) : Option FlowState :=
  [.Unknown, .Observed, .Active, .Idle, .Completed, .Reset, .Expired, .Conflicting][b.toNat]?

def StateCause.toU8 : StateCause → UInt8
  | .None => 0 | .FirstObservation => 1 | .ProgressObserved => 2 | .IdleThresholdReached => 3
  | .CompletionObserved => 4 | .TerminalCountersObserved => 5 | .ResetObserved => 6 | .CounterRegression => 7
  | .ExpiryPolicy => 8 | .AuthorityConflict => 9 | .ConflictResolved => 10 | .RecoveredFromJournal => 11
  | .GenerationAdvanced => 12 | .EvidenceFenced => 13

def StateCause.ofU8? (b : UInt8) : Option StateCause :=
  [.None, .FirstObservation, .ProgressObserved, .IdleThresholdReached, .CompletionObserved, .TerminalCountersObserved,
    .ResetObserved, .CounterRegression, .ExpiryPolicy, .AuthorityConflict, .ConflictResolved, .RecoveredFromJournal,
    .GenerationAdvanced, .EvidenceFenced][b.toNat]?

def Evidence.toU8 : Evidence → UInt8
  | .Unknown => 0 | .Complete => 1 | .Incomplete => 2 | .Unsupported => 3

def Evidence.ofU8? (b : UInt8) : Option Evidence := [.Unknown, .Complete, .Incomplete, .Unsupported][b.toNat]?

def Direction.toU8 : Direction → UInt8
  | .Unspecified => 0 | .Forward => 1 | .Reverse => 2 | .Aggregate => 3

def Direction.ofU8? (b : UInt8) : Option Direction := [.Unspecified, .Forward, .Reverse, .Aggregate][b.toNat]?

def ObservationKind.toU8 : ObservationKind → UInt8
  | .Unknown => 0 | .Open => 1 | .Sample => 2 | .Progress => 3 | .Idle => 4 | .Close => 5 | .Reset => 6 | .Error => 7
  | .PathChange => 8 | .CounterReset => 9 | .Heartbeat => 10

def ObservationKind.ofU8? (b : UInt8) : Option ObservationKind :=
  [.Unknown, .Open, .Sample, .Progress, .Idle, .Close, .Reset, .Error, .PathChange, .CounterReset,
    .Heartbeat][b.toNat]?

def AnomalyKind.toU8 : AnomalyKind → UInt8
  | .None => 0 | .DuplicateEvidence => 1 | .SequenceConflict => 2 | .StaleEpochReplay => 3
  | .StaleIncarnationReplay => 4 | .StaleGenerationEvidence => 5 | .StaleRevisionReplay => 6
  | .LateEvidenceRejected => 7 | .CounterRegression => 8 | .CounterOverflow => 9 | .ClockSkew => 10
  | .AuthorityConflict => 11 | .CapabilityUnsupported => 12 | .IdentityCollision => 13 | .LimitEviction => 14
  | .UnsupportedMetric => 15 | .IncompleteEvidence => 16 | .OneSidedVisibility => 17 | .RestartGap => 18
  | .MalformedEvidence => 19

def AnomalyKind.ofU8? (b : UInt8) : Option AnomalyKind :=
  [.None, .DuplicateEvidence, .SequenceConflict, .StaleEpochReplay, .StaleIncarnationReplay, .StaleGenerationEvidence,
    .StaleRevisionReplay, .LateEvidenceRejected, .CounterRegression, .CounterOverflow, .ClockSkew, .AuthorityConflict,
    .CapabilityUnsupported, .IdentityCollision, .LimitEviction, .UnsupportedMetric, .IncompleteEvidence,
    .OneSidedVisibility, .RestartGap, .MalformedEvidence][b.toNat]?

@[simp] theorem FlowState.ofU8?_toU8 (s : FlowState) : FlowState.ofU8? s.toU8 = some s := by cases s <;> rfl
@[simp] theorem StateCause.ofU8?_toU8 (s : StateCause) : StateCause.ofU8? s.toU8 = some s := by cases s <;> rfl
@[simp] theorem Evidence.ofU8?_toU8 (s : Evidence) : Evidence.ofU8? s.toU8 = some s := by cases s <;> rfl
@[simp] theorem Direction.ofU8?_toU8 (s : Direction) : Direction.ofU8? s.toU8 = some s := by cases s <;> rfl
@[simp] theorem ObservationKind.ofU8?_toU8 (s : ObservationKind) : ObservationKind.ofU8? s.toU8 = some s := by
  cases s <;> rfl
@[simp] theorem AnomalyKind.ofU8?_toU8 (s : AnomalyKind) : AnomalyKind.ofU8? s.toU8 = some s := by cases s <;> rfl

end FlowObs
