import FlowObs.Text.Tokens
import FlowObs.Text.Values

/-!
# FO1 lines

`parse_line`, `format_source` and `format_observation` of `textproto.cpp`. The directives are loops over the tokens
behind the version; a field of an `OBS` line is an `ObsField`, with the name, the reader and the complaint that the
source has for it. The message of a failure is a text until `parse_line` puts the number of the line before it.
-/

namespace FlowObs.Fo1

/-! ## Records -/

/-- `Record::Kind`. -/
inductive RecordKind
  | Comment | Source | Observation | At | Tick | Freeze
deriving DecidableEq, Repr

/-- `Record`. -/
structure Record where
  kind : RecordKind := .Comment
  line : Nat := 0
  source : SourceDescriptor := {}
  observation : Observation := {}
  now : Timestamp := {}
deriving DecidableEq, Repr

/-- `kTextObservationVersion`. -/
def kTextObservationVersion : UInt32 := 1

/-- A value that its reader takes, or the complaint. -/
def orFail {α : Type} (complaint : Str) : Option α → Except Str α
  | some a => .ok a
  | none => .error complaint

@[simp] theorem orFail_some {α : Type} (complaint : Str) (a : α) : orFail complaint (some a) = .ok a := rfl

theorem orFail_eq_ok {α : Type} {complaint : Str} {x : Option α} {a : α} : orFail complaint x = .ok a ↔ x = some a := by
  cases x <;> simp [orFail]

/-- `expect_version` at the token behind the directive. -/
def expectVersion : List Token → Except Str (List Token)
  | [] => .error (str "FO1 record must begin with v=<version>")
  | token :: tokens =>
    if token.key ≠ str "v" then .error (str "FO1 record must begin with v=<version>")
    else do
      let version ← orFail (str "FO1 version is not a number") (parseU32 token.value)
      if version ≠ kTextObservationVersion then .error (str "unsupported FO1 version") else .ok tokens

/-! ## The directives -/

/-- The state of the loop over the fields of a source. -/
structure SourceState where
  descriptor : SourceDescriptor := {}
  haveKey : Bool := false
deriving DecidableEq, Repr

/-- One field of a source. -/
def readSourceField (s : SourceState) (token : Token) : Except Str SourceState :=
  if token.hasValue = false then .error (str "SRC token '" ++ token.key ++ str "' has no value")
  else if token.key = str "key" then
    .ok { descriptor := { s.descriptor with canonicalKey := token.value }, haveKey := true }
  else if token.key = str "auth" then do
    let authority ← orFail (str "SRC auth is not a valid u32") (parseU32 token.value)
    .ok { s with descriptor := { s.descriptor with authority := authority } }
  else if token.key = str "caps" then do
    let capabilities ← orFail (str "SRC caps has an unknown capability name") (parseCapabilities token.value)
    .ok { s with descriptor := { s.descriptor with capabilities := capabilities } }
  else if token.key = str "advisory" then
    if token.value = str "1" ∨ token.value = str "true" then
      .ok { s with descriptor := { s.descriptor with advisoryOnly := true } }
    else if token.value = str "0" ∨ token.value = str "false" then
      .ok { s with descriptor := { s.descriptor with advisoryOnly := false } }
    else .error (str "SRC advisory must be 0/1 or true/false")
  else .error (str "SRC has an unknown token '" ++ token.key ++ str "'")

/-- `SRC`. -/
def readSource (tokens : List Token) : Except Str SourceDescriptor := do
  let s ← tokens.foldlM readSourceField {}
  if s.haveKey = false ∨ s.descriptor.canonicalKey = [] then .error (str "SRC requires key=\"...\"")
  else .ok { s.descriptor with id := makeId .source s.descriptor.canonicalKey }

/-- The fields of `AT` and of `TICK`: the instant of the last `now`. -/
def readNow (directive : Str) (_ : Option Timestamp) (token : Token) : Except Str (Option Timestamp) :=
  if token.key ≠ str "now" then .error (directive ++ str " has an unknown token '" ++ token.key ++ str "'")
  else do
    let nanos ← orFail (directive ++ str " now is not a valid nanosecond instant") (parseI64 token.value)
    .ok (some ⟨nanos⟩)

/-- `AT`. -/
def readAt (tokens : List Token) : Except Str Timestamp := do
  let now ← tokens.foldlM (readNow (str "AT")) none
  orFail (str "AT requires now=<nanoseconds>") now

/-- `TICK`. -/
def readTick (tokens : List Token) : Except Str Timestamp := do
  let now ← tokens.foldlM (readNow (str "TICK")) none
  .ok (now.getD .unknown)

/-! ## Observations -/

/-- The fields of an observation. -/
inductive ObsField
  | src | inc | epoch | rev | seq | flow | gen | ep | peer | path | queue | link | pathgen | hopcap | obs | rx |
    kind | dir | ev
  | bytes | pkts | retx | dur | rtt | caps | schema
deriving DecidableEq, Repr

namespace ObsField

/-- The fields in the order in which `parse_line` asks for them. -/
def all : List ObsField :=
  [src, inc, epoch, rev, seq, flow, gen, ep, peer, path, queue, link, pathgen, hopcap, obs, rx, kind, dir, ev,
    bytes, pkts, retx,
    dur, rtt, caps, schema]

/-- The key of a field. -/
def name : ObsField → Str
  | src => str "src"
  | inc => str "inc"
  | epoch => str "epoch"
  | rev => str "rev"
  | seq => str "seq"
  | flow => str "flow"
  | gen => str "gen"
  | ep => str "ep"
  | peer => str "peer"
  | path => str "path"
  | queue => str "queue"
  | link => str "link"
  | pathgen => str "pathgen"
  | hopcap => str "hopcap"
  | obs => str "obs"
  | rx => str "rx"
  | kind => str "kind"
  | dir => str "dir"
  | ev => str "ev"
  | bytes => str "bytes"
  | pkts => str "pkts"
  | retx => str "retx"
  | dur => str "dur"
  | rtt => str "rtt"
  | caps => str "caps"
  | schema => str "schema"

/-- The effect of a field: what its reader makes of the value, and where it goes. -/
def set? : ObsField → Str → Observation → Option Observation
  | src, v, o => some { o with key := { o.key with source := makeId .source v } }
  | inc, v, o => (parseU64 v).map fun n => { o with key := { o.key with incarnation := ⟨n⟩ } }
  | epoch, v, o => (parseU64 v).map fun n => { o with key := { o.key with epoch := ⟨n⟩ } }
  | rev, v, o => (parseU64 v).map fun n => { o with key := { o.key with revision := ⟨n⟩ } }
  | seq, v, o => (parseU64 v).map fun n => { o with key := { o.key with sequence := ⟨n⟩ } }
  | flow, v, o => some { o with subject := { o.subject with flowKey := v, flow := makeId .flow v } }
  | gen, v, o => (parseU64 v).map fun n => { o with subject := { o.subject with generation := ⟨n⟩ } }
  | ep, v, o => some { o with subject := { o.subject with endpointKey := v, endpoint := makeId .endpoint v } }
  | peer, v, o => some { o with subject := { o.subject with peerEndpointKey := v, peerEndpoint := makeId .endpoint v } }
  | path, v, o => some { o with subject := { o.subject with pathKey := v, path := some (makeId .path v) } }
  | queue, v, o => some { o with subject := { o.subject with queueKey := v, queue := some (makeId .queue v) } }
  | link, v, o => some { o with subject := { o.subject with linkKey := v, link := some (makeId .link v) } }
  | pathgen, v, o => (parseU64 v).map fun n => { o with subject := { o.subject with pathGeneration := some ⟨n⟩ } }
  | hopcap, v, o => (parseHops v).map fun hops => { o with subject := { o.subject with hopCapacityUnits := hops } }
  | obs, v, o => (parseI64 v).map fun nanos => { o with observedAt := ⟨nanos⟩ }
  | rx, v, o => (parseI64 v).map fun nanos => { o with receivedAt := ⟨nanos⟩ }
  | kind, v, o => (parseObservationKind v).map fun k => { o with kind := k }
  | dir, v, o => (parseDirection v).map fun d => { o with direction := d }
  | ev, v, o => (parseEvidence v).map fun e => { o with evidence := e }
  | bytes, v, o => (parseOptionalCounter v).map fun c => { o with counters := { o.counters with bytes := c } }
  | pkts, v, o => (parseOptionalCounter v).map fun c => { o with counters := { o.counters with packets := c } }
  | retx, v, o => (parseOptionalCounter v).map fun c => { o with counters := { o.counters with retransmissions := c } }
  | dur, v, o => (parseI64 v).map fun nanos => { o with coveredDuration := some ⟨nanos⟩ }
  | rtt, v, o => (parseI64 v).map fun nanos => { o with reportedRtt := some ⟨nanos⟩ }
  | caps, v, o => (parseCapabilities v).map fun c => { o with capabilities := c }
  | schema, v, o => (parseU32 v).map fun n => { o with schemaVersion := n }

/-- What `parse_line` says about a value that a field does not take. -/
def complaint : ObsField → Str → Str
  | inc, _ => str "OBS inc is not a u64"
  | epoch, _ => str "OBS epoch is not a u64"
  | rev, _ => str "OBS rev is not a u64"
  | seq, _ => str "OBS seq is not a u64"
  | gen, _ => str "OBS gen is not a u64"
  | pathgen, _ => str "OBS pathgen is not a u64"
  | hopcap, _ => str "OBS hopcap contains a non-numeric entry"
  | obs, _ => str "OBS obs is not a valid instant"
  | rx, _ => str "OBS rx is not a valid instant"
  | kind, v => str "OBS kind '" ++ v ++ str "' is not a known observation kind"
  | dir, v => str "OBS dir '" ++ v ++ str "' is not a known direction"
  | ev, v => str "OBS ev '" ++ v ++ str "' is not a known evidence class"
  | bytes, _ => str "OBS bytes is neither a u64 nor '-'"
  | pkts, _ => str "OBS pkts is neither a u64 nor '-'"
  | retx, _ => str "OBS retx is neither a u64 nor '-'"
  | dur, _ => str "OBS dur is not a valid duration"
  | rtt, _ => str "OBS rtt is not a valid duration"
  | caps, _ => str "OBS caps has an unknown capability name"
  | schema, _ => str "OBS schema is not a u32"
  -- the identities take every text
  | src, _ | flow, _ | ep, _ | peer, _ | path, _ | queue, _ | link, _ => []

end ObsField

/-- The state of the loop over the fields of an observation. -/
structure ObsState where
  observation : Observation := {}
  haveSrc : Bool := false
  haveFlow : Bool := false
  haveObsAt : Bool := false
  haveKind : Bool := false
deriving DecidableEq, Repr

/-- A field that was read. -/
def ObsState.note (s : ObsState) (f : ObsField) (o : Observation) : ObsState :=
  { observation := o, haveSrc := s.haveSrc || f == .src, haveFlow := s.haveFlow || f == .flow,
    haveObsAt := s.haveObsAt || f == .obs, haveKind := s.haveKind || f == .kind }

/-- One field of an observation. -/
def readObsField (s : ObsState) (token : Token) : Except Str ObsState :=
  if token.hasValue = false then .error (str "OBS token '" ++ token.key ++ str "' has no value")
  else match lookup ObsField.all ObsField.name token.key with
    | none => .error (str "OBS has an unknown token '" ++ token.key ++ str "'")
    | some f => do
      let o ← orFail (f.complaint token.value) (f.set? token.value s.observation)
      .ok (s.note f o)

/-- `OBS`. -/
def readObs (tokens : List Token) : Except Str Observation := do
  let s ← tokens.foldlM readObsField {}
  if s.haveSrc = false then .error (str "OBS requires src=\"...\"")
  else if s.haveFlow = false then .error (str "OBS requires flow=\"...\"")
  else if s.haveObsAt = false then .error (str "OBS requires obs=<nanoseconds>")
  else if s.haveKind = false then .error (str "OBS requires kind=<name>")
  else if s.observation.key.incarnation.valid = false then
    .error (str "OBS requires a non-zero inc=<u64> incarnation fence")
  else if s.observation.subject.generation.valid = false then .error (str "OBS requires a non-zero gen=<u64>")
  else .ok s.observation

/-! ## Lines -/

/-- The line without the line ends behind it. -/
def trimmed (line : Str) : Str := (line.reverse.dropWhile (fun c => c == 13 || c == 10)).reverse

/-- A directive and its tokens. -/
def readRecord (lineNumber : Nat) (directive : Str) (tokens : List Token) : Except Str Record :=
  if directive = str "FREEZE" then .ok { kind := .Freeze, line := lineNumber }
  else if directive = str "SRC" then do
    let tokens ← expectVersion tokens
    let descriptor ← readSource tokens
    .ok { kind := .Source, line := lineNumber, source := descriptor }
  else if directive = str "AT" then do
    let tokens ← expectVersion tokens
    let now ← readAt tokens
    .ok { kind := .At, line := lineNumber, now := now }
  else if directive = str "TICK" then do
    let tokens ← expectVersion tokens
    let now ← readTick tokens
    .ok { kind := .Tick, line := lineNumber, now := now }
  else if directive = str "OBS" then do
    let tokens ← expectVersion tokens
    let observation ← readObs tokens
    .ok { kind := .Observation, line := lineNumber, observation := observation }
  else .error (str "unknown FO1 directive '" ++ directive ++ str "'")

/-- The number of a line before a message. -/
def atLine (lineNumber : Nat) (message : Str) : Str := str "line " ++ decimal lineNumber ++ str ": " ++ message

/-- `parse_line`. -/
def parseLine (line : Str) (lineNumber : Nat) : Except Error Record :=
  let rest := (trimmed line).dropWhile isBlank
  if rest = [] ∨ rest.head? = some 35 then .ok { line := lineNumber }
  else match tokenize (trimmed line) 64 with
    | .error e => .error ⟨e.code, atLine lineNumber e.message⟩
    | .ok [] => .ok { line := lineNumber }
    | .ok (token :: tokens) =>
      (readRecord lineNumber token.key tokens).mapError fun message => ⟨.InvalidArgument, atLine lineNumber message⟩

/-! ## Formatting -/

/-- A field of a line. -/
def field (name : Str) (value : Str) : Str := [32] ++ name ++ [61] ++ value

/-- `append_id_or_key`. -/
def appendIdOrKey (key : Str) (id : UInt64) : Str := if key ≠ [] then appendQuoted key else [64] ++ hex16 id

/-- `format_source`. The key stands between the quotes as it is. -/
def formatSource (descriptor : SourceDescriptor) : Str :=
  str "SRC" ++ field (str "v") (decimal kTextObservationVersion.toNat) ++
  field (str "key") ([34] ++ descriptor.canonicalKey ++ [34])
    ++ field (str "auth") (decimal descriptor.authority.toNat) ++
    field (str "caps") (formatCapabilities descriptor.capabilities)
    ++ field (str "advisory") (str (if descriptor.advisoryOnly then "1" else "0"))

/-- A field of a line that is left out when there is nothing to write. -/
def optionalField (name : Str) : Option Str → Str
  | none => []
  | some value => field name value

/-- `format_observation`. -/
def formatObservation (o : Observation) : Str :=
  str "OBS" ++ field (str "v") (decimal kTextObservationVersion.toNat)
    ++ field (str "src") (appendIdOrKey o.sourceKey o.key.source.value)
    ++ field (str "flow") (appendIdOrKey o.subject.flowKey o.subject.flow.value)
    ++ field (str "gen") (decimal o.subject.generation.value.toNat)
    ++ field (str "inc") (decimal o.key.incarnation.value.toNat)
    ++ field (str "epoch") (decimal o.key.epoch.value.toNat)
    ++ field (str "rev") (decimal o.key.revision.value.toNat)
    ++ field (str "seq") (decimal o.key.sequence.value.toNat)
    ++ optionalField (str "ep")
        (if o.subject.endpoint.valid then some (appendIdOrKey o.subject.endpointKey o.subject.endpoint.value) else none)
    ++ optionalField (str "peer")
        (if o.subject.peerEndpoint.valid then some
          (appendIdOrKey o.subject.peerEndpointKey o.subject.peerEndpoint.value)
          else none)
    ++ optionalField (str "path") (o.subject.path.map fun id => appendIdOrKey o.subject.pathKey id.value)
    ++ optionalField (str "queue") (o.subject.queue.map fun id => appendIdOrKey o.subject.queueKey id.value)
    ++ optionalField (str "link") (o.subject.link.map fun id => appendIdOrKey o.subject.linkKey id.value)
    ++ optionalField (str "pathgen") (o.subject.pathGeneration.map fun g => decimal g.value.toNat)
    ++ optionalField (str "hopcap")
        (if o.subject.hopCapacityUnits ≠ [] then some (formatHops o.subject.hopCapacityUnits) else none)
    ++ field (str "obs") (decimalInt o.observedAt.nanos.toInt)
    ++ optionalField (str "rx") (if o.receivedAt.known then some (decimalInt o.receivedAt.nanos.toInt) else none)
    ++ field (str "kind") o.kind.name ++ field (str "dir") o.direction.name ++ field (str "ev") o.evidence.name
    ++ field (str "bytes") (optionalText (fun v => decimal v.toNat) o.counters.bytes)
    ++ field (str "pkts") (optionalText (fun v => decimal v.toNat) o.counters.packets)
    ++ field (str "retx") (optionalText (fun v => decimal v.toNat) o.counters.retransmissions)
    ++ optionalField (str "dur") (o.coveredDuration.map fun d => decimalInt d.nanos.toInt)
    ++ optionalField (str "rtt") (o.reportedRtt.map fun d => decimalInt d.nanos.toInt)
    ++ optionalField (str "caps") (if !o.capabilities.empty then some (formatCapabilities o.capabilities) else none)
    ++ optionalField (str "schema")
        (if o.schemaVersion ≠ kObservationSchemaVersion then some (decimal o.schemaVersion.toNat) else none)

end FlowObs.Fo1
