import FlowObs.Engine.Explanation
import FlowObs.Engine.Script
import FlowObs.Engine.Stats
import FlowObs.Engine.TickReport
import FlowObs.Wire.Requests

/-!
# Replies

What `dispatch` of `transport.cpp` answers: the JSON of a history and of an attribution, the line of an applied
script, and the kind and text of the reply to each request (`Runtime.reply`), with what it adds to the counters of the
reads. A frame tells what was made of its request (`replyFields_dispatch`), and every reply in JSON is a JSON text of
one value (`reply_json`).
-/

namespace FlowObs

open Json (Element Member Call Scalar)

/-! ## Names -/

/-- `to_string` of the status of an attribution. -/
def AttributionStatus.toStr : AttributionStatus → Str
  | .Ok => str "ok"
  | .FlowNotFound => str "flow-not-found"
  | .GenerationNotFound => str "generation-not-found"
  | .StaleGeneration => str "stale-generation"
  | .NotCurrentGeneration => str "not-current-generation"
  | .NoPathCorrelation => str "no-path-correlation"
  | .UnsupportedByMetadata => str "unsupported-by-metadata"
  | .UnresolvedConflict => str "unresolved-conflict"
  | .LimitExceeded => str "limit-exceeded"

namespace Wire

/-! ## The calls of the writer -/

/-- The calls for an event of a history. -/
def writeEvent (event : LifecycleEvent) : List Call :=
  [.beginObject, .field (str "at") (.int event.atTime.nanos), .field (str "observed_at") (.int event.observedAt.nanos),
    .field (str "generation") (.uint event.generation.generation.value),
    .field (str "from") (.string event.fromState.toStr),
    .field (str "to") (.string event.toState.toStr), .field (str "cause") (.string event.cause.toStr),
    .field (str "source") (.string event.source.toStr), .field (str "detail") (.string event.detail), .endObject]

/-- The calls for a history. -/
def writeHistory (flow : FlowId) (report : HistoryReport) : List Call :=
  ([[.beginObject, .field (str "flow") (.string flow.toStr),
    .field (str "returned") (.uint (UInt64.ofNat report.returned)),
      .field (str "dropped") (.uint report.eventsDropped), .field (str "truncated") (.bool report.truncated),
      .key (str "events"), .beginArray],
    report.events.flatMap writeEvent,
    [.endArray, .endObject]] : List (List Call)).flatten

/-- The calls for a target of an attribution. -/
def writeTarget (target : AttributedTarget) : List Call :=
  [.beginObject, .field (str "index") (.uint target.index.toUInt64),
    .field (str "bytes") (.uint target.consumption.bytes),
    .field (str "packets") (.uint target.consumption.packets),
    .field (str "retransmissions") (.uint target.consumption.retransmissions),
    .field (str "link") (.string target.link.toStr), .field (str "queue") (.string target.queue.toStr),
    .field (str "endpoint") (.string target.endpoint.toStr),
    .field (str "capacity_units") ((target.capacityUnits.map Scalar.uint).getD .null), .endObject]

/-- The calls for an attribution. -/
def writeAttribution (flow : FlowId) (report : AttributionReport) : List Call :=
  ([[.beginObject, .field (str "flow") (.string flow.toStr), .field (str "generation") (.uint report.generation.value),
      .field (str "status") (.string report.status.toStr), .field (str "status_detail") (.string report.statusDetail),
      .key (str "total"), .beginObject, .field (str "bytes") (.uint report.total.bytes),
      .field (str "packets") (.uint report.total.packets),
      .field (str "retransmissions") (.uint report.total.retransmissions),
      .field (str "unknown_intervals") (.uint report.total.unknownIntervals),
      .field (str "exact") (.bool report.total.isExact), .endObject, .key (str "targets"), .beginArray],
    report.targets.flatMap writeTarget,
    [.endArray, .key (str "notes"), .beginArray],
    report.notes.map (fun note => .value (.string note)),
    [.endArray, .endObject]] : List (List Call)).flatten

/-- The text of a history. -/
def historyText (flow : FlowId) (report : HistoryReport) : Str := Json.written false (writeHistory flow report)

/-- The text of an attribution. -/
def attributionText (flow : FlowId) (report : AttributionReport) : Str :=
  Json.written false (writeAttribution flow report)

/-- The text of `IngestAck`. -/
def ackText (r : ScriptResult) : Str :=
  [str "applied=", decimal r.applied.toNat, str " duplicates=", decimal r.duplicates.toNat,
    str " refused=", decimal r.refused.toNat, str " ticks=", decimal r.ticks.toNat, str " sources=",
    decimal r.sources.toNat,
    r.diagnostics.flatMap fun diagnostic => str " | " ++ diagnostic].flatten

/-! ## Replies -/

/-- The text of `TickResult`. -/
def tickText (r : TickReport) : Str :=
  [str "evaluated_at=", decimalInt r.evaluatedAt.nanos.toInt, str " examined=", decimal r.flowsExamined.toNat,
    str " transitions=", decimal r.transitions.toNat, str " idle=", decimal r.becameIdle.toNat,
    str " expired=", decimal r.expired.toNat].flatten

/-- The kind of a request with fields. -/
def requestKind? (kind : MessageKind) : Option RequestKind :=
  if kind = .Query then some .Query
  else if kind = .Explain then some .Explain
  else if kind = .History then some .History
  else if kind = .Attribution then some .Attribution
  else if kind = .Tick then some .Tick
  else none

/-- The kind of the reply to a request with fields. -/
def RequestKind.replyKind : RequestKind → MessageKind
  | .Query => .QueryResult
  | .Explain => .ExplainResult
  | .History => .HistoryResult
  | .Attribution => .AttributionResult
  | .Tick => .TickResult

end Wire

/-- What a read that succeeds adds to the counters. -/
def ReadCounters.served (c : ReadCounters) : Wire.Request → ReadCounters
  | .query _ => { c with exportsServed := c.exportsServed + 1 }
  | .explain _ => { c with explanationsServed := c.explanationsServed + 1 }
  | .attribution _ _ => { c with attributionsServed := c.attributionsServed + 1 }
  | .history _ _ | .tick _ => c

namespace Engine

open Wire

/-- The text of the explanation of a flow. -/
def explanationText (e : Engine) (s : FlowSnapshot) : Str :=
  Explanation.render (Explanation.build s e.context.now e.journal.isSome e.epoch)

/-- What the engine makes of a request, and the text of the reply. -/
def answerText (e : Engine) : Request → Engine × Except Error Str
  | .query options => (e, e.exportText options)
  | .explain flow => (e, (e.explain flow).map e.explanationText)
  | .history flow limit => (e, (e.history flow limit).map (historyText flow))
  | .attribution flow generation =>
    (e, (if generation.valid then e.attributeFlow flow generation e.config.attribution else e.attributeCurrent flow).map
      (attributionText flow))
  | .tick instant => ((e.tick instant).1, (e.tick instant).2.map fun _ => tickText (e.tickReport instant))

/-- `Ingest`. -/
def replyIngest (e : Engine) (allowWrites : Bool) (payload : Str) : Engine × Frame :=
  if allowWrites = false then (e, ⟨.Error, str "endpoint is read-only"⟩)
  else
    match e.applyScriptText payload e.config.limits.maxIngestRecords.toNat false with
    | (e, .error err) => (e, ⟨.Error, err.describe⟩)
    | (e, .ok result) => (e, ⟨.IngestAck, ackText result⟩)

end Engine

/-- The engine with the counters that its reads move. -/
structure Runtime where
  engine : Engine
  reads : ReadCounters := {}

namespace Runtime

open Wire

/-- A request with fields. -/
def replyFields (r : Runtime) (kind : RequestKind) (payload : Str) : Runtime × Frame :=
  match decodeRequest r.engine.now kind payload with
  | .error text => (r, ⟨.Error, text⟩)
  | .ok request =>
    match r.engine.answerText request with
    | (e, .error err) => ({ r with engine := e }, ⟨.Error, err.describe⟩)
    | (e, .ok text) => (⟨e, r.reads.served request⟩, ⟨kind.replyKind, text⟩)

/-- The reply to a request other than `Bye`, and the engine and the counters after it. -/
def reply (r : Runtime) (allowWrites : Bool) (request : Frame) : Runtime × Frame :=
  if request.kind = .Hello then (r, ⟨.Welcome, str "flow-observatory/1.0.0"⟩)
  else if request.kind = .Ingest then
    ({ r with engine := (r.engine.replyIngest allowWrites request.payload).1 },
      (r.engine.replyIngest allowWrites request.payload).2)
  else if request.kind = .StatsRequest then (r, ⟨.StatsResult, (r.engine.stats r.reads).describe⟩)
  else match requestKind? request.kind with
    | none => (r, ⟨.Error, str "unsupported request kind"⟩)
    | some kind => r.replyFields kind request.payload

end Runtime

namespace Engine

open Wire

/-- A result and another of the same success. -/
theorem map_agrees {α β γ : Type} (x : Except Error α) (f : α → β) (g : α → γ) :
    ((∃ b, x.map f = .ok b) ↔ ∃ c, x.map g = .ok c) ∧ ∀ err, x.map g = .error err → x.map f = .error err := by
  cases x <;> simp [Except.map]

/-- A text is sent for what the engine answers, and an error for what it refuses. -/
theorem answerText_answer (e : Engine) (request : Request) :
    (e.answerText request).1 = (e.answer request).1 ∧
    ((∃ text, (e.answerText request).2 = .ok text) ↔ ∃ reply, (e.answer request).2 = .ok reply) ∧
    ∀ err, (e.answer request).2 = .error err → (e.answerText request).2 = .error err := by
  cases request with
  | query options => exact ⟨rfl, map_agrees (e.exportData options) _ _⟩
  | explain flow => exact ⟨rfl, map_agrees (e.explain flow) _ _⟩
  | history flow limit => exact ⟨rfl, map_agrees (e.history flow limit) _ _⟩
  | attribution flow generation => exact ⟨rfl, map_agrees _ _ _⟩
  | tick instant => exact ⟨rfl, map_agrees (e.tick instant).2 _ _⟩

theorem replyKind_ne_error (kind : RequestKind) : kind.replyKind ≠ .Error := by
  cases kind <;> decide

end Engine

namespace Runtime

open Wire

/-- **The frame that is sent** for a request with fields tells what `dispatch` makes of it. -/
theorem replyFields_dispatch (r : Runtime) (kind : RequestKind) (payload : Str) :
    (r.replyFields kind payload).1.engine = (r.engine.dispatch kind payload).1 ∧
    ((r.replyFields kind payload).2.kind = kind.replyKind ↔ ∃ reply, (r.engine.dispatch kind payload).2 = .ok reply) ∧
    ∀ text, (r.engine.dispatch kind payload).2 = .error text → (r.replyFields kind payload).2 = ⟨.Error, text⟩ := by
  have hne := (Engine.replyKind_ne_error kind).symm
  unfold replyFields Engine.dispatch
  cases decodeRequest r.engine.now kind payload with
  | error text => simp [hne]
  | ok request =>
    obtain ⟨hengine, hok, herror⟩ := r.engine.answerText_answer request
    simp only
    rw [← hengine]
    cases hanswer : (r.engine.answer request).2 with
    | error err =>
      have htext := herror err hanswer
      rw [show r.engine.answerText request = ((r.engine.answerText request).1, .error err) from Prod.ext rfl htext]
      simp [hne, Except.mapError]
    | ok reply =>
      obtain ⟨text, htext⟩ := hok.2 ⟨reply, hanswer⟩
      rw [show r.engine.answerText request = ((r.engine.answerText request).1, .ok text) from Prod.ext rfl htext]
      simp [Except.mapError]

end Runtime

/-! ## What the texts say -/

namespace Wire

/-- What is said of an event. -/
def eventElement (event : LifecycleEvent) : Element :=
  .object
    [.field (str "at") (.int event.atTime.nanos), .field (str "observed_at") (.int event.observedAt.nanos),
      .field (str "generation") (.uint event.generation.generation.value),
      .field (str "from") (.string event.fromState.toStr),
      .field (str "to") (.string event.toState.toStr), .field (str "cause") (.string event.cause.toStr),
      .field (str "source") (.string event.source.toStr), .field (str "detail") (.string event.detail)]
    (by
      simp only [List.map_cons, List.map_nil, Member.field_name]
      with_unfolding_all decide)

/-- What is said of a history. -/
def historyElement (flow : FlowId) (report : HistoryReport) : Element :=
  .object
    [.field (str "flow") (.string flow.toStr), .field (str "returned") (.uint (UInt64.ofNat report.returned)),
      .field (str "dropped") (.uint report.eventsDropped), .field (str "truncated") (.bool report.truncated),
      .of (str "events") (.array (report.events.map eventElement))]
    (by
      simp only [List.map_cons, List.map_nil, Member.field_name, Member.of_name]
      with_unfolding_all decide)

/-- What is said of a target. -/
def targetElement (target : AttributedTarget) : Element :=
  .object
    [.field (str "index") (.uint target.index.toUInt64), .field (str "bytes") (.uint target.consumption.bytes),
      .field (str "packets") (.uint target.consumption.packets),
      .field (str "retransmissions") (.uint target.consumption.retransmissions),
      .field (str "link") (.string target.link.toStr), .field (str "queue") (.string target.queue.toStr),
      .field (str "endpoint") (.string target.endpoint.toStr),
      .field (str "capacity_units") ((target.capacityUnits.map Scalar.uint).getD .null)]
    (by
      simp only [List.map_cons, List.map_nil, Member.field_name]
      with_unfolding_all decide)

/-- What is said of the total of an attribution. -/
def totalElement (total : Consumption) : Element :=
  .object
    [.field (str "bytes") (.uint total.bytes), .field (str "packets") (.uint total.packets),
      .field (str "retransmissions") (.uint total.retransmissions),
      .field (str "unknown_intervals") (.uint total.unknownIntervals), .field (str "exact") (.bool total.isExact)]
    (by
      simp only [List.map_cons, List.map_nil, Member.field_name]
      with_unfolding_all decide)

/-- What is said of an attribution. -/
def attributionElement (flow : FlowId) (report : AttributionReport) : Element :=
  .object
    [.field (str "flow") (.string flow.toStr), .field (str "generation") (.uint report.generation.value),
      .field (str "status") (.string report.status.toStr), .field (str "status_detail") (.string report.statusDetail),
      .of (str "total") (totalElement report.total), .of (str "targets") (.array (report.targets.map targetElement)),
      .of (str "notes") (.array (report.notes.map fun note => .scalar (.string note)))]
    (by
      simp only [List.map_cons, List.map_nil, Member.field_name, Member.of_name]
      with_unfolding_all decide)

theorem writeHistory_eq (flow : FlowId) (report : HistoryReport) :
    writeHistory flow report = (historyElement flow report).calls := by
  have hevents : report.events.flatMap writeEvent = (report.events.map eventElement).flatMap Element.calls := by
    rw [List.flatMap_map]
    rfl
  simp only [writeHistory, historyElement, Element.object_calls, hevents, List.flatten_cons, List.flatten_nil,
    List.flatMap_cons, List.flatMap_nil, Member.field_calls, Member.of_calls, Element.array_calls, List.cons_append,
    List.nil_append, List.append_nil, List.append_assoc]

theorem writeAttribution_eq (flow : FlowId) (report : AttributionReport) :
    writeAttribution flow report = (attributionElement flow report).calls := by
  have htargets : report.targets.flatMap writeTarget = (report.targets.map targetElement).flatMap Element.calls := by
    rw [List.flatMap_map]
    rfl
  simp only [writeAttribution, attributionElement, totalElement, Element.object_calls, htargets, List.flatten_cons,
    List.flatten_nil, List.flatMap_cons, List.flatMap_nil, Member.field_calls, Member.of_calls, Element.array_calls,
    Element.flatMap_calls_scalar, List.cons_append, List.nil_append, List.append_nil, List.append_assoc]

/-- A text is a JSON text of one value, in which no object has two members of one name. -/
def IsDocument (text : Str) : Prop := ∃ v, (∀ w, Json.Text text w ↔ w = v) ∧ Json.Distinct v

theorem isDocument_written (element : Element) (pretty : Bool) : IsDocument (Json.written pretty element.calls) :=
  ⟨element.value, fun _ => ⟨fun hw => Json.Text.unique hw (element.text pretty).1,
    fun hw => hw ▸ (element.text pretty).1⟩,
    element.distinct⟩

/-- A query is read as an export in JSON. -/
theorem decodeQuery_format {payload : Str} {request : Request} (h : decodeQuery payload = .ok request) :
    ∃ options, request = .query options ∧ options.format = .Json := by
  unfold decodeQuery at h
  split at h
  · cases h
  · obtain ⟨state, -, h⟩ := bind_ok.1 h
    obtain ⟨flow, -, h⟩ := bind_ok.1 h
    cases h
    exact ⟨_, rfl, rfl⟩

theorem isDocument_exported {e : Engine} {options : ExportOptions} (hformat : options.format = .Json) {text : Str}
    (h : e.exportText options = .ok text) : IsDocument text := by
  obtain ⟨r, -, htext⟩ := Engine.text_exported hformat h
  exact ⟨_, htext, (Json.resultElement r options).distinct⟩

/-- The texts of the requests that are answered in JSON. -/
theorem isDocument_answer {e : Engine} {kind : RequestKind} {payload text : Str} {request : Request}
    (hkind : kind = .Query ∨ kind = .History ∨ kind = .Attribution)
      (hrequest : decodeRequest e.now kind payload = .ok request)
    (h : (e.answerText request).2 = .ok text) : IsDocument text := by
  rcases hkind with rfl | rfl | rfl
  · obtain ⟨options, rfl, hformat⟩ := decodeQuery_format hrequest
    exact isDocument_exported hformat h
  · obtain ⟨p, -, rfl⟩ := map_ok.1 hrequest
    obtain ⟨report, -, rfl⟩ := map_ok.1 h
    rw [historyText, writeHistory_eq]
    exact isDocument_written _ _
  · obtain ⟨p, -, rfl⟩ := map_ok.1 hrequest
    obtain ⟨report, -, rfl⟩ := map_ok.1 h
    rw [attributionText, writeAttribution_eq]
    exact isDocument_written _ _

end Wire

namespace Runtime

open Wire

variable (r : Runtime) (allowWrites : Bool) (request : Frame)

/-- The kinds of frames that reply to a request with fields. -/
theorem replyFields_kind {r : Runtime} {kind : RequestKind} {payload : Str} {frame : Frame}
    (h : (r.replyFields kind payload).2 = frame) (hne : frame.kind ≠ .Error) : frame.kind = kind.replyKind ∧
      ∃ request, decodeRequest r.engine.now kind payload = .ok request ∧
        (r.engine.answerText request).2 = .ok frame.payload := by
  unfold replyFields at h
  split at h
  · exact absurd (h ▸ rfl) hne
  · rename_i request hrequest
    split at h
    · exact absurd (h ▸ rfl) hne
    · rename_i text hanswer
      subst h
      exact ⟨rfl, request, hrequest, by rw [hanswer]⟩

theorem replyIngest_kind (e : Engine) (payload : Str) :
    (e.replyIngest allowWrites payload).2.kind = .Error ∨ (e.replyIngest allowWrites payload).2.kind = .IngestAck := by
  unfold Engine.replyIngest
  split
  · exact .inl rfl
  · split
    · exact .inl rfl
    · exact .inr rfl

/-- What replies to a request. -/
theorem reply_cases : (r.reply allowWrites request).2.kind ∈ [MessageKind.Welcome, .Error, .IngestAck, .StatsResult] ∨
    ∃ kind, r.reply allowWrites request = r.replyFields kind request.payload := by
  unfold reply
  split
  · exact .inl (by simp)
  · split
    · rcases replyIngest_kind allowWrites r.engine request.payload with h | h <;> rw [h] <;> exact .inl (by simp)
    · split
      · exact .inl (by simp)
      · split
        · exact .inl (by simp)
        · exact .inr ⟨_, rfl⟩

/-- **Every reply in JSON is a JSON text of one value**, to whatever request and whatever the engine holds. -/
theorem reply_json (h : (r.reply allowWrites request).2.kind ∈
    [MessageKind.QueryResult, .HistoryResult, .AttributionResult]) :
    IsDocument (r.reply allowWrites request).2.payload := by
  rcases reply_cases r allowWrites request with hother | ⟨kind, heq⟩
  · have hdisjoint : ∀ k : MessageKind, k ∈ [MessageKind.QueryResult, .HistoryResult, .AttributionResult] →
        k ∉ [MessageKind.Welcome, .Error, .IngestAck, .StatsResult] := by
      intro k hk
      simp only [List.mem_cons, List.not_mem_nil, or_false] at hk
      rcases hk with rfl | rfl | rfl <;> decide
    exact absurd hother (hdisjoint _ h)
  · rw [heq] at h ⊢
    have hne : (r.replyFields kind request.payload).2.kind ≠ .Error := by
      intro herror
      rw [herror] at h
      exact absurd h (by decide)
    obtain ⟨hkind, req, hrequest, hanswer⟩ := replyFields_kind rfl hne
    rw [hkind] at h
    refine isDocument_answer ?_ hrequest hanswer
    cases kind with
    | Query => exact .inl rfl
    | History => exact .inr (.inl rfl)
    | Attribution => exact .inr (.inr rfl)
    | Explain | Tick => exact absurd h (by decide)

theorem reply_json_history : IsDocument
    ((⟨Engine.reported, {}⟩ : Runtime).reply true ⟨.History, str "flow=f"⟩).2.payload :=
  reply_json _ _ _ (by with_unfolding_all decide)

end Runtime

end FlowObs
