import FlowObs.Engine.Replayed
import FlowObs.Engine.Tally
import FlowObs.Server.Replies
import FlowObs.Wire.Stream

/-!
# Sessions

`dispatch` of `transport.cpp` on the loop of a connection. What a client sends, in whatever pieces, is answered
request by request, each from the state that the ones before it leave, and the client receives exactly these replies
in their order (`session_exact`). Whatever arrives, the engine goes through operations of its own, which are ticks
alone when the endpoint is read-only (`served_runs`): such an endpoint still answers every request but `Ingest`.
-/

namespace FlowObs.Wire

open Framing

/-! ## The code -/

/-- What a connection uses of the server: the engine with its counters, the options, the flag `stop` and the listener,
and what was sent back. -/
structure Endpoint extends Runtime where
  allowWrites : Bool := true
  maxFrameBytes : Nat := 1024 * 1024
  stop : Bool := false
  listening : Bool := true
  sent : Str := []

namespace Endpoint

/-- `send_reply`, where the socket takes what it is given. -/
def sendReply (s : Endpoint) (frame : Frame) : Endpoint × Bool :=
  match encodeFrame frame.kind frame.payload s.maxFrameBytes with
  | .error _ => (s, false)
  | .ok bytes => ({ s with sent := s.sent ++ bytes }, true)

/-- `dispatch`, with whether the connection goes on. -/
def dispatch (s : Endpoint) (kind : MessageKind) (payload : Str) : Endpoint × Bool :=
  if kind = .Bye then
    (if (str "shutdown").isPrefixOf payload then { s with stop := true, listening := false } else s, false)
  else
    let answer := s.toRuntime.reply s.allowWrites ⟨kind, payload⟩
    { s with toRuntime := answer.1 }.sendReply answer.2

/-- What the loop of a connection uses. -/
def handler : Handler Endpoint where
  dispatch := dispatch
  stopped := Endpoint.stop
  sendError s text := (s.sendReply ⟨.Error, text⟩).1

end Endpoint

/-! ## Sessions -/

/-- The last frame of a connection that ends with a complaint, when it can be sent. -/
def complaintFrames (maxFrameBytes : Nat) : Option Str → List Frame
  | none => []
  | some text => if text.length > maxFrameBytes then [] else [⟨.Error, text⟩]

/-- **A session**: every request is answered from the state that the ones before it leave, until one says `Bye` or its
reply is too large; behind the last one there may be a complaint. -/
def session (allowWrites : Bool) (maxFrameBytes : Nat) (last : Option Str) : Runtime → List Frame → Runtime × List Frame
  | r, [] => (r, complaintFrames maxFrameBytes last)
  | r, request :: requests =>
    if request.kind = .Bye then (r, [])
    else
      let answer := r.reply allowWrites request
      if answer.2.payload.length > maxFrameBytes then (answer.1, [])
      else
        let rest := session allowWrites maxFrameBytes last answer.1 requests
        (rest.1, answer.2 :: rest.2)

section Served

theorem sendReply_large (s : Endpoint) (frame : Frame) (h : frame.payload.length > s.maxFrameBytes) :
    s.sendReply frame = (s, false) := by
  rw [Endpoint.sendReply, encodeFrame, if_pos h]

theorem sendReply_fits (s : Endpoint) (frame : Frame) (h : ¬ frame.payload.length > s.maxFrameBytes) :
    ∃ bytes, encodeFrame frame.kind frame.payload s.maxFrameBytes = .ok bytes ∧
      s.sendReply frame = ({ s with sent := s.sent ++ bytes }, true) := by
  rw [Endpoint.sendReply, encodeFrame, if_neg h]
  exact ⟨_, rfl, rfl⟩

theorem encodeFrames_cons {maxFrameBytes : Nat} {frame : Frame} {frames : List Frame} {bytes wire : Str}
    (h : encodeFrame frame.kind frame.payload maxFrameBytes = .ok bytes)
      (hwire : encodeFrames maxFrameBytes frames = .ok wire) :
    encodeFrames maxFrameBytes (frame :: frames) = .ok (bytes ++ wire) := by
  rw [encodeFrames, h, hwire]
  rfl

variable (last : Option Str)

/-- **The loop over the requests is the session**, and it sends the frames of the replies one after the other. -/
theorem serve_session (requests : List Frame) : ∀ s : Endpoint, s.stop = false → ∃ wire,
    encodeFrames s.maxFrameBytes (session s.allowWrites s.maxFrameBytes last s.toRuntime requests).2 = .ok wire ∧
    (serve Endpoint.handler s last requests).toRuntime =
      (session s.allowWrites s.maxFrameBytes last s.toRuntime requests).1 ∧
    (serve Endpoint.handler s last requests).sent = s.sent ++ wire := by
  induction requests with
  | nil =>
    intro s hstop
    cases last with
    | none => exact ⟨[], rfl, rfl, (List.append_nil _).symm⟩
    | some text =>
      show ∃ wire, encodeFrames s.maxFrameBytes (complaintFrames s.maxFrameBytes (some text)) = .ok wire ∧
        (s.sendReply ⟨.Error, text⟩).1.toRuntime = s.toRuntime ∧ (s.sendReply ⟨.Error, text⟩).1.sent = s.sent ++ wire
      rw [complaintFrames]
      by_cases hlarge : text.length > s.maxFrameBytes
      · rw [if_pos hlarge, sendReply_large s ⟨.Error, text⟩ hlarge]
        exact ⟨[], rfl, rfl, (List.append_nil _).symm⟩
      · obtain ⟨bytes, hencode, hsend⟩ := sendReply_fits s ⟨.Error, text⟩ hlarge
        rw [if_neg hlarge, hsend]
        exact ⟨bytes ++ [], encodeFrames_cons hencode rfl, rfl, by rw [List.append_nil]⟩
  | cons request requests ih =>
    intro s hstop
    rw [serve, session]
    by_cases hbye : request.kind = .Bye
    · rw [if_pos hbye]
      have hdispatch : Endpoint.handler.dispatch s request.kind request.payload =
          (if (str "shutdown").isPrefixOf request.payload then { s with stop := true, listening := false } else s,
            false) :=
        if_pos hbye
      rw [hdispatch]
      by_cases hshutdown : (str "shutdown").isPrefixOf request.payload = true
      · rw [if_pos hshutdown]
        exact ⟨[], rfl, rfl, (List.append_nil _).symm⟩
      · rw [if_neg hshutdown]
        exact ⟨[], rfl, rfl, (List.append_nil _).symm⟩
    · rw [if_neg hbye]
      have hdispatch : Endpoint.handler.dispatch s request.kind request.payload =
          { s with toRuntime := (s.toRuntime.reply s.allowWrites request).1 }.sendReply
            (s.toRuntime.reply s.allowWrites request).2 := if_neg hbye
      generalize hanswer : s.toRuntime.reply s.allowWrites request = answer at hdispatch
      rw [hdispatch]
      by_cases hlarge : answer.2.payload.length > s.maxFrameBytes
      · rw [sendReply_large { s with toRuntime := answer.1 } answer.2 hlarge, if_pos hlarge]
        exact ⟨[], rfl, rfl, (List.append_nil _).symm⟩
      · obtain ⟨bytes, hencode, hsend⟩ := sendReply_fits { s with toRuntime := answer.1 } answer.2 hlarge
        obtain ⟨wire, hwire, hengine, hsent⟩ := ih { s with toRuntime := answer.1, sent := s.sent ++ bytes } hstop
        rw [hsend, if_neg hlarge]
        have hgoes : Endpoint.handler.stopped { s with toRuntime := answer.1, sent := s.sent ++ bytes } = false := hstop
        refine ⟨bytes ++ wire, encodeFrames_cons hencode hwire, ?_, ?_⟩
        · dsimp only
          rw [if_neg (by decide), if_neg (by simp [hgoes]), hengine]
        · dsimp only
          rw [if_neg (by decide), if_neg (by simp [hgoes]), hsent, List.append_assoc]

/-- No reply of a session is too large. -/
theorem session_fits (allowWrites : Bool) (maxFrameBytes : Nat) (requests : List Frame) : ∀ r : Runtime,
    ∀ frame ∈ (session allowWrites maxFrameBytes last r requests).2, frame.payload.length ≤ maxFrameBytes := by
  induction requests with
  | nil =>
    intro r frame hframe
    rw [session] at hframe
    unfold complaintFrames at hframe
    split at hframe
    · cases hframe
    · split at hframe
      · cases hframe
      · rename_i hfits
        rw [List.mem_singleton.1 hframe]
        exact Nat.not_lt.1 hfits
  | cons request requests ih =>
    intro r frame hframe
    rw [session] at hframe
    split at hframe
    · cases hframe
    · dsimp only at hframe
      split at hframe
      · cases hframe
      · rename_i hfits
        rcases List.mem_cons.1 hframe with rfl | hrest
        · exact Nat.not_lt.1 hfits
        · exact ih _ frame hrest

/-- **A connection is a session**, whatever arrives and in whatever pieces: the engine is where the session leaves it,
and a client that gets what was sent, in whatever pieces, receives the replies of the session in order and then that
the connection is closed. -/
theorem session_exact {s : Endpoint} (hmax : s.maxFrameBytes < 2 ^ 32) (hstop : s.stop = false) (hsent : s.sent = [])
    (bytes : Str) :
    (∃ requests stop, Decodes (nextFrame s.maxFrameBytes) bytes requests stop) ∧
    ∀ requests stop, Decodes (nextFrame s.maxFrameBytes) bytes requests stop → ∀ socket : Socket, socket.bytes = bytes →
      (handleConnection Endpoint.handler s.maxFrameBytes s socket).toRuntime =
        (session s.allowWrites s.maxFrameBytes stop.reply s.toRuntime requests).1 ∧
      ∀ client : Socket, client.bytes = (handleConnection Endpoint.handler s.maxFrameBytes s socket).sent → ∀ n,
        (Client.mk (some client) s.maxFrameBytes).receives n =
          deliveries ⟨.ConnectionClosed, client.failure.getD (str "peer closed the connection")⟩
            (session s.allowWrites s.maxFrameBytes stop.reply s.toRuntime requests).2 n := by
  refine ⟨decodes_exists (fun _ _ _ => nextFrame_less) bytes, fun requests stop hdecodes socket hbytes => ?_⟩
  subst hbytes
  obtain ⟨wire, hwire, hengine, hserved⟩ := serve_session stop.reply requests s hstop
  obtain ⟨wire', hwire', hback⟩ := encodeFrames_decodes hmax
    (session_fits stop.reply s.allowWrites s.maxFrameBytes requests s.toRuntime)
  obtain rfl := Except.ok.inj (hwire.symm.trans hwire')
  rw [handleConnection_decodes hdecodes]
  refine ⟨hengine, fun client hclient n => ?_⟩
  rw [hserved, hsent, List.nil_append] at hclient
  have hreplies := hback [] .header rfl
  rw [List.append_nil, ← hclient] at hreplies
  exact receives_decodes (c := ⟨some client, s.maxFrameBytes⟩) rfl hreplies n

/-- The statistics, an explanation and the statistics again. -/
def statsRequests : List Frame :=
  [⟨.StatsRequest, []⟩, ⟨.Explain, str "flow=f"⟩, ⟨.StatsRequest, []⟩]

/-- The second statistics tell that an explanation was served. -/
theorem statsRequests_answered :
    let replies := (session true (1024 * 1024) none ⟨Engine.reported, {}⟩ statsRequests).2
    replies.map (·.kind) = [.StatsResult, .ExplainResult, .StatsResult] ∧
      replies.map (fun frame => (decide (str "explanations_served=0" ∈ frame.payload.splitOn 10),
        decide (str "explanations_served=1" ∈ frame.payload.splitOn 10))) =
          [(true, false), (false, false), (false, true)] := by
  decide +kernel

/-- A client that asks for the statistics, an explanation and the statistics again, byte by byte, receives the three
replies. -/
theorem session_exact_stats : ∃ wire, encodeFrames (1024 * 1024) statsRequests = .ok wire ∧
    ∀ client : Socket, client.bytes =
        (handleConnection Endpoint.handler (1024 * 1024) { engine := Engine.reported } (trickle wire)).sent →
      ∃ first explanation last, (Client.mk (some client) (1024 * 1024)).receives 3 =
        [.ok first, .ok explanation, .ok last] ∧
        first.kind = .StatsResult ∧ explanation.kind = .ExplainResult ∧ last.kind = .StatsResult ∧
        str "explanations_served=0" ∈ first.payload.splitOn 10 ∧
        str "explanations_served=1" ∈ last.payload.splitOn 10 := by
  have hfits : ∀ frame ∈ statsRequests, frame.payload.length ≤ 1024 * 1024 := by with_unfolding_all decide
  obtain ⟨wire, hwire, hdecodes⟩ := encodeFrames_decodes (by decide) hfits
  refine ⟨wire, hwire, fun client hclient => ?_⟩
  have hrequests := hdecodes [] .header rfl
  rw [List.append_nil] at hrequests
  have hreceives := ((session_exact (s := { engine := Engine.reported }) (by decide) rfl rfl wire).2 _ _ hrequests
    (trickle wire) (trickle_bytes wire)).2 client hclient 3
  obtain ⟨hkinds, htexts⟩ := statsRequests_answered
  change (session true (1024 * 1024) none ⟨Engine.reported, {}⟩ statsRequests).2.map _ = _ at hkinds htexts
  change _ = deliveries _ (session true (1024 * 1024) none ⟨Engine.reported, {}⟩ statsRequests).2 3 at hreceives
  generalize (session true (1024 * 1024) none ⟨Engine.reported, {}⟩ statsRequests).2 =
    replies at hkinds htexts hreceives
  obtain ⟨first, explanation, last, rfl⟩ : ∃ first explanation last, replies = [first, explanation, last] :=
    List.length_eq_three.1 (by simpa using congrArg List.length hkinds)
  simp only [List.map_cons, List.map_nil, List.cons.injEq, Prod.mk.injEq, decide_eq_true_eq, and_true] at hkinds htexts
  exact ⟨first, explanation, last, hreceives, hkinds.1, hkinds.2.1, hkinds.2.2, htexts.1.1, htexts.2.2.2⟩

/-! ## What a client can do -/

/-- What a tick keeps: all but the states of the flows and what follows from them. -/
structure Kept (e e' : Engine) : Prop where
  ledgers : e.SameLedgers e'
  sources : e'.sources = e.sources
  ingested : e'.ingested = e.ingested
  queue : e'.queue = e.queue
  journal : e'.journal = e.journal

theorem Kept.refl (e : Engine) : Kept e e := ⟨.refl e, rfl, rfl, rfl, rfl⟩

theorem Kept.trans {e e' e'' : Engine} (h : Kept e e') (h' : Kept e' e'') : Kept e e'' :=
  ⟨h.ledgers.trans h'.ledgers, h'.sources.trans h.sources, h'.ingested.trans h.ingested, h'.queue.trans h.queue,
    h'.journal.trans h.journal⟩

theorem kept_tick (e : Engine) (instant : Timestamp) : Kept e (e.tick instant).1 := by
  rcases Engine.tick_cases e instant with ⟨err, herr⟩ | hok
  · rw [herr]
    exact .refl e
  · rw [hok]
    exact ⟨Engine.sameLedgers_tickLocked e instant, rfl, Engine.ingested_tickLocked e instant, rfl, rfl⟩

theorem kept_ticks (instants : List Timestamp) : ∀ e :
    Engine, Kept e ((instants.map Engine.Op.tick).foldl Engine.step e) := by
  induction instants with
  | nil => exact .refl
  | cons instant instants ih => exact fun e => (kept_tick e instant).trans (ih _)

/-- A request with fields ticks the engine or leaves it. -/
theorem replyFields_ticks (r : Runtime) (kind : RequestKind) (payload : Str) : ∃ instants : List Timestamp,
    (r.replyFields kind payload).1.engine = (instants.map Engine.Op.tick).foldl Engine.step r.engine := by
  rw [(r.replyFields_dispatch kind payload).1, Engine.dispatch]
  cases hrequest : decodeRequest r.engine.now kind payload with
  | error text => exact ⟨[], rfl⟩
  | ok request =>
    cases request with
    | tick instant => exact ⟨[instant], rfl⟩
    | query | explain | history | attribution => exact ⟨[], rfl⟩

theorem replyIngest_runs (e : Engine) (allowWrites : Bool) (payload : Str) : ∃ ops : List Engine.Op,
    (e.replyIngest allowWrites payload).1 = ops.foldl Engine.step e := by
  unfold Engine.replyIngest
  split
  · exact ⟨[], rfl⟩
  · cases hparse : Fo1.parseScript payload e.config.limits.maxIngestRecords.toNat with
    | error err => exact ⟨[], by rw [Engine.applyScriptText, hparse]; rfl⟩
    | ok script =>
      refine ⟨Engine.scriptOps false e script.records, ?_⟩
      rw [Engine.applyScriptText, hparse]
      exact Engine.applyRecords_runs false script.records (e, {})

/-- **A reply is a run of operations**, and of ticks alone when the endpoint is read-only. -/
theorem reply_runs (r : Runtime) (allowWrites : Bool) (request : Frame) : ∃ ops : List Engine.Op,
    (r.reply allowWrites request).1.engine = ops.foldl Engine.step r.engine ∧
    (allowWrites = false → ∃ instants : List Timestamp, ops = instants.map Engine.Op.tick) := by
  unfold Runtime.reply
  split
  · exact ⟨[], rfl, fun _ => ⟨[], rfl⟩⟩
  · split
    · cases allowWrites with
      | false => exact ⟨[], rfl, fun _ => ⟨[], rfl⟩⟩
      | true =>
        obtain ⟨ops, hops⟩ := replyIngest_runs r.engine true request.payload
        exact ⟨ops, hops, fun h => by cases h⟩
    · split
      · exact ⟨[], rfl, fun _ => ⟨[], rfl⟩⟩
      · split
        · exact ⟨[], rfl, fun _ => ⟨[], rfl⟩⟩
        · obtain ⟨instants, hinstants⟩ := replyFields_ticks r _ request.payload
          exact ⟨_, hinstants, fun _ => ⟨instants, rfl⟩⟩

/-- What is sent leaves the engine and the options. -/
theorem sendReply_engine (s : Endpoint) (frame : Frame) :
    (s.sendReply frame).1.engine = s.engine ∧ (s.sendReply frame).1.allowWrites = s.allowWrites := by
  unfold Endpoint.sendReply
  split <;> exact ⟨rfl, rfl⟩

/-- One request is a run, in whatever state it is handled. -/
theorem dispatch_runs (s : Endpoint) (kind : MessageKind) (payload : Str) : ∃ ops : List Engine.Op,
    (s.dispatch kind payload).1.engine = ops.foldl Engine.step s.engine ∧
    (s.dispatch kind payload).1.allowWrites = s.allowWrites ∧
    (s.allowWrites = false → ∃ instants : List Timestamp, ops = instants.map Engine.Op.tick) := by
  unfold Endpoint.dispatch
  split
  · split <;> exact ⟨[], rfl, rfl, fun _ => ⟨[], rfl⟩⟩
  · obtain ⟨ops, hops, hticks⟩ := reply_runs s.toRuntime s.allowWrites ⟨kind, payload⟩
    obtain ⟨hengine, hallow⟩ := sendReply_engine
        { s with toRuntime := (s.toRuntime.reply s.allowWrites ⟨kind, payload⟩).1 }
      (s.toRuntime.reply s.allowWrites ⟨kind, payload⟩).2
    exact ⟨ops, hengine.trans hops, hallow, hticks⟩

/-- The loop over the requests is a run. -/
theorem serve_runs (requests : List Frame) : ∀ s : Endpoint, ∃ ops : List Engine.Op,
    (serve Endpoint.handler s last requests).engine = ops.foldl Engine.step s.engine ∧
    (s.allowWrites = false → ∃ instants : List Timestamp, ops = instants.map Engine.Op.tick) := by
  induction requests with
  | nil =>
    intro s
    cases last with
    | none => exact ⟨[], rfl, fun _ => ⟨[], rfl⟩⟩
    | some text => exact ⟨[], (sendReply_engine s ⟨.Error, text⟩).1, fun _ => ⟨[], rfl⟩⟩
  | cons request requests ih =>
    intro s
    obtain ⟨ops, hops, hallow, hticks⟩ := dispatch_runs s request.kind request.payload
    rw [serve]
    dsimp only
    split
    · exact ⟨ops, hops, hticks⟩
    · split
      · exact ⟨ops, hops, hticks⟩
      · obtain ⟨ops', hops', hticks'⟩ := ih (s.dispatch request.kind request.payload).1
        refine ⟨ops ++ ops', ?_, fun hread => ?_⟩
        · rw [List.foldl_append, ← hops]
          exact hops'
        · obtain ⟨instants, rfl⟩ := hticks hread
          obtain ⟨instants', rfl⟩ := hticks' (hallow.trans hread)
          exact ⟨instants ++ instants', (List.map_append ..).symm⟩

/-- **No bytes do more than the interface does.** Whatever arrives on a connection, the engine goes through operations
of its own, so that a reachable engine stays one. On a read-only endpoint they are ticks: no observation is counted,
no ledger, source or identity changes and nothing is journalled. -/
theorem served_runs (s : Endpoint) (socket : Socket) :
    (s.engine.Reachable →
      (handleConnection Endpoint.handler s.maxFrameBytes s socket).engine.Reachable) ∧
    (s.allowWrites = false → Kept s.engine (handleConnection Endpoint.handler s.maxFrameBytes s socket).engine ∧
      ∃ instants : List Timestamp, (handleConnection Endpoint.handler s.maxFrameBytes s socket).engine =
        (instants.map Engine.Op.tick).foldl Engine.step s.engine) := by
  have hless : ∀ text frame rest, nextFrame s.maxFrameBytes text = .ok (frame, rest) → rest.length < text.length :=
    fun _ _ _ => nextFrame_less
  obtain ⟨requests, stop, hdecodes⟩ := decodes_exists hless socket.bytes
  obtain ⟨ops, hops, hticks⟩ := serve_runs stop.reply requests s
  rw [handleConnection_decodes hdecodes, hops]
  refine ⟨fun hreach => Engine.reachable_run hreach ops, fun hread => ?_⟩
  obtain ⟨instants, rfl⟩ := hticks hread
  exact ⟨kept_ticks instants s.engine, instants, rfl⟩

/-- A read-only endpoint refuses evidence, and still ticks. -/
theorem served_runs_readOnly : ∃ wire,
    encodeFrames (1024 * 1024) [⟨.Ingest, str "FREEZE"⟩, ⟨.Tick, str "now=61000000000"⟩] = .ok wire ∧
    let served := handleConnection Endpoint.handler (1024 * 1024) { engine := Engine.reported, allowWrites := false }
      (trickle wire)
    Kept Engine.reported served.engine ∧ served.engine.frozen = false ∧
      Engine.reported.counters.ticks + 1 = served.engine.counters.ticks := by
  have hfits : ∀ frame ∈ ([⟨.Ingest, str "FREEZE"⟩, ⟨.Tick, str "now=61000000000"⟩] : List Frame),
      frame.payload.length ≤ 1024 * 1024 := by with_unfolding_all decide
  obtain ⟨wire, hwire, hdecodes⟩ := encodeFrames_decodes (by decide) hfits
  have hrequests := hdecodes [] .header rfl
  rw [List.append_nil, ← trickle_bytes wire] at hrequests
  refine ⟨wire, hwire, ((served_runs { engine := Engine.reported, allowWrites := false } (trickle wire)).2 rfl).1, ?_⟩
  rw [handleConnection_decodes hrequests]
  decide +kernel

end Served

end FlowObs.Wire
