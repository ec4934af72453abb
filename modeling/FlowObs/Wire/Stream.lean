import FlowObs.Wire.Frame

/-!
# The receive loops

`recv_exact`, `Client::receive` and `handle_connection` of `transport.cpp` over a socket whose bytes arrive in pieces.
What both loops make of a connection depends on its bytes alone, not on the pieces: they take the frames that its
bytes decode to, in order, and what they do at the end is told by the stop (`receives_decodes`,
`handleConnection_decodes`).
-/

namespace FlowObs.Wire

open Framing

/-! ## Sockets -/

/-- The receiving side of a connection: the bytes that arrive, and how it ends behind them, by a close of the peer or
by a failure with a text. -/
structure Socket where
  arrivals : Arrivals UInt8
  failure : Option Str := none

/-- The bytes that are still to be read. -/
def Socket.bytes (s : Socket) : Str := s.arrivals.all

/-- `recv_exact`: the bytes, or how the connection ended before there were so many. -/
def recvExact (remaining : Nat) (s : Socket) : Except (Option Str) (Str × Socket) :=
  if remaining = 0 then .ok ([], s)
  else match _h : s.arrivals.next (min remaining 0x40000000) with
    | none => .error s.failure
    | some (got, arrivals) => (recvExact (remaining - got.length) { s with arrivals }).map fun p => (got ++ p.1, p.2)
termination_by remaining
decreasing_by
  have := (Arrivals.next_eq_some (by omega) _h).1
  omega

/-- **`recv_exact` reads the front of the bytes**, however they arrive. -/
theorem recvExact_ok {n : Nat} {s : Socket} (h : n ≤ s.bytes.length) :
    ∃ s', recvExact n s = .ok (s.bytes.take n, s') ∧ s'.bytes = s.bytes.drop n ∧ s'.failure = s.failure := by
  induction hn : n using Nat.strongRecOn generalizing n s with
  | ind m ih =>
    subst hn
    rw [recvExact]
    by_cases hzero : n = 0
    · subst hzero
      exact ⟨s, by simp, by simp, rfl⟩
    · rw [if_neg hzero]
      split
      · rename_i hnone
        have hempty : s.bytes = [] := Arrivals.next_eq_none.1 hnone
        rw [hempty] at h
        exact absurd (Nat.le_zero.1 h) hzero
      · rename_i got arrivals hsome
        obtain ⟨hpos, hle, hall⟩ := Arrivals.next_eq_some (by omega) hsome
        have hbytes : s.bytes = got ++ (Socket.mk arrivals s.failure).bytes := hall
        have hlen := congrArg List.length hbytes
        rw [List.length_append] at hlen
        obtain ⟨s', hs', hrest, hfailure⟩ :=
          @ih (n - got.length) (by omega) (n - got.length) ⟨arrivals, s.failure⟩ (by omega) rfl
        refine ⟨s', ?_, ?_, hfailure⟩
        · have htake : got.take n = got := List.take_of_length_le (by omega)
          rw [hs', hbytes, List.take_append, htake]
          rfl
        · have hdrop : got.drop n = [] := List.drop_of_length_le (by omega)
          rw [hrest, hbytes, List.drop_append, hdrop, List.nil_append]

/-- Too few bytes are not read. -/
theorem recvExact_error {n : Nat} {s : Socket} (h : s.bytes.length < n) : recvExact n s = .error s.failure := by
  induction hn : n using Nat.strongRecOn generalizing n s with
  | ind m ih =>
    subst hn
    rw [recvExact, if_neg (by omega)]
    split
    · rfl
    · rename_i got arrivals hsome
      obtain ⟨hpos, hle, hall⟩ := Arrivals.next_eq_some (by omega) hsome
      have hbytes : s.bytes = got ++ (Socket.mk arrivals s.failure).bytes := hall
      have hlen := congrArg List.length hbytes
      rw [List.length_append] at hlen
      rw [@ih (n - got.length) (by omega) (n - got.length) ⟨arrivals, s.failure⟩ (by omega) rfl]
      rfl

theorem recvExact_eq_ok {n : Nat} {s s' : Socket} {data : Str} (h : recvExact n s = .ok (data, s')) :
    n ≤ s.bytes.length ∧ s'.bytes = s.bytes.drop n := by
  by_cases hlen : s.bytes.length < n
  · rw [recvExact_error hlen] at h
    cases h
  · obtain ⟨s₁, hs₁, hbytes, -⟩ := recvExact_ok (Nat.not_lt.1 hlen)
    rw [hs₁] at h
    cases h
    exact ⟨Nat.not_lt.1 hlen, hbytes⟩

/-- The payload of a frame: nothing is read when there is none. -/
def recvPayload (length : UInt32) (s : Socket) : Except (Option Str) (Str × Socket) :=
  if length > 0 then recvExact length.toNat s else .ok ([], s)

theorem recvPayload_eq (length : UInt32) (s : Socket) : recvPayload length s = recvExact length.toNat s := by
  unfold recvPayload
  split
  · rfl
  · rename_i hzero
    have hnat : length.toNat = 0 := by
      rw [gt_iff_lt, UInt32.lt_iff_toNat_lt] at hzero
      have h0 : (0 : UInt32).toNat = 0 := rfl
      omega
    rw [hnat, recvExact, if_pos rfl]

/-- **What the reads of one turn give**, of which each loop makes its own outcome. -/
inductive Turn (maxFrameBytes : Nat) (s : Socket) : Except Stop (Frame × Socket) → Prop
  | header : recvExact kFrameHeaderBytes s = .error s.failure → Turn maxFrameBytes s (.error .header)
  | refused {header : Str} {s₁ : Socket} {e : FlowObs.Error} : recvExact kFrameHeaderBytes s = .ok (header, s₁) →
      decodeFrameHeader header maxFrameBytes = .error e → Turn maxFrameBytes s (.error (.refused e))
  | payload {header : Str} {s₁ : Socket} {decoded : FrameHeader} {failure : Option Str} :
      recvExact kFrameHeaderBytes s = .ok (header, s₁) → decodeFrameHeader header maxFrameBytes = .ok decoded →
      recvPayload decoded.length s₁ = .error failure → Turn maxFrameBytes s (.error .payload)
  | checksum {header payload : Str} {s₁ s₂ : Socket} {decoded : FrameHeader} :
      recvExact kFrameHeaderBytes s = .ok (header, s₁) → decodeFrameHeader header maxFrameBytes = .ok decoded →
      recvPayload decoded.length s₁ = .ok (payload, s₂) → frameCrc decoded.kind decoded.length payload ≠ decoded.crc →
      Turn maxFrameBytes s (.error .checksum)
  | frame {header payload : Str} {s₁ s₂ : Socket} {decoded : FrameHeader} :
      recvExact kFrameHeaderBytes s = .ok (header, s₁) → decodeFrameHeader header maxFrameBytes = .ok decoded →
      recvPayload decoded.length s₁ = .ok (payload, s₂) → ¬ frameCrc decoded.kind decoded.length payload ≠ decoded.crc →
      s₂.failure = s.failure → Turn maxFrameBytes s (.ok (⟨decoded.kind, payload⟩, s₂))

theorem Turn.failure {maxFrameBytes : Nat} {s : Socket} {p : Frame × Socket} (h : Turn maxFrameBytes s (.ok p)) :
    p.2.failure = s.failure := by
  cases h with
  | frame _ _ _ _ hfailure => exact hfailure

/-- **A turn reads the first frame of the bytes**, or finds out why there is none. -/
theorem turn_nextFrame (maxFrameBytes : Nat) (s : Socket) :
    ∃ r, Turn maxFrameBytes s r ∧ nextFrame maxFrameBytes s.bytes = r.map fun p => (p.1, p.2.bytes) := by
  unfold nextFrame
  by_cases hlen : s.bytes.length < kFrameHeaderBytes
  · rw [if_pos hlen]
    exact ⟨_, .header (recvExact_error hlen), rfl⟩
  · rw [if_neg hlen]
    obtain ⟨s₁, hheader, hbytes, hfailure⟩ := recvExact_ok (Nat.not_lt.1 hlen)
    cases hdecode : decodeFrameHeader (s.bytes.take kFrameHeaderBytes) maxFrameBytes with
    | error e => exact ⟨_, .refused hheader hdecode, rfl⟩
    | ok decoded =>
      dsimp only
      rw [← hbytes]
      have hread := recvPayload_eq decoded.length s₁
      by_cases hshort : s₁.bytes.length < decoded.length.toNat
      · rw [if_pos hshort]
        rw [recvExact_error hshort] at hread
        exact ⟨_, .payload hheader hdecode hread, rfl⟩
      · rw [if_neg hshort]
        obtain ⟨s₂, hpayload, hbytes₂, hfailure₂⟩ := recvExact_ok (Nat.not_lt.1 hshort)
        rw [hpayload] at hread
        rw [← hbytes₂]
        split
        · rename_i hcrc
          exact ⟨_, .checksum hheader hdecode hread hcrc, rfl⟩
        · rename_i hcrc
          exact ⟨_, .frame hheader hdecode hread hcrc (hfailure₂.trans hfailure), rfl⟩

/-! ## The client -/

/-- `Client`: its socket while it is connected. -/
structure Client where
  socket : Option Socket
  maxFrameBytes : Nat := 1024 * 1024

/-- `Client::close`. -/
def Client.close (c : Client) : Client := { c with socket := none }

/-- `Client::receive`. -/
def Client.receive (c : Client) : Except FlowObs.Error Frame × Client :=
  match c.socket with
  | none => (.error ⟨.ConnectionClosed, str "client is not connected"⟩, c)
  | some socket =>
    match recvExact kFrameHeaderBytes socket with
    | .error failure => (.error ⟨.ConnectionClosed, failure.getD (str "peer closed the connection")⟩, c.close)
    | .ok (header, socket) =>
      match decodeFrameHeader header c.maxFrameBytes with
      | .error e => (.error e, c.close)
      | .ok decoded =>
        match recvPayload decoded.length socket with
        | .error _ => (.error ⟨.ConnectionClosed, str "frame payload was truncated"⟩, c.close)
        | .ok (payload, socket) =>
          if frameCrc decoded.kind decoded.length payload ≠ decoded.crc then
            (.error ⟨.ProtocolError, str "frame checksum mismatch"⟩, c.close)
          else (.ok ⟨decoded.kind, payload⟩, { c with socket := some socket })

/-- The results of so many calls of `receive`. -/
def Client.receives (c : Client) : Nat → List (Except FlowObs.Error Frame)
  | 0 => []
  | n + 1 => c.receive.1 :: c.receive.2.receives n

/-- What the client says at a stop. -/
def Stop.clientError (failure : Option Str) : Stop → FlowObs.Error
  | .header => ⟨.ConnectionClosed, failure.getD (str "peer closed the connection")⟩
  | .refused e => e
  | .payload => ⟨.ConnectionClosed, str "frame payload was truncated"⟩
  | .checksum => ⟨.ProtocolError, str "frame checksum mismatch"⟩

/-- What a client that is not connected says. -/
def notConnected : FlowObs.Error := ⟨.ConnectionClosed, str "client is not connected"⟩

/-- **One `receive`** takes the first frame of the bytes, or closes the client with what the stop says. -/
theorem receive_turn {c : Client} {s : Socket} (hsocket : c.socket = some s) {r : Except Stop (Frame × Socket)}
    (h : Turn c.maxFrameBytes s r) : c.receive = match r with
      | .error stop => (.error (stop.clientError s.failure), c.close)
      | .ok (frame, s') => (.ok frame, { c with socket := some s' }) := by
  unfold Client.receive
  rw [hsocket]
  cases h with
  | header hheader => simp only [hheader, Stop.clientError]
  | refused hheader hdecode => simp only [hheader, hdecode, Stop.clientError]
  | payload hheader hdecode hread => simp only [hheader, hdecode, hread, Stop.clientError]
  | checksum hheader hdecode hread hcrc => simp only [hheader, hdecode, hread, if_pos hcrc, Stop.clientError]
  | frame hheader hdecode hread hcrc _ => simp only [hheader, hdecode, hread, if_neg hcrc]

/-- After an error the client is closed and stays so. -/
theorem receives_closed {c : Client} (h : c.socket = none) (n : Nat) :
    c.receives n = List.replicate n (.error notConnected) := by
  induction n with
  | zero => rfl
  | succ n ih =>
    have hreceive : c.receive = (.error notConnected, c) := by
      unfold Client.receive
      rw [h]
      rfl
    rw [Client.receives, hreceive, List.replicate_succ, ih]

/-- What so many calls give on frames with an error behind them: the frames, the error once, and then that there is no
connection. -/
def deliveries (e : FlowObs.Error) : List Frame → Nat → List (Except FlowObs.Error Frame)
  | _, 0 => []
  | [], n + 1 => .error e :: List.replicate n (.error notConnected)
  | frame :: frames, n + 1 => .ok frame :: deliveries e frames n

/-- **The client receives the frames that the bytes decode to**, then one error for the stop, and then nothing. -/
theorem receives_decodes {c : Client} {s : Socket} {frames : List Frame} {stop : Stop} (hsocket : c.socket = some s)
    (h : Decodes (nextFrame c.maxFrameBytes) s.bytes frames stop) (n : Nat) :
    c.receives n = deliveries (stop.clientError s.failure) frames n := by
  induction n generalizing c s frames with
  | zero => rw [Client.receives, deliveries]
  | succ n ih =>
    obtain ⟨r, hturn, hnext⟩ := turn_nextFrame c.maxFrameBytes s
    rw [Client.receives, receive_turn hsocket hturn]
    cases h with
    | stop hstop =>
      cases r with
      | ok p => cases hstop.symm.trans hnext
      | error stop' =>
        obtain rfl := Except.error.inj (hstop.symm.trans hnext)
        rw [deliveries]
        exact congrArg _ (receives_closed rfl n)
    | frame hframe hrest =>
      cases r with
      | error stop' => cases hframe.symm.trans hnext
      | ok p =>
        obtain ⟨rfl, rfl⟩ := Prod.mk.inj (Except.ok.inj (hframe.symm.trans hnext))
        have htail := @ih ⟨some p.2, c.maxFrameBytes⟩ p.2 _ rfl hrest
        rw [deliveries, ← hturn.failure]
        exact congrArg _ htail

/-! ## The server -/

/-- What `handle_connection` uses of the server: `dispatch` with whether it goes on, the flag `stop`, and an error
reply. -/
structure Handler (σ : Type) where
  dispatch : σ → MessageKind → Str → σ × Bool
  stopped : σ → Bool
  sendError : σ → Str → σ

section Server

variable {σ : Type} (h : Handler σ) (maxFrameBytes : Nat)

/-- `handle_connection`. -/
def handleConnection (state : σ) (socket : Socket) : σ :=
  match _hheader : recvExact kFrameHeaderBytes socket with
  | .error _ => state
  | .ok (header, socket₁) =>
    match decodeFrameHeader header maxFrameBytes with
    | .error e => h.sendError state e.describe
    | .ok decoded =>
      match _hpayload : recvPayload decoded.length socket₁ with
      | .error _ => state
      | .ok (payload, socket₂) =>
        if frameCrc decoded.kind decoded.length payload ≠
          decoded.crc then h.sendError state (str "frame checksum mismatch")
        else
          let (state, goesOn) := h.dispatch state decoded.kind payload
          if goesOn = false then state
          else if h.stopped state then state
          else handleConnection state socket₂
termination_by socket.bytes.length
decreasing_by
  rw [recvPayload_eq] at _hpayload
  have hheader := recvExact_eq_ok _hheader
  have hpayload := recvExact_eq_ok _hpayload
  rw [hpayload.2, hheader.2, List.length_drop, List.length_drop]
  unfold kFrameHeaderBytes at *
  omega

/-- What the server says at a stop. -/
def Stop.reply : Stop → Option Str
  | .header | .payload => none
  | .refused e => some e.describe
  | .checksum => some (str "frame checksum mismatch")

/-- Frames one after the other, until `dispatch` or the flag ends the connection; behind the last one there may be a
reply. -/
def serve (state : σ) (reply : Option Str) : List Frame → σ
  | [] => match reply with
    | none => state
    | some text => h.sendError state text
  | frame :: frames =>
    let (state, goesOn) := h.dispatch state frame.kind frame.payload
    if goesOn = false then state
    else if h.stopped state then state
    else serve state reply frames

variable {h maxFrameBytes}

/-- The loop without the facts that it ends by. -/
theorem handleConnection_eq (state : σ) (s : Socket) : handleConnection h maxFrameBytes state s =
    match recvExact kFrameHeaderBytes s with
    | .error _ => state
    | .ok (header, s₁) =>
      match decodeFrameHeader header maxFrameBytes with
      | .error e => h.sendError state e.describe
      | .ok decoded =>
        match recvPayload decoded.length s₁ with
        | .error _ => state
        | .ok (payload, s₂) =>
          if frameCrc decoded.kind decoded.length payload ≠
            decoded.crc then h.sendError state (str "frame checksum mismatch")
          else
            let (state, goesOn) := h.dispatch state decoded.kind payload
            if goesOn = false then state
            else if h.stopped state then state
            else handleConnection h maxFrameBytes state s₂ := by
  rw [handleConnection]
  split
  · rename_i hheader
    rw [hheader]
  · rename_i header s₁ hheader
    rw [hheader]
    dsimp only
    cases decodeFrameHeader header maxFrameBytes with
    | error e => rfl
    | ok decoded =>
      dsimp only
      split
      · rename_i hpayload
        rw [hpayload]
      · rename_i hpayload
        rw [hpayload]

/-- **One turn of the loop** dispatches the first frame of the bytes, or replies to the stop. -/
theorem handleConnection_turn (state : σ) {s : Socket} {r : Except Stop (Frame × Socket)}
    (hturn : Turn maxFrameBytes s r) :
    handleConnection h maxFrameBytes state s = match r with
      | .error stop => serve h state stop.reply []
      | .ok (frame, s') =>
        let (state, goesOn) := h.dispatch state frame.kind frame.payload
        if goesOn = false then state
        else if h.stopped state then state
        else handleConnection h maxFrameBytes state s' := by
  rw [handleConnection_eq]
  cases hturn with
  | header hheader => simp only [hheader, serve, Stop.reply]
  | refused hheader hdecode => simp only [hheader, hdecode, serve, Stop.reply]
  | payload hheader hdecode hread => simp only [hheader, hdecode, hread, serve, Stop.reply]
  | checksum hheader hdecode hread hcrc => simp only [hheader, hdecode, hread, if_pos hcrc, serve, Stop.reply]
  | frame hheader hdecode hread hcrc _ => simp only [hheader, hdecode, hread, if_neg hcrc]

/-- **The server dispatches the frames that the bytes decode to**, in order, and replies to the stop. -/
theorem handleConnection_decodes {state : σ} {s : Socket} {frames : List Frame} {stop : Stop}
    (hdecodes : Decodes (nextFrame maxFrameBytes) s.bytes frames stop) :
    handleConnection h maxFrameBytes state s = serve h state stop.reply frames := by
  generalize hbytes : s.bytes = bytes at hdecodes
  induction hdecodes generalizing state s with
  | stop hstop =>
    subst hbytes
    obtain ⟨r, hturn, hnext⟩ := turn_nextFrame maxFrameBytes s
    rw [handleConnection_turn state hturn]
    cases r with
    | ok p => cases hstop.symm.trans hnext
    | error stop' =>
      obtain rfl := Except.error.inj (hstop.symm.trans hnext)
      rfl
  | frame hframe _ ih =>
    subst hbytes
    obtain ⟨r, hturn, hnext⟩ := turn_nextFrame maxFrameBytes s
    rw [handleConnection_turn state hturn]
    cases r with
    | error stop' => cases hframe.symm.trans hnext
    | ok p =>
      obtain ⟨rfl, hrest⟩ := Prod.mk.inj (Except.ok.inj (hframe.symm.trans hnext))
      dsimp only
      rw [serve, ih hrest.symm]

end Server

/-! ## Exactness -/

/-- **Both loops take the same frames** from a connection, whatever it carries and in whatever pieces. -/
theorem loops_agree (maxFrameBytes : Nat) (bytes : Str) :
    ∃ (frames : List Frame) (stop : Stop), ∀ s : Socket, s.bytes = bytes →
      (∀ n, (Client.mk (some s) maxFrameBytes).receives n = deliveries (stop.clientError s.failure) frames n) ∧
      ∀ (σ : Type) (h : Handler σ) (state : σ), handleConnection h maxFrameBytes state s =
      serve h state stop.reply frames := by
  have hless : ∀ text frame rest, nextFrame maxFrameBytes text = .ok (frame, rest) → rest.length < text.length :=
    fun _ _ _ => nextFrame_less
  obtain ⟨frames, stop, hdecodes⟩ := decodes_exists hless bytes
  refine ⟨frames, stop, fun s hs => ?_⟩
  subst hs
  have hclient : (Client.mk (some s) maxFrameBytes).socket = some s := rfl
  exact ⟨fun n => receives_decodes hclient hdecodes n, fun σ h state => handleConnection_decodes hdecodes⟩

/-- Frames behind one another in one buffer. -/
def encodeFrames (maxFrameBytes : Nat) : List Frame → Except FlowObs.Error Str
  | [] => .ok []
  | frame :: frames => do
    let bytes ← encodeFrame frame.kind frame.payload maxFrameBytes
    let rest ← encodeFrames maxFrameBytes frames
    .ok (bytes ++ rest)

/-- Encoded frames decode to the frames, and what follows them decodes as it does alone. -/
theorem encodeFrames_decodes {maxFrameBytes : Nat} (hmax : maxFrameBytes < 2 ^ 32) {frames : List Frame}
    (hfits : ∀ frame ∈ frames, frame.payload.length ≤ maxFrameBytes) :
    ∃ wire, encodeFrames maxFrameBytes frames = .ok wire ∧ ∀ rest stop, nextFrame maxFrameBytes rest = .error stop →
      Decodes (nextFrame maxFrameBytes) (wire ++ rest) frames stop := by
  induction frames with
  | nil => exact ⟨[], rfl, fun rest stop hstop => .stop hstop⟩
  | cons frame frames ih =>
    obtain ⟨hframe, hframes⟩ := List.forall_mem_cons.1 hfits
    obtain ⟨bytes, hencode, hback⟩ := nextFrame_encodeFrame hmax hframe
    obtain ⟨wire, hwire, hdecodes⟩ := ih hframes
    refine ⟨bytes ++ wire, ?_, fun rest stop hstop => ?_⟩
    · rw [encodeFrames, hencode, hwire]
      rfl
    · rw [List.append_assoc]
      exact .frame (hback _) (hdecodes rest stop hstop)

/-- **Framing is exact**: on the encodings of frames, in whatever pieces they arrive, the client receives and the
server dispatches exactly these frames in order; a wrong frame behind them ends both with a complaint, and neither it
nor what follows is delivered. -/
theorem receive_exact {maxFrameBytes : Nat} (hmax : maxFrameBytes < 2 ^ 32) {frames : List Frame}
    (hfits : ∀ frame ∈ frames, frame.payload.length ≤ maxFrameBytes) :
    ∃ wire, encodeFrames maxFrameBytes frames = .ok wire ∧ ∀ (s : Socket) (rest : Str), s.bytes = wire ++ rest →
      (rest = [] →
        (∀ n, (Client.mk (some s) maxFrameBytes).receives n =
          deliveries ⟨.ConnectionClosed, s.failure.getD (str "peer closed the connection")⟩ frames n) ∧
        ∀ (σ : Type) (h : Handler σ) (state : σ), handleConnection h maxFrameBytes state s =
          serve h state none frames) ∧
      (WrongFrame maxFrameBytes rest → ∃ (e : FlowObs.Error) (text : Str),
        (∀ n, (Client.mk (some s) maxFrameBytes).receives n = deliveries e frames n) ∧
        ∀ (σ : Type) (h : Handler σ) (state : σ),
          handleConnection h maxFrameBytes state s = serve h state (some text) frames) := by
  obtain ⟨wire, hwire, hdecodes⟩ := encodeFrames_decodes hmax hfits
  refine ⟨wire, hwire, fun s rest hbytes => ?_⟩
  have hclient : (Client.mk (some s) maxFrameBytes).socket = some s := rfl
  refine ⟨?_, fun hwrong => ?_⟩
  · rintro rfl
    have hall : Decodes (nextFrame maxFrameBytes) s.bytes frames .header := by
      rw [hbytes]
      exact hdecodes [] .header rfl
    exact ⟨fun n => receives_decodes hclient hall n, fun σ h state => handleConnection_decodes hall⟩
  · obtain ⟨stop, e, hstop, hcomplaint⟩ := wrongFrame_iff.1 hwrong
    have hall : Decodes (nextFrame maxFrameBytes) s.bytes frames stop := by
      rw [hbytes]
      exact hdecodes rest stop hstop
    obtain ⟨text, htext⟩ : ∃ text, stop.reply = some text := by
      cases stop <;> simp_all [Stop.complaint, Stop.reply]
    refine ⟨stop.clientError s.failure, text, fun n => receives_decodes hclient hall n, fun σ h state => ?_⟩
    rw [handleConnection_decodes hall, htext]

/-- A socket to which bytes come one at a time. -/
def trickle (bytes : Str) : Socket := ⟨⟨bytes.map fun b => [b], by simp⟩, none⟩

theorem trickle_bytes (bytes : Str) : (trickle bytes).bytes = bytes := by
  show (bytes.map fun b => [b]).flatten = bytes
  rw [← List.flatMap_def]
  simp

/-- Two frames come in one after the other, with an end of the stream behind them. -/
theorem receive_exact_tick : ∃ wire,
    encodeFrames (1024 * 1024) [⟨.Tick, str "now=5"⟩, ⟨.Query, str "limit=2"⟩] = .ok wire ∧
    (Client.mk (some (trickle wire)) (1024 * 1024)).receives 3 =
      [.ok ⟨.Tick, str "now=5"⟩, .ok ⟨.Query, str "limit=2"⟩,
        .error ⟨.ConnectionClosed, str "peer closed the connection"⟩] := by
  have hfits : ∀ frame ∈ [(⟨.Tick, str "now=5"⟩ : Frame), ⟨.Query, str "limit=2"⟩],
      frame.payload.length ≤ 1024 * 1024 := by
    with_unfolding_all decide
  obtain ⟨wire, hwire, hexact⟩ := receive_exact (by decide) hfits
  refine ⟨wire, hwire, ?_⟩
  have hbytes : (trickle wire).bytes = wire ++ [] := by rw [trickle_bytes, List.append_nil]
  exact ((hexact (trickle wire) [] hbytes).1 rfl).1 3

end FlowObs.Wire
