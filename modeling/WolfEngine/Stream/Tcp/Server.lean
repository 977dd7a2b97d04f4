import WolfEngine.Stream.Common.Utf8
import WolfEngine.Stream.Tcp.Native

/-! # The async TCP server

`stream/tcp/tcp_server.rs`: the native loop, the websocket loop with its text
branch, and `accept_connection` around them.
-/

namespace WolfEngine.Stream

inductive TcpProtocol where
  | native
  | websocket
deriving DecidableEq

namespace TcpServer

open EventLoop

/-! ## Native connections -/

/-- The close message of a native loop whose callback refused. -/
def closeRequest (reason : String) : String :=
  "tcp connection will be closed because of the p_on_msg_callback request. Reason: " ++ reason

theorem closeRequest_ne_empty (reason : String) : closeRequest reason ≠ "" := by
  unfold closeRequest
  intro empty
  exact absurd (String.append_eq_empty_iff.mp empty).1 (by decide)

/-- One round of the loop in `handle_tcp_connection`. -/
def handleTcpConnectionRound (peerAddress : SocketAddr) (ioTimeoutInSecs : F64) :
    Body NativeRound Buffer NativeEvent (Status String) := fun round msg =>
  match selectTimeout ioTimeoutInSecs round.sleep (.error timeoutForRead) round.read with
  | none => ⟨[], .leave .panicked⟩
  | some (.error e) => ⟨[], .leave (.returned (debugErr e.debug))⟩
  | some (.ok chunk) =>
    let msg := msg.receive chunk
    match round.onMsg.run round.elapsedSecs peerAddress msg with
    | (.error e, left) =>
      ⟨[.message msg left (.error e)], .leave (.returned (closeRequest (debugErr e.debug)))⟩
    | (.ok (), left) =>
      if left.size > 0 then
        -- `msg.buf[0..msg.size]` is bounds-checked
        if left.size > maxMsgSize then
          ⟨[.message msg left (.ok ())], .leave .panicked⟩
        else
          match round.write left.payload with
          | .ok count =>
            ⟨[.message msg left (.ok ()), .write left.payload (.ok count), .flush round.flush],
              .again left⟩
          | .error e =>
            ⟨[.message msg left (.ok ()), .write left.payload (.error e)],
              .leave (.returned (debugErr e.debug))⟩
      else
        ⟨[.message msg left (.ok ())], .again left⟩

def handleTcpConnection (peerAddress : SocketAddr) (ioTimeoutInSecs : F64)
    (rounds : List NativeRound) : Outcome Buffer NativeEvent (Status String) :=
  run (handleTcpConnectionRound peerAddress ioTimeoutInSecs) rounds (Buffer.new .binary)

/-! ## Websocket connections -/

/-- `CloseCode`: those the handler gives, and any other a peer may send. -/
inductive CloseCode where
  | normal
  | abnormal
  | unsupported
  | invalid
  | size
  | other (code : UInt16)
deriving DecidableEq

structure CloseFrame where
  code : CloseCode
  reason : String
deriving DecidableEq

/-- `tungstenite::Message`, less the raw frame that reading never yields. -/
inductive Message where
  | text (str : String)
  | binary (data : List UInt8)
  | ping (data : List UInt8)
  | pong (data : List UInt8)
  | close (frame : Option CloseFrame)
deriving DecidableEq

namespace Message

def len : Message → Nat
  | .text str => (asBytes str).length
  | .binary data | .ping data | .pong data => data.length
  | .close none => 0
  | .close (some frame) => (asBytes frame.reason).length

def isEmpty (msg : Message) : Bool := msg.len == 0

def isClose : Message → Bool
  | .close _ => true
  | _ => false

def isText : Message → Bool
  | .text _ => true
  | _ => false

def isBinary : Message → Bool
  | .binary _ => true
  | _ => false

def intoData : Message → List UInt8
  | .text str => asBytes str
  | .binary data | .ping data | .pong data => data
  | .close none => []
  | .close (some frame) => asBytes frame.reason

end Message

/-- A `tungstenite::Error`, with what `?` turns it into. -/
structure WsError where
  debug : String
  anyhow : Error
deriving DecidableEq

/-- `Message::into_text`. -/
def Message.intoText : Message → Except WsError String
  | .text str => .ok str
  | .binary data | .ping data | .pong data =>
    match fromUtf8 data with
    | some str => .ok str
    | none => .error ⟨"Utf8", ⟨"UTF-8 encoding error"⟩⟩
  | .close none => .ok ""
  | .close (some frame) => .ok frame.reason

/-- The answers one round of the websocket loop can ask for. -/
structure WsRound where
  sleep : Sleep
  /-- `ws_stream.next()`; `none` is the end of the stream. -/
  next : Option (Except WsError Message)
  elapsedSecs : ℚ
  onMsg : OnMessageCallback
  /-- `SinkExt::send`. -/
  send : Message → Except WsError Unit

inductive WsEvent where
  | message (given left : Buffer) (verdict : Verdict)
  | send (msg : Message) (answer : Except WsError Unit)

/-- The variables the websocket loop carries from round to round. -/
structure WsState where
  msgBuffer : Buffer
  closeCode : CloseCode
  closeMsg : String

def WsState.new : WsState := ⟨.new .text, .unsupported, ""⟩

/-- `msg_buffer.size = size`. -/
def WsState.sized (state : WsState) (size : Nat) : WsState :=
  { state with msgBuffer := { state.msgBuffer with size := size } }

/-- The buffer a text message is copied into: `type_` and the front of the array. -/
def textGiven (msgBuffer : Buffer) (str : String) (fits : (asBytes str).length ≤ maxMsgSize) :
    Buffer :=
  { msgBuffer with type_ := .text }.fill ⟨asBytes str, fits⟩

/-- `handle_ws_text_msg` from the callback on. -/
def handleWsTextGiven (given : Buffer) (peerAddress : SocketAddr) (round : WsRound)
    (state : WsState) : List WsEvent × WsState × Option Bool :=
  answered (round.onMsg.run round.elapsedSecs peerAddress given)
    (fun e left =>
      ([.message given left (.error e)],
        { msgBuffer := left
          closeMsg := "websocket connection is going to close because of the p_on_msg_callback request. Reason: "
            ++ debugErr e.debug
          closeCode := .normal },
        some false))
    (fun left =>
      match fromUtf8 left.reset.buf with
      | some reply =>
        match round.send (.text reply) with
        | .ok () =>
          ([.message given left (.ok ()), .send (.text reply) (.ok ())],
            { state with msgBuffer := left.reset }, some true)
        | .error e =>
          ([.message given left (.ok ()), .send (.text reply) (.error e)],
            { msgBuffer := left.reset
              closeMsg := "websocket connection is going to close, because the TEXT message could not send. Reason: "
                ++ debugErr e.debug
              closeCode := .abnormal },
            some false)
      | none =>
        ([.message given left (.ok ())],
          { msgBuffer := left.reset
            closeMsg := "websocket connection is going to close. Reason: for MessageType::TEXT, the data which was provided by p_on_msg_callback is not UTF8"
            closeCode := .invalid },
          some false))

/-- `handle_ws_text_msg`: what it showed to the outside, the state it left, and
its result; `none` when its raw copy ran past the array. -/
def handleWsTextMsg (wsMsg : Except WsError String) (peerAddress : SocketAddr) (round : WsRound)
    (state : WsState) : List WsEvent × WsState × Option Bool :=
  match wsMsg with
  | .ok str =>
    if fits : (asBytes str).length ≤ maxMsgSize then
      handleWsTextGiven (textGiven state.msgBuffer str fits) peerAddress round state
    else
      ([], { state with msgBuffer := { state.msgBuffer with type_ := .text } }, none)
  | .error e =>
    ([],
      { msgBuffer := { state.msgBuffer with type_ := .text }
        closeMsg := "websocket connection is going to close. Reason: Unsupported text message. " ++ e.debug
        closeCode := .unsupported },
      some false)

/-- The binary branch of the loop from the callback on. -/
def handleWsBinaryGiven (given : Buffer) (peerAddress : SocketAddr) (round : WsRound)
    (state : WsState) : List WsEvent × WsState × Bool :=
  answered (round.onMsg.run round.elapsedSecs peerAddress given)
    (fun e left =>
      ([.message given left (.error e)],
        { msgBuffer := left
          closeMsg := "websocket connection is going to close because of the p_on_msg_callback request. Reason: "
            ++ debugErr e.debug
          closeCode := .normal },
        false))
    (fun left =>
      match round.send (.binary left.buf) with
      | .ok () =>
        ([.message given left (.ok ()), .send (.binary left.buf) (.ok ())],
          { state with msgBuffer := left }, true)
      | .error e =>
        ([.message given left (.ok ()), .send (.binary left.buf) (.error e)],
          { msgBuffer := left
            closeMsg := "websocket connection is going to close, because the BINARY message could not send. Reason: "
              ++ debugErr e.debug
            closeCode := .abnormal },
          false))

/-- The buffer a binary message is copied into. -/
def binaryGiven (msgBuffer : Buffer) (data : List UInt8) (exact : data.length = maxMsgSize) :
    Buffer :=
  { msgBuffer with type_ := .binary, buf := data, bufLength := exact }

/-- The binary branch of the loop, for a message that passed the size check. -/
def handleWsBinaryMsg (data : List UInt8) (peerAddress : SocketAddr) (round : WsRound)
    (state : WsState) : List WsEvent × WsState × Bool :=
  -- `msg_vec.as_slice().try_into()` for `&[u8; 1024]`
  if exact : data.length = maxMsgSize then
    handleWsBinaryGiven (binaryGiven state.msgBuffer data exact) peerAddress round state
  else
    ([],
      { msgBuffer := { state.msgBuffer with type_ := .binary }
        closeMsg := "websocket connection is going to close. Reason: Unsupported binary message. TryFromSliceError(())"
        closeCode := .unsupported },
      false)

/-- One round of the loop in `handle_ws_connection`.  Leaving it with
`.returned` is the `break`; what follows the loop is `handleWsConnection`. -/
def handleWsConnectionRound (peerAddress : SocketAddr) (ioTimeoutInSecs : F64) :
    Body WsRound WsState WsEvent (Status WsState) := fun round state =>
  match selectTimeout ioTimeoutInSecs round.sleep none round.next with
  | none => ⟨[], .leave .panicked⟩
  | some none => ⟨[], .again state⟩
  | some (some (.error _)) => ⟨[], .again state⟩
  | some (some (.ok msg)) =>
    if msg.isClose then
      ⟨[], .leave (.returned state)⟩
    else if !msg.isEmpty && (msg.isText || msg.isBinary) then
      let state := state.sized msg.len
      if state.msgBuffer.size > maxMsgSize then
        ⟨[], .leave (.returned { state with
          closeMsg := "websocket connection is going to close. Reason: Received message size is greater than "
            ++ toString maxMsgSize
          closeCode := .size })⟩
      else if msg.isText then
        match handleWsTextMsg msg.intoText peerAddress round state with
        | (events, state, some true) => ⟨events, .again state⟩
        | (events, state, some false) => ⟨events, .leave (.returned state)⟩
        | (events, _, none) => ⟨events, .leave .undefined⟩
      else if msg.isBinary then
        match handleWsBinaryMsg msg.intoData peerAddress round state with
        | (events, state, true) => ⟨events, .again state⟩
        | (events, state, false) => ⟨events, .leave (.returned state)⟩
      else
        ⟨[], .leave (.returned { state with
          closeMsg := "websocket connection is going to close. Reason: Unsupported message type"
          closeCode := .unsupported })⟩
    else
      ⟨[], .leave (.returned { state with
        closeMsg := "websocket connection is going to close. Reason: Received an empty or invalid message"
        closeCode := .invalid })⟩

def wsLoop (peerAddress : SocketAddr) (ioTimeoutInSecs : F64) (rounds : List WsRound) :
    Outcome WsState WsEvent (Status WsState) :=
  run (handleWsConnectionRound peerAddress ioTimeoutInSecs) rounds .new

/-- What a websocket connection asks of the outside over its whole life. -/
structure WsEnv where
  /-- `accept_async`. -/
  handshake : Except WsError Unit
  rounds : List WsRound
  /-- The answer to the send of the final close frame. -/
  sendClose : Except WsError Unit

/-- `handle_ws_connection`. -/
def handleWsConnection (peerAddress : SocketAddr) (ioTimeoutInSecs : F64) (env : WsEnv) :
    List WsEvent × Status (Except Error String) :=
  match env.handshake with
  | .error e => ([], .returned (.error e.anyhow))
  | .ok () =>
    let loop := wsLoop peerAddress ioTimeoutInSecs env.rounds
    match statusOf loop.control with
    | .running => (loop.events, .running)
    | .panicked => (loop.events, .panicked)
    | .undefined => (loop.events, .undefined)
    | .returned state =>
      let frame := Message.close (some ⟨state.closeCode, state.closeMsg⟩)
      (loop.events ++ [.send frame env.sendClose],
        match env.sendClose with
        | .error e => .returned (.error e.anyhow)
        | .ok () => .returned (.ok state.closeMsg))

/-! ## Accepting -/

/-- What a connection shows to the outside, from accept to close. -/
inductive ConnectionEvent where
  | accept (peerAddress : SocketAddr) (verdict : Verdict)
  | native (event : NativeEvent)
  | ws (event : WsEvent)
  | close (peerAddress : SocketAddr) (closeMsg : String) (verdict : Verdict)

/-- What one accepted connection asks of the outside. -/
structure ConnectionEnv where
  onAcceptConnection : OnSocketCallback
  onCloseConnection : OnCloseSocketCallback
  nativeRounds : List NativeRound
  ws : WsEnv

/-- The protocol handler that `accept_connection` awaits. -/
def handleConnection (protocol : TcpProtocol) (peerAddress : SocketAddr) (ioTimeoutInSecs : F64)
    (env : ConnectionEnv) : List ConnectionEvent × Status (Except Error String) :=
  match protocol with
  | .native =>
    let loop := handleTcpConnection peerAddress ioTimeoutInSecs env.nativeRounds
    (loop.events.map .native,
      match statusOf loop.control with
      | .running => .running
      | .panicked => .panicked
      | .undefined => .undefined
      | .returned closeMsg => .returned (.ok closeMsg))
  | .websocket =>
    let handled := handleWsConnection peerAddress ioTimeoutInSecs env.ws
    (handled.1.map .ws, handled.2)

/-- `accept_connection`. -/
def acceptConnection (protocol : TcpProtocol) (peerAddress : SocketAddr) (ioTimeoutInSecs : F64)
    (env : ConnectionEnv) : List ConnectionEvent × Status Verdict :=
  match env.onAcceptConnection.run peerAddress with
  | .error e => ([.accept peerAddress (.error e)], .returned (.error e))
  | .ok () =>
    let handled := handleConnection protocol peerAddress ioTimeoutInSecs env
    let events := .accept peerAddress (.ok ()) :: handled.1
    match handled.2 with
    | .running => (events, .running)
    | .panicked => (events, .panicked)
    | .undefined => (events, .undefined)
    | .returned (.error e) => (events, .returned (.error e))
    | .returned (.ok closeMsg) =>
      let verdict := env.onCloseConnection.run peerAddress closeMsg
      (events ++ [.close peerAddress closeMsg verdict], .returned verdict)

end TcpServer

end WolfEngine.Stream
