import WolfEngine.Stream.Tcp.Server

/-! # The fiber TCP server

`stream/tcp/tcp_server_fiber.rs`: the blocking native loop and
`accept_connection`.  The workers and their shutdown are in `ServerMainLoop`.
-/

namespace WolfEngine.Stream.TcpServerFiber

open EventLoop

/-! ## Native connections -/

structure FiberState where
  closeMsg : String
  msg : Buffer

def FiberState.new : FiberState := ⟨"", .new .binary⟩

/-- The closure mapped over a successful read. -/
def onRead (peerAddress : SocketAddr) (round : NativeRound) (chunk : Chunk) (state : FiberState) :
    List NativeEvent × FiberState :=
  let msg := state.msg.receive chunk
  match round.onMsg.run round.elapsedSecs peerAddress msg with
  | (verdict, left) =>
    let closeMsg := match verdict with
      | .error e => debugErr e.debug ++ ". "
      | .ok () => state.closeMsg
    if left.size > 0 then
      match round.write left.buf with
      | .ok sent =>
        ([.message msg left verdict, .write left.buf (.ok sent)]
            ++ (if sent > 0 then [.flush round.flush] else []),
          ⟨closeMsg, left⟩)
      | .error e =>
        ([.message msg left verdict, .write left.buf (.error e)], ⟨closeMsg ++ e.debug, left⟩)
    else
      ([.message msg left verdict], ⟨closeMsg, left⟩)

/-- One round of the loop in `handle_tcp_connection`. -/
def handleTcpConnectionRound (peerAddress : SocketAddr) :
    Body NativeRound FiberState NativeEvent (Status String) := fun round state =>
  let ran := match round.read with
    | .ok chunk => onRead peerAddress round chunk state
    | .error e => ([], { state with closeMsg := TcpServer.closeRequest e.debug })
  if ran.2.closeMsg ≠ "" then
    ⟨ran.1, .leave (.returned (TcpServer.closeRequest ran.2.closeMsg))⟩
  else
    ⟨ran.1, .again ran.2⟩

def handleTcpConnection (peerAddress : SocketAddr) (rounds : List NativeRound) :
    Outcome FiberState NativeEvent (Status String) :=
  run (handleTcpConnectionRound peerAddress) rounds .new

/-- `handle_ws_connection`, a stub in the source. -/
def handleWsConnection : String := "close_msg_from_ws"

/-! ## Accepting -/

/-- What one accepted connection asks of the outside. -/
structure ConnectionEnv where
  onAcceptConnection : OnSocketCallback
  onCloseConnection : OnCloseSocketCallback
  setReadTimeout : ℚ → Except IoError Unit
  setWriteTimeout : ℚ → Except IoError Unit
  nativeRounds : List NativeRound

/-- The two timeouts that `accept_connection` sets before it reads; `none` is
the panic of `from_secs_f64`. -/
def setTimeouts (ioTimeoutInSecs : F64) (env : ConnectionEnv) : Option (Except IoError Unit) :=
  (fromSecsF64 ioTimeoutInSecs).map fun duration =>
    match env.setReadTimeout duration with
    | .error e => .error e
    | .ok () => env.setWriteTimeout duration

def handleConnection (protocol : TcpProtocol) (peerAddress : SocketAddr) (env : ConnectionEnv) :
    List TcpServer.ConnectionEvent × Status String :=
  match protocol with
  | .native =>
    let loop := handleTcpConnection peerAddress env.nativeRounds
    (loop.events.map .native, statusOf loop.control)
  | .websocket => ([], .returned handleWsConnection)

/-- `accept_connection`. -/
def acceptConnection (protocol : TcpProtocol) (peerAddress : SocketAddr) (ioTimeoutInSecs : F64)
    (env : ConnectionEnv) : List TcpServer.ConnectionEvent × Status Verdict :=
  match env.onAcceptConnection.run peerAddress with
  | .error e => ([.accept peerAddress (.error e)], .returned (.error e))
  | .ok () =>
    match setTimeouts ioTimeoutInSecs env with
    | none => ([.accept peerAddress (.ok ())], .panicked)
    | some (.error e) => ([.accept peerAddress (.ok ())], .returned (.error e.anyhow))
    | some (.ok ()) =>
      let handled := handleConnection protocol peerAddress env
      let events := .accept peerAddress (.ok ()) :: handled.1
      match handled.2 with
      | .running => (events, .running)
      | .panicked => (events, .panicked)
      | .undefined => (events, .undefined)
      | .returned closeMsg =>
        let verdict := env.onCloseConnection.run peerAddress closeMsg
        (events ++ [.close peerAddress closeMsg verdict], .returned verdict)

end WolfEngine.Stream.TcpServerFiber
