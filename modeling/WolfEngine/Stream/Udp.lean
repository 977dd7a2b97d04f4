import WolfEngine.Library.EventLoop
import WolfEngine.Stream.Common.Timeouts

/-! # UDP sockets

`stream/udp.rs`: one socket, one buffer.  The server reads a datagram from whoever
sent it, asks the callback and sends; the client asks, sends and reads.
-/

namespace WolfEngine.Stream.Udp

open EventLoop

inductive UdpConnectionType where
  /-- Read then write. -/
  | udpServer
  /-- Write then read. -/
  | udpClient
deriving DecidableEq, Repr

/-- What the environment answers in one round of either loop; a round that leaves
early ignores the rest. -/
structure UdpRound where
  elapsedSecs : ℚ
  /-- The `sleep` that the read races against. -/
  recvSleep : Sleep
  /-- `recv_from(buf)`: the bytes it put at the front of the array, and their sender. -/
  recvFrom : Except IoError (Chunk × SocketAddr)
  onMessage : OnMessageCallback
  /-- The `sleep` that the send races against. -/
  sendSleep : Sleep
  /-- `send_to(bytes, peer)`: the datagram goes out whole or not at all. -/
  sendTo : List UInt8 → SocketAddr → Except IoError Nat

inductive UdpEvent where
  | receive (answer : Except IoError (Chunk × SocketAddr))
  /-- The callback ran for `peer` on `given`, left `left` and answered `verdict`. -/
  | message (peer : SocketAddr) (given left : Buffer) (verdict : Verdict)
  | send (peer : SocketAddr) (offered : List UInt8) (answer : Except IoError Nat)

/-- `timeout_for_read`. -/
def timeoutForRead : IoError := timedOutError "timeout reached for udp read data from socket"

/-- `timeout_for_send`. -/
def timeoutForSend : IoError := timedOutError "timeout reached for udp send data to socket"

def read (readWriteTimeoutInSecs : F64) (round : UdpRound) :
    Option (Except IoError (Chunk × SocketAddr)) :=
  selectTimeout readWriteTimeoutInSecs round.recvSleep (.error timeoutForRead) round.recvFrom

def send (readWriteTimeoutInSecs : F64) (round : UdpRound) (peerAddr : SocketAddr)
    (buffer : List UInt8) : Option (Except IoError Nat) :=
  selectTimeout readWriteTimeoutInSecs round.sendSleep (.error timeoutForSend)
    (round.sendTo buffer peerAddr)

/-- The close message of the server loop whose callback refused. -/
def serverCloseRequest (reason : String) : String :=
  "udp connection will be closed because of the p_on_msg_callback request. Reason: " ++ reason

/-- The close message of the client loop whose callback refused. -/
def clientCloseRequest (reason : String) : String :=
  "udp client will be closed because of the p_on_msg_callback request. Reason: " ++ reason

/-- One round of the `UDPServer` loop; it leaves with `close_msg`. -/
def serverRound (readWriteTimeoutInSecs : F64) :
    Body UdpRound Buffer UdpEvent (Status String) := fun round msg =>
  match read readWriteTimeoutInSecs round with
  | none => ⟨[], .leave .panicked⟩
  | some (.error e) => ⟨[.receive (.error e)], .leave (.returned (debugErr e.debug))⟩
  | some (.ok (data, peerAddr)) =>
    let given := msg.receive data
    match round.onMessage.run round.elapsedSecs peerAddr given with
    | (.error e, left) =>
      ⟨[.receive (.ok (data, peerAddr)), .message peerAddr given left (.error e)],
        .leave (.returned (serverCloseRequest (debugErr e.debug)))⟩
    | (.ok (), left) =>
      let events : List UdpEvent :=
        [.receive (.ok (data, peerAddr)), .message peerAddr given left (.ok ())]
      -- `msg_size`, what was read: the callback may have set `msg.size` to anything
      if data.bytes.length > 0 then
        match send readWriteTimeoutInSecs round peerAddr left.buf with
        | none => ⟨events, .leave .panicked⟩
        | some (.error e) =>
          ⟨events ++ [.send peerAddr left.buf (.error e)], .leave (.returned (debugErr e.debug))⟩
        | some (.ok sent) => ⟨events ++ [.send peerAddr left.buf (.ok sent)], .again left⟩
      else
        ⟨events, .again left⟩

/-- One round of the `UDPClient` loop; it leaves with `close_msg`. -/
def clientRound (readWriteTimeoutInSecs : F64) (peerAddr : SocketAddr) :
    Body UdpRound Buffer UdpEvent (Status String) := fun round msg =>
  match round.onMessage.run round.elapsedSecs peerAddr msg with
  | (.error e, left) =>
    ⟨[.message peerAddr msg left (.error e)],
      .leave (.returned (clientCloseRequest (debugErr e.debug)))⟩
  | (.ok (), left) =>
    if left.size > 0 then
      match send readWriteTimeoutInSecs round peerAddr left.buf with
      | none => ⟨[.message peerAddr msg left (.ok ())], .leave .panicked⟩
      | some (.error e) =>
        ⟨[.message peerAddr msg left (.ok ()), .send peerAddr left.buf (.error e)],
          .leave (.returned (debugErr e.debug))⟩
      | some (.ok sent) =>
        let events : List UdpEvent :=
          [.message peerAddr msg left (.ok ()), .send peerAddr left.buf (.ok sent)]
        match read readWriteTimeoutInSecs round with
        | none => ⟨events, .leave .panicked⟩
        | some (.error e) =>
          ⟨events ++ [.receive (.error e)], .leave (.returned (debugErr e.debug))⟩
        -- `msg.size` keeps what the callback left there
        | some (.ok (data, sender)) =>
          ⟨events ++ [.receive (.ok (data, sender))], .again (left.fill data)⟩
    else
      ⟨[.message peerAddr msg left (.ok ())], .again left⟩

/-! ## From bind to close -/

/-- What one call of `connect` is given and what its environment answers. -/
structure UdpCall where
  address : String
  port : UInt16
  readWriteTimeoutInSecs : F64
  onBindSocket : OnSocketCallback
  onCloseSocket : OnCloseSocketCallback
  /-- `SocketAddr::from_str`, with the `{:?}` text of its error. -/
  fromStr : String → Except String SocketAddr
  bind : SocketAddr → Except IoError Unit
  localAddr : Except IoError SocketAddr
  rounds : List UdpRound

/-- `anyhow!("{:?}. trace info:{}", e, TRACE)`. -/
def traced (debug : String) : Error := ⟨debug ++ ". trace info:" ++ "udp::connect"⟩

/-- Up to the `on bind` callback: the address the socket is bound to. -/
def UdpCall.bound (call : UdpCall) : Except Error SocketAddr := do
  let socketAddr ← (call.fromStr (call.address ++ ":" ++ toString call.port.toNat)).mapError traced
  (call.bind socketAddr).mapError fun e => traced e.debug
  call.onBindSocket.run socketAddr
  return socketAddr

/-- The `on close` callback, run once the loop is left. -/
def UdpCall.closing (call : UdpCall) (socketAddr : SocketAddr)
    (outcome : Outcome Buffer UdpEvent (Status String)) : List UdpEvent × Status Verdict :=
  (outcome.events,
    match outcome.control with
    | .again _ => .running
    | .leave (.returned closeMsg) => .returned (call.onCloseSocket.run socketAddr closeMsg)
    | .leave .running => .running
    | .leave .panicked => .panicked
    | .leave .undefined => .undefined)

def connect (connectionType : UdpConnectionType) (call : UdpCall) :
    List UdpEvent × Status Verdict :=
  match call.bound with
  | .error e => ([], .returned (.error e))
  | .ok socketAddr =>
    let msg := Buffer.new .binary
    match connectionType with
    | .udpServer =>
      call.closing socketAddr (run (serverRound call.readWriteTimeoutInSecs) call.rounds msg)
    | .udpClient =>
      match call.localAddr with
      | .error e => ([], .returned (.error (traced e.debug)))
      | .ok peerAddr =>
        call.closing socketAddr
          (run (clientRound call.readWriteTimeoutInSecs peerAddr) call.rounds msg)

end WolfEngine.Stream.Udp
