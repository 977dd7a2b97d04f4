import WolfEngine.Stream.Tcp.Native

/-! # The TCP client

`stream/tcp/tcp_client.rs`: the loop that asks the callback first, writes its
answer and then reads.
-/

namespace WolfEngine.Stream.TcpClient

open EventLoop

/-- `anyhow!("{:?}. trace info:{}", e, TRACE)`. -/
def traced (e : IoError) : Error :=
  ⟨e.debug ++ ". trace info:" ++ "tcp_client::handle_client_stream"⟩

/-- The read at the end of a round. -/
def readBack (ioTimeoutInSecs : F64) (round : NativeRound) (msgBuffer : Buffer) :
    Control Buffer (Status Verdict) :=
  match selectTimeout ioTimeoutInSecs round.sleep (.error timeoutForRead) round.read with
  | none => .leave .panicked
  | some (.error e) => .leave (.returned (.error (traced e)))
  | some (.ok chunk) => .again (msgBuffer.receive chunk)

/-- One round of the loop in `handle_client_stream`. -/
def handleClientStreamRound (peerAddress : SocketAddr) (ioTimeoutInSecs : F64) :
    Body NativeRound Buffer NativeEvent (Status Verdict) := fun round msgBuffer =>
  match round.onMsg.run round.elapsedSecs peerAddress msgBuffer with
  | (.error e, left) => ⟨[.message msgBuffer left (.error e)], .leave (.returned (.ok ()))⟩
  | (.ok (), left) =>
    if left.size > 0 then
      -- `msg_buffer.buf[0..msg_buffer.size]` is bounds-checked
      if left.size > maxMsgSize then
        ⟨[.message msgBuffer left (.ok ())], .leave .panicked⟩
      else
        match round.write left.payload with
        | .error e =>
          ⟨[.message msgBuffer left (.ok ()), .write left.payload (.error e)],
            .leave (.returned (.error (traced e)))⟩
        | .ok sent =>
          if sent > 0 then
            let events : List NativeEvent :=
              [.message msgBuffer left (.ok ()), .write left.payload (.ok sent), .flush round.flush]
            match round.flush with
            | .error e => ⟨events, .leave (.returned (.error (traced e)))⟩
            | .ok () => ⟨events, readBack ioTimeoutInSecs round left⟩
          else
            ⟨[.message msgBuffer left (.ok ()), .write left.payload (.ok sent)],
              readBack ioTimeoutInSecs round left⟩
    else
      ⟨[.message msgBuffer left (.ok ())], readBack ioTimeoutInSecs round left⟩

def handleClientStream (peerAddress : SocketAddr) (ioTimeoutInSecs : F64)
    (rounds : List NativeRound) : Outcome Buffer NativeEvent (Status Verdict) :=
  run (handleClientStreamRound peerAddress ioTimeoutInSecs) rounds (Buffer.new .binary)

end WolfEngine.Stream.TcpClient
