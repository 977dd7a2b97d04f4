import WolfEngine.Library.EventLoop
import WolfEngine.Stream.Common.Timeouts

/-! # What a native TCP loop exchanges with the outside

The three native loops (`tcp_server.rs`, `tcp_server_fiber.rs`, `tcp_client.rs`)
read, run the message callback and write.  `NativeRound` holds the answers one
round of any of them can ask for; a round that leaves early ignores the rest.
-/

namespace WolfEngine.Stream

open EventLoop

structure NativeRound where
  /-- The `sleep` that the read races against (the fiber loop has none). -/
  sleep : Sleep
  /-- `read(&mut msg.buf)`: the bytes it put at the front of the array, none at
  the end of the stream. -/
  read : Except IoError Chunk
  elapsedSecs : ℚ
  onMsg : OnMessageCallback
  /-- `write(bytes)`: how many of the offered bytes the socket accepted. -/
  write : List UInt8 → Except IoError Nat
  flush : Except IoError Unit

inductive NativeEvent where
  /-- The callback ran on `given`, left `left` and answered `verdict`. -/
  | message (given left : Buffer) (verdict : Verdict)
  | write (offered : List UInt8) (answer : Except IoError Nat)
  | flush (answer : Except IoError Unit)

/-- The state of an activation whose loop is at `control`. -/
def statusOf {σ α : Type} : Control σ (Status α) → Status α
  | .again _ => .running
  | .leave status => status

@[simp] theorem statusOf_leave {σ α : Type} (status : Status α) :
    statusOf (.leave status : Control σ (Status α)) = status := rfl

/-! ## What was seen on a connection -/

/-- The runs of the callback, in order. -/
def NativeEvent.message? : NativeEvent → Option (Buffer × Buffer × Verdict)
  | .message given left verdict => some (given, left, verdict)
  | _ => none

/-- The bytes a write put on the wire. -/
def NativeEvent.accepted : NativeEvent → List UInt8
  | .write offered (.ok count) => offered.take count
  | _ => []

/-- Everything the peer is sent. -/
def sentBytes (events : List NativeEvent) : List UInt8 := events.flatMap NativeEvent.accepted

/-- What the callbacks that agreed to go on wanted to be sent. -/
def NativeEvent.reply : NativeEvent → List UInt8
  | .message _ left (.ok ()) => left.payload
  | _ => []

def repliedBytes (events : List NativeEvent) : List UInt8 := events.flatMap NativeEvent.reply

def messages (events : List NativeEvent) : List (Buffer × Buffer × Verdict) :=
  events.filterMap NativeEvent.message?

end WolfEngine.Stream
