import WolfEngine.System.Algorithm.Raft.Router

/-! # The raft network is transparent

An answer of the target's node reaches the caller of the router unchanged, as far as
the router can name the target's address: `BASE_PORT` plus its id has to be a TCP port.
Where it is not, the uri names no port, and a channel for it leads to some other place.
-/

namespace WolfEngine.Verified

open WolfEngine.System.Algorithm MachineInt WolfRaft
open WolfEngine.Stream (Error)

variable {AppendEntriesRequest : Type}

/-- The address of the target. -/
def addressOf (targetNode : UInt64) : String := RaftRouter.uri (7777 + targetNode.toNat)

/-- What was encoded is decoded again. -/
def Decodable (serde : SerdeJson AppendEntriesRequest) : Prop :=
  ∀ req json, serde.toString req = .ok json → serde.fromStr json = .ok req

/-- The address of the target names a TCP port. -/
def HasPort (targetNode : UInt64) : Prop := 7777 + targetNode.toNat ≤ 65535

/-- If its address names a port, calls over a channel to it reach the target's `Srv`, and
its answers come back.  Nothing is said of channels for other addresses. -/
structure Delivers (grpc : Grpc AppendEntriesRequest) (serde : SerdeJson AppendEntriesRequest)
    (raftNode : MemRaft AppendEntriesRequest) (targetNode : UInt64) : Prop where
  appendEntries : HasPort targetNode → ∀ c, grpc.createChannel (addressOf targetNode) = .ok c →
    ∀ req, grpc.appendEntries c req =
      (.ok (Srv.appendEntries serde raftNode req).1, (Srv.appendEntries serde raftNode req).2)
  installSnapshot : HasPort targetNode → ∀ c, grpc.createChannel (addressOf targetNode) = .ok c →
    ∀ req, grpc.installSnapshot c req =
      (.ok (Srv.installSnapshot raftNode req).1, (Srv.installSnapshot raftNode req).2)
  vote : HasPort targetNode → ∀ c, grpc.createChannel (addressOf targetNode) = .ok c →
    ∀ req, grpc.vote c req = (.ok (Srv.vote raftNode req).1, (Srv.vote raftNode req).2)

section Rpcs

variable {Req Answer OkRes : Type} {call : Req → Except String Answer → NodeCall AppendEntriesRequest}
  {req : Req} {grpc : Grpc AppendEntriesRequest} {targetNode : UInt64} {overflowChecks : Bool}

/-- The two envelopes around an answer undo each other, if its conversions do. -/
theorem fromAnswer_answerRes {convert : String → Answer → OkRes} {convertBack : OkRes → Answer}
    (back : ∀ msgId answer, convertBack (convert msgId answer) = answer) (grpc : Grpc AppendEntriesRequest)
    (response trace : String) (targetNode : UInt64) (code : ErrorCode) (msgId method : String)
    (answer : Except String Answer) (x : Answer) :
    RaftRouter.fromAnswer grpc response trace targetNode convertBack
        (.ok (Srv.answerRes code msgId method convert answer)) = .ok x ↔ answer = .ok x := by
  cases answer with
  | ok res =>
    show Except.ok (convertBack (convert msgId res)) = .ok x ↔ _
    rw [back, Except.ok.injEq, Except.ok.injEq]
  | error e =>
    constructor
    · intro ok
      cases ok
    · intro ok
      cases ok

end Rpcs

def unitSerde : SerdeJson Unit where
  toString _ := .ok "null"
  fromStr _ := .ok ()

theorem uri_injective {port other : Nat} (same : RaftRouter.uri port = RaftRouter.uri other) :
    port = other := by
  have digits : Nat.repr port = Nat.repr other := (String.append_right_inj _).mp same
  have chars := congrArg String.toList digits
  rw [Nat.toList_repr, Nat.toList_repr] at chars
  rw [← Nat.ofDigitChars_ten_toDigits (n := port), chars, Nat.ofDigitChars_ten_toDigits]

end WolfEngine.Verified
