import WolfEngine.Library.MachineInt
import WolfEngine.System.Algorithm.Raft.Srv

/-! # The raft network over gRPC

`RaftRouter` of `raft_imp.rs`, and the `create_channel` of `stream/http/grpc.rs` that
it reaches its targets through.
-/

namespace WolfEngine.System.Algorithm

open MachineInt WolfRaft
open WolfEngine.Stream (Error)

/-- What `tonic`, `prost` and `uuid` do for the router: a call over a channel gives its
answer, or the `{:?}` of a `Status`, and the calls that the far side makes of its node. -/
structure Grpc (AppendEntriesRequest : Type) where
  Endpoint : Type
  Channel : Type
  fromShared : String → Except String Endpoint
  connect : Endpoint → Except String Channel
  appendEntries : Channel → RaftAppendEntriesReq →
    Except String RaftAppendEntriesRes × List (NodeCall AppendEntriesRequest)
  installSnapshot : Channel → RaftInstallSnapshotReq →
    Except String RaftInstallSnapshotRes × List (NodeCall AppendEntriesRequest)
  vote : Channel → RaftVoteReq →
    Except String RaftVoteRes × List (NodeCall AppendEntriesRequest)
  /-- `Uuid::new_v5(&Uuid::NAMESPACE_X500, name).to_string()`. -/
  newV5 : String → String
  /-- `{:?}` of an error answer. -/
  debug : RaftErrorRes → String

variable {AppendEntriesRequest : Type}

/-- `create_channel`. -/
def Grpc.createChannel (grpc : Grpc AppendEntriesRequest) (endPoint : String) :
    Except Error grpc.Channel :=
  match grpc.fromShared endPoint with
  | .error e =>
    .error ⟨"endpoint uri " ++ endPoint ++ " is invalid because: " ++ e ++ ". trace: create_channel"⟩
  | .ok endpoint =>
    match grpc.connect endpoint with
    | .ok channel => .ok channel
    | .error e =>
      .error ⟨"could not create channel for grpc client on endpoint " ++ endPoint ++ " because: "
        ++ e ++ ". trace: create_channel"⟩

namespace RaftRouter

def basePort : Int := 7777

/-- `format!("http://localhost:{}", port)`. -/
def uri (port : Nat) : String := "http://localhost:" ++ toString port

/-- From the answer of an rpc to the result of the router's method. -/
def fromAnswer {OkRes Answer : Type} (grpc : Grpc AppendEntriesRequest) (response trace : String)
    (targetNode : UInt64) (convert : OkRes → Answer) : Except String (Res OkRes) → Except Error Answer
  | .ok ⟨some (.okRes ok)⟩ => .ok (convert ok)
  | .ok ⟨some (.errorRes e)⟩ =>
    .error ⟨response ++ " for node " ++ toString targetNode ++ " contains Error " ++ grpc.debug e
      ++ ". Trace: " ++ trace⟩
  | .ok ⟨none⟩ =>
    .error ⟨"inner message of " ++ response ++ " is None for node " ++ toString targetNode
      ++ ". Trace: " ++ trace⟩
  | .error e =>
    .error ⟨response ++ " for node " ++ toString targetNode ++ " contains error status " ++ e
      ++ ". Trace: " ++ trace⟩

/-- `rpc` over a channel to the target; `none` is the panic of an overflow in
`BASE_PORT + p_target_node`. -/
def withChannel {Answer : Type} (grpc : Grpc AppendEntriesRequest) (overflowChecks : Bool)
    (couldNot trace : String) (targetNode : UInt64)
    (rpc : grpc.Channel → Except Error Answer × List (NodeCall AppendEntriesRequest)) :
    Option (Except Error Answer) × List (NodeCall AppendEntriesRequest) :=
  (u64.compute overflowChecks (basePort + targetNode.toNat)).elim (none, []) fun port =>
    match grpc.createChannel (uri port.toNat) with
    | .ok c =>
      let answered := rpc c
      (some answered.1, answered.2)
    | .error e =>
      (some (.error ⟨couldNot ++ " for node " ++ toString targetNode ++ " because: " ++ e.debug
        ++ ". Trace: " ++ trace⟩), [])

def appendEntries (grpc : Grpc AppendEntriesRequest) (serde : SerdeJson AppendEntriesRequest)
    (overflowChecks : Bool) (targetNode : UInt64) (rpc : AppendEntriesRequest) :
    Option (Except Error Raft.AppendEntriesResponse) × List (NodeCall AppendEntriesRequest) :=
  let trace := "raft_imp:append_entries"
  match raftAppendEntriesReqToGrpcAppendEntriesReq serde (grpc.newV5 "wolf_raft_append_entries")
    rpc with
  | .ok raftReq =>
    withChannel grpc overflowChecks
      "could not create a grpc channel while sending raft::AppendEntriesResponse" trace targetNode
      fun c =>
        let answered := grpc.appendEntries c raftReq
        (fromAnswer grpc "AppendEntriesResponse" trace targetNode
          grpcAppendEntriesOkResToRaftAppendEntriesRes answered.1, answered.2)
  | .error e => (some (.error ⟨e.debug ++ ". trace: " ++ trace⟩), [])

def installSnapshot (grpc : Grpc AppendEntriesRequest) (overflowChecks : Bool)
    (targetNode : UInt64) (rpc : Raft.InstallSnapshotRequest) :
    Option (Except Error Raft.InstallSnapshotResponse) × List (NodeCall AppendEntriesRequest) :=
  let trace := "raft_imp::install_snapshot"
  withChannel grpc overflowChecks
    "could not create grpc channel on sending raft::InstallSnapshotResponse" trace targetNode
    fun c =>
      let rpcReq := raftInstallSnapshotReqToGrpcInstallSnapshotReq
        (grpc.newV5 "wolf_raft_install_snapshot") rpc
      let answered := grpc.installSnapshot c rpcReq
      (fromAnswer grpc "InstallSnapshotResponse" trace targetNode
        grpcInstallSnapshotOkResToRaftInstallSnapshotRes answered.1, answered.2)

def vote (grpc : Grpc AppendEntriesRequest) (overflowChecks : Bool) (targetNode : UInt64)
    (rpc : Raft.VoteRequest) :
    Option (Except Error Raft.VoteResponse) × List (NodeCall AppendEntriesRequest) :=
  let trace := "raft_imp::vote"
  withChannel grpc overflowChecks "could not create grpc channel on sending raft::VoteResponse"
    trace targetNode
    fun c =>
      let rpcReq := raftVoteReqToGrpcVoteReq (grpc.newV5 "wolf_raft_vote") rpc
      let answered := grpc.vote c rpcReq
      (fromAnswer grpc "VoteResponse" trace targetNode grpcVoteOkResToRaftVoteRes answered.1,
        answered.2)

end RaftRouter

end WolfEngine.System.Algorithm
