import WolfEngine.Stream.Common.Callback

/-! # Raft messages

`raft_converter.rs`, between the types of `async_raft` (`Raft`) and those that
`proto/raft.proto` generates (`WolfRaft`).
-/

namespace WolfEngine.System.Algorithm

open WolfEngine.Stream (Error)

/-! ## `async_raft` -/

namespace Raft

structure ConflictOpt where
  term : UInt64
  index : UInt64
deriving DecidableEq

structure AppendEntriesResponse where
  term : UInt64
  success : Bool
  conflictOpt : Option ConflictOpt
deriving DecidableEq

structure InstallSnapshotRequest where
  term : UInt64
  leaderId : UInt64
  lastIncludedIndex : UInt64
  lastIncludedTerm : UInt64
  offset : UInt64
  data : List UInt8
  done : Bool
deriving DecidableEq

structure InstallSnapshotResponse where
  term : UInt64
deriving DecidableEq

structure VoteRequest where
  term : UInt64
  candidateId : UInt64
  lastLogIndex : UInt64
  lastLogTerm : UInt64
deriving DecidableEq

structure VoteResponse where
  term : UInt64
  voteGranted : Bool
deriving DecidableEq

end Raft

/-! ## `proto/raft.proto` -/

namespace WolfRaft

inductive ErrorCode where
  | raftUndefinedError
  | raftBootstrapFailed
  | raftAppendEntriesJsonOfReqIsNotValid
  | raftAppendEntriesFailed
  | raftInstallSnapshotFailed
  | raftVoteFailed
  | raftGetMetricsFailed
deriving DecidableEq

/-- `as i32`. -/
def ErrorCode.toI32 : ErrorCode → Int
  | .raftUndefinedError => 0
  | .raftBootstrapFailed => 1
  | .raftAppendEntriesJsonOfReqIsNotValid => 2
  | .raftAppendEntriesFailed => 3
  | .raftInstallSnapshotFailed => 4
  | .raftVoteFailed => 5
  | .raftGetMetricsFailed => 6

/-- `prost`'s conversion of a number. -/
def ErrorCode.fromI32 : Int → Option ErrorCode
  | 0 => some .raftUndefinedError
  | 1 => some .raftBootstrapFailed
  | 2 => some .raftAppendEntriesJsonOfReqIsNotValid
  | 3 => some .raftAppendEntriesFailed
  | 4 => some .raftInstallSnapshotFailed
  | 5 => some .raftVoteFailed
  | 6 => some .raftGetMetricsFailed
  | _ => none

theorem ErrorCode.fromI32_toI32 (code : ErrorCode) : fromI32 code.toI32 = some code := by
  cases code <;> rfl

structure RaftErrorRes where
  msgId : String
  code : Int
  msg : String
deriving DecidableEq

/-- `prost`'s accessor of the enum-typed field. -/
def RaftErrorRes.errorCode (res : RaftErrorRes) : ErrorCode :=
  (ErrorCode.fromI32 res.code).getD .raftUndefinedError

/-- The `oneof response` that every answer is. -/
inductive Response (OkRes : Type) where
  | okRes (res : OkRes)
  | errorRes (res : RaftErrorRes)
deriving DecidableEq

/-- The answer of an rpc: a message around its `oneof`. -/
structure Res (OkRes : Type) where
  response : Option (Response OkRes)
deriving DecidableEq

structure RaftBootstrapReq where
  msgId : String
  numberOfNodes : UInt64
deriving DecidableEq

structure RaftBootstrapOkRes where
  msgId : String
deriving DecidableEq

structure RaftAppendEntriesReq where
  msgId : String
  req : String
deriving DecidableEq

structure ConflictOpt where
  term : UInt64
  index : UInt64
deriving DecidableEq

structure RaftAppendEntriesOkRes where
  msgId : String
  term : UInt64
  success : Bool
  conflictOpt : Option ConflictOpt
deriving DecidableEq

structure RaftInstallSnapshotReq where
  msgId : String
  term : UInt64
  leaderId : UInt64
  lastIncludedIndex : UInt64
  lastIncludedTerm : UInt64
  offset : UInt64
  done : Bool
  data : List UInt8
deriving DecidableEq

structure RaftInstallSnapshotOkRes where
  msgId : String
  term : UInt64
deriving DecidableEq

structure RaftVoteReq where
  msgId : String
  term : UInt64
  candidateId : UInt64
  lastLogIndex : UInt64
  lastLogTerm : UInt64
deriving DecidableEq

structure RaftVoteOkRes where
  msgId : String
  term : UInt64
  voteGranted : Bool
deriving DecidableEq

structure RaftGetMetricsReq where
  msgId : String
deriving DecidableEq

structure RaftGetMetricsOkRes where
  msgId : String
  metrics : String
deriving DecidableEq

abbrev RaftBootstrapRes := Res RaftBootstrapOkRes
abbrev RaftAppendEntriesRes := Res RaftAppendEntriesOkRes
abbrev RaftInstallSnapshotRes := Res RaftInstallSnapshotOkRes
abbrev RaftVoteRes := Res RaftVoteOkRes
abbrev RaftGetMetricsRes := Res RaftGetMetricsOkRes

end WolfRaft

open WolfRaft

/-- `serde_json` at one type of messages; its errors by their `{:?}`. -/
structure SerdeJson (AppendEntriesRequest : Type) where
  toString : AppendEntriesRequest → Except String String
  fromStr : String → Except String AppendEntriesRequest

/-- An `anyhow` error under a context. -/
def context (trace cause : String) : Error := ⟨trace ++ "\n\nCaused by:\n    " ++ cause⟩

/-! ## Conversions -/

variable {AppendEntriesRequest : Type}

def raftAppendEntriesReqToGrpcAppendEntriesReq (serde : SerdeJson AppendEntriesRequest)
    (msgId : String) (req : AppendEntriesRequest) : Except Error RaftAppendEntriesReq :=
  match serde.toString req with
  | .ok json => .ok ⟨msgId, json⟩
  | .error e =>
    .error (context "raft_converter::convert_raft_append_entries_req_to_grpc_append_entries_req"
      ("could not serialize and convert async_raft::raft::AppendEntriesRequest<memstore::ClientRequest> to json because: "
        ++ e ++ "."))

def grpcAppendEntriesReqToRaftAppendEntriesReq (serde : SerdeJson AppendEntriesRequest)
    (req : RaftAppendEntriesReq) : Except Error AppendEntriesRequest :=
  match serde.fromStr req.req with
  | .ok aer => .ok aer
  | .error e =>
    .error ⟨"could not deserialize json to async_raft::raft::AppendEntriesRequest<memstore::ClientRequest> to json because: "
      ++ e ++ ". trace: raft_converter::convert_raft_append_entries_req_to_append_entries_req"⟩

def raftAppendEntriesResponseToGrpcAppendEntriesOkRes (msgId : String)
    (res : Raft.AppendEntriesResponse) : RaftAppendEntriesOkRes where
  msgId := msgId
  term := res.term
  success := res.success
  conflictOpt := match res.conflictOpt with
    | some unOpt => some ⟨unOpt.term, unOpt.index⟩
    | none => none

def grpcAppendEntriesOkResToRaftAppendEntriesRes (res : RaftAppendEntriesOkRes) :
    Raft.AppendEntriesResponse where
  term := res.term
  success := res.success
  conflictOpt := match res.conflictOpt with
    | some unOpt => some ⟨unOpt.term, unOpt.index⟩
    | none => none

def raftInstallSnapshotReqToGrpcInstallSnapshotReq (msgId : String)
    (req : Raft.InstallSnapshotRequest) : RaftInstallSnapshotReq where
  msgId := msgId
  term := req.term
  leaderId := req.leaderId
  lastIncludedIndex := req.lastIncludedIndex
  lastIncludedTerm := req.lastIncludedTerm
  offset := req.offset
  done := req.done
  data := req.data

def grpcInstallSnapshotReqToRaftInstallSnapshotReq (req : RaftInstallSnapshotReq) :
    Raft.InstallSnapshotRequest where
  term := req.term
  leaderId := req.leaderId
  lastIncludedIndex := req.lastIncludedIndex
  lastIncludedTerm := req.lastIncludedTerm
  offset := req.offset
  done := req.done
  data := req.data

def raftInstallSnapshotResToGrpcInstallSnapshotOkRes (msgId : String)
    (res : Raft.InstallSnapshotResponse) : RaftInstallSnapshotOkRes :=
  ⟨msgId, res.term⟩

def grpcInstallSnapshotOkResToRaftInstallSnapshotRes (res : RaftInstallSnapshotOkRes) :
    Raft.InstallSnapshotResponse :=
  ⟨res.term⟩

def raftVoteReqToGrpcVoteReq (msgId : String) (req : Raft.VoteRequest) : RaftVoteReq where
  msgId := msgId
  term := req.term
  candidateId := req.candidateId
  lastLogIndex := req.lastLogIndex
  lastLogTerm := req.lastLogTerm

def grpcVoteReqToRaftVoteReq (req : RaftVoteReq) : Raft.VoteRequest where
  term := req.term
  candidateId := req.candidateId
  lastLogIndex := req.lastLogIndex
  lastLogTerm := req.lastLogTerm

def raftVoteResToGrpcVoteOkRes (msgId : String) (res : Raft.VoteResponse) : RaftVoteOkRes :=
  ⟨msgId, res.term, res.voteGranted⟩

def grpcVoteOkResToRaftVoteRes (res : RaftVoteOkRes) : Raft.VoteResponse :=
  ⟨res.term, res.voteGranted⟩

/-! ## There and back -/

@[simp] theorem appendEntriesRes_there_and_back (msgId : String)
    (res : Raft.AppendEntriesResponse) :
    grpcAppendEntriesOkResToRaftAppendEntriesRes
      (raftAppendEntriesResponseToGrpcAppendEntriesOkRes msgId res) = res := by
  obtain ⟨term, success, conflictOpt⟩ := res
  cases conflictOpt <;> rfl

@[simp] theorem installSnapshotRes_there_and_back (msgId : String)
    (res : Raft.InstallSnapshotResponse) :
    grpcInstallSnapshotOkResToRaftInstallSnapshotRes
      (raftInstallSnapshotResToGrpcInstallSnapshotOkRes msgId res) = res := rfl

@[simp] theorem voteRes_there_and_back (msgId : String) (res : Raft.VoteResponse) :
    grpcVoteOkResToRaftVoteRes (raftVoteResToGrpcVoteOkRes msgId res) = res := rfl

end WolfEngine.System.Algorithm
