import Mathlib.Data.Finset.Insert
import WolfEngine.System.Algorithm.Raft.Converter

/-! # The raft server

The rpcs of `raft_srv.rs`: those that a raft network is made of and the two that
administrate a node.  A raft node is what it answers to one call of each of its
methods.
-/

namespace WolfEngine.System.Algorithm

open WolfRaft

variable {AppendEntriesRequest RaftMetrics : Type}

/-- The methods of a `MemRaft` at one call; a `RaftError` by its `{:?}`. -/
structure MemRaft (AppendEntriesRequest : Type) where
  appendEntries : AppendEntriesRequest → Except String Raft.AppendEntriesResponse
  installSnapshot : Raft.InstallSnapshotRequest → Except String Raft.InstallSnapshotResponse
  vote : Raft.VoteRequest → Except String Raft.VoteResponse

/-- What else a `MemRaft` answers, to its administrator. -/
structure MemRaftAdmin (RaftMetrics : Type) where
  /-- `initialize`. -/
  initializeWith : Finset UInt64 → Except String Unit
  metrics : RaftMetrics

/-- `tonic::Status`. -/
structure Status where
  message : String
deriving DecidableEq

/-- A call that `Srv` made of its node, with the answer it got. -/
inductive NodeCall (AppendEntriesRequest : Type) where
  | appendEntries (req : AppendEntriesRequest) (answer : Except String Raft.AppendEntriesResponse)
  | installSnapshot (req : Raft.InstallSnapshotRequest)
      (answer : Except String Raft.InstallSnapshotResponse)
  | vote (req : Raft.VoteRequest) (answer : Except String Raft.VoteResponse)

namespace Srv

def baseErrorCodeRaft : Int := 7000

def errorRes {OkRes : Type} (code : ErrorCode) (msgId msg : String) : Res OkRes :=
  ⟨some (.errorRes { msgId := msgId, code := baseErrorCodeRaft + code.toI32, msg := msg })⟩

/-- What the node answered, as an answer of the rpc. -/
def answerRes {OkRes Answer : Type} (code : ErrorCode) (msgId method : String)
    (convert : String → Answer → OkRes) : Except String Answer → Res OkRes
  | .ok res => ⟨some (.okRes (convert msgId res))⟩
  | .error e => errorRes code msgId ("could not get response from raft::" ++ method ++ " because " ++ e)

/-- `Result::or_else`. -/
def orElse {α ε δ : Type} (result : Except ε α) (op : ε → Except δ α) : Except δ α :=
  match result with
  | .ok value => .ok value
  | .error e => op e

/-- The ids `0..number_of_nodes`. -/
def members (numberOfNodes : UInt64) : Finset UInt64 :=
  (List.range numberOfNodes.toNat).foldl (fun members i => insert (UInt64.ofNat i) members) ∅

theorem mem_members {numberOfNodes i : UInt64} : i ∈ members numberOfNodes ↔ i < numberOfNodes := by
  have inserted : ∀ count : Nat,
      i ∈ (List.range count).foldl (fun members k => insert (UInt64.ofNat k) members)
          (∅ : Finset UInt64) ↔
        ∃ k < count, i = UInt64.ofNat k := by
    intro count
    induction count with
    | zero => simp
    | succ count ih =>
      simp only [List.range_succ, List.foldl_append, List.foldl_cons, List.foldl_nil,
        Finset.mem_insert, ih, Nat.lt_succ_iff_lt_or_eq]
      constructor
      · intro added
        cases added with
        | inl last => exact ⟨count, .inr rfl, last⟩
        | inr before =>
          obtain ⟨k, below, same⟩ := before
          exact ⟨k, .inl below, same⟩
      · intro ⟨k, below, same⟩
        cases below with
        | inl below => exact .inr ⟨k, below, same⟩
        | inr last => exact .inl (last ▸ same)
  rw [members, inserted, UInt64.lt_iff_toNat_lt]
  constructor
  · intro ⟨k, below, same⟩
    have small : k < 2 ^ 64 := below.trans numberOfNodes.toNat_lt
    rwa [same, UInt64.toNat_ofNat_of_lt' small]
  · intro below
    exact ⟨i.toNat, below, (UInt64.ofNat_toNat).symm⟩

def bootstrap (raftNode : MemRaftAdmin RaftMetrics) (innerReq : RaftBootstrapReq) :
    Except Status RaftBootstrapRes :=
  orElse
    ((raftNode.initializeWith (members innerReq.numberOfNodes)).map fun _ =>
      ⟨some (.okRes { msgId := innerReq.msgId })⟩)
    fun e => .ok (errorRes .raftBootstrapFailed innerReq.msgId
      ("could not initialize raft node because " ++ e))

def appendEntries (serde : SerdeJson AppendEntriesRequest) (raftNode : MemRaft AppendEntriesRequest)
    (innerReq : RaftAppendEntriesReq) :
    RaftAppendEntriesRes × List (NodeCall AppendEntriesRequest) :=
  match grpcAppendEntriesReqToRaftAppendEntriesReq serde innerReq with
  | .ok req =>
    let res := raftNode.appendEntries req
    (answerRes .raftAppendEntriesFailed innerReq.msgId "append_entries"
        raftAppendEntriesResponseToGrpcAppendEntriesOkRes res,
      [.appendEntries req res])
  | .error e =>
    (errorRes .raftAppendEntriesJsonOfReqIsNotValid innerReq.msgId
        ("could not deserialize append_entries request because " ++ e.debug), [])

def installSnapshot (raftNode : MemRaft AppendEntriesRequest) (innerReq : RaftInstallSnapshotReq) :
    RaftInstallSnapshotRes × List (NodeCall AppendEntriesRequest) :=
  let req := grpcInstallSnapshotReqToRaftInstallSnapshotReq innerReq
  let res := raftNode.installSnapshot req
  (answerRes .raftInstallSnapshotFailed innerReq.msgId "install_snapshot"
      raftInstallSnapshotResToGrpcInstallSnapshotOkRes res,
    [.installSnapshot req res])

def vote (raftNode : MemRaft AppendEntriesRequest) (innerReq : RaftVoteReq) :
    RaftVoteRes × List (NodeCall AppendEntriesRequest) :=
  let req := grpcVoteReqToRaftVoteReq innerReq
  let res := raftNode.vote req
  (answerRes .raftVoteFailed innerReq.msgId "vote" raftVoteResToGrpcVoteOkRes res,
    [.vote req res])

def getMetrics (serde : SerdeJson RaftMetrics) (raftNode : MemRaftAdmin RaftMetrics)
    (innerReq : RaftGetMetricsReq) : Except Status RaftGetMetricsRes :=
  orElse
    ((serde.toString raftNode.metrics).map fun json =>
      ⟨some (.okRes { msgId := innerReq.msgId, metrics := json })⟩)
    fun e => .ok (errorRes .raftGetMetricsFailed innerReq.msgId
      ("could not get json response from raft::metrics because " ++ e))

end Srv

end WolfEngine.System.Algorithm
