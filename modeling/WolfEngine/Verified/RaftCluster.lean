import WolfEngine.Library.RemoteCalls
import WolfEngine.Verified.RaftPorts

/-! # Clusters over the router

`RaftRouter` addresses a node by a port and speaks gRPC to the `Srv` behind it.  To the
nodes of a cluster this is a network of machines that call each other by their ids, may
lose calls and answers, and do nothing else to them.
-/

namespace WolfEngine.Verified.RaftCluster

open WolfEngine.System.Algorithm MachineInt WolfRaft
open WolfEngine.Stream (Error)

variable {AppendEntriesRequest State : Type}

inductive Rpc (AppendEntriesRequest : Type) where
  | appendEntries (req : AppendEntriesRequest)
  | installSnapshot (req : Raft.InstallSnapshotRequest)
  | vote (req : Raft.VoteRequest)

inductive Answer where
  | appendEntries (res : Raft.AppendEntriesResponse)
  | installSnapshot (res : Raft.InstallSnapshotResponse)
  | vote (res : Raft.VoteResponse)
deriving DecidableEq

/-- The node that each id stands for, as far as calls go. -/
structure RaftNode (AppendEntriesRequest State : Type) where
  raftNode : State → MemRaft AppendEntriesRequest
  after : State → NodeCall AppendEntriesRequest → State

/-- The call that an rpc is to a node, with its answer. -/
def nodeCall (raftNode : MemRaft AppendEntriesRequest) :
    Rpc AppendEntriesRequest → NodeCall AppendEntriesRequest
  | .appendEntries req => .appendEntries req (raftNode.appendEntries req)
  | .installSnapshot req => .installSnapshot req (raftNode.installSnapshot req)
  | .vote req => .vote req (raftNode.vote req)

/-- What a node answers. -/
def answerOf : NodeCall AppendEntriesRequest → Option Answer
  | .appendEntries _ (.ok res) => some (.appendEntries res)
  | .installSnapshot _ (.ok res) => some (.installSnapshot res)
  | .vote _ (.ok res) => some (.vote res)
  | _ => none

/-- Nodes that are called directly. -/
def RaftNode.machine (node : RaftNode AppendEntriesRequest State) :
    RemoteCalls.Machine State (Rpc AppendEntriesRequest) Answer where
  answer state rpc := answerOf (nodeCall (node.raftNode state) rpc)
  after state rpc := node.after state (nodeCall (node.raftNode state) rpc)

/-! ## The network -/

/-- A cluster whose nodes listen at their addresses, if they do, and nobody else does. -/
structure Cluster (AppendEntriesRequest State : Type) where
  node : RaftNode AppendEntriesRequest State
  serde : SerdeJson AppendEntriesRequest
  decodable : Decodable serde
  listening : String → Option UInt64
  atAddress : ∀ uri i, listening uri = some i → uri = addressOf i
  newV5 : String → String
  debug : RaftErrorRes → String

/-- What the network does with one rpc. -/
structure Weather where
  fromShared : String → Except String Unit
  connect : String → Except String Unit
  request : Except String Unit
  reply : Except String Unit

namespace Cluster

variable (cluster : Cluster AppendEntriesRequest State)

/-- To the `Srv` at this address and back. -/
def overWire {OkRes : Type} (states : UInt64 → State) (weather : Weather) (uri : String)
    (srv : MemRaft AppendEntriesRequest → Res OkRes × List (NodeCall AppendEntriesRequest)) :
    Except String (Res OkRes) × List (NodeCall AppendEntriesRequest) :=
  match cluster.listening uri, weather.request with
  | none, _ => (.error "Unavailable", [])
  | some _, .error status => (.error status, [])
  | some i, .ok () =>
    let answered := srv (cluster.node.raftNode (states i))
    (weather.reply.map fun _ => answered.1, answered.2)

def grpc (states : UInt64 → State) (weather : Weather) : Grpc AppendEntriesRequest where
  Endpoint := String
  Channel := String
  fromShared uri := (weather.fromShared uri).map fun _ => uri
  connect uri := (weather.connect uri).map fun _ => uri
  appendEntries uri req :=
    cluster.overWire states weather uri fun raftNode => Srv.appendEntries cluster.serde raftNode req
  installSnapshot uri req :=
    cluster.overWire states weather uri fun raftNode => Srv.installSnapshot raftNode req
  vote uri req := cluster.overWire states weather uri fun raftNode => Srv.vote raftNode req
  newV5 := cluster.newV5
  debug := cluster.debug

/-- The router's method for this rpc. -/
def send (overflowChecks : Bool) (states : UInt64 → State) (weather : Weather)
    (targetNode : UInt64) :
    Rpc AppendEntriesRequest → Option (Except Error Answer) × List (NodeCall AppendEntriesRequest)
  | .appendEntries req =>
    let ran := RaftRouter.appendEntries (cluster.grpc states weather) cluster.serde overflowChecks
      targetNode req
    (ran.1.map (·.map .appendEntries), ran.2)
  | .installSnapshot req =>
    let ran := RaftRouter.installSnapshot (cluster.grpc states weather) overflowChecks targetNode req
    (ran.1.map (·.map .installSnapshot), ran.2)
  | .vote req =>
    let ran := RaftRouter.vote (cluster.grpc states weather) overflowChecks targetNode req
    (ran.1.map (·.map .vote), ran.2)

/-- The node at the address that the router opens its channel to. -/
def reached (overflowChecks : Bool) (targetNode : UInt64) : Option UInt64 :=
  (uriOf overflowChecks targetNode).bind cluster.listening

/-- The states once a node was called so. -/
def afterCalls (states : UInt64 → State) (reached : Option UInt64)
    (calls : List (NodeCall AppendEntriesRequest)) : UInt64 → State :=
  match reached with
  | some i => Function.update states i (calls.foldl cluster.node.after (states i))
  | none => states

end Cluster

inductive Act (AppendEntriesRequest State : Type) where
  | own (i : UInt64) (does : State → State)
  | rpc (targetNode : UInt64) (rpc : Rpc AppendEntriesRequest) (weather : Weather)

/-- The states of the nodes and what the callers got. -/
def run (cluster : Cluster AppendEntriesRequest State) (overflowChecks : Bool) :
    (UInt64 → State) → List (Act AppendEntriesRequest State) →
      List (Option (Except Error Answer)) × (UInt64 → State)
  | states, [] => ([], states)
  | states, .own i does :: acts =>
    run cluster overflowChecks (Function.update states i (does (states i))) acts
  | states, .rpc targetNode rpc weather :: acts =>
    let sent := cluster.send overflowChecks states weather targetNode rpc
    let rest := run cluster overflowChecks
      (cluster.afterCalls states (cluster.reached overflowChecks targetNode) sent.2) acts
    (sent.1 :: rest.1, rest.2)

/-- The acts without the network. -/
def Act.direct : Act AppendEntriesRequest State →
    RemoteCalls.Act UInt64 State (Rpc AppendEntriesRequest)
  | .own i does => .own i does
  | .rpc targetNode request _ => .call targetNode request

/-- The answer that a caller got. -/
def heard : Option (Except Error Answer) → Option Answer
  | some (.ok answer) => some answer
  | _ => none

/-- Sending this is no panic: the sum that is the target's port is not computed, or not
checked, or right. -/
def Addressed (cluster : Cluster AppendEntriesRequest State) (overflowChecks : Bool) :
    Act AppendEntriesRequest State → Prop
  | .own _ _ => True
  | .rpc targetNode (.appendEntries req) _ =>
    (∃ e, cluster.serde.toString req = .error e) ∨ overflowChecks = false ∨
      7777 + targetNode.toNat < 2 ^ 64
  | .rpc targetNode _ _ => overflowChecks = false ∨ 7777 + targetNode.toNat < 2 ^ 64

section Send

variable {cluster : Cluster AppendEntriesRequest State} {overflowChecks : Bool}
  {states : UInt64 → State} {weather : Weather} {targetNode : UInt64}

/-- Only the target listens where the router looks for it, also where the port wrapped. -/
theorem listening_target {uri : String} {i : UInt64}
    (opened : uriOf overflowChecks targetNode = some uri)
    (listens : cluster.listening uri = some i) : i = targetNode := by
  obtain ⟨port, computed, atPort⟩ := Option.map_eq_some_iff.mp opened
  have address : RaftRouter.uri port.toNat = addressOf i := atPort.trans (cluster.atAddress uri i listens)
  have same := uri_injective address
  have value := port_of_compute computed
  have bound := i.toNat_lt
  have bound' := targetNode.toNat_lt
  apply UInt64.toNat_inj.mp
  -- a port that wrapped lies below that of every node
  omega

/-- The rpc came to nothing, or the target's node was called once and the caller got its
answer or none. -/
def Faithful (cluster : Cluster AppendEntriesRequest State) (overflowChecks : Bool)
    (targetNode : UInt64) (call : NodeCall AppendEntriesRequest)
    (ran : Option (Except Error Answer) × List (NodeCall AppendEntriesRequest)) : Prop :=
  (heard ran.1 = none ∧ ran.2 = []) ∨
    (cluster.reached overflowChecks targetNode = some targetNode ∧ ran.2 = [call] ∧
      ∀ answer, heard ran.1 = some answer → answerOf call = some answer)

theorem afterCalls_nil (reached : Option UInt64) : cluster.afterCalls states reached [] = states := by
  cases reached with
  | none => rfl
  | some i => exact Function.update_eq_self i states

theorem Faithful.called {rpc : Rpc AppendEntriesRequest}
    {ran : Option (Except Error Answer) × List (NodeCall AppendEntriesRequest)}
    (faithful : Faithful cluster overflowChecks targetNode
      (nodeCall (cluster.node.raftNode (states targetNode)) rpc) ran) :
    RemoteCalls.Called cluster.node.machine states targetNode rpc (heard ran.1)
      (cluster.afterCalls states (cluster.reached overflowChecks targetNode) ran.2) := by
  cases faithful with
  | inl lost =>
    rw [lost.2, afterCalls_nil]
    exact .of_lost lost.1
  | inr performed =>
    obtain ⟨reaches, one, answers⟩ := performed
    rw [one, reaches]
    exact .of_performed answers

/-- What comes back over a channel. -/
inductive Back {A : Type} (cluster : Cluster AppendEntriesRequest State) (inject : A → Answer)
    (call : UInt64 → NodeCall AppendEntriesRequest) (uri : String) :
    Except Error A × List (NodeCall AppendEntriesRequest) → Prop where
  | lost (e : Error) : Back cluster inject call uri (.error e, [])
  | called (i : UInt64) (result : Except Error A) : cluster.listening uri = some i →
      (∀ x, result = .ok x → answerOf (call i) = some (inject x)) →
      Back cluster inject call uri (result, [call i])

theorem back_of_srv {A OkRes : Type} {convert : String → A → OkRes} {convertBack : OkRes → A}
    {srv : MemRaft AppendEntriesRequest → Res OkRes × List (NodeCall AppendEntriesRequest)}
    {code : ErrorCode} {msgId method : String} (inject : A → Answer)
    (call : MemRaft AppendEntriesRequest → NodeCall AppendEntriesRequest)
    (answer : MemRaft AppendEntriesRequest → Except String A)
    (back : ∀ msgId answer, convertBack (convert msgId answer) = answer)
    (answers : ∀ raftNode x, answer raftNode = .ok x → answerOf (call raftNode) = some (inject x))
    (serves : ∀ raftNode,
      srv raftNode = (Srv.answerRes code msgId method convert (answer raftNode), [call raftNode]))
    (uri response trace : String) :
    let answered := cluster.overWire states weather uri srv
    Back cluster inject (fun i => call (cluster.node.raftNode (states i))) uri
      (RaftRouter.fromAnswer (cluster.grpc states weather) response trace targetNode convertBack
        answered.1, answered.2) := by
  unfold Cluster.overWire
  cases listens : cluster.listening uri with
  | none => exact .lost _
  | some i =>
    cases weather.request with
    | error status => exact .lost _
    | ok request =>
      simp only [serves]
      apply Back.called i _ listens
      intro x ok
      cases replied : weather.reply with
      | error status =>
        rw [replied] at ok
        cases ok
      | ok reply =>
        rw [replied] at ok
        apply answers
        exact (fromAnswer_answerRes back _ _ _ _ _ _ _ _ _).mp ok

theorem faithful_withChannel {A : Type} {couldNot trace : String}
    {rpc : String → Except Error A × List (NodeCall AppendEntriesRequest)} (inject : A → Answer)
    (call : UInt64 → NodeCall AppendEntriesRequest)
    (back : ∀ uri, Back cluster inject call uri (rpc uri)) :
    let ran := RaftRouter.withChannel (cluster.grpc states weather) overflowChecks couldNot trace
      targetNode rpc
    Faithful cluster overflowChecks targetNode (call targetNode)
      (ran.1.map (·.map inject), ran.2) := by
  intro ran
  have opens : ran = _ := withChannel_eq_uriOf _ _ _ _ _ _
  rw [opens]
  cases opened : uriOf overflowChecks targetNode with
  | none => exact .inl ⟨rfl, rfl⟩
  | some uri =>
    have created : ∀ c, (cluster.grpc states weather).createChannel uri = .ok c → c = uri := by
      intro c created
      simp only [Grpc.createChannel, Cluster.grpc] at created
      cases shared : weather.fromShared uri with
      | error e => simp [shared, Except.map] at created
      | ok valid =>
        cases connected : weather.connect uri with
        | error e => simp [shared, connected, Except.map] at created
        | ok open_ =>
          simp only [shared, connected, Except.map] at created
          exact (Except.ok.inj created).symm
    rw [Option.elim_some]
    cases channel : (cluster.grpc states weather).createChannel uri with
    | error e => exact .inl ⟨rfl, rfl⟩
    | ok c =>
      have here := created c channel
      subst here
      cases came : rpc c with
      | mk result calls =>
        have returned := back c
        rw [came] at returned
        simp only [came]
        cases returned with
        | lost e => exact .inl ⟨rfl, rfl⟩
        | called i _ listens answers =>
          obtain rfl := listening_target opened listens
          refine .inr ⟨?_, rfl, ?_⟩
          · rw [Cluster.reached, opened]
            exact listens
          · intro answer got
            cases result with
            | error e => cases got
            | ok x =>
              cases got
              exact answers x rfl

theorem send_faithful (rpc : Rpc AppendEntriesRequest) :
    Faithful cluster overflowChecks targetNode
      (nodeCall (cluster.node.raftNode (states targetNode)) rpc)
      (cluster.send overflowChecks states weather targetNode rpc) := by
  cases rpc with
  | appendEntries req =>
    cases encoded : cluster.serde.toString req with
    | error e =>
      simp only [Cluster.send, RaftRouter.appendEntries,
        raftAppendEntriesReqToGrpcAppendEntriesReq, encoded]
      exact .inl ⟨rfl, rfl⟩
    | ok json =>
      simp only [Cluster.send, RaftRouter.appendEntries,
        raftAppendEntriesReqToGrpcAppendEntriesReq, encoded]
      apply faithful_withChannel .appendEntries
        fun i => nodeCall (cluster.node.raftNode (states i)) (.appendEntries req)
      intro uri
      apply back_of_srv .appendEntries (nodeCall · (.appendEntries req)) (·.appendEntries req)
        appendEntriesRes_there_and_back
      · intro raftNode x ok
        simp [nodeCall, answerOf, ok]
      · intro raftNode
        rw [Srv.appendEntries, grpcAppendEntriesReqToRaftAppendEntriesReq,
          cluster.decodable req json encoded]
        rfl
  | installSnapshot req =>
    apply faithful_withChannel .installSnapshot
      fun i => nodeCall (cluster.node.raftNode (states i)) (.installSnapshot req)
    intro uri
    apply back_of_srv .installSnapshot (nodeCall · (.installSnapshot req)) (·.installSnapshot req)
      installSnapshotRes_there_and_back
    · intro raftNode x ok
      simp [nodeCall, answerOf, ok]
    · exact fun raftNode => rfl
  | vote req =>
    apply faithful_withChannel .vote fun i => nodeCall (cluster.node.raftNode (states i)) (.vote req)
    intro uri
    apply back_of_srv .vote (nodeCall · (.vote req)) (·.vote req) voteRes_there_and_back
    · intro raftNode x ok
      simp [nodeCall, answerOf, ok]
    · exact fun raftNode => rfl

theorem uriOf_isSome : (uriOf overflowChecks targetNode).isSome ↔
    overflowChecks = false ∨ 7777 + targetNode.toNat < 2 ^ 64 := by
  have inRange : u64.InRange (RaftRouter.basePort + targetNode.toNat) ↔
      7777 + targetNode.toNat < 2 ^ 64 := by
    rw [inRange_u64_iff, RaftRouter.basePort]
    omega
  by_cases address : 7777 + targetNode.toNat < 2 ^ 64
  · simp only [uriOf, IntType.compute_of_inRange overflowChecks (inRange.mpr address), address]
    simp
  · have overflow := mt inRange.mp address
    cases overflowChecks with
    | false => simp [uriOf, IntType.compute_unchecked overflow]
    | true =>
      simp only [uriOf, IntType.compute_of_overflow overflow, address]
      simp

theorem withChannel_isSome {A : Type} {grpc : Grpc AppendEntriesRequest} {couldNot trace : String}
    {rpc : grpc.Channel → Except Error A × List (NodeCall AppendEntriesRequest)} :
    (RaftRouter.withChannel grpc overflowChecks couldNot trace targetNode rpc).1.isSome =
      (uriOf overflowChecks targetNode).isSome := by
  rw [withChannel_eq_uriOf]
  cases uriOf overflowChecks targetNode with
  | none => rfl
  | some uri =>
    rw [Option.elim_some]
    cases grpc.createChannel uri <;> rfl

theorem send_isSome (request : Rpc AppendEntriesRequest) :
    (cluster.send overflowChecks states weather targetNode request).1.isSome ↔
      Addressed cluster overflowChecks (.rpc targetNode request weather) := by
  cases request with
  | appendEntries req =>
    cases encoded : cluster.serde.toString req with
    | error e =>
      simp [Cluster.send, RaftRouter.appendEntries, raftAppendEntriesReqToGrpcAppendEntriesReq,
        encoded, Addressed]
    | ok json =>
      simp [Cluster.send, RaftRouter.appendEntries, raftAppendEntriesReqToGrpcAppendEntriesReq,
        encoded, Addressed, withChannel_isSome, uriOf_isSome]
  | installSnapshot req =>
    simp [Cluster.send, RaftRouter.installSnapshot, Addressed, withChannel_isSome, uriOf_isSome]
  | vote req =>
    simp [Cluster.send, RaftRouter.vote, Addressed, withChannel_isSome, uriOf_isSome]

end Send

/-- Over the router, a cluster does what its nodes do when they call each other directly,
over a network that loses calls and answers but neither misdirects nor repeats nor changes
one; and sending is a panic for no act but those that `Addressed` leaves out. -/
theorem cluster_refines (cluster : Cluster AppendEntriesRequest State) (overflowChecks : Bool)
    (states : UInt64 → State) (acts : List (Act AppendEntriesRequest State)) :
    let ran := run cluster overflowChecks states acts
    RemoteCalls.Runs cluster.node.machine states (acts.map Act.direct) (ran.1.map heard) ran.2 ∧
      (none ∉ ran.1 ↔ ∀ act ∈ acts, Addressed cluster overflowChecks act) := by
  induction acts generalizing states with
  | nil => exact ⟨.nil, by simp [run]⟩
  | cons act acts ih =>
    rw [List.forall_mem_cons]
    cases act with
    | own i does =>
      have rest := ih (Function.update states i (does (states i)))
      refine ⟨.own rest.1, ?_⟩
      rw [← rest.2]
      simp [run, Addressed]
    | rpc targetNode request weather =>
      have returns : (cluster.send overflowChecks states weather targetNode request).1.isSome ↔
          Addressed cluster overflowChecks (.rpc targetNode request weather) :=
        send_isSome request
      have faithful : Faithful cluster overflowChecks targetNode _
          (cluster.send overflowChecks states weather targetNode request) := send_faithful request
      unfold run
      generalize cluster.send overflowChecks states weather targetNode request = sent
        at returns faithful
      have rest := ih (cluster.afterCalls states (cluster.reached overflowChecks targetNode) sent.2)
      refine ⟨.call faithful.called rest.1, ?_⟩
      rw [← returns, ← rest.2, List.mem_cons, not_or, Option.isSome_iff_ne_none, ne_comm]

theorem eq_address_of_listening {uri : String} {i : UInt64}
    (listens : (if uri = addressOf 1 then some 1 else none) = some i) : uri = addressOf i := by
  by_cases here : uri = addressOf 1
  · rw [if_pos here] at listens
    cases listens
    exact here
  · rw [if_neg here] at listens
    cases listens

/-- Node 1 alone listens, and grants its first vote. -/
def oneVoter : Cluster Unit Nat where
  node :=
    { raftNode := fun granted =>
        { appendEntries := fun _ => .error "ShuttingDown"
          installSnapshot := fun _ => .error "ShuttingDown"
          vote := fun req => .ok ⟨req.term, granted == 0⟩ }
      after := fun granted _ => granted + 1 }
  serde := unitSerde
  decodable _ _ _ := rfl
  listening uri := if uri = addressOf 1 then some 1 else none
  atAddress _ _ listens := eq_address_of_listening listens
  newV5 name := name
  debug e := e.msg

def fair : Weather := ⟨fun _ => .ok (), fun _ => .ok (), .ok (), .ok ()⟩

example : (run oneVoter true (fun _ => 0)
    [.rpc 1 (.vote ⟨3, 0, 0, 0⟩) { fair with reply := .error "DeadlineExceeded" },
      .rpc 1 (.vote ⟨3, 0, 0, 0⟩) fair]).1.map heard =
    [none, some (.vote ⟨3, false⟩)] := by decide

end WolfEngine.Verified.RaftCluster
