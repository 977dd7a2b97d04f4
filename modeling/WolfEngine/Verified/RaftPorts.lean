import WolfEngine.Verified.RaftTransparency

/-! # The ports of a cluster

`bootstrap` hands the ids `0..number_of_nodes` to its node, and the router reaches id
`i` at the port `BASE_PORT + i`.  Nothing bounds `number_of_nodes`: a cluster is
addressable as long as the port of its last member is a TCP port.
-/

namespace WolfEngine.Verified

open WolfEngine.System.Algorithm MachineInt WolfRaft
open WolfEngine.Stream (Error)

variable {AppendEntriesRequest Answer : Type} {overflowChecks : Bool}

/-- The address that the router opens a channel to; `none` is the panic of an overflow. -/
def uriOf (overflowChecks : Bool) (targetNode : UInt64) : Option String :=
  (u64.compute overflowChecks (RaftRouter.basePort + targetNode.toNat)).map fun port =>
    RaftRouter.uri port.toNat

/-- All three rpcs open their channel there. -/
theorem withChannel_eq_uriOf (grpc : Grpc AppendEntriesRequest) (overflowChecks : Bool)
    (couldNot trace : String) (targetNode : UInt64)
    (rpc : grpc.Channel → Except Error Answer × List (NodeCall AppendEntriesRequest)) :
    RaftRouter.withChannel grpc overflowChecks couldNot trace targetNode rpc =
      (uriOf overflowChecks targetNode).elim (none, []) fun uri =>
        match grpc.createChannel uri with
        | .ok c => (some (rpc c).1, (rpc c).2)
        | .error e =>
          (some (.error ⟨couldNot ++ " for node " ++ toString targetNode ++ " because: " ++ e.debug
            ++ ". Trace: " ++ trace⟩), []) := by
  unfold RaftRouter.withChannel uriOf
  cases u64.compute overflowChecks (RaftRouter.basePort + targetNode.toNat) with
  | none => rfl
  | some port => rfl

/-- Every member has a TCP port, and an address of its own. -/
structure Addressable (overflowChecks : Bool) (members : Finset UInt64) : Prop where
  noOverflow : ∀ i ∈ members, u64.InRange (RaftRouter.basePort + i.toNat)
  validPort : ∀ i ∈ members, RaftRouter.basePort + i.toNat ≤ 65535
  distinct : ∀ i ∈ members, ∀ j ∈ members, i ≠ j →
    ∀ uri, uriOf overflowChecks i = some uri → uriOf overflowChecks j ≠ some uri

/-- Where it is computed at all, the port is the sum or what the sum wraps to. -/
theorem port_of_compute {port : Int} {i : UInt64}
    (computed : u64.compute overflowChecks (RaftRouter.basePort + i.toNat) = some port) :
    port = (7777 + i.toNat : Int) % 2 ^ 64 := by
  have sum : RaftRouter.basePort + i.toNat = (7777 + i.toNat : Int) := rfl
  rw [sum] at computed
  by_cases inRange : u64.InRange (7777 + i.toNat : Int)
  · rw [IntType.compute_of_inRange overflowChecks inRange, Option.some.injEq] at computed
    rw [inRange_u64_iff] at inRange
    omega
  · cases overflowChecks with
    | true => simp [IntType.compute_of_overflow inRange] at computed
    | false =>
      rw [IntType.compute_unchecked inRange, Option.some.injEq, wrap_u64] at computed
      exact computed.symm

/-- Two ids never share an address, not even when a port wraps. -/
theorem uriOf_injective {i j : UInt64} {uri : String} (one : uriOf overflowChecks i = some uri)
    (other : uriOf overflowChecks j = some uri) : i = j := by
  obtain ⟨port, computed, atPort⟩ := Option.map_eq_some_iff.mp one
  obtain ⟨port', computed', atPort'⟩ := Option.map_eq_some_iff.mp other
  have same : port.toNat = port'.toNat := uri_injective (atPort.trans atPort'.symm)
  have bound := i.toNat_lt
  have bound' := j.toNat_lt
  have value := port_of_compute computed
  have value' := port_of_compute computed'
  apply UInt64.toNat_inj.mp
  omega

theorem addressable_of_bound {numberOfNodes : UInt64} (bound : numberOfNodes.toNat ≤ 57759) :
    Addressable overflowChecks (Srv.members numberOfNodes) := by
  have small : ∀ i ∈ Srv.members numberOfNodes, i.toNat < 57759 := by
    intro i member
    have below := UInt64.lt_iff_toNat_lt.mp (Srv.mem_members.mp member)
    omega
  constructor
  case noOverflow =>
    intro i member
    have below := small i member
    rw [inRange_u64_iff]
    show 0 ≤ (7777 : Int) + i.toNat ∧ (7777 : Int) + i.toNat < 2 ^ 64
    omega
  case validPort =>
    intro i member
    have below := small i member
    show (7777 : Int) + i.toNat ≤ 65535
    omega
  case distinct =>
    intro i _ j _ differ uri one other
    exact differ (uriOf_injective one other)

/-- The member after the last port. -/
theorem bound_of_addressable {numberOfNodes : UInt64}
    (addressable : Addressable overflowChecks (Srv.members numberOfNodes)) :
    numberOfNodes.toNat ≤ 57759 := by
  by_contra large
  have member : (57759 : UInt64) ∈ Srv.members numberOfNodes := by
    rw [Srv.mem_members, UInt64.lt_iff_toNat_lt]
    show 57759 < numberOfNodes.toNat
    omega
  have port : (7777 : Int) + 57759 ≤ 65535 := addressable.validPort 57759 member
  omega

/-- The members that `bootstrap` hands on are addressable exactly up to the last port. -/
theorem bootstrapped_addressable_iff (overflowChecks : Bool) (innerReq : RaftBootstrapReq) :
    Addressable overflowChecks (Srv.members innerReq.numberOfNodes) ↔
      innerReq.numberOfNodes.toNat ≤ 57759 :=
  ⟨bound_of_addressable, addressable_of_bound⟩

/-- One node more than there are ports is bootstrapped like any other cluster. -/
theorem large_cluster_not_addressable :
    Srv.bootstrap (⟨fun _ => .ok (), ()⟩ : MemRaftAdmin Unit) ⟨"", 57760⟩ =
        .ok ⟨some (.okRes ⟨""⟩)⟩ ∧
      ¬Addressable true (Srv.members 57760) := by
  apply And.intro rfl
  intro addressable
  have bound := bound_of_addressable addressable
  exact absurd bound (by decide)

end WolfEngine.Verified
