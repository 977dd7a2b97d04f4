import WolfEngine.Library.Views
import WolfEngine.Verified.UdpReplies

/-! # Sockets that never meet

A UDP client sends to the address that its own socket is bound to, and a server only to
those who sent to it.  So whatever a network does with the datagrams (it may lose, repeat
and reorder them), two sockets of this engine never get one from each other.
-/

namespace WolfEngine.Verified.UdpNetwork

open WolfEngine.Stream WolfEngine.Stream.Udp EventLoop Views

/-- A call of `connect` that bound its socket to the address that `local_addr` gives then:
a socket that asks for port 0 is none of these.  One that is bound to all addresses of the
machine is, but its datagrams come from one of them, which is no socket's address here. -/
structure Socket where
  connectionType : UdpConnectionType
  call : UdpCall
  address : SocketAddr
  bound : call.bound = .ok address
  localAddr : call.localAddr = .ok address

def Socket.events (socket : Socket) : List UdpEvent :=
  (connect socket.connectionType socket.call).1

variable {ι : Type} [DecidableEq ι]

/-- What happens among sockets: each does what its loop does, and a datagram of one of
them was sent to the address where it arrives. -/
structure Happens (sockets : ι → Socket) (history : List (ι × UdpEvent)) : Prop where
  own : ∀ i, view i history <+: (sockets i).events
  delivered : ∀ pre i data sender post,
    history = pre ++ (i, .receive (.ok (data, sender))) :: post →
      (∀ j, (sockets j).address ≠ sender) ∨
        ∃ j count, (sockets j).address = sender ∧
          (j, .send (sockets i).address data.bytes (.ok count)) ∈ pre

/-! ## Where the loops send to -/

section Loops

variable {readWriteTimeoutInSecs : F64} {rounds : List UdpRound} {msg : Buffer}
  {peerAddr peer : SocketAddr} {offered : List UInt8} {answer : Except IoError Nat}

theorem client_sends
    (sends : .send peer offered answer ∈
      (run (clientRound readWriteTimeoutInSecs peerAddr) rounds msg).events) :
    peer = peerAddr := by
  obtain ⟨_, round, _, state, _, _, member⟩ := mem_run_events.mp sends
  unfold clientRound at member
  split at member
  · simp at member
  next left _ =>
    by_cases filled : left.size > 0
    · simp only [filled, if_true] at member
      split at member
      · simp at member
      · simp at member
        exact member.1
      · split at member <;> simp at member <;> exact member.1
    · simp [filled] at member

/-- A round of the server hears of a sender before it sends there. -/
theorem serverRound_hears {round : UdpRound} {pre post : List UdpEvent}
    (split : (serverRound readWriteTimeoutInSecs round msg).events =
      pre ++ .send peer offered answer :: post) :
    ∃ data, .receive (.ok (data, peer)) ∈ pre := by
  have heard : ∀ data sender (events : List UdpEvent), peer = sender →
      .receive (.ok (data, sender)) :: events = pre ++ .send peer offered answer :: post →
      ∃ data, .receive (.ok (data, peer)) ∈ pre := by
    intro data sender events same split
    cases pre with
    | nil => cases split
    | cons first pre =>
      injection split with head
      exact ⟨data, by simp [← head, same]⟩
  have sends : .send peer offered answer ∈ (serverRound readWriteTimeoutInSecs round msg).events := by
    simp [split]
  unfold serverRound at split sends
  cases received : Udp.read readWriteTimeoutInSecs round with
  | none => simp [received] at sends
  | some result =>
    cases result with
    | error e => simp [received] at sends
    | ok datagram =>
      obtain ⟨data, sender⟩ := datagram
      simp only [received] at split sends
      generalize round.onMessage.run round.elapsedSecs sender (msg.receive data) = left at split sends
      obtain ⟨verdict, left⟩ := left
      cases verdict with
      | error e => simp at sends
      | ok agreed =>
        simp only at split sends
        by_cases filled : data.bytes.length > 0
        · simp only [filled, if_true] at split sends
          cases sent : Udp.send readWriteTimeoutInSecs round sender left.buf with
          | none => simp [sent] at sends
          | some result =>
            cases result with
            | error e =>
              simp [sent] at split sends
              exact heard data sender _ sends.1 split
            | ok count =>
              simp [sent] at split sends
              exact heard data sender _ sends.1 split
        · simp [filled] at sends

/-- A server sends to nobody it did not receive from. -/
theorem server_sends {pre post : List UdpEvent}
    (split : (run (serverRound readWriteTimeoutInSecs) rounds msg).events =
      pre ++ .send peer offered answer :: post) :
    ∃ data, .receive (.ok (data, peer)) ∈ pre := by
  obtain ⟨shown, round, state, before, after, _, rfl, shows⟩ := run_events_split split
  obtain ⟨data, heard⟩ := serverRound_hears shows
  exact ⟨data, List.mem_append_right shown heard⟩

end Loops

/-! ## Who meets whom -/

section Network

variable {sockets : ι → Socket} {history : List (ι × UdpEvent)}

theorem client_events {socket : Socket} (client : socket.connectionType = .udpClient) :
    socket.events = (run (clientRound socket.call.readWriteTimeoutInSecs socket.address)
      socket.call.rounds (Buffer.new .binary)).events := by
  simp [Socket.events, connect, socket.bound, socket.localAddr, client, UdpCall.closing]

theorem server_events {socket : Socket} (server : socket.connectionType = .udpServer) :
    socket.events = (run (serverRound socket.call.readWriteTimeoutInSecs)
      socket.call.rounds (Buffer.new .binary)).events := by
  simp [Socket.events, connect, socket.bound, server, UdpCall.closing]

/-- No socket has this address. -/
def Stranger (sockets : ι → Socket) (peer : SocketAddr) : Prop := ∀ j, (sockets j).address ≠ peer

/-- It is the address of this socket, which is a client. -/
def Itself (sockets : ι → Socket) (i : ι) (peer : SocketAddr) : Prop :=
  (sockets i).connectionType = .udpClient ∧ peer = (sockets i).address

/-- The other side of an event. -/
def Apart (sockets : ι → Socket) : ι × UdpEvent → Prop
  | (i, .receive (.ok (_, sender))) => Stranger sockets sender ∨ Itself sockets i sender
  | (i, .send peer _ _) => Stranger sockets peer ∨ Itself sockets i peer
  | _ => True

theorem apart (happens : Happens sockets history)
    (distinct : Function.Injective fun i => (sockets i).address) :
    ∀ event ∈ history, Apart sockets event := by
  apply forall_of_before
  intro pre event post split before
  obtain ⟨i, event⟩ := event
  cases event with
  | message peer given left verdict => trivial
  | receive answer =>
    cases answer with
    | error e => trivial
    | ok heard =>
      obtain ⟨data, sender⟩ := heard
      cases happens.delivered pre i data sender post split with
      | inl stranger => exact .inl stranger
      | inr sent =>
        obtain ⟨j, count, from_, earlier⟩ := sent
        cases before _ earlier with
        | inl stranger => exact absurd rfl (stranger i)
        | inr itself =>
          obtain ⟨client, same⟩ := itself
          have here : i = j := distinct same
          subst here
          exact .inr ⟨client, from_.symm⟩
  | send peer offered answer =>
    obtain ⟨more, whole⟩ := happens.own i
    have splitOwn : (sockets i).events =
        view i pre ++ .send peer offered answer :: (view i post ++ more) := by
      rw [← whole, split]
      simp
    have sends : .send peer offered answer ∈ (sockets i).events := by simp [splitOwn]
    cases kind : (sockets i).connectionType with
    | udpClient =>
      rw [client_events kind] at sends
      exact .inr ⟨kind, client_sends sends⟩
    | udpServer =>
      rw [server_events kind] at splitOwn
      obtain ⟨data, heard⟩ := server_sends splitOwn
      cases before _ (mem_view.mp heard) with
      | inl stranger => exact .inl stranger
      | inr itself => exact .inr itself

/-- Two sockets never get a datagram from each other, nor send one, and a socket that hears
of its own address is a client that gets back what it sent. -/
theorem sockets_never_meet (happens : Happens sockets history)
    (distinct : Function.Injective fun i => (sockets i).address) (i : ι) :
    (∀ j, j ≠ i → (∀ data, (i, .receive (.ok (data, (sockets j).address))) ∉ history) ∧
      ∀ offered answer, (i, .send (sockets j).address offered answer) ∉ history) ∧
    ∀ data, (i, .receive (.ok (data, (sockets i).address))) ∈ history →
      (sockets i).connectionType = .udpClient ∧
        ∃ count, (i, .send (sockets i).address data.bytes (.ok count)) ∈ history := by
  have kept := apart happens distinct
  refine ⟨fun j other => ⟨fun data heard => ?_, fun offered answer sent => ?_⟩, fun data heard => ?_⟩
  · cases kept _ heard with
    | inl stranger => exact stranger j rfl
    | inr itself => exact other (distinct itself.2)
  · cases kept _ sent with
    | inl stranger => exact stranger j rfl
    | inr itself => exact other (distinct itself.2)
  · obtain ⟨pre, post, split⟩ := List.append_of_mem heard
    cases kept _ heard with
    | inl stranger => exact absurd rfl (stranger i)
    | inr itself =>
      refine ⟨itself.1, ?_⟩
      cases happens.delivered pre i data _ post split with
      | inl stranger => exact absurd rfl (stranger i)
      | inr sent =>
        obtain ⟨j, count, from_, earlier⟩ := sent
        have here : j = i := distinct from_
        subst here
        exact ⟨count, split ▸ List.mem_append_left _ earlier⟩

end Network

/-- A socket without a timeout that binds. -/
def boundAt (connectionType : UdpConnectionType) (address : SocketAddr) (rounds : List UdpRound) :
    Socket where
  connectionType := connectionType
  call :=
    { address := "127.0.0.1"
      port := 8000
      readWriteTimeoutInSecs := .finite 0
      onBindSocket := ⟨fun _ => .ok ()⟩
      onCloseSocket := ⟨fun _ _ => .ok ()⟩
      fromStr := fun _ => .ok address
      bind := fun _ => .ok ()
      localAddr := .ok address
      rounds := rounds }
  address := address
  bound := rfl
  localAddr := rfl

/-- A client and a server at the next port. -/
def pair : Bool → Socket
  | true => boundAt .udpClient localPeer [clientAnswered fullMessage replyAll]
  | false => boundAt .udpServer (.v4 0x7f000001 4243) []

/-- The client's datagram comes back to it. -/
def comesBack : List (Bool × UdpEvent) :=
  [(true, .message localPeer (.new .binary) { Buffer.new .binary with size := maxMsgSize } (.ok ())),
    (true, .send localPeer (Buffer.new .binary).buf (.ok (Buffer.new .binary).buf.length)),
    (true, .receive (.ok (fullMessage, localPeer)))]

theorem comesBack_happens : Happens pair comesBack where
  own i := by
    cases i with
    | true => exact List.prefix_refl (view true comesBack)
    | false => exact List.nil_prefix
  delivered pre i data sender post split := by
    simp [comesBack, List.cons_eq_append_iff] at split
    obtain ⟨rfl, ⟨rfl, rfl, rfl⟩, rfl⟩ := split
    exact .inr ⟨true, (Buffer.new .binary).buf.length, rfl, List.mem_cons_of_mem _ List.mem_cons_self⟩

theorem client_meets_itself :
    (∀ j, j ≠ true → (∀ data, (true, .receive (.ok (data, (pair j).address))) ∉ comesBack) ∧
      ∀ offered answer, (true, .send (pair j).address offered answer) ∉ comesBack) ∧
    ∀ data, (true, .receive (.ok (data, (pair true).address))) ∈ comesBack →
      (pair true).connectionType = .udpClient ∧
        ∃ count, (true, .send (pair true).address data.bytes (.ok count)) ∈ comesBack :=
  sockets_never_meet comesBack_happens
    (fun one other same => by cases one <;> cases other <;> simp_all [pair, boundAt, localPeer]) true

end WolfEngine.Verified.UdpNetwork
