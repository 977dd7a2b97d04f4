import Mathlib.Data.List.TakeDrop
import WolfEngine.Verified.NativeSession

/-! # What a native connection sends

The peer of a native connection gets, for each exchange, some prefix of what the
loop offers to one `write`.  Both results below compare such prefixes over a
whole session: with the replies of the callbacks, and between the two servers.
-/

namespace WolfEngine.Verified

open WolfEngine.Stream EventLoop

/-! ## Concatenated prefixes -/

section Prefixes

variable {α β : Type} {f g : α → List β}

theorem flatMap_length_le {xs : List α} (within : ∀ x ∈ xs, f x <+: g x) :
    (xs.flatMap f).length ≤ (xs.flatMap g).length := by
  induction xs with
  | nil => rfl
  | cons x xs ih =>
    have here := (within x List.mem_cons_self).length_le
    have rest := ih fun y member => within y (List.mem_cons_of_mem _ member)
    simp only [List.flatMap_cons, List.length_append]
    omega

/-- Prefixes piece by piece add up to the whole only if each is its whole piece. -/
theorem flatMap_eq_iff_of_within {xs : List α} (within : ∀ x ∈ xs, f x <+: g x) :
    xs.flatMap f = xs.flatMap g ↔ ∀ x ∈ xs, f x = g x := by
  constructor
  · intro same
    induction xs with
    | nil => simp
    | cons x xs ih =>
      have later : ∀ y ∈ xs, f y <+: g y := fun y member => within y (List.mem_cons_of_mem _ member)
      have here := within x List.mem_cons_self
      have lengths := congrArg List.length same
      have shorter := flatMap_length_le later
      simp only [List.flatMap_cons, List.length_append] at lengths
      have piece : f x = g x := here.eq_of_length_le (by omega)
      rw [List.flatMap_cons, List.flatMap_cons, piece, List.append_cancel_left_eq] at same
      intro y member
      rcases List.mem_cons.mp member with rfl | rest
      · exact piece
      · exact ih later same y rest
  · intro same
    simp only [List.flatMap]
    rw [List.map_congr_left same]

end Prefixes

/-! ## Replies and the wire -/

/-- `AsyncWrite`: a write accepts some of the bytes it is offered. -/
def AcceptsSome (write : List UInt8 → Except IoError Nat) : Prop :=
  ∀ offered, offered ≠ [] → ∃ count, write offered = .ok count ∧ 0 < count ∧ count ≤ offered.length

def AcceptsAll (write : List UInt8 → Except IoError Nat) : Prop :=
  ∀ offered, write offered = .ok offered.length

/-- The callback leaves a size that the array has room for. -/
def LeavesRoom (callback : OnMessageCallback) : Prop :=
  ∀ secs peer given, given.size ≤ maxMsgSize → (callback.run secs peer given).2.size ≤ maxMsgSize

/-- What the driver itself puts in the buffer, the array has room for. -/
structure Driver.KeepsRoom (driver : Driver) : Prop where
  before : ∀ round b given, b.size ≤ maxMsgSize → driver.before round b = some given →
    given.size ≤ maxMsgSize
  after : ∀ round left next, left.size ≤ maxMsgSize → driver.after round left = some next →
    next.size ≤ maxMsgSize

/-- One write takes the whole reply. -/
def Exchange.taken (x : Exchange) : Prop :=
  x.verdict = .ok () → 0 < x.left.size → x.round.write x.left.payload = .ok x.left.size

theorem sentBytes_flatMap {α : Type} (xs : List α) (events : α → List NativeEvent) :
    sentBytes (xs.flatMap events) = xs.flatMap fun x => sentBytes (events x) :=
  List.flatMap_assoc

theorem repliedBytes_flatMap {α : Type} (xs : List α) (events : α → List NativeEvent) :
    repliedBytes (xs.flatMap events) = xs.flatMap fun x => repliedBytes (events x) :=
  List.flatMap_assoc

section OneExchange

variable {x : Exchange}

theorem repliedBytes_slicedReply :
    repliedBytes (slicedReply x) = if x.refused then [] else x.left.payload := by
  unfold slicedReply Exchange.refused
  cases answered : x.verdict with
  | error e => simp [repliedBytes, NativeEvent.reply, Exchange.event, answered]
  | ok agreed =>
    cases agreed
    have asked : repliedBytes [x.event] = x.left.payload := by
      simp [repliedBytes, NativeEvent.reply, Exchange.event, answered]
    simp only [Bool.false_eq_true, if_false]
    split
    · split
      · exact asked
      · cases x.round.write x.left.payload <;> exact asked
    · exact asked

/-- The slice that reaches the wire is a part of the reply, and all of it only
when one write took it. -/
theorem sentBytes_slicedReply (accepts : AcceptsSome x.round.write)
    (room : x.left.size ≤ maxMsgSize) :
    sentBytes (slicedReply x) <+: repliedBytes (slicedReply x) ∧
      (sentBytes (slicedReply x) = repliedBytes (slicedReply x) ↔ x.taken) := by
  rw [repliedBytes_slicedReply]
  unfold slicedReply Exchange.refused Exchange.taken
  cases answered : x.verdict with
  | error e => simp [sentBytes, NativeEvent.accepted, Exchange.event]
  | ok agreed =>
    cases agreed
    by_cases empty : x.left.size = 0
    · simp [empty, sentBytes, NativeEvent.accepted, Exchange.event, Buffer.payload_of_size_zero]
    · have length := Buffer.payload_length room
      have offered : x.left.payload ≠ [] := by
        intro none
        rw [none, List.length_nil] at length
        omega
      obtain ⟨count, written, some, within⟩ := accepts _ offered
      have positive : 0 < x.left.size := Nat.pos_of_ne_zero empty
      have inArray : ¬ maxMsgSize < x.left.size := Nat.not_lt.mpr room
      have sent : sentBytes [x.event, .write x.left.payload (.ok count), .flush x.round.flush] =
          x.left.payload.take count := by
        simp [sentBytes, NativeEvent.accepted, Exchange.event]
      simp only [positive, inArray, written, sent, if_true, if_false,
        Bool.false_eq_true, Except.ok.injEq, forall_const]
      refine ⟨List.take_prefix _ _, ?_⟩
      rw [List.take_eq_self_iff, length]
      omega

/-- On the wire, the client's replies are the async server's. -/
theorem clientReply_on_wire :
    sentBytes (clientReply x) = sentBytes (slicedReply x) ∧
      repliedBytes (clientReply x) = repliedBytes (slicedReply x) := by
  unfold clientReply slicedReply
  cases x.verdict with
  | error e => exact ⟨rfl, rfl⟩
  | ok agreed =>
    by_cases written : x.left.size > 0
    · by_cases past : x.left.size > maxMsgSize
      · simp only [written, past, if_true, and_self]
      · simp only [written, past, if_true, if_false]
        cases x.round.write x.left.payload with
        | error e => exact ⟨rfl, rfl⟩
        | ok sent =>
          by_cases some : sent > 0 <;>
            simp [some, sentBytes, repliedBytes, NativeEvent.accepted, NativeEvent.reply]
    · simp only [written, if_false, and_self]

end OneExchange

/-! ## A whole session -/

/-- No exchange of a session leaves a size past the array. -/
theorem exchanges_left_size {driver : Driver} (keeps : driver.KeepsRoom)
    {peerAddress : SocketAddr} {rounds : List NativeRound}
    (room : ∀ round ∈ rounds, LeavesRoom round.onMsg) {buffer : Buffer}
    (start : buffer.size ≤ maxMsgSize) :
    ∀ x ∈ exchanges driver peerAddress buffer rounds, x.left.size ≤ maxMsgSize := by
  induction rounds generalizing buffer with
  | nil => simp [exchanges]
  | cons round rounds ih =>
    intro x member
    unfold exchanges at member
    split at member
    · cases member
    next given opened =>
      have left : (exchange peerAddress round given).left.size ≤ maxMsgSize :=
        room round List.mem_cons_self _ _ _ (keeps.before round buffer given start opened)
      rcases List.mem_cons.mp member with rfl | later
      · exact left
      · split at later
        · cases later
        · split at later
          · cases later
          next next closed =>
            exact ih (fun r inside => room r (List.mem_cons_of_mem _ inside))
              (keeps.after round _ next left closed) x later

theorem asyncServer_keepsRoom (ioTimeoutInSecs : F64) : (asyncServer ioTimeoutInSecs).KeepsRoom := by
  constructor
  · intro round b given _ opened
    obtain ⟨chunk, _, rfl⟩ := Option.map_eq_some_iff.mp opened
    exact chunk.fits
  · intro round left next room closed
    cases closed
    exact room

theorem fiberServer_keepsRoom : fiberServer.KeepsRoom := by
  constructor
  · intro round b given _ opened
    cases read : round.read with
    | error e => simp [fiberServer, read] at opened
    | ok chunk =>
      simp only [fiberServer, read, Option.some.injEq] at opened
      subst given
      exact chunk.fits
  · intro round left next room closed
    cases closed
    exact room

theorem client_keepsRoom (ioTimeoutInSecs : F64) : (client ioTimeoutInSecs).KeepsRoom := by
  constructor
  · intro round b given room opened
    cases opened
    exact room
  · intro round left next _ closed
    obtain ⟨chunk, _, rfl⟩ := Option.map_eq_some_iff.mp closed
    exact chunk.fits

section Wire

variable {σ ρ : Type} {body : Body NativeRound σ NativeEvent ρ} {driver : Driver}
  {peerAddress : SocketAddr} {ready : Buffer → σ}

theorem Refines.replies_reach_wire (refines : Refines body driver peerAddress ready)
    (sliced : ∀ x, sentBytes (driver.events x) = sentBytes (slicedReply x) ∧
      repliedBytes (driver.events x) = repliedBytes (slicedReply x))
    (keeps : driver.KeepsRoom) {rounds : List NativeRound}
    (accepts : ∀ round ∈ rounds, AcceptsSome round.write)
    (room : ∀ round ∈ rounds, LeavesRoom round.onMsg) {start : Buffer}
    (fits : start.size ≤ maxMsgSize) :
    sentBytes (run body rounds (ready start)).events =
        repliedBytes (run body rounds (ready start)).events ↔
      ∀ x ∈ exchanges driver peerAddress start rounds, x.taken := by
  have one : ∀ x ∈ exchanges driver peerAddress start rounds,
      sentBytes (slicedReply x) <+: repliedBytes (slicedReply x) ∧
        (sentBytes (slicedReply x) = repliedBytes (slicedReply x) ↔ x.taken) := by
    intro x member
    have left := exchanges_left_size keeps room fits x member
    obtain ⟨round, inside, given, rfl⟩ := exists_of_mem_exchanges member
    exact sentBytes_slicedReply (accepts round inside) left
  simp only [refines.run_events, sentBytes_flatMap, repliedBytes_flatMap, sliced]
  rw [flatMap_eq_iff_of_within fun x member => (one x member).1]
  exact forall₂_congr fun x member => (one x member).2

end Wire

/-- The peer of a native loop is sent exactly its replies when, and only when,
each of them is taken by one write. -/
theorem replies_reach_wire_iff (peerAddress : SocketAddr) (ioTimeoutInSecs : F64)
    (rounds : List NativeRound) (accepts : ∀ round ∈ rounds, AcceptsSome round.write)
    (room : ∀ round ∈ rounds, LeavesRoom round.onMsg) :
    (sentBytes (TcpServer.handleTcpConnection peerAddress ioTimeoutInSecs rounds).events =
        repliedBytes (TcpServer.handleTcpConnection peerAddress ioTimeoutInSecs rounds).events ↔
      ∀ x ∈ exchanges (asyncServer ioTimeoutInSecs) peerAddress (Buffer.new .binary) rounds,
        x.taken) ∧
    (sentBytes (TcpClient.handleClientStream peerAddress ioTimeoutInSecs rounds).events =
        repliedBytes (TcpClient.handleClientStream peerAddress ioTimeoutInSecs rounds).events ↔
      ∀ x ∈ exchanges (client ioTimeoutInSecs) peerAddress (Buffer.new .binary) rounds,
        x.taken) :=
  ⟨(asyncServer_refines peerAddress ioTimeoutInSecs).replies_reach_wire (fun _ => ⟨rfl, rfl⟩)
      (asyncServer_keepsRoom _) accepts room (Nat.zero_le _),
    (client_refines peerAddress ioTimeoutInSecs).replies_reach_wire (fun _ => clientReply_on_wire)
      (client_keepsRoom _) accepts room (Nat.zero_le _)⟩

/-- Two bytes echoed to a socket that takes at most `atOnce` of them. -/
def echoTwo (atOnce : Nat) : NativeRound :=
  plainRound (.ok ⟨[1, 2], by decide⟩) echo fun offered => .ok (min atOnce offered.length)

theorem echoTwo_acceptsSome {atOnce : Nat} (some : 0 < atOnce) : AcceptsSome (echoTwo atOnce).write := by
  intro offered nonempty
  have positive := List.length_pos_iff.mpr nonempty
  exact ⟨_, rfl, by omega, by omega⟩

theorem echo_leavesRoom : LeavesRoom ⟨fun _ _ => echo⟩ := fun _ _ _ => id

theorem whole_echo_reaches_wire :
    sentBytes (TcpServer.handleTcpConnection localPeer (.finite 0) [echoTwo 2]).events =
      repliedBytes (TcpServer.handleTcpConnection localPeer (.finite 0) [echoTwo 2]).events := by
  refine (replies_reach_wire_iff localPeer (.finite 0) [echoTwo 2] ?_ ?_).1.mpr ?_
  · exact List.forall_mem_singleton.mpr (echoTwo_acceptsSome (by decide))
  · exact List.forall_mem_singleton.mpr echo_leavesRoom
  · simp [exchanges, asyncServer, asyncRead, selectTimeout, F64.isPositive, Driver.final,
      exchange, echoTwo, plainRound, echo, Exchange.refused, OnMessageCallback.run, Exchange.taken]

/-- A socket that takes one byte at a time gets the first byte of the echo only. -/
theorem short_write_loses_bytes :
    (∀ round ∈ [echoTwo 1, echoTwo 1], AcceptsSome round.write ∧ LeavesRoom round.onMsg) ∧
    sentBytes (TcpServer.handleTcpConnection localPeer (.finite 0) [echoTwo 1, echoTwo 1]).events ≠
      repliedBytes
        (TcpServer.handleTcpConnection localPeer (.finite 0) [echoTwo 1, echoTwo 1]).events ∧
    sentBytes (TcpClient.handleClientStream localPeer (.finite 0) [echoTwo 1, echoTwo 1]).events ≠
      repliedBytes
        (TcpClient.handleClientStream localPeer (.finite 0) [echoTwo 1, echoTwo 1]).events := by
  refine ⟨?_, by decide, by decide⟩
  intro round member
  have same : round = echoTwo 1 := by simpa using member
  subst same
  exact ⟨echoTwo_acceptsSome (by decide), echo_leavesRoom⟩

/-! ## The two servers -/

/-- The reply reads the same as a slice and as the whole array. -/
def Exchange.sentAlike (x : Exchange) : Prop :=
  match x.verdict with
  | .ok () => x.left.size = 0 ∨ x.left.size = maxMsgSize
  | .error _ => x.left.size = 0

section BothServers

variable {ioTimeoutInSecs : F64} {peerAddress : SocketAddr}

theorem sentBytes_wholeReply {x : Exchange} (accepts : AcceptsAll x.round.write) :
    sentBytes (wholeReply x) = if 0 < x.left.size then x.left.buf else [] := by
  unfold wholeReply
  by_cases written : 0 < x.left.size
  · have some : 0 < x.left.buf.length := by rw [x.left.bufLength]; decide
    simp [written, accepts x.left.buf, some, sentBytes, NativeEvent.accepted, Exchange.event]
  · simp [written, sentBytes, NativeEvent.accepted, Exchange.event]

theorem sentBytes_slicedReply_of_acceptsAll {x : Exchange} (accepts : AcceptsAll x.round.write)
    (room : x.left.size ≤ maxMsgSize) :
    sentBytes (slicedReply x) = if x.refused then [] else x.left.payload := by
  have some : AcceptsSome x.round.write := by
    intro offered nonempty
    exact ⟨_, accepts offered, List.length_pos_iff.mpr nonempty, le_rfl⟩
  rw [← repliedBytes_slicedReply, (sentBytes_slicedReply some room).2]
  intro _ _
  rw [accepts, Buffer.payload_length room]

/-- What the async server sends for an exchange is a prefix of what the fiber
server sends for it. -/
theorem sentBytes_sliced_whole {x : Exchange} (accepts : AcceptsAll x.round.write)
    (room : x.left.size ≤ maxMsgSize) :
    sentBytes (slicedReply x) <+: sentBytes (wholeReply x) ∧
      (sentBytes (slicedReply x) = sentBytes (wholeReply x) ↔ x.sentAlike) := by
  rw [sentBytes_wholeReply accepts, sentBytes_slicedReply_of_acceptsAll accepts room]
  unfold Exchange.refused Exchange.sentAlike
  by_cases empty : x.left.size = 0
  · cases x.verdict <;> simp [empty, Buffer.payload_of_size_zero]
  · have nonempty : x.left.buf ≠ [] := by
      intro none
      have length := x.left.bufLength
      rw [none] at length
      cases length
    cases x.verdict with
    | error e => simp [empty, Nat.pos_of_ne_zero empty, Ne.symm nonempty]
    | ok agreed =>
      have prefixed : x.left.payload <+: x.left.buf := List.take_prefix _ _
      simp [empty, Nat.pos_of_ne_zero empty, prefixed, Buffer.payload_eq_buf_iff room]

/-- With writes that take everything, the two servers ask the callback alike and
end alike. -/
theorem servers_agree {round : NativeRound} (unraced : Unraced ioTimeoutInSecs round)
    (accepts : AcceptsAll round.write) (room : LeavesRoom round.onMsg) :
    Agree (asyncServer ioTimeoutInSecs) fiberServer peerAddress round := by
  constructor
  case before =>
    intro b
    simp only [asyncServer, fiberServer, asyncRead_of_unraced _ unraced]
    cases round.read <;> rfl
  case final =>
    intro b given opened
    obtain ⟨chunk, _, rfl⟩ := Option.map_eq_some_iff.mp opened
    have left : ¬maxMsgSize < (exchange peerAddress round (b.receive chunk)).left.size :=
      Nat.not_lt.mpr (room _ _ _ chunk.fits)
    have written : ∀ offered, ((exchange peerAddress round (b.receive chunk)).round.write offered).isOk = true := by
      intro offered
      simp only [exchange, accepts offered]
      rfl
    simp only [Driver.final, asyncServer, fiberServer, left, written, decide_false]
    simp
  case after =>
    intro b
    rfl

/-- A driver tells of each exchange that the callback ran, once. -/
def Driver.Tells (driver : Driver) : Prop :=
  ∀ x, messages (driver.events x) = [(x.given, x.left, x.verdict)]

theorem Driver.Tells.messages {driver : Driver} (tells : driver.Tells) (xs : List Exchange) :
    messages (xs.flatMap driver.events) = xs.map fun x => (x.given, x.left, x.verdict) := by
  induction xs with
  | nil => rfl
  | cons x xs ih =>
    rw [Driver.Tells] at tells
    simp only [Stream.messages] at tells ih ⊢
    simp only [List.flatMap_cons, List.filterMap_append, tells, ih, List.map_cons,
      List.singleton_append]

theorem asyncServer_tells : (asyncServer ioTimeoutInSecs).Tells := by
  intro x
  change messages (slicedReply x) = messages [x.event]
  unfold slicedReply
  split
  · rfl
  · split
    · split
      · rfl
      · cases x.round.write x.left.payload <;> rfl
    · rfl

theorem fiberServer_tells : fiberServer.Tells := by
  intro x
  change messages (wholeReply x) = messages [x.event]
  unfold wholeReply
  split
  · cases x.round.write x.left.buf with
    | ok sent => by_cases some : sent > 0 <;> simp only [some, if_true, if_false] <;> rfl
    | error e => rfl
  · rfl

end BothServers

/-- The async and the fiber server serve these rounds identically: the same runs
of the callback, the same bytes on the wire, and the loops left by the same
read. -/
def ServedAlike (peerAddress : SocketAddr) (ioTimeoutInSecs : F64) (rounds : List NativeRound) :
    Prop :=
  let async := TcpServer.handleTcpConnection peerAddress ioTimeoutInSecs
  let fiber := TcpServerFiber.handleTcpConnection peerAddress
  messages (async rounds).events = messages (fiber rounds).events ∧
    sentBytes (async rounds).events = sentBytes (fiber rounds).events ∧
    ∀ count, (∃ result, (async (rounds.take count)).control = .leave result) ↔
      ∃ result, (fiber (rounds.take count)).control = .leave result

/-- The two servers serve a connection identically exactly when no reply is
shorter than the array and no refusal leaves one. -/
theorem servedAlike_iff (peerAddress : SocketAddr) (ioTimeoutInSecs : F64)
    (rounds : List NativeRound) (unraced : ∀ round ∈ rounds, Unraced ioTimeoutInSecs round)
    (accepts : ∀ round ∈ rounds, AcceptsAll round.write)
    (room : ∀ round ∈ rounds, LeavesRoom round.onMsg) :
    ServedAlike peerAddress ioTimeoutInSecs rounds ↔
      ∀ x ∈ exchanges fiberServer peerAddress (Buffer.new .binary) rounds, x.sentAlike := by
  have agree : ∀ round ∈ rounds, Agree (asyncServer ioTimeoutInSecs) fiberServer peerAddress round :=
    fun round member => servers_agree (unraced round member) (accepts round member)
      (room round member)
  have async := asyncServer_refines peerAddress ioTimeoutInSecs
  have fiber := fiberServer_refines peerAddress
  have asyncEvents := async.run_events rounds (Buffer.new .binary)
  have fiberEvents := fiber.run_events rounds (Buffer.new .binary)
  rw [exchanges_agree agree] at asyncEvents
  have sameCalls : messages (TcpServer.handleTcpConnection peerAddress ioTimeoutInSecs rounds).events =
      messages (TcpServerFiber.handleTcpConnection peerAddress rounds).events := by
    rw [TcpServer.handleTcpConnection, TcpServerFiber.handleTcpConnection]
    exact (congrArg messages asyncEvents).trans
      ((asyncServer_tells.messages _).trans
        ((fiberServer_tells.messages _).symm.trans (congrArg messages fiberEvents).symm))
  have sameEnds : ∀ count,
      (∃ result, (TcpServer.handleTcpConnection peerAddress ioTimeoutInSecs
        (rounds.take count)).control = .leave result) ↔
      ∃ result, (TcpServerFiber.handleTcpConnection peerAddress
        (rounds.take count)).control = .leave result :=
    fun count => async.leave_together fiber
      (fun round member => agree round (List.mem_of_mem_take member)) _
  have one : ∀ x ∈ exchanges fiberServer peerAddress (Buffer.new .binary) rounds,
      sentBytes (slicedReply x) <+: sentBytes (wholeReply x) ∧
        (sentBytes (slicedReply x) = sentBytes (wholeReply x) ↔ x.sentAlike) := by
    intro x member
    have left := exchanges_left_size fiberServer_keepsRoom room (Nat.zero_le _) x member
    obtain ⟨round, inside, given, rfl⟩ := exists_of_mem_exchanges member
    exact sentBytes_sliced_whole (accepts round inside) left
  have sameBytes : sentBytes (TcpServer.handleTcpConnection peerAddress ioTimeoutInSecs rounds).events =
      sentBytes (TcpServerFiber.handleTcpConnection peerAddress rounds).events ↔
      ∀ x ∈ exchanges fiberServer peerAddress (Buffer.new .binary) rounds, x.sentAlike := by
    rw [TcpServer.handleTcpConnection, TcpServerFiber.handleTcpConnection,
      TcpServerFiber.FiberState.new, fiberEvents]
    simp only [id] at asyncEvents
    rw [asyncEvents, sentBytes_flatMap, sentBytes_flatMap]
    exact (flatMap_eq_iff_of_within fun x member => (one x member).1).trans
      (forall₂_congr fun x member => (one x member).2)
  exact ⟨fun alike => sameBytes.mp alike.2.1,
    fun alike => ⟨sameCalls, sameBytes.mpr alike, sameEnds⟩⟩

/-- Two bytes, then a failed read, from a socket that takes every write. -/
def twoThenError (answer : Buffer → Verdict × Buffer) : List NativeRound :=
  [plainRound (.ok ⟨[1, 2], by decide⟩) answer fun offered => .ok offered.length,
    plainRound (.error brokenPipe) answer fun offered => .ok offered.length]

theorem twoThenError_acceptsAll (answer : Buffer → Verdict × Buffer) :
    ∀ round ∈ twoThenError answer, AcceptsAll round.write := by
  simp [twoThenError, plainRound, AcceptsAll]

theorem twoThenError_unraced (answer : Buffer → Verdict × Buffer) :
    ∀ round ∈ twoThenError answer, Unraced (.finite 0) round :=
  fun _ _ => selectTimeout_of_not_positive (by decide) _ _ _

/-- A callback that takes the message and answers nothing is served alike. -/
theorem silent_callback_servedAlike :
    ServedAlike localPeer (.finite 0) (twoThenError fun msg => (.ok (), { msg with size := 0 })) := by
  refine (servedAlike_iff localPeer (.finite 0) _ (twoThenError_unraced _)
    (twoThenError_acceptsAll _) ?_).mpr ?_
  · simp [twoThenError, plainRound, LeavesRoom, OnMessageCallback.run]
  · simp [twoThenError, plainRound, exchanges, fiberServer, Driver.final, exchange,
      Exchange.refused, Exchange.sentAlike, OnMessageCallback.run]

/-- A two-byte echo is two bytes from the one server and the whole array from the
other; a refusal with a reply is nothing from the one and the array from the
other. -/
theorem short_reply_not_servedAlike :
    (∀ round ∈ twoThenError echo,
      Unraced (.finite 0) round ∧ AcceptsAll round.write ∧ LeavesRoom round.onMsg) ∧
    ¬ServedAlike localPeer (.finite 0) (twoThenError echo) ∧
    ¬ServedAlike localPeer (.finite 0) (twoThenError fun msg => (.error ⟨"bye"⟩, msg)) := by
  refine ⟨?_, ?_, ?_⟩
  · intro round member
    refine ⟨twoThenError_unraced _ round member, twoThenError_acceptsAll _ round member, ?_⟩
    rcases List.mem_cons.mp member with rfl | later
    · exact echo_leavesRoom
    · rw [List.mem_singleton.mp later]
      exact echo_leavesRoom
  · intro alike
    have lengths := congrArg List.length alike.2.1
    revert lengths
    decide +kernel
  · intro alike
    have lengths := congrArg List.length alike.2.1
    revert lengths
    decide +kernel

end WolfEngine.Verified
