import WolfEngine.Verified.NativeSession

/-! # Websocket sessions

One round of the websocket loop by what its read yields: nothing, a message that
ends the session, or a text or binary message that is shown to the callback and
answered.  The rounds lead to what holds of whole sessions: which messages are
delivered, what the replies carry, and that the end of the stream is never
noticed.
-/

namespace WolfEngine.Verified

open WolfEngine.Stream TcpServer EventLoop Overlay

/-! ## Rounds -/

/-- What the read of `round` yields, after its race with the timeout. -/
def Reads (ioTimeoutInSecs : F64) (round : WsRound) (res : Option (Except WsError Message)) : Prop :=
  selectTimeout ioTimeoutInSecs round.sleep none round.next = some res

/-- The callback is shown `given`, and `reply` is sent if it agrees: the events,
and whether the session goes on. -/
def wsExchange (peerAddress : SocketAddr) (round : WsRound) (given : Buffer)
    (reply : Buffer → Message) : List WsEvent × Bool :=
  answered (round.onMsg.run round.elapsedSecs peerAddress given)
    (fun e left => ([.message given left (.error e)], false))
    (fun left =>
      ([.message given left (.ok ()), .send (reply left) (round.send (reply left))],
        (round.send (reply left)).isOk))

/-- A round is an exchange: its events are, and it goes round again exactly when
the exchange goes on. -/
structure IsExchange (outcome : Outcome WsState WsEvent (Status WsState))
    (exchange : List WsEvent × Bool) : Prop where
  events : outcome.events = exchange.1
  again : (∃ state, outcome.control = .again state) ↔ exchange.2 = true

@[simp] theorem sized_size (state : WsState) (size : Nat) :
    (state.sized size).msgBuffer.size = size := rfl

@[simp] theorem textGiven_payload (state : WsState) (str : String)
    (fits : (asBytes str).length ≤ maxMsgSize) :
    (textGiven (state.sized (asBytes str).length).msgBuffer str fits).payload = asBytes str :=
  overlay_take (asBytes str) state.msgBuffer.buf

@[simp] theorem binaryGiven_payload (state : WsState) (data : List UInt8)
    (exact : data.length = maxMsgSize) :
    (binaryGiven (state.sized data.length).msgBuffer data exact).payload = data :=
  List.take_length

theorem answered_error {α : Type} (e : Error) (left : Buffer) (refused : Error → Buffer → α)
    (agreed : Buffer → α) : answered (.error e, left) refused agreed = refused e left := rfl

theorem answered_ok {α : Type} (left : Buffer) (refused : Error → Buffer → α)
    (agreed : Buffer → α) : answered (.ok (), left) refused agreed = agreed left := rfl

section Rounds

variable (peerAddress : SocketAddr) {ioTimeoutInSecs : F64} (round : WsRound) (state : WsState)

/-- The text handler is an exchange whose reply, after the reset, is all NULs. -/
theorem handleWsTextGiven_exchange (given : Buffer) {nuls : String}
    (decoded : fromUtf8 (List.replicate maxMsgSize 0) = some nuls) :
    (handleWsTextGiven given peerAddress round state).1 =
        (wsExchange peerAddress round given fun _ => .text nuls).1 ∧
      (handleWsTextGiven given peerAddress round state).2.2 =
        some (wsExchange peerAddress round given fun _ => .text nuls).2 := by
  unfold handleWsTextGiven wsExchange
  obtain ⟨verdict, left⟩ := round.onMsg.run round.elapsedSecs peerAddress given
  cases verdict with
  | error e =>
    rw [answered_error, answered_error]
    exact ⟨rfl, rfl⟩
  | ok agreed =>
    -- rewriting only: nothing may evaluate the decoder on the reset array
    rw [answered_ok, answered_ok, Buffer.reset_buf, decoded]
    cases sent : round.send (.text nuls) <;> simp [sent, Except.isOk, Except.toBool]

/-- The binary branch is an exchange whose reply is the whole array. -/
theorem handleWsBinaryGiven_exchange (given : Buffer) :
    (handleWsBinaryGiven given peerAddress round state).1 =
        (wsExchange peerAddress round given fun left => .binary left.buf).1 ∧
      (handleWsBinaryGiven given peerAddress round state).2.2 =
        (wsExchange peerAddress round given fun left => .binary left.buf).2 := by
  unfold handleWsBinaryGiven wsExchange
  obtain ⟨verdict, left⟩ := round.onMsg.run round.elapsedSecs peerAddress given
  cases verdict with
  | error e =>
    rw [answered_error, answered_error]
    exact ⟨rfl, rfl⟩
  | ok agreed =>
    rw [answered_ok, answered_ok]
    cases round.send (.binary left.buf) <;> simp [Except.isOk, Except.toBool]

variable {round}

/-- A read that yields no message leads straight to the next one. -/
theorem round_of_over {res : Option (Except WsError Message)}
    (reads : Reads ioTimeoutInSecs round res) (ended : ∀ msg, res ≠ some (.ok msg)) :
    handleWsConnectionRound peerAddress ioTimeoutInSecs round state = ⟨[], .again state⟩ := by
  unfold handleWsConnectionRound
  rw [reads]
  rcases res with _ | _ | msg
  · rfl
  · rfl
  · exact absurd rfl (ended msg)

/-- Neither text nor binary: the session ends. -/
theorem round_of_control {msg : Message} (reads : Reads ioTimeoutInSecs round (some (.ok msg)))
    (control : msg.isText = false ∧ msg.isBinary = false) :
    ∃ after, handleWsConnectionRound peerAddress ioTimeoutInSecs round state =
      ⟨[], .leave (.returned after)⟩ := by
  unfold handleWsConnectionRound
  rw [reads]
  cases msg <;> simp_all [Message.isClose, Message.isText, Message.isBinary]

theorem handleWsTextMsg_of_fits {str : String} (fits : (asBytes str).length ≤ maxMsgSize) :
    handleWsTextMsg (.ok str) peerAddress round state =
      handleWsTextGiven (textGiven state.msgBuffer str fits) peerAddress round state :=
  dif_pos fits

theorem handleWsBinaryMsg_of_exact {data : List UInt8} (exact : data.length = maxMsgSize) :
    handleWsBinaryMsg data peerAddress round state =
      handleWsBinaryGiven (binaryGiven state.msgBuffer data exact) peerAddress round state :=
  dif_pos exact

theorem round_text_eq {str : String} (reads : Reads ioTimeoutInSecs round (some (.ok (.text str))))
    (nonempty : (asBytes str).length ≠ 0) (fits : (asBytes str).length ≤ maxMsgSize) :
    handleWsConnectionRound peerAddress ioTimeoutInSecs round state =
      match handleWsTextGiven (textGiven (state.sized (asBytes str).length).msgBuffer str fits)
          peerAddress round (state.sized (asBytes str).length) with
      | (events, after, some true) => ⟨events, .again after⟩
      | (events, after, some false) => ⟨events, .leave (.returned after)⟩
      | (events, _, none) => ⟨events, .leave .undefined⟩ := by
  have small : ¬maxMsgSize < (asBytes str).length := Nat.not_lt.mpr fits
  rw [← handleWsTextMsg_of_fits peerAddress _ fits]
  unfold handleWsConnectionRound
  rw [reads]
  rcases ran : handleWsTextMsg (.ok str) peerAddress round (state.sized (asBytes str).length) with
    ⟨events, after, _ | _ | _⟩
  all_goals
    simp only [Message.isClose, Message.isEmpty, Message.len, Message.isText, Message.isBinary,
      Message.intoText, beq_eq_false_iff_ne.mpr nonempty, Bool.not_false, Bool.or_false,
      Bool.and_self, Bool.false_eq_true, if_false, if_true, gt_iff_lt, sized_size, small, ran]

theorem round_binary_eq {data : List UInt8}
    (reads : Reads ioTimeoutInSecs round (some (.ok (.binary data))))
    (exact : data.length = maxMsgSize) :
    handleWsConnectionRound peerAddress ioTimeoutInSecs round state =
      match handleWsBinaryGiven (binaryGiven (state.sized data.length).msgBuffer data exact)
          peerAddress round (state.sized data.length) with
      | (events, after, true) => ⟨events, .again after⟩
      | (events, after, false) => ⟨events, .leave (.returned after)⟩ := by
  have nonempty : data.length ≠ 0 := by rw [exact]; decide
  have small : ¬maxMsgSize < data.length := Nat.not_lt.mpr exact.le
  rw [← handleWsBinaryMsg_of_exact peerAddress _ exact]
  unfold handleWsConnectionRound
  rw [reads]
  rcases ran : handleWsBinaryMsg data peerAddress round (state.sized data.length) with
    ⟨events, after, _ | _⟩
  all_goals
    simp only [Message.isClose, Message.isEmpty, Message.len, Message.isText, Message.isBinary,
      Message.intoData, beq_eq_false_iff_ne.mpr nonempty, Bool.not_false, Bool.false_or,
      Bool.and_self, Bool.false_eq_true, if_false, if_true, gt_iff_lt, sized_size, small, ran]

theorem round_of_text {str : String} (reads : Reads ioTimeoutInSecs round (some (.ok (.text str))))
    (nonempty : (asBytes str).length ≠ 0) (fits : (asBytes str).length ≤ maxMsgSize)
    {nuls : String} (decoded : fromUtf8 (List.replicate maxMsgSize 0) = some nuls) :
    IsExchange (handleWsConnectionRound peerAddress ioTimeoutInSecs round state)
      (wsExchange peerAddress round (textGiven (state.sized (asBytes str).length).msgBuffer str fits)
        fun _ => .text nuls) := by
  have handled := handleWsTextGiven_exchange peerAddress round (state.sized (asBytes str).length)
    (textGiven (state.sized (asBytes str).length).msgBuffer str fits) decoded
  rw [round_text_eq peerAddress state reads nonempty fits]
  revert handled
  generalize wsExchange peerAddress round _ _ = exchange
  generalize handleWsTextGiven _ _ _ _ = ran
  obtain ⟨events, goesOn⟩ := exchange
  obtain ⟨ranEvents, after, answer⟩ := ran
  rintro ⟨sameEvents, sameAnswer⟩
  cases sameEvents
  cases sameAnswer
  cases goesOn <;> constructor <;> simp

theorem round_of_binary {data : List UInt8}
    (reads : Reads ioTimeoutInSecs round (some (.ok (.binary data))))
    (exact : data.length = maxMsgSize) :
    IsExchange (handleWsConnectionRound peerAddress ioTimeoutInSecs round state)
      (wsExchange peerAddress round (binaryGiven (state.sized data.length).msgBuffer data exact)
        fun left => .binary left.buf) := by
  have handled := handleWsBinaryGiven_exchange peerAddress round (state.sized data.length)
    (binaryGiven (state.sized data.length).msgBuffer data exact)
  rw [round_binary_eq peerAddress state reads exact]
  revert handled
  generalize wsExchange peerAddress round _ _ = exchange
  generalize handleWsBinaryGiven _ _ _ _ = ran
  obtain ⟨events, goesOn⟩ := exchange
  obtain ⟨ranEvents, after, answer⟩ := ran
  rintro ⟨sameEvents, sameAnswer⟩
  cases sameEvents
  cases sameAnswer
  cases goesOn <;> constructor <;> simp

/-- A binary message of any other size is never shown to the callback. -/
theorem round_of_short_binary {data : List UInt8}
    (reads : Reads ioTimeoutInSecs round (some (.ok (.binary data))))
    (other : data.length ≠ maxMsgSize) :
    ∃ after, handleWsConnectionRound peerAddress ioTimeoutInSecs round state =
      ⟨[], .leave (.returned after)⟩ := by
  unfold handleWsConnectionRound
  rw [reads]
  simp only [Message.isClose, Message.isEmpty, Message.len, Message.isText, Message.isBinary,
    Message.intoData, Bool.false_or, Bool.and_true, Bool.false_eq_true, if_false, if_true,
    gt_iff_lt]
  split
  · split
    · exact ⟨_, rfl⟩
    · simp only [handleWsBinaryMsg, other, dif_neg, not_false_eq_true]
      exact ⟨_, rfl⟩
  · exact ⟨_, rfl⟩

end Rounds

/-! ## The end of the stream -/

/-- The read yields no message: the stream ended, the timeout elapsed, or the
protocol failed. -/
def ReadOver (ioTimeoutInSecs : F64) (round : WsRound) : Prop :=
  ∃ res, Reads ioTimeoutInSecs round res ∧ ∀ msg, res ≠ some (.ok msg)

/-- No session that is still in its loop is left by a read that yields no message,
nor by any number of them. -/
theorem ws_never_leaves_when_over (peerAddress : SocketAddr) (ioTimeoutInSecs : F64)
    (rounds : List WsRound) (state : WsState)
    (inside : (wsLoop peerAddress ioTimeoutInSecs rounds).control = .again state) :
    (∀ round, ReadOver ioTimeoutInSecs round →
      (wsLoop peerAddress ioTimeoutInSecs (rounds ++ [round])).control = .again state) ∧
    (∀ inputs, (∀ i, ReadOver ioTimeoutInSecs (inputs i)) →
      ¬Leaves (handleWsConnectionRound peerAddress ioTimeoutInSecs) inputs state) := by
  constructor
  · rintro round ⟨res, reads, ended⟩
    rw [wsLoop, run_snoc round inside, round_of_over _ _ reads ended]
  · rintro inputs ended ⟨count, result, left⟩
    have stays : ∃ state', True ∧ (run (handleWsConnectionRound peerAddress ioTimeoutInSecs)
        (firstRounds inputs count) state).control = .again state' := by
      refine stays_of_step (fun _ => True) ?_ trivial
      intro round member s _
      obtain ⟨i, _, rfl⟩ := List.mem_map.mp member
      obtain ⟨res, reads, none⟩ := ended i
      exact ⟨s, trivial, by rw [round_of_over _ _ reads none]⟩
    obtain ⟨state', _, again⟩ := stays
    rw [again] at left
    cases left

/-- A round that reads `next`, for a callback that echoes and a peer that takes
every frame. -/
def wsRound (sleep : Sleep) (next : Option (Except WsError Message)) : WsRound where
  sleep := sleep
  next := next
  elapsedSecs := 0
  onMsg := ⟨fun _ _ => echo⟩
  send := fun _ => .ok ()

/-- The connection was reset. -/
def connectionReset : WsError :=
  ⟨"Io(Kind(ConnectionReset))", ⟨"IO error: connection reset"⟩⟩

theorem reset_connection_never_left :
    ¬Leaves (handleWsConnectionRound localPeer (.finite 0))
      (fun _ => wsRound .unpolled (some (.error connectionReset))) .new :=
  (ws_never_leaves_when_over localPeer (.finite 0) [] .new rfl).2 _
    fun _ => ⟨_, selectTimeout_of_not_positive (by decide) _ _ _, nofun⟩

/-- A stream that ended is read for ever. -/
theorem ended_stream_never_left :
    ¬Leaves (handleWsConnectionRound localPeer (.finite 0)) (fun _ => wsRound .unpolled none)
      .new := by
  rintro ⟨count, result, left⟩
  have stays : ∃ state', state' = WsState.new ∧
      (run (handleWsConnectionRound localPeer (.finite 0))
        (firstRounds (fun _ => wsRound .unpolled none) count) .new).control = .again state' := by
    refine stays_of_step (fun s => s = WsState.new) ?_ rfl
    rintro round member s rfl
    obtain ⟨i, _, rfl⟩ := List.mem_map.mp member
    exact ⟨.new, rfl, rfl⟩
  obtain ⟨state', _, again⟩ := stays
  rw [again] at left
  cases left

/-! ## Delivery -/

/-- A close frame, an empty message or an oversize one. -/
def endsSession (msg : Message) : Bool :=
  msg.isClose || msg.isEmpty || maxMsgSize < msg.len

/-- A message that should be delivered. -/
def isDue (msg : Message) : Bool :=
  (msg.isText || msg.isBinary) && !endsSession msg

def kindOf (msg : Message) : BufferType := if msg.isText then .text else .binary

/-- What the callback was shown, run by run. -/
def wsCalls (events : List WsEvent) : List (BufferType × List UInt8) :=
  events.filterMap fun
    | .message given _ _ => some (given.type_, given.payload)
    | .send _ _ => none

/-- After the rounds `pre`, none of which read a message that ends the session,
`round` reads the due message `msg`. -/
structure DueAt (ioTimeoutInSecs : F64) (rounds pre : List WsRound) (round : WsRound)
    (msg : Message) : Prop where
  split : ∃ post, rounds = pre ++ round :: post
  lasting : ∀ earlier ∈ pre, ∀ m, Reads ioTimeoutInSecs earlier (some (.ok m)) →
    endsSession m = false
  reads : Reads ioTimeoutInSecs round (some (.ok msg))
  due : isDue msg = true

/-- `round` leads to exactly one run of the callback, on `msg`, and the session
goes on. -/
def Delivered (peerAddress : SocketAddr) (ioTimeoutInSecs : F64) (pre : List WsRound)
    (round : WsRound) (msg : Message) : Prop :=
  ∃ state state', (wsLoop peerAddress ioTimeoutInSecs pre).control = .again state ∧
    (handleWsConnectionRound peerAddress ioTimeoutInSecs round state).control = .again state' ∧
    wsCalls (handleWsConnectionRound peerAddress ioTimeoutInSecs round state).events =
      [(kindOf msg, msg.intoData)]

/-- A callback that keeps agreeing, in front of a peer that takes every frame. -/
def Agreeable (round : WsRound) : Prop :=
  (∀ secs peer given, (round.onMsg.run secs peer given).1 = .ok ()) ∧
    ∀ msg, round.send msg = .ok ()

section Delivery

variable (peerAddress : SocketAddr) {ioTimeoutInSecs : F64} {round : WsRound}

theorem wsExchange_of_agreeable (agreeable : Agreeable round) (given : Buffer)
    (reply : Buffer → Message) :
    (wsExchange peerAddress round given reply).2 = true ∧
      wsCalls (wsExchange peerAddress round given reply).1 = [(given.type_, given.payload)] := by
  unfold wsExchange
  have agreed := agreeable.1 round.elapsedSecs peerAddress given
  generalize round.onMsg.run round.elapsedSecs peerAddress given = answer at agreed ⊢
  obtain ⟨verdict, left⟩ := answer
  cases agreed
  rw [answered_ok, agreeable.2]
  exact ⟨rfl, rfl⟩

theorem round_of_due (agreeable : Agreeable round) {msg : Message}
    (reads : Reads ioTimeoutInSecs round (some (.ok msg))) (due : isDue msg = true)
    (exact : msg.isBinary = true → msg.len = maxMsgSize) (state : WsState) :
    ∃ state', (handleWsConnectionRound peerAddress ioTimeoutInSecs round state).control =
        .again state' ∧
      wsCalls (handleWsConnectionRound peerAddress ioTimeoutInSecs round state).events =
        [(kindOf msg, msg.intoData)] := by
  obtain ⟨nuls, decoded⟩ := fromUtf8_zeros maxMsgSize
  cases msg with
  | text str =>
    simp only [isDue, endsSession, Message.isText, Message.isBinary, Message.isClose,
      Message.isEmpty, Message.len, Bool.or_false, Bool.false_or, Bool.true_and,
      Bool.not_eq_true', Bool.or_eq_false_iff, beq_eq_false_iff_ne] at due
    have fits : (asBytes str).length ≤ maxMsgSize := Nat.not_lt.mp (of_decide_eq_false due.2)
    have ran := round_of_text peerAddress state reads due.1 fits
      decoded
    obtain ⟨goesOn, calls⟩ := wsExchange_of_agreeable peerAddress agreeable
      (textGiven (state.sized (asBytes str).length).msgBuffer str fits) fun _ => .text nuls
    obtain ⟨state', again⟩ := ran.again.mpr goesOn
    refine ⟨state', again, ?_⟩
    rw [ran.events, calls, textGiven_payload]
    rfl
  | binary data =>
    have full : data.length = maxMsgSize := exact rfl
    have ran := round_of_binary peerAddress state reads full
    obtain ⟨goesOn, calls⟩ := wsExchange_of_agreeable peerAddress agreeable
      (binaryGiven (state.sized data.length).msgBuffer data full) fun left => .binary left.buf
    obtain ⟨state', again⟩ := ran.again.mpr goesOn
    refine ⟨state', again, ?_⟩
    rw [ran.events, calls, binaryGiven_payload]
    rfl
  | ping data => cases due
  | pong data => cases due
  | close frame => cases due

/-- A round whose message does not end the session goes round again, if the loop
has a branch for the message. -/
theorem round_of_lasting (agreeable : Agreeable round) {res : Option (Except WsError Message)}
    (reads : Reads ioTimeoutInSecs round res)
    (lasting : ∀ msg, res = some (.ok msg) → endsSession msg = false)
    (handled : ∀ msg, res = some (.ok msg) → msg.isText ∨ msg.isBinary)
    (exact : ∀ msg, res = some (.ok msg) → msg.isBinary = true → msg.len = maxMsgSize)
    (state : WsState) :
    ∃ state', (handleWsConnectionRound peerAddress ioTimeoutInSecs round state).control =
      .again state' := by
  by_cases ended : ∀ msg, res ≠ some (.ok msg)
  · exact ⟨state, by rw [round_of_over _ _ reads ended]⟩
  · obtain ⟨msg, read⟩ := not_forall_not.mp ended
    subst read
    have due : isDue msg = true := by
      simp [isDue, lasting msg rfl, handled msg rfl]
    obtain ⟨state', again, _⟩ := round_of_due peerAddress agreeable reads due
      (exact msg rfl) state
    exact ⟨state', again⟩

/-- A delivered message lets one see what the loop was given before it. -/
theorem handled_of_delivered {pre : List WsRound} {msg : Message}
    (delivered : Delivered peerAddress ioTimeoutInSecs pre round msg) {earlier : WsRound}
    (member : earlier ∈ pre) {m : Message} (reads : Reads ioTimeoutInSecs earlier (some (.ok m))) :
    m.isText ∨ m.isBinary := by
  obtain ⟨_, _, inside, _, _⟩ := delivered
  by_contra control
  obtain ⟨s, s', goesOn⟩ := again_of_mem inside member
  obtain ⟨result, ran⟩ := round_of_control peerAddress s reads (by simpa using control)
  rw [ran] at goesOn
  cases goesOn

theorem exact_of_delivered {pre : List WsRound} {msg : Message}
    (delivered : Delivered peerAddress ioTimeoutInSecs pre round msg)
    (reads : Reads ioTimeoutInSecs round (some (.ok msg))) (binary : msg.isBinary = true) :
    msg.len = maxMsgSize := by
  obtain ⟨state, _, _, again, _⟩ := delivered
  cases msg with
  | binary data =>
    by_contra other
    obtain ⟨result, ran⟩ := round_of_short_binary peerAddress state reads other
    rw [ran] at again
    cases again
  | text str => cases binary
  | ping data => cases binary
  | pong data => cases binary
  | close frame => cases binary

end Delivery

/-- Every due message is delivered exactly when the session brings no ping or pong
before it and binary messages in the full size of the array only. -/
theorem due_messages_delivered_iff (peerAddress : SocketAddr) (ioTimeoutInSecs : F64)
    (rounds : List WsRound) (opens : ∀ round ∈ rounds, ∃ res, Reads ioTimeoutInSecs round res)
    (agreeable : ∀ round ∈ rounds, Agreeable round) :
    (∀ pre round msg, DueAt ioTimeoutInSecs rounds pre round msg →
      Delivered peerAddress ioTimeoutInSecs pre round msg) ↔
    (∀ pre round msg, DueAt ioTimeoutInSecs rounds pre round msg →
      (∀ earlier ∈ pre, ∀ m, Reads ioTimeoutInSecs earlier (some (.ok m)) →
        m.isText ∨ m.isBinary) ∧
      (msg.isBinary = true → msg.len = maxMsgSize)) := by
  constructor
  · intro delivers pre round msg dueAt
    have delivered := delivers pre round msg dueAt
    exact ⟨fun earlier member m reads => handled_of_delivered peerAddress delivered member reads,
      exact_of_delivered peerAddress delivered dueAt.reads⟩
  · intro fits pre round msg dueAt
    obtain ⟨handled, exact⟩ := fits pre round msg dueAt
    obtain ⟨post, split⟩ := dueAt.split
    have member : ∀ earlier ∈ pre, earlier ∈ rounds := by
      intro earlier inside
      rw [split]
      exact List.mem_append_left _ inside
    have stays : ∃ state, True ∧ (run (handleWsConnectionRound peerAddress ioTimeoutInSecs) pre
        .new).control = .again state := by
      refine stays_of_step (fun _ => True) ?_ trivial
      intro earlier inside s _
      obtain ⟨res, reads⟩ := opens earlier (member earlier inside)
      have dueEarlier : ∀ m, res = some (.ok m) → m.isBinary = true → m.len = maxMsgSize := by
        rintro m rfl binary
        obtain ⟨front, back, place⟩ := List.append_of_mem inside
        refine (fits front earlier m ⟨⟨back ++ round :: post, ?_⟩, ?_, reads, ?_⟩).2 binary
        · rw [split, place, List.append_assoc, List.cons_append]
        · intro r before
          exact dueAt.lasting r (place ▸ List.mem_append_left _ before)
        · simp [isDue, binary, dueAt.lasting earlier inside m reads]
      obtain ⟨s', again⟩ := round_of_lasting peerAddress
        (agreeable earlier (member earlier inside)) reads
        (fun m read => dueAt.lasting earlier inside m (read ▸ reads))
        (fun m read => handled earlier inside m (read ▸ reads)) dueEarlier s
      exact ⟨s', trivial, again⟩
    obtain ⟨state, _, inside⟩ := stays
    have own : round ∈ rounds := by rw [split]; simp
    obtain ⟨state', again, calls⟩ := round_of_due peerAddress
      (agreeable round own) dueAt.reads dueAt.due exact state
    exact ⟨state, state', inside, again, calls⟩

/-- A session of one message. -/
def sessionOf (msg : Message) : List WsRound := [wsRound .unpolled (some (.ok msg))]

theorem reads_sessionOf {msg msg' : Message} {round : WsRound} (member : round ∈ sessionOf msg) :
    Reads (.finite 0) round (some (.ok msg')) ↔ msg' = msg := by
  rw [List.mem_singleton.mp member, Reads, selectTimeout_of_not_positive (by decide)]
  simp [wsRound, eq_comm]

theorem agreeable_sessionOf {msg : Message} {round : WsRound} (member : round ∈ sessionOf msg) :
    Agreeable round := by
  rw [List.mem_singleton.mp member]
  exact ⟨fun _ _ _ => rfl, fun _ => rfl⟩

theorem dueAt_sessionOf {msg : Message} (due : isDue msg = true) :
    DueAt (.finite 0) (sessionOf msg) [] (wsRound .unpolled (some (.ok msg))) msg :=
  ⟨⟨[], rfl⟩, fun _ earlier => absurd earlier List.not_mem_nil, (reads_sessionOf (List.mem_singleton_self _)).mpr rfl, due⟩

theorem text_message_delivered :
    Delivered localPeer (.finite 0) [] (wsRound .unpolled (some (.ok (.text "a")))) (.text "a") := by
  refine (due_messages_delivered_iff localPeer (.finite 0) (sessionOf (.text "a")) ?_ ?_).mpr ?_
    [] _ _ (dueAt_sessionOf (by decide))
  · exact fun round member => ⟨_, (reads_sessionOf member).mpr rfl⟩
  · exact fun round member => agreeable_sessionOf member
  · intro pre round msg dueAt
    obtain ⟨post, split⟩ := dueAt.split
    have one := congrArg List.length split
    simp only [sessionOf, List.length_append, List.length_cons, List.length_nil] at one
    have front : pre = [] := List.length_eq_zero_iff.mp (by omega)
    subst front
    refine ⟨fun _ earlier => absurd earlier List.not_mem_nil, ?_⟩
    rw [(reads_sessionOf (by rw [split]; exact List.mem_cons_self)).mp dueAt.reads]
    nofun

/-- A one-byte binary message is due, and ends the session. -/
theorem short_binary_not_delivered :
    DueAt (.finite 0) (sessionOf (.binary [7])) [] (wsRound .unpolled (some (.ok (.binary [7]))))
      (.binary [7]) ∧
    (∀ round ∈ sessionOf (.binary [7]), Agreeable round) ∧
    ¬Delivered localPeer (.finite 0) [] (wsRound .unpolled (some (.ok (.binary [7]))))
      (.binary [7]) := by
  have dueAt : DueAt (.finite 0) (sessionOf (.binary [7])) [] _ (.binary [7]) :=
    dueAt_sessionOf (by decide)
  refine ⟨dueAt, fun round member => agreeable_sessionOf member, ?_⟩
  rintro ⟨state, state', _, again, _⟩
  obtain ⟨result, ran⟩ := round_of_short_binary localPeer state
    dueAt.reads (by decide)
  rw [ran] at again
  cases again

/-! ## Replies -/

/-- The frames sent in a round. -/
def wsReplies (events : List WsEvent) : List Message :=
  events.filterMap fun
    | .message _ _ _ => none
    | .send msg _ => some msg

/-- The one reply to `msg` carries what the callback left; a text that is none ends
the session instead. -/
def RepliesWith (msg : Message) (left : Buffer)
    (outcome : Outcome WsState WsEvent (Status WsState)) : Prop :=
  if msg.isText then
    match fromUtf8 left.payload with
    | some str => wsReplies outcome.events = [.text str]
    | none => wsReplies outcome.events = [] ∧
        ∃ state, outcome.control = .leave (.returned state) ∧ state.closeCode = .invalid
  else
    wsReplies outcome.events = [.binary left.payload]

/-- The reply that is sent whatever the callback left, is what it left. -/
def ReplyFits (msg : Message) (left : Buffer) : Prop :=
  left.size = maxMsgSize ∧ (msg.isText → left.buf = List.replicate maxMsgSize 0)

/-- After `pre`, `round` reads `msg`, and the callback agrees and leaves a reply. -/
structure AnsweredAt (peerAddress : SocketAddr) (ioTimeoutInSecs : F64) (rounds pre : List WsRound)
    (round : WsRound) (state : WsState) (msg : Message) (left : Buffer) : Prop where
  split : ∃ post, rounds = pre ++ round :: post
  inside : (wsLoop peerAddress ioTimeoutInSecs pre).control = .again state
  reads : Reads ioTimeoutInSecs round (some (.ok msg))
  agreed : ∃ given, .message given left (.ok ()) ∈
    (handleWsConnectionRound peerAddress ioTimeoutInSecs round state).events
  nonempty : 0 < left.size
  room : left.size ≤ maxMsgSize

section Replies

variable {peerAddress : SocketAddr} {ioTimeoutInSecs : F64} {round : WsRound} {state : WsState}

theorem wsReplies_of_agreed {given given' left : Buffer} {reply : Buffer → Message}
    (agreed : .message given' left (.ok ()) ∈ (wsExchange peerAddress round given reply).1) :
    wsReplies (wsExchange peerAddress round given reply).1 = [reply left] := by
  revert agreed
  unfold wsExchange
  obtain ⟨verdict, left'⟩ := round.onMsg.run round.elapsedSecs peerAddress given
  cases verdict with
  | error e =>
    rw [answered_error]
    simp
  | ok agreed =>
    rw [answered_ok]
    intro member
    obtain ⟨_, same⟩ : given' = given ∧ left = left' := by simpa using member
    rw [same]
    rfl

/-- A message that ends the session shows nothing to the outside. -/
theorem round_of_ending (peerAddress : SocketAddr) (state : WsState) {msg : Message} (reads : Reads ioTimeoutInSecs round (some (.ok msg)))
    (ending : endsSession msg = true) :
    ∃ after, handleWsConnectionRound peerAddress ioTimeoutInSecs round state =
      ⟨[], .leave (.returned after)⟩ := by
  unfold handleWsConnectionRound
  rw [reads]
  dsimp only
  split
  · exact ⟨_, rfl⟩
  next notClose =>
    split
    next nonempty =>
      have oversize : (state.sized msg.len).msgBuffer.size > maxMsgSize := by
        simp only [Bool.and_eq_true, Bool.not_eq_true'] at nonempty
        simp only [endsSession, notClose, nonempty.1, Bool.false_or] at ending
        exact of_decide_eq_true ending
      rw [if_pos oversize]
      exact ⟨_, rfl⟩
    · exact ⟨_, rfl⟩

/-- A callback that agreed was shown a text or a full binary message; its reply is
all NULs, or the whole array. -/
theorem replies_of_agreed {msg : Message} {given left : Buffer}
    (reads : Reads ioTimeoutInSecs round (some (.ok msg)))
    (agreed : .message given left (.ok ()) ∈
      (handleWsConnectionRound peerAddress ioTimeoutInSecs round state).events)
    {nuls : String} (decoded : fromUtf8 (List.replicate maxMsgSize 0) = some nuls) :
    wsReplies (handleWsConnectionRound peerAddress ioTimeoutInSecs round state).events =
      [if msg.isText then .text nuls else .binary left.buf] := by
  have silent : ∀ result, handleWsConnectionRound peerAddress ioTimeoutInSecs round state ≠
      ⟨[], .leave result⟩ := by
    intro result ran
    rw [ran] at agreed
    cases agreed
  have lasting : endsSession msg = false := by
    by_contra ending
    obtain ⟨result, ran⟩ := round_of_ending peerAddress state reads
      (by simpa using ending)
    exact silent _ ran
  cases msg with
  | text str =>
    simp only [endsSession, Message.isClose, Message.isEmpty, Message.len, Bool.false_or,
      Bool.or_eq_false_iff, beq_eq_false_iff_ne] at lasting
    have fits : (asBytes str).length ≤ maxMsgSize := Nat.not_lt.mp (of_decide_eq_false lasting.2)
    have ran := round_of_text peerAddress state reads lasting.1 fits
      decoded
    rw [ran.events] at agreed ⊢
    exact wsReplies_of_agreed agreed
  | binary data =>
    by_cases full : data.length = maxMsgSize
    · have ran := round_of_binary peerAddress state reads full
      rw [ran.events] at agreed ⊢
      exact wsReplies_of_agreed agreed
    · obtain ⟨result, ran⟩ := round_of_short_binary peerAddress state
        reads full
      exact absurd ran (silent _)
  | ping data =>
    obtain ⟨result, ran⟩ := round_of_control peerAddress state reads
      ⟨rfl, rfl⟩
    exact absurd ran (silent _)
  | pong data =>
    obtain ⟨result, ran⟩ := round_of_control peerAddress state reads
      ⟨rfl, rfl⟩
    exact absurd ran (silent _)
  | close frame => cases lasting

theorem repliesWith_iff {msg : Message} {left : Buffer}
    {outcome : Outcome WsState WsEvent (Status WsState)} (room : left.size ≤ maxMsgSize)
    {nuls : String} (decoded : fromUtf8 (List.replicate maxMsgSize 0) = some nuls)
    (replies : wsReplies outcome.events = [if msg.isText then .text nuls else .binary left.buf]) :
    RepliesWith msg left outcome ↔ ReplyFits msg left := by
  have payload := Buffer.payload_eq_buf_iff room
  unfold RepliesWith ReplyFits
  rw [replies]
  cases text : msg.isText with
  | false => simp [← payload, eq_comm]
  | true =>
    simp only [if_true, forall_const]
    have zeros : left.payload = List.replicate maxMsgSize 0 ↔
        left.size = maxMsgSize ∧ left.buf = List.replicate maxMsgSize 0 := by
      constructor
      · intro same
        have full : left.size = maxMsgSize := by
          rw [← Buffer.payload_length room, same, List.length_replicate]
        exact ⟨full, (payload.mpr full).symm.trans same⟩
      · rintro ⟨full, same⟩
        rw [payload.mpr full, same]
    rw [← zeros]
    cases read : fromUtf8 left.payload with
    | none =>
      simp only [List.cons_ne_nil, false_and, false_iff]
      intro same
      rw [same, decoded] at read
      cases read
    | some str =>
      simp only [List.cons.injEq, and_true, Message.text.injEq]
      rw [← asBytes_of_fromUtf8 read, ← asBytes_of_fromUtf8 decoded]
      exact ⟨fun same => by rw [same], fun same => asBytes_injective same.symm⟩

end Replies

/-- The replies of a session carry what the callback left exactly when that is what
is sent anyway: the whole array, and for a text 1024 NULs. -/
theorem replies_carry_payload_iff (peerAddress : SocketAddr) (ioTimeoutInSecs : F64)
    (rounds : List WsRound) :
    (∀ pre round state msg left,
      AnsweredAt peerAddress ioTimeoutInSecs rounds pre round state msg left →
      RepliesWith msg left
        (handleWsConnectionRound peerAddress ioTimeoutInSecs round state)) ↔
    (∀ pre round state msg left,
      AnsweredAt peerAddress ioTimeoutInSecs rounds pre round state msg left →
      ReplyFits msg left) := by
  obtain ⟨nuls, decoded⟩ := fromUtf8_zeros maxMsgSize
  have one : ∀ pre round state msg left,
      AnsweredAt peerAddress ioTimeoutInSecs rounds pre round state msg left →
      (RepliesWith msg left (handleWsConnectionRound peerAddress ioTimeoutInSecs round state) ↔
        ReplyFits msg left) := by
    intro pre round state msg left at_
    obtain ⟨given, agreed⟩ := at_.agreed
    exact repliesWith_iff at_.room decoded (replies_of_agreed at_.reads agreed decoded)
  constructor
  · intro replies pre round state msg left at_
    exact (one pre round state msg left at_).mp (replies pre round state msg left at_)
  · intro fits pre round state msg left at_
    exact (one pre round state msg left at_).mpr (fits pre round state msg left at_)

/-- What an echo of the text `a` leaves. -/
def echoedText : Buffer :=
  textGiven (WsState.new.sized (asBytes "a").length).msgBuffer "a" (by decide)

/-- The echo of a one-byte text is a frame of NULs. -/
theorem echoed_text_not_carried :
    AnsweredAt localPeer (.finite 0) (sessionOf (.text "a")) []
      (wsRound .unpolled (some (.ok (.text "a")))) .new (.text "a") echoedText ∧
    ¬RepliesWith (.text "a") echoedText
      (handleWsConnectionRound localPeer (.finite 0)
        (wsRound .unpolled (some (.ok (.text "a")))) .new) := by
  obtain ⟨nuls, decoded⟩ := fromUtf8_zeros maxMsgSize
  have reads : Reads (.finite 0) (wsRound .unpolled (some (.ok (.text "a"))))
      (some (.ok (.text "a"))) := (reads_sessionOf (List.mem_singleton_self _)).mpr rfl
  have ran := round_of_text localPeer .new reads (by decide)
    (by decide) decoded
  have agreed : .message echoedText echoedText (.ok ()) ∈
      (handleWsConnectionRound localPeer (.finite 0)
        (wsRound .unpolled (some (.ok (.text "a")))) .new).events := by
    rw [ran.events]
    exact List.mem_cons_self
  have size : echoedText.size = 1 := by decide
  refine ⟨⟨⟨[], rfl⟩, rfl, reads, ⟨_, agreed⟩, ?_, ?_⟩, ?_⟩
  · rw [size]; decide
  · rw [size]; decide
  · rw [repliesWith_iff (by rw [size]; decide) decoded (replies_of_agreed reads agreed decoded)]
    rintro ⟨full, _⟩
    rw [size] at full
    cases full

end WolfEngine.Verified
