import WolfEngine.Stream.Udp
import WolfEngine.Verified.NativeReplies

/-! # What a UDP socket sends and when it receives

The server decides on a send by the size of what it read, the client goes on to a
receive by the size of what it sends, and both send the whole array.
-/

namespace WolfEngine.Verified

open WolfEngine.Stream WolfEngine.Stream.Udp EventLoop

/-! ## The server -/

def sentDatagram? : UdpEvent → Option (SocketAddr × List UInt8)
  | .send peer offered (.ok _) => some (peer, offered)
  | _ => none

/-- The datagrams put on the wire, with their targets. -/
def sentDatagrams (events : List UdpEvent) : List (SocketAddr × List UInt8) :=
  events.filterMap sentDatagram?

/-- The server loop over `rounds`. -/
def serverLoop (readWriteTimeoutInSecs : F64) (rounds : List UdpRound) :
    Outcome Buffer UdpEvent (Status String) :=
  run (serverRound readWriteTimeoutInSecs) rounds (Buffer.new .binary)

/-- After `before`, the answer to a datagram of `peer` is what the callback left, and a
refusal ends the loop. -/
def AnsweredExactly (peer : SocketAddr) (answer : Verdict × Buffer)
    (before outcome : Outcome Buffer UdpEvent (Status String)) : Prop :=
  match answer.1 with
  | .ok () => sentDatagrams outcome.events = sentDatagrams before.events ++
      if answer.2.size > 0 then [(peer, answer.2.payload)] else []
  | .error _ => sentDatagrams outcome.events = sentDatagrams before.events ∧
      ∃ closeMsg, outcome.control = .leave closeMsg

/-- Some bytes arrived and the send that they cause succeeds. -/
def GoesOut (readWriteTimeoutInSecs : F64) (round : UdpRound) (peer : SocketAddr) (data : Chunk)
    (left : Buffer) : Prop :=
  0 < data.bytes.length ∧
    ∃ sent, send readWriteTimeoutInSecs round peer left.buf = some (.ok sent)

/-- An agreed reply is the whole array where a datagram goes out, and empty where none
does. -/
def AnswerFits (readWriteTimeoutInSecs : F64) (round : UdpRound) (peer : SocketAddr)
    (data : Chunk) (answer : Verdict × Buffer) : Prop :=
  answer.1 = .ok () →
    (GoesOut readWriteTimeoutInSecs round peer data answer.2 → answer.2.size = maxMsgSize) ∧
    (¬GoesOut readWriteTimeoutInSecs round peer data answer.2 → answer.2.size = 0)

theorem sentDatagrams_append (first second : List UdpEvent) :
    sentDatagrams (first ++ second) = sentDatagrams first ++ sentDatagrams second :=
  List.filterMap_append

section Round

variable {readWriteTimeoutInSecs : F64} {round : UdpRound} {msg left : Buffer} {data : Chunk}
  {peer : SocketAddr}

theorem serverRound_sends
    (reads : read readWriteTimeoutInSecs round = some (.ok (data, peer)))
    (agrees : round.onMessage.run round.elapsedSecs peer (msg.receive data) = (.ok (), left))
    (goesOut : GoesOut readWriteTimeoutInSecs round peer data left) :
    sentDatagrams (serverRound readWriteTimeoutInSecs round msg).events = [(peer, left.buf)] := by
  obtain ⟨filled, sent, sends⟩ := goesOut
  simp only [serverRound, reads, agrees, gt_iff_lt, if_pos filled, sends]
  rfl

theorem serverRound_silent
    (reads : read readWriteTimeoutInSecs round = some (.ok (data, peer)))
    (agrees : round.onMessage.run round.elapsedSecs peer (msg.receive data) = (.ok (), left))
    (stays : ¬GoesOut readWriteTimeoutInSecs round peer data left) :
    sentDatagrams (serverRound readWriteTimeoutInSecs round msg).events = [] := by
  simp only [serverRound, reads, agrees, gt_iff_lt]
  by_cases filled : 0 < data.bytes.length
  · rw [if_pos filled]
    rcases sends : send readWriteTimeoutInSecs round peer left.buf with _ | e | sent
    · rfl
    · rfl
    · exact absurd ⟨filled, sent, sends⟩ stays
  · rw [if_neg filled]
    rfl

theorem serverRound_refused {e : Error}
    (reads : read readWriteTimeoutInSecs round = some (.ok (data, peer)))
    (refuses : round.onMessage.run round.elapsedSecs peer (msg.receive data) = (.error e, left)) :
    sentDatagrams (serverRound readWriteTimeoutInSecs round msg).events = [] ∧
      ∃ closeMsg, (serverRound readWriteTimeoutInSecs round msg).control = .leave closeMsg := by
  simp only [serverRound, reads, refuses]
  exact ⟨rfl, _, rfl⟩

end Round

/-- After every history, a datagram is answered with exactly what the callback left if
and only if that is nothing, or the whole array in answer to some bytes. -/
theorem answered_exactly_iff {readWriteTimeoutInSecs : F64} {pre : List UdpRound} {msg : Buffer}
    (inside : (serverLoop readWriteTimeoutInSecs pre).control = .again msg) {round : UdpRound}
    {data : Chunk} {peer : SocketAddr}
    (reads : read readWriteTimeoutInSecs round = some (.ok (data, peer)))
    {answer : Verdict × Buffer}
    (answers : round.onMessage.run round.elapsedSecs peer (msg.receive data) = answer)
    (room : answer.2.size ≤ maxMsgSize) :
    AnsweredExactly peer answer (serverLoop readWriteTimeoutInSecs pre)
        (serverLoop readWriteTimeoutInSecs (pre ++ [round])) ↔
      AnswerFits readWriteTimeoutInSecs round peer data answer := by
  have ran : serverLoop readWriteTimeoutInSecs (pre ++ [round]) = _ := run_snoc round inside
  obtain ⟨verdict, left⟩ := answer
  unfold AnsweredExactly
  rw [ran, sentDatagrams_append]
  cases verdict with
  | error e =>
    obtain ⟨silent, leaves⟩ := serverRound_refused reads answers
    refine iff_of_true ⟨?_, leaves⟩ nofun
    rw [silent, List.append_nil]
    rfl
  | ok agreed =>
    have whole : left.payload = left.buf ↔ left.size = maxMsgSize := Buffer.payload_eq_buf_iff room
    have reply : sentDatagrams (serverRound readWriteTimeoutInSecs round msg).events =
        (if left.size > 0 then [(peer, left.payload)] else []) ↔
        AnswerFits readWriteTimeoutInSecs round peer data (.ok (), left) := by
      simp only [AnswerFits, forall_const]
      by_cases goesOut : GoesOut readWriteTimeoutInSecs round peer data left
      · rw [serverRound_sends reads answers goesOut]
        by_cases filled : 0 < left.size
        · simp [filled, goesOut, eq_comm (a := left.buf), whole]
        · have empty : left.size ≠ maxMsgSize := by
            unfold maxMsgSize
            omega
          simp [filled, goesOut, empty]
      · rw [serverRound_silent reads answers goesOut]
        by_cases filled : 0 < left.size
        · simp [filled, goesOut, Nat.ne_of_gt filled]
        · simp [goesOut, Nat.eq_zero_of_not_pos filled]
    rw [← reply, serverLoop, List.append_cancel_left_eq]

def oneByte : Chunk := ⟨[7], Nat.le_of_ble_eq_true rfl⟩

/-- A round of a socket without a timeout, in which one byte arrives from `localPeer`
and every send succeeds. -/
def oneByteRound (onMessage : OnMessageCallback) : UdpRound where
  elapsedSecs := 0
  recvSleep := .unpolled
  recvFrom := .ok (oneByte, localPeer)
  onMessage := onMessage
  sendSleep := .unpolled
  sendTo := fun bytes _ => .ok bytes.length

theorem read_oneByteRound (onMessage : OnMessageCallback) :
    read (.finite 0) (oneByteRound onMessage) =
      some (.ok (oneByte, localPeer)) :=
  selectTimeout_of_not_positive rfl _ _ _

theorem goesOut_oneByteRound (onMessage : OnMessageCallback) (left : Buffer) :
    GoesOut (.finite 0) (oneByteRound onMessage) localPeer oneByte left :=
  ⟨Nat.one_pos, left.buf.length, selectTimeout_of_not_positive rfl _ _ _⟩

/-- The buffer in which the first datagram is shown. -/
def oneByteGiven : Buffer := (Buffer.new .binary).receive oneByte

/-- What a callback that replies with the whole array leaves. -/
def fullReply : Buffer := { oneByteGiven with size := maxMsgSize }

theorem full_reply_answered_exactly :
    AnsweredExactly localPeer (.ok (), fullReply) (serverLoop (.finite 0) [])
      (serverLoop (.finite 0)
        ([] ++ [oneByteRound ⟨fun _ _ msg => (.ok (), { msg with size := maxMsgSize })⟩])) := by
  have answers : (oneByteRound ⟨fun _ _ msg => (.ok (), { msg with size := maxMsgSize })⟩).onMessage.run 0
      localPeer oneByteGiven = (.ok (), fullReply) := rfl
  refine (answered_exactly_iff rfl (read_oneByteRound _) answers (Nat.le_refl _)).mpr fun _ => ?_
  exact ⟨fun _ => rfl, fun stays => absurd (goesOut_oneByteRound _ _) stays⟩

/-- The echo of one byte is a datagram of 1024. -/
theorem short_reply_not_answered_exactly :
    ¬AnsweredExactly localPeer (.ok (), oneByteGiven) (serverLoop (.finite 0) [])
      (serverLoop (.finite 0) ([] ++ [oneByteRound ⟨fun _ _ msg => (.ok (), msg)⟩])) := by
  intro exactly
  have sent : sentDatagrams (serverRound (.finite 0) (oneByteRound ⟨fun _ _ msg => (.ok (), msg)⟩)
      (Buffer.new .binary)).events = [(localPeer, oneByteGiven.buf)] :=
    serverRound_sends (read_oneByteRound _) rfl (goesOut_oneByteRound _ _)
  rw [AnsweredExactly, serverLoop, serverLoop, List.nil_append, run_singleton, sent] at exactly
  have whole : oneByteGiven.buf = oneByteGiven.payload := by
    have datagrams : [(localPeer, oneByteGiven.buf)] = [(localPeer, oneByteGiven.payload)] := exactly
    exact congrArg Prod.snd (List.cons.inj datagrams).1
  have lengths := congrArg List.length whole
  rw [oneByteGiven.bufLength, Buffer.payload_length (by decide)] at lengths
  exact absurd lengths (by decide)

/-! ## The client -/

/-- Waiting for one message, after `events`. -/
def receiveOne (readWriteTimeoutInSecs : F64) (round : UdpRound) (events : List UdpEvent)
    (left : Buffer) : Outcome Buffer UdpEvent (Status String) :=
  match read readWriteTimeoutInSecs round with
  | none => ⟨events, .leave .panicked⟩
  | some (.error e) => ⟨events ++ [.receive (.error e)], .leave (.returned (debugErr e.debug))⟩
  | some (.ok (data, sender)) =>
    ⟨events ++ [.receive (.ok (data, sender))], .again (left.receive data)⟩

/-- The protocol of the TCP client, over datagrams: ask the callback, send its reply if
there is one, then receive one message. -/
def alternatingRound (readWriteTimeoutInSecs : F64) (peer : SocketAddr) :
    Body UdpRound Buffer UdpEvent (Status String) := fun round msg =>
  match round.onMessage.run round.elapsedSecs peer msg with
  | (.error e, left) =>
    ⟨[.message peer msg left (.error e)],
      .leave (.returned (clientCloseRequest (debugErr e.debug)))⟩
  | (.ok (), left) =>
    let said : List UdpEvent := [.message peer msg left (.ok ())]
    if left.size > 0 then
      match send readWriteTimeoutInSecs round peer left.payload with
      | none => ⟨said, .leave .panicked⟩
      | some (.error e) =>
        ⟨said ++ [.send peer left.payload (.error e)], .leave (.returned (debugErr e.debug))⟩
      | some (.ok sent) =>
        receiveOne readWriteTimeoutInSecs round (said ++ [.send peer left.payload (.ok sent)]) left
    else
      receiveOne readWriteTimeoutInSecs round said left

/-- The callback refuses; or it leaves the whole array and is answered with as many
bytes, if the round gets that far. -/
def AlternatesAt (readWriteTimeoutInSecs : F64) (peer : SocketAddr) (round : UdpRound)
    (msg : Buffer) : Prop :=
  ∀ left, round.onMessage.run round.elapsedSecs peer msg = (.ok (), left) →
    0 < left.size ∧
    (send readWriteTimeoutInSecs round peer left.buf = none ∨
      (left.size = maxMsgSize ∧
        ∀ sent data sender, send readWriteTimeoutInSecs round peer left.buf = some (.ok sent) →
          read readWriteTimeoutInSecs round = some (.ok (data, sender)) →
          data.bytes.length = maxMsgSize))

section Client

variable {readWriteTimeoutInSecs : F64} {peer : SocketAddr} {round : UdpRound} {msg left : Buffer}

/-- Whether a send panics does not depend on what is sent. -/
theorem send_eq_none_iff (bytes bytes' : List UInt8) :
    send readWriteTimeoutInSecs round peer bytes = none ↔
      send readWriteTimeoutInSecs round peer bytes' = none := by
  unfold send selectTimeout
  split
  · cases round.sendSleep <;> simp
  · simp

/-- Reading into the array and setting the size is all the same where the size is already
right. -/
theorem fill_eq_receive {data : Chunk} (same : left.size = data.bytes.length) :
    left.fill data = left.receive data := by
  unfold Buffer.receive
  rw [← same]
  rfl

theorem clientRound_eq_alternating (alternates : AlternatesAt readWriteTimeoutInSecs peer round msg) :
    clientRound readWriteTimeoutInSecs peer round msg =
      alternatingRound readWriteTimeoutInSecs peer round msg := by
  rcases ran : round.onMessage.run round.elapsedSecs peer msg with ⟨_ | ⟨⟨⟩⟩, left⟩
  · simp only [clientRound, alternatingRound, ran]
  · obtain ⟨filled, panics | ⟨full, answered⟩⟩ := alternates left ran
    · have panics' := (send_eq_none_iff left.buf left.payload).mp panics
      simp only [clientRound, alternatingRound, ran, gt_iff_lt, if_pos filled, panics, panics']
    · have whole : left.payload = left.buf :=
        (Buffer.payload_eq_buf_iff (Nat.le_of_eq full)).mpr full
      simp only [clientRound, alternatingRound, ran, gt_iff_lt, if_pos filled, whole, receiveOne]
      rcases sends : send readWriteTimeoutInSecs round peer left.buf with _ | e | sent
      · rfl
      · rfl
      · dsimp only
        rcases reads : read readWriteTimeoutInSecs round with _ | e | ⟨data, sender⟩
        · rfl
        · rfl
        · have same := answered sent data sender sends reads
          dsimp only
          rw [fill_eq_receive (full.trans same.symm)]
          rfl

theorem clientRound_head (round : UdpRound) (msg : Buffer) :
    ∃ left verdict rest, (clientRound readWriteTimeoutInSecs peer round msg).events =
      .message peer msg left verdict :: rest := by
  unfold clientRound
  rcases round.onMessage.run round.elapsedSecs peer msg with ⟨_ | ⟨⟨⟩⟩, left⟩
  · exact ⟨_, _, _, rfl⟩
  · dsimp only
    split
    · rcases send readWriteTimeoutInSecs round peer left.buf with _ | e | sent
      · exact ⟨_, _, _, rfl⟩
      · exact ⟨_, _, _, rfl⟩
      · dsimp only
        rcases read readWriteTimeoutInSecs round with _ | e | ⟨data, sender⟩ <;>
          exact ⟨_, _, _, rfl⟩
    · exact ⟨_, _, _, rfl⟩

theorem receiveOne_events (readWriteTimeoutInSecs : F64) (round : UdpRound) (event : UdpEvent) (events : List UdpEvent)
    (left : Buffer) :
    ∃ rest, (receiveOne readWriteTimeoutInSecs round (event :: events) left).events =
      event :: rest := by
  unfold receiveOne
  rcases read readWriteTimeoutInSecs round with _ | e | ⟨data, sender⟩ <;> exact ⟨_, rfl⟩

theorem alternatingRound_head (round : UdpRound) (msg : Buffer) :
    ∃ left verdict rest, (alternatingRound readWriteTimeoutInSecs peer round msg).events =
      .message peer msg left verdict :: rest := by
  unfold alternatingRound
  rcases round.onMessage.run round.elapsedSecs peer msg with ⟨_ | ⟨⟨⟩⟩, left⟩
  · exact ⟨_, _, _, rfl⟩
  · dsimp only
    split
    · rcases send readWriteTimeoutInSecs round peer left.payload with _ | e | sent
      · exact ⟨_, _, _, rfl⟩
      · exact ⟨_, _, _, rfl⟩
      · obtain ⟨rest, events⟩ := receiveOne_events readWriteTimeoutInSecs round _ _ left
        exact ⟨_, _, _, events⟩
    · obtain ⟨rest, events⟩ := receiveOne_events readWriteTimeoutInSecs round _ _ left
      exact ⟨_, _, _, events⟩

theorem clientRound_second (ran : round.onMessage.run round.elapsedSecs peer msg = (.ok (), left))
    (filled : 0 < left.size) (goes : send readWriteTimeoutInSecs round peer left.buf ≠ none) :
    ∃ answer rest, (clientRound readWriteTimeoutInSecs peer round msg).events =
      .message peer msg left (.ok ()) :: .send peer left.buf answer :: rest := by
  simp only [clientRound, ran, gt_iff_lt, if_pos filled]
  rcases sends : send readWriteTimeoutInSecs round peer left.buf with _ | e | sent
  · exact absurd sends goes
  · exact ⟨_, _, rfl⟩
  · dsimp only
    rcases read readWriteTimeoutInSecs round with _ | e | ⟨data, sender⟩ <;> exact ⟨_, _, rfl⟩

theorem alternatingRound_second
    (ran : round.onMessage.run round.elapsedSecs peer msg = (.ok (), left))
    (filled : 0 < left.size) (goes : send readWriteTimeoutInSecs round peer left.buf ≠ none) :
    ∃ answer rest, (alternatingRound readWriteTimeoutInSecs peer round msg).events =
      .message peer msg left (.ok ()) :: .send peer left.payload answer :: rest := by
  have goes' := fun panics => goes ((send_eq_none_iff left.payload left.buf).mp panics)
  simp only [alternatingRound, ran, gt_iff_lt, if_pos filled]
  rcases sends : send readWriteTimeoutInSecs round peer left.payload with _ | e | sent
  · exact absurd sends goes'
  · exact ⟨_, _, rfl⟩
  · dsimp only [receiveOne]
    rcases read readWriteTimeoutInSecs round with _ | e | ⟨data, sender⟩ <;> exact ⟨_, _, rfl⟩

/-- The first event of a run is the callback on the buffer it starts from. -/
theorem run_head {body : Body UdpRound Buffer UdpEvent (Status String)}
    (opens : ∀ round msg, ∃ left verdict rest,
      (body round msg).events = .message peer msg left verdict :: rest)
    (round : UdpRound) (rounds : List UdpRound) (msg : Buffer) :
    ∃ left verdict rest, (run body (round :: rounds) msg).events =
      .message peer msg left verdict :: rest := by
  obtain ⟨left, verdict, rest, events⟩ := opens round msg
  obtain ⟨more, continued⟩ := andThen_events (body round msg) (run body rounds)
  exact ⟨left, verdict, rest ++ more, by rw [run_cons, continued, events, List.cons_append]⟩

/-- A round without a receive is not followed by one. -/
theorem run_not_receive (rounds : List UdpRound) (msg : Buffer)
    (answer : Except IoError (Chunk × SocketAddr)) (more : List UdpEvent) :
    (run (clientRound readWriteTimeoutInSecs peer) rounds msg).events ≠ .receive answer :: more := by
  intro events
  cases rounds with
  | nil => cases events
  | cons round rounds =>
    obtain ⟨left, verdict, rest, opened⟩ := run_head clientRound_head round rounds msg
    rw [opened] at events
    cases events

/-- Runs that are the same start from buffers of one size. -/
theorem size_eq_of_run_eq {rounds : List UdpRound} {msg' : Buffer}
    (same : run (clientRound readWriteTimeoutInSecs peer) rounds msg =
      run (alternatingRound readWriteTimeoutInSecs peer) rounds msg') : msg.size = msg'.size := by
  cases rounds with
  | nil =>
    have buffers : msg = msg' := Control.again.inj (congrArg Outcome.control same)
    rw [buffers]
  | cons round rounds =>
    obtain ⟨left, verdict, rest, opened⟩ := run_head clientRound_head round rounds msg
    obtain ⟨left', verdict', rest', opened'⟩ := run_head alternatingRound_head round rounds msg'
    rw [same, opened'] at opened
    rw [(UdpEvent.message.inj (List.cons.inj opened).1).2.1]

section SameRuns

variable {rounds : List UdpRound}
  (same : run (clientRound readWriteTimeoutInSecs peer) (round :: rounds) msg =
    run (alternatingRound readWriteTimeoutInSecs peer) (round :: rounds) msg)
  (ran : round.onMessage.run round.elapsedSecs peer msg = (.ok (), left))

include same ran

/-- Without a send the client goes straight to the next callback, and the protocol to a
receive. -/
theorem filled_of_run_eq : 0 < left.size := by
  by_contra filled
  rw [run_cons, run_cons] at same
  have client : clientRound readWriteTimeoutInSecs peer round msg =
      ⟨[.message peer msg left (.ok ())], .again left⟩ := by
    simp only [clientRound, ran, gt_iff_lt, if_neg filled]
  have alternating : alternatingRound readWriteTimeoutInSecs peer round msg =
      receiveOne readWriteTimeoutInSecs round [.message peer msg left (.ok ())] left := by
    simp only [alternatingRound, ran, gt_iff_lt, if_neg filled]
  rw [client, andThen_of_again _ rfl, alternating] at same
  unfold receiveOne at same
  rcases reads : read readWriteTimeoutInSecs round with _ | e | ⟨data, sender⟩
  · rw [reads, andThen_of_leave _ rfl] at same
    obtain ⟨events, control⟩ := Outcome.mk.inj same
    have nothing := List.append_cancel_left (events.trans (List.append_nil _).symm)
    cases rounds with
    | nil => cases control
    | cons next rounds =>
      obtain ⟨_, _, _, opened⟩ := run_head clientRound_head next rounds left
      rw [opened] at nothing
      cases nothing
  · rw [reads, andThen_of_leave _ rfl] at same
    exact run_not_receive rounds left _ _ (List.append_cancel_left (Outcome.mk.inj same).1)
  · rw [reads, andThen_of_again _ rfl] at same
    have events := (Outcome.mk.inj same).1
    rw [List.append_assoc] at events
    exact run_not_receive rounds left _ _ (List.append_cancel_left events)

/-- The second event of the two runs shows what was sent. -/
theorem payload_of_run_eq (filled : 0 < left.size)
    (goes : send readWriteTimeoutInSecs round peer left.buf ≠ none) : left.payload = left.buf := by
  rw [run_cons, run_cons] at same
  obtain ⟨answer, rest, events⟩ := clientRound_second ran filled goes
  obtain ⟨answer', rest', events'⟩ := alternatingRound_second ran filled goes
  obtain ⟨more, continued⟩ := andThen_events (clientRound readWriteTimeoutInSecs peer round msg)
    (run (clientRound readWriteTimeoutInSecs peer) rounds)
  obtain ⟨more', continued'⟩ := andThen_events
    (alternatingRound readWriteTimeoutInSecs peer round msg)
    (run (alternatingRound readWriteTimeoutInSecs peer) rounds)
  rw [same, continued', events, events'] at continued
  simp only [List.cons_append, List.cons.injEq, UdpEvent.send.injEq] at continued
  exact continued.2.1.2.1

/-- The next callback shows the size that was received. -/
theorem received_of_run_eq (filled : 0 < left.size) (whole : left.payload = left.buf) {sent : Nat}
    {data : Chunk} {sender : SocketAddr}
    (sends : send readWriteTimeoutInSecs round peer left.buf = some (.ok sent))
    (reads : read readWriteTimeoutInSecs round = some (.ok (data, sender))) :
    left.size = data.bytes.length := by
  have client : clientRound readWriteTimeoutInSecs peer round msg =
      ⟨[.message peer msg left (.ok ()), .send peer left.buf (.ok sent),
        .receive (.ok (data, sender))], .again (left.fill data)⟩ := by
    simp only [clientRound, ran, gt_iff_lt, if_pos filled, sends, reads]
    rfl
  have alternating : alternatingRound readWriteTimeoutInSecs peer round msg =
      ⟨[.message peer msg left (.ok ()), .send peer left.buf (.ok sent),
        .receive (.ok (data, sender))], .again (left.receive data)⟩ := by
    simp only [alternatingRound, ran, gt_iff_lt, if_pos filled, whole, sends, receiveOne, reads]
    rfl
  rw [run_cons, run_cons, client, alternating, andThen_of_again _ rfl, andThen_of_again _ rfl] at same
  obtain ⟨events, control⟩ := Outcome.mk.inj same
  have rest : run (clientRound readWriteTimeoutInSecs peer) rounds (left.fill data) =
      run (alternatingRound readWriteTimeoutInSecs peer) rounds (left.receive data) :=
    congrArg₂ Outcome.mk (List.append_cancel_left events) control
  exact size_eq_of_run_eq rest

end SameRuns

/-- Two runs that are the same had the same first exchange. -/
theorem alternatesAt_of_run_eq {rounds : List UdpRound}
    (same : run (clientRound readWriteTimeoutInSecs peer) (round :: rounds) msg =
      run (alternatingRound readWriteTimeoutInSecs peer) (round :: rounds) msg)
    (room : (round.onMessage.run round.elapsedSecs peer msg).2.size ≤ maxMsgSize) :
    AlternatesAt readWriteTimeoutInSecs peer round msg := by
  intro left ran
  rw [ran] at room
  have filled := filled_of_run_eq same ran
  refine ⟨filled, ?_⟩
  by_cases goes : send readWriteTimeoutInSecs round peer left.buf = none
  · exact .inl goes
  · have whole := payload_of_run_eq same ran filled goes
    have full : left.size = maxMsgSize := (Buffer.payload_eq_buf_iff room).mp whole
    refine .inr ⟨full, fun sent data sender sends reads => ?_⟩
    rw [← received_of_run_eq same ran filled whole sends reads, full]

/-- The next round starts from the size that the callback left. -/
theorem clientRound_again {next : Buffer}
    (goes : (clientRound readWriteTimeoutInSecs peer round msg).control = .again next) :
    next.size = (round.onMessage.run round.elapsedSecs peer msg).2.size := by
  unfold clientRound at goes
  rcases ran : round.onMessage.run round.elapsedSecs peer msg with ⟨_ | ⟨⟨⟩⟩, left⟩
  · rw [ran] at goes
    cases goes
  · rw [ran] at goes
    dsimp only at goes
    split at goes
    · rcases sends : send readWriteTimeoutInSecs round peer left.buf with _ | e | sent
      · rw [sends] at goes
        cases goes
      · rw [sends] at goes
        cases goes
      · rw [sends] at goes
        dsimp only at goes
        rcases reads : read readWriteTimeoutInSecs round with _ | e | ⟨data, sender⟩ <;>
          rw [reads] at goes <;> cases goes
        rfl
    · cases goes
      rfl

/-- From any buffer, the runs agree exactly when every round that is reached alternates. -/
theorem run_eq_alternating_iff (rounds : List UdpRound)
    (room : ∀ round ∈ rounds, LeavesRoom round.onMessage) (start : Buffer)
    (fits : start.size ≤ maxMsgSize) :
    run (clientRound readWriteTimeoutInSecs peer) rounds start =
        run (alternatingRound readWriteTimeoutInSecs peer) rounds start ↔
      ∀ pre round post msg, rounds = pre ++ round :: post →
        (run (clientRound readWriteTimeoutInSecs peer) pre start).control = .again msg →
        AlternatesAt readWriteTimeoutInSecs peer round msg := by
  induction rounds generalizing start with
  | nil => simp
  | cons first rounds ih =>
    have here := room first List.mem_cons_self first.elapsedSecs peer start fits
    have later := fun round member => room round (List.mem_cons_of_mem first member)
    constructor
    · intro same pre round post msg split inside
      have alternates := alternatesAt_of_run_eq same here
      cases pre with
      | nil =>
        cases split
        cases inside
        exact alternates
      | cons head pre =>
        obtain ⟨rfl, rfl⟩ := List.cons.inj split
        obtain ⟨next, goes, inside⟩ := run_cons_again_iff.mp inside
        have small : next.size ≤ maxMsgSize := by
          rw [clientRound_again goes]
          exact here
        rw [run_cons, run_cons, ← clientRound_eq_alternating alternates, andThen_of_again _ goes,
          andThen_of_again _ goes] at same
        obtain ⟨events, control⟩ := Outcome.mk.inj same
        refine (ih later next small).mp ?_ pre round post msg rfl inside
        exact congrArg₂ Outcome.mk (List.append_cancel_left events) control
    · intro alternates
      have atStart := alternates [] first rounds start rfl rfl
      rw [run_cons, run_cons, ← clientRound_eq_alternating atStart]
      cases goes : (clientRound readWriteTimeoutInSecs peer first start).control with
      | leave result => rw [andThen_of_leave _ goes, andThen_of_leave _ goes]
      | again next =>
        have small : next.size ≤ maxMsgSize := by
          rw [clientRound_again goes]
          exact here
        rw [andThen_of_again _ goes, andThen_of_again _ goes, (ih later next small).mpr]
        intro pre round post msg split inside
        exact alternates (first :: pre) round post msg (by rw [split, List.cons_append])
          (run_cons_again_iff.mpr ⟨next, goes, inside⟩)

end Client

/-- The client loop runs as the alternating protocol does if and only if every callback
that is reached refuses, or leaves the whole array and is answered with as many bytes. -/
theorem client_alternates_iff (readWriteTimeoutInSecs : F64) (peer : SocketAddr)
    (rounds : List UdpRound) (room : ∀ round ∈ rounds, LeavesRoom round.onMessage) :
    run (clientRound readWriteTimeoutInSecs peer) rounds (Buffer.new .binary) =
        run (alternatingRound readWriteTimeoutInSecs peer) rounds (Buffer.new .binary) ↔
      ∀ pre round post msg, rounds = pre ++ round :: post →
        (run (clientRound readWriteTimeoutInSecs peer) pre (Buffer.new .binary)).control =
          .again msg →
        AlternatesAt readWriteTimeoutInSecs peer round msg :=
  run_eq_alternating_iff rounds room _ (Nat.zero_le _)

/-- A round of a client in which `data` arrives after the callback. -/
def clientAnswered (data : Chunk) (onMessage : OnMessageCallback) : UdpRound where
  elapsedSecs := 0
  recvSleep := .unpolled
  recvFrom := .ok (data, localPeer)
  onMessage := onMessage
  sendSleep := .unpolled
  sendTo := fun bytes _ => .ok bytes.length

/-- A callback that replies with the whole array. -/
def replyAll : OnMessageCallback := ⟨fun _ _ msg => (.ok (), { msg with size := maxMsgSize })⟩

/-- A message as long as the array. -/
def fullMessage : Chunk := ⟨List.replicate maxMsgSize 0, Nat.le_of_eq List.length_replicate⟩

theorem full_messages_alternate :
    run (clientRound (.finite 0) localPeer)
        [clientAnswered fullMessage replyAll, clientAnswered fullMessage replyAll]
        (Buffer.new .binary) =
      run (alternatingRound (.finite 0) localPeer)
        [clientAnswered fullMessage replyAll, clientAnswered fullMessage replyAll]
        (Buffer.new .binary) := by
  have same : ∀ round ∈ [clientAnswered fullMessage replyAll, clientAnswered fullMessage replyAll],
      round = clientAnswered fullMessage replyAll := by
    intro round member
    simpa using member
  refine (client_alternates_iff (.finite 0) localPeer _ ?_).mpr ?_
  · intro round member secs peer given fits
    rw [same round member]
    exact Nat.le_refl _
  · intro pre round post msg split inside left ran
    rw [same round (by rw [split]; simp)] at ran ⊢
    cases ran
    refine ⟨(by decide : 0 < maxMsgSize), .inr ⟨rfl, fun sent data sender sends reads => ?_⟩⟩
    rw [Udp.read, selectTimeout_of_not_positive rfl] at reads
    cases reads
    exact List.length_replicate

/-- A callback with nothing to send is never shown what arrives, and one byte goes out as
1024. -/
theorem silent_client_never_receives :
    run (clientRound (.finite 0) localPeer)
        [clientAnswered fullMessage ⟨fun _ _ msg => (.ok (), msg)⟩] (Buffer.new .binary) ≠
      run (alternatingRound (.finite 0) localPeer)
        [clientAnswered fullMessage ⟨fun _ _ msg => (.ok (), msg)⟩] (Buffer.new .binary) ∧
    run (clientRound (.finite 0) localPeer)
        [clientAnswered fullMessage ⟨fun _ _ msg => (.ok (), { msg with size := 1 })⟩]
        (Buffer.new .binary) ≠
      run (alternatingRound (.finite 0) localPeer)
        [clientAnswered fullMessage ⟨fun _ _ msg => (.ok (), { msg with size := 1 })⟩]
        (Buffer.new .binary) := by
  constructor
  · intro same
    have alternates := alternatesAt_of_run_eq same (Nat.zero_le _)
    exact absurd (alternates _ rfl).1 (by decide)
  · intro same
    have alternates := alternatesAt_of_run_eq same (by decide)
    rcases (alternates _ rfl).2 with panics | ⟨full, _⟩
    · rw [send, selectTimeout_of_not_positive rfl] at panics
      cases panics
    · exact absurd full (by decide)

end WolfEngine.Verified
