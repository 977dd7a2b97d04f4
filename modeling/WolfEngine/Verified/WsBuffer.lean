import WolfEngine.Verified.WsSession

/-! # What a websocket callback finds in its buffer

The front of the array is the message, whatever was in the buffer before.  The
rest is what the last message left there: nothing after a text, whose handler
resets the array, and all that its callback left after a binary message.
-/

namespace WolfEngine.Verified

open WolfEngine.Stream TcpServer EventLoop Overlay

/-- `given` is `msg`, as a callback is to find it. -/
structure Carries (given : Buffer) (msg : Message) : Prop where
  size : given.size = msg.len
  fits : given.size ≤ maxMsgSize
  kind : (msg.isText ∧ given.type_ = .text) ∨ (msg.isBinary ∧ given.type_ = .binary)
  payload : given.payload = msg.intoData

/-- What the callback of `round` leaves of `given`. -/
def leftBy (peerAddress : SocketAddr) (round : WsRound) (given : Buffer) : Buffer :=
  (round.onMsg.run round.elapsedSecs peerAddress given).2

/-- The round shows `given` for `msg`, over what `state` had in the array. -/
structure ShowsMessage (peerAddress : SocketAddr) (round : WsRound) (state : WsState)
    (msg : Message) (given : Buffer) (outcome : Outcome WsState WsEvent (Status WsState)) :
    Prop where
  carries : Carries given msg
  whole : ∀ data, msg = .binary data → ∃ exact, given = ⟨.binary, maxMsgSize, data, exact⟩
  rest : given.buf.drop msg.len = state.msgBuffer.buf.drop msg.len
  shown : ∃ left verdict, .message given left verdict ∈ outcome.events
  only : ∀ given' left verdict, .message given' left verdict ∈ outcome.events → given' = given
  next : ∀ after, outcome.control = .again after → after.msgBuffer.buf =
    if msg.isText then List.replicate maxMsgSize 0 else (leftBy peerAddress round given).buf
  defined : outcome.control ≠ .leave .undefined

/-- All that a round of the loop can come to. -/
inductive RoundCase (peerAddress : SocketAddr) (ioTimeoutInSecs : F64) (round : WsRound)
    (state : WsState) (outcome : Outcome WsState WsEvent (Status WsState)) : Prop
  | quiet (nothing : ∀ msg, ¬Reads ioTimeoutInSecs round (some (.ok msg)))
      (same : outcome = ⟨[], .again state⟩)
  | ends (result : Status WsState) (left : outcome = ⟨[], .leave result⟩)
      (defined : result ≠ .undefined)
  | shows (msg : Message) (given : Buffer) (reads : Reads ioTimeoutInSecs round (some (.ok msg)))
      (shows : ShowsMessage peerAddress round state msg given outcome)

theorem Reads.functional {ioTimeoutInSecs : F64} {round : WsRound}
    {res res' : Option (Except WsError Message)} (reads : Reads ioTimeoutInSecs round res)
    (reads' : Reads ioTimeoutInSecs round res') : res = res' :=
  Option.some.inj (reads.symm.trans reads')

section Rounds

variable (peerAddress : SocketAddr) {ioTimeoutInSecs : F64} (round : WsRound) (state : WsState)

theorem shown_of_exchange {given : Buffer} {reply : Buffer → Message} :
    (∃ left verdict, .message given left verdict ∈
      (wsExchange peerAddress round given reply).1) ∧
    ∀ given' left verdict, .message given' left verdict ∈
      (wsExchange peerAddress round given reply).1 → given' = given := by
  unfold wsExchange
  obtain ⟨verdict, left⟩ := round.onMsg.run round.elapsedSecs peerAddress given
  cases verdict with
  | error e =>
    rw [answered_error]
    exact ⟨⟨left, _, List.mem_cons_self⟩, by simp +contextual⟩
  | ok agreed =>
    rw [answered_ok]
    exact ⟨⟨left, _, List.mem_cons_self⟩, by simp +contextual⟩

/-- A text that was answered leaves the array reset. -/
theorem handleWsTextGiven_next (given : Buffer)
    (goesOn : (handleWsTextGiven given peerAddress round state).2.2 = some true) :
    (handleWsTextGiven given peerAddress round state).2.1.msgBuffer.buf =
      List.replicate maxMsgSize 0 := by
  obtain ⟨nuls, decoded⟩ := fromUtf8_zeros maxMsgSize
  revert goesOn
  unfold handleWsTextGiven
  obtain ⟨verdict, left⟩ := round.onMsg.run round.elapsedSecs peerAddress given
  cases verdict with
  | error e =>
    rw [answered_error]
    nofun
  | ok agreed =>
    rw [answered_ok, Buffer.reset_buf, decoded]
    dsimp only
    cases round.send (.text nuls) with
    | error e => nofun
    | ok sent => exact fun _ => rfl

theorem handleWsBinaryGiven_next (given : Buffer)
    (goesOn : (handleWsBinaryGiven given peerAddress round state).2.2 = true) :
    (handleWsBinaryGiven given peerAddress round state).2.1.msgBuffer =
      leftBy peerAddress round given := by
  revert goesOn
  unfold handleWsBinaryGiven leftBy
  obtain ⟨verdict, left⟩ := round.onMsg.run round.elapsedSecs peerAddress given
  cases verdict with
  | error e =>
    rw [answered_error]
    nofun
  | ok agreed =>
    rw [answered_ok]
    cases round.send (.binary left.buf) with
    | error e => nofun
    | ok sent => exact fun _ => rfl

variable {round}

theorem round_shows_text {str : String}
    (reads : Reads ioTimeoutInSecs round (some (.ok (.text str))))
    (nonempty : (asBytes str).length ≠ 0) (fits : (asBytes str).length ≤ maxMsgSize) :
    ShowsMessage peerAddress round state (.text str)
      (textGiven (state.sized (asBytes str).length).msgBuffer str fits)
      (handleWsConnectionRound peerAddress ioTimeoutInSecs round state) := by
  obtain ⟨nuls, decoded⟩ := fromUtf8_zeros maxMsgSize
  have exchange := round_of_text peerAddress state reads nonempty fits decoded
  have answer := (handleWsTextGiven_exchange peerAddress round
    (state.sized (asBytes str).length)
    (textGiven (state.sized (asBytes str).length).msgBuffer str fits) decoded).2
  have next := handleWsTextGiven_next peerAddress round (state.sized (asBytes str).length)
    (textGiven (state.sized (asBytes str).length).msgBuffer str fits)
  constructor
  case carries => exact ⟨rfl, fits, .inl ⟨rfl, rfl⟩, textGiven_payload state str fits⟩
  case whole =>
    intro data binary
    cases binary
  case rest =>
    exact List.drop_left
  case shown =>
    rw [exchange.events]
    exact (shown_of_exchange peerAddress round).1
  case only =>
    rw [exchange.events]
    exact (shown_of_exchange peerAddress round).2
  case next =>
    rw [round_text_eq peerAddress state reads nonempty fits]
    revert next
    generalize handleWsTextGiven _ _ _ _ = ran
    obtain ⟨events, left, answer⟩ := ran
    intro next after again
    rcases answer with _ | _ | _
    · cases again
    · cases again
    · cases again
      exact next rfl
  case defined =>
    rw [round_text_eq peerAddress state reads nonempty fits]
    revert answer
    generalize handleWsTextGiven _ _ _ _ = ran
    obtain ⟨events, left, answer⟩ := ran
    intro same
    dsimp only at same
    rw [same]
    intro undefined
    generalize (wsExchange peerAddress round _ _).2 = goesOn at undefined
    cases goesOn <;> cases undefined

theorem round_shows_binary {data : List UInt8}
    (reads : Reads ioTimeoutInSecs round (some (.ok (.binary data))))
    (exact : data.length = maxMsgSize) :
    ShowsMessage peerAddress round state (.binary data)
      (binaryGiven (state.sized data.length).msgBuffer data exact)
      (handleWsConnectionRound peerAddress ioTimeoutInSecs round state) := by
  have exchange := round_of_binary peerAddress state reads exact
  have next := handleWsBinaryGiven_next peerAddress round (state.sized data.length)
    (binaryGiven (state.sized data.length).msgBuffer data exact)
  constructor
  case carries => exact ⟨rfl, exact.le, .inr ⟨rfl, rfl⟩, binaryGiven_payload state data exact⟩
  case whole =>
    rintro _ ⟨⟩
    exact ⟨exact, by simp only [binaryGiven, WsState.sized, exact]⟩
  case rest =>
    have all : state.msgBuffer.buf.length ≤ data.length := by
      rw [exact, state.msgBuffer.bufLength]
    exact List.drop_length.trans (List.drop_eq_nil_of_le all).symm
  case shown =>
    rw [exchange.events]
    exact (shown_of_exchange peerAddress round).1
  case only =>
    rw [exchange.events]
    exact (shown_of_exchange peerAddress round).2
  case next =>
    rw [round_binary_eq peerAddress state reads exact]
    revert next
    generalize handleWsBinaryGiven _ _ _ _ = ran
    obtain ⟨events, left, answer⟩ := ran
    intro next after again
    cases answer with
    | false => cases again
    | true =>
      cases again
      exact congrArg Buffer.buf (next rfl)
  case defined =>
    rw [round_binary_eq peerAddress state reads exact]
    generalize handleWsBinaryGiven _ _ _ _ = ran
    obtain ⟨events, left, answer⟩ := ran
    intro undefined
    cases answer <;> cases undefined

theorem round_of_panic
    (panics : selectTimeout ioTimeoutInSecs round.sleep none round.next = none) :
    handleWsConnectionRound peerAddress ioTimeoutInSecs round state = ⟨[], .leave .panicked⟩ := by
  unfold handleWsConnectionRound
  rw [panics]

end Rounds

theorem wsRound_cases (peerAddress : SocketAddr) (ioTimeoutInSecs : F64) (round : WsRound)
    (state : WsState) : RoundCase peerAddress ioTimeoutInSecs round state
      (handleWsConnectionRound peerAddress ioTimeoutInSecs round state) := by
  cases reads : selectTimeout ioTimeoutInSecs round.sleep none round.next with
  | none => exact .ends _ (round_of_panic peerAddress state reads) nofun
  | some res =>
    have reads : Reads ioTimeoutInSecs round res := reads
    by_cases ended : ∀ msg, res ≠ some (.ok msg)
    · exact .quiet (fun msg other => ended msg (reads.functional other))
        (round_of_over peerAddress state reads ended)
    · obtain ⟨msg, rfl⟩ := not_forall_not.mp ended
      by_cases ending : endsSession msg = true
      · obtain ⟨after, ran⟩ := round_of_ending peerAddress state reads ending
        exact .ends _ ran nofun
      · cases msg with
        | text str =>
          simp only [endsSession, Message.isClose, Message.isEmpty, Message.len, Bool.false_or,
            Bool.or_eq_true, beq_iff_eq, not_or] at ending
          exact .shows _ _ reads (round_shows_text peerAddress state reads ending.1
            (Nat.not_lt.mp fun oversize => ending.2 (decide_eq_true oversize)))
        | binary data =>
          by_cases exact : data.length = maxMsgSize
          · exact .shows _ _ reads (round_shows_binary peerAddress state reads exact)
          · obtain ⟨after, ran⟩ := round_of_short_binary peerAddress state reads exact
            exact .ends _ ran nofun
        | ping data =>
          obtain ⟨after, ran⟩ := round_of_control peerAddress state reads ⟨rfl, rfl⟩
          exact .ends _ ran nofun
        | pong data =>
          obtain ⟨after, ran⟩ := round_of_control peerAddress state reads ⟨rfl, rfl⟩
          exact .ends _ ran nofun
        | close frame => exact absurd rfl ending

/-! ## The front of the array -/

theorem wsRound_defined {peerAddress : SocketAddr} {ioTimeoutInSecs : F64} {round : WsRound}
    {state : WsState} {result : Status WsState}
    (left : (handleWsConnectionRound peerAddress ioTimeoutInSecs round state).control =
      .leave result) : result ≠ .undefined := by
  cases wsRound_cases peerAddress ioTimeoutInSecs round state with
  | quiet nothing same =>
    rw [same] at left
    cases left
  | ends result' ran defined =>
    rw [ran] at left
    cases left
    exact defined
  | shows msg given reads shows =>
    rintro rfl
    exact shows.defined left

theorem wsLoop_defined (peerAddress : SocketAddr) (ioTimeoutInSecs : F64)
    (rounds : List WsRound) :
    (wsLoop peerAddress ioTimeoutInSecs rounds).control ≠ .leave .undefined := by
  intro undefined
  exact run_leave_forall (fun result => result ≠ Status.undefined)
    (fun _ _ _ left => wsRound_defined left) undefined rfl

/-- The events of a connection that show a message are those of its loop. -/
theorem mem_handleWsConnection {peerAddress : SocketAddr} {ioTimeoutInSecs : F64} {env : WsEnv}
    {given left : Buffer} {verdict : Verdict}
    (member : .message given left verdict ∈
      (handleWsConnection peerAddress ioTimeoutInSecs env).1) :
    .message given left verdict ∈ (wsLoop peerAddress ioTimeoutInSecs env.rounds).events := by
  unfold handleWsConnection at member
  cases shook : env.handshake with
  | error e =>
    rw [shook] at member
    cases member
  | ok agreed =>
    rw [shook] at member
    dsimp only at member
    cases ended : statusOf (wsLoop peerAddress ioTimeoutInSecs env.rounds).control with
    | running => rw [ended] at member; exact member
    | panicked => rw [ended] at member; exact member
    | undefined => rw [ended] at member; exact member
    | returned state =>
      rw [ended] at member
      simpa using member

theorem handleWsConnection_defined (peerAddress : SocketAddr) (ioTimeoutInSecs : F64)
    (env : WsEnv) : (handleWsConnection peerAddress ioTimeoutInSecs env).2 ≠ .undefined := by
  unfold handleWsConnection
  cases env.handshake with
  | error e => nofun
  | ok agreed =>
    dsimp only
    have defined := wsLoop_defined peerAddress ioTimeoutInSecs env.rounds
    cases control : (wsLoop peerAddress ioTimeoutInSecs env.rounds).control with
    | again state => nofun
    | leave result =>
      rw [control] at defined
      cases result with
      | running => nofun
      | panicked => nofun
      | undefined => exact absurd rfl defined
      | returned state =>
        rw [statusOf_leave]
        cases env.sendClose <;> nofun

/-- No raw copy leaves the array, and every run of the callback finds in the buffer
the message that its round read. -/
theorem callbacks_see_their_message (peerAddress : SocketAddr) (ioTimeoutInSecs : F64)
    (env : WsEnv) :
    (handleWsConnection peerAddress ioTimeoutInSecs env).2 ≠ .undefined ∧
    ∀ given left verdict,
      .message given left verdict ∈ (handleWsConnection peerAddress ioTimeoutInSecs env).1 →
      ∃ pre round post state msg, env.rounds = pre ++ round :: post ∧
        (wsLoop peerAddress ioTimeoutInSecs pre).control = .again state ∧
        .message given left verdict ∈
          (handleWsConnectionRound peerAddress ioTimeoutInSecs round state).events ∧
        Reads ioTimeoutInSecs round (some (.ok msg)) ∧ Carries given msg := by
  refine ⟨handleWsConnection_defined peerAddress ioTimeoutInSecs env, ?_⟩
  intro given left verdict member
  obtain ⟨pre, round, post, state, split, inside, shown⟩ :=
    mem_run_events.mp (mem_handleWsConnection member)
  cases wsRound_cases peerAddress ioTimeoutInSecs round state with
  | quiet nothing same =>
    rw [same] at shown
    cases shown
  | ends result ran defined =>
    rw [ran] at shown
    cases shown
  | shows msg given' reads shows =>
    refine ⟨pre, round, post, state, msg, split, inside, shown, reads, ?_⟩
    rw [shows.only given left verdict shown]
    exact shows.carries

/-! ## The rest of the array -/

/-- A text that is due right after a binary message: `round` reads the one, `next`
the other, and the rounds between them read nothing. -/
structure TextAfterBinary (peerAddress : SocketAddr) (ioTimeoutInSecs : F64)
    (rounds pre : List WsRound) (round : WsRound) (between : List WsRound) (next : WsRound)
    (data : List UInt8) (str : String) : Prop where
  split : ∃ post, rounds = pre ++ round :: between ++ next :: post
  inside : ∃ state, (wsLoop peerAddress ioTimeoutInSecs (pre ++ round :: between)).control =
    .again state
  binary : Reads ioTimeoutInSecs round (some (.ok (.binary data)))
  exact : data.length = maxMsgSize
  silent : ∀ r ∈ between, ∀ msg, ¬Reads ioTimeoutInSecs r (some (.ok msg))
  text : Reads ioTimeoutInSecs next (some (.ok (.text str)))
  nonempty : (asBytes str).length ≠ 0
  fits : (asBytes str).length ≤ maxMsgSize

/-- What the loop has in its array after `rounds`: zeros, or what the callback left of
the last message, a binary one. -/
def Remains (peerAddress : SocketAddr) (ioTimeoutInSecs : F64) (rounds : List WsRound)
    (state : WsState) : Prop :=
  (∀ byte ∈ state.msgBuffer.buf, byte = 0) ∨
    ∃ pre round between data exact, rounds = pre ++ round :: between ∧
      Reads ioTimeoutInSecs round (some (.ok (.binary data))) ∧
      (∀ r ∈ between, ∀ msg, ¬Reads ioTimeoutInSecs r (some (.ok msg))) ∧
      state.msgBuffer.buf = (leftBy peerAddress round ⟨.binary, maxMsgSize, data, exact⟩).buf

section Tails

variable {peerAddress : SocketAddr} {ioTimeoutInSecs : F64}

theorem remains_of_inside {rounds : List WsRound} {state : WsState}
    (inside : (wsLoop peerAddress ioTimeoutInSecs rounds).control = .again state) :
    Remains peerAddress ioTimeoutInSecs rounds state := by
  induction rounds using List.reverseRecOn generalizing state with
  | nil =>
    cases inside
    exact .inl fun byte member => List.eq_of_mem_replicate member
  | append_singleton rounds round ih =>
    obtain ⟨middle, before⟩ := inside_of_append inside
    rw [wsLoop, run_snoc round before] at inside
    cases wsRound_cases peerAddress ioTimeoutInSecs round middle with
    | quiet nothing same =>
      rw [same] at inside
      cases inside
      rcases ih before with zeros | ⟨pre, earlier, between, data, exact, split, binary, silent, left⟩
      · exact .inl zeros
      · refine .inr ⟨pre, earlier, between ++ [round], data, exact, ?_, binary, ?_, left⟩
        · rw [split, List.append_assoc, List.cons_append]
        · intro r member
          rcases List.mem_append.mp member with old | new
          · exact silent r old
          · rw [List.mem_singleton.mp new]
            exact nothing
    | ends result ran defined =>
      rw [ran] at inside
      cases inside
    | shows msg given reads shows =>
      have left := shows.next state inside
      rcases shows.carries.kind with ⟨text, _⟩ | ⟨binary, _⟩
      · rw [if_pos text] at left
        refine .inl fun byte member => ?_
        rw [left] at member
        exact List.eq_of_mem_replicate member
      · cases msg with
        | binary data =>
          obtain ⟨exact, rfl⟩ := shows.whole data rfl
          exact .inr ⟨rounds, round, [], data, exact, rfl, reads, List.forall_mem_nil _, left⟩
        | text str => cases binary
        | ping data => cases binary
        | pong data => cases binary
        | close frame => cases binary

theorem again_of_silent {round : WsRound} {state after : WsState}
    (nothing : ∀ msg, ¬Reads ioTimeoutInSecs round (some (.ok msg)))
    (again : (handleWsConnectionRound peerAddress ioTimeoutInSecs round state).control =
      .again after) : after = state := by
  cases wsRound_cases peerAddress ioTimeoutInSecs round state with
  | quiet nothing same =>
    rw [same] at again
    cases again
    rfl
  | ends result ran defined =>
    rw [ran] at again
    cases again
  | shows msg given reads shows => exact absurd reads (nothing msg)

/-- The text finds past its end what the callback left of the binary message. -/
theorem TextAfterBinary.shown {rounds pre : List WsRound} {round : WsRound}
    {between : List WsRound} {next : WsRound} {data : List UInt8} {str : String}
    (follows : TextAfterBinary peerAddress ioTimeoutInSecs rounds pre round between next data str) :
    ∃ given left verdict,
      .message given left verdict ∈ (wsLoop peerAddress ioTimeoutInSecs rounds).events ∧
      given.size = (asBytes str).length ∧
      given.buf.drop given.size =
        (leftBy peerAddress round ⟨.binary, maxMsgSize, data, follows.exact⟩).buf.drop
          (asBytes str).length := by
  obtain ⟨state, inside⟩ := follows.inside
  obtain ⟨post, split⟩ := follows.split
  have shows := round_shows_text peerAddress state follows.text follows.nonempty follows.fits
  obtain ⟨left, verdict, shown⟩ := shows.shown
  refine ⟨textGiven (state.sized (asBytes str).length).msgBuffer str follows.fits, left, verdict,
    ?_, rfl, ?_⟩
  · exact mem_run_events.mpr ⟨_, next, post, state, split, inside, shown⟩
  · refine shows.rest.trans ?_
    obtain ⟨start, before⟩ := inside_of_append inside
    rw [wsLoop, run_append, andThen_of_again _ before] at inside
    have showsBinary := round_shows_binary peerAddress start follows.binary follows.exact
    obtain ⟨exact, whole⟩ := showsBinary.whole data rfl
    obtain ⟨middle, goes, inside⟩ := run_cons_again_iff.mp inside
    have kept : state = middle := by
      refine run_invariant (fun s => s = middle) ?_ rfl inside
      rintro r member s s' rfl again
      exact again_of_silent (follows.silent r member) again
    have left := showsBinary.next middle goes
    rw [whole] at left
    rw [kept, left]
    rfl

end Tails

/-- In a session every callback finds zeros past its message exactly when the
callback of each binary message that a text follows leaves zeros past that text. -/
theorem tails_clean_iff (peerAddress : SocketAddr) (ioTimeoutInSecs : F64)
    (rounds : List WsRound) :
    (∀ given left verdict,
      .message given left verdict ∈ (wsLoop peerAddress ioTimeoutInSecs rounds).events →
      ∀ byte ∈ given.buf.drop given.size, byte = 0) ↔
    ∀ pre round between next data str
      (follows : TextAfterBinary peerAddress ioTimeoutInSecs rounds pre round between next data str),
      ∀ byte ∈ (leftBy peerAddress round ⟨.binary, maxMsgSize, data, follows.exact⟩).buf.drop
        (asBytes str).length, byte = 0 := by
  constructor
  · intro clean pre round between next data str follows
    obtain ⟨given, left, verdict, shown, _, tail⟩ := follows.shown
    rw [← tail]
    exact clean given left verdict shown
  · intro leaves given left verdict member
    obtain ⟨before, next, post, state, split, inside, shown⟩ := mem_run_events.mp member
    cases wsRound_cases peerAddress ioTimeoutInSecs next state with
    | quiet nothing same =>
      rw [same] at shown
      cases shown
    | ends result ran defined =>
      rw [ran] at shown
      cases shown
    | shows msg given' reads shows =>
      rw [shows.only given left verdict shown, shows.carries.size, shows.rest]
      rcases remains_of_inside inside with
        zeros | ⟨pre, round, between, data, exact, place, binary, silent, remains⟩
      · exact fun byte late => zeros byte (List.mem_of_mem_drop late)
      · rw [remains]
        cases msg with
        | text str =>
          have nonempty : (asBytes str).length ≠ 0 := by
            intro empty
            obtain ⟨after, ran⟩ := round_of_ending peerAddress state reads
              (by simp [endsSession, Message.isEmpty, Message.len, empty])
            rw [ran] at shown
            cases shown
          refine leaves pre round between next data str ?_
          exact {
            split := ⟨post, place ▸ split⟩
            inside := ⟨state, place ▸ inside⟩
            binary, exact, silent, nonempty
            text := reads
            fits := shows.carries.size.symm.trans_le shows.carries.fits }
        | binary data' =>
          obtain ⟨full, _⟩ := shows.whole data' rfl
          rw [List.drop_eq_nil_of_le (by rw [Buffer.bufLength]; exact full.ge)]
          exact List.forall_mem_nil _
        | ping data => rcases shows.carries.kind with ⟨kind, _⟩ | ⟨kind, _⟩ <;> cases kind
        | pong data => rcases shows.carries.kind with ⟨kind, _⟩ | ⟨kind, _⟩ <;> cases kind
        | close frame => rcases shows.carries.kind with ⟨kind, _⟩ | ⟨kind, _⟩ <;> cases kind

/-- A full binary message, then a text of one byte. -/
def binaryThenText : List WsRound :=
  [wsRound .unpolled (some (.ok (.binary (List.replicate maxMsgSize 1)))),
    wsRound .unpolled (some (.ok (.text "a")))]

theorem binaryThenText_follows :
    TextAfterBinary localPeer (.finite 0) binaryThenText []
      (wsRound .unpolled (some (.ok (.binary (List.replicate maxMsgSize 1))))) []
      (wsRound .unpolled (some (.ok (.text "a")))) (List.replicate maxMsgSize 1) "a" := by
  have binary : Reads (.finite 0)
      (wsRound .unpolled (some (.ok (.binary (List.replicate maxMsgSize 1)))))
      (some (.ok (.binary (List.replicate maxMsgSize 1)))) :=
    (reads_sessionOf (List.mem_singleton_self _)).mpr rfl
  have ran := round_of_binary localPeer .new binary List.length_replicate
  exact {
    split := ⟨[], rfl⟩
    inside := by
      rw [List.nil_append, wsLoop, run_singleton]
      exact ran.again.mpr rfl
    binary
    exact := List.length_replicate
    silent := fun _ between => absurd between List.not_mem_nil
    text := (reads_sessionOf (List.mem_singleton_self _)).mpr rfl
    nonempty := by decide
    fits := by decide }

/-- The text is shown with 1023 bytes of the binary message behind it. -/
theorem text_shown_over_binary :
    ¬∀ given left verdict,
      .message given left verdict ∈ (wsLoop localPeer (.finite 0) binaryThenText).events →
      ∀ byte ∈ given.buf.drop given.size, byte = 0 := by
  intro clean
  obtain ⟨given, left, verdict, shown, _, tail⟩ := binaryThenText_follows.shown
  have stale : (1 : UInt8) ∈ given.buf.drop given.size := by
    rw [tail]
    show 1 ∈ (List.replicate maxMsgSize (1 : UInt8)).drop (asBytes "a").length
    rw [List.drop_replicate]
    exact List.mem_replicate.mpr ⟨by decide, rfl⟩
  exact absurd (clean given left verdict shown 1 stale) (by decide)

end WolfEngine.Verified
