import Mathlib.Algebra.Order.Ring.Rat
import Mathlib.Tactic.NormNum
import WolfEngine.Verified.WsBuffer

/-! # Accepting and closing

A connection that was accepted should be closed: `on_close_connection` runs once
before `accept_connection` returns.  Both back ends run it last, behind every `?`
of what comes before, so an error there returns without it, and so does a panic: of a
timeout that is no duration, or of a size past the array.
-/

namespace WolfEngine.Verified

open WolfEngine.Stream TcpServer EventLoop

/-- The peers whose close callback ran. -/
def closings (events : List ConnectionEvent) : List SocketAddr :=
  events.filterMap fun
    | .close peerAddress _ _ => some peerAddress
    | _ => none

@[simp] theorem closings_cons_accept (peerAddress : SocketAddr) (verdict : Verdict)
    (events : List ConnectionEvent) :
    closings (.accept peerAddress verdict :: events) = closings events := rfl

@[simp] theorem closings_append (xs ys : List ConnectionEvent) :
    closings (xs ++ ys) = closings xs ++ closings ys := List.filterMap_append

@[simp] theorem closings_native (events : List NativeEvent) :
    closings (events.map .native) = [] := by
  simp [closings]

@[simp] theorem closings_ws (events : List WsEvent) : closings (events.map .ws) = [] := by
  simp [closings]

@[simp] theorem closings_close (peerAddress : SocketAddr) (closeMsg : String) (verdict : Verdict) :
    closings [.close peerAddress closeMsg verdict] = [peerAddress] := rfl

/-! ## The async server -/

/-- If its sleep is polled, the io timeout has a duration. -/
def SleepStands (ioTimeoutInSecs : F64) (sleep : Sleep) : Prop :=
  ioTimeoutInSecs.isPositive = true → sleep ≠ .unpolled →
    ∃ duration, fromSecsF64 ioTimeoutInSecs = some duration

/-- And if its callback agrees, it leaves a size within the array. -/
structure NativeStands (peerAddress : SocketAddr) (ioTimeoutInSecs : F64) (round : NativeRound)
    (msg : Buffer) : Prop where
  sleep : SleepStands ioTimeoutInSecs round.sleep
  size : ∀ chunk left, asyncRead ioTimeoutInSecs round = some chunk →
    round.onMsg.run round.elapsedSecs peerAddress (msg.receive chunk) = (.ok (), left) →
    left.size ≤ maxMsgSize

/-- What keeps an accepted connection of the async server from being lost. -/
def AsyncCloses (protocol : TcpProtocol) (peerAddress : SocketAddr) (ioTimeoutInSecs : F64)
    (env : TcpServer.ConnectionEnv) : Prop :=
  match protocol with
  | .native => Throughout (handleTcpConnectionRound peerAddress ioTimeoutInSecs)
    (NativeStands peerAddress ioTimeoutInSecs) env.nativeRounds (Buffer.new .binary)
  | .websocket => env.ws.handshake = .ok () ∧ env.ws.sendClose = .ok () ∧
    Throughout (handleWsConnectionRound peerAddress ioTimeoutInSecs)
      (fun round _ => SleepStands ioTimeoutInSecs round.sleep) env.ws.rounds .new

section Async

variable {protocol : TcpProtocol} {peerAddress : SocketAddr} {ioTimeoutInSecs : F64}
  {env : TcpServer.ConnectionEnv}

theorem selectTimeout_eq_none_iff {α : Type} {sleep : Sleep} {timedOut op : α} :
    selectTimeout ioTimeoutInSecs sleep timedOut op = none ↔ ¬SleepStands ioTimeoutInSecs sleep := by
  unfold selectTimeout SleepStands
  cases ioTimeoutInSecs.isPositive with
  | false => simp
  | true => cases sleep <;> simp [Option.eq_none_iff_forall_ne_some]

theorem sleepStands_of_some {α : Type} {sleep : Sleep} {timedOut op read : α}
    (reads : selectTimeout ioTimeoutInSecs sleep timedOut op = some read) :
    SleepStands ioTimeoutInSecs sleep := by
  by_contra unusable
  rw [selectTimeout_eq_none_iff.mpr unusable] at reads
  cases reads

/-- The status of a loop that was left by a `break`. -/
def Returned {α : Type} (status : Status α) : Prop := ∃ value, status = .returned value

/-! ### Native rounds -/

section Native

variable {round : NativeRound} {msg : Buffer}

theorem nativeStands_of_unread (sleep : SleepStands ioTimeoutInSecs round.sleep)
    (unread : asyncRead ioTimeoutInSecs round = none) :
    NativeStands peerAddress ioTimeoutInSecs round msg where
  sleep := sleep
  size chunk left read := by
    rw [unread] at read
    cases read

/-- With a message, it is the size that the callback leaves. -/
theorem nativeStands_iff {chunk : Chunk} {verdict : Verdict} {left : Buffer}
    (reads : selectTimeout ioTimeoutInSecs round.sleep (.error timeoutForRead) round.read =
      some (.ok chunk))
    (answer : round.onMsg.run round.elapsedSecs peerAddress (msg.receive chunk) = (verdict, left)) :
    NativeStands peerAddress ioTimeoutInSecs round msg ↔ (verdict = .ok () → left.size ≤ maxMsgSize) := by
  have read := (asyncRead_eq_some ioTimeoutInSecs).mpr reads
  constructor
  · intro stands agrees
    exact stands.size chunk left read (agrees ▸ answer)
  · intro fits
    refine ⟨sleepStands_of_some reads, fun chunk' left' read' answer' => ?_⟩
    rw [read, Option.some.injEq] at read'
    rw [← read', answer, Prod.mk.injEq] at answer'
    rw [← answer'.2]
    exact fits answer'.1

/-- What a round does with control says whether it stands. -/
theorem nativeRound_control :
    match (handleTcpConnectionRound peerAddress ioTimeoutInSecs round msg).control with
    | .again _ => NativeStands peerAddress ioTimeoutInSecs round msg
    | .leave status => Returned status ↔ NativeStands peerAddress ioTimeoutInSecs round msg := by
  unfold handleTcpConnectionRound
  cases reads : selectTimeout ioTimeoutInSecs round.sleep (.error timeoutForRead) round.read with
  | none =>
    have unusable := selectTimeout_eq_none_iff.mp reads
    simp only [Returned, reduceCtorEq, exists_false, false_iff]
    exact fun stands => unusable stands.sleep
  | some read =>
    cases read with
    | error e =>
      have unread : asyncRead ioTimeoutInSecs round = none := by
        unfold asyncRead
        rw [reads]
      simp [Returned, nativeStands_of_unread (sleepStands_of_some reads) unread]
    | ok chunk =>
      cases answer : round.onMsg.run round.elapsedSecs peerAddress (msg.receive chunk) with
      | mk verdict left =>
        have stands := nativeStands_iff reads answer
        dsimp only
        rw [answer]
        cases verdict with
        | error e => simp [Returned, stands]
        | ok agreed =>
          by_cases written : left.size > 0
          · by_cases past : left.size > maxMsgSize
            · simp [written, past, Returned, stands]
            · cases wrote : round.write left.payload <;>
                simp [written, past, wrote, Returned, stands, Nat.le_of_not_lt past]
          · have within : left.size ≤ maxMsgSize := by omega
            simp [written, stands, within]

end Native

/-! ### Websocket rounds -/

theorem wsRound_goes {round : WsRound} {state state' : WsState}
    (again : (handleWsConnectionRound peerAddress ioTimeoutInSecs round state).control =
      .again state') : SleepStands ioTimeoutInSecs round.sleep := by
  cases reads : selectTimeout ioTimeoutInSecs round.sleep none round.next with
  | none =>
    rw [round_of_panic peerAddress state reads] at again
    cases again
  | some res => exact sleepStands_of_some reads

theorem wsRound_leaves {round : WsRound} {state : WsState} {status : Status WsState}
    (left : (handleWsConnectionRound peerAddress ioTimeoutInSecs round state).control =
      .leave status) :
    Returned status ↔ SleepStands ioTimeoutInSecs round.sleep := by
  have defined := wsRound_defined left
  cases reads : selectTimeout ioTimeoutInSecs round.sleep none round.next with
  | none =>
    rw [round_of_panic peerAddress state reads] at left
    cases left
    have unusable := selectTimeout_eq_none_iff.mp reads
    simpa [Returned] using unusable
  | some res =>
    have returned : status ≠ .panicked ∧ status ≠ .running := by
      unfold handleWsConnectionRound at left
      cases res with
      | none =>
        rw [reads] at left
        cases left
      | some msg =>
        rw [reads] at left
        cases msg with
        | error e => cases left
        | ok msg =>
          dsimp only at left
          repeat' split at left
          all_goals
            cases left
            try simp
    simp only [sleepStands_of_some reads, iff_true]
    cases status with
    | running => exact absurd rfl returned.2
    | panicked => exact absurd rfl returned.1
    | undefined => exact absurd rfl defined
    | returned after => exact ⟨after, rfl⟩

/-! ### Connections -/

theorem closings_handleConnection (protocol : TcpProtocol) (peerAddress : SocketAddr)
    (ioTimeoutInSecs : F64) (env : TcpServer.ConnectionEnv) :
    closings (TcpServer.handleConnection protocol peerAddress ioTimeoutInSecs env).1 = [] := by
  cases protocol <;> simp [TcpServer.handleConnection]

theorem nativeLoop_returned {rounds : List NativeRound} {status : Status String}
    (left : (handleTcpConnection peerAddress ioTimeoutInSecs rounds).control = .leave status) :
    Returned status ↔ Throughout (handleTcpConnectionRound peerAddress ioTimeoutInSecs)
      (NativeStands peerAddress ioTimeoutInSecs) rounds (Buffer.new .binary) := by
  refine left_iff_throughout (fun round msg msg' again => ?_) (fun round msg status left => ?_) left
  · have control := @nativeRound_control peerAddress ioTimeoutInSecs round msg
    rwa [again] at control
  · have control := @nativeRound_control peerAddress ioTimeoutInSecs round msg
    rwa [left] at control

theorem wsLoop_returned {rounds : List WsRound} {status : Status WsState}
    (left : (wsLoop peerAddress ioTimeoutInSecs rounds).control = .leave status) :
    Returned status ↔ Throughout (handleWsConnectionRound peerAddress ioTimeoutInSecs)
      (fun round _ => SleepStands ioTimeoutInSecs round.sleep) rounds .new :=
  left_iff_throughout (fun _ _ _ => wsRound_goes) (fun _ _ _ => wsRound_leaves) left

/-- A handler that came to its end returned a close message exactly when neither a `?` fired
in it nor anything panicked. -/
theorem handleConnection_ended
    (ended : (TcpServer.handleConnection protocol peerAddress ioTimeoutInSecs env).2 ≠ .running) :
    (∃ closeMsg, (TcpServer.handleConnection protocol peerAddress ioTimeoutInSecs env).2 =
      .returned (.ok closeMsg)) ↔ AsyncCloses protocol peerAddress ioTimeoutInSecs env := by
  cases protocol with
  | native =>
    simp only [TcpServer.handleConnection, AsyncCloses] at ended ⊢
    cases control : (handleTcpConnection peerAddress ioTimeoutInSecs env.nativeRounds).control with
    | again msg => simp [control, statusOf] at ended
    | leave status =>
      rw [← nativeLoop_returned control, statusOf_leave]
      cases status <;> simp [Returned]
  | websocket =>
    simp only [TcpServer.handleConnection, AsyncCloses, handleWsConnection] at ended ⊢
    cases handshake : env.ws.handshake with
    | error e => simp
    | ok shaken =>
      rw [handshake] at ended
      dsimp only at ended ⊢
      cases control : (wsLoop peerAddress ioTimeoutInSecs env.ws.rounds).control with
      | again state => simp [control, statusOf] at ended
      | leave status =>
        rw [← wsLoop_returned control, statusOf_leave]
        cases status with
        | returned state => cases env.ws.sendClose <;> simp [Returned]
        | running | panicked | undefined => simp [Returned]

/-- The close callback runs once, or not at all. -/
theorem closings_acceptConnection
    (accepted : env.onAcceptConnection.run peerAddress = .ok ())
    (ended : (TcpServer.acceptConnection protocol peerAddress ioTimeoutInSecs env).2 ≠ .running) :
    closings (TcpServer.acceptConnection protocol peerAddress ioTimeoutInSecs env).1 =
        [peerAddress] ↔ AsyncCloses protocol peerAddress ioTimeoutInSecs env := by
  have silent := closings_handleConnection protocol peerAddress ioTimeoutInSecs env
  simp only [TcpServer.acceptConnection, accepted] at ended ⊢
  have handler : (TcpServer.handleConnection protocol peerAddress ioTimeoutInSecs env).2 ≠
      .running := by
    intro running
    simp [running] at ended
  rw [← handleConnection_ended handler]
  cases status : (TcpServer.handleConnection protocol peerAddress ioTimeoutInSecs env).2 with
  | running => exact absurd status handler
  | panicked => simp [silent]
  | undefined => simp [silent]
  | returned result => cases result <;> simp [silent]

end Async

/-! ## The fiber server -/

section Fiber

variable {protocol : TcpProtocol} {peerAddress : SocketAddr} {ioTimeoutInSecs : F64}
  {env : TcpServerFiber.ConnectionEnv}

theorem closings_handleConnection_fiber (protocol : TcpProtocol) (peerAddress : SocketAddr)
    (env : TcpServerFiber.ConnectionEnv) :
    closings (TcpServerFiber.handleConnection protocol peerAddress env).1 = [] := by
  cases protocol <;> simp [TcpServerFiber.handleConnection, closings]

/-- The fiber handlers do not panic: what they write is the whole array. -/
theorem handleConnection_fiber_status (protocol : TcpProtocol) (peerAddress : SocketAddr)
    (env : TcpServerFiber.ConnectionEnv) :
    (TcpServerFiber.handleConnection protocol peerAddress env).2 = .running ∨
      ∃ closeMsg, (TcpServerFiber.handleConnection protocol peerAddress env).2 =
        .returned closeMsg := by
  cases protocol with
  | websocket => exact .inr ⟨_, rfl⟩
  | native =>
    simp only [TcpServerFiber.handleConnection]
    cases control : (TcpServerFiber.handleTcpConnection peerAddress env.nativeRounds).control with
    | again state => exact .inl rfl
    | leave status =>
      refine .inr (run_leave_forall (fun status => ∃ closeMsg, status = .returned closeMsg) ?_ control)
      intro round state result left
      unfold TcpServerFiber.handleTcpConnectionRound at left
      extract_lets ran at left
      by_cases goesOn : ran.2.closeMsg ≠ ""
      · rw [if_pos goesOn] at left
        cases left
        exact ⟨_, rfl⟩
      · rw [if_neg goesOn] at left
        cases left

/-- Both timeouts were built and set. -/
def TimeoutsSet (ioTimeoutInSecs : F64) (env : TcpServerFiber.ConnectionEnv) : Prop :=
  ∃ duration, fromSecsF64 ioTimeoutInSecs = some duration ∧
    env.setReadTimeout duration = .ok () ∧ env.setWriteTimeout duration = .ok ()

theorem setTimeouts_ok_iff :
    TcpServerFiber.setTimeouts ioTimeoutInSecs env = some (.ok ()) ↔
      TimeoutsSet ioTimeoutInSecs env := by
  rw [TcpServerFiber.setTimeouts, Option.map_eq_some_iff, TimeoutsSet]
  refine exists_congr fun duration => and_congr_right fun _ => ?_
  cases read : env.setReadTimeout duration <;> simp

theorem closings_acceptConnection_fiber
    (accepted : env.onAcceptConnection.run peerAddress = .ok ())
    (ended : (TcpServerFiber.acceptConnection protocol peerAddress ioTimeoutInSecs env).2 ≠
      .running) :
    closings (TcpServerFiber.acceptConnection protocol peerAddress ioTimeoutInSecs env).1 =
        [peerAddress] ↔ TimeoutsSet ioTimeoutInSecs env := by
  have silent := closings_handleConnection_fiber protocol peerAddress env
  rw [← setTimeouts_ok_iff]
  simp only [TcpServerFiber.acceptConnection, accepted] at ended ⊢
  cases timeouts : TcpServerFiber.setTimeouts ioTimeoutInSecs env with
  | none => simp [closings]
  | some answer =>
    cases answer with
    | error e => simp [closings]
    | ok set =>
      simp only [timeouts] at ended ⊢
      rcases handleConnection_fiber_status protocol peerAddress env with running | ⟨closeMsg, returned⟩
      · simp [running] at ended
      · simp [returned, silent]

end Fiber

/-- An accepted connection is closed exactly once before `accept_connection` ends when, and
only when, nothing between the two callbacks panics and no `?` there fires: in the async
server the handshake's and the final close frame's, in the fiber server those of the two
timeouts. -/
theorem accepted_closed_once_iff (protocol : TcpProtocol) (peerAddress : SocketAddr)
    (ioTimeoutInSecs : F64) :
    (∀ env : TcpServer.ConnectionEnv,
      env.onAcceptConnection.run peerAddress = .ok () →
      (TcpServer.acceptConnection protocol peerAddress ioTimeoutInSecs env).2 ≠ .running →
      (closings (TcpServer.acceptConnection protocol peerAddress ioTimeoutInSecs env).1 =
          [peerAddress] ↔
        AsyncCloses protocol peerAddress ioTimeoutInSecs env)) ∧
    (∀ env : TcpServerFiber.ConnectionEnv,
      env.onAcceptConnection.run peerAddress = .ok () →
      (TcpServerFiber.acceptConnection protocol peerAddress ioTimeoutInSecs env).2 ≠ .running →
      (closings (TcpServerFiber.acceptConnection protocol peerAddress ioTimeoutInSecs env).1 =
          [peerAddress] ↔
        TimeoutsSet ioTimeoutInSecs env)) :=
  ⟨fun _ accepted ended => closings_acceptConnection accepted ended,
    fun _ accepted ended => closings_acceptConnection_fiber accepted ended⟩

def acceptAll : OnSocketCallback := ⟨fun _ => .ok ()⟩

def closeAll : OnCloseSocketCallback := ⟨fun _ _ => .ok ()⟩

/-- A websocket peer that shakes hands as told and closes at once. -/
def wsCloses (handshake sendClose : Except WsError Unit) : TcpServer.ConnectionEnv where
  onAcceptConnection := acceptAll
  onCloseConnection := closeAll
  nativeRounds := []
  ws :=
    { handshake := handshake
      rounds := [⟨.unpolled, some (.ok (.close none)), 0, ⟨fun _ _ => echo⟩, fun _ => .ok ()⟩]
      sendClose := sendClose }

/-- A native peer whose first read fails, on a socket that answers the timeouts
as told. -/
def nativeFails (setReadTimeout : ℚ → Except IoError Unit) : TcpServerFiber.ConnectionEnv where
  onAcceptConnection := acceptAll
  onCloseConnection := closeAll
  setReadTimeout := setReadTimeout
  setWriteTimeout := fun _ => .ok ()
  nativeRounds := [plainRound (.error brokenPipe) echo fun offered => .ok offered.length]

theorem fromSecsF64_five : fromSecsF64 (.finite 5) = some 5 := by
  norm_num [fromSecsF64]

theorem fromSecsF64_zero : fromSecsF64 (.finite 0) = some 0 := by
  norm_num [fromSecsF64]

theorem clean_connections_closed_once :
    closings (TcpServer.acceptConnection .websocket localPeer (.finite 0)
        (wsCloses (.ok ()) (.ok ()))).1 = [localPeer] ∧
    closings (TcpServerFiber.acceptConnection .native localPeer (.finite 5)
        (nativeFails fun _ => .ok ())).1 = [localPeer] := by
  constructor
  · refine ((accepted_closed_once_iff .websocket localPeer (.finite 0)).1
      (wsCloses (.ok ()) (.ok ())) rfl nofun).mpr ⟨rfl, rfl, ?_⟩
    simp [wsCloses, Throughout, SleepStands]
  · refine ((accepted_closed_once_iff .native localPeer (.finite 5)).2
      (nativeFails fun _ => .ok ()) rfl ?_).mpr ⟨5, fromSecsF64_five, rfl, rfl⟩
    have set : TcpServerFiber.setTimeouts (.finite 5) (nativeFails fun _ => .ok ()) =
        some (.ok ()) := setTimeouts_ok_iff.mpr ⟨5, fromSecsF64_five, rfl, rfl⟩
    have returned : ∃ closeMsg, (TcpServerFiber.handleConnection .native localPeer
        (nativeFails fun _ => .ok ())).2 = .returned closeMsg := ⟨_, rfl⟩
    obtain ⟨closeMsg, returned⟩ := returned
    have accepted : (nativeFails fun _ => .ok ()).onAcceptConnection.run localPeer = .ok () := rfl
    simp [TcpServerFiber.acceptConnection, accepted, set, returned]

/-- `tungstenite` refuses to send after the close handshake. -/
def sendAfterClosing : WsError :=
  ⟨"Protocol(SendAfterClosing)", ⟨"WebSocket protocol error: Sending after closing is not allowed"⟩⟩

/-- `tungstenite` refuses a first line that is no GET. -/
def wrongHttpMethod : WsError :=
  ⟨"Protocol(WrongHttpMethod)",
    ⟨"WebSocket protocol error: Unsupported HTTP method used - only GET is allowed"⟩⟩

/-- `set_read_timeout` refuses a zero duration. -/
def refuseZero (duration : ℚ) : Except IoError Unit :=
  if duration = 0 then .error ⟨"Kind(InvalidInput)", ⟨"invalid input parameter"⟩, by decide⟩
  else .ok ()

/-- A native peer of the async server, whose first read waits long enough for the timeout
to be polled. -/
def nativeWaits : TcpServer.ConnectionEnv where
  onAcceptConnection := acceptAll
  onCloseConnection := closeAll
  nativeRounds :=
    [{ plainRound (.error brokenPipe) echo fun offered => .ok offered.length with sleep := .pending }]
  ws := { handshake := .ok (), rounds := [], sendClose := .ok () }

/-- A peer that does not shake hands, a peer that closes first, an endless io timeout and
one of zero: four accepted connections that are never closed. -/
theorem accepted_connections_not_closed :
    TcpServer.acceptConnection .websocket localPeer (.finite 0)
      (wsCloses (.error wrongHttpMethod) (.ok ())) =
        ([.accept localPeer (.ok ())], .returned (.error wrongHttpMethod.anyhow)) ∧
    (TcpServer.acceptConnection .websocket localPeer (.finite 0)
        (wsCloses (.ok ()) (.error sendAfterClosing))).2 =
      .returned (.error sendAfterClosing.anyhow) ∧
    closings (TcpServer.acceptConnection .websocket localPeer (.finite 0)
        (wsCloses (.ok ()) (.error sendAfterClosing))).1 = [] ∧
    TcpServer.acceptConnection .native localPeer (.infinity false) nativeWaits =
      ([.accept localPeer (.ok ())], .panicked) ∧
    TcpServerFiber.acceptConnection .native localPeer (.finite 0) (nativeFails refuseZero) =
      ([.accept localPeer (.ok ())], .returned (.error ⟨"invalid input parameter"⟩)) := by
  refine ⟨rfl, rfl, rfl, rfl, ?_⟩
  have refused : TcpServerFiber.setTimeouts (.finite 0) (nativeFails refuseZero) =
      some (refuseZero 0) := by
    simp [TcpServerFiber.setTimeouts, fromSecsF64_zero, nativeFails, refuseZero]
  have accepted : (nativeFails refuseZero).onAcceptConnection.run localPeer = .ok () := rfl
  simp only [TcpServerFiber.acceptConnection, accepted, refused]
  rfl

end WolfEngine.Verified
