import WolfEngine.Verified.NativeSession

/-! # The peer closes

The end of a stream is a successful read of no bytes.  None of the three native
loops tells it apart from data: the callback is asked, has nothing to answer, and
the loop reads again.  What still ends such a session is a reply, to the data
that came before the close, that cannot be delivered.
-/

namespace WolfEngine.Verified

open WolfEngine.Stream EventLoop

/-- `count` successful reads, and the end of the stream at every read from then on. -/
def ClosesAfter (count : Nat) (inputs : Nat → NativeRound) : Prop :=
  (∀ i < count, ∃ chunk, (inputs i).read = .ok chunk) ∧
    ∀ i, count ≤ i → (inputs i).read = .ok .empty

/-- The callback keeps agreeing, and answers nothing to nothing. -/
def KeepsGoing (callback : OnMessageCallback) : Prop :=
  ∀ secs peer given, (callback.run secs peer given).1 = .ok () ∧
    (given.size = 0 → (callback.run secs peer given).2.size = 0)

theorem ClosesAfter.read {count : Nat} {inputs : Nat → NativeRound}
    (closes : ClosesAfter count inputs) (i : Nat) : ∃ chunk, (inputs i).read = .ok chunk := by
  rcases Nat.lt_or_ge i count with early | late
  · exact closes.1 i early
  · exact ⟨_, closes.2 i late⟩

theorem KeepsGoing.refused {peerAddress : SocketAddr} {round : NativeRound}
    (agrees : KeepsGoing round.onMsg) (given : Buffer) :
    (exchange peerAddress round given).refused = false := by
  simp only [Exchange.refused, exchange, (agrees _ _ _).1]

theorem KeepsGoing.left_size {round : NativeRound} (agrees : KeepsGoing round.onMsg)
    (peerAddress : SocketAddr) {given : Buffer} (empty : given.size = 0) :
    (exchange peerAddress round given).left.size = 0 :=
  (agrees _ _ _).2 empty

section Closing

variable {σ ρ : Type} {body : Body NativeRound σ NativeEvent ρ} {driver : Driver}
  {peerAddress : SocketAddr} {ready : Buffer → σ} {inputs : Nat → NativeRound}

/-- If from round `count` on the callback is only shown empty messages, the loop
is left exactly when one of the first `count` replies is lost. -/
theorem Refines.leaves_iff (refines : Refines body driver peerAddress ready) (count : Nat)
    (agrees : ∀ i, KeepsGoing (inputs i).onMsg)
    (opens : ∀ i b, (driver.before (inputs i) b).isSome)
    (closes : ∀ i b, (driver.after (inputs i) b).isSome)
    (unanswered : ∀ x, x.left.size = 0 → driver.lost x = false)
    (Quiet : Buffer → Prop) (start : Buffer)
    (calm : ∀ b, (run body (firstRounds inputs count) (ready start)).control = .again (ready b) →
      Quiet b)
    (empty : ∀ i, count ≤ i → ∀ b given, Quiet b → driver.before (inputs i) b = some given →
      given.size = 0)
    (quiet : ∀ i, count ≤ i → ∀ left next, driver.after (inputs i) left = some next →
      left.size = 0 → Quiet next) :
    Leaves body inputs (ready start) ↔
      ∃ x ∈ exchanges driver peerAddress start (firstRounds inputs count),
        driver.lost x = true := by
  have inputsOf : ∀ round ∈ firstRounds inputs count, ∃ i, round = inputs i := by
    intro round member
    obtain ⟨i, _, same⟩ := List.mem_map.mp member
    exact ⟨i, same.symm⟩
  have final_iff : ∀ x ∈ exchanges driver peerAddress start (firstRounds inputs count),
      driver.final x = driver.lost x := by
    intro x member
    obtain ⟨round, inside, given, rfl⟩ := exists_of_mem_exchanges member
    obtain ⟨i, rfl⟩ := inputsOf round inside
    rw [Driver.final, (agrees i).refused, Bool.false_or]
  rw [leaves_iff_firstRounds count (fun s => ∃ b, s = ready b ∧ Quiet b),
    refines.run_leaves_iff]
  · constructor
    · rintro ⟨x, member, final⟩
      exact ⟨x, member, final_iff x member ▸ final⟩
    · rintro ⟨x, member, lost⟩
      exact ⟨x, member, (final_iff x member).trans lost⟩
  · intro round member b
    obtain ⟨i, rfl⟩ := inputsOf round member
    exact opens i b
  · intro round member b
    obtain ⟨i, rfl⟩ := inputsOf round member
    exact closes i b
  · intro state inside
    obtain ⟨b, rfl⟩ := refines.inside_ready inside
    exact ⟨b, rfl, calm b inside⟩
  · rintro i late s ⟨b, rfl, still⟩
    obtain ⟨given, opened⟩ := Option.isSome_iff_exists.mp (opens i b)
    have unasked := empty i late b given still opened
    have unsaid := (agrees i).left_size peerAddress unasked
    have goesOn : driver.final (exchange peerAddress (inputs i) given) = false := by
      rw [Driver.final, (agrees i).refused, unanswered _ unsaid, Bool.false_or]
    obtain ⟨next, closed⟩ := Option.isSome_iff_exists.mp
      (closes i (exchange peerAddress (inputs i) given).left)
    refine ⟨ready next, ⟨next, rfl, quiet i late _ _ closed unsaid⟩, ?_⟩
    rw [refines.goes _ _ _ opened goesOn _ closed]

end Closing

/-! ## The three loops -/

section Loops

variable (peerAddress : SocketAddr) {ioTimeoutInSecs : F64} {count : Nat}
  {inputs : Nat → NativeRound}

theorem asyncServer_leaves_iff (closes : ClosesAfter count inputs)
    (unraced : ∀ i, Unraced ioTimeoutInSecs (inputs i)) (agrees : ∀ i, KeepsGoing (inputs i).onMsg)
    (start : Buffer) :
    Leaves (TcpServer.handleTcpConnectionRound peerAddress ioTimeoutInSecs) inputs start ↔
      ∃ x ∈ exchanges (asyncServer ioTimeoutInSecs) peerAddress start (firstRounds inputs count),
        (asyncServer ioTimeoutInSecs).lost x = true := by
  refine (asyncServer_refines peerAddress ioTimeoutInSecs).leaves_iff count agrees ?_ ?_ ?_
    (fun _ => True) start (fun _ _ => trivial) ?_ (fun _ _ _ _ _ _ => trivial)
  · intro i b
    obtain ⟨chunk, read⟩ := closes.read i
    simp [asyncServer, asyncRead_of_unraced _ (unraced i), read, Except.toOption]
  · intro i b
    rfl
  · intro x empty
    simp [asyncServer, empty]
  · intro i late b given _ opened
    simp only [asyncServer, asyncRead_of_unraced _ (unraced i), closes.2 i late] at opened
    cases opened
    rfl

theorem fiberServer_leaves_iff (closes : ClosesAfter count inputs)
    (agrees : ∀ i, KeepsGoing (inputs i).onMsg) (start : Buffer) :
    Leaves (TcpServerFiber.handleTcpConnectionRound peerAddress) inputs ⟨"", start⟩ ↔
      ∃ x ∈ exchanges fiberServer peerAddress start (firstRounds inputs count),
        fiberServer.lost x = true := by
  refine (fiberServer_refines peerAddress).leaves_iff count agrees ?_ ?_ ?_
    (fun _ => True) start (fun _ _ => trivial) ?_ (fun _ _ _ _ _ _ => trivial)
  · intro i b
    obtain ⟨chunk, read⟩ := closes.read i
    simp [fiberServer, read]
  · intro i b
    rfl
  · intro x empty
    simp [fiberServer, empty]
  · intro i late b given _ opened
    simp only [fiberServer, closes.2 i late] at opened
    cases opened
    rfl

/-- The client asks before it reads, so the data of the last read before the
close is answered in one round more. -/
theorem client_leaves_iff (closes : ClosesAfter count inputs)
    (unraced : ∀ i, Unraced ioTimeoutInSecs (inputs i)) (agrees : ∀ i, KeepsGoing (inputs i).onMsg)
    (start : Buffer) :
    Leaves (TcpClient.handleClientStreamRound peerAddress ioTimeoutInSecs) inputs start ↔
      ∃ x ∈ exchanges (client ioTimeoutInSecs) peerAddress start (firstRounds inputs (count + 1)),
        (client ioTimeoutInSecs).lost x = true := by
  have refines := client_refines peerAddress ioTimeoutInSecs
  have silent : ∀ i, count ≤ i → ∀ left next,
      (client ioTimeoutInSecs).after (inputs i) left = some next → next.size = 0 := by
    intro i late left next closed
    simp only [client, asyncRead_of_unraced _ (unraced i), closes.2 i late] at closed
    cases closed
    rfl
  refine refines.leaves_iff (count + 1) agrees ?_ ?_ ?_ (fun b => b.size = 0) start ?_ ?_ ?_
  · intro i b
    rfl
  · intro i b
    obtain ⟨chunk, read⟩ := closes.read i
    simp [client, asyncRead_of_unraced _ (unraced i), read, Except.toOption]
  · intro x empty
    simp [client, empty]
  · intro b inside
    rw [firstRounds_succ] at inside
    obtain ⟨middle, before⟩ := inside_of_append inside
    obtain ⟨b', rfl⟩ := refines.inside_ready before
    rw [run_snoc _ before] at inside
    obtain ⟨_, next, _, closed, same⟩ := refines.again_ready inside
    cases same
    exact silent count le_rfl _ _ closed
  · intro i late b given quiet opened
    cases opened
    exact quiet
  · intro i late left next closed _
    exact silent i (by omega) left next closed

end Loops

/-- After the peer has closed, a native loop is left exactly when a reply to what
came before is lost. -/
theorem peer_close_ends_loop_iff (peerAddress : SocketAddr) (ioTimeoutInSecs : F64) (count : Nat)
    (inputs : Nat → NativeRound) (closes : ClosesAfter count inputs)
    (unraced : ∀ i, Unraced ioTimeoutInSecs (inputs i))
    (agrees : ∀ i, KeepsGoing (inputs i).onMsg) :
    (Leaves (TcpServer.handleTcpConnectionRound peerAddress ioTimeoutInSecs) inputs
        (Buffer.new .binary) ↔
      ∃ x ∈ exchanges (asyncServer ioTimeoutInSecs) peerAddress (Buffer.new .binary)
        (firstRounds inputs count), (asyncServer ioTimeoutInSecs).lost x = true) ∧
    (Leaves (TcpServerFiber.handleTcpConnectionRound peerAddress) inputs TcpServerFiber.FiberState.new ↔
      ∃ x ∈ exchanges fiberServer peerAddress (Buffer.new .binary)
        (firstRounds inputs count), fiberServer.lost x = true) ∧
    (Leaves (TcpClient.handleClientStreamRound peerAddress ioTimeoutInSecs) inputs
        (Buffer.new .binary) ↔
      ∃ x ∈ exchanges (client ioTimeoutInSecs) peerAddress (Buffer.new .binary)
        (firstRounds inputs (count + 1)), (client ioTimeoutInSecs).lost x = true) :=
  ⟨asyncServer_leaves_iff peerAddress closes unraced agrees _,
    fiberServer_leaves_iff peerAddress closes agrees _,
    client_leaves_iff peerAddress closes unraced agrees _⟩

/-- A peer that sends `sent` and closes, served by an echo whose writes `write`
answers. -/
def echoThenClosed (sent : Chunk) (write : List UInt8 → Except IoError Nat) (i : Nat) :
    NativeRound :=
  plainRound (.ok (if i = 0 then sent else .empty)) echo write

theorem echoThenClosed_closes (sent : Chunk) (write : List UInt8 → Except IoError Nat) :
    ClosesAfter 1 (echoThenClosed sent write) := by
  refine ⟨fun i _ => ⟨_, rfl⟩, fun i late => ?_⟩
  simp [echoThenClosed, plainRound, Nat.ne_of_gt (Nat.lt_of_lt_of_le Nat.zero_lt_one late)]

theorem echoThenClosed_keepsGoing (sent : Chunk) (write : List UInt8 → Except IoError Nat)
    (i : Nat) : KeepsGoing (echoThenClosed sent write i).onMsg :=
  fun _ _ _ => ⟨rfl, id⟩

theorem echoThenClosed_unraced (sent : Chunk) (write : List UInt8 → Except IoError Nat)
    (i : Nat) : Unraced (.finite 0) (echoThenClosed sent write i) :=
  selectTimeout_of_not_positive (by decide) _ _ _

/-- One byte, echoed to a socket that is gone. -/
def refusedEcho : Nat → NativeRound :=
  echoThenClosed ⟨[7], by decide⟩ (fun _ => .error brokenPipe)

/-- One byte, echoed to a socket that takes it. -/
def takenEcho : Nat → NativeRound :=
  echoThenClosed ⟨[7], by decide⟩ (fun offered => .ok offered.length)

/-- A refused echo ends the three loops. -/
theorem lost_echo_ends_loops :
    Leaves (TcpServer.handleTcpConnectionRound localPeer (.finite 0)) refusedEcho
      (Buffer.new .binary) ∧
    Leaves (TcpServerFiber.handleTcpConnectionRound localPeer) refusedEcho
      TcpServerFiber.FiberState.new ∧
    Leaves (TcpClient.handleClientStreamRound localPeer (.finite 0)) refusedEcho
      (Buffer.new .binary) := by
  obtain ⟨async, fiber, sender⟩ := peer_close_ends_loop_iff localPeer (.finite 0) 1 refusedEcho
    (echoThenClosed_closes _ _) (echoThenClosed_unraced _ _) (echoThenClosed_keepsGoing _ _)
  refine ⟨async.mpr ?_, fiber.mpr ?_, sender.mpr ?_⟩
  · simp [firstRounds, refusedEcho, exchanges, echoThenClosed, plainRound, echo, asyncServer, exchange,
      asyncRead, selectTimeout_of_not_positive, Except.isOk, Except.toBool,
      OnMessageCallback.run, F64.isPositive]
  · simp [firstRounds, refusedEcho, exchanges, echoThenClosed, plainRound, echo, fiberServer, exchange,
      Except.isOk, Except.toBool, OnMessageCallback.run]
  · simp [firstRounds, List.range_succ, refusedEcho, exchanges, echoThenClosed, plainRound, echo, client, exchange,
      Driver.final, Exchange.refused, asyncRead, selectTimeout_of_not_positive,
      OnMessageCallback.run, F64.isPositive, maxMsgSize]

/-- When the byte is echoed, none of the loops ends. -/
theorem closed_peer_never_ends_loops :
    ClosesAfter 1 takenEcho ∧ (∀ i, Unraced (.finite 0) (takenEcho i)) ∧
    (∀ i, KeepsGoing (takenEcho i).onMsg) ∧
    ¬Leaves (TcpServer.handleTcpConnectionRound localPeer (.finite 0)) takenEcho
      (Buffer.new .binary) ∧
    ¬Leaves (TcpServerFiber.handleTcpConnectionRound localPeer) takenEcho
      TcpServerFiber.FiberState.new ∧
    ¬Leaves (TcpClient.handleClientStreamRound localPeer (.finite 0)) takenEcho
      (Buffer.new .binary) := by
  have closes : ClosesAfter 1 takenEcho := echoThenClosed_closes _ _
  have unraced : ∀ i, Unraced (.finite 0) (takenEcho i) := echoThenClosed_unraced _ _
  have agrees : ∀ i, KeepsGoing (takenEcho i).onMsg := echoThenClosed_keepsGoing _ _
  refine ⟨closes, unraced, agrees, ?_, ?_, ?_⟩
  · rw [asyncServer_leaves_iff localPeer closes unraced agrees]
    simp [firstRounds, takenEcho, exchanges, echoThenClosed, plainRound, echo, asyncServer, exchange, Driver.final,
      Exchange.refused, asyncRead, selectTimeout_of_not_positive, Except.isOk, Except.toBool,
      OnMessageCallback.run, F64.isPositive, maxMsgSize]
  · rw [TcpServerFiber.FiberState.new, fiberServer_leaves_iff localPeer closes agrees]
    simp [firstRounds, takenEcho, exchanges, echoThenClosed, plainRound, echo, fiberServer, exchange, Driver.final,
      Exchange.refused, Except.isOk, Except.toBool, OnMessageCallback.run]
  · rw [client_leaves_iff localPeer closes unraced agrees]
    simp [firstRounds, List.range_succ, takenEcho, exchanges, echoThenClosed, plainRound, echo, client, exchange,
      Driver.final, Exchange.refused, asyncRead, selectTimeout_of_not_positive, Except.isOk,
      Except.toBool, OnMessageCallback.run, F64.isPositive, maxMsgSize]

end WolfEngine.Verified
