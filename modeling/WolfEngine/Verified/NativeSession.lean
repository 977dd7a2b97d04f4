import WolfEngine.Stream.Tcp.Client
import WolfEngine.Stream.Tcp.ServerFiber

/-! # Native sessions

What a native connection is for: a sequence of *exchanges*, in each of which the
callback is shown a buffer, leaves a buffer and agrees to go on or not.  The
three native loops drive the same kind of session and differ in a `Driver`: what
they do before an exchange, how they deliver the reply, when a lost reply ends
the session, and what they do after it.

`Refines` says that a loop body drives sessions as its driver says; from it,
`run_events` and `run_leaves_iff` give the whole run of the loop in terms of the
exchanges, once for the three loops.
-/

namespace WolfEngine.Verified

open WolfEngine.Stream EventLoop

/-- One run of the callback. -/
structure Exchange where
  round : NativeRound
  given : Buffer
  left : Buffer
  verdict : Verdict

/-- The callback of `round` runs on `given`. -/
def exchange (peerAddress : SocketAddr) (round : NativeRound) (given : Buffer) : Exchange :=
  let answer := round.onMsg.run round.elapsedSecs peerAddress given
  ⟨round, given, answer.2, answer.1⟩

namespace Exchange

def refused (x : Exchange) : Bool :=
  match x.verdict with
  | .ok () => false
  | .error _ => true

def event (x : Exchange) : NativeEvent := .message x.given x.left x.verdict

end Exchange

/-- How a loop drives its session. -/
structure Driver where
  /-- From the buffer at the head of the round to the one the callback is given;
  `none` when the session ends here. -/
  before : NativeRound → Buffer → Option Buffer
  /-- What the outside sees of an exchange. -/
  events : Exchange → List NativeEvent
  /-- Delivering the reply of this exchange ends the session. -/
  lost : Exchange → Bool
  /-- From the buffer the callback left to the one at the head of the next round. -/
  after : NativeRound → Buffer → Option Buffer

/-- The session goes no further than `x`: the callback refused, or its reply was
lost. -/
def Driver.final (driver : Driver) (x : Exchange) : Bool := x.refused || driver.lost x

/-- The buffer at the head of the next round, if there is one. -/
def Driver.next (driver : Driver) (peerAddress : SocketAddr) (round : NativeRound)
    (buffer : Buffer) : Option Buffer :=
  (driver.before round buffer).bind fun given =>
    let x := exchange peerAddress round given
    if driver.final x then none else driver.after round x.left

/-- The exchanges of a session. -/
def exchanges (driver : Driver) (peerAddress : SocketAddr) : Buffer → List NativeRound → List Exchange
  | _, [] => []
  | buffer, round :: rounds =>
    match driver.before round buffer with
    | none => []
    | some given =>
      let x := exchange peerAddress round given
      x :: if driver.final x then [] else
        match driver.after round x.left with
        | none => []
        | some next => exchanges driver peerAddress next rounds

/-- An exchange is the callback of one of the rounds on some buffer. -/
theorem exists_of_mem_exchanges {driver : Driver} {peerAddress : SocketAddr} {buffer : Buffer}
    {rounds : List NativeRound} {x : Exchange}
    (member : x ∈ exchanges driver peerAddress buffer rounds) :
    ∃ round ∈ rounds, ∃ given, x = exchange peerAddress round given := by
  induction rounds generalizing buffer with
  | nil => cases member
  | cons round rounds ih =>
    unfold exchanges at member
    split at member
    · cases member
    next given opened =>
      rcases List.mem_cons.mp member with rfl | later
      · exact ⟨round, List.mem_cons_self, given, rfl⟩
      · split at later
        · cases later
        · split at later
          · cases later
          · obtain ⟨r, inside, rest⟩ := ih later
            exact ⟨r, List.mem_cons_of_mem _ inside, rest⟩

/-- `body` drives sessions as `driver` says, the buffer `b` at the head of a round
being the loop state `ready b`. -/
structure Refines {σ ρ : Type} (body : Body NativeRound σ NativeEvent ρ) (driver : Driver)
    (peerAddress : SocketAddr) (ready : Buffer → σ) : Prop where
  idle : ∀ round b, driver.before round b = none →
    ∃ result, body round (ready b) = ⟨[], .leave result⟩
  finishes : ∀ round b given, driver.before round b = some given →
    driver.final (exchange peerAddress round given) = true →
    ∃ result, body round (ready b) =
      ⟨driver.events (exchange peerAddress round given), .leave result⟩
  ends : ∀ round b given, driver.before round b = some given →
    driver.final (exchange peerAddress round given) = false →
    driver.after round (exchange peerAddress round given).left = none →
    ∃ result, body round (ready b) =
      ⟨driver.events (exchange peerAddress round given), .leave result⟩
  goes : ∀ round b given, driver.before round b = some given →
    driver.final (exchange peerAddress round given) = false →
    ∀ next, driver.after round (exchange peerAddress round given).left = some next →
    body round (ready b) = ⟨driver.events (exchange peerAddress round given), .again (ready next)⟩

section Runs

variable {σ ρ : Type} {body : Body NativeRound σ NativeEvent ρ} {driver : Driver}
  {peerAddress : SocketAddr} {ready : Buffer → σ}

theorem Refines.again_of_next (refines : Refines body driver peerAddress ready)
    {round : NativeRound} {b next : Buffer} (goes : driver.next peerAddress round b = some next) :
    (body round (ready b)).control = .again (ready next) := by
  simp only [Driver.next, Option.bind_eq_some_iff] at goes
  obtain ⟨given, opened, rest⟩ := goes
  split at rest
  · cases rest
  next final =>
    rw [refines.goes round b given opened (Bool.eq_false_iff.mpr final) next rest]

theorem Refines.leave_of_next (refines : Refines body driver peerAddress ready)
    {round : NativeRound} {b : Buffer} (stops : driver.next peerAddress round b = none) :
    ∃ result, (body round (ready b)).control = .leave result := by
  simp only [Driver.next, Option.bind_eq_none_iff] at stops
  cases opened : driver.before round b with
  | none =>
    obtain ⟨result, ran⟩ := refines.idle round b opened
    exact ⟨result, by rw [ran]⟩
  | some given =>
    have rest := stops given opened
    split at rest
    next final =>
      obtain ⟨result, ran⟩ := refines.finishes round b given opened final
      exact ⟨result, by rw [ran]⟩
    next final =>
      obtain ⟨result, ran⟩ :=
        refines.ends round b given opened (Bool.eq_false_iff.mpr final) rest
      exact ⟨result, by rw [ran]⟩

/-- A round that goes round again is ready for the next one. -/
theorem Refines.again_ready (refines : Refines body driver peerAddress ready) {round : NativeRound}
    {b : Buffer} {state : σ} (again : (body round (ready b)).control = .again state) :
    ∃ given next, driver.before round b = some given ∧
      driver.after round (exchange peerAddress round given).left = some next ∧
      state = ready next := by
  cases opened : driver.before round b with
  | none =>
    obtain ⟨result, ran⟩ := refines.idle round b opened
    rw [ran] at again; cases again
  | some given =>
    cases final : driver.final (exchange peerAddress round given) with
    | true =>
      obtain ⟨result, ran⟩ := refines.finishes round b given opened final
      rw [ran] at again; cases again
    | false =>
      cases closed : driver.after round (exchange peerAddress round given).left with
      | none =>
        obtain ⟨result, ran⟩ := refines.ends round b given opened final closed
        rw [ran] at again; cases again
      | some next =>
        rw [refines.goes round b given opened final next closed] at again
        cases again
        exact ⟨given, next, rfl, closed, rfl⟩

theorem Refines.inside_ready (refines : Refines body driver peerAddress ready)
    {rounds : List NativeRound} {buffer : Buffer} {state : σ}
    (inside : (run body rounds (ready buffer)).control = .again state) : ∃ b, state = ready b := by
  refine run_invariant (fun s => ∃ b, s = ready b) ?_ ⟨buffer, rfl⟩ inside
  rintro round _ s s' ⟨b, rfl⟩ again
  obtain ⟨_, next, _, _, same⟩ := refines.again_ready again
  exact ⟨next, same⟩

/-- The outside sees of a run exactly the exchanges of its session. -/
theorem Refines.run_events (refines : Refines body driver peerAddress ready)
    (rounds : List NativeRound) (buffer : Buffer) :
    (run body rounds (ready buffer)).events =
      (exchanges driver peerAddress buffer rounds).flatMap driver.events := by
  induction rounds generalizing buffer with
  | nil => rfl
  | cons round rounds ih =>
    rw [run_cons, exchanges]
    cases opened : driver.before round buffer with
    | none =>
      obtain ⟨result, ran⟩ := refines.idle round buffer opened
      rw [ran]; rfl
    | some given =>
      cases final : driver.final (exchange peerAddress round given) with
      | true =>
        obtain ⟨result, ran⟩ := refines.finishes round buffer given opened final
        simp [ran, final, Outcome.andThen]
      | false =>
        cases closed : driver.after round (exchange peerAddress round given).left with
        | none =>
          obtain ⟨result, ran⟩ := refines.ends round buffer given opened final closed
          simp [ran, final, closed, Outcome.andThen]
        | some next =>
          have ran := refines.goes round buffer given opened final next closed
          simp [ran, final, closed, Outcome.andThen, ih]

/-- While no read ends it, a loop is left exactly when an exchange is the
session's last. -/
theorem Refines.run_leaves_iff (refines : Refines body driver peerAddress ready)
    {rounds : List NativeRound}
    (opens : ∀ round ∈ rounds, ∀ b, (driver.before round b).isSome)
    (closes : ∀ round ∈ rounds, ∀ b, (driver.after round b).isSome) (buffer : Buffer) :
    (∃ result, (run body rounds (ready buffer)).control = .leave result) ↔
      ∃ x ∈ exchanges driver peerAddress buffer rounds, driver.final x = true := by
  induction rounds generalizing buffer with
  | nil => simp [exchanges]
  | cons round rounds ih =>
    obtain ⟨given, opened⟩ := Option.isSome_iff_exists.mp (opens round List.mem_cons_self buffer)
    rw [run_cons, exchanges, opened]
    cases final : driver.final (exchange peerAddress round given) with
    | true =>
      obtain ⟨result, ran⟩ := refines.finishes round buffer given opened final
      simp [ran, final, Outcome.andThen]
    | false =>
      obtain ⟨next, closed⟩ := Option.isSome_iff_exists.mp
        (closes round List.mem_cons_self (exchange peerAddress round given).left)
      have ran := refines.goes round buffer given opened final next closed
      have rest := ih (fun r member => opens r (List.mem_cons_of_mem _ member))
        (fun r member => closes r (List.mem_cons_of_mem _ member)) next
      simpa [ran, final, closed, Outcome.andThen] using rest

end Runs

/-! ## Sessions that agree -/

section Agreement

variable {σ τ ρ : Type} {body : Body NativeRound σ NativeEvent ρ}
  {body' : Body NativeRound τ NativeEvent ρ} {driver driver' : Driver} {peerAddress : SocketAddr}
  {ready : Buffer → σ} {ready' : Buffer → τ}

/-- Two drivers agree on a round: they ask the callback alike and end alike. -/
structure Agree (driver driver' : Driver) (peerAddress : SocketAddr) (round : NativeRound) :
    Prop where
  before : ∀ b, driver.before round b = driver'.before round b
  final : ∀ b given, driver.before round b = some given →
    driver.final (exchange peerAddress round given) =
      driver'.final (exchange peerAddress round given)
  after : ∀ b, driver.after round b = driver'.after round b

theorem Agree.next {round : NativeRound} (agree : Agree driver driver' peerAddress round)
    (b : Buffer) : driver.next peerAddress round b = driver'.next peerAddress round b := by
  simp only [Driver.next, ← agree.before, ← agree.after]
  cases opened : driver.before round b with
  | none => rfl
  | some given => simp only [Option.bind_some, agree.final b given opened]

theorem exchanges_agree {rounds : List NativeRound}
    (agree : ∀ round ∈ rounds, Agree driver driver' peerAddress round) (buffer : Buffer) :
    exchanges driver peerAddress buffer rounds = exchanges driver' peerAddress buffer rounds := by
  induction rounds generalizing buffer with
  | nil => rfl
  | cons round rounds ih =>
    have here := agree round List.mem_cons_self
    have rest := ih fun r member => agree r (List.mem_cons_of_mem _ member)
    simp only [exchanges, ← here.before, ← here.after, rest]
    cases opened : driver.before round buffer with
    | none => rfl
    | some given => simp only [here.final buffer given opened]

/-- Loops whose drivers agree on every round are left by the same rounds. -/
theorem Refines.leave_together (refines : Refines body driver peerAddress ready)
    (refines' : Refines body' driver' peerAddress ready') {rounds : List NativeRound}
    (agree : ∀ round ∈ rounds, Agree driver driver' peerAddress round) (buffer : Buffer) :
    (∃ result, (run body rounds (ready buffer)).control = .leave result) ↔
      ∃ result, (run body' rounds (ready' buffer)).control = .leave result := by
  induction rounds generalizing buffer with
  | nil => simp
  | cons round rounds ih =>
    have here := (agree round List.mem_cons_self).next buffer
    cases goes : driver.next peerAddress round buffer with
    | none =>
      obtain ⟨result, left⟩ := refines.leave_of_next goes
      obtain ⟨result', left'⟩ := refines'.leave_of_next (here ▸ goes)
      exact iff_of_true ⟨result, run_cons_leave_iff.mpr (.inl left)⟩
        ⟨result', run_cons_leave_iff.mpr (.inl left')⟩
    | some next =>
      have again := refines.again_of_next goes
      have again' := refines'.again_of_next (here ▸ goes)
      rw [run_cons, run_cons, andThen_of_again _ again, andThen_of_again _ again']
      exact ih (fun r member => agree r (List.mem_cons_of_mem _ member)) next

end Agreement

/-! ## The three loops -/

section Loops

variable (peerAddress : SocketAddr) (ioTimeoutInSecs : F64)

/-- The read of an async loop, after its race with the timeout. -/
def asyncRead (round : NativeRound) : Option Chunk :=
  match selectTimeout ioTimeoutInSecs round.sleep (.error timeoutForRead) round.read with
  | some (.ok chunk) => some chunk
  | _ => none

theorem asyncRead_eq_some {round : NativeRound} {chunk : Chunk} :
    asyncRead ioTimeoutInSecs round = some chunk ↔
      selectTimeout ioTimeoutInSecs round.sleep (.error timeoutForRead) round.read =
        some (.ok chunk) := by
  unfold asyncRead
  split <;> simp_all

/-- The read does not lose its race with the timeout. -/
def Unraced (round : NativeRound) : Prop :=
  selectTimeout ioTimeoutInSecs round.sleep (.error timeoutForRead) round.read = some round.read

theorem asyncRead_of_unraced {round : NativeRound} (unraced : Unraced ioTimeoutInSecs round) :
    asyncRead ioTimeoutInSecs round = round.read.toOption := by
  unfold asyncRead
  rw [unraced]
  cases round.read <;> rfl

/-- What the async loops let the outside see of an exchange. -/
def slicedReply (x : Exchange) : List NativeEvent :=
  match x.verdict with
  | .error _ => [x.event]
  | .ok () =>
    if x.left.size > 0 then
      if x.left.size > maxMsgSize then [x.event] else
        match x.round.write x.left.payload with
        | .ok count => [x.event, .write x.left.payload (.ok count), .flush x.round.flush]
        | .error e => [x.event, .write x.left.payload (.error e)]
    else
      [x.event]

/-- The async server reads first, offers `buf[0..size]` and stops at a size past
the array or a failed write. -/
def asyncServer : Driver where
  before round b := (asyncRead ioTimeoutInSecs round).map b.receive
  events := slicedReply
  lost x := 0 < x.left.size &&
    (maxMsgSize < x.left.size || !(x.round.write x.left.payload).isOk)
  after _ b := some b

theorem asyncServer_refines :
    Refines (TcpServer.handleTcpConnectionRound peerAddress ioTimeoutInSecs)
      (asyncServer ioTimeoutInSecs) peerAddress id := by
  constructor
  case idle =>
    intro round b unread
    simp only [asyncServer, Option.map_eq_none_iff] at unread
    unfold TcpServer.handleTcpConnectionRound
    split
    · exact ⟨_, rfl⟩
    · exact ⟨_, rfl⟩
    next chunk read =>
      rw [(asyncRead_eq_some ioTimeoutInSecs).mpr read] at unread
      cases unread
  all_goals
    intro round b given opened
    simp only [asyncServer, Option.map_eq_some_iff, asyncRead_eq_some] at opened
    obtain ⟨chunk, read, rfl⟩ := opened
    unfold TcpServer.handleTcpConnectionRound
    simp only [id, read, Driver.final, asyncServer, Exchange.refused, exchange, Exchange.event,
      slicedReply]
    generalize round.onMsg.run round.elapsedSecs peerAddress (b.receive chunk) = answer
    obtain ⟨verdict, left⟩ := answer
    cases verdict with
    | error e => simp
    | ok agreed =>
      cases agreed
      by_cases written : left.size > 0
      · by_cases past : left.size > maxMsgSize
        · simp [written, past]
        · cases answer : round.write left.payload <;>
            simp [written, past, answer, Except.isOk, Except.toBool]
      · simp [written]

/-- The fiber server offers the whole array, after a refusal too. -/
def wholeReply (x : Exchange) : List NativeEvent :=
  if x.left.size > 0 then
    match x.round.write x.left.buf with
    | .ok sent =>
      [x.event, .write x.left.buf (.ok sent)] ++ (if sent > 0 then [.flush x.round.flush] else [])
    | .error e => [x.event, .write x.left.buf (.error e)]
  else
    [x.event]

def fiberServer : Driver where
  before round b :=
    match round.read with
    | .ok chunk => some (b.receive chunk)
    | .error _ => none
  events := wholeReply
  lost x := 0 < x.left.size && !(x.round.write x.left.buf).isOk
  after _ b := some b

theorem fiberServer_refines :
    Refines (TcpServerFiber.handleTcpConnectionRound peerAddress) fiberServer peerAddress
      (fun b => ⟨"", b⟩) := by
  constructor
  case idle =>
    intro round b unread
    unfold TcpServerFiber.handleTcpConnectionRound
    cases read : round.read with
    | ok chunk => simp [fiberServer, read] at unread
    | error e => exact ⟨_, if_pos (TcpServer.closeRequest_ne_empty e.debug)⟩
  all_goals
    intro round b given opened
    cases read : round.read with
    | error e => simp [fiberServer, read] at opened
    | ok chunk =>
      simp only [fiberServer, read, Option.some.injEq] at opened
      subst given
      unfold TcpServerFiber.handleTcpConnectionRound TcpServerFiber.onRead
      simp only [read, Driver.final, fiberServer, Exchange.refused, exchange, Exchange.event,
        wholeReply]
      generalize round.onMsg.run round.elapsedSecs peerAddress (b.receive chunk) = answer
      obtain ⟨verdict, left⟩ := answer
      by_cases written : left.size > 0
      · cases answer : round.write left.buf with
        | ok sent => cases verdict <;> simp [written, Except.isOk, Except.toBool, debugErr_ne_empty]
        | error e =>
          cases verdict <;>
            simp [written, Except.isOk, Except.toBool, debugErr_ne_empty, e.debugNonempty]
      · cases verdict <;> simp [written, debugErr_ne_empty]

/-- The client flushes only what was sent, and gives up on a failed flush. -/
def clientReply (x : Exchange) : List NativeEvent :=
  match x.verdict with
  | .error _ => [x.event]
  | .ok () =>
    if x.left.size > 0 then
      if x.left.size > maxMsgSize then [x.event] else
        match x.round.write x.left.payload with
        | .ok sent =>
          [x.event, .write x.left.payload (.ok sent)]
            ++ (if sent > 0 then [.flush x.round.flush] else [])
        | .error e => [x.event, .write x.left.payload (.error e)]
    else
      [x.event]

def client : Driver where
  before _ b := some b
  events := clientReply
  lost x := 0 < x.left.size && (maxMsgSize < x.left.size ||
    match x.round.write x.left.payload with
    | .ok sent => 0 < sent && !x.round.flush.isOk
    | .error _ => true)
  after round b := (asyncRead ioTimeoutInSecs round).map b.receive

theorem readBack_of_none {round : NativeRound} {b : Buffer}
    (unread : asyncRead ioTimeoutInSecs round = none) :
    ∃ result, TcpClient.readBack ioTimeoutInSecs round b = .leave result := by
  unfold TcpClient.readBack
  split
  · exact ⟨_, rfl⟩
  · exact ⟨_, rfl⟩
  next chunk read =>
    rw [(asyncRead_eq_some ioTimeoutInSecs).mpr read] at unread
    cases unread

theorem readBack_of_some {round : NativeRound} {b : Buffer} {chunk : Chunk}
    (read : asyncRead ioTimeoutInSecs round = some chunk) :
    TcpClient.readBack ioTimeoutInSecs round b = .again (b.receive chunk) := by
  simp only [TcpClient.readBack, (asyncRead_eq_some ioTimeoutInSecs).mp read]

theorem client_refines :
    Refines (TcpClient.handleClientStreamRound peerAddress ioTimeoutInSecs)
      (client ioTimeoutInSecs) peerAddress id := by
  constructor
  case idle =>
    intro round b unread
    cases unread
  all_goals
    intro round b given opened
    cases opened
    unfold TcpClient.handleClientStreamRound
    simp only [id, Driver.final, client, Exchange.refused, exchange, Exchange.event, clientReply]
    generalize round.onMsg.run round.elapsedSecs peerAddress b = answer
    obtain ⟨verdict, left⟩ := answer
    cases verdict with
    | error e => simp
    | ok agreed =>
      cases agreed
      by_cases written : left.size > 0
      · by_cases past : left.size > maxMsgSize
        · simp [written, past]
        · cases answer : round.write left.payload with
          | error e => simp [written, past, answer]
          | ok sent =>
            by_cases some_sent : sent > 0
            · cases round.flush <;>
                cases read : asyncRead ioTimeoutInSecs round <;>
                simp [written, past, answer, some_sent, read, Except.isOk,
                  Except.toBool, readBack_of_none, readBack_of_some]
            · cases read : asyncRead ioTimeoutInSecs round <;>
                simp [written, past, answer, some_sent, read, readBack_of_none, readBack_of_some]
      · cases read : asyncRead ioTimeoutInSecs round <;>
          simp [written, read, readBack_of_none, readBack_of_some]

end Loops

/-! ## Sample rounds -/

def localPeer : SocketAddr := .v4 0x7f000001 4242

def brokenPipe : IoError := ⟨"Kind(BrokenPipe)", ⟨"broken pipe"⟩, by decide⟩

/-- A round at time zero, whose sleep is never polled and whose flush succeeds. -/
def plainRound (read : Except IoError Chunk) (answer : Buffer → Verdict × Buffer)
    (write : List UInt8 → Except IoError Nat) : NativeRound where
  sleep := .unpolled
  read := read
  elapsedSecs := 0
  onMsg := ⟨fun _ _ => answer⟩
  write := write
  flush := .ok ()

/-- The callback that leaves what it was given. -/
def echo (msg : Buffer) : Verdict × Buffer := (.ok (), msg)

end WolfEngine.Verified
