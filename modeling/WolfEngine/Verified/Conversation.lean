import WolfEngine.Library.Kahn
import WolfEngine.Library.Transitions
import WolfEngine.Verified.NativeReplies

/-! # A client and a server in conversation

`handle_client_stream` at one end of a connection and `handle_tcp_connection` at the other.
A round of either loop is two steps, the callback with its write and the read, so that the
other end can do anything between them; the connection keeps the order of the bytes and
hands them out in pieces of any size.
-/

namespace WolfEngine.Verified.Conversation

open WolfEngine.Stream EventLoop Transitions

/-- What the two ends are set up with. -/
structure Setup where
  clientPeer : SocketAddr
  clientTimeout : F64
  serverPeer : SocketAddr
  serverTimeout : F64

/-- The rounds of both loops so far. -/
structure Talk where
  clientRounds : List NativeRound
  /-- The round that the client is in, if its read is still to come. -/
  asked : Option NativeRound
  serverRounds : List NativeRound
  /-- The read of the round that the server is in. -/
  heard : Option (Sleep × Except IoError Chunk)

def start : Talk := ⟨[], none, [], none⟩

inductive Act where
  | clientAsks (round : NativeRound)
  | clientReads (sleep : Sleep) (read : Except IoError Chunk)
  | serverReads (sleep : Sleep) (read : Except IoError Chunk)
  | serverAsks (round : NativeRound)

/-- A round with this read. -/
def reading (round : NativeRound) (sleep : Sleep) (read : Except IoError Chunk) : NativeRound :=
  { round with sleep, read }

/-- A round before its read. -/
def unread (round : NativeRound) : NativeRound := reading round .unpolled (.ok .empty)

/-- The loop was not left. -/
def inside {σ ε ρ : Type} (outcome : Outcome σ ε ρ) : Bool :=
  match outcome.control with
  | .again _ => true
  | .leave _ => false

/-- The bytes of a read, after its race with the timeout. -/
def bytesOf (result : Option (Except IoError Chunk)) : List UInt8 :=
  match result with
  | some (.ok chunk) => chunk.bytes
  | _ => []

def readResult (ioTimeoutInSecs : F64) (sleep : Sleep) (read : Except IoError Chunk) :
    Option (Except IoError Chunk) :=
  selectTimeout ioTimeoutInSecs sleep (.error timeoutForRead) read

/-- All bytes that were read in these rounds. -/
def taken (ioTimeoutInSecs : F64) (rounds : List NativeRound) : List UInt8 :=
  rounds.flatMap fun round => bytesOf (readResult ioTimeoutInSecs round.sleep round.read)

/-- The connection can give this to a reader that took `taken` of the bytes that were
sent: the next of them, or, if `closed`, the end of the stream behind the last. -/
def arrives (sent : List UInt8) (closed : Bool) (taken : List UInt8)
    (result : Option (Except IoError Chunk)) : Bool :=
  match result with
  | some (.ok chunk) =>
    (taken ++ chunk.bytes).isPrefixOf sent && (chunk.bytes ≠ [] || closed && taken == sent)
  | _ => true

namespace Talk

variable (setup : Setup) (talk : Talk)

def client : Outcome Buffer NativeEvent (Status Verdict) :=
  TcpClient.handleClientStream setup.clientPeer setup.clientTimeout
    (talk.clientRounds ++ talk.asked.toList)

def server : Outcome Buffer NativeEvent (Status String) :=
  TcpServer.handleTcpConnection setup.serverPeer setup.serverTimeout talk.serverRounds

/-- What the client has read. -/
def clientTaken : List UInt8 := taken setup.clientTimeout talk.clientRounds

/-- What the server has read. -/
def serverTaken : List UInt8 :=
  taken setup.serverTimeout talk.serverRounds ++
    match talk.heard with
    | some (sleep, read) => bytesOf (readResult setup.serverTimeout sleep read)
    | none => []

end Talk

def step (setup : Setup) (talk : Talk) : Act → Option Talk
  | .clientAsks round =>
    if talk.asked.isNone && inside (talk.client setup) then
      some { talk with asked := some (unread round) }
    else none
  | .clientReads sleep read =>
    match talk.asked with
    | none => none
    | some round =>
      if inside (talk.client setup) &&
          arrives (sentBytes (talk.server setup).events) (!inside (talk.server setup))
            (talk.clientTaken setup) (readResult setup.clientTimeout sleep read) then
        some { talk with
          clientRounds := talk.clientRounds ++ [reading round sleep read]
          asked := none }
      else none
  | .serverReads sleep read =>
    if talk.heard.isNone && inside (talk.server setup) &&
        arrives (sentBytes (talk.client setup).events) (!inside (talk.client setup))
          (talk.serverTaken setup) (readResult setup.serverTimeout sleep read) then
      some { talk with heard := some (sleep, read) }
    else none
  | .serverAsks round =>
    match talk.heard with
    | none => none
    | some (sleep, read) =>
      some { talk with
        serverRounds := talk.serverRounds ++ [reading round sleep read]
        heard := none }

/-- What the callbacks of a loop were shown. -/
def shown (events : List NativeEvent) : List UInt8 :=
  (messages events).flatMap fun message => message.1.payload

/-! ## One round -/

section Rounds

theorem inside_iff {σ ε ρ : Type} {outcome : Outcome σ ε ρ} :
    inside outcome = true ↔ ∃ state, outcome.control = .again state := by
  unfold inside
  cases outcome.control <;> simp

theorem bytesOf_readResult (ioTimeoutInSecs : F64) (round : NativeRound) :
    bytesOf (readResult ioTimeoutInSecs round.sleep round.read) =
      (asyncRead ioTimeoutInSecs round).elim [] Chunk.bytes := by
  unfold bytesOf readResult asyncRead
  split <;> simp_all

variable {σ ρ : Type} {body : Body NativeRound σ NativeEvent ρ} {driver : Driver}
  {peerAddress : SocketAddr} {ready : Buffer → σ}

theorem round_events (refines : Refines body driver peerAddress ready) (round : NativeRound)
    (b : Buffer) :
    (body round (ready b)).events =
      (driver.before round b).elim [] fun given => driver.events (exchange peerAddress round given) := by
  cases opened : driver.before round b with
  | none =>
    obtain ⟨result, ran⟩ := refines.idle round b opened
    simp [ran]
  | some given =>
    cases final : driver.final (exchange peerAddress round given) with
    | true =>
      obtain ⟨result, ran⟩ := refines.finishes round b given opened final
      simp [ran]
    | false =>
      cases closed : driver.after round (exchange peerAddress round given).left with
      | none =>
        obtain ⟨result, ran⟩ := refines.ends round b given opened final closed
        simp [ran]
      | some next =>
        have ran := refines.goes round b given opened final next closed
        simp [ran]

@[simp] theorem shown_append (first second : List NativeEvent) :
    shown (first ++ second) = shown first ++ shown second := by
  simp [shown, messages]

@[simp] theorem messages_clientReply (x : Exchange) :
    messages (clientReply x) = [(x.given, x.left, x.verdict)] := by
  change messages (clientReply x) = messages [x.event]
  unfold clientReply
  split
  · rfl
  · split
    · split
      · rfl
      · cases x.round.write x.left.payload with
        | ok sent => by_cases some : sent > 0 <;> simp only [some, if_true, if_false] <;> rfl
        | error e => rfl
    · rfl

@[simp] theorem messages_slicedReply (x : Exchange) :
    messages (slicedReply x) = [(x.given, x.left, x.verdict)] := by
  have tells : (asyncServer (.finite 0)).Tells := asyncServer_tells
  exact tells x

theorem shown_clientReply (x : Exchange) : shown (clientReply x) = x.given.payload := by
  simp [shown]

theorem shown_slicedReply (x : Exchange) : shown (slicedReply x) = x.given.payload := by
  simp [shown]

/-- Up to its read, a round of the client that goes on is the same round with any other
read. -/
theorem client_round_read {peerAddress : SocketAddr} {ioTimeoutInSecs : F64} {asked : NativeRound}
    {b later : Buffer}
    (goes : (TcpClient.handleClientStreamRound peerAddress ioTimeoutInSecs asked b).control =
      .again later)
    (sleep : Sleep) (read : Except IoError Chunk) :
    let round := TcpClient.handleClientStreamRound peerAddress ioTimeoutInSecs
      (reading asked sleep read) b
    let bytes := bytesOf (readResult ioTimeoutInSecs sleep read)
    round.events = (TcpClient.handleClientStreamRound peerAddress ioTimeoutInSecs asked b).events ∧
      (∀ next, round.control = .again next →
        ∃ chunk, readResult ioTimeoutInSecs sleep read = some (.ok chunk) ∧
          next.payload = chunk.bytes) ∧
      (inside round = false → bytes = []) := by
  intro round bytes
  have refines := client_refines peerAddress ioTimeoutInSecs
  have final : (client ioTimeoutInSecs).final
      (exchange peerAddress (reading asked sleep read) b) = false := by
    cases final : (client ioTimeoutInSecs).final (exchange peerAddress asked b) with
    | false => exact final
    | true =>
      obtain ⟨result, ran⟩ := refines.finishes asked b b rfl final
      rw [id] at ran
      rw [ran] at goes
      cases goes
  refine ⟨(round_events refines _ b).trans (round_events refines asked b).symm, ?_⟩
  have same : bytes = (asyncRead ioTimeoutInSecs (reading asked sleep read)).elim [] Chunk.bytes :=
    bytesOf_readResult ioTimeoutInSecs (reading asked sleep read)
  cases result : asyncRead ioTimeoutInSecs (reading asked sleep read) with
  | none =>
    have closed : (client ioTimeoutInSecs).after (reading asked sleep read)
        (exchange peerAddress (reading asked sleep read) b).left = none := by
      simp [client, result]
    obtain ⟨_, ran⟩ := refines.ends _ b b rfl final closed
    refine ⟨fun next again => ?_, fun _ => by simp [same, result]⟩
    rw [show round = _ from ran] at again
    cases again
  | some chunk =>
    have closed : (client ioTimeoutInSecs).after (reading asked sleep read)
        (exchange peerAddress (reading asked sleep read) b).left =
          some ((exchange peerAddress (reading asked sleep read) b).left.receive chunk) := by
      simp [client, result]
    have ran := refines.goes _ b b rfl final _ closed
    rw [show round = _ from ran]
    refine ⟨fun next again => ?_, fun left => by simp [inside] at left⟩
    cases again
    exact ⟨chunk, (asyncRead_eq_some ioTimeoutInSecs).mp result, Buffer.receive_payload _ _⟩

end Rounds

/-! ## What a step does -/

section Steps

variable {setup : Setup} {talk after : Talk} {round : NativeRound} {sleep : Sleep}
  {read : Except IoError Chunk}

theorem clientAsks_spec (stepped : step setup talk (.clientAsks round) = some after) :
    ∃ b, talk.asked = none ∧ (talk.client setup).control = .again b ∧
      after = { talk with asked := some (unread round) } ∧
      (after.client setup).events =
        (talk.client setup).events ++ clientReply (exchange setup.clientPeer round b) := by
  simp only [step, Option.ite_none_right_eq_some, Bool.and_eq_true, Option.isNone_iff_eq_none,
    Option.some.injEq] at stepped
  obtain ⟨⟨unasked, within⟩, rfl⟩ := stepped
  obtain ⟨b, control⟩ := inside_iff.mp within
  refine ⟨b, unasked, control, rfl, ?_⟩
  simp only [Talk.client, TcpClient.handleClientStream, unasked, Option.toList_none,
    Option.toList_some, List.append_nil] at control ⊢
  rw [run_snoc _ control]
  have events := round_events (client_refines setup.clientPeer setup.clientTimeout) (unread round) b
  exact congrArg _ events

theorem clientReads_spec (stepped : step setup talk (.clientReads sleep read) = some after) :
    ∃ asked, talk.asked = some asked ∧ inside (talk.client setup) = true ∧
      arrives (sentBytes (talk.server setup).events) (!inside (talk.server setup))
        (talk.clientTaken setup) (readResult setup.clientTimeout sleep read) = true ∧
      after = { talk with
        clientRounds := talk.clientRounds ++ [reading asked sleep read]
        asked := none } ∧
      (after.client setup).events = (talk.client setup).events ∧
      (∀ b, (after.client setup).control = .again b →
        ∃ chunk, readResult setup.clientTimeout sleep read = some (.ok chunk) ∧
          b.payload = chunk.bytes) ∧
      (inside (after.client setup) = false →
        bytesOf (readResult setup.clientTimeout sleep read) = []) := by
  unfold step at stepped
  cases waiting : talk.asked with
  | none => simp [waiting] at stepped
  | some asked =>
    simp only [waiting, Option.ite_none_right_eq_some, Bool.and_eq_true, Option.some.injEq] at stepped
    obtain ⟨⟨within, arrived⟩, rfl⟩ := stepped
    refine ⟨asked, rfl, within, arrived, rfl, ?_⟩
    obtain ⟨later, control⟩ := inside_iff.mp within
    simp only [Talk.client, TcpClient.handleClientStream, waiting, Option.toList_none,
      Option.toList_some, List.append_nil] at control ⊢
    obtain ⟨b, before⟩ := inside_of_append control
    rw [run_snoc _ before] at control ⊢
    rw [run_snoc _ before]
    have reads := client_round_read control sleep read
    exact ⟨congrArg (_ ++ ·) reads.1, reads.2⟩

theorem serverReads_spec (stepped : step setup talk (.serverReads sleep read) = some after) :
    talk.heard = none ∧ inside (talk.server setup) = true ∧
      arrives (sentBytes (talk.client setup).events) (!inside (talk.client setup))
        (talk.serverTaken setup) (readResult setup.serverTimeout sleep read) = true ∧
      after = { talk with heard := some (sleep, read) } := by
  simp only [step, Option.ite_none_right_eq_some, Bool.and_eq_true, Option.isNone_iff_eq_none,
    Option.some.injEq] at stepped
  obtain ⟨⟨⟨unheard, within⟩, arrived⟩, rfl⟩ := stepped
  exact ⟨unheard, within, arrived, rfl⟩

theorem serverAsks_spec (within : inside (talk.server setup) = true)
    (stepped : step setup talk (.serverAsks round) = some after) :
    ∃ sleep read b, talk.heard = some (sleep, read) ∧ (talk.server setup).control = .again b ∧
      after = { talk with
        serverRounds := talk.serverRounds ++ [reading round sleep read]
        heard := none } ∧
      (after.server setup).events = (talk.server setup).events ++
        (asyncRead setup.serverTimeout (reading round sleep read)).elim [] fun chunk =>
          slicedReply (exchange setup.serverPeer (reading round sleep read) (b.receive chunk)) := by
  unfold step at stepped
  cases heard : talk.heard with
  | none => simp [heard] at stepped
  | some heardRead =>
    obtain ⟨sleep, read⟩ := heardRead
    simp only [heard, Option.some.injEq] at stepped
    subst stepped
    obtain ⟨b, control⟩ := inside_iff.mp within
    refine ⟨sleep, read, b, rfl, control, rfl, ?_⟩
    simp only [Talk.server, TcpServer.handleTcpConnection] at control ⊢
    rw [run_snoc _ control]
    have events := round_events (asyncServer_refines setup.serverPeer setup.serverTimeout)
      (reading round sleep read) b
    have given : (asyncServer setup.serverTimeout).before (reading round sleep read) b =
        (asyncRead setup.serverTimeout (reading round sleep read)).map b.receive := rfl
    rw [given, Option.elim_map] at events
    exact congrArg (_ ++ ·) events

end Steps

/-! ## Every step -/

/-- What holds between the loops. -/
structure Sane (setup : Setup) (talk : Talk) : Prop where
  clientAsked : talk.asked ≠ none → shown (talk.client setup).events = talk.clientTaken setup
  clientReady : talk.asked = none → ∀ b, (talk.client setup).control = .again b →
    shown (talk.client setup).events ++ b.payload = talk.clientTaken setup
  clientLeft : talk.asked = none → inside (talk.client setup) = false →
    shown (talk.client setup).events = talk.clientTaken setup
  serverShown : shown (talk.server setup).events = taken setup.serverTimeout talk.serverRounds
  serverHeard : talk.heard ≠ none → inside (talk.server setup) = true
  toClient : talk.clientTaken setup <+: sentBytes (talk.server setup).events
  toServer : talk.serverTaken setup <+: sentBytes (talk.client setup).events

theorem taken_snoc (ioTimeoutInSecs : F64) (rounds : List NativeRound) (round : NativeRound)
    (sleep : Sleep) (read : Except IoError Chunk) :
    taken ioTimeoutInSecs (rounds ++ [reading round sleep read]) =
      taken ioTimeoutInSecs rounds ++ bytesOf (readResult ioTimeoutInSecs sleep read) := by
  simp [taken, reading]

/-- What is taken off the connection was on it. -/
theorem arrives_prefix {sent taken : List UInt8} {closed : Bool}
    {result : Option (Except IoError Chunk)} (within : taken <+: sent)
    (arrived : arrives sent closed taken result = true) : taken ++ bytesOf result <+: sent := by
  unfold arrives at arrived
  unfold bytesOf
  split at arrived
  · simp only [Bool.and_eq_true, List.isPrefixOf_iff_prefix] at arrived
    exact arrived.1
  · simpa using within

theorem sane_start (setup : Setup) : Sane setup start where
  clientAsked asked := absurd rfl asked
  clientReady _ b control := by
    cases control
    rfl
  clientLeft _ left := by cases left
  serverShown := rfl
  serverHeard heard := absurd rfl heard
  toClient := List.nil_prefix
  toServer := List.nil_prefix

section Step

variable {setup : Setup} {talk after : Talk}

theorem serverTaken_of_unheard (unheard : talk.heard = none) :
    talk.serverTaken setup = taken setup.serverTimeout talk.serverRounds := by
  simp [Talk.serverTaken, unheard]

theorem serverTaken_of_heard {sleep : Sleep} {read : Except IoError Chunk}
    (heard : talk.heard = some (sleep, read)) :
    talk.serverTaken setup = taken setup.serverTimeout talk.serverRounds ++
      bytesOf (readResult setup.serverTimeout sleep read) := by
  simp [Talk.serverTaken, heard]

theorem sentBytes_append (first second : List NativeEvent) :
    sentBytes (first ++ second) = sentBytes first ++ sentBytes second := by
  simp [sentBytes]

theorem Sane.clientAsks {round : NativeRound} (sane : Sane setup talk)
    (stepped : step setup talk (.clientAsks round) = some after) : Sane setup after := by
  obtain ⟨b, unasked, control, rfl, events⟩ := clientAsks_spec stepped
  have shows := sane.clientReady unasked b control
  constructor
  case clientAsked =>
    intro _
    rw [events, shown_append, shown_clientReply]
    exact shows
  case clientReady => intro none; cases none
  case clientLeft => intro none; cases none
  case serverShown => exact sane.serverShown
  case serverHeard => exact sane.serverHeard
  case toClient => exact sane.toClient
  case toServer =>
    rw [events, sentBytes_append]
    exact sane.toServer.trans (List.prefix_append _ _)

theorem Sane.clientReads {sleep : Sleep} {read : Except IoError Chunk} (sane : Sane setup talk)
    (stepped : step setup talk (.clientReads sleep read) = some after) : Sane setup after := by
  obtain ⟨asked, waiting, _, arrived, rfl, events, ready, left⟩ := clientReads_spec stepped
  have shows := sane.clientAsked (by simp [waiting])
  have takes := taken_snoc setup.clientTimeout talk.clientRounds asked sleep read
  constructor
  case clientAsked => intro some; exact absurd rfl some
  case clientReady =>
    intro _ b control
    obtain ⟨chunk, result, payload⟩ := ready b control
    rw [events, shows, payload]
    exact (takes.trans (by rw [result]; rfl)).symm
  case clientLeft =>
    intro _ ended
    rw [events, shows]
    exact (takes.trans (by rw [left ended, List.append_nil]; rfl)).symm
  case serverShown => exact sane.serverShown
  case serverHeard => exact sane.serverHeard
  case toClient =>
    rw [Talk.clientTaken, takes]
    exact arrives_prefix sane.toClient arrived
  case toServer =>
    rw [events]
    exact sane.toServer

theorem Sane.serverReads {sleep : Sleep} {read : Except IoError Chunk} (sane : Sane setup talk)
    (stepped : step setup talk (.serverReads sleep read) = some after) : Sane setup after := by
  obtain ⟨unheard, within, arrived, rfl⟩ := serverReads_spec stepped
  constructor
  case clientAsked => exact sane.clientAsked
  case clientReady => exact sane.clientReady
  case clientLeft => exact sane.clientLeft
  case serverShown => exact sane.serverShown
  case serverHeard => exact fun _ => within
  case toClient => exact sane.toClient
  case toServer =>
    have before : talk.serverTaken setup = _ := serverTaken_of_unheard unheard
    rw [serverTaken_of_heard (show some (sleep, read) = _ from rfl)]
    exact before ▸ arrives_prefix sane.toServer arrived

theorem Sane.within {round : NativeRound} (sane : Sane setup talk)
    (stepped : step setup talk (.serverAsks round) = some after) :
    inside (talk.server setup) = true := by
  apply sane.serverHeard
  intro unheard
  simp [step, unheard] at stepped

theorem Sane.serverAsks {round : NativeRound} (sane : Sane setup talk)
    (stepped : step setup talk (.serverAsks round) = some after) : Sane setup after := by
  have within := sane.within stepped
  obtain ⟨sleep, read, b, heard, _, rfl, events⟩ := serverAsks_spec within stepped
  have takes := taken_snoc setup.serverTimeout talk.serverRounds round sleep read
  constructor
  case clientAsked => exact sane.clientAsked
  case clientReady => exact sane.clientReady
  case clientLeft => exact sane.clientLeft
  case serverShown =>
    rw [events, shown_append, sane.serverShown, takes]
    have bytes := bytesOf_readResult setup.serverTimeout (reading round sleep read)
    rw [show bytesOf (readResult setup.serverTimeout sleep read) = _ from bytes]
    cases asyncRead setup.serverTimeout (reading round sleep read) with
    | none => rfl
    | some chunk => simp [shown_slicedReply, exchange]
  case serverHeard => intro some; exact absurd rfl some
  case toClient =>
    rw [events, sentBytes_append]
    exact sane.toClient.trans (List.prefix_append _ _)
  case toServer =>
    rw [serverTaken_of_unheard rfl, takes, ← serverTaken_of_heard heard]
    exact sane.toServer

theorem Sane.step {act : Act} (sane : Sane setup talk)
    (stepped : Conversation.step setup talk act = some after) : Sane setup after := by
  cases act with
  | clientAsks round => exact sane.clientAsks stepped
  | clientReads sleep read => exact sane.clientReads stepped
  | serverReads sleep read => exact sane.serverReads stepped
  | serverAsks round => exact sane.serverAsks stepped

theorem Sane.clientShown (sane : Sane setup talk) :
    shown (talk.client setup).events <+: talk.clientTaken setup := by
  cases waiting : talk.asked with
  | some asked => rw [sane.clientAsked (by simp [waiting])]
  | none =>
    cases within : inside (talk.client setup) with
    | false => rw [sane.clientLeft waiting within]
    | true =>
      obtain ⟨b, control⟩ := inside_iff.mp within
      rw [← sane.clientReady waiting b control]
      exact List.prefix_append _ _

theorem sane_run {acts : List Act} (ran : run (step setup) start acts = some talk) :
    Sane setup talk :=
  run_invariant (Sane setup) (fun _ _ _ _ sane stepped => sane.step stepped) (sane_start setup) ran

end Step

/-! ## The end of the stream -/

/-- The end of the stream was read, behind everything that was sent. -/
def Ended {ρ : Type} (taken : List UInt8) (peer : Outcome Buffer NativeEvent ρ) : Prop :=
  inside peer = false ∧ taken = sentBytes peer.events

/-- An empty message is the end of the stream. -/
structure Ends (setup : Setup) (talk : Talk) : Prop where
  serverShown : ∀ message ∈ messages (talk.server setup).events, message.1.payload = [] →
    Ended (taken setup.serverTimeout talk.serverRounds) (talk.client setup)
  serverHeard : ∀ sleep read chunk, talk.heard = some (sleep, read) →
    readResult setup.serverTimeout sleep read = some (.ok chunk) → chunk.bytes = [] →
    Ended (taken setup.serverTimeout talk.serverRounds) (talk.client setup)
  clientShown : ∀ message ∈ (messages (talk.client setup).events).tail, message.1.payload = [] →
    Ended (shown (talk.client setup).events) (talk.server setup)
  clientReady : talk.asked = none → talk.clientRounds ≠ [] →
    ∀ b, (talk.client setup).control = .again b → b.payload = [] →
    Ended (talk.clientTaken setup) (talk.server setup)

theorem ends_start (setup : Setup) : Ends setup start where
  serverShown _ shown := by cases shown
  serverHeard _ _ _ heard := by cases heard
  clientShown _ shown := by cases shown
  clientReady _ rounds := absurd rfl rounds

section Step

variable {setup : Setup} {talk after : Talk}

theorem messages_append (first second : List NativeEvent) :
    messages (first ++ second) = messages first ++ messages second := by
  simp [messages]

/-- What arrives empty is the end. -/
theorem arrives_empty {sent taken : List UInt8} {closed : Bool} {chunk : Chunk}
    (empty : chunk.bytes = []) (arrived : arrives sent closed taken (some (.ok chunk)) = true) :
    closed = true ∧ taken = sent := by
  simp only [arrives, empty, List.append_nil] at arrived
  simp at arrived
  exact arrived.2

theorem Ends.clientAsks {round : NativeRound} (sane : Sane setup talk) (ends : Ends setup talk)
    (stepped : step setup talk (.clientAsks round) = some after) : Ends setup after := by
  obtain ⟨b, unasked, control, rfl, events⟩ := clientAsks_spec stepped
  have within : inside (talk.client setup) = true := inside_iff.mpr ⟨b, control⟩
  have running : ∀ {bytes}, ¬Ended bytes (talk.client setup) := by
    intro bytes ended
    simp [ended.1] at within
  constructor
  case serverShown =>
    intro message member empty
    exact absurd (ends.serverShown message member empty) running
  case serverHeard =>
    intro sleep read chunk heard result empty
    exact absurd (ends.serverHeard sleep read chunk heard result empty) running
  case clientShown =>
    intro message member empty
    have afterwards := (sane.clientAsks stepped)
    have all := afterwards.clientAsked (by simp)
    have part := afterwards.toClient
    rw [events, messages_append, messages_clientReply] at member
    cases earlier : messages (talk.client setup).events with
    | nil => simp [earlier] at member
    | cons first rest =>
      rw [earlier, List.cons_append, List.tail_cons, List.mem_append, List.mem_singleton] at member
      cases member with
      | inl before =>
        have ended := ends.clientShown message (by simp [earlier, before]) empty
        refine ⟨ended.1, ?_⟩
        rw [← all] at part
        apply part.eq_of_length_le
        rw [events, shown_append, List.length_append]
        show (sentBytes (talk.server setup).events).length ≤ _
        rw [← ended.2]
        exact Nat.le_add_right _ _
      | inr last =>
        rw [last] at empty
        have ended := ends.clientReady unasked (by
          intro none
          simp [Talk.client, TcpClient.handleClientStream, none, unasked, messages] at earlier)
          b control empty
        exact ⟨ended.1, all.trans ended.2⟩
  case clientReady => intro none; cases none

theorem Ends.clientReads {sleep : Sleep} {read : Except IoError Chunk} (ends : Ends setup talk)
    (stepped : step setup talk (.clientReads sleep read) = some after) : Ends setup after := by
  obtain ⟨asked, waiting, within, arrived, rfl, events, ready, left⟩ := clientReads_spec stepped
  have takes := taken_snoc setup.clientTimeout talk.clientRounds asked sleep read
  have running : ∀ {bytes}, ¬Ended bytes (talk.client setup) := by
    intro bytes ended
    simp [ended.1] at within
  constructor
  case serverShown =>
    intro message member empty
    exact absurd (ends.serverShown message member empty) running
  case serverHeard =>
    intro sleep read chunk heard result empty
    exact absurd (ends.serverHeard sleep read chunk heard result empty) running
  case clientShown =>
    intro message member empty
    rw [events] at member ⊢
    exact ends.clientShown message member empty
  case clientReady =>
    intro _ _ b control empty
    obtain ⟨chunk, result, payload⟩ := ready b control
    rw [result] at arrived takes
    have ended := arrives_empty (payload.symm.trans empty) arrived
    have closed : inside (talk.server setup) = false := by simpa using ended.1
    refine ⟨closed, ?_⟩
    rw [Talk.clientTaken, takes, bytesOf, payload.symm.trans empty, List.append_nil]
    exact ended.2

theorem Ends.serverReads {sleep : Sleep} {read : Except IoError Chunk} (ends : Ends setup talk)
    (stepped : step setup talk (.serverReads sleep read) = some after) : Ends setup after := by
  obtain ⟨unheard, within, arrived, rfl⟩ := serverReads_spec stepped
  constructor
  case serverShown => exact ends.serverShown
  case serverHeard =>
    intro sleep read chunk heard result empty
    cases heard
    rw [result, serverTaken_of_unheard unheard] at arrived
    have ended := arrives_empty empty arrived
    have closed : inside (talk.client setup) = false := by simpa using ended.1
    exact ⟨closed, ended.2⟩
  case clientShown => exact ends.clientShown
  case clientReady => exact ends.clientReady

theorem Ends.serverAsks {round : NativeRound} (sane : Sane setup talk) (ends : Ends setup talk)
    (stepped : step setup talk (.serverAsks round) = some after) : Ends setup after := by
  have within := sane.within stepped
  obtain ⟨sleep, read, b, heard, _, rfl, events⟩ := serverAsks_spec within stepped
  have takes := taken_snoc setup.serverTimeout talk.serverRounds round sleep read
  have running : ∀ {bytes}, ¬Ended bytes (talk.server setup) := by
    intro bytes ended
    simp [ended.1] at within
  have still : Ended (taken setup.serverTimeout talk.serverRounds) (talk.client setup) →
      Ended (taken setup.serverTimeout (talk.serverRounds ++ [reading round sleep read]))
        (talk.client setup) := by
    intro ended
    have part := sane.toServer
    rw [serverTaken_of_heard heard, ended.2] at part
    have lengths := part.length_le
    rw [List.length_append] at lengths
    have nothing : bytesOf (readResult setup.serverTimeout sleep read) = [] :=
      List.eq_nil_of_length_eq_zero (by omega)
    exact ⟨ended.1, by rw [takes, nothing, List.append_nil]; exact ended.2⟩
  constructor
  case serverShown =>
    intro message member empty
    rw [events, messages_append, List.mem_append] at member
    cases member with
    | inl before => exact still (ends.serverShown message before empty)
    | inr last =>
      cases result : asyncRead setup.serverTimeout (reading round sleep read) with
      | none => simp [result, messages] at last
      | some chunk =>
        simp only [result, Option.elim_some, messages_slicedReply, List.mem_singleton] at last
        rw [last] at empty
        have heardEmpty : chunk.bytes = [] := by simpa [exchange] using empty
        exact still (ends.serverHeard sleep read chunk heard
          ((asyncRead_eq_some setup.serverTimeout).mp result) heardEmpty)
  case serverHeard => intro _ _ _ none; cases none
  case clientShown =>
    intro message member empty
    exact absurd (ends.clientShown message member empty) running
  case clientReady =>
    intro unasked rounds b control empty
    exact absurd (ends.clientReady unasked rounds b control empty) running

theorem ends_run {acts : List Act} (ran : run (step setup) start acts = some talk) :
    Ends setup talk := by
  have both := run_invariant (fun talk => Sane setup talk ∧ Ends setup talk)
    (fun act _ talk after (before : Sane setup talk ∧ Ends setup talk) stepped => by
      refine ⟨before.1.step stepped, ?_⟩
      cases act with
      | clientAsks round => exact before.2.clientAsks before.1 stepped
      | clientReads sleep read => exact before.2.clientReads stepped
      | serverReads sleep read => exact before.2.serverReads stepped
      | serverAsks round => exact before.2.serverAsks before.1 stepped)
    ⟨sane_start setup, ends_start setup⟩ ran
  exact both.2

end Step

/-- Whatever the connection does with the bytes and however the ends take turns: each
callback is shown the bytes that the other end sent, in their order, and an empty message
(but the client's first) only when the other end has left its loop and all it sent was
shown. -/
theorem streams_kept {setup : Setup} {talk : Talk} {acts : List Act}
    (ran : run (step setup) start acts = some talk) :
    (shown (talk.server setup).events <+: sentBytes (talk.client setup).events ∧
      shown (talk.client setup).events <+: sentBytes (talk.server setup).events) ∧
    (∀ message ∈ messages (talk.server setup).events, message.1.size = 0 →
      Ended (shown (talk.server setup).events) (talk.client setup)) ∧
    ∀ message ∈ (messages (talk.client setup).events).tail, message.1.size = 0 →
      Ended (shown (talk.client setup).events) (talk.server setup) := by
  have sane := sane_run ran
  have ends := ends_run ran
  refine ⟨⟨?_, ?_⟩, ?_, ?_⟩
  · rw [sane.serverShown]
    exact (List.prefix_append _ _).trans sane.toServer
  · exact sane.clientShown.trans sane.toClient
  · intro message member empty
    rw [sane.serverShown]
    exact ends.serverShown message member (Buffer.payload_of_size_zero empty)
  · intro message member empty
    exact ends.clientShown message member (Buffer.payload_of_size_zero empty)

section Witness

def ping : Chunk := ⟨[7, 8], Nat.le_of_ble_eq_true rfl⟩

/-- A callback that replies with these bytes, whatever it is shown. -/
def replyWith (chunk : Chunk) (msg : Buffer) : Verdict × Buffer := (.ok (), msg.receive chunk)

/-- A round whose write takes all. -/
def answering (answer : Buffer → Verdict × Buffer) : NativeRound :=
  plainRound (.ok .empty) answer fun offered => .ok offered.length

def plainSetup : Setup := ⟨localPeer, .finite 0, localPeer, .finite 0⟩

/-- The client sends two bytes and gets their echo; then it has nothing more to send. -/
def greets : List Act :=
  [.clientAsks (answering (replyWith ping)), .serverReads .unpolled (.ok ping),
    .serverAsks (answering echo), .clientReads .unpolled (.ok ping),
    .clientAsks (answering (replyWith .empty))]

def greeted : Talk where
  clientRounds := [reading (unread (answering (replyWith ping))) .unpolled (.ok ping)]
  asked := some (unread (answering (replyWith .empty)))
  serverRounds := [reading (answering echo) .unpolled (.ok ping)]
  heard := none

theorem greets_run : run (step plainSetup) start greets = some greeted := rfl

theorem streams_kept_greeted : shown (greeted.server plainSetup).events <+: [7, 8] ∧
    shown (greeted.client plainSetup).events <+: [7, 8] :=
  (streams_kept greets_run).1

end Witness

end WolfEngine.Verified.Conversation
