import WolfEngine.Verified.Conversation

/-! # Conversations that the connection cannot change

How a connection cuts the bytes up is not for its ends to choose.  Where the replies on
both sides depend on the bytes and not on their pieces, all that it and the order of the
steps can change is how far a conversation has come.
-/

namespace WolfEngine.Verified.Conversation

open WolfEngine.Stream EventLoop Transitions

/-! ## What goes out of the replies -/

/-- A write takes all it is offered, or fails. -/
def TakesWhole (write : List UInt8 → Except IoError Nat) : Prop :=
  ∀ offered, write offered = .ok offered.length ∨ ∃ e, write offered = .error e

/-- The callbacks agreed. -/
def Agreed (events : List NativeEvent) : Prop :=
  ∀ message ∈ messages events, message.2.2 = .ok ()

section Wire

variable {x : Exchange} {ioTimeoutInSecs : F64}

theorem final_iff : (asyncServer ioTimeoutInSecs).final x = false ↔
    x.verdict = .ok () ∧
      (x.left.size = 0 ∨ x.left.size ≤ maxMsgSize ∧ ∃ count, x.round.write x.left.payload = .ok count) := by
  simp only [Driver.final, Exchange.refused, asyncServer]
  cases x.verdict with
  | error e => simp
  | ok agreed =>
    cases agreed
    cases x.round.write x.left.payload <;>
      simp [Except.isOk, Except.toBool, Nat.pos_iff_ne_zero, or_iff_not_imp_left]

/-- A reply goes out whole, or it was the last. -/
theorem sent_slicedReply (whole : TakesWhole x.round.write) :
    sentBytes (slicedReply x) =
      if (asyncServer ioTimeoutInSecs).final x then [] else repliedBytes (slicedReply x) := by
  rw [repliedBytes_slicedReply]
  obtain ⟨round, given, left, verdict⟩ := x
  change TakesWhole round.write at whole
  cases verdict with
  | error e => simp [slicedReply, Exchange.refused, sentBytes, NativeEvent.accepted, Exchange.event]
  | ok agreed =>
    cases agreed
    by_cases filled : left.size > 0
    · by_cases past : left.size > maxMsgSize
      · simp [slicedReply, Driver.final, Exchange.refused, asyncServer, filled, past, sentBytes,
          NativeEvent.accepted, Exchange.event]
      · cases whole left.payload with
        | inl took =>
          simp [slicedReply, Driver.final, Exchange.refused, asyncServer, filled, past, took,
            sentBytes, NativeEvent.accepted, Exchange.event, Except.isOk, Except.toBool]
        | inr failed =>
          obtain ⟨e, failed⟩ := failed
          simp [slicedReply, Driver.final, Exchange.refused, asyncServer, filled, past, failed,
            sentBytes, NativeEvent.accepted, Exchange.event, Except.isOk, Except.toBool]
    · have empty : left.size = 0 := by omega
      simp [slicedReply, Driver.final, Exchange.refused, asyncServer, empty, sentBytes,
        NativeEvent.accepted, Exchange.event, Buffer.payload_of_size_zero]

theorem sent_part (whole : TakesWhole x.round.write) :
    sentBytes (slicedReply x) <+: repliedBytes (slicedReply x) := by
  have sent : _ = if (asyncServer (.finite 0)).final x then _ else _ := sent_slicedReply whole
  rw [sent]
  split
  · exact List.nil_prefix
  · exact List.prefix_refl _

theorem sent_whole (whole : TakesWhole x.round.write)
    (kept : (asyncServer ioTimeoutInSecs).final x = false) :
    sentBytes (slicedReply x) = repliedBytes (slicedReply x) := by
  rw [sent_slicedReply whole, kept]
  rfl

/-- The client goes on only where the server would. -/
theorem client_final (kept : (client ioTimeoutInSecs).final x = false) :
    (asyncServer ioTimeoutInSecs).final x = false := by
  rw [final_iff]
  simp only [Driver.final, Exchange.refused, client] at kept
  cases verdict : x.verdict with
  | error e => simp [verdict] at kept
  | ok agreed =>
    refine ⟨rfl, ?_⟩
    by_cases filled : 0 < x.left.size
    · cases written : x.round.write x.left.payload with
      | error e => simp [verdict, filled, written] at kept
      | ok count =>
        simp [verdict, filled, written] at kept
        exact .inr ⟨kept.1, count, rfl⟩
    · exact .inl (by omega)

end Wire

section Loop

variable {σ ρ : Type} {body : Body NativeRound σ NativeEvent ρ} {driver : Driver}
  {peerAddress : SocketAddr} {ready : Buffer → σ}

/-- A loop that is not left has sent what its callbacks replied, and they agreed. -/
structure Kept (outcome : Outcome σ NativeEvent ρ) : Prop where
  part : sentBytes outcome.events <+: repliedBytes outcome.events
  whole : inside outcome = true → sentBytes outcome.events = repliedBytes outcome.events
  agreed : inside outcome = true → Agreed outcome.events

theorem repliedBytes_append (first second : List NativeEvent) :
    repliedBytes (first ++ second) = repliedBytes first ++ repliedBytes second := by
  simp [repliedBytes]

theorem kept_run (refines : Refines body driver peerAddress ready) (tells : driver.Tells)
    {rounds : List NativeRound}
    (part : ∀ round ∈ rounds, ∀ given, sentBytes (driver.events (exchange peerAddress round given)) <+:
      repliedBytes (driver.events (exchange peerAddress round given)))
    (whole : ∀ round ∈ rounds, ∀ given,
      driver.final (exchange peerAddress round given) = false →
      sentBytes (driver.events (exchange peerAddress round given)) =
        repliedBytes (driver.events (exchange peerAddress round given)))
    (buffer : Buffer) : Kept (run body rounds (ready buffer)) := by
  induction rounds generalizing buffer with
  | nil => exact ⟨List.prefix_refl _, fun _ => rfl, fun _ => by simp [Agreed, messages]⟩
  | cons round rounds ih =>
    have shows := round_events refines round buffer
    rw [run_cons]
    cases goes : driver.next peerAddress round buffer with
    | none =>
      obtain ⟨result, left⟩ := refines.leave_of_next goes
      rw [andThen_of_leave _ left]
      have ended : inside (body round (ready buffer)) = false := by simp [inside, left]
      refine ⟨?_, by simp [ended], by simp [ended]⟩
      rw [shows]
      cases driver.before round buffer with
      | none => exact List.prefix_refl _
      | some given => exact part round List.mem_cons_self given
    | some next =>
      have again := refines.again_of_next goes
      simp only [Driver.next, Option.bind_eq_some_iff, Option.ite_none_left_eq_some,
        Bool.not_eq_true] at goes
      obtain ⟨given, opened, kept, _⟩ := goes
      rw [opened, Option.elim_some] at shows
      have first := whole round List.mem_cons_self given kept
      have later := ih (fun r member => part r (List.mem_cons_of_mem _ member))
        (fun r member => whole r (List.mem_cons_of_mem _ member)) next
      rw [andThen_of_again _ again, shows]
      constructor
      case part =>
        rw [sentBytes_append, repliedBytes_append, first]
        exact (List.prefix_append_right_inj _).mpr later.part
      case whole =>
        intro within
        rw [sentBytes_append, repliedBytes_append, first, later.whole within]
      case agreed =>
        intro within message member
        rw [messages_append, tells, List.mem_append, List.mem_singleton] at member
        cases member with
        | inl here =>
          rw [here]
          cases verdict : (exchange peerAddress round given).verdict with
          | ok agreed => rfl
          | error e => simp [Driver.final, Exchange.refused, verdict] at kept
        | inr rest => exact later.agreed within message rest

end Loop

/-! ## Replies that depend on the bytes -/

/-- After every message that was agreed to, the replies so far are those to the bytes so
far. -/
def Follows (reply : List UInt8 → List UInt8) (events : List NativeEvent) : Prop :=
  ∀ pre given left post, events = pre ++ .message given left (.ok ()) :: post →
    repliedBytes (pre ++ [.message given left (.ok ())]) =
      reply (shown (pre ++ [.message given left (.ok ())]))

section Follows

variable {reply : List UInt8 → List UInt8} {events pre : List NativeEvent}

/-- Only messages count. -/
theorem append_silent {event : NativeEvent} (pre : List NativeEvent) (silent : event.message? = none) :
    messages (pre ++ [event]) = messages pre ∧ shown (pre ++ [event]) = shown pre ∧
      repliedBytes (pre ++ [event]) = repliedBytes pre := by
  rw [messages_append, shown_append, repliedBytes_append]
  cases event with
  | message given left verdict => cases silent
  | write offered answer => exact ⟨List.append_nil _, List.append_nil _, List.append_nil _⟩
  | flush answer => exact ⟨List.append_nil _, List.append_nil _, List.append_nil _⟩

theorem replied_of_untold (none : messages events = []) : repliedBytes events = [] := by
  apply List.flatMap_eq_nil_iff.mpr
  intro event member
  have untold := List.filterMap_eq_nil_iff.mp none event member
  cases event with
  | message given left verdict => cases untold
  | write offered answer => rfl
  | flush answer => rfl

theorem Follows.before (follows : Follows reply events) (part : pre <+: events) :
    Follows reply pre := by
  obtain ⟨post, rfl⟩ := part
  intro before given left after split
  exact follows before given left (after ++ post) (by simp [split])

theorem Follows.replied_prefix (follows : Follows reply events) (causal : Kahn.Causal reply) :
    repliedBytes events <+: reply (shown events) := by
  induction events using List.reverseRecOn with
  | nil => exact List.nil_prefix
  | append_singleton pre event ih =>
    have earlier := ih (follows.before (List.prefix_append _ _))
    cases event with
    | message given left verdict =>
      cases verdict with
      | ok agreed => rw [follows pre given left [] rfl]
      | error e =>
        have same : repliedBytes [.message given left (.error e)] = [] := rfl
        rw [repliedBytes_append, same, List.append_nil, shown_append]
        exact earlier.trans (causal _ _ (List.prefix_append _ _))
    | write offered answer => rwa [(append_silent pre rfl).2.1, (append_silent pre rfl).2.2]
    | flush answer => rwa [(append_silent pre rfl).2.1, (append_silent pre rfl).2.2]

/-- Where all agreed, the replies are exactly those to what was shown. -/
theorem Follows.replied_eq (follows : Follows reply events) (agreed : Agreed events) :
    messages events = [] ∨ repliedBytes events = reply (shown events) := by
  induction events using List.reverseRecOn with
  | nil => exact .inl rfl
  | append_singleton pre event ih =>
    have earlier := ih (follows.before (List.prefix_append _ _))
      fun message member => agreed message (by simp [messages_append, member])
    cases event with
    | message given left verdict =>
      cases verdict with
      | ok one => exact .inr (follows pre given left [] rfl)
      | error e => cases agreed (given, left, .error e) (by simp [messages, NativeEvent.message?])
    | write offered answer =>
      rwa [(append_silent pre rfl).1, (append_silent pre rfl).2.1, (append_silent pre rfl).2.2]
    | flush answer =>
      rwa [(append_silent pre rfl).1, (append_silent pre rfl).2.1, (append_silent pre rfl).2.2]

end Follows

/-! ## Both ends -/

/-- The callbacks of the client reply by `clientReply` and those of the server by
`serverReply`, and a write takes all or fails. -/
structure Plays (serverReply clientReply : List UInt8 → List UInt8) (setup : Setup) (talk : Talk) :
    Prop where
  client : Follows clientReply (talk.client setup).events
  server : Follows serverReply (talk.server setup).events
  clientWrites : ∀ round ∈ talk.clientRounds ++ talk.asked.toList, TakesWhole round.write
  serverWrites : ∀ round ∈ talk.serverRounds, TakesWhole round.write

section Both

variable {setup : Setup} {talk after : Talk} {act : Act}
  {serverReply clientReply : List UInt8 → List UInt8}

theorem client_kept (plays : Plays serverReply clientReply setup talk) :
    Kept (talk.client setup) := by
  apply kept_run (client_refines setup.clientPeer setup.clientTimeout)
    (fun x => messages_clientReply x)
  · intro round member given
    show sentBytes (Verified.clientReply _) <+: repliedBytes (Verified.clientReply _)
    rw [clientReply_on_wire.1, clientReply_on_wire.2]
    exact sent_part (plays.clientWrites round member)
  · intro round member given kept
    show sentBytes (Verified.clientReply _) = repliedBytes (Verified.clientReply _)
    rw [clientReply_on_wire.1, clientReply_on_wire.2]
    exact sent_whole (plays.clientWrites round member) (client_final kept)

theorem server_kept (plays : Plays serverReply clientReply setup talk) :
    Kept (talk.server setup) := by
  apply kept_run (asyncServer_refines setup.serverPeer setup.serverTimeout) asyncServer_tells
  · intro round member given
    exact sent_part (plays.serverWrites round member)
  · intro round member given kept
    exact sent_whole (plays.serverWrites round member) kept

/-- What is sent follows from what the other end sent. -/
theorem Plays.client_sent (plays : Plays serverReply clientReply setup talk)
    (causal : Kahn.Causal clientReply) (sane : Sane setup talk) :
    sentBytes (talk.client setup).events <+: clientReply (sentBytes (talk.server setup).events) :=
  (client_kept plays).part.trans ((plays.client.replied_prefix causal).trans
    (causal _ _ (sane.clientShown.trans sane.toClient)))

theorem Plays.server_sent (plays : Plays serverReply clientReply setup talk)
    (causal : Kahn.Causal serverReply) (sane : Sane setup talk) :
    sentBytes (talk.server setup).events <+: serverReply (sentBytes (talk.client setup).events) := by
  have shows : shown (talk.server setup).events <+: sentBytes (talk.client setup).events := by
    rw [sane.serverShown]
    exact (List.prefix_append _ _).trans sane.toServer
  exact (server_kept plays).part.trans ((plays.server.replied_prefix causal).trans
    (causal _ _ shows))

/-- What was played before a step. -/
theorem Plays.before (plays : Plays serverReply clientReply setup after) (sane : Sane setup talk)
    (stepped : step setup talk act = some after) : Plays serverReply clientReply setup talk := by
  cases act with
  | clientAsks round =>
    obtain ⟨b, unasked, _, rfl, events⟩ := clientAsks_spec stepped
    refine ⟨plays.client.before ⟨_, events.symm⟩, plays.server, ?_, plays.serverWrites⟩
    intro r member
    exact plays.clientWrites r (by simp [unasked] at member; simp [member])
  | clientReads sleep read =>
    obtain ⟨asked, waiting, _, _, rfl, events, _⟩ := clientReads_spec stepped
    refine ⟨events ▸ plays.client, plays.server, ?_, plays.serverWrites⟩
    intro r member
    simp only [waiting, Option.toList_some, List.mem_append, List.mem_singleton] at member
    cases member with
    | inl earlier => exact plays.clientWrites r (by simp [earlier])
    | inr last =>
      rw [last]
      exact plays.clientWrites (reading asked sleep read) (by simp)
  | serverReads sleep read =>
    obtain ⟨_, _, _, rfl⟩ := serverReads_spec stepped
    exact ⟨plays.client, plays.server, plays.clientWrites, plays.serverWrites⟩
  | serverAsks round =>
    obtain ⟨sleep, read, b, _, _, rfl, events⟩ := serverAsks_spec (sane.within stepped) stepped
    refine ⟨plays.client, plays.server.before ⟨_, events.symm⟩, plays.clientWrites, ?_⟩
    intro r member
    exact plays.serverWrites r (by simp [member])

theorem written_run {acts : List Act} (causalServer : Kahn.Causal serverReply)
    (causalClient : Kahn.Causal clientReply) (ran : run (step setup) start acts = some talk)
    (plays : Plays serverReply clientReply setup talk) :
    Kahn.Written serverReply clientReply (sentBytes (talk.client setup).events)
      (sentBytes (talk.server setup).events) := by
  induction acts using List.reverseRecOn generalizing talk with
  | nil =>
    cases ran
    exact .nothing
  | append_singleton acts act ih =>
    obtain ⟨middle, before, last⟩ := run_append_eq_some.mp ran
    obtain ⟨next, stepped, rest⟩ := run_cons_eq_some.mp last
    cases rest
    have earlier := ih before (plays.before (sane_run before) stepped)
    have sane := sane_run ran
    have client := plays.client_sent causalClient sane
    have server := plays.server_sent causalServer sane
    cases act with
    | clientAsks round =>
      obtain ⟨_, _, _, rfl, _⟩ := clientAsks_spec stepped
      exact .first earlier client
    | clientReads sleep read =>
      obtain ⟨_, _, _, _, rfl, events, _⟩ := clientReads_spec stepped
      rw [events]
      exact earlier
    | serverReads sleep read =>
      obtain ⟨_, _, _, rfl⟩ := serverReads_spec stepped
      exact earlier
    | serverAsks round =>
      obtain ⟨_, _, _, _, _, rfl, _⟩ := serverAsks_spec ((sane_run before).within stepped) stepped
      exact .second earlier server

/-- Both ends wait for bytes, and there are none on the way. -/
structure AtRest (setup : Setup) (talk : Talk) : Prop where
  clientInside : inside (talk.client setup) = true
  serverInside : inside (talk.server setup) = true
  clientWaits : talk.asked ≠ none
  serverWaits : talk.heard = none
  clientTook : talk.clientTaken setup = sentBytes (talk.server setup).events
  serverTook : talk.serverTaken setup = sentBytes (talk.client setup).events

/-- A client that waits has asked. -/
theorem AtRest.told (rest : AtRest setup talk) : messages (talk.client setup).events ≠ [] := by
  intro none
  cases waiting : talk.asked with
  | none => exact rest.clientWaits waiting
  | some asked =>
    obtain ⟨later, control⟩ := inside_iff.mp rest.clientInside
    simp only [Talk.client, TcpClient.handleClientStream, waiting, Option.toList_some] at control none
    obtain ⟨b, before⟩ := inside_of_append control
    have shows := round_events (client_refines setup.clientPeer setup.clientTimeout) asked b
    rw [run_snoc _ before, messages_append] at none
    rw [show (TcpClient.handleClientStreamRound _ _ asked b).events = _ from shows] at none
    simp [client] at none

theorem AtRest.fixed (rest : AtRest setup talk) (sane : Sane setup talk)
    (plays : Plays serverReply clientReply setup talk) (silent : serverReply [] = []) :
    clientReply (sentBytes (talk.server setup).events) = sentBytes (talk.client setup).events ∧
      serverReply (sentBytes (talk.client setup).events) = sentBytes (talk.server setup).events := by
  have clientKept := client_kept plays
  have serverKept := server_kept plays
  constructor
  · rw [clientKept.whole rest.clientInside, ← rest.clientTook, ← sane.clientAsked rest.clientWaits]
    cases plays.client.replied_eq (clientKept.agreed rest.clientInside) with
    | inl none => exact absurd none rest.told
    | inr same => exact same.symm
  · have shows : shown (talk.server setup).events = sentBytes (talk.client setup).events := by
      rw [sane.serverShown, ← rest.serverTook, serverTaken_of_unheard rest.serverWaits]
    rw [serverKept.whole rest.serverInside, ← shows]
    cases plays.server.replied_eq (serverKept.agreed rest.serverInside) with
    | inl none => rw [replied_of_untold none, shown, none, List.flatMap_nil, silent]
    | inr same => exact same.symm

end Both

/-- Where the replies of both ends depend on the bytes and not on their pieces: in any two
conversations, however the connection cuts the bytes up, whatever the order of the steps
and whichever writes and reads fail, one has come further than the other, and none further
than one that has come to rest. -/
theorem bytes_determined {setup setup' : Setup} {one other : Talk} {acts acts' : List Act}
    {serverReply clientReply : List UInt8 → List UInt8} (causalServer : Kahn.Causal serverReply)
    (causalClient : Kahn.Causal clientReply) (silent : serverReply [] = [])
    (ran : run (step setup) start acts = some one)
    (plays : Plays serverReply clientReply setup one)
    (ran' : run (step setup') start acts' = some other)
    (plays' : Plays serverReply clientReply setup' other) :
    let clientSent := sentBytes (one.client setup).events
    let clientSent' := sentBytes (other.client setup').events
    let serverSent := sentBytes (one.server setup).events
    let serverSent' := sentBytes (other.server setup').events
    (clientSent <+: clientSent' ∨ clientSent' <+: clientSent) ∧
      (serverSent <+: serverSent' ∨ serverSent' <+: serverSent) ∧
      (AtRest setup one → clientSent' <+: clientSent ∧ serverSent' <+: serverSent) := by
  have written := written_run causalServer causalClient ran plays
  have written' := written_run causalServer causalClient ran' plays'
  have comparable := written.comparable causalServer causalClient written'
  refine ⟨comparable.1, comparable.2, fun rest => ?_⟩
  have fixed := rest.fixed (sane_run ran) plays silent
  exact written'.within_fixed causalServer causalClient fixed.1 fixed.2

section Witness

theorem follows_nil (reply : List UInt8 → List UInt8) : Follows reply [] := by
  intro pre given left post split
  cases pre <;> cases split

variable {reply : List UInt8 → List UInt8} {events : List NativeEvent} {event : NativeEvent}

theorem Follows.snoc (follows : Follows reply events)
    (next : ∀ given left, event = .message given left (.ok ()) →
      repliedBytes (events ++ [event]) = reply (shown (events ++ [event]))) :
    Follows reply (events ++ [event]) := by
  intro pre given left post split
  cases post using List.reverseRecOn with
  | nil =>
    obtain ⟨rfl, last⟩ := List.append_inj' split rfl
    cases last
    exact next given left rfl
  | append_singleton post last _ =>
    rw [← List.cons_append, ← List.append_assoc] at split
    exact follows pre given left post (List.append_inj' split rfl).1

theorem Follows.silent (follows : Follows reply events) (silent : event.message? = none) :
    Follows reply (events ++ [event]) := by
  apply follows.snoc
  intro given left message
  cases message
  cases silent

theorem answering_whole (answer : Buffer → Verdict × Buffer) :
    TakesWhole (answering answer).write :=
  fun _ => .inl rfl

theorem greeted_plays : Plays id (fun _ => [7, 8]) plainSetup greeted where
  client :=
    ((((follows_nil _).snoc fun _ _ _ => rfl).silent rfl).silent rfl).snoc fun _ _ _ => rfl
  server := (((follows_nil id).snoc fun _ _ _ => rfl).silent rfl).silent rfl
  clientWrites := by
    intro round member
    cases member with
    | head => exact answering_whole (replyWith ping)
    | tail _ member =>
      rw [List.mem_singleton.mp member]
      exact answering_whole (replyWith .empty)
  serverWrites := by
    intro round member
    rw [List.mem_singleton.mp member]
    exact answering_whole echo

theorem greeted_atRest : AtRest plainSetup greeted where
  clientInside := rfl
  serverInside := rfl
  clientWaits none := by cases none
  serverWaits := rfl
  clientTook := rfl
  serverTook := rfl

/-- The conversation of `greets` after its first act. -/
def asking : Talk := ⟨[], some (unread (answering (replyWith ping))), [], none⟩

theorem asking_run : run (step plainSetup) start (greets.take 1) = some asking := rfl

theorem asking_plays : Plays id (fun _ => [7, 8]) plainSetup asking where
  client := (((follows_nil _).snoc fun _ _ _ => rfl).silent rfl).silent rfl
  server := follows_nil _
  clientWrites := by
    intro round member
    rw [List.mem_singleton.mp member]
    exact answering_whole (replyWith ping)
  serverWrites := by
    intro round member
    cases member

theorem bytes_determined_greeted : sentBytes (asking.client plainSetup).events <+: [7, 8] ∧
    sentBytes (asking.server plainSetup).events <+: [7, 8] :=
  (bytes_determined (fun _ _ part => part) (fun _ _ _ => List.prefix_refl _) rfl greets_run
    greeted_plays asking_run asking_plays).2.2 greeted_atRest

end Witness

end WolfEngine.Verified.Conversation
