import WolfEngine.Verified.StreamReplies

/-! # Conversations that never stall

Neither loop writes before its callback was shown something new, so a client and a server
that both wait for bytes would wait for ever.  That takes a callback that was shown
something and left its buffer empty.
-/

namespace WolfEngine.Verified.Conversation

open WolfEngine.Stream EventLoop Transitions

/-- A write accepts some of what it is offered, or fails. -/
def NeverNothing (write : List UInt8 → Except IoError Nat) : Prop :=
  ∀ offered, offered ≠ [] → write offered ≠ .ok 0

/-- The writes of all rounds accept something. -/
structure Writes (talk : Talk) : Prop where
  client : ∀ round ∈ talk.clientRounds ++ talk.asked.toList, NeverNothing round.write
  server : ∀ round ∈ talk.serverRounds, NeverNothing round.write

/-- The last callback left its buffer empty. -/
def LeftEmpty (events : List NativeEvent) : Prop :=
  ∃ message, (messages events).getLast? = some message ∧ message.2.1.size = 0

/-- This act came to nothing: its callback left its buffer empty. -/
def Silent (setup : Setup) (talk : Talk) : Act → Prop
  | .clientAsks _ => LeftEmpty (talk.client setup).events
  | .serverAsks _ => LeftEmpty (talk.server setup).events
  | .clientReads _ _ | .serverReads _ _ => False

/-- One of the ends can ask, or read a byte. -/
inductive CanGo (setup : Setup) (talk : Talk) : Prop where
  | clientAsks : (∀ round, step setup talk (.clientAsks round) ≠ none) → CanGo setup talk
  | clientReads (chunk : Chunk) : chunk.bytes ≠ [] →
      step setup talk (.clientReads .unpolled (.ok chunk)) ≠ none → CanGo setup talk
  | serverReads (chunk : Chunk) : chunk.bytes ≠ [] →
      step setup talk (.serverReads .unpolled (.ok chunk)) ≠ none → CanGo setup talk
  | serverAsks : (∀ round, step setup talk (.serverAsks round) ≠ none) → CanGo setup talk

section Reads

/-- Behind what was taken there is a byte. -/
theorem exists_arrives {sent taken : List UInt8} (closed : Bool) (within : taken <+: sent)
    (more : taken ≠ sent) :
    ∃ chunk : Chunk, chunk.bytes ≠ [] ∧ arrives sent closed taken (some (.ok chunk)) = true := by
  obtain ⟨rest, rfl⟩ := within
  cases rest with
  | nil => exact absurd (List.append_nil taken).symm more
  | cons byte rest =>
    refine ⟨⟨[byte], Nat.le_of_ble_eq_true rfl⟩, by simp, ?_⟩
    have first : [byte] <+: byte :: rest := ⟨rest, rfl⟩
    simp [arrives, first]

theorem readResult_unpolled (ioTimeoutInSecs : F64) (read : Except IoError Chunk) :
    readResult ioTimeoutInSecs .unpolled read = some read := by
  simp [readResult, selectTimeout]

/-- Ends that run and are not both at rest can go on. -/
theorem canGo_of_not_atRest {setup : Setup} {talk : Talk} (sane : Sane setup talk)
    (clientInside : inside (talk.client setup) = true)
    (serverInside : inside (talk.server setup) = true) (moving : ¬AtRest setup talk) :
    CanGo setup talk := by
  cases heard : talk.heard with
  | some heardRead => exact .serverAsks fun round => by simp [step, heard]
  | none =>
    cases waiting : talk.asked with
    | none => exact .clientAsks fun round => by simp [step, waiting, clientInside]
    | some asked =>
      by_cases clientTook : talk.clientTaken setup = sentBytes (talk.server setup).events
      · by_cases serverTook : talk.serverTaken setup = sentBytes (talk.client setup).events
        · have asks : talk.asked ≠ none := by simp [waiting]
          exact absurd ⟨clientInside, serverInside, asks, heard, clientTook, serverTook⟩ moving
        · obtain ⟨chunk, some, arrived⟩ :=
            exists_arrives (!inside (talk.client setup)) sane.toServer serverTook
          refine .serverReads chunk some ?_
          simp [step, heard, serverInside, readResult_unpolled, arrived]
      · obtain ⟨chunk, some, arrived⟩ :=
          exists_arrives (!inside (talk.server setup)) sane.toClient clientTook
        refine .clientReads chunk some ?_
        simp [step, waiting, clientInside, readResult_unpolled, arrived]

end Reads

section Asks

variable {σ ρ : Type} {body : Body NativeRound σ NativeEvent ρ} {driver : Driver}
  {peerAddress : SocketAddr} {ready : Buffer → σ}

/-- A round that goes on delivered its reply. -/
theorem kept_of_inside (refines : Refines body driver peerAddress ready) {round : NativeRound}
    {b : Buffer} {next : σ} (goes : (body round (ready b)).control = .again next) :
    ∃ given, driver.before round b = some given ∧
      driver.final (exchange peerAddress round given) = false := by
  cases opened : driver.before round b with
  | none =>
    obtain ⟨result, ran⟩ := refines.idle round b opened
    rw [ran] at goes
    cases goes
  | some given =>
    refine ⟨given, rfl, ?_⟩
    cases final : driver.final (exchange peerAddress round given) with
    | false => rfl
    | true =>
      obtain ⟨result, ran⟩ := refines.finishes round b given opened final
      rw [ran] at goes
      cases goes

/-- A reply that is not empty puts something on the connection. -/
theorem sent_ne_nil {x : Exchange} {ioTimeoutInSecs : F64}
    (kept : (asyncServer ioTimeoutInSecs).final x = false) (filled : x.left.size ≠ 0)
    (accepts : NeverNothing x.round.write) : sentBytes (slicedReply x) ≠ [] := by
  obtain ⟨agreed, delivered⟩ := final_iff.mp kept
  cases delivered with
  | inl empty => exact absurd empty filled
  | inr written =>
    obtain ⟨fits, count, wrote⟩ := written
    have length := Buffer.payload_length fits
    have offered : x.left.payload ≠ [] := by
      intro none
      rw [none] at length
      exact filled length.symm
    have some : count ≠ 0 := by
      rintro rfl
      exact accepts _ offered wrote
    have sent : sentBytes (slicedReply x) = x.left.payload.take count := by
      simp [slicedReply, agreed, Nat.pos_of_ne_zero filled, Nat.not_lt.mpr fits, wrote,
        sentBytes, NativeEvent.accepted, Exchange.event]
    rw [sent]
    simp [offered, some]

theorem leftEmpty_or_filled (before : List NativeEvent) {x : Exchange} {reply : List NativeEvent}
    (told : messages reply = [(x.given, x.left, x.verdict)]) :
    LeftEmpty (before ++ reply) ∨ x.left.size ≠ 0 := by
  by_cases empty : x.left.size = 0
  · exact .inl ⟨_, by rw [messages_append, told, List.getLast?_concat], empty⟩
  · exact .inr empty

variable {setup : Setup} {talk after : Talk} {round : NativeRound}

theorem clientAsks_moves (sane : Sane setup talk)
    (stepped : step setup talk (.clientAsks round) = some after) (writes : Writes after) :
    LeftEmpty (after.client setup).events ∨ ¬AtRest setup after := by
  obtain ⟨b, unasked, control, rfl, events⟩ := clientAsks_spec stepped
  rw [events]
  cases leftEmpty_or_filled (talk.client setup).events
    (messages_clientReply (exchange setup.clientPeer round b)) with
  | inl empty => exact .inl empty
  | inr filled =>
    refine .inr fun rest => ?_
    obtain ⟨later, again⟩ := inside_iff.mp rest.clientInside
    simp only [Talk.client, TcpClient.handleClientStream, unasked, Option.toList_none,
      Option.toList_some, List.append_nil] at control again
    rw [run_snoc _ control] at again
    obtain ⟨given, opened, kept⟩ :=
      kept_of_inside (client_refines setup.clientPeer setup.clientTimeout) again
    cases opened
    have some := sent_ne_nil (client_final kept) filled (writes.client (unread round) (by simp))
    have part := sane.toServer.length_le
    have took := congrArg List.length rest.serverTook
    rw [events, sentBytes_append, clientReply_on_wire.1, List.length_append] at took
    have positive := List.length_pos_of_ne_nil some
    change _ < (sentBytes (slicedReply (exchange setup.clientPeer round b))).length at positive
    change (talk.serverTaken setup).length = _ at took
    omega

theorem serverAsks_moves (sane : Sane setup talk)
    (stepped : step setup talk (.serverAsks round) = some after) (writes : Writes after) :
    LeftEmpty (after.server setup).events ∨ ¬AtRest setup after := by
  obtain ⟨sleep, read, b, heard, control, rfl, events⟩ := serverAsks_spec (sane.within stepped) stepped
  by_cases running : inside (({ talk with
      serverRounds := talk.serverRounds ++ [reading round sleep read]
      heard := none } : Talk).server setup) = true
  · obtain ⟨later, again⟩ := inside_iff.mp running
    simp only [Talk.server, TcpServer.handleTcpConnection] at control again
    rw [run_snoc _ control] at again
    obtain ⟨given, opened, kept⟩ :=
      kept_of_inside (asyncServer_refines setup.serverPeer setup.serverTimeout) again
    obtain ⟨chunk, result, rfl⟩ := Option.map_eq_some_iff.mp opened
    rw [result, Option.elim_some] at events
    rw [events]
    cases leftEmpty_or_filled (talk.server setup).events (messages_slicedReply
      (exchange setup.serverPeer (reading round sleep read) (b.receive chunk))) with
    | inl empty => exact .inl empty
    | inr filled =>
      refine .inr fun rest => ?_
      have some := sent_ne_nil kept filled (writes.server (reading round sleep read) (by simp))
      have part := sane.toClient.length_le
      have took := congrArg List.length rest.clientTook
      rw [events, sentBytes_append, List.length_append] at took
      have positive := List.length_pos_of_ne_nil some
      change (talk.clientTaken setup).length = _ at took
      omega
  · exact .inr fun rest => running rest.serverInside

end Asks

/-- While both loops run, one of the ends can go on, whatever the connection does and
however they take turns, unless the last thing that happened was a callback that left its
buffer empty. -/
theorem never_stalls {setup : Setup} {talk : Talk} {acts : List Act}
    (ran : run (step setup) start acts = some talk) (writes : Writes talk)
    (clientInside : inside (talk.client setup) = true)
    (serverInside : inside (talk.server setup) = true) :
    CanGo setup talk ∨ ∃ before act, acts = before ++ [act] ∧ Silent setup talk act := by
  cases acts using List.reverseRecOn with
  | nil =>
    cases ran
    have unasked : start.asked = none := rfl
    exact .inl (.clientAsks fun round => by simp [step, unasked, clientInside])
  | append_singleton acts act =>
    have sane := sane_run ran
    obtain ⟨middle, before, last⟩ := run_append_eq_some.mp ran
    obtain ⟨next, stepped, rest⟩ := run_cons_eq_some.mp last
    cases rest
    have moves : Silent setup talk act ∨ ¬AtRest setup talk := by
      cases act with
      | clientAsks round => exact clientAsks_moves (sane_run before) stepped writes
      | clientReads sleep read =>
        obtain ⟨_, _, _, _, rfl, _⟩ := clientReads_spec stepped
        exact .inr fun rest => rest.clientWaits rfl
      | serverReads sleep read =>
        obtain ⟨_, _, _, rfl⟩ := serverReads_spec stepped
        exact .inr fun rest => by cases rest.serverWaits
      | serverAsks round => exact serverAsks_moves (sane_run before) stepped writes
    cases moves with
    | inl silent => exact .inr ⟨acts, act, rfl, silent⟩
    | inr moving => exact .inl (canGo_of_not_atRest sane clientInside serverInside moving)

/-- At rest, nothing can go on. -/
theorem not_canGo_of_atRest {setup : Setup} {talk : Talk} (rest : AtRest setup talk) :
    ¬CanGo setup talk := by
  have waits := rest.clientWaits
  have nothing : ∀ {chunk : Chunk} {sent : List UInt8} {closed : Bool}, chunk.bytes ≠ [] →
      arrives sent closed sent (some (.ok chunk)) = false := by
    intro chunk sent closed some
    have longer : ¬sent ++ chunk.bytes <+: sent := by
      intro part
      have lengths := part.length_le
      rw [List.length_append] at lengths
      exact some (List.eq_nil_of_length_eq_zero (by omega))
    simp [arrives, longer]
  intro goes
  cases goes with
  | clientAsks can => exact can (answering echo) (by simp [step, waits])
  | clientReads chunk some can =>
    apply can
    unfold step
    cases talk.asked <;> simp [readResult_unpolled, rest.clientTook, nothing some]
  | serverReads chunk some can =>
    exact can (by simp [step, readResult_unpolled, rest.serverTook, nothing some])
  | serverAsks can => exact can (answering echo) (by simp [step, rest.serverWaits])

/-- After the first act of `greets` the server can read; after the last, which left nothing,
no end can go on. -/
theorem never_stalls_asking : CanGo plainSetup asking ∧ ¬CanGo plainSetup greeted := by
  have accepts : ∀ answer, NeverNothing (answering answer).write := by
    intro answer offered some none
    injection none with lengths
    exact some (List.eq_nil_of_length_eq_zero lengths)
  have writes : Writes asking := by
    constructor
    · intro round member
      rw [List.mem_singleton.mp member]
      exact accepts (replyWith ping)
    · intro round member
      cases member
  refine ⟨?_, not_canGo_of_atRest greeted_atRest⟩
  apply (never_stalls asking_run writes rfl rfl).resolve_right
  rintro ⟨before, act, split, silent⟩
  obtain ⟨rfl, rfl⟩ : before = [] ∧ act = .clientAsks (answering (replyWith ping)) := by
    simpa [greets, List.cons_eq_append_iff] using split
  obtain ⟨message, last, empty⟩ := silent
  cases last
  cases empty

end WolfEngine.Verified.Conversation
