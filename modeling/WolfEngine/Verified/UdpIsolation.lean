import WolfEngine.Stream.Udp

/-! # What one UDP peer can see of another

All peers of a UDP server share its buffer, and a send passes all of it.  Reading a
datagram and replying to it are one write over the front of the buffer, as long as
the longer of the two; what an earlier peer left further back goes out with it.
-/

namespace WolfEngine.Verified

open WolfEngine.Stream WolfEngine.Stream.Udp EventLoop Overlay

/-- A datagram as the server received it. -/
structure Datagram where
  peer : SocketAddr
  data : Chunk
deriving DecidableEq

/-- Who sent how many bytes. -/
def Datagram.shape (datagram : Datagram) : SocketAddr × Nat :=
  (datagram.peer, datagram.data.bytes.length)

/-- `msg_size > 0`. -/
def Datagram.Filled (datagram : Datagram) : Prop := 0 < datagram.data.bytes.length

instance (datagram : Datagram) : Decidable datagram.Filled :=
  inferInstanceAs (Decidable (0 < datagram.data.bytes.length))

/-- A datagram of `peer` that the server sends something for. -/
def Datagram.Asks (peer : SocketAddr) (datagram : Datagram) : Prop :=
  datagram.peer = peer ∧ datagram.Filled

instance (peer : SocketAddr) : DecidablePred (Datagram.Asks peer) := fun datagram =>
  inferInstanceAs (Decidable (datagram.peer = peer ∧ datagram.Filled))

def datagram? : UdpEvent → Option Datagram
  | .receive (.ok (data, sender)) => some ⟨sender, data⟩
  | _ => none

def received (events : List UdpEvent) : List Datagram := events.filterMap datagram?

/-- What was put on the wire to `peer`. -/
def delivered? (peer : SocketAddr) : UdpEvent → Option (List UInt8)
  | .send target offered (.ok _) => if target = peer then some offered else none
  | _ => none

/-- The datagrams sent to `peer`. -/
def sentTo (peer : SocketAddr) (events : List UdpEvent) : List (List UInt8) :=
  events.filterMap (delivered? peer)

/-! ## A replying callback -/

/-- The reply to a peer's bytes. -/
abbrev Reply := SocketAddr → List UInt8 → Chunk

/-- The callback that agrees, writes its reply over the front of the buffer and sets
the size. -/
def replying (reply : Reply) : OnMessageCallback where
  f _ peer msg := (.ok (), msg.receive (reply peer msg.payload))

/-- What a datagram and its reply write over the buffer. -/
def patch (reply : Reply) (datagram : Datagram) : List UInt8 :=
  overlay (reply datagram.peer datagram.data.bytes).bytes datagram.data.bytes

theorem patch_length (reply : Reply) (datagram : Datagram) :
    (patch reply datagram).length =
      max (reply datagram.peer datagram.data.bytes).bytes.length datagram.data.bytes.length :=
  overlay_length _ _

/-- The datagrams sent to `peer` from a buffer holding `base`. -/
def answers (reply : Reply) (peer : SocketAddr) : List Datagram → List UInt8 → List (List UInt8)
  | [], _ => []
  | datagram :: datagrams, base =>
    let next := overlay (patch reply datagram) base
    if datagram.Asks peer then next :: answers reply peer datagrams next
    else answers reply peer datagrams next

theorem answers_cons_of_asks {peer : SocketAddr} {datagram : Datagram} (asks : datagram.Asks peer)
    (reply : Reply) (datagrams : List Datagram) (base : List UInt8) :
    answers reply peer (datagram :: datagrams) base =
      overlay (patch reply datagram) base ::
        answers reply peer datagrams (overlay (patch reply datagram) base) := if_pos asks

theorem answers_cons_of_not {peer : SocketAddr} {datagram : Datagram}
    (silent : ¬datagram.Asks peer) (reply : Reply) (datagrams : List Datagram)
    (base : List UInt8) :
    answers reply peer (datagram :: datagrams) base =
      answers reply peer datagrams (overlay (patch reply datagram) base) := if_neg silent

/-- Every callback of the call replies `reply`, and every send succeeds. -/
structure Replies (reply : Reply) (readWriteTimeoutInSecs : F64) (rounds : List UdpRound) :
    Prop where
  callback : ∀ round ∈ rounds, round.onMessage = replying reply
  sends : ∀ round ∈ rounds, ∀ peer bytes,
    ∃ sent, send readWriteTimeoutInSecs round peer bytes = some (.ok sent)

section Server

variable {readWriteTimeoutInSecs : F64} {reply : Reply} {round : UdpRound}

/-- A round that reads a datagram sends the whole buffer to its sender. -/
theorem serverRound_of_read {data : Chunk} {sender : SocketAddr}
    (reads : read readWriteTimeoutInSecs round = some (.ok (data, sender)))
    (callback : round.onMessage = replying reply)
    (sends : ∀ peer bytes, ∃ sent, send readWriteTimeoutInSecs round peer bytes = some (.ok sent))
    (msg : Buffer) :
    ∃ events left, serverRound readWriteTimeoutInSecs round msg = ⟨events, .again left⟩ ∧
      left.buf = overlay (patch reply ⟨sender, data⟩) msg.buf ∧
      received events = [⟨sender, data⟩] ∧
      ∀ peer, sentTo peer events =
        if Datagram.Asks peer ⟨sender, data⟩ then [left.buf] else [] := by
  have ran : round.onMessage.run round.elapsedSecs sender (msg.receive data) =
      (.ok (), (msg.receive data).receive (reply sender data.bytes)) := by
    rw [callback]
    change (Except.ok (), (msg.receive data).receive (reply sender (msg.receive data).payload)) = _
    rw [Buffer.receive_payload]
  simp only [serverRound, reads, ran]
  split
  next filled =>
    obtain ⟨sent, accepted⟩ := sends sender
      ((msg.receive data).receive (reply sender data.bytes)).buf
    rw [accepted]
    refine ⟨_, _, rfl, overlay_overlay _ _ _, rfl, fun peer => ?_⟩
    by_cases same : sender = peer <;>
      simp [sentTo, List.filterMap_cons, delivered?, Datagram.Asks, Datagram.Filled, same, filled]
  next empty =>
    refine ⟨_, _, rfl, overlay_overlay _ _ _, rfl, fun peer => ?_⟩
    rw [if_neg fun both => empty both.2]
    rfl

/-- A round that reads no datagram leaves the loop without sending. -/
theorem serverRound_of_no_read
    (fails : ∀ datagram, read readWriteTimeoutInSecs round ≠ some (.ok datagram)) (msg : Buffer) :
    ∃ events result, serverRound readWriteTimeoutInSecs round msg = ⟨events, .leave result⟩ ∧
      received events = [] ∧ ∀ peer, sentTo peer events = [] := by
  cases reads : read readWriteTimeoutInSecs round with
  | none => exact ⟨[], .panicked, by simp only [serverRound, reads], rfl, fun _ => rfl⟩
  | some answer =>
    cases answer with
    | error e =>
      exact ⟨[.receive (.error e)], .returned (debugErr e.debug), by simp only [serverRound, reads],
        rfl, fun _ => rfl⟩
    | ok datagram => exact absurd reads (fails datagram)

/-- What the server sends to a peer is what the datagrams it received, its own
replies and its buffer make of it. -/
theorem sentTo_run {rounds : List UdpRound} (replies : Replies reply readWriteTimeoutInSecs rounds)
    (peer : SocketAddr) (msg : Buffer) :
    sentTo peer (run (serverRound readWriteTimeoutInSecs) rounds msg).events =
      answers reply peer (received (run (serverRound readWriteTimeoutInSecs) rounds msg).events)
        msg.buf := by
  induction rounds generalizing msg with
  | nil => rfl
  | cons round rounds ih =>
    rw [run_cons]
    by_cases reads : ∃ datagram, read readWriteTimeoutInSecs round = some (.ok datagram)
    · obtain ⟨⟨data, sender⟩, reads⟩ := reads
      obtain ⟨events, left, goes, leaves, receives, sends⟩ := serverRound_of_read reads
        (replies.callback round List.mem_cons_self) (replies.sends round List.mem_cons_self) msg
      have later := ih
        ⟨fun r member => replies.callback r (List.mem_cons_of_mem _ member),
          fun r member => replies.sends r (List.mem_cons_of_mem _ member)⟩ left
      rw [andThen_of_again _ (congrArg Outcome.control goes)]
      simp only [goes, received, sentTo, List.filterMap_append] at receives sends later ⊢
      rw [receives, sends peer, later, leaves]
      by_cases asks : Datagram.Asks peer ⟨sender, data⟩
      · rw [if_pos asks, List.singleton_append, List.singleton_append, answers_cons_of_asks asks]
      · rw [if_neg asks, List.nil_append, List.singleton_append, answers_cons_of_not asks]
    · obtain ⟨events, result, left, receives, sends⟩ := serverRound_of_no_read
        (fun datagram read => reads ⟨datagram, read⟩) msg
      rw [andThen_of_leave _ (congrArg Outcome.control left), left]
      simp only [receives, sends peer]
      rfl

end Server

/-- What the outside sees of a UDP server. -/
def serverEvents (call : UdpCall) : List UdpEvent := (connect .udpServer call).1

theorem sentTo_serverEvents {reply : Reply} {call : UdpCall}
    (replies : Replies reply call.readWriteTimeoutInSecs call.rounds) (peer : SocketAddr) :
    sentTo peer (serverEvents call) =
      answers reply peer (received (serverEvents call)) (Buffer.new .binary).buf := by
  unfold serverEvents connect
  cases call.bound with
  | error e => rfl
  | ok socketAddr => exact sentTo_run replies peer (Buffer.new .binary)

/-! ## Isolation -/

/-- The datagrams of `peer`. -/
def fromPeer (peer : SocketAddr) (datagrams : List Datagram) : List Datagram :=
  datagrams.filter (·.peer = peer)

/-- Any two runs with the same callback that receive the same numbers of bytes from
the same peers, and from `peer` the same bytes, send `peer` the same datagrams. -/
def Isolated (reply : Reply) (peer : SocketAddr) (schedule : List (SocketAddr × Nat)) : Prop :=
  ∀ call call' : UdpCall,
    Replies reply call.readWriteTimeoutInSecs call.rounds →
    Replies reply call'.readWriteTimeoutInSecs call'.rounds →
    (received (serverEvents call)).map Datagram.shape = schedule →
    (received (serverEvents call')).map Datagram.shape = schedule →
    fromPeer peer (received (serverEvents call)) = fromPeer peer (received (serverEvents call')) →
    sentTo peer (serverEvents call) = sentTo peer (serverEvents call')

/-- Bytes of another peer, in a datagram that is not empty. -/
def Foreign (peer : SocketAddr) (datagram : Datagram) : Prop :=
  datagram.peer ≠ peer ∧ datagram.Filled

instance (peer : SocketAddr) : DecidablePred (Foreign peer) := fun datagram =>
  inferInstanceAs (Decidable (datagram.peer ≠ peer ∧ datagram.Filled))

/-- How much of the buffer a datagram and a reply of `replyLen` bytes write. -/
def reach (replyLen : SocketAddr → List UInt8 → Nat) (datagram : Datagram) : Nat :=
  max (replyLen datagram.peer datagram.data.bytes) datagram.data.bytes.length

/-- Whenever `peer` is answered, what other peers wrote has been covered: after each of
their datagrams came one of `peer` or an empty one that, with its reply, reaches as
far. -/
def Secluded (replyLen : SocketAddr → List UInt8 → Nat) (peer : SocketAddr)
    (datagrams : List Datagram) : Prop :=
  ∀ before datagram after, datagrams = before ++ datagram :: after →
    datagram.Asks peer → Overwritten (Foreign peer) (reach replyLen) (before ++ [datagram])

/-- Two datagrams of the same shape that are the same when `peer` sent them. -/
structure Alike (peer : SocketAddr) (datagram datagram' : Datagram) : Prop where
  shape : datagram.shape = datagram'.shape
  own : datagram.peer = peer → datagram = datagram'

theorem forall₂_alike {peer : SocketAddr} {datagrams datagrams' : List Datagram}
    (shapes : datagrams.map Datagram.shape = datagrams'.map Datagram.shape)
    (same : fromPeer peer datagrams = fromPeer peer datagrams') :
    List.Forall₂ (Alike peer) datagrams datagrams' := by
  induction datagrams generalizing datagrams' with
  | nil =>
    rw [List.map_nil, eq_comm, List.map_eq_nil_iff] at shapes
    rw [shapes]
    exact .nil
  | cons datagram datagrams ih =>
    cases datagrams' with
    | nil => cases shapes
    | cons datagram' datagrams' =>
      obtain ⟨shape, shapes⟩ := List.cons.inj shapes
      have peers : datagram.peer = datagram'.peer := congrArg Prod.fst shape
      unfold fromPeer at same
      by_cases mine : datagram.peer = peer
      · rw [List.filter_cons_of_pos (by simpa using mine),
          List.filter_cons_of_pos (by simpa [← peers] using mine)] at same
        obtain ⟨head, tail⟩ := List.cons.inj same
        exact .cons ⟨shape, fun _ => head⟩ (ih shapes tail)
      · rw [List.filter_cons_of_neg (by simpa using mine),
          List.filter_cons_of_neg (by simpa [← peers] using mine)] at same
        exact .cons ⟨shape, fun own => absurd own mine⟩ (ih shapes same)

theorem Alike.filled_iff {peer : SocketAddr} {datagram datagram' : Datagram}
    (alike : Alike peer datagram datagram') : datagram.Filled ↔ datagram'.Filled := by
  have lengths : datagram.data.bytes.length = datagram'.data.bytes.length :=
    congrArg Prod.snd alike.shape
  unfold Datagram.Filled
  rw [lengths]

theorem Alike.similar {peer : SocketAddr} {datagram datagram' : Datagram}
    (alike : Alike peer datagram datagram') (reply : Reply) :
    Similar (Foreign peer) (patch reply) datagram datagram' := by
  have peers : datagram.peer = datagram'.peer := congrArg Prod.fst alike.shape
  constructor
  · unfold Foreign
    rw [peers, alike.filled_iff]
  · intro own
    by_cases mine : datagram.peer = peer
    · rw [alike.own mine]
    · have empty : ¬datagram.Filled := fun filled => own ⟨mine, filled⟩
      have empty' : ¬datagram'.Filled := fun filled => empty (alike.filled_iff.mpr filled)
      unfold Datagram.Filled at empty empty'
      unfold patch
      rw [peers, List.eq_nil_of_length_eq_zero (Nat.eq_zero_of_not_pos empty),
        List.eq_nil_of_length_eq_zero (Nat.eq_zero_of_not_pos empty')]

theorem reach_eq {reply : Reply} {replyLen : SocketAddr → List UInt8 → Nat}
    (lengths : ∀ peer data, (reply peer data).bytes.length = replyLen peer data) :
    reach replyLen = fun datagram => (patch reply datagram).length := by
  funext datagram
  rw [patch_length, lengths]
  rfl

theorem answers_eq_of_secluded {reply : Reply} {replyLen : SocketAddr → List UInt8 → Nat}
    (lengths : ∀ peer data, (reply peer data).bytes.length = replyLen peer data)
    {peer : SocketAddr} {before before' datagrams datagrams' : List Datagram}
    (earlier : List.Forall₂ (Alike peer) before before')
    (alike : List.Forall₂ (Alike peer) datagrams datagrams')
    (secluded : Secluded replyLen peer (before ++ datagrams))
    (secluded' : Secluded replyLen peer (before' ++ datagrams')) (base : List UInt8) :
    answers reply peer datagrams (block (patch reply) before base) =
      answers reply peer datagrams' (block (patch reply) before' base) := by
  induction alike generalizing before before' with
  | nil => rfl
  | @cons datagram datagram' datagrams datagrams' same rest ih =>
    have longer : List.Forall₂ (Alike peer) (before ++ [datagram]) (before' ++ [datagram']) :=
      List.rel_append earlier (.cons same .nil)
    have later := ih longer (by simpa using secluded) (by simpa using secluded')
    have asks_iff : datagram.Asks peer ↔ datagram'.Asks peer := by
      have peers : datagram.peer = datagram'.peer := congrArg Prod.fst same.shape
      unfold Datagram.Asks
      rw [peers, same.filled_iff]
    rw [block_append, block_append] at later
    by_cases asks : datagram.Asks peer
    · have asks' := asks_iff.mp asks
      have covered := secluded before datagram datagrams rfl asks
      have covered' := secluded' before' datagram' datagrams' rfl asks'
      rw [reach_eq lengths] at covered covered'
      have blocks := block_eq_of_overwritten (longer.imp fun _ _ h => h.similar reply)
        covered covered' base
      rw [block_append, block_append] at blocks
      rw [answers_cons_of_asks asks, answers_cons_of_asks asks']
      exact congrArg₂ (· :: ·) blocks later
    · rw [answers_cons_of_not asks, answers_cons_of_not fun asks' => asks (asks_iff.mpr asks')]
      exact later

/-! ## Leaks -/

theorem answers_append (reply : Reply) (peer : SocketAddr) (first second : List Datagram)
    (base : List UInt8) :
    answers reply peer (first ++ second) base =
      answers reply peer first base ++ answers reply peer second (block (patch reply) first base) := by
  induction first generalizing base with
  | nil => rfl
  | cons datagram datagrams ih =>
    have later := ih (overlay (patch reply datagram) base)
    rw [List.cons_append]
    by_cases asks : datagram.Asks peer
    · rw [answers_cons_of_asks asks, answers_cons_of_asks asks, later]
      rfl
    · rw [answers_cons_of_not asks, answers_cons_of_not asks, later]
      rfl

theorem answers_length (reply : Reply) (peer : SocketAddr) (datagrams : List Datagram)
    (base : List UInt8) :
    (answers reply peer datagrams base).length = datagrams.countP (Datagram.Asks peer ·) := by
  induction datagrams generalizing base with
  | nil => rfl
  | cons datagram datagrams ih =>
    by_cases asks : datagram.Asks peer
    · rw [answers_cons_of_asks asks, List.length_cons, ih, List.countP_cons_of_pos (by simpa using asks)]
    · rw [answers_cons_of_not asks, ih, List.countP_cons_of_neg (by simpa using asks)]

/-- `datagram` with `data` in place of what it holds when it is `other`. -/
def replaced (other : Datagram) (data : Chunk) (datagram : Datagram) : Datagram :=
  if datagram = other then ⟨other.peer, data⟩ else datagram

section Replaced

variable {other : Datagram} {data : Chunk}

theorem replaced_self (other : Datagram) (data : Chunk) :
    replaced other data other = ⟨other.peer, data⟩ := if_pos rfl

theorem replaced_of_ne {datagram : Datagram} (different : datagram ≠ other) :
    replaced other data datagram = datagram := if_neg different

theorem replaced_peer (datagram : Datagram) : (replaced other data datagram).peer = datagram.peer := by
  unfold replaced
  split
  next same => rw [same]
  · rfl

theorem replaced_shape (lengths : data.bytes.length = other.data.bytes.length)
    (datagram : Datagram) : (replaced other data datagram).shape = datagram.shape := by
  unfold replaced Datagram.shape
  split
  next same => rw [same, lengths]
  · rfl

theorem replaced_ne (different : data ≠ other.data) (datagram : Datagram) :
    replaced other data datagram ≠ other := by
  unfold replaced
  split
  next same =>
    intro back
    exact different (congrArg Datagram.data back)
  next other' => exact other'

theorem replaced_of_own {peer : SocketAddr} (foreign : other.peer ≠ peer) {datagram : Datagram}
    (own : datagram.peer = peer) : replaced other data datagram = datagram :=
  replaced_of_ne fun same => foreign (same ▸ own)

theorem asks_replaced_iff (lengths : data.bytes.length = other.data.bytes.length)
    (peer : SocketAddr) (datagram : Datagram) :
    (replaced other data datagram).Asks peer ↔ datagram.Asks peer := by
  have shapes := replaced_shape lengths datagram
  have filled : (replaced other data datagram).data.bytes.length = datagram.data.bytes.length :=
    congrArg Prod.snd shapes
  unfold Datagram.Asks Datagram.Filled
  rw [replaced_peer, filled]

theorem fromPeer_replaced {peer : SocketAddr} (foreign : other.peer ≠ peer)
    (datagrams : List Datagram) :
    fromPeer peer (datagrams.map (replaced other data)) = fromPeer peer datagrams := by
  induction datagrams with
  | nil => rfl
  | cons datagram datagrams ih =>
    unfold fromPeer at ih ⊢
    rw [List.map_cons]
    by_cases own : datagram.peer = peer
    · rw [replaced_of_own foreign own, List.filter_cons_of_pos (by simpa using own),
        List.filter_cons_of_pos (by simpa using own), ih]
    · rw [List.filter_cons_of_neg (by simpa [replaced_peer] using own),
        List.filter_cons_of_neg (by simpa using own), ih]

end Replaced

/-- `length` times `byte`. -/
def filling (byte : UInt8) {length : Nat} (fits : length ≤ maxMsgSize) : Chunk :=
  ⟨List.replicate length byte, by rwa [List.length_replicate]⟩

section Leak

variable {replyLen : SocketAddr → List UInt8 → Nat}
  (fits : ∀ peer data, replyLen peer data ≤ maxMsgSize)

/-- Replies made of one byte. -/
def constantReply (byte : UInt8) : Reply := fun peer data => filling byte (fits peer data)

/-- Replies of zeros, but of `byte` to what `other` holds. -/
def markedReply (other : Datagram) (byte : UInt8) : Reply := fun peer data =>
  filling (if peer = other.peer ∧ data = other.data.bytes then byte else 0) (fits peer data)

theorem filling_getElem? {byte : UInt8} {length position : Nat} (fits : length ≤ maxMsgSize)
    (inside : position < length) : (filling byte fits).bytes[position]? = some byte := by
  rw [filling, List.getElem?_replicate, if_pos inside]

/-- A position of the block after the last datagram that reaches it. -/
theorem block_at_last {reply : Reply}
    (lengths : ∀ peer data, (reply peer data).bytes.length = replyLen peer data)
    {before after : List Datagram} {written : Datagram} {position : Nat}
    (reaches : position < reach replyLen written)
    (short : ∀ later ∈ after, reach replyLen later ≤ position) (base : List UInt8) :
    (block (patch reply) (before ++ written :: after) base)[position]? =
      if position < replyLen written.peer written.data.bytes then
        (reply written.peer written.data.bytes).bytes[position]?
      else written.data.bytes[position]? := by
  rw [reach_eq lengths] at reaches short
  rw [block_getElem?_of_last reaches short, patch, overlay_getElem?, lengths]

/-- No datagram after the last one that reaches a position is the same. -/
theorem map_replaced_of_short {after : List Datagram} {other : Datagram} {position : Nat}
    (reaches : position < reach replyLen other)
    (short : ∀ later ∈ after, reach replyLen later ≤ position) (data : Chunk) :
    after.map (replaced other data) = after := by
  have unchanged : ∀ later ∈ after, replaced other data later = id later := by
    intro later member
    apply replaced_of_ne
    rintro rfl
    exact absurd (short later member) (Nat.not_le_of_lt reaches)
  rw [List.map_congr_left unchanged, List.map_id]

/-- What a pair of histories shows: they differ in what `other` holds, and the block
they leave differs at `position`. -/
def LeaksAt (replyLen : SocketAddr → List UInt8 → Nat) (history : List Datagram)
    (other : Datagram) (position : Nat) (base : List UInt8) : Prop :=
  ∃ (reply : Reply) (data : Chunk),
    (∀ peer data, (reply peer data).bytes.length = replyLen peer data) ∧
    data.bytes.length = other.data.bytes.length ∧
    (block (patch reply) history base)[position]? ≠
      (block (patch reply) (history.map (replaced other data)) base)[position]?

include fits

/-- Past the end of the reply stand the bytes of the datagram. -/
theorem leaksAt_of_data {before after : List Datagram} {other : Datagram} {position : Nat}
    (inside : position < other.data.bytes.length)
    (past : replyLen other.peer other.data.bytes ≤ position)
    (short : ∀ later ∈ after, reach replyLen later ≤ position) (base : List UInt8) :
    LeaksAt replyLen (before ++ other :: after) other position base := by
  let next := other.data.bytes[position] + 1
  let data : Chunk := ⟨other.data.bytes.set position next, by
    rw [List.length_set]
    exact other.data.fits⟩
  have lengths : ∀ peer data, (constantReply fits next peer data).bytes.length = replyLen peer data :=
    fun _ _ => List.length_replicate
  have reaches : position < reach replyLen other := Nat.lt_of_lt_of_le inside (Nat.le_max_right _ _)
  have reaches' : position < reach replyLen ⟨other.peer, data⟩ :=
    Nat.lt_of_lt_of_le (by simpa [data] using inside) (Nat.le_max_right _ _)
  have changed : (if position < replyLen other.peer data.bytes then
      (constantReply fits next other.peer data.bytes).bytes[position]?
      else data.bytes[position]?) = some next := by
    split
    next replied => exact filling_getElem? _ replied
    · exact List.getElem?_set_self inside
  refine ⟨constantReply fits next, data, lengths, List.length_set, ?_⟩
  rw [List.map_append, List.map_cons, replaced_self, map_replaced_of_short reaches short,
    block_at_last lengths reaches short, block_at_last lengths reaches' short, changed,
    if_neg (by omega), List.getElem?_eq_getElem inside]
  simp [next]

/-- Within the reply stands what was written for the datagram. -/
theorem leaksAt_of_reply {before after : List Datagram} {other : Datagram} {position : Nat}
    (filled : other.Filled) (replied : position < replyLen other.peer other.data.bytes)
    (short : ∀ later ∈ after, reach replyLen later ≤ position) (base : List UInt8) :
    LeaksAt replyLen (before ++ other :: after) other position base := by
  let data : Chunk := ⟨other.data.bytes.map (· + 1), by
    rw [List.length_map]
    exact other.data.fits⟩
  have different : data ≠ other.data := by
    intro same
    have heads := congrArg (fun chunk => chunk.bytes[0]?) same
    simp [data, List.getElem?_eq_getElem filled] at heads
  let history := (before ++ other :: after).map (replaced other data)
  -- no datagram of the second history is `other`, so its block does not depend on the mark
  have unmarked : ∀ byte, block (patch (markedReply fits other byte)) history base =
      block (patch (markedReply fits other 0)) history base := by
    intro byte
    refine congrArg (paint · base) (List.map_congr_left fun datagram member => ?_)
    obtain ⟨original, _, rfl⟩ := List.mem_map.mp member
    have others : ¬((replaced other data original).peer = other.peer ∧
        (replaced other data original).data.bytes = other.data.bytes) := by
      rintro ⟨peers, bytes⟩
      refine replaced_ne different original ?_
      generalize replaced other data original = datagram at peers bytes
      obtain ⟨peer, bytes', _⟩ := datagram
      obtain ⟨peer', bytes'', _⟩ := other
      cases peers
      cases bytes
      rfl
    simp only [patch, markedReply, if_neg others]
  let byte := ((block (patch (markedReply fits other 0)) history base)[position]?).getD 0 + 1
  have lengths : ∀ peer data,
      (markedReply fits other byte peer data).bytes.length = replyLen peer data :=
    fun _ _ => List.length_replicate
  have reaches : position < reach replyLen other := Nat.lt_of_lt_of_le replied (Nat.le_max_left _ _)
  refine ⟨markedReply fits other byte, data, lengths, List.length_map _, ?_⟩
  change _ ≠ (block (patch (markedReply fits other byte)) history base)[position]?
  rw [unmarked, block_at_last lengths reaches short, if_pos replied, markedReply,
    filling_getElem? _ replied, if_pos ⟨rfl, rfl⟩]
  intro same
  have marks : byte = ((block (patch (markedReply fits other 0)) history base)[position]?).getD 0 + 1 :=
    rfl
  rw [← same, Option.getD_some] at marks
  simp at marks

end Leak

/-! ## A call for every history -/

/-- A round in which `datagram` arrives and the send succeeds. -/
def arriving (reply : Reply) (datagram : Datagram) : UdpRound where
  elapsedSecs := 0
  recvSleep := .unpolled
  recvFrom := .ok (datagram.data, datagram.peer)
  onMessage := replying reply
  sendSleep := .unpolled
  sendTo := fun bytes _ => .ok bytes.length

/-- A server without a timeout that receives `datagrams`. -/
def serving (reply : Reply) (datagrams : List Datagram) : UdpCall where
  address := "0.0.0.0"
  port := 8000
  readWriteTimeoutInSecs := .finite 0
  onBindSocket := ⟨fun _ => .ok ()⟩
  onCloseSocket := ⟨fun _ _ => .ok ()⟩
  fromStr := fun _ => .ok (.v4 0 8000)
  bind := fun _ => .ok ()
  localAddr := .ok (.v4 0 8000)
  rounds := datagrams.map (arriving reply)

theorem read_arriving (reply : Reply) (datagram : Datagram) :
    read (.finite 0) (arriving reply datagram) = some (.ok (datagram.data, datagram.peer)) :=
  selectTimeout_of_not_positive rfl _ _ _

theorem send_arriving (reply : Reply) (datagram : Datagram) (peer : SocketAddr)
    (bytes : List UInt8) :
    send (.finite 0) (arriving reply datagram) peer bytes = some (.ok bytes.length) :=
  selectTimeout_of_not_positive rfl _ _ _

theorem replies_serving (reply : Reply) (datagrams : List Datagram) :
    Replies reply (serving reply datagrams).readWriteTimeoutInSecs
      (serving reply datagrams).rounds := by
  constructor
  · intro round member
    obtain ⟨datagram, _, rfl⟩ := List.mem_map.mp member
    rfl
  · intro round member peer bytes
    obtain ⟨datagram, _, rfl⟩ := List.mem_map.mp member
    exact ⟨bytes.length, send_arriving reply datagram peer bytes⟩

theorem received_serving (reply : Reply) (datagrams : List Datagram) :
    received (serverEvents (serving reply datagrams)) = datagrams := by
  have serves : ∀ msg, received
      (run (serverRound (.finite 0)) (datagrams.map (arriving reply)) msg).events = datagrams := by
    induction datagrams with
    | nil => exact fun _ => rfl
    | cons datagram datagrams ih =>
      intro msg
      obtain ⟨events, left, goes, _, receives, _⟩ := serverRound_of_read (read_arriving reply datagram)
        rfl (fun peer bytes => ⟨bytes.length, send_arriving reply datagram peer bytes⟩) msg
      have later := ih left
      rw [List.map_cons, run_cons, andThen_of_again _ (congrArg Outcome.control goes)]
      simp only [goes, received, List.filterMap_append] at receives later ⊢
      rw [receives, later]
      rfl
  exact serves (Buffer.new .binary)

/-- What a server sends for a history it can receive. -/
theorem sentTo_serving (reply : Reply) (datagrams : List Datagram) (peer : SocketAddr) :
    sentTo peer (serverEvents (serving reply datagrams)) =
      answers reply peer datagrams (Buffer.new .binary).buf := by
  rw [sentTo_serverEvents (replies_serving reply datagrams) peer, received_serving]

/-- A position that leaks in a prefix ending in a datagram of `peer` is sent to
`peer`. -/
theorem not_isolated_of_leaksAt {replyLen : SocketAddr → List UInt8 → Nat} {peer : SocketAddr}
    {before : List Datagram} {datagram other : Datagram} {position : Nat} (after : List Datagram)
    (asks : datagram.Asks peer) (foreign : other.peer ≠ peer)
    (leaks : LeaksAt replyLen (before ++ [datagram]) other position (Buffer.new .binary).buf) :
    ∃ reply : Reply, (∀ peer data, (reply peer data).bytes.length = replyLen peer data) ∧
      ¬Isolated reply peer ((before ++ datagram :: after).map Datagram.shape) := by
  obtain ⟨reply, data, lengths, same, differs⟩ := leaks
  refine ⟨reply, lengths, fun isolated => ?_⟩
  have sent := isolated (serving reply (before ++ datagram :: after))
    (serving reply ((before ++ datagram :: after).map (replaced other data)))
    (replies_serving _ _) (replies_serving _ _) (by rw [received_serving])
    (by
      rw [received_serving, List.map_map]
      exact List.map_congr_left fun d _ => replaced_shape same d)
    (by rw [received_serving, received_serving, fromPeer_replaced foreign])
  rw [sentTo_serving, sentTo_serving, List.map_append, List.map_cons,
    replaced_of_own foreign asks.1, answers_append, answers_append,
    answers_cons_of_asks asks, answers_cons_of_asks asks] at sent
  have counts : (answers reply peer before (Buffer.new .binary).buf).length =
      (answers reply peer (before.map (replaced other data)) (Buffer.new .binary).buf).length := by
    rw [answers_length, answers_length, List.countP_map]
    exact List.countP_congr fun d _ => by simp [asks_replaced_iff same]
  have heads := (List.cons.inj (List.append_inj sent counts).2).1
  apply differs
  rw [List.map_append, List.map_cons, List.map_nil, replaced_of_own foreign asks.1, block_append,
    block_append]
  exact congrArg (·[position]?) heads

/-- For the lengths of the datagrams and of the replies, `peer` sees nothing of the
others, whatever is in them, if and only if all that the others wrote is covered
whenever `peer` is answered. -/
theorem peers_isolated_iff (peer : SocketAddr) (schedule : List (SocketAddr × Nat))
    (replyLen : SocketAddr → List UInt8 → Nat)
    (fits : ∀ peer data, replyLen peer data ≤ maxMsgSize) :
    (∀ reply : Reply, (∀ peer data, (reply peer data).bytes.length = replyLen peer data) →
      Isolated reply peer schedule) ↔
    ∀ datagrams : List Datagram, datagrams.map Datagram.shape = schedule →
      Secluded replyLen peer datagrams := by
  constructor
  · rintro isolated datagrams rfl before datagram after rfl asks
    rw [← exposed_eq_zero_iff]
    refine Nat.eq_zero_of_not_pos fun visible => ?_
    obtain ⟨earlier, other, later, split, ⟨foreign, filled⟩, reaches, short⟩ := exposed_split visible
    generalize exposed (Foreign peer) (reach replyLen) (before ++ [datagram]) = front at *
    have short' : ∀ d ∈ later, reach replyLen d ≤ front - 1 := fun d member =>
      Nat.le_sub_one_of_lt (short d member)
    have leaks : LeaksAt replyLen (before ++ [datagram]) other (front - 1)
        (Buffer.new .binary).buf := by
      rw [split]
      by_cases replied : front - 1 < replyLen other.peer other.data.bytes
      · exact leaksAt_of_reply fits filled replied short' _
      · refine leaksAt_of_data fits ?_ (by omega) short' _
        unfold reach at reaches
        omega
    obtain ⟨reply, lengths, differs⟩ := not_isolated_of_leaksAt after asks foreign leaks
    exact differs (isolated reply lengths)
  · intro secluded reply lengths call call' replies replies' shapes shapes' same
    rw [sentTo_serverEvents replies, sentTo_serverEvents replies']
    exact answers_eq_of_secluded lengths .nil (forall₂_alike (shapes.trans shapes'.symm) same)
      (secluded _ shapes) (secluded _ shapes') (Buffer.new .binary).buf

def earlierPeer : SocketAddr := .v4 1 1000

def laterPeer : SocketAddr := .v4 2 1000

/-- The echo. -/
def echoing : Reply := fun _ data => ⟨data.take maxMsgSize, List.length_take_le _ _⟩

/-- An echo writes what the datagram wrote. -/
theorem patch_echoing (datagram : Datagram) : patch echoing datagram = datagram.data.bytes := by
  have whole : (echoing datagram.peer datagram.data.bytes).bytes = datagram.data.bytes :=
    List.take_of_length_le datagram.data.fits
  rw [patch, whole, overlay, List.drop_length, List.append_nil]

/-- With an echo, a longer datagram of `laterPeer` covers the one before it. -/
theorem longer_datagram_isolated : Isolated echoing laterPeer [(earlierPeer, 2), (laterPeer, 3)] := by
  refine (peers_isolated_iff laterPeer [(earlierPeer, 2), (laterPeer, 3)]
    (fun _ data => min maxMsgSize data.length) (fun _ _ => Nat.min_le_left _ _)).mpr ?_
    echoing (fun _ _ => List.length_take)
  intro datagrams shapes before datagram after split asks
  rw [split, List.map_append, List.map_cons] at shapes
  obtain ⟨first, rfl, firstShape⟩ : ∃ first, before = [first] ∧ first.data.bytes.length = 2 := by
    match before with
    | [] =>
      have peers := congrArg Prod.fst (List.cons.inj shapes).1
      exact absurd (peers.symm.trans asks.1) (by decide)
    | [first] => exact ⟨first, rfl, congrArg Prod.snd (List.cons.inj shapes).1⟩
    | _ :: _ :: _ => simp at shapes
  have length : datagram.data.bytes.length = 3 :=
    congrArg Prod.snd (List.cons.inj (List.cons.inj shapes).2).1
  intro earlier write later parts foreign _
  match earlier, parts with
  | [], parts =>
    obtain ⟨rfl, rfl⟩ := List.cons.inj parts
    refine ⟨datagram, List.mem_singleton_self _, fun both => both.1 asks.1, ?_⟩
    simp only [reach, length, firstShape]
    omega
  | [_], parts =>
    obtain ⟨_, rest⟩ := List.cons.inj parts
    obtain ⟨rfl, _⟩ := List.cons.inj rest
    exact absurd asks.1 foreign.1
  | _ :: _ :: _, parts => simp at parts

/-- `earlierPeer` sends `byte` twice, then `laterPeer` sends a single byte. -/
def shorterHistory (byte : UInt8) : List Datagram :=
  [⟨earlierPeer, ⟨[byte, byte], by simp [maxMsgSize]⟩⟩, ⟨laterPeer, ⟨[1], by simp [maxMsgSize]⟩⟩]

theorem shorterHistory_sends (byte : UInt8) :
    (sentTo laterPeer (serverEvents (serving echoing (shorterHistory byte)))).map (·[1]?) =
      [some byte] := by
  have silent : ∀ data, ¬Datagram.Asks laterPeer ⟨earlierPeer, data⟩ := by
    rintro data ⟨peers, _⟩
    exact absurd peers (by decide : earlierPeer ≠ laterPeer)
  rw [sentTo_serving, shorterHistory, answers_cons_of_not (silent _),
    answers_cons_of_asks (by exact ⟨rfl, Nat.one_pos⟩)]
  simp only [answers, List.map_cons, List.map_nil, overlay_getElem?, patch_echoing]
  rfl

/-- `laterPeer`, who sent one byte and is replied one byte, is sent the second byte of
`earlierPeer`. -/
theorem earlier_byte_sent_to_later_peer :
    (sentTo laterPeer (serverEvents (serving echoing (shorterHistory 7)))).map (·[1]?) = [some 7] ∧
      (sentTo laterPeer (serverEvents (serving echoing (shorterHistory 8)))).map (·[1]?) = [some 8] ∧
      ¬Isolated echoing laterPeer [(earlierPeer, 2), (laterPeer, 1)] := by
  refine ⟨shorterHistory_sends 7, shorterHistory_sends 8, fun isolated => ?_⟩
  have same := isolated (serving echoing (shorterHistory 7)) (serving echoing (shorterHistory 8))
    (replies_serving _ _) (replies_serving _ _) (by rw [received_serving]; rfl)
    (by rw [received_serving]; rfl) (by rw [received_serving, received_serving]; decide)
  have seventh := shorterHistory_sends 7
  rw [same, shorterHistory_sends 8] at seventh
  cases seventh

end WolfEngine.Verified
