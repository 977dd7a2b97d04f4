import WolfEngine.Verified.LzmaStored

/-! # The loop of `decompress_2`

The decoder is called as long as it goes on, there is room for twice the size in the
header and there are bytes of the source left.  When it neither fails, nor reports the
end mark, nor fills that room before they are used up, `gsl::at` stops the process:
the loop only returns with decoders that stop in time.  So it returns with every decoder
that does nothing without input exactly for the inputs that are not decoded.
-/

namespace WolfEngine.Verified.Lzma

open WolfEngine.System.Lzma EventLoop

variable {sdk : LzmaSdk} {src : List UInt8} {size : Nat} {state last : DecodeState sdk.CLzma2Dec}
  {exit : LoopExit sdk.CLzma2Dec}

/-! ## One round -/

/-- There is room and there is input, so the decoder is called. -/
structure Called (src : List UInt8) (size : Nat) (state : DecodeState sdk.CLzma2Dec) : Prop where
  room : state.outPos < size * 2
  input : state.inPos < src.length

/-- The event of that call. -/
def callOf (src : List UInt8) (size : Nat) (state : DecodeState sdk.CLzma2Dec) : LzmaCall :=
  .lzma2DecDecodeToBuf (state.offer src.length size) (state.call sdk src size).1.res

theorem round_filled (full : size * 2 ≤ state.outPos) :
    decodeRound sdk src size () state = ⟨[], .leave (.done state)⟩ :=
  if_neg (Nat.not_lt.mpr full)

theorem round_starved (room : state.outPos < size * 2) (spent : src.length ≤ state.inPos) :
    decodeRound sdk src size () state = ⟨[], .leave .terminated⟩ := by
  simp [decodeRound, room, Nat.not_lt.mpr spent]

theorem round_refused (called : Called src size state)
    (failed : (state.call sdk src size).1.res ≠ szOk) :
    decodeRound sdk src size () state = ⟨[callOf src size state], .leave .failed⟩ := by
  simp [decodeRound, callOf, called.room, called.input, failed]

theorem round_marked (called : Called src size state)
    (ok : (state.call sdk src size).1.res = szOk)
    (mark : (state.call sdk src size).1.status = .finishedWithMark) :
    decodeRound sdk src size () state =
      ⟨[callOf src size state], .leave (.done (state.advance sdk src size))⟩ := by
  simp [decodeRound, callOf, called.room, called.input, ok, mark]

theorem round_onward (called : Called src size state)
    (ok : (state.call sdk src size).1.res = szOk)
    (unmarked : (state.call sdk src size).1.status ≠ .finishedWithMark) :
    decodeRound sdk src size () state =
      ⟨[callOf src size state], .again (state.advance sdk src size)⟩ := by
  simp [decodeRound, callOf, called.room, called.input, ok, unmarked]

/-- All that a round can come to. -/
inductive RoundCase (src : List UInt8) (size : Nat) (state : DecodeState sdk.CLzma2Dec) : Prop
  | filled (full : size * 2 ≤ state.outPos)
  | starved (room : state.outPos < size * 2) (spent : src.length ≤ state.inPos)
  | refused (called : Called src size state) (failed : (state.call sdk src size).1.res ≠ szOk)
  | marked (called : Called src size state) (ok : (state.call sdk src size).1.res = szOk)
      (mark : (state.call sdk src size).1.status = .finishedWithMark)
  | onward (called : Called src size state) (ok : (state.call sdk src size).1.res = szOk)
      (unmarked : (state.call sdk src size).1.status ≠ .finishedWithMark)

theorem round_cases (src : List UInt8) (size : Nat) (state : DecodeState sdk.CLzma2Dec) :
    RoundCase src size state := by
  by_cases room : state.outPos < size * 2
  · by_cases input : state.inPos < src.length
    · by_cases ok : (state.call sdk src size).1.res = szOk
      · by_cases mark : (state.call sdk src size).1.status = .finishedWithMark
        · exact .marked ⟨room, input⟩ ok mark
        · exact .onward ⟨room, input⟩ ok mark
      · exact .refused ⟨room, input⟩ ok
    · exact .starved room (Nat.le_of_not_lt input)
  · exact .filled (Nat.le_of_not_lt room)

/-! ## Decoders that stop in time -/

/-- Called with bytes of the source left each time, the decoder fails, reports the end
mark or fills the room. -/
inductive Stops (src : List UInt8) (size : Nat) :
    DecodeState sdk.CLzma2Dec → LoopExit sdk.CLzma2Dec → Prop
  | filled (state : DecodeState sdk.CLzma2Dec) (full : size * 2 ≤ state.outPos) :
      Stops src size state (.done state)
  | refused (state : DecodeState sdk.CLzma2Dec) (called : Called src size state)
      (failed : (state.call sdk src size).1.res ≠ szOk) : Stops src size state .failed
  | marked (state : DecodeState sdk.CLzma2Dec) (called : Called src size state)
      (ok : (state.call sdk src size).1.res = szOk)
      (mark : (state.call sdk src size).1.status = .finishedWithMark) :
      Stops src size state (.done (state.advance sdk src size))
  | onward (state : DecodeState sdk.CLzma2Dec) (exit : LoopExit sdk.CLzma2Dec)
      (called : Called src size state) (ok : (state.call sdk src size).1.res = szOk)
      (unmarked : (state.call sdk src size).1.status ≠ .finishedWithMark)
      (rest : Stops src size (state.advance sdk src size) exit) : Stops src size state exit

/-- A run of the loop for so many rounds. -/
abbrev decoded (sdk : LzmaSdk) (src : List UInt8) (size rounds : Nat)
    (state : DecodeState sdk.CLzma2Dec) :
    Outcome (DecodeState sdk.CLzma2Dec) LzmaCall (LoopExit sdk.CLzma2Dec) :=
  run (decodeRound sdk src size) (List.replicate rounds ()) state

theorem stops_of_leave {rounds : Nat} (returns : exit ≠ .terminated)
    (left : (decoded sdk src size rounds state).control = .leave exit) :
    Stops src size state exit := by
  induction rounds generalizing state with
  | zero => cases left
  | succ rounds ih =>
    have first := run_cons_leave_iff.mp left
    cases round_cases src size state with
    | filled full =>
      simp [round_filled full] at first
      rw [← first]
      exact .filled state full
    | starved room spent =>
      simp [round_starved room spent] at first
      exact absurd first.symm returns
    | refused called failed =>
      simp [round_refused called failed] at first
      rw [← first]
      exact .refused state called failed
    | marked called ok mark =>
      simp [round_marked called ok mark] at first
      rw [← first]
      exact .marked state called ok mark
    | onward called ok unmarked =>
      simp [round_onward called ok unmarked] at first
      exact .onward state exit called ok unmarked (ih first)

theorem leave_of_stops (stops : Stops src size state exit) :
    ∃ rounds, (decoded sdk src size rounds state).control = .leave exit := by
  induction stops with
  | filled state full =>
    apply Exists.intro 1
    rw [decoded, List.replicate_one, run_singleton, round_filled full]
  | refused state called failed =>
    apply Exists.intro 1
    rw [decoded, List.replicate_one, run_singleton, round_refused called failed]
  | marked state called ok mark =>
    apply Exists.intro 1
    rw [decoded, List.replicate_one, run_singleton, round_marked called ok mark]
  | onward state exit called ok unmarked rest ih =>
    obtain ⟨rounds, left⟩ := ih
    apply Exists.intro (rounds + 1)
    apply run_cons_leave_iff.mpr
    rw [round_onward called ok unmarked]
    exact .inr ⟨_, rfl, left⟩

theorem stops_terminated (stops : Stops src size state exit) : exit ≠ .terminated := by
  induction stops with
  | filled | refused | marked => simp
  | onward state exit called ok unmarked rest ih => exact ih

/-- The decoder goes on until the source is used up. -/
inductive Starves (src : List UInt8) (size : Nat) : DecodeState sdk.CLzma2Dec → Prop
  | spent (state : DecodeState sdk.CLzma2Dec) (room : state.outPos < size * 2)
      (spent : src.length ≤ state.inPos) : Starves src size state
  | onward (state : DecodeState sdk.CLzma2Dec) (called : Called src size state)
      (ok : (state.call sdk src size).1.res = szOk)
      (unmarked : (state.call sdk src size).1.status ≠ .finishedWithMark)
      (rest : Starves src size (state.advance sdk src size)) : Starves src size state

theorem not_stops_of_starves (starves : Starves src size state) : ¬Stops src size state exit := by
  induction starves generalizing exit with
  | spent state room spent =>
    intro stops
    cases stops with
    | filled _ full => omega
    | refused _ called failed => exact absurd called.input (by omega)
    | marked _ called ok mark => exact absurd called.input (by omega)
    | onward _ _ called ok unmarked rest => exact absurd called.input (by omega)
  | onward state called ok unmarked rest ih =>
    intro stops
    cases stops with
    | filled _ full => exact absurd called.room (by omega)
    | refused _ _ failed => exact failed ok
    | marked _ _ _ mark => exact unmarked mark
    | onward _ _ _ _ _ stops => exact ih stops

/-! ## Decoders that use up what they are offered -/

/-- The answer of a decoder to the rest of the source, with so much room left. -/
def ask (sdk : LzmaSdk) (size : Nat) (dec : sdk.CLzma2Dec) (rest : List UInt8) (room : Nat) :
    DecodeAnswer (rest.take bufSize).length (min bufSize room) × sdk.CLzma2Dec :=
  sdk.lzma2DecDecodeToBuf dec
    (if size * 2 - room + min bufSize room = size then .finishEnd else .finishAny)
    (rest.take bufSize) (min bufSize room)

/-- Asked again and again for what it left of the rest, the decoder takes all of it, and
neither fails, nor reports the end mark, nor fills the room. -/
inductive UsesUp (sdk : LzmaSdk) (size : Nat) : sdk.CLzma2Dec → List UInt8 → Nat → Prop
  | spent (dec : sdk.CLzma2Dec) (room : Nat) (left : 0 < room) : UsesUp sdk size dec [] room
  | onward (dec : sdk.CLzma2Dec) (rest : List UInt8) (room : Nat) (more : rest ≠ [])
      (left : 0 < room) (ok : (ask sdk size dec rest room).1.res = szOk)
      (unmarked : (ask sdk size dec rest room).1.status ≠ .finishedWithMark)
      (later : UsesUp sdk size (ask sdk size dec rest room).2
        (rest.drop (ask sdk size dec rest room).1.consumed)
        (room - (ask sdk size dec rest room).1.bytes.length)) : UsesUp sdk size dec rest room

/-! ## What the loop has written -/

/-- The positions do not wrap, and the output position is the size of the data. -/
structure Tracks (size : Nat) (state : DecodeState sdk.CLzma2Dec) : Prop where
  data : state.data.length = state.outPos
  room : state.outPos ≤ size * 2

theorem tracks_start (dec : sdk.CLzma2Dec) : Tracks size (decodeStart dec) :=
  ⟨rfl, Nat.zero_le _⟩

/-- What the decoder wrote fits behind what there was. -/
theorem advance_outPos (src : List UInt8) (small : size ≤ maxSize) (room : state.outPos ≤ size * 2) :
    (state.advance sdk src size).outPos =
        state.outPos + (state.call sdk src size).1.bytes.length ∧
      (state.advance sdk src size).outPos ≤ size * 2 := by
  have fits := (state.call sdk src size).1.fits
  have destLen : (state.offer src.length size).destLen = min bufSize (size * 2 - state.outPos) := rfl
  have sum : (state.advance sdk src size).outPos =
      (state.outPos + (state.call sdk src size).1.bytes.length) % 2 ^ 32 := rfl
  unfold maxSize at small
  omega

theorem tracks_advance (small : size ≤ maxSize) (tracks : Tracks size state) :
    Tracks size (state.advance sdk src size) := by
  obtain ⟨sum, room⟩ := advance_outPos src small tracks.room
  have data : (state.advance sdk src size).data =
      state.data ++ (state.call sdk src size).1.bytes := rfl
  apply Tracks.mk _ room
  rw [data, List.length_append, tracks.data, sum]

/-- Below 4 GiB the input position does not wrap either. -/
theorem advance_inPos (size : Nat) (narrow : src.length < 2 ^ 32) (input : state.inPos ≤ src.length) :
    (state.advance sdk src size).inPos = state.inPos + (state.call sdk src size).1.consumed ∧
      (state.advance sdk src size).inPos ≤ src.length := by
  have taken : (state.call sdk src size).1.consumed ≤ (state.offer src.length size).srcLen :=
    Nat.le_trans (state.call sdk src size).1.taken
      (Nat.le_of_eq (state.offered_length src size))
  have srcLen : (state.offer src.length size).srcLen = min bufSize (src.length - state.inPos) := rfl
  have sum : (state.advance sdk src size).inPos =
      (state.inPos + (state.call sdk src size).1.consumed) % 2 ^ 32 := rfl
  omega

theorem stops_tracks (small : size ≤ maxSize) (stops : Stops src size state exit)
    (tracks : Tracks size state) (ended : exit = .done last) : Tracks size last := by
  induction stops with
  | filled state full =>
    cases ended
    exact tracks
  | refused state called failed => cases ended
  | marked state called ok mark =>
    cases ended
    exact tracks_advance small tracks
  | onward state exit called ok unmarked rest ih => exact ih (tracks_advance small tracks) ended

/-- The loop asks for what it has not read yet, with the room that it has not filled. -/
theorem call_eq_ask (src : List UInt8) (room : state.outPos ≤ size * 2) :
    let answer := ask sdk size state.dec (src.drop state.inPos) (size * 2 - state.outPos)
    (state.call sdk src size).1.res = answer.1.res ∧
      (state.call sdk src size).1.status = answer.1.status ∧
      (state.call sdk src size).1.consumed = answer.1.consumed ∧
      (state.call sdk src size).1.bytes = answer.1.bytes ∧
      (state.call sdk src size).2 = answer.2 := by
  have offered : state.offered src size = (src.drop state.inPos).take bufSize := by
    have srcLen : (state.offer src.length size).srcLen = min bufSize (src.drop state.inPos).length := by
      rw [List.length_drop]
      rfl
    rw [DecodeState.offered, srcLen]
    apply List.take_eq_take_iff.mpr
    rw [Nat.min_assoc, Nat.min_self]
  have mode : state.finishMode src.length size =
      if size * 2 - (size * 2 - state.outPos) + min bufSize (size * 2 - state.outPos) = size
      then .finishEnd else .finishAny := by
    rw [Nat.sub_sub_self room]
    rfl
  have destLen : (state.offer src.length size).destLen = min bufSize (size * 2 - state.outPos) := rfl
  dsimp only [DecodeState.call, ask]
  rw [offered, mode, destLen]
  simp

theorem usesUp_of_starves (small : size ≤ maxSize) (narrow : src.length < 2 ^ 32)
    (room : state.outPos ≤ size * 2) (input : state.inPos ≤ src.length)
    (starves : Starves src size state) :
    UsesUp sdk size state.dec (src.drop state.inPos) (size * 2 - state.outPos) := by
  induction starves with
  | spent state left spent =>
    rw [List.drop_eq_nil_of_le spent]
    exact .spent _ _ (Nat.sub_pos_of_lt left)
  | onward state called ok unmarked rest ih =>
    obtain ⟨outPos, room'⟩ := advance_outPos src small room
    obtain ⟨inPos, input'⟩ := advance_inPos size narrow input
    obtain ⟨res, status, consumed, bytes, dec⟩ := call_eq_ask src room
    have later := ih room' input'
    have advanced : (state.advance sdk src size).dec = (state.call sdk src size).2 := rfl
    rw [advanced, inPos, outPos, ← List.drop_drop, Nat.sub_add_eq, consumed, bytes, dec] at later
    refine .onward _ _ _ ?_ (Nat.sub_pos_of_lt called.room) (res ▸ ok) (status ▸ unmarked) later
    exact List.drop_eq_nil_iff.not.mpr (Nat.not_le.mpr called.input)

theorem starves_of_usesUp (small : size ≤ maxSize) (narrow : src.length < 2 ^ 32)
    (room : state.outPos ≤ size * 2) (input : state.inPos ≤ src.length)
    (uses : UsesUp sdk size state.dec (src.drop state.inPos) (size * 2 - state.outPos)) :
    Starves src size state := by
  generalize held : state.dec = dec at uses
  generalize unread : src.drop state.inPos = rest at uses
  generalize unfilled : size * 2 - state.outPos = empty at uses
  induction uses generalizing state with
  | spent dec empty left =>
    exact .spent state (by omega) (List.drop_eq_nil_iff.mp unread)
  | onward dec rest empty more left ok unmarked later ih =>
    subst held unread unfilled
    obtain ⟨outPos, room'⟩ := advance_outPos src small room
    obtain ⟨inPos, input'⟩ := advance_inPos size narrow input
    obtain ⟨res, status, consumed, bytes, dec⟩ := call_eq_ask src room
    have called : Called src size state :=
      ⟨by omega, Nat.lt_of_not_le (List.drop_eq_nil_iff.not.mp more)⟩
    refine .onward state called (res.trans ok) (status ▸ unmarked) (ih room' input' dec ?_ ?_)
    · rw [inPos, ← List.drop_drop, consumed]
    · rw [outPos, Nat.sub_add_eq, bytes]

/-- A decoder that is given input and room, and neither fails nor ends, takes or writes
something. -/
def Progresses (sdk : LzmaSdk) : Prop :=
  ∀ (dec : sdk.CLzma2Dec) (mode : ELzmaFinishMode) (offered : List UInt8) (destLen : Nat),
    offered ≠ [] → 0 < destLen →
    (sdk.lzma2DecDecodeToBuf dec mode offered destLen).1.res = szOk →
    (sdk.lzma2DecDecodeToBuf dec mode offered destLen).1.status ≠ .finishedWithMark →
    0 < (sdk.lzma2DecDecodeToBuf dec mode offered destLen).1.consumed +
      (sdk.lzma2DecDecodeToBuf dec mode offered destLen).1.bytes.length

theorem call_progresses (progresses : Progresses sdk) (called : Called src size state)
    (ok : (state.call sdk src size).1.res = szOk)
    (unmarked : (state.call sdk src size).1.status ≠ .finishedWithMark) :
    0 < (state.call sdk src size).1.consumed + (state.call sdk src size).1.bytes.length := by
  have room := called.room
  have input := called.input
  apply progresses _ _ _ _ _ _ ok unmarked
  · apply List.ne_nil_of_length_pos
    rw [DecodeState.offered_length]
    show 0 < min bufSize (src.length - state.inPos)
    unfold bufSize
    omega
  · show 0 < min bufSize (size * 2 - state.outPos)
    unfold bufSize
    omega

/-- The loop always comes to an end: what is left of the input and of the room gets less
with every call. -/
theorem stops_or_starves (progresses : Progresses sdk) (small : size ≤ maxSize)
    (narrow : src.length < 2 ^ 32) (room : state.outPos ≤ size * 2)
    (input : state.inPos ≤ src.length) :
    (∃ exit, Stops src size state exit) ∨ Starves src size state := by
  induction measure : (src.length - state.inPos) + (size * 2 - state.outPos)
    using Nat.strongRecOn generalizing state with
  | ind left ih =>
    cases round_cases src size state with
    | filled full => exact .inl ⟨_, .filled state full⟩
    | starved room spent => exact .inr (.spent state room spent)
    | refused called failed => exact .inl ⟨_, .refused state called failed⟩
    | marked called ok mark => exact .inl ⟨_, .marked state called ok mark⟩
    | onward called ok unmarked =>
      have progress := call_progresses progresses called ok unmarked
      obtain ⟨outPos, room'⟩ := advance_outPos src small room
      obtain ⟨inPos, input'⟩ := advance_inPos size narrow input
      have less : (src.length - (state.advance sdk src size).inPos) +
          (size * 2 - (state.advance sdk src size).outPos) < left := by omega
      cases ih _ less room' input' rfl with
      | inl stops =>
        obtain ⟨exit, stops⟩ := stops
        exact .inl ⟨exit, .onward state exit called ok unmarked stops⟩
      | inr starves => exact .inr (.onward state called ok unmarked starves)

/-! ## Around the loop -/

/-- The header is whole, the block is granted and the decoder is allocated. -/
structure Enters (sdk : LzmaSdk) (miMalloc : Nat → Bool) (src : List UInt8) : Prop where
  header : 9 ≤ src.length
  small : sizeFromHeader 1 src ≤ maxSize
  granted : miMalloc (sizeFromHeader 1 src) = true
  allocated : (sdk.lzma2DecAllocate 0).1 = szOk

/-- Where the loop starts. -/
abbrev startOf (sdk : LzmaSdk) : DecodeState sdk.CLzma2Dec := decodeStart (sdk.lzma2DecAllocate 0).2

variable {miMalloc : Nat → Bool}

theorem decompress2_of_enters (enters : Enters sdk miMalloc src) (rounds : Nat) (trace : String) :
    decompress2 rounds sdk miMalloc src trace =
      (.lzma2DecAllocate 0 szOk ::
          (decoded sdk src (sizeFromHeader 1 src) rounds (startOf sdk)).events,
        exitOf (sizeFromHeader 1 src) trace
          (decoded sdk src (sizeFromHeader 1 src) rounds (startOf sdk)).control) := by
  have long : ¬src.length < lzmaHeaderSrcSize + 1 := Nat.not_lt.mpr enters.header
  simp only [decompress2, lzma2PropsSize, if_neg long, if_pos enters.small, enters.granted,
    if_true, enters.allocated]

/-- A message says what failed, and nothing but the allocation of a decoder was called. -/
structure Refuses (ran : String → List LzmaCall × Option Exit) : Prop where
  exits : ∃ message, message ≠ "" ∧ ∀ trace, (ran trace).2 = some (.returned [] message)
  calls : ∀ trace, ∀ call ∈ (ran trace).1, ∃ prop res, call = .lzma2DecAllocate prop res

theorem refuses_of_eq {ran : String → List LzmaCall × Option Exit} {calls : List LzmaCall}
    {message : String} (same : ∀ trace, ran trace = (calls, some (.returned [] message)))
    (nonempty : message ≠ "")
    (only : ∀ call ∈ calls, ∃ prop res, call = .lzma2DecAllocate prop res) : Refuses ran where
  exits := ⟨message, nonempty, fun trace => by rw [same]⟩
  calls trace := by
    rw [same]
    exact only

theorem decompress2_refuses (outside : ¬Enters sdk miMalloc src) (rounds : Nat) :
    Refuses (decompress2 rounds sdk miMalloc src) := by
  by_cases long : src.length < lzmaHeaderSrcSize + 1
  · exact refuses_of_eq (fun _ => if_pos long) (by decide) (List.forall_mem_nil _)
  by_cases small : sizeFromHeader 1 src ≤ maxSize
  case neg =>
    exact refuses_of_eq (fun _ => (if_neg long).trans (if_neg small)) (by decide)
      (List.forall_mem_nil _)
  by_cases granted : miMalloc (sizeFromHeader 1 src) = true
  case neg =>
    exact refuses_of_eq (fun _ => (if_neg long).trans ((if_pos small).trans (if_neg granted)))
      (by decide) (List.forall_mem_nil _)
  have unallocated : (sdk.lzma2DecAllocate 0).1 ≠ szOk := fun allocated =>
    outside ⟨Nat.le_of_not_lt long, small, granted, allocated⟩
  apply refuses_of_eq
  · intro trace
    exact (if_neg long).trans ((if_pos small).trans ((if_pos granted).trans (if_neg unallocated)))
  · decide
  · intro call member
    exact ⟨0, _, List.mem_singleton.mp member⟩

/-! ## Returning -/

/-- `decompress_2` leaves its loop, with all of the output or without any. -/
def Returns (sdk : LzmaSdk) (miMalloc : Nat → Bool) (src : List UInt8) : Prop :=
  ∀ trace, ∃ rounds vec traced,
    (decompress2 rounds sdk miMalloc src trace).2 = some (.returned vec traced) ∧
      (vec = [] ∨ vec.length = sizeFromHeader 1 src)

theorem exitOf_eq_some_iff {trace : String}
    {control : Control (DecodeState sdk.CLzma2Dec) (LoopExit sdk.CLzma2Dec)} {returned : Exit} :
    exitOf size trace control = some returned ↔
      ∃ exit, control = .leave exit ∧ afterLoop size trace exit = returned := by
  cases control with
  | again state => simp [exitOf]
  | leave exit => simp [exitOf]

/-- A loop that stops in time returns. -/
theorem afterLoop_of_stops {dec : sdk.CLzma2Dec} (small : size ≤ maxSize) (trace : String)
    (stops : Stops src size (decodeStart dec) exit) :
    ∃ vec traced, afterLoop size trace exit = .returned vec traced ∧
      (vec = [] ∨ vec.length = size) := by
  cases exit with
  | done last =>
    have tracks := stops_tracks small stops (tracks_start dec) rfl
    by_cases whole : last.outPos = size
    · refine ⟨_, _, if_pos whole, .inr ?_⟩
      rw [List.length_take, tracks.data, whole, Nat.min_self]
    · exact ⟨_, _, if_neg whole, .inl rfl⟩
  | failed => exact ⟨_, _, rfl, .inl rfl⟩
  | terminated => exact absurd rfl (stops_terminated stops)

/-- What follows the loop is what `decompress_2` returns. -/
theorem returned_of_leave (enters : Enters sdk miMalloc src) {rounds : Nat}
    {exit : LoopExit sdk.CLzma2Dec}
    (left : (decoded sdk src (sizeFromHeader 1 src) rounds (startOf sdk)).control = .leave exit)
    (trace : String) :
    (decompress2 rounds sdk miMalloc src trace).2 =
      some (afterLoop (sizeFromHeader 1 src) trace exit) := by
  rw [decompress2_of_enters enters]
  exact exitOf_eq_some_iff.mpr ⟨exit, left, rfl⟩

/-- Where it returned, its loop had stopped. -/
theorem stops_of_returned (enters : Enters sdk miMalloc src) {rounds : Nat} {vec : List UInt8}
    {trace traced : String}
    (returned : (decompress2 rounds sdk miMalloc src trace).2 = some (.returned vec traced)) :
    ∃ exit, Stops src (sizeFromHeader 1 src) (startOf sdk) exit ∧
      (decoded sdk src (sizeFromHeader 1 src) rounds (startOf sdk)).control = .leave exit ∧
      afterLoop (sizeFromHeader 1 src) trace exit = .returned vec traced := by
  rw [decompress2_of_enters enters] at returned
  obtain ⟨exit, left, after⟩ := exitOf_eq_some_iff.mp returned
  have returns : exit ≠ .terminated := by
    intro terminated
    rw [terminated] at after
    cases after
  exact ⟨exit, stops_of_leave returns left, left, after⟩

theorem stops_of_returns (enters : Enters sdk miMalloc src) (returns : Returns sdk miMalloc src) :
    ∃ exit, Stops src (sizeFromHeader 1 src) (startOf sdk) exit := by
  obtain ⟨rounds, vec, traced, returned, _⟩ := returns ""
  obtain ⟨exit, stops, _⟩ := stops_of_returned enters returned
  exact ⟨exit, stops⟩

theorem returns_of_stops
    (stops : Enters sdk miMalloc src →
      ∃ exit, Stops src (sizeFromHeader 1 src) (startOf sdk) exit) :
    Returns sdk miMalloc src := by
  intro trace
  by_cases enters : Enters sdk miMalloc src
  · obtain ⟨exit, stops⟩ := stops enters
    obtain ⟨rounds, left⟩ := leave_of_stops stops
    obtain ⟨vec, traced, after, length⟩ := afterLoop_of_stops enters.small trace stops
    have returned := returned_of_leave enters left trace
    rw [after] at returned
    exact ⟨rounds, vec, traced, returned, length⟩
  · obtain ⟨message, _, exits⟩ := (decompress2_refuses enters 0).exits
    exact ⟨0, [], message, exits trace, .inl rfl⟩

/-- Without input a decoder does nothing. -/
def Idles (sdk : LzmaSdk) : Prop :=
  ∀ (dec : sdk.CLzma2Dec) (mode : ELzmaFinishMode) (destLen : Nat),
    (sdk.lzma2DecDecodeToBuf dec mode [] destLen).1.res = szOk ∧
      (sdk.lzma2DecDecodeToBuf dec mode [] destLen).1.consumed = 0 ∧
      (sdk.lzma2DecDecodeToBuf dec mode [] destLen).1.bytes = []

/-- The input is decoded: its header is whole, announces some bytes and not too many, and
there is memory for them. -/
structure Decoded (miMalloc : Nat → Bool) (src : List UInt8) : Prop where
  header : 9 ≤ src.length
  nonempty : 0 < sizeFromHeader 1 src
  small : sizeFromHeader 1 src ≤ maxSize
  granted : miMalloc (sizeFromHeader 1 src) = true

theorem hungrySdk_idles : Idles hungrySdk := fun _ _ _ => ⟨rfl, rfl, rfl⟩

theorem hungrySdk_not_stops {state : DecodeState hungrySdk.CLzma2Dec}
    {exit : LoopExit hungrySdk.CLzma2Dec} (nonempty : 0 < size) (unfilled : state.outPos = 0)
    (stops : Stops src size state exit) : False := by
  induction stops with
  | filled state full => omega
  | refused state called failed => exact failed rfl
  | marked state called ok mark => cases mark
  | onward state exit called ok unmarked rest ih =>
    apply ih
    show (state.outPos + 0) % 2 ^ 32 = 0
    rw [unfilled, Nat.zero_mod]

/-- `decompress_2` returns with every decoder that does nothing without input exactly for
the inputs that it does not decode. -/
theorem idle_returns_iff (miMalloc : Nat → Bool) (src : List UInt8) :
    (∀ sdk, Idles sdk → Returns sdk miMalloc src) ↔ ¬Decoded miMalloc src := by
  constructor
  · intro returns decoded
    have enters : Enters hungrySdk miMalloc src :=
      ⟨decoded.header, decoded.small, decoded.granted, rfl⟩
    obtain ⟨exit, stops⟩ := stops_of_returns enters (returns hungrySdk hungrySdk_idles)
    exact hungrySdk_not_stops decoded.nonempty rfl stops
  · intro undecoded sdk idles
    apply returns_of_stops
    intro enters
    have empty : sizeFromHeader 1 src = 0 := by
      by_contra nonzero
      exact undecoded ⟨enters.header, Nat.pos_of_ne_zero nonzero, enters.small, enters.granted⟩
    exact ⟨_, .filled _ (by rw [empty]; exact Nat.zero_le _)⟩

/-- With a decoder that makes progress it returns exactly if the decoder does not use up
the bytes behind the header. -/
theorem returns_iff_not_usesUp (progresses : Progresses sdk) (narrow : src.length < 2 ^ 32) :
    Returns sdk miMalloc src ↔
      (Enters sdk miMalloc src →
        ¬UsesUp sdk (sizeFromHeader 1 src) (sdk.lzma2DecAllocate 0).2 (src.drop 9)
          (sizeFromHeader 1 src * 2)) := by
  constructor
  · intro returns enters uses
    obtain ⟨exit, stops⟩ := stops_of_returns enters returns
    have starves : Starves src (sizeFromHeader 1 src) (startOf sdk) :=
      starves_of_usesUp enters.small narrow (Nat.zero_le _) enters.header uses
    exact not_stops_of_starves starves stops
  · intro fed
    apply returns_of_stops
    intro enters
    have input : (startOf sdk).inPos ≤ src.length := enters.header
    have ends := stops_or_starves progresses enters.small narrow (Nat.zero_le _) input
    apply ends.resolve_right
    intro starves
    exact fed enters (usesUp_of_starves enters.small narrow (Nat.zero_le _) input starves)

/-- The loop returns for every idle decoder exactly for the inputs that it does not decode,
and for one decoder that makes progress exactly if that does not use up the input. -/
theorem returns_iff (miMalloc : Nat → Bool) (src : List UInt8) :
    ((∀ sdk, Idles sdk → Returns sdk miMalloc src) ↔ ¬Decoded miMalloc src) ∧
    ∀ sdk, Progresses sdk → src.length < 2 ^ 32 →
      (Returns sdk miMalloc src ↔
        (Enters sdk miMalloc src →
          ¬UsesUp sdk (sizeFromHeader 1 src) (sdk.lzma2DecAllocate 0).2 (src.drop 9)
            (sizeFromHeader 1 src * 2))) :=
  ⟨idle_returns_iff miMalloc src, fun _ progresses narrow =>
    returns_iff_not_usesUp progresses narrow⟩

theorem storedSdk_idles : Idles storedSdk := by
  intro ⟨dict, phase⟩ mode destLen
  cases phase <;> exact ⟨rfl, rfl, rfl⟩

/-- The container of `"a"` without its last byte, the end mark: all of the output is
there, and the decoder waits for more. -/
theorem truncated_never_returns :
    Idles storedSdk ∧
      ¬Returns storedSdk (fun _ => true) [0, 1, 0, 0, 0, 0, 0, 0, 0, 1, 0, 0, 97] := by
  apply And.intro storedSdk_idles
  intro returns
  have size : sizeFromHeader 1 [0, 1, 0, 0, 0, 0, 0, 0, 0, 1, 0, 0, 97] = 1 := by decide
  have enters : Enters storedSdk (fun _ => true) [0, 1, 0, 0, 0, 0, 0, 0, 0, 1, 0, 0, 97] :=
    ⟨by decide, by rw [size]; decide, rfl, rfl⟩
  obtain ⟨exit, stops⟩ := stops_of_returns enters returns
  rw [size] at stops
  apply not_stops_of_starves _ stops
  apply Starves.onward
  · exact ⟨by decide, by decide⟩
  · rfl
  · decide
  · apply Starves.spent
    · decide
    · decide

end WolfEngine.Verified.Lzma
