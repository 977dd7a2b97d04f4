import WolfEngine.Verified.LzmaReports

/-! # The round trip of LZMA

The SDK is taken at its word: what its encoders write, its decoders restore.  A stream
decoder is described by what every single call does, whatever pieces of the stream it
is offered; that the loop of `decompress_2` offers the right pieces, one behind the
other, is what is proved.  It does, but it allocates its decoder with the smallest
dictionary, so data whose matches reach further back than that does not come back.
-/

namespace WolfEngine.Verified.Lzma

open WolfEngine.System.Lzma EventLoop MachineInt

variable {sdk : LzmaSdk} {miMalloc : Nat → Bool} {behind : Nat → UInt8} {src x : List UInt8}
  {size : Nat} {reach : List UInt8 → Nat}

/-! ## Stream decoders -/

/-- A call offers the next piece of a stream that has `todo` to read and `out` to write,
and asks for its end only where its output ends. -/
structure Piece (todo out : List UInt8) (mode : ELzmaFinishMode) (offered : List UInt8)
    (destLen : Nat) : Prop where
  input : offered <+: todo
  nonempty : offered ≠ []
  room : 0 < destLen
  atEnd : mode = .finishEnd → destLen = out.length

/-- Called so, the decoder writes the next bytes of its output and goes on, until it
reports the end mark with the last of them. -/
structure Restoring (sdk : LzmaSdk) (Left : sdk.CLzma2Dec → List UInt8 → List UInt8 → Prop) :
    Prop where
  input : ∀ dec todo out, Left dec todo out → todo ≠ []
  call : ∀ dec todo out, Left dec todo out → ∀ mode offered destLen,
    Piece todo out mode offered destLen →
    let called := sdk.lzma2DecDecodeToBuf dec mode offered destLen
    called.1.res = szOk ∧ called.1.bytes <+: out ∧
      (called.1.status = .finishedWithMark → called.1.bytes = out) ∧
      (called.1.status ≠ .finishedWithMark → 0 < called.1.consumed + called.1.bytes.length ∧
        Left called.2 (todo.drop called.1.consumed) (out.drop called.1.bytes.length))

/-- Called so, the decoder fails, or goes on with some output missing. -/
structure Failing (sdk : LzmaSdk) (Left : sdk.CLzma2Dec → List UInt8 → List UInt8 → Prop) :
    Prop where
  call : ∀ dec todo out, Left dec todo out → ∀ mode offered destLen,
    Piece todo out mode offered destLen →
    let called := sdk.lzma2DecDecodeToBuf dec mode offered destLen
    called.1.res = szOk → called.1.status ≠ .finishedWithMark ∧
      called.1.bytes.length < out.length ∧
      Left called.2 (todo.drop called.1.consumed) (out.drop called.1.bytes.length)

/-- The decoder restores `out` from the stream. -/
def Restores (sdk : LzmaSdk) (dec : sdk.CLzma2Dec) (stream out : List UInt8) : Prop :=
  ∃ Left, Restoring sdk Left ∧ Left dec stream out

/-- The decoder fails before it has written `out`. -/
def Fails (sdk : LzmaSdk) (dec : sdk.CLzma2Dec) (stream out : List UInt8) : Prop :=
  ∃ Left, Failing sdk Left ∧ Left dec stream out

/-- What the SDK promises; `reach` is how far back the matches of an LZMA2 stream go. -/
structure Faithful (sdk : LzmaSdk) (reach : List UInt8 → Nat) : Prop where
  lzma1 : ∀ props destLen x, (sdk.lzmaEncode props destLen x).res = szOk → ∀ rest,
    let encoded := sdk.lzmaEncode props destLen x
    let decoded := sdk.lzmaDecode encoded.propsEncoded .finishEnd (encoded.bytes ++ rest) x.length
    decoded.res = szOk ∧ decoded.bytes = x
  noInput : ∀ propData mode destLen, (sdk.lzmaDecode propData mode [] destLen).res ≠ szOk
  lzma2 : ∀ props destLen x, x ≠ [] → (sdk.lzma2EncEncode2 props destLen x).res = szOk →
    ∀ prop, (sdk.lzma2DecAllocate prop).1 = szOk →
      reach (sdk.lzma2EncEncode2 props destLen x).bytes ≤ dicSizeFromProp prop →
      Restores sdk (sdk.lzma2DecAllocate prop).2 (sdk.lzma2EncEncode2 props destLen x).bytes x
  lzma2Far : ∀ props destLen x, x ≠ [] → (sdk.lzma2EncEncode2 props destLen x).res = szOk →
    ∀ prop, (sdk.lzma2DecAllocate prop).1 = szOk →
      dicSizeFromProp prop < reach (sdk.lzma2EncEncode2 props destLen x).bytes →
      Fails sdk (sdk.lzma2DecAllocate prop).2 (sdk.lzma2EncEncode2 props destLen x).bytes x
  reaches : ∀ props destLen x, (sdk.lzma2EncEncode2 props destLen x).res = szOk →
    reach (sdk.lzma2EncEncode2 props destLen x).bytes ≤
      dicSizeFromProp (sdk.lzma2EncWriteProperties props)
  smallest : ∀ props, 0 < props.dictSize →
    (sdk.lzma2EncWriteProperties props = 0 ↔ props.dictSize ≤ 4096)

/-! ## What the loop offers -/

section Loop

variable {state : DecodeState sdk.CLzma2Dec} {exit : LoopExit sdk.CLzma2Dec}
  {Left : sdk.CLzma2Dec → List UInt8 → List UInt8 → Prop}

/-- Every call of the loop offers the next piece of what is left. -/
theorem piece_of_called (called : Called src x.length state) (output : state.outPos ≤ x.length) :
    Piece (src.drop state.inPos) (x.drop state.outPos) (state.finishMode src.length x.length)
      (state.offered src x.length) (state.offer src.length x.length).destLen := by
  have room := called.room
  have input := called.input
  have destLen : (state.offer src.length x.length).destLen =
      min bufSize (x.length * 2 - state.outPos) := rfl
  have srcLen : (state.offer src.length x.length).srcLen =
      min bufSize (src.length - state.inPos) := rfl
  unfold bufSize at destLen srcLen
  constructor
  case input => exact List.take_prefix _ _
  case nonempty =>
    apply List.ne_nil_of_length_pos
    rw [DecodeState.offered_length]
    omega
  case room => omega
  case atEnd =>
    intro atEnd
    have whole : state.outPos + (state.offer src.length x.length).destLen = x.length := by
      by_contra short
      simp [DecodeState.finishMode, short] at atEnd
    rw [List.length_drop]
    omega

/-- After a call that went on, what is left of the stream and of the output is what the
call left of them. -/
theorem left_advance (narrow : src.length < 2 ^ 32) (small : x.length ≤ maxSize)
    (input : state.inPos ≤ src.length) (output : state.outPos ≤ x.length)
    (left : Left (state.call sdk src x.length).2
      ((src.drop state.inPos).drop (state.call sdk src x.length).1.consumed)
      ((x.drop state.outPos).drop (state.call sdk src x.length).1.bytes.length)) :
    Left (state.advance sdk src x.length).dec
      (src.drop (state.advance sdk src x.length).inPos)
      (x.drop (state.advance sdk src x.length).outPos) := by
  obtain ⟨inPos, _⟩ := advance_inPos x.length narrow input
  obtain ⟨outPos, _⟩ := advance_outPos src small (by omega : state.outPos ≤ x.length * 2)
  rw [inPos, outPos, ← List.drop_drop, ← List.drop_drop]
  exact left

/-- A restoring decoder is driven to the end of its output. -/
theorem stops_of_restoring (restoring : Restoring sdk Left) (nonempty : 0 < x.length)
    (small : x.length ≤ maxSize) (narrow : src.length < 2 ^ 32)
    (left : Left state.dec (src.drop state.inPos) (x.drop state.outPos))
    (input : state.inPos ≤ src.length) (output : state.outPos ≤ x.length)
    (data : state.data = x.take state.outPos) :
    ∃ last, Stops src x.length state (.done last) ∧ last.outPos = x.length ∧ last.data = x := by
  induction measure : (src.length - state.inPos) + (x.length - state.outPos)
    using Nat.strongRecOn generalizing state with
  | ind count ih =>
    have todo := restoring.input _ _ _ left
    rw [Ne, List.drop_eq_nil_iff, Nat.not_le] at todo
    have called : Called src x.length state := ⟨by omega, todo⟩
    have answer := restoring.call _ _ _ left _ _ _ (piece_of_called called output)
    have ok : (state.call sdk src x.length).1.res = szOk := answer.1
    have writes : (state.call sdk src x.length).1.bytes <+: x.drop state.outPos := answer.2.1
    have written := writes.length_le
    rw [List.length_drop] at written
    obtain ⟨inPos, input'⟩ := advance_inPos x.length narrow input
    obtain ⟨outPos, _⟩ := advance_outPos src small (by omega : state.outPos ≤ x.length * 2)
    have data' : (state.advance sdk src x.length).data =
        x.take (state.advance sdk src x.length).outPos := by
      rw [outPos, List.take_add, ← List.prefix_iff_eq_take.mp writes, ← data]
      rfl
    by_cases mark : (state.call sdk src x.length).1.status = .finishedWithMark
    · have all : (state.call sdk src x.length).1.bytes = x.drop state.outPos := answer.2.2.1 mark
      have whole : (state.advance sdk src x.length).outPos = x.length := by
        rw [outPos, all, List.length_drop]
        omega
      refine ⟨_, .marked state called ok mark, whole, ?_⟩
      rw [data', whole, List.take_length]
    · obtain ⟨progress, rest⟩ := answer.2.2.2 mark
      have progress : 0 < (state.call sdk src x.length).1.consumed +
          (state.call sdk src x.length).1.bytes.length := progress
      have less : (src.length - (state.advance sdk src x.length).inPos) +
          (x.length - (state.advance sdk src x.length).outPos) < count := by omega
      obtain ⟨last, stops, whole, restored⟩ := ih _ less
        (left_advance narrow small input output rest) input' (by omega) data' rfl
      exact ⟨last, .onward state _ called ok mark stops, whole, restored⟩

/-- A failing decoder never brings the loop to its end. -/
theorem not_done_of_failing (failing : Failing sdk Left) (small : x.length ≤ maxSize)
    (narrow : src.length < 2 ^ 32) (stops : Stops src x.length state exit)
    (left : Left state.dec (src.drop state.inPos) (x.drop state.outPos))
    (input : state.inPos ≤ src.length) (output : state.outPos < x.length) :
    ∀ last, exit ≠ .done last := by
  induction stops with
  | filled state full => omega
  | refused state called failed => simp
  | marked state called ok mark =>
    have answer := failing.call _ _ _ left _ _ _ (piece_of_called called (Nat.le_of_lt output)) ok
    exact absurd mark answer.1
  | onward state exit called ok unmarked rest ih =>
    have answer := failing.call _ _ _ left _ _ _ (piece_of_called called (Nat.le_of_lt output)) ok
    have short : (state.call sdk src x.length).1.bytes.length < (x.drop state.outPos).length :=
      answer.2.1
    rw [List.length_drop] at short
    obtain ⟨inPos, input'⟩ := advance_inPos x.length narrow input
    obtain ⟨outPos, _⟩ := advance_outPos src small (by omega : state.outPos ≤ x.length * 2)
    exact ih (left_advance narrow small input (Nat.le_of_lt output) answer.2.2) input' (by omega)

end Loop

/-! ## The container -/

variable {type : LZMAType} {level : UInt32} {container : List UInt8}

theorem length_lt_of_small (small : x.length ≤ maxSize) : x.length < 2 ^ 64 :=
  Nat.lt_of_le_of_lt small (by decide)

/-- The size is read back. -/
theorem size_of_lzma1 (encoded : Encoded sdk .lzma1 level x container) (small : x.length ≤ maxSize) :
    sizeFromHeader 5 container = x.length := by
  obtain ⟨_, rfl⟩ := encoded
  have five := (sdk.lzmaEncode (lzmaProp level (i32.wrap x.length)) (outputSize x.length)
    x).propsSize
  rw [← five]
  exact sizeFromHeader_sizeHeader (length_lt_of_small small)

theorem size_of_lzma2 (encoded : Encoded sdk .lzma2 level x container) (small : x.length ≤ maxSize) :
    sizeFromHeader 1 container = x.length := by
  obtain ⟨_, rfl⟩ := encoded
  exact sizeFromHeader_sizeHeader (length_lt_of_small small)

/-- The memory for the block and, for LZMA2, for the decoder. -/
def Granted (sdk : LzmaSdk) (miMalloc : Nat → Bool) (type : LZMAType) (size : Nat) : Prop :=
  miMalloc size = true ∧ (type = .lzma2 → (sdk.lzma2DecAllocate 0).1 = szOk)

/-- `x` comes back, and the trace stays as it was. -/
def ComesBack (sdk : LzmaSdk) (miMalloc : Nat → Bool) (behind : Nat → UInt8) (type : LZMAType)
    (container x : List UInt8) (trace : String) : Prop :=
  ∃ rounds, (decompress rounds sdk miMalloc behind container type trace).2 =
    some (.returned x trace)

theorem not_refuses_of_comesBack {ran : String → List LzmaCall × Option Exit} {trace : String}
    (nonempty : x ≠ []) (returned : (ran trace).2 = some (.returned x trace)) : ¬Refuses ran := by
  intro refuses
  obtain ⟨message, _, told⟩ := refuses.exits
  have same := returned.symm.trans (told trace)
  simp [nonempty] at same

/-- The decoder of LZMA1 is given the encoded properties and all of the payload, with
something behind it. -/
theorem decodeAnswer_of_encoded (faithful : Faithful sdk reach) (small : x.length ≤ maxSize)
    (encoded : Encoded sdk .lzma1 level x container) (behind : Nat → UInt8) :
    13 < container.length ∧ (decodeAnswer sdk behind container).res = szOk ∧
      (decodeAnswer sdk behind container).bytes = x := by
  have size := size_of_lzma1 encoded small
  obtain ⟨ok, rfl⟩ := encoded
  have restores := faithful.lzma1 _ _ _ ok
  have five := (sdk.lzmaEncode (lzmaProp level (i32.wrap x.length)) (outputSize x.length) x).propsSize
  generalize sdk.lzmaEncode (lzmaProp level (i32.wrap x.length)) (outputSize x.length) x = answer
    at restores five size ok
  have header : (answer.propsEncoded ++ sizeHeader x.length).length = 13 := by simp [five]
  have payload : answer.bytes ≠ [] := by
    intro none
    have empty := (restores []).1
    rw [none] at empty
    exact faithful.noInput _ _ _ empty
  -- the type of an answer depends on the lengths, so they are replaced as variables
  have same : ∀ propData input (size : Nat), propData = answer.propsEncoded →
      (∃ rest, input = answer.bytes ++ rest) → size = x.length →
      (sdk.lzmaDecode propData .finishEnd input size).res = szOk ∧
        (sdk.lzmaDecode propData .finishEnd input size).bytes = x := by
    rintro _ _ _ rfl ⟨rest, rfl⟩ rfl
    exact restores rest
  apply And.intro
  · have positive := List.length_pos_of_ne_nil payload
    rw [List.length_append, header]
    omega
  · apply same _ _ _ _ _ size
    · rw [List.append_assoc, ← five, List.take_left]
    · refine ⟨(List.range (2 * lzmaPropsSize)).map behind, ?_⟩
      show List.drop 13 _ ++ _ = _
      rw [← header, List.drop_left]

theorem comesBack_lzma1_iff (miMalloc : Nat → Bool) (behind : Nat → UInt8)
    (faithful : Faithful sdk reach) (nonempty : x ≠ []) (small : x.length ≤ maxSize)
    (encoded : Encoded sdk .lzma1 level x container) (trace : String) :
    ComesBack sdk miMalloc behind .lzma1 container x trace ↔ Granted sdk miMalloc .lzma1 x.length := by
  have size := size_of_lzma1 encoded small
  obtain ⟨payload, ok, decoded⟩ := decodeAnswer_of_encoded faithful small encoded behind
  constructor
  · intro ⟨rounds, returned⟩
    have asks : Asks miMalloc container := by
      by_contra outside
      exact not_refuses_of_comesBack nonempty returned (decompress1_refuses outside rounds)
    exact ⟨size ▸ asks.granted, nofun⟩
  · intro granted
    have asks : Asks miMalloc container :=
      ⟨Nat.le_of_lt payload, size ▸ small, size.symm ▸ granted.1⟩
    apply Exists.intro 0
    show some (decompress1 sdk miMalloc behind container trace).2 = _
    rw [decompress1_of_asks asks payload, if_pos ⟨ok, by rw [decoded, size]⟩, decoded]

/-- A container is shorter than 4 GiB. -/
theorem container_narrow (small : x.length ≤ maxSize) (encoded : Encoded sdk .lzma2 level x container) :
    container.length < 2 ^ 32 := by
  obtain ⟨_, rfl⟩ := encoded
  have fits := (sdk.lzma2EncEncode2 (lzmaProp level (i32.wrap x.length)) (outputSize x.length) x).fits
  unfold maxSize at small
  have output : outputSize x.length ≤ 2 ^ 29 := by
    unfold outputSize
    dsimp only
    split
    · decide
    · omega
  simp only [List.length_append, List.length_singleton, sizeHeader_length]
  omega

/-- The stream stands behind the header. -/
theorem stream_of_encoded (encoded : Encoded sdk .lzma2 level x container) :
    container.drop 9 = (sdk.lzma2EncEncode2 (lzmaProp level (i32.wrap x.length))
      (outputSize x.length) x).bytes := by
  rw [encoded.2]
  rfl

theorem header_of_encoded (encoded : Encoded sdk .lzma2 level x container) :
    9 ≤ container.length := by
  rw [encoded.2]
  simp

theorem enters_of_granted (small : x.length ≤ maxSize)
    (encoded : Encoded sdk .lzma2 level x container)
    (granted : Granted sdk miMalloc .lzma2 x.length) : Enters sdk miMalloc container := by
  have size := size_of_lzma2 encoded small
  constructor
  · exact header_of_encoded encoded
  · rw [size]
    exact small
  · rw [size]
    exact granted.1
  · exact granted.2 rfl

/-- Nothing comes back of a match that is too far for the decoder. -/
theorem near_of_comesBack (faithful : Faithful sdk reach) (nonempty : x ≠ [])
    (small : x.length ≤ maxSize) (encoded : Encoded sdk .lzma2 level x container)
    (enters : Enters sdk miMalloc container) {rounds : Nat} {trace : String}
    (returned : (decompress2 rounds sdk miMalloc container trace).2 = some (.returned x trace)) :
    reach (container.drop 9) ≤ 4096 := by
  by_contra far
  have stream := stream_of_encoded encoded
  rw [stream, Nat.not_le] at far
  obtain ⟨Left, failing, left⟩ := faithful.lzma2Far _ _ _ nonempty encoded.1 0 enters.allocated far
  obtain ⟨exit, stops, _, after⟩ := stops_of_returned enters returned
  rw [size_of_lzma2 encoded small] at stops after
  have undone := not_done_of_failing failing small (container_narrow small encoded) stops
    (stream.symm ▸ left) enters.header (List.length_pos_of_ne_nil nonempty)
  cases exit with
  | done last => exact undone last rfl
  | failed => simp [afterLoop, Ne.symm nonempty] at after
  | terminated => cases after

theorem comesBack_of_near (faithful : Faithful sdk reach) (nonempty : x ≠ [])
    (small : x.length ≤ maxSize) (encoded : Encoded sdk .lzma2 level x container)
    (enters : Enters sdk miMalloc container) (near : reach (container.drop 9) ≤ 4096)
    (trace : String) :
    ∃ rounds, (decompress2 rounds sdk miMalloc container trace).2 = some (.returned x trace) := by
  have stream := stream_of_encoded encoded
  have size := size_of_lzma2 encoded small
  rw [stream] at near
  obtain ⟨Left, restoring, left⟩ := faithful.lzma2 _ _ _ nonempty encoded.1 0 enters.allocated near
  have start : Left (startOf sdk).dec (container.drop (startOf sdk).inPos)
      (x.drop (startOf sdk).outPos) := stream.symm ▸ left
  obtain ⟨last, stops, all, restored⟩ := stops_of_restoring restoring
    (List.length_pos_of_ne_nil nonempty) small (container_narrow small encoded) start
    enters.header (Nat.zero_le _) rfl
  rw [← size] at stops
  obtain ⟨rounds, ended⟩ := leave_of_stops stops
  apply Exists.intro rounds
  rw [returned_of_leave enters ended, size, afterLoop, if_pos all, all, restored, List.take_length]

theorem comesBack_lzma2_iff (miMalloc : Nat → Bool) (behind : Nat → UInt8)
    (faithful : Faithful sdk reach) (nonempty : x ≠ []) (small : x.length ≤ maxSize)
    (encoded : Encoded sdk .lzma2 level x container) (trace : String) :
    ComesBack sdk miMalloc behind .lzma2 container x trace ↔
      Granted sdk miMalloc .lzma2 x.length ∧ reach (container.drop 9) ≤ 4096 := by
  constructor
  · intro ⟨rounds, returned⟩
    have enters : Enters sdk miMalloc container := by
      by_contra outside
      exact not_refuses_of_comesBack nonempty returned (decompress2_refuses outside rounds)
    have granted : miMalloc x.length = true := size_of_lzma2 encoded small ▸ enters.granted
    exact ⟨⟨granted, fun _ => enters.allocated⟩,
      near_of_comesBack faithful nonempty small encoded enters returned⟩
  · intro ⟨granted, near⟩
    have enters := enters_of_granted small encoded granted
    exact comesBack_of_near faithful nonempty small encoded enters near trace

/-! ## The properties -/

/-- A call that passes properties passes those of the container. -/
def UsesProps (container : List UInt8) : LzmaCall → Prop
  | .lzmaDecode propData _ _ => propData = container.take 5
  | .lzma2DecAllocate prop _ => container.head? = some prop
  | .lzma2DecDecodeToBuf _ _ => True

/-- `x` comes back, through the size that was written and with the properties that were
written. -/
structure RoundTrips (sdk : LzmaSdk) (miMalloc : Nat → Bool) (behind : Nat → UInt8)
    (type : LZMAType) (container x : List UInt8) (trace : String) : Prop where
  comesBack : ComesBack sdk miMalloc behind type container x trace
  size : sizeFromHeader (propsSize type) container = x.length
  props : ∀ rounds, ∀ call ∈ (decompress rounds sdk miMalloc behind container type trace).1,
    UsesProps container call

theorem dictSize_pos (level : UInt32) (srcSize : Int) : 0 < (lzmaProp level srcSize).dictSize := by
  show 0 < if srcSize ≤ 4096 then 4096 else if srcSize ≥ 1610612736 then 1610612736
    else srcSize.toNat
  split
  · decide
  · split
    · decide
    · omega

theorem dictSize_le_iff (level : UInt32) (small : x.length ≤ maxSize) :
    (lzmaProp level (i32.wrap x.length)).dictSize ≤ 4096 ↔ x.length ≤ 4096 := by
  unfold maxSize at small
  have exact : i32.wrap x.length = x.length := wrap_i32_eq_iff.mpr (by omega)
  rw [exact]
  show (if (x.length : Int) ≤ 4096 then 4096 else if (x.length : Int) ≥ 1610612736 then 1610612736
    else x.length) ≤ 4096 ↔ _
  split
  · omega
  · split
    · omega
    · rfl

theorem roundTrips_lzma1_iff (miMalloc : Nat → Bool) (behind : Nat → UInt8)
    (faithful : Faithful sdk reach) (nonempty : x ≠ []) (small : x.length ≤ maxSize)
    (encoded : Encoded sdk .lzma1 level x container) (trace : String) :
    RoundTrips sdk miMalloc behind .lzma1 container x trace ↔ Granted sdk miMalloc .lzma1 x.length := by
  constructor
  · intro roundTrips
    exact (comesBack_lzma1_iff miMalloc behind faithful nonempty small encoded trace).mp roundTrips.comesBack
  · intro granted
    have comesBack := (comesBack_lzma1_iff miMalloc behind faithful nonempty small encoded trace).mpr granted
    apply RoundTrips.mk comesBack (size_of_lzma1 encoded small)
    intro rounds call member
    have member : call ∈ (decompress1 sdk miMalloc behind container trace).1 := member
    have payload := (decodeAnswer_of_encoded faithful small encoded behind).1
    have asks : Asks miMalloc container :=
      ⟨Nat.le_of_lt payload, size_of_lzma1 encoded small ▸ small,
        (size_of_lzma1 encoded small).symm ▸ granted.1⟩
    rw [decompress1_calls sdk behind trace asks payload] at member
    rw [List.mem_singleton.mp member]
    rfl

/-- Of the calls of `decompress_2`, the allocation passes a property, which is always 0. -/
theorem usesProps_lzma2_iff (enters : Enters sdk miMalloc container) (behind : Nat → UInt8)
    (trace : String) :
    (∀ rounds, ∀ call ∈ (decompress rounds sdk miMalloc behind container .lzma2 trace).1,
        UsesProps container call) ↔ container.head? = some 0 := by
  have calls : ∀ rounds, (decompress rounds sdk miMalloc behind container .lzma2 trace).1 =
      .lzma2DecAllocate 0 szOk ::
        (decoded sdk container (sizeFromHeader 1 container) rounds (startOf sdk)).events :=
    fun rounds => congrArg Prod.fst (decompress2_of_enters enters rounds trace)
  constructor
  · intro uses
    apply uses 0 (.lzma2DecAllocate 0 szOk)
    rw [calls]
    exact List.mem_cons_self
  · intro zero rounds call member
    rw [calls] at member
    cases List.mem_cons.mp member with
    | inl allocate =>
      rw [allocate]
      exact zero
    | inr decode =>
      obtain ⟨state, _, _, rfl⟩ := mem_decoded_events.mp ⟨rounds, decode⟩
      trivial

/-- The property that was written is 0 exactly for what fits the smallest dictionary. -/
theorem head_eq_zero_iff (faithful : Faithful sdk reach) (small : x.length ≤ maxSize)
    (encoded : Encoded sdk .lzma2 level x container) :
    container.head? = some 0 ↔ x.length ≤ 4096 := by
  have first : container.head? =
      some (sdk.lzma2EncWriteProperties (lzmaProp level (i32.wrap x.length))) := by
    rw [encoded.2]
    rfl
  rw [first, Option.some.injEq, faithful.smallest _ (dictSize_pos level _),
    dictSize_le_iff level small]

/-- Nor do its matches reach further back. -/
theorem near_of_short (faithful : Faithful sdk reach) (small : x.length ≤ maxSize)
    (encoded : Encoded sdk .lzma2 level x container) (short : x.length ≤ 4096) :
    reach (container.drop 9) ≤ 4096 := by
  have zero := (faithful.smallest _ (dictSize_pos level (i32.wrap x.length))).mpr
    ((dictSize_le_iff level small).mpr short)
  have reaches := faithful.reaches _ _ _ encoded.1
  rw [zero] at reaches
  rw [stream_of_encoded encoded]
  exact reaches

theorem roundTrips_lzma2_iff (miMalloc : Nat → Bool) (behind : Nat → UInt8)
    (faithful : Faithful sdk reach) (nonempty : x ≠ []) (small : x.length ≤ maxSize)
    (encoded : Encoded sdk .lzma2 level x container) (trace : String) :
    RoundTrips sdk miMalloc behind .lzma2 container x trace ↔
      Granted sdk miMalloc .lzma2 x.length ∧ x.length ≤ 4096 := by
  have comesBackIff := comesBack_lzma2_iff miMalloc behind faithful nonempty small encoded trace
  have zeroIff := head_eq_zero_iff faithful small encoded
  constructor
  · intro roundTrips
    have granted := (comesBackIff.mp roundTrips.comesBack).1
    have enters := enters_of_granted small encoded granted
    exact ⟨granted, zeroIff.mp ((usesProps_lzma2_iff enters behind trace).mp roundTrips.props)⟩
  · intro ⟨granted, short⟩
    have enters := enters_of_granted small encoded granted
    have near := near_of_short faithful small encoded short
    apply RoundTrips.mk (comesBackIff.mpr ⟨granted, near⟩) (size_of_lzma2 encoded small)
    exact (usesProps_lzma2_iff enters behind trace).mpr (zeroIff.mpr short)

/-! ## Both types -/

theorem encoded_of_compress {trace traced : String}
    (compressed : compress sdk miMalloc x type level trace = .returned container traced)
    (full : container ≠ []) : Encoded sdk type level x container := by
  cases compress_cases sdk miMalloc x type level with
  | inl failed =>
    obtain ⟨message, _, told⟩ := failed
    have same := compressed.symm.trans (told trace)
    simp [full] at same
  | inr returned =>
    obtain ⟨vec, encoded, untouched⟩ := returned
    have same := compressed.symm.trans (untouched trace)
    cases same
    exact encoded

/-- Where memory is granted, what was compressed comes back exactly if it is LZMA1 or no
match of the stream reaches further back than the smallest dictionary; it comes back
with the properties that were written exactly if it is LZMA1 or no longer than that. -/
theorem lzma_round_trip_iff (faithful : Faithful sdk reach) (nonempty : x ≠ [])
    (small : x.length ≤ maxSize) {trace traced : String}
    (compressed : compress sdk miMalloc x type level trace = .returned container traced)
    (full : container ≠ []) (miMalloc' : Nat → Bool) (behind : Nat → UInt8) (trace' : String) :
    (ComesBack sdk miMalloc' behind type container x trace' ↔
        Granted sdk miMalloc' type x.length ∧
          (type = .lzma1 ∨ reach (container.drop 9) ≤ 4096)) ∧
      (RoundTrips sdk miMalloc' behind type container x trace' ↔
        Granted sdk miMalloc' type x.length ∧ (type = .lzma1 ∨ x.length ≤ 4096)) := by
  have encoded := encoded_of_compress compressed full
  cases type with
  | lzma1 =>
    have comesBack := comesBack_lzma1_iff miMalloc' behind faithful nonempty small encoded trace'
    have roundTrips := roundTrips_lzma1_iff miMalloc' behind faithful nonempty small encoded trace'
    simp [comesBack, roundTrips]
  | lzma2 =>
    have comesBack := comesBack_lzma2_iff miMalloc' behind faithful nonempty small encoded trace'
    have roundTrips := roundTrips_lzma2_iff miMalloc' behind faithful nonempty small encoded trace'
    simp [comesBack, roundTrips]

/-! ## With the small SDK -/

/-- How far back a stream of the small SDK reaches. -/
def storedReach (stream : List UInt8) : Nat := if stream.head? = some fromFar then 4097 else 0

theorem storedSdk_restoring (dict : Nat) :
    Restoring storedSdk fun dec todo out => dec.1 = dict ∧ Midway dict dec.2 todo out where
  input _ _ _ left := midway_todo left.2
  call := by
    rintro ⟨_, phase⟩ todo out ⟨rfl, midway⟩ mode offered destLen piece
    have right := feed_right destLen midway piece.input
    refine ⟨right.ok, right.writes, right.ends, fun unmarked => ?_⟩
    have progress := feed_progresses phase offered destLen piece.nonempty piece.room right.ok unmarked
    exact ⟨Nat.lt_of_lt_of_le progress (Nat.le_add_right _ _), rfl, right.goesOn unmarked⟩

/-- The first byte is the mark of a larger dictionary than the decoder's. -/
theorem storedSdk_failing (dict : Nat) (smaller : dict ≤ 4096) :
    Failing storedSdk fun dec todo _ =>
      dec.1 = dict ∧ dec.2 = .control ∧ todo.head? = some fromFar where
  call := by
    rintro ⟨_, _⟩ todo out ⟨rfl, rfl, far⟩ mode offered destLen piece
    intro called ok
    cases offered with
    | nil => exact absurd rfl piece.nonempty
    | cons byte rest =>
      have first : byte = fromFar := by
        obtain ⟨more, rfl⟩ := piece.input
        simpa using far
      have refused : called.1.res = (feed _ .control (byte :: rest) destLen).res := rfl
      simp [refused, feed, first, fromFar, Nat.not_lt.mpr smaller, szOk] at ok

/-- An encoder that succeeds wrote its stream. -/
theorem storedSdk_written {props : CLzmaEncProps} {destLen : Nat} {x : List UInt8}
    (ok : (storedSdk.lzmaEncode props destLen x).res = szOk) :
    (storedSdk.lzmaEncode props destLen x).bytes = 1 :: x := by
  simp only [storedSdk] at ok ⊢
  split at ok
  next fits => rw [dif_pos fits]
  next => cases ok

theorem storedSdk_encoded {props : CLzmaEncProps} {destLen : Nat} {x : List UInt8}
    (ok : (storedSdk.lzma2EncEncode2 props destLen x).res = szOk) :
    (storedSdk.lzma2EncEncode2 props destLen x).bytes = streamOf props x ∧ x.length ≤ 65536 := by
  simp only [storedSdk] at ok ⊢
  split at ok
  next fits =>
    rw [dif_pos fits]
    exact ⟨rfl, fits.2⟩
  next => cases ok

theorem storedReach_streamOf (props : CLzmaEncProps) (x : List UInt8) :
    storedReach (streamOf props x) = if 4096 < props.dictSize then 4097 else 0 := by
  unfold streamOf
  split
  · rfl
  · rfl

theorem storedDecode_stored (x rest : List UInt8) :
    (storedDecode (1 :: x ++ rest) x.length).res = szOk ∧
      (storedDecode (1 :: x ++ rest) x.length).bytes = x := by
  simp [storedDecode]

theorem storedSdk_faithful : Faithful storedSdk storedReach where
  lzma1 := by
    intro props destLen x ok rest
    have written := storedSdk_written ok
    dsimp only
    rw [written]
    exact storedDecode_stored x rest
  noInput := by
    intro propData mode destLen ok
    cases ok
  lzma2 := by
    intro props destLen x nonempty ok prop _ near
    obtain ⟨stream, short⟩ := storedSdk_encoded ok
    rw [stream, storedReach_streamOf] at near
    refine ⟨_, storedSdk_restoring (dicSizeFromProp prop), rfl, ?_⟩
    rw [stream, streamOf]
    split
    next large =>
      rw [if_pos large] at near
      exact .far x near nonempty short
    next => exact .start x nonempty short
  lzma2Far := by
    intro props destLen x _ ok prop _ far
    obtain ⟨stream, _⟩ := storedSdk_encoded ok
    rw [stream, storedReach_streamOf] at far
    by_cases large : 4096 < props.dictSize
    · rw [if_pos large] at far
      refine ⟨_, storedSdk_failing (dicSizeFromProp prop) (Nat.le_of_lt_succ far), rfl, rfl, ?_⟩
      rw [stream, streamOf, if_pos large]
      rfl
    · rw [if_neg large] at far
      cases far
  reaches := by
    intro props destLen x ok
    obtain ⟨stream, _⟩ := storedSdk_encoded ok
    rw [stream, storedReach_streamOf]
    by_cases large : 4096 < props.dictSize
    · have prop : storedSdk.lzma2EncWriteProperties props = 40 := if_neg (Nat.not_le.mpr large)
      rw [if_pos large, prop]
      decide
    · rw [if_neg large]
      exact Nat.zero_le _
  smallest := by
    intro props _
    by_cases small : props.dictSize ≤ 4096
    · simp [storedSdk, small]
    · simp [storedSdk, small]

/-- The letter `"a"` comes back, with the properties that were written. -/
theorem letter_round_trips :
    ComesBack storedSdk (fun _ => true) (fun _ => 0) .lzma2
        [0, 1, 0, 0, 0, 0, 0, 0, 0, 1, 0, 0, 97, 0] [97] "" ∧
      RoundTrips storedSdk (fun _ => true) (fun _ => 0) .lzma2
        [0, 1, 0, 0, 0, 0, 0, 0, 0, 1, 0, 0, 97, 0] [97] "" := by
  have compressed : compress storedSdk (fun _ => true) [97] .lzma2 5 "" =
      .returned [0, 1, 0, 0, 0, 0, 0, 0, 0, 1, 0, 0, 97, 0] "" := by decide
  have both := lzma_round_trip_iff storedSdk_faithful (by decide) (by decide) compressed (by decide)
    (fun _ => true) (fun _ => 0) ""
  have granted : Granted storedSdk (fun _ => true) .lzma2 1 := ⟨rfl, fun _ => rfl⟩
  exact ⟨both.1.mpr ⟨granted, .inr (by decide)⟩, both.2.mpr ⟨granted, .inr (by decide)⟩⟩

theorem streamOf_length_le (props : CLzmaEncProps) (x : List UInt8) :
    (streamOf props x).length ≤ x.length + 5 := by
  unfold streamOf chunk
  split
  · simp
  · simp

theorem storedSdk_encodes (level : UInt32) {x : List UInt8} (length : x.length = 10000) :
    (storedSdk.lzma2EncEncode2 (lzmaProp level (i32.wrap x.length)) (outputSize x.length) x).res =
      szOk := by
  have fits := streamOf_length_le (lzmaProp level (i32.wrap x.length)) x
  have room : outputSize x.length = 20000 := by
    rw [length]
    rfl
  simp only [storedSdk]
  rw [dif_pos (by omega)]

/-- Bytes without a pattern. -/
def noise : Nat → Nat → List UInt8
  | 0, _ => []
  | count + 1, seed =>
    UInt8.ofNat (seed / 65536) :: noise count ((seed * 1103515245 + 12345) % 2147483648)

theorem noise_length (count seed : Nat) : (noise count seed).length = count := by
  induction count generalizing seed with
  | zero => rfl
  | succ count ih => simp [noise, ih]

/-- Ten thousand bytes whose second half repeats the first are compressed, and do not
come back. -/
theorem repeated_noise_lost :
    Faithful storedSdk storedReach ∧
    ∃ container, compress storedSdk (fun _ => true) (noise 5000 1 ++ noise 5000 1) .lzma2 5 "" =
        .returned container "" ∧ container ≠ [] ∧
      ¬ComesBack storedSdk (fun _ => true) (fun _ => 0) .lzma2 container
        (noise 5000 1 ++ noise 5000 1) "" := by
  apply And.intro storedSdk_faithful
  have length : (noise 5000 1 ++ noise 5000 1).length = 10000 := by simp [noise_length]
  have nonempty : noise 5000 1 ++ noise 5000 1 ≠ [] := by
    apply List.ne_nil_of_length_pos
    omega
  generalize noise 5000 1 ++ noise 5000 1 = x at length nonempty ⊢
  have ok := storedSdk_encodes 5 length
  obtain ⟨stream, _⟩ := storedSdk_encoded ok
  have small : x.length ≤ maxSize := by
    rw [length]
    decide
  have positive : ¬x.length = 0 := by omega
  have created : storedSdk.lzma2EncCreate = true := rfl
  have set : ∀ props, storedSdk.lzma2EncSetProps props = szOk := fun _ => rfl
  obtain ⟨container, encoded⟩ : ∃ container, Encoded storedSdk .lzma2 5 x container := ⟨_, ok, rfl⟩
  have compressed : compress storedSdk (fun _ => true) x .lzma2 5 "" = .returned container "" := by
    rw [encoded.2]
    simp only [compress, compress2, if_neg positive, created, set, if_true, ok]
  have full : container ≠ [] := by
    rw [encoded.2]
    simp
  apply Exists.intro container
  apply And.intro compressed
  apply And.intro full
  intro comesBack
  have near := ((comesBack_lzma2_iff _ _ storedSdk_faithful nonempty small encoded "").mp comesBack).2
  have large : 4096 < (lzmaProp 5 (i32.wrap x.length)).dictSize := by
    rw [← Nat.not_le, dictSize_le_iff 5 small]
    omega
  rw [stream_of_encoded encoded, stream, storedReach_streamOf, if_pos large] at near
  exact absurd near (by decide)

end WolfEngine.Verified.Lzma
