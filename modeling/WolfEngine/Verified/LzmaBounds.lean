import WolfEngine.Verified.LzmaLoop

/-! # The ranges that the decoders are offered

`decompress_1` adds the size of the properties to the length of its input where it is to
be subtracted, so its one call reaches ten bytes behind the source.  `decompress_2`
offers room for twice the block, so every call that does not start at least one buffer
before the end of the block reaches behind it.
-/

namespace WolfEngine.Verified.Lzma

open WolfEngine.System.Lzma EventLoop

variable {sdk : LzmaSdk} {miMalloc : Nat → Bool} {behind : Nat → UInt8} {src : List UInt8}
  {size : Nat} {trace : String}

/-- Both ranges end inside the source and inside the block. -/
structure Offer.Inside (offer : Offer) (srcSize blockSize : Nat) : Prop where
  source : offer.srcAt + offer.srcLen ≤ srcSize
  block : offer.destAt + offer.destLen ≤ blockSize

/-- The allocation of a decoder offers nothing. -/
def CallInside (srcSize blockSize : Nat) : LzmaCall → Prop
  | .lzmaDecode _ offer _ => Offer.Inside offer srcSize blockSize
  | .lzma2DecAllocate _ _ => True
  | .lzma2DecDecodeToBuf offer _ => Offer.Inside offer srcSize blockSize

/-- The properties in front of the size. -/
def propsSize : LZMAType → Nat
  | .lzma1 => lzmaPropsSize
  | .lzma2 => lzma2PropsSize

/-- Every call of a decompression stays inside the source and inside the block of the
size in the header. -/
def StaysInside (sdk : LzmaSdk) (miMalloc : Nat → Bool) (behind : Nat → UInt8) (src : List UInt8)
    (type : LZMAType) : Prop :=
  ∀ rounds trace, ∀ call ∈ (decompress rounds sdk miMalloc behind src type trace).1,
    CallInside src.length (sizeFromHeader (propsSize type) src) call

theorem inside_of_refuses {calls : List LzmaCall}
    (only : ∀ call ∈ calls, ∃ prop res, call = .lzma2DecAllocate prop res) (srcSize : Nat) :
    ∀ call ∈ calls, CallInside srcSize size call := by
  intro call member
  obtain ⟨prop, res, rfl⟩ := only call member
  trivial

/-! ## `decompress_1` -/

/-- The header is whole and the block is granted. -/
structure Asks (miMalloc : Nat → Bool) (src : List UInt8) : Prop where
  header : 13 ≤ src.length
  small : sizeFromHeader 5 src ≤ maxSize
  granted : miMalloc (sizeFromHeader 5 src) = true

/-- What the decoder answers. -/
def decodeAnswer (sdk : LzmaSdk) (behind : Nat → UInt8) (src : List UInt8) :
    DecodeAnswer (procIn behind src).length (sizeFromHeader 5 src) :=
  sdk.lzmaDecode (src.take 5) .finishEnd (procIn behind src) (sizeFromHeader 5 src)

/-- The only call. -/
def decodeCall (sdk : LzmaSdk) (behind : Nat → UInt8) (src : List UInt8) : LzmaCall :=
  .lzmaDecode (src.take 5) ⟨13, procInSize src.length, 0, sizeFromHeader 5 src⟩
    (decodeAnswer sdk behind src).res

theorem decompress1_of_asks (asks : Asks miMalloc src) (payload : 13 < src.length) :
    decompress1 sdk miMalloc behind src trace =
      if (decodeAnswer sdk behind src).res = szOk ∧
          (decodeAnswer sdk behind src).bytes.length = sizeFromHeader 5 src then
        ([decodeCall sdk behind src], .returned (decodeAnswer sdk behind src).bytes trace)
      else ([decodeCall sdk behind src], .returned [] trace) :=
  (if_neg (Nat.not_lt.mpr asks.header)).trans <| (if_pos asks.small).trans <|
    (if_pos asks.granted).trans (if_pos payload)

/-- Without a payload `gsl::at` stops the process. -/
theorem decompress1_of_no_payload (asks : Asks miMalloc src) (payload : ¬13 < src.length) :
    decompress1 sdk miMalloc behind src trace = ([], .terminated) :=
  (if_neg (Nat.not_lt.mpr asks.header)).trans <| (if_pos asks.small).trans <|
    (if_pos asks.granted).trans (if_neg payload)

theorem decompress1_refuses (outside : ¬Asks miMalloc src) (rounds : Nat) :
    Refuses (decompress rounds sdk miMalloc behind src .lzma1) := by
  have refuses : ∀ message, message ≠ "" →
      (∀ trace, decompress1 sdk miMalloc behind src trace = ([], .returned [] message)) →
      Refuses (decompress rounds sdk miMalloc behind src .lzma1) := by
    intro message nonempty same
    apply refuses_of_eq _ nonempty (List.forall_mem_nil _)
    intro trace
    rw [decompress, same]
  by_cases long : src.length < lzmaHeaderSrcSize + lzmaPropsSize
  · exact refuses _ (by decide) fun _ => if_pos long
  by_cases small : sizeFromHeader 5 src ≤ maxSize
  case neg => exact refuses _ (by decide) fun _ => (if_neg long).trans (if_neg small)
  by_cases granted : miMalloc (sizeFromHeader 5 src) = true
  case neg =>
    exact refuses _ (by decide) fun _ =>
      (if_neg long).trans ((if_pos small).trans (if_neg granted))
  exact absurd ⟨Nat.le_of_not_lt long, small, granted⟩ outside

theorem decompress1_calls (sdk : LzmaSdk) (behind : Nat → UInt8) (trace : String)
    (asks : Asks miMalloc src) (payload : 13 < src.length) :
    (decompress1 sdk miMalloc behind src trace).1 = [decodeCall sdk behind src] := by
  rw [decompress1_of_asks asks payload]
  split
  · rfl
  · rfl

/-- Ten bytes too many. -/
theorem decodeCall_not_inside (header : 13 ≤ src.length) :
    ¬CallInside src.length size (decodeCall sdk behind src) := by
  intro inside
  have source := Offer.Inside.source inside
  -- eight is subtracted and five added, where thirteen is skipped
  have reach : 13 + (src.length - 8 + 5) ≤ src.length := source
  omega

theorem staysInside_lzma1_iff :
    StaysInside sdk miMalloc behind src .lzma1 ↔ ¬(Asks miMalloc src ∧ 13 < src.length) := by
  constructor
  · intro stays ⟨asks, payload⟩
    have called : decodeCall sdk behind src ∈
        (decompress 0 sdk miMalloc behind src .lzma1 "").1 := by
      show _ ∈ (decompress1 sdk miMalloc behind src "").1
      rw [decompress1_calls sdk behind "" asks payload]
      exact List.mem_singleton.mpr rfl
    exact decodeCall_not_inside asks.header (stays 0 "" _ called)
  · intro quiet rounds trace
    by_cases asks : Asks miMalloc src
    · have none : decompress1 sdk miMalloc behind src trace = ([], .terminated) :=
        decompress1_of_no_payload asks fun payload => quiet ⟨asks, payload⟩
      show ∀ call ∈ (decompress1 sdk miMalloc behind src trace).1, _
      rw [none]
      exact List.forall_mem_nil _
    · exact inside_of_refuses ((decompress1_refuses asks rounds).calls trace) _

/-! ## `decompress_2` -/

theorem mem_round_events {call : LzmaCall} {state : DecodeState sdk.CLzma2Dec} :
    call ∈ (decodeRound sdk src size () state).events ↔
      Called src size state ∧ call = callOf src size state := by
  have quiet : (¬Called src size state) → (decodeRound sdk src size () state).events = [] := by
    intro idle
    cases round_cases src size state with
    | filled full => rw [round_filled full]
    | starved room spent => rw [round_starved room spent]
    | refused called _ => exact absurd called idle
    | marked called _ _ => exact absurd called idle
    | onward called _ _ => exact absurd called idle
  have calls : Called src size state →
      (decodeRound sdk src size () state).events = [callOf src size state] := by
    intro called
    cases round_cases src size state with
    | filled full => exact absurd called.room (by omega)
    | starved room spent => exact absurd called.input (by omega)
    | refused called failed => rw [round_refused called failed]
    | marked called ok mark => rw [round_marked called ok mark]
    | onward called ok unmarked => rw [round_onward called ok unmarked]
  by_cases called : Called src size state
  · simp [calls called, called]
  · simp [quiet called, called]

/-- The loop comes to a round that starts there. -/
def Reached (sdk : LzmaSdk) (src : List UInt8) (size : Nat) (state : DecodeState sdk.CLzma2Dec) :
    Prop :=
  ∃ rounds, (decoded sdk src size rounds (startOf sdk)).control = .again state

/-- The calls of the loop are those of the rounds it comes to. -/
theorem mem_decoded_events {call : LzmaCall} :
    (∃ rounds, call ∈ (decoded sdk src size rounds (startOf sdk)).events) ↔
      ∃ state, Reached sdk src size state ∧ Called src size state ∧
        call = callOf src size state := by
  constructor
  · intro ⟨rounds, member⟩
    obtain ⟨before, _, after, state, split, inside, shown⟩ := mem_run_events.mp member
    -- rounds have no input of their own, so only their number counts
    have same : before = List.replicate before.length () := by
      apply List.eq_replicate_iff.mpr
      exact ⟨rfl, fun _ _ => rfl⟩
    rw [same] at inside
    exact ⟨state, ⟨before.length, inside⟩, mem_round_events.mp shown⟩
  · intro ⟨state, ⟨rounds, inside⟩, shown⟩
    apply Exists.intro (rounds + 1)
    apply mem_run_events.mpr
    exact ⟨List.replicate rounds (), (), [], state, List.replicate_succ', inside,
      mem_round_events.mpr shown⟩

/-- The input is always inside; the output is, where a whole buffer is left. -/
theorem callOf_inside_iff {state : DecodeState sdk.CLzma2Dec} (called : Called src size state) :
    CallInside src.length size (callOf src size state) ↔ state.outPos + bufSize ≤ size := by
  have room := called.room
  have input := called.input
  have srcLen : (state.offer src.length size).srcLen = min bufSize (src.length - state.inPos) := rfl
  have destLen : (state.offer src.length size).destLen =
      min bufSize (size * 2 - state.outPos) := rfl
  constructor
  · intro inside
    have block : state.outPos + (state.offer src.length size).destLen ≤ size :=
      Offer.Inside.block inside
    omega
  · intro whole
    constructor
    · show state.inPos + (state.offer src.length size).srcLen ≤ src.length
      omega
    · show state.outPos + (state.offer src.length size).destLen ≤ size
      omega

theorem staysInside_lzma2_iff :
    StaysInside sdk miMalloc behind src .lzma2 ↔
      (Enters sdk miMalloc src → ∀ state, Reached sdk src (sizeFromHeader 1 src) state →
        Called src (sizeFromHeader 1 src) state →
          state.outPos + bufSize ≤ sizeFromHeader 1 src) := by
  constructor
  · intro stays enters state reached called
    obtain ⟨rounds, member⟩ := mem_decoded_events.mpr ⟨state, reached, called, rfl⟩
    apply (callOf_inside_iff called).mp
    apply stays rounds ""
    show _ ∈ (decompress2 rounds sdk miMalloc src "").1
    rw [decompress2_of_enters enters]
    exact List.mem_cons_of_mem _ member
  · intro whole rounds trace call member
    by_cases enters : Enters sdk miMalloc src
    · have calls : call ∈ (decompress2 rounds sdk miMalloc src trace).1 := member
      rw [decompress2_of_enters enters] at calls
      cases List.mem_cons.mp calls with
      | inl allocate =>
        rw [allocate]
        trivial
      | inr decode =>
        obtain ⟨state, reached, called, rfl⟩ := mem_decoded_events.mp ⟨rounds, decode⟩
        exact (callOf_inside_iff called).mpr (whole enters state reached called)
    · exact inside_of_refuses ((decompress2_refuses enters rounds).calls trace) _ call member

/-- Decompression stays inside its buffers exactly if `decompress_1` makes no call, and
every call of `decompress_2` starts at least one buffer before the end of the block. -/
theorem stays_inside_iff (sdk : LzmaSdk) (miMalloc : Nat → Bool) (behind : Nat → UInt8)
    (src : List UInt8) :
    (∀ type, StaysInside sdk miMalloc behind src type) ↔
      ¬(Asks miMalloc src ∧ 13 < src.length) ∧
        (Enters sdk miMalloc src → ∀ state, Reached sdk src (sizeFromHeader 1 src) state →
          Called src (sizeFromHeader 1 src) state →
            state.outPos + bufSize ≤ sizeFromHeader 1 src) := by
  rw [← staysInside_lzma1_iff, ← staysInside_lzma2_iff]
  constructor
  · intro stays
    exact ⟨stays .lzma1, stays .lzma2⟩
  · intro ⟨once, loop⟩ type
    cases type with
    | lzma1 => exact once
    | lzma2 => exact loop

/-- The two containers of `"a"`: one call reaches ten bytes behind its 15 bytes, the
other is offered two bytes of a block of one. -/
theorem valid_containers_leave_buffers :
    ¬StaysInside storedSdk (fun _ => true) (fun _ => 0)
        [93, 0, 16, 0, 0, 1, 0, 0, 0, 0, 0, 0, 0, 1, 97] .lzma1 ∧
      ¬StaysInside storedSdk (fun _ => true) (fun _ => 0)
        [0, 1, 0, 0, 0, 0, 0, 0, 0, 1, 0, 0, 97, 0] .lzma2 := by
  constructor
  · intro stays
    have size : sizeFromHeader 5 [93, 0, 16, 0, 0, 1, 0, 0, 0, 0, 0, 0, 0, 1, 97] = 1 := by decide
    apply staysInside_lzma1_iff.mp stays
    exact ⟨⟨by decide, by rw [size]; decide, rfl⟩, by decide⟩
  · intro stays
    have size : sizeFromHeader 1 [0, 1, 0, 0, 0, 0, 0, 0, 0, 1, 0, 0, 97, 0] = 1 := by decide
    have enters : Enters storedSdk (fun _ => true) [0, 1, 0, 0, 0, 0, 0, 0, 0, 1, 0, 0, 97, 0] :=
      ⟨by decide, by rw [size]; decide, rfl, rfl⟩
    have whole := staysInside_lzma2_iff.mp stays enters (startOf storedSdk) ⟨0, rfl⟩
    rw [size] at whole
    have room : 0 + bufSize ≤ 1 := whole ⟨by decide, by decide⟩
    exact absurd room (by decide)

end WolfEngine.Verified.Lzma
