import WolfEngine.Library.EventLoop
import WolfEngine.Library.LittleEndian
import WolfEngine.Library.MachineInt

/-! # LZMA

`system/_cxx/lzma/lzma.cpp`: a container of its own around the LZMA and LZMA2 streams
of the LZMA SDK.  What the SDK answers, whether `mi_malloc` grants a block and what
lies behind the source in memory are taken from the outside; that an answer stays
within the lengths it was given is a field of the answer.
-/

namespace WolfEngine.System.Lzma

open EventLoop MachineInt

inductive LZMAType where
  | lzma1
  | lzma2
deriving DecidableEq

/-- How a call ends: with a vector and the `p_trace` it leaves, or in `std::terminate`,
which is what `gsl::at` does with an index out of range. -/
inductive Exit where
  | returned (vec : List UInt8) (trace : String)
  | terminated
deriving DecidableEq

/-! ## The SDK -/

def szOk : Int := 0

/-- The fields of `CLzmaEncProps` that `_lzma_prop` sets. -/
structure CLzmaEncProps where
  dictSize : Nat
  fb : Nat
  level : Nat
deriving DecidableEq

inductive ELzmaFinishMode where
  | finishAny
  | finishEnd
deriving DecidableEq

inductive ELzmaStatus where
  | notSpecified
  | finishedWithMark
  | notFinished
  | needsMoreInput
  | maybeFinishedWithoutMark
deriving DecidableEq

/-- What an encoder returns, and what it wrote to a destination of `destLen` bytes. -/
structure EncodeAnswer (destLen : Nat) where
  res : Int
  bytes : List UInt8
  fits : bytes.length ≤ destLen

/-- `LzmaEncode` also writes the properties. -/
structure LzmaEncodeAnswer (destLen : Nat) extends EncodeAnswer destLen where
  propsEncoded : List UInt8
  propsSize : propsEncoded.length = 5

/-- What a decoder returns, how much of its source it took and what it wrote. -/
structure DecodeAnswer (srcLen destLen : Nat) where
  res : Int
  consumed : Nat
  bytes : List UInt8
  status : ELzmaStatus
  taken : consumed ≤ srcLen
  fits : bytes.length ≤ destLen

/-- The SDK functions that are called. -/
structure LzmaSdk where
  lzmaEncode : CLzmaEncProps → (destLen : Nat) → (src : List UInt8) → LzmaEncodeAnswer destLen
  lzmaDecode : (propData : List UInt8) → ELzmaFinishMode → (src : List UInt8) → (destLen : Nat) →
    DecodeAnswer src.length destLen
  /-- Whether `Lzma2Enc_Create` gives a handle. -/
  lzma2EncCreate : Bool
  lzma2EncSetProps : CLzmaEncProps → Int
  lzma2EncWriteProperties : CLzmaEncProps → UInt8
  lzma2EncEncode2 : CLzmaEncProps → (destLen : Nat) → (src : List UInt8) → EncodeAnswer destLen
  CLzma2Dec : Type
  /-- `Lzma2Dec_Allocate` and `Lzma2Dec_Init`. -/
  lzma2DecAllocate : (prop : UInt8) → Int × CLzma2Dec
  lzma2DecDecodeToBuf : CLzma2Dec → ELzmaFinishMode → (src : List UInt8) → (destLen : Nat) →
    DecodeAnswer src.length destLen × CLzma2Dec

/-! ## Compressing -/

def lzmaPropsSize : Nat := 5

def lzmaHeaderSrcSize : Nat := 8

def lzmaProp (level : UInt32) (srcSize : Int) : CLzmaEncProps where
  dictSize :=
    if srcSize ≤ 1 <<< 12 then 1 <<< 12
    else if srcSize ≥ 3 <<< 29 then 3 <<< 29
    else srcSize.toNat
  fb := 40
  level := if level > 9 then 9 else level.toNat

/-- The room for the compressed bytes. -/
def outputSize (srcSize : Nat) : Nat :=
  let outputSize64 := srcSize * 2 % 2 ^ 64
  if outputSize64 < 1024 then 1024 else outputSize64

/-- The eight bytes of the uncompressed size. -/
def sizeHeader (srcSize : Nat) : List UInt8 :=
  (List.range lzmaHeaderSrcSize).map fun i => UInt8.ofNat (srcSize >>> (i * 8) &&& 0xFF)

/-- `compress_1`.  The size is narrowed to an `int` on its way into the properties. -/
def compress1 (sdk : LzmaSdk) (miMalloc : Nat → Bool) (src : List UInt8) (level : UInt32)
    (trace : String) : Exit :=
  let srcSize := src.length
  if srcSize = 0 then
    .returned [] "pSrcBuffer.size() == 0. trace info: lzma_cxx::compress_1"
  else
    let props := lzmaProp level (i32.wrap srcSize)
    if miMalloc (outputSize srcSize) then
      let answer := sdk.lzmaEncode props (outputSize srcSize) src
      if answer.res = szOk then
        .returned (answer.propsEncoded ++ sizeHeader srcSize ++ answer.bytes) trace
      else
        .returned [] "LzmaEncode failed on compressing. trace info: lzma_cxx::compress_1"
    else
      .returned []
        "could not allocate memory for compressed buffer. trace info: lzma_cxx::compress_1"

/-- `compress_2`. -/
def compress2 (sdk : LzmaSdk) (miMalloc : Nat → Bool) (src : List UInt8) (level : UInt32)
    (trace : String) : Exit :=
  let srcSize := src.length
  if srcSize = 0 then
    .returned [] "pSrcBuffer.size() == 0. trace info: lzma_cxx::compress_2"
  else if sdk.lzma2EncCreate then
    let props := lzmaProp level (i32.wrap srcSize)
    if sdk.lzma2EncSetProps props = szOk then
      let properties := sdk.lzma2EncWriteProperties props
      if miMalloc (outputSize srcSize) then
        let answer := sdk.lzma2EncEncode2 props (outputSize srcSize) src
        if answer.res = szOk then
          .returned ([properties] ++ sizeHeader srcSize ++ answer.bytes) trace
        else
          .returned [] "LzmaEncode failed on compressing. trace info: lzma_cxx::compress"
      else
        .returned []
          "could not allocate memory for compressed buffer. trace info: lzma_cxx::compress"
    else
      .returned [] "Lzma2Enc_SetProps(...) == SZ_OK. trace info: lzma_cxx::compress_2"
  else
    .returned [] "Lzma2Enc_Create(...) == NULL. trace info: lzma_cxx::compress_2"

/-- `compress`. -/
def compress (sdk : LzmaSdk) (miMalloc : Nat → Bool) (src : List UInt8) (type : LZMAType)
    (level : UInt32) (trace : String) : Exit :=
  match type with
  | .lzma1 => compress1 sdk miMalloc src level trace
  | .lzma2 => compress2 sdk miMalloc src level trace

/-! ## Decompressing -/

/-- The ranges of the source and of the allocated block that a decoder is offered. -/
structure Offer where
  srcAt : Nat
  srcLen : Nat
  destAt : Nat
  destLen : Nat
deriving DecidableEq

/-- A call of the SDK while decompressing, with its result. -/
inductive LzmaCall where
  | lzmaDecode (propData : List UInt8) (offer : Offer) (res : Int)
  | lzma2DecAllocate (prop : UInt8) (res : Int)
  | lzma2DecDecodeToBuf (offer : Offer) (res : Int)
deriving DecidableEq

def LzmaCall.res : LzmaCall → Int
  | .lzmaDecode _ _ res => res
  | .lzma2DecAllocate _ res => res
  | .lzma2DecDecodeToBuf _ res => res

/-- The size in the header, whose properties take the first `props` bytes. -/
def sizeFromHeader (props : Nat) (src : List UInt8) : Nat :=
  (List.range lzmaHeaderSrcSize).foldl
    (fun size i =>
      let c := (src.getD (props + i) 0).toNat <<< (i * 8) % 2 ^ 64
      if c < 2 ^ 64 - 1 then size ||| c else size)
    0

def maxSize : Nat := 256 * 1024 * 1024

/-- The input range of `decompress_1` ends ten bytes behind the source. -/
def procInSize (srcSize : Nat) : Nat := srcSize - lzmaHeaderSrcSize + lzmaPropsSize

/-- What lies in that range; `behind` is what follows the source in memory. -/
def procIn (behind : Nat → UInt8) (src : List UInt8) : List UInt8 :=
  src.drop (lzmaHeaderSrcSize + lzmaPropsSize) ++
    (List.range (2 * lzmaPropsSize)).map behind

/-- `decompress_1`. -/
def decompress1 (sdk : LzmaSdk) (miMalloc : Nat → Bool) (behind : Nat → UInt8) (src : List UInt8)
    (trace : String) : List LzmaCall × Exit :=
  let srcSize := src.length
  if srcSize < lzmaHeaderSrcSize + lzmaPropsSize then
    ([], .returned [] "invalid lzma header. trace info: lzma_cxx::decompress_1")
  else
    let size := sizeFromHeader lzmaPropsSize src
    if size ≤ maxSize then
      if miMalloc size then
        -- `&gsl::at(pSrcBuffer, LZMA_HEADER_SRC_SIZE + LZMA_PROPS_SIZE)`
        if lzmaHeaderSrcSize + lzmaPropsSize < srcSize then
          let answer := sdk.lzmaDecode (src.take lzmaPropsSize) .finishEnd (procIn behind src) size
          let called := .lzmaDecode (src.take lzmaPropsSize)
            ⟨lzmaHeaderSrcSize + lzmaPropsSize, procInSize srcSize, 0, size⟩ answer.res
          if answer.res = szOk ∧ answer.bytes.length = size then
            ([called], .returned answer.bytes trace)
          else
            ([called], .returned [] trace)
        else
          ([], .terminated)
      else
        ([], .returned []
          "could not allocate memory for lzma decompress buffer. trace info: lzma_cxx::decompress_1")
    else
      ([], .returned [] "invalid lzma header size. trace info: lzma_cxx::decompress_1")

/-- The loop of `decompress_2`; `data` is what the decoder wrote to the block, from its
start to `_out_pos`. -/
structure DecodeState (CLzma2Dec : Type) where
  dec : CLzma2Dec
  outPos : Nat
  inPos : Nat
  data : List UInt8

/-- How the loop is left. -/
inductive LoopExit (CLzma2Dec : Type) where
  | done (state : DecodeState CLzma2Dec)
  /-- `Lzma2Dec_DecodeToBuf` failed. -/
  | failed
  | terminated

def bufSize : Nat := 10240

namespace DecodeState

variable {CLzma2Dec : Type} (state : DecodeState CLzma2Dec)

/-- What the next call of the decoder is offered. -/
def offer (srcSize size : Nat) : Offer where
  srcAt := state.inPos
  srcLen := min bufSize (srcSize - state.inPos)
  destAt := state.outPos
  destLen := min bufSize (size * 2 - state.outPos)

def finishMode (srcSize size : Nat) : ELzmaFinishMode :=
  if state.outPos + (state.offer srcSize size).destLen = size then .finishEnd else .finishAny

def offered (src : List UInt8) (size : Nat) : List UInt8 :=
  (src.drop state.inPos).take (state.offer src.length size).srcLen

/-- `Lzma2Dec_DecodeToBuf`. -/
def call (sdk : LzmaSdk) (state : DecodeState sdk.CLzma2Dec) (src : List UInt8) (size : Nat) :
    DecodeAnswer (state.offered src size).length (state.offer src.length size).destLen ×
      sdk.CLzma2Dec :=
  sdk.lzma2DecDecodeToBuf state.dec (state.finishMode src.length size) (state.offered src size)
    (state.offer src.length size).destLen

/-- After a call that succeeded; both positions are of the type `unsigned`. -/
def advance (sdk : LzmaSdk) (state : DecodeState sdk.CLzma2Dec) (src : List UInt8) (size : Nat) :
    DecodeState sdk.CLzma2Dec where
  dec := (call sdk state src size).2
  outPos := (state.outPos + (call sdk state src size).1.bytes.length) % 2 ^ 32
  inPos := (state.inPos + (call sdk state src size).1.consumed) % 2 ^ 32
  data := state.data ++ (call sdk state src size).1.bytes

end DecodeState

/-- One round of `while (_out_pos < _pre_out_size)`. -/
def decodeRound (sdk : LzmaSdk) (src : List UInt8) (size : Nat) :
    Body Unit (DecodeState sdk.CLzma2Dec) LzmaCall (LoopExit sdk.CLzma2Dec) :=
  fun _ state =>
    if state.outPos < size * 2 then
      -- `&gsl::at(pSrcBuffer, _in_pos)`
      if state.inPos < src.length then
        let answer := (state.call sdk src size).1
        let called := .lzma2DecDecodeToBuf (state.offer src.length size) answer.res
        if answer.res = szOk then
          if answer.status = .finishedWithMark then
            ⟨[called], .leave (.done (state.advance sdk src size))⟩
          else
            ⟨[called], .again (state.advance sdk src size)⟩
        else
          ⟨[called], .leave .failed⟩
      else
        ⟨[], .leave .terminated⟩
    else
      ⟨[], .leave (.done state)⟩

/-- What follows the loop. -/
def afterLoop {CLzma2Dec : Type} (size : Nat) (trace : String) : LoopExit CLzma2Dec → Exit
  | .done state =>
    if state.outPos = size then .returned (state.data.take state.outPos) trace
    else .returned [] trace
  | .failed =>
    .returned [] "Lzma2Dec_DecodeToBuf(...) == SZ_OK. trace info: lzma_cxx::decompress_2"
  | .terminated => .terminated

/-- `none` while the loop goes on. -/
def exitOf {CLzma2Dec : Type} (size : Nat) (trace : String) :
    Control (DecodeState CLzma2Dec) (LoopExit CLzma2Dec) → Option Exit
  | .again _ => none
  | .leave exit => some (afterLoop size trace exit)

/-- `sizeof(Byte)`, the properties of LZMA2. -/
def lzma2PropsSize : Nat := 1

/-- Where the loop begins. -/
def decodeStart {CLzma2Dec : Type} (dec : CLzma2Dec) : DecodeState CLzma2Dec :=
  ⟨dec, 0, lzmaHeaderSrcSize + lzma2PropsSize, []⟩

/-- `decompress_2`; `none` while it is still in its loop after `rounds` rounds.  The
properties that it reads from the source only count with their size. -/
def decompress2 (rounds : Nat) (sdk : LzmaSdk) (miMalloc : Nat → Bool) (src : List UInt8)
    (trace : String) : List LzmaCall × Option Exit :=
  let srcSize := src.length
  if srcSize < lzmaHeaderSrcSize + lzma2PropsSize then
    ([], some (.returned [] "invalid lzma2 header. trace info: lzma_cxx::decompress_2"))
  else
    let size := sizeFromHeader lzma2PropsSize src
    if size ≤ maxSize then
      if miMalloc size then
        let allocated := sdk.lzma2DecAllocate 0
        if allocated.1 = szOk then
          let ran := run (decodeRound sdk src size) (List.replicate rounds ())
            (decodeStart allocated.2)
          (.lzma2DecAllocate 0 allocated.1 :: ran.events, exitOf size trace ran.control)
        else
          ([.lzma2DecAllocate 0 allocated.1], some (.returned []
            "Lzma2Dec_Allocate(...) == SZ_OK. trace info: lzma_cxx::decompress_2"))
      else
        ([], some (.returned []
          "could not allocate memory for lzma decompress buffer. trace info: lzma_cxx::decompress_2"))
    else
      ([], some (.returned [] "invalid lzma2 header size. trace info: lzma_cxx::decompress_2"))

/-- `decompress`. -/
def decompress (rounds : Nat) (sdk : LzmaSdk) (miMalloc : Nat → Bool) (behind : Nat → UInt8)
    (src : List UInt8) (type : LZMAType) (trace : String) : List LzmaCall × Option Exit :=
  match type with
  | .lzma1 =>
    let decompressed := decompress1 sdk miMalloc behind src trace
    (decompressed.1, some decompressed.2)
  | .lzma2 => decompress2 rounds sdk miMalloc src trace

/-! ## The header -/

theorem sizeHeader_eq (srcSize : Nat) : sizeHeader srcSize = LittleEndian.encode 8 srcSize :=
  (LittleEndian.encode_eq_map 8 srcSize).symm

@[simp] theorem sizeHeader_length (srcSize : Nat) : (sizeHeader srcSize).length = 8 := by
  simp [sizeHeader_eq]

/-- No byte of the header is shifted out, and none is left out for being too large. -/
theorem sizeFromHeader_eq {props : Nat} {src : List UInt8} (whole : props + 8 ≤ src.length) :
    sizeFromHeader props src = LittleEndian.decode ((src.drop props).take 8) := by
  have eight : ((src.drop props).take 8).length = 8 := by simp; omega
  rw [LittleEndian.decode_eq_foldl, eight]
  apply List.foldl_ext
  intro size i member
  have below : i < 8 := List.mem_range.mp member
  have byte : ((src.drop props).take 8).getD i 0 = src.getD (props + i) 0 := by
    simp [List.getD, below]
  have small : (src.getD (props + i) 0).toNat <<< (i * 8) ≤ 255 * 2 ^ 56 := by
    rw [Nat.shiftLeft_eq]
    exact Nat.mul_le_mul (Nat.le_of_lt_succ (UInt8.toNat_lt _))
      (Nat.pow_le_pow_right (by decide) (by omega))
  have exact : (src.getD (props + i) 0).toNat <<< (i * 8) % 2 ^ 64 =
      (src.getD (props + i) 0).toNat <<< (i * 8) := Nat.mod_eq_of_lt (by omega)
  dsimp only
  rw [exact, if_pos (by omega), byte]

/-- What is written is read back. -/
theorem sizeFromHeader_sizeHeader {props payload : List UInt8} {srcSize : Nat}
    (fits : srcSize < 2 ^ 64) :
    sizeFromHeader props.length (props ++ sizeHeader srcSize ++ payload) = srcSize := by
  have header : ((props ++ sizeHeader srcSize ++ payload).drop props.length).take 8 =
      sizeHeader srcSize := by
    rw [List.append_assoc, List.drop_left, ← sizeHeader_length srcSize, List.take_left]
  rw [sizeFromHeader_eq (by simp), header, sizeHeader_eq]
  exact LittleEndian.decode_encode_of_lt fits

/-! ## The ranges -/

@[simp] theorem DecodeState.offered_length {CLzma2Dec : Type} (state : DecodeState CLzma2Dec)
    (src : List UInt8) (size : Nat) :
    (state.offered src size).length = (state.offer src.length size).srcLen := by
  simp [DecodeState.offered, DecodeState.offer]

end WolfEngine.System.Lzma
