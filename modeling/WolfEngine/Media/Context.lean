import WolfEngine.Library.Faulting
import WolfEngine.Library.Ledger
import WolfEngine.Library.MachineInt

/-! # The ffmpeg context

The structs of `sys/media/ffmpeg.cpp` and its table-driven `cleanup`.  An object is its
place in a ledger of everything that was allocated; ffmpeg's own answers come from
the outside.
-/

namespace WolfEngine.Media

open Custody Faulting

inductive AVPixelFormat where
  | none
  | rgb24
  | yuv420p
deriving DecidableEq

/-- What was allocated, with the bytes asked for where the library names a size. -/
inductive Kind where
  | ctx
  | packet
  | context
  | frame
  | parser
  | pixels (size : Int)
  | output (size : Int)
  | swsContext
deriving DecidableEq

/-- The geometry functions of libavutil. -/
structure Libav where
  avImageGetBufferSize : AVPixelFormat → (width height align : Int) → Int
  avImageGetLinesize : AVPixelFormat → (width align : Int) → Int

structure AVCodecContext where
  object : Nat
  bitRate : Int
  width : Int
  height : Int
  timeBase : Int × Int
  pixFmt : AVPixelFormat
deriving DecidableEq

structure AVPacket where
  object : Nat
  data : List UInt8
deriving DecidableEq

/-- A frame; `data` is the buffer of ours that its `data[0]` points to. -/
structure AVFrame where
  object : Nat
  data : Option Nat
  linesize : Int
  width : Int
  height : Int
  format : AVPixelFormat
deriving DecidableEq

/-- `w_ffmpeg_ctx_t`; of the codec, which nobody owns, only whether it was found. -/
structure WFfmpegCtx where
  object : Nat
  codecId : Int
  context : Option AVCodecContext
  packet : Option AVPacket
  rgbFrame : Option AVFrame
  yuvFrame : Option AVFrame
  codec : Bool
  parser : Option Nat
deriving DecidableEq

inductive WFfmpegAction where
  | encode
  | decode
  | unknown
deriving DecidableEq

/-- `w_ffmpeg_opt_t` without its `ctx`, which the calls change. -/
structure WFfmpegOpt where
  fps : Int
  width : Int
  height : Int
  bitrate : Int
  codecId : Int
  type : WFfmpegAction

/-- What `make_error` formats into `p_error`. -/
structure ErrorText where
  errorMsg : String
  errorCode : Int
  trace : String
deriving DecidableEq

/-- A write into a buffer of ours. -/
inductive Write where
  | memcpy (buffer : Nat) (offset : Int) (bytes : List UInt8)
  | swsScale (buffer : Option Nat) (format : AVPixelFormat) (linesize width height : Int)
deriving DecidableEq

/-- The memory that the calls share: `opt->ctx`, the caller's `*p_data_out`, `*p_size_out`
and `p_error`, and the owning locals of the functions that have some. -/
structure Memory where
  ctx : Option WFfmpegCtx
  dataOut : Option Nat
  sizeOut : Int
  error : Option ErrorText
  frameBufferIn : Option Nat
  frameBufferOut : Option Nat
  swsContext : Option Nat
  writes : List Write
  ledger : Ledger Kind

inductive Fault where
  | nullDereference
  | useAfterRelease
  /-- ffmpeg was asked for more answers than were given. -/
  | unanswered
deriving DecidableEq

abbrev Op (α : Type) := Program Memory Fault α

/-! ## Reading and writing the memory -/

def deref {α : Type} : Option α → Op α
  | some value => pure value
  | none => throw .nullDereference

def Memory.mapCtx (change : WFfmpegCtx → WFfmpegCtx) (memory : Memory) : Memory :=
  { memory with ctx := memory.ctx.map change }

/-- `opt->ctx->… = …`. -/
def modifyCtx (change : WFfmpegCtx → WFfmpegCtx) : Op Unit := do
  let _ ← deref (← get).ctx
  modify (Memory.mapCtx change)

def Memory.mapYuvFrame (change : AVFrame → AVFrame) : Memory → Memory :=
  Memory.mapCtx fun ctx => { ctx with yuvFrame := ctx.yuvFrame.map change }

def Memory.mapRgbFrame (change : AVFrame → AVFrame) : Memory → Memory :=
  Memory.mapCtx fun ctx => { ctx with rgbFrame := ctx.rgbFrame.map change }

/-- The pointer that an allocation returns. -/
def Memory.granted (memory : Memory) (grant : Bool) : Option Nat :=
  if grant then some memory.ledger.fresh else none

def Memory.record (kind : Kind) (grant : Bool) (memory : Memory) : Memory :=
  if grant then { memory with ledger := memory.ledger.acquire kind } else memory

/-- An allocation whose result is stored by `store`. -/
def allocate (kind : Kind) (grant : Bool) (store : Option Nat → Memory → Memory) : Op Unit :=
  modify fun memory => (store (memory.granted grant) memory).record kind grant

/-- An allocation whose result is stored in a field of `opt->ctx`. -/
def allocateInCtx (kind : Kind) (grant : Bool)
    (store : Option Nat → WFfmpegCtx → WFfmpegCtx) : Op Unit := do
  let _ ← deref (← get).ctx
  allocate kind grant fun pointer => Memory.mapCtx (store pointer)

def Memory.release (pointer : Option Nat) (memory : Memory) : Memory :=
  { memory with ledger := pointer.elim memory.ledger memory.ledger.release }

def makeError (trace errorMsg : String) (errorCode : Int) : Op Unit :=
  modify fun memory => { memory with error := some ⟨errorMsg, errorCode, trace⟩ }

/-! ## Cleanup -/

/-- `w_ffmpeg_type`: which function frees the object. -/
inductive WFfmpegType where
  | none
  | packet
  | context
  | frame
  | parser
  | data
deriving DecidableEq

/-- The pointer variables whose addresses stand in the tables. -/
inductive Slot where
  | opt
  | ctx
  | packet
  | context
  | yuvFrame
  | rgbFrame
  | parser
  | frameBufferOut
  | dataOut
deriving DecidableEq

/-- The variable is a field of `*opt->ctx`. -/
def Slot.inCtx : Slot → Bool
  | .packet | .context | .yuvFrame | .rgbFrame | .parser => true
  | .opt | .ctx | .frameBufferOut | .dataOut => false

abbrev Link := WFfmpegType × Slot

abbrev Chain := List Link

/-- `std::array<std::vector<std::pair<int, void **>>, MAX_ARRAY_SIZE>`. -/
abbrev Table := List Chain

def maxArraySize : Nat := 6

def Table.empty : Table := List.replicate maxArraySize []

/-- The object that a variable points to, if it is one of the ledger's. -/
def Memory.pointer (memory : Memory) : Slot → Option Nat
  | .opt => none
  | .ctx => memory.ctx.map (·.object)
  | .packet => memory.ctx.bind fun ctx => ctx.packet.map (·.object)
  | .context => memory.ctx.bind fun ctx => ctx.context.map (·.object)
  | .yuvFrame => memory.ctx.bind fun ctx => ctx.yuvFrame.map (·.object)
  | .rgbFrame => memory.ctx.bind fun ctx => ctx.rgbFrame.map (·.object)
  | .parser => memory.ctx.bind fun ctx => ctx.parser
  | .frameBufferOut => memory.frameBufferOut
  | .dataOut => memory.dataOut

/-- `*slot = nullptr`. -/
def Memory.clear : Slot → Memory → Memory
  -- no table ends in `opt`
  | .opt => id
  | .ctx => fun memory => { memory with ctx := none }
  | .packet => Memory.mapCtx fun ctx => { ctx with packet := none }
  | .context => Memory.mapCtx fun ctx => { ctx with context := none }
  | .yuvFrame => Memory.mapCtx fun ctx => { ctx with yuvFrame := none }
  | .rgbFrame => Memory.mapCtx fun ctx => { ctx with rgbFrame := none }
  | .parser => Memory.mapCtx fun ctx => { ctx with parser := none }
  | .frameBufferOut => fun memory => { memory with frameBufferOut := none }
  | .dataOut => fun memory => { memory with dataOut := none }

/-- `check_null(*slot)`.  The table holds the address the variable had when the table was
filled, so a field is read after its context was released once `opt->ctx` is null. -/
def checkNull (slot : Slot) : Op Bool := do
  let memory ← get
  if slot.inCtx = true ∧ memory.ctx = none then throw .useAfterRelease
  else return slot != .opt && (memory.pointer slot).isNone

/-- The last link of a chain in which no pointer is null. -/
def lastLink (last : Option Link) : Chain → Op (Option Link)
  | [] => pure last
  | link :: chain => do
    if ← checkNull link.2 then return none
    else lastLink (some link) chain

/-- The object of the link is freed as its type says, and the variable set to null. -/
def freeLink : Option Link → Op Unit
  | none | some (.none, _) => pure ()
  | some (_, slot) => modify fun memory => (memory.release (memory.pointer slot)).clear slot

def cleanupChain (chain : Chain) : Op Unit := do
  freeLink (← lastLink none chain)

def cleanup : Table → Op Unit
  | [] => pure ()
  | chain :: table => do
    cleanupChain chain
    cleanup table

/-- What a function returns through, once `final_action` is established. -/
def finalAction (table : Table) (ret : Int) : Op Int := do
  if ret = -1 then cleanup table
  return ret

def ctxChain (type : WFfmpegType) (slot : Slot) : Chain := [(.data, .opt), (.data, .ctx), (type, slot)]

/-- `to_cleanup`, and the two chains that its caller adds. -/
def toCleanup (fifth sixth : Chain) : Table :=
  [ctxChain .packet .packet, ctxChain .context .context, ctxChain .frame .yuvFrame,
    ctxChain .frame .rgbFrame, fifth, sixth]

end WolfEngine.Media
