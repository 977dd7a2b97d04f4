import WolfEngine.Media.Conversion

/-! # Encoding and decoding

`sys/media/ffmpeg.cpp`: the functions that open a context, put frames through it and
close it.  Each takes what ffmpeg answers to the calls that it makes, in the order in
which it makes them.
-/

namespace WolfEngine.Media

open Custody Faulting MachineInt

variable (libav : Libav) (opt : WFfmpegOpt)

def averrorEagain : Int := -11

/-- `FFERRTAG('E', 'O', 'F', ' ')`. -/
def averrorEof : Int := -541478725

def avCodecIdH264 : Int := 27

/-! ## Opening -/

structure EncoderAnswers where
  avcodecFindEncoder : Bool
  avcodecAllocContext3 : Bool
  avOptSet : Int
  avcodecOpen2 : Int

structure DecoderAnswers where
  avcodecFindDecoder : Bool
  avcodecAllocContext3 : Bool
  avFrameAlloc : Bool
  avMalloc : Bool
  avImageFillArrays : Int
  avParserInit : Bool
  avcodecOpen2 : Int

structure InitAnswers where
  calloc : Bool
  avPacketAlloc : Bool
  avFrameAlloc : Bool
  encoder : EncoderAnswers
  decoder : DecoderAnswers

/-- A codec context as `avcodec_alloc_context3` returns it. -/
def AVCodecContext.allocated (object : Nat) : AVCodecContext :=
  { object, bitRate := 0, width := 0, height := 0, timeBase := (0, 1), pixFmt := .none }

def AVFrame.allocated (object : Nat) : AVFrame :=
  { object, data := none, linesize := 0, width := 0, height := 0, format := .none }

def WFfmpegCtx.allocated (object : Nat) : WFfmpegCtx :=
  { object, codecId := 0, context := none, packet := none, rgbFrame := none, yuvFrame := none,
    codec := false, parser := none }

def wFfmpegInitEncoder (answers : EncoderAnswers) : Op Int := do
  let trace := "ffmpeg::w_ffmpeg_init_encoder"
  modifyCtx fun ctx => { ctx with codec := answers.avcodecFindEncoder }
  if answers.avcodecFindEncoder = false then
    makeError trace "failed to find the specified coded" 0
    return ← finalAction Table.empty (-1)
  allocateInCtx .context answers.avcodecAllocContext3
    fun pointer ctx => { ctx with context := pointer.map AVCodecContext.allocated }
  let table := Table.empty.set 0 (ctxChain .context .context)
  if answers.avcodecAllocContext3 = false then
    makeError trace "failed to allocate video codec context" 0
    return ← finalAction table (-1)
  modifyCtx fun ctx => { ctx with
    context := ctx.context.map fun context => { context with
      bitRate := opt.bitrate
      width := i32.wrap opt.width
      height := i32.wrap opt.height
      timeBase := (1, opt.fps)
      pixFmt := .yuv420p } }
  if opt.codecId = avCodecIdH264 ∧ answers.avOptSet < 0 then
    makeError trace "failed to set the options" answers.avOptSet
    return ← finalAction table (-1)
  if answers.avcodecOpen2 < 0 then
    makeError trace "failed to open the codec" answers.avcodecOpen2
    return ← finalAction table (-1)
  finalAction table answers.avcodecOpen2

def wFfmpegInitDecoder (pError : Bool) (answers : DecoderAnswers) : Op Int := do
  let trace := "ffmpeg::w_ffmpeg_init_decoder"
  if pError = false then
    return -1
  modifyCtx fun ctx => { ctx with codec := answers.avcodecFindDecoder }
  if answers.avcodecFindDecoder = false then
    makeError trace "failed to find the specified coded" 0
    return ← finalAction Table.empty (-1)
  allocateInCtx .context answers.avcodecAllocContext3
    fun pointer ctx => { ctx with context := pointer.map AVCodecContext.allocated }
  let table := Table.empty.set 0 (ctxChain .context .context)
  if answers.avcodecAllocContext3 = false then
    makeError trace "failed to allocate video codec context" 0
    return ← finalAction table (-1)
  allocateInCtx .frame answers.avFrameAlloc
    fun pointer ctx => { ctx with rgbFrame := pointer.map AVFrame.allocated }
  let table := table.set 1 (ctxChain .frame .rgbFrame)
  if answers.avFrameAlloc = false then
    makeError trace "failed to allocate the frame" 0
    return ← finalAction table (-1)
  let width := i32.wrap opt.width
  let height := i32.wrap opt.height
  allocate (.pixels (libav.avImageGetBufferSize .rgb24 width height 1)) answers.avMalloc
    fun pointer memory => { memory with frameBufferOut := pointer }
  let table := table.set 2 [(.data, .frameBufferOut)]
  if answers.avMalloc = false then
    makeError trace "failed to allocate the buffer for frame" 0
    return ← finalAction table (-1)
  if answers.avImageFillArrays < 0 then
    makeError trace "failed to find fill the image" 0
    return ← finalAction table (-1)
  modify fun memory => memory.mapRgbFrame fun frame =>
    { frame with
      data := memory.frameBufferOut
      linesize := libav.avImageGetLinesize .rgb24 width 1 }
  allocateInCtx .parser answers.avParserInit fun pointer ctx => { ctx with parser := pointer }
  let table := table.set 3 (ctxChain .parser .parser)
  if answers.avParserInit = false then
    makeError trace "failed to find the parser" 0
    return ← finalAction table (-1)
  if answers.avcodecOpen2 < 0 then
    makeError trace "failed to open the codec" answers.avcodecOpen2
    return ← finalAction table (-1)
  let ret ← finalAction table answers.avcodecOpen2
  -- `frame_buffer_out` goes out of scope
  modify fun memory => { memory with frameBufferOut := none }
  return ret

def wFfmpegInit (pError : Bool) (answers : InitAnswers) : Op Int := do
  let trace := "ffmpeg::w_ffmpeg_init"
  if pError = false then
    return -1
  allocate .ctx answers.calloc
    fun pointer memory => { memory with ctx := pointer.map WFfmpegCtx.allocated }
  let table := Table.empty.set 0 [(.data, .opt), (.data, .ctx)]
  if answers.calloc = false then
    makeError trace "failed to allocate the context" 0
    return ← finalAction table (-1)
  allocateInCtx .packet answers.avPacketAlloc
    fun pointer ctx => { ctx with packet := pointer.map fun object => ⟨object, []⟩ }
  let table := table.set 1 [(.data, .ctx), (.packet, .packet)]
  if answers.avPacketAlloc = false then
    makeError trace "failed to allocate the packet" 0
    return ← finalAction table (-1)
  allocateInCtx .frame answers.avFrameAlloc
    fun pointer ctx => { ctx with yuvFrame := pointer.map AVFrame.allocated }
  let table := table.set 2 [(.data, .ctx), (.frame, .yuvFrame)]
  if answers.avFrameAlloc = false then
    makeError trace "failed to allocate the frame" 0
    return ← finalAction table (-1)
  match opt.type with
  | .encode =>
    if (← wFfmpegInitEncoder opt answers.encoder) < 0 then finalAction table (-1)
    else finalAction table 0
  | .decode =>
    if (← wFfmpegInitDecoder libav opt pError answers.decoder) < 0 then finalAction table (-1)
    else finalAction table 0
  | .unknown =>
    makeError trace
      "ffmpeg action not found. please provide ffmpeg action (e.g W_ENCODE or W_DECODE)" 0
    finalAction table (-1)

/-! ## Encoding -/

/-- One `w_ffmpeg_encode_frame`: the frame is sent, and packets are taken until there is
none. -/
structure EncodePass where
  avcodecSendFrame : Int
  avcodecReceivePacket : List (Int × List UInt8)

structure EncodeCall where
  dataIn : Bool
  pError : Bool
  conversion : Rgb2yuvAnswers
  calloc : Bool
  frame : EncodePass
  flush : EncodePass

/-- The `while (flag)` of `w_ffmpeg_encode_frame`, with the index that it advances. -/
def receivePackets (ret : Int) : List (Int × List UInt8) → Int → Op (Int × Int)
  | [], _ => throw .unanswered
  | (tmpRes, bytes) :: answers, index => do
    if tmpRes = averrorEagain ∨ tmpRes = averrorEof then
      return (ret, index)
    if tmpRes < 0 then
      makeError "ffmpeg::w_ffmpeg_encode_frame" "error during the encoding" ret
      return (-1, index)
    let buffer ← deref (← get).dataOut
    modify fun memory => { memory with
      writes := memory.writes ++ [.memcpy buffer index bytes]
      sizeOut := i32.wrap (memory.sizeOut + bytes.length) }
    receivePackets ret answers (i32.wrap (index + bytes.length))

def wFfmpegEncodeFrame (pass : EncodePass) (index : Int) (pError : Bool) : Op (Int × Int) := do
  let memory ← get
  if memory.ctx = none ∨ pError = false then
    return (-1, index)
  let ctx ← deref memory.ctx
  let _ ← deref ctx.packet
  modifyCtx fun ctx => { ctx with packet := ctx.packet.map fun packet => { packet with data := [] } }
  let _ ← deref ctx.context
  if pass.avcodecSendFrame < 0 then
    makeError "ffmpeg::w_ffmpeg_encode_frame" "failed to send the frame for encoding"
      pass.avcodecSendFrame
    return (-1, index)
  receivePackets pass.avcodecSendFrame pass.avcodecReceivePacket index

/-- `width * height * 3`, in `int64_t`. -/
def outputSize : Int := i64.wrap (i64.wrap (opt.width * opt.height) * 3)

/-- The table of `w_ffmpeg_encode` and `w_ffmpeg_decode`. -/
def callTable : Table := toCleanup [(.data, .dataOut)] [(.data, .opt), (.data, .ctx)]

def wFfmpegEncode (call : EncodeCall) : Op Int := do
  if (← get).ctx = none ∨ call.pError = false ∨ call.dataIn = false then
    return -1
  modify fun memory => { memory with sizeOut := 0 }
  modifyCtx fun ctx => { ctx with codecId := opt.codecId }
  if (← rgb2yuv libav call.conversion call.dataIn opt.width opt.height call.pError) < 0 then
    return ← finalAction callTable (-1)
  allocate (.output (outputSize opt)) call.calloc
    fun pointer memory => { memory with dataOut := pointer }
  if call.calloc = false then
    makeError "ffmpeg::w_ffmpeg_encode" "failed to allocate the output buffer" 0
    return ← finalAction callTable (-1)
  let (encoded, index) ← wFfmpegEncodeFrame call.frame 0 call.pError
  if encoded < 0 then
    return ← finalAction callTable (-1)
  -- finish encoding
  modifyCtx fun ctx => { ctx with yuvFrame := none }
  let (flushed, _) ← wFfmpegEncodeFrame call.flush index call.pError
  if flushed < 0 then
    return ← finalAction callTable (-1)
  finalAction callTable 0

/-! ## Decoding -/

/-- One answer of `avcodec_receive_frame`; of a picture only its size is read. -/
structure Decoded where
  avcodecReceiveFrame : Int
  width : Int
  height : Int
  conversion : Yuv2rgbAnswers

/-- One `w_ffmpeg_decode_frame`. -/
structure DecodePass where
  avcodecSendPacket : Int
  received : List Decoded

/-- One round of the parser: what it consumed, the packet it filled, and the decoding of
that packet. -/
structure Parsed where
  avParserParse2 : Int
  packet : List UInt8
  pass : DecodePass

structure DecodeCall where
  dataIn : Bool
  dataSize : Int
  pError : Bool
  calloc : Bool
  parsed : List Parsed
  flush : DecodePass

/-- The `while (flag)` of `w_ffmpeg_decode_frame`. -/
def receiveFrames (pError : Bool) (ret : Int) : List Decoded → Op Int
  | [] => throw .unanswered
  | answer :: answers => do
    let trace := "ffmpeg::w_ffmpeg_decode_frame"
    if answer.avcodecReceiveFrame = averrorEagain ∨ answer.avcodecReceiveFrame = averrorEof then
      return ret
    if answer.avcodecReceiveFrame < 0 then
      makeError trace "error during decoding" answer.avcodecReceiveFrame
      return -1
    let ctx ← deref (← get).ctx
    let _ ← deref ctx.yuvFrame
    -- the buffers of a received picture are the decoder's
    modify (Memory.mapYuvFrame fun frame =>
      { frame with data := none, width := answer.width, height := answer.height })
    let tmpRes ← yuv2rgb answer.conversion answer.width answer.height pError
    if tmpRes < 0 then
      makeError trace "failed in converting yuv to rgb" tmpRes
      return -1
    modify fun memory => { memory with
      dataOut := memory.ctx.bind fun ctx => ctx.rgbFrame.bind (·.data) }
    let frame ← deref ((← get).ctx.bind (·.rgbFrame))
    let size := libav.avImageGetBufferSize frame.format frame.width frame.height 3
    if size < 0 then
      makeError trace "failed in get the size of the frame buffer" 0
      return -1
    modify fun memory => { memory with sizeOut := size }
    receiveFrames pError ret answers

def wFfmpegDecodeFrame (pass : DecodePass) (pError : Bool) : Op Int := do
  let ctx ← deref (← get).ctx
  let _ ← deref ctx.context
  if pass.avcodecSendPacket < 0 then
    makeError "ffmpeg::w_ffmpeg_decode_frame" "failed to send the packet" 0
    return -1
  receiveFrames libav pError pass.avcodecSendPacket pass.received

/-- The `while (flag)` of `w_ffmpeg_decode`, up to the flush: whether the whole input was
parsed. -/
def parsePackets (pError : Bool) : List Parsed → (size : Int) → Op Bool
  | [], _ => throw .unanswered
  | answer :: answers, size => do
    let ctx ← deref (← get).ctx
    let _ ← deref ctx.parser
    let _ ← deref ctx.packet
    modifyCtx fun ctx =>
      { ctx with packet := ctx.packet.map fun packet => { packet with data := answer.packet } }
    if answer.avParserParse2 < 0 then
      makeError "ffmpeg::w_ffmpeg_decode" "failed in parsing during decoding" 0
      return false
    let size := size - answer.avParserParse2
    if answer.packet ≠ [] then
      -- `ret` is overwritten before anything looks at it
      let _ ← wFfmpegDecodeFrame libav answer.pass pError
    if size ≤ 0 then
      return true
    parsePackets pError answers size

def wFfmpegDecode (call : DecodeCall) : Op Int := do
  if (← get).ctx = none ∨ call.pError = false ∨ call.dataIn = false then
    return -1
  modifyCtx fun ctx => { ctx with codecId := opt.codecId }
  allocate (.output (outputSize opt)) call.calloc
    fun pointer memory => { memory with dataOut := pointer }
  if call.calloc = false then
    makeError "ffmpeg::w_ffmpeg_decode" "failed to allocate the output buffer" 0
    return ← finalAction callTable (-1)
  if (← parsePackets libav call.pError call.parsed call.dataSize) = false then
    return ← finalAction callTable (-1)
  -- flush the decoder
  modifyCtx fun ctx => { ctx with packet := none }
  finalAction callTable (← wFfmpegDecodeFrame libav call.flush call.pError)

/-! ## Closing -/

def wFfmpegFini : Op Unit := do
  let _ ← finalAction (toCleanup (ctxChain .parser .parser) [(.data, .opt), (.data, .ctx)]) (-1)

/-! ## Sessions -/

inductive Request where
  | encode (call : EncodeCall)
  | decode (call : DecodeCall)

/-- A call, and whether the caller hands in a null `*p_data_out` instead of what the last
call left there. -/
structure Call where
  nullOut : Bool
  request : Request

def Request.perform : Request → Op Int
  | .encode call => wFfmpegEncode libav opt call
  | .decode call => wFfmpegDecode libav opt call

def Call.perform (call : Call) : Op Int := do
  if call.nullOut = true then modify fun memory => { memory with dataOut := none }
  call.request.perform libav opt

def performAll : List Call → Op Unit
  | [] => pure ()
  | call :: calls => do
    let _ ← call.perform libav opt
    performAll calls

structure Session where
  opt : WFfmpegOpt
  pError : Bool
  init : InitAnswers
  calls : List Call

/-- `w_ffmpeg_init`, then the calls, then `w_ffmpeg_fini`. -/
def Session.run (session : Session) : Op Unit := do
  let _ ← wFfmpegInit libav session.opt session.pError session.init
  performAll libav session.opt session.calls
  wFfmpegFini

/-- Before the session: an option struct whose `ctx` is null. -/
def Memory.initial : Memory :=
  { ctx := none, dataOut := none, sizeOut := 0, error := none, frameBufferIn := none,
    frameBufferOut := none, swsContext := none, writes := [], ledger := Ledger.empty }

end WolfEngine.Media
