import WolfEngine.Media.Context

/-! # Conversion of frames

`sys/media/conversion.cpp`.  Both functions print their errors with `std::printf(p_error, …)`,
which leaves `p_error` as it was.
-/

namespace WolfEngine.Media

open Faulting MachineInt

/-- What swscale and libavutil answer to `rgb2yuv`. -/
structure Rgb2yuvAnswers where
  swsGetContext : Bool
  avMalloc : Bool
  avImageFillArrays : Int
  swsScale : Int

/-- What swscale answers to `yuv2rgb`. -/
structure Yuv2rgbAnswers where
  swsGetContext : Bool
  swsScale : Int

/-- `sws_freeContext(context)`, if there is one. -/
def Memory.swsFreeContext (memory : Memory) : Memory :=
  { memory.release memory.swsContext with swsContext := none }

/-- What a successful `sws_scale` writes into the buffer of a frame. -/
def Memory.swsScale (format : AVPixelFormat) (width height : Int) (frame : Option AVFrame)
    (memory : Memory) : Memory :=
  { memory with
    writes := memory.writes ++
      frame.toList.map fun frame => .swsScale frame.data format frame.linesize width height }

/-- The end of `rgb2yuv`: the buffer is freed on failure, and out of scope in any case. -/
def leaveRgb2yuv (ret : Int) : Op Int := do
  modify Memory.swsFreeContext
  if ret ≠ 0 then modify fun memory => memory.release memory.frameBufferIn
  modify fun memory => { memory with frameBufferIn := none }
  return ret

def rgb2yuv (libav : Libav) (answers : Rgb2yuvAnswers) (rgb : Bool) (pWidth pHeight : Int)
    (pError : Bool) : Op Int := do
  let ctx ← deref (← get).ctx
  if rgb = false ∨ pWidth = 0 ∨ pHeight = 0 ∨ pError = false ∨ ctx.yuvFrame = none then
    return -1
  let width := i32.wrap pWidth
  let height := i32.wrap pHeight
  allocate .swsContext answers.swsGetContext
    fun pointer memory => { memory with swsContext := pointer }
  if answers.swsGetContext = false then
    return ← leaveRgb2yuv (-1)
  allocate (.pixels (libav.avImageGetBufferSize .yuv420p width height 1)) answers.avMalloc
    fun pointer memory => { memory with frameBufferIn := pointer }
  if answers.avMalloc = false then
    return ← leaveRgb2yuv (-1)
  if answers.avImageFillArrays < 0 then
    return ← leaveRgb2yuv (-1)
  modify fun memory => memory.mapYuvFrame fun frame =>
    { frame with
      data := memory.frameBufferIn
      linesize := libav.avImageGetLinesize .yuv420p width 1 }
  if answers.swsScale < 0 then
    return ← leaveRgb2yuv (-1)
  modify fun memory =>
    memory.swsScale .yuv420p width height (memory.ctx.bind (·.yuvFrame))
  modify fun memory => memory.mapYuvFrame fun frame =>
    { frame with width := width, height := height, format := .yuv420p }
  leaveRgb2yuv 0

def leaveYuv2rgb (ret : Int) : Op Int := do
  modify Memory.swsFreeContext
  return ret

def yuv2rgb (answers : Yuv2rgbAnswers) (pWidth pHeight : Int) (pError : Bool) : Op Int := do
  let ctx ← deref (← get).ctx
  if pWidth = 0 ∨ pHeight = 0 ∨ pError = false ∨ ctx.yuvFrame = none ∨ ctx.rgbFrame = none then
    return -1
  let width := i32.wrap pWidth
  let height := i32.wrap pHeight
  allocate .swsContext answers.swsGetContext
    fun pointer memory => { memory with swsContext := pointer }
  if answers.swsGetContext = false then
    return ← leaveYuv2rgb (-1)
  if answers.swsScale < 0 then
    return ← leaveYuv2rgb (-1)
  modify fun memory => memory.swsScale .rgb24 width height (memory.ctx.bind (·.rgbFrame))
  modify fun memory => memory.mapRgbFrame fun frame =>
    { frame with width := width, height := height, format := .rgb24 }
  leaveYuv2rgb answers.swsScale

end WolfEngine.Media
