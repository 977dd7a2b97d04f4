import Mathlib.Data.Int.Bitwise
import WolfEngine.Verified.FfmpegSession

/-! # What a decoding writes

The buffer for the pictures is allocated for the configured size without padding, a
picture is converted at the size that it has in the stream, and its own size is
reported with rows that are aligned to three bytes.
-/

namespace WolfEngine.Verified.Ffmpeg

open Media Custody Faulting MachineInt

/-! ## Where pictures go -/

/-- Where `rgb_frame` points to, and how far apart its rows are. -/
def target (memory : Memory) : Option (Option Nat × Int) :=
  (memory.ctx.bind (·.rgbFrame)).map fun frame => (frame.data, frame.linesize)

/-- The pictures still go to the same place, and what was allocated is known. -/
structure SameTarget (before after : Memory) : Prop where
  target : target after = target before
  acquired : before.ledger.acquired <+: after.ledger.acquired

instance : Std.Refl SameTarget := ⟨fun _ => ⟨rfl, List.prefix_rfl⟩⟩

instance : IsTrans Memory SameTarget :=
  ⟨fun _ _ _ first second =>
    ⟨second.target.trans first.target, first.acquired.trans second.acquired⟩⟩

variable {memory : Memory} {fault : Fault → Prop}

theorem target_mapCtx {change : WFfmpegCtx → WFfmpegCtx}
    (same : ∀ ctx, (change ctx).rgbFrame = ctx.rgbFrame) :
    target (memory.mapCtx change) = target memory := by
  rcases isCtx : memory.ctx with _ | ctx <;> simp [target, Memory.mapCtx, isCtx, same]

theorem target_mapRgbFrame {change : AVFrame → AVFrame}
    (data : ∀ frame, (change frame).data = frame.data)
    (linesize : ∀ frame, (change frame).linesize = frame.linesize) :
    target (memory.mapRgbFrame change) = target memory := by
  rcases isCtx : memory.ctx with _ | ctx
  · simp [target, Memory.mapRgbFrame, Memory.mapCtx, isCtx]
  · rcases isFrame : ctx.rgbFrame with _ | frame <;>
      simp [target, Memory.mapRgbFrame, Memory.mapCtx, isCtx, isFrame, data, linesize]

/-! ## One picture -/

/-- The size that `w_ffmpeg_decode_frame` reports for a picture. -/
def pictureSize (libav : Libav) (picture : Decoded) : Int :=
  libav.avImageGetBufferSize .rgb24 (i32.wrap picture.width) (i32.wrap picture.height) 3

/-- What the conversion of a picture writes. -/
def pictureWrite (memory : Memory) (picture : Decoded) : List Write :=
  (target memory).toList.map fun (data, linesize) =>
    .swsScale data .rgb24 linesize (i32.wrap picture.width) (i32.wrap picture.height)

/-- A picture that is converted, with what is written for it. -/
structure Converted (before : Memory) (picture : Decoded) (after : Memory) : Prop where
  ctx : SameCtx before after
  same : SameTarget before after
  writes : after.writes = before.writes ++ pictureWrite before picture
  pictured : Pictured after picture.width picture.height

/-- What a conversion that succeeds changes of the memory. -/
theorem yuv2rgb_writes {picture : Decoded} (opened : Opened [.yuvFrame, .rgbFrame] memory)
    (succeeds : Yuv2rgbSucceeds picture) :
    Wp (yuv2rgb picture.conversion picture.width picture.height true)
      (fun ret after => 0 ≤ ret ∧ SameTarget memory after ∧
        after.writes = memory.writes ++ pictureWrite memory picture) fault memory := by
  obtain ⟨ctx, isCtx⟩ := Option.ne_none_iff_exists'.mp (opened.ctx (List.mem_cons_self ..))
  have yuvFrame : ctx.yuvFrame ≠ none := by
    simpa [Memory.pointer, isCtx] using (opened .yuvFrame (by simp)).2
  have rgbFrame : ctx.rgbFrame ≠ none := by
    simpa [Memory.pointer, isCtx] using (opened .rgbFrame (by simp)).2
  obtain ⟨width, height, context, scaled⟩ := succeeds
  refine wp_bind.mpr (wp_get.mpr (wp_bind.mpr ((wp_deref isCtx).mpr ?_)))
  refine (wp_ite _ _ _).mpr ⟨fun refused => ?_, fun _ => ?_⟩
  · simp [width, height, yuvFrame, rgbFrame] at refused
  rw [context]
  refine wp_bind.mpr ((wp_modify _).mpr ((wp_ite _ _ _).mpr ⟨fun refused => ?_, fun _ => ?_⟩))
  · cases refused
  refine (wp_ite _ _ _).mpr ⟨fun negative => ?_, fun _ => ?_⟩
  · exact absurd scaled (Int.not_le.mpr negative)
  refine ⟨scaled, ⟨target_mapRgbFrame (fun _ => rfl) fun _ => rfl, ?_⟩, ?_⟩
  · simp [Memory.swsFreeContext, Memory.release, Memory.record, Memory.swsScale, Memory.mapRgbFrame,
      Memory.mapCtx, Ledger.acquire, Ledger.release, Memory.granted]
  · obtain ⟨frame, isFrame⟩ := Option.ne_none_iff_exists'.mp rgbFrame
    simp [Memory.swsFreeContext, Memory.release, Memory.record, Memory.swsScale, Memory.mapRgbFrame,
      Memory.mapCtx, pictureWrite, target, isCtx, isFrame]

theorem yuv2rgb_converts {picture : Decoded} (opened : Opened [.yuvFrame, .rgbFrame] memory)
    (succeeds : Yuv2rgbSucceeds picture) :
    Wp (yuv2rgb picture.conversion picture.width picture.height true)
      (fun ret after => 0 ≤ ret ∧ Converted memory picture after) fault memory := by
  refine ((yuv2rgb_spec picture opened).and (yuv2rgb_writes opened succeeds)).mono ?_ fun _ => id
  intro ret after done
  obtain ⟨⟨ctx, reported⟩, nonneg, same, writes⟩ := done
  cases reported with
  | inl converted => exact ⟨nonneg, ctx, same, writes, converted.2.2⟩
  | inr refused => exact absurd succeeds refused.1

/-- The step of the loop of `w_ffmpeg_decode_frame` for a picture that is handled. -/
theorem receiveFrames_picture {libav : Libav} {picture : Decoded} {answers : List Decoded} {ret : Int}
    {post : Int → Memory → Prop} (opened : Opened [.yuvFrame, .rgbFrame] memory)
    (received : 0 ≤ picture.avcodecReceiveFrame) (handled : PictureSucceeds libav picture)
    (rest : ∀ middle, SameCtx memory middle → SameTarget memory middle →
      middle.writes = memory.writes ++ pictureWrite memory picture →
      middle.sizeOut = pictureSize libav picture →
      middle.dataOut = (target memory).bind (·.1) →
      Wp (receiveFrames libav true ret answers) post (fun _ => True) middle) :
    Wp (receiveFrames libav true ret (picture :: answers)) post (fun _ => True) memory := by
  refine (wp_ite _ _ _).mpr ⟨fun drained => ?_, fun _ => (wp_ite _ _ _).mpr
    ⟨fun negative => absurd received (Int.not_le.mpr negative), fun _ => ?_⟩⟩
  · exact absurd received (Int.not_le.mpr (Drained.negative drained))
  refine wp_bind.mpr (wp_get.mpr (wp_bind.mpr (wp_deref_of fun _ _ => wp_bind.mpr ?_)))
  refine wp_deref_of fun _ _ => wp_bind.mpr ((wp_modify _).mpr ?_)
  have same : SameCtx memory (memory.mapYuvFrame fun frame =>
      { frame with data := none, width := picture.width, height := picture.height }) :=
    sameCtx_mapCtx (skeleton_mapYuvFrame fun _ => rfl)
  have goes : target (memory.mapYuvFrame fun frame =>
      { frame with data := none, width := picture.width, height := picture.height }) = target memory :=
    target_mapCtx fun _ => rfl
  refine wp_bind.mpr ((yuv2rgb_converts (same.opened opened) handled.1).mono ?_ fun _ => id)
  intro tmpRes middle done
  obtain ⟨nonneg, converted⟩ := done
  refine (wp_ite _ _ _).mpr ⟨fun negative => absurd nonneg (Int.not_le.mpr negative), fun _ => ?_⟩
  obtain ⟨frame, isFrame, format, width, height⟩ := converted.pictured
  refine wp_bind.mpr ((wp_modify _).mpr (wp_bind.mpr (wp_get.mpr (wp_bind.mpr
    ((wp_deref isFrame).mpr ?_)))))
  rw [format, width, height]
  refine (wp_ite _ _ _).mpr ⟨fun negative => absurd handled.2 (Int.not_le.mpr negative), fun _ => ?_⟩
  have kept : target middle = target memory := converted.same.target.trans goes
  refine wp_bind.mpr ((wp_modify _).mpr (rest _ ?_ ⟨kept, converted.same.acquired⟩ ?_ rfl ?_))
  · exact IsTrans.trans _ _ _ same converted.ctx
  · show middle.writes = _
    rw [converted.writes, pictureWrite, goes]
    rfl
  · rw [← kept]
    rcases isCtx : middle.ctx with _ | ctx
    · simp [target, isCtx]
    · rcases isFrame : ctx.rgbFrame with _ | frame <;> simp [target, isCtx, isFrame]

/-! ## A decoder in use -/

abbrev Aims {α : Type} (op : Op α) : Prop := Keeps SameTarget (fun _ => True) op

theorem aims_modify {change : Memory → Memory}
    (same : ∀ memory, target (change memory) = target memory)
    (acquired : ∀ memory, memory.ledger.acquired <+: (change memory).ledger.acquired) :
    Aims (modify change) := Keeps.modify fun memory => ⟨same memory, acquired memory⟩

theorem aims_deref {α : Type} (value : Option α) : Aims (deref value) := by
  cases value with
  | none => exact Keeps.throw trivial
  | some content => exact Keeps.pure content

theorem aims_makeError (trace errorMsg : String) (errorCode : Int) :
    Aims (makeError trace errorMsg errorCode) :=
  aims_modify (fun _ => rfl) fun _ => List.prefix_rfl

theorem aims_modifyCtx {change : WFfmpegCtx → WFfmpegCtx}
    (same : ∀ ctx, (change ctx).rgbFrame = ctx.rgbFrame) : Aims (modifyCtx change) :=
  Keeps.bind Keeps.get fun _ => Keeps.bind (aims_deref _) fun _ =>
    aims_modify (fun _ => target_mapCtx same) fun _ => List.prefix_rfl

theorem aims_allocate (kind : Kind) (grant : Bool) {store : Option Nat → Memory → Memory}
    (same : ∀ pointer memory, (store pointer memory).ctx = memory.ctx)
    (ledger : ∀ pointer memory, (store pointer memory).ledger = memory.ledger) :
    Aims (allocate kind grant store) := by
  apply aims_modify
  · intro memory
    cases grant <;> simp [target, Memory.record, same]
  · intro memory
    cases grant <;> simp [Memory.record, ledger, Ledger.acquire]

theorem aims_leaveYuv2rgb (ret : Int) : Aims (leaveYuv2rgb ret) := by
  have frees : Aims (modify Memory.swsFreeContext : Op Unit) := by
    apply aims_modify
    · intro memory
      rfl
    · intro memory
      cases isContext : memory.swsContext <;>
        simp [Memory.swsFreeContext, Memory.release, isContext, Ledger.release]
  exact Keeps.bind frees fun _ => Keeps.pure ret

theorem aims_yuv2rgb (answers : Yuv2rgbAnswers) (width height : Int) (pError : Bool) :
    Aims (yuv2rgb answers width height pError) := by
  have scales (width height : Int) : Aims (modify fun memory : Memory =>
      memory.swsScale .rgb24 width height (memory.ctx.bind (·.rgbFrame)) : Op Unit) :=
    aims_modify (fun _ => rfl) fun _ => List.prefix_rfl
  have sizes (width height : Int) : Aims (modify fun memory : Memory =>
      memory.mapRgbFrame fun frame =>
        { frame with width := width, height := height, format := .rgb24 } : Op Unit) :=
    aims_modify (fun _ => target_mapRgbFrame (fun _ => rfl) fun _ => rfl) fun _ => List.prefix_rfl
  refine Keeps.bind Keeps.get fun _ => Keeps.bind (aims_deref _) fun _ => ?_
  apply Keeps.ite (Keeps.pure _)
  refine Keeps.bind (aims_allocate _ _ (fun _ _ => rfl) fun _ _ => rfl) fun _ => ?_
  apply Keeps.ite (aims_leaveYuv2rgb _)
  apply Keeps.ite (aims_leaveYuv2rgb _)
  exact Keeps.bind (scales _ _) fun _ => Keeps.bind (sizes _ _) fun _ => aims_leaveYuv2rgb _

theorem aims_receiveFrames (libav : Libav) (pError : Bool) (ret : Int) (answers : List Decoded) :
    Aims (receiveFrames libav pError ret answers) := by
  induction answers with
  | nil => exact Keeps.throw trivial
  | cons answer answers ih =>
    apply Keeps.ite (Keeps.pure _)
    apply Keeps.ite (Keeps.bind (aims_makeError _ _ _) fun _ => Keeps.pure _)
    refine Keeps.bind Keeps.get fun _ => Keeps.bind (aims_deref _) fun _ => ?_
    refine Keeps.bind (aims_deref _) fun _ => ?_
    refine Keeps.bind (aims_modify (fun _ => target_mapCtx fun _ => rfl) fun _ => List.prefix_rfl)
      fun _ => ?_
    refine Keeps.bind (aims_yuv2rgb _ _ _ _) fun _ => ?_
    apply Keeps.ite (Keeps.bind (aims_makeError _ _ _) fun _ => Keeps.pure _)
    refine Keeps.bind (aims_modify (fun _ => rfl) fun _ => List.prefix_rfl) fun _ => ?_
    refine Keeps.bind Keeps.get fun _ => Keeps.bind (aims_deref _) fun _ => ?_
    apply Keeps.ite (Keeps.bind (aims_makeError _ _ _) fun _ => Keeps.pure _)
    exact Keeps.bind (aims_modify (fun _ => rfl) fun _ => List.prefix_rfl) fun _ => ih

theorem aims_decodeFrame (libav : Libav) (pass : DecodePass) (pError : Bool) :
    Aims (wFfmpegDecodeFrame libav pass pError) := by
  refine Keeps.bind Keeps.get fun _ => Keeps.bind (aims_deref _) fun _ => ?_
  refine Keeps.bind (aims_deref _) fun _ => ?_
  apply Keeps.ite (Keeps.bind (aims_makeError _ _ _) fun _ => Keeps.pure _)
  exact aims_receiveFrames _ _ _ _

/-- The memories that a decoder goes through: it is opened, and `w_ffmpeg_decode` starts,
fills its packet or drops it for the flush, and decodes. -/
inductive DecoderReached (libav : Libav) (opt : WFfmpegOpt) : Memory → Prop where
  | opened {before memory : Memory} (answers : InitAnswers)
      (ran : (wFfmpegInit libav opt true answers).run before = .ok (0, memory)) :
      DecoderReached libav opt memory
  | started {memory after : Memory} (calloc : Bool) (before : DecoderReached libav opt memory)
      (ran : (do
        modifyCtx fun ctx => { ctx with codecId := opt.codecId }
        allocate (.output (outputSize opt)) calloc
          fun pointer memory => { memory with dataOut := pointer } : Op Unit).run memory =
          .ok ((), after)) :
      DecoderReached libav opt after
  | parsed {memory after : Memory} (data : List UInt8) (before : DecoderReached libav opt memory)
      (ran : (modifyCtx fun ctx =>
        { ctx with packet := ctx.packet.map fun packet => { packet with data := data } } : Op Unit).run
          memory = .ok ((), after)) :
      DecoderReached libav opt after
  | dropped {memory after : Memory} (before : DecoderReached libav opt memory)
      (ran : (modifyCtx fun ctx => { ctx with packet := none } : Op Unit).run memory = .ok ((), after)) :
      DecoderReached libav opt after
  | decoded {memory after : Memory} {ret : Int} (pass : DecodePass)
      (before : DecoderReached libav opt memory)
      (ran : (wFfmpegDecodeFrame libav pass true).run memory = .ok (ret, after)) :
      DecoderReached libav opt after

/-- The frames are there, and `rgb_frame` points to the buffer of the configured size. -/
structure Ready (libav : Libav) (opt : WFfmpegOpt) (memory : Memory) : Prop where
  used : Opened [.context, .yuvFrame, .rgbFrame] memory
  aimed : ∃ object,
    target memory = some (some object, libav.avImageGetLinesize .rgb24 (i32.wrap opt.width) 1) ∧
      memory.ledger.acquired[object]? = some (decodedPixels libav opt)

variable {libav : Libav} {opt : WFfmpegOpt} {before after : Memory}

theorem Ready.aims (ready : Ready libav opt memory) (same : SameTarget memory after)
    (used : Opened [.context, .yuvFrame, .rgbFrame] after) : Ready libav opt after := by
  obtain ⟨object, aimed, acquired⟩ := ready.aimed
  exact ⟨used, object, same.target.trans aimed, acquired_of_grown same.acquired acquired⟩

theorem ready_opened {answers : InitAnswers} (isDecode : opt.type = .decode)
    (ran : (wFfmpegInit libav opt true answers).run before = .ok (0, memory)) :
    Ready libav opt memory := by
  obtain ⟨context, codec⟩ := (init_opens libav opt true answers).ok ran (by decide)
  simp only [isDecode] at codec
  rw [init_decoder_run libav opt true answers isDecode context codec] at ran
  cases ran
  refine ⟨?_, before.ledger.fresh + 5, rfl, ?_⟩
  · simp [Opened, Slot.inCtx, Memory.pointer, openedDecoder]
  · simp [openedDecoder, Ledger.fresh]

/-- A program that aims at the same place and keeps the context keeps a decoder ready. -/
theorem Ready.keep {α : Type} {op : Op α} {result : α} (ready : Ready libav opt memory)
    (aims : Aims op) (keeps : Does SameCtx (fun _ => True) (fun _ => True) op memory)
    (ran : op.run memory = .ok (result, after)) : Ready libav opt after :=
  ready.aims ((aims memory).ok ran) ((Wp.ok keeps ran).1.opened ready.used)

theorem DecoderReached.ready (isDecode : opt.type = .decode)
    (reached : DecoderReached libav opt memory) : Ready libav opt memory := by
  induction reached with
  | opened answers ran => exact ready_opened isDecode ran
  | started calloc _ ran ready =>
    have present := ready.used.ctx (List.mem_cons_self ..)
    apply ready.keep _ _ ran
    · exact Keeps.bind (aims_modifyCtx fun _ => rfl) fun _ =>
        aims_allocate _ _ (fun _ _ => rfl) fun _ _ => rfl
    · refine Does.bind (keepsCtx_modifyCtx present fun _ => rfl) fun _ middle _ _ => ?_
      apply Keeps.does
      apply keepsCtx_allocate
      intro _ _
      rfl
  | parsed data _ ran ready =>
    apply ready.keep _ _ ran
    · exact aims_modifyCtx fun _ => rfl
    · exact keepsCtx_modifyPacket data (ready.used.ctx (List.mem_cons_self ..))
  | @dropped memory after _ ran ready =>
    have present := ready.used.ctx (List.mem_cons_self ..)
    have cleared : Wp (modifyCtx fun ctx => { ctx with packet := none })
        (fun _ after => after = memory.clear .packet) (fun _ => True) memory :=
      (wp_modifyCtx present).mpr rfl
    have aims : Aims (modifyCtx fun ctx => { ctx with packet := none }) := aims_modifyCtx fun _ => rfl
    apply ready.aims ((aims memory).ok ran)
    rw [cleared.ok ran]
    exact ready.used.clear .packet rfl (by decide)
  | decoded pass _ ran ready =>
    apply ready.keep (aims_decodeFrame _ pass true) _ ran
    exact (decodeFrame_spec libav pass ready.used).mono (fun _ _ => trivial) fun _ _ => trivial

/-! ## The geometry of a picture -/

/-- libavutil on RGB24: the rows of an image, padded to multiples of `align`. -/
structure Geometry (libav : Libav) : Prop where
  linesize : ∀ width align, libav.avImageGetLinesize .rgb24 width align =
    Int.land (3 * width + align - 1) (Int.lnot (align - 1))
  size : ∀ width height align, libav.avImageGetBufferSize .rgb24 width height align =
    height * Int.land (3 * width + align - 1) (Int.lnot (align - 1))

theorem land_lnot_zero (value : Int) : Int.land value (Int.lnot 0) = value := by
  cases value with
  | ofNat n =>
    show ((Nat.ldiff n 0 : Nat) : Int) = n
    apply congrArg Nat.cast
    apply Nat.eq_of_testBit_eq
    intro i
    simp [Nat.testBit_ldiff]
  | negSucc n =>
    show Int.negSucc (n ||| 0) = Int.negSucc n
    rw [Nat.or_zero]

theorem land_lnot_two (value : Int) :
    Int.land value (Int.lnot 2) = value - 2 * (value / 2 % 2) := by
  have mask : Int.lnot 2 = Int.bit true (Int.bit false (Int.lnot 0)) := by decide
  rw [mask, ← Int.bit_decomp value, ← Int.bit_decomp value.div2, Int.land_bit, Int.land_bit,
    land_lnot_zero]
  cases value.bodd <;> cases value.div2.bodd <;> simp [Int.bit] <;> omega

/-- `width` pixels in each of `height` rows stay within `size` bytes. -/
def RowsInside (linesize width height size : Int) : Prop :=
  ∀ row : Int, 0 ≤ row → row < height →
    0 ≤ row * linesize ∧ row * linesize + 3 * width ≤ size

/-- The first and the last row decide. -/
theorem rowsInside_iff {linesize width height size : Int} (positive : 0 < height) :
    RowsInside linesize width height size ↔
      (height = 1 ∨ 0 ≤ linesize) ∧ (height - 1) * linesize + 3 * width ≤ size := by
  constructor
  · intro inside
    refine ⟨?_, (inside (height - 1) (by omega) (by omega)).2⟩
    by_cases single : height = 1
    · exact .inl single
    · have second := (inside 1 (by omega) (by omega)).1
      rw [Int.one_mul] at second
      exact .inr second
  · intro ⟨forward, last⟩ row nonneg below
    cases forward with
    | inl single =>
      have first : row = 0 := by omega
      rw [single] at last
      rw [first]
      omega
    | inr forward =>
      have offset := Int.mul_nonneg nonneg forward
      have least : row * linesize ≤ (height - 1) * linesize :=
        Int.mul_le_mul_of_nonneg_right (by omega) forward
      omega

/-! ## Decoded pictures -/

/-- What decoding a picture should do: its pixels are written into the buffer for
pictures, and the size of a packed picture is reported, which the buffer holds. -/
structure PictureRight (before : Memory) (picture : Decoded) (after : Memory) : Prop where
  inside : ∀ data format linesize width height,
    .swsScale data format linesize width height ∈ after.writes.drop before.writes.length →
      ∃ object size, data = some object ∧
        after.ledger.acquired[object]? = some (.pixels size) ∧ RowsInside linesize width height size
  size : after.sizeOut = 3 * picture.width * picture.height
  holds : ∃ object linesize size, target after = some (some object, linesize) ∧
    after.ledger.acquired[object]? = some (.pixels size) ∧ after.sizeOut ≤ size

/-- The picture fits into the configured size as it is laid out there, and its width is
one for which three bytes are an alignment. -/
structure PictureFits (opt : WFfmpegOpt) (picture : Decoded) : Prop where
  aligned : picture.width % 4 = 0 ∨ picture.width % 4 = 3
  rows : (picture.height = 1 ∨ 0 ≤ i32.wrap opt.width) ∧
    (picture.height - 1) * i32.wrap opt.width + picture.width ≤
      i32.wrap opt.width * i32.wrap opt.height
  area : picture.width * picture.height ≤ i32.wrap opt.width * i32.wrap opt.height

/-- A picture as a decoder hands it out: its sizes are positive `int`s. -/
structure WellFormed (picture : Decoded) : Prop where
  received : 0 ≤ picture.avcodecReceiveFrame
  width : 0 < picture.width ∧ picture.width < 2 ^ 31
  height : 0 < picture.height ∧ picture.height < 2 ^ 31

/-- The answer after the last picture of a packet. -/
def noMore : Decoded := ⟨averrorEagain, 0, 0, ⟨false, 0⟩⟩

theorem WellFormed.wraps {picture : Decoded} (wellFormed : WellFormed picture) :
    i32.wrap picture.width = picture.width ∧ i32.wrap picture.height = picture.height := by
  have width := wellFormed.width
  have height := wellFormed.height
  constructor <;> apply wrap_i32_eq_iff.mpr <;> omega

theorem Geometry.pictureSize_eq_iff (geometry : Geometry libav) {picture : Decoded}
    (wellFormed : WellFormed picture) :
    pictureSize libav picture = 3 * picture.width * picture.height ↔
      picture.width % 4 = 0 ∨ picture.width % 4 = 3 := by
  have height := wellFormed.height.1
  rw [pictureSize, wellFormed.wraps.1, wellFormed.wraps.2, geometry.size,
    Int.mul_comm (3 * picture.width) picture.height, Int.mul_eq_mul_left_iff (by omega)]
  have align : (3 : Int) - 1 = 2 := rfl
  have residue : picture.width % 4 = 0 ∨ picture.width % 4 = 1 ∨ picture.width % 4 = 2 ∨
      picture.width % 4 = 3 := by omega
  rw [align, land_lnot_two]
  rcases residue with zero | one | two | three <;> omega

theorem Geometry.pictureSize_nonneg (geometry : Geometry libav) {picture : Decoded}
    (wellFormed : WellFormed picture) : 0 ≤ pictureSize libav picture := by
  have width := wellFormed.width.1
  have align : (3 : Int) - 1 = 2 := rfl
  rw [pictureSize, wellFormed.wraps.1, wellFormed.wraps.2, geometry.size, align, land_lnot_two]
  apply Int.mul_nonneg
  · exact Int.le_of_lt wellFormed.height.1
  · omega

/-- A pass goes through its pictures one by one: behind the first of them it does what a
pass of the others does. -/
theorem receiveFrames_append {pError : Bool} {ret : Int} {earlier later : List Decoded}
    {post : Int → Memory → Prop} (received : ∀ picture ∈ earlier, 0 ≤ picture.avcodecReceiveFrame)
    (shown : Wp (receiveFrames libav pError ret (earlier ++ [noMore]))
      (fun result middle => (result = ret → Wp (receiveFrames libav pError ret later) post fault middle) ∧
        (result = -1 → post (-1) middle)) fault memory) :
    Wp (receiveFrames libav pError ret (earlier ++ later)) post fault memory := by
  induction earlier generalizing memory with
  | nil => exact shown.1 rfl
  | cons picture earlier ih =>
    obtain ⟨first, received⟩ := List.forall_mem_cons.mp received
    have drained : ¬(picture.avcodecReceiveFrame = averrorEagain ∨
        picture.avcodecReceiveFrame = averrorEof) :=
      fun drained => absurd first (Int.not_le.mpr (Drained.negative drained))
    rw [List.cons_append, receiveFrames, if_neg drained, if_neg (Int.not_lt.mpr first)] at shown ⊢
    apply shown.bind_mono; intro _ _ shown
    apply shown.bind_mono; intro _ _ shown
    apply shown.bind_mono; intro _ _ shown
    apply shown.bind_mono; intro _ _ shown
    apply shown.bind_mono; intro tmpRes _ shown
    apply shown.ite_mono
    · intro _ gaveUp
      exact gaveUp.2 rfl
    intro _ shown
    apply shown.bind_mono; intro _ _ shown
    apply shown.bind_mono; intro _ _ shown
    apply shown.bind_mono; intro _ _ shown
    apply shown.ite_mono
    · intro _ gaveUp
      exact gaveUp.2 rfl
    intro _ shown
    apply shown.bind_mono
    intro _ _ shown
    exact ih received shown

/-- The last picture of a packet. -/
theorem receive_picture {picture : Decoded} {send : Int} (ready : Ready libav opt memory)
    (received : 0 ≤ picture.avcodecReceiveFrame) (handled : PictureSucceeds libav picture) :
    Wp (receiveFrames libav true send [picture, noMore])
      (fun _ after => SameTarget memory after ∧
        after.writes = memory.writes ++ pictureWrite memory picture ∧
        after.sizeOut = pictureSize libav picture) (fun _ => True) memory := by
  apply receiveFrames_picture (ready.used.fewer (by decide)) received handled
  intro middle _ same writes size _
  exact ⟨same, writes, size⟩

/-- A pass up to a picture, and then with it. -/
theorem decode_last_picture {picture : Decoded} {earlier : List Decoded} {send : Int}
    (sent : 0 ≤ send) (received : ∀ previous ∈ earlier, 0 ≤ previous.avcodecReceiveFrame)
    (begun : (wFfmpegDecodeFrame libav ⟨send, earlier ++ [noMore]⟩ true).run memory =
      .ok (send, before))
    (ready : Ready libav opt before) (isReceived : 0 ≤ picture.avcodecReceiveFrame)
    (handled : PictureSucceeds libav picture) :
    Wp (wFfmpegDecodeFrame libav ⟨send, earlier ++ [picture, noMore]⟩ true)
      (fun _ after => SameTarget before after ∧
        after.writes = before.writes ++ pictureWrite before picture ∧
        after.sizeOut = pictureSize libav picture) (fun _ => True) memory := by
  have shown : Wp (wFfmpegDecodeFrame libav ⟨send, earlier ++ [noMore]⟩ true)
      (fun result middle => result = send ∧ middle = before) (fun _ => True) memory :=
    wp_of_run begun ⟨rfl, rfl⟩
  apply shown.bind_mono; intro _ _ shown
  apply shown.bind_mono; intro _ _ shown
  apply shown.bind_mono; intro _ _ shown
  apply shown.ite_mono
  · intro negative
    exact absurd sent (Int.not_le.mpr negative)
  intro _ shown
  apply receiveFrames_append received
  apply shown.mono _ fun _ => id
  intro result middle done
  constructor
  · intro _
    rw [done.2]
    exact receive_picture ready isReceived handled
  · intro gaveUp
    have isSend := done.1
    omega

/-- The buffer is laid out without padding. -/
theorem Geometry.aimed (geometry : Geometry libav) (ready : Ready libav opt memory) :
    ∃ object, target memory = some (some object, 3 * i32.wrap opt.width) ∧
      memory.ledger.acquired[object]? =
        some (.pixels (3 * (i32.wrap opt.width * i32.wrap opt.height))) := by
  obtain ⟨object, aimed, acquired⟩ := ready.aimed
  have none : (1 : Int) - 1 = 0 := rfl
  rw [geometry.linesize, none, land_lnot_zero, Int.add_sub_cancel] at aimed
  rw [decodedPixels, geometry.size, none, land_lnot_zero, Int.add_sub_cancel, Int.mul_left_comm,
    Int.mul_comm (i32.wrap opt.height)] at acquired
  exact ⟨object, aimed, acquired⟩

/-- A picture stays within the buffer where the rows of its pixels do. -/
theorem rowsInside_packed_iff {width height rowWidth area : Int} (positive : 0 < height) :
    RowsInside (3 * rowWidth) width height (3 * area) ↔
      (height = 1 ∨ 0 ≤ rowWidth) ∧ (height - 1) * rowWidth + width ≤ area := by
  rw [rowsInside_iff positive, Int.mul_left_comm]
  constructor <;> intro ⟨forward, last⟩ <;> omega

theorem Geometry.picture_right_iff (geometry : Geometry libav) {picture : Decoded}
    (wellFormed : WellFormed picture) (ready : Ready libav opt memory)
    (same : SameTarget memory after)
    (writes : after.writes = memory.writes ++ pictureWrite memory picture)
    (size : after.sizeOut = pictureSize libav picture) :
    PictureRight memory picture after ↔ PictureFits opt picture := by
  obtain ⟨object, aimed, acquired⟩ := geometry.aimed ready
  have kept := acquired_of_grown same.acquired acquired
  have positive := wellFormed.height.1
  have written : after.writes.drop memory.writes.length =
      [.swsScale (some object) .rgb24 (3 * i32.wrap opt.width) picture.width picture.height] := by
    rw [writes, List.drop_left, pictureWrite, aimed, wellFormed.wraps.1, wellFormed.wraps.2]
    rfl
  have pixels : 3 * picture.width * picture.height = 3 * (picture.width * picture.height) :=
    Int.mul_assoc _ _ _
  constructor
  · intro right
    have sized := right.size
    rw [size] at sized
    obtain ⟨inObject, bytes, isObject, isPixels, rows⟩ :=
      right.inside (some object) .rgb24 _ _ _ (by rw [written]; exact List.mem_singleton.mpr rfl)
    cases isObject
    rw [kept] at isPixels
    cases isPixels
    obtain ⟨outObject, linesize, capacity, aims, isPixels, holds⟩ := right.holds
    rw [same.target, aimed] at aims
    cases aims
    rw [kept] at isPixels
    cases isPixels
    rw [right.size, pixels] at holds
    constructor
    · exact (geometry.pictureSize_eq_iff wellFormed).mp sized
    · exact (rowsInside_packed_iff positive).mp rows
    · omega
  · intro fits
    have sized := (geometry.pictureSize_eq_iff wellFormed).mpr fits.aligned
    have least := fits.area
    refine ⟨?_, size.trans sized, object, _, _, same.target.trans aimed, kept, ?_⟩
    · intro data format linesize width height member
      rw [written] at member
      cases List.mem_singleton.mp member
      exact ⟨object, _, rfl, kept, (rowsInside_packed_iff positive).mpr fits.rows⟩
    · rw [size, sized, pixels]
      omega

/-- For every configured size, whatever was decoded before, and every picture of any
size, whatever came before it in its packet: it is written into the buffer, and the size
that is reported is right, exactly when it fits. -/
theorem decoded_picture_iff (geometry : Geometry libav) (isDecode : opt.type = .decode)
    {picture : Decoded} {earlier : List Decoded} {send ret : Int} (sent : 0 ≤ send)
    (received : ∀ previous ∈ earlier, 0 ≤ previous.avcodecReceiveFrame)
    (wellFormed : WellFormed picture) (converts : Yuv2rgbSucceeds picture)
    (reached : DecoderReached libav opt memory)
    (begun : (wFfmpegDecodeFrame libav ⟨send, earlier ++ [noMore]⟩ true).run memory =
      .ok (send, before))
    (ran : (wFfmpegDecodeFrame libav ⟨send, earlier ++ [picture, noMore]⟩ true).run memory =
      .ok (ret, after)) :
    PictureRight before picture after ↔ PictureFits opt picture := by
  have ready := (DecoderReached.decoded _ reached begun).ready isDecode
  have handled : PictureSucceeds libav picture := ⟨converts, geometry.pictureSize_nonneg wellFormed⟩
  have decodes := decode_last_picture sent received begun ready wellFormed.received handled
  obtain ⟨same, writes, size⟩ := decodes.ok ran
  exact geometry.picture_right_iff wellFormed ready same writes size

/-- The geometry that libavutil has for packed RGB. -/
def paddedRgb : Libav :=
  ⟨fun _ width height align => height * Int.land (3 * width + align - 1) (Int.lnot (align - 1)),
    fun _ width align => Int.land (3 * width + align - 1) (Int.lnot (align - 1))⟩

theorem paddedRgb_geometry : Geometry paddedRgb := ⟨fun _ _ => rfl, fun _ _ _ => rfl⟩

def smallVideo : WFfmpegOpt := { smallPicture with type := .decode }

/-- A picture that a decoder hands out, and that is converted. -/
def squarePicture (side : Nat) : Decoded := ⟨0, side, side, ⟨true, side⟩⟩

theorem smallVideo_opens :
    DecoderReached paddedRgb smallVideo (openedDecoder paddedRgb smallVideo Memory.initial) := by
  apply DecoderReached.opened willing
  apply init_decoder_run
  · rfl
  · exact ⟨rfl, rfl, rfl, rfl⟩
  · exact ⟨rfl, rfl, rfl, rfl, Int.le_refl 0, rfl, Int.le_refl 0⟩

theorem squarePicture_converts {side : Nat} (positive : side ≠ 0) :
    Yuv2rgbSucceeds (squarePicture side) :=
  ⟨Int.natCast_ne_zero.mpr positive, Int.natCast_ne_zero.mpr positive, rfl, Int.natCast_nonneg side⟩

theorem squarePicture_wellFormed {side : Nat} (positive : side ≠ 0) (narrow : side < 2 ^ 31) :
    WellFormed (squarePicture side) := by
  refine ⟨Int.le_refl 0, ?_, ?_⟩ <;> simp only [squarePicture] <;> omega

/-- The pass of a picture that is handled comes to its end. -/
theorem picture_returns {picture : Decoded} (ready : Ready libav opt memory)
    (received : 0 ≤ picture.avcodecReceiveFrame) (handled : PictureSucceeds libav picture) :
    ∃ after, (wFfmpegDecodeFrame libav ⟨0, [picture, noMore]⟩ true).run memory = .ok (0, after) := by
  have drains : Drains (·.avcodecReceiveFrame) (PictureSucceeds libav) [picture, noMore] :=
    .inr ⟨received, handled, .inl (.inl rfl)⟩
  have succeeds : DecodePassSucceeds libav ⟨0, [picture, noMore]⟩ := ⟨Int.le_refl 0, drains⟩
  have spec := decodeFrame_spec libav ⟨0, [picture, noMore]⟩ ready.used
  obtain ⟨ret, after, ran, -, ended⟩ := Wp.ends spec fun _ unended => unended (.inr drains.ends)
  cases ended with
  | inl succeeded =>
    rw [succeeded.2] at ran
    exact ⟨after, ran⟩
  | inr failed => exact absurd succeeds failed.1

/-- A picture of the configured size. -/
theorem small_picture_right :
    ∃ after, (wFfmpegDecodeFrame paddedRgb ⟨0, [] ++ [squarePicture 64, noMore]⟩ true).run
        (openedDecoder paddedRgb smallVideo Memory.initial) = .ok (0, after) ∧
      PictureRight (openedDecoder paddedRgb smallVideo Memory.initial) (squarePicture 64) after := by
  have wellFormed : WellFormed (squarePicture 64) := squarePicture_wellFormed (by decide) (by decide)
  have converts : Yuv2rgbSucceeds (squarePicture 64) := squarePicture_converts (by decide)
  have nothing := List.forall_mem_nil fun previous : Decoded => 0 ≤ previous.avcodecReceiveFrame
  obtain ⟨after, ran⟩ := picture_returns (smallVideo_opens.ready rfl) wellFormed.received
    ⟨converts, paddedRgb_geometry.pictureSize_nonneg wellFormed⟩
  refine ⟨after, ran, ?_⟩
  refine (decoded_picture_iff paddedRgb_geometry rfl (Int.le_refl 0) nothing wellFormed converts
    smallVideo_opens rfl ran).mpr ?_
  constructor <;> decide

/-- A stream that announces a larger picture than the decoder is configured for. -/
theorem large_picture_overflows :
    ∃ after, (wFfmpegDecodeFrame paddedRgb ⟨0, [] ++ [squarePicture 128, noMore]⟩ true).run
        (openedDecoder paddedRgb smallVideo Memory.initial) = .ok (0, after) ∧
      ¬PictureRight (openedDecoder paddedRgb smallVideo Memory.initial) (squarePicture 128) after := by
  have wellFormed : WellFormed (squarePicture 128) := squarePicture_wellFormed (by decide) (by decide)
  have handled : PictureSucceeds paddedRgb (squarePicture 128) :=
    ⟨squarePicture_converts (by decide), paddedRgb_geometry.pictureSize_nonneg wellFormed⟩
  have ready := smallVideo_opens.ready rfl
  have nothing := List.forall_mem_nil fun previous : Decoded => 0 ≤ previous.avcodecReceiveFrame
  obtain ⟨after, ran⟩ := picture_returns ready wellFormed.received handled
  refine ⟨after, ran, ?_⟩
  have begun : (wFfmpegDecodeFrame paddedRgb ⟨0, [] ++ [noMore]⟩ true).run
      (openedDecoder paddedRgb smallVideo Memory.initial) =
      .ok (0, openedDecoder paddedRgb smallVideo Memory.initial) := rfl
  have decodes := decode_last_picture (Int.le_refl 0) nothing begun ready wellFormed.received handled
  obtain ⟨same, writes, size⟩ := decodes.ok ran
  intro right
  have fits := (paddedRgb_geometry.picture_right_iff wellFormed ready same writes size).mp right
  have area : ¬(128 * 128 : Int) ≤ i32.wrap smallVideo.width * i32.wrap smallVideo.height := by decide
  exact area fits.area

end WolfEngine.Verified.Ffmpeg
