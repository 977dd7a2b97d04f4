import WolfEngine.Verified.FfmpegCustody

/-! # What the ffmpeg calls return

For each function the answers of ffmpeg under which it succeeds, and that it succeeds
under no others (`…_spec`).  The specifications also say which pointers of the context
a call leaves in place.
-/

namespace WolfEngine.Verified.Ffmpeg

open Media Custody Faulting MachineInt

/-! ## When a call succeeds -/

/-- The code with which ffmpeg says that there is nothing more. -/
def Drained (code : Int) : Prop := code = averrorEagain ∨ code = averrorEof

instance (code : Int) : Decidable (Drained code) := inferInstanceAs (Decidable (_ ∨ _))

theorem Drained.negative {code : Int} (drained : Drained code) : code < 0 := by
  simp only [Drained, averrorEagain, averrorEof] at drained
  omega

/-- A loop that takes answers until there is nothing more comes to that, with every
earlier answer handled. -/
def Drains {α : Type} (code : α → Int) (handled : α → Prop) : List α → Prop
  | [] => False
  | answer :: answers =>
    Drained (code answer) ∨ 0 ≤ code answer ∧ handled answer ∧ Drains code handled answers

/-- The loop ends, one way or the other. -/
def Ends {α : Type} (code : α → Int) (handled : α → Prop) : List α → Prop
  | [] => False
  | answer :: answers =>
    Drained (code answer) ∨ code answer < 0 ∨ ¬handled answer ∨ Ends code handled answers

def Rgb2yuvSucceeds (answers : Rgb2yuvAnswers) (width height : Int) : Prop :=
  width ≠ 0 ∧ height ≠ 0 ∧ answers.swsGetContext = true ∧ answers.avMalloc = true ∧
    0 ≤ answers.avImageFillArrays ∧ 0 ≤ answers.swsScale

def EncodePassSucceeds (pass : EncodePass) : Prop :=
  0 ≤ pass.avcodecSendFrame ∧ Drains Prod.fst (fun _ => True) pass.avcodecReceivePacket

def EncodeSucceeds (opt : WFfmpegOpt) (call : EncodeCall) : Prop :=
  Rgb2yuvSucceeds call.conversion opt.width opt.height ∧ call.calloc = true ∧
    EncodePassSucceeds call.frame ∧ EncodePassSucceeds call.flush

/-- A received picture is converted. -/
def Yuv2rgbSucceeds (answer : Decoded) : Prop :=
  answer.width ≠ 0 ∧ answer.height ≠ 0 ∧ answer.conversion.swsGetContext = true ∧
    0 ≤ answer.conversion.swsScale

/-- A received picture is converted, and its size is known. -/
def PictureSucceeds (libav : Libav) (answer : Decoded) : Prop :=
  Yuv2rgbSucceeds answer ∧
    0 ≤ libav.avImageGetBufferSize .rgb24 (i32.wrap answer.width) (i32.wrap answer.height) 3

def DecodePassSucceeds (libav : Libav) (pass : DecodePass) : Prop :=
  0 ≤ pass.avcodecSendPacket ∧ Drains (·.avcodecReceiveFrame) (PictureSucceeds libav) pass.received

def DecodePassEnds (libav : Libav) (pass : DecodePass) : Prop :=
  pass.avcodecSendPacket < 0 ∨ Ends (·.avcodecReceiveFrame) (PictureSucceeds libav) pass.received

/-- The parser comes to the end of an input of `size` bytes; a packet may fail. -/
def Parses (libav : Libav) : List Parsed → (size : Int) → Prop
  | [], _ => False
  | answer :: answers, size =>
    0 ≤ answer.avParserParse2 ∧ (answer.packet ≠ [] → DecodePassEnds libav answer.pass) ∧
      (size - answer.avParserParse2 ≤ 0 ∨ Parses libav answers (size - answer.avParserParse2))

def DecodeSucceeds (libav : Libav) (call : DecodeCall) : Prop :=
  call.calloc = true ∧ Parses libav call.parsed call.dataSize ∧
    DecodePassSucceeds libav call.flush ∧ call.flush.avcodecSendPacket = 0

def ContextOpens (pError : Bool) (answers : InitAnswers) : Prop :=
  pError = true ∧ answers.calloc = true ∧ answers.avPacketAlloc = true ∧ answers.avFrameAlloc = true

def EncoderOpens (opt : WFfmpegOpt) (answers : EncoderAnswers) : Prop :=
  answers.avcodecFindEncoder = true ∧ answers.avcodecAllocContext3 = true ∧
    (opt.codecId = avCodecIdH264 → 0 ≤ answers.avOptSet) ∧ 0 ≤ answers.avcodecOpen2

def DecoderOpens (answers : DecoderAnswers) : Prop :=
  answers.avcodecFindDecoder = true ∧ answers.avcodecAllocContext3 = true ∧
    answers.avFrameAlloc = true ∧ answers.avMalloc = true ∧ 0 ≤ answers.avImageFillArrays ∧
    answers.avParserInit = true ∧ 0 ≤ answers.avcodecOpen2

def InitSucceeds (opt : WFfmpegOpt) (pError : Bool) (answers : InitAnswers) : Prop :=
  ContextOpens pError answers ∧
    match opt.type with
    | .encode => EncoderOpens opt answers.encoder
    | .decode => DecoderOpens answers.decoder
    | .unknown => False

theorem Drains.ends {α : Type} {code : α → Int} {handled : α → Prop} {answers : List α}
    (drains : Drains code handled answers) : Ends code handled answers := by
  induction answers with
  | nil => exact drains
  | cons answer answers ih =>
    rcases drains with drained | ⟨_, _, rest⟩
    · exact .inl drained
    · exact .inr (.inr (.inr (ih rest)))

/-! ## The pointers of the context -/

variable {before after memory : Memory} {fault : Fault → Prop}

/-- The context and the objects in it are the same. -/
def SameCtx (before after : Memory) : Prop := after.ctx.map skeleton = before.ctx.map skeleton

/-- The pointers to a context and to the objects in it, by their variables. -/
def Skeleton.pointer (found : Skeleton) : Slot → Option Nat
  | .ctx => some found.object
  | .packet => found.packet
  | .context => found.context
  | .yuvFrame => found.yuvFrame
  | .rgbFrame => found.rgbFrame
  | .parser => found.parser
  | .opt | .frameBufferOut | .dataOut => none

theorem pointer_eq_skeleton {slot : Slot} (inCtx : slot.inCtx = true ∨ slot = .ctx) :
    memory.pointer slot = (memory.ctx.map skeleton).bind fun found => found.pointer slot := by
  unfold Memory.pointer
  cases slot with
  | opt | frameBufferOut | dataOut => simp [Slot.inCtx] at inCtx
  | _ => cases memory.ctx <;> rfl

theorem SameCtx.pointer (same : SameCtx before after) {slot : Slot}
    (inCtx : slot.inCtx = true ∨ slot = .ctx) : after.pointer slot = before.pointer slot := by
  rw [pointer_eq_skeleton inCtx, pointer_eq_skeleton inCtx, same]

theorem pointer_of_closed (closed : memory.ctx = none) {slot : Slot} (inCtx : slot.inCtx = true) :
    memory.pointer slot = none := by
  rw [pointer_eq_skeleton (.inl inCtx), closed]
  rfl

theorem sameCtx_mapCtx {change : WFfmpegCtx → WFfmpegCtx}
    (same : ∀ ctx, skeleton (change ctx) = skeleton ctx) : SameCtx memory (memory.mapCtx change) := by
  unfold SameCtx Memory.mapCtx
  rw [Option.map_map]
  exact congrArg (memory.ctx.map ·) (funext same)

/-- The variables, all fields of the context, are not null. -/
def Opened (slots : List Slot) (memory : Memory) : Prop :=
  ∀ slot ∈ slots, slot.inCtx = true ∧ memory.pointer slot ≠ none

theorem Opened.ctx {slots : List Slot} (opened : Opened slots memory) {slot : Slot}
    (member : slot ∈ slots) : memory.ctx ≠ none := by
  obtain ⟨inCtx, present⟩ := opened slot member
  intro closed
  exact present (pointer_of_closed closed inCtx)

theorem SameCtx.present (same : SameCtx before after) (present : before.ctx ≠ none) :
    after.ctx ≠ none := by
  intro closed
  unfold SameCtx at same
  rw [closed] at same
  exact present (Option.map_eq_none_iff.mp same.symm)

theorem SameCtx.opened (same : SameCtx before after) {slots : List Slot}
    (opened : Opened slots before) : Opened slots after := fun slot member =>
  have ⟨inCtx, present⟩ := opened slot member
  ⟨inCtx, same.pointer (.inl inCtx) ▸ present⟩

theorem pointer_clear (slot : Slot) : (memory.clear slot).pointer slot = none := by
  rcases memory with ⟨_ | ctx⟩ <;> cases slot <;> rfl

theorem Opened.clear {slots : List Slot} (opened : Opened slots memory) (slot : Slot)
    (inCtx : slot.inCtx = true) (other : slot ∉ slots) : Opened slots (memory.clear slot) := by
  intro kept member
  obtain ⟨keptInCtx, present⟩ := opened kept member
  have different : kept ≠ slot := fun same => other (same ▸ member)
  refine ⟨keptInCtx, ?_⟩
  rcases memory with ⟨_ | ctx⟩
  · exact absurd rfl (opened.ctx member)
  · cases slot <;> cases kept <;> first | exact present | exact absurd rfl different | cases inCtx

theorem Opened.fewer {slots fewer : List Slot} (opened : Opened slots memory) (subset : fewer ⊆ slots) :
    Opened fewer memory := fun slot member => opened slot (subset member)

instance : Std.Refl SameCtx := ⟨fun _ => rfl⟩

instance : IsTrans Memory SameCtx := ⟨fun _ _ _ first second => Eq.trans second first⟩

abbrev KeepsCtx {α : Type} (fault : Fault → Prop) (op : Op α) : Prop := Keeps SameCtx fault op

theorem keepsCtx_modify {change : Memory → Memory} (same : ∀ memory, (change memory).ctx = memory.ctx) :
    KeepsCtx fault (modify change) :=
  Keeps.modify fun memory => congrArg (Option.map skeleton) (same memory)

theorem keepsCtx_mapCtx {change : Memory → WFfmpegCtx → WFfmpegCtx}
    (same : ∀ memory ctx, skeleton (change memory ctx) = skeleton ctx) :
    KeepsCtx fault (modify fun memory => memory.mapCtx (change memory) : Op Unit) :=
  Keeps.modify fun memory => sameCtx_mapCtx (same memory)

theorem keepsCtx_allocate (kind : Kind) (grant : Bool) {store : Option Nat → Memory → Memory}
    (same : ∀ pointer memory, (store pointer memory).ctx = memory.ctx) :
    KeepsCtx fault (allocate kind grant store) :=
  keepsCtx_modify fun memory => by cases grant <;> exact same _ memory

theorem keepsCtx_makeError (trace errorMsg : String) (errorCode : Int) :
    KeepsCtx fault (makeError trace errorMsg errorCode) := keepsCtx_modify fun _ => rfl

theorem wp_deref {α : Type} {value : Option α} {content : α} (isSome : value = some content)
    {post : α → Memory → Prop} :
    Wp (deref value) post fault memory ↔ post content memory := by
  rw [isSome]
  exact Iff.rfl

/-- Where a null pointer is no concern, only what it points to is. -/
theorem wp_deref_of {α : Type} {value : Option α} {post : α → Memory → Prop}
    (content : ∀ found, value = some found → post found memory) :
    Wp (deref value) post (fun _ => True) memory := by
  cases value with
  | none => exact trivial
  | some found => exact content found rfl

theorem does_deref {α β : Type} {R : Memory → Memory → Prop} {last : β → Prop} {value : Option α}
    {next : α → Op β} (isSome : value ≠ none)
    (second : ∀ content, value = some content → Does R last fault (next content) memory) :
    Does R last fault (deref value >>= next) memory := by
  cases value with
  | none => exact absurd rfl isSome
  | some content => exact second content rfl

/-! ## Conversion -/

theorem leaveRgb2yuv_spec (ret : Int) : Does SameCtx (· = ret) fault (leaveRgb2yuv ret) memory := by
  have leave (memory : Memory) : Does SameCtx (· = ret) fault (do
      modify fun memory : Memory => { memory with frameBufferIn := none }
      return ret : Op Int) memory :=
    Does.step (keepsCtx_modify fun _ => rfl) fun _ _ _ => Does.pure rfl
  refine Does.step (keepsCtx_modify fun _ => rfl) fun _ _ _ => Does.ite (fun _ => ?_) fun _ => leave _
  exact Does.step (keepsCtx_modify fun _ => rfl) fun _ _ _ => leave _

/-- A function fails with `-1` exactly when it does not succeed. -/
def Reports (succeeds : Prop) (ret : Int) : Prop := succeeds ∧ 0 ≤ ret ∨ ¬succeeds ∧ ret = -1

theorem Reports.failed {succeeds : Prop} {ret : Int} (reports : Reports succeeds ret) (failed : ret < 0) :
    ¬succeeds := by
  rcases reports with ⟨_, nonneg⟩ | ⟨unmet, _⟩
  · exact absurd nonneg (Int.not_le.mpr failed)
  · exact unmet

theorem Reports.passed {succeeds : Prop} {ret : Int} (reports : Reports succeeds ret)
    (passed : ¬ret < 0) : succeeds := by
  rcases reports with ⟨met, _⟩ | ⟨_, rfl⟩
  · exact met
  · exact absurd (by decide) passed

theorem rgb2yuv_spec (libav : Libav) (answers : Rgb2yuvAnswers) (width height : Int)
    (frame : memory.pointer .yuvFrame ≠ none) :
    Does SameCtx (Reports (Rgb2yuvSucceeds answers width height)) fault
      (rgb2yuv libav answers true width height true) memory := by
  have isCtx : memory.ctx ≠ none := fun isNone => frame (by simp [Memory.pointer, isNone])
  refine Does.get (does_deref isCtx fun ctx isCtx => Does.ite (fun refused => ?_) fun accepted => ?_)
  · have frame : ctx.yuvFrame ≠ none := by simpa [Memory.pointer, isCtx] using frame
    refine Does.pure (.inr ⟨fun converts => ?_, rfl⟩)
    simp [converts.1, converts.2.1, frame] at refused
  have fail (unmet : ¬Rgb2yuvSucceeds answers width height) (memory : Memory) :
      Does SameCtx (Reports (Rgb2yuvSucceeds answers width height)) fault (leaveRgb2yuv (-1)) memory :=
    (leaveRgb2yuv_spec (-1)).mono (fun _ is => .inr ⟨unmet, is⟩) fun _ => id
  refine Does.step (keepsCtx_allocate _ _ fun _ _ => rfl) fun _ _ _ => ?_
  refine Does.ite (fun refused => fail (fun converts => ?_) _) fun context => ?_
  · simp [converts.2.2.1] at refused
  refine Does.step (keepsCtx_allocate _ _ fun _ _ => rfl) fun _ _ _ => ?_
  refine Does.ite (fun refused => fail (fun converts => ?_) _) fun buffer => ?_
  · simp [converts.2.2.2.1] at refused
  refine Does.ite (fun negative => fail (fun converts => ?_) _) fun filled => ?_
  · exact Int.not_le.mpr negative converts.2.2.2.2.1
  refine Does.step (keepsCtx_mapCtx fun _ => skeleton_mapYuvFrame fun _ => rfl) fun _ _ _ => ?_
  refine Does.ite (fun negative => fail (fun converts => ?_) _) fun scaled => ?_
  · exact Int.not_le.mpr negative converts.2.2.2.2.2
  refine Does.step (keepsCtx_modify fun _ => rfl) fun _ _ _ => ?_
  refine Does.step (keepsCtx_mapCtx fun _ => skeleton_mapYuvFrame fun _ => rfl) fun _ _ _ => ?_
  refine (leaveRgb2yuv_spec 0).mono (fun ret is => .inl ⟨?_, is ▸ Int.le_refl 0⟩) fun _ => id
  simp only [not_or, Bool.not_eq_false, Int.not_lt] at accepted context buffer filled scaled
  exact ⟨accepted.2.1, accepted.2.2.1, context, buffer, filled, scaled⟩

/-! ## Encoding -/

/-- Encoding a frame also leaves the output buffer where it is. -/
def SameOut (before after : Memory) : Prop :=
  SameCtx before after ∧ after.dataOut = before.dataOut

instance : Std.Refl SameOut := ⟨fun _ => ⟨rfl, rfl⟩⟩

instance : IsTrans Memory SameOut :=
  ⟨fun _ _ _ first second => ⟨IsTrans.trans _ _ _ first.1 second.1, second.2.trans first.2⟩⟩

theorem keepsOut_makeError (trace errorMsg : String) (errorCode : Int) :
    Keeps SameOut fault (makeError trace errorMsg errorCode) := Keeps.modify fun _ => ⟨rfl, rfl⟩

theorem receivePackets_spec (ret : Int) (answers : List (Int × List UInt8)) (index : Int)
    (buffer : memory.dataOut ≠ none) (sent : 0 ≤ ret) :
    Does SameOut (fun result => Reports (Drains Prod.fst (fun _ => True) answers) result.1)
      (fun _ => ¬Drains Prod.fst (fun _ => True) answers) (receivePackets ret answers index) memory := by
  induction answers generalizing index memory with
  | nil => exact Does.throw id
  | cons answer answers ih =>
    refine Does.ite (fun drained => ?_) fun more => Does.ite (fun negative => ?_) fun taken => ?_
    · exact Does.pure (.inl ⟨.inl drained, sent⟩)
    · refine Does.step (keepsOut_makeError _ _ _) fun _ _ _ => Does.pure (.inr ⟨?_, rfl⟩)
      rintro (drained | ⟨nonneg, -⟩)
      · exact more drained
      · exact Int.not_le.mpr negative nonneg
    · have same : Drains Prod.fst (fun _ => True) (answer :: answers) ↔
          Drains Prod.fst (fun _ => True) answers := by
        refine ⟨?_, fun rest => .inr ⟨Int.not_lt.mp taken, trivial, rest⟩⟩
        rintro (drained | ⟨-, -, rest⟩)
        · exact absurd drained more
        · exact rest
      rw [same]
      refine Does.get (does_deref buffer fun _ _ => ?_)
      refine Does.step (Keeps.modify fun _ => ⟨rfl, rfl⟩) fun _ middle kept => ih _ ?_
      rw [kept.2]
      exact buffer

theorem encodeFrame_spec (pass : EncodePass) (index : Int)
    (packet : memory.pointer .packet ≠ none) (context : memory.pointer .context ≠ none)
    (buffer : memory.dataOut ≠ none) :
    Does SameOut (fun result => Reports (EncodePassSucceeds pass) result.1)
      (fun _ => ¬EncodePassSucceeds pass) (wFfmpegEncodeFrame pass index true) memory := by
  rcases isCtx : memory.ctx with _ | ctx
  · simp [Memory.pointer, isCtx] at packet
  have hasPacket : ctx.packet ≠ none := by simpa [Memory.pointer, isCtx] using packet
  have hasContext : ctx.context ≠ none := by simpa [Memory.pointer, isCtx] using context
  refine Does.get (Does.ite (fun refused => ?_) fun _ => ?_)
  · simp [isCtx] at refused
  refine does_deref (by simp [isCtx]) fun found isFound => ?_
  obtain rfl : ctx = found := Option.some.inj (isCtx.symm.trans isFound)
  refine does_deref hasPacket fun _ _ => ?_
  have unref : Does SameOut (fun _ => True) (fun _ => ¬EncodePassSucceeds pass)
      (modifyCtx fun ctx =>
        { ctx with packet := ctx.packet.map fun packet => { packet with data := [] } }) memory :=
    Does.get (does_deref (by simp [isCtx]) fun _ _ =>
      (Keeps.modify fun _ => ⟨sameCtx_mapCtx (skeleton_mapPacket []), rfl⟩ : Keeps SameOut _ _).does _)
  refine Does.bind unref fun _ middle kept _ => does_deref hasContext fun _ _ => ?_
  refine Does.ite (fun negative => ?_) fun sent => ?_
  · refine Does.step (keepsOut_makeError _ _ _) fun _ _ _ => Does.pure (.inr ⟨?_, rfl⟩)
    exact fun succeeds => Int.not_le.mpr negative succeeds.1
  · have sent := Int.not_lt.mp sent
    have same : EncodePassSucceeds pass ↔
        Drains Prod.fst (fun _ => True) pass.avcodecReceivePacket := and_iff_right sent
    rw [same]
    exact receivePackets_spec _ _ _ (kept.2 ▸ buffer) sent

/-! ## A failed call -/

theorem checkNull_ctx (present : memory.ctx ≠ none) {slot : Slot} {post : Bool → Memory → Prop} :
    Wp (checkNull slot) post fault memory ↔
      post (slot != .opt && (memory.pointer slot).isNone) memory := by
  simp only [checkNull, wp_bind, wp_get, wp_ite, wp_throw, wp_pure, present, and_false, not_false_eq_true,
    false_implies, true_implies, true_and]

theorem clear_present {slot : Slot} (notCtx : slot ≠ .ctx) (present : memory.ctx ≠ none) :
    (memory.clear slot).ctx ≠ none := by
  cases slot with
  | ctx => exact absurd rfl notCtx
  | opt | frameBufferOut | dataOut => exact present
  | _ => simpa [Memory.clear, Memory.mapCtx] using present

theorem freeLink_keepsCtx {link : Link} (notCtx : link.2 ≠ .ctx) (present : memory.ctx ≠ none) :
    Wp (freeLink (some link)) (fun _ after => after.ctx ≠ none) fault memory := by
  have released : (memory.release (memory.pointer link.2)).ctx ≠ none := present
  have frees := clear_present notCtx released
  rcases link with ⟨_ | _ | _ | _ | _ | _, slot⟩
  · exact present
  all_goals exact frees

theorem cleanup_ctxChain (type : WFfmpegType) {slot : Slot} (inCtx : slot.inCtx = true)
    (present : memory.ctx ≠ none) :
    Wp (cleanupChain (ctxChain type slot)) (fun _ after => after.ctx ≠ none) fault memory := by
  have notCtx : slot ≠ .ctx := by rintro rfl; cases inCtx
  obtain ⟨ctx, isCtx⟩ := Option.ne_none_iff_exists'.mp present
  simp only [cleanupChain, ctxChain, lastLink, wp_bind, wp_ite, wp_pure, checkNull_ctx present]
  refine ⟨fun null => ?_, fun _ => ⟨fun null => ?_, fun _ => ⟨fun _ => present, fun _ => ?_⟩⟩⟩
  · cases null
  · simp [Memory.pointer, isCtx] at null
  · exact freeLink_keepsCtx notCtx present

theorem cleanup_dataOut (present : memory.ctx ≠ none) :
    Wp (cleanupChain [(.data, .dataOut)]) (fun _ after => after.ctx ≠ none) fault memory := by
  simp only [cleanupChain, lastLink, wp_bind, wp_ite, wp_pure, checkNull_ctx present]
  exact ⟨fun _ => present, fun _ => freeLink_keepsCtx nofun present⟩

theorem cleanup_ctx (present : memory.ctx ≠ none) :
    Wp (cleanupChain [(.data, .opt), (.data, .ctx)]) (fun _ after => after.ctx = none) fault memory := by
  obtain ⟨ctx, isCtx⟩ := Option.ne_none_iff_exists'.mp present
  simp only [cleanupChain, lastLink, wp_bind, wp_ite, wp_pure, checkNull_ctx present]
  refine ⟨fun null => ?_, fun _ => ⟨fun null => ?_, fun _ => rfl⟩⟩
  · cases null
  · simp [Memory.pointer, isCtx] at null

/-- A call that returns `-1` past its first check closes the context. -/
theorem failCall_spec (present : memory.ctx ≠ none) :
    Wp (finalAction callTable (-1)) (fun ret after => ret = -1 ∧ after.ctx = none) fault memory := by
  have closes : Wp (cleanup callTable) (fun _ after => after.ctx = none) fault memory := by
    refine wp_bind.mpr ((cleanup_ctxChain _ rfl present).mono (fun _ _ present => ?_) fun _ => id)
    refine wp_bind.mpr ((cleanup_ctxChain _ rfl present).mono (fun _ _ present => ?_) fun _ => id)
    refine wp_bind.mpr ((cleanup_ctxChain _ rfl present).mono (fun _ _ present => ?_) fun _ => id)
    refine wp_bind.mpr ((cleanup_ctxChain _ rfl present).mono (fun _ _ present => ?_) fun _ => id)
    refine wp_bind.mpr ((cleanup_dataOut present).mono (fun _ _ present => ?_) fun _ => id)
    exact wp_bind.mpr ((cleanup_ctx present).mono (fun _ _ closed => closed) fun _ => id)
  exact wp_bind.mpr (closes.mono (fun _ _ closed => ⟨rfl, closed⟩) fun _ => id)

theorem keepsCtx_modifyCtx {change : WFfmpegCtx → WFfmpegCtx} (present : memory.ctx ≠ none)
    (same : ∀ ctx, skeleton (change ctx) = skeleton ctx) :
    Does SameCtx (fun _ => True) fault (modifyCtx change) memory :=
  Does.get (does_deref present fun _ _ => (keepsCtx_mapCtx fun _ => same).does memory)

theorem wp_modifyCtx {change : WFfmpegCtx → WFfmpegCtx} {post : Unit → Memory → Prop}
    (present : memory.ctx ≠ none) :
    Wp (modifyCtx change) post fault memory ↔ post () (memory.mapCtx change) := by
  obtain ⟨ctx, isCtx⟩ := Option.ne_none_iff_exists'.mp present
  simp only [modifyCtx, wp_bind, wp_get, wp_deref isCtx, wp_modify]

theorem allocateOutput_spec (kind : Kind) (grant : Bool) :
    Wp (allocate kind grant fun pointer memory => { memory with dataOut := pointer })
      (fun _ after => SameCtx memory after ∧ (grant = true → after.dataOut ≠ none)) fault memory := by
  cases grant with
  | false => exact ⟨rfl, fun granted => nomatch granted⟩
  | true => exact ⟨rfl, fun _ => Option.some_ne_none _⟩

theorem encode_spec (libav : Libav) (opt : WFfmpegOpt) (call : EncodeCall)
    (dataIn : call.dataIn = true) (pError : call.pError = true)
    (opened : Opened [.packet, .context, .yuvFrame] memory) :
    Wp (wFfmpegEncode libav opt call)
      (fun ret after =>
        EncodeSucceeds opt call ∧ ret = 0 ∧ after.pointer .yuvFrame = none ∨
          ¬EncodeSucceeds opt call ∧ ret = -1 ∧ after.ctx = none)
      (fun _ => ¬EncodeSucceeds opt call) memory := by
  have fail {memory : Memory} (present : memory.ctx ≠ none) (unmet : ¬EncodeSucceeds opt call) :
      Wp (finalAction callTable (-1))
        (fun ret after =>
          EncodeSucceeds opt call ∧ ret = 0 ∧ after.pointer .yuvFrame = none ∨
            ¬EncodeSucceeds opt call ∧ ret = -1 ∧ after.ctx = none)
        (fun _ => ¬EncodeSucceeds opt call) memory :=
    (failCall_spec present).mono (fun _ _ failed => .inr ⟨unmet, failed⟩) fun _ => id
  have present := opened.ctx (List.mem_cons_self ..)
  refine wp_bind.mpr (wp_get.mpr ((wp_ite _ _ _).mpr ⟨fun refused => ?_, fun _ => ?_⟩))
  · simp [present, dataIn, pError] at refused
  refine Keeps.next (keepsCtx_modify fun _ => rfl) fun _ _ same => ?_
  have opened := SameCtx.opened same opened
  refine Does.next (keepsCtx_modifyCtx (opened.ctx (List.mem_cons_self ..)) fun _ => rfl) (fun _ => id)
    fun _ _ same _ => ?_
  have opened := SameCtx.opened same opened
  rw [dataIn, pError]
  refine Does.next (rgb2yuv_spec libav call.conversion opt.width opt.height (opened .yuvFrame (by simp)).2)
    (fun _ => id) fun ret _ same converted => ?_
  have opened := SameCtx.opened same opened
  have present := opened.ctx (List.mem_cons_self ..)
  refine (wp_ite _ _ _).mpr ⟨fun failed => fail present fun succeeds => ?_, fun passed => ?_⟩
  · exact converted.failed failed succeeds.1
  have converts := converted.passed passed
  refine wp_bind.mpr ((allocateOutput_spec _ _).mono (fun _ _ ⟨same, granted⟩ => ?_) fun _ => id)
  have opened := SameCtx.opened same opened
  have present := opened.ctx (List.mem_cons_self ..)
  refine (wp_ite _ _ _).mpr ⟨fun refused => ?_, fun calloc => ?_⟩
  · refine Keeps.next (keepsCtx_makeError _ _ _) fun _ _ same => ?_
    refine fail ((SameCtx.opened same opened).ctx (List.mem_cons_self ..)) fun succeeds => ?_
    simp [succeeds.2.1] at refused
  have calloc := Bool.not_eq_false _ ▸ calloc
  refine Does.next (encodeFrame_spec _ _ (opened .packet (by simp)).2 (opened .context (by simp)).2
    (granted calloc)) (fun _ unmet succeeds => unmet succeeds.2.2.1) fun _ _ same encoded => ?_
  have buffer := same.2 ▸ granted calloc
  have opened := SameCtx.opened same.1 opened
  have present := opened.ctx (List.mem_cons_self ..)
  refine (wp_ite _ _ _).mpr ⟨fun failed => fail present fun succeeds => ?_, fun passed => ?_⟩
  · exact encoded.failed failed succeeds.2.2.1
  have frame := encoded.passed passed
  refine wp_bind.mpr ((wp_modifyCtx present).mpr ?_)
  have others : Opened [.packet, .context] _ := opened.fewer (by decide)
  have opened := others.clear .yuvFrame rfl (by decide)
  refine Does.next (encodeFrame_spec _ _ (opened .packet (by simp)).2 (opened .context (by simp)).2 buffer)
    (fun _ unmet succeeds => unmet succeeds.2.2.2) fun _ _ same flushed => ?_
  have present := (SameCtx.opened same.1 opened).ctx (List.mem_cons_self ..)
  refine (wp_ite _ _ _).mpr ⟨fun failed => fail present fun succeeds => ?_, fun passed => ?_⟩
  · exact flushed.failed failed succeeds.2.2.2
  · exact .inl ⟨⟨converts, calloc, frame, flushed.passed passed⟩, rfl,
      (same.1.pointer (.inl rfl)).trans (pointer_clear .yuvFrame)⟩

/-! ## Decoding -/

/-- The frame that a conversion leaves has the picture's format and size. -/
def Pictured (memory : Memory) (width height : Int) : Prop :=
  ∃ frame, memory.ctx.bind (·.rgbFrame) = some frame ∧ frame.format = .rgb24 ∧
    frame.width = i32.wrap width ∧ frame.height = i32.wrap height

theorem pictured_mapRgbFrame (width height : Int) (present : memory.pointer .rgbFrame ≠ none) :
    Pictured (memory.mapRgbFrame fun frame =>
      { frame with width := i32.wrap width, height := i32.wrap height, format := .rgb24 })
      width height := by
  rcases isCtx : memory.ctx with _ | ctx
  · simp [Memory.pointer, isCtx] at present
  rcases isFrame : ctx.rgbFrame with _ | frame
  · simp [Memory.pointer, isCtx, isFrame] at present
  · refine ⟨{ frame with width := i32.wrap width, height := i32.wrap height, format := .rgb24 }, ?_,
      rfl, rfl, rfl⟩
    simp [Memory.mapRgbFrame, Memory.mapCtx, isCtx, isFrame]

theorem yuv2rgb_spec (answer : Decoded) (opened : Opened [.yuvFrame, .rgbFrame] memory) :
    Wp (yuv2rgb answer.conversion answer.width answer.height true)
      (fun ret after => SameCtx memory after ∧
        (Yuv2rgbSucceeds answer ∧ 0 ≤ ret ∧ Pictured after answer.width answer.height ∨
          ¬Yuv2rgbSucceeds answer ∧ ret = -1))
      fault memory := by
  obtain ⟨ctx, isCtx⟩ := Option.ne_none_iff_exists'.mp (opened.ctx (List.mem_cons_self ..))
  have yuvFrame : ctx.yuvFrame ≠ none := by
    simpa [Memory.pointer, isCtx] using (opened .yuvFrame (by simp)).2
  have rgbFrame : ctx.rgbFrame ≠ none := by
    simpa [Memory.pointer, isCtx] using (opened .rgbFrame (by simp)).2
  refine wp_bind.mpr (wp_get.mpr (wp_bind.mpr ((wp_deref isCtx).mpr ?_)))
  refine (wp_ite _ _ _).mpr ⟨fun refused => ?_, fun accepted => ?_⟩
  · refine ⟨rfl, .inr ⟨fun succeeds => ?_, rfl⟩⟩
    simp [succeeds.1, succeeds.2.1, yuvFrame, rgbFrame] at refused
  refine Keeps.next (keepsCtx_allocate _ _ fun _ _ => rfl) fun _ middle same => ?_
  refine (wp_ite _ _ _).mpr ⟨fun refused => ⟨same, .inr ⟨fun succeeds => ?_, rfl⟩⟩, fun context => ?_⟩
  · simp [succeeds.2.2.1] at refused
  refine (wp_ite _ _ _).mpr ⟨fun negative => ⟨same, .inr ⟨fun succeeds => ?_, rfl⟩⟩, fun scaled => ?_⟩
  · exact Int.not_le.mpr negative succeeds.2.2.2
  have present := (SameCtx.opened same opened .rgbFrame (by simp)).2
  refine ⟨IsTrans.trans _ middle _ same (sameCtx_mapCtx (skeleton_mapRgbFrame (fun _ => rfl) fun _ => rfl)),
    .inl ⟨?_, Int.not_lt.mp scaled, pictured_mapRgbFrame _ _ present⟩⟩
  simp only [not_or, Bool.not_eq_false, Int.not_lt] at accepted context scaled
  exact ⟨accepted.1, accepted.2.1, context, scaled⟩

/-- Frames are received until there are no more, each one converted. -/
abbrev Delivers (libav : Libav) (answers : List Decoded) : Prop :=
  Drains (·.avcodecReceiveFrame) (PictureSucceeds libav) answers

/-- Receiving frames ends, well or not. -/
abbrev Stops (libav : Libav) (answers : List Decoded) : Prop :=
  Ends (·.avcodecReceiveFrame) (PictureSucceeds libav) answers

theorem receiveFrames_spec (libav : Libav) (ret : Int) (answers : List Decoded)
    (opened : Opened [.yuvFrame, .rgbFrame] memory) :
    Does SameCtx
      (fun result => Delivers libav answers ∧ result = ret ∨
        ¬Delivers libav answers ∧ Stops libav answers ∧ result = -1)
      (fun _ => ¬Stops libav answers) (receiveFrames libav true ret answers) memory := by
  induction answers generalizing memory with
  | nil => exact Does.throw id
  | cons answer answers ih =>
    refine Does.ite (fun drained => ?_) fun more => Does.ite (fun negative => ?_) fun taken => ?_
    · exact Does.pure (.inl ⟨.inl drained, rfl⟩)
    · refine Does.step (keepsCtx_makeError _ _ _) fun _ _ _ =>
        Does.pure (.inr ⟨?_, .inr (.inl negative), rfl⟩)
      rintro (drained | ⟨nonneg, -⟩)
      · exact more drained
      · exact Int.not_le.mpr negative nonneg
    have unhandled (unmet : ¬PictureSucceeds libav answer) : ¬Delivers libav (answer :: answers) := by
      rintro (drained | ⟨-, handled, -⟩)
      · exact more drained
      · exact unmet handled
    have fail (memory : Memory) (errorMsg : String) (code : Int) (unmet : ¬PictureSucceeds libav answer) :
        Does SameCtx
          (fun result => Delivers libav (answer :: answers) ∧ result = ret ∨
            ¬Delivers libav (answer :: answers) ∧ Stops libav (answer :: answers) ∧ result = -1)
          (fun _ => ¬Stops libav (answer :: answers))
          (do makeError "ffmpeg::w_ffmpeg_decode_frame" errorMsg code; return -1) memory :=
      Does.step (keepsCtx_makeError _ _ _) fun _ _ _ =>
        Does.pure (.inr ⟨unhandled unmet, .inr (.inr (.inl unmet)), rfl⟩)
    have yuvFrame := (opened .yuvFrame (by simp)).2
    refine Does.get (does_deref (opened.ctx (List.mem_cons_self ..)) fun ctx isCtx => ?_)
    refine does_deref (by simpa [Memory.pointer, isCtx] using yuvFrame) fun _ _ => ?_
    refine Does.step (keepsCtx_mapCtx fun _ => skeleton_mapYuvFrame fun _ => rfl) fun _ _ same => ?_
    have opened := SameCtx.opened same opened
    refine Does.bind (yuv2rgb_spec answer opened) fun tmpRes middle same converted => ?_
    have opened := SameCtx.opened same opened
    refine Does.ite (fun failed => fail _ _ _ ?_) fun passed => ?_
    · rintro ⟨succeeds, -⟩
      rcases converted with ⟨_, nonneg, _⟩ | ⟨unmet, _⟩
      · exact Int.not_le.mpr failed nonneg
      · exact unmet succeeds
    rcases converted with ⟨succeeds, _, frame, isFrame, format, width, height⟩ | ⟨_, rfl⟩
    · refine Does.modify rfl (Does.get (does_deref (isFrame ▸ Option.some_ne_none frame) ?_))
      intro found isFound
      obtain rfl : frame = found := Option.some.inj (isFrame.symm.trans isFound)
      rw [format, width, height]
      refine Does.ite (fun negative => fail _ _ _ ?_) fun sized => ?_
      · exact fun handled => Int.not_le.mpr negative handled.2
      have handled : PictureSucceeds libav answer := ⟨succeeds, Int.not_lt.mp sized⟩
      refine Does.modify rfl ((ih (SameCtx.opened ?_ opened)).mono ?_ ?_)
      · exact rfl
      · rintro result (⟨rest, is⟩ | ⟨undelivered, stops, is⟩)
        · exact .inl ⟨.inr ⟨Int.not_lt.mp taken, handled, rest⟩, is⟩
        · refine .inr ⟨?_, .inr (.inr (.inr stops)), is⟩
          rintro (drained | ⟨-, -, rest⟩)
          · exact more drained
          · exact undelivered rest
      · rintro _ unfinished (drained | negative | unmet | stops)
        · exact more drained
        · exact taken negative
        · exact unmet handled
        · exact unfinished stops
    · exact absurd (by decide) passed

theorem decodeFrame_spec (libav : Libav) (pass : DecodePass)
    (opened : Opened [.context, .yuvFrame, .rgbFrame] memory) :
    Does SameCtx
      (fun result => DecodePassSucceeds libav pass ∧ result = pass.avcodecSendPacket ∨
        ¬DecodePassSucceeds libav pass ∧ DecodePassEnds libav pass ∧ result = -1)
      (fun _ => ¬DecodePassEnds libav pass) (wFfmpegDecodeFrame libav pass true) memory := by
  have context := (opened .context (by simp)).2
  refine Does.get (does_deref (opened.ctx (List.mem_cons_self ..)) fun ctx isCtx => ?_)
  refine does_deref (by simpa [Memory.pointer, isCtx] using context) fun _ _ => ?_
  refine Does.ite (fun negative => ?_) fun sent => ?_
  · refine Does.step (keepsCtx_makeError _ _ _) fun _ _ _ =>
      Does.pure (.inr ⟨?_, .inl negative, rfl⟩)
    exact fun succeeds => Int.not_le.mpr negative succeeds.1
  refine (receiveFrames_spec libav _ pass.received (opened.fewer (by decide))).mono ?_ ?_
  · rintro result (⟨delivers, is⟩ | ⟨undelivered, stops, is⟩)
    · exact .inl ⟨⟨Int.not_lt.mp sent, delivers⟩, is⟩
    · exact .inr ⟨fun succeeds => undelivered succeeds.2, .inr stops, is⟩
  · exact fun _ unfinished ends => unfinished (ends.resolve_left sent)

theorem keepsCtx_modifyPacket (data : List UInt8) (present : memory.ctx ≠ none) :
    Does SameCtx (fun _ => True) fault (modifyCtx fun ctx =>
      { ctx with packet := ctx.packet.map fun packet => { packet with data := data } }) memory :=
  keepsCtx_modifyCtx present (skeleton_mapPacket data)

theorem parsePackets_spec (libav : Libav) (answers : List Parsed) (size : Int)
    (opened : Opened [.packet, .context, .yuvFrame, .rgbFrame, .parser] memory) :
    Does SameCtx
      (fun parsed => Parses libav answers size ∧ parsed = true ∨
        ¬Parses libav answers size ∧ parsed = false)
      (fun _ => ¬Parses libav answers size) (parsePackets libav true answers size) memory := by
  induction answers generalizing memory size with
  | nil => exact Does.throw id
  | cons answer answers ih =>
    have parser := (opened .parser (by simp)).2
    have packet := (opened .packet (by simp)).2
    refine Does.get (does_deref (opened.ctx (List.mem_cons_self ..)) fun ctx isCtx => ?_)
    refine does_deref (by simpa [Memory.pointer, isCtx] using parser) fun _ _ => ?_
    refine does_deref (by simpa [Memory.pointer, isCtx] using packet) fun _ _ => ?_
    refine Does.bind (keepsCtx_modifyPacket _ (opened.ctx (List.mem_cons_self ..))) fun _ _ same _ => ?_
    have opened := SameCtx.opened same opened
    refine Does.ite (fun negative => ?_) fun consumed => ?_
    · refine Does.step (keepsCtx_makeError _ _ _) fun _ _ _ => Does.pure (.inr ⟨?_, rfl⟩)
      exact fun parses => Int.not_le.mpr negative parses.1
    have rest {memory : Memory} (opened : Opened [.packet, .context, .yuvFrame, .rgbFrame, .parser] memory)
        (ended : answer.packet ≠ [] → DecodePassEnds libav answer.pass) :
        Does SameCtx
          (fun parsed => Parses libav (answer :: answers) size ∧ parsed = true ∨
            ¬Parses libav (answer :: answers) size ∧ parsed = false)
          (fun _ => ¬Parses libav (answer :: answers) size)
          (if size - answer.avParserParse2 ≤ 0 then pure true
            else parsePackets libav true answers (size - answer.avParserParse2)) memory := by
      refine Does.ite (fun over_ => ?_) fun left => ?_
      · exact Does.pure (.inl ⟨⟨Int.not_lt.mp consumed, ended, .inl over_⟩, rfl⟩)
      have same : Parses libav (answer :: answers) size ↔
          Parses libav answers (size - answer.avParserParse2) :=
        ⟨fun parses => parses.2.2.resolve_left left,
          fun parses => ⟨Int.not_lt.mp consumed, ended, .inr parses⟩⟩
      rw [same]
      exact ih _ opened
    refine Does.ite (fun hasData => ?_) fun noData => rest opened fun hasData => absurd hasData noData
    refine Does.bind (Wp.mono (decodeFrame_spec libav answer.pass (opened.fewer (by decide))) ?_ ?_)
      fun _ _ same ended => rest (SameCtx.opened same opened) fun _ => ended
    · rintro result middle ⟨same, ⟨succeeds, _⟩ | ⟨_, ends, _⟩⟩
      · exact ⟨same, .inr succeeds.2.ends⟩
      · exact ⟨same, ends⟩
    · exact fun _ unfinished parses => unfinished (parses.2.1 hasData)

theorem decode_spec (libav : Libav) (opt : WFfmpegOpt) (call : DecodeCall)
    (dataIn : call.dataIn = true) (pError : call.pError = true)
    (opened : Opened [.packet, .context, .yuvFrame, .rgbFrame, .parser] memory) :
    Wp (wFfmpegDecode libav opt call)
      (fun ret after => (ret = 0 ↔ DecodeSucceeds libav call) ∧ after.pointer .packet = none)
      (fun _ => ¬DecodeSucceeds libav call) memory := by
  have fail {memory : Memory} (present : memory.ctx ≠ none) (unmet : ¬DecodeSucceeds libav call) :
      Wp (finalAction callTable (-1))
        (fun ret after => (ret = 0 ↔ DecodeSucceeds libav call) ∧ after.pointer .packet = none)
        (fun _ => ¬DecodeSucceeds libav call) memory :=
    (failCall_spec present).mono (fun ret _ failed =>
      ⟨by simp [failed.1, unmet], pointer_of_closed failed.2 rfl⟩) fun _ => id
  have present := opened.ctx (List.mem_cons_self ..)
  refine wp_bind.mpr (wp_get.mpr ((wp_ite _ _ _).mpr ⟨fun refused => ?_, fun _ => ?_⟩))
  · simp [present, dataIn, pError] at refused
  refine Does.next (keepsCtx_modifyCtx present fun _ => rfl) (fun _ => id) fun _ _ same _ => ?_
  have opened := SameCtx.opened same opened
  refine wp_bind.mpr ((allocateOutput_spec _ _).mono (fun _ _ ⟨same, granted⟩ => ?_) fun _ => id)
  have opened := SameCtx.opened same opened
  refine (wp_ite _ _ _).mpr ⟨fun refused => ?_, fun calloc => ?_⟩
  · refine Keeps.next (keepsCtx_makeError _ _ _) fun _ _ same => ?_
    refine fail ((SameCtx.opened same opened).ctx (List.mem_cons_self ..)) fun succeeds => ?_
    simp [succeeds.1] at refused
  have calloc := Bool.not_eq_false _ ▸ calloc
  rw [pError]
  refine Does.next (parsePackets_spec libav call.parsed call.dataSize opened)
    (fun _ unmet succeeds => unmet succeeds.2.1) fun parsed _ same parsing => ?_
  have opened := SameCtx.opened same opened
  have present := opened.ctx (List.mem_cons_self ..)
  refine (wp_ite _ _ _).mpr ⟨fun failed => fail present fun succeeds => ?_, fun passed => ?_⟩
  · simp [succeeds.2.1, failed] at parsing
  have parses : Parses libav call.parsed call.dataSize := by
    rcases parsing with ⟨parses, _⟩ | ⟨_, failed⟩
    · exact parses
    · exact absurd failed passed
  refine wp_bind.mpr ((wp_modifyCtx present).mpr ?_)
  have others : Opened [.context, .yuvFrame, .rgbFrame] _ := opened.fewer (by decide)
  have opened := others.clear .packet rfl (by decide)
  refine Does.next (decodeFrame_spec libav call.flush opened)
    (fun _ unfinished succeeds => unfinished (.inr succeeds.2.2.1.2.ends)) fun ret after same flushed => ?_
  have present := (SameCtx.opened same opened).ctx (List.mem_cons_self ..)
  rcases flushed with ⟨succeeds, rfl⟩ | ⟨unmet, _, rfl⟩
  · have notFailed : call.flush.avcodecSendPacket ≠ -1 := fun isFailure => by
      have sent := succeeds.1
      rw [isFailure] at sent
      exact absurd sent (by decide)
    refine (wp_ite _ _ _).mpr ⟨fun isFailure => absurd isFailure notFailed, fun _ => ⟨?_, ?_⟩⟩
    · exact ⟨fun isZero => ⟨calloc, parses, succeeds, isZero⟩, fun all => all.2.2.2⟩
    · exact (same.pointer (.inl rfl)).trans (pointer_clear .packet)
  · exact fail present fun succeeds => unmet succeeds.2.2.1

/-! ## Calls of a session -/

variable {libav : Libav} {opt : WFfmpegOpt}

theorem wp_perform {call : Call} {post : Int → Memory → Prop}
    (shown : ∀ start : Memory, start = memory ∨ start = { memory with dataOut := none } →
      Wp (call.request.perform libav opt) post fault start) :
    Wp (call.perform libav opt) post fault memory :=
  (wp_ite _ _ _).mpr ⟨fun _ => wp_bind.mpr (shown _ (.inr rfl)), fun _ => shown memory (.inl rfl)⟩

/-- The call is not turned away by the check of its arguments. -/
def Accepted (call : Call) : Bool :=
  match call.request with
  | .encode call => call.dataIn && call.pError
  | .decode call => call.dataIn && call.pError

theorem perform_refused {call : Call} (refused : memory.ctx = none ∨ Accepted call = false) :
    Wp (call.perform libav opt)
      (fun ret after => ret = -1 ∧ (after = memory ∨ after = { memory with dataOut := none }))
      fault memory := by
  refine wp_perform fun start same => ?_
  have isCtx : start.ctx = memory.ctx := by rcases same with rfl | rfl <;> rfl
  have turned {dataIn pError : Bool} (unaccepted : memory.ctx = none ∨ (dataIn && pError) = false) :
      start.ctx = none ∨ pError = false ∨ dataIn = false := by
    rw [isCtx]
    exact unaccepted.imp_right fun isFalse => (Bool.and_eq_false_iff.mp isFalse).symm
  rcases call with ⟨nullOut, call | call⟩
  · refine wp_bind.mpr (wp_get.mpr ((wp_ite _ _ _).mpr ⟨fun _ => ⟨rfl, same⟩, fun accepted => ?_⟩))
    exact absurd (turned refused) accepted
  · refine wp_bind.mpr (wp_get.mpr ((wp_ite _ _ _).mpr ⟨fun _ => ⟨rfl, same⟩, fun accepted => ?_⟩))
    exact absurd (turned refused) accepted

/-! ## Opening -/

/-- The memory that a successful `w_ffmpeg_init` leaves to an encoder. -/
def openedEncoder (opt : WFfmpegOpt) (before : Memory) : Memory :=
  let object := before.ledger.fresh
  { before with
    ctx := some {
      object
      codecId := 0
      context := some {
        object := object + 3, bitRate := opt.bitrate, width := i32.wrap opt.width,
        height := i32.wrap opt.height, timeBase := (1, opt.fps), pixFmt := .yuv420p }
      packet := some ⟨object + 1, []⟩
      rgbFrame := none
      yuvFrame := some (AVFrame.allocated (object + 2))
      codec := true
      parser := none }
    ledger :=
      ⟨before.ledger.acquired ++ [.ctx, .packet, .frame, .context], before.ledger.released⟩ }

/-- The buffer for the decoded pictures. -/
def decodedPixels (libav : Libav) (opt : WFfmpegOpt) : Kind :=
  .pixels (libav.avImageGetBufferSize .rgb24 (i32.wrap opt.width) (i32.wrap opt.height) 1)

/-- The memory that a successful `w_ffmpeg_init` leaves to a decoder. -/
def openedDecoder (libav : Libav) (opt : WFfmpegOpt) (before : Memory) : Memory :=
  let object := before.ledger.fresh
  { before with
    ctx := some {
      object
      codecId := 0
      context := some (AVCodecContext.allocated (object + 3))
      packet := some ⟨object + 1, []⟩
      rgbFrame := some { AVFrame.allocated (object + 4) with
        data := some (object + 5)
        linesize := libav.avImageGetLinesize .rgb24 (i32.wrap opt.width) 1 }
      yuvFrame := some (AVFrame.allocated (object + 2))
      codec := true
      parser := some (object + 6) }
    frameBufferOut := none
    ledger :=
      ⟨before.ledger.acquired ++
        [.ctx, .packet, .frame, .context, .frame, decodedPixels libav opt, .parser],
        before.ledger.released⟩ }

section Opening

variable (libav opt) (pError : Bool) (answers : InitAnswers)

theorem init_encoder_run (isEncode : opt.type = .encode) (context : ContextOpens pError answers)
    (encoder : EncoderOpens opt answers.encoder) :
    (wFfmpegInit libav opt pError answers).run before = .ok (0, openedEncoder opt before) := by
  obtain ⟨hasError, calloc, packet, frame⟩ := context
  obtain ⟨found, context, preset, opens⟩ := encoder
  have options : ¬(opt.codecId = avCodecIdH264 ∧ answers.encoder.avOptSet < 0) :=
    fun ⟨isH264, negative⟩ => Int.not_le.mpr negative (preset isH264)
  have opened : ¬answers.encoder.avcodecOpen2 < 0 := Int.not_lt.mpr opens
  have returned : ¬answers.encoder.avcodecOpen2 = -1 := by omega
  simp [wFfmpegInit, wFfmpegInitEncoder, allocate, allocateInCtx, modifyCtx, deref, finalAction,
    Memory.record, Memory.granted, Memory.mapCtx, Ledger.fresh, Ledger.acquire, openedEncoder,
    WFfmpegCtx.allocated, AVCodecContext.allocated, isEncode, hasError, calloc, packet, frame, found,
    context, options, opened, returned]
  rfl

theorem init_decoder_run (isDecode : opt.type = .decode) (context : ContextOpens pError answers)
    (decoder : DecoderOpens answers.decoder) :
    (wFfmpegInit libav opt pError answers).run before = .ok (0, openedDecoder libav opt before) := by
  obtain ⟨hasError, calloc, packet, frame⟩ := context
  obtain ⟨found, context, rgbFrame, malloc, filled, parser, opens⟩ := decoder
  have filled : ¬answers.decoder.avImageFillArrays < 0 := Int.not_lt.mpr filled
  have opened : ¬answers.decoder.avcodecOpen2 < 0 := Int.not_lt.mpr opens
  have returned : ¬answers.decoder.avcodecOpen2 = -1 := by omega
  simp [wFfmpegInit, wFfmpegInitDecoder, allocate, allocateInCtx, modifyCtx, deref, finalAction,
    Memory.record, Memory.granted, Memory.mapCtx, Memory.mapRgbFrame, Ledger.fresh, Ledger.acquire,
    openedDecoder, decodedPixels, WFfmpegCtx.allocated, isDecode, hasError, calloc, packet, frame,
    found, context, rgbFrame, malloc, filled, parser, opened, returned]
  rfl

theorem finalAction_returns (table : Table) (ret : Int) :
    Wp (finalAction table ret) (fun result _ => result = ret) (fun _ => True) memory :=
  (wp_ite _ _ _).mpr ⟨fun _ => wp_skip (fun _ => trivial) fun _ _ => rfl, fun _ => rfl⟩

/-- A branch of an init function that fails. -/
theorem fails {trace errorMsg : String} {code : Int} (table : Table) {opens : Prop} :
    Wp (do makeError trace errorMsg code; finalAction table (-1))
      (fun ret _ => 0 ≤ ret → opens) (fun _ => True) memory :=
  wp_skip (fun _ => trivial) fun _ _ =>
    (finalAction_returns table (-1)).mono (fun ret _ is nonneg => by omega) fun _ => id

theorem initEncoder_opens (answers : EncoderAnswers) :
    Wp (wFfmpegInitEncoder opt answers) (fun ret _ => 0 ≤ ret → EncoderOpens opt answers)
      (fun _ => True) memory := by
  refine wp_skip (fun _ => trivial) fun _ _ => (wp_ite _ _ _).mpr ⟨fun _ => fails _, fun found => ?_⟩
  refine wp_skip (fun _ => trivial) fun _ _ => (wp_ite _ _ _).mpr ⟨fun _ => fails _, fun context => ?_⟩
  refine wp_skip (fun _ => trivial) fun _ _ => (wp_ite _ _ _).mpr ⟨fun _ => fails _, fun options => ?_⟩
  refine (wp_ite _ _ _).mpr ⟨fun _ => fails _, fun opens => ?_⟩
  refine (finalAction_returns _ _).mono (fun _ _ _ _ => ⟨?_, ?_, fun isH264 => ?_, ?_⟩) fun _ => id
  · exact Bool.not_eq_false _ ▸ found
  · exact Bool.not_eq_false _ ▸ context
  · exact Int.not_lt.mp fun negative => options ⟨isH264, negative⟩
  · exact Int.not_lt.mp opens

theorem initDecoder_opens (answers : DecoderAnswers) :
    Wp (wFfmpegInitDecoder libav opt true answers) (fun ret _ => 0 ≤ ret → DecoderOpens answers)
      (fun _ => True) memory := by
  refine wp_skip (fun _ => trivial) fun _ _ => (wp_ite _ _ _).mpr ⟨fun _ => fails _, fun found => ?_⟩
  refine wp_skip (fun _ => trivial) fun _ _ => (wp_ite _ _ _).mpr ⟨fun _ => fails _, fun context => ?_⟩
  refine wp_skip (fun _ => trivial) fun _ _ => (wp_ite _ _ _).mpr ⟨fun _ => fails _, fun frame => ?_⟩
  refine wp_skip (fun _ => trivial) fun _ _ => (wp_ite _ _ _).mpr ⟨fun _ => fails _, fun malloc => ?_⟩
  refine (wp_ite _ _ _).mpr ⟨fun _ => fails _, fun filled => wp_skip (fun _ => trivial) fun _ _ => ?_⟩
  refine wp_skip (fun _ => trivial) fun _ _ => (wp_ite _ _ _).mpr ⟨fun _ => fails _, fun parser => ?_⟩
  refine (wp_ite _ _ _).mpr ⟨fun _ => fails _, fun opens => ?_⟩
  refine wp_skip (fun _ => trivial) fun _ _ => wp_skip (fun _ => trivial) fun _ _ => fun _ => ?_
  simp only [Bool.not_eq_false, Int.not_lt] at found context frame malloc filled parser opens
  exact ⟨found, context, frame, malloc, filled, parser, opens⟩

theorem init_opens :
    Wp (wFfmpegInit libav opt pError answers) (fun ret _ => 0 ≤ ret → InitSucceeds opt pError answers)
      (fun _ => True) memory := by
  refine (wp_ite _ _ _).mpr ⟨fun _ => fun impossible => absurd impossible (by decide), fun error => ?_⟩
  refine wp_skip (fun _ => trivial) fun _ _ => (wp_ite _ _ _).mpr ⟨fun _ => fails _, fun calloc => ?_⟩
  refine wp_skip (fun _ => trivial) fun _ _ => (wp_ite _ _ _).mpr ⟨fun _ => fails _, fun packet => ?_⟩
  refine wp_skip (fun _ => trivial) fun _ _ => (wp_ite _ _ _).mpr ⟨fun _ => fails _, fun frame => ?_⟩
  simp only [Bool.not_eq_false] at error calloc packet frame
  subst error
  have context : ContextOpens true answers := ⟨rfl, calloc, packet, frame⟩
  have close {table : Table} {ret : Int} (opened : 0 ≤ ret → InitSucceeds opt true answers)
      (memory : Memory) : Wp (if ret < 0 then finalAction table (-1) else finalAction table 0)
        (fun ret _ => 0 ≤ ret → InitSucceeds opt true answers) (fun _ => True) memory := by
    refine (wp_ite _ _ _).mpr ⟨fun _ => ?_, fun nonneg => ?_⟩
    · exact (finalAction_returns table (-1)).mono (fun _ _ is nonneg => by omega) fun _ => id
    · exact (finalAction_returns table 0).mono (fun _ _ _ _ => opened (Int.not_lt.mp nonneg)) fun _ => id
  split
  next isEncode =>
    refine wp_bind.mpr ((initEncoder_opens opt answers.encoder).mono (fun ret _ opened => ?_) fun _ => id)
    exact close (fun nonneg => ⟨context, by simpa only [isEncode] using opened nonneg⟩) _
  next isDecode =>
    refine wp_bind.mpr ((initDecoder_opens libav opt answers.decoder).mono (fun ret _ opened => ?_) fun _ => id)
    exact close (fun nonneg => ⟨context, by simpa only [isDecode] using opened nonneg⟩) _
  next => exact fails _

end Opening

end WolfEngine.Verified.Ffmpeg
