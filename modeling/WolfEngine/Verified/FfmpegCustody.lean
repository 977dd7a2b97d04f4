import WolfEngine.Media.Ffmpeg

/-! # Who holds the objects of an ffmpeg session

A memory reaches its objects through the variables in `Root`.  Every function of the
library releases only what it reaches or has just acquired, and no cleanup reads a
field of a released context (`sound_perform`, `sound_fini`); a variable that nothing
frees may be left out of account (`blind`).
-/

namespace WolfEngine.Verified.Ffmpeg

open Media Custody Faulting

/-- The variables through which an object can still be freed or copied.  The `data` of
`yuv_frame` is not one of them: nothing ever reads it. -/
inductive Root where
  | slot (slot : Slot)
  | rgbData
  | frameBufferIn
  | swsContext

def roots (memory : Memory) : Root → Option Nat
  | .slot slot => memory.pointer slot
  | .rgbData => memory.ctx.bind fun ctx => ctx.rgbFrame.bind (·.data)
  | .frameBufferIn => memory.frameBufferIn
  | .swsContext => memory.swsContext

/-- A root other than `blind` points to the object. -/
def Holds (blind : Option Slot) (memory : Memory) (object : Nat) : Prop :=
  ∃ root, (∀ slot, root = .slot slot → blind ≠ some slot) ∧ roots memory root = some object

def Moved (blind : Option Slot) (before after : Memory) : Prop :=
  Moves before.ledger (Holds blind before) after.ledger (Holds blind after)

instance (blind : Option Slot) : Std.Refl (Moved blind) := ⟨fun _ => Moves.refl _ _⟩

instance (blind : Option Slot) : IsTrans Memory (Moved blind) := ⟨fun _ _ _ => Moves.trans⟩

abbrev Sound {α : Type} (blind : Option Slot) (op : Op α) : Prop :=
  Keeps (Moved blind) (· ≠ Fault.useAfterRelease) op

variable {blind : Option Slot} {before after memory : Memory}

/-! ## Changes of the memory -/

/-- Every root is as before, null, or `pointer`. -/
def Fewer (pointer : Option Nat) (before after : Memory) : Prop :=
  ∀ root, roots after root = roots before root ∨ roots after root = none ∨
    roots after root = pointer

theorem Fewer.holds {pointer : Option Nat} (fewer : Fewer pointer before after) (object : Nat)
    (holds : Holds blind after object) : Holds blind before object ∨ pointer = some object := by
  obtain ⟨root, seen, points⟩ := holds
  rcases fewer root with same | null | new
  · exact .inl ⟨root, seen, same ▸ points⟩
  · rw [null] at points
    cases points
  · exact .inr (new ▸ points)

theorem moved_of_roots (pointers : roots after = roots before) (ledger : after.ledger = before.ledger) :
    Moved blind before after := by
  unfold Moved Holds
  rw [ledger, pointers]
  exact Moves.refl _ _

theorem moved_of_fewer (fewer : Fewer none before after) (ledger : after.ledger = before.ledger) :
    Moved blind before after := by
  unfold Moved
  rw [ledger]
  exact Moves.forget fun object holds =>
    (fewer.holds object holds).resolve_right (Option.some_ne_none object ∘ Eq.symm)

theorem moved_allocate (kind : Kind) (grant : Bool) {store : Option Nat → Memory → Memory}
    (fewer : Fewer (memory.granted grant) memory (store (memory.granted grant) memory))
    (ledger : (store (memory.granted grant) memory).ledger = memory.ledger) :
    Moved blind memory ((store (memory.granted grant) memory).record kind grant) := by
  cases grant with
  | false => exact moved_of_fewer fewer ledger
  | true =>
    unfold Moved
    show Moves _ _ ((store _ memory).ledger.acquire kind) _
    rw [ledger]
    refine Moves.acquire kind fun object holds => ?_
    have holds : Holds blind (store (memory.granted true) memory) object := holds
    exact (fewer.holds object holds).imp_right fun same => (Option.some.inj same).symm

theorem moved_release {pointer : Option Nat} (held : ∀ object, pointer = some object → Holds blind memory object) :
    Moved blind memory (memory.release pointer) := by
  cases pointer with
  | none => exact moved_of_roots rfl rfl
  | some object => exact Moves.release (held object rfl) fun _ => id

/-- The pointers in a context. -/
structure Skeleton where
  object : Nat
  packet : Option Nat
  context : Option Nat
  yuvFrame : Option Nat
  rgbFrame : Option Nat
  rgbData : Option Nat
  parser : Option Nat

def skeleton (ctx : WFfmpegCtx) : Skeleton where
  object := ctx.object
  packet := ctx.packet.map (·.object)
  context := ctx.context.map (·.object)
  yuvFrame := ctx.yuvFrame.map (·.object)
  rgbFrame := ctx.rgbFrame.map (·.object)
  rgbData := ctx.rgbFrame.bind (·.data)
  parser := ctx.parser

theorem skeleton_mapPacket (data : List UInt8) (ctx : WFfmpegCtx) :
    skeleton { ctx with packet := ctx.packet.map fun packet => { packet with data := data } } =
      skeleton ctx := by
  cases packet : ctx.packet <;> simp [skeleton, packet]

theorem skeleton_mapYuvFrame {change : AVFrame → AVFrame}
    (same : ∀ frame, (change frame).object = frame.object) (ctx : WFfmpegCtx) :
    skeleton { ctx with yuvFrame := ctx.yuvFrame.map change } = skeleton ctx := by
  cases frame : ctx.yuvFrame <;> simp [skeleton, frame, same]

theorem skeleton_mapRgbFrame {change : AVFrame → AVFrame}
    (object : ∀ frame, (change frame).object = frame.object)
    (data : ∀ frame, (change frame).data = frame.data) (ctx : WFfmpegCtx) :
    skeleton { ctx with rgbFrame := ctx.rgbFrame.map change } = skeleton ctx := by
  cases frame : ctx.rgbFrame <;> simp [skeleton, frame, object, data]

theorem roots_mapCtx {change : WFfmpegCtx → WFfmpegCtx}
    (same : ∀ ctx, skeleton (change ctx) = skeleton ctx) :
    roots (memory.mapCtx change) = roots memory := by
  funext root
  rcases isCtx : memory.ctx with _ | ctx
  · rcases root with slot | _ | _ | _
    · cases slot <;> simp [roots, Memory.pointer, Memory.mapCtx, isCtx]
    all_goals simp [roots, Memory.mapCtx, isCtx]
  · have same := same ctx
    simp only [skeleton, Skeleton.mk.injEq] at same
    rcases root with slot | _ | _ | _
    · cases slot <;> simp [roots, Memory.pointer, Memory.mapCtx, isCtx, same]
    all_goals simp [roots, Memory.mapCtx, isCtx, same]

theorem fewer_clear (slot : Slot) : Fewer none memory (memory.clear slot) := by
  intro root
  rcases memory with ⟨_ | ctx⟩ <;> cases slot <;> rcases root with slot | _ | _ | _ <;>
    first
    | exact .inl rfl
    | exact .inr (.inl rfl)
    | cases slot <;> first | exact .inl rfl | exact .inr (.inl rfl)

/-! ## Programs -/

theorem sound_deref {α : Type} (value : Option α) : Sound blind (deref value) := by
  cases value with
  | none => exact Keeps.throw Fault.noConfusion
  | some value => exact Keeps.pure value

theorem sound_payload {change : Memory → Memory}
    (pointers : ∀ memory, roots (change memory) = roots memory)
    (ledger : ∀ memory, (change memory).ledger = memory.ledger) : Sound blind (modify change) :=
  Keeps.modify fun memory => moved_of_roots (pointers memory) (ledger memory)

theorem sound_drop {change : Memory → Memory} (fewer : ∀ memory, Fewer none memory (change memory))
    (ledger : ∀ memory, (change memory).ledger = memory.ledger) : Sound blind (modify change) :=
  Keeps.modify fun memory => moved_of_fewer (fewer memory) (ledger memory)

theorem sound_makeError (trace errorMsg : String) (errorCode : Int) :
    Sound blind (makeError trace errorMsg errorCode) :=
  sound_payload (fun _ => rfl) fun _ => rfl

theorem sound_modifyCtx {change : WFfmpegCtx → WFfmpegCtx}
    (moved : Sound blind (modify (Memory.mapCtx change) : Op Unit)) :
    Sound blind (modifyCtx change) :=
  Keeps.bind Keeps.get fun _ => Keeps.bind (sound_deref _) fun _ => moved

theorem sound_mapCtx {change : WFfmpegCtx → WFfmpegCtx}
    (same : ∀ ctx, skeleton (change ctx) = skeleton ctx) :
    Sound blind (modify (Memory.mapCtx change) : Op Unit) :=
  sound_payload (fun _ => roots_mapCtx same) fun _ => rfl

theorem sound_allocate (kind : Kind) (grant : Bool) {store : Option Nat → Memory → Memory}
    (fewer : ∀ pointer memory, Fewer pointer memory (store pointer memory))
    (ledger : ∀ pointer memory, (store pointer memory).ledger = memory.ledger) :
    Sound blind (allocate kind grant store) :=
  Keeps.modify fun memory => moved_allocate kind grant (fewer _ memory) (ledger _ memory)

theorem sound_allocateInCtx (kind : Kind) (grant : Bool)
    {store : Option Nat → WFfmpegCtx → WFfmpegCtx}
    (fewer : ∀ pointer memory, Fewer pointer memory (memory.mapCtx (store pointer))) :
    Sound blind (allocateInCtx kind grant store) :=
  Keeps.bind Keeps.get fun _ => Keeps.bind (sound_deref _) fun _ =>
    sound_allocate kind grant fewer fun _ _ => rfl

/-! ## Cleanup -/

/-- A chain reads a field of the context only behind `opt->ctx`. -/
def Ordered : (seen : Bool) → Chain → Bool
  | _, [] => true
  | seen, link :: chain => (!link.2.inCtx || seen) && Ordered (seen || link.2 == .ctx) chain

/-- No chain of the table is about `blind`. -/
def Spares (blind : Option Slot) (table : Table) : Prop :=
  ∀ chain ∈ table, ∀ link ∈ chain, blind ≠ some link.2

instance (blind : Option Slot) (table : Table) : Decidable (Spares blind table) :=
  inferInstanceAs (Decidable (∀ _ ∈ _, _))

theorem spares_none {table : Table} : Spares none table :=
  fun _ _ link _ => (Option.some_ne_none link.2).symm

theorem spares_of {slot : Slot} {table : Table} (either : blind = none ∨ blind = some slot)
    (spares : Spares (some slot) table) : Spares blind table := by
  rcases either with rfl | rfl
  · exact spares_none
  · exact spares

theorem lastLink_ordered {chain : Chain} {seen : Bool} {last : Option Link}
    (ordered : Ordered seen chain = true) (spares : ∀ link ∈ chain, blind ≠ some link.2)
    (present : seen = true → memory.ctx ≠ none) (unblind : ∀ link ∈ last, blind ≠ some link.2) :
    Wp (lastLink last chain)
      (fun found after => after = memory ∧ ∀ link ∈ found, blind ≠ some link.2)
      (· ≠ Fault.useAfterRelease) memory := by
  induction chain generalizing seen last with
  | nil => exact ⟨rfl, unblind⟩
  | cons link chain ih =>
    obtain ⟨behind, rest⟩ := Bool.and_eq_true_iff.mp ordered
    obtain ⟨unblindLink, spares⟩ := List.forall_mem_cons.mp spares
    simp only [lastLink, checkNull, wp_bind, wp_get, wp_ite, wp_throw, wp_pure]
    refine ⟨?_, fun _ => ⟨?_, ?_⟩⟩
    · rintro ⟨inCtx, closed⟩
      exact absurd closed (present (by simpa [inCtx] using behind))
    · rintro -
      exact ⟨trivial, fun link isNone => absurd isNone (Option.not_mem_none link)⟩
    · intro notNull
      refine ih rest spares (fun reached => ?_) fun _ same => Option.some.inj same ▸ unblindLink
      rcases Bool.or_eq_true_iff.mp reached with before | isCtx
      · exact present before
      · intro closed
        simp [beq_iff_eq.mp isCtx, Memory.pointer, closed] at notNull

theorem sound_freeLink {last : Option Link} (unblind : ∀ link ∈ last, blind ≠ some link.2) :
    Sound blind (freeLink last) := by
  rcases last with _ | ⟨type, slot⟩
  · exact Keeps.pure ()
  · have frees : Sound blind (modify fun memory =>
        (memory.release (memory.pointer slot)).clear slot : Op Unit) := by
      refine Keeps.modify fun memory => IsTrans.trans _ (memory.release (memory.pointer slot)) _ ?_ ?_
      · exact moved_release fun object points =>
          ⟨.slot slot, fun _ same => Root.slot.inj same ▸ unblind _ rfl, points⟩
      · exact moved_of_fewer (fewer_clear slot) (by cases slot <;> rfl)
    cases type with
    | none => exact Keeps.pure ()
    | packet | context | frame | parser | data => exact frees

theorem sound_cleanupChain {chain : Chain} (ordered : Ordered false chain = true)
    (spares : ∀ link ∈ chain, blind ≠ some link.2) : Sound blind (cleanupChain chain) := by
  intro memory
  have start : ∀ link ∈ (none : Option Link), blind ≠ some link.2 :=
    fun link isNone => absurd isNone (Option.not_mem_none link)
  have unread : false = true → memory.ctx ≠ none := fun impossible => absurd impossible Bool.false_ne_true
  refine wp_bind.mpr ((lastLink_ordered ordered spares unread start).mono ?_ fun _ => id)
  rintro found _ ⟨rfl, unblind⟩
  exact sound_freeLink unblind _

theorem sound_cleanup {table : Table} (ordered : ∀ chain ∈ table, Ordered false chain = true)
    (spares : Spares blind table) : Sound blind (cleanup table) := by
  induction table with
  | nil => exact Keeps.pure ()
  | cons chain table ih =>
    obtain ⟨first, rest⟩ := List.forall_mem_cons.mp ordered
    obtain ⟨spare, spares⟩ := List.forall_mem_cons.mp spares
    exact Keeps.bind (sound_cleanupChain first spare) fun _ => ih rest spares

theorem sound_finalAction {table : Table} (ret : Int)
    (ordered : ∀ chain ∈ table, Ordered false chain = true) (spares : Spares blind table) :
    Sound blind (finalAction table ret) :=
  Keeps.ite (Keeps.bind (sound_cleanup ordered spares) fun _ => Keeps.pure ret) (Keeps.pure ret)

/-! ## Conversion -/

theorem fewer_swsContext (pointer : Option Nat) (memory : Memory) :
    Fewer pointer memory { memory with swsContext := pointer } := by
  rintro (slot | _ | _ | _)
  · exact .inl rfl
  · exact .inl rfl
  · exact .inl rfl
  · exact .inr (.inr rfl)

theorem fewer_frameBufferIn (pointer : Option Nat) (memory : Memory) :
    Fewer pointer memory { memory with frameBufferIn := pointer } := by
  rintro (slot | _ | _ | _)
  · exact .inl rfl
  · exact .inl rfl
  · exact .inr (.inr rfl)
  · exact .inl rfl

theorem fewer_dataOut (pointer : Option Nat) (memory : Memory) :
    Fewer pointer memory { memory with dataOut := pointer } := by
  rintro (slot | _ | _ | _)
  · cases slot with
    | dataOut => exact .inr (.inr rfl)
    | _ => exact .inl rfl
  · exact .inl rfl
  · exact .inl rfl
  · exact .inl rfl

theorem fewer_frameBufferOut (pointer : Option Nat) (memory : Memory) :
    Fewer pointer memory { memory with frameBufferOut := pointer } := by
  rintro (slot | _ | _ | _)
  · cases slot with
    | frameBufferOut => exact .inr (.inr rfl)
    | _ => exact .inl rfl
  · exact .inl rfl
  · exact .inl rfl
  · exact .inl rfl

theorem sound_swsFreeContext : Sound blind (modify Memory.swsFreeContext : Op Unit) := by
  refine Keeps.modify fun memory => IsTrans.trans _ (memory.release memory.swsContext) _ ?_ ?_
  · exact moved_release fun object points => ⟨.swsContext, fun _ same => (nomatch same), points⟩
  · exact moved_of_fewer (fewer_swsContext none _) rfl

theorem sound_leaveRgb2yuv (ret : Int) : Sound blind (leaveRgb2yuv ret) := by
  have leave : Sound blind (do
      modify fun memory : Memory => { memory with frameBufferIn := none }
      return ret : Op Int) :=
    Keeps.bind (sound_drop (fewer_frameBufferIn none) fun _ => rfl) fun _ => Keeps.pure ret
  refine Keeps.bind sound_swsFreeContext fun _ => Keeps.ite ?_ leave
  refine Keeps.bind (Keeps.modify fun memory => ?_) fun _ => leave
  exact moved_release fun object points => ⟨.frameBufferIn, fun _ same => (nomatch same), points⟩

theorem sound_rgb2yuv (libav : Libav) (answers : Rgb2yuvAnswers) (rgb : Bool) (width height : Int)
    (pError : Bool) : Sound blind (rgb2yuv libav answers rgb width height pError) := by
  refine Keeps.bind Keeps.get fun _ => Keeps.bind (sound_deref _) fun _ => ?_
  refine Keeps.ite (Keeps.pure _) ?_
  refine Keeps.bind (sound_allocate _ _ fewer_swsContext fun _ _ => rfl) fun _ => ?_
  refine Keeps.ite (sound_leaveRgb2yuv _) ?_
  refine Keeps.bind (sound_allocate _ _ fewer_frameBufferIn fun _ _ => rfl) fun _ => ?_
  refine Keeps.ite (sound_leaveRgb2yuv _) (Keeps.ite (sound_leaveRgb2yuv _) ?_)
  refine Keeps.bind (sound_payload (fun _ => roots_mapCtx (skeleton_mapYuvFrame fun _ => rfl)) fun _ => rfl) fun _ => ?_
  refine Keeps.ite (sound_leaveRgb2yuv _) ?_
  refine Keeps.bind (sound_payload (fun _ => rfl) fun _ => rfl) fun _ => ?_
  refine Keeps.bind (sound_payload (fun _ => roots_mapCtx (skeleton_mapYuvFrame fun _ => rfl)) fun _ => rfl) fun _ => ?_
  exact sound_leaveRgb2yuv 0

theorem sound_leaveYuv2rgb (ret : Int) : Sound blind (leaveYuv2rgb ret) :=
  Keeps.bind sound_swsFreeContext fun _ => Keeps.pure ret

theorem sound_yuv2rgb (answers : Yuv2rgbAnswers) (width height : Int) (pError : Bool) :
    Sound blind (yuv2rgb answers width height pError) := by
  refine Keeps.bind Keeps.get fun _ => Keeps.bind (sound_deref _) fun _ => ?_
  refine Keeps.ite (Keeps.pure _) ?_
  refine Keeps.bind (sound_allocate _ _ fewer_swsContext fun _ _ => rfl) fun _ => ?_
  refine Keeps.ite (sound_leaveYuv2rgb _) (Keeps.ite (sound_leaveYuv2rgb _) ?_)
  refine Keeps.bind (sound_payload (fun _ => rfl) fun _ => rfl) fun _ => ?_
  refine Keeps.bind (sound_payload
    (fun _ => roots_mapCtx (skeleton_mapRgbFrame (fun _ => rfl) fun _ => rfl)) fun _ => rfl) fun _ => ?_
  exact sound_leaveYuv2rgb _

/-! ## Encoding -/

theorem sound_receivePackets (ret : Int) (answers : List (Int × List UInt8)) (index : Int) :
    Sound blind (receivePackets ret answers index) := by
  induction answers generalizing index with
  | nil => exact Keeps.throw Fault.noConfusion
  | cons answer answers ih =>
    refine Keeps.ite (Keeps.pure _) (Keeps.ite ?_ ?_)
    · exact Keeps.bind (sound_makeError _ _ _) fun _ => Keeps.pure _
    · refine Keeps.bind Keeps.get fun _ => Keeps.bind (sound_deref _) fun _ => ?_
      exact Keeps.bind (sound_payload (fun _ => rfl) fun _ => rfl) fun _ => ih _

theorem sound_modifyPacket (data : List UInt8) :
    Sound blind (modifyCtx fun ctx =>
      { ctx with packet := ctx.packet.map fun packet => { packet with data := data } }) :=
  sound_modifyCtx (sound_mapCtx (skeleton_mapPacket data))

theorem sound_encodeFrame (pass : EncodePass) (index : Int) (pError : Bool) :
    Sound blind (wFfmpegEncodeFrame pass index pError) := by
  refine Keeps.bind Keeps.get fun _ => Keeps.ite (Keeps.pure _) ?_
  refine Keeps.bind (sound_deref _) fun _ => Keeps.bind (sound_deref _) fun _ => ?_
  refine Keeps.bind (sound_modifyPacket []) fun _ => Keeps.bind (sound_deref _) fun _ => ?_
  refine Keeps.ite ?_ (sound_receivePackets _ _ _)
  exact Keeps.bind (sound_makeError _ _ _) fun _ => Keeps.pure _

theorem sound_finishCall (either : blind = none ∨ blind = some .parser) (ret : Int) :
    Sound blind (finalAction callTable ret) :=
  sound_finalAction ret (by decide) (spares_of either (by decide))

/-- `w_ffmpeg_encode` after the conversion. -/
def encodeConverted (opt : WFfmpegOpt) (call : EncodeCall) : Op Int := do
  allocate (.output (outputSize opt)) call.calloc
    fun pointer memory => { memory with dataOut := pointer }
  if call.calloc = false then
    makeError "ffmpeg::w_ffmpeg_encode" "failed to allocate the output buffer" 0
    return ← finalAction callTable (-1)
  let (encoded, index) ← wFfmpegEncodeFrame call.frame 0 call.pError
  if encoded < 0 then
    return ← finalAction callTable (-1)
  modifyCtx fun ctx => { ctx with yuvFrame := none }
  let (flushed, _) ← wFfmpegEncodeFrame call.flush index call.pError
  if flushed < 0 then
    return ← finalAction callTable (-1)
  finalAction callTable 0

theorem encode_eq (libav : Libav) (opt : WFfmpegOpt) (call : EncodeCall) :
    wFfmpegEncode libav opt call = (do
      if (← get).ctx = none ∨ call.pError = false ∨ call.dataIn = false then
        return -1
      modify fun memory => { memory with sizeOut := 0 }
      modifyCtx fun ctx => { ctx with codecId := opt.codecId }
      if (← rgb2yuv libav call.conversion call.dataIn opt.width opt.height call.pError) < 0 then
        return ← finalAction callTable (-1)
      encodeConverted opt call) := rfl

theorem sound_encodeConverted (either : blind = none ∨ blind = some .parser) (opt : WFfmpegOpt)
    (call : EncodeCall) : Sound blind (encodeConverted opt call) := by
  refine Keeps.bind (sound_allocate _ _ fewer_dataOut fun _ _ => rfl) fun _ => ?_
  refine Keeps.ite (Keeps.bind (sound_makeError _ _ _) fun _ => sound_finishCall either _) ?_
  refine Keeps.bind (sound_encodeFrame _ _ _) fun _ => Keeps.ite (sound_finishCall either _) ?_
  refine Keeps.bind (sound_modifyCtx (sound_drop (fun _ => fewer_clear .yuvFrame) fun _ => rfl))
    fun _ => ?_
  refine Keeps.bind (sound_encodeFrame _ _ _) fun _ => Keeps.ite (sound_finishCall either _) ?_
  exact sound_finishCall either 0

theorem sound_encode (either : blind = none ∨ blind = some .parser) (libav : Libav)
    (opt : WFfmpegOpt) (call : EncodeCall) : Sound blind (wFfmpegEncode libav opt call) := by
  rw [encode_eq]
  refine Keeps.bind Keeps.get fun _ => Keeps.ite (Keeps.pure _) ?_
  refine Keeps.bind (sound_payload (fun _ => rfl) fun _ => rfl) fun _ => ?_
  refine Keeps.bind (sound_modifyCtx (sound_mapCtx fun _ => rfl)) fun _ => ?_
  refine Keeps.bind (sound_rgb2yuv _ _ _ _ _ _) fun _ => ?_
  exact Keeps.ite (sound_finishCall either _) (sound_encodeConverted either opt call)

/-! ## Decoding -/

theorem sound_dataOut : Sound blind (modify fun memory : Memory =>
    { memory with dataOut := memory.ctx.bind fun ctx => ctx.rgbFrame.bind (·.data) } : Op Unit) := by
  refine Keeps.modify fun memory => Moves.forget ?_
  rintro object ⟨slot | _ | _ | _, seen, points⟩
  · cases slot with
    | dataOut => exact ⟨.rgbData, fun _ same => (nomatch same), points⟩
    | _ => exact ⟨_, seen, points⟩
  · exact ⟨.rgbData, seen, points⟩
  · exact ⟨.frameBufferIn, seen, points⟩
  · exact ⟨.swsContext, seen, points⟩

theorem sound_receiveFrames (libav : Libav) (pError : Bool) (ret : Int) (answers : List Decoded) :
    Sound blind (receiveFrames libav pError ret answers) := by
  induction answers with
  | nil => exact Keeps.throw Fault.noConfusion
  | cons answer answers ih =>
    refine Keeps.ite (Keeps.pure _) (Keeps.ite ?_ ?_)
    · exact Keeps.bind (sound_makeError _ _ _) fun _ => Keeps.pure _
    refine Keeps.bind Keeps.get fun _ => Keeps.bind (sound_deref _) fun _ => ?_
    refine Keeps.bind (sound_deref _) fun _ => ?_
    refine Keeps.bind (sound_payload (fun _ => roots_mapCtx (skeleton_mapYuvFrame fun _ => rfl)) fun _ => rfl)
      fun _ => ?_
    refine Keeps.bind (sound_yuv2rgb _ _ _ _) fun _ => Keeps.ite ?_ ?_
    · exact Keeps.bind (sound_makeError _ _ _) fun _ => Keeps.pure _
    refine Keeps.bind sound_dataOut fun _ => ?_
    refine Keeps.bind Keeps.get fun _ => Keeps.bind (sound_deref _) fun _ => Keeps.ite ?_ ?_
    · exact Keeps.bind (sound_makeError _ _ _) fun _ => Keeps.pure _
    · exact Keeps.bind (sound_payload (fun _ => rfl) fun _ => rfl) fun _ => ih

theorem sound_decodeFrame (libav : Libav) (pass : DecodePass) (pError : Bool) :
    Sound blind (wFfmpegDecodeFrame libav pass pError) := by
  refine Keeps.bind Keeps.get fun _ => Keeps.bind (sound_deref _) fun _ => ?_
  refine Keeps.bind (sound_deref _) fun _ => Keeps.ite ?_ (sound_receiveFrames _ _ _ _)
  exact Keeps.bind (sound_makeError _ _ _) fun _ => Keeps.pure _

theorem sound_parsePackets (libav : Libav) (pError : Bool) (answers : List Parsed) (size : Int) :
    Sound blind (parsePackets libav pError answers size) := by
  induction answers generalizing size with
  | nil => exact Keeps.throw Fault.noConfusion
  | cons answer answers ih =>
    refine Keeps.bind Keeps.get fun _ => Keeps.bind (sound_deref _) fun _ => ?_
    refine Keeps.bind (sound_deref _) fun _ => Keeps.bind (sound_deref _) fun _ => ?_
    refine Keeps.bind (sound_modifyPacket _) fun _ => Keeps.ite ?_ ?_
    · exact Keeps.bind (sound_makeError _ _ _) fun _ => Keeps.pure _
    have rest : Sound blind (if size - answer.avParserParse2 ≤ 0 then pure true
        else parsePackets libav pError answers (size - answer.avParserParse2) : Op Bool) :=
      Keeps.ite (Keeps.pure _) (ih _)
    exact Keeps.ite (Keeps.bind (sound_decodeFrame _ _ _) fun _ => rest) rest

/-- The end of `w_ffmpeg_decode`. -/
def flushDecoder (libav : Libav) (call : DecodeCall) : Op Int := do
  modifyCtx fun ctx => { ctx with packet := none }
  finalAction callTable (← wFfmpegDecodeFrame libav call.flush call.pError)

theorem decode_eq (libav : Libav) (opt : WFfmpegOpt) (call : DecodeCall) :
    wFfmpegDecode libav opt call = (do
      if (← get).ctx = none ∨ call.pError = false ∨ call.dataIn = false then
        return -1
      modifyCtx fun ctx => { ctx with codecId := opt.codecId }
      allocate (.output (outputSize opt)) call.calloc
        fun pointer memory => { memory with dataOut := pointer }
      if call.calloc = false then
        makeError "ffmpeg::w_ffmpeg_decode" "failed to allocate the output buffer" 0
        return ← finalAction callTable (-1)
      if (← parsePackets libav call.pError call.parsed call.dataSize) = false then
        return ← finalAction callTable (-1)
      flushDecoder libav call) := rfl

/-- The flush after the packet was dropped. -/
theorem sound_flushFrame (either : blind = none ∨ blind = some .parser) (libav : Libav)
    (call : DecodeCall) : Sound blind (do
      finalAction callTable (← wFfmpegDecodeFrame libav call.flush call.pError)) :=
  Keeps.bind (sound_decodeFrame _ _ _) fun ret => sound_finishCall either ret

theorem sound_decode (either : blind = none ∨ blind = some .parser) (libav : Libav)
    (opt : WFfmpegOpt) (call : DecodeCall) : Sound blind (wFfmpegDecode libav opt call) := by
  rw [decode_eq]
  refine Keeps.bind Keeps.get fun _ => Keeps.ite (Keeps.pure _) ?_
  refine Keeps.bind (sound_modifyCtx (sound_mapCtx fun _ => rfl)) fun _ => ?_
  refine Keeps.bind (sound_allocate _ _ fewer_dataOut fun _ _ => rfl) fun _ => ?_
  refine Keeps.ite (Keeps.bind (sound_makeError _ _ _) fun _ => sound_finishCall either _) ?_
  refine Keeps.bind (sound_parsePackets _ _ _ _) fun _ => Keeps.ite (sound_finishCall either _) ?_
  refine Keeps.bind (sound_modifyCtx (sound_drop (fun _ => fewer_clear .packet) fun _ => rfl))
    fun _ => ?_
  exact sound_flushFrame either libav call

/-! ## Opening and closing -/

theorem fewer_packet (pointer : Option Nat) (memory : Memory) :
    Fewer pointer memory (memory.mapCtx fun ctx =>
      { ctx with packet := pointer.map fun object => ⟨object, []⟩ }) := by
  rcases memory with ⟨_ | ctx⟩
  · exact fun root => .inl rfl
  · rintro (slot | _ | _ | _)
    · cases slot with
      | packet => exact .inr (.inr (by cases pointer <;> rfl))
      | _ => exact .inl rfl
    all_goals exact .inl rfl

theorem fewer_context (pointer : Option Nat) (memory : Memory) :
    Fewer pointer memory (memory.mapCtx fun ctx =>
      { ctx with context := pointer.map AVCodecContext.allocated }) := by
  rcases memory with ⟨_ | ctx⟩
  · exact fun root => .inl rfl
  · rintro (slot | _ | _ | _)
    · cases slot with
      | context => exact .inr (.inr (by cases pointer <;> rfl))
      | _ => exact .inl rfl
    all_goals exact .inl rfl

theorem fewer_yuvFrame (pointer : Option Nat) (memory : Memory) :
    Fewer pointer memory (memory.mapCtx fun ctx =>
      { ctx with yuvFrame := pointer.map AVFrame.allocated }) := by
  rcases memory with ⟨_ | ctx⟩
  · exact fun root => .inl rfl
  · rintro (slot | _ | _ | _)
    · cases slot with
      | yuvFrame => exact .inr (.inr (by cases pointer <;> rfl))
      | _ => exact .inl rfl
    all_goals exact .inl rfl

theorem fewer_rgbFrame (pointer : Option Nat) (memory : Memory) :
    Fewer pointer memory (memory.mapCtx fun ctx =>
      { ctx with rgbFrame := pointer.map AVFrame.allocated }) := by
  rcases memory with ⟨_ | ctx⟩
  · exact fun root => .inl rfl
  · rintro (slot | _ | _ | _)
    · cases slot with
      | rgbFrame => exact .inr (.inr (by cases pointer <;> rfl))
      | _ => exact .inl rfl
    · exact .inr (.inl (by cases pointer <;> rfl))
    all_goals exact .inl rfl

theorem fewer_parserField (pointer : Option Nat) (memory : Memory) :
    Fewer pointer memory (memory.mapCtx fun ctx => { ctx with parser := pointer }) := by
  rcases memory with ⟨_ | ctx⟩
  · exact fun root => .inl rfl
  · rintro (slot | _ | _ | _)
    · cases slot with
      | parser => exact .inr (.inr rfl)
      | _ => exact .inl rfl
    all_goals exact .inl rfl

theorem fewer_ctx (pointer : Option Nat) (memory : Memory) :
    Fewer pointer memory { memory with ctx := pointer.map WFfmpegCtx.allocated } := by
  rintro (slot | _ | _ | _)
  · cases slot with
    | ctx => exact .inr (.inr (by cases pointer <;> rfl))
    | opt | frameBufferOut | dataOut => exact .inl rfl
    | _ => exact .inr (.inl (by cases pointer <;> rfl))
  · exact .inr (.inl (by cases pointer <;> rfl))
  · exact .inl rfl
  · exact .inl rfl

theorem sound_initEncoder (either : blind = none ∨ blind = some .packet) (opt : WFfmpegOpt)
    (answers : EncoderAnswers) : Sound blind (wFfmpegInitEncoder opt answers) := by
  have close (ret : Int) :
      Sound blind (finalAction (Table.empty.set 0 (ctxChain .context .context)) ret) :=
    sound_finalAction ret (by decide) (spares_of either (by decide))
  refine Keeps.bind (sound_modifyCtx (sound_mapCtx fun _ => rfl)) fun _ => Keeps.ite ?_ ?_
  · exact Keeps.bind (sound_makeError _ _ _) fun _ =>
      sound_finalAction _ (by decide) (spares_of either (by decide))
  refine Keeps.bind (sound_allocateInCtx _ _ fewer_context) fun _ => Keeps.ite ?_ ?_
  · exact Keeps.bind (sound_makeError _ _ _) fun _ => close _
  have configured : ∀ ctx : WFfmpegCtx, skeleton { ctx with
      context := ctx.context.map fun context => { context with
        bitRate := opt.bitrate
        width := MachineInt.i32.wrap opt.width
        height := MachineInt.i32.wrap opt.height
        timeBase := (1, opt.fps)
        pixFmt := .yuv420p } } = skeleton ctx := fun ctx => by
    cases context : ctx.context <;> simp [skeleton, context]
  refine Keeps.bind (sound_modifyCtx (sound_mapCtx configured)) fun _ => Keeps.ite ?_ ?_
  · exact Keeps.bind (sound_makeError _ _ _) fun _ => close _
  refine Keeps.ite (Keeps.bind (sound_makeError _ _ _) fun _ => close _) (close _)

/-- `rgb_frame->data` becomes what `frame_buffer_out` is. -/
theorem sound_rgbData (unblind : blind ≠ some .frameBufferOut) (linesize : Int) :
    Sound blind (modify fun memory : Memory => memory.mapRgbFrame fun frame =>
      { frame with data := memory.frameBufferOut, linesize := linesize } : Op Unit) := by
  refine Keeps.modify fun memory => Moves.forget ?_
  rintro object ⟨root, seen, points⟩
  rcases memory with ⟨_ | ctx, dataOut, sizeOut, error, frameBufferIn, frameBufferOut⟩
  · exact ⟨root, seen, points⟩
  rcases root with slot | _ | _ | _
  · refine ⟨_, seen, Eq.trans ?_ points⟩
    cases slot with
    | rgbFrame =>
      cases frame : ctx.rgbFrame <;>
        simp [roots, Memory.pointer, Memory.mapRgbFrame, Memory.mapCtx, frame]
    | _ => rfl
  · refine ⟨.slot .frameBufferOut, fun _ same => Root.slot.inj same ▸ unblind, ?_⟩
    rcases frame : ctx.rgbFrame with _ | frame
    · simp [roots, Memory.mapRgbFrame, Memory.mapCtx, frame] at points
    · simpa [roots, Memory.pointer, Memory.mapRgbFrame, Memory.mapCtx, frame] using points
  · exact ⟨.frameBufferIn, seen, points⟩
  · exact ⟨.swsContext, seen, points⟩

theorem sound_initDecoder (either : blind = none ∨ blind = some .packet) (libav : Libav)
    (opt : WFfmpegOpt) (pError : Bool) (answers : DecoderAnswers) :
    Sound blind (wFfmpegInitDecoder libav opt pError answers) := by
  have fail {table : Table} (trace errorMsg : String) (errorCode : Int)
      (ordered : ∀ chain ∈ table, Ordered false chain = true) (spares : Spares (some .packet) table) :
      Sound blind (do makeError trace errorMsg errorCode; finalAction table (-1)) :=
    Keeps.bind (sound_makeError _ _ _) fun _ =>
      sound_finalAction _ ordered (spares_of either spares)
  have unblind : blind ≠ some .frameBufferOut := by rcases either with rfl | rfl <;> decide
  refine Keeps.ite (Keeps.pure _) ?_
  refine Keeps.bind (sound_modifyCtx (sound_mapCtx fun _ => rfl)) fun _ => ?_
  refine Keeps.ite (fail _ _ _ (by decide) (by decide)) ?_
  refine Keeps.bind (sound_allocateInCtx _ _ fewer_context) fun _ => ?_
  refine Keeps.ite (fail _ _ _ (by decide) (by decide)) ?_
  refine Keeps.bind (sound_allocateInCtx _ _ fewer_rgbFrame) fun _ => ?_
  refine Keeps.ite (fail _ _ _ (by decide) (by decide)) ?_
  refine Keeps.bind (sound_allocate _ _ fewer_frameBufferOut fun _ _ => rfl) fun _ => ?_
  refine Keeps.ite (fail _ _ _ (by decide) (by decide)) ?_
  refine Keeps.ite (fail _ _ _ (by decide) (by decide)) ?_
  refine Keeps.bind (sound_rgbData unblind _) fun _ => ?_
  refine Keeps.bind (sound_allocateInCtx _ _ fewer_parserField) fun _ => ?_
  refine Keeps.ite (fail _ _ _ (by decide) (by decide)) ?_
  refine Keeps.ite (fail _ _ _ (by decide) (by decide)) ?_
  refine Keeps.bind (sound_finalAction _ (by decide) (spares_of either (by decide))) fun _ => ?_
  exact Keeps.bind (sound_drop (fewer_frameBufferOut none) fun _ => rfl) fun _ => Keeps.pure _

theorem sound_init (libav : Libav) (opt : WFfmpegOpt) (pError : Bool) (answers : InitAnswers) :
    Sound none (wFfmpegInit libav opt pError answers) := by
  have fail {table : Table} (trace errorMsg : String)
      (ordered : ∀ chain ∈ table, Ordered false chain = true) :
      Sound none (do makeError trace errorMsg 0; finalAction table (-1)) :=
    Keeps.bind (sound_makeError _ _ _) fun _ => sound_finalAction _ ordered spares_none
  refine Keeps.ite (Keeps.pure _) ?_
  refine Keeps.bind (sound_allocate _ _ fewer_ctx fun _ _ => rfl) fun _ => ?_
  refine Keeps.ite (fail _ _ (by decide)) ?_
  refine Keeps.bind (sound_allocateInCtx _ _ fewer_packet) fun _ => ?_
  refine Keeps.ite (fail _ _ (by decide)) ?_
  refine Keeps.bind (sound_allocateInCtx _ _ fewer_yuvFrame) fun _ => ?_
  refine Keeps.ite (fail _ _ (by decide)) ?_
  have close (ret : Int) : Sound none (finalAction
      (((Table.empty.set 0 [(.data, .opt), (.data, .ctx)]).set 1
        [(.data, .ctx), (.packet, .packet)]).set 2 [(.data, .ctx), (.frame, .yuvFrame)]) ret) :=
    sound_finalAction ret (by decide) spares_none
  split
  · exact Keeps.bind (sound_initEncoder (.inl rfl) _ _) fun _ => Keeps.ite (close _) (close _)
  · exact Keeps.bind (sound_initDecoder (.inl rfl) _ _ _ _) fun _ => Keeps.ite (close _) (close _)
  · exact fail _ _ (by decide)

theorem sound_perform (either : blind = none ∨ blind = some .parser) (libav : Libav)
    (opt : WFfmpegOpt) (call : Call) : Sound blind (call.perform libav opt) := by
  have request : Sound blind (call.request.perform libav opt) := by
    rcases call.request with call | call
    · exact sound_encode either libav opt call
    · exact sound_decode either libav opt call
  exact Keeps.ite (Keeps.bind (sound_drop (fewer_dataOut none) fun _ => rfl) fun _ => request) request

theorem sound_performAll (either : blind = none ∨ blind = some .parser) (libav : Libav)
    (opt : WFfmpegOpt) (calls : List Call) : Sound blind (performAll libav opt calls) := by
  induction calls with
  | nil => exact Keeps.pure ()
  | cons call calls ih => exact Keeps.bind (sound_perform either libav opt call) fun _ => ih

theorem sound_fini : Sound none wFfmpegFini :=
  Keeps.bind (sound_finalAction _ (by decide) spares_none) fun _ => Keeps.pure ()

theorem sound_run (libav : Libav) (session : Session) : Sound none (session.run libav) :=
  Keeps.bind (sound_init _ _ _ _) fun _ =>
    Keeps.bind (sound_performAll (.inl rfl) _ _ _) fun _ => sound_fini

end WolfEngine.Verified.Ffmpeg
