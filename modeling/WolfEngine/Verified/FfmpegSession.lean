import WolfEngine.Verified.FfmpegCalls

/-! # A session and its own successes

An opened context is what the next call needs; a call that returns 0 has dropped
`yuv_frame`, or the packet, on its way to the flush.
-/

namespace WolfEngine.Verified.Ffmpeg

open Media Custody Faulting

/-- The fields of the context that a call of the opened kind uses. -/
def usedFields : WFfmpegAction → List Slot
  | .encode => [.packet, .context, .yuvFrame]
  | .decode => [.packet, .context, .yuvFrame, .rgbFrame, .parser]
  | .unknown => []

/-- Every field that the next call uses points to an object that was not released. -/
def Usable (type : WFfmpegAction) (memory : Memory) : Prop :=
  ∀ slot ∈ usedFields type, ∃ object, memory.pointer slot = some object ∧
    object ∉ memory.ledger.released

/-- The calls leave the context usable whenever they return 0. -/
def Survives (libav : Libav) (opt : WFfmpegOpt) : List Call → Memory → Prop
  | [], _ => True
  | call :: calls, memory => ∀ ret after,
    (call.perform libav opt).run memory = .ok (ret, after) →
      (ret = 0 → Usable opt.type after) ∧ Survives libav opt calls after

/-- The call is of the opened kind, and its inputs are not null. -/
def Suits (type : WFfmpegAction) (call : Call) : Prop :=
  match type, call.request with
  | .encode, .encode call => call.dataIn = true ∧ call.pError = true
  | .decode, .decode call => call.dataIn = true ∧ call.pError = true
  | _, _ => False

/-- ffmpeg answers every step of the call, and the flush of a decoding with 0. -/
def CallSucceeds (libav : Libav) (opt : WFfmpegOpt) (call : Call) : Prop :=
  match call.request with
  | .encode call => EncodeSucceeds opt call
  | .decode call => DecodeSucceeds libav call

/-- The field that a call does not leave behind. -/
def droppedField : WFfmpegAction → Slot
  | .decode => .packet
  | .encode | .unknown => .yuvFrame

variable {libav : Libav} {opt : WFfmpegOpt} {memory after : Memory}

/-! ## After the first call -/

theorem rgb2yuv_refuses (answers : Media.Rgb2yuvAnswers) (rgb pError : Bool) (width height : Int)
    (spent : memory.pointer .yuvFrame = none) :
    Does SameCtx (· = -1) (fun _ => True) (rgb2yuv libav answers rgb width height pError) memory := by
  rcases isCtx : memory.ctx with _ | ctx
  · refine Does.get ?_
    rw [isCtx]
    exact Does.throw trivial
  · refine Does.get (does_deref (by simp [isCtx]) fun found isFound => Does.ite (fun _ => ?_) fun usable => ?_)
    · exact Does.pure rfl
    · simp [Memory.pointer, isFound] at spent
      simp [spent] at usable

theorem encode_spent (call : EncodeCall) (spent : memory.pointer .yuvFrame = none) :
    Wp (wFfmpegEncode libav opt call) (fun ret after => ret ≠ 0 ∧ after.pointer .yuvFrame = none)
      (fun _ => True) memory := by
  refine wp_bind.mpr (wp_get.mpr ((wp_ite _ _ _).mpr ⟨fun _ => ⟨by decide, spent⟩, fun accepted => ?_⟩))
  have present : memory.ctx ≠ none := fun closed => accepted (.inl closed)
  refine Keeps.next (keepsCtx_modify fun _ => rfl) fun _ _ first => ?_
  have present := first.present present
  refine Does.next (keepsCtx_modifyCtx present fun _ => rfl) (fun _ => id) fun _ _ second _ => ?_
  have spent := (first.pointer (.inl rfl)).trans spent
  have spent := (second.pointer (.inl rfl)).trans spent
  refine Does.next (rgb2yuv_refuses _ _ _ _ _ spent) (fun _ => id) fun ret _ third failed => ?_
  have present := third.present (second.present present)
  refine (wp_ite _ _ _).mpr ⟨fun _ => ?_, fun nonneg => absurd (failed ▸ by decide) nonneg⟩
  exact (failCall_spec present).mono
    (fun ret _ failed => ⟨by simp [failed.1], pointer_of_closed failed.2 rfl⟩) fun _ => id

theorem parsePackets_spent (pError : Bool) (answers : List Parsed) (size : Int)
    (spent : memory.pointer .packet = none) :
    Wp (parsePackets libav pError answers size) (fun _ _ => False) (fun _ => True) memory := by
  rcases answers with _ | ⟨answer, answers⟩
  · exact trivial
  rcases isCtx : memory.ctx with _ | ctx
  · refine wp_bind.mpr (wp_get.mpr (wp_bind.mpr ?_))
    rw [isCtx]
    exact trivial
  have noPacket : ctx.packet = none := by simpa [Memory.pointer, isCtx] using spent
  refine wp_bind.mpr (wp_get.mpr (wp_bind.mpr ((wp_deref isCtx).mpr ?_)))
  refine wp_skip (fun _ => trivial) fun _ _ => wp_bind.mpr ?_
  rw [noPacket]
  exact trivial

theorem decode_spent (call : DecodeCall) (spent : memory.pointer .packet = none) :
    Wp (wFfmpegDecode libav opt call) (fun ret after => ret ≠ 0 ∧ after.pointer .packet = none)
      (fun _ => True) memory := by
  refine wp_bind.mpr (wp_get.mpr ((wp_ite _ _ _).mpr ⟨fun _ => ⟨by decide, spent⟩, fun accepted => ?_⟩))
  have present : memory.ctx ≠ none := fun closed => accepted (.inl closed)
  refine Does.next (keepsCtx_modifyCtx present fun _ => rfl) (fun _ => id) fun _ _ first _ => ?_
  refine Keeps.next (keepsCtx_allocate _ _ fun _ _ => rfl) fun _ _ second => ?_
  have present := second.present (first.present present)
  have spent := (first.pointer (.inl rfl)).trans spent
  have spent := (second.pointer (.inl rfl)).trans spent
  refine (wp_ite _ _ _).mpr ⟨fun _ => ?_, fun _ => ?_⟩
  · refine Keeps.next (keepsCtx_makeError _ _ _) fun _ _ third => ?_
    exact (failCall_spec (third.present present)).mono
      (fun ret _ failed => ⟨by simp [failed.1], pointer_of_closed failed.2 rfl⟩) fun _ => id
  · exact wp_bind.mpr ((parsePackets_spent _ _ _ spent).mono (fun _ _ => False.elim) fun _ => id)

/-! ## Sessions -/

/-- A context without the field stays so, and no call on it returns 0. -/
theorem perform_spent {call : Call} (suits : Suits opt.type call)
    (spent : memory.pointer (droppedField opt.type) = none) :
    Wp (call.perform libav opt)
      (fun ret after => ret ≠ 0 ∧ after.pointer (droppedField opt.type) = none)
      (fun _ => True) memory := by
  refine wp_perform fun start change => ?_
  have same : SameCtx memory start := by rcases change with rfl | rfl <;> exact rfl
  rcases call with ⟨nullOut, call | call⟩ <;> cases type : opt.type <;> rw [type] at suits spent
  · exact encode_spent call ((same.pointer (.inl rfl)).trans spent)
  · cases suits
  · cases suits
  · cases suits
  · exact decode_spent call ((same.pointer (.inl rfl)).trans spent)
  · cases suits

theorem perform_spec {call : Call} (suits : Suits opt.type call)
    (opened : Opened (usedFields opt.type) memory) :
    Wp (call.perform libav opt)
      (fun ret after => (ret = 0 ↔ CallSucceeds libav opt call) ∧
        after.pointer (droppedField opt.type) = none)
      (fun _ => ¬CallSucceeds libav opt call) memory := by
  refine wp_perform fun start change => ?_
  have same : SameCtx memory start := by rcases change with rfl | rfl <;> exact rfl
  have opened := same.opened opened
  rcases call with ⟨nullOut, call | call⟩ <;> cases type : opt.type <;> rw [type] at suits opened
  · refine (encode_spec libav opt call suits.1 suits.2 opened).mono ?_ fun _ => id
    rintro ret after (⟨succeeds, isZero, spent⟩ | ⟨unmet, rfl, closed⟩)
    · exact ⟨iff_of_true isZero succeeds, spent⟩
    · exact ⟨iff_of_false (by decide) unmet, pointer_of_closed closed rfl⟩
  · cases suits
  · cases suits
  · cases suits
  · exact decode_spec libav opt call suits.1 suits.2 opened
  · cases suits

theorem survives_spent {calls : List Call} (suit : ∀ call ∈ calls, Suits opt.type call)
    (spent : memory.pointer (droppedField opt.type) = none) : Survives libav opt calls memory := by
  induction calls generalizing memory with
  | nil => trivial
  | cons call calls ih =>
    obtain ⟨suits, suit⟩ := List.forall_mem_cons.mp suit
    intro ret after ran
    obtain ⟨failed, spent⟩ := (perform_spent suits spent).ok ran
    exact ⟨fun isZero => absurd isZero failed, ih suit spent⟩

theorem not_usable (opens : opt.type ≠ .unknown)
    (spent : memory.pointer (droppedField opt.type) = none) : ¬Usable opt.type memory := by
  intro usable
  have used : droppedField opt.type ∈ usedFields opt.type := by
    cases type : opt.type with
    | unknown => exact absurd type opens
    | encode | decode => decide
  obtain ⟨object, points, _⟩ := usable _ used
  cases spent.symm.trans points

theorem opened_of_init {pError : Bool} {answers : InitAnswers} {before : Memory}
    (ran : (wFfmpegInit libav opt pError answers).run before = .ok (0, memory)) :
    opt.type ≠ .unknown ∧ Opened (usedFields opt.type) memory := by
  obtain ⟨context, codec⟩ := (init_opens libav opt pError answers).ok ran (by decide)
  cases type : opt.type with
  | unknown => simp [type] at codec
  | encode =>
    simp only [type] at codec
    rw [init_encoder_run libav opt pError answers type context codec] at ran
    cases ran
    refine ⟨by decide, ?_⟩
    simp [Opened, usedFields, Slot.inCtx, Memory.pointer, openedEncoder]
  | decode =>
    simp only [type] at codec
    rw [init_decoder_run libav opt pError answers type context codec] at ran
    cases ran
    refine ⟨by decide, ?_⟩
    simp [Opened, usedFields, Slot.inCtx, Memory.pointer, openedDecoder]

theorem survives_iff (libav : Libav) (opt : WFfmpegOpt) (pError : Bool) (answers : InitAnswers)
    (before memory : Memory)
    (opened : (wFfmpegInit libav opt pError answers).run before = .ok (0, memory))
    (calls : List Call) (suit : ∀ call ∈ calls, Suits opt.type call) :
    Survives libav opt calls memory ↔ ∀ call ∈ calls.head?, ¬CallSucceeds libav opt call := by
  obtain ⟨known, opened⟩ := opened_of_init opened
  rcases calls with _ | ⟨call, calls⟩
  · exact iff_of_true trivial fun _ isNone => nomatch isNone
  obtain ⟨suits, suit⟩ := List.forall_mem_cons.mp suit
  have spec : Wp (call.perform libav opt) _ _ memory := perform_spec suits opened
  constructor
  · rintro survives _ ⟨⟩ succeeds
    obtain ⟨ret, after, ran, isZero, spent⟩ := spec.ends fun _ unmet => unmet succeeds
    exact not_usable known spent ((survives ret after ran).1 (isZero.mpr succeeds))
  · intro unmet ret after ran
    obtain ⟨isZero, spent⟩ := spec.ok ran
    exact ⟨fun zero => absurd (isZero.mp zero) (unmet call rfl), survives_spent suit spent⟩

/-! ### One picture -/

/-- The geometry of packed RGB. -/
def packedRgb : Libav := ⟨fun _ width height _ => 3 * width * height, fun _ width _ => 3 * width⟩

def smallPicture : WFfmpegOpt :=
  { fps := 30, width := 64, height := 64, bitrate := 400000, codecId := avCodecIdH264, type := .encode }

def willing : InitAnswers :=
  { calloc := true, avPacketAlloc := true, avFrameAlloc := true,
    encoder := ⟨true, true, 0, 0⟩, decoder := ⟨true, true, true, true, 0, true, 0⟩ }

/-- One packet for the frame, and none for the flush. -/
def onePicture : EncodeCall :=
  { dataIn := true, pError := true, conversion := ⟨true, true, 0, 64⟩, calloc := true
    frame := ⟨0, [(0, [0, 0, 0, 1]), (averrorEagain, [])]⟩, flush := ⟨0, [(averrorEof, [])]⟩ }

theorem willing_opens :
    (wFfmpegInit packedRgb smallPicture true willing).run Memory.initial =
      .ok (0, openedEncoder smallPicture Memory.initial) :=
  init_encoder_run packedRgb smallPicture true willing rfl ⟨rfl, rfl, rfl, rfl⟩
    ⟨rfl, rfl, fun _ => Int.le_refl 0, Int.le_refl 0⟩

theorem onePicture_succeeds : EncodeSucceeds smallPicture onePicture := by
  refine ⟨?_, rfl, ⟨Int.le_refl 0, ?_⟩, ⟨Int.le_refl 0, ?_⟩⟩
  · exact ⟨by decide, by decide, rfl, rfl, Int.le_refl 0, by decide⟩
  · exact .inr ⟨Int.le_refl 0, trivial, .inl (.inl rfl)⟩
  · exact .inl (.inr rfl)

theorem session_without_conversion_survives :
    Survives packedRgb smallPicture
      [⟨true, .encode { onePicture with conversion := ⟨false, true, 0, 64⟩ }⟩]
      (openedEncoder smallPicture Memory.initial) := by
  refine (survives_iff packedRgb smallPicture true willing Memory.initial _ willing_opens _ ?_).mpr ?_
  · exact List.forall_mem_singleton.mpr ⟨rfl, rfl⟩
  · rintro _ ⟨⟩ succeeds
    cases succeeds.1.2.2.1

/-- After the first picture there is no frame for a second one. -/
theorem one_picture_does_not_survive :
    (wFfmpegInit packedRgb smallPicture true willing).run Memory.initial =
        .ok (0, openedEncoder smallPicture Memory.initial) ∧
      Suits smallPicture.type ⟨true, .encode onePicture⟩ ∧
      ¬Survives packedRgb smallPicture [⟨true, .encode onePicture⟩]
        (openedEncoder smallPicture Memory.initial) := by
  have suits : Suits smallPicture.type ⟨true, .encode onePicture⟩ := ⟨rfl, rfl⟩
  refine ⟨willing_opens, suits, fun survives => ?_⟩
  have spec : Wp (Call.perform packedRgb smallPicture ⟨true, .encode onePicture⟩) _ _ _ :=
    perform_spec suits (opened_of_init willing_opens).2
  obtain ⟨ret, after, ran, isZero, spent⟩ := spec.ends fun _ unmet => unmet onePicture_succeeds
  exact not_usable (by decide) spent ((survives ret after ran).1 (isZero.mpr onePicture_succeeds))

end WolfEngine.Verified.Ffmpeg
