import WolfEngine.Verified.FfmpegSession

/-! # What a session releases

A session ends in one of three ways: the context was closed with everything released
once, something was lost on the way, or ffmpeg was handed a null pointer.  Which one it
is, is decided by how far `w_ffmpeg_init` came and by the first call that is not
refused.
-/

namespace WolfEngine.Verified.Ffmpeg

open Media Custody Faulting MachineInt

/-- What the library allocates for a context: not the output buffers, which are the
caller's, and not the converters, which are freed where they are made. -/
def ofContext : Kind → Bool
  | .output _ | .swsContext => false
  | .ctx | .packet | .context | .frame | .parser | .pixels _ => true

/-- The context is gone, and everything was released once. -/
def Closed (memory : Memory) : Prop :=
  memory.ctx = none ∧ memory.ledger.ReleasedOnce ofContext

/-- Something of the context can no longer be released. -/
def Leaked (memory : Memory) : Prop :=
  ∃ object kind, ofContext kind = true ∧ Lost memory.ledger (Holds none memory) object kind

theorem Leaked.not_releasedOnce {memory : Memory} (leaked : Leaked memory) :
    ¬memory.ledger.ReleasedOnce ofContext := by
  obtain ⟨object, kind, counted, lost⟩ := leaked
  exact lost.not_releasedOnce counted

theorem Leaked.moved {before after : Memory} (leaked : Leaked before) (moved : Moved none before after) :
    Leaked after := by
  obtain ⟨object, kind, counted, lost⟩ := leaked
  exact ⟨object, kind, counted, lost.moves moved⟩

/-- An object that only `slot` held is lost once `slot` is null. -/
theorem leaked_of_blind {memory : Memory} {slot : Slot} {object : Nat} {kind : Kind}
    (counted : ofContext kind = true)
    (lost : Lost memory.ledger (Holds (some slot) memory) object kind)
    (null : memory.pointer slot = none) : Leaked memory := by
  refine ⟨object, kind, counted, lost.acquired, lost.unreleased, ?_⟩
  rintro ⟨root, -, points⟩
  refine lost.unheld ⟨root, ?_, points⟩
  rintro kept rfl same
  obtain rfl := Option.some.inj same
  cases null.symm.trans points

/-- The call fails on an encoder before it has attached anything to the context. -/
def KeepsNothing (opt : WFfmpegOpt) (call : Call) : Prop :=
  match call.request with
  | .encode call => ¬Rgb2yuvSucceeds call.conversion opt.width opt.height
  | .decode call => call.calloc = false

/-- `w_ffmpeg_init` fails before it has allocated the second object, or it opens an
encoder and the first accepted call, if there is one, keeps nothing. -/
def ReleasesAll (session : Session) : Prop :=
  ¬(session.pError = true ∧ session.init.calloc = true ∧ session.init.avPacketAlloc = true) ∨
    session.opt.type = .encode ∧ InitSucceeds session.opt session.pError session.init ∧
      ∀ call ∈ session.calls.find? Accepted, KeepsNothing session.opt call

variable {libav : Libav} {opt : WFfmpegOpt} {memory : Memory} {fault : Fault → Prop}

/-! ## A closed context -/

theorem cleanup_closed (closed : memory.ctx = none) (links : List Link) {post : Unit → Memory → Prop} :
    Wp (cleanupChain ((.data, .opt) :: (.data, .ctx) :: links)) post fault memory ↔ post () memory := by
  simp [cleanupChain, lastLink, checkNull, freeLink, Slot.inCtx, Memory.pointer, closed]

theorem cleanup_fieldClosed (closed : memory.ctx = none) (links : List Link)
    {post : Unit → Memory → Prop} :
    Wp (cleanupChain ((.data, .ctx) :: links)) post fault memory ↔ post () memory := by
  simp [cleanupChain, lastLink, checkNull, freeLink, Slot.inCtx, Memory.pointer, closed]

theorem fini_closed (closed : memory.ctx = none) :
    Wp wFfmpegFini (fun _ after => after = memory) fault memory := by
  simp [wFfmpegFini, finalAction, toCleanup, ctxChain, cleanup, cleanup_closed closed]

theorem performAll_closed (calls : List Call) (closed : Closed memory) :
    Wp (performAll libav opt calls) (fun _ after => Closed after) (fun _ => True) memory := by
  induction calls generalizing memory with
  | nil => exact closed
  | cons call calls ih =>
    refine wp_bind.mpr ((perform_refused (.inl closed.1)).mono ?_ fun _ => id)
    rintro ret after ⟨-, rfl | rfl⟩
    · exact ih closed
    · exact ih closed

/-! ## A lost object -/

theorem lost_stays {α : Type} {op : Op α} {blind : Option Slot} {object : Nat} {kind : Kind}
    (lost : Lost memory.ledger (Holds blind memory) object kind) (sound : Sound blind op) :
    Wp op (fun _ after => Lost after.ledger (Holds blind after) object kind) (fun _ => True) memory :=
  (sound memory).mono (fun _ _ => lost.moves) fun _ _ => trivial

theorem Leaked.stays {α : Type} {op : Op α} (leaked : Leaked memory) (sound : Sound none op) :
    Wp op (fun _ after => Leaked after) (fun _ => True) memory :=
  (sound memory).mono (fun _ _ => leaked.moved) fun _ _ => trivial

theorem performAll_leaked (calls : List Call) (leaked : Leaked memory) :
    Wp (performAll libav opt calls) (fun _ after => Leaked after) (fun _ => True) memory :=
  leaked.stays (sound_performAll (.inl rfl) libav opt calls)

/-! ## Opening -/

theorem init_closed (libav : Libav) (opt : WFfmpegOpt) (pError : Bool) (answers : InitAnswers)
    (early : ¬(pError = true ∧ answers.calloc = true ∧ answers.avPacketAlloc = true)) :
    Wp (wFfmpegInit libav opt pError answers) (fun _ after => Closed after) (fun _ => True)
      Memory.initial := by
  have empty : Memory.initial.ledger.ReleasedOnce ofContext := Ledger.releasedOnce_of_perm .nil
  rcases answers with ⟨calloc, packet, frame, encoder, decoder⟩
  cases pError with
  | false => exact ⟨rfl, empty⟩
  | true =>
    cases calloc with
    | false => exact ⟨rfl, empty⟩
    | true =>
      cases packet with
      | false => exact ⟨rfl, Ledger.releasedOnce_of_perm (.refl _)⟩
      | true => exact absurd ⟨rfl, rfl, rfl⟩ early

theorem unheld_of_roots {object : Nat} (elsewhere : ∀ root, roots memory root ≠ some object)
    {blind : Option Slot} : ¬Holds blind memory object :=
  fun ⟨root, _, points⟩ => elsewhere root points

/-- The table of `w_ffmpeg_init` once it is complete.  Its first chain frees the context, and
with it every way to what hangs from it. -/
def initTable : Table :=
  [[(.data, .opt), (.data, .ctx)], [(.data, .ctx), (.packet, .packet)],
    [(.data, .ctx), (.frame, .yuvFrame)], [], [], []]

theorem failInit_leaked {kind : Kind} {object : Nat} (counted : ofContext kind = true)
    (lost : Lost memory.ledger (Holds (some .packet) memory) object kind) :
    Wp (finalAction initTable (-1)) (fun _ after => Leaked after) (fun _ => True) memory := by
  have others {memory : Memory} (closed : memory.ctx = none)
      (lost : Lost memory.ledger (Holds (some .packet) memory) object kind) :
      Wp (cleanup initTable.tail) (fun _ after => Leaked after) (fun _ => True) memory := by
    refine wp_bind.mpr ((cleanup_fieldClosed closed _).mpr ?_)
    refine wp_bind.mpr ((cleanup_fieldClosed closed _).mpr ?_)
    exact leaked_of_blind counted lost (pointer_of_closed closed rfl)
  suffices cleaned : Wp (cleanup initTable) (fun _ after => Leaked after) (fun _ => True) memory from
    wp_bind.mpr (cleaned.mono (fun _ _ leaked => leaked) fun _ => id)
  refine wp_bind.mpr ?_
  rcases isCtx : memory.ctx with _ | ctx
  · exact (cleanup_closed isCtx []).mpr (others isCtx lost)
  · have present : memory.ctx ≠ none := by simp [isCtx]
    refine Wp.mono (Wp.and (cleanup_ctx present) (sound_cleanupChain (by decide) (by decide) memory))
      (fun _ after ⟨closed, moved⟩ => others closed (lost.moves moved)) fun _ _ => trivial

/-- The memory in which `w_ffmpeg_init` comes to the codec. -/
def allocatedCtx : Memory :=
  { Memory.initial with
    ctx := some { WFfmpegCtx.allocated 0 with
      packet := some ⟨1, []⟩
      yuvFrame := some (AVFrame.allocated 2) }
    ledger := ⟨[.ctx, .packet, .frame], []⟩ }

theorem allocatedCtx_packet :
    Lost allocatedCtx.ledger (Holds (some .packet) allocatedCtx) 1 .packet := by
  refine ⟨rfl, List.not_mem_nil, ?_⟩
  rintro ⟨slot | _ | _ | _, seen, points⟩
  · cases slot <;> first | exact absurd rfl (seen _ rfl) | cases points
  all_goals cases points

/-- A codec that does not open loses the packet. -/
theorem codec_leaked {op : Op Int} {opens : Prop} (sound : Sound (some .packet) op)
    (opened : Wp op (fun ret _ => 0 ≤ ret → opens) (fun _ => True) allocatedCtx) (closed : ¬opens) :
    Wp (op >>= fun ret => if ret < 0 then finalAction initTable (-1) else finalAction initTable 0)
      (fun _ after => Leaked after) (fun _ => True) allocatedCtx := by
  refine wp_bind.mpr ((opened.and (lost_stays allocatedCtx_packet sound)).mono ?_ fun _ => id)
  rintro ret after ⟨opened, lost⟩
  refine (wp_ite _ _ _).mpr ⟨fun _ => failInit_leaked rfl lost, fun nonneg => ?_⟩
  exact absurd (opened (Int.not_lt.mp nonneg)) closed

theorem init_leaked (libav : Libav) (opt : WFfmpegOpt) (pError : Bool) (answers : InitAnswers)
    (late : pError = true ∧ answers.calloc = true ∧ answers.avPacketAlloc = true)
    (fails : ¬InitSucceeds opt pError answers) :
    Wp (wFfmpegInit libav opt pError answers) (fun _ after => Leaked after) (fun _ => True)
      Memory.initial := by
  rcases answers with ⟨calloc, packet, frame, encoder, decoder⟩
  obtain ⟨rfl, rfl, rfl⟩ := late
  have context (allocated : frame = true) :
      ContextOpens true ⟨true, true, frame, encoder, decoder⟩ := ⟨rfl, rfl, rfl, allocated⟩
  cases frame with
  | false =>
    have unreleased : 1 ∉ ([0] : List Nat) := by decide
    refine ⟨1, .packet, rfl, rfl, unreleased, unheld_of_roots ?_⟩
    rintro (slot | _ | _ | _)
    · cases slot <;> exact Option.some_ne_none _ ∘ Eq.symm
    all_goals exact Option.some_ne_none _ ∘ Eq.symm
  | true =>
    rcases opt with ⟨fps, width, height, bitrate, codecId, type⟩
    cases type with
    | encode =>
      exact codec_leaked (sound_initEncoder (.inr rfl) _ encoder)
        (initEncoder_opens ⟨fps, width, height, bitrate, codecId, .encode⟩ encoder)
        fun opens => fails ⟨context rfl, opens⟩
    | decode =>
      exact codec_leaked (sound_initDecoder (.inr rfl) libav _ true decoder)
        (initDecoder_opens libav ⟨fps, width, height, bitrate, codecId, .decode⟩ decoder)
        fun opens => fails ⟨context rfl, opens⟩
    | unknown =>
      have errorSet : Sound (some .packet) (makeError "ffmpeg::w_ffmpeg_init"
        "ffmpeg action not found. please provide ffmpeg action (e.g W_ENCODE or W_DECODE)" 0) :=
        sound_makeError _ _ _
      exact wp_bind.mpr ((lost_stays allocatedCtx_packet errorSet).mono
        (fun _ _ lost => failInit_leaked rfl lost) fun _ => id)

/-! ## The buffer that a conversion attaches -/

/-- Everything reached or released was acquired. -/
structure Bounded (memory : Memory) : Prop where
  reached : ∀ root object, roots memory root = some object → object < memory.ledger.fresh
  released : ∀ object ∈ memory.ledger.released, object < memory.ledger.fresh

/-- Two objects more, of which only the first was released and nothing holds the second. -/
theorem Bounded.leaked {before after : Memory} (bounded : Bounded before) {first kind : Kind}
    (ledger : after.ledger =
      ((before.ledger.acquire first).acquire kind).release before.ledger.fresh)
    (fewer : Fewer none before after) (counted : ofContext kind = true) : Leaked after := by
  refine ⟨before.ledger.fresh + 1, kind, counted, ?_, ?_, ?_⟩
  · rw [ledger]
    simp [Ledger.release, Ledger.acquire, Ledger.fresh]
  · rw [ledger]
    intro released
    rcases List.mem_append.mp released with old | new
    · exact absurd (bounded.released _ old) (by omega)
    · exact absurd (List.mem_singleton.mp new) (by omega)
  · rintro holds
    obtain ⟨root, _, points⟩ := (fewer.holds _ holds).resolve_right (Option.some_ne_none _ ∘ Eq.symm)
    exact absurd (bounded.reached root _ points) (by omega)

/-- A successful conversion leaves its buffer to `yuv_frame->data`, where nobody looks for it. -/
theorem rgb2yuv_leaks (bounded : Bounded memory) {answers : Rgb2yuvAnswers} {width height : Int}
    (succeeds : Rgb2yuvSucceeds answers width height) (frame : memory.pointer .yuvFrame ≠ none) :
    Wp (rgb2yuv libav answers true width height true) (fun ret after => ret = 0 ∧ Leaked after)
      fault memory := by
  rcases memory with ⟨_ | ⟨object, codecId, context, packet, rgbFrame, _ | yuvFrame, codec, parser⟩⟩
  · exact absurd rfl frame
  · exact absurd rfl frame
  rcases answers with ⟨swsGetContext, avMalloc, avImageFillArrays, swsScale⟩
  obtain ⟨wide, high, rfl, rfl, filled, scaled⟩ := succeeds
  refine (wp_ite _ _ _).mpr ⟨fun refused => ?_, fun _ => ?_⟩
  · simp [wide, high] at refused
  refine (wp_ite _ _ _).mpr ⟨fun negative => absurd filled (Int.not_le.mpr negative), fun _ => ?_⟩
  refine wp_bind.mpr ((wp_ite _ _ _).mpr
    ⟨fun negative => absurd scaled (Int.not_le.mpr negative), fun _ => ⟨rfl, ?_⟩⟩)
  refine bounded.leaked rfl ?_ rfl
  rintro (slot | _ | _ | _)
  · cases slot <;> exact .inl rfl
  · exact .inl rfl
  · exact .inr (.inl rfl)
  · exact .inr (.inl rfl)

theorem Bounded.of_roots {before after : Memory} (bounded : Bounded before)
    (pointers : roots after = roots before) (ledger : after.ledger = before.ledger) : Bounded after := by
  refine ⟨fun root object points => ?_, fun object released => ?_⟩
  · rw [pointers] at points
    exact ledger ▸ bounded.reached root object points
  · rw [ledger] at released ⊢
    exact bounded.released object released

theorem encode_leaks (bounded : Bounded memory) (frame : memory.pointer .yuvFrame ≠ none)
    {call : EncodeCall} (dataIn : call.dataIn = true) (pError : call.pError = true)
    (succeeds : Rgb2yuvSucceeds call.conversion opt.width opt.height) :
    Wp (wFfmpegEncode libav opt call) (fun _ after => Leaked after) (fun _ => True) memory := by
  have present : memory.ctx ≠ none := fun closed => frame (pointer_of_closed closed rfl)
  rw [encode_eq, dataIn, pError]
  refine wp_bind.mpr (wp_get.mpr ((wp_ite _ _ _).mpr ⟨fun refused => ?_, fun _ => ?_⟩))
  · simp [present] at refused
  have start : ({ memory with sizeOut := 0 } : Memory).ctx ≠ none := present
  refine wp_bind.mpr (wp_bind.mpr ((wp_modifyCtx start).mpr ?_))
  have pointers : roots (({ memory with sizeOut := 0 } : Memory).mapCtx fun ctx =>
      { ctx with codecId := opt.codecId }) = roots memory := roots_mapCtx fun _ => rfl
  have bounded := bounded.of_roots pointers rfl
  refine wp_bind.mpr ((rgb2yuv_leaks bounded succeeds ?_).mono ?_ fun _ => id)
  · exact fun null => frame ((congrFun pointers (.slot .yuvFrame)).symm.trans null)
  · rintro _ middle ⟨rfl, leaked⟩
    exact leaked.stays (sound_encodeConverted (.inl rfl) opt call)

/-! ## An encoder -/

/-- The encoder of a session that has made no accepted call yet. -/
abbrev freshEncoder (opt : WFfmpegOpt) : Memory := openedEncoder opt Memory.initial

theorem fini_encoder : Wp wFfmpegFini (fun _ after => Closed after) fault (freshEncoder opt) := by
  have all : [1, 3, 2, 0].Perm (List.range 4) := by decide
  exact ⟨rfl, Ledger.releasedOnce_of_perm all⟩

theorem bounded_encoder : Bounded (freshEncoder opt) := by
  refine ⟨?_, fun _ released => nomatch released⟩
  rintro (slot | _ | _ | _) object points
  · cases slot <;> cases points <;> exact Nat.le_of_ble_eq_true rfl
  all_goals cases points

/-- A conversion that fails leaves an encoder to its table. -/
theorem encode_closes {call : EncodeCall} (dataIn : call.dataIn = true) (pError : call.pError = true)
    (unmet : ¬Rgb2yuvSucceeds call.conversion opt.width opt.height) :
    Wp (wFfmpegEncode libav opt call) (fun _ after => Closed after) fault (freshEncoder opt) := by
  rcases call with ⟨_, _, ⟨swsGetContext, avMalloc, avImageFillArrays, swsScale⟩, calloc, frame, flush⟩
  obtain rfl := dataIn
  obtain rfl := pError
  have without : [1, 3, 2, 0].Perm (List.range 4) := by decide
  have withContext : [4, 1, 3, 2, 0].Perm (List.range 5) := by decide
  have withBuffer : [4, 5, 1, 3, 2, 0].Perm (List.range 6) := by decide
  show Wp (rgb2yuv libav ⟨swsGetContext, avMalloc, avImageFillArrays, swsScale⟩ true opt.width opt.height
      true >>= fun ret => if ret < 0 then finalAction callTable (-1) else encodeConverted opt _) _ _
    (({ freshEncoder opt with sizeOut := 0 } : Memory).mapCtx fun ctx => { ctx with codecId := opt.codecId })
  refine wp_bind.mpr ((wp_ite _ _ _).mpr ⟨fun _ => ?_, fun accepted => ?_⟩)
  · exact ⟨rfl, Ledger.releasedOnce_of_perm without⟩
  cases swsGetContext with
  | false => exact ⟨rfl, Ledger.releasedOnce_of_perm without⟩
  | true =>
    cases avMalloc with
    | false => exact ⟨rfl, Ledger.releasedOnce_of_perm withContext⟩
    | true =>
      refine (wp_ite _ _ _).mpr ⟨fun _ => ?_, fun filled => ?_⟩
      · exact ⟨rfl, Ledger.releasedOnce_of_perm withBuffer⟩
      refine wp_bind.mpr ((wp_ite _ _ _).mpr ⟨fun _ => ?_, fun scaled => ?_⟩)
      · exact ⟨rfl, Ledger.releasedOnce_of_perm withBuffer⟩
      simp only [not_or] at accepted
      exact absurd ⟨accepted.2.1, accepted.2.2.1, rfl, rfl, Int.not_lt.mp filled, Int.not_lt.mp scaled⟩ unmet

/-- An encoder has no parser: only a decoding that allocates nothing returns. -/
theorem decode_closes {call : DecodeCall} (dataIn : call.dataIn = true) (pError : call.pError = true) :
    Wp (wFfmpegDecode libav opt call) (fun _ after => call.calloc = false ∧ Closed after)
      (fun _ => True) (freshEncoder opt) := by
  rcases call with ⟨_, dataSize, _, calloc, parsed, flush⟩
  obtain rfl := dataIn
  obtain rfl := pError
  have without : [1, 3, 2, 0].Perm (List.range 4) := by decide
  cases calloc with
  | false => exact ⟨rfl, rfl, Ledger.releasedOnce_of_perm without⟩
  | true =>
    rcases parsed with _ | ⟨answer, parsed⟩
    · exact trivial
    · exact trivial

/-! ## A decoder -/

/-- The decoder of a session that has made no accepted call yet. -/
abbrev freshDecoder (libav : Libav) (opt : WFfmpegOpt) : Memory := openedDecoder libav opt Memory.initial

theorem bounded_decoder : Bounded (freshDecoder libav opt) := by
  refine ⟨?_, fun _ released => nomatch released⟩
  rintro (slot | _ | _ | _) object points
  · cases slot <;> cases points <;> exact Nat.le_of_ble_eq_true rfl
  all_goals cases points
  exact Nat.le_of_ble_eq_true rfl

theorem opened_decoder :
    Opened [.packet, .context, .yuvFrame, .rgbFrame, .parser] (freshDecoder libav opt) := by
  simp [Opened, Slot.inCtx, Memory.pointer, openedDecoder]

theorem decoder_ownsParser :
    Lost (freshDecoder libav opt).ledger (Holds (some .parser) (freshDecoder libav opt)) 6 .parser := by
  refine ⟨rfl, List.not_mem_nil, ?_⟩
  rintro ⟨slot | _ | _ | _, seen, points⟩
  · cases slot <;> first | exact absurd rfl (seen _ rfl) | cases points
  all_goals cases points

theorem decoder_ownsPacket :
    Lost (freshDecoder libav opt).ledger (Holds (some .packet) (freshDecoder libav opt)) 1 .packet := by
  refine ⟨rfl, List.not_mem_nil, ?_⟩
  rintro ⟨slot | _ | _ | _, seen, points⟩
  · cases slot <;> first | exact absurd rfl (seen _ rfl) | cases points
  all_goals cases points

/-- Nothing frees the buffer for the decoded pictures. -/
theorem fini_decoder : Wp wFfmpegFini (fun _ after => Leaked after) fault (freshDecoder libav opt) := by
  have unreleased : 5 ∉ [1, 3, 2, 4, 6, 0] := by decide
  refine ⟨5, decodedPixels libav opt, rfl, rfl, unreleased, unheld_of_roots ?_⟩
  rintro (slot | _ | _ | _)
  · cases slot <;> exact Option.some_ne_none _ ∘ Eq.symm
  all_goals exact Option.some_ne_none _ ∘ Eq.symm

/-- A call that closes the decoder forgets the parser. -/
theorem leaked_of_closes {op : Op Int} (sound : Sound (some .parser) op)
    (closes : Wp op (fun _ after => after.ctx = none) (fun _ => True) (freshDecoder libav opt)) :
    Wp op (fun _ after => Leaked after) (fun _ => True) (freshDecoder libav opt) := by
  exact (closes.and (lost_stays decoder_ownsParser sound)).mono (fun _ _ ⟨closed, lost⟩ =>
    leaked_of_blind rfl lost (pointer_of_closed closed rfl)) fun _ => id

theorem encode_decoder {call : EncodeCall} (dataIn : call.dataIn = true) (pError : call.pError = true) :
    Wp (wFfmpegEncode libav opt call) (fun _ after => Leaked after) (fun _ => True)
      (freshDecoder libav opt) := by
  by_cases succeeds : Rgb2yuvSucceeds call.conversion opt.width opt.height
  · exact encode_leaks bounded_decoder (opened_decoder .yuvFrame (by decide)).2 dataIn pError succeeds
  · refine leaked_of_closes (sound_encode (.inr rfl) libav opt call) ?_
    refine (encode_spec libav opt call dataIn pError (opened_decoder.fewer (by decide))).mono ?_
      fun _ _ => trivial
    rintro ret after (⟨all, _, _⟩ | ⟨_, _, closed⟩)
    · exact absurd all.1 succeeds
    · exact closed

/-- A decoder in the middle of a call: what the call uses is there, and the parser and the
packet are held by their own fields only. -/
structure Decoding (memory : Memory) : Prop where
  opened : Opened [.packet, .context, .yuvFrame, .rgbFrame, .parser] memory
  packet : Lost memory.ledger (Holds (some .packet) memory) 1 .packet
  parser : Lost memory.ledger (Holds (some .parser) memory) 6 .parser

theorem Decoding.next {α β : Type} {op : Op α} {rest : α → Op β} {post : β → Memory → Prop}
    (decoding : Decoding memory)
    (same : Wp op (fun _ after => SameCtx memory after) (fun _ => True) memory)
    (sound : ∀ blind, Sound blind op)
    (second : ∀ result middle, Decoding middle → Wp (rest result) post (fun _ => True) middle) :
    Wp (op >>= rest) post (fun _ => True) memory := by
  have packet := lost_stays decoding.packet (sound _)
  have parser := lost_stays decoding.parser (sound _)
  exact wp_bind.mpr ((same.and (packet.and parser)).mono (fun result middle ⟨same, packet, parser⟩ =>
    second result middle ⟨same.opened decoding.opened, packet, parser⟩) fun _ => id)

theorem Decoding.fail (decoding : Decoding memory) :
    Wp (finalAction callTable (-1)) (fun _ after => Leaked after) (fun _ => True) memory := by
  have closes : Wp (finalAction callTable (-1)) _ (fun _ => True) memory :=
    failCall_spec (decoding.opened.ctx (List.mem_cons_self ..))
  have kept := lost_stays decoding.parser (sound_finishCall (.inr rfl) (-1))
  exact (closes.and kept).mono (fun _ _ ⟨closed, lost⟩ =>
    leaked_of_blind rfl lost (pointer_of_closed closed.2 rfl)) fun _ => id

/-- The flush drops the packet. -/
theorem Decoding.flush (decoding : Decoding memory) (call : DecodeCall) :
    Wp (flushDecoder libav call) (fun _ after => Leaked after) (fun _ => True) memory := by
  refine wp_bind.mpr ((wp_modifyCtx (decoding.opened.ctx (List.mem_cons_self ..))).mpr ?_)
  have dropped : Moved (some .packet) memory (memory.clear .packet) := moved_of_fewer (fewer_clear _) rfl
  have leaked : Leaked (memory.clear .packet) :=
    leaked_of_blind rfl (decoding.packet.moves dropped) (pointer_clear _)
  exact leaked.stays (sound_flushFrame (.inl rfl) libav call)

theorem decode_decoder {call : DecodeCall} (dataIn : call.dataIn = true) (pError : call.pError = true) :
    Wp (wFfmpegDecode libav opt call) (fun _ after => Leaked after) (fun _ => True)
      (freshDecoder libav opt) := by
  have decoding : Decoding (freshDecoder libav opt) := ⟨opened_decoder, decoder_ownsPacket, decoder_ownsParser⟩
  have present := decoding.opened.ctx (List.mem_cons_self ..)
  rw [decode_eq, dataIn, pError]
  refine wp_bind.mpr (wp_get.mpr ((wp_ite _ _ _).mpr ⟨fun refused => ?_, fun _ => ?_⟩))
  · simp [openedDecoder] at refused
  refine Decoding.next decoding ((wp_modifyCtx present).mpr (sameCtx_mapCtx fun _ => rfl))
    (fun _ => sound_modifyCtx (sound_mapCtx fun _ => rfl)) fun _ _ decoding => ?_
  refine Decoding.next decoding ((allocateOutput_spec _ _).mono (fun _ _ => And.left) fun _ => id)
    (fun _ => sound_allocate _ _ fewer_dataOut fun _ _ => rfl) fun _ _ decoding => ?_
  refine (wp_ite _ _ _).mpr ⟨fun _ => ?_, fun _ => ?_⟩
  · exact Decoding.next decoding rfl (fun _ => sound_makeError _ _ _) fun _ _ decoding => decoding.fail
  have parsing := parsePackets_spec libav call.parsed call.dataSize decoding.opened
  refine Decoding.next decoding (Wp.mono parsing (fun _ _ => And.left) fun _ _ => trivial)
    (fun _ => sound_parsePackets _ _ _ _) fun _ _ decoding => ?_
  exact (wp_ite _ _ _).mpr ⟨fun _ => decoding.fail, fun _ => decoding.flush call⟩

/-! ## Sessions -/

theorem perform_encoder {call : Call} (accepted : Accepted call = true) :
    Wp (call.perform libav opt)
      (fun _ after => KeepsNothing opt call ∧ Closed after ∨ ¬KeepsNothing opt call ∧ Leaked after)
      (fun _ => True) (freshEncoder opt) := by
  refine wp_perform fun start same => ?_
  obtain rfl : start = freshEncoder opt := by rcases same with rfl | rfl <;> rfl
  rcases call with ⟨nullOut, call | call⟩
  · obtain ⟨dataIn, pError⟩ := Bool.and_eq_true_iff.mp accepted
    by_cases succeeds : Rgb2yuvSucceeds call.conversion opt.width opt.height
    · have frame : (freshEncoder opt).pointer .yuvFrame ≠ none := Option.some_ne_none _
      exact (encode_leaks bounded_encoder frame dataIn pError succeeds).mono
        (fun _ _ leaked => .inr ⟨not_not_intro succeeds, leaked⟩) fun _ => id
    · exact (encode_closes dataIn pError succeeds).mono (fun _ _ closed => .inl ⟨succeeds, closed⟩) fun _ => id
  · obtain ⟨dataIn, pError⟩ := Bool.and_eq_true_iff.mp accepted
    exact (decode_closes dataIn pError).mono (fun _ _ => .inl) fun _ => id

/-- The first accepted call decides what becomes of an encoder. -/
theorem performAll_encoder (calls : List Call) :
    Wp (performAll libav opt calls)
      (fun _ after => (∀ call ∈ calls.find? Accepted, KeepsNothing opt call) ∧
          (after = freshEncoder opt ∨ Closed after) ∨
        ¬(∀ call ∈ calls.find? Accepted, KeepsNothing opt call) ∧ Leaked after)
      (fun _ => True) (freshEncoder opt) := by
  induction calls with
  | nil => exact .inl ⟨fun _ isNone => (nomatch isNone), .inl rfl⟩
  | cons call calls ih =>
    cases accepted : Accepted call with
    | false =>
      rw [List.find?_cons_of_neg (by simp [accepted])]
      refine wp_bind.mpr ((perform_refused (.inr accepted)).mono ?_ fun _ => id)
      rintro ret after ⟨-, rfl | rfl⟩
      · exact ih
      · exact ih
    | true =>
      -- the first accepted call either closes the encoder or loses something of it, and
      -- neither can be undone
      rw [List.find?_cons_of_pos accepted]
      refine wp_bind.mpr ((perform_encoder accepted).mono ?_ fun _ => id)
      rintro ret after (⟨keeps, closed⟩ | ⟨keeps, leaked⟩)
      · refine (performAll_closed calls closed).mono (fun _ _ closed => .inl ⟨?_, .inr closed⟩) fun _ => id
        exact fun _ same => Option.some.inj same ▸ keeps
      · exact (performAll_leaked calls leaked).mono
          (fun _ _ leaked => .inr ⟨fun all => keeps (all call rfl), leaked⟩) fun _ => id

theorem performAll_decoder (calls : List Call) :
    Wp (performAll libav opt calls) (fun _ after => after = freshDecoder libav opt ∨ Leaked after)
      (fun _ => True) (freshDecoder libav opt) := by
  induction calls with
  | nil => exact .inl rfl
  | cons call calls ih =>
    cases accepted : Accepted call with
    | false =>
      refine wp_bind.mpr ((perform_refused (.inr accepted)).mono ?_ fun _ => id)
      rintro ret after ⟨-, rfl | rfl⟩
      · exact ih
      · exact ih
    | true =>
      have leaks : Wp (call.perform libav opt) (fun _ after => Leaked after) (fun _ => True)
          (freshDecoder libav opt) := by
        refine wp_perform fun start same => ?_
        obtain rfl : start = freshDecoder libav opt := by rcases same with rfl | rfl <;> rfl
        rcases call with ⟨nullOut, call | call⟩
        · obtain ⟨dataIn, pError⟩ := Bool.and_eq_true_iff.mp accepted
          exact encode_decoder dataIn pError
        · obtain ⟨dataIn, pError⟩ := Bool.and_eq_true_iff.mp accepted
          exact decode_decoder dataIn pError
      refine wp_bind.mpr (leaks.mono (fun _ _ leaked => ?_) fun _ => id)
      exact (performAll_leaked calls leaked).mono (fun _ _ => .inr) fun _ => id

/-- How a session should have ended, and how it did. -/
def EndsAs (session : Session) (memory : Memory) : Prop :=
  ReleasesAll session ∧ Closed memory ∨ ¬ReleasesAll session ∧ Leaked memory

theorem fini_endsAs_of_closed {session : Session} (all : ReleasesAll session) (closed : Closed memory) :
    Wp wFfmpegFini (fun _ after => EndsAs session after) (fun _ => True) memory :=
  (fini_closed closed.1).mono (fun _ _ same => .inl ⟨all, same ▸ closed⟩) fun _ => id

theorem fini_endsAs_of_leaked {session : Session} (notAll : ¬ReleasesAll session) (leaked : Leaked memory) :
    Wp wFfmpegFini (fun _ after => EndsAs session after) (fun _ => True) memory :=
  (leaked.stays sound_fini).mono (fun _ _ leaked => .inr ⟨notAll, leaked⟩) fun _ => id

section Ends

variable {pError : Bool} {init : InitAnswers} {calls : List Call}
  (late : pError = true ∧ init.calloc = true ∧ init.avPacketAlloc = true)

include late

theorem encoder_ends (isEncode : opt.type = .encode) (opens : InitSucceeds opt pError init) :
    Wp (performAll libav opt calls >>= fun _ => wFfmpegFini)
      (fun _ after => EndsAs ⟨opt, pError, init, calls⟩ after) (fun _ => True) (freshEncoder opt) := by
  refine wp_bind.mpr ((performAll_encoder calls).mono ?_ fun _ => id)
  rintro _ after (⟨all, ended⟩ | ⟨notAll, leaked⟩)
  · have all : ReleasesAll ⟨opt, pError, init, calls⟩ := .inr ⟨isEncode, opens, all⟩
    rcases ended with rfl | closed
    · exact fini_encoder.mono (fun _ _ closed => .inl ⟨all, closed⟩) fun _ => id
    · exact fini_endsAs_of_closed all closed
  · refine fini_endsAs_of_leaked ?_ leaked
    rintro (early | ⟨_, _, all⟩)
    · exact early late
    · exact notAll all

theorem decoder_ends (isDecode : opt.type = .decode) :
    Wp (performAll libav opt calls >>= fun _ => wFfmpegFini)
      (fun _ after => EndsAs ⟨opt, pError, init, calls⟩ after) (fun _ => True) (freshDecoder libav opt) := by
  have notAll : ¬ReleasesAll ⟨opt, pError, init, calls⟩ := by
    rintro (early | ⟨isEncode, _, _⟩)
    · exact early late
    · cases isDecode.symm.trans isEncode
  refine wp_bind.mpr ((performAll_decoder calls).mono ?_ fun _ => id)
  rintro _ after (rfl | leaked)
  · exact fini_decoder.mono (fun _ _ leaked => .inr ⟨notAll, leaked⟩) fun _ => id
  · exact fini_endsAs_of_leaked notAll leaked

theorem unopened_ends (fails : ¬InitSucceeds opt pError init) :
    Wp (Session.run libav ⟨opt, pError, init, calls⟩)
      (fun _ after => EndsAs ⟨opt, pError, init, calls⟩ after) (fun _ => True) Memory.initial := by
  have notAll : ¬ReleasesAll ⟨opt, pError, init, calls⟩ := by
    rintro (early | ⟨_, succeeds, _⟩)
    · exact early late
    · exact fails succeeds
  refine wp_bind.mpr ((init_leaked libav opt pError init late fails).mono (fun _ _ leaked => ?_) fun _ => id)
  exact wp_bind.mpr ((performAll_leaked calls leaked).mono
    (fun _ _ => fini_endsAs_of_leaked notAll) fun _ => id)

end Ends

theorem session_ends (libav : Libav) (session : Session) :
    Wp (session.run libav) (fun _ after => EndsAs session after) (fun _ => True) Memory.initial := by
  rcases session with ⟨opt, pError, init, calls⟩
  by_cases late : pError = true ∧ init.calloc = true ∧ init.avPacketAlloc = true
  · by_cases opens : InitSucceeds opt pError init
    · have ⟨context, codec⟩ := opens
      cases type : opt.type with
      | unknown => simp [type] at codec
      | encode =>
        simp only [type] at codec
        refine wp_bind.mpr (wp_of_run (init_encoder_run libav opt pError init type context codec) ?_)
        exact encoder_ends late type opens
      | decode =>
        simp only [type] at codec
        refine wp_bind.mpr (wp_of_run (init_decoder_run libav opt pError init type context codec) ?_)
        exact decoder_ends late type
    · exact unopened_ends late opens
  · refine wp_bind.mpr ((init_closed libav opt pError init late).mono (fun _ _ closed => ?_) fun _ => id)
    exact wp_bind.mpr ((performAll_closed calls closed).mono
      (fun _ _ => fini_endsAs_of_closed (.inl late)) fun _ => id)

theorem released_once_iff (libav : Libav) (session : Session) :
    (session.run libav).run Memory.initial ≠ .error .useAfterRelease ∧
      ∀ memory, (session.run libav).run Memory.initial = .ok ((), memory) →
        (memory.ledger.ReleasedOnce ofContext ↔ ReleasesAll session) := by
  refine ⟨fun stopped => (sound_run libav session Memory.initial).error stopped rfl, fun memory ran => ?_⟩
  rcases (session_ends libav session).ok ran with ⟨all, closed⟩ | ⟨notAll, leaked⟩
  · exact iff_of_true closed.2 all
  · exact iff_of_false leaked.not_releasedOnce notAll

/-! ### Opened and closed -/

/-- A session without a call, in which every step of `w_ffmpeg_init` succeeds. -/
def idle (type : WFfmpegAction) : Session :=
  { opt := { smallPicture with type := type }, pError := true, init := willing, calls := [] }

theorem idle_encoder_releases :
    ∃ memory, ((idle .encode).run packedRgb).run Memory.initial = .ok ((), memory) ∧
      memory.ledger.ReleasedOnce ofContext := by
  have opens : InitSucceeds (idle .encode).opt (idle .encode).pError (idle .encode).init :=
    ⟨⟨rfl, rfl, rfl, rfl⟩, rfl, rfl, fun _ => Int.le_refl 0, Int.le_refl 0⟩
  have all : ReleasesAll (idle .encode) := .inr ⟨rfl, opens, fun _ isNone => (nomatch isNone)⟩
  exact ⟨_, rfl, ((released_once_iff packedRgb (idle .encode)).2 _ rfl).mpr all⟩

/-- Nothing failed, and the buffer for the decoded pictures stays behind. -/
theorem idle_decoder_leaks :
    ∃ memory, ((idle .decode).run packedRgb).run Memory.initial = .ok ((), memory) ∧
      ¬memory.ledger.ReleasedOnce ofContext := by
  have opened : (wFfmpegInit packedRgb (idle .decode).opt true (idle .decode).init).run Memory.initial =
      .ok (0, freshDecoder packedRgb (idle .decode).opt) :=
    init_decoder_run packedRgb _ true _ rfl ⟨rfl, rfl, rfl, rfl⟩ ⟨rfl, rfl, rfl, rfl, Int.le_refl 0, rfl, Int.le_refl 0⟩
  have closing : Wp wFfmpegFini (fun _ after => Leaked after) (fun _ => False)
      (freshDecoder packedRgb (idle .decode).opt) := fini_decoder
  have leaks : Wp ((idle .decode).run packedRgb) (fun _ after => Leaked after) (fun _ => False) Memory.initial :=
    wp_bind.mpr (wp_of_run opened (wp_bind.mpr closing))
  obtain ⟨_, memory, ran, leaked⟩ := leaks.ends fun _ => id
  exact ⟨memory, ran, leaked.not_releasedOnce⟩

end WolfEngine.Verified.Ffmpeg
