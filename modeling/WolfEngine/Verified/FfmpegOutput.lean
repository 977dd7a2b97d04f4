import WolfEngine.Library.Copies
import WolfEngine.Verified.FfmpegSession

/-! # What an encoding writes

Both passes of `w_ffmpeg_encode` copy the packets that the encoder hands back into the
output buffer, one behind the other, and nothing compares their sizes with what the
buffer holds.
-/

namespace WolfEngine.Verified.Ffmpeg

open Media Custody Faulting MachineInt Copies

/-! ## What the encoder hands back -/

instance decidableDrains {α : Type} (code : α → Int) (handled : α → Prop) [DecidablePred handled] :
    (answers : List α) → Decidable (Drains code handled answers)
  | [] => inferInstanceAs (Decidable False)
  | answer :: answers =>
    have := decidableDrains code handled answers
    inferInstanceAs (Decidable (Drained (code answer) ∨
      0 ≤ code answer ∧ handled answer ∧ Drains code handled answers))

instance (pass : EncodePass) : Decidable (EncodePassSucceeds pass) :=
  inferInstanceAs (Decidable (_ ∧ _))

/-- The packets before the first answer that is none. -/
def handed : List (Int × List UInt8) → List (List UInt8)
  | [] => []
  | (code, bytes) :: answers => if Drained code ∨ code < 0 then [] else bytes :: handed answers

def passPackets (pass : EncodePass) : List (List UInt8) :=
  if pass.avcodecSendFrame < 0 then [] else handed pass.avcodecReceivePacket

/-- The packets of the frame, and those of the flush if there is one. -/
def handedBack (call : EncodeCall) : List (List UInt8) :=
  passPackets call.frame ++ if EncodePassSucceeds call.frame then passPackets call.flush else []

/-! ## What a call copies -/

def asCopy : Write → Option Copy
  | .memcpy buffer offset bytes => some ⟨buffer, offset, bytes⟩
  | .swsScale _ _ _ _ _ => none

/-- The copies that were made between two states. -/
def copiesSince (before after : Memory) : List Copy :=
  (after.writes.drop before.writes.length).filterMap asCopy

/-- Nothing is copied, and nothing is reported or forgotten. -/
structure NoCopy (before after : Memory) : Prop where
  copies : ∃ scaled, after.writes = before.writes ++ scaled ∧ scaled.filterMap asCopy = []
  size : after.sizeOut = before.sizeOut
  acquired : before.ledger.acquired <+: after.ledger.acquired

instance : Std.Refl NoCopy := ⟨fun _ => ⟨⟨[], by simp⟩, rfl, List.prefix_rfl⟩⟩

instance : IsTrans Memory NoCopy where
  trans before middle after first second := by
    obtain ⟨early, started, none⟩ := first.copies
    obtain ⟨late, ended, silent⟩ := second.copies
    refine ⟨⟨early ++ late, ?_, ?_⟩, second.size.trans first.size,
      first.acquired.trans second.acquired⟩
    · rw [ended, started, List.append_assoc]
    · rw [List.filterMap_append, none, silent, List.append_nil]

abbrev Silent {α : Type} (op : Op α) : Prop := Keeps NoCopy (fun _ => True) op

theorem silent_modify {change : Memory → Memory} (writes : ∀ memory, (change memory).writes = memory.writes)
    (size : ∀ memory, (change memory).sizeOut = memory.sizeOut)
    (acquired : ∀ memory, memory.ledger.acquired <+: (change memory).ledger.acquired) :
    Silent (modify change) := by
  apply Keeps.modify
  intro memory
  exact ⟨⟨[], by simp [writes]⟩, size memory, acquired memory⟩

theorem silent_mapCtx {change : Memory → WFfmpegCtx → WFfmpegCtx} :
    Silent (modify fun memory => memory.mapCtx (change memory) : Op Unit) :=
  silent_modify (fun _ => rfl) (fun _ => rfl) fun _ => List.prefix_rfl

theorem silent_deref {α : Type} (value : Option α) : Silent (deref value) := by
  cases value with
  | none => exact Keeps.throw trivial
  | some content => exact Keeps.pure content

theorem silent_allocate (kind : Kind) (grant : Bool) {store : Option Nat → Memory → Memory}
    (writes : ∀ pointer memory, (store pointer memory).writes = memory.writes)
    (size : ∀ pointer memory, (store pointer memory).sizeOut = memory.sizeOut)
    (ledger : ∀ pointer memory, (store pointer memory).ledger = memory.ledger) :
    Silent (allocate kind grant store) := by
  have acquires (memory : Memory) : memory.ledger.acquired <+:
      ((store (memory.granted grant) memory).record kind grant).ledger.acquired := by
    cases grant <;> simp [Memory.record, ledger, Ledger.acquire]
  cases grant with
  | false => exact silent_modify (fun memory => writes none memory) (fun memory => size none memory) acquires
  | true => exact silent_modify (fun memory => writes _ memory) (fun memory => size _ memory) acquires

/-! ### Cleanup -/

theorem acquired_release (pointer : Option Nat) (memory : Memory) :
    (memory.release pointer).ledger.acquired = memory.ledger.acquired := by
  cases pointer <;> rfl

theorem silent_release {change : Memory → Option Nat} (clear : Memory → Memory)
    (writes : ∀ memory, (clear memory).writes = memory.writes)
    (size : ∀ memory, (clear memory).sizeOut = memory.sizeOut)
    (ledger : ∀ memory, (clear memory).ledger = memory.ledger) :
    Silent (modify fun memory => clear (memory.release (change memory)) : Op Unit) := by
  apply silent_modify
  · intro memory
    rw [writes]
    rfl
  · intro memory
    rw [size]
    rfl
  · intro memory
    simp only [ledger, acquired_release, List.prefix_rfl]

theorem silent_freeLink (link : Option Link) : Silent (freeLink link) := by
  have frees (slot : Slot) : Silent (modify fun memory : Memory =>
      (memory.release (memory.pointer slot)).clear slot : Op Unit) := by
    apply silent_release (Memory.clear slot) <;> intro memory <;> cases slot <;> rfl
  rcases link with _ | ⟨_ | _ | _ | _ | _ | _, slot⟩
  · exact Keeps.pure ()
  · exact Keeps.pure ()
  all_goals exact frees slot

theorem silent_checkNull (slot : Slot) : Silent (checkNull slot) :=
  Keeps.bind Keeps.get fun _ => Keeps.ite (Keeps.throw trivial) (Keeps.pure _)

theorem silent_lastLink (chain : Chain) (last : Option Link) : Silent (lastLink last chain) := by
  induction chain generalizing last with
  | nil => exact Keeps.pure last
  | cons link chain ih =>
    exact Keeps.bind (silent_checkNull _) fun _ => Keeps.ite (Keeps.pure none) (ih _)

theorem silent_cleanup (table : Table) : Silent (cleanup table) := by
  induction table with
  | nil => exact Keeps.pure ()
  | cons chain table ih =>
    exact Keeps.bind (Keeps.bind (silent_lastLink chain none) silent_freeLink) fun _ => ih

theorem silent_finalAction (table : Table) (ret : Int) : Silent (finalAction table ret) :=
  Keeps.ite (Keeps.bind (silent_cleanup table) fun _ => Keeps.pure ret) (Keeps.pure ret)

/-! ### Conversion -/

/-- Scaling writes pixels, and copies no packet. -/
theorem silent_swsScale (format : AVPixelFormat) (width height : Int)
    (frame : Memory → Option AVFrame) :
    Silent (modify fun memory => memory.swsScale format width height (frame memory) : Op Unit) := by
  apply Keeps.modify
  intro memory
  refine ⟨⟨_, rfl, ?_⟩, rfl, List.prefix_rfl⟩
  cases frame memory <;> rfl

theorem silent_leaveRgb2yuv (ret : Int) : Silent (leaveRgb2yuv ret) := by
  have leave : Silent (do
      modify fun memory : Memory => { memory with frameBufferIn := none }
      return ret : Op Int) :=
    Keeps.bind (silent_modify (fun _ => rfl) (fun _ => rfl) fun _ => List.prefix_rfl) fun _ =>
      Keeps.pure ret
  have free : Silent (modify fun memory : Memory => memory.release memory.frameBufferIn : Op Unit) :=
    silent_release id (fun _ => rfl) (fun _ => rfl) fun _ => rfl
  have freeContext : Silent (modify Memory.swsFreeContext : Op Unit) :=
    silent_release (fun memory => { memory with swsContext := none }) (fun _ => rfl) (fun _ => rfl)
      fun _ => rfl
  exact Keeps.bind freeContext fun _ => Keeps.ite (Keeps.bind free fun _ => leave) leave

theorem silent_rgb2yuv (libav : Libav) (answers : Rgb2yuvAnswers) (rgb pError : Bool)
    (width height : Int) : Silent (rgb2yuv libav answers rgb width height pError) := by
  have allocates (kind : Kind) (grant : Bool) {store : Option Nat → Memory → Memory}
      (same : ∀ pointer memory, (store pointer memory).writes = memory.writes ∧
        (store pointer memory).sizeOut = memory.sizeOut ∧
        (store pointer memory).ledger = memory.ledger) : Silent (allocate kind grant store) :=
    silent_allocate kind grant (fun pointer memory => (same pointer memory).1)
      (fun pointer memory => (same pointer memory).2.1) fun pointer memory => (same pointer memory).2.2
  refine Keeps.bind Keeps.get fun _ => Keeps.bind (silent_deref _) fun _ => ?_
  apply Keeps.ite (Keeps.pure _)
  refine Keeps.bind (allocates _ _ fun _ _ => ⟨rfl, rfl, rfl⟩) fun _ => ?_
  apply Keeps.ite (silent_leaveRgb2yuv _)
  refine Keeps.bind (allocates _ _ fun _ _ => ⟨rfl, rfl, rfl⟩) fun _ => ?_
  apply Keeps.ite (silent_leaveRgb2yuv _)
  apply Keeps.ite (silent_leaveRgb2yuv _)
  refine Keeps.bind silent_mapCtx fun _ => ?_
  apply Keeps.ite (silent_leaveRgb2yuv _)
  refine Keeps.bind (silent_swsScale _ _ _ _) fun _ => ?_
  exact Keeps.bind silent_mapCtx fun _ => silent_leaveRgb2yuv 0

/-! ## The packets in the output buffer -/

/-- Since `start`, the packets were copied into `buffer` one behind the other, and their
sizes reported. -/
structure Copying (start : Memory) (buffer : Nat) (capacity : Int) (packets : List (List UInt8))
    (memory : Memory) : Prop where
  extends_ : start.writes <+: memory.writes
  copies : copiesSince start memory = consecutive buffer 0 packets
  size : memory.sizeOut = advance 0 packets
  acquired : memory.ledger.acquired[buffer]? = some (.output capacity)

variable {start memory after : Memory} {buffer : Nat} {capacity : Int} {packets : List (List UInt8)}

/-- What is written later is added to what was copied before. -/
theorem copiesSince_append {writes : List Write} (extends_ : start.writes <+: memory.writes)
    (later : after.writes = memory.writes ++ writes) :
    copiesSince start after = copiesSince start memory ++ writes.filterMap asCopy := by
  rw [copiesSince, copiesSince, later, List.drop_append_of_le_length extends_.length_le,
    List.filterMap_append]

theorem Copying.silent (copying : Copying start buffer capacity packets memory)
    (kept : NoCopy memory after) : Copying start buffer capacity packets after := by
  obtain ⟨scaled, later, none⟩ := kept.copies
  refine ⟨?_, ?_, kept.size.trans copying.size, acquired_of_grown kept.acquired copying.acquired⟩
  · rw [later]
    exact copying.extends_.trans (List.prefix_append _ _)
  · rw [copiesSince_append copying.extends_ later, none, List.append_nil, copying.copies]

/-- One packet more. -/
theorem Copying.packet (copying : Copying start buffer capacity packets memory) (bytes : List UInt8) :
    Copying start buffer capacity (packets ++ [bytes])
      { memory with
        writes := memory.writes ++ [.memcpy buffer memory.sizeOut bytes]
        sizeOut := i32.wrap (memory.sizeOut + bytes.length) } := by
  refine ⟨copying.extends_.trans (List.prefix_append _ _), ?_, ?_, copying.acquired⟩
  · rw [copiesSince_append copying.extends_ rfl, copying.copies, consecutive_append, ← copying.size]
    rfl
  · rw [advance_append, ← copying.size]
    rfl

/-- The state of a call between two packets: the index is the reported size. -/
structure Filling (start : Memory) (buffer : Nat) (capacity : Int) (packets : List (List UInt8))
    (index : Int) (memory : Memory) : Prop where
  copying : Copying start buffer capacity packets memory
  dataOut : memory.dataOut = some buffer
  index : index = memory.sizeOut

theorem Filling.unchanged {index : Int} (filling : Filling start buffer capacity packets index memory)
    (writes : after.writes = memory.writes) (size : after.sizeOut = memory.sizeOut)
    (ledger : after.ledger = memory.ledger) (dataOut : after.dataOut = memory.dataOut) :
    Filling start buffer capacity packets index after := by
  have kept : NoCopy memory after := ⟨⟨[], by simp [writes]⟩, size, ledger ▸ List.prefix_rfl⟩
  exact ⟨filling.copying.silent kept, dataOut.trans filling.dataOut, filling.index.trans size.symm⟩

theorem receivePackets_copies (ret : Int) (answers : List (Int × List UInt8)) {index : Int}
    (filling : Filling start buffer capacity packets index memory) :
    Wp (receivePackets ret answers index)
      (fun result after => Filling start buffer capacity (packets ++ handed answers) result.2 after)
      (fun _ => True) memory := by
  induction answers generalizing packets index memory with
  | nil => exact trivial
  | cons answer answers ih =>
    obtain ⟨code, bytes⟩ := answer
    have stops (stopped : Drained code ∨ code < 0) :
        packets ++ handed ((code, bytes) :: answers) = packets := by
      simp [handed, stopped]
    refine (wp_ite _ _ _).mpr ⟨fun drained => ?_, fun more => (wp_ite _ _ _).mpr
      ⟨fun negative => ?_, fun taken => ?_⟩⟩
    · rw [stops (.inl drained)]
      exact filling
    · rw [stops (.inr negative)]
      exact filling.unchanged rfl rfl rfl rfl
    · have next : packets ++ handed ((code, bytes) :: answers) =
          packets ++ [bytes] ++ handed answers := by
        have goes : ¬ (Drained code ∨ code < 0) := not_or.mpr ⟨more, taken⟩
        simp [handed, goes]
      rw [next]
      refine wp_bind.mpr (wp_get.mpr (wp_bind.mpr ((wp_deref filling.dataOut).mpr ?_)))
      refine wp_bind.mpr ((wp_modify _).mpr (ih ?_))
      rw [filling.index]
      exact ⟨filling.copying.packet bytes, filling.dataOut, rfl⟩

theorem encodeFrame_copies (pass : EncodePass) {index : Int} (present : memory.ctx ≠ none)
    (filling : Filling start buffer capacity packets index memory) :
    Wp (wFfmpegEncodeFrame pass index true)
      (fun result after => Filling start buffer capacity (packets ++ passPackets pass) result.2 after)
      (fun _ => True) memory := by
  refine wp_bind.mpr (wp_get.mpr ((wp_ite _ _ _).mpr ⟨fun refused => ?_, fun _ => ?_⟩))
  · simp [present] at refused
  refine wp_bind.mpr (wp_deref_of fun ctx _ => wp_bind.mpr (wp_deref_of fun _ _ => ?_))
  refine wp_bind.mpr ((wp_modifyCtx present).mpr (wp_bind.mpr (wp_deref_of fun _ _ => ?_)))
  refine (wp_ite _ _ _).mpr ⟨fun negative => ?_, fun sent => ?_⟩
  · have none : passPackets pass = [] := if_pos negative
    rw [none, List.append_nil]
    exact filling.unchanged rfl rfl rfl rfl
  · have all : passPackets pass = handed pass.avcodecReceivePacket := if_neg sent
    rw [all]
    exact receivePackets_copies _ _ (filling.unchanged rfl rfl rfl rfl)

/-- What is known when a call comes to its end with the packets. -/
def Copied (opt : WFfmpegOpt) (start : Memory) (packets : List (List UInt8)) (ret : Int)
    (after : Memory) : Prop :=
  ∃ buffer, Copying start buffer (outputSize opt) packets after ∧
    (ret = 0 → after.dataOut = some buffer)

theorem finalAction_copied {opt : WFfmpegOpt} {index : Int}
    (filling : Filling start buffer (outputSize opt) packets index memory) (table : Table)
    (ret : Int) :
    Wp (finalAction table ret) (Copied opt start packets) (fun _ => True) memory := by
  by_cases failed : ret = -1
  · have kept := silent_finalAction table ret memory
    have returned : Wp (finalAction table ret) (fun result _ => result = ret) (fun _ => True) memory :=
      finalAction_returns table ret
    refine (kept.and returned).mono ?_ fun _ => id
    intro result after done
    refine ⟨buffer, filling.copying.silent done.1, ?_⟩
    intro zero
    rw [done.2, failed] at zero
    cases zero
  · have stays : finalAction table ret = pure ret := by simp [finalAction, failed]
    rw [stays]
    exact ⟨buffer, filling.copying, fun _ => filling.dataOut⟩

/-- A pass with the packets it copies and what it reports. -/
theorem encodeFrame_fills (pass : EncodePass) {index : Int}
    (opened : Opened [.packet, .context] memory)
    (filling : Filling start buffer capacity packets index memory) :
    Wp (wFfmpegEncodeFrame pass index true)
      (fun result after => Filling start buffer capacity (packets ++ passPackets pass) result.2 after ∧
        SameOut memory after ∧ Reports (EncodePassSucceeds pass) result.1)
      (fun _ => True) memory := by
  have present : memory.ctx ≠ none := opened.ctx (List.mem_cons_self ..)
  have buffered : memory.dataOut ≠ none := by simp [filling.dataOut]
  have spec := encodeFrame_spec pass index (opened .packet (by simp)).2 (opened .context (by simp)).2
    buffered
  exact (encodeFrame_copies pass present filling).and
    (Wp.mono spec (fun _ _ done => done) fun _ _ => trivial)

theorem encodeConverted_copies (opt : WFfmpegOpt) (call : EncodeCall) (pError : call.pError = true)
    (calloc : call.calloc = true) (opened : Opened [.packet, .context, .yuvFrame] memory)
    (extends_ : start.writes <+: memory.writes) (untouched : copiesSince start memory = [])
    (size : memory.sizeOut = 0) :
    Wp (encodeConverted opt call) (Copied opt start (handedBack call)) (fun _ => True) memory := by
  rw [encodeConverted, calloc, pError]
  refine wp_bind.mpr ((wp_modify _).mpr ((wp_ite _ _ _).mpr ⟨fun refused => ?_, fun _ => ?_⟩))
  · cases refused
  have allocated : Filling start memory.ledger.fresh (outputSize opt) [] 0
      (({ memory with dataOut := memory.granted true } : Memory).record
        (.output (outputSize opt)) true) := by
    refine ⟨⟨extends_, untouched, size, ?_⟩, rfl, size.symm⟩
    simp [Memory.record, Ledger.acquire, Ledger.fresh]
  have fewer : Opened [.packet, .context] memory := opened.fewer (by decide)
  have kept : SameCtx memory (({ memory with dataOut := memory.granted true } : Memory).record
      (.output (outputSize opt)) true) := rfl
  have used := kept.opened fewer
  refine wp_bind.mpr ((encodeFrame_fills call.frame used allocated).mono ?_ fun _ => id)
  rintro ⟨encoded, index⟩ middle ⟨filling, same, encodes⟩
  rw [List.nil_append] at filling
  refine (wp_ite _ _ _).mpr ⟨fun failed => ?_, fun passed => ?_⟩
  · have none : handedBack call = passPackets call.frame := by
      simp [handedBack, encodes.failed failed]
    rw [none]
    exact finalAction_copied filling callTable (-1)
  · have both : handedBack call = passPackets call.frame ++ passPackets call.flush := by
      simp [handedBack, encodes.passed passed]
    rw [both]
    have used := SameCtx.opened same.1 used
    refine wp_bind.mpr ((wp_modifyCtx (used.ctx (List.mem_cons_self ..))).mpr ?_)
    have used := used.clear .yuvFrame rfl (by decide)
    refine wp_bind.mpr ((encodeFrame_fills call.flush used
      (filling.unchanged rfl rfl rfl rfl)).mono ?_ fun _ => id)
    rintro ⟨flushed, _⟩ last ⟨filling, _, _⟩
    exact (wp_ite _ _ _).mpr
      ⟨fun _ => finalAction_copied filling callTable (-1), fun _ => finalAction_copied filling callTable 0⟩

/-! ## The whole call -/

/-- The call gets to the point where `w_ffmpeg_encode` has allocated its output. -/
structure Allocates (opt : WFfmpegOpt) (call : EncodeCall) : Prop where
  dataIn : call.dataIn = true
  pError : call.pError = true
  converts : Rgb2yuvSucceeds call.conversion opt.width opt.height
  calloc : call.calloc = true
  capacity : 0 ≤ outputSize opt

theorem encode_copies (libav : Libav) (opt : WFfmpegOpt) (call : EncodeCall)
    (allocates : Allocates opt call) (opened : Opened [.packet, .context, .yuvFrame] memory) :
    Wp (wFfmpegEncode libav opt call) (Copied opt memory (handedBack call)) (fun _ => True) memory := by
  have present := opened.ctx (List.mem_cons_self ..)
  rw [encode_eq, allocates.dataIn, allocates.pError]
  refine wp_bind.mpr (wp_get.mpr ((wp_ite _ _ _).mpr ⟨fun refused => ?_, fun _ => ?_⟩))
  · simp [present] at refused
  have zeroed : ({ memory with sizeOut := 0 } : Memory).ctx ≠ none := present
  refine wp_bind.mpr ((wp_modify _).mpr (wp_bind.mpr ((wp_modifyCtx zeroed).mpr ?_)))
  have same : SameCtx memory (({ memory with sizeOut := 0 } : Memory).mapCtx
      fun ctx => { ctx with codecId := opt.codecId }) := sameCtx_mapCtx fun _ => rfl
  have opened := same.opened opened
  have silent := silent_rgb2yuv libav call.conversion true true opt.width opt.height
    (({ memory with sizeOut := 0 } : Memory).mapCtx fun ctx => { ctx with codecId := opt.codecId })
  have converts : Does SameCtx (Reports (Rgb2yuvSucceeds call.conversion opt.width opt.height))
      (fun _ => True) (rgb2yuv libav call.conversion true opt.width opt.height true)
      (({ memory with sizeOut := 0 } : Memory).mapCtx fun ctx => { ctx with codecId := opt.codecId }) :=
    rgb2yuv_spec libav call.conversion opt.width opt.height (opened .yuvFrame (by simp)).2
  refine wp_bind.mpr ((silent.and converts).mono ?_ fun _ => id)
  intro ret middle done
  obtain ⟨quiet, kept, reports⟩ := done
  refine (wp_ite _ _ _).mpr ⟨fun failed => ?_, fun _ => ?_⟩
  · exact absurd allocates.converts (reports.failed failed)
  obtain ⟨scaled, written, none⟩ := quiet.copies
  have written : middle.writes = memory.writes ++ scaled := written
  apply encodeConverted_copies opt call allocates.pError allocates.calloc (kept.opened opened)
  · rw [written]
    exact List.prefix_append _ _
  · rw [copiesSince_append List.prefix_rfl written, none]
    simp [copiesSince]
  · exact quiet.size

/-- What an encoding should do to its output: it copies into the buffer's memory only, and
when it returns 0, the caller finds the packets one behind the other, and their total
size. -/
structure OutputRight (call : EncodeCall) (before : Memory) (ret : Int) (after : Memory) : Prop where
  inside : ∀ copy ∈ copiesSince before after, ∃ size,
    after.ledger.acquired[copy.buffer]? = some (.output size) ∧ copy.Inside size
  size : ret = 0 → after.sizeOut = (handedBack call).flatten.length
  content : ret = 0 → ∃ buffer, after.dataOut = some buffer ∧
    ∀ i, ∀ below : i < (handedBack call).flatten.length,
      contentAt buffer (copiesSince before after) i = (handedBack call).flatten[i]

/-- The packets fit into the output buffer, and a C `int` counts up to where the last one
starts, and up to their total size if that is reported. -/
structure OutputFits (opt : WFfmpegOpt) (call : EncodeCall) : Prop where
  total : (handedBack call).flatten.length ≤ outputSize opt
  starts : (handedBack call).dropLast.flatten.length < 2 ^ 31
  reported : EncodeSucceeds opt call → (handedBack call).flatten.length < 2 ^ 31

theorem copied_right_iff {opt : WFfmpegOpt} {call : EncodeCall} {ret : Int}
    (capacity : 0 ≤ outputSize opt)
    (sizes : ∀ bytes ∈ handedBack call, bytes.length < 2 ^ 31)
    (succeeds : ret = 0 ↔ EncodeSucceeds opt call)
    (copied : Copied opt memory (handedBack call) ret after) :
    OutputRight call memory ret after ↔ OutputFits opt call := by
  obtain ⟨buffer, copying, found⟩ := copied
  have inside : (∀ copy ∈ copiesSince memory after, ∃ size,
      after.ledger.acquired[copy.buffer]? = some (.output size) ∧ copy.Inside size) ↔
      (handedBack call).flatten.length ≤ outputSize opt ∧
        (handedBack call).dropLast.flatten.length < 2 ^ 31 := by
    have fits : (∀ copy ∈ consecutive buffer (0 : Nat) (handedBack call),
        copy.Inside (outputSize opt)) ↔ _ :=
      consecutive_inside_iff capacity (by decide) sizes
    rw [Nat.cast_zero, Int.zero_add, Nat.zero_add] at fits
    rw [copying.copies, ← fits]
    constructor
    · intro placed copy member
      obtain ⟨size, acquired, within⟩ := placed copy member
      rw [consecutive_buffer member, copying.acquired] at acquired
      cases acquired
      exact within
    · intro within copy member
      refine ⟨_, ?_, within copy member⟩
      rw [consecutive_buffer member]
      exact copying.acquired
  have reported : after.sizeOut = (handedBack call).flatten.length ↔
      (handedBack call).flatten.length < 2 ^ 31 := by
    rw [copying.size, advance_eq_wrap (wrap_i32_eq_iff.mpr (by omega)), Int.zero_add, wrap_i32_eq_iff]
    omega
  constructor
  · intro right
    obtain ⟨total, starts⟩ := inside.mp right.inside
    exact ⟨total, starts, fun success => reported.mp (right.size (succeeds.mpr success))⟩
  · intro fits
    refine ⟨inside.mpr ⟨fits.total, fits.starts⟩, ?_, ?_⟩
    · intro zero
      exact reported.mpr (fits.reported (succeeds.mp zero))
    · intro zero
      refine ⟨buffer, found zero, ?_⟩
      intro i below
      rw [copying.copies]
      exact contentAt_consecutive (fits.reported (succeeds.mp zero)) below

/-- A call that succeeds comes to its end. -/
theorem encode_returns (libav : Libav) {opt : WFfmpegOpt} {call : EncodeCall}
    (allocates : Allocates opt call) (opened : Opened [.packet, .context, .yuvFrame] memory)
    (succeeds : EncodeSucceeds opt call) :
    ∃ after, (wFfmpegEncode libav opt call).run memory = .ok (0, after) := by
  have spec := encode_spec libav opt call allocates.dataIn allocates.pError opened
  obtain ⟨ret, after, ran, ended⟩ := spec.ends fun _ unmet => unmet succeeds
  cases ended with
  | inl succeeded => exact ⟨after, succeeded.2.1 ▸ ran⟩
  | inr failed => exact absurd succeeds failed.1

/-- For a call that comes to its end: what it does to its output is right exactly when
the packets fit. -/
theorem encode_output_iff (libav : Libav) (opt : WFfmpegOpt) (call : EncodeCall)
    (before after : Memory) (ret : Int) (allocates : Allocates opt call)
    (opened : Opened [.packet, .context, .yuvFrame] before)
    (sizes : ∀ bytes ∈ handedBack call, bytes.length < 2 ^ 31)
    (ran : (wFfmpegEncode libav opt call).run before = .ok (ret, after)) :
    OutputRight call before ret after ↔ OutputFits opt call := by
  apply copied_right_iff allocates.capacity sizes
  · cases (encode_spec libav opt call allocates.dataIn allocates.pError opened).ok ran with
    | inl succeeded => exact iff_of_true succeeded.2.1 succeeded.1
    | inr failed =>
      apply iff_of_false _ failed.1
      rw [failed.2.1]
      decide
  · exact (encode_copies libav opt call allocates opened).ok ran

/-- Where the product does not overflow, the output has three bytes for each pixel. -/
theorem outputSize_of_inRange {opt : WFfmpegOpt} (inRange : i64.InRange (opt.width * opt.height * 3)) :
    outputSize opt = opt.width * opt.height * 3 := by
  unfold outputSize
  generalize opt.width * opt.height = pixels at inRange ⊢
  simp only [IntType.InRange, IntType.wrap, i64] at inRange ⊢
  omega

/-- A packet of four bytes fits into the output of a picture of 64 by 64. -/
theorem onePicture_output_right :
    ∃ after, (wFfmpegEncode packedRgb smallPicture onePicture).run
        (openedEncoder smallPicture Memory.initial) = .ok (0, after) ∧
      OutputRight onePicture (openedEncoder smallPicture Memory.initial) 0 after := by
  have packets : handedBack onePicture = [[0, 0, 0, 1]] := by decide
  have allocates : Allocates smallPicture onePicture :=
    ⟨rfl, rfl, onePicture_succeeds.1, rfl, by decide⟩
  have opened := (opened_of_init willing_opens).2
  obtain ⟨after, ran⟩ := encode_returns packedRgb allocates opened onePicture_succeeds
  refine ⟨after, ran, (encode_output_iff _ _ _ _ _ _ allocates opened ?_ ran).mpr ?_⟩
  · simp [packets]
  · have size : outputSize smallPicture = 12288 := outputSize_of_inRange (by decide)
    constructor <;> simp [packets, size]

def tinyPicture : WFfmpegOpt := { smallPicture with width := 2, height := 2 }

/-- The parameter sets of a stream. -/
def header : List UInt8 := [0, 0, 0, 1, 103, 66, 0, 10, 248, 65, 0, 0, 0, 1, 104, 206]

/-- A first packet that is the header of the stream. -/
def headerFirst : EncodeCall :=
  { onePicture with frame := ⟨0, [(0, header), (averrorEagain, [])]⟩ }

/-- The sixteen bytes of a header do not fit into the twelve of a picture of two by two,
and are copied all the same. -/
theorem header_overflows :
    ∃ after, (wFfmpegEncode packedRgb tinyPicture headerFirst).run
        (openedEncoder tinyPicture Memory.initial) = .ok (0, after) ∧
      ¬ OutputRight headerFirst (openedEncoder tinyPicture Memory.initial) 0 after := by
  have packets : handedBack headerFirst = [header] := by decide
  have succeeds : EncodeSucceeds tinyPicture headerFirst := by
    refine ⟨⟨by decide, by decide, rfl, rfl, Int.le_refl 0, by decide⟩, rfl, ⟨Int.le_refl 0, ?_⟩,
      Int.le_refl 0, .inl (.inr rfl)⟩
    exact .inr ⟨Int.le_refl 0, trivial, .inl (.inl rfl)⟩
  have allocates : Allocates tinyPicture headerFirst := ⟨rfl, rfl, succeeds.1, rfl, by decide⟩
  have opened : Opened [.packet, .context, .yuvFrame] (openedEncoder tinyPicture Memory.initial) := by
    simp [Opened, Slot.inCtx, Memory.pointer, openedEncoder]
  obtain ⟨after, ran⟩ := encode_returns packedRgb allocates opened succeeds
  refine ⟨after, ran, ?_⟩
  intro right
  have copied := (encode_copies packedRgb tinyPicture headerFirst allocates opened).ok ran
  have fits := (copied_right_iff allocates.capacity (by simp [packets, header])
    (iff_of_true rfl succeeds) copied).mp right
  have total := fits.total
  have size : outputSize tinyPicture = 12 := outputSize_of_inRange (by decide)
  simp [packets, header, size] at total

end WolfEngine.Verified.Ffmpeg
