import WolfEngine.Verified.FfmpegPictures

/-! # What a call of `w_ffmpeg_decode` reports

The status of a packet is stored where the next packet and the flush store theirs, and
the size is written with a picture only.  So a call that returns zero may have lost a
packet, and may report a size from before the call.
-/

namespace WolfEngine.Verified.Ffmpeg

open Media Custody Faulting

variable {libav : Libav} {opt : WFfmpegOpt} {memory before after : Memory}

/-! ## The pictures of a call -/

instance (libav : Libav) (picture : Decoded) : Decidable (PictureSucceeds libav picture) :=
  inferInstanceAs (Decidable ((_ ∧ _ ∧ _ ∧ _) ∧ _))

/-- The pictures that are received and handled. -/
def handled (libav : Libav) (answers : List Decoded) : List Decoded :=
  answers.takeWhile fun answer => 0 ≤ answer.avcodecReceiveFrame ∧ PictureSucceeds libav answer

def passPictures (libav : Libav) (pass : DecodePass) : List Decoded :=
  if pass.avcodecSendPacket < 0 then [] else handled libav pass.received

/-- The passes of the packets that the parser finds in an input of `size` bytes. -/
def packets : List Parsed → (size : Int) → List DecodePass
  | [], _ => []
  | answer :: answers, size =>
    if answer.avParserParse2 < 0 then []
    else (if answer.packet = [] then [] else [answer.pass]) ++
      if size - answer.avParserParse2 ≤ 0 then [] else packets answers (size - answer.avParserParse2)

/-- Every packet, and the flush. -/
def passes (call : DecodeCall) : List DecodePass :=
  packets call.parsed call.dataSize ++ [call.flush]

/-- The pictures that are decoded during a call. -/
def pictures (libav : Libav) (call : DecodeCall) : List Decoded :=
  (passes call).flatMap (passPictures libav)

/-! ## What a call should report -/

/-- The last picture is reported, and where its pixels are. -/
structure Delivered (libav : Libav) (pictures : List Decoded) (before after : Memory) : Prop where
  same : SameTarget before after
  size : after.sizeOut =
    pictures.foldl (fun _ picture => pictureSize libav picture) before.sizeOut
  data : after.dataOut = if pictures = [] then before.dataOut else (target before).bind (·.1)

theorem Delivered.append {middle : Memory} {earlier later : List Decoded}
    (first : Delivered libav earlier before middle) (second : Delivered libav later middle after) :
    Delivered libav (earlier ++ later) before after := by
  constructor
  · exact IsTrans.trans _ _ _ first.same second.same
  · rw [second.size, first.size, List.foldl_append]
  · rw [second.data, first.data, first.same.target]
    by_cases noneEarlier : earlier = [] <;> by_cases noneLater : later = [] <;>
      simp [noneEarlier, noneLater]

end WolfEngine.Verified.Ffmpeg
