import WolfEngine.System.Compression.Lzma

/-! # A small SDK

LZMA2 streams of at most one chunk, stored as it is, as the SDK writes them for data
that it cannot compress.  A stream made with a larger dictionary than the smallest
starts with a mark of its own that stands for a match from further back; a decoder with
the smallest dictionary fails at it.  What the container does can be run with this SDK.
-/

namespace WolfEngine.Verified.Lzma

open WolfEngine.System.Lzma

/-- `LZMA2_DIC_SIZE_FROM_PROP`. -/
def dicSizeFromProp (prop : UInt8) : Nat := (2 ||| (prop.toNat &&& 1)) <<< (prop.toNat / 2 + 11)

/-- What a decoder expects next. -/
inductive Phase where
  | control
  | high
  | low (high : UInt8)
  /-- The bytes of the chunk, `more` after the next one. -/
  | data (more : Nat)
  | finished
  | broken

/-- How a decoder was left by the bytes it was fed. -/
structure Fed where
  res : Int
  consumed : Nat
  bytes : List UInt8
  status : ELzmaStatus
  phase : Phase

/-- Before the rest, a byte was taken and `front` was written. -/
def Fed.after (front : List UInt8) (rest : Fed) : Fed :=
  { rest with consumed := rest.consumed + 1, bytes := front ++ rest.bytes }

def fromFar : UInt8 := 224

/-- The phase after a byte of the chunk. -/
def Phase.afterData : Nat → Phase
  | 0 => .control
  | more + 1 => .data more

/-- Feed a decoder that has `dict` bytes of dictionary and `room` bytes to write to. -/
def feed (dict : Nat) : Phase → List UInt8 → Nat → Fed
  | .finished, _, _ => ⟨szOk, 0, [], .finishedWithMark, .finished⟩
  | phase, [], _ => ⟨szOk, 0, [], .needsMoreInput, phase⟩
  | .broken, _ :: _, _ => ⟨1, 0, [], .notSpecified, .broken⟩
  | .control, byte :: rest, room =>
    if byte = 0 then ⟨szOk, 1, [], .finishedWithMark, .finished⟩
    else if byte = 1 then (feed dict .high rest room).after []
    else if byte = fromFar ∧ 4096 < dict then (feed dict .control rest room).after []
    else ⟨1, 0, [], .notSpecified, .broken⟩
  | .high, byte :: rest, room => (feed dict (.low byte) rest room).after []
  | .low high, byte :: rest, room =>
    (feed dict (.data (high.toNat * 256 + byte.toNat)) rest room).after []
  | .data more, _ :: _, 0 => ⟨szOk, 0, [], .notFinished, .data more⟩
  | .data more, byte :: rest, room + 1 =>
    (feed dict (.afterData more) rest room).after [byte]

theorem feed_consumed (dict : Nat) (phase : Phase) (src : List UInt8) (room : Nat) :
    (feed dict phase src room).consumed ≤ src.length := by
  fun_induction feed with
  | _ => simp_all [Fed.after]

theorem feed_bytes (dict : Nat) (phase : Phase) (src : List UInt8) (room : Nat) :
    (feed dict phase src room).bytes.length ≤ room := by
  fun_induction feed with
  | _ => simp_all [Fed.after]

/-- A chunk with its size, and the end mark. -/
def chunk (src : List UInt8) : List UInt8 :=
  1 :: UInt8.ofNat ((src.length - 1) / 256) :: UInt8.ofNat ((src.length - 1) % 256) :: (src ++ [0])

def streamOf (props : CLzmaEncProps) (src : List UInt8) : List UInt8 :=
  if 4096 < props.dictSize then fromFar :: chunk src else chunk src

/-- The LZMA side of it: a byte in front of the data. -/
def storedDecode (src : List UInt8) (destLen : Nat) : DecodeAnswer src.length destLen :=
  match src with
  | [] => ⟨6, 0, [], .needsMoreInput, Nat.le_refl _, Nat.zero_le _⟩
  | first :: data =>
    if stored : first = 1 ∧ destLen ≤ data.length then
      ⟨szOk, destLen + 1, data.take destLen, .maybeFinishedWithoutMark, Nat.succ_le_succ stored.2,
        List.length_take_le _ _⟩
    else ⟨6, 0, [], .needsMoreInput, Nat.zero_le _, Nat.zero_le _⟩

def storedSdk : LzmaSdk where
  lzmaEncode _ destLen src :=
    if fits : src.length + 1 ≤ destLen then ⟨⟨szOk, 1 :: src, fits⟩, [93, 0, 16, 0, 0], rfl⟩
    else ⟨⟨7, [], Nat.zero_le _⟩, [93, 0, 16, 0, 0], rfl⟩
  lzmaDecode _ _ src destLen := storedDecode src destLen
  lzma2EncCreate := true
  lzma2EncSetProps _ := szOk
  lzma2EncWriteProperties props := if props.dictSize ≤ 4096 then 0 else 40
  lzma2EncEncode2 props destLen src :=
    if fits : (streamOf props src).length ≤ destLen ∧ src.length ≤ 65536 then
      ⟨szOk, streamOf props src, fits.1⟩
    else ⟨7, [], Nat.zero_le _⟩
  CLzma2Dec := Nat × Phase
  lzma2DecAllocate prop := (szOk, dicSizeFromProp prop, .control)
  lzma2DecDecodeToBuf dec _ src destLen :=
    let fed := feed dec.1 dec.2 src destLen
    (⟨fed.res, fed.consumed, fed.bytes, fed.status, feed_consumed _ _ _ _, feed_bytes _ _ _ _⟩,
      dec.1, fed.phase)

/-- The same, but for a decoder that takes all that it is offered, and waits for more. -/
def hungrySdk : LzmaSdk :=
  { storedSdk with
    CLzma2Dec := Unit
    lzma2DecAllocate := fun _ => (szOk, ())
    lzma2DecDecodeToBuf := fun _ _ src _ =>
      (⟨szOk, src.length, [], .needsMoreInput, Nat.le_refl _, Nat.zero_le _⟩, ()) }

/-! ## What its decoder does on its streams -/

/-- The decoder is inside a stream with `todo` to read and `out` to write. -/
inductive Midway (dict : Nat) : Phase → List UInt8 → List UInt8 → Prop
  | far (out : List UInt8) (large : 4096 < dict) (nonempty : out ≠ []) (short : out.length ≤ 65536) :
      Midway dict .control (fromFar :: chunk out) out
  | start (out : List UInt8) (nonempty : out ≠ []) (short : out.length ≤ 65536) :
      Midway dict .control (chunk out) out
  | high (out : List UInt8) (nonempty : out ≠ []) (short : out.length ≤ 65536) :
      Midway dict .high (UInt8.ofNat ((out.length - 1) / 256) ::
        UInt8.ofNat ((out.length - 1) % 256) :: (out ++ [0])) out
  | low (out : List UInt8) (nonempty : out ≠ []) (short : out.length ≤ 65536) :
      Midway dict (.low (UInt8.ofNat ((out.length - 1) / 256)))
        (UInt8.ofNat ((out.length - 1) % 256) :: (out ++ [0])) out
  | data (more : Nat) (out : List UInt8) (length : out.length = more + 1) :
      Midway dict (.data more) (out ++ [0]) out
  | mark : Midway dict .control [0] []

theorem midway_todo {dict : Nat} {phase : Phase} {todo out : List UInt8}
    (midway : Midway dict phase todo out) : todo ≠ [] := by
  cases midway with
  | _ => simp [chunk]

/-- What it wrote is the front of the output, and it is then inside what is left. -/
structure FedRight (dict : Nat) (todo out : List UInt8) (fed : Fed) : Prop where
  ok : fed.res = szOk
  writes : fed.bytes <+: out
  ends : fed.status = .finishedWithMark → fed.bytes = out
  goesOn : fed.status ≠ .finishedWithMark →
    Midway dict fed.phase (todo.drop fed.consumed) (out.drop fed.bytes.length)

section Feeding

variable {dict : Nat} {todo out : List UInt8} {fed : Fed}

theorem fedRight_took (byte : UInt8) (right : FedRight dict todo out fed) :
    FedRight dict (byte :: todo) out (fed.after []) where
  ok := right.ok
  writes := right.writes
  ends := right.ends
  goesOn := right.goesOn

theorem fedRight_gave (byte : UInt8) (right : FedRight dict todo out fed) :
    FedRight dict (byte :: todo) (byte :: out) (fed.after [byte]) where
  ok := right.ok
  writes := List.cons_prefix_cons.mpr ⟨rfl, right.writes⟩
  ends mark := congrArg (byte :: ·) (right.ends mark)
  goesOn := right.goesOn

/-- Without a byte, or without room for the next one, it stays where it is. -/
theorem fedRight_stays {phase : Phase} {status : ELzmaStatus} (midway : Midway dict phase todo out)
    (unmarked : status ≠ .finishedWithMark) :
    FedRight dict todo out ⟨szOk, 0, [], status, phase⟩ where
  ok := rfl
  writes := List.nil_prefix
  ends mark := absurd mark unmarked
  goesOn _ := midway

theorem midway_afterData {more : Nat} (length : out.length = more) :
    Midway dict (.afterData more) (out ++ [0]) out := by
  cases more with
  | zero =>
    rw [List.length_eq_zero_iff.mp length]
    exact .mark
  | succ more => exact .data more out length

theorem chunkLength {length : Nat} (positive : 0 < length) (short : length ≤ 65536) :
    length = (UInt8.ofNat ((length - 1) / 256)).toNat * 256 +
      (UInt8.ofNat ((length - 1) % 256)).toNat + 1 := by
  rw [UInt8.toNat_ofNat', UInt8.toNat_ofNat']
  omega

/-- Fed with a piece of its stream, it writes a piece of the output. -/
theorem feed_right {phase : Phase} {src : List UInt8} (room : Nat)
    (midway : Midway dict phase todo out) (piece : src <+: todo) :
    FedRight dict todo out (feed dict phase src room) := by
  induction src generalizing phase todo out room with
  | nil =>
    cases midway with
    | _ =>
      simp only [feed]
      exact fedRight_stays (by constructor <;> assumption) (by decide)
  | cons byte rest ih =>
    cases midway with
    | far out large nonempty short =>
      obtain ⟨rfl, behind⟩ := List.cons_prefix_cons.mp piece
      have fed : feed dict .control (fromFar :: rest) room =
          (feed dict .control rest room).after [] := by
        simp [feed, fromFar, large]
      rw [fed]
      exact fedRight_took fromFar (ih room (.start out nonempty short) behind)
    | start out nonempty short =>
      obtain ⟨rfl, behind⟩ := List.cons_prefix_cons.mp piece
      have fed : feed dict .control (1 :: rest) room = (feed dict .high rest room).after [] := by
        simp [feed]
      rw [fed]
      exact fedRight_took 1 (ih room (.high out nonempty short) behind)
    | high out nonempty short =>
      obtain ⟨rfl, behind⟩ := List.cons_prefix_cons.mp piece
      exact fedRight_took _ (ih room (.low out nonempty short) behind)
    | low out nonempty short =>
      obtain ⟨rfl, behind⟩ := List.cons_prefix_cons.mp piece
      have length := chunkLength (List.length_pos_of_ne_nil nonempty) short
      exact fedRight_took _ (ih room (.data _ out length) behind)
    | data more out length =>
      cases room with
      | zero =>
        simp only [feed]
        exact fedRight_stays (.data more out length) (by decide)
      | succ room =>
        cases out with
        | nil => cases length
        | cons first out =>
          obtain ⟨rfl, behind⟩ := List.cons_prefix_cons.mp piece
          have inside : Midway dict (.afterData more) (out ++ [0]) out :=
            midway_afterData (Nat.succ.inj length)
          exact fedRight_gave _ (ih room inside behind)
    | mark =>
      obtain ⟨rfl, behind⟩ := List.cons_prefix_cons.mp piece
      have fed : feed dict .control (0 :: rest) room = ⟨szOk, 1, [], .finishedWithMark, .finished⟩ := by
        simp [feed]
      rw [fed]
      exact ⟨rfl, List.nil_prefix, fun _ => rfl, fun unmarked => absurd rfl unmarked⟩

/-- With a byte and room, a call that goes on takes something. -/
theorem feed_progresses (phase : Phase) (src : List UInt8) (room : Nat) :
    src ≠ [] → 0 < room → (feed dict phase src room).res = szOk →
      (feed dict phase src room).status ≠ .finishedWithMark →
      0 < (feed dict phase src room).consumed := by
  fun_cases feed dict phase src room with
  | _ => simp_all [Fed.after, szOk]

end Feeding

end WolfEngine.Verified.Lzma
