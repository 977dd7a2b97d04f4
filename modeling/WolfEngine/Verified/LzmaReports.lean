import WolfEngine.Verified.LzmaBounds

/-! # The trace as an error report

There is no error code: a call either gives all of its result and leaves the trace as
it was, or it gives nothing and writes a message to the trace.  Compressing always does
one of the two.  Decompressing falls silent where its decoder gives less than the
header promises.
-/

namespace WolfEngine.Verified.Lzma

open WolfEngine.System.Lzma EventLoop MachineInt

variable {sdk : LzmaSdk} {miMalloc : Nat → Bool} {behind : Nat → UInt8} {src : List UInt8}
  {size : Nat}

/-- All of the result and the trace as it was, or nothing and a message. -/
inductive Reports (complete : List LzmaCall → List UInt8 → Prop)
    (ran : String → List LzmaCall × Option Exit) : Prop
  | complete (vec : List UInt8) (whole : ∀ trace, complete (ran trace).1 vec)
      (untouched : ∀ trace, (ran trace).2 = some (.returned vec trace))
  | failed (message : String) (nonempty : message ≠ "")
      (told : ∀ trace, (ran trace).2 = some (.returned [] message))

theorem reports_of_refuses {complete : List LzmaCall → List UInt8 → Prop}
    {ran : String → List LzmaCall × Option Exit} (refuses : Refuses ran) : Reports complete ran := by
  obtain ⟨message, nonempty, told⟩ := refuses.exits
  exact .failed message nonempty told

/-! ## Compressing -/

/-- The encoder succeeded, and its output stands behind the header. -/
def Encoded (sdk : LzmaSdk) (type : LZMAType) (level : UInt32) (src vec : List UInt8) : Prop :=
  let props := lzmaProp level (i32.wrap src.length)
  match type with
  | .lzma1 =>
    let answer := sdk.lzmaEncode props (outputSize src.length) src
    answer.res = szOk ∧ vec = answer.propsEncoded ++ sizeHeader src.length ++ answer.bytes
  | .lzma2 =>
    let answer := sdk.lzma2EncEncode2 props (outputSize src.length) src
    answer.res = szOk ∧
      vec = [sdk.lzma2EncWriteProperties props] ++ sizeHeader src.length ++ answer.bytes

/-- A message, or a vector with the trace as it was. -/
def Tells (complete : List UInt8 → Prop) (ran : String → Exit) : Prop :=
  (∃ message, message ≠ "" ∧ ∀ trace, ran trace = .returned [] message) ∨
    ∃ vec, complete vec ∧ ∀ trace, ran trace = .returned vec trace

theorem tells_of_guard {complete : List UInt8 → Prop} {c : Prop} [Decidable c] {message : String}
    {rest : String → Exit} (nonempty : message ≠ "") (passes : c → Tells complete rest) :
    Tells complete fun trace => if c then rest trace else .returned [] message := by
  by_cases passed : c
  · simp only [if_pos passed]
    exact passes passed
  · simp only [if_neg passed]
    exact .inl ⟨message, nonempty, fun _ => rfl⟩

/-- `compress_1` asks for a source, a block and the encoder. -/
theorem compress1_tells (sdk : LzmaSdk) (miMalloc : Nat → Bool) (src : List UInt8) (level : UInt32) :
    Tells (Encoded sdk .lzma1 level src) (compress1 sdk miMalloc src level) := by
  unfold compress1
  simp only [← ite_not (src.length = 0)]
  apply tells_of_guard (by decide)
  intro _
  apply tells_of_guard (by decide)
  intro _
  apply tells_of_guard (by decide)
  intro ok
  exact .inr ⟨_, ⟨ok, rfl⟩, fun _ => rfl⟩

/-- `compress_2` asks for a source, a handle, its properties, a block and the encoder. -/
theorem compress2_tells (sdk : LzmaSdk) (miMalloc : Nat → Bool) (src : List UInt8) (level : UInt32) :
    Tells (Encoded sdk .lzma2 level src) (compress2 sdk miMalloc src level) := by
  unfold compress2
  simp only [← ite_not (src.length = 0)]
  apply tells_of_guard (by decide)
  intro _
  apply tells_of_guard (by decide)
  intro _
  apply tells_of_guard (by decide)
  intro _
  apply tells_of_guard (by decide)
  intro _
  apply tells_of_guard (by decide)
  intro ok
  exact .inr ⟨_, ⟨ok, rfl⟩, fun _ => rfl⟩

/-- What `compress` comes to. -/
theorem compress_cases (sdk : LzmaSdk) (miMalloc : Nat → Bool) (src : List UInt8)
    (type : LZMAType) (level : UInt32) :
    (∃ message, message ≠ "" ∧
      ∀ trace, compress sdk miMalloc src type level trace = .returned [] message) ∨
    ∃ vec, Encoded sdk type level src vec ∧
      ∀ trace, compress sdk miMalloc src type level trace = .returned vec trace := by
  cases type with
  | lzma1 => exact compress1_tells sdk miMalloc src level
  | lzma2 => exact compress2_tells sdk miMalloc src level

theorem compress_reports (sdk : LzmaSdk) (miMalloc : Nat → Bool) (src : List UInt8)
    (type : LZMAType) (level : UInt32) :
    Reports (fun _ vec => Encoded sdk type level src vec)
      fun trace => ([], some (compress sdk miMalloc src type level trace)) := by
  cases compress_cases sdk miMalloc src type level with
  | inl failed =>
    obtain ⟨message, nonempty, told⟩ := failed
    exact .failed message nonempty fun trace => congrArg some (told trace)
  | inr encoded =>
    obtain ⟨vec, whole, untouched⟩ := encoded
    exact .complete vec (fun _ => whole) fun trace => congrArg some (untouched trace)

/-! ## Decompressing -/

/-- Every call of the SDK succeeded, and there are as many bytes as the header says. -/
structure Whole (size : Nat) (calls : List LzmaCall) (vec : List UInt8) : Prop where
  size : vec.length = size
  calls : ∀ call ∈ calls, call.res = szOk

/-- Nothing, with the trace as it was, is only a report if nothing was to come. -/
theorem whole_of_silent {ran : String → List LzmaCall × Option Exit}
    (silent : ∀ trace, (ran trace).2 = some (.returned [] trace)) (reports : Reports (Whole size) ran) :
    Whole size (ran "").1 [] := by
  cases reports with
  | complete vec whole untouched =>
    have same := (untouched "").symm.trans (silent "")
    cases same
    exact whole ""
  | failed message nonempty told =>
    have same := (told "").symm.trans (silent "")
    cases same
    exact absurd rfl nonempty

/-- A report is a return. -/
theorem returned_of_reports {ran : String → List LzmaCall × Option Exit}
    (reports : Reports (Whole size) ran) :
    ∃ vec traced, (ran "").2 = some (.returned vec traced) := by
  cases reports with
  | complete vec whole untouched => exact ⟨vec, "", untouched ""⟩
  | failed message nonempty told => exact ⟨[], message, told ""⟩

theorem decompress1_reports_iff (asks : Asks miMalloc src) (rounds : Nat) :
    Reports (Whole (sizeFromHeader 5 src)) (decompress rounds sdk miMalloc behind src .lzma1) ↔
      13 < src.length ∧ (decodeAnswer sdk behind src).res = szOk ∧
        (decodeAnswer sdk behind src).bytes.length = sizeFromHeader 5 src := by
  have unfolded : ∀ trace, decompress rounds sdk miMalloc behind src .lzma1 trace =
      ((decompress1 sdk miMalloc behind src trace).1,
        some (decompress1 sdk miMalloc behind src trace).2) := fun _ => rfl
  by_cases payload : 13 < src.length
  case neg =>
    simp only [payload, false_and, iff_false]
    intro reports
    obtain ⟨vec, traced, returned⟩ := returned_of_reports reports
    rw [unfolded, decompress1_of_no_payload asks payload] at returned
    cases returned
  by_cases decodes : (decodeAnswer sdk behind src).res = szOk ∧
      (decodeAnswer sdk behind src).bytes.length = sizeFromHeader 5 src
  · simp only [payload, decodes, and_self, iff_true]
    apply Reports.complete (decodeAnswer sdk behind src).bytes
    · intro trace
      rw [unfolded, decompress1_of_asks asks payload, if_pos decodes]
      apply Whole.mk decodes.2
      intro call member
      rw [List.mem_singleton.mp member]
      exact decodes.1
    · intro trace
      rw [unfolded, decompress1_of_asks asks payload, if_pos decodes]
  · simp only [payload, decodes, true_and, iff_false]
    intro reports
    have silent : ∀ trace, (decompress rounds sdk miMalloc behind src .lzma1 trace).2 =
        some (.returned [] trace) := by
      intro trace
      rw [unfolded, decompress1_of_asks asks payload, if_neg decodes]
    have whole := whole_of_silent silent reports
    rw [unfolded, decompress1_calls sdk behind "" asks payload] at whole
    have ok : (decodeAnswer sdk behind src).res = szOk :=
      whole.calls (decodeCall sdk behind src) (List.mem_singleton.mpr rfl)
    have empty : 0 = sizeFromHeader 5 src := whole.size
    have fits := (decodeAnswer sdk behind src).fits
    exact decodes ⟨ok, by omega⟩

/-- Where the loop ends with its data, every call of it succeeded. -/
theorem events_ok {rounds : Nat} {state last : DecodeState sdk.CLzma2Dec}
    (left : (decoded sdk src size rounds state).control = .leave (.done last)) :
    ∀ call ∈ (decoded sdk src size rounds state).events, call.res = szOk := by
  induction rounds generalizing state with
  | zero => cases left
  | succ rounds ih =>
    have unfolded : decoded sdk src size (rounds + 1) state =
        (decodeRound sdk src size () state).andThen (decoded sdk src size rounds) := rfl
    rw [unfolded] at left ⊢
    cases round_cases src size state with
    | filled full =>
      rw [round_filled full]
      exact List.forall_mem_nil _
    | starved room spent =>
      rw [round_starved room spent] at left
      cases left
    | refused called failed =>
      rw [round_refused called failed] at left
      cases left
    | marked called ok mark =>
      rw [round_marked called ok mark]
      intro call member
      rw [List.mem_singleton.mp member]
      exact ok
    | onward called ok unmarked =>
      rw [round_onward called ok unmarked] at left ⊢
      intro call member
      cases List.mem_cons.mp member with
      | inl first =>
        rw [first]
        exact ok
      | inr later => exact ih left call later

/-- A loop that ends otherwise than with all of the output ends silently. -/
theorem stops_of_reports (enters : Enters sdk miMalloc src) {rounds : Nat}
    (reports : Reports (Whole (sizeFromHeader 1 src)) (decompress2 rounds sdk miMalloc src)) :
    Stops src (sizeFromHeader 1 src) (startOf sdk) .failed ∨
      ∃ last, Stops src (sizeFromHeader 1 src) (startOf sdk) (.done last) ∧
        last.outPos = sizeFromHeader 1 src := by
  obtain ⟨vec, traced, returned⟩ := returned_of_reports reports
  obtain ⟨exit, stops, left, after⟩ := stops_of_returned enters returned
  cases exit with
  | failed => exact .inl stops
  | terminated => cases after
  | done last =>
    suffices whole : last.outPos = sizeFromHeader 1 src from .inr ⟨last, stops, whole⟩
    by_contra short
    have silent : ∀ trace, (decompress2 rounds sdk miMalloc src trace).2 =
        some (.returned [] trace) := by
      intro trace
      rw [returned_of_leave enters left, afterLoop, if_neg short]
    have empty : 0 = sizeFromHeader 1 src := (whole_of_silent silent reports).size
    rw [← empty] at stops short
    cases stops with
    | filled _ full => exact short rfl
    | marked _ called ok mark => exact absurd called.room (Nat.not_lt_zero _)
    | onward _ _ called ok unmarked rest => exact absurd called.room (Nat.not_lt_zero _)

theorem reports_of_failed (enters : Enters sdk miMalloc src)
    (stops : Stops src (sizeFromHeader 1 src) (startOf sdk) .failed) :
    ∃ rounds, Reports (Whole (sizeFromHeader 1 src)) (decompress2 rounds sdk miMalloc src) := by
  obtain ⟨rounds, left⟩ := leave_of_stops stops
  apply Exists.intro rounds
  apply Reports.failed "Lzma2Dec_DecodeToBuf(...) == SZ_OK. trace info: lzma_cxx::decompress_2"
  · decide
  · exact returned_of_leave enters left

theorem reports_of_done (enters : Enters sdk miMalloc src) {last : DecodeState sdk.CLzma2Dec}
    (stops : Stops src (sizeFromHeader 1 src) (startOf sdk) (.done last))
    (whole : last.outPos = sizeFromHeader 1 src) :
    ∃ rounds, Reports (Whole (sizeFromHeader 1 src)) (decompress2 rounds sdk miMalloc src) := by
  obtain ⟨rounds, left⟩ := leave_of_stops stops
  have tracks := stops_tracks enters.small stops (tracks_start _) rfl
  apply Exists.intro rounds
  apply Reports.complete (last.data.take last.outPos)
  · intro trace
    rw [decompress2_of_enters enters]
    constructor
    · rw [List.length_take, tracks.data, whole, Nat.min_self]
    · intro call member
      cases List.mem_cons.mp member with
      | inl allocate =>
        rw [allocate]
        rfl
      | inr decode => exact events_ok left call decode
  · intro trace
    rw [returned_of_leave enters left, afterLoop, if_pos whole]

theorem decompress2_reports_iff (enters : Enters sdk miMalloc src) :
    (∃ rounds, Reports (Whole (sizeFromHeader 1 src)) (decompress2 rounds sdk miMalloc src)) ↔
      Stops src (sizeFromHeader 1 src) (startOf sdk) .failed ∨
        ∃ last, Stops src (sizeFromHeader 1 src) (startOf sdk) (.done last) ∧
          last.outPos = sizeFromHeader 1 src := by
  constructor
  · intro ⟨rounds, reports⟩
    exact stops_of_reports enters reports
  · intro stops
    cases stops with
    | inl failed => exact reports_of_failed enters failed
    | inr done =>
      obtain ⟨last, stops, whole⟩ := done
      exact reports_of_done enters stops whole

/-! ## Both directions -/

/-- Compressing and decompressing report their failures. -/
structure ReportsFailures (sdk : LzmaSdk) (miMalloc : Nat → Bool) (behind : Nat → UInt8)
    (type : LZMAType) (level : UInt32) (original container : List UInt8) : Prop where
  compresses : Reports (fun _ vec => Encoded sdk type level original vec)
    fun trace => ([], some (compress sdk miMalloc original type level trace))
  decompresses : ∃ rounds, Reports (Whole (sizeFromHeader (propsSize type) container))
    (decompress rounds sdk miMalloc behind container type)

/-- The decoder, if there is one, gives all that the header promises or, in the loop of
LZMA2, stops in time with an error. -/
def DecodesOrFails (sdk : LzmaSdk) (miMalloc : Nat → Bool) (behind : Nat → UInt8)
    (container : List UInt8) : LZMAType → Prop
  | .lzma1 => Asks miMalloc container →
    13 < container.length ∧ (decodeAnswer sdk behind container).res = szOk ∧
      (decodeAnswer sdk behind container).bytes.length = sizeFromHeader 5 container
  | .lzma2 => Enters sdk miMalloc container →
    Stops container (sizeFromHeader 1 container) (startOf sdk) .failed ∨
      ∃ last, Stops container (sizeFromHeader 1 container) (startOf sdk) (.done last) ∧
        last.outPos = sizeFromHeader 1 container

theorem decompress_reports_iff (type : LZMAType) :
    (∃ rounds, Reports (Whole (sizeFromHeader (propsSize type) src))
        (decompress rounds sdk miMalloc behind src type)) ↔
      DecodesOrFails sdk miMalloc behind src type := by
  cases type with
  | lzma1 =>
    by_cases asks : Asks miMalloc src
    · constructor
      · intro ⟨rounds, reports⟩ _
        exact (decompress1_reports_iff asks rounds).mp reports
      · intro decodes
        exact ⟨0, (decompress1_reports_iff asks 0).mpr (decodes asks)⟩
    · constructor
      · intro _ asks'
        exact absurd asks' asks
      · intro _
        exact ⟨0, reports_of_refuses (decompress1_refuses asks 0)⟩
  | lzma2 =>
    by_cases enters : Enters sdk miMalloc src
    · constructor
      · intro reports _
        exact (decompress2_reports_iff enters).mp reports
      · intro decodes
        exact (decompress2_reports_iff enters).mpr (decodes enters)
    · constructor
      · intro _ enters'
        exact absurd enters' enters
      · intro _
        exact ⟨0, reports_of_refuses (decompress2_refuses enters 0)⟩

/-- Failures are always reported when compressing; when decompressing, exactly if the
decoder does not end short. -/
theorem reportsFailures_iff (sdk : LzmaSdk) (miMalloc : Nat → Bool) (behind : Nat → UInt8)
    (type : LZMAType) (level : UInt32) (original container : List UInt8) :
    ReportsFailures sdk miMalloc behind type level original container ↔
      DecodesOrFails sdk miMalloc behind container type := by
  constructor
  · intro reports
    exact (decompress_reports_iff type).mp reports.decompresses
  · intro decodes
    exact ⟨compress_reports sdk miMalloc original type level,
      (decompress_reports_iff type).mpr decodes⟩

/-- A payload that the decoder refuses is decompressed to nothing, and nothing says so. -/
theorem refused_payload_unreported :
    ¬ReportsFailures storedSdk (fun _ => true) (fun _ => 0) .lzma1 5 [97]
      [93, 0, 16, 0, 0, 1, 0, 0, 0, 0, 0, 0, 0, 2, 97] := by
  intro reports
  have size : sizeFromHeader 5 [93, 0, 16, 0, 0, 1, 0, 0, 0, 0, 0, 0, 0, 2, 97] = 1 := by decide
  have decodes := (decompress_reports_iff .lzma1).mp reports.decompresses
  have answer := (decodes ⟨by decide, by rw [size]; decide, rfl⟩).2.1
  exact absurd answer (by decide)

end WolfEngine.Verified.Lzma
