import Mathlib.Data.Nat.Find
import WolfEngine.Verified.Decompress

/-! # From `compress` to `de_compress`

The decoder is not told the size of what it decodes, and tries twice the size of
what it was given, then twice that.  The attempt that is large enough has to be an
`i32`, or the doubling that leads to it overflows.
-/

namespace WolfEngine.Verified

open WolfEngine.System.Lz4 EventLoop MachineInt Overlay

/-- `LZ4_MAX_INPUT_SIZE`. -/
def maxInputSize : Nat := 0x7E000000

/-- The bytes that liblz4 makes of `x`, in a buffer of `LZ4_compressBound` bytes. -/
def compressed (lz4 : Liblz4) (mode : Lz4CompressMode) (acceleration : Int) (x : List UInt8) :
    List UInt8 :=
  (lz4.compressMode mode acceleration x (lz4.compressBound x.length)).bytes.take
    (lz4.compressMode mode acceleration x (lz4.compressBound x.length)).result.toNat

/-- What liblz4 promises of inputs it takes. -/
structure Documented (lz4 : Liblz4) : Prop where
  compresses : ∀ mode acceleration x, x ≠ [] → x.length ≤ maxInputSize →
    1 ≤ (lz4.compressMode mode acceleration x (lz4.compressBound x.length)).result ∧
    (compressed lz4 mode acceleration x).length =
      (lz4.compressMode mode acceleration x (lz4.compressBound x.length)).result ∧
    x.length ≤ 255 * (compressed lz4 mode acceleration x).length
  decompresses : ∀ mode acceleration x, x ≠ [] → x.length ≤ maxInputSize →
    ∀ capacity : Int, x.length ≤ capacity →
    (lz4.decompressSafe (compressed lz4 mode acceleration x) capacity).result = x.length ∧
    (lz4.decompressSafe (compressed lz4 mode acceleration x) capacity).bytes.take x.length = x
  refuses : ∀ mode acceleration x, x ≠ [] → x.length ≤ maxInputSize →
    ∀ capacity : Int, capacity < x.length →
    (lz4.decompressSafe (compressed lz4 mode acceleration x) capacity).result < 0

section Attempts

/-- `src` is decoded to `x` wherever there is room for it. -/
structure Decodes (decompressSafe : DecompressSafe) (src x : List UInt8) : Prop where
  nonempty : x ≠ []
  ratio : x.length ≤ 255 * src.length
  decodes : ∀ capacity : Int, x.length ≤ capacity →
    (decompressSafe src capacity).result = x.length ∧
    (decompressSafe src capacity).bytes.take x.length = x
  refuses : ∀ capacity : Int, capacity < x.length → (decompressSafe src capacity).result < 0

variable {overflowChecks : Bool} {decompressSafe : DecompressSafe} {src x : List UInt8}

theorem Decodes.positive (decodes : Decodes decompressSafe src x) : 0 < src.length := by
  have length := List.length_pos_iff.mpr decodes.nonempty
  have ratio := decodes.ratio
  omega

theorem Decodes.result_pos (decodes : Decodes decompressSafe src x) {capacity : Int}
    (room : x.length ≤ capacity) : 0 < (decompressSafe src capacity).result := by
  rw [(decodes.decodes capacity room).1]
  exact Int.natCast_pos.mpr (List.length_pos_iff.mpr decodes.nonempty)

theorem Decodes.room (decodes : Decodes decompressSafe src x) {capacity : Int}
    (decoded : 0 < (decompressSafe src capacity).result) : x.length ≤ capacity := by
  by_contra full
  have refused := decodes.refuses capacity (by omega)
  omega

/-- The first attempt that has the room is one of the first eight. -/
theorem Decodes.first_room (decodes : Decodes decompressSafe src x) {k : Nat}
    (room : x.length ≤ capacityAt src k) :
    ∃ m ≤ k, m ≤ 7 ∧ x.length ≤ capacityAt src m ∧ ∀ j < m, capacityAt src j < x.length := by
  have eighth : x.length ≤ capacityAt src 7 := by
    have ratio := decodes.ratio
    unfold capacityAt
    omega
  have some_room : ∃ i, x.length ≤ capacityAt src i := ⟨k, room⟩
  refine ⟨Nat.find some_room, Nat.find_min' some_room room, Nat.find_min' some_room eighth,
    Nat.find_spec some_room, fun j earlier => ?_⟩
  have full := Nat.find_min some_room earlier
  omega

/-- What the loop is left with when attempt `m` has the room. -/
def decodedState (decompressSafe : DecompressSafe) (src x : List UInt8) (m : Nat)
    (dst : List UInt8) : DeCompressState where
  maxDstSize := capacityAt src m
  retSize := x.length
  dst := overlay (decompressSafe src (capacityAt src m)).bytes
    (resize (capacityAt src m).toNat dst)

theorem Decodes.attempt (decodes : Decodes decompressSafe src x) {m : Nat}
    (room : x.length ≤ capacityAt src m) {state : DeCompressState}
    (size : state.maxDstSize = capacityAt src m) :
    (deCompressRound overflowChecks src decompressSafe state).control =
      .leave (some (decodedState decompressSafe src x m state.dst)) := by
  have positive := capacityAt_pos decodes.positive m
  have decoded := decodes.result_pos room
  cases attempt_cases overflowChecks src decompressSafe state with
  | stops spent ran => omega
  | decodes _ _ ran => rw [ran, size, (decodes.decodes _ room).1, decodedState]
  | fails _ failed ran =>
    rw [size] at failed
    omega

theorem Decodes.finish (decodes : Decodes decompressSafe src x) {m : Nat}
    (room : x.length ≤ capacityAt src m) (dst : List UInt8) :
    finish (decodedState decompressSafe src x m dst) = (.ok (), x) := by
  have nonempty := List.length_pos_iff.mpr decodes.nonempty
  have written := (decodes.decodes _ room).2
  have length : x.length ≤ (decompressSafe src (capacityAt src m)).bytes.length := by
    have lengths := congrArg List.length written
    rw [List.length_take] at lengths
    omega
  unfold System.Lz4.finish decodedState
  dsimp only
  rw [Int.toNat_natCast, if_pos nonempty, overlay, List.take_append_of_le_length length, written]

/-- With room in an `i32`, the attempts before the first one that has it fail, and that
one succeeds. -/
theorem deCompress_of_room (overflowChecks : Bool) (decodes : Decodes decompressSafe src x)
    (out : List UInt8) {k : Nat} (room : x.length ≤ capacityAt src k)
    (inRange : i32.InRange (capacityAt src k)) :
    (deCompress overflowChecks (fun _ => decompressSafe) out src).2 = some (.ok (), x) := by
  obtain ⟨m, le, eighth, found, full⟩ := decodes.first_room room
  have fits : ∀ j ≤ m, i32.InRange (capacityAt src j) := by
    intro j below
    have larger := capacityAt_le src (Nat.le_trans below le)
    have positive := capacityAt_pos decodes.positive j
    rw [inRange_i32_iff] at inRange ⊢
    omega
  have first := fits 0 (Nat.zero_le m)
  have nonzero : i32Len src ≠ 0 := by
    have positive := decodes.positive
    rw [capacityAt_zero, inRange_i32_iff] at first
    rw [Ne, i32Len_eq_zero_iff]
    omega
  rw [deCompress_of_computed _ _ nonzero (IntType.compute_of_inRange _ first)]
  obtain ⟨state, inside, size⟩ := inside_of_failures overflowChecks
    ⟨capacityAt src 0, 0, []⟩ decodes.positive rfl
    (fun j earlier => Int.le_of_lt (decodes.refuses _ (full j earlier)))
    (fun j earlier => fits (j + 1) earlier)
  have within : m < attempts := Nat.lt_of_le_of_lt eighth (by decide)
  obtain ⟨post, split⟩ := firstRounds_cons (fun _ : Nat => decompressSafe) within
  have left := run_leave_iff.mpr ⟨_, _, post, state, split, inside, decodes.attempt found size⟩
  rw [attemptsFrom, left]
  exact congrArg some (decodes.finish found state.dst)

theorem retSize_pos_of_finish {state : DeCompressState} {left : List UInt8}
    (ok : some (finish state) = some (.ok (), left)) : 0 < state.retSize := by
  by_contra failed
  have none : ¬state.retSize.toNat > 0 := by omega
  rw [finish, if_neg none] at ok
  cases ok

/-- The loop starts with twice the length, or with nothing positive. -/
theorem afterFailures_start {decoders : Nat → DecompressSafe} {maxDstSize : Int}
    (nonzero : i32Len src ≠ 0)
    (computed : i32.compute overflowChecks (capacityAt src 0) = some maxDstSize) :
    AfterFailures decoders src 0 ⟨maxDstSize, 0, []⟩ := by
  obtain ⟨_, positive, short⟩ := i32Len_of_ne_zero nonzero
  rw [capacityAt_zero] at computed
  have length : i32.InRange src.length := by
    rw [inRange_i32_iff]
    omega
  refine ⟨Int.le_refl 0, ?_⟩
  rcases double_i32 (Int.natCast_pos.mpr positive) length computed with ⟨exact, fits⟩ | spent
  · rw [← capacityAt_zero] at exact fits
    exact .inl ⟨exact, fits, nofun⟩
  · exact .inr spent

/-- The loop is left with a size by an attempt that had the room in an `i32`. -/
theorem room_of_leave (decodes : Decodes decompressSafe src x) {start final : DeCompressState}
    (begins : AfterFailures (fun _ => decompressSafe) src 0 start) {count : Nat}
    (control : (run (deCompressRound overflowChecks src) (firstRounds (fun _ => decompressSafe) count)
      start).control = .leave (some final)) (decoded : 0 < final.retSize) :
    ∃ k, x.length ≤ capacityAt src k ∧ i32.InRange (capacityAt src k) := by
  obtain ⟨pre, _, post, state, split, inside, leaves⟩ := run_leave_iff.mp control
  obtain ⟨i, _, rfl, same⟩ := firstRounds_split split
  rw [same] at leaves
  have after := afterFailures_of_inside begins inside
  cases attempt_cases overflowChecks src decompressSafe state with
  | stops spent ran =>
    rw [ran] at leaves
    cases leaves
    have failed := after.retSize
    omega
  | decodes room result ran =>
    obtain ⟨size, inRange, _⟩ := after.maxDstSize.resolve_right (by omega)
    rw [size] at result
    exact ⟨i, decodes.room result, inRange⟩
  | fails room failed ran =>
    rw [ran] at leaves
    dsimp only at leaves
    cases doubling : i32.compute overflowChecks (state.maxDstSize * 2) with
    | none =>
      rw [doubling] at leaves
      cases leaves
    | some doubled =>
      rw [doubling] at leaves
      cases leaves

/-- A source that was decoded, was decoded by an attempt that had the room in an `i32`. -/
theorem room_of_deCompress (decodes : Decodes decompressSafe src x) {out left : List UInt8}
    (ok : (deCompress overflowChecks (fun _ => decompressSafe) out src).2 = some (.ok (), left)) :
    ∃ k, x.length ≤ capacityAt src k ∧ i32.InRange (capacityAt src k) := by
  by_cases zero : i32Len src = 0
  · rw [deCompress, if_pos zero] at ok
    cases ok
  cases computed : i32.compute overflowChecks (capacityAt src 0) with
  | none =>
    rw [deCompress_of_overflow _ _ zero computed] at ok
    cases ok
  | some maxDstSize =>
    have begins : AfterFailures (fun _ => decompressSafe) src 0 ⟨maxDstSize, 0, []⟩ :=
      afterFailures_start zero computed
    rw [deCompress_of_computed _ _ zero computed] at ok
    dsimp only at ok
    cases control : (attemptsFrom overflowChecks (fun _ => decompressSafe) src
        maxDstSize).control with
    | again state =>
      rw [control] at ok
      have failed := (afterFailures_of_inside begins control).retSize
      have decoded := retSize_pos_of_finish ok
      omega
    | leave ended =>
      rw [control] at ok
      cases ended with
      | none => cases ok
      | some final => exact room_of_leave decodes begins control (retSize_pos_of_finish ok)

end Attempts

section RoundTrip

variable {lz4 : Liblz4} (documented : Documented lz4) {x : List UInt8} (nonempty : x ≠ [])
  (small : x.length ≤ maxInputSize) {mode : Lz4CompressMode} {acceleration : Int}

include documented nonempty small

/-- What liblz4 takes is compressed. -/
theorem compress_ok (dst : List UInt8) :
    compress lz4 dst x mode acceleration = (.ok (), compressed lz4 mode acceleration x) := by
  obtain ⟨positive, length, _⟩ := documented.compresses mode acceleration x nonempty small
  have lengths : i32Len x = x.length := by
    apply i32Len_of_inRange
    rw [inRange_i32_iff]
    unfold maxInputSize at small
    omega
  have hasBytes : ¬(x.length : Int) = 0 := by
    rw [Int.natCast_eq_zero, List.length_eq_zero_iff]
    exact nonempty
  rw [compress, lengths, if_neg hasBytes]
  dsimp only
  unfold compressed at length ⊢
  generalize lz4.compressMode mode acceleration x (lz4.compressBound x.length) = answer
    at positive length ⊢
  have fits := answer.resultFits
  have written : answer.result.toNat ≤ answer.bytes.length := by
    rw [List.length_take] at length
    omega
  rw [if_neg (by omega), if_pos (by omega), overlay, List.take_append_of_le_length written]

theorem decodes_compressed :
    Decodes lz4.decompressSafe (compressed lz4 mode acceleration x) x where
  nonempty := nonempty
  ratio := (documented.compresses mode acceleration x nonempty small).2.2
  decodes := documented.decompresses mode acceleration x nonempty small
  refuses := documented.refuses mode acceleration x nonempty small

end RoundTrip

theorem capacityAt_fits_iff {src : List UInt8} {k n : Nat} :
    (n ≤ capacityAt src k ∧ i32.InRange (capacityAt src k)) ↔
      n ≤ 2 ^ (k + 1) * src.length ∧ 2 ^ (k + 1) * src.length < 2 ^ 31 := by
  have capacity : capacityAt src k = ((2 ^ (k + 1) * src.length : Nat) : Int) := by
    rw [capacityAt, Nat.mul_comm]
    push_cast
    rfl
  rw [capacity, inRange_i32_iff]
  omega

/-- What was compressed comes back exactly when some doubling of the compressed size has
the room for it in an `i32`. -/
theorem round_trip_iff (overflowChecks : Bool) {lz4 : Liblz4} (documented : Documented lz4)
    {x : List UInt8} (nonempty : x ≠ []) (small : x.length ≤ maxInputSize)
    (mode : Lz4CompressMode) (acceleration : Int) (dst out : List UInt8) {dst' : List UInt8}
    (ok : compress lz4 dst x mode acceleration = (.ok (), dst'))
    (short : dst'.length ≤ 2 ^ 31 - 1) :
    (deCompress overflowChecks (fun _ => lz4.decompressSafe) out dst').2 = some (.ok (), x) ↔
      ∃ k, x.length ≤ 2 ^ (k + 1) * (compressed lz4 mode acceleration x).length ∧
        2 ^ (k + 1) * (compressed lz4 mode acceleration x).length < 2 ^ 31 := by
  have decodes : Decodes lz4.decompressSafe (compressed lz4 mode acceleration x) x :=
    decodes_compressed documented nonempty small
  rw [compress_ok documented nonempty small dst] at ok
  cases ok
  constructor
  · intro back
    obtain ⟨k, fits⟩ := room_of_deCompress decodes back
    exact ⟨k, capacityAt_fits_iff.mp fits⟩
  · rintro ⟨k, fits⟩
    obtain ⟨room, inRange⟩ := capacityAt_fits_iff.mpr fits
    exact deCompress_of_room overflowChecks decodes out room inRange

/-! ## Blocks of literals

Where liblz4 finds no four bytes to refer back to, its block is one run of literals:
a token, the rest of the run's length, and the bytes.
-/

/-- The length of a run past the fifteen of its token. -/
def restOfLength (length : Nat) : List UInt8 :=
  List.replicate (length / 255) 255 ++ [UInt8.ofNat (length % 255)]

def literalBlock (x : List UInt8) : List UInt8 :=
  if x.length < 15 then UInt8.ofNat (x.length * 16) :: x
  else 240 :: (restOfLength (x.length - 15) ++ x)

def readRestOfLength : List UInt8 → Option (Nat × List UInt8)
  | [] => none
  | byte :: rest =>
    if byte = 255 then
      (readRestOfLength rest).map fun read => (read.1 + 255, read.2)
    else
      some (byte.toNat, rest)

/-- The literals of a block that is one run of them. -/
def readLiterals : List UInt8 → Option (List UInt8)
  | [] => none
  | token :: rest =>
    if token.toNat / 16 < 15 then
      if rest.length = token.toNat / 16 then some rest else none
    else
      match readRestOfLength rest with
      | none => none
      | some (length, literals) => if literals.length = length + 15 then some literals else none

theorem readRestOfLength_full (count : Nat) {small : Nat} (short : small < 255)
    (rest : List UInt8) :
    readRestOfLength (List.replicate count 255 ++ UInt8.ofNat small :: rest) =
      some (small + count * 255, rest) := by
  induction count with
  | zero =>
    have byte : UInt8.ofNat small ≠ 255 := by
      intro same
      have values := congrArg UInt8.toNat same
      rw [UInt8.toNat_ofNat_of_lt' (by unfold UInt8.size; omega)] at values
      exact Nat.ne_of_lt short values
    simp only [List.replicate_zero, List.nil_append, readRestOfLength, if_neg byte,
      UInt8.toNat_ofNat_of_lt' (show small < UInt8.size by unfold UInt8.size; omega), Nat.zero_mul,
      Nat.add_zero]
  | succ count ih =>
    rw [List.replicate_succ, List.cons_append, readRestOfLength, if_pos rfl, ih]
    simp only [Option.map_some, Option.some.injEq, Prod.mk.injEq, and_true]
    omega

theorem readRestOfLength_restOfLength (length : Nat) (rest : List UInt8) :
    readRestOfLength (restOfLength length ++ rest) = some (length, rest) := by
  rw [restOfLength, List.append_assoc, List.singleton_append,
    readRestOfLength_full _ (Nat.mod_lt _ (by decide))]
  congr 2
  omega

theorem readLiterals_literalBlock (x : List UInt8) : readLiterals (literalBlock x) = some x := by
  unfold literalBlock
  split
  next short =>
    have token : (UInt8.ofNat (x.length * 16)).toNat = x.length * 16 :=
      UInt8.toNat_ofNat_of_lt' (by unfold UInt8.size; omega)
    simp only [readLiterals, token]
    rw [if_pos (by omega), if_pos (by omega)]
  next long =>
    simp only [readLiterals, readRestOfLength_restOfLength]
    rw [if_neg (by decide), if_pos (by omega)]

theorem literalBlock_length (x : List UInt8) :
    x.length < (literalBlock x).length ∧
      (literalBlock x).length ≤ x.length + x.length / 255 + 16 := by
  unfold literalBlock restOfLength
  split
  · simp only [List.length_cons]
    omega
  · simp only [List.length_cons, List.length_append, List.length_replicate, List.length_nil]
    omega

/-- All of `bytes`, if there is room; otherwise nothing and `failure`. -/
def wholly (bytes : List UInt8) (failure dstSize : Int) (failed : failure ≤ 0) : Answer dstSize :=
  if fits : bytes.length ≤ dstSize.toNat then
    ⟨bytes.length, bytes, Int.ofNat_le.mpr fits, fits⟩
  else
    refusal failure dstSize failed

theorem wholly_of_fits {bytes : List UInt8} {failure dstSize : Int} (failed : failure ≤ 0)
    (fits : bytes.length ≤ dstSize.toNat) :
    (wholly bytes failure dstSize failed).result = bytes.length ∧
      (wholly bytes failure dstSize failed).bytes = bytes := by
  rw [wholly, dif_pos fits]
  exact ⟨rfl, rfl⟩

/-- liblz4, as it is where it finds nothing to refer back to. -/
def literalsOnly : Liblz4 where
  compressBound inputSize := if inputSize ≤ maxInputSize then inputSize + inputSize / 255 + 16 else 0
  compressDefault x dstSize := wholly (literalBlock x) 0 dstSize (Int.le_refl 0)
  compressFast x dstSize _ := wholly (literalBlock x) 0 dstSize (Int.le_refl 0)
  decompressSafe block dstSize :=
    match readLiterals block with
    | none => refusal (-1) dstSize minusOne_nonpos
    | some x => wholly x (-1) dstSize minusOne_nonpos

theorem literalsOnly_compressMode (mode : Lz4CompressMode) (acceleration : Int) (x : List UInt8)
    (dstSize : Int) : literalsOnly.compressMode mode acceleration x dstSize =
      wholly (literalBlock x) 0 dstSize (Int.le_refl 0) := by
  cases mode <;> rfl

theorem literalsOnly_fits {x : List UInt8} (small : x.length ≤ maxInputSize) :
    (literalBlock x).length ≤ (literalsOnly.compressBound x.length).toNat := by
  have bound := (literalBlock_length x).2
  have taken : (x.length : Int) ≤ maxInputSize := Int.ofNat_le.mpr small
  show _ ≤ (if (x.length : Int) ≤ maxInputSize then _ else _ : Int).toNat
  rw [if_pos taken]
  omega

theorem compressed_literalsOnly (mode : Lz4CompressMode) (acceleration : Int) {x : List UInt8}
    (small : x.length ≤ maxInputSize) :
    compressed literalsOnly mode acceleration x = literalBlock x := by
  obtain ⟨result, bytes⟩ := wholly_of_fits (Int.le_refl 0) (literalsOnly_fits small)
  rw [compressed, literalsOnly_compressMode, result, bytes, Int.toNat_natCast, List.take_length]

theorem literalsOnly_decompressSafe (x : List UInt8) (dstSize : Int) :
    literalsOnly.decompressSafe (literalBlock x) dstSize = wholly x (-1) dstSize minusOne_nonpos := by
  show (match readLiterals (literalBlock x) with | none => _ | some x => _) = _
  rw [readLiterals_literalBlock]

theorem literalsOnly_documented : Documented literalsOnly where
  compresses mode acceleration x nonempty small := by
    have lengths := literalBlock_length x
    rw [compressed_literalsOnly mode acceleration small, literalsOnly_compressMode,
      (wholly_of_fits (Int.le_refl 0) (literalsOnly_fits small)).1]
    omega
  decompresses mode acceleration x nonempty small capacity room := by
    obtain ⟨result, bytes⟩ := wholly_of_fits minusOne_nonpos
      (show x.length ≤ capacity.toNat by omega)
    rw [compressed_literalsOnly mode acceleration small, literalsOnly_decompressSafe, result, bytes]
    exact ⟨rfl, List.take_length⟩
  refuses mode acceleration x nonempty small capacity full := by
    have length := List.length_pos_iff.mpr nonempty
    rw [compressed_literalsOnly mode acceleration small, literalsOnly_decompressSafe, wholly,
      dif_neg (by omega)]
    show (-1 : Int) < 0
    decide

/-- `HELLO`, which is too short to refer back to anything. -/
def hello : List UInt8 := [72, 69, 76, 76, 79]

theorem hello_comes_back :
    (deCompress true (fun _ => literalsOnly.decompressSafe) [] (literalBlock hello)).2 =
      some (.ok (), hello) := by
  have ok : compress literalsOnly [] hello .default 1 = (.ok (), literalBlock hello) := by
    rw [compress_ok literalsOnly_documented (by decide) (by decide),
      compressed_literalsOnly _ _ (by decide)]
  refine (round_trip_iff true literalsOnly_documented (by decide) (by decide) .default 1 [] []
    ok (by decide)).mpr ⟨0, ?_⟩
  rw [compressed_literalsOnly _ _ (by decide)]
  decide

/-- A gibibyte in which no four bytes come again where liblz4 looks back: the bytes of
base-64 numbers that count up, lowest digit first, each marked with its place. -/
def incompressible : List UInt8 :=
  (List.range (2 ^ 30)).map fun i => UInt8.ofNat (64 * (i % 4) + i / 4 / 64 ^ (i % 4) % 64)

/-- Twice its compressed size is no `i32`. -/
theorem incompressible_lost :
    incompressible ≠ [] ∧ incompressible.length ≤ maxInputSize ∧ Documented literalsOnly ∧
      ∃ dst', compress literalsOnly [] incompressible .default 1 = (.ok (), dst') ∧
        dst'.length ≤ 2 ^ 31 - 1 ∧
        ∀ overflowChecks, (deCompress overflowChecks (fun _ => literalsOnly.decompressSafe) []
          dst').2 ≠ some (.ok (), incompressible) := by
  have length : incompressible.length = 2 ^ 30 := by
    rw [incompressible, List.length_map, List.length_range]
  have nonempty : incompressible ≠ [] := by
    rw [← List.length_pos_iff, length]
    decide
  have small : incompressible.length ≤ maxInputSize := by
    rw [length]
    decide
  have lengths := literalBlock_length incompressible
  rw [length] at lengths
  have decodes : Decodes literalsOnly.decompressSafe (compressed literalsOnly .default 1
    incompressible) incompressible := decodes_compressed literalsOnly_documented nonempty small
  rw [compressed_literalsOnly _ _ small] at decodes
  refine ⟨nonempty, small, literalsOnly_documented, literalBlock incompressible, ?_, by omega, ?_⟩
  · rw [compress_ok literalsOnly_documented nonempty small, compressed_literalsOnly _ _ small]
  · intro overflowChecks back
    obtain ⟨k, _, inRange⟩ := room_of_deCompress decodes back
    have first := capacityAt_le (literalBlock incompressible) (Nat.zero_le k)
    rw [capacityAt_zero] at first
    rw [inRange_i32_iff] at inRange
    omega

end WolfEngine.Verified
