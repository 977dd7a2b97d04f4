import WolfEngine.Library.EventLoop
import WolfEngine.Library.MachineInt
import WolfEngine.Library.Overlay

/-! # LZ4

`system/compression/lz4.rs` over `sys/system/lz4.cpp`.  What liblz4 itself answers is
taken from the outside; that it stays inside the buffer it is given is a field of
every answer.
-/

namespace WolfEngine.System.Lz4

open EventLoop MachineInt Overlay

inductive Lz4CompressMode where
  | default
  | fast
deriving DecidableEq

/-- What a call of liblz4 returns, and what it wrote to the front of a buffer of
`capacity` bytes. -/
structure Answer (capacity : Int) where
  result : Int
  bytes : List UInt8
  resultFits : result ≤ capacity.toNat
  bytesFit : bytes.length ≤ capacity.toNat

/-- The liblz4 functions behind `w_lz4_*`. -/
structure Liblz4 where
  compressBound : Int → Int
  compressDefault : List UInt8 → (dstSize : Int) → Answer dstSize
  compressFast : List UInt8 → (dstSize acceleration : Int) → Answer dstSize
  decompressSafe : List UInt8 → (dstSize : Int) → Answer dstSize

/-- `i32::try_from(len).unwrap_or(0)`. -/
def i32Len (bytes : List UInt8) : Int := (i32.tryFrom bytes.length).getD 0

/-- `Vec::resize(size, 0u8)`. -/
def resize (size : Nat) (vec : List UInt8) : List UInt8 :=
  vec.take size ++ List.replicate (size - vec.length) 0

/-- The call that the mode asks for. -/
def Liblz4.compressMode (lz4 : Liblz4) (mode : Lz4CompressMode) (acceleration : Int)
    (src : List UInt8) (dstSize : Int) : Answer dstSize :=
  match mode with
  | .default => lz4.compressDefault src dstSize
  | .fast => lz4.compressFast src dstSize acceleration

/-- `compress`: its result, and what it leaves in `p_dst`. -/
def compress (lz4 : Liblz4) (dst src : List UInt8) (mode : Lz4CompressMode)
    (acceleration : Int) : Except String Unit × List UInt8 :=
  let srcLen := i32Len src
  if srcLen = 0 then
    (.error "invalid source size. trace info: lz4::compress", dst)
  else
    let maxDstSize := lz4.compressBound srcLen
    -- `usize::try_from(max_dst_size).unwrap_or(0)`
    let safeMaxDstSize := maxDstSize.toNat
    if safeMaxDstSize = 0 then
      (.error "invalid destination size. trace info: lz4::compress", dst)
    else
      let answer := lz4.compressMode mode acceleration src maxDstSize
      let dst := overlay answer.bytes (resize safeMaxDstSize [])
      let newSize := answer.result.toNat
      if newSize > 0 then
        (.ok (), dst.take newSize)
      else
        (.error "missing buffer destination size. trace info: lz4::compress", dst)

/-! ## Decompressing -/

/-- What `de_compress` computes and calls. -/
inductive Lz4Event where
  /-- `size * 2` is computed as an `i32`. -/
  | double (size : Int)
  /-- The decoder is given `capacity` bytes of a vector of `dstLength`. -/
  | decompressSafe (capacity : Int) (dstLength : Nat) (result : Int)
deriving DecidableEq

structure DeCompressState where
  maxDstSize : Int
  retSize : Int
  dst : List UInt8

/-- The decoder of one attempt. -/
abbrev DecompressSafe := List UInt8 → (dstSize : Int) → Answer dstSize

/-- One attempt.  Leaving with `none` is the panic of an overflow. -/
def deCompressRound (overflowChecks : Bool) (src : List UInt8) :
    Body DecompressSafe DeCompressState Lz4Event (Option DeCompressState) :=
  fun decompressSafe state =>
    let maxDstSafeUsize := state.maxDstSize.toNat
    if maxDstSafeUsize = 0 then
      ⟨[], .leave (some state)⟩
    else
      let dst := resize maxDstSafeUsize state.dst
      let answer := decompressSafe src state.maxDstSize
      let called := .decompressSafe state.maxDstSize dst.length answer.result
      let dst := overlay answer.bytes dst
      if answer.result > 0 then
        ⟨[called], .leave (some ⟨state.maxDstSize, answer.result, dst⟩)⟩
      else
        ⟨[called, .double state.maxDstSize],
          match i32.compute overflowChecks (state.maxDstSize * 2) with
          | none => .leave none
          | some doubled => .again ⟨doubled, answer.result, dst⟩⟩

/-- What follows the loop. -/
def finish (state : DeCompressState) : Except String Unit × List UInt8 :=
  let newSize := state.retSize.toNat
  if newSize > 0 then
    (.ok (), state.dst.take newSize)
  else
    (.error "missing buffer destination size. trace info: lz4::decompress", state.dst)

/-- From the loop to the result; it ends with `break` or with its last attempt. -/
def afterLoop : Control DeCompressState (Option DeCompressState) →
    Option (Except String Unit × List UInt8)
  | .again state => some (finish state)
  | .leave left => left.map finish

/-- `for _ in 0..10`. -/
def attempts : Nat := 10

/-- `de_compress`: what it computes and calls, its result and what it leaves in
`p_dst`.  `none` is a panic. -/
def deCompress (overflowChecks : Bool) (decompressSafe : Nat → DecompressSafe)
    (dst src : List UInt8) : List Lz4Event × Option (Except String Unit × List UInt8) :=
  let srcLen := i32Len src
  if srcLen = 0 then
    ([], some (.error "invalid source length. trace info: lz4::decompress", dst))
  else
    match i32.compute overflowChecks (srcLen * 2) with
    | none => ([.double srcLen], none)
    | some maxDstSize =>
      let ran := run (deCompressRound overflowChecks src) (firstRounds decompressSafe attempts)
        ⟨maxDstSize, 0, []⟩
      (.double srcLen :: ran.events, afterLoop ran.control)

/-! ## Lengths -/

theorem i32Len_of_inRange {bytes : List UInt8} (inRange : i32.InRange bytes.length) :
    i32Len bytes = bytes.length := by
  rw [i32Len, IntType.tryFrom_of_inRange inRange, Option.getD_some]

/-- The length is zero when it is, or when it is no `i32`. -/
theorem i32Len_eq_zero_iff {bytes : List UInt8} :
    i32Len bytes = 0 ↔ bytes.length = 0 ∨ 2 ^ 31 ≤ bytes.length := by
  by_cases inRange : i32.InRange bytes.length
  · rw [i32Len_of_inRange inRange]
    rw [inRange_i32_iff] at inRange
    omega
  · rw [i32Len, IntType.tryFrom_of_overflow inRange, Option.getD_none]
    rw [inRange_i32_iff] at inRange
    omega

theorem i32Len_of_ne_zero {bytes : List UInt8} (nonzero : i32Len bytes ≠ 0) :
    i32Len bytes = bytes.length ∧ 0 < bytes.length ∧ bytes.length < 2 ^ 31 := by
  rw [Ne, i32Len_eq_zero_iff] at nonzero
  refine ⟨i32Len_of_inRange ?_, by omega, by omega⟩
  rw [inRange_i32_iff]
  omega

@[simp] theorem resize_length (size : Nat) (vec : List UInt8) :
    (resize size vec).length = size := by
  simp only [resize, List.length_append, List.length_take, List.length_replicate]
  omega

end WolfEngine.System.Lz4
