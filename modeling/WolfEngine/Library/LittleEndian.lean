import Mathlib.Data.Nat.Digits.Lemmas

/-! # Little-endian bytes

A natural number as its low bytes, least significant first, and back.  Next to the
recursive forms stand the loops that a program computes them with: a shift for each
byte written, and an `or` with a shifted byte for each byte read.
-/

namespace LittleEndian

/-- The `width` low bytes of `value`. -/
def encode : Nat → Nat → List UInt8
  | 0, _ => []
  | width + 1, value => UInt8.ofNat value :: encode width (value / 256)

/-- The number that the bytes are the digits of. -/
def decode (bytes : List UInt8) : Nat := Nat.ofDigits 256 (bytes.map UInt8.toNat)

@[simp] theorem encode_zero (value : Nat) : encode 0 value = [] := rfl

theorem encode_succ (width value : Nat) :
    encode (width + 1) value = UInt8.ofNat value :: encode width (value / 256) := rfl

@[simp] theorem encode_length (width value : Nat) : (encode width value).length = width := by
  induction width generalizing value with
  | zero => rfl
  | succ width ih => simp [encode_succ, ih]

@[simp] theorem decode_nil : decode [] = 0 := rfl

@[simp] theorem decode_cons (byte : UInt8) (bytes : List UInt8) :
    decode (byte :: bytes) = byte.toNat + 256 * decode bytes := by
  simp [decode, Nat.ofDigits_cons]

theorem decode_append (front back : List UInt8) :
    decode (front ++ back) = decode front + 256 ^ front.length * decode back := by
  simp [decode, Nat.ofDigits_append]

theorem decode_lt (bytes : List UInt8) : decode bytes < 256 ^ bytes.length := by
  have digits : ∀ digit ∈ bytes.map UInt8.toNat, digit < 256 := by
    intro digit member
    obtain ⟨byte, _, rfl⟩ := List.mem_map.mp member
    exact byte.toNat_lt
  simpa [decode] using Nat.ofDigits_lt_base_pow_length (by decide) digits

theorem decode_encode (width value : Nat) : decode (encode width value) = value % 256 ^ width := by
  induction width generalizing value with
  | zero => simp [Nat.mod_one]
  | succ width ih =>
    rw [encode_succ, decode_cons, ih, Nat.pow_succ', Nat.mod_mul]
    simp

theorem decode_encode_of_lt {width value : Nat} (fits : value < 256 ^ width) :
    decode (encode width value) = value := by
  rw [decode_encode, Nat.mod_eq_of_lt fits]

theorem encode_decode (bytes : List UInt8) : encode bytes.length (decode bytes) = bytes := by
  induction bytes with
  | nil => rfl
  | cons byte bytes ih =>
    have small := byte.toNat_lt
    have rest : (byte.toNat + 256 * decode bytes) / 256 = decode bytes := by omega
    have first : UInt8.ofNat (byte.toNat + 256 * decode bytes) = byte := by
      apply UInt8.toNat_inj.mp
      rw [UInt8.toNat_ofNat']
      omega
    rw [List.length_cons, encode_succ, decode_cons, rest, ih, first]

/-- The low bytes and those above them. -/
theorem encode_add (low high value : Nat) :
    encode (low + high) value = encode low value ++ encode high (value / 256 ^ low) := by
  induction low generalizing value with
  | zero => simp
  | succ low ih =>
    rw [Nat.add_right_comm, encode_succ, ih, encode_succ, Nat.div_div_eq_div_mul, ← Nat.pow_succ']
    rfl

/-! ## As loops -/

/-- One byte for each `i`, shifted down to the lowest eight bits. -/
theorem encode_eq_map (width value : Nat) :
    encode width value =
      (List.range width).map fun i => UInt8.ofNat (value >>> (i * 8) &&& 0xFF) := by
  induction width generalizing value with
  | zero => rfl
  | succ width ih =>
    have lowest : UInt8.ofNat (value >>> (0 * 8) &&& 0xFF) = UInt8.ofNat value := by
      apply UInt8.toNat_inj.mp
      have mask : value &&& 0xFF = value % 2 ^ 8 := Nat.and_two_pow_sub_one_eq_mod value 8
      rw [Nat.zero_mul, Nat.shiftRight_zero, mask]
      simp
    rw [List.range_succ_eq_map, List.map_cons, List.map_map, lowest, encode_succ, ih]
    congr 1
    apply List.map_congr_left
    intro i _
    have shifted : (value / 256) >>> (i * 8) = value >>> ((i + 1) * 8) := by
      have oneByte : value / 256 = value >>> 8 := (Nat.shiftRight_eq_div_pow value 8).symm
      rw [oneByte, Nat.succ_mul, Nat.add_comm, Nat.shiftRight_add]
    rw [shifted, Function.comp_apply]

/-- Each byte, shifted up to its place, is or-ed to those below it. -/
theorem decode_eq_foldl (bytes : List UInt8) :
    decode bytes = (List.range bytes.length).foldl
      (fun value i => value ||| (bytes.getD i 0).toNat <<< (i * 8)) 0 := by
  induction bytes using List.reverseRecOn with
  | nil => rfl
  | append_singleton bytes byte ih =>
    have before : (List.range bytes.length).foldl
        (fun value i => value ||| ((bytes ++ [byte]).getD i 0).toNat <<< (i * 8)) 0 =
          decode bytes := by
      rw [ih]
      apply List.foldl_ext
      intro value i member
      have below := List.mem_range.mp member
      simp [List.getD, List.getElem?_append_left below]
    have place : decode bytes < 2 ^ (bytes.length * 8) := by
      rw [Nat.mul_comm, Nat.pow_mul]
      exact decode_lt bytes
    rw [List.length_append, List.length_singleton, List.range_succ, List.foldl_append, before,
      decode_append]
    simp only [List.foldl_cons, List.foldl_nil]
    have power : 256 ^ bytes.length = 2 ^ (bytes.length * 8) := by
      rw [Nat.mul_comm, Nat.pow_mul]
    rw [Nat.or_comm, ← Nat.shiftLeft_add_eq_or_of_lt place, power]
    simp [Nat.shiftLeft_eq, Nat.mul_comm, Nat.add_comm]

end LittleEndian
