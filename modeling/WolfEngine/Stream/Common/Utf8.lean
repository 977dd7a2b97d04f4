import WolfEngine.Stream.Common.Buffer

/-! # Strings as bytes

Rust's `str` and Lean's `String` are both UTF-8 byte sequences; the websocket
loop goes back and forth between them and the byte array.
-/

namespace WolfEngine.Stream

/-- `str::as_bytes`. -/
def asBytes (str : String) : List UInt8 := str.toByteArray.data.toList

/-- `std::str::from_utf8`, without its error. -/
def fromUtf8 (bytes : List UInt8) : Option String := String.fromUTF8? ⟨bytes.toArray⟩

theorem asBytes_of_fromUtf8 {bytes : List UInt8} {str : String}
    (decoded : fromUtf8 bytes = some str) : asBytes str = bytes := by
  simp only [fromUtf8, String.fromUTF8?, Option.dite_none_right_eq_some] at decoded
  obtain ⟨valid, same⟩ := decoded
  cases same
  simp [asBytes, String.fromUTF8]

theorem asBytes_injective {left right : String} (same : asBytes left = asBytes right) :
    left = right := by
  apply String.toByteArray_inj.mp
  apply ByteArray.ext
  exact Array.toList_inj.mp same

theorem utf8Encode_nuls (count : Nat) :
    (List.replicate count '\x00').flatMap String.utf8EncodeChar = List.replicate count 0 := by
  induction count with
  | zero => rfl
  | succ count ih =>
    have nul : String.utf8EncodeChar '\x00' = [0] := by decide
    simp only [List.replicate_succ, List.flatMap_cons, nul, ih, List.singleton_append]

/-- An array of NULs is valid UTF-8. -/
theorem fromUtf8_zeros (count : Nat) :
    ∃ str, fromUtf8 (List.replicate count 0) = some str := by
  have valid : ByteArray.IsValidUTF8 ⟨(List.replicate count 0).toArray⟩ := by
    refine ⟨List.replicate count '\x00', ByteArray.ext ?_⟩
    rw [List.utf8Encode, List.data_toByteArray, utf8Encode_nuls]
  exact ⟨_, dif_pos valid⟩

end WolfEngine.Stream
