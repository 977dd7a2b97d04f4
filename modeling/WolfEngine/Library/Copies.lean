import WolfEngine.Library.MachineInt

/-! # Consecutive copies

Pieces of data that are copied into a buffer one behind the other, at an index that is
a 32-bit integer and advances by their sizes.  All of them land inside the buffer
exactly when their sizes add up to no more than it holds, and the index does not wrap
before the last of them; then the buffer holds the pieces in order.
-/

namespace Copies

open MachineInt

/-- `memcpy(buffer + offset, bytes.data(), bytes.size())`. -/
structure Copy where
  buffer : Nat
  offset : Int
  bytes : List UInt8
deriving DecidableEq

def Copy.Inside (capacity : Int) (copy : Copy) : Prop :=
  0 ≤ copy.offset ∧ copy.offset + copy.bytes.length ≤ capacity

/-- The `i`-th byte of a buffer after a copy, if it was `old` before. -/
def overwrite (buffer i : Nat) (old : UInt8) (copy : Copy) : UInt8 :=
  if copy.buffer = buffer ∧ copy.offset ≤ i ∧ i < copy.offset + copy.bytes.length then
    copy.bytes.getD (i - copy.offset).toNat 0
  else old

/-- The `i`-th byte of a zeroed buffer after the copies. -/
def contentAt (buffer : Nat) (copies : List Copy) (i : Nat) : UInt8 :=
  copies.foldl (overwrite buffer i) 0

/-- The copies of the pieces, from the index on. -/
def consecutive (buffer : Nat) : Int → List (List UInt8) → List Copy
  | _, [] => []
  | index, bytes :: pieces =>
    ⟨buffer, index, bytes⟩ :: consecutive buffer (i32.wrap (index + bytes.length)) pieces

/-- The index behind the pieces. -/
def advance : Int → List (List UInt8) → Int
  | index, [] => index
  | index, bytes :: pieces => advance (i32.wrap (index + bytes.length)) pieces

variable {buffer : Nat} {index : Int} {pieces more : List (List UInt8)} {capacity : Int}

theorem consecutive_append :
    consecutive buffer index (pieces ++ more) =
      consecutive buffer index pieces ++ consecutive buffer (advance index pieces) more := by
  induction pieces generalizing index with
  | nil => rfl
  | cons bytes pieces ih => simp only [List.cons_append, consecutive, advance, ih]

theorem advance_append : advance index (pieces ++ more) = advance (advance index pieces) more := by
  induction pieces generalizing index with
  | nil => rfl
  | cons bytes pieces ih => simp only [List.cons_append, advance, ih]

theorem advance_eq_wrap (inRange : i32.wrap index = index) :
    advance index pieces = i32.wrap (index + pieces.flatten.length) := by
  induction pieces generalizing index with
  | nil => simp [advance, inRange]
  | cons bytes pieces ih =>
    have again : i32.wrap (i32.wrap (index + bytes.length)) = i32.wrap (index + bytes.length) := by
      simp only [wrap_i32]
      omega
    rw [advance, ih again, List.flatten_cons, List.length_append]
    simp only [wrap_i32]
    omega

theorem consecutive_buffer {copy : Copy} (member : copy ∈ consecutive buffer index pieces) :
    copy.buffer = buffer := by
  induction pieces generalizing index with
  | nil => cases member
  | cons bytes pieces ih =>
    cases member with
    | head => rfl
    | tail _ later => exact ih later

/-! ## Inside the buffer -/

theorem last_dropLast (bytes : List UInt8) (pieces : List (List UInt8)) :
    (bytes :: pieces).dropLast.flatten.length =
      if pieces = [] then 0 else bytes.length + pieces.dropLast.flatten.length := by
  cases pieces <;> simp

theorem consecutive_inside_iff {start : Nat} (fits : start ≤ capacity) (narrow : start < 2 ^ 31)
    (sizes : ∀ bytes ∈ pieces, bytes.length < 2 ^ 31) :
    (∀ copy ∈ consecutive buffer start pieces, copy.Inside capacity) ↔
      start + pieces.flatten.length ≤ capacity ∧
        start + pieces.dropLast.flatten.length < 2 ^ 31 := by
  induction pieces generalizing start with
  | nil => simpa [consecutive] using ⟨fits, narrow⟩
  | cons bytes pieces ih =>
    obtain ⟨size, sizes⟩ := List.forall_mem_cons.mp sizes
    simp only [consecutive, List.forall_mem_cons, Copy.Inside, List.flatten_cons,
      List.length_append]
    by_cases wraps : start + bytes.length < 2 ^ 31
    · have next : i32.wrap (start + bytes.length) = ((start + bytes.length : Nat) : Int) := by
        rw [Int.natCast_add]
        apply wrap_i32_eq_iff.mpr
        omega
      rw [next, last_dropLast]
      constructor
      · intro ⟨here, later⟩
        have rest := (ih (by omega) wraps sizes).mp later
        split <;> omega
      · intro ⟨total, starts⟩
        refine ⟨by omega, (ih (by omega) wraps sizes).mpr ⟨by omega, ?_⟩⟩
        split at starts
        next single => simpa [single] using wraps
        next => omega
    · have next : i32.wrap (start + bytes.length) < 0 := by
        rw [wrap_i32]
        omega
      rw [last_dropLast]
      cases pieces with
      | nil => simp [consecutive]; omega
      | cons second pieces =>
        simp only [consecutive, List.forall_mem_cons, reduceCtorEq, if_false]
        omega

/-! ## What the buffer holds -/

theorem wrap_next {start : Nat} {bytes : List UInt8}
    (narrow : start + (bytes ++ pieces.flatten).length < 2 ^ 31) :
    i32.wrap (start + bytes.length) = ((start + bytes.length : Nat) : Int) := by
  rw [List.length_append] at narrow
  rw [Int.natCast_add]
  apply wrap_i32_eq_iff.mpr
  omega

/-- Copies from `start` on change nothing before it. -/
theorem foldl_before {start i : Nat} (narrow : start + pieces.flatten.length < 2 ^ 31)
    (before : i < start) (old : UInt8) :
    (consecutive buffer start pieces).foldl (overwrite buffer i) old = old := by
  induction pieces generalizing start old with
  | nil => rfl
  | cons bytes pieces ih =>
    rw [List.flatten_cons] at narrow
    have outside : overwrite buffer i old ⟨buffer, start, bytes⟩ = old := by
      apply if_neg
      simp only
      omega
    rw [List.length_append] at narrow
    rw [consecutive, wrap_next (by rwa [List.length_append]), List.foldl_cons, outside]
    exact ih (by omega) (by omega) old

/-- Behind `start` they leave the pieces. -/
theorem foldl_inside {start i : Nat} (narrow : start + pieces.flatten.length < 2 ^ 31)
    (inside : i < pieces.flatten.length) (old : UInt8) :
    (consecutive buffer start pieces).foldl (overwrite buffer (start + i)) old =
      pieces.flatten[i] := by
  induction pieces generalizing start i old with
  | nil => cases inside
  | cons bytes pieces ih =>
    simp only [List.flatten_cons] at narrow inside ⊢
    rw [consecutive, wrap_next narrow, List.foldl_cons]
    rw [List.length_append] at narrow inside
    by_cases here : i < bytes.length
    · have written : overwrite buffer (start + i) old ⟨buffer, start, bytes⟩ = bytes[i] := by
        have within : buffer = buffer ∧ (start : Int) ≤ (start + i : Nat) ∧
            ((start + i : Nat) : Int) < start + bytes.length := by omega
        rw [overwrite, if_pos within]
        simp [here]
      rw [written, foldl_before (by omega) (by omega), List.getElem_append_left here]
    · obtain ⟨rest, rfl⟩ := Nat.exists_eq_add_of_le (Nat.le_of_not_lt here)
      rw [← Nat.add_assoc, ih (by omega) (by omega), List.getElem_append_right (by omega)]
      simp

/-- The pieces copied into a zeroed buffer from its start. -/
theorem contentAt_consecutive {i : Nat} (narrow : pieces.flatten.length < 2 ^ 31)
    (inside : i < pieces.flatten.length) :
    contentAt buffer (consecutive buffer 0 pieces) i = pieces.flatten[i] := by
  have shifted : (consecutive buffer (0 : Nat) pieces).foldl (overwrite buffer (0 + i)) 0 =
      pieces.flatten[i] := foldl_inside (by omega) inside 0
  rwa [Nat.zero_add] at shifted

end Copies
