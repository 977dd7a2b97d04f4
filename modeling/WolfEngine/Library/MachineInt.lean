import Mathlib.Algebra.Order.Ring.Int

/-! # Machine integers

A machine integer type is an interval of `2 ^ width` integers.  A result that leaves
it wraps around, or stops the program where overflow is checked.
-/

namespace MachineInt

structure IntType where
  lo : Int
  width : Nat

def i32 : IntType := ⟨-2 ^ 31, 32⟩

def i64 : IntType := ⟨-2 ^ 63, 64⟩

def u64 : IntType := ⟨0, 64⟩

namespace IntType

variable (type : IntType) {value : Int}

def InRange (value : Int) : Prop := type.lo ≤ value ∧ value < type.lo + 2 ^ type.width

instance (value : Int) : Decidable (type.InRange value) :=
  inferInstanceAs (Decidable (_ ∧ _))

def wrap (value : Int) : Int := type.lo + (value - type.lo) % 2 ^ type.width

/-- The value of an operation whose exact result is `value`; `none` is the panic of an
overflow check. -/
def compute (overflowChecks : Bool) (value : Int) : Option Int :=
  if type.InRange value then some value
  else if overflowChecks then none
  else some (type.wrap value)

/-- A conversion that fails when `value` does not fit. -/
def tryFrom (value : Int) : Option Int := if type.InRange value then some value else none

variable {type}

theorem compute_of_inRange (overflowChecks : Bool) (inRange : type.InRange value) :
    type.compute overflowChecks value = some value := if_pos inRange

theorem compute_of_overflow (overflow : ¬type.InRange value) :
    type.compute true value = none := if_neg overflow

theorem compute_unchecked (overflow : ¬type.InRange value) :
    type.compute false value = some (type.wrap value) := if_neg overflow

theorem tryFrom_of_inRange (inRange : type.InRange value) : type.tryFrom value = some value :=
  if_pos inRange

theorem tryFrom_of_overflow (overflow : ¬type.InRange value) : type.tryFrom value = none :=
  if_neg overflow

end IntType

theorem inRange_i32_iff {value : Int} :
    i32.InRange value ↔ -2 ^ 31 ≤ value ∧ value < 2 ^ 31 := by
  show -2 ^ 31 ≤ value ∧ value < -2 ^ 31 + 2 ^ 32 ↔ _
  omega

theorem inRange_u64_iff {value : Int} : u64.InRange value ↔ 0 ≤ value ∧ value < 2 ^ 64 := by
  show 0 ≤ value ∧ value < 0 + 2 ^ 64 ↔ _
  omega

theorem wrap_u64 (value : Int) : u64.wrap value = value % 2 ^ 64 := by
  show 0 + (value - 0) % 2 ^ 64 = _
  rw [Int.zero_add, Int.sub_zero]

theorem wrap_i32 (value : Int) : i32.wrap value = -2 ^ 31 + (value + 2 ^ 31) % 2 ^ 32 := by
  show -2 ^ 31 + (value - -2 ^ 31) % 2 ^ 32 = _
  rw [Int.sub_neg]

theorem wrap_i32_eq_iff {value : Int} : i32.wrap value = value ↔ -2 ^ 31 ≤ value ∧ value < 2 ^ 31 := by
  rw [wrap_i32]
  omega

/-- Doubling a positive `i32` either is exact or leaves nothing positive. -/
theorem double_i32 {overflowChecks : Bool} {size doubled : Int} (positive : 0 < size)
    (inRange : i32.InRange size)
    (computed : i32.compute overflowChecks (size * 2) = some doubled) :
    (doubled = size * 2 ∧ i32.InRange (size * 2)) ∨ doubled ≤ 0 := by
  by_cases exact : i32.InRange (size * 2)
  · rw [IntType.compute_of_inRange _ exact] at computed
    exact .inl ⟨(Option.some.inj computed).symm, exact⟩
  · right
    cases overflowChecks with
    | true =>
      rw [IntType.compute_of_overflow exact] at computed
      cases computed
    | false =>
      rw [IntType.compute, if_neg exact] at computed
      rw [inRange_i32_iff] at inRange exact
      have wrapped : -2 ^ 31 + (size * 2 - -2 ^ 31) % 2 ^ 32 = doubled := Option.some.inj computed
      omega

end MachineInt
