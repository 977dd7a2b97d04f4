import Mathlib.Algebra.Order.BigOperators.Group.List
import Mathlib.Algebra.Order.Floor.Semiring
import Mathlib.Algebra.Order.Ring.Abs
import Mathlib.Tactic.LinearCombination
import Mathlib.Tactic.Linarith

/-! # Accumulators

Amounts come into an accumulator one after the other, and after each a fixed step is taken
out as often as it fits.  How often it is taken out in all depends on the sum of the
amounts only, and equal amounts take it out once each, for ever, only if they are the step.
-/

namespace Accumulators

variable {α : Type*} [Field α] [LinearOrder α] [FloorSemiring α]

/-- How often the step is taken out after each amount, and the leftover at the end. -/
def drain (step : α) : α → List α → List ℕ × α
  | leftOver, [] => ([], leftOver)
  | leftOver, amount :: amounts =>
    let count := ⌊(leftOver + amount) / step⌋₊
    let rest := drain step (leftOver + amount - count * step) amounts
    (count :: rest.1, rest.2)

variable {step leftOver amount : α} {amounts : List α}

theorem drain_cons {count : ℕ} {counts : List ℕ} {middle last : α}
    (first : drain step leftOver [amount] = ([count], middle))
    (rest : drain step middle amounts = (counts, last)) :
    drain step leftOver (amount :: amounts) = (count :: counts, last) := by
  simp only [drain, Prod.mk.injEq, List.cons.injEq, and_true] at first
  obtain ⟨rfl, rfl⟩ := first
  simp [drain, rest]

/-- What comes in is taken out or left over. -/
theorem drain_conserves (step leftOver : α) (amounts : List α) :
    (drain step leftOver amounts).2 + (drain step leftOver amounts).1.sum * step =
      leftOver + amounts.sum := by
  induction amounts generalizing leftOver with
  | nil => simp [drain]
  | cons amount amounts ih =>
    have rest := ih (leftOver + amount - ⌊(leftOver + amount) / step⌋₊ * step)
    simp only [drain, List.sum_cons, Nat.cast_add, add_mul]
    linear_combination rest

variable [IsStrictOrderedRing α]

theorem remainder_within (positive : 0 < step) (nonneg : 0 ≤ amount) :
    0 ≤ amount - ⌊amount / step⌋₊ * step ∧ amount - ⌊amount / step⌋₊ * step < step := by
  have below := (le_div_iff₀ positive).mp (Nat.floor_le (div_nonneg nonneg positive.le))
  have above := (div_lt_iff₀ positive).mp (Nat.lt_floor_add_one (amount / step))
  constructor <;> linarith

/-- The leftover is less than the step once an amount has come in. -/
theorem drain_within (positive : 0 < step) (nonneg : 0 ≤ leftOver)
    (amounts_nonneg : ∀ amount ∈ amounts, 0 ≤ amount)
    (settled : amounts = [] → leftOver < step) :
    0 ≤ (drain step leftOver amounts).2 ∧ (drain step leftOver amounts).2 < step := by
  induction amounts generalizing leftOver with
  | nil => exact ⟨nonneg, settled rfl⟩
  | cons amount amounts ih =>
    obtain ⟨first, others⟩ := List.forall_mem_cons.mp amounts_nonneg
    have within := remainder_within positive (add_nonneg nonneg first)
    exact ih within.1 others fun _ => within.2

/-- However the amounts are cut up, their sum decides how often the step is taken out. -/
theorem drain_sum (positive : 0 < step) (nonneg : 0 ≤ leftOver)
    (amounts_nonneg : ∀ amount ∈ amounts, 0 ≤ amount)
    (settled : amounts = [] → leftOver < step) :
    (drain step leftOver amounts).1.sum = ⌊(leftOver + amounts.sum) / step⌋₊ := by
  have within := drain_within positive nonneg amounts_nonneg settled
  have conserves := drain_conserves step leftOver amounts
  have sum_nonneg : 0 ≤ leftOver + amounts.sum :=
    add_nonneg nonneg (List.sum_nonneg amounts_nonneg)
  symm
  rw [Nat.floor_eq_iff (div_nonneg sum_nonneg positive.le), le_div_iff₀ positive,
    div_lt_iff₀ positive]
  constructor <;> linarith

/-- Amounts that are the step take it out once each and leave the leftover as it is. -/
theorem drain_replicate (positive : 0 < step) (nonneg : 0 ≤ leftOver) (settled : leftOver < step)
    (length : ℕ) :
    drain step leftOver (List.replicate length step) = (List.replicate length 1, leftOver) := by
  induction length with
  | zero => rfl
  | succ length ih =>
    have once : ⌊(leftOver + step) / step⌋₊ = 1 := by
      rw [Nat.floor_eq_iff (div_nonneg (add_nonneg nonneg positive.le) positive.le),
        le_div_iff₀ positive, div_lt_iff₀ positive]
      constructor <;> push_cast <;> linarith
    simp [List.replicate_succ, drain, once, ih]

theorem drain_once_iff (positive : 0 < step) (nonneg : 0 ≤ leftOver) (settled : leftOver < step)
    (amount_nonneg : 0 ≤ amount) :
    (∀ length, (drain step leftOver (List.replicate length amount)).1 = List.replicate length 1) ↔
      amount = step := by
  constructor
  · intro once
    by_contra differs
    have gap : 0 < |amount - step| := abs_pos.mpr (sub_ne_zero.mpr differs)
    have outgrown := (div_lt_iff₀ gap).mp (Nat.lt_floor_add_one (step / |amount - step|))
    rw [← Nat.cast_succ] at outgrown
    generalize Nat.succ ⌊step / |amount - step|⌋₊ = length at outgrown
    have within := drain_within positive nonneg
      (fun other member => (List.eq_of_mem_replicate member).symm ▸ amount_nonneg)
      fun _ : List.replicate length amount = [] => settled
    have conserves := drain_conserves step leftOver (List.replicate length amount)
    rw [once, List.sum_replicate, List.sum_replicate, smul_eq_mul, mul_one, nsmul_eq_mul] at conserves
    have drift : |(length : α) * (amount - step)| < step := by
      rw [abs_lt]
      constructor <;> linarith
    rw [abs_mul, Nat.abs_cast] at drift
    exact absurd outgrown drift.not_gt
  · rintro rfl length
    rw [drain_replicate positive nonneg settled]

end Accumulators
