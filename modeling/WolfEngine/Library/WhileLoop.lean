import Mathlib.Logic.Function.Iterate

/-! # While loops

`whileFuel` runs `while cond { body }` with a bound on the checks of the
condition.  A loop that ends is an iterate of its body (`Iterates`), the number
of rounds is determined by the state it starts in, and any larger bound gives the
same result.  A loop whose condition is an invariant of its body has no result.
-/

namespace WhileLoop

variable {σ : Type} {cond : σ → Bool} {body : σ → σ} {state result : σ} {count fuel : Nat}

/-- `while cond { body }`; `none` when the condition still holds after `fuel`
checks of it. -/
def whileFuel (cond : σ → Bool) (body : σ → σ) : Nat → σ → Option σ
  | 0, _ => none
  | fuel + 1, state => if cond state then whileFuel cond body fuel (body state) else some state

/-- From `state` the loop goes through its body exactly `count` times. -/
structure Iterates (cond : σ → Bool) (body : σ → σ) (state : σ) (count : Nat) : Prop where
  goes : ∀ i < count, cond (body^[i] state) = true
  stops : cond (body^[count] state) = false

theorem Iterates.tail (iterates : Iterates cond body state (count + 1)) :
    Iterates cond body (body state) count where
  goes i below := by
    rw [← Function.iterate_succ_apply]
    exact iterates.goes (i + 1) (by omega)
  stops := by
    rw [← Function.iterate_succ_apply]
    exact iterates.stops

theorem Iterates.cons (iterates : Iterates cond body (body state) count)
    (holds : cond state = true) : Iterates cond body state (count + 1) where
  goes i below := by
    cases i with
    | zero => exact holds
    | succ i =>
      rw [Function.iterate_succ_apply]
      exact iterates.goes i (by omega)
  stops := by
    rw [Function.iterate_succ_apply]
    exact iterates.stops

/-- The number of rounds is determined. -/
theorem Iterates.unique {other : Nat} (one : Iterates cond body state count)
    (two : Iterates cond body state other) : count = other := by
  rcases Nat.lt_trichotomy count other with less | same | more
  · exact absurd (two.goes count less) (by simp [one.stops])
  · exact same
  · exact absurd (one.goes other more) (by simp [two.stops])

/-- Enough fuel gives the result. -/
theorem Iterates.whileFuel (iterates : Iterates cond body state count) (enough : count < fuel) :
    WhileLoop.whileFuel cond body fuel state = some (body^[count] state) := by
  induction count generalizing state fuel with
  | zero =>
    obtain ⟨fuel, rfl⟩ := Nat.exists_eq_succ_of_ne_zero (Nat.ne_of_gt enough)
    have stops : cond state = false := iterates.stops
    simp [WhileLoop.whileFuel, stops]
  | succ count ih =>
    obtain ⟨fuel, rfl⟩ := Nat.exists_eq_succ_of_ne_zero (Nat.ne_of_gt (Nat.zero_lt_of_lt enough))
    have goes : cond state = true := iterates.goes 0 (Nat.succ_pos _)
    simp only [WhileLoop.whileFuel, goes, if_true, Function.iterate_succ_apply]
    exact ih iterates.tail (by omega)

/-- A result is an iterate of the body. -/
theorem iterates_of_whileFuel (ended : whileFuel cond body fuel state = some result) :
    ∃ count, Iterates cond body state count ∧ result = body^[count] state := by
  induction fuel generalizing state with
  | zero => cases ended
  | succ fuel ih =>
    unfold whileFuel at ended
    split at ended
    next holds =>
      obtain ⟨count, iterates, same⟩ := ih ended
      exact ⟨count + 1, iterates.cons holds, by rw [same, Function.iterate_succ_apply]⟩
    next stops =>
      cases ended
      exact ⟨0, ⟨nofun, by simpa using stops⟩, rfl⟩

/-- An invariant under which the condition holds keeps the loop going for ever. -/
theorem whileFuel_eq_none (invariant : σ → Prop)
    (holds : ∀ state, invariant state → cond state = true)
    (keeps : ∀ state, invariant state → invariant (body state)) (start : invariant state)
    (fuel : Nat) : whileFuel cond body fuel state = none := by
  induction fuel generalizing state with
  | zero => rfl
  | succ fuel ih =>
    simp only [whileFuel, holds state start, if_true]
    exact ih (keeps state start)

end WhileLoop
