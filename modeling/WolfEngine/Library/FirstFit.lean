import Mathlib.Order.Bounds.Basic

/-! # First fit

Slots are tried one after the other until one is taken.  An attempt may change the state
also when it is refused, so what a search does is told by an invariant of the refusals
(`search_cases`).  Where an attempt is refused exactly at the slots that are not free, the
search takes the least free slot, or finds that there is none.
-/

namespace FirstFit

variable {σ α : Type}

/-- Try `count` slots from `slot` on; `none` is a refusal. -/
def search (attempt : Nat → σ → Option α × σ) : Nat → Nat → σ → Option (Nat × α) × σ
  | 0, _, state => (none, state)
  | count + 1, slot, state =>
    match attempt slot state with
    | (some result, state) => (some (slot, result), state)
    | (none, state) => search attempt count (slot + 1) state

variable {attempt : Nat → σ → Option α × σ}

/-- A search ends with the first attempt that is not refused, or refuses them all; `Refused slot`
holds when the slots below `slot` were refused. -/
theorem search_cases (attempt : Nat → σ → Option α × σ) (count first : Nat) (state : σ)
    (Refused : Nat → σ → Prop)
    (refuses : ∀ slot before after, slot < first + count → Refused slot before →
      attempt slot before = (none, after) → Refused (slot + 1) after)
    (start : Refused first state) :
    (∃ slot result before, first ≤ slot ∧ slot < first + count ∧ Refused slot before ∧
        attempt slot before = (some result, (search attempt count first state).2) ∧
        (search attempt count first state).1 = some (slot, result)) ∨
      Refused (first + count) (search attempt count first state).2 ∧
        (search attempt count first state).1 = none := by
  induction count generalizing first state with
  | zero => exact .inr ⟨start, rfl⟩
  | succ count ih =>
    simp only [search]
    cases tried : attempt first state with
    | mk answer after =>
      cases answer with
      | some result =>
        left
        exact ⟨first, result, state, Nat.le_refl _, by omega, start, tried, rfl⟩
      | none =>
        have next := refuses first state after (by omega) start tried
        have same : first + 1 + count = first + (count + 1) := by omega
        cases ih (first + 1) after (fun slot before after below => refuses slot before after (by omega))
          next with
        | inl found =>
          obtain ⟨slot, result, before, least, below, refused, taken, answer⟩ := found
          exact .inl ⟨slot, result, before, by omega, by omega, refused, taken, answer⟩
        | inr none =>
          rw [← same]
          exact .inr none

/-- In the states of an invariant an attempt is refused exactly where the slot is not free,
and a refusal frees and takes nothing. -/
structure Decides (attempt : Nat → σ → Option α × σ) (Inv : σ → Prop) (free : σ → Nat → Prop) :
    Prop where
  refused_iff : ∀ slot state, Inv state → ((attempt slot state).1 = none ↔ ¬free state slot)
  keeps : ∀ slot state after, Inv state → attempt slot state = (none, after) →
    Inv after ∧ ∀ other, free after other ↔ free state other

/-- The free slots among those that are tried. -/
def among (count first : Nat) (free : Nat → Prop) : Set Nat :=
  {slot | first ≤ slot ∧ slot < first + count ∧ free slot}

variable {Inv : σ → Prop} {free : σ → Nat → Prop}

/-- A search takes the least free slot, if there is one. -/
theorem Decides.search_cases (decides : Decides attempt Inv free) (count first : Nat) {state : σ}
    (start : Inv state) :
    (∃ slot result before, IsLeast (among count first (free state)) slot ∧ Inv before ∧
        attempt slot before = (some result, (search attempt count first state).2) ∧
        (search attempt count first state).1 = some (slot, result)) ∨
      among count first (free state) = ∅ ∧ (search attempt count first state).1 = none := by
  cases FirstFit.search_cases attempt count first state
    (fun slot now => (∀ lower, first ≤ lower → lower < slot → ¬free state lower) ∧ Inv now ∧
      ∀ other, free now other ↔ free state other)
    (fun slot before after _ refused tried => by
      obtain ⟨passed, inv, same⟩ := refused
      obtain ⟨invAfter, keeps⟩ := decides.keeps slot before after inv tried
      refine ⟨?_, invAfter, fun other => (keeps other).trans (same other)⟩
      intro lower least below
      cases Nat.lt_succ_iff_lt_or_eq.mp below with
      | inl earlier => exact passed lower least earlier
      | inr now =>
        rw [now, ← same slot]
        exact (decides.refused_iff slot before inv).mp (by rw [tried]))
    ⟨fun lower least below => absurd below (by omega), start, fun _ => Iff.rfl⟩ with
  | inl found =>
    obtain ⟨slot, result, before, least, below, ⟨passed, inv, same⟩, taken, answer⟩ := found
    left
    refine ⟨slot, result, before, ⟨⟨least, below, ?_⟩, ?_⟩, inv, taken, answer⟩
    · by_contra occupied
      have refused := (decides.refused_iff slot before inv).mpr (by rwa [same])
      rw [taken] at refused
      cases refused
    · intro other ⟨otherLeast, _, isFree⟩
      by_contra lower
      exact passed other otherLeast (by omega) isFree
  | inr none =>
    obtain ⟨⟨passed, _⟩, answer⟩ := none
    right
    refine ⟨Set.eq_empty_iff_forall_notMem.mpr ?_, answer⟩
    intro slot ⟨least, below, isFree⟩
    exact passed slot least below isFree

end FirstFit
