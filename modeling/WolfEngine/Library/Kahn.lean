import Mathlib.Data.List.Infix

/-! # Two stream functions in a circle

Two processes read what the other one has written, in pieces of any size and at any time,
and each writes what a causal function gives for the stream that it has read.  However
they take turns, what they have written is bounded by the turns in which everything is
read at once: two executions differ only in how far they have come (`Written.comparable`),
and one that has come to rest has come as far as any (`Written.within_fixed`).
-/

namespace Kahn

variable {α β : Type}

/-- More input gives more output. -/
def Causal (f : List α → List β) : Prop :=
  ∀ earlier later, earlier <+: later → f earlier <+: f later

/-- What the two processes may have written. -/
inductive Written (f : List α → List β) (g : List β → List α) : List α → List β → Prop where
  | nothing : Written f g [] []
  | first {a a' : List α} {b : List β} : Written f g a b → a' <+: g b → Written f g a' b
  | second {a : List α} {b b' : List β} : Written f g a b → b' <+: f a → Written f g a b'

/-- What they have written after some turns in which everything is read at once. -/
def turns (f : List α → List β) (g : List β → List α) : Nat → List α × List β
  | 0 => ([], [])
  | count + 1 => (g (turns f g count).2, f (turns f g count).1)

variable {f : List α → List β} {g : List β → List α}

theorem turns_succ (causalF : Causal f) (causalG : Causal g) (count : Nat) :
    (turns f g count).1 <+: (turns f g (count + 1)).1 ∧
      (turns f g count).2 <+: (turns f g (count + 1)).2 := by
  induction count with
  | zero => exact ⟨List.nil_prefix, List.nil_prefix⟩
  | succ count ih => exact ⟨causalG _ _ ih.2, causalF _ _ ih.1⟩

theorem turns_mono (causalF : Causal f) (causalG : Causal g) {count more : Nat} (le : count ≤ more) :
    (turns f g count).1 <+: (turns f g more).1 ∧ (turns f g count).2 <+: (turns f g more).2 := by
  induction le with
  | refl => exact ⟨List.prefix_refl _, List.prefix_refl _⟩
  | step _ ih =>
    have next := turns_succ causalF causalG
    exact ⟨ih.1.trans (next _).1, ih.2.trans (next _).2⟩

namespace Written

variable {a a' : List α} {b b' : List β}

theorem within_turns (causalF : Causal f) (causalG : Causal g) (written : Written f g a b) :
    ∃ count, a <+: (turns f g count).1 ∧ b <+: (turns f g count).2 := by
  induction written with
  | nothing => exact ⟨0, List.nil_prefix, List.nil_prefix⟩
  | first _ more ih =>
    obtain ⟨count, _, right⟩ := ih
    exact ⟨count + 1, more.trans (causalG _ _ right), right.trans (turns_succ causalF causalG count).2⟩
  | second _ more ih =>
    obtain ⟨count, left, _⟩ := ih
    exact ⟨count + 1, left.trans (turns_succ causalF causalG count).1, more.trans (causalF _ _ left)⟩

/-- Of any two executions, one has come further. -/
theorem comparable (causalF : Causal f) (causalG : Causal g) (one : Written f g a b)
    (other : Written f g a' b') :
    (a <+: a' ∨ a' <+: a) ∧ (b <+: b' ∨ b' <+: b) := by
  obtain ⟨count, left, right⟩ := one.within_turns causalF causalG
  obtain ⟨more, left', right'⟩ := other.within_turns causalF causalG
  cases Nat.le_total count more with
  | inl le =>
    have mono := turns_mono causalF causalG le
    exact ⟨List.prefix_or_prefix_of_prefix (left.trans mono.1) left',
      List.prefix_or_prefix_of_prefix (right.trans mono.2) right'⟩
  | inr le =>
    have mono := turns_mono causalF causalG le
    exact ⟨List.prefix_or_prefix_of_prefix left (left'.trans mono.1),
      List.prefix_or_prefix_of_prefix right (right'.trans mono.2)⟩

/-- None comes further than to where both would write nothing more. -/
theorem within_fixed (causalF : Causal f) (causalG : Causal g) (written : Written f g a b)
    (fixedG : g b' = a') (fixedF : f a' = b') : a <+: a' ∧ b <+: b' := by
  induction written with
  | nothing => exact ⟨List.nil_prefix, List.nil_prefix⟩
  | first _ more ih => exact ⟨fixedG ▸ more.trans (causalG _ _ ih.2), ih.2⟩
  | second _ more ih => exact ⟨ih.1, fixedF ▸ more.trans (causalF _ _ ih.1)⟩

end Written

end Kahn
