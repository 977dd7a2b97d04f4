import Mathlib.Data.List.Induction

/-! # Histories and views

What several parties did, in the order in which it happened.  A party is known by its
`view`, the events of its own; a property that every event has once all events before it
have it holds of a whole history (`forall_of_before`).
-/

namespace Views

variable {ι ε : Type} [DecidableEq ι]

/-- What one party did. -/
def view (party : ι) (history : List (ι × ε)) : List ε :=
  (history.filter (·.1 = party)).map (·.2)

variable {party : ι} {event : ε}

@[simp] theorem view_append (before after : List (ι × ε)) :
    view party (before ++ after) = view party before ++ view party after := by
  simp [view]

@[simp] theorem view_cons_self (history : List (ι × ε)) :
    view party ((party, event) :: history) = event :: view party history := by
  simp [view]

@[simp] theorem mem_view {history : List (ι × ε)} :
    event ∈ view party history ↔ (party, event) ∈ history := by
  simp [view]

omit [DecidableEq ι] in
theorem forall_of_before {history : List ε} (P : ε → Prop)
    (step : ∀ pre event post, history = pre ++ event :: post → (∀ earlier ∈ pre, P earlier) →
      P event) : ∀ event ∈ history, P event := by
  suffices known : ∀ pre, pre <+: history → ∀ event ∈ pre, P event from
    known history (List.prefix_refl history)
  intro pre
  induction pre using List.reverseRecOn with
  | nil => simp
  | append_singleton pre event ih =>
    intro part
    obtain ⟨post, split⟩ := part
    have earlier := ih ⟨event :: post, by simp [← split]⟩
    intro one member
    simp only [List.mem_append, List.mem_singleton] at member
    cases member with
    | inl before => exact earlier one before
    | inr last =>
      rw [last]
      exact step pre event post (by simp [← split]) earlier

end Views
