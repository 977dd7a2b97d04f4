/-! # Transition systems

A system given by a partial step function, run over a list of actions: which
actions happened, in which order, is the list, and `none` says that one of them
could not happen.  What the actions of a run put out is read off along it.
-/

namespace Transitions

variable {σ α β : Type} {step : σ → α → Option σ}

/-- Take the actions one after the other. -/
def run (step : σ → α → Option σ) : σ → List α → Option σ
  | state, [] => some state
  | state, action :: actions => (step state action).bind fun next => run step next actions

theorem run_cons_eq_some {state last : σ} {action : α} {actions : List α} :
    run step state (action :: actions) = some last ↔
      ∃ next, step state action = some next ∧ run step next actions = some last :=
  Option.bind_eq_some_iff

theorem run_append_eq_some {state last : σ} {xs ys : List α} :
    run step state (xs ++ ys) = some last ↔
      ∃ middle, run step state xs = some middle ∧ run step middle ys = some last := by
  induction xs generalizing state with
  | nil => simp [run]
  | cons x xs ih =>
    simp only [List.cons_append, run_cons_eq_some, ih]
    constructor
    · rintro ⟨next, stepped, middle, front, back⟩
      exact ⟨middle, ⟨next, stepped, front⟩, back⟩
    · rintro ⟨middle, ⟨next, stepped, front⟩, back⟩
      exact ⟨next, stepped, middle, front, back⟩

/-- What every action keeps, a run keeps. -/
theorem run_invariant (Inv : σ → Prop) {actions : List α}
    (keeps : ∀ action ∈ actions, ∀ state next, Inv state → step state action = some next → Inv next)
    {state last : σ} (start : Inv state) (ran : run step state actions = some last) : Inv last := by
  induction actions generalizing state with
  | nil =>
    cases ran
    exact start
  | cons action actions ih =>
    obtain ⟨next, stepped, rest⟩ := run_cons_eq_some.mp ran
    exact ih (fun a member => keeps a (List.mem_cons_of_mem _ member))
      (keeps action List.mem_cons_self state next start stepped) rest

/-- What the actions put out, in order, up to the first that cannot happen. -/
def outputs (step : σ → α → Option σ) (out : σ → α → List β) : σ → List α → List β
  | _, [] => []
  | state, action :: actions =>
    match step state action with
    | some next => out state action ++ outputs step out next actions
    | none => []

theorem outputs_cons {out : σ → α → List β} {state next : σ} {action : α}
    (stepped : step state action = some next) (actions : List α) :
    outputs step out state (action :: actions) =
      out state action ++ outputs step out next actions := by
  simp [outputs, stepped]

/-- Every step of a run is one that `P` allows, up to the first that cannot happen. -/
def Always (step : σ → α → Option σ) (P : σ → α → σ → Prop) : σ → List α → Prop
  | _, [] => True
  | state, action :: actions =>
    ∀ next, step state action = some next → P state action next ∧ Always step P next actions

/-- Two properties of a step agree along every run if they agree wherever the first of
them has held so far. -/
theorem always_iff {P Q : σ → α → σ → Prop} (Inv : σ → Prop)
    (agree : ∀ state action next, Inv state → step state action = some next →
      (P state action next ↔ Q state action next))
    (keeps : ∀ state action next, Inv state → step state action = some next →
      P state action next → Inv next)
    {state : σ} (start : Inv state) (actions : List α) :
    Always step P state actions ↔ Always step Q state actions := by
  induction actions generalizing state with
  | nil => exact Iff.rfl
  | cons action actions ih =>
    constructor
    · intro always next stepped
      obtain ⟨here, rest⟩ := always next stepped
      have inv := keeps state action next start stepped here
      exact ⟨(agree state action next start stepped).mp here, (ih inv).mp rest⟩
    · intro always next stepped
      obtain ⟨here, rest⟩ := always next stepped
      have holds := (agree state action next start stepped).mpr here
      have inv := keeps state action next start stepped holds
      exact ⟨holds, (ih inv).mpr rest⟩

end Transitions
