import Mathlib.Logic.Function.Basic

/-! # Calls between machines

Machines that call each other over a network that may lose a call or its answer, but
neither invents nor repeats one.  Between the calls a machine does what it wants of its own
accord.
-/

namespace RemoteCalls

variable {ι σ ρ α : Type} [DecidableEq ι]

/-- What a machine answers to a request, if it does, and its state afterwards. -/
structure Machine (σ ρ α : Type) where
  answer : σ → ρ → Option α
  after : σ → ρ → σ

inductive Act (ι σ ρ : Type) where
  | own (i : ι) (does : σ → σ)
  | call (target : ι) (request : ρ)

/-- What comes of a call: its answer, if the caller gets one, and the states of all machines. -/
inductive Called (machine : Machine σ ρ α) (states : ι → σ) (target : ι) (request : ρ) :
    Option α → (ι → σ) → Prop where
  | lost : Called machine states target request none states
  | unanswered : Called machine states target request none
      (Function.update states target (machine.after (states target) request))
  | answered {answer : α} : machine.answer (states target) request = some answer →
      Called machine states target request (some answer)
        (Function.update states target (machine.after (states target) request))

/-- The acts can lead to these answers and states. -/
inductive Runs (machine : Machine σ ρ α) :
    (ι → σ) → List (Act ι σ ρ) → List (Option α) → (ι → σ) → Prop where
  | nil {states : ι → σ} : Runs machine states [] [] states
  | own {states last : ι → σ} {i : ι} {does : σ → σ} {acts : List (Act ι σ ρ)}
      {answers : List (Option α)} :
      Runs machine (Function.update states i (does (states i))) acts answers last →
      Runs machine states (.own i does :: acts) answers last
  | call {states next last : ι → σ} {target : ι} {request : ρ} {acts : List (Act ι σ ρ)}
      {answer : Option α} {answers : List (Option α)} :
      Called machine states target request answer next →
      Runs machine next acts answers last →
      Runs machine states (.call target request :: acts) (answer :: answers) last

variable {machine : Machine σ ρ α} {states : ι → σ} {target : ι} {request : ρ} {heard : Option α}

/-- A call that was not performed changes nothing and is not answered. -/
theorem Called.of_lost (unheard : heard = none) : Called machine states target request heard states := by
  rw [unheard]
  exact .lost

/-- A call that was performed is answered by what the machine answered, or not at all. -/
theorem Called.of_performed
    (answers : ∀ answer, heard = some answer → machine.answer (states target) request = some answer) :
    Called machine states target request heard
      (Function.update states target (machine.after (states target) request)) := by
  cases heard with
  | none => exact .unanswered
  | some answer => exact .answered (answers answer rfl)

end RemoteCalls
