/-! # Event loops fed by their environment

A `loop { .. }` that talks to the outside is a *body*: one round takes the
environment's answers and the loop's state to the events the round shows to the
outside, and either goes round again with a new state or leaves with a result.
`run` iterates a body over a list of answers, one entry a round; a run whose
list is exhausted is still inside the loop.

The rules below are the ones a proof about such a loop uses: how runs compose
(`run_append`, `run_snoc`), how an invariant of one round carries over to a run
(`run_invariant`, `run_leave_forall`), when a loop is never left (`stays_of_step`), and when an
endless environment makes no difference after some round
(`leaves_iff_firstRounds`).
-/

namespace EventLoop

/-- What one round does with control. -/
inductive Control (σ ρ : Type) where
  | again (state : σ)
  | leave (result : ρ)

/-- The events of a computation together with where control went. -/
structure Outcome (σ ε ρ : Type) where
  events : List ε
  control : Control σ ρ

/-- One round: the environment's answers and the state give an outcome. -/
abbrev Body (ι σ ε ρ : Type) := ι → σ → Outcome σ ε ρ

variable {ι κ σ τ ε δ ρ : Type}

/-- Continue with `next` unless the loop was left. -/
def Outcome.andThen (outcome : Outcome σ ε ρ) (next : σ → Outcome σ ε ρ) : Outcome σ ε ρ :=
  match outcome.control with
  | .again state => ⟨outcome.events ++ (next state).events, (next state).control⟩
  | .leave _ => outcome

/-- Iterate a body, one list entry a round. -/
def run (body : Body ι σ ε ρ) : List ι → σ → Outcome σ ε ρ
  | [], state => ⟨[], .again state⟩
  | input :: inputs, state => (body input state).andThen (run body inputs)

/-- The first `count` answers of an endless environment. -/
def firstRounds (inputs : Nat → ι) (count : Nat) : List ι :=
  (List.range count).map inputs

/-- The loop is left after finitely many rounds. -/
def Leaves (body : Body ι σ ε ρ) (inputs : Nat → ι) (state : σ) : Prop :=
  ∃ count result, (run body (firstRounds inputs count) state).control = .leave result

/-! ## Composition -/

@[simp] theorem run_nil (body : Body ι σ ε ρ) (state : σ) :
    run body [] state = ⟨[], .again state⟩ := rfl

theorem run_cons (body : Body ι σ ε ρ) (input : ι) (inputs : List ι) (state : σ) :
    run body (input :: inputs) state = (body input state).andThen (run body inputs) := rfl

theorem andThen_of_again {outcome : Outcome σ ε ρ} {state : σ} (next : σ → Outcome σ ε ρ)
    (again : outcome.control = .again state) :
    outcome.andThen next = ⟨outcome.events ++ (next state).events, (next state).control⟩ := by
  simp only [Outcome.andThen, again]

theorem andThen_of_leave {outcome : Outcome σ ε ρ} {result : ρ} (next : σ → Outcome σ ε ρ)
    (leave : outcome.control = .leave result) : outcome.andThen next = outcome := by
  simp only [Outcome.andThen, leave]

theorem andThen_assoc (outcome : Outcome σ ε ρ) (f g : σ → Outcome σ ε ρ) :
    (outcome.andThen f).andThen g = outcome.andThen (fun state => (f state).andThen g) := by
  cases control : outcome.control with
  | leave result => simp only [andThen_of_leave _ control]
  | again state =>
    rw [andThen_of_again f control, andThen_of_again _ control]
    cases inner : (f state).control with
    | leave result =>
      rw [andThen_of_leave g inner]
      simp only [Outcome.andThen, inner]
    | again state' =>
      rw [andThen_of_again g inner]
      simp only [Outcome.andThen, List.append_assoc]

/-- What a computation showed stays when it is continued. -/
theorem andThen_events (outcome : Outcome σ ε ρ) (next : σ → Outcome σ ε ρ) :
    ∃ more, (outcome.andThen next).events = outcome.events ++ more := by
  cases control : outcome.control with
  | leave result => exact ⟨[], by rw [andThen_of_leave _ control, List.append_nil]⟩
  | again state => exact ⟨(next state).events, by rw [andThen_of_again _ control]⟩

theorem run_cons_again_iff {body : Body ι σ ε ρ} {first : ι} {inputs : List ι} {state state' : σ} :
    (run body (first :: inputs) state).control = .again state' ↔
      ∃ next, (body first state).control = .again next ∧
        (run body inputs next).control = .again state' := by
  rw [run_cons]
  cases control : (body first state).control with
  | leave result => simp [andThen_of_leave _ control, control]
  | again next => simp [andThen_of_again _ control]

theorem run_cons_leave_iff {body : Body ι σ ε ρ} {first : ι} {inputs : List ι} {state : σ}
    {result : ρ} :
    (run body (first :: inputs) state).control = .leave result ↔
      (body first state).control = .leave result ∨
        ∃ next, (body first state).control = .again next ∧
          (run body inputs next).control = .leave result := by
  rw [run_cons]
  cases control : (body first state).control with
  | leave early => simp [andThen_of_leave _ control, control]
  | again next => simp [andThen_of_again _ control]

/-- A run over `xs ++ ys` is the run over `xs` continued over `ys`. -/
theorem run_append (body : Body ι σ ε ρ) (xs ys : List ι) (state : σ) :
    run body (xs ++ ys) state = (run body xs state).andThen (run body ys) := by
  induction xs generalizing state with
  | nil => simp [Outcome.andThen]
  | cons x xs ih =>
    have unfolded : (fun s => run body (xs ++ ys) s) =
        fun s => (run body xs s).andThen (run body ys) := funext ih
    rw [List.cons_append, run_cons, run_cons, andThen_assoc, ← unfolded]

theorem run_singleton (body : Body ι σ ε ρ) (input : ι) (state : σ) :
    run body [input] state = body input state := by
  rw [run_cons]
  cases control : (body input state).control with
  | leave result => exact andThen_of_leave _ control
  | again state' => rw [andThen_of_again _ control]; simp [← control]

/-- One more round after a run that is still inside the loop. -/
theorem run_snoc {body : Body ι σ ε ρ} {xs : List ι} {state state' : σ} (x : ι)
    (inside : (run body xs state).control = .again state') :
    run body (xs ++ [x]) state =
      ⟨(run body xs state).events ++ (body x state').events, (body x state').control⟩ := by
  rw [run_append, andThen_of_again _ inside, run_singleton]

theorem firstRounds_succ (inputs : Nat → ι) (count : Nat) :
    firstRounds inputs (count + 1) = firstRounds inputs count ++ [inputs count] := by
  simp [firstRounds, List.range_succ]

/-! ## Invariants -/

/-- A property of the state kept by every round that goes round again holds after
every run that is still inside the loop. -/
theorem run_invariant {body : Body ι σ ε ρ} (Inv : σ → Prop) {inputs : List ι}
    (step : ∀ input ∈ inputs, ∀ s s', Inv s → (body input s).control = .again s' → Inv s')
    {state state' : σ} (start : Inv state)
    (inside : (run body inputs state).control = .again state') : Inv state' := by
  induction inputs generalizing state with
  | nil => cases inside; exact start
  | cons input inputs ih =>
    obtain ⟨next, goes, inside⟩ := run_cons_again_iff.mp inside
    exact ih (fun i member => step i (List.mem_cons_of_mem _ member))
      (step input List.mem_cons_self _ _ start goes) inside

/-- In a run still inside the loop, every round went round again. -/
theorem again_of_mem {body : Body ι σ ε ρ} {inputs : List ι} {state state' : σ}
    (inside : (run body inputs state).control = .again state') {input : ι}
    (member : input ∈ inputs) : ∃ s s', (body input s).control = .again s' := by
  induction inputs generalizing state with
  | nil => cases member
  | cons first inputs ih =>
    obtain ⟨next, goes, inside⟩ := run_cons_again_iff.mp inside
    rcases List.mem_cons.mp member with rfl | later
    · exact ⟨state, next, goes⟩
    · exact ih inside later

/-- What holds of every result a round leaves with holds of the result of a run. -/
theorem run_leave_forall {body : Body ι σ ε ρ} (P : ρ → Prop)
    (step : ∀ input s result, (body input s).control = .leave result → P result)
    {inputs : List ι} {state : σ} {result : ρ}
    (left : (run body inputs state).control = .leave result) : P result := by
  induction inputs generalizing state with
  | nil => cases left
  | cons input inputs ih =>
    rcases run_cons_leave_iff.mp left with early | ⟨next, _, left⟩
    · exact step input state result early
    · exact ih left

/-- Every round that the loop comes to satisfies `P`, with the state that it finds. -/
def Throughout (body : Body ι σ ε ρ) (P : ι → σ → Prop) : List ι → σ → Prop
  | [], _ => True
  | input :: inputs, state => P input state ∧
    ∀ next, (body input state).control = .again next → Throughout body P inputs next

/-- What the rounds that go round again satisfy, and decides of the others whether they leave
well, decides it of a run. -/
theorem left_iff_throughout {body : Body ι σ ε ρ} {P : ι → σ → Prop} {Well : ρ → Prop}
    (goes : ∀ input s s', (body input s).control = .again s' → P input s)
    (leaves : ∀ input s result, (body input s).control = .leave result → (Well result ↔ P input s))
    {inputs : List ι} {state : σ} {result : ρ}
    (left : (run body inputs state).control = .leave result) :
    Well result ↔ Throughout body P inputs state := by
  induction inputs generalizing state with
  | nil => cases left
  | cons input inputs ih =>
    cases run_cons_leave_iff.mp left with
    | inl early => simp [Throughout, leaves input state result early, early]
    | inr later =>
      obtain ⟨next, again, left⟩ := later
      simp [Throughout, goes input state next again, again, ih left]

/-- What a run shows, one of its rounds shows. -/
theorem mem_run_events {body : Body ι σ ε ρ} {inputs : List ι} {state : σ} {event : ε} :
    event ∈ (run body inputs state).events ↔
      ∃ pre input post state', inputs = pre ++ input :: post ∧
        (run body pre state).control = .again state' ∧ event ∈ (body input state').events := by
  constructor
  · intro member
    induction inputs generalizing state with
    | nil => cases member
    | cons first inputs ih =>
      rw [run_cons] at member
      cases control : (body first state).control with
      | leave result =>
        rw [andThen_of_leave _ control] at member
        exact ⟨[], first, inputs, state, rfl, rfl, member⟩
      | again next =>
        rw [andThen_of_again _ control] at member
        rcases List.mem_append.mp member with here | later
        · exact ⟨[], first, inputs, state, rfl, rfl, here⟩
        · obtain ⟨pre, input, post, state', rfl, inside, shown⟩ := ih later
          exact ⟨first :: pre, input, post, state', rfl,
            run_cons_again_iff.mpr ⟨next, control, inside⟩, shown⟩
  · rintro ⟨pre, input, post, state', rfl, inside, shown⟩
    obtain ⟨more, events⟩ := andThen_events (body input state') (run body post)
    rw [run_append, andThen_of_again _ inside, run_cons, events]
    exact List.mem_append_right _ (List.mem_append_left _ shown)

/-- An event of two computations is one of the second, or one of the first. -/
theorem append_split {first second pre post : List ε} {event : ε}
    (split : first ++ second = pre ++ event :: post) :
    (∃ before, pre = first ++ before ∧ second = before ++ event :: post) ∨
      ∃ after, first = pre ++ event :: after := by
  cases List.append_eq_append_iff.mp split with
  | inl later =>
    obtain ⟨before, behind, rest⟩ := later
    exact .inl ⟨before, behind, rest⟩
  | inr here =>
    obtain ⟨more, whole, rest⟩ := here
    cases more with
    | nil => exact .inl ⟨[], by simpa using whole.symm, rest.symm⟩
    | cons one more =>
      injection rest with same
      exact .inr ⟨more, same ▸ whole⟩

/-- An event of a run is an event of one of its rounds, behind what was shown before. -/
theorem run_events_split {body : Body ι σ ε ρ} {inputs : List ι} {state : σ} {pre post : List ε}
    {event : ε} (split : (run body inputs state).events = pre ++ event :: post) :
    ∃ shown input state' before after, input ∈ inputs ∧ pre = shown ++ before ∧
      (body input state').events = before ++ event :: after := by
  induction inputs generalizing state pre with
  | nil => simp at split
  | cons first inputs ih =>
    rw [run_cons] at split
    cases control : (body first state).control with
    | leave result =>
      rw [andThen_of_leave _ control] at split
      exact ⟨[], first, state, pre, post, List.mem_cons_self, rfl, split⟩
    | again next =>
      rw [andThen_of_again _ control] at split
      cases append_split split with
      | inl later =>
        obtain ⟨behind, same, rest⟩ := later
        obtain ⟨shown, input, state', before, after, member, parts, shows⟩ := ih rest
        exact ⟨(body first state).events ++ shown, input, state', before, after,
          List.mem_cons_of_mem _ member, by simp [same, parts], shows⟩
      | inr here =>
        obtain ⟨after, here⟩ := here
        exact ⟨[], first, state, pre, after, List.mem_cons_self, rfl, here⟩

/-- A run is left by one of its rounds. -/
theorem run_leave_iff {body : Body ι σ ε ρ} {inputs : List ι} {state : σ} {result : ρ} :
    (run body inputs state).control = .leave result ↔
      ∃ pre input post state', inputs = pre ++ input :: post ∧
        (run body pre state).control = .again state' ∧
        (body input state').control = .leave result := by
  constructor
  · intro left
    induction inputs generalizing state with
    | nil => cases left
    | cons first inputs ih =>
      rcases run_cons_leave_iff.mp left with early | ⟨next, goes, left⟩
      · exact ⟨[], first, inputs, state, rfl, rfl, early⟩
      · obtain ⟨pre, input, post, state', rfl, inside, leaves⟩ := ih left
        exact ⟨first :: pre, input, post, state', rfl,
          run_cons_again_iff.mpr ⟨next, goes, inside⟩, leaves⟩
  · rintro ⟨pre, input, post, state', rfl, inside, leaves⟩
    rw [run_append, andThen_of_again _ inside, run_cons, andThen_of_leave _ leaves]
    exact leaves

/-- If every round from an invariant state goes round again to one, the loop is
never left. -/
theorem stays_of_step {body : Body ι σ ε ρ} (Inv : σ → Prop) {inputs : List ι}
    (step : ∀ input ∈ inputs, ∀ s, Inv s → ∃ s', Inv s' ∧ (body input s).control = .again s')
    {state : σ} (start : Inv state) :
    ∃ state', Inv state' ∧ (run body inputs state).control = .again state' := by
  induction inputs generalizing state with
  | nil => exact ⟨state, start, rfl⟩
  | cons input inputs ih =>
    obtain ⟨next, nextInv, control⟩ := step input List.mem_cons_self state start
    rw [run_cons, andThen_of_again _ control]
    exact ih (fun i member => step i (List.mem_cons_of_mem _ member)) nextInv

/-- Dropping the last rounds of a run that is still inside the loop. -/
theorem inside_of_append {body : Body ι σ ε ρ} {xs ys : List ι} {state state' : σ}
    (inside : (run body (xs ++ ys) state).control = .again state') :
    ∃ middle, (run body xs state).control = .again middle := by
  cases control : (run body xs state).control with
  | again middle => exact ⟨middle, rfl⟩
  | leave result =>
    rw [run_append, andThen_of_leave _ control, control] at inside
    cases inside

/-- A loop that was left stays left. -/
theorem leave_append {body : Body ι σ ε ρ} {xs : List ι} {state : σ} {result : ρ}
    (left : (run body xs state).control = .leave result) (ys : List ι) :
    run body (xs ++ ys) state = run body xs state := by
  rw [run_append, andThen_of_leave _ left]

theorem firstRounds_add (inputs : Nat → ι) (count more : Nat) :
    firstRounds inputs (count + more) =
      firstRounds inputs count ++ firstRounds (fun i => inputs (count + i)) more := by
  simp [firstRounds, List.range_add]

theorem firstRounds_length (inputs : Nat → ι) (count : Nat) :
    (firstRounds inputs count).length = count := by
  simp [firstRounds]

/-- The rounds before one of the first `count` are the first rounds themselves. -/
theorem firstRounds_split {inputs : Nat → ι} {count : Nat} {pre post : List ι} {input : ι}
    (split : firstRounds inputs count = pre ++ input :: post) :
    ∃ i < count, pre = firstRounds inputs i ∧ input = inputs i := by
  have lengths := congrArg List.length split
  rw [firstRounds_length, List.length_append, List.length_cons] at lengths
  obtain ⟨more, rfl⟩ := Nat.exists_eq_add_of_lt (show pre.length < count by omega)
  rw [Nat.add_assoc, firstRounds_add] at split
  have parts := List.append_inj split (firstRounds_length inputs pre.length)
  refine ⟨pre.length, by omega, parts.1.symm, ?_⟩
  have heads := congrArg List.head? parts.2
  simpa [firstRounds, List.range_succ_eq_map] using heads.symm

theorem firstRounds_cons (inputs : Nat → ι) {count i : Nat} (below : i < count) :
    ∃ post, firstRounds inputs count = firstRounds inputs i ++ inputs i :: post := by
  obtain ⟨more, rfl⟩ := Nat.exists_eq_add_of_lt below
  rw [Nat.add_right_comm, firstRounds_add, firstRounds_succ, List.append_assoc]
  exact ⟨_, rfl⟩

/-- When everything that can happen after `count` rounds keeps the loop going
from `Inv` states, and `count` rounds lead to one, the loop is left at all only
if it is left within these rounds. -/
theorem leaves_iff_firstRounds {body : Body ι σ ε ρ} {inputs : Nat → ι} {state : σ} (count : Nat)
    (Inv : σ → Prop)
    (calm : ∀ state', (run body (firstRounds inputs count) state).control = .again state' →
      Inv state')
    (step : ∀ i, count ≤ i → ∀ s, Inv s → ∃ s', Inv s' ∧ (body (inputs i) s).control = .again s') :
    Leaves body inputs state ↔
      ∃ result, (run body (firstRounds inputs count) state).control = .leave result := by
  constructor
  · rintro ⟨total, result, left⟩
    cases early : (run body (firstRounds inputs count) state).control with
    | leave result => exact ⟨result, rfl⟩
    | again middle =>
      exfalso
      rcases Nat.le_total total count with fewer | more
      · obtain ⟨rest, rfl⟩ := Nat.exists_eq_add_of_le fewer
        rw [firstRounds_add, leave_append left, left] at early
        cases early
      · obtain ⟨rest, rfl⟩ := Nat.exists_eq_add_of_le more
        have stays : ∃ state', Inv state' ∧
            (run body (firstRounds (fun i => inputs (count + i)) rest) middle).control =
              .again state' := by
          apply stays_of_step Inv _ (calm middle early)
          intro input member s inv
          obtain ⟨i, _, rfl⟩ := List.mem_map.mp member
          exact step (count + i) (Nat.le_add_right _ _) s inv
        obtain ⟨last, _, control⟩ := stays
        rw [firstRounds_add, run_append, andThen_of_again _ early] at left
        rw [control] at left
        cases left
  · rintro ⟨result, left⟩
    exact ⟨count, result, left⟩

end EventLoop
