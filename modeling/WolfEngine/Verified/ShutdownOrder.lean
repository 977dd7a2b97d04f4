import WolfEngine.Verified.Shutdown

/-! # The order of shutdown signals

The channel hands the signals on in the order in which they were sent, and a check
that does not get the lock leaves them there.  The loop of the async server takes
them out one by one and leaves with the first `true`.
-/

namespace WolfEngine.Verified

open WolfEngine.Stream Transitions ServerState

variable {n : Nat}

/-! ## The channel -/

/-- What `try_recv` takes out of the channel. -/
def dequeues (state : ServerState n) : ServerAction n → List Bool
  | .tryRecv _ => state.queue.head?.toList
  | _ => []

/-- What `send` puts into the channel. -/
def sends (state : ServerState n) : ServerAction n → List Bool
  | .send =>
    match state.lock with
    | some (.sender value) => [value]
    | _ => []
  | _ => []

def dequeued (state : ServerState n) (actions : List (ServerAction n)) : List Bool :=
  outputs ServerState.step dequeues state actions

def sent (state : ServerState n) (actions : List (ServerAction n)) : List Bool :=
  outputs ServerState.step sends state actions

/-- An action moves signals at the two ends of the channel only. -/
theorem step_fifo {state next : ServerState n} {action : ServerAction n}
    (stepped : state.step action = some next) :
    state.queue ++ sends state action = dequeues state action ++ next.queue := by
  obtain ⟨id, rfl, _, ⟨_, rfl⟩ | ⟨_, rfl⟩⟩ | ⟨id, rfl, _, rfl⟩ | ⟨id, ok, rfl, _, rfl⟩ |
    ⟨value, rfl, _, rfl⟩ | ⟨value, rfl, held, rfl⟩ := step_cases stepped
  · simp [sends, dequeues]
  · simp [sends, dequeues]
  · simp only [sends, dequeues, goto_queue, List.append_nil]
    cases state.queue <;> rfl
  · simp [sends, dequeues]
  · simp [sends, dequeues]
  · simp [sends, dequeues, held]

/-- Nothing is lost, doubled or overtaken on the way through the channel. -/
theorem run_fifo {state last : ServerState n} {actions : List (ServerAction n)}
    (ran : run ServerState.step state actions = some last) :
    state.queue ++ sent state actions = dequeued state actions ++ last.queue := by
  induction actions generalizing state with
  | nil =>
    cases ran
    simp [sent, dequeued, outputs]
  | cons action actions ih =>
    obtain ⟨next, stepped, rest⟩ := run_cons_eq_some.mp ran
    have head := step_fifo stepped
    have tail : next.queue ++ sent next actions = dequeued next actions ++ last.queue := ih rest
    simp only [sent, dequeued] at tail ⊢
    rw [outputs_cons stepped, outputs_cons stepped, ← List.append_assoc, head,
      List.append_assoc, tail, List.append_assoc]

/-- A check that does not get the lock takes nothing out. -/
theorem tryLock_queue {state next : ServerState n} {id : Fin n}
    (stepped : state.step (.tryLock id) = some next) : next.queue = state.queue := by
  have moved := step_fifo stepped
  simpa [sends, dequeues] using moved.symm

/-! ## The loop of one worker -/

/-- The actions of senders. -/
def OfSender : ServerAction n → Prop
  | .lock _ => True
  | .send => True
  | _ => False

/-- After the `break` only senders act, and nothing is taken out any more. -/
theorem left_step {state next : ServerState 1} {action : ServerAction 1}
    (left : state.pc 0 = .left) (stepped : state.step action = some next) :
    next.pc 0 = .left ∧ dequeues state action = [] ∧ OfSender action := by
  have gone : ∀ {id : Fin 1} {pc}, state.pc id = pc → pc = .left := by
    intro id pc here
    rw [← here, Subsingleton.elim id 0, left]
  obtain ⟨id, rfl, here, _⟩ | ⟨id, rfl, here, _⟩ | ⟨id, ok, rfl, here, _⟩ | ⟨value, rfl, _, rfl⟩ |
    ⟨value, rfl, _, rfl⟩ := step_cases stepped
  · cases gone here
  · cases gone here
  · cases gone here
  · exact ⟨left, rfl, trivial⟩
  · exact ⟨left, rfl, trivial⟩

theorem left_run {state last : ServerState 1} {actions : List (ServerAction 1)}
    (left : state.pc 0 = .left) (ran : run ServerState.step state actions = some last) :
    last.pc 0 = .left ∧ dequeued state actions = [] ∧ ∀ action ∈ actions, OfSender action := by
  induction actions generalizing state with
  | nil =>
    cases ran
    exact ⟨left, rfl, by simp⟩
  | cons action actions ih =>
    obtain ⟨next, stepped, rest⟩ := run_cons_eq_some.mp ran
    obtain ⟨still, nothing, sender⟩ := left_step left stepped
    obtain ⟨atEnd, later, senders⟩ := ih still rest
    refine ⟨atEnd, ?_, List.forall_mem_cons.mpr ⟨sender, senders⟩⟩
    show outputs ServerState.step dequeues state (action :: actions) = []
    rw [outputs_cons stepped, nothing]
    exact later

/-- Before the `break`: a step takes out the first `true` and leaves, or it takes
out nothing but a `false` and goes on. -/
theorem running_step {state next : ServerState 1} {action : ServerAction 1}
    (running : state.pc 0 ≠ .left) (stepped : state.step action = some next) :
    (action = .tryRecv 0 ∧ dequeues state action = [true] ∧ next.pc 0 = .left) ∨
      (next.pc 0 ≠ .left ∧ true ∉ dequeues state action) := by
  obtain ⟨id, rfl, _, ⟨_, rfl⟩ | ⟨_, rfl⟩⟩ | ⟨id, rfl, _, rfl⟩ | ⟨id, ok, rfl, _, rfl⟩ |
    ⟨value, rfl, _, rfl⟩ | ⟨value, rfl, _, rfl⟩ := step_cases stepped
  · right
    simp [Subsingleton.elim id 0, dequeues]
  · right
    simp [Subsingleton.elim id 0, dequeues]
  · rw [Subsingleton.elim id 0]
    cases queue : state.queue with
    | nil => simp [dequeues, queue]
    | cons value values => cases value <;> simp [dequeues, queue]
  · right
    simp [Subsingleton.elim id 0, dequeues]
  · right
    exact ⟨running, by simp [dequeues]⟩
  · right
    exact ⟨running, by simp [dequeues]⟩

/-- How far the loop has come: it goes on and has met no `true`, or it left in the
check that took the first `true` out. -/
inductive Progress (state : ServerState 1) (actions : List (ServerAction 1))
    (last : ServerState 1) : Prop where
  | running (here : last.pc 0 ≠ .left) (unasked : true ∉ dequeued state actions)
  | left (front back : List (ServerAction 1)) (split : actions = front ++ .tryRecv 0 :: back)
      (gone : last.pc 0 = .left) (unasked : true ∉ dequeued state front)
      (first : dequeued state actions = dequeued state front ++ [true])
      (silent : ∀ action ∈ back, OfSender action)

theorem running_run {state last : ServerState 1} {actions : List (ServerAction 1)}
    (running : state.pc 0 ≠ .left) (ran : run ServerState.step state actions = some last) :
    Progress state actions last := by
  induction actions generalizing state with
  | nil =>
    cases ran
    exact .running running (by simp [dequeued, outputs])
  | cons action actions ih =>
    obtain ⟨next, stepped, rest⟩ := run_cons_eq_some.mp ran
    have head : ∀ later, dequeued state (action :: later) =
        dequeues state action ++ dequeued next later := fun later => outputs_cons stepped later
    cases running_step running stepped with
    | inl leaves =>
      obtain ⟨rfl, signal, left⟩ := leaves
      obtain ⟨gone, nothing, silent⟩ := left_run left rest
      refine .left [] actions rfl gone (by simp [dequeued, outputs]) ?_ silent
      rw [head, signal, nothing]
      rfl
    | inr goes =>
      obtain ⟨still, quiet⟩ := goes
      cases ih still rest with
      | running here unasked =>
        refine .running here ?_
        rw [head, List.mem_append]
        exact not_or.mpr ⟨quiet, unasked⟩
      | left front back split gone unasked first silent =>
        refine .left (action :: front) back (by rw [split]; rfl) gone ?_ ?_ silent
        · rw [head, List.mem_append]
          exact not_or.mpr ⟨quiet, unasked⟩
        · rw [head, head, first, List.append_assoc]

/-- What holds of every run of the async server and its senders. -/
structure ShutdownExact (actions : List (ServerAction 1)) (last : ServerState 1) : Prop where
  /-- Every signal that was sent is in the channel or was taken out, in order. -/
  fifo : sent (ServerState.init 1) actions = dequeued (ServerState.init 1) actions ++ last.queue
  /-- A failed `try_lock` removes nothing. -/
  failed : ∀ front back before next, actions = front ++ .tryLock 0 :: back →
    run ServerState.step (ServerState.init 1) front = some before → before.lock ≠ none →
    before.step (.tryLock 0) = some next → next.queue = before.queue
  leaves : last.pc 0 = .left ↔ true ∈ dequeued (ServerState.init 1) actions
  /-- It leaves with the first `true`, and accepts nothing after it. -/
  first : last.pc 0 = .left → ∃ front back, actions = front ++ .tryRecv 0 :: back ∧
    true ∉ dequeued (ServerState.init 1) front ∧
    dequeued (ServerState.init 1) actions = dequeued (ServerState.init 1) front ++ [true] ∧
    ∀ action ∈ back, OfSender action

theorem async_shutdown_exact (actions : List (ServerAction 1)) (last : ServerState 1)
    (ran : run ServerState.step (ServerState.init 1) actions = some last) :
    ShutdownExact actions last := by
  have running : (ServerState.init 1).pc 0 ≠ .left := by simp [ServerState.init]
  have fifo := run_fifo ran
  refine ⟨by simpa [ServerState.init] using fifo, ?_, ?_, ?_⟩
  · intro front back before next _ _ _ stepped
    exact tryLock_queue stepped
  · cases running_run running ran with
    | running here unasked => exact iff_of_false here unasked
    | left front back split gone unasked first silent =>
      refine iff_of_true gone ?_
      rw [first]
      simp
  · intro gone
    cases running_run running ran with
    | running here unasked => exact absurd gone here
    | left front back split _ unasked first silent =>
      exact ⟨front, back, split, unasked, first, silent⟩

/-- A `false` before the `true`, and a check in between that does not get the
lock. -/
theorem false_does_not_mask :
    ∃ last, run ServerState.step (ServerState.init 1)
        [.lock false, .send, .lock true, .tryLock 0, .accept 0 true, .send, .tryLock 0, .tryRecv 0,
          .accept 0 false, .tryLock 0, .tryRecv 0] = some last ∧
      last.pc 0 = .left ∧
      ShutdownExact [.lock false, .send, .lock true, .tryLock 0, .accept 0 true, .send, .tryLock 0,
        .tryRecv 0, .accept 0 false, .tryLock 0, .tryRecv 0] last :=
  ⟨_, rfl, rfl, async_shutdown_exact _ _ rfl⟩

end WolfEngine.Verified
