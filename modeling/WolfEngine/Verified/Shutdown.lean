import WolfEngine.Stream.Tcp.ServerMainLoop

/-! # Shutting the servers down

A request is one element of a queue that all workers share: the first check that
finds it takes it out, and one worker leaves.
-/

namespace WolfEngine.Verified

open WolfEngine.Stream Transitions ServerState

variable {n : Nat}

/-! ## Steps -/

@[simp] theorem goto_pc_self (state : ServerState n) (id : Fin n) (pc : WorkerPc) :
    (state.goto id pc).pc id = pc := if_pos rfl

theorem goto_pc_of_ne (state : ServerState n) {id other : Fin n} (pc : WorkerPc)
    (different : other ≠ id) : (state.goto id pc).pc other = state.pc other := if_neg different

@[simp] theorem goto_queue (state : ServerState n) (id : Fin n) (pc : WorkerPc) :
    (state.goto id pc).queue = state.queue := rfl

@[simp] theorem goto_lock (state : ServerState n) (id : Fin n) (pc : WorkerPc) :
    (state.goto id pc).lock = state.lock := rfl

/-- What an action can do. -/
theorem step_cases {state next : ServerState n} {action : ServerAction n}
    (stepped : state.step action = some next) :
    (∃ id, action = .tryLock id ∧ state.pc id = .check ∧
      ((state.lock = none ∧ next = { state with lock := some (.worker id) }.goto id .locked) ∨
        (state.lock ≠ none ∧ next = state.goto id .accept))) ∨
    (∃ id, action = .tryRecv id ∧ state.pc id = .locked ∧
      next = { state with lock := none, queue := state.queue.tail }.goto id
        (if state.queue.head?.getD false then .left else .accept)) ∨
    (∃ id ok, action = .accept id ok ∧ state.pc id = .accept ∧ next = state.goto id .check) ∨
    (∃ value, action = .lock value ∧ state.lock = none ∧
      next = { state with lock := some (.sender value) }) ∨
    (∃ value, action = .send ∧ state.lock = some (.sender value) ∧
      next = { state with lock := none, queue := state.queue ++ [value] }) := by
  cases action with
  | tryLock id =>
    simp only [ServerState.step] at stepped
    split at stepped
    next here =>
      split at stepped
      next free =>
        cases stepped
        exact .inl ⟨id, rfl, here, .inl ⟨free, rfl⟩⟩
      next holder held =>
        -- the worker does not wait for the lock
        cases stepped
        exact .inl ⟨id, rfl, here, .inr ⟨by simp [held], rfl⟩⟩
    · cases stepped
  | tryRecv id =>
    simp only [ServerState.step] at stepped
    split at stepped
    next here =>
      cases stepped
      exact .inr (.inl ⟨id, rfl, here, rfl⟩)
    · cases stepped
  | accept id ok =>
    simp only [ServerState.step] at stepped
    split at stepped
    next here =>
      cases stepped
      exact .inr (.inr (.inl ⟨id, ok, rfl, here, rfl⟩))
    · cases stepped
  | lock value =>
    simp only [ServerState.step] at stepped
    split at stepped
    next free =>
      cases stepped
      exact .inr (.inr (.inr (.inl ⟨value, rfl, free, rfl⟩)))
    · cases stepped
  | send =>
    simp only [ServerState.step] at stepped
    split at stepped
    next value held =>
      cases stepped
      exact .inr (.inr (.inr (.inr ⟨value, rfl, held, rfl⟩)))
    · cases stepped

/-! ## Before, during and after a request -/

/-- No request was made, and none but `true` is being made. -/
structure Unasked (state : ServerState n) : Prop where
  queue : state.queue = []
  running : ∀ id, state.pc id ≠ .left
  asking : ∀ value, state.lock = some (.sender value) → value = true

/-- The request is in the channel, and nobody has left. -/
structure Pending (state : ServerState n) : Prop where
  queue : state.queue = [true]
  running : ∀ id, state.pc id ≠ .left

/-- The worker `id` took the request: it and no other has left. -/
structure Taken (state : ServerState n) (id : Fin n) : Prop where
  queue : state.queue = []
  left : ∀ other, state.pc other = .left ↔ other = id

theorem goto_running {state : ServerState n} (running : ∀ id, state.pc id ≠ .left) (id : Fin n)
    {pc : WorkerPc} (stays : pc ≠ .left) (other : Fin n) : (state.goto id pc).pc other ≠ .left := by
  by_cases same : other = id
  · subst same
    rwa [goto_pc_self]
  · rw [goto_pc_of_ne state pc same]
    exact running other

theorem goto_left {state : ServerState n} {gone : Fin n}
    (left : ∀ other, state.pc other = .left ↔ other = gone) {id : Fin n}
    (here : state.pc id ≠ .left) {pc : WorkerPc} (stays : pc ≠ .left) (other : Fin n) :
    (state.goto id pc).pc other = .left ↔ other = gone := by
  by_cases same : other = id
  · subst same
    rw [goto_pc_self, ← left other]
    exact iff_of_false stays here
  · rw [goto_pc_of_ne state pc same]
    exact left other

theorem Unasked.step {state next : ServerState n} {action : ServerAction n}
    (unasked : Unasked state) (stepped : state.step action = some next) (quiet : action ≠ .send)
    (honest : action ≠ .lock false) : Unasked next := by
  obtain ⟨id, rfl, _, ⟨_, rfl⟩ | ⟨_, rfl⟩⟩ | ⟨id, rfl, _, rfl⟩ | ⟨id, ok, rfl, _, rfl⟩ |
    ⟨value, rfl, _, rfl⟩ | ⟨value, rfl, _, rfl⟩ := step_cases stepped
  · exact ⟨unasked.queue, goto_running unasked.running id nofun, nofun⟩
  · exact ⟨unasked.queue, goto_running unasked.running id nofun, unasked.asking⟩
  · have running : ∀ other, (({ state with lock := none, queue := [] } : ServerState n).goto id
        .accept).pc other ≠ .left := goto_running unasked.running id nofun
    exact ⟨by simp [unasked.queue], by simpa [unasked.queue] using running, nofun⟩
  · exact ⟨unasked.queue, goto_running unasked.running id nofun, unasked.asking⟩
  · refine ⟨unasked.queue, unasked.running, ?_⟩
    rintro other ⟨⟩
    cases value with
    | true => rfl
    | false => exact absurd rfl honest
  · exact absurd rfl quiet

theorem Unasked.send {state next : ServerState n} (unasked : Unasked state)
    (stepped : state.step .send = some next) : Pending next := by
  obtain ⟨_, sent, _⟩ | ⟨_, sent, _⟩ | ⟨_, _, sent, _⟩ | ⟨_, sent, _⟩ | ⟨value, _, held, rfl⟩ :=
    step_cases stepped
  · cases sent
  · cases sent
  · cases sent
  · cases sent
  · rw [unasked.asking value held]
    exact ⟨by simp [unasked.queue], unasked.running⟩

/-- The request stays in the channel up to the first check, and the worker of that
check takes it. -/
theorem Pending.step {state next : ServerState n} {action : ServerAction n}
    (pending : Pending state) (stepped : state.step action = some next) (quiet : action ≠ .send) :
    (Pending next ∧ ∀ id, action ≠ .tryRecv id) ∨ ∃ id, action = .tryRecv id ∧ Taken next id := by
  obtain ⟨id, rfl, _, ⟨_, rfl⟩ | ⟨_, rfl⟩⟩ | ⟨id, rfl, _, rfl⟩ | ⟨id, ok, rfl, _, rfl⟩ |
    ⟨value, rfl, _, rfl⟩ | ⟨value, rfl, _, rfl⟩ := step_cases stepped
  · exact .inl ⟨⟨pending.queue, goto_running pending.running id nofun⟩, nofun⟩
  · exact .inl ⟨⟨pending.queue, goto_running pending.running id nofun⟩, nofun⟩
  · refine .inr ⟨id, rfl, by simp [pending.queue], fun other => ?_⟩
    by_cases same : other = id
    · subst same
      simp [pending.queue]
    · rw [goto_pc_of_ne _ _ same]
      exact iff_of_false (pending.running other) same
  · exact .inl ⟨⟨pending.queue, goto_running pending.running id nofun⟩, nofun⟩
  · exact .inl ⟨⟨pending.queue, pending.running⟩, nofun⟩
  · exact absurd rfl quiet

/-- Once the request is taken, the others find nothing and the worker that took it
does nothing more. -/
theorem Taken.step {state next : ServerState n} {action : ServerAction n} {gone : Fin n}
    (taken : Taken state gone) (stepped : state.step action = some next) (quiet : action ≠ .send) :
    Taken next gone ∧ action ≠ .tryRecv gone ∧ ∀ ok, action ≠ .accept gone ok := by
  have running : ∀ {id pc}, state.pc id = pc → pc ≠ .left → id ≠ gone := by
    rintro id pc here stays rfl
    exact stays (here ▸ (taken.left id).mpr rfl)
  obtain ⟨id, rfl, here, ⟨_, rfl⟩ | ⟨_, rfl⟩⟩ | ⟨id, rfl, here, rfl⟩ | ⟨id, ok, rfl, here, rfl⟩ |
    ⟨value, rfl, _, rfl⟩ | ⟨value, rfl, _, rfl⟩ := step_cases stepped
  · exact ⟨⟨taken.queue, goto_left taken.left (by simp [here]) nofun⟩, nofun, nofun⟩
  · exact ⟨⟨taken.queue, goto_left taken.left (by simp [here]) nofun⟩, nofun, nofun⟩
  · have other := running here nofun
    have left : ∀ worker, (({ state with lock := none, queue := [] } : ServerState n).goto id
        .accept).pc worker = .left ↔ worker = gone := goto_left taken.left (by simp [here]) nofun
    refine ⟨⟨by simp [taken.queue], by simpa [taken.queue] using left⟩, ?_, nofun⟩
    rintro ⟨⟩
    exact other rfl
  · have other := running here nofun
    refine ⟨⟨taken.queue, goto_left taken.left (by simp [here]) nofun⟩, nofun, ?_⟩
    rintro _ ⟨⟩
    exact other rfl
  · exact ⟨⟨taken.queue, taken.left⟩, nofun, nofun⟩
  · exact absurd rfl quiet

/-! ## Runs -/

/-- A run around a single `send`, of `true`. -/
structure SingleRequest (before after : List (ServerAction n)) : Prop where
  before : ∀ action ∈ before, action ≠ .send ∧ action ≠ .lock false
  after : ∀ action ∈ after, action ≠ .send

theorem unasked_init (n : Nat) : Unasked (ServerState.init n) := ⟨rfl, nofun, nofun⟩

/-- When `send` has happened, the request is in the channel. -/
theorem pending_of_run {before after : List (ServerAction n)} {last : ServerState n}
    (single : SingleRequest before after)
    (ran : run ServerState.step (ServerState.init n) (before ++ .send :: after) = some last) :
    ∃ asked, Pending asked ∧ run ServerState.step asked after = some last := by
  obtain ⟨middle, first, rest⟩ := run_append_eq_some.mp ran
  obtain ⟨asked, sent, later⟩ := run_cons_eq_some.mp rest
  have unasked : Unasked middle := run_invariant Unasked
    (fun action member state next here stepped =>
      here.step stepped (single.before action member).1 (single.before action member).2)
    (unasked_init n) first
  exact ⟨asked, unasked.send sent, later⟩

theorem Taken.run {state last : ServerState n} {gone : Fin n} (taken : Taken state gone)
    {actions : List (ServerAction n)} (quiet : ∀ action ∈ actions, action ≠ .send)
    (ran : run ServerState.step state actions = some last) :
    Taken last gone ∧ ∀ action ∈ actions, ∀ ok, action ≠ .accept gone ok := by
  induction actions generalizing state with
  | nil =>
    cases ran
    exact ⟨taken, nofun⟩
  | cons action actions ih =>
    obtain ⟨next, stepped, rest⟩ := run_cons_eq_some.mp ran
    obtain ⟨still, _, idle⟩ := taken.step stepped (quiet action List.mem_cons_self)
    obtain ⟨atEnd, later⟩ := ih still (fun a member => quiet a (List.mem_cons_of_mem _ member)) rest
    exact ⟨atEnd, List.forall_mem_cons.mpr ⟨idle, later⟩⟩

/-- A pending request is taken by the first check, and by nobody else. -/
theorem Pending.run {state last : ServerState n} (pending : Pending state)
    {actions : List (ServerAction n)} (quiet : ∀ action ∈ actions, action ≠ .send)
    (ran : run ServerState.step state actions = some last) :
    (Pending last ∧ ∀ id, .tryRecv id ∉ actions) ∨
      ∃ front id back taken, actions = front ++ .tryRecv id :: back ∧
        (∀ other, .tryRecv other ∉ front) ∧ Taken taken id ∧
        run ServerState.step taken back = some last := by
  induction actions generalizing state with
  | nil =>
    cases ran
    exact .inl ⟨pending, nofun⟩
  | cons action actions ih =>
    obtain ⟨next, stepped, rest⟩ := run_cons_eq_some.mp ran
    rcases pending.step stepped (quiet action List.mem_cons_self) with ⟨still, other⟩ | ⟨id, rfl, taken⟩
    · have later := fun a member => quiet a (List.mem_cons_of_mem action member)
      rcases ih still later rest with ⟨atEnd, none⟩ | ⟨front, id, back, state', rfl, first, taken, tail⟩
      · refine .inl ⟨atEnd, fun id member => ?_⟩
        rcases List.mem_cons.mp member with same | inside
        · exact other id same.symm
        · exact none id inside
      · refine .inr ⟨action :: front, id, back, state', rfl, fun id' member => ?_, taken, tail⟩
        rcases List.mem_cons.mp member with same | inside
        · exact other id' same.symm
        · exact first id' inside
    · exact .inr ⟨[], id, actions, next, rfl, nofun, taken, rest⟩

/-- All workers left, and none accepted a connection after a check of its own that
followed the request. -/
structure ServerStopped (after : List (ServerAction n)) (last : ServerState n) : Prop where
  left : ∀ id, last.pc id = .left
  silent : ∀ id front back, after = front ++ .tryRecv id :: back → .accept id true ∉ back

/-- What follows a check is not before the first check. -/
theorem mem_after_first_check {front back front' back' : List (ServerAction n)} {id id' : Fin n}
    (first : ∀ other, .tryRecv other ∉ front)
    (same : front ++ .tryRecv id :: back = front' ++ .tryRecv id' :: back')
    {action : ServerAction n} (member : action ∈ back') : action ∈ back := by
  rcases List.append_eq_append_iff.mp same with ⟨rest, longer, split⟩ | ⟨rest, shorter, split⟩
  · cases rest with
    | nil =>
      rw [List.nil_append, List.cons.injEq] at split
      exact split.2 ▸ member
    | cons head rest =>
      rw [List.cons_append, List.cons.injEq] at split
      rw [split.2]
      exact List.mem_append_right _ (List.mem_cons_of_mem _ member)
  · cases rest with
    | nil =>
      rw [List.nil_append, List.cons.injEq] at split
      exact split.2 ▸ member
    | cons head rest =>
      rw [List.cons_append, List.cons.injEq] at split
      exact absurd (by rw [shorter, split.1]; simp) (first id')

/-- When every worker has checked since the request, exactly one has left: the
server has stopped if and only if it had a single worker. -/
theorem one_request_stops_server_iff (started : 0 < n) (before after : List (ServerAction n))
    (last : ServerState n) (single : SingleRequest before after)
    (ran : run ServerState.step (ServerState.init n) (before ++ .send :: after) = some last)
    (checked : ∀ id, .tryRecv id ∈ after) : ServerStopped after last ↔ n = 1 := by
  obtain ⟨asked, pending, rest⟩ := pending_of_run single ran
  rcases pending.run single.after rest with
    ⟨_, none⟩ | ⟨front, id, back, state, rfl, first, taken, tail⟩
  · exact absurd (checked ⟨0, started⟩) (none _)
  · obtain ⟨atEnd, idle⟩ := taken.run
      (fun action member => single.after action (by simp [member])) tail
    constructor
    · intro stopped
      refine Classical.byContradiction fun several => ?_
      have one := (atEnd.left ⟨0, started⟩).mp (stopped.left _)
      have other := (atEnd.left ⟨1, by omega⟩).mp (stopped.left _)
      exact absurd (one.trans other.symm) (by simp)
    · rintro rfl
      refine ⟨fun id' => (atEnd.left id').mpr (Subsingleton.elim _ _), ?_⟩
      intro id' front' back' split member
      have inside := mem_after_first_check first split member
      exact idle _ inside true (by rw [Subsingleton.elim id' id])

theorem single_worker_stops :
    ∃ last, run ServerState.step (ServerState.init 1)
        ([.lock true] ++ .send :: [.tryLock 0, .tryRecv 0]) = some last ∧
      ServerStopped [.tryLock 0, .tryRecv 0] last := by
  refine ⟨_, rfl, (one_request_stops_server_iff Nat.one_pos [.lock true] [.tryLock 0, .tryRecv 0] _
    ?_ rfl ?_).mpr rfl⟩
  · constructor <;> simp
  · intro id
    rw [Subsingleton.elim id 0]
    simp

/-- With two workers, both check after the request; the first leaves and the second
accepts a connection. -/
theorem second_worker_goes_on :
    ∃ last, run ServerState.step (ServerState.init 2)
        ([.lock true] ++ .send :: [.tryLock 0, .tryRecv 0, .tryLock 1, .tryRecv 1, .accept 1 true]) =
          some last ∧
      last.pc 0 = .left ∧ last.pc 1 = .check ∧
      ¬ServerStopped [.tryLock 0, .tryRecv 0, .tryLock 1, .tryRecv 1, .accept 1 true] last := by
  refine ⟨_, rfl, by decide, by decide, fun stopped => ?_⟩
  exact stopped.silent 1 [.tryLock 0, .tryRecv 0, .tryLock 1] [.accept 1 true] rfl (by simp)

end WolfEngine.Verified
