import WolfEngine.Library.Transitions

/-! # The main loops and their shutdown

`server_main_loop` of `stream/tcp/tcp_server.rs` and `stream/tcp/tcp_server_fiber.rs`,
as far as the shutdown signal is concerned: workers and senders around one mutex
that guards both ends of an `mpsc` channel.  The fiber `server` starts one worker
for each of `fiber_num_of_workers`; the async one has a single worker.
-/

namespace WolfEngine.Stream

open Transitions

/-- Where a worker is in `server_main_loop`. -/
inductive WorkerPc where
  /-- Before `try_lock`. -/
  | check
  /-- With the lock, before `try_recv`. -/
  | locked
  /-- Before `accept`. -/
  | accept
  /-- After the `break`. -/
  | left
deriving DecidableEq

/-- Who holds the mutex. -/
inductive Holder (n : Nat) where
  | worker (id : Fin n)
  | sender (value : Bool)
deriving DecidableEq

structure ServerState (n : Nat) where
  lock : Option (Holder n)
  queue : List Bool
  pc : Fin n → WorkerPc

inductive ServerAction (n : Nat) where
  /-- `p_shutdown_signal.try_lock()`. -/
  | tryLock (id : Fin n)
  /-- `chan.1.try_recv()`, the release of the lock and `if close { break; }`. -/
  | tryRecv (id : Fin n)
  /-- `accept()`, with whether it yielded a connection. -/
  | accept (id : Fin n) (ok : Bool)
  /-- A sender takes the lock to send `value`. -/
  | lock (value : Bool)
  /-- `chan.0.send(value)` and the release of the lock. -/
  | send
deriving DecidableEq

namespace ServerState

variable {n : Nat}

/-- The workers as `server` starts them, before any signal. -/
def init (n : Nat) : ServerState n := ⟨none, [], fun _ => .check⟩

def goto (state : ServerState n) (id : Fin n) (pc : WorkerPc) : ServerState n :=
  { state with pc := fun j => if j = id then pc else state.pc j }

/-- One action; `none` when it cannot happen. -/
def step (state : ServerState n) : ServerAction n → Option (ServerState n)
  | .tryLock id =>
    if state.pc id = .check then
      match state.lock with
      | none => some ({ state with lock := some (.worker id) }.goto id .locked)
      | some _ => some (state.goto id .accept)
    else none
  | .tryRecv id =>
    if state.pc id = .locked then
      -- an empty channel is no request
      let close := state.queue.head?.getD false
      some ({ state with lock := none, queue := state.queue.tail }.goto id
        (if close then .left else .accept))
    else none
  | .accept id _ => if state.pc id = .accept then some (state.goto id .check) else none
  | .lock value =>
    if state.lock = none then some { state with lock := some (.sender value) } else none
  | .send =>
    match state.lock with
    | some (.sender value) => some { state with lock := none, queue := state.queue ++ [value] }
    | _ => none

end ServerState

end WolfEngine.Stream
