import Mathlib.Data.Rat.Defs
import WolfEngine.Stream.Common.Buffer

/-! # Callbacks, errors and addresses

`stream/common/callback.rs` and the standard types that cross it.  Errors are
known by what the loops read of them, their `{:?}` text.
-/

namespace WolfEngine.Stream

/-- `std::net::SocketAddr`. -/
inductive SocketAddr where
  | v4 (ip : UInt32) (port : UInt16)
  | v6 (ip : BitVec 128) (port : UInt16) (flowinfo scopeId : UInt32)
deriving DecidableEq

/-- An `anyhow::Error`. -/
structure Error where
  debug : String
deriving DecidableEq

/-- A `std::io::Error`, with what `?` turns it into; every variant of its `Debug`
output writes something. -/
structure IoError where
  debug : String
  anyhow : Error
  debugNonempty : debug ≠ ""
deriving DecidableEq

/-- `format!("{:?}", res)` of an `Err` whose error prints as `debug`. -/
def debugErr (debug : String) : String := "Err(" ++ debug ++ ")"

theorem debugErr_ne_empty (debug : String) : debugErr debug ≠ "" := by
  unfold debugErr
  intro empty
  exact absurd (String.append_eq_empty_iff.mp empty).2 (by decide)

/-- The `anyhow::Result<()>` a callback answers with. -/
abbrev Verdict := Except Error Unit

/-- `OnMessageCallback`, as it behaves at one call: time in seconds, peer and
buffer give the verdict and the buffer it leaves.  The closure may keep state
between calls, so a loop is given one such behaviour a round. -/
structure OnMessageCallback where
  f : ℚ → SocketAddr → Buffer → Verdict × Buffer

def OnMessageCallback.run (callback : OnMessageCallback) (socketTimeInSecs : ℚ)
    (peerAddress : SocketAddr) (msg : Buffer) : Verdict × Buffer :=
  callback.f socketTimeInSecs peerAddress msg

/-- Going on from the answer of a callback: `is_err()` and otherwise. -/
def answered {α : Type} (answer : Verdict × Buffer) (refused : Error → Buffer → α)
    (agreed : Buffer → α) : α :=
  match answer.1 with
  | .error e => refused e answer.2
  | .ok () => agreed answer.2

/-- `OnSocketCallback`. -/
structure OnSocketCallback where
  f : SocketAddr → Verdict

def OnSocketCallback.run (callback : OnSocketCallback) (arg : SocketAddr) : Verdict :=
  callback.f arg

/-- `OnCloseSocketCallback`. -/
structure OnCloseSocketCallback where
  f : SocketAddr → String → Verdict

def OnCloseSocketCallback.run (callback : OnCloseSocketCallback) (arg1 : SocketAddr)
    (arg2 : String) : Verdict :=
  callback.f arg1 arg2

/-- How the activation of a function that drives a loop has ended so far. -/
inductive Status (α : Type) where
  | running
  | returned (value : α)
  | panicked
  /-- A raw copy ran past its destination; nothing is said about what follows. -/
  | undefined

end WolfEngine.Stream
