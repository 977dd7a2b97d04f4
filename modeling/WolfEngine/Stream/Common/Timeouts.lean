import WolfEngine.Stream.Common.Callback

/-! # Timeouts

`stream/common/timeouts.rs`.  A timeout is configured as an `f64`; every loop
compares it with `0.0` and, when it is larger, races its operation against a
`sleep` of that many seconds with `tokio::select!`.
-/

namespace WolfEngine.Stream

/-- The values of an `f64` that a timeout can be set to. -/
inductive F64 where
  | finite (value : ℚ)
  | infinity (negative : Bool)
  | nan
deriving DecidableEq

/-- `value > 0.0`. -/
def F64.isPositive : F64 → Bool
  | .finite value => 0 < value
  | .infinity negative => !negative
  | .nan => false

/-- `Duration::from_secs_f64`, in seconds; `none` is its panic on a negative, an
infinite, a NaN or a too large value. -/
def fromSecsF64 : F64 → Option ℚ
  | .finite value => if 0 ≤ value ∧ value < 2 ^ 64 then some value else none
  | _ => none

/-- What became of the `sleep` branch of one `select!`.  The branches are polled
in random order, so it may not have been polled at all. -/
inductive Sleep where
  | unpolled
  | pending
  | elapsed
deriving DecidableEq

/-- `if timeout > 0.0 { select! { timeout_for_..(timeout), op } } else { op }`.
The duration is only built when the sleep is polled; `none` is its panic. -/
def selectTimeout {α : Type} (timeoutInSecs : F64) (sleep : Sleep) (timedOut op : α) : Option α :=
  if timeoutInSecs.isPositive then
    match sleep with
    | .unpolled => some op
    | .pending => (fromSecsF64 timeoutInSecs).map fun _ => op
    | .elapsed => (fromSecsF64 timeoutInSecs).map fun _ => timedOut
  else
    some op

/-- Without a positive timeout there is no sleep to lose against. -/
theorem selectTimeout_of_not_positive {α : Type} {timeoutInSecs : F64}
    (unset : timeoutInSecs.isPositive = false) (sleep : Sleep) (timedOut op : α) :
    selectTimeout timeoutInSecs sleep timedOut op = some op := by
  simp [selectTimeout, unset]

/-- The error of `std::io::Error::new(ErrorKind::TimedOut, message)`. -/
def timedOutError (message : String) : IoError where
  debug := "Custom \x7b kind: TimedOut, error: \"" ++ message ++ "\" \x7d"
  anyhow := ⟨message⟩
  debugNonempty := by simp

/-- `timeout_for_read`. -/
def timeoutForRead : IoError := timedOutError "timeout for read from tcp socket reached"

end WolfEngine.Stream
