import Mathlib.Algebra.Order.Archimedean.Basic
import Mathlib.Data.Rat.Floor
import WolfEngine.Library.WhileLoop

/-! # The game clock

`system/chrono/gametime.rs`, with its `f64` fields as exact rationals, an
`Instant` as the seconds it stands for, and `u32` counters that wrap, as they do where
overflow is not checked.
-/

namespace WolfEngine.System.Chrono

open WhileLoop

/-- `MAX_DELTA_IN_MILLIS`. -/
def maxDeltaInMillis : ℚ := 60000

structure GameTime where
  lastTime : ℚ
  elapsedSecs : ℚ
  totalSecs : ℚ
  leftOverTicks : ℚ
  frameCount : UInt32
  fps : UInt32
  framesThisSec : UInt32
  secondsCounter : ℚ
  fixedTimeStep : Bool
  targetElapsedSecs : ℚ
deriving DecidableEq

namespace GameTime

def new (now : ℚ) : GameTime where
  lastTime := now
  elapsedSecs := 0
  totalSecs := 0
  leftOverTicks := 0
  frameCount := 0
  fps := 0
  framesThisSec := 0
  secondsCounter := 0
  fixedTimeStep := false
  targetElapsedSecs := 1 / 60

def reset (now : ℚ) (time : GameTime) : GameTime :=
  { time with
    lastTime := now
    leftOverTicks := 0
    fps := 0
    framesThisSec := 0
    secondsCounter := 0 }

def setFixedTimeStep (value : Bool) (time : GameTime) : GameTime :=
  { time with fixedTimeStep := value }

def setTargetElapsedSeconds (value : ℚ) (time : GameTime) : GameTime :=
  { time with targetElapsedSecs := value }

/-- `(current_time - self.last_time).as_secs_f64()`; the difference of two
`Instant`s saturates at zero. -/
def timeDelta (now : ℚ) (time : GameTime) : ℚ := max 0 (now - time.lastTime)

def clampDelta (delta : ℚ) : ℚ := if delta > maxDeltaInMillis then maxDeltaInMillis else delta

/-- A delta very close to the target counts as the target. -/
def snapDelta (target delta : ℚ) : ℚ := if |delta - target| < 4 / 10000 then target else delta

/-- `left_over_ticks >= target_elapsed_secs`. -/
def due (ran : GameTime × Nat) : Bool := ran.1.leftOverTicks ≥ ran.1.targetElapsedSecs

/-- The body of the catch-up loop, with the number of callback runs so far. -/
def catchUp (ran : GameTime × Nat) : GameTime × Nat :=
  let time := ran.1
  ({ time with
      elapsedSecs := time.targetElapsedSecs
      totalSecs := time.totalSecs + time.targetElapsedSecs
      leftOverTicks := time.leftOverTicks - time.targetElapsedSecs
      frameCount := time.frameCount + 1 },
    ran.2 + 1)

/-- The end of a tick: the current framerate.  `x % 1.0` of a positive `x` is its
fractional part. -/
def trackFramerate (lastFrameCount : UInt32) (time : GameTime) : GameTime :=
  let time :=
    { time with framesThisSec := time.framesThisSec + (time.frameCount - lastFrameCount) }
  if time.secondsCounter ≥ 1 then
    { time with
      fps := time.framesThisSec
      framesThisSec := 0
      secondsCounter := Int.fract time.secondsCounter }
  else
    time

/-- `tick_fn` at the instant `now`: the clock and the number of callback runs;
`none` when `fuel` does not suffice for the catch-up loop. -/
def tickFn (fuel : Nat) (now : ℚ) (time : GameTime) : Option (GameTime × Nat) :=
  let delta := time.timeDelta now
  let time := { time with lastTime := now, secondsCounter := time.secondsCounter + delta }
  let delta := clampDelta delta
  let lastFrameCount := time.frameCount
  let ticked :=
    if time.fixedTimeStep then
      let delta := snapDelta time.targetElapsedSecs delta
      whileFuel due catchUp fuel ({ time with leftOverTicks := time.leftOverTicks + delta }, 0)
    else
      some ({ time with
        elapsedSecs := delta
        totalSecs := time.totalSecs + delta
        leftOverTicks := 0
        frameCount := time.frameCount + 1 }, 1)
  ticked.map fun ran => (ran.1.trackFramerate lastFrameCount, ran.2)

end GameTime

end WolfEngine.System.Chrono
