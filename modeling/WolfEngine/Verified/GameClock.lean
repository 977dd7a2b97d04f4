import Mathlib.Algebra.Order.Floor.Semiring
import Mathlib.Tactic.Linarith
import Mathlib.Tactic.NormNum
import Mathlib.Tactic.Ring
import WolfEngine.System.Chrono.GameTime

/-! # Conservation of game time

A fixed-step tick is a division with remainder: the catch-up loop takes the
target out of the leftover as often as it fits, and what it takes out it adds to
the total.  From this the conservation law follows for every history of the
clock.
-/

namespace WolfEngine.Verified

open WolfEngine.System.Chrono WhileLoop GameTime

/-! ## The catch-up loop -/

/-- The clock after `count` rounds of the catch-up loop. -/
def caughtUp (count : Nat) (time : GameTime) : GameTime :=
  { time with
    elapsedSecs := if count = 0 then time.elapsedSecs else time.targetElapsedSecs
    totalSecs := time.totalSecs + count * time.targetElapsedSecs
    leftOverTicks := time.leftOverTicks - count * time.targetElapsedSecs
    frameCount := time.frameCount + UInt32.ofNat count }

theorem catchUp_iterate (count : Nat) (time : GameTime) (runs : Nat) :
    catchUp^[count] (time, runs) = (caughtUp count time, runs + count) := by
  induction count with
  | zero => simp [caughtUp]
  | succ count ih =>
    have total : time.totalSecs + count * time.targetElapsedSecs + time.targetElapsedSecs =
        time.totalSecs + (count + 1) * time.targetElapsedSecs := by ring
    have left : time.leftOverTicks - count * time.targetElapsedSecs - time.targetElapsedSecs =
        time.leftOverTicks - (count + 1) * time.targetElapsedSecs := by ring
    have frames : time.frameCount + UInt32.ofNat count + 1 =
        time.frameCount + UInt32.ofNat (count + 1) := by
      rw [UInt32.ofNat_add, ← UInt32.add_assoc]
      rfl
    rw [Function.iterate_succ_apply', ih]
    simp only [catchUp, caughtUp, Nat.cast_succ, total, left, frames, Nat.succ_ne_zero, if_false,
      Nat.add_assoc]

/-- A further round is due as long as the target fits into the leftover. -/
theorem due_iterate_iff {time : GameTime} (positive : 0 < time.targetElapsedSecs)
    (nonneg : 0 ≤ time.leftOverTicks) (count runs : Nat) :
    due (catchUp^[count] (time, runs)) = true ↔
      count < ⌊time.leftOverTicks / time.targetElapsedSecs⌋₊ := by
  rw [catchUp_iterate, ← Nat.succ_le_iff, Nat.le_floor_iff (div_nonneg nonneg positive.le),
    le_div_iff₀ positive]
  simp only [due, caughtUp, decide_eq_true_eq, ge_iff_le, Nat.cast_succ]
  constructor <;> intro fits <;> linarith

theorem catchUp_iterates {time : GameTime} (positive : 0 < time.targetElapsedSecs)
    (nonneg : 0 ≤ time.leftOverTicks) (runs : Nat) :
    Iterates due catchUp (time, runs) ⌊time.leftOverTicks / time.targetElapsedSecs⌋₊ where
  goes i below := (due_iterate_iff positive nonneg i runs).mpr below
  stops := by
    have ends := due_iterate_iff positive nonneg ⌊time.leftOverTicks / time.targetElapsedSecs⌋₊ runs
    simpa using ends

/-- What is left over is a remainder. -/
theorem caughtUp_leftOver {time : GameTime} (positive : 0 < time.targetElapsedSecs)
    (nonneg : 0 ≤ time.leftOverTicks) :
    0 ≤ (caughtUp ⌊time.leftOverTicks / time.targetElapsedSecs⌋₊ time).leftOverTicks ∧
      (caughtUp ⌊time.leftOverTicks / time.targetElapsedSecs⌋₊ time).leftOverTicks <
        time.targetElapsedSecs := by
  have quotient := div_nonneg nonneg positive.le
  have below := (le_div_iff₀ positive).mp (Nat.floor_le quotient)
  have above := (div_lt_iff₀ positive).mp (Nat.lt_floor_add_one (time.leftOverTicks / time.targetElapsedSecs))
  simp only [caughtUp]
  constructor <;> linarith

/-! ## Ticks -/

section Framerate

variable (last : UInt32) (time : GameTime)

@[simp] theorem trackFramerate_leftOverTicks :
    (time.trackFramerate last).leftOverTicks = time.leftOverTicks := by
  simp only [trackFramerate]
  split <;> rfl

@[simp] theorem trackFramerate_totalSecs :
    (time.trackFramerate last).totalSecs = time.totalSecs := by
  simp only [trackFramerate]
  split <;> rfl

@[simp] theorem trackFramerate_frameCount :
    (time.trackFramerate last).frameCount = time.frameCount := by
  simp only [trackFramerate]
  split <;> rfl

@[simp] theorem trackFramerate_lastTime :
    (time.trackFramerate last).lastTime = time.lastTime := by
  simp only [trackFramerate]
  split <;> rfl

@[simp] theorem trackFramerate_targetElapsedSecs :
    (time.trackFramerate last).targetElapsedSecs = time.targetElapsedSecs := by
  simp only [trackFramerate]
  split <;> rfl

@[simp] theorem trackFramerate_fixedTimeStep :
    (time.trackFramerate last).fixedTimeStep = time.fixedTimeStep := by
  simp only [trackFramerate]
  split <;> rfl

end Framerate

/-- `tick_fn` at `now` ends, in `time'` and after `runs` runs of the callback. -/
def Ticks (now : ℚ) (time time' : GameTime) (runs : Nat) : Prop :=
  ∃ fuel, time.tickFn fuel now = some (time', runs)

/-- The delta that a fixed-step tick accounts for. -/
def fixedDelta (now : ℚ) (time : GameTime) : ℚ :=
  snapDelta time.targetElapsedSecs (clampDelta (time.timeDelta now))

/-- What every operation keeps of a clock. -/
structure Sound (time : GameTime) : Prop where
  target : 0 < time.targetElapsedSecs
  leftOver : 0 ≤ time.leftOverTicks

section Ticking

variable {now : ℚ} {time time' : GameTime} {runs : Nat}

theorem timeDelta_nonneg (now : ℚ) (time : GameTime) : 0 ≤ time.timeDelta now := le_max_left _ _

theorem clampDelta_nonneg {delta : ℚ} (nonneg : 0 ≤ delta) : 0 ≤ clampDelta delta := by
  unfold clampDelta
  split
  · norm_num [maxDeltaInMillis]
  · exact nonneg

theorem fixedDelta_nonneg (sound : Sound time) (now : ℚ) : 0 ≤ fixedDelta now time := by
  unfold fixedDelta snapDelta
  split
  · exact sound.target.le
  · exact clampDelta_nonneg (timeDelta_nonneg now time)

/-- The clock at the head of the catch-up loop. -/
def advanced (now : ℚ) (time : GameTime) : GameTime :=
  { time with
    lastTime := now
    secondsCounter := time.secondsCounter + time.timeDelta now
    leftOverTicks := time.leftOverTicks + fixedDelta now time }

/-- How often a fixed-step tick runs the callback. -/
def fixedRuns (now : ℚ) (time : GameTime) : Nat :=
  ⌊(time.leftOverTicks + fixedDelta now time) / time.targetElapsedSecs⌋₊

theorem tickFn_fixed (fuel : Nat) (fixed : time.fixedTimeStep = true) :
    time.tickFn fuel now = (whileFuel due catchUp fuel (advanced now time, 0)).map
      fun ran => (ran.1.trackFramerate time.frameCount, ran.2) := by
  simp only [tickFn, fixed, if_true, advanced, fixedDelta]

theorem ticks_fixed_iff (fixed : time.fixedTimeStep = true) (sound : Sound time) :
    Ticks now time time' runs ↔
      runs = fixedRuns now time ∧
        time' = (caughtUp runs (advanced now time)).trackFramerate time.frameCount := by
  have nonneg : 0 ≤ (advanced now time).leftOverTicks :=
    add_nonneg sound.leftOver (fixedDelta_nonneg sound now)
  have positive : 0 < (advanced now time).targetElapsedSecs := sound.target
  have iterates : Iterates due catchUp (advanced now time, 0) (fixedRuns now time) :=
    catchUp_iterates positive nonneg 0
  constructor
  · rintro ⟨fuel, ended⟩
    rw [tickFn_fixed fuel fixed, Option.map_eq_some_iff] at ended
    obtain ⟨ran, looped, same⟩ := ended
    obtain ⟨count, counted, rfl⟩ := iterates_of_whileFuel looped
    have determined := counted.unique iterates
    subst determined
    rw [catchUp_iterate, Nat.zero_add] at same
    cases same
    exact ⟨rfl, rfl⟩
  · rintro ⟨rfl, rfl⟩
    refine ⟨fixedRuns now time + 1, ?_⟩
    rw [tickFn_fixed _ fixed, iterates.whileFuel (Nat.lt_succ_self _), catchUp_iterate,
      Nat.zero_add]
    rfl

theorem ticks_variable_iff (variable_ : time.fixedTimeStep = false) :
    Ticks now time time' runs ↔
      runs = 1 ∧ time' = trackFramerate time.frameCount
        { time with
          lastTime := now
          secondsCounter := time.secondsCounter + time.timeDelta now
          elapsedSecs := clampDelta (time.timeDelta now)
          totalSecs := time.totalSecs + clampDelta (time.timeDelta now)
          leftOverTicks := 0
          frameCount := time.frameCount + 1 } := by
  simp only [Ticks, tickFn, variable_, Bool.false_eq_true, if_false, Option.map_some,
    Option.some.injEq, Prod.mk.injEq, exists_const, eq_comm (a := time'), eq_comm (a := runs)]
  exact and_comm

/-- The wall-clock delta between two readings. -/
def wallDelta (instant now : ℚ) : ℚ := max 0 (now - instant)

/-- What a fixed-step tick at `now` does, the clock having been read at `instant` before. -/
structure FixedTick (instant now : ℚ) (time time' : GameTime) (runs : Nat) : Prop where
  leftOver : 0 ≤ time'.leftOverTicks ∧ time'.leftOverTicks < time'.targetElapsedSecs
  callbacks : runs = ⌊(time.leftOverTicks +
    snapDelta time.targetElapsedSecs (clampDelta (wallDelta instant now))) /
      time.targetElapsedSecs⌋₊
  conserves : time'.totalSecs + time'.leftOverTicks = time.totalSecs + time.leftOverTicks +
    snapDelta time.targetElapsedSecs (clampDelta (wallDelta instant now))
  lastTime : time'.lastTime = now

/-- What a variable-step tick does. -/
structure VariableTick (instant now : ℚ) (time time' : GameTime) (runs : Nat) : Prop where
  callbacks : runs = 1
  total : time'.totalSecs = time.totalSecs + clampDelta (wallDelta instant now)
  leftOver : time'.leftOverTicks = 0
  lastTime : time'.lastTime = now

theorem Ticks.leftOver (ticks : Ticks now time time' runs) (sound : Sound time)
    (fixed : time.fixedTimeStep = true) :
    0 ≤ time'.leftOverTicks ∧ time'.leftOverTicks < time'.targetElapsedSecs := by
  obtain ⟨rfl, rfl⟩ := (ticks_fixed_iff fixed sound).mp ticks
  have nonneg : 0 ≤ (advanced now time).leftOverTicks :=
    add_nonneg sound.leftOver (fixedDelta_nonneg sound now)
  have positive : 0 < (advanced now time).targetElapsedSecs := sound.target
  rw [trackFramerate_leftOverTicks, trackFramerate_targetElapsedSecs]
  exact caughtUp_leftOver positive nonneg

theorem Ticks.callbacks (ticks : Ticks now time time' runs) (sound : Sound time)
    (fixed : time.fixedTimeStep = true) :
    runs = ⌊(time.leftOverTicks + fixedDelta now time) / time.targetElapsedSecs⌋₊ :=
  ((ticks_fixed_iff fixed sound).mp ticks).1

theorem Ticks.conserves (ticks : Ticks now time time' runs) (sound : Sound time)
    (fixed : time.fixedTimeStep = true) :
    time'.totalSecs + time'.leftOverTicks =
      time.totalSecs + time.leftOverTicks + fixedDelta now time := by
  obtain ⟨rfl, rfl⟩ := (ticks_fixed_iff fixed sound).mp ticks
  simp only [trackFramerate_totalSecs, trackFramerate_leftOverTicks, caughtUp, advanced]
  ring

/-- Every tick reads the clock. -/
theorem Ticks.lastTime (ticks : Ticks now time time' runs) (sound : Sound time) :
    time'.lastTime = now := by
  cases mode : time.fixedTimeStep with
  | true =>
    obtain ⟨_, rfl⟩ := (ticks_fixed_iff mode sound).mp ticks
    simp [caughtUp, advanced]
  | false =>
    obtain ⟨_, rfl⟩ := (ticks_variable_iff mode).mp ticks
    simp

theorem Ticks.fixed (ticks : Ticks now time time' runs) (sound : Sound time)
    (fixed : time.fixedTimeStep = true) : FixedTick time.lastTime now time time' runs where
  leftOver := ticks.leftOver sound fixed
  callbacks := ticks.callbacks sound fixed
  conserves := ticks.conserves sound fixed
  lastTime := ticks.lastTime sound

theorem Ticks.variable (ticks : Ticks now time time' runs) (variable_ : time.fixedTimeStep = false) :
    VariableTick time.lastTime now time time' runs := by
  obtain ⟨rfl, rfl⟩ := (ticks_variable_iff variable_).mp ticks
  exact ⟨rfl, by simp [wallDelta, timeDelta], by simp, by simp⟩

/-- Each run of the callback counts one frame. -/
theorem Ticks.frameCount (ticks : Ticks now time time' runs) (sound : Sound time) :
    time'.frameCount = time.frameCount + UInt32.ofNat runs := by
  cases mode : time.fixedTimeStep with
  | true =>
    obtain ⟨_, rfl⟩ := (ticks_fixed_iff mode sound).mp ticks
    exact trackFramerate_frameCount _ _
  | false =>
    obtain ⟨rfl, rfl⟩ := (ticks_variable_iff mode).mp ticks
    exact trackFramerate_frameCount _ _

/-- A tick keeps the mode and the target. -/
theorem Ticks.settings (ticks : Ticks now time time' runs) (sound : Sound time) :
    time'.fixedTimeStep = time.fixedTimeStep ∧
      time'.targetElapsedSecs = time.targetElapsedSecs := by
  cases mode : time.fixedTimeStep with
  | true =>
    obtain ⟨_, rfl⟩ := (ticks_fixed_iff mode sound).mp ticks
    simp [caughtUp, advanced, mode]
  | false =>
    obtain ⟨_, rfl⟩ := (ticks_variable_iff mode).mp ticks
    simp [mode]

theorem Ticks.sound (ticks : Ticks now time time' runs) (sound : Sound time) : Sound time' := by
  refine ⟨(ticks.settings sound).2 ▸ sound.target, ?_⟩
  cases mode : time.fixedTimeStep with
  | true => exact (ticks.fixed sound mode).leftOver.1
  | false => exact (ticks.variable mode).leftOver.ge

/-- Every tick of a sound clock ends. -/
theorem ticks_exists (now : ℚ) (sound : Sound time) :
    ∃ time' runs, Ticks now time time' runs := by
  cases mode : time.fixedTimeStep with
  | true => exact ⟨_, _, (ticks_fixed_iff mode sound).mpr ⟨rfl, rfl⟩⟩
  | false => exact ⟨_, _, (ticks_variable_iff mode).mpr ⟨rfl, rfl⟩⟩

end Ticking

/-! ## Histories -/

/-- The clocks that operations lead to from a new one, with the instant at which the clock was
read last and how often the callback ran on the way. -/
inductive History : GameTime → ℚ → Nat → Prop where
  | new (now : ℚ) : History (GameTime.new now) now 0
  | tickFn {time time' : GameTime} {instant : ℚ} {total runs : Nat} (now : ℚ)
      (before : History time instant total) (ticks : Ticks now time time' runs) :
      History time' now (total + runs)
  | reset {time : GameTime} {instant : ℚ} {total : Nat} (now : ℚ)
      (before : History time instant total) : History (time.reset now) now total
  | setFixedTimeStep {time : GameTime} {instant : ℚ} {total : Nat} (value : Bool)
      (before : History time instant total) : History (time.setFixedTimeStep value) instant total
  | setTargetElapsedSeconds {time : GameTime} {instant : ℚ} {total : Nat} (value : ℚ)
      (positive : 0 < value) (before : History time instant total) :
      History (time.setTargetElapsedSeconds value) instant total

section Histories

variable {time : GameTime} {instant : ℚ} {total : Nat}

theorem History.sound (history : History time instant total) : Sound time := by
  induction history with
  | new now => exact ⟨by norm_num [GameTime.new], le_rfl⟩
  | tickFn now _ ticks before => exact ticks.sound before
  | reset now _ before => exact ⟨before.target, le_rfl⟩
  | setFixedTimeStep value _ before => exact ⟨before.target, before.leftOver⟩
  | setTargetElapsedSeconds value positive _ before => exact ⟨positive, before.leftOver⟩

/-- The clock knows when it was read last. -/
theorem History.lastTime (history : History time instant total) : time.lastTime = instant := by
  induction history with
  | new now => rfl
  | tickFn now before ticks _ => exact ticks.lastTime before.sound
  | reset now _ _ => rfl
  | setFixedTimeStep value _ read => exact read
  | setTargetElapsedSeconds value positive _ read => exact read

theorem History.frameCount (history : History time instant total) :
    time.frameCount = UInt32.ofNat total := by
  induction history with
  | new now => rfl
  | tickFn now before ticks counted =>
    rw [ticks.frameCount before.sound, counted, UInt32.ofNat_add]
  | reset now _ counted => exact counted
  | setFixedTimeStep value _ counted => exact counted
  | setTargetElapsedSeconds value positive _ counted => exact counted

end Histories

/-! ## Consecutive fixed-step ticks -/

/-- The real deltas between instants, from the one before them on. -/
def gaps : ℚ → List ℚ → List ℚ
  | _, [] => []
  | instant, now :: nows => (now - instant) :: gaps now nows

/-- Fixed-step ticks at these instants one after the other, in fixed-step mode. -/
inductive FixedTicks : GameTime → List ℚ → GameTime → Prop where
  | nil (time : GameTime) : FixedTicks time [] time
  | cons {time time' time'' : GameTime} {runs : Nat} {nows : List ℚ} (now : ℚ)
      (fixed : time.fixedTimeStep = true) (ticks : Ticks now time time' runs)
      (rest : FixedTicks time' nows time'') : FixedTicks time (now :: nows) time''

/-- No delta is negative or clamped. -/
def Unclamped (deltas : List ℚ) : Prop :=
  ∀ delta ∈ deltas, 0 ≤ delta ∧ delta ≤ maxDeltaInMillis

/-- Snapping changes an unclamped delta by less than the snapping distance. -/
theorem fixedDelta_near {now : ℚ} {time : GameTime} (forward : 0 ≤ now - time.lastTime)
    (unclamped : now - time.lastTime ≤ maxDeltaInMillis) :
    |fixedDelta now time - (now - time.lastTime)| < 4 / 10000 := by
  have real : clampDelta (time.timeDelta now) = now - time.lastTime := by
    rw [timeDelta, max_eq_right forward, clampDelta, if_neg (not_lt.mpr unclamped)]
  rw [fixedDelta, real, snapDelta]
  split
  next near => rwa [abs_sub_comm]
  next far => norm_num

theorem FixedTicks.drift {time time' : GameTime} {nows : List ℚ}
    (ran : FixedTicks time nows time') (sound : Sound time)
    (unclamped : Unclamped (gaps time.lastTime nows)) :
    |(time'.totalSecs + time'.leftOverTicks) - (time.totalSecs + time.leftOverTicks) -
        (gaps time.lastTime nows).sum| ≤ 4 / 10000 * nows.length ∧
      (nows ≠ [] →
        |(time'.totalSecs + time'.leftOverTicks) - (time.totalSecs + time.leftOverTicks) -
          (gaps time.lastTime nows).sum| < 4 / 10000 * nows.length) := by
  induction ran with
  | nil time => simp [gaps]
  | @cons time middle last runs nows now fixed ticks rest ih =>
    have read := ticks.lastTime sound
    rw [gaps, Unclamped, List.forall_mem_cons] at unclamped
    have near := fixedDelta_near unclamped.1.1 unclamped.1.2
    have later := (ih (ticks.sound sound) (read.symm ▸ unclamped.2)).1
    rw [read] at later
    have conserved := ticks.conserves sound fixed
    have split : (last.totalSecs + last.leftOverTicks) - (time.totalSecs + time.leftOverTicks) -
        (gaps time.lastTime (now :: nows)).sum =
        (fixedDelta now time - (now - time.lastTime)) +
          ((last.totalSecs + last.leftOverTicks) - (middle.totalSecs + middle.leftOverTicks) -
            (gaps now nows).sum) := by
      rw [gaps, List.sum_cons]
      linarith
    have strict : |(last.totalSecs + last.leftOverTicks) - (time.totalSecs + time.leftOverTicks) -
        (gaps time.lastTime (now :: nows)).sum| < 4 / 10000 * (now :: nows).length := by
      rw [split, List.length_cons, Nat.cast_succ]
      have triangle := abs_add_le (fixedDelta now time - (now - time.lastTime))
        ((last.totalSecs + last.leftOverTicks) - (middle.totalSecs + middle.leftOverTicks) -
          (gaps now nows).sum)
      linarith
    exact ⟨strict.le, fun _ => strict⟩

/-- The game clock conserves time, after every history of its operations. -/
theorem game_clock_conserves {time : GameTime} {instant : ℚ} {total : Nat}
    (history : History time instant total) :
    0 ≤ time.leftOverTicks ∧ time.frameCount.toNat = total % 2 ^ 32 ∧
    (∀ now, ∃ time' runs, Ticks now time time' runs) ∧
    (∀ now time' runs, Ticks now time time' runs →
      (time.fixedTimeStep = true → FixedTick instant now time time' runs) ∧
      (time.fixedTimeStep = false → VariableTick instant now time time' runs) ∧
      (time'.frameCount - time.frameCount).toNat = runs % 2 ^ 32) ∧
    (∀ nows time', FixedTicks time nows time' → Unclamped (gaps instant nows) → nows ≠ [] →
      |(time'.totalSecs + time'.leftOverTicks) - (time.totalSecs + time.leftOverTicks) -
        (gaps instant nows).sum| < 4 / 10000 * nows.length) := by
  have sound := history.sound
  obtain rfl := history.lastTime
  refine ⟨sound.leftOver, ?_, fun now => ticks_exists now sound, ?_, ?_⟩
  · rw [history.frameCount, UInt32.toNat_ofNat']
  · intro now time' runs ticks
    refine ⟨ticks.fixed sound, ticks.variable, ?_⟩
    rw [ticks.frameCount sound, UInt32.add_comm, UInt32.add_sub_cancel, UInt32.toNat_ofNat']
  · exact fun nows time' ran unclamped => (ran.drift sound unclamped).2

/-- A new clock in fixed-step mode. -/
def fixedClock : GameTime := (GameTime.new 0).setFixedTimeStep true

theorem tenth_of_second_unchanged :
    snapDelta fixedClock.targetElapsedSecs (clampDelta (wallDelta 0 (1 / 10))) = 1 / 10 := by
  norm_num [snapDelta, clampDelta, wallDelta, fixedClock, GameTime.new, setFixedTimeStep,
    maxDeltaInMillis, abs_lt]

/-- A tenth of a second at 60 frames a second. -/
theorem tenth_of_second_runs_six_times :
    ∃ time', Ticks (1 / 10) fixedClock time' 6 ∧ time'.totalSecs + time'.leftOverTicks = 1 / 10 := by
  have history : History fixedClock 0 0 := .setFixedTimeStep true (.new 0)
  obtain ⟨_, _, ends, ticked, _⟩ := game_clock_conserves history
  obtain ⟨time', runs, ticks⟩ := ends (1 / 10)
  have fixed := (ticked (1 / 10) time' runs ticks).1 rfl
  have six : runs = 6 := by
    rw [fixed.callbacks, tenth_of_second_unchanged, Nat.floor_eq_iff] <;>
      norm_num [fixedClock, GameTime.new, setFixedTimeStep]
  refine ⟨time', six ▸ ticks, ?_⟩
  rw [fixed.conserves, tenth_of_second_unchanged]
  norm_num [fixedClock, GameTime.new, setFixedTimeStep]

end WolfEngine.Verified
