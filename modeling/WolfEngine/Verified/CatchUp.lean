import WolfEngine.Verified.GameClock

/-! # The catch-up loop of the game clock

`set_target_elapsed_seconds` takes every number, so a fixed-step tick may find a
target that is not positive: then the leftover never falls below it and the
catch-up loop has no end.  With a positive target the loop ends, after as many
rounds as the target fits into what the clamp lets through.
-/

namespace WolfEngine.Verified

open WolfEngine.System.Chrono WhileLoop GameTime

/-- The clocks that the operations of `GameTime` lead to, with any target. -/
inductive Reachable : GameTime → Prop where
  | new (now : ℚ) : Reachable (GameTime.new now)
  | tickFn {time time' : GameTime} {runs : Nat} (now : ℚ) (before : Reachable time)
      (ticks : Ticks now time time' runs) : Reachable time'
  | reset {time : GameTime} (now : ℚ) (before : Reachable time) : Reachable (time.reset now)
  | setFixedTimeStep {time : GameTime} (value : Bool) (before : Reachable time) :
      Reachable (time.setFixedTimeStep value)
  | setTargetElapsedSeconds {time : GameTime} (value : ℚ) (before : Reachable time) :
      Reachable (time.setTargetElapsedSeconds value)

/-! ## Ticks that end -/

/-- A target that is due and takes nothing out of the leftover. -/
structure Endless (ran : GameTime × Nat) : Prop where
  fits : ran.1.targetElapsedSecs ≤ ran.1.leftOverTicks
  nonpos : ran.1.targetElapsedSecs ≤ 0

theorem Endless.due {ran : GameTime × Nat} (endless : Endless ran) : GameTime.due ran = true := by
  simpa [GameTime.due] using endless.fits

theorem Endless.catchUp {ran : GameTime × Nat} (endless : Endless ran) :
    Endless (GameTime.catchUp ran) where
  fits := by
    have fits := endless.fits
    have nonpos := endless.nonpos
    simp only [GameTime.catchUp]
    linarith
  nonpos := endless.nonpos

theorem Endless.runs_out {ran : GameTime × Nat} (endless : Endless ran) (fuel : Nat) :
    whileFuel GameTime.due GameTime.catchUp fuel ran = none :=
  whileFuel_eq_none Endless (fun _ => Endless.due) (fun _ => Endless.catchUp) endless fuel

section Ending

variable {now : ℚ} {time time' : GameTime} {runs : Nat}

/-- At the head of the catch-up loop a target that is not positive is due. -/
theorem advanced_endless (now : ℚ) (leftOver : 0 ≤ time.leftOverTicks)
    (nonpos : time.targetElapsedSecs ≤ 0) : Endless (advanced now time, 0) where
  fits := by
    show time.targetElapsedSecs ≤ time.leftOverTicks + fixedDelta now time
    have clamped := clampDelta_nonneg (timeDelta_nonneg now time)
    simp only [fixedDelta, snapDelta]
    split <;> linarith
  nonpos := nonpos

theorem not_ticks_of_nonpos (fixed : time.fixedTimeStep = true)
    (leftOver : 0 ≤ time.leftOverTicks) (nonpos : time.targetElapsedSecs ≤ 0) :
    ¬ Ticks now time time' runs := by
  intro ⟨fuel, ended⟩
  rw [tickFn_fixed fuel fixed, (advanced_endless now leftOver nonpos).runs_out] at ended
  cases ended

/-- Where a fixed-step tick ends, its target was positive. -/
theorem Ticks.positive (ticks : Ticks now time time' runs) (fixed : time.fixedTimeStep = true)
    (leftOver : 0 ≤ time.leftOverTicks) : 0 < time.targetElapsedSecs := by
  apply lt_of_not_ge
  intro nonpos
  exact not_ticks_of_nonpos fixed leftOver nonpos ticks

theorem Ticks.leftOver_nonneg (ticks : Ticks now time time' runs)
    (leftOver : 0 ≤ time.leftOverTicks) : 0 ≤ time'.leftOverTicks := by
  cases mode : time.fixedTimeStep with
  | true => exact (ticks.fixed ⟨ticks.positive mode leftOver, leftOver⟩ mode).leftOver.1
  | false => exact (ticks.variable mode).leftOver.ge

theorem Reachable.leftOver (reachable : Reachable time) : 0 ≤ time.leftOverTicks := by
  induction reachable with
  | new now => exact le_rfl
  | tickFn now _ ticks leftOver => exact ticks.leftOver_nonneg leftOver
  | reset now _ _ => exact le_rfl
  | setFixedTimeStep value _ leftOver => exact leftOver
  | setTargetElapsedSeconds value _ leftOver => exact leftOver

/-- A fixed-step tick ends exactly where the target is positive. -/
theorem fixed_tick_ends_iff (reachable : Reachable time) (fixed : time.fixedTimeStep = true)
    (now : ℚ) : (∃ time' runs, Ticks now time time' runs) ↔ 0 < time.targetElapsedSecs := by
  constructor
  · intro ⟨time', runs, ticks⟩
    exact ticks.positive fixed reachable.leftOver
  · intro positive
    exact ticks_exists now ⟨positive, reachable.leftOver⟩

end Ending

theorem fixedClock_reachable (target : ℚ) :
    Reachable (fixedClock.setTargetElapsedSeconds target) :=
  .setTargetElapsedSeconds target (.setFixedTimeStep true (.new 0))

/-- A tick of the default sixtieth of a second ends. -/
theorem sixtieth_tick_ends :
    ∃ time' runs, Ticks 1 (fixedClock.setTargetElapsedSeconds (1 / 60)) time' runs := by
  have reachable := fixedClock_reachable (1 / 60)
  apply (fixed_tick_ends_iff reachable rfl 1).mpr
  norm_num [setTargetElapsedSeconds]

/-- A target of zero is taken, and the next tick does not end. -/
theorem zero_target_never_ends :
    Reachable (fixedClock.setTargetElapsedSeconds 0) ∧
      (fixedClock.setTargetElapsedSeconds 0).fixedTimeStep = true ∧
      ¬ ∃ time' runs, Ticks 1 (fixedClock.setTargetElapsedSeconds 0) time' runs := by
  refine ⟨fixedClock_reachable 0, rfl, ?_⟩
  intro ⟨time', runs, ticks⟩
  exact not_ticks_of_nonpos rfl le_rfl le_rfl ticks

/-! ## Long pauses -/

/-- What a tick after a pause should keep to: it accounts for a minute at most, or
for one target that is longer. -/
structure PauseBounded (now : ℚ) (time : GameTime) : Prop where
  advances : ∀ time' runs, Ticks now time time' runs →
    time'.totalSecs + time'.leftOverTicks - (time.totalSecs + time.leftOverTicks) ≤
      max time.targetElapsedSecs 60
  callbacks : ∀ time' runs, Ticks now time time' runs →
    runs ≤ ⌊(time.leftOverTicks + max time.targetElapsedSecs 60) / time.targetElapsedSecs⌋₊
  minute : time.targetElapsedSecs ≤ 60 → ∀ time' runs, Ticks now time time' runs →
    time'.totalSecs + time'.leftOverTicks - (time.totalSecs + time.leftOverTicks) ≤ 60 ∧
      runs ≤ ⌊(time.leftOverTicks + 60) / time.targetElapsedSecs⌋₊

section Pausing

variable {now : ℚ} {time : GameTime}

/-- The delta that a tick accounts for, after the clamp and the snapping, stays
within the bound. -/
theorem fixedDelta_le_iff (now : ℚ) (time : GameTime) :
    fixedDelta now time ≤ max time.targetElapsedSecs 60 ↔
      time.timeDelta now ≤ 60 ∨
        min (time.timeDelta now) maxDeltaInMillis < time.targetElapsedSecs + 4 / 10000 := by
  have clamped : clampDelta (time.timeDelta now) = min (time.timeDelta now) maxDeltaInMillis := by
    simp only [clampDelta]
    split
    next long => exact (min_eq_right long.le).symm
    next short => exact (min_eq_left (not_lt.mp short)).symm
  have within : min (time.timeDelta now) maxDeltaInMillis ≤ 60 ↔ time.timeDelta now ≤ 60 := by
    simp [maxDeltaInMillis]
    norm_num
  simp only [fixedDelta, clamped, snapDelta, ← within]
  split
  next near =>
    rw [abs_lt] at near
    constructor
    · intro _
      right
      linarith
    · intro _
      exact le_max_left _ _
  next far =>
    rw [le_max_iff]
    constructor
    · intro bounded
      cases bounded with
      | inl below => right; linarith
      | inr below => exact Or.inl below
    · intro bounded
      cases bounded with
      | inl below => exact Or.inr below
      | inr below =>
        left
        apply le_of_not_gt
        intro above
        apply far
        rw [abs_lt]
        constructor <;> linarith

/-- A tick keeps to the bound exactly where the pause is at most a minute, or what
the clamp leaves of it is below or next to the target. -/
theorem pause_bounded_iff (reachable : Reachable time) (fixed : time.fixedTimeStep = true)
    (positive : 0 < time.targetElapsedSecs) (now : ℚ) :
    PauseBounded now time ↔
      time.timeDelta now ≤ 60 ∨
        min (time.timeDelta now) maxDeltaInMillis < time.targetElapsedSecs + 4 / 10000 := by
  have sound : Sound time := ⟨positive, reachable.leftOver⟩
  rw [← fixedDelta_le_iff]
  constructor
  · intro bounded
    obtain ⟨time', runs, ticks⟩ := ticks_exists now sound
    have advances := bounded.advances time' runs ticks
    rw [ticks.conserves sound fixed] at advances
    linarith
  · intro below
    have most : (time.leftOverTicks + fixedDelta now time) / time.targetElapsedSecs ≤
        (time.leftOverTicks + max time.targetElapsedSecs 60) / time.targetElapsedSecs := by
      apply div_le_div_of_nonneg_right _ positive.le
      linarith
    constructor
    · intro time' runs ticks
      rw [ticks.conserves sound fixed]
      linarith
    · intro time' runs ticks
      rw [ticks.callbacks sound fixed]
      exact Nat.floor_le_floor most
    · intro short time' runs ticks
      rw [max_eq_right short] at below most
      rw [ticks.conserves sound fixed, ticks.callbacks sound fixed]
      constructor
      · linarith
      · exact Nat.floor_le_floor most

end Pausing

/-- After a pause of a hundred seconds a tick makes up for all of them. -/
theorem hundred_seconds_unbounded :
    Reachable (fixedClock.setTargetElapsedSeconds 1) ∧
      ¬ PauseBounded 100 (fixedClock.setTargetElapsedSeconds 1) := by
  refine ⟨fixedClock_reachable 1, ?_⟩
  have sound : Sound (fixedClock.setTargetElapsedSeconds 1) :=
    ⟨by norm_num [setTargetElapsedSeconds], le_rfl⟩
  have delta : fixedDelta 100 (fixedClock.setTargetElapsedSeconds 1) = 100 := by
    norm_num [fixedDelta, snapDelta, clampDelta, timeDelta, fixedClock, GameTime.new,
      setFixedTimeStep, setTargetElapsedSeconds, maxDeltaInMillis, abs_lt]
  intro bounded
  obtain ⟨time', runs, ticks⟩ := ticks_exists 100 sound
  have advances := bounded.advances time' runs ticks
  rw [ticks.conserves sound rfl, delta] at advances
  norm_num [setTargetElapsedSeconds] at advances

/-- A pause of half a minute is within the bound. -/
theorem half_minute_bounded : PauseBounded 30 (fixedClock.setTargetElapsedSeconds 1) := by
  apply (pause_bounded_iff (fixedClock_reachable 1) rfl (by norm_num [setTargetElapsedSeconds])
    30).mpr
  left
  norm_num [timeDelta, fixedClock, GameTime.new, setFixedTimeStep, setTargetElapsedSeconds]

end WolfEngine.Verified
