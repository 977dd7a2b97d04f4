import Mathlib.Data.Nat.ModEq
import WolfEngine.Verified.GameClock

/-! # The frame rate of the game clock

Every run of the callback is counted into one published frame rate, and the
seconds counter forgets whole seconds only.  A published value is a rate per
second as long as less than two seconds have been counted when it is published.
-/

namespace WolfEngine.Verified

open WolfEngine.System.Chrono GameTime

/-! ## What a tick does to the frame rate -/

/-- The seconds counter that a tick at `now` compares with one. -/
def counted (now : ℚ) (time : GameTime) : ℚ := time.secondsCounter + time.timeDelta now

inductive Framerate (now : ℚ) (time time' : GameTime) (runs : Nat) : Prop where
  | publishes (full : 1 ≤ counted now time)
      (fps : time'.fps = time.framesThisSec + UInt32.ofNat runs)
      (frames : time'.framesThisSec = 0)
      (seconds : time'.secondsCounter = Int.fract (counted now time))
  | counts (short : counted now time < 1)
      (fps : time'.fps = time.fps)
      (frames : time'.framesThisSec = time.framesThisSec + UInt32.ofNat runs)
      (seconds : time'.secondsCounter = counted now time)

section Ticking

variable {now : ℚ} {time time' : GameTime} {runs : Nat}

theorem trackFramerate_framerate {ran : GameTime}
    (frameCount : ran.frameCount = time.frameCount + UInt32.ofNat runs)
    (frames : ran.framesThisSec = time.framesThisSec) (fps : ran.fps = time.fps)
    (seconds : ran.secondsCounter = counted now time) :
    Framerate now time (ran.trackFramerate time.frameCount) runs := by
  have fresh : ran.frameCount - time.frameCount = UInt32.ofNat runs := by
    rw [frameCount, UInt32.add_comm, UInt32.add_sub_cancel]
  simp only [trackFramerate, fresh, frames, seconds]
  split
  next full => exact .publishes full rfl rfl rfl
  next short => exact .counts (lt_of_not_ge short) fps rfl rfl

theorem Ticks.framerate (ticks : Ticks now time time' runs) (sound : Sound time) :
    Framerate now time time' runs := by
  cases mode : time.fixedTimeStep with
  | true =>
    obtain ⟨_, rfl⟩ := (ticks_fixed_iff mode sound).mp ticks
    exact trackFramerate_framerate rfl rfl rfl rfl
  | false =>
    obtain ⟨rfl, rfl⟩ := (ticks_variable_iff mode).mp ticks
    exact trackFramerate_framerate rfl rfl rfl rfl

/-- What the catch-up loop leaves. -/
theorem Ticks.leftOver_eq (ticks : Ticks now time time' runs) (sound : Sound time)
    (fixed : time.fixedTimeStep = true) :
    time'.leftOverTicks =
      time.leftOverTicks + fixedDelta now time - runs * time.targetElapsedSecs := by
  obtain ⟨_, rfl⟩ := (ticks_fixed_iff fixed sound).mp ticks
  simp [caughtUp, advanced]

end Ticking

/-! ## Accounting for the frames -/

/-- What happened since the last reset: the published frame rates, the runs of the
callback and the seconds that went by, up to the last instant. -/
structure Tally where
  published : List UInt32
  runs : Nat
  elapsed : ℚ
  lastInstant : ℚ

namespace Tally

def zero (now : ℚ) : Tally := ⟨[], 0, 0, now⟩

/-- A tick at `now` from `time` to `time'`. -/
def tick (now : ℚ) (time time' : GameTime) (runs : Nat) (tally : Tally) : Tally where
  published :=
    if 1 ≤ time.secondsCounter + wallDelta tally.lastInstant now then tally.published ++ [time'.fps]
    else tally.published
  runs := tally.runs + runs
  elapsed := tally.elapsed + wallDelta tally.lastInstant now
  lastInstant := now

/-- The frames that were published. -/
def frames (tally : Tally) : Nat := (tally.published.map UInt32.toNat).sum

end Tally

inductive Tallied : GameTime → Tally → Prop where
  | new (now : ℚ) : Tallied (GameTime.new now) (.zero now)
  | tickFn {time time' : GameTime} {tally : Tally} {runs : Nat} (now : ℚ)
      (before : Tallied time tally) (ticks : Ticks now time time' runs) :
      Tallied time' (tally.tick now time time' runs)
  | reset {time : GameTime} {tally : Tally} (now : ℚ) (before : Tallied time tally) :
      Tallied (time.reset now) (.zero now)
  | setFixedTimeStep {time : GameTime} {tally : Tally} (value : Bool)
      (before : Tallied time tally) : Tallied (time.setFixedTimeStep value) tally
  | setTargetElapsedSeconds {time : GameTime} {tally : Tally} (value : ℚ) (positive : 0 < value)
      (before : Tallied time tally) : Tallied (time.setTargetElapsedSeconds value) tally

/-- What the clock and the tally of its history agree on. -/
structure Accounts (time : GameTime) (tally : Tally) : Prop where
  lastTime : time.lastTime = tally.lastInstant
  seconds : 0 ≤ time.secondsCounter ∧ time.secondsCounter < 1
  frames : tally.frames + time.framesThisSec.toNat ≡ tally.runs [MOD 2 ^ 32]
  whole : ∃ seconds : ℕ, tally.elapsed - time.secondsCounter = seconds

theorem Accounts.zero {time : GameTime} (seconds : time.secondsCounter = 0)
    (frames : time.framesThisSec = 0) : Accounts time (.zero time.lastTime) where
  lastTime := rfl
  seconds := by simp [seconds]
  frames := by simp [frames, Tally.zero, Tally.frames, Nat.ModEq]
  whole := ⟨0, by simp [seconds, Tally.zero]⟩

/-- The frames of a tick count on, modulo the counter's width. -/
theorem toNat_count_modEq (frames : UInt32) (runs : Nat) :
    (frames + UInt32.ofNat runs).toNat ≡ frames.toNat + runs [MOD 2 ^ 32] := by
  simp [Nat.ModEq, UInt32.toNat_add]

theorem Accounts.tick {now : ℚ} {time time' : GameTime} {runs : Nat} {tally : Tally}
    (accounts : Accounts time tally) (framerate : Framerate now time time' runs)
    (read : time'.lastTime = now) : Accounts time' (tally.tick now time time' runs) := by
  have counting := toNat_count_modEq time.framesThisSec runs
  have nonneg : 0 ≤ counted now time := add_nonneg accounts.seconds.1 (timeDelta_nonneg now time)
  have runsOn : tally.frames + (time.framesThisSec.toNat + runs) ≡ tally.runs + runs [MOD 2 ^ 32] := by
    rw [← Nat.add_assoc]
    exact accounts.frames.add_right runs
  have real : time.secondsCounter + wallDelta tally.lastInstant now = counted now time := by
    rw [← accounts.lastTime]
    rfl
  have elapsed : (tally.tick now time time' runs).elapsed =
      tally.elapsed - time.secondsCounter + counted now time := by
    simp only [Tally.tick, ← real]
    ring
  obtain ⟨before, same⟩ := accounts.whole
  cases framerate with
  | publishes full fps frames seconds =>
    refine ⟨read, ?_, ?_, ⟨before + ⌊counted now time⌋₊, ?_⟩⟩
    · rw [seconds]
      exact ⟨Int.fract_nonneg _, Int.fract_lt_one _⟩
    · simp only [Tally.tick, Tally.frames, real, full, if_true, frames, fps, List.map_append,
        List.sum_append, List.map_cons, List.map_nil, List.sum_singleton]
      exact (counting.add_left tally.frames).trans runsOn
    · have floor : (⌊counted now time⌋₊ : ℚ) = ⌊counted now time⌋ := natCast_floor_eq_intCast_floor nonneg
      rw [elapsed, seconds, Nat.cast_add, floor, ← same, ← Int.self_sub_floor]
      ring
  | counts short fps frames seconds =>
    refine ⟨read, ?_, ?_, ⟨before, ?_⟩⟩
    · rw [seconds]
      exact ⟨nonneg, short⟩
    · simp only [Tally.tick, Tally.frames, real, not_le.mpr short, if_false, frames]
      exact (counting.add_left tally.frames).trans runsOn
    · rw [elapsed, seconds, ← same]
      ring

theorem Tallied.sound {time : GameTime} {tally : Tally} (tallied : Tallied time tally) :
    Sound time := by
  induction tallied with
  | new now => exact (History.new now).sound
  | tickFn now _ ticks sound => exact ticks.sound sound
  | reset now _ sound => exact ⟨sound.target, le_rfl⟩
  | setFixedTimeStep value _ sound => exact ⟨sound.target, sound.leftOver⟩
  | setTargetElapsedSeconds value positive _ sound => exact ⟨positive, sound.leftOver⟩

theorem Tallied.accounts {time : GameTime} {tally : Tally} (tallied : Tallied time tally) :
    Accounts time tally := by
  induction tallied with
  | new now => exact .zero rfl rfl
  | tickFn now before ticks accounts =>
    exact accounts.tick (ticks.framerate before.sound) (ticks.lastTime before.sound)
  | reset now _ _ => exact .zero rfl rfl
  | setFixedTimeStep value _ accounts =>
    exact ⟨accounts.lastTime, accounts.seconds, accounts.frames, accounts.whole⟩
  | setTargetElapsedSeconds value _ _ accounts =>
    exact ⟨accounts.lastTime, accounts.seconds, accounts.frames, accounts.whole⟩

/-- No frame and no fraction of a second is lost, in any history of the clock, and every
history goes on. -/
theorem frames_accounted {time : GameTime} {tally : Tally} (tallied : Tallied time tally) :
    0 ≤ time.secondsCounter ∧ time.secondsCounter < 1 ∧
      (tally.frames + time.framesThisSec.toNat) % 2 ^ 32 = tally.runs % 2 ^ 32 ∧
      (∃ whole : ℕ, tally.elapsed - time.secondsCounter = whole) ∧
      ∀ now, ∃ time' runs, Ticks now time time' runs := by
  have accounts := tallied.accounts
  exact ⟨accounts.seconds.1, accounts.seconds.2, accounts.frames, accounts.whole,
    fun now => ticks_exists now tallied.sound⟩

/-- A first frame after a second and a half is published, and half a second is
kept. -/
theorem first_frame_accounted :
    ∃ time tally, Tallied time tally ∧ tally.published = [1] ∧ tally.runs = 1 ∧
      tally.elapsed = 3 / 2 ∧ ∃ whole : ℕ, tally.elapsed - time.secondsCounter = whole := by
  obtain ⟨_, _, _, _, goesOn⟩ := frames_accounted (Tallied.new 0)
  obtain ⟨time', runs, ticks⟩ := goesOn (3 / 2)
  have once := (ticks.variable rfl).callbacks
  subst once
  have full : counted (3 / 2) (GameTime.new 0) = 3 / 2 := by
    norm_num [counted, timeDelta, GameTime.new]
  have tallied := (Tallied.new 0).tickFn (3 / 2) ticks
  refine ⟨time', _, tallied, ?_, rfl, ?_, (frames_accounted tallied).2.2.2.1⟩
  · cases ticks.framerate (Tallied.new 0).sound with
    | publishes reached fps _ _ =>
      have reached : 1 ≤ (GameTime.new 0).secondsCounter + wallDelta (Tally.zero 0).lastInstant (3 / 2) :=
        reached
      simp only [Tally.tick, reached, if_true, fps]
      rfl
    | counts short _ _ _ => norm_num [full] at short
  · norm_num [Tally.tick, Tally.zero, wallDelta]

/-! ## The frame rate as a rate -/

/-- Fixed-step ticks from a new clock with a constant target; `allowed` is asked at
each tick. -/
inductive FixedRun (allowed : ℚ → GameTime → Prop) (target : ℚ) : GameTime → Prop where
  | start (now : ℚ) :
      FixedRun allowed target
        (((GameTime.new now).setFixedTimeStep true).setTargetElapsedSeconds target)
  | tick {time time' : GameTime} {runs : Nat} (now : ℚ) (before : FixedRun allowed target time)
      (allows : allowed now time) (ticks : Ticks now time time' runs) :
      FixedRun allowed target time'

/-- Not much more than two seconds have been counted: three seconds, less the
quarter that snapping may add. -/
def Frequent (now : ℚ) (time : GameTime) : Prop := counted now time ≤ 12 / 5

/-- Snapping adds a quarter of the delta at most. -/
theorem fixedDelta_le {now : ℚ} {time : GameTime} (slow : 1 / 500 ≤ time.targetElapsedSecs) :
    fixedDelta now time ≤ 5 / 4 * time.timeDelta now := by
  have nonneg := timeDelta_nonneg now time
  have clamped : clampDelta (time.timeDelta now) ≤ time.timeDelta now := by
    simp only [clampDelta]
    split <;> linarith
  simp only [fixedDelta, snapDelta]
  split
  next near =>
    rw [abs_lt] at near
    linarith
  next far => linarith

/-- The frames counted so far and the leftover fit into the seconds counted so far,
with one target to spare. -/
structure Paced (target : ℚ) (time : GameTime) : Prop where
  fixed : time.fixedTimeStep = true
  constant : time.targetElapsedSecs = target
  leftOver : 0 ≤ time.leftOverTicks
  seconds : 0 ≤ time.secondsCounter
  frames : time.framesThisSec.toNat * target + time.leftOverTicks <
    target + 5 / 4 * time.secondsCounter
  rate : (time.fps.toNat : ℚ) ≤ 3 / target + 1

section Pacing

variable {now target : ℚ} {time time' : GameTime} {runs : Nat}

/-- The frames of three seconds stay far below the counter's width. -/
theorem frames_lt {frames : ℕ} (slow : 1 / 500 ≤ target) (fits : frames * target < target + 3) :
    (frames : ℚ) < 3 / target + 1 ∧ frames < 2 ^ 32 := by
  have positive : 0 < target := by linarith
  have few : (frames : ℚ) - 1 < 3 / target := by
    rw [lt_div_iff₀ positive]
    linarith
  have small : 3 / target ≤ 1500 := by
    rw [div_le_iff₀ positive]
    linarith
  constructor
  · linarith
  · have bound : (frames : ℚ) < 1501 := by linarith
    have narrow : frames < 1501 := by exact_mod_cast bound
    omega

theorem Paced.tick (slow : 1 / 500 ≤ target) (paced : Paced target time)
    (frequent : Frequent now time) (ticks : Ticks now time time' runs) : Paced target time' := by
  have positive : 0 < target := by linarith
  have sound : Sound time := ⟨by rw [paced.constant]; exact positive, paced.leftOver⟩
  have settings := ticks.settings sound
  have remainder := (ticks.fixed sound paced.fixed).leftOver
  have conserved := ticks.leftOver_eq sound paced.fixed
  have snapped : fixedDelta now time ≤ 5 / 4 * time.timeDelta now := by
    apply fixedDelta_le
    rw [paced.constant]
    exact slow
  have counting : counted now time = time.secondsCounter + time.timeDelta now := rfl
  have nonneg : 0 ≤ counted now time := add_nonneg paced.seconds (timeDelta_nonneg now time)
  rw [settings.2, paced.constant] at remainder
  rw [paced.constant] at conserved
  have total : (time.framesThisSec.toNat + runs : ℕ) * target + time'.leftOverTicks <
      target + 5 / 4 * counted now time := by
    have frames := paced.frames
    push_cast
    linarith
  have few : (time.framesThisSec.toNat + runs : ℕ) * target < target + 3 := by
    have under : counted now time ≤ 12 / 5 := frequent
    linarith
  obtain ⟨rate, narrow⟩ := frames_lt slow few
  have noWrap : (time.framesThisSec + UInt32.ofNat runs).toNat =
      time.framesThisSec.toNat + runs := by
    have same := toNat_count_modEq time.framesThisSec runs
    rwa [Nat.ModEq, Nat.mod_eq_of_lt (UInt32.toNat_lt _), Nat.mod_eq_of_lt narrow] at same
  cases ticks.framerate sound with
  | publishes full fps frames seconds =>
    refine ⟨settings.1.trans paced.fixed, settings.2.trans paced.constant, remainder.1, ?_, ?_, ?_⟩
    · rw [seconds]
      exact Int.fract_nonneg _
    · have fraction := Int.fract_nonneg (counted now time)
      simp only [frames, seconds, UInt32.toNat_zero, Nat.cast_zero]
      linarith
    · rw [fps, noWrap]
      exact rate.le
  | counts short fps frames seconds =>
    refine ⟨settings.1.trans paced.fixed, settings.2.trans paced.constant, remainder.1, ?_, ?_, ?_⟩
    · rw [seconds]
      exact nonneg
    · rw [frames, noWrap, seconds]
      exact total
    · rw [fps]
      exact paced.rate

/-- Where the ticks come that often, the published frame rate is a rate per second. -/
theorem fps_is_rate (slow : 1 / 500 ≤ target) (run : FixedRun Frequent target time) :
    (time.fps.toNat : ℚ) ≤ 3 / target + 1 := by
  have paced : Paced target time := by
    induction run with
    | start now =>
      have positive : 0 < target := by linarith
      refine ⟨rfl, rfl, le_rfl, le_rfl, ?_, ?_⟩
      · simpa [GameTime.new, setFixedTimeStep, setTargetElapsedSeconds] using positive
      · simp [GameTime.new, setFixedTimeStep, setTargetElapsedSeconds]
        positivity
    | tick now _ frequent ticks before => exact before.tick slow frequent ticks
  exact paced.rate

theorem fixedDelta_of_long (long : time.targetElapsedSecs + 4 / 10000 ≤ time.timeDelta now)
    (unclamped : time.timeDelta now ≤ maxDeltaInMillis) :
    fixedDelta now time = time.timeDelta now := by
  simp only [fixedDelta, clampDelta, not_lt.mpr unclamped, if_false]
  apply if_neg
  intro near
  rw [abs_lt] at near
  linarith

/-- A first tick after a long pause stores the frames of the whole pause. -/
theorem long_pause_misreports (pause : ℚ) (slow : 1 / 500 ≤ target)
    (long : 3 + 2 * target ≤ pause) (unclamped : pause ≤ maxDeltaInMillis) :
    ∃ time, FixedRun (fun _ _ => True) target time ∧ 3 / target + 1 < time.fps.toNat := by
  have positive : 0 < target := by linarith
  have sound : Sound (fixedClock.setTargetElapsedSeconds target) := ⟨positive, le_rfl⟩
  obtain ⟨time', runs, ticks⟩ := ticks_exists pause sound
  refine ⟨time', .tick pause (.start 0) trivial ticks, ?_⟩
  have delta : timeDelta pause (fixedClock.setTargetElapsedSeconds target) = pause := by
    simp only [timeDelta, fixedClock, GameTime.new, setFixedTimeStep, setTargetElapsedSeconds,
      sub_zero]
    apply max_eq_right
    linarith
  have far : target + 4 / 10000 ≤ timeDelta pause (fixedClock.setTargetElapsedSeconds target) := by
    linarith
  have whole := fixedDelta_of_long far (by rwa [delta])
  have counting : counted pause (fixedClock.setTargetElapsedSeconds target) = pause := by
    simp only [counted, delta]
    exact zero_add pause
  have remainder := (ticks.fixed sound rfl).leftOver
  have left : time'.leftOverTicks = pause - runs * target := by
    rw [ticks.leftOver_eq sound rfl, whole, delta]
    simp [fixedClock, GameTime.new, setFixedTimeStep, setTargetElapsedSeconds]
  rw [(ticks.settings sound).2, left] at remainder
  have most : pause - runs * target < target := remainder.2
  have many : 3 / target < runs - 1 := by
    rw [div_lt_iff₀ positive]
    linarith
  have narrow : runs < 2 ^ 32 := by
    have bound : (runs : ℚ) * (1 / 500) ≤ 60000 := by
      have scaled := mul_le_mul_of_nonneg_left slow (Nat.cast_nonneg (α := ℚ) runs)
      have clamped : pause ≤ 60000 := unclamped
      linarith
    have small : (runs : ℚ) ≤ 30000000 := by linarith
    have below : runs ≤ 30000000 := by exact_mod_cast small
    omega
  cases ticks.framerate sound with
  | publishes _ fps _ _ =>
    have stored : time'.fps.toNat = runs := by
      have none_before : (fixedClock.setTargetElapsedSeconds target).framesThisSec = 0 := rfl
      rw [fps, none_before, UInt32.zero_add]
      exact UInt32.toNat_ofNat_of_lt' narrow
    rw [stored]
    linarith
  | counts short _ _ _ =>
    rw [counting] at short
    linarith

end Pacing

/-- Ten seconds at one frame a second are published as ten frames a second. -/
theorem ten_seconds_misreport :
    ∃ time, FixedRun (fun _ _ => True) 1 time ∧ ¬ (time.fps.toNat : ℚ) ≤ 3 / 1 + 1 := by
  have slow : (1 / 500 : ℚ) ≤ 1 := by norm_num
  obtain ⟨time, run, misreports⟩ :=
    long_pause_misreports 10 slow (by norm_num) (by norm_num [maxDeltaInMillis])
  exact ⟨time, run, not_le.mpr misreports⟩

/-- Half a second a frame, with the first tick after a second. -/
theorem first_second_is_rate :
    ∃ time, FixedRun Frequent (1 / 2) time ∧ time.fps = 2 ∧
      (time.fps.toNat : ℚ) ≤ 3 / (1 / 2) + 1 := by
  have sound : Sound (fixedClock.setTargetElapsedSeconds (1 / 2)) :=
    ⟨by norm_num [setTargetElapsedSeconds], le_rfl⟩
  have counting : counted 1 (fixedClock.setTargetElapsedSeconds (1 / 2)) = 1 := by
    norm_num [counted, timeDelta, fixedClock, GameTime.new, setFixedTimeStep,
      setTargetElapsedSeconds]
  have frequent : Frequent 1 (fixedClock.setTargetElapsedSeconds (1 / 2)) := by
    norm_num [Frequent, counting]
  obtain ⟨time', runs, ticks⟩ := ticks_exists 1 sound
  have run : FixedRun Frequent (1 / 2) time' := .tick 1 (.start 0) frequent ticks
  refine ⟨time', run, ?_, fps_is_rate (by norm_num) run⟩
  have two : runs = 2 := by
    have delta : fixedDelta 1 (fixedClock.setTargetElapsedSeconds (1 / 2)) = 1 := by
      norm_num [fixedDelta, snapDelta, clampDelta, timeDelta, fixedClock, GameTime.new,
        setFixedTimeStep, setTargetElapsedSeconds, maxDeltaInMillis, abs_lt]
    rw [ticks.callbacks sound rfl, delta, Nat.floor_eq_iff] <;>
      norm_num [fixedClock, GameTime.new, setFixedTimeStep, setTargetElapsedSeconds]
  cases ticks.framerate sound with
  | publishes _ fps _ _ =>
    rw [fps, two]
    rfl
  | counts short _ _ _ => norm_num [counting] at short

end WolfEngine.Verified
