import Mathlib.Algebra.Order.BigOperators.Group.List
import WolfEngine.Library.Accumulators
import WolfEngine.Verified.FrameRate

/-! # The pace of a fixed step

In fixed-step mode the clock, over exact rationals, is an accumulator of the deltas, clamped
and snapped.  So it does not matter how the ticks cut up the time, as long as none is clamped
or snapped; and a display whose frames come close enough to the target keeps step with it for
ever, which is what the snapping is for.
-/

namespace WolfEngine.Verified.GamePace

open WolfEngine.System.Chrono GameTime Accumulators

/-- Ticks at these instants one after the other, with how often each ran the callback. -/
inductive TickRun : GameTime → List ℚ → List Nat → GameTime → Prop where
  | nil (time : GameTime) : TickRun time [] [] time
  | cons {time middle last : GameTime} {now : ℚ} {nows : List ℚ} {runs : Nat} {counts : List Nat}
      (ticks : Ticks now time middle runs) (rest : TickRun middle nows counts last) :
      TickRun time (now :: nows) (runs :: counts) last

/-- The deltas that `seconds_counter` counts. -/
def deltas (lastTime : ℚ) (nows : List ℚ) : List ℚ := (gaps lastTime nows).map (max 0)

/-- What fixed-step ticks account for. -/
def accounted (target lastTime : ℚ) (nows : List ℚ) : List ℚ :=
  (deltas lastTime nows).map fun delta => snapDelta target (clampDelta delta)

/-- The instants of a display's frames. -/
def frames (period : ℚ) : ℚ → Nat → List ℚ
  | _, 0 => []
  | lastTime, count + 1 => (lastTime + period) :: frames period (lastTime + period) count

/-! ## Instants -/

theorem gaps_sum (lastTime : ℚ) (nows : List ℚ) :
    (gaps lastTime nows).sum = nows.getLastD lastTime - lastTime := by
  induction nows generalizing lastTime with
  | nil => simp [gaps]
  | cons now nows ih =>
    rw [gaps, List.sum_cons, ih now, List.getLastD_cons]
    ring

theorem gaps_frames (period lastTime : ℚ) (count : Nat) :
    gaps lastTime (frames period lastTime count) = List.replicate count period := by
  induction count generalizing lastTime with
  | zero => rfl
  | succ count ih => simp [frames, gaps, ih, List.replicate_succ]

theorem accounted_frames {period : ℚ} (nonneg : 0 ≤ period) (target lastTime : ℚ) (count : Nat) :
    accounted target lastTime (frames period lastTime count) =
      List.replicate count (snapDelta target (clampDelta period)) := by
  simp [accounted, deltas, gaps_frames, nonneg]

section Amounts

variable {target : ℚ}

theorem snapDelta_nonneg {delta : ℚ} (positive : 0 < target) (nonneg : 0 ≤ delta) :
    0 ≤ snapDelta target delta := by
  unfold snapDelta
  split
  · exact positive.le
  · exact nonneg

theorem accounted_nonneg (positive : 0 < target) (lastTime : ℚ) (nows : List ℚ) :
    ∀ amount ∈ accounted target lastTime nows, 0 ≤ amount := by
  simp only [accounted, deltas, List.mem_map]
  rintro _ ⟨_, ⟨gap, _, rfl⟩, rfl⟩
  exact snapDelta_nonneg positive (clampDelta_nonneg (le_max_left 0 gap))

theorem snapDelta_eq_target_iff (target delta : ℚ) :
    snapDelta target delta = target ↔ |delta - target| < 4 / 10000 := by
  unfold snapDelta
  split
  next near => simp [near]
  next far =>
    refine ⟨fun same => ?_, fun near => absurd near far⟩
    rw [same]
    norm_num

/-- Deltas that are accounted for as they are were not cut off at zero. -/
theorem deltas_eq_gaps {lastTime : ℚ} {nows : List ℚ} (positive : 0 < target)
    (exact_ : accounted target lastTime nows = gaps lastTime nows) :
    deltas lastTime nows = gaps lastTime nows := by
  have nonneg := accounted_nonneg positive lastTime nows
  rw [exact_] at nonneg
  exact (List.map_congr_left fun gap member => max_eq_right (nonneg gap member)).trans (List.map_id _)

end Amounts

/-! ## Runs -/

/-- What a run of ticks does to a clock in fixed-step mode. -/
structure Pace (time : GameTime) (nows : List ℚ) (counts : List Nat) (last : GameTime) :
    Prop where
  drains : drain time.targetElapsedSecs time.leftOverTicks
    (accounted time.targetElapsedSecs time.lastTime nows) = (counts, last.leftOverTicks)
  lastTime : last.lastTime = nows.getLastD time.lastTime
  elapsedSecs : last.elapsedSecs =
    if counts.sum = 0 then time.elapsedSecs else time.targetElapsedSecs
  totalSecs : last.totalSecs = time.totalSecs + counts.sum * time.targetElapsedSecs
  frameCount : last.frameCount = time.frameCount + UInt32.ofNat counts.sum
  secondsCounter : last.secondsCounter =
    Int.fract (time.secondsCounter + (deltas time.lastTime nows).sum)
  fixedTimeStep : last.fixedTimeStep = true
  targetElapsedSecs : last.targetElapsedSecs = time.targetElapsedSecs

section Running

variable {time last : GameTime} {nows : List ℚ} {counts : List Nat}

@[simp] theorem trackFramerate_elapsedSecs (frameCount : UInt32) (time : GameTime) :
    (time.trackFramerate frameCount).elapsedSecs = time.elapsedSecs := by
  simp only [trackFramerate]
  split <;> rfl

/-- The seconds counter forgets whole seconds. -/
theorem ticks_secondsCounter {now : ℚ} {runs : Nat} (ticks : Ticks now time last runs)
    (sound : Sound time) (nonneg : 0 ≤ time.secondsCounter) :
    last.secondsCounter = Int.fract (time.secondsCounter + time.timeDelta now) := by
  cases ticks.framerate sound with
  | publishes _ _ _ seconds => exact seconds
  | counts short _ _ seconds =>
    rw [seconds]
    exact (Int.fract_eq_self.mpr ⟨add_nonneg nonneg (timeDelta_nonneg now time), short⟩).symm

/-- One tick. -/
theorem ticks_pace {now : ℚ} {runs : Nat} (ticks : Ticks now time last runs) (sound : Sound time)
    (seconds : 0 ≤ time.secondsCounter) (fixed : time.fixedTimeStep = true) :
    Pace time [now] [runs] last := by
  have counter := ticks_secondsCounter ticks sound seconds
  obtain ⟨rfl, rfl⟩ := (ticks_fixed_iff fixed sound).mp ticks
  refine ⟨?_, ?_, ?_, ?_, ?_, ?_, ?_, ?_⟩
  · simp [drain, accounted, deltas, gaps, caughtUp, advanced, fixedRuns, fixedDelta, timeDelta]
  · simp [caughtUp, advanced]
  · simp [caughtUp, advanced]
  · simp [caughtUp, advanced]
  · simp [caughtUp, advanced]
  · simpa [deltas, gaps, timeDelta] using counter
  · simp [caughtUp, advanced, fixed]
  · simp [caughtUp, advanced]

/-- Whole seconds that were forgotten before do not matter. -/
theorem fract_fract_add (one two : ℚ) : Int.fract (Int.fract one + two) = Int.fract (one + two) := by
  have apart : Int.fract one + two = one + two - ⌊one⌋ := by
    rw [← Int.self_sub_floor]
    ring
  rw [apart, Int.fract_sub_intCast]

theorem Pace.cons {middle : GameTime} {now : ℚ} {runs : Nat} (first : Pace time [now] [runs] middle)
    (rest : Pace middle nows counts last) : Pace time (now :: nows) (runs :: counts) last where
  drains := by
    have later := rest.drains
    rw [first.targetElapsedSecs, first.lastTime] at later
    exact drain_cons first.drains later
  lastTime := by
    have now_last : middle.lastTime = now := first.lastTime
    rw [rest.lastTime, now_last, List.getLastD_cons]
  elapsedSecs := by
    rw [rest.elapsedSecs, first.elapsedSecs, first.targetElapsedSecs]
    split <;> simp [*]
  totalSecs := by
    rw [rest.totalSecs, first.totalSecs, first.targetElapsedSecs]
    simp
    ring
  frameCount := by
    rw [rest.frameCount, first.frameCount]
    simp [UInt32.add_assoc]
  secondsCounter := by
    rw [rest.secondsCounter, first.secondsCounter, first.lastTime, fract_fract_add]
    simp [deltas, gaps, add_assoc]
  fixedTimeStep := rest.fixedTimeStep
  targetElapsedSecs := rest.targetElapsedSecs.trans first.targetElapsedSecs

/-- A run of ticks. -/
theorem TickRun.pace (ran : TickRun time nows counts last) (sound : Sound time)
    (seconds : 0 ≤ time.secondsCounter ∧ time.secondsCounter < 1)
    (fixed : time.fixedTimeStep = true) : Pace time nows counts last := by
  induction ran with
  | nil time =>
    have whole := Int.fract_eq_self.mpr seconds
    exact ⟨rfl, rfl, by simp, by simp, by simp, by simp [deltas, gaps, whole], fixed, rfl⟩
  | @cons time middle last now nows runs counts ticks rest ih =>
    have first := ticks_pace ticks sound seconds.1 fixed
    have within : 0 ≤ middle.secondsCounter ∧ middle.secondsCounter < 1 := by
      rw [first.secondsCounter]
      exact ⟨Int.fract_nonneg _, Int.fract_lt_one _⟩
    exact first.cons (ih (ticks.sound sound) within first.fixedTimeStep)

/-- Ticks at any instants end. -/
theorem tickRun_exists (sound : Sound time) (nows : List ℚ) :
    ∃ counts last, TickRun time nows counts last := by
  induction nows generalizing time with
  | nil => exact ⟨[], time, .nil time⟩
  | cons now nows ih =>
    obtain ⟨middle, runs, ticks⟩ := ticks_exists now sound
    obtain ⟨counts, last, rest⟩ := ih (ticks.sound sound)
    exact ⟨runs :: counts, last, .cons ticks rest⟩

end Running

/-! ## Histories -/

section Histories

variable {time : GameTime} {instant : ℚ} {total : Nat}

theorem tallied_of_history (history : History time instant total) : ∃ tally, Tallied time tally := by
  induction history with
  | new now => exact ⟨_, .new now⟩
  | tickFn now _ ticks before =>
    obtain ⟨tally, tallied⟩ := before
    exact ⟨_, tallied.tickFn now ticks⟩
  | reset now _ before =>
    obtain ⟨tally, tallied⟩ := before
    exact ⟨_, tallied.reset now⟩
  | setFixedTimeStep value _ before =>
    obtain ⟨tally, tallied⟩ := before
    exact ⟨_, tallied.setFixedTimeStep value⟩
  | setTargetElapsedSeconds value positive _ before =>
    obtain ⟨tally, tallied⟩ := before
    exact ⟨_, tallied.setTargetElapsedSeconds value positive⟩

theorem pace_of_history {nows : List ℚ} {counts : List Nat} {last : GameTime}
    (history : History time instant total) (fixed : time.fixedTimeStep = true)
    (ran : TickRun time nows counts last) : Pace time nows counts last := by
  obtain ⟨tally, tallied⟩ := tallied_of_history history
  exact ran.pace history.sound tallied.accounts.seconds fixed

/-- A display keeps step with the clock, each of its frames running the callback once for
ever, if and only if its period is that close to the target. -/
theorem display_keeps_step_iff (history : History time instant total)
    (fixed : time.fixedTimeStep = true) (settled : time.leftOverTicks < time.targetElapsedSecs)
    (period : ℚ) (nonneg : 0 ≤ period) :
    (∀ count, ∃ last, TickRun time (frames period instant count) (List.replicate count 1) last) ↔
      |clampDelta period - time.targetElapsedSecs| < 4 / 10000 := by
  have sound := history.sound
  obtain rfl := history.lastTime
  have amount_nonneg := snapDelta_nonneg sound.target (clampDelta_nonneg nonneg)
  rw [← snapDelta_eq_target_iff,
    ← drain_once_iff sound.target sound.leftOver settled amount_nonneg]
  constructor
  · intro once count
    obtain ⟨last, ran⟩ := once count
    have drains := (pace_of_history history fixed ran).drains
    rw [accounted_frames nonneg] at drains
    rw [drains]
  · intro once count
    obtain ⟨counts, last, ran⟩ := tickRun_exists sound (frames period time.lastTime count)
    have drains := (pace_of_history history fixed ran).drains
    rw [accounted_frames nonneg] at drains
    have same := once count
    rw [drains] at same
    exact ⟨last, same ▸ ran⟩

theorem fixedClock_history : History fixedClock 0 0 := .setFixedTimeStep true (.new 0)

/-- A display of 59.94 Hz keeps step with a clock of 60 Hz; one of 50 Hz does not. -/
theorem ntsc_keeps_step :
    (∀ count, ∃ last,
      TickRun fixedClock (frames (1001 / 60000) 0 count) (List.replicate count 1) last) ∧
    ¬∀ count, ∃ last,
      TickRun fixedClock (frames (1 / 50) 0 count) (List.replicate count 1) last := by
  have settled : fixedClock.leftOverTicks < fixedClock.targetElapsedSecs := by
    norm_num [fixedClock, GameTime.new, setFixedTimeStep]
  have ntsc := display_keeps_step_iff fixedClock_history rfl settled (1001 / 60000) (by norm_num)
  have fifty := display_keeps_step_iff fixedClock_history rfl settled (1 / 50) (by norm_num)
  constructor
  · apply ntsc.mpr
    norm_num [clampDelta, maxDeltaInMillis, fixedClock, GameTime.new, setFixedTimeStep, abs_lt]
  · intro keeps
    have near := fifty.mp keeps
    norm_num [clampDelta, maxDeltaInMillis, fixedClock, GameTime.new, setFixedTimeStep, abs_lt]
      at near

/-- The time that went by decides what ticks do, if their deltas are accounted for as they
are. -/
theorem Pace.of_exact {nows : List ℚ} {counts : List Nat} {last : GameTime}
    (pace : Pace time nows counts last) (sound : Sound time) (some_ : nows ≠ [])
    (exact_ : accounted time.targetElapsedSecs time.lastTime nows = gaps time.lastTime nows) :
    let went := last.lastTime - time.lastTime
    counts.sum = ⌊(time.leftOverTicks + went) / time.targetElapsedSecs⌋₊ ∧
      last.leftOverTicks = time.leftOverTicks + went - counts.sum * time.targetElapsedSecs ∧
      last.secondsCounter = Int.fract (time.secondsCounter + went) := by
  have went : (gaps time.lastTime nows).sum = last.lastTime - time.lastTime := by
    rw [gaps_sum, pace.lastTime]
  have settled : accounted time.targetElapsedSecs time.lastTime nows = [] →
      time.leftOverTicks < time.targetElapsedSecs := by
    intro none
    cases nows with
    | nil => exact absurd rfl some_
    | cons now nows => cases none
  have taken := drain_sum sound.target sound.leftOver
    (accounted_nonneg sound.target time.lastTime nows) settled
  have conserves := drain_conserves time.targetElapsedSecs time.leftOverTicks
    (accounted time.targetElapsedSecs time.lastTime nows)
  rw [pace.drains, exact_, went] at taken conserves
  refine ⟨taken, by linarith, ?_⟩
  rw [pace.secondsCounter, deltas_eq_gaps sound.target exact_, went]

/-- Two runs of ticks from one clock to one instant, whose deltas are accounted for as they
are, run the callback equally often and leave the same clock, but for the frame rate. -/
theorem slices_agree {nows₁ nows₂ : List ℚ} {counts₁ counts₂ : List Nat} {one two : GameTime}
    (history : History time instant total) (fixed : time.fixedTimeStep = true)
    (ran₁ : TickRun time nows₁ counts₁ one) (ran₂ : TickRun time nows₂ counts₂ two)
    (some₁ : nows₁ ≠ []) (some₂ : nows₂ ≠ [])
    (exact₁ : accounted time.targetElapsedSecs instant nows₁ = gaps instant nows₁)
    (exact₂ : accounted time.targetElapsedSecs instant nows₂ = gaps instant nows₂)
    (meet : nows₁.getLastD instant = nows₂.getLastD instant) :
    counts₁.sum = counts₂.sum ∧
      { one with fps := two.fps, framesThisSec := two.framesThisSec } = two := by
  obtain rfl := history.lastTime
  have pace₁ := pace_of_history history fixed ran₁
  have pace₂ := pace_of_history history fixed ran₂
  have same : one.lastTime = two.lastTime := by rw [pace₁.lastTime, pace₂.lastTime, meet]
  obtain ⟨runs₁, left₁, seconds₁⟩ := pace₁.of_exact history.sound some₁ exact₁
  obtain ⟨runs₂, left₂, seconds₂⟩ := pace₂.of_exact history.sound some₂ exact₂
  have runs : counts₁.sum = counts₂.sum := by rw [runs₁, runs₂, same]
  have left : one.leftOverTicks = two.leftOverTicks := by rw [left₁, left₂, same, runs]
  have seconds : one.secondsCounter = two.secondsCounter := by rw [seconds₁, seconds₂, same]
  have elapsed := pace₁.elapsedSecs.trans (runs ▸ pace₂.elapsedSecs.symm)
  have totals := pace₁.totalSecs.trans (runs ▸ pace₂.totalSecs.symm)
  have frameCounts := pace₁.frameCount.trans (runs ▸ pace₂.frameCount.symm)
  have modes := pace₁.fixedTimeStep.trans pace₂.fixedTimeStep.symm
  have targets := pace₁.targetElapsedSecs.trans pace₂.targetElapsedSecs.symm
  refine ⟨runs, ?_⟩
  rw [same, left, seconds, elapsed, totals, frameCounts, modes, targets]

/-- A tenth of a second in one tick and in two. -/
theorem halves_agree :
    ∃ counts₁ one counts₂ two, TickRun fixedClock [1 / 10] counts₁ one ∧
      TickRun fixedClock [1 / 20, 1 / 10] counts₂ two ∧ counts₁.sum = counts₂.sum ∧
      one.totalSecs = two.totalSecs := by
  obtain ⟨counts₁, one, ran₁⟩ := tickRun_exists fixedClock_history.sound [1 / 10]
  obtain ⟨counts₂, two, ran₂⟩ := tickRun_exists fixedClock_history.sound [1 / 20, 1 / 10]
  have agree := slices_agree fixedClock_history rfl ran₁ ran₂ (by simp) (by simp)
    (by norm_num [accounted, deltas, gaps, snapDelta, clampDelta, maxDeltaInMillis, fixedClock,
      GameTime.new, setFixedTimeStep, abs_lt])
    (by norm_num [accounted, deltas, gaps, snapDelta, clampDelta, maxDeltaInMillis, fixedClock,
      GameTime.new, setFixedTimeStep, abs_lt])
    rfl
  refine ⟨counts₁, one, counts₂, two, ran₁, ran₂, agree.1, ?_⟩
  simpa using congrArg GameTime.totalSecs agree.2

end Histories

end WolfEngine.Verified.GamePace
