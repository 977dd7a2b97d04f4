import WolfEngine.System.Compression.Lz4

/-! # The capacities of `de_compress`

Attempt `i` is to have `2 ^ (i + 1)` times the length of the source.  As long as
every attempt before it failed and that capacity is an `i32`, it has; the doubling
after a failure is computed whether or not another attempt follows.
-/

namespace WolfEngine.Verified

open WolfEngine.System.Lz4 EventLoop MachineInt Overlay

/-- What attempt `i` is to have. -/
def capacityAt (src : List UInt8) (i : Nat) : Int := src.length * 2 ^ (i + 1)

/-- What the decoder answers to attempt `i`. -/
def answerAt (decompressSafe : Nat → DecompressSafe) (src : List UInt8) (i : Nat) : Int :=
  (decompressSafe i src (capacityAt src i)).result

@[simp] theorem capacityAt_zero (src : List UInt8) : capacityAt src 0 = src.length * 2 := by
  simp [capacityAt]

theorem capacityAt_succ (src : List UInt8) (i : Nat) :
    capacityAt src (i + 1) = capacityAt src i * 2 := by
  rw [capacityAt, capacityAt, Int.pow_succ _ (i + 1), Int.mul_assoc]

theorem capacityAt_le (src : List UInt8) {i j : Nat} (le : i ≤ j) :
    capacityAt src i ≤ capacityAt src j := by
  have powers : 2 ^ (i + 1) ≤ 2 ^ (j + 1) := Nat.pow_le_pow_right (by decide) (by omega)
  have products := Nat.mul_le_mul_left src.length powers
  rw [capacityAt, capacityAt]
  exact_mod_cast products

theorem capacityAt_pos {src : List UInt8} (positive : 0 < src.length) (i : Nat) :
    0 < capacityAt src i :=
  Int.mul_pos (Int.natCast_pos.mpr positive) (Int.pow_pos (by decide))

/-! ## One attempt -/

/-- All that an attempt can come to. -/
inductive AttemptCase (overflowChecks : Bool) (src : List UInt8) (decompressSafe : DecompressSafe)
    (state : DeCompressState)
    (outcome : Outcome DeCompressState Lz4Event (Option DeCompressState)) : Prop
  | stops (spent : state.maxDstSize ≤ 0) (ran : outcome = ⟨[], .leave (some state)⟩)
  | decodes (room : 0 < state.maxDstSize)
      (decoded : 0 < (decompressSafe src state.maxDstSize).result)
      (ran : outcome =
        ⟨[.decompressSafe state.maxDstSize state.maxDstSize.toNat
            (decompressSafe src state.maxDstSize).result],
          .leave (some ⟨state.maxDstSize, (decompressSafe src state.maxDstSize).result,
            overlay (decompressSafe src state.maxDstSize).bytes
              (resize state.maxDstSize.toNat state.dst)⟩)⟩)
  | fails (room : 0 < state.maxDstSize)
      (failed : (decompressSafe src state.maxDstSize).result ≤ 0)
      (ran : outcome =
        ⟨[.decompressSafe state.maxDstSize state.maxDstSize.toNat
            (decompressSafe src state.maxDstSize).result, .double state.maxDstSize],
          match i32.compute overflowChecks (state.maxDstSize * 2) with
          | none => .leave none
          | some doubled => .again ⟨doubled, (decompressSafe src state.maxDstSize).result,
              overlay (decompressSafe src state.maxDstSize).bytes
                (resize state.maxDstSize.toNat state.dst)⟩⟩)

theorem attempt_cases (overflowChecks : Bool) (src : List UInt8) (decompressSafe : DecompressSafe)
    (state : DeCompressState) : AttemptCase overflowChecks src decompressSafe state
      (deCompressRound overflowChecks src decompressSafe state) := by
  unfold deCompressRound
  dsimp only
  by_cases spent : state.maxDstSize.toNat = 0
  · rw [if_pos spent]
    exact .stops (by omega) rfl
  · rw [if_neg spent, resize_length]
    by_cases decoded : (decompressSafe src state.maxDstSize).result > 0
    · rw [if_pos decoded]
      exact .decodes (by omega) decoded rfl
    · rw [if_neg decoded]
      exact .fails (by omega) (by omega) rfl

/-! ## Runs of attempts -/

section Attempts

variable {overflowChecks : Bool} {decompressSafe : Nat → DecompressSafe} {src : List UInt8}
  {start state : DeCompressState}

/-- After `n` failures: the capacity is the one that attempt `n` is to have, or the
doublings left nothing positive. -/
structure AfterFailures (decompressSafe : Nat → DecompressSafe) (src : List UInt8) (n : Nat)
    (state : DeCompressState) : Prop where
  retSize : state.retSize ≤ 0
  maxDstSize : (state.maxDstSize = capacityAt src n ∧ i32.InRange (capacityAt src n) ∧
    ∀ j < n, answerAt decompressSafe src j ≤ 0) ∨ state.maxDstSize ≤ 0

theorem afterFailures_of_inside (begins : AfterFailures decompressSafe src 0 start) {n : Nat}
    (inside : (run (deCompressRound overflowChecks src) (firstRounds decompressSafe n)
      start).control = .again state) : AfterFailures decompressSafe src n state := by
  induction n generalizing state with
  | zero =>
    cases inside
    exact begins
  | succ n ih =>
    rw [firstRounds_succ] at inside
    obtain ⟨middle, before⟩ := inside_of_append inside
    rw [run_snoc _ before] at inside
    have after := ih before
    cases attempt_cases overflowChecks src (decompressSafe n) middle with
    | stops spent ran =>
      rw [ran] at inside
      cases inside
    | decodes room decoded ran =>
      rw [ran] at inside
      cases inside
    | fails room failed ran =>
      obtain ⟨size, inRange, failures⟩ := after.maxDstSize.resolve_right (by omega)
      rw [ran] at inside
      dsimp only at inside
      cases computed : i32.compute overflowChecks (middle.maxDstSize * 2) with
      | none =>
        rw [computed] at inside
        cases inside
      | some doubled =>
        rw [computed] at inside
        cases inside
        refine ⟨failed, ?_⟩
        -- a doubling of a positive `i32` is exact or wraps to nothing positive
        rcases double_i32 room (size ▸ inRange) computed with ⟨exact, fits⟩ | spent
        · rw [size, ← capacityAt_succ] at exact fits
          refine .inl ⟨exact, fits, fun j below => ?_⟩
          rcases Nat.lt_succ_iff_lt_or_eq.mp below with earlier | rfl
          · exact failures j earlier
          · rw [answerAt, ← size]
            exact failed
        · exact .inr spent

/-- While the attempts fail and the capacities are in range, the loop goes on. -/
theorem inside_of_failures (overflowChecks : Bool) (start : DeCompressState) (positive : 0 < src.length)
    (begins : start.maxDstSize = capacityAt src 0) {n : Nat}
    (failures : ∀ j < n, answerAt decompressSafe src j ≤ 0)
    (inRange : ∀ j < n, i32.InRange (capacityAt src (j + 1))) :
    ∃ state, (run (deCompressRound overflowChecks src) (firstRounds decompressSafe n)
      start).control = .again state ∧ state.maxDstSize = capacityAt src n := by
  induction n with
  | zero => exact ⟨start, rfl, begins⟩
  | succ n ih =>
    obtain ⟨state, inside, size⟩ := ih (fun j below => failures j (by omega))
      (fun j below => inRange j (by omega))
    have room := capacityAt_pos positive n
    rw [firstRounds_succ, run_snoc _ inside]
    cases attempt_cases overflowChecks src (decompressSafe n) state with
    | stops spent ran => omega
    | decodes room decoded ran =>
      have failed := failures n (by omega)
      rw [answerAt, ← size] at failed
      omega
    | fails room failed ran =>
      have computed : i32.compute overflowChecks (state.maxDstSize * 2) =
          some (capacityAt src (n + 1)) := by
        rw [size, ← capacityAt_succ]
        exact IntType.compute_of_inRange _ (inRange n (by omega))
      rw [ran, computed]
      exact ⟨_, rfl, rfl⟩

end Attempts

/-! ## Overflow -/

/-- Every `i32` that is computed is in range, so nothing panics, and the decoder is
given the whole of the destination. -/
structure NeverOverflows (ran : List Lz4Event × Option (Except String Unit × List UInt8)) :
    Prop where
  doubles : ∀ size, .double size ∈ ran.1 → i32.InRange (size * 2)
  returns : ran.2 ≠ none
  capacities : ∀ (capacity : Int) (dstLength : Nat) (result : Int),
    .decompressSafe capacity dstLength result ∈ ran.1 → capacity = dstLength

section Overflow

variable {overflowChecks : Bool} {decompressSafe : Nat → DecompressSafe} {src : List UInt8}
  {start : DeCompressState}

theorem capacities_of_run {capacity result : Int} {dstLength : Nat} {decoders : List DecompressSafe}
    (member : .decompressSafe capacity dstLength result ∈
      (run (deCompressRound overflowChecks src) decoders start).events) :
    capacity = dstLength := by
  obtain ⟨pre, decoder, post, state, _, _, shown⟩ := mem_run_events.mp member
  cases attempt_cases overflowChecks src decoder state with
  | stops spent ran =>
    rw [ran] at shown
    cases shown
  | decodes room decoded ran =>
    rw [ran] at shown
    cases List.mem_singleton.mp shown
    exact (Int.toNat_of_nonneg (Int.le_of_lt room)).symm
  | fails room failed ran =>
    rw [ran] at shown
    rcases List.mem_cons.mp shown with same | later
    · cases same
      exact (Int.toNat_of_nonneg (Int.le_of_lt room)).symm
    · cases List.mem_singleton.mp later

/-- A size is doubled after an attempt that failed, as all before it did. -/
theorem failures_of_double (begins : AfterFailures decompressSafe src 0 start) {count : Nat}
    {size : Int}
    (member : .double size ∈ (run (deCompressRound overflowChecks src)
      (firstRounds decompressSafe count) start).events) :
    ∃ i < count, size = capacityAt src i ∧ ∀ j ≤ i, answerAt decompressSafe src j ≤ 0 := by
  obtain ⟨pre, decoder, post, state, split, inside, shown⟩ := mem_run_events.mp member
  obtain ⟨i, below, rfl, rfl⟩ := firstRounds_split split
  have after := afterFailures_of_inside begins inside
  cases attempt_cases overflowChecks src (decompressSafe i) state with
  | stops spent ran =>
    rw [ran] at shown
    cases shown
  | decodes room decoded ran =>
    rw [ran] at shown
    cases List.mem_singleton.mp shown
  | fails room failed ran =>
    obtain ⟨capacity, _, failures⟩ := after.maxDstSize.resolve_right (by omega)
    rw [ran] at shown
    rcases List.mem_cons.mp shown with same | later
    · cases same
    · cases List.mem_singleton.mp later
      refine ⟨i, below, capacity, fun j le => ?_⟩
      rcases Nat.lt_or_eq_of_le le with earlier | rfl
      · exact failures j earlier
      · rw [answerAt, ← capacity]
        exact failed

/-- The panic of a run is that of a doubling. -/
theorem double_of_panic {decoders : List DecompressSafe}
    (panics : (run (deCompressRound overflowChecks src) decoders start).control = .leave none) :
    ∃ size, .double size ∈ (run (deCompressRound overflowChecks src) decoders start).events ∧
      ¬i32.InRange (size * 2) := by
  obtain ⟨pre, decoder, post, state, split, inside, left⟩ := run_leave_iff.mp panics
  cases attempt_cases overflowChecks src decoder state with
  | stops spent ran =>
    rw [ran] at left
    cases left
  | decodes room decoded ran =>
    rw [ran] at left
    cases left
  | fails room failed ran =>
    refine ⟨state.maxDstSize, ?_, fun inRange => ?_⟩
    · refine mem_run_events.mpr ⟨pre, decoder, post, state, split, inside, ?_⟩
      rw [ran]
      exact List.mem_cons_of_mem _ List.mem_cons_self
    · rw [ran, IntType.compute_of_inRange _ inRange] at left
      cases left

/-- The doubling after `n` failures is computed. -/
theorem double_of_failures (positive : 0 < src.length)
    (begins : start.maxDstSize = capacityAt src 0) {n count : Nat} (below : n < count)
    (failures : ∀ j ≤ n, answerAt decompressSafe src j ≤ 0)
    (inRange : ∀ j < n, i32.InRange (capacityAt src (j + 1))) :
    .double (capacityAt src n) ∈ (run (deCompressRound overflowChecks src)
      (firstRounds decompressSafe count) start).events := by
  obtain ⟨state, inside, size⟩ := inside_of_failures overflowChecks start positive
    begins (fun j earlier => failures j (Nat.le_of_lt earlier)) inRange
  obtain ⟨post, split⟩ := firstRounds_cons decompressSafe below
  refine mem_run_events.mpr ⟨_, _, post, state, split, inside, ?_⟩
  have room := capacityAt_pos positive n
  cases attempt_cases overflowChecks src (decompressSafe n) state with
  | stops spent ran => omega
  | decodes room decoded ran =>
    have failed := failures n (Nat.le_refl n)
    rw [answerAt, ← size] at failed
    omega
  | fails room failed ran =>
    rw [ran, size]
    exact List.mem_cons_of_mem _ List.mem_cons_self

/-- The loop of `de_compress` on `src`, from its first capacity. -/
def attemptsFrom (overflowChecks : Bool) (decompressSafe : Nat → DecompressSafe)
    (src : List UInt8) (maxDstSize : Int) :
    Outcome DeCompressState Lz4Event (Option DeCompressState) :=
  run (deCompressRound overflowChecks src) (firstRounds decompressSafe attempts)
    ⟨maxDstSize, 0, []⟩

theorem deCompress_of_overflow (decompressSafe : Nat → DecompressSafe) (dst : List UInt8)
    (nonzero : i32Len src ≠ 0)
    (panics : i32.compute overflowChecks (capacityAt src 0) = none) :
    deCompress overflowChecks decompressSafe dst src = ([.double src.length], none) := by
  rw [capacityAt_zero] at panics
  rw [deCompress, if_neg nonzero, (i32Len_of_ne_zero nonzero).1, panics]

theorem deCompress_of_computed (decompressSafe : Nat → DecompressSafe) (dst : List UInt8)
    {maxDstSize : Int} (nonzero : i32Len src ≠ 0)
    (computed : i32.compute overflowChecks (capacityAt src 0) = some maxDstSize) :
    deCompress overflowChecks decompressSafe dst src =
      (.double src.length :: (attemptsFrom overflowChecks decompressSafe src maxDstSize).events,
        afterLoop (attemptsFrom overflowChecks decompressSafe src maxDstSize).control) := by
  rw [capacityAt_zero] at computed
  rw [deCompress, if_neg nonzero, (i32Len_of_ne_zero nonzero).1, computed]
  rfl

end Overflow

/-- The doublings of every attempt that fails, and of the length itself, are `i32`s. -/
def DoublingsFit (decompressSafe : Nat → DecompressSafe) (src : List UInt8) : Prop :=
  i32.InRange (capacityAt src 0) ∧
    ∀ i < attempts, (∀ j ≤ i, answerAt decompressSafe src j ≤ 0) →
      i32.InRange (capacityAt src (i + 1))

section FirstDoubling

variable {overflowChecks : Bool} {decompressSafe : Nat → DecompressSafe} {dst src : List UInt8}
  (nonzero : i32Len src ≠ 0)

include nonzero

theorem not_neverOverflows_of_first (first : ¬i32.InRange (capacityAt src 0)) :
    ¬NeverOverflows (deCompress overflowChecks decompressSafe dst src) := by
  intro never
  rw [capacityAt_zero] at first
  refine first (never.doubles _ ?_)
  cases computed : i32.compute overflowChecks (capacityAt src 0) with
  | none =>
    rw [deCompress_of_overflow decompressSafe dst nonzero computed]
    exact List.mem_cons_self
  | some maxDstSize =>
    rw [deCompress_of_computed decompressSafe dst nonzero computed]
    exact List.mem_cons_self

theorem doublingsFit_of_never (first : i32.InRange (capacityAt src 0))
    (never : NeverOverflows (deCompress overflowChecks decompressSafe dst src)) :
    DoublingsFit decompressSafe src := by
  obtain ⟨_, positive, _⟩ := i32Len_of_ne_zero nonzero
  rw [deCompress_of_computed decompressSafe dst nonzero (IntType.compute_of_inRange _ first)] at never
  refine ⟨first, fun i => ?_⟩
  induction i using Nat.strongRecOn with
  | ind i ih =>
    intro below failures
    rw [capacityAt_succ]
    refine never.doubles _ (List.mem_cons_of_mem _ ?_)
    refine double_of_failures positive rfl below failures fun j earlier => ?_
    exact ih j earlier (Nat.lt_trans earlier below)
      fun k le => failures k (Nat.le_trans le (Nat.le_of_lt earlier))

theorem never_of_doublingsFit (doublings : DoublingsFit decompressSafe src) :
    NeverOverflows (deCompress overflowChecks decompressSafe dst src) := by
  obtain ⟨first, fits⟩ := doublings
  rw [deCompress_of_computed decompressSafe dst nonzero (IntType.compute_of_inRange _ first)]
  have begins : AfterFailures decompressSafe src 0 ⟨capacityAt src 0, 0, []⟩ :=
    ⟨Int.le_refl 0, .inl ⟨rfl, first, nofun⟩⟩
  have doubles : ∀ size, .double size ∈ (attemptsFrom overflowChecks decompressSafe src
      (capacityAt src 0)).events → i32.InRange (size * 2) := by
    intro size member
    obtain ⟨i, below, rfl, failures⟩ := failures_of_double begins member
    rw [← capacityAt_succ]
    exact fits i below failures
  constructor
  case doubles =>
    intro size member
    rcases List.mem_cons.mp member with same | later
    · cases same
      rwa [capacityAt_zero] at first
    · exact doubles size later
  case returns =>
    intro panics
    cases control : (attemptsFrom overflowChecks decompressSafe src (capacityAt src 0)).control with
    | again state =>
      rw [control] at panics
      cases panics
    | leave left =>
      rw [control] at panics
      cases Option.map_eq_none_iff.mp panics
      obtain ⟨size, member, overflow⟩ := double_of_panic control
      exact overflow (doubles size member)
  case capacities =>
    intro capacity dstLength result member
    rcases List.mem_cons.mp member with same | later
    · cases same
    · exact capacities_of_run later

end FirstDoubling

/-- Decompressing never overflows exactly when the length of the source is none to work
with, or all doublings after failed attempts fit. -/
theorem never_overflows_iff (overflowChecks : Bool) (decompressSafe : Nat → DecompressSafe)
    (dst src : List UInt8) :
    NeverOverflows (deCompress overflowChecks decompressSafe dst src) ↔
      src.length = 0 ∨ 2 ^ 31 ≤ src.length ∨ DoublingsFit decompressSafe src := by
  rw [← or_assoc, ← i32Len_eq_zero_iff]
  by_cases zero : i32Len src = 0
  · have nothing : NeverOverflows (deCompress overflowChecks decompressSafe dst src) := by
      rw [deCompress, if_pos zero]
      exact ⟨nofun, nofun, nofun⟩
    exact ⟨fun _ => .inl zero, fun _ => nothing⟩
  · constructor
    · intro never
      by_cases first : i32.InRange (capacityAt src 0)
      · exact .inr (doublingsFit_of_never zero first never)
      · exact absurd never (not_neverOverflows_of_first zero first)
    · rintro (none | doublings)
      · exact absurd none zero
      · exact never_of_doublingsFit zero doublings

/-- A failure that wrote nothing. -/
def refusal (failure dstSize : Int) (failed : failure ≤ 0) : Answer dstSize :=
  ⟨failure, [], Int.le_trans failed (Int.natCast_nonneg _), Nat.zero_le _⟩

theorem minusOne_nonpos : (-1 : Int) ≤ 0 := by decide

/-- A decoder that finds the source malformed. -/
def malformed : DecompressSafe := fun _ dstSize => refusal (-1) dstSize minusOne_nonpos

/-- A mebibyte of `0xFF`: a literal whose length never ends. -/
def endlessLiteral : List UInt8 := List.replicate (2 ^ 20) 255

/-- Ten attempts fail, and the doubling after the tenth overflows. -/
theorem endless_literal_overflows :
    ¬NeverOverflows (deCompress true (fun _ => malformed) [] endlessLiteral) := by
  have length : endlessLiteral.length = 2 ^ 20 := List.length_replicate
  have capacity : ∀ i, capacityAt endlessLiteral i = 2 ^ 20 * 2 ^ (i + 1) := by
    intro i
    rw [capacityAt, length]
    rfl
  have nonzero : i32Len endlessLiteral ≠ 0 := by
    rw [Ne, i32Len_eq_zero_iff, length]
    decide
  have first : i32.InRange (capacityAt endlessLiteral 0) := by
    rw [capacity, inRange_i32_iff]
    decide
  intro never
  rw [deCompress_of_computed _ _ nonzero (IntType.compute_of_inRange _ first)] at never
  have last : .double (capacityAt endlessLiteral 9) ∈ (attemptsFrom true (fun _ => malformed)
      endlessLiteral (capacityAt endlessLiteral 0)).events := by
    refine double_of_failures (by rw [length]; decide) rfl (by decide) (fun j _ => ?_) ?_
    · exact minusOne_nonpos
    · intro j below
      rw [capacity, inRange_i32_iff]
      have bound : (2 : Int) ^ (j + 1 + 1) ≤ 2 ^ 10 := by
        exact_mod_cast Nat.pow_le_pow_right (by decide) (by omega : j + 1 + 1 ≤ 10)
      have nonneg : (0 : Int) ≤ 2 ^ (j + 1 + 1) := Int.pow_nonneg (by decide)
      omega
  have overflow := never.doubles _ (List.mem_cons_of_mem _ last)
  rw [capacity, inRange_i32_iff] at overflow
  exact absurd overflow (by decide)

end WolfEngine.Verified
