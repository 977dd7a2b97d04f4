import Mathlib.Data.List.Forall2
import Mathlib.Data.List.Induction

/-! # Writing prefixes over a shared block

A block that several writers share is only ever changed by writing a list over
its front: `overlay patch base`.  `paint` is a whole history of such writes.

The writers are of two sides, and what one side wrote stays in the block until a
write that is long enough goes over it.  `exposed` is how far the *foreign* writes
of a history reach that the own ones have not covered since.  Past it, two
histories with the same own writes leave the same block (`block_agree`); its last
position still holds what a foreign write put there (`exposed_split`,
`block_getElem?_of_last`).
-/

namespace Overlay

variable {α : Type}

/-- `base` with its front replaced by `patch`. -/
def overlay (patch base : List α) : List α := patch ++ base.drop patch.length

/-- A history of writes, oldest first. -/
def paint (patches : List (List α)) (base : List α) : List α :=
  patches.foldl (fun block patch => overlay patch block) base

theorem overlay_length (patch base : List α) :
    (overlay patch base).length = max patch.length base.length := by
  simp only [overlay, List.length_append, List.length_drop]
  omega

@[simp] theorem overlay_take (patch base : List α) :
    (overlay patch base).take patch.length = patch := by
  simp [overlay]

/-- Two writes in a row are one write. -/
theorem overlay_overlay (second first base : List α) :
    overlay second (overlay first base) = overlay (overlay second first) base := by
  simp only [overlay, List.drop_append, List.drop_drop, List.append_assoc, List.length_append,
    List.length_drop]
  congr 3
  omega

theorem overlay_getElem? (patch base : List α) (position : Nat) :
    (overlay patch base)[position]? =
      if position < patch.length then patch[position]? else base[position]? := by
  unfold overlay
  split
  next inside => exact List.getElem?_append_left inside
  next outside =>
    rw [List.getElem?_append_right (by omega), List.getElem?_drop]
    congr 1
    omega

@[simp] theorem paint_nil (base : List α) : paint [] base = base := rfl

@[simp] theorem paint_cons (patch : List α) (patches : List (List α)) (base : List α) :
    paint (patch :: patches) base = paint patches (overlay patch base) := rfl

@[simp] theorem paint_append (first second : List (List α)) (base : List α) :
    paint (first ++ second) base = paint second (paint first base) := List.foldl_append

/-- What no write reaches stays. -/
theorem paint_getElem?_of_short {patches : List (List α)} {position : Nat}
    (short : ∀ patch ∈ patches, patch.length ≤ position) (base : List α) :
    (paint patches base)[position]? = base[position]? := by
  induction patches generalizing base with
  | nil => rfl
  | cons patch patches ih =>
    have here := short patch List.mem_cons_self
    rw [paint_cons, ih (fun p member => short p (List.mem_cons_of_mem _ member)),
      overlay_getElem?, if_neg (by omega)]

/-! ## Own and foreign writes -/

section Sides

variable {β : Type} (foreign : β → Prop) [DecidablePred foreign] (reach : β → Nat)

/-- What a write does to the exposed front: a foreign one lengthens it, an own one
clears it when it covers all of it. -/
def expose (front : Nat) (write : β) : Nat :=
  if foreign write then max front (reach write)
  else if front ≤ reach write then 0 else front

/-- How far uncovered foreign writes reach. -/
def exposed (writes : List β) : Nat := writes.foldl (expose foreign reach) 0

/-- Every foreign write was covered by an own one after it. -/
def Overwritten (writes : List β) : Prop :=
  ∀ before write after, writes = before ++ write :: after → foreign write → 0 < reach write →
    ∃ own ∈ after, ¬foreign own ∧ reach write ≤ reach own

variable {foreign reach}

theorem expose_of_foreign {write : β} (theirs : foreign write) (front : Nat) :
    expose foreign reach front write = max front (reach write) := if_pos theirs

theorem expose_of_own {write : β} (ours : ¬foreign write) (front : Nat) :
    expose foreign reach front write = if front ≤ reach write then 0 else front := if_neg ours

theorem exposed_concat (writes : List β) (write : β) :
    exposed foreign reach (writes ++ [write]) =
      expose foreign reach (exposed foreign reach writes) write := by
  simp [exposed]

/-- The foreign write that reaches furthest among the uncovered ones: nothing after
it reaches as far as what is exposed. -/
theorem exposed_split {writes : List β} (visible : 0 < exposed foreign reach writes) :
    ∃ before write after, writes = before ++ write :: after ∧ foreign write ∧
      exposed foreign reach writes ≤ reach write ∧
      ∀ later ∈ after, reach later < exposed foreign reach writes := by
  induction writes using List.reverseRecOn with
  | nil => cases visible
  | append_singleton writes last ih =>
    rw [exposed_concat] at visible ⊢
    have extend : ∀ front, front = exposed foreign reach writes → reach last < front →
        ∃ before write after, writes ++ [last] = before ++ write :: after ∧ foreign write ∧
          front ≤ reach write ∧ ∀ later ∈ after, reach later < front := by
      rintro _ rfl shorter
      obtain ⟨before, write, after, rfl, theirs, reaches, short⟩ := ih (by omega)
      refine ⟨before, write, after ++ [last], by simp, theirs, reaches, fun later member => ?_⟩
      rcases List.mem_append.mp member with earlier | final
      · exact short later earlier
      · rw [List.mem_singleton.mp final]
        exact shorter
    by_cases side : foreign last
    · rw [expose_of_foreign side] at visible ⊢
      rcases Nat.lt_or_ge (reach last) (exposed foreign reach writes) with shorter | longer
      · exact extend _ (Nat.max_eq_left (Nat.le_of_lt shorter)) (by omega)
      · exact ⟨writes, last, [], rfl, side, by omega, nofun⟩
    · rw [expose_of_own side] at visible ⊢
      split at visible
      · cases visible
      next short =>
        rw [if_neg short]
        exact extend _ rfl (by omega)

/-- A foreign write stays exposed as long as no own write covers it. -/
theorem le_exposed {before after : List β} {write : β} (theirs : foreign write)
    (short : ∀ own ∈ after, ¬foreign own → reach own < reach write) :
    reach write ≤ exposed foreign reach (before ++ write :: after) := by
  induction after using List.reverseRecOn with
  | nil =>
    rw [exposed_concat, expose_of_foreign theirs]
    omega
  | append_singleton after last ih =>
    have earlier := ih (fun own member => short own (List.mem_append_left _ member))
    rw [← List.cons_append, ← List.append_assoc, exposed_concat]
    by_cases side : foreign last
    · rw [expose_of_foreign side]
      omega
    · have shorter := short last (by simp) side
      rw [expose_of_own side, if_neg (by omega)]
      exact earlier

theorem exposed_eq_zero_iff (writes : List β) :
    exposed foreign reach writes = 0 ↔ Overwritten foreign reach writes := by
  constructor
  · rintro hidden before write after rfl theirs reaches
    refine Classical.byContradiction fun uncovered => ?_
    have visible : reach write ≤ exposed foreign reach (before ++ write :: after) :=
      le_exposed theirs fun own member ours =>
        Nat.lt_of_not_le fun covers => uncovered ⟨own, member, ours, covers⟩
    omega
  · intro covered
    refine Nat.eq_zero_of_not_pos fun visible => ?_
    obtain ⟨before, write, after, split, theirs, reaches, short⟩ := exposed_split visible
    obtain ⟨own, member, _, covers⟩ := covered before write after split theirs (by omega)
    have := short own member
    omega

/-! ## Two histories -/

variable (foreign) (patch : β → List α)

/-- Two writes that differ at most in what a foreign one wrote. -/
structure Similar (write write' : β) : Prop where
  side : foreign write ↔ foreign write'
  own : ¬foreign write → patch write = patch write'

/-- The block after a history of writes. -/
def block (writes : List β) (base : List α) : List α := paint (writes.map patch) base

variable {foreign patch}

/-- Blocks that agree past what is exposed in them go on doing so. -/
theorem block_agree {writes writes' : List β}
    (similar : List.Forall₂ (Similar foreign patch) writes writes') (front front' : Nat)
    {base base' : List α}
    (agree : ∀ position, front ≤ position → front' ≤ position → base[position]? = base'[position]?)
    (position : Nat)
    (past : writes.foldl (expose foreign fun w => (patch w).length) front ≤ position)
    (past' : writes'.foldl (expose foreign fun w => (patch w).length) front' ≤ position) :
    (block patch writes base)[position]? = (block patch writes' base')[position]? := by
  induction similar generalizing front front' base base' with
  | nil => exact agree position past past'
  | @cons write write' writes writes' same _ ih =>
    refine ih _ _ (fun i reached reached' => ?_) past past'
    rw [overlay_getElem?, overlay_getElem?]
    by_cases side : foreign write
    · rw [expose_of_foreign side] at reached
      rw [expose_of_foreign (same.side.mp side)] at reached'
      rw [if_neg (by omega), if_neg (by omega)]
      exact agree i (by omega) (by omega)
    · rw [expose_of_own side] at reached
      rw [expose_of_own (fun side' => side (same.side.mpr side'))] at reached'
      rw [← same.own side] at reached' ⊢
      by_cases written : i < (patch write).length
      · rw [if_pos written, if_pos written]
      · rw [if_neg written, if_neg written]
        apply agree i
        · split at reached <;> omega
        · split at reached' <;> omega

/-- Similar histories with nothing exposed leave the same block. -/
theorem block_eq_of_overwritten {writes writes' : List β}
    (similar : List.Forall₂ (Similar foreign patch) writes writes')
    (covered : Overwritten foreign (fun w => (patch w).length) writes)
    (covered' : Overwritten foreign (fun w => (patch w).length) writes') (base : List α) :
    block patch writes base = block patch writes' base := by
  refine List.ext_getElem? fun position => ?_
  refine block_agree similar 0 0 (fun _ _ _ => rfl) position ?_ ?_
  · exact Nat.le_trans (Nat.le_of_eq ((exposed_eq_zero_iff writes).mpr covered)) (Nat.zero_le _)
  · exact Nat.le_trans (Nat.le_of_eq ((exposed_eq_zero_iff writes').mpr covered')) (Nat.zero_le _)

/-- A write that reaches `position`, when none after it does, decides what is there. -/
theorem block_getElem?_of_last {before after : List β} {write : β} {position : Nat}
    (reaches : position < (patch write).length)
    (short : ∀ later ∈ after, (patch later).length ≤ position) (base : List α) :
    (block patch (before ++ write :: after) base)[position]? = (patch write)[position]? := by
  have untouched : ∀ later ∈ after.map patch, later.length ≤ position := by
    simpa using short
  rw [block, List.map_append, List.map_cons, paint_append, paint_cons,
    paint_getElem?_of_short untouched, overlay_getElem?, if_pos reaches]

theorem block_append (first second : List β) (base : List α) :
    block patch (first ++ second) base = block patch second (block patch first base) := by
  rw [block, List.map_append, paint_append]
  rfl

end Sides

end Overlay
