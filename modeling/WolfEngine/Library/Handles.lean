import Mathlib.Data.List.Basic

/-! # Handles

Handles point to objects, and an object is released through its handles: they are made,
shared and dropped, and one that is overwritten or dropped at once was made all the same.
A handling is settled when every object that had a handle was released exactly once if
none is left, and nothing else was released.  Whether an operation leaves it settled is
an equivalence for each of them.
-/

namespace Handles

structure Handling (ω : Type) where
  /-- In the order in which they were made; `none` is one that is gone. -/
  handles : List (Option ω)
  /-- The objects that handles were made for. -/
  wrapped : List ω
  released : List ω

variable {ω : Type} {handling before after : Handling ω} {object : ω} {place : Nat}

/-! ## Operations -/

def Handling.make (object : ω) (handling : Handling ω) : Handling ω :=
  { handling with
    handles := handling.handles ++ [some object]
    wrapped := handling.wrapped ++ [object] }

def Handling.share (handle : Option ω) (handling : Handling ω) : Handling ω :=
  { handling with handles := handling.handles ++ [handle] }

/-- The handle at a place is dropped, and its object is released. -/
def Handling.drop (place : Nat) (object : ω) (handling : Handling ω) : Handling ω :=
  { handling with
    handles := handling.handles.set place none
    released := handling.released ++ [object] }

/-- A handle is made and overwritten. -/
def Handling.overwrite (object : ω) (handling : Handling ω) : Handling ω :=
  { handling with wrapped := handling.wrapped ++ [object] }

/-- A handle is made and dropped. -/
def Handling.discard (object : ω) (handling : Handling ω) : Handling ω :=
  { handling with
    wrapped := handling.wrapped ++ [object]
    released := handling.released ++ [object] }

/-- No other handle points to the same object. -/
def Handling.Sole (place : Nat) (handling : Handling ω) : Prop :=
  ∀ object, handling.handles[place]? = some (some object) →
    some object ∉ handling.handles.set place none

/-- Dropping a handle leaves those of the other objects. -/
theorem mem_set_none {handles : List (Option ω)} (here : handles[place]? = some (some object))
    {other : ω} (different : other ≠ object) :
    some other ∈ handles.set place none ↔ some other ∈ handles := by
  simp only [List.mem_iff_getElem?, List.getElem?_set]
  constructor
  · intro ⟨i, found⟩
    refine ⟨i, ?_⟩
    split at found
    · split at found <;> cases found
    · exact found
  · intro ⟨i, found⟩
    refine ⟨i, ?_⟩
    have elsewhere : place ≠ i := by
      intro same
      rw [← same, here] at found
      cases found
      exact different rfl
    rw [if_neg elsewhere]
    exact found

/-! ## Settled handlings -/

variable [DecidableEq ω]

structure Settled (handling : Handling ω) : Prop where
  covered : ∀ object, some object ∈ handling.handles → object ∈ handling.wrapped
  once : ∀ object, handling.released.count object =
    if object ∈ handling.wrapped ∧ some object ∉ handling.handles then 1 else 0

/-- What never had a handle was not released. -/
theorem Settled.fresh (settled : Settled handling) (new : object ∉ handling.wrapped) :
    object ∉ handling.released := by
  apply List.count_eq_zero.mp
  rw [settled.once, if_neg fun old => new old.1]

theorem Settled.held (settled : Settled handling) (held : some object ∈ handling.handles) :
    object ∉ handling.released := by
  apply List.count_eq_zero.mp
  rw [settled.once, if_neg fun gone => gone.2 held]

/-- What an operation does to one object decides. -/
theorem Settled.iff_at (settled : Settled before) (object : ω)
    (covered : ∀ other, some other ∈ after.handles → other ∈ after.wrapped)
    (released : ∀ other, other ≠ object → after.released.count other = before.released.count other)
    (wrapped : ∀ other, other ≠ object → (other ∈ after.wrapped ↔ other ∈ before.wrapped))
    (handles : ∀ other, other ≠ object → (some other ∈ after.handles ↔ some other ∈ before.handles)) :
    Settled after ↔ after.released.count object =
      if object ∈ after.wrapped ∧ some object ∉ after.handles then 1 else 0 := by
  constructor
  · intro settled
    exact settled.once object
  · intro here
    refine ⟨covered, fun other => ?_⟩
    by_cases same : other = object
    · rw [same]
      exact here
    · rw [released other same, settled.once other]
      simp only [wrapped other same, handles other same]

theorem settled_make_iff (settled : Settled handling) :
    Settled (handling.make object) ↔ object ∉ handling.released := by
  have covered : ∀ other, some other ∈ (handling.make object).handles →
      other ∈ (handling.make object).wrapped := by
    intro other member
    simp only [Handling.make, List.mem_append, List.mem_singleton, Option.some.injEq] at member ⊢
    exact member.imp_left (settled.covered other)
  rw [settled.iff_at object covered]
  · simp [Handling.make, List.count_eq_zero]
  · intro _ _
    rfl
  · intro other different
    simp [Handling.make, different]
  · intro other different
    simp [Handling.make, different]

theorem settled_share (settled : Settled handling) {handle : Option ω}
    (member : handle ∈ handling.handles) : Settled (handling.share handle) := by
  have same (object : ω) : some object ∈ (handling.share handle).handles ↔
      some object ∈ handling.handles := by
    simp only [Handling.share, List.mem_append, List.mem_singleton]
    constructor
    · intro held
      exact held.elim id fun same => same ▸ member
    · exact .inl
  constructor
  · intro object held
    exact settled.covered object ((same object).mp held)
  · intro object
    simp only [same]
    exact settled.once object

theorem settled_drop_iff (settled : Settled handling)
    (here : handling.handles[place]? = some (some object)) :
    Settled (handling.drop place object) ↔ handling.Sole place := by
  have held : some object ∈ handling.handles := List.mem_of_getElem? here
  have covered : ∀ other, some other ∈ (handling.drop place object).handles →
      other ∈ (handling.drop place object).wrapped := by
    intro other member
    apply settled.covered
    by_cases same : other = object
    · rw [same]
      exact held
    · exact (mem_set_none here same).mp member
  have sole : handling.Sole place ↔ some object ∉ handling.handles.set place none := by
    constructor
    · intro sole
      exact sole object here
    · intro gone other found
      rw [here] at found
      cases found
      exact gone
  rw [settled.iff_at object covered, sole]
  · have wrapped := settled.covered object held
    have none := List.count_eq_zero.mpr (settled.held held)
    simp [Handling.drop, List.count_append, none, wrapped]
  · intro other different
    simp [Handling.drop, List.count_append, different.symm]
  · intro _ _
    rfl
  · intro other different
    exact mem_set_none here different

theorem settled_overwrite_iff (settled : Settled handling) :
    Settled (handling.overwrite object) ↔
      some object ∈ handling.handles ∨ object ∈ handling.released := by
  have covered : ∀ other, some other ∈ (handling.overwrite object).handles →
      other ∈ (handling.overwrite object).wrapped :=
    fun other member => List.mem_append_left _ (settled.covered other member)
  rw [settled.iff_at object covered]
  · show handling.released.count object = _ ↔ _
    by_cases held : some object ∈ handling.handles
    · simp [Handling.overwrite, held, List.count_eq_zero.mpr (settled.held held)]
    · have count := settled.once object
      by_cases old : object ∈ handling.wrapped
      · rw [if_pos ⟨old, held⟩] at count
        have released : object ∈ handling.released := by
          apply List.count_pos_iff.mp
          omega
        simp [Handling.overwrite, held, count, released]
      · have unreleased := settled.fresh old
        simp [Handling.overwrite, held, unreleased, List.count_eq_zero.mpr unreleased]
  · intro _ _
    rfl
  · intro other different
    simp [Handling.overwrite, different]
  · intro _ _
    exact Iff.rfl

theorem settled_discard_iff (settled : Settled handling) :
    Settled (handling.discard object) ↔
      some object ∉ handling.handles ∧ object ∉ handling.released := by
  have covered : ∀ other, some other ∈ (handling.discard object).handles →
      other ∈ (handling.discard object).wrapped :=
    fun other member => List.mem_append_left _ (settled.covered other member)
  rw [settled.iff_at object covered]
  · show (handling.released ++ [object]).count object = _ ↔ _
    rw [List.count_append, List.count_singleton_self]
    by_cases held : some object ∈ handling.handles
    · simp [Handling.discard, held]
    · simp [Handling.discard, held, List.count_eq_zero]
  · intro other different
    simp [Handling.discard, List.count_append, different.symm]
  · intro other different
    simp [Handling.discard, different]
  · intro _ _
    exact Iff.rfl

end Handles
