import Mathlib.Data.List.Basic

/-! # Acquired and released

A ledger lists the objects that were acquired, each known by its place in the list, and
the releases in the order they were made.  An object is *lost* when it was never
released and nothing holds it: what only releases what is held cannot bring it back
(`Lost.moves`), so it is a leak for good.
-/

namespace Custody

structure Ledger (κ : Type) where
  acquired : List κ
  released : List Nat

variable {κ : Type}

namespace Ledger

def empty : Ledger κ := ⟨[], []⟩

/-- The object that the next `acquire` returns. -/
def fresh (ledger : Ledger κ) : Nat := ledger.acquired.length

def acquire (kind : κ) (ledger : Ledger κ) : Ledger κ :=
  { ledger with acquired := ledger.acquired ++ [kind] }

def release (object : Nat) (ledger : Ledger κ) : Ledger κ :=
  { ledger with released := ledger.released ++ [object] }

/-- Every object of a kind that counts was released exactly once. -/
def ReleasedOnce (counts : κ → Bool) (ledger : Ledger κ) : Prop :=
  ∀ object kind, ledger.acquired[object]? = some kind → counts kind = true →
    ledger.released.count object = 1

end Ledger

/-- `after` comes from `before` by acquiring, and by releasing what was held or acquired
since; `held` and `heldAfter` are the objects that could be reached at either end. -/
structure Moves (before : Ledger κ) (held : Nat → Prop) (after : Ledger κ)
    (heldAfter : Nat → Prop) : Prop where
  kept : before.acquired <+: after.acquired
  released : ∀ object ∈ after.released,
    object ∈ before.released ∨ held object ∨ before.fresh ≤ object
  reached : ∀ object, heldAfter object → held object ∨ before.fresh ≤ object

/-- An object that was never released and that nothing holds. -/
structure Lost (ledger : Ledger κ) (held : Nat → Prop) (object : Nat) (kind : κ) : Prop where
  acquired : ledger.acquired[object]? = some kind
  unreleased : object ∉ ledger.released
  unheld : ¬held object

variable {ledger middle after : Ledger κ} {held heldMiddle heldAfter : Nat → Prop} {object : Nat}
  {kind : κ}

/-- A ledger only grows: what was acquired stays in its place. -/
theorem acquired_of_grown {earlier later : List κ}
    (grows : earlier <+: later) (acquired : earlier[object]? = some kind) :
    later[object]? = some kind := by
  obtain ⟨more, rfl⟩ := grows
  obtain ⟨below, _⟩ := List.getElem?_eq_some_iff.mp acquired
  rw [List.getElem?_append_left below, acquired]

theorem Moves.fresh_le (moves : Moves ledger held after heldAfter) :
    ledger.fresh ≤ after.fresh := moves.kept.length_le

theorem Moves.refl (ledger : Ledger κ) (held : Nat → Prop) : Moves ledger held ledger held :=
  ⟨List.prefix_rfl, fun _ => .inl, fun _ => .inl⟩

theorem Moves.trans (first : Moves ledger held middle heldMiddle)
    (second : Moves middle heldMiddle after heldAfter) : Moves ledger held after heldAfter where
  kept := first.kept.trans second.kept
  released object member := by
    rcases second.released object member with old | reached | new
    · exact first.released object old
    · exact .inr (first.reached object reached)
    · exact .inr (.inr (Nat.le_trans first.fresh_le new))
  reached object member := by
    rcases second.reached object member with reached | new
    · exact first.reached object reached
    · exact .inr (Nat.le_trans first.fresh_le new)

/-- Forgetting what was held changes no ledger. -/
theorem Moves.forget (fewer : ∀ object, heldAfter object → held object) :
    Moves ledger held ledger heldAfter :=
  ⟨List.prefix_rfl, fun _ => .inl, fun object reached => .inl (fewer object reached)⟩

theorem Moves.acquire (kind : κ)
    (fewer : ∀ object, heldAfter object → held object ∨ object = ledger.fresh) :
    Moves ledger held (ledger.acquire kind) heldAfter where
  kept := List.prefix_append _ _
  released _ := .inl
  reached object member := (fewer object member).imp_right fun same => Nat.le_of_eq same.symm

theorem Moves.release (isHeld : held object) (fewer : ∀ object, heldAfter object → held object) :
    Moves ledger held (ledger.release object) heldAfter where
  kept := List.prefix_rfl
  released other member := by
    rcases List.mem_append.mp member with old | new
    · exact .inl old
    · exact .inr (.inl (List.mem_singleton.mp new ▸ isHeld))
  reached other member := .inl (fewer other member)

theorem Lost.object_lt (lost : Lost ledger held object kind) : object < ledger.fresh :=
  (List.getElem?_eq_some_iff.mp lost.acquired).1

theorem Lost.moves (lost : Lost ledger held object kind)
    (moves : Moves ledger held after heldAfter) : Lost after heldAfter object kind := by
  have old : ¬ledger.fresh ≤ object := Nat.not_le.mpr lost.object_lt
  refine ⟨?_, ?_, ?_⟩
  · obtain ⟨rest, grown⟩ := moves.kept
    rw [← grown, List.getElem?_append_left lost.object_lt]
    exact lost.acquired
  · intro released
    rcases moves.released object released with before | isHeld | new
    · exact lost.unreleased before
    · exact lost.unheld isHeld
    · exact old new
  · intro reached
    rcases moves.reached object reached with isHeld | new
    · exact lost.unheld isHeld
    · exact old new

theorem Lost.not_releasedOnce {counts : κ → Bool} (lost : Lost ledger held object kind)
    (counted : counts kind = true) : ¬ledger.ReleasedOnce counts := by
  intro once
  have count := once object kind lost.acquired counted
  rw [List.count_eq_zero.mpr lost.unreleased] at count
  cases count

/-- Everything was released, and nothing twice. -/
theorem Ledger.releasedOnce_of_perm {counts : κ → Bool}
    (all : ledger.released.Perm (List.range ledger.acquired.length)) :
    ledger.ReleasedOnce counts := by
  intro object kind acquired _
  have member : object ∈ List.range ledger.acquired.length :=
    List.mem_range.mpr (List.getElem?_eq_some_iff.mp acquired).1
  rw [all.count_eq, List.nodup_range.count, if_pos member]

theorem Ledger.releasedOnce_iff_count :
    ledger.ReleasedOnce (fun _ => true) ↔
      ∀ object < ledger.acquired.length, ledger.released.count object = 1 := by
  constructor
  · intro once object below
    exact once object ledger.acquired[object] (List.getElem?_eq_getElem below) rfl
  · intro once object kind acquired _
    exact once object (List.getElem?_eq_some_iff.mp acquired).1

/-! ## Books -/

/-- Of what was acquired, nothing was released twice, or released and is still held. -/
structure Accounted (ledger : Ledger κ) (held : List Nat) : Prop where
  distinct : (ledger.released ++ held).Nodup
  within : ∀ object ∈ ledger.released ++ held, object < ledger.fresh

/-- All that was acquired was released or is held. -/
def Whole (ledger : Ledger κ) (held : List Nat) : Prop :=
  ∀ object < ledger.fresh, object ∈ ledger.released ++ held

/-- Books that stay in order, and complete as far as `tidy` says. -/
structure Books (before : Ledger κ) (heldBefore : List Nat) (tidy : Prop) (after : Ledger κ)
    (heldAfter : List Nat) : Prop where
  accounted : Accounted before heldBefore → Accounted after heldAfter
  whole : Accounted before heldBefore → (Whole after heldAfter ↔ Whole before heldBefore ∧ tidy)

namespace Books

variable {rest : List Nat} {tidy tidier : Prop} {heldBefore heldMiddle heldAfter : List Nat}

theorem trans (first : Books ledger heldBefore tidy middle heldMiddle)
    (second : Books middle heldMiddle tidier after heldAfter) :
    Books ledger heldBefore (tidy ∧ tidier) after heldAfter where
  accounted before := second.accounted (first.accounted before)
  whole before := by rw [second.whole (first.accounted before), first.whole before, and_assoc]

theorem congr (books : Books ledger heldBefore tidy after heldAfter) (same : tidy ↔ tidier) :
    Books ledger heldBefore tidier after heldAfter where
  accounted := books.accounted
  whole before := by rw [books.whole before, same]

theorem perm (ledger : Ledger κ) (same : heldBefore.Perm heldAfter) :
    Books ledger heldBefore True ledger heldAfter where
  accounted before :=
    ⟨(same.append_left _).nodup_iff.mp before.distinct, fun object member =>
      before.within object ((same.append_left _).mem_iff.mpr member)⟩
  whole _ := by
    unfold Whole
    simp only [(same.append_left ledger.released).mem_iff, and_true]

theorem hold (ledger : Ledger κ) (held : List Nat) (kind : κ) :
    Books ledger held True (ledger.acquire kind) (ledger.fresh :: held) where
  accounted before := by
    have fresh : (ledger.acquire kind).fresh = ledger.fresh + 1 := by
      simp [Ledger.fresh, Ledger.acquire]
    have new : ledger.fresh ∉ ledger.released ++ held := fun member =>
      absurd (before.within _ member) (Nat.lt_irrefl _)
    constructor
    · exact List.perm_middle.nodup_iff.mpr (List.nodup_cons.mpr ⟨new, before.distinct⟩)
    · intro object member
      rw [fresh]
      cases List.mem_cons.mp (List.perm_middle.mem_iff.mp member) with
      | inl last => exact last ▸ Nat.lt_succ_self _
      | inr old => exact Nat.lt_succ_of_lt (before.within object old)
  whole _ := by
    have fresh : (ledger.acquire kind).fresh = ledger.fresh + 1 := by
      simp [Ledger.fresh, Ledger.acquire]
    unfold Whole
    simp only [fresh, List.perm_middle.mem_iff, List.mem_cons, and_true]
    constructor
    · intro whole object below
      exact (whole object (Nat.lt_succ_of_lt below)).resolve_left (Nat.ne_of_lt below)
    · intro whole object below
      cases Nat.lt_succ_iff_lt_or_eq.mp below with
      | inl old => exact .inr (whole object old)
      | inr last => exact .inl last

theorem release (ledger : Ledger κ) (object : Nat) (rest : List Nat) :
    Books ledger (object :: rest) True (ledger.release object) rest := by
  have moved : ledger.released ++ object :: rest = (ledger.release object).released ++ rest := by
    simp [Ledger.release]
  constructor
  · exact fun before => ⟨moved ▸ before.distinct, fun other member => before.within other (moved ▸ member)⟩
  · intro _
    unfold Whole
    rw [moved, and_true]
    exact Iff.rfl

/-- What is no longer held, and was not released, is lost. -/
theorem forget (ledger : Ledger κ) (gone rest : List Nat) :
    Books ledger (gone ++ rest) (gone = []) ledger rest := by
  have part : (ledger.released ++ rest).Sublist (ledger.released ++ (gone ++ rest)) :=
    (List.Sublist.refl _).append (List.sublist_append_right gone rest)
  constructor
  · exact fun before =>
      ⟨before.distinct.sublist part, fun object member => before.within object (part.mem member)⟩
  · intro before
    constructor
    · intro whole
      refine ⟨fun object below => part.mem (whole object below), ?_⟩
      cases gone with
      | nil => rfl
      | cons object gone =>
        have distinct := List.nodup_cons.mp (List.perm_middle.nodup_iff.mp before.distinct)
        have below := before.within object (List.perm_middle.mem_iff.mpr List.mem_cons_self)
        have others : (ledger.released ++ rest).Sublist (ledger.released ++ (gone ++ rest)) :=
          (List.Sublist.refl _).append (List.sublist_append_right gone rest)
        exact absurd (others.mem (whole object below)) distinct.1
    · intro both
      rw [both.2, List.nil_append] at both
      exact both.1

theorem forget_all (ledger : Ledger κ) (gone : List Nat) :
    Books ledger gone (gone = []) ledger [] := by
  have lost := forget ledger gone []
  rwa [List.append_nil] at lost

end Books

theorem accounted_empty : Accounted (Ledger.empty : Ledger κ) [] := ⟨List.nodup_nil, by simp [Ledger.empty]⟩

theorem whole_empty : Whole (Ledger.empty : Ledger κ) [] := by
  intro object below
  cases below

/-- Where nothing is held any more, the accounts tell whether all was released once. -/
theorem Accounted.releasedOnce_iff (accounted : Accounted ledger []) :
    ledger.ReleasedOnce (fun _ => true) ↔ Whole ledger [] := by
  have distinct : ledger.released.Nodup := by simpa using accounted.distinct
  rw [Ledger.releasedOnce_iff_count]
  unfold Whole
  simp only [distinct.count, List.append_nil, Ledger.fresh]
  constructor
  · intro once object below
    by_contra missing
    simpa [missing] using once object below
  · intro whole object below
    simp [whole object below]

/-- From the first object to the last. -/
theorem Books.releasedOnce_iff {tidy : Prop} (books : Books .empty [] tidy ledger []) :
    ledger.ReleasedOnce (fun _ => true) ↔ tidy := by
  rw [(books.accounted accounted_empty).releasedOnce_iff, books.whole accounted_empty]
  simp [whole_empty]

end Custody
