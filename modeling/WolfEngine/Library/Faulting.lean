import Mathlib.Order.Defs.Unbundled

/-! # Programs that may stop

A program reads and writes a state of type `σ` and may stop on the way with a fault of
type `ε`.  `Wp program post fault s` says that, started in `s`, it ends as `post` says
or stops with a fault that `fault` allows; there is one rule for each way to build a
program.  `Keeps R fault program` is the special case of a relation between the state
before and the state after: if `R` is a preorder it is enough to look at the steps.
-/

namespace Faulting

abbrev Program (σ ε α : Type) := StateT σ (Except ε) α

variable {σ ε α β : Type} {post : α → σ → Prop} {fault : ε → Prop} {state : σ}

def Wp (program : Program σ ε α) (post : α → σ → Prop) (fault : ε → Prop) (state : σ) : Prop :=
  match program.run state with
  | .ok (result, after) => post result after
  | .error stopped => fault stopped

/-! ## What a program is shown to do -/

theorem Wp.ok {program : Program σ ε α} (shown : Wp program post fault state) {result : α}
    {after : σ} (ran : program.run state = .ok (result, after)) : post result after := by
  unfold Wp at shown
  rw [ran] at shown
  exact shown

theorem Wp.error {program : Program σ ε α} (shown : Wp program post fault state) {stopped : ε}
    (ran : program.run state = .error stopped) : fault stopped := by
  unfold Wp at shown
  rw [ran] at shown
  exact shown

/-- A program that cannot stop comes to its end. -/
theorem Wp.ends {program : Program σ ε α} (shown : Wp program post fault state)
    (never : ∀ stopped, ¬fault stopped) :
    ∃ result after, program.run state = .ok (result, after) ∧ post result after := by
  cases ran : program.run state with
  | error stopped => exact absurd (shown.error ran) (never stopped)
  | ok ended => exact ⟨ended.1, ended.2, rfl, shown.ok ran⟩

theorem wp_of_run {program : Program σ ε α} {result : α} {after : σ}
    (ran : program.run state = .ok (result, after)) (ends : post result after) :
    Wp program post fault state := by
  unfold Wp
  rw [ran]
  exact ends

theorem Wp.mono {program : Program σ ε α} {weaker : α → σ → Prop} {lax : ε → Prop}
    (shown : Wp program post fault state) (ends : ∀ result after, post result after → weaker result after)
    (stops : ∀ stopped, fault stopped → lax stopped) : Wp program weaker lax state := by
  unfold Wp at shown ⊢
  rcases ran : program.run state with stopped | ⟨result, after⟩
  · rw [ran] at shown
    exact stops _ shown
  · rw [ran] at shown
    exact ends _ _ shown

/-- Two things shown of one program hold together. -/
theorem Wp.and {program : Program σ ε α} {second : α → σ → Prop}
    (left : Wp program post fault state) (right : Wp program second fault state) :
    Wp program (fun result after => post result after ∧ second result after) fault state := by
  unfold Wp at left right ⊢
  rcases ran : program.run state with stopped | ⟨result, after⟩
  · rw [ran] at right
    exact right
  · rw [ran] at left right
    exact ⟨left, right⟩

/-! ## The rules -/

@[simp] theorem wp_pure (result : α) :
    Wp (pure result : Program σ ε α) post fault state ↔ post result state := Iff.rfl

@[simp] theorem wp_throw (stopped : ε) :
    Wp (throw stopped : Program σ ε α) post fault state ↔ fault stopped := Iff.rfl

@[simp] theorem wp_get {post : σ → σ → Prop} :
    Wp (get : Program σ ε σ) post fault state ↔ post state state := Iff.rfl

@[simp] theorem wp_modify {post : Unit → σ → Prop} (change : σ → σ) :
    Wp (modify change : Program σ ε Unit) post fault state ↔ post () (change state) := Iff.rfl

@[simp] theorem wp_bind {program : Program σ ε α} {next : α → Program σ ε β}
    {post : β → σ → Prop} :
    Wp (program >>= next) post fault state ↔
      Wp program (fun result after => Wp (next result) post fault after) fault state := by
  unfold Wp
  rw [StateT.run_bind]
  rcases program.run state with stopped | ⟨result, after⟩
  · exact Iff.rfl
  · exact Iff.rfl

@[simp] theorem wp_ite (condition : Prop) [Decidable condition] (yes no : Program σ ε α) :
    Wp (if condition then yes else no) post fault state ↔
      (condition → Wp yes post fault state) ∧ (¬condition → Wp no post fault state) := by
  by_cases holds : condition <;> simp [holds]

/-- A first part that nothing is known about. -/
theorem wp_skip {program : Program σ ε α} {next : α → Program σ ε β} {post : β → σ → Prop}
    (stops : ∀ stopped, fault stopped)
    (second : ∀ result middle, Wp (next result) post fault middle) :
    Wp (program >>= next) post fault state := by
  refine wp_bind.mpr ?_
  unfold Wp
  rcases program.run state with stopped | ⟨result, middle⟩
  · exact stops stopped
  · exact second result middle

/-- Two programs with one first part. -/
theorem Wp.bind_mono {program : Program σ ε α} {next other : α → Program σ ε β}
    {post weaker : β → σ → Prop} (shown : Wp (program >>= next) post fault state)
    (rest : ∀ result middle, Wp (next result) post fault middle →
      Wp (other result) weaker fault middle) :
    Wp (program >>= other) weaker fault state :=
  wp_bind.mpr <| (wp_bind.mp shown).mono rest fun _ => id

/-- Two programs that branch on one condition. -/
theorem Wp.ite_mono {condition : Prop} [Decidable condition] {yes no maybe other : Program σ ε α}
    {weaker : α → σ → Prop}
    (shown : Wp (if condition then yes else no) post fault state)
    (ifYes : condition → Wp yes post fault state → Wp maybe weaker fault state)
    (ifNo : ¬condition → Wp no post fault state → Wp other weaker fault state) :
    Wp (if condition then maybe else other) weaker fault state := by
  have branches := (wp_ite _ _ _).mp shown
  exact (wp_ite _ _ _).mpr
    ⟨fun holds => ifYes holds (branches.1 holds), fun fails => ifNo fails (branches.2 fails)⟩

/-! ## What every step keeps -/

def Keeps (R : σ → σ → Prop) (fault : ε → Prop) (program : Program σ ε α) : Prop :=
  ∀ state, Wp program (fun _ after => R state after) fault state

variable {R : σ → σ → Prop}

theorem Keeps.pure [Std.Refl R] (result : α) : Keeps R fault (pure result : Program σ ε α) :=
  fun state => refl state

theorem Keeps.get [Std.Refl R] : Keeps R fault (get : Program σ ε σ) := fun state => refl state

theorem Keeps.throw {stopped : ε} (allowed : fault stopped) :
    Keeps R fault (throw stopped : Program σ ε α) := fun _ => allowed

theorem Keeps.modify {change : σ → σ} (keeps : ∀ state, R state (change state)) :
    Keeps R fault (modify change : Program σ ε Unit) := keeps

theorem Keeps.bind [IsTrans σ R] {program : Program σ ε α} {next : α → Program σ ε β}
    (first : Keeps R fault program) (second : ∀ result, Keeps R fault (next result)) :
    Keeps R fault (program >>= next) := fun state =>
  wp_bind.mpr <| (first state).mono
    (fun result after kept => (second result after).mono (fun _ _ => IsTrans.trans _ _ _ kept) fun _ => id)
    fun _ => id

theorem Keeps.ite {condition : Prop} [Decidable condition] {yes no : Program σ ε α}
    (ifYes : Keeps R fault yes) (ifNo : Keeps R fault no) :
    Keeps R fault (if condition then yes else no) := fun state =>
  (wp_ite condition yes no).mpr ⟨fun _ => ifYes state, fun _ => ifNo state⟩

/-! ## What a program returns, and what it keeps on the way -/

def Does (R : σ → σ → Prop) (value : α → Prop) (fault : ε → Prop) (program : Program σ ε α)
    (state : σ) : Prop :=
  Wp program (fun result after => R state after ∧ value result) fault state

theorem Keeps.does {program : Program σ ε α} (keeps : Keeps R fault program) (state : σ) :
    Does R (fun _ => True) fault program state :=
  (keeps state).mono (fun _ _ kept => ⟨kept, trivial⟩) fun _ => id

theorem Does.pure [Std.Refl R] {value : α → Prop} {result : α} (holds : value result) :
    Does R value fault (pure result : Program σ ε α) state := ⟨refl state, holds⟩

theorem Does.throw {value : α → Prop} {stopped : ε} (allowed : fault stopped) :
    Does R value fault (throw stopped : Program σ ε α) state := allowed

/-- `halfway` may also speak of the state in which the first part ends. -/
theorem Does.bind [IsTrans σ R] {halfway : α → σ → Prop} {last : β → Prop} {program : Program σ ε α}
    {next : α → Program σ ε β}
    (first : Wp program (fun result middle => R state middle ∧ halfway result middle) fault state)
    (second : ∀ result middle, R state middle → halfway result middle →
      Does R last fault (next result) middle) :
    Does R last fault (program >>= next) state :=
  wp_bind.mpr <| first.mono (fun result middle kept =>
    (second result middle kept.1 kept.2).mono
      (fun _ _ rest => ⟨IsTrans.trans _ _ _ kept.1 rest.1, rest.2⟩) fun _ => id) fun _ => id

/-- A step of which only what it keeps matters. -/
theorem Does.step [IsTrans σ R] {last : β → Prop} {program : Program σ ε α}
    {next : α → Program σ ε β} (first : Keeps R fault program)
    (second : ∀ result middle, R state middle → Does R last fault (next result) middle) :
    Does R last fault (program >>= next) state :=
  Does.bind (first.does state) fun result middle kept _ => second result middle kept

theorem Does.get {last : β → Prop} {next : σ → Program σ ε β}
    (second : Does R last fault (next state) state) : Does R last fault (get >>= next) state := second

theorem Does.modify [IsTrans σ R] {last : β → Prop} {change : σ → σ} {next : Unit → Program σ ε β}
    (keeps : R state (change state)) (second : Does R last fault (next ()) (change state)) :
    Does R last fault (modify change >>= next) state :=
  wp_bind.mpr <| (wp_modify change).mpr <|
    Wp.mono second (fun _ _ rest => ⟨IsTrans.trans _ _ _ keeps rest.1, rest.2⟩) fun _ => id

theorem Does.ite {value : α → Prop} {condition : Prop} [Decidable condition]
    {yes no : Program σ ε α} (ifYes : condition → Does R value fault yes state)
    (ifNo : ¬condition → Does R value fault no state) :
    Does R value fault (if condition then yes else no) state :=
  (wp_ite condition yes no).mpr ⟨ifYes, ifNo⟩

theorem Does.mono {value weaker : α → Prop} {lax : ε → Prop} {program : Program σ ε α}
    (does : Does R value fault program state) (values : ∀ result, value result → weaker result)
    (stops : ∀ stopped, fault stopped → lax stopped) : Does R weaker lax program state :=
  Wp.mono does (fun result _ done => ⟨done.1, values result done.2⟩) stops

/-- What a first part does, used for the whole. -/
theorem Does.next {value : α → Prop} {lax : ε → Prop} {program : Program σ ε α}
    {next : α → Program σ ε β} {post : β → σ → Prop} (does : Does R value fault program state)
    (stops : ∀ stopped, fault stopped → lax stopped)
    (second : ∀ result middle, R state middle → value result → Wp (next result) post lax middle) :
    Wp (program >>= next) post lax state :=
  wp_bind.mpr (Wp.mono does (fun result middle done => second result middle done.1 done.2) stops)

theorem Keeps.next {program : Program σ ε α} {next : α → Program σ ε β} {post : β → σ → Prop}
    (keeps : Keeps R fault program)
    (second : ∀ result middle, R state middle → Wp (next result) post fault middle) :
    Wp (program >>= next) post fault state :=
  (keeps.does state).next (fun _ => id) fun result middle kept _ => second result middle kept

end Faulting
