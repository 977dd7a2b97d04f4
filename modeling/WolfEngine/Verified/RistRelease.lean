import Mathlib.Data.List.Perm.Basic
import WolfEngine.Library.Transitions
import WolfEngine.Stream.RistSession

/-! # What a RIST session releases

A session gives back what it acquired, but for three slips: an initialisation that fails
half way leaves what it has made, a connect that fails before its peer is made leaves the
peer's settings, and a read leaves the block whose pointer it overwrites.
-/

namespace WolfEngine.Verified.RistRelease

open WolfEngine.Stream.RistSession Custody Transitions
open WolfEngine.Stream
open WolfEngine.Stream.RistFfi (RistCtxMode RistAnswers World)

/-- The blocks of the wrappers. -/
def blocksOf (dataBlocks : List (Option (Option Nat))) : List Nat := dataBlocks.filterMap Option.join

/-- What a `w_rist_ctx_t` can release. -/
def contextOf (rist : WRistCtx) : List Nat := rist.ctx.toList ++ (rist.log.toList ++ [rist.place])

/-- What the session can still release. -/
def held (session : Session) : List Nat := blocksOf session.dataBlocks ++ contextOf session.ctx

/-- A step that loses nothing: the settings of a peer come to a peer, and a read overwrites
no pointer but a null one. -/
def Tidy (session : Session) : Operation → Session → Prop
  | .connect _ answers, _ => answers.ristParseAddress2.made = true →
    answers.ristParseAddress2.ret = 0 ∧ answers.ristPeerCreate ≠ -1
  | .read place ristReceiverDataRead2, _ =>
    ristReceiverDataRead2.pointer = .left ∨ session.dataBlocks[place]? = some (some none)
  | .newBlock _, _ | .dropBlock _, _ => True

/-! ## Calls -/

section Calls

variable {ledger : Ledger Resource} {rest : List Nat}

theorem object_books (making : Making) (kind : Resource) (ledger : Ledger Resource) (rest : List Nat) :
    Books ledger rest True (making.object kind ledger).2
      ((making.object kind ledger).1.toList ++ rest) := by
  unfold Making.object
  cases making.made with
  | true => exact .hold ledger rest kind
  | false => exact .perm ledger (.refl rest)

theorem free_books (object : Option Nat) (ledger : Ledger Resource) (rest : List Nat) :
    Books ledger (object.toList ++ rest) True (free object ledger) rest := by
  cases object with
  | none => exact .perm ledger (.refl rest)
  | some object => exact .release ledger object rest

theorem object_toList_eq_nil {making : Making} {kind : Resource} {ledger : Ledger Resource} :
    (making.object kind ledger).1.toList = [] ↔ making.made = false := by
  unfold Making.object
  cases making.made <;> simp

theorem connect_books (answers : ConnectAnswers) (ledger : Ledger Resource) (rest : List Nat) :
    Books ledger rest
      (answers.ristParseAddress2.made = true →
        answers.ristParseAddress2.ret = 0 ∧ answers.ristPeerCreate ≠ -1)
      (wRistConnect answers ledger).2 rest := by
  have parsed := object_books answers.ristParseAddress2 .peerConfig ledger rest
  have none := @object_toList_eq_nil answers.ristParseAddress2 .peerConfig ledger
  unfold wRistConnect
  generalize answers.ristParseAddress2.object .peerConfig ledger = config at parsed none
  obtain ⟨peerConfig, after⟩ := config
  have lost := parsed.trans (.forget after peerConfig.toList rest)
  by_cases accepted : answers.ristParseAddress2.ret = 0
  · by_cases unmade : answers.ristPeerCreate = -1
    · simp only [accepted, unmade, ne_eq, not_true_eq_false, if_true, if_false]
      exact lost.congr (by simp [none])
    · have freed := parsed.trans (free_books peerConfig after rest)
      simp only [accepted, unmade, ne_eq, not_true_eq_false, if_false]
      split <;> exact freed.congr (by simp)
  · simp only [accepted, ne_eq, not_false_eq_true, if_true]
    exact lost.congr (by simp [none])

theorem fini_books (rist : WRistCtx) (ledger : Ledger Resource) :
    Books ledger (contextOf rist) True (wRistFini (some rist) ledger) [] := by
  have first := free_books rist.ctx ledger (rist.log.toList ++ [rist.place])
  have second := free_books rist.log (free rist.ctx ledger) [rist.place]
  have third := Books.release (free rist.log (free rist.ctx ledger)) rist.place []
  exact ((first.trans second).trans third).congr (by simp)

/-- The blocks that are left are dropped. -/
theorem drops_books (dataBlocks : List (Option (Option Nat))) (ledger : Ledger Resource)
    (rest : List Nat) :
    Books ledger (blocksOf dataBlocks ++ rest) True
      (dataBlocks.foldl (fun ledger wrapper => free wrapper.join ledger) ledger) rest := by
  induction dataBlocks generalizing ledger with
  | nil => exact .perm ledger (.refl rest)
  | cons wrapper dataBlocks ih =>
    have first := free_books wrapper.join ledger (blocksOf dataBlocks ++ rest)
    have same : wrapper.join.toList ++ (blocksOf dataBlocks ++ rest) =
        blocksOf (wrapper :: dataBlocks) ++ rest := by
      cases joined : wrapper.join <;> simp [blocksOf, joined]
    rw [same] at first
    exact (first.trans (ih _)).congr (by simp)

end Calls

/-! ## Steps -/

section Steps

variable {session after : Session}

/-- One wrapper apart from the others. -/
theorem blocksOf_perm {dataBlocks : List (Option (Option Nat))} {place : Nat}
    {wrapper : Option (Option Nat)} (here : dataBlocks[place]? = some wrapper) :
    (blocksOf dataBlocks).Perm (wrapper.join.toList ++ blocksOf (dataBlocks.eraseIdx place)) := by
  obtain ⟨below, rfl⟩ := List.getElem?_eq_some_iff.mp here
  have apart := ((List.getElem_cons_eraseIdx_perm below).filterMap Option.join).symm
  cases joined : dataBlocks[place].join <;>
    simpa [blocksOf, List.filterMap_cons, joined] using apart

theorem blocksOf_set_perm {dataBlocks : List (Option (Option Nat))} {place : Nat}
    (below : place < dataBlocks.length) (wrapper : Option (Option Nat)) :
    (wrapper.join.toList ++ blocksOf (dataBlocks.eraseIdx place)).Perm
      (blocksOf (dataBlocks.set place wrapper)) := by
  have apart := ((List.set_perm_cons_eraseIdx below wrapper).filterMap Option.join).symm
  cases joined : wrapper.join <;> simpa [blocksOf, List.filterMap_cons, joined] using apart

/-- The old pointer comes out of its wrapper, and the new one goes in. -/
theorem setBlock_books {place : Nat} {block : Option Nat}
    (here : session.dataBlocks[place]? = some (some block)) (new : Option Nat) :
    Books session.ledger (new.toList ++ held session)
      (session.dataBlocks[place]? = some (some none))
      (session.setBlock place new).ledger (held (session.setBlock place new)) := by
  have below := (List.getElem?_eq_some_iff.mp here).1
  have out := ((blocksOf_perm here).append_right (contextOf session.ctx)).append_left new.toList
  have into := (blocksOf_set_perm below (some new)).append_right (contextOf session.ctx)
  simp only [Option.join_some, List.append_assoc] at out into
  have apart : Books session.ledger (new.toList ++ held session) True session.ledger _ :=
    .perm session.ledger (out.trans (List.perm_append_comm_assoc _ _ _))
  have lost := apart.trans (.forget session.ledger block.toList _)
  refine (lost.trans (.perm session.ledger into)).congr ?_
  cases block <;> simp [here]

theorem read_books {place : Nat} {block : Option Nat}
    (here : session.dataBlocks[place]? = some (some block)) (ristReceiverDataRead2 : ReadAnswers) :
    Books session.ledger (held session)
      (ristReceiverDataRead2.pointer = .left ∨ session.dataBlocks[place]? = some (some none))
      (session.read place ristReceiverDataRead2).2.ledger
      (held (session.read place ristReceiverDataRead2).2) := by
  unfold Session.read
  cases ristReceiverDataRead2.pointer with
  | left => exact (Books.perm session.ledger (.refl (held session))).congr (by simp)
  | null => exact (setBlock_books here none).congr (by simp)
  | newBlock =>
    have received := Books.hold session.ledger (held session) .dataBlock
    let receiving := { session with ledger := session.ledger.acquire .dataBlock }
    have same : receiving.dataBlocks[place]? = some (some block) := here
    have overwritten := setBlock_books same (some session.ledger.fresh)
    exact (received.trans overwritten).congr (by simp [receiving])

theorem dropBlock_books {place : Nat} {block : Option Nat}
    (here : session.dataBlocks[place]? = some (some block)) :
    Books session.ledger (held session) True (session.dropBlock place block).ledger
      (held (session.dropBlock place block)) := by
  have below := (List.getElem?_eq_some_iff.mp here).1
  have out := (blocksOf_perm here).append_right (contextOf session.ctx)
  have into := (blocksOf_set_perm below none).append_right (contextOf session.ctx)
  simp only [Option.join_some, Option.join_none, Option.toList_none, List.nil_append,
    List.append_assoc] at out into
  have apart : Books session.ledger (held session) True session.ledger _ := .perm _ out
  have freed := apart.trans (free_books block session.ledger _)
  exact (freed.trans (.perm _ into)).congr (by simp)

theorem newBlock_books (session : Session) (calloc : Bool) :
    Books session.ledger (held session) True (session.newBlock calloc).2.ledger
      (held (session.newBlock calloc).2) := by
  cases calloc with
  | false => exact .perm _ (.refl _)
  | true =>
    have holds := Books.hold session.ledger (held session) .dataBlock
    have last : held (session.newBlock true).2 = blocksOf session.dataBlocks ++
        session.ledger.fresh :: contextOf session.ctx := by
      simp [held, blocksOf, Session.newBlock]
    rw [last]
    exact (holds.trans (.perm _ List.perm_middle.symm)).congr (by simp)

theorem step_books {operation : Operation} (stepped : step session operation = some after) :
    Books session.ledger (held session) (Tidy session operation after) after.ledger
      (held after) := by
  cases operation with
  | connect pUrl answers =>
    cases stepped
    exact connect_books answers session.ledger (held session)
  | newBlock calloc =>
    cases stepped
    exact newBlock_books session calloc
  | read place ristReceiverDataRead2 =>
    obtain ⟨block, here, rfl⟩ := Option.map_eq_some_iff.mp stepped
    exact read_books (Option.join_eq_some_iff.mp here) ristReceiverDataRead2
  | dropBlock place =>
    obtain ⟨block, here, rfl⟩ := Option.map_eq_some_iff.mp stepped
    exact dropBlock_books (Option.join_eq_some_iff.mp here)

theorem run_books {operations : List Operation} {last : Session}
    (ran : run step session operations = some last) :
    Books session.ledger (held session) (Always step Tidy session operations) last.ledger
      (held last) := by
  induction operations generalizing session with
  | nil =>
    cases ran
    exact .perm _ (.refl _)
  | cons operation operations ih =>
    obtain ⟨next, stepped, rest⟩ := run_cons_eq_some.mp ran
    refine ((step_books stepped).trans (ih rest)).congr ?_
    simp [Always, stepped]

theorem close_books (session : Session) :
    Books session.ledger (held session) True session.close [] := by
  have drops := drops_books session.dataBlocks session.ledger (contextOf session.ctx)
  exact (drops.trans (fini_books session.ctx _)).congr (by simp)

end Steps

/-! ## Whole sessions -/

/-- The answers of librist, with what the calls made. -/
def initAnswers (pMode : RistCtxMode) (answers : RistAnswers) (madeLog madeCtx : Bool) :
    InitAnswers where
  calloc := answers.calloc
  ristLoggingSet := ⟨madeLog, answers.ristLoggingSet⟩
  create := ⟨madeCtx, match pMode with
    | .ristSenderMode => answers.ristSenderCreate
    | .ristReceiverMode => answers.ristReceiverCreate⟩

/-- It answers as the function of the handles does, and sets the pointer when that does. -/
theorem wRistInit_agrees (pMode : RistCtxMode) (answers : RistAnswers) (madeLog madeCtx : Bool)
    (ledger : Ledger Resource) (world : World) :
    let done := wRistInit (initAnswers pMode answers madeLog madeCtx) ledger
    ∃ after, (RistFfi.wRistInit pMode answers none).run world =
      .ok ((done.1.1, done.1.2.map fun _ => world.contexts), after) := by
  cases memory : answers.calloc with
  | false =>
    refine ⟨world, ?_⟩
    simp [RistFfi.wRistInit, wRistInit, initAnswers, memory]
    rfl
  | true =>
    refine ⟨{ world with contexts := world.contexts + 1 }, ?_⟩
    by_cases silent : answers.ristLoggingSet = 0
    · cases pMode with
      | ristSenderMode =>
        by_cases agreed : answers.ristSenderCreate = 0
        all_goals
          simp [RistFfi.wRistInit, wRistInit, initAnswers, memory, silent, agreed]
          rfl
      | ristReceiverMode =>
        by_cases agreed : answers.ristReceiverCreate = 0
        all_goals
          simp [RistFfi.wRistInit, wRistInit, initAnswers, memory, silent, agreed]
          rfl
    · simp [RistFfi.wRistInit, wRistInit, initAnswers, memory, silent]
      rfl

theorem init_books (answers : InitAnswers) :
    let done := wRistInit answers .empty
    Books .empty [] (done.1.2 = none → answers.calloc = false) done.2
        (done.1.2.elim [] contextOf) ∧
      (done.1.1 = 0 ↔ done.1.2 ≠ none) := by
  unfold wRistInit
  cases memory : answers.calloc with
  | false => exact ⟨(Books.perm _ (.refl _)).congr (by simp), by simp⟩
  | true =>
    have made := Books.hold (.empty : Ledger Resource) [] .wRistCtx
    have logged := made.trans (object_books answers.ristLoggingSet .log _ _)
    simp only [Bool.true_eq_false, if_false]
    generalize answers.ristLoggingSet.object .log _ = log at logged
    obtain ⟨log, ledger⟩ := log
    by_cases silent : answers.ristLoggingSet.ret = 0
    · have created := logged.trans (object_books answers.create .ctx _ _)
      simp only [silent, ne_eq, not_true_eq_false, if_false]
      generalize answers.create.object .ctx ledger = ctx at created
      obtain ⟨ctx, ledger⟩ := ctx
      by_cases agreed : answers.create.ret = 0
      · simp only [agreed, not_true_eq_false, if_false]
        exact ⟨created.congr (by simp), by simp⟩
      · simp only [agreed, not_false_eq_true, if_true]
        exact ⟨(created.trans (.forget_all ledger _)).congr (by simp), by simp⟩
    · simp only [silent, ne_eq, not_false_eq_true, if_true]
      exact ⟨(logged.trans (.forget_all ledger _)).congr (by simp), by simp⟩

/-- What `new` acquires and keeps. -/
theorem new_books (pMode : RistCtxMode) (answers : InitAnswers) :
    match new pMode answers with
    | .ok session => Books .empty [] True session.ledger (held session)
    | .error (_, ledger) => Books .empty [] (answers.calloc = false) ledger [] := by
  have init := init_books answers
  unfold new
  generalize wRistInit answers .empty = done at init
  obtain ⟨⟨ret, ctx⟩, ledger⟩ := done
  cases ctx with
  | none => exact init.1.congr (by simp)
  | some ctx =>
    have zero : ret = 0 := init.2.mpr (by simp)
    simp only [zero, if_true]
    exact init.1.congr (by simp)

/-- A session that was opened releases all that it acquired exactly once if and only if none
of its steps loses something; one that failed to open, only if it got no memory at all. -/
theorem session_released_iff (pMode : RistCtxMode) (answers : InitAnswers) :
    match new pMode answers with
    | .ok session => ∀ operations last, run step session operations = some last →
      (last.close.ReleasedOnce (fun _ => true) ↔ Always step Tidy session operations)
    | .error (_, ledger) => ledger.ReleasedOnce (fun _ => true) ↔ answers.calloc = false := by
  have opened := new_books pMode answers
  cases made : new pMode answers with
  | error failed =>
    rw [made] at opened
    exact opened.releasedOnce_iff
  | ok session =>
    rw [made] at opened
    intro operations last ran
    have whole := (opened.trans (run_books ran)).trans (close_books last)
    rw [whole.releasedOnce_iff]
    simp

def receiver : Session := ⟨⟨0, some 2, some 1⟩, [], ⟨[.wRistCtx, .log, .ctx], []⟩⟩

def readOver : List Operation := [.newBlock true, .read 0 ⟨.newBlock, 1⟩]

def readNothing : List Operation :=
  [.connect "rist://@:1968" ⟨⟨true, 0⟩, 0, 0⟩, .newBlock true, .read 0 ⟨.left, -1⟩, .dropBlock 0]

/-- A block that is read over is lost; one that a failed read leaves alone is not. -/
theorem read_over_lost :
    (∃ last, run step receiver readOver = some last ∧ ¬last.close.ReleasedOnce fun _ => true) ∧
    ∃ last, run step receiver readNothing = some last ∧ last.close.ReleasedOnce fun _ => true := by
  have opened : ∀ operations last, run step receiver operations = some last →
      (last.close.ReleasedOnce (fun _ => true) ↔ Always step Tidy receiver operations) :=
    session_released_iff .ristReceiverMode ⟨true, ⟨true, 0⟩, ⟨true, 0⟩⟩
  refine ⟨⟨_, rfl, fun once => ?_⟩, ⟨_, rfl, ?_⟩⟩
  · have tidy := (opened readOver _ rfl).mp once
    have read := ((tidy _ rfl).2 _ rfl).1
    cases read with
    | inl left => cases left
    | inr null => cases null
  · apply (opened readNothing _ rfl).mpr
    simp [Always, step, Tidy, readNothing]

end WolfEngine.Verified.RistRelease
