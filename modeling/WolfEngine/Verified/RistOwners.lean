import WolfEngine.Library.Handles
import WolfEngine.Library.Transitions
import WolfEngine.Stream.Rist

/-! # Who owns a RIST handle

The wrappers are handles of the native objects: a clone shares the pointer, a drop
releases what it points to, and `from` overwrites the pointer that it is given.  A
program leaves every object to its last wrapper exactly when it drops no wrapper that is
shared, and gives `from` no block that is left to nobody.
-/

namespace WolfEngine.Verified.Rist

open WolfEngine.Stream.RistFfi Faulting Handles Transitions

/-! ## The handles -/

/-- The contexts that a call makes a wrapper for. -/
def wrapsContext : Call → List Nat
  | .wRistInit after => after.toList
  | _ => []

def finishesContext : Call → List Nat
  | .wRistFini pRist => pRist.toList
  | _ => []

/-- The blocks that a call makes a wrapper for: the one that it allocates, and the one
that the wrapper held until then. -/
def wrapsBlock : Call → List Nat
  | .wRistInitDataBlock before after => after.toList ++ before.toList
  | _ => []

def freesBlock : Call → List Nat
  | .wRistFreeDataBlock pBlock => pBlock.toList
  | _ => []

def contexts (world : World) : Handling Nat where
  handles := world.rists.map (·.bind (·.ctx))
  wrapped := world.calls.flatMap wrapsContext
  released := world.calls.flatMap finishesContext

def blocks (world : World) : Handling Nat where
  handles := world.dataBlocks.map (·.bind (·.block))
  wrapped := world.calls.flatMap wrapsBlock
  released := world.calls.flatMap freesBlock

/-! ## Runs -/

/-- A world, what it answered last, and for every wrapper that `from` made, and whose block
was not set since, what the block it was made from held. -/
structure History where
  world : World
  reply : Option Reply
  origins : List (Nat × List UInt8)

def History.initial : History := { world := World.initial, reply := none, origins := [] }

/-- The block of the wrapper at a place. -/
def blockAt (world : World) (place : Nat) : Option Nat :=
  (world.dataBlocks[place]?.join).bind (·.block)

def originsAfter (history : History) : Operation → List (Nat × List UInt8)
  | .fromBlock (some block) true =>
    (history.world.dataBlocks.length, history.world.blocks.getD block []) :: history.origins
  | .setBlock place _ =>
    history.origins.filter fun origin =>
      blockAt history.world origin.1 ≠ blockAt history.world place
  | _ => history.origins

def History.step (history : History) (operation : Operation) : Option History :=
  match (perform operation).run history.world with
  | .ok (reply, world) =>
    some { world, reply := some reply, origins := originsAfter history operation }
  | .error _ => none

/-- What a step should do: every context and every block was released exactly once if
wrappers for it were made and none is left, and not at all otherwise; and reading a
wrapper that was made from a block gives what that block gave. -/
structure Right (before : History) (operation : Operation) (after : History) : Prop where
  contexts : Settled (contexts after.world)
  blocks : Settled (blocks after.world)
  reads : ∀ place payload, operation = .readBlock place → (place, payload) ∈ before.origins →
    after.reply = some (.payload (readPayload payload))

/-- What an operation needs for that. -/
def Allowed (before : History) : Operation → Prop
  -- no other wrapper shares the pointer
  | .dropRist place => (contexts before.world).Sole place
  | .dropBlock place => (blocks before.world).Sole place
  -- the block is some other wrapper's, or is gone
  | .fromBlock (some block) true =>
    some block ∈ (blocks before.world).handles ∨ block ∈ (blocks before.world).released
  -- the block is nobody else's
  | .fromBlock (some block) false =>
    some block ∉ (blocks before.world).handles ∧ block ∉ (blocks before.world).released
  -- there is nothing to read
  | .readBlock place => ∀ payload, (place, payload) ∈ before.origins → payload = []
  | _ => True

/-! ## What the operations do to the handles -/

variable {before after : World} {fault : Fault → Prop} {place : Nat}

/-- Nothing about the contexts changes. -/
structure SameContexts (before after : World) : Prop where
  handling : contexts after = contexts before
  allocated : after.contexts = before.contexts

/-- Nothing about the blocks changes, nor in them. -/
structure SameBlocks (before after : World) : Prop where
  handling : blocks after = blocks before
  held : after.blocks = before.blocks
  wrappers : after.dataBlocks = before.dataBlocks

theorem wRistInit_spec (pMode : RistCtxMode) (answers : RistAnswers) :
    Wp (wRistInit pMode answers none)
      (fun result after =>
        after = { before with contexts := after.contexts } ∧
          (result = (0, some before.contexts) ∧ after.contexts = before.contexts + 1 ∨
            result = (-1, none) ∧ before.contexts ≤ after.contexts)) fault before := by
  simp [wRistInit]

@[simp] theorem wp_keepRist {post : Reply → World → Prop} (rist : Rist) :
    Wp (keepRist (.ok rist)) post fault before ↔
      post .done { before with rists := before.rists ++ [some rist] } := Iff.rfl

@[simp] theorem wp_keepBlock {post : Reply → World → Prop} (block : RistDataBlock) :
    Wp (keepBlock (.ok block)) post fault before ↔
      post .done { before with dataBlocks := before.dataBlocks ++ [some block] } := Iff.rfl

theorem newRist_spec (pMode : RistCtxMode) (answers : RistAnswers) :
    Wp (perform (.newRist pMode answers))
      (fun _ after => SameBlocks before after ∧
        (contexts after = (contexts before).make before.contexts ∧
            after.contexts = before.contexts + 1 ∨
          contexts after = contexts before ∧ before.contexts ≤ after.contexts))
      (fun _ => True) before := by
  refine wp_bind.mpr (wp_bind.mpr ((wRistInit_spec pMode answers).mono ?_ fun _ => id))
  intro result middle ⟨same, outcome⟩
  rw [same]
  cases outcome with
  | inl made =>
    obtain ⟨rfl, allocated⟩ := made
    refine wp_bind.mpr ((wp_modify _).mpr ((wp_ite _ _ _).mpr ⟨fun _ => ?_, fun nonzero => ?_⟩))
    · refine (wp_pure _).mpr ((wp_keepRist _).mpr ⟨?_, .inl ⟨?_, allocated⟩⟩)
      · constructor <;> simp [blocks, wrapsBlock, freesBlock]
      · simp [contexts, Handling.make, wrapsContext, finishesContext]
    · exact absurd rfl nonzero
  | inr failed =>
    obtain ⟨rfl, grown⟩ := failed
    refine wp_bind.mpr ((wp_modify _).mpr ((wp_ite _ _ _).mpr ⟨fun zero => ?_, fun _ => ?_⟩))
    · cases zero
    refine wp_bind.mpr ((wp_modify _).mpr ((wp_pure _).mpr ((wp_pure _).mpr ⟨?_, .inr ⟨?_, grown⟩⟩)))
    · constructor <;> simp [blocks, wrapsBlock, freesBlock]
    · simp [contexts, wrapsContext, finishesContext]

theorem wrapperAt_spec {α : Type} (wrappers : World → List (Option α)) (place : Nat) :
    Wp (wrapperAt wrappers place)
      (fun wrapper after => after = before ∧ (wrappers before)[place]? = some (some wrapper))
      (fun _ => True) before := by
  refine wp_bind.mpr (wp_get.mpr ?_)
  cases found : (wrappers before)[place]? with
  | none => trivial
  | some slot =>
    cases slot with
    | none => trivial
    | some wrapper => exact ⟨rfl, rfl⟩

theorem cloneRist_spec (place : Nat) :
    Wp (perform (.cloneRist place))
      (fun _ after => SameBlocks before after ∧ after.contexts = before.contexts ∧
        ∃ handle ∈ (contexts before).handles, contexts after = (contexts before).share handle)
      (fun _ => True) before := by
  refine wp_bind.mpr ((wrapperAt_spec World.rists place).mono ?_ fun _ => id)
  intro rist middle ⟨same, found⟩
  rw [same]
  refine (wp_keepRist rist).mpr ⟨?_, rfl, rist.ctx, ?_, ?_⟩
  · constructor <;> rfl
  · exact List.mem_map.mpr ⟨some rist, List.mem_of_getElem? found, rfl⟩
  · simp [contexts, Handling.share]

/-- A wrapper that is dropped releases what it points to; one with a null pointer does
nothing. -/
theorem dropped_cases {α : Type} {wrappers : List (Option α)} {wrapper : α}
    (pointer : α → Option Nat) (found : wrappers[place]? = some (some wrapper))
    {handling : Handling Nat} (handles : handling.handles = wrappers.map (·.bind pointer))
    {dropped : Handling Nat}
    (isDropped : dropped = { handling with
      handles := (wrappers.set place none).map (·.bind pointer)
      released := handling.released ++ (pointer wrapper).toList }) :
    dropped = handling ∧ handling.Sole place ∨
      ∃ object, handling.handles[place]? = some (some object) ∧
        dropped = handling.drop place object := by
  have here : handling.handles[place]? = some (pointer wrapper) := by simp [handles, found]
  have cleared : (wrappers.set place none).map (·.bind pointer) = handling.handles.set place none := by
    simp [handles, List.map_set]
  rw [isDropped, cleared]
  cases isNull : pointer wrapper with
  | none =>
    rw [isNull] at here
    obtain ⟨below, same⟩ := List.getElem?_eq_some_iff.mp here
    have unchanged : handling.handles.set place none = handling.handles := by
      rw [← same, List.set_getElem_self]
    left
    constructor
    · rw [unchanged, Option.toList_none, List.append_nil]
    · intro object points
      rw [here] at points
      cases points
  | some object =>
    rw [isNull] at here
    exact .inr ⟨object, here, rfl⟩

theorem dropRist_spec (place : Nat) :
    Wp (perform (.dropRist place))
      (fun _ after => SameBlocks before after ∧ after.contexts = before.contexts ∧
        (contexts after = contexts before ∧ (contexts before).Sole place ∨
          ∃ ctx, (contexts before).handles[place]? = some (some ctx) ∧
            contexts after = (contexts before).drop place ctx))
      (fun _ => True) before := by
  refine wp_bind.mpr ((wrapperAt_spec World.rists place).mono ?_ fun _ => id)
  intro rist middle ⟨same, found⟩
  rw [same]
  refine wp_bind.mpr ((wp_modify _).mpr (wp_bind.mpr ((wp_modify _).mpr ((wp_pure _).mpr ⟨?_, rfl, ?_⟩))))
  · constructor <;> simp [blocks, wrapsBlock, freesBlock]
  · apply dropped_cases Rist.ctx found rfl
    simp [contexts, wrapsContext, finishesContext]

theorem receive_spec (payload : List UInt8) :
    Wp (perform (.receive payload))
      (fun _ after => SameContexts before after ∧ blocks after = blocks before ∧
        after.blocks = before.blocks ++ [payload] ∧ after.dataBlocks = before.dataBlocks)
      (fun _ => True) before :=
  ⟨⟨rfl, rfl⟩, rfl, rfl, rfl⟩

/-- `from` overwrites the pointer that it is given, or fails and frees what it points to. -/
theorem fromBlock_spec (pDataBlock : Option Nat) (calloc : Bool) :
    Wp (perform (.fromBlock pDataBlock calloc))
      (fun _ after => SameContexts before after ∧ (∀ block ∈ pDataBlock, block < before.blocks.length) ∧
        if calloc = true then
          blocks after = pDataBlock.elim id Handling.overwrite
              ((blocks before).make before.blocks.length) ∧
            after.blocks = before.blocks ++ [[]] ∧
            after.dataBlocks = before.dataBlocks ++ [some ⟨some before.blocks.length⟩]
        else
          blocks after = pDataBlock.elim id Handling.discard (blocks before) ∧
            after.blocks = before.blocks ∧ after.dataBlocks = before.dataBlocks)
      (fun _ => True) before := by
  refine wp_bind.mpr (wp_get.mpr ((wp_ite _ _ _).mpr ⟨fun _ => wp_bind.mpr trivial, fun given => ?_⟩))
  have below : ∀ block ∈ pDataBlock, block < before.blocks.length := by
    intro block isBlock
    rw [isBlock] at given
    simpa using given
  cases calloc with
  | true =>
    refine ⟨⟨?_, rfl⟩, below, ?_⟩
    · simp [contexts, wrapsContext, finishesContext]
    · cases pDataBlock <;>
        simp [blocks, wrapsBlock, freesBlock, Handling.make, Handling.overwrite]
  | false =>
    cases pDataBlock with
    | none =>
      refine ⟨⟨?_, rfl⟩, below, ?_⟩
      · simp [contexts, wrapsContext, finishesContext]
      · simp [blocks, wrapsBlock, freesBlock]
    | some block =>
      refine ⟨⟨?_, rfl⟩, below, ?_⟩
      · simp [contexts, wrapsContext, finishesContext]
      · simp [blocks, wrapsBlock, freesBlock, Handling.discard]

/-- The block of a wrapper that is set or read. -/
theorem pointee_spec (pBlock : Option Nat) :
    Wp (pointee pBlock) (fun block after => after = before ∧ pBlock = some block) (fun _ => True) before := by
  cases pBlock with
  | none => trivial
  | some block =>
    refine wp_bind.mpr (wp_get.mpr ((wp_ite _ _ _).mpr ⟨fun _ => wp_bind.mpr trivial, fun _ => ?_⟩))
    exact ⟨rfl, rfl⟩

theorem setBlock_spec (place : Nat) (pData : List UInt8) :
    Wp (perform (.setBlock place pData))
      (fun _ after => SameContexts before after ∧ blocks after = blocks before ∧
        after.dataBlocks = before.dataBlocks ∧
        ∃ block, blockAt before place = some block ∧ after.blocks = before.blocks.set block pData)
      (fun _ => True) before := by
  refine wp_bind.mpr ((wrapperAt_spec World.dataBlocks place).mono ?_ fun _ => id)
  intro wrapper middle ⟨same, found⟩
  rw [same]
  refine wp_bind.mpr (wp_bind.mpr ((pointee_spec wrapper.block).mono ?_ fun _ => id))
  intro block middle ⟨same, points⟩
  rw [same]
  refine (wp_modify _).mpr ⟨⟨rfl, rfl⟩, rfl, rfl, block, ?_, rfl⟩
  simp [blockAt, found, points]

theorem readBlock_spec (place : Nat) :
    Wp (perform (.readBlock place))
      (fun reply after => after = before ∧ ∃ block, blockAt before place = some block ∧
        reply = .payload (readPayload (before.blocks.getD block [])))
      (fun _ => True) before := by
  refine wp_bind.mpr ((wrapperAt_spec World.dataBlocks place).mono ?_ fun _ => id)
  intro wrapper middle ⟨same, found⟩
  rw [same]
  refine wp_bind.mpr (wp_bind.mpr (wp_bind.mpr ((pointee_spec wrapper.block).mono ?_ fun _ => id)))
  intro block middle ⟨same, points⟩
  rw [same]
  refine ⟨rfl, block, ?_, rfl⟩
  simp [blockAt, found, points]

theorem cloneBlock_spec (place : Nat) :
    Wp (perform (.cloneBlock place))
      (fun _ after => SameContexts before after ∧ after.blocks = before.blocks ∧
        ∃ wrapper, some wrapper ∈ before.dataBlocks ∧
          after.dataBlocks = before.dataBlocks ++ [some wrapper] ∧
          blocks after = (blocks before).share wrapper.block)
      (fun _ => True) before := by
  refine wp_bind.mpr ((wrapperAt_spec World.dataBlocks place).mono ?_ fun _ => id)
  intro wrapper middle ⟨same, found⟩
  rw [same]
  refine (wp_keepBlock wrapper).mpr ⟨⟨rfl, rfl⟩, rfl, wrapper, List.mem_of_getElem? found, rfl, ?_⟩
  simp [blocks, Handling.share]

theorem dropBlock_spec (place : Nat) :
    Wp (perform (.dropBlock place))
      (fun _ after => SameContexts before after ∧ after.blocks = before.blocks ∧
        after.dataBlocks = before.dataBlocks.set place none ∧
        (blocks after = blocks before ∧ (blocks before).Sole place ∨
          ∃ block, (blocks before).handles[place]? = some (some block) ∧
            blocks after = (blocks before).drop place block))
      (fun _ => True) before := by
  refine wp_bind.mpr ((wrapperAt_spec World.dataBlocks place).mono ?_ fun _ => id)
  intro wrapper middle ⟨same, found⟩
  rw [same]
  refine wp_bind.mpr ((wp_modify _).mpr (wp_bind.mpr ((wp_ite _ _ _).mpr ⟨fun _ => ?_, fun null => ?_⟩)))
  · refine (wp_modify _).mpr ((wp_pure _).mpr ⟨⟨?_, rfl⟩, rfl, rfl, ?_⟩)
    · simp [contexts, wrapsContext, finishesContext]
    · apply dropped_cases RistDataBlock.block found rfl
      simp [blocks, wrapsBlock, freesBlock]
  · refine (wp_pure _).mpr ((wp_pure _).mpr ⟨⟨rfl, rfl⟩, rfl, rfl, ?_⟩)
    apply dropped_cases RistDataBlock.block found rfl
    simp [blocks, Classical.not_not.mp null]

/-! ## What holds throughout -/

/-- Wrappers were made for what was allocated only, and a block that `from` made and that
was not set since is empty. -/
structure Bounded (history : History) : Prop where
  contexts : ∀ ctx ∈ (contexts history.world).wrapped, ctx < history.world.contexts
  blocks : ∀ block ∈ (blocks history.world).wrapped, block < history.world.blocks.length
  places : ∀ origin ∈ history.origins, origin.1 < history.world.dataBlocks.length
  empty : ∀ origin ∈ history.origins, ∀ block, blockAt history.world origin.1 = some block →
    history.world.blocks.getD block [] = []

structure Valid (history : History) : Prop extends Bounded history where
  contextsSettled : Settled (Rist.contexts history.world)
  blocksSettled : Settled (Rist.blocks history.world)

theorem initial_valid : Valid History.initial := by
  refine ⟨⟨?_, ?_, ?_, ?_⟩, ⟨?_, ?_⟩, ⟨?_, ?_⟩⟩ <;>
    simp [History.initial, World.initial, contexts, blocks]

theorem blockAt_eq (wrappers : after.dataBlocks = before.dataBlocks) (place : Nat) :
    blockAt after place = blockAt before place := by
  rw [blockAt, wrappers, blockAt]

/-- The wrappers that were there keep their places when one is appended. -/
theorem blockAt_append {wrapper : Option RistDataBlock}
    (wrappers : after.dataBlocks = before.dataBlocks ++ [wrapper])
    (below : place < before.dataBlocks.length) : blockAt after place = blockAt before place := by
  rw [blockAt, wrappers, List.getElem?_append_left below, blockAt]

/-- A wrapper's block was allocated. -/
theorem Valid.blockAt_lt {history : History} (valid : Valid history) {block : Nat}
    (isBlock : blockAt history.world place = some block) : block < history.world.blocks.length := by
  apply valid.blocks
  apply valid.blocksSettled.covered
  obtain ⟨wrapper, isWrapper, points⟩ := Option.bind_eq_some_iff.mp isBlock
  have found : history.world.dataBlocks[place]? = some (some wrapper) := Option.join_eq_some_iff.mp isWrapper
  exact List.mem_map.mpr ⟨some wrapper, List.mem_of_getElem? found, points⟩

theorem step_cases {history next : History} {operation : Operation}
    (stepped : history.step operation = some next) :
    ∃ reply, (perform operation).run history.world = .ok (reply, next.world) ∧
      next.reply = some reply ∧ next.origins = originsAfter history operation := by
  unfold History.step at stepped
  split at stepped
  · next reply world ran =>
    cases stepped
    exact ⟨reply, ran, rfl, rfl⟩
  · cases stepped

section Steps

variable {history next : History}

/-- An operation on contexts leaves the rest as it is. -/
theorem right_iff_contexts (operation : Operation) (valid : Valid history)
    (same : SameBlocks history.world next.world)
    (origins : next.origins = history.origins)
    (below : ∀ ctx ∈ (contexts next.world).wrapped, ctx < next.world.contexts)
    (noRead : ∀ place, operation ≠ .readBlock place) :
    Bounded next ∧ (Right history operation next ↔ Settled (contexts next.world)) := by
  constructor
  · constructor
    · exact below
    · rw [same.handling, same.held]
      exact valid.blocks
    · rw [origins, same.wrappers]
      exact valid.places
    · rw [origins, same.held]
      simp only [blockAt_eq same.wrappers]
      exact valid.empty
  · constructor
    · exact fun right => right.contexts
    · intro settled
      refine ⟨settled, ?_, fun place _ isRead => absurd isRead (noRead place)⟩
      rw [same.handling]
      exact valid.blocksSettled

/-- An operation on blocks leaves the contexts as they are. -/
theorem right_iff_blocks (operation : Operation) (valid : Valid history)
    (same : SameContexts history.world next.world)
    (below : ∀ block ∈ (blocks next.world).wrapped, block < next.world.blocks.length)
    (places : ∀ origin ∈ next.origins, origin.1 < next.world.dataBlocks.length)
    (empty : ∀ origin ∈ next.origins, ∀ block, blockAt next.world origin.1 = some block →
      next.world.blocks.getD block [] = [])
    (noRead : ∀ place, operation ≠ .readBlock place) :
    Bounded next ∧ (Right history operation next ↔ Settled (blocks next.world)) := by
  constructor
  · refine ⟨?_, below, places, empty⟩
    rw [same.handling, same.allocated]
    exact valid.contexts
  · constructor
    · exact fun right => right.blocks
    · intro settled
      refine ⟨?_, settled, fun place _ isRead => absurd isRead (noRead place)⟩
      rw [same.handling]
      exact valid.contextsSettled

theorem newRist_right {pMode : RistCtxMode} {answers : RistAnswers} (valid : Valid history)
    (stepped : history.step (.newRist pMode answers) = some next) :
    Bounded next ∧ Right history (.newRist pMode answers) next := by
  obtain ⟨reply, ran, _, origins⟩ := step_cases stepped
  obtain ⟨same, outcome⟩ := (newRist_spec pMode answers).ok ran
  cases outcome with
  | inl made =>
    obtain ⟨handling, allocated⟩ := made
    have below : ∀ ctx ∈ (contexts next.world).wrapped, ctx < next.world.contexts := by
      rw [handling, allocated]
      exact List.forall_mem_append.mpr ⟨fun ctx old => Nat.lt_succ_of_lt (valid.contexts ctx old),
        List.forall_mem_singleton.mpr (Nat.lt_succ_self _)⟩
    have fresh : history.world.contexts ∉ (contexts history.world).wrapped :=
      fun old => Nat.lt_irrefl _ (valid.contexts _ old)
    obtain ⟨bounded, right⟩ := right_iff_contexts (.newRist pMode answers) valid same origins below (by simp)
    refine ⟨bounded, right.mpr ?_⟩
    rw [handling]
    exact (settled_make_iff valid.contextsSettled).mpr (valid.contextsSettled.fresh fresh)
  | inr failed =>
    obtain ⟨handling, grown⟩ := failed
    have below : ∀ ctx ∈ (contexts next.world).wrapped, ctx < next.world.contexts := by
      rw [handling]
      intro ctx member
      exact Nat.lt_of_lt_of_le (valid.contexts ctx member) grown
    obtain ⟨bounded, right⟩ := right_iff_contexts (.newRist pMode answers) valid same origins below (by simp)
    refine ⟨bounded, right.mpr ?_⟩
    rw [handling]
    exact valid.contextsSettled

theorem cloneRist_right (valid : Valid history)
    (stepped : history.step (.cloneRist place) = some next) :
    Bounded next ∧ Right history (.cloneRist place) next := by
  obtain ⟨reply, ran, _, origins⟩ := step_cases stepped
  obtain ⟨same, allocated, handle, member, handling⟩ := (cloneRist_spec place).ok ran
  have below : ∀ ctx ∈ (contexts next.world).wrapped, ctx < next.world.contexts := by
    rw [handling, allocated]
    exact valid.contexts
  obtain ⟨bounded, right⟩ := right_iff_contexts (.cloneRist place) valid same origins below (by simp)
  refine ⟨bounded, right.mpr ?_⟩
  rw [handling]
  exact settled_share valid.contextsSettled member

theorem dropRist_right (valid : Valid history)
    (stepped : history.step (.dropRist place) = some next) :
    Bounded next ∧ (Right history (.dropRist place) next ↔ (contexts history.world).Sole place) := by
  obtain ⟨reply, ran, _, origins⟩ := step_cases stepped
  obtain ⟨same, allocated, outcome⟩ := (dropRist_spec place).ok ran
  have below : ∀ ctx ∈ (contexts next.world).wrapped, ctx < next.world.contexts := by
    rw [allocated]
    cases outcome with
    | inl unchanged =>
      rw [unchanged.1]
      exact valid.contexts
    | inr dropped =>
      obtain ⟨_, _, handling⟩ := dropped
      rw [handling]
      exact valid.contexts
  obtain ⟨bounded, right⟩ := right_iff_contexts (.dropRist place) valid same origins below (by simp)
  refine ⟨bounded, right.trans ?_⟩
  cases outcome with
  | inl unchanged =>
    rw [unchanged.1]
    exact iff_of_true valid.contextsSettled unchanged.2
  | inr dropped =>
    obtain ⟨ctx, here, handling⟩ := dropped
    rw [handling]
    exact settled_drop_iff valid.contextsSettled here

/-- What is appended to the blocks is not the block of a wrapper that was there. -/
theorem Valid.empty_kept {after : World} {more : List (List UInt8)} (valid : Valid history)
    (held : after.blocks = history.world.blocks ++ more)
    (sameAt : ∀ place, place < history.world.dataBlocks.length →
      blockAt after place = blockAt history.world place) :
    ∀ origin ∈ history.origins, ∀ block, blockAt after origin.1 = some block →
      after.blocks.getD block [] = [] := by
  intro origin member block isBlock
  rw [sameAt origin.1 (valid.places origin member)] at isBlock
  have below := valid.blockAt_lt isBlock
  have empty := valid.empty origin member block isBlock
  rw [List.getD_eq_getElem?_getD] at empty ⊢
  rwa [held, List.getElem?_append_left below]

theorem Valid.places_append {after : World} {wrapper : Option RistDataBlock} (valid : Valid history)
    (wrappers : after.dataBlocks = history.world.dataBlocks ++ [wrapper]) :
    ∀ origin ∈ history.origins, origin.1 < after.dataBlocks.length := by
  intro origin member
  rw [wrappers, List.length_append]
  exact Nat.lt_add_right _ (valid.places origin member)

theorem receive_right {payload : List UInt8} (valid : Valid history)
    (stepped : history.step (.receive payload) = some next) :
    Bounded next ∧ Right history (.receive payload) next := by
  obtain ⟨reply, ran, _, origins⟩ := step_cases stepped
  obtain ⟨same, handling, held, wrappers⟩ := (receive_spec payload).ok ran
  have sameOrigins : next.origins = history.origins := origins
  have below : ∀ block ∈ (blocks next.world).wrapped, block < next.world.blocks.length := by
    rw [handling, held, List.length_append]
    intro block member
    exact Nat.lt_add_right _ (valid.blocks block member)
  have places : ∀ origin ∈ next.origins, origin.1 < next.world.dataBlocks.length := by
    rw [sameOrigins, wrappers]
    exact valid.places
  have empty := valid.empty_kept held fun place _ => blockAt_eq wrappers place
  rw [← sameOrigins] at empty
  obtain ⟨bounded, right⟩ := right_iff_blocks (.receive payload) valid same below places empty (by simp)
  refine ⟨bounded, right.mpr ?_⟩
  rw [handling]
  exact valid.blocksSettled

/-- The next block is nobody's yet. -/
theorem Valid.settled_made (valid : Valid history) :
    Settled ((blocks history.world).make history.world.blocks.length) := by
  have fresh : history.world.blocks.length ∉ (blocks history.world).wrapped :=
    fun old => Nat.lt_irrefl _ (valid.blocks _ old)
  exact (settled_make_iff valid.blocksSettled).mpr (valid.blocksSettled.fresh fresh)

theorem Valid.below_made (valid : Valid history) :
    ∀ block ∈ ((blocks history.world).make history.world.blocks.length).wrapped,
      block < history.world.blocks.length + 1 :=
  List.forall_mem_append.mpr ⟨fun block old => Nat.lt_succ_of_lt (valid.blocks block old),
    List.forall_mem_singleton.mpr (Nat.lt_succ_self _)⟩

/-- `from` with an allocation that succeeds. -/
theorem fromBlock_made {pDataBlock : Option Nat} (valid : Valid history)
    (stepped : history.step (.fromBlock pDataBlock true) = some next) :
    Bounded next ∧ (Right history (.fromBlock pDataBlock true) next ↔
      Allowed history (.fromBlock pDataBlock true)) := by
  obtain ⟨reply, ran, _, origins⟩ := step_cases stepped
  obtain ⟨same, given, handling, held, wrappers⟩ := (fromBlock_spec pDataBlock true).ok ran
  have below : ∀ block ∈ (blocks next.world).wrapped, block < next.world.blocks.length := by
    rw [handling, held, List.length_append, List.length_singleton]
    cases pDataBlock with
    | none => exact valid.below_made
    | some pointer =>
      have overwritten : pointer < history.world.blocks.length + 1 := Nat.lt_succ_of_lt (given pointer rfl)
      exact List.forall_mem_append.mpr ⟨valid.below_made, List.forall_mem_singleton.mpr overwritten⟩
  have places : ∀ origin ∈ next.origins, origin.1 < next.world.dataBlocks.length := by
    rw [origins]
    cases pDataBlock with
    | none => exact valid.places_append wrappers
    | some pointer =>
      refine List.forall_mem_cons.mpr ⟨?_, valid.places_append wrappers⟩
      rw [wrappers, List.length_append]
      exact Nat.lt_succ_self _
  have old := valid.empty_kept held fun place => blockAt_append wrappers
  have empty : ∀ origin ∈ next.origins, ∀ block, blockAt next.world origin.1 = some block →
      next.world.blocks.getD block [] = [] := by
    rw [origins]
    cases pDataBlock with
    | none => exact old
    | some pointer =>
      refine List.forall_mem_cons.mpr ⟨?_, old⟩
      intro block isBlock
      have isNew : history.world.blocks.length = block := by
        simpa [blockAt, wrappers] using isBlock
      simp [← isNew, held, List.getD_eq_getElem?_getD]
  obtain ⟨bounded, right⟩ :=
    right_iff_blocks (.fromBlock pDataBlock true) valid same below places empty (by simp)
  refine ⟨bounded, right.trans ?_⟩
  rw [handling]
  cases pDataBlock with
  | none => exact iff_of_true valid.settled_made trivial
  | some block =>
    have other : block ≠ history.world.blocks.length := Nat.ne_of_lt (given block rfl)
    apply (settled_overwrite_iff valid.settled_made).trans
    simp [Handling.make, Allowed, other]

/-- `from` with an allocation that fails. -/
theorem fromBlock_failed {pDataBlock : Option Nat} (valid : Valid history)
    (stepped : history.step (.fromBlock pDataBlock false) = some next) :
    Bounded next ∧ (Right history (.fromBlock pDataBlock false) next ↔
      Allowed history (.fromBlock pDataBlock false)) := by
  obtain ⟨reply, ran, _, origins⟩ := step_cases stepped
  obtain ⟨same, given, handling, held, wrappers⟩ := (fromBlock_spec pDataBlock false).ok ran
  have sameOrigins : next.origins = history.origins := by
    rw [origins]
    cases pDataBlock <;> rfl
  have below : ∀ block ∈ (blocks next.world).wrapped, block < next.world.blocks.length := by
    rw [handling, held]
    cases pDataBlock with
    | none => exact valid.blocks
    | some pointer =>
      have freed : pointer < history.world.blocks.length := given pointer rfl
      exact List.forall_mem_append.mpr ⟨valid.blocks, List.forall_mem_singleton.mpr freed⟩
  have places : ∀ origin ∈ next.origins, origin.1 < next.world.dataBlocks.length := by
    rw [sameOrigins, wrappers]
    exact valid.places
  have empty : ∀ origin ∈ next.origins, ∀ block, blockAt next.world origin.1 = some block →
      next.world.blocks.getD block [] = [] := by
    rw [sameOrigins, held]
    simp only [blockAt_eq wrappers]
    exact valid.empty
  obtain ⟨bounded, right⟩ :=
    right_iff_blocks (.fromBlock pDataBlock false) valid same below places empty (by simp)
  refine ⟨bounded, right.trans ?_⟩
  rw [handling]
  cases pDataBlock with
  | none => exact iff_of_true valid.blocksSettled trivial
  | some block => exact settled_discard_iff valid.blocksSettled

theorem fromBlock_right {pDataBlock : Option Nat} {calloc : Bool} (valid : Valid history)
    (stepped : history.step (.fromBlock pDataBlock calloc) = some next) :
    Bounded next ∧ (Right history (.fromBlock pDataBlock calloc) next ↔
      Allowed history (.fromBlock pDataBlock calloc)) := by
  cases calloc with
  | true => exact fromBlock_made valid stepped
  | false => exact fromBlock_failed valid stepped

theorem setBlock_right {pData : List UInt8} (valid : Valid history)
    (stepped : history.step (.setBlock place pData) = some next) :
    Bounded next ∧ Right history (.setBlock place pData) next := by
  obtain ⟨reply, ran, _, origins⟩ := step_cases stepped
  obtain ⟨same, handling, wrappers, written, isWritten, held⟩ := (setBlock_spec place pData).ok ran
  have below : ∀ block ∈ (blocks next.world).wrapped, block < next.world.blocks.length := by
    rw [handling, held, List.length_set]
    exact valid.blocks
  have places : ∀ origin ∈ next.origins, origin.1 < next.world.dataBlocks.length := by
    rw [origins, wrappers]
    intro origin member
    exact valid.places origin (List.mem_filter.mp member).1
  have empty : ∀ origin ∈ next.origins, ∀ block, blockAt next.world origin.1 = some block →
      next.world.blocks.getD block [] = [] := by
    rw [origins, held]
    intro origin member block isBlock
    obtain ⟨member, other⟩ := List.mem_filter.mp member
    rw [blockAt_eq wrappers] at isBlock
    have different : written ≠ block := by
      intro same
      rw [isBlock, isWritten, same] at other
      simp at other
    rw [List.getD_eq_getElem?_getD, List.getElem?_set_ne different, ← List.getD_eq_getElem?_getD]
    exact valid.empty origin member block isBlock
  obtain ⟨bounded, right⟩ := right_iff_blocks (.setBlock place pData) valid same below places empty (by simp)
  refine ⟨bounded, right.mpr ?_⟩
  rw [handling]
  exact valid.blocksSettled

theorem readPayload_eq_iff {payload : List UInt8} :
    readPayload [] = readPayload payload ↔ payload = [] := by
  cases payload <;> simp [readPayload]

theorem readBlock_right (valid : Valid history)
    (stepped : history.step (.readBlock place) = some next) :
    Bounded next ∧ (Right history (.readBlock place) next ↔ Allowed history (.readBlock place)) := by
  obtain ⟨reply, ran, replied, origins⟩ := step_cases stepped
  obtain ⟨same, block, isBlock, answer⟩ := (readBlock_spec place).ok ran
  have sameOrigins : next.origins = history.origins := origins
  constructor
  · constructor
    · rw [same]
      exact valid.contexts
    · rw [same]
      exact valid.blocks
    · rw [same, sameOrigins]
      exact valid.places
    · rw [same, sameOrigins]
      exact valid.empty
  · have answered {payload : List UInt8} (member : (place, payload) ∈ history.origins) :
        next.reply = some (.payload (readPayload payload)) ↔ payload = [] := by
      rw [replied, answer, valid.empty _ member block isBlock, Option.some.injEq, Reply.payload.injEq]
      exact readPayload_eq_iff
    constructor
    · intro right payload member
      exact (answered member).mp (right.reads place payload rfl member)
    · intro allowed
      refine ⟨same ▸ valid.contextsSettled, same ▸ valid.blocksSettled, ?_⟩
      intro _ payload isRead member
      cases isRead
      exact (answered member).mpr (allowed payload member)

theorem cloneBlock_right (valid : Valid history)
    (stepped : history.step (.cloneBlock place) = some next) :
    Bounded next ∧ Right history (.cloneBlock place) next := by
  obtain ⟨reply, ran, _, origins⟩ := step_cases stepped
  obtain ⟨same, held, wrapper, member, wrappers, handling⟩ := (cloneBlock_spec place).ok ran
  have sameOrigins : next.origins = history.origins := origins
  have grown : next.world.blocks = history.world.blocks ++ [] := by rw [held, List.append_nil]
  have below : ∀ block ∈ (blocks next.world).wrapped, block < next.world.blocks.length := by
    rw [handling, held]
    exact valid.blocks
  have places := valid.places_append wrappers
  have empty := valid.empty_kept grown fun place => blockAt_append wrappers
  rw [← sameOrigins] at places empty
  obtain ⟨bounded, right⟩ := right_iff_blocks (.cloneBlock place) valid same below places empty (by simp)
  refine ⟨bounded, right.mpr ?_⟩
  rw [handling]
  exact settled_share valid.blocksSettled (List.mem_map.mpr ⟨some wrapper, member, rfl⟩)

theorem dropBlock_right (valid : Valid history)
    (stepped : history.step (.dropBlock place) = some next) :
    Bounded next ∧ (Right history (.dropBlock place) next ↔ (blocks history.world).Sole place) := by
  obtain ⟨reply, ran, _, origins⟩ := step_cases stepped
  obtain ⟨same, held, wrappers, outcome⟩ := (dropBlock_spec place).ok ran
  have sameOrigins : next.origins = history.origins := origins
  have below : ∀ block ∈ (blocks next.world).wrapped, block < next.world.blocks.length := by
    rw [held]
    cases outcome with
    | inl unchanged =>
      rw [unchanged.1]
      exact valid.blocks
    | inr dropped =>
      obtain ⟨_, _, handling⟩ := dropped
      rw [handling]
      exact valid.blocks
  have places : ∀ origin ∈ next.origins, origin.1 < next.world.dataBlocks.length := by
    rw [sameOrigins, wrappers, List.length_set]
    exact valid.places
  have empty : ∀ origin ∈ next.origins, ∀ block, blockAt next.world origin.1 = some block →
      next.world.blocks.getD block [] = [] := by
    rw [sameOrigins, held]
    intro origin member block isBlock
    have elsewhere : place ≠ origin.1 := by
      intro same
      rw [blockAt, wrappers, ← same, List.getElem?_set_self'] at isBlock
      cases found : history.world.dataBlocks[place]? <;> simp [found] at isBlock
    apply valid.empty origin member block
    rwa [blockAt, wrappers, List.getElem?_set_ne elsewhere] at isBlock
  obtain ⟨bounded, right⟩ := right_iff_blocks (.dropBlock place) valid same below places empty (by simp)
  refine ⟨bounded, right.trans ?_⟩
  cases outcome with
  | inl unchanged =>
    rw [unchanged.1]
    exact iff_of_true valid.blocksSettled unchanged.2
  | inr dropped =>
    obtain ⟨block, here, handling⟩ := dropped
    rw [handling]
    exact settled_drop_iff valid.blocksSettled here

/-- `new` is `from` for a null pointer, which is always allowed. -/
theorem newBlock_right {calloc : Bool} (valid : Valid history)
    (stepped : history.step (.newBlock calloc) = some next) :
    Bounded next ∧ Right history (.newBlock calloc) next := by
  have sameStep : history.step (.fromBlock none calloc) = some next := stepped
  obtain ⟨bounded, right⟩ := fromBlock_right valid sameStep
  have allowed : Allowed history (.fromBlock none calloc) := by
    cases calloc <;> trivial
  have settled := right.mpr allowed
  exact ⟨bounded, settled.contexts, settled.blocks, by simp⟩

/-- What one step does: it keeps the bounds, and is right exactly when it is allowed. -/
theorem step_right {operation : Operation} (valid : Valid history)
    (stepped : history.step operation = some next) :
    Bounded next ∧ (Right history operation next ↔ Allowed history operation) := by
  have always (done : Bounded next ∧ Right history operation next)
      (allowed : Allowed history operation) :
      Bounded next ∧ (Right history operation next ↔ Allowed history operation) :=
    ⟨done.1, iff_of_true done.2 allowed⟩
  cases operation with
  | newRist pMode answers => exact always (newRist_right valid stepped) trivial
  | cloneRist place => exact always (cloneRist_right valid stepped) trivial
  | dropRist place => exact dropRist_right valid stepped
  | receive payload => exact always (receive_right valid stepped) trivial
  | newBlock calloc => exact always (newBlock_right valid stepped) trivial
  | fromBlock pDataBlock calloc => exact fromBlock_right valid stepped
  | setBlock place pData => exact always (setBlock_right valid stepped) trivial
  | readBlock place => exact readBlock_right valid stepped
  | cloneBlock place => exact always (cloneBlock_right valid stepped) trivial
  | dropBlock place => exact dropBlock_right valid stepped

end Steps

/-! ## Programs -/

/-- For every program: each of its steps leaves every context and block to its last
wrapper, and reads what it should, exactly when each of them is allowed. -/
theorem owners_iff (operations : List Operation) :
    Always History.step Right History.initial operations ↔
      Always History.step (fun history operation _ => Allowed history operation) History.initial
        operations := by
  apply always_iff Valid _ _ initial_valid
  · intro history operation next valid stepped
    exact (step_right valid stepped).2
  · intro history operation next valid stepped right
    exact ⟨(step_right valid stepped).1, right.contexts, right.blocks⟩

/-- A context that is created. -/
def created : RistAnswers :=
  { calloc := true, ristLoggingSet := 0, ristSenderCreate := 0, ristReceiverCreate := 0 }

/-- A clone is dropped, and the wrapper that it was cloned from still holds the context. -/
theorem dropped_clone_finishes :
    ¬Always History.step Right History.initial
      [.newRist .ristSenderMode created, .cloneRist 0, .dropRist 1] := by
  intro always
  obtain ⟨_, always⟩ := always _ rfl
  obtain ⟨_, always⟩ := always _ rfl
  obtain ⟨right, _⟩ := always _ rfl
  have once := right.contexts.once 0
  revert once
  decide

end WolfEngine.Verified.Rist
