import WolfEngine.Library.Faulting

/-! # RIST handles

`stream/rist.rs`, `sys/stream/rist.cpp` and `sys/stream/rist_data_block.cpp`: the two Rust
structs that hold a pointer to a native object, what a program can do with them, and the
native functions that this calls.
-/

namespace WolfEngine.Stream.RistFfi

open Faulting

inductive RistCtxMode where
  | ristSenderMode
  | ristReceiverMode
deriving DecidableEq, Repr

/-- Its `{:?}` text. -/
def RistCtxMode.debug : RistCtxMode → String
  | .ristSenderMode => "RIST_SENDER_MODE"
  | .ristReceiverMode => "RIST_RECEIVER_MODE"

/-- `rist`: the pointer, and the mode that `new` prints. -/
structure Rist where
  ctx : Option Nat
  mode : RistCtxMode

structure RistDataBlock where
  block : Option Nat

/-- A call of a native function, with the pointer that it is given and the one that it
leaves there. -/
inductive Call where
  | wRistInit (after : Option Nat)
  | wRistFini (pRist : Option Nat)
  | wRistInitDataBlock (before after : Option Nat)
  | wRistFreeDataBlock (pBlock : Option Nat)
deriving DecidableEq

/-- The native objects, each known by its place, and the wrappers of the program. -/
structure World where
  /-- How many native contexts were allocated. -/
  contexts : Nat
  /-- What every native block holds: the `payload_len` bytes at `payload`. -/
  blocks : List (List UInt8)
  calls : List Call
  /-- In the order in which they were made; `none` is one that was dropped. -/
  rists : List (Option Rist)
  dataBlocks : List (Option RistDataBlock)

def World.initial : World :=
  { contexts := 0, blocks := [], calls := [], rists := [], dataBlocks := [] }

inductive Fault where
  | nullDereference
  | useAfterFree
  /-- The program has no such wrapper, or no such pointer. -/
  | notThere
deriving DecidableEq

abbrev Op := Program World Fault

def record (call : Call) : Op Unit :=
  modify fun world => { world with calls := world.calls ++ [call] }

/-! ## Contexts -/

structure RistAnswers where
  calloc : Bool
  ristLoggingSet : Int
  ristSenderCreate : Int
  ristReceiverCreate : Int

/-- The result, and what `p_rist` points to then. -/
def wRistInit (pMode : RistCtxMode) (answers : RistAnswers) (pRist : Option Nat) :
    Op (Int × Option Nat) := do
  if answers.calloc = false then
    return (-1, pRist)
  let rist := (← get).contexts
  modify fun world => { world with contexts := rist + 1 }
  if answers.ristLoggingSet ≠ 0 then
    return (-1, pRist)
  let ret := match pMode with
    | .ristSenderMode => answers.ristSenderCreate
    | .ristReceiverMode => answers.ristReceiverCreate
  if ret ≠ 0 then
    return (-1, pRist)
  return (0, some rist)

/-- It does nothing for a null pointer, and does not clear the pointer. -/
def wRistFini (pRist : Option Nat) : Op Unit := record (.wRistFini pRist)

def Rist.drop (self : Rist) : Op Unit := wRistFini self.ctx

def Rist.new (pMode : RistCtxMode) (answers : RistAnswers) : Op (Except String Rist) := do
  let (ret, ctx) ← wRistInit pMode answers none
  record (.wRistInit ctx)
  let obj : Rist := { ctx, mode := pMode }
  if ret = 0 then
    return .ok obj
  obj.drop
  return .error ("could not create rist " ++ pMode.debug)

/-! ## Data blocks -/

/-- The result, and what `p_block` points to then. -/
def wRistInitDataBlock (calloc : Bool) (pBlock : Option Nat) : Op (Int × Option Nat) := do
  if calloc = false then
    record (.wRistInitDataBlock pBlock none)
    return (-1, pBlock)
  let block := (← get).blocks.length
  modify fun world => { world with blocks := world.blocks ++ [[]] }
  record (.wRistInitDataBlock pBlock (some block))
  return (0, some block)

def wRistFreeDataBlock (pBlock : Option Nat) : Op Unit := record (.wRistFreeDataBlock pBlock)

/-- The block behind a pointer. -/
def pointee (pBlock : Option Nat) : Op Nat := do
  match pBlock with
  | none => throw .nullDereference
  | some block =>
    if .wRistFreeDataBlock (some block) ∈ (← get).calls then
      throw .useAfterFree
    return block

/-- `w_rist_get_data_block` and `w_rist_get_data_block_len`. -/
def wRistGetDataBlock (pBlock : Option Nat) : Op (List UInt8) := do
  let block ← pointee pBlock
  return (← get).blocks.getD block []

def wRistSetDataBlock (pBlock : Option Nat) (pData : List UInt8) : Op Unit := do
  let block ← pointee pBlock
  modify fun world => { world with blocks := world.blocks.set block pData }

def RistDataBlock.drop (self : RistDataBlock) : Op Unit := do
  if self.block ≠ none then
    wRistFreeDataBlock self.block

def RistDataBlock.fromBlock (pDataBlock : Option Nat) (calloc : Bool) :
    Op (Except String RistDataBlock) := do
  let (ret, block) ← wRistInitDataBlock calloc pDataBlock
  let ristBlock : RistDataBlock := { block }
  if ret = 0 then
    return .ok ristBlock
  ristBlock.drop
  return .error "could not allocate memory for rist_data_block"

/-- `new` is `from` for a null pointer. -/
def RistDataBlock.new (calloc : Bool) : Op (Except String RistDataBlock) :=
  RistDataBlock.fromBlock none calloc

/-- What `read` returns for the bytes of a block. -/
def readPayload (payload : List UInt8) : Except String (List UInt8) :=
  if payload.length > 0 then .ok payload
  else .error ("invalid len size. trace info " ++ "rist::read")

def RistDataBlock.read (self : RistDataBlock) : Op (Except String (List UInt8)) := do
  return readPayload (← wRistGetDataBlock self.block)

def RistDataBlock.set (self : RistDataBlock) (pData : List UInt8) : Op Unit :=
  wRistSetDataBlock self.block pData

/-! ## Programs -/

inductive Operation where
  | newRist (pMode : RistCtxMode) (answers : RistAnswers)
  | cloneRist (place : Nat)
  | dropRist (place : Nat)
  /-- librist hands a block to a callback of the program. -/
  | receive (payload : List UInt8)
  | newBlock (calloc : Bool)
  | fromBlock (pDataBlock : Option Nat) (calloc : Bool)
  | setBlock (place : Nat) (pData : List UInt8)
  | readBlock (place : Nat)
  | cloneBlock (place : Nat)
  | dropBlock (place : Nat)

inductive Reply where
  | done
  | failed (error : String)
  | payload (answer : Except String (List UInt8))

/-- The wrapper at a place, if it was not dropped. -/
def wrapperAt {α : Type} (wrappers : World → List (Option α)) (place : Nat) : Op α := do
  match (wrappers (← get))[place]? with
  | some (some wrapper) => return wrapper
  | _ => throw .notThere

def keepRist : Except String Rist → Op Reply
  | .ok rist => do
    modify fun world => { world with rists := world.rists ++ [some rist] }
    return .done
  | .error error => return .failed error

def keepBlock : Except String RistDataBlock → Op Reply
  | .ok block => do
    modify fun world => { world with dataBlocks := world.dataBlocks ++ [some block] }
    return .done
  | .error error => return .failed error

def perform : Operation → Op Reply
  | .newRist pMode answers => do keepRist (← Rist.new pMode answers)
  -- the derived `Clone` copies the pointer
  | .cloneRist place => do keepRist (.ok (← wrapperAt World.rists place))
  | .dropRist place => do
    let rist ← wrapperAt World.rists place
    modify fun world => { world with rists := world.rists.set place none }
    rist.drop
    return .done
  | .receive payload => do
    modify fun world => { world with blocks := world.blocks ++ [payload] }
    return .done
  | .newBlock calloc => do keepBlock (← RistDataBlock.new calloc)
  | .fromBlock pDataBlock calloc => do
    if pDataBlock.any ((← get).blocks.length ≤ ·) then
      throw .notThere
    keepBlock (← RistDataBlock.fromBlock pDataBlock calloc)
  | .setBlock place pData => do
    (← wrapperAt World.dataBlocks place).set pData
    return .done
  | .readBlock place => return .payload (← (← wrapperAt World.dataBlocks place).read)
  | .cloneBlock place => do keepBlock (.ok (← wrapperAt World.dataBlocks place))
  | .dropBlock place => do
    let block ← wrapperAt World.dataBlocks place
    modify fun world => { world with dataBlocks := world.dataBlocks.set place none }
    block.drop
    return .done

end WolfEngine.Stream.RistFfi
