import WolfEngine.Library.Ledger
import WolfEngine.Stream.Rist

/-! # RIST sessions

`rist` of `stream/rist.rs` over `sys/stream/rist.cpp`: what its methods acquire, release and
answer.  What librist answers is given for each call.
-/

namespace WolfEngine.Stream.RistSession

open Custody RistFfi

/-- What a session can acquire. -/
inductive Resource where
  | wRistCtx
  | log
  | ctx
  | peerConfig
  | dataBlock
deriving DecidableEq, Repr

/-- `w_rist_ctx_t`, with its own place. -/
structure WRistCtx where
  place : Nat
  ctx : Option Nat
  log : Option Nat

/-- A call that may have made an object, and what it returned. -/
structure Making where
  made : Bool
  ret : Int

/-- The object of such a call. -/
def Making.object (making : Making) (kind : Resource) (ledger : Ledger Resource) :
    Option Nat × Ledger Resource :=
  if making.made then (some ledger.fresh, ledger.acquire kind) else (none, ledger)

/-- `free`. -/
def free (object : Option Nat) (ledger : Ledger Resource) : Ledger Resource :=
  object.elim ledger fun object => ledger.release object

structure InitAnswers where
  calloc : Bool
  ristLoggingSet : Making
  /-- `rist_sender_create` or `rist_receiver_create`. -/
  create : Making

/-- The result, and what `p_rist` points to then, if it was set.  The mode chooses the
create function. -/
def wRistInit (answers : InitAnswers) (ledger : Ledger Resource) :
    (Int × Option WRistCtx) × Ledger Resource :=
  if answers.calloc = false then ((-1, none), ledger)
  else
    let rist := ledger.fresh
    let (log, ledger) := answers.ristLoggingSet.object .log (ledger.acquire .wRistCtx)
    if answers.ristLoggingSet.ret ≠ 0 then ((-1, none), ledger)
    else
      let (ctx, ledger) := answers.create.object .ctx ledger
      if answers.create.ret ≠ 0 then ((-1, none), ledger)
      else ((0, some ⟨rist, ctx, log⟩), ledger)

structure ConnectAnswers where
  ristParseAddress2 : Making
  ristPeerCreate : Int
  ristStart : Int

def wRistConnect (answers : ConnectAnswers) (ledger : Ledger Resource) : Int × Ledger Resource :=
  let (peerConfig, ledger) := answers.ristParseAddress2.object .peerConfig ledger
  if answers.ristParseAddress2.ret ≠ 0 then (-1, ledger)
  else if answers.ristPeerCreate = -1 then (-1, ledger)
  else
    let ledger := free peerConfig ledger
    if answers.ristStart = -1 then (-1, ledger) else (0, ledger)

/-- The pointer is null if `p_rist` was never set. -/
def wRistFini (pRist : Option WRistCtx) (ledger : Ledger Resource) : Ledger Resource :=
  match pRist with
  | none => ledger
  | some rist => (free rist.log (free rist.ctx ledger)).release rist.place

/-- What librist does with the pointer that it is given to read into. -/
inductive Pointer where
  | left
  | null
  | newBlock
deriving DecidableEq, Repr

structure ReadAnswers where
  pointer : Pointer
  ret : Int

/-- A `rist`, and the `rist_data_block`s of the program, in the order in which they were
made; `none` is one that was dropped. -/
structure Session where
  ctx : WRistCtx
  dataBlocks : List (Option (Option Nat))
  ledger : Ledger Resource

/-- `rist::new`, and what is left where it fails. -/
def new (pMode : RistCtxMode) (answers : InitAnswers) :
    Except (String × Ledger Resource) Session :=
  match wRistInit answers Ledger.empty with
  | ((_, none), ledger) => .error ("could not create rist " ++ pMode.debug, wRistFini none ledger)
  | ((ret, some ctx), ledger) =>
    if ret = 0 then .ok ⟨ctx, [], ledger⟩
    else .error ("could not create rist " ++ pMode.debug, wRistFini (some ctx) ledger)

namespace Session

variable (session : Session)

def connect (pUrl : String) (answers : ConnectAnswers) : Except String Unit × Session :=
  let (ret, ledger) := wRistConnect answers session.ledger
  (if ret = 0 then .ok () else .error ("could not connect to " ++ pUrl), { session with ledger })

/-- `rist_data_block::new`. -/
def newBlock (calloc : Bool) : Except String Unit × Session :=
  if calloc then
    (.ok (), { session with
      dataBlocks := session.dataBlocks ++ [some (some session.ledger.fresh)]
      ledger := session.ledger.acquire .dataBlock })
  else (.error "could not allocate memory for rist_data_block", session)

/-- The pointer of a wrapper is overwritten. -/
def setBlock (place : Nat) (block : Option Nat) : Session :=
  { session with dataBlocks := session.dataBlocks.set place (some block) }

/-- `rist::read`. -/
def read (place : Nat) (ristReceiverDataRead2 : ReadAnswers) : Int × Session :=
  let after := match ristReceiverDataRead2.pointer with
    | .left => session
    | .null => session.setBlock place none
    | .newBlock =>
      { session with ledger := session.ledger.acquire .dataBlock }.setBlock place
        (some session.ledger.fresh)
  (ristReceiverDataRead2.ret, after)

/-- The drop of a `rist_data_block`. -/
def dropBlock (place : Nat) (block : Option Nat) : Session :=
  { session with
    dataBlocks := session.dataBlocks.set place none
    ledger := free block session.ledger }

/-- All that is left is dropped. -/
def close : Ledger Resource :=
  wRistFini (some session.ctx)
    (session.dataBlocks.foldl (fun ledger wrapper => free wrapper.join ledger) session.ledger)

end Session

inductive Operation where
  | connect (pUrl : String) (answers : ConnectAnswers)
  | newBlock (calloc : Bool)
  | read (place : Nat) (ristReceiverDataRead2 : ReadAnswers)
  | dropBlock (place : Nat)

/-- Only a wrapper that was not dropped can be used. -/
def step (session : Session) : Operation → Option Session
  | .connect pUrl answers => some (session.connect pUrl answers).2
  | .newBlock calloc => some (session.newBlock calloc).2
  | .read place ristReceiverDataRead2 =>
    session.dataBlocks[place]?.join.map fun _ => (session.read place ristReceiverDataRead2).2
  | .dropBlock place => session.dataBlocks[place]?.join.map fun block => session.dropBlock place block

end WolfEngine.Stream.RistSession
