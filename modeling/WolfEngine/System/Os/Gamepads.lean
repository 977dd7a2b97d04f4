import WolfEngine.System.Os.Vigem

/-! # The gamepads over the library

`vigem_client.cpp` with `ViGEmClient.cpp` under it: what the methods of `VigemClient` take
as answers of the bus are the answers of the library, and the calls that they make are
calls of the library.
-/

namespace WolfEngine.System.Os

/-- A `vigem_client::impl` and the process that it is part of. -/
structure Gamepads (δ : Type) where
  client : VigemClient
  host : Host δ

variable {δ : Type}

namespace Gamepads

def perform (driver : BusDriver δ) (host : Host δ) : BusCall → Host δ
  | .disconnect => vigemDisconnect driver host
  | .targetAdd target => (vigemTargetAdd driver (some target) host).2
  | .targetRemove target => (vigemTargetRemove driver (some target) host).2
  | .x360Update target report => (vigemTargetX360Update driver (some target) report host).2

/-- Make the calls of a method. -/
def finish {α : Type} (driver : BusDriver δ) (host : Host δ) (done : Done α) : α × Gamepads δ :=
  (done.result, ⟨done.client, done.calls.foldl (perform driver) host⟩)

/-- `impl()`; `memory` is whether there is any for the bus handler. -/
def new (memory : Bool) (interfaces : List Interface) (host : Host δ) : Gamepads δ :=
  let host := vigemAlloc memory host
  if memory then
    let (connect, host) := vigemConnect interfaces host
    ⟨.new true connect.code, host⟩
  else ⟨.new false VigemError.none.code, host⟩

def resetDriver (driver : BusDriver δ) (pads : Gamepads δ) : Bool × Gamepads δ :=
  finish driver pads.host pads.client.resetDriver

/-- The target of a new gamepad, which a client without bus handler does not come to. -/
def allocTarget (gameType : GamepadType) (memory : Bool) (pads : Gamepads δ) :
    Option Target × Host δ :=
  if pads.client.driverHandler then
    match gameType with
    | .xbox360 => vigemTargetX360Alloc memory pads.host
    | .ps4 => vigemTargetDs4Alloc memory pads.host
  else (none, pads.host)

def addGamepadController (driver : BusDriver δ) (gameType : GamepadType) (memory : Bool)
    (pads : Gamepads δ) : Int × Gamepads δ :=
  let (handler, host) := pads.allocTarget gameType memory
  let pair := (vigemTargetAdd driver handler host).1
  finish driver host (pads.client.addGamepadController gameType handler pair.code)

def sendXbox360Input (driver : BusDriver δ) (gamePadIndex : UInt32) (pXInput : XinputStateShared)
    (stack : Nat → UInt8) (pads : Gamepads δ) : Bool × Gamepads δ :=
  finish driver pads.host (pads.client.sendXbox360Input gamePadIndex pXInput stack)

def clearGamepadState (driver : BusDriver δ) (pGamePadIndex : Int32) (pads : Gamepads δ) :
    Bool × Gamepads δ :=
  finish driver pads.host (pads.client.clearGamepadState pGamePadIndex)

/-- `~impl()`. -/
def drop (driver : BusDriver δ) (pads : Gamepads δ) : Host δ :=
  let pads := (pads.resetDriver driver).2
  let host := pads.client.gamepads.foldl
    (fun host handle =>
      vigemTargetFree (some handle) (vigemTargetRemove driver (some handle) host).2)
    pads.host
  if pads.client.driverHandler then vigemFree host else host

end Gamepads

end WolfEngine.System.Os
