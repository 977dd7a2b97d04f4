import WolfEngine.Library.LittleEndian
import WolfEngine.Library.MachineInt

/-! # Virtual gamepads

`system/os/vigem_client.rs` over `vigem_client.cpp`.  The bus is what it answers to the
calls made of it; targets are known by their addresses.  The structures that are copied
as raw memory are their bytes here.
-/

namespace WolfEngine.System.Os

open LittleEndian MachineInt

inductive GamepadType where
  | xbox360
  | ps4
deriving DecidableEq

/-- `XINPUT_GAMEPAD_SHARED`. -/
structure XinputGamepadShared where
  wButtons : UInt16
  bLeftTrigger : UInt8
  bRightTrigger : UInt8
  sThumbLX : Int16
  sThumbLY : Int16
  sThumbRX : Int16
  sThumbRY : Int16
deriving DecidableEq

/-- `XINPUT_STATE_SHARED`. -/
structure XinputStateShared where
  dwPacketNumber : UInt32
  gamepad : XinputGamepadShared
deriving DecidableEq

/-- `XUSB_REPORT`. -/
structure XusbReport where
  wButtons : UInt16
  bLeftTrigger : UInt8
  bRightTrigger : UInt8
  sThumbLX : Int16
  sThumbLY : Int16
  sThumbRX : Int16
  sThumbRY : Int16
deriving DecidableEq

/-! ## As memory -/

def XinputGamepadShared.bytes (gamepad : XinputGamepadShared) : List UInt8 :=
  encode 2 gamepad.wButtons.toNat ++ [gamepad.bLeftTrigger, gamepad.bRightTrigger] ++
    encode 2 gamepad.sThumbLX.toUInt16.toNat ++ encode 2 gamepad.sThumbLY.toUInt16.toNat ++
    encode 2 gamepad.sThumbRX.toUInt16.toNat ++ encode 2 gamepad.sThumbRY.toUInt16.toNat

def XinputStateShared.bytes (state : XinputStateShared) : List UInt8 :=
  encode 4 state.dwPacketNumber.toNat ++ state.gamepad.bytes

/-- The two bytes from `offset` on. -/
def wordAt (memory : List UInt8) (offset : Nat) : UInt16 :=
  UInt16.ofNat (decode ((memory.drop offset).take 2))

/-- `*reinterpret_cast<XUSB_REPORT*>(&memory[offset])`. -/
def XusbReport.at (memory : List UInt8) (offset : Nat) : XusbReport where
  wButtons := wordAt memory offset
  bLeftTrigger := memory.getD (offset + 2) 0
  bRightTrigger := memory.getD (offset + 3) 0
  sThumbLX := (wordAt memory (offset + 4)).toInt16
  sThumbLY := (wordAt memory (offset + 6)).toInt16
  sThumbRX := (wordAt memory (offset + 8)).toInt16
  sThumbRY := (wordAt memory (offset + 10)).toInt16

/-- `sizeof(XINPUT_STATE)`: the packet number and a gamepad. -/
def sizeofXinputState : Nat := 16

/-- Where its `Gamepad` starts. -/
def offsetofGamepad : Nat := 4

/-- Write `bytes` from `offset` on. -/
def memcpy (memory : List UInt8) (offset : Nat) (bytes : List UInt8) : List UInt8 :=
  memory.take offset ++ bytes ++ memory.drop (offset + bytes.length)

/-! ## The client -/

/-- A `PVIGEM_TARGET` that is not null. -/
abbrev Target := Nat

/-- `VIGEM_SUCCESS`. -/
def vigemSuccess (error : Int32) : Bool := error = 0x20000000

/-- `std::format("{:x}", value)`. -/
def hex (value : Int) : String :=
  (if value < 0 then "-" else "") ++ String.ofList (Nat.toDigits 16 value.natAbs)

structure VigemClient where
  /-- Whether `_driver_handler` is not null. -/
  driverHandler : Bool
  gamepads : List Target
  lastError : String
deriving DecidableEq

/-- A call made of the bus. -/
inductive BusCall where
  | disconnect
  | targetAdd (target : Target)
  | targetRemove (target : Target)
  | x360Update (target : Target) (report : XusbReport)
deriving DecidableEq

/-- What a method returns, the calls it makes and the client it leaves. -/
structure Done (α : Type) where
  result : α
  calls : List BusCall
  client : VigemClient

namespace VigemClient

/-- `impl`, given whether `vigem_alloc` succeeds and the answer of `vigem_connect`. -/
def new (alloc : Bool) (connect : Int32) : VigemClient :=
  let traceInfo := "vigem_client::vigem_client"
  if alloc then
    if vigemSuccess connect then ⟨true, [], ""⟩
    else
      ⟨true, [], "gamepad bus connection failed with error code: " ++ hex connect.toInt
        ++ ". trace info:" ++ traceInfo⟩
  else ⟨false, [], "could not allocate memory for bus handler. trace info: " ++ traceInfo⟩

def resetDriver (client : VigemClient) : Done Bool :=
  if client.driverHandler then ⟨true, [.disconnect], client⟩
  else ⟨false, [], { client with lastError := "could not disconnect ViGem driver bus" }⟩

/-- `handler` is the new target, if there is memory for it, and `pair` the answer of
`vigem_target_add`. -/
def addGamepadController (gameType : GamepadType) (handler : Option Target) (pair : Int32)
    (client : VigemClient) : Done Int :=
  let traceInfo := "vigem_client::add_gamepad_controller"
  if client.driverHandler then
    match handler with
    | some handler =>
      if vigemSuccess pair then
        let gamepads := client.gamepads ++ [handler]
        ⟨i32.wrap (gamepads.length - 1), [.targetAdd handler], { client with gamepads }⟩
      else
        ⟨-1, [.targetAdd handler, .targetRemove handler],
          { client with lastError := "pair with bus failed with error code: " ++ hex pair.toInt
              ++ ". trace info: " ++ traceInfo }⟩
    | none =>
      let name := match gameType with
        | .xbox360 => "XBox360"
        | .ps4 => "PS4"
      ⟨-1, [], { client with lastError := "could not allocate memory for " ++ name
        ++ " target. trace info:" ++ traceInfo }⟩
  else
    ⟨-1, [], { client with lastError := "ViGem driver handler is null. trace info:" ++ traceInfo }⟩

/-- The memory around the `XINPUT_STATE` that is sent, which starts with whatever is on
the stack.  The size of the whole state is copied to its `Gamepad`, so the copy starts
with the packet number and ends four bytes behind the state. -/
def sentState (stack : Nat → UInt8) (pXInput : XinputStateShared) : List UInt8 :=
  let xinputState := (List.range (offsetofGamepad + sizeofXinputState)).map stack
  let xinputState := memcpy xinputState 0 (encode 4 pXInput.dwPacketNumber.toNat)
  memcpy xinputState offsetofGamepad (pXInput.bytes.take sizeofXinputState)

def sendXbox360Input (gamePadIndex : UInt32) (pXInput : XinputStateShared) (stack : Nat → UInt8)
    (client : VigemClient) : Done Bool :=
  match client.gamepads[gamePadIndex.toNat]? with
  | some gamepad =>
    ⟨true, [.x360Update gamepad (.at (sentState stack pXInput) offsetofGamepad)], client⟩
  | none => ⟨false, [], { client with lastError := "gamepad index is invalid" }⟩

/-- A negative index becomes one of the largest.  The report is read from the start of a
zeroed state, and the error and `false` follow in any case. -/
def clearGamepadState (pGamePadIndex : Int32) (client : VigemClient) : Done Bool :=
  let gamePadIndex := pGamePadIndex.toUInt32
  let state := List.replicate sizeofXinputState 0
  let calls := match client.gamepads[gamePadIndex.toNat]? with
    | some gamepad => [.x360Update gamepad (.at state 0)]
    | none => []
  ⟨false, calls, { client with lastError := "gamepad index is invalid" }⟩

def getNumberOfGamepads (client : VigemClient) : UInt32 := UInt32.ofNat client.gamepads.length

end VigemClient

end WolfEngine.System.Os
