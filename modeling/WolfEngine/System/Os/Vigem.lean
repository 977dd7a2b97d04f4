import Mathlib.Logic.Function.Basic
import WolfEngine.Library.FirstFit
import WolfEngine.Library.Ledger
import WolfEngine.System.Os.VigemClient

/-! # The library of the gamepad bus

`vigem_client/ViGEmClient.cpp`.  The driver is a parameter: it answers each request with
what it puts out, or with the error that `GetLastError` reads, and goes over to a state
that may also show what other processes did.  Objects that are acquired from the system
are known by their place in a ledger, targets among them.
-/

namespace WolfEngine.System.Os

open Custody

/-- `VIGEM_ERROR`. -/
inductive VigemError where
  | none
  | busNotFound
  | noFreeSlot
  | invalidTarget
  | removalFailed
  | alreadyConnected
  | targetUninitialized
  | targetNotPluggedIn
  | busVersionMismatch
  | busAccessFailed
  | busAlreadyConnected
  | busInvalidHandle
  | xusbUserindexOutOfRange
  | invalidParameter
  | notSupported
deriving DecidableEq

def VigemError.code : VigemError → Int32
  | .none => 0x20000000
  | .busNotFound => 0xE0000001
  | .noFreeSlot => 0xE0000002
  | .invalidTarget => 0xE0000003
  | .removalFailed => 0xE0000004
  | .alreadyConnected => 0xE0000005
  | .targetUninitialized => 0xE0000006
  | .targetNotPluggedIn => 0xE0000007
  | .busVersionMismatch => 0xE0000008
  | .busAccessFailed => 0xE0000009
  | .busAlreadyConnected => 0xE0000012
  | .busInvalidHandle => 0xE0000013
  | .xusbUserindexOutOfRange => 0xE0000014
  | .invalidParameter => 0xE0000015
  | .notSupported => 0xE0000016

/-- `VIGEM_TARGET_STATE`. -/
inductive TargetState where
  | new
  | initialized
  | connected
  | disconnected
deriving DecidableEq

/-- `VIGEM_TARGET_TYPE`. -/
inductive TargetType where
  | xbox360Wired
  | dualShock4Wired
deriving DecidableEq

/-- `VIGEM_TARGET`, less what only the notifications use. -/
structure VigemTarget where
  serialNo : Nat
  state : TargetState
  vendorId : UInt16
  productId : UInt16
  type : TargetType
  isWaitReadyUnsupported : Bool
deriving DecidableEq

/-- `VIGEM_TARGETS_MAX`. -/
def vigemTargetsMax : Nat := 65535

/-- `DS4_REPORT`. -/
structure Ds4Report where
  bThumbLX : UInt8
  bThumbLY : UInt8
  bThumbRX : UInt8
  bThumbRY : UInt8
  wButtons : UInt16
  bSpecial : UInt8
  bTriggerL : UInt8
  bTriggerR : UInt8
deriving DecidableEq

/-! ## The driver -/

/-- An open handle of the bus device. -/
abbrev Handle := Nat

/-- A `DeviceIoControl` code with its input. -/
inductive Request where
  | pluginTarget (serialNo : Nat) (targetType : TargetType) (vendorId productId : UInt16)
  | unplugTarget (serialNo : Nat)
  | waitDeviceReady (serialNo : Nat)
  | xusbSubmitReport (serialNo : Nat) (report : XusbReport)
  | ds4SubmitReport (serialNo : Nat) (report : Ds4Report)
  | ds4SubmitReportEx (serialNo : Nat) (report : List UInt8)
  | xusbGetUserIndex (serialNo : Nat)
deriving DecidableEq

def errorAccessDenied : UInt32 := 5

def errorInvalidParameter : UInt32 := 87

def errorInvalidDeviceObjectParameter : UInt32 := 650

/-- The driver and all that use it; `δ` is their state. -/
structure BusDriver (δ : Type) where
  /-- `DeviceIoControl` up to `GetOverlappedResult`: the output, or the last error. -/
  deviceIoControl : Handle → Request → δ → Except UInt32 UInt32 × δ
  closeHandle : Handle → δ → δ

/-! ## The process -/

/-- What the library acquires. -/
inductive Resource where
  | client
  | deviceInfoSet
  | busDevice
  | target
deriving DecidableEq

/-- `VIGEM_CLIENT`, with the object that it is. -/
structure Vigem where
  object : Nat
  hBusDevice : Option Handle
deriving DecidableEq

/-- A process with at most one client. -/
structure Host (δ : Type) where
  ledger : Ledger Resource
  vigem : Option Vigem
  targets : Target → VigemTarget
  bus : δ

variable {δ : Type}

namespace Host

def acquire (resource : Resource) (host : Host δ) : Host δ :=
  { host with ledger := host.ledger.acquire resource }

def release (object : Nat) (host : Host δ) : Host δ :=
  { host with ledger := host.ledger.release object }

/-- `vigem->hBusDevice = handle`. -/
def setBusDevice (handle : Option Handle) (host : Host δ) : Host δ :=
  { host with vigem := host.vigem.map fun vigem => { vigem with hBusDevice := handle } }

/-- Write a target. -/
def setTarget (target : Target) (value : VigemTarget) (host : Host δ) : Host δ :=
  { host with targets := Function.update host.targets target value }

/-- The bus device, where there is a client that has it open. -/
def busDevice (host : Host δ) : Option Handle := host.vigem.bind Vigem.hBusDevice

section Fields

variable (host : Host δ) (resource : Resource) (object : Nat) (handle : Option Handle)
  (target : Target) (value : VigemTarget)

@[simp] theorem acquire_ledger :
    (host.acquire resource).ledger = host.ledger.acquire resource := rfl

@[simp] theorem acquire_vigem : (host.acquire resource).vigem = host.vigem := rfl

@[simp] theorem acquire_targets : (host.acquire resource).targets = host.targets := rfl

@[simp] theorem acquire_bus : (host.acquire resource).bus = host.bus := rfl

@[simp] theorem release_ledger : (host.release object).ledger = host.ledger.release object := rfl

@[simp] theorem release_vigem : (host.release object).vigem = host.vigem := rfl

@[simp] theorem release_targets : (host.release object).targets = host.targets := rfl

@[simp] theorem release_bus : (host.release object).bus = host.bus := rfl

@[simp] theorem setBusDevice_ledger : (host.setBusDevice handle).ledger = host.ledger := rfl

@[simp] theorem setBusDevice_targets : (host.setBusDevice handle).targets = host.targets := rfl

@[simp] theorem setBusDevice_bus : (host.setBusDevice handle).bus = host.bus := rfl

@[simp] theorem setTarget_ledger : (host.setTarget target value).ledger = host.ledger := rfl

@[simp] theorem setTarget_vigem : (host.setTarget target value).vigem = host.vigem := rfl

@[simp] theorem setTarget_bus : (host.setTarget target value).bus = host.bus := rfl

@[simp] theorem setTarget_targets_self :
    (host.setTarget target value).targets target = value := Function.update_self ..

theorem setTarget_targets_of_ne {other : Target} (isOther : other ≠ target) :
    (host.setTarget target value).targets other = host.targets other :=
  Function.update_of_ne isOther ..

@[simp] theorem setTarget_setTarget (earlier : VigemTarget) :
    (host.setTarget target earlier).setTarget target value = host.setTarget target value := by
  simp [setTarget, Function.update_idem]

end Fields

end Host

/-! ## The client -/

/-- `memory` is whether `malloc` has any. -/
def vigemAlloc (memory : Bool) (host : Host δ) : Host δ :=
  if memory then
    { host.acquire .client with vigem := some ⟨host.ledger.fresh, none⟩ }
  else { host with vigem := none }

def vigemFree (host : Host δ) : Host δ :=
  match host.vigem with
  | some vigem => host.release vigem.object
  | none => host

/-- A device interface of the enumeration. -/
structure Interface where
  /-- `SetupDiGetDeviceInterfaceDetail` has its path. -/
  detail : Bool
  /-- `CreateFile` opens it. -/
  opens : Bool
  /-- Its driver has the version `VIGEM_COMMON_VERSION`. -/
  accepts : Bool
deriving DecidableEq

/-- The loop of `vigem_connect`, with the error so far.  An interface without a path ends
it: the set is destroyed there, and a set that was destroyed has no interfaces. -/
def enumerate (deviceInfoSet : Nat) : List Interface → VigemError → Host δ → VigemError × Host δ
  | [], error, host => (error, host)
  | interface :: interfaces, _, host =>
    if interface.detail then
      if interface.opens then
        let handle := host.ledger.fresh
        let host := (host.acquire .busDevice).setBusDevice (some handle)
        if interface.accepts then (.none, host)
        else enumerate deviceInfoSet interfaces .busVersionMismatch host
      else enumerate deviceInfoSet interfaces .busAccessFailed (host.setBusDevice none)
    else (.busNotFound, host.release deviceInfoSet)

def vigemConnect (interfaces : List Interface) (host : Host δ) : VigemError × Host δ :=
  match host.vigem with
  | none => (.busInvalidHandle, host)
  | some vigem =>
    if vigem.hBusDevice.isSome then (.busAlreadyConnected, host)
    else
      let deviceInfoSet := host.ledger.fresh
      let (error, host) :=
        enumerate deviceInfoSet interfaces .busNotFound (host.acquire .deviceInfoSet)
      (error, host.release deviceInfoSet)

def vigemDisconnect (driver : BusDriver δ) (host : Host δ) : Host δ :=
  match host.busDevice with
  | some handle =>
    { (host.release handle).setBusDevice none with bus := driver.closeHandle handle host.bus }
  | none => host

/-! ## Targets -/

/-- `VIGEM_TARGET_ALLOC_INIT`, and the identifiers that its callers set. -/
def vigemTargetAllocInit (type : TargetType) (vendorId productId : UInt16) (memory : Bool)
    (host : Host δ) : Option Target × Host δ :=
  if memory then
    let target := host.ledger.fresh
    (some target, (host.acquire .target).setTarget target
      { serialNo := 0
        state := .initialized
        vendorId
        productId
        type
        isWaitReadyUnsupported := false })
  else (none, host)

def vigemTargetX360Alloc (memory : Bool) (host : Host δ) : Option Target × Host δ :=
  vigemTargetAllocInit .xbox360Wired 0x045E 0x028E memory host

def vigemTargetDs4Alloc (memory : Bool) (host : Host δ) : Option Target × Host δ :=
  vigemTargetAllocInit .dualShock4Wired 0x054C 0x05C4 memory host

def vigemTargetFree (target : Option Target) (host : Host δ) : Host δ :=
  match target with
  | some target => host.release target
  | none => host

/-- The checks that every call on a target starts with; `refuse` is what it returns for an
error of theirs. -/
def checked {α : Type} (refuse : VigemError → α) (target : Option Target) (host : Host δ)
    (call : Handle → Target → α × Host δ) : α × Host δ :=
  match host.vigem with
  | none => (refuse .busInvalidHandle, host)
  | some vigem =>
    match target with
    | none => (refuse .invalidTarget, host)
    | some target =>
      match vigem.hBusDevice with
      | none => (refuse .busNotFound, host)
      | some handle => call handle target

def vigemTargetRemove (driver : BusDriver δ) (target : Option Target) (host : Host δ) :
    VigemError × Host δ :=
  checked id target host fun handle target =>
    let value := host.targets target
    if value.state = .new then (.targetUninitialized, host)
    else if value.state ≠ .connected then (.targetNotPluggedIn, host)
    else
      match driver.deviceIoControl handle (.unplugTarget value.serialNo) host.bus with
      | (.ok _, bus) =>
        (.none, { host.setTarget target { value with state := .disconnected } with bus })
      | (.error _, bus) => (.removalFailed, { host with bus })

/-- The body of the loop in `vigem_target_add`; it breaks with what the call returns. -/
def plugIn (driver : BusDriver δ) (handle : Handle) (target : Target) (serialNo : Nat)
    (host : Host δ) : Option VigemError × Host δ :=
  let value := { host.targets target with serialNo }
  let host := host.setTarget target value
  match driver.deviceIoControl handle
      (.pluginTarget serialNo value.type value.vendorId value.productId) host.bus with
  | (.error _, bus) => (none, { host with bus })
  | (.ok _, bus) =>
    match driver.deviceIoControl handle (.waitDeviceReady serialNo) bus with
    | (.ok _, bus) =>
      (some .none, { host.setTarget target { value with state := .connected } with bus })
    | (.error error, bus) =>
      if error = errorInvalidParameter then
        (some .none,
          { host.setTarget target
              { value with state := .connected, isWaitReadyUnsupported := true } with bus })
      else
        let (error, host) := vigemTargetRemove driver (some target) { host with bus }
        (some error, host)

def vigemTargetAdd (driver : BusDriver δ) (target : Option Target) (host : Host δ) :
    VigemError × Host δ :=
  checked id target host fun handle target =>
    let state := (host.targets target).state
    if state = .new then (.targetUninitialized, host)
    else if state = .connected then (.alreadyConnected, host)
    else
      match FirstFit.search (plugIn driver handle target) vigemTargetsMax 1 host with
      | (some (_, error), host) => (error, host)
      | (none, host) =>
        -- the serial number that ended the loop
        (.noFreeSlot, host.setTarget target
          { host.targets target with serialNo := vigemTargetsMax + 1 })

/-! ## Reports -/

/-- What the calls that send a report share: `answer` is what they return for an error of
the driver. -/
def submit (driver : BusDriver δ) (request : Nat → Request) (answer : UInt32 → VigemError)
    (target : Option Target) (host : Host δ) : VigemError × Host δ :=
  checked id target host fun handle target =>
    let value := host.targets target
    if value.serialNo = 0 then (.invalidTarget, host)
    else
      match driver.deviceIoControl handle (request value.serialNo) host.bus with
      | (.ok _, bus) => (.none, { host with bus })
      | (.error error, bus) => (answer error, { host with bus })

def vigemTargetX360Update (driver : BusDriver δ) (target : Option Target) (report : XusbReport)
    (host : Host δ) : VigemError × Host δ :=
  submit driver (.xusbSubmitReport · report)
    (fun error => if error = errorAccessDenied then .invalidTarget else .none) target host

def vigemTargetDs4Update (driver : BusDriver δ) (target : Option Target) (report : Ds4Report)
    (host : Host δ) : VigemError × Host δ :=
  submit driver (.ds4SubmitReport · report)
    (fun error => if error = errorAccessDenied then .invalidTarget else .none) target host

/-- The extended report is what its 63 bytes are. -/
def vigemTargetDs4UpdateEx (driver : BusDriver δ) (target : Option Target) (report : List UInt8)
    (host : Host δ) : VigemError × Host δ :=
  submit driver (.ds4SubmitReportEx · report)
    (fun error =>
      if error = errorAccessDenied then .invalidTarget
      else if error = errorInvalidParameter then .notSupported
      else .none)
    target host

/-- `index` is whether the pointer is not null; what is written there comes with the error.
After an error that is not told apart this is the zero of the request. -/
def vigemTargetX360GetUserIndex (driver : BusDriver δ) (target : Option Target) (index : Bool)
    (host : Host δ) : (VigemError × Option UInt32) × Host δ :=
  let refuse (error : VigemError) : VigemError × Option UInt32 := (error, none)
  checked refuse target host fun handle target =>
    let value := host.targets target
    if value.serialNo = 0 || value.type ≠ .xbox360Wired then (refuse .invalidTarget, host)
    else if !index then (refuse .invalidParameter, host)
    else
      match driver.deviceIoControl handle (.xusbGetUserIndex value.serialNo) host.bus with
      | (.ok userIndex, bus) => ((.none, some userIndex), { host with bus })
      | (.error error, bus) =>
        if error = errorAccessDenied then (refuse .invalidTarget, { host with bus })
        else if error = errorInvalidDeviceObjectParameter then
          (refuse .xusbUserindexOutOfRange, { host with bus })
        else ((.none, some 0), { host with bus })

end WolfEngine.System.Os
