import Mathlib.Data.Set.Insert
import WolfEngine.System.Os.Vigem

/-! # What the calls of the bus library do

Each call on a target changes that target alone, and what it asks of the driver says what
it does to the devices that are plugged in.
-/

namespace WolfEngine.Verified.SerialNumbers

open WolfEngine.System.Os Custody

variable {δ : Type} {driver : BusDriver δ}

/-- Whether a request may change what is plugged in. -/
def Plugs : Request → Prop
  | .pluginTarget .. | .unplugTarget _ => True
  | _ => False

/-- What the library relies on.  The pairs are the handles that a device was plugged in
through with its serial number; devices of other processes are not among them. -/
structure Lawful (driver : BusDriver δ) (plugged : δ → Set (Handle × Nat)) : Prop where
  plugin : ∀ {handle serialNo type vendorId productId bus output after},
    driver.deviceIoControl handle (.pluginTarget serialNo type vendorId productId) bus =
        (.ok output, after) →
      (∀ other, (other, serialNo) ∉ plugged bus) ∧
        plugged after = insert (handle, serialNo) (plugged bus)
  unplug : ∀ {handle serialNo bus output after},
    driver.deviceIoControl handle (.unplugTarget serialNo) bus = (.ok output, after) →
      plugged after = plugged bus \ {(handle, serialNo)}
  fails : ∀ {handle request bus error after},
    driver.deviceIoControl handle request bus = (.error error, after) → plugged after = plugged bus
  keeps : ∀ {handle request bus answer after}, ¬Plugs request →
    driver.deviceIoControl handle request bus = (answer, after) → plugged after = plugged bus
  /-- All that is still plugged in is destroyed. -/
  close : ∀ handle bus,
    plugged (driver.closeHandle handle bus) = {device ∈ plugged bus | device.1 ≠ handle}

/-- A driver that no other process uses, and that knows what is plugged in. -/
def soleDriver : BusDriver (List (Handle × Nat)) where
  deviceIoControl handle request bus :=
    let known (serialNo : Nat) : Except UInt32 UInt32 × List (Handle × Nat) :=
      if (handle, serialNo) ∈ bus then (.ok 0, bus) else (.error errorAccessDenied, bus)
    match request with
    | .pluginTarget serialNo _ _ _ =>
      if bus.any (·.2 = serialNo) then (.error errorInvalidParameter, bus)
      else (.ok 0, (handle, serialNo) :: bus)
    | .unplugTarget serialNo =>
      if (handle, serialNo) ∈ bus then (.ok 0, bus.filter (· ≠ (handle, serialNo)))
      else (.error errorAccessDenied, bus)
    | .waitDeviceReady serialNo | .xusbSubmitReport serialNo _ | .ds4SubmitReport serialNo _
    | .ds4SubmitReportEx serialNo _ | .xusbGetUserIndex serialNo => known serialNo
  closeHandle handle bus := bus.filter (·.1 ≠ handle)

theorem soleDriver_lawful : Lawful soleDriver fun bus => {device | device ∈ bus} where
  plugin {handle serialNo type vendorId productId bus output after} asked := by
    simp only [soleDriver] at asked
    split at asked
    next => cases asked
    next isFree =>
      cases asked
      constructor
      · intro other member
        exact isFree (List.any_eq_true.mpr ⟨_, member, by simp⟩)
      · ext device
        simp
  unplug {handle serialNo bus output after} asked := by
    simp only [soleDriver] at asked
    split at asked
    next =>
      cases asked
      ext device
      simp
    next => cases asked
  fails {handle request bus error after} asked := by
    cases request <;> simp only [soleDriver] at asked <;> split at asked <;> cases asked <;> rfl
  keeps {handle request bus answer after} reads asked := by
    cases request with
    | pluginTarget | unplugTarget => exact absurd trivial reads
    | _ => simp only [soleDriver] at asked; split at asked <;> cases asked <;> rfl
  close handle bus := by
    ext device
    simp [soleDriver]

def Connected (host : Host δ) (target : Target) : Prop := (host.targets target).state = .connected

def serialNo (host : Host δ) (target : Target) : Nat := (host.targets target).serialNo

/-! ## What each call does -/

/-- A call on `target` leaves all else of the process as it was. -/
structure Frame (target : Target) (host after : Host δ) : Prop where
  vigem : after.vigem = host.vigem
  ledger : after.ledger = host.ledger
  others : ∀ other, other ≠ target → after.targets other = host.targets other

theorem Frame.refl (target : Target) (host : Host δ) : Frame target host host :=
  ⟨rfl, rfl, fun _ _ => rfl⟩

theorem Frame.trans {target : Target} {host middle after : Host δ}
    (first : Frame target host middle) (second : Frame target middle after) :
    Frame target host after where
  vigem := second.vigem.trans first.vigem
  ledger := second.ledger.trans first.ledger
  others other isOther := (second.others other isOther).trans (first.others other isOther)

theorem Frame.busDevice {target : Target} {host after : Host δ} (frame : Frame target host after) :
    after.busDevice = host.busDevice := by
  simp [Host.busDevice, frame.vigem]

theorem frame_setTarget (target : Target) (value : VigemTarget) (host : Host δ) (bus : δ) :
    Frame target host { host.setTarget target value with bus } where
  vigem := rfl
  ledger := rfl
  others _ isOther := host.setTarget_targets_of_ne target value isOther

/-- The checks pass when there is a bus. -/
theorem checked_open {α : Type} {refuse : VigemError → α} {target : Target} {host : Host δ}
    {call : Handle → Target → α × Host δ} {handle : Handle} (isOpen : host.busDevice = some handle) :
    checked refuse (some target) host call = call handle target := by
  cases client : host.vigem with
  | none => simp [Host.busDevice, client] at isOpen
  | some vigem =>
    have device : vigem.hBusDevice = some handle := by simpa [Host.busDevice, client] using isOpen
    simp [checked, client, device]

/-- What a call does is what its checks do without a bus, and what its body does with one. -/
theorem checked_rule {α : Type} {motive : α × Host δ → Prop} {refuse : VigemError → α}
    {target : Target} {host : Host δ} {call : Handle → Target → α × Host δ}
    (noClient : motive (refuse .busInvalidHandle, host)) (noBus : motive (refuse .busNotFound, host))
    (opened : ∀ handle, host.busDevice = some handle → motive (call handle target)) :
    motive (checked refuse (some target) host call) := by
  cases client : host.vigem with
  | none => simpa [checked, client] using noClient
  | some vigem =>
    cases device : vigem.hBusDevice with
    | none => simpa [checked, client, device] using noBus
    | some handle =>
      have isOpen : host.busDevice = some handle := by simp [Host.busDevice, client, device]
      rw [checked_open isOpen]
      exact opened handle isOpen

/-- A target that is not connected is not unplugged. -/
theorem remove_unconnected (driver : BusDriver δ) (host : Host δ) {handle : Handle}
    (isOpen : host.busDevice = some handle) {target : Target}
    (initialized : (host.targets target).state ≠ .new)
    (unconnected : ¬Connected host target) :
    vigemTargetRemove driver (some target) host = (.targetNotPluggedIn, host) := by
  have isNot : (host.targets target).state ≠ .connected := unconnected
  rw [vigemTargetRemove, checked_open isOpen]
  simp [initialized, isNot]

/-- One round of the loop in `vigem_target_add`, with what the driver answered. -/
inductive Tries (driver : BusDriver δ) (handle : Handle) (target : Target) (serialNo : Nat)
    (host : Host δ) : Option VigemError × Host δ → Prop
  | refused {error : UInt32} {bus : δ}
      (asked : driver.deviceIoControl handle (.pluginTarget serialNo (host.targets target).type
        (host.targets target).vendorId (host.targets target).productId) host.bus =
          (.error error, bus)) :
      Tries driver handle target serialNo host
        (none, { host.setTarget target { host.targets target with serialNo } with bus })
  | granted {output : UInt32} {middle : δ} {answer : Except UInt32 UInt32} {ready : δ}
      {error : VigemError} {value : VigemTarget}
      (asked : driver.deviceIoControl handle (.pluginTarget serialNo (host.targets target).type
        (host.targets target).vendorId (host.targets target).productId) host.bus =
          (.ok output, middle))
      (waited : driver.deviceIoControl handle (.waitDeviceReady serialNo) middle = (answer, ready))
      (number : value.serialNo = serialNo)
      (connects : error = .none ∧ value.state = .connected ∨
        error = .targetNotPluggedIn ∧ value.state = (host.targets target).state) :
      Tries driver handle target serialNo host
        (some error, { host.setTarget target value with bus := ready })

theorem plugIn_tries (driver : BusDriver δ) {host : Host δ} {handle : Handle}
    (isOpen : host.busDevice = some handle) {target : Target}
    (initialized : (host.targets target).state ≠ .new) (unconnected : ¬Connected host target)
    (serialNo : Nat) :
    Tries driver handle target serialNo host (plugIn driver handle target serialNo host) := by
  unfold plugIn
  cases asked : driver.deviceIoControl handle (.pluginTarget serialNo (host.targets target).type
      (host.targets target).vendorId (host.targets target).productId) host.bus with
  | mk answer bus =>
    cases answer with
    | error refused =>
      simp only [Host.setTarget_bus, asked]
      exact .refused asked
    | ok output =>
      simp only [Host.setTarget_bus, asked]
      cases waited : driver.deviceIoControl handle (.waitDeviceReady serialNo) bus with
      | mk answer ready =>
        cases answer with
        | ok output =>
          simp only [Host.setTarget_setTarget]
          exact .granted asked waited rfl (.inl ⟨rfl, rfl⟩)
        | error error =>
          simp only [Host.setTarget_setTarget]
          split
          next unsupported => exact .granted asked waited rfl (.inl ⟨rfl, rfl⟩)
          next failed =>
            have framed := frame_setTarget target { host.targets target with serialNo } host ready
            rw [remove_unconnected driver _ (framed.busDevice.trans isOpen) (by simpa using initialized)
              (by simpa [Connected] using unconnected)]
            exact .granted asked waited rfl (.inr ⟨rfl, rfl⟩)

section Calls

variable {plugged : δ → Set (Handle × Nat)} (lawful : Lawful driver plugged)

/-- The target is as connected as before, and so is the bus. -/
structure Quiet (plugged : δ → Set (Handle × Nat)) (target : Target) (host after : Host δ) : Prop where
  frame : Frame target host after
  state : (after.targets target).state = (host.targets target).state
  plugged : plugged after.bus = plugged host.bus
  number : Connected host target → serialNo after target = serialNo host target

theorem Quiet.refl (target : Target) (host : Host δ) : Quiet plugged target host host :=
  ⟨.refl target host, rfl, rfl, fun _ => rfl⟩

theorem Quiet.trans_unconnected {target : Target} {host middle after : Host δ}
    (first : Quiet plugged target host middle) (second : Quiet plugged target middle after)
    (unconnected : ¬Connected host target) : Quiet plugged target host after where
  frame := first.frame.trans second.frame
  state := second.state.trans first.state
  plugged := second.plugged.trans first.plugged
  number connected := absurd connected unconnected

theorem Quiet.unconnected {target : Target} {host after : Host δ}
    (quiet : Quiet plugged target host after) (unconnected : ¬Connected host target) :
    ¬Connected after target := by
  rwa [Connected, quiet.state]

/-- A device was plugged in at a number that no device had; the call returned `error`. -/
structure PlugsIn (plugged : δ → Set (Handle × Nat)) (target : Target) (handle : Handle)
    (serialNo : Nat) (error : VigemError) (host after : Host δ) : Prop where
  frame : Frame target host after
  unconnected : ¬Connected host target
  unplugged : ∀ other, (other, serialNo) ∉ plugged host.bus
  plugged : plugged after.bus = insert (handle, serialNo) (plugged host.bus)
  number : (after.targets target).serialNo = serialNo
  /-- Unless the wait fails, in which case the device stays plugged in. -/
  connects : error = .none ∧ Connected after target ∨
    error = .targetNotPluggedIn ∧ (after.targets target).state = (host.targets target).state

theorem PlugsIn.of_quiet {target : Target} {handle : Handle} {number : Nat} {error : VigemError}
    {host middle after : Host δ} (plugsIn : PlugsIn plugged target handle number error middle after)
    (quiet : Quiet plugged target host middle) :
    PlugsIn plugged target handle number error host after where
  frame := quiet.frame.trans plugsIn.frame
  unconnected := by
    have unconnected := plugsIn.unconnected
    rwa [Connected, quiet.state] at unconnected
  unplugged := quiet.plugged ▸ plugsIn.unplugged
  plugged := quiet.plugged ▸ plugsIn.plugged
  number := plugsIn.number
  connects := quiet.state ▸ plugsIn.connects

/-- The number of a target that is not connected may change. -/
theorem Quiet.numbered {target : Target} {host after : Host δ}
    (quiet : Quiet plugged target host after) (unconnected : ¬Connected host target)
    (serialNo : Nat) :
    Quiet plugged target host
      (after.setTarget target { after.targets target with serialNo }) where
  frame := quiet.frame.trans (frame_setTarget target _ after after.bus)
  state := by simpa using quiet.state
  plugged := quiet.plugged
  number connected := absurd connected unconnected

/-- What an add does to its target, to the bus and to nothing else. -/
inductive AddDoes (plugged : δ → Set (Handle × Nat)) (target : Target) (host : Host δ) :
    VigemError × Host δ → Prop
  | refuses {error : VigemError} {after : Host δ} (quiet : Quiet plugged target host after)
      (isError : error ≠ .none) (other : error ≠ .targetNotPluggedIn) :
      AddDoes plugged target host (error, after)
  | plugsIn {error : VigemError} {after : Host δ} {handle : Handle} {serialNo : Nat}
      (isOpen : host.busDevice = some handle) (least : 1 ≤ serialNo)
      (most : serialNo ≤ vigemTargetsMax)
      (plugsIn : PlugsIn plugged target handle serialNo error host after) :
      AddDoes plugged target host (error, after)

/-- A failed wait leaves its target unconnected. -/
theorem PlugsIn.unconnected_of_error {target : Target} {handle : Handle} {number : Nat}
    {error : VigemError} {host after : Host δ} (plugsIn : PlugsIn plugged target handle number error host after)
    (isError : error = .targetNotPluggedIn) : ¬Connected after target := by
  cases plugsIn.connects with
  | inl success =>
    rw [isError] at success
    cases success.1
  | inr failure =>
    rw [Connected, failure.2]
    exact plugsIn.unconnected

theorem AddDoes.frame {target : Target} {host : Host δ} {done : VigemError × Host δ}
    (does : AddDoes plugged target host done) : Frame target host done.2 := by
  cases does with
  | refuses quiet => exact quiet.frame
  | plugsIn isOpen least most plugsIn => exact plugsIn.frame

/-- Whether the target of an add is connected is what the add answers. -/
theorem AddDoes.connected_iff {target : Target} {host : Host δ} {done : VigemError × Host δ}
    (does : AddDoes plugged target host done) (unconnected : ¬Connected host target) :
    Connected done.2 target ↔ done.1 = .none := by
  cases does with
  | refuses quiet isError other => simp [isError, quiet.unconnected unconnected]
  | plugsIn isOpen least most plugsIn =>
    cases plugsIn.connects with
    | inl success => simp [success.1, success.2]
    | inr failure => simp [failure.1, plugsIn.unconnected_of_error failure.1]

include lawful

theorem plugIn_cases {host : Host δ} {handle : Handle} (isOpen : host.busDevice = some handle)
    {target : Target} (initialized : (host.targets target).state ≠ .new)
    (unconnected : ¬Connected host target) (serialNo : Nat) :
    (plugIn driver handle target serialNo host).1 = none ∧
        Quiet plugged target host (plugIn driver handle target serialNo host).2 ∨
      ∃ error, (plugIn driver handle target serialNo host).1 = some error ∧
        PlugsIn plugged target handle serialNo error host
          (plugIn driver handle target serialNo host).2 := by
  cases tried : plugIn driver handle target serialNo host with
  | mk result after =>
    have tries := plugIn_tries driver isOpen initialized unconnected serialNo
    rw [tried] at tries
    cases tries with
    | @refused refusal bus asked =>
      left
      refine ⟨rfl, frame_setTarget target _ host bus, by simp, lawful.fails asked, ?_⟩
      intro connected
      exact absurd connected unconnected
    | @granted output middle answer ready error value asked waited number connects =>
      obtain ⟨unplugged, isPlugged⟩ := lawful.plugin asked
      have still := (lawful.keeps (by simp [Plugs]) waited).trans isPlugged
      right
      refine ⟨error, rfl, frame_setTarget target value host ready, unconnected, unplugged, still, ?_, ?_⟩
      · simpa using number
      · simpa [Connected] using connects

/-- An add plugs in one device, at one of the numbers, or none. -/
theorem add_does (target : Target) (host : Host δ) :
    AddDoes plugged target host (vigemTargetAdd driver (some target) host) := by
  have idle (error : VigemError) (isError : error ≠ .none) (other : error ≠ .targetNotPluggedIn) :
      AddDoes plugged target host (error, host) := .refuses (.refl target host) isError other
  unfold vigemTargetAdd
  apply checked_rule (idle _ (by simp) (by simp)) (idle _ (by simp) (by simp))
  intro handle isOpen
  by_cases isNew : (host.targets target).state = .new
  · simpa [isNew] using idle .targetUninitialized (by simp) (by simp)
  by_cases connected : (host.targets target).state = .connected
  · simpa [connected] using idle .alreadyConnected (by simp) (by simp)
  simp only [isNew, connected, if_false]
  have searched := FirstFit.search_cases (plugIn driver handle target) vigemTargetsMax 1 host
    (fun _ now => Quiet plugged target host now)
    (fun slot before after _ quiet refused => by
      cases plugIn_cases lawful (quiet.frame.busDevice.trans isOpen) (quiet.state ▸ isNew)
        (quiet.unconnected connected) slot with
      | inl refusal =>
        rw [refused] at refusal
        exact quiet.trans_unconnected refusal.2 connected
      | inr granted =>
        obtain ⟨error, answer, _⟩ := granted
        rw [refused] at answer
        cases answer)
    (.refl target host)
  cases ended : FirstFit.search (plugIn driver handle target) vigemTargetsMax 1 host with
  | mk result after =>
    rw [ended] at searched
    cases searched with
    | inl found =>
      obtain ⟨slot, error, before, least, below, quiet, taken, answer⟩ := found
      simp only at answer taken
      rw [answer]
      apply AddDoes.plugsIn isOpen least (by omega)
      cases plugIn_cases lawful (quiet.frame.busDevice.trans isOpen) (quiet.state ▸ isNew)
        (quiet.unconnected connected) slot with
      | inl refusal =>
        rw [taken] at refusal
        cases refusal.1
      | inr granted =>
        obtain ⟨sent, answer, plugsIn⟩ := granted
        rw [taken] at answer plugsIn
        cases answer
        exact plugsIn.of_quiet quiet
    | inr none =>
      obtain ⟨quiet, answer⟩ := none
      simp only at answer quiet
      rw [answer]
      exact .refuses (quiet.numbered connected _) (by simp) (by simp)

/-- A removal unplugs the device of its target, or leaves all as it is. -/
inductive RemoveDoes (plugged : δ → Set (Handle × Nat)) (target : Target) (host : Host δ) :
    VigemError × Host δ → Prop
  | refuses {error : VigemError} {after : Host δ} (quiet : Quiet plugged target host after) :
      RemoveDoes plugged target host (error, after)
  | unplugs {after : Host δ} {handle : Handle} (isOpen : host.busDevice = some handle)
      (connected : Connected host target) (frame : Frame target host after)
      (unconnected : ¬Connected after target)
      (unplugged : plugged after.bus = plugged host.bus \ {(handle, serialNo host target)}) :
      RemoveDoes plugged target host (.none, after)

theorem remove_does (target : Target) (host : Host δ) :
    RemoveDoes plugged target host (vigemTargetRemove driver (some target) host) := by
  have idle (error : VigemError) : RemoveDoes plugged target host (error, host) :=
    .refuses (.refl target host)
  unfold vigemTargetRemove
  apply checked_rule (idle _) (idle _)
  intro handle isOpen
  by_cases isNew : (host.targets target).state = .new
  · simpa [isNew] using idle .targetUninitialized
  by_cases connected : (host.targets target).state = .connected
  · simp only [connected, if_false, ne_eq, not_true_eq_false, reduceCtorEq]
    cases asked : driver.deviceIoControl handle (.unplugTarget (host.targets target).serialNo)
        host.bus with
    | mk answer bus =>
      cases answer with
      | ok output =>
        apply RemoveDoes.unplugs isOpen connected (frame_setTarget target _ host bus)
        · simp [Connected]
        · exact lawful.unplug asked
      | error error =>
        exact .refuses ⟨⟨rfl, rfl, fun _ _ => rfl⟩, rfl, lawful.fails asked, fun _ => rfl⟩
  · simpa [isNew, connected] using idle .targetNotPluggedIn

/-- A request that plugs nothing in or out is quiet, whatever the driver says to it. -/
theorem asked_quiet {handle : Handle} {request : Request} {host : Host δ}
    {answer : Except UInt32 UInt32} {bus : δ} (reads : ¬Plugs request)
    (asked : driver.deviceIoControl handle request host.bus = (answer, bus)) (target : Target) :
    Quiet plugged target host { host with bus } :=
  ⟨⟨rfl, rfl, fun _ _ => rfl⟩, rfl, lawful.keeps reads asked, fun _ => rfl⟩

theorem submit_quiet (request : Nat → Request) (reads : ∀ serialNo, ¬Plugs (request serialNo))
    (answer : UInt32 → VigemError) (target : Target) (host : Host δ) :
    Quiet plugged target host (submit driver request answer (some target) host).2 := by
  unfold submit
  apply checked_rule (motive := fun done : VigemError × Host δ => Quiet plugged target host done.2)
    (.refl target host) (.refl target host)
  intro handle isOpen
  by_cases noNumber : (host.targets target).serialNo = 0
  · simpa [noNumber] using Quiet.refl target host
  · simp only [noNumber, if_false]
    cases asked : driver.deviceIoControl handle (request (host.targets target).serialNo) host.bus with
    | mk answer bus =>
      cases answer with
      | ok output => exact asked_quiet lawful (reads _) asked target
      | error error => exact asked_quiet lawful (reads _) asked target

theorem getUserIndex_quiet (target : Target) (index : Bool) (host : Host δ) :
    Quiet plugged target host (vigemTargetX360GetUserIndex driver (some target) index host).2 := by
  unfold vigemTargetX360GetUserIndex
  apply checked_rule
    (motive := fun done : (VigemError × Option UInt32) × Host δ => Quiet plugged target host done.2)
    (.refl target host) (.refl target host)
  intro handle isOpen
  simp only
  split
  next => exact .refl target host
  split
  next => exact .refl target host
  cases asked : driver.deviceIoControl handle (.xusbGetUserIndex (host.targets target).serialNo)
      host.bus with
  | mk answer bus =>
    have quiet := asked_quiet lawful (by simp [Plugs]) asked target
    cases answer with
    | ok output => exact quiet
    | error error =>
      simp only
      split
      next => exact quiet
      split
      next => exact quiet
      next => exact quiet

end Calls

/-! ## What any driver leaves alone -/

theorem remove_frame (driver : BusDriver δ) (target : Target) (host : Host δ) :
    Frame target host (vigemTargetRemove driver (some target) host).2 := by
  unfold vigemTargetRemove
  apply checked_rule (motive := fun done : VigemError × Host δ => Frame target host done.2)
    (.refl target host) (.refl target host)
  intro handle isOpen
  simp only
  split
  next => exact .refl target host
  split
  next => exact .refl target host
  cases driver.deviceIoControl handle (.unplugTarget (host.targets target).serialNo) host.bus with
  | mk answer bus =>
    cases answer with
    | ok output => exact frame_setTarget target _ host bus
    | error error => exact ⟨rfl, rfl, fun _ _ => rfl⟩

theorem plugIn_frame (driver : BusDriver δ) (handle : Handle) (target : Target) (number : Nat)
    (host : Host δ) : Frame target host (plugIn driver handle target number host).2 := by
  unfold plugIn
  simp only
  split
  next bus _ => exact frame_setTarget target _ host bus
  next middle _ =>
    split
    next bus _ => exact (frame_setTarget target _ host middle).trans (frame_setTarget target _ _ bus)
    next bus _ =>
      split
      next => exact (frame_setTarget target _ host middle).trans (frame_setTarget target _ _ bus)
      next => exact (frame_setTarget target _ host bus).trans (remove_frame driver target _)

theorem add_frame (driver : BusDriver δ) (target : Target) (host : Host δ) :
    Frame target host (vigemTargetAdd driver (some target) host).2 := by
  unfold vigemTargetAdd
  apply checked_rule (motive := fun done : VigemError × Host δ => Frame target host done.2)
    (.refl target host) (.refl target host)
  intro handle isOpen
  simp only
  split
  next => exact .refl target host
  split
  next => exact .refl target host
  have searched := FirstFit.search_cases (plugIn driver handle target) vigemTargetsMax 1 host
    (fun _ now => Frame target host now)
    (fun number before after _ frame tried => by
      have next := plugIn_frame driver handle target number before
      rw [tried] at next
      exact frame.trans next)
    (.refl target host)
  cases ended : FirstFit.search (plugIn driver handle target) vigemTargetsMax 1 host with
  | mk result after =>
    rw [ended] at searched
    cases searched with
    | inl found =>
      obtain ⟨number, error, before, _, _, frame, taken, answer⟩ := found
      have next := plugIn_frame driver handle target number before
      rw [taken] at next
      simp only at answer next
      rw [answer]
      exact frame.trans next
    | inr none =>
      obtain ⟨frame, answer⟩ := none
      simp only at answer frame
      rw [answer]
      exact frame.trans (frame_setTarget target _ after after.bus)

theorem submit_frame (driver : BusDriver δ) (request : Nat → Request) (answer : UInt32 → VigemError)
    (target : Target) (host : Host δ) :
    Frame target host (submit driver request answer (some target) host).2 := by
  unfold submit
  apply checked_rule (motive := fun done : VigemError × Host δ => Frame target host done.2)
    (.refl target host) (.refl target host)
  intro handle isOpen
  simp only
  split
  next => exact .refl target host
  cases driver.deviceIoControl handle (request (host.targets target).serialNo) host.bus with
  | mk answer bus => cases answer <;> exact ⟨rfl, rfl, fun _ _ => rfl⟩

/-! ## What no call but a report changes -/

/-- Whether a request carries a report. -/
def Reports : Request → Prop
  | .xusbSubmitReport .. | .ds4SubmitReport .. | .ds4SubmitReportEx .. => True
  | _ => False

section Reports

variable {α : Type} {part : δ → α}
  (keeps : ∀ {handle request bus answer after}, ¬Reports request →
    driver.deviceIoControl handle request bus = (answer, after) → part after = part bus)

include keeps

theorem remove_keeps (target : Target) (host : Host δ) :
    part (vigemTargetRemove driver (some target) host).2.bus = part host.bus := by
  unfold vigemTargetRemove
  apply checked_rule (motive := fun done : VigemError × Host δ => part done.2.bus = part host.bus)
    rfl rfl
  intro handle isOpen
  simp only
  split
  next => rfl
  split
  next => rfl
  cases asked : driver.deviceIoControl handle (.unplugTarget (host.targets target).serialNo) host.bus with
  | mk answer bus =>
    have same := keeps (by simp [Reports]) asked
    cases answer with
    | ok output => exact same
    | error error => exact same

theorem plugIn_keeps (handle : Handle) (target : Target) (number : Nat) (host : Host δ) :
    part (plugIn driver handle target number host).2.bus = part host.bus := by
  unfold plugIn
  cases asked : driver.deviceIoControl handle (.pluginTarget number (host.targets target).type
      (host.targets target).vendorId (host.targets target).productId) host.bus with
  | mk answer bus =>
    have granted := keeps (by simp [Reports]) asked
    cases answer with
    | error error => simpa [asked] using granted
    | ok output =>
      simp only [Host.setTarget_bus, asked]
      cases waited : driver.deviceIoControl handle (.waitDeviceReady number) bus with
      | mk answer ready =>
        have same := (keeps (by simp [Reports]) waited).trans granted
        cases answer with
        | ok output => exact same
        | error error =>
          simp only
          split
          next => exact same
          next => exact (remove_keeps keeps target _).trans same

theorem add_keeps (target : Target) (host : Host δ) :
    part (vigemTargetAdd driver (some target) host).2.bus = part host.bus := by
  unfold vigemTargetAdd
  apply checked_rule (motive := fun done : VigemError × Host δ => part done.2.bus = part host.bus)
    rfl rfl
  intro handle isOpen
  simp only
  split
  next => rfl
  split
  next => rfl
  have searched := FirstFit.search_cases (plugIn driver handle target) vigemTargetsMax 1 host
    (fun _ now => part now.bus = part host.bus)
    (fun number before after _ same tried => by
      have next := plugIn_keeps keeps handle target number before
      rw [tried] at next
      exact next.trans same)
    rfl
  cases ended : FirstFit.search (plugIn driver handle target) vigemTargetsMax 1 host with
  | mk result after =>
    rw [ended] at searched
    cases searched with
    | inl found =>
      obtain ⟨number, error, before, _, _, same, taken, answer⟩ := found
      have next := plugIn_keeps keeps handle target number before
      rw [taken] at next
      simp only at answer next
      rw [answer]
      exact next.trans same
    | inr none =>
      obtain ⟨same, answer⟩ := none
      simp only at answer same
      rw [answer]
      exact same

end Reports

end WolfEngine.Verified.SerialNumbers
