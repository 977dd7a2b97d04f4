import WolfEngine.System.Os.Gamepads
import WolfEngine.Verified.Gamepads
import WolfEngine.Verified.SerialNumbers.Runs

/-! # Where a report goes

A client that uses the library as `vigem_client` does never opens a second bus, so its
gamepads keep numbers of their own.  What a device is sent is then what was given for the
index of its gamepad, until the driver is reset.
-/

namespace WolfEngine.Verified.GamepadReports

open WolfEngine.System.Os WolfEngine.Verified.BusConnect WolfEngine.Verified.SerialNumbers
open WolfEngine.Verified.Gamepads
open Custody Transitions

variable {δ : Type} {driver : BusDriver δ} {plugged : δ → Set (Handle × Nat)}

/-! ## The log of the driver -/

/-- A report with the number of the device that it is sent to. -/
def reportIn : Request → List (Nat × XusbReport)
  | .xusbSubmitReport serialNo report => [(serialNo, report)]
  | _ => []

abbrev Log := List (Nat × XusbReport)

/-- The driver, with a log of what it is sent. -/
def recording (driver : BusDriver δ) : BusDriver (δ × Log) where
  deviceIoControl handle request bus :=
    let (answer, state) := driver.deviceIoControl handle request bus.1
    (answer, state, bus.2 ++ reportIn request)
  closeHandle handle bus := (driver.closeHandle handle bus.1, bus.2)

/-- What a device received. -/
def received (serialNo : Nat) (log : Log) : List XusbReport :=
  (log.filter (·.1 = serialNo)).map (·.2)

theorem received_append (serialNo : Nat) (log more : Log) :
    received serialNo (log ++ more) = received serialNo log ++ received serialNo more := by
  simp [received]

theorem recording_eq {handle : Handle} {request : Request} {bus after : δ × Log}
    {answer : Except UInt32 UInt32}
    (asked : (recording driver).deviceIoControl handle request bus = (answer, after)) :
    driver.deviceIoControl handle request bus.1 = (answer, after.1) ∧
      after.2 = bus.2 ++ reportIn request := by
  cases did : driver.deviceIoControl handle request bus.1 with
  | mk output state =>
    simp only [recording, did] at asked
    cases asked
    exact ⟨rfl, rfl⟩

theorem recording_lawful (lawful : Lawful driver plugged) :
    Lawful (recording driver) fun bus => plugged bus.1 where
  plugin asked := lawful.plugin (recording_eq asked).1
  unplug asked := lawful.unplug (recording_eq asked).1
  fails asked := lawful.fails (recording_eq asked).1
  keeps reads asked := lawful.keeps reads (recording_eq asked).1
  close handle bus := lawful.close handle bus.1

theorem log_keeps {handle : Handle} {request : Request} {bus after : δ × Log}
    {answer : Except UInt32 UInt32} (noReport : ¬Reports request)
    (asked : (recording driver).deviceIoControl handle request bus = (answer, after)) :
    after.2 = bus.2 := by
  have logged := (recording_eq asked).2
  cases request with
  | xusbSubmitReport => exact absurd trivial noReport
  | _ => simpa [reportIn] using logged

/-- A connected target is sent its report, whatever the driver answers. -/
theorem update_log (driver : BusDriver δ) {host : Host (δ × Log)} {target : Target}
    (numbered : serialNo host target ≠ 0) (report : XusbReport) :
    (vigemTargetX360Update (recording driver) (some target) report host).2.bus.2 =
      host.bus.2 ++ if host.busDevice = none then [] else [(serialNo host target, report)] := by
  cases device : host.busDevice with
  | none =>
    unfold vigemTargetX360Update submit
    cases client : host.vigem with
    | none => simp [checked, client]
    | some vigem =>
      have isClosed : vigem.hBusDevice = none := by simpa [Host.busDevice, client] using device
      simp [checked, client, isClosed]
  | some handle =>
    have notZero : (host.targets target).serialNo ≠ 0 := numbered
    rw [vigemTargetX360Update, submit, checked_open device]
    simp only [notZero, if_false]
    cases asked : (recording driver).deviceIoControl handle
        (.xusbSubmitReport (host.targets target).serialNo report) host.bus with
    | mk answer bus =>
      have logged := (recording_eq asked).2
      cases answer with
      | ok output => simpa [reportIn, serialNo] using logged
      | error error => simpa [reportIn, serialNo] using logged

/-! ## One method -/

/-- The calls of a client's methods; `memory` is whether there is any for a new target. -/
inductive Method where
  | add (gameType : GamepadType) (memory : Bool)
  | send (gamePadIndex : UInt32) (pXInput : XinputStateShared) (stack : Nat → UInt8)
  | clear (pGamePadIndex : Int32)
  | reset

def step (driver : BusDriver δ) (pads : Gamepads δ) : Method → Option (Gamepads δ)
  | .add gameType memory => some (pads.addGamepadController driver gameType memory).2
  | .send gamePadIndex pXInput stack =>
    some (pads.sendXbox360Input driver gamePadIndex pXInput stack).2
  | .clear pGamePadIndex => some (pads.clearGamepadState driver pGamePadIndex).2
  | .reset => some (pads.resetDriver driver).2

/-- The report that is given for an index. -/
def given : Method → Log
  | .send gamePadIndex pXInput stack =>
    [(gamePadIndex.toNat, .at (VigemClient.sentState stack pXInput) offsetofGamepad)]
  | .clear pGamePadIndex => [(pGamePadIndex.toUInt32.toNat, zeroReport)]
  | _ => []

/-- What a method gives for gamepad `index` while the bus is open. -/
def givenFor (index : Nat) (pads : Gamepads δ) (method : Method) : List XusbReport :=
  if pads.host.busDevice = none ∨ pads.client.gamepads.length ≤ index then []
  else received index (given method)

theorem success_iff (error : VigemError) : vigemSuccess error.code = true ↔ error = .none := by
  cases error <;> decide

/-- What a process keeps while no bus is opened and no connected target is removed. -/
structure Later (plugged : δ → Set (Handle × Nat)) (host after : Host δ) : Prop where
  inv : Inv plugged after
  sound : Numbered plugged after
  connected : ∀ target, Connected host target →
    Connected after target ∧ serialNo after target = serialNo host target

theorem Later.refl {host : Host δ} (inv : Inv plugged host) (sound : Numbered plugged host) :
    Later plugged host host :=
  ⟨inv, sound, fun _ connected => ⟨connected, rfl⟩⟩

theorem Later.trans {host middle after : Host δ} (first : Later plugged host middle)
    (second : Later plugged middle after) : Later plugged host after where
  inv := second.inv
  sound := second.sound
  connected target connected := by
    obtain ⟨still, number⟩ := first.connected target connected
    obtain ⟨last, same⟩ := second.connected target still
    exact ⟨last, same.trans number⟩

theorem later_of_step (lawful : Lawful driver plugged) {host after : Host δ}
    (inv : Inv plugged host) (sound : Numbered plugged host) (call : Call)
    (stepped : SerialNumbers.step driver host call = some after)
    (notConnect : ∀ interfaces, call ≠ .connect interfaces)
    (notRemoved : ∀ target, call = .remove target → ¬Connected host target) :
    Later plugged host after := by
  have does := step_does lawful inv stepped
  have notReopened : NotReopened host call := by
    cases call with
    | connect interfaces => exact absurd rfl (notConnect interfaces)
    | _ => trivial
  refine ⟨does.inv inv, does.sound sound notReopened, ?_⟩
  intro target connected
  cases does with
  | same same => exact ⟨(same.connected target).mpr connected, same.number target connected⟩
  | opens => exact absurd rfl (notConnect _)
  | closes isOpen isClosed fresh targets =>
    rw [Connected, serialNo, targets]
    exact ⟨connected, rfl⟩
  | @plugsIn _ other handle number isTarget isOpen least most plugsIn =>
    have isOther : target ≠ other := fun same => plugsIn.unconnected (same ▸ connected)
    exact ⟨(plugsIn.frame.connected_iff isOther).mpr connected, plugsIn.frame.serialNo_eq isOther⟩
  | unplugs isOpen wasConnected => exact absurd wasConnected (notRemoved _ rfl)

theorem later_of_same {host after : Host δ} (same : Same plugged host after) (inv : Inv plugged host)
    (sound : Numbered plugged host) : Later plugged host after where
  inv := same.inv inv
  sound := same.numbered sound
  connected target connected := ⟨(same.connected target).mpr connected, same.number target connected⟩

/-! ## An added gamepad -/

/-- An add appends a target that is connected now, and was not before, or leaves the
gamepads alone. -/
structure Adds (plugged : δ → Set (Handle × Nat)) (pads after : Gamepads δ) : Prop where
  later : Later plugged pads.host after.host
  gamepads : after.client.gamepads = pads.client.gamepads ∨
    ∃ target, after.client.gamepads = pads.client.gamepads ++ [target] ∧
      ¬Connected pads.host target ∧ Connected after.host target

theorem alloc_later (lawful : Lawful driver plugged) {pads : Gamepads δ}
    (inv : Inv plugged pads.host) (sound : Numbered plugged pads.host) (gameType : GamepadType)
    (memory : Bool) :
    Later plugged pads.host (pads.allocTarget gameType memory).2 := by
  unfold Gamepads.allocTarget
  cases pads.client.driverHandler with
  | false => exact .refl inv sound
  | true =>
    cases gameType with
    | xbox360 => exact later_of_step lawful inv sound (.x360Alloc memory) rfl (by simp) (by simp)
    | ps4 => exact later_of_step lawful inv sound (.ds4Alloc memory) rfl (by simp) (by simp)

theorem allocInit_target {host : Host δ} (inv : Inv plugged host) {type : TargetType}
    {vendorId productId : UInt16} {memory : Bool} {target : Target}
    (allocated : (vigemTargetAllocInit type vendorId productId memory host).1 = some target) :
    ¬Connected host target ∧
      (vigemTargetAllocInit type vendorId productId memory host).2.ledger.acquired[target]? =
        some .target ∧
      ¬Connected (vigemTargetAllocInit type vendorId productId memory host).2 target := by
  cases memory with
  | false => cases allocated
  | true =>
    cases allocated
    refine ⟨inv.fresh _ (Nat.le_refl _), ?_, ?_⟩
    · simp [vigemTargetAllocInit, Ledger.acquire, Ledger.fresh]
    · simp [vigemTargetAllocInit, Connected]

/-- A target that was allocated is a new one. -/
theorem alloc_target {pads : Gamepads δ} (inv : Inv plugged pads.host) (gameType : GamepadType)
    (memory : Bool) (target : Target)
    (allocated : (pads.allocTarget gameType memory).1 = some target) :
    pads.client.driverHandler = true ∧ ¬Connected pads.host target ∧
      (pads.allocTarget gameType memory).2.ledger.acquired[target]? = some .target ∧
      ¬Connected (pads.allocTarget gameType memory).2 target := by
  unfold Gamepads.allocTarget at allocated ⊢
  cases driver : pads.client.driverHandler with
  | false =>
    rw [driver] at allocated
    cases allocated
  | true =>
    rw [driver] at allocated
    cases gameType with
    | xbox360 => exact ⟨rfl, allocInit_target inv allocated⟩
    | ps4 => exact ⟨rfl, allocInit_target inv allocated⟩

/-- An add with its target, and what it makes of the answer of the library. -/
theorem add_adds_target (lawful : Lawful driver plugged) {pads : Gamepads δ} {host : Host δ}
    (alloc : Later plugged pads.host host) (handler : pads.client.driverHandler = true)
    {target : Target} (wasNot : ¬Connected pads.host target)
    (isTarget : host.ledger.acquired[target]? = some .target) (unconnected : ¬Connected host target)
    (gameType : GamepadType) :
    Adds plugged pads (Gamepads.finish driver host (pads.client.addGamepadController gameType
      (some target) (vigemTargetAdd driver (some target) host).1.code)).2 := by
  have added := later_of_step lawful alloc.inv alloc.sound (.add target)
    (onTarget_eq_some_iff.mpr ⟨isTarget, rfl⟩) (by simp) (by simp)
  have connected := (add_does lawful target host).connected_iff unconnected
  by_cases success : (vigemTargetAdd driver (some target) host).1 = .none
  · have paired := (success_iff _).mpr success
    refine ⟨?_, .inr ⟨target, ?_, wasNot, ?_⟩⟩
    · simpa [Gamepads.finish, VigemClient.addGamepadController, handler, paired,
        Gamepads.perform] using alloc.trans added
    · simp [Gamepads.finish, VigemClient.addGamepadController, handler, paired]
    · simpa [Gamepads.finish, VigemClient.addGamepadController, handler, paired,
        Gamepads.perform] using connected.mpr success
  · have notPaired : vigemSuccess (vigemTargetAdd driver (some target) host).1.code = false := by
      simpa using fun paired => success ((success_iff _).mp paired)
    have still : (vigemTargetAdd driver (some target) host).2.ledger.acquired[target]? =
        some .target := by
      rwa [(add_does lawful target host).frame.ledger]
    have removed := later_of_step lawful added.inv added.sound (.remove target)
      (onTarget_eq_some_iff.mpr ⟨still, rfl⟩) (by simp)
      (fun other same => by cases same; exact fun is => success (connected.mp is))
    refine ⟨?_, .inl ?_⟩
    · simpa [Gamepads.finish, VigemClient.addGamepadController, handler, notPaired,
        Gamepads.perform] using (alloc.trans added).trans removed
    · simp [Gamepads.finish, VigemClient.addGamepadController, handler, notPaired]

theorem add_adds (lawful : Lawful driver plugged) {pads : Gamepads δ}
    (inv : Inv plugged pads.host) (sound : Numbered plugged pads.host) (gameType : GamepadType)
    (memory : Bool) :
    Adds plugged pads (pads.addGamepadController driver gameType memory).2 := by
  have alloc := alloc_later lawful inv sound gameType memory
  have isNew := alloc_target inv gameType memory
  unfold Gamepads.addGamepadController
  cases did : pads.allocTarget gameType memory with
  | mk allocated host =>
    rw [did] at alloc isNew
    cases allocated with
    | none =>
      cases handler : pads.client.driverHandler with
      | false =>
        refine ⟨?_, .inl ?_⟩
        · simpa [Gamepads.finish, VigemClient.addGamepadController, handler] using alloc
        · simp [Gamepads.finish, VigemClient.addGamepadController, handler]
      | true =>
        refine ⟨?_, .inl ?_⟩
        · simpa [Gamepads.finish, VigemClient.addGamepadController, handler] using alloc
        · simp [Gamepads.finish, VigemClient.addGamepadController, handler]
    | some target =>
      obtain ⟨handler, wasNot, isTarget, unconnected⟩ := isNew target rfl
      exact add_adds_target lawful alloc handler wasNot isTarget unconnected gameType

/-! ## One method -/

/-- What holds between the methods of a client whose driver is recorded. -/
structure Valid (plugged : δ → Set (Handle × Nat)) (pads : Gamepads (δ × Log)) : Prop where
  inv : Inv (fun bus => plugged bus.1) pads.host
  sound : Numbered (fun bus => plugged bus.1) pads.host
  connected : ∀ target ∈ pads.client.gamepads, Connected pads.host target
  distinct : pads.client.gamepads.Nodup
  logged : ∀ entry ∈ pads.host.bus.2,
    ∃ target ∈ pads.client.gamepads, serialNo pads.host target = entry.1

/-- Gamepads keep their place and their number, and `sent` is logged. -/
structure Goes (pads after : Gamepads (δ × Log)) (sent : Log) : Prop where
  gamepads : pads.client.gamepads <+: after.client.gamepads
  numbers : ∀ target ∈ pads.client.gamepads,
    serialNo after.host target = serialNo pads.host target
  log : after.host.bus.2 = pads.host.bus.2 ++ sent

/-- What a method sends: what it gives, to the number of the gamepad that it gives it for. -/
def sent (pads : Gamepads δ) (method : Method) : Log :=
  if pads.host.busDevice = none then []
  else (given method).flatMap fun entry =>
    pads.client.gamepads[entry.1]?.toList.map fun target => (serialNo pads.host target, entry.2)

section Method

variable {pads : Gamepads (δ × Log)}

/-- A method that leaves the gamepads alone. -/
theorem Valid.later (valid : Valid plugged pads) {client : VigemClient} {host : Host (δ × Log)}
    (gamepads : client.gamepads = pads.client.gamepads)
    (later : Later (fun bus => plugged bus.1) pads.host host) {more : Log}
    (log : host.bus.2 = pads.host.bus.2 ++ more)
    (toGamepads : ∀ entry ∈ more,
      ∃ target ∈ pads.client.gamepads, serialNo pads.host target = entry.1) :
    Valid plugged ⟨client, host⟩ ∧ Goes pads ⟨client, host⟩ more := by
  have numbers (target : Target) (member : target ∈ pads.client.gamepads) :=
    later.connected target (valid.connected target member)
  constructor
  · refine ⟨later.inv, later.sound, ?_, gamepads ▸ valid.distinct, ?_⟩
    · intro target member
      exact (numbers target (gamepads ▸ member)).1
    · intro entry member
      have known : ∃ target ∈ pads.client.gamepads, serialNo pads.host target = entry.1 := by
        rw [log] at member
        cases List.mem_append.mp member with
        | inl before => exact valid.logged entry before
        | inr now => exact toGamepads entry now
      obtain ⟨target, isGamepad, isNumber⟩ := known
      exact ⟨target, gamepads ▸ isGamepad, (numbers target isGamepad).2.trans isNumber⟩
  · refine ⟨?_, fun target member => (numbers target member).2, log⟩
    rw [gamepads]

theorem Valid.numbered (valid : Valid plugged pads) {target : Target}
    (member : target ∈ pads.client.gamepads) : serialNo pads.host target ≠ 0 := by
  have range := valid.sound.range target (valid.connected target member)
  omega

/-- A method that reports to the gamepad of an index. -/
theorem report_goes (lawful : Lawful driver plugged) (valid : Valid plugged pads)
    (client : VigemClient) (gamepads : client.gamepads = pads.client.gamepads) (index : Nat) (report : XusbReport)
    (method : Method) (gives : given method = [(index, report)]) :
    Valid plugged ⟨client, (pads.client.gamepads[index]?.toList.map (BusCall.x360Update · report)).foldl
        (Gamepads.perform (recording driver)) pads.host⟩ ∧
      Goes pads ⟨client, (pads.client.gamepads[index]?.toList.map (BusCall.x360Update · report)).foldl
        (Gamepads.perform (recording driver)) pads.host⟩ (sent pads method) := by
  cases found : pads.client.gamepads[index]? with
  | none =>
    have nothing : sent pads method = [] := by simp [sent, gives, found]
    rw [nothing]
    exact valid.later gamepads (.refl valid.inv valid.sound) (by simp) (by simp)
  | some target =>
    have member : target ∈ pads.client.gamepads := List.mem_of_getElem? found
    have log := update_log driver (valid.numbered member) report
    have quiet := submit_quiet (recording_lawful lawful) (.xusbSubmitReport · report)
      (by simp [Plugs]) (fun error => if error = errorAccessDenied then .invalidTarget else .none)
      target pads.host
    have isSent : sent pads method =
        if pads.host.busDevice = none then [] else [(serialNo pads.host target, report)] := by
      simp [sent, gives, found]
    rw [isSent]
    apply valid.later gamepads (later_of_same quiet.same valid.inv valid.sound) log
    intro entry isEntry
    split at isEntry
    next => cases isEntry
    next =>
      cases List.mem_singleton.mp isEntry
      exact ⟨target, member, rfl⟩

theorem add_log (driver : BusDriver δ) (pads : Gamepads (δ × Log)) (gameType : GamepadType)
    (memory : Bool) :
    (pads.addGamepadController (recording driver) gameType memory).2.host.bus.2 =
      pads.host.bus.2 := by
  have alloc : (pads.allocTarget gameType memory).2.bus = pads.host.bus := by
    unfold Gamepads.allocTarget
    cases pads.client.driverHandler <;> cases gameType <;> cases memory <;> rfl
  have added (target : Target) (host : Host (δ × Log)) :
      (vigemTargetAdd (recording driver) (some target) host).2.bus.2 = host.bus.2 :=
    add_keeps log_keeps target host
  have removed (target : Target) (host : Host (δ × Log)) :
      (vigemTargetRemove (recording driver) (some target) host).2.bus.2 = host.bus.2 :=
    remove_keeps log_keeps target host
  rw [← alloc]
  unfold Gamepads.addGamepadController
  cases pads.allocTarget gameType memory with
  | mk allocated host =>
    cases allocated with
    | none => cases handler : pads.client.driverHandler <;>
        simp [Gamepads.finish, VigemClient.addGamepadController, handler]
    | some target =>
      simp only [Gamepads.finish, VigemClient.addGamepadController]
      cases pads.client.driverHandler with
      | false => rfl
      | true =>
        cases vigemSuccess (vigemTargetAdd (recording driver) (some target) host).1.code with
        | true => exact added target host
        | false => exact (removed target _).trans (added target host)

theorem step_goes (lawful : Lawful driver plugged) (valid : Valid plugged pads)
    {after : Gamepads (δ × Log)} {method : Method}
    (stepped : step (recording driver) pads method = some after) :
    Valid plugged after ∧ Goes pads after (sent pads method) := by
  cases method with
  | add gameType memory =>
    have adds := add_adds (recording_lawful lawful) valid.inv valid.sound gameType memory
    have log := add_log driver pads gameType memory
    cases stepped
    have nothing : sent pads (.add gameType memory) = [] := by simp [sent, given]
    rw [nothing]
    generalize (pads.addGamepadController (recording driver) gameType memory).2 = after at adds log
    cases adds.gamepads with
    | inl same => exact valid.later same adds.later (by simpa using log) (by simp)
    | inr appended =>
      obtain ⟨target, gamepads, wasNot, isConnected⟩ := appended
      obtain ⟨still, goes⟩ : Valid plugged ⟨pads.client, after.host⟩ ∧
          Goes pads ⟨pads.client, after.host⟩ [] :=
        valid.later rfl adds.later (by simpa using log) (by simp)
      refine ⟨⟨still.inv, still.sound, ?_, ?_, ?_⟩, ⟨?_, goes.numbers, goes.log⟩⟩
      · intro other member
        rw [gamepads] at member
        cases List.mem_append.mp member with
        | inl old => exact still.connected other old
        | inr new => exact List.mem_singleton.mp new ▸ isConnected
      · rw [gamepads, List.nodup_append]
        refine ⟨valid.distinct, List.nodup_singleton target, ?_⟩
        intro other member new isNew same
        rw [List.mem_singleton.mp isNew] at same
        exact wasNot (same ▸ valid.connected other member)
      · intro entry member
        obtain ⟨other, isGamepad, isNumber⟩ := still.logged entry member
        exact ⟨other, gamepads ▸ List.mem_append_left _ isGamepad, isNumber⟩
      · rw [gamepads]
        exact List.prefix_append _ _
  | send gamePadIndex pXInput stack =>
    cases stepped
    have calls : (pads.client.sendXbox360Input gamePadIndex pXInput stack).calls =
        pads.client.gamepads[gamePadIndex.toNat]?.toList.map
          (.x360Update · (.at (VigemClient.sentState stack pXInput) offsetofGamepad)) := by
      unfold VigemClient.sendXbox360Input
      cases pads.client.gamepads[gamePadIndex.toNat]? <;> rfl
    unfold Gamepads.sendXbox360Input Gamepads.finish
    rw [calls]
    exact report_goes lawful valid _ (send_gamepads pads.client gamePadIndex pXInput stack) _ _
      (.send gamePadIndex pXInput stack) rfl
  | clear pGamePadIndex =>
    cases stepped
    unfold Gamepads.clearGamepadState Gamepads.finish
    rw [clear_calls]
    exact report_goes lawful valid (pads.client.clearGamepadState pGamePadIndex).client rfl _ _
      (.clear pGamePadIndex) rfl
  | reset =>
    cases stepped
    have nothing : sent pads .reset = [] := by simp [sent, given]
    have disconnected := later_of_step (recording_lawful lawful) valid.inv valid.sound .disconnect
      rfl (by simp) (by simp)
    have log : (vigemDisconnect (recording driver) pads.host).bus.2 = pads.host.bus.2 := by
      unfold vigemDisconnect
      cases pads.host.busDevice <;> rfl
    rw [nothing]
    unfold Gamepads.resetDriver Gamepads.finish
    refine valid.later (reset_gamepads pads.client) ?_ ?_ (by simp)
    · unfold VigemClient.resetDriver
      cases pads.client.driverHandler with
      | false => exact .refl valid.inv valid.sound
      | true => exact disconnected
    · unfold VigemClient.resetDriver
      cases pads.client.driverHandler with
      | false => simp
      | true => simpa [Gamepads.perform] using log

end Method

/-! ## Runs -/

/-- What a gamepad is sent in one method is what the method gives for its index: the others
have other numbers. -/
theorem received_sent {pads last : Gamepads (δ × Log)} (valid : Valid plugged last)
    (gamepads : pads.client.gamepads <+: last.client.gamepads)
    (numbers : ∀ target ∈ pads.client.gamepads,
      serialNo last.host target = serialNo pads.host target)
    {index : Nat} {target : Target} (isGamepad : last.client.gamepads[index]? = some target)
    (method : Method) :
    received (serialNo last.host target) (sent pads method) = givenFor index pads method := by
  have single : given method = [] ∨ ∃ other report, given method = [(other, report)] := by
    cases method <;> simp [given]
  cases device : pads.host.busDevice with
  | none => simp [sent, givenFor, device, received]
  | some handle =>
    cases single with
    | inl nothing => simp [sent, givenFor, nothing, received]
    | inr report =>
      obtain ⟨other, report, gives⟩ := report
      cases found : pads.client.gamepads[other]? with
      | none =>
        have beyond := List.getElem?_eq_none_iff.mp found
        have notThis : pads.client.gamepads.length ≤ index ∨ other ≠ index := by omega
        cases notThis with
        | inl beyond => simp [sent, givenFor, gives, found, received, beyond]
        | inr isOther => simp [sent, givenFor, gives, found, received, isOther]
      | some member =>
        obtain ⟨below, _⟩ := List.getElem?_eq_some_iff.mp found
        obtain ⟨more, grown⟩ := gamepads
        have still : last.client.gamepads[other]? = some member := by
          rw [← grown, List.getElem?_append_left below, found]
        have number := numbers member (List.mem_of_getElem? found)
        by_cases same : other = index
        · rw [same, isGamepad] at still
          cases still
          have within : ¬pads.client.gamepads.length ≤ index := by omega
          rw [same] at found gives
          simp [sent, givenFor, device, gives, found, received, number, within]
        · have isOther : target ≠ member := by
            intro equal
            rw [equal] at isGamepad
            have within := (List.getElem?_eq_some_iff.mp still).1
            exact same ((List.getElem?_inj within valid.distinct).mp (still.trans isGamepad.symm))
          have otherNumber : serialNo last.host target ≠ serialNo pads.host member := by
            rw [← number]
            exact fun equal => isOther (valid.sound.distinct target member
              (valid.connected target (List.mem_of_getElem? isGamepad))
              (valid.connected member (List.mem_of_getElem? still)) equal)
          simp [sent, givenFor, device, gives, found, received, same, otherNumber.symm]

theorem run_goes (lawful : Lawful driver plugged) {pads last : Gamepads (δ × Log)}
    (valid : Valid plugged pads) {methods : List Method}
    (ran : run (step (recording driver)) pads methods = some last) :
    Valid plugged last ∧ pads.client.gamepads <+: last.client.gamepads ∧
      (∀ target ∈ pads.client.gamepads, serialNo last.host target = serialNo pads.host target) ∧
      ∀ index target, last.client.gamepads[index]? = some target →
        received (serialNo last.host target) last.host.bus.2 =
          received (serialNo last.host target) pads.host.bus.2 ++
            outputs (step (recording driver)) (givenFor index) pads methods := by
  induction methods generalizing pads with
  | nil =>
    cases ran
    exact ⟨valid, List.prefix_rfl, fun _ _ => rfl, fun _ _ _ => by simp [outputs]⟩
  | cons method methods ih =>
    obtain ⟨next, stepped, rest⟩ := run_cons_eq_some.mp ran
    obtain ⟨validNext, goes⟩ := step_goes lawful valid stepped
    obtain ⟨validLast, grown, numbers, rests⟩ := ih validNext rest
    have gamepads := goes.gamepads.trans grown
    have sameNumbers (target : Target) (member : target ∈ pads.client.gamepads) :
        serialNo last.host target = serialNo pads.host target :=
      (numbers target (goes.gamepads.subset member)).trans (goes.numbers target member)
    refine ⟨validLast, gamepads, sameNumbers, ?_⟩
    intro index target isGamepad
    rw [rests index target isGamepad, goes.log, received_append, outputs_cons stepped,
      received_sent validLast gamepads sameNumbers isGamepad, List.append_assoc]

/-- A client after its constructor, in a process that did nothing else. -/
def created (memory : Bool) (interfaces : List Interface) (bus : δ) : Gamepads δ :=
  .new memory interfaces (emptyHost bus)

theorem created_bus (memory : Bool) (interfaces : List Interface) (bus : δ) :
    (created memory interfaces bus).host.bus = bus := by
  cases memory with
  | false => rfl
  | true => exact (connect_keeps interfaces (start bus)).2.1

theorem created_gamepads (memory : Bool) (interfaces : List Interface) (bus : δ) :
    (created memory interfaces bus).client.gamepads = [] := by
  have none (alloc : Bool) (connect : Int32) : (VigemClient.new alloc connect).gamepads = [] := by
    unfold VigemClient.new
    cases alloc <;> cases vigemSuccess connect <;> rfl
  cases memory <;> simp [created, Gamepads.new, none]

theorem created_later (driver : BusDriver δ) (memory : Bool) (interfaces : List Interface) {bus : δ}
    (unplugged : plugged bus = ∅) :
    Inv plugged (created memory interfaces bus).host ∧
      Numbered plugged (created memory interfaces bus).host := by
  cases memory with
  | false =>
    have unconnected (target : Target) : ¬Connected (created false interfaces bus).host target := by
      simp [created, Gamepads.new, vigemAlloc, emptyHost, Connected]
    refine ⟨⟨?_, fun target _ => unconnected target⟩, ?_⟩
    · intro device member
      rw [created_bus, unplugged] at member
      cases member
    · exact ⟨fun _ target _ connected => absurd connected (unconnected target),
        fun one _ connected => absurd connected (unconnected one),
        fun target connected => absurd connected (unconnected target)⟩
  | true =>
    have does : Does plugged driver (start bus) (.connect interfaces)
      (vigemConnect interfaces (start bus)).2 := connect_does interfaces (start bus)
    exact ⟨does.inv (start_inv unplugged), does.sound (start_sound bus)
      fun _ target => by simp [start, emptyHost, Connected, vigemAlloc]⟩

theorem created_valid (driver : BusDriver δ) (memory : Bool) (interfaces : List Interface) {bus : δ}
    (unplugged : plugged bus = ∅) : Valid plugged (created memory interfaces (bus, [])) := by
  obtain ⟨inv, sound⟩ : Inv (fun bus => plugged bus.1) (created memory interfaces (bus, [])).host ∧
      Numbered (fun bus => plugged bus.1) (created memory interfaces (bus, [])).host :=
    created_later (recording driver) memory interfaces unplugged
  refine ⟨inv, sound, ?_, ?_, ?_⟩
  · simp [created_gamepads]
  · simp [created_gamepads]
  · simp [created_bus]

/-- Whatever is done with a client: a gamepad's device receives, in order, the reports that
were given for its index while the bus was open, and no report goes anywhere else. -/
theorem reports_delivered (lawful : Lawful driver plugged) {bus : δ} (unplugged : plugged bus = ∅)
    (memory : Bool) (interfaces : List Interface) (methods : List Method)
    {last : Gamepads (δ × Log)}
    (ran : run (step (recording driver)) (created memory interfaces (bus, [])) methods = some last) :
    (∀ index target, last.client.gamepads[index]? = some target →
        received (serialNo last.host target) last.host.bus.2 =
          outputs (step (recording driver)) (givenFor index) (created memory interfaces (bus, []))
            methods) ∧
      ∀ entry ∈ last.host.bus.2,
        ∃ target ∈ last.client.gamepads, serialNo last.host target = entry.1 := by
  obtain ⟨valid, _, _, delivers⟩ := run_goes lawful (created_valid driver memory interfaces unplugged) ran
  refine ⟨?_, valid.logged⟩
  intro index target isGamepad
  rw [delivers index target isGamepad, created_bus]
  simp [received]

/-- The second of two gamepads is cleared, and the first after the reset. -/
theorem second_delivered :
    ∃ last, run (step (recording soleDriver)) (created true [⟨true, true, true⟩] ([], []))
        [.add .xbox360 true, .add .ps4 true, .clear 1, .reset, .clear 0] = some last ∧
      ∀ index target, last.client.gamepads[index]? = some target →
        received (serialNo last.host target) last.host.bus.2 =
          outputs (step (recording soleDriver)) (givenFor index)
            (created true [⟨true, true, true⟩] ([], []))
            [.add .xbox360 true, .add .ps4 true, .clear 1, .reset, .clear 0] :=
  ⟨_, rfl, (reports_delivered soleDriver_lawful (by simp) true _ _ rfl).1⟩

end WolfEngine.Verified.GamepadReports
