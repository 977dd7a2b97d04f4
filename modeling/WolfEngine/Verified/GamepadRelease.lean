import WolfEngine.Verified.GamepadReports

/-! # What a gamepad client releases

The destructor releases the bus, the gamepads and the client.  What it does not know any
more is lost: a target that could not be added, and a bus that another one took the place
of.
-/

namespace WolfEngine.Verified.GamepadRelease

open WolfEngine.System.Os WolfEngine.Verified.SerialNumbers WolfEngine.Verified.BusConnect
open WolfEngine.Verified.GamepadReports WolfEngine.Verified.Gamepads
open Custody Transitions

variable {δ : Type} {driver : BusDriver δ}

/-- What a client has acquired when it is created. -/
def acquiredFirst (interfaces : List Interface) : List Resource :=
  .client :: .deviceInfoSet :: List.replicate (opened interfaces) .busDevice

/-- What it has released by then, and the bus that it has open. -/
def releasedFirst (interfaces : List Interface) : List Nat :=
  List.replicate (missing interfaces + 1) 1

/-- How the ledger stands between the methods, after `count` targets were allocated. -/
structure Stands (interfaces : List Interface) (count : Nat) (pads : Gamepads δ) : Prop where
  acquired : pads.host.ledger.acquired =
    acquiredFirst interfaces ++ List.replicate count .target
  released : pads.host.ledger.released ++ pads.host.busDevice.toList =
    releasedFirst interfaces ++ (leftWith none 2 interfaces).toList
  client : ∃ device, pads.host.vigem = some ⟨0, device⟩
  driverHandler : pads.client.driverHandler = true
  distinct : pads.client.gamepads.Nodup
  within : ∀ target ∈ pads.client.gamepads,
    opened interfaces + 2 ≤ target ∧ target < opened interfaces + 2 + count

theorem created_stands (interfaces : List Interface) (bus : δ) :
    Stands interfaces 0 (created true interfaces bus) := by
  have client : (start bus).vigem = some ⟨0, none⟩ := rfl
  have does := enumerate_does (start bus).ledger.fresh interfaces .busNotFound
    ((start bus).acquire .deviceInfoSet) ⟨0, none⟩ client
  have made : (created true interfaces bus).host = (vigemConnect interfaces (start bus)).2 := rfl
  rw [connect_eq client] at made
  constructor
  · rw [made, Host.release_ledger, Ledger.release, does.acquired]
    simp [acquiredFirst, start, emptyHost, vigemAlloc, Ledger.acquire, Ledger.empty]
  · rw [made, Host.release_ledger, Ledger.release, does.released, Host.busDevice,
      Host.release_vigem, does.vigem, releasedFirst, List.replicate_succ']
    rfl
  · rw [made, Host.release_vigem, does.vigem]
    exact ⟨_, rfl⟩
  · unfold created Gamepads.new VigemClient.new
    simp only [if_true]
    split <;> rfl
  · simp [created_gamepads]
  · simp [created_gamepads]

/-! ## One method -/

/-- A call that leaves the ledger and the client's bus alone. -/
structure Apart (host after : Host δ) : Prop where
  ledger : after.ledger = host.ledger
  vigem : after.vigem = host.vigem

theorem Apart.refl (host : Host δ) : Apart host host := ⟨rfl, rfl⟩

theorem Apart.trans {host middle after : Host δ} (first : Apart host middle)
    (second : Apart middle after) : Apart host after :=
  ⟨second.ledger.trans first.ledger, second.vigem.trans first.vigem⟩

theorem apart_of_frame {target : Target} {host after : Host δ} (frame : Frame target host after) :
    Apart host after := ⟨frame.ledger, frame.vigem⟩

theorem Apart.stands {interfaces : List Interface} {count : Nat} {pads : Gamepads δ}
    {host : Host δ} (apart : Apart pads.host host) (stands : Stands interfaces count pads)
    (client : VigemClient) (gamepads : client.gamepads = pads.client.gamepads)
    (handler : client.driverHandler = true) :
    Stands interfaces count ⟨client, host⟩ where
  acquired := apart.ledger ▸ stands.acquired
  released := by
    show host.ledger.released ++ (host.vigem.bind Vigem.hBusDevice).toList = _
    rw [apart.ledger, apart.vigem]
    exact stands.released
  client := apart.vigem ▸ stands.client
  driverHandler := handler
  distinct := by
    show client.gamepads.Nodup
    rw [gamepads]
    exact stands.distinct
  within := by
    show ∀ target ∈ client.gamepads, _
    rw [gamepads]
    exact stands.within

/-- An add that gets memory for a target appends it. -/
def Kept (pads : Gamepads δ) (method : Method) (after : Gamepads δ) : Prop :=
  ∀ gameType, method = .add gameType true → after.client.gamepads ≠ pads.client.gamepads

/-- Every target that was allocated is that of a gamepad. -/
def Whole (interfaces : List Interface) (count : Nat) (pads : Gamepads δ) : Prop :=
  ∀ k < count, opened interfaces + 2 + k ∈ pads.client.gamepads

/-- A method allocates at most one target. -/
def allocates : Method → Nat
  | .add _ true => 1
  | _ => 0

section Step

variable {interfaces : List Interface} {count : Nat} {pads : Gamepads δ}

/-- A method that allocates nothing and leaves the gamepads alone. -/
theorem Stands.keeps {method : Method} {after : Gamepads δ}
    (stands : Stands interfaces count after) (nothing : allocates method = 0)
    (gamepads : after.client.gamepads = pads.client.gamepads) :
    Stands interfaces (count + allocates method) after ∧
      (Whole interfaces (count + allocates method) after ↔
        Whole interfaces count pads ∧ Kept pads method after) := by
  have kept : Kept pads method after := by
    intro gameType isAdd
    rw [isAdd] at nothing
    cases nothing
  rw [nothing]
  refine ⟨stands, ?_⟩
  rw [Whole, gamepads]
  exact ⟨fun whole => ⟨whole, kept⟩, fun both => both.1⟩

theorem reset_stands (driver : BusDriver δ) (stands : Stands interfaces count pads) :
    Stands interfaces count (pads.resetDriver driver).2 := by
  unfold Gamepads.resetDriver Gamepads.finish VigemClient.resetDriver
  simp only [stands.driverHandler, if_true, List.foldl_cons, List.foldl_nil, Gamepads.perform]
  have client := stands.client
  have released := stands.released
  unfold vigemDisconnect
  cases device : pads.host.busDevice with
  | none => exact ⟨stands.acquired, released, client, stands.driverHandler, stands.distinct, stands.within⟩
  | some handle =>
    obtain ⟨open', client⟩ := client
    refine ⟨stands.acquired, ?_, ⟨none, ?_⟩, stands.driverHandler, stands.distinct, stands.within⟩
    · rw [device] at released
      simpa [Host.busDevice, Host.setBusDevice, client, Ledger.release] using released
    · simp [Host.setBusDevice, client]

theorem report_apart (calls : List BusCall)
    (reports : ∀ call ∈ calls, ∃ target report, call = .x360Update target report) (host : Host δ) :
    Apart host (calls.foldl (Gamepads.perform driver) host) := by
  induction calls generalizing host with
  | nil => exact .refl host
  | cons call calls ih =>
    obtain ⟨target, report, rfl⟩ := reports call List.mem_cons_self
    have first : Apart host (Gamepads.perform driver host (.x360Update target report)) :=
      apart_of_frame (submit_frame driver _ _ target host)
    exact first.trans (ih (fun other member => reports other (List.mem_cons_of_mem _ member)) _)

theorem Stands.fresh (stands : Stands interfaces count pads) :
    pads.host.ledger.fresh = opened interfaces + 2 + count := by
  rw [Ledger.fresh, stands.acquired]
  simp [acquiredFirst]
  omega

theorem allocInit_stands (stands : Stands interfaces count pads) (type : TargetType)
    (vendorId productId : UInt16) :
    Stands interfaces (count + 1)
      ⟨pads.client, (vigemTargetAllocInit type vendorId productId true pads.host).2⟩ where
  acquired := by
    simp [vigemTargetAllocInit, Ledger.acquire, stands.acquired, List.replicate_succ']
  released := stands.released
  client := stands.client
  driverHandler := stands.driverHandler
  distinct := stands.distinct
  within target member := by
    obtain ⟨least, below⟩ := stands.within target member
    exact ⟨least, Nat.lt_succ_of_lt below⟩

/-- The target that is allocated is the next one. -/
theorem alloc_stands (stands : Stands interfaces count pads) (gameType : GamepadType) :
    (pads.allocTarget gameType true).1 = some (opened interfaces + 2 + count) ∧
      Stands interfaces (count + 1) ⟨pads.client, (pads.allocTarget gameType true).2⟩ := by
  rw [← stands.fresh]
  unfold Gamepads.allocTarget
  rw [if_pos stands.driverHandler]
  cases gameType with
  | xbox360 => exact ⟨rfl, allocInit_stands stands _ _ _⟩
  | ps4 => exact ⟨rfl, allocInit_stands stands _ _ _⟩

theorem no_alloc (stands : Stands interfaces count pads) (gameType : GamepadType) :
    pads.allocTarget gameType false = (none, pads.host) := by
  unfold Gamepads.allocTarget
  rw [if_pos stands.driverHandler]
  cases gameType <;> rfl

theorem Stands.notYet (stands : Stands interfaces count pads) :
    opened interfaces + 2 + count ∉ pads.client.gamepads := fun member =>
  absurd (stands.within _ member).2 (Nat.lt_irrefl _)

/-- The target that was allocated last becomes that of a gamepad. -/
theorem appended_stands (stands : Stands interfaces count pads) {gameType : GamepadType}
    {host : Host δ} {client : VigemClient} (next : Stands interfaces (count + 1) ⟨pads.client, host⟩)
    (handler : client.driverHandler = true)
    (gamepads : client.gamepads = pads.client.gamepads ++ [opened interfaces + 2 + count]) :
    Stands interfaces (count + 1) ⟨client, host⟩ ∧
      (Whole interfaces (count + 1) ⟨client, host⟩ ↔
        Whole interfaces count pads ∧ Kept pads (.add gameType true) ⟨client, host⟩) := by
  have mem_iff (target : Target) :
      target ∈ client.gamepads ↔ target ∈ pads.client.gamepads ∨ target = opened interfaces + 2 + count := by
    simp [gamepads]
  constructor
  · refine ⟨next.acquired, next.released, next.client, handler, ?_, ?_⟩
    · show client.gamepads.Nodup
      rw [gamepads, List.nodup_append]
      refine ⟨stands.distinct, List.nodup_singleton _, ?_⟩
      intro target member new isNew same
      rw [List.mem_singleton.mp isNew] at same
      exact stands.notYet (same ▸ member)
    · intro target member
      cases (mem_iff target).mp member with
      | inl old => exact next.within target old
      | inr new =>
        rw [new]
        exact ⟨Nat.le_add_right _ _, Nat.lt_succ_self _⟩
  · constructor
    · intro whole
      constructor
      · intro k below
        cases (mem_iff _).mp (whole k (Nat.lt_succ_of_lt below)) with
        | inl old => exact old
        | inr new => exact absurd (Nat.add_left_cancel new) (Nat.ne_of_lt below)
      · intro _ _ same
        have length := congrArg List.length same
        simp [gamepads] at length
    · intro ⟨whole, _⟩ k below
      apply (mem_iff _).mpr
      cases Nat.lt_succ_iff_lt_or_eq.mp below with
      | inl old => exact .inl (whole k old)
      | inr last => exact .inr (by rw [last])

theorem add_stands (stands : Stands interfaces count pads) (gameType : GamepadType) (memory : Bool) :
    Stands interfaces (count + allocates (.add gameType memory))
        (pads.addGamepadController driver gameType memory).2 ∧
      (Whole interfaces (count + allocates (.add gameType memory))
          (pads.addGamepadController driver gameType memory).2 ↔
        Whole interfaces count pads ∧ Kept pads (.add gameType memory)
          (pads.addGamepadController driver gameType memory).2) := by
  cases memory with
  | false =>
    have done : (pads.addGamepadController driver gameType false).2.client.gamepads =
        pads.client.gamepads := by
      simp [Gamepads.addGamepadController, no_alloc stands, Gamepads.finish,
        VigemClient.addGamepadController, stands.driverHandler]
    have still : Stands interfaces count (pads.addGamepadController driver gameType false).2 := by
      simp only [Gamepads.addGamepadController, no_alloc stands, Gamepads.finish,
        VigemClient.addGamepadController, stands.driverHandler, if_true, List.foldl_nil]
      exact (Apart.refl pads.host).stands stands _ rfl rfl
    exact still.keeps rfl done
  | true =>
    obtain ⟨allocated, alloc⟩ := alloc_stands stands gameType
    cases did : pads.allocTarget gameType true with
    | mk handler host =>
      rw [did] at allocated alloc
      simp only at allocated
      subst allocated
      have added := apart_of_frame (add_frame driver (opened interfaces + 2 + count) host)
      have removed := apart_of_frame (remove_frame driver (opened interfaces + 2 + count)
        (vigemTargetAdd driver (some (opened interfaces + 2 + count)) host).2)
      simp only [Gamepads.addGamepadController, did, Gamepads.finish,
        VigemClient.addGamepadController, stands.driverHandler, if_true]
      cases vigemSuccess (vigemTargetAdd driver (some (opened interfaces + 2 + count)) host).1.code with
      | true =>
        simp only [if_true, List.foldl_cons, List.foldl_nil, Gamepads.perform]
        exact appended_stands stands (added.stands alloc pads.client rfl stands.driverHandler) rfl rfl
      | false =>
        simp only [Bool.false_eq_true, if_false, List.foldl_cons, List.foldl_nil, Gamepads.perform]
        refine ⟨(added.trans removed).stands alloc _ rfl rfl, ?_⟩
        constructor
        · intro whole
          exact absurd (whole count (Nat.lt_succ_self count)) stands.notYet
        · intro both
          exact absurd rfl (both.2 gameType rfl)

theorem step_stands {after : Gamepads δ} {method : Method} (stands : Stands interfaces count pads)
    (stepped : GamepadReports.step driver pads method = some after) :
    Stands interfaces (count + allocates method) after ∧
      (Whole interfaces (count + allocates method) after ↔
        Whole interfaces count pads ∧ Kept pads method after) := by
  cases method with
  | add gameType memory =>
    cases stepped
    exact add_stands stands gameType memory
  | send gamePadIndex pXInput stack =>
    cases stepped
    have gamepads := send_gamepads pads.client gamePadIndex pXInput stack
    have same : Stands interfaces count (pads.sendXbox360Input driver gamePadIndex pXInput stack).2 := by
      apply (report_apart _ _ pads.host).stands stands _ gamepads
      · unfold VigemClient.sendXbox360Input
        cases pads.client.gamepads[gamePadIndex.toNat]? <;> exact stands.driverHandler
      · unfold VigemClient.sendXbox360Input
        cases pads.client.gamepads[gamePadIndex.toNat]? <;> simp
    exact same.keeps rfl gamepads
  | clear pGamePadIndex =>
    cases stepped
    have same : Stands interfaces count (pads.clearGamepadState driver pGamePadIndex).2 := by
      apply (report_apart _ _ pads.host).stands stands (pads.client.clearGamepadState pGamePadIndex).client
        rfl stands.driverHandler
      rw [clear_calls]
      simp
    exact same.keeps rfl rfl
  | reset =>
    cases stepped
    exact (reset_stands driver stands).keeps rfl (reset_gamepads pads.client)

end Step

/-! ## Runs -/

theorem run_stands {interfaces : List Interface} {count : Nat} {pads last : Gamepads δ}
    (stands : Stands interfaces count pads) {methods : List Method}
    (ran : run (GamepadReports.step driver) pads methods = some last) :
    ∃ total, Stands interfaces total last ∧
      (Whole interfaces total last ↔
        Whole interfaces count pads ∧ Always (GamepadReports.step driver) Kept pads methods) := by
  induction methods generalizing count pads with
  | nil =>
    cases ran
    exact ⟨count, stands, by simp [Always]⟩
  | cons method methods ih =>
    obtain ⟨next, stepped, rest⟩ := run_cons_eq_some.mp ran
    obtain ⟨standsNext, wholeNext⟩ := step_stands stands stepped
    obtain ⟨total, standsLast, wholeLast⟩ := ih standsNext rest
    refine ⟨total, standsLast, ?_⟩
    rw [wholeLast, wholeNext, and_assoc]
    constructor
    · intro ⟨whole, kept, always⟩
      refine ⟨whole, ?_⟩
      intro other steppedOther
      cases stepped.symm.trans steppedOther
      exact ⟨kept, always⟩
    · intro ⟨whole, always⟩
      exact ⟨whole, always next stepped⟩

/-! ## The destructor -/

theorem reset_closed (driver : BusDriver δ) {interfaces : List Interface} {count : Nat} {pads : Gamepads δ}
    (stands : Stands interfaces count pads) : (pads.resetDriver driver).2.host.busDevice = none := by
  unfold Gamepads.resetDriver Gamepads.finish VigemClient.resetDriver
  simp only [stands.driverHandler, if_true, List.foldl_cons, List.foldl_nil, Gamepads.perform]
  obtain ⟨device, client⟩ := stands.client
  cases isOpen : pads.host.busDevice with
  | none => simp [vigemDisconnect, isOpen]
  | some handle =>
    unfold vigemDisconnect
    rw [isOpen]
    simp [Host.busDevice, Host.setBusDevice, client]

/-- Every gamepad is released, plugged in or not. -/
theorem drop_gamepads (driver : BusDriver δ) (gamepads : List Target) (host : Host δ) :
    let after := gamepads.foldl
      (fun host handle =>
        vigemTargetFree (some handle) (vigemTargetRemove driver (some handle) host).2) host
    after.ledger.acquired = host.ledger.acquired ∧
      after.ledger.released = host.ledger.released ++ gamepads ∧ after.vigem = host.vigem := by
  induction gamepads generalizing host with
  | nil => simp
  | cons gamepad gamepads ih =>
    have frame := remove_frame driver gamepad host
    obtain ⟨acquired, released, vigem⟩ :=
      ih (vigemTargetFree (some gamepad) (vigemTargetRemove driver (some gamepad) host).2)
    simp only [List.foldl_cons]
    rw [acquired, released, vigem]
    simp [vigemTargetFree, Ledger.release, frame.ledger, frame.vigem]

theorem drop_ledger (driver : BusDriver δ) {interfaces : List Interface} {count : Nat} {pads : Gamepads δ}
    (stands : Stands interfaces count pads) :
    (pads.drop driver).ledger.acquired = acquiredFirst interfaces ++ List.replicate count .target ∧
      (pads.drop driver).ledger.released =
        releasedFirst interfaces ++ (leftWith none 2 interfaces).toList ++ pads.client.gamepads ++
          [0] := by
  have reset := reset_stands driver stands
  have isClosed := reset_closed driver stands
  have gamepads : (pads.resetDriver driver).2.client.gamepads = pads.client.gamepads :=
    reset_gamepads pads.client
  have dropped := drop_gamepads driver pads.client.gamepads
    (pads.resetDriver driver).2.host
  have before := reset.released
  rw [isClosed, Option.toList_none, List.append_nil] at before
  obtain ⟨device, client⟩ := reset.client
  simp only [Gamepads.drop, reset.driverHandler, if_true, gamepads]
  simp only [before, client, reset.acquired] at dropped
  obtain ⟨acquired, released, vigem⟩ := dropped
  simp only [vigemFree, vigem, Host.release_ledger, Ledger.release, acquired, released]
  simp

/-! ## Released once -/

theorem missing_eq_zero_iff {interfaces : List Interface} :
    missing interfaces = 0 ↔ ∀ interface ∈ tried interfaces, interface.detail = true := by
  simp [missing]

/-- The releases, counted for each object. -/
theorem drop_released_iff {interfaces : List Interface} {count : Nat} {pads : Gamepads δ}
    (stands : Stands interfaces count pads) :
    (pads.drop driver).ledger.ReleasedOnce (fun _ => true) ↔
      missing interfaces = 0 ∧
        (∀ k < opened interfaces, leftWith none 2 interfaces = some (2 + k)) ∧
        Whole interfaces count pads := by
  obtain ⟨acquired, released⟩ := drop_ledger driver stands
  have length : (pads.drop driver).ledger.acquired.length = opened interfaces + 2 + count := by
    rw [acquired]
    simp [acquiredFirst]
    omega
  have bus (object : Nat) (outside : object < 2 ∨ opened interfaces + 2 ≤ object) :
      leftWith none 2 interfaces ≠ some object := by
    intro left
    cases leftWith_bound left with
    | inl none => cases none
    | inr within => omega
  have pad (object : Nat) (below : object < opened interfaces + 2) :
      pads.client.gamepads.count object = 0 :=
    List.count_eq_zero.mpr fun member => absurd (stands.within object member).1 (by omega)
  have counted (object : Nat) : (releasedFirst interfaces ++ (leftWith none 2 interfaces).toList ++
      pads.client.gamepads ++ [0]).count object =
        (if 1 = object then missing interfaces + 1 else 0) +
          (if leftWith none 2 interfaces = some object then 1 else 0) +
          pads.client.gamepads.count object + if 0 = object then 1 else 0 := by
    cases left : leftWith none 2 interfaces with
    | none =>
      simp [releasedFirst, List.count_replicate, List.count_singleton]
      omega
    | some held =>
      simp [releasedFirst, List.count_replicate, List.count_cons]
      omega
  rw [Ledger.releasedOnce_iff_count, length, released]
  simp only [counted]
  constructor
  · intro once
    refine ⟨?_, ?_, ?_⟩
    · have set := once 1 (by omega)
      simp only [bus 1 (.inl (by omega)), pad 1 (by omega), if_true, if_false] at set
      omega
    · intro k below
      have handle := once (2 + k) (by omega)
      by_contra isNot
      rw [if_neg (by omega), if_neg isNot, pad (2 + k) (by omega), if_neg (by omega)] at handle
      omega
    · intro k below
      have target := once (opened interfaces + 2 + k) (by omega)
      rw [if_neg (by omega), if_neg (bus _ (.inr (by omega))), if_neg (by omega)] at target
      exact List.count_pos_iff.mp (by omega)
  · intro ⟨allFound, holds, whole⟩ object below
    by_cases isFirst : object < 2
    · rw [if_neg (bus object (.inl isFirst)), pad object (by omega), allFound]
      split <;> split <;> omega
    · rw [if_neg (by omega), if_neg (by omega : ¬0 = object)]
      by_cases isBus : object < opened interfaces + 2
      · have held := holds (object - 2) (by omega)
        have same : 2 + (object - 2) = object := by omega
        rw [same] at held
        rw [if_pos held, pad object isBus]
      · have target := whole (object - (opened interfaces + 2)) (by omega)
        have same : opened interfaces + 2 + (object - (opened interfaces + 2)) = object := by omega
        rw [same] at target
        rw [if_neg (bus object (.inr (by omega))), stands.distinct.count, if_pos target]

/-! ## Without a client -/

/-- There was no memory for the client, and nothing was acquired. -/
structure Absent (pads : Gamepads δ) : Prop where
  driverHandler : pads.client.driverHandler = false
  gamepads : pads.client.gamepads = []
  vigem : pads.host.vigem = none
  ledger : pads.host.ledger = .empty

theorem perform_absent {host : Host δ} (absent : host.vigem = none) (calls : List BusCall) :
    calls.foldl (Gamepads.perform driver) host = host := by
  induction calls with
  | nil => rfl
  | cons call calls ih =>
    have first : Gamepads.perform driver host call = host := by
      cases call with
      | disconnect => simp [Gamepads.perform, vigemDisconnect, Host.busDevice, absent]
      | targetAdd target => simp [Gamepads.perform, vigemTargetAdd, checked, absent]
      | targetRemove target => simp [Gamepads.perform, vigemTargetRemove, checked, absent]
      | x360Update target report =>
        simp [Gamepads.perform, vigemTargetX360Update, submit, checked, absent]
    rw [List.foldl_cons, first, ih]

theorem Absent.finish {α : Type} {pads : Gamepads δ} (absent : Absent pads) (done : Done α)
    (handler : done.client.driverHandler = false) (gamepads : done.client.gamepads = []) :
    Absent (Gamepads.finish driver pads.host done).2 := by
  rw [Gamepads.finish, perform_absent absent.vigem]
  exact ⟨handler, gamepads, absent.vigem, absent.ledger⟩

theorem step_absent {pads after : Gamepads δ} {method : Method} (absent : Absent pads)
    (stepped : GamepadReports.step driver pads method = some after) : Absent after := by
  have handler := absent.driverHandler
  have gamepads := absent.gamepads
  cases method with
  | add gameType memory =>
    cases stepped
    have alloc : pads.allocTarget gameType memory = (none, pads.host) := by
      simp [Gamepads.allocTarget, handler]
    rw [Gamepads.addGamepadController, alloc]
    apply absent.finish <;> simp [VigemClient.addGamepadController, handler, gamepads]
  | send gamePadIndex pXInput stack =>
    cases stepped
    apply absent.finish <;> simp [VigemClient.sendXbox360Input, handler, gamepads]
  | clear pGamePadIndex =>
    cases stepped
    exact absent.finish _ handler gamepads
  | reset =>
    cases stepped
    apply absent.finish <;> simp [VigemClient.resetDriver, handler, gamepads]

theorem drop_absent {pads : Gamepads δ} (absent : Absent pads) : (pads.drop driver).ledger = .empty := by
  have stepped : GamepadReports.step driver pads .reset = some (pads.resetDriver driver).2 := rfl
  have reset := step_absent absent stepped
  simp [Gamepads.drop, reset.driverHandler, reset.gamepads, reset.ledger]

theorem whole_released_iff (driver : BusDriver δ) (bus : δ) (interfaces : List Interface)
    {methods : List Method} {last : Gamepads δ}
    (ran : run (GamepadReports.step driver) (created true interfaces bus) methods = some last) :
    (last.drop driver).ledger.ReleasedOnce (fun _ => true) ↔
      (∀ interface ∈ tried interfaces, interface.detail = true) ∧ OpensLast interfaces ∧
        Always (GamepadReports.step driver) Kept (created true interfaces bus) methods := by
  obtain ⟨total, stands, whole⟩ := run_stands (created_stands interfaces bus) ran
  have start : Whole interfaces 0 (created true interfaces bus) := fun k below => by omega
  rw [drop_released_iff stands, whole, missing_eq_zero_iff]
  constructor
  · intro ⟨found, holds, _, kept⟩
    exact ⟨found, (holds_opened_iff found 2).mp holds, kept⟩
  · intro ⟨found, last, kept⟩
    exact ⟨found, (holds_opened_iff found 2).mpr last, start, kept⟩

/-- Everything that a client acquires in its life is released exactly once, if and only if
there was no memory for it, or every interface that it came to had its path, no bus was
opened before another interface was tried, and no add failed that had memory for a
target. -/
theorem client_released_iff (driver : BusDriver δ) (memory : Bool) (bus : δ)
    (interfaces : List Interface) (methods : List Method) {last : Gamepads δ}
    (ran : run (GamepadReports.step driver) (created memory interfaces bus) methods = some last) :
    (last.drop driver).ledger.ReleasedOnce (fun _ => true) ↔
      (memory = true →
        (∀ interface ∈ tried interfaces, interface.detail = true) ∧ OpensLast interfaces ∧
          Always (GamepadReports.step driver) Kept (created true interfaces bus) methods) := by
  cases memory with
  | true => simpa using whole_released_iff driver bus interfaces ran
  | false =>
    have start : Absent (created false interfaces bus) := ⟨rfl, rfl, rfl, rfl⟩
    have absent : Absent last :=
      run_invariant Absent (fun _ _ _ _ absent stepped => step_absent absent stepped) start ran
    rw [Ledger.releasedOnce_iff_count, drop_absent absent]
    simp [Ledger.empty]

/-- A client with one gamepad. -/
theorem one_released :
    ∃ last, run (GamepadReports.step soleDriver) (created true [⟨true, true, true⟩] [])
        [.add .xbox360 true] = some last ∧
      (last.drop soleDriver).ledger.ReleasedOnce fun _ => true := by
  refine ⟨_, rfl, (client_released_iff soleDriver true [] [⟨true, true, true⟩]
    [.add .xbox360 true] rfl).mpr fun _ => ⟨by decide, by simp [OpensLast, tried, usable], ?_⟩⟩
  intro after stepped
  cases stepped
  refine ⟨fun _ _ => ?_, trivial⟩
  decide

end WolfEngine.Verified.GamepadRelease
