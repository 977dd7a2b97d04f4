import WolfEngine.Library.Transitions
import WolfEngine.Verified.BusConnect
import WolfEngine.Verified.SerialNumbers.Calls

/-! # Whose a serial number is

The library tries the serial numbers of the bus one after the other and remembers the one
that was granted.  Where the driver grants no number twice, the connected targets of a
process have numbers of their own, each that of a device which is plugged in while the bus
is open, for as long as no bus is opened under targets that were connected before.
-/

namespace WolfEngine.Verified.SerialNumbers

open WolfEngine.System.Os WolfEngine.Verified.BusConnect Custody Transitions

variable {δ : Type} {driver : BusDriver δ}

/-- The calls of a process, which keeps its targets to the end. -/
inductive Call where
  | connect (interfaces : List Interface)
  | disconnect
  | x360Alloc (memory : Bool)
  | ds4Alloc (memory : Bool)
  | add (target : Target)
  | remove (target : Target)
  | x360Update (target : Target) (report : XusbReport)
  | ds4Update (target : Target) (report : Ds4Report)
  | ds4UpdateEx (target : Target) (report : List UInt8)
  | x360GetUserIndex (target : Target) (index : Bool)

/-- Only what was allocated as a target is used as one. -/
def onTarget (host : Host δ) (target : Target) (after : Host δ) : Option (Host δ) :=
  if host.ledger.acquired[target]? = some .target then some after else none

def step (driver : BusDriver δ) (host : Host δ) : Call → Option (Host δ)
  | .connect interfaces => some (vigemConnect interfaces host).2
  | .disconnect => some (vigemDisconnect driver host)
  | .x360Alloc memory => some (vigemTargetX360Alloc memory host).2
  | .ds4Alloc memory => some (vigemTargetDs4Alloc memory host).2
  | .add target => onTarget host target (vigemTargetAdd driver (some target) host).2
  | .remove target => onTarget host target (vigemTargetRemove driver (some target) host).2
  | .x360Update target report =>
    onTarget host target (vigemTargetX360Update driver (some target) report host).2
  | .ds4Update target report =>
    onTarget host target (vigemTargetDs4Update driver (some target) report host).2
  | .ds4UpdateEx target report =>
    onTarget host target (vigemTargetDs4UpdateEx driver (some target) report host).2
  | .x360GetUserIndex target index =>
    onTarget host target (vigemTargetX360GetUserIndex driver (some target) index host).2

/-- A client that has no bus open is left with one. -/
def Opens (interfaces : List Interface) (host : Host δ) : Prop :=
  (∃ object, host.vigem = some ⟨object, none⟩) ∧
    ∃ interface, lastFound interfaces = some interface ∧ interface.opens = true

theorem Opens.isClosed {interfaces : List Interface} {host : Host δ} (opens : Opens interfaces host) :
    host.busDevice = none := by
  obtain ⟨⟨object, client⟩, _⟩ := opens
  simp [Host.busDevice, client]

variable {plugged : δ → Set (Handle × Nat)}

/-- Nothing of what is said of connected targets changes. -/
structure Same (plugged : δ → Set (Handle × Nat)) (host after : Host δ) : Prop where
  busDevice : after.busDevice = host.busDevice
  fresh : host.ledger.fresh ≤ after.ledger.fresh
  connected : ∀ target, Connected after target ↔ Connected host target
  number : ∀ target, Connected host target → serialNo after target = serialNo host target
  plugged : plugged after.bus = plugged host.bus

/-- All that a call can do. -/
inductive Does (plugged : δ → Set (Handle × Nat)) (driver : BusDriver δ) (host : Host δ) :
    Call → Host δ → Prop
  | same {call : Call} {after : Host δ} (same : Same plugged host after)
      (notOpened : ∀ interfaces, call = .connect interfaces → ¬Opens interfaces host)
      (notAdded : ∀ target, call = .add target →
        (vigemTargetAdd driver (some target) host).1 ≠ .targetNotPluggedIn) :
      Does plugged driver host call after
  | opens {interfaces : List Interface} {after : Host δ} (willOpen : Opens interfaces host)
      (isOpen : after.busDevice ≠ none) (fresh : host.ledger.fresh ≤ after.ledger.fresh)
      (targets : after.targets = host.targets) (bus : after.bus = host.bus) :
      Does plugged driver host (.connect interfaces) after
  | closes {after : Host δ} {handle : Handle} (isOpen : host.busDevice = some handle)
      (isClosed : after.busDevice = none) (fresh : after.ledger.fresh = host.ledger.fresh)
      (targets : after.targets = host.targets)
      (unplugged : plugged after.bus = {device ∈ plugged host.bus | device.1 ≠ handle}) :
      Does plugged driver host .disconnect after
  | plugsIn {after : Host δ} {target : Target} {handle : Handle} {serialNo : Nat}
      (isTarget : host.ledger.acquired[target]? = some .target)
      (isOpen : host.busDevice = some handle) (least : 1 ≤ serialNo)
      (most : serialNo ≤ vigemTargetsMax)
      (plugsIn : PlugsIn plugged target handle serialNo
        (vigemTargetAdd driver (some target) host).1 host after) :
      Does plugged driver host (.add target) after
  | unplugs {after : Host δ} {target : Target} {handle : Handle}
      (isOpen : host.busDevice = some handle) (connected : Connected host target)
      (frame : Frame target host after) (unconnected : ¬Connected after target)
      (unplugged : plugged after.bus = plugged host.bus \ {(handle, serialNo host target)}) :
      Does plugged driver host (.remove target) after

/-- What holds between the calls. -/
structure Inv (plugged : δ → Set (Handle × Nat)) (host : Host δ) : Prop where
  own : ∀ device ∈ plugged host.bus, host.busDevice = some device.1
  fresh : ∀ target, host.ledger.fresh ≤ target → ¬Connected host target

theorem Quiet.same {target : Target} {host after : Host δ}
    (quiet : Quiet plugged target host after) : Same plugged host after where
  busDevice := quiet.frame.busDevice
  fresh := by rw [quiet.frame.ledger]
  connected other := by
    by_cases isTarget : other = target
    · rw [isTarget, Connected, quiet.state, Connected]
    · rw [Connected, quiet.frame.others other isTarget, Connected]
  number other connected := by
    by_cases isTarget : other = target
    · rw [isTarget] at connected ⊢
      exact quiet.number connected
    · show (after.targets other).serialNo = (host.targets other).serialNo
      rw [quiet.frame.others other isTarget]
  plugged := quiet.plugged

/-- A new target is not connected, nor was anything at its place before. -/
theorem alloc_same {host : Host δ} (inv : Inv plugged host) (type : TargetType)
    (vendorId productId : UInt16) (memory : Bool) :
    Same plugged host (vigemTargetAllocInit type vendorId productId memory host).2 := by
  cases memory with
  | false => exact ⟨rfl, Nat.le_refl _, fun _ => Iff.rfl, fun _ _ => rfl, rfl⟩
  | true =>
    have unconnected := inv.fresh host.ledger.fresh (Nat.le_refl _)
    constructor
    · rfl
    · simp [vigemTargetAllocInit, Ledger.fresh, Ledger.acquire]
    · intro target
      by_cases isNew : target = host.ledger.fresh
      · subst isNew
        simp [vigemTargetAllocInit, Connected] at unconnected ⊢
        exact unconnected
      · simp [vigemTargetAllocInit, Connected, Host.setTarget_targets_of_ne _ _ _ isNew]
    · intro target connected
      have isOld : target ≠ host.ledger.fresh := fun isNew => unconnected (isNew ▸ connected)
      simp [vigemTargetAllocInit, serialNo, Host.setTarget_targets_of_ne _ _ _ isOld]
    · rfl

theorem Same.refl (host : Host δ) : Same plugged host host :=
  ⟨rfl, Nat.le_refl _, fun _ => Iff.rfl, fun _ _ => rfl, rfl⟩

/-- Opening a bus is nothing to the targets and to the driver. -/
theorem connect_keeps (interfaces : List Interface) (host : Host δ) :
    (vigemConnect interfaces host).2.targets = host.targets ∧
      (vigemConnect interfaces host).2.bus = host.bus ∧
      host.ledger.fresh ≤ (vigemConnect interfaces host).2.ledger.fresh := by
  cases client : host.vigem with
  | none => simp [vigemConnect, client]
  | some vigem =>
    obtain ⟨object, device⟩ := vigem
    cases device with
    | some handle => simp [vigemConnect, client]
    | none =>
      have does := enumerate_does host.ledger.fresh interfaces .busNotFound
        (host.acquire .deviceInfoSet) ⟨object, none⟩ client
      rw [connect_eq client]
      refine ⟨does.targets, does.bus, ?_⟩
      show host.ledger.acquired.length ≤ (enumerate host.ledger.fresh interfaces .busNotFound
        (host.acquire .deviceInfoSet)).2.ledger.acquired.length
      rw [does.acquired]
      simp [Ledger.acquire]

theorem connect_does (interfaces : List Interface) (host : Host δ) :
    Does plugged driver host (.connect interfaces) (vigemConnect interfaces host).2 := by
  have refuses (refused : (vigemConnect interfaces host).2 = host)
      (notNone : ∀ object, host.vigem ≠ some ⟨object, none⟩) :
      Does plugged driver host (.connect interfaces) (vigemConnect interfaces host).2 := by
    rw [refused]
    apply Does.same (.refl host)
    · intro _ _ opens
      obtain ⟨object, client⟩ := opens.1
      exact notNone object client
    · simp
  cases client : host.vigem with
  | none => exact refuses (by simp [vigemConnect, client]) (by simp [client])
  | some vigem =>
    obtain ⟨object, device⟩ := vigem
    cases device with
    | some handle => exact refuses (by simp [vigemConnect, client]) (by simp [client])
    | none =>
      have isClosed : host.busDevice = none := by simp [Host.busDevice, client]
      obtain ⟨targets, bus, fresh⟩ := connect_keeps interfaces host
      have opens := connect_leaves_open_iff interfaces client
      by_cases found : ∃ interface, lastFound interfaces = some interface ∧ interface.opens = true
      · exact .opens ⟨⟨object, client⟩, found⟩ (opens.mpr found) fresh targets bus
      · have stays : (vigemConnect interfaces host).2.busDevice = none := by
          simpa using fun isOpen => found (opens.mp isOpen)
        apply Does.same
        · refine ⟨stays.trans isClosed.symm, fresh, ?_, ?_, congrArg plugged bus⟩
          · intro target
            rw [Connected, targets, Connected]
          · intro target _
            rw [serialNo, targets, serialNo]
        · intro _ same willOpen
          cases same
          exact found willOpen.2
        · simp

theorem onTarget_eq_some_iff {host after next : Host δ} {target : Target} :
    onTarget host target after = some next ↔
      host.ledger.acquired[target]? = some .target ∧ after = next := by
  simp [onTarget]

theorem Quiet.does {target : Target} {host after next : Host δ} {call : Call}
    (quiet : Quiet plugged target host after) (notConnect : ∀ interfaces, call ≠ .connect interfaces)
    (notAdd : ∀ target, call ≠ .add target) (stepped : onTarget host target after = some next) :
    Does plugged driver host call next := by
  obtain ⟨_, rfl⟩ := onTarget_eq_some_iff.mp stepped
  exact .same quiet.same (fun interfaces same => absurd same (notConnect interfaces))
    (fun target same => absurd same (notAdd target))

theorem step_does (lawful : Lawful driver plugged) {host next : Host δ} {call : Call}
    (inv : Inv plugged host) (stepped : step driver host call = some next) :
    Does plugged driver host call next := by
  cases call with
  | connect interfaces =>
    cases stepped
    exact connect_does interfaces host
  | disconnect =>
    cases stepped
    cases device : host.busDevice with
    | none =>
      have idle : vigemDisconnect driver host = host := by simp [vigemDisconnect, device]
      rw [idle]
      exact .same (.refl host) (by simp)
        (by simp)
    | some handle =>
      have closed : vigemDisconnect driver host =
          { (host.release handle).setBusDevice none with bus := driver.closeHandle handle host.bus } := by
        simp [vigemDisconnect, device]
      have isClosed : (vigemDisconnect driver host).busDevice = none := by
        rw [closed]
        cases client : host.vigem <;> simp [Host.busDevice, Host.setBusDevice, client]
      rw [closed] at isClosed ⊢
      exact .closes device isClosed rfl rfl (lawful.close handle host.bus)
  | x360Alloc memory =>
    cases stepped
    exact .same (alloc_same inv _ _ _ memory) (by simp) (by simp)
  | ds4Alloc memory =>
    cases stepped
    exact .same (alloc_same inv _ _ _ memory) (by simp) (by simp)
  | add target =>
    obtain ⟨isTarget, rfl⟩ := onTarget_eq_some_iff.mp stepped
    cases did : vigemTargetAdd driver (some target) host with
    | mk error after =>
      have does := add_does lawful target host
      rw [did] at does
      cases does with
      | refuses quiet isError other =>
        apply Does.same quiet.same (by simp)
        intro _ same
        cases same
        rwa [did]
      | plugsIn isOpen least most plugsIn =>
        exact .plugsIn isTarget isOpen least most (by rwa [did])
  | remove target =>
    obtain ⟨_, rfl⟩ := onTarget_eq_some_iff.mp stepped
    cases did : vigemTargetRemove driver (some target) host with
    | mk error after =>
      have does := remove_does lawful target host
      rw [did] at does
      cases does with
      | refuses quiet => exact .same quiet.same (by simp) (by simp)
      | unplugs isOpen connected frame unconnected unplugged =>
        exact .unplugs isOpen connected frame unconnected unplugged
  | x360Update target report =>
    exact (submit_quiet lawful _ (by simp [Plugs]) _ target host).does (by simp) (by simp) stepped
  | ds4Update target report =>
    exact (submit_quiet lawful _ (by simp [Plugs]) _ target host).does (by simp) (by simp) stepped
  | ds4UpdateEx target report =>
    exact (submit_quiet lawful _ (by simp [Plugs]) _ target host).does (by simp) (by simp) stepped
  | x360GetUserIndex target index =>
    exact (getUserIndex_quiet lawful target index host).does (by simp) (by simp) stepped

/-! ## Numbers of their own -/

/-- Connected targets have numbers of their own, and while a bus is open each of them has a
device at its number. -/
structure Numbered (plugged : δ → Set (Handle × Nat)) (host : Host δ) : Prop where
  device : ∀ handle target, host.busDevice = some handle → Connected host target →
    (handle, serialNo host target) ∈ plugged host.bus
  distinct : ∀ one other, Connected host one → Connected host other →
    serialNo host one = serialNo host other → one = other
  range : ∀ target, Connected host target →
    1 ≤ serialNo host target ∧ serialNo host target ≤ vigemTargetsMax

/-- There are no other devices. -/
def Covered (plugged : δ → Set (Handle × Nat)) (host : Host δ) : Prop :=
  ∀ device ∈ plugged host.bus, ∃ target, Connected host target ∧ serialNo host target = device.2

/-- No bus is opened while there are connected targets. -/
def NotReopened (host : Host δ) : Call → Prop
  | .connect interfaces => Opens interfaces host → ∀ target, ¬Connected host target
  | _ => True

/-- Nor does an add end with the error of a target that is not plugged in. -/
def NotAbandoned (driver : BusDriver δ) (host : Host δ) : Call → Prop
  | .add target => (vigemTargetAdd driver (some target) host).1 ≠ .targetNotPluggedIn
  | call => NotReopened host call

section Steps

variable {host after : Host δ}

theorem Same.numbered (same : Same plugged host after) (sound : Numbered plugged host) :
    Numbered plugged after where
  device handle target isOpen connected := by
    have before := (same.connected target).mp connected
    rw [same.plugged, same.number target before]
    exact sound.device handle target (same.busDevice ▸ isOpen) before
  distinct one other connectedOne connectedOther equal := by
    have beforeOne := (same.connected one).mp connectedOne
    have beforeOther := (same.connected other).mp connectedOther
    rw [same.number one beforeOne, same.number other beforeOther] at equal
    exact sound.distinct one other beforeOne beforeOther equal
  range target connected := by
    have before := (same.connected target).mp connected
    rw [same.number target before]
    exact sound.range target before

theorem Same.inv (same : Same plugged host after) (inv : Inv plugged host) : Inv plugged after where
  own := by
    rw [same.plugged, same.busDevice]
    exact inv.own
  fresh target isFresh connected :=
    inv.fresh target (Nat.le_trans same.fresh isFresh) ((same.connected target).mp connected)

theorem Same.covered (same : Same plugged host after) (covered : Covered plugged host) :
    Covered plugged after := by
  intro device member
  rw [same.plugged] at member
  obtain ⟨target, connected, number⟩ := covered device member
  exact ⟨target, (same.connected target).mpr connected, (same.number target connected).trans number⟩

theorem Frame.connected_iff {target other : Target} (frame : Frame target host after)
    (isOther : other ≠ target) : Connected after other ↔ Connected host other := by
  rw [Connected, frame.others other isOther, Connected]

theorem Frame.serialNo_eq {target other : Target} (frame : Frame target host after)
    (isOther : other ≠ target) : serialNo after other = serialNo host other := by
  rw [serialNo, frame.others other isOther, serialNo]

theorem Inv.unplugged_of_closed (inv : Inv plugged host) (isClosed : host.busDevice = none)
    (device : Handle × Nat) : device ∉ plugged host.bus := by
  intro member
  rw [inv.own device member] at isClosed
  cases isClosed

theorem PlugsIn.sound {target : Target} {handle : Handle} {number : Nat} {error : VigemError}
    (plugsIn : PlugsIn plugged target handle number error host after) (sound : Numbered plugged host)
    (isOpen : host.busDevice = some handle) (least : 1 ≤ number) (most : number ≤ vigemTargetsMax) :
    Numbered plugged after := by
  have old (other : Target) (connected : Connected after other) (isOther : other ≠ target) :
      Connected host other ∧ serialNo after other = serialNo host other :=
    ⟨(plugsIn.frame.connected_iff isOther).mp connected, plugsIn.frame.serialNo_eq isOther⟩
  have fresh (other : Target) (connected : Connected after other) (isOther : other ≠ target) :
      serialNo after other ≠ number := by
    intro same
    obtain ⟨before, unchanged⟩ := old other connected isOther
    have device := sound.device handle other isOpen before
    rw [← unchanged, same] at device
    exact plugsIn.unplugged handle device
  have isNumber : serialNo after target = number := plugsIn.number
  constructor
  · intro other target' isOpen' connected
    rw [plugsIn.frame.busDevice, isOpen] at isOpen'
    cases isOpen'
    rw [plugsIn.plugged]
    by_cases isTarget : target' = target
    · rw [isTarget, isNumber]
      exact Set.mem_insert _ _
    · obtain ⟨before, unchanged⟩ := old target' connected isTarget
      rw [unchanged]
      exact Set.mem_insert_of_mem _ (sound.device handle target' isOpen before)
  · intro one other connectedOne connectedOther same
    by_cases isOne : one = target
    · by_cases isOther : other = target
      · rw [isOne, isOther]
      · rw [isOne, isNumber] at same
        exact absurd same.symm (fresh other connectedOther isOther)
    · by_cases isOther : other = target
      · rw [isOther, isNumber] at same
        exact absurd same (fresh one connectedOne isOne)
      · obtain ⟨beforeOne, unchangedOne⟩ := old one connectedOne isOne
        obtain ⟨beforeOther, unchangedOther⟩ := old other connectedOther isOther
        rw [unchangedOne, unchangedOther] at same
        exact sound.distinct one other beforeOne beforeOther same
  · intro other connected
    by_cases isTarget : other = target
    · rw [isTarget, isNumber]
      exact ⟨least, most⟩
    · obtain ⟨before, unchanged⟩ := old other connected isTarget
      rw [unchanged]
      exact sound.range other before

variable {call : Call}

theorem Does.sound (does : Does plugged driver host call after) (sound : Numbered plugged host)
    (notReopened : NotReopened host call) : Numbered plugged after := by
  cases does with
  | same same => exact same.numbered sound
  | opens willOpen isOpen fresh targets bus =>
    have none (target : Target) : ¬Connected after target := by
      rw [Connected, targets]
      exact notReopened willOpen target
    exact ⟨fun _ target _ connected => absurd connected (none target),
      fun one _ connected => absurd connected (none one),
      fun target connected => absurd connected (none target)⟩
  | closes isOpen isClosed fresh targets unplugged =>
    constructor
    · intro handle target isOpen
      rw [isClosed] at isOpen
      cases isOpen
    · simpa [Connected, serialNo, targets] using sound.distinct
    · simpa [Connected, serialNo, targets] using sound.range
  | plugsIn isTarget isOpen least most plugsIn => exact plugsIn.sound sound isOpen least most
  | @unplugs _ target handle isOpen connected frame unconnected unplugged =>
    have old (other : Target) (still : Connected after other) :
        other ≠ target ∧ Connected host other ∧ serialNo after other = serialNo host other := by
      have isOther : other ≠ target := fun same => unconnected (same ▸ still)
      exact ⟨isOther, (frame.connected_iff isOther).mp still, frame.serialNo_eq isOther⟩
    constructor
    · intro device other isOpen' still
      obtain ⟨isOther, before, unchanged⟩ := old other still
      rw [unplugged, unchanged]
      rw [frame.busDevice] at isOpen'
      refine ⟨sound.device device other isOpen' before, ?_⟩
      intro same
      exact isOther (sound.distinct other target before connected (congrArg Prod.snd same))
    · intro one other stillOne stillOther same
      obtain ⟨_, beforeOne, unchangedOne⟩ := old one stillOne
      obtain ⟨_, beforeOther, unchangedOther⟩ := old other stillOther
      rw [unchangedOne, unchangedOther] at same
      exact sound.distinct one other beforeOne beforeOther same
    · intro other still
      obtain ⟨_, before, unchanged⟩ := old other still
      rw [unchanged]
      exact sound.range other before

/-- A bus that was just opened has no devices yet. -/
theorem Does.notReopened (does : Does plugged driver host call after) (inv : Inv plugged host)
    (sound : Numbered plugged after) : NotReopened host call := by
  cases does with
  | @same call _ _ notOpened =>
    cases call with
    | connect interfaces => exact fun willOpen => absurd willOpen (notOpened interfaces rfl)
    | _ => trivial
  | opens willOpen isOpen fresh targets bus =>
    intro _ target connected
    obtain ⟨handle, isHandle⟩ := Option.ne_none_iff_exists'.mp isOpen
    have device := sound.device handle target isHandle (by rwa [Connected, targets])
    rw [bus] at device
    exact inv.unplugged_of_closed willOpen.isClosed _ device
  | closes | plugsIn | unplugs => trivial

theorem Does.inv (does : Does plugged driver host call after) (inv : Inv plugged host) :
    Inv plugged after := by
  cases does with
  | same same => exact same.inv inv
  | opens willOpen isOpen fresh targets bus =>
    constructor
    · intro device member
      rw [bus] at member
      exact absurd member (inv.unplugged_of_closed willOpen.isClosed device)
    · intro target isFresh
      rw [Connected, targets]
      exact inv.fresh target (Nat.le_trans fresh isFresh)
  | closes isOpen isClosed fresh targets unplugged =>
    constructor
    · intro device member
      rw [unplugged] at member
      have own := inv.own device member.1
      rw [isOpen] at own
      exact absurd (Option.some.inj own).symm member.2
    · rw [fresh]
      simpa [Connected, targets] using inv.fresh
  | @plugsIn _ target handle number isTarget isOpen least most plugsIn =>
    constructor
    · intro device member
      rw [plugsIn.frame.busDevice]
      rw [plugsIn.plugged] at member
      cases member with
      | inl isNew => rw [isNew, isOpen]
      | inr old => exact inv.own device old
    · intro other isFresh
      rw [plugsIn.frame.ledger] at isFresh
      have below := (List.getElem?_eq_some_iff.mp isTarget).1
      have isOther : other ≠ target := fun same => by
        rw [same] at isFresh
        exact absurd below (Nat.not_lt.mpr isFresh)
      rw [plugsIn.frame.connected_iff isOther]
      exact inv.fresh other isFresh
  | @unplugs _ target handle isOpen connected frame unconnected unplugged =>
    constructor
    · intro device member
      rw [unplugged] at member
      rw [frame.busDevice]
      exact inv.own device member.1
    · intro other isFresh
      rw [frame.ledger] at isFresh
      by_cases isTarget : other = target
      · exact isTarget ▸ unconnected
      · rw [frame.connected_iff isTarget]
        exact inv.fresh other isFresh

theorem Does.covered (does : Does plugged driver host call after) (inv : Inv plugged host)
    (covered : Covered plugged host) (notAbandoned : NotAbandoned driver host call) :
    Covered plugged after := by
  cases does with
  | same same => exact same.covered covered
  | opens willOpen isOpen fresh targets bus =>
    intro device member
    rw [bus] at member
    exact absurd member (inv.unplugged_of_closed willOpen.isClosed device)
  | closes isOpen isClosed fresh targets unplugged =>
    intro device member
    rw [unplugged] at member
    have own := inv.own device member.1
    rw [isOpen] at own
    exact absurd (Option.some.inj own).symm member.2
  | @plugsIn _ target handle number isTarget isOpen least most plugsIn =>
    have connected : Connected after target := by
      cases plugsIn.connects with
      | inl success => exact success.2
      | inr failure => exact absurd failure.1 notAbandoned
    intro device member
    rw [plugsIn.plugged] at member
    cases member with
    | inl isNew => exact ⟨target, connected, isNew ▸ plugsIn.number⟩
    | inr old =>
      obtain ⟨other, before, isNumber⟩ := covered device old
      have isOther : other ≠ target := fun same => plugsIn.unconnected (same ▸ before)
      exact ⟨other, (plugsIn.frame.connected_iff isOther).mpr before,
        (plugsIn.frame.serialNo_eq isOther).trans isNumber⟩
  | @unplugs _ target handle isOpen connected frame unconnected unplugged =>
    intro device member
    rw [unplugged] at member
    obtain ⟨other, before, isNumber⟩ := covered device member.1
    have isOther : other ≠ target := by
      intro same
      have own := inv.own device member.1
      rw [isOpen] at own
      apply member.2
      rw [same] at isNumber
      exact Prod.ext (Option.some.inj own).symm isNumber.symm
    exact ⟨other, (frame.connected_iff isOther).mpr before, (frame.serialNo_eq isOther).trans isNumber⟩

/-- A device whose wait failed stays plugged in, and is no target's. -/
theorem Does.notAbandoned (does : Does plugged driver host call after) (inv : Inv plugged host)
    (before : Numbered plugged host) (sound : Numbered plugged after) (covered : Covered plugged after) :
    NotAbandoned driver host call := by
  have notReopened := does.notReopened inv sound
  cases does with
  | @same call _ _ _ notAdded =>
    cases call with
    | add target => exact notAdded target rfl
    | _ => exact notReopened
  | @plugsIn _ target handle number isTarget isOpen least most plugsIn =>
    intro failed
    have member : (handle, number) ∈ plugged after.bus := by
      rw [plugsIn.plugged]
      exact Set.mem_insert _ _
    obtain ⟨other, connected, isNumber⟩ := covered _ member
    have isOther : other ≠ target := fun same =>
      plugsIn.unconnected_of_error failed (same ▸ connected)
    have device := before.device handle other isOpen
      ((plugsIn.frame.connected_iff isOther).mp connected)
    rw [← plugsIn.frame.serialNo_eq isOther, isNumber] at device
    exact plugsIn.unplugged handle device
  | opens | closes | unplugs => exact notReopened

theorem NotAbandoned.notReopened (notAbandoned : NotAbandoned driver host call) :
    NotReopened host call := by
  cases call with
  | add target => trivial
  | _ => exact notAbandoned

end Steps

theorem start_inv {bus : δ} (unplugged : plugged bus = ∅) : Inv plugged (start bus) := by
  constructor
  · intro device member
    rw [show (start bus).bus = bus from rfl, unplugged] at member
    cases member
  · intro target _ connected
    cases connected

theorem start_sound (bus : δ) : Numbered plugged (start bus) :=
  ⟨fun _ _ _ connected => absurd connected (by simp [start, emptyHost, Connected, vigemAlloc]),
    fun _ _ connected => absurd connected (by simp [start, emptyHost, Connected, vigemAlloc]),
    fun _ connected => absurd connected (by simp [start, emptyHost, Connected, vigemAlloc])⟩

/-- Whatever a process does with the library: its connected targets have numbers of their
own, with a device at each while a bus is open, until the bus is opened again while some
target is still marked as connected. -/
theorem numbers_sound_iff (lawful : Lawful driver plugged) (bus : δ) (unplugged : plugged bus = ∅)
    (calls : List Call) :
    Always (step driver) (fun _ _ after => Numbered plugged after) (start bus) calls ↔
      Always (step driver) (fun host call _ => NotReopened host call) (start bus) calls := by
  apply always_iff (fun host => Inv plugged host ∧ Numbered plugged host) _ _
    ⟨start_inv unplugged, start_sound bus⟩
  · intro host call after valid stepped
    have does := step_does lawful valid.1 stepped
    exact ⟨does.notReopened valid.1, does.sound valid.2⟩
  · intro host call after valid stepped sound
    exact ⟨(step_does lawful valid.1 stepped).inv valid.1, sound⟩

/-- One target is plugged in. -/
theorem numbers_sound_once :
    Always (step soleDriver) (fun _ _ after => Numbered (fun bus => {device | device ∈ bus}) after)
      (start []) [.connect [⟨true, true, true⟩], .x360Alloc true, .add 3] := by
  apply (numbers_sound_iff soleDriver_lawful [] (by simp) _).mpr
  intro _ stepped
  cases stepped
  refine ⟨fun _ target => by simp [start, emptyHost, Connected, vigemAlloc], ?_⟩
  intro _ stepped
  exact ⟨trivial, fun _ _ => ⟨trivial, trivial⟩⟩

theorem start_covered {bus : δ} (unplugged : plugged bus = ∅) : Covered plugged (start bus) := by
  intro device member
  rw [show (start bus).bus = bus from rfl, unplugged] at member
  cases member

/-- While a bus is open the devices of a process are those of its connected targets, until
the bus is opened again under some, or an add finds that its target is not plugged in:
what is meant to unplug a device whose wait failed is refused. -/
theorem devices_exact_iff (lawful : Lawful driver plugged) (bus : δ) (unplugged : plugged bus = ∅)
    (calls : List Call) :
    Always (step driver) (fun _ _ after => Numbered plugged after ∧ Covered plugged after) (start bus)
        calls ↔
      Always (step driver) (fun host call _ => NotAbandoned driver host call) (start bus) calls := by
  apply always_iff
    (fun host => Inv plugged host ∧ Numbered plugged host ∧ Covered plugged host) _ _
    ⟨start_inv unplugged, start_sound bus, start_covered unplugged⟩
  · intro host call after ⟨inv, sound, covered⟩ stepped
    have does := step_does lawful inv stepped
    constructor
    · intro ⟨soundAfter, coveredAfter⟩
      exact does.notAbandoned inv sound soundAfter coveredAfter
    · intro notAbandoned
      exact ⟨does.sound sound notAbandoned.notReopened, does.covered inv covered notAbandoned⟩
  · intro host call after ⟨inv, _, _⟩ stepped exact
    exact ⟨(step_does lawful inv stepped).inv inv, exact⟩

theorem devices_exact_once :
    Always (step soleDriver)
      (fun _ _ after => Numbered (fun bus => {device | device ∈ bus}) after ∧
        Covered (fun bus => {device | device ∈ bus}) after)
      (start []) [.connect [⟨true, true, true⟩], .x360Alloc true, .add 3] := by
  apply (devices_exact_iff soleDriver_lawful [] (by simp) _).mpr
  intro _ stepped
  cases stepped
  refine ⟨fun _ target => by simp [start, emptyHost, Connected, vigemAlloc], ?_⟩
  intro _ stepped
  cases stepped
  refine ⟨trivial, fun _ _ => ⟨?_, trivial⟩⟩
  show (vigemTargetAdd soleDriver (some 3) _).1 ≠ _
  decide

end WolfEngine.Verified.SerialNumbers
