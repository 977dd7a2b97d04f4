import WolfEngine.Library.Transitions
import WolfEngine.System.Os.VigemClient

/-! # What a virtual gamepad receives

The client copies the whole state that it is given to where the gamepad part of its own
state starts, so that a report starts with the packet number.  A report is the input
exactly when the two agree on what is shifted, and a state is never cleared without an
error.
-/

namespace WolfEngine.Verified.Gamepads

open WolfEngine.System.Os LittleEndian MachineInt Transitions

/-! ## Reports -/

/-- The report that a gamepad's input should become. -/
def reportOf (gamepad : XinputGamepadShared) : XusbReport where
  wButtons := gamepad.wButtons
  bLeftTrigger := gamepad.bLeftTrigger
  bRightTrigger := gamepad.bRightTrigger
  sThumbLX := gamepad.sThumbLX
  sThumbLY := gamepad.sThumbLY
  sThumbRX := gamepad.sThumbRX
  sThumbRY := gamepad.sThumbRY

def zeroReport : XusbReport where
  wButtons := 0
  bLeftTrigger := 0
  bRightTrigger := 0
  sThumbLX := 0
  sThumbLY := 0
  sThumbRX := 0
  sThumbRY := 0

/-- Shifting the input by the packet number's four bytes changes nothing in it. -/
structure Matches (input : XinputStateShared) : Prop where
  packetNumber : input.dwPacketNumber.toNat = input.gamepad.wButtons.toNat +
    65536 * (input.gamepad.bLeftTrigger.toNat + 256 * input.gamepad.bRightTrigger.toNat)
  leftX : input.gamepad.sThumbLX = input.gamepad.wButtons.toInt16
  leftY : input.gamepad.sThumbLY.toUInt16.toNat =
    input.gamepad.bLeftTrigger.toNat + 256 * input.gamepad.bRightTrigger.toNat
  rightX : input.gamepad.sThumbRX = input.gamepad.sThumbLX
  rightY : input.gamepad.sThumbRY = input.gamepad.sThumbLY

theorem word_of_encode (value : Nat) :
    UInt16.ofNat (decode (encode 2 value)) = UInt16.ofNat value := by
  apply UInt16.toNat_inj.mp
  rw [decode_encode, UInt16.toNat_ofNat', UInt16.toNat_ofNat']
  exact Nat.mod_mod value _

/-- A report that is laid out in memory. -/
theorem at_zero (buttons leftX leftY rightX rightY : Nat) (left right : UInt8)
    (rest : List UInt8) :
    XusbReport.at (encode 2 buttons ++ ([left] ++ ([right] ++ (encode 2 leftX ++
      (encode 2 leftY ++ (encode 2 rightX ++ (encode 2 rightY ++ rest))))))) 0 =
      { wButtons := UInt16.ofNat buttons
        bLeftTrigger := left
        bRightTrigger := right
        sThumbLX := (UInt16.ofNat leftX).toInt16
        sThumbLY := (UInt16.ofNat leftY).toInt16
        sThumbRX := (UInt16.ofNat rightX).toInt16
        sThumbRY := (UInt16.ofNat rightY).toInt16 } := by
  rw [← word_of_encode buttons, ← word_of_encode leftX, ← word_of_encode leftY,
    ← word_of_encode rightX, ← word_of_encode rightY]
  rfl

theorem at_eq_drop (memory : List UInt8) (offset : Nat) :
    XusbReport.at memory offset = XusbReport.at (memory.drop offset) 0 := by
  simp [XusbReport.at, wordAt, List.getD]

/-- What was on the stack is overwritten. -/
theorem sentState_eq (stack : Nat → UInt8) (input : XinputStateShared) :
    VigemClient.sentState stack input = encode 4 input.dwPacketNumber.toNat ++ input.bytes := by
  rfl

/-- What is sent starts with the packet number, and the right thumb with the left one. -/
theorem sent_report (stack : Nat → UInt8) (input : XinputStateShared) :
    XusbReport.at (VigemClient.sentState stack input) offsetofGamepad =
      { wButtons := UInt16.ofNat input.dwPacketNumber.toNat
        bLeftTrigger := UInt8.ofNat (input.dwPacketNumber.toNat / 65536)
        bRightTrigger := UInt8.ofNat (input.dwPacketNumber.toNat / 16777216)
        sThumbLX := input.gamepad.wButtons.toInt16
        sThumbLY := (UInt16.ofNat (input.gamepad.bLeftTrigger.toNat +
          256 * input.gamepad.bRightTrigger.toNat)).toInt16
        sThumbRX := input.gamepad.sThumbLX
        sThumbRY := input.gamepad.sThumbLY } := by
  have packetNumber : encode 4 input.dwPacketNumber.toNat =
      encode 2 input.dwPacketNumber.toNat ++
        ([UInt8.ofNat (input.dwPacketNumber.toNat / 65536)] ++
          [UInt8.ofNat (input.dwPacketNumber.toNat / 16777216)]) := by
    have highest : input.dwPacketNumber.toNat / 16777216 =
        input.dwPacketNumber.toNat / 65536 / 256 := (Nat.div_div_eq_div_mul _ 65536 256).symm
    rw [highest]
    exact encode_add 2 2 _
  have triggers : [input.gamepad.bLeftTrigger, input.gamepad.bRightTrigger] =
      encode 2 (input.gamepad.bLeftTrigger.toNat + 256 * input.gamepad.bRightTrigger.toNat) := by
    simpa using (encode_decode [input.gamepad.bLeftTrigger, input.gamepad.bRightTrigger]).symm
  have behindNumber : (VigemClient.sentState stack input).drop offsetofGamepad = input.bytes := by
    rw [sentState_eq]
    exact List.drop_left' (encode_length 4 _)
  rw [at_eq_drop, behindNumber, XinputStateShared.bytes, XinputGamepadShared.bytes, packetNumber,
    triggers]
  simp only [List.append_assoc, at_zero]
  simp

theorem ofNat_eq_iff {word : UInt16} {value : Nat} :
    UInt16.ofNat value = word ↔ value % 65536 = word.toNat := by
  rw [← UInt16.toNat_inj, UInt16.toNat_ofNat']

theorem byte_eq_iff {byte : UInt8} {value : Nat} :
    UInt8.ofNat value = byte ↔ value % 256 = byte.toNat := by
  rw [← UInt8.toNat_inj, UInt8.toNat_ofNat']

theorem toInt16_eq_iff {word : UInt16} {axis : Int16} : word.toInt16 = axis ↔ word = axis.toUInt16 := by
  constructor
  · intro same
    rw [← same, UInt16.toUInt16_toInt16]
  · intro same
    rw [same, Int16.toInt16_toUInt16]

/-- What is sent is the input where the input matches itself, shifted. -/
theorem sent_eq_iff (stack : Nat → UInt8) (input : XinputStateShared) :
    XusbReport.at (VigemClient.sentState stack input) offsetofGamepad = reportOf input.gamepad ↔
      Matches input := by
  have left := input.gamepad.bLeftTrigger.toNat_lt
  have right := input.gamepad.bRightTrigger.toNat_lt
  have buttons := input.gamepad.wButtons.toNat_lt
  have number := input.dwPacketNumber.toNat_lt
  rw [sent_report, reportOf]
  simp only [XusbReport.mk.injEq, byte_eq_iff, toInt16_eq_iff, ofNat_eq_iff]
  constructor
  · intro ⟨low, middle, high, leftX, leftY, rightX, rightY⟩
    constructor
    case packetNumber => omega
    case leftX => exact (toInt16_eq_iff.mpr leftX).symm
    case leftY => omega
    case rightX => exact rightX.symm
    case rightY => exact rightY.symm
  · intro same
    have packetNumber := same.packetNumber
    have leftY := same.leftY
    refine ⟨by omega, by omega, by omega, toInt16_eq_iff.mp same.leftX.symm, by omega, ?_, ?_⟩
    · exact same.rightX.symm
    · exact same.rightY.symm

/-! ## Sessions -/

/-- The calls of a client's methods, with the answers of the bus. -/
inductive Action where
  | add (gameType : GamepadType) (handler : Option Target) (pair : Int32)
  | send (gamePadIndex : UInt32) (pXInput : XinputStateShared) (stack : Nat → UInt8)
  | clear (pGamePadIndex : Int32)
  | reset

/-- A client, and the index that every successful `add` returned with the target it is of. -/
structure Session where
  client : VigemClient
  added : List (Int × Target)

/-- A session before its first call. -/
def Session.start (alloc : Bool) (connect : Int32) : Session :=
  { client := VigemClient.new alloc connect, added := [] }

/-- What an `add` is remembered for, which returns -1 on error. -/
def remembered (handler : Option Target) (index : Int) : List (Int × Target) :=
  if index = -1 then [] else handler.toList.map fun target => (index, target)

def Session.step (session : Session) : Action → Option Session
  | .add gameType handler pair =>
    let done := session.client.addGamepadController gameType handler pair
    some { client := done.client, added := session.added ++ remembered handler done.result }
  | .send gamePadIndex pXInput stack =>
    some { session with client := (session.client.sendXbox360Input gamePadIndex pXInput stack).client }
  | .clear pGamePadIndex =>
    some { session with client := (session.client.clearGamepadState pGamePadIndex).client }
  | .reset => some { session with client := session.client.resetDriver.client }

/-- The index is that of the target. -/
def Designates (client : VigemClient) (index : Int) (target : Target) : Prop :=
  0 ≤ index ∧ client.gamepads[index.toNat]? = some target

/-- A call with an index succeeds exactly when there is such a gamepad, and then makes one
call of the bus, with a report for its target. -/
structure Answered (client : VigemClient) (index : UInt32) (report : XusbReport) (done : Done Bool) :
    Prop where
  result : done.result = true ↔ index < client.getNumberOfGamepads
  calls : done.calls = client.gamepads[index.toNat]?.toList.map (.x360Update · report)

def ReportsInput (client : VigemClient) : Action → Prop
  | .send gamePadIndex pXInput stack =>
    Answered client gamePadIndex (reportOf pXInput.gamepad)
      (client.sendXbox360Input gamePadIndex pXInput stack)
  | .clear pGamePadIndex =>
    Answered client pGamePadIndex.toUInt32 zeroReport (client.clearGamepadState pGamePadIndex)
  | _ => True

structure Right (before : Session) (action : Action) (after : Session) : Prop where
  designates : ∀ index target, (index, target) ∈ after.added → Designates after.client index target
  number : after.client.getNumberOfGamepads.toNat = after.added.length
  reports : ReportsInput before.client action

/-- What a call needs for that. -/
def Fine (session : Session) : Action → Prop
  | .add _ handler pair =>
    session.client.driverHandler = true → handler ≠ none → vigemSuccess pair = true →
      session.client.gamepads.length < 2 ^ 31
  | .send gamePadIndex pXInput _ =>
    gamePadIndex.toNat < session.client.gamepads.length → Matches pXInput
  | .clear pGamePadIndex => session.client.gamepads.length ≤ pGamePadIndex.toUInt32.toNat
  | .reset => True

structure Valid (session : Session) : Prop where
  designates : ∀ index target, (index, target) ∈ session.added →
    Designates session.client index target
  number : session.client.gamepads.length = session.added.length
  bound : session.client.gamepads.length ≤ 2 ^ 31

/-! ## What one call does -/

section Calls

variable {session : Session}

theorem number_of_bound {client : VigemClient} (bound : client.gamepads.length < 2 ^ 32) :
    client.getNumberOfGamepads.toNat = client.gamepads.length := by
  rw [VigemClient.getNumberOfGamepads, UInt32.toNat_ofNat', Nat.mod_eq_of_lt bound]

theorem Valid.below_iff (valid : Valid session) (index : UInt32) :
    index < session.client.getNumberOfGamepads ↔ index.toNat < session.client.gamepads.length := by
  have bound := valid.bound
  rw [UInt32.lt_iff_toNat_lt, number_of_bound (by omega)]

/-- A call that leaves the gamepads alone keeps every index. -/
theorem Valid.keeps (valid : Valid session) {client : VigemClient}
    (gamepads : client.gamepads = session.client.gamepads) :
    Valid { session with client } := by
  constructor
  · intro index target member
    show 0 ≤ index ∧ client.gamepads[index.toNat]? = some target
    rw [gamepads]
    exact valid.designates index target member
  · rw [gamepads]
    exact valid.number
  · rw [gamepads]
    exact valid.bound

/-- Where the session stays valid, a step is right if its reports are. -/
theorem right_iff_reports (session : Session) {next : Session} (action : Action)
    (valid : Valid next) :
    Right session action next ↔ ReportsInput session.client action := by
  constructor
  · exact fun right => right.reports
  · intro reports
    have bound := valid.bound
    exact ⟨valid.designates, (number_of_bound (by omega)).trans valid.number, reports⟩

theorem answered_send_iff (valid : Valid session) (index : UInt32) (input : XinputStateShared)
    (stack : Nat → UInt8) :
    Answered session.client index (reportOf input.gamepad)
        (session.client.sendXbox360Input index input stack) ↔
      (index.toNat < session.client.gamepads.length → Matches input) := by
  unfold VigemClient.sendXbox360Input
  cases found : session.client.gamepads[index.toNat]? with
  | none =>
    have beyond := List.getElem?_eq_none_iff.mp found
    constructor
    · intro _ below
      omega
    · intro _
      constructor
      · rw [valid.below_iff]
        simpa using beyond
      · simp [found]
  | some target =>
    obtain ⟨below, _⟩ := List.getElem?_eq_some_iff.mp found
    rw [← sent_eq_iff stack]
    constructor
    · intro answered _
      simpa [found] using answered.calls
    · intro same
      constructor
      · rw [valid.below_iff]
        simpa using below
      · simp [found, same below]

/-- A clear that has a gamepad makes the right call; only its answer is wrong. -/
theorem clear_calls (client : VigemClient) (index : Int32) :
    (client.clearGamepadState index).calls =
      client.gamepads[index.toUInt32.toNat]?.toList.map (.x360Update · zeroReport) := by
  cases found : client.gamepads[index.toUInt32.toNat]? with
  | none => simp [VigemClient.clearGamepadState, found]
  | some target =>
    simp only [VigemClient.clearGamepadState, found]
    rfl

theorem answered_clear_iff (valid : Valid session) (index : Int32) :
    Answered session.client index.toUInt32 zeroReport (session.client.clearGamepadState index) ↔
      session.client.gamepads.length ≤ index.toUInt32.toNat := by
  have fails : (session.client.clearGamepadState index).result = false := rfl
  constructor
  · intro answered
    have refused := answered.result
    rw [fails, valid.below_iff] at refused
    simpa using refused
  · intro beyond
    constructor
    · rw [fails, valid.below_iff]
      simpa using beyond
    · exact clear_calls session.client index

/-- An `add` either appends the new target, or returns -1. -/
theorem add_cases (client : VigemClient) (gameType : GamepadType) (handler : Option Target)
    (pair : Int32) :
    (∃ target, client.driverHandler = true ∧ handler = some target ∧ vigemSuccess pair = true ∧
        (client.addGamepadController gameType handler pair).result =
          i32.wrap client.gamepads.length ∧
        (client.addGamepadController gameType handler pair).client =
          { client with gamepads := client.gamepads ++ [target] }) ∨
      ¬(client.driverHandler = true ∧ handler ≠ none ∧ vigemSuccess pair = true) ∧
        (client.addGamepadController gameType handler pair).result = -1 ∧
        (client.addGamepadController gameType handler pair).client.gamepads = client.gamepads := by
  unfold VigemClient.addGamepadController
  cases driver : client.driverHandler with
  | false => right; simp
  | true =>
    cases handler with
    | none => right; simp
    | some target =>
      cases paired : vigemSuccess pair with
      | false => right; simp
      | true => left; exact ⟨target, rfl, rfl, rfl, by simp, by simp⟩

/-- Every index designates its target after one more is appended, and so does the new one
if it is not too large. -/
theorem Valid.append (valid : Valid session) (target : Target)
    (below : session.client.gamepads.length < 2 ^ 31) :
    Valid
      { client := { session.client with gamepads := session.client.gamepads ++ [target] }
        added := session.added ++ [((session.client.gamepads.length : Int), target)] } := by
  constructor
  · intro index other member
    cases List.mem_append.mp member with
    | inl before =>
      obtain ⟨nonnegative, found⟩ := valid.designates index other before
      exact ⟨nonnegative, List.getElem?_append_left (List.getElem?_eq_some_iff.mp found).1 ▸ found⟩
    | inr new =>
      cases List.mem_singleton.mp new
      exact ⟨by omega, by simp⟩
  · simp [valid.number]
  · rw [List.length_append, List.length_singleton]
    omega

theorem remembered_of_ne {index : Int} (target : Target) (notError : index ≠ -1) :
    remembered (some target) index = [(index, target)] := by
  simp [remembered, notError]

/-- The index of one gamepad too many is negative, and designates nothing. -/
theorem not_right_of_many (valid : Valid session)
    (many : ¬session.client.gamepads.length < 2 ^ 31) {action : Action} {next : Session}
    {target : Target}
    (added : next.added = session.added ++
      remembered (some target) (i32.wrap session.client.gamepads.length)) :
    ¬Right session action next := by
  intro right
  have bound := valid.bound
  have index : i32.wrap session.client.gamepads.length = -2 ^ 31 := by
    rw [wrap_i32]
    omega
  rw [index, remembered_of_ne target (by omega)] at added
  have designated := right.designates (-2 ^ 31) target (by simp [added])
  exact absurd designated.1 (by omega)

theorem add_right (valid : Valid session) {next : Session} {gameType : GamepadType}
    {handler : Option Target} {pair : Int32}
    (stepped : session.step (.add gameType handler pair) = some next) :
    (Right session (.add gameType handler pair) next ↔ Fine session (.add gameType handler pair)) ∧
      (Fine session (.add gameType handler pair) → Valid next) := by
  have isNext : Session.mk (session.client.addGamepadController gameType handler pair).client
      (session.added ++ remembered handler
        (session.client.addGamepadController gameType handler pair).result) = next :=
    Option.some.inj stepped
  cases add_cases session.client gameType handler pair with
  | inl accepted =>
    obtain ⟨target, driver, rfl, paired, result, client⟩ := accepted
    have isFine : Fine session (.add gameType (some target) pair) ↔
        session.client.gamepads.length < 2 ^ 31 := by
      simp [Fine, driver, paired]
    rw [result, client] at isNext
    rw [isFine]
    by_cases below : session.client.gamepads.length < 2 ^ 31
    · have index : i32.wrap session.client.gamepads.length = session.client.gamepads.length :=
        wrap_i32_eq_iff.mpr (by omega)
      rw [index, remembered_of_ne target (by omega)] at isNext
      have nextValid : Valid next := isNext ▸ valid.append target below
      have reports := right_iff_reports session (.add gameType (some target) pair) nextValid
      exact ⟨⟨fun _ => below, fun _ => reports.mpr trivial⟩, fun _ => nextValid⟩
    · have wrong : ¬Right session (.add gameType (some target) pair) next :=
        not_right_of_many valid below (by rw [← isNext])
      exact ⟨⟨fun right => absurd right wrong, fun fits => absurd fits below⟩,
        fun fits => absurd fits below⟩
  | inr failed =>
    obtain ⟨notAccepted, result, gamepads⟩ := failed
    have none : remembered handler (-1) = [] := if_pos rfl
    rw [result, none, List.append_nil] at isNext
    have nextValid : Valid next := isNext ▸ valid.keeps gamepads
    have isFine : Fine session (.add gameType handler pair) := by
      intro driver allocated paired
      exact absurd ⟨driver, allocated, paired⟩ notAccepted
    have reports := right_iff_reports session (.add gameType handler pair) nextValid
    exact ⟨⟨fun _ => isFine, fun _ => reports.mpr trivial⟩, fun _ => nextValid⟩

theorem send_gamepads (client : VigemClient) (index : UInt32) (input : XinputStateShared)
    (stack : Nat → UInt8) :
    (client.sendXbox360Input index input stack).client.gamepads = client.gamepads := by
  unfold VigemClient.sendXbox360Input
  cases client.gamepads[index.toNat]? with
  | none => rfl
  | some target => rfl

theorem reset_gamepads (client : VigemClient) :
    client.resetDriver.client.gamepads = client.gamepads := by
  unfold VigemClient.resetDriver
  cases client.driverHandler with
  | false => rfl
  | true => rfl

theorem step_right (valid : Valid session) {next : Session} {action : Action}
    (stepped : session.step action = some next) :
    (Right session action next ↔ Fine session action) ∧ (Fine session action → Valid next) := by
  cases action with
  | add gameType handler pair => exact add_right valid stepped
  | send gamePadIndex pXInput stack =>
    have nextValid : Valid next :=
      Option.some.inj stepped ▸ valid.keeps (send_gamepads session.client gamePadIndex pXInput stack)
    have answered := answered_send_iff valid gamePadIndex pXInput stack
    exact ⟨(right_iff_reports session _ nextValid).trans answered, fun _ => nextValid⟩
  | clear pGamePadIndex =>
    have nextValid : Valid next := Option.some.inj stepped ▸ valid.keeps rfl
    have answered := answered_clear_iff valid pGamePadIndex
    exact ⟨(right_iff_reports session _ nextValid).trans answered, fun _ => nextValid⟩
  | reset =>
    have nextValid : Valid next := Option.some.inj stepped ▸ valid.keeps (reset_gamepads session.client)
    exact ⟨right_iff_reports session _ nextValid, fun _ => nextValid⟩

end Calls

/-! ## Runs -/

theorem start_valid (alloc : Bool) (connect : Int32) : Valid (Session.start alloc connect) := by
  have gamepads : (VigemClient.new alloc connect).gamepads = [] := by
    unfold VigemClient.new
    cases alloc with
    | false => rfl
    | true => cases vigemSuccess connect <;> rfl
  constructor
  · intro index target member
    cases member
  · exact congrArg List.length gamepads
  · show (VigemClient.new alloc connect).gamepads.length ≤ 2 ^ 31
    simp [gamepads]

/-- However a client is made and used: every call keeps the indices and reports what it is
given exactly when there are not too many gamepads, no state that is sent differs from
itself shifted, and no gamepad is cleared. -/
theorem gamepads_right_iff (alloc : Bool) (connect : Int32) (actions : List Action) :
    Always Session.step Right (Session.start alloc connect) actions ↔
      Always Session.step (fun session action _ => Fine session action)
        (Session.start alloc connect) actions := by
  apply always_iff Valid _ _ (start_valid alloc connect)
  · intro session action next valid stepped
    exact (step_right valid stepped).1
  · intro session action next valid stepped right
    have fine := (step_right valid stepped).1.mp right
    exact (step_right valid stepped).2 fine

/-- Only the packet number is set, and it is pressed as buttons.  A clear of the same
gamepad says that there is none. -/
theorem packet_number_pressed :
    ¬Always Session.step Right (Session.start true 0x20000000)
        [.add .xbox360 (some 1) 0x20000000, .send 0 ⟨7, ⟨0, 0, 0, 0, 0, 0, 0⟩⟩ fun _ => 0] ∧
      ¬Always Session.step Right (Session.start true 0x20000000)
        [.add .xbox360 (some 1) 0x20000000, .clear 0] := by
  constructor
  · intro always
    obtain ⟨_, always⟩ := always _ rfl
    obtain ⟨right, _⟩ := always _ rfl
    have sent := right.reports.calls
    revert sent
    decide
  · intro always
    obtain ⟨_, always⟩ := always _ rfl
    obtain ⟨right, _⟩ := always _ rfl
    have cleared := right.reports.result
    revert cleared
    decide

end WolfEngine.Verified.Gamepads
