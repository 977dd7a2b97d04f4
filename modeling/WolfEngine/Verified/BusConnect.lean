import WolfEngine.System.Os.Vigem

/-! # Which bus a client is left with

`vigem_connect` goes through the interfaces until one is usable or has no path.  A device
whose driver has another version stays open: the next one that is opened, or cannot be,
takes its place in the client, and the handle is lost.
-/

namespace WolfEngine.Verified.BusConnect

open WolfEngine.System.Os Custody

variable {δ : Type}

/-- A process that did nothing yet; memory that was never written is zero. -/
def emptyHost (bus : δ) : Host δ where
  ledger := .empty
  vigem := none
  targets := fun _ =>
    { serialNo := 0
      state := .new
      vendorId := 0
      productId := 0
      type := .xbox360Wired
      isWaitReadyUnsupported := false }
  bus := bus

/-- A client that was just allocated. -/
def start (bus : δ) : Host δ := vigemAlloc true (emptyHost bus)

def usable (interface : Interface) : Bool := interface.detail && interface.opens && interface.accepts

/-- The error after an interface. -/
def errorOf (interface : Interface) : VigemError :=
  if usable interface then .none
  else if interface.detail then
    if interface.opens then .busVersionMismatch else .busAccessFailed
  else .busNotFound

/-- The interfaces up to the first that is usable or has no path. -/
def tried : List Interface → List Interface
  | [] => []
  | interface :: interfaces =>
    if usable interface || !interface.detail then [interface] else interface :: tried interfaces

/-- The devices that are opened. -/
def opened (interfaces : List Interface) : Nat :=
  (tried interfaces).countP fun interface => interface.detail && interface.opens

/-- How often the device set is destroyed on the way. -/
def missing (interfaces : List Interface) : Nat :=
  (tried interfaces).countP fun interface => !interface.detail

/-- The handle the client is left with, where the next ones are `fresh` and so on. -/
def leftWith (handle : Option Handle) (fresh : Nat) : List Interface → Option Handle
  | [] => handle
  | interface :: interfaces =>
    if usable interface then some fresh
    else if interface.detail then
      if interface.opens then leftWith (some fresh) (fresh + 1) interfaces
      else leftWith none fresh interfaces
    else handle

/-! ## The loop -/

theorem tried_ne_nil_iff {interfaces : List Interface} : tried interfaces = [] ↔ interfaces = [] := by
  cases interfaces with
  | nil => simp [tried]
  | cons interface interfaces => simp [tried]; split <;> simp

theorem exists_usable_iff {interfaces : List Interface} :
    (∃ interface ∈ interfaces.takeWhile (·.detail), usable interface = true) ↔
      ∃ interface, (tried interfaces).getLast? = some interface ∧ usable interface = true := by
  induction interfaces with
  | nil => simp [tried]
  | cons interface interfaces ih =>
    cases detail : interface.detail with
    | false => simp [tried, usable, detail]
    | true =>
      rw [List.takeWhile_cons_of_pos detail]
      by_cases first : usable interface = true
      · simp [tried, first]
      · simp only [tried, first, detail, List.mem_cons, exists_eq_or_imp, ih]
        cases interfaces with
        | nil => simp [tried, first]
        | cons next interfaces =>
          have more : tried (next :: interfaces) ≠ [] := by simp [tried_ne_nil_iff]
          obtain ⟨head, rest, shape⟩ := List.exists_cons_of_ne_nil more
          simp [shape]

theorem last_error (interface : Interface) (interfaces : List Interface) (error : VigemError) :
    ((interface :: interfaces).getLast?.map errorOf).getD error =
      (interfaces.getLast?.map errorOf).getD (errorOf interface) := by
  rw [List.getLast?_cons]
  cases interfaces.getLast? with
  | none => rfl
  | some last => rfl

/-- All that the loop does. -/
structure Enumerates (set : Nat) (interfaces : List Interface) (host : Host δ) (vigem : Vigem)
    (error : VigemError) (done : VigemError × Host δ) : Prop where
  error : done.1 = ((tried interfaces).getLast?.map errorOf).getD error
  vigem : done.2.vigem =
    some { vigem with hBusDevice := leftWith vigem.hBusDevice host.ledger.fresh interfaces }
  acquired : done.2.ledger.acquired =
    host.ledger.acquired ++ List.replicate (opened interfaces) .busDevice
  released : done.2.ledger.released =
    host.ledger.released ++ List.replicate (missing interfaces) set
  targets : done.2.targets = host.targets
  bus : done.2.bus = host.bus

theorem enumerate_does (set : Nat) (interfaces : List Interface) (error : VigemError)
    (host : Host δ) (vigem : Vigem) (client : host.vigem = some vigem) :
    Enumerates set interfaces host vigem error (enumerate set interfaces error host) := by
  induction interfaces generalizing error host vigem with
  | nil =>
    constructor
    · rfl
    · exact client
    · simp [opened, tried, enumerate]
    · simp [missing, tried, enumerate]
    · rfl
    · rfl
  | cons interface interfaces ih =>
    obtain ⟨detail, opens, accepts⟩ := interface
    cases detail with
    | false =>
      constructor
      · simp [enumerate, tried, usable, errorOf]
      · simpa [enumerate, leftWith, usable] using client
      · simp [enumerate, opened, tried, usable, Ledger.release]
      · simp [enumerate, missing, tried, usable, Ledger.release]
      · simp [enumerate]
      · simp [enumerate]
    | true =>
      cases opens with
      | false =>
        have rest := ih .busAccessFailed (host.setBusDevice none)
          { vigem with hBusDevice := none } (by simp [Host.setBusDevice, client])
        constructor
        · simpa [enumerate, tried, usable, last_error, errorOf] using rest.error
        · simpa [enumerate, leftWith, usable] using rest.vigem
        · simpa [enumerate, opened, tried, usable] using rest.acquired
        · simpa [enumerate, missing, tried, usable] using rest.released
        · simpa [enumerate] using rest.targets
        · simpa [enumerate] using rest.bus
      | true =>
        cases accepts with
        | true =>
          constructor
          · simp [enumerate, tried, usable, errorOf]
          · simp [enumerate, leftWith, usable, Host.setBusDevice, client]
          · simp [enumerate, opened, tried, usable, Ledger.acquire]
          · simp [enumerate, missing, tried, usable, Ledger.acquire]
          · simp [enumerate]
          · simp [enumerate]
        | false =>
          have rest := ih .busVersionMismatch
            ((host.acquire .busDevice).setBusDevice (some host.ledger.fresh))
            { vigem with hBusDevice := some host.ledger.fresh }
            (by simp [Host.setBusDevice, client])
          constructor
          · simpa [enumerate, tried, usable, last_error, errorOf] using rest.error
          · simpa [enumerate, leftWith, usable, Ledger.acquire, Ledger.fresh] using rest.vigem
          · simpa [enumerate, opened, tried, usable, Ledger.acquire, List.replicate_succ] using rest.acquired
          · simpa [enumerate, missing, tried, usable, Ledger.acquire] using rest.released
          · simpa [enumerate] using rest.targets
          · simpa [enumerate] using rest.bus

/-! ## The call -/

/-- The last interface whose path was found, of those that were tried. -/
def lastFound (interfaces : List Interface) : Option Interface :=
  ((tried interfaces).filter (·.detail)).getLast?

theorem lastFound_cons (interface : Interface) (interfaces : List Interface) :
    lastFound (interface :: interfaces) =
      if usable interface then some interface
      else if interface.detail then some ((lastFound interfaces).getD interface)
      else none := by
  obtain ⟨detail, opens, accepts⟩ := interface
  cases detail with
  | false => simp [lastFound, tried, usable]
  | true =>
    by_cases isUsable : usable ⟨true, opens, accepts⟩ = true
    · simp [lastFound, tried, isUsable]
    · simp [lastFound, tried, isUsable, List.getLast?_cons]

/-- A device stays open if it was the last. -/
theorem leftWith_isSome (interfaces : List Interface) (handle : Option Handle) (fresh : Nat) :
    (leftWith handle fresh interfaces).isSome =
      ((lastFound interfaces).map (·.opens)).getD handle.isSome := by
  induction interfaces generalizing handle fresh with
  | nil => rfl
  | cons interface interfaces ih =>
    obtain ⟨detail, opens, accepts⟩ := interface
    cases detail with
    | false => simp [leftWith, lastFound_cons, usable]
    | true =>
      cases opens with
      | false => cases found : lastFound interfaces <;> simp [leftWith, lastFound_cons, usable, ih, found]
      | true =>
        cases accepts with
        | false => cases found : lastFound interfaces <;> simp [leftWith, lastFound_cons, usable, ih, found]
        | true => simp [leftWith, lastFound_cons, usable]

theorem connect_eq {host : Host δ} {object : Nat} (client : host.vigem = some ⟨object, none⟩)
    (interfaces : List Interface) :
    vigemConnect interfaces host =
      ((enumerate host.ledger.fresh interfaces .busNotFound (host.acquire .deviceInfoSet)).1,
        (enumerate host.ledger.fresh interfaces .busNotFound (host.acquire .deviceInfoSet)).2.release
          host.ledger.fresh) := by
  simp [vigemConnect, client]

theorem connect_none_iff (interfaces : List Interface) {host : Host δ} {object : Nat}
    (client : host.vigem = some ⟨object, none⟩) :
    (vigemConnect interfaces host).1 = .none ↔
      ∃ interface ∈ interfaces.takeWhile (·.detail), usable interface = true := by
  have does := enumerate_does host.ledger.fresh interfaces .busNotFound
    (host.acquire .deviceInfoSet) ⟨object, none⟩ client
  rw [connect_eq client, does.error, exists_usable_iff]
  cases last : (tried interfaces).getLast? with
  | none => simp
  | some interface =>
    simp only [Option.map_some, Option.getD_some, Option.some.injEq, exists_eq_left']
    unfold errorOf
    cases usable interface with
    | true => simp
    | false => cases interface.detail <;> cases interface.opens <;> simp

theorem connect_leaves_open_iff (interfaces : List Interface) {host : Host δ} {object : Nat}
    (client : host.vigem = some ⟨object, none⟩) :
    (vigemConnect interfaces host).2.busDevice ≠ none ↔
      ∃ interface, lastFound interfaces = some interface ∧ interface.opens = true := by
  have does := enumerate_does host.ledger.fresh interfaces .busNotFound
    (host.acquire .deviceInfoSet) ⟨object, none⟩ client
  rw [connect_eq client, ← Option.isSome_iff_ne_none, Host.busDevice, Host.release_vigem, does.vigem]
  simp only [Option.bind_some, leftWith_isSome]
  cases found : lastFound interfaces <;> simp

/-- A client connects if an interface before the first without a path is usable.  If none
is, it is left with an open bus all the same where the last device that was found has
another version. -/
theorem connect_open_iff (interfaces : List Interface) (host : Host δ) (object : Nat)
    (client : host.vigem = some ⟨object, none⟩) :
    ((vigemConnect interfaces host).1 = .none ↔
        ∃ interface ∈ interfaces.takeWhile (·.detail), usable interface = true) ∧
      ((vigemConnect interfaces host).2.busDevice ≠ none ↔
        ∃ interface, lastFound interfaces = some interface ∧ interface.opens = true) :=
  ⟨connect_none_iff interfaces client, connect_leaves_open_iff interfaces client⟩

/-- A device with another version, and it stays open. -/
theorem mismatch_open :
    ((vigemConnect [⟨true, true, false⟩] (start ())).1 = .none ↔
        ∃ interface ∈ [(⟨true, true, false⟩ : Interface)].takeWhile (·.detail),
          usable interface = true) ∧
      ((vigemConnect [⟨true, true, false⟩] (start ())).2.busDevice ≠ none ↔
        ∃ interface, lastFound [⟨true, true, false⟩] = some interface ∧ interface.opens = true) :=
  connect_open_iff [⟨true, true, false⟩] (start ()) 0 rfl

/-! ## Handles that are lost -/

/-- None is opened before another interface is tried. -/
def OpensLast (interfaces : List Interface) : Prop :=
  ∀ interface ∈ (tried interfaces).dropLast, interface.opens = false

theorem dropLast_cons_tried (interface : Interface) (interfaces : List Interface) :
    (interface :: tried interfaces).dropLast =
      if interfaces = [] then [] else interface :: (tried interfaces).dropLast := by
  cases interfaces with
  | nil => rfl
  | cons next interfaces =>
    have more : tried (next :: interfaces) ≠ [] := by simp [tried_ne_nil_iff]
    simp [List.dropLast_cons_of_ne_nil more]

theorem leftWith_bound {interfaces : List Interface} {handle : Option Handle} {fresh held : Nat}
    (left : leftWith handle fresh interfaces = some held) :
    handle = some held ∨ fresh ≤ held ∧ held < fresh + opened interfaces := by
  induction interfaces generalizing handle fresh with
  | nil => exact .inl left
  | cons interface interfaces ih =>
    obtain ⟨detail, opens, accepts⟩ := interface
    cases detail with
    | false => exact .inl (by simpa [leftWith, usable] using left)
    | true =>
      cases opens with
      | false =>
        have same : opened (⟨true, false, accepts⟩ :: interfaces) = opened interfaces := by
          simp [opened, tried, usable]
        rw [same]
        have rest : leftWith none fresh interfaces = some held := by
          simpa [leftWith, usable] using left
        cases ih rest with
        | inl none => cases none
        | inr within => exact .inr within
      | true =>
        cases accepts with
        | true =>
          have one : opened (⟨true, true, true⟩ :: interfaces) = 1 := by simp [opened, tried, usable]
          have isHeld : fresh = held := by simpa [leftWith, usable] using left
          exact .inr ⟨Nat.le_of_eq isHeld, by omega⟩
        | false =>
          have more : opened (⟨true, true, false⟩ :: interfaces) = opened interfaces + 1 := by
            simp [opened, tried, usable]
          have rest : leftWith (some fresh) (fresh + 1) interfaces = some held := by
            simpa [leftWith, usable] using left
          cases ih rest with
          | inl same =>
            cases same
            exact .inr ⟨Nat.le_refl _, by omega⟩
          | inr within => exact .inr ⟨by omega, by omega⟩

/-- A handle is given up as soon as another interface is found. -/
theorem leftWith_ne {interface : Interface} {interfaces : List Interface}
    (found : interface.detail = true) (fresh : Nat) :
    leftWith (some fresh) (fresh + 1) (interface :: interfaces) ≠ some fresh := by
  intro left
  simp only [leftWith, found, if_true] at left
  split at left
  next => cases left
  split at left
  next =>
    cases leftWith_bound left with
    | inl same => cases same
    | inr within => omega
  next =>
    cases leftWith_bound left with
    | inl none => cases none
    | inr within => omega

/-- The client holds all that it opened exactly if nothing is tried behind an open device. -/
theorem holds_opened_iff {interfaces : List Interface}
    (found : ∀ interface ∈ tried interfaces, interface.detail = true) (fresh : Nat) :
    (∀ k < opened interfaces, leftWith none fresh interfaces = some (fresh + k)) ↔
      OpensLast interfaces := by
  induction interfaces with
  | nil => simp [opened, OpensLast, tried]
  | cons interface interfaces ih =>
    have detail : interface.detail = true := found interface (by simp [tried]; split <;> simp)
    cases isUsable : usable interface with
    | true =>
      simp only [usable, Bool.and_eq_true] at isUsable
      simp [opened, OpensLast, tried, leftWith, usable, isUsable]
    | false =>
      have rest : ∀ other ∈ tried interfaces, other.detail = true := by
        intro other member
        exact found other (by simp [tried, isUsable, detail, member])
      cases opens : interface.opens with
      | false =>
        have same : OpensLast (interface :: interfaces) ↔ OpensLast interfaces := by
          simp only [OpensLast, tried, isUsable, detail, Bool.not_true, Bool.or_self,
            Bool.false_eq_true, if_false, dropLast_cons_tried]
          cases interfaces with
          | nil => simp [tried]
          | cons next interfaces => simp [opens]
        rw [same, ← ih rest]
        simp [opened, tried, leftWith, isUsable, detail, opens]
      | true =>
        have more : opened (interface :: interfaces) = opened interfaces + 1 := by
          simp [opened, tried, isUsable, detail, opens]
        have left : leftWith none fresh (interface :: interfaces) =
            leftWith (some fresh) (fresh + 1) interfaces := by
          simp [leftWith, isUsable, detail, opens]
        rw [more, left]
        cases interfaces with
        | nil => simp [opened, OpensLast, tried, leftWith, isUsable]
        | cons next interfaces =>
          have nextFound : next.detail = true := rest next (by simp [tried]; split <;> simp)
          constructor
          · intro holds
            exact absurd (holds 0 (by omega)) (leftWith_ne nextFound fresh)
          · intro last
            have isTried : tried (interface :: next :: interfaces) =
                interface :: tried (next :: interfaces) := by
              rw [tried, isUsable, detail]
              rfl
            have isNot := last interface (by rw [isTried, dropLast_cons_tried]; simp)
            rw [opens] at isNot
            cases isNot

end WolfEngine.Verified.BusConnect
