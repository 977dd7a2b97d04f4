import Mathlib.Order.Bounds.Basic
import WolfEngine.Verified.BusConnect
import WolfEngine.Verified.SerialNumbers.Calls

/-! # Which number an add takes

The loop of `vigem_target_add` is a search for the first number that the driver grants.
-/

namespace WolfEngine.Verified.SerialNumbers

open WolfEngine.System.Os WolfEngine.Verified.BusConnect Custody

variable {δ : Type} {driver : BusDriver δ}

/-- The driver grants exactly the numbers that are free, and nobody else plugs in or out
while it refuses one. -/
structure Grants (driver : BusDriver δ) (free : δ → Nat → Prop) : Prop where
  refuses_iff : ∀ handle serialNo type vendorId productId bus,
    (∃ error after, driver.deviceIoControl handle
        (.pluginTarget serialNo type vendorId productId) bus = (.error error, after)) ↔
      ¬free bus serialNo
  keeps : ∀ {handle serialNo type vendorId productId bus error after},
    driver.deviceIoControl handle (.pluginTarget serialNo type vendorId productId) bus =
        (.error error, after) →
      ∀ other, free after other ↔ free bus other

theorem Tries.refused_iff {handle : Handle} {target : Target} {number : Nat} {host : Host δ}
    {done : Option VigemError × Host δ} (tries : Tries driver handle target number host done) :
    done.1 = none ↔ ∃ error after, driver.deviceIoControl handle
      (.pluginTarget number (host.targets target).type (host.targets target).vendorId
        (host.targets target).productId) host.bus = (.error error, after) := by
  cases tries with
  | @refused error bus asked => simp [asked]
  | granted asked => simp [asked]

section Least

variable {free : δ → Nat → Prop} {host : Host δ} {handle : Handle} {target : Target}

/-- The add is past its checks. -/
structure Ready (handle : Handle) (target : Target) (host : Host δ) : Prop where
  isOpen : host.busDevice = some handle
  initialized : (host.targets target).state ≠ .new
  unconnected : ¬Connected host target

theorem Ready.tries (driver : BusDriver δ) (ready : Ready handle target host) (number : Nat) :
    Tries driver handle target number host (plugIn driver handle target number host) :=
  plugIn_tries driver ready.isOpen ready.initialized ready.unconnected number

theorem Ready.decides (grants : Grants driver free) :
    FirstFit.Decides (plugIn driver handle target) (Ready handle target)
      fun host number => free host.bus number where
  refused_iff number host ready := by
    rw [(ready.tries driver number).refused_iff]
    exact grants.refuses_iff handle number _ _ _ host.bus
  keeps number host after ready refused := by
    have tries := ready.tries driver number
    rw [refused] at tries
    cases tries with
    | @refused error bus asked =>
      have frame := frame_setTarget target { host.targets target with serialNo := number } host bus
      refine ⟨⟨frame.busDevice.trans ready.isOpen, ?_, ?_⟩, grants.keeps asked⟩
      · simpa using ready.initialized
      · simpa [Connected] using ready.unconnected

/-- An add plugs its target in at the least free number, and finds no slot exactly when all
65535 are taken. -/
theorem add_takes_least (grants : Grants driver free) (ready : Ready handle target host) :
    (∀ number, (vigemTargetAdd driver (some target) host).1 ≠ .noFreeSlot ∧
        serialNo (vigemTargetAdd driver (some target) host).2 target = number ↔
      IsLeast (FirstFit.among vigemTargetsMax 1 (free host.bus)) number) ∧
      ((vigemTargetAdd driver (some target) host).1 = .noFreeSlot ↔
        FirstFit.among vigemTargetsMax 1 (free host.bus) = ∅) := by
  have notConnected : (host.targets target).state ≠ .connected := ready.unconnected
  rw [vigemTargetAdd, checked_open ready.isOpen]
  simp only [ready.initialized, notConnected, if_false]
  have searched := (Ready.decides grants).search_cases vigemTargetsMax 1 ready
  cases ended : FirstFit.search (plugIn driver handle target) vigemTargetsMax 1 host with
  | mk result after =>
    rw [ended] at searched
    cases searched with
    | inl found =>
      obtain ⟨slot, error, before, least, readyThen, taken, answer⟩ := found
      simp only at answer taken
      rw [answer]
      have tries := readyThen.tries driver slot
      rw [taken] at tries
      cases tries with
      | @granted output middle waited bus error value _ _ isNumber connects =>
        have notFull : error ≠ .noFreeSlot := by
          cases connects with
          | inl success => simp [success.1]
          | inr failure => simp [failure.1]
        have isSlot : serialNo { before.setTarget target value with bus } target = slot := by
          simpa [serialNo] using isNumber
        constructor
        · intro number
          simp only [isSlot]
          constructor
          · intro ⟨_, same⟩
            exact same ▸ least
          · intro other
            exact ⟨notFull, least.unique other⟩
        · constructor
          · intro full
            exact absurd full notFull
          · intro empty
            exact absurd (empty ▸ least.1) (Set.notMem_empty slot)
    | inr none =>
      obtain ⟨empty, answer⟩ := none
      simp only at answer
      rw [answer, empty]
      simp [IsLeast]

end Least

theorem soleDriver_grants :
    Grants soleDriver fun bus number => bus.any (·.2 = number) = false where
  refuses_iff handle number type vendorId productId bus := by
    simp only [soleDriver]
    split <;> simp_all
  keeps {handle number type vendorId productId bus error after} asked other := by
    simp only [soleDriver] at asked
    split at asked <;> cases asked
    rfl

/-- Another process has the number 1. -/
theorem add_takes_second :
    serialNo (vigemTargetAdd soleDriver (some 3)
      ((vigemTargetX360Alloc true (vigemConnect [⟨true, true, true⟩] (start [(9, 1)])).2).2)).2 3 = 2 := by
  have ready : Ready 2 3
      (vigemTargetX360Alloc true (vigemConnect [⟨true, true, true⟩] (start [(9, 1)])).2).2 :=
    ⟨rfl, by decide, by simp [Connected]; decide⟩
  apply ((add_takes_least soleDriver_grants ready).1 2 |>.mpr ?_).2
  constructor
  · exact ⟨by decide, by decide, rfl⟩
  · intro number isAmong
    obtain ⟨positive, _, isFree⟩ := isAmong
    by_contra below
    have isFirst : number = 1 := by omega
    rw [isFirst] at isFree
    cases isFree

end WolfEngine.Verified.SerialNumbers
