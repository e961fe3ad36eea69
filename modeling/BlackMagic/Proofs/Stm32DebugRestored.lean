import BlackMagic.Lib.SaveSlot
import BlackMagic.Stm32Debug

/-! When the debug configuration of the STM32 parts is after a detach what it was before the first attach. -/

namespace BlackMagic.Proofs.Stm32DebugRestored
open Stm32Debug Lib

/-- A register that an attach modifies, where its value is saved, and what becomes of it. -/
structure Register where
  address : BitVec 32
  saved : Storage → BitVec 32
  configured : BitVec 32 → BitVec 32

/-- Where the attach of an L4 driver finds the registers. -/
def idcodeAddress (family : Family) : BitVec 32 :=
  if family = .l55x then stm32l5DbgmcuIdcodePhys else stm32l4DbgmcuIdcodePhys

/-- The registers that an attach modifies. -/
def registers : Driver → List Register
  | .stm32f4 _ =>
    [⟨f4DbgmcuCr, Storage.dbgmcuCr, fun cr => cr ||| dbgmcuCrDbgSleep ||| dbgmcuCrDbgStandby ||| dbgmcuCrDbgStop⟩]
  | .stm32l4 family =>
    [⟨dbgmcuCr (idcodeAddress family), Storage.dbgmcuCr,
      fun _ => dbgmcuCrDbgSleep ||| dbgmcuCrDbgStandby ||| dbgmcuCrDbgStop⟩]
  | .stm32g0 =>
    [⟨rccApbenr1, Storage.rccApbenr1, (· ||| rccApbenr1Dbgen)⟩,
      ⟨dbgCr, Storage.dbgCr, (· ||| (dbgCrDbgStandby ||| dbgCrDbgStop))⟩,
      ⟨dbgApbFz1, Storage.dbgApbFz1, (· ||| (dbgApbFz1DbgIwdgStop ||| dbgApbFz1DbgWwdgStop))⟩]

local instance partsLawful : LawfulBEq (BitVec 16) := inferInstance

/-- An attach succeeds. -/
def succeeds : Driver → Attempt → Bool
  | .stm32f4 partId, attempt => partId ∈ stm32f4Parts && attempt.cortexmAttach && attempt.allocates
  | .stm32l4 _, attempt => attempt.cortexmAttach
  | .stm32g0, attempt => attempt.cortexmAttach

/-- The driver detaches with the registers it has attached with. -/
def SameRegisters (driver : Driver) : Prop := driver ≠ .stm32l4 .l55x

/-- The entries to and leavings of the debug configuration that an event is. -/
def calls (driver : Driver) : Event → List SaveSlot.Call
  | .attach attempt => if succeeds driver attempt then [.enter] else []
  | .detach => [.leave]

/-- Some attach succeeds although there was no detach since the last successful one. -/
def Reattached (driver : Driver) (events : List Event) : Prop := SaveSlot.Nested false (events.flatMap (calls driver))

/-- The event is an attach that succeeds. -/
def attaches (driver : Driver) : Event → Bool
  | .attach attempt => succeeds driver attempt
  | .detach => false

def Attached (driver : Driver) (events : List Event) : Prop := ∃ event ∈ events, attaches driver event = true

/-- The registers had the debug configuration before. -/
def Configured (driver : Driver) (memory : BitVec 32 → BitVec 32) : Prop :=
  ∀ register ∈ registers driver, register.configured (memory register.address) = memory register.address

/-- Nothing needs to be restored, or it can be. -/
def Restorable (driver : Driver) (memory : BitVec 32 → BitVec 32) (events : List Event) : Prop :=
  if driver = .stm32l4 .l55x then ¬ Attached driver events ∨ Configured driver memory
  else ¬ Reattached driver events ∨ Configured driver memory

section Drivers

variable {driver : Driver} {register : Register}

theorem attach_fails {attempt : Attempt} (fails : succeeds driver attempt = false) (target : Target) :
    targetAttach driver attempt target = target := by
  cases driver with
  | stm32f4 partId =>
    simp only [succeeds, Bool.and_eq_false_iff, decide_eq_false_iff_not] at fails
    rcases fails with (unknown | refused) | exhausted
    · simp [targetAttach, Driver.attach, stm32f4Attach, unknown]
    · simp [targetAttach, Driver.attach, stm32f4Attach, refused]
    · simp [targetAttach, Driver.attach, stm32f4Attach, exhausted]
  | stm32l4 family => simp [targetAttach, Driver.attach, stm32l4Attach, show attempt.cortexmAttach = false from fails]
  | stm32g0 => simp [targetAttach, Driver.attach, stm32g0Attach, show attempt.cortexmAttach = false from fails]

/-- What a successful attach does to a register. -/
structure Entered (register : Register) (before after : Target) : Prop where
  memory : after.memory register.address = register.configured (before.memory register.address)
  saved : register.saved after.storage = before.memory register.address
  attached : after.attached = true

theorem attach_succeeds {attempt : Attempt} (succeeding : succeeds driver attempt = true) (target : Target)
    (modified : register ∈ registers driver) : Entered register target (targetAttach driver attempt target) := by
  cases driver with
  | stm32f4 partId =>
    simp only [succeeds, Bool.and_eq_true, decide_eq_true_eq] at succeeding
    obtain ⟨⟨known, attached⟩, allocated⟩ := succeeding
    cases List.mem_singleton.mp modified
    constructor <;> simp [targetAttach, Driver.attach, stm32f4Attach, targetMemWrite32, known, attached, allocated]
  | stm32l4 family =>
    have attached : attempt.cortexmAttach = true := succeeding
    cases List.mem_singleton.mp modified
    cases family <;> constructor <;>
      simp [targetAttach, Driver.attach, stm32l4Attach, stm32l4IdcodeRegAddress, stm32l5FlashEnable, idcodeAddress, dbgmcuCr,
        targetMemWrite32, attached, stm32l5DbgmcuIdcodePhys, stm32l5PwrCr1, stm32l5RccApb1enr1]
  | stm32g0 =>
    have attached : attempt.cortexmAttach = true := succeeding
    simp only [registers, List.mem_cons, List.not_mem_nil, or_false] at modified
    rcases modified with rfl | rfl | rfl <;> constructor <;>
      simp [targetAttach, Driver.attach, stm32g0Attach, targetMemWrite32, attached, rccApbenr1, dbgCr, dbgApbFz1]

/-- What a detach does to a register. -/
structure Left (register : Register) (before after : Target) : Prop where
  memory : after.memory register.address = register.saved before.storage
  saved : register.saved after.storage = register.saved before.storage
  attached : after.attached = false

theorem detach_restores (same : SameRegisters driver) (target : Target) (modified : register ∈ registers driver) :
    Left register target (targetDetach driver target) := by
  cases driver with
  | stm32f4 partId =>
    cases List.mem_singleton.mp modified
    constructor <;> simp [targetDetach, Driver.detach, stm32f4Detach, targetMemWrite32]
  | stm32l4 family =>
    cases List.mem_singleton.mp modified
    have other : family ≠ .l55x := fun l5 => same (congrArg Driver.stm32l4 l5)
    constructor <;> simp [targetDetach, Driver.detach, stm32l4Detach, targetMemWrite32, idcodeAddress, other]
  | stm32g0 =>
    simp only [registers, List.mem_cons, List.not_mem_nil, or_false] at modified
    rcases modified with rfl | rfl | rfl <;> constructor <;>
      simp [targetDetach, Driver.detach, stm32g0Detach, targetMemWrite32, rccApbenr1, dbgCr, dbgApbFz1]

/-- A second configuration changes nothing. -/
theorem configured_settled (modified : register ∈ registers driver) (value : BitVec 32) :
    register.configured (register.configured value) = register.configured value := by
  cases driver with
  | stm32f4 partId =>
    cases List.mem_singleton.mp modified
    have joined (cr : BitVec 32) : cr ||| dbgmcuCrDbgSleep ||| dbgmcuCrDbgStandby ||| dbgmcuCrDbgStop =
        cr ||| (dbgmcuCrDbgSleep ||| dbgmcuCrDbgStandby ||| dbgmcuCrDbgStop) := by simp only [BitVec.or_assoc]
    simp only [joined]
    rw [BitVec.or_assoc, BitVec.or_self]
  | stm32l4 family =>
    cases List.mem_singleton.mp modified
    rfl
  | stm32g0 =>
    simp only [registers, List.mem_cons, List.not_mem_nil, or_false] at modified
    rcases modified with rfl | rfl | rfl <;> simp [BitVec.or_assoc]

end Drivers

section Runs

variable {driver : Driver} {register : Register}

theorem run_append (target : Target) (first second : List Event) :
    run driver target (first ++ second) = run driver (run driver target first) second := by
  induction first generalizing target with
  | nil => rfl
  | cons event rest ih => exact ih _

/-- A register and its saved value as one slot. -/
def slotted (register : Register) (target : Target) : SaveSlot.Saved (BitVec 32) :=
  ⟨target.memory register.address, register.saved target.storage, target.attached⟩

theorem handle_calls (same : SameRegisters driver) (modified : register ∈ registers driver) (target : Target) (event : Event) :
    slotted register (handle driver target event) =
      SaveSlot.run register.configured (slotted register target) (calls driver event) := by
  cases event with
  | attach attempt =>
    cases succeeding : succeeds driver attempt with
    | true =>
      have entered := attach_succeeds succeeding target modified
      simp [handle, calls, succeeding, slotted, SaveSlot.run, SaveSlot.call, entered.memory, entered.saved, entered.attached]
    | false =>
      simp only [handle, calls, succeeding, attach_fails succeeding, Bool.false_eq_true, if_false]
      rfl
  | detach =>
    cases attached : target.attached with
    | true =>
      have left := detach_restores same target modified
      simp [handle, calls, slotted, SaveSlot.run, SaveSlot.call, attached, left.memory, left.saved, left.attached]
    | false => simp [handle, calls, slotted, SaveSlot.run, SaveSlot.call, attached]

theorem run_calls (same : SameRegisters driver) (modified : register ∈ registers driver) (events : List Event) (target : Target) :
    slotted register (run driver target events) =
      SaveSlot.run register.configured (slotted register target) (events.flatMap (calls driver)) := by
  induction events generalizing target with
  | nil => rfl
  | cons event rest ih =>
    rw [List.flatMap_cons, SaveSlot.run_append, ← handle_calls same modified]
    exact ih _

/-- One register of a driver that detaches with the registers it has attached with. -/
theorem register_restored_iff (same : SameRegisters driver) (modified : register ∈ registers driver)
    (memory : BitVec 32 → BitVec 32) (storage : Storage) (events : List Event) :
    (run driver ⟨memory, storage, false⟩ (events ++ [.detach])).memory register.address = memory register.address ↔
      ¬ Reattached driver events ∨ register.configured (memory register.address) = memory register.address := by
  have simulated := run_calls same modified (events ++ [.detach]) ⟨memory, storage, false⟩
  rw [List.flatMap_append] at simulated
  have final := congrArg SaveSlot.Saved.current simulated
  refine (Eq.congr_left final).trans ?_
  exact SaveSlot.left_iff (configured_settled modified _) _ _

/-- With other registers at the detach, the one that was modified keeps what it is. -/
theorem detach_misses (target : Target) (modified : register ∈ registers (.stm32l4 .l55x)) :
    (targetDetach (.stm32l4 .l55x) target).memory register.address = target.memory register.address := by
  cases List.mem_singleton.mp modified
  simp [targetDetach, Driver.detach, stm32l4Detach, targetMemWrite32, idcodeAddress, dbgmcuCr, stm32l4DbgmcuIdcodePhys,
    stm32l5DbgmcuIdcodePhys]

theorem misses_handle (modified : register ∈ registers (.stm32l4 .l55x)) (target : Target) (event : Event) :
    (handle (.stm32l4 .l55x) target event).memory register.address =
      if attaches (.stm32l4 .l55x) event then register.configured (target.memory register.address)
      else target.memory register.address := by
  cases event with
  | attach attempt =>
    cases succeeding : succeeds (.stm32l4 .l55x) attempt with
    | true =>
      simp only [attaches, succeeding, if_true]
      exact (attach_succeeds succeeding target modified).memory
    | false => simp [handle, attaches, succeeding, attach_fails succeeding]
  | detach =>
    simp only [handle, attaches, Bool.false_eq_true, if_false]
    split
    · exact detach_misses target modified
    · rfl

theorem misses_run (modified : register ∈ registers (.stm32l4 .l55x)) (events : List Event) (target : Target) :
    (run (.stm32l4 .l55x) target events).memory register.address =
      if events.any (attaches (.stm32l4 .l55x)) then register.configured (target.memory register.address)
      else target.memory register.address := by
  induction events generalizing target with
  | nil => rfl
  | cons event rest ih =>
    have first := misses_handle modified target event
    refine (ih _).trans ?_
    rw [first, List.any_cons]
    cases attaching : attaches (.stm32l4 .l55x) event with
    | true => simp [configured_settled modified]
    | false => simp

theorem missed_restored_iff (modified : register ∈ registers (.stm32l4 .l55x)) (memory : BitVec 32 → BitVec 32)
    (storage : Storage) (events : List Event) :
    (run (.stm32l4 .l55x) ⟨memory, storage, false⟩ (events ++ [.detach])).memory register.address = memory register.address ↔
      ¬ Attached (.stm32l4 .l55x) events ∨ register.configured (memory register.address) = memory register.address := by
  rw [misses_run modified, List.any_append]
  by_cases attached : Attached (.stm32l4 .l55x) events
  · have found : events.any (attaches (.stm32l4 .l55x)) = true := List.any_eq_true.mpr attached
    simp [found, attached]
  · have missing : events.any (attaches (.stm32l4 .l55x)) = false :=
      Bool.eq_false_iff.mpr fun found => attached (List.any_eq_true.mp found)
    simp [missing, attached, attaches]

/-- What holds of each register alone, of all together. -/
theorem all_restored_iff {first : Prop} {second third : Register → Prop} (each : ∀ register ∈ registers driver,
    (third register ↔ first ∨ second register)) :
    (∀ register ∈ registers driver, third register) ↔ first ∨ ∀ register ∈ registers driver, second register := by
  by_cases holds : first
  · exact iff_of_true (fun register modified => (each register modified).mpr (Or.inl holds)) (Or.inl holds)
  · simp only [holds, false_or] at each ⊢
    exact forall₂_congr each

/-- After a detach the registers are what they were before the first attach, unless the driver saved them a second time,
or detaches with another register, and that makes a difference. -/
theorem debug_registers_restored_iff (driver : Driver) (memory : BitVec 32 → BitVec 32) (storage : Storage)
    (events : List Event) :
    (∀ register ∈ registers driver,
      (run driver ⟨memory, storage, false⟩ (events ++ [.detach])).memory register.address = memory register.address) ↔
      Restorable driver memory events := by
  by_cases missing : driver = .stm32l4 .l55x
  · subst missing
    rw [Restorable, if_pos rfl]
    exact all_restored_iff fun register modified => missed_restored_iff modified memory storage events
  · rw [Restorable, if_neg missing]
    exact all_restored_iff fun register modified => register_restored_iff missing modified memory storage events

/-- An L552 after one attach and one detach, and an F405 that was attached to twice. -/
theorem debug_registers_lost :
    (run (.stm32l4 .l55x) ⟨fun _ => 0, ⟨0, 0, 0, 0⟩, false⟩ [.attach ⟨true, true⟩, .detach]).memory
      (dbgmcuCr stm32l5DbgmcuIdcodePhys) ≠ 0 ∧
    (run (.stm32f4 idStm32f40x) ⟨fun _ => 0, ⟨0, 0, 0, 0⟩, false⟩
      [.attach ⟨true, true⟩, .attach ⟨true, true⟩, .detach]).memory f4DbgmcuCr ≠ 0 := by
  decide +kernel

end Runs

end BlackMagic.Proofs.Stm32DebugRestored
