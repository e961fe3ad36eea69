import BlackMagic.Lib.Stores
import BlackMagic.Proofs.CortexAStreams

/-! What the debugger writes to the memory of a halted Cortex-A core, and what it uses for that. -/

namespace BlackMagic.Proofs.CortexAMemory
open CortexADebug CortexAUnit CortexAStreams Lib Lib.Program Lib.Words

section Scratch

abbrev Memory := BitVec 32 → Option (BitVec 8)

/-- Bytes, one after the other. -/
def store (address : BitVec 32) (bytes : List (BitVec 8)) (memory : Memory) : Memory :=
  Stores.store address (bytes.map some) memory

def Writable (memory : Memory) (address : BitVec 32) (count : Nat) : Prop :=
  ∀ i < count, memory (address + BitVec.ofNat 32 i) ≠ none

theorem update_mapped {memory : Memory} {address other : BitVec 32} (byte : BitVec 8) (mapped : memory other ≠ none) :
    Function.update memory address (some byte) other ≠ none := by
  rw [Function.update_apply]
  split
  · exact Option.some_ne_none byte
  · exact mapped

theorem store_mapped {memory : Memory} {other : BitVec 32} (address : BitVec 32) (bytes : List (BitVec 8))
    (mapped : memory other ≠ none) : store address bytes memory other ≠ none := by
  induction bytes generalizing address memory with
  | nil => exact mapped
  | cons byte rest ih => exact ih (address + 1) (update_mapped byte mapped)

theorem Writable.first {memory : Memory} {address : BitVec 32} {count : Nat}
    (writable : Writable memory address (count + 1)) : memory address ≠ none := by
  have first := writable 0 (Nat.succ_pos count)
  rwa [BitVec.add_zero] at first

theorem Writable.drop {memory : Memory} {address : BitVec 32} {count : Nat} (skipped : Nat)
    (writable : Writable memory address (count + skipped)) :
    Writable memory (address + BitVec.ofNat 32 skipped) count := by
  intro i inside
  rw [BitVec.add_assoc, ← BitVec.ofNat_add]
  exact writable (skipped + i) (by omega)

theorem Writable.stored {memory : Memory} {address : BitVec 32} {count : Nat} (writable : Writable memory address count)
    (place : BitVec 32) (bytes : List (BitVec 8)) : Writable (store place bytes memory) address count :=
  fun i inside => store_mapped place bytes (writable i inside)

/-- The registers that the driver uses for itself. -/
def scratch : List Nat := [0, 1, 13]

/-- The core as it was, but for what the driver uses for itself, and with its memory. -/
structure Scratched (original : Core) (memory : Memory) (core : Core) : Prop where
  registers : ∀ place, (∀ regno ∈ scratch, place ≠ CortexADebug.place original.mode regno) →
    core.registers place = original.registers place
  pc : core.pc = original.pc
  cpsr : core.cpsr = original.cpsr
  fpscr : core.fpscr = original.fpscr
  d : core.d = original.d
  memory : core.memory = memory

variable {original core : Core} {memory : Memory}

theorem Scratched.refl (core : Core) : Scratched core core.memory core :=
  ⟨fun _ _ => rfl, rfl, rfl, rfl, rfl, rfl⟩

theorem Scratched.mode (scratched : Scratched original memory core) : core.mode = original.mode :=
  congrArg (BitVec.setWidth 5) scratched.cpsr

theorem Scratched.setReg (scratched : Scratched original memory core) {regno : Nat} (listed : regno ∈ scratch)
    (value : BitVec 32) : Scratched original memory (core.setReg regno value) where
  registers := by
    intro place apart
    rw [Core.setReg, scratched.mode]
    exact (Function.update_of_ne (apart regno listed) _ _).trans (scratched.registers place apart)
  pc := scratched.pc
  cpsr := scratched.cpsr
  fpscr := scratched.fpscr
  d := scratched.d
  memory := scratched.memory

theorem Scratched.trans {middle : Core} {between : Memory} (first : Scratched original between middle)
    (second : Scratched middle memory core) : Scratched original memory core where
  registers := fun place apart => by
    rw [← first.registers place apart]
    refine second.registers place ?_
    rw [first.mode]
    exact apart
  pc := second.pc.trans first.pc
  cpsr := second.cpsr.trans first.cpsr
  fpscr := second.fpscr.trans first.fpscr
  d := second.d.trans first.d
  memory := second.memory

theorem Scratched.stored (scratched : Scratched original memory core) (changed : Memory) :
    Scratched original changed { core with memory := changed } :=
  ⟨scratched.registers, scratched.pc, scratched.cpsr, scratched.fpscr, scratched.d, rfl⟩

theorem place_ne {mode : BitVec 5} {one two : Nat} (apart : one ≠ two) : place mode one ≠ place mode two :=
  fun same => apart (congrArg Prod.fst same)

theorem reg_setReg_ne (core : Core) {one two : Nat} (apart : one ≠ two) (value : BitVec 32) :
    (core.setReg two value).reg one = core.reg one :=
  Function.update_of_ne (place_ne apart) _ _

end Scratch

section Words

variable {hardware : Hardware} {polls : Nat} {core : Core} {priv : Priv}

end Words

section Bytes

variable {hardware : Hardware} {polls : Nat} {core : Core} {priv : Priv}

end Bytes

end BlackMagic.Proofs.CortexAMemory
