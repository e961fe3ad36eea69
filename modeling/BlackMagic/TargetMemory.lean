import BlackMagic.Bytes
import BlackMagic.Lib.Words

/-! The memory of a target as the probe reads it: 32-bit addresses, and reads that may fail. -/

namespace BlackMagic
open Lib.Words

/-- The content by address, and which reads fail. -/
structure TargetMemory where
  content : Nat → Byte
  fails : Nat → Nat → Bool

namespace TargetMemory

/-- A memory that is read without failures. -/
def readable (content : Nat → Byte) : TargetMemory := ⟨content, fun _ _ => false⟩

def bytes (memory : TargetMemory) (src len : Nat) : List Byte :=
  (List.range len).map fun i => memory.content (add32 src i)

@[simp] theorem bytes_length (memory : TargetMemory) (src len : Nat) : (memory.bytes src len).length = len := by
  rw [bytes, List.length_map, List.length_range]

theorem bytes_getD (memory : TargetMemory) (src : Nat) {len i : Nat} (inside : i < len) :
    (memory.bytes src len).getD i 0#8 = memory.content (add32 src i) := by
  simp [bytes, List.getD_eq_getElem?_getD, inside]

theorem bytes_take (memory : TargetMemory) (src : Nat) {len count : Nat} (inside : count ≤ len) :
    (memory.bytes src len).take count = memory.bytes src count := by
  rw [bytes, bytes, ← List.map_take, List.take_range, Nat.min_eq_left inside]

theorem bytes_add (memory : TargetMemory) (src first second : Nat) :
    memory.bytes src (first + second) = memory.bytes src first ++ memory.bytes (add32 src first) second := by
  rw [bytes, List.range_add, List.map_append, bytes, bytes, List.map_map]
  congr 1
  apply List.map_congr_left
  intro i _
  simp only [Function.comp_apply, add32]
  rw [Nat.mod_add_mod, Nat.add_assoc]

end TargetMemory

/-- Whether the read succeeds, and what it reads. -/
def targetMemRead (memory : TargetMemory) (src len : Nat) : Option (List Byte) :=
  if memory.fails src len then none else some (memory.bytes src len)

end BlackMagic
