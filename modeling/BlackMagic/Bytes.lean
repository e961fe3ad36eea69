import Mathlib.Data.List.Basic
import Mathlib.Data.BitVec

/-! Bytes and byte buffers. A C array is a total function from indices to bytes;
which indices a function may touch is stated where it matters, never hidden in
the type. -/

namespace BlackMagic

abbrev Byte := BitVec 8

/-- The bytes of an ASCII literal. -/
def ascii (text : String) : List Byte := text.toList.map fun c => BitVec.ofNat 8 c.toNat

/-- The byte of an ASCII character constant. -/
def chr (c : Char) : Byte := BitVec.ofNat 8 c.toNat

abbrev Buffer := Nat → Byte

namespace Buffer

def set (buffer : Buffer) (index : Nat) (value : Byte) : Buffer :=
  fun i => if i = index then value else buffer i

/-- The first `count` bytes. -/
def take (buffer : Buffer) (count : Nat) : List Byte := (List.range count).map buffer

@[simp] theorem set_self (buffer : Buffer) (index : Nat) (value : Byte) : buffer.set index value index = value := by
  simp [set]

theorem set_other (buffer : Buffer) {index other : Nat} (value : Byte) (different : other ≠ index) :
    buffer.set index value other = buffer other := by
  simp [set, different]

theorem set_comm (buffer : Buffer) {index other : Nat} (value second : Byte) (different : index ≠ other) :
    (buffer.set index value).set other second = (buffer.set other second).set index value := by
  funext i
  by_cases here : i = other
  · subst here
    rw [set_self, set_other _ _ (Ne.symm different), set_self]
  · rw [set_other _ _ here, set, set, set_other _ _ here]

@[simp] theorem take_length (buffer : Buffer) (count : Nat) : (buffer.take count).length = count := by simp [take]

@[simp] theorem take_zero (buffer : Buffer) : buffer.take 0 = [] := rfl

/-- A store at or past the end of a slice does not change the slice. -/
theorem take_set_of_le (buffer : Buffer) {count index : Nat} (value : Byte) (outside : count ≤ index) :
    (buffer.set index value).take count = buffer.take count := by
  apply List.map_congr_left
  intro i inside
  exact set_other buffer value (by have := List.mem_range.mp inside; omega)

theorem take_succ_set (buffer : Buffer) (index : Nat) (value : Byte) :
    (buffer.set index value).take (index + 1) = buffer.take index ++ [value] := by
  have kept := take_set_of_le buffer value (Nat.le_refl index)
  simp only [take] at kept
  simp [take, List.range_succ, kept]

end Buffer

end BlackMagic
