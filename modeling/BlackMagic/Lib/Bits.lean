import Mathlib.Data.BitVec

/-! Words as lists of bits, the lowest bit first. -/

namespace BlackMagic.Lib.Bits
variable {width : Nat}

def bitsOf (count : Nat) (word : BitVec width) : List Bool := (List.range count).map word.getLsbD

def wordOf (width : Nat) (bits : List Bool) : BitVec width := (BitVec.ofBoolListLE bits).setWidth width

@[simp] theorem length_bitsOf (count : Nat) (word : BitVec width) : (bitsOf count word).length = count := by
  simp [bitsOf]

theorem getD_bitsOf {count : Nat} (word : BitVec width) {place : Nat} (inside : place < count) :
    (bitsOf count word).getD place false = word.getLsbD place := by
  simp [bitsOf, inside]

theorem getLsbD_wordOf (bits : List Bool) {place : Nat} (inside : place < width) :
    (wordOf width bits).getLsbD place = bits.getD place false := by
  rw [wordOf, BitVec.getLsbD_setWidth, BitVec.getLsbD_ofBoolListLE]
  simp [inside]

@[simp] theorem wordOf_bitsOf (word : BitVec width) : wordOf width (bitsOf width word) = word := by
  apply BitVec.eq_of_getLsbD_eq
  intro place inside
  rw [getLsbD_wordOf _ inside, getD_bitsOf word inside]

end BlackMagic.Lib.Bits
