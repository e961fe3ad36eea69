import Mathlib.Data.BitVec
import Mathlib.Logic.Function.Basic

/-! Cells, stored one after the other at addresses that wrap around. -/

namespace BlackMagic.Lib.Stores
variable {width : Nat} {α : Type}

def store (address : BitVec width) : List α → (BitVec width → α) → BitVec width → α
  | [], memory => memory
  | cell :: rest, memory => store (address + 1) rest (Function.update memory address cell)

theorem distance_last (place : BitVec width) : (place - (place + 1)).toNat = 2 ^ width - 1 := by
  have last : place - (place + 1) = -1#(width) := sub_add_cancel_left place 1#(width)
  rw [last, BitVec.neg_one_eq_allOnes, BitVec.toNat_allOnes]

/-- How far a place is beyond a number of cells. -/
theorem distance_add {address place : BitVec width} {count : Nat} (beyond : count ≤ (place - address).toNat) :
    (place - (address + BitVec.ofNat width count)).toNat = (place - address).toNat - count := by
  have value : (BitVec.ofNat width count).toNat = count := by
    rw [BitVec.toNat_ofNat, Nat.mod_eq_of_lt (Nat.lt_of_le_of_lt beyond (place - address).isLt)]
  have within : BitVec.ofNat width count ≤ place - address := by rwa [BitVec.le_def, value]
  rw [← sub_sub, BitVec.toNat_sub_of_le within, value]

/-- A place before that number is as far from there as addresses wrap around. -/
theorem distance_before {address place : BitVec width} {count : Nat} (few : count ≤ 2 ^ width)
    (before : (place - address).toNat < count) :
    2 ^ width - count ≤ (place - (address + BitVec.ofNat width count)).toNat := by
  rw [← sub_sub, BitVec.toNat_sub, BitVec.toNat_ofNat]
  rcases Nat.lt_or_eq_of_le few with some_ | all
  · rw [Nat.mod_eq_of_lt some_, Nat.mod_eq_of_lt (by omega)]
    omega
  · rw [all, Nat.sub_self]
    exact Nat.zero_le _

end BlackMagic.Lib.Stores
