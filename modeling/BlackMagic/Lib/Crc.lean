import Mathlib.Data.BitVec
import Mathlib.Logic.Function.Iterate

/-! Cyclic redundancy checks of 32 bits, most significant bit first: the recurrence for one bit, that
it is linear, and what follows for whole bytes, for tables, and for words. -/

namespace BlackMagic.Lib.Crc

variable (poly : BitVec 32)

/-- Shift out one bit. -/
def crcBit (crc : BitVec 32) : BitVec 32 := if crc.msb then (crc <<< 1) ^^^ poly else crc <<< 1

/-- Take in one byte. -/
def crcByte (crc : BitVec 32) (data : BitVec 8) : BitVec 32 := (crcBit poly)^[8] (crc ^^^ (data.setWidth 32 <<< 24))

def crcBytes (crc : BitVec 32) (data : List (BitVec 8)) : BitVec 32 := data.foldl (crcByte poly) crc

variable {poly}

section Linear

private theorem shift_xor (x y : BitVec 32) : (x ^^^ y) <<< 1 = (x <<< 1) ^^^ (y <<< 1) := by
  apply BitVec.eq_of_getLsbD_eq
  intro i inside
  simp only [BitVec.getLsbD_shiftLeft, BitVec.getLsbD_xor]
  cases decide (i < 1) <;> simp [inside]

private theorem xor_cancel (x y z : BitVec 32) : (x ^^^ z) ^^^ (y ^^^ z) = x ^^^ y := by
  rw [BitVec.xor_comm y z, BitVec.xor_assoc, ← BitVec.xor_assoc z z y, BitVec.xor_self, BitVec.zero_xor]

theorem crcBit_xor (x y : BitVec 32) : crcBit poly (x ^^^ y) = crcBit poly x ^^^ crcBit poly y := by
  simp only [crcBit, BitVec.msb_xor, shift_xor]
  cases x.msb with
  | false =>
    cases y.msb with
    | false => rfl
    | true => exact BitVec.xor_assoc _ _ _
  | true =>
    cases y.msb with
    | false =>
      show ((x <<< 1) ^^^ (y <<< 1)) ^^^ poly = ((x <<< 1) ^^^ poly) ^^^ (y <<< 1)
      rw [BitVec.xor_assoc, BitVec.xor_comm (y <<< 1), BitVec.xor_assoc]
    | true => exact (xor_cancel _ _ _).symm

theorem crcBits_xor (count : Nat) (x y : BitVec 32) :
    (crcBit poly)^[count] (x ^^^ y) = (crcBit poly)^[count] x ^^^ (crcBit poly)^[count] y := by
  induction count generalizing x y with
  | zero => rfl
  | succ count ih => rw [Function.iterate_succ_apply, crcBit_xor, ih, ← Function.iterate_succ_apply, ← Function.iterate_succ_apply]

/-- Bits that are clear are only shifted out. -/
theorem crcBits_clear (count : Nat) {x : BitVec 32} (clear : ∀ i, 32 ≤ i + count → x.getLsbD i = false) :
    (crcBit poly)^[count] x = x <<< count := by
  induction count generalizing x with
  | zero => simp
  | succ count ih =>
    have top : x.msb = false := by
      rw [BitVec.msb_eq_getLsbD_last]
      exact clear _ (by omega)
    have shifted : ∀ i, 32 ≤ i + count → (x <<< 1).getLsbD i = false := by
      intro i high
      rw [BitVec.getLsbD_shiftLeft]
      by_cases first : i < 1
      · simp [first]
      · rw [clear (i - 1) (by omega), Bool.and_false]
    rw [Function.iterate_succ_apply, crcBit, top, if_neg Bool.false_ne_true, ih shifted, ← BitVec.shiftLeft_add,
      Nat.add_comm]

end Linear

section Tables

private theorem split_byte (crc : BitVec 32) (data : BitVec 8) :
    crc ^^^ (data.setWidth 32 <<< 24)
      = (crc &&& 0xffffff#32) ^^^ ((((crc >>> 24) ^^^ data.setWidth 32) &&& 0xff#32) <<< 24) := by
  apply BitVec.eq_of_getLsbD_eq
  intro i inside
  have low : (0xffffff#32).getLsbD i = decide (i < 24) := by
    have mask : (0xffffff#32) = (BitVec.allOnes 24).setWidth 32 := by decide
    rw [mask, BitVec.getLsbD_setWidth, BitVec.getLsbD_allOnes]
    simp [inside]
  have byte : ∀ j < 32, (0xff#32).getLsbD j = decide (j < 8) := by
    intro j within
    have mask : (0xff#32) = (BitVec.allOnes 8).setWidth 32 := by decide
    rw [mask, BitVec.getLsbD_setWidth, BitVec.getLsbD_allOnes]
    simp [within]
  simp only [BitVec.getLsbD_xor, BitVec.getLsbD_and, BitVec.getLsbD_shiftLeft, BitVec.getLsbD_ushiftRight, low,
    BitVec.getLsbD_setWidth, inside, decide_true, Bool.true_and]
  by_cases high : i < 24
  · simp [high]
  · rw [byte (i - 24) (by omega)]
    simp [high, show i - 24 < 8 by omega, show i - 24 < 32 by omega, show 24 + (i - 24) = i by omega]

private theorem low_clear (crc : BitVec 32) : ∀ i, 32 ≤ i + 8 → (crc &&& 0xffffff#32).getLsbD i = false := by
  intro i high
  have mask : (0xffffff#32) = (BitVec.allOnes 24).setWidth 32 := by decide
  rw [BitVec.getLsbD_and, mask, BitVec.getLsbD_setWidth, BitVec.getLsbD_allOnes]
  simp [show ¬ i < 24 by omega]

private theorem low_shifted (crc : BitVec 32) : (crc &&& 0xffffff#32) <<< 8 = crc <<< 8 := by
  apply BitVec.eq_of_getLsbD_eq
  intro i inside
  have mask : (0xffffff#32) = (BitVec.allOnes 24).setWidth 32 := by decide
  rw [BitVec.getLsbD_shiftLeft, BitVec.getLsbD_shiftLeft, BitVec.getLsbD_and, mask, BitVec.getLsbD_setWidth,
    BitVec.getLsbD_allOnes]
  by_cases low : i < 8
  · simp [low]
  · simp [show i - 8 < 24 by omega, show i - 8 < 32 by omega]

/-- A step with a table of the first bytes. -/
theorem crcByte_table (crc : BitVec 32) (data : BitVec 8) :
    crcByte poly crc data
      = (crc <<< 8) ^^^ (crcBit poly)^[8] ((((crc >>> 24) ^^^ data.setWidth 32) &&& 0xff#32) <<< 24) := by
  rw [crcByte, split_byte, crcBits_xor, crcBits_clear 8 (low_clear crc), low_shifted]

end Tables

section Words

/-- A byte at the top and others below. -/
private theorem crcBits_byte (count : Nat) (crc below : BitVec 32) (data : BitVec 8)
    (clear : ∀ i, 32 ≤ i + 8 → below.getLsbD i = false) :
    (crcBit poly)^[count + 8] (crc ^^^ ((data.setWidth 32 <<< 24) ^^^ below))
      = (crcBit poly)^[count] (crcByte poly crc data ^^^ (below <<< 8)) := by
  rw [Function.iterate_add_apply, ← BitVec.xor_assoc, crcBits_xor 8, crcBits_clear 8 clear, crcByte]

private theorem or_top (data : BitVec 8) {below : BitVec 32} (clear : ∀ i, 32 ≤ i + 8 → below.getLsbD i = false) :
    (data.setWidth 32 <<< 24) ||| below = (data.setWidth 32 <<< 24) ^^^ below := by
  apply BitVec.eq_of_getLsbD_eq
  intro i inside
  rw [BitVec.getLsbD_or, BitVec.getLsbD_xor]
  by_cases low : i < 24
  · simp [BitVec.getLsbD_shiftLeft, low]
  · simp [clear i (by omega)]

/-- A byte shifted up leaves the places above it clear. -/
private theorem placed_clear (data : BitVec 8) {place : Nat} (low : place ≤ 16) :
    ∀ i, 32 ≤ i + 8 → (data.setWidth 32 <<< place).getLsbD i = false := by
  intro i high
  rw [BitVec.getLsbD_shiftLeft, BitVec.getLsbD_setWidth, BitVec.getLsbD_of_ge data (i - place) (by omega), Bool.and_false,
    Bool.and_false]

private theorem or_clear {x y : BitVec 32} (first : ∀ i, 32 ≤ i + 8 → x.getLsbD i = false)
    (second : ∀ i, 32 ≤ i + 8 → y.getLsbD i = false) : ∀ i, 32 ≤ i + 8 → (x ||| y).getLsbD i = false := by
  intro i high
  rw [BitVec.getLsbD_or, first i high, second i high, Bool.or_false]

/-- Taking in a word is taking in its bytes, the most significant one first. -/
theorem crcBits_word (crc : BitVec 32) (a b c d : BitVec 8) :
    (crcBit poly)^[32] (crc ^^^ ((a.setWidth 32 <<< 24) ||| (b.setWidth 32 <<< 16) ||| (c.setWidth 32 <<< 8) ||| d.setWidth 32))
      = crcBytes poly crc [a, b, c, d] := by
  have last : d.setWidth 32 = d.setWidth 32 <<< 0 := (BitVec.shiftLeft_zero _).symm
  have third := or_clear (placed_clear c (Nat.le_refl 16)) (placed_clear d (show 8 ≤ 16 by decide))
  have second := or_clear (placed_clear b (Nat.le_refl 16))
    (or_clear (placed_clear c (show 8 ≤ 16 by decide)) (placed_clear d (Nat.zero_le 16)))
  have fourth := placed_clear d (Nat.le_refl 16)
  rw [last, BitVec.or_assoc, BitVec.or_assoc, or_top a second, crcBits_byte 24 _ _ _ second]
  rw [BitVec.shiftLeft_or_distrib, BitVec.shiftLeft_or_distrib, ← BitVec.shiftLeft_add, ← BitVec.shiftLeft_add,
    ← BitVec.shiftLeft_add, or_top b third, crcBits_byte 16 _ _ _ third]
  rw [BitVec.shiftLeft_or_distrib, ← BitVec.shiftLeft_add, ← BitVec.shiftLeft_add, or_top c fourth,
    crcBits_byte 8 _ _ _ fourth, ← BitVec.shiftLeft_add]
  rfl

end Words

end BlackMagic.Lib.Crc
