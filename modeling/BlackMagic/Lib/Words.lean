import Mathlib.Data.BitVec
import Mathlib.Data.Nat.Bitwise
import Mathlib.Tactic.IntervalCases

/-! Bytes inside 32-bit words, and the bit masks that C code writes for powers of
two. Addresses and lengths are natural numbers below `2 ^ 32`. -/

namespace BlackMagic.Lib.Words

/-- Byte lane `lane` of a little-endian word. -/
def byteOf (word : BitVec 32) (lane : Nat) : BitVec 8 := (word >>> (8 * lane)).setWidth 8

/-- The word with the given byte lanes. -/
def ofLanes (lanes : Nat → BitVec 8) : BitVec 32 :=
  (lanes 0).setWidth 32 ||| (lanes 1).setWidth 32 <<< 8 ||| (lanes 2).setWidth 32 <<< 16 |||
    (lanes 3).setWidth 32 <<< 24

/-- A mask of one bit looks at this bit. -/
theorem masked_bit {width place : Nat} (word : BitVec width) {mask : BitVec width} (inside : place < width)
    (power : mask = BitVec.twoPow width place) : word &&& mask ≠ 0 ↔ word.getLsbD place = true := by
  have nonzero : BitVec.twoPow width place ≠ 0 := by
    intro zero
    have bit := congrArg (fun word => word.getLsbD place) zero
    simp [inside] at bit
  rw [power, BitVec.and_twoPow]
  cases word.getLsbD place with
  | true => simpa using nonzero
  | false => simp

theorem byteOf_getLsbD (word : BitVec 32) (lane i : Nat) (bit : i < 8) :
    (byteOf word lane).getLsbD i = word.getLsbD (8 * lane + i) := by
  simp [byteOf, bit]

theorem byteOf_ext {first second : BitVec 32} {one two : Nat}
    (same : ∀ i < 8, first.getLsbD (8 * one + i) = second.getLsbD (8 * two + i)) :
    byteOf first one = byteOf second two := by
  apply BitVec.eq_of_getLsbD_eq
  intro i bit
  rw [byteOf_getLsbD _ _ _ bit, byteOf_getLsbD _ _ _ bit]
  exact same i bit

/-- A mask that has all bits of a lane leaves the lane. -/
theorem byteOf_mask {word mask : BitVec 32} {lane : Nat} (ones : ∀ i < 8, mask.getLsbD (8 * lane + i) = true) :
    byteOf (word &&& mask) lane = byteOf word lane := by
  apply byteOf_ext
  intro i bit
  simp [ones i bit]

@[simp] theorem byteOf_ofLanes (lanes : Nat → BitVec 8) {lane : Nat} (inside : lane < 4) :
    byteOf (ofLanes lanes) lane = lanes lane := by
  apply BitVec.eq_of_getLsbD_eq
  intro i bit
  rw [byteOf_getLsbD _ _ _ bit]
  simp only [ofLanes, BitVec.getLsbD_or, BitVec.getLsbD_shiftLeft, BitVec.getLsbD_setWidth]
  interval_cases lane <;> interval_cases i <;> simp

theorem byteOf_ushiftRight (word : BitVec 32) (lanes lane : Nat) :
    byteOf (word >>> (8 * lanes)) lane = byteOf word (lanes + lane) := by
  apply byteOf_ext
  intro i _
  rw [BitVec.getLsbD_ushiftRight]
  congr 1
  omega

theorem byteOf_shiftLeft (word : BitVec 32) {lanes lane : Nat} (inside : lanes + lane < 4) :
    byteOf (word <<< (8 * lanes)) (lanes + lane) = byteOf word lane := by
  apply byteOf_ext
  intro i bit
  have fits : 8 * (lanes + lane) + i < 32 := by omega
  have above : ¬ 8 * (lanes + lane) + i < 8 * lanes := by omega
  simp only [BitVec.getLsbD_shiftLeft, fits, above, decide_true, decide_false, Bool.not_false, Bool.true_and]
  congr 1
  omega

theorem byteOf_shiftLeft_low (word : BitVec 32) {lanes lane : Nat} (below : lane < lanes) :
    byteOf (word <<< (8 * lanes)) lane = 0#8 := by
  apply BitVec.eq_of_getLsbD_eq
  intro i bit
  rw [byteOf_getLsbD _ _ _ bit]
  have low : 8 * lane + i < 8 * lanes := by omega
  simp [BitVec.getLsbD_shiftLeft, low]

/-- Two addresses differ in the bits above the low ten exactly when they lie in
different 1 KiB pages. -/
theorem xor_page_ne_zero {a b : Nat} (aFits : a < 2 ^ 32) (bFits : b < 2 ^ 32) :
    (a ^^^ b) &&& 0xfffffc00 ≠ 0 ↔ a / 1024 ≠ b / 1024 := by
  rw [not_iff_not]
  have mask : (0xfffffc00 : Nat) = (2 ^ 22 - 1) <<< 10 := by decide
  have high : ∀ x, x < 2 ^ 32 → ∀ i, 32 ≤ i → x.testBit i = false := fun x fits i large =>
    Nat.testBit_lt_two_pow (Nat.lt_of_lt_of_le fits (Nat.pow_le_pow_right (by decide) large))
  constructor
  · intro zero
    apply Nat.eq_of_testBit_eq
    intro i
    have page : (1024 : Nat) = 2 ^ 10 := by decide
    rw [page, Nat.testBit_div_two_pow, Nat.testBit_div_two_pow]
    by_cases inside : i < 22
    · have bit := congrArg (fun n => n.testBit (i + 10)) zero
      simp only [mask, Nat.testBit_and, Nat.testBit_xor, Nat.testBit_shiftLeft, Nat.testBit_two_pow_sub_one,
        Nat.zero_testBit] at bit
      simpa [inside] using bit
    · rw [high a aFits _ (by omega), high b bFits _ (by omega)]
  · intro same
    apply Nat.eq_of_testBit_eq
    intro i
    simp only [mask, Nat.testBit_and, Nat.testBit_xor, Nat.testBit_shiftLeft, Nat.testBit_two_pow_sub_one,
      Nat.zero_testBit]
    by_cases inside : 10 ≤ i
    · have bit := congrArg (fun n => n.testBit (i - 10)) same
      have page : (1024 : Nat) = 2 ^ 10 := by decide
      simp only [page, Nat.testBit_div_two_pow, Nat.sub_add_cancel inside] at bit
      simp [bit]
    · simp [inside]

/-- Unsigned 32-bit addition. -/
def add32 (a b : Nat) : Nat := (a + b) % 2 ^ 32

/-- Unsigned 32-bit subtraction. -/
def sub32 (a b : Nat) : Nat := (a + 2 ^ 32 - b) % 2 ^ 32

theorem add32_of_lt {a b : Nat} (fits : a + b < 2 ^ 32) : add32 a b = a + b := Nat.mod_eq_of_lt fits

theorem sub32_of_le {a b : Nat} (fits : a < 2 ^ 32) (below : b ≤ a) : sub32 a b = a - b := by
  simp only [sub32]
  omega

/-- `a & ~(size - 1U)`. -/
def alignDown (a size : Nat) : Nat := a &&& (2 ^ 32 - 1 - sub32 size 1)

/-- For a power of two the mask rounds down to a multiple. -/
theorem alignDown_two_pow {a k : Nat} (fits : a < 2 ^ 32) (word : k < 32) :
    alignDown a (2 ^ k) = 2 ^ k * (a / 2 ^ k) := by
  have power : 2 ^ k < 2 ^ 32 := Nat.pow_lt_pow_right (by decide) word
  have mask : 2 ^ 32 - 1 - sub32 (2 ^ k) 1 = (2 ^ (32 - k) - 1) <<< k := by
    rw [sub32_of_le power Nat.one_le_two_pow, Nat.shiftLeft_eq, Nat.sub_mul, ← Nat.pow_add, Nat.sub_add_cancel word.le,
      Nat.one_mul]
    have := @Nat.one_le_two_pow k
    omega
  apply Nat.eq_of_testBit_eq
  intro i
  have low : (2 ^ k * (a / 2 ^ k)).testBit i = (decide (k ≤ i) && a.testBit i) := by
    rw [Nat.testBit_two_pow_mul, Nat.testBit_div_two_pow]
    by_cases above : k ≤ i
    · simp [above]
    · simp [above]
  rw [alignDown, mask, low, Nat.testBit_and, Nat.testBit_shiftLeft, Nat.testBit_two_pow_sub_one]
  by_cases inside : i < 32
  · by_cases above : k ≤ i
    · have room : i - k < 32 - k := by omega
      simp [above, room]
    · simp [above]
  · have high : a.testBit i = false :=
      Nat.testBit_lt_two_pow (Nat.lt_of_lt_of_le fits (Nat.pow_le_pow_right (by decide) (Nat.le_of_not_lt inside)))
    simp [high]

/-- Rounding an address down to a multiple stays above every multiple below it. -/
theorem le_round_down {size bound a : Nat} (multiple : size ∣ bound) (below : bound ≤ a) :
    bound ≤ size * (a / size) := by
  obtain ⟨q, rfl⟩ := multiple
  rcases Nat.eq_zero_or_pos size with rfl | positive
  · simp
  · exact Nat.mul_le_mul_left size ((Nat.le_div_iff_mul_le positive).mpr (by rwa [Nat.mul_comm]))

/-- Covering a range from a multiple on in whole steps stays below every multiple
above the range, and reaches its end. -/
theorem round_up_le {size first last bound : Nat} (positive : 0 < size) (start : size ∣ first)
    (multiple : size ∣ bound) (below : last ≤ bound) (ordered : first ≤ last) :
    first + (last - first + size - 1) / size * size ≤ bound ∧
      last ≤ first + (last - first + size - 1) / size * size := by
  obtain ⟨p, rfl⟩ := start
  obtain ⟨q, rfl⟩ := multiple
  have steps := Nat.div_add_mod (last - size * p + size - 1) size
  have rest := Nat.mod_lt (last - size * p + size - 1) positive
  have count : (last - size * p + size - 1) / size ≤ q - p := by
    have less : p ≤ q := Nat.le_of_mul_le_mul_left (ordered.trans below) positive
    have room : last - size * p ≤ (q - p) * size := by
      rw [Nat.sub_mul, Nat.mul_comm q, Nat.mul_comm p]
      omega
    have : (last - size * p + size - 1) / size < q - p + 1 := by
      rw [Nat.div_lt_iff_lt_mul positive, Nat.succ_mul]
      omega
    omega
  constructor
  · have less : p ≤ q := Nat.le_of_mul_le_mul_left (ordered.trans below) positive
    calc size * p + (last - size * p + size - 1) / size * size
        ≤ size * p + (q - p) * size := Nat.add_le_add_left (Nat.mul_le_mul_right size count) _
      _ = size * q := by rw [Nat.mul_comm (q - p), ← Nat.mul_add, Nat.add_sub_cancel' less]
  · rw [Nat.mul_comm ((last - size * p + size - 1) / size)]
    omega

end BlackMagic.Lib.Words
