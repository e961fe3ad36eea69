import Mathlib.Data.Nat.ModEq
import Mathlib.Tactic.Ring

/-! Polynomial hashes of a window that moves along a sequence, and their update when one value leaves
the window and another enters it. -/

namespace BlackMagic.Lib.RollingHash

/-- The first values of a sequence as the digits of a number, the first one most significant. -/
def polyHash (base : Nat) (values : Nat → Nat) : Nat → Nat
  | 0 => 0
  | width + 1 => polyHash base values width * base + values width

theorem polyHash_congr {base : Nat} {first second : Nat → Nat} {width : Nat} (same : ∀ i < width, first i = second i) :
    polyHash base first width = polyHash base second width := by
  induction width with
  | zero => rfl
  | succ width ih =>
    rw [polyHash, polyHash, ih (fun i inside => same i (Nat.lt_succ_of_lt inside)), same width (Nat.lt_succ_self _)]

theorem polyHash_zero (base width : Nat) : polyHash base (fun _ => 0) width = 0 := by
  induction width with
  | zero => rfl
  | succ width ih => rw [polyHash, ih, Nat.zero_mul]

/-- The window one place further on. -/
theorem polyHash_shift (base : Nat) (values : Nat → Nat) (width : Nat) :
    polyHash base (fun i => values (i + 1)) width + values 0 * base ^ width
      = polyHash base values width * base + values width := by
  induction width with
  | zero =>
    rw [polyHash, polyHash]
    ring
  | succ width ih =>
    calc polyHash base (fun i => values (i + 1)) (width + 1) + values 0 * base ^ (width + 1)
        = (polyHash base (fun i => values (i + 1)) width + values 0 * base ^ width) * base + values (width + 1) := by
          rw [polyHash]
          ring
      _ = (polyHash base values width * base + values width) * base + values (width + 1) := by rw [ih]
      _ = polyHash base values (width + 1) * base + values (width + 1) := by rw [polyHash]

/-- The update of a hash that is kept modulo `q`, with the place value of the leaving digit modulo `q`. -/
theorem polyHash_roll {base q place width : Nat} (positive : 0 < q) (values : Nat → Nat)
    (placed : place ≡ base ^ width [MOD q]) :
    ((polyHash base values (width + 1) % q + q - place * values 0 % q) % q * base + values (width + 1)) % q
      = polyHash base (fun i => values (i + 1)) (width + 1) % q := by
  have below := Nat.mod_lt (place * values 0) positive
  have left : (polyHash base values (width + 1) % q + q - place * values 0 % q) % q + place * values 0
      ≡ polyHash base values (width + 1) [MOD q] :=
    calc (polyHash base values (width + 1) % q + q - place * values 0 % q) % q + place * values 0
        ≡ (polyHash base values (width + 1) % q + q - place * values 0 % q) + place * values 0 % q [MOD q] :=
          Nat.ModEq.add (Nat.mod_modEq _ _) (Nat.mod_modEq _ _).symm
      _ = polyHash base values (width + 1) % q + q := by omega
      _ ≡ polyHash base values (width + 1) [MOD q] := by
          rw [Nat.ModEq, Nat.add_mod_right, Nat.mod_mod]
  have gone : place * values 0 * base ≡ values 0 * base ^ (width + 1) [MOD q] := by
    have moved := (placed.mul_right (values 0)).mul_right base
    rwa [show base ^ width * values 0 * base = values 0 * base ^ (width + 1) by ring] at moved
  have whole : (polyHash base values (width + 1) % q + q - place * values 0 % q) % q * base + values (width + 1)
        + place * values 0 * base
      ≡ polyHash base (fun i => values (i + 1)) (width + 1) + values 0 * base ^ (width + 1) [MOD q] := by
    have rolled := (left.mul_right base).add_right (values (width + 1))
    rw [polyHash_shift base values (width + 1)]
    rwa [Nat.add_mul, Nat.add_right_comm] at rolled
  exact Nat.ModEq.add_right_cancel gone whole

end BlackMagic.Lib.RollingHash
