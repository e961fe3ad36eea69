import Mathlib.Data.List.Nodup

/-! A pool of numbered slots kept in a bit mask: the search for a free slot, and the
agreement between the mask and the slots that are in use. -/

namespace BlackMagic.Lib.Slots

variable {w : Nat}

/-- The first clear bit from `i` on, `more` bits being left. -/
def firstFreeFrom (mask : BitVec w) : Nat → Nat → Nat
  | 0, i => i
  | more + 1, i => if mask.getLsbD i then firstFreeFrom mask more (i + 1) else i

/-- The first clear bit below `available`, or `available`. -/
def firstFree (mask : BitVec w) (available : Nat) : Nat := firstFreeFrom mask available 0

def take (mask : BitVec w) (i : Nat) : BitVec w := mask ||| (1#w <<< i)

def release (mask : BitVec w) (i : Nat) : BitVec w := mask &&& ~~~(1#w <<< i)

theorem firstFreeFrom_spec (mask : BitVec w) (more i : Nat) :
    firstFreeFrom mask more i ≤ i + more ∧
      (firstFreeFrom mask more i ≠ i + more → mask.getLsbD (firstFreeFrom mask more i) = false) := by
  induction more generalizing i with
  | zero => exact ⟨Nat.le_refl i, fun other => absurd rfl other⟩
  | succ more ih =>
    rw [firstFreeFrom]
    split
    next =>
      have later := ih (i + 1)
      rw [Nat.add_assoc, Nat.add_comm 1 more] at later
      exact later
    next free => exact ⟨Nat.le_add_right i _, fun _ => by simpa using free⟩

theorem firstFree_le (mask : BitVec w) (available : Nat) : firstFree mask available ≤ available := by
  have found := (firstFreeFrom_spec mask available 0).1
  rwa [Nat.zero_add] at found

theorem firstFree_free {mask : BitVec w} {available : Nat} (found : firstFree mask available ≠ available) :
    mask.getLsbD (firstFree mask available) = false := by
  apply (firstFreeFrom_spec mask available 0).2
  rwa [Nat.zero_add]

private theorem one_bit (i j : Nat) : (1#w <<< i).getLsbD j = decide (j < w ∧ j = i) := by
  rw [BitVec.getLsbD_shiftLeft, BitVec.getLsbD_one]
  by_cases inside : j < w
  · by_cases same : j = i
    · subst same
      simp [inside]
      omega
    · have apart : j < i ∨ j - i ≠ 0 := by omega
      cases apart with
      | inl low => simp [inside, same, low]
      | inr high => simp [inside, same, high]
  · simp [inside]

theorem getLsbD_take (mask : BitVec w) {i : Nat} (inside : i < w) (j : Nat) :
    (take mask i).getLsbD j = (mask.getLsbD j || decide (j = i)) := by
  rw [take, BitVec.getLsbD_or, one_bit]
  by_cases same : j = i
  · subst same
    simp [inside]
  · simp [same]

theorem getLsbD_release (mask : BitVec w) (i j : Nat) :
    (release mask i).getLsbD j = (mask.getLsbD j && !decide (j = i)) := by
  rw [release, BitVec.getLsbD_and, BitVec.getLsbD_not, one_bit]
  by_cases inside : j < w
  · simp [inside]
  · simp [inside, BitVec.getLsbD_of_ge mask j (by omega)]

/-- The slots in use are distinct, available, and the ones whose bits are set. -/
structure Tracks (mask : BitVec w) (available : Nat) (slots : List Nat) : Prop where
  distinct : slots.Nodup
  bits : ∀ i, mask.getLsbD i = true ↔ i ∈ slots
  inside : ∀ i ∈ slots, i < available
  fits : available ≤ w

theorem Tracks.none {available : Nat} (fits : available ≤ w) : Tracks (0#w) available [] :=
  ⟨List.nodup_nil, fun i => by simp, fun i found => by simp at found, fits⟩

theorem Tracks.take {mask : BitVec w} {available : Nat} {slots : List Nat} (tracked : Tracks mask available slots)
    (found : firstFree mask available ≠ available) :
    Tracks (take mask (firstFree mask available)) available (firstFree mask available :: slots) := by
  have below : firstFree mask available < available := Nat.lt_of_le_of_ne (firstFree_le mask available) found
  have free := firstFree_free found
  generalize firstFree mask available = i at *
  have unused : i ∉ slots := fun used => by
    rw [(tracked.bits i).mpr used] at free
    cases free
  refine ⟨List.nodup_cons.mpr ⟨unused, tracked.distinct⟩, fun j => ?_, fun j used => ?_, tracked.fits⟩
  · rw [getLsbD_take mask (Nat.lt_of_lt_of_le below tracked.fits), Bool.or_eq_true, tracked.bits j, List.mem_cons,
      decide_eq_true_eq, or_comm]
  · cases used with
    | head => exact below
    | tail _ used => exact tracked.inside j used

theorem Tracks.release {mask : BitVec w} {available i : Nat} {before after : List Nat}
    (tracked : Tracks mask available (before ++ i :: after)) :
    Tracks (release mask i) available (before ++ after) := by
  have apart := List.nodup_middle.mp tracked.distinct
  obtain ⟨unused, distinct⟩ := List.nodup_cons.mp apart
  refine ⟨distinct, fun j => ?_, fun j used => ?_, tracked.fits⟩
  · rw [getLsbD_release, Bool.and_eq_true, tracked.bits j, Bool.not_eq_true', decide_eq_false_iff_not]
    constructor
    · intro both
      have member := both.1
      rw [List.mem_append, List.mem_cons] at member
      rw [List.mem_append]
      exact member.imp_right fun late => late.resolve_left both.2
    · intro member
      refine ⟨?_, fun same => unused (same ▸ member)⟩
      rw [List.mem_append] at member ⊢
      exact member.imp_right (List.mem_cons_of_mem i)
  · refine tracked.inside j ?_
    rw [List.mem_append] at used ⊢
    exact used.imp_right (List.mem_cons_of_mem i)

end BlackMagic.Lib.Slots
