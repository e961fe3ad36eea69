import BlackMagic.Proofs.SysbusTransfer

/-! The whole transfers: what the detour over a wider access stores and writes, and
from that exactly which transfers are faithful. -/

namespace BlackMagic.Proofs.SysbusFaithful
open BlackMagic.Sysbus MemAp SysbusTransfer Lib.Words

variable {flags : Nat} {noise : Nat → BitVec 32}

/-- The start of the wide block that holds an address. -/
def blockOf (native address : Nat) : Nat := 2 ^ native * (address / 2 ^ native)

theorem alignDown_blockOf {native address : Nat} (narrow : native ≤ 2) (fits : address < 2 ^ 32) :
    alignDown address (2 ^ native) = blockOf native address :=
  alignDown_two_pow fits (by omega)

theorem blockOf_add (native address : Nat) : blockOf native address + address % 2 ^ native = address :=
  Nat.div_add_mod _ _

theorem blockOf_aligned (native address : Nat) : blockOf native address % 2 ^ native = 0 := Nat.mul_mod_right _ _

theorem blockOf_fits {native address : Nat} (narrow : native ≤ 2) (fits : address < 2 ^ 32) :
    blockOf native address + 2 ^ native ≤ 2 ^ 32 := by
  have whole := blockOf_add native address
  have aligned := blockOf_aligned native address
  obtain rfl | rfl | rfl : native = 0 ∨ native = 1 ∨ native = 2 := by omega
  all_goals omega

theorem blockOf_within {native address : Nat} (aligned : address % 2 ^ native = 0) {lane : Nat} (inside : lane < 2 ^ native)
    (blocks : Nat) : blockOf native (address + lane + blocks * 2 ^ native) = address + blocks * 2 ^ native := by
  obtain ⟨count, rfl⟩ := Nat.dvd_of_mod_eq_zero aligned
  have regroup : 2 ^ native * count + lane + blocks * 2 ^ native = lane + 2 ^ native * (count + blocks) := by
    rw [Nat.mul_add, Nat.mul_comm blocks]
    omega
  rw [blockOf, regroup, Nat.add_mul_div_left _ _ (Nat.two_pow_pos native), Nat.div_eq_of_lt inside, Nat.zero_add,
    Nat.mul_add, Nat.mul_comm blocks]

/-- An element of a narrower width lies inside one wide block. -/
theorem element_in_block {native width address : Nat} (narrow : native ≤ 2) (wider : width ≤ native)
    (aligned : address % 2 ^ width = 0) {lane : Nat} (inside : lane < 2 ^ width) :
    address % 2 ^ native + lane < 2 ^ native ∧ address % 2 ^ native % 2 ^ width = 0 := by
  obtain rfl | rfl | rfl : native = 0 ∨ native = 1 ∨ native = 2 := by omega
  all_goals
    obtain rfl | rfl | rfl : width = 0 ∨ width = 1 ∨ width = 2 := by omega
    all_goals omega

/-- The two cases of an adjusted read are one, over the native width. -/
theorem adjustedRead_eq {dest : Buffer} {index src width native : Nat} (case : native = 1 ∨ native = 2) (hart : Hart) :
    riscv32SysbusMemAdjustedRead flags noise dest index src width native (2 ^ native) hart =
      let value := riscv32SysbusMemNativeRead flags noise (fun _ => 0#8) (alignDown src (2 ^ native)) (2 ^ native) native
        (2 ^ native) hart
      ((adiv5UnpackData dest index (src % 2 ^ native) (loadWord value.1 0 (2 ^ native)) (widthAlign width)).1,
        value.2) := by
  rcases case with rfl | rfl
  · rw [riscv32SysbusMemAdjustedRead, Nat.and_two_pow_sub_one_eq_mod src 1]
    rfl
  · rw [riscv32SysbusMemAdjustedRead, Nat.and_two_pow_sub_one_eq_mod src 2]
    rfl

theorem adjustedRead_stores {dest : Buffer} {index src width native : Nat} (case : native = 1 ∨ native = 2)
    (wider : width ≤ native) (aligned : src % 2 ^ width = 0) {hart : Hart} {value out : Buffer × Hart}
    (reading : riscv32SysbusMemNativeRead flags noise (fun _ => 0#8) (alignDown src (2 ^ native)) (2 ^ native) native
      (2 ^ native) hart = value)
    (running : riscv32SysbusMemAdjustedRead flags noise dest index src width native (2 ^ native) hart = out) :
    out.2 = value.2 ∧ ∀ i, out.1 i =
      if index ≤ i ∧ i < index + 2 ^ width then value.1 (src % 2 ^ native + (i - index)) else dest i := by
  rw [adjustedRead_eq case, reading] at running
  subst running
  refine ⟨rfl, fun i => ?_⟩
  have narrow : native ≤ 2 := by omega
  obtain ⟨bytes, thin⟩ := widthAlign_bytes (show width ≤ 2 by omega)
  have offset : src % 2 ^ native % (widthAlign width).bytes = 0 := by
    rw [bytes]
    exact (element_in_block narrow wider aligned (Nat.two_pow_pos width)).2
  rw [MemApTransfer.unpack_stores thin dest index _ offset, bytes]
  refine ite_congr rfl (fun inside => ?_) (fun _ => rfl)
  have lane := (element_in_block narrow wider aligned (show i - index < 2 ^ width by omega)).1
  have small : 2 ^ native ≤ 4 := by rcases case with rfl | rfl <;> decide
  have low : src % 2 ^ native % 4 = src % 2 ^ native := Nat.mod_eq_of_lt (by omega)
  rw [low, loadWord, byteOf_ofLanes _ (by omega), if_pos lane, Nat.zero_add]

/-- An adjusted read over a width that the module has. -/
theorem adjustedRead_able {dest : Buffer} {index src width native : Nat} (case : native = 1 ∨ native = 2)
    (supported : supports flags native = true) (wider : width ≤ native) (aligned : src % 2 ^ width = 0)
    (fits : src < 2 ^ 32) {hart : Hart} (error : hart.bus.error = 0) {out : Buffer × Hart}
    (running : riscv32SysbusMemAdjustedRead flags noise dest index src width native (2 ^ native) hart = out) :
    (∀ i, out.1 i = if index ≤ i ∧ i < index + 2 ^ width then hart.bus.memory (src + (i - index)) else dest i) ∧
      Quiet hart.bus.memory out.2.bus ∧ byteOf out.2.bus.data 0 = hart.bus.memory (blockOf native src) := by
  have narrow : native ≤ 2 := by omega
  generalize reading : riscv32SysbusMemNativeRead flags noise (fun _ => 0#8) (alignDown src (2 ^ native)) (2 ^ native)
    native (2 ^ native) hart = value
  obtain ⟨same, stored⟩ := adjustedRead_stores case wider aligned reading running
  have single : riscv32SysbusMemNativeRead flags noise (fun _ => 0#8) (blockOf native src) (1 * 2 ^ native) native
      (2 ^ native) hart = value := by
    rw [Nat.one_mul, ← alignDown_blockOf narrow fits]
    exact reading
  have able : Able flags native (blockOf native src) := ⟨supported, blockOf_aligned native src⟩
  have room : blockOf native src + 1 * 2 ^ native ≤ 2 ^ 32 := by
    rw [Nat.one_mul]
    exact blockOf_fits narrow fits
  obtain ⟨bytes, quiet, data⟩ := nativeRead_able narrow able Nat.one_pos room (fun _ => 0#8) error single
  rw [same]
  refine ⟨fun i => ?_, quiet, ?_⟩
  · rw [stored i]
    refine ite_congr rfl (fun inside => ?_) (fun _ => rfl)
    have lane := (element_in_block narrow wider aligned (show i - index < 2 ^ width by omega)).1
    rw [bytes, if_pos (by rwa [Nat.one_mul]), ← Nat.add_assoc, blockOf_add]
  · rw [data 0 (Nat.two_pow_pos native)]
    simp

/-- An adjusted read over a width that the module lacks stores zeros if the data
register held zero. -/
theorem adjustedRead_unable {dest : Buffer} {index src width native : Nat} (case : native = 1 ∨ native = 2)
    (unsupported : supports flags native = false) (wider : width ≤ native) (aligned : src % 2 ^ width = 0)
    {hart : Hart} (error : hart.bus.error = 0) (stale : hart.bus.data = 0#32) {out : Buffer × Hart}
    (running : riscv32SysbusMemAdjustedRead flags noise dest index src width native (2 ^ native) hart = out) :
    (∀ i, out.1 i = if index ≤ i ∧ i < index + 2 ^ width then 0#8 else dest i) ∧ Quiet hart.bus.memory out.2.bus := by
  have narrow : native ≤ 2 := by omega
  generalize reading : riscv32SysbusMemNativeRead flags noise (fun _ => 0#8) (alignDown src (2 ^ native)) (2 ^ native)
    native (2 ^ native) hart = value
  obtain ⟨same, stored⟩ := adjustedRead_stores case wider aligned reading running
  have single : riscv32SysbusMemNativeRead flags noise (fun _ => 0#8) (alignDown src (2 ^ native)) (1 * 2 ^ native)
      native (2 ^ native) hart = value := by
    rw [Nat.one_mul]
    exact reading
  have unable : ¬ Able flags native (alignDown src (2 ^ native)) := fun able => by
    rw [able.1] at unsupported
    cases unsupported
  obtain ⟨bytes, quiet⟩ := nativeRead_unable narrow unable (fun _ => 0#8) error single
  rw [same]
  refine ⟨fun i => ?_, quiet⟩
  rw [stored i]
  refine ite_congr rfl (fun _ => ?_) (fun _ => rfl)
  rw [bytes, stale]
  have zero : ∀ lane, byteOf 0#32 lane = 0#8 := fun lane => by simp [byteOf]
  rw [zero, ite_self]

/-- The lengths of a transfer that takes the detour: a first element, whole wide
blocks, and a rest. -/
structure Detour (address len width native : Nat) : Prop where
  case : native = 1 ∨ native = 2
  wider : width ≤ native
  aligned : address % 2 ^ width = 0
  multiple : len % 2 ^ width = 0
  nonempty : 0 < len
  fits : address + len ≤ 2 ^ 32

namespace Detour

variable {address len width native : Nat}

theorem first_le (detour : Detour address len width native) : 2 ^ width ≤ len :=
  Nat.le_of_dvd detour.nonempty (Nat.dvd_of_mod_eq_zero detour.multiple)

theorem amount (detour : Detour address len width native) :
    alignDown (len - 2 ^ width) (2 ^ native) = (len - 2 ^ width) / 2 ^ native * 2 ^ native := by
  have fits := detour.fits
  have size := Nat.two_pow_pos width
  have first := detour.first_le
  have narrow : native ≤ 2 := by have := detour.case; omega
  rw [alignDown_two_pow (by omega) (by omega), Nat.mul_comm]

theorem rest (len width native : Nat) :
    len - 2 ^ width - (len - 2 ^ width) / 2 ^ native * 2 ^ native = (len - 2 ^ width) % 2 ^ native := by
  have whole := Nat.div_add_mod' (len - 2 ^ width) (2 ^ native)
  omega

/-- The rest is a multiple of the access length, and so is every position. -/
theorem rest_multiple (detour : Detour address len width native) : (len - 2 ^ width) % 2 ^ native % 2 ^ width = 0 := by
  rw [Nat.mod_mod_of_dvd _ (Nat.pow_dvd_pow 2 detour.wider)]
  have whole := detour.multiple
  have first := detour.first_le
  rw [← Nat.sub_add_cancel first, Nat.add_mod_right] at whole
  exact whole

theorem position_aligned (detour : Detour address len width native) (blocks : Nat) :
    (address + 2 ^ width + blocks * 2 ^ native) % 2 ^ width = 0 := by
  have blockMultiple : 2 ^ width ∣ blocks * 2 ^ native :=
    Nat.dvd_mul_left_of_dvd (Nat.pow_dvd_pow 2 detour.wider) blocks
  have start : 2 ^ width ∣ address := Nat.dvd_of_mod_eq_zero detour.aligned
  exact Nat.mod_eq_zero_of_dvd (Nat.dvd_add (Nat.dvd_add start (Nat.dvd_refl _)) blockMultiple)

end Detour

/-- The middle of a widened read: whole blocks, if any, after the first element. -/
private theorem middle_stores {src len width native : Nat} (detour : Detour src len width native)
    (supported : supports flags native = true) (more : 2 ^ width < len) {dest : Buffer} {content : Nat → Byte}
    {first second : Buffer × Hart} (quiet : Quiet content first.2.bus)
    (bytes : ∀ i, first.1 i = if i < 2 ^ width then content (src + i) else dest i)
    (running : (if (len - 2 ^ width) / 2 ^ native * 2 ^ native ≠ 0 then
        let part := riscv32SysbusMemNativeRead flags noise (shifted first.1 (2 ^ width)) (src + 2 ^ width)
          ((len - 2 ^ width) / 2 ^ native * 2 ^ native) native (2 ^ native) first.2
        (spliced first.1 (2 ^ width) part.1, part.2)
      else first) = second) :
    Quiet content second.2.bus ∧ ∀ i, second.1 i =
      if i < 2 ^ width then content (src + i)
      else if i < 2 ^ width + (len - 2 ^ width) / 2 ^ native * 2 ^ native then
        if (src + 2 ^ width) % 2 ^ native = 0 then content (src + i)
        else byteOf first.2.bus.data ((i - 2 ^ width) % 2 ^ native)
      else dest i := by
  have narrow : native ≤ 2 := by have := detour.case; omega
  have fits := detour.fits
  have whole := Nat.div_add_mod' (len - 2 ^ width) (2 ^ native)
  generalize count : (len - 2 ^ width) / 2 ^ native = blocks at *
  split at running
  next several =>
    have nonempty : 0 < blocks := Nat.pos_of_ne_zero fun zero => several (by rw [zero, Nat.zero_mul])
    generalize reading : riscv32SysbusMemNativeRead flags noise (shifted first.1 (2 ^ width)) (src + 2 ^ width)
      (blocks * 2 ^ native) native (2 ^ native) first.2 = part at running
    subst running
    by_cases aligned : (src + 2 ^ width) % 2 ^ native = 0
    · obtain ⟨stored, quietPart, -⟩ :=
        nativeRead_able narrow ⟨supported, aligned⟩ nonempty (by omega) (shifted first.1 (2 ^ width)) quiet.error reading
      rw [quiet.memory] at quietPart
      refine ⟨quietPart, fun i => ?_⟩
      simp only [spliced, stored, shifted, quiet.memory, if_pos aligned]
      by_cases low : i < 2 ^ width
      · rw [if_neg (by omega), bytes i]
        simp only [if_pos low]
      · rw [if_pos (by omega), if_neg low]
        by_cases inside : i < 2 ^ width + blocks * 2 ^ native
        · rw [if_pos (by omega), if_pos inside]
          congr 1
          omega
        · rw [if_neg (by omega), if_neg inside, bytes, if_neg (by omega)]
          congr 1
          omega
    · obtain ⟨stored, quietPart⟩ :=
        nativeRead_unable narrow (fun able => aligned able.2) (shifted first.1 (2 ^ width)) quiet.error reading
      rw [quiet.memory] at quietPart
      refine ⟨quietPart, fun i => ?_⟩
      simp only [spliced, stored, shifted, if_neg aligned]
      by_cases low : i < 2 ^ width
      · rw [if_neg (by omega), bytes i]
        simp only [if_pos low]
      · rw [if_pos (by omega), if_neg low]
        by_cases inside : i < 2 ^ width + blocks * 2 ^ native
        · rw [if_pos (by omega), if_pos inside]
        · rw [if_neg (by omega), if_neg inside, bytes, if_neg (by omega)]
          congr 1
          omega
  next none =>
    rw [ne_eq, not_not] at none
    subst running
    refine ⟨quiet, fun i => ?_⟩
    rw [bytes i, none, Nat.add_zero]
    refine ite_congr rfl (fun _ => rfl) (fun outside => ?_)
    rw [if_neg outside]

/-- What a widened read stores when the module has the wider width: everything but
the whole blocks of a misaligned middle, which repeat the data register, and the
part of the rest after its first element, which is left alone. -/
theorem widenedRead_stores {dest : Buffer} {src len width native : Nat} (detour : Detour src len width native)
    (supported : supports flags native = true) {hart : Hart} (error : hart.bus.error = 0) {out : Buffer × Hart}
    (running : widenedRead flags noise dest src len width native hart = out) :
    ∃ stale : BitVec 32, byteOf stale 0 = hart.bus.memory (blockOf native src) ∧
      ∀ i, out.1 i =
        if i < 2 ^ width then hart.bus.memory (src + i)
        else if i < 2 ^ width + (len - 2 ^ width) / 2 ^ native * 2 ^ native then
          if (src + 2 ^ width) % 2 ^ native = 0 then hart.bus.memory (src + i)
          else byteOf stale ((i - 2 ^ width) % 2 ^ native)
        else if (len - 2 ^ width) % 2 ^ native ≠ 0 ∧
            i < 2 ^ width + (len - 2 ^ width) / 2 ^ native * 2 ^ native + 2 ^ width then hart.bus.memory (src + i)
        else dest i := by
  have fits := detour.fits
  have firstLe := detour.first_le
  have nonempty := detour.nonempty
  have size := Nat.two_pow_pos width
  rw [widenedRead] at running
  generalize stepOne : riscv32SysbusMemAdjustedRead flags noise dest 0 src width native (2 ^ native) hart =
    first at running
  obtain ⟨bytes, quiet, data⟩ :=
    adjustedRead_able detour.case supported detour.wider detour.aligned (by omega) error stepOne
  simp only [Nat.zero_le, true_and, Nat.zero_add, Nat.sub_zero] at bytes
  refine ⟨first.2.bus.data, data, fun i => ?_⟩
  split at running
  next single =>
    subst running
    rw [bytes i, single, Nat.zero_div, Nat.zero_mul, Nat.add_zero, Nat.zero_mod]
    refine ite_congr rfl (fun _ => rfl) (fun outside => ?_)
    rw [if_neg outside, if_neg (by simp)]
  next several =>
    have more : 2 ^ width < len := by omega
    simp only [detour.amount, Detour.rest] at running
    rw [add32_of_lt (by omega)] at running
    generalize middle : (if (len - 2 ^ width) / 2 ^ native * 2 ^ native ≠ 0 then
      (spliced first.1 (2 ^ width) (riscv32SysbusMemNativeRead flags noise (shifted first.1 (2 ^ width)) (src + 2 ^ width)
          ((len - 2 ^ width) / 2 ^ native * 2 ^ native) native (2 ^ native) first.2).1,
        (riscv32SysbusMemNativeRead flags noise (shifted first.1 (2 ^ width)) (src + 2 ^ width)
          ((len - 2 ^ width) / 2 ^ native * 2 ^ native) native (2 ^ native) first.2).2)
      else first) = second at running
    obtain ⟨quietSecond, stored⟩ := middle_stores detour supported more quiet bytes middle
    have whole := Nat.div_add_mod' (len - 2 ^ width) (2 ^ native)
    split at running
    next rest =>
      rw [add32_of_lt (by omega)] at running
      obtain ⟨bytesRest, -, -⟩ := adjustedRead_able detour.case supported detour.wider
        (detour.position_aligned _) (by omega) quietSecond.error running
      rw [bytesRest i, quietSecond.memory, stored i]
      generalize (len - 2 ^ width) / 2 ^ native * 2 ^ native = amount at *
      by_cases last : 2 ^ width + amount ≤ i ∧ i < 2 ^ width + amount + 2 ^ width
      · rw [if_pos last, if_neg (by omega), if_neg (by omega), if_pos ⟨rest, last.2⟩]
        congr 1
        omega
      · rw [if_neg last]
        refine ite_congr rfl (fun _ => rfl) (fun high => ?_)
        refine ite_congr rfl (fun _ => rfl) (fun beyond => ?_)
        rw [if_neg (by omega)]
    next none =>
      subst running
      rw [stored i]
      refine ite_congr rfl (fun _ => rfl) (fun high => ?_)
      refine ite_congr rfl (fun _ => rfl) (fun beyond => ?_)
      rw [if_neg (fun both => none both.1)]

/-- A widened read over a width that the module lacks stores a zero first if the data
register held zero. -/
theorem widenedRead_unable {dest : Buffer} {src len width native : Nat} (detour : Detour src len width native)
    (unsupported : supports flags native = false) {hart : Hart} (error : hart.bus.error = 0)
    (stale : hart.bus.data = 0#32) : (widenedRead flags noise dest src len width native hart).1 0 = 0#8 := by
  have size := Nat.two_pow_pos width
  have fits := detour.fits
  have firstLe := detour.first_le
  generalize running : widenedRead flags noise dest src len width native hart = out
  rw [widenedRead] at running
  generalize stepOne : riscv32SysbusMemAdjustedRead flags noise dest 0 src width native (2 ^ native) hart =
    first at running
  obtain ⟨bytes, -⟩ := adjustedRead_unable detour.case unsupported detour.wider detour.aligned error stale stepOne
  have zero : first.1 0 = 0#8 := by rw [bytes 0, if_pos (by omega)]
  split at running
  next =>
    subst running
    exact zero
  next =>
    simp only [detour.amount, Detour.rest] at running
    rw [add32_of_lt (by omega)] at running
    obtain ⟨second, middle, kept⟩ : ∃ second, (if (len - 2 ^ width) / 2 ^ native * 2 ^ native ≠ 0 then
      (spliced first.1 (2 ^ width) (riscv32SysbusMemNativeRead flags noise (shifted first.1 (2 ^ width)) (src + 2 ^ width)
          ((len - 2 ^ width) / 2 ^ native * 2 ^ native) native (2 ^ native) first.2).1,
        (riscv32SysbusMemNativeRead flags noise (shifted first.1 (2 ^ width)) (src + 2 ^ width)
          ((len - 2 ^ width) / 2 ^ native * 2 ^ native) native (2 ^ native) first.2).2)
      else first) = second ∧ second.1 0 = 0#8 := by
      refine ⟨_, rfl, ?_⟩
      split
      next =>
        simp only [spliced]
        rw [if_neg (by omega)]
        exact zero
      next => exact zero
    rw [middle] at running
    split at running
    next =>
      have whole := Nat.div_add_mod' (len - 2 ^ width) (2 ^ native)
      rw [add32_of_lt (by omega)] at running
      obtain ⟨-, stored⟩ := adjustedRead_stores detour.case detour.wider (detour.position_aligned _) rfl running
      rw [stored 0, if_neg (by omega)]
      exact kept
    next =>
      subst running
      exact kept

/-- The read fills the buffer with the named memory and nothing else, whatever the
memory, the buffer and the registers hold. -/
def ReadsFaithfully (flags src len : Nat) : Prop :=
  ∀ (noise : Nat → BitVec 32) (dest : Buffer) (hart : Hart), hart.bus.error = 0 →
    ∀ i, (riscv32SysbusMemRead flags noise dest src len hart).1 i =
      if i < len then hart.bus.memory (src + i) else dest i

/-- The read is of a width that the module has; or of one for which it has a wider
one, and after its first element the whole wide blocks, if any, are aligned, and the
rest is at most one element. -/
def ReadCondition (flags src len : Nat) : Prop :=
  let width := riscvMemAccessWidth src len
  let native := nextNativeWidth flags 2 width
  supports flags width = true ∨
    supports flags native = true ∧
      ((len - 2 ^ width) / 2 ^ native = 0 ∨ (src + 2 ^ width) % 2 ^ native = 0) ∧
      ((len - 2 ^ width) % 2 ^ native = 0 ∨ (len - 2 ^ width) % 2 ^ native = 2 ^ width)

instance (flags src len : Nat) : Decidable (ReadCondition flags src len) :=
  inferInstanceAs (Decidable (_ ∨ _))

/-- A hart at rest over the given memory. -/
def restingHart (memory : Nat → Byte) : Hart := ⟨0, ⟨0, 0, 0, 0#32, memory⟩⟩

private theorem unsupported_detour {src len : Nat} (nonempty : 0 < len) (fits : src + len ≤ 2 ^ 32)
    (unsupported : supports flags (riscvMemAccessWidth src len) = false) :
    Detour src len (riscvMemAccessWidth src len) (nextNativeWidth flags 2 (riscvMemAccessWidth src len)) := by
  obtain ⟨narrow, aligned, multiple, -⟩ := accessWidth_spec src len
  obtain ⟨small, wider, -, -, positive⟩ := nextNativeWidth_spec narrow unsupported
  exact ⟨by omega, wider, aligned, multiple, nonempty, fits⟩

/-- A read in a native width. -/
private theorem native_reads {src len : Nat} (nonempty : 0 < len) (fits : src + len ≤ 2 ^ 32)
    (supported : supports flags (riscvMemAccessWidth src len) = true) : ReadsFaithfully flags src len := by
  obtain ⟨narrow, aligned, multiple, -⟩ := accessWidth_spec src len
  intro noise dest hart error i
  have taken : flags &&& 2 ^ riscvMemAccessWidth src len ≠ 0 := (flags_and_width narrow).mpr supported
  rw [riscv32SysbusMemRead]
  simp only [if_pos taken]
  generalize riscvMemAccessWidth src len = width at *
  obtain ⟨count, rfl⟩ := Nat.dvd_of_mod_eq_zero multiple
  rw [Nat.mul_comm] at nonempty fits ⊢
  have some : 0 < count := Nat.pos_of_mul_pos_right nonempty
  generalize running : riscv32SysbusMemNativeRead flags noise dest src (count * 2 ^ width) width (2 ^ width) hart = out
  exact (nativeRead_able narrow ⟨supported, aligned⟩ some fits dest error running).1 i

section Widened

variable {src len width native : Nat}

private theorem reads_has_native (detour : Detour src len width native)
    (faithful : ∀ (noise : Nat → BitVec 32) (dest : Buffer) (hart : Hart), hart.bus.error = 0 →
      ∀ i, (widenedRead flags noise dest src len width native hart).1 i =
        if i < len then hart.bus.memory (src + i) else dest i) : supports flags native = true := by
  by_contra unsupported
  rw [Bool.not_eq_true] at unsupported
  have wrong := faithful (fun _ => 0#32) (fun _ => 0#8) (restingHart fun _ => 1#8) rfl 0
  rw [widenedRead_unable detour unsupported rfl rfl, if_pos detour.nonempty] at wrong
  exact absurd wrong (by simp [restingHart])

private theorem reads_middle_aligned (detour : Detour src len width native) (supported : supports flags native = true)
    (faithful : ∀ (noise : Nat → BitVec 32) (dest : Buffer) (hart : Hart), hart.bus.error = 0 →
      ∀ i, (widenedRead flags noise dest src len width native hart).1 i =
        if i < len then hart.bus.memory (src + i) else dest i) :
    (len - 2 ^ width) / 2 ^ native = 0 ∨ (src + 2 ^ width) % 2 ^ native = 0 := by
  by_contra both
  obtain ⟨some, misaligned⟩ := not_or.mp both
  have whole := Nat.div_add_mod' (len - 2 ^ width) (2 ^ native)
  have nativeSize := Nat.two_pow_pos native
  have blocks : 0 < (len - 2 ^ width) / 2 ^ native * 2 ^ native := Nat.mul_pos (Nat.pos_of_ne_zero some) nativeSize
  let memory : Nat → Byte := fun a => if a = src + 2 ^ width then 1#8 else 0#8
  generalize running : widenedRead flags (fun _ => 0#32) (fun _ => 0#8) src len width native (restingHart memory) = out
  obtain ⟨stale, zero, stored⟩ := widenedRead_stores detour supported rfl running
  have wrong := faithful (fun _ => 0#32) (fun _ => 0#8) (restingHart memory) rfl (2 ^ width)
  rw [running, stored, if_neg (Nat.lt_irrefl _), if_pos (by omega), if_neg misaligned, Nat.sub_self, Nat.zero_mod, zero,
    if_pos (by omega)] at wrong
  have elsewhere : blockOf native src ≠ src + 2 ^ width := fun same => misaligned (same ▸ blockOf_aligned native src)
  simp [restingHart, memory, elsewhere] at wrong

private theorem reads_rest_single (detour : Detour src len width native) (supported : supports flags native = true)
    (faithful : ∀ (noise : Nat → BitVec 32) (dest : Buffer) (hart : Hart), hart.bus.error = 0 →
      ∀ i, (widenedRead flags noise dest src len width native hart).1 i =
        if i < len then hart.bus.memory (src + i) else dest i) :
    (len - 2 ^ width) % 2 ^ native = 0 ∨ (len - 2 ^ width) % 2 ^ native = 2 ^ width := by
  by_contra both
  obtain ⟨some, long⟩ := not_or.mp both
  have whole := Nat.div_add_mod' (len - 2 ^ width) (2 ^ native)
  have size := Nat.two_pow_pos width
  have several : 2 ^ width < (len - 2 ^ width) % 2 ^ native := by
    have multiple := Nat.dvd_of_mod_eq_zero detour.rest_multiple
    have least := Nat.le_of_dvd (Nat.pos_of_ne_zero some) multiple
    omega
  generalize running :
    widenedRead flags (fun _ => 0#32) (fun _ => 1#8) src len width native (restingHart fun _ => 0#8) = out
  obtain ⟨stale, -, stored⟩ := widenedRead_stores detour supported rfl running
  have wrong := faithful (fun _ => 0#32) (fun _ => 1#8) (restingHart fun _ => 0#8) rfl
    (2 ^ width + (len - 2 ^ width) / 2 ^ native * 2 ^ native + 2 ^ width)
  rw [running, stored, if_neg (by omega), if_neg (by omega), if_neg (by omega), if_pos (by omega)] at wrong
  simp [restingHart] at wrong

private theorem widened_reads (detour : Detour src len width native) (supported : supports flags native = true)
    (middle : (len - 2 ^ width) / 2 ^ native = 0 ∨ (src + 2 ^ width) % 2 ^ native = 0)
    (rest : (len - 2 ^ width) % 2 ^ native = 0 ∨ (len - 2 ^ width) % 2 ^ native = 2 ^ width)
    {dest : Buffer} {hart : Hart} (error : hart.bus.error = 0) (i : Nat) :
    (widenedRead flags noise dest src len width native hart).1 i =
      if i < len then hart.bus.memory (src + i) else dest i := by
  have whole := Nat.div_add_mod' (len - 2 ^ width) (2 ^ native)
  have firstLe := detour.first_le
  generalize running : widenedRead flags noise dest src len width native hart = out
  obtain ⟨stale, -, stored⟩ := widenedRead_stores detour supported error running
  rw [stored i]
  by_cases first : i < 2 ^ width
  · rw [if_pos first, if_pos (by omega)]
  · rw [if_neg first]
    by_cases inner : i < 2 ^ width + (len - 2 ^ width) / 2 ^ native * 2 ^ native
    · have some : (len - 2 ^ width) / 2 ^ native ≠ 0 := fun zero => by
        rw [zero, Nat.zero_mul] at inner
        omega
      rw [if_pos inner, if_pos (middle.resolve_left some), if_pos (by omega)]
    · rw [if_neg inner]
      rcases rest with none | single
      · rw [if_neg (fun both => both.1 none), if_neg (by omega)]
      · refine ite_congr ?_ (fun _ => rfl) (fun _ => rfl)
        have size := Nat.two_pow_pos width
        rw [eq_iff_iff]
        omega

end Widened

theorem reads_iff {src len : Nat} (nonempty : 0 < len) (fits : src + len ≤ 2 ^ 32) :
    ReadsFaithfully flags src len ↔ ReadCondition flags src len := by
  by_cases supported : supports flags (riscvMemAccessWidth src len) = true
  · exact iff_of_true (native_reads nonempty fits supported) (.inl supported)
  · have unsupported : supports flags (riscvMemAccessWidth src len) = false := by simpa using supported
    have detour := unsupported_detour nonempty fits unsupported
    have skipped : ¬ flags &&& 2 ^ riscvMemAccessWidth src len ≠ 0 := fun taken =>
      supported ((flags_and_width (accessWidth_spec src len).1).mp taken)
    have taken : ∀ noise dest hart, riscv32SysbusMemRead flags noise dest src len hart =
        widenedRead flags noise dest src len (riscvMemAccessWidth src len)
          (nextNativeWidth flags 2 (riscvMemAccessWidth src len)) hart := by
      intro noise dest hart
      rw [riscv32SysbusMemRead]
      simp only [if_neg skipped]
    simp only [ReadsFaithfully, ReadCondition, taken, unsupported, Bool.false_eq_true, false_or]
    constructor
    · intro faithful
      have wide := reads_has_native detour faithful
      exact ⟨wide, reads_middle_aligned detour wide faithful, reads_rest_single detour wide faithful⟩
    · rintro ⟨wide, middle, rest⟩ noise dest hart error i
      exact widened_reads detour wide middle rest error i

/-- Packing an element leaves zeros in all other lanes. -/
theorem pack_byte {width offset lane : Nat} (narrow : width ≤ 2) (small : offset + 2 ^ width ≤ 4)
    (aligned : offset % 2 ^ width = 0) (src : Buffer) (inside : lane < 4) :
    byteOf (adiv5PackData offset src 0 (widthAlign width)).1 lane =
      if offset ≤ lane ∧ lane < offset + 2 ^ width then src (lane - offset) else 0#8 := by
  obtain ⟨bytes, thin⟩ := widthAlign_bytes narrow
  have low : offset % 4 = offset := Nat.mod_eq_of_lt (by have := Nat.two_pow_pos width; omega)
  by_cases element : offset ≤ lane ∧ lane < offset + 2 ^ width
  · have placed := MemApTransfer.pack_lane thin src 0 (by rw [bytes]; exact aligned)
      (show lane - offset < (widthAlign width).bytes by rw [bytes]; omega)
    rw [low, Nat.add_sub_cancel' element.1, Nat.zero_add] at placed
    rw [if_pos element, placed]
  · rw [if_neg element]
    have high : ∀ (count shift : Nat), count ≤ 4 → shift = offset → count = 2 ^ width →
        byteOf (loadWord src 0 count <<< (8 * shift)) lane = 0#8 := by
      rintro count shift short rfl size
      by_cases below : lane < shift
      · exact byteOf_shiftLeft_low _ below
      · have beyond : ¬ lane - shift < count := by omega
        have place : shift + (lane - shift) = lane := by omega
        have moved := byteOf_shiftLeft (loadWord src 0 count) (show shift + (lane - shift) < 4 by omega)
        rw [place] at moved
        rw [moved, loadWord, byteOf_ofLanes _ (by omega), if_neg beyond]
    interval_cases width
    · exact high 1 _ (by decide) (by rw [Nat.and_two_pow_sub_one_eq_mod offset 2]; exact low) rfl
    · have even : offset &&& 2 = offset := by
        have few : offset ≤ 2 := by omega
        interval_cases offset <;> first | rfl | omega
      exact high 2 _ (by decide) even rfl
    · omega

/-- An adjusted write over a width that the module has overwrites the whole wide block,
with zeros around the element. -/
theorem adjustedWrite_able {dest width native : Nat} {src : Buffer} (case : native = 1 ∨ native = 2)
    (supported : supports flags native = true) (wider : width ≤ native) (aligned : dest % 2 ^ width = 0)
    (fits : dest < 2 ^ 32) {hart : Hart} (error : hart.bus.error = 0) {out : Hart}
    (running : riscv32SysbusMemAdjustedWrite flags noise dest src width native (2 ^ native) hart = out) :
    out.bus.error = 0 ∧ ∀ a, out.bus.memory a =
      if blockOf native dest ≤ a ∧ a < blockOf native dest + 2 ^ native then
        if dest ≤ a ∧ a < dest + 2 ^ width then src (a - dest) else 0#8
      else hart.bus.memory a := by
  have narrow : native ≤ 2 := by omega
  have room : blockOf native dest + 1 * 2 ^ native ≤ 2 ^ 32 := by
    rw [Nat.one_mul]
    exact blockOf_fits narrow fits
  have able : Able flags native (blockOf native dest) := ⟨supported, blockOf_aligned native dest⟩
  have small : 2 ^ native ≤ 4 := by rcases case with rfl | rfl <;> decide
  obtain ⟨value, writing, packed⟩ : ∃ value, riscv32SysbusMemNativeWrite flags noise (blockOf native dest) value
      (1 * 2 ^ native) native (2 ^ native)
      (riscv32SysbusMemNativeRead flags noise (fun _ => 0#8) (blockOf native dest) (1 * 2 ^ native) native (2 ^ native)
        hart).2 = out ∧
      ∀ lane < 2 ^ native, value lane = byteOf (adiv5PackData (dest % 2 ^ native) src 0 (widthAlign width)).1 lane := by
    rw [← alignDown_blockOf narrow fits, Nat.one_mul]
    rcases case with rfl | rfl
    · rw [riscv32SysbusMemAdjustedWrite, Nat.and_two_pow_sub_one_eq_mod dest 1] at running
      refine ⟨_, running, fun lane inside => ?_⟩
      have half : lane = 0 ∨ lane = 1 := by omega
      apply byteOf_ext
      intro i bit
      have ones : (0xffff#32).getLsbD (8 * lane + i) = true := by
        rcases half with rfl | rfl <;> interval_cases i <;> rfl
      simp [ones]
    · rw [riscv32SysbusMemAdjustedWrite, Nat.and_two_pow_sub_one_eq_mod dest 2] at running
      exact ⟨_, running, fun lane inside => rfl⟩
  generalize reading : riscv32SysbusMemNativeRead flags noise (fun _ => 0#8) (blockOf native dest) (1 * 2 ^ native)
    native (2 ^ native) hart = read at writing
  obtain ⟨-, quiet, -⟩ := nativeRead_able narrow able Nat.one_pos room (fun _ => 0#8) error reading
  obtain ⟨written, cleared⟩ := nativeWrite_able narrow able room value quiet.error writing
  refine ⟨cleared, fun a => ?_⟩
  rw [written a, quiet.memory, Nat.one_mul]
  refine ite_congr rfl (fun inside => ?_) (fun _ => rfl)
  have whole := blockOf_add native dest
  have element := element_in_block narrow wider aligned (show 2 ^ width - 1 < 2 ^ width by
    have := Nat.two_pow_pos width
    omega)
  have size := Nat.two_pow_pos width
  rw [packed _ (by omega), pack_byte (by omega) (by omega) element.2 src (by omega)]
  by_cases covered : dest ≤ a ∧ a < dest + 2 ^ width
  · rw [if_pos covered, if_pos ⟨by omega, by omega⟩]
    congr 1
    omega
  · rw [if_neg covered, if_neg (by omega)]

/-- An adjusted write over a width that the module lacks changes nothing. -/
theorem adjustedWrite_unable {dest width native : Nat} {src : Buffer} (case : native = 1 ∨ native = 2)
    (unsupported : supports flags native = false) {hart : Hart} (error : hart.bus.error = 0) {out : Hart}
    (running : riscv32SysbusMemAdjustedWrite flags noise dest src width native (2 ^ native) hart = out) :
    Quiet hart.bus.memory out.bus := by
  have narrow : native ≤ 2 := by omega
  have unable : ∀ address, ¬ Able flags native address := fun address able => by
    rw [able.1] at unsupported
    cases unsupported
  obtain ⟨value, writing⟩ : ∃ value, riscv32SysbusMemNativeWrite flags noise (alignDown dest (2 ^ native)) value
      (1 * 2 ^ native) native (2 ^ native)
      (riscv32SysbusMemNativeRead flags noise (fun _ => 0#8) (alignDown dest (2 ^ native)) (1 * 2 ^ native) native
        (2 ^ native) hart).2 = out := by
    rw [Nat.one_mul]
    rcases case with rfl | rfl
    · exact ⟨_, running⟩
    · exact ⟨_, running⟩
  generalize reading : riscv32SysbusMemNativeRead flags noise (fun _ => 0#8) (alignDown dest (2 ^ native))
    (1 * 2 ^ native) native (2 ^ native) hart = read at writing
  obtain ⟨-, quiet⟩ := nativeRead_unable narrow (unable _) (fun _ => 0#8) error reading
  have still := nativeWrite_unable narrow (unable _) value quiet.error writing
  rwa [quiet.memory] at still

/-- The memory after a widened write, at one address, from what its three parts do
there: the first element, the whole blocks, and the rest. -/
theorem widenedWrite_parts {dest len width native : Nat} {src : Buffer} (detour : Detour dest len width native)
    {hart out : Hart} (running : widenedWrite flags noise dest src len width native hart = out) :
    ∃ first, riscv32SysbusMemAdjustedWrite flags noise dest src width native (2 ^ native) hart = first ∧
      (len = 2 ^ width → out = first) ∧
      (len ≠ 2 ^ width → ∃ second, (if (len - 2 ^ width) / 2 ^ native * 2 ^ native ≠ 0 then
          riscv32SysbusMemNativeWrite flags noise (dest + 2 ^ width) (shifted src (2 ^ width))
            ((len - 2 ^ width) / 2 ^ native * 2 ^ native) native (2 ^ native) first
        else first) = second ∧
        (if (len - 2 ^ width) % 2 ^ native ≠ 0 then
          riscv32SysbusMemAdjustedWrite flags noise (dest + 2 ^ width + (len - 2 ^ width) / 2 ^ native * 2 ^ native)
            (shifted src (2 ^ width + (len - 2 ^ width) / 2 ^ native * 2 ^ native)) width native (2 ^ native) second
        else second) = out) := by
  have fits := detour.fits
  have firstLe := detour.first_le
  have size := Nat.two_pow_pos width
  refine ⟨_, rfl, fun single => ?_, fun several => ?_⟩
  · have none : len - 2 ^ width = 0 := by omega
    rw [← running, widenedWrite]
    simp only [if_pos none]
  · refine ⟨_, rfl, ?_⟩
    have more : ¬ len - 2 ^ width = 0 := by omega
    have whole := Nat.div_add_mod' (len - 2 ^ width) (2 ^ native)
    have address : add32 dest (2 ^ width) = dest + 2 ^ width := add32_of_lt (by omega)
    simp only [widenedWrite, if_neg more, detour.amount, Detour.rest, address] at running
    rw [← running]
    refine ite_congr rfl (fun rest => ?_) (fun _ => rfl)
    rw [add32_of_lt (by omega)]

/-- A widened write over a width that the module lacks changes nothing. -/
theorem widenedWrite_unable {dest len width native : Nat} {src : Buffer} (detour : Detour dest len width native)
    (unsupported : supports flags native = false) {hart out : Hart} (error : hart.bus.error = 0)
    (running : widenedWrite flags noise dest src len width native hart = out) : Quiet hart.bus.memory out.bus := by
  have narrow : native ≤ 2 := by have := detour.case; omega
  obtain ⟨first, stepOne, alone, onward⟩ := widenedWrite_parts detour running
  have quietFirst := adjustedWrite_unable detour.case unsupported error stepOne
  by_cases single : len = 2 ^ width
  · rw [alone single]
    exact quietFirst
  · obtain ⟨second, middle, last⟩ := onward single
    have quietSecond : Quiet hart.bus.memory second.bus := by
      split at middle
      next =>
        have unable : ¬ Able flags native (dest + 2 ^ width) := fun able => by
          rw [able.1] at unsupported
          cases unsupported
        have still := nativeWrite_unable narrow unable _ quietFirst.error middle
        rwa [quietFirst.memory] at still
      next => exact middle ▸ quietFirst
    split at last
    next =>
      have still := adjustedWrite_unable detour.case unsupported quietSecond.error last
      rwa [quietSecond.memory] at still
    next => exact last ▸ quietSecond

section Zeros

variable {a : Nat}

/-- The bus is at rest and the byte at `a` is zero. -/
private def Zeroed (a : Nat) (hart : Hart) : Prop := hart.bus.error = 0 ∧ hart.bus.memory a = 0#8

private theorem nativeWrite_zeros {width address count : Nat} (narrow : width ≤ 2)
    (fits : address + count * 2 ^ width ≤ 2 ^ 32) {src : Buffer} (zeros : ∀ i, src i = 0#8) {hart out : Hart}
    (before : Zeroed a hart)
    (running : riscv32SysbusMemNativeWrite flags noise address src (count * 2 ^ width) width (2 ^ width) hart = out) :
    Zeroed a out := by
  by_cases able : Able flags width address
  · obtain ⟨written, cleared⟩ := nativeWrite_able narrow able fits src before.1 running
    refine ⟨cleared, ?_⟩
    rw [written a, zeros, before.2, ite_self]
  · have quiet := nativeWrite_unable narrow able src before.1 running
    refine ⟨quiet.error, ?_⟩
    rw [quiet.memory]
    exact before.2

private theorem adjustedWrite_zeros {dest width native : Nat} {src : Buffer} (case : native = 1 ∨ native = 2)
    (supported : supports flags native = true) (wider : width ≤ native) (aligned : dest % 2 ^ width = 0)
    (fits : dest < 2 ^ 32) (zeros : ∀ i, src i = 0#8) {hart out : Hart} (before : Zeroed a hart)
    (running : riscv32SysbusMemAdjustedWrite flags noise dest src width native (2 ^ native) hart = out) :
    Zeroed a out := by
  obtain ⟨cleared, written⟩ := adjustedWrite_able case supported wider aligned fits before.1 running
  refine ⟨cleared, ?_⟩
  rw [written a, zeros, before.2, ite_self, ite_self]

/-- Zeros written with the detour zero every byte of the first wide block. -/
private theorem widenedWrite_zeros {dest len width native : Nat} {src : Buffer} (detour : Detour dest len width native)
    (supported : supports flags native = true) (zeros : ∀ i, src i = 0#8) {hart out : Hart}
    (error : hart.bus.error = 0) (block : blockOf native dest ≤ a ∧ a < blockOf native dest + 2 ^ native)
    (running : widenedWrite flags noise dest src len width native hart = out) : Zeroed a out := by
  have narrow : native ≤ 2 := by have := detour.case; omega
  have fits := detour.fits
  have firstLe := detour.first_le
  have size := Nat.two_pow_pos width
  have whole := Nat.div_add_mod' (len - 2 ^ width) (2 ^ native)
  obtain ⟨first, stepOne, alone, onward⟩ := widenedWrite_parts detour running
  have zeroedFirst : Zeroed a first := by
    obtain ⟨cleared, written⟩ :=
      adjustedWrite_able detour.case supported detour.wider detour.aligned (by omega) error stepOne
    refine ⟨cleared, ?_⟩
    rw [written a, if_pos block, zeros, ite_self]
  by_cases single : len = 2 ^ width
  · rw [alone single]
    exact zeroedFirst
  · obtain ⟨second, middle, last⟩ := onward single
    have zeroedSecond : Zeroed a second := by
      split at middle
      next => exact nativeWrite_zeros narrow (by omega) (fun i => zeros _) zeroedFirst middle
      next => exact middle ▸ zeroedFirst
    split at last
    next =>
      exact adjustedWrite_zeros detour.case supported detour.wider (detour.position_aligned _) (by omega)
        (fun i => zeros _) zeroedSecond last
    next => exact last ▸ zeroedSecond

end Zeros

/-- The write changes the memory to the source bytes on the named range and nowhere
else, whatever the memory, the source and the registers hold. -/
def WritesFaithfully (flags dest len : Nat) : Prop :=
  ∀ (noise : Nat → BitVec 32) (src : Buffer) (hart : Hart), hart.bus.error = 0 →
    ∀ a, (riscv32SysbusMemWrite flags noise dest src len hart).bus.memory a =
      if dest ≤ a ∧ a < dest + len then src (a - dest) else hart.bus.memory a

section Widened

variable {dest len width native : Nat}

private def WidenedWrites (flags dest len width native : Nat) : Prop :=
  ∀ (noise : Nat → BitVec 32) (src : Buffer) (hart : Hart), hart.bus.error = 0 →
    ∀ a, (widenedWrite flags noise dest src len width native hart).bus.memory a =
      if dest ≤ a ∧ a < dest + len then src (a - dest) else hart.bus.memory a

/-- A byte of the first wide block outside the range is lost. -/
private theorem neighbour_lost (detour : Detour dest len width native) (supported : supports flags native = true)
    {a : Nat} (block : blockOf native dest ≤ a ∧ a < blockOf native dest + 2 ^ native)
    (outside : ¬ (dest ≤ a ∧ a < dest + len)) : ¬ WidenedWrites flags dest len width native := by
  intro faithful
  have wrong := faithful (fun _ => 0#32) (fun _ => 0#8) (restingHart fun _ => 1#8) rfl a
  generalize running :
    widenedWrite flags (fun _ => 0#32) dest (fun _ => 0#8) len width native (restingHart fun _ => 1#8) = out at wrong
  have zeroed := widenedWrite_zeros detour supported (fun _ => rfl) rfl block running
  rw [zeroed.2, if_neg outside] at wrong
  simp [restingHart] at wrong

/-- From an aligned start the blocks after the first element are misaligned and not
written. -/
private theorem middle_missed (detour : Detour dest len width native) (supported : supports flags native = true)
    (wider : width < native) (aligned : dest % 2 ^ native = 0) (blocks : (len - 2 ^ width) / 2 ^ native ≠ 0)
    {hart out : Hart} (error : hart.bus.error = 0) {src : Buffer}
    (running : widenedWrite flags noise dest src len width native hart = out) :
    out.bus.memory (dest + 2 ^ width) = 0#8 := by
  have narrow : native ≤ 2 := by have := detour.case; omega
  have fits := detour.fits
  have firstLe := detour.first_le
  have size := Nat.two_pow_pos width
  have wide : 2 ^ width < 2 ^ native := Nat.pow_lt_pow_right (by decide) wider
  have whole := Nat.div_add_mod' (len - 2 ^ width) (2 ^ native)
  have start : blockOf native dest = dest := by simpa using blockOf_within aligned (Nat.two_pow_pos native) 0
  have amount : 2 ^ native ≤ (len - 2 ^ width) / 2 ^ native * 2 ^ native :=
    Nat.le_mul_of_pos_left _ (Nat.pos_of_ne_zero blocks)
  obtain ⟨first, stepOne, -, onward⟩ := widenedWrite_parts detour running
  obtain ⟨second, middle, last⟩ := onward (by omega)
  obtain ⟨clearedFirst, writtenFirst⟩ :=
    adjustedWrite_able detour.case supported detour.wider detour.aligned (by omega) error stepOne
  have zeroFirst : first.bus.memory (dest + 2 ^ width) = 0#8 := by
    rw [writtenFirst, start, if_pos (by omega), if_neg (by omega)]
  have misaligned : ¬ Able flags native (dest + 2 ^ width) := fun able => by
    have remainder := able.2
    rw [Nat.add_mod, aligned, Nat.zero_add, Nat.mod_mod, Nat.mod_eq_of_lt wide] at remainder
    omega
  rw [if_pos (by omega)] at middle
  have quiet := nativeWrite_unable narrow misaligned _ clearedFirst middle
  have zeroSecond : second.bus.memory (dest + 2 ^ width) = 0#8 := by
    rw [quiet.memory]
    exact zeroFirst
  split at last
  next =>
    obtain ⟨-, writtenLast⟩ := adjustedWrite_able detour.case supported detour.wider (detour.position_aligned _)
      (by omega) quiet.error last
    rw [writtenLast, blockOf_within aligned wide, if_neg (by omega)]
    exact zeroSecond
  next => exact last ▸ zeroSecond

/-- From an aligned start a rest in the first block overwrites the first element. -/
private theorem first_lost (detour : Detour dest len width native) (supported : supports flags native = true)
    (wider : width < native) (aligned : dest % 2 ^ native = 0) (more : len ≠ 2 ^ width)
    (noBlocks : (len - 2 ^ width) / 2 ^ native = 0) {hart out : Hart} (error : hart.bus.error = 0) {src : Buffer}
    (running : widenedWrite flags noise dest src len width native hart = out) : out.bus.memory dest = 0#8 := by
  have fits := detour.fits
  have firstLe := detour.first_le
  have size := Nat.two_pow_pos width
  have wide : 2 ^ width < 2 ^ native := Nat.pow_lt_pow_right (by decide) wider
  have whole := Nat.div_add_mod' (len - 2 ^ width) (2 ^ native)
  rw [noBlocks, Nat.zero_mul, Nat.zero_add] at whole
  obtain ⟨first, stepOne, -, onward⟩ := widenedWrite_parts detour running
  obtain ⟨second, middle, last⟩ := onward more
  obtain ⟨cleared, -⟩ :=
    adjustedWrite_able detour.case supported detour.wider detour.aligned (by omega) error stepOne
  rw [noBlocks, Nat.zero_mul, if_neg (by simp)] at middle
  subst middle
  rw [if_pos (by omega)] at last
  have place := detour.position_aligned ((len - 2 ^ width) / 2 ^ native)
  rw [noBlocks] at last place
  have block := blockOf_within aligned wide 0
  rw [Nat.zero_mul, Nat.add_zero] at last place block
  obtain ⟨-, written⟩ := adjustedWrite_able detour.case supported detour.wider place (by omega) cleared last
  rw [written, block, if_pos (by omega), if_neg (by omega)]

/-- No write that takes the detour is faithful. -/
private theorem widened_writes_wrong (detour : Detour dest len width native)
    (wider : supports flags native = true → width < native) : ¬ WidenedWrites flags dest len width native := by
  have firstLe := detour.first_le
  have size := Nat.two_pow_pos width
  have one : ∀ {a}, dest ≤ a → a < dest + len → WidenedWrites flags dest len width native →
      (widenedWrite flags (fun _ => 0#32) dest (fun _ => 1#8) len width native (restingHart fun _ => 0#8)).bus.memory a ≠
        0#8 := by
    intro a low high faithful zero
    have wrong := faithful (fun _ => 0#32) (fun _ => 1#8) (restingHart fun _ => 0#8) rfl a
    rw [zero, if_pos ⟨low, high⟩] at wrong
    exact absurd wrong (by decide)
  cases supported : supports flags native with
  | false =>
    intro faithful
    generalize running :
      widenedWrite flags (fun _ => 0#32) dest (fun _ => 1#8) len width native (restingHart fun _ => 0#8) = out at one
    have quiet := widenedWrite_unable detour supported rfl running
    refine one (Nat.le_refl dest) (by omega) faithful ?_
    rw [quiet.memory]
    rfl
  | true =>
    have wide : 2 ^ width < 2 ^ native := Nat.pow_lt_pow_right (by decide) (wider supported)
    have whole := blockOf_add native dest
    have small := Nat.mod_lt dest (Nat.two_pow_pos native)
    by_cases aligned : dest % 2 ^ native = 0
    · by_cases single : len = 2 ^ width
      · exact neighbour_lost detour supported (show blockOf native dest ≤ dest + 2 ^ width ∧ _ by omega) (by omega)
      · intro faithful
        by_cases noBlocks : (len - 2 ^ width) / 2 ^ native = 0
        · exact one (Nat.le_refl dest) (by omega) faithful
            (first_lost detour supported (wider supported) aligned single noBlocks rfl rfl)
        · exact one (Nat.le_add_right dest _) (by omega) faithful
            (middle_missed detour supported (wider supported) aligned noBlocks rfl rfl)
    · exact neighbour_lost detour supported (show blockOf native dest ≤ blockOf native dest ∧ _ by omega) (by omega)

end Widened

theorem writes_iff {dest len : Nat} (nonempty : 0 < len) (fits : dest + len ≤ 2 ^ 32) :
    WritesFaithfully flags dest len ↔ supports flags (riscvMemAccessWidth dest len) = true := by
  obtain ⟨narrow, aligned, multiple, -⟩ := accessWidth_spec dest len
  cases supported : supports flags (riscvMemAccessWidth dest len) with
  | true =>
    refine iff_of_true ?_ rfl
    intro noise src hart error a
    have taken : flags &&& 2 ^ riscvMemAccessWidth dest len ≠ 0 := (flags_and_width narrow).mpr supported
    rw [riscv32SysbusMemWrite]
    simp only [if_pos taken]
    generalize riscvMemAccessWidth dest len = width at *
    obtain ⟨count, rfl⟩ := Nat.dvd_of_mod_eq_zero multiple
    rw [Nat.mul_comm] at fits ⊢
    exact (nativeWrite_able narrow ⟨supported, aligned⟩ fits src error rfl).1 a
  | false =>
    have skipped : ¬ flags &&& 2 ^ riscvMemAccessWidth dest len ≠ 0 := fun taken => by
      rw [(flags_and_width narrow).mp taken] at supported
      cases supported
    have taken : ∀ noise src hart, riscv32SysbusMemWrite flags noise dest src len hart =
        widenedWrite flags noise dest src len (riscvMemAccessWidth dest len)
          (nextNativeWidth flags 2 (riscvMemAccessWidth dest len)) hart := by
      intro noise src hart
      rw [riscv32SysbusMemWrite]
      simp only [if_neg skipped]
    refine iff_of_false ?_ (by decide)
    simp only [WritesFaithfully, taken]
    exact widened_writes_wrong (unsupported_detour nonempty fits supported) (nextNativeWidth_spec narrow supported).2.2.1

/-- Which accesses over the system bus are faithful, for every set of widths, address
and length. -/
theorem sysbus_accesses_faithful (flags address len : Nat) (nonempty : 0 < len) (fits : address + len ≤ 2 ^ 32) :
    (ReadsFaithfully flags address len ↔ ReadCondition flags address len) ∧
      (WritesFaithfully flags address len ↔ supports flags (riscvMemAccessWidth address len) = true) :=
  ⟨reads_iff nonempty fits, writes_iff nonempty fits⟩

/-- With words only, a byte is read but not written faithfully. -/
theorem word_only_byte_accesses :
    ReadsFaithfully 0x14 0x20000001 1 ∧ ¬ WritesFaithfully 0x14 0x20000001 1 :=
  have accesses := sysbus_accesses_faithful 0x14 0x20000001 1 (by decide) (by decide)
  ⟨accesses.1.mpr (by decide +kernel), fun faithful => absurd (accesses.2.mp faithful) (by decide +kernel)⟩

/-- With words only, the write of a byte zeroes its neighbours, and the third byte of
a read is not filled. -/
theorem word_only_accesses_unfaithful :
    ¬ WritesFaithfully 0x14 0x20000001 1 ∧ ¬ ReadsFaithfully 0x14 0x20000000 3 := by
  constructor
  · intro faithful
    have neighbour := faithful (fun _ => 0#32) (fun _ => 0xaa#8) (restingHart fun _ => 0xff#8) rfl 0x20000000
    exact absurd neighbour (by decide +kernel)
  · intro faithful
    have third := faithful (fun _ => 0#32) (fun _ => 0#8) (restingHart fun _ => 0xff#8) rfl 2
    exact absurd third (by decide +kernel)

end BlackMagic.Proofs.SysbusFaithful
