import BlackMagic.RangeErase
import BlackMagic.Stm32lx
import Mathlib.Data.List.Perm.Basic

/-! Which blocks of a longer range the erases and the EEPROM write process. -/

namespace BlackMagic.Proofs.RangeErases
open BlackMagic.RangeErase BlackMagic.Stm32lx Lib.Words

/-- The addresses of so many blocks. -/
def blocks (start blocksize n : Nat) : List Nat := (List.range n).map fun i => start + i * blocksize

theorem blocks_length (start blocksize n : Nat) : (blocks start blocksize n).length = n := by
  rw [blocks, List.length_map, List.length_range]

section Msp432

/-- Two blocks less with each pass, and the address of the first one again. -/
theorem msp432FlashErase_addresses {f : Msp432Flash} {answers : Nat → SectorAnswer} {addr passes i n : Nat}
    (fits : n * sectorSize < 2 ^ 32) (enough : n < passes) :
    ∃ result, msp432FlashErase f answers addr passes i (n * sectorSize) = some result ∧
      result.2.map RomErase.addr = List.replicate ((n + 1) / 2) addr := by
  induction passes generalizing i n with
  | zero => cases enough
  | succ passes ih =>
    cases n with
    | zero => exact ⟨(true, []), by rw [msp432FlashErase, Nat.zero_mul, if_pos rfl], rfl⟩
    | succ n =>
      have more : (n + 1) * sectorSize ≠ 0 := by
        simp only [sectorSize]
        omega
      have one : sub32 ((n + 1) * sectorSize) sectorSize = n * sectorSize := by
        rw [sub32_of_le fits (Nat.le_mul_of_pos_left _ (Nat.succ_pos n)), Nat.succ_mul, Nat.add_sub_cancel]
      have two : (if sectorSize < n * sectorSize then sub32 (n * sectorSize) sectorSize else 0) = (n - 1) * sectorSize := by
        by_cases long : 1 < n
        · have longer : sectorSize < n * sectorSize := by
            simp only [sectorSize]
            omega
          have within : n * sectorSize < 2 ^ 32 := Nat.lt_of_le_of_lt (Nat.mul_le_mul_right _ (Nat.le_succ n)) fits
          rw [if_pos longer, sub32_of_le within (Nat.le_of_lt longer), Nat.sub_mul, Nat.one_mul]
        · have short : ¬ sectorSize < n * sectorSize := by
            simp only [sectorSize]
            omega
          have nothing : n - 1 = 0 := by omega
          rw [if_neg short, nothing, Nat.zero_mul]
      have less : (n - 1) * sectorSize < 2 ^ 32 :=
        Nat.lt_of_le_of_lt (Nat.mul_le_mul_right _ (by omega)) fits
      obtain ⟨later, run, addresses⟩ := ih (i := i + 1) less (by omega)
      refine ⟨((msp432SectorErase f (answers i) addr).1 && later.1, (msp432SectorErase f (answers i) addr).2 :: later.2), ?_, ?_⟩
      · rw [msp432FlashErase, if_neg more]
        simp only [one, two, run]
      · have half : (n + 1 + 1) / 2 = (n - 1 + 1) / 2 + 1 := by omega
        rw [List.map_cons, addresses, half, List.replicate_succ]
        rfl

theorem msp432_blocks_iff {addr n : Nat} :
    (List.replicate ((n + 1) / 2) addr).Perm (blocks addr sectorSize n) ↔ n ≤ 1 := by
  apply Iff.intro
  · intro same
    have lengths := same.length_eq
    rw [List.length_replicate, blocks_length] at lengths
    omega
  · intro few
    cases n with
    | zero => exact List.Perm.refl _
    | succ n =>
      cases Nat.le_zero.mp (Nat.le_of_succ_le_succ few)
      have one : blocks addr sectorSize (0 + 1) = [addr] := by
        rw [blocks, Nat.zero_add, List.range_one, List.map_singleton, Nat.zero_mul, Nat.add_zero]
      rw [one]
      exact List.Perm.refl _

end Msp432

section Spi

/-- The addresses of the sectors that commands erase, in the Flash device. -/
def sectorsErased (commands : List SpiCommand) : List Nat :=
  commands.filterMap fun command =>
    match command with
    | .writeEnable => none
    | .sectorErase _ address => some address

theorem rp_blocks_iff {patience : Nat} {answers : SpiAnswers} {prepared resumed : Bool} {flash : SpiRegion} {args : List Nat}
    {start n : Nat} (range : rangeOf flash args = some (start, n * flash.blocksize))
    (succeeded : (rpCmdEraseSector patience answers prepared resumed flash args).1 = some true) :
    (sectorsErased (rpCmdEraseSector patience answers prepared resumed flash args).2).Perm
      ((blocks start flash.blocksize n).map fun addr => sub32 addr flash.start) ↔ n = 1 := by
  simp only [rpCmdEraseSector, range, bmpSpiFlashErase] at succeeded ⊢
  split at succeeded
  · simp only [Option.map_some, Bool.and_false, Bool.false_and, Option.some.injEq, Bool.false_eq_true] at succeeded
  next enabled =>
    have erased : sectorsErased [.writeEnable, .sectorErase flash.sectorEraseOpcode (sub32 start flash.start)] =
        [sub32 start flash.start] := rfl
    rw [if_neg enabled, erased]
    apply Iff.intro
    · intro same
      have lengths := same.length_eq
      rw [List.length_map, blocks_length] at lengths
      exact lengths.symm
    · intro one
      subst one
      have only : blocks start flash.blocksize 1 = [start] := by
        rw [blocks, List.range_one, List.map_singleton, Nat.zero_mul, Nat.add_zero]
      rw [only]
      exact List.Perm.refl _

end Spi

section DataWrite

/-- The words of the source are stored in place, and no word behind them is read. -/
def WordsStored (dest n : Nat) (stores : List Store) : Prop :=
  (∀ k < n, ⟨add32 dest (4 * k), k⟩ ∈ stores) ∧ ∀ store ∈ stores, store.index < n

theorem dataWriteLoop_stores {checkError : Nat → Bool} {dest words offset : Nat}
    (finished : (dataWriteLoop checkError dest words offset).1 = true) :
    (dataWriteLoop checkError dest words offset).2 =
      (List.range words).map fun k => ⟨add32 dest (offset + 4 * k), offset + 4 * k⟩ := by
  induction words generalizing offset with
  | zero => rfl
  | succ words ih =>
    simp only [dataWriteLoop] at finished ⊢
    split at finished
    · cases finished
    next accepted =>
      rw [if_neg accepted, ih finished, List.range_succ_eq_map, List.map_cons, List.map_map]
      dsimp only
      congr 1
      apply List.map_congr_left
      intro k _
      have step : offset + 4 + 4 * k = offset + 4 * k.succ := by omega
      simp only [Function.comp, step]

theorem dataWrite_iff {patience : Nat} {answers : WriteAnswers} {dest n : Nat}
    (succeeded : (stm32lxNvmDataWrite patience answers dest (4 * n)).1 = some true) :
    WordsStored dest n (stm32lxNvmDataWrite patience answers dest (4 * n)).2 ↔ n ≤ 1 := by
  have words : (4 * n + 3) / 4 = n := by omega
  have stores : (stm32lxNvmDataWrite patience answers dest (4 * n)).2 =
      (List.range n).map fun k => ⟨add32 dest (0 + 4 * k), 0 + 4 * k⟩ := by
    simp only [stm32lxNvmDataWrite, words] at succeeded ⊢
    split at succeeded
    · simp only [Option.some.injEq, Bool.false_eq_true] at succeeded
    next unlocked =>
      rw [if_neg unlocked]
      split at succeeded
      · simp only [Option.some.injEq, Bool.false_eq_true] at succeeded
      next finished =>
        rw [if_neg finished]
        apply dataWriteLoop_stores
        cases result : (dataWriteLoop answers.checkError dest n 0).1 with
        | true => rfl
        | false => exact absurd (by rw [result]; rfl) finished
  rw [stores]
  apply Iff.intro
  · intro ⟨_, within⟩
    by_contra long
    have last := within _ (List.mem_map_of_mem (List.mem_range.mpr (show n - 1 < n by omega)))
    dsimp only at last
    omega
  · intro few
    apply And.intro
    · intro k inside
      have first : k = 0 := by omega
      subst first
      exact List.mem_map.mpr ⟨0, List.mem_range.mpr inside, rfl⟩
    · intro store found
      obtain ⟨k, inside, same⟩ := List.mem_map.mp found
      have first : k = 0 := by
        have := List.mem_range.mp inside
        omega
      subst same
      subst first
      exact List.mem_range.mp inside

end DataWrite

/-- Each operation processes the whole of its range exactly for these lengths. -/
theorem whole_range_iff (patience : Nat) :
    (∀ (f : Msp432Flash) answers addr n, n * sectorSize < 2 ^ 32 → n < patience →
      ∃ result, msp432FlashErase f answers addr patience 0 (n * sectorSize) = some result ∧
        ((result.2.map RomErase.addr).Perm (blocks addr sectorSize n) ↔ n ≤ 1)) ∧
    (∀ answers prepared resumed (flash : SpiRegion) args start n,
      rangeOf flash args = some (start, n * flash.blocksize) →
      (rpCmdEraseSector patience answers prepared resumed flash args).1 = some true →
      ((sectorsErased (rpCmdEraseSector patience answers prepared resumed flash args).2).Perm
        ((blocks start flash.blocksize n).map fun addr => sub32 addr flash.start) ↔ n = 1)) ∧
    (∀ answers dest n, (stm32lxNvmDataWrite patience answers dest (4 * n)).1 = some true →
      (WordsStored dest n (stm32lxNvmDataWrite patience answers dest (4 * n)).2 ↔ n ≤ 1)) := by
  refine ⟨?_, ?_, ?_⟩
  · intro f answers addr n fits enough
    obtain ⟨result, run, addresses⟩ := msp432FlashErase_addresses fits enough
    exact ⟨result, run, by rw [addresses]; exact msp432_blocks_iff⟩
  · intro answers prepared resumed flash args start n range succeeded
    exact rp_blocks_iff range succeeded
  · intro answers dest n succeeded
    exact dataWrite_iff succeeded

/-- Routines in ROM that find every sector unprotected and succeed. -/
def romSucceeds (_ : Nat) : SectorAnswer := ⟨0xffffffff, 1⟩

theorem msp432_one_sector :
    ∃ result, msp432FlashErase ⟨0, 0x20000⟩ romSucceeds 0x1000 2 0 (1 * sectorSize) = some result ∧
      ((result.2.map RomErase.addr).Perm (blocks 0x1000 sectorSize 1) ↔ 1 ≤ 1) :=
  (whole_range_iff 2).1 ⟨0, 0x20000⟩ romSucceeds 0x1000 1 (by decide) (by decide)

/-- Four sectors of the first bank: two erases, both of the first sector. -/
theorem msp432_four_sectors :
    msp432FlashErase ⟨0, 0x20000⟩ romSucceeds 0 5 0 (4 * sectorSize) =
      some (true, [⟨0xfffffffe, 0⟩, ⟨0xfffffffe, 0⟩]) ∧ ¬ [0, 0].Perm (blocks 0 sectorSize 4) := by
  decide

end BlackMagic.Proofs.RangeErases
