import BlackMagic.SectorErase
import Mathlib.Data.List.Perm.Basic

/-! Which sectors the erases of the STM32G0 and the STM32H5 select, compared with the blocks of the range. -/

namespace BlackMagic.Proofs.SectorSelection
open BlackMagic.SectorErase Lib.Polling Lib.Words

section Stm32g0

/-- The number of pages in the first bank of a part with two. -/
def bank1Pages (f : Flash) : Nat := (f.length / 2 + f.blocksize - 1) / f.blocksize

/-- The command for the page at an address. The second bank of a part that has one begins in the middle of the region, and its
pages are numbered from 256. -/
def pageCommand (partId : Nat) (f : Flash) (addr : Nat) : Erase :=
  if partId = stm32g0bC ∧ f.start + f.length / 2 ≤ addr then
    ⟨true, 256 + (addr - (f.start + f.length / 2)) / f.blocksize⟩
  else ⟨false, (addr - f.start) / f.blocksize⟩

/-- The command for a page by its index, with so many pages in the first bank. -/
def nthPage (bank1 k : Nat) : Erase := if bank1 ≤ k then ⟨true, 256 + (k - bank1)⟩ else ⟨false, k⟩

theorem pages_long {last n page : Nat} (long : 256 ≤ last) :
    stm32g0Pages last n page = (List.range' page n).map fun page => ⟨decide (256 ≤ page), page⟩ := by
  induction n generalizing page with
  | zero => rfl
  | succ n ih =>
    have stays : ¬ (page < flashBank2StartPage ∧ last < page) := by
      simp only [flashBank2StartPage]
      omega
    rw [stm32g0Pages]
    simp only [if_neg stays]
    rw [ih]
    rfl

/-- A range that starts at or before the first page of the second bank goes on with the right page. -/
theorem pages_right {last n k page : Nat} (bank : last < 256)
    (at_ : k ≤ last + 1 ∧ page = k ∨ last + 1 ≤ k ∧ page = 256 + (k - (last + 1))) :
    stm32g0Pages last n page = (List.range' k n).map (nthPage (last + 1)) := by
  induction n generalizing k page with
  | zero => rfl
  | succ n ih =>
    rw [stm32g0Pages, List.range'_succ, List.map_cons]
    by_cases second : last + 1 ≤ k
    · have here : (if page < flashBank2StartPage ∧ last < page then flashBank2StartPage else page) = 256 + (k - (last + 1)) := by
        have start : flashBank2StartPage = 256 := rfl
        by_cases skipped : page < flashBank2StartPage ∧ last < page
        · rw [if_pos skipped]
          omega
        · rw [if_neg skipped]
          omega
      have bank2 : flashBank2StartPage ≤ 256 + (k - (last + 1)) := Nat.le_add_right _ _
      simp only [here, nthPage, if_pos second, decide_eq_true bank2]
      congr 1
      apply ih
      omega
    · have here : (if page < flashBank2StartPage ∧ last < page then flashBank2StartPage else page) = k := by
        rw [if_neg (by omega)]
        omega
      have bank1 : ¬ flashBank2StartPage ≤ k := by
        simp only [flashBank2StartPage]
        omega
      simp only [here, nthPage, if_neg second, decide_eq_false bank1]
      congr 1
      apply ih
      omega

/-- When the pages that the driver numbers are those of the range. -/
structure PagesRight (bank1 k n : Nat) : Prop where
  early : bank1 < 256 → k ≤ bank1
  low : 256 < bank1 → k + n ≤ 256

theorem nthPage_second {bank1 k number : Nat} (same : nthPage bank1 k = ⟨true, number⟩) :
    bank1 ≤ k ∧ number = 256 + (k - bank1) := by
  rw [nthPage] at same
  split at same
  next second =>
    cases same
    exact ⟨second, rfl⟩
  · cases same

theorem pages_late {last n k : Nat} (filled : 0 < n) (late : last + 1 < k) :
    ∃ rest, stm32g0Pages last n k = ⟨true, max 256 k⟩ :: rest := by
  cases n with
  | zero => cases filled
  | succ n =>
    have here : (if k < flashBank2StartPage ∧ last < k then flashBank2StartPage else k) = max 256 k := by
      have start : flashBank2StartPage = 256 := rfl
      by_cases skipped : k < flashBank2StartPage ∧ last < k
      · rw [if_pos skipped]
        omega
      · rw [if_neg skipped]
        omega
    have second : flashBank2StartPage ≤ max 256 k := Nat.le_max_left 256 k
    rw [stm32g0Pages]
    simp only [here, decide_eq_true second]
    exact ⟨_, rfl⟩

theorem pages_iff {last n k : Nat} (filled : 0 < n) :
    (stm32g0Pages last n k).Perm ((List.range' k n).map (nthPage (last + 1))) ↔ PagesRight (last + 1) k n := by
  apply Iff.intro
  · intro same
    apply PagesRight.mk
    · intro short
      by_contra late
      obtain ⟨rest, start⟩ := pages_late filled (Nat.not_le.mp late)
      rw [start] at same
      obtain ⟨block, inside, found⟩ := List.mem_map.mp (same.mem_iff.mp List.mem_cons_self)
      have lower := (List.mem_range'_1.mp inside).1
      have number := (nthPage_second found).2
      omega
    · intro long
      by_contra high
      rw [pages_long (Nat.lt_succ_iff.mp long)] at same
      have last_ : k + n - 1 ∈ List.range' k n := List.mem_range'_1.mpr (by omega)
      obtain ⟨block, inside, found⟩ := List.mem_map.mp (same.mem_iff.mp (List.mem_map_of_mem last_))
      have upper := (List.mem_range'_1.mp inside).2
      rw [decide_eq_true (show 256 ≤ k + n - 1 by omega)] at found
      have number := (nthPage_second found).2
      have second := (nthPage_second found).1
      omega
  · intro right
    by_cases bank : last < 256
    · rw [pages_right bank]
      have early := right.early
      omega
    · have long : 256 ≤ last := Nat.not_lt.mp bank
      rw [pages_long long]
      apply List.Perm.of_eq
      apply List.map_congr_left
      intro page inside
      have upper := (List.mem_range'_1.mp inside).2
      have low := right.low (by omega)
      rw [nthPage, if_neg (by omega), decide_eq_false (by omega)]

/-- The regions of the probe: main Flash, and the area that is programmed once. -/
theorem stm32g0Probe_regions {partId : Nat} {idcode : BitVec 32} {size : BitVec 16} {part : Part}
    (found : stm32g0Probe partId idcode size = some part) {f : Flash} (listed : f ∈ part.list) :
    f = ⟨flashOtpStart, flashOtpSize, flashOtpBlocksize, 0⟩ ∨
      ∃ length, f = ⟨flashStart, length, flashPageSize, 0⟩ ∧ length < 0x4000000 ∧
        (part.partId ≠ stm32g0bC → length ≤ 0x20000) := by
  have bound := size.isLt
  have regions {id length : Nat} (fits : length < 0x4000000) (single : id ≠ stm32g0bC → length ≤ 0x20000)
      (shape : part = ⟨id, [⟨flashOtpStart, flashOtpSize, flashOtpBlocksize, 0⟩, ⟨flashStart, length, flashPageSize, 0⟩]⟩) :
      f = ⟨flashOtpStart, flashOtpSize, flashOtpBlocksize, 0⟩ ∨
      ∃ length, f = ⟨flashStart, length, flashPageSize, 0⟩ ∧ length < 0x4000000 ∧
        (part.partId ≠ stm32g0bC → length ≤ 0x20000) := by
    subst shape
    cases listed with
    | head => exact .inl rfl
    | tail _ rest =>
      cases List.mem_singleton.mp rest
      exact .inr ⟨length, rfl, fits, single⟩
  simp only [stm32g0Probe] at found
  repeat' split at found
  any_goals cases found
  case isFalse.isFalse.isFalse.isTrue => exact regions (by omega) (fun other => absurd ‹_› other) rfl
  all_goals exact regions (by decide) (fun _ => by decide) rfl

theorem pageCommand_dual {length k : Nat} (fits : length < 0x4000000) (inside : (k + 1) * flashPageSize ≤ length) :
    pageCommand stm32g0bC ⟨flashStart, length, flashPageSize, 0⟩ (flashStart + k * flashPageSize) =
      nthPage (stm32g0Bank1EndPage stm32g0bC ⟨flashStart, length, flashPageSize, 0⟩ + 1) k := by
  simp only [flashPageSize] at inside
  have half : sub32 (length / 2) 1 = length / 2 - 1 := sub32_of_le (by omega) (by omega)
  simp only [pageCommand, nthPage, stm32g0Bank1EndPage, if_pos, true_and, half, flashStart, flashPageSize]
  by_cases second : (length / 2 - 1) / 2048 + 1 ≤ k
  · rw [if_pos (by omega), if_pos second, Erase.mk.injEq]
    exact ⟨rfl, by omega⟩
  · rw [if_neg (by omega), if_neg second, Erase.mk.injEq]
    exact ⟨rfl, by omega⟩

theorem pageCommand_single {partId length k : Nat} (single : partId ≠ stm32g0bC) (small : length ≤ 0x20000)
    (inside : (k + 1) * flashPageSize ≤ length) :
    pageCommand partId ⟨flashStart, length, flashPageSize, 0⟩ (flashStart + k * flashPageSize) =
      nthPage (stm32g0Bank1EndPage partId ⟨flashStart, length, flashPageSize, 0⟩ + 1) k := by
  simp only [flashPageSize] at inside
  simp only [pageCommand, nthPage, stm32g0Bank1EndPage, single, false_and, if_false, flashStart, flashPageSize,
    flashBank2StartPage]
  rw [if_neg (by omega), Erase.mk.injEq]
  exact ⟨rfl, by omega⟩

/-- What a range of the main region gets, where no error is reported. -/
theorem stm32g0_iff {patience : Nat} {answers : Stm32g0Answers} {partId length k n : Nat} (fits : length < 0x4000000)
    (small : partId ≠ stm32g0bC → length ≤ 0x20000) (filled : 0 < n) (inside : (k + n) * flashPageSize ≤ length)
    (succeeded : (stm32g0FlashErase patience answers partId ⟨flashStart, length, flashPageSize, 0⟩
      (flashStart + k * flashPageSize) (n * flashPageSize)).1 = some true) :
    (stm32g0FlashErase patience answers partId ⟨flashStart, length, flashPageSize, 0⟩
      (flashStart + k * flashPageSize) (n * flashPageSize)).2.Perm
      ((List.range' k n).map fun k =>
        pageCommand partId ⟨flashStart, length, flashPageSize, 0⟩ (flashStart + k * flashPageSize)) ↔
      (partId = stm32g0bC → PagesRight (bank1Pages ⟨flashStart, length, flashPageSize, 0⟩) k n) := by
  have commands : (stm32g0FlashErase patience answers partId ⟨flashStart, length, flashPageSize, 0⟩
      (flashStart + k * flashPageSize) (n * flashPageSize)).2 =
      stm32g0Pages (stm32g0Bank1EndPage partId ⟨flashStart, length, flashPageSize, 0⟩) n k := by
    have main : ¬ flashOtpStart ≤ flashStart + k * flashPageSize := by
      simp only [flashPageSize, flashOtpStart, flashStart] at inside ⊢
      omega
    have count : sub32 (n * flashPageSize) 1 / flashPageSize + 1 = n := by
      simp only [flashPageSize] at inside ⊢
      rw [sub32_of_le (by omega) (by omega)]
      omega
    have first : sub32 (flashStart + k * flashPageSize) flashStart / flashPageSize = k := by
      simp only [flashPageSize, flashStart] at inside ⊢
      rw [sub32_of_le (by omega) (by omega)]
      omega
    simp only [stm32g0FlashErase, if_neg main, count, first] at succeeded ⊢
    match ready : stm32g0WaitBusy patience answers.ready with
    | some true =>
      simp only [ready] at succeeded ⊢
      match erased : (issue (fun i => stm32g0WaitBusy patience (answers.page i)) 0
          (stm32g0Pages (stm32g0Bank1EndPage partId ⟨flashStart, length, flashPageSize, 0⟩) n k)).1 with
      | some true => exact issue_all erased
      | some false => simp only [erased, Option.some.injEq, Bool.false_eq_true] at succeeded
      | none => simp only [erased, reduceCtorEq] at succeeded
    | some false => simp only [ready, Option.some.injEq, Bool.false_eq_true] at succeeded
    | none => simp only [ready, reduceCtorEq] at succeeded
  have block (i : Nat) (within : i ∈ List.range' k n) : (i + 1) * flashPageSize ≤ length := by
    have upper := (List.mem_range'_1.mp within).2
    exact Nat.le_trans (Nat.mul_le_mul_right _ upper) inside
  have expected : ((List.range' k n).map fun k =>
      pageCommand partId ⟨flashStart, length, flashPageSize, 0⟩ (flashStart + k * flashPageSize)) =
      (List.range' k n).map
        (nthPage (stm32g0Bank1EndPage partId ⟨flashStart, length, flashPageSize, 0⟩ + 1)) := by
    apply List.map_congr_left
    intro i within
    by_cases dual : partId = stm32g0bC
    · subst dual
      exact pageCommand_dual fits (block i within)
    · exact pageCommand_single dual (small dual) (block i within)
  rw [commands, expected, pages_iff filled]
  have enough := block k (List.mem_range'_1.mpr (by omega))
  by_cases dual : partId = stm32g0bC
  · have pages : stm32g0Bank1EndPage partId ⟨flashStart, length, flashPageSize, 0⟩ + 1 =
        bank1Pages ⟨flashStart, length, flashPageSize, 0⟩ := by
      simp only [stm32g0Bank1EndPage, bank1Pages, if_pos dual, flashPageSize] at enough ⊢
      rw [sub32_of_le (by omega) (by omega)]
      omega
    rw [pages]
    exact ⟨fun right _ => right, fun right => right dual⟩
  · have pages : stm32g0Bank1EndPage partId ⟨flashStart, length, flashPageSize, 0⟩ + 1 = 256 := by
      rw [stm32g0Bank1EndPage, if_neg dual]
      rfl
    rw [pages]
    exact ⟨fun _ same => absurd same dual, fun _ =>
      ⟨fun short => absurd short (Nat.lt_irrefl _), fun long => absurd long (Nat.lt_irrefl _)⟩⟩

theorem stm32g0_otp {patience : Nat} {answers : Stm32g0Answers} {partId addr len : Nat} {f : Flash}
    (above : flashOtpStart ≤ addr) : (stm32g0FlashErase patience answers partId f addr len).2 = [] := by
  simp only [stm32g0FlashErase, if_pos above]
  match stm32g0WaitBusy patience answers.ready with
  | some true => rfl
  | some false => rfl
  | none => rfl

end Stm32g0

section Stm32h5

/-- Where the second bank of a part begins. -/
def bank2Start (partno : Nat) : Nat := if partno = idStm32h5xx then 0x08100000 else 0x08010000

/-- The command for the sector at an address. -/
def sectorCommand (partno addr : Nat) : Erase :=
  if bank2Start partno ≤ addr then ⟨true, (addr - bank2Start partno) / sectorSize⟩
  else ⟨false, (addr - 0x08000000) / sectorSize⟩

theorem sectors_eq {bank2 : Bool} {count sector : Nat} :
    stm32h5Sectors bank2 count sector = (List.range' sector count).map fun sector => ⟨bank2, sector % 128⟩ := by
  induction count generalizing sector with
  | zero => rfl
  | succ count ih =>
    rw [stm32h5Sectors, ih, Nat.and_two_pow_sub_one_eq_mod sector 7]
    rfl

/-- The distance from the address back to the start of the region, as the driver takes it. -/
theorem backwards (start : Nat) {k : Nat} (inside : k ≤ 128) :
    sub32 start (start + k * sectorSize) = if k = 0 then 0 else 2 ^ 32 - k * sectorSize := by
  simp only [sub32, sectorSize]
  split <;> omega

theorem sector_count {k n : Nat} (filled : 0 < n) (inside : k + n ≤ 128) :
    sub32 (add32 (if k = 0 then 0 else 2 ^ 32 - k * sectorSize) (n * sectorSize)) 1 / sectorSize + 1 -
      (if k = 0 then 0 else 2 ^ 32 - k * sectorSize) / sectorSize = if k = 0 ∨ n ≤ k then n else 0 := by
  simp only [sub32, add32, sectorSize]
  by_cases first : k = 0
  · rw [if_pos first, if_pos (.inl first)]
    omega
  · rw [if_neg first]
    by_cases short : n ≤ k
    · rw [if_pos (.inr short)]
      omega
    · rw [if_neg (not_or.mpr ⟨first, short⟩)]
      omega

theorem sectors_iff {bank2 : Bool} {k n : Nat} (filled : 0 < n) (inside : k + n ≤ 128) :
    (stm32h5Sectors bank2 (if k = 0 ∨ n ≤ k then n else 0)
      ((if k = 0 then 0 else 2 ^ 32 - k * sectorSize) / sectorSize)).Perm ((List.range' k n).map (Erase.mk bank2)) ↔
      k = 0 ∨ k = 64 := by
  have one : k ∈ List.range' k n := List.mem_range'_1.mpr (by omega)
  rw [sectors_eq]
  simp only [sectorSize]
  apply Iff.intro
  · intro same
    by_cases first : k = 0
    · exact .inl first
    · by_cases short : n ≤ k
      · rw [if_neg first, if_pos (.inr short)] at same
        obtain ⟨sector, found, number⟩ := List.mem_map.mp (same.mem_iff.mpr (List.mem_map_of_mem one))
        have here := (List.mem_range'_1.mp found).1
        have least : (2 ^ 32 - k * 8192) / 8192 ∈ List.range' ((2 ^ 32 - k * 8192) / 8192) n :=
          List.mem_range'_1.mpr (by omega)
        obtain ⟨block, within, other⟩ := List.mem_map.mp (same.mem_iff.mp (List.mem_map.mpr ⟨_, least, rfl⟩))
        have lower := (List.mem_range'_1.mp within).1
        have upper := (List.mem_range'_1.mp found).2
        simp only [Erase.mk.injEq, true_and] at number other
        omega
      · rw [if_neg (not_or.mpr ⟨first, short⟩)] at same
        cases (same.mem_iff.mpr (List.mem_map_of_mem one))
  · intro right
    apply List.Perm.of_eq
    have shifted : (if k = 0 ∨ n ≤ k then n else 0) = n := if_pos (by omega)
    rw [shifted]
    cases right with
    | inl first =>
      subst first
      apply List.map_congr_left
      intro sector within
      have upper := (List.mem_range'_1.mp within).2
      simp only [if_true, Nat.zero_div, Nat.zero_add] at upper
      rw [Nat.mod_eq_of_lt (by omega)]
    | inr middle =>
      subst middle
      have start : ((if 64 = 0 then 0 else 2 ^ 32 - 64 * 8192) / 8192) = 64 + 524160 := by decide
      rw [start, Nat.add_comm 64, ← List.map_add_range', List.map_map]
      apply List.map_congr_left
      intro sector within
      have upper := (List.mem_range'_1.mp within).2
      simp only [Function.comp, Erase.mk.injEq, true_and]
      omega

/-- The regions of the probe are banks, whose sectors they number from their own start. -/
theorem stm32h5Probe_regions {partno : Nat} {part : Part} (found : stm32h5Probe partno = some part) {flash : Flash}
    (listed : flash ∈ part.list) : flash.start < 0x20000000 ∧ flash.length ≤ 128 * sectorSize ∧
      ∀ k, (k + 1) * sectorSize ≤ flash.length → sectorCommand partno (flash.start + k * sectorSize) =
        ⟨flash.bankAndSectorCount &&& bankMask != 0, k⟩ := by
  have bank (start length : Nat) (word : BitVec 32) (low : start < 0x20000000) (small : length ≤ 128 * sectorSize)
      (first : start = 0x08000000 ∧ start + length = bank2Start partno ∧ (word &&& bankMask != 0) = false ∨
        start = bank2Start partno ∧ (word &&& bankMask != 0) = true) :
      (⟨start, length, sectorSize, word⟩ : Flash).start < 0x20000000 ∧
        (⟨start, length, sectorSize, word⟩ : Flash).length ≤ 128 * sectorSize ∧
        ∀ k, (k + 1) * sectorSize ≤ length → sectorCommand partno (start + k * sectorSize) =
          ⟨word &&& bankMask != 0, k⟩ := by
    refine ⟨low, small, fun k inside => ?_⟩
    have size : sectorSize = 8192 := rfl
    rw [size] at inside ⊢
    rw [sectorCommand, size]
    cases first with
    | inl first =>
      rw [if_neg (by omega), first.2.2, first.1, Erase.mk.injEq]
      exact ⟨rfl, by omega⟩
    | inr second =>
      rw [if_pos (by omega), second.2, second.1, Erase.mk.injEq]
      exact ⟨rfl, by omega⟩
  simp only [stm32h5Probe] at found
  split at found
  next same =>
    subst same
    cases found
    cases listed with
    | head => exact bank _ _ _ (by decide) (by decide) (.inr (by decide))
    | tail _ rest =>
      cases List.mem_singleton.mp rest
      exact bank _ _ _ (by decide) (by decide) (.inl (by decide))
  · split at found
    next same =>
      subst same
      cases found
      cases listed with
      | head => exact bank _ _ _ (by decide) (by decide) (.inr (by decide))
      | tail _ rest =>
        cases List.mem_singleton.mp rest
        exact bank _ _ _ (by decide) (by decide) (.inl (by decide))
    · cases found

theorem stm32h5_iff {patience : Nat} {answers : Nat → Polls} {partno k n : Nat} {part : Part} {flash : Flash}
    (found : stm32h5Probe partno = some part) (listed : flash ∈ part.list) (filled : 0 < n)
    (inside : (k + n) * sectorSize ≤ flash.length)
    (succeeded : (stm32h5FlashErase patience answers flash (flash.start + k * sectorSize) (n * sectorSize)).1 = some true) :
    (stm32h5FlashErase patience answers flash (flash.start + k * sectorSize) (n * sectorSize)).2.Perm
      ((List.range' k n).map fun k => sectorCommand partno (flash.start + k * sectorSize)) ↔ k = 0 ∨ k = 64 := by
  obtain ⟨low, small, named⟩ := stm32h5Probe_regions found listed
  have fits : k + n ≤ 128 := Nat.le_of_mul_le_mul_right (Nat.le_trans inside small) (by decide)
  have expected : ((List.range' k n).map fun k => sectorCommand partno (flash.start + k * sectorSize)) =
      (List.range' k n).map (Erase.mk (flash.bankAndSectorCount &&& bankMask != 0)) := by
    apply List.map_congr_left
    intro i within
    have upper := (List.mem_range'_1.mp within).2
    exact named i (Nat.le_trans (Nat.mul_le_mul_right _ upper) inside)
  have near : k ≤ 128 := by omega
  have distance := backwards flash.start near
  simp only [stm32h5FlashErase, distance, sector_count filled fits] at succeeded ⊢
  rw [issue_all succeeded, expected]
  exact sectors_iff filled fits

end Stm32h5

/-- Where no error is reported, the commands are those for the blocks of the range exactly for these ranges. What can only be
programmed once gets no command. -/
theorem selection_exact_iff (patience : Nat) :
    (∀ debugId idcode size part f answers k n, stm32g0Probe debugId idcode size = some part → f ∈ part.list → 0 < n →
      (k + n) * f.blocksize ≤ f.length →
      (stm32g0FlashErase patience answers part.partId f (f.start + k * f.blocksize) (n * f.blocksize)).1 = some true →
      (f.start = flashStart →
        ((stm32g0FlashErase patience answers part.partId f (f.start + k * f.blocksize) (n * f.blocksize)).2.Perm
          ((List.range' k n).map fun k => pageCommand part.partId f (f.start + k * f.blocksize)) ↔
          (part.partId = stm32g0bC → PagesRight (bank1Pages f) k n))) ∧
      (f.start ≠ flashStart →
        (stm32g0FlashErase patience answers part.partId f (f.start + k * f.blocksize) (n * f.blocksize)).2 = [])) ∧
    (∀ partno part flash answers k n, stm32h5Probe partno = some part → flash ∈ part.list → 0 < n →
      (k + n) * sectorSize ≤ flash.length →
      (stm32h5FlashErase patience answers flash (flash.start + k * sectorSize) (n * sectorSize)).1 = some true →
      ((stm32h5FlashErase patience answers flash (flash.start + k * sectorSize) (n * sectorSize)).2.Perm
        ((List.range' k n).map fun k => sectorCommand partno (flash.start + k * sectorSize)) ↔ k = 0 ∨ k = 64)) := by
  apply And.intro
  · intro debugId idcode size part f answers k n found listed filled inside succeeded
    cases stm32g0Probe_regions found listed with
    | inl otp =>
      subst otp
      exact ⟨fun main => absurd main (by decide), fun _ => stm32g0_otp (Nat.le_add_right _ _)⟩
    | inr main =>
      obtain ⟨length, main, fits, small⟩ := main
      subst main
      exact ⟨fun _ => stm32g0_iff fits small filled inside succeeded, fun other => absurd rfl other⟩
  · intro partno part flash answers k n found listed filled inside succeeded
    exact stm32h5_iff found listed filled inside succeeded

/-- A controller that is done at once. -/
def done : Polls := ⟨fun _ => 0, fun _ => false⟩

theorem stm32h503_first_sectors :
    (stm32h5FlashErase 1 (fun _ => done) ⟨0x08010000, 0x10000, sectorSize, 8 ||| ctrlBank2⟩ (0x08010000 + 0 * sectorSize)
      (2 * sectorSize)).2.Perm
      ((List.range' 0 2).map fun k => sectorCommand idStm32h503 (0x08010000 + k * sectorSize)) ↔ 0 = 0 ∨ 0 = 64 :=
  (selection_exact_iff 1).2 idStm32h503 _ _ (fun _ => done) 0 2 rfl (.head _) (by decide) (by decide) (by decide +kernel)

/-- The second sector of an STM32H5: the driver erases the last one of the bank. -/
theorem stm32h5_second_sector :
    stm32h5Probe idStm32h5xx = some ⟨idStm32h5xx, [⟨0x08100000, 0x100000, sectorSize, 128 ||| ctrlBank2⟩,
      ⟨0x08000000, 0x100000, sectorSize, 128 ||| ctrlBank1⟩]⟩ ∧
    stm32h5FlashErase 1 (fun _ => done) ⟨0x08000000, 0x100000, sectorSize, 128 ||| ctrlBank1⟩ 0x08002000 sectorSize =
      (some true, [⟨false, 127⟩]) ∧
    ¬ [⟨false, 127⟩].Perm [sectorCommand idStm32h5xx 0x08002000] := by
  decide +kernel

end BlackMagic.Proofs.SectorSelection
