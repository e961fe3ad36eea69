import BlackMagic.Lpc

/-! Which pages of an LPC80x the erases and writes process, compared with its reserved pages. -/

namespace BlackMagic.Proofs.LpcReserved
open BlackMagic.Lpc Lib.Polling Lib.Words

/-- An LPC80x with so many sectors and reserved pages. -/
def lpc80x (sectors reserved : Nat) (iapEntry : BitVec 32) : LpcFlash :=
  lpc11xxAddFlash 0 (sectors * sectorSize) sectorSize iapEntry reserved

/-- The pages that a successful call erases: those of whole sectors, or those by their own number. -/
def CallErases : IapCall → Nat → Prop
  | ⟨.erase, first :: last :: _⟩, page => first * 16 ≤ page ∧ page < (last + 1) * 16
  | ⟨.erasePage, first :: last :: _⟩, page => first ≤ page ∧ page ≤ last
  | _, _ => False

def Erases (calls : List IapCall) (page : Nat) : Prop := ∃ call ∈ calls, CallErases call page

/-- The bytes that a successful call programs, each from a place in RAM. -/
def CallPrograms : IapCall → Nat → Nat → Prop
  | ⟨.program, dest :: buffer :: len :: _⟩, a, source => dest ≤ a ∧ a < dest + len ∧ source = buffer + (a - dest)
  | _, _, _ => False

def Programs (calls : List IapCall) (a source : Nat) : Prop := ∃ call ∈ calls, CallPrograms call a source

variable {sectors reserved : Nat} {iapEntry : BitVec 32} {statuses : Nat → BitVec 32}

theorem sector_of {addr : Nat} (fits : sectors ≤ 256) (inside : addr < sectors * sectorSize) :
    lpcSectorForAddr (lpc80x sectors reserved iapEntry) addr = addr / sectorSize := by
  simp only [lpcSectorForAddr, lpc80x, lpc11xxAddFlash, sectorSize] at inside ⊢
  rw [sub32_of_le (by omega) (Nat.zero_le _)]
  omega

theorem reserved_of (few : reserved < 16) : (lpc80x sectors reserved iapEntry).reservedPages = reserved := by
  simp only [lpc80x, lpc11xxAddFlash]
  omega

/-- The length of the sectors below the topmost one. -/
theorem length_of (fits : sectors ≤ 256) (some_ : 0 < sectors) :
    sub32 (lpc80x sectors reserved iapEntry).length 1024 = (sectors - 1) * 1024 := by
  simp only [lpc80x, lpc11xxAddFlash, sectorSize]
  rw [sub32_of_le (by omega) (by omega)]
  omega

section Erase

/-- What the driver asks for over a range of sectors. -/
def eraseCalls (start last lastFull pageStart pageEnd : Nat) : List IapCall :=
  ⟨.prepare, [start, last, 0]⟩ ::
    ((if start ≤ lastFull then [⟨.erase, [start, lastFull, cpuClkKhz, 0]⟩, ⟨.blankcheck, [start, lastFull, 0]⟩] else []) ++
      if lastFull ≠ last then [⟨.prepare, [last, last, 0]⟩, ⟨.erasePage, [pageStart, pageEnd, cpuClkKhz, 0]⟩] else [])

theorem eraseCalls_erases {start last lastFull pageStart pageEnd page : Nat} :
    Erases (eraseCalls start last lastFull pageStart pageEnd) page ↔
      start ≤ lastFull ∧ start * 16 ≤ page ∧ page < (lastFull + 1) * 16 ∨
        lastFull ≠ last ∧ pageStart ≤ page ∧ page ≤ pageEnd := by
  have append {one other : List IapCall} : Erases (one ++ other) page ↔ Erases one page ∨ Erases other page := by
    simp only [Erases, List.mem_append, or_and_right, exists_or]
  have cons {call : IapCall} {rest : List IapCall} : Erases (call :: rest) page ↔ CallErases call page ∨ Erases rest page := by
    simp only [Erases, List.mem_cons, or_and_right, exists_or, exists_eq_left]
  have nil : ¬ Erases [] page := by
    intro found
    obtain ⟨call, listed, _⟩ := found
    exact List.not_mem_nil listed
  rw [eraseCalls, cons, append]
  apply Iff.intro
  · intro found
    cases found with
    | inl never => cases never
    | inr found =>
      cases found with
      | inl found =>
        split at found
        next full =>
          rw [cons, cons] at found
          cases found with
          | inl pages => exact .inl ⟨full, pages⟩
          | inr found =>
            cases found with
            | inl never => cases never
            | inr never => exact absurd never nil
        · exact absurd found nil
      | inr found =>
        split at found
        next part =>
          rw [cons, cons] at found
          cases found with
          | inl never => cases never
          | inr found =>
            cases found with
            | inl pages => exact .inr ⟨part, pages⟩
            | inr never => exact absurd never nil
        · exact absurd found nil
  · intro found
    cases found with
    | inl found =>
      rw [if_pos found.1, cons]
      exact .inr (.inl (.inl found.2))
    | inr found =>
      rw [if_pos found.1, cons, cons]
      exact .inr (.inr (.inr (.inl found.2)))

/-- The last sector that is erased as a whole, for a range that ends before a sector. -/
def lastFull (sectors reserved stop : Nat) : Nat :=
  if reserved ≠ 0 ∧ sectors - 1 ≤ stop then sub32 (stop - 1) 1 else stop - 1

theorem erase_calls {start stop : Nat} (fits : sectors ≤ 256) (few : reserved < 16) (filled : start < stop)
    (inside : stop ≤ sectors)
    (succeeded : (lpcFlashErase (lpc80x sectors reserved iapEntry) statuses (start * sectorSize)
      ((stop - start) * sectorSize)).1 = some true) :
    (lpcFlashErase (lpc80x sectors reserved iapEntry) statuses (start * sectorSize) ((stop - start) * sectorSize)).2 =
      eraseCalls start (stop - 1) (lastFull sectors reserved stop) ((stop - 1) * 16) (stop * 16 - 1 - reserved) := by
  have size : sectorSize = 1024 := rfl
  rw [size] at succeeded ⊢
  have sum : add32 (start * 1024) ((stop - start) * 1024) = stop * 1024 := by
    rw [add32_of_lt (by omega)]
    omega
  have end_ : sub32 (stop * 1024) 1 = stop * 1024 - 1 := sub32_of_le (by omega) (by omega)
  have first : lpcSectorForAddr (lpc80x sectors reserved iapEntry) (start * 1024) = start := by
    rw [sector_of fits (by rw [size]; omega), size]
    omega
  have last : lpcSectorForAddr (lpc80x sectors reserved iapEntry) (stop * 1024 - 1) = stop - 1 := by
    rw [sector_of fits (by rw [size]; omega), size]
    omega
  have length := @length_of sectors reserved iapEntry fits (by omega)
  have touches : (sectors - 1) * 1024 ≤ stop * 1024 ↔ sectors - 1 ≤ stop := by omega
  have pageStart : sub32 (stop * 1024) sectorSize / pageSize = (stop - 1) * 16 := by
    rw [size, sub32_of_le (by omega) (by omega)]
    simp only [pageSize]
    omega
  have pageEnd : sub32 ((stop - 1) * 16 + sectorSize / pageSize - 1) reserved = stop * 16 - 1 - reserved := by
    simp only [size, pageSize]
    rw [sub32_of_le (by omega) (by omega)]
    omega
  simp only [lpcFlashErase, callAll, sum, end_, first, last, reserved_of few, length, touches, pageStart, pageEnd] at succeeded ⊢
  rw [issue_all succeeded]
  rfl

/-- An erase leaves out exactly the reserved pages at the top. -/
def EraseExact (sectors reserved start stop : Nat) (calls : List IapCall) : Prop :=
  ∀ page, Erases calls page ↔ start * 16 ≤ page ∧ page < stop * 16 ∧ page + reserved < sectors * 16

theorem erase_exact_iff {start stop : Nat} (fits : sectors ≤ 256) (few : reserved < 16) (filled : start < stop)
    (inside : stop ≤ sectors)
    (succeeded : (lpcFlashErase (lpc80x sectors reserved iapEntry) statuses (start * sectorSize)
      ((stop - start) * sectorSize)).1 = some true) :
    EraseExact sectors reserved start stop
      (lpcFlashErase (lpc80x sectors reserved iapEntry) statuses (start * sectorSize) ((stop - start) * sectorSize)).2 ↔
      reserved = 0 ∨ stop + 1 < sectors ∨ stop = sectors ∧ 2 ≤ sectors := by
  rw [erase_calls fits few filled inside succeeded]
  simp only [EraseExact, eraseCalls_erases, lastFull]
  apply Iff.intro
  · intro exact_
    by_contra wrong
    have touches : reserved ≠ 0 ∧ sectors - 1 ≤ stop := by omega
    rw [if_pos touches] at exact_
    by_cases one : stop = 1
    · subst one
      have wrap : sub32 (1 - 1) 1 = 2 ^ 32 - 1 := by decide
      rw [wrap] at exact_
      have beyond := (exact_ (sectors * 16)).mp (.inl (by omega))
      omega
    · have before : sub32 (stop - 1) 1 = stop - 2 := sub32_of_le (by omega) (by omega)
      rw [before] at exact_
      have missed := (exact_ (stop * 16 - 1)).mpr (by omega)
      omega
  · intro right page
    by_cases touches : reserved ≠ 0 ∧ sectors - 1 ≤ stop
    · have before : sub32 (stop - 1) 1 = stop - 2 := sub32_of_le (by omega) (by omega)
      rw [if_pos touches, before]
      omega
    · rw [if_neg touches]
      omega

end Erase

section Write

/-- A write leaves out exactly the reserved pages of its sector, and programs the others from their place in the buffer. -/
def WriteExact (sectors reserved sector buffer : Nat) (calls : List IapCall) : Prop :=
  ∀ a source, Programs calls a source ↔ sector * sectorSize ≤ a ∧ a < (sector + 1) * sectorSize ∧
    a / pageSize + reserved < sectors * 16 ∧ source = buffer + (a - sector * sectorSize)

theorem programs_whole {sector dest buffer len : Nat} {a source : Nat} :
    Programs [⟨.prepare, [sector, sector, 0]⟩, ⟨.program, [dest, buffer, len, cpuClkKhz]⟩] a source ↔
      dest ≤ a ∧ a < dest + len ∧ source = buffer + (a - dest) := by
  apply Iff.intro
  · intro ⟨call, listed, programmed⟩
    cases listed with
    | head => cases programmed
    | tail _ listed =>
      cases List.mem_singleton.mp listed
      exact programmed
  · intro inside
    exact ⟨_, .tail _ (.head _), inside⟩

theorem programs_pages {f : LpcFlash} {sector dest count a source : Nat} :
    Programs (⟨.prepare, [sector, sector, 0]⟩ :: (List.range count).flatMap fun k => programPage f sector dest (k * pageSize))
      a source ↔
      ∃ k < count, dest + k * pageSize ≤ a ∧ a < dest + k * pageSize + pageSize ∧
        source = bufAddr f + k * pageSize + (a - (dest + k * pageSize)) := by
  apply Iff.intro
  · intro ⟨call, listed, programmed⟩
    cases listed with
    | head => cases programmed
    | tail _ listed =>
      obtain ⟨k, counted, listed⟩ := List.mem_flatMap.mp listed
      cases listed with
      | head => cases programmed
      | tail _ listed =>
        cases List.mem_singleton.mp listed
        exact ⟨k, List.mem_range.mp counted, programmed⟩
  · intro ⟨k, counted, inside⟩
    exact ⟨_, .tail _ (List.mem_flatMap.mpr ⟨k, List.mem_range.mpr counted, .tail _ (.head _)⟩), inside⟩

theorem write_exact {sector : Nat} (fits : sectors ≤ 256) (few : reserved < 16) (inside : sector < sectors)
    (succeeded : (lpcFlashWrite (lpc80x sectors reserved iapEntry) statuses (sector * sectorSize) sectorSize).1 = some true) :
    WriteExact sectors reserved sector (bufAddr (lpc80x sectors reserved iapEntry))
      (lpcFlashWrite (lpc80x sectors reserved iapEntry) statuses (sector * sectorSize) sectorSize).2 := by
  have size : sectorSize = 1024 := rfl
  have page : pageSize = 64 := rfl
  simp only [WriteExact, size] at succeeded ⊢
  have first : lpcSectorForAddr (lpc80x sectors reserved iapEntry) (sector * 1024) = sector := by
    rw [sector_of fits (by rw [size]; omega), size]
    omega
  have sum : add32 (sector * 1024) 1024 = (sector + 1) * 1024 := by
    rw [add32_of_lt (by omega)]
    omega
  have length := @length_of sectors reserved iapEntry fits (by omega)
  have count : (sub32 1024 (pageSize * reserved) + pageSize - 1) / pageSize = 16 - reserved := by
    rw [page, sub32_of_le (by omega) (by omega)]
    omega
  have low : (sector + 1) * 1024 ≤ (sectors - 1) * 1024 ↔ sector + 1 < sectors := by omega
  have bank : (lpc80x sectors reserved iapEntry).bank = 0 := rfl
  intro a source
  simp only [lpcFlashWrite, callAll, first, sum, reserved_of few, length, count, low, bank] at succeeded ⊢
  rw [issue_all succeeded]
  by_cases whole : reserved = 0 ∨ sector + 1 < sectors
  · rw [if_pos whole, programs_whole, page]
    omega
  · rw [if_neg whole, programs_pages, page]
    generalize bufAddr (lpc80x sectors reserved iapEntry) = buffer
    apply Iff.intro
    · intro ⟨k, counted, lower, upper, from_⟩
      omega
    · intro ⟨lower, upper, kept, from_⟩
      obtain ⟨offset, at_⟩ := Nat.exists_eq_add_of_le lower
      have fewer : offset / 64 < 16 - reserved := by omega
      have below : offset / 64 * 64 ≤ offset := Nat.div_mul_le_self offset 64
      have near : offset < offset / 64 * 64 + 64 := Nat.lt_div_mul_add (by decide)
      refine ⟨offset / 64, fewer, ?_, ?_, ?_⟩
      · rw [at_]
        exact Nat.add_le_add_left below _
      · rw [at_, Nat.add_assoc]
        exact Nat.add_lt_add_left near _
      · rw [from_, at_, Nat.add_sub_add_left, Nat.add_sub_cancel_left, Nat.add_assoc, Nat.add_sub_cancel' below]

end Write

/-- Erases spare exactly the reserved pages unless the range ends below the topmost sector; writes always do. -/
theorem reserved_pages_iff (fits : sectors ≤ 256) (few : reserved < 16) (iapEntry : BitVec 32) (statuses : Nat → BitVec 32) :
    (∀ start stop, start < stop → stop ≤ sectors →
      (lpcFlashErase (lpc80x sectors reserved iapEntry) statuses (start * sectorSize) ((stop - start) * sectorSize)).1 =
        some true →
      (EraseExact sectors reserved start stop
        (lpcFlashErase (lpc80x sectors reserved iapEntry) statuses (start * sectorSize) ((stop - start) * sectorSize)).2 ↔
        reserved = 0 ∨ stop + 1 < sectors ∨ stop = sectors ∧ 2 ≤ sectors)) ∧
    (∀ sector, sector < sectors →
      (lpcFlashWrite (lpc80x sectors reserved iapEntry) statuses (sector * sectorSize) sectorSize).1 = some true →
      WriteExact sectors reserved sector (bufAddr (lpc80x sectors reserved iapEntry))
        (lpcFlashWrite (lpc80x sectors reserved iapEntry) statuses (sector * sectorSize) sectorSize).2) := by
  apply And.intro
  · intro start stop filled inside succeeded
    exact erase_exact_iff fits few filled inside succeeded
  · intro sector inside succeeded
    exact write_exact fits few inside succeeded

/-- The whole of an LPC802. -/
theorem lpc802_all_erased :
    EraseExact 16 2 0 16 (lpcFlashErase (lpc80x 16 2 0x0f001ff1) (fun _ => 0) (0 * sectorSize) ((16 - 0) * sectorSize)).2 ↔
      2 = 0 ∨ 16 + 1 < 16 ∨ 16 = 16 ∧ 2 ≤ 16 :=
  (reserved_pages_iff (by decide) (by decide) 0x0f001ff1 (fun _ => 0)).1 0 16 (by decide) (by decide) (by decide +kernel)

/-- The sector below the topmost one of an LPC802: its last two pages are left as they are. -/
theorem lpc802_pages_left :
    (lpcFlashErase (lpc80x 16 2 0x0f001ff1) (fun _ => 0) (14 * sectorSize) ((15 - 14) * sectorSize)).1 = some true ∧
      ¬ EraseExact 16 2 14 15
        (lpcFlashErase (lpc80x 16 2 0x0f001ff1) (fun _ => 0) (14 * sectorSize) ((15 - 14) * sectorSize)).2 := by
  have calls : lpcFlashErase (lpc80x 16 2 0x0f001ff1) (fun _ => 0) (14 * sectorSize) ((15 - 14) * sectorSize) =
      (some true, [⟨.prepare, [14, 14, 0]⟩, ⟨.prepare, [14, 14, 0]⟩, ⟨.erasePage, [224, 237, 12000, 0]⟩]) := by
    decide +kernel
  rw [calls]
  refine ⟨rfl, fun exact_ => ?_⟩
  obtain ⟨call, listed, erased⟩ := (exact_ 239).mpr (by decide)
  cases listed with
  | head => cases erased
  | tail _ listed =>
    cases listed with
    | head => cases erased
    | tail _ listed =>
      cases List.mem_singleton.mp listed
      exact absurd erased.2 (by decide)

end BlackMagic.Proofs.LpcReserved
