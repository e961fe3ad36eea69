import BlackMagic.Stm32f1

/-! Which pages of the STM32F1 and its relatives are erased or written through the bank that holds them. -/

namespace BlackMagic.Proofs.Stm32f1Banks
open BlackMagic.Stm32f1 Lib.Words

/-- The bank that holds an address. -/
def bankOf (part : Part) (a : Nat) : Bank := if a < part.secondBank then .bank1 else .bank2

/-- The lock bit of a bank was seen clear. -/
def SeenClear (bank : Bank) (log : List Event) : Prop := .readCr bank false ∈ log

section Regions

/-- What is true of all regions that the probes register. -/
structure Usual (part : Part) (flash : Flash) : Prop where
  start : flash.start = 0x8000000 ∨ flash.start = flashBankSplit
  blocks : flash.blocksize ∣ 0x80000
  writes : flash.writesize = 1024
  fits : flash.start + flash.length < 2 ^ 32
  banks : flashBankSplit ≤ part.secondBank

theorem usual_splitPart {partId addr length erasesize : Nat} {flash : Flash} (start : addr = 0x8000000)
    (blocks : erasesize ∣ 0x80000) (fits : length < 0x10000000)
    (listed : flash ∈ (splitPart partId (stm32f1AddFlash addr length erasesize [])).list) :
    Usual (splitPart partId (stm32f1AddFlash addr length erasesize [])) flash := by
  cases List.mem_singleton.mp listed
  exact ⟨.inl start, blocks, rfl, by dsimp only; omega, Nat.le_refl _⟩

theorem gd32f1Probe_usual {deviceId : Nat} {flashSize : BitVec 16} {part : Part}
    (found : gd32f1Probe deviceId flashSize = some part) {flash : Flash} (listed : flash ∈ part.list) : Usual part flash := by
  rw [gd32f1Probe] at found
  split at found
  · cases found
    have size := flashSize.isLt
    apply usual_splitPart rfl _ (by omega) listed
    split <;> decide
  · cases found

theorem at32f40Detect_usual {partId number : Nat} {part : Part} (found : at32f40Detect partId number = some part)
    {flash : Flash} (listed : flash ∈ part.list) : Usual part flash := by
  rw [at32f40Detect] at found
  split at found
  · cases found
    exact usual_splitPart rfl (by decide) (by decide) listed
  · cases found

theorem at32f41Detect_usual {partId number : Nat} {part : Part} (found : at32f41Detect partId number = some part)
    {flash : Flash} (listed : flash ∈ part.list) : Usual part flash := by
  rw [at32f41Detect] at found
  split at found
  · cases found
    exact usual_splitPart rfl (by decide) (by decide) listed
  · split at found
    · cases found
      exact usual_splitPart rfl (by decide) (by decide) listed
    · split at found
      · cases found
        exact usual_splitPart rfl (by decide) (by decide) listed
      · cases found

theorem at32f43Detect_usual {partId number : Nat} {part : Part} (found : at32f43Detect partId number = some part)
    {flash : Flash} (listed : flash ∈ part.list) : Usual part flash := by
  rw [at32f43Detect] at found
  split at found
  · cases found
    cases List.mem_singleton.mp listed
    have divides : 4096 ∣ 0x80000 := by decide
    have fits : 0x8000000 + 4032 * 1024 < 2 ^ 32 := by decide
    have banks : flashBankSplit ≤ 0x8000000 + 2048 * 1024 := by decide
    exact ⟨.inl rfl, divides, rfl, fits, banks⟩
  · split at found
    · cases found
      exact usual_splitPart rfl (by decide) (by decide) listed
    · split at found
      · cases found
        exact usual_splitPart rfl (by decide) (by decide) listed
      · split at found
        · cases found
          exact usual_splitPart rfl (by decide) (by decide) listed
        · cases found

theorem at32fxxProbe_usual {partId : Nat} {idcode : BitVec 32} {part : Part} (found : at32fxxProbe partId idcode = some part)
    {flash : Flash} (listed : flash ∈ part.list) : Usual part flash := by
  simp only [at32fxxProbe] at found
  split at found
  · exact at32f40Detect_usual found listed
  · split at found
    · exact at32f41Detect_usual found listed
    · split at found
      · exact at32f43Detect_usual found listed
      · cases found

theorem mm32l0xxProbe_usual {mm32Id : BitVec 32} {part : Part} (found : mm32l0xxProbe mm32Id = some part) {flash : Flash}
    (listed : flash ∈ part.list) : Usual part flash := by
  simp only [mm32l0xxProbe] at found
  split at found
  · cases found
    exact usual_splitPart rfl (by decide) (by decide) listed
  · split at found
    · cases found
      exact usual_splitPart rfl (by decide) (by decide) listed
    · split at found
      · cases found
        exact usual_splitPart rfl (by decide) (by decide) listed
      · cases found

theorem mm32f3xxProbe_usual {mm32Id : BitVec 32} {part : Part} (found : mm32f3xxProbe mm32Id = some part) {flash : Flash}
    (listed : flash ∈ part.list) : Usual part flash := by
  simp only [mm32f3xxProbe] at found
  split at found
  · cases found
    exact usual_splitPart rfl (by decide) (by decide) listed
  · split at found
    · cases found
      exact usual_splitPart rfl (by decide) (by decide) listed
    · cases found

theorem usual_second {partId : Nat} {flash : Flash}
    (listed : flash ∈ (splitPart partId (stm32f1AddFlash 0x8080000 0x80000 0x800
      (stm32f1AddFlash 0x8000000 0x80000 0x800 []))).list) :
    Usual (splitPart partId (stm32f1AddFlash 0x8080000 0x80000 0x800 (stm32f1AddFlash 0x8000000 0x80000 0x800 []))) flash := by
  have divides : 0x800 ∣ 0x80000 := by decide
  have fits : 0x8080000 + 0x80000 < 2 ^ 32 := by decide
  cases listed with
  | head => exact ⟨.inr rfl, divides, rfl, fits, Nat.le_refl _⟩
  | tail _ rest =>
    cases List.mem_singleton.mp rest
    exact ⟨.inl rfl, divides, rfl, by dsimp only; omega, Nat.le_refl _⟩

theorem stm32f1Probe_usual {deviceId : Nat} {part : Part} (found : stm32f1Probe deviceId = some part) {flash : Flash}
    (listed : flash ∈ part.list) : Usual part flash := by
  simp only [stm32f1Probe] at found
  repeat' split at found
  any_goals cases found
  case isFalse.isFalse.isTrue => exact usual_second listed
  all_goals exact usual_splitPart rfl (by decide) (by decide) listed

theorem registered_usual {part : Part} (registered : Registered part) {flash : Flash} (listed : flash ∈ part.list) :
    Usual part flash := by
  cases registered with
  | gd32 found => exact gd32f1Probe_usual found listed
  | at32 found => exact at32fxxProbe_usual found listed
  | mm32l0 found => exact mm32l0xxProbe_usual found listed
  | mm32f3 found => exact mm32f3xxProbe_usual found listed
  | stm32 found => exact stm32f1Probe_usual found listed

end Regions

section Calls

/-- The lock bit of the second bank was not looked at. -/
def Unseen (log : List Event) : Prop := ∀ locked, .readCr .bank2 locked ∉ log

theorem unseen_nil : Unseen [] := fun _ => List.not_mem_nil

theorem Unseen.append {log more : List Event} (one : Unseen log) (other : Unseen more) : Unseen (log ++ more) := by
  intro locked seen
  cases List.mem_append.mp seen with
  | inl seen => exact one locked seen
  | inr seen => exact other locked seen

theorem unseen_unlock (cr : BitVec 32) (bank : Bank) : Unseen (stm32f1FlashUnlock cr bank).2 := by
  intro locked seen
  simp only [stm32f1FlashUnlock, List.mem_cons, reduceCtorEq, Event.readCr.injEq, false_and, List.not_mem_nil, or_self] at seen

theorem unseen_unlockIf (condition : Bool) (cr : BitVec 32) (bank : Bank) : Unseen (unlockIf condition cr bank).2 := by
  rw [unlockIf]
  split
  · exact unseen_unlock cr bank
  · exact unseen_nil

theorem unseen_page (bank : Bank) (addr : Nat) : Unseen [.erasePage bank addr] := by
  intro locked seen
  cases List.mem_singleton.mp seen

theorem unseen_program (bank : Bank) (dest : Nat) (data : List Byte) : Unseen [.program bank dest data] := by
  intro locked seen
  cases List.mem_singleton.mp seen

theorem unseen_mass (bank : Bank) : Unseen [.massErase bank] := by
  intro locked seen
  cases List.mem_singleton.mp seen

theorem unseen_afterWait {waited : Option Bool} {log : List Event} {next : Option Bool × List Event} (one : Unseen log)
    (other : Unseen next.2) : Unseen (afterWait waited log next).2 := by
  match waited with
  | some true => exact one.append other
  | some false => exact one
  | none => exact one

theorem unseen_erase (patience : Nat) (answers : Answers) (partId addr length : Nat) :
    Unseen (stm32f1FlashErase patience answers partId addr length).2 := by
  simp only [stm32f1FlashErase]
  split
  · exact unseen_unlockIf _ _ _
  · split
    · exact (unseen_unlockIf _ _ _).append (unseen_unlockIf _ _ _)
    · exact ((unseen_unlockIf _ _ _).append (unseen_unlockIf _ _ _)).append (unseen_page _ _)

theorem unseen_write (patience : Nat) (answers : Answers) (partId dest : Nat) (src : List Byte) :
    Unseen (stm32f1FlashWrite patience answers partId dest src).2 := by
  have second : Unseen (if partId = 0x430 ∧ src.length - stm32f1Bank1Length dest src.length ≠ 0 then
      afterWait (stm32f1FlashBusyWait patience (answers.wait .bank2))
        [.program .bank2 (dest + stm32f1Bank1Length dest src.length) ((src.drop (stm32f1Bank1Length dest src.length)).take
          (src.length - stm32f1Bank1Length dest src.length))] (some true, [])
      else (some true, [])).2 := by
    split
    · exact unseen_afterWait (unseen_program _ _ _) unseen_nil
    · exact unseen_nil
  simp only [stm32f1FlashWrite]
  split
  · exact unseen_afterWait (unseen_program _ _ _) second
  · exact second

theorem unseen_massEraseBank (patience : Nat) (cr : BitVec 32) (polls : Polls) (bank : Bank) :
    Unseen (stm32f1MassEraseBank patience cr polls bank).2 := by
  simp only [stm32f1MassEraseBank]
  split
  · exact unseen_unlock _ _
  · exact (unseen_unlock _ _).append (unseen_mass _)

theorem unseen_massErase (patience : Nat) (answers : Answers) (partId : Nat) :
    Unseen (stm32f1MassErase patience answers partId).2 := by
  simp only [stm32f1MassErase]
  split
  · exact unseen_unlock _ _
  · apply unseen_afterWait ((unseen_unlock _ _).append (unseen_massEraseBank _ _ _ _))
    split
    · exact unseen_massEraseBank _ _ _ _
    · exact unseen_nil

/-- No call ever looks at the lock bit of the second bank. -/
theorem unseen_run (patience : Nat) (answers : Answers) (partId : Nat) (request : Request) :
    Unseen (request.run patience answers partId).2 := by
  cases request with
  | erase addr length => exact unseen_erase patience answers partId addr length
  | write dest src => exact unseen_write patience answers partId dest src
  | massErase => exact unseen_massErase patience answers partId
  | option => exact unseen_unlock _ _

theorem unseen_events (patience partId : Nat) (run : List Step) : Unseen (events patience partId run) := by
  intro locked seen
  obtain ⟨step, _, seen⟩ := List.mem_flatMap.mp seen
  exact unseen_run patience step.answers partId step.request locked seen

/-- An erase above the split gives no page of the first bank. -/
theorem erase_above {patience : Nat} {answers : Answers} {partId addr length page : Nat} (above : flashBankSplit ≤ addr) :
    .erasePage .bank1 page ∉ (stm32f1FlashErase patience answers partId addr length).2 := by
  have quiet (condition : Bool) (cr : BitVec 32) (bank : Bank) :
      .erasePage .bank1 page ∉ (unlockIf condition cr bank).2 := by
    rw [unlockIf]
    split
    · simp only [stm32f1FlashUnlock, List.mem_cons, reduceCtorEq, List.not_mem_nil, or_self, not_false_eq_true]
    · exact List.not_mem_nil
  simp only [stm32f1FlashErase, stm32f1BankOffsetFor, if_pos above]
  intro sent
  split at sent
  · exact quiet _ _ _ sent
  · split at sent
    · cases List.mem_append.mp sent with
      | inl sent => exact quiet _ _ _ sent
      | inr sent => exact quiet _ _ _ sent
    · cases List.mem_append.mp sent with
      | inl sent =>
        cases List.mem_append.mp sent with
        | inl sent => exact quiet _ _ _ sent
        | inr sent => exact quiet _ _ _ sent
      | inr sent => cases List.mem_singleton.mp sent

/-- An erase below the split unlocks the first bank and looks at its lock bit. -/
theorem erase_below {patience : Nat} {answers : Answers} {partId addr length : Nat} (below : addr + length ≤ flashBankSplit)
    (filled : 0 < length) (succeeded : (stm32f1FlashErase patience answers partId addr length).1 = some true) :
    (stm32f1FlashErase patience answers partId addr length).2 =
      [.keys .bank1, .readCr .bank1 false, .erasePage .bank1 addr] := by
  have word : flashBankSplit < 2 ^ 32 := by decide
  have last : sub32 (add32 addr length) 1 = addr + length - 1 := by
    rw [add32_of_lt (by omega), sub32_of_le (by omega) (by omega)]
  have under : ¬ flashBankSplit ≤ addr + length - 1 := by omega
  have first : addr < flashBankSplit := by omega
  simp only [stm32f1FlashErase, last, decide_eq_false under, Bool.and_false, unlockIf, Bool.false_eq_true, if_false,
    Bool.not_true, decide_eq_true first, if_true, List.nil_append, stm32f1BankOffsetFor, if_neg (Nat.not_le.mpr first),
    stm32f1FlashUnlock] at succeeded ⊢
  cases locked : answers.cr 1 &&& flashCrLock != 0 with
  | true =>
    rw [locked] at succeeded
    cases succeeded
  | false => rfl

/-- A write above the split programs nothing of the first bank. -/
theorem write_above {patience : Nat} {answers : Answers} {partId dest page : Nat} {src data : List Byte}
    (above : flashBankSplit ≤ dest) : .program .bank1 page data ∉ (stm32f1FlashWrite patience answers partId dest src).2 := by
  simp only [stm32f1FlashWrite, stm32f1Bank1Length, if_pos above, ne_eq, not_true_eq_false, if_false]
  intro sent
  split at sent
  · revert sent
    match stm32f1FlashBusyWait patience (answers.wait .bank2) with
    | some true => exact fun sent => by cases List.mem_singleton.mp sent
    | some false => exact fun sent => by cases List.mem_singleton.mp sent
    | none => exact fun sent => by cases List.mem_singleton.mp sent
  · cases sent

theorem write_below {patience : Nat} {answers : Answers} {partId dest : Nat} {src : List Byte}
    (below : dest + src.length ≤ flashBankSplit) (filled : 0 < src.length) :
    (stm32f1FlashWrite patience answers partId dest src).2 = [.program .bank1 dest src] := by
  have word : flashBankSplit < 2 ^ 32 := by decide
  have all : stm32f1Bank1Length dest src.length = src.length := by
    rw [stm32f1Bank1Length, if_neg (by omega), add32_of_lt (by omega), if_neg (by omega)]
  simp only [stm32f1FlashWrite, all, Nat.sub_self, ne_eq, not_true_eq_false, and_false, if_false, filled.ne',
    not_false_eq_true, if_true, List.take_length]
  match waited : stm32f1FlashBusyWait patience (answers.wait .bank1) with
  | some true => rfl
  | some false => rfl
  | none => rfl

end Calls

section Completeness

/-- The page of a byte was erased through the bank that holds it, after that bank was seen to be unlocked. -/
def Erased (part : Part) (flash : Flash) (log call : List Event) (a : Nat) : Prop :=
  ∃ earlier later page, call = earlier ++ .erasePage (bankOf part a) page :: later ∧ page ≤ a ∧ a < page + flash.blocksize ∧
    SeenClear (bankOf part a) (log ++ earlier)

/-- A byte was sent to be programmed through the bank that holds it, after that bank was seen to be unlocked. -/
def Programmed (part : Part) (log call : List Event) (a : Nat) (value : Byte) : Prop :=
  ∃ earlier later dest data, call = earlier ++ .program (bankOf part a) dest data :: later ∧ dest ≤ a ∧
    data[a - dest]? = some value ∧ SeenClear (bankOf part a) (log ++ earlier)

variable {part : Part} {flash : Flash} {log call : List Event}

/-- What is done through a bank in a call that does not look at the second bank's lock bit is done in the first. -/
theorem only_first {bank : Bank} {earlier later : List Event} {event : Event} (split : call = earlier ++ event :: later)
    (before : Unseen log) (during : Unseen call) (seen : SeenClear bank (log ++ earlier)) : bank = .bank1 := by
  cases bank with
  | bank1 => rfl
  | bank2 =>
    exfalso
    cases List.mem_append.mp seen with
    | inl seen => exact before false seen
    | inr seen => exact during false (split ▸ List.mem_append_left _ seen)

theorem block_below (usual : Usual part flash) {k : Nat}
    (below : flash.start + k * flash.blocksize < flashBankSplit) :
    flash.start + k * flash.blocksize + flash.blocksize ≤ flashBankSplit := by
  obtain ⟨blocks, count⟩ := usual.blocks
  have start : flash.start = 0x8000000 := by
    cases usual.start with
    | inl start => exact start
    | inr start => omega
  have split : flashBankSplit = 0x8000000 + 0x80000 := rfl
  have fewer : k < blocks := by
    by_contra more
    have := Nat.mul_le_mul_right flash.blocksize (Nat.not_lt.mp more)
    rw [Nat.mul_comm] at count
    omega
  have room := Nat.mul_le_mul_right flash.blocksize (Nat.succ_le_of_lt fewer)
  rw [Nat.succ_mul] at room
  rw [Nat.mul_comm] at count
  omega

theorem page_below (usual : Usual part flash) {k : Nat} (below : flash.start + k * flash.writesize < flashBankSplit) :
    flash.start + k * flash.writesize + flash.writesize ≤ flashBankSplit := by
  have split : flashBankSplit = 0x8000000 + 0x80000 := rfl
  rw [usual.writes] at below ⊢
  cases usual.start with
  | inl start => omega
  | inr start => omega

theorem bankOf_below (usual : Usual part flash) {a : Nat} (below : a < flashBankSplit) : bankOf part a = .bank1 :=
  if_pos (Nat.lt_of_lt_of_le below usual.banks)

theorem erase_complete_iff (usual : Usual part flash) {patience : Nat} {answers : Answers} {k : Nat} (before : Unseen log)
    (succeeded : (stm32f1FlashErase patience answers part.partId (flash.start + k * flash.blocksize) flash.blocksize).1 =
      some true) :
    (∀ a, flash.start + k * flash.blocksize ≤ a → a < flash.start + k * flash.blocksize + flash.blocksize →
      Erased part flash log
        (stm32f1FlashErase patience answers part.partId (flash.start + k * flash.blocksize) flash.blocksize).2 a) ↔
      flash.start + k * flash.blocksize < flashBankSplit := by
  have size : 0 < flash.blocksize := Nat.pos_of_dvd_of_pos usual.blocks (by decide)
  apply Iff.intro
  · intro complete
    obtain ⟨earlier, later, page, split, _, _, seen⟩ := complete _ (Nat.le_refl _) (by omega)
    by_contra above
    have first := only_first split before (unseen_erase _ _ _ _ _) seen
    apply erase_above (Nat.not_lt.mp above)
    rw [split, first]
    exact List.mem_append_right _ List.mem_cons_self
  · intro below a lower upper
    have room := block_below usual below
    have first : bankOf part a = .bank1 := bankOf_below usual (by omega)
    refine ⟨[.keys .bank1, .readCr .bank1 false], [], flash.start + k * flash.blocksize, ?_, lower, upper, ?_⟩
    · rw [erase_below room size succeeded, first]
      rfl
    · rw [first]
      exact List.mem_append_right _ (.tail _ (.head _))

theorem write_complete_iff (usual : Usual part flash) {patience : Nat} {answers : Answers} {k : Nat} {src : List Byte}
    (page : src.length = flash.writesize) (before : Unseen log) :
    (∀ i value, src[i]? = some value → Programmed part log
        (stm32f1FlashWrite patience answers part.partId (flash.start + k * flash.writesize) src).2
        (flash.start + k * flash.writesize + i) value) ↔
      flash.start + k * flash.writesize < flashBankSplit ∧ SeenClear .bank1 log := by
  have size : 0 < src.length := by rw [page, usual.writes]; decide
  apply Iff.intro
  · intro complete
    obtain ⟨earlier, later, dest, data, split, _, _, seen⟩ := complete 0 _ (List.getElem?_eq_getElem size)
    have first := only_first split before (unseen_write _ _ _ _ _) seen
    have below : flash.start + k * flash.writesize < flashBankSplit := by
      by_contra above
      apply write_above (Nat.not_lt.mp above)
      rw [split, first]
      exact List.mem_append_right _ List.mem_cons_self
    have room := page_below usual below
    rw [write_below (page ▸ room) size] at split
    cases earlier with
    | nil => exact ⟨below, by rwa [first, List.append_nil] at seen⟩
    | cons event rest => cases rest <;> cases split
  · intro ⟨below, clear⟩ i value at_
    have room := page_below usual below
    have inside := (List.getElem?_eq_some_iff.mp at_).1
    have first : bankOf part (flash.start + k * flash.writesize + i) = .bank1 := bankOf_below usual (by omega)
    refine ⟨[], [], flash.start + k * flash.writesize, src, ?_, Nat.le_add_right _ _, ?_, ?_⟩
    · rw [write_below (page ▸ room) size, first]
      rfl
    · rw [Nat.add_sub_cancel_left, at_]
    · rw [first, List.append_nil]
      exact clear

/-- After any run, a page erase or write that succeeds is complete exactly where the page lies below the split, and the lock bit
of the first bank was seen clear. An erase sees to that itself. -/
theorem pages_complete_iff (registered : Registered part) (listed : flash ∈ part.list) (patience : Nat) (history : List Step)
    (answers : Answers) :
    (∀ k, (k + 1) * flash.blocksize ≤ flash.length →
      (stm32f1FlashErase patience answers part.partId (flash.start + k * flash.blocksize) flash.blocksize).1 = some true →
      ((∀ a, flash.start + k * flash.blocksize ≤ a → a < flash.start + k * flash.blocksize + flash.blocksize →
        Erased part flash (events patience part.partId history)
          (stm32f1FlashErase patience answers part.partId (flash.start + k * flash.blocksize) flash.blocksize).2 a) ↔
        flash.start + k * flash.blocksize < flashBankSplit)) ∧
    (∀ k src, src.length = flash.writesize → (k + 1) * flash.writesize ≤ flash.length →
      (stm32f1FlashWrite patience answers part.partId (flash.start + k * flash.writesize) src).1 = some true →
      ((∀ i value, src[i]? = some value →
        Programmed part (events patience part.partId history)
          (stm32f1FlashWrite patience answers part.partId (flash.start + k * flash.writesize) src).2
          (flash.start + k * flash.writesize + i) value) ↔
        flash.start + k * flash.writesize < flashBankSplit ∧ SeenClear .bank1 (events patience part.partId history))) := by
  have usual := registered_usual registered listed
  have before := unseen_events patience part.partId history
  apply And.intro
  · intro k _ succeeded
    exact erase_complete_iff usual before succeeded
  · intro k src page _ _
    exact write_complete_iff usual page before

/-- A controller that is done at once. -/
def idle : Answers := ⟨fun _ => 0, fun _ => ⟨fun _ => 0, fun _ => false⟩⟩

/-- A GD32 with 1024 KiB. -/
def gd32f303 : Part := ⟨0x414, [⟨0x8000000, 0x100000, 0x400, 1024⟩], flashBankSplit⟩

theorem gd32f303_registered : Registered gd32f303 := @Registered.gd32 0x414 1024 _ (by decide)

theorem gd32f303_complete_iff :
    (∀ a, 0x8000000 + 0 * 0x400 ≤ a → a < 0x8000000 + 0 * 0x400 + 0x400 →
      Erased gd32f303 ⟨0x8000000, 0x100000, 0x400, 1024⟩ (events 1 0x414 [])
        (stm32f1FlashErase 1 idle 0x414 (0x8000000 + 0 * 0x400) 0x400).2 a) ↔ 0x8000000 + 0 * 0x400 < flashBankSplit :=
  (pages_complete_iff gd32f303_registered (.head _) 1 [] idle).1 0 (by decide) (by decide)

/-- A page above the split, after an erase of the first one: the write says that it is done, and sends nothing. -/
theorem gd32f303_unwritten :
    Registered gd32f303 ∧ (stm32f1FlashWrite 1 idle gd32f303.partId 0x8080000 (List.replicate 1024 0)).1 = some true ∧
      ¬ ∀ i value, (List.replicate 1024 (0 : Byte))[i]? = some value →
        Programmed gd32f303 (events 1 gd32f303.partId [⟨.erase 0x8000000 0x400, idle⟩])
          (stm32f1FlashWrite 1 idle gd32f303.partId 0x8080000 (List.replicate 1024 0)).2 (0x8080000 + i) value := by
  have nothing : stm32f1FlashWrite 1 idle gd32f303.partId 0x8080000 (List.replicate 1024 0) = (some true, []) := by
    simp only [stm32f1FlashWrite, stm32f1Bank1Length, flashBankSplit, gd32f303, Nat.reduceLeDiff, if_true, if_false,
      Nat.reduceEqDiff, false_and, ne_eq, not_true_eq_false]
  refine ⟨gd32f303_registered, by rw [nothing], fun complete => ?_⟩
  obtain ⟨earlier, later, dest, data, split, _⟩ := complete 0 0 (by rw [List.getElem?_replicate, if_pos (by decide)])
  rw [nothing] at split
  cases earlier <;> cases split

end Completeness

end BlackMagic.Proofs.Stm32f1Banks
