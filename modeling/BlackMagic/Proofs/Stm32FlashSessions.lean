import BlackMagic.Proofs.Stm32FlashFrames

/-! Whatever is asked of the boot loader, its memory is read, written and erased as the client means it, and both ends stay in
step, also where it refuses. -/

namespace BlackMagic.Proofs.Stm32FlashSessions
open Lib Lib.Program Stm32Flash Stm32FlashExchanges Stm32FlashFrames

/-- The boot loader ends its work while it is waited for. -/
structure Prompt (part : Part) (time : Nat → Nat) (rounds : Nat) : Prop where
  positive : 0 < rounds
  writing : ∀ served, Bearable time rounds stm32BlkwriteTimeout (part.writing served)
  erasing : ∀ served pages, Bearable time rounds (pages * stm32PageeraseTimeout) (part.erasing served pages)
  clearing : ∀ served, Bearable time rounds stm32MasseraseTimeout (part.clearing served)
  summing : Bearable time rounds 0 part.summing

/-- The codes are those that a boot loader can have listed. -/
structure Known (cmd : Cmd) : Prop where
  rm : cmd.rm ∈ [stm32CmdErr, stm32CmdRm]
  go : cmd.go ∈ [stm32CmdErr, stm32CmdGo]
  wm : cmd.wm ∈ [stm32CmdErr, stm32CmdWm, stm32CmdWmNs]
  er : cmd.er ∈ [stm32CmdErr, stm32CmdEr, stm32CmdEe, stm32CmdEeNs]
  crc : cmd.crc ∈ [stm32CmdErr, stm32CmdCrc]

variable {part : Part} {time : Nat → Nat} {rounds : Nat} {stm : Stm32} {flashAddrToPageCeil : BitVec 32 → Nat}

section Steps

theorem exchange_then {α : Type} {timeout : Nat} {frame : List Byte} {next : Unit → Action α}
    {model : Program Memory Stm32Err Unit} {rest : Unit → Program Memory Stm32Err α} {before stopped : Line → Memory → Prop}
    {middle : Unit → Line → Memory → Prop} {last : α → Line → Memory → Prop}
    (first : Follows before (exchange part time rounds timeout frame) model middle stopped)
    (follows : ∀ done, Follows (middle done) (next done) (rest done) last stopped) :
    Follows before (espWrite part frame >>= fun _ => anyError (stm32GetAckTimeout time rounds timeout) >>= next)
      (model >>= rest) last stopped := by
  have together := first.bind follows
  rwa [exchange, bind_bind] at together

/-- A command that leads to a task. -/
theorem command_follows (positive : 0 < rounds) {command : Byte} {task : Task}
    (obeyed : part.takes command = true → part.obey command = (task, acked)) :
    Follows InStep (stm32SendCommand part time rounds command) (require (part.takes command = true))
      (fun _ => At task []) InStep :=
  exchange_follows positive (command_frame command)
    fun _ => conclude_command fun taken => (obeyed taken).trans (congrArg _ (List.append_nil acked).symm)

theorem address_follows (positive : 0 < rounds) (command : Byte) (address : BitVec 32) :
    Follows (At (.address command) []) (exchange part time rounds 0 (addressFrame address))
      (require (part.valid address = true)) (fun _ => At (afterAddress command address) []) InStep :=
  exchange_follows positive (address_frame command address) fun _ => by rw [conclude_address, List.append_nil]

/-- What is there is read. -/
theorem readAll_follows {bytes : Memory → List Byte} {count : Nat} (counted : ∀ memory, (bytes memory).length = count) :
    Follows (fun line memory => At .command (spelled (bytes memory)) line memory) (espReadAll count)
      (Program.read >>= fun memory => pure (bytes memory)) (fun _ => InStep) InStep := by
  intro line memory there
  have arrives := arrive_spelled (bytes memory) []
  rw [List.append_nil, counted] at arrives
  rw [espReadAll, bind_returned (espRead_runs there.pending arrives)]
  exact ⟨rfl, there.task, there.got, there.memory, rfl⟩

end Steps

section Reads

theorem length_recalled (memory : Memory) (address : BitVec 32) (count : Nat) : (recalled memory address count).length = count := by
  rw [recalled, List.length_map, List.length_range]

theorem readMemory_follows (prompt : Prompt part time rounds) (known : Known stm.cmd) (address : BitVec 32) (len : Nat) :
    Follows InStep (stm32ReadMemory part time rounds stm address len) (readPlainly part stm address len) (fun _ => InStep)
      InStep := by
  refine follows_ite (fun _ => follows_pure fun _ _ related => related) fun some_ => ?_
  refine follows_ite (fun _ => follows_stop fun _ _ related => related) fun few => ?_
  refine follows_ite (fun _ => follows_stop fun _ _ related => related) fun had => ?_
  have code : stm.cmd.rm = stm32CmdRm := by
    have listed := known.rm
    simpa only [List.mem_cons, List.not_mem_nil, or_false, had, false_or] using listed
  rw [code]
  refine (command_follows prompt.positive (obey_address (by decide))).bind fun _ => ?_
  refine exchange_then (address_follows prompt.positive _ address) fun _ => ?_
  have amount : Follows (At (.amount address) []) (stm32SendCommand part time rounds (BitVec.ofNat 8 (len - 1)))
      (require True) (fun _ line memory => At .command (spelled (recalled memory address len)) line memory) InStep :=
    exchange_follows prompt.positive (amount_frame address _)
      fun _ => by rw [conclude_amount address (Nat.pos_of_ne_zero some_) (Nat.le_of_not_lt few), if_pos trivial]
  exact Follows.bind amount fun _ => readAll_follows fun memory => length_recalled memory address len

end Reads

section Writes

theorem writeMemory_follows (prompt : Prompt part time rounds) (known : Known stm.cmd) (address : BitVec 32)
    (data : List Byte) :
    Follows InStep (stm32WriteMemory part time rounds stm address data) (writePlainly part stm address data) (fun _ => InStep)
      InStep := by
  refine follows_ite (fun _ => follows_pure fun _ _ related => related) fun present => ?_
  refine follows_ite (fun _ => follows_stop fun _ _ related => related) fun few => ?_
  refine follows_ite (fun _ => follows_stop fun _ _ related => related) fun _ => ?_
  refine follows_ite (fun _ => follows_stop fun _ _ related => related) fun had => ?_
  have codes : stm.cmd.wm = stm32CmdWm ∨ stm.cmd.wm = stm32CmdWmNs := by
    have listed := known.wm
    simpa only [List.mem_cons, List.not_mem_nil, or_false, had, false_or] using listed
  have follows : stm.cmd.wm ∈ [stm32CmdRm, stm32CmdGo, stm32CmdWm, stm32CmdWmNs, stm32CmdCrc] := by
    rcases codes with code | code <;> rw [code] <;> decide
  have task : afterAddress stm.cmd.wm address = .block address := by
    rcases codes with code | code <;> rw [code] <;> rfl
  refine (command_follows prompt.positive (obey_address follows)).bind fun _ => ?_
  refine exchange_then (address_follows prompt.positive _ address) fun _ => ?_
  rw [task]
  exact exchange_changes (block_frame address present (Nat.le_of_not_lt few)) prompt.writing
    fun _ => conclude_block address

end Writes

section Erasures
variable {spage pages : Nat}

/-- The numbers of the pages can be told to the boot loader. -/
def Nameable (cmd : Cmd) (spage pages : Nat) : Prop :=
  if cmd.er = stm32CmdEr then pages ≤ 255 ∧ spage + pages ≤ 256 else spage + pages ≤ 2 ^ 16

instance (cmd : Cmd) (spage pages : Nat) : Decidable (Nameable cmd spage pages) :=
  inferInstanceAs (Decidable (if cmd.er = stm32CmdEr then pages ≤ 255 ∧ spage + pages ≤ 256 else spage + pages ≤ 2 ^ 16))

/-- The command for erasing leads to one of the two lists of pages. -/
theorem erasing_codes (known : Known stm.cmd) (had : stm.cmd.er ≠ stm32CmdErr) :
    stm.cmd.er = stm32CmdEr ∨ stm.cmd.er ≠ stm32CmdEr ∧ stm.cmd.er ∈ [stm32CmdEe, stm32CmdEeNs] := by
  have listed := known.er
  simp only [List.mem_cons, List.not_mem_nil, or_false, had, false_or] at listed
  rcases listed with code | code | code
  · exact .inl code
  · exact .inr (by rw [code]; decide)
  · exact .inr (by rw [code]; decide)

theorem pagesErase_follows (prompt : Prompt part time rounds) (known : Known stm.cmd) (had : stm.cmd.er ≠ stm32CmdErr)
    (some_ : pages ≠ 0) (few : pages ≤ 511) (nameable : Nameable stm.cmd spage pages) :
    Follows InStep (stm32PagesErase part time rounds stm spage pages) (eraseRange part stm spage pages) (fun _ => InStep)
      InStep := by
  rw [eraseRange, if_neg some_]
  rcases erasing_codes known had with code | ⟨other, code⟩
  · rw [Nameable, if_pos code] at nameable
    rw [stm32PagesErase, code]
    refine (command_follows prompt.positive obey_pages).bind fun _ => ?_
    rw [if_pos rfl]
    exact exchange_changes (pages_frame some_ nameable.1 nameable.2) (fun served => prompt.erasing served pages)
      fun _ => conclude_pages some_ nameable.1 nameable.2
  · rw [Nameable, if_neg other] at nameable
    refine (command_follows prompt.positive (obey_manyPages code)).bind fun _ => ?_
    rw [if_neg other]
    exact exchange_changes (manyPages_frame some_ few nameable) (fun served => prompt.erasing served pages)
      fun _ => conclude_manyPages few nameable

theorem massErase_follows (prompt : Prompt part time rounds) (known : Known stm.cmd) (had : stm.cmd.er ≠ stm32CmdErr) :
    Follows InStep (stm32MassErase part time rounds stm)
      (require (part.takes stm.cmd.er = true) >>= fun _ => change fun memory => part.erased memory fun _ => True)
      (fun _ => InStep) InStep := by
  rcases erasing_codes known had with code | ⟨other, code⟩
  · rw [stm32MassErase, code]
    refine (command_follows prompt.positive obey_pages).bind fun _ => ?_
    rw [if_pos rfl]
    exact exchange_changes clear_frame prompt.clearing fun _ => conclude_clear
  · refine (command_follows prompt.positive (obey_manyPages code)).bind fun _ => ?_
    rw [if_neg other]
    exact exchange_changes manyClear_frame prompt.clearing fun _ => conclude_manyClear

theorem erased_twice (memory : Memory) (spage n more : Nat) :
    part.erased (part.erased memory fun page => spage ≤ page ∧ page < spage + n)
        (fun page => spage + n ≤ page ∧ page < spage + n + more) =
      part.erased memory fun page => spage ≤ page ∧ page < spage + (n + more) := by
  funext place
  simp only [Part.erased]
  cases part.page place with
  | none => rfl
  | some page =>
    simp only
    split
    next late => rw [if_pos (by omega)]
    next early =>
      split
      next first => rw [if_pos (by omega)]
      next outside => rw [if_neg (by omega)]

/-- The range is erased piece by piece. -/
theorem eraseRange_split (n more : Nat) (some_ : n ≠ 0) :
    (eraseRange part stm spage n >>= fun _ => eraseRange part stm (spage + n) more) = eraseRange part stm spage (n + more) := by
  have all : n + more ≠ 0 := by omega
  funext memory
  rw [eraseRange, if_neg some_, eraseRange, eraseRange, if_neg all]
  by_cases taken : part.takes stm.cmd.er = true
  · simp only [require, if_pos taken]
    by_cases last : more = 0
    · subst last
      rw [if_pos rfl]
      rfl
    · rw [if_neg last]
      exact congrArg (Prod.mk (Except.ok ())) (erased_twice memory spage n more)
  · simp only [require, if_neg taken]
    rfl

theorem Nameable.split (nameable : Nameable stm.cmd spage pages) {n : Nat} (within : n ≤ pages) :
    Nameable stm.cmd spage n ∧ Nameable stm.cmd (spage + n) (pages - n) ∧ (spage + n) % 2 ^ 32 = spage + n := by
  simp only [Nameable] at nameable ⊢
  split at nameable
  next legacy =>
    rw [if_pos legacy, if_pos legacy]
    omega
  next extended =>
    rw [if_neg extended, if_neg extended]
    omega

theorem erasePasses_follows (prompt : Prompt part time rounds) (known : Known stm.cmd) (had : stm.cmd.er ≠ stm32CmdErr)
    {passes : Nat} (enough : pages ≤ passes) (nameable : Nameable stm.cmd spage pages) :
    Follows InStep (erasePasses part time rounds stm passes spage pages) (eraseRange part stm spage pages) (fun _ => InStep)
      InStep := by
  induction passes generalizing spage pages with
  | zero =>
    obtain rfl : pages = 0 := Nat.le_zero.mp enough
    exact follows_pure fun _ _ related => related
  | succ passes ih =>
    by_cases none : pages = 0
    · subst none
      exact follows_pure fun _ _ related => related
    · let n := if pages ≤ 511 then pages else 511
      have bounds : n ≠ 0 ∧ n ≤ 511 ∧ n ≤ pages := by
        simp only [n]
        split <;> omega
      obtain ⟨first, rest, straight⟩ := nameable.split bounds.2.2
      have erased := (pagesErase_follows prompt known had bounds.1 bounds.2.1 first).bind fun _ =>
        ih (by omega : pages - n ≤ passes) rest
      rw [eraseRange_split n _ bounds.1, Nat.add_sub_cancel' bounds.2.2, ← straight] at erased
      rw [erasePasses, if_neg none]
      exact erased

/-- What erasing is asked of the boot loader page by page can be told to it. -/
def Erasable (stm : Stm32) (flashAddrToPageCeil : BitVec 32 → Nat) (spage pages : Nat) : Prop :=
  if pages = stm32MassErasePages then stm.dev.flags &&& fNoMe = 0 ∨ Nameable stm.cmd spage (flashAddrToPageCeil stm.dev.flEnd)
  else Nameable stm.cmd spage pages

theorem eraseMemory_follows (prompt : Prompt part time rounds) (known : Known stm.cmd)
    (erasable : Erasable stm flashAddrToPageCeil spage pages) :
    Follows InStep (stm32EraseMemory part time rounds stm flashAddrToPageCeil spage pages)
      (erasePlainly part stm flashAddrToPageCeil spage pages) (fun _ => InStep) InStep := by
  rw [Erasable] at erasable
  refine follows_ite (fun _ => follows_pure fun _ _ related => related) fun _ => ?_
  refine follows_ite (fun _ => follows_stop fun _ _ related => related) fun had => ?_
  refine follows_ite (fun all => ?_) fun counted => ?_
  · rw [if_pos all] at erasable
    refine follows_ite (fun _ => massErase_follows prompt known had) fun paged => ?_
    exact erasePasses_follows prompt known had (Nat.le_refl _) (erasable.resolve_left paged)
  · rw [if_neg counted] at erasable
    exact erasePasses_follows prompt known had (Nat.le_refl _) erasable

end Erasures

section Sessions

/-- A deed whose pages can be told to the boot loader. -/
def Deed.Tellable (stm : Stm32) (flashAddrToPageCeil : BitVec 32 → Nat) : Deed → Prop
  | .erase spage pages => Erasable stm flashAddrToPageCeil spage pages
  | _ => True

theorem perform_follows (prompt : Prompt part time rounds) (known : Known stm.cmd) {deed : Deed}
    (tellable : Deed.Tellable stm flashAddrToPageCeil deed) :
    Follows InStep (perform part time rounds stm flashAddrToPageCeil deed) (plainly part stm flashAddrToPageCeil deed)
      (fun _ => InStep) InStep := by
  cases deed with
  | read address len => exact readMemory_follows prompt known address len
  | write address data =>
    exact (writeMemory_follows prompt known address data).bind fun _ => follows_pure fun _ _ related => related
  | erase spage pages =>
    exact (eraseMemory_follows prompt known tellable).bind fun _ => follows_pure fun _ _ related => related

/-- Whatever is done with the boot loader, taken or refused, does with the memory what it is for. -/
theorem session_means (prompt : Prompt part time rounds) (known : Known stm.cmd) (deeds : List Deed)
    (tellable : ∀ deed ∈ deeds, Deed.Tellable stm flashAddrToPageCeil deed) {line : Line} {memory : Memory}
    (ready : InStep line memory) :
    (attempts (perform part time rounds stm flashAddrToPageCeil) deeds line).1 =
        (attempts (plainly part stm flashAddrToPageCeil) deeds memory).1 ∧
      InStep (attempts (perform part time rounds stm flashAddrToPageCeil) deeds line).2
        (attempts (plainly part stm flashAddrToPageCeil) deeds memory).2 :=
  attempts_follow (fun deed listed => perform_follows prompt known (tellable deed listed)) ready

/-- The part of the examples: it has the commands of its kind, and 128 pages of 1 KiB. -/
def samplePart : Part where
  version := 0x22
  options := (0, 0)
  blVersion := 0x22
  commands := [0x00, 0x01, 0x02, 0x11, 0x21, 0x31, 0x43, 0x44, 0xa1]
  pid := 0x410
  refused _ := false
  valid address := decide (address.toNat / 0x20000 = 0x400 ∨ address.toNat / 0x4000 = 0x8000)
  page address := if address.toNat / 0x20000 = 0x400 then some (address.toNat % 0x20000 / 0x400) else none
  cell _ _ new := new
  writing served := List.replicate (served % 2) (.byte stm32Busy)
  erasing _ _ := List.replicate 2 (.byte stm32Busy)
  clearing _ := [.late]
  summing := []

def sampleDev : Dev := ⟨0x410, 0x20000200, 0x08020000, 0⟩

def sampleStm : Stm32 :=
  ⟨0x22, 0, 0, 0x22, 0x410, ⟨0x00, 0x01, 0x02, 0x11, 0x21, 0x31, 0x44, 0xff, 0xff, 0xff, 0xff, 0xa1⟩, sampleDev⟩

theorem sample_prompt : Prompt samplePart id 3 where
  positive := by decide
  writing served := bearable_busy (Nat.lt_trans (Nat.mod_lt served (by decide)) (by decide))
  erasing _ _ := bearable_busy (by decide)
  clearing _ := bearable_late (fun reads => ⟨by decide, Nat.add_lt_add_left (by decide) reads⟩) (by decide)
  summing := bearable_none (by decide)

theorem sample_known : Known sampleStm.cmd := ⟨by decide, by decide, by decide, by decide, by decide⟩

theorem sample_tellable (spage : Nat) (few : spage < 3) : Erasable sampleStm (fun _ => 0) spage 2 := by
  rw [Erasable, if_neg (by decide), Nameable, if_neg (by decide)]
  omega

theorem sample_clearable (spage : Nat) : Erasable sampleStm (fun _ => 0) spage stm32MassErasePages := by
  rw [Erasable, if_pos rfl]
  exact .inl (by decide)

/-- Two pages are erased and one of them is written, between requests that are refused. -/
def sampleDeeds : List Deed :=
  [.erase 1 2, .write 0x08000401 [1], .write 0x08000400 [1, 2, 3, 4, 5], .read 0x10000000 4, .read 0x080003fe 12, .erase 0 0x100000]

theorem session_means_sample :
    (attempts (perform samplePart id 3 sampleStm fun _ => 0) sampleDeeds ⟨⟨.command, [], ⟨fun _ => 0, 0⟩⟩, [], 0⟩).1 =
        (attempts (plainly samplePart sampleStm fun _ => 0) sampleDeeds fun _ => 0).1 ∧
      InStep (attempts (perform samplePart id 3 sampleStm fun _ => 0) sampleDeeds ⟨⟨.command, [], ⟨fun _ => 0, 0⟩⟩, [], 0⟩).2
        (attempts (plainly samplePart sampleStm fun _ => 0) sampleDeeds fun _ => 0).2 :=
  session_means sample_prompt sample_known sampleDeeds (by
    simp only [sampleDeeds, List.forall_mem_cons]
    exact ⟨sample_tellable 1 (by decide), trivial, trivial, trivial, trivial, sample_clearable 0, fun _ none => absurd none List.not_mem_nil⟩)
    ⟨rfl, rfl, rfl, rfl⟩

end Sessions

end BlackMagic.Proofs.Stm32FlashSessions
