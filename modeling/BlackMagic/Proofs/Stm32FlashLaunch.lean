import BlackMagic.Lib.Stores
import BlackMagic.Proofs.Stm32FlashSessions

/-! The start of code of the client: it is written to the memory behind its vectors, and the boot loader is left for it. -/

namespace BlackMagic.Proofs.Stm32FlashLaunch
open Lib Lib.Program Lib.Stores Stm32Flash Stm32FlashExchanges Stm32FlashFrames Stm32FlashSessions

section Images
variable {part : Part} {address : BitVec 32}

/-- What is written in two pieces. -/
theorem written_append (memory : Memory) (first second : List Byte) (fits : (first ++ second).length ≤ 2 ^ 32) :
    part.written memory address (first ++ second) =
      part.written (part.written memory address first) (address + BitVec.ofNat 32 first.length) second := by
  rw [List.length_append] at fits
  funext place
  by_cases before : (place - address).toNat < first.length
  · have far := distance_before (by omega) before
    have none : second[(place - (address + BitVec.ofNat 32 first.length)).toNat]? = none :=
      List.getElem?_eq_none (by omega)
    rw [Part.written, Part.written, none, Part.written, List.getElem?_append_left before]
  · have beyond : first.length ≤ (place - address).toNat := Nat.le_of_not_lt before
    have none : first[(place - address).toNat]? = none := List.getElem?_eq_none beyond
    rw [Part.written, Part.written, distance_add beyond, Part.written, none, List.getElem?_append_right beyond]

theorem padded_append {first second : List Byte} (whole : first.length % 4 = 0) :
    padded (first ++ second) = first ++ padded second := by
  have same : alignedLen (first ++ second).length - (first ++ second).length = alignedLen second.length - second.length := by
    rw [List.length_append, alignedLen, alignedLen]
    omega
  rw [padded, same, padded, List.append_assoc]

/-- Memory that holds what is written to it, for an image. -/
theorem recalled_written (memory : Memory) {image : List Byte} (fits : (padded image).length ≤ 2 ^ 32)
    (plain : ∀ offset < image.length, ∀ old new, part.cell (address + BitVec.ofNat 32 offset) old new = new) :
    recalled (part.written memory address (padded image)) address image.length = image := by
  refine List.ext_getElem (length_recalled _ _ _) fun i _ inside => ?_
  have short : i < 2 ^ 32 := by
    rw [padded, List.length_append] at fits
    omega
  have offset : (address + BitVec.ofNat 32 i - address).toNat = i := by
    rw [add_sub_cancel_left, BitVec.toNat_ofNat, Nat.mod_eq_of_lt short]
  have there : (padded image)[i]? = some image[i] := by
    rw [padded, List.getElem?_append_left inside, List.getElem?_eq_getElem inside]
  simp only [recalled, List.getElem_map, List.getElem_range, Part.written, offset, there]
  exact plain i inside _ _

theorem written_elsewhere (memory : Memory) {bytes : List Byte} {place : BitVec 32}
    (outside : bytes.length ≤ (place - address).toNat) : part.written memory address bytes place = memory place := by
  rw [Part.written, List.getElem?_eq_none outside]

end Images

theorem aligned_iff (address : BitVec 32) : address &&& 3 = 0 ↔ address.toNat % 4 = 0 := by
  rw [← BitVec.toNat_inj, ← Nat.and_two_pow_sub_one_eq_mod address.toNat 2]
  exact Iff.rfl

section Launches
variable {part : Part} {time : Nat → Nat} {rounds : Nat} {stm : Stm32} {memory : Memory} {address : BitVec 32}

/-- The blocks of the range are there to be written. -/
structure Writable (part : Part) (stm : Stm32) (address : BitVec 32) (length : Nat) : Prop where
  had : stm.cmd.wm ≠ stm32CmdErr
  taken : part.takes stm.cmd.wm = true
  aligned : address &&& 3 = 0
  valid : ∀ offset < length, part.valid (address + BitVec.ofNat 32 offset) = true

theorem Writable.first {count len : Nat} (writable : Writable part stm address count) (within : len ≤ count) :
    Writable part stm address len :=
  ⟨writable.had, writable.taken, writable.aligned,
    fun offset inside => writable.valid offset (Nat.lt_of_lt_of_le inside within)⟩

theorem Writable.later {count len : Nat} (writable : Writable part stm address count) (within : len ≤ count)
    (whole : len % 4 = 0) : Writable part stm (address + BitVec.ofNat 32 len) (count - len) := by
  refine ⟨writable.had, writable.taken, ?_, fun offset inside => ?_⟩
  · rw [aligned_iff, BitVec.toNat_add, BitVec.toNat_ofNat]
    have aligned := (aligned_iff _).mp writable.aligned
    omega
  · have place := writable.valid (len + offset) (by omega)
    rwa [BitVec.ofNat_add, ← BitVec.add_assoc] at place

theorem Writable.start {count : Nat} (writable : Writable part stm address count) (some_ : 0 < count) :
    part.valid address = true := by
  have valid : part.valid (address + 0#32) = true := writable.valid 0 some_
  rwa [BitVec.add_zero] at valid

theorem meets_require {condition : Prop} [Decidable condition] {before : Memory → Prop} {stopped : Stm32Err → Memory → Prop}
    (refused : ¬ condition → ∀ memory, before memory → stopped .unknown memory) :
    Meets before (require condition) (fun _ => before) stopped :=
  meets_ite (fun _ => meets_pure fun _ holds => holds) fun no => meets_stop (refused no)

/-- A block is written, or it is refused for a reason and nothing is. -/
theorem writePlainly_meets {data : List Byte} (few : data.length ≤ 256) :
    Meets (fun last => last = memory) (writePlainly part stm address data)
      (fun _ last => last = part.written memory address (padded data))
      (fun _ last => last = memory ∧ ¬ Writable part stm address data.length) := by
  refine meets_ite (fun none => meets_pure fun last same => ?_) fun some_ => ?_
  · obtain rfl : data = [] := List.eq_nil_of_length_eq_zero none
    exact same
  refine meets_ite (fun many => absurd few (Nat.not_le_of_lt many)) fun _ => ?_
  refine meets_ite (fun odd => meets_stop fun _ same => ⟨same, fun writable => odd writable.aligned⟩) fun _ => ?_
  refine meets_ite (fun none => meets_stop fun _ same => ⟨same, fun writable => writable.had none⟩) fun _ => ?_
  refine Meets.bind (meets_require fun refused _ same => ⟨same, fun writable => refused writable.taken⟩) fun _ => ?_
  refine Meets.bind (meets_require fun refused _ same => ⟨same, fun writable => ?_⟩) fun _ => ?_
  · exact refused (writable.start (Nat.pos_of_ne_zero some_))
  · exact meets_change fun _ same => congrArg (part.written · address (padded data)) same

/-- Where the model is done or refuses, so does the program. -/
theorem follows_ends {program : Action Unit} {model : Program Memory Stm32Err Unit} {after : Unit → Line → Memory → Prop}
    {done : Memory} {refused : Prop} (follows : Follows InStep program model after InStep)
    (met : Meets (fun last => last = memory) model (fun _ last => last = done) (fun _ last => last = memory ∧ refused)) :
    Meets (fun line => InStep line memory) program (fun value line => after value line done)
      (fun _ line => InStep line memory ∧ refused) := by
  refine (follows.carries met).weaken (fun _ ready => ready) ?_ ?_
  · rintro _ line ⟨last, rfl, ended⟩
    exact ended
  · rintro _ line ⟨last, ⟨rfl, refused⟩, ended⟩
    exact ⟨ended, refused⟩

theorem writeMemory_meets (prompt : Prompt part time rounds) (known : Known stm.cmd) {data : List Byte}
    (few : data.length ≤ 256) :
    Meets (fun line => InStep line memory) (anyError (stm32WriteMemory part time rounds stm address data))
      (fun _ line => InStep line (part.written memory address (padded data)))
      (fun _ line => InStep line memory ∧ ¬ Writable part stm address data.length) := by
  have written : Meets (fun line => InStep line memory) (stm32WriteMemory part time rounds stm address data)
      (fun _ line => InStep line (part.written memory address (padded data)))
      (fun _ line => InStep line memory ∧ ¬ Writable part stm address data.length) :=
    follows_ends (writeMemory_follows prompt known address data) (writePlainly_meets few)
  exact Meets.rescue written fun _ => meets_ite (fun _ => meets_stop fun _ stopped => stopped)
    fun _ => meets_stop fun _ stopped => stopped

/-- The same memory but for a range. -/
def Beyond (address : BitVec 32) (length : Nat) (memory changed : Memory) : Prop :=
  ∀ place, length ≤ (place - address).toNat → changed place = memory place

/-- The image is written block by block, as far as the blocks are taken. -/
theorem rawPasses_meets (prompt : Prompt part time rounds) (known : Known stm.cmd) {passes : Nat} {mem : List Byte}
    (enough : mem.length ≤ passes) (fits : (padded mem).length ≤ 2 ^ 32) :
    Meets (fun line => InStep line memory) (rawPasses part time rounds stm passes address mem)
      (fun _ line => InStep line (part.written memory address (padded mem)))
      (fun _ line => ∃ changed, Beyond address (padded mem).length memory changed ∧ InStep line changed ∧
        ¬ Writable part stm address mem.length) := by
  induction passes generalizing address mem memory with
  | zero =>
    obtain rfl : mem = [] := List.eq_nil_of_length_eq_zero (Nat.le_zero.mp enough)
    exact meets_pure fun line ready => ready
  | succ passes ih =>
    by_cases none : mem.length = 0
    · obtain rfl : mem = [] := List.eq_nil_of_length_eq_zero none
      exact meets_pure fun line ready => ready
    · have taken : (mem.take 256).length = min 256 mem.length := List.length_take
      have left : (mem.drop 256).length = mem.length - 256 := List.length_drop
      rw [rawPasses, if_neg none]
      refine Meets.bind ((writeMemory_meets prompt known (by omega)).halting fun _ line ⟨ready, refused⟩ => ?_) fun _ => ?_
      · exact ⟨memory, fun _ _ => rfl, ready, fun writable => refused (writable.first (by omega))⟩
      by_cases last : mem.length ≤ 256
      · have nothing : mem.drop 256 = [] := List.drop_eq_nil_of_le last
        rw [nothing, List.take_of_length_le last]
        cases passes <;> exact meets_pure fun line ready => ready
      · have full : (mem.take 256).length = 256 := by omega
        have split : padded mem = mem.take 256 ++ padded (mem.drop 256) := by
          rw [← padded_append (by rw [full]), List.take_append_drop]
        have alone : padded (mem.take 256) = mem.take 256 := by
          rw [← List.append_nil (mem.take 256), padded_append (by rw [full])]
          rfl
        have bound : min 256 mem.length = 256 := by omega
        have whole : (padded mem).length = 256 + (padded (mem.drop 256)).length := by rw [split, List.length_append, full]
        rw [split] at fits
        rw [whole, split, written_append _ _ _ fits, alone, full, bound]
        rw [← split, whole] at fits
        refine (ih (by omega) (by omega)).halting fun _ line ⟨changed, beyond, ready, refused⟩ => ?_
        refine ⟨changed, fun place outside => ?_, ready, fun writable => refused ?_⟩
        · have far : 256 ≤ (place - address).toNat := by omega
          rw [beyond place (by rw [distance_add far]; omega), written_elsewhere memory (by rw [full]; exact far)]
        · rw [left]
          exact writable.later (by omega) (by decide)

/-- The boot loader can be told to leave for an address. -/
structure Leavable (part : Part) (stm : Stm32) (address : BitVec 32) : Prop where
  had : stm.cmd.go ≠ stm32CmdErr
  taken : part.takes stm.cmd.go = true
  valid : part.valid address = true

theorem go_follows (prompt : Prompt part time rounds) (known : Known stm.cmd) :
    Follows InStep (stm32Go part time rounds stm address)
      (if stm.cmd.go = stm32CmdErr then stop .noCmd
        else require (part.takes stm.cmd.go = true) >>= fun _ => require (part.valid address = true))
      (fun _ => At (.left address) []) InStep := by
  refine follows_ite (fun _ => follows_stop fun _ _ related => related) fun had => ?_
  have code : stm.cmd.go = stm32CmdGo := by
    have listed := known.go
    simpa only [List.mem_cons, List.not_mem_nil, or_false, had, false_or] using listed
  rw [code]
  exact (command_follows prompt.positive (obey_address (by decide))).bind fun _ =>
    address_follows prompt.positive stm32CmdGo address

/-- The boot loader is left, or goes on. -/
theorem go_meets (prompt : Prompt part time rounds) (known : Known stm.cmd) :
    Meets (fun line => InStep line memory) (stm32Go part time rounds stm address)
      (fun _ line => At (.left address) [] line memory)
      (fun _ line => InStep line memory ∧ ¬ Leavable part stm address) := by
  have model : Meets (fun last => last = memory)
      (if stm.cmd.go = stm32CmdErr then stop .noCmd
        else require (part.takes stm.cmd.go = true) >>= fun _ => require (part.valid address = true))
      (fun _ last => last = memory) (fun _ last => last = memory ∧ ¬ Leavable part stm address) := by
    refine meets_ite (fun none => meets_stop fun _ same => ⟨same, fun leavable => leavable.had none⟩) fun _ => ?_
    refine Meets.bind (meets_require fun refused _ same => ⟨same, fun leavable => refused leavable.taken⟩) fun _ => ?_
    exact meets_require fun refused _ same => ⟨same, fun leavable => refused leavable.valid⟩
  exact follows_ends (go_follows prompt known) model

/-- Code of any length gets to its place, with its vectors before it, and the boot loader is left for it. Otherwise the boot
loader has refused something and goes on. Beyond the image nothing changes. -/
theorem runRawCode_ends (prompt : Prompt part time rounds) (known : Known stm.cmd) {code : List Byte}
    (fits : (padded (rawImage address code)).length ≤ 2 ^ 32)
    (plain : ∀ offset < (rawImage address code).length, ∀ old new,
      part.cell (address + BitVec.ofNat 32 offset) old new = new)
    {line : Line} (ready : InStep line memory) :
    ∃ changed, Beyond address (padded (rawImage address code)).length memory changed ∧
      match stm32RunRawCode part time rounds stm address code line with
      | (.ok _, final) => At (.left address) [] final changed ∧
        recalled changed address (rawImage address code).length = rawImage address code
      | (.error _, final) => InStep final changed ∧
        ¬ (Writable part stm address (rawImage address code).length ∧ Leavable part stm address) := by
  let image := rawImage address code
  let launched := part.written memory address (padded image)
  have outside : Beyond address (padded image).length memory launched := fun place far => written_elsewhere memory far
  have met : Meets (fun line => InStep line memory) (stm32RunRawCode part time rounds stm address code)
      (fun _ line => At (.left address) [] line launched)
      (fun _ line => ∃ changed, Beyond address (padded image).length memory changed ∧ InStep line changed ∧
        ¬ (Writable part stm address image.length ∧ Leavable part stm address)) := by
    refine meets_ite (fun odd => meets_stop fun _ ready => ?_) fun _ => ?_
    · exact ⟨memory, fun _ _ => rfl, ready, fun both => odd both.1.aligned⟩
    refine Meets.bind ((rawPasses_meets prompt known (Nat.le_refl _) fits).halting ?_) fun _ =>
      (go_meets prompt known).halting ?_
    · exact fun _ line ⟨changed, beyond, ready, refused⟩ => ⟨changed, beyond, ready, fun both => refused both.1⟩
    · exact fun _ line ⟨ready, refused⟩ => ⟨launched, outside, ready, fun both => refused both.2⟩
  have result := met line ready
  revert result
  cases stm32RunRawCode part time rounds stm address code line with
  | mk ending final =>
    cases ending with
    | error reason =>
      rintro ⟨changed, beyond, after, refused⟩
      exact ⟨changed, beyond, after, refused⟩
    | ok done => exact fun left => ⟨launched, outside, left, recalled_written memory fits plain⟩

/-- The part of the examples is reset. -/
theorem runRawCode_ends_reset :
    ∃ final changed, stm32ResetDevice samplePart id 3 sampleStm ⟨⟨.command, [], ⟨fun _ => 0, 0⟩⟩, [], 0⟩ = (.ok (), final) ∧
      At (.left 0x20000200) [] final changed ∧ recalled changed 0x20000200 24 = rawImage 0x20000200 stmResetCode := by
  have writable : Writable samplePart sampleStm 0x20000200 24 := ⟨by decide, by decide, by decide, by decide⟩
  have leavable : Leavable samplePart sampleStm 0x20000200 := ⟨by decide, by decide, by decide⟩
  obtain ⟨changed, _, ended⟩ := @runRawCode_ends samplePart id 3 sampleStm (fun _ => 0) 0x20000200 sample_prompt sample_known
    stmResetCode (by decide) (fun _ _ _ _ => rfl) ⟨⟨.command, [], ⟨fun _ => 0, 0⟩⟩, [], 0⟩ ⟨rfl, rfl, rfl, rfl⟩
  have same : stm32ResetDevice samplePart id 3 sampleStm =
      stm32RunRawCode samplePart id 3 sampleStm 0x20000200 stmResetCode := rfl
  rw [same]
  revert ended
  cases stm32RunRawCode samplePart id 3 sampleStm 0x20000200 stmResetCode ⟨⟨.command, [], ⟨fun _ => 0, 0⟩⟩, [], 0⟩ with
  | mk ending final =>
    cases ending with
    | error reason => exact fun ended => absurd ⟨writable, leavable⟩ ended.2
    | ok done => exact fun ended => ⟨final, changed, rfl, ended⟩

end Launches

end BlackMagic.Proofs.Stm32FlashLaunch
