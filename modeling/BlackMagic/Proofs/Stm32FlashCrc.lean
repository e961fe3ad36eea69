import BlackMagic.Lib.Words
import BlackMagic.Proofs.Stm32FlashInit

/-! The checksum of a range of the memory: computed by the boot loader or, where it has no such command, by the client from what
it reads. -/

namespace BlackMagic.Proofs.Stm32FlashCrc
open Lib Lib.Program Stm32Flash Stm32FlashExchanges Stm32FlashFrames Stm32FlashSessions Stm32FlashInit

section Words

theorem crcBitOf_eq : crcBitOf = Crc.crcBit crcPoly := by
  funext crc
  have top : (crc &&& 0x80000000 ≠ 0) ↔ crc.msb = true := by
    rw [BitVec.msb_eq_getLsbD_last]
    exact Lib.Words.masked_bit crc (by decide) (by decide)
  rw [crcBitOf, Crc.crcBit]
  by_cases set : crc.msb = true
  · rw [if_pos (top.mpr set), if_pos set]
  · rw [if_neg (fun masked => set (top.mp masked)), if_neg set]

/-- The client takes in a word as the unit does. -/
theorem crcWordOf_eq (crc : BitVec 32) (a b c d : Byte) : crcWordOf crc a b c d = Crc.crcBytes crcPoly crc [d, c, b, a] := by
  have shape (p q r s : BitVec 32) : p ||| q ||| r ||| s = s ||| r ||| q ||| p := by ac_rfl
  rw [crcWordOf, shape, crcBitOf_eq, Crc.crcBits_word]

theorem swCrcWords_eq : ∀ (crc : BitVec 32) (bytes : List Byte), swCrcWords crc bytes = crcOfWords crc bytes
  | crc, a :: b :: c :: d :: rest => by
    rw [swCrcWords, crcOfWords, crcWordOf_eq]
    exact swCrcWords_eq _ rest
  | _, [] | _, [_] | _, [_, _] | _, [_, _, _] => rfl

/-- Whole words first. -/
theorem crcOfWords_append : ∀ (crc : BitVec 32) (bytes more : List Byte), bytes.length % 4 = 0 →
    crcOfWords crc (bytes ++ more) = crcOfWords (crcOfWords crc bytes) more
  | crc, a :: b :: c :: d :: rest, more, whole => by
    have shorter : rest.length % 4 = 0 := by
      simp only [List.length_cons] at whole
      omega
    exact crcOfWords_append _ rest more shorter
  | _, [], _, _ => rfl
  | _, [_], _, whole | _, [_, _], _, whole | _, [_, _, _], _, whole => absurd whole (by simp)

theorem recalled_add (memory : Memory) (address : BitVec 32) (count more : Nat) :
    recalled memory address (count + more) =
      recalled memory address count ++ recalled memory (address + BitVec.ofNat 32 count) more := by
  have shift (i : Nat) : address + BitVec.ofNat 32 (count + i) = address + BitVec.ofNat 32 count + BitVec.ofNat 32 i := by
    rw [BitVec.ofNat_add, BitVec.add_assoc]
  simp only [recalled, List.range_add, List.map_append, List.map_map]
  exact congrArg _ (List.map_congr_left fun i _ => congrArg memory (shift i))

end Words

section Paths
variable {part : Part} {time : Nat → Nat} {rounds : Nat} {stm : Stm32} {memory : Memory} {address length : BitVec 32}

/-- The checksum of a range of the memory. -/
def summed (memory : Memory) (address length : BitVec 32) : BitVec 32 :=
  crcOfWords 0xffffffff (recalled memory address length.toNat)

theorem conclude_length (served : Nat) : part.conclude (.length address) (addressFrame length) ⟨memory, served⟩ =
    ((.command, ⟨memory, served⟩), acked ++ (part.summing ++ (acked ++
      spelled (bytesOf (summed memory address length) ++ [checksum (bytesOf (summed memory address length))])))) := by
  have closed : checksum (addressFrame length) = 0 := checksum_closed (bytesOf length)
  rw [Part.conclude, if_pos closed, addressOf_frame, summed]
  simp only [List.append_assoc]

/-- The boot loader computes the checksum. -/
theorem crcMemory_meets (prompt : Prompt part time rounds) (code : stm.cmd.crc = stm32CmdCrc)
    (taken : part.takes stm32CmdCrc = true) (valid : part.valid address = true) (aligned : address &&& 3 = 0 ∧ length &&& 3 = 0) :
    Meets (fun line => InStep line memory) (stm32CrcMemory part time rounds stm address length)
      (fun crc line => crc = summed memory address length ∧ InStep line memory) never := by
  have had : ¬ stm.cmd.crc = stm32CmdErr := by
    rw [code]
    decide
  have fits : ¬ (address &&& 3 ≠ 0 ∨ length &&& 3 ≠ 0) := fun odd => odd.elim (· aligned.1) (· aligned.2)
  rw [stm32CrcMemory, if_neg fits, if_neg had, code]
  refine sendCommand_meets prompt.positive taken ((obey_address (by decide) taken).trans
    (congrArg _ (List.append_nil acked).symm)) fun _ => ?_
  refine exchange_meets prompt.positive (address_frame stm32CmdCrc address)
    (fun served => by rw [conclude_address, if_pos valid, List.append_nil]) fun _ => ?_
  refine exchange_meets prompt.positive (length_frame address length) (fun served => conclude_length served) fun _ => ?_
  refine Meets.bind (getAckTimeout_meets prompt.summing) fun _ => ?_
  rw [← List.append_nil (spelled _)]
  refine Meets.bind (readAll_meets rfl) fun bytes => meets_given fun same => ?_
  subst same
  refine meets_ite (fun differ => absurd rfl differ) fun _ => meets_pure fun line ready => ⟨?_, ready⟩
  exact bytesOf_value _

/-- The blocks of the range are there to be read. -/
structure Readable (part : Part) (stm : Stm32) (address : BitVec 32) (length : Nat) : Prop where
  code : stm.cmd.rm = stm32CmdRm
  taken : part.takes stm32CmdRm = true
  valid : ∀ offset < length, part.valid (address + BitVec.ofNat 32 offset) = true

theorem Readable.plainly {len : Nat} (readable : Readable part stm address len) (some_ : len ≠ 0) (few : len ≤ 256) :
    readPlainly part stm address len memory = (.ok (recalled memory address len), memory) := by
  have had : ¬ stm.cmd.rm = stm32CmdErr := by
    rw [readable.code]
    decide
  have valid : part.valid (address + 0#32) = true := readable.valid 0 (Nat.pos_of_ne_zero some_)
  rw [BitVec.add_zero] at valid
  rw [readPlainly, if_neg some_, if_neg (Nat.not_lt.mpr few), if_neg had, readable.code, require, if_pos readable.taken,
    require, if_pos valid]
  rfl

theorem readMemory_meets (prompt : Prompt part time rounds) (known : Known stm.cmd) {len : Nat}
    (readable : Readable part stm address len) (some_ : len ≠ 0) (few : len ≤ 256) :
    Meets (fun line => InStep line memory) (anyError (stm32ReadMemory part time rounds stm address len))
      (fun bytes line => bytes = recalled memory address len ∧ InStep line memory) never :=
  Meets.rescue ((readMemory_follows prompt known address len).meets (readable.plainly some_ few))
    fun _ _ impossible => impossible.elim

theorem Readable.later {count len : Nat} (readable : Readable part stm address count) (within : len ≤ count) :
    Readable part stm address len ∧ Readable part stm (address + BitVec.ofNat 32 len) (count - len) := by
  refine ⟨⟨readable.code, readable.taken, fun offset inside => readable.valid offset (by omega)⟩,
    ⟨readable.code, readable.taken, fun offset inside => ?_⟩⟩
  have place := readable.valid (len + offset) (by omega)
  rwa [BitVec.ofNat_add, ← BitVec.add_assoc] at place

/-- The client computes the checksum from the blocks that it reads. -/
theorem crcPasses_meets (prompt : Prompt part time rounds) (known : Known stm.cmd) {passes count : Nat}
    (enough : count ≤ passes) (whole : count % 4 = 0) (readable : Readable part stm address count) (crc : BitVec 32) :
    Meets (fun line => InStep line memory) (crcPasses part time rounds stm passes address count crc)
      (fun sum line => sum = crcOfWords crc (recalled memory address count) ∧ InStep line memory) never := by
  induction passes generalizing address count crc with
  | zero =>
    obtain rfl : count = 0 := Nat.le_zero.mp enough
    exact meets_pure fun line ready => ⟨rfl, ready⟩
  | succ passes ih =>
    by_cases none : count = 0
    · subst none
      exact meets_pure fun line ready => ⟨rfl, ready⟩
    · let len := if 256 < count then 256 else count
      have bounds : len ≠ 0 ∧ len ≤ 256 ∧ len ≤ count ∧ len % 4 = 0 := by
        simp only [len]
        split <;> omega
      obtain ⟨first, rest⟩ := readable.later bounds.2.2.1
      rw [crcPasses, if_neg none]
      refine Meets.bind (readMemory_meets prompt known first bounds.1 bounds.2.1) fun buf => meets_given fun same => ?_
      subst same
      have aligned : (recalled memory address len).length % 4 = 0 := by rw [length_recalled, bounds.2.2.2]
      have taken : stm32SwCrc crc (recalled memory address len) = crcOfWords crc (recalled memory address len) := by
        rw [stm32SwCrc, if_neg (not_not_intro aligned), swCrcWords_eq]
      have split : recalled memory address count =
          recalled memory address len ++ recalled memory (address + BitVec.ofNat 32 len) (count - len) := by
        rw [← recalled_add, Nat.add_sub_cancel' bounds.2.2.1]
      rw [taken, split, crcOfWords_append _ _ _ aligned]
      exact ih (by omega) (by omega) rest _

/-- The part has the command for the range, or the client can read it. -/
def Summable (part : Part) (stm : Stm32) (address length : BitVec 32) : Prop :=
  stm.cmd.crc = stm32CmdCrc ∧ part.takes stm32CmdCrc = true ∧ part.valid address = true ∨
    stm.cmd.crc = stm32CmdErr ∧ Readable part stm address length.toNat

/-- On either way the checksum is that of the range, of any length. -/
theorem crcWrapper_sums (prompt : Prompt part time rounds) (known : Known stm.cmd)
    (aligned : address &&& 3 = 0 ∧ length &&& 3 = 0) (summable : Summable part stm address length) {line : Line}
    (ready : InStep line memory) :
    ∃ final, stm32CrcWrapper part time rounds stm address length line = (.ok (summed memory address length), final) ∧
      InStep final memory := by
  have fits : ¬ (address &&& 3 ≠ 0 ∨ length &&& 3 ≠ 0) := fun odd => odd.elim (· aligned.1) (· aligned.2)
  have met : Meets (fun line => InStep line memory) (stm32CrcWrapper part time rounds stm address length)
      (fun crc line => crc = summed memory address length ∧ InStep line memory) never := by
    rw [stm32CrcWrapper, if_neg fits]
    rcases summable with ⟨code, taken, valid⟩ | ⟨none, readable⟩
    · have had : stm.cmd.crc ≠ stm32CmdErr := by
        rw [code]
        decide
      rw [if_pos had]
      exact crcMemory_meets prompt code taken valid aligned
    · rw [if_neg (not_not_intro none)]
      refine crcPasses_meets prompt known (Nat.le_refl _) ?_ readable _
      have low : length.toNat &&& 3 = 0 := congrArg BitVec.toNat aligned.2
      rwa [Nat.and_two_pow_sub_one_eq_mod length.toNat 2] at low
  have result := met line ready
  revert result
  cases running : stm32CrcWrapper part time rounds stm address length line with
  | mk ending final =>
    cases ending with
    | error reason => exact fun stopped => stopped.elim
    | ok crc =>
      rintro ⟨rfl, after⟩
      exact ⟨final, rfl, after⟩

/-- A part without the command is read instead. -/
theorem crcWrapper_sums_read :
    ∃ final, stm32CrcWrapper samplePart id 3 { sampleStm with cmd := { sampleStm.cmd with crc := stm32CmdErr } } 0x08000000 0x400
        ⟨⟨.command, [], ⟨fun _ => 0xff, 0⟩⟩, [], 0⟩ = (.ok (summed (fun _ => 0xff) 0x08000000 0x400), final) ∧
      InStep final fun _ => 0xff :=
  crcWrapper_sums sample_prompt ⟨by decide, by decide, by decide, by decide, by decide⟩ (by decide)
    (.inr ⟨rfl, rfl, by decide, by decide +kernel⟩) ⟨rfl, rfl, rfl, rfl⟩

end Paths

end BlackMagic.Proofs.Stm32FlashCrc
