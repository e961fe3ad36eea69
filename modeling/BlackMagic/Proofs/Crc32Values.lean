import BlackMagic.Crc32
import BlackMagic.Lib.Crc
import BlackMagic.Lib.Words

/-! Both variants of the CRC over target memory are the CRC of exactly the bytes that were asked for. -/

namespace BlackMagic.Proofs.Crc32Values
open Lib.ChunkLoop Lib.Crc Lib.Words Crc32

def poly : BitVec 32 := 0x04c11db7#32

/-- The CRC of a text, bit by bit. -/
def crcOf (bytes : List Byte) : BitVec 32 := crcBytes poly 0xffffffff#32 bytes

section Bytes

private theorem table_entry : ∀ index : BitVec 8,
    crc32Table.getD index.toNat 0#32 = (crcBit poly)^[8] (index.setWidth 32 <<< 24) := by
  decide +kernel

theorem crc32Calc_eq (crc : BitVec 32) (data : Byte) : crc32Calc crc data = crcByte poly crc data := by
  have entry := table_entry (((crc >>> 24) ^^^ data.setWidth 32).setWidth 8)
  have low : (((crc >>> 24) ^^^ data.setWidth 32).setWidth 8).setWidth 32
      = ((crc >>> 24) ^^^ data.setWidth 32) &&& 0xff#32 := by
    apply BitVec.eq_of_getLsbD_eq
    intro i inside
    have mask : (0xff#32) = (BitVec.allOnes 8).setWidth 32 := by decide
    rw [BitVec.getLsbD_and, mask, BitVec.getLsbD_setWidth, BitVec.getLsbD_setWidth, BitVec.getLsbD_setWidth,
      BitVec.getLsbD_allOnes]
    simp [inside, Bool.and_comm]
  have index : (((crc >>> 24) ^^^ data.setWidth 32).setWidth 8).toNat
      = (((crc >>> 24) ^^^ data.setWidth 32) &&& 0xff#32).toNat := by
    have small := (((crc >>> 24) ^^^ data.setWidth 32).setWidth 8).isLt
    have widened := BitVec.toNat_setWidth 32 (((crc >>> 24) ^^^ data.setWidth 32).setWidth 8)
    rw [← low, widened, Nat.mod_eq_of_lt (Nat.lt_trans small (by decide))]
  rw [low, index] at entry
  rw [crc32Calc, entry, crcByte_table]

private theorem foldl_calc (crc : BitVec 32) (bytes : List Byte) : bytes.foldl crc32Calc crc = crcBytes poly crc bytes := by
  have same : crc32Calc = crcByte poly := funext fun crc => funext fun data => crc32Calc_eq crc data
  rw [same, crcBytes]

private theorem shiftOut_eq : shiftOut = crcBit poly := by
  funext crc
  have top : (crc &&& 0x80000000#32 ≠ 0#32) ↔ crc.msb = true := by
    rw [BitVec.msb_eq_getLsbD_last]
    exact Lib.Words.masked_bit crc (by decide) (by decide)
  rw [shiftOut, crcBit]
  simp only [top]
  rfl

private theorem tailByte_eq (crc : BitVec 32) (data : Byte) : tailByte crc data = crcByte poly crc data := by
  rw [tailByte, crcByte, shiftOut_eq]
  rfl

private theorem foldl_tail (crc : BitVec 32) (bytes : List Byte) : bytes.foldl tailByte crc = crcBytes poly crc bytes := by
  have same : tailByte = crcByte poly := funext fun crc => funext fun data => tailByte_eq crc data
  rw [same, crcBytes]

end Bytes

/-- The run ends, and with no failed read it succeeds with the CRC of the bytes of the range. -/
def Computes (run : Nat → Option (Bool × Progress)) (memory : TargetMemory) (base len : Nat) : Prop :=
  ∃ passes outcome, run passes = some outcome ∧
    ((∀ read ∈ outcome.2.reads, memory.fails read.1 read.2 = false) →
      outcome.1 = true ∧ outcome.2.crc = crcOf ((List.range len).map fun i => memory.content (base + i)))

/-- A read has failed, or the CRC has been continued over so many bytes from there on. -/
def Continued (memory : TargetMemory) (src count : Nat) (crc : BitVec 32) (outcome : Bool × Progress) : Prop :=
  (outcome.1 = false ∧ ∃ read ∈ outcome.2.reads, memory.fails read.1 read.2 = true) ∨
    (outcome.1 = true ∧ outcome.2.crc = crcBytes poly crc (memory.bytes src count))

section Chunks
variable {memory : TargetMemory} {base len : Nat}

/-- What a pass makes of a chunk at a whole word. -/
def TakesChunk (memory : TargetMemory) (base len : Nat) (body : Nat → Progress → Progress ⊕ Bool × Progress) : Prop :=
  ∀ offset, 4 ∣ offset → ∀ progress, ∃ src count,
    (memory.fails src count = true ∧
      body offset progress = .inr (false, ⟨progress.reads ++ [(src, count)], progress.crc⟩)) ∨
    body offset progress = .inl ⟨progress.reads ++ [(src, count)],
      crcBytes poly progress.crc (memory.bytes (add32 base offset) (min chunkSize (len - offset)))⟩

private theorem crcBytes_append (crc : BitVec 32) (first second : List Byte) :
    crcBytes poly crc (first ++ second) = crcBytes poly (crcBytes poly crc first) second := List.foldl_append

private theorem add32_add (src first second : Nat) : add32 (add32 src first) second = add32 src (first + second) := by
  rw [add32, add32, add32, Nat.mod_add_mod, Nat.add_assoc]

private theorem bytes_chunk (memory : TargetMemory) (base : Nat) {offset : Nat} (more : offset < len) :
    memory.bytes (add32 base offset) (len - offset)
      = memory.bytes (add32 base offset) (min chunkSize (len - offset)) ++
        memory.bytes (add32 base (offset + chunkSize)) (len - (offset + chunkSize)) := by
  by_cases last : len - offset ≤ chunkSize
  · rw [Nat.min_eq_right last, show len - (offset + chunkSize) = 0 by omega]
    exact (List.append_nil _).symm
  · have cut : len - offset = chunkSize + (len - (offset + chunkSize)) := by omega
    rw [Nat.min_eq_left (by omega), ← add32_add, ← TargetMemory.bytes_add, ← cut]

theorem sweep_continued {body : Nat → Progress → Progress ⊕ Bool × Progress} (takes : TakesChunk memory base len body)
    (chunks : Nat) {offset : Nat} (whole : 4 ∣ offset) (counted : count offset len chunkSize = chunks) (progress : Progress) :
    Continued memory (add32 base offset) (len - offset) progress.crc
      (sweep body (fun progress => (true, progress)) (starts offset chunkSize chunks) progress) := by
  induction chunks generalizing offset progress with
  | zero =>
    have done : len ≤ offset := by
      by_contra more
      rw [count_succ (by omega) (by decide)] at counted
      cases counted
    rw [Nat.sub_eq_zero_of_le done]
    exact .inr ⟨rfl, rfl⟩
  | succ chunks ih =>
    have more : offset < len := by
      by_contra done
      rw [count_done (by omega) (by decide)] at counted
      cases counted
    rw [count_succ more (by decide)] at counted
    obtain ⟨src, size, (⟨failed, result⟩ | result)⟩ := takes offset whole progress
    · rw [starts, sweep, result]
      exact .inl ⟨rfl, (src, size), List.mem_append_right _ List.mem_cons_self, failed⟩
    · rw [starts, sweep, result, Continued, bytes_chunk memory base more, crcBytes_append]
      exact ih (Nat.dvd_add whole (by decide)) (Nat.succ.inj counted) _

end Chunks

section Variants
variable {memory : TargetMemory} {base len : Nat}

private theorem rounded_up {count : Nat} (small : count ≤ 128) : count ≤ alignDown (count + 3) 4 := by
  have four : (4 : Nat) = 2 ^ 2 := rfl
  rw [four, alignDown_two_pow (by omega) (by decide)]
  omega

theorem genericChunk_takes : TakesChunk memory base len (genericChunk memory base len) := by
  intro offset _ progress
  refine ⟨add32 base offset, alignDown (min chunkSize (len - offset) + 3) 4, ?_⟩
  rw [genericChunk, targetMemRead]
  cases failed : memory.fails (add32 base offset) (alignDown (min chunkSize (len - offset) + 3) 4) with
  | true => exact .inl ⟨rfl, rfl⟩
  | false =>
    refine .inr ?_
    have taken := memory.bytes_take (add32 base offset) (rounded_up (Nat.min_le_left chunkSize (len - offset)))
    rw [if_neg Bool.false_ne_true, ← taken, ← foldl_calc]

section Unit
variable {unit : CrcUnit} (computes : ∀ crc word, unit crc word = (crcBit poly)^[32] (crc ^^^ word))
include computes

private theorem word_continues (bytes : List Byte) {offset : Nat} (inside : offset + 4 ≤ bytes.length) (crc : BitVec 32) :
    unit crc (readBe4 bytes offset) = crcBytes poly crc ((bytes.drop offset).take 4) := by
  have four : ∃ a b c d rest, bytes.drop offset = a :: b :: c :: d :: rest := by
    have long : 4 ≤ (bytes.drop offset).length := by
      rw [List.length_drop]
      omega
    generalize bytes.drop offset = left at long
    match left, long with
    | a :: b :: c :: d :: rest, _ => exact ⟨a, b, c, d, rest, rfl⟩
  obtain ⟨a, b, c, d, rest, shape⟩ := four
  have at_place : ∀ i, bytes.getD (offset + i) 0#8 = (a :: b :: c :: d :: rest).getD i 0#8 := by
    intro i
    rw [← shape, List.getD_eq_getElem?_getD, List.getD_eq_getElem?_getD, List.getElem?_drop]
  have word : readBe4 bytes offset
      = (a.setWidth 32 <<< 24) ||| (b.setWidth 32 <<< 16) ||| (c.setWidth 32 <<< 8) ||| d.setWidth 32 := by
    have first := at_place 0
    rw [Nat.add_zero] at first
    rw [readBe4, first, at_place 1, at_place 2, at_place 3]
    rfl
  rw [computes, word, crcBits_word, shape]
  rfl

private theorem words_continue (bytes : List Byte) {words : Nat} (inside : 4 * words ≤ bytes.length) (crc : BitVec 32) :
    (List.range words).foldl (fun crc i => unit crc (readBe4 bytes (4 * i))) crc
      = crcBytes poly crc (bytes.take (4 * words)) := by
  induction words with
  | zero => rfl
  | succ words ih =>
    rw [List.range_succ, List.foldl_append, ih (by omega), List.foldl_cons, List.foldl_nil,
      word_continues computes bytes (by omega), ← crcBytes_append, ← List.take_add, Nat.mul_add, Nat.mul_one]

theorem hardwareChunk_takes {adjustedLen : Nat} (words : 4 ∣ adjustedLen) :
    TakesChunk memory base adjustedLen (hardwareChunk unit memory base adjustedLen) := by
  intro offset whole progress
  refine ⟨add32 base offset, min chunkSize (adjustedLen - offset), ?_⟩
  rw [hardwareChunk, targetMemRead]
  cases failed : memory.fails (add32 base offset) (min chunkSize (adjustedLen - offset)) with
  | true => exact .inl ⟨rfl, rfl⟩
  | false =>
    refine .inr ?_
    have sized : 4 * ((min chunkSize (adjustedLen - offset) + 3) / 4) = min chunkSize (adjustedLen - offset) := by
      have chunk : chunkSize = 128 := rfl
      omega
    have fed := words_continue computes (memory.bytes (add32 base offset) (min chunkSize (adjustedLen - offset)))
      (by rw [sized, TargetMemory.bytes_length]) progress.crc
    rw [sized, TargetMemory.bytes_take memory _ (Nat.le_refl _)] at fed
    rw [if_neg Bool.false_ne_true, ← fed]
    rfl

end Unit

theorem hardwareTail_continues {adjustedLen : Nat} (below : adjustedLen ≤ len) {crc : BitVec 32} {progress : Progress}
    (done : progress.crc = crcBytes poly crc (memory.bytes base adjustedLen)) :
    Continued memory base len crc (hardwareTail memory base len adjustedLen progress) := by
  have whole : len = adjustedLen + (len - adjustedLen) := by omega
  rw [hardwareTail]
  by_cases rest : len - adjustedLen ≠ 0
  · rw [if_pos rest, targetMemRead]
    cases failed : memory.fails (add32 base adjustedLen) (len - adjustedLen) with
    | true => exact .inl ⟨rfl, _, List.mem_append_right _ List.mem_cons_self, failed⟩
    | false =>
      refine .inr ⟨rfl, ?_⟩
      have bytes := memory.bytes_add base adjustedLen (len - adjustedLen)
      rw [← whole] at bytes
      rw [bytes, crcBytes_append, ← done, ← foldl_tail]
      rfl
  · rw [if_neg rest]
    have all : len = adjustedLen := by omega
    rw [← all] at done
    exact .inr ⟨rfl, done⟩

private theorem bytes_wrapped : memory.bytes (add32 base 0) len = memory.bytes base len := by
  apply List.map_congr_left
  intro i _
  rw [add32_add, Nat.zero_add]

private theorem Continued.computes (fits : base + len ≤ 2 ^ 32) {outcome : Bool × Progress}
    (continued : Continued memory base len 0xffffffff#32 outcome) {run : Nat → Option (Bool × Progress)} {passes : Nat}
    (ended : run passes = some outcome) : Computes run memory base len := by
  have plain : memory.bytes base len = (List.range len).map fun i => memory.content (base + i) := by
    apply List.map_congr_left
    intro i listed
    have inside := List.mem_range.mp listed
    rw [add32_of_lt (by omega)]
  refine ⟨passes, outcome, ended, fun fine => ?_⟩
  cases continued with
  | inl failing =>
    obtain ⟨-, read, made, failed⟩ := failing
    rw [fine read made] at failed
    cases failed
  | inr right => exact ⟨right.1, by rw [right.2, plain, crcOf]⟩

private theorem short_straight (short : len ≤ 2 ^ 32 - 128) : Straight 0 len chunkSize := by
  intro more
  have spec := count_spec more (show 0 < chunkSize by decide)
  have chunk : chunkSize = 128 := rfl
  omega

private theorem words_whole (fits : len < 2 ^ 32) : alignDown len 4 = 4 * (len / 4) := by
  have rounded := alignDown_two_pow (k := 2) fits (by decide)
  rwa [show (2 : Nat) ^ 2 = 4 from rfl] at rounded

private theorem loop_continued {body : Nat → Progress → Progress ⊕ Bool × Progress} (takes : TakesChunk memory base len body)
    (short : len ≤ 2 ^ 32 - 128) : ∃ passes outcome,
      chunkLoop chunkSize len body (fun progress => (true, progress)) passes 0 ⟨[], 0xffffffff#32⟩ = some outcome ∧
        Continued memory base len 0xffffffff#32 outcome := by
  have continued := sweep_continued takes _ (Nat.dvd_zero 4) rfl ⟨[], 0xffffffff#32⟩
  rw [Continued, Nat.sub_zero, bytes_wrapped] at continued
  exact ⟨_, _, chunkLoop_straight (by decide) (short_straight short) (Nat.lt_succ_self _) _, continued⟩

/-- Both variants give the CRC of the range, the second one if the CRC unit takes in whole words. -/
theorem crc_of_range (memory : TargetMemory) {base len : Nat} (fits : base + len ≤ 2 ^ 32) (short : len ≤ 2 ^ 32 - 128)
    {unit : CrcUnit} (computes : ∀ crc word, unit crc word = (crcBit poly)^[32] (crc ^^^ word)) :
    Computes (genericCrc32 memory base len) memory base len ∧ Computes (hardwareCrc32 unit memory base len) memory base len := by
  constructor
  · obtain ⟨passes, outcome, ended, continued⟩ := loop_continued (@genericChunk_takes memory base len) short
    exact Continued.computes fits continued ended
  · have words := words_whole (show len < 2 ^ 32 by omega)
    have below : alignDown len 4 ≤ len := by omega
    obtain ⟨passes, ⟨ok, progress⟩, ended, continued⟩ :=
      loop_continued (@hardwareChunk_takes memory base unit computes _ ⟨len / 4, words⟩) (by omega)
    cases continued with
    | inl failing =>
      obtain ⟨rfl, read, made, failed⟩ := failing
      apply Continued.computes fits (.inl ⟨rfl, read, made, failed⟩)
      rw [hardwareCrc32, ended]
    | inr right =>
      obtain ⟨rfl, done⟩ := right
      apply Continued.computes fits (hardwareTail_continues below done)
      rw [hardwareCrc32, ended]

/-- A unit that takes in a word bit by bit. -/
def wordUnit : CrcUnit := fun crc word => (crcBit poly)^[32] (crc ^^^ word)

/-- The six bytes at the end of the address space. -/
theorem crc_of_last_bytes :
    Computes (genericCrc32 (.readable fun src => BitVec.ofNat 8 src) 0xfffffffa 6) (.readable fun src => BitVec.ofNat 8 src)
      0xfffffffa 6 ∧
    Computes (hardwareCrc32 wordUnit (.readable fun src => BitVec.ofNat 8 src) 0xfffffffa 6)
      (.readable fun src => BitVec.ofNat 8 src) 0xfffffffa 6 :=
  crc_of_range (.readable fun src => BitVec.ofNat 8 src) (by decide) (by decide) (fun _ _ => rfl)

end Variants

end BlackMagic.Proofs.Crc32Values
