import BlackMagic.Crc32
import BlackMagic.RttSearch

/-! How often the scans of target memory go around, and where they read: right unless the counter of
their loop runs over before it gets to the end of the range. -/

namespace BlackMagic.Proofs.ScanBounds
open Lib.ChunkLoop Lib.Words

/-- A read in the range from `base` on, rounded up to whole chunks. -/
def InChunks (base len stride : Nat) (read : Nat × Nat) : Prop :=
  ∃ offset, read.1 = add32 base offset ∧ offset + read.2 ≤ stride * count 0 len stride

/-- For every memory at most one pass more than there are chunks, and reads only where they belong. -/
def Bounded {ρ : Type} (passes : Nat) (run : TargetMemory → Nat → Option ρ) (reads : ρ → List (Nat × Nat))
    (inside : Nat × Nat → Prop) : Prop :=
  ∀ memory, ∃ outcome, run memory (passes + 1) = some outcome ∧ ∀ read ∈ reads outcome, inside read

section Loops
variable {σ ρ : Type} {start limit stride : Nat} {body : TargetMemory → Nat → σ → σ ⊕ ρ} {finish : σ → ρ}
  {reads : ρ → List (Nat × Nat)} {inside : Nat × Nat → Prop}

/-- All zeros. -/
def blank : TargetMemory := .readable fun _ => 0#8

/-- A pass makes one more read, and that one in its place. -/
def ReadsInside (made : σ → List (Nat × Nat)) (reads : ρ → List (Nat × Nat)) (inside : Nat × Nat → Prop) (state : σ) :
    σ ⊕ ρ → Prop
  | .inl next => ∃ read, made next = made state ++ [read] ∧ inside read
  | .inr result => ∃ read, reads result = made state ++ [read] ∧ inside read

private theorem all_inside {before after : List (Nat × Nat)} (all : ∀ read ∈ before, inside read) {last : Nat × Nat}
    (shape : after = before ++ [last]) (here : inside last) : ∀ read ∈ after, inside read := by
  intro read listed
  rw [shape, List.mem_append, List.mem_singleton] at listed
  cases listed with
  | inl earlier => exact all read earlier
  | inr same => exact same ▸ here

/-- If a scan of blank memory does not end early, the bound holds exactly for a straight counter. -/
theorem bounded_iff (made : σ → List (Nat × Nat)) (endless : σ → Prop) (positive : 0 < stride) (small : 2 * stride < 2 ^ 31) (fits : limit < 2 ^ 32)
    (reading : ∀ memory, ∀ x ∈ starts start stride (count start limit stride), ∀ state,
      ReadsInside made reads inside state (body memory x state))
    (finishing : ∀ state, reads (finish state) = made state)
    (going : ∀ x state, endless state → ∃ next, body blank x state = .inl next ∧ endless next) {state : σ}
    (begun : endless state) (unread : made state = []) :
    Bounded (count start limit stride + 1)
      (fun memory passes => chunkLoop stride limit (body memory) finish passes start state) reads inside ↔
    Straight start limit stride := by
  constructor
  · intro bounded
    by_contra curved
    obtain ⟨outcome, ended, -⟩ := bounded blank
    have clash : none = some outcome := (chunkLoop_past positive small fits curved going begun).symm.trans ended
    cases clash
  · intro straight memory
    refine ⟨_, chunkLoop_straight positive straight (by omega) state, ?_⟩
    refine @sweep_keeps σ ρ _ finish (fun state => ∀ read ∈ made state, inside read)
      (fun result => ∀ read ∈ reads result, inside read) _ ?_ ?_ ?_ state ?_
    · intro x listed state next all went
      have shape := reading memory x listed state
      rw [went] at shape
      obtain ⟨read, made, here⟩ := shape
      exact all_inside all made here
    · intro x listed state result all went
      have shape := reading memory x listed state
      rw [went] at shape
      obtain ⟨read, made, here⟩ := shape
      exact all_inside all made here
    · intro state all
      rw [finishing]
      exact all
    · rw [unread]
      exact fun read listed => absurd listed List.not_mem_nil

/-- A read within the range is one within its chunks. -/
theorem inChunks_range {address : Nat} (size : Nat) (above : start ≤ address) (below : address < limit) (fits : limit < 2 ^ 32)
    (within : address + size ≤ limit) (positive : 0 < stride) : InChunks start (limit - start) stride (address, size) := by
  have spec := (count_spec (show 0 < limit - start by omega) positive).1
  refine ⟨address - start, ?_, by omega⟩
  rw [add32_of_lt (by omega)]
  omega

end Loops

section Scans
open Crc32 RttSearch
variable {base len ramStart ramEnd : Nat}

private theorem rounded_within {size : Nat} (small : size ≤ 128) : alignDown (size + 3) 4 ≤ 128 := by
  have four : (4 : Nat) = 2 ^ 2 := rfl
  rw [four, alignDown_two_pow (by omega) (by decide)]
  omega

private theorem straight_short (fits : len < 2 ^ 32) : Straight 0 len chunkSize ↔ len ≤ 2 ^ 32 - 128 := by
  simp only [Straight, count, chunkSize]
  omega

theorem crc_bounded_iff (fits : len < 2 ^ 32) :
    Bounded (count 0 len chunkSize + 1) (fun memory => genericCrc32 memory base len) (fun outcome => outcome.2.reads)
      (InChunks base len chunkSize) ↔ len ≤ 2 ^ 32 - 128 := by
  rw [← straight_short fits]
  apply bounded_iff Progress.reads (fun _ => True) (by decide) (by decide) fits
  · intro memory x listed progress
    obtain ⟨i, below, rfl⟩ := mem_starts listed
    have here : InChunks base len chunkSize
        (add32 base (0 + chunkSize * i), alignDown (min chunkSize (len - (0 + chunkSize * i)) + 3) 4) := by
      refine ⟨_, rfl, ?_⟩
      have rounded := rounded_within (Nat.min_le_left chunkSize (len - (0 + chunkSize * i)))
      have next : chunkSize * (i + 1) ≤ chunkSize * count 0 len chunkSize := Nat.mul_le_mul_left _ below
      rw [Nat.mul_add, Nat.mul_one] at next
      have chunk : chunkSize = 128 := rfl
      omega
    rw [genericChunk, targetMemRead]
    cases memory.fails (add32 base (0 + chunkSize * i)) (alignDown (min chunkSize (len - (0 + chunkSize * i)) + 3) 4) with
    | true => exact ⟨_, rfl, here⟩
    | false => exact ⟨_, rfl, here⟩
  · exact fun _ => rfl
  · exact fun x progress _ => ⟨_, rfl, trivial⟩
  · trivial
  · rfl

private theorem roll_zero : roll 0 0#8 0#8 = 0 := by decide

private theorem rollBytes_blank (addr : Nat) (list : List Nat) (rolling : Rolling) (clear : rolling.srchBuf = fun _ => 0#8)
    (zero : rolling.t = 0) : ∃ next, rollBytes addr list rolling = .inl next ∧ next.srchBuf = (fun _ => 0#8) ∧ next.t = 0 := by
  induction list generalizing rolling with
  | nil => exact ⟨rolling, rfl, clear, zero⟩
  | cons i rest ih =>
    have rolled : roll rolling.t (rolling.srchBuf i) (rolling.srchBuf (i + m)) = 0 := by
      rw [clear, zero]
      exact roll_zero
    have other : ¬ p = 0 := by decide
    rw [rollBytes, rolled, if_neg other]
    exact ih _ clear rfl

private theorem rollBytes_reads (addr : Nat) (list : List Nat) (rolling : Rolling) :
    match rollBytes addr list rolling with
    | .inl next => next.reads = rolling.reads
    | .inr result => result.reads = rolling.reads := by
  induction list generalizing rolling with
  | nil => rfl
  | cons i rest ih =>
    rw [rollBytes]
    by_cases hit : p = roll rolling.t (rolling.srchBuf i) (rolling.srchBuf (i + m))
    · rw [if_pos hit]
    · rw [if_neg hit]
      exact ih _

private theorem rollBytes_inside {inside : Nat × Nat → Prop} (addr : Nat) (list : List Nat) {before rolling : Rolling}
    {read : Nat × Nat} (made : rolling.reads = before.reads ++ [read]) (here : inside read) :
    ReadsInside Rolling.reads Outcome.reads inside before (rollBytes addr list rolling) := by
  have kept := rollBytes_reads addr list rolling
  cases went : rollBytes addr list rolling with
  | inl next =>
    rw [went] at kept
    exact ⟨read, kept.trans made, here⟩
  | inr result =>
    rw [went] at kept
    exact ⟨read, kept.trans made, here⟩

private theorem copyBytes_blank {dest : Buffer} (clear : dest = fun _ => 0#8) (offset : Nat) {bytes : List Byte}
    (zeros : ∀ byte ∈ bytes, byte = 0#8) : copyBytes dest offset bytes = fun _ => 0#8 := by
  funext i
  rw [copyBytes, clear]
  by_cases there : offset ≤ i ∧ i < offset + bytes.length
  · have inside : i - offset < bytes.length := by omega
    rw [if_pos there, List.getD_eq_getElem _ _ inside]
    exact zeros _ (List.getElem_mem inside)
  · rw [if_neg there]

private theorem bytes_blank (src size : Nat) : ∀ byte ∈ blank.bytes src size, byte = 0#8 := by
  intro byte listed
  obtain ⟨i, -, same⟩ := List.mem_map.mp listed
  exact same.symm

theorem fast_bounded_iff (fits : ramEnd < 2 ^ 32) :
    Bounded (count ramStart ramEnd stride + 1) (fun memory => fastSearch memory ramStart ramEnd) Outcome.reads
      (InChunks ramStart (ramEnd - ramStart) stride) ↔ Straight ramStart ramEnd stride := by
  have positive : 0 < stride := by decide
  apply bounded_iff Rolling.reads (fun rolling => rolling.srchBuf = (fun _ => 0#8) ∧ rolling.t = 0) positive (by decide) fits
  · intro memory x listed rolling
    obtain ⟨above, below⟩ : ramStart ≤ x ∧ x < ramEnd := by
      by_cases more : ramStart < ramEnd
      · exact starts_below more positive listed
      · rw [count_done (by omega) positive] at listed
        cases listed
    have here := inChunks_range (min stride (ramEnd - x)) above below fits (by omega) positive
    rw [fastChunk, targetMemRead]
    cases memory.fails x (min stride (ramEnd - x)) with
    | true => exact ⟨_, rfl, here⟩
    | false => exact rollBytes_inside x _ rfl here
  · exact fun _ => rfl
  · intro x rolling still
    have moved : ∀ byte ∈ (List.range m).map fun i => rolling.srchBuf (stride + i), byte = 0#8 := by
      intro byte listed
      obtain ⟨i, -, same⟩ := List.mem_map.mp listed
      rw [still.1] at same
      exact same.symm
    have shifted := copyBytes_blank still.1 0 moved
    obtain ⟨next, went, clear⟩ := rollBytes_blank x (List.range (min stride (ramEnd - x)))
      ⟨_, rolling.t, rolling.values, rolling.reads ++ [(x, min stride (ramEnd - x))]⟩
      (copyBytes_blank shifted m (bytes_blank x (min stride (ramEnd - x)))) still.2
    exact ⟨next, went, clear⟩
  · exact ⟨rfl, rfl⟩
  · rfl

private theorem matchAt_blank {ident : Ident} (named : ident.text ≠ []) (src size offset : Nat) :
    matchAt (blank.bytes src size) ident offset = false := by
  obtain ⟨first, rest, shape⟩ := List.exists_cons_of_ne_nil named
  have visible : first ≠ 0#8 := by
    intro zero
    apply ident.plain
    rw [shape, zero]
    exact List.mem_cons_self
  have zero : (blank.bytes src size).getD (offset + 0) 0#8 = 0#8 := by
    rw [List.getD_eq_getElem?_getD]
    cases there : (blank.bytes src size)[offset + 0]? with
    | none => rfl
    | some byte => exact bytes_blank src size byte (List.mem_of_getElem? there)
  rw [matchAt, shape, List.length_cons, strncmpEqual, if_pos]
  rw [zero]
  exact Ne.symm visible

theorem memory_bounded_iff (fits : ramEnd < 2 ^ 32) {ident : Ident} (named : ident.text ≠ []) :
    Bounded (count ramStart ramEnd (step ident) + 1) (fun memory => memorySearch memory ident ramStart ramEnd)
      (fun outcome => outcome.2) (InChunks ramStart (ramEnd - ramStart) (step ident)) ↔
    Straight ramStart ramEnd (step ident) := by
  have short := ident.fits
  have positive : 0 < step ident := by
    rw [step, srchBufSize]
    omega
  have small : 2 * step ident < 2 ^ 31 := by
    rw [step, srchBufSize]
    omega
  have whole : (fun memory => memorySearch memory ident ramStart ramEnd) = fun memory passes =>
      chunkLoop (step ident) ramEnd (memoryChunk memory ident ramEnd) (fun reads => (0, reads)) passes ramStart [] := by
    funext memory passes
    have usual : ¬ (ident.text.length = 0 ∨ srchBufSize / 2 < ident.text.length) := by
      rw [List.length_eq_zero_iff, srchBufSize]
      exact not_or.mpr ⟨named, by omega⟩
    rw [memorySearch, if_neg usual]
  rw [whole]
  apply bounded_iff id (fun _ => True) positive small fits
  · intro memory x listed reads
    obtain ⟨above, below⟩ : ramStart ≤ x ∧ x < ramEnd := by
      by_cases more : ramStart < ramEnd
      · exact starts_below more positive listed
      · rw [count_done (by omega) positive] at listed
        cases listed
    have here := inChunks_range (min (ramEnd - x) srchBufSize) above below fits (by omega) positive
    rw [memoryChunk, targetMemRead]
    cases memory.fails x (min (ramEnd - x) srchBufSize) with
    | true => exact ⟨_, rfl, here⟩
    | false =>
      rw [if_neg Bool.false_ne_true]
      cases found : (List.range (min (ramEnd - x) srchBufSize - (ident.text.length + 1))).find?
        (matchAt (memory.bytes x (min (ramEnd - x) srchBufSize)) ident) with
      | none =>
        simp only [found]
        exact ⟨_, rfl, here⟩
      | some offset =>
        simp only [found]
        exact ⟨_, rfl, here⟩
  · exact fun _ => rfl
  · intro x reads _
    have missed : (List.range (min (ramEnd - x) srchBufSize - (ident.text.length + 1))).find?
        (matchAt (blank.bytes x (min (ramEnd - x) srchBufSize)) ident) = none := by
      rw [List.find?_eq_none]
      intro offset _
      rw [matchAt_blank named]
      exact Bool.false_ne_true
    have went : memoryChunk blank ident ramEnd x reads = .inl (reads ++ [(x, min (ramEnd - x) srchBufSize)]) := by
      rw [memoryChunk, targetMemRead, if_neg (by exact Bool.false_ne_true)]
      simp only [missed]
    exact ⟨_, went, trivial⟩
  · trivial
  · rfl

/-- The bounds hold of each scan exactly for the ranges whose chunks end below the end of the address space. -/
theorem scans_bounded_iff {base len ramStart ramEnd : Nat} (lenFits : len < 2 ^ 32) (endFits : ramEnd < 2 ^ 32) (ident : Ident) :
    (Bounded (count 0 len chunkSize + 1) (fun memory => genericCrc32 memory base len) (fun outcome => outcome.2.reads)
      (InChunks base len chunkSize) ↔ len ≤ 2 ^ 32 - 128) ∧
    (Bounded (count ramStart ramEnd stride + 1) (fun memory => fastSearch memory ramStart ramEnd) Outcome.reads
      (InChunks ramStart (ramEnd - ramStart) stride) ↔ Straight ramStart ramEnd stride) ∧
    (Bounded (count ramStart ramEnd (step ident) + 1) (fun memory => memorySearch memory ident ramStart ramEnd)
      (fun outcome => outcome.2) (InChunks ramStart (ramEnd - ramStart) (step ident)) ↔
      ident.text = [] ∨ Straight ramStart ramEnd (step ident)) := by
  refine ⟨crc_bounded_iff lenFits, fast_bounded_iff endFits, ?_⟩
  by_cases named : ident.text = []
  · refine iff_of_true ?_ (.inl named)
    intro memory
    have ended : ∀ passes, memorySearch memory ident ramStart ramEnd passes = some (0, []) := by
      intro passes
      rw [memorySearch, if_pos (.inl (List.length_eq_zero_iff.mpr named))]
    exact ⟨(0, []), ended _, fun read listed => absurd listed List.not_mem_nil⟩
  · rw [or_iff_right named]
    exact memory_bounded_iff endFits named

def letter : Ident := ⟨[0x53#8], by decide, by decide⟩

theorem small_ranges_bounded :
    (Bounded (count 0 256 chunkSize + 1) (fun memory => genericCrc32 memory 0x20000000 256) (fun outcome => outcome.2.reads)
      (InChunks 0x20000000 256 chunkSize) ↔ 256 ≤ 2 ^ 32 - 128) ∧
    (Bounded (count 0x20000000 0x20000100 stride + 1) (fun memory => fastSearch memory 0x20000000 0x20000100) Outcome.reads
      (InChunks 0x20000000 (0x20000100 - 0x20000000) stride) ↔ Straight 0x20000000 0x20000100 stride) ∧
    (Bounded (count 0x20000000 0x20000100 (step letter) + 1)
      (fun memory => memorySearch memory letter 0x20000000 0x20000100) (fun outcome => outcome.2)
      (InChunks 0x20000000 (0x20000100 - 0x20000000) (step letter)) ↔
      letter.text = [] ∨ Straight 0x20000000 0x20000100 (step letter)) :=
  scans_bounded_iff (by decide) (by decide) letter

/-- A CRC over all of memory but its last byte goes around. -/
theorem long_crc_unbounded :
    ¬ Bounded (count 0 0xffffffff chunkSize + 1) (fun memory => genericCrc32 memory 0 0xffffffff)
      (fun outcome => outcome.2.reads) (InChunks 0 0xffffffff chunkSize) := by
  intro bounded
  have short := (crc_bounded_iff (by decide)).mp bounded
  exact absurd short (by decide)

end Scans

end BlackMagic.Proofs.ScanBounds
