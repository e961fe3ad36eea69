import BlackMagic.RttSearch

/-! The search for an identifier that the user has given finds its first place, also across chunks. -/

namespace BlackMagic.Proofs.RttIdent
open Lib.ChunkLoop Lib.Words RttSearch

def Occurs (content : Nat → Byte) (ident : Ident) (x : Nat) : Prop :=
  ∀ i < ident.text.length, content (x + i) = ident.text.getD i 0#8

/-- The address of the first place, which ends with another byte before the limit, or 0 without such a place. -/
def Lowest (content : Nat → Byte) (ident : Ident) (first limit address : Nat) : Prop :=
  (address ≠ 0 ∧ first ≤ address ∧ address + ident.text.length + 1 < limit ∧ Occurs content ident address ∧
    ∀ x, first ≤ x → x < address → ¬ Occurs content ident x) ∨
  (address = 0 ∧ ∀ x, first ≤ x → x + ident.text.length + 1 < limit → ¬ Occurs content ident x)

section Matches

theorem strncmpEqual_iff {left right : Nat → Byte} {i more : Nat} (visible : ∀ j, i ≤ j → j < i + more → right j ≠ 0#8) :
    strncmpEqual left right i more = true ↔ ∀ j, i ≤ j → j < i + more → left j = right j := by
  induction more generalizing i with
  | zero => exact iff_of_true rfl fun j above below => absurd below (by omega)
  | succ more ih =>
    rw [strncmpEqual]
    by_cases same : left i = right i
    · have shown : left i ≠ 0#8 := same ▸ visible i (Nat.le_refl i) (by omega)
      rw [if_neg (not_not.mpr same), if_neg shown, ih fun j above below => visible j (by omega) (by omega)]
      constructor
      · intro rest j above below
        by_cases first : j = i
        · exact first ▸ same
        · exact rest j (by omega) (by omega)
      · exact fun all j above below => all j (by omega) (by omega)
    · rw [if_pos same]
      exact iff_of_false Bool.false_ne_true fun all => same (all i (Nat.le_refl i) (by omega))

theorem ident_visible (ident : Ident) {i : Nat} (inside : i < ident.text.length) : ident.text.getD i 0#8 ≠ 0#8 := by
  intro zero
  rw [List.getD_eq_getElem _ _ inside] at zero
  exact ident.plain (zero ▸ List.getElem_mem inside)

theorem matchAt_iff (memory : TargetMemory) (ident : Ident) {x size offset : Nat}
    (inside : offset + ident.text.length ≤ size) (fits : x + size ≤ 2 ^ 32) :
    matchAt (memory.bytes x size) ident offset = true ↔ Occurs memory.content ident (x + offset) := by
  have visible : ∀ j, 0 ≤ j → j < 0 + ident.text.length → ident.text.getD j 0#8 ≠ 0#8 :=
    fun j _ below => ident_visible ident (by omega)
  have read : ∀ i < ident.text.length, (memory.bytes x size).getD (offset + i) 0#8 = memory.content (x + offset + i) := by
    intro i below
    rw [TargetMemory.bytes_getD _ _ (by omega), add32_of_lt (by omega), Nat.add_assoc]
  rw [matchAt, strncmpEqual_iff visible, Occurs]
  constructor
  · intro equal i below
    rw [← read i below]
    exact equal i (Nat.zero_le i) (by omega)
  · intro occurs i _ below
    rw [read i (by omega)]
    exact occurs i (by omega)

end Matches

section Chunks
variable {memory : TargetMemory} {ident : Ident} {x limit : Nat}

theorem Lowest.before {first mid address : Nat} (lowest : Lowest memory.content ident mid limit address) (ordered : first ≤ mid)
    (missed : ∀ x, first ≤ x → x < mid → x + ident.text.length + 1 < limit → ¬ Occurs memory.content ident x) :
    Lowest memory.content ident first limit address := by
  cases lowest with
  | inl found =>
    obtain ⟨nonzero, above, below, occurs, none⟩ := found
    refine .inl ⟨nonzero, by omega, below, occurs, fun x late early => ?_⟩
    by_cases there : x < mid
    · exact missed x late there (by omega)
    · exact none x (by omega) early
  | inr absent =>
    refine .inr ⟨absent.1, fun x late early => ?_⟩
    by_cases there : x < mid
    · exact missed x late there early
    · exact absent.2 x (by omega) early

/-- A chunk is searched up to where the next one starts. -/
theorem memoryChunk_spec (fits : limit ≤ 2 ^ 32) (started : 0 < x) (more : x < limit) (reads : List (Nat × Nat))
    (fine : memory.fails x (min (limit - x) srchBufSize) = false) :
    (∃ address, memoryChunk memory ident limit x reads = .inr (address, reads ++ [(x, min (limit - x) srchBufSize)]) ∧
      Lowest memory.content ident x limit address) ∨
    (memoryChunk memory ident limit x reads = .inl (reads ++ [(x, min (limit - x) srchBufSize)]) ∧
      ∀ y, x ≤ y → y < x + step ident → y + ident.text.length + 1 < limit → ¬ Occurs memory.content ident y) := by
  have short := ident.fits
  have size : srchBufSize = 128 := rfl
  have places : ∀ offset, offset < min (limit - x) srchBufSize - (ident.text.length + 1) →
      (matchAt (memory.bytes x (min (limit - x) srchBufSize)) ident offset = true ↔
        Occurs memory.content ident (x + offset)) :=
    fun offset inside => matchAt_iff memory ident (by omega) (by omega)
  rw [memoryChunk, targetMemRead, fine, if_neg Bool.false_ne_true]
  cases found : (List.range (min (limit - x) srchBufSize - (ident.text.length + 1))).find?
    (matchAt (memory.bytes x (min (limit - x) srchBufSize)) ident) with
  | some offset =>
    left
    obtain ⟨hit, listed, earlier⟩ := List.find?_range_eq_some.mp found
    have inside := List.mem_range.mp listed
    simp only [found, add32_of_lt (show x + offset < 2 ^ 32 by omega)]
    refine ⟨_, rfl, .inl ⟨by omega, by omega, by omega, (places offset inside).mp hit, fun y above below => ?_⟩⟩
    have missed := earlier (y - x) (by omega)
    have place := places (y - x) (by omega)
    rw [show x + (y - x) = y by omega] at place
    rw [← place]
    simpa using missed
  | none =>
    right
    simp only [found]
    refine ⟨trivial, fun y above below early => ?_⟩
    rw [step] at below
    have missed := List.find?_range_eq_none.mp found (y - x) (by omega)
    have place := places (y - x) (by omega)
    rw [show x + (y - x) = y by omega] at place
    rw [← place]
    simpa using missed

theorem memoryChunk_reads (memory : TargetMemory) (ident : Ident) (x limit : Nat) (reads : List (Nat × Nat)) :
    memoryChunk memory ident limit x reads = .inl (reads ++ [(x, min (limit - x) srchBufSize)]) ∨
      ∃ address, memoryChunk memory ident limit x reads = .inr (address, reads ++ [(x, min (limit - x) srchBufSize)]) := by
  rw [memoryChunk, targetMemRead]
  cases memory.fails x (min (limit - x) srchBufSize) with
  | true => exact .inl rfl
  | false =>
    rw [if_neg Bool.false_ne_true]
    cases found : (List.range (min (limit - x) srchBufSize - (ident.text.length + 1))).find?
      (matchAt (memory.bytes x (min (limit - x) srchBufSize)) ident) with
    | some offset =>
      simp only [found]
      exact .inr ⟨_, rfl⟩
    | none =>
      simp only [found]
      exact .inl trivial

private theorem reads_kept (list : List Nat) {read : Nat × Nat} {reads : List (Nat × Nat)} (made : read ∈ reads) :
    read ∈ (sweep (memoryChunk memory ident limit) (fun reads => (0, reads)) list reads).2 := by
  refine @sweep_keeps _ _ _ _ (fun reads : List (Nat × Nat) => read ∈ reads) (fun outcome : Nat × List (Nat × Nat) => read ∈ outcome.2) list
    ?_ ?_ ?_ reads made
  · intro x _ state next there went
    cases memoryChunk_reads memory ident x limit state with
    | inl goes =>
      cases goes.symm.trans went
      exact List.mem_append_left _ there
    | inr ends =>
      obtain ⟨address, ends⟩ := ends
      cases ends.symm.trans went
  · intro x _ state result there went
    cases memoryChunk_reads memory ident x limit state with
    | inl goes => cases goes.symm.trans went
    | inr ends =>
      obtain ⟨address, ends⟩ := ends
      cases ends.symm.trans went
      exact List.mem_append_left _ there
  · exact fun _ there => there

private theorem made_here (reads : List (Nat × Nat)) (read : Nat × Nat) : read ∈ reads ++ [read] :=
  List.mem_append_right _ List.mem_cons_self

theorem sweep_lowest (fits : limit ≤ 2 ^ 32) (left : Nat) (started : 0 < x) (counted : count x limit (step ident) = left)
    (reads : List (Nat × Nat))
    (fine : ∀ read ∈ (sweep (memoryChunk memory ident limit) (fun reads => (0, reads)) (starts x (step ident) left) reads).2,
      memory.fails read.1 read.2 = false) :
    Lowest memory.content ident x limit
      (sweep (memoryChunk memory ident limit) (fun reads => (0, reads)) (starts x (step ident) left) reads).1 := by
  have short := ident.fits
  have positive : 0 < step ident := by
    rw [step, srchBufSize]
    omega
  induction left generalizing x reads with
  | zero =>
    have done : limit ≤ x := by
      by_contra more
      rw [count_succ (by omega) positive] at counted
      cases counted
    exact .inr ⟨rfl, fun y above below => absurd below (by omega)⟩
  | succ left ih =>
    have more : x < limit := by
      by_contra done
      rw [count_done (by omega) positive] at counted
      cases counted
    rw [count_succ more positive] at counted
    rw [starts, sweep] at fine ⊢
    have read : memory.fails x (min (limit - x) srchBufSize) = false := by
      apply fine (x, min (limit - x) srchBufSize)
      cases memoryChunk_reads memory ident x limit reads with
      | inl goes =>
        rw [goes]
        exact reads_kept _ (made_here reads _)
      | inr ends =>
        obtain ⟨address, ends⟩ := ends
        rw [ends]
        exact made_here reads _
    cases @memoryChunk_spec memory ident x limit fits started more reads read with
    | inl found =>
      obtain ⟨address, result, lowest⟩ := found
      rw [result]
      exact lowest
    | inr missed =>
      obtain ⟨result, none⟩ := missed
      rw [result] at fine ⊢
      exact (ih (by omega) (Nat.succ.inj counted) _ fine).before (by omega) none

end Chunks

/-- The first place of the identifier in the window, and 0 only if there is none. -/
theorem search_lowest (memory : TargetMemory) {ident : Ident} (named : ident.text ≠ []) {ramStart ramEnd : Nat}
    (started : 0 < ramStart) (fits : ramEnd ≤ 2 ^ 32 - 128) :
    ∃ passes outcome, memorySearch memory ident ramStart ramEnd passes = some outcome ∧
      ((∀ read ∈ outcome.2, memory.fails read.1 read.2 = false) →
        Lowest memory.content ident ramStart ramEnd outcome.1) := by
  have short := ident.fits
  have positive : 0 < step ident := by
    rw [step, srchBufSize]
    omega
  have straight : Straight ramStart ramEnd (step ident) := by
    intro more
    have spec := (count_spec more positive).2
    have size : step ident ≤ 127 := by
      rw [step, srchBufSize]
      omega
    omega
  have usual : ¬ (ident.text.length = 0 ∨ srchBufSize / 2 < ident.text.length) := by
    rw [List.length_eq_zero_iff, srchBufSize]
    exact not_or.mpr ⟨named, by omega⟩
  refine ⟨count ramStart ramEnd (step ident) + 1, _, ?_, sweep_lowest (by omega) _ started rfl []⟩
  rw [memorySearch, if_neg usual]
  exact chunkLoop_straight positive straight (Nat.lt_succ_self _) []

def shortName : Ident := ⟨[0x52#8, 0x54#8], by decide, by decide⟩

theorem short_name_lowest :
    ∃ passes outcome, memorySearch (.readable fun x => BitVec.ofNat 8 x) shortName 0x20000000 0x20000100 passes = some outcome ∧
      ((∀ read ∈ outcome.2, (TargetMemory.readable fun x => BitVec.ofNat 8 x).fails read.1 read.2 = false) →
        Lowest (fun x => BitVec.ofNat 8 x) shortName 0x20000000 0x20000100 outcome.1) :=
  search_lowest (.readable fun x => BitVec.ofNat 8 x) (by decide) (by decide) (by decide)

end BlackMagic.Proofs.RttIdent
