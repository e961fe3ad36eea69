import BlackMagic.Samx5x

/-! An update of a word in the user page of a SAM D51 or E5x leaves the rest of the page and the factory bits as they were. -/

namespace BlackMagic.Proofs.UserPage
open BlackMagic.Samx5x Lib.Polling Lib.Words

section Words

theorem word_ext {first second : BitVec 32} (same : ∀ lane < 4, byteOf first lane = byteOf second lane) : first = second := by
  apply BitVec.eq_of_getLsbD_eq
  intro i inside
  have place : 8 * (i / 8) + i % 8 = i := Nat.div_add_mod i 8
  have bit : i % 8 < 8 := Nat.mod_lt i (by decide)
  have lanes := same (i / 8) (by omega)
  rw [← place, ← byteOf_getLsbD first _ _ bit, ← byteOf_getLsbD second _ _ bit, lanes]

theorem wordAt_withWord (buffer : Buffer) (addr : Nat) (word : BitVec 32) : wordAt (withWord buffer addr word) addr = word := by
  apply word_ext
  intro lane inside
  rw [wordAt, byteOf_ofLanes _ inside, withWord, if_pos ⟨Nat.le_add_right _ _, Nat.add_lt_add_left inside addr⟩,
    Nat.add_sub_cancel_left]

/-- The bits of a word that an update keeps. -/
def kept (force : Bool) (addr : Nat) : BitVec 32 := if force then 0 else ofLanes fun lane => factoryBits (addr + lane)

theorem factoryWord_eq (force : Bool) (addr : Nat) : factoryWord force addr 4 0 0 = kept force addr := by
  cases force with
  | true => rfl
  | false =>
    by_cases inside : addr < 20
    · revert addr
      decide
    · have beyond (lane : Nat) : factoryBits (addr + lane) = 0 := by
        have past : factoryTable.length ≤ addr + lane := Nat.le_trans (Nat.le_of_not_lt inside) (Nat.le_add_right addr lane)
        rw [factoryBits, List.getElem?_eq_none past]
        rfl
      have first : ¬ addr + 0 < 20 := inside
      rw [factoryWord, decide_eq_false first, kept]
      simp only [beyond]
      rfl

end Words

section Pages
variable {patience : Nat} {answers : Answers} {buffer page : Buffer}

/-- An offset is one of those of the quad words that are written. -/
def Covered (list : List Nat) (i : Nat) : Prop := ∃ offset ∈ list, offset ≤ i ∧ i < offset + 16

theorem writeBack_page {list : List Nat} (succeeded : (writeBack patience answers buffer list page).1 = some 0) (i : Nat) :
    (Covered list i → (writeBack patience answers buffer list page).2 i = page i &&& buffer i) ∧
      (¬ Covered list i → (writeBack patience answers buffer list page).2 i = page i) := by
  induction list generalizing page with
  | nil => exact ⟨fun ⟨_, never, _⟩ => absurd never List.not_mem_nil, fun _ => rfl⟩
  | cons offset rest ih =>
    rw [writeBack] at succeeded ⊢
    cases waited : waitReady patience (answers.write offset) with
    | none =>
      rw [waited] at succeeded
      cases succeeded
    | some ready =>
      cases ready with
      | false =>
        rw [waited] at succeeded
        cases succeeded
      | true =>
        simp only [waited] at succeeded ⊢
        obtain ⟨inside, outside⟩ := ih succeeded
        have twice : page i &&& buffer i &&& buffer i = page i &&& buffer i := by rw [BitVec.and_assoc, BitVec.and_self]
        by_cases here : offset ≤ i ∧ i < offset + 16
        · rw [writtenQuadWord, if_pos here] at inside outside
          refine ⟨fun _ => ?_, fun missed => absurd ⟨offset, List.mem_cons_self, here⟩ missed⟩
          by_cases later : Covered rest i
          · rw [inside later, twice]
          · exact outside later
        · rw [writtenQuadWord, if_neg here] at inside outside
          have tail : Covered (offset :: rest) i ↔ Covered rest i := by
            simp only [Covered, List.mem_cons, or_and_right, exists_or, exists_eq_left, here, false_or]
          rw [tail]
          exact ⟨inside, outside⟩

theorem offsets_cover (i : Nat) : Covered offsets i ↔ i < samx5xPageSize := by
  simp only [Covered, offsets, samx5xPageSize, List.mem_map, List.mem_range]
  constructor
  · intro ⟨offset, ⟨k, inside, same⟩, low, high⟩
    omega
  · intro inside
    exact ⟨i / 16 * 16, ⟨i / 16, by omega, rfl⟩, by omega, by omega⟩

/-- A write of the page that succeeds leaves the buffer in it. -/
theorem writeUserPage_page (succeeded : (samx5xWriteUserPage patience answers buffer page).1 = some 0) (i : Nat) :
    (samx5xWriteUserPage patience answers buffer page).2 i = if i < samx5xPageSize then buffer i else page i := by
  rw [samx5xWriteUserPage] at succeeded ⊢
  cases waited : waitReady patience answers.erase with
  | none =>
    rw [waited] at succeeded
    cases succeeded
  | some ready =>
    cases ready with
    | false =>
      rw [waited] at succeeded
      cases succeeded
    | true =>
      simp only [waited] at succeeded ⊢
      obtain ⟨covered, missed⟩ := writeBack_page succeeded i
      have cover := offsets_cover i
      by_cases inside : i < samx5xPageSize
      · rw [covered (cover.mpr inside), erased, if_pos inside, if_pos inside]
        exact BitVec.allOnes_and
      · rw [missed fun listed => inside (cover.mp listed), erased, if_neg inside, if_neg inside]

/-- An update leaves the other bytes and the bits that it keeps as they were, sets the other bits of the word to the value,
and reports the word. -/
structure Preserves (page : Buffer) (addr : Nat) (value : BitVec 32) (force : Bool) (updated : Updated) : Prop where
  others : ∀ i, i < addr ∨ addr + 4 ≤ i → updated.page i = page i
  factory : wordAt updated.page addr &&& kept force addr = wordAt page addr &&& kept force addr
  value : wordAt updated.page addr &&& ~~~kept force addr = value &&& ~~~kept force addr
  reported : updated.valueWritten = wordAt updated.page addr

theorem masked (word value mask : BitVec 32) : (word &&& mask ||| value &&& ~~~mask) &&& mask = word &&& mask ∧
    (word &&& mask ||| value &&& ~~~mask) &&& ~~~mask = value &&& ~~~mask := by
  constructor
  · apply BitVec.eq_of_getLsbD_eq
    intro i inside
    simp only [BitVec.getLsbD_and, BitVec.getLsbD_or, BitVec.getLsbD_not, inside, decide_true, Bool.true_and]
    cases mask.getLsbD i <;> simp
  · apply BitVec.eq_of_getLsbD_eq
    intro i inside
    simp only [BitVec.getLsbD_and, BitVec.getLsbD_or, BitVec.getLsbD_not, inside, decide_true, Bool.true_and]
    cases mask.getLsbD i <;> simp

/-- An update that succeeds preserves everything else, whatever the page, the value and the setting of `force` are. -/
theorem updateUserWord_preserves (patience : Nat) (answers : Answers) (page : Buffer) {addr : Nat} (inside : addr ≤ 0x1fc)
    (value : BitVec 32) (force : Bool)
    (succeeded : (samx5xUpdateUserWord patience answers page addr value force).result = some 0) :
    Preserves page addr value force (samx5xUpdateUserWord patience answers page addr value force) := by
  have fits : addr + 4 ≤ samx5xPageSize := Nat.add_le_add_right inside 4
  rw [samx5xUpdateUserWord] at succeeded ⊢
  simp only [factoryWord_eq] at succeeded ⊢
  obtain ⟨factory, rest⟩ := masked (wordAt page addr) value (kept force addr)
  generalize wordAt page addr &&& kept force addr ||| value &&& ~~~kept force addr = newWord at *
  split
  next changed =>
    rw [if_pos changed] at succeeded
    have written := writeUserPage_page succeeded
    dsimp only at succeeded written ⊢
    generalize (samx5xWriteUserPage patience answers (withWord page addr newWord) page).2 = after at *
    have word : wordAt after addr = newWord := by
      rw [← wordAt_withWord page addr newWord]
      apply word_ext
      intro lane short
      rw [wordAt, wordAt, byteOf_ofLanes _ short, byteOf_ofLanes _ short, written, if_pos (by omega)]
    refine ⟨fun i out => ?_, ?_, ?_, ?_⟩
    · have beside : ¬ (addr ≤ i ∧ i < addr + 4) := by omega
      have left : after i = page i := by rw [written, withWord, if_neg beside, ite_self]
      exact left
    · exact (congrArg (· &&& kept force addr) word).trans factory
    · exact (congrArg (· &&& ~~~kept force addr) word).trans rest
    · exact word.symm
  next same =>
    have same := not_not.mp same
    refine ⟨fun _ _ => rfl, rfl, ?_, same⟩
    rw [← same, rest]

/-- Answers of a controller that is always ready. -/
def ready : Answers := ⟨⟨fun _ => 1, fun _ => false⟩, fun _ => ⟨fun _ => 1, fun _ => false⟩⟩

theorem lock_bits_updated : Preserves (fun _ => 0xff) 8 0 false (samx5xUpdateUserWord 1 ready (fun _ => 0xff) 8 0 false) :=
  updateUserWord_preserves 1 ready (fun _ => 0xff) (by decide) 0 false (by decide +kernel)

end Pages

end BlackMagic.Proofs.UserPage
