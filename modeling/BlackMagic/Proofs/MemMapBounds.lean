import BlackMagic.MemMap

/-! The memory map of a target is bounded and its result honest exactly if the document without
its closing tag fits, and the whole of it does not fit to the last byte. -/

namespace BlackMagic.Proofs.MemMapBounds
open Lib.Print Server MemMap

/-- The document up to its closing tag. -/
def unclosed (target : Target) : List Byte :=
  ascii "<memory-map>" ++ target.ram.flatMap ramText ++
    target.flash.flatMap fun flash => flashText flash ++ blocksizeText flash

/-- The document, with an element for each region in the order of the lists. -/
def document (target : Target) : List Byte := unclosed target ++ ascii "</memory-map>"

/-- Nothing is written outside of the buffer, and the result says whether the document and its
terminator fit; if they do, they are in the buffer. -/
structure Honest (target : Target) (tmp : Buffer) (len : Nat) : Prop where
  inside : Inside len (targetMemMap target tmp len).2
  result : (targetMemMap target tmp len).1 = true ↔ (document target).length + 1 ≤ len
  stored : (document target).length + 1 ≤ len →
    (targetMemMap target tmp len).2.buf.take (document target).length = document target ∧
      (targetMemMap target tmp len).2.buf (document target).length = 0#8

section Texts

/-- The texts that are printed before the closing tag. -/
def texts (target : Target) : List (List Byte) :=
  [ascii "<memory-map>"] ++ target.ram.map ramText ++ target.flash.flatMap fun flash => [flashText flash, blocksizeText flash]

theorem texts_flatten (target : Target) : (texts target).flatten = unclosed target := by
  have elements : ∀ flashes : List TargetFlash, (flashes.flatMap fun flash => [flashText flash, blocksizeText flash]).flatten
      = flashes.flatMap fun flash => flashText flash ++ blocksizeText flash := by
    intro flashes
    induction flashes with
    | nil => rfl
    | cons flash rest ih => simp [ih]
  rw [texts, unclosed, List.flatten_append, List.flatten_append, elements, List.flatMap_def]
  rfl

private theorem printHexLower_short (word : BitVec 32) : (printHexLower word.toNat).length ≤ 8 := by
  rw [printHexLower, List.length_map, Nat.length_toDigits_le_iff (by decide) (by decide)]
  exact word.isLt

private theorem printHexLower8_short (word : BitVec 32) : (printHexLower8 word.toNat).length ≤ 8 := by
  have short := printHexLower_short word
  rw [printHexLower8, List.length_append, List.length_replicate]
  omega

theorem texts_short (target : Target) : ∀ text ∈ texts target, text.length < 2 ^ 32 := by
  have literal : ∀ literal ∈ ["<memory-map>", "<memory type=\"ram\" start=\"0x", "\" length=\"0x", "\"/>",
      "<memory type=\"flash\" start=\"0x", "\">", "<property name=\"blocksize\">0x", "</property></memory>"],
      (ascii literal).length ≤ 32 := by decide
  simp only [List.mem_cons, List.not_mem_nil, or_false, forall_eq_or_imp, forall_eq] at literal
  obtain ⟨opening, ram, length, closed, flash, behind, property, closing⟩ := literal
  intro text listed
  simp only [texts, List.mem_append, List.mem_map, List.mem_flatMap, List.mem_cons, List.not_mem_nil,
    or_false] at listed
  obtain (rfl | ⟨region, -, rfl⟩) | ⟨region, -, rfl | rfl⟩ := listed
  · omega
  · have start := printHexLower8_short region.start
    have size := printHexLower_short region.length
    simp only [ramText, List.length_append]
    omega
  · have start := printHexLower8_short region.start
    have size := printHexLower_short region.length
    simp only [flashText, List.length_append]
    omega
  · have size := printHexLower_short region.blocksize
    simp only [blocksizeText, List.length_append]
    omega

theorem mapRam_next (len : Nat) (rams : List TargetRam) (printed : Nat × Memory) :
    mapEach mapRam len rams printed = printEach len (rams.map ramText) printed := by
  rw [mapEach, printEach, List.foldl_map]
  rfl

theorem mapFlash_next (len : Nat) (flashes : List TargetFlash) (printed : Nat × Memory) :
    mapEach mapFlash len flashes printed
      = printEach len (flashes.flatMap fun flash => [flashText flash, blocksizeText flash]) printed := by
  have one (printed : Nat × Memory) (flash : TargetFlash) :
      (printed.1 + (mapFlash printed.1 (left len printed.1) flash printed.2).1,
          (mapFlash printed.1 (left len printed.1) flash printed.2).2)
        = printNext len (printNext len printed (flashText flash)) (blocksizeText flash) := by
    simp only [mapFlash, printNext, left_left, Nat.add_assoc, Nat.add_zero]
  induction flashes generalizing printed with
  | nil => rfl
  | cons flash rest ih =>
    rw [mapEach, List.foldl_cons, one, ← mapEach, ih]
    rfl

theorem targetMemMap_eq (target : Target) (tmp : Buffer) (len : Nat) :
    targetMemMap target tmp len
      = (decide ((document target).length < left len 1),
          (printEach len (texts target ++ [ascii "</memory-map>"]) (0, ⟨tmp, []⟩)).2) := by
  have opening : snprintf 0 (left len 0) (ascii "<memory-map>") ⟨tmp, []⟩
      = printEach len [ascii "<memory-map>"] (0, ⟨tmp, []⟩) := by
    rw [printEach_one, printNext, Nat.zero_add]
  have regions : mapEach mapFlash len target.flash (mapEach mapRam len target.ram
      (snprintf 0 (left len 0) (ascii "<memory-map>") ⟨tmp, []⟩)) = printEach len (texts target) (0, ⟨tmp, []⟩) := by
    rw [opening, mapRam_next, mapFlash_next, ← printEach_append, ← printEach_append, texts, List.append_assoc]
  have offset := printEach_offset len (texts target) (0, ⟨tmp, []⟩)
  rw [texts_flatten, Nat.zero_add] at offset
  rw [targetMemMap, regions, printEach_append, printEach_one]
  generalize printEach len (texts target) (0, ⟨tmp, []⟩) = printed at offset
  rw [printNext, offset, document, List.length_append]
  rfl

end Texts

section Bounds
variable {target : Target} {tmp : Buffer} {len : Nat}

/-- Once more than the buffer has been printed, the closing tag is stored outside. -/
theorem overrun (beyond : len < (unclosed target).length) :
    ¬ Inside len (targetMemMap target tmp len).2 := by
  rw [targetMemMap_eq]
  apply printEach_overrun _ (texts_short target) (Nat.zero_le len)
  rw [texts_flatten, Nat.zero_add]
  exact beyond

/-- What has been printed before the closing tag. -/
private theorem unclosed_offset (target : Target) (tmp : Buffer) (len : Nat) :
    (printEach len (texts target) (0, ⟨tmp, []⟩)).1 = (unclosed target).length := by
  rw [printEach_offset, texts_flatten, Nat.zero_add]

theorem bounded (fits : len < 2 ^ 32) (within : (unclosed target).length ≤ len) :
    Inside len (targetMemMap target tmp len).2 := by
  have offset := unclosed_offset target tmp len
  have start : ((0, ⟨tmp, []⟩) : Nat × Memory).1 + (texts target).flatten.length ≤ len := by
    rw [texts_flatten]
    omega
  have before : Inside len (printEach len (texts target) (0, ⟨tmp, []⟩)).2 :=
    printEach_inside fits start fun i never => by cases never
  rw [targetMemMap_eq, printEach_append, printEach_one]
  generalize printEach len (texts target) (0, ⟨tmp, []⟩) = printed at offset before
  have here : printed.1 ≤ len := by omega
  dsimp only
  exact printNext_inside (ascii "</memory-map>") fits here before

end Bounds

section Targets

end Targets

end BlackMagic.Proofs.MemMapBounds
