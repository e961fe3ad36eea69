import BlackMagic.Lib.Chunks
import BlackMagic.Proofs.Stm32FlashExchanges

/-! The frames of the client are frames of the boot loader, and what it makes of them. -/

namespace BlackMagic.Proofs.Stm32FlashFrames
open Lib Lib.Program Lib.Framing Stm32Flash Stm32FlashExchanges

variable {part : Part} {boot : Boot}

section Checksums

theorem checksum_append (bytes : List Byte) (last : Byte) : checksum (bytes ++ [last]) = checksum bytes ^^^ last := by
  rw [checksum, List.foldl_append]
  rfl

/-- With its checksum a list of bytes sums up to nothing. -/
@[simp] theorem checksum_closed (bytes : List Byte) : checksum (bytes ++ [checksum bytes]) = 0 :=
  (checksum_append bytes _).trans BitVec.xor_self

theorem checksum_complement : ∀ byte : Byte, checksum [byte, byte ^^^ 0xff] = 0xff := by decide +kernel

theorem bytesOf_value (word : BitVec 32) : BitVec.ofNat 32 (bigEndian (bytesOf word)) = word := by
  have bound := word.isLt
  have value : bigEndian (bytesOf word) = word.toNat := by
    simp only [bigEndian, bytesOf, List.foldl_cons, List.foldl_nil, BitVec.toNat_setWidth, BitVec.toNat_ushiftRight,
      Nat.shiftRight_eq_div_pow]
    omega
  rw [value, BitVec.ofNat_toNat, BitVec.setWidth_eq]

theorem addressOf_frame (address : BitVec 32) : addressOf (addressFrame address) = address := bytesOf_value address

end Checksums

section Commands

theorem protocol_need : part.protocol.need = need := rfl

theorem command_frame (byte : Byte) : part.protocol.Frame .command [byte, byte ^^^ 0xff] :=
  Protocol.frame_fixed (fun _ => rfl) rfl (by decide)

theorem amount_frame (address : BitVec 32) (byte : Byte) : part.protocol.Frame (.amount address) [byte, byte ^^^ 0xff] :=
  Protocol.frame_fixed (fun _ => rfl) rfl (by decide)

theorem address_frame (command : Byte) (address : BitVec 32) :
    part.protocol.Frame (.address command) (addressFrame address) :=
  Protocol.frame_fixed (fun _ => rfl) rfl (by decide)

theorem length_frame (address length : BitVec 32) : part.protocol.Frame (.length address) (addressFrame length) :=
  Protocol.frame_fixed (fun _ => rfl) rfl (by decide)

theorem obey_refused {command : Byte} (refused : ¬ part.takes command = true) : part.obey command = (.command, nacked) :=
  if_pos refused

theorem conclude_command {command : Byte} {task : Task} {rest : List Reply}
    (obeyed : part.takes command = true → part.obey command = (task, acked ++ rest)) :
    part.conclude .command [command, command ^^^ 0xff] boot =
      if part.takes command then ((task, boot), acked ++ rest) else ((.command, boot), nacked) := by
  rw [Part.conclude, if_pos (checksum_complement command)]
  show (((part.obey command).1, boot), (part.obey command).2) = _
  by_cases taken : part.takes command = true
  · rw [obeyed taken, if_pos taken]
  · rw [obey_refused taken, if_neg taken]

/-- The commands that an address follows. -/
theorem obey_address {command : Byte}
    (known : command ∈ [stm32CmdRm, stm32CmdGo, stm32CmdWm, stm32CmdWmNs, stm32CmdCrc]) (taken : part.takes command = true) :
    part.obey command = (.address command, acked) := by
  rw [Part.obey, if_neg (not_not_intro taken)]
  simp only [List.mem_cons, List.not_mem_nil, or_false] at known
  rcases known with rfl | rfl | rfl | rfl | rfl <;> rfl

theorem obey_pages (taken : part.takes stm32CmdEr = true) : part.obey stm32CmdEr = (.pages, acked) := by
  rw [Part.obey, if_neg (not_not_intro taken)]
  rfl

theorem obey_manyPages {command : Byte} (known : command ∈ [stm32CmdEe, stm32CmdEeNs]) (taken : part.takes command = true) :
    part.obey command = (.manyPages, acked) := by
  rw [Part.obey, if_neg (not_not_intro taken)]
  simp only [List.mem_cons, List.not_mem_nil, or_false] at known
  rcases known with rfl | rfl <;> rfl

theorem conclude_address (command : Byte) (address : BitVec 32) :
    part.conclude (.address command) (addressFrame address) boot =
      if part.valid address then ((afterAddress command address, boot), acked) else ((.command, boot), nacked) := by
  rw [Part.conclude, addressOf_frame]
  simp only [addressFrame, checksum_closed, true_and]

theorem conclude_amount (address : BitVec 32) {len : Nat} (some_ : 0 < len) (few : len ≤ 256) :
    part.conclude (.amount address) [BitVec.ofNat 8 (len - 1), BitVec.ofNat 8 (len - 1) ^^^ 0xff] boot =
      ((.command, boot), acked ++ spelled (recalled boot.memory address len)) := by
  have value : (BitVec.ofNat 8 (len - 1)).toNat + 1 = len := by
    rw [BitVec.toNat_ofNat]
    omega
  rw [Part.conclude, if_pos (checksum_complement _)]
  show ((Task.command, boot), acked ++ spelled (recalled boot.memory address ((BitVec.ofNat 8 (len - 1)).toNat + 1))) = _
  rw [value]

end Commands

section Blocks
variable {data : List Byte}

theorem alignedLen_bounds (present : data.length ≠ 0) (few : data.length ≤ 256) :
    0 < alignedLen data.length ∧ alignedLen data.length ≤ 256 ∧ data.length ≤ alignedLen data.length := by
  rw [alignedLen]
  omega

theorem blockFrame_eq : blockFrame data =
    [BitVec.ofNat 8 (alignedLen data.length - 1)] ++
      (padded data ++ [checksum (BitVec.ofNat 8 (alignedLen data.length - 1) :: padded data)]) := rfl

theorem block_frame (address : BitVec 32) (present : data.length ≠ 0) (few : data.length ≤ 256) :
    part.protocol.Frame (.block address) (blockFrame data) := by
  obtain ⟨positive, bound, above⟩ := alignedLen_bounds present few
  have value : (BitVec.ofNat 8 (alignedLen data.length - 1)).toNat + 3 = alignedLen data.length + 2 := by
    rw [BitVec.toNat_ofNat]
    omega
  rw [blockFrame_eq]
  refine Protocol.frame_headed (List.cons_ne_nil _ _) (fun count positive before => ?_) (fun got => value) ?_
  · exact absurd before (by simp; omega)
  · simp only [padded, List.length_append, List.length_cons, List.length_nil, List.length_replicate]
    omega

theorem conclude_block (address : BitVec 32) :
    part.conclude (.block address) (blockFrame data) boot =
      ((.command, ⟨part.written boot.memory address (padded data), boot.served + 1⟩), part.writing boot.served ++ acked) := by
  have closed : checksum (blockFrame data) = 0 := checksum_closed _
  have content : ((blockFrame data).drop 1).dropLast = padded data := by
    rw [blockFrame_eq]
    exact List.dropLast_concat
  rw [Part.conclude, if_pos closed, content]

end Blocks

section Pages
variable {spage pages : Nat}

theorem erased_congr (memory : Memory) {gone lost : Nat → Prop} [DecidablePred gone] [DecidablePred lost]
    (same : ∀ page, gone page ↔ lost page) : part.erased memory gone = part.erased memory lost := by
  funext place
  rw [Part.erased, Part.erased]
  cases part.page place with
  | none => rfl
  | some page => simp only [same]

theorem pageNumbers_eq (fits : spage + pages ≤ 2 ^ 16) : pageNumbers spage pages = List.range' spage pages := by
  have count : (spage + pages) % 2 ^ 32 - spage = pages := by
    rw [Nat.mod_eq_of_lt (by omega)]
    omega
  rw [pageNumbers, count]

theorem mem_pages {page : Nat} : page ∈ List.range' spage pages ↔ spage ≤ page ∧ page < spage + pages :=
  List.mem_range'_1

/-- What the client sends after the command for pages with numbers of one byte. -/
def pagesFrame (spage pages : Nat) : List Byte :=
  let bytes := BitVec.ofNat 8 (pages - 1) :: (pageNumbers spage pages).map (BitVec.ofNat 8)
  bytes ++ [checksum bytes]

def manyPagesFrame (spage pages : Nat) : List Byte :=
  let bytes := BitVec.ofNat 8 ((pages - 1) / 256) :: BitVec.ofNat 8 (pages - 1) ::
    (pageNumbers spage pages).flatMap fun page => [BitVec.ofNat 8 (page / 256), BitVec.ofNat 8 page]
  bytes ++ [checksum bytes]

theorem count_byte (some_ : pages ≠ 0) (few : pages ≤ 255) :
    (BitVec.ofNat 8 (pages - 1)).toNat = pages - 1 ∧ BitVec.ofNat 8 (pages - 1) ≠ 0xff := by
  have value : (BitVec.ofNat 8 (pages - 1)).toNat = pages - 1 := by
    rw [BitVec.toNat_ofNat]
    omega
  refine ⟨value, fun all => ?_⟩
  rw [all] at value
  have ones : (0xff : Byte).toNat = 255 := rfl
  omega

theorem pages_frame (some_ : pages ≠ 0) (few : pages ≤ 255) (fits : spage + pages ≤ 256) :
    part.protocol.Frame .pages (pagesFrame spage pages) := by
  obtain ⟨value, partial_⟩ := count_byte some_ few
  have known (got : List Byte) : part.protocol.need .pages ([BitVec.ofNat 8 (pages - 1)] ++ got) = pages + 2 := by
    have present : ¬ ([BitVec.ofNat 8 (pages - 1)] ++ got).length < 1 := by simp
    have head : ([BitVec.ofNat 8 (pages - 1)] ++ got).headD 0 = BitVec.ofNat 8 (pages - 1) := rfl
    rw [protocol_need, need, if_neg present, head, if_neg partial_, value]
    omega
  have split : pagesFrame spage pages = [BitVec.ofNat 8 (pages - 1)] ++
    ((pageNumbers spage pages).map (BitVec.ofNat 8) ++ [checksum (BitVec.ofNat 8 (pages - 1) ::
      (pageNumbers spage pages).map (BitVec.ofNat 8))]) := rfl
  rw [split]
  refine Protocol.frame_headed (List.cons_ne_nil _ _) (fun count positive before => ?_) known ?_
  · exact absurd before (by simp; omega)
  · rw [pageNumbers_eq (by omega)]
    simp only [List.length_append, List.length_cons, List.length_nil, List.length_map, List.length_range']
    omega

theorem conclude_pages (some_ : pages ≠ 0) (few : pages ≤ 255) (fits : spage + pages ≤ 256) :
    part.conclude .pages (pagesFrame spage pages) boot =
      ((.command, ⟨part.erased boot.memory fun page => spage ≤ page ∧ page < spage + pages, boot.served + 1⟩),
        part.erasing boot.served pages ++ acked) := by
  have head : (pagesFrame spage pages).headD 0 = BitVec.ofNat 8 (pages - 1) := rfl
  have closed : checksum (pagesFrame spage pages) = 0 := checksum_closed _
  have numbers : (((pagesFrame spage pages).drop 1).dropLast).map BitVec.toNat = List.range' spage pages := by
    have content : ((pagesFrame spage pages).drop 1).dropLast = (pageNumbers spage pages).map (BitVec.ofNat 8) :=
      List.dropLast_concat
    rw [content, pageNumbers_eq (by omega), List.map_map]
    refine (List.map_congr_left fun page listed => ?_).trans (List.map_id _)
    have below := (mem_pages.mp listed).2
    show (BitVec.ofNat 8 page).toNat = page
    rw [BitVec.toNat_ofNat]
    omega
  have gone : part.erased boot.memory (· ∈ (((pagesFrame spage pages).drop 1).dropLast).map BitVec.toNat) =
      part.erased boot.memory fun page => spage ≤ page ∧ page < spage + pages :=
    erased_congr boot.memory fun page => by rw [numbers, mem_pages]
  rw [Part.conclude, head, if_neg (count_byte some_ few).2, if_pos closed]
  show ((Task.command, Boot.mk (part.erased boot.memory _) _), part.erasing boot.served (List.length _) ++ acked) = _
  rw [gone, numbers, List.length_range']

theorem pairs_flatMap (numbers : List Nat) (fits : ∀ page ∈ numbers, page < 2 ^ 16) :
    pairs (numbers.flatMap fun page => [BitVec.ofNat 8 (page / 256), BitVec.ofNat 8 page]) = numbers := by
  induction numbers with
  | nil => rfl
  | cons page rest ih =>
    have bound := fits page List.mem_cons_self
    have value : bigEndian [BitVec.ofNat 8 (page / 256), BitVec.ofNat 8 page] = page := by
      simp only [bigEndian, List.foldl_cons, List.foldl_nil, BitVec.toNat_ofNat]
      omega
    show bigEndian _ :: pairs (rest.flatMap _) = _
    rw [value, ih fun other listed => fits other (List.mem_cons_of_mem _ listed)]

theorem count_word (few : pages ≤ 511) :
    bigEndian [BitVec.ofNat 8 ((pages - 1) / 256), BitVec.ofNat 8 (pages - 1)] = pages - 1 := by
  simp only [bigEndian, List.foldl_cons, List.foldl_nil, BitVec.toNat_ofNat]
  omega

theorem length_pairs (numbers : List Nat) :
    (numbers.flatMap fun page => [BitVec.ofNat 8 (page / 256), BitVec.ofNat 8 page]).length = 2 * numbers.length :=
  @Chunks.length_flatMap _ _ _ 2 (fun _ => rfl) numbers

theorem manyPages_frame (some_ : pages ≠ 0) (few : pages ≤ 511) (fits : spage + pages ≤ 2 ^ 16) :
    part.protocol.Frame .manyPages (manyPagesFrame spage pages) := by
  have known (got : List Byte) : part.protocol.need .manyPages
      ([BitVec.ofNat 8 ((pages - 1) / 256), BitVec.ofNat 8 (pages - 1)] ++ got) = 2 * pages + 3 := by
    have present : ¬ ([BitVec.ofNat 8 ((pages - 1) / 256), BitVec.ofNat 8 (pages - 1)] ++ got).length < 2 := by simp
    have head : ([BitVec.ofNat 8 ((pages - 1) / 256), BitVec.ofNat 8 (pages - 1)] ++ got).take 2 =
        [BitVec.ofNat 8 ((pages - 1) / 256), BitVec.ofNat 8 (pages - 1)] := rfl
    have partial_ : ¬ pages - 1 = 0xffff := by omega
    rw [protocol_need, need, if_neg present, head, count_word few, if_neg partial_]
    omega
  have split : manyPagesFrame spage pages = [BitVec.ofNat 8 ((pages - 1) / 256), BitVec.ofNat 8 (pages - 1)] ++
    ((pageNumbers spage pages).flatMap (fun page => [BitVec.ofNat 8 (page / 256), BitVec.ofNat 8 page]) ++
      [checksum (BitVec.ofNat 8 ((pages - 1) / 256) :: BitVec.ofNat 8 (pages - 1) ::
        (pageNumbers spage pages).flatMap fun page => [BitVec.ofNat 8 (page / 256), BitVec.ofNat 8 page])]) := rfl
  rw [split]
  refine Protocol.frame_headed (List.cons_ne_nil _ _) (fun count positive before => ?_) known ?_
  · have one : count = 1 := by
      simp only [List.length_cons, List.length_nil] at before
      omega
    subst one
    exact (by decide : 1 < 2)
  · rw [pageNumbers_eq fits]
    simp only [List.length_append, List.length_cons, List.length_nil, length_pairs, List.length_range']
    omega

theorem conclude_manyPages (few : pages ≤ 511) (fits : spage + pages ≤ 2 ^ 16) :
    part.conclude .manyPages (manyPagesFrame spage pages) boot =
      ((.command, ⟨part.erased boot.memory fun page => spage ≤ page ∧ page < spage + pages, boot.served + 1⟩),
        part.erasing boot.served pages ++ acked) := by
  have head : (manyPagesFrame spage pages).take 2 = [BitVec.ofNat 8 ((pages - 1) / 256), BitVec.ofNat 8 (pages - 1)] := rfl
  have partial_ : ¬ pages - 1 = 0xffff := by omega
  have closed : checksum (manyPagesFrame spage pages) = 0 := checksum_closed _
  have numbers : pairs (((manyPagesFrame spage pages).drop 2).dropLast) = List.range' spage pages := by
    have content : ((manyPagesFrame spage pages).drop 2).dropLast =
        (pageNumbers spage pages).flatMap fun page => [BitVec.ofNat 8 (page / 256), BitVec.ofNat 8 page] :=
      List.dropLast_concat
    rw [content, pageNumbers_eq fits, pairs_flatMap]
    intro page listed
    have below := (mem_pages.mp listed).2
    omega
  have gone : part.erased boot.memory (· ∈ pairs (((manyPagesFrame spage pages).drop 2).dropLast)) =
      part.erased boot.memory fun page => spage ≤ page ∧ page < spage + pages :=
    erased_congr boot.memory fun page => by rw [numbers, mem_pages]
  rw [Part.conclude, head, count_word few, if_neg partial_, if_pos closed]
  show ((Task.command, Boot.mk (part.erased boot.memory _) _), part.erasing boot.served (List.length _) ++ acked) = _
  rw [gone, numbers, List.length_range']

theorem clear_frame : part.protocol.Frame .pages [0xff, 0xff ^^^ 0xff] where
  present := List.cons_ne_nil _ _
  begun count positive before := by
    have one : count = 1 := by
      simp only [List.length_cons, List.length_nil] at before
      omega
    subst one
    exact (by decide : 1 < need .pages [0xff])
  whole := (by decide : need .pages [0xff, 0xff ^^^ 0xff] ≤ 2)

theorem manyClear_frame : part.protocol.Frame .manyPages [0xff, 0xff, 0x00] := by
  have known (got : List Byte) : part.protocol.need .manyPages ([0xff, 0xff] ++ got) = 3 := by
    have present : ¬ ([(0xff : Byte), 0xff] ++ got).length < 2 := by simp
    have all : bigEndian [0xff, 0xff] = 0xffff := by decide
    have head : ([(0xff : Byte), 0xff] ++ got).take 2 = [0xff, 0xff] := rfl
    rw [protocol_need, need, if_neg present, head, if_pos all]
  refine Protocol.frame_headed (List.cons_ne_nil (0xff : Byte) [0xff]) (fun count positive before => ?_) known rfl
  have one : count = 1 := by
    simp only [List.length_cons, List.length_nil] at before
    omega
  subst one
  exact (by decide : 1 < 2)

theorem conclude_clear : part.conclude .pages [0xff, 0xff ^^^ 0xff] boot =
    ((.command, ⟨part.erased boot.memory fun _ => True, boot.served + 1⟩), part.clearing boot.served ++ acked) := by
  rw [Part.conclude, if_pos (by decide), if_pos (by decide)]
  rfl

theorem conclude_manyClear : part.conclude .manyPages [0xff, 0xff, 0x00] boot =
    ((.command, ⟨part.erased boot.memory fun _ => True, boot.served + 1⟩), part.clearing boot.served ++ acked) := by
  rw [Part.conclude, if_pos (by decide), if_pos (by decide)]
  rfl

end Pages

end BlackMagic.Proofs.Stm32FlashFrames
