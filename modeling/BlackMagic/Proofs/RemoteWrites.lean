import BlackMagic.Lib.Scan
import BlackMagic.Proofs.MemApTransfer
import BlackMagic.RemoteMemory

/-! Which memory writes of the remote protocol are complete: for the others there is a port, with what the architecture leaves
open to it, and a content of the memory, where something else is written. -/

namespace BlackMagic.Proofs.RemoteWrites
open Hex Lib.Words Lib.Scan RemoteMemory MemApTransfer
open MemAp (Align State adiv5ApCsw adiv5ApTar adiv5ApDrw adiv5DpRdbuff accessBytes)

section Specification

/-- The packet ends in two hex digits for each of so many bytes. -/
def Encodes (packet : Buffer) (length : Nat) (bytes : Nat → Byte) : Prop :=
  ∀ i < length, ∃ high low, digit 16 (packet (32 + 2 * i)) = some high ∧ digit 16 (packet (33 + 2 * i)) = some low ∧
    bytes i = BitVec.ofNat 8 (16 * high + low)

/-- A packet that the protocol admits, with its data. -/
structure Admissible (packet : Buffer) (packetLen : Nat) (bytes : Nat → Byte) : Prop where
  whole : 32 + 2 * packetLength packet ≤ packetLen
  limit : packetLength packet ≤ 1024
  align : packetAlign packet ≤ 3
  dest : 2 ^ packetAlign packet ∣ packetDest packet
  length : 2 ^ packetAlign packet ∣ packetLength packet
  data : Encodes packet (packetLength packet) bytes

/-- The data is decoded, and the memory of the target is as before but for the data at the destination. -/
structure Carried (device : Device) (packet : Buffer) (packetLen : Nat) (bytes : Nat → Byte) (state : State)
    (data : Buffer) (after : State) : Prop where
  result : remoteMemWrite device packet packetLen state = some (.ok, data, after)
  decoded : ∀ i < packetLength packet, data i = bytes i
  memory : ∀ a < 2 ^ 32,
    after.memory a = overlay state.memory (packetDest packet) (packetLength packet) bytes a

/-- What the protocol promises: the data of every admissible packet is written, for every port and content of the memory, and
an alignment that there is not is refused. -/
structure Complete (packet : Buffer) (packetLen : Nat) : Prop where
  carried : ∀ bytes, Admissible packet packetLen bytes →
    ∀ device state, ∃ data after, Carried device packet packetLen bytes state data after
  refused : 3 < packetAlign packet →
    ∀ device state, remoteMemWrite device packet packetLen state = some (.parErr, packet, state)

/-- The CSW of a packet has no bits that spoil the size of the accesses or the increment of the address. -/
def Fits (csw : BitVec 32) (align : Nat) : Prop := csw &&& 0x27#32 ||| cswSize align = cswSize align

end Specification

section Decoding

theorem unhexDigit_digit : ∀ c : Byte, ∀ value ∈ digit 16 c, unhexDigit c = BitVec.ofNat 8 value ∧ value < 16 := by
  decide +kernel

theorem joined_digits : ∀ high < 16, ∀ low < 16,
    (BitVec.ofNat 8 high <<< 4 ||| BitVec.ofNat 8 low) = BitVec.ofNat 8 (16 * high + low) := by
  decide

/-- The decoded bytes never reach text that has not been read. -/
theorem unhexify_decodes {packet : Buffer} {length : Nat} {bytes : Nat → Byte} (encodes : Encodes packet length bytes)
    {size idx : Nat} {buffer : Buffer} (inside : idx + size = length) (unread : ∀ j ≥ 32 + 2 * idx, buffer j = packet j)
    (decoded : ∀ i < idx, buffer i = bytes i) :
    ∀ i < length, unhexifyInPlace 32 size idx buffer i = bytes i := by
  induction size generalizing idx buffer with
  | zero =>
    intro i place
    exact decoded i (by omega)
  | succ size ih =>
    obtain ⟨high, low, first, second, byte⟩ := encodes idx (by omega)
    obtain ⟨one, highSmall⟩ := unhexDigit_digit _ high first
    obtain ⟨two, lowSmall⟩ := unhexDigit_digit _ low second
    have value : (unhexDigit (buffer (32 + 2 * idx)) <<< 4) ||| unhexDigit (buffer (32 + 2 * idx + 1)) = bytes idx := by
      have next : 32 + 2 * idx + 1 = 33 + 2 * idx := by omega
      rw [next, unread _ (Nat.le_refl _), unread (33 + 2 * idx) (by omega), one, two, byte]
      exact joined_digits high highSmall low lowSmall
    rw [unhexifyInPlace, value]
    apply ih (by omega)
    · intro j later
      rw [Buffer.set_other _ _ (by omega)]
      exact unread j (by omega)
    · intro i earlier
      by_cases here : i = idx
      · rw [here, Buffer.set_self]
      · rw [Buffer.set_other _ _ here]
        exact decoded i (by omega)

end Decoding

section Modes

/-- The CSW that a transfer is made with. -/
def effective (csw : BitVec 32) (align : Nat) : BitVec 32 := csw ||| 0x10#32 ||| cswSize align

theorem and_low (word : BitVec 32) (mask : BitVec 6) :
    word &&& mask.setWidth 32 = (word.setWidth 6).setWidth 32 &&& mask.setWidth 32 := by
  ext i inside
  by_cases low : i < 6
  · simp [low, BitVec.getLsbD_eq_getElem inside]
  · simp [BitVec.getLsbD_of_ge mask i (Nat.le_of_not_lt low)]

/-- The access size and the increment mode come from the low bits. -/
theorem effective_low (csw : BitVec 32) (align : Nat) (mask : BitVec 6) :
    effective csw align &&& mask.setWidth 32 = effective ((csw.setWidth 6).setWidth 32) align &&& mask.setWidth 32 := by
  rw [and_low, and_low (effective ((csw.setWidth 6).setWidth 32) align)]
  simp only [effective, BitVec.setWidth_or]
  congr 4
  ext i inside
  simp

theorem plain_low (csw : BitVec 32) (align : Nat) :
    plain (effective csw align) = plain (effective ((csw.setWidth 6).setWidth 32) align) := by
  have size : effective csw align &&& 7#32 = _ := effective_low csw align 7#6
  have increment : effective csw align &&& 0x30#32 = _ := effective_low csw align 0x30#6
  rw [plain, size, increment]
  rfl

theorem accessBytes_low (csw : BitVec 32) (align : Nat) :
    accessBytes (effective csw align) = accessBytes (effective ((csw.setWidth 6).setWidth 32) align) := by
  have size : effective csw align &&& 7#32 = _ := effective_low csw align 7#6
  rw [accessBytes, size]
  rfl

theorem fits_low (csw : BitVec 32) (align : Nat) : Fits csw align ↔ Fits ((csw.setWidth 6).setWidth 32) align := by
  have masked : csw &&& 0x27#32 = _ := and_low csw 0x27#6
  rw [Fits, masked]
  rfl

instance (csw : BitVec 32) (align : Nat) : Decidable (Fits csw align) := inferInstanceAs (Decidable (_ = _))

/-- A CSW fits where it gives accesses of the element's size that increment the address. -/
theorem fits_plain (csw : BitVec 32) {align : Nat} (small : align < 3) :
    Fits csw align ↔ plain (effective csw align) = true ∧ accessBytes (effective csw align) = 1 <<< align := by
  have modes : ∀ low : BitVec 6, ∀ align < 3, Fits (low.setWidth 32) align ↔
      plain (effective (low.setWidth 32) align) = true ∧
        accessBytes (effective (low.setWidth 32) align) = 1 <<< align := by
    decide +kernel
  rw [fits_low, plain_low, accessBytes_low]
  exact modes _ align small

/-- The accesses are never narrower than a word for wider elements, nor narrower than the element for others. -/
theorem plain_size {csw : BitVec 32} {align : Nat} (small : align < 4) (mode : plain (effective csw align) = true) :
    accessBytes (effective csw align) = 1 <<< min align 2 ∨
      align = 0 ∧ (accessBytes (effective csw align) = 2 ∨ accessBytes (effective csw align) = 4) := by
  have modes : ∀ low : BitVec 6, ∀ align < 4, plain (effective (low.setWidth 32) align) = true →
      accessBytes (effective (low.setWidth 32) align) = 1 <<< min align 2 ∨ align = 0 ∧
        (accessBytes (effective (low.setWidth 32) align) = 2 ∨ accessBytes (effective (low.setWidth 32) align) = 4) := by
    decide +kernel
  rw [plain_low] at mode
  rw [accessBytes_low]
  exact modes _ align small mode

end Modes

section Transfers

variable {device : Device} {ap : AccessPort} {align : Nat} {state : State}

/-- The port is addressed, with the CSW of the transfer. -/
structure Reached (ap : AccessPort) (align : Nat) (state : State) : Prop where
  apsel : (state.select >>> 24).setWidth 8 = ap.apsel
  bank : state.select &&& 0xf0#32 = 0#32
  csw : state.csw = effective ap.csw align

theorem setup_shape {addr : Nat} (fits : addr < 2 ^ 32) :
    apMemAccessSetup device ap state addr align =
      { state with
        select := ap.apsel.setWidth 32 <<< 24, csw := effective ap.csw align, tar := addr } := by
  have apsel := select_apsel ap.apsel
  have bank := select_bank ap.apsel
  simpa [apMemAccessSetup, effective, lowWrite, AccessPort.addressed, MemAp.adiv5ApWrite, MemAp.adiv5DpLowAccess,
    MemAp.apWrite, MemAp.adiv5DpSelect, adiv5ApCsw, adiv5ApTar, apsel, bank] using fits

theorem setup_reached {addr : Nat} (fits : addr < 2 ^ 32) :
    Reached ap align (apMemAccessSetup device ap state addr align) := by
  rw [setup_shape fits]
  exact ⟨select_apsel ap.apsel, select_bank ap.apsel, rfl⟩

namespace Reached

theorem drw_write (reached : Reached ap align state) (value : BitVec 32) :
    lowWrite device ap state adiv5ApDrw value =
      { state with
        memory := MemAp.writeLanes state value, tar := MemAp.nextTar device.toDevice state.csw state.tar } := by
  simp [lowWrite, AccessPort.addressed, MemAp.adiv5DpLowAccess, adiv5ApDrw, MemAp.apWrite, reached.apsel, reached.bank]

theorem tar_write (reached : Reached ap align state) {addr : Nat} (fits : addr < 2 ^ 32) :
    lowWrite device ap state adiv5ApTar (BitVec.ofNat 32 addr) = { state with tar := addr } := by
  simpa [lowWrite, AccessPort.addressed, MemAp.adiv5DpLowAccess, adiv5ApTar, MemAp.apWrite, reached.apsel,
    reached.bank] using fits

theorem moved (reached : Reached ap align state) (memory : Nat → Byte) (tar : Nat) :
    Reached ap align { state with memory := memory, tar := tar } := ⟨reached.apsel, reached.bank, reached.csw⟩

end Reached

end Transfers

section CompleteWrites

variable {device : Device} {ap : AccessPort} {align : Nat}

/-- The element width of an alignment code that has a case of its own. -/
def codeAlign : Nat → Align
  | 0 => .bit8
  | 1 => .bit16
  | _ => .bit32

theorem codeAlign_narrow (align : Nat) : Narrow (codeAlign align) := by
  unfold codeAlign
  split <;> simp [Narrow]

theorem codeAlign_toNat (small : align < 3) : (codeAlign align).toNat = align := by
  interval_cases align <;> rfl

theorem codeAlign_bytes (small : align < 3) : (codeAlign align).bytes = 1 <<< align := by
  rw [Align.bytes, codeAlign_toNat small]

theorem pack_code (small : align < 3) (dest : Nat) (src : Buffer) (index : Nat) :
    adiv5PackData dest src index align = MemAp.adiv5PackData dest src index (codeAlign align) := by
  interval_cases align <;> rfl

/-- An element of its own width goes the way of `adiv5_mem_write` with a port that the driver has set up. -/
theorem writeElement_code (small : align < 3) {src : Buffer} {writing : Writing}
    (mode : plain writing.port.csw = true) (level : writing.port.tar % accessBytes writing.port.csw = 0) :
    writeElement device ap align src writing =
      MemAp.writeElement device.toDevice ap.addressed (codeAlign align) src writing := by
  have pack := pack_code small writing.dest src writing.index
  simp only [writeElement, MemAp.writeElement, pack, drwWrite, if_pos (And.intro mode level), codeAlign_bytes small,
    lowWrite]

theorem writeElement_reached {src : Buffer} {writing : Writing} (reached : Reached ap align writing.port)
    (mode : plain writing.port.csw = true) (level : writing.port.tar % accessBytes writing.port.csw = 0) :
    Reached ap align (writeElement device ap align src writing).port := by
  have small : (writing.dest + 1 <<< align) % 2 ^ 32 < 2 ^ 32 := Nat.mod_lt _ (by decide)
  simp only [writeElement, drwWrite, if_pos (And.intro mode level), reached.drw_write, (reached.moved _ _).tar_write small]
  split
  · exact reached.moved _ _
  · exact reached.moved _ _

variable {start : Nat} {src : Buffer} {content : Nat → Byte}

theorem writeElements_code (device : Device) (small : align < 3) (fits : Fits ap.csw align) (bound : start < 2 ^ 32)
    (aligned : start % (1 <<< align) = 0) (more : Nat) {count : Nat} {writing : Writing}
    (room : (count + more) * 1 <<< align ≤ 2 ^ 32) (reached : Reached ap align writing.port)
    (written : Written ap.addressed (codeAlign align) start src content count writing) :
    Written ap.addressed (codeAlign align) start src content (count + more)
      (writeElements device ap align src more writing) := by
  obtain ⟨mode, size⟩ := (fits_plain ap.csw small).mp fits
  have bytes := codeAlign_bytes small
  induction more generalizing count writing with
  | zero => exact written
  | succ more ih =>
    have total : count + (more + 1) = count + 1 + more := by omega
    have first : (count + 1) * (codeAlign align).bytes ≤ 2 ^ 32 := by
      rw [bytes]
      exact (Nat.mul_le_mul_right _ (by omega)).trans room
    have narrow := codeAlign_narrow align
    have plainHere : plain writing.port.csw = true := by rw [reached.csw, mode]
    have level : writing.port.tar % accessBytes writing.port.csw = 0 := by
      have element := element_address narrow (by rw [bytes, aligned]) written.dest
      rw [reached.csw, size, written.tar, ← bytes]
      exact element.aligned
    rw [total] at room ⊢
    have next := writeElement_written device.toDevice narrow bound (by rw [bytes, aligned]) first written
    rw [← writeElement_code small plainHere level] at next
    exact ih room (writeElement_reached reached plainHere level) next

/-- A write with a code that has a case of its own, and a CSW that fits, is complete. -/
theorem write_complete (small : align < 3) (fits : Fits ap.csw align) {dest len : Nat} (state : State)
    (bound : dest < 2 ^ 32) (short : len < 2 ^ 32) (aligned : 2 ^ align ∣ dest) (divides : 2 ^ align ∣ len) {a : Nat}
    (inside : a < 2 ^ 32) :
    (adiv5MemWriteBytes device ap dest src len align state).memory a = overlay state.memory dest len src a := by
  have power : 1 <<< align = 2 ^ align := Nat.one_shiftLeft _
  have bytes := codeAlign_bytes small
  have size := ((fits_plain ap.csw small).mp fits).2
  have increment := ((fits_plain ap.csw small).mp fits).1
  have elements : (len >>> align) * 1 <<< align = len := by
    rw [Nat.shiftRight_eq_div_pow, power, Nat.div_mul_cancel divides]
  have first : Written ap.addressed (codeAlign align) dest src state.memory 0
      ⟨0, dest, dest, apMemAccessSetup device ap state dest align⟩ := by
    rw [setup_shape bound]
    refine ⟨⟨select_apsel ap.apsel, select_bank ap.apsel, size.trans bytes.symm, ?_⟩, ?_, ?_, ?_, rfl, bound, rfl⟩
    · simp only [plain, decide_eq_true_eq] at increment
      exact increment.2
    · rw [Nat.zero_mul, Nat.add_zero, Nat.mod_eq_of_lt bound]
    · exact (Nat.zero_mul _).symm
    · intro a _
      simp [overlay]
  have room : (0 + len >>> align) * 1 <<< align ≤ 2 ^ 32 := by
    rw [Nat.zero_add, elements]
    exact Nat.le_of_lt short
  have level : dest % (1 <<< align) = 0 := by
    rw [power]
    exact Nat.mod_eq_zero_of_dvd aligned
  have written := writeElements_code device small fits bound level (len >>> align) room (setup_reached bound) first
  have final := written.memory a inside
  rw [Nat.zero_add, bytes, elements] at final
  exact final

end CompleteWrites

section LostBytes

variable {ap : AccessPort} {align start count : Nat}

/-- A port that ignores the accesses that the architecture leaves open. -/
def refusing : Device := ⟨⟨fun _ => 0, fun _ => 0⟩, fun state _ => state⟩

theorem strides (small : align < 4) :
    1 <<< align = 1 ∨ 1 <<< align = 2 ∨ 1 <<< align = 4 ∨ align = 3 ∧ 1 <<< align = 8 := by
  interval_cases align <;> simp

/-- The head of the write loop where the address register lags behind: the last byte is still as it was. -/
structure Behind (ap : AccessPort) (align start last : Nat) (value : Byte) (count : Nat) (writing : Writing) : Prop where
  reached : Reached ap align writing.port
  dest : writing.dest = (start + count * 1 <<< align) % 2 ^ 32
  untouched : writing.port.memory last = value
  below : writing.port.tar ≤ writing.dest
  page : writing.port.tar / 1024 = writing.dest / 1024
  origin : writing.odest < 2 ^ 32
  originPage : writing.odest / 1024 = writing.dest / 1024

/-- What one data access leaves of a write that lags behind. -/
structure Lagging (last : Nat) (value : Byte) (stride : Nat) (dest : Nat) (before after : State) : Prop where
  frame : after = { before with memory := after.memory, tar := after.tar }
  untouched : after.memory last = value
  below : after.tar ≤ dest + stride
  page : after.tar / 1024 = dest / 1024

theorem element_lags {last len : Nat} {value : Byte} {writing : Writing} (small : align < 4)
    (wide : plain (effective ap.csw align) = true → align = 3) (aligned : start % (1 <<< align) = 0)
    (place : last = (start + len - 1) % 2 ^ 32) (limit : len ≤ 1024) (room : (count + 1) * 1 <<< align ≤ len)
    (behind : Behind ap align start last value count writing) (word : BitVec 32) :
    Lagging last value (1 <<< align) writing.dest writing.port (drwWrite refusing ap writing.port word) := by
  have dest := behind.dest
  have below := behind.below
  have page := behind.page
  by_cases mode : plain writing.port.csw = true ∧ writing.port.tar % accessBytes writing.port.csw = 0
  · rw [drwWrite, if_pos mode, behind.reached.drw_write]
    obtain ⟨increments, level⟩ := mode
    have increment : writing.port.csw &&& 0x30#32 = 0x10#32 := by
      simp only [plain, decide_eq_true_eq] at increments
      exact increments.2
    rw [behind.reached.csw] at increments level
    have code := wide increments
    subst code
    have size : accessBytes (effective ap.csw 3) = 4 := by
      rcases plain_size (by decide) increments with word | narrow
      · exact word
      · exact absurd narrow.1 (by decide)
    have stride : 1 <<< 3 = 8 := rfl
    rw [stride] at dest aligned room
    have next : MemAp.nextTar refusing.toDevice writing.port.csw writing.port.tar = writing.port.tar + 4 := by
      rw [MemAp.nextTar, if_pos increment, behind.reached.csw, size, if_pos (by omega)]
    refine ⟨rfl, ?_, ?_, ?_⟩
    · have outside : ¬ (writing.port.tar ≤ last ∧ last < writing.port.tar + 4) := by omega
      simp only [MemAp.writeLanes, behind.reached.csw, size, if_neg outside]
      exact behind.untouched
    · simp only [next, stride]
      omega
    · simp only [next]
      omega
  · rw [drwWrite, if_neg mode]
    exact ⟨rfl, behind.untouched, below.trans (Nat.le_add_right _ _), behind.page⟩

theorem writeElement_behind {last len : Nat} {value : Byte} {src : Buffer} {writing : Writing} (small : align < 4)
    (wide : plain (effective ap.csw align) = true → align = 3) (aligned : start % (1 <<< align) = 0)
    (place : last = (start + len - 1) % 2 ^ 32) (limit : len ≤ 1024) (room : (count + 1) * 1 <<< align ≤ len)
    (behind : Behind ap align start last value count writing) :
    Behind ap align start last value (count + 1) (writeElement refusing ap align src writing) := by
  have lags := element_lags small wide aligned place limit room behind
    (adiv5PackData writing.dest src writing.index align).1
  have dest := behind.dest
  have fits : (writing.dest + 1 <<< align) % 2 ^ 32 < 2 ^ 32 := Nat.mod_lt _ (by decide)
  have next : (writing.dest + 1 <<< align) % 2 ^ 32 = (start + (count + 1) * 1 <<< align) % 2 ^ 32 := by
    rw [Nat.succ_mul]
    omega
  have inside : writing.dest + 1 <<< align ≤ 2 ^ 32 := by
    rcases strides small with stride | stride | stride | ⟨_, stride⟩ <;> rw [stride] at dest aligned ⊢ <;> omega
  have moved := behind.reached.moved
  have frame := lags.frame
  simp only [writeElement]
  generalize drwWrite refusing ap writing.port (adiv5PackData writing.dest src writing.index align).1 = port at lags frame ⊢
  have reached : Reached ap align port := by
    rw [frame]
    exact moved _ _
  split
  next crossed =>
    rw [reached.tar_write fits]
    exact ⟨⟨reached.apsel, reached.bank, reached.csw⟩, next, lags.untouched, Nat.le_refl _, rfl, fits, rfl⟩
  next stayed =>
    have samePage : (writing.dest + 1 <<< align) % 2 ^ 32 / 1024 = writing.odest / 1024 := by
      by_contra different
      exact stayed ((xor_page_ne_zero fits behind.origin).mpr different)
    have page := behind.originPage
    have below := lags.below
    have tarPage := lags.page
    have short : 0 < 1 <<< align ∧ 1 <<< align ≤ 8 := by
      rcases strides small with stride | stride | stride | ⟨_, stride⟩ <;> rw [stride] <;> decide
    have plainSum : (writing.dest + 1 <<< align) % 2 ^ 32 = writing.dest + 1 <<< align := by omega
    refine ⟨reached, next, lags.untouched, ?_, ?_, behind.origin, samePage.symm⟩
    · simp only [plainSum]
      exact below
    · rw [tarPage, samePage, page]

theorem writeElements_behind {last len : Nat} {value : Byte} {src : Buffer} (small : align < 4)
    (wide : plain (effective ap.csw align) = true → align = 3) (aligned : start % (1 <<< align) = 0)
    (place : last = (start + len - 1) % 2 ^ 32) (limit : len ≤ 1024) (more : Nat) {count : Nat} {writing : Writing}
    (room : (count + more) * 1 <<< align ≤ len) (behind : Behind ap align start last value count writing) :
    Behind ap align start last value (count + more) (writeElements refusing ap align src more writing) := by
  induction more generalizing count writing with
  | zero => exact behind
  | succ more ih =>
    have total : count + (more + 1) = count + 1 + more := by omega
    rw [total] at room ⊢
    have first : (count + 1) * 1 <<< align ≤ (count + 1 + more) * 1 <<< align :=
      Nat.mul_le_mul_right _ (Nat.le_add_right _ _)
    exact ih room (writeElement_behind small wide aligned place limit (first.trans room) behind)

/-- Where the code has no case of its own, or the CSW spoils the accesses, the last byte can stay as it was. -/
theorem last_untouched (small : align < 4) (wide : plain (effective ap.csw align) = true → align = 3) {dest len : Nat}
    (src : Buffer) (state : State) (bound : dest < 2 ^ 32) (limit : len ≤ 1024) (aligned : 2 ^ align ∣ dest)
    (divides : 2 ^ align ∣ len) :
    (adiv5MemWriteBytes refusing ap dest src len align state).memory ((dest + len - 1) % 2 ^ 32) =
      state.memory ((dest + len - 1) % 2 ^ 32) := by
  have power : 1 <<< align = 2 ^ align := Nat.one_shiftLeft _
  have elements : (0 + len >>> align) * 1 <<< align ≤ len := by
    rw [Nat.zero_add, Nat.shiftRight_eq_div_pow, power, Nat.div_mul_cancel divides]
  have level : dest % (1 <<< align) = 0 := by
    rw [power]
    exact Nat.mod_eq_zero_of_dvd aligned
  have first : Behind ap align dest ((dest + len - 1) % 2 ^ 32) (state.memory ((dest + len - 1) % 2 ^ 32)) 0
      ⟨0, dest, dest, apMemAccessSetup refusing ap state dest align⟩ := by
    have start : dest = (dest + 0 * 1 <<< align) % 2 ^ 32 := by
      rw [Nat.zero_mul, Nat.add_zero, Nat.mod_eq_of_lt bound]
    refine ⟨setup_reached bound, start, ?_, ?_, ?_, bound, rfl⟩
    · simp only [setup_shape bound]
    · simp only [setup_shape bound]
      exact Nat.le_refl _
    · simp only [setup_shape bound]
  exact (writeElements_behind small wide level rfl limit (len >>> align) elements first).untouched

end LostBytes

section OverwrittenBytes

variable {ap : AccessPort} {src : Buffer}

/-- A port that clears its memory at accesses that the architecture leaves open, as those after the end of a page are. -/
def clearing : Device := ⟨⟨fun _ => 1, fun _ => 0⟩, fun state _ => { state with memory := fun _ => 0#8 }⟩

/-- The same place of the write loop over another memory. -/
def hosted (writing : Writing) (memory : Nat → Byte) : Writing :=
  { writing with port := { writing.port with memory := memory } }

/-- The head of a loop of byte elements in two memories: nothing that lies between the destination and the address
register can tell them apart, and after an access that is left open nothing at all. -/
structure Merging (ap : AccessPort) (writing : Writing) (one two : Nat → Byte) : Prop where
  reached : Reached ap 0 writing.port
  bound : writing.port.tar < 2 ^ 32
  merged : one = two ∨ writing.port.tar % 2 = 1 ∨
    writing.dest ≤ writing.port.tar ∧ ∀ a, writing.dest ≤ a → a < writing.port.tar → one a = two a

/-- After one more element the memories agree at the next destination, which the element does not belong to. -/
structure Merged (ap : AccessPort) (src : Buffer) (before : Writing) (one two : Nat → Byte) (after : Writing)
    (oneAfter twoAfter : Nat → Byte) : Prop where
  first : writeElement clearing ap 0 src (hosted before one) = hosted after oneAfter
  second : writeElement clearing ap 0 src (hosted before two) = hosted after twoAfter
  dest : after.dest = (before.dest + 1) % 2 ^ 32
  merging : Merging ap after oneAfter twoAfter
  same : oneAfter after.dest = twoAfter after.dest

/-- The next place of the loop, where the access has left the address register at a given address. -/
def advance (writing : Writing) (tar : Nat) : Writing :=
  let dest := (writing.dest + 1) % 2 ^ 32
  let crossed := (dest ^^^ writing.odest) &&& 0xfffffc00 ≠ 0
  { index := writing.index + 1, dest := dest, odest := if crossed then dest else writing.odest,
    port := { writing.port with tar := if crossed then dest else tar } }

theorem advance_port (writing : Writing) (tar : Nat) :
    (advance writing tar).port.tar = (writing.dest + 1) % 2 ^ 32 ∨ (advance writing tar).port.tar = tar := by
  simp only [advance]
  split
  · exact .inl rfl
  · exact .inr rfl

theorem writeElement_advances {writing : Writing} {memory memoryAfter : Nat → Byte} {tar : Nat}
    (reached : Reached ap 0 writing.port)
    (access : drwWrite clearing ap (hosted writing memory).port (adiv5PackData writing.dest src writing.index 0).1 =
      { writing.port with memory := memoryAfter, tar := tar }) :
    writeElement clearing ap 0 src (hosted writing memory) = hosted (advance writing tar) memoryAfter := by
  have small : (writing.dest + 1) % 2 ^ 32 < 2 ^ 32 := Nat.mod_lt _ (by decide)
  have load : (drwWrite clearing ap (hosted writing memory).port
      (adiv5PackData (hosted writing memory).dest src (hosted writing memory).index 0).1) = _ := access
  simp only [writeElement, load]
  have stride : (hosted writing memory).dest + 1 <<< 0 = writing.dest + 1 := rfl
  have origin : (hosted writing memory).odest = writing.odest := rfl
  rw [stride, origin, (reached.moved _ _).tar_write small]
  by_cases crossed : ((writing.dest + 1) % 2 ^ 32 ^^^ writing.odest) &&& 0xfffffc00 ≠ 0
  · simp only [if_pos crossed, advance, hosted]
    rfl
  · simp only [if_neg crossed, advance, hosted]
    rfl

/-- An access that is left open makes the memories the same. -/
theorem open_merges {writing : Writing} {one two : Nat → Byte} (merging : Merging ap writing one two)
    (mode : ¬ (plain writing.port.csw = true ∧ writing.port.tar % accessBytes writing.port.csw = 0)) :
    ∃ after oneAfter twoAfter, Merged ap src writing one two after oneAfter twoAfter := by
  have access : ∀ memory, drwWrite clearing ap (hosted writing memory).port
      (adiv5PackData writing.dest src writing.index 0).1 =
        { writing.port with memory := fun _ => 0#8, tar := writing.port.tar } := by
    intro memory
    have hostedMode : ¬ (plain (hosted writing memory).port.csw = true ∧
        (hosted writing memory).port.tar % accessBytes (hosted writing memory).port.csw = 0) := mode
    rw [drwWrite, if_neg hostedMode]
    rfl
  refine ⟨advance writing writing.port.tar, fun _ => 0#8, fun _ => 0#8, ?_⟩
  refine ⟨writeElement_advances merging.reached (access one), writeElement_advances merging.reached (access two), rfl,
    ⟨merging.reached.moved _ _, ?_, .inl rfl⟩, rfl⟩
  rcases advance_port writing writing.port.tar with reloaded | kept
  · rw [reloaded]
    exact Nat.mod_lt _ (by decide)
  · rw [kept]
    exact merging.bound

/-- A wider access sets the byte behind the element. -/
theorem wide_merges {writing : Writing} {one two : Nat → Byte} (merging : Merging ap writing one two)
    (mode : plain writing.port.csw = true) (level : writing.port.tar % accessBytes writing.port.csw = 0)
    (wide : accessBytes writing.port.csw = 2 ∨ accessBytes writing.port.csw = 4) :
    ∃ after oneAfter twoAfter, Merged ap src writing one two after oneAfter twoAfter := by
  have bound := merging.bound
  have increment : writing.port.csw &&& 0x30#32 = 0x10#32 := by
    simp only [plain, decide_eq_true_eq] at mode
    exact mode.2
  have access : ∀ memory, drwWrite clearing ap (hosted writing memory).port
      (adiv5PackData writing.dest src writing.index 0).1 =
        { writing.port with
          memory := MemAp.writeLanes (hosted writing memory).port (adiv5PackData writing.dest src writing.index 0).1
          tar := MemAp.nextTar clearing.toDevice writing.port.csw writing.port.tar } := by
    intro memory
    have hostedMode : plain (hosted writing memory).port.csw = true ∧
        (hosted writing memory).port.tar % accessBytes (hosted writing memory).port.csw = 0 := ⟨mode, level⟩
    have reached : Reached ap 0 (hosted writing memory).port := merging.reached.moved _ _
    rw [drwWrite, if_pos hostedMode, reached.drw_write]
    rfl
  have next : MemAp.nextTar clearing.toDevice writing.port.csw writing.port.tar < 2 ^ 32 ∧
      (MemAp.nextTar clearing.toDevice writing.port.csw writing.port.tar = 1 ∨
        MemAp.nextTar clearing.toDevice writing.port.csw writing.port.tar =
          writing.port.tar + accessBytes writing.port.csw) := by
    simp only [MemAp.nextTar, if_pos increment]
    split
    · exact ⟨by omega, .inr rfl⟩
    · exact ⟨Nat.lt_of_lt_of_eq (Nat.one_lt_two_pow (by decide)) rfl, .inl rfl⟩
  generalize MemAp.nextTar clearing.toDevice writing.port.csw writing.port.tar = tar at access next
  have agree (value : BitVec 32) : one = two ∨ writing.dest ≤ writing.port.tar ∧
      ∀ a, writing.dest ≤ a → a < writing.port.tar + accessBytes writing.port.csw →
        MemAp.writeLanes (hosted writing one).port value a = MemAp.writeLanes (hosted writing two).port value a := by
    rcases merging.merged with equal | odd | ⟨below, agree⟩
    · exact .inl equal
    · rcases wide with half | word
      · rw [half] at level
        omega
      · rw [word] at level
        omega
    · refine .inr ⟨below, fun a low high => ?_⟩
      by_cases inside : writing.port.tar ≤ a ∧ a < writing.port.tar + accessBytes writing.port.csw
      · exact (if_pos inside).trans (if_pos inside).symm
      · have kept := agree a low (by omega)
        exact (if_neg inside).trans (kept.trans (if_neg inside).symm)
  have even : writing.port.tar % 2 = 0 := by
    rcases wide with half | word
    · rwa [half] at level
    · rw [word] at level
      omega
  have after := advance_port writing tar
  have agree := agree (adiv5PackData writing.dest src writing.index 0).1
  have size : 2 ≤ accessBytes writing.port.csw := by omega
  refine ⟨advance writing tar, _, _, writeElement_advances merging.reached (access one),
    writeElement_advances merging.reached (access two), rfl, ⟨merging.reached.moved _ _, ?_, ?_⟩, ?_⟩
  · rcases after with reloaded | kept
    · rw [reloaded]
      exact Nat.mod_lt _ (by decide)
    · rw [kept]
      exact next.1
  · rcases agree with equal | ⟨below, agree⟩
    · exact .inl (by rw [equal])
    · have dest : (advance writing tar).dest = writing.dest + 1 := Nat.mod_eq_of_lt (by omega)
      have plainDest : (writing.dest + 1) % 2 ^ 32 = writing.dest + 1 := dest
      rw [dest]
      rcases after with reloaded | kept
      · rw [reloaded, plainDest]
        exact .inr (.inr ⟨Nat.le_refl _, fun a low high => absurd high (Nat.not_lt.mpr low)⟩)
      · rw [kept]
        rcases next.2 with boundary | inside
        · exact .inr (.inl (by rw [boundary]))
        · rw [inside]
          exact .inr (.inr ⟨by omega, fun a low high => agree a (by omega) high⟩)
  · rcases agree with equal | ⟨below, agree⟩
    · rw [equal]
    · have dest : (advance writing tar).dest = writing.dest + 1 := Nat.mod_eq_of_lt (by omega)
      rw [dest]
      exact agree _ (by omega) (by omega)

/-- Byte elements are written with wider accesses. -/
def Wide (ap : AccessPort) : Prop :=
  plain (effective ap.csw 0) = true ∧ (accessBytes (effective ap.csw 0) = 2 ∨ accessBytes (effective ap.csw 0) = 4)

theorem element_merges (src : Buffer) (wide : Wide ap) {writing : Writing} {one two : Nat → Byte}
    (merging : Merging ap writing one two) :
    ∃ after oneAfter twoAfter, Merged ap src writing one two after oneAfter twoAfter := by
  by_cases mode : plain writing.port.csw = true ∧ writing.port.tar % accessBytes writing.port.csw = 0
  · have size := wide.2
    rw [← merging.reached.csw] at size
    exact wide_merges merging mode.1 mode.2 size
  · exact open_merges merging mode

theorem elements_merge (src : Buffer) (wide : Wide ap) (more : Nat) {writing : Writing} {one two : Nat → Byte}
    (bound : writing.dest < 2 ^ 32) (merging : Merging ap writing one two)
    (same : one writing.dest = two writing.dest) :
    (writeElements clearing ap 0 src more (hosted writing one)).port.memory ((writing.dest + more) % 2 ^ 32) =
      (writeElements clearing ap 0 src more (hosted writing two)).port.memory ((writing.dest + more) % 2 ^ 32) := by
  induction more generalizing writing one two with
  | zero =>
    rw [Nat.add_zero, Nat.mod_eq_of_lt bound]
    exact same
  | succ more ih =>
    obtain ⟨after, oneAfter, twoAfter, merged⟩ := element_merges src wide merging
    have small : after.dest < 2 ^ 32 := by
      rw [merged.dest]
      exact Nat.mod_lt _ (by decide)
    have rest := ih small merged.merging merged.same
    have place : (writing.dest + (more + 1)) % 2 ^ 32 = (after.dest + more) % 2 ^ 32 := by
      rw [merged.dest]
      omega
    rw [writeElements, writeElements, merged.first, merged.second, place]
    exact rest

/-- With accesses wider than the bytes, what is behind the data does not stay: it is the same whatever it was. -/
theorem next_overwritten (src : Buffer) (wide : Wide ap) {dest len : Nat} (bound : dest < 2 ^ 32) (positive : 0 < len)
    (state : State) (one two : Nat → Byte) :
    (adiv5MemWriteBytes clearing ap dest src len 0 { state with memory := one }).memory ((dest + len) % 2 ^ 32) =
      (adiv5MemWriteBytes clearing ap dest src len 0 { state with memory := two }).memory ((dest + len) % 2 ^ 32) := by
  obtain ⟨more, rfl⟩ := Nat.exists_eq_succ_of_ne_zero (Nat.ne_of_gt positive)
  have start : ∀ memory, MemAp.Writing.mk 0 dest dest
      (apMemAccessSetup clearing ap { state with memory := memory } dest 0) =
        hosted ⟨0, dest, dest, apMemAccessSetup clearing ap state dest 0⟩ memory := by
    intro memory
    rw [setup_shape bound, setup_shape bound]
    rfl
  have merging : Merging ap ⟨0, dest, dest, apMemAccessSetup clearing ap state dest 0⟩ one two := by
    have tar : (apMemAccessSetup clearing ap state dest 0).tar = dest := by rw [setup_shape bound]
    refine ⟨setup_reached bound, ?_, .inr (.inr ⟨?_, ?_⟩)⟩
    · simp only [tar]
      exact bound
    · simp only [tar]
      exact Nat.le_refl _
    · intro a low high
      simp only [tar] at high
      exact absurd high (Nat.not_lt.mpr low)
  obtain ⟨after, oneAfter, twoAfter, merged⟩ := element_merges src wide merging
  have small : after.dest < 2 ^ 32 := by
    rw [merged.dest]
    exact Nat.mod_lt _ (by decide)
  have rest := elements_merge src wide more small merged.merging merged.same
  have second : after.dest = (dest + 1) % 2 ^ 32 := merged.dest
  have place : (dest + (more + 1)) % 2 ^ 32 = (after.dest + more) % 2 ^ 32 := by
    rw [second]
    omega
  have run : ∀ memory, (adiv5MemWriteBytes clearing ap dest src (more + 1) 0 { state with memory := memory }).memory =
      (writeElements clearing ap 0 src more (writeElement clearing ap 0 src
        (hosted ⟨0, dest, dest, apMemAccessSetup clearing ap state dest 0⟩ memory))).port.memory := by
    intro memory
    rw [← start]
    rfl
  rw [Nat.succ_eq_add_one, run, run, merged.first, merged.second, place]
  exact rest

end OverwrittenBytes

section CompletePackets

theorem hton_digit : ∀ c : Byte, isHex c = true → (hton c).toNat < 16 := by
  decide +kernel

theorem digits_bound (packet : Buffer) (max place ret : Nat) :
    remoteHexDigits packet max place ret < (ret + 1) * 16 ^ max := by
  induction max generalizing place ret with
  | zero => simp [remoteHexDigits]
  | succ max ih =>
    rw [remoteHexDigits]
    split
    next hex =>
      have small := hton_digit _ hex
      have rest := ih (place + 1) (ret * 16 + (hton (packet place)).toNat)
      have step : (ret * 16 + (hton (packet place)).toNat + 1) * 16 ^ max ≤ ((ret + 1) * 16) * 16 ^ max :=
        Nat.mul_le_mul_right _ (by omega)
      calc remoteHexDigits packet max (place + 1) (ret * 16 + (hton (packet place)).toNat)
          < (ret * 16 + (hton (packet place)).toNat + 1) * 16 ^ max := rest
        _ ≤ ((ret + 1) * 16) * 16 ^ max := step
        _ = (ret + 1) * 16 ^ (max + 1) := by rw [Nat.pow_succ, Nat.mul_assoc, Nat.mul_comm 16]
    next =>
      have positive : 0 < 16 ^ (max + 1) := Nat.pow_pos (by decide)
      exact Nat.lt_of_lt_of_le (Nat.lt_succ_self ret) (Nat.le_mul_of_pos_right _ positive)

theorem dest_bound (packet : Buffer) : packetDest packet < 2 ^ 32 :=
  Nat.lt_of_lt_of_eq (digits_bound packet 8 16 0) rfl

theorem misaligned_length (length align : Nat) : length &&& (1 <<< align - 1) ≠ 0 ↔ ¬ 2 ^ align ∣ length := by
  rw [Nat.one_shiftLeft, Nat.and_two_pow_sub_one_eq_mod, Nat.dvd_iff_mod_eq_zero]

variable {packet : Buffer} {packetLen : Nat} {bytes : Nat → Byte}

theorem admitted_result (admissible : Admissible packet packetLen bytes) (device : Device) (state : State) :
    remoteMemWrite device packet packetLen state =
      some (.ok, unhexifyInPlace 32 (packetLength packet) 0 packet,
        adiv5MemWriteBytes device (packetAp packet) (packetDest packet)
          (unhexifyInPlace 32 (packetLength packet) 0 packet) (packetLength packet) (packetAlign packet) state) := by
  have whole := admissible.whole
  have code := admissible.align
  have divides : ¬ packetLength packet &&& (1 <<< packetAlign packet - 1) ≠ 0 := by
    rw [misaligned_length, not_not]
    exact admissible.length
  simp only [remoteMemWrite]
  rw [if_neg (by omega), if_neg (Nat.not_lt.mpr admissible.limit), if_neg (by omega), if_neg divides]

theorem admitted_decodes (admissible : Admissible packet packetLen bytes) :
    ∀ i < packetLength packet, unhexifyInPlace 32 (packetLength packet) 0 packet i = bytes i :=
  unhexify_decodes admissible.data (Nat.zero_add _) (fun _ _ => rfl) (fun _ never => absurd never (Nat.not_lt_zero _))

/-- A write carries its data where the target's memory becomes the overlay. -/
theorem carried_iff (admissible : Admissible packet packetLen bytes) (device : Device) (state : State) :
    (∃ data after, Carried device packet packetLen bytes state data after) ↔
      ∀ a < 2 ^ 32, (adiv5MemWriteBytes device (packetAp packet) (packetDest packet)
        (unhexifyInPlace 32 (packetLength packet) 0 packet) (packetLength packet) (packetAlign packet) state).memory a =
          overlay state.memory (packetDest packet) (packetLength packet) bytes a := by
  constructor
  · rintro ⟨data, after, carried⟩
    have result := carried.result
    rw [admitted_result admissible, Option.some.injEq, Prod.mk.injEq, Prod.mk.injEq] at result
    obtain ⟨_, _, rfl⟩ := result
    exact carried.memory
  · intro memory
    exact ⟨_, _, admitted_result admissible device state, admitted_decodes admissible, memory⟩

theorem carried_when (admissible : Admissible packet packetLen bytes)
    (good : packetLength packet = 0 ∨ packetAlign packet ≠ 3 ∧ Fits (packetAp packet).csw (packetAlign packet))
    (device : Device) (state : State) : ∃ data after, Carried device packet packetLen bytes state data after := by
  rw [carried_iff admissible]
  intro a inside
  have bound := dest_bound packet
  rcases good with empty | ⟨code, fits⟩
  · rw [empty]
    simp only [adiv5MemWriteBytes, Nat.zero_shiftRight, writeElements, setup_shape bound, overlay, Nat.not_lt_zero,
      if_false]
    rfl
  · have small : packetAlign packet < 3 := by
      have admitted := admissible.align
      omega
    have short : packetLength packet < 2 ^ 32 := Nat.lt_of_le_of_lt admissible.limit (by decide)
    rw [write_complete small fits state bound short admissible.dest admissible.length inside, overlay, overlay]
    split
    next within => exact admitted_decodes admissible _ within
    next => rfl

theorem distance_last {dest len : Nat} (bound : dest < 2 ^ 32) (positive : 0 < len) (limit : len ≤ 1024) :
    distance dest ((dest + len - 1) % 2 ^ 32) = len - 1 := by
  simp only [distance]
  omega

theorem distance_next {dest len : Nat} (bound : dest < 2 ^ 32) (limit : len ≤ 1024) :
    distance dest ((dest + len) % 2 ^ 32) = len := by
  simp only [distance]
  omega

theorem good_when (admissible : Admissible packet packetLen bytes)
    (carried : ∀ device state, ∃ data after, Carried device packet packetLen bytes state data after) :
    packetLength packet = 0 ∨ packetAlign packet ≠ 3 ∧ Fits (packetAp packet).csw (packetAlign packet) := by
  by_contra bad
  obtain ⟨nonempty, spoilt⟩ := not_or.mp bad
  have positive := Nat.pos_of_ne_zero nonempty
  have bound := dest_bound packet
  have small : packetAlign packet < 4 := Nat.lt_succ_of_le admissible.align
  have modulus : ∀ a, a % 2 ^ 32 < 2 ^ 32 := fun _ => Nat.mod_lt _ (by decide)
  by_cases lags : plain (effective (packetAp packet).csw (packetAlign packet)) = true → packetAlign packet = 3
  · let state : State := ⟨0#32, 0#32, 0, 0#32, fun _ => bytes (packetLength packet - 1) + 1#8⟩
    have written := (carried_iff admissible refusing state).mp (carried refusing state) _
      (modulus (packetDest packet + packetLength packet - 1))
    have kept := last_untouched small lags (unhexifyInPlace 32 (packetLength packet) 0 packet) state bound admissible.limit
      admissible.dest admissible.length
    rw [kept, overlay, distance_last bound positive admissible.limit, if_pos (by omega)] at written
    have other : ∀ byte : Byte, byte + 1#8 ≠ byte := by decide
    exact other _ written
  · obtain ⟨mode, code⟩ := Classical.not_imp.mp lags
    have narrow : packetAlign packet < 3 := by omega
    rcases plain_size small mode with size | ⟨zero, size⟩
    · rw [Nat.min_eq_left (by omega)] at size
      exact spoilt ⟨code, (fits_plain _ narrow).mpr ⟨mode, size⟩⟩
    · rw [zero] at mode size
      let state : State := ⟨0#32, 0#32, 0, 0#32, fun _ => 0#8⟩
      have next := next_overwritten (unhexifyInPlace 32 (packetLength packet) 0 packet) ⟨mode, size⟩ bound positive
        state (fun _ => 0#8) (fun _ => 1#8)
      have first := (carried_iff admissible clearing { state with memory := fun _ => 0#8 }).mp (carried _ _) _
        (modulus (packetDest packet + packetLength packet))
      have second := (carried_iff admissible clearing { state with memory := fun _ => 1#8 }).mp (carried _ _) _
        (modulus (packetDest packet + packetLength packet))
      rw [overlay, distance_next bound admissible.limit, if_neg (Nat.lt_irrefl _), zero] at first second
      rw [first, second] at next
      have apart : 0#8 ≠ 1#8 := by decide
      exact apart next

theorem refused_iff (device : Device) (state : State) (code : 3 < packetAlign packet) :
    remoteMemWrite device packet packetLen state = some (.parErr, packet, state) ↔
      packetLen < 8 ∨ 1024 < packetLength packet ∨
        packetAlign packet < 32 ∧ ¬ 2 ^ packetAlign packet ∣ packetLength packet := by
  have misaligned := misaligned_length (packetLength packet) (packetAlign packet)
  simp only [remoteMemWrite]
  split_ifs with short long wide odd
  · simp [short]
  · simp [long]
  · simp only [false_iff]
    omega
  · simp only [true_iff]
    exact .inr (.inr ⟨by omega, misaligned.mp odd⟩)
  · simp only [Option.some.injEq, Prod.mk.injEq, reduceCtorEq, false_and, false_iff]
    rw [misaligned] at odd
    omega

theorem complete_iff (packet : Buffer) (packetLen : Nat) :
    Complete packet packetLen ↔
      ((∃ bytes, Admissible packet packetLen bytes) →
        packetLength packet = 0 ∨ packetAlign packet ≠ 3 ∧ Fits (packetAp packet).csw (packetAlign packet)) ∧
      (3 < packetAlign packet → packetLen < 8 ∨ 1024 < packetLength packet ∨
        packetAlign packet < 32 ∧ ¬ 2 ^ packetAlign packet ∣ packetLength packet) := by
  constructor
  · intro complete
    constructor
    · rintro ⟨bytes, admissible⟩
      exact good_when admissible (complete.carried bytes admissible)
    · intro code
      exact (refused_iff refusing ⟨0#32, 0#32, 0, 0#32, fun _ => 0#8⟩ code).mp (complete.refused code _ _)
  · rintro ⟨good, refused⟩
    constructor
    · intro bytes admissible device state
      exact carried_when admissible (good ⟨bytes, admissible⟩) device state
    · intro code device state
      exact (refused_iff device state code).mpr (refused code)

/-- Eight bytes to `20000000` as one double word. -/
def dwordPacket : Buffer := fun i => (ascii "AM0000000000000320000000000000081122334455667788").getD i 0#8

theorem dword_admissible : Admissible dwordPacket 48 fun i => BitVec.ofNat 8 (16 * (i + 1) + (i + 1)) := by
  have length : packetLength dwordPacket = 8 := by decide +kernel
  have align : packetAlign dwordPacket = 3 := by decide +kernel
  have dest : packetDest dwordPacket = 0x20000000 := by decide +kernel
  have text : ∀ i < 8, digit 16 (dwordPacket (32 + 2 * i)) = some (i + 1) ∧
      digit 16 (dwordPacket (33 + 2 * i)) = some (i + 1) := by decide +kernel
  constructor
  · rw [length]
  · rw [length]
    decide
  · rw [align]
  · rw [align, dest]
    decide
  · rw [align, length]
    decide
  · intro i inside
    rw [length] at inside
    obtain ⟨high, low⟩ := text i inside
    exact ⟨i + 1, i + 1, high, low, rfl⟩

/-- Double words are admitted, but only every other word is written, and in the wrong place. -/
theorem dword_incomplete : ¬ Complete dwordPacket 48 := by
  intro complete
  have length : packetLength dwordPacket = 8 := by decide +kernel
  have align : packetAlign dwordPacket = 3 := by decide +kernel
  rcases good_when dword_admissible (complete.carried _ dword_admissible) with empty | good
  · rw [length] at empty
    cases empty
  · exact good.1 align

end CompletePackets

end BlackMagic.Proofs.RemoteWrites
