import BlackMagic.MemAp

/-! Block transfers through a MEM-AP move exactly the bytes they name. At the head
of each loop the port is one element ahead of a read, and level with a write; the
address register is only trusted inside the page of the address last written to it. -/

namespace BlackMagic.Proofs.MemApTransfer
open BlackMagic.MemAp Lib.Words

variable {device : Device} {ap : AccessPort} {align : Align}

/-- The widths one `DRW` access can have. -/
def Narrow (align : Align) : Prop := align ≠ .bit64

instance : DecidablePred Narrow := fun _ => inferInstanceAs (Decidable (_ ≠ _))

@[simp] theorem bytes_bit8 : Align.bytes .bit8 = 1 := rfl
@[simp] theorem bytes_bit16 : Align.bytes .bit16 = 2 := rfl
@[simp] theorem bytes_bit32 : Align.bytes .bit32 = 4 := rfl

theorem bytes_cases (narrow : Narrow align) : align.bytes = 1 ∨ align.bytes = 2 ∨ align.bytes = 4 := by
  cases align with
  | bit8 => exact .inl rfl
  | bit16 => exact .inr (.inl rfl)
  | bit32 => exact .inr (.inr rfl)
  | bit64 => exact absurd rfl narrow

theorem bytes_le (narrow : Narrow align) : 0 < align.bytes ∧ align.bytes ≤ 4 := by
  rcases bytes_cases narrow with width | width | width <;> omega

/-- The port is addressed by the driver and set up for elements of the given width. -/
structure Selected (ap : AccessPort) (align : Align) (port : State) : Prop where
  apsel : (port.select >>> 24).setWidth 8 = ap.apsel
  bank : port.select &&& 0xf0#32 = 0#32
  size : accessBytes port.csw = align.bytes
  increment : port.csw &&& 0x30#32 = 0x10#32

private theorem bare_size (ap : AccessPort) (align : Align) :
    (ap.csw ||| 0x10#32 ||| cswSize align) &&& 7#32 = cswSize align := by
  have low : 7#32 &&& ap.csw = 0#32 := by
    have masked := congrArg (fun word => 7#32 &&& word) ap.bare
    rw [BitVec.and_comm ap.csw, ← BitVec.and_assoc] at masked
    simpa using masked
  rw [BitVec.and_comm, BitVec.and_or_distrib_left, BitVec.and_or_distrib_left, low]
  cases align <;> rfl

private theorem bare_increment (ap : AccessPort) (align : Align) :
    (ap.csw ||| 0x10#32 ||| cswSize align) &&& 0x30#32 = 0x10#32 := by
  have low : 0x30#32 &&& ap.csw = 0#32 := by
    have masked := congrArg (fun word => 0x30#32 &&& word) ap.bare
    rw [BitVec.and_comm ap.csw, ← BitVec.and_assoc] at masked
    simpa using masked
  rw [BitVec.and_comm, BitVec.and_or_distrib_left, BitVec.and_or_distrib_left, low]
  cases align <;> rfl

theorem select_apsel (apsel : BitVec 8) : ((apsel.setWidth 32 <<< 24) >>> 24).setWidth 8 = apsel := by
  apply BitVec.eq_of_getLsbD_eq
  intro i bit
  have fits : 24 + i < 32 := by omega
  simp [bit, fits]

theorem select_bank (apsel : BitVec 8) : (apsel.setWidth 32 <<< 24) &&& 0xf0#32 = 0#32 := by
  apply BitVec.eq_of_getLsbD_eq
  intro i bit
  by_cases low : i < 24
  · simp [BitVec.getLsbD_shiftLeft, low]
  · have high : (0xf0#32).getLsbD i = false := by
      have large : 24 ≤ i := by omega
      interval_cases i <;> rfl
    simp [high]

theorem setup_selected (narrow : Narrow align) (state : State) (addr : Nat) (fits : addr < 2 ^ 32) :
    Selected ap align (apMemAccessSetup device ap state addr align) ∧
      (apMemAccessSetup device ap state addr align).tar = addr ∧
      (apMemAccessSetup device ap state addr align).memory = state.memory := by
  have apsel := select_apsel ap.apsel
  have bank := select_bank ap.apsel
  have size : accessBytes (ap.csw ||| 0x10#32 ||| cswSize align) = align.bytes := by
    simp only [accessBytes, bare_size]
    cases align with
    | bit8 => rfl
    | bit16 => rfl
    | bit32 => rfl
    | bit64 => exact absurd rfl narrow
  have shape : apMemAccessSetup device ap state addr align =
      { state with
        select := ap.apsel.setWidth 32 <<< 24, csw := ap.csw ||| 0x10#32 ||| cswSize align, tar := addr } := by
    simpa [apMemAccessSetup, adiv5ApWrite, adiv5DpLowAccess, apWrite, adiv5DpSelect, adiv5ApCsw, adiv5ApTar, apsel,
      bank] using fits
  rw [shape]
  exact ⟨⟨apsel, bank, size, bare_increment ap align⟩, rfl, rfl⟩

namespace Selected

variable {port : State}

theorem drw_read (selected : Selected ap align port) (value : BitVec 32) :
    adiv5DpLowAccess device ap port true adiv5ApDrw value =
      (port.posted, { port with posted := readLanes device port, tar := nextTar device port.csw port.tar }) := by
  simp [adiv5DpLowAccess, adiv5ApDrw, apRead, selected.apsel, selected.bank]

theorem drw_write (selected : Selected ap align port) (value : BitVec 32) :
    (adiv5DpLowAccess device ap port false adiv5ApDrw value).2 =
      { port with memory := writeLanes port value, tar := nextTar device port.csw port.tar } := by
  simp [adiv5DpLowAccess, adiv5ApDrw, apWrite, selected.apsel, selected.bank]

theorem tar_write (selected : Selected ap align port) {addr : Nat} (fits : addr < 2 ^ 32) :
    (adiv5DpLowAccess device ap port false adiv5ApTar (BitVec.ofNat 32 addr)).2 = { port with tar := addr } := by
  simpa [adiv5DpLowAccess, adiv5ApTar, apWrite, selected.apsel, selected.bank] using fits

theorem nextTar_inside (selected : Selected ap align port)
    (inside : (port.tar + align.bytes) / 1024 = port.tar / 1024) :
    nextTar device port.csw port.tar = port.tar + align.bytes := by
  simp [nextTar, selected.increment, selected.size, inside]

/-- A read leaves the bytes of the element in the lanes of its address. -/
theorem readLanes_lane (selected : Selected ap align port) (narrow : Narrow align)
    (aligned : port.tar % align.bytes = 0) {j : Nat} (inside : j < align.bytes) :
    byteOf (readLanes device port) (port.tar % 4 + j) = port.memory (port.tar + j) := by
  have bound : port.tar % 4 + j < 4 := by
    rcases bytes_cases narrow with width | width | width <;> simp only [width] at aligned inside <;> omega
  have lane : port.tar % 4 ≤ port.tar % 4 + j ∧ port.tar % 4 + j < port.tar % 4 + align.bytes := by omega
  have place : port.tar - port.tar % 4 + (port.tar % 4 + j) = port.tar + j := by
    have := Nat.mod_le port.tar 4
    omega
  rw [readLanes, byteOf_ofLanes _ bound, selected.size, if_pos lane, place]

end Selected

theorem rdbuff_read (port : State) (value : BitVec 32) :
    adiv5DpLowAccess device ap port true adiv5DpRdbuff value = (port.posted, port) := rfl

private theorem and_three (x : Nat) : x &&& 3 = x % 4 := Nat.and_two_pow_sub_one_eq_mod x 2

private theorem and_two {x : Nat} (even : x % 2 = 0) : x &&& 2 = x % 4 := by
  have low : x % 4 = 0 ∨ x % 4 = 2 := by omega
  have split : (x &&& 3) &&& 2 = x &&& 2 := by rw [Nat.and_assoc]; rfl
  rw [← split, and_three]
  rcases low with zero | two
  · rw [zero]; rfl
  · rw [two]; rfl

/-- An element is stored from the lanes of its source address. -/
theorem unpack_stores (narrow : Narrow align) (dest : Buffer) (index : Nat) {src : Nat} (data : BitVec 32)
    (aligned : src % align.bytes = 0) (i : Nat) :
    (adiv5UnpackData dest index src data align).1 i =
      if index ≤ i ∧ i < index + align.bytes then byteOf data (src % 4 + (i - index)) else dest i := by
  cases align with
  | bit8 =>
    simp only [adiv5UnpackData, memcpyWord, bytes_bit8, and_three]
    refine ite_congr rfl (fun inside => ?_) (fun _ => rfl)
    have first : i - index = 0 := by omega
    rw [first, byteOf_mask (by decide), byteOf_ushiftRight]
  | bit16 =>
    simp only [adiv5UnpackData, memcpyWord, bytes_bit16, and_two aligned]
    refine ite_congr rfl (fun inside => ?_) (fun _ => rfl)
    have half : i - index = 0 ∨ i - index = 1 := by omega
    have ones : ∀ b < 8, (0xffff#32).getLsbD (8 * (i - index) + b) = true := by
      rcases half with first | second
      · rw [first]; decide
      · rw [second]; decide
    rw [byteOf_mask ones, byteOf_ushiftRight]
  | bit32 =>
    have zero : src % 4 = 0 := aligned
    simp [adiv5UnpackData, memcpyWord, zero]
  | bit64 => exact absurd rfl narrow

@[simp] theorem unpack_index (dest : Buffer) (index src : Nat) (data : BitVec 32) :
    (adiv5UnpackData dest index src data align).2 = index + align.bytes := by
  cases align <;> rfl

private theorem byteOf_loadWord (src : Buffer) (index : Nat) {count lane : Nat} (inside : lane < count)
    (narrow : count ≤ 4) : byteOf (loadWord src index count) lane = src (index + lane) := by
  rw [loadWord, byteOf_ofLanes _ (by omega), if_pos inside]

/-- An element is placed in the lanes of its destination address. -/
theorem pack_lane (narrow : Narrow align) {dest : Nat} (src : Buffer) (index : Nat)
    (aligned : dest % align.bytes = 0) {j : Nat} (inside : j < align.bytes) :
    byteOf (adiv5PackData dest src index align).1 (dest % 4 + j) = src (index + j) := by
  cases align with
  | bit8 =>
    have first : j < 1 := inside
    simp only [adiv5PackData, and_three]
    rw [byteOf_shiftLeft _ (by omega), byteOf_loadWord _ _ first (by decide)]
  | bit16 =>
    have half : j < 2 := inside
    have even : dest % 2 = 0 := aligned
    simp only [adiv5PackData, and_two even]
    rw [byteOf_shiftLeft _ (by omega), byteOf_loadWord _ _ half (by decide)]
  | bit32 =>
    have zero : dest % 4 = 0 := aligned
    have word : j < 4 := inside
    rw [zero, Nat.zero_add]
    exact byteOf_loadWord _ _ word (by decide)
  | bit64 => exact absurd rfl narrow

@[simp] theorem pack_index (dest : Nat) (src : Buffer) (index : Nat) :
    (adiv5PackData dest src index align).2 = index + align.bytes := by
  cases align <;> rfl

/-- The element at `addr` has been read and is posted; unless it is the last of its
page, the address register stands at the element after it. -/
structure Ahead (ap : AccessPort) (align : Align) (content : Nat → Byte) (addr : Nat) (port : State) : Prop where
  selected : Selected ap align port
  memory : port.memory = content
  posted : ∀ j < align.bytes, byteOf port.posted (addr % 4 + j) = content (addr + j)
  tar : (addr + align.bytes) / 1024 = addr / 1024 → port.tar = addr + align.bytes

theorem drw_ahead (device : Device) (narrow : Narrow align) {port : State} {content : Nat → Byte} {addr : Nat}
    (selected : Selected ap align port) (memory : port.memory = content) (tar : port.tar = addr)
    (aligned : addr % align.bytes = 0) :
    Ahead ap align content addr (adiv5DpLowAccess device ap port true adiv5ApDrw 0#32).2 := by
  subst tar memory
  rw [selected.drw_read]
  exact ⟨⟨selected.apsel, selected.bank, selected.size, selected.increment⟩, rfl,
    fun j inside => selected.readLanes_lane narrow aligned inside, fun inside => selected.nextTar_inside inside⟩

/-- The head of the read loop after `count` elements: what they held is stored, and
the port is ahead at the element to come. -/
structure Read (ap : AccessPort) (align : Align) (dest : Buffer) (start : Nat) (content : Nat → Byte)
    (count : Nat) (reading : Reading) : Prop where
  src : reading.src = (start + count * align.bytes) % 2 ^ 32
  index : reading.index = count * align.bytes
  stored : ∀ i, reading.dest i = if i < count * align.bytes then content ((start + i) % 2 ^ 32) else dest i
  port : Ahead ap align content reading.src reading.port
  origin : reading.osrc < 2 ^ 32
  page : reading.osrc / 1024 = reading.src / 1024

/-- A transfer address stays aligned, and its element does not wrap. -/
structure Element (align : Align) (start count addr : Nat) : Prop where
  aligned : addr % align.bytes = 0
  fits : addr + align.bytes ≤ 2 ^ 32
  next : (addr + align.bytes) % 2 ^ 32 = (start + (count + 1) * align.bytes) % 2 ^ 32
  byte : ∀ j < align.bytes, addr + j = (start + (count * align.bytes + j)) % 2 ^ 32

theorem element_address (narrow : Narrow align) {start : Nat} (aligned : start % align.bytes = 0) {count addr : Nat}
    (place : addr = (start + count * align.bytes) % 2 ^ 32) : Element align start count addr := by
  subst place
  rcases bytes_cases narrow with width | width | width <;> rw [width] at aligned
  all_goals
    constructor <;> simp only [width]
    all_goals omega

/-- The address after an element stays in its page exactly when the loop does not
reload the address register; it does not wrap then. -/
private theorem same_page (narrow : Narrow align) {addr origin : Nat} (fits : addr + align.bytes ≤ 2 ^ 32)
    (bound : origin < 2 ^ 32) (page : origin / 1024 = addr / 1024)
    (inside : ¬ (((addr + align.bytes) % 2 ^ 32) ^^^ origin) &&& 0xfffffc00 ≠ 0) :
    (addr + align.bytes) % 2 ^ 32 = addr + align.bytes ∧ (addr + align.bytes) / 1024 = addr / 1024 := by
  have samePage : (addr + align.bytes) % 2 ^ 32 / 1024 = origin / 1024 := by
    by_contra different
    exact inside ((xor_page_ne_zero (Nat.mod_lt _ (by decide)) bound).mpr different)
  have short := bytes_le narrow
  omega

/-- Storing the posted element extends the stored prefix by it. -/
theorem unpack_extends (narrow : Narrow align) {dest : Buffer} {start count : Nat} {content : Nat → Byte}
    {reading : Reading} (aligned : start % align.bytes = 0) (read : Read ap align dest start content count reading)
    (i : Nat) :
    (adiv5UnpackData reading.dest reading.index reading.src reading.port.posted align).1 i =
      if i < (count + 1) * align.bytes then content ((start + i) % 2 ^ 32) else dest i := by
  have element := element_address narrow aligned read.src
  rw [unpack_stores narrow _ _ _ element.aligned, read.index, read.stored i, Nat.succ_mul]
  by_cases old : i < count * align.bytes
  · rw [if_neg (by omega), if_pos old, if_pos (by omega)]
  · by_cases new : i < count * align.bytes + align.bytes
    · have lane := read.port.posted (i - count * align.bytes) (by omega)
      have offset : count * align.bytes + (i - count * align.bytes) = i := by omega
      rw [element.byte _ (by omega), offset] at lane
      rw [if_pos ⟨by omega, new⟩, if_pos new, lane]
    · rw [if_neg (by omega), if_neg old, if_neg new]

theorem readElement_read (device : Device) (narrow : Narrow align) {dest : Buffer} {start count : Nat}
    {content : Nat → Byte} {reading : Reading} (aligned : start % align.bytes = 0)
    (read : Read ap align dest start content count reading) :
    Read ap align dest start content (count + 1) (readElement device ap align reading) := by
  have element := element_address narrow aligned read.src
  have next := element_address narrow aligned element.next
  have stored := unpack_extends narrow aligned read
  have nextFits : (reading.src + align.bytes) % 2 ^ 32 < 2 ^ 32 := Nat.mod_lt _ (by decide)
  have selected := read.port.selected
  have index : (adiv5UnpackData reading.dest reading.index reading.src reading.port.posted align).2 =
      (count + 1) * align.bytes := by
    rw [unpack_index, read.index, Nat.succ_mul]
  simp only [readElement, selected.drw_read]
  split
  next crossed =>
    have moved : Selected ap align { reading.port with
        posted := readLanes device reading.port, tar := nextTar device reading.port.csw reading.port.tar } :=
      ⟨selected.apsel, selected.bank, selected.size, selected.increment⟩
    rw [moved.tar_write nextFits]
    have port := drw_ahead device narrow
      (⟨selected.apsel, selected.bank, selected.size, selected.increment⟩ : Selected ap align { reading.port with
        posted := readLanes device reading.port, tar := (reading.src + align.bytes) % 2 ^ 32 })
      read.port.memory rfl next.aligned
    exact ⟨element.next, index, stored, port, nextFits, rfl⟩
  next inside =>
    obtain ⟨plain, samePage⟩ := same_page narrow element.fits read.origin read.page inside
    have tar : reading.port.tar = (reading.src + align.bytes) % 2 ^ 32 := by rw [plain, read.port.tar samePage]
    have port := drw_ahead device narrow selected read.port.memory tar next.aligned
    rw [selected.drw_read] at port
    refine ⟨element.next, index, stored, port, read.origin, ?_⟩
    rw [plain, samePage, read.page]

theorem readElements_read (device : Device) (narrow : Narrow align) {dest : Buffer} {start : Nat}
    {content : Nat → Byte} (aligned : start % align.bytes = 0) (more : Nat) {count : Nat} {reading : Reading}
    (read : Read ap align dest start content count reading) :
    Read ap align dest start content (count + more) (readElements device ap align more reading) := by
  induction more generalizing count reading with
  | zero => exact read
  | succ more ih =>
    have rest := ih (readElement_read device narrow aligned read)
    rwa [Nat.add_assoc, Nat.add_comm 1 more] at rest

theorem elements_bytes {len : Nat} (align : Align) (divides : align.bytes ∣ len) :
    (len >>> align.toNat) * align.bytes = len := by
  have power : align.bytes = 2 ^ align.toNat := Nat.one_shiftLeft _
  rw [Nat.shiftRight_eq_div_pow, ← power]
  exact Nat.div_mul_cancel divides

theorem minAlign_divides (src len : Nat) :
    Narrow (minAlign src len) ∧ src % (minAlign src len).bytes = 0 ∧ (minAlign src len).bytes ∣ len := by
  have one : ∀ x, x &&& 1 = x % 2 := fun x => Nat.and_two_pow_sub_one_eq_mod x 1
  simp only [minAlign, alignOf, and_three, one, Nat.dvd_iff_mod_eq_zero]
  split_ifs <;> simp_all [Align.toNat, Narrow] <;> omega

theorem read_stores (device : Device) (ap : AccessPort) (dest : Buffer) {src len : Nat} (state : State)
    (fits : src < 2 ^ 32) (nonempty : 0 < len) (i : Nat) :
    (advi5MemReadBytes device ap dest src len state).1 i =
      if i < len then state.memory ((src + i) % 2 ^ 32) else dest i := by
  obtain ⟨narrow, aligned, divides⟩ := minAlign_divides src len
  have bytes := elements_bytes _ divides
  obtain ⟨selected, tar, memory⟩ : Selected ap _ _ ∧ _ ∧ _ := setup_selected narrow state src fits
  have port := drw_ahead device narrow selected memory tar aligned
  have start : Read ap (minAlign src len) dest src state.memory 0
      ⟨dest, 0, src, src, (adiv5DpLowAccess device ap (apMemAccessSetup device ap state src (minAlign src len)) true
        adiv5ApDrw 0#32).2⟩ :=
    ⟨by rw [Nat.zero_mul, Nat.add_zero, Nat.mod_eq_of_lt fits], (Nat.zero_mul _).symm, by simp, port, fits, rfl⟩
  have positive : 0 < len >>> (minAlign src len).toNat := by
    by_contra none
    rw [Nat.eq_zero_of_not_pos none, Nat.zero_mul] at bytes
    omega
  have read := readElements_read device narrow aligned (len >>> (minAlign src len).toNat - 1) start
  have stored := unpack_extends narrow aligned read i
  rw [Nat.zero_add, Nat.sub_add_cancel positive, bytes] at stored
  simp only [advi5MemReadBytes, if_neg (Nat.ne_of_gt nonempty), rdbuff_read]
  exact stored

/-- How far past `start` an address lies, going up through the end of the address
space. -/
def distance (start a : Nat) : Nat := (a + 2 ^ 32 - start) % 2 ^ 32

/-- Memory with the first `count` bytes of a buffer written from `start` on. -/
def overlay (content : Nat → Byte) (start count : Nat) (src : Buffer) : Nat → Byte :=
  fun a => if distance start a < count then src (distance start a) else content a

/-- The head of the write loop after `count` elements. -/
structure Written (ap : AccessPort) (align : Align) (start : Nat) (src : Buffer) (content : Nat → Byte)
    (count : Nat) (writing : Writing) : Prop where
  selected : Selected ap align writing.port
  dest : writing.dest = (start + count * align.bytes) % 2 ^ 32
  index : writing.index = count * align.bytes
  memory : ∀ a < 2 ^ 32, writing.port.memory a = overlay content start (count * align.bytes) src a
  tar : writing.port.tar = writing.dest
  origin : writing.odest < 2 ^ 32
  page : writing.odest / 1024 = writing.dest / 1024

/-- Writing the element to come extends the overlay by it. -/
theorem pack_extends (narrow : Narrow align) {start count : Nat} {src : Buffer} {content : Nat → Byte}
    {writing : Writing} (bound : start < 2 ^ 32) (aligned : start % align.bytes = 0)
    (room : (count + 1) * align.bytes ≤ 2 ^ 32) (written : Written ap align start src content count writing)
    {a : Nat} (fits : a < 2 ^ 32) :
    writeLanes writing.port (adiv5PackData writing.dest src writing.index align).1 a =
      overlay content start ((count + 1) * align.bytes) src a := by
  have element := element_address narrow aligned written.dest
  have place := written.dest
  have noWrap := element.fits
  rw [Nat.succ_mul] at room ⊢
  simp only [writeLanes, written.tar, written.selected.size, written.memory a fits, overlay]
  by_cases here : writing.dest ≤ a ∧ a < writing.dest + align.bytes
  · have offset : distance start a = count * align.bytes + (a - writing.dest) := by
      simp only [distance]
      omega
    have lane : a % 4 = writing.dest % 4 + (a - writing.dest) := by
      have level := element.aligned
      rcases bytes_cases narrow with width | width | width <;> rw [width] at here level <;> omega
    rw [if_pos here, offset, if_pos (by omega), lane, pack_lane narrow src writing.index element.aligned (by omega),
      written.index]
  · have outside : distance start a < count * align.bytes ↔
        distance start a < count * align.bytes + align.bytes := by
      simp only [distance]
      omega
    simp only [if_neg here, outside]

theorem writeElement_written (device : Device) (narrow : Narrow align) {start count : Nat} {src : Buffer}
    {content : Nat → Byte} {writing : Writing} (bound : start < 2 ^ 32) (aligned : start % align.bytes = 0)
    (room : (count + 1) * align.bytes ≤ 2 ^ 32) (written : Written ap align start src content count writing) :
    Written ap align start src content (count + 1) (writeElement device ap align src writing) := by
  have element := element_address narrow aligned written.dest
  have memory := fun a (fits : a < 2 ^ 32) => pack_extends narrow bound aligned room written fits
  have nextFits : (writing.dest + align.bytes) % 2 ^ 32 < 2 ^ 32 := Nat.mod_lt _ (by decide)
  have selected := written.selected
  have index : (adiv5PackData writing.dest src writing.index align).2 = (count + 1) * align.bytes := by
    rw [pack_index, written.index, Nat.succ_mul]
  have moved : Selected ap align { writing.port with
      memory := writeLanes writing.port (adiv5PackData writing.dest src writing.index align).1
      tar := nextTar device writing.port.csw writing.port.tar } :=
    ⟨selected.apsel, selected.bank, selected.size, selected.increment⟩
  simp only [writeElement, selected.drw_write]
  split
  next crossed =>
    rw [moved.tar_write nextFits]
    exact ⟨⟨selected.apsel, selected.bank, selected.size, selected.increment⟩, element.next, index, memory, rfl,
      nextFits, rfl⟩
  next inside =>
    obtain ⟨plain, samePage⟩ := same_page narrow element.fits written.origin written.page inside
    refine ⟨moved, element.next, index, memory, ?_, written.origin, ?_⟩
    · rw [plain]
      exact (selected.nextTar_inside (by rw [written.tar, samePage])).trans (by rw [written.tar])
    · rw [plain, samePage, written.page]

theorem writeElements_written (device : Device) (narrow : Narrow align) {start : Nat} {src : Buffer}
    {content : Nat → Byte} (bound : start < 2 ^ 32) (aligned : start % align.bytes = 0) (more : Nat) {count : Nat}
    {writing : Writing} (room : (count + more) * align.bytes ≤ 2 ^ 32)
    (written : Written ap align start src content count writing) :
    Written ap align start src content (count + more) (writeElements device ap align src more writing) := by
  induction more generalizing count writing with
  | zero => exact written
  | succ more ih =>
    have total : count + (more + 1) = count + 1 + more := by omega
    rw [total] at room ⊢
    have first : (count + 1) * align.bytes ≤ (count + 1 + more) * align.bytes :=
      Nat.mul_le_mul_right _ (Nat.le_add_right _ _)
    exact ih room (writeElement_written device narrow bound aligned (first.trans room) written)

theorem write_overlays (device : Device) (ap : AccessPort) (narrow : Narrow align) {dest len : Nat} (src : Buffer)
    (state : State) (bound : dest < 2 ^ 32) (short : len < 2 ^ 32) (aligned : align.bytes ∣ dest)
    (divides : align.bytes ∣ len) {a : Nat} (fits : a < 2 ^ 32) :
    (adiv5MemWriteBytes device ap dest src len align state).memory a = overlay state.memory dest len src a := by
  have bytes := elements_bytes align divides
  obtain ⟨selected, tar, memory⟩ : Selected ap _ _ ∧ _ ∧ _ := setup_selected narrow state dest bound
  have start : Written ap align dest src state.memory 0
      ⟨0, dest, dest, apMemAccessSetup device ap state dest align⟩ :=
    ⟨selected, by rw [Nat.zero_mul, Nat.add_zero, Nat.mod_eq_of_lt bound], (Nat.zero_mul _).symm,
      fun a _ => by simp [memory, overlay], tar, bound, rfl⟩
  have room : (0 + len >>> align.toNat) * align.bytes ≤ 2 ^ 32 := by
    rw [Nat.zero_add, bytes]
    exact Nat.le_of_lt short
  have written := writeElements_written device narrow bound (Nat.mod_eq_zero_of_dvd aligned) _ room start
  have final := written.memory a fits
  rw [Nat.zero_add, bytes] at final
  simp only [adiv5MemWriteBytes, rdbuff_read]
  exact final

/-- Block reads store exactly the memory they name and nothing else, and block
writes change exactly the memory they name to the source bytes. -/
theorem block_transfers (device : Device) (ap : AccessPort) (state : State) :
    (∀ (dest : Buffer) (src len : Nat), src < 2 ^ 32 → 0 < len → src + len ≤ 2 ^ 32 →
      ∀ i, (advi5MemReadBytes device ap dest src len state).1 i =
        if i < len then state.memory (src + i) else dest i) ∧
    (∀ (align : Align) (dest len : Nat) (src : Buffer), Narrow align → dest < 2 ^ 32 → len < 2 ^ 32 →
      align.bytes ∣ dest → align.bytes ∣ len →
      ∀ a < 2 ^ 32, (adiv5MemWriteBytes device ap dest src len align state).memory a =
        if distance dest a < len then src (distance dest a) else state.memory a) := by
  constructor
  · intro dest src len bound nonempty fits i
    rw [read_stores device ap dest state bound nonempty i]
    refine ite_congr rfl (fun inside => ?_) (fun _ => rfl)
    rw [Nat.mod_eq_of_lt (by omega)]
  · intro align dest len src narrow bound short aligned divides a fits
    exact write_overlays device ap narrow src state bound short aligned divides fits

/-- A read of seven bytes across a page, and a halfword write next to it. -/
theorem page_crossing_transfers :
    let device : Device := ⟨fun _ => 0, fun _ => 0xdeadbeef#32⟩
    let ap := adiv5NewAp 0#8 0x03000052#32
    let state : State := ⟨0#32, 0#32, 0, 0#32, fun a => BitVec.ofNat 8 a⟩
    (advi5MemReadBytes device ap (fun _ => 0#8) 0x200003fd 7 state).1 5 = 2#8 ∧
      (adiv5MemWriteBytes device ap 0x200003fe (fun i => BitVec.ofNat 8 (0x41 + i)) 4 .bit16 state).memory 0x20000401 =
        0x44#8 := by
  intro device ap state
  obtain ⟨reads, writes⟩ := block_transfers device ap state
  constructor
  · rw [reads _ _ _ (by decide) (by decide) (by decide)]
    rfl
  · rw [writes .bit16 _ _ _ (by decide) (by decide) (by decide) (by decide) (by decide) _ (by decide)]
    rfl

end BlackMagic.Proofs.MemApTransfer
