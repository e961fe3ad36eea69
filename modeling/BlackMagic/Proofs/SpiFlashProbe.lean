import BlackMagic.SpiFlash

/-! Which SPI Flash devices are added to a target as well-formed regions. The content that the stack happens to have stands for
whatever has not been read from the device: a region that is the same for every such content depends on the device only. -/

namespace BlackMagic.Proofs.SpiFlashProbe
open Flash SpiFlash

section Specification

/-- The bytes of a parameter table in the device, whether or not the table is said to be that long. -/
def wholeTable (device : Device) (header : SfdpParameterTableHeader) : SfdpBasicParameterTable :=
  sfdpBasicParameterTable fun i => device.sfdp (header.address.toNat + i)

/-- The first erase type with the opcode of the sector erase. -/
def sectorEraseType (table : SfdpBasicParameterTable) : Option EraseParameters :=
  table.eraseTypes.find? fun eraseType => eraseType.opcode == table.sectorEraseOpcode

/-- The number of bits that a density word stands for. -/
def densityBits (density : List Byte) : Nat :=
  if densityIsExponential density then 2 ^ (densityValue density).toNat else (densityValue density).toNat + 1

/-- The number of bytes that a driver takes an ID for; the RP2040 driver guesses where it cannot decode it. -/
def idBytes (id : SpiFlashId) : Driver → Nat
  | .rp => if 8 ≤ id.capacity.toNat ∧ id.capacity.toNat ≤ 34 then 2 ^ id.capacity.toNat else maxFlash.toNat
  | .imxrt => 2 ^ id.capacity.toNat
  | .lpc43x0 => min (2 ^ id.capacity.toNat) lpc43x0SpiFlashHighSize.toNat
  | .esp32c3 => min (2 ^ id.capacity.toNat) esp32c3IbusFlashSize.toNat

/-- The number of bytes at which a driver cuts a Flash with SFDP; all but one take whatever a word holds. -/
def tableLimit : Driver → Nat
  | .esp32c3 => esp32c3IbusFlashSize.toNat
  | _ => 2 ^ 32

/-- The encoded capacity in bits, capped where the driver does so. -/
def encodedBits (device : Device) (driver : Driver) : Nat :=
  match basicTableHeader device with
  | some header => min (densityBits (wholeTable device header).memoryDensity) (8 * tableLimit driver)
  | none => 8 * idBytes device.id driver

structure WellFormed (bits : Nat) (region : SpiFlash) : Prop where
  blocksize : ∃ k, region.flash.blocksize = 2 ^ k
  writesize : ∃ k, region.flash.writesize = 2 ^ k
  length : 0 < region.flash.length
  whole : region.flash.blocksize ∣ region.flash.length
  encoded : 8 * region.flash.length = bits

/-- Nothing stops the driver, and the regions are well formed and depend on the device only. -/
def Probed (device : Device) (driver : Driver) : Prop :=
  ∃ regions, (∀ stack, driver.addFlash device stack = .ok regions) ∧
    ∀ region ∈ regions, WellFormed (encodedBits device driver) region

/-- A parameter table that reaches up to the page size, and whose sizes and exponents are fit for use. -/
structure Usable (bits : Nat) (device : Device) (header : SfdpParameterTableHeader) : Prop where
  complete : 11 ≤ header.tableLengthInU32s.toNat
  density : densityIsExponential (wholeTable device header).memoryDensity = true →
    (densityValue (wholeTable device header).memoryDensity).toNat < 32
  erase : ∃ eraseType, sectorEraseType (wholeTable device header) = some eraseType ∧
    eraseType.eraseSizeExponent.toNat < 32 ∧ 8 * 2 ^ eraseType.eraseSizeExponent.toNat ∣ bits

/-- IDs whose capacity code is shifted by only where that is defined; the ESP32-C3 driver looks at the ID without SFDP only. -/
def Shiftable (device : Device) : Driver → Prop
  | .rp => ¬ (32 ≤ device.id.capacity.toNat ∧ device.id.capacity.toNat ≤ 34)
  | .imxrt | .lpc43x0 => device.id.capacity.toNat < 32
  | .esp32c3 => basicTableHeader device = none → device.id.capacity.toNat < 32

/-- IDs of at least one assumed sector. -/
def Sectors (id : SpiFlashId) : Driver → Prop
  | .rp => ¬ (8 ≤ id.capacity.toNat ∧ id.capacity.toNat < 12)
  | _ => 12 ≤ id.capacity.toNat

/-- The devices that a driver can be given. -/
structure Sound (device : Device) (driver : Driver) : Prop where
  shiftable : Shiftable device driver
  table : ∀ header, basicTableHeader device = some header → Usable (encodedBits device driver) device header
  id : basicTableHeader device = none → Sectors device.id driver

end Specification

section Steps

private theorem bind_ok {α β : Type} {value : Except Fault α} {next : α → Except Fault β} {result : β} :
    (value >>= next) = .ok result ↔ ∃ produced, value = .ok produced ∧ next produced = .ok result := by
  cases value with
  | error fault => simp [Bind.bind, Except.bind]
  | ok produced => simp [Bind.bind, Except.bind]

theorem shiftOne_ok {exponent : Nat} {word : BitVec 32} :
    shiftOne exponent = .ok word ↔ exponent < 32 ∧ word.toNat = 2 ^ exponent := by
  have value (fits : exponent < 32) : (1#32 <<< exponent).toNat = 2 ^ exponent := by
    rw [BitVec.toNat_shiftLeft, BitVec.toNat_one (by decide), Nat.shiftLeft_eq, Nat.one_mul]
    exact Nat.mod_eq_of_lt (Nat.pow_lt_pow_right (by decide) fits)
  unfold shiftOne
  split
  next fits =>
    simp only [Except.ok.injEq, fits, true_and]
    rw [← value fits, eq_comm, BitVec.toNat_inj]
  next large => simp [large]

theorem shiftOne_succeeds {exponent : Nat} (fits : exponent < 32) : ∃ word, shiftOne exponent = .ok word :=
  ⟨_, if_pos fits⟩

theorem densityValue_lt (density : List Byte) : (densityValue density).toNat < 2 ^ 31 := by
  apply BitVec.toNat_lt_of_msb_false
  simp [densityValue, BitVec.msb_eq_getLsbD_last]

theorem capacityBits_ok {density : List Byte} {bits : BitVec 32} :
    sfdpMemoryDensityToCapacityBits density = .ok bits ↔
      (densityIsExponential density = true → (densityValue density).toNat < 32) ∧ bits.toNat = densityBits density := by
  have small := densityValue_lt density
  unfold sfdpMemoryDensityToCapacityBits densityBits
  by_cases exponential : densityIsExponential density = true
  · simp only [exponential, if_true, shiftOne_ok, true_implies]
  · simp only [exponential, if_false, false_implies, true_and, Except.ok.injEq, Bool.false_eq_true]
    have one : (1 : BitVec 32).toNat = 1 := rfl
    rw [eq_comm, ← BitVec.toNat_inj, BitVec.toNat_add, one]
    omega

theorem densityBits_pos (density : List Byte) : 0 < densityBits density := by
  unfold densityBits
  split
  next => exact Nat.two_pow_pos _
  next => exact Nat.succ_pos _

/-- What is read into the parameters from a table that has been copied to the stack. -/
structure Parsed (table : SfdpBasicParameterTable) (parameters : SpiParameters) : Prop where
  density : densityIsExponential table.memoryDensity = true → (densityValue table.memoryDensity).toNat < 32
  capacity : parameters.capacity.toNat = densityBits table.memoryDensity / 8
  page : parameters.pageSize.toNat = 2 ^ (table.programmingTimingRatioAndPageSize >>> 4).toNat
  erase : ∀ eraseType, sectorEraseType table = some eraseType →
    eraseType.eraseSizeExponent.toNat < 32 ∧ parameters.sectorSize.toNat = 2 ^ eraseType.eraseSizeExponent.toNat
  unmatched : sectorEraseType table = none → parameters.sectorSize = 0

theorem sectorErase_ok {table : SfdpBasicParameterTable} {opcode : Byte} {size : BitVec 32}
    (found : sectorErase table = .ok (opcode, size)) :
    (∀ eraseType, sectorEraseType table = some eraseType →
      eraseType.eraseSizeExponent.toNat < 32 ∧ size.toNat = 2 ^ eraseType.eraseSizeExponent.toNat) ∧
    (sectorEraseType table = none → size = 0) := by
  unfold sectorErase at found
  split at found
  next eraseType matched =>
    obtain ⟨word, shifted, pair⟩ := bind_ok.mp found
    cases pair
    refine ⟨fun other same => ?_, (fun missing => by cases matched.symm.trans missing)⟩
    cases matched.symm.trans same
    exact shiftOne_ok.mp shifted
  next missing =>
    cases found
    exact ⟨(fun other same => by cases missing.symm.trans same), fun _ => rfl⟩

theorem parsed_of_read {device : Device} {address length : Nat} {stack : Buffer} {parameters : SpiParameters}
    (read : sfdpReadBasicParameterTable device address length stack = .ok parameters) :
    Parsed (sfdpBasicParameterTable (readSfdp device address (min sfdpBasicParameterTableSize length) stack)) parameters := by
  unfold sfdpReadBasicParameterTable at read
  obtain ⟨bits, sized, read⟩ := bind_ok.mp read
  obtain ⟨⟨opcode, size⟩, erased, read⟩ := bind_ok.mp read
  obtain ⟨page, paged, read⟩ := bind_ok.mp read
  cases read
  obtain ⟨density, value⟩ := capacityBits_ok.mp sized
  obtain ⟨matched, unmatched⟩ := sectorErase_ok erased
  refine ⟨density, ?_, (shiftOne_ok.mp paged).2, matched, unmatched⟩
  simp only [BitVec.toNat_ushiftRight, value, Nat.shiftRight_eq_div_pow]

/-- A table without an exponent that is too large, and with a type for the sector erase, is read. -/
theorem read_succeeds {device : Device} {address length : Nat} {stack : Buffer} {table : SfdpBasicParameterTable}
    {eraseType : EraseParameters}
    (copied : sfdpBasicParameterTable (readSfdp device address (min sfdpBasicParameterTableSize length) stack) = table)
    (density : densityIsExponential table.memoryDensity = true → (densityValue table.memoryDensity).toNat < 32)
    (matched : sectorEraseType table = some eraseType)
    (exponent : eraseType.eraseSizeExponent.toNat < 32) :
    ∃ parameters, sfdpReadBasicParameterTable device address length stack = .ok parameters := by
  have sized : ∃ bits, sfdpMemoryDensityToCapacityBits table.memoryDensity = .ok bits := by
    unfold sfdpMemoryDensityToCapacityBits
    split
    next exponential => exact shiftOne_succeeds (density exponential)
    next => exact ⟨_, rfl⟩
  have erased : ∃ found, sectorErase table = .ok found := by
    obtain ⟨word, shifted⟩ := shiftOne_succeeds exponent
    refine ⟨(eraseType.opcode, word), ?_⟩
    unfold sectorEraseType at matched
    unfold sectorErase
    rw [matched]
    exact bind_ok.mpr ⟨word, shifted, rfl⟩
  have paged : ∃ page, shiftOne (table.programmingTimingRatioAndPageSize >>> 4).toNat = .ok page := by
    apply shiftOne_succeeds
    rw [BitVec.toNat_ushiftRight, Nat.shiftRight_eq_div_pow]
    omega
  obtain ⟨bits, sized⟩ := sized
  obtain ⟨⟨opcode, size⟩, erased⟩ := erased
  obtain ⟨page, paged⟩ := paged
  refine ⟨⟨page, size, bits >>> 3, opcode⟩, ?_⟩
  unfold sfdpReadBasicParameterTable
  rw [copied]
  exact bind_ok.mpr ⟨bits, sized, bind_ok.mpr ⟨(opcode, size), erased, bind_ok.mpr ⟨page, paged, rfl⟩⟩⟩

/-- Eleven words of a table hold everything that is looked at. -/
theorem copied_whole {device : Device} {header : SfdpParameterTableHeader} (complete : 11 ≤ header.tableLengthInU32s.toNat)
    (stack : Buffer) :
    sfdpBasicParameterTable
      (readSfdp device header.address.toNat (min sfdpBasicParameterTableSize header.tableLength) stack) =
      wholeTable device header := by
  have read (i : Nat) (inside : i < 44) :
      readSfdp device header.address.toNat (min sfdpBasicParameterTableSize header.tableLength) stack i =
        device.sfdp (header.address.toNat + i) := by
    apply if_pos
    simp only [sfdpBasicParameterTableSize, SfdpParameterTableHeader.tableLength]
    omega
  simp only [wholeTable, sfdpBasicParameterTable]
  rw [read 1 (by decide), read 4 (by decide), read 5 (by decide), read 6 (by decide), read 7 (by decide), read 28 (by decide),
    read 29 (by decide), read 30 (by decide), read 31 (by decide), read 32 (by decide), read 33 (by decide),
    read 34 (by decide), read 35 (by decide), read 40 (by decide)]

end Steps

section Regions

theorem spiRegion_ok {parameters : SpiParameters} {start length : BitVec 32} {region : SpiFlash}
    (added : spiRegion parameters start length = .ok region) :
    parameters.sectorSize ≠ 0 ∧ region.flash.blocksize = parameters.sectorSize.toNat ∧
      region.flash.writesize = parameters.sectorSize.toNat ∧ region.flash.length = length.toNat ∧
      region.pageSize = parameters.pageSize := by
  unfold spiRegion addRegion at added
  obtain ⟨flash, linked, made⟩ := bind_ok.mp added
  simp only [if_true] at linked
  split at linked
  next => cases linked
  next nonzero =>
    cases linked
    cases made
    refine ⟨fun zero => nonzero ?_, rfl, rfl, rfl, rfl⟩
    rw [zero]
    rfl

theorem spiRegion_succeeds {parameters : SpiParameters} (start length : BitVec 32) (nonzero : parameters.sectorSize.toNat ≠ 0) :
    ∃ region, spiRegion parameters start length = .ok region := by
  unfold spiRegion addRegion
  simp only [if_true, if_neg nonzero]
  exact ⟨_, rfl⟩

/-- A region with a power of two as its sector size is well formed where its length is a number of sectors. -/
theorem region_wellFormed {parameters : SpiParameters} {start length : BitVec 32} {region : SpiFlash} {exponent bits : Nat}
    (added : spiRegion parameters start length = .ok region) (size : parameters.sectorSize.toNat = 2 ^ exponent)
    (positive : 0 < bits) (sized : length.toNat = bits / 8) :
    WellFormed bits region ↔ 8 * 2 ^ exponent ∣ bits := by
  obtain ⟨-, blocks, writes, sectors, -⟩ := spiRegion_ok added
  rw [size] at blocks writes
  constructor
  · intro formed
    rw [← formed.encoded]
    rw [← blocks]
    exact Nat.mul_dvd_mul_left 8 formed.whole
  · intro divides
    have eighth : 8 * (bits / 8) = bits := Nat.mul_div_cancel' (dvd_of_mul_right_dvd divides)
    have encoded : 8 * region.flash.length = bits := by rw [sectors, sized, eighth]
    refine ⟨⟨exponent, blocks⟩, ⟨exponent, writes⟩, by omega, ?_, encoded⟩
    rw [← encoded] at divides
    rw [blocks]
    exact Nat.dvd_of_mul_dvd_mul_left (by decide) divides

/-- A region whose parameters are read from a table is the same for every content of the stack, and well formed, where the
table is usable. -/
theorem table_region {device : Device} {header : SfdpParameterTableHeader} {start : BitVec 32}
    {limit : BitVec 32 → BitVec 32} {most : Nat} (limited : ∀ capacity, (limit capacity).toNat = min capacity.toNat most)
    (some : 0 < most) :
    (∃ region, (∀ stack, (do
        let parameters ← sfdpReadBasicParameterTable device header.address.toNat header.tableLength stack
        spiRegion parameters start (limit parameters.capacity)) = .ok region) ∧
      WellFormed (min (densityBits (wholeTable device header).memoryDensity) (8 * most)) region) ↔
    Usable (min (densityBits (wholeTable device header).memoryDensity) (8 * most)) device header := by
  have positive := densityBits_pos (wholeTable device header).memoryDensity
  generalize bitsEq : min (densityBits (wholeTable device header).memoryDensity) (8 * most) = bits
  have sized {parameters : SpiParameters} (parsed : Parsed (wholeTable device header) parameters) :
      (limit parameters.capacity).toNat = bits / 8 := by
    rw [limited, parsed.capacity]
    omega
  constructor
  · rintro ⟨region, same, formed⟩
    have complete : 11 ≤ header.tableLengthInU32s.toNat := by
      by_contra short
      have unread (filler : Byte) : region.pageSize.toNat = 2 ^ (filler >>> 4).toNat := by
        obtain ⟨parameters, read, added⟩ := bind_ok.mp (same fun _ => filler)
        obtain ⟨-, -, -, -, page⟩ := spiRegion_ok added
        rw [page, (parsed_of_read read).page]
        have beyond : ¬ 40 < min sfdpBasicParameterTableSize header.tableLength := by
          simp only [sfdpBasicParameterTableSize, SfdpParameterTableHeader.tableLength]
          omega
        simp only [sfdpBasicParameterTable, readSfdp, if_neg beyond]
      exact absurd ((unread 0).symm.trans (unread 0x10)) (by decide)
    obtain ⟨parameters, read, added⟩ := bind_ok.mp (same fun _ => 0)
    have parsed := parsed_of_read read
    rw [copied_whole complete] at parsed
    refine ⟨complete, parsed.density, ?_⟩
    cases matched : sectorEraseType (wholeTable device header) with
    | none => exact absurd (parsed.unmatched matched) (spiRegion_ok added).1
    | some eraseType =>
      obtain ⟨exponent, size⟩ := parsed.erase eraseType matched
      exact ⟨eraseType, rfl, exponent, (region_wellFormed added size (by omega) (sized parsed)).mp formed⟩
  · rintro ⟨complete, density, eraseType, matched, exponent, divides⟩
    obtain ⟨parameters, read⟩ := read_succeeds (copied_whole complete fun _ => 0) density matched exponent
    have parsed := parsed_of_read read
    rw [copied_whole complete] at parsed
    obtain ⟨-, size⟩ := parsed.erase eraseType matched
    obtain ⟨region, added⟩ := spiRegion_succeeds start (limit parameters.capacity)
      (by rw [size]; exact (Nat.two_pow_pos _).ne')
    refine ⟨region, fun stack => bind_ok.mpr ⟨parameters, ?_, added⟩,
      (region_wellFormed added size (by omega) (sized parsed)).mpr divides⟩
    rw [← read]
    unfold sfdpReadBasicParameterTable
    rw [copied_whole complete stack, copied_whole complete fun _ => 0]

/-- A region of assumed sectors is well formed where it consists of whole ones. -/
theorem assumed_region {capacity start length : BitVec 32} {bytes : Nat} (sized : length.toNat = bytes) (some : 0 < bytes) :
    (∃ region, spiRegion (assumedParameters capacity) start length = .ok region ∧ WellFormed (8 * bytes) region) ↔
      2 ^ 12 ∣ bytes := by
  have size : (assumedParameters capacity).sectorSize.toNat = 2 ^ 12 := rfl
  have eighth : length.toNat = 8 * bytes / 8 := by omega
  obtain ⟨region, added⟩ := spiRegion_succeeds start length (by rw [size]; decide)
  have formed := region_wellFormed added size (by omega) eighth
  rw [Nat.mul_dvd_mul_iff_left (by decide)] at formed
  rw [← formed]
  constructor
  · rintro ⟨other, again, fine⟩
    cases added.symm.trans again
    exact fine
  · exact fun fine => ⟨region, added, fine⟩

end Regions

section Drivers

variable {device : Device}

theorem bmp_table {header : SfdpParameterTableHeader} (found : basicTableHeader device = some header) (stack : Buffer)
    (start length : BitVec 32) :
    bmpSpiAddFlash device stack start length = (do
      let parameters ← sfdpReadBasicParameterTable device header.address.toNat header.tableLength stack
      spiRegion parameters start parameters.capacity) := by
  unfold bmpSpiAddFlash sfdpReadParameters
  rw [found]
  simp

theorem bmp_assumed (missing : basicTableHeader device = none) (stack : Buffer) (start length : BitVec 32) :
    bmpSpiAddFlash device stack start length = spiRegion (assumedParameters length) start length := by
  unfold bmpSpiAddFlash sfdpReadParameters
  rw [missing]
  rfl

/-- What `bmp_spi_add_flash` adds, by the table or by the length that it is given. -/
theorem bmp_added {driver : Driver} (unlimited : tableLimit driver = 2 ^ 32) {start length : BitVec 32}
    (sized : length.toNat = idBytes device.id driver) (nonempty : 0 < idBytes device.id driver) :
    (∃ region, (∀ stack, bmpSpiAddFlash device stack start length = .ok region) ∧
      WellFormed (encodedBits device driver) region) ↔
    (∀ header, basicTableHeader device = some header → Usable (encodedBits device driver) device header) ∧
      (basicTableHeader device = none → 2 ^ 12 ∣ idBytes device.id driver) := by
  cases found : basicTableHeader device with
  | some header =>
    have bits : encodedBits device driver = min (densityBits (wholeTable device header).memoryDensity) (8 * 2 ^ 32) := by
      simp only [encodedBits, found, unlimited]
    have whole (capacity : BitVec 32) : (id capacity).toNat = min capacity.toNat (2 ^ 32) := by
      have := capacity.isLt
      simp only [id]
      omega
    rw [bits]
    simp only [bmp_table found, Option.some.injEq, forall_eq', reduceCtorEq, false_implies, and_true]
    exact table_region whole (by decide)
  | none =>
    have bits : encodedBits device driver = 8 * idBytes device.id driver := by simp only [encodedBits, found]
    rw [bits]
    simp only [bmp_assumed found, forall_const, reduceCtorEq, false_implies, implies_true, true_and]
    exact assumed_region sized nonempty

/-- What a driver makes of its region: it is listed last, and all that is listed is as well formed. -/
structure Listing (bits : Nat) (list : SpiFlash → Except Fault (List SpiFlash)) : Prop where
  last : ∀ region regions, list region = .ok regions → regions.getLast? = some region
  formed : ∀ region, WellFormed bits region →
    ∃ regions, list region = .ok regions ∧ ∀ listed ∈ regions, WellFormed bits listed

theorem listed_region {add : Buffer → Except Fault SpiFlash} {bits : Nat} {list : SpiFlash → Except Fault (List SpiFlash)}
    (listing : Listing bits list) :
    (∃ regions, (∀ stack, (add stack >>= list) = .ok regions) ∧ ∀ region ∈ regions, WellFormed bits region) ↔
      ∃ region, (∀ stack, add stack = .ok region) ∧ WellFormed bits region := by
  constructor
  · rintro ⟨regions, same, formed⟩
    obtain ⟨region, -, listed⟩ := bind_ok.mp (same fun _ => 0)
    have last := listing.last region regions listed
    refine ⟨region, fun stack => ?_, formed region (List.mem_of_getLast? last)⟩
    obtain ⟨other, added, listed⟩ := bind_ok.mp (same stack)
    cases (listing.last other regions listed).symm.trans last
    exact added
  · rintro ⟨region, same, formed⟩
    obtain ⟨regions, listed, fine⟩ := listing.formed region formed
    exact ⟨regions, fun stack => bind_ok.mpr ⟨region, same stack, listed⟩, fine⟩

/-- A driver that decodes the ID before it looks for a table. -/
structure DecodesFirst (device : Device) (driver : Driver) (decode : Except Fault (BitVec 32)) (start : BitVec 32)
    (list : SpiFlash → Except Fault (List SpiFlash)) : Prop where
  shape : ∀ stack, driver.addFlash device stack = decode >>= fun length => bmpSpiAddFlash device stack start length >>= list
  listing : ∀ bits, Listing bits list
  shiftable : (∃ length, decode = .ok length) ↔ Shiftable device driver
  sized : ∀ length, decode = .ok length → length.toNat = idBytes device.id driver
  nonempty : 0 < idBytes device.id driver
  sectors : Shiftable device driver → (2 ^ 12 ∣ idBytes device.id driver ↔ Sectors device.id driver)
  unlimited : tableLimit driver = 2 ^ 32

theorem DecodesFirst.probed {driver : Driver} {decode : Except Fault (BitVec 32)} {start : BitVec 32}
    {list : SpiFlash → Except Fault (List SpiFlash)} (first : DecodesFirst device driver decode start list) :
    Probed device driver ↔ Sound device driver := by
  unfold Probed
  simp only [first.shape]
  constructor
  · rintro ⟨regions, same, formed⟩
    obtain ⟨length, decoded, -⟩ := bind_ok.mp (same fun _ => 0)
    have shiftable := first.shiftable.mp ⟨length, decoded⟩
    rw [decoded] at same
    obtain ⟨table, id⟩ := (bmp_added first.unlimited (first.sized length decoded) first.nonempty).mp
      ((listed_region (first.listing _)).mp ⟨regions, same, formed⟩)
    exact ⟨shiftable, table, fun missing => (first.sectors shiftable).mp (id missing)⟩
  · rintro ⟨shiftable, table, id⟩
    obtain ⟨length, decoded⟩ := first.shiftable.mpr shiftable
    rw [decoded]
    apply (listed_region (first.listing _)).mpr
    apply (bmp_added first.unlimited (first.sized length decoded) first.nonempty).mpr
    exact ⟨table, fun missing => (first.sectors shiftable).mpr (id missing)⟩

end Drivers

section Devices

end Devices

end BlackMagic.Proofs.SpiFlashProbe
