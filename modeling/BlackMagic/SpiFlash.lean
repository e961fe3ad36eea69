import BlackMagic.Flash
import Mathlib.Data.Nat.Bitwise

/-! Probing SPI Flash (`sfdp.c`, `bmp_spi_add_flash` and the drivers that call them). A device is the image that its SFDP reads
return and its JEDEC ID. What C leaves undefined stops the model: a shift of a word by its width or more, and a division by
zero. -/

namespace BlackMagic.SpiFlash
open Flash

inductive Fault where
  | shift
  | division
  deriving DecidableEq, Repr

/-- `1U << exponent`. -/
def shiftOne (exponent : Nat) : Except Fault (BitVec 32) :=
  if exponent < 32 then .ok (1#32 <<< exponent) else .error .shift

structure SpiFlashId where
  manufacturer : Byte
  type : Byte
  capacity : Byte

structure Device where
  sfdp : Buffer
  id : SpiFlashId

/-- A buffer on the stack after an SFDP read: what is not read keeps its old content. -/
def readSfdp (device : Device) (address length : Nat) (stack : Buffer) : Buffer :=
  fun i => if i < length then device.sfdp (address + i) else stack i

section Sfdp

def sfdpTableHeaderAddress : Nat := 8
def sfdpMagic : List Byte := ascii "SFDP"
def sfdpBasicSpiParameterTable : BitVec 16 := 0xff00
def sfdpBasicParameterTableSize : Nat := 64

structure SfdpParameterTableHeader where
  jedecParameterIdLow : Byte
  tableLengthInU32s : Byte
  tableAddress : Buffer
  jedecParameterIdHigh : Byte

def sfdpParameterTableHeader (bytes : Buffer) : SfdpParameterTableHeader :=
  ⟨bytes 0, bytes 3, fun i => bytes (4 + i), bytes 7⟩

namespace SfdpParameterTableHeader

def jedecParameterId (header : SfdpParameterTableHeader) : BitVec 16 :=
  header.jedecParameterIdHigh.setWidth 16 <<< 8 ||| header.jedecParameterIdLow.setWidth 16

def address (header : SfdpParameterTableHeader) : BitVec 32 :=
  (header.tableAddress 2).setWidth 32 <<< 16 ||| (header.tableAddress 1).setWidth 32 <<< 8 |||
    (header.tableAddress 0).setWidth 32

def tableLength (header : SfdpParameterTableHeader) : Nat := header.tableLengthInU32s.toNat * 4

end SfdpParameterTableHeader

structure EraseParameters where
  eraseSizeExponent : Byte
  opcode : Byte

structure SfdpBasicParameterTable where
  sectorEraseOpcode : Byte
  memoryDensity : List Byte
  eraseTypes : List EraseParameters
  programmingTimingRatioAndPageSize : Byte

def sfdpBasicParameterTable (bytes : Buffer) : SfdpBasicParameterTable where
  sectorEraseOpcode := bytes 1
  memoryDensity := [bytes 4, bytes 5, bytes 6, bytes 7]
  eraseTypes := [⟨bytes 28, bytes 29⟩, ⟨bytes 30, bytes 31⟩, ⟨bytes 32, bytes 33⟩, ⟨bytes 34, bytes 35⟩]
  programmingTimingRatioAndPageSize := bytes 40

structure SpiParameters where
  pageSize : BitVec 32
  sectorSize : BitVec 32
  capacity : BitVec 32
  sectorEraseOpcode : Byte
  deriving DecidableEq, Repr

def densityIsExponential (density : List Byte) : Bool := density.getD 3 0 &&& 0x80 != 0

def densityValue (density : List Byte) : BitVec 32 :=
  (density.getD 3 0 &&& 0x7f).setWidth 32 <<< 24 ||| (density.getD 2 0).setWidth 32 <<< 16 |||
    (density.getD 1 0).setWidth 32 <<< 8 ||| (density.getD 0 0).setWidth 32

def sfdpMemoryDensityToCapacityBits (density : List Byte) : Except Fault (BitVec 32) :=
  if densityIsExponential density then shiftOne (densityValue density).toNat else .ok (densityValue density + 1)

/-- The opcode and the sector size of the first erase type that has the opcode of the sector erase. -/
def sectorErase (table : SfdpBasicParameterTable) : Except Fault (Byte × BitVec 32) :=
  match table.eraseTypes.find? fun eraseType => eraseType.opcode == table.sectorEraseOpcode with
  | some eraseType => do return (eraseType.opcode, ← shiftOne eraseType.eraseSizeExponent.toNat)
  | none => return (0, 0)

def sfdpReadBasicParameterTable (device : Device) (address length : Nat) (stack : Buffer) : Except Fault SpiParameters := do
  let table := sfdpBasicParameterTable (readSfdp device address (min sfdpBasicParameterTableSize length) stack)
  let capacityBits ← sfdpMemoryDensityToCapacityBits table.memoryDensity
  let (opcode, sectorSize) ← sectorErase table
  let pageSize ← shiftOne (table.programmingTimingRatioAndPageSize >>> 4).toNat
  return ⟨pageSize, sectorSize, capacityBits >>> 3, opcode⟩

/-- The header of the first basic parameter table, where the device has SFDP at all. -/
def basicTableHeader (device : Device) : Option SfdpParameterTableHeader :=
  if (List.range 4).map device.sfdp = sfdpMagic then
    ((List.range ((device.sfdp 6).toNat + 1)).map fun i =>
      sfdpParameterTableHeader fun j => device.sfdp (sfdpTableHeaderAddress + 8 * i + j)).find?
        fun header => header.jedecParameterId == sfdpBasicSpiParameterTable
  else none

def sfdpReadParameters (device : Device) (stack : Buffer) : Except Fault (Option SpiParameters) :=
  match basicTableHeader device with
  | some header => do return some (← sfdpReadBasicParameterTable device header.address.toNat header.tableLength stack)
  | none => return none

end Sfdp

/-- A Flash region with what the SPI Flash code keeps beside it. -/
structure SpiFlash where
  flash : TargetFlash
  pageSize : BitVec 32
  sectorEraseOpcode : Byte
  deriving DecidableEq, Repr

section Regions

/-- `target_add_flash`, which divides by the write size unless that is large. -/
def addRegion (flash : TargetFlash) : Except Fault TargetFlash :=
  let writesize := if flash.writesize = 0 then flash.blocksize else flash.writesize
  if writesize = 0 then .error .division
  else .ok { flash with writesize := writesize, writebufsize := bufferSize writesize }

/-- What the code assumes of a Flash without SFDP. -/
def assumedParameters (capacity : BitVec 32) : SpiParameters := ⟨256, 4096, capacity, 0x20⟩

def spiRegion (parameters : SpiParameters) (start length : BitVec 32) : Except Fault SpiFlash := do
  let flash ← addRegion
    { start := start.toNat, length := length.toNat, blocksize := parameters.sectorSize.toNat, writesize := 0,
      writebufsize := 0, erased := 0xff, prepare := false, done := false }
  return ⟨flash, parameters.pageSize, parameters.sectorEraseOpcode⟩

def bmpSpiAddFlash (device : Device) (stack : Buffer) (start length : BitVec 32) : Except Fault SpiFlash := do
  let found ← sfdpReadParameters device stack
  let parameters := found.getD (assumedParameters length)
  spiRegion parameters start parameters.capacity

end Regions

section Drivers

def smaller (one two : BitVec 32) : BitVec 32 := if one < two then one else two

def rpXipFlashBase : BitVec 32 := 0x10000000
def maxFlash : BitVec 32 := 0x1000000

def rpGetFlashLength (id : SpiFlashId) : Except Fault (BitVec 32) :=
  if 8 ≤ id.capacity.toNat ∧ id.capacity.toNat ≤ 34 then shiftOne id.capacity.toNat else .ok maxFlash

def rpAddFlash (device : Device) (stack : Buffer) : Except Fault (List SpiFlash) := do
  let length ← rpGetFlashLength device.id
  return [← bmpSpiAddFlash device stack rpXipFlashBase length]

/-- Whether the ID is one of a Flash and not that of an open bus. -/
def SpiFlashId.identified (id : SpiFlashId) : Bool :=
  id.manufacturer != 0xff && id.type != 0xff && id.capacity != 0xff

def imxrtFlexspiBase : BitVec 32 := 0x60000000

def imxrtAddFlash (device : Device) (stack : Buffer) : Except Fault (List SpiFlash) :=
  if device.id.identified then do
    let capacity ← shiftOne device.id.capacity.toNat
    return [← bmpSpiAddFlash device stack imxrtFlexspiBase capacity]
  else return []

def lpc43x0SpiFlashLowBase : BitVec 32 := 0x14000000
def lpc43x0SpiFlashHighBase : BitVec 32 := 0x80000000
def lpc43x0SpiFlashHighSize : BitVec 32 := 0x8000000

def lpc43x0AddSpiFlash (device : Device) (stack : Buffer) (length : BitVec 32) : Except Fault (List SpiFlash) := do
  let high ← bmpSpiAddFlash device stack lpc43x0SpiFlashHighBase (smaller length lpc43x0SpiFlashHighSize)
  let low ← addRegion { high.flash with start := lpc43x0SpiFlashLowBase.toNat }
  return [{ high with flash := low }, high]

def lpc43x0AddFlash (device : Device) (stack : Buffer) : Except Fault (List SpiFlash) :=
  if device.id.identified then do lpc43x0AddSpiFlash device stack (← shiftOne device.id.capacity.toNat)
  else return []

def esp32c3IbusFlashBase : BitVec 32 := 0x42000000
def esp32c3IbusFlashSize : BitVec 32 := 0x800000

def esp32c3AddFlash (device : Device) (stack : Buffer) : Except Fault (List SpiFlash) := do
  let parameters ← match ← sfdpReadParameters device stack with
    | some parameters => pure parameters
    | none => do
      let capacity ← shiftOne device.id.capacity.toNat
      pure (assumedParameters (smaller capacity esp32c3IbusFlashSize))
  return [← spiRegion parameters esp32c3IbusFlashBase (smaller parameters.capacity esp32c3IbusFlashSize)]

/-- The drivers that add SPI Flash to a target. -/
inductive Driver where
  | rp
  | imxrt
  | lpc43x0
  | esp32c3
  deriving DecidableEq, Repr

/-- The regions that a driver adds for a device, the newest first. -/
def Driver.addFlash (device : Device) (stack : Buffer) : Driver → Except Fault (List SpiFlash)
  | .rp => rpAddFlash device stack
  | .imxrt => imxrtAddFlash device stack
  | .lpc43x0 => lpc43x0AddFlash device stack
  | .esp32c3 => esp32c3AddFlash device stack

end Drivers

end BlackMagic.SpiFlash
