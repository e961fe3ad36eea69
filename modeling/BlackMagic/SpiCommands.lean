import BlackMagic.SpiFlash

/-! The SPI transaction of a command word on the probe's own bus (`spi.c`) and on the SPI controller of the ESP32-C3
(`esp32c3.c`), clock by clock, and the reads that `sfdp.c` asks for. The two files lay the word out differently. -/

namespace BlackMagic.SpiCommands
open SpiFlash

/-- What happens on the bus: a bit of a command or an address, a dummy clock, or the eight clocks of a byte of data. -/
inductive BusEvent where
  | select
  | bit (value : Bool)
  | dummy
  | receive
  | deselect
  deriving DecidableEq, Repr

/-- The byte that the Flash shifts out next. -/
abbrev Answers := List BusEvent → Byte

/-- The bits of a word, the highest first. -/
def shiftOut {width : Nat} (count : Nat) (word : BitVec width) : List BusEvent :=
  (List.range count).map fun i => .bit (word.getLsbD (count - 1 - i))

section Sfdp

def spiFlashOpcodeMask : BitVec 16 := 0x00ff
def spiFlashOpcode (opcode : BitVec 16) : BitVec 16 := opcode &&& spiFlashOpcodeMask
def spiFlashDummyMask : BitVec 16 := 0x0700
def spiFlashDummyShift : Nat := 8
def spiFlashDummyLen (length : BitVec 16) : BitVec 16 := length <<< spiFlashDummyShift &&& spiFlashDummyMask
def spiFlashOpcodeModeMask : BitVec 16 := 0x0800
def spiFlashOpcode3bAddr : BitVec 16 := 1 <<< 11
def spiFlashDataShift : Nat := 12
def spiFlashDataIn : BitVec 16 := 0 <<< spiFlashDataShift

def spiFlashCmdReadSfdp : BitVec 16 := spiFlashOpcode3bAddr ||| spiFlashDataIn ||| spiFlashDummyLen 1 ||| spiFlashOpcode 0x5a

/-- A call of a `spi_read` function. -/
structure Read where
  command : BitVec 16
  address : BitVec 32
  length : Nat
  deriving DecidableEq, Repr

def tableHeader (device : Device) (i : Nat) : SfdpParameterTableHeader :=
  sfdpParameterTableHeader fun j => device.sfdp (sfdpTableHeaderAddress + 8 * i + j)

/-- The reads of the table headers up to that of the first basic parameter table, and that of the table itself. -/
def tableReads (device : Device) : List Nat → List Read
  | [] => []
  | i :: rest =>
    let header := tableHeader device i
    ⟨spiFlashCmdReadSfdp, BitVec.ofNat 32 (sfdpTableHeaderAddress + 8 * i), 8⟩ ::
      if header.jedecParameterId = sfdpBasicSpiParameterTable then
        [⟨spiFlashCmdReadSfdp, header.address, min sfdpBasicParameterTableSize header.tableLength⟩]
      else tableReads device rest

/-- The calls that `sfdp_read_parameters` makes where they return the image of a device. -/
def sfdpReads (device : Device) : List Read :=
  ⟨spiFlashCmdReadSfdp, 0, 8⟩ ::
    if (List.range 4).map device.sfdp = sfdpMagic then tableReads device (List.range ((device.sfdp 6).toNat + 1)) else []

end Sfdp

section Probe

def bmpSpiSetupXfer (command : BitVec 16) (address : BitVec 32) : List BusEvent :=
  let opcode : Byte := (command &&& spiFlashOpcodeMask).setWidth 8
  let addressBytes : List Byte :=
    if command &&& spiFlashOpcodeModeMask = spiFlashOpcode3bAddr then
      [(address >>> 16 &&& 0xff).setWidth 8, (address >>> 8 &&& 0xff).setWidth 8, (address &&& 0xff).setWidth 8]
    else []
  let dummyLength := ((command &&& spiFlashDummyMask) >>> spiFlashDummyShift).toNat
  .select :: shiftOut 8 opcode ++ addressBytes.flatMap (shiftOut 8) ++
    (List.range dummyLength).flatMap fun _ => List.replicate 8 .dummy

/-- What goes over the bus, and what ends up in the buffer. -/
def bmpSpiRead (answers : Answers) (command : BitVec 16) (address : BitVec 32) (length : Nat) : List BusEvent × List Byte :=
  let setup := bmpSpiSetupXfer command address
  (setup ++ List.replicate length .receive ++ [.deselect],
    (List.range length).map fun i => answers (setup ++ List.replicate i .receive))

end Probe

section Esp32c3

def spiCmdUser0 : BitVec 32 := 0x80000000
def spiAddrUser0 : BitVec 32 := 0x40000000
def spiDummyUser0 : BitVec 32 := 0x20000000
def spiDataInUser0 : BitVec 32 := 0x10000000
def spiDataOutUser0 : BitVec 32 := 0x08000000
def spiMiscCsHold : BitVec 32 := 0x00000400

def spiUser2CmdLen (length : BitVec 32) : BitVec 32 := (length - 1) <<< 28 &&& 0xf0000000
def spiUser1AddrLen (length : BitVec 32) : BitVec 32 := (length - 1) <<< 26 &&& 0xfc000000
def spiUser1DummyLen (length : BitVec 32) : BitVec 32 := (length - 1) &&& 0x0000003f
def spiDataBitLen (length : BitVec 32) : BitVec 32 := (length * 8 - 1) &&& 0x000003ff

def esp32c3SpiFlashOpcodeMask : BitVec 32 := 0x000000ff
def esp32c3SpiFlashDummyMask : BitVec 32 := 0x0000ff00
def esp32c3SpiFlashDummyShift : Nat := 8
def esp32c3SpiFlashOpcodeModeMask : BitVec 32 := 0x00010000
def esp32c3SpiFlashOpcode3bAddr : BitVec 32 := 1 <<< 16
def esp32c3SpiFlashDataOut : BitVec 32 := 1 <<< 17

/-- The registers of the controller that a read uses. -/
structure Registers where
  addr : BitVec 32
  user0 : BitVec 32
  user1 : BitVec 32
  user2 : BitVec 32
  dataInLen : BitVec 32
  misc : BitVec 32
  deriving DecidableEq, Repr

/-- The controller with its data registers, and what it has done on the bus. -/
structure Controller where
  registers : Registers
  data : List Byte
  selected : Bool
  bus : List BusEvent

/-- The bytes that come back to so many receptions after what was on the bus. -/
def received (answers : Answers) (bus : List BusEvent) (count : Nat) : List Byte :=
  (List.range count).map fun i => answers (bus ++ List.replicate i .receive)

/-- A register counts one less than the clocks. -/
def clocks (field : BitVec 32) : Nat := field.toNat + 1

/-- The stages of a transaction that come before its data. -/
def stages (registers : Registers) : List BusEvent :=
  (if registers.user0 &&& spiCmdUser0 ≠ 0 then shiftOut (clocks (registers.user2 >>> 28)) registers.user2 else []) ++
  (if registers.user0 &&& spiAddrUser0 ≠ 0 then shiftOut (clocks (registers.user1 >>> 26)) registers.addr else []) ++
  if registers.user0 &&& spiDummyUser0 ≠ 0 then List.replicate (clocks (registers.user1 &&& 0x3f)) .dummy else []

/-- The controller runs a read. The chip stays selected where the registers say so. -/
def Controller.execute (answers : Answers) (controller : Controller) : Controller :=
  let registers := controller.registers
  let count := if registers.user0 &&& spiDataInUser0 ≠ 0 then clocks (registers.dataInLen &&& 0x3ff) / 8 else 0
  let hold := registers.misc &&& spiMiscCsHold ≠ 0
  let bus := controller.bus ++ (if controller.selected then [] else [.select]) ++ stages registers
  { controller with
    data := received answers bus count
    selected := hold
    bus := bus ++ List.replicate count .receive ++ if hold then [] else [.deselect] }

/-- The stages to enable, and the registers that describe them. -/
def esp32c3SpiConfig (command address : BitVec 32) (length : Nat) (registers : Registers) : BitVec 32 × Registers :=
  let spiCommand : Byte := (command &&& esp32c3SpiFlashOpcodeMask).setWidth 8
  let registers := { registers with user2 := spiUser2CmdLen 8 ||| spiCommand.setWidth 32 }
  let addressed := command &&& esp32c3SpiFlashOpcodeModeMask = esp32c3SpiFlashOpcode3bAddr
  let registers := if addressed then { registers with addr := address } else registers
  let dummies := command &&& esp32c3SpiFlashDummyMask ≠ 0
  let dummyCycles : Byte := ((command &&& esp32c3SpiFlashDummyMask) >>> esp32c3SpiFlashDummyShift).setWidth 8
  let user1Value := (if addressed then spiUser1AddrLen 24 else 0) |||
    if dummies then spiUser1DummyLen (dummyCycles.setWidth 32) else 0
  let dataStage := if length = 0 then 0 else if command &&& esp32c3SpiFlashDataOut ≠ 0 then spiDataOutUser0 else spiDataInUser0
  (spiCmdUser0 ||| (if addressed then spiAddrUser0 else 0) ||| (if dummies then spiDummyUser0 else 0) ||| dataStage,
    { registers with user1 := user1Value })

/-- One pass of the loop of `esp32c3_spi_read`. -/
def readChunk (answers : Answers) (enabledStages miscReg : BitVec 32) (length offset : Nat) (controller : Controller) :
    Controller :=
  let amount := min (length - offset) 64
  let registers := { controller.registers with
    dataInLen := spiDataBitLen (BitVec.ofNat 32 amount)
    user0 := if offset ≠ 0 then spiDataInUser0 else enabledStages
    misc := if length - offset = amount then miscReg else miscReg ||| spiMiscCsHold }
  { controller with registers := registers }.execute answers

/-- So many chunks of the data from an offset on. -/
def readChunks (answers : Answers) (enabledStages miscReg : BitVec 32) (length : Nat) :
    Nat → Nat → Controller → Controller × List Byte
  | 0, _, controller => (controller, [])
  | chunks + 1, offset, controller =>
    let after := readChunk answers enabledStages miscReg length offset controller
    let rest := readChunks answers enabledStages miscReg length chunks (offset + 64) after
    (rest.1, after.data.take (min (length - offset) 64) ++ rest.2)

/-- A read from registers with any content, with no transaction under way. -/
def esp32c3SpiRead (answers : Answers) (registers : Registers) (command address : BitVec 32) (length : Nat) :
    List BusEvent × List Byte :=
  let (enabledStages, registers) := esp32c3SpiConfig command address length registers
  let miscReg := registers.misc &&& ~~~spiMiscCsHold
  let done := readChunks answers enabledStages miscReg length ((length + 63) / 64) 0 ⟨registers, [], false, []⟩
  (done.1.bus, done.2)

def esp32c3SpiReadSfdp (answers : Answers) (registers : Registers) (command : BitVec 16) (address : BitVec 32)
    (length : Nat) : List BusEvent × List Byte :=
  esp32c3SpiRead answers registers (command.setWidth 32) address length

end Esp32c3

end BlackMagic.SpiCommands
