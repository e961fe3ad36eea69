import BlackMagic.MemAp

/-! Memory access through the system bus of a RISC-V debug module (`riscv32.c`,
`riscv_debug.c`). The module performs an access when its address or data register
is touched; an access of a width it lacks, or at an address that is no multiple of
the width, is not performed and leaves an error, and until that is cleared the
registers do nothing. Transfers to the module itself succeed, and each bus access is
over by the next look at the status. -/

namespace BlackMagic.Sysbus
open Lib.Words MemAp

/-- The system bus registers of the debug module, and the memory behind them. -/
structure Bus where
  control : Nat
  error : Nat
  address : Nat
  data : BitVec 32
  memory : Nat → Byte

def rvSysbusMemReadOnAddr : Nat := 0x00100000
def rvSysbusMemAddrPostInc : Nat := 0x00010000
def rvSysbusMemReadOnData : Nat := 0x00008000

/-- `(1U << access_width) - 1U` and so on down to a width that divides both. -/
def accessWidthFrom (align : Nat) : Nat → Nat → Nat
  | 0, _ => 0
  | accessWidth + 1, alignMask =>
    if align &&& alignMask = 0 then accessWidth + 1 else accessWidthFrom align accessWidth (alignMask >>> 1)

/-- `riscv_mem_access_width` on a 32-bit hart. -/
def riscvMemAccessWidth (address length : Nat) : Nat :=
  accessWidthFrom ((address &&& 3) ||| (length &&& 3)) 2 3

/-- The access width named by the control register. -/
def Bus.width (bus : Bus) : Nat := (bus.control >>> 17) &&& 7

def Bus.option (bus : Bus) (mask : Nat) : Bool := bus.control &&& mask ≠ 0

variable (flags : Nat) (noise : Nat → BitVec 32)

/-- The hart's flags hold the widths that the debug module reports in their low four
bits; `noise` below is what a narrow read leaves in the other lanes. -/
def supports (width : Nat) : Bool := (flags &&& 0xf).testBit width

/-- The error that an access ends in: 4 for a size, 3 for an alignment. -/
def accessError (bus : Bus) : Nat :=
  if !supports flags bus.width then 4 else if bus.address % 2 ^ bus.width ≠ 0 then 3 else 0

def Bus.advance (bus : Bus) : Nat :=
  if bus.option rvSysbusMemAddrPostInc then (bus.address + 2 ^ bus.width) % 2 ^ 32 else bus.address

def busRead (bus : Bus) : Bus :=
  if accessError flags bus ≠ 0 then { bus with error := accessError flags bus }
  else
    { bus with
      data := ofLanes fun lane =>
        if lane < 2 ^ bus.width then bus.memory (bus.address + lane) else byteOf (noise bus.address) lane
      address := bus.advance }

def busWrite (bus : Bus) : Bus :=
  if accessError flags bus ≠ 0 then { bus with error := accessError flags bus }
  else
    { bus with
      memory := fun a =>
        if bus.address ≤ a ∧ a < bus.address + 2 ^ bus.width then byteOf bus.data (a - bus.address) else bus.memory a
      address := bus.advance }

/-- A write of the control register; ones in the error field clear it. -/
def writeControl (value : Nat) (bus : Bus) : Bus :=
  { bus with control := value, error := bus.error &&& (7 ^^^ ((value >>> 12) &&& 7)) }

def writeAddress (value : Nat) (bus : Bus) : Bus :=
  let bus := { bus with address := value }
  if bus.error = 0 ∧ bus.option rvSysbusMemReadOnAddr then busRead flags noise bus else bus

def writeData (value : BitVec 32) (bus : Bus) : Bus :=
  if bus.error = 0 then busWrite flags { bus with data := value } else bus

def readData (bus : Bus) : BitVec 32 × Bus :=
  (bus.data, if bus.error = 0 ∧ bus.option rvSysbusMemReadOnData then busRead flags noise bus else bus)

def riscv32UnpackData (dest : Buffer) (index : Nat) (data : BitVec 32) (accessWidth : Nat) : Buffer :=
  match accessWidth with
  | 0 => memcpyWord dest index (data &&& 0xff#32) 1
  | 1 => memcpyWord dest index (data &&& 0xffff#32) 2
  | 2 => memcpyWord dest index data 4
  | _ => dest

def riscv32PackData (src : Buffer) (index accessWidth : Nat) : BitVec 32 :=
  match accessWidth with
  | 0 => loadWord src index 1
  | 1 => loadWord src index 2
  | 2 => loadWord src index 4
  | _ => 0#32

structure Hart where
  status : Nat
  bus : Bus

/-- The status keeps the error field, which is then cleared. -/
def riscvSysbusCheck (hart : Hart) : Hart :=
  { status := hart.bus.error, bus := writeControl (7 <<< 12) hart.bus }

/-- The loop of the native read from block `k` on. -/
def nativeReads (len accessWidth command : Nat) : Nat → Nat → Buffer × Bus → Buffer × Bus
  | 0, _, reading => reading
  | more + 1, k, (dest, bus) =>
    let offset := k * 2 ^ accessWidth
    let bus :=
      if offset + 2 ^ accessWidth = len ∧ command &&& rvSysbusMemAddrPostInc ≠ 0 then writeControl 0 bus else bus
    let (value, bus) := readData flags noise bus
    nativeReads len accessWidth command more (k + 1) (riscv32UnpackData dest offset value accessWidth, bus)

def riscv32SysbusMemNativeRead (dest : Buffer) (src len accessWidth accessLength : Nat) (hart : Hart) :
    Buffer × Hart :=
  let command := (accessWidth <<< 17) ||| rvSysbusMemReadOnAddr |||
    (if accessLength < len then rvSysbusMemAddrPostInc ||| rvSysbusMemReadOnData else 0)
  let bus := writeAddress flags noise src (writeControl command hart.bus)
  let (dest, bus) := nativeReads flags noise len accessWidth command ((len + accessLength - 1) / accessLength) 0
    (dest, bus)
  (dest, riscvSysbusCheck { hart with bus := bus })

/-- The alignment that a width stands for as an argument of `adiv5_unpack_data`. -/
def widthAlign : Nat → Align
  | 0 => .bit8
  | 1 => .bit16
  | 2 => .bit32
  | _ => .bit64

/-- `dest` is written from `index` on. -/
def riscv32SysbusMemAdjustedRead (dest : Buffer) (index src accessWidth nativeAccessWidth accessLength : Nat)
    (hart : Hart) : Buffer × Hart :=
  let aligned := alignDown src accessLength
  match nativeAccessWidth with
  | 1 =>
    let (value, hart) := riscv32SysbusMemNativeRead flags noise (fun _ => 0#8) aligned accessLength 1 accessLength hart
    ((adiv5UnpackData dest index (src &&& 1) (loadWord value 0 2) (widthAlign accessWidth)).1, hart)
  | 2 =>
    let (value, hart) := riscv32SysbusMemNativeRead flags noise (fun _ => 0#8) aligned accessLength 2 accessLength hart
    ((adiv5UnpackData dest index (src &&& 3) (loadWord value 0 4) (widthAlign accessWidth)).1, hart)
  | _ => (dest, hart)

/-- The next width the hart's flags name, or 32 bits: `more` widths are left to try. -/
def nextNativeWidth : Nat → Nat → Nat
  | 0, width => width
  | more + 1, width => if (flags >>> width) &&& 1 = 0 ∧ width < 2 then nextNativeWidth more (width + 1) else width

/-- A buffer seen from an offset on. -/
def shifted (buffer : Buffer) (offset : Nat) : Buffer := fun i => buffer (offset + i)

/-- Put a buffer back from an offset on. -/
def spliced (dest : Buffer) (offset : Nat) (part : Buffer) : Buffer :=
  fun i => if offset ≤ i then part (i - offset) else dest i

/-- `riscv32_sysbus_mem_read` when the access width is not native, with the width it
takes instead. -/
def widenedRead (dest : Buffer) (src len accessWidth nativeAccessWidth : Nat) (hart : Hart) : Buffer × Hart :=
  let accessLength := 2 ^ accessWidth
  let nativeAccessLength := 2 ^ nativeAccessWidth
  let first := riscv32SysbusMemAdjustedRead flags noise dest 0 src accessWidth nativeAccessWidth nativeAccessLength hart
  let remainder := len - accessLength
  let address := add32 src accessLength
  if remainder = 0 then first
  else
    let amount := alignDown remainder nativeAccessLength
    let second :=
      if amount ≠ 0 then
        let part := riscv32SysbusMemNativeRead flags noise (shifted first.1 accessLength) address amount
          nativeAccessWidth nativeAccessLength first.2
        (spliced first.1 accessLength part.1, part.2)
      else first
    if remainder - amount ≠ 0 then
      riscv32SysbusMemAdjustedRead flags noise second.1 (accessLength + amount) (add32 address amount) accessWidth
        nativeAccessWidth nativeAccessLength second.2
    else second

def riscv32SysbusMemRead (dest : Buffer) (src len : Nat) (hart : Hart) : Buffer × Hart :=
  let accessWidth := riscvMemAccessWidth src len
  let accessLength := 2 ^ accessWidth
  if flags &&& accessLength ≠ 0 then riscv32SysbusMemNativeRead flags noise dest src len accessWidth accessLength hart
  else widenedRead flags noise dest src len accessWidth (nextNativeWidth flags 2 accessWidth) hart

/-- The loop of the native write from block `k` on. -/
def nativeWrites (src : Buffer) (accessWidth : Nat) : Nat → Nat → Bus → Bus
  | 0, _, bus => bus
  | more + 1, k, bus =>
    let value := riscv32PackData src (k * 2 ^ accessWidth) accessWidth
    nativeWrites src accessWidth more (k + 1) (writeData flags value bus)

def riscv32SysbusMemNativeWrite (dest : Nat) (src : Buffer) (len accessWidth accessLength : Nat) (hart : Hart) : Hart :=
  let command := (accessWidth <<< 17) ||| (if accessLength < len then rvSysbusMemAddrPostInc else 0)
  let bus := writeAddress flags noise dest (writeControl command hart.bus)
  let bus := nativeWrites flags src accessWidth ((len + accessLength - 1) / accessLength) 0 bus
  riscvSysbusCheck { hart with bus := bus }

/-- The bytes of a little-endian value as a buffer. -/
def wordBuffer (value : BitVec 32) : Buffer := fun i => byteOf value i

def riscv32SysbusMemAdjustedWrite (dest : Nat) (src : Buffer) (accessWidth nativeAccessWidth accessLength : Nat)
    (hart : Hart) : Hart :=
  let aligned := alignDown dest accessLength
  match nativeAccessWidth with
  | 1 =>
    let hart := (riscv32SysbusMemNativeRead flags noise (fun _ => 0#8) aligned accessLength 1 accessLength hart).2
    let widenedValue := (adiv5PackData (dest &&& 1) src 0 (widthAlign accessWidth)).1
    riscv32SysbusMemNativeWrite flags noise aligned (wordBuffer (widenedValue &&& 0xffff#32)) accessLength 1
      accessLength hart
  | 2 =>
    let hart := (riscv32SysbusMemNativeRead flags noise (fun _ => 0#8) aligned accessLength 2 accessLength hart).2
    let value := (adiv5PackData (dest &&& 3) src 0 (widthAlign accessWidth)).1
    riscv32SysbusMemNativeWrite flags noise aligned (wordBuffer value) accessLength 2 accessLength hart
  | _ => hart

/-- `riscv32_sysbus_mem_write` when the access width is not native. -/
def widenedWrite (dest : Nat) (src : Buffer) (len accessWidth nativeAccessWidth : Nat) (hart : Hart) : Hart :=
  let accessLength := 2 ^ accessWidth
  let nativeAccessLength := 2 ^ nativeAccessWidth
  let first := riscv32SysbusMemAdjustedWrite flags noise dest src accessWidth nativeAccessWidth nativeAccessLength hart
  let remainder := len - accessLength
  let address := add32 dest accessLength
  if remainder = 0 then first
  else
    let amount := alignDown remainder nativeAccessLength
    let second :=
      if amount ≠ 0 then
        riscv32SysbusMemNativeWrite flags noise address (shifted src accessLength) amount nativeAccessWidth
          nativeAccessLength first
      else first
    if remainder - amount ≠ 0 then
      riscv32SysbusMemAdjustedWrite flags noise (add32 address amount) (shifted src (accessLength + amount))
        accessWidth nativeAccessWidth nativeAccessLength second
    else second

def riscv32SysbusMemWrite (dest : Nat) (src : Buffer) (len : Nat) (hart : Hart) : Hart :=
  let accessWidth := riscvMemAccessWidth dest len
  let accessLength := 2 ^ accessWidth
  if flags &&& accessLength ≠ 0 then riscv32SysbusMemNativeWrite flags noise dest src len accessWidth accessLength hart
  else widenedWrite flags noise dest src len accessWidth (nextNativeWidth flags 2 accessWidth) hart

end BlackMagic.Sysbus
