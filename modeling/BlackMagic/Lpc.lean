import BlackMagic.Bytes
import BlackMagic.Lib.Polling
import BlackMagic.Lib.Words
import BlackMagic.Registers

/-! The Flash access of the LPC drivers through the IAP routines in ROM (`lpc_common.c`): erases and writes as IAP calls, and
one such call with what it saves of the target and puts back. -/

namespace BlackMagic.Lpc
open Lib.Polling Lib.Words

inductive IapCmd where
  | readFactorySettings
  | init
  | prepare
  | program
  | erase
  | blankcheck
  | partId
  | readBootromVersion
  | compare
  | reinvokeIsp
  | readUid
  | erasePage
  | setActiveBank
  | readSignature
  | extendedReadSignature
  | readEepromPage
  | writeEepromPage
  deriving DecidableEq, Repr

def IapCmd.code : IapCmd → BitVec 32
  | .readFactorySettings => 40
  | .init => 49
  | .prepare => 50
  | .program => 51
  | .erase => 52
  | .blankcheck => 53
  | .partId => 54
  | .readBootromVersion => 55
  | .compare => 56
  | .reinvokeIsp => 57
  | .readUid => 58
  | .erasePage => 59
  | .setActiveBank => 60
  | .readSignature => 70
  | .extendedReadSignature => 73
  | .readEepromPage => 80
  | .writeEepromPage => 81

def iapStatusCmdSuccess : BitVec 32 := 0
def iapStatusInvalidCommand : BitVec 32 := 1
def cpuClkKhz : Nat := 12000

/-- The bytes of the frame: the opcode with its padding, the configuration and the result. -/
def iapFrameSize : Nat := 44
def configOffset : Nat := 4
def resultOffset : Nat := 24

/-- Where a watchdog has its mode and its feed register. -/
structure Watchdog where
  mode : Nat
  feed : Nat
  deriving DecidableEq, Repr

def lpc43xxWdt : Watchdog := ⟨0x40080000, 0x40080008⟩
def lpc546xxWdt : Watchdog := ⟨0x4000c000, 0x4000c008⟩

/-- The frame does not lie over the end of the address space, and not over the register that feeds the watchdog. -/
structure LpcFlash where
  start : Nat
  length : Nat
  blocksize : Nat
  baseSector : Nat
  bank : Nat
  reservedPages : Nat
  wdtKick : Option Watchdog
  iapEntry : BitVec 32
  iapRam : Nat
  iapMsp : BitVec 32
  fits : iapRam + iapFrameSize ≤ 2 ^ 32
  apart : ∀ wdt ∈ wdtKick, iapRam + iapFrameSize ≤ wdt.feed ∨ wdt.feed + 4 ≤ iapRam

/-- The regions of the LPC11xx and LPC8xx. -/
def lpc11xxAddFlash (addr len eraseBlockLen : Nat) (iapEntry : BitVec 32) (reservedPages : Nat) : LpcFlash :=
  { start := addr
    length := len
    blocksize := eraseBlockLen
    baseSector := 0
    bank := 0
    reservedPages := reservedPages % 256
    wdtKick := none
    iapEntry := iapEntry
    iapRam := 0x10000000
    iapMsp := 0x10000000 + 1024 - 32
    fits := by decide
    apart := by intro wdt never; cases never }

/-- The regions of the LPC43xx. -/
def lpc43xxAddIapFlash (iapEntry : BitVec 32) (bank baseSector addr len erasesize : Nat) : LpcFlash :=
  { start := addr
    length := len
    blocksize := erasesize
    baseSector := baseSector
    bank := bank
    reservedPages := 0
    wdtKick := some lpc43xxWdt
    iapEntry := iapEntry
    iapRam := 0x2000c000
    iapMsp := 0x2000c000 + 0x4000
    fits := by decide
    apart := by intro wdt same; cases same; exact .inl (by decide) }

/-- The regions of the LPC546xx. -/
def lpc546xxAddFlash (iapEntry : BitVec 32) (baseSector addr len erasesize : Nat) : LpcFlash :=
  { start := addr
    length := len
    blocksize := erasesize
    baseSector := baseSector
    bank := 0
    reservedPages := 0
    wdtKick := some lpc546xxWdt
    iapEntry := iapEntry
    iapRam := 0x20000000
    iapMsp := 0x20000000 + 0x10000
    fits := by decide
    apart := by intro wdt same; cases same; exact .inl (by decide) }

/-- The number is kept in a byte. -/
def lpcSectorForAddr (f : LpcFlash) (addr : Nat) : Nat := (f.baseSector + sub32 addr f.start / f.blocksize) % 256

section EraseWrite

/-- A call of the IAP routines, with its parameters. -/
structure IapCall where
  cmd : IapCmd
  params : List Nat
  deriving DecidableEq, Repr

def sectorSize : Nat := 0x400
def pageSize : Nat := 0x40

/-- The calls up to the first that does not answer with success. -/
def callAll (statuses : Nat → BitVec 32) (calls : List IapCall) : Option Bool × List IapCall :=
  issue (fun i => some (statuses i == iapStatusCmdSuccess)) 0 calls

def lpcFlashErase (f : LpcFlash) (statuses : Nat → BitVec 32) (addr len : Nat) : Option Bool × List IapCall :=
  let start := lpcSectorForAddr f addr
  let last := lpcSectorForAddr f (sub32 (add32 addr len) 1)
  let lastFullSector :=
    if f.reservedPages ≠ 0 ∧ sub32 f.length 0x400 ≤ add32 addr len then sub32 last 1 else last
  let sectors : List IapCall :=
    if start ≤ lastFullSector then
      [⟨.erase, [start, lastFullSector, cpuClkKhz, f.bank]⟩, ⟨.blankcheck, [start, lastFullSector, f.bank]⟩]
    else []
  let pageStart := sub32 (add32 addr len) sectorSize / pageSize
  let pageEnd := sub32 (pageStart + sectorSize / pageSize - 1) f.reservedPages
  let pages : List IapCall :=
    if lastFullSector ≠ last then
      [⟨.prepare, [last, last, f.bank]⟩, ⟨.erasePage, [pageStart, pageEnd, cpuClkKhz, f.bank]⟩]
    else []
  callAll statuses (⟨.prepare, [start, last, f.bank]⟩ :: (sectors ++ pages))

/-- Where the data to be programmed is put, behind the frame. -/
def bufAddr (f : LpcFlash) : Nat := (f.iapRam + iapFrameSize + 3) / 4 * 4

/-- A page with the step that prepares its sector. -/
def programPage (f : LpcFlash) (sector dest offset : Nat) : List IapCall :=
  [⟨.prepare, [sector, sector, f.bank]⟩, ⟨.program, [dest + offset, bufAddr f + offset, pageSize, cpuClkKhz]⟩]

/-- The data is in RAM before the first program command. -/
def lpcFlashWrite (f : LpcFlash) (statuses : Nat → BitVec 32) (dest len : Nat) : Option Bool × List IapCall :=
  let sector := lpcSectorForAddr f dest
  let program : List IapCall :=
    if f.reservedPages = 0 ∨ add32 dest len ≤ sub32 f.length len then
      [⟨.program, [dest, bufAddr f, len, cpuClkKhz]⟩]
    else
      let end_ := sub32 len (pageSize * f.reservedPages)
      (List.range ((end_ + pageSize - 1) / pageSize)).flatMap fun k => programPage f sector dest (k * pageSize)
  callAll statuses (⟨.prepare, [sector, sector, f.bank]⟩ :: program)

end EraseWrite

section IapCall

/-- A Cortex-M: whether it has floating point registers, and when R13 is the process stack pointer, by xPSR and the special
registers. -/
structure Cpu where
  fpu : Bool
  usesPsp : BitVec 32 → BitVec 32 → Bool

/-- The registers by their selectors, and memory. -/
structure TargetState where
  registers : Nat → BitVec 32
  memory : Nat → Byte

def regselSp : Nat := 13
def regselPc : Nat := 15
def regselXpsr : Nat := 0x10
def regselMsp : Nat := 0x11
def regselPsp : Nat := 0x12
def regselSpecial : Nat := 0x14
def xpsrThumb : BitVec 32 := 1 <<< 24
def xpsrExceptionMask : BitVec 32 := 0x1f

/-- The register behind a selector. -/
def Cpu.slot (cpu : Cpu) (registers : Nat → BitVec 32) (regsel : Nat) : Nat :=
  if regsel = regselSp then
    if cpu.usesPsp (registers regselXpsr) (registers regselSpecial) then regselPsp else regselMsp
  else regsel

def Cpu.readReg (cpu : Cpu) (registers : Nat → BitVec 32) (regsel : Nat) : BitVec 32 := registers (cpu.slot registers regsel)

def Cpu.writeReg (cpu : Cpu) (registers : Nat → BitVec 32) (regsel : Nat) (value : BitVec 32) : Nat → BitVec 32 :=
  fun other => if other = cpu.slot registers regsel then value else registers other

def Cpu.regnums (cpu : Cpu) : List Nat :=
  Registers.regnumCortexM ++ if cpu.fpu then Registers.regnumCortexMf else []

def targetRegsRead (cpu : Cpu) (state : TargetState) : List (BitVec 32) := cpu.regnums.map (cpu.readReg state.registers)

def writeRegs (cpu : Cpu) : List (Nat × BitVec 32) → (Nat → BitVec 32) → Nat → BitVec 32
  | [], registers => registers
  | (regsel, value) :: rest, registers => writeRegs cpu rest (cpu.writeReg registers regsel value)

def targetRegsWrite (cpu : Cpu) (regs : List (BitVec 32)) (state : TargetState) : TargetState :=
  { state with registers := writeRegs cpu (cpu.regnums.zip regs) state.registers }

def targetMemRead (state : TargetState) (src len : Nat) : List Byte := (List.range len).map fun i => state.memory (src + i)

def targetMemWrite (dest : Nat) (data : List Byte) (state : TargetState) : TargetState :=
  { state with
    memory := fun a => if dest ≤ a ∧ a < dest + data.length then data.getD (a - dest) 0 else state.memory a }

def targetMemRead32 (state : TargetState) (addr : Nat) : BitVec 32 := ofLanes fun lane => state.memory (addr + lane)

def targetMemWrite32 (addr : Nat) (value : BitVec 32) (state : TargetState) : TargetState :=
  targetMemWrite addr (Registers.wordBytes value) state

/-- The LPC43xx and the LPC546xx feed their watchdog if it is on. -/
def wdtKick (wdt : Watchdog) (state : TargetState) : TargetState :=
  if targetMemRead32 state wdt.mode ≠ 0 then
    targetMemWrite32 wdt.feed 0xff (targetMemWrite32 wdt.feed 0xaa state)
  else state

def lpcSaveState (cpu : Cpu) (iapRam : Nat) (state : TargetState) : List Byte × List (BitVec 32) :=
  (targetMemRead state iapRam iapFrameSize, targetRegsRead cpu state)

def lpcRestoreState (cpu : Cpu) (iapRam : Nat) (frame : List Byte) (regs : List (BitVec 32)) (state : TargetState) :
    TargetState :=
  targetRegsWrite cpu regs (targetMemWrite iapRam frame state)

def lpcIapParams : IapCmd → Nat
  | .prepare | .blankcheck => 3
  | .erase | .erasePage | .program => 4
  | .setActiveBank => 2
  | _ => 0

/-- The parameters in the frame; those that a command does not have are 0. -/
def frameParams (cmd : IapCmd) (params : List (BitVec 32)) : List (BitVec 32) :=
  (List.range 4).map fun i => if i < lpcIapParams cmd then params.getD i 0 else 0

/-- The frame, with a breakpoint as its opcode and two bytes of padding that hold anything. -/
def iapFrame (padding : Byte × Byte) (cmd : IapCmd) (params : List (BitVec 32)) : List Byte :=
  [0x00, 0xbe, padding.1, padding.2] ++
    (cmd.code :: frameParams cmd params ++ [cmd.code, 0, 0, 0, 0]).flatMap Registers.wordBytes

def iapRegs (cpu : Cpu) (flash : LpcFlash) : List (BitVec 32) :=
  let ram := BitVec.ofNat 32 flash.iapRam
  let regs := (List.replicate cpu.regnums.length (0 : BitVec 32)).set 0 (ram + BitVec.ofNat 32 configOffset)
  ((((regs.set 1 (ram + BitVec.ofNat 32 resultOffset)).set 17 flash.iapMsp).set 14 (ram ||| 1)).set 15 flash.iapEntry).set 16
    (if flash.iapEntry &&& 1 ≠ 0 then xpsrThumb else 0)

/-- The target after the watchdog was fed. -/
def iapKicked (flash : LpcFlash) (state : TargetState) : TargetState :=
  match flash.wdtKick with
  | some wdt => wdtKick wdt state
  | none => state

/-- The target as it starts to run the routine. -/
def iapStarted (cpu : Cpu) (flash : LpcFlash) (padding : Byte × Byte) (cmd : IapCmd) (params : List (BitVec 32))
    (state : TargetState) : TargetState :=
  targetRegsWrite cpu (iapRegs cpu flash) (targetMemWrite flash.iapRam (iapFrame padding cmd params) (iapKicked flash state))

/-- What the routine does: at which polls the target has halted, what it is like at each, and when the time is over. -/
structure RomRun where
  halted : Nat → Bool
  expired : Nat → Bool
  state : Nat → TargetState

def lpcIsFullErase (f : LpcFlash) (first last : Nat) : Bool :=
  first == lpcSectorForAddr f f.start && last == lpcSectorForAddr f (sub32 (add32 f.start f.length) 1)

/-- An exception that is not the breakpoint at the end of the call. -/
def iapFaulted (flash : LpcFlash) (state : TargetState) : Bool :=
  let status := state.registers regselXpsr
  let faultAddress :=
    if status &&& xpsrThumb ≠ 0 then state.registers regselPc ||| 1 else state.registers regselPc
  status &&& xpsrExceptionMask != 0 && faultAddress != (BitVec.ofNat 32 flash.iapRam ||| 1)

/-- The loop until the target halts, or the time for a part ID call is over: whether it halted, and at which poll. -/
def iapWait (patience : Nat) (cmd : IapCmd) (fullErase : Bool) (run : RomRun) : Option (Bool × Nat) :=
  await (fun n =>
    if run.halted n then some (true, n)
    else if !fullErase && cmd == .partId && run.expired n then some (false, n)
    else none) patience 0

/-- The status of a call, the result if one was read, and the target after it. -/
structure IapOutcome where
  status : BitVec 32
  result : Option (List Byte)
  state : TargetState

def lpcIapCall (patience : Nat) (cpu : Cpu) (flash : LpcFlash) (rom : TargetState → RomRun) (padding : Byte × Byte)
    (cmd : IapCmd) (params : List (BitVec 32)) (state : TargetState) : Option IapOutcome :=
  let saved := lpcSaveState cpu flash.iapRam (iapKicked flash state)
  let run := rom (iapStarted cpu flash padding cmd params state)
  let inFrame := frameParams cmd params
  let fullErase := cmd == .erase && lpcIsFullErase flash (inFrame.getD 0 0).toNat (inFrame.getD 1 0).toNat
  match iapWait patience cmd fullErase run with
  | some (halted, n) =>
    let restored := lpcRestoreState cpu flash.iapRam saved.1 saved.2 (run.state n)
    if !halted ∨ iapFaulted flash (run.state n) then some ⟨iapStatusInvalidCommand, none, restored⟩
    else
      let results := targetMemRead (run.state n) (flash.iapRam + resultOffset) 20
      some ⟨ofLanes fun lane => results.getD lane 0, some results, restored⟩
  | none => none

end IapCall

end BlackMagic.Lpc
