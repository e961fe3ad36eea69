import BlackMagic.Lib.Program
import BlackMagic.Sysbus

/-! Memory accesses of a RISC-V hart as its debug module performs them, through the system bus and by abstract commands
(`riscv32.c`). The registers of the module start accesses as a side effect; an access may take some looks at the status, may end in
an error, and a transfer to the module may fail. -/

namespace BlackMagic.RiscvMemory
open Lib Lib.Program Lib.Words Sysbus

/-- An access to memory, in so many bytes as a power of two. -/
inductive Access where
  | read (address : BitVec 32) (width : Nat)
  | write (address : BitVec 32) (width : Nat) (bytes : List Byte)
  deriving DecidableEq

def Access.address : Access → BitVec 32
  | .read address _ => address
  | .write address _ _ => address

def Access.width : Access → Nat
  | .read _ width => width
  | .write _ width _ => width

def Access.reads : Access → Bool
  | .read _ _ => true
  | .write _ _ _ => false

/-- What an access brings, after all accesses that end with it, and which transfers fail. -/
structure World where
  found : List Access → BitVec 32
  delay : List Access → Nat
  error : List Access → BitVec 3
  fails : Nat → Bool

structure DebugModule where
  control : Nat
  address : BitVec 32
  data : BitVec 32
  error : BitVec 3
  busyError : Bool
  busy : Nat
  arg0 : BitVec 32
  arg1 : BitVec 32
  commandError : BitVec 3
  commandBusy : Nat
  accesses : List Access

/-- The hart with the buffer that a read is to fill. -/
structure Hart where
  status : Nat
  dest : Buffer
  dbgModule : DebugModule
  transfers : Nat

section Module
variable (world : World)

def DebugModule.width (dm : DebugModule) : Nat := (dm.control >>> 17) &&& 7

def DebugModule.option (dm : DebugModule) (mask : Nat) : Bool := dm.control &&& mask ≠ 0

def bytesOf (width : Nat) (data : BitVec 32) : List Byte := (List.range (2 ^ width)).map (byteOf data)

/-- An access over the system bus, which is refused while there is another one, or an error. -/
def DebugModule.perform (dm : DebugModule) (access : Access) : DebugModule :=
  if dm.busy ≠ 0 then { dm with busyError := true }
  else if dm.error ≠ 0 ∨ dm.busyError then dm
  else
    let accesses := dm.accesses ++ [access]
    { dm with
      data := if access.reads then world.found accesses else dm.data
      address :=
        if world.error accesses = 0 ∧ dm.option rvSysbusMemAddrPostInc then dm.address + BitVec.ofNat 32 (2 ^ dm.width)
        else dm.address
      error := world.error accesses
      busy := world.delay accesses
      accesses := accesses }

def rvDmAbstCmdAccessMem : Nat := 0x02000000
def rvAbstRead : Nat := 0
def rvAbstWrite : Nat := 0x00010000
def rvAbstMemAddrPostInc : Nat := 0x00080000
def rvAbstMemAccessShift : Nat := 20

/-- An abstract command, of which there are those for memory only. -/
def DebugModule.execute (dm : DebugModule) (command : Nat) : DebugModule :=
  if dm.commandError ≠ 0 then dm
  else if dm.commandBusy ≠ 0 then { dm with commandError := 1 }
  else if command >>> 24 ≠ 2 then { dm with commandError := 2 }
  else
    let width := (command >>> rvAbstMemAccessShift) &&& 7
    let writes : Bool := command &&& rvAbstWrite ≠ 0
    let access := if writes then Access.write dm.arg1 width (bytesOf width dm.arg0) else Access.read dm.arg1 width
    let accesses := dm.accesses ++ [access]
    { dm with
      arg0 := if writes then dm.arg0 else world.found accesses
      arg1 :=
        if world.error accesses = 0 ∧ command &&& rvAbstMemAddrPostInc ≠ 0 then dm.arg1 + BitVec.ofNat 32 (2 ^ width)
        else dm.arg1
      commandError := world.error accesses
      commandBusy := world.delay accesses
      accesses := accesses }

/-- The registers are left alone while a command is going on. -/
def DebugModule.unlessBusy (dm : DebugModule) (changed : DebugModule) : DebugModule :=
  if dm.commandBusy = 0 then changed
  else { dm with commandError := if dm.commandError = 0 then 1 else dm.commandError }

/-- A write of a register of the module. -/
inductive Write where
  | data0 (value : BitVec 32)
  | data1 (value : BitVec 32)
  | abstCtrlStatus (value : Nat)
  | abstCommand (value : Nat)
  | sysbusCtrlStatus (value : Nat)
  | sysbusAddr0 (value : BitVec 32)
  | sysbusData0 (value : BitVec 32)

/-- Ones in the error fields clear these. -/
def DebugModule.write (dm : DebugModule) : Write → DebugModule
  | .data0 value => dm.unlessBusy { dm with arg0 := value }
  | .data1 value => dm.unlessBusy { dm with arg1 := value }
  | .abstCtrlStatus value => dm.unlessBusy { dm with commandError := dm.commandError &&& ~~~BitVec.ofNat 3 (value >>> 8) }
  | .abstCommand value => dm.execute world value
  | .sysbusCtrlStatus value =>
    { dm with
      control := value
      error := dm.error &&& ~~~BitVec.ofNat 3 (value >>> 12)
      busyError := dm.busyError && !value.testBit 22 }
  | .sysbusAddr0 value =>
    if dm.busy ≠ 0 then { dm with busyError := true }
    else
      let dm := { dm with address := value }
      if dm.option rvSysbusMemReadOnAddr then dm.perform world (.read dm.address dm.width) else dm
  | .sysbusData0 value =>
    if dm.busy ≠ 0 then { dm with busyError := true }
    else { dm with data := value }.perform world (.write dm.address dm.width (bytesOf dm.width value))

inductive Register where
  | data0
  | abstCtrlStatus
  | sysbusCtrlStatus
  | sysbusData0

def rvDmAbstStatusBusy : Nat := 0x1000
def rvSysbusStatusBusy : Nat := 0x200000

/-- A read of a register, with the fields of a status that are looked at. -/
def DebugModule.read (dm : DebugModule) : Register → Nat × DebugModule
  | .data0 => (dm.arg0.toNat, dm.unlessBusy dm)
  | .abstCtrlStatus =>
    ((if dm.commandBusy ≠ 0 then rvDmAbstStatusBusy else 0) ||| dm.commandError.toNat <<< 8,
      { dm with commandBusy := dm.commandBusy - 1 })
  | .sysbusCtrlStatus =>
    ((if dm.busy ≠ 0 then rvSysbusStatusBusy else 0) ||| dm.error.toNat <<< 12, { dm with busy := dm.busy - 1 })
  | .sysbusData0 =>
    (dm.data.toNat,
      if dm.busy ≠ 0 ∨ dm.option rvSysbusMemReadOnData then dm.perform world (.read dm.address dm.width) else dm)

end Module

/-- How an access comes to an end early: because a transfer or a command has failed, or because a loop has not ended. -/
inductive Halt where
  | returned
  | hung
  deriving DecidableEq

abbrev Action := Program Hart Halt

section Transfers
variable (world : World)

def changeModule (f : DebugModule → DebugModule) : Action Unit :=
  change fun hart => { hart with dbgModule := f hart.dbgModule }

/-- A transfer to the module, whose failure ends the access. -/
def transfer : Action Unit := do
  let hart ← read
  change fun hart => { hart with transfers := hart.transfers + 1 }
  if world.fails hart.transfers then stop .returned else pure ()

def riscvDmWrite (write : Write) : Action Unit := do
  transfer world
  changeModule fun dm => dm.write world write

def riscvDmRead (register : Register) : Action Nat := do
  transfer world
  let hart ← read
  changeModule fun dm => (dm.read world register).2
  pure (hart.dbgModule.read world register).1

/-- Look at a status until the access that it is about is over, at most so many times. -/
def waitWhile (register : Register) (busy : Nat) : Nat → Action Nat
  | 0 => stop .hung
  | looks + 1 => do
    let status ← riscvDmRead world register
    if status &&& busy ≠ 0 then waitWhile register busy looks else pure status

def setStatus (status : Nat) : Action Unit := change fun hart => { hart with status := status }

def unpackData (index : Nat) (value : BitVec 32) (accessWidth : Nat) : Action Unit :=
  change fun hart => { hart with dest := riscv32UnpackData hart.dest index value accessWidth }

end Transfers

section Sysbus
variable (world : World)

/-- The loop ends once the access does. -/
def waitSysbus : Action Unit := do
  let hart ← read
  let _ ← waitWhile world .sysbusCtrlStatus rvSysbusStatusBusy (hart.dbgModule.busy + 1)
  pure ()

def riscvSysbusCheck : Action Unit := do
  let status ← riscvDmRead world .sysbusCtrlStatus
  setStatus ((status >>> 12) &&& 7)
  riscvDmWrite world (.sysbusCtrlStatus (7 <<< 12))

/-- The loop of the native read from block `k` on. -/
def nativeReads (len accessWidth command : Nat) : Nat → Nat → Action Unit
  | 0, _ => pure ()
  | more + 1, k => do
    let offset := k * 2 ^ accessWidth
    waitSysbus world
    onlyIf (offset + 2 ^ accessWidth = len ∧ command &&& rvSysbusMemAddrPostInc ≠ 0) do
      riscvDmWrite world (.sysbusCtrlStatus 0)
    let value ← riscvDmRead world .sysbusData0
    unpackData offset (BitVec.ofNat 32 value) accessWidth
    nativeReads len accessWidth command more (k + 1)

def riscv32SysbusMemNativeRead (src : BitVec 32) (len accessWidth accessLength : Nat) : Action Unit := do
  let command := (accessWidth <<< 17) ||| rvSysbusMemReadOnAddr |||
    (if accessLength < len then rvSysbusMemAddrPostInc ||| rvSysbusMemReadOnData else 0)
  riscvDmWrite world (.sysbusCtrlStatus command)
  riscvDmWrite world (.sysbusAddr0 src)
  nativeReads world len accessWidth command ((len + accessLength - 1) / accessLength) 0
  riscvSysbusCheck world

/-- The loop of the native write from block `k` on. -/
def nativeWrites (src : Buffer) (accessWidth : Nat) : Nat → Nat → Action Unit
  | 0, _ => pure ()
  | more + 1, k => do
    riscvDmWrite world (.sysbusData0 (riscv32PackData src (k * 2 ^ accessWidth) accessWidth))
    waitSysbus world
    nativeWrites src accessWidth more (k + 1)

def riscv32SysbusMemNativeWrite (dest : BitVec 32) (src : Buffer) (len accessWidth accessLength : Nat) : Action Unit := do
  let command := (accessWidth <<< 17) ||| (if accessLength < len then rvSysbusMemAddrPostInc else 0)
  riscvDmWrite world (.sysbusCtrlStatus command)
  riscvDmWrite world (.sysbusAddr0 dest)
  nativeWrites world src accessWidth ((len + accessLength - 1) / accessLength) 0
  riscvSysbusCheck world

end Sysbus

section Abstract
variable (world : World)

/-- A command that has failed ends the access. -/
def riscvCommandWaitComplete : Action Unit := do
  let hart ← read
  let status ← waitWhile world .abstCtrlStatus rvDmAbstStatusBusy (hart.dbgModule.commandBusy + 1)
  setStatus ((status >>> 8) &&& 7)
  riscvDmWrite world (.abstCtrlStatus (7 <<< 8))
  if (status >>> 8) &&& 7 = 0 then pure () else stop .returned

/-- The loop of the abstract read from block `k` on. -/
def abstractReads (accessWidth command : Nat) : Nat → Nat → Action Unit
  | 0, _ => pure ()
  | more + 1, k => do
    riscvDmWrite world (.abstCommand command)
    riscvCommandWaitComplete world
    let value ← riscvDmRead world .data0
    unpackData (k * 2 ^ accessWidth) (BitVec.ofNat 32 value) accessWidth
    abstractReads accessWidth command more (k + 1)

def riscv32AbstractMemRead (src : BitVec 32) (len : Nat) : Action Unit := do
  let accessWidth := riscvMemAccessWidth src.toNat len
  let accessLength := 2 ^ accessWidth
  let command := rvDmAbstCmdAccessMem ||| rvAbstRead ||| (accessWidth <<< rvAbstMemAccessShift) |||
    (if accessLength < len then rvAbstMemAddrPostInc else 0)
  riscvDmWrite world (.data1 src)
  abstractReads world accessWidth command ((len + accessLength - 1) / accessLength) 0

/-- The loop of the abstract write from block `k` on. -/
def abstractWrites (src : Buffer) (accessWidth command : Nat) : Nat → Nat → Action Unit
  | 0, _ => pure ()
  | more + 1, k => do
    riscvDmWrite world (.data0 (riscv32PackData src (k * 2 ^ accessWidth) accessWidth))
    riscvDmWrite world (.abstCommand command)
    riscvCommandWaitComplete world
    abstractWrites src accessWidth command more (k + 1)

def riscv32AbstractMemWrite (dest : BitVec 32) (src : Buffer) (len : Nat) : Action Unit := do
  let accessWidth := riscvMemAccessWidth dest.toNat len
  let accessLength := 2 ^ accessWidth
  let command := rvDmAbstCmdAccessMem ||| rvAbstWrite ||| (accessWidth <<< rvAbstMemAccessShift) |||
    (if accessLength < len then rvAbstMemAddrPostInc else 0)
  riscvDmWrite world (.data1 dest)
  abstractWrites world src accessWidth command ((len + accessLength - 1) / accessLength) 0

end Abstract

end BlackMagic.RiscvMemory
