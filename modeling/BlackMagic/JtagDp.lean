import BlackMagic.Jtag
import BlackMagic.Lib.Bits
import BlackMagic.SwdAccess

/-! The debug ports on a JTAG chain (`adiv5_jtag.c`): the accesses of the probe, over the chain or straight to the ports,
and the port as a part of a chain. The clock in milliseconds is given by the number of data scans before. -/

namespace BlackMagic.JtagDp
open Lib Lib.Program Lib.Tap Lib.Bits
open Jtag (Probe jtagDevWriteIr jtagDevShiftDr)
open SwdAccess (Halt adiv5ApnDp abortDapabort systickMs)

def jtagdpAckOk : BitVec 8 := 2
def jtagdpAckWait : BitVec 8 := 1
def irAbort : BitVec 32 := 0x8
def irDpacc : BitVec 32 := 0xa
def irApacc : BitVec 32 := 0xb
def adiv5DpCtrlstat : BitVec 16 := 0x4
def adiv5DpRdbuff : BitVec 16 := 0xc
def adiv5DpCtrlstatErrmask : BitVec 32 := 0xf0000032

/-- What carries the instructions and the data of 35 bits to a device. -/
structure Wire (τ : Type) where
  writeIr (devIndex : Nat) (ir : BitVec 32) : τ → τ
  shiftDr (devIndex : Nat) (request : BitVec 64) : τ → BitVec 64 × τ
  /-- What comes out is not kept. -/
  shiftIn (devIndex : Nat) (request : BitVec 64) : τ → τ

structure Link (τ : Type) where
  wire : τ
  /-- The faults of the debug ports, by device. -/
  fault : Nat → BitVec 8
  scans : Nat

section Access
variable {τ : Type} (platformTimeMs : Nat → Nat) (wire : Wire τ)

abbrev Action (τ : Type) := Program (Link τ) Halt

def platformTimeoutSet (ms : Nat) : Action τ Nat := do
  let link ← read
  pure (platformTimeMs link.scans + if ms < systickMs then systickMs else ms)

def platformTimeoutIsExpired (timeout : Nat) : Action τ Bool := do
  let link ← read
  pure (decide (timeout < platformTimeMs link.scans))

def jtagDevWriteIr (devIndex : Nat) (ir : BitVec 32) : Action τ Unit :=
  change fun link => { link with wire := wire.writeIr devIndex ir link.wire }

/-- The result and the acknowledgement of a scan. -/
def scan (devIndex : Nat) (request : BitVec 64) : Action τ (BitVec 32 × BitVec 8) := do
  let link ← read
  change fun link => { link with wire := (wire.shiftDr devIndex request link.wire).2, scans := link.scans + 1 }
  let response := (wire.shiftDr devIndex request link.wire).1
  pure ((response >>> 3).setWidth 32, (response &&& 0x07#64).setWidth 8)

def setFault (devIndex : Nat) (fault : BitVec 8) : Action τ Unit :=
  change fun link => { link with fault := Function.update link.fault devIndex fault }

def adiv5JtagdpAbort (devIndex : Nat) (abort : BitVec 32) : Action τ Unit := do
  let request : BitVec 64 := abort.setWidth 64 <<< 3
  jtagDevWriteIr wire devIndex irAbort
  change fun link => { link with wire := wire.shiftIn devIndex request link.wire, scans := link.scans + 1 }

/-- The loop of an access, for at most so many rounds. -/
def scanUntil (devIndex : Nat) (request : BitVec 64) (timeout : Nat) : Nat → Action τ (BitVec 32 × BitVec 8)
  | 0 => stop .unfinished
  | rounds + 1 => do
    let (result, ack) ← scan wire devIndex request
    if !(← platformTimeoutIsExpired platformTimeMs timeout) ∧ ack = jtagdpAckWait then
      scanUntil devIndex request timeout rounds
    else pure (result, ack)

def requestOf (rnw : Bool) (addr : BitVec 16) (value : BitVec 32) : BitVec 64 :=
  (value.setWidth 64 <<< 3) ||| (((addr &&& 0xff#16) >>> 1) &&& 0x06#16).setWidth 64 ||| if rnw then 1#64 else 0#64

def fwAdiv5JtagdpLowAccess (rounds devIndex : Nat) (rnw : Bool) (addr : BitVec 16) (value : BitVec 32) :
    Action τ (BitVec 32) := do
  let apndp := addr &&& adiv5ApnDp ≠ 0
  jtagDevWriteIr wire devIndex (if apndp then irApacc else irDpacc)
  let timeout ← platformTimeoutSet platformTimeMs 250
  let (result, ack) ← scanUntil platformTimeMs wire devIndex (requestOf rnw addr value) timeout rounds
  if ack = jtagdpAckWait then do
    adiv5JtagdpAbort wire devIndex abortDapabort
    setFault devIndex 1
    pure 0
  else if ack ≠ jtagdpAckOk then stop (.raised "JTAG-DP invalid ACK")
  else pure result

def fwAdiv5JtagdpRead (rounds devIndex : Nat) (addr : BitVec 16) : Action τ (BitVec 32) := do
  let _ ← fwAdiv5JtagdpLowAccess platformTimeMs wire rounds devIndex true addr 0
  fwAdiv5JtagdpLowAccess platformTimeMs wire rounds devIndex true adiv5DpRdbuff 0

def adiv5JtagdpError (rounds devIndex : Nat) : Action τ (BitVec 32) := do
  let status ← fwAdiv5JtagdpRead platformTimeMs wire rounds devIndex adiv5DpCtrlstat
  setFault devIndex 0
  let previous ← fwAdiv5JtagdpLowAccess platformTimeMs wire rounds devIndex false adiv5DpCtrlstat
    (status &&& adiv5DpCtrlstatErrmask)
  pure (previous &&& 0x32)

/-- What the rest of the probe asks of the debug port of a device. -/
inductive Deed where
  | lowAccess (rnw : Bool) (addr : BitVec 16) (value : BitVec 32)
  | dpRead (addr : BitVec 16)
  | error
  | abort (abort : BitVec 32)
  deriving DecidableEq, Repr

def perform (rounds : Nat) : Nat × Deed → Action τ (BitVec 32)
  | (devIndex, .lowAccess rnw addr value) => fwAdiv5JtagdpLowAccess platformTimeMs wire rounds devIndex rnw addr value
  | (devIndex, .dpRead addr) => fwAdiv5JtagdpRead platformTimeMs wire rounds devIndex addr
  | (devIndex, .error) => adiv5JtagdpError platformTimeMs wire rounds devIndex
  | (devIndex, .abort abort) => do
    adiv5JtagdpAbort wire devIndex abort
    pure 0

end Access

section Ports

/-- One access, as a debug port takes it. -/
structure Transaction where
  apndp : Bool
  rnw : Bool
  /-- The bits 2 and 3 of the address. -/
  register : BitVec 2
  value : BitVec 32
  deriving DecidableEq, Repr

/-- What a debug port does with an access and with an abort, and how many scans it then answers with a wait. -/
structure Behaviour (δ : Type) where
  perform : Transaction → δ → BitVec 32 × δ
  abort : BitVec 32 → δ → δ
  delay : List Transaction → Nat

structure DebugPort (δ : Type) where
  registers : δ
  /-- The result of the last access, which the next scan reads. -/
  result : BitVec 32
  /-- The scans that are still to be answered with a wait. -/
  busy : Nat
  performed : List Transaction

variable {δ : Type} (behaviour : Behaviour δ)

namespace DebugPort

/-- What a scan finds in the data register. -/
def capture (port : DebugPort δ) : BitVec 64 :=
  port.result.setWidth 64 <<< 3 ||| if port.busy = 0 then 2#64 else 1#64

/-- What a scan leaves in the data register is a request, unless it was answered with a wait. -/
def request (transaction : Transaction) (port : DebugPort δ) : DebugPort δ :=
  match port.busy with
  | 0 =>
    let (result, registers) := behaviour.perform transaction port.registers
    let performed := port.performed ++ [transaction]
    ⟨registers, result, behaviour.delay performed, performed⟩
  | left + 1 => { port with busy := left }

def aborted (abort : BitVec 32) (port : DebugPort δ) : DebugPort δ :=
  { port with registers := behaviour.abort abort port.registers, busy := 0 }

end DebugPort

def transactionOf (apndp : Bool) (bits : BitVec 64) : Transaction :=
  ⟨apndp, bits.getLsbD 0, (bits >>> 1).setWidth 2, (bits >>> 3).setWidth 32⟩

/-- An update of the data register that an instruction selects. -/
def DebugPort.update (ir : BitVec 32) (bits : BitVec 64) (port : DebugPort δ) : DebugPort δ :=
  if ir = irAbort then port.aborted behaviour ((bits >>> 3).setWidth 32)
  else if ir = irDpacc then port.request behaviour (transactionOf false bits)
  else if ir = irApacc then port.request behaviour (transactionOf true bits)
  else port

/-- The instruction in the bits of an instruction register. -/
def instructionOf (bits : List Bool) : BitVec 32 := wordOf 32 bits

/-- A debug port as a part of a chain. -/
def portPart (idcode : BitVec 32) (irCapture : List Bool) : ChainPart (DebugPort δ) where
  idcode := idcode
  irCapture := irCapture
  held port _ := bitsOf 35 port.capture
  accept port ir bits := port.update behaviour (instructionOf ir) (wordOf 64 bits)

end Ports

section Wires

/-- The bytes of a request in memory. -/
def bytesOf (word : BitVec 64) : Buffer := fun lane => (word >>> (8 * lane)).setWidth 8

def doubleWordAt (bytes : Buffer) : BitVec 64 :=
  bytes 7 ++ bytes 6 ++ bytes 5 ++ bytes 4 ++ bytes 3 ++ bytes 2 ++ bytes 1 ++ bytes 0

/-- The probe at a chain; the variable for the response starts with whatever the stack holds. -/
def probeWire {σ : Type} (stack : Buffer) : Wire (Probe σ) where
  writeIr := Jtag.jtagDevWriteIr
  shiftDr devIndex request probe :=
    let (response, probe) := jtagDevShiftDr devIndex (some stack) (bytesOf request) 35 probe
    (doubleWordAt (response.getD stack), probe)
  shiftIn devIndex request probe := (jtagDevShiftDr devIndex none (bytesOf request) 35 probe).2

variable {δ : Type}

/-- Debug ports by themselves, with the instructions that they have. -/
structure Ports (δ : Type) where
  ports : Nat → DebugPort δ
  instruction : Nat → BitVec 32

def Ports.update (behaviour : Nat → Behaviour δ) (devIndex : Nat) (request : BitVec 64) (ports : Ports δ) : Ports δ :=
  { ports with
    ports := Function.update ports.ports devIndex
      ((ports.ports devIndex).update (behaviour devIndex) (ports.instruction devIndex) request) }

/-- Straight to the ports. -/
def portWire (behaviour : Nat → Behaviour δ) : Wire (Ports δ) where
  writeIr devIndex ir ports := { ports with instruction := Function.update ports.instruction devIndex ir }
  shiftDr devIndex request ports := ((ports.ports devIndex).capture, ports.update behaviour devIndex request)
  shiftIn devIndex request ports := ports.update behaviour devIndex request

end Wires

section Registers
variable {δ : Type} (behaviour : Nat → Behaviour δ)

/-- A debug port without the scans. -/
structure Core (δ : Type) where
  registers : δ
  result : BitVec 32
  performed : List Transaction

abbrev Plainly (δ : Type) := Program (Nat → Core δ) Halt

/-- An access of a device, with its result. -/
def complete (devIndex : Nat) (transaction : Transaction) : Plainly δ (BitVec 32) := do
  let cores ← read
  let (result, registers) := (behaviour devIndex).perform transaction (cores devIndex).registers
  change fun cores =>
    Function.update cores devIndex ⟨registers, result, (cores devIndex).performed ++ [transaction]⟩
  pure result

def transactionAt (rnw : Bool) (addr : BitVec 16) (value : BitVec 32) : Transaction :=
  ⟨decide (addr &&& adiv5ApnDp ≠ 0), rnw, (addr >>> 2).setWidth 2, value⟩

/-- What the accesses are for: a read returns what the register reads. The value of a low access is the result of the one
before it. -/
def plainly : Nat × Deed → Plainly δ (BitVec 32)
  | (devIndex, .lowAccess rnw addr value) => do
    let previous := ((← read) devIndex).result
    let _ ← complete behaviour devIndex (transactionAt rnw addr value)
    pure previous
  | (devIndex, .dpRead addr) => do
    let value ← complete behaviour devIndex (transactionAt true addr 0)
    let _ ← complete behaviour devIndex (transactionAt true adiv5DpRdbuff 0)
    pure value
  | (devIndex, .error) => do
    let status ← complete behaviour devIndex (transactionAt true adiv5DpCtrlstat 0)
    let buffered ← complete behaviour devIndex (transactionAt true adiv5DpRdbuff 0)
    let _ ← complete behaviour devIndex (transactionAt false adiv5DpCtrlstat (status &&& adiv5DpCtrlstatErrmask))
    pure (buffered &&& 0x32)
  | (devIndex, .abort abort) => do
    change fun cores => Function.update cores devIndex
      { cores devIndex with registers := (behaviour devIndex).abort abort (cores devIndex).registers }
    pure 0

end Registers

end BlackMagic.JtagDp
