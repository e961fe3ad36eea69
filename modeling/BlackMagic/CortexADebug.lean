import BlackMagic.Breakpoints
import BlackMagic.CortexA
import BlackMagic.Lib.Bits
import BlackMagic.Registers
import BlackMagic.SwdAccess

/-! A debug session with a halted Cortex-A core (`cortexa.c`): the registers and the memory are reached by instructions that
the core is given one by one, with the data channel between the probe and the core. Accesses to the debug registers
succeed. -/

namespace BlackMagic.CortexADebug
open Lib Lib.Program Lib.Words
open Breakpoints (TargetBreakwatch Breakwatch)
open Registers (RegCache wordBytes)
open SwdAccess (Halt)
open Targets (TargetHaltReason)

section Core

/-- The core, as far as the debugger reaches it. -/
structure Core where
  /-- By number and bank. -/
  registers : Nat × BitVec 5 → BitVec 32
  pc : BitVec 32
  cpsr : BitVec 32
  fpscr : BitVec 32
  d : Nat → BitVec 64
  /-- The result of the last address translation. -/
  par : BitVec 32
  /-- By virtual address; there is none where an access aborts. -/
  memory : BitVec 32 → Option (BitVec 8)

def modeFiq : BitVec 5 := 0x11
def modeUser : BitVec 5 := 0x10
def modeSystem : BitVec 5 := 0x1f

/-- Where a mode has a register. -/
def place (mode : BitVec 5) (regno : Nat) : Nat × BitVec 5 :=
  let banked := (13 ≤ regno ∧ regno ≤ 14) ∨ (mode = modeFiq ∧ 8 ≤ regno ∧ regno ≤ 12)
  (regno, if banked then (if mode = modeUser then modeSystem else mode) else 0)

namespace Core

def mode (core : Core) : BitVec 5 := core.cpsr.setWidth 5

def reg (core : Core) (regno : Nat) : BitVec 32 := core.registers (place core.mode regno)

def setReg (regno : Nat) (value : BitVec 32) (core : Core) : Core :=
  { core with registers := Function.update core.registers (place core.mode regno) value }

def word (core : Core) (address : BitVec 32) : Option (BitVec 32) := do
  let b0 ← core.memory address
  let b1 ← core.memory (address + 1)
  let b2 ← core.memory (address + 2)
  let b3 ← core.memory (address + 3)
  pure (b3 ++ b2 ++ b1 ++ b0)

def setByte (address : BitVec 32) (value : BitVec 8) (core : Core) : Core :=
  { core with memory := Function.update core.memory address (some value) }

def setWord (address value : BitVec 32) (core : Core) : Core :=
  (((core.setByte address (byteOf value 0)).setByte (address + 1) (byteOf value 1)).setByte (address + 2)
    (byteOf value 2)).setByte (address + 3) (byteOf value 3)

end Core

def cpsrThumb : BitVec 32 := 1 <<< 5

/-- How far an instruction sees the program counter ahead. -/
def ahead (cpsr : BitVec 32) : BitVec 32 := if cpsr &&& cpsrThumb ≠ 0 then 4 else 8

/-- The instructions that the driver gives to the core. -/
inductive Instruction where
  /-- A register from the data channel. -/
  | fromDtr (rt : Nat)
  | toDtr (rt : Nat)
  | movR0Pc
  | mrsR0Cpsr
  | vmrsR0Fpscr
  | vmovR0R1 (d : Nat)
  | vmovD (d : Nat)
  | vmsrFpscrR0
  | msrCpsrR0
  | movPcR0
  /-- A word to the data channel, and `r0` moves on. -/
  | ldcR0
  | stcR0
  | strbR0Sp
  | translateR0
  | mrcR0Par
  | invalidate
  | other
  deriving DecidableEq, Repr

def mcr : BitVec 32 := 0xee000010
def mrc : BitVec 32 := 0xee100010

def cpreg (coproc opc1 rt crn crm opc2 : BitVec 32) : BitVec 32 :=
  (opc1 <<< 21) ||| (crn <<< 16) ||| (rt <<< 12) ||| (coproc <<< 8) ||| (opc2 <<< 5) ||| crm

def dbgdtrrxInt : BitVec 32 := cpreg 14 0 0 0 5 0
def dbgdtrtxInt : BitVec 32 := cpreg 14 0 0 0 5 0
def par : BitVec 32 := cpreg 15 0 0 7 4 0
def ats1cpr : BitVec 32 := cpreg 15 0 0 7 8 0
/-- How the core understands a word. -/
def decode (insn : BitVec 32) : Instruction :=
  let rt := ((insn >>> 12) &&& 0xf).toNat
  let low := (insn &&& 0xf).toNat
  if insn &&& 0xffff0fff = 0xee100e15 then .fromDtr rt
  else if insn &&& 0xffff0fff = 0xee000e15 then .toDtr rt
  else if insn &&& 0xfffffff0 = 0xec510b10 then .vmovR0R1 low
  else if insn &&& 0xfffffff0 = 0xec410b10 then .vmovD low
  else if insn = 0xe1a0000f then .movR0Pc
  else if insn = 0xe10f0000 then .mrsR0Cpsr
  else if insn = 0xeef10a10 then .vmrsR0Fpscr
  else if insn = 0xeee10a10 then .vmsrFpscrR0
  else if insn = 0xe12ff000 then .msrCpsrR0
  else if insn = 0xe1a0f000 then .movPcR0
  else if insn = 0xecb05e01 then .ldcR0
  else if insn = 0xeca05e01 then .stcR0
  else if insn = 0xe4cd0001 then .strbR0Sp
  else if insn = 0xee070f18 then .translateR0
  else if insn = 0xee170f14 then .mrcR0Par
  else if insn = 0xee070f15 then .invalidate
  else .other

end Core

section Unit

/-- The debug unit with the core ahead it. -/
structure DebugUnit where
  core : Core
  /-- The bits of `DBGDSCR` that the probe writes. -/
  control : BitVec 32
  /-- The halt bit and the reason. -/
  entry : BitVec 32
  /-- Toward the core, with whether it is full. -/
  dtrrx : BitVec 32
  rxFull : Bool
  dtrtx : BitVec 32
  txFull : Bool
  /-- The instruction that every access to the data channel gives to the core in fast mode. -/
  itr : BitVec 32
  sticky : Bool
  /-- The looks at `DBGDSCR` until the instruction is reported complete. -/
  pending : Nat
  issued : Nat
  bvr : Nat → BitVec 32
  bcr : Nat → BitVec 32
  wvr : Nat → BitVec 32
  wcr : Nat → BitVec 32
  restarted : Bool

/-- How the hardware translates addresses, and how long the instructions take. -/
structure Hardware where
  translate : BitVec 32 → BitVec 32
  lag : Nat → Nat

def dscrHalted : BitVec 32 := 1 <<< 0
def dscrRestarted : BitVec 32 := 1 <<< 1
def sdabortL : BitVec 32 := 1 <<< 6
def intdis : BitVec 32 := 1 <<< 11
def itrEnable : BitVec 32 := 1 <<< 13
def haltDbgEnable : BitVec 32 := 1 <<< 14
def extdccmodeFast : BitVec 32 := 2 <<< 20
def extdccmodeMask : BitVec 32 := 3 <<< 20
def insnComplete : BitVec 32 := 1 <<< 24
def dtrReadReady : BitVec 32 := 1 <<< 29
def dtrWriteDone : BitVec 32 := 1 <<< 30
def controlMask : BitVec 32 := intdis ||| itrEnable ||| haltDbgEnable ||| extdccmodeMask

variable (hardware : Hardware)

namespace DebugUnit

def fast (unit : DebugUnit) : Bool := decide (unit.control &&& extdccmodeMask = extdccmodeFast)

def modify (f : Core → Core) (unit : DebugUnit) : DebugUnit := { unit with core := f unit.core }

/-- What an instruction does. -/
def execute : Instruction → DebugUnit → DebugUnit
  | .fromDtr rt, unit => { unit.modify (.setReg rt unit.dtrrx) with rxFull := false }
  | .toDtr rt, unit => { unit with dtrtx := unit.core.reg rt, txFull := true }
  | .movR0Pc, unit =>
    unit.modify fun core => core.setReg 0 (core.pc + ahead core.cpsr)
  | .mrsR0Cpsr, unit => unit.modify fun core => core.setReg 0 core.cpsr
  | .vmrsR0Fpscr, unit => unit.modify fun core => core.setReg 0 core.fpscr
  | .vmovR0R1 d, unit =>
    unit.modify fun core => (core.setReg 0 ((core.d d).setWidth 32)).setReg 1 ((core.d d >>> 32).setWidth 32)
  | .vmovD d, unit =>
    unit.modify fun core => { core with d := Function.update core.d d (core.reg 1 ++ core.reg 0) }
  | .vmsrFpscrR0, unit => unit.modify fun core => { core with fpscr := core.reg 0 }
  | .msrCpsrR0, unit => unit.modify fun core => { core with cpsr := core.reg 0 }
  | .movPcR0, unit => unit.modify fun core => { core with pc := core.reg 0 &&& ~~~1#32 }
  | .ldcR0, unit =>
    match unit.core.word (unit.core.reg 0) with
    | none => { unit with sticky := true }
    | some word => { unit.modify fun core => core.setReg 0 (core.reg 0 + 4) with dtrtx := word, txFull := true }
  | .stcR0, unit =>
    match unit.core.word (unit.core.reg 0) with
    | none => { unit with sticky := true }
    | some _ =>
      { unit.modify fun core => (core.setWord (core.reg 0) unit.dtrrx).setReg 0 (core.reg 0 + 4) with rxFull := false }
  | .strbR0Sp, unit =>
    match unit.core.memory (unit.core.reg 13) with
    | none => { unit with sticky := true }
    | some _ =>
      unit.modify fun core => (core.setByte (core.reg 13) ((core.reg 0).setWidth 8)).setReg 13 (core.reg 13 + 1)
  | .translateR0, unit => unit.modify fun core => { core with par := hardware.translate (core.reg 0) }
  | .mrcR0Par, unit => unit.modify fun core => core.setReg 0 core.par
  | .invalidate, unit => unit
  | .other, unit => unit

/-- An instruction is given to the core, if instructions are enabled and no abort is pending. -/
def issue (insn : BitVec 32) (unit : DebugUnit) : DebugUnit :=
  if unit.control &&& itrEnable = 0 ∨ unit.sticky then unit
  else { unit.execute hardware (decode insn) with pending := hardware.lag unit.issued, issued := unit.issued + 1 }

def dscr (unit : DebugUnit) : BitVec 32 :=
  unit.control ||| unit.entry ||| (if unit.restarted then dscrRestarted else 0) ||| (if unit.sticky then sdabortL else 0) |||
    (if unit.pending = 0 then insnComplete else 0) ||| (if unit.txFull then dtrReadReady else 0) |||
    (if unit.rxFull then dtrWriteDone else 0)

/-- In fast mode an access to the data channel gives the instruction again. -/
def afterData (unit : DebugUnit) : DebugUnit := if unit.fast then unit.issue hardware unit.itr else unit

def readDtr (unit : DebugUnit) : BitVec 32 × DebugUnit :=
  (unit.dtrtx, { unit with txFull := false }.afterData hardware)

def writeDtr (value : BitVec 32) (unit : DebugUnit) : DebugUnit :=
  if unit.rxFull then unit else { unit with dtrrx := value, rxFull := true }.afterData hardware

def writeItr (insn : BitVec 32) (unit : DebugUnit) : DebugUnit :=
  if unit.fast then { unit with itr := insn } else unit.issue hardware insn

def drcrCse : BitVec 32 := 1 <<< 2
def drcrRrq : BitVec 32 := 1 <<< 1

/-- The core goes on if it is asked to while instructions are disabled. -/
def writeDrcr (value : BitVec 32) (unit : DebugUnit) : DebugUnit :=
  let unit := if value &&& drcrCse ≠ 0 then { unit with sticky := false } else unit
  if value &&& drcrRrq ≠ 0 ∧ unit.control &&& itrEnable = 0 then
    { unit with restarted := true, entry := unit.entry &&& ~~~dscrHalted }
  else unit

end DebugUnit

end Unit

section Driver

/-- Where a core with the cached registers goes on. -/
abbrev cachedPc (cache : RegCache) : BitVec 32 := cache.r 15 &&& ~~~1#32

structure Priv where
  regCache : RegCache
  bcr0 : BitVec 32
  bvr0 : BitVec 32
  mmuFault : Bool
  breakpointsMask : BitVec 8
  watchpointsMask : BitVec 8
  breakpointsAvailable : Nat
  watchpointsAvailable : Nat

namespace Priv

def cacheReg (i : Nat) (value : BitVec 32) (priv : Priv) : Priv :=
  { priv with regCache := { priv.regCache with r := Function.update priv.regCache.r (Fin.ofNat 16 i) value } }

end Priv

structure Session where
  unit : DebugUnit
  priv : Priv

abbrev Action := Program Session Halt

variable (hardware : Hardware) (polls : Nat)

def onUnit (f : DebugUnit → DebugUnit) : Action Unit := change fun session => { session with unit := f session.unit }

def setPriv (f : Priv → Priv) : Action Unit := change fun session => { session with priv := f session.priv }

/-- A look at the status takes its time. -/
def readDscr : Action (BitVec 32) := do
  let session ← read
  onUnit fun unit => { unit with pending := unit.pending - 1 }
  pure session.unit.dscr

def writeDscr (value : BitVec 32) : Action Unit := onUnit fun unit => { unit with control := value &&& controlMask }

def writeItr (insn : BitVec 32) : Action Unit := onUnit (DebugUnit.writeItr hardware insn)

def writeDtr (value : BitVec 32) : Action Unit := onUnit (DebugUnit.writeDtr hardware value)

def readDtr : Action (BitVec 32) := do
  let session ← read
  onUnit fun unit => (unit.readDtr hardware).2
  pure (session.unit.readDtr hardware).1

def writeDrcr (value : BitVec 32) : Action Unit := onUnit (DebugUnit.writeDrcr value)

/-- Look at the status until the bits are as they should be, at most so many times. -/
def waitFor (mask value : BitVec 32) : Nat → Action Unit
  | 0 => stop .unfinished
  | looks + 1 => do
    let dscr ← readDscr
    if dscr &&& mask = value then pure () else waitFor mask value looks

def cortexarRunInsn (insn : BitVec 32) : Action Unit := do
  writeItr hardware insn
  waitFor insnComplete insnComplete polls

def cortexarRunReadInsn (insn : BitVec 32) : Action (BitVec 32) := do
  writeItr hardware insn
  waitFor (insnComplete ||| dtrReadReady) (insnComplete ||| dtrReadReady) polls
  readDtr hardware

def cortexarRunWriteInsn (insn data : BitVec 32) : Action Unit := do
  writeDtr hardware data
  waitFor dtrWriteDone dtrWriteDone polls
  writeItr hardware insn
  waitFor (insnComplete ||| dtrWriteDone) insnComplete polls

def readGpreg (regno : Nat) : Action (BitVec 32) :=
  cortexarRunReadInsn hardware polls (mcr ||| dbgdtrtxInt ||| ((BitVec.ofNat 32 regno &&& 0xf) <<< 12))

def writeGpreg (regno : Nat) (value : BitVec 32) : Action Unit :=
  cortexarRunWriteInsn hardware polls (mrc ||| dbgdtrrxInt ||| ((BitVec.ofNat 32 regno &&& 0xf) <<< 12)) value

def vaToPa (va : BitVec 32) : Action (BitVec 32) := do
  writeGpreg hardware polls 0 va
  cortexarRunInsn hardware polls (mcr ||| ats1cpr)
  cortexarRunInsn hardware polls (mrc ||| par)
  let par ← readGpreg hardware polls 0
  onlyIf (par &&& 1 ≠ 0) (setPriv fun priv => { priv with mmuFault := true })
  pure ((par &&& ~~~0xfff#32) ||| (va &&& 0xfff))

/-- As many reads of the data channel, one after the other. -/
def readWords : Nat → Action (List (BitVec 32))
  | 0 => pure []
  | left + 1 => do
    let word ← readDtr hardware
    let rest ← readWords left
    pure (word :: rest)

def cortexaSlowMemRead (src : BitVec 32) (len : Nat) : Action (List (BitVec 8)) := do
  let words := (len + (src &&& 3).toNat + 3) / 4
  writeGpreg hardware polls 0 (src &&& ~~~3#32)
  let dbgdscr ← readDscr
  let dbgdscr := (dbgdscr &&& ~~~extdccmodeMask) ||| extdccmodeFast
  writeDscr dbgdscr
  writeItr hardware 0xecb05e01
  let _ ← readDtr hardware
  let dest32 ← readWords hardware words
  let dest := ((dest32.flatMap wordBytes).drop (src &&& 3).toNat).take len
  writeDscr (dbgdscr &&& ~~~extdccmodeMask)
  let status ← readDscr
  if status &&& sdabortL ≠ 0 then do
    writeDrcr DebugUnit.drcrCse
    setPriv fun priv => { priv with mmuFault := true }
  else do
    let _ ← readDtr hardware
  pure dest

/-- The loop over the bytes; an abort ends it. -/
def writeBytes : List (BitVec 8) → Action Unit
  | [] => pure ()
  | byte :: rest => do
    writeGpreg hardware polls 0 (byte.setWidth 32)
    writeItr hardware 0xe4cd0001
    let status ← readDscr
    if status &&& sdabortL ≠ 0 then do
      writeDrcr DebugUnit.drcrCse
      setPriv fun priv => { priv with mmuFault := true }
    else writeBytes rest

def cortexaSlowMemWriteBytes (dest : BitVec 32) (src : List (BitVec 8)) : Action Unit := do
  writeGpreg hardware polls 13 dest
  writeBytes hardware polls src

/-- The words in a buffer. -/
def wordsOf : List (BitVec 8) → List (BitVec 32)
  | b0 :: b1 :: b2 :: b3 :: rest => (b3 ++ b2 ++ b1 ++ b0) :: wordsOf rest
  | _ => []

def cortexaSlowMemWrite (dest : BitVec 32) (src : List (BitVec 8)) : Action Unit := do
  if src.length = 0 then pure ()
  else if dest &&& 3 ≠ 0 ∨ src.length % 4 ≠ 0 then cortexaSlowMemWriteBytes hardware polls dest src
  else do
    writeGpreg hardware polls 0 dest
    let dbgdscr ← readDscr
    let dbgdscr := (dbgdscr &&& ~~~extdccmodeMask) ||| extdccmodeFast
    writeDscr dbgdscr
    writeItr hardware 0xeca05e01
    each (writeDtr hardware) (wordsOf src)
    writeDscr (dbgdscr &&& ~~~extdccmodeMask)
    let status ← readDscr
    onlyIf (status &&& sdabortL ≠ 0) do
      writeDrcr DebugUnit.drcrCse
      setPriv fun priv => { priv with mmuFault := true }

/-- The access port raises nothing. -/
def cortexaCheckError : Action Bool := do
  let session ← read
  setPriv fun priv => { priv with mmuFault := false }
  pure session.priv.mmuFault

/-- What a comparator of one half of a word looks at. -/
def bpBas (addr : BitVec 32) (len : Nat) : BitVec 32 :=
  if len = 4 then 0xf#32 <<< 5 else if addr &&& 2 ≠ 0 then 0xc#32 <<< 5 else 0x3#32 <<< 5

def bcrPmcAny : BitVec 32 := 3 <<< 1
def bcrEn : BitVec 32 := 1

def writeBvr (i : Nat) (value : BitVec 32) : Action Unit :=
  onUnit fun unit => { unit with bvr := Function.update unit.bvr i value }

def writeBcr (i : Nat) (value : BitVec 32) : Action Unit :=
  onUnit fun unit => { unit with bcr := Function.update unit.bcr i value }

def writeWvr (i : Nat) (value : BitVec 32) : Action Unit :=
  onUnit fun unit => { unit with wvr := Function.update unit.wvr i value }

def writeWcr (i : Nat) (value : BitVec 32) : Action Unit :=
  onUnit fun unit => { unit with wcr := Function.update unit.wcr i value }

/-- The loop that asks the core to go on, with the looks at the clock that find time left. -/
def restart : Nat → Action Unit
  | 0 => do
    writeDrcr (DebugUnit.drcrCse ||| DebugUnit.drcrRrq)
    let _ ← readDscr
  | rounds + 1 => do
    writeDrcr (DebugUnit.drcrCse ||| DebugUnit.drcrRrq)
    let dbgdscr ← readDscr
    if dbgdscr &&& dscrRestarted = 0 then restart rounds else pure ()

/-- The bytes of a value of two or of four bytes. -/
def valueBytes (size : Nat) (value : BitVec 32) : List (BitVec 8) := (wordBytes value).take size

def valueOf (bytes : List (BitVec 8)) : BitVec 32 := bytes.getD 3 0 ++ bytes.getD 2 0 ++ bytes.getD 1 0 ++ bytes.getD 0 0

def softOpcode (size : Nat) : BitVec 32 := if size = 2 then 0xbe00 else 0xe1200070

/-- The answer is that of the check for errors. -/
def checked : Action Int := do
  let error ← cortexaCheckError
  pure (if error then 1 else 0)

def breakSoftSet (bw : Breakwatch) : Action (Int × Breakwatch) :=
  if bw.size = 2 ∨ bw.size = 4 then do
    let instruction ← cortexaSlowMemRead hardware polls bw.addr bw.size
    cortexaSlowMemWrite hardware polls bw.addr (valueBytes bw.size (softOpcode bw.size))
    let answer ← checked
    pure (answer, { bw with reserved := (valueOf instruction).toNat })
  else pure (-1, bw)

def breakHardSet (bw : Breakwatch) : Action (Int × Breakwatch) := do
  let priv := (← read).priv
  if bw.size ≠ 4 ∧ bw.size ≠ 2 then pure (-1, bw)
  else
    let i := Slots.firstFree priv.breakpointsMask priv.breakpointsAvailable
    if i = priv.breakpointsAvailable then pure (-1, bw)
    else do
      setPriv fun priv => { priv with breakpointsMask := Slots.take priv.breakpointsMask i }
      let addr ← vaToPa hardware polls bw.addr
      let bcr := bpBas addr bw.size ||| bcrPmcAny ||| bcrEn
      writeBvr i (addr &&& ~~~3#32)
      writeBcr i bcr
      onlyIf (i = 0) (setPriv fun priv => { priv with bcr0 := bcr, bvr0 := addr &&& ~~~3#32 })
      pure (0, { bw with reserved := i })

/-- The bytes that a watchpoint looks at, by its size. -/
def watchBas (size : Nat) : Option (BitVec 32) :=
  match size with
  | 1 => some (0x1#32 <<< 5)
  | 2 => some (0x3#32 <<< 5)
  | 4 => some (0xf#32 <<< 5)
  | _ => none

def watchLsc (type : TargetBreakwatch) : BitVec 32 :=
  match type with
  | .watchWrite => 2#32 <<< 3
  | .watchRead => 1#32 <<< 3
  | _ => 3#32 <<< 3

/-- The slot is taken before the size is looked at. The value register gets the control word and the control register the
address. -/
def watchSet (bw : Breakwatch) : Action (Int × Breakwatch) := do
  let priv := (← read).priv
  let i := Slots.firstFree priv.watchpointsMask priv.watchpointsAvailable
  if i = priv.watchpointsAvailable then pure (-1, bw)
  else do
    setPriv fun priv => { priv with watchpointsMask := Slots.take priv.watchpointsMask i }
    match watchBas bw.size with
    | none => pure (-1, { bw with reserved := i })
    | some bas =>
      let wcr := (3#32 <<< 1) ||| 1#32 ||| (bas <<< (bw.addr &&& 3).toNat) ||| watchLsc bw.type
      writeWvr i wcr
      writeWcr i (bw.addr &&& ~~~3#32)
      pure (0, { bw with reserved := i })

def cortexaBreakwatchSet (bw : Breakwatch) : Action (Int × Breakwatch) :=
  match bw.type with
  | .breakSoft => breakSoftSet hardware polls bw
  | .breakHard => breakHardSet hardware polls bw
  | .watchWrite => watchSet bw
  | .watchRead => watchSet bw
  | .watchAccess => watchSet bw
  | .other _ => pure (1, bw)

def watchClear (bw : Breakwatch) : Action Int := do
  setPriv fun priv => { priv with watchpointsMask := Slots.release priv.watchpointsMask bw.reserved }
  writeWcr bw.reserved 0
  pure 0

def cortexaBreakwatchClear (bw : Breakwatch) : Action Int :=
  match bw.type with
  | .breakSoft =>
    if bw.size = 2 ∨ bw.size = 4 then do
      cortexaSlowMemWrite hardware polls bw.addr (valueBytes bw.size (BitVec.ofNat 32 bw.reserved))
      checked
    else pure (-1)
  | .breakHard => do
    setPriv fun priv => { priv with breakpointsMask := Slots.release priv.breakpointsMask bw.reserved }
    writeBcr bw.reserved 0
    onlyIf (bw.reserved = 0) (setPriv fun priv => { priv with bcr0 := 0 })
    pure 0
  | .watchWrite => watchClear bw
  | .watchRead => watchClear bw
  | .watchAccess => watchClear bw
  | .other _ => pure 1

/-- What the debugger does while the core is halted. -/
inductive Deed where
  | memRead (src : BitVec 32) (len : Nat)
  | memWrite (dest : BitVec 32) (src : List (BitVec 8))
  | checkError
  | regsWrite (edit : RegCache → RegCache)
  | breakwatchSet (bw : Breakwatch)
  | breakwatchClear (bw : Breakwatch)

def perform : Deed → Action (List (BitVec 8))
  | .memRead src len => cortexaSlowMemRead hardware polls src len
  | .memWrite dest src => do
    cortexaSlowMemWrite hardware polls dest src
    pure []
  | .checkError => do
    let _ ← cortexaCheckError
    pure []
  | .regsWrite edit => do
    setPriv fun priv => { priv with regCache := edit priv.regCache }
    pure []
  | .breakwatchSet bw => do
    let _ ← cortexaBreakwatchSet hardware polls bw
    pure []
  | .breakwatchClear bw => do
    let _ ← cortexaBreakwatchClear hardware polls bw
    pure []

end Driver

end BlackMagic.CortexADebug
