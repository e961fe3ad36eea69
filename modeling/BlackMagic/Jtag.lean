import BlackMagic.Bytes
import BlackMagic.Lib.Tap
import BlackMagic.Lib.Words

/-! The JTAG side of the probe: the pin sequences (`jtagtap.c`, `jtagtap.h`), the table of
devices with their peculiarities (`jtag_devs.c`), and the scan of a chain and the access to one
of its devices (`jtag_scan.c`). The pins drive a chain of parts. -/

namespace BlackMagic.Jtag
open Lib.Tap Lib.Words

variable {σ : Type}

section Pins

def jtagtapNext (tms tdi : Bool) (chain : Chain σ) : Bool × Chain σ := chain.clock tms tdi

/-- The data pin is high meanwhile. -/
def jtagtapTmsSeq (tmsStates : BitVec 32) (clockCycles : Nat) (chain : Chain σ) : Chain σ :=
  (chain.drive ((List.range clockCycles).map fun cycle => (tmsStates.getLsbD cycle, true))).2

/-- The bit that a sequence takes from its data in one cycle. -/
def tdiBit (dataIn : Buffer) (cycle : Nat) : Bool := (dataIn (cycle / 8)).getLsbD (cycle % 8)

/-- The pins in each cycle of a data sequence. -/
def tdiCycles (finalTms : Bool) (dataIn : Buffer) (clockCycles : Nat) : List (Bool × Bool) :=
  (List.range clockCycles).map fun cycle => (decide (cycle + 1 ≥ clockCycles) && finalTms, tdiBit dataIn cycle)

/-- The bits that come out, from one cycle on, gathered and stored byte by byte. -/
def storeTdo : List Bool → Nat → Byte → Buffer → Buffer
  | [], cycle, value, dataOut => if cycle % 8 = 0 then dataOut else dataOut.set ((cycle - 1) / 8) value
  | tdo :: rest, cycle, value, dataOut =>
    let value := if tdo then value ||| (1#8 <<< (cycle % 8)) else value
    if cycle % 8 = 7 then storeTdo rest (cycle + 1) 0#8 (dataOut.set (cycle / 8) value)
    else storeTdo rest (cycle + 1) value dataOut

def jtagtapTdiTdoSeq (dataOut : Buffer) (finalTms : Bool) (dataIn : Buffer) (clockCycles : Nat) (chain : Chain σ) :
    Buffer × Chain σ :=
  let driven := chain.drive (tdiCycles finalTms dataIn clockCycles)
  (storeTdo driven.1 0 0#8 dataOut, driven.2)

def jtagtapTdiSeq (finalTms : Bool) (dataIn : Buffer) (clockCycles : Nat) (chain : Chain σ) : Chain σ :=
  (chain.drive (tdiCycles finalTms dataIn clockCycles)).2

def jtagtapSoftReset : Chain σ → Chain σ := jtagtapTmsSeq 0x1f#32 6
def jtagtapShiftIr : Chain σ → Chain σ := jtagtapTmsSeq 0x03#32 4
def jtagtapShiftDr : Chain σ → Chain σ := jtagtapTmsSeq 0x01#32 3
def jtagtapReturnIdle (cycles : Nat) : Chain σ → Chain σ := jtagtapTmsSeq 0x01#32 (cycles + 1)

def jtagtapReset : Chain σ → Chain σ := jtagtapSoftReset

/-- A reset of SWD and the sequence that leaves it for JTAG. -/
def jtagtapInit (chain : Chain σ) : Chain σ :=
  jtagtapTmsSeq 0xe73c#32 16 (chain.drive (List.replicate 51 (true, false))).2

end Pins

section Table

structure IrQuirks where
  irValue : BitVec 16
  irLength : BitVec 8
  deriving DecidableEq, Repr

/-- A description: what it is for, what its parts have of their own, and whether there is a
handler for them. -/
structure DevDescr where
  idcode : BitVec 32
  idmask : BitVec 32
  irQuirks : IrQuirks
  handled : Bool
  deriving DecidableEq, Repr

private def plain (idcode idmask : BitVec 32) : DevDescr := ⟨idcode, idmask, ⟨0#16, 0#8⟩, false⟩

def devDescr : List DevDescr :=
  [⟨0x0ba00477#32, 0x0fff0fff#32, ⟨0#16, 0#8⟩, true⟩,
    plain 0x00000477#32 0x00000fff#32, plain 0x06410041#32 0x0fffffff#32, plain 0x06412041#32 0x0fffffff#32,
    plain 0x06414041#32 0x0fffffff#32, plain 0x06416041#32 0x0fffffff#32, plain 0x06418041#32 0x0fffffff#32,
    plain 0x06420041#32 0x0fffffff#32, plain 0x06428041#32 0x0fffffff#32, plain 0x06411041#32 0xffffffff#32,
    plain 0x06422041#32 0xffffffff#32, plain 0x06413041#32 0xffffffff#32, plain 0x00000041#32 0x00000fff#32,
    plain 0x0bb11477#32 0xffffffff#32, plain 0x4ba00477#32 0xffffffff#32,
    ⟨0x00000093#32, 0x00000fff#32, ⟨1#16, 6#8⟩, false⟩,
    plain 0x0000063d#32 0x00000fff#32, plain 0x000007a3#32 0x00000fff#32, plain 0x8940303f#32 0xffffffff#32,
    plain 0x0792603f#32 0xffffffff#32, plain 0x20270013#32 0xffffffff#32, plain 0x07b7617f#32 0xffffffff#32,
    plain 0x4ba00477#32 0xffffffff#32]

def findDescr (idcode : BitVec 32) : Option DevDescr :=
  devDescr.find? fun descr => idcode &&& descr.idmask == descr.idcode

def jtagDeviceGetQuirks (idcode : BitVec 32) : IrQuirks := ((findDescr idcode).map DevDescr.irQuirks).getD ⟨0#16, 0#8⟩

end Table

def jtagMaxDevs : Nat := 32
def jtagMaxIrLen : Nat := 16

structure JtagDev where
  jdIdcode : BitVec 32
  currentIr : BitVec 32
  drPrescan : BitVec 8
  drPostscan : BitVec 8
  irLen : BitVec 8
  irPrescan : BitVec 8
  irPostscan : BitVec 8
  deriving DecidableEq, Repr

/-- The probe and its chain. Past the array of devices and past the eight bytes of `ones`
lies other memory. -/
structure Probe (σ : Type) where
  chain : Chain σ
  jtagDevs : Nat → JtagDev
  jtagDevCount : Nat
  beyondOnes : Nat → Byte

namespace Probe

def ones (probe : Probe σ) : Buffer := fun byte => if byte < 8 then 0xff#8 else probe.beyondOnes byte

/-- Run a pin sequence. -/
def pins (probe : Probe σ) (sequence : Chain σ → Chain σ) : Probe σ := { probe with chain := sequence probe.chain }

def setDev (probe : Probe σ) (device : Nat) (f : JtagDev → JtagDev) : Probe σ :=
  { probe with jtagDevs := fun other => if other = device then f (probe.jtagDevs device) else probe.jtagDevs other }

/-- Give up the scan. -/
def failed (probe : Probe σ) : Bool × Probe σ := (false, { probe with jtagDevCount := 0 })

end Probe

section Scan

/-- The word in four bytes. -/
def wordAt (bytes : Buffer) : BitVec 32 := bytes 3 ++ bytes 2 ++ bytes 1 ++ bytes 0

/-- The loop over the identifications: how many there are, or none if the chain is too long. -/
def scanIdcodes : Nat → Nat → Probe σ → Option Nat × Probe σ
  | 0, _, probe => (none, probe)
  | more + 1, device, probe =>
    let read := jtagtapTdiTdoSeq (fun _ => 0#8) false probe.ones 32 probe.chain
    let idcode := wordAt read.1
    let probe := { probe with chain := read.2 }
    if idcode = 0xffffffff#32 then (some device, probe)
    else if device = jtagMaxDevs then (none, probe)
    else scanIdcodes more (device + 1) (probe.setDev device fun dev => { dev with jdIdcode := idcode })

def jtagReadIdcodes (probe : Probe σ) : Bool × Probe σ :=
  let probe := (probe.pins jtagtapReset).pins jtagtapShiftDr
  match scanIdcodes (jtagMaxDevs + 1) 0 probe with
  | (none, probe) => probe.failed
  | (some device, probe) =>
    let probe := (probe.pins fun chain => (jtagtapNext true true chain).2).pins (jtagtapReturnIdle 1)
    (true, { probe with jtagDevCount := device })

/-- The locals of the loop over the instruction registers. -/
structure IrScan where
  prescan : Nat
  device : Nat
  irLen : BitVec 8
  irQuirks : IrQuirks

/-- The loop over the instruction registers, for as many bits as there is fuel. -/
def scanIrs : Nat → IrScan → Probe σ → Option (Bool × Probe σ)
  | 0, _, _ => none
  | more + 1, scan, probe =>
    if scan.irLen.toNat ≤ jtagMaxIrLen then
      let read := jtagtapNext false true probe.chain
      let nextBit := read.1
      let probe := { probe with chain := read.2 }
      let quirks := scan.irQuirks
      if quirks.irLength ≠ 0#8 ∧ quirks.irValue.getLsbD scan.irLen.toNat ≠ nextBit then some probe.failed
      else
        let irLen := scan.irLen + 1#8
        if (quirks.irLength = 0#8 ∧ nextBit ∧ irLen > 1#8) ∨ irLen = quirks.irLength then
          if quirks.irLength = 0#8 ∧ irLen = 2#8 then some (true, probe)
          else
            let overrun := if quirks.irLength ≠ 0#8 then 0#8 else 1#8
            let deviceIr := irLen - overrun
            let probe := probe.setDev scan.device fun dev =>
              { dev with irLen := deviceIr, irPrescan := BitVec.ofNat 8 scan.prescan, currentIr := 0xffffffff#32 }
            let device := scan.device + 1
            scanIrs more
              ⟨scan.prescan + deviceIr.toNat, device, overrun, jtagDeviceGetQuirks (probe.jtagDevs device).jdIdcode⟩ probe
        else scanIrs more { scan with irLen := irLen } probe
    else some probe.failed

def jtagReadIrs (fuel : Nat) (probe : Probe σ) : Option (Bool × Probe σ) :=
  let probe := probe.pins jtagtapShiftIr
  scanIrs fuel ⟨0, 0, 0#8, jtagDeviceGetQuirks (probe.jtagDevs 0).jdIdcode⟩ probe

/-- The loop over the devices in bypass: where it stops. -/
def countBypassed : Nat → Nat → Probe σ → Nat × Probe σ
  | 0, device, probe => (device, probe)
  | more + 1, device, probe =>
    let read := jtagtapNext false true probe.chain
    let probe := { probe with chain := read.2 }
    if read.1 then (device, probe)
    else
      countBypassed more (device + 1) (probe.setDev device fun dev =>
        { dev with
          drPrescan := BitVec.ofNat 8 device
          drPostscan := BitVec.ofNat 8 probe.jtagDevCount - BitVec.ofNat 8 device - 1#8 })

def jtagSanityCheck (probe : Probe σ) : Bool × Probe σ :=
  let probe := probe.pins jtagtapShiftDr
  let (device, probe) := countBypassed (probe.jtagDevCount + 1) 0 probe
  if device ≠ probe.jtagDevCount then probe.failed
  else
    let probe := (probe.pins fun chain => (jtagtapNext true true chain).2).pins (jtagtapReturnIdle 1)
    (probe.jtagDevCount ≠ 0, probe)

/-- The loop that fills in `ir_postscan` from the back, with the number of devices to go. -/
def fillPostscan : Nat → BitVec 8 → Probe σ → Probe σ
  | 0, _, probe => probe
  | idx + 1, postscan, probe =>
    fillPostscan idx (postscan + (probe.jtagDevs idx).irLen) (probe.setDev idx fun dev => { dev with irPostscan := postscan })

end Scan

section Access

/-- What a driver asks of one device. -/
inductive Access where
  | writeIr (devIndex : Nat) (ir : BitVec 32)
  | shiftDr (devIndex : Nat) (dataOut : Option Buffer) (dataIn : Buffer) (clockCycles : Nat)

/-- Every device but the addressed one is in bypass. -/
def bypassOthers (probe : Probe σ) : Probe σ :=
  { probe with
    jtagDevs := fun device =>
      if device < probe.jtagDevCount then { probe.jtagDevs device with currentIr := 0xffffffff#32 }
      else probe.jtagDevs device }

def jtagDevWriteIr (devIndex : Nat) (ir : BitVec 32) (probe : Probe σ) : Probe σ :=
  if ir = (probe.jtagDevs devIndex).currentIr then probe
  else
    let probe := (bypassOthers probe).setDev devIndex fun dev => { dev with currentIr := ir }
    let device := probe.jtagDevs devIndex
    let probe := probe.pins jtagtapShiftIr
    let probe := probe.pins (jtagtapTdiSeq false probe.ones device.irPrescan.toNat)
    let probe := probe.pins (jtagtapTdiSeq (device.irPostscan = 0#8) (byteOf ir) device.irLen.toNat)
    let probe := probe.pins (jtagtapTdiSeq true probe.ones device.irPostscan.toNat)
    probe.pins (jtagtapReturnIdle 1)

/-- The bits that come out are stored only if there is a place for them. -/
def jtagDevShiftDr (devIndex : Nat) (dataOut : Option Buffer) (dataIn : Buffer) (clockCycles : Nat) (probe : Probe σ) :
    Option Buffer × Probe σ :=
  let device := probe.jtagDevs devIndex
  let probe := probe.pins jtagtapShiftDr
  let probe := probe.pins (jtagtapTdiSeq false probe.ones device.drPrescan.toNat)
  let finalTms := device.drPostscan = 0#8
  let (dataOut, probe) :=
    match dataOut with
    | some dataOut =>
      let read := jtagtapTdiTdoSeq dataOut finalTms dataIn clockCycles probe.chain
      (some read.1, { probe with chain := read.2 })
    | none => (none, probe.pins (jtagtapTdiSeq finalTms dataIn clockCycles))
  let probe := probe.pins (jtagtapTdiSeq true probe.ones device.drPostscan.toNat)
  (dataOut, probe.pins (jtagtapReturnIdle 1))

def access (probe : Probe σ) : Access → Probe σ
  | .writeIr devIndex ir => jtagDevWriteIr devIndex ir probe
  | .shiftDr devIndex dataOut dataIn clockCycles => (jtagDevShiftDr devIndex dataOut dataIn clockCycles probe).2

end Access

/-- The calls of the handlers, from one device on. What a handler does to the chain is a list of
accesses. -/
def callHandlers (handler : Nat → List Access) : Nat → Nat → Probe σ → Probe σ
  | 0, _, probe => probe
  | more + 1, device, probe =>
    let handled := (findDescr (probe.jtagDevs device).jdIdcode).any DevDescr.handled
    callHandlers handler more (device + 1) (if handled then (handler device).foldl access probe else probe)

def clearedDevs (probe : Probe σ) : Nat → JtagDev := fun device =>
  if device < jtagMaxDevs then ⟨0#32, 0#32, 0#8, 0#8, 0#8, 0#8, 0#8⟩ else probe.jtagDevs device

/-- `jtag_scan` up to the handlers: the description of the chain. -/
def describeChain (fuel : Nat) (probe : Probe σ) : Option (Bool × Probe σ) :=
  let probe := { probe with jtagDevCount := 0, jtagDevs := clearedDevs probe }.pins jtagtapInit
  match jtagReadIdcodes probe with
  | (false, probe) => some (false, probe)
  | (true, probe) =>
    match jtagReadIrs fuel probe with
    | none => none
    | some (false, probe) => some (false, probe)
    | some (true, probe) =>
      let probe := (probe.pins fun chain => (jtagtapNext true true chain).2).pins (jtagtapReturnIdle 1)
      match jtagSanityCheck probe with
      | (false, probe) => some (false, probe)
      | (true, probe) => some (true, fillPostscan probe.jtagDevCount 0#8 probe)

def jtagScan (fuel : Nat) (handler : Nat → List Access) (probe : Probe σ) : Option (Bool × Probe σ) :=
  match describeChain fuel probe with
  | some (true, probe) =>
    let probe := callHandlers handler probe.jtagDevCount 0 probe
    some (decide (probe.jtagDevCount > 0), probe)
  | other => other

end BlackMagic.Jtag
