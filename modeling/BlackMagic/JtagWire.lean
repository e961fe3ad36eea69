import BlackMagic.Jtag
import Mathlib.Data.Stream.Init

/-! The scan of a chain (`jtag_scan.c`) on any wire. Nothing is assumed of what is read from the
data pin, and the indices into the array of devices are recorded. -/

namespace BlackMagic.JtagWire
open Lib.Tap Lib.Words
open Jtag (JtagDev IrQuirks IrScan DevDescr Access tdiCycles storeTdo wordAt jtagDeviceGetQuirks findDescr jtagMaxDevs
  jtagMaxIrLen)

/-- What the probe is connected to: a clock with the mode and the data pin as given. -/
class Wire (ω : Type) where
  clock : ω → Bool → Bool → Bool × ω

/-- Whatever the pins do, the bits come as they come. -/
instance : Wire (Stream' Bool) := ⟨fun tdo _ _ => (tdo.head, tdo.tail)⟩

instance {σ : Type} : Wire (Chain σ) := ⟨Chain.clock⟩

variable {ω : Type} [Wire ω]

section Pins

def drive (wire : ω) : List (Bool × Bool) → List Bool × ω
  | [] => ([], wire)
  | (tms, tdi) :: rest =>
    let first := Wire.clock wire tms tdi
    let later := drive first.2 rest
    (first.1 :: later.1, later.2)

def jtagtapNext (tms tdi : Bool) (wire : ω) : Bool × ω := Wire.clock wire tms tdi

def jtagtapTmsSeq (tmsStates : BitVec 32) (clockCycles : Nat) (wire : ω) : ω :=
  (drive wire ((List.range clockCycles).map fun cycle => (tmsStates.getLsbD cycle, true))).2

def jtagtapTdiTdoSeq (dataOut : Buffer) (finalTms : Bool) (dataIn : Buffer) (clockCycles : Nat) (wire : ω) : Buffer × ω :=
  let driven := drive wire (tdiCycles finalTms dataIn clockCycles)
  (storeTdo driven.1 0 0#8 dataOut, driven.2)

def jtagtapTdiSeq (finalTms : Bool) (dataIn : Buffer) (clockCycles : Nat) (wire : ω) : ω :=
  (drive wire (tdiCycles finalTms dataIn clockCycles)).2

def jtagtapSoftReset : ω → ω := jtagtapTmsSeq 0x1f#32 6
def jtagtapShiftIr : ω → ω := jtagtapTmsSeq 0x03#32 4
def jtagtapShiftDr : ω → ω := jtagtapTmsSeq 0x01#32 3
def jtagtapReturnIdle (cycles : Nat) : ω → ω := jtagtapTmsSeq 0x01#32 (cycles + 1)

def jtagtapReset : ω → ω := jtagtapSoftReset

def jtagtapInit (wire : ω) : ω := jtagtapTmsSeq 0xe73c#32 16 (drive wire (List.replicate 51 (true, false))).2

end Pins

/-- The probe and its wire. Past the array of devices and past the eight bytes of `ones` lies
other memory. -/
structure Scanner (ω : Type) where
  wire : ω
  jtagDevs : Nat → JtagDev
  jtagDevCount : Nat
  beyondOnes : Nat → Byte
  /-- The indices into `jtag_devs`, in the order of their use. -/
  indices : List Nat

namespace Scanner

def ones (scanner : Scanner ω) : Buffer := fun byte => if byte < 8 then 0xff#8 else scanner.beyondOnes byte

def pins (scanner : Scanner ω) (sequence : ω → ω) : Scanner ω := { scanner with wire := sequence scanner.wire }

/-- Uses of the array. -/
def visit (scanner : Scanner ω) (devices : List Nat) : Scanner ω := { scanner with indices := scanner.indices ++ devices }

def setDev (scanner : Scanner ω) (device : Nat) (f : JtagDev → JtagDev) : Scanner ω :=
  { scanner.visit [device] with
    jtagDevs := fun other => if other = device then f (scanner.jtagDevs device) else scanner.jtagDevs other }

def failed (scanner : Scanner ω) : Bool × Scanner ω := (false, { scanner with jtagDevCount := 0 })

end Scanner

section Scan

def scanIdcodes : Nat → Nat → Scanner ω → Option Nat × Scanner ω
  | 0, _, scanner => (none, scanner)
  | more + 1, device, scanner =>
    let read := jtagtapTdiTdoSeq (fun _ => 0#8) false scanner.ones 32 scanner.wire
    let idcode := wordAt read.1
    let scanner := { scanner with wire := read.2 }
    if idcode = 0xffffffff#32 then (some device, scanner)
    else if device = jtagMaxDevs then (none, scanner)
    else scanIdcodes more (device + 1) (scanner.setDev device fun dev => { dev with jdIdcode := idcode })

def jtagReadIdcodes (scanner : Scanner ω) : Bool × Scanner ω :=
  let scanner := (scanner.pins jtagtapReset).pins jtagtapShiftDr
  match scanIdcodes (jtagMaxDevs + 1) 0 scanner with
  | (none, scanner) => scanner.failed
  | (some device, scanner) =>
    let scanner := (scanner.pins fun wire => (jtagtapNext true true wire).2).pins (jtagtapReturnIdle 1)
    (true, { scanner with jtagDevCount := device })

/-- The quirks of a device, by its identification in the array. -/
def quirksOf (scanner : Scanner ω) (device : Nat) : IrQuirks := jtagDeviceGetQuirks (scanner.jtagDevs device).jdIdcode

/-- The loop over the instruction registers, for as many bits as there is fuel: the answer, or
none yet. -/
def scanIrs : Nat → IrScan → Scanner ω → Option Bool × Scanner ω
  | 0, _, scanner => (none, scanner)
  | more + 1, scan, scanner =>
    if scan.irLen.toNat ≤ jtagMaxIrLen then
      let read := jtagtapNext false true scanner.wire
      let nextBit := read.1
      let scanner := { scanner with wire := read.2 }
      let quirks := scan.irQuirks
      if quirks.irLength ≠ 0#8 ∧ quirks.irValue.getLsbD scan.irLen.toNat ≠ nextBit then scanner.failed.map some id
      else
        let irLen := scan.irLen + 1#8
        if (quirks.irLength = 0#8 ∧ nextBit ∧ irLen > 1#8) ∨ irLen = quirks.irLength then
          if quirks.irLength = 0#8 ∧ irLen = 2#8 then (some true, scanner)
          else
            let overrun := if quirks.irLength ≠ 0#8 then 0#8 else 1#8
            let deviceIr := irLen - overrun
            let scanner := scanner.setDev scan.device fun dev =>
              { dev with irLen := deviceIr, irPrescan := BitVec.ofNat 8 scan.prescan, currentIr := 0xffffffff#32 }
            let device := scan.device + 1
            scanIrs more ⟨scan.prescan + deviceIr.toNat, device, overrun, quirksOf scanner device⟩ (scanner.visit [device])
        else scanIrs more { scan with irLen := irLen } scanner
    else scanner.failed.map some id

def jtagReadIrs (fuel : Nat) (scanner : Scanner ω) : Option Bool × Scanner ω :=
  let scanner := scanner.pins jtagtapShiftIr
  scanIrs fuel ⟨0, 0, 0#8, quirksOf scanner 0⟩ (scanner.visit [0])

def countBypassed : Nat → Nat → Scanner ω → Nat × Scanner ω
  | 0, device, scanner => (device, scanner)
  | more + 1, device, scanner =>
    let read := jtagtapNext false true scanner.wire
    let scanner := { scanner with wire := read.2 }
    if read.1 then (device, scanner)
    else
      countBypassed more (device + 1) (scanner.setDev device fun dev =>
        { dev with
          drPrescan := BitVec.ofNat 8 device
          drPostscan := BitVec.ofNat 8 scanner.jtagDevCount - BitVec.ofNat 8 device - 1#8 })

def jtagSanityCheck (scanner : Scanner ω) : Bool × Scanner ω :=
  let scanner := scanner.pins jtagtapShiftDr
  let (device, scanner) := countBypassed (scanner.jtagDevCount + 1) 0 scanner
  if device ≠ scanner.jtagDevCount then scanner.failed
  else
    let scanner := (scanner.pins fun wire => (jtagtapNext true true wire).2).pins (jtagtapReturnIdle 1)
    (scanner.jtagDevCount ≠ 0, scanner)

def fillPostscan : Nat → BitVec 8 → Scanner ω → Scanner ω
  | 0, _, scanner => scanner
  | idx + 1, postscan, scanner =>
    fillPostscan idx (postscan + (scanner.jtagDevs idx).irLen)
      (scanner.setDev idx fun dev => { dev with irPostscan := postscan })

end Scan

section Access

def bypassOthers (scanner : Scanner ω) : Scanner ω :=
  { scanner.visit (List.range scanner.jtagDevCount) with
    jtagDevs := fun device =>
      if device < scanner.jtagDevCount then { scanner.jtagDevs device with currentIr := 0xffffffff#32 }
      else scanner.jtagDevs device }

def jtagDevWriteIr (devIndex : Nat) (ir : BitVec 32) (scanner : Scanner ω) : Scanner ω :=
  let scanner := scanner.visit [devIndex]
  if ir = (scanner.jtagDevs devIndex).currentIr then scanner
  else
    let scanner := (bypassOthers scanner).setDev devIndex fun dev => { dev with currentIr := ir }
    let device := scanner.jtagDevs devIndex
    let scanner := scanner.pins jtagtapShiftIr
    let scanner := scanner.pins (jtagtapTdiSeq false scanner.ones device.irPrescan.toNat)
    let scanner := scanner.pins (jtagtapTdiSeq (device.irPostscan = 0#8) (byteOf ir) device.irLen.toNat)
    let scanner := scanner.pins (jtagtapTdiSeq true scanner.ones device.irPostscan.toNat)
    scanner.pins (jtagtapReturnIdle 1)

def jtagDevShiftDr (devIndex : Nat) (dataOut : Option Buffer) (dataIn : Buffer) (clockCycles : Nat) (scanner : Scanner ω) :
    Option Buffer × Scanner ω :=
  let scanner := scanner.visit [devIndex]
  let device := scanner.jtagDevs devIndex
  let scanner := scanner.pins jtagtapShiftDr
  let scanner := scanner.pins (jtagtapTdiSeq false scanner.ones device.drPrescan.toNat)
  let finalTms := device.drPostscan = 0#8
  let (dataOut, scanner) :=
    match dataOut with
    | some dataOut =>
      let read := jtagtapTdiTdoSeq dataOut finalTms dataIn clockCycles scanner.wire
      (some read.1, { scanner with wire := read.2 })
    | none => (none, scanner.pins (jtagtapTdiSeq finalTms dataIn clockCycles))
  let scanner := scanner.pins (jtagtapTdiSeq true scanner.ones device.drPostscan.toNat)
  (dataOut, scanner.pins (jtagtapReturnIdle 1))

def access (scanner : Scanner ω) : Access → Scanner ω
  | .writeIr devIndex ir => jtagDevWriteIr devIndex ir scanner
  | .shiftDr devIndex dataOut dataIn clockCycles => (jtagDevShiftDr devIndex dataOut dataIn clockCycles scanner).2

end Access

/-- The device that an access addresses. -/
def devIndex : Access → Nat
  | .writeIr devIndex _ => devIndex
  | .shiftDr devIndex _ _ _ => devIndex

/-- The handlers of a chain: each addresses the device it is called for. -/
abbrev Handlers : Type := (device : Nat) → List { request : Access // devIndex request = device }

def callHandlers (handler : Handlers) : Nat → Nat → Scanner ω → Scanner ω
  | 0, _, scanner => scanner
  | more + 1, device, scanner =>
    let scanner := scanner.visit [device]
    let handled := (findDescr (scanner.jtagDevs device).jdIdcode).any DevDescr.handled
    callHandlers handler more (device + 1)
      (if handled then ((handler device).map Subtype.val).foldl access scanner else scanner)

def clearedDevs (devs : Nat → JtagDev) : Nat → JtagDev := fun device =>
  if device < jtagMaxDevs then ⟨0#32, 0#32, 0#8, 0#8, 0#8, 0#8, 0#8⟩ else devs device

/-- `jtag_scan` up to the handlers. -/
def describeChain (fuel : Nat) (scanner : Scanner ω) : Option Bool × Scanner ω :=
  let scanner := { scanner with jtagDevCount := 0, jtagDevs := clearedDevs scanner.jtagDevs }.pins jtagtapInit
  match jtagReadIdcodes scanner with
  | (false, scanner) => (some false, scanner)
  | (true, scanner) =>
    match jtagReadIrs fuel scanner with
    | (none, scanner) => (none, scanner)
    | (some false, scanner) => (some false, scanner)
    | (some true, scanner) =>
      let scanner := (scanner.pins fun wire => (jtagtapNext true true wire).2).pins (jtagtapReturnIdle 1)
      match jtagSanityCheck scanner with
      | (false, scanner) => (some false, scanner)
      | (true, scanner) => (some true, fillPostscan scanner.jtagDevCount 0#8 scanner)

def jtagScan (fuel : Nat) (handler : Handlers) (scanner : Scanner ω) : Option Bool × Scanner ω :=
  match describeChain fuel scanner with
  | (some true, scanner) =>
    let scanner := callHandlers handler scanner.jtagDevCount 0 scanner
    (some (decide (scanner.jtagDevCount > 0)), scanner)
  | other => other

end BlackMagic.JtagWire
