import BlackMagic.Jtag

/-! The data sequences of the JTAG pins, level by level: the two of the firmware (`jtagtap.c`), with a
delay in the clock and without, and the one for other platforms (`jtagtap_generic.c`). -/

namespace BlackMagic.Jtagtap
open Jtag

/-- The levels of the pins, and the mode and data at every rising edge of the clock. -/
structure Pins where
  tms : Bool
  tdi : Bool
  tck : Bool
  edges : List (Bool × Bool)

namespace Pins

def setTms (level : Bool) (pins : Pins) : Pins := { pins with tms := level }

def setTdi (level : Bool) (pins : Pins) : Pins := { pins with tdi := level }

def raiseTck (pins : Pins) : Pins :=
  if pins.tck then pins else { pins with tck := true, edges := pins.edges ++ [(pins.tms, pins.tdi)] }

def clearTck (pins : Pins) : Pins := { pins with tck := false }

end Pins

/-- Between two sequences the clock is low. -/
def resting (tms tdi : Bool) (edges : List (Bool × Bool)) : Pins := ⟨tms, tdi, false, edges⟩

structure Shift where
  pins : Pins
  value : Byte
  dataOut : Buffer

namespace Shift

def drive (f : Pins → Pins) (shift : Shift) : Shift := { shift with pins := f shift.pins }

def clear (shift : Shift) : Shift := shift.drive Pins.clearTck

/-- Gather one bit, and store the byte that it completes. -/
def gather (cycle : Nat) (tdo : Bool) (shift : Shift) : Shift :=
  let value := if tdo then shift.value ||| (1#8 <<< (cycle % 8)) else shift.value
  if cycle % 8 = 7 then { shift with value := 0#8, dataOut := shift.dataOut.set (cycle / 8) value }
  else { shift with value := value }

/-- Store the bits of a byte that was not completed. -/
def writeBack (clockCycles : Nat) (shift : Shift) : Shift :=
  if clockCycles % 8 ≠ 0 then { shift with dataOut := shift.dataOut.set ((clockCycles - 1) / 8) shift.value } else shift

end Shift

variable (tdo : List (Bool × Bool) → Bool) (finalTms : Bool) (dataIn : Buffer) (clockCycles : Nat)

def tmsAt (cycle : Nat) : Bool := decide (cycle + 1 ≥ clockCycles) && finalTms

/-- The part answers what it has seen so far. -/
def sample (cycle : Nat) (shift : Shift) : Shift := shift.gather cycle (tdo shift.pins.edges)

section ClkDelay

def clkDelayCycle (shift : Shift) (cycle : Nat) : Shift :=
  (sample tdo cycle (((shift.drive (.setTms (tmsAt finalTms clockCycles cycle))).drive
    (.setTdi (tdiBit dataIn cycle))).drive .raiseTck)).clear

def tdiTdoSeqClkDelay (shift : Shift) : Shift :=
  ((List.range clockCycles).foldl (clkDelayCycle tdo finalTms dataIn clockCycles) shift).writeBack clockCycles

def tdiSeqClkDelay (pins : Pins) : Pins :=
  (List.range clockCycles).foldl
    (fun pins cycle => (((pins.setTms (tmsAt finalTms clockCycles cycle)).setTdi (tdiBit dataIn cycle)).raiseTck).clearTck) pins

end ClkDelay

section NoDelay

/-- The clock stays high until the next cycle. -/
def noDelayCycle (shift : Shift) (cycle : Nat) : Shift :=
  sample tdo cycle (((shift.clear.drive (.setTdi (tdiBit dataIn cycle))).drive
    (.setTms (tmsAt finalTms clockCycles cycle))).drive .raiseTck)

def tdiTdoSeqNoDelay (shift : Shift) : Shift :=
  (((List.range clockCycles).foldl (noDelayCycle tdo finalTms dataIn clockCycles) shift).writeBack clockCycles).clear

def tdiSeqNoDelay (pins : Pins) : Pins :=
  ((List.range clockCycles).foldl
    (fun pins cycle => ((pins.clearTck.setTms (tmsAt finalTms clockCycles cycle)).setTdi (tdiBit dataIn cycle)).raiseTck)
    pins).clearTck

end NoDelay

section Firmware
variable (targetClkDivider : BitVec 32)

def jtagtapTdiTdoSeq (dataOut : Buffer) (pins : Pins) : Shift :=
  let shift : Shift := ⟨(pins.setTms false).setTdi false, 0#8, dataOut⟩
  if targetClkDivider ≠ 0xffffffff#32 then tdiTdoSeqClkDelay tdo finalTms dataIn clockCycles shift
  else tdiTdoSeqNoDelay tdo finalTms dataIn clockCycles shift

def jtagtapTdiSeq (pins : Pins) : Pins :=
  if targetClkDivider ≠ 0xffffffff#32 then tdiSeqClkDelay finalTms dataIn clockCycles (pins.setTms false)
  else tdiSeqNoDelay finalTms dataIn clockCycles (pins.setTms false)

end Firmware

section Generic

def jtagtapNext (tms tdi : Bool) (pins : Pins) : Bool × Pins :=
  let pins := ((pins.setTms tms).setTdi tdi).raiseTck
  (tdo pins.edges, pins.clearTck)

def genericCycle (shift : Shift) (cycle : Nat) : Shift :=
  let next := jtagtapNext tdo (tmsAt finalTms clockCycles cycle) (tdiBit dataIn cycle) shift.pins
  { shift with pins := next.2 }.gather cycle next.1

/-- A byte that is not completed is not stored. -/
def genericTdiTdoSeq (dataOut : Buffer) (pins : Pins) : Shift :=
  (List.range clockCycles).foldl (genericCycle tdo finalTms dataIn clockCycles) ⟨pins, 0#8, dataOut⟩

def genericTdiSeq (pins : Pins) : Pins :=
  (List.range clockCycles).foldl
    (fun pins cycle => (jtagtapNext tdo (tmsAt finalTms clockCycles cycle) (tdiBit dataIn cycle) pins).2) pins

end Generic

end BlackMagic.Jtagtap
