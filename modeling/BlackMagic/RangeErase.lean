import BlackMagic.Bytes
import BlackMagic.Lib.Polling
import BlackMagic.Lib.Words

/-! Erases that commands ask for over a whole range: those of the MSP432 (`msp432p4.c`) and of SPI Flash behind the RP2040
(`spi.c`, `rp.c`). -/

namespace BlackMagic.RangeErase
open Lib.Polling Lib.Words

section Msp432

def sectorSize : Nat := 0x1000

structure Msp432Flash where
  start : Nat
  length : Nat
  deriving DecidableEq, Repr

/-- A call of the erase routine in ROM: what the protection register holds during it, and the address. -/
structure RomErase where
  protection : BitVec 32
  addr : Nat
  deriving DecidableEq, Repr

/-- What the protection register holds before a sector is erased, and what the routine leaves in R0. -/
structure SectorAnswer where
  oldMask : BitVec 32
  r0 : BitVec 32

def msp432SectorUnprotect (mf : Msp432Flash) (oldMask : BitVec 32) (addr : Nat) : BitVec 32 :=
  ~~~((1 : BitVec 32) <<< (sub32 addr mf.start / sectorSize)) &&& oldMask

def msp432SectorErase (f : Msp432Flash) (answer : SectorAnswer) (addr : Nat) : Bool × RomErase :=
  (answer.r0 != 0, ⟨msp432SectorUnprotect f answer.oldMask addr, addr⟩)

/-- Up to so many passes of the loop, from the `i`-th erase on. -/
def msp432FlashErase (f : Msp432Flash) (answers : Nat → SectorAnswer) (addr : Nat) :
    Nat → Nat → Nat → Option (Bool × List RomErase)
  | 0, _, _ => none
  | passes + 1, i, len =>
    if len = 0 then some (true, [])
    else
      let erased := msp432SectorErase f (answers i) addr
      let left := sub32 len sectorSize
      let left := if sectorSize < left then sub32 left sectorSize else 0
      match msp432FlashErase f answers addr passes (i + 1) left with
      | some later => some (erased.1 && later.1, erased.2 :: later.2)
      | none => none

end Msp432

section Spi

structure SpiRegion where
  start : Nat
  blocksize : Nat
  sectorEraseOpcode : Byte
  deriving DecidableEq, Repr

inductive SpiCommand where
  | writeEnable
  | sectorErase (opcode : Byte) (address : Nat)
  deriving DecidableEq, Repr

/-- The status after the write enable, and at each poll after the erase. -/
structure SpiAnswers where
  enabled : Byte
  status : Nat → Byte

def spiFlashStatusBusy : Byte := 0x01
def spiFlashStatusWriteEnabled : Byte := 0x02

def bmpSpiFlashErase (patience : Nat) (answers : SpiAnswers) (flash : SpiRegion) (addr : Nat) (_length : Nat) :
    Option Bool × List SpiCommand :=
  if answers.enabled &&& spiFlashStatusWriteEnabled = 0 then (some false, [.writeEnable])
  else
    (await (fun n => if answers.status n &&& spiFlashStatusBusy = 0 then some true else none) patience 0,
      [.writeEnable, .sectorErase flash.sectorEraseOpcode (sub32 addr flash.start)])

/-- The start and the length that the arguments of the command ask for. -/
def rangeOf (flash : SpiRegion) : List Nat → Option (Nat × Nat)
  | [start, length] => some (start, length)
  | [length] => some (flash.start, length)
  | _ => none

/-- With what the driver says of the change to and from the mode in which the Flash takes commands. -/
def rpCmdEraseSector (patience : Nat) (answers : SpiAnswers) (prepared resumed : Bool) (flash : SpiRegion)
    (args : List Nat) : Option Bool × List SpiCommand :=
  match rangeOf flash args with
  | some (start, length) =>
    let erased := bmpSpiFlashErase patience answers flash start length
    (erased.1.map fun result => prepared && result && resumed, erased.2)
  | none => (some false, [])

end Spi

end BlackMagic.RangeErase
