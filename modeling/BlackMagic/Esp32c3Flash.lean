import BlackMagic.Esp32c3
import Mathlib.Data.Nat.Bitwise

/-! Flash sessions of the ESP32-C3 (`esp32c3.c`): the SPI Flash behind the instruction cache, and what is invalidated in the cache
at the end of a session. An operation comes with what the Flash answers to each of its write enables. -/

namespace BlackMagic.Esp32c3Flash
open Esp32c3

def ibusFlashBase : BitVec 32 := 0x42000000
def extmemBase : BitVec 32 := 0x600c4000
def extmemIcacheSyncCtrl : BitVec 32 := extmemBase + 0x028
def extmemIcacheSyncAddr : BitVec 32 := extmemBase + 0x02c
def extmemIcacheSyncSize : BitVec 32 := extmemBase + 0x030
def extmemIcachePreloadCtrl : BitVec 32 := extmemBase + 0x034
def extmemIcachePreloadAddr : BitVec 32 := extmemBase + 0x038
def extmemIcachePreloadSize : BitVec 32 := extmemBase + 0x03c
def extmemIcacheInvalidate : BitVec 32 := 1
def extmemIcachePreload : BitVec 32 := 1

/-- The transactions that change the Flash, with the address that is sent and the number of bytes. -/
inductive SpiCommand where
  | sectorErase (address : BitVec 32)
  | pageProgram (address : BitVec 32) (length : Nat)
  deriving DecidableEq, Repr

/-- The Flash as it has been added to the target. -/
structure SpiFlash where
  start : BitVec 32
  blocksize : Nat
  positive : 0 < blocksize

/-- Addresses of the Flash have 24 bits; programming wraps inside a page. -/
def SpiCommand.touches (flash : SpiFlash) (address : BitVec 32) : SpiCommand → Prop
  | .sectorErase sent => (address - ibusFlashBase).toNat / flash.blocksize = sent.toNat % 2 ^ 24 / flash.blocksize
  | .pageProgram sent length => ∃ i < length, (address - ibusFlashBase).toNat =
      256 * (sent.toNat % 2 ^ 24 / 256) + (sent.toNat % 2 ^ 24 + i) % 256

/-- The target with the driver's data, all commands that the Flash has taken, and all ranges that have been invalidated in the
instruction cache. -/
structure Device where
  target : Target
  lastInvalidatedSector : BitVec 32
  commands : List SpiCommand
  invalidated : List (BitVec 32 × BitVec 32)

def runCommand (command : SpiCommand) (device : Device) : Device := { device with commands := device.commands ++ [command] }

section Erase

/-- The loop of an erase over its blocks, from block `k` on. -/
def eraseBlocks (flash : SpiFlash) (enabled : Nat → Bool) (start : BitVec 32) : Nat → Nat → Device → Bool × Device
  | 0, _, device => (true, device)
  | more + 1, k, device =>
    if enabled k then
      eraseBlocks flash enabled start more (k + 1)
        (runCommand (.sectorErase (start + BitVec.ofNat 32 (k * flash.blocksize))) device)
    else (false, device)

def spiFlashErase (flash : SpiFlash) (enabled : Nat → Bool) (addr : BitVec 32) (length : Nat) (device : Device) : Bool × Device :=
  let start := addr - flash.start
  let (result, device) := eraseBlocks flash enabled start ((length + flash.blocksize - 1) / flash.blocksize) 0 device
  if result then (true, { device with lastInvalidatedSector := addr + BitVec.ofNat 32 length }) else (false, device)

end Erase

section Write

/-- The loop of a write over its chunks, from chunk `k` on. -/
def writeChunks (enabled : Nat → Bool) (start : BitVec 32) (length : Nat) : Nat → Nat → Device → Bool × Device
  | 0, _, device => (true, device)
  | more + 1, k, device =>
    if enabled k then
      writeChunks enabled start length more (k + 1)
        (runCommand (.pageProgram (start + BitVec.ofNat 32 (k * 64)) (min (length - k * 64) 64)) device)
    else (false, device)

def spiFlashWrite (flash : SpiFlash) (enabled : Nat → Bool) (dest : BitVec 32) (length : Nat) (device : Device) : Bool × Device :=
  writeChunks enabled (dest - flash.start) length ((length + 63) / 64) 0 device

end Write

/-- A write of a word, which starts the invalidation if it is the one of its bit. -/
def memWrite32 (address value : BitVec 32) (device : Device) : Device :=
  { device with
    target := targetMemWrite32 address value device.target
    invalidated :=
      if address = extmemIcacheSyncCtrl ∧ value &&& extmemIcacheInvalidate ≠ 0 then
        device.invalidated ++ [(device.target.memory extmemIcacheSyncAddr, device.target.memory extmemIcacheSyncSize)]
      else device.invalidated }

def enterFlashMode (device : Device) : Device := { device with target := Esp32c3.enterFlashMode device.target }

def exitFlashMode (device : Device) : Device :=
  let regionLength := device.lastInvalidatedSector - ibusFlashBase
  let synced := memWrite32 extmemIcacheSyncCtrl extmemIcacheInvalidate
    (memWrite32 extmemIcacheSyncSize regionLength (memWrite32 extmemIcacheSyncAddr ibusFlashBase device))
  memWrite32 extmemIcachePreloadCtrl extmemIcachePreload
    (memWrite32 extmemIcachePreloadSize regionLength (memWrite32 extmemIcachePreloadAddr ibusFlashBase synced))

/-- An operation of a session. -/
inductive FlashOp where
  | erase (addr : BitVec 32) (length : Nat) (enabled : Nat → Bool)
  | write (dest : BitVec 32) (length : Nat) (enabled : Nat → Bool)

def runOp (flash : SpiFlash) (op : FlashOp) (device : Device) : Device :=
  match op with
  | .erase addr length enabled => (spiFlashErase flash enabled addr length device).2
  | .write dest length enabled => (spiFlashWrite flash enabled dest length device).2

def runOps (flash : SpiFlash) (ops : List FlashOp) (device : Device) : Device :=
  ops.foldl (fun device op => runOp flash op device) device

def runSession (flash : SpiFlash) (ops : List FlashOp) (device : Device) : Device :=
  exitFlashMode (runOps flash ops (enterFlashMode device))

end BlackMagic.Esp32c3Flash
