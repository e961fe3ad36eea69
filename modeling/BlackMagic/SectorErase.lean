import BlackMagic.Lib.Polling
import BlackMagic.Lib.Words

/-! The sector erases of the STM32G0 (`stm32g0.c`) and the STM32H5 (`stm32h5.c`): the regions that their probes register, and
the erase commands that the two routines give. -/

namespace BlackMagic.SectorErase
open Lib.Polling Lib.Words

/-- The bank bit and the page or sector number of an erase command, as they are put into the control register. -/
structure Erase where
  bank2 : Bool
  number : Nat
  deriving DecidableEq, Repr

structure Flash where
  start : Nat
  length : Nat
  blocksize : Nat
  bankAndSectorCount : BitVec 32
  deriving DecidableEq, Repr

structure Part where
  partId : Nat
  list : List Flash
  deriving DecidableEq, Repr

/-- What a wait reads from the status register, and what `target_check_error` says after each read. -/
structure Polls where
  sr : Nat → BitVec 32
  checkError : Nat → Bool

section Stm32g0

def flashStart : Nat := 0x08000000
def flashPageSize : Nat := 0x800
def flashBank2StartPage : Nat := 256
def flashOtpStart : Nat := 0x1fff7000
def flashOtpSize : Nat := 0x400
def flashOtpBlocksize : Nat := 0x8
def stm32g0bC : Nat := 0x467
def flashSrBsyMask : BitVec 32 := 1 <<< 17 ||| 1 <<< 16
def flashSrErrorMask : BitVec 32 := 0xc3fa

/-- The part, by what the debug port says, the ID code and the size that the device gives. -/
def stm32g0Probe (partId : Nat) (idcode : BitVec 32) (flashMemorySize : BitVec 16) : Option Part :=
  let part := fun partId size =>
    some ⟨partId, [⟨flashOtpStart, flashOtpSize, flashOtpBlocksize, 0⟩, ⟨flashStart, size, flashPageSize, 0⟩]⟩
  let devId := (idcode &&& 0xfff).toNat
  if partId = 0x466 then
    if devId = 0x466 then part devId (64 * 1024)
    else if devId = 0x443 then part devId (32 * 1024)
    else if devId = 0x453 then part devId (32 * 1024)
    else none
  else if partId = 0x456 then part partId (64 * 1024)
  else if partId = 0x460 then part partId (128 * 1024)
  else if partId = stm32g0bC then part partId (flashMemorySize.toNat * 1024)
  else none

def stm32g0WaitBusy (patience : Nat) (polls : Polls) : Option Bool :=
  await (fun n =>
    if polls.sr n &&& flashSrBsyMask = 0 then some true else if polls.checkError n then some false else none) patience 0

def stm32g0Bank1EndPage (partId : Nat) (f : Flash) : Nat :=
  if partId = stm32g0bC then sub32 (f.length / 2) 1 / f.blocksize else flashBank2StartPage - 1

/-- The commands for so many pages; pages past the first bank that are not yet in the second are skipped. -/
def stm32g0Pages (bank1EndPage : Nat) : Nat → Nat → List Erase
  | 0, _ => []
  | pages + 1, page =>
    let page := if page < flashBank2StartPage ∧ bank1EndPage < page then flashBank2StartPage else page
    ⟨decide (flashBank2StartPage ≤ page), page⟩ :: stm32g0Pages bank1EndPage pages (page + 1)

/-- The answers: to the wait for the controller, to those for each page, and the status at the end. -/
structure Stm32g0Answers where
  ready : Polls
  page : Nat → Polls
  status : BitVec 32

def stm32g0FlashErase (patience : Nat) (answers : Stm32g0Answers) (partId : Nat) (f : Flash) (addr len : Nat) :
    Option Bool × List Erase :=
  match stm32g0WaitBusy patience answers.ready with
  | some true =>
    if flashOtpStart ≤ addr then (some true, [])
    else
      let pagesToErase := sub32 len 1 / f.blocksize + 1
      let page := sub32 addr f.start / f.blocksize
      let erased := issue (fun i => stm32g0WaitBusy patience (answers.page i)) 0
        (stm32g0Pages (stm32g0Bank1EndPage partId f) pagesToErase page)
      match erased.1 with
      | some true => (some (answers.status &&& flashSrErrorMask == 0), erased.2)
      | other => (other, erased.2)
  | other => (other, [])

end Stm32g0

section Stm32h5

def sectorSize : Nat := 0x2000
def statusBusy : BitVec 32 := 1 <<< 0
def statusEop : BitVec 32 := 1 <<< 16
def statusErrorMask : BitVec 32 := 0x00fc0000
def ctrlBank1 : BitVec 32 := 0 <<< 31
def ctrlBank2 : BitVec 32 := 1 <<< 31
def bankMask : BitVec 32 := 0x80000000
def idStm32h5xx : Nat := 0x484
def idStm32h503 : Nat := 0x474

def stm32h5Probe (partno : Nat) : Option Part :=
  if partno = idStm32h5xx then
    some ⟨partno, [⟨0x08100000, 0x100000, sectorSize, 128 ||| ctrlBank2⟩, ⟨0x08000000, 0x100000, sectorSize, 128 ||| ctrlBank1⟩]⟩
  else if partno = idStm32h503 then
    some ⟨partno, [⟨0x08010000, 0x10000, sectorSize, 8 ||| ctrlBank2⟩, ⟨0x08000000, 0x10000, sectorSize, 8 ||| ctrlBank1⟩]⟩
  else none

def stm32h5FlashWaitComplete (patience : Nat) (polls : Polls) : Option Bool :=
  await (fun n =>
    if polls.checkError n then some false
    else if polls.sr n &&& statusEop ≠ 0 ∨ polls.sr n &&& statusBusy = 0 then some (polls.sr n &&& statusErrorMask == 0)
    else none) patience 0

/-- So many sectors in turn, with what the control register has room for of each number. -/
def stm32h5Sectors (bank2 : Bool) : Nat → Nat → List Erase
  | 0, _ => []
  | count + 1, sector => ⟨bank2, sector &&& 0x7f⟩ :: stm32h5Sectors bank2 count (sector + 1)

def stm32h5FlashErase (patience : Nat) (answers : Nat → Polls) (flash : Flash) (addr len : Nat) :
    Option Bool × List Erase :=
  let start := sub32 flash.start addr
  let bank := flash.bankAndSectorCount &&& bankMask
  let endSector := sub32 (add32 start len) 1 / sectorSize
  let beginSector := start / sectorSize
  issue (fun i => stm32h5FlashWaitComplete patience (answers i)) 0
    (stm32h5Sectors (bank != 0) (endSector + 1 - beginSector) beginSector)

end Stm32h5

end BlackMagic.SectorErase
