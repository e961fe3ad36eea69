import BlackMagic.Bytes
import BlackMagic.Lib.Polling
import BlackMagic.Lib.Words

/-! The non-volatile memory of the STM32L0 and STM32L1 (`stm32l0.c`): erasing program and data Flash, writing data Flash,
and the mass erase, over what the controller answers. -/

namespace BlackMagic.Stm32lx
open Lib.Polling Lib.Words

def nvmPecrErase : BitVec 32 := 1 <<< 9
def nvmPecrData : BitVec 32 := 1 <<< 4
def nvmPecrProg : BitVec 32 := 1 <<< 3
def nvmPecrPrglock : BitVec 32 := 1 <<< 1
def nvmSrBsy : BitVec 32 := 1 <<< 0
def nvmSrErrM : BitVec 32 := 1 <<< 8 ||| 1 <<< 9 ||| 1 <<< 10 ||| 1 <<< 16

/-- The erase routine of a region. -/
inductive Routine where
  | prog
  | data
  deriving DecidableEq, Repr

structure Flash where
  start : Nat
  length : Nat
  blocksize : Nat
  erase : Routine
  deriving DecidableEq, Repr

def stm32lAddFlash (addr length erasesize : Nat) (list : List Flash) : List Flash := ⟨addr, length, erasesize, .prog⟩ :: list

def stm32lAddEeprom (addr length : Nat) (list : List Flash) : List Flash := ⟨addr, length, 4, .data⟩ :: list

/-- The regions that the probe registers for a part. -/
def stm32l0Probe (partId : Nat) : Option (List Flash) :=
  if partId ∈ [0x416, 0x429, 0x427, 0x436, 0x437] then some (stm32lAddFlash 0x8000000 0x80000 0x100 [])
  else if partId ∈ [0x457, 0x425, 0x417, 0x447] then
    some (stm32lAddEeprom 0x8080000 0x1800 (stm32lAddFlash 0x8020000 0x10000 0x80 (stm32lAddFlash 0x8010000 0x10000 0x80
      (stm32lAddFlash 0x8000000 0x10000 0x80 []))))
  else none

/-- What a wait for the controller reads, what `target_check_error` says while it is busy, and what both are after that. -/
structure BusyWait where
  sr : Nat → BitVec 32
  checkError : Nat → Bool
  status : BitVec 32
  statusError : Bool

/-- So many polls of the wait; nothing if the controller is still busy then. -/
def nvmBusyWait (patience : Nat) (wait : BusyWait) : Option Bool :=
  (await (fun n =>
    if wait.sr n &&& nvmSrBsy = 0 then some true
    else if wait.checkError n then some false
    else none) patience 0).map fun ended => ended && !wait.statusError && wait.status &&& nvmSrErrM == 0

section Erase

/-- What the controller answers to an erase: the PECR after the keys, the PECR after it was set up, and the wait. -/
structure EraseAnswers where
  unlockedPecr : BitVec 32
  pecr : BitVec 32
  wait : BusyWait

def nvmProgDataUnlock (pecr : BitVec 32) : Bool := pecr &&& nvmPecrPrglock == 0

/-- The erases that the routines have in common: whether it succeeds, if it is over, and the addresses that are written to
trigger it. -/
def nvmErase (mode : BitVec 32) (patience : Nat) (answers : EraseAnswers) (blocksize addr length : Nat) :
    Option Bool × List Nat :=
  if !nvmProgDataUnlock answers.unlockedPecr then (some false, [])
  else if answers.pecr &&& mode ≠ mode then (some false, [])
  else
    (nvmBusyWait patience answers.wait,
      (List.range ((length + blocksize - 1) / blocksize)).map fun page => addr + page * blocksize)

def stm32lxNvmProgErase (patience : Nat) (answers : EraseAnswers) (flash : Flash) (addr length : Nat) :
    Option Bool × List Nat :=
  nvmErase (nvmPecrErase ||| nvmPecrProg) patience answers flash.blocksize addr length

def stm32lxNvmDataErase (patience : Nat) (answers : EraseAnswers) (flash : Flash) (addr length : Nat) :
    Option Bool × List Nat :=
  nvmErase (nvmPecrErase ||| nvmPecrData) patience answers flash.blocksize (addr &&& 0xfffffffc) length

/-- A call of an erase routine for a region, and what came of it. -/
structure Call where
  flash : Flash
  routine : Routine
  addr : Nat
  length : Nat
  result : Option Bool
  deriving DecidableEq, Repr

/-- The result of the loop over the regions, if it is over, and the erases on the way. The `bool` of the routine becomes an
`int` that is taken for an error code. -/
def massEraseLoop (patience : Nat) (answers : Nat → EraseAnswers) : Nat → List Flash → Option Bool × List Call
  | _, [] => (some true, [])
  | i, flash :: rest =>
    let result := (stm32lxNvmProgErase patience (answers i) flash flash.start flash.length).1
    let call : Call := ⟨flash, .prog, flash.start, flash.length, result⟩
    match result with
    | none => (none, [call])
    | some erased =>
      let result : Int := if erased then 1 else 0
      if result ≠ 0 then (some false, [call])
      else
        let later := massEraseLoop patience answers (i + 1) rest
        (later.1, call :: later.2)

def stm32lxMassErase (patience : Nat) (answers : Nat → EraseAnswers) (list : List Flash) : Option Bool × List Call :=
  massEraseLoop patience answers 0 list

end Erase

section DataWrite

/-- A word of the source, by its index, and where it is stored. -/
structure Store where
  address : Nat
  index : Nat
  deriving DecidableEq, Repr

/-- What the controller answers to a write: the PECR after the keys, an error after each word, and the wait. -/
structure WriteAnswers where
  unlockedPecr : BitVec 32
  checkError : Nat → Bool
  wait : BusyWait

/-- So many passes of the loop from an offset on: whether it got to the end, and the stores. -/
def dataWriteLoop (checkError : Nat → Bool) (dest : Nat) : Nat → Nat → Bool × List Store
  | 0, _ => (true, [])
  | words + 1, offset =>
    let store : Store := ⟨add32 dest offset, offset⟩
    if checkError offset then (false, [store])
    else
      let later := dataWriteLoop checkError dest words (offset + 4)
      (later.1, store :: later.2)

def stm32lxNvmDataWrite (patience : Nat) (answers : WriteAnswers) (dest length : Nat) : Option Bool × List Store :=
  if !nvmProgDataUnlock answers.unlockedPecr then (some false, [])
  else
    let done := dataWriteLoop answers.checkError dest ((length + 3) / 4) 0
    if !done.1 then (some false, done.2) else (nvmBusyWait patience answers.wait, done.2)

end DataWrite

end BlackMagic.Stm32lx
